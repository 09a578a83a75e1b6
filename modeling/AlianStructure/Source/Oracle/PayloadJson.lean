import Mathlib.Data.List.Sort
import AlianStructure.Library.JsonText

/-!
# Payload objects and the jsonb column

Source: src/blockchain/oracle/entities/signed-payload.entity.ts:59-63. An object enumerates its
index keys first, in ascending order, and then the others as they were added; the column returns
them shorter keys first, then bytewise.
-/
namespace AlianStructure.Source.Oracle
open Library.JsonText

/-- The array index that a key is, if it is one. -/
def indexOf (key : String) : Option Nat :=
  let n := Nat.ofDigitChars 10 key.toList 0
  if Nat.toDigits 10 n = key.toList ∧ n < 2 ^ 32 - 1 then some n else none

def isIndex (key : String) : Bool := (indexOf key).isSome

def indexBefore (a b : String) : Prop := (indexOf a).getD 0 ≤ (indexOf b).getD 0

instance : DecidableRel indexBefore := fun _ _ => Nat.decLe _ _

/-- The length in bytes, and the code points, whose order is that of the bytes. -/
def byteLength (key : String) : Nat := (key.toList.map Char.utf8Size).sum

def codePoints (key : String) : List Nat := key.toList.map Char.toNat

/-- Shorter keys first, then bytewise. -/
def storedBefore (a b : String) : Prop :=
  byteLength a < byteLength b ∨ (byteLength a = byteLength b ∧ List.le (codePoints a) (codePoints b))

instance : DecidableRel storedBefore := fun _ _ => inferInstanceAs (Decidable (_ ∨ _))

/-- The members of an object in the order in which it enumerates them. -/
def enumerate (members : Members) : Members :=
  (members.filter fun member => isIndex member.1).insertionSort
      (fun a b => indexBefore a.1 b.1) ++
    members.filter fun member => ! isIndex member.1

/-- The members of an object after it was stored and read. -/
def storedMembers (members : Members) : Members :=
  enumerate (members.insertionSort fun a b => storedBefore a.1 b.1)

theorem enumerate_perm (members : Members) : (enumerate members).Perm members := by
  have sorted : ((members.filter fun member => isIndex member.1).insertionSort
      fun a b => indexBefore a.1 b.1).Perm (members.filter fun member => isIndex member.1) :=
    List.perm_insertionSort _ _
  have whole := List.filter_append_perm (fun member : String × Json => isIndex member.1) members
  unfold enumerate
  exact (List.Perm.append sorted (List.Perm.refl _)).trans whole

/-- The keys of an object as it enumerates them. -/
structure Enumerated (keys : List String) : Prop where
  once : keys.Nodup
  indices : (keys.filter isIndex).Pairwise indexBefore
  first : keys.Pairwise fun a b => isIndex b = true → isIndex a = true

/-- The keys that are no indices stand as the column returns them. -/
def StorageOrder (keys : List String) : Prop :=
  (keys.filter fun key => ! isIndex key).Pairwise storedBefore

/-- An object that a payload can be. -/
structure PayloadObject where
  members : Members
  enumerated : (Json.object members).Everywhere Enumerated

def PayloadObject.json (payload : PayloadObject) : Json := .object payload.members

/-- The value that the column returns for an object. -/
def PayloadObject.stored (payload : PayloadObject) : Json := payload.json.rearrange storedMembers

theorem indexOf_digits {key : String} {n : Nat} (isIndexOf : indexOf key = some n) :
    Nat.toDigits 10 n = key.toList := by
  simp only [indexOf] at isIndexOf
  split at isIndexOf
  next canonical =>
    cases isIndexOf
    exact canonical.1
  next => cases isIndexOf

/-- Two index keys in both orders are one. -/
theorem index_antisymm {a b : String} (indexA : isIndex a = true) (indexB : isIndex b = true)
    (forth : indexBefore a b) (back : indexBefore b a) : a = b := by
  obtain ⟨n, isN⟩ := Option.isSome_iff_exists.mp indexA
  obtain ⟨m, isM⟩ := Option.isSome_iff_exists.mp indexB
  simp only [indexBefore, isN, isM, Option.getD_some] at forth back
  obtain rfl : n = m := Nat.le_antisymm forth back
  rw [← String.toList_inj, ← indexOf_digits isN, ← indexOf_digits isM]

theorem storedBefore_total (a b : String) : storedBefore a b ∨ storedBefore b a := by
  unfold storedBefore
  rcases Nat.lt_trichotomy (byteLength a) (byteLength b) with shorter | same | longer
  · exact Or.inl (Or.inl shorter)
  · rcases List.le_total (codePoints a) (codePoints b) with before | after
    · exact Or.inl (Or.inr ⟨same, before⟩)
    · exact Or.inr (Or.inr ⟨same.symm, after⟩)
  · exact Or.inr (Or.inl longer)

theorem storedBefore_trans {a b c : String} (first : storedBefore a b) (second : storedBefore b c) :
    storedBefore a c := by
  unfold storedBefore at *
  rcases first with shorter | ⟨same, before⟩ <;> rcases second with shorter' | ⟨same', before'⟩
  · exact Or.inl (by omega)
  · exact Or.inl (by omega)
  · exact Or.inl (by omega)
  · exact Or.inr ⟨same.trans same', List.le_trans before before'⟩

theorem storedBefore_antisymm {a b : String} (forth : storedBefore a b) (back : storedBefore b a) : a = b := by
  unfold storedBefore at *
  have points : codePoints a = codePoints b := by
    rcases forth with shorter | ⟨_, before⟩ <;> rcases back with longer | ⟨_, after⟩
    · omega
    · omega
    · omega
    · exact List.le_antisymm before after
  rw [← String.toList_inj]
  exact List.map_injective_iff.mpr (fun _ _ same => Char.toNat_inj.mp same) points

instance : Std.Total fun a b : String × Json => storedBefore a.1 b.1 :=
  ⟨fun a b => storedBefore_total a.1 b.1⟩

instance : IsTrans (String × Json) fun a b => storedBefore a.1 b.1 :=
  ⟨fun _ _ _ => storedBefore_trans⟩

instance : Std.Total fun a b : String × Json => indexBefore a.1 b.1 :=
  ⟨fun _ _ => Nat.le_total _ _⟩

instance : IsTrans (String × Json) fun a b => indexBefore a.1 b.1 :=
  ⟨fun _ _ _ => Nat.le_trans⟩

theorem filter_keysOf (p : String → Bool) (members : Members) :
    (keysOf members).filter p = keysOf (members.filter fun member => p member.1) :=
  List.filter_map

/-- A list in which a property never comes up again once it is missing. -/
theorem filter_append_filter {α : Type} {p : α → Bool} : ∀ {l : List α},
    l.Pairwise (fun a b => p b = true → p a = true) →
      (l.filter p ++ l.filter fun a => ! p a) = l
  | [], _ => rfl
  | a :: l, ordered => by
    obtain ⟨first, rest⟩ := List.pairwise_cons.mp ordered
    have later := filter_append_filter rest
    by_cases here : p a = true
    · simpa [List.filter_cons, here] using later
    · have missing : ∀ b ∈ l, p b = false := fun b member => by
        simpa using fun holds => here (first b member holds)
      have none : l.filter p = [] := List.filter_eq_nil_iff.mpr fun b member => by
        simp [missing b member]
      have all : (l.filter fun b => ! p b) = l := List.filter_eq_self.mpr fun b member => by
        simp [missing b member]
      simp [here, none, all]

/-- An object whose keys are in storage order comes back as it was. -/
theorem storedMembers_keeps {members : Members} (enumerated : Enumerated (keysOf members))
    (inOrder : StorageOrder (keysOf members)) : storedMembers members = members := by
  have one : ∀ a ∈ members, ∀ b ∈ members, a.1 = b.1 → a = b := fun a inA b inB same =>
    List.inj_on_of_nodup_map enumerated.once inA inB same
  have perm := List.perm_insertionSort (fun a b : String × Json => storedBefore a.1 b.1) members
  have indices : ((members.insertionSort fun a b => storedBefore a.1 b.1).filter
        fun member => isIndex member.1).insertionSort (fun a b => indexBefore a.1 b.1) =
      members.filter fun member => isIndex member.1 := by
    have same := (List.perm_insertionSort (fun a b : String × Json => indexBefore a.1 b.1) _).trans
      (perm.filter fun member => isIndex member.1)
    refine same.eq_of_pairwise (fun a b inA inB forth back => ?_)
      (List.pairwise_insertionSort _ _) ?_
    · obtain ⟨memberA, indexA⟩ := List.mem_filter.mp (same.subset inA)
      obtain ⟨memberB, indexB⟩ := List.mem_filter.mp inB
      exact one a memberA b memberB (index_antisymm indexA indexB forth back)
    · have sorted := enumerated.indices
      rw [filter_keysOf] at sorted
      exact List.pairwise_map.mp sorted
  have names : ((members.insertionSort fun a b => storedBefore a.1 b.1).filter
        fun member => ! isIndex member.1) = members.filter fun member => ! isIndex member.1 := by
    have same := perm.filter fun member => ! isIndex member.1
    refine same.eq_of_pairwise (fun a b inA inB forth back => ?_)
      ((List.pairwise_insertionSort _ _).filter _) ?_
    · obtain ⟨memberA, _⟩ := List.mem_filter.mp (same.subset inA)
      obtain ⟨memberB, _⟩ := List.mem_filter.mp inB
      exact one a memberA b memberB (storedBefore_antisymm forth back)
    · have sorted : (keysOf (members.filter fun member => ! isIndex member.1)).Pairwise
          storedBefore := by
        rw [← filter_keysOf fun key => ! isIndex key]
        exact inOrder
      exact List.pairwise_map.mp sorted
  unfold storedMembers enumerate
  rw [indices, names]
  exact filter_append_filter (List.pairwise_map.mp enumerated.first)

/-- What comes back has its keys in storage order. -/
theorem storedMembers_ordered (members : Members) : StorageOrder (keysOf (storedMembers members)) := by
  unfold StorageOrder storedMembers enumerate
  rw [filter_keysOf, List.filter_append]
  have noIndex : ((((members.insertionSort fun a b => storedBefore a.1 b.1).filter
      fun member => isIndex member.1).insertionSort fun a b => indexBefore a.1 b.1).filter
        fun member => ! isIndex member.1) = [] := by
    refine List.filter_eq_nil_iff.mpr fun member isMember => ?_
    have indexed := (List.mem_filter.mp ((List.perm_insertionSort _ _).subset isMember)).2
    simp [indexed]
  rw [noIndex, List.nil_append, List.filter_filter]
  simp only [Bool.and_self]
  refine List.pairwise_map.mpr ?_
  exact (List.pairwise_insertionSort _ _).filter _

theorem storedMembers_arranges : Arranges storedMembers Enumerated StorageOrder where
  keeps _ enumerated inOrder := storedMembers_keeps enumerated inOrder
  orders := storedMembers_ordered

/-- A payload keeps its text when it is stored exactly when every object in it has its keys in
storage order. -/
theorem stringify_stored (payload : PayloadObject) :
    payload.stored.stringify = payload.json.stringify ↔ payload.json.Everywhere StorageOrder := by
  rw [← rearrange_eq_iff storedMembers_arranges payload.json payload.enumerated]
  exact stringify_injective.eq_iff

end AlianStructure.Source.Oracle
