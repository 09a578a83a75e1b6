import AlianStructure.Source.Cache.CacheKeyGenerator

/-!
# What a cache key tells of its arguments

Source: src/common/cache/cache-key.generator.ts:35-93, cacheable.decorator.ts:79-120. Two lists of arguments have one key
when what is serialised of them is equal up to the order of keys. Members `__proto__` are not serialised, and numbers
that are too large are serialised as null.
-/
namespace AlianStructure.Guarantees.CacheKeys
open Library.JsonText
open Source.Cache CacheKeyGenerator
open Source.Audit (unitsBefore ordered_unique)
open Source.Oracle (enumerate enumerate_perm)

mutual

def Same : JsonValue → JsonValue → Prop
  | .null, .null => True
  | .bool value, .bool other => value = other
  | .number value, .number other => value = other
  | .string text, .string other => text = other
  | .array items, .array others => SameItems items others
  | .object members, .object others =>
    (members.map Prod.fst).Perm (others.map Prod.fst) ∧ SameMembers members others
  | _, _ => False

def SameItems : List JsonValue → List JsonValue → Prop
  | [], [] => True
  | item :: items, other :: others => Same item other ∧ SameItems items others
  | _, _ => False

/-- Members are among others. -/
def SameMembers : List (String × JsonValue) → List (String × JsonValue) → Prop
  | [], _ => True
  | member :: rest, others => SameMember member others ∧ SameMembers rest others

def SameMember : String × JsonValue → List (String × JsonValue) → Prop
  | (key, value), others => ∃ other, others.lookup key = some other ∧ Same value other

end

mutual

/-- A value without its members `__proto__`, and with null for the numbers that are too large. -/
def kept : JsonValue → JsonValue
  | .null | .number (.infinite _) => .null
  | .bool value => .bool value
  | .number (.finite text) => .number (.finite text)
  | .string text => .string text
  | .array items => .array (keptItems items)
  | .object members => .object (keptMembers members)

def keptItems : List JsonValue → List JsonValue
  | [] => []
  | item :: rest => kept item :: keptItems rest

def keptMembers : List (String × JsonValue) → List (String × JsonValue)
  | [] => []
  | member :: rest => keptMember member ++ keptMembers rest

def keptMember : String × JsonValue → List (String × JsonValue)
  | (key, value) => if key = "__proto__" then [] else [(key, kept value)]

end

mutual

/-- A value with no member `__proto__` and no number that is too large. -/
def Lossless : JsonValue → Prop
  | .number (.infinite _) => False
  | .array items => LosslessItems items
  | .object members => "__proto__" ∉ members.map Prod.fst ∧ LosslessMembers members
  | .null | .bool _ | .number (.finite _) | .string _ => True

def LosslessItems : List JsonValue → Prop
  | [] => True
  | item :: rest => Lossless item ∧ LosslessItems rest

def LosslessMembers : List (String × JsonValue) → Prop
  | [] => True
  | member :: rest => LosslessMember member ∧ LosslessMembers rest

def LosslessMember : String × JsonValue → Prop
  | (_, value) => Lossless value

end

section Members

/-- Two lists with different keys have the same entries when they have the same keys and find the same under each. -/
theorem perm_iff_lookup {β : Type} {entries others : List (String × β)} (unique : (entries.map Prod.fst).Nodup)
    (others_unique : (others.map Prod.fst).Nodup) :
    entries.Perm others ↔ (entries.map Prod.fst).Perm (others.map Prod.fst) ∧
      ∀ entry ∈ entries, others.lookup entry.1 = some entry.2 := by
  have one : entries.Nodup := unique.of_map
  constructor
  · intro perm
    refine ⟨perm.map Prod.fst, fun entry member => ?_⟩
    obtain ⟨key, value⟩ := entry
    have listed : (key, value) ∈ others := perm.subset member
    cases found : others.lookup key with
    | none => exact absurd (List.lookup_eq_none_iff.mp found _ listed) (by simp)
    | some other =>
      obtain ⟨before, after, split, _⟩ := List.lookup_eq_some_iff.mp found
      have inside : (key, other) ∈ others := by simp [split]
      have same := List.inj_on_of_nodup_map others_unique inside listed rfl
      exact congrArg (fun entry : String × β => some entry.2) same
  · rintro ⟨keys, found⟩
    have subset : entries ⊆ others := fun entry member => by
      obtain ⟨before, after, split, _⟩ := List.lookup_eq_some_iff.mp (found entry member)
      simp [split]
    have lengths : others.length ≤ entries.length := by
      have same := keys.length_eq
      rw [List.length_map, List.length_map] at same
      exact same.ge
    exact (List.subperm_of_subset one subset).perm_of_length_le lengths

/-- The members other than `__proto__`. -/
def ownMembers (members : Members) : Members := members.filter fun member => decide (member.1 ≠ "__proto__")

theorem foldl_assign : ∀ members sorted : Members, members.foldl assign sorted = sorted ++ ownMembers members
  | [], sorted => (List.append_nil sorted).symm
  | member :: rest, sorted => by
    rw [List.foldl_cons, foldl_assign rest, assign]
    split
    next proto => simp [proto, ownMembers]
    next own => simp [own, ownMembers]

theorem sortedMembers_perm (members : Members) : (sortedMembers members).Perm (ownMembers members) := by
  unfold sortedMembers
  rw [foldl_assign, List.nil_append]
  exact (enumerate_perm _).trans ((List.perm_insertionSort _ members).filter _)

/-- Two objects are serialised alike when they have the same members other than `__proto__`. -/
theorem sortedMembers_eq_iff {members others : Members} (unique : (keysOf others).Nodup) :
    sortedMembers members = sortedMembers others ↔ (ownMembers members).Perm (ownMembers others) := by
  constructor
  · intro same
    exact (sortedMembers_perm members).symm.trans (same ▸ sortedMembers_perm others)
  · intro perm
    have sorted (members : Members) := List.perm_insertionSort (fun a b : String × Json => unitsBefore a.1 b.1) members
    have own (members : Members) := (sorted members).filter fun member => decide (member.1 ≠ "__proto__")
    have ordered (members : Members) : (ownMembers (members.insertionSort fun a b => unitsBefore a.1 b.1)).Pairwise
        fun a b => unitsBefore a.1 b.1 := (List.pairwise_insertionSort _ members).filter _
    unfold sortedMembers
    rw [foldl_assign, foldl_assign, List.nil_append, List.nil_append]
    refine congrArg enumerate (ordered_unique (((own members).trans perm).trans (own others).symm) ?_
      (ordered others) (ordered members))
    exact ((sorted others).map Prod.fst).nodup_iff.mpr unique |>.sublist (List.filter_sublist.map Prod.fst)

end Members

section Values

theorem keysOf_replacedMembers : ∀ members : List (String × JsonValue),
    keysOf (replacedMembers members) = members.map Prod.fst
  | [] => rfl
  | (key, _) :: rest => congrArg (key :: ·) (keysOf_replacedMembers rest)

theorem lookup_replacedMembers (key : String) : ∀ members : List (String × JsonValue),
    (replacedMembers members).lookup key = (members.lookup key).map jsonReplacer
  | [] => rfl
  | (name, value) :: rest => by
    have later := lookup_replacedMembers key rest
    simp only [replacedMembers, replacedMember, List.lookup_cons]
    split
    next => rfl
    next => exact later

theorem lookup_ownMembers {key : String} (own : key ≠ "__proto__") : ∀ members : Members,
    (ownMembers members).lookup key = members.lookup key
  | [] => rfl
  | (name, _) :: rest => by
    have later := lookup_ownMembers own rest
    by_cases proto : name = "__proto__"
    · subst proto
      have skipped (value : Json) : ownMembers (("__proto__", value) :: rest) = ownMembers rest := rfl
      rw [skipped, later, List.lookup_cons, beq_false_of_ne own]
    · have first (value : Json) : ownMembers ((name, value) :: rest) = (name, value) :: ownMembers rest :=
        List.filter_cons_of_pos (decide_eq_true proto)
      rw [first, List.lookup_cons, List.lookup_cons, later]

theorem lookup_keptMembers {key : String} (own : key ≠ "__proto__") : ∀ members : List (String × JsonValue),
    (keptMembers members).lookup key = (members.lookup key).map kept
  | [] => rfl
  | (name, value) :: rest => by
    have later := lookup_keptMembers own rest
    by_cases proto : name = "__proto__"
    · subst proto
      have skipped : keptMembers (("__proto__", value) :: rest) = keptMembers rest := rfl
      rw [skipped, later, List.lookup_cons, beq_false_of_ne own]
    · simp only [keptMembers, keptMember, if_neg proto, List.singleton_append, List.lookup_cons, later]
      split <;> rfl

theorem keptMembers_cons {key : String} (own : key ≠ "__proto__") (value : JsonValue)
    (rest : List (String × JsonValue)) :
    keptMembers ((key, value) :: rest) = (key, kept value) :: keptMembers rest := by
  rw [keptMembers, keptMember, if_neg own, List.singleton_append]

theorem keys_keptMembers : ∀ members : List (String × JsonValue),
    (keptMembers members).map Prod.fst = (members.map Prod.fst).filter fun key => decide (key ≠ "__proto__")
  | [] => rfl
  | (key, value) :: rest => by
    have later := keys_keptMembers rest
    by_cases proto : key = "__proto__"
    · subst proto
      exact later
    · rw [keptMembers_cons proto, List.map_cons, later, List.map_cons]
      simp [proto]

theorem keys_ownMembers (members : List (String × JsonValue)) :
    (ownMembers (replacedMembers members)).map Prod.fst = (keptMembers members).map Prod.fst := by
  rw [keys_keptMembers, ← keysOf_replacedMembers]
  exact (List.filter_map (p := fun key => decide (key ≠ "__proto__"))).symm

theorem unique_of_lookup {key : String} {value : JsonValue} : ∀ {members : List (String × JsonValue)},
    MembersUnique members → members.lookup key = some value → value.Unique
  | (name, first) :: rest, unique, found => by
    rw [List.lookup_cons] at found
    split at found
    next =>
      cases found
      exact unique.1
    next => exact unique_of_lookup unique.2 found

mutual

/-- Two values are serialised alike when what is kept of them is equal up to the order of keys. -/
theorem replaced_eq_iff (value : JsonValue) : ∀ other : JsonValue, value.Unique → other.Unique →
    (jsonReplacer value = jsonReplacer other ↔ Same (kept value) (kept other)) := by
  intro other unique otherUnique
  cases value with
  | array items =>
    cases other with
    | array others =>
      simp only [jsonReplacer, kept, Same, Json.array.injEq]
      exact replacedItems_eq_iff items others unique otherUnique
    | number number => cases number <;> simp [jsonReplacer, kept, Same]
    | _ => simp [jsonReplacer, kept, Same]
  | object members =>
    cases other with
    | object others =>
      simp only [jsonReplacer, kept, Same, Json.object.injEq]
      have keys (members : List (String × JsonValue)) (unique : (members.map Prod.fst).Nodup) :
          (keysOf (replacedMembers members)).Nodup := (keysOf_replacedMembers members).symm ▸ unique
      have own (members : List (String × JsonValue)) (unique : (members.map Prod.fst).Nodup) :
          ((ownMembers (replacedMembers members)).map Prod.fst).Nodup :=
        (keys members unique).sublist (List.filter_sublist.map Prod.fst)
      rw [sortedMembers_eq_iff (keys others otherUnique.1),
        perm_iff_lookup (own members unique.1) (own others otherUnique.1), keys_ownMembers, keys_ownMembers]
      exact and_congr_right fun _ => replacedMembers_found_iff members others unique.2 otherUnique.2
    | number number => cases number <;> simp [jsonReplacer, kept, Same]
    | _ => simp [jsonReplacer, kept, Same]
  | number number =>
    cases other with
    | number other => cases number <;> cases other <;> simp [jsonReplacer, kept, Same]
    | _ => cases number <;> simp [jsonReplacer, kept, Same]
  | _ =>
    cases other with
    | number number => cases number <;> simp [jsonReplacer, kept, Same]
    | _ => simp [jsonReplacer, kept, Same]
termination_by structural value

theorem replacedItems_eq_iff (items : List JsonValue) : ∀ others : List JsonValue, ItemsUnique items →
    ItemsUnique others →
    (replacedItems items = replacedItems others ↔ SameItems (keptItems items) (keptItems others)) := by
  intro others unique othersUnique
  cases items with
  | nil => cases others <;> simp [replacedItems, keptItems, SameItems]
  | cons item rest =>
    cases others with
    | nil => simp [replacedItems, keptItems, SameItems]
    | cons other others =>
      simp only [replacedItems, keptItems, SameItems, List.cons.injEq]
      exact and_congr (replaced_eq_iff item other unique.1 othersUnique.1)
        (replacedItems_eq_iff rest others unique.2 othersUnique.2)
termination_by structural items

/-- The members of an object are found among others, serialised and kept alike. -/
theorem replacedMembers_found_iff (members : List (String × JsonValue)) : ∀ others : List (String × JsonValue),
    MembersUnique members → MembersUnique others → ((∀ member ∈ ownMembers (replacedMembers members),
        (ownMembers (replacedMembers others)).lookup member.1 = some member.2) ↔
      SameMembers (keptMembers members) (keptMembers others)) := by
  intro others unique othersUnique
  cases members with
  | nil => exact iff_of_true nofun (by rw [keptMembers, SameMembers]; trivial)
  | cons member rest =>
    have later := replacedMembers_found_iff rest others unique.2 othersUnique
    by_cases proto : member.1 = "__proto__"
    · obtain ⟨key, value⟩ := member
      obtain rfl : key = "__proto__" := proto
      have skipped : keptMembers (("__proto__", value) :: rest) = keptMembers rest := rfl
      rw [skipped, ← later]
      rfl
    · have here := replacedMember_found_iff member others unique.1 othersUnique proto
      obtain ⟨key, value⟩ := member
      have first : ownMembers (replacedMembers ((key, value) :: rest)) =
          (key, jsonReplacer value) :: ownMembers (replacedMembers rest) :=
        List.filter_cons_of_pos (decide_eq_true proto)
      rw [first, keptMembers_cons proto, List.forall_mem_cons, SameMembers, later, ← here, lookup_ownMembers proto]
termination_by structural members

theorem replacedMember_found_iff (member : String × JsonValue) : ∀ others : List (String × JsonValue),
    MemberUnique member → MembersUnique others → member.1 ≠ "__proto__" →
    ((replacedMembers others).lookup member.1 = some (jsonReplacer member.2) ↔
      SameMember (member.1, kept member.2) (keptMembers others)) := by
  intro others unique othersUnique own
  obtain ⟨key, value⟩ := member
  simp only [SameMember]
  rw [lookup_replacedMembers, lookup_keptMembers own]
  cases found : others.lookup key with
  | none => simp
  | some other =>
    have same := replaced_eq_iff value other unique (unique_of_lookup othersUnique found)
    simpa [eq_comm] using same
termination_by structural member

end

mutual

theorem kept_same (value : JsonValue) : ∀ other : JsonValue, Same value other → Same (kept value) (kept other) := by
  intro other same
  cases value with
  | array items =>
    cases other with
    | array others =>
      simp only [Same, kept] at same ⊢
      exact keptItems_same items others same
    | _ => simp [Same] at same
  | object members =>
    cases other with
    | object others =>
      simp only [Same, kept] at same ⊢
      rw [keys_keptMembers, keys_keptMembers]
      exact ⟨same.1.filter _, keptMembers_same members others same.2⟩
    | _ => simp [Same] at same
  | number number =>
    cases other with
    | number other =>
      simp only [Same] at same
      subst same
      cases number <;> simp [kept, Same]
    | _ => simp [Same] at same
  | _ =>
    cases other with
    | array | object | number => simp [Same] at same
    | _ => exact same
termination_by structural value

theorem keptItems_same (items : List JsonValue) : ∀ others : List JsonValue, SameItems items others →
    SameItems (keptItems items) (keptItems others) := by
  intro others same
  cases items with
  | nil =>
    cases others with
    | nil => simp [keptItems, SameItems]
    | cons => simp [SameItems] at same
  | cons item rest =>
    cases others with
    | nil => simp [SameItems] at same
    | cons other others =>
      simp only [SameItems, keptItems] at same ⊢
      exact ⟨kept_same item other same.1, keptItems_same rest others same.2⟩
termination_by structural items

theorem keptMembers_same (members : List (String × JsonValue)) : ∀ others : List (String × JsonValue),
    SameMembers members others → SameMembers (keptMembers members) (keptMembers others) := by
  intro others same
  cases members with
  | nil => rw [keptMembers, SameMembers]; trivial
  | cons member rest =>
    rw [SameMembers] at same
    have later := keptMembers_same rest others same.2
    by_cases proto : member.1 = "__proto__"
    · obtain ⟨key, value⟩ := member
      obtain rfl : key = "__proto__" := proto
      exact later
    · have here := keptMember_same member others same.1 proto
      obtain ⟨key, value⟩ := member
      rw [keptMembers_cons proto, SameMembers]
      exact ⟨here, later⟩
termination_by structural members

theorem keptMember_same (member : String × JsonValue) : ∀ others : List (String × JsonValue),
    SameMember member others → member.1 ≠ "__proto__" →
    SameMember (member.1, kept member.2) (keptMembers others) := by
  intro others same own
  obtain ⟨key, value⟩ := member
  rw [SameMember] at same ⊢
  obtain ⟨other, found, equal⟩ := same
  refine ⟨kept other, ?_, kept_same value other equal⟩
  rw [lookup_keptMembers own, found]
  rfl
termination_by structural member

end

mutual

theorem lossless_kept (value : JsonValue) (lossless : Lossless value) : kept value = value := by
  cases value with
  | array items => exact congrArg JsonValue.array (lossless_keptItems items lossless)
  | object members => exact congrArg JsonValue.object (lossless_keptMembers members lossless.1 lossless.2)
  | number number =>
    cases number with
    | finite text => rfl
    | infinite negative => cases lossless
  | _ => rfl
termination_by structural value

theorem lossless_keptItems (items : List JsonValue) (lossless : LosslessItems items) : keptItems items = items := by
  cases items with
  | nil => rfl
  | cons item rest =>
    rw [keptItems, lossless_kept item lossless.1, lossless_keptItems rest lossless.2]
termination_by structural items

theorem lossless_keptMembers (members : List (String × JsonValue)) (own : "__proto__" ∉ members.map Prod.fst)
    (lossless : LosslessMembers members) : keptMembers members = members := by
  cases members with
  | nil => rfl
  | cons member rest =>
    have first : kept member.2 = member.2 := lossless_keptMember member lossless.1
    have later := lossless_keptMembers rest (fun member => own (List.mem_cons_of_mem _ member)) lossless.2
    obtain ⟨key, value⟩ := member
    have proto : key ≠ "__proto__" := fun same => own (same ▸ List.mem_cons_self)
    rw [keptMembers_cons proto, first, later]
termination_by structural members

theorem lossless_keptMember (member : String × JsonValue) (lossless : LosslessMember member) :
    kept member.2 = member.2 := by
  obtain ⟨key, value⟩ := member
  exact lossless_kept value lossless
termination_by structural member

end

end Values

/-- Two lists have one key when what is kept of them is equal up to the order of keys. -/
theorem generate_eq_iff {generator : KeyGenerator} (injective : Function.Injective generator.truncatedHash)
    (namespace_ : String) (args others : Arguments) :
    generator.generate namespace_ args = generator.generate namespace_ others ↔
      SameItems (keptItems args.items) (keptItems others.items) := by
  rw [← replacedItems_eq_iff args.items others.items args.unique others.unique]
  unfold KeyGenerator.generate hashArgs
  constructor
  · intro same
    have chars := congrArg String.toList same
    simp only [String.toList_append] at chars
    have hashed := injective (String.toList_inj.mp (List.append_cancel_left chars))
    exact Json.array.inj (stringify_injective hashed)
  · intro same
    rw [same]

/-- A key tells its arguments apart from others, up to the order of keys, unless they differ only in members `__proto__`
and in numbers too large that stand for null; it tells apart all arguments without these. -/
theorem keys_identify_iff (generator : KeyGenerator) (injective : Function.Injective generator.truncatedHash)
    (namespace_ : String) (args others : Arguments) :
    ((generator.generate namespace_ args = generator.generate namespace_ others ↔ SameItems args.items others.items) ↔
      ¬ (SameItems (keptItems args.items) (keptItems others.items) ∧ ¬ SameItems args.items others.items)) ∧
    (LosslessItems args.items → LosslessItems others.items →
      (generator.generate namespace_ args = generator.generate namespace_ others ↔
        SameItems args.items others.items)) := by
  rw [generate_eq_iff injective]
  constructor
  · rw [not_and_not_right]
    exact ⟨fun identify => identify.mp, fun identify => ⟨identify, keptItems_same _ _⟩⟩
  · intro one two
    rw [lossless_keptItems _ one, lossless_keptItems _ two]

/-- A generator whose hash is the text itself. -/
def plainGenerator : KeyGenerator := ⟨"alian:cache:", "v1", id⟩

/-- One argument, with a member `__proto__`. -/
def protoArguments : Arguments where
  items := [.object [("__proto__", .bool true), ("id", .string "7")]]
  unique := by simp [ItemsUnique, JsonValue.Unique, MembersUnique, MemberUnique]

/-- The argument without it. -/
def plainArguments : Arguments where
  items := [.object [("id", .string "7")]]
  unique := by simp [ItemsUnique, JsonValue.Unique, MembersUnique, MemberUnique]

theorem plain_key_apart : plainGenerator.generate "user" plainArguments ≠ plainGenerator.generate "user" ⟨[], trivial⟩ := by
  have apart := (keys_identify_iff plainGenerator Function.injective_id "user" plainArguments ⟨[], trivial⟩).2
    (by simp [plainArguments, LosslessItems, Lossless, LosslessMembers, LosslessMember]) trivial
  exact fun same => by simpa [plainArguments, SameItems] using apart.mp same

/-- Different arguments have one key. -/
theorem proto_shares_key : plainGenerator.generate "user" protoArguments = plainGenerator.generate "user" plainArguments ∧
    ¬ SameItems protoArguments.items plainArguments.items := by
  constructor
  · decide +kernel
  · simp [protoArguments, plainArguments, SameItems, Same]

end AlianStructure.Guarantees.CacheKeys
