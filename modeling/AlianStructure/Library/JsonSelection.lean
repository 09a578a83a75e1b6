import AlianStructure.Library.JsonText

/-!
# Selected members

A text can be written with only the members of certain names, in every object, in the order of the
names. Where an object may find a member elsewhere, the way it finds one is a parameter. Two objects
have the same selection when they find the same members under the names.
-/
namespace AlianStructure.Library.JsonSelection
open JsonText

variable (find : Members → String → Option Json)

/-- The members under the names, in their order. -/
def select (names : List String) (members : Members) : Members :=
  names.filterMap fun name => (find members name).map fun value => (name, value)

/-- A member of a selection is found under its name. -/
theorem lookup_select (members : Members) :
    ∀ {names : List String} {name : String}, name ∈ names →
      (select find names members).lookup name = find members name
  | first :: rest, name, member => by
    have here : select find (first :: rest) members =
        match find members first with
        | some value => (first, value) :: select find rest members
        | none => select find rest members := by
      unfold select
      rw [List.filterMap_cons]
      cases find members first <;> rfl
    rw [here]
    by_cases same : name = first
    · subst same
      cases found : find members name with
      | some value => exact List.lookup_cons_self
      | none =>
        by_cases again : name ∈ rest
        · exact (lookup_select members again).trans found
        · refine List.lookup_eq_none_iff.mpr fun other listed => ?_
          obtain ⟨under, isName, value⟩ := List.mem_filterMap.mp listed
          obtain ⟨_, _, rfl⟩ := Option.map_eq_some_iff.mp value
          simpa using fun equal : name = under => again (equal ▸ isName)
    · have later := lookup_select members ((List.mem_cons.mp member).resolve_left same)
      cases find members first with
      | some value =>
        have differs : (name == first) = false := by simpa using same
        simp only [List.lookup_cons, differs]
        exact later
      | none => exact later

theorem select_eq_iff {names : List String} {members others : Members} :
    select find names members = select find names others ↔ ∀ name ∈ names, find members name = find others name := by
  constructor
  · intro same name member
    rw [← lookup_select find members member, same, lookup_select find others member]
  · intro agree
    unfold select
    exact List.filterMap_congr fun name member => by rw [agree name member]

/-- The members among some that may be missing. -/
def present (fields : List (String × Option Json)) : Members :=
  fields.filterMap fun field => field.2.map fun value => (field.1, value)

theorem rearrangeMembers_eq_map (arrange : Members → Members) : ∀ members : Members,
    rearrangeMembers arrange members = members.map fun member => (member.1, member.2.rearrange arrange)
  | [] => rfl
  | (key, value) :: rest => by
    rw [rearrangeMembers, rearrangeMembers_eq_map arrange rest]
    rfl

theorem lookup_map (change : Json → Json) (key : String) : ∀ members : Members,
    (members.map fun member => (member.1, change member.2)).lookup key =
      (members.lookup key).map change
  | [] => rfl
  | (name, value) :: rest => by
    have later := lookup_map change key rest
    simp only [List.map_cons, List.lookup_cons]
    cases key == name
    · exact later
    · rfl

theorem lookup_rearrangeMembers (arrange : Members → Members) (members : Members) (key : String) :
    (rearrangeMembers arrange members).lookup key = (members.lookup key).map (·.rearrange arrange) := by
  rw [rearrangeMembers_eq_map]
  exact lookup_map (·.rearrange arrange) key members

theorem lookup_present (key : String) : ∀ {fields : List (String × Option Json)},
    (fields.map Prod.fst).Nodup → (present fields).lookup key = (fields.lookup key).join
  | [], _ => rfl
  | (name, value) :: rest, unique => by
    obtain ⟨new, tail⟩ := List.nodup_cons.mp unique
    have later := lookup_present key tail
    have here : present ((name, value) :: rest) =
        match value with
        | some value => (name, value) :: present rest
        | none => present rest := by
      unfold present
      rw [List.filterMap_cons]
      cases value <;> rfl
    rw [here, List.lookup_cons]
    by_cases same : key = name
    · subst same
      cases value with
      | some value => simp
      | none =>
        have absent : rest.lookup key = none :=
          List.lookup_eq_none_iff.mpr fun other listed => by
            have isName := List.mem_map_of_mem (f := Prod.fst) listed
            exact bne_iff_ne.mpr fun equal => new (equal ▸ isName)
        rw [later, absent]
        simp
    · have differs : (key == name) = false := by simpa using same
      cases value with
      | some value =>
        simp only [List.lookup_cons, differs]
        exact later
      | none =>
        simp only [differs]
        exact later

theorem membersEverywhere_iff {holds : List String → Prop} : ∀ {members : Members},
    MembersEverywhere holds members ↔ ∀ member ∈ members, member.2.Everywhere holds
  | [] => by simp [MembersEverywhere]
  | (key, value) :: rest => by
    rw [MembersEverywhere, membersEverywhere_iff, List.forall_mem_cons]
    rfl

/-- A rearrangement that takes members along with their keys, whatever their values. -/
structure Moves (arrange : Members → Members) : Prop where
  perm : ∀ members, (arrange members).Perm members
  natural : ∀ (members : Members) (change : Json → Json),
    arrange (members.map fun member => (member.1, change member.2)) =
      (arrange members).map fun member => (member.1, change member.2)

section Moving
variable {moving arrange : Members → Members}

mutual

/-- Keys that are different stay so. -/
theorem nodup_rearrange (moves : Moves moving) (x : Json) (unique : x.Everywhere List.Nodup) :
    (x.rearrange moving).Everywhere List.Nodup := by
  cases x with
  | null => trivial
  | bool value => trivial
  | number text => trivial
  | string text => trivial
  | array items => exact nodup_rearrangeItems moves items unique
  | object members =>
    obtain ⟨keys, inner⟩ := unique
    have perm := moves.perm (rearrangeMembers moving members)
    have innerToo := membersEverywhere_iff.mp (nodup_rearrangeMembers moves members inner)
    refine ⟨?_, membersEverywhere_iff.mpr fun member listed => ?_⟩
    · have sameKeys : (keysOf (moving (rearrangeMembers moving members))).Perm (keysOf members) := by
        rw [← keysOf_rearrangeMembers moving members]
        exact perm.map Prod.fst
      exact sameKeys.nodup_iff.mpr keys
    · exact innerToo member (perm.subset listed)
termination_by structural x

theorem nodup_rearrangeItems (moves : Moves moving) (items : List Json) (unique : ItemsEverywhere List.Nodup items) :
    ItemsEverywhere List.Nodup (rearrangeItems moving items) := by
  cases items with
  | nil => trivial
  | cons item rest =>
    exact ⟨nodup_rearrange moves item unique.1, nodup_rearrangeItems moves rest unique.2⟩
termination_by structural items

theorem nodup_rearrangeMembers (moves : Moves moving) (members : List (String × Json))
    (unique : MembersEverywhere List.Nodup members) :
    MembersEverywhere List.Nodup (rearrangeMembers moving members) := by
  cases members with
  | nil => trivial
  | cons member rest =>
    exact ⟨nodup_rearrangeMember moves member unique.1, nodup_rearrangeMembers moves rest unique.2⟩
termination_by structural members

theorem nodup_rearrangeMember (moves : Moves moving) (member : String × Json)
    (unique : MemberEverywhere List.Nodup member) : MemberEverywhere List.Nodup (rearrangeMember moving member) := by
  obtain ⟨key, value⟩ := member
  exact nodup_rearrange moves value unique
termination_by structural member

end

mutual

/-- A rearrangement that forgets how the members were moved. -/
theorem rearrange_rearrange (moves : Moves moving)
    (forgets : ∀ members, (keysOf members).Nodup → arrange (moving members) = arrange members)
    (x : Json) (unique : x.Everywhere List.Nodup) : (x.rearrange moving).rearrange arrange = x.rearrange arrange := by
  cases x with
  | null => rfl
  | bool value => rfl
  | number text => rfl
  | string text => rfl
  | array items =>
    simp only [Json.rearrange, Json.array.injEq]
    exact rearrangeItems_rearrangeItems moves forgets items unique
  | object members =>
    obtain ⟨keys, inner⟩ := unique
    have innerToo := rearrangeMembers_rearrangeMembers moves forgets members inner
    simp only [Json.rearrange, Json.object.injEq]
    calc arrange (rearrangeMembers arrange (moving (rearrangeMembers moving members)))
        = arrange (moving (rearrangeMembers arrange (rearrangeMembers moving members))) := by
          rw [rearrangeMembers_eq_map arrange (moving _), rearrangeMembers_eq_map arrange
            (rearrangeMembers moving members), moves.natural]
      _ = arrange (moving (rearrangeMembers arrange members)) := by rw [innerToo]
      _ = arrange (rearrangeMembers arrange members) :=
          forgets _ ((keysOf_rearrangeMembers arrange members).symm ▸ keys)
termination_by structural x

theorem rearrangeItems_rearrangeItems (moves : Moves moving)
    (forgets : ∀ members, (keysOf members).Nodup → arrange (moving members) = arrange members)
    (items : List Json) (unique : ItemsEverywhere List.Nodup items) :
    rearrangeItems arrange (rearrangeItems moving items) = rearrangeItems arrange items := by
  cases items with
  | nil => rfl
  | cons item rest =>
    simp only [rearrangeItems, List.cons.injEq]
    exact ⟨rearrange_rearrange moves forgets item unique.1,
      rearrangeItems_rearrangeItems moves forgets rest unique.2⟩
termination_by structural items

theorem rearrangeMembers_rearrangeMembers (moves : Moves moving)
    (forgets : ∀ members, (keysOf members).Nodup → arrange (moving members) = arrange members)
    (members : List (String × Json)) (unique : MembersEverywhere List.Nodup members) :
    rearrangeMembers arrange (rearrangeMembers moving members) = rearrangeMembers arrange members := by
  cases members with
  | nil => rfl
  | cons member rest =>
    simp only [rearrangeMembers, List.cons.injEq]
    exact ⟨rearrangeMember_rearrangeMember moves forgets member unique.1,
      rearrangeMembers_rearrangeMembers moves forgets rest unique.2⟩
termination_by structural members

theorem rearrangeMember_rearrangeMember (moves : Moves moving)
    (forgets : ∀ members, (keysOf members).Nodup → arrange (moving members) = arrange members)
    (member : String × Json) (unique : MemberEverywhere List.Nodup member) :
    rearrangeMember arrange (rearrangeMember moving member) = rearrangeMember arrange member := by
  obtain ⟨key, value⟩ := member
  simp only [rearrangeMember, Prod.mk.injEq, true_and]
  exact rearrange_rearrange moves forgets value unique
termination_by structural member

end

end Moving

end AlianStructure.Library.JsonSelection
