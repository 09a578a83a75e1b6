import Mathlib.Data.List.Basic

/-!
# The lexical resolution of paths

A path is taken segment by segment: empty segments and single dots are dropped, a double dot takes the
segment before it away. A path that is joined to a base lies inside it when its resolution starts
with that of the base and does not climb from there; segments that are no double dots only go down.
-/
namespace AlianStructure.Library.PathResolution

abbrev Segment := List Char

/-- The parts of a text between its separators. -/
def split (sep : Char) : List Char → List Segment
  | [] => [[]]
  | c :: rest =>
    if c = sep then [] :: split sep rest
    else
      match split sep rest with
      | [] => [[c]]
      | first :: others => (c :: first) :: others

def segments (path : List Char) : List Segment := split '/' path

def upward : Segment := ['.', '.']

/-- One segment on top of those before it, the last first. -/
def push (absolute : Bool) (stack : List Segment) (segment : Segment) : List Segment :=
  if segment = [] ∨ segment = ['.'] then stack
  else if segment = upward then
    match stack with
    | [] => if absolute then [] else [upward]
    | top :: below => if top = upward then upward :: stack else below
  else segment :: stack

def resolve (absolute : Bool) (parts : List Segment) : List Segment :=
  (parts.foldl (push absolute) []).reverse

/-- Whether a path begins at the root. -/
def isAbsolute : List Char → Bool
  | '/' :: _ => true
  | _ => false

def normalize (path : List Char) : List Segment := resolve (isAbsolute path) (segments path)

/-- A path joined to a base. -/
def join (base path : List Char) : List Segment :=
  resolve (isAbsolute base) (segments base ++ segments path)

/-- A resolved path lies at a resolved base or below it. -/
def Below (base full : List Segment) : Prop := base <+: full ∧ upward ∉ full.drop base.length

/-- A path, joined to a base, stays inside it. -/
def Inside (base path : List Char) : Prop := Below (normalize base) (join base path)

section Parts
variable {sep : Char}

theorem split_ne_nil (text : List Char) : split sep text ≠ [] := by
  cases text with
  | nil => exact List.cons_ne_nil _ _
  | cons c rest =>
    unfold split
    split
    next => exact List.cons_ne_nil _ _
    next => split <;> exact List.cons_ne_nil _ _

/-- A part, its separator and what follows. -/
theorem split_cons {part : Segment} (plain : sep ∉ part) (text : List Char) :
    split sep (part ++ sep :: text) = part :: split sep text := by
  induction part with
  | nil => simp [split]
  | cons c rest ih =>
    rw [List.mem_cons, not_or] at plain
    rw [List.cons_append, split, if_neg (Ne.symm plain.1), ih plain.2]

/-- The characters of a part are characters of the text, and none is a separator. -/
theorem mem_of_part : ∀ {text : List Char} {part : Segment}, part ∈ split sep text →
    ∀ c ∈ part, c ∈ text ∧ c ≠ sep
  | [], part, isPart, c, member => by
    rw [split, List.mem_singleton] at isPart
    rw [isPart] at member
    cases member
  | head :: rest, part, isPart, c, member => by
    have later : ∀ {other : Segment}, other ∈ split sep rest → c ∈ other → c ∈ head :: rest ∧ c ≠ sep :=
      fun isPart member =>
        ⟨List.mem_cons_of_mem _ (mem_of_part isPart c member).1, (mem_of_part isPart c member).2⟩
    unfold split at isPart
    split at isPart
    next =>
      rcases List.mem_cons.mp isPart with rfl | other
      · cases member
      · exact later other member
    next differs =>
      split at isPart
      next empty => exact absurd empty (split_ne_nil rest)
      next first others parts =>
        rcases List.mem_cons.mp isPart with rfl | other
        · rcases List.mem_cons.mp member with rfl | inside
          · exact ⟨List.mem_cons_self, differs⟩
          · exact later (parts ▸ List.mem_cons_self) inside
        · exact later (parts ▸ List.mem_cons_of_mem _ other) member

/-- A text without separator in front of a text belongs to its first part. -/
theorem split_append {front : List Char} (plain : sep ∉ front) {text : List Char} {first : Segment}
    {others : List Segment} (parts : split sep text = first :: others) :
    split sep (front ++ text) = (front ++ first) :: others := by
  induction front with
  | nil => exact parts
  | cons c rest ih =>
    rw [List.mem_cons, not_or] at plain
    rw [List.cons_append, split, if_neg (Ne.symm plain.1), ih plain.2]
    rfl

/-- A part of a text that goes on without separator is of the text, or it ends with what goes on. -/
theorem part_append {rest : List Char} (plain : sep ∉ rest) : ∀ {text : List Char} {part : Segment},
    part ∈ split sep (text ++ rest) → (∀ c ∈ part, c ∈ text) ∨ (rest ≠ [] ∧ rest <:+ part)
  | [], part, isPart => by
    have whole := split_append plain (rfl : split sep [] = [[]])
    rw [List.append_nil] at whole
    rw [List.nil_append, whole, List.mem_singleton] at isPart
    rw [isPart]
    cases rest with
    | nil => exact Or.inl (List.forall_mem_nil _)
    | cons c rest => exact Or.inr ⟨List.cons_ne_nil _ _, List.suffix_refl _⟩
  | head :: text, part, isPart => by
    have later : ∀ {other : Segment}, other ∈ split sep (text ++ rest) →
        (∀ c ∈ other, c ∈ head :: text) ∨ (rest ≠ [] ∧ rest <:+ other) := fun isPart =>
      (part_append plain isPart).imp (fun inside c member => List.mem_cons_of_mem _ (inside c member)) id
    rw [List.cons_append, split] at isPart
    split at isPart
    next =>
      rcases List.mem_cons.mp isPart with rfl | other
      · exact Or.inl (List.forall_mem_nil _)
      · exact later other
    next =>
      split at isPart
      next empty => exact absurd empty (split_ne_nil _)
      next first others parts =>
        rcases List.mem_cons.mp isPart with rfl | other
        · refine (later (parts ▸ List.mem_cons_self)).imp (fun inside c member => ?_)
            fun ends => ⟨ends.1, ends.2.trans (List.suffix_cons head first)⟩
          rcases List.mem_cons.mp member with rfl | tail
          · exact List.mem_cons_self
          · exact inside c tail
        · exact later (parts ▸ List.mem_cons_of_mem _ other)

end Parts

/-- Segments that do not climb leave what is there. -/
theorem foldl_push {absolute : Bool} : ∀ {parts : List Segment} (stack : List Segment),
    upward ∉ parts → ∃ down, parts.foldl (push absolute) stack = down ++ stack ∧ upward ∉ down
  | [], stack, _ => ⟨[], rfl, List.not_mem_nil⟩
  | segment :: parts, stack, level => by
    rw [List.mem_cons, not_or] at level
    rw [List.foldl_cons]
    by_cases dropped : segment = [] ∨ segment = ['.']
    · have same : push absolute stack segment = stack := if_pos dropped
      rw [same]
      exact foldl_push stack level.2
    · have grown : push absolute stack segment = segment :: stack :=
        (if_neg dropped).trans (if_neg (Ne.symm level.1))
      rw [grown]
      obtain ⟨down, same, flat⟩ := foldl_push (segment :: stack) level.2
      refine ⟨down ++ [segment], by rw [same, List.append_assoc]; rfl, fun climbs => ?_⟩
      rcases List.mem_append.mp climbs with inside | last
      · exact flat inside
      · exact level.1 (List.mem_singleton.mp last)

/-- A path without double dots stays inside every base. -/
theorem inside_of_level {path : List Char} (base : List Char) (level : upward ∉ segments path) :
    Inside base path := by
  obtain ⟨down, same, flat⟩ := foldl_push
    ((segments base).foldl (push (isAbsolute base)) []) level
  have joined : join base path = normalize base ++ down.reverse := by
    rw [join, normalize, resolve, resolve, List.foldl_append, same, List.reverse_append]
  rw [Inside, Below, joined]
  refine ⟨List.prefix_append _ _, ?_⟩
  rw [List.drop_left]
  exact fun climbs => flat (List.mem_reverse.mp climbs)

example : join "/srv/uploads".toList "a//b/./../../../etc".toList =
    ["srv".toList, "etc".toList] := by decide +kernel

end AlianStructure.Library.PathResolution
