import AlianStructure.Library.TextCode

/-!
# Patterns with wildcards

A pattern is a list of items, each of which takes one sign, or any number of signs. A pattern of characters and its code
match the same texts, where no single wildcard has to take a character of several signs.
-/
namespace AlianStructure.Library.Wildcards
open TextCode

inductive Item (α : Type) where
  | many
  | one (accepts : α → Bool)

variable {C α : Type}

/-- The items take all signs. -/
def test : List (Item α) → List α → Bool
  | [], signs => signs.isEmpty
  | .one accepts :: items, sign :: signs => accepts sign && test items signs
  | .one _ :: _, [] => false
  | .many :: items, signs => signs.tails.any (test items)

/-- The number of items that take one sign. -/
def singles : List (Item α) → Nat
  | [] => 0
  | .one _ :: items => singles items + 1
  | .many :: items => singles items

section Tests
variable {items : List (Item α)} {accepts : α → Bool} {signs : List α}

theorem test_nil : test [] signs = true ↔ signs = [] := List.isEmpty_iff

theorem test_many : test (.many :: items) signs = true ↔ ∃ rest, rest <:+ signs ∧ test items rest = true := by
  simp [test]

theorem test_one : test (.one accepts :: items) signs = true ↔
    ∃ sign rest, signs = sign :: rest ∧ accepts sign = true ∧ test items rest = true := by
  cases signs <;> simp [test]

theorem test_one_cons {sign : α} : test (.one accepts :: items) (sign :: signs) = true ↔
    accepts sign = true ∧ test items signs = true := by
  simp [test]

/-- More signs before, for items that begin with any number of signs. -/
theorem test_many_mono {more : List α} (suffix : signs <:+ more) (matched : test (.many :: items) signs = true) :
    test (.many :: items) more = true := by
  obtain ⟨rest, inside, matched⟩ := test_many.mp matched
  exact test_many.mpr ⟨rest, inside.trans suffix, matched⟩

end Tests

section Words
variable [DecidableEq α]

/-- The items that take a word. -/
def exactly (word : List α) : List (Item α) := word.map fun sign => .one fun other => decide (other = sign)

theorem test_exactly {items : List (Item α)} : ∀ {word signs : List α}, test (exactly word ++ items) signs = true ↔
    ∃ rest, signs = word ++ rest ∧ test items rest = true
  | [], signs => by simp [exactly]
  | sign :: word, signs => by
    have ih := @test_exactly items word
    simp only [exactly] at ih
    simp only [exactly, List.map_cons, List.cons_append, test_one, decide_eq_true_eq]
    constructor
    · rintro ⟨_, rest, rfl, rfl, matched⟩
      obtain ⟨left, rfl, taken⟩ := ih.mp matched
      exact ⟨left, rfl, taken⟩
    · rintro ⟨left, rfl, matched⟩
      exact ⟨sign, word ++ left, rfl, rfl, ih.mpr ⟨left, rfl, matched⟩⟩

end Words

/-- A sign of a pattern of characters. -/
inductive Wild (C : Type) where
  | char (c : C)
  | anyOne
  | anyMany
  deriving DecidableEq

section Codes

/-- The items for the code of a pattern. -/
def spell [DecidableEq α] (code : Code C α) : List (Wild C) → List (Item α)
  | [] => []
  | .char c :: wilds => exactly (code.encode c) ++ spell code wilds
  | .anyOne :: wilds => .one (fun _ => true) :: spell code wilds
  | .anyMany :: wilds => .many :: spell code wilds

/-- No single wildcard meets a character of several signs. -/
def Narrow (code : Code C α) (wilds : List (Wild C)) (text : List C) : Prop :=
  .anyOne ∉ wilds ∨ ∀ c ∈ text, (code.encode c).length = 1

theorem Narrow.of_cons {code : Code C α} {wild : Wild C} {wilds : List (Wild C)} {text rest : List C}
    (narrow : Narrow code (wild :: wilds) text) (suffix : rest <:+ text) : Narrow code wilds rest := by
  rcases narrow with absent | single
  · exact Or.inl fun member => absent (List.mem_cons_of_mem _ member)
  · exact Or.inr fun c member => single c (suffix.subset member)

variable [DecidableEq C] [DecidableEq α] {code : Code C α}

omit [DecidableEq C] in
/-- Where a pattern that begins with any number of characters matches from within a character, it matches from the
beginning of the character. -/
theorem test_spell_within {wilds : List (Wild C)} {text : List C} {c : C} {first middle : List α}
    (narrow : .anyOne ∉ wilds ∨ (code.encode c).length = 1) (written : code.encode c = first ++ middle)
    (some : first ≠ []) (more : middle ≠ []) (matched : test (spell code wilds) (middle ++ code.write text) = true) :
    ∃ rest, wilds = .anyMany :: rest ∧ test (spell code wilds) (code.write (c :: text)) = true := by
  obtain ⟨sign, middle, rfl⟩ := List.exists_cons_of_ne_nil more
  cases wilds with
  | nil => cases test_nil.mp matched
  | cons wild wilds =>
    cases wild with
    | char d =>
      obtain ⟨rest, same, _⟩ := test_exactly.mp matched
      obtain ⟨head, tail, isCode, isHead, _⟩ := code.begins d
      rw [isCode, List.cons_append, List.cons_append, List.cons.injEq] at same
      rw [← same.1, middle_isHead written some sign List.mem_cons_self] at isHead
      cases isHead
    | anyOne =>
      rcases narrow with absent | single
      · exact absurd List.mem_cons_self absent
      · have length := congrArg List.length written
        rw [single, List.length_append, List.length_cons] at length
        have positive := List.length_pos_iff.mpr some
        omega
    | anyMany =>
      refine ⟨wilds, rfl, test_many_mono ⟨first, ?_⟩ matched⟩
      rw [write_cons, written, List.append_assoc]

/-- The code of a pattern matches the code of a text where the pattern matches the text. -/
theorem test_spell : ∀ {wilds : List (Wild C)} {text : List C}, Narrow code wilds text →
    (test (spell code wilds) (code.write text) = true ↔ test (spell (Code.self C) wilds) text = true)
  | [], text, _ => by
    simp only [spell, test_nil]
    refine ⟨fun same => write_injective code same, fun same => by rw [same]; rfl⟩
  | .char c :: wilds, text, narrow => by
    simp only [spell, test_exactly]
    constructor
    · rintro ⟨rest, same, matched⟩
      obtain ⟨left, rfl, rfl⟩ := write_eq_encode_append code same
      exact ⟨left, rfl, (test_spell (narrow.of_cons (List.suffix_cons c left))).mp matched⟩
    · rintro ⟨left, rfl, matched⟩
      exact ⟨code.write left, rfl, (test_spell (narrow.of_cons (List.suffix_cons c left))).mpr matched⟩
  | .anyOne :: wilds, text, narrow => by
    rcases narrow with absent | single
    · exact absurd List.mem_cons_self absent
    · cases text with
      | nil => simp [spell, test]
      | cons c text =>
        obtain ⟨sign, isCode⟩ := List.length_eq_one_iff.mp (single c List.mem_cons_self)
        have rest := test_spell (Or.inr fun d member => single d (List.mem_cons_of_mem _ member) :
          Narrow code wilds text)
        simpa [spell, test, isCode] using rest
  | .anyMany :: wilds, text, narrow => by
    simp only [spell, test_many]
    constructor
    · rintro ⟨signs, inside, matched⟩
      rcases suffix_write inside with ⟨rest, suffix, rfl⟩ |
        ⟨c, rest, first, middle, suffix, rfl, more, written, some⟩
      · exact ⟨rest, suffix, (test_spell (narrow.of_cons suffix)).mp matched⟩
      · have here : Narrow code wilds (c :: rest) := narrow.of_cons suffix
        obtain ⟨_, _, matched⟩ := test_spell_within (here.imp_right fun single => single c List.mem_cons_self)
          written some more matched
        exact ⟨c :: rest, suffix, (test_spell here).mp matched⟩
    · rintro ⟨rest, suffix, matched⟩
      obtain ⟨before, rfl⟩ := suffix
      exact ⟨code.write rest, ⟨code.write before, (write_append code before rest).symm⟩,
        (test_spell (narrow.of_cons (List.suffix_append before rest))).mpr matched⟩

end Codes

end AlianStructure.Library.Wildcards
