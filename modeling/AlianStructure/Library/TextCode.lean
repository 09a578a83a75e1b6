import Mathlib.Data.List.Infix

/-!
# Codes of characters

A code writes a character as a first sign and some that follow, which no character begins with. A text is read off its
signs in one way, and where a suffix of the signs begins with a first sign it is the code of a suffix of the text.
-/
namespace AlianStructure.Library.TextCode

structure Code (C α : Type) where
  encode : C → List α
  /-- The sign begins a character. -/
  isHead : α → Bool
  begins : ∀ c, ∃ first rest, encode c = first :: rest ∧ isHead first = true ∧ ∀ a ∈ rest, isHead a = false
  prefixFree : ∀ c d (s t : List α), encode c ++ s = encode d ++ t → c = d

theorem self_begins {C : Type} (c : C) : ∃ first rest, [c] = first :: rest ∧ true = true ∧ ∀ a ∈ rest, true = false :=
  ⟨c, [], rfl, rfl, nofun⟩

theorem self_prefixFree {C : Type} (c d : C) (s t : List C) (same : [c] ++ s = [d] ++ t) : c = d :=
  (List.cons.inj same).1

/-- A text that is its own code. -/
def Code.self (C : Type) : Code C C where
  encode c := [c]
  isHead _ := true
  begins := self_begins
  prefixFree := self_prefixFree

section Texts
variable {C α : Type} (code : Code C α)

/-- The signs of a text. -/
def Code.write (text : List C) : List α := text.flatMap code.encode

@[simp] theorem write_nil : code.write [] = [] := rfl

@[simp] theorem write_cons (c : C) (text : List C) : code.write (c :: text) = code.encode c ++ code.write text := rfl

@[simp] theorem write_append (text other : List C) : code.write (text ++ other) = code.write text ++ code.write other :=
  List.flatMap_append

theorem encode_ne_nil (c : C) : code.encode c ≠ [] := by
  obtain ⟨first, rest, written, _⟩ := code.begins c
  rw [written]
  exact List.cons_ne_nil _ _

/-- What begins with a character is the code of a text that begins with it. -/
theorem write_eq_encode_append {text : List C} {c : C} {s : List α} (same : code.write text = code.encode c ++ s) :
    ∃ rest, text = c :: rest ∧ s = code.write rest := by
  cases text with
  | nil => exact absurd (List.append_eq_nil_iff.mp same.symm).1 (encode_ne_nil code c)
  | cons d rest =>
    rw [write_cons] at same
    obtain rfl := code.prefixFree _ _ _ _ same
    exact ⟨rest, rfl, (List.append_cancel_left same).symm⟩

theorem write_injective {text other : List C} (same : code.write text = code.write other) : text = other := by
  induction other generalizing text with
  | nil =>
    cases text with
    | nil => rfl
    | cons c rest => exact absurd (List.append_eq_nil_iff.mp same).1 (encode_ne_nil code c)
  | cons d other ih =>
    obtain ⟨rest, rfl, tail⟩ := write_eq_encode_append code same
    rw [ih tail.symm]

variable {code}

/-- A suffix of the signs of a text is the end of a character, and the code of what follows. -/
theorem suffix_write {text : List C} {s : List α} (suffix : s <:+ code.write text) :
    (∃ rest, rest <:+ text ∧ s = code.write rest) ∨
      ∃ c rest first middle, c :: rest <:+ text ∧ s = middle ++ code.write rest ∧ middle ≠ [] ∧
        code.encode c = first ++ middle ∧ first ≠ [] := by
  induction text with
  | nil =>
    rw [write_nil, List.suffix_nil] at suffix
    exact Or.inl ⟨[], List.suffix_refl _, suffix⟩
  | cons c text ih =>
    obtain ⟨before, split⟩ := suffix
    rw [write_cons] at split
    rcases List.append_eq_append_iff.mp split with ⟨middle, written, rfl⟩ | ⟨between, rfl, later⟩
    · by_cases atEnd : middle = []
      · exact Or.inl ⟨text, List.suffix_cons c text, by rw [atEnd, List.nil_append]⟩
      · by_cases atStart : before = []
        · refine Or.inl ⟨c :: text, List.suffix_refl _, ?_⟩
          rw [write_cons, written, atStart, List.nil_append]
        · exact Or.inr ⟨c, text, before, middle, List.suffix_refl _, rfl, atEnd, written, atStart⟩
    · rcases ih ⟨between, later.symm⟩ with ⟨rest, inside, same⟩ | ⟨d, rest, first, middle, inside, facts⟩
      · exact Or.inl ⟨rest, inside.trans (List.suffix_cons c text), same⟩
      · exact Or.inr ⟨d, rest, first, middle, inside.trans (List.suffix_cons c text), facts⟩

/-- The signs that follow the first of a character begin none. -/
theorem middle_isHead {c : C} {first middle : List α} (written : code.encode c = first ++ middle) (some : first ≠ []) :
    ∀ a ∈ middle, code.isHead a = false := by
  obtain ⟨head, rest, isCode, _, follow⟩ := code.begins c
  obtain ⟨other, tail, rfl⟩ := List.exists_cons_of_ne_nil some
  rw [isCode, List.cons_append, List.cons.injEq] at written
  intro a member
  exact follow a (written.2 ▸ List.mem_append_right _ member)

end Texts

end AlianStructure.Library.TextCode
