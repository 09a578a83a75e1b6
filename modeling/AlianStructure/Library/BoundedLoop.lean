import Mathlib.Data.List.Basic

/-!
# Loops with a bound on their rounds

A loop that goes on while a condition holds and rounds are left, and whose rounds can fail.
-/
namespace AlianStructure.Library.BoundedLoop

variable {State Error : Type}

/-- As many rounds as are left, as long as the condition holds before them. -/
def loop (goesOn : State → Bool) (round : State → Except Error State) :
    Nat → State → Except Error State
  | 0, state => .ok state
  | left + 1, state => if goesOn state then round state >>= loop goesOn round left else .ok state

/-- The state in which the last round begins, when there is a first one. -/
def lastEntry (goesOn : State → Bool) (round : State → Except Error State) :
    Nat → State → Except Error State
  | 0, state => .ok state
  | left + 1, state => do
    let next ← round state
    if goesOn next then lastEntry goesOn round left next else .ok state

variable {goesOn : State → Bool} {round : State → Except Error State}

/-- A loop that begins ends with the round from its last entry. -/
theorem loop_eq_lastEntry : ∀ (left : Nat) {state : State}, goesOn state = true →
    loop goesOn round (left + 1) state = lastEntry goesOn round left state >>= round
  | 0, state, begins => by
    rw [loop, if_pos begins]
    cases ends : round state <;> exact ends.symm
  | left + 1, state, begins => by
    rw [loop, if_pos begins, lastEntry]
    cases ends : round state with
    | error failure => rfl
    | ok next =>
      change loop goesOn round (left + 1) next =
        (if goesOn next then lastEntry goesOn round left next else Except.ok state) >>= round
      split
      next again => exact loop_eq_lastEntry left again
      next stops =>
        rw [loop, if_neg stops]
        exact ends.symm

/-- What every round keeps holds where the last one begins. -/
theorem lastEntry_keeps (Invariant : State → Prop)
    (keeps : ∀ state next, Invariant state → round state = .ok next → Invariant next) :
    ∀ (left : Nat) {state entry : State}, Invariant state →
      lastEntry goesOn round left state = .ok entry → Invariant entry
  | 0, state, entry, holds, enters => by
    cases enters
    exact holds
  | left + 1, state, entry, holds, enters => by
    rw [lastEntry] at enters
    cases ends : round state with
    | error failure =>
      rw [ends] at enters
      cases enters
    | ok next =>
      rw [ends] at enters
      change (if goesOn next then lastEntry goesOn round left next else Except.ok state) = _
        at enters
      split at enters
      next => exact lastEntry_keeps Invariant keeps left (keeps state next holds ends) enters
      next =>
        cases enters
        exact holds

/-- A loop that begins ends as every one of its rounds does. -/
theorem loop_reaches {Entry Done : State → Prop}
    (keeps : ∀ state, Entry state → ∃ next, round state = .ok next ∧ Entry next ∧ Done next) :
    ∀ (left : Nat) {state : State}, goesOn state = true → Entry state →
      ∃ last, loop goesOn round (left + 1) state = .ok last ∧ Done last
  | left, state, begins, enters => by
    obtain ⟨next, ends, again, done⟩ := keeps state enters
    rw [loop, if_pos begins, ends]
    change ∃ last, loop goesOn round left next = .ok last ∧ Done last
    cases left with
    | zero => exact ⟨next, rfl, done⟩
    | succ left =>
      by_cases more : goesOn next = true
      · exact loop_reaches keeps left more again
      · exact ⟨next, by rw [loop, if_neg more], done⟩

section Each
variable {Item : Type} {step : State → Item → Except Error State}

/-- Where it depends on the items alone whether a step fails, the loop fails when an item does. -/
theorem foldlM_ok_iff (Good : Item → Prop)
    (good : ∀ state item, (∃ next, step state item = .ok next) ↔ Good item) :
    ∀ (items : List Item) (state : State),
      (∃ last, items.foldlM step state = .ok last) ↔ ∀ item ∈ items, Good item
  | [], state => iff_of_true ⟨state, rfl⟩ (List.forall_mem_nil _)
  | item :: items, state => by
    rw [List.forall_mem_cons, List.foldlM_cons, ← good state item]
    cases ends : step state item with
    | error failure =>
      refine iff_of_false ?_ ?_
      · rintro ⟨last, isLast⟩
        cases isLast
      · rintro ⟨⟨next, isNext⟩, _⟩
        cases isNext
    | ok next =>
      refine (foldlM_ok_iff Good good items next).trans (and_iff_right ?_).symm
      exact ⟨next, rfl⟩

theorem foldlM_keeps (Invariant : State → Prop)
    (keeps : ∀ state item next, Invariant state → step state item = .ok next → Invariant next) :
    ∀ (items : List Item) {state last : State}, Invariant state →
      items.foldlM step state = .ok last → Invariant last
  | [], state, last, holds, ends => by
    cases ends
    exact holds
  | item :: items, state, last, holds, ends => by
    rw [List.foldlM_cons] at ends
    cases first : step state item with
    | error failure =>
      rw [first] at ends
      cases ends
    | ok next =>
      rw [first] at ends
      exact foldlM_keeps Invariant keeps items (keeps state item next holds first) ends

end Each

end AlianStructure.Library.BoundedLoop
