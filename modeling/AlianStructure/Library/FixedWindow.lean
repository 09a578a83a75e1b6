import Mathlib.Data.List.Basic
import Mathlib.Tactic.Linarith

/-!
# Counting in windows that begin with an event

An event opens a window when there is none, or the last one is over, and is counted in it otherwise.
Windows do not meet, so that in any period of their length there are events of two of them at most.
-/
namespace AlianStructure.Library.FixedWindow

variable {Event K : Type} [CommRing K] [LinearOrder K] (time start : Event → K) (length : K)

/-- The number of events of a window. -/
def countAt (events : List Event) (window : K) : Nat :=
  events.countP fun event => decide (start event = window)

/-- The number of events in a period of the length of a window. -/
def countFrom (events : List Event) (since : K) : Nat :=
  events.countP fun event => decide (since ≤ time event ∧ time event ≤ since + length)

/-- Events are in their windows, which do not meet. -/
structure Windowed (events : List Event) : Prop where
  inside : ∀ event ∈ events, start event ≤ time event ∧ time event < start event + length
  apart : ∀ event ∈ events, ∀ other ∈ events, start event < start other →
    start event + length ≤ start other

/-- What a counter, with its window, has counted. -/
structure Counted (events : List Event) (count : Nat) (window : K) : Prop
    extends Windowed time start length events where
  counted : countAt start events window = count
  latest : ∀ event ∈ events, start event ≠ window → start event + length ≤ window

section Counting
variable [IsStrictOrderedRing K] {time start length} {events : List Event} {event : Event} {count : Nat} {window : K}

omit [CommRing K] [IsStrictOrderedRing K] in
theorem countAt_concat (other : K) : countAt start (events ++ [event]) other =
    countAt start events other + if start event = other then 1 else 0 := by
  simp [countAt, List.countP_append, List.countP_cons]

omit [IsStrictOrderedRing K] in
theorem Windowed.nil : Windowed time start length [] := ⟨nofun, nofun⟩

/-- The first event, or one after the last window, opens a window. -/
theorem Windowed.opens (windowed : Windowed time start length events) (event : Event) (pos : 0 < length)
    (closed : ∀ other ∈ events, start other + length ≤ time event) (opened : start event = time event) :
    Counted time start length (events ++ [event]) 1 (start event) := by
  have old : ∀ other ∈ events ++ [event], start other ≠ start event →
      start other + length ≤ start event := by
    intro other member differs
    rcases List.mem_append.mp member with before | now
    · rw [opened]
      exact closed other before
    · rw [List.mem_singleton.mp now] at differs
      exact absurd rfl differs
  refine ⟨⟨fun other member => ?_, fun one first other second less => ?_⟩, ?_, old⟩
  · rcases List.mem_append.mp member with before | now
    · exact windowed.inside other before
    · rw [List.mem_singleton.mp now, opened]
      exact ⟨le_rfl, lt_add_of_pos_right _ pos⟩
  · rcases List.mem_append.mp second with before | now
    · rcases List.mem_append.mp first with early | late
      · exact windowed.apart one early other before less
      · have ended := closed other before
        rw [List.mem_singleton.mp late, opened] at less
        linarith
    · rw [List.mem_singleton.mp now] at less ⊢
      exact old one first (ne_of_lt less)
  · have none_before : countAt start events (start event) = 0 := by
      refine List.countP_eq_zero.mpr fun other member => ?_
      have ended := closed other member
      rw [decide_eq_true_eq, opened]
      linarith
    rw [countAt_concat, none_before, if_pos rfl]

/-- An event within the window of the counter is counted. -/
theorem Counted.counts (counted : Counted time start length events count window) (event : Event)
    (within : start event = window) (begun : window ≤ time event) (inside : time event < window + length) :
    Counted time start length (events ++ [event]) (count + 1) window := by
  have old : ∀ other ∈ events ++ [event], start other ≠ window →
      start other + length ≤ window := by
    intro other member differs
    rcases List.mem_append.mp member with before | now
    · exact counted.latest other before differs
    · rw [List.mem_singleton.mp now] at differs
      exact absurd within differs
  refine ⟨⟨fun other member => ?_, fun one first other second less => ?_⟩, ?_, old⟩
  · rcases List.mem_append.mp member with before | now
    · exact counted.inside other before
    · rw [List.mem_singleton.mp now, within]
      exact ⟨begun, inside⟩
  · by_cases here : start other = window
    · rw [here] at less ⊢
      exact old one first (ne_of_lt less)
    · rcases List.mem_append.mp second with before | now
      · rcases List.mem_append.mp first with early | late
        · exact counted.apart one early other before less
        · have ended := old other second here
          rw [List.mem_singleton.mp late, within] at less
          linarith
      · rw [List.mem_singleton.mp now] at here
        exact absurd within here
  · rw [countAt_concat, counted.counted, if_pos within]

omit [CommRing K] [LinearOrder K] [IsStrictOrderedRing K] in
theorem countP_le_two {p q r : Event → Bool} (covers : ∀ event ∈ events, p event = true →
    q event = true ∨ r event = true) : events.countP p ≤ events.countP q + events.countP r := by
  induction events with
  | nil => exact Nat.zero_le _
  | cons first rest ih =>
    have later := ih fun event member => covers event (List.mem_cons_of_mem _ member)
    have here := covers first List.mem_cons_self
    simp only [List.countP_cons]
    by_cases isP : p first = true
    · rcases here isP with isQ | isR
      · rw [if_pos isP, if_pos isQ]
        omega
      · rw [if_pos isP, if_pos isR]
        omega
    · rw [if_neg isP]
      omega

/-- Twice the events of a window are as many as there can be in a period of its length. -/
theorem Windowed.countFrom_le (windowed : Windowed time start length events) {limit : Nat}
    (limited : ∀ window, countAt start events window ≤ limit) (since : K) :
    countFrom time length events since ≤ 2 * limit := by
  have windows : ∃ first second, ∀ event ∈ events,
      since ≤ time event ∧ time event ≤ since + length → start event = first ∨ start event = second := by
    by_cases two : ∃ one ∈ events, ∃ other ∈ events,
        (since ≤ time one ∧ time one ≤ since + length) ∧
          (since ≤ time other ∧ time other ≤ since + length) ∧ start one < start other
    · obtain ⟨one, isOne, other, isOther, inOne, inOther, less⟩ := two
      refine ⟨start one, start other, fun event member within => ?_⟩
      have inside := windowed.inside event member
      have insideOne := windowed.inside one isOne
      have insideOther := windowed.inside other isOther
      have between := windowed.apart one isOne other isOther less
      by_contra neither
      rcases lt_trichotomy (start event) (start one) with before | same | after
      · have first := windowed.apart event member one isOne before
        linarith
      · exact neither (Or.inl same)
      · have first := windowed.apart one isOne event member after
        rcases lt_trichotomy (start event) (start other) with before | same | later
        · have second := windowed.apart event member other isOther before
          linarith
        · exact neither (Or.inr same)
        · have second := windowed.apart other isOther event member later
          linarith
    · by_cases any : ∃ one ∈ events, since ≤ time one ∧ time one ≤ since + length
      · obtain ⟨one, isOne, inOne⟩ := any
        refine ⟨start one, start one, fun event member within => Or.inl ?_⟩
        by_contra differs
        rcases lt_or_gt_of_ne differs with less | more
        · exact two ⟨event, member, one, isOne, within, inOne, less⟩
        · exact two ⟨one, isOne, event, member, inOne, within, more⟩
      · exact ⟨0, 0, fun event member within => absurd ⟨event, member, within⟩ any⟩
  obtain ⟨first, second, covers⟩ := windows
  have split : countFrom time length events since ≤
      countAt start events first + countAt start events second :=
    countP_le_two fun event member within => by
      rw [decide_eq_true_eq] at within ⊢
      rw [decide_eq_true_eq]
      exact covers event member within
  have one := limited first
  have two := limited second
  omega

end Counting

end AlianStructure.Library.FixedWindow
