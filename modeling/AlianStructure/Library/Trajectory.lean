import Mathlib.Data.List.Basic

/-!
# Runs of a state machine

A run takes operations one after another. Where one operation keeps an invariant exactly under a
condition, the invariant holds in all states of a run exactly when every step meets the condition.
-/
namespace AlianStructure.Library.Trajectory

variable {State Op : Type} (step : State → Op → State)

/-- The states of a run, from the first one on. -/
def states : State → List Op → List State
  | state, [] => [state]
  | state, op :: ops => state :: states (step state op) ops

/-- Every step of a run meets a condition in the state where it is taken. -/
def Meets (condition : State → Op → Prop) : State → List Op → Prop
  | _, [] => True
  | state, op :: ops => condition state op ∧ Meets condition (step state op) ops

instance (condition : State → Op → Prop) [∀ state op, Decidable (condition state op)] :
    ∀ (state : State) (ops : List Op), Decidable (Meets step condition state ops)
  | _, [] => inferInstanceAs (Decidable True)
  | state, op :: ops =>
    have := instDecidableMeets condition (step state op) ops
    inferInstanceAs (Decidable (condition state op ∧ Meets step condition (step state op) ops))

variable {step}

theorem final_mem_states (step : State → Op → State) :
    ∀ (ops : List Op) (state : State), ops.foldl step state ∈ states step state ops
  | [], _ => List.mem_singleton_self _
  | _ :: ops, _ => List.mem_cons_of_mem _ (final_mem_states step ops _)

/-- A claim that follows from an invariant, that a step keeps exactly under a condition, and that keeps the
invariant where it holds. -/
theorem claim_iff_meets {Claim Invariant : State → Prop} {condition : State → Op → Prop}
    (implied : ∀ state, Invariant state → Claim state)
    (exactly : ∀ state op, Invariant state → (Claim (step state op) ↔ condition state op))
    (kept : ∀ state op, Invariant state → Claim (step state op) → Invariant (step state op)) :
    ∀ (ops : List Op) (state : State), Invariant state →
      ((∀ reached ∈ states step state ops, Claim reached) ↔ Meets step condition state ops)
  | [], state, holds => by
    refine iff_of_true (fun reached member => ?_) trivial
    rw [List.mem_singleton.mp member]
    exact implied state holds
  | op :: ops, state, holds => by
    have first : step state op ∈ states step (step state op) ops := by
      cases ops <;> exact List.mem_cons_self
    rw [states, List.forall_mem_cons, and_iff_right (implied state holds), Meets]
    constructor
    · intro all
      have claimed := all _ first
      exact ⟨(exactly state op holds).mp claimed,
        (claim_iff_meets implied exactly kept ops _ (kept state op holds claimed)).mp all⟩
    · rintro ⟨meets, rest⟩
      have claimed := (exactly state op holds).mpr meets
      exact (claim_iff_meets implied exactly kept ops _ (kept state op holds claimed)).mpr rest

/-- An invariant that a step keeps exactly under a condition. -/
theorem states_iff_meets {Invariant : State → Prop} {condition : State → Op → Prop}
    (exactly : ∀ state op, Invariant state → (Invariant (step state op) ↔ condition state op))
    (ops : List Op) (state : State) (holds : Invariant state) :
    (∀ reached ∈ states step state ops, Invariant reached) ↔ Meets step condition state ops :=
  claim_iff_meets (fun _ here => here) exactly (fun _ _ _ here => here) ops state holds

section Partial
variable (step : State → Op → Option State)

/-- The state after a run, when all its steps are possible. -/
def course : List Op → State → Option State
  | [], state => some state
  | op :: ops, state => (step state op).bind (course ops)

/-- Every step of a run meets a condition in the state where it is taken. -/
def Admits (condition : State → Op → Prop) : List Op → State → Prop
  | [], _ => True
  | op :: ops, state =>
    condition state op ∧ ∀ after, step state op = some after → Admits condition ops after

variable {step}

/-- Two conditions that agree wherever an invariant holds, and the first of which keeps it. -/
theorem admits_iff {first second : State → Op → Prop} {holds : State → Prop}
    (agree : ∀ state op, holds state → (first state op ↔ second state op))
    (keeps : ∀ state op after, holds state → first state op → step state op = some after →
      holds after) :
    ∀ {ops : List Op} {state : State}, holds state →
      (Admits step first ops state ↔ Admits step second ops state)
  | [], _, _ => Iff.rfl
  | op :: _, state, here => by
    constructor
    · rintro ⟨met, rest⟩
      exact ⟨(agree state op here).mp met, fun after stepped =>
        (admits_iff agree keeps (keeps state op after here met stepped)).mp (rest after stepped)⟩
    · rintro ⟨met, rest⟩
      have kept := (agree state op here).mpr met
      exact ⟨kept, fun after stepped =>
        (admits_iff agree keeps (keeps state op after here kept stepped)).mpr (rest after stepped)⟩

theorem admits_concat {condition : State → Op → Prop} {op : Op} :
    ∀ {ops : List Op} {state middle : State}, Admits step condition (ops ++ [op]) state →
      course step ops state = some middle → condition middle op
  | [], _, _, met, stopped => by
    cases stopped
    exact met.1
  | _ :: _, _, _, met, ran => by
    obtain ⟨after, stepped, goesOn⟩ := Option.bind_eq_some_iff.mp ran
    exact admits_concat (met.2 after stepped) goesOn

theorem course_keeps {holds : State → Prop}
    (keeps : ∀ state op after, holds state → step state op = some after → holds after) :
    ∀ {ops : List Op} {state after : State}, holds state → course step ops state = some after → holds after
  | [], _, _, here, ran => by
    cases ran
    exact here
  | op :: _, state, _, here, ran => by
    obtain ⟨middle, stepped, goesOn⟩ := Option.bind_eq_some_iff.mp ran
    exact course_keeps keeps (keeps state op middle here stepped) goesOn

end Partial

end AlianStructure.Library.Trajectory
