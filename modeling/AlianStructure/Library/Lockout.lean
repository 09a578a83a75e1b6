import Mathlib.Algebra.Order.Monoid.Defs
import Mathlib.Data.List.Basic

/-!
# A lock after a number of failures

A wrong answer is counted, and the last one allowed locks the door for a while and clears the count; a right answer
clears both. A period as long as the lock, with no right answer in it, has no more wrong answers than are allowed.
-/
namespace AlianStructure.Library.Lockout

variable {K : Type} [AddCommMonoid K] [LinearOrder K] [IsOrderedAddMonoid K]

structure Lock (K : Type) where
  failures : Nat
  lockedUntil : Option K
  deriving DecidableEq

/-- A try, and what it has been judged to be, if it has been judged at all. -/
structure Try (K : Type) where
  time : K
  verdict : Option Bool

def Lock.isShut (lock : Lock K) (time : K) : Prop := ∃ limit ∈ lock.lockedUntil, time < limit

/-- The lock after a verdict. -/
def Lock.after (allowed : Nat) (duration : K) (lock : Lock K) (time : K) : Bool → Lock K
  | true => ⟨0, none⟩
  | false =>
    if allowed ≤ lock.failures + 1 then ⟨0, some (time + duration)⟩
    else ⟨lock.failures + 1, lock.lockedUntil⟩

/-- Tries are judged only where the lock, changed by every verdict, is open. -/
def Admits (allowed : Nat) (duration : K) : Lock K → List (Try K) → Prop
  | _, [] => True
  | lock, ⟨_, none⟩ :: tries => Admits allowed duration lock tries
  | lock, ⟨time, some right⟩ :: tries =>
    ¬ lock.isShut time ∧ Admits allowed duration (lock.after allowed duration time right) tries

omit [IsOrderedAddMonoid K] in
theorem admits_cons {allowed : Nat} {duration : K} {lock : Lock K} {tried : Try K} {tries : List (Try K)} :
    Admits allowed duration lock (tried :: tries) ↔
      match tried.verdict with
      | none => Admits allowed duration lock tries
      | some right => ¬ lock.isShut tried.time ∧
        Admits allowed duration (lock.after allowed duration tried.time right) tries := by
  obtain ⟨time, _ | right⟩ := tried <;> rfl

/-- A try of the period that begins at a time. -/
def Try.within (since duration : K) (tried : Try K) : Bool :=
  decide (since ≤ tried.time) && decide (tried.time < since + duration)

/-- The number of wrong answers of a period. -/
def wrongWithin (since duration : K) (tries : List (Try K)) : Nat :=
  tries.countP fun tried => tried.within since duration && decide (tried.verdict = some false)

section Counting
variable {allowed : Nat} {duration since : K} {lock : Lock K} {tries : List (Try K)}

omit [IsOrderedAddMonoid K] in
theorem wrongWithin_late (late : ∀ tried ∈ tries, since + duration ≤ tried.time) :
    wrongWithin since duration tries = 0 := by
  refine List.countP_eq_zero.mpr fun tried member counted => ?_
  simp only [Try.within, Bool.and_eq_true, decide_eq_true_eq] at counted
  exact absurd counted.1.2 (not_lt.mpr (late tried member))

/-- How many wrong answers a lock still lets through before the period is over. -/
def Lock.remaining (allowed : Nat) (finish : K) (lock : Lock K) : Nat :=
  if ∃ limit ∈ lock.lockedUntil, finish ≤ limit then 0 else max 1 (allowed - lock.failures)

omit [AddCommMonoid K] [IsOrderedAddMonoid K] in
theorem remaining_le (positive : 1 ≤ allowed) (finish : K) : lock.remaining allowed finish ≤ allowed := by
  unfold Lock.remaining
  split
  next => exact Nat.zero_le _
  next => exact max_le positive (Nat.sub_le _ _)

/-- A wrong answer in the period is one of those that remain. -/
theorem remaining_after (allowed : Nat) {time : K} (early : since ≤ time) (inside : time < since + duration)
    (isOpen : ¬ lock.isShut time) :
    (lock.after allowed duration time false).remaining allowed (since + duration) + 1 ≤
      lock.remaining allowed (since + duration) := by
  have unlocked : ¬ ∃ limit ∈ lock.lockedUntil, since + duration ≤ limit := by
    rintro ⟨limit, isLimit, beyond⟩
    exact isOpen ⟨limit, isLimit, inside.trans_le beyond⟩
  have before : lock.remaining allowed (since + duration) = max 1 (allowed - lock.failures) := if_neg unlocked
  rw [before]
  simp only [Lock.after]
  split
  next last =>
    have shut : (⟨0, some (time + duration)⟩ : Lock K).remaining allowed (since + duration) = 0 :=
      if_pos ⟨time + duration, rfl, add_le_add_left early duration⟩
    rw [shut]
    exact le_max_left _ _
  next more =>
    have left : (⟨lock.failures + 1, lock.lockedUntil⟩ : Lock K).remaining allowed (since + duration) =
        max 1 (allowed - (lock.failures + 1)) := if_neg unlocked
    rw [left]
    omega

/-- From the beginning of the period on, the wrong answers are those that remain. -/
theorem wrongWithin_le_remaining : ∀ {lock : Lock K} {tries : List (Try K)}, Admits allowed duration lock tries →
    tries.Pairwise (fun earlier later => earlier.time ≤ later.time) → (∀ tried ∈ tries, since ≤ tried.time) →
    (∀ tried ∈ tries, tried.within since duration = true → tried.verdict ≠ some true) →
    wrongWithin since duration tries ≤ lock.remaining allowed (since + duration)
  | _, [], _, _, _, _ => Nat.zero_le _
  | lock, ⟨time, none⟩ :: tries, admitted, ordered, started, unaccepted => by
    have admits : Admits allowed duration lock tries := admitted
    have rest := wrongWithin_le_remaining admits ordered.of_cons
      (fun tried member => started tried (List.mem_cons_of_mem _ member))
      (fun tried member => unaccepted tried (List.mem_cons_of_mem _ member))
    rw [wrongWithin, List.countP_cons_of_neg (by simp)]
    exact rest
  | lock, ⟨time, some right⟩ :: tries, ⟨isOpen, admitted⟩, ordered, started, unaccepted => by
    by_cases inside : time < since + duration
    · have early : since ≤ time := started _ List.mem_cons_self
      have within : (⟨time, some right⟩ : Try K).within since duration = true := by
        simp [Try.within, early, inside]
      cases right with
      | true => exact absurd rfl (unaccepted _ List.mem_cons_self within)
      | false =>
        have rest := wrongWithin_le_remaining admitted ordered.of_cons
          (fun tried member => started tried (List.mem_cons_of_mem _ member))
          (fun tried member => unaccepted tried (List.mem_cons_of_mem _ member))
        have one := remaining_after allowed early inside isOpen
        rw [wrongWithin, List.countP_cons_of_pos (by simp [within])]
        exact (Nat.succ_le_succ rest).trans one
    · have late : ∀ tried ∈ (⟨time, some right⟩ : Try K) :: tries, since + duration ≤ tried.time := by
        intro tried member
        rcases List.mem_cons.mp member with rfl | later
        · exact not_lt.mp inside
        · exact (not_lt.mp inside).trans (List.rel_of_pairwise_cons ordered later)
      rw [wrongWithin_late late]
      exact Nat.zero_le _

/-- A period with no right answer has no more wrong answers than are allowed. -/
theorem wrongWithin_le (positive : 1 ≤ allowed) : ∀ {lock : Lock K} {tries : List (Try K)},
    Admits allowed duration lock tries →
    tries.Pairwise (fun earlier later => earlier.time ≤ later.time) →
    (∀ tried ∈ tries, tried.within since duration = true → tried.verdict ≠ some true) →
    wrongWithin since duration tries ≤ allowed
  | _, [], _, _, _ => Nat.zero_le _
  | lock, tried :: tries, admitted, ordered, unaccepted => by
    by_cases early : since ≤ tried.time
    · have started : ∀ other ∈ tried :: tries, since ≤ other.time := by
        intro other member
        rcases List.mem_cons.mp member with rfl | later
        · exact early
        · exact early.trans (List.rel_of_pairwise_cons ordered later)
      exact (wrongWithin_le_remaining admitted ordered started unaccepted).trans (remaining_le positive _)
    · obtain ⟨next, admits⟩ : ∃ next : Lock K, Admits allowed duration next tries := by
        obtain ⟨time, _ | right⟩ := tried
        · exact ⟨lock, admitted⟩
        · exact ⟨_, admitted.2⟩
      have rest := wrongWithin_le positive admits ordered.of_cons
        (fun other member => unaccepted other (List.mem_cons_of_mem _ member))
      rw [wrongWithin, List.countP_cons_of_neg (by simp [Try.within, early])]
      exact rest

end Counting

end AlianStructure.Library.Lockout
