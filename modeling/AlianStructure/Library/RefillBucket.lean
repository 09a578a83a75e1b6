import Mathlib.Algebra.Order.Field.Basic
import Mathlib.Data.List.Basic
import Mathlib.Tactic.Linarith
import Mathlib.Tactic.Ring

/-!
# A lazily refilled bucket

A bucket holds up to `capacity` units and gains `rate` units for each unit of
time. Nothing runs between requests: the stored level is the level at the
moment of the last request, and the refill is computed when the next one comes.
A key that was never stored stands for a full bucket. The development is over
an arbitrary ordered field and names no program.
-/
namespace AlianStructure.Library.RefillBucket

variable {K : Type} [Field K] [LinearOrder K]

/-- The level at the moment the bucket was last touched. -/
structure Bucket (K : Type) where
  level : K
  time : K
  deriving DecidableEq

/-- The level a request sees; an absent bucket is full. -/
def observe (capacity rate : K) (stored : Option (Bucket K)) (now : K) : K :=
  match stored with
  | none => capacity
  | some b => min capacity (b.level + (now - b.time) * rate)

/-- A request takes one unit when there is one. -/
def take (capacity rate : K) (stored : Option (Bucket K)) (now : K) : Bool × Bucket K :=
  let level := observe capacity rate stored now
  if 1 ≤ level then (true, ⟨level - 1, now⟩) else (false, ⟨level, now⟩)

/-- The requests of a history with their decisions, in order. -/
def serve (capacity rate : K) : Option (Bucket K) → List K → List (K × Bool)
  | _, [] => []
  | stored, now :: rest =>
      let answer := take capacity rate stored now
      (now, answer.1) :: serve capacity rate (some answer.2) rest

/-- The number of granted requests of a history with time in `[lo, hi]`. -/
def granted (lo hi : K) (history : List (K × Bool)) : Nat :=
  history.countP fun entry => entry.2 && decide (lo ≤ entry.1) && decide (entry.1 ≤ hi)

theorem observe_le_capacity (capacity rate : K) (stored : Option (Bucket K)) (now : K) :
    observe capacity rate stored now ≤ capacity := by
  cases stored with
  | none => exact le_refl _
  | some b => exact min_le_left _ _

theorem take_time (capacity rate : K) (stored : Option (Bucket K)) (now : K) :
    (take capacity rate stored now).2.time = now := by
  unfold take
  dsimp only
  split <;> rfl

theorem take_granted (capacity rate : K) (stored : Option (Bucket K)) (now : K) :
    (take capacity rate stored now).1 = true ↔ 1 ≤ observe capacity rate stored now := by
  unfold take
  dsimp only
  split <;> simp_all

/-- Level accounting of one request: what is left is what was seen, less the
unit that was handed out. -/
theorem take_level (capacity rate : K) (stored : Option (Bucket K)) (now : K) :
    (take capacity rate stored now).2.level =
      observe capacity rate stored now - (if (take capacity rate stored now).1 then 1 else 0) := by
  unfold take
  dsimp only
  split <;> simp

variable {capacity rate : K}

/-- A request only depends on the level it sees. -/
theorem take_congr {left right : Option (Bucket K)} {now : K}
    (same : observe capacity rate left now = observe capacity rate right now) :
    take capacity rate left now = take capacity rate right now := by
  unfold take
  rw [same]

/-- One more request adds its own decision, when it is counted at all. -/
theorem granted_cons_le (capacity rate lo hi : K) (stored : Option (Bucket K)) (now : K) (rest : List K) :
    granted lo hi (serve capacity rate stored (now :: rest)) ≤
      granted lo hi (serve capacity rate (some (take capacity rate stored now).2) rest) +
        (if (take capacity rate stored now).1 then 1 else 0) := by
  simp only [granted, serve, List.countP_cons]
  cases (take capacity rate stored now).1
  · simp
  · simp only [Bool.true_and, if_true]
    split <;> omega

/-- Requests outside the interval do not count. -/
theorem granted_eq_zero_of_after (capacity rate lo hi : K) :
    ∀ (times : List K) (stored : Option (Bucket K)), (∀ t ∈ times, hi < t) →
      granted lo hi (serve capacity rate stored times) = 0
  | [], _, _ => rfl
  | now :: rest, stored, after => by
    have later : ¬ now ≤ hi := not_le.mpr (after now (by simp))
    have tail := granted_eq_zero_of_after capacity rate lo hi rest
      (some (take capacity rate stored now).2) (fun t ht => after t (by simp [ht]))
    simp only [granted] at tail ⊢
    simp [serve, later, tail]

variable [IsStrictOrderedRing K]

/-- A bucket is never overdrawn while time does not run backwards. -/
theorem observe_nonneg (hc : 0 ≤ capacity) (hr : 0 ≤ rate) {b : Bucket K} (hb : 0 ≤ b.level) {now : K}
    (later : b.time ≤ now) : 0 ≤ observe capacity rate (some b) now := by
  have refill : 0 ≤ (now - b.time) * rate := mul_nonneg (sub_nonneg.mpr later) hr
  exact le_min hc (by linarith)

theorem take_level_nonneg {stored : Option (Bucket K)} {now : K} (seen : 0 ≤ observe capacity rate stored now) :
    0 ≤ (take capacity rate stored now).2.level := by
  unfold take
  dsimp only
  split
  next enough => exact sub_nonneg.mpr enough
  next => exact seen

/-- Once full, a bucket is seen full at every later time. -/
theorem observe_full_mono (hr : 0 ≤ rate) {b : Bucket K} {full now : K}
    (at_full : capacity ≤ b.level + (full - b.time) * rate) (later : full ≤ now) :
    observe capacity rate (some b) now = capacity := by
  have grows : (full - b.time) * rate ≤ (now - b.time) * rate :=
    mul_le_mul_of_nonneg_right (by linarith) hr
  exact min_eq_left (by linarith)

omit [IsStrictOrderedRing K] in
/-- After a denied request the next one is granted once the level that was left and the refill make a unit. -/
theorem take_after_denied (unit : 1 ≤ capacity) (stored : Option (Bucket K)) (now later : K) :
    (take capacity rate (some (take capacity rate stored now).2) later).1 = true ↔
      1 ≤ (take capacity rate stored now).2.level + (later - now) * rate := by
  have seen : observe capacity rate (some (take capacity rate stored now).2) later =
      min capacity ((take capacity rate stored now).2.level + (later - now) * rate) := by
    have time := take_time capacity rate stored now
    simp only [observe, time]
  rw [take_granted, seen, le_min_iff, and_iff_right unit]

/-- A burst at one instant takes whole units as long as there are any. -/
theorem serve_drain (capacity rate now : K) (rest : List K) :
    ∀ m : Nat, (m : K) ≤ capacity →
      serve capacity rate (some ⟨m, now⟩) (List.replicate m now ++ rest) =
        List.replicate m (now, true) ++ serve capacity rate (some ⟨0, now⟩) rest
  | 0, _ => by simp
  | m + 1, fits => by
    have unit : (1 : K) ≤ (m + 1 : ℕ) := by
      push_cast
      linarith [Nat.cast_nonneg (α := K) m]
    have left : ((m + 1 : ℕ) : K) - 1 = m := by
      push_cast
      ring
    have seen : observe capacity rate (some ⟨((m + 1 : ℕ) : K), now⟩) now = (m + 1 : ℕ) := by
      simp only [observe, sub_self, zero_mul, add_zero]
      exact min_eq_right fits
    simp only [List.replicate_succ, List.cons_append, serve, take, seen, if_pos unit, left]
    rw [serve_drain capacity rate now rest m (by linarith)]

/-- A burst on a full bucket empties it. -/
theorem serve_fresh (rate now : K) (m : Nat) (rest : List K) :
    serve ((m + 1 : ℕ) : K) rate none (List.replicate (m + 1) now ++ rest) = List.replicate (m + 1) (now, true) ++
        serve ((m + 1 : ℕ) : K) rate (some ⟨0, now⟩) rest := by
  have unit : (1 : K) ≤ (m + 1 : ℕ) := by
    push_cast
    linarith [Nat.cast_nonneg (α := K) m]
  have left : ((m + 1 : ℕ) : K) - 1 = m := by
    push_cast
    ring
  simp only [List.replicate_succ, List.cons_append, serve, take, observe, if_pos unit, left]
  rw [serve_drain _ rate now rest m (by linarith)]

/-- Potential argument from inside the interval: the grants up to `hi` are paid
for by the level now stored and the refill still to come. -/
theorem granted_le_of_stored (lo hi : K) (hc : 0 ≤ capacity) (hr : 0 ≤ rate) :
    ∀ (times : List K) (b : Bucket K), 0 ≤ b.level → b.time ≤ hi →
      times.Pairwise (· ≤ ·) → (∀ t ∈ times, b.time ≤ t) →
      (granted lo hi (serve capacity rate (some b) times) : K) ≤
        b.level + (hi - b.time) * rate
  | [], b, level, inside, _, _ => by
    have refill : 0 ≤ (hi - b.time) * rate := mul_nonneg (sub_nonneg.mpr inside) hr
    simp only [serve, granted, List.countP_nil, Nat.cast_zero]
    linarith
  | now :: rest, b, level, inside, sorted, later => by
    obtain ⟨head, tail⟩ := List.pairwise_cons.mp sorted
    have now_later : b.time ≤ now := later now (by simp)
    rcases le_or_gt now hi with within | beyond
    · -- One request: what it sees is at most the stored level plus the elapsed refill.
      have seen := observe_nonneg hc hr level now_later
      have bound : observe capacity rate (some b) now ≤ b.level + (now - b.time) * rate :=
        min_le_right _ _
      have accounted := take_level capacity rate (some b) now
      have stamp := take_time capacity rate (some b) now
      have ih := granted_le_of_stored lo hi hc hr rest (take capacity rate (some b) now).2
        (take_level_nonneg seen) (stamp.le.trans within) tail
        (fun t member => stamp.le.trans (head t member))
      rw [accounted, stamp] at ih
      have split : (hi - b.time) * rate = (now - b.time) * rate + (hi - now) * rate := by ring
      have counted : (granted lo hi (serve capacity rate (some b) (now :: rest)) : K) ≤
          granted lo hi (serve capacity rate (some (take capacity rate (some b) now).2) rest) +
            (if (take capacity rate (some b) now).1 then 1 else 0) := by
        exact_mod_cast granted_cons_le capacity rate lo hi (some b) now rest
      linarith
    · -- Sorted times: everything from here on lies after the interval.
      have none_left := granted_eq_zero_of_after capacity rate lo hi (now :: rest) (some b)
        (List.forall_mem_cons.mpr ⟨beyond, fun t member => beyond.trans_le (head t member)⟩)
      have refill : 0 ≤ (hi - b.time) * rate := mul_nonneg (sub_nonneg.mpr inside) hr
      rw [none_left, Nat.cast_zero]
      linarith

/-- Rate bound: whatever is stored at the start, the requests granted with time
in `[lo, hi]` number at most a full bucket plus the refill of the interval. -/
theorem granted_le {lo hi : K} (hc : 0 ≤ capacity) (hr : 0 ≤ rate) (order : lo ≤ hi) :
    ∀ (times : List K) (stored : Option (Bucket K)), times.Pairwise (· ≤ ·) →
      (∀ b, stored = some b → 0 ≤ b.level ∧ ∀ t ∈ times, b.time ≤ t) →
      (granted lo hi (serve capacity rate stored times) : K) ≤ capacity + (hi - lo) * rate
  | [], _, _, _ => by
    have refill : 0 ≤ (hi - lo) * rate := mul_nonneg (sub_nonneg.mpr order) hr
    simp only [serve, granted, List.countP_nil, Nat.cast_zero]
    linarith
  | now :: rest, stored, sorted, start => by
    obtain ⟨head, tail⟩ := List.pairwise_cons.mp sorted
    have seen : 0 ≤ observe capacity rate stored now := by
      cases stored with
      | none => exact hc
      | some b => exact observe_nonneg hc hr (start b rfl).1 ((start b rfl).2 now (by simp))
    have stamp := take_time capacity rate stored now
    have left := take_level_nonneg seen
    rcases lt_or_ge now lo with early | inside
    · -- Before the interval nothing counts, so the bound is that of the tail.
      have skipped : granted lo hi (serve capacity rate stored (now :: rest)) =
          granted lo hi (serve capacity rate (some (take capacity rate stored now).2) rest) := by
        simp [granted, serve, not_le.mpr early]
      rw [skipped]
      refine granted_le hc hr order rest _ tail ?_
      intro b stored_eq
      cases stored_eq
      exact ⟨left, fun t member => stamp.le.trans (head t member)⟩
    · rcases le_or_gt now hi with within | beyond
      · -- The first request inside sees at most a full bucket.
        have bound := granted_le_of_stored lo hi hc hr rest (take capacity rate stored now).2
          left (stamp.le.trans within) tail (fun t member => stamp.le.trans (head t member))
        rw [take_level, stamp] at bound
        have full := observe_le_capacity capacity rate stored now
        have shrink : (hi - now) * rate ≤ (hi - lo) * rate :=
          mul_le_mul_of_nonneg_right (by linarith) hr
        have counted : (granted lo hi (serve capacity rate stored (now :: rest)) : K) ≤
            granted lo hi (serve capacity rate (some (take capacity rate stored now).2) rest) +
              (if (take capacity rate stored now).1 then 1 else 0) := by
          exact_mod_cast granted_cons_le capacity rate lo hi stored now rest
        linarith
      · have none_left := granted_eq_zero_of_after capacity rate lo hi (now :: rest) stored
          (List.forall_mem_cons.mpr ⟨beyond, fun t member => beyond.trans_le (head t member)⟩)
        have refill : 0 ≤ (hi - lo) * rate := mul_nonneg (sub_nonneg.mpr order) hr
        rw [none_left, Nat.cast_zero]
        linarith

end AlianStructure.Library.RefillBucket
