import Mathlib.Algebra.BigOperators.Ring.List
import Mathlib.Tactic.Ring
import AlianStructure.Library.ExactNumber

/-!
# Weights clipped into a box and rescaled

Weights that sum to one and lie in a box are feasible. Clipping into the box and dividing by the new
sum can lead out of the box again: exactly when the sum has grown and a weight is too small for it,
or the sum has shrunk and a weight is too large for it.
-/
namespace AlianStructure.Library.BoxedWeights
open ExactNumber Number

variable {K : Type}

section Weight
variable [LinearOrder K]

def clip (lo hi : K) (weight : Number K) : Number K := larger (finite lo) (smaller (finite hi) weight)

/-- The value of a weight that is clipped. -/
def clipped (lo hi : K) : Number K → K
  | finite weight => max lo (min hi weight)
  | infinite positive => if positive then hi else lo
  | nan => lo

variable {lo hi : K} {weight : Number K}

theorem clip_nan : clip lo hi nan = nan := by simp [clip, larger, smaller]

theorem clip_eq (ordered : lo ≤ hi) (number : weight ≠ nan) : clip lo hi weight = finite (clipped lo hi weight) := by
  cases weight with
  | finite value => rw [clip, smaller_finite, larger_finite, clipped]
  | infinite positive =>
    cases positive
    · have below : (infinite false : Number K) ≤ finite hi := rfl
      have not_above : ¬ finite hi ≤ (infinite false : Number K) := Bool.false_ne_true
      have out : ¬ finite lo ≤ (infinite false : Number K) := Bool.false_ne_true
      simp [clip, smaller, larger, clipped, not_above, out]
    · have above : finite hi ≤ (infinite true : Number K) := rfl
      simp [clip, smaller, larger, clipped, above, ordered]
  | nan => exact absurd rfl number

theorem clipped_ge (ordered : lo ≤ hi) : lo ≤ clipped lo hi weight := by
  cases weight with
  | finite value => exact le_max_left _ _
  | infinite positive => cases positive <;> simp [clipped, ordered]
  | nan => exact le_rfl

theorem clipped_le (ordered : lo ≤ hi) : clipped lo hi weight ≤ hi := by
  cases weight with
  | finite value => exact max_le ordered (min_le_left _ _)
  | infinite positive => cases positive <;> simp [clipped, ordered]
  | nan => exact ordered

/-- A bound above the lower one is met by the clipped weight when the weight itself meets it. -/
theorem le_clipped_iff {bound : K} (above : lo < bound) (below : bound ≤ hi)
    (number : weight ≠ nan) : bound ≤ clipped lo hi weight ↔ finite bound ≤ weight := by
  cases weight with
  | finite value => simp [clipped, not_le.mpr above, below]
  | infinite positive =>
    cases positive
    · exact iff_of_false (not_le.mpr above) Bool.false_ne_true
    · exact iff_of_true below rfl
  | nan => exact absurd rfl number

theorem clipped_le_iff {bound : K} (above : lo ≤ bound) (below : bound < hi)
    (number : weight ≠ nan) : clipped lo hi weight ≤ bound ↔ weight ≤ finite bound := by
  cases weight with
  | finite value => simp [clipped, above, not_le.mpr below]
  | infinite positive =>
    cases positive
    · exact iff_of_true above rfl
    · exact iff_of_false (not_le.mpr below) Bool.false_ne_true
  | nan => exact absurd rfl number

theorem finite_lt_iff {bound : K} (number : weight ≠ nan) : finite bound < weight ↔ ¬ weight ≤ finite bound := by
  change less _ _ = true ↔ ¬ atMost _ _ = true
  cases weight with
  | finite value =>
    simp only [less, atMost, Bool.and_eq_true, decide_eq_true_eq, Bool.not_eq_true',
      decide_eq_false_iff_not]
    exact ⟨fun both => both.2, fun notLe => ⟨le_of_not_ge notLe, notLe⟩⟩
  | infinite positive => cases positive <;> simp [less, atMost]
  | nan => exact absurd rfl number

theorem map_clip {weights : List (Number K)} (ordered : lo ≤ hi) (numbers : nan ∉ weights) :
    weights.map (clip lo hi) = (weights.map (clipped lo hi)).map finite := by
  rw [List.map_map]
  refine List.map_congr_left fun weight member => clip_eq ordered fun isNan => ?_
  exact numbers (isNan ▸ member)

end Weight

variable [Field K] [LinearOrder K]

def total (weights : List (Number K)) : Number K := sumFrom 0 weights

/-- Every weight lies between the bounds, and the weights sum to one. -/
def Feasible (lo hi : K) (weights : List (Number K)) : Prop :=
  (∀ weight ∈ weights, finite lo ≤ weight ∧ weight ≤ finite hi) ∧ total weights = finite 1

instance (lo hi : K) (weights : List (Number K)) : Decidable (Feasible lo hi weights) :=
  inferInstanceAs (Decidable (_ ∧ _))

/-- The bounds leave room for weights that sum to one. -/
structure Box (lo hi : K) (size : Nat) : Prop where
  nonneg : 0 ≤ lo
  ordered : lo ≤ hi
  room_below : size * lo ≤ 1
  room_above : 1 ≤ size * hi

def clippedTotal (lo hi : K) (weights : List (Number K)) : K := (weights.map (clipped lo hi)).sum

/-- Some weight is left after clipping; when the clipped sum exceeds one, no weight is below the
lower bound for that sum, and when it falls short of one, no weight is above the upper bound. -/
structure Fits (lo hi : K) (weights : List (Number K)) : Prop where
  numbers : nan ∉ weights
  some_left : 0 < lo ∨ ∃ weight ∈ weights, finite 0 < weight
  grown : 1 < clippedTotal lo hi weights →
    lo = 0 ∨ ∀ weight ∈ weights, finite (lo * clippedTotal lo hi weights) ≤ weight
  shrunk : clippedTotal lo hi weights < 1 →
    ∀ weight ∈ weights, weight ≤ finite (hi * clippedTotal lo hi weights)

variable [IsStrictOrderedRing K] {lo hi : K} {weights : List (Number K)}

theorem Box.total_bounds (box : Box lo hi weights.length) : weights.length * lo ≤ clippedTotal lo hi weights ∧
      clippedTotal lo hi weights ≤ weights.length * hi := by
  have above : ∀ value ∈ weights.map (clipped lo hi), lo ≤ value :=
    List.forall_mem_map.mpr fun _ _ => clipped_ge box.ordered
  have below : ∀ value ∈ weights.map (clipped lo hi), value ≤ hi :=
    List.forall_mem_map.mpr fun _ _ => clipped_le box.ordered
  have least := List.card_nsmul_le_sum _ _ above
  have most := List.sum_le_card_nsmul _ _ below
  rw [List.length_map, nsmul_eq_mul] at least most
  exact ⟨least, most⟩

theorem Box.hi_pos (box : Box lo hi weights.length) : 0 < hi := by
  refine lt_of_le_of_ne (box.nonneg.trans box.ordered) fun isZero => ?_
  have room := box.room_above
  rw [← isZero, mul_zero] at room
  exact absurd room (not_le.mpr zero_lt_one)

theorem Box.size_pos (box : Box lo hi weights.length) : (0 : K) < weights.length := by
  have nonneg : (0 : K) ≤ weights.length := Nat.cast_nonneg _
  rcases eq_or_lt_of_le nonneg with isZero | positive
  · have room := box.room_above
    rw [← isZero, zero_mul] at room
    exact absurd room (not_le.mpr zero_lt_one)
  · exact positive

/-- The scaled lower bound stays below the upper one. -/
theorem Box.scaled_lo_le (box : Box lo hi weights.length) : lo * clippedTotal lo hi weights ≤ hi := by
  calc lo * clippedTotal lo hi weights
      ≤ lo * (weights.length * hi) := mul_le_mul_of_nonneg_left box.total_bounds.2 box.nonneg
    _ = weights.length * lo * hi := by ring
    _ ≤ 1 * hi := mul_le_mul_of_nonneg_right box.room_below box.hi_pos.le
    _ = hi := one_mul hi

/-- The scaled upper bound stays above the lower one. -/
theorem Box.le_scaled_hi (box : Box lo hi weights.length) : lo ≤ hi * clippedTotal lo hi weights := by
  calc lo = 1 * lo := (one_mul lo).symm
    _ ≤ weights.length * hi * lo := mul_le_mul_of_nonneg_right box.room_above box.nonneg
    _ = hi * (weights.length * lo) := by ring
    _ ≤ hi * clippedTotal lo hi weights :=
      mul_le_mul_of_nonneg_left box.total_bounds.1 box.hi_pos.le

/-- Clipping leaves some weight. -/
theorem Box.total_pos_iff (box : Box lo hi weights.length) (numbers : nan ∉ weights) :
    0 < clippedTotal lo hi weights ↔ 0 < lo ∨ ∃ weight ∈ weights, finite 0 < weight := by
  have nonneg : ∀ value ∈ weights.map (clipped lo hi), 0 ≤ value :=
    List.forall_mem_map.mpr fun _ _ => box.nonneg.trans (clipped_ge box.ordered)
  constructor
  · intro positive
    rcases eq_or_lt_of_le box.nonneg with isZero | above
    · right
      by_contra none_positive
      have at_zero : ∀ value ∈ weights.map (clipped lo hi), value ≤ 0 := by
        refine List.forall_mem_map.mpr fun weight member => ?_
        have number : weight ≠ nan := fun isNan => numbers (isNan ▸ member)
        refine (clipped_le_iff isZero.ge box.hi_pos number).mpr ?_
        by_contra above
        exact none_positive ⟨weight, member, (finite_lt_iff number).mpr above⟩
      have vanishes := List.sum_le_card_nsmul _ _ at_zero
      rw [nsmul_zero] at vanishes
      exact absurd positive (not_lt.mpr vanishes)
    · exact Or.inl above
  · rintro (above | ⟨weight, member, positive⟩)
    · exact lt_of_lt_of_le (mul_pos box.size_pos above) box.total_bounds.1
    · have number : weight ≠ nan := fun isNan => numbers (isNan ▸ member)
      have counted : 0 < clipped lo hi weight := by
        by_contra notPositive
        have at_zero := not_lt.mp notPositive
        rcases eq_or_lt_of_le box.nonneg with isZero | above
        · rw [clipped_le_iff isZero.ge box.hi_pos number] at at_zero
          exact (finite_lt_iff number).mp positive at_zero
        · exact absurd (at_zero.trans_lt above) (not_lt.mpr (clipped_ge box.ordered))
      have part := List.single_le_sum nonneg (clipped lo hi weight) (List.mem_map_of_mem member)
      exact lt_of_lt_of_le counted part

/-- The clipped weights divided by their sum. -/
def rescaled (weights : List (Number K)) : List (Number K) :=
  weights.map (· / total weights)

omit [IsStrictOrderedRing K] in
theorem total_clip (ordered : lo ≤ hi) (numbers : nan ∉ weights) :
    total (weights.map (clip lo hi)) = finite (clippedTotal lo hi weights) := by
  have adds := sumFrom_finite 0 (weights.map (clipped lo hi))
  rw [zero_add] at adds
  rw [map_clip ordered numbers]
  exact adds

omit [IsStrictOrderedRing K] in
/-- A weight that is no number spoils all of them. -/
theorem not_feasible_of_nan (member : nan ∈ weights) : ¬ Feasible lo hi (rescaled (weights.map (clip lo hi))) := by
  intro feasible
  have clipped_nan : nan ∈ weights.map (clip lo hi) :=
    List.mem_map.mpr ⟨nan, member, clip_nan⟩
  have spoilt : nan ∈ rescaled (weights.map (clip lo hi)) := by
    refine List.mem_map.mpr ⟨nan, clipped_nan, ?_⟩
    rw [total, sumFrom_of_mem_nan clipped_nan, div_nan]
  exact not_le_nan _ (feasible.1 nan spoilt).1

/-- Without any weight left there is nothing to divide by. -/
theorem not_feasible_of_total_zero (box : Box lo hi weights.length) (numbers : nan ∉ weights)
    (isZero : clippedTotal lo hi weights = 0) : ¬ Feasible lo hi (rescaled (weights.map (clip lo hi))) := by
  intro feasible
  have totals := total_clip box.ordered numbers
  rw [isZero] at totals
  have some_weight : weights ≠ [] := by
    rintro rfl
    exact absurd box.size_pos (by simp)
  obtain ⟨weight, member⟩ := List.exists_mem_of_ne_nil weights some_weight
  have number : weight ≠ nan := fun isNan => numbers (isNan ▸ member)
  have between := feasible.1 (clip lo hi weight / total (weights.map (clip lo hi)))
    (List.mem_map_of_mem (List.mem_map_of_mem member))
  rw [totals, clip_eq box.ordered number] at between
  exact div_zero_not_between between

omit [IsStrictOrderedRing K] in
/-- Dividing by what is left gives weights that sum to one. -/
theorem rescaled_clip (ordered : lo ≤ hi) (numbers : nan ∉ weights) (nonzero : clippedTotal lo hi weights ≠ 0) :
    Feasible lo hi (rescaled (weights.map (clip lo hi))) ↔
      ∀ weight ∈ weights, lo ≤ clipped lo hi weight / clippedTotal lo hi weights ∧
        clipped lo hi weight / clippedTotal lo hi weights ≤ hi := by
  have shares : rescaled (weights.map (clip lo hi)) =
      (weights.map fun weight => clipped lo hi weight / clippedTotal lo hi weights).map finite := by
    rw [rescaled, total_clip ordered numbers, map_clip ordered numbers, List.map_map,
      List.map_map, List.map_map]
    exact List.map_congr_left fun _ _ => finite_div_finite nonzero
  have sums : (weights.map fun weight => clipped lo hi weight / clippedTotal lo hi weights).sum = 1 := by
    simp only [div_eq_mul_inv, List.sum_map_mul_right]
    exact mul_inv_cancel₀ nonzero
  have totals := sumFrom_finite 0
    (weights.map fun weight => clipped lo hi weight / clippedTotal lo hi weights)
  rw [sums, zero_add] at totals
  rw [Feasible, shares]
  refine (and_iff_left totals).trans ?_
  simp only [List.forall_mem_map, finite_le_finite]

/-- A sum above one only raises the lower bound, a sum below one only lowers the upper bound. -/
theorem scaled_iff (box : Box lo hi weights.length) (numbers : nan ∉ weights)
    (positive : 0 < clippedTotal lo hi weights) :
    (∀ weight ∈ weights, lo ≤ clipped lo hi weight / clippedTotal lo hi weights ∧
        clipped lo hi weight / clippedTotal lo hi weights ≤ hi) ↔ (1 < clippedTotal lo hi weights →
        lo = 0 ∨ ∀ weight ∈ weights, finite (lo * clippedTotal lo hi weights) ≤ weight) ∧
      (clippedTotal lo hi weights < 1 → ∀ weight ∈ weights, weight ≤ finite (hi * clippedTotal lo hi weights)) := by
  have lower := box.scaled_lo_le
  have upper := box.le_scaled_hi
  generalize clippedTotal lo hi weights = sum at *
  simp only [le_div_iff₀ positive, div_le_iff₀ positive]
  constructor
  · refine fun within => ⟨fun grown => or_iff_not_imp_left.mpr fun nonzero weight member => ?_,
      fun shrunk weight member => ?_⟩
    · have number : weight ≠ nan := fun isNan => numbers (isNan ▸ member)
      have raised : lo < lo * sum :=
        lt_mul_of_one_lt_right (lt_of_le_of_ne box.nonneg (Ne.symm nonzero)) grown
      exact (le_clipped_iff raised lower number).mp (within weight member).1
    · have number : weight ≠ nan := fun isNan => numbers (isNan ▸ member)
      have lowered : hi * sum < hi := mul_lt_of_lt_one_right box.hi_pos shrunk
      exact (clipped_le_iff upper lowered number).mp (within weight member).2
  · rintro ⟨above, below⟩ weight member
    have number : weight ≠ nan := fun isNan => numbers (isNan ▸ member)
    have ge_lo : lo ≤ clipped lo hi weight := clipped_ge box.ordered
    have le_hi : clipped lo hi weight ≤ hi := clipped_le box.ordered
    constructor
    · rcases le_or_gt sum 1 with notGrown | grown
      · exact (mul_le_of_le_one_right box.nonneg notGrown).trans ge_lo
      · rcases above grown with isZero | fits
        · rw [isZero, zero_mul]
          exact isZero ▸ ge_lo
        · rcases eq_or_lt_of_le box.nonneg with isZero | nonzero
          · rw [← isZero, zero_mul]
            exact isZero ▸ ge_lo
          · have raised : lo < lo * sum := lt_mul_of_one_lt_right nonzero grown
            exact (le_clipped_iff raised lower number).mpr (fits weight member)
    · rcases le_or_gt 1 sum with notShrunk | shrunk
      · exact le_hi.trans (le_mul_of_one_le_right box.hi_pos.le notShrunk)
      · have lowered : hi * sum < hi := mul_lt_of_lt_one_right box.hi_pos shrunk
        exact (clipped_le_iff upper lowered number).mpr (below shrunk weight member)

/-- Clipping and rescaling gives feasible weights exactly for weights that fit. -/
theorem rescaled_feasible_iff (box : Box lo hi weights.length) :
    Feasible lo hi (rescaled (weights.map (clip lo hi))) ↔ Fits lo hi weights := by
  by_cases numbers : nan ∈ weights
  · exact iff_of_false (not_feasible_of_nan numbers) fun fits => fits.numbers numbers
  · have some_left := box.total_pos_iff numbers
    have nonneg : 0 ≤ clippedTotal lo hi weights :=
      (mul_nonneg box.size_pos.le box.nonneg).trans box.total_bounds.1
    rcases eq_or_lt_of_le nonneg with isZero | positive
    · refine iff_of_false (not_feasible_of_total_zero box numbers isZero.symm) fun fits => ?_
      exact absurd (some_left.mpr fits.some_left) (not_lt.mpr isZero.ge)
    · rw [rescaled_clip box.ordered numbers positive.ne', scaled_iff box numbers positive]
      exact ⟨fun both => ⟨numbers, some_left.mp positive, both.1, both.2⟩,
        fun fits => ⟨fits.grown, fits.shrunk⟩⟩

end AlianStructure.Library.BoxedWeights
