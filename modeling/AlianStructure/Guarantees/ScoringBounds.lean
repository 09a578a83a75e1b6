import Mathlib.Data.String.Basic
import Mathlib.Tactic.Linarith
import Mathlib.Tactic.Positivity
import AlianStructure.Source.Discovery.AgentScoring

/-!
# Scores between 0 and 100

Source: src/discovery/algorithms/agent-scoring.ts:62-188. Weights whose sum is within a tolerance of one are taken as
they are; a negative override may leave a negative weight.
-/
namespace AlianStructure.Guarantees.ScoringBounds
open Library.ExactNumber Source.Discovery AgentScoring

structure NonNegative (weights : ScoringWeights) : Prop where
  successRate : 0 ≤ weights.successRate
  roi : 0 ≤ weights.roi
  risk : 0 ≤ weights.risk
  userRating : 0 ≤ weights.userRating

/-- A factor is the same, or a number that is at least as large; a missing one is zero. -/
def Grows (old new : Option (Number ℚ)) : Prop :=
  new = old ∨ ∃ x y, old.getD (.finite 0) = .finite x ∧ new.getD (.finite 0) = .finite y ∧ x ≤ y

/-- No factor gets worse. -/
structure Improves (old new : AgentMetrics) : Prop where
  successRate : Grows old.successRate new.successRate
  roi : Grows old.roi new.roi
  risk : Grows new.risk old.risk
  userRating : Grows old.userRating new.userRating

/-- The score before it is rounded. -/
def exactScore (curve : RoiCurve) (m : AgentMetrics) (resolved : ScoringWeights) : ℚ :=
  weighted (breakdown curve m) resolved * 100

/-- What is asked of the scores that weights give. -/
structure Bounded (curve : RoiCurve) (weights : Option PartialScoringWeights) (resolved : ScoringWeights) : Prop where
  nonNegative : NonNegative resolved
  exact : ∀ m, 0 ≤ exactScore curve m resolved ∧ exactScore curve m resolved ≤ 100 * resolved.total
  rounded : ∀ m, 0 ≤ (score curve m weights).score ∧ (score curve m weights).score ≤ 100
  exactGrows : ∀ old new, Improves old new → exactScore curve old resolved ≤ exactScore curve new resolved
  roundedGrows : ∀ old new, Improves old new → (score curve old weights).score ≤ (score curve new weights).score

/-- A ranking has every score once, in order. -/
structure Ranked (curve : RoiCurve) (collation : Collation) (weights : Option PartialScoringWeights) : Prop where
  all : ∀ agents, ((rank curve collation agents weights).map RankedAgent.toAgentScore).Perm
    (agents.map fun agent => score curve agent weights)
  ordered : ∀ agents, (rank curve collation agents weights).Pairwise fun x y => y.score ≤ x.score

/-- The weights add up to one, but for a tolerance where the weights given do so already. -/
structure AddUp (weights : Option PartialScoringWeights) (resolved : ScoringWeights) : Prop where
  near : |resolved.total - 1| < 1 / 10 ^ 9
  one : 1 / 10 ^ 9 ≤ |(merge weights).total - 1| → resolved.total = 1

/-- The weights given are not negative, or do not add up to anything. -/
def Usable (weights : Option PartialScoringWeights) : Prop :=
  NonNegative (merge weights) ∨ (merge weights).total ≤ 0

/-! ## Weights -/

theorem default_nonNegative : NonNegative DEFAULT_WEIGHTS := by
  constructor <;> norm_num [DEFAULT_WEIGHTS]

theorem default_total : DEFAULT_WEIGHTS.total = 1 := by
  norm_num [DEFAULT_WEIGHTS, ScoringWeights.total]

theorem resolveWeights_addUp (weights : Option PartialScoringWeights) : AddUp weights (resolveWeights weights) := by
  unfold resolveWeights
  dsimp only
  split
  next =>
    constructor
    · rw [default_total, sub_self, abs_zero]
      positivity
    · exact fun _ => default_total
  next positive =>
    split
    next near => exact ⟨near, fun far => absurd near (not_lt.mpr far)⟩
    next =>
      have nonzero : (merge weights).total ≠ 0 := (not_le.mp positive).ne'
      have one : ScoringWeights.total ⟨(merge weights).successRate / (merge weights).total,
          (merge weights).roi / (merge weights).total, (merge weights).risk / (merge weights).total,
          (merge weights).userRating / (merge weights).total⟩ = 1 := by
        rw [ScoringWeights.total, ← add_div, ← add_div, ← add_div]
        exact div_self nonzero
      constructor
      · rw [one, sub_self, abs_zero]
        positivity
      · exact fun _ => one

theorem resolveWeights_nonNegative {weights : Option PartialScoringWeights} (usable : Usable weights) :
    NonNegative (resolveWeights weights) := by
  unfold resolveWeights
  dsimp only
  split
  next => exact default_nonNegative
  next positive =>
    have given : NonNegative (merge weights) := usable.resolve_right positive
    have total : 0 ≤ (merge weights).total := (not_le.mp positive).le
    split
    next => exact given
    next =>
      exact ⟨div_nonneg given.successRate total, div_nonneg given.roi total, div_nonneg given.risk total,
        div_nonneg given.userRating total⟩

/-! ## Components -/

theorem clamp_nonneg (n : Number ℚ) : 0 ≤ clamp n 0 1 := by
  unfold clamp
  split
  next => exact le_min zero_le_one (le_max_left _ _)
  next => exact le_rfl

theorem clamp_le_one (n : Number ℚ) : clamp n 0 1 ≤ 1 := by
  unfold clamp
  split
  next => exact min_le_left _ _
  next => exact zero_le_one

theorem clamp_finite_mono {x y : ℚ} (le : x ≤ y) : clamp (.finite x) 0 1 ≤ clamp (.finite y) 0 1 :=
  min_le_min_left _ (max_le_max_left _ le)

/-- All components are between 0 and 1. -/
structure Unit (b : ScoreBreakdown) : Prop where
  successRate : 0 ≤ b.successRate ∧ b.successRate ≤ 1
  roi : 0 ≤ b.roi ∧ b.roi ≤ 1
  risk : 0 ≤ b.risk ∧ b.risk ≤ 1
  userRating : 0 ≤ b.userRating ∧ b.userRating ≤ 1

/-- Every component is at least as large as another one. -/
structure Above (old new : ScoreBreakdown) : Prop where
  successRate : old.successRate ≤ new.successRate
  roi : old.roi ≤ new.roi
  risk : old.risk ≤ new.risk
  userRating : old.userRating ≤ new.userRating

theorem breakdown_unit (curve : RoiCurve) (m : AgentMetrics) : Unit (breakdown curve m) := by
  constructor
  · exact ⟨clamp_nonneg _, clamp_le_one _⟩
  · exact ⟨(curve.positive _).le, (curve.below _).le⟩
  · exact ⟨sub_nonneg.mpr (clamp_le_one _), sub_le_self _ (clamp_nonneg _)⟩
  · exact ⟨clamp_nonneg _, clamp_le_one _⟩

variable {old new : Option (Number ℚ)}

theorem clamp_grows (grows : Grows old new) : clamp (old.getD (.finite 0)) 0 1 ≤ clamp (new.getD (.finite 0)) 0
    1 := by
  rcases grows with rfl | ⟨x, y, isOld, isNew, le⟩
  · exact le_rfl
  · rw [isOld, isNew]
    exact clamp_finite_mono le

theorem roi_grows (curve : RoiCurve) (grows : Grows old new) :
    normalizeRoi curve (old.getD (.finite 0)) ≤ normalizeRoi curve (new.getD (.finite 0)) := by
  rcases grows with rfl | ⟨x, y, isOld, isNew, le⟩
  · exact le_rfl
  · rw [isOld, isNew]
    exact curve.grows.monotone le

theorem rating_grows (grows : Grows old new) :
    clamp (old.getD (.finite 0) / .finite 5) 0 1 ≤ clamp (new.getD (.finite 0) / .finite 5) 0 1 := by
  rcases grows with rfl | ⟨x, y, isOld, isNew, le⟩
  · exact le_rfl
  · rw [isOld, isNew, Number.finite_div_finite (by norm_num), Number.finite_div_finite (by norm_num)]
    exact clamp_finite_mono (div_le_div_of_nonneg_right le (by norm_num))

theorem breakdown_above (curve : RoiCurve) {old new : AgentMetrics} (improves : Improves old new) :
    Above (breakdown curve old) (breakdown curve new) where
  successRate := clamp_grows improves.successRate
  roi := roi_grows curve improves.roi
  risk := sub_le_sub_left (clamp_grows improves.risk) 1
  userRating := rating_grows improves.userRating

/-! ## The weighted sum -/

variable {weights : ScoringWeights}

theorem weighted_mono {old new : ScoreBreakdown} (above : Above old new) (nonNegative : NonNegative weights) :
    weighted old weights ≤ weighted new weights := by
  unfold weighted
  gcongr
  · exact nonNegative.successRate
  · exact above.successRate
  · exact nonNegative.roi
  · exact above.roi
  · exact nonNegative.risk
  · exact above.risk
  · exact nonNegative.userRating
  · exact above.userRating

theorem weighted_nonneg {b : ScoreBreakdown} (unit : Unit b) (nonNegative : NonNegative weights) :
    0 ≤ weighted b weights := by
  have below : Above ⟨0, 0, 0, 0⟩ b := ⟨unit.successRate.1, unit.roi.1, unit.risk.1, unit.userRating.1⟩
  calc (0 : ℚ) = weighted ⟨0, 0, 0, 0⟩ weights := by simp [weighted]
    _ ≤ weighted b weights := weighted_mono below nonNegative

theorem weighted_le_total {b : ScoreBreakdown} (unit : Unit b) (nonNegative : NonNegative weights) :
    weighted b weights ≤ weights.total := by
  have above : Above b ⟨1, 1, 1, 1⟩ := ⟨unit.successRate.2, unit.roi.2, unit.risk.2, unit.userRating.2⟩
  calc weighted b weights ≤ weighted ⟨1, 1, 1, 1⟩ weights := weighted_mono above nonNegative
    _ = weights.total := by simp [weighted, ScoringWeights.total]

/-! ## Rounding -/

theorem round_mono {x y : ℚ} (le : x ≤ y) : AgentScoring.round x ≤ AgentScoring.round y := by
  unfold AgentScoring.round
  gcongr

theorem round_nonneg {x : ℚ} (nonneg : 0 ≤ x) : 0 ≤ AgentScoring.round x := by
  have zero : AgentScoring.round 0 = 0 := by
    norm_num [AgentScoring.round, EPSILON]
  exact zero ▸ round_mono nonneg

theorem round_le {x : ℚ} (near : x ≤ 100 + 1 / 10 ^ 7) : AgentScoring.round x ≤ 100 := by
  have most : AgentScoring.round (100 + 1 / 10 ^ 7) = 100 := by
    norm_num [AgentScoring.round, EPSILON]
  exact most ▸ round_mono near

section Ranking
variable (collation : Collation)

theorem compare_iff (x y : AgentScore) : compare collation x y ≤ 0 ↔ y.score < x.score ∨ y.score = x.score ∧
    (y.executions < x.executions ∨
      y.executions = x.executions ∧ collation.localeCompare x.agentId y.agentId ≤ 0) := by
  unfold AgentScoring.compare
  by_cases score : y.score - x.score = 0
  · have same := sub_eq_zero.mp score
    by_cases executions : y.executions - x.executions = 0
    · simp [same, sub_eq_zero.mp executions]
    · have differ : y.executions ≠ x.executions := sub_ne_zero.mp executions
      simp [executions, same, differ, le_iff_lt_or_eq]
  · have differ : y.score ≠ x.score := sub_ne_zero.mp score
    simp [score, differ, le_iff_lt_or_eq]

theorem compare_total (x y : AgentScore) : compare collation x y ≤ 0 ∨ compare collation y x ≤ 0 := by
  rw [compare_iff, compare_iff]
  rcases lt_trichotomy y.score x.score with more | same | less
  · exact .inl (.inl more)
  · rcases lt_trichotomy y.executions x.executions with more | equal | less
    · exact .inl (.inr ⟨same, .inl more⟩)
    · rcases le_total (collation.localeCompare x.agentId y.agentId) 0 with first | second
      · exact .inl (.inr ⟨same, .inr ⟨equal, first⟩⟩)
      · refine .inr (.inr ⟨same.symm, .inr ⟨equal.symm, ?_⟩⟩)
        rw [collation.reverses]
        exact Int.neg_nonpos_of_nonneg second
    · exact .inr (.inr ⟨same.symm, .inl less⟩)
  · exact .inr (.inl less)

theorem compare_trans (x y z : AgentScore) (first : compare collation x y ≤ 0) (second : compare collation y z ≤ 0) :
    compare collation x z ≤ 0 := by
  rw [compare_iff] at first second ⊢
  rcases first with more | ⟨score, first⟩
  · rcases second with further | ⟨score, -⟩
    · exact .inl (further.trans more)
    · exact .inl (score ▸ more)
  · rcases second with more | ⟨next, second⟩
    · exact .inl (score ▸ more)
    · refine .inr ⟨next.trans score, ?_⟩
      rcases first with more | ⟨executions, first⟩
      · rcases second with further | ⟨executions, -⟩
        · exact .inl (further.trans more)
        · exact .inl (executions ▸ more)
      · rcases second with more | ⟨next, second⟩
        · exact .inl (executions ▸ more)
        · exact .inr ⟨next.trans executions, collation.transitive _ _ _ first second⟩

theorem rank_scores (curve : RoiCurve) (agents : List AgentMetrics) (weights : Option PartialScoringWeights) :
    (rank curve collation agents weights).map RankedAgent.toAgentScore =
      (agents.map fun agent => score curve agent weights).mergeSort fun x y => decide (compare collation x y ≤ 0) := by
  refine List.ext_getElem (by simp [rank]) fun i _ _ => ?_
  simp [rank]

theorem rank_ranked (curve : RoiCurve) (weights : Option PartialScoringWeights) : Ranked curve collation weights := by
  constructor
  · intro agents
    rw [rank_scores]
    exact List.mergeSort_perm _ _
  · intro agents
    have sorted : ((agents.map fun agent => score curve agent weights).mergeSort fun x y =>
        decide (compare collation x y ≤ 0)).Pairwise fun x y => decide (compare collation x y ≤ 0) :=
      List.pairwise_mergeSort (by simpa using compare_trans collation) (by simpa using compare_total collation) _
    rw [← rank_scores, List.pairwise_map] at sorted
    refine sorted.imp fun before => ?_
    rcases (compare_iff collation _ _).mp (of_decide_eq_true before) with more | ⟨same, -⟩
    · exact more.le
    · exact same.le

end Ranking

theorem resolveWeights_bounded (curve : RoiCurve) {weights : Option PartialScoringWeights} (usable : Usable weights) :
    Bounded curve weights (resolveWeights weights) := by
  have nonNegative := resolveWeights_nonNegative usable
  have grows : ∀ old new, Improves old new →
      exactScore curve old (resolveWeights weights) ≤ exactScore curve new (resolveWeights weights) :=
    fun old new improves => mul_le_mul_of_nonneg_right
      (weighted_mono (breakdown_above curve improves) nonNegative) (by norm_num)
  have exact : ∀ m, 0 ≤ exactScore curve m (resolveWeights weights) ∧
      exactScore curve m (resolveWeights weights) ≤ 100 * (resolveWeights weights).total := by
    intro m
    have unit := breakdown_unit curve m
    refine ⟨mul_nonneg (weighted_nonneg unit nonNegative) (by norm_num), ?_⟩
    rw [exactScore, mul_comm]
    exact mul_le_mul_of_nonneg_left (weighted_le_total unit nonNegative) (by norm_num)
  constructor
  · exact nonNegative
  · exact exact
  · intro m
    refine ⟨round_nonneg (exact m).1, round_le ((exact m).2.trans ?_)⟩
    have near := (abs_lt.mp (resolveWeights_addUp weights).near).2
    linarith
  · exact grows
  · exact fun old new improves => round_mono (grows old new improves)

/-- The weights add up to one but for the tolerance, and every ranking has all scores in order. Weights that are not
negative give scores between 0 and 100 that no improvement lowers. -/
theorem scoring_bounded (curve : RoiCurve) (collation : Collation) :
    (∀ weights, AddUp weights (resolveWeights weights) ∧ Ranked curve collation weights ∧
      (Usable weights → Bounded curve weights (resolveWeights weights))) ∧
    ∀ number env, AddUp (some (envWeights number env)) (weightsFromEnv number env) ∧
      (Usable (some (envWeights number env)) →
        Bounded curve (some (envWeights number env)) (weightsFromEnv number env)) :=
  ⟨fun weights => ⟨resolveWeights_addUp weights, rank_ranked collation curve weights, resolveWeights_bounded curve⟩,
    fun number env => ⟨resolveWeights_addUp (some (envWeights number env)), resolveWeights_bounded curve⟩⟩

theorem squash_cross {x y : ℚ} (less : x < y) : x * |y| ≤ y * |x| := by
  rcases le_total 0 x with positive | negative
  · rw [abs_of_nonneg positive, abs_of_nonneg (positive.trans less.le), mul_comm]
  · rcases le_total 0 y with above | below
    · exact (mul_nonpos_of_nonpos_of_nonneg negative (abs_nonneg y)).trans (mul_nonneg above (abs_nonneg x))
    · rw [abs_of_nonpos negative, abs_of_nonpos below, mul_neg, mul_neg, mul_comm]

/-- A curve through 1/2 at zero. -/
def squash : RoiCurve where
  value roi := (1 + roi / (1 + |roi|)) / 2
  positive roi := by
    have above : -1 < roi / (1 + |roi|) := by
      rw [lt_div_iff₀ (by positivity)]
      linarith [neg_abs_le roi]
    linarith
  below roi := by
    have below : roi / (1 + |roi|) < 1 := by
      rw [div_lt_one (by positivity)]
      linarith [le_abs_self roi]
    linarith
  grows x y less := by
    have grown : x / (1 + |x|) < y / (1 + |y|) := by
      rw [div_lt_div_iff₀ (by positivity) (by positivity)]
      linarith [squash_cross less]
    dsimp only
    linarith

/-- Texts in the order of their characters. -/
def byCharacter : Collation where
  localeCompare a b := if a < b then -1 else if b < a then 1 else 0
  reverses a b := by
    rcases lt_trichotomy a b with less | rfl | more
    · simp [less, less.asymm]
    · simp
    · simp [more, more.asymm]
  transitive a b c first second := by
    have ordered : ∀ {a b : String}, (if a < b then (-1 : Int) else if b < a then 1 else 0) ≤ 0 → a ≤ b := by
      intro a b holds
      by_contra more
      rw [if_neg (not_lt.mpr (not_le.mp more).le), if_pos (not_le.mp more)] at holds
      exact absurd holds (by decide)
    rcases ((ordered first).trans (ordered second)).lt_or_eq with less | rfl
    · simp [less]
    · simp

/-- Half of the weight for success: the weights are divided by 11/10. -/
def successFirst : Option PartialScoringWeights := some ⟨some (1 / 2), none, none, none⟩

theorem scoring_bounded_success : (resolveWeights successFirst).successRate = 5 / 11 ∧
    AddUp successFirst (resolveWeights successFirst) ∧ Ranked squash byCharacter successFirst ∧
      Bounded squash successFirst (resolveWeights successFirst) := by
  have usable : Usable successFirst := .inl (by constructor <;> norm_num [successFirst, merge, DEFAULT_WEIGHTS])
  obtain ⟨addUp, ranked, bounded⟩ := (scoring_bounded squash byCharacter).1 successFirst
  refine ⟨?_, addUp, ranked, bounded usable⟩
  norm_num [successFirst, resolveWeights, merge, DEFAULT_WEIGHTS, ScoringWeights.total, abs_lt]

/-- An override within the tolerance keeps its sum, and a negative one its sign. -/
theorem scoring_unbounded : (resolveWeights (some ⟨some (4 / 10 + 1 / 10 ^ 10), none, none, none⟩)).total ≠ 1 ∧
      ¬ 0 ≤ (resolveWeights (some ⟨some (-4 / 10), none, none, none⟩)).successRate := by
  constructor <;> norm_num [resolveWeights, merge, DEFAULT_WEIGHTS, ScoringWeights.total, abs_lt]

end AlianStructure.Guarantees.ScoringBounds
