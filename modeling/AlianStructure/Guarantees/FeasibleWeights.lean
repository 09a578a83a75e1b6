import AlianStructure.Library.BoxedWeights
import AlianStructure.Library.Failing
import AlianStructure.Source.Investment.ModernPortfolioTheory

/-!
# Feasible portfolio weights

Source: src/investment/portfolio/algorithms/modern-portfolio-theory.ts:135-326,374-448. Clipping
comes before the division by the sum, so the weights can leave the bounds again. An optimiser returns
a feasible portfolio exactly when the weights that it constrains last fit the bounds.
-/
namespace AlianStructure.Guarantees.FeasibleWeights
open Library.BoundedLoop Library.BoxedWeights Library.ExactNumber.Number Library.Failing
open Source Source.Investment ModernPortfolioTheory

/-- The program ends without an exception, with such weights. -/
def Yields (program : Except Exception (List Quantity)) (post : List Quantity → Prop) : Prop :=
  match program with
  | .ok weights => post weights
  | .error _ => False

instance (program : Except Exception (List Quantity)) (post : List Quantity → Prop)
    [DecidablePred post] : Decidable (Yields program post) :=
  match program with
  | .ok weights => inferInstanceAs (Decidable (post weights))
  | .error _ => inferInstanceAs (Decidable False)

/-- The constraints, or their defaults, leave room for weights that sum to one. -/
structure Bounded (constraints : OptimizationConstraints) (lo hi : ℚ) (n : Nat) : Prop where
  lower : constraints.minWeight.getD (finite 0) = finite lo
  upper : constraints.maxWeight.getD (finite 1) = finite hi
  box : Box lo hi n

inductive Optimiser where
  | meanVariance (expectedReturns : List Quantity) (covarianceMatrix : List (List Quantity))
      (riskFreeRate : Quantity)
  | riskParity (covarianceMatrix : List (List Quantity))
  | minVariance (covarianceMatrix : List (List Quantity))
  | minVarianceWithTarget (expectedReturns : List Quantity)
      (covarianceMatrix : List (List Quantity)) (targetReturn : Quantity)

namespace Optimiser

/-- The number of assets. -/
def size : Optimiser → Nat
  | meanVariance expectedReturns _ _ => expectedReturns.length
  | riskParity covarianceMatrix => covarianceMatrix.length
  | minVariance covarianceMatrix => covarianceMatrix.length
  | minVarianceWithTarget expectedReturns _ _ => expectedReturns.length

variable (sqrt : Quantity → Quantity) (constraints : OptimizationConstraints)

def run : Optimiser → Except Exception (List Quantity)
  | meanVariance expectedReturns covarianceMatrix riskFreeRate =>
    meanVarianceOptimization sqrt expectedReturns covarianceMatrix riskFreeRate constraints
  | riskParity covarianceMatrix => riskParityOptimization sqrt covarianceMatrix constraints
  | minVariance covarianceMatrix => minVarianceOptimization covarianceMatrix constraints
  | minVarianceWithTarget expectedReturns covarianceMatrix targetReturn =>
    minVariancePortfolioWithTarget expectedReturns covarianceMatrix targetReturn constraints

/-- The weights before the last of the iterations, adjusted for the last time. -/
def adjustedLast (adjust : List Quantity → Except Exception (List Quantity))
    (iterations n : Nat) : Except Exception (List Quantity) := do
  let weights ← lastEntry (fun _ => true) (fun weights => do
    applyConstraints (← adjust weights) constraints) (iterations - 1) (equalWeights n)
  adjust weights

/-- The weights that are constrained last. -/
def handed : Optimiser → Except Exception (List Quantity)
  | meanVariance expectedReturns covarianceMatrix riskFreeRate => do
    let ascent ← lastEntry improves
      (ascend sqrt expectedReturns covarianceMatrix riskFreeRate constraints) 999
      ⟨equalWeights expectedReturns.length, infinite true⟩
    climb sqrt expectedReturns covarianceMatrix riskFreeRate ascent.weights
  | riskParity covarianceMatrix =>
    adjustedLast constraints (equalizeRisk sqrt covarianceMatrix) 100 covarianceMatrix.length
  | minVariance covarianceMatrix =>
    adjustedLast constraints (descend covarianceMatrix) 1000 covarianceMatrix.length
  | minVarianceWithTarget expectedReturns covarianceMatrix targetReturn =>
    adjustedLast constraints (approachTarget expectedReturns covarianceMatrix targetReturn) 1000
      expectedReturns.length

end Optimiser

section Constraints
variable {constraints : OptimizationConstraints} {lo hi : ℚ} {n : Nat}

theorem Bounded.minWeight (bounded : Bounded constraints lo hi n) :
    (constraints.minWeight.getD nan).orElse (finite 0) = finite lo := by
  have lower := bounded.lower
  cases given : constraints.minWeight with
  | none =>
    rw [given] at lower
    cases lower
    rfl
  | some value =>
    rw [given] at lower
    cases lower
    change (if _ then _ else _) = _
    split
    next vanishes =>
      rcases vanishes with isZero | isNan
      · exact isZero.symm
      · cases isNan
    next => rfl

theorem Bounded.maxWeight (bounded : Bounded constraints lo hi n) :
    (constraints.maxWeight.getD nan).orElse (finite 1) = finite hi := by
  have upper := bounded.upper
  cases given : constraints.maxWeight with
  | none =>
    rw [given] at upper
    cases upper
    rfl
  | some value =>
    rw [given] at upper
    cases upper
    change (if _ then _ else _) = _
    split
    next vanishes =>
      rcases vanishes with isZero | isNan
      · have room := bounded.box.room_above
        cases isZero
        simp at room
        exact absurd room (by norm_num)
      · cases isNan
    next => rfl

variable {weights : List Quantity}

theorem reduceSum_eq (some_weight : weights ≠ []) : reduceSum weights = .ok (total weights) := by
  cases weights with
  | nil => exact absurd rfl some_weight
  | cons first rest =>
    have begins : (0 : Quantity) + first = first := by
      cases first with
      | finite value => exact congrArg finite (zero_add value)
      | infinite positive => rfl
      | nan => rfl
    have adds : total (first :: rest) = sumFrom (0 + first) rest := rfl
    rw [adds, begins, reduceSum]

theorem applyConstraints_eq (bounded : Bounded constraints lo hi n) (size : weights.length = n) :
    applyConstraints weights constraints = .ok (rescaled (weights.map (clip lo hi))) := by
  have some_weight : weights.map (clip lo hi) ≠ [] := by
    intro isEmpty
    rw [List.map_eq_nil_iff] at isEmpty
    subst isEmpty
    subst size
    exact absurd bounded.box.room_above (by simp)
  rw [applyConstraints, bounded.minWeight, bounded.maxWeight]
  change normalize (weights.map (clip lo hi)) = _
  rw [ModernPortfolioTheory.normalize, reduceSum_eq some_weight]
  rfl

theorem constrained_iff (bounded : Bounded constraints lo hi n) (size : weights.length = n) :
    Yields (applyConstraints weights constraints) (Feasible lo hi) ↔ Fits lo hi weights := by
  rw [applyConstraints_eq bounded size]
  exact rescaled_feasible_iff (size ▸ bounded.box)

end Constraints

section Optimisers
variable {sqrt : Quantity → Quantity} {constraints : OptimizationConstraints} {lo hi : ℚ} {n : Nat}

theorem normalize_length {weights normalized : List Quantity}
    (ends : normalize weights = .ok normalized) : normalized.length = weights.length := by
  cases weights with
  | nil => cases ends
  | cons first rest =>
    cases ends
    exact List.length_map _

theorem applyConstraints_length {weights constrained : List Quantity}
    (ends : applyConstraints weights constraints = .ok constrained) : constrained.length = weights.length :=
  (normalize_length ends).trans (List.length_map _)

/-- An adjustment that keeps the number of weights. -/
def KeepsSize (adjust : List Quantity → Except Exception (List Quantity)) (n : Nat) : Prop :=
  ∀ weights adjusted : List Quantity, weights.length = n → adjust weights = .ok adjusted →
    adjusted.length = n

variable {adjust : List Quantity → Except Exception (List Quantity)}

theorem adjusted_eq (iterations : Nat) : adjusted adjust constraints (iterations + 1) n =
      Optimiser.adjustedLast constraints adjust (iterations + 1) n >>= fun handed =>
        applyConstraints handed constraints := by
  rw [adjusted, loop_eq_lastEntry iterations rfl, Optimiser.adjustedLast, Nat.add_sub_cancel]
  exact (bind_assoc _ _ _).symm

theorem adjustedLast_length {iterations : Nat} {handed : List Quantity} (keeps : KeepsSize adjust n)
    (ends : Optimiser.adjustedLast constraints adjust iterations n = .ok handed) : handed.length = n := by
  obtain ⟨weights, enters, adjusts⟩ := bind_ok ends
  refine keeps weights handed ?_ adjusts
  refine lastEntry_keeps (fun weights => weights.length = n) ?_ _ ?_ enters
  · intro state next size round
    obtain ⟨middle, first, second⟩ := bind_ok round
    exact (applyConstraints_length second).trans (keeps state middle size first)
  · exact List.length_replicate

theorem adjusted_iff (bounded : Bounded constraints lo hi n) (iterations : Nat) (keeps : KeepsSize adjust n) :
    Yields (adjusted adjust constraints (iterations + 1) n) (Feasible lo hi) ↔
      Yields (Optimiser.adjustedLast constraints adjust (iterations + 1) n) (Fits lo hi) := by
  rw [adjusted_eq]
  cases ends : Optimiser.adjustedLast constraints adjust (iterations + 1) n with
  | error failure => exact Iff.rfl
  | ok handed => exact constrained_iff bounded (adjustedLast_length keeps ends)

variable {covarianceMatrix : List (List Quantity)}

theorem equalizeRisk_size : KeepsSize (equalizeRisk sqrt covarianceMatrix) covarianceMatrix.length := by
  intro weights adjusted _ ends
  obtain ⟨variance, _, rest⟩ := bind_ok ends
  obtain ⟨riskContribution, _, normalizes⟩ := bind_ok rest
  refine (normalize_length normalizes).trans ?_
  rw [List.length_map, List.length_range]

theorem descend_size : KeepsSize (descend covarianceMatrix) covarianceMatrix.length := by
  intro weights adjusted _ ends
  obtain ⟨gradient, _, normalizes⟩ := bind_ok ends
  refine (normalize_length normalizes).trans ?_
  rw [List.length_map, List.length_range]

theorem approachTarget_size {expectedReturns : List Quantity} {targetReturn : Quantity} :
    KeepsSize (approachTarget expectedReturns covarianceMatrix targetReturn) expectedReturns.length := by
  intro weights adjusted size ends
  obtain ⟨variance, _, rest⟩ := bind_ok ends
  split at rest
  next =>
    obtain ⟨descended, descends, normalizes⟩ := bind_ok rest
    refine (normalize_length normalizes).trans ?_
    refine foldlM_keeps (fun weights => weights.length = expectedReturns.length) ?_ _ size descends
    intro state i next kept step
    obtain ⟨covariances, _, sets⟩ := bind_ok step
    cases sets
    rw [List.length_set, kept]
  next =>
    refine (normalize_length rest).trans ?_
    rw [List.length_map, List.length_range]

section MeanVariance
variable {expectedReturns : List Quantity} {covarianceMatrix : List (List Quantity)}
  {riskFreeRate : Quantity}

/-- The variance needs a row of the matrix for every asset, and nothing else. -/
theorem variance_ok_iff {n : Nat} : (∃ variance, portfolioVariance weights covarianceMatrix n = .ok variance) ↔
      ∀ i ∈ List.range n, ∃ covariances, row covarianceMatrix i = .ok covariances := by
  refine foldlM_ok_iff (fun i => ∃ covariances, row covarianceMatrix i = .ok covariances) ?_ _ _
  intro state i
  cases row covarianceMatrix i with
  | error failure =>
    refine iff_of_false ?_ ?_
    · rintro ⟨next, isNext⟩
      cases isNext
    · rintro ⟨covariances, isRow⟩
      cases isRow
  | ok covariances => exact iff_of_true ⟨_, rfl⟩ ⟨covariances, rfl⟩

theorem metrics_ok_iff : (∃ metrics, calculatePortfolioMetrics sqrt weights expectedReturns covarianceMatrix
        riskFreeRate = .ok metrics) ↔
      ∃ variance, portfolioVariance weights covarianceMatrix weights.length = .ok variance := by
  constructor
  · rintro ⟨metrics, ends⟩
    obtain ⟨variance, adds, _⟩ := bind_ok ends
    exact ⟨variance, adds⟩
  · rintro ⟨variance, adds⟩
    rw [calculatePortfolioMetrics, adds]
    exact ⟨_, rfl⟩

theorem metrics_ok_of_length {weights others : List Quantity} {metrics : PortfolioMetrics}
    (size : others.length = weights.length)
    (ends : calculatePortfolioMetrics sqrt weights expectedReturns covarianceMatrix riskFreeRate = .ok metrics) :
    ∃ metrics', calculatePortfolioMetrics sqrt others expectedReturns covarianceMatrix riskFreeRate =
      .ok metrics' := by
  have rows := variance_ok_iff.mp (metrics_ok_iff.mp ⟨metrics, ends⟩)
  rw [← size] at rows
  exact metrics_ok_iff.mpr (variance_ok_iff.mpr rows)

theorem climb_ok {weights climbed : List Quantity}
    (climbs : climb sqrt expectedReturns covarianceMatrix riskFreeRate weights = .ok climbed) :
    climbed.length = expectedReturns.length ∧
      ∃ metrics, calculatePortfolioMetrics sqrt weights expectedReturns covarianceMatrix
        riskFreeRate = .ok metrics := by
  obtain ⟨gradient, isGradient, normalizes⟩ := bind_ok climbs
  obtain ⟨metrics, isMetrics, _⟩ := bind_ok isGradient
  refine ⟨(normalize_length normalizes).trans ?_, metrics, isMetrics⟩
  rw [List.length_map, List.length_range]

theorem ascend_ok {ascent next : Ascent}
    (ends : ascend sqrt expectedReturns covarianceMatrix riskFreeRate constraints ascent = .ok next) :
    ∃ climbed, climb sqrt expectedReturns covarianceMatrix riskFreeRate ascent.weights =
        .ok climbed ∧ applyConstraints climbed constraints = .ok next.weights := by
  obtain ⟨metrics, _, rest⟩ := bind_ok ends
  obtain ⟨climbed, climbs, rest⟩ := bind_ok rest
  obtain ⟨weights, constrains, rest⟩ := bind_ok rest
  obtain ⟨newMetrics, _, isNext⟩ := bind_ok rest
  cases isNext
  exact ⟨climbed, climbs, constrains⟩

theorem ascend_of_climb {ascent : Ascent} {climbed weights : List Quantity}
    (size : ascent.weights.length = expectedReturns.length)
    (climbs : climb sqrt expectedReturns covarianceMatrix riskFreeRate ascent.weights = .ok climbed)
    (constrains : applyConstraints climbed constraints = .ok weights) :
    ∃ improvement, ascend sqrt expectedReturns covarianceMatrix riskFreeRate constraints ascent =
      .ok ⟨weights, improvement⟩ := by
  obtain ⟨climbed_size, metrics, isMetrics⟩ := climb_ok climbs
  have same_size : weights.length = ascent.weights.length :=
    (applyConstraints_length constrains).trans (climbed_size.trans size.symm)
  obtain ⟨newMetrics, isNew⟩ := metrics_ok_of_length same_size isMetrics
  refine ⟨newMetrics.sharpeRatio - metrics.sharpeRatio, ?_⟩
  rw [ascend, isMetrics]
  change (do
    let climbed ← climb sqrt expectedReturns covarianceMatrix riskFreeRate ascent.weights
    let weights ← applyConstraints climbed constraints
    let newMetrics ← calculatePortfolioMetrics sqrt weights expectedReturns covarianceMatrix
      riskFreeRate
    return (⟨weights, newMetrics.sharpeRatio - metrics.sharpeRatio⟩ : Ascent)) = _
  rw [climbs]
  change (do
    let weights ← applyConstraints climbed constraints
    let newMetrics ← calculatePortfolioMetrics sqrt weights expectedReturns covarianceMatrix
      riskFreeRate
    return (⟨weights, newMetrics.sharpeRatio - metrics.sharpeRatio⟩ : Ascent)) = _
  rw [constrains]
  change (do
    let newMetrics ← calculatePortfolioMetrics sqrt weights expectedReturns covarianceMatrix
      riskFreeRate
    return (⟨weights, newMetrics.sharpeRatio - metrics.sharpeRatio⟩ : Ascent)) = _
  rw [isNew]
  rfl

theorem meanVariance_iff (bounded : Bounded constraints lo hi expectedReturns.length) :
    Yields (meanVarianceOptimization sqrt expectedReturns covarianceMatrix riskFreeRate constraints)
        (Feasible lo hi) ↔ Yields ((Optimiser.meanVariance expectedReturns covarianceMatrix riskFreeRate).handed sqrt
        constraints) (Fits lo hi) := by
  rw [meanVarianceOptimization, loop_eq_lastEntry 999 rfl, Optimiser.handed]
  cases enters : lastEntry improves
      (ascend sqrt expectedReturns covarianceMatrix riskFreeRate constraints) 999
      ⟨equalWeights expectedReturns.length, infinite true⟩ with
  | error failure => exact Iff.rfl
  | ok ascent =>
    have size : ascent.weights.length = expectedReturns.length := by
      refine lastEntry_keeps (fun ascent => ascent.weights.length = expectedReturns.length) ?_ _ ?_
        enters
      · intro state next _ round
        obtain ⟨climbed, climbs, constrains⟩ := ascend_ok round
        exact (applyConstraints_length constrains).trans (climb_ok climbs).1
      · exact List.length_replicate
    change Yields (ascend sqrt expectedReturns covarianceMatrix riskFreeRate constraints ascent >>=
        fun ascent => .ok ascent.weights) _ ↔
      Yields (climb sqrt expectedReturns covarianceMatrix riskFreeRate ascent.weights) _
    cases climbs : climb sqrt expectedReturns covarianceMatrix riskFreeRate ascent.weights with
    | error failure =>
      refine iff_of_false (fun yields => ?_) not_false
      cases ends : ascend sqrt expectedReturns covarianceMatrix riskFreeRate constraints ascent with
      | error failure =>
        rw [ends] at yields
        exact yields
      | ok next =>
        obtain ⟨climbed, climbs', _⟩ := ascend_ok ends
        cases climbs.symm.trans climbs'
    | ok climbed =>
      have fits := constrained_iff bounded (climb_ok climbs).1
      have constrains := applyConstraints_eq bounded (climb_ok climbs).1
      obtain ⟨improvement, ends⟩ := ascend_of_climb size climbs constrains
      rw [constrains] at fits
      rw [ends]
      exact fits

end MeanVariance

end Optimisers

/-- The weights that come out are feasible exactly when those that are constrained last fit. -/
theorem weights_feasible_iff (sqrt : Quantity → Quantity) {constraints : OptimizationConstraints}
    {lo hi : ℚ} {n : Nat} (bounded : Bounded constraints lo hi n) : (∀ weights : List Quantity, weights.length = n →
      (Yields (applyConstraints weights constraints) (Feasible lo hi) ↔ Fits lo hi weights)) ∧
    ∀ optimiser : Optimiser, optimiser.size = n → (Yields (optimiser.run sqrt constraints) (Feasible lo hi) ↔
        Yields (optimiser.handed sqrt constraints) (Fits lo hi)) := by
  refine ⟨fun weights size => constrained_iff bounded size, fun optimiser size => ?_⟩
  subst size
  cases optimiser with
  | meanVariance expectedReturns covarianceMatrix riskFreeRate => exact meanVariance_iff bounded
  | riskParity covarianceMatrix => exact adjusted_iff bounded 99 equalizeRisk_size
  | minVariance covarianceMatrix => exact adjusted_iff bounded 999 descend_size
  | minVarianceWithTarget expectedReturns covarianceMatrix targetReturn =>
    exact adjusted_iff bounded 999 approachTarget_size

/-- One weight of three takes everything, at most a half of which it may have. -/
theorem one_hot_out_of_bounds : Bounded ⟨some (finite 0), some (finite (1 / 2))⟩ 0 (1 / 2) 3 ∧
      ¬ Yields (applyConstraints [finite 1, finite 0, finite 0]
        ⟨some (finite 0), some (finite (1 / 2))⟩) (Feasible 0 (1 / 2)) := by
  refine ⟨⟨rfl, rfl, ?_⟩, by decide +kernel⟩
  constructor <;> norm_num

/-- Weights within the bounds that sum to one stay feasible. -/
theorem even_weights_feasible : Yields (applyConstraints [finite (1 / 2), finite (1 / 4), finite (1 / 4)]
      ⟨none, some (finite (1 / 2))⟩) (Feasible 0 (1 / 2)) :=
  ((weights_feasible_iff id ⟨rfl, rfl, by constructor <;> norm_num⟩).1 _ rfl).mpr
    ⟨by decide +kernel, Or.inr ⟨finite (1 / 2), List.mem_cons_self, by decide +kernel⟩,
      fun grown => absurd grown (by decide +kernel), fun shrunk => absurd shrunk (by decide +kernel)⟩

end AlianStructure.Guarantees.FeasibleWeights
