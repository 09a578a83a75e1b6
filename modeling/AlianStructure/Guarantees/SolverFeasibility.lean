import Mathlib.Algebra.BigOperators.Field
import Mathlib.Algebra.Order.BigOperators.Group.Finset
import Mathlib.Tactic.Linarith
import AlianStructure.Source.Investment.ConstraintOptimizer

/-!
# The feasibility of the solvers' weights

Source: src/investment/portfolio/algorithms/constraint-optimizer.ts:17-68,109-134. The weights are projected to their
bounds first and divided by their sum afterwards, which leads out of the bounds again; and they are divided by their sum
first and cut off at zero afterwards, which leads away from the sum.
-/
namespace AlianStructure.Guarantees.SolverFeasibility
open Library.BoundedLoop Source.Investment.ConstraintOptimizer

variable {n : Nat}

/-- There are weights within the bounds. -/
structure Bounded (lb ub : Fin n → ℚ) : Prop where
  nonneg : ∀ i, 0 ≤ lb i
  ordered : ∀ i, lb i ≤ ub i
  below : ∑ i, lb i ≤ 1
  above : 1 ≤ ∑ i, ub i

/-- Every quadratic program with these bounds is solved by weights within them. -/
def SolvesWithin (lb ub : Fin n → ℚ) : Prop :=
  ∀ (P : Fin n → Fin n → ℚ) (q : Fin n → ℚ), ∃ solution, solveQuadraticProgram P q lb ub = .ok solution ∧
    (∀ i, lb i ≤ solution.weights i ∧ solution.weights i ≤ ub i) ∧ ∑ i, solution.weights i = 1

/-- The weights of so many assets after so many iterations are not negative and sum to one, for every gradient. -/
def SolvesSequentially (n maxIterations : Nat) : Prop :=
  ∀ (objective : (Fin n → ℚ) → ℚ) (gradient : (Fin n → ℚ) → Fin n → ℚ), ∃ weights,
    sequentialLeastSquaresProgramming objective gradient maxIterations = .ok weights ∧ (∀ i, 0 ≤ weights i) ∧
      ∑ i, weights i = 1

/-- Some weight has to be positive, and where one weight is at a bound and the others are at the opposite ones the sum is
not on the wrong side of one. -/
structure Roomy (lb ub : Fin n → ℚ) : Prop where
  positive : 0 < ∑ i, lb i
  upper : ∀ i, ub i = 0 ∨ 1 ≤ ub i + (∑ j, lb j - lb i)
  lower : ∀ i, lb i = 0 ∨ lb i + (∑ j, ub j - ub i) ≤ 1

section Rescaling
variable {lb ub w : Fin n → ℚ}

theorem normalize_ok (sum : ∑ i, w i ≠ 0) : normalize w = .ok fun i => w i / ∑ j, w j := by
  have some : n ≠ 0 := by
    rintro rfl
    exact sum (by simp)
  rw [Source.Investment.ConstraintOptimizer.normalize, if_neg some, if_neg sum]

theorem sum_rescaled (sum : ∑ i, w i ≠ 0) : ∑ i, w i / ∑ j, w j = 1 := by
  rw [← Finset.sum_div, div_self sum]

theorem rest_le {a b : Fin n → ℚ} (le : ∀ i, a i ≤ b i) (i : Fin n) : ∑ j, a j - a i ≤ ∑ j, b j - b i := by
  rw [← Finset.sum_erase_eq_sub (Finset.mem_univ i), ← Finset.sum_erase_eq_sub (Finset.mem_univ i)]
  exact Finset.sum_le_sum fun j _ => le j

theorem le_sum (nonneg : ∀ i, 0 ≤ w i) (i : Fin n) : w i ≤ ∑ j, w j :=
  Finset.single_le_sum (fun j _ => nonneg j) (Finset.mem_univ i)

theorem Roomy.rescaled (bounded : Bounded lb ub) (roomy : Roomy lb ub) (above : ∀ i, lb i ≤ w i)
    (below : ∀ i, w i ≤ ub i) (i : Fin n) : lb i ≤ w i / ∑ j, w j ∧ w i / ∑ j, w j ≤ ub i := by
  have positive : 0 < ∑ j, w j := roomy.positive.trans_le (Finset.sum_le_sum fun j _ => above j)
  have nonneg := bounded.nonneg i
  have more := rest_le above i
  have less := rest_le below i
  rw [le_div_iff₀ positive, div_le_iff₀ positive]
  constructor
  · rcases roomy.lower i with none | room
    · rw [none, zero_mul]
      exact nonneg.trans (above i)
    · have small : lb i ≤ 1 := (le_sum bounded.nonneg i).trans bounded.below
      have share : ∑ j, w j - w i ≤ 1 - lb i := by linarith
      nlinarith [mul_nonneg nonneg (sub_nonneg.mpr share), mul_nonneg (sub_nonneg.mpr small) (sub_nonneg.mpr (above i))]
  · rcases roomy.upper i with none | room
    · rw [none, zero_mul]
      exact none ▸ below i
    · have upper : 0 ≤ ub i := nonneg.trans (bounded.ordered i)
      rcases le_total (ub i) 1 with small | large
      · have share : 1 - ub i ≤ ∑ j, w j - w i := by linarith
        nlinarith [mul_nonneg upper (sub_nonneg.mpr share),
          mul_nonneg (sub_nonneg.mpr small) (sub_nonneg.mpr (below i))]
      · exact (le_sum (fun j => (bounded.nonneg j).trans (above j)) i).trans (le_mul_of_one_le_left positive.le large)

end Rescaling

section Programs
variable {lb ub : Fin n → ℚ} {P : Fin n → Fin n → ℚ} {q : Fin n → ℚ}

theorem project_within (bounded : Bounded lb ub) (gradient w : Fin n → ℚ) (i : Fin n) :
    lb i ≤ project lb ub gradient w i ∧ project lb ub gradient w i ≤ ub i :=
  ⟨le_max_left _ _, max_le (bounded.ordered i) (min_le_left _ _)⟩

/-- Where the descent begins. -/
def initial (n : Nat) : Descent n := ⟨fun _ => 1 / n, 0, false⟩

def goesOn (descent : Descent n) : Bool := !descent.converged

theorem solve_ok {last : Descent n} (ends : loop goesOn (descend P q lb ub) 100 (initial n) = .ok last) :
    ∃ solution, solveQuadraticProgram P q lb ub = .ok solution ∧ solution.weights = last.w := by
  unfold solveQuadraticProgram
  change ∃ solution, (loop goesOn (descend P q lb ub) 100 (initial n) >>= _) = .ok solution ∧ _
  rw [ends]
  exact ⟨_, rfl, rfl⟩

/-- With room at every corner of the bounds each iteration stays within them. -/
theorem Roomy.solves (bounded : Bounded lb ub) (roomy : Roomy lb ub) : SolvesWithin lb ub := by
  intro P q
  have round : ∀ descent : Descent n, True → ∃ next, descend P q lb ub descent = .ok next ∧ True ∧
      ((∀ i, lb i ≤ next.w i ∧ next.w i ≤ ub i) ∧ ∑ i, next.w i = 1) := by
    intro descent _
    let moved := project lb ub (calculateGradient P q descent.w) descent.w
    have within : ∀ i, lb i ≤ moved i ∧ moved i ≤ ub i := project_within bounded _ _
    have positive : 0 < ∑ i, moved i := roomy.positive.trans_le (Finset.sum_le_sum fun i _ => (within i).1)
    refine ⟨_, by rw [descend, normalize_ok (ne_of_gt positive)]; rfl, trivial, ?_, sum_rescaled (ne_of_gt positive)⟩
    exact roomy.rescaled bounded (fun i => (within i).1) fun i => (within i).2
  have begins : goesOn (initial n) = true := rfl
  obtain ⟨last, ends, feasible⟩ := loop_reaches round 99 begins trivial
  obtain ⟨solution, solved, weights⟩ := solve_ok ends
  exact ⟨solution, solved, weights ▸ feasible⟩

/-! ## Corners of the bounds -/

/-- The weights at their upper bounds where they go up, and at the lower ones elsewhere. -/
def corner (lb ub : Fin n → ℚ) (up : Fin n → Bool) : Fin n → ℚ := fun i => if up i then ub i else lb i

/-- A linear term that outweighs everything else. -/
def pushing (ub : Fin n → ℚ) (up : Fin n → Bool) : Fin n → ℚ :=
  fun i => if up i then -100 * (1 + ∑ j, ub j) else 100 * (1 + ∑ j, ub j)

theorem corner_within (bounded : Bounded lb ub) (up : Fin n → Bool) (i : Fin n) :
    0 ≤ corner lb ub up i ∧ lb i ≤ corner lb ub up i := by
  unfold corner
  split
  · exact ⟨(bounded.nonneg i).trans (bounded.ordered i), bounded.ordered i⟩
  · exact ⟨bounded.nonneg i, le_rfl⟩

theorem project_pushing (bounded : Bounded lb ub) (up : Fin n → Bool) {w : Fin n → ℚ} (unit : ∀ i, 0 ≤ w i ∧ w i ≤ 1) :
    project lb ub (calculateGradient (fun _ _ => 0) (pushing ub up) w) w = corner lb ub up := by
  have upper : ∀ i, 0 ≤ ub i := fun i => (bounded.nonneg i).trans (bounded.ordered i)
  funext i
  have most := le_sum upper i
  have ordered := bounded.ordered i
  have := bounded.nonneg i
  have := unit i
  simp only [project, calculateGradient, pushing, corner, zero_mul, Finset.sum_const_zero, add_zero]
  split
  · rw [min_eq_left (by linarith), max_eq_right ordered]
  · rw [max_eq_left]
    exact (min_le_right _ _).trans (by linarith)

/-- The solver ends in every corner that is not the origin, and divides by zero in the origin. -/
theorem solve_corner (bounded : Bounded lb ub) (up : Fin n → Bool) {solution : QuadraticProgramSolution n}
    (solved : solveQuadraticProgram (fun _ _ => 0) (pushing ub up) lb ub = .ok solution) :
    0 < ∑ i, corner lb ub up i ∧ solution.weights = fun i => corner lb ub up i / ∑ j, corner lb ub up j := by
  have some : n ≠ 0 := by
    rintro rfl
    have := bounded.above
    simp only [Finset.univ_eq_empty, Finset.sum_empty] at this
    linarith
  have size : (1 : ℚ) ≤ n := Nat.one_le_cast.mpr (Nat.pos_of_ne_zero some)
  have nonneg : ∀ i, 0 ≤ corner lb ub up i := fun i => (corner_within bounded up i).1
  have unit : ∀ i, 0 ≤ (initial n).w i ∧ (initial n).w i ≤ 1 := fun _ =>
    ⟨div_nonneg zero_le_one (zero_le_one.trans size), (div_le_one₀ (zero_lt_one.trans_le size)).mpr size⟩
  have begins : goesOn (initial n) = true := rfl
  rcases (Finset.sum_nonneg fun i _ => nonneg i).eq_or_lt with zero | positive
  · have fails : descend (fun _ _ => 0) (pushing ub up) lb ub (initial n) = .error .divisionByZero := by
      rw [descend, project_pushing bounded up unit, Source.Investment.ConstraintOptimizer.normalize, if_neg some,
        if_pos zero.symm]
      rfl
    have stops : loop goesOn (descend (fun _ _ => 0) (pushing ub up) lb ub) 100 (initial n) = .error .divisionByZero := by
      rw [loop, if_pos begins, fails]
      rfl
    change (loop goesOn (descend (fun _ _ => 0) (pushing ub up) lb ub) 100 (initial n) >>= _) = _ at solved
    rw [stops] at solved
    cases solved
  · refine ⟨positive, ?_⟩
    have round : ∀ descent : Descent n, (∀ i, 0 ≤ descent.w i ∧ descent.w i ≤ 1) →
        ∃ next, descend (fun _ _ => 0) (pushing ub up) lb ub descent = .ok next ∧
          (∀ i, 0 ≤ next.w i ∧ next.w i ≤ 1) ∧ next.w = fun i => corner lb ub up i / ∑ j, corner lb ub up j := by
      intro descent within
      refine ⟨_, by rw [descend, project_pushing bounded up within, normalize_ok positive.ne']; rfl, fun i => ?_, rfl⟩
      exact ⟨div_nonneg (nonneg i) positive.le, (div_le_one₀ positive).mpr (le_sum nonneg i)⟩
    obtain ⟨last, ends, isLast⟩ := loop_reaches round 99 begins unit
    obtain ⟨other, also, weights⟩ := solve_ok ends
    rw [solved] at also
    rw [Except.ok.inj also, weights, isLast]

theorem SolvesWithin.roomy (bounded : Bounded lb ub) (solves : SolvesWithin lb ub) : Roomy lb ub := by
  have corners : ∀ up : Fin n → Bool, 0 < ∑ i, corner lb ub up i ∧
      ∀ i, lb i * ∑ j, corner lb ub up j ≤ corner lb ub up i ∧
        corner lb ub up i ≤ ub i * ∑ j, corner lb ub up j := by
    intro up
    obtain ⟨solution, solved, within, -⟩ := solves (fun _ _ => 0) (pushing ub up)
    obtain ⟨positive, weights⟩ := solve_corner bounded up solved
    refine ⟨positive, fun i => ?_⟩
    have here := within i
    rw [weights, le_div_iff₀ positive, div_le_iff₀ positive] at here
    exact here
  -- In a corner with one weight apart, the sum is that weight and what the others leave.
  have single : ∀ (a b : Fin n → ℚ) (i : Fin n), ∑ j, (if j = i then a j else b j) = a i + (∑ j, b j - b i) := by
    intro a b i
    rw [← Finset.sum_erase_eq_sub (Finset.mem_univ i), ← Finset.add_sum_erase _ _ (Finset.mem_univ i), if_pos rfl]
    congr 1
    exact Finset.sum_congr rfl fun j other => if_neg (Finset.ne_of_mem_erase other)
  refine ⟨?_, fun i => ?_, fun i => ?_⟩
  · have origin := (corners fun _ => false).1
    simpa [corner] using origin
  · obtain ⟨positive, sides⟩ := corners fun j => decide (j = i)
    have side := (sides i).2
    simp only [corner, decide_eq_true_eq, single, if_true] at side positive
    by_contra neither
    obtain ⟨some, small⟩ := not_or.mp neither
    have upper : 0 < ub i := lt_of_le_of_ne ((bounded.nonneg i).trans (bounded.ordered i)) (Ne.symm some)
    nlinarith
  · obtain ⟨positive, sides⟩ := corners fun j => !decide (j = i)
    have side := (sides i).1
    have swap : ∀ j, corner lb ub (fun j => !decide (j = i)) j = if j = i then lb j else ub j := by
      intro j
      by_cases same : j = i <;> simp [corner, same]
    simp only [swap, single, if_true] at side positive
    by_contra neither
    obtain ⟨some, large⟩ := not_or.mp neither
    have lower : 0 < lb i := lt_of_le_of_ne (bounded.nonneg i) (Ne.symm some)
    nlinarith

end Programs

/-! ## Sequential least squares -/

theorem solvesSequentially_iff (n maxIterations : Nat) :
    SolvesSequentially n maxIterations ↔ 0 < n ∧ maxIterations = 0 := by
  constructor
  · intro solves
    obtain ⟨weights, ends, -, sum⟩ := solves (fun _ => 0) fun w i => 1000 * w i
    have some : 0 < n := by
      rcases n.eq_zero_or_pos with rfl | some
      · simp at sum
      · exact some
    refine ⟨some, ?_⟩
    cases maxIterations with
    | zero => rfl
    | succ left =>
      have still : stepSequential (fun w i => 1000 * w i) (fun _ : Fin n => 1 / n) = .error .divisionByZero := by
        simp [stepSequential, Source.Investment.ConstraintOptimizer.normalize, some.ne']
      rw [sequentialLeastSquaresProgramming, loop, if_pos rfl, still] at ends
      cases ends
  · rintro ⟨some, rfl⟩ objective gradient
    refine ⟨_, rfl, fun _ => div_nonneg zero_le_one (Nat.cast_nonneg n), ?_⟩
    have : (n : ℚ) ≠ 0 := Nat.cast_ne_zero.mpr some.ne'
    simp [this]

/-! ## Feasibility -/

/-- **The solvers are feasible, for all programs with these bounds and for all gradients, exactly when there is room at
every corner of the bounds and nothing is iterated.** -/
theorem solvers_feasible_iff {lb ub : Fin n → ℚ} (bounded : Bounded lb ub) (assets maxIterations : Nat) :
    (SolvesWithin lb ub ↔ Roomy lb ub) ∧ (SolvesSequentially assets maxIterations ↔ 0 < assets ∧ maxIterations = 0) :=
  ⟨⟨SolvesWithin.roomy bounded, Roomy.solves bounded⟩, solvesSequentially_iff assets maxIterations⟩

/-- Between three tenths and seven tenths, there is room for two assets. -/
theorem two_assets_feasible :
    SolvesWithin (fun _ : Fin 2 => 3 / 10) (fun _ => 7 / 10) ∧ ¬ SolvesSequentially 2 100 := by
  have bounded : Bounded (fun _ : Fin 2 => 3 / 10) fun _ => 7 / 10 :=
    ⟨fun _ => by norm_num, fun _ => by norm_num, by norm_num, by norm_num⟩
  have feasible := solvers_feasible_iff bounded 2 100
  exact ⟨feasible.1.mpr ⟨by norm_num, fun _ => by norm_num, fun _ => by norm_num⟩,
    fun solves => absurd (feasible.2.mp solves).2 (by decide)⟩

def sampleLower : Fin 2 → ℚ := ![1 / 10, 1 / 10]
def sampleUpper : Fin 2 → ℚ := ![3 / 5, 1]

/-- The first weight is projected to its bound of three fifths, and is six sevenths after the division by the sum. -/
theorem weights_out_of_bounds : Bounded sampleLower sampleUpper ∧ ¬ ∃ solution,
    solveQuadraticProgram (fun _ _ => 0) ![-260, 260] sampleLower sampleUpper = .ok solution ∧
      (∀ i, sampleLower i ≤ solution.weights i ∧ solution.weights i ≤ sampleUpper i) ∧
        ∑ i, solution.weights i = 1 := by
  have bounded : Bounded sampleLower sampleUpper := by
    constructor
    · simp [sampleLower, Fin.forall_fin_two]
    · norm_num [sampleLower, sampleUpper, Fin.forall_fin_two]
    · norm_num [sampleLower, Fin.sum_univ_two]
    · norm_num [sampleUpper, Fin.sum_univ_two]
  refine ⟨bounded, ?_⟩
  rintro ⟨solution, solved, within, -⟩
  have linear : ![-260, 260] = pushing sampleUpper ![true, false] := by
    refine funext (Fin.forall_fin_two.mpr ⟨?_, ?_⟩)
    · norm_num [pushing, sampleUpper, Fin.sum_univ_two]
    · norm_num [pushing, sampleUpper, Fin.sum_univ_two]
  rw [linear] at solved
  have beyond := (within 0).2
  rw [(solve_corner bounded _ solved).2] at beyond
  norm_num [corner, sampleLower, sampleUpper, Fin.sum_univ_two] at beyond

end AlianStructure.Guarantees.SolverFeasibility
