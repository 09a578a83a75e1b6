import Mathlib.Algebra.BigOperators.Fin
import Mathlib.Algebra.Order.Field.Rat
import AlianStructure.Library.BoundedLoop

/-!
# The solvers of the portfolio optimization

Source: src/investment/portfolio/algorithms/constraint-optimizer.ts. The numbers are exact, and the arrays of a call have
one length. A division by zero, after which there are no weights, ends a run; the equality constraints are read by nothing.
-/
namespace AlianStructure.Source.Investment.ConstraintOptimizer
open Library.BoundedLoop

variable {n : Nat}

inductive Failure where
  | reduceOfEmptyArray | divisionByZero
  deriving DecidableEq

structure QuadraticProgramSolution (n : Nat) where
  weights : Fin n → ℚ
  objectiveValue : ℚ
  converged : Bool

def calculateGradient (P : Fin n → Fin n → ℚ) (q w : Fin n → ℚ) : Fin n → ℚ := fun i => q i + ∑ j, P i j * w j

def vectorMatrixProduct (v : Fin n → ℚ) (M : Fin n → Fin n → ℚ) (u : Fin n → ℚ) : ℚ := ∑ i, v i * ∑ j, M i j * u j

/-- Every weight divided by their sum. -/
def normalize (w : Fin n → ℚ) : Except Failure (Fin n → ℚ) :=
  if n = 0 then .error .reduceOfEmptyArray
  else if ∑ i, w i = 0 then .error .divisionByZero
  else .ok fun i => w i / ∑ j, w j

structure Descent (n : Nat) where
  w : Fin n → ℚ
  iteration : Nat
  converged : Bool

/-- A step down the gradient, projected to the bounds. -/
def project (lb ub gradient w : Fin n → ℚ) : Fin n → ℚ :=
  fun i => max (lb i) (min (ub i) (w i - 1 / 100 * gradient i))

def descend (P : Fin n → Fin n → ℚ) (q lb ub : Fin n → ℚ) (descent : Descent n) : Except Failure (Descent n) := do
  let gradient := calculateGradient P q descent.w
  let w ← normalize (project lb ub gradient descent.w)
  return {
    w
    iteration := descent.iteration + 1
    converged := 10 < descent.iteration && decide (∀ i, |gradient i| < 1 / 10000) }

def solveQuadraticProgram (P : Fin n → Fin n → ℚ) (q lb ub : Fin n → ℚ) :
    Except Failure (QuadraticProgramSolution n) := do
  let last ← loop (fun descent => !descent.converged) (descend P q lb ub) 100 ⟨fun _ => 1 / n, 0, false⟩
  return ⟨last.w, 1 / 2 * vectorMatrixProduct last.w P last.w + ∑ i, q i * last.w i, last.converged⟩

def stepSequential (gradient : (Fin n → ℚ) → Fin n → ℚ) (w : Fin n → ℚ) : Except Failure (Fin n → ℚ) := do
  let moved ← normalize fun i => w i - 1 / 1000 * gradient w i
  return fun i => max 0 (moved i)

/-- The objective is not evaluated. -/
def sequentialLeastSquaresProgramming (_objective : (Fin n → ℚ) → ℚ) (gradient : (Fin n → ℚ) → Fin n → ℚ)
    (maxIterations : Nat) : Except Failure (Fin n → ℚ) :=
  loop (fun _ => true) (stepSequential gradient) maxIterations fun _ => 1 / n

end AlianStructure.Source.Investment.ConstraintOptimizer
