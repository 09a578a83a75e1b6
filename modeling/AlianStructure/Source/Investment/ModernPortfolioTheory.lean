import AlianStructure.Library.BoundedLoop
import AlianStructure.Library.ExactNumber
import AlianStructure.Source.Exception

/-!
# Modern portfolio theory

Source: src/investment/portfolio/algorithms/modern-portfolio-theory.ts:13-25,94-326,374-448. The
numbers are exact; the square root of the host is a parameter. An array without an entry gives what
is no number, a matrix without a row throws.
-/
namespace AlianStructure.Source.Investment
open Library.BoundedLoop Library.ExactNumber Library.ExactNumber.Number

abbrev Quantity := Number ℚ

structure OptimizationConstraints where
  minWeight : Option Quantity
  maxWeight : Option Quantity
  deriving DecidableEq

structure PortfolioMetrics where
  expectedReturn : Quantity
  volatility : Quantity
  sharpeRatio : Quantity
  allocation : List (String × Quantity)
  weights : List Quantity
  deriving DecidableEq

namespace ModernPortfolioTheory

def entry (values : List Quantity) (i : Nat) : Quantity := values[i]?.getD nan

def row (matrix : List (List Quantity)) (i : Nat) : Except Exception (List Quantity) :=
  match matrix[i]? with
  | some values => .ok values
  | none => .error (.error "Cannot read properties of undefined")

def reduceSum : List Quantity → Except Exception Quantity
  | [] => .error (.error "Reduce of empty array with no initial value")
  | first :: rest => .ok (sumFrom first rest)

def equalWeights (n : Nat) : List Quantity := List.replicate n (finite (1 : ℚ) / finite (n : ℚ))

def learningRate : Quantity := finite (1 / 1000)

/-- Every weight divided by the sum. -/
def normalize (weights : List Quantity) : Except Exception (List Quantity) := do
  let sum ← reduceSum weights
  return weights.map (· / sum)

def applyConstraints (weights : List Quantity) (constraints : OptimizationConstraints) :
    Except Exception (List Quantity) :=
  let minWeight := (constraints.minWeight.getD nan).orElse (finite 0)
  let maxWeight := (constraints.maxWeight.getD nan).orElse (finite 1)
  normalize (weights.map fun weight => larger minWeight (smaller maxWeight weight))

section Metrics
variable (sqrt : Quantity → Quantity)

/-- The sum of a term for every pair of assets, row by row. -/
def portfolioVariance (weights : List Quantity) (covarianceMatrix : List (List Quantity)) (n : Nat) :
    Except Exception Quantity :=
  (List.range n).foldlM (fun total i => do
    let covariances ← row covarianceMatrix i
    return (List.range n).foldl (fun total j =>
      total + entry weights i * entry weights j * entry covariances j) total) (finite 0)

def portfolioReturn (weights expectedReturns : List Quantity) (n : Nat) : Quantity :=
  (List.range n).foldl (fun total i => total + entry weights i * entry expectedReturns i) (finite 0)

def calculatePortfolioMetrics (weights expectedReturns : List Quantity)
    (covarianceMatrix : List (List Quantity)) (riskFreeRate : Quantity) :
    Except Exception PortfolioMetrics := do
  let expectedReturn := portfolioReturn weights expectedReturns weights.length
  let variance ← portfolioVariance weights covarianceMatrix weights.length
  let volatility := sqrt variance
  return {
    expectedReturn
    volatility
    sharpeRatio := ((expectedReturn - riskFreeRate) / volatility).orElse (finite 0)
    allocation := []
    weights }

/-- The covariances of one asset, weighted and doubled. -/
def doubledCovariance (weights covariances : List Quantity) (n : Nat) : Quantity :=
  (List.range n).foldl (fun sum j => sum + finite 2 * entry weights j * entry covariances j) (finite 0)

def calculateSharpeGradient (weights expectedReturns : List Quantity)
    (covarianceMatrix : List (List Quantity)) (riskFreeRate : Quantity) :
    Except Exception (List Quantity) := do
  let metrics ← calculatePortfolioMetrics sqrt weights expectedReturns covarianceMatrix riskFreeRate
  (List.range weights.length).mapM fun i => do
    let covariances ← row covarianceMatrix i
    let covariance := doubledCovariance weights covariances weights.length
    return (entry expectedReturns i - riskFreeRate) / metrics.volatility -
      (metrics.expectedReturn - riskFreeRate) * covariance /
        (metrics.volatility * metrics.volatility * metrics.volatility)

end Metrics

section MeanVariance
variable (sqrt : Quantity → Quantity) (expectedReturns : List Quantity)
  (covarianceMatrix : List (List Quantity)) (riskFreeRate : Quantity)

/-- A step along the gradient of the Sharpe ratio, and the weights normalized. -/
def climb (weights : List Quantity) : Except Exception (List Quantity) := do
  let gradient ← calculateSharpeGradient sqrt weights expectedReturns covarianceMatrix riskFreeRate
  normalize ((List.range expectedReturns.length).map fun i =>
    entry weights i + learningRate * entry gradient i)

structure Ascent where
  weights : List Quantity
  improvement : Quantity
  deriving DecidableEq

def ascend (constraints : OptimizationConstraints) (ascent : Ascent) : Except Exception Ascent := do
  let metrics ← calculatePortfolioMetrics sqrt ascent.weights expectedReturns covarianceMatrix
    riskFreeRate
  let climbed ← climb sqrt expectedReturns covarianceMatrix riskFreeRate ascent.weights
  let weights ← applyConstraints climbed constraints
  let newMetrics ← calculatePortfolioMetrics sqrt weights expectedReturns covarianceMatrix
    riskFreeRate
  return { weights, improvement := newMetrics.sharpeRatio - metrics.sharpeRatio }

def improves (ascent : Ascent) : Bool := decide (finite (1 / 10000) < ascent.improvement)

def meanVarianceOptimization (constraints : OptimizationConstraints) :
    Except Exception (List Quantity) := do
  let ascent ← loop improves
    (ascend sqrt expectedReturns covarianceMatrix riskFreeRate constraints) 1000
    ⟨equalWeights expectedReturns.length, infinite true⟩
  return ascent.weights

end MeanVariance

/-- Rounds of an adjustment of the weights that end in applyConstraints. -/
def adjusted (adjust : List Quantity → Except Exception (List Quantity))
    (constraints : OptimizationConstraints) (iterations n : Nat) : Except Exception (List Quantity) :=
  loop (fun _ => true) (fun weights => do applyConstraints (← adjust weights) constraints) iterations
    (equalWeights n)

section RiskParity
variable (sqrt : Quantity → Quantity) (covarianceMatrix : List (List Quantity))

def marginalRisk (weights covariances : List Quantity) (n : Nat) : Quantity :=
  (List.range n).foldl (fun risk j => risk + entry weights j * entry covariances j) (finite 0)

def equalizeRisk (weights : List Quantity) : Except Exception (List Quantity) := do
  let n := covarianceMatrix.length
  let variance ← portfolioVariance weights covarianceMatrix n
  let portfolioVolatility := sqrt variance
  let riskContribution ← (List.range n).mapM fun i => do
    let covariances ← row covarianceMatrix i
    return entry weights i * marginalRisk weights covariances n / portfolioVolatility
  let targetRisk := finite (1 : ℚ) / finite (n : ℚ)
  normalize ((List.range n).map fun i =>
    if finite 0 < entry riskContribution i then
      entry weights i * (targetRisk / entry riskContribution i)
    else entry weights i)

def riskParityOptimization (constraints : OptimizationConstraints) :
    Except Exception (List Quantity) :=
  adjusted (equalizeRisk sqrt covarianceMatrix) constraints 100 covarianceMatrix.length

end RiskParity

def descend (covarianceMatrix : List (List Quantity)) (weights : List Quantity) :
    Except Exception (List Quantity) := do
  let n := covarianceMatrix.length
  let gradient ← (List.range n).mapM fun i => do
    let covariances ← row covarianceMatrix i
    return doubledCovariance weights covariances n
  normalize ((List.range n).map fun i => entry weights i - learningRate * entry gradient i)

def minVarianceOptimization (covarianceMatrix : List (List Quantity))
    (constraints : OptimizationConstraints) : Except Exception (List Quantity) :=
  adjusted (descend covarianceMatrix) constraints 1000 covarianceMatrix.length

section WithTarget
variable (expectedReturns : List Quantity) (covarianceMatrix : List (List Quantity))

/-- The weights are changed one after the other, each with the ones before it changed already. -/
def descendInPlace (weights : List Quantity) (n : Nat) : Except Exception (List Quantity) :=
  (List.range n).foldlM (fun weights i => do
    let covariances ← row covarianceMatrix i
    let sum := doubledCovariance weights covariances n
    return weights.set i (entry weights i - learningRate * sum)) weights

def approachTarget (targetReturn : Quantity) (weights : List Quantity) :
    Except Exception (List Quantity) := do
  let n := expectedReturns.length
  let currentReturn := portfolioReturn weights expectedReturns n
  let _ ← portfolioVariance weights covarianceMatrix n
  if (currentReturn - targetReturn).magnitude < finite (1 / 1000) then
    normalize (← descendInPlace covarianceMatrix weights n)
  else
    let returnDifference := currentReturn - targetReturn
    normalize ((List.range n).map fun i => entry weights i -
      learningRate * returnDifference * entry expectedReturns i / finite 100)

def minVariancePortfolioWithTarget (targetReturn : Quantity) (constraints : OptimizationConstraints) :
    Except Exception (List Quantity) :=
  adjusted (approachTarget expectedReturns covarianceMatrix targetReturn) constraints 1000
    expectedReturns.length

end WithTarget

end ModernPortfolioTheory

end AlianStructure.Source.Investment
