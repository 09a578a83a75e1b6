import AlianStructure.Library.DecimalText
import AlianStructure.Library.ExactNumber

/-!
# Portfolio performance

Source: src/investment/portfolio/algorithms/performance-calculations.ts:73-116,181-227. Numbers are exact. The optional
flow of a sub-period is 0 when it is left out.
-/
namespace AlianStructure.Source.Investment.PerformanceCalculations

structure MaxDrawdownResult where
  maxDrawdown : ℚ
  peakIndex : Nat
  troughIndex : Nat
  peakValue : ℚ
  troughValue : ℚ
  deriving DecidableEq

def simpleReturns : List ℚ → List ℚ
  | prev :: next :: rest => (if prev = 0 then 0 else (next - prev) / prev) :: simpleReturns (next :: rest)
  | _ => []

def subPeriodReturn (startValue endValue cashFlow : ℚ) : ℚ :=
  if startValue = 0 then 0 else (endValue - cashFlow - startValue) / startValue

def timeWeightedReturn (periodReturns : List ℚ) : ℚ :=
  if periodReturns = [] then 0 else periodReturns.foldl (fun acc r => acc * (1 + r)) 1 - 1

/-- What the loop over a series keeps: the peak so far, and the result. -/
structure Scan where
  peakValue : ℚ
  peakIndex : Nat
  result : MaxDrawdownResult

def empty (values : List ℚ) : MaxDrawdownResult where
  maxDrawdown := 0
  peakIndex := 0
  troughIndex := 0
  peakValue := values.headD 0
  troughValue := values.headD 0

/-- The value at an index that the loop comes to. -/
def scanValue (scan : Scan) (i : Nat) (value : ℚ) : Scan :=
  let peakValue := if scan.peakValue < value then value else scan.peakValue
  let peakIndex := if scan.peakValue < value then i else scan.peakIndex
  let drawdown := if 0 < peakValue then (peakValue - value) / peakValue else 0
  { peakValue := peakValue
    peakIndex := peakIndex
    result := if scan.result.maxDrawdown < drawdown then
        { maxDrawdown := drawdown, peakIndex := peakIndex, troughIndex := i, peakValue := peakValue, troughValue := value }
      else scan.result }

def scanFrom : Scan → Nat → List ℚ → Scan
  | scan, _, [] => scan
  | scan, i, value :: rest => scanFrom (scanValue scan i value) (i + 1) rest

def maxDrawdown : List ℚ → MaxDrawdownResult
  | [] => empty []
  | first :: rest =>
    (scanFrom { peakValue := first, peakIndex := 0, result := empty (first :: rest) } 0 (first :: rest)).result

end AlianStructure.Source.Investment.PerformanceCalculations

/-!
# Performance of a portfolio

Source: src/investment/portfolio/services/performance-analytics.service.ts:123-142,341-364 and
src/investment/portfolio/entities/performance-metric.entity.ts:21-22. The value of a metric is a column of decimals with
two places, which the driver returns as a text. Metrics come in the order of their dates. Numbers are exact.
-/
namespace AlianStructure.Source.Investment
open Library DecimalText ExactNumber Number

/-- The text of a decimal with two places, given in hundredths. -/
structure DecimalText where
  hundredths : Int
  deriving DecidableEq

def DecimalText.chars (text : DecimalText) : List Char :=
  (if text.hundredths < 0 then ['-'] else []) ++ (Decimal.ofUnits 2 text.hundredths.natAbs).text

/-- The number that a text is read as. -/
def DecimalText.number (text : DecimalText) : ℚ :=
  (if text.hundredths < 0 then -1 else 1) * (Decimal.ofUnits 2 text.hundredths.natAbs).value

/-- Whether a text is greater than another: sign by sign, and a longer one than its beginning. -/
def greaterText : List Char → List Char → Bool
  | [], _ => false
  | _ :: _, [] => true
  | c :: rest, d :: other => if c = d then greaterText rest other else decide (d.toNat < c.toNat)

structure PerformanceMetric where
  portfolioValue : DecimalText

namespace PerformanceAnalyticsService

/-- `PerformanceCalculations.maxDrawdown(values)` in `calculatePerformance`. -/
def reportedMaxDrawdown (metrics : List PerformanceMetric) : PerformanceCalculations.MaxDrawdownResult :=
  PerformanceCalculations.maxDrawdown (metrics.map fun metric => metric.portfolioValue.number)

/-- The texts are compared as texts, and subtracted and divided as numbers. -/
def scanMetrics : DecimalText → Number ℚ → List PerformanceMetric → Number ℚ
  | _, maxDrawdown, [] => maxDrawdown
  | maxValue, maxDrawdown, metric :: rest =>
    let maxValue := if greaterText metric.portfolioValue.chars maxValue.chars then metric.portfolioValue else maxValue
    let drawdown := (finite maxValue.number - finite metric.portfolioValue.number) / finite maxValue.number
    scanMetrics maxValue (if maxDrawdown < drawdown then drawdown else maxDrawdown) rest

def calculateMaxDrawdown : List PerformanceMetric → Number ℚ
  | [] => finite 0
  | first :: rest => scanMetrics first.portfolioValue (finite 0) (first :: rest)

end PerformanceAnalyticsService

end AlianStructure.Source.Investment
