import Mathlib.Data.List.Sort
import AlianStructure.Library.ExactNumber
import AlianStructure.Library.InsertionOrder

/-!
# The price feed

Source: src/blockchain/oracle/services/price-feed.service.ts:132-174,263-292. Prices are exact. A map has the
prices in the order of insertion; a value that is no number is `none`. How the sources are asked and how the
record is stored are left out.
-/
namespace AlianStructure.Source.Oracle
open Library.InsertionOrder Library.ExactNumber

abbrev SourcePrices (Key : Type) : Type := OrderedMap Key (Option (Number ℚ))

structure AggregatedPrice where
  median : ℚ
  maxDeviationPercent : ℚ
  deriving DecidableEq

namespace PriceFeedService
variable {Key : Type} [DecidableEq Key]

/-- A price that counts: finite and positive. -/
def priceOf : Option (Number ℚ) → Option ℚ
  | some (.finite price) => if 0 < price then some price else none
  | _ => none

omit [DecidableEq Key] in
def validPrices (prices : SourcePrices Key) : List ℚ := (prices.entries.map Prod.snd).filterMap priceOf

def medianOf (values : List ℚ) : ℚ :=
  let sorted := values.insertionSort (· ≤ ·)
  let mid := sorted.length / 2
  if sorted.length % 2 = 0 then (sorted.getD (mid - 1) 0 + sorted.getD mid 0) / 2 else sorted.getD mid 0

/-- How far two prices are apart, in percent of their average. -/
def deviation (a b : ℚ) : ℚ :=
  let avg := (a + b) / 2
  if 0 < avg then |a - b| / avg * 100 else 0

/-- The loop over the later prices. -/
def deviationsFrom (price : ℚ) : ℚ → List ℚ → ℚ
  | largest, [] => largest
  | largest, later :: rest =>
    let dev := deviation price later
    deviationsFrom price (if largest < dev then dev else largest) rest

/-- The loop over all pairs. -/
def maxDeviation : ℚ → List ℚ → ℚ
  | largest, [] => largest
  | largest, price :: rest => maxDeviation (deviationsFrom price largest rest) rest

omit [DecidableEq Key] in
def aggregatePrices (prices : SourcePrices Key) : AggregatedPrice :=
  let values := validPrices prices
  if values = [] then ⟨0, 0⟩ else ⟨medianOf values, maxDeviation 0 values⟩

end PriceFeedService

end AlianStructure.Source.Oracle
