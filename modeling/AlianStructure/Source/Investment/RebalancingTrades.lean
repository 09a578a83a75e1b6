import Mathlib.Algebra.Order.Ring.Rat
import AlianStructure.Library.InsertionOrder

/-!
# Portfolios, their rebalancing and their drift

Source: src/investment/portfolio/entities/portfolio.entity.ts,
src/investment/portfolio/entities/portfolio-asset.entity.ts and
src/investment/portfolio/services/portfolio.service.ts:350-391. Amounts are exact. The snapshot of the
performance is left out, as are the columns that no modelled method reads.
-/
namespace AlianStructure.Source.Investment
open Library.InsertionOrder

inductive Chain where
  | ethereum | polygon | binance | solana | bitcoin | arbitrum | optimism | base | other
  deriving DecidableEq

def Chain.value : Chain → String
  | ethereum => "ethereum"
  | polygon => "polygon"
  | binance => "binance"
  | solana => "solana"
  | bitcoin => "bitcoin"
  | arbitrum => "arbitrum"
  | optimism => "optimism"
  | base => "base"
  | other => "other"

structure PortfolioAsset where
  ticker : String
  chain : Chain
  currentPrice : Option ℚ
  value : ℚ
  allocationPercentage : ℚ
  costBasisPerShare : Option ℚ
  deriving DecidableEq

structure Portfolio where
  id : String
  userId : String
  name : String
  totalValue : ℚ
  currentAllocation : OrderedMap String ℚ
  targetAllocation : Option (OrderedMap String ℚ)
  lastRebalanceDate : Option ℚ

namespace PortfolioService

def percentageOf (totalValue : ℚ) (asset : PortfolioAsset) : ℚ :=
  if 0 < totalValue then asset.value / totalValue * 100 else 0

/-- The total value of the portfolio and the share of every asset in it. -/
def updatePortfolioMetrics (portfolio : Portfolio) (assets : List PortfolioAsset) :
    Portfolio × List PortfolioAsset :=
  let totalValue := (assets.map (·.value)).sum
  let allocation := assets.foldl (fun allocation asset =>
    allocation.set (asset.ticker ++ "-" ++ asset.chain.value) (percentageOf totalValue asset)) .empty
  ({ portfolio with totalValue, currentAllocation := allocation },
    assets.map fun asset => { asset with allocationPercentage := percentageOf totalValue asset })

end PortfolioService

/-!
## The trades of a rebalancing

Source: src/investment/portfolio/services/rebalancing.service.ts:303-358.
-/

inductive TradeAction where
  | buy | sell
  deriving DecidableEq

structure RebalancingTrade where
  ticker : String
  action : TradeAction
  quantity : ℚ
  price : ℚ
  value : ℚ
  estimatedTaxImpact : ℚ
  deriving DecidableEq

namespace RebalancingService

/-- A number that is absent or zero gives way to another. -/
def orNumber (value : Option ℚ) (other : ℚ) : ℚ :=
  if value.getD 0 = 0 then other else value.getD 0

/-- The names that every plain object answers to, with a member of its prototype. -/
def prototypeMembers : List String :=
  ["__proto__", "constructor", "hasOwnProperty", "isPrototypeOf", "propertyIsEnumerable",
    "toLocaleString", "toString", "valueOf", "__defineGetter__", "__defineSetter__",
    "__lookupGetter__", "__lookupSetter__"]

/-- The target of a ticker, 0 if it has none. A member of the prototype is no number: nothing stands
for it, and for the NaN that every difference with it is. -/
def targetPercentage (portfolio : Portfolio) (ticker : String) : Option ℚ :=
  match portfolio.targetAllocation with
  | none => some 0
  | some targetAllocation =>
    match targetAllocation.get? ticker with
    | some percentage => some percentage
    | none => if ticker ∈ prototypeMembers then none else some 0

/-- The trade for one row, when its share is off its target by more than half a percent: NaN is not. -/
def calculateTrade (portfolio : Portfolio) (asset : PortfolioAsset) : Option RebalancingTrade := do
  let target ← targetPercentage portfolio asset.ticker
  let current := asset.allocationPercentage
  if 1 / 2 < |target - current| then
    let targetValue := target / 100 * portfolio.totalValue
    let currentValue := current / 100 * portfolio.totalValue
    let valueDifference := targetValue - currentValue
    let quantity := valueDifference / orNumber asset.currentPrice 1
    let action := if 0 < quantity then TradeAction.buy else TradeAction.sell
    let capitalGains :=
      max 0 ((asset.currentPrice.getD 0 - orNumber asset.costBasisPerShare 0) * |quantity|)
    some {
      ticker := asset.ticker
      action
      quantity := |quantity|
      price := orNumber asset.currentPrice 0
      value := |valueDifference|
      estimatedTaxImpact := if action = .sell then capitalGains * (15 / 100) else 0 }
  else none

def calculateRebalancingTrades (portfolio : Portfolio) (assets : List PortfolioAsset) :
    List RebalancingTrade :=
  assets.filterMap (calculateTrade portfolio)

/-!
## The drift of a portfolio

Source: src/investment/portfolio/services/rebalancing.service.ts:22,43-75,447-464. The threshold of the portfolio is an
argument. An asset is a row for a ticker on a chain; the rows come in the order of the database.
-/

def DEFAULT_THRESHOLD : ℚ := 5

/-- The drift of one target, when a row has its ticker. -/
def targetDrift (assets : List PortfolioAsset) (entry : String × ℚ) : Option ℚ :=
  (assets.find? fun asset => decide (asset.ticker = entry.1)).map fun asset => |asset.allocationPercentage - entry.2|

def shouldRebalance (portfolio : Portfolio) (rebalanceThreshold : Option ℚ) (assets : List PortfolioAsset)
    (customThreshold : Option ℚ) : Bool × ℚ :=
  match portfolio.targetAllocation with
  | none => (false, 0)
  | some targetAllocation =>
    let threshold := (customThreshold <|> rebalanceThreshold).getD DEFAULT_THRESHOLD
    let maxDrift := targetAllocation.entries.foldl (fun maxDrift entry =>
      match targetDrift assets entry with
      | none => maxDrift
      | some drift => if maxDrift < drift then drift else maxDrift) 0
    (decide (threshold < maxDrift), maxDrift)

/-- The drift of a row; NaN is nothing. -/
def rowDrift (portfolio : Portfolio) (asset : PortfolioAsset) : Option ℚ :=
  (targetPercentage portfolio asset.ticker).map (asset.allocationPercentage - ·)

def calculateAllocationDrift (portfolio : Portfolio) (assets : List PortfolioAsset) :
    OrderedMap String (Option ℚ) :=
  assets.foldl (fun drift asset =>
    -- to assign a number to the prototype does nothing
    if asset.ticker = "__proto__" then drift else drift.set asset.ticker (rowDrift portfolio asset)) .empty

end RebalancingService

end AlianStructure.Source.Investment
