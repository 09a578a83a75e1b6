import AlianStructure.Library.ExactNumber
import AlianStructure.Library.InsertionOrder
import AlianStructure.Source.Exception

/-!
# Allocating capital for yield

Source: src/defi/services/yield-optimization.service.ts:30-135,254-420. Numbers are exact. A quote that fails is absent.
-/
namespace AlianStructure.Source.Defi
open Library.KeyedTable Library.InsertionOrder Library.ExactNumber

inductive StrategyType where
  | highestYield | stableYield | riskAdjusted | diversified | farming | delegated | custom
  deriving DecidableEq

def StrategyType.text : StrategyType → String
  | .highestYield => "highest_yield"
  | .stableYield => "stable_yield"
  | .riskAdjusted => "risk_adjusted"
  | .diversified => "diversified"
  | .farming => "farming"
  | .delegated => "delegated"
  | .custom => "custom"

/-- What the risk of a protocol is told from; a launch is at its time. -/
structure ProtocolMetrics where
  tvl : ℚ
  launchDate : Option ℚ
  audits : Nat
  insurance : Bool
  deriving DecidableEq

structure YieldAdapter where
  name : String
  supportedChains : List String
  getAPY : String → Option ℚ
  getProtocolMetrics : Option ProtocolMetrics

structure YieldOpportunity where
  protocol : String
  token : String
  apy : ℚ
  tvl : ℚ
  riskScore : ℚ
  jpy : ℚ
  deriving DecidableEq

/-- The opportunities for each token: no two with one protocol. -/
structure Opportunities where
  byToken : OrderedMap String (List YieldOpportunity)
  named : ∀ entry ∈ byToken.entries, ∀ opportunity ∈ entry.2, opportunity.token = entry.1
  single : ∀ entry ∈ byToken.entries, (entry.2.map YieldOpportunity.protocol).Nodup

structure YieldConstraints where
  maxRiskScore : Option ℚ
  preferredTokens : Option (List String)
  excludeProtocols : Option (List String)
  deriving DecidableEq

structure AllocationResult where
  protocol : String
  token : String
  allocation : Number ℚ
  expectedApy : ℚ
  deriving DecidableEq

structure OptimizationResult where
  strategyType : StrategyType
  totalCapital : ℚ
  expectedApy : Number ℚ
  expectedYield : Number ℚ
  allocations : List AllocationResult
  constraints : YieldConstraints
  deriving DecidableEq

namespace Opportunities

def empty : Opportunities where
  byToken := .empty
  named := fun _ member => absurd member List.not_mem_nil
  single := fun _ member => absurd member List.not_mem_nil

variable {listed : List YieldOpportunity}

/-- The entries after one is set: the new one, and old ones. -/
theorem mem_set {opportunities : Opportunities} {token : String} {entry : String × List YieldOpportunity}
    (member : entry ∈ (opportunities.byToken.set token listed).entries) :
    entry = (token, listed) ∨ entry ∈ opportunities.byToken.entries :=
  (Table.mem_save.mp member).imp_right And.left

theorem set_named (opportunities : Opportunities) {token : String}
    (ofToken : ∀ opportunity ∈ listed, opportunity.token = token) :
    ∀ entry ∈ (opportunities.byToken.set token listed).entries, ∀ opportunity ∈ entry.2,
      opportunity.token = entry.1 := by
  intro entry member
  rcases mem_set member with rfl | old
  · exact ofToken
  · exact opportunities.named entry old

theorem set_single (opportunities : Opportunities) {token : String}
    (distinct : (listed.map YieldOpportunity.protocol).Nodup) :
    ∀ entry ∈ (opportunities.byToken.set token listed).entries, (entry.2.map YieldOpportunity.protocol).Nodup := by
  intro entry member
  rcases mem_set member with rfl | old
  · exact distinct
  · exact opportunities.single entry old

def set (opportunities : Opportunities) (token : String) (listed : List YieldOpportunity)
    (ofToken : ∀ opportunity ∈ listed, opportunity.token = token)
    (distinct : (listed.map YieldOpportunity.protocol).Nodup) : Opportunities where
  byToken := opportunities.byToken.set token listed
  named := opportunities.set_named ofToken
  single := opportunities.set_single distinct

end Opportunities

namespace YieldOptimizationService

def calculateProtocolRiskScore (now : ℚ) (metrics : ProtocolMetrics) : ℚ :=
  let score : ℚ :=
    if metrics.tvl < 10000000 then 30
    else if metrics.tvl < 100000000 then 20
    else if metrics.tvl < 1000000000 then 10
    else 0
  let score : ℚ := match metrics.launchDate with
    | none => score
    | some launchDate =>
      let ageMonths := (now - launchDate) / (1000 * 60 * 60 * 24 * 30)
      if ageMonths < 6 then score + 30
      else if ageMonths < 12 then score + 20
      else if ageMonths < 24 then score + 10
      else score
  let score : ℚ := if metrics.audits = 0 then score + 20 else score - min 10 (metrics.audits * 3)
  let score := if metrics.insurance then score else score + 15
  min 100 score

/-- What an adapter offers for a token on a chain. -/
def offer (now : ℚ) (chain token : String) (adapter : YieldAdapter) : Option YieldOpportunity :=
  if chain ∉ adapter.supportedChains then none
  else
    match adapter.getAPY token, adapter.getProtocolMetrics with
    | some apy, some metrics =>
      let riskScore := calculateProtocolRiskScore now metrics
      some ⟨adapter.name, token, apy, metrics.tvl, riskScore, apy - riskScore * (1 / 10)⟩
    | _, _ => none

/-- The offers for a token, the best of them first. -/
def tokenOpportunities (now : ℚ) (adapters : Table YieldAdapter YieldAdapter.name) (chain token : String) :
    List YieldOpportunity :=
  (adapters.rows.filterMap (offer now chain token)).mergeSort fun a b => decide (b.jpy ≤ a.jpy)

theorem offer_named {now : ℚ} {chain token : String} {adapter : YieldAdapter} {opportunity : YieldOpportunity}
    (offered : offer now chain token adapter = some opportunity) :
    opportunity.token = token ∧ opportunity.protocol = adapter.name := by
  unfold offer at offered
  split at offered
  next => cases offered
  next =>
    split at offered
    next => cases offered; exact ⟨rfl, rfl⟩
    next => cases offered

theorem offers_sublist (now : ℚ) (chain token : String) (adapters : List YieldAdapter) :
    ((adapters.filterMap (offer now chain token)).map YieldOpportunity.protocol).Sublist
      (adapters.map YieldAdapter.name) := by
  induction adapters with
  | nil => exact List.Sublist.slnil
  | cons first rest ih =>
    cases offered : offer now chain token first with
    | none =>
      rw [List.filterMap_cons_none offered]
      exact ih.cons first.name
    | some opportunity =>
      rw [List.filterMap_cons_some offered, List.map_cons, (offer_named offered).2]
      exact ih.cons_cons first.name

theorem tokenOpportunities_named (now : ℚ) (adapters : Table YieldAdapter YieldAdapter.name) (chain token : String) :
    ∀ opportunity ∈ tokenOpportunities now adapters chain token, opportunity.token = token := by
  intro opportunity member
  obtain ⟨adapter, -, offered⟩ := List.mem_filterMap.mp (List.mem_mergeSort.mp member)
  exact (offer_named offered).1

theorem tokenOpportunities_single (now : ℚ) (adapters : Table YieldAdapter YieldAdapter.name) (chain token : String) :
    ((tokenOpportunities now adapters chain token).map YieldOpportunity.protocol).Nodup :=
  ((List.mergeSort_perm _ _).map _).nodup_iff.mpr
    (adapters.unique.sublist (offers_sublist now chain token adapters.rows))

def findHighestYieldOpportunities (now : ℚ) (adapters : Table YieldAdapter YieldAdapter.name) (chain : String)
    (tokens : List String) : Opportunities :=
  tokens.foldl (fun opportunities token =>
    opportunities.set token (tokenOpportunities now adapters chain token)
      (tokenOpportunities_named now adapters chain token) (tokenOpportunities_single now adapters chain token)) .empty

def createAllocation (opportunity : YieldOpportunity) (amount : Number ℚ) : AllocationResult where
  protocol := opportunity.protocol
  token := opportunity.token
  allocation := amount
  expectedApy := opportunity.apy

/-- A risk is too high for a limit that is set and is not 0. -/
def exceedsRisk (constraints : YieldConstraints) (opportunity : YieldOpportunity) : Bool :=
  match constraints.maxRiskScore with
  | none => false
  | some maxRiskScore => decide (maxRiskScore ≠ 0) && decide (maxRiskScore < opportunity.riskScore)

/-- A comparison with a limit that is not set fails. -/
def withinRisk (constraints : YieldConstraints) (opportunity : YieldOpportunity) : Bool :=
  match constraints.maxRiskScore with
  | none => false
  | some maxRiskScore => decide (opportunity.riskScore ≤ maxRiskScore)

def allocateForHighestYield (opportunities : Opportunities) (totalCapital : ℚ) (constraints : YieldConstraints) :
    List AllocationResult :=
  opportunities.byToken.entries.foldl (fun allocations entry =>
    match entry.2 with
    | [] => allocations
    | topOpp :: _ =>
      if exceedsRisk constraints topOpp then
        match entry.2.find? (withinRisk constraints) with
        | none => allocations
        | some safer => allocations ++ [createAllocation safer (.finite totalCapital * .finite (1 / 10))]
      else allocations ++ [createAllocation topOpp (.finite totalCapital * .finite (1 / 10))]) []

def allocateForStableYield (opportunities : Opportunities) (totalCapital : ℚ) : List AllocationResult :=
  opportunities.byToken.entries.foldl (fun allocations entry =>
    match entry.2.filter fun opportunity => decide (opportunity.riskScore < 40) with
    | [] => allocations
    | first :: _ => allocations ++ [createAllocation first (.finite totalCapital * .finite (1 / 10))]) []

def allocateForRiskAdjusted (opportunities : Opportunities) (totalCapital : ℚ) (constraints : YieldConstraints) :
    List AllocationResult :=
  let (candidates, totalJpy) := opportunities.byToken.entries.foldl (fun state entry =>
    entry.2.foldl (fun (candidates, totalJpy) opportunity =>
      if exceedsRisk constraints opportunity then (candidates, totalJpy)
      else (candidates ++ [opportunity], totalJpy + opportunity.jpy)) state) (([] : List YieldOpportunity), (0 : ℚ))
  candidates.map fun opportunity =>
    createAllocation opportunity (.finite opportunity.jpy / .finite totalJpy * .finite totalCapital)

def allocateForDiversification (opportunities : Opportunities) (totalCapital : ℚ) : List AllocationResult :=
  let tokenCount := opportunities.byToken.size
  opportunities.byToken.entries.foldl (fun allocations entry =>
    match entry.2 with
    | [] => allocations
    | first :: _ => allocations ++ [createAllocation first (.finite totalCapital / .finite tokenCount)]) []

def calculateExpectedAPY (allocations : List AllocationResult) : Number ℚ :=
  let totalAllocation := allocations.foldl (fun sum a => sum + a.allocation) 0
  let totalYield := allocations.foldl (fun sum a => sum + a.allocation * .finite a.expectedApy / .finite 100) 0
  totalYield / totalAllocation * .finite 100

def allocate (strategyType : StrategyType) (opportunities : Opportunities) (totalCapital : ℚ)
    (constraints : YieldConstraints) : Except Exception (List AllocationResult) :=
  match strategyType with
  | .highestYield => .ok (allocateForHighestYield opportunities totalCapital constraints)
  | .stableYield => .ok (allocateForStableYield opportunities totalCapital)
  | .riskAdjusted => .ok (allocateForRiskAdjusted opportunities totalCapital constraints)
  | .diversified => .ok (allocateForDiversification opportunities totalCapital)
  | other => .error (.error s!"Unknown strategy type: {other.text}")

/-- The opportunities are those found for the preferred tokens. -/
def optimizeYieldAllocation (found : List String → Opportunities) (totalCapital : ℚ) (strategyType : StrategyType)
    (constraints : YieldConstraints) : Except Exception OptimizationResult := do
  let opportunities := found (constraints.preferredTokens.getD ["USDC", "DAI", "USDT"])
  let allocations ← allocate strategyType opportunities totalCapital constraints
  let expectedApy := calculateExpectedAPY allocations
  return {
    strategyType
    totalCapital
    expectedApy
    expectedYield := .finite totalCapital * (expectedApy / .finite 100)
    allocations
    constraints }

end YieldOptimizationService

end AlianStructure.Source.Defi
