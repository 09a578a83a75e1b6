import Mathlib.Algebra.BigOperators.Ring.List
import Mathlib.Tactic.FieldSimp
import Mathlib.Tactic.Positivity
import AlianStructure.Source.Defi.YieldOptimizationService

/-!
# What an allocation of capital respects

Source: src/defi/services/yield-optimization.service.ts:75-135,290-415. No strategy looks at the protocols to exclude,
and only two of them look at the limit on risk, unless it is 0.
-/
namespace AlianStructure.Guarantees.YieldAllocation
open Library.KeyedTable Library.ExactNumber Library.ExactNumber.Number
open Source.Defi YieldOptimizationService

/-- The opportunities for all tokens. -/
def listed (opportunities : Opportunities) : List YieldOpportunity := opportunities.byToken.entries.flatMap (·.2)

/-- No amount is negative and their sum is at most the capital; every opportunity used is allowed; and no division by
zero has made a value infinite or undefined. -/
structure Respects (opportunities : Opportunities) (totalCapital : ℚ) (constraints : YieldConstraints)
    (result : OptimizationResult) : Prop where
  divides : (∃ apy, result.expectedApy = finite apy) ∧
    ∀ used ∈ result.allocations, ∃ amount, used.allocation = finite amount
  nonneg : ∀ used ∈ result.allocations, 0 ≤ used.allocation
  within : sumFrom 0 (result.allocations.map AllocationResult.allocation) ≤ finite totalCapital
  unexcluded : ∀ used ∈ result.allocations, used.protocol ∉ constraints.excludeProtocols.getD []
  tolerated : ∀ used ∈ result.allocations, ∀ opportunity ∈ listed opportunities,
    opportunity.token = used.token → opportunity.protocol = used.protocol →
      ∀ maxRiskScore, constraints.maxRiskScore = some maxRiskScore → opportunity.riskScore ≤ maxRiskScore

/-- The strategies that allocate. -/
def allocating : List StrategyType := [.highestYield, .stableYield, .riskAdjusted, .diversified]

/-- What a strategy asks of a single opportunity. -/
def candidate (strategyType : StrategyType) (constraints : YieldConstraints) (opportunity : YieldOpportunity) : Bool :=
  match strategyType with
  | .highestYield | .riskAdjusted => !exceedsRisk constraints opportunity
  | .stableYield => decide (opportunity.riskScore < 40)
  | _ => true

/-- All candidates where they share the capital by yield, else the first one for each token. -/
def choices (strategyType : StrategyType) (opportunities : Opportunities) (constraints : YieldConstraints) :
    List YieldOpportunity :=
  match strategyType with
  | .riskAdjusted => (listed opportunities).filter (candidate .riskAdjusted constraints)
  | other => opportunities.byToken.entries.filterMap fun entry => entry.2.find? (candidate other constraints)

def Allowed (constraints : YieldConstraints) (opportunity : YieldOpportunity) : Prop :=
  opportunity.protocol ∉ constraints.excludeProtocols.getD [] ∧
    ∀ maxRiskScore, constraints.maxRiskScore = some maxRiskScore → opportunity.riskScore ≤ maxRiskScore

/-- There is something to choose, all of it happens to be allowed, at most ten tokens take a tenth each, and yields
that share the capital are of one sign and not all 0. -/
structure Served (strategyType : StrategyType) (opportunities : Opportunities) (constraints : YieldConstraints) :
    Prop where
  found : choices strategyType opportunities constraints ≠ []
  allowed : ∀ opportunity ∈ choices strategyType opportunities constraints, Allowed constraints opportunity
  few : strategyType = .highestYield ∨ strategyType = .stableYield →
    (choices strategyType opportunities constraints).length ≤ 10
  signed : strategyType = .riskAdjusted →
    ((∀ opportunity ∈ choices strategyType opportunities constraints, 0 ≤ opportunity.jpy) ∨
      ∀ opportunity ∈ choices strategyType opportunities constraints, opportunity.jpy ≤ 0) ∧
    ∃ opportunity ∈ choices strategyType opportunities constraints, opportunity.jpy ≠ 0

variable {opportunities : Opportunities} {totalCapital : ℚ} {constraints : YieldConstraints}

/-! ## What each strategy chooses -/

theorem candidate_highestYield : candidate .highestYield constraints = fun opportunity => !exceedsRisk constraints opportunity :=
  rfl

theorem candidate_stableYield :
    candidate .stableYield constraints = fun opportunity => decide (opportunity.riskScore < 40) := rfl

theorem candidate_diversified : candidate .diversified constraints = fun _ => true := rfl

theorem foldl_picks {α β γ : Type} {body : List γ → α → List γ} (pick : α → Option β) (made : β → γ)
    (step : ∀ before entry, body before entry = before ++ ((pick entry).map made).toList) (entries : List α)
    (before : List γ) : entries.foldl body before = before ++ (entries.filterMap pick).map made := by
  induction entries generalizing before with
  | nil => simp
  | cons first rest ih =>
    rw [List.foldl_cons, step, ih]
    cases picked : pick first with
    | none => rw [List.filterMap_cons_none picked, Option.map_none, Option.toList_none, List.append_nil]
    | some chosen => rw [List.filterMap_cons_some picked, List.map_cons, Option.map_some, Option.toList_some,
        List.append_assoc, List.singleton_append]

theorem withinRisk_of_exceeds {top : YieldOpportunity} (exceeds : exceedsRisk constraints top = true) :
    withinRisk constraints = fun opportunity => !exceedsRisk constraints opportunity := by
  funext opportunity
  unfold exceedsRisk at exceeds
  unfold withinRisk exceedsRisk
  cases isLimit : constraints.maxRiskScore with
  | none =>
    rw [isLimit] at exceeds
    cases exceeds
  | some limit =>
    simp only [isLimit, Bool.and_eq_true, decide_eq_true_iff] at exceeds
    change decide (opportunity.riskScore ≤ limit) = !(decide (limit ≠ 0) && decide (limit < opportunity.riskScore))
    rw [decide_eq_true exceeds.1, Bool.true_and, ← decide_not]
    simp only [not_lt]

theorem allocateForHighestYield_eq : allocateForHighestYield opportunities totalCapital constraints =
    (choices .highestYield opportunities constraints).map
      (createAllocation · (finite totalCapital * finite (1 / 10))) := by
  refine (foldl_picks (fun entry => entry.2.find? (candidate .highestYield constraints)) _ ?_ _ []).trans
    (List.nil_append _)
  rintro before ⟨token, opps⟩
  cases opps with
  | nil => simp
  | cons top rest =>
    simp only [List.find?_cons, candidate_highestYield]
    cases exceeds : exceedsRisk constraints top with
    | true =>
      simp only [if_true, Bool.not_true, withinRisk_of_exceeds exceeds, exceeds]
      cases rest.find? fun opportunity => !exceedsRisk constraints opportunity with
      | none => simp
      | some safer => simp
    | false => simp

theorem allocateForStableYield_eq : allocateForStableYield opportunities totalCapital =
    (choices .stableYield opportunities constraints).map
      (createAllocation · (finite totalCapital * finite (1 / 10))) := by
  refine (foldl_picks (fun entry => entry.2.find? (candidate .stableYield constraints)) _ ?_ _ []).trans
    (List.nil_append _)
  rintro before ⟨token, opps⟩
  simp only [candidate_stableYield, ← List.head?_filter]
  cases opps.filter fun opportunity => decide (opportunity.riskScore < 40) with
  | nil => simp
  | cons first rest => simp

theorem allocateForDiversification_eq (constraints : YieldConstraints) : allocateForDiversification opportunities totalCapital =
    (choices .diversified opportunities constraints).map
      (createAllocation · (finite totalCapital / finite (opportunities.byToken.size : ℚ))) := by
  refine (foldl_picks (fun entry => entry.2.find? (candidate .diversified constraints)) _ ?_ _ []).trans
    (List.nil_append _)
  rintro before ⟨token, opps⟩
  cases opps with
  | nil => simp
  | cons first rest => simp [candidate_diversified]

theorem collects (constraints : YieldConstraints) (opps : List YieldOpportunity) (candidates : List YieldOpportunity) (totalJpy : ℚ) :
    opps.foldl (fun (state : List YieldOpportunity × ℚ) opportunity =>
        if exceedsRisk constraints opportunity then (state.1, state.2)
        else (state.1 ++ [opportunity], state.2 + opportunity.jpy)) (candidates, totalJpy) =
      (candidates ++ opps.filter (candidate .riskAdjusted constraints),
        totalJpy + ((opps.filter (candidate .riskAdjusted constraints)).map YieldOpportunity.jpy).sum) := by
  induction opps generalizing candidates totalJpy with
  | nil => simp
  | cons first rest ih =>
    rw [List.foldl_cons]
    cases exceeds : exceedsRisk constraints first with
    | true =>
      have skipped : ¬ candidate .riskAdjusted constraints first = true := by simp [candidate, exceeds]
      rw [if_pos rfl, ih, List.filter_cons_of_neg skipped]
    | false =>
      have taken : candidate .riskAdjusted constraints first = true := by simp [candidate, exceeds]
      rw [if_neg Bool.false_ne_true, ih, List.filter_cons_of_pos taken, List.map_cons, List.sum_cons,
        List.append_assoc, List.singleton_append, add_assoc]

theorem allocateForRiskAdjusted_eq : allocateForRiskAdjusted opportunities totalCapital constraints =
    (choices .riskAdjusted opportunities constraints).map fun opportunity =>
      createAllocation opportunity (finite opportunity.jpy /
        finite ((choices .riskAdjusted opportunities constraints).map YieldOpportunity.jpy).sum *
          finite totalCapital) := by
  have collected := collects constraints (listed opportunities) [] 0
  rw [listed, List.foldl_flatMap, List.nil_append, zero_add] at collected
  unfold allocateForRiskAdjusted
  rw [collected]
  rfl

/-! ## Opportunities by token and protocol -/

theorem mem_listed {opportunity : YieldOpportunity} : opportunity ∈ listed opportunities ↔
    ∃ entry ∈ opportunities.byToken.entries, opportunity ∈ entry.2 := List.mem_flatMap

theorem listed_unique {one other : YieldOpportunity} (member : one ∈ listed opportunities)
    (another : other ∈ listed opportunities) (token : one.token = other.token)
    (protocol : one.protocol = other.protocol) : one = other := by
  obtain ⟨entry, entered, ofEntry⟩ := mem_listed.mp member
  obtain ⟨place, placed, ofPlace⟩ := mem_listed.mp another
  have key : entry.1 = place.1 := by
    rw [← opportunities.named entry entered one ofEntry, token, opportunities.named place placed other ofPlace]
  obtain rfl := Table.eq_of_key_eq entered placed key
  exact List.inj_on_of_nodup_map (opportunities.single entry entered) ofEntry ofPlace protocol

variable {strategyType : StrategyType}

theorem choices_listed {opportunity : YieldOpportunity}
    (chosen : opportunity ∈ choices strategyType opportunities constraints) : opportunity ∈ listed opportunities := by
  unfold choices at chosen
  split at chosen
  next => exact (List.mem_filter.mp chosen).1
  next =>
    obtain ⟨entry, member, first⟩ := List.mem_filterMap.mp chosen
    exact mem_listed.mpr ⟨entry, member, List.mem_of_find?_eq_some first⟩

section Amounts
variable (chosen : List YieldOpportunity) (amount : YieldOpportunity → ℚ)

def allocated : List AllocationResult := chosen.map fun opportunity => createAllocation opportunity (finite (amount opportunity))

theorem sum_allocated : sumFrom 0 ((allocated chosen amount).map AllocationResult.allocation) =
    finite (chosen.map amount).sum := by
  have sums := sumFrom_finite 0 (chosen.map amount)
  rw [zero_add, List.map_map] at sums
  rw [allocated, List.map_map]
  exact sums

theorem expectedAPY_allocated : ∃ totalYield : ℚ, calculateExpectedAPY (allocated chosen amount) =
    finite totalYield / finite (chosen.map amount).sum * finite 100 := by
  have sums := sum_allocated chosen amount
  have yields := sumFrom_finite 0 (chosen.map fun opportunity => amount opportunity * opportunity.apy / 100)
  rw [sumFrom, List.foldl_map] at sums
  rw [sumFrom, List.map_map, List.foldl_map] at yields
  refine ⟨0 + (chosen.map fun opportunity => amount opportunity * opportunity.apy / 100).sum, ?_⟩
  rw [calculateExpectedAPY, sums, ← yields, allocated, List.foldl_map]
  have each : ∀ opportunity : YieldOpportunity,
      finite (amount opportunity) * finite opportunity.apy / finite 100 =
        (finite (amount opportunity * opportunity.apy / 100) : Number ℚ) :=
    fun opportunity => finite_div_finite (by norm_num)
  simp only [createAllocation, each, Function.comp_apply]
  rfl

theorem expectedAPY_finite_iff : (∃ apy, calculateExpectedAPY (allocated chosen amount) = finite apy) ↔
    (chosen.map amount).sum ≠ 0 := by
  obtain ⟨totalYield, isYield⟩ := expectedAPY_allocated chosen amount
  rw [isYield]
  constructor
  · rintro ⟨apy, isFinite⟩ zero
    rw [zero, finite_div_zero] at isFinite
    obtain ⟨value, isValue⟩ := finite_of_mul_finite isFinite
    exact signed_ne_finite true totalYield value isValue
  · intro nonzero
    rw [finite_div_finite nonzero]
    exact ⟨_, rfl⟩

variable {result : OptimizationResult}

/-- With finite amounts it comes to their sum, their signs and what is chosen. -/
theorem respects_iff (allocates : result.allocations = allocated chosen amount)
    (expects : result.expectedApy = calculateExpectedAPY result.allocations)
    (ofListed : ∀ opportunity ∈ chosen, opportunity ∈ listed opportunities) :
    Respects opportunities totalCapital constraints result ↔
      (chosen.map amount).sum ≠ 0 ∧ (∀ opportunity ∈ chosen, 0 ≤ amount opportunity) ∧
        (chosen.map amount).sum ≤ totalCapital ∧ ∀ opportunity ∈ chosen, Allowed constraints opportunity := by
  have used : ∀ {P : AllocationResult → Prop}, (∀ a ∈ result.allocations, P a) ↔
      ∀ opportunity ∈ chosen, P (createAllocation opportunity (finite (amount opportunity))) := by
    intro P
    rw [allocates, allocated, List.forall_mem_map]
  have sums : sumFrom 0 (result.allocations.map AllocationResult.allocation) = finite (chosen.map amount).sum := by
    rw [allocates, sum_allocated]
  constructor
  · intro respects
    obtain ⟨isFinite, -⟩ := respects.divides
    rw [expects, allocates, expectedAPY_finite_iff] at isFinite
    have within := respects.within
    rw [sums, finite_le_finite] at within
    refine ⟨isFinite, fun opportunity member => finite_le_finite.mp (used.mp respects.nonneg opportunity member),
      within, fun opportunity member => ⟨used.mp respects.unexcluded opportunity member, ?_⟩⟩
    exact used.mp respects.tolerated opportunity member opportunity (ofListed opportunity member) rfl rfl
  · rintro ⟨nonzero, nonneg, within, allowed⟩
    refine ⟨⟨?_, used.mpr fun opportunity _ => ⟨_, rfl⟩⟩,
      used.mpr fun opportunity member => finite_le_finite.mpr (nonneg opportunity member), ?_,
      used.mpr fun opportunity member => (allowed opportunity member).1,
      used.mpr fun opportunity member other isListed token protocol => ?_⟩
    · rw [expects, allocates, expectedAPY_finite_iff]
      exact nonzero
    · rw [sums, finite_le_finite]
      exact within
    · obtain rfl := listed_unique isListed (ofListed opportunity member) token protocol
      exact (allowed other member).2

theorem eq_zero_of_sum_zero {chosen : List YieldOpportunity}
    (signs : (∀ opportunity ∈ chosen, 0 ≤ opportunity.jpy) ∨ ∀ opportunity ∈ chosen, opportunity.jpy ≤ 0)
    (zero : (chosen.map YieldOpportunity.jpy).sum = 0) : ∀ opportunity ∈ chosen, opportunity.jpy = 0 := by
  intro opportunity member
  rcases signs with nonneg | nonpos
  · exact List.all_zero_of_le_zero_le_of_sum_eq_zero (List.forall_mem_map.mpr nonneg) zero (List.mem_map_of_mem member)
  · have opposite : (chosen.map fun each => -1 * each.jpy).sum = 0 := by rw [List.sum_map_mul_left, zero, mul_zero]
    have isZero := List.all_zero_of_le_zero_le_of_sum_eq_zero
      (List.forall_mem_map.mpr fun each isListed => by linarith [nonpos each isListed]) opposite
      (List.mem_map_of_mem member)
    linarith

/-- The shares of a sum that is not 0 are not negative when the yields are of one sign, which is that of the sum. -/
theorem sum_signs {chosen : List YieldOpportunity} (nonzero : (chosen.map YieldOpportunity.jpy).sum ≠ 0)
    (positive : 0 < totalCapital) : (∀ opportunity ∈ chosen,
      0 ≤ opportunity.jpy / (chosen.map YieldOpportunity.jpy).sum * totalCapital) ↔
      (∀ opportunity ∈ chosen, 0 ≤ opportunity.jpy) ∨ ∀ opportunity ∈ chosen, opportunity.jpy ≤ 0 := by
  constructor
  · intro shares
    have parts : ∀ opportunity ∈ chosen, 0 ≤ opportunity.jpy / (chosen.map YieldOpportunity.jpy).sum :=
      fun opportunity member => nonneg_of_mul_nonneg_left (shares opportunity member) positive
    rcases lt_or_gt_of_ne nonzero with below | above
    · exact Or.inr fun opportunity member => by
        have part := mul_nonpos_of_nonneg_of_nonpos (parts opportunity member) below.le
        rwa [div_mul_cancel₀ _ nonzero] at part
    · exact Or.inl fun opportunity member => by
        have part := mul_nonneg (parts opportunity member) above.le
        rwa [div_mul_cancel₀ _ nonzero] at part
  · rintro (nonneg | nonpos) opportunity member
    · exact mul_nonneg (div_nonneg (nonneg opportunity member)
        (List.sum_nonneg (List.forall_mem_map.mpr nonneg))) positive.le
    · exact mul_nonneg (div_nonneg_of_nonpos (nonpos opportunity member)
        (by simpa using List.sum_le_card_nsmul _ 0 (List.forall_mem_map.mpr nonpos))) positive.le

theorem respects_iff_flat {share : ℚ} (positive : 0 < share)
    (allocates : result.allocations = allocated chosen fun _ => share)
    (expects : result.expectedApy = calculateExpectedAPY result.allocations)
    (ofListed : ∀ opportunity ∈ chosen, opportunity ∈ listed opportunities) :
    Respects opportunities totalCapital constraints result ↔
      chosen ≠ [] ∧ chosen.length * share ≤ totalCapital ∧ ∀ opportunity ∈ chosen, Allowed constraints opportunity := by
  have isSum : (chosen.map fun _ => share).sum = chosen.length * share := by
    rw [List.map_const', List.sum_replicate, nsmul_eq_mul]
  rw [respects_iff chosen _ allocates expects ofListed, isSum]
  have nonzero : (chosen.length * share : ℚ) ≠ 0 ↔ chosen ≠ [] := by
    rw [mul_ne_zero_iff_right positive.ne', Nat.cast_ne_zero, ne_eq, List.length_eq_zero_iff]
  rw [nonzero]
  exact and_congr_right fun _ => and_iff_right fun _ _ => positive.le

/-- Shares of the capital by a yield: they are finite where the yields do not add up to 0, and the signs agree with the
sign of the sum. -/
theorem respects_iff_shared (positive : 0 < totalCapital)
    (allocates : result.allocations = chosen.map fun opportunity => createAllocation opportunity
      (finite opportunity.jpy / finite (chosen.map YieldOpportunity.jpy).sum * finite totalCapital))
    (expects : result.expectedApy = calculateExpectedAPY result.allocations)
    (ofListed : ∀ opportunity ∈ chosen, opportunity ∈ listed opportunities) :
    Respects opportunities totalCapital constraints result ↔
      chosen ≠ [] ∧ (∀ opportunity ∈ chosen, Allowed constraints opportunity) ∧
        ((∀ opportunity ∈ chosen, 0 ≤ opportunity.jpy) ∨ ∀ opportunity ∈ chosen, opportunity.jpy ≤ 0) ∧
          ∃ opportunity ∈ chosen, opportunity.jpy ≠ 0 := by
  by_cases zero : (chosen.map YieldOpportunity.jpy).sum = 0
  · constructor
    · intro respects
      have undefined : chosen = [] := by
        rw [List.eq_nil_iff_forall_not_mem]
        intro opportunity member
        obtain ⟨value, isValue⟩ := respects.divides.2 _ (allocates ▸ List.mem_map_of_mem member)
        rw [zero] at isValue
        obtain ⟨part, isPart⟩ := finite_of_mul_finite (K := ℚ) isValue
        exact signed_ne_finite true opportunity.jpy part ((finite_div_zero _).symm.trans isPart)
      subst undefined
      obtain ⟨isFinite, -⟩ := respects.divides
      rw [expects, allocates] at isFinite
      exact absurd rfl ((expectedAPY_finite_iff [] fun _ => 0).mp isFinite)
    · rintro ⟨-, -, signs, opportunity, member, nonzero⟩
      exact absurd (eq_zero_of_sum_zero signs zero opportunity member) nonzero
  · have shares : result.allocations = allocated chosen fun opportunity =>
        opportunity.jpy / (chosen.map YieldOpportunity.jpy).sum * totalCapital := by
      rw [allocates]
      refine List.map_congr_left fun opportunity _ => ?_
      rw [finite_div_finite zero]
      rfl
    have isSum : (chosen.map fun opportunity =>
        opportunity.jpy / (chosen.map YieldOpportunity.jpy).sum * totalCapital).sum = totalCapital := by
      simp only [div_eq_mul_inv, mul_assoc]
      rw [List.sum_map_mul_right, mul_inv_cancel_left₀ zero]
    rw [respects_iff chosen _ shares expects ofListed, isSum]
    have some : chosen ≠ [] := by
      rintro rfl
      exact zero rfl
    have nonzero : ∃ opportunity ∈ chosen, opportunity.jpy ≠ 0 := by
      by_contra none
      refine zero (List.sum_eq_zero (List.forall_mem_map.mpr fun opportunity member => ?_))
      exact not_not.mp fun other => none ⟨opportunity, member, other⟩
    rw [← sum_signs zero positive]
    exact ⟨fun ⟨_, signs, _, allowed⟩ => ⟨some, allowed, signs, nonzero⟩,
      fun ⟨_, allowed, signs, _⟩ => ⟨positive.ne', signs, le_rfl, allowed⟩⟩

end Amounts

/-! ## The four strategies -/

/-- What was found for the preferred tokens. -/
def offered (found : List String → Opportunities) (constraints : YieldConstraints) : Opportunities :=
  found (constraints.preferredTokens.getD ["USDC", "DAI", "USDT"])

/-- The capital is allocated, and the constraints are respected. -/
def Allocates (found : List String → Opportunities) (totalCapital : ℚ) (strategyType : StrategyType)
    (constraints : YieldConstraints) : Prop :=
  ∃ result, optimizeYieldAllocation found totalCapital strategyType constraints = .ok result ∧
    Respects (offered found constraints) totalCapital constraints result

def resultOf (strategyType : StrategyType) (totalCapital : ℚ) (constraints : YieldConstraints)
    (allocations : List AllocationResult) : OptimizationResult where
  strategyType := strategyType
  totalCapital := totalCapital
  expectedApy := calculateExpectedAPY allocations
  expectedYield := finite totalCapital * (calculateExpectedAPY allocations / finite 100)
  allocations := allocations
  constraints := constraints

section Strategies
variable {found : List String → Opportunities}

theorem allocates_iff {allocations : List AllocationResult}
    (allocate_eq : allocate strategyType (offered found constraints) totalCapital constraints = .ok allocations) :
    Allocates found totalCapital strategyType constraints ↔ Respects (offered found constraints) totalCapital constraints
      (resultOf strategyType totalCapital constraints allocations) := by
  have optimizes : optimizeYieldAllocation found totalCapital strategyType constraints =
      .ok (resultOf strategyType totalCapital constraints allocations) := by
    change (allocate strategyType (offered found constraints) totalCapital constraints >>= _) = _
    rw [allocate_eq]
    rfl
  unfold Allocates
  rw [optimizes]
  constructor
  · rintro ⟨result, same, respects⟩
    exact Except.ok.inj same ▸ respects
  · exact fun respects => ⟨_, rfl, respects⟩

theorem tenths_le (positive : 0 < totalCapital) (n : Nat) : n * (totalCapital * (1 / 10)) ≤ totalCapital ↔ n ≤ 10 := by
  rw [← mul_assoc, mul_comm (n : ℚ), mul_assoc, mul_le_iff_le_one_right positive, mul_one_div,
    div_le_one (by norm_num)]
  exact_mod_cast Iff.rfl

theorem tenths_iff (positive : 0 < totalCapital)
    (isTenth : strategyType = .highestYield ∨ strategyType = .stableYield)
    (allocate_eq : allocate strategyType (offered found constraints) totalCapital constraints =
      .ok ((choices strategyType (offered found constraints) constraints).map
        (createAllocation · (finite totalCapital * finite (1 / 10))))) :
    Allocates found totalCapital strategyType constraints ↔
      Served strategyType (offered found constraints) constraints := by
  rw [allocates_iff allocate_eq, respects_iff_flat (choices strategyType (offered found constraints) constraints)
    (mul_pos positive (by norm_num : (0 : ℚ) < 1 / 10)) rfl rfl fun _ => choices_listed, tenths_le positive]
  constructor
  · rintro ⟨chosen, few, allowed⟩
    exact ⟨chosen, allowed, fun _ => few, fun shared => by subst shared; simp at isTenth⟩
  · exact fun served => ⟨served.found, served.few isTenth, served.allowed⟩

theorem diversified_iff (positive : 0 < totalCapital) : Allocates found totalCapital .diversified constraints ↔
    Served .diversified (offered found constraints) constraints := by
  have allocate_eq : allocate .diversified (offered found constraints) totalCapital constraints =
      .ok (allocateForDiversification (offered found constraints) totalCapital) := rfl
  rw [allocates_iff allocate_eq, allocateForDiversification_eq constraints]
  have fewer : (choices .diversified (offered found constraints) constraints).length ≤
      (offered found constraints).byToken.size := List.length_filterMap_le _ _
  have servedIff : Served .diversified (offered found constraints) constraints ↔
      choices .diversified (offered found constraints) constraints ≠ [] ∧
        ∀ opportunity ∈ choices .diversified (offered found constraints) constraints, Allowed constraints opportunity :=
    ⟨fun served => ⟨served.found, served.allowed⟩, fun ⟨chosen, allowed⟩ => ⟨chosen, allowed, by simp, by simp⟩⟩
  rw [servedIff]
  rcases Nat.eq_zero_or_pos (offered found constraints).byToken.size with none | some
  · have nothing : choices .diversified (offered found constraints) constraints = [] :=
      List.length_eq_zero_iff.mp (by omega)
    rw [respects_iff_flat (choices .diversified (offered found constraints) constraints) positive
      (by rw [nothing]; rfl) rfl fun _ => choices_listed]
    simp [nothing]
  · have isCount : (0 : ℚ) < (offered found constraints).byToken.size := Nat.cast_pos.mpr some
    rw [finite_div_finite isCount.ne', respects_iff_flat (choices .diversified (offered found constraints) constraints)
      (div_pos positive isCount) rfl rfl fun _ => choices_listed]
    refine and_congr_right fun _ => and_iff_right ?_
    rw [mul_div_left_comm]
    exact mul_le_of_le_one_right positive.le ((div_le_one isCount).mpr (Nat.cast_le.mpr fewer))

theorem riskAdjusted_iff (positive : 0 < totalCapital) : Allocates found totalCapital .riskAdjusted constraints ↔
    Served .riskAdjusted (offered found constraints) constraints := by
  have allocate_eq : allocate .riskAdjusted (offered found constraints) totalCapital constraints =
      .ok (allocateForRiskAdjusted (offered found constraints) totalCapital constraints) := rfl
  rw [allocates_iff allocate_eq, respects_iff_shared (choices .riskAdjusted (offered found constraints) constraints)
    positive allocateForRiskAdjusted_eq rfl fun _ => choices_listed]
  exact ⟨fun ⟨chosen, allowed, signs⟩ => ⟨chosen, allowed, by simp, fun _ => signs⟩,
    fun served => ⟨served.found, served.allowed, served.signed rfl⟩⟩

end Strategies

/-- An allocation respects the capital and the constraints exactly when what the strategy chooses does so by itself. -/
theorem allocation_respects_iff (found : List String → Opportunities) (totalCapital : ℚ) (strategyType : StrategyType)
    (constraints : YieldConstraints) (positive : 0 < totalCapital) (allocates : strategyType ∈ allocating) :
    Allocates found totalCapital strategyType constraints ↔
      Served strategyType (offered found constraints) constraints := by
  simp only [allocating, List.mem_cons, List.not_mem_nil, or_false] at allocates
  rcases allocates with rfl | rfl | rfl | rfl
  · exact tenths_iff positive (Or.inl rfl) (congrArg Except.ok allocateForHighestYield_eq)
  · exact tenths_iff positive (Or.inr rfl) (congrArg Except.ok allocateForStableYield_eq)
  · exact riskAdjusted_iff positive
  · exact diversified_iff positive

/-! ## An excluded protocol is used -/

def lending : List YieldOpportunity := [⟨"aave", "USDC", 5, 2000000000, 5, 9 / 2⟩]

theorem lending_named : ∀ opportunity ∈ lending, opportunity.token = "USDC" := by decide

theorem lending_single : (lending.map YieldOpportunity.protocol).Nodup := by decide

def market : List String → Opportunities := fun _ => Opportunities.empty.set "USDC" lending lending_named lending_single

def cautious : YieldConstraints := ⟨none, some ["USDC"], some ["aave"]⟩

def tolerant : YieldConstraints := ⟨none, some ["USDC"], none⟩

theorem tolerant_respected : Allocates market 1000 .highestYield tolerant :=
  (allocation_respects_iff market 1000 .highestYield tolerant (by norm_num) (by decide)).mpr
    ⟨by decide +kernel, fun _ _ => ⟨nofun, nofun⟩, fun _ => by decide +kernel, nofun⟩

theorem excluded_used : ¬ Allocates market 1000 .highestYield cautious := by
  rintro ⟨result, optimizes, respects⟩
  obtain rfl := Except.ok.inj optimizes
  have unexcluded := respects.unexcluded ⟨"aave", "USDC", finite 100, 5⟩ (by decide +kernel)
  exact absurd unexcluded (by decide)

end AlianStructure.Guarantees.YieldAllocation
