import Mathlib.Algebra.BigOperators.Ring.List
import Mathlib.Algebra.Order.Field.Basic
import Mathlib.Tactic.FieldSimp
import Mathlib.Tactic.Linarith
import Mathlib.Tactic.Ring
import AlianStructure.Source.Investment.RebalancingTrades

/-!
# What the trades of a rebalancing reach

Source: src/investment/portfolio/services/rebalancing.service.ts:303-358. The trades follow the rows
that are held: a ticker without a row is not bought, and every row of a ticker is moved to the target
of the whole ticker. A row whose ticker is the name of a member of the prototype of all objects, and has
no target, is not moved at all: what the target object answers for it is no number.
-/
namespace AlianStructure.Guarantees.RebalancingTargets
open Library.InsertionOrder
open Source.Investment PortfolioService RebalancingService

def rowsOf (assets : List PortfolioAsset) (ticker : String) : List PortfolioAsset :=
  assets.filter fun asset => decide (asset.ticker = ticker)

/-- The tickers that are held or targeted. -/
def tickers (portfolio : Portfolio) (assets : List PortfolioAsset) : List String :=
  assets.map (·.ticker) ++ (portfolio.targetAllocation.map (·.keys)).getD []

/-- The target of a ticker: 0 if it has none. -/
def target (portfolio : Portfolio) (ticker : String) : ℚ :=
  (portfolio.targetAllocation.bind (·.get? ticker)).getD 0

/-- The ticker has no target, and the target object answers for it with a member of its prototype. -/
def Shadowed (portfolio : Portfolio) (ticker : String) : Prop :=
  ticker ∈ prototypeMembers ∧ portfolio.targetAllocation.map (·.get? ticker) = some none

instance (portfolio : Portfolio) (ticker : String) : Decidable (Shadowed portfolio ticker) :=
  inferInstanceAs (Decidable (_ ∧ _))

/-- What a trade adds to the value that is held in its ticker. -/
def added (trade : RebalancingTrade) : ℚ :=
  if trade.action = .buy then trade.quantity * trade.price else -(trade.quantity * trade.price)

/-- The share of a ticker, in percent, when the trades have been made. -/
def shareAfter (portfolio : Portfolio) (assets : List PortfolioAsset)
    (trades : List RebalancingTrade) (ticker : String) : ℚ :=
  (((rowsOf assets ticker).map (·.value)).sum +
    ((trades.filter fun trade => decide (trade.ticker = ticker)).map added).sum) /
      portfolio.totalValue * 100

def difference (portfolio : Portfolio) (asset : PortfolioAsset) : ℚ :=
  target portfolio asset.ticker - asset.allocationPercentage

/-- The difference of a row that is too small for a trade, or of a row that is not compared. -/
def untraded (portfolio : Portfolio) (asset : PortfolioAsset) : ℚ :=
  if ¬ Shadowed portfolio asset.ticker ∧ 1 / 2 < |difference portfolio asset| then 0
  else difference portfolio asset

def valueOf (action : TradeAction) (trades : List RebalancingTrade) : ℚ :=
  ((trades.filter fun trade => decide (trade.action = action)).map (·.value)).sum

/-- Every ticker comes within half a percent of its target, and purchases and sales differ by what is
left untraded. -/
structure Rebalances (portfolio : Portfolio) (assets : List PortfolioAsset)
    (trades : List RebalancingTrade) : Prop where
  reaches : ∀ ticker ∈ tickers portfolio assets,
    |target portfolio ticker - shareAfter portfolio assets trades ticker| ≤ 1 / 2
  balances : valueOf .buy trades - valueOf .sell trades +
    (assets.map (untraded portfolio)).sum / 100 * portfolio.totalValue = 0

/-- The ticker has one row, which is compared; or its target, counted once too often or not at all, is
made up for by the differences that are left. -/
def Covered (portfolio : Portfolio) (assets : List PortfolioAsset) (ticker : String) : Prop :=
  ¬ Shadowed portfolio ticker ∧ (rowsOf assets ticker).length = 1 ∨
    |((rowsOf assets ticker).length - 1) * target portfolio ticker -
      ((rowsOf assets ticker).map (untraded portfolio)).sum| ≤ 1 / 2

instance (portfolio : Portfolio) (assets : List PortfolioAsset) (ticker : String) :
    Decidable (Covered portfolio assets ticker) :=
  inferInstanceAs (Decidable (_ ∨ _))

/-- The rows of a portfolio are priced, and the metrics are those of the rows. -/
structure Measured (portfolio : Portfolio) (assets : List PortfolioAsset) : Prop where
  priced : ∀ asset ∈ assets, ∃ price, asset.currentPrice = some price ∧ 0 < price
  positive : 0 < portfolio.totalValue
  total : (assets.map (·.value)).sum = portfolio.totalValue
  shares : ∀ asset ∈ assets, asset.allocationPercentage = asset.value / portfolio.totalValue * 100

section Row
variable {portfolio : Portfolio} {assets : List PortfolioAsset} {asset : PortfolioAsset}
  {trade : RebalancingTrade}

theorem targetPercentage_eq (ticker : String) : targetPercentage portfolio ticker =
    if Shadowed portfolio ticker then none else some (target portfolio ticker) := by
  by_cases shadowed : Shadowed portfolio ticker
  · obtain ⟨inherits, unset⟩ := shadowed
    obtain ⟨targets, isSet, absent⟩ := Option.map_eq_some_iff.mp unset
    rw [if_pos ⟨inherits, unset⟩, targetPercentage, isSet]
    simp [absent, inherits]
  · rw [if_neg shadowed, targetPercentage, target]
    cases isSet : portfolio.targetAllocation with
    | none => rfl
    | some targets =>
      cases found : targets.get? ticker with
      | some percentage => simp [found]
      | none =>
        have plain : ticker ∉ prototypeMembers := fun inherits =>
          shadowed ⟨inherits, by rw [isSet, Option.map_some, found]⟩
        simp [found, plain]

theorem calculateTrade_ticker (trades : calculateTrade portfolio asset = some trade) :
    trade.ticker = asset.ticker := by
  obtain ⟨target, -, trades⟩ := Option.bind_eq_some_iff.mp trades
  dsimp only at trades
  split at trades
  next => cases trades; rfl
  next => cases trades

theorem calculateTrade_some (measured : Measured portfolio assets) (member : asset ∈ assets)
    (trades : calculateTrade portfolio asset = some trade) :
    (¬ Shadowed portfolio asset.ticker ∧ 1 / 2 < |difference portfolio asset|) ∧
      added trade = difference portfolio asset / 100 * portfolio.totalValue ∧
      added trade = if trade.action = .buy then trade.value else -trade.value := by
  by_cases shadowed : Shadowed portfolio asset.ticker
  · rw [calculateTrade, targetPercentage_eq, if_pos shadowed] at trades
    cases trades
  obtain ⟨price, isPrice, price_pos⟩ := measured.priced asset member
  have named : orNumber asset.currentPrice 1 = price ∧ orNumber asset.currentPrice 0 = price := by
    simp [orNumber, isPrice, price_pos.ne']
  rw [calculateTrade, targetPercentage_eq, if_neg shadowed, Option.bind_eq_bind, Option.bind_some] at trades
  simp only [named] at trades
  split at trades
  next off =>
    have moved : target portfolio asset.ticker / 100 * portfolio.totalValue -
        asset.allocationPercentage / 100 * portfolio.totalValue =
          difference portfolio asset / 100 * portfolio.totalValue := by
      unfold difference
      ring
    rw [moved] at trades
    generalize difference portfolio asset / 100 * portfolio.totalValue = change at *
    have priced : |change / price| * price = |change| := by
      rw [abs_div, abs_of_pos price_pos, div_mul_cancel₀ _ price_pos.ne']
    refine ⟨⟨shadowed, off⟩, ?_⟩
    cases trades
    dsimp only [added]
    rw [priced]
    by_cases buys : 0 < change / price
    · rw [if_pos buys]
      have gains : 0 < change := by
        by_contra notPositive
        exact absurd buys
          (not_lt.mpr (div_nonpos_of_nonpos_of_nonneg (not_lt.mp notPositive) price_pos.le))
      exact ⟨abs_of_pos gains, rfl⟩
    · have loses : change ≤ 0 := by
        by_contra positive
        exact buys (div_pos (not_le.mp positive) price_pos)
      rw [if_neg buys, abs_of_nonpos loses, neg_neg]
      exact ⟨rfl, rfl⟩
  next => cases trades

theorem calculateTrade_none (none_traded : calculateTrade portfolio asset = none) :
    ¬ (¬ Shadowed portfolio asset.ticker ∧ 1 / 2 < |difference portfolio asset|) := by
  rintro ⟨own, off⟩
  rw [calculateTrade, targetPercentage_eq, if_neg own, Option.bind_eq_bind, Option.bind_some] at none_traded
  dsimp only at none_traded
  split at none_traded
  next => cases none_traded
  next near => exact near off

theorem abs_untraded_le (own : ¬ Shadowed portfolio asset.ticker) : |untraded portfolio asset| ≤ 1 / 2 := by
  unfold untraded
  split
  next => norm_num
  next near => exact not_lt.mp fun off => near ⟨own, off⟩

end Row

section Rows
variable {portfolio : Portfolio} {assets : List PortfolioAsset}

/-- What is traded and what is left untraded make up the differences of the rows. -/
theorem sum_added (measured : Measured portfolio assets) :
    ∀ rows : List PortfolioAsset, (∀ asset ∈ rows, asset ∈ assets) →
      ((calculateRebalancingTrades portfolio rows).map added).sum =
        ((rows.map (difference portfolio)).sum - (rows.map (untraded portfolio)).sum) / 100 *
          portfolio.totalValue
  | [], _ => by simp [calculateRebalancingTrades]
  | asset :: rows, listed => by
    have ih := sum_added measured rows fun other member => listed other (List.mem_cons_of_mem _ member)
    have member := listed asset List.mem_cons_self
    unfold calculateRebalancingTrades at ih ⊢
    simp only [List.map_cons, List.sum_cons]
    cases trades : calculateTrade portfolio asset with
    | none =>
      rw [List.filterMap_cons_none trades, ih, untraded, if_neg (calculateTrade_none trades)]
      ring
    | some trade =>
      obtain ⟨off, adds, _⟩ := calculateTrade_some measured member trades
      rw [List.filterMap_cons_some trades, List.map_cons, List.sum_cons, ih, adds, untraded, if_pos off]
      ring

theorem trades_of_ticker (ticker : String) : (calculateRebalancingTrades portfolio assets).filter
        (fun trade => decide (trade.ticker = ticker)) =
      calculateRebalancingTrades portfolio (rowsOf assets ticker) := by
  unfold calculateRebalancingTrades rowsOf
  rw [List.filter_filterMap, List.filterMap_filter]
  refine List.filterMap_congr fun asset _ => ?_
  cases trades : calculateTrade portfolio asset with
  | none => simp
  | some trade =>
    have same := calculateTrade_ticker trades
    by_cases named : asset.ticker = ticker <;> simp [same, named]

theorem bought_less_sold (measured : Measured portfolio assets) :
    valueOf .buy (calculateRebalancingTrades portfolio assets) -
        valueOf .sell (calculateRebalancingTrades portfolio assets) =
      ((calculateRebalancingTrades portfolio assets).map added).sum := by
  have signed : ∀ trade ∈ calculateRebalancingTrades portfolio assets,
      added trade = if trade.action = .buy then trade.value else -trade.value := by
    intro trade member
    obtain ⟨asset, listed, trades⟩ := List.mem_filterMap.mp member
    exact (calculateTrade_some measured listed trades).2.2
  generalize calculateRebalancingTrades portfolio assets = trades at *
  induction trades with
  | nil => simp [valueOf]
  | cons trade trades ih =>
    have rest := ih fun other member => signed other (List.mem_cons_of_mem _ member)
    have first := signed trade List.mem_cons_self
    simp only [valueOf, List.map_cons, List.sum_cons] at rest ⊢
    rw [← rest, first]
    cases action : trade.action <;> simp [action] <;> ring

/-- The share of a ticker is its target, counted for every row, less what is left untraded. -/
theorem shareAfter_eq (measured : Measured portfolio assets) (ticker : String) :
    shareAfter portfolio assets (calculateRebalancingTrades portfolio assets) ticker =
      (rowsOf assets ticker).length * target portfolio ticker -
        ((rowsOf assets ticker).map (untraded portfolio)).sum := by
  have listed : ∀ asset ∈ rowsOf assets ticker, asset ∈ assets ∧ asset.ticker = ticker :=
    fun asset member => ⟨List.mem_of_mem_filter member, by simpa using (List.mem_filter.mp member).2⟩
  have adds := sum_added measured (rowsOf assets ticker) fun asset member => (listed asset member).1
  rw [shareAfter, trades_of_ticker, adds]
  generalize rowsOf assets ticker = rows at *
  have shares : ∀ rows : List PortfolioAsset, (∀ asset ∈ rows, asset ∈ assets ∧ asset.ticker = ticker) →
      (rows.map (·.value)).sum / portfolio.totalValue * 100 + (rows.map (difference portfolio)).sum =
        rows.length * target portfolio ticker := by
    intro rows listed
    induction rows with
    | nil => simp
    | cons asset rows ih =>
      have rest := ih fun other member => listed other (List.mem_cons_of_mem _ member)
      obtain ⟨member, named⟩ := listed asset List.mem_cons_self
      simp only [List.map_cons, List.sum_cons, List.length_cons, difference, named,
        measured.shares asset member]
      push_cast
      rw [add_mul, one_mul, ← rest]
      ring
  rw [← shares rows listed]
  have nonzero := measured.positive.ne'
  field_simp
  ring

end Rows

theorem updatePortfolioMetrics_measured {portfolio : Portfolio} {assets : List PortfolioAsset}
    (priced : ∀ asset ∈ assets, ∃ price, asset.currentPrice = some price ∧ 0 < price)
    (positive : 0 < (assets.map (·.value)).sum) : Measured (updatePortfolioMetrics portfolio assets).1
      (updatePortfolioMetrics portfolio assets).2 := by
  refine ⟨List.forall_mem_map.mpr priced, positive, ?_, List.forall_mem_map.mpr fun asset _ => ?_⟩
  · simp [updatePortfolioMetrics, Function.comp_def]
  · exact if_pos positive

section Whole
variable {portfolio : Portfolio} {assets : List PortfolioAsset}

theorem reaches_iff (measured : Measured portfolio assets) (ticker : String) :
    |target portfolio ticker -
        shareAfter portfolio assets (calculateRebalancingTrades portfolio assets) ticker| ≤ 1 / 2 ↔
      Covered portfolio assets ticker := by
  rw [shareAfter_eq measured, Covered]
  have same : target portfolio ticker -
      ((rowsOf assets ticker).length * target portfolio ticker -
        ((rowsOf assets ticker).map (untraded portfolio)).sum) =
      -(((rowsOf assets ticker).length - 1) * target portfolio ticker -
        ((rowsOf assets ticker).map (untraded portfolio)).sum) := by ring
  rw [same, abs_neg]
  refine ⟨Or.inr, ?_⟩
  rintro (⟨own, single⟩ | near)
  · obtain ⟨asset, isRow⟩ := List.length_eq_one_iff.mp single
    have named : asset.ticker = ticker := by
      have listed : asset ∈ rowsOf assets ticker := isRow ▸ List.mem_singleton_self asset
      simpa using (List.mem_filter.mp listed).2
    rw [isRow]
    have near : |untraded portfolio asset| ≤ 1 / 2 := abs_untraded_le (named ▸ own)
    simpa using near
  · exact near

/-- Purchases and sales balance when the targets of the rows make up the whole. -/
theorem balances_iff (measured : Measured portfolio assets) :
    valueOf .buy (calculateRebalancingTrades portfolio assets) -
        valueOf .sell (calculateRebalancingTrades portfolio assets) +
        (assets.map (untraded portfolio)).sum / 100 * portfolio.totalValue = 0 ↔
      (assets.map fun asset => target portfolio asset.ticker).sum = 100 := by
  have shares : (assets.map (·.allocationPercentage)).sum = 100 := by
    have each : assets.map (·.allocationPercentage) =
        assets.map fun asset => asset.value * (100 / portfolio.totalValue) := by
      refine List.map_congr_left fun asset member => ?_
      rw [measured.shares asset member]
      ring
    rw [each, List.sum_map_mul_right, measured.total]
    exact mul_div_cancel₀ _ measured.positive.ne'
  have differences : (assets.map (difference portfolio)).sum =
      (assets.map fun asset => target portfolio asset.ticker).sum - 100 := by
    rw [← shares]
    generalize assets = rows
    induction rows with
    | nil => simp
    | cons asset rows ih =>
      simp only [List.map_cons, List.sum_cons, ih, difference]
      ring
  rw [bought_less_sold measured, sum_added measured assets fun _ => id, differences]
  generalize (assets.map fun asset => target portfolio asset.ticker).sum = targets
  have nonzero := measured.positive.ne'
  constructor
  · intro vanishes
    have factored : (targets - 100) / 100 * portfolio.totalValue = 0 := by
      rw [← vanishes]
      ring
    rcases mul_eq_zero.mp factored with same | isZero
    · linarith
    · exact absurd isZero nonzero
  · rintro rfl
    ring

end Whole

/-- The trades reach the target exactly when every ticker is covered and the rows' targets make up
the whole. -/
theorem rebalances_iff (portfolio : Portfolio) (assets : List PortfolioAsset)
    (priced : ∀ asset ∈ assets, ∃ price, asset.currentPrice = some price ∧ 0 < price)
    (positive : 0 < (assets.map (·.value)).sum) :
    Rebalances (updatePortfolioMetrics portfolio assets).1 (updatePortfolioMetrics portfolio assets).2
        (calculateRebalancingTrades (updatePortfolioMetrics portfolio assets).1
          (updatePortfolioMetrics portfolio assets).2) ↔ (∀ ticker ∈ tickers portfolio assets,
        Covered (updatePortfolioMetrics portfolio assets).1 (updatePortfolioMetrics portfolio assets).2 ticker) ∧
      (assets.map fun asset => target portfolio asset.ticker).sum = 100 := by
  have measured : Measured (updatePortfolioMetrics portfolio assets).1
      (updatePortfolioMetrics portfolio assets).2 := updatePortfolioMetrics_measured priced positive
  have same_tickers : tickers (updatePortfolioMetrics portfolio assets).1
      (updatePortfolioMetrics portfolio assets).2 = tickers portfolio assets := by
    simp [tickers, updatePortfolioMetrics, Function.comp_def]
  have same_targets : ((updatePortfolioMetrics portfolio assets).2.map fun asset =>
      target (updatePortfolioMetrics portfolio assets).1 asset.ticker) =
        assets.map fun asset => target portfolio asset.ticker := by
    simp [updatePortfolioMetrics, Function.comp_def, target]
  rw [← same_targets, ← balances_iff measured, ← same_tickers]
  constructor
  · intro rebalances
    exact ⟨fun ticker member => (reaches_iff measured ticker).mp (rebalances.reaches ticker member),
      rebalances.balances⟩
  · rintro ⟨covered, balanced⟩
    exact ⟨fun ticker member => (reaches_iff measured ticker).mpr (covered ticker member), balanced⟩

def evenTarget : OrderedMap String ℚ := (OrderedMap.empty.set "BTC" 50).set "ETH" 50

def evenPortfolio : Portfolio := ⟨"p", "u", "even", 0, .empty, some evenTarget, none⟩

def holding (ticker : String) (value : ℚ) : PortfolioAsset := ⟨ticker, .other, some 10, value, 0, none⟩

/-- Half of the portfolio is to be a ticker that is not held yet, and is not bought. -/
theorem target_not_held :
    (evenTarget.entries.map Prod.snd).sum = 100 ∧
      calculateRebalancingTrades (updatePortfolioMetrics evenPortfolio [holding "BTC" 100]).1
        (updatePortfolioMetrics evenPortfolio [holding "BTC" 100]).2 = [⟨"BTC", .sell, 5, 10, 50, 15 / 2⟩] ∧
      ¬ Rebalances (updatePortfolioMetrics evenPortfolio [holding "BTC" 100]).1
        (updatePortfolioMetrics evenPortfolio [holding "BTC" 100]).2
        (calculateRebalancingTrades (updatePortfolioMetrics evenPortfolio [holding "BTC" 100]).1
          (updatePortfolioMetrics evenPortfolio [holding "BTC" 100]).2) := by
  refine ⟨by decide +kernel, by decide +kernel, fun rebalances => ?_⟩
  exact absurd (rebalances.reaches "ETH" (by decide +kernel)) (by decide +kernel)

/-- With a row for each of the tickers the target is reached. -/
theorem targets_held :
    Rebalances (updatePortfolioMetrics evenPortfolio [holding "BTC" 75, holding "ETH" 25]).1
      (updatePortfolioMetrics evenPortfolio [holding "BTC" 75, holding "ETH" 25]).2
      (calculateRebalancingTrades
        (updatePortfolioMetrics evenPortfolio [holding "BTC" 75, holding "ETH" 25]).1
        (updatePortfolioMetrics evenPortfolio [holding "BTC" 75, holding "ETH" 25]).2) :=
  (rebalances_iff evenPortfolio [holding "BTC" 75, holding "ETH" 25]
    (by
      intro asset member
      refine ⟨10, ?_, by norm_num⟩
      simp only [List.mem_cons, List.not_mem_nil, or_false] at member
      rcases member with rfl | rfl <;> rfl)
    (by decide +kernel)).mpr ⟨by decide +kernel, by decide +kernel⟩

end AlianStructure.Guarantees.RebalancingTargets
