import Mathlib.Data.List.Induction
import Mathlib.Tactic.NormNum
import AlianStructure.Source.Investment.RebalancingTrades

/-!
# The drift that triggers a rebalancing

Source: src/investment/portfolio/services/rebalancing.service.ts:43-75,447-464. The drift is taken over the targets that
are held; it is the largest drift of all tickers just where none that is only held or only a target deviates more. The
other method keeps the last row of a ticker, and no number for a name that the target object inherits.
-/
namespace AlianStructure.Guarantees.DriftDetection
open Library.InsertionOrder Source.Investment RebalancingService

/-- The largest of numbers that are not negative, and 0 if there is none. -/
def IsLargest (numbers : List ℚ) (largest : ℚ) : Prop :=
  (∀ d ∈ numbers, d ≤ largest) ∧ (largest = 0 ∨ largest ∈ numbers)

/-- Each of some numbers is 0 or reached by one of others. -/
def Covers (others numbers : List ℚ) : Prop := ∀ d ∈ numbers, d = 0 ∨ ∃ other ∈ others, d ≤ other

theorem isLargest_iff {numbers others : List ℚ} {largest : ℚ} (isLargest : IsLargest numbers largest)
    (notBelow : ∀ d ∈ numbers, 0 ≤ d) (othersNotBelow : ∀ d ∈ others, 0 ≤ d) :
    IsLargest others largest ↔ Covers others numbers ∧ Covers numbers others := by
  obtain ⟨above, met⟩ := isLargest
  constructor
  · rintro ⟨aboveOthers, metOthers⟩
    constructor
    · intro d listed
      rcases metOthers with rfl | other
      · exact Or.inl (le_antisymm (above d listed) (notBelow d listed))
      · exact Or.inr ⟨largest, other, above d listed⟩
    · intro d listed
      rcases met with rfl | other
      · exact Or.inl (le_antisymm (aboveOthers d listed) (othersNotBelow d listed))
      · exact Or.inr ⟨largest, other, aboveOthers d listed⟩
  · rintro ⟨covered, covers⟩
    have zeroLe : 0 ≤ largest := met.elim ge_of_eq fun listed => notBelow largest listed
    have aboveOthers : ∀ d ∈ others, d ≤ largest := fun d listed => by
      rcases covers d listed with rfl | ⟨other, isOther, le⟩
      · exact zeroLe
      · exact le.trans (above other isOther)
    refine ⟨aboveOthers, ?_⟩
    rcases met with zero | listed
    · exact Or.inl zero
    · rcases covered largest listed with zero | ⟨other, isOther, le⟩
      · exact Or.inl zero
      · exact Or.inr (le_antisymm le (aboveOthers other isOther) ▸ isOther)

theorem isLargest_foldl {Item : Type} (number : Item → Option ℚ) (items : List Item) : ∀ {numbers : List ℚ} {best : ℚ},
    IsLargest numbers best → IsLargest (numbers ++ items.filterMap number) (items.foldl (fun best item =>
      match number item with
      | none => best
      | some d => if best < d then d else best) best) := by
  induction items with
  | nil => exact fun isLargest => (List.append_nil _).symm ▸ isLargest
  | cons item rest ih =>
    intro numbers best isLargest
    rw [List.foldl_cons]
    cases isNumber : number item with
    | none =>
      rw [List.filterMap_cons_none isNumber]
      exact ih isLargest
    | some d =>
      rw [List.filterMap_cons_some isNumber, List.append_cons]
      refine ih ?_
      obtain ⟨above, met⟩ := isLargest
      dsimp only
      rw [← max_def_lt]
      refine ⟨fun other listed => ?_, ?_⟩
      · rcases List.mem_append.mp listed with early | isLast
        · exact (above other early).trans (le_max_left _ _)
        · exact (List.mem_singleton.mp isLast).le.trans (le_max_right _ _)
      · rcases max_choice best d with isBest | isLast
        · rw [isBest]
          exact met.imp_right fun early => List.mem_append_left _ early
        · rw [isLast]
          exact Or.inr (List.mem_append_right _ (List.mem_singleton_self d))

/-- Lists whose numbers reach equally far. -/
def Alike (numbers others : List ℚ) : Prop := Covers others numbers ∧ Covers numbers others

theorem isLargest_congr {numbers others : List ℚ} (same : ∀ d, d ∈ numbers ↔ d ∈ others) (largest : ℚ) :
    IsLargest numbers largest ↔ IsLargest others largest := by
  simp only [IsLargest, same]

theorem covers_congr {numbers others : List ℚ} (same : ∀ d, d ∈ numbers ↔ d ∈ others) (reached : List ℚ) :
    (Covers reached numbers ↔ Covers reached others) ∧ (Covers numbers reached ↔ Covers others reached) := by
  simp only [Covers, same, and_self]

def firstRow (assets : List PortfolioAsset) (ticker : String) : Option PortfolioAsset :=
  assets.find? fun asset => decide (asset.ticker = ticker)

def lastRow (assets : List PortfolioAsset) (ticker : String) : Option PortfolioAsset :=
  firstRow assets.reverse ticker

section Drifts
variable (targets : OrderedMap String ℚ) (assets : List PortfolioAsset)

/-- The share of a ticker on all chains. -/
def currentAllocation (ticker : String) : ℚ :=
  ((assets.filter fun asset => decide (asset.ticker = ticker)).map PortfolioAsset.allocationPercentage).sum

def target (ticker : String) : ℚ := (targets.get? ticker).getD 0

/-- How far a row is from the target of its ticker. -/
def offTarget (asset : PortfolioAsset) : ℚ := |asset.allocationPercentage - target targets asset.ticker|

/-- The drift of every ticker that is held or a target. -/
def allDrifts : List ℚ :=
  (assets.map PortfolioAsset.ticker ++ targets.keys).map fun ticker =>
    |currentAllocation assets ticker - target targets ticker|

/-- The targets of tickers that are not held. -/
def missingTargets : List ℚ :=
  (targets.entries.filter fun entry => assets.all fun asset => decide (asset.ticker ≠ entry.1)).map fun entry => |entry.2|

/-- The shares of tickers that are no targets. -/
def untargeted : List ℚ :=
  (assets.filter fun asset => (targets.get? asset.ticker).isNone).map fun asset => |asset.allocationPercentage|

/-- How far the first row of each held target is from it. -/
def heldDrifts : List ℚ :=
  (assets.filter fun asset => decide (firstRow assets asset.ticker = some asset ∧
    (targets.get? asset.ticker).isSome)).map (offTarget targets)

/-- How far the last row of each ticker is from its target, but for a name that cannot be assigned to. -/
def lastDrifts : List ℚ :=
  (assets.filter fun asset => decide (asset.ticker ≠ "__proto__" ∧
    lastRow assets asset.ticker = some asset)).map (offTarget targets)

/-- What the other method records; NaN is nothing. -/
def recorded (portfolio : Portfolio) : List (Option ℚ) :=
  (calculateAllocationDrift portfolio assets).entries.map Prod.snd

/-- The drift is the largest of all tickers, and of what the other method records, which are numbers, with the missing
targets. -/
structure Complete (portfolio : Portfolio) (maxDrift : ℚ) : Prop where
  all : IsLargest (allDrifts targets assets) maxDrift
  numbers : none ∉ recorded assets portfolio
  recorded : IsLargest (((recorded assets portfolio).filterMap id).map abs ++ missingTargets targets assets) maxDrift

/-- The first rows of the held targets reach as far as all tickers, and as far as the last rows with the missing targets;
and every ticker that the target object inherits a member for is a target. -/
structure Reaches : Prop where
  all : Alike (heldDrifts targets assets) (allDrifts targets assets)
  own : ∀ asset ∈ assets, asset.ticker ∈ prototypeMembers → asset.ticker ≠ "__proto__" →
    (targets.get? asset.ticker).isSome
  last : Alike (heldDrifts targets assets) (lastDrifts targets assets ++ missingTargets targets assets)

end Drifts

variable {targets : OrderedMap String ℚ} {assets : List PortfolioAsset} {portfolio : Portfolio}

theorem heldDrifts_nonneg : ∀ d ∈ heldDrifts targets assets, 0 ≤ d :=
  List.forall_mem_map.mpr fun _ _ => abs_nonneg _

theorem allDrifts_nonneg : ∀ d ∈ allDrifts targets assets, 0 ≤ d :=
  List.forall_mem_map.mpr fun _ _ => abs_nonneg _

theorem lastDrifts_nonneg : ∀ d ∈ lastDrifts targets assets ++ missingTargets targets assets, 0 ≤ d :=
  List.forall_mem_append.mpr ⟨List.forall_mem_map.mpr fun _ _ => abs_nonneg _,
    List.forall_mem_map.mpr fun _ _ => abs_nonneg _⟩

theorem firstRow_some {ticker : String} {asset : PortfolioAsset} (found : firstRow assets ticker = some asset) :
    asset ∈ assets ∧ asset.ticker = ticker :=
  have fits := List.find?_some (p := fun asset : PortfolioAsset => decide (asset.ticker = ticker)) found
  ⟨List.mem_of_find?_eq_some found, of_decide_eq_true fits⟩

theorem mem_heldDrifts {d : ℚ} : d ∈ targets.entries.filterMap (targetDrift assets) ↔
    d ∈ heldDrifts targets assets := by
  rw [List.mem_filterMap, heldDrifts, List.mem_map]
  constructor
  · rintro ⟨⟨ticker, percentage⟩, member, isDrift⟩
    obtain ⟨asset, found, rfl⟩ := Option.map_eq_some_iff.mp isDrift
    obtain ⟨listed, rfl⟩ := firstRow_some found
    have isTarget := OrderedMap.mem_entries.mp member
    refine ⟨asset, List.mem_filter.mpr ⟨listed, decide_eq_true ⟨found, by rw [isTarget]; rfl⟩⟩, ?_⟩
    rw [offTarget, target, isTarget, Option.getD_some]
  · rintro ⟨asset, member, rfl⟩
    obtain ⟨found, held⟩ := of_decide_eq_true (List.mem_filter.mp member).2
    obtain ⟨percentage, isTarget⟩ := Option.isSome_iff_exists.mp held
    refine ⟨(asset.ticker, percentage), OrderedMap.mem_entries.mpr isTarget, ?_⟩
    unfold firstRow at found
    rw [targetDrift, found, offTarget, target, isTarget]
    rfl

theorem maxDrift_isLargest (isTarget : portfolio.targetAllocation = some targets) (rebalanceThreshold customThreshold : Option ℚ) :
    IsLargest (heldDrifts targets assets)
      (shouldRebalance portfolio rebalanceThreshold assets customThreshold).2 := by
  have nothing : IsLargest [] 0 := ⟨nofun, Or.inl rfl⟩
  unfold shouldRebalance
  rw [isTarget, ← isLargest_congr fun _ => mem_heldDrifts]
  exact isLargest_foldl (targetDrift assets) targets.entries nothing

theorem currentAllocation_cons (asset : PortfolioAsset) (rest : List PortfolioAsset) (ticker : String) :
    currentAllocation (asset :: rest) ticker =
      (if asset.ticker = ticker then asset.allocationPercentage else 0) + currentAllocation rest ticker := by
  unfold currentAllocation
  by_cases same : asset.ticker = ticker
  · rw [List.filter_cons_of_pos (by simpa using same), List.map_cons, List.sum_cons, if_pos same]
  · rw [List.filter_cons_of_neg (by simpa using same), if_neg same, zero_add]

theorem currentAllocation_unheld {ticker : String} (unheld : ∀ asset ∈ assets, asset.ticker ≠ ticker) :
    currentAllocation assets ticker = 0 := by
  have nothing : (assets.filter fun asset => decide (asset.ticker = ticker)) = [] :=
    List.filter_eq_nil_iff.mpr fun asset listed => by simpa using unheld asset listed
  rw [currentAllocation, nothing]
  rfl

/-- With one row a ticker, the share of a ticker is that of its row, which is the one found. -/
theorem row_of_single (single : (assets.map PortfolioAsset.ticker).Nodup) {asset : PortfolioAsset} (listed : asset ∈ assets) :
    currentAllocation assets asset.ticker = asset.allocationPercentage ∧
      firstRow assets asset.ticker = some asset := by
  induction assets with
  | nil => cases listed
  | cons first rest ih =>
    obtain ⟨isNew, single⟩ := List.nodup_cons.mp single
    rcases List.mem_cons.mp listed with rfl | later
    · have unheld : ∀ other ∈ rest, other.ticker ≠ asset.ticker := fun other member same =>
        isNew (same ▸ List.mem_map_of_mem member)
      rw [currentAllocation_cons, if_pos rfl, currentAllocation_unheld unheld, add_zero]
      exact ⟨rfl, List.find?_cons_of_pos (by simp)⟩
    · have other : first.ticker ≠ asset.ticker := fun same => isNew (same ▸ List.mem_map_of_mem later)
      obtain ⟨share, found⟩ := ih single later
      rw [currentAllocation_cons, if_neg other, zero_add]
      exact ⟨share, (List.find?_cons_of_neg (by simpa using other)).trans found⟩

theorem rowDrift_eq (isTarget : portfolio.targetAllocation = some targets) (asset : PortfolioAsset) :
    rowDrift portfolio asset = if asset.ticker ∈ prototypeMembers ∧ (targets.get? asset.ticker).isNone then none
      else some (asset.allocationPercentage - target targets asset.ticker) := by
  unfold rowDrift targetPercentage target
  rw [isTarget]
  dsimp only
  cases targets.get? asset.ticker with
  | some percentage => simp
  | none => by_cases inherits : asset.ticker ∈ prototypeMembers <;> simp [inherits]

/-- Later rows of a ticker replace the earlier ones. -/
theorem get?_calculateAllocationDrift (portfolio : Portfolio) (assets : List PortfolioAsset) (ticker : String) :
    (calculateAllocationDrift portfolio assets).get? ticker =
      if ticker = "__proto__" then none else (lastRow assets ticker).map (rowDrift portfolio) := by
  induction assets using List.reverseRecOn with
  | nil => split <;> rfl
  | append_singleton assets asset ih =>
    unfold calculateAllocationDrift lastRow firstRow at ih ⊢
    rw [List.foldl_append, List.reverse_append, List.foldl_cons, List.foldl_nil, List.reverse_singleton,
      List.singleton_append]
    by_cases same : asset.ticker = ticker
    · subst same
      rw [List.find?_cons_of_pos (by simp)]
      split
      next isProto => rw [ih, if_pos isProto]
      next => rw [OrderedMap.get?_set, if_pos rfl]; rfl
    · rw [List.find?_cons_of_neg (by simpa using same), ← ih]
      split
      next => rfl
      next => rw [OrderedMap.get?_set, if_neg fun isSame => same isSame.symm]

theorem mem_recorded {value : Option ℚ} : value ∈ recorded assets portfolio ↔
    ∃ asset, (asset.ticker ≠ "__proto__" ∧ lastRow assets asset.ticker = some asset) ∧
      rowDrift portfolio asset = value := by
  constructor
  · intro listed
    obtain ⟨⟨ticker, _⟩, member, rfl⟩ := List.mem_map.mp listed
    have found := OrderedMap.mem_entries.mp member
    rw [get?_calculateAllocationDrift] at found
    split at found
    next => cases found
    next assigned =>
      obtain ⟨asset, isLast, rfl⟩ := Option.map_eq_some_iff.mp found
      obtain ⟨-, rfl⟩ := firstRow_some isLast
      exact ⟨asset, ⟨assigned, isLast⟩, rfl⟩
  · rintro ⟨asset, ⟨assigned, isLast⟩, rfl⟩
    refine List.mem_map.mpr ⟨(asset.ticker, rowDrift portfolio asset), OrderedMap.mem_entries.mpr ?_, rfl⟩
    rw [get?_calculateAllocationDrift, if_neg assigned, isLast]
    rfl

theorem mem_lastDrifts {d : ℚ} : d ∈ lastDrifts targets assets ↔
    ∃ asset, (asset.ticker ≠ "__proto__" ∧ lastRow assets asset.ticker = some asset) ∧ offTarget targets asset = d := by
  rw [lastDrifts, List.mem_map]
  refine exists_congr fun asset => and_congr_left fun _ => ?_
  rw [List.mem_filter, decide_eq_true_iff]
  exact and_iff_right_of_imp fun isLast => List.mem_reverse.mp (firstRow_some isLast.2).1

theorem numbers_iff (isTarget : portfolio.targetAllocation = some targets) : none ∉ recorded assets portfolio ↔
    ∀ asset ∈ assets, asset.ticker ∈ prototypeMembers → asset.ticker ≠ "__proto__" →
      (targets.get? asset.ticker).isSome := by
  rw [mem_recorded, ← not_iff_not, not_not]
  push Not
  constructor
  · rintro ⟨asset, ⟨assigned, isLast⟩, isNaN⟩
    rw [rowDrift_eq isTarget, ite_eq_left_iff] at isNaN
    obtain ⟨inherits, unset⟩ := Classical.not_not.mp fun own => nomatch isNaN own
    exact ⟨asset, List.mem_reverse.mp (firstRow_some isLast).1, inherits, assigned, by simpa using unset⟩
  · rintro ⟨asset, listed, inherits, assigned, unset⟩
    have some_row : (lastRow assets asset.ticker).isSome :=
      List.find?_isSome.mpr ⟨asset, List.mem_reverse.mpr listed, by simp⟩
    obtain ⟨last, isLast⟩ := Option.isSome_iff_exists.mp some_row
    have same := (firstRow_some isLast).2
    refine ⟨last, ⟨same ▸ assigned, same.symm ▸ isLast⟩, ?_⟩
    rw [rowDrift_eq isTarget, if_pos ⟨same ▸ inherits, by simpa [same] using unset⟩]

/-- Numbers that are recorded are the drifts of the last rows. -/
theorem mem_recorded_numbers (isTarget : portfolio.targetAllocation = some targets)
    (numbers : none ∉ recorded assets portfolio) {d : ℚ} :
    d ∈ ((recorded assets portfolio).filterMap id).map abs ↔ d ∈ lastDrifts targets assets := by
  rw [mem_lastDrifts, List.mem_map]
  have drift : ∀ {asset : PortfolioAsset}, (asset.ticker ≠ "__proto__" ∧ lastRow assets asset.ticker = some asset) →
      rowDrift portfolio asset = some (asset.allocationPercentage - target targets asset.ticker) := by
    intro asset isLast
    have isNumber : rowDrift portfolio asset ≠ none := fun isNaN => numbers (mem_recorded.mpr ⟨asset, isLast, isNaN⟩)
    rw [rowDrift_eq isTarget] at isNumber ⊢
    split
    next isNaN => exact absurd (if_pos isNaN) isNumber
    next => rfl
  constructor
  · rintro ⟨x, listed, rfl⟩
    obtain ⟨value, member, isSome⟩ := List.mem_filterMap.mp listed
    obtain ⟨asset, isLast, rfl⟩ := mem_recorded.mp member
    rw [id, drift isLast] at isSome
    exact ⟨asset, isLast, congrArg abs (Option.some.inj isSome)⟩
  · rintro ⟨asset, isLast, rfl⟩
    exact ⟨_, List.mem_filterMap.mpr ⟨_, mem_recorded.mpr ⟨asset, isLast, rfl⟩, drift isLast⟩, rfl⟩

/-- The drift of a row: of a target that is held, or of a ticker that is no target. -/
theorem row_drift (single : (assets.map PortfolioAsset.ticker).Nodup) {asset : PortfolioAsset} (listed : asset ∈ assets) :
    offTarget targets asset ∈ heldDrifts targets assets ∨ offTarget targets asset ∈ untargeted targets assets := by
  cases isTarget : targets.get? asset.ticker with
  | none =>
    refine Or.inr (List.mem_map.mpr ⟨asset, List.mem_filter.mpr ⟨listed, by simp [isTarget]⟩, ?_⟩)
    rw [offTarget, target, isTarget, Option.getD_none, sub_zero]
  | some percentage =>
    exact Or.inl (List.mem_map.mpr ⟨asset, List.mem_filter.mpr ⟨listed, decide_eq_true
      ⟨(row_of_single single listed).2, by rw [isTarget]; rfl⟩⟩, rfl⟩)

theorem mem_held {d : ℚ} (listed : d ∈ heldDrifts targets assets) : ∃ asset ∈ assets, offTarget targets asset = d := by
  obtain ⟨asset, member, rfl⟩ := List.mem_map.mp listed
  exact ⟨asset, List.mem_of_mem_filter member, rfl⟩

theorem mem_allDrifts (single : (assets.map PortfolioAsset.ticker).Nodup) {d : ℚ} : d ∈ allDrifts targets assets ↔
    (∃ asset ∈ assets, offTarget targets asset = d) ∨ d ∈ missingTargets targets assets := by
  constructor
  · intro listed
    obtain ⟨ticker, member, rfl⟩ := List.mem_map.mp listed
    by_cases held : ∃ asset ∈ assets, asset.ticker = ticker
    · obtain ⟨asset, isAsset, rfl⟩ := held
      exact Or.inl ⟨asset, isAsset, by rw [(row_of_single single isAsset).1, offTarget]⟩
    · have unheld : ∀ asset ∈ assets, asset.ticker ≠ ticker := fun asset isAsset same => held ⟨asset, isAsset, same⟩
      rcases List.mem_append.mp member with isTicker | isKey
      · obtain ⟨asset, isAsset, same⟩ := List.mem_map.mp isTicker
        exact absurd same (unheld asset isAsset)
      · obtain ⟨⟨key, percentage⟩, isEntry, rfl⟩ := List.mem_map.mp isKey
        refine Or.inr (List.mem_map.mpr ⟨(key, percentage), List.mem_filter.mpr ⟨isEntry, ?_⟩, ?_⟩)
        · exact List.all_eq_true.mpr fun asset isAsset => decide_eq_true (unheld asset isAsset)
        · rw [currentAllocation_unheld unheld, target, OrderedMap.mem_entries.mp isEntry, Option.getD_some, zero_sub,
            abs_neg]
  · rintro (⟨asset, isAsset, rfl⟩ | missing)
    · refine List.mem_map.mpr ⟨asset.ticker, List.mem_append_left _ (List.mem_map_of_mem isAsset), ?_⟩
      rw [(row_of_single single isAsset).1, offTarget]
    · obtain ⟨⟨key, percentage⟩, isMissing, rfl⟩ := List.mem_map.mp missing
      obtain ⟨isEntry, isUnheld⟩ := List.mem_filter.mp isMissing
      have unheld : ∀ asset ∈ assets, asset.ticker ≠ key := fun asset isAsset =>
        of_decide_eq_true (List.all_eq_true.mp isUnheld asset isAsset)
      refine List.mem_map.mpr ⟨key, List.mem_append_right _ (List.mem_map_of_mem isEntry), ?_⟩
      rw [currentAllocation_unheld unheld, target, OrderedMap.mem_entries.mp isEntry, Option.getD_some, zero_sub, abs_neg]

theorem mem_last (single : (assets.map PortfolioAsset.ticker).Nodup)
    (plain : ∀ asset ∈ assets, asset.ticker ∉ prototypeMembers) {d : ℚ} :
    d ∈ lastDrifts targets assets ++ missingTargets targets assets ↔ d ∈ allDrifts targets assets := by
  rw [mem_allDrifts single, List.mem_append, mem_lastDrifts]
  refine or_congr_left (exists_congr fun asset => and_congr_left fun _ => ?_)
  constructor
  · exact fun isLast => List.mem_reverse.mp (firstRow_some isLast.2).1
  · intro listed
    have reversed : (assets.reverse.map PortfolioAsset.ticker).Nodup := by
      rwa [List.map_reverse, List.nodup_reverse]
    refine ⟨fun isProto => plain asset listed ?_, (row_of_single reversed (List.mem_reverse.mpr listed)).2⟩
    rw [isProto]
    exact List.mem_cons_self

/-- With one row a ticker the held targets reach far enough when they reach as far as the tickers that are only held and
those that are only targets. -/
theorem reaches_iff_single (single : (assets.map PortfolioAsset.ticker).Nodup)
    (plain : ∀ asset ∈ assets, asset.ticker ∉ prototypeMembers) : Reaches targets assets ↔
      Covers (heldDrifts targets assets) (untargeted targets assets ++ missingTargets targets assets) := by
  have unpaired : ∀ d ∈ untargeted targets assets, ∃ asset ∈ assets, offTarget targets asset = d := fun d listed => by
    obtain ⟨asset, member, rfl⟩ := List.mem_map.mp listed
    obtain ⟨isAsset, isNone⟩ := List.mem_filter.mp member
    refine ⟨asset, isAsset, ?_⟩
    rw [offTarget, target, Option.isNone_iff_eq_none.mp isNone, Option.getD_none, sub_zero]
  constructor
  · rintro ⟨⟨-, covers⟩, -, -⟩ d listed
    refine covers d ((mem_allDrifts single).mpr ?_)
    exact (List.mem_append.mp listed).imp_left (unpaired d)
  · intro covers
    have alike : Alike (heldDrifts targets assets) (allDrifts targets assets) := by
      refine ⟨fun d listed => Or.inr ⟨d, (mem_allDrifts single).mpr (Or.inl (mem_held listed)), le_rfl⟩, fun d listed => ?_⟩
      rcases (mem_allDrifts single).mp listed with ⟨asset, isAsset, rfl⟩ | missing
      · rcases row_drift single isAsset with isHeld | isUntargeted
        · exact Or.inr ⟨_, isHeld, le_rfl⟩
        · exact covers _ (List.mem_append_left _ isUntargeted)
      · exact covers d (List.mem_append_right _ missing)
    have members (d : ℚ) : d ∈ lastDrifts targets assets ++ missingTargets targets assets ↔ d ∈ allDrifts targets assets :=
      mem_last single plain
    have same := covers_congr members (heldDrifts targets assets)
    exact ⟨alike, fun asset listed inherits => absurd inherits (plain asset listed),
      ⟨same.2.mpr alike.1, same.1.mpr alike.2⟩⟩

/-- The drift is complete just where the first rows of the held targets reach as far as all; with one row a ticker, just
where they reach as far as the shares without a target and the targets without a share. -/
theorem drift_complete_iff (portfolio : Portfolio) (targets : OrderedMap String ℚ) (assets : List PortfolioAsset)
    (rebalanceThreshold customThreshold : Option ℚ) (isTarget : portfolio.targetAllocation = some targets) :
    (Complete targets assets portfolio (shouldRebalance portfolio rebalanceThreshold assets customThreshold).2 ↔
      Reaches targets assets) ∧
    ((assets.map PortfolioAsset.ticker).Nodup → (∀ asset ∈ assets, asset.ticker ∉ prototypeMembers) →
      (Reaches targets assets ↔
        Covers (heldDrifts targets assets) (untargeted targets assets ++ missingTargets targets assets))) := by
  have isLargest : IsLargest (heldDrifts targets assets)
      (shouldRebalance portfolio rebalanceThreshold assets customThreshold).2 :=
    maxDrift_isLargest isTarget rebalanceThreshold customThreshold
  generalize (shouldRebalance portfolio rebalanceThreshold assets customThreshold).2 = maxDrift at *
  have all : IsLargest (allDrifts targets assets) maxDrift ↔ _ :=
    isLargest_iff isLargest heldDrifts_nonneg allDrifts_nonneg
  have last : IsLargest (lastDrifts targets assets ++ missingTargets targets assets) maxDrift ↔ _ :=
    isLargest_iff isLargest heldDrifts_nonneg lastDrifts_nonneg
  have same (numbers : none ∉ recorded assets portfolio) :
      IsLargest (((recorded assets portfolio).filterMap id).map abs ++ missingTargets targets assets) maxDrift ↔
        IsLargest (lastDrifts targets assets ++ missingTargets targets assets) maxDrift :=
    isLargest_congr (fun d => by rw [List.mem_append, mem_recorded_numbers isTarget numbers, ← List.mem_append]) maxDrift
  refine ⟨⟨fun complete => ?_, fun reaches => ?_⟩, reaches_iff_single⟩
  · exact ⟨all.mp complete.all, (numbers_iff isTarget).mp complete.numbers,
      last.mp ((same complete.numbers).mp complete.recorded)⟩
  · have numbers := (numbers_iff isTarget).mpr reaches.own
    exact ⟨all.mpr reaches.all, numbers, (same numbers).mpr (last.mpr reaches.last)⟩

/-- A portfolio with a target. -/
def sample (targets : OrderedMap String ℚ) : Portfolio where
  id := "portfolio"
  userId := "user"
  name := "name"
  totalValue := 100
  currentAllocation := .empty
  targetAllocation := some targets
  lastRebalanceDate := none

def holding (ticker : String) (percentage : ℚ) : PortfolioAsset :=
  ⟨ticker, .other, some 1, percentage, percentage, none⟩

/-- A ticker without a target deviates less than one with a target. -/
theorem drift_complete_held : Complete ((OrderedMap.empty.set "BTC" 60).set "ETH" 40)
    [holding "BTC" 70, holding "ETH" 25, holding "SOL" 5] (sample ((OrderedMap.empty.set "BTC" 60).set "ETH" 40))
    (shouldRebalance (sample ((OrderedMap.empty.set "BTC" 60).set "ETH" 40)) none
      [holding "BTC" 70, holding "ETH" 25, holding "SOL" 5] none).2 := by
  have complete := drift_complete_iff (sample ((OrderedMap.empty.set "BTC" 60).set "ETH" 40))
    ((OrderedMap.empty.set "BTC" 60).set "ETH" 40) [holding "BTC" 70, holding "ETH" 25, holding "SOL" 5] none none rfl
  refine complete.1.mpr ((complete.2 (by decide +kernel) (by decide +kernel)).mpr ?_)
  unfold Covers
  decide +kernel

/-- All in one ticker, and all of the target in another: neither is checked. -/
theorem drift_missed : shouldRebalance (sample (OrderedMap.empty.set "BTC" 100)) none [holding "ETH" 100] none = (false, 0) ∧
    ¬ Complete (OrderedMap.empty.set "BTC" 100) [holding "ETH" 100] (sample (OrderedMap.empty.set "BTC" 100))
      (shouldRebalance (sample (OrderedMap.empty.set "BTC" 100)) none [holding "ETH" 100] none).2 := by
  have isZero : shouldRebalance (sample (OrderedMap.empty.set "BTC" 100)) none [holding "ETH" 100] none = (false, 0) := by
    decide +kernel
  refine ⟨isZero, fun complete => ?_⟩
  rw [isZero] at complete
  have atMost := complete.all.1 100 (by decide +kernel)
  exact absurd atMost (by norm_num)

end AlianStructure.Guarantees.DriftDetection
