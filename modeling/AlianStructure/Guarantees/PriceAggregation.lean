import Mathlib.Tactic.FieldSimp
import Mathlib.Tactic.Ring
import Mathlib.Data.Finset.Max
import Mathlib.Data.List.GetD
import Mathlib.Data.List.Pairwise
import AlianStructure.Source.Oracle.PriceFeedService

/-!
# The aggregated price

Source: src/blockchain/oracle/services/price-feed.service.ts:263-292. Of prices with at least one that counts, the
median lies between the least and the greatest that count, the largest deviation is theirs, and neither depends on
the order of the sources nor on prices that do not count.
-/
namespace AlianStructure.Guarantees.PriceAggregation
open Library.InsertionOrder Library.ExactNumber Source.Oracle PriceFeedService

variable {Key : Type} [DecidableEq Key] {values : List ℚ} {low high : ℚ}

/-! ## The median -/

theorem getD_mem {i : Nat} (inside : i < values.length) : values.getD i 0 ∈ values := by
  rw [List.getD_eq_getElem _ _ inside]
  exact List.getElem_mem inside

theorem medianOf_between (some : values ≠ []) (above : ∀ value ∈ values, low ≤ value)
    (below : ∀ value ∈ values, value ≤ high) : low ≤ medianOf values ∧ medianOf values ≤ high := by
  have length : 0 < (values.insertionSort (· ≤ ·)).length := by
    rw [List.length_insertionSort]
    exact List.length_pos_of_ne_nil some
  have within : ∀ i < (values.insertionSort (· ≤ ·)).length,
      low ≤ (values.insertionSort (· ≤ ·)).getD i 0 ∧ (values.insertionSort (· ≤ ·)).getD i 0 ≤ high := by
    intro i inside
    have member := (List.mem_insertionSort (· ≤ ·)).mp (getD_mem inside)
    exact ⟨above _ member, below _ member⟩
  have middle := within ((values.insertionSort (· ≤ ·)).length / 2) (by omega)
  unfold medianOf
  dsimp only
  split
  next =>
    have before := within ((values.insertionSort (· ≤ ·)).length / 2 - 1) (by omega)
    constructor <;> linarith [middle.1, middle.2, before.1, before.2]
  next => exact middle

theorem medianOf_perm {other : List ℚ} (perm : other.Perm values) : medianOf other = medianOf values := by
  have sorted : other.insertionSort (· ≤ ·) = values.insertionSort (· ≤ ·) :=
    ((List.perm_insertionSort _ other).trans (perm.trans (List.perm_insertionSort _ values).symm)).eq_of_pairwise'
      (List.pairwise_insertionSort _ other) (List.pairwise_insertionSort _ values)
  unfold medianOf
  rw [sorted]

/-! ## The largest deviation -/

theorem deviation_comm (a b : ℚ) : deviation a b = deviation b a := by
  unfold deviation
  rw [add_comm a b, abs_sub_comm a b]

theorem deviationsFrom_le {price largest bound : ℚ} {rest : List ℚ} :
    deviationsFrom price largest rest ≤ bound ↔ largest ≤ bound ∧ ∀ later ∈ rest, deviation price later ≤ bound := by
  induction rest generalizing largest with
  | nil => simp [deviationsFrom]
  | cons later rest ih =>
    rw [deviationsFrom, ih, List.forall_mem_cons, ← and_assoc]
    refine and_congr_left' ?_
    split
    next larger => exact ⟨fun here => ⟨larger.le.trans here, here⟩, And.right⟩
    next smaller => exact ⟨fun here => ⟨here, (not_lt.mp smaller).trans here⟩, And.left⟩

theorem maxDeviation_le {largest bound : ℚ} :
    maxDeviation largest values ≤ bound ↔ largest ≤ bound ∧ values.Pairwise (deviation · · ≤ bound) := by
  induction values generalizing largest with
  | nil => simp [maxDeviation]
  | cons price rest ih => rw [maxDeviation, ih, deviationsFrom_le, List.pairwise_cons, and_assoc]

theorem maxDeviation_perm {largest : ℚ} {other : List ℚ} (perm : other.Perm values) :
    maxDeviation largest other = maxDeviation largest values := by
  refine eq_of_forall_ge_iff fun bound => ?_
  rw [maxDeviation_le, maxDeviation_le]
  exact and_congr_right fun _ => perm.pairwise_iff fun {a b} here => deviation_comm a b ▸ here

theorem deviation_eq {a b : ℚ} (hasA : 0 < a) (hasB : 0 < b) : deviation a b = 200 * |a - b| / (a + b) := by
  have sum : 0 < a + b := add_pos hasA hasB
  unfold deviation
  dsimp only
  rw [if_pos (by linarith)]
  field_simp
  ring

theorem deviation_le {a b : ℚ} (positive : 0 < low) (lowA : low ≤ a) (lowB : low ≤ b) (highA : a ≤ high)
    (highB : b ≤ high) : deviation a b ≤ 200 * (high - low) / (high + low) := by
  have ordered : ∀ {a b : ℚ}, low ≤ a → b ≤ high → a ≤ b → deviation a b ≤ 200 * (high - low) / (high + low) := by
    intro a b lowA highB least
    have hasA : 0 < a := positive.trans_le lowA
    have hasB : 0 < b := hasA.trans_le least
    have hasHigh : 0 < high := hasB.trans_le highB
    have cross : b * low ≤ high * a := mul_le_mul highB lowA positive.le hasHigh.le
    rw [deviation_eq hasA hasB, abs_sub_comm, abs_of_nonneg (sub_nonneg.mpr least),
      div_le_div_iff₀ (add_pos hasA hasB) (add_pos hasHigh positive)]
    linarith
  rcases le_total a b with least | least
  · exact ordered lowA highB least
  · rw [deviation_comm]
    exact ordered lowB highA least

theorem maxDeviation_eq (positive : 0 < low) (hasLow : low ∈ values) (hasHigh : high ∈ values)
    (above : ∀ value ∈ values, low ≤ value) (below : ∀ value ∈ values, value ≤ high) :
    maxDeviation 0 values = 200 * (high - low) / (high + low) := by
  have ordered : low ≤ high := above high hasHigh
  have sum : 0 < high + low := add_pos (positive.trans_le ordered) positive
  apply le_antisymm
  · refine maxDeviation_le.mpr ⟨by have := sub_nonneg.mpr ordered; positivity, ?_⟩
    exact List.pairwise_of_forall_mem_list fun a memberA b memberB =>
      deviation_le positive (above a memberA) (above b memberB) (below a memberA) (below b memberB)
  · obtain ⟨least, pairs⟩ := maxDeviation_le.mp (le_refl (maxDeviation 0 values))
    by_cases same : high = low
    · rw [same, sub_self, mul_zero, zero_div]
      exact least
    · have : Std.Symm fun a b => deviation a b ≤ maxDeviation 0 values :=
        ⟨fun a b here => deviation_comm a b ▸ here⟩
      have pair := pairs.forall hasHigh hasLow same
      rwa [deviation_eq (positive.trans_le ordered) positive, abs_of_nonneg (sub_nonneg.mpr ordered)] at pair

/-! ## The prices that count -/

/-- The prices of a map that are finite and positive. -/
def positivePrices (prices : SourcePrices Key) : Set ℚ :=
  { price | 0 < price ∧ ∃ source, prices.get? source = some (some (.finite price)) }

omit [DecidableEq Key] in
theorem priceOf_eq_some {value : Option (Number ℚ)} {price : ℚ} :
    priceOf value = some price ↔ 0 < price ∧ value = some (.finite price) := by
  unfold priceOf
  split
  next finite =>
    split
    next positive =>
      constructor
      · rintro ⟨⟩
        exact ⟨positive, rfl⟩
      · rintro ⟨_, ⟨⟩⟩
        rfl
    next negative =>
      refine iff_of_false (by simp) ?_
      rintro ⟨positive, ⟨⟩⟩
      exact negative positive
  next other =>
    refine iff_of_false (by simp) ?_
    rintro ⟨_, rfl⟩
    exact other price rfl

theorem mem_validPrices {prices : SourcePrices Key} {price : ℚ} :
    price ∈ validPrices prices ↔ price ∈ positivePrices prices := by
  unfold validPrices
  rw [List.mem_filterMap]
  constructor
  · rintro ⟨value, member, counts⟩
    obtain ⟨positive, rfl⟩ := priceOf_eq_some.mp counts
    obtain ⟨⟨source, _⟩, listed, rfl⟩ := List.mem_map.mp member
    exact ⟨positive, source, OrderedMap.mem_entries.mp listed⟩
  · rintro ⟨positive, source, found⟩
    exact ⟨_, List.mem_map.mpr ⟨_, OrderedMap.mem_entries.mpr found, rfl⟩, priceOf_eq_some.mpr ⟨positive, rfl⟩⟩

/-- The values of a map, in its order. -/
def sourceValues (prices : SourcePrices Key) : List (Option (Number ℚ)) := prices.entries.map Prod.snd

omit [DecidableEq Key] in
theorem aggregatePrices_perm {prices other : SourcePrices Key} {extra : List (Option (Number ℚ))}
    (none : ∀ value ∈ extra, priceOf value = none) (perm : (sourceValues other).Perm (sourceValues prices ++ extra)) :
    aggregatePrices other = aggregatePrices prices := by
  have valid : (validPrices other).Perm (validPrices prices) := by
    have filtered := perm.filterMap priceOf
    rw [List.filterMap_append, List.filterMap_eq_nil_iff.mpr none, List.append_nil] at filtered
    exact filtered
  unfold aggregatePrices
  dsimp only
  rw [medianOf_perm valid, maxDeviation_perm valid]
  by_cases empty : validPrices prices = []
  · rw [empty, List.perm_nil] at valid
    rw [if_pos valid, if_pos empty]
  · have filled : validPrices other ≠ [] := by
      intro missing
      rw [missing, List.nil_perm] at valid
      exact empty valid
    rw [if_neg empty, if_neg filled]

/-- The median is between the extremes and the largest deviation is theirs, whatever the order of the sources and
whatever else they report that does not count. -/
theorem prices_aggregated (prices : SourcePrices Key) (counts : (positivePrices prices).Nonempty) :
    ∃ low high, IsLeast (positivePrices prices) low ∧ IsGreatest (positivePrices prices) high ∧
      low ≤ (aggregatePrices prices).median ∧ (aggregatePrices prices).median ≤ high ∧
      (aggregatePrices prices).maxDeviationPercent = 200 * (high - low) / (high + low) ∧
      ∀ (other : SourcePrices Key) (extra : List (Option (Number ℚ))),
        (∀ value ∈ extra, ∀ price, value = some (.finite price) → price ≤ 0) →
        (sourceValues other).Perm (sourceValues prices ++ extra) →
        aggregatePrices other = aggregatePrices prices := by
  have some : validPrices prices ≠ [] := by
    obtain ⟨price, member⟩ := counts
    exact List.ne_nil_of_mem (mem_validPrices.mpr member)
  obtain ⟨low, hasLow, above⟩ := (validPrices prices).toFinset.exists_min_image id
    (List.toFinset_nonempty_iff _ |>.mpr some)
  obtain ⟨high, hasHigh, below⟩ := (validPrices prices).toFinset.exists_max_image id
    (List.toFinset_nonempty_iff _ |>.mpr some)
  simp only [List.mem_toFinset, id] at hasLow above hasHigh below
  have between := medianOf_between some above below
  have counted := mem_validPrices.mp hasLow
  have least := maxDeviation_eq counted.1 hasLow hasHigh above below
  have aggregated : aggregatePrices prices = ⟨medianOf (validPrices prices), maxDeviation 0 (validPrices prices)⟩ :=
    if_neg some
  rw [aggregated]
  refine ⟨low, high, ⟨counted, fun price member => above price (mem_validPrices.mpr member)⟩,
    ⟨mem_validPrices.mp hasHigh, fun price member => below price (mem_validPrices.mpr member)⟩,
    between.1, between.2, least, fun other extra none perm => ?_⟩
  rw [← aggregated]
  refine aggregatePrices_perm (fun value member => ?_) perm
  refine Option.eq_none_iff_forall_not_mem.mpr fun price here => ?_
  obtain ⟨positive, finite⟩ := priceOf_eq_some.mp here
  exact absurd positive (not_lt.mpr (none value member price finite))

def sampleSources : SourcePrices String :=
  ((OrderedMap.empty.set "chainlink" (some (.finite 104))).set "band" (some (.finite 100))).set "uniswap_twap"
    (some .nan)

theorem sampleSources_aggregated : ∃ low high,
    IsLeast (positivePrices sampleSources) low ∧ IsGreatest (positivePrices sampleSources) high ∧
      low ≤ (aggregatePrices sampleSources).median ∧ (aggregatePrices sampleSources).median ≤ high ∧
      (aggregatePrices sampleSources).maxDeviationPercent = 200 * (high - low) / (high + low) := by
  obtain ⟨low, high, least, greatest, above, below, deviates, _⟩ :=
    prices_aggregated sampleSources ⟨100, by norm_num, "band", rfl⟩
  exact ⟨low, high, least, greatest, above, below, deviates⟩

end AlianStructure.Guarantees.PriceAggregation
