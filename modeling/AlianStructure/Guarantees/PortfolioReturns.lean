import AlianStructure.Source.Investment.PerformanceAnalyticsService
import AlianStructure.Library.Falls

/-!
# Time-weighted returns

Source: src/investment/portfolio/algorithms/performance-calculations.ts:77-116. The return of a sub-period leaves out
the flow at its end, so that the linked return has the growth alone; without flows it is the return of the whole series.
-/
namespace AlianStructure.Guarantees.LinkedReturns
open Source.Investment.PerformanceCalculations

/-- A sub-period: its growth and the flow at its end. -/
structure Period where
  growth : ℚ
  cashFlow : ℚ

/-- The value at the end of a sub-period. -/
def Period.endValue (period : Period) (startValue : ℚ) : ℚ := startValue * period.growth + period.cashFlow

/-- The values that the sub-periods start with. -/
def startValues : ℚ → List Period → List ℚ
  | _, [] => []
  | startValue, period :: rest => startValue :: startValues (period.endValue startValue) rest

/-- The returns of the sub-periods. -/
def periodReturns : ℚ → List Period → List ℚ
  | _, [] => []
  | startValue, period :: rest =>
    subPeriodReturn startValue (period.endValue startValue) period.cashFlow ::
      periodReturns (period.endValue startValue) rest

theorem foldl_growth (acc : ℚ) (returns : List ℚ) :
    returns.foldl (fun acc r => acc * (1 + r)) acc = acc * (returns.map (1 + ·)).prod := by
  induction returns generalizing acc with
  | nil => simp
  | cons r rest ih => rw [List.foldl_cons, ih, List.map_cons, List.prod_cons, mul_assoc]

theorem timeWeightedReturn_eq (returns : List ℚ) : timeWeightedReturn returns = (returns.map (1 + ·)).prod - 1 := by
  unfold timeWeightedReturn
  split
  next nothing =>
    rw [nothing]
    exact (sub_self 1).symm
  next => rw [foldl_growth, one_mul]

theorem subPeriodReturn_growth {startValue : ℚ} (positive : 0 < startValue) (period : Period) :
    1 + subPeriodReturn startValue (period.endValue startValue) period.cashFlow = period.growth := by
  have nonzero : startValue ≠ 0 := positive.ne'
  rw [subPeriodReturn, if_neg nonzero, Period.endValue]
  field_simp
  ring

theorem periodReturns_growth (periods : List Period) : ∀ startValue, (∀ s ∈ startValues startValue periods, 0 < s) →
    (periodReturns startValue periods).map (1 + ·) = periods.map Period.growth := by
  induction periods with
  | nil => exact fun _ _ => rfl
  | cons period rest ih =>
    intro startValue positive
    obtain ⟨first, later⟩ := List.forall_mem_cons.mp positive
    rw [periodReturns, List.map_cons, List.map_cons, subPeriodReturn_growth first, ih _ later]

theorem prod_simpleReturns (values : List ℚ) : ∀ first, (∀ v ∈ first :: values, v ≠ 0) →
    first * ((simpleReturns (first :: values)).map (1 + ·)).prod = (first :: values).getLast (List.cons_ne_nil _ _) := by
  induction values with
  | nil => exact fun first _ => mul_one first
  | cons next rest ih =>
    intro first nonzero
    obtain ⟨isFirst, later⟩ := List.forall_mem_cons.mp nonzero
    have growth : first * (1 + (next - first) / first) = next := by
      field_simp
      ring
    rw [simpleReturns, if_neg isFirst, List.map_cons, List.prod_cons, ← mul_assoc, growth, ih next later,
      List.getLast_cons_cons]

/-- The linked return of sub-periods that start with something is that of their growth factors, whatever flows are made;
without flows it is the return from the first value to the last. -/
theorem linked_flow_free :
    (∀ (startValue : ℚ) (periods : List Period), (∀ s ∈ startValues startValue periods, 0 < s) →
      timeWeightedReturn (periodReturns startValue periods) = (periods.map Period.growth).prod - 1) ∧
    ∀ (first : ℚ) (values : List ℚ), (∀ v ∈ first :: values, v ≠ 0) →
      timeWeightedReturn (simpleReturns (first :: values)) =
        (first :: values).getLast (List.cons_ne_nil _ _) / first - 1 := by
  constructor
  · intro startValue periods positive
    rw [timeWeightedReturn_eq, periodReturns_growth periods startValue positive]
  · intro first values nonzero
    have isFirst : first ≠ 0 := nonzero first List.mem_cons_self
    rw [timeWeightedReturn_eq, ← prod_simpleReturns values first nonzero, mul_div_cancel_left₀ _ isFirst]

theorem linked_flow_free_sample : timeWeightedReturn (periodReturns 100 [⟨2, 50⟩, ⟨1 / 2, -20⟩]) = 0 ∧
    timeWeightedReturn (simpleReturns [100, 50, 125]) = 1 / 4 :=
  ⟨(linked_flow_free.1 100 [⟨2, 50⟩, ⟨1 / 2, -20⟩] (by norm_num [startValues, Period.endValue])).trans (by norm_num),
    (linked_flow_free.2 100 [50, 125] (by norm_num)).trans (by norm_num)⟩

end AlianStructure.Guarantees.LinkedReturns

/-!
# The maximum drawdown

Source: src/investment/portfolio/algorithms/performance-calculations.ts:185-227. One pass with the peak so far finds the
largest loss from a value to a later one, and where it is.
-/
namespace AlianStructure.Guarantees.MaxDrawdown
open Library.Falls Source.Investment.PerformanceCalculations

/-- What the loop has found of the values it has seen. -/
structure Found (values : List ℚ) (scan : Scan) : Prop where
  peak : Peak values scan.peakIndex scan.peakValue
  worst : Worst values scan.result.peakIndex scan.result.troughIndex scan.result.peakValue scan.result.troughValue
  lost : scan.result.maxDrawdown = loss scan.result.peakValue scan.result.troughValue

theorem found_scanValue {values : List ℚ} {scan : Scan} {value : ℚ} (found : Found values scan)
    (positive : ∀ v ∈ values ++ [value], 0 < v) : Found (values ++ [value]) (scanValue scan values.length value) := by
  have isPeak := found.peak.concat value
  unfold scanValue
  dsimp only
  generalize (if scan.peakValue < value then values.length else scan.peakIndex) = peakIndex at isPeak ⊢
  generalize (if scan.peakValue < value then value else scan.peakValue) = peakValue at isPeak ⊢
  have peakPositive : 0 < peakValue := positive _ (List.mem_of_getElem? isPeak.place)
  have drawdown : (if 0 < peakValue then (peakValue - value) / peakValue else 0) = loss peakValue value :=
    if_pos peakPositive
  obtain ⟨more, same⟩ := found.worst.concat isPeak positive
  rw [drawdown, found.lost]
  refine ⟨isPeak, ?_, ?_⟩
  · split
    next larger => exact more larger
    next notLarger => exact same notLarger
  · split
    next => rfl
    next => exact found.lost

theorem found_scanFrom (rest : List ℚ) : ∀ {values : List ℚ} {scan : Scan}, Found values scan →
    (∀ v ∈ values ++ rest, 0 < v) → Found (values ++ rest) (scanFrom scan values.length rest) := by
  induction rest with
  | nil => exact fun found _ => (List.append_nil _).symm ▸ found
  | cons value rest ih =>
    intro values scan found positive
    have split : values ++ value :: rest = (values ++ [value]) ++ rest := List.append_cons values value rest
    rw [split] at positive ⊢
    have stepped := found_scanValue found fun v member => positive v (List.mem_append_left rest member)
    have goesOn := ih stepped positive
    rw [List.length_append, List.length_singleton] at goesOn
    exact goesOn

theorem scanValue_first (first : ℚ) : scanValue ⟨first, 0, empty [first]⟩ 0 first = ⟨first, 0, empty [first]⟩ := by
  unfold scanValue
  simp [empty]

theorem found_maxDrawdown {values : List ℚ} (filled : values ≠ []) (positive : ∀ v ∈ values, 0 < v) :
    Worst values (maxDrawdown values).peakIndex (maxDrawdown values).troughIndex (maxDrawdown values).peakValue
      (maxDrawdown values).troughValue ∧
    (maxDrawdown values).maxDrawdown = loss (maxDrawdown values).peakValue (maxDrawdown values).troughValue := by
  obtain ⟨first, rest, rfl⟩ := List.exists_cons_of_ne_nil filled
  have start : Found [first] ⟨first, 0, empty [first]⟩ := by
    refine ⟨peak_singleton first, worst_singleton first, ?_⟩
    show 0 = (first - first) / first
    rw [sub_self, zero_div]
  have found := found_scanFrom rest start positive
  have isResult : maxDrawdown (first :: rest) = (scanFrom ⟨first, 0, empty [first]⟩ 1 rest).result := by
    show (scanFrom (scanValue ⟨first, 0, empty [first]⟩ 0 first) 1 rest).result = _
    rw [scanValue_first]
  rw [isResult]
  exact ⟨found.worst, found.lost⟩

/-- The maximum drawdown is the largest loss from a value to one at or after it, and the result has the places and the
values of such a fall. -/
theorem maxDrawdown_isGreatest (values : List ℚ) (filled : values ≠ []) (positive : ∀ v ∈ values, 0 < v) :
    IsGreatest {d : ℚ | ∃ (i j : Nat) (a b : ℚ), i ≤ j ∧ values[i]? = some a ∧ values[j]? = some b ∧ d = (a - b) / a}
        (maxDrawdown values).maxDrawdown ∧ (maxDrawdown values).peakIndex ≤ (maxDrawdown values).troughIndex ∧
      values[(maxDrawdown values).peakIndex]? = some (maxDrawdown values).peakValue ∧
      values[(maxDrawdown values).troughIndex]? = some (maxDrawdown values).troughValue ∧
      (maxDrawdown values).maxDrawdown =
        ((maxDrawdown values).peakValue - (maxDrawdown values).troughValue) / (maxDrawdown values).peakValue := by
  obtain ⟨worst, lost⟩ := found_maxDrawdown filled positive
  have sameSet : {d : ℚ | ∃ (i j : Nat) (a b : ℚ), i ≤ j ∧ values[i]? = some a ∧ values[j]? = some b ∧ d = (a - b) / a} =
      losses values := by
    ext d
    constructor
    · rintro ⟨i, j, a, b, ordered, starts, ends, isLoss⟩
      exact ⟨i, j, a, b, ⟨ordered, starts, ends⟩, isLoss⟩
    · rintro ⟨i, j, a, b, fall, isLoss⟩
      exact ⟨i, j, a, b, fall.ordered, fall.starts, fall.ends, isLoss⟩
  rw [sameSet]
  exact ⟨lost ▸ worst.isGreatest, worst.fall.ordered, worst.fall.starts, worst.fall.ends, lost⟩

theorem maxDrawdown_sample : maxDrawdown [100, 120, 90, 130, 65] = ⟨1 / 2, 3, 4, 130, 65⟩ ∧
    IsGreatest {d : ℚ | ∃ (i j : Nat) (a b : ℚ), i ≤ j ∧ ([100, 120, 90, 130, 65] : List ℚ)[i]? = some a ∧
      ([100, 120, 90, 130, 65] : List ℚ)[j]? = some b ∧
      d = (a - b) / a} (maxDrawdown [100, 120, 90, 130, 65]).maxDrawdown :=
  ⟨by decide +kernel, (maxDrawdown_isGreatest [100, 120, 90, 130, 65] (by decide) (by norm_num)).1⟩

end AlianStructure.Guarantees.MaxDrawdown

/-!
# Two maximum drawdowns of one portfolio

Source: src/investment/portfolio/services/performance-analytics.service.ts:123-142,341-364. One loop takes the largest
text as the peak, the other the largest number. They agree where the falls from the one kind of peak reach just as far
as those from the other.
-/
namespace AlianStructure.Guarantees.DrawdownAgreement
open Library.Falls Library.ExactNumber Number
open Source.Investment PerformanceAnalyticsService PerformanceCalculations

/-- A place of a series: the value up to it with the largest text, the largest value up to it, and the value. -/
structure Place where
  textPeak : ℚ
  numberPeak : ℚ
  value : ℚ

/-- What is lost from the largest text; there is no number for it where that is zero. -/
def Place.textFall (place : Place) : Number ℚ := (finite place.textPeak - finite place.value) / finite place.textPeak

/-- What is lost from the largest value, if that is positive. -/
def Place.numberFall (place : Place) : ℚ := if 0 < place.numberPeak then loss place.numberPeak place.value else 0

def placesFrom : DecimalText → ℚ → List PerformanceMetric → List Place
  | _, _, [] => []
  | text, peak, metric :: rest =>
    let value := metric.portfolioValue.number
    let text := if greaterText metric.portfolioValue.chars text.chars then metric.portfolioValue else text
    let peak := if peak < value then value else peak
    ⟨text.number, peak, value⟩ :: placesFrom text peak rest

def places : List PerformanceMetric → List Place
  | [] => []
  | first :: rest => placesFrom first.portfolioValue first.portfolioValue.number (first :: rest)

/-- No fall from a largest text is larger than all falls from largest values, and each of these is reached by one. -/
structure Agrees (metrics : List PerformanceMetric) : Prop where
  within : ∀ place ∈ places metrics, ∃ other ∈ places metrics, ¬ finite other.numberFall < place.textFall
  reached : ∀ place ∈ places metrics, place.numberFall = 0 ∨
    ∃ other ∈ places metrics, finite place.numberFall ≤ other.textFall

/-! ## The loops as maxima -/

def keep (best next : Number ℚ) : Number ℚ := if best < next then next else best

theorem scanMetrics_eq (metrics : List PerformanceMetric) : ∀ (text : DecimalText) (peak : ℚ) (best : Number ℚ),
    scanMetrics text best metrics = ((placesFrom text peak metrics).map Place.textFall).foldl keep best := by
  induction metrics with
  | nil => exact fun _ _ _ => rfl
  | cons metric rest ih => exact fun text peak best => ih _ _ _

theorem finite_lt_finite {a b : ℚ} : (finite a : Number ℚ) < finite b ↔ a < b := by
  rw [lt_iff_height (by simp) (by simp)]
  simp [height]

theorem scanValue_eq (scan : Scan) (i : Nat) (value textPeak : ℚ) :
    finite (scanValue scan i value).result.maxDrawdown = keep (finite scan.result.maxDrawdown)
      (finite (Place.numberFall ⟨textPeak, (scanValue scan i value).peakValue, value⟩)) := by
  unfold keep scanValue Place.numberFall loss
  simp only [finite_lt_finite]
  generalize (if scan.peakValue < value then i else scan.peakIndex) = peakIndex
  generalize (if scan.peakValue < value then value else scan.peakValue) = peakValue
  generalize (if 0 < peakValue then (peakValue - value) / peakValue else 0) = drawdown
  split <;> rfl

theorem scanFrom_eq (metrics : List PerformanceMetric) : ∀ (text : DecimalText) (scan : Scan) (i : Nat),
    finite (scanFrom scan i (metrics.map fun metric => metric.portfolioValue.number)).result.maxDrawdown =
      ((placesFrom text scan.peakValue metrics).map fun place => finite place.numberFall).foldl keep
        (finite scan.result.maxDrawdown) := by
  induction metrics with
  | nil => exact fun _ _ _ => rfl
  | cons metric rest ih =>
    intro text scan i
    have stepped := ih (if greaterText metric.portfolioValue.chars text.chars then metric.portfolioValue else text)
      (scanValue scan i metric.portfolioValue.number) (i + 1)
    rw [scanValue_eq scan i metric.portfolioValue.number
      (if greaterText metric.portfolioValue.chars text.chars then metric.portfolioValue else text).number] at stepped
    exact stepped

theorem height_keep {best next : Number ℚ} (number : best ≠ nan) : keep best next ≠ nan ∧
    height best ≤ height (keep best next) ∧ (next ≠ nan → height next ≤ height (keep best next)) := by
  unfold keep
  split
  next larger =>
    have isNext := (numbers_of_lt larger).2
    exact ⟨isNext, ((lt_iff_height number isNext).mp larger).le, fun _ => le_rfl⟩
  next notLarger =>
    exact ⟨number, le_rfl, fun isNext => not_lt.mp fun less => notLarger ((lt_iff_height number isNext).mpr less)⟩

theorem keep_largest (falls : List (Number ℚ)) : ∀ best : Number ℚ, best ≠ nan →
    falls.foldl keep best ≠ nan ∧ (falls.foldl keep best = best ∨ falls.foldl keep best ∈ falls) ∧
      height best ≤ height (falls.foldl keep best) ∧
        ∀ fall ∈ falls, fall ≠ nan → height fall ≤ height (falls.foldl keep best) := by
  induction falls with
  | nil => exact fun best number => ⟨number, Or.inl rfl, le_rfl, nofun⟩
  | cons next rest ih =>
    intro best number
    obtain ⟨isNumber, aboveBest, aboveNext⟩ : _ ∧ _ ∧ (next ≠ nan → _) := height_keep number
    obtain ⟨result, met, above, aboveAll⟩ := ih (keep best next) isNumber
    refine ⟨result, ?_, aboveBest.trans above, List.forall_mem_cons.mpr ⟨fun isNext => ?_, aboveAll⟩⟩
    · rw [List.foldl_cons]
      rcases met with isKept | later
      · rw [isKept, keep]
        split
        · exact Or.inr List.mem_cons_self
        · exact Or.inl rfl
      · exact Or.inr (List.mem_cons_of_mem next later)
    · exact (aboveNext isNext).trans above

/-! ## Agreement -/

variable {metrics : List PerformanceMetric}

theorem peaks_placesFrom (metrics : List PerformanceMetric) : ∀ (text : DecimalText) (peak : ℚ), text.number ≤ peak →
    ∀ place ∈ placesFrom text peak metrics, place.textPeak ≤ place.numberPeak ∧ place.value ≤ place.numberPeak := by
  induction metrics with
  | nil => exact fun _ _ _ => nofun
  | cons metric rest ih =>
    intro text peak below
    have inside : (if greaterText metric.portfolioValue.chars text.chars then metric.portfolioValue else text).number ≤
        (if peak < metric.portfolioValue.number then metric.portfolioValue.number else peak) ∧
        metric.portfolioValue.number ≤
          (if peak < metric.portfolioValue.number then metric.portfolioValue.number else peak) := by
      rw [← max_def_lt]
      refine ⟨?_, le_max_right _ _⟩
      split
      · exact le_max_right _ _
      · exact below.trans (le_max_left _ _)
    exact List.forall_mem_cons.mpr ⟨inside, ih _ _ inside.1⟩

theorem peaks_places {place : Place} (listed : place ∈ places metrics) :
    place.textPeak ≤ place.numberPeak ∧ place.value ≤ place.numberPeak := by
  cases metrics with
  | nil => cases listed
  | cons first rest => exact peaks_placesFrom _ _ _ le_rfl place listed

theorem numberFall_nonneg {place : Place} (listed : place ∈ places metrics) : 0 ≤ place.numberFall := by
  unfold Place.numberFall
  split
  next positive => exact div_nonneg (sub_nonneg.mpr (peaks_places listed).2) positive.le
  next => exact le_rfl

theorem reported_largest (metrics : List PerformanceMetric) :
    (∀ place ∈ places metrics, place.numberFall ≤ (reportedMaxDrawdown metrics).maxDrawdown) ∧
      ((reportedMaxDrawdown metrics).maxDrawdown = 0 ∨
        ∃ place ∈ places metrics, place.numberFall = (reportedMaxDrawdown metrics).maxDrawdown) := by
  have isLargest : finite (reportedMaxDrawdown metrics).maxDrawdown =
      ((places metrics).map fun place => finite place.numberFall).foldl keep (finite 0) := by
    cases metrics with
    | nil => rfl
    | cons first rest => exact scanFrom_eq (first :: rest) first.portfolioValue _ 0
  obtain ⟨-, met, -, above⟩ := keep_largest ((places metrics).map fun place => finite place.numberFall) (finite 0) (by simp)
  rw [← isLargest] at met above
  constructor
  · intro place listed
    have le := above _ (List.mem_map_of_mem listed) (by simp)
    simpa [height] using le
  · rcases met with zero | later
    · exact Or.inl (by simpa using zero)
    · obtain ⟨place, listed, same⟩ := List.mem_map.mp later
      exact Or.inr ⟨place, listed, by simpa using same⟩

theorem calculated_iff (metrics : List PerformanceMetric) {largest : ℚ} (notBelow : 0 ≤ largest) :
    calculateMaxDrawdown metrics = finite largest ↔ (∀ place ∈ places metrics, ¬ finite largest < place.textFall) ∧
      (largest = 0 ∨ ∃ place ∈ places metrics, place.textFall = finite largest) := by
  have isLargest : calculateMaxDrawdown metrics = ((places metrics).map Place.textFall).foldl keep (finite 0) := by
    cases metrics with
    | nil => rfl
    | cons first rest => exact scanMetrics_eq (first :: rest) _ _ _
  obtain ⟨number, met, aboveZero, above⟩ := keep_largest ((places metrics).map Place.textFall) (finite 0) (by simp)
  rw [← isLargest] at number met aboveZero above
  constructor
  · intro same
    rw [same] at met above
    constructor
    · intro place listed larger
      have isNumber := (numbers_of_lt larger).2
      have le := above _ (List.mem_map_of_mem listed) isNumber
      exact absurd ((lt_iff_height (by simp) isNumber).mp larger) (not_lt.mpr le)
    · rcases met with zero | later
      · exact Or.inl (by simpa using zero)
      · obtain ⟨place, listed, isFall⟩ := List.mem_map.mp later
        exact Or.inr ⟨place, listed, isFall⟩
  · rintro ⟨within, reached⟩
    have atMost : height (calculateMaxDrawdown metrics) ≤ height (finite largest) := by
      rcases met with zero | later
      · rw [zero]
        simpa [height] using notBelow
      · obtain ⟨place, listed, isFall⟩ := List.mem_map.mp later
        refine not_lt.mp fun larger => within place listed ?_
        rw [isFall]
        exact (lt_iff_height (by simp) number).mpr larger
    have atLeast : height (finite largest) ≤ height (calculateMaxDrawdown metrics) := by
      rcases reached with rfl | ⟨place, listed, isFall⟩
      · exact aboveZero
      · have le := above _ (List.mem_map_of_mem listed) (by simp [isFall])
        rwa [isFall] at le
    exact height_injective number (by simp) (le_antisymm atMost atLeast)

theorem not_lt_of_le {low high : ℚ} {fall : Number ℚ} (le : low ≤ high) (notLarger : ¬ finite low < fall) :
    ¬ finite high < fall := by
  intro larger
  have number := (numbers_of_lt larger).2
  refine notLarger ((lt_iff_height (by simp) number).mpr (lt_of_le_of_lt ?_ ((lt_iff_height (by simp) number).mp larger)))
  simpa [height] using le

theorem eq_of_le_of_not_lt {largest : ℚ} {fall : Number ℚ} (le : finite largest ≤ fall) (notLarger : ¬ finite largest < fall) :
    fall = finite largest := by
  have number : fall ≠ nan := fun isNan => not_le_nan _ (isNan ▸ le)
  have most : height fall ≤ height (finite largest) :=
    not_lt.mp fun larger => notLarger ((lt_iff_height (by simp) number).mpr larger)
  exact height_injective number (by simp) (le_antisymm most ((le_iff_height (by simp) number).mp le))

theorem agree_iff (metrics : List PerformanceMetric) :
    calculateMaxDrawdown metrics = finite (reportedMaxDrawdown metrics).maxDrawdown ↔ Agrees metrics := by
  obtain ⟨above, met⟩ := reported_largest metrics
  generalize (reportedMaxDrawdown metrics).maxDrawdown = largest at above met ⊢
  have notBelow : 0 ≤ largest := by
    rcases met with zero | ⟨place, listed, same⟩
    · exact zero.ge
    · exact same ▸ numberFall_nonneg listed
  rw [calculated_iff metrics notBelow]
  constructor
  · rintro ⟨within, reached⟩
    refine ⟨fun place listed => ?_, fun place listed => ?_⟩
    · rcases met with rfl | ⟨other, isOther, same⟩
      · have isZero := le_antisymm (above place listed) (numberFall_nonneg listed)
        exact ⟨place, listed, isZero.symm ▸ within place listed⟩
      · exact ⟨other, isOther, same.symm ▸ within place listed⟩
    · rcases reached with rfl | ⟨other, isOther, same⟩
      · exact Or.inl (le_antisymm (above place listed) (numberFall_nonneg listed))
      · exact Or.inr ⟨other, isOther, same.symm ▸ finite_le_finite.mpr (above place listed)⟩
  · rintro ⟨within, reached⟩
    have below : ∀ place ∈ places metrics, ¬ finite largest < place.textFall := fun place listed => by
      obtain ⟨other, isOther, notLarger⟩ := within place listed
      exact not_lt_of_le (above other isOther) notLarger
    refine ⟨below, ?_⟩
    rcases met with zero | ⟨place, listed, rfl⟩
    · exact Or.inl zero
    · rcases reached place listed with zero | ⟨other, isOther, le⟩
      · exact Or.inl zero
      · exact Or.inr ⟨other, isOther, eq_of_le_of_not_lt le (below other isOther)⟩

/-! ## Positive series -/

theorem positive_placesFrom (metrics : List PerformanceMetric) : ∀ (text : DecimalText) (peak : ℚ), 0 < text.number →
    (∀ metric ∈ metrics, 0 < metric.portfolioValue.number) →
      ∀ place ∈ placesFrom text peak metrics, 0 < place.textPeak ∧ 0 < place.value := by
  induction metrics with
  | nil => exact fun _ _ _ _ => nofun
  | cons metric rest ih =>
    intro text peak textPositive positive
    obtain ⟨first, later⟩ := List.forall_mem_cons.mp positive
    have next : 0 < (if greaterText metric.portfolioValue.chars text.chars then metric.portfolioValue else text).number := by
      split
      · exact first
      · exact textPositive
    exact List.forall_mem_cons.mpr ⟨⟨next, first⟩, ih _ _ next later⟩

/-- With positive values a fall from the largest text is a number, and at most that from the largest value. -/
theorem textFall_positive (positive : ∀ metric ∈ metrics, 0 < metric.portfolioValue.number) {place : Place}
    (listed : place ∈ places metrics) : place.textFall = finite (loss place.textPeak place.value) ∧
      place.numberFall = loss place.numberPeak place.value ∧ loss place.textPeak place.value ≤ place.numberFall ∧
      (loss place.textPeak place.value = place.numberFall → place.textPeak = place.numberPeak) := by
  have bounds : 0 < place.textPeak ∧ 0 < place.value := by
    cases metrics with
    | nil => cases listed
    | cons first rest =>
      exact positive_placesFrom _ _ _ (positive first List.mem_cons_self) positive place listed
  obtain ⟨textPositive, valuePositive⟩ := bounds
  have le := (peaks_places listed).1
  have isFall : place.numberFall = loss place.numberPeak place.value := if_pos (textPositive.trans_le le)
  refine ⟨?_, isFall, isFall ▸ loss_mono textPositive le valuePositive.le, fun same => ?_⟩
  · unfold Place.textFall
    rw [show (finite place.textPeak - finite place.value : Number ℚ) = finite (place.textPeak + -place.value) from rfl,
      finite_div_finite textPositive.ne', ← sub_eq_add_neg]
    rfl
  · exact loss_injective textPositive (textPositive.trans_le le) valuePositive (same.trans isFall)

/-- A series of positive values agrees when nothing is lost, or when the value with the largest text is the largest up
to a place where most is lost. -/
def Meets (metrics : List PerformanceMetric) : Prop :=
  (∀ place ∈ places metrics, place.numberFall = 0) ∨ ∃ place ∈ places metrics,
    (∀ other ∈ places metrics, other.numberFall ≤ place.numberFall) ∧ place.textPeak = place.numberPeak

theorem positive_iff (positive : ∀ metric ∈ metrics, 0 < metric.portfolioValue.number) :
    Agrees metrics ↔ Meets metrics := by
  constructor
  · intro agrees
    obtain ⟨above, nothing | ⟨worst, listed, isMost⟩⟩ := reported_largest metrics
    · exact Or.inl fun place member => le_antisymm (nothing ▸ above place member) (numberFall_nonneg member)
    have largest : ∀ other ∈ places metrics, other.numberFall ≤ worst.numberFall := isMost.symm ▸ above
    rcases agrees.reached worst listed with zero | ⟨other, isOther, le⟩
    · exact Or.inl fun place member => le_antisymm (zero ▸ largest place member) (numberFall_nonneg member)
    · obtain ⟨isFall, -, below, same⟩ := textFall_positive positive isOther
      rw [isFall, finite_le_finite] at le
      have equal : loss other.textPeak other.value = other.numberFall :=
        le_antisymm below ((largest other isOther).trans le)
      exact Or.inr ⟨other, isOther, fun place member => (largest place member).trans (le.trans equal.le), same equal⟩
  · intro meets
    refine ⟨fun place listed => ⟨place, listed, ?_⟩, fun place listed => ?_⟩
    · obtain ⟨isFall, -, below, -⟩ := textFall_positive positive listed
      rw [isFall, finite_lt_finite]
      exact not_lt.mpr below
    · rcases meets with nothing | ⟨worst, isWorst, largest, same⟩
      · exact Or.inl (nothing place listed)
      · obtain ⟨isFall, isNumberFall, -, -⟩ := textFall_positive positive isWorst
        refine Or.inr ⟨worst, isWorst, ?_⟩
        rw [isFall, finite_le_finite, same, ← isNumberFall]
        exact largest place listed

/-- The two drawdowns are equal just where the falls from the largest texts reach as far as those from the largest
values; for positive values, just where nothing is lost or the two peaks are the same where most is lost. -/
theorem drawdowns_agree_iff (metrics : List PerformanceMetric) :
    (calculateMaxDrawdown metrics = finite (reportedMaxDrawdown metrics).maxDrawdown ↔ Agrees metrics) ∧
      ((∀ metric ∈ metrics, 0 < metric.portfolioValue.number) → (Agrees metrics ↔ Meets metrics)) :=
  ⟨agree_iff metrics, positive_iff⟩

/-- The text of 9 is greater than that of 10. -/
theorem drawdown_missed : calculateMaxDrawdown [⟨⟨900⟩⟩, ⟨⟨1000⟩⟩, ⟨⟨950⟩⟩] = finite 0 ∧
    (reportedMaxDrawdown [⟨⟨900⟩⟩, ⟨⟨1000⟩⟩, ⟨⟨950⟩⟩]).maxDrawdown = 1 / 20 := by
  decide +kernel

end AlianStructure.Guarantees.DrawdownAgreement
