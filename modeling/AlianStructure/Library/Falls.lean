import Mathlib.Algebra.Order.Field.Basic

/-!
# The falls of a series

A fall goes from a value to a later one, or to the same, and loses a part of the first. The largest loss down to a place
is that from the largest value up to it, so that one pass finds the largest loss of all.
-/
namespace AlianStructure.Library.Falls

variable {K : Type}

theorem getElem?_concat {values : List K} {last v : K} {i : Nat} :
    (values ++ [last])[i]? = some v ↔ values[i]? = some v ∨ i = values.length ∧ v = last := by
  rcases Nat.lt_trichotomy i values.length with inside | rfl | outside
  · rw [List.getElem?_append_left inside]
    exact ⟨Or.inl, fun either => either.resolve_right fun both => absurd both.1 inside.ne⟩
  · rw [List.getElem?_append_right (Nat.le_refl _), Nat.sub_self, List.getElem?_eq_none (Nat.le_refl _)]
    exact ⟨fun here => Or.inr ⟨rfl, (Option.some.inj here).symm⟩,
      fun either => either.elim nofun fun both => congrArg some both.2.symm⟩
  · have beyond : (values ++ [last]).length ≤ i := by
      rw [List.length_append, List.length_singleton]
      exact outside
    rw [List.getElem?_eq_none beyond, List.getElem?_eq_none outside.le]
    exact ⟨nofun, fun either => either.elim nofun fun both => absurd both.1 outside.ne'⟩

/-- The places and values of a fall. -/
structure Fall (values : List K) (i j : Nat) (peak trough : K) : Prop where
  ordered : i ≤ j
  starts : values[i]? = some peak
  ends : values[j]? = some trough

theorem fall_concat {values : List K} {last peak trough : K} {i j : Nat} :
    Fall (values ++ [last]) i j peak trough ↔ Fall values i j peak trough ∨
      (j = values.length ∧ trough = last ∧ i ≤ values.length ∧ (values ++ [last])[i]? = some peak) := by
  constructor
  · rintro ⟨ordered, starts, ends⟩
    rcases getElem?_concat.mp ends with inside | ⟨rfl, rfl⟩
    · have below := (List.getElem?_eq_some_iff.mp inside).1
      rcases getElem?_concat.mp starts with early | ⟨rfl, -⟩
      · exact Or.inl ⟨ordered, early, inside⟩
      · exact absurd below (Nat.not_lt.mpr ordered)
    · exact Or.inr ⟨rfl, rfl, ordered, starts⟩
  · rintro (⟨ordered, starts, ends⟩ | ⟨rfl, rfl, ordered, starts⟩)
    · exact ⟨ordered, getElem?_concat.mpr (Or.inl starts), getElem?_concat.mpr (Or.inl ends)⟩
    · exact ⟨ordered, starts, getElem?_concat.mpr (Or.inr ⟨rfl, rfl⟩)⟩

variable [LinearOrder K]

/-- The largest value of a series and where it is. -/
structure Peak (values : List K) (i : Nat) (peak : K) : Prop where
  place : values[i]? = some peak
  largest : ∀ value ∈ values, value ≤ peak

/-- The largest value with one more. -/
theorem Peak.concat {values : List K} {i : Nat} {peak : K} (isPeak : Peak values i peak) (last : K) :
    Peak (values ++ [last]) (if peak < last then values.length else i) (if peak < last then last else peak) := by
  split
  next higher =>
    refine ⟨getElem?_concat.mpr (Or.inr ⟨rfl, rfl⟩), fun value member => ?_⟩
    rcases List.mem_append.mp member with early | isLast
    · exact (isPeak.largest value early).trans higher.le
    · exact (List.mem_singleton.mp isLast).le
  next lower =>
    refine ⟨getElem?_concat.mpr (Or.inl isPeak.place), fun value member => ?_⟩
    rcases List.mem_append.mp member with early | isLast
    · exact isPeak.largest value early
    · exact (List.mem_singleton.mp isLast).le.trans (not_lt.mp lower)

theorem peak_singleton (value : K) : Peak [value] 0 value :=
  ⟨rfl, fun _ member => (List.mem_singleton.mp member).le⟩

variable [Field K]

/-- How much is lost from a value to another, as a part of the first. -/
def loss (peak trough : K) : K := (peak - trough) / peak

/-- The losses of the falls of a series. -/
def losses (values : List K) : Set K := {d | ∃ i j peak trough, Fall values i j peak trough ∧ d = loss peak trough}

/-- A fall that loses most. -/
structure Worst (values : List K) (i j : Nat) (peak trough : K) : Prop where
  fall : Fall values i j peak trough
  largest : ∀ d ∈ losses values, d ≤ loss peak trough

section Positive
variable {values : List K} {last : K}

theorem worst_singleton (value : K) : Worst [value] 0 0 value value := by
  refine ⟨⟨Nat.le_refl 0, rfl, rfl⟩, ?_⟩
  rintro d ⟨i, j, peak, trough, fall, rfl⟩
  have isPeak := List.mem_singleton.mp (List.mem_of_getElem? fall.starts)
  have isTrough := List.mem_singleton.mp (List.mem_of_getElem? fall.ends)
  rw [isPeak, isTrough]

theorem Worst.isGreatest {i j : Nat} {peak trough : K} (worst : Worst values i j peak trough) :
    IsGreatest (losses values) (loss peak trough) :=
  ⟨⟨i, j, peak, trough, worst.fall, rfl⟩, worst.largest⟩

variable [IsStrictOrderedRing K]

theorem loss_mono {low high trough : K} (positive : 0 < low) (le : low ≤ high) (notBelow : 0 ≤ trough) :
    loss low trough ≤ loss high trough := by
  unfold loss
  rw [sub_div, sub_div, div_self positive.ne', div_self (positive.trans_le le).ne']
  exact sub_le_sub_left (div_le_div_of_nonneg_left notBelow positive le) 1

omit [IsStrictOrderedRing K] in
/-- A loss down to a value tells where it is from. -/
theorem loss_injective {first second trough : K} (isFirst : 0 < first) (isSecond : 0 < second) (positive : 0 < trough)
    (same : loss first trough = loss second trough) : first = second := by
  unfold loss at same
  rw [sub_div, sub_div, div_self isFirst.ne', div_self isSecond.ne', sub_right_inj,
    div_eq_div_iff isFirst.ne' isSecond.ne'] at same
  exact (mul_left_cancel₀ positive.ne' same).symm

/-- The largest loss down to the last value is from the peak. -/
theorem loss_le_peak {i : Nat} {peak : K} (isPeak : Peak (values ++ [last]) i peak)
    (positive : ∀ value ∈ values ++ [last], 0 < value) {d : K} (member : d ∈ losses (values ++ [last])) :
    d ∈ losses values ∨ d ≤ loss peak last := by
  obtain ⟨i', j, start, trough, fall, rfl⟩ := member
  rcases fall_concat.mp fall with early | ⟨-, rfl, -, starts⟩
  · exact Or.inl ⟨i', j, start, trough, early, rfl⟩
  · have listed := List.mem_of_getElem? starts
    have lastPositive := positive trough (List.mem_append_right values (List.mem_singleton_self trough))
    exact Or.inr (loss_mono (positive start listed) (isPeak.largest start listed) lastPositive.le)

/-- The worst fall with one more value: it is as before, or from the peak to that value. -/
theorem Worst.concat {i j k : Nat} {start trough peak : K} (worst : Worst values i j start trough)
    (isPeak : Peak (values ++ [last]) k peak) (positive : ∀ value ∈ values ++ [last], 0 < value) :
    (loss start trough < loss peak last → Worst (values ++ [last]) k values.length peak last) ∧
      (¬ loss start trough < loss peak last → Worst (values ++ [last]) i j start trough) := by
  constructor
  · intro more
    have inside : k ≤ values.length := by
      have bound := (List.getElem?_eq_some_iff.mp isPeak.place).1
      rw [List.length_append, List.length_singleton] at bound
      exact Nat.le_of_lt_succ bound
    refine ⟨fall_concat.mpr (Or.inr ⟨rfl, rfl, inside, isPeak.place⟩), fun d member => ?_⟩
    rcases loss_le_peak isPeak positive member with early | le
    · exact (worst.largest d early).trans more.le
    · exact le
  · intro same
    refine ⟨fall_concat.mpr (Or.inl worst.fall), fun d member => ?_⟩
    rcases loss_le_peak isPeak positive member with early | le
    · exact worst.largest d early
    · exact le.trans (not_lt.mp same)

end Positive

end AlianStructure.Library.Falls
