import AlianStructure.Source.Reconciliation.ReconciliationService

/-!
# The arithmetic of amounts

Source: src/reconciliation/reconciliation.service.ts:302-308,348-374. An amount is a decimal between white space; its
units are its value in ten millionths, rounded down.
-/
namespace AlianStructure.Guarantees.AmountArithmetic
open Library.DecimalText Source Source.Reconciliation

/-- A text is a decimal between white space. -/
def Reads (value : String) (d : Decimal) : Prop := Common.trim value.toList = d.text

/-- A text is, as it stands, the decimal of a number with seven decimals. -/
def Normalised (value : String) (number : ℚ) : Prop :=
  ∃ d, Reads value d ∧ value.toList = d.text ∧ d.fraction.length = 7 ∧ d.value = number

theorem fromUnits_normalised (units : Nat) : Normalised (fromUnits units) (units / 10 ^ 7) := by
  have text := fromUnits_text units
  refine ⟨Decimal.ofUnits SCALE units, ?_, text, Decimal.ofUnits_fraction_length SCALE units (by decide),
    Decimal.ofUnits_value SCALE units (by decide)⟩
  rw [Reads, text, trim_text]

variable {value : String}

theorem toUnits_reads {d : Decimal} (reads : Reads value d) : toUnits value = .ok ⌊d.value * 10 ^ 7⌋₊ := by
  rw [toUnits_of_text reads, Decimal.cut_eq_floor]
  rfl

theorem toUnits_unread (unread : ¬ ∃ d, Reads value d) :
    toUnits value = .error (.error ("Invalid Stellar amount: " ++ value)) :=
  toUnits_of_other fun d reads => unread ⟨d, reads⟩

theorem normalizeAmount_of_units {units : Nat} (read : toUnits value = .ok units) :
    normalizeAmount value = .ok (Amount.ofUnits units) := by
  unfold normalizeAmount
  rw [read]
  rfl

theorem normalizeAmount_reads {d : Decimal} (reads : Reads value d) :
    ∃ amount number, normalizeAmount value = .ok amount ∧ normalizeAmount amount.text = .ok amount ∧
      Normalised amount.text number ∧ number ≤ d.value := by
  have scaled : 0 ≤ d.value * 10 ^ 7 := mul_nonneg d.value_nonneg (by positivity)
  have read := toUnits_reads reads
  have below := Nat.floor_le scaled
  generalize ⌊d.value * 10 ^ 7⌋₊ = units at read below
  refine ⟨Amount.ofUnits units, units / 10 ^ 7, normalizeAmount_of_units read,
    normalizeAmount_of_units (toUnits_fromUnits units), fromUnits_normalised units, ?_⟩
  rw [div_le_iff₀ (by positivity)]
  exact below

theorem sum_normalised {left right : String} {a b : Decimal} (first : Reads left a) (second : Reads right b) :
    ∃ x y l r p q, toUnits left = .ok x ∧ toUnits right = .ok y ∧
      normalizeAmount left = .ok l ∧ normalizeAmount right = .ok r ∧
      Normalised l.text p ∧ Normalised r.text q ∧ Normalised (fromUnits (x + y)) (p + q) := by
  obtain ⟨x, readLeft⟩ : ∃ x, toUnits left = .ok x := ⟨_, toUnits_reads first⟩
  obtain ⟨y, readRight⟩ : ∃ y, toUnits right = .ok y := ⟨_, toUnits_reads second⟩
  have sum : ((x : ℚ) / 10 ^ 7 + y / 10 ^ 7) = (x + y : ℕ) / 10 ^ 7 := by
    rw [← add_div, ← Nat.cast_add]
  exact ⟨x, y, Amount.ofUnits x, Amount.ofUnits y, x / 10 ^ 7, y / 10 ^ 7, readLeft, readRight,
    normalizeAmount_of_units readLeft, normalizeAmount_of_units readRight, fromUnits_normalised x,
    fromUnits_normalised y, sum ▸ fromUnits_normalised (x + y)⟩

/-- What holds of the units of amounts. -/
structure ExactArithmetic : Prop where
  /-- The units of a decimal are its value in ten millionths, rounded down. -/
  reads : ∀ value d, Reads value d → toUnits value = .ok ⌊d.value * 10 ^ 7⌋₊
  /-- Other texts are rejected. -/
  rejects : ∀ value, (¬ ∃ d, Reads value d) → toUnits value = .error (.error ("Invalid Stellar amount: " ++ value))
  /-- The text of a number of units is a decimal with seven decimals, and read back. -/
  roundTrip : ∀ units, toUnits (fromUnits units) = .ok units ∧ Normalised (fromUnits units) (units / 10 ^ 7)
  /-- The normal form of a decimal is one already, and worth no more than it. -/
  normalises : ∀ value d, Reads value d → ∃ amount number, normalizeAmount value = .ok amount ∧
    normalizeAmount amount.text = .ok amount ∧ Normalised amount.text number ∧ number ≤ d.value
  /-- The sum in units is the sum of the normal forms. -/
  adds : ∀ left right a b, Reads left a → Reads right b → ∃ x y l r p q,
    toUnits left = .ok x ∧ toUnits right = .ok y ∧ normalizeAmount left = .ok l ∧ normalizeAmount right = .ok r ∧
      Normalised l.text p ∧ Normalised r.text q ∧ Normalised (fromUnits (x + y)) (p + q)

theorem amounts_exact : ExactArithmetic where
  reads _ _ := toUnits_reads
  rejects _ := toUnits_unread
  roundTrip units := ⟨toUnits_fromUnits units, fromUnits_normalised units⟩
  normalises _ _ := normalizeAmount_reads
  adds _ _ _ _ := sum_normalised

end AlianStructure.Guarantees.AmountArithmetic
