import Mathlib.Algebra.Order.Floor.Semifield
import Mathlib.Data.Nat.Cast.Order.Field
import Mathlib.Data.Rat.Floor

/-!
# Unsigned decimals as texts

A decimal is written with digits and, where it has a fraction, a point and more digits. Its value cut off after some
decimals is read from the digits, filled up with zeros.
-/
namespace AlianStructure.Library.DecimalText

/-- The digits of a decimal. -/
structure Decimal where
  whole : List Char
  fraction : List Char
  filled : whole ≠ []
  wholeDigits : ∀ c ∈ whole, c.isDigit = true
  fractionDigits : ∀ c ∈ fraction, c.isDigit = true

namespace Decimal

def text (d : Decimal) : List Char := d.whole ++ if d.fraction = [] then [] else '.' :: d.fraction

def value (d : Decimal) : ℚ :=
  Nat.ofDigitChars 10 d.whole 0 + (Nat.ofDigitChars 10 d.fraction 0 : ℚ) / 10 ^ d.fraction.length

/-- The first decimals of a fraction. -/
def decimals (scale : Nat) (d : Decimal) : List Char := (d.fraction ++ List.replicate scale '0').take scale

/-- The number that the digits up to some decimal make. -/
def cut (scale : Nat) (d : Decimal) : Nat :=
  Nat.ofDigitChars 10 d.whole 0 * 10 ^ scale + Nat.ofDigitChars 10 (d.decimals scale) 0

/-- A number of units, with a fraction of fixed length. -/
def ofUnits (scale units : Nat) : Decimal where
  whole := Nat.toDigits 10 (units / 10 ^ scale)
  fraction := (Nat.toDigits 10 (units % 10 ^ scale)).leftpad scale '0'
  filled := Nat.toDigits_ne_nil
  wholeDigits _ member := Nat.isDigit_of_mem_toDigits (by decide) (by decide) member
  fractionDigits c member := by
    rcases List.mem_append.mp member with zero | digit
    · rw [List.eq_of_mem_replicate zero]
      rfl
    · exact Nat.isDigit_of_mem_toDigits (by decide) (by decide) digit

theorem isDigit_ne_point {c : Char} (digit : c.isDigit = true) : (c != '.') = true := by
  rw [bne_iff_ne]
  rintro rfl
  exact absurd digit (by decide)

/-- The digits before the point. -/
theorem text_takeWhile (d : Decimal) : d.text.takeWhile (fun c => c != '.') = d.whole := by
  unfold text
  rw [List.takeWhile_append_of_pos fun c member => isDigit_ne_point (d.wholeDigits c member)]
  split <;> simp

/-- The point and the digits behind it. -/
theorem text_dropWhile (d : Decimal) :
    d.text.dropWhile (fun c => c != '.') = if d.fraction = [] then [] else '.' :: d.fraction := by
  unfold text
  rw [List.dropWhile_append_of_pos fun c member => isDigit_ne_point (d.wholeDigits c member)]
  split <;> simp

theorem ofDigitChars_append (left right : List Char) : Nat.ofDigitChars 10 (left ++ right) 0 =
    Nat.ofDigitChars 10 left 0 * 10 ^ right.length + Nat.ofDigitChars 10 right 0 := by
  rw [Nat.ofDigitChars_append, Nat.ofDigitChars_eq_ofDigitChars_zero, Nat.mul_comm]

theorem isDigit_value {c : Char} (digit : c.isDigit = true) : c.toNat - '0'.toNat < 10 := by
  simp only [Char.isDigit, Bool.and_eq_true, decide_eq_true_eq] at digit
  have upper : c.toNat ≤ 57 := digit.2
  have zero : '0'.toNat = 48 := rfl
  omega

theorem ofDigitChars_lt {digits : List Char} (all : ∀ c ∈ digits, c.isDigit = true) :
    Nat.ofDigitChars 10 digits 0 < 10 ^ digits.length := by
  induction digits with
  | nil => simp
  | cons c rest ih =>
    have tail := ih fun other member => all other (List.mem_cons_of_mem _ member)
    have head := isDigit_value (all c List.mem_cons_self)
    rw [Nat.ofDigitChars_cons, Nat.ofDigitChars_eq_ofDigitChars_zero, Nat.mul_zero, Nat.zero_add, List.length_cons,
      Nat.pow_succ]
    calc 10 ^ rest.length * (c.toNat - '0'.toNat) + Nat.ofDigitChars 10 rest 0
        < 10 ^ rest.length * (c.toNat - '0'.toNat) + 10 ^ rest.length := Nat.add_lt_add_left tail _
      _ = 10 ^ rest.length * (c.toNat - '0'.toNat + 1) := by ring
      _ ≤ 10 ^ rest.length * 10 := Nat.mul_le_mul_left _ head

/-- Leading digits of a number are its quotient by a power of ten. -/
theorem ofDigitChars_take {digits : List Char} (all : ∀ c ∈ digits, c.isDigit = true) (n : Nat) :
    Nat.ofDigitChars 10 (digits.take n) 0 = Nat.ofDigitChars 10 digits 0 / 10 ^ (digits.drop n).length := by
  have below : Nat.ofDigitChars 10 (digits.drop n) 0 < 10 ^ (digits.drop n).length :=
    ofDigitChars_lt fun c member => all c (List.mem_of_mem_drop member)
  have parts : Nat.ofDigitChars 10 digits 0 = Nat.ofDigitChars 10 (digits.take n) 0 * 10 ^ (digits.drop n).length +
      Nat.ofDigitChars 10 (digits.drop n) 0 := by
    rw [← ofDigitChars_append, List.take_append_drop]
  rw [parts, Nat.add_comm, Nat.add_mul_div_right _ _ (Nat.pos_of_ne_zero (by positivity)),
    Nat.div_eq_of_lt below, Nat.zero_add]

theorem decimals_value (scale : Nat) (d : Decimal) : Nat.ofDigitChars 10 (d.decimals scale) 0 =
    Nat.ofDigitChars 10 d.fraction 0 * 10 ^ scale / 10 ^ d.fraction.length := by
  have digits : ∀ c ∈ d.fraction ++ List.replicate scale '0', c.isDigit = true := by
    intro c member
    rcases List.mem_append.mp member with digit | zero
    · exact d.fractionDigits c digit
    · rw [List.eq_of_mem_replicate zero]
      rfl
  have left : ((d.fraction ++ List.replicate scale '0').drop scale).length = d.fraction.length := by
    simp
  rw [decimals, ofDigitChars_take digits, left, ofDigitChars_append, Nat.ofDigitChars_replicate_zero,
    List.length_replicate, Nat.mul_zero, Nat.add_zero]

/-- Cutting off decimals rounds down. -/
theorem cut_eq_floor (scale : Nat) (d : Decimal) : d.cut scale = ⌊d.value * 10 ^ scale⌋₊ := by
  have scaled : d.value * 10 ^ scale = (((Nat.ofDigitChars 10 d.fraction 0 * 10 ^ scale : ℕ) : ℚ) /
      ((10 ^ d.fraction.length : ℕ) : ℚ)) + ((Nat.ofDigitChars 10 d.whole 0 * 10 ^ scale : ℕ) : ℚ) := by
    unfold value
    push_cast
    ring
  rw [scaled, Nat.floor_add_natCast (by positivity), Nat.floor_div_eq_div, cut, decimals_value, Nat.add_comm]

theorem value_nonneg (d : Decimal) : 0 ≤ d.value := by
  unfold value
  positivity

section Units
variable (scale units : Nat)

theorem ofUnits_fraction_length (positive : 0 < scale) : (ofUnits scale units).fraction.length = scale := by
  have below : units % 10 ^ scale < 10 ^ scale := Nat.mod_lt _ (by positivity)
  have short : (Nat.toDigits 10 (units % 10 ^ scale)).length ≤ scale :=
    (Nat.length_toDigits_le_iff (by decide) positive).mpr below
  simp only [ofUnits, List.leftpad, List.length_append, List.length_replicate]
  omega

/-- The value of a number of units. -/
theorem ofUnits_value (positive : 0 < scale) : (ofUnits scale units).value = units / 10 ^ scale := by
  have fraction : Nat.ofDigitChars 10 (ofUnits scale units).fraction 0 = units % 10 ^ scale := by
    simp only [ofUnits, List.leftpad, Nat.ofDigitChars_append, Nat.ofDigitChars_replicate_zero, Nat.mul_zero,
      Nat.ofDigitChars_ten_toDigits]
  have whole : Nat.ofDigitChars 10 (ofUnits scale units).whole 0 = units / 10 ^ scale :=
    Nat.ofDigitChars_ten_toDigits
  have parts : ((units / 10 ^ scale * 10 ^ scale + units % 10 ^ scale : ℕ) : ℚ) = units := by
    rw [Nat.div_add_mod']
  rw [value, fraction, whole, ofUnits_fraction_length scale units positive, ← parts]
  push_cast
  field_simp

theorem cut_ofUnits (positive : 0 < scale) : (ofUnits scale units).cut scale = units := by
  have power : (10 : ℚ) ^ scale ≠ 0 := by positivity
  rw [cut_eq_floor, ofUnits_value scale units positive, div_mul_cancel₀ _ power, Nat.floor_natCast]

end Units

end Decimal

end AlianStructure.Library.DecimalText
