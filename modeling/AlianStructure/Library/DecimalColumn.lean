import AlianStructure.Library.DecimalText

/-!
# Decimal columns

A decimal column keeps a number of units of its last place. A driver hands its value over as a text, and the database
reads the text of a number back: digits, a point, digits and an exponent. It rounds to the last place, halves away from
zero, and refuses what has too many digits.
-/
namespace AlianStructure.Library.DecimalColumn
open Library.DecimalText

/-! ## Texts of numbers -/

def digitsOf (text : List Char) : List Char := text.takeWhile Char.isDigit

def afterDigits (text : List Char) : List Char := text.dropWhile Char.isDigit

/-- The exponent that ends a text: none at all, or an `e`, a sign and digits. -/
def exponentOf : List Char → Option ℤ
  | [] => some 0
  | 'e' :: '+' :: digits =>
    if digits ≠ [] ∧ afterDigits digits = [] then some (Nat.ofDigitChars 10 digits 0 : ℤ) else none
  | 'e' :: '-' :: digits =>
    if digits ≠ [] ∧ afterDigits digits = [] then some (-(Nat.ofDigitChars 10 digits 0 : ℤ)) else none
  | _ => none

/-- The digits behind the point, and what follows them. -/
def fractionOf : List Char → List Char × List Char
  | '.' :: rest => (digitsOf rest, afterDigits rest)
  | rest => ([], rest)

/-- What a text without a sign stands for. -/
def magnitudeOf (text : List Char) : Option ℚ :=
  let (fraction, tail) := fractionOf (afterDigits text)
  if digitsOf text = [] ∧ fraction = [] then none
  else (exponentOf tail).map fun exponent =>
    (Nat.ofDigitChars 10 (digitsOf text) 0 + (Nat.ofDigitChars 10 fraction 0 : ℚ) / 10 ^ fraction.length) *
      10 ^ exponent

def numberOf : List Char → Option ℚ
  | '-' :: text => (magnitudeOf text).map Neg.neg
  | text => magnitudeOf text

/-! ## Values -/

structure Column where
  precision : Nat
  scale : Nat
  scaled : 0 < scale

/-- A value of a column, in units of its last place. -/
structure Column.Value (column : Column) where
  units : ℤ
  fits : |units| < 10 ^ column.precision
  deriving DecidableEq

variable {column : Column}

/-- The nearest whole number; halves go away from zero. -/
def roundAway (q : ℚ) : ℤ := if q < 0 then -⌊-q + 1 / 2⌋ else ⌊q + 1 / 2⌋

def Column.store (column : Column) (q : ℚ) : Option column.Value :=
  let units := roundAway (q * 10 ^ column.scale)
  if fits : |units| < 10 ^ column.precision then some ⟨units, fits⟩ else none

/-- A value as the driver reads it. -/
def Column.Value.text (value : column.Value) : List Char :=
  (if value.units < 0 then ['-'] else []) ++ (Decimal.ofUnits column.scale value.units.natAbs).text

/-- What is stored of a value with more behind its text. -/
def Column.Value.join (value : column.Value) (more : List Char) : Option column.Value :=
  (numberOf (value.text ++ more)).bind column.store

theorem afterDigits_append {digits : List Char} (all : ∀ c ∈ digits, c.isDigit = true) (rest : List Char) :
    afterDigits (digits ++ rest) = afterDigits rest := List.dropWhile_append_of_pos all

/-- The digits of a text as decimals. -/
def decimalsOf (text : List Char) : ℚ := Nat.ofDigitChars 10 (digitsOf text) 0 / 10 ^ (digitsOf text).length

section Texts
variable (units : Nat) (more : List Char)

/-- The text of a value has a point in it. -/
theorem text_append : (Decimal.ofUnits column.scale units).text ++ more =
    (Decimal.ofUnits column.scale units).whole ++ '.' :: ((Decimal.ofUnits column.scale units).fraction ++ more) := by
  have size := Decimal.ofUnits_fraction_length column.scale units column.scaled
  have filled : (Decimal.ofUnits column.scale units).fraction ≠ [] := fun empty => by
    rw [empty] at size
    exact column.scaled.ne size
  simp [Decimal.text, filled]

/-- With more behind its text a value is read with more decimals, and with another exponent. -/
theorem magnitudeOf_append :
    magnitudeOf ((Decimal.ofUnits column.scale units).text ++ more) = (exponentOf (afterDigits more)).map fun exponent =>
      (units + decimalsOf more) / 10 ^ column.scale * 10 ^ exponent := by
  have size := Decimal.ofUnits_fraction_length column.scale units column.scaled
  have value := Decimal.ofUnits_value column.scale units column.scaled
  rw [text_append]
  generalize Decimal.ofUnits column.scale units = d at size value ⊢
  have whole : digitsOf (d.whole ++ '.' :: (d.fraction ++ more)) = d.whole ++ [] :=
    List.takeWhile_append_of_pos d.wholeDigits
  have fraction : digitsOf (d.fraction ++ more) = d.fraction ++ digitsOf more :=
    List.takeWhile_append_of_pos d.fractionDigits
  have point : fractionOf (afterDigits ('.' :: (d.fraction ++ more))) =
      (digitsOf (d.fraction ++ more), afterDigits (d.fraction ++ more)) := rfl
  rw [magnitudeOf, whole, afterDigits_append d.wholeDigits, point, List.append_nil, fraction,
    afterDigits_append d.fractionDigits]
  dsimp only
  rw [if_neg fun none => d.filled none.1]
  congr 1
  funext exponent
  have parts : (Nat.ofDigitChars 10 d.whole 0 : ℚ) + (Nat.ofDigitChars 10 (d.fraction ++ digitsOf more) 0 : ℚ) /
      10 ^ (d.fraction ++ digitsOf more).length = (units + decimalsOf more) / 10 ^ column.scale := by
    rw [Decimal.ofDigitChars_append, add_div, ← value, Decimal.value, List.length_append, size, decimalsOf]
    push_cast
    rw [pow_add]
    field_simp
    ring
  rw [parts]

theorem numberOf_unsigned : numberOf ((Decimal.ofUnits column.scale units).text ++ more) =
      magnitudeOf ((Decimal.ofUnits column.scale units).text ++ more) := by
  have filled := (Decimal.ofUnits column.scale units).filled
  have digits := (Decimal.ofUnits column.scale units).wholeDigits
  unfold Decimal.text
  cases isWhole : (Decimal.ofUnits column.scale units).whole with
  | nil => exact absurd isWhole filled
  | cons first rest =>
    rw [isWhole] at digits
    have isDigit := digits first List.mem_cons_self
    unfold numberOf
    split
    next same =>
      obtain rfl : first = '-' := (List.cons.inj same).1
      cases isDigit
    next => rfl

end Texts

namespace Column.Value
variable (value : column.Value)

theorem numberOf_append (more : List Char) :
    numberOf (value.text ++ more) = (exponentOf (afterDigits more)).map fun exponent =>
      (if value.units < 0 then -1 else 1) *
        ((value.units.natAbs + decimalsOf more) / 10 ^ column.scale * 10 ^ exponent) := by
  unfold text
  split
  · rw [List.singleton_append, List.cons_append, numberOf, magnitudeOf_append, Option.map_map]
    congr 1
    funext exponent
    exact (neg_one_mul _).symm
  · rw [List.nil_append, numberOf_unsigned, magnitudeOf_append]
    simp only [one_mul]

/-- What is neither digits nor an exponent makes a text that is refused. -/
theorem join_refused {more : List Char} (refused : exponentOf (afterDigits more) = none) : value.join more = none := by
  rw [join, numberOf_append, refused]
  rfl

/-- A text that begins with the text of a value is no exponent. -/
theorem exponentOf_text (more : List Char) : exponentOf (afterDigits (value.text ++ more)) = none := by
  unfold text
  split
  · rfl
  · rw [List.nil_append, text_append, afterDigits_append (Decimal.ofUnits column.scale _).wholeDigits]
    rfl

theorem roundAway_intCast (units : ℤ) : roundAway units = units := by
  have half (n : ℤ) : ⌊(n : ℚ) + 1 / 2⌋ = n := by
    rw [Int.floor_intCast_add]
    norm_num
  unfold roundAway
  split
  · rw [← Int.cast_neg, half, neg_neg]
  · exact half units

/-- A zero behind the text changes nothing. -/
theorem join_zero : value.join ['0'] = some value := by
  have nothing : decimalsOf ['0'] = 0 := by decide +kernel
  have exponent : exponentOf (afterDigits ['0']) = some 0 := rfl
  have signed : (if value.units < 0 then -1 else 1) * (value.units.natAbs : ℚ) = value.units := by
    split
    · rw [Nat.cast_natAbs, abs_of_neg ‹_›]
      push_cast
      ring
    · rw [Nat.cast_natAbs, abs_of_nonneg (not_lt.mp ‹_›), one_mul]
  have scaled : (10 : ℚ) ^ column.scale ≠ 0 := by positivity
  have back : (if value.units < 0 then -1 else 1) * ((value.units.natAbs + (0 : ℚ)) / 10 ^ column.scale * 10 ^ (0 : ℤ)) *
      10 ^ column.scale = value.units := by
    rw [← signed, add_zero, zpow_zero, mul_one, mul_assoc, div_mul_cancel₀ _ scaled]
  rw [join, numberOf_append, exponent, nothing, Option.map_some, Option.bind_some, store]
  simp only [back, roundAway_intCast]
  exact dif_pos value.fits

end Column.Value

end AlianStructure.Library.DecimalColumn
