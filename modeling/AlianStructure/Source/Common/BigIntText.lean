import Mathlib.Data.Nat.Log
import AlianStructure.Library.JsonText

/-!
# BigInt and texts of values

The conversions of the language that guards apply to values of a request body: the truth of a
value, its text and its BigInt. A number of a body is a double, kept as the text that the language
prints for it; from 2^53 on that text need not denote the number.
-/
namespace AlianStructure.Source.Common
open Library.JsonText

/-! ## Digits -/

def digitOf (radix : Nat) (c : Char) : Option Nat :=
  let value :=
    if c.isDigit then c.toNat - '0'.toNat
    else if 'a' ≤ c ∧ c ≤ 'z' then c.toNat - 'a'.toNat + 10
    else if 'A' ≤ c ∧ c ≤ 'Z' then c.toNat - 'A'.toNat + 10
    else radix
  if value < radix then some value else none

def digits (radix : Nat) : Nat → List Char → Option Nat
  | value, [] => some value
  | value, c :: rest =>
    match digitOf radix c with
    | some digit => digits radix (value * radix + digit) rest
    | none => none

def natOf (radix : Nat) (chars : List Char) : Option Nat :=
  if chars = [] then none else digits radix 0 chars

/-! ## Texts -/

/-- White space and line terminators of the language. -/
def isBlank (c : Char) : Bool :=
  (9 ≤ c.toNat && c.toNat ≤ 13) || (0x2000 ≤ c.toNat && c.toNat ≤ 0x200a) ||
    [0x20, 0xa0, 0x1680, 0x2028, 0x2029, 0x202f, 0x205f, 0x3000, 0xfeff].contains c.toNat

def trim (chars : List Char) : List Char :=
  ((chars.dropWhile isBlank).reverse.dropWhile isBlank).reverse

/-- `BigInt` of a text; `none` is a SyntaxError. -/
def bigIntOfText (text : String) : Option Int :=
  match trim text.toList with
  | [] => some 0
  | '0' :: 'x' :: rest | '0' :: 'X' :: rest => (natOf 16 rest).map Int.ofNat
  | '0' :: 'o' :: rest | '0' :: 'O' :: rest => (natOf 8 rest).map Int.ofNat
  | '0' :: 'b' :: rest | '0' :: 'B' :: rest => (natOf 2 rest).map Int.ofNat
  | '-' :: rest => (natOf 10 rest).map fun n => -Int.ofNat n
  | '+' :: rest => (natOf 10 rest).map Int.ofNat
  | chars => (natOf 10 chars).map Int.ofNat

example : bigIntOfText " 0x1F\n" = some 31 := by decide +kernel

/-! ## Numbers -/

/-- The double nearest to a natural number, ties going to the even one. -/
def nearestDouble (n : Nat) : Nat :=
  let unit := 2 ^ (Nat.log 2 n - 52)
  let below := n / unit
  if 2 * (n % unit) < unit ∨ (2 * (n % unit) = unit ∧ below % 2 = 0) then below * unit
  else (below + 1) * unit

/-- The whole number that the text of a number denotes as a double, when it is one. -/
def magnitude (chars : List Char) : Option Nat :=
  match natOf 10 chars with
  | some n => some (nearestDouble n)
  | none =>
    match chars.dropWhile (· ≠ 'e') with
    | 'e' :: '+' :: exponent => do
      let mantissa := chars.takeWhile (· ≠ 'e')
      let fraction := (mantissa.dropWhile (· ≠ '.')).drop 1
      let significant ← natOf 10 (mantissa.takeWhile (· ≠ '.') ++ fraction)
      let power ← natOf 10 exponent
      some (nearestDouble (significant * 10 ^ (power - fraction.length)))
    | _ => none

/-- `BigInt` of a number; `none` is a RangeError. -/
def bigIntOfNumber (number : NumberText) : Option Int :=
  match number.chars with
  | '-' :: rest => (magnitude rest).map fun n => -Int.ofNat n
  | chars => (magnitude chars).map Int.ofNat

/-! ## Values -/

def isTruthy : Json → Bool
  | .null => false
  | .bool value => value
  | .number text => decide (text.chars ≠ ['0'])
  | .string text => decide (text ≠ "")
  | .array _ | .object _ => true

mutual
/-- The text of a value; `none` is a TypeError, for an object with a member of that name. -/
def textOf : Json → Option String
  | .null => some "null"
  | .bool value => some (if value then "true" else "false")
  | .number text => some (String.ofList text.chars)
  | .string text => some text
  | .array items => (textsOf items).map (",".intercalate ·)
  | .object members => if (members.lookup "toString").isSome then none else some "[object Object]"

/-- The texts of the items of an array, where `null` leaves nothing. -/
def textsOf : List Json → Option (List String)
  | [] => some []
  | .null :: rest => (textsOf rest).map ("" :: ·)
  | item :: rest => do
    let text ← textOf item
    let texts ← textsOf rest
    some (text :: texts)
end

/-- `BigInt` of a value; `none` is one of its errors. -/
def bigIntOf : Json → Option Int
  | .number text => bigIntOfNumber text
  | .bool value => some (if value then 1 else 0)
  | value => (textOf value).bind bigIntOfText

end AlianStructure.Source.Common
