import AlianStructure.Library.JsonText
import AlianStructure.Library.Utf

/-!
# Reading JSON

The whole grammar: blanks between the tokens, all escapes of a string, and numbers with a fraction and an exponent. A
string is its text, or none where it has half of a surrogate pair. The value of a number is exact.
-/
namespace AlianStructure.Library.JsonReading
open Utf

inductive Value where
  | null
  | bool (value : Bool)
  | number (value : ℚ)
  | string (text : Option String)
  | array (items : List Value)
  | object (members : List (Option String × Value))

def isBlank (c : Char) : Bool := [' ', '\t', '\n', '\r'].contains c

def skipBlanks (text : List Char) : List Char := text.dropWhile isBlank

def hexValue (c : Char) : Option Nat :=
  if c.isDigit then some (c.toNat - 48)
  else if 97 ≤ c.toNat ∧ c.toNat ≤ 102 then some (c.toNat - 87)
  else if 65 ≤ c.toNat ∧ c.toNat ≤ 70 then some (c.toNat - 55) else none

def hexUnit (a b c d : Char) : Option Nat := do
  pure ((((← hexValue a) * 16 + (← hexValue b)) * 16 + (← hexValue c)) * 16 + (← hexValue d))

/-- The code units of the escapes with one character. -/
def escapes : List (Char × Nat) :=
  [('"', 34), ('\\', 92), ('/', 47), ('b', 8), ('f', 12), ('n', 10), ('r', 13), ('t', 9)]

/-- The code units of a string up to the quote that ends it. -/
def readUnits : List Char → Option (List Nat × List Char)
  | [] => none
  | '"' :: rest => some ([], rest)
  | '\\' :: 'u' :: a :: b :: c :: d :: rest =>
    (hexUnit a b c d).bind fun codeUnit => (readUnits rest).map fun read => (codeUnit :: read.1, read.2)
  | '\\' :: c :: rest =>
    (escapes.lookup c).bind fun codeUnit => (readUnits rest).map fun read => (codeUnit :: read.1, read.2)
  | c :: rest => if c.toNat < 32 then none else (readUnits rest).map fun read => (codeUnitsOf c ++ read.1, read.2)

/-- The characters of code units, when every half of a surrogate pair has the other. -/
def charsOf : List Nat → Option (List Char)
  | [] => some []
  | [codeUnit] => if codeUnit / 0x800 = 27 then none else some [Char.ofNat codeUnit]
  | codeUnit :: next :: rest =>
    if codeUnit / 0x400 = 54 then
      if next / 0x400 = 55 then
        (charsOf rest).map (Char.ofNat (0x10000 + codeUnit % 0x400 * 0x400 + next % 0x400) :: ·)
      else none
    else if codeUnit / 0x400 = 55 then none
    else (charsOf (next :: rest)).map (Char.ofNat codeUnit :: ·)

def readText (text : List Char) : Option (Option String × List Char) :=
  (readUnits text).map fun read => ((charsOf read.1).map String.ofList, read.2)

def readDigits (text : List Char) : Option (List Char × List Char) :=
  if text.takeWhile Char.isDigit = [] then none else some (text.takeWhile Char.isDigit, text.dropWhile Char.isDigit)

/-- A number begins with no further zero. -/
def readWhole : List Char → Option (List Char × List Char)
  | '0' :: rest => some (['0'], rest)
  | text => readDigits text

def readFraction : List Char → Option (List Char × List Char)
  | '.' :: rest => readDigits rest
  | text => some ([], text)

def readExponent : List Char → Option (Int × List Char)
  | c :: rest =>
    if c = 'e' ∨ c = 'E' then
      match rest with
      | '+' :: rest => (readDigits rest).map fun read => ((Nat.ofDigitChars 10 read.1 0 : Int), read.2)
      | '-' :: rest => (readDigits rest).map fun read => (-(Nat.ofDigitChars 10 read.1 0 : Int), read.2)
      | rest => (readDigits rest).map fun read => ((Nat.ofDigitChars 10 read.1 0 : Int), read.2)
    else some (0, c :: rest)
  | [] => some (0, [])

def readUnsigned (text : List Char) : Option (ℚ × List Char) := do
  let (whole, text) ← readWhole text
  let (fraction, text) ← readFraction text
  let (exponent, text) ← readExponent text
  pure ((Nat.ofDigitChars 10 (whole ++ fraction) 0 : ℚ) * 10 ^ (exponent - fraction.length), text)

def readNumber : List Char → Option (ℚ × List Char)
  | '-' :: rest => (readUnsigned rest).map fun read => (-read.1, read.2)
  | text => readUnsigned text

mutual

/-- Read a value; how deep it is, and how many items it has, is bounded by the first argument. -/
def readValue : Nat → List Char → Option (Value × List Char)
  | 0, _ => none
  | depth + 1, text =>
    match skipBlanks text with
    | 'n' :: 'u' :: 'l' :: 'l' :: rest => some (.null, rest)
    | 't' :: 'r' :: 'u' :: 'e' :: rest => some (.bool true, rest)
    | 'f' :: 'a' :: 'l' :: 's' :: 'e' :: rest => some (.bool false, rest)
    | '"' :: rest => (readText rest).map fun read => (.string read.1, read.2)
    | '[' :: rest =>
      match skipBlanks rest with
      | ']' :: rest => some (.array [], rest)
      | rest => (readItems depth rest).map fun read => (.array read.1, read.2)
    | '{' :: rest =>
      match skipBlanks rest with
      | '}' :: rest => some (.object [], rest)
      | rest => (readMembers depth rest).map fun read => (.object read.1, read.2)
    | rest => (readNumber rest).map fun read => (.number read.1, read.2)

def readItems : Nat → List Char → Option (List Value × List Char)
  | 0, _ => none
  | depth + 1, text =>
    match readValue depth text with
    | none => none
    | some (item, rest) =>
      match skipBlanks rest with
      | ']' :: rest => some ([item], rest)
      | ',' :: rest => (readItems depth rest).map fun read => (item :: read.1, read.2)
      | _ => none

def readMembers : Nat → List Char → Option (List (Option String × Value) × List Char)
  | 0, _ => none
  | depth + 1, text =>
    match readMember depth text with
    | none => none
    | some (member, rest) =>
      match skipBlanks rest with
      | '}' :: rest => some ([member], rest)
      | ',' :: rest => (readMembers depth rest).map fun read => (member :: read.1, read.2)
      | _ => none

def readMember : Nat → List Char → Option ((Option String × Value) × List Char)
  | 0, _ => none
  | depth + 1, text =>
    match skipBlanks text with
    | '"' :: rest =>
      match readText rest with
      | none => none
      | some (key, rest) =>
        match skipBlanks rest with
        | ':' :: rest => (readValue depth rest).map fun read => ((key, read.1), read.2)
        | _ => none
    | _ => none

end

/-- The value of a text. -/
def parse (text : List Char) : Option Value :=
  match readValue (3 * text.length + 3) text with
  | some (value, rest) => if skipBlanks rest = [] then some value else none
  | none => none

/-- The value of a member; the last one of a name counts. -/
def Value.member (name : String) : Value → Option Value
  | .object members => (members.reverse.find? fun member => decide (member.1 = some name)).map Prod.snd
  | _ => none

/-- A character that stands for itself in a string. -/
def isPlain (c : Char) : Bool := decide (32 ≤ c.toNat) && c != '"' && c != '\\'

theorem isPlain_iff {c : Char} : isPlain c = true ↔ 32 ≤ c.toNat ∧ c ≠ '"' ∧ c ≠ '\\' := by
  simp only [isPlain, Bool.and_eq_true, decide_eq_true_eq, bne_iff_ne, and_assoc]

theorem escapeChar_plain {c : Char} (plain : isPlain c = true) : JsonText.escapeChar c = [c] := by
  obtain ⟨visible, notQuote, notBackslash⟩ := isPlain_iff.mp plain
  have noShort : JsonText.shortEscapes.lookup c = none := by
    rw [List.lookup_eq_none_iff]
    have control : ∀ d : Char, d.toNat < 32 → (c != d) = true := fun d hidden =>
      bne_iff_ne.mpr fun same => absurd visible (same ▸ Nat.not_le.mpr hidden)
    simp only [JsonText.shortEscapes, List.forall_mem_cons]
    exact ⟨bne_iff_ne.mpr notQuote, bne_iff_ne.mpr notBackslash, control '\x08' (by decide), control '\t' (by decide),
      control '\n' (by decide), control '\x0c' (by decide), control '\r' (by decide),
      List.forall_mem_nil _⟩
  rw [JsonText.escapeChar, noShort]
  exact if_neg (Nat.not_lt.mpr visible)

/-- A text of plain characters is not changed by escaping. -/
theorem escape_plain {text : List Char} (plain : ∀ c ∈ text, isPlain c = true) : text.flatMap JsonText.escapeChar = text := by
  induction text with
  | nil => rfl
  | cons c rest ih =>
    obtain ⟨first, others⟩ := List.forall_mem_cons.mp plain
    rw [List.flatMap_cons, escapeChar_plain first, ih others, List.singleton_append]

theorem readUnits_plain {c : Char} (plain : isPlain c = true) (rest : List Char) :
    readUnits (c :: rest) = (readUnits rest).map fun read => (codeUnitsOf c ++ read.1, read.2) := by
  simp only [isPlain, Bool.and_eq_true, decide_eq_true_eq, bne_iff_ne] at plain
  obtain ⟨⟨visible, notQuote⟩, notBackslash⟩ := plain
  rw [readUnits]
  · exact if_neg (Nat.not_lt.mpr visible)
  · exact fun isQuote => notQuote isQuote
  · exact fun _ _ _ _ _ isBackslash => absurd isBackslash notBackslash
  · exact fun _ _ isBackslash => absurd isBackslash notBackslash

theorem charsOf_codeUnits (c : Char) (rest : List Nat) : charsOf (codeUnitsOf c ++ rest) = (charsOf rest).map (c :: ·) := by
  have valid : c.toNat < 0xd800 ∨ 0xdfff < c.toNat ∧ c.toNat < 0x110000 := c.valid
  unfold codeUnitsOf
  split
  next small =>
    have isC : Char.ofNat c.toNat = c := Char.ofNat_toNat c
    cases rest with
    | nil =>
      simp only [List.append_nil, charsOf, isC, Option.map_some]
      exact if_neg (by omega)
    | cons next rest =>
      simp only [List.cons_append, List.nil_append, charsOf, isC]
      rw [if_neg (by omega), if_neg (by omega)]
  next large =>
    have isC : Char.ofNat (0x10000 + (0xd800 + (c.toNat - 0x10000) / 0x400) % 0x400 * 0x400 +
        (0xdc00 + (c.toNat - 0x10000) % 0x400) % 0x400) = c := by
      rw [show 0x10000 + (0xd800 + (c.toNat - 0x10000) / 0x400) % 0x400 * 0x400 +
        (0xdc00 + (c.toNat - 0x10000) % 0x400) % 0x400 = c.toNat by omega]
      exact Char.ofNat_toNat c
    simp only [List.cons_append, List.nil_append, charsOf]
    rw [if_pos (by omega), if_pos (by omega), isC]

theorem charsOf_flatMap (text : List Char) : charsOf (text.flatMap codeUnitsOf) = some text := by
  induction text with
  | nil => rfl
  | cons c rest ih => rw [List.flatMap_cons, charsOf_codeUnits, ih, Option.map_some]

theorem readUnits_text {text : List Char} (plain : ∀ c ∈ text, isPlain c = true) (rest : List Char) :
    readUnits (text ++ '"' :: rest) = some (text.flatMap codeUnitsOf, rest) := by
  induction text with
  | nil => rfl
  | cons c tail ih =>
    rw [List.cons_append, readUnits_plain (plain c List.mem_cons_self),
      ih fun other member => plain other (List.mem_cons_of_mem c member), Option.map_some, List.flatMap_cons]

/-- A text without escapes is read as it is. -/
theorem readText_plain {text : List Char} (plain : ∀ c ∈ text, isPlain c = true) (rest : List Char) :
    readText (text ++ '"' :: rest) = some (some (String.ofList text), rest) := by
  rw [readText, readUnits_text plain, Option.map_some, charsOf_flatMap, Option.map_some]

end AlianStructure.Library.JsonReading
