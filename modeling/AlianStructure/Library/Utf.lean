import AlianStructure.Library.TextCode

/-!
# UTF-8 and UTF-16

The two codes of a character, as bytes and as code units.
-/
namespace AlianStructure.Library.Utf
open TextCode

/-- A byte that continues no character. -/
def isFirstByte (byte : UInt8) : Bool := ! (byte.toNat / 64 == 2)

theorem toNat_ofNat {n : Nat} (small : n < 256) : (UInt8.ofNat n).toNat = n := by
  rw [UInt8.toNat_ofNat']
  exact Nat.mod_eq_of_lt small

theorem isFirstByte_ofNat {n : Nat} (small : n < 256) : isFirstByte (UInt8.ofNat n) = ! (n / 64 == 2) := by
  rw [isFirstByte, toNat_ofNat small]

theorem isFirstByte_next (n : Nat) : isFirstByte (UInt8.ofNat (n % 64 + 128)) = false := by
  rw [isFirstByte_ofNat (by omega), show (n % 64 + 128) / 64 = 2 by omega]
  rfl

theorem utf8_begins (c : Char) : ∃ first rest, String.utf8EncodeChar c = first :: rest ∧ isFirstByte first = true ∧
    ∀ byte ∈ rest, isFirstByte byte = false := by
  have first {n : Nat} (small : n < 256) (apart : n / 64 ≠ 2) : isFirstByte (UInt8.ofNat n) = true := by
    rw [isFirstByte_ofNat small]
    simpa using apart
  unfold String.utf8EncodeChar
  dsimp only
  split
  next => exact ⟨_, _, rfl, first (by omega) (by omega), nofun⟩
  split
  next =>
    refine ⟨_, _, rfl, first (by omega) (by omega), ?_⟩
    simp only [List.forall_mem_cons]
    exact ⟨isFirstByte_next _, nofun⟩
  split
  next =>
    refine ⟨_, _, rfl, first (by omega) (by omega), ?_⟩
    simp only [List.forall_mem_cons]
    exact ⟨isFirstByte_next _, isFirstByte_next _, nofun⟩
  next =>
    refine ⟨_, _, rfl, first (by omega) (by omega), ?_⟩
    simp only [List.forall_mem_cons]
    exact ⟨isFirstByte_next _, isFirstByte_next _, isFirstByte_next _, nofun⟩

theorem utf8_prefixFree (c d : Char) (s t : List UInt8)
    (same : String.utf8EncodeChar c ++ s = String.utf8EncodeChar d ++ t) : c = d := by
  have read := congrArg (fun bytes : List UInt8 => bytes.toByteArray.utf8DecodeChar? 0) same
  simpa [List.toByteArray_append, ByteArray.utf8DecodeChar?_utf8EncodeChar_append] using read

def utf8 : Code Char UInt8 where
  encode := String.utf8EncodeChar
  isHead := isFirstByte
  begins := utf8_begins
  prefixFree := utf8_prefixFree

/-- A character of one byte. -/
theorem utf8_ascii {c : Char} (ascii : c.toNat < 128) : utf8.encode c = [UInt8.ofNat c.toNat] := by
  have small : c.val.toNat ≤ 0x7f := Nat.le_of_lt_succ ascii
  show String.utf8EncodeChar c = _
  rw [String.utf8EncodeChar, if_pos small]
  rfl

/-- The bytes of the other characters are none of the signs of one byte. -/
theorem utf8_wide {c : Char} (wide : 128 ≤ c.toNat) : ∀ byte ∈ utf8.encode c, 128 ≤ byte.toNat := by
  have several : ¬ c.val.toNat ≤ 0x7f := Nat.not_le.mpr wide
  have high {n : Nat} (small : n < 256) (large : 128 ≤ n) : 128 ≤ (UInt8.ofNat n).toNat :=
    (toNat_ofNat small).symm ▸ large
  show ∀ byte ∈ String.utf8EncodeChar c, 128 ≤ byte.toNat
  rw [String.utf8EncodeChar, if_neg several]
  split
  next =>
    simp only [List.forall_mem_cons]
    exact ⟨high (by omega) (by omega), high (by omega) (by omega), nofun⟩
  split
  next =>
    simp only [List.forall_mem_cons]
    exact ⟨high (by omega) (by omega), high (by omega) (by omega), high (by omega) (by omega), nofun⟩
  next =>
    simp only [List.forall_mem_cons]
    exact ⟨high (by omega) (by omega), high (by omega) (by omega), high (by omega) (by omega),
      high (by omega) (by omega), nofun⟩

def codeUnitsOf (c : Char) : List Nat :=
  if c.toNat < 0x10000 then [c.toNat]
  else [0xd800 + (c.toNat - 0x10000) / 0x400, 0xdc00 + (c.toNat - 0x10000) % 0x400]

/-- A code unit that is no second half of a pair. -/
def isFirstUnit (codeUnit : Nat) : Bool := ! (codeUnit / 0x400 == 55)

theorem utf16_begins (c : Char) : ∃ first rest, codeUnitsOf c = first :: rest ∧ isFirstUnit first = true ∧
    ∀ codeUnit ∈ rest, isFirstUnit codeUnit = false := by
  have valid : c.toNat < 0xd800 ∨ 0xdfff < c.toNat ∧ c.toNat < 0x110000 := c.valid
  unfold codeUnitsOf
  split
  next =>
    refine ⟨_, _, rfl, ?_, nofun⟩
    have apart : c.toNat / 0x400 ≠ 55 := by omega
    simpa [isFirstUnit] using apart
  next =>
    refine ⟨_, _, rfl, ?_, ?_⟩
    · have apart : (0xd800 + (c.toNat - 0x10000) / 0x400) / 0x400 ≠ 55 := by omega
      simpa [isFirstUnit] using apart
    · have second : (0xdc00 + (c.toNat - 0x10000) % 0x400) / 0x400 = 55 := by omega
      simp [isFirstUnit, second]

theorem utf16_prefixFree (c d : Char) (s t : List Nat) (same : codeUnitsOf c ++ s = codeUnitsOf d ++ t) : c = d := by
  have one : c.toNat < 0xd800 ∨ 0xdfff < c.toNat ∧ c.toNat < 0x110000 := c.valid
  have two : d.toNat < 0xd800 ∨ 0xdfff < d.toNat ∧ d.toNat < 0x110000 := d.valid
  suffices equal : c.toNat = d.toNat from Char.toNat_inj.mp equal
  unfold codeUnitsOf at same
  split at same <;> split at same <;> simp only [List.cons_append, List.cons.injEq] at same <;> omega

def utf16 : Code Char Nat where
  encode := codeUnitsOf
  isHead := isFirstUnit
  begins := utf16_begins
  prefixFree := utf16_prefixFree

/-!
## Reading UTF-8

Bytes are read one after the other. A byte that does not go on with the character begun ends it, and it is read as the
replacement character; the byte is then read as a first one.
-/

/-- A character begun: how many bytes it has yet, its bits so far, and the bounds of the next byte. -/
structure Begun where
  needed : Nat
  bits : Nat
  lower : Nat
  upper : Nat

def replacement : Char := Char.ofNat 0xFFFD

/-- The characters that a first byte ends, and the one that it begins. -/
def readFirstByte (byte : Nat) : List Char × Option Begun :=
  if byte < 0x80 then ([Char.ofNat byte], none)
  else if 0xC2 ≤ byte ∧ byte ≤ 0xDF then ([], some ⟨1, byte - 0xC0, 0x80, 0xBF⟩)
  else if 0xE0 ≤ byte ∧ byte ≤ 0xEF then
    ([], some ⟨2, byte - 0xE0, if byte = 0xE0 then 0xA0 else 0x80, if byte = 0xED then 0x9F else 0xBF⟩)
  else if 0xF0 ≤ byte ∧ byte ≤ 0xF4 then
    ([], some ⟨3, byte - 0xF0, if byte = 0xF0 then 0x90 else 0x80, if byte = 0xF4 then 0x8F else 0xBF⟩)
  else ([replacement], none)

def readByte (begun : Option Begun) (byte : Nat) : List Char × Option Begun :=
  match begun with
  | none => readFirstByte byte
  | some ⟨needed, bits, lower, upper⟩ =>
    if lower ≤ byte ∧ byte ≤ upper then
      if needed = 1 then ([Char.ofNat (bits * 64 + byte % 64)], none)
      else ([], some ⟨needed - 1, bits * 64 + byte % 64, 0x80, 0xBF⟩)
    else (replacement :: (readFirstByte byte).1, (readFirstByte byte).2)

def readFrom : Option Begun → List UInt8 → List Char
  | none, [] => []
  | some _, [] => [replacement]
  | begun, byte :: rest => (readByte begun byte.toNat).1 ++ readFrom (readByte begun byte.toNat).2 rest

def readUtf8 (bytes : List UInt8) : List Char := readFrom none bytes

theorem readFrom_ofNat (begun : Option Begun) {n : Nat} (small : n < 256) (rest : List UInt8) :
    readFrom begun (UInt8.ofNat n :: rest) = (readByte begun n).1 ++ readFrom (readByte begun n).2 rest := by
  rw [readFrom, toNat_ofNat small]

theorem readByte_last {bits lower upper byte : Nat} (inside : lower ≤ byte ∧ byte ≤ upper) :
    readByte (some ⟨1, bits, lower, upper⟩) byte = ([Char.ofNat (bits * 64 + byte % 64)], none) := by
  rw [readByte, if_pos inside, if_pos rfl]

theorem readByte_more {needed bits lower upper byte : Nat} (inside : lower ≤ byte ∧ byte ≤ upper) (more : needed ≠ 1) :
    readByte (some ⟨needed, bits, lower, upper⟩) byte =
      ([], some ⟨needed - 1, bits * 64 + byte % 64, 0x80, 0xBF⟩) := by
  rw [readByte, if_pos inside, if_neg more]

theorem not_surrogate (c : Char) : c.val.toNat < 0xD800 ∨ 0xDFFF < c.val.toNat ∧ c.val.toNat < 0x110000 := c.valid

/-- A character is read from its bytes. -/
theorem readFrom_encode (c : Char) (rest : List UInt8) :
    readFrom none (utf8.encode c ++ rest) = c :: readFrom none rest := by
  have valid := not_surrogate c
  have same : ∀ n, n = c.val.toNat → Char.ofNat n = c := fun n isC => isC ▸ Char.ofNat_toNat c
  show readFrom none (String.utf8EncodeChar c ++ rest) = _
  unfold String.utf8EncodeChar
  dsimp only
  split
  next one =>
    simp only [List.cons_append, List.nil_append, readFrom_ofNat none (show c.val.toNat < 256 by omega)]
    rw [readByte, readFirstByte, if_pos (by omega), same _ rfl]
    rfl
  split
  next many two =>
    simp only [List.cons_append, List.nil_append]
    rw [readFrom_ofNat _ (by omega), readByte, readFirstByte, if_neg (by omega), if_pos (by omega), readFrom_ofNat _ (by omega),
      readByte_last (by omega), same _ (by omega)]
    rfl
  split
  next many three =>
    simp only [List.cons_append, List.nil_append]
    rw [readFrom_ofNat _ (by omega), readByte, readFirstByte, if_neg (by omega), if_neg (by omega), if_pos (by omega),
      readFrom_ofNat _ (by omega), readByte_more (by split <;> split <;> omega) (by decide), readFrom_ofNat _ (by omega),
      readByte_last (by omega), same _ (by omega)]
    rfl
  next many =>
    simp only [List.cons_append, List.nil_append]
    rw [readFrom_ofNat _ (by omega), readByte, readFirstByte, if_neg (by omega), if_neg (by omega), if_neg (by omega),
      if_pos (by omega), readFrom_ofNat _ (by omega), readByte_more (by split <;> split <;> omega) (by decide),
      readFrom_ofNat _ (by omega), readByte_more (by omega) (by decide), readFrom_ofNat _ (by omega),
      readByte_last (by omega), same _ (by omega)]
    rfl

/-- A text is read from its bytes. -/
theorem readUtf8_write (text : List Char) : readUtf8 (utf8.write text) = text := by
  induction text with
  | nil => rfl
  | cons c rest ih =>
    show readFrom none (utf8.encode c ++ utf8.write rest) = _
    rw [readFrom_encode]
    exact congrArg (c :: ·) ih

end AlianStructure.Library.Utf
