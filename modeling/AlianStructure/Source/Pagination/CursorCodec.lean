import AlianStructure.Library.Base64Url
import AlianStructure.Library.IsoDate
import AlianStructure.Library.JsonReading
import AlianStructure.Source.Exception

/-!
# Cursors as texts

Source: src/common/pagination/cursor-pagination.service.ts:5-75,169-177. A date is its time, or none. What the runtime
reads as a date besides the texts with all parts of a time is a parameter. A length is the number of characters: where it
differs from the number of code units, the text has other signs than those of base64url.
-/
namespace AlianStructure.Source.Pagination.CursorCodec
open Library Base64Url IsoDate JsonReading JsonText Utf

structure CursorPosition where
  createdAt : Option TimeValue
  id : String
  deriving DecidableEq

def CURSOR_VERSION : Nat := 1

def MAX_CURSOR_LENGTH : Nat := 512

def isHexadecimal (c : Char) : Bool :=
  c.isDigit || ['a', 'b', 'c', 'd', 'e', 'f', 'A', 'B', 'C', 'D', 'E', 'F'].contains c

def isDash (c : Char) : Bool := c == '-'

/-- The signs of a UUID, place by place. -/
def uuidSigns : List (Char → Bool) :=
  List.replicate 8 isHexadecimal ++ isDash :: (List.replicate 4 isHexadecimal ++ isDash ::
    ['1', '2', '3', '4', '5', '6', '7', '8'].contains :: (List.replicate 3 isHexadecimal ++ isDash ::
      ['8', '9', 'a', 'b', 'A', 'B'].contains :: (List.replicate 3 isHexadecimal ++ isDash ::
        List.replicate 12 isHexadecimal)))

def UUID_PATTERN (id : String) : Bool :=
  id.length == uuidSigns.length && (List.zipWith (fun sign c => sign c) uuidSigns id.toList).all fun fits => fits

def invalidCursor : Exception := .badRequest "Invalid pagination cursor"

def assertPosition (position : CursorPosition) : Except Exception Unit :=
  if position.createdAt = none ∨ UUID_PATTERN position.id = false then .error invalidCursor else .ok ()

def toISOString (time : TimeValue) : String := String.ofList (isoText (Civil.ofTime time.milliseconds))

def encode (position : CursorPosition) : Except Exception String := do
  assertPosition position
  match position.createdAt with
  | none => throw (.error "Invalid time value")
  | some createdAt =>
    let payload : Json := .object [("v", .number (NumberText.ofNat CURSOR_VERSION)),
      ("createdAt", .string (toISOString createdAt)), ("id", .string position.id)]
    pure (String.ofList (Base64Url.write (utf8.write payload.write)))

/-- The numbers that 1 is the nearest number of double precision to. -/
def isVersion (number : ℚ) : Bool := decide (1 - 1 / 2 ^ 54 ≤ number ∧ number ≤ 1 + 1 / 2 ^ 53)

section Decoding
variable (otherwise : String → Option TimeValue)

def newDate (text : String) : Option TimeValue :=
  match readIso text.toList with
  | some civil => timeClip civil.time
  | none => otherwise text

/-- Half of a surrogate pair is in no UUID and in no text of a time. -/
def readPayload (payload : Value) : Except Exception CursorPosition :=
  match payload.member "v", payload.member "createdAt", payload.member "id" with
  | some (.number v), some (.string (some createdAt)), some (.string (some id)) =>
    if isVersion v = false then .error (.error "Unsupported cursor payload")
    else do
      let position : CursorPosition := { createdAt := newDate otherwise createdAt, id := id }
      assertPosition position
      if position.createdAt.map toISOString ≠ some createdAt then .error (.error "Non-canonical cursor timestamp")
      else .ok position
  | _, _, _ => .error (.error "Unsupported cursor payload")

def decodePosition (cursor : String) : Except Exception CursorPosition :=
  if cursor = "" ∨ MAX_CURSOR_LENGTH < cursor.length ∨ cursor.toList.all isSign = false then
    .error (.error "Malformed cursor encoding")
  else
    let decoded := readUtf8 (Base64Url.read cursor.toList)
    if Base64Url.write (utf8.write decoded) ≠ cursor.toList then .error (.error "Non-canonical cursor encoding")
    else match parse decoded with
      | none => .error (.error "Unexpected token in JSON")
      | some payload => readPayload otherwise payload

def decode (cursor : String) : Except Exception CursorPosition :=
  match decodePosition otherwise cursor with
  | .ok position => .ok position
  | .error _ => .error invalidCursor

end Decoding

end AlianStructure.Source.Pagination.CursorCodec
