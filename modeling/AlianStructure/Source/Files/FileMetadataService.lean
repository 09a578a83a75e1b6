import AlianStructure.Source.Files.FileRuntime

/-!
# The dimensions of an image

Source: src/infrastructure/file-upload/services/file-metadata.service.ts:204-295. An index beyond the buffer is
undefined; a number that is read beyond it is a RangeError.
-/
namespace AlianStructure.Source.Files

structure ImageDimensions where
  width : Nat
  height : Nat
  format : String
  deriving DecidableEq

/-- A read of some bytes that are not all in the buffer. -/
inductive RangeError where
  | outOfRange (offset : Nat)
  deriving DecidableEq

def readTwo (combine : UInt8 → UInt8 → Nat) (buffer : Bytes) (offset : Nat) : Except RangeError Nat :=
  match buffer[offset]?, buffer[offset + 1]? with
  | some first, some second => .ok (combine first second)
  | _, _ => .error (.outOfRange offset)

def readUInt16BE : Bytes → Nat → Except RangeError Nat := readTwo fun high low => high.toNat * 2 ^ 8 + low.toNat

def readUInt16LE : Bytes → Nat → Except RangeError Nat := readTwo fun low high => high.toNat * 2 ^ 8 + low.toNat

def readUInt32BE (buffer : Bytes) (offset : Nat) : Except RangeError Nat :=
  match readUInt16BE buffer offset, readUInt16BE buffer (offset + 2) with
  | .ok high, .ok low => .ok (high * 2 ^ 16 + low)
  | _, _ => .error (.outOfRange offset)

def readUInt32LE (buffer : Bytes) (offset : Nat) : Except RangeError Nat :=
  match readUInt16LE buffer offset, readUInt16LE buffer (offset + 2) with
  | .ok low, .ok high => .ok (high * 2 ^ 16 + low)
  | _, _ => .error (.outOfRange offset)

namespace FileMetadataService
open FileValidationService

/-- The markers of a frame header that are looked for. -/
def isFrameMarker (marker : UInt8) : Bool := marker == 0xc0 || marker == 0xc1 || marker == 0xc2

/-- The loop over the segments, from one of them on: the width and the height. -/
def jpegSegments (buffer : Bytes) (offset : Nat) : Except RangeError (Option (Nat × Nat)) :=
  if offset + 1 < buffer.length then
    match buffer[offset]?, buffer[offset + 1]? with
    | some 0xff, some marker =>
      if isFrameMarker marker = true ∧ offset + 9 < buffer.length then do
        let height ← readUInt16BE buffer (offset + 5)
        let width ← readUInt16BE buffer (offset + 7)
        pure (some (width, height))
      else if marker = 0xd9 ∨ marker = 0xda then pure none
      else
        match readUInt16BE buffer (offset + 2) with
        | .ok segLength => jpegSegments buffer (offset + 2 + segLength)
        | .error failure => .error failure
    | _, _ => pure none
  else pure none
termination_by buffer.length - offset

def parseJpegDimensions (buffer : Bytes) : Except RangeError (Option (Nat × Nat)) := jpegSegments buffer 2

def parseWebpDimensions (buffer : Bytes) : Except RangeError (Option ImageDimensions) :=
  if 30 ≤ buffer.length ∧ bytesAt buffer 8 [0x57, 0x45, 0x42, 0x50] then
    if bytesAt buffer 12 [0x4c, 0x45] then do
      let width ← readUInt16LE buffer 26
      let height ← readUInt16LE buffer 28
      pure (some ⟨width % 2 ^ 14, height % 2 ^ 14, "webp"⟩)
    else if bytesAt buffer 12 [0x4c, 0x41] then do
      let bits ← readUInt32LE buffer 21
      pure (some ⟨bits % 2 ^ 14 + 1, bits / 2 ^ 18 % 2 ^ 14 + 1, "webp"⟩)
    else pure none
  else pure none

/-- What comes after the tests for PNG and JPEG. -/
def parseGifDimensions (buffer : Bytes) : Except RangeError (Option ImageDimensions) :=
  if bytesAt buffer 0 [0x47, 0x49, 0x46] ∧ 10 ≤ buffer.length then do
    let width ← readUInt16LE buffer 6
    let height ← readUInt16LE buffer 8
    pure (some ⟨width, height, "gif"⟩)
  else parseWebpDimensions buffer

def parseImageDimensions (buffer : Bytes) : Except RangeError (Option ImageDimensions) :=
  if buffer.length < 8 then pure none
  else if bytesAt buffer 0 [0x89, 0x50, 0x4e, 0x47] ∧ 24 ≤ buffer.length then do
    let width ← readUInt32BE buffer 16
    let height ← readUInt32BE buffer 20
    pure (some ⟨width, height, "png"⟩)
  else if bytesAt buffer 0 [0xff, 0xd8] then do
    match ← parseJpegDimensions buffer with
    | some (width, height) => pure (some ⟨width, height, "jpeg"⟩)
    | none => parseGifDimensions buffer
  else parseGifDimensions buffer

end FileMetadataService
end AlianStructure.Source.Files
