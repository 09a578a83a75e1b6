import AlianStructure.Source.Files.FileMetadataService

/-!
# The headers of images

Source: src/infrastructure/file-upload/services/file-metadata.service.ts:204-295. A JPEG is a marker, segments with their
lengths, and a frame header, with any number of fill bytes before a marker. The parser reads the length of a segment
without looking whether it is there, takes a fill byte for a marker that has one, and knows no WebP by the names that its
chunks have.
-/
namespace AlianStructure.Guarantees.ImageHeaders
open Source.Files FileValidationService FileMetadataService

section Formats
variable (buffer : Bytes)

/-- A frame header stands here, up to the number of its components. -/
def IsFrame (offset : Nat) : Prop :=
  buffer[offset]? = some 0xff ∧ (buffer[offset + 1]?).any isFrameMarker = true ∧ offset + 9 < buffer.length

instance (offset : Nat) : Decidable (IsFrame buffer offset) := inferInstanceAs (Decidable (_ ∧ _ ∧ _))

/-- The length that a segment gives. -/
def lengthAt (offset : Nat) : Option Nat := (readUInt16BE buffer (offset + 2)).toOption

/-- A marker that begins a segment before the frame header. -/
def isSegmentMarker (marker : UInt8) : Bool :=
  !(isFrameMarker marker || marker == 0x00 || marker == 0x01 || (0xd0 ≤ marker && marker ≤ 0xda) || marker == 0xff)

/-- A segment stands here: a marker, and a length that counts its own two bytes. -/
def IsSegment (offset : Nat) : Prop :=
  (buffer[offset + 1]?).any isSegmentMarker = true ∧ (lengthAt buffer offset).any (2 ≤ ·) = true

instance (offset : Nat) : Decidable (IsSegment buffer offset) := inferInstanceAs (Decidable (_ ∧ _))

/-- Segments and fill bytes lead to a frame header with a width and a height. -/
inductive Frame : Nat → Nat → Nat → Prop where
  | here {offset width height : Nat} (frame : IsFrame buffer offset)
    (isHeight : readUInt16BE buffer (offset + 5) = .ok height)
    (isWidth : readUInt16BE buffer (offset + 7) = .ok width) : Frame offset width height
  | after {offset length width height : Nat} (marked : buffer[offset]? = some 0xff)
    (segment : IsSegment buffer offset) (long : lengthAt buffer offset = some length)
    (rest : Frame (offset + 2 + length) width height) : Frame offset width height
  | fill {offset width height : Nat} (fill : buffer[offset]? = some 0xff) (again : buffer[offset + 1]? = some 0xff)
    (rest : Frame (offset + 1) width height) : Frame offset width height

/-- The signature of a PNG, and the beginning of its first chunk. -/
def pngStart : Bytes := [0x89, 0x50, 0x4e, 0x47, 0x0d, 0x0a, 0x1a, 0x0a, 0, 0, 0, 13, 0x49, 0x48, 0x44, 0x52]

def IsGif : Prop :=
  bytesAt buffer 0 [0x47, 0x49, 0x46, 0x38, 0x37, 0x61] = true ∨
    bytesAt buffer 0 [0x47, 0x49, 0x46, 0x38, 0x39, 0x61] = true

instance : Decidable (IsGif buffer) := inferInstanceAs (Decidable (_ ∨ _))

/-- The header of a well-formed image, with what it encodes. -/
inductive Header : ImageDimensions → Prop where
  | png {width height : Nat} (start : bytesAt buffer 0 pngStart = true)
    (isWidth : readUInt32BE buffer 16 = .ok width) (isHeight : readUInt32BE buffer 20 = .ok height) :
    Header ⟨width, height, "png"⟩
  | gif {width height : Nat} (start : IsGif buffer) (isWidth : readUInt16LE buffer 6 = .ok width)
    (isHeight : readUInt16LE buffer 8 = .ok height) : Header ⟨width, height, "gif"⟩
  | jpeg {width height : Nat} (start : bytesAt buffer 0 [0xff, 0xd8] = true) (frame : Frame buffer 2 width height) :
    Header ⟨width, height, "jpeg"⟩
  | lossy {width height : Nat} (start : bytesAt buffer 0 [0x52, 0x49, 0x46, 0x46] = true)
    (chunk : bytesAt buffer 8 [0x57, 0x45, 0x42, 0x50, 0x56, 0x50, 0x38, 0x20] = true)
    (code : bytesAt buffer 23 [0x9d, 0x01, 0x2a] = true) (isWidth : readUInt16LE buffer 26 = .ok width)
    (isHeight : readUInt16LE buffer 28 = .ok height) : Header ⟨width % 2 ^ 14, height % 2 ^ 14, "webp"⟩
  | lossless {bits : Nat} (start : bytesAt buffer 0 [0x52, 0x49, 0x46, 0x46] = true)
    (chunk : bytesAt buffer 8 [0x57, 0x45, 0x42, 0x50, 0x56, 0x50, 0x38, 0x4c] = true)
    (code : bytesAt buffer 20 [0x2f] = true) (isBits : readUInt32LE buffer 21 = .ok bits) :
    Header ⟨bits % 2 ^ 14 + 1, bits / 2 ^ 14 % 2 ^ 14 + 1, "webp"⟩

/-- The parser stays within the buffer and returns what a well-formed header encodes, or null. -/
def Parsed : Prop :=
  ∃ result, parseImageDimensions buffer = .ok result ∧ ∀ dimensions, result = some dimensions ↔ Header buffer dimensions

/-- The parser reads a length here, to go on behind it. -/
def Passes (offset : Nat) : Prop :=
  buffer[offset]? = some 0xff ∧ ¬ IsFrame buffer offset ∧
    (buffer[offset + 1]?).any (fun marker => marker != 0xd9 && marker != 0xda) = true

instance (offset : Nat) : Decidable (Passes buffer offset) := inferInstanceAs (Decidable (_ ∧ _ ∧ _))

variable {offset : Nat}

theorem Passes.lt {buffer : Bytes} (passes : Passes buffer offset) : offset < buffer.length :=
  (List.getElem?_eq_some_iff.mp passes.1).1

/-- The offsets at which it reads a length. -/
def segmentsFrom (offset : Nat) : List Nat :=
  if _passes : Passes buffer offset then
    offset :: match lengthAt buffer offset with
      | some length => segmentsFrom (offset + 2 + length)
      | none => []
  else []
termination_by buffer.length - offset
decreasing_by
  have := _passes.lt
  omega

/-- Where it stops. -/
def endFrom (offset : Nat) : Nat :=
  if _passes : Passes buffer offset then
    match lengthAt buffer offset with
    | some length => endFrom (offset + 2 + length)
    | none => offset
  else offset
termination_by buffer.length - offset
decreasing_by
  have := _passes.lt
  omega

/-- The buffer has a frame header where the segments end. -/
def Reaches : Prop := bytesAt buffer 0 [0xff, 0xd8] = true ∧ IsFrame buffer (endFrom buffer 2)

instance : Decidable (Reaches buffer) := inferInstanceAs (Decidable (_ ∧ _))

/-- The frame header of the buffer has the size of the one where the parser stops. -/
def SameSize : Prop :=
  ∃ width height, Frame buffer 2 width height ∧ readUInt16BE buffer (endFrom buffer 2 + 5) = .ok height ∧
    readUInt16BE buffer (endFrom buffer 2 + 7) = .ok width

/-- What the parser takes for a PNG or a GIF is one; the lengths that it reads in a JPEG are there; it stops at a frame
header only behind segments, and at one wherever the buffer has one, unless it comes upon another of the same size; and
nothing else has the names of a WebP, or those that the parser has for them. -/
structure Readable : Prop where
  png : bytesAt buffer 0 [0x89, 0x50, 0x4e, 0x47] = true → 24 ≤ buffer.length → bytesAt buffer 0 pngStart = true
  gif : bytesAt buffer 0 [0x47, 0x49, 0x46] = true → 10 ≤ buffer.length → IsGif buffer
  lengths : bytesAt buffer 0 [0xff, 0xd8] = true → 8 ≤ buffer.length →
    ∀ offset ∈ segmentsFrom buffer 2, offset + 3 < buffer.length
  segments : Reaches buffer → (∀ offset ∈ segmentsFrom buffer 2, IsSegment buffer offset) ∨ SameSize buffer
  filled : bytesAt buffer 0 [0xff, 0xd8] = true → (∃ width height, Frame buffer 2 width height) → Reaches buffer
  noWebp : ∀ dimensions, dimensions.format = "webp" → ¬ Header buffer dimensions
  misnamed : 30 ≤ buffer.length → bytesAt buffer 8 [0x57, 0x45, 0x42, 0x50] = true →
    bytesAt buffer 12 [0x4c, 0x45] = true ∨ bytesAt buffer 12 [0x4c, 0x41] = true →
      bytesAt buffer 0 [0x89, 0x50, 0x4e, 0x47] = true ∨ bytesAt buffer 0 [0x47, 0x49, 0x46] = true ∨ Reaches buffer

end Formats

section Reads
variable {buffer : Bytes} {offset : Nat}

theorem readTwo_ok (combine : UInt8 → UInt8 → Nat) (within : offset + 1 < buffer.length) :
    ∃ value, readTwo combine buffer offset = .ok value := by
  have first : offset < buffer.length := by omega
  simp only [readTwo, List.getElem?_eq_getElem first, List.getElem?_eq_getElem within]
  exact ⟨_, rfl⟩

theorem readTwo_beyond (combine : UInt8 → UInt8 → Nat) (beyond : buffer.length ≤ offset + 1) :
    readTwo combine buffer offset = .error (.outOfRange offset) := by
  rw [readTwo, List.getElem?_eq_none beyond]
  cases buffer[offset]? <;> rfl

theorem lt_of_readTwo {combine : UInt8 → UInt8 → Nat} {value : Nat}
    (read : readTwo combine buffer offset = .ok value) : offset + 1 < buffer.length := by
  by_contra beyond
  rw [readTwo_beyond combine (Nat.not_lt.mp beyond)] at read
  cases read

theorem readUInt32BE_ok (within : offset + 3 < buffer.length) : ∃ value, readUInt32BE buffer offset = .ok value := by
  obtain ⟨high, isHigh⟩ : ∃ high, readUInt16BE buffer offset = .ok high := readTwo_ok _ (by omega)
  obtain ⟨low, isLow⟩ : ∃ low, readUInt16BE buffer (offset + 2) = .ok low := readTwo_ok _ (by omega)
  exact ⟨_, by rw [readUInt32BE, isHigh, isLow]⟩

theorem readUInt32LE_ok (within : offset + 3 < buffer.length) : ∃ value, readUInt32LE buffer offset = .ok value := by
  obtain ⟨low, isLow⟩ : ∃ low, readUInt16LE buffer offset = .ok low := readTwo_ok _ (by omega)
  obtain ⟨high, isHigh⟩ : ∃ high, readUInt16LE buffer (offset + 2) = .ok high := readTwo_ok _ (by omega)
  exact ⟨_, by rw [readUInt32LE, isLow, isHigh]⟩

theorem lt_of_readUInt32BE {value : Nat} (read : readUInt32BE buffer offset = .ok value) :
    offset + 3 < buffer.length := by
  unfold readUInt32BE at read
  split at read
  next high low _ isLow => exact lt_of_readTwo isLow
  next => cases read

theorem lt_of_readUInt32LE {value : Nat} (read : readUInt32LE buffer offset = .ok value) :
    offset + 3 < buffer.length := by
  unfold readUInt32LE at read
  split at read
  next low high _ isHigh => exact lt_of_readTwo isHigh
  next => cases read

theorem lengthAt_eq_some {length : Nat} :
    lengthAt buffer offset = some length ↔ readUInt16BE buffer (offset + 2) = .ok length := by
  unfold lengthAt
  cases readUInt16BE buffer (offset + 2) <;> simp [Except.toOption]

theorem lengthAt_eq_none : lengthAt buffer offset = none ↔ buffer.length ≤ offset + 3 := by
  constructor
  · intro none
    by_contra within
    obtain ⟨length, read⟩ : ∃ length, readUInt16BE buffer (offset + 2) = .ok length := readTwo_ok _ (by omega)
    rw [lengthAt_eq_some.mpr read] at none
    cases none
  · intro beyond
    rw [lengthAt, readUInt16BE, readTwo_beyond _ (by omega)]
    rfl

end Reads

section Walk
variable (buffer : Bytes)

/-- The size that a frame header gives. -/
def sizeAt (offset : Nat) : Except RangeError (Option (Nat × Nat)) := do
  let height ← readUInt16BE buffer (offset + 5)
  let width ← readUInt16BE buffer (offset + 7)
  pure (some (width, height))

theorem segmentsFrom_stop (stops : ¬ Passes buffer offset) : segmentsFrom buffer offset = [] := by
  rw [segmentsFrom, dif_neg stops]

theorem endFrom_stop (stops : ¬ Passes buffer offset) : endFrom buffer offset = offset := by
  rw [endFrom, dif_neg stops]

theorem segmentsFrom_pass {offset length : Nat} (passes : Passes buffer offset)
    (long : lengthAt buffer offset = some length) :
    segmentsFrom buffer offset = offset :: segmentsFrom buffer (offset + 2 + length) := by
  rw [segmentsFrom, dif_pos passes, long]

theorem endFrom_pass {offset length : Nat} (passes : Passes buffer offset)
    (long : lengthAt buffer offset = some length) : endFrom buffer offset = endFrom buffer (offset + 2 + length) := by
  rw [endFrom, dif_pos passes, long]

theorem segmentsFrom_cut (passes : Passes buffer offset) (cut : lengthAt buffer offset = none) :
    segmentsFrom buffer offset = [offset] := by
  rw [segmentsFrom, dif_pos passes, cut]

theorem endFrom_cut (passes : Passes buffer offset) (cut : lengthAt buffer offset = none) :
    endFrom buffer offset = offset := by
  rw [endFrom, dif_pos passes, cut]

theorem jpegSegments_step (offset : Nat) : jpegSegments buffer offset =
    if IsFrame buffer offset then sizeAt buffer offset
    else if Passes buffer offset then
      match readUInt16BE buffer (offset + 2) with
      | .ok length => jpegSegments buffer (offset + 2 + length)
      | .error failure => .error failure
    else .ok none := by
  conv_lhs => rw [jpegSegments]
  cases first : buffer[offset]? with
  | none =>
    have beyond : ¬ offset + 1 < buffer.length := by
      have := List.getElem?_eq_none_iff.mp first
      omega
    have noFrame : ¬ IsFrame buffer offset := fun frame => nomatch first.symm.trans frame.1
    have stops : ¬ Passes buffer offset := fun passes => nomatch first.symm.trans passes.1
    rw [if_neg beyond, if_neg noFrame, if_neg stops]
    rfl
  | some start =>
    cases second : buffer[offset + 1]? with
    | none =>
      have beyond : ¬ offset + 1 < buffer.length := Nat.not_lt.mpr (List.getElem?_eq_none_iff.mp second)
      have noFrame : ¬ IsFrame buffer offset := fun frame => by simpa [second] using frame.2.1
      have stops : ¬ Passes buffer offset := fun passes => by simpa [second] using passes.2.2
      rw [if_neg beyond, if_neg noFrame, if_neg stops]
      rfl
    | some marker =>
      rw [if_pos (List.getElem?_eq_some_iff.mp second).1]
      by_cases marked : start = 0xff
      · subst marked
        have isFrame : IsFrame buffer offset ↔ isFrameMarker marker = true ∧ offset + 9 < buffer.length := by
          simp [IsFrame, first, second]
        have isPassed : Passes buffer offset ↔ ¬ IsFrame buffer offset ∧ ¬ (marker = 0xd9 ∨ marker = 0xda) := by
          simp [Passes, first, second]
        by_cases frame : IsFrame buffer offset
        · rw [if_pos frame]
          exact if_pos (isFrame.mp frame)
        · rw [if_neg frame]
          refine (if_neg (fun here => frame (isFrame.mpr here))).trans ?_
          by_cases closing : marker = 0xd9 ∨ marker = 0xda
          · rw [if_pos closing, if_neg fun passes => (isPassed.mp passes).2 closing]
            rfl
          · refine (if_neg closing).trans (.trans ?_ (if_pos (isPassed.mpr ⟨frame, closing⟩)).symm)
            cases readUInt16BE buffer (offset + 2) <;> rfl
      · have noFrame : ¬ IsFrame buffer offset := fun frame => marked (Option.some.inj (first.symm.trans frame.1))
        have stops : ¬ Passes buffer offset := fun passes => marked (Option.some.inj (first.symm.trans passes.1))
        rw [if_neg noFrame, if_neg stops]
        split
        next same _ => exact absurd (Option.some.inj same) marked
        next => rfl

theorem jpegSegments_eq (offset : Nat) : jpegSegments buffer offset =
    if ∀ segment ∈ segmentsFrom buffer offset, segment + 3 < buffer.length then
      if IsFrame buffer (endFrom buffer offset) then sizeAt buffer (endFrom buffer offset) else .ok none
    else .error (.outOfRange (endFrom buffer offset + 2)) := by
  rw [jpegSegments_step]
  by_cases passes : Passes buffer offset
  · rw [if_neg passes.2.1, if_pos passes]
    cases long : lengthAt buffer offset with
    | none =>
      have beyond := lengthAt_eq_none.mp long
      have cut : readUInt16BE buffer (offset + 2) = .error (.outOfRange (offset + 2)) := readTwo_beyond _ (by omega)
      have missing : ¬ ∀ segment ∈ segmentsFrom buffer offset, segment + 3 < buffer.length := by
        rw [segmentsFrom_cut buffer passes long, List.forall_mem_singleton]
        omega
      rw [if_neg missing, endFrom_cut buffer passes long, cut]
    | some length =>
      have present : offset + 3 < buffer.length := by
        by_contra beyond
        rw [lengthAt_eq_none.mpr (Nat.not_lt.mp beyond)] at long
        cases long
      have rest := jpegSegments_eq (offset + 2 + length)
      rw [lengthAt_eq_some.mp long, segmentsFrom_pass buffer passes long, endFrom_pass buffer passes long]
      simpa only [List.forall_mem_cons, present, true_and] using rest
  · rw [if_neg passes, segmentsFrom_stop buffer passes, endFrom_stop buffer passes, if_pos (List.forall_mem_nil _)]
termination_by buffer.length - offset
decreasing_by
  have := passes.lt
  omega

/-- A frame header stands where the segments end, and all of them are segments. -/
theorem frame_of_segments {width height : Nat} (offset : Nat) (frame : IsFrame buffer (endFrom buffer offset))
    (segments : ∀ segment ∈ segmentsFrom buffer offset, IsSegment buffer segment)
    (isHeight : readUInt16BE buffer (endFrom buffer offset + 5) = .ok height)
    (isWidth : readUInt16BE buffer (endFrom buffer offset + 7) = .ok width) : Frame buffer offset width height := by
  by_cases passes : Passes buffer offset
  · cases long : lengthAt buffer offset with
    | none =>
      rw [endFrom_cut buffer passes long] at frame
      exact absurd frame passes.2.1
    | some length =>
      rw [endFrom_pass buffer passes long] at frame isHeight isWidth
      rw [segmentsFrom_pass buffer passes long, List.forall_mem_cons] at segments
      exact .after passes.1 segments.1 long
        (frame_of_segments (offset + 2 + length) frame segments.2 isHeight isWidth)
  · rw [endFrom_stop buffer passes] at frame isHeight isWidth
    exact .here frame isHeight isWidth
termination_by buffer.length - offset
decreasing_by
  have := passes.lt
  omega

variable {buffer} {width height : Nat}

theorem IsFrame.not_segment (frame : IsFrame buffer offset) : ¬ IsSegment buffer offset := by
  rintro ⟨segment, -⟩
  obtain ⟨-, framed, -⟩ := frame
  cases isMarker : buffer[offset + 1]? with
  | none =>
    rw [isMarker] at segment
    cases segment
  | some marker =>
    rw [isMarker, Option.any_some] at segment framed
    simp [isSegmentMarker, framed] at segment

theorem not_segment_fill (again : buffer[offset + 1]? = some 0xff) : ¬ IsSegment buffer offset := by
  rintro ⟨segment, -⟩
  rw [again] at segment
  exact absurd segment (by decide)

theorem IsFrame.not_fill (frame : IsFrame buffer offset) : buffer[offset + 1]? ≠ some 0xff := by
  intro again
  have framed := frame.2.1
  rw [again] at framed
  exact absurd framed (by decide)

/-- A buffer has one frame header at most. -/
theorem Frame.unique (frame : Frame buffer offset width height) :
    ∀ {width' height' : Nat}, Frame buffer offset width' height' → width' = width ∧ height' = height := by
  induction frame with
  | here frame isHeight isWidth =>
    intro _ _ other
    cases other with
    | here _ hasHeight hasWidth =>
      cases isHeight.symm.trans hasHeight
      cases isWidth.symm.trans hasWidth
      exact ⟨rfl, rfl⟩
    | after _ segment => exact absurd segment frame.not_segment
    | fill _ again => exact absurd again frame.not_fill
  | after _ segment long _ ih =>
    intro _ _ other
    cases other with
    | here frame => exact absurd segment frame.not_segment
    | after _ _ isLong rest =>
      cases long.symm.trans isLong
      exact ih rest
    | fill _ again => exact absurd segment (not_segment_fill again)
  | fill _ again _ ih =>
    intro _ _ other
    cases other with
    | here frame => exact absurd again frame.not_fill
    | after _ segment => exact absurd segment (not_segment_fill again)
    | fill _ _ rest => exact ih rest

theorem Frame.long (frame : Frame buffer offset width height) : 10 ≤ buffer.length := by
  induction frame with
  | here frame =>
    have := frame.2.2
    omega
  | after _ _ _ _ ih => exact ih
  | fill _ _ _ ih => exact ih

end Walk

section Beginnings
variable {buffer : Bytes} {offset : Nat} {dimensions : ImageDimensions}

theorem Header.long (header : Header buffer dimensions) : 10 ≤ buffer.length := by
  cases header with
  | png _ _ isHeight =>
    have := lt_of_readUInt32BE isHeight
    omega
  | gif _ _ isHeight => exact lt_of_readTwo isHeight
  | jpeg _ frame => exact frame.long
  | lossy _ _ _ _ isHeight =>
    have := lt_of_readTwo isHeight
    omega
  | lossless _ _ _ isBits =>
    have := lt_of_readUInt32LE isBits
    omega

theorem header_of_png (start : bytesAt buffer 0 [0x89, 0x50, 0x4e, 0x47] = true)
    (header : Header buffer dimensions) :
    bytesAt buffer 0 pngStart = true ∧
      ∃ width height, readUInt32BE buffer 16 = .ok width ∧ readUInt32BE buffer 20 = .ok height ∧
        dimensions = ⟨width, height, "png"⟩ := by
  cases header with
  | png whole isWidth isHeight => exact ⟨whole, _, _, isWidth, isHeight, rfl⟩
  | gif gif => rcases gif with gif | gif <;> exact absurd (bytesAt_apart start gif) (by decide)
  | jpeg jpeg => exact absurd (bytesAt_apart start jpeg) (by decide)
  | lossy riff => exact absurd (bytesAt_apart start riff) (by decide)
  | lossless riff => exact absurd (bytesAt_apart start riff) (by decide)

theorem header_of_jpeg (start : bytesAt buffer 0 [0xff, 0xd8] = true) (header : Header buffer dimensions) :
    ∃ width height, Frame buffer 2 width height ∧ dimensions = ⟨width, height, "jpeg"⟩ := by
  cases header with
  | png whole => exact absurd (bytesAt_apart start whole) (by decide)
  | gif gif => rcases gif with gif | gif <;> exact absurd (bytesAt_apart start gif) (by decide)
  | jpeg _ frame => exact ⟨_, _, frame, rfl⟩
  | lossy riff => exact absurd (bytesAt_apart start riff) (by decide)
  | lossless riff => exact absurd (bytesAt_apart start riff) (by decide)

theorem header_of_gif (start : bytesAt buffer 0 [0x47, 0x49, 0x46] = true) (header : Header buffer dimensions) :
    IsGif buffer ∧
      ∃ width height, readUInt16LE buffer 6 = .ok width ∧ readUInt16LE buffer 8 = .ok height ∧
        dimensions = ⟨width, height, "gif"⟩ := by
  cases header with
  | png whole => exact absurd (bytesAt_apart start whole) (by decide)
  | gif gif isWidth isHeight => exact ⟨gif, _, _, isWidth, isHeight, rfl⟩
  | jpeg jpeg => exact absurd (bytesAt_apart start jpeg) (by decide)
  | lossy riff => exact absurd (bytesAt_apart start riff) (by decide)
  | lossless riff => exact absurd (bytesAt_apart start riff) (by decide)

/-- The names that the parser has for the chunks of a WebP. -/
def Misnamed (buffer : Bytes) : Prop :=
  30 ≤ buffer.length ∧ bytesAt buffer 8 [0x57, 0x45, 0x42, 0x50] = true ∧
    (bytesAt buffer 12 [0x4c, 0x45] = true ∨ bytesAt buffer 12 [0x4c, 0x41] = true)

theorem webp_named (header : Header buffer dimensions) (isWebp : dimensions.format = "webp") : ¬ Misnamed buffer :=
    by
  rintro ⟨-, -, named⟩
  have webp : bytesAt buffer 12 [0x56, 0x50, 0x38] = true := by
    cases header with
    | png => exact absurd isWebp (by simp)
    | gif => exact absurd isWebp (by simp)
    | jpeg => exact absurd isWebp (by simp)
    | lossy _ chunk =>
      exact bytesAt_mono (by decide) (bytesAt_drop [0x57, 0x45, 0x42, 0x50] chunk)
    | lossless _ chunk =>
      exact bytesAt_mono (by decide) (bytesAt_drop [0x57, 0x45, 0x42, 0x50] chunk)
  rcases named with named | named <;> exact absurd (bytesAt_apart webp named) (by decide)

theorem parseWebpDimensions_none (named : ¬ Misnamed buffer) : parseWebpDimensions buffer = .ok none := by
  unfold parseWebpDimensions
  split
  next webp =>
    split
    next lossy => exact absurd ⟨webp.1, webp.2, .inl lossy⟩ named
    next =>
      split
      next lossless => exact absurd ⟨webp.1, webp.2, .inr lossless⟩ named
      next => rfl
  next => rfl

theorem parseWebpDimensions_some (misnamed : Misnamed buffer) :
    ∃ dimensions, parseWebpDimensions buffer = .ok (some dimensions) ∧ dimensions.format = "webp" := by
  obtain ⟨long, webp, named⟩ := misnamed
  unfold parseWebpDimensions
  rw [if_pos ⟨long, webp⟩]
  split
  next =>
    obtain ⟨width, isWidth⟩ : ∃ width, readUInt16LE buffer 26 = .ok width := readTwo_ok _ (by omega)
    obtain ⟨height, isHeight⟩ : ∃ height, readUInt16LE buffer 28 = .ok height := readTwo_ok _ (by omega)
    rw [isWidth, isHeight]
    exact ⟨_, rfl, rfl⟩
  next notLossy =>
    obtain ⟨bits, isBits⟩ : ∃ bits, readUInt32LE buffer 21 = .ok bits := readUInt32LE_ok (by omega)
    rw [if_pos (named.resolve_left notLossy), isBits]
    exact ⟨_, rfl, rfl⟩

end Beginnings

section Parser
variable {buffer : Bytes}

theorem parsed_short (short : buffer.length < 8) : Parsed buffer ∧ Readable buffer := by
  have none : ∀ dimensions, ¬ Header buffer dimensions := fun dimensions header => by
    have := header.long
    omega
  constructor
  · exact ⟨_, if_pos short, fun dimensions => iff_of_false (fun same => nomatch same) (none dimensions)⟩
  · constructor
    · intro _ long
      omega
    · intro _ long
      omega
    · intro _ long
      omega
    · intro reaches
      have := reaches.2.2.2
      omega
    · rintro start ⟨width, height, frame⟩
      exact absurd (.jpeg start frame) (none ⟨width, height, "jpeg"⟩)
    · exact fun dimensions _ => none dimensions
    · intro long
      omega

theorem parsed_png (start : bytesAt buffer 0 [0x89, 0x50, 0x4e, 0x47] = true) (long : 24 ≤ buffer.length) :
    Parsed buffer ↔ Readable buffer := by
  obtain ⟨width, isWidth⟩ : ∃ width, readUInt32BE buffer 16 = .ok width := readUInt32BE_ok (by omega)
  obtain ⟨height, isHeight⟩ : ∃ height, readUInt32BE buffer 20 = .ok height := readUInt32BE_ok (by omega)
  have answer : parseImageDimensions buffer = .ok (some ⟨width, height, "png"⟩) := by
    rw [parseImageDimensions, if_neg (by omega), if_pos ⟨start, long⟩, isWidth, isHeight]
    rfl
  constructor
  · rintro ⟨result, parsed, exactly⟩
    rw [answer] at parsed
    cases parsed
    obtain ⟨whole, -⟩ := header_of_png start ((exactly _).mp rfl)
    constructor
    · exact fun _ _ => whole
    · exact fun gif => absurd (bytesAt_apart start gif) (by decide)
    · exact fun jpeg => absurd (bytesAt_apart start jpeg) (by decide)
    · exact fun reaches => absurd (bytesAt_apart start reaches.1) (by decide)
    · exact fun jpeg => absurd (bytesAt_apart start jpeg) (by decide)
    · intro dimensions isWebp header
      obtain ⟨-, _, _, -, -, rfl⟩ := header_of_png start header
      exact absurd isWebp (by simp)
    · exact fun _ _ _ => .inl start
  · intro readable
    refine ⟨_, answer, fun dimensions => ⟨?_, fun header => ?_⟩⟩
    · rintro ⟨rfl⟩
      exact .png (readable.png start long) isWidth isHeight
    · obtain ⟨-, _, _, hasWidth, hasHeight, rfl⟩ := header_of_png start header
      rw [isWidth] at hasWidth
      rw [isHeight] at hasHeight
      cases hasWidth
      cases hasHeight
      rfl

theorem parsed_gif (start : bytesAt buffer 0 [0x47, 0x49, 0x46] = true) (long : 10 ≤ buffer.length) :
    Parsed buffer ↔ Readable buffer := by
  obtain ⟨width, isWidth⟩ : ∃ width, readUInt16LE buffer 6 = .ok width := readTwo_ok _ (by omega)
  obtain ⟨height, isHeight⟩ : ∃ height, readUInt16LE buffer 8 = .ok height := readTwo_ok _ (by omega)
  have notPng : ¬ bytesAt buffer 0 [0x89, 0x50, 0x4e, 0x47] = true := fun png =>
    absurd (bytesAt_apart start png) (by decide)
  have notJpeg : ¬ bytesAt buffer 0 [0xff, 0xd8] = true := fun jpeg => absurd (bytesAt_apart start jpeg) (by decide)
  have answer : parseImageDimensions buffer = .ok (some ⟨width, height, "gif"⟩) := by
    rw [parseImageDimensions, if_neg (by omega), if_neg fun png => notPng png.1, if_neg notJpeg, parseGifDimensions,
      if_pos ⟨start, long⟩, isWidth, isHeight]
    rfl
  constructor
  · rintro ⟨result, parsed, exactly⟩
    rw [answer] at parsed
    cases parsed
    obtain ⟨gif, -⟩ := header_of_gif start ((exactly _).mp rfl)
    constructor
    · exact fun png => absurd png notPng
    · exact fun _ _ => gif
    · exact fun jpeg => absurd jpeg notJpeg
    · exact fun reaches => absurd reaches.1 notJpeg
    · exact fun jpeg => absurd jpeg notJpeg
    · intro dimensions isWebp header
      obtain ⟨-, _, _, -, -, rfl⟩ := header_of_gif start header
      exact absurd isWebp (by simp)
    · exact fun _ _ _ => .inr (.inl start)
  · intro readable
    refine ⟨_, answer, fun dimensions => ⟨?_, fun header => ?_⟩⟩
    · rintro ⟨rfl⟩
      exact .gif (readable.gif start long) isWidth isHeight
    · obtain ⟨-, _, _, hasWidth, hasHeight, rfl⟩ := header_of_gif start header
      rw [isWidth] at hasWidth
      rw [isHeight] at hasHeight
      cases hasWidth
      cases hasHeight
      rfl

theorem parse_of_jpeg (start : bytesAt buffer 0 [0xff, 0xd8] = true) (long : 8 ≤ buffer.length)
    (notPng : ¬ bytesAt buffer 0 [0x89, 0x50, 0x4e, 0x47] = true) :
    parseImageDimensions buffer = (parseJpegDimensions buffer >>= fun found =>
      found.elim (parseGifDimensions buffer) fun size => pure (some ⟨size.1, size.2, "jpeg"⟩)) := by
  rw [parseImageDimensions, if_neg (by omega), if_neg fun png => notPng png.1, if_pos start]
  rcases parseJpegDimensions buffer with _ | _ | _ <;> rfl

theorem parsed_jpeg (start : bytesAt buffer 0 [0xff, 0xd8] = true) (long : 8 ≤ buffer.length) :
    Parsed buffer ↔ Readable buffer := by
  have notPng : ¬ bytesAt buffer 0 [0x89, 0x50, 0x4e, 0x47] = true := fun png =>
    absurd (bytesAt_apart start png) (by decide)
  have notGif : ¬ bytesAt buffer 0 [0x47, 0x49, 0x46] = true := fun gif => absurd (bytesAt_apart start gif) (by decide)
  have noWebp : ∀ dimensions, dimensions.format = "webp" → ¬ Header buffer dimensions := by
    intro dimensions isWebp header
    obtain ⟨_, _, -, rfl⟩ := header_of_jpeg start header
    exact absurd isWebp (by simp)
  have begins := parse_of_jpeg start long notPng
  rw [parseJpegDimensions, jpegSegments_eq] at begins
  by_cases lengths : ∀ segment ∈ segmentsFrom buffer 2, segment + 3 < buffer.length
  · rw [if_pos lengths] at begins
    by_cases frame : IsFrame buffer (endFrom buffer 2)
    · obtain ⟨height, isHeight⟩ : ∃ height, readUInt16BE buffer (endFrom buffer 2 + 5) = .ok height :=
        readTwo_ok _ (by have := frame.2.2; omega)
      obtain ⟨width, isWidth⟩ : ∃ width, readUInt16BE buffer (endFrom buffer 2 + 7) = .ok width :=
        readTwo_ok _ (by have := frame.2.2; omega)
      have answer : parseImageDimensions buffer = .ok (some ⟨width, height, "jpeg"⟩) := by
        rw [begins, if_pos frame, sizeAt, isHeight, isWidth]
        rfl
      constructor
      · rintro ⟨result, parsed, exactly⟩
        rw [answer] at parsed
        cases parsed
        obtain ⟨_, _, framed, isSize⟩ := header_of_jpeg start ((exactly _).mp rfl)
        cases isSize
        constructor
        · exact fun png => absurd png notPng
        · exact fun gif => absurd gif notGif
        · exact fun _ _ => lengths
        · exact fun _ => .inr ⟨_, _, framed, isHeight, isWidth⟩
        · exact fun _ _ => ⟨start, frame⟩
        · exact noWebp
        · exact fun _ _ _ => .inr (.inr ⟨start, frame⟩)
      · intro readable
        have framed : Frame buffer 2 width height := by
          rcases readable.segments ⟨start, frame⟩ with segments | ⟨_, _, framed, hasHeight, hasWidth⟩
          · exact frame_of_segments buffer 2 frame segments isHeight isWidth
          · cases isHeight.symm.trans hasHeight
            cases isWidth.symm.trans hasWidth
            exact framed
        refine ⟨_, answer, fun dimensions => ⟨?_, fun header => ?_⟩⟩
        · rintro ⟨rfl⟩
          exact .jpeg start framed
        · obtain ⟨_, _, other, rfl⟩ := header_of_jpeg start header
          obtain ⟨rfl, rfl⟩ := framed.unique other
          rfl
    · have answer : parseImageDimensions buffer = parseWebpDimensions buffer := by
        rw [begins, if_neg frame]
        exact if_neg fun gif => notGif gif.1
      constructor
      · rintro ⟨result, parsed, exactly⟩
        rw [answer] at parsed
        have named : ¬ Misnamed buffer := by
          intro misnamed
          obtain ⟨dimensions, some, isWebp⟩ := parseWebpDimensions_some misnamed
          rw [some] at parsed
          cases parsed
          exact noWebp dimensions isWebp ((exactly dimensions).mp rfl)
        rw [parseWebpDimensions_none named] at parsed
        cases parsed
        constructor
        · exact fun png => absurd png notPng
        · exact fun gif => absurd gif notGif
        · exact fun _ _ => lengths
        · exact fun reaches => absurd reaches.2 frame
        · rintro _ ⟨width, height, framed⟩
          cases (exactly ⟨width, height, "jpeg"⟩).mpr (.jpeg start framed)
        · exact noWebp
        · exact fun size webp names => absurd ⟨size, webp, names⟩ named
      · intro readable
        have named : ¬ Misnamed buffer := by
          rintro ⟨size, webp, named⟩
          rcases readable.misnamed size webp named with png | gif | reaches
          · exact notPng png
          · exact notGif gif
          · exact frame reaches.2
        refine ⟨none, by rw [answer, parseWebpDimensions_none named], fun dimensions => iff_of_false (by simp) ?_⟩
        intro header
        obtain ⟨width, height, framed, -⟩ := header_of_jpeg start header
        exact frame (readable.filled start ⟨width, height, framed⟩).2
  · rw [if_neg lengths] at begins
    refine iff_of_false ?_ fun readable => lengths (readable.lengths start long)
    rintro ⟨result, parsed, -⟩
    rw [begins] at parsed
    cases parsed

theorem parsed_rest (long : 8 ≤ buffer.length)
    (notPng : ¬ (bytesAt buffer 0 [0x89, 0x50, 0x4e, 0x47] = true ∧ 24 ≤ buffer.length))
    (notJpeg : ¬ bytesAt buffer 0 [0xff, 0xd8] = true)
    (notGif : ¬ (bytesAt buffer 0 [0x47, 0x49, 0x46] = true ∧ 10 ≤ buffer.length)) :
    Parsed buffer ↔ Readable buffer := by
  have answer : parseImageDimensions buffer = parseWebpDimensions buffer := by
    rw [parseImageDimensions, if_neg (by omega), if_neg notPng, if_neg notJpeg]
    exact if_neg notGif
  have isWebp : ∀ dimensions, Header buffer dimensions → dimensions.format = "webp" := by
    intro dimensions header
    have size := header.long
    cases header with
    | png whole _ isHeight =>
      have := lt_of_readUInt32BE isHeight
      exact absurd ⟨bytesAt_mono (by decide) whole, by omega⟩ notPng
    | gif gif =>
      refine absurd ⟨?_, size⟩ notGif
      rcases gif with gif | gif <;> exact bytesAt_mono (by decide) gif
    | jpeg jpeg => exact absurd jpeg notJpeg
    | lossy => rfl
    | lossless => rfl
  constructor
  · rintro ⟨result, parsed, exactly⟩
    rw [answer] at parsed
    have named : ¬ Misnamed buffer := by
      intro misnamed
      obtain ⟨dimensions, some, _⟩ := parseWebpDimensions_some misnamed
      rw [some] at parsed
      cases parsed
      have header := (exactly dimensions).mp rfl
      exact webp_named header (isWebp dimensions header) misnamed
    rw [parseWebpDimensions_none named] at parsed
    cases parsed
    constructor
    · exact fun png size => absurd ⟨png, size⟩ notPng
    · exact fun gif size => absurd ⟨gif, size⟩ notGif
    · exact fun jpeg => absurd jpeg notJpeg
    · exact fun reaches => absurd reaches.1 notJpeg
    · exact fun jpeg => absurd jpeg notJpeg
    · exact fun dimensions _ header => nomatch (exactly dimensions).mpr header
    · exact fun size webp names => absurd ⟨size, webp, names⟩ named
  · intro readable
    have named : ¬ Misnamed buffer := by
      rintro ⟨size, webp, named⟩
      rcases readable.misnamed size webp named with png | gif | reaches
      · exact notPng ⟨png, by omega⟩
      · exact notGif ⟨gif, by omega⟩
      · exact notJpeg reaches.1
    exact ⟨none, by rw [answer, parseWebpDimensions_none named], fun dimensions =>
      iff_of_false (fun same => nomatch same) fun header => readable.noWebp dimensions (isWebp dimensions header) header⟩

end Parser

example : Frame [0xff, 0xd8, 0xff, 0xff, 0xc0, 0, 11, 8, 0, 1, 0, 2, 3] 2 2 1 := .fill rfl rfl (.here (by decide) rfl rfl)

end AlianStructure.Guarantees.ImageHeaders
