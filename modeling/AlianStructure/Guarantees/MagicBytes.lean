import AlianStructure.Source.Files.FileRuntime

/-!
# The signatures of the allowed formats

Source: src/infrastructure/file-upload/services/file-validation.service.ts:119-197,228-297. The detector takes every RIFF
file for WebM unless it is a WebP, every ZIP for a plain one and every box named ftyp for MP4, while WAV, AVI, the office
formats, AVIF and QuickTime are allowed under their own types; and most of the allowed formats it does not know.
-/
namespace AlianStructure.Guarantees.MagicBytes
open Library.PathResolution Source.Files FileValidationService

/-! ## The formats -/

/-- What stands at which offsets. -/
abbrev Signature := List (Nat × Bytes)

def stands (buffer : Bytes) (signature : Signature) : Bool := signature.all fun part => bytesAt buffer part.1 part.2

def riff : Bytes := [0x52, 0x49, 0x46, 0x46]
def webp : Bytes := [0x57, 0x45, 0x42, 0x50]
def ftyp : Bytes := [0x66, 0x74, 0x79, 0x70]
def zipped : Signature := [(0, [0x50, 0x4b, 0x03, 0x04])]
def compound : Signature := [(0, [0xd0, 0xcf, 0x11, 0xe0, 0xa1, 0xb1, 0x1a, 0xe1])]
def ebml : Signature := [(0, [0x1a, 0x45, 0xdf, 0xa3])]
def ogg : Signature := [(0, [0x4f, 0x67, 0x67, 0x53])]

/-- The standard signatures of the allowed types; the types of texts have none. -/
def signatures : List (String × List Signature) :=
  [("image/jpeg", [[(0, [0xff, 0xd8, 0xff])]]),
    ("image/png", [[(0, [0x89, 0x50, 0x4e, 0x47, 0x0d, 0x0a, 0x1a, 0x0a])]]),
    ("image/gif", [[(0, [0x47, 0x49, 0x46, 0x38, 0x37, 0x61])], [(0, [0x47, 0x49, 0x46, 0x38, 0x39, 0x61])]]),
    ("image/webp", [[(0, riff), (8, webp)]]),
    ("image/tiff", [[(0, [0x49, 0x49, 0x2a, 0x00])], [(0, [0x4d, 0x4d, 0x00, 0x2a])]]),
    ("image/bmp", [[(0, [0x42, 0x4d])]]),
    ("image/avif", [[(4, ftyp ++ [0x61, 0x76, 0x69, 0x66])], [(4, ftyp ++ [0x61, 0x76, 0x69, 0x73])]]),
    ("application/pdf", [[(0, [0x25, 0x50, 0x44, 0x46, 0x2d])]]),
    ("application/msword", [compound]),
    ("application/vnd.openxmlformats-officedocument.wordprocessingml.document", [zipped]),
    ("application/vnd.ms-excel", [compound]),
    ("application/vnd.openxmlformats-officedocument.spreadsheetml.sheet", [zipped]),
    ("application/vnd.ms-powerpoint", [compound]),
    ("application/vnd.openxmlformats-officedocument.presentationml.presentation", [zipped]),
    ("video/mp4", [[(4, ftyp)]]),
    ("video/webm", [ebml]),
    ("video/ogg", [ogg]),
    ("video/quicktime", [[(4, ftyp ++ [0x71, 0x74, 0x20, 0x20])]]),
    ("video/x-msvideo", [[(0, riff), (8, [0x41, 0x56, 0x49, 0x20])]]),
    ("video/x-matroska", [ebml]),
    ("audio/mpeg", [[(0, [0x49, 0x44, 0x33])], [(0, [0xff, 0xfb])], [(0, [0xff, 0xf3])], [(0, [0xff, 0xf2])]]),
    ("audio/wav", [[(0, riff), (8, [0x57, 0x41, 0x56, 0x45])]]),
    ("audio/ogg", [ogg]),
    ("audio/webm", [ebml]),
    ("audio/aac", [[(0, [0xff, 0xf1])], [(0, [0xff, 0xf9])]]),
    ("audio/flac", [[(0, [0x66, 0x4c, 0x61, 0x43])]]),
    ("audio/mp4", [[(4, ftyp ++ [0x4d, 0x34, 0x41, 0x20])]]),
    ("application/zip", [zipped, [(0, [0x50, 0x4b, 0x05, 0x06])], [(0, [0x50, 0x4b, 0x07, 0x08])]]),
    ("application/x-tar", [[(257, [0x75, 0x73, 0x74, 0x61, 0x72])]]),
    ("application/gzip", [[(0, [0x1f, 0x8b])]]),
    ("application/x-rar-compressed", [[(0, [0x52, 0x61, 0x72, 0x21, 0x1a, 0x07])]]),
    ("application/x-7z-compressed", [[(0, [0x37, 0x7a, 0xbc, 0xaf, 0x27, 0x1c])]]),
    ("application/x-bzip2", [[(0, [0x42, 0x5a, 0x68])]])]

/-- The content starts with a signature of the type. -/
def startsAs (mimeType : String) (buffer : Bytes) : Bool :=
  signatures.any fun format => format.1 == mimeType && format.2.any (stands buffer)

section Meaning
variable (config : FileConfig) (file : MulterFile)

/-- The size is within the limit, and no part of the name is a blocked extension. -/
structure Fine : Prop where
  filled : 0 < file.size
  limited : file.size ≤ config.maxFileSize
  unblocked : ∀ part ∈ (split '.' file.originalname).tail, lowered part ∉ blockedExtensions

/-- A file with a signature of its type is accepted, and one that starts as another format and not as its own is not. -/
structure Agrees : Prop where
  accepted : Fine config file → startsAs file.mimetype file.buffer = true → validate config file = []
  rejected : ∀ other, startsAs other file.buffer = true → startsAs file.mimetype file.buffer = false →
    validate config file ≠ []

/-! ## What the detector goes by -/

/-- The beginnings that it knows, with what it says of them. -/
def beginnings : List (String × Bytes) :=
  [("image/jpeg", [0xff, 0xd8, 0xff]), ("image/png", [0x89, 0x50, 0x4e, 0x47]), ("image/gif", [0x47, 0x49, 0x46]),
    ("video/webm", riff), ("application/pdf", [0x25, 0x50, 0x44]), ("application/zip", [0x50, 0x4b, 0x03]),
    ("application/gzip", [0x1f, 0x8b, 0x08])]

/-- The content begins in one of these ways. -/
def headed (buffer : Bytes) : Bool := 4 ≤ buffer.length && beginnings.any fun start => bytesAt buffer 0 start.2

/-- The box that it takes for the one of an MP4. -/
def branded (buffer : Bytes) : Bool := 8 < buffer.length && bytesAt buffer 4 ftyp

/-- The allowed types whose signatures it takes for those of other types. -/
def misread : List String :=
  ["image/avif", "application/vnd.openxmlformats-officedocument.wordprocessingml.document",
    "application/vnd.openxmlformats-officedocument.spreadsheetml.sheet",
    "application/vnd.openxmlformats-officedocument.presentationml.presentation", "video/quicktime", "video/x-msvideo",
    "audio/wav", "audio/mp4"]

/-- The detector has no other format for the content: the type is not misread, a WebP is longer than its signature, an
MP4 or a tar archive does not begin in a known way, and nothing but an MP4 has its box behind an unknown beginning. -/
structure Undisputed (mimeType : String) (buffer : Bytes) : Prop where
  unlike : mimeType ∉ misread
  webpLong : mimeType = "image/webp" → 12 < buffer.length
  anywhere : mimeType = "video/mp4" ∨ mimeType = "application/x-tar" → headed buffer = false
  unbranded : mimeType ≠ "video/mp4" → branded buffer = true → headed buffer = true

/-- The detector has another format for the content: there is something that it knows, and not what it takes for the
declared type without its being one. -/
structure Disputed (mimeType : String) (buffer : Bytes) : Prop where
  known : headed buffer = true ∨ branded buffer = true
  unlike : ∀ start ∈ beginnings, start.1 = mimeType → bytesAt buffer 0 start.2 = true →
    mimeType = "video/webm" ∧ 12 < buffer.length ∧ bytesAt buffer 8 webp = true

/-- The checks besides the one of the content. -/
structure Passes : Prop where
  limited : file.size ≤ config.maxFileSize
  filled : file.size ≠ 0
  extension : lowered (extractExtension file.originalname) ∉ blockedExtensions
  allowed : categorizeFile file.mimetype ≠ .other
  double : 2 < (split '.' file.originalname).length →
    lowered ((split '.' file.originalname).getD ((split '.' file.originalname).length - 2) []) ∉ blockedExtensions

/-- The detector disputes what starts as another format that passes the other checks, and nothing that starts as its
own. -/
structure Recognised : Prop where
  own : Fine config file → startsAs file.mimetype file.buffer = true → Undisputed file.mimetype file.buffer
  other : ∀ other, startsAs other file.buffer = true → startsAs file.mimetype file.buffer = false →
    Passes config file → Disputed file.mimetype file.buffer

end Meaning

section Detector
variable {buffer : Bytes} {mimeType : String}

theorem clash {first second : Bytes} {offset : Nat} (one : bytesAt buffer offset first = true)
    (two : bytesAt buffer offset second = true)
    (apart : (first.isPrefixOf second || second.isPrefixOf first) = false) : False := by
  rcases bytesAt_apart one two with h | h <;> simp [h] at apart

theorem length_of_bytesAt {bytes : Bytes} {offset : Nat} (here : bytesAt buffer offset bytes = true)
    (some : bytes ≠ []) : offset + bytes.length ≤ buffer.length := by
  have short := (bytesAt_iff.mp here).length_le
  have := List.length_pos_of_ne_nil some
  simp only [List.length_drop] at short
  omega

theorem headed_iff : headed buffer = true ↔
    4 ≤ buffer.length ∧ ∃ start ∈ beginnings, bytesAt buffer 0 start.2 = true := by
  simp only [headed, Bool.and_eq_true, decide_eq_true_eq, List.any_eq_true]

theorem branded_iff : branded buffer = true ↔ 8 < buffer.length ∧ bytesAt buffer 4 ftyp = true := by
  simp only [branded, Bool.and_eq_true, decide_eq_true_eq]

theorem beginning_unique {start other : String × Bytes} (one : start ∈ beginnings) (two : other ∈ beginnings)
    (starts : bytesAt buffer 0 start.2 = true) (begins : bytesAt buffer 0 other.2 = true) : start = other := by
  have apart : ∀ a ∈ beginnings, ∀ b ∈ beginnings, a ≠ b → (a.2.isPrefixOf b.2 || b.2.isPrefixOf a.2) = false := by
    decide
  by_contra different
  exact clash starts begins (apart _ one _ two different)

/-- What the detector says of a known beginning. -/
def headedType (buffer : Bytes) (start : String × Bytes) : String :=
  if start.1 = "video/webm" ∧ 12 < buffer.length ∧ bytesAt buffer 8 webp = true then "image/webp" else start.1

variable {start : String × Bytes}

theorem detect_headed (known : start ∈ beginnings) (long : 4 ≤ buffer.length)
    (starts : bytesAt buffer 0 start.2 = true) :
    detectMimeTypeFromBuffer buffer = some (headedType buffer start) := by
  have others : ∀ other ∈ beginnings, other ≠ start → ¬ bytesAt buffer 0 other.2 = true :=
    fun other here different begins => different (beginning_unique here known begins starts)
  simp only [beginnings, List.forall_mem_cons, List.not_mem_nil, false_implies, implies_true, and_true] at others
  simp only [beginnings, List.mem_cons, List.not_mem_nil, or_false] at known
  unfold detectMimeTypeFromBuffer headedType
  rw [if_neg (by omega)]
  rcases known with rfl | rfl | rfl | rfl | rfl | rfl | rfl <;> simp_all [riff, webp]
  split <;> rfl

theorem detect_unheaded (unheaded : headed buffer = false) :
    detectMimeTypeFromBuffer buffer = if branded buffer = true then some "video/mp4" else none := by
  unfold detectMimeTypeFromBuffer
  by_cases short : buffer.length < 4
  · have : ¬ 8 < buffer.length := by omega
    simp [short, branded, this]
  · have others : ∀ start ∈ beginnings, ¬ bytesAt buffer 0 start.2 = true := by
      intro start known begins
      have := headed_iff.mpr ⟨by omega, start, known, begins⟩
      simp [unheaded] at this
    simp only [beginnings, riff, List.forall_mem_cons, List.not_mem_nil, false_implies, implies_true, and_true] at others
    simp only [short, others, if_false, branded_iff, ftyp]
    rfl

theorem detect_cases {detected : String} (found : detectMimeTypeFromBuffer buffer = some detected) :
    (headed buffer = true ∧ ∃ start ∈ beginnings, bytesAt buffer 0 start.2 = true ∧ detected = headedType buffer start) ∨
      headed buffer = false ∧ branded buffer = true ∧ detected = "video/mp4" := by
  by_cases begins : headed buffer = true
  · obtain ⟨long, start, known, starts⟩ := headed_iff.mp begins
    rw [detect_headed known long starts] at found
    exact .inl ⟨begins, start, known, starts, (Option.some.inj found).symm⟩
  · rw [Bool.not_eq_true] at begins
    rw [detect_unheaded begins] at found
    split at found
    next box => exact .inr ⟨begins, box, (Option.some.inj found).symm⟩
    next => simp at found

theorem detect_eq_none_iff :
    detectMimeTypeFromBuffer buffer = none ↔ headed buffer = false ∧ branded buffer = false := by
  by_cases begins : headed buffer = true
  · obtain ⟨long, start, known, starts⟩ := headed_iff.mp begins
    simp [detect_headed known long starts, begins]
  · rw [Bool.not_eq_true] at begins
    rw [detect_unheaded begins]
    split <;> simp_all

/-! ## Its own signatures -/

theorem startsAs_iff : startsAs mimeType buffer = true ↔
    ∃ format ∈ signatures, format.1 = mimeType ∧ ∃ signature ∈ format.2, stands buffer signature = true := by
  simp only [startsAs, List.any_eq_true, Bool.and_eq_true, beq_iff_eq]

theorem stands_part {signature : Signature} (here : stands buffer signature = true) {part : Nat × Bytes}
    (isPart : part ∈ signature) : bytesAt buffer part.1 part.2 = true :=
  List.all_eq_true.mp here part isPart

/-- A beginning that may stand where the signature does is that of the type, or the type has no beginning of its own or
begins like another one. -/
theorem beginning_own (own : startsAs mimeType buffer = true) (known : start ∈ beginnings)
    (starts : bytesAt buffer 0 start.2 = true) :
    start.1 = mimeType ∧ start.1 ≠ "video/webm" ∨ mimeType = "image/webp" ∨ mimeType = "video/mp4" ∨
      mimeType = "application/x-tar" ∨ mimeType ∈ misread := by
  have table : ∀ format ∈ signatures, ∀ signature ∈ format.2, ∀ start ∈ beginnings,
      (∃ part ∈ signature, part.1 = 0 ∧ (part.2.isPrefixOf start.2 || start.2.isPrefixOf part.2) = false) ∨
        start.1 = format.1 ∧ start.1 ≠ "video/webm" ∨ format.1 = "image/webp" ∨ format.1 = "video/mp4" ∨
        format.1 = "application/x-tar" ∨ format.1 ∈ misread := by decide +kernel
  obtain ⟨format, isFormat, rfl, signature, isSignature, here⟩ := startsAs_iff.mp own
  rcases table format isFormat signature isSignature start known with ⟨part, isPart, first, apart⟩ | rest
  · exact (clash (first ▸ stands_part here isPart) starts apart).elim
  · exact rest

theorem misread_known (own : startsAs mimeType buffer = true) (unlike : mimeType ∈ misread) :
    headed buffer = true ∨ branded buffer = true := by
  have table : ∀ format ∈ signatures, format.1 ∈ misread → ∀ signature ∈ format.2, ∃ part ∈ signature,
      (4 ≤ part.2.length ∧ part.1 = 0 ∧ ∃ start ∈ beginnings, start.2.isPrefixOf part.2 = true) ∨
        (5 ≤ part.2.length ∧ part.1 = 4 ∧ ftyp.isPrefixOf part.2 = true) := by decide +kernel
  obtain ⟨format, isFormat, rfl, signature, isSignature, here⟩ := startsAs_iff.mp own
  obtain ⟨⟨offset, bytes⟩, isPart, kind⟩ := table format isFormat unlike signature isSignature
  have part := stands_part here isPart
  dsimp only at kind part
  have long : offset + bytes.length ≤ buffer.length := length_of_bytesAt part (by rintro rfl; simp at kind)
  rcases kind with ⟨four, rfl, start, known, begins⟩ | ⟨five, rfl, begins⟩
  · exact .inl (headed_iff.mpr ⟨by omega, start, known, bytesAt_mono (List.isPrefixOf_iff_prefix.mp begins) part⟩)
  · exact .inr (branded_iff.mpr ⟨by omega, bytesAt_mono (List.isPrefixOf_iff_prefix.mp begins) part⟩)

theorem headedType_known (known : start ∈ beginnings) :
    headedType buffer start ∉ "video/mp4" :: "application/x-tar" :: misread := by
  have table : ∀ start ∈ beginnings, "image/webp" ∉ "video/mp4" :: "application/x-tar" :: misread ∧
      start.1 ∉ "video/mp4" :: "application/x-tar" :: misread := by decide
  unfold headedType
  split
  · exact (table start known).1
  · exact (table start known).2

theorem detect_unlike {detected : String} (found : detectMimeTypeFromBuffer buffer = some detected) :
    detected ∉ misread := by
  rcases detect_cases found with ⟨-, start, known, -, rfl⟩ | ⟨-, -, rfl⟩
  · exact fun unlike => headedType_known known (List.mem_cons_of_mem _ (List.mem_cons_of_mem _ unlike))
  · decide

theorem webp_parts (own : startsAs "image/webp" buffer = true) :
    bytesAt buffer 0 riff = true ∧ bytesAt buffer 8 webp = true := by
  have table : ∀ format ∈ signatures, format.1 = "image/webp" → ∀ signature ∈ format.2,
      (0, riff) ∈ signature ∧ (8, webp) ∈ signature := by decide
  obtain ⟨format, isFormat, named, signature, isSignature, here⟩ := startsAs_iff.mp own
  obtain ⟨first, second⟩ := table format isFormat named signature isSignature
  exact ⟨stands_part here first, stands_part here second⟩

theorem detect_webp (own : startsAs "image/webp" buffer = true) :
    detectMimeTypeFromBuffer buffer = some (if 12 < buffer.length then "image/webp" else "video/webm") := by
  obtain ⟨first, second⟩ := webp_parts own
  have long := length_of_bytesAt second (by decide)
  rw [detect_headed (by decide : ("video/webm", riff) ∈ beginnings) (by omega) first]
  simp [headedType, second]

/-- The detector agrees with the signature of a type exactly when it has no other format for the content. -/
theorem undisputed_iff (own : startsAs mimeType buffer = true) :
    (∀ detected, detectMimeTypeFromBuffer buffer = some detected → detected = mimeType) ↔
      Undisputed mimeType buffer := by
  constructor
  · intro agrees
    refine ⟨fun unlike => ?_, ?_, fun anywhere => ?_, fun other box => ?_⟩
    · cases found : detectMimeTypeFromBuffer buffer with
      | none =>
        obtain ⟨unheaded, unboxed⟩ := detect_eq_none_iff.mp found
        rcases misread_known own unlike with known | known <;> simp_all
      | some detected => exact detect_unlike found (agrees detected found ▸ unlike)
    · rintro rfl
      have := agrees _ (detect_webp own)
      by_contra short
      simp [short] at this
    · by_contra begins
      rw [Bool.not_eq_false] at begins
      obtain ⟨long, start, known, starts⟩ := headed_iff.mp begins
      have same := agrees _ (detect_headed known long starts)
      have excluded : headedType buffer start ∉ _ := headedType_known known
      rw [same] at excluded
      rcases anywhere with rfl | rfl <;> simp at excluded
    · by_contra unheaded
      rw [Bool.not_eq_true] at unheaded
      exact other (agrees _ (by rw [detect_unheaded unheaded, if_pos box])).symm
  · intro undisputed detected found
    rcases detect_cases found with ⟨begins, start, known, starts, rfl⟩ | ⟨unheaded, box, rfl⟩
    · rcases beginning_own own known starts with ⟨rfl, other⟩ | rfl | rfl | rfl | unlike
      · simp [headedType, other]
      · rw [detect_webp own, if_pos (undisputed.webpLong rfl)] at found
        exact (Option.some.inj found).symm
      · simp [undisputed.anywhere (.inl rfl)] at begins
      · simp [undisputed.anywhere (.inr rfl)] at begins
      · exact absurd unlike undisputed.unlike
    · by_contra other
      simp [undisputed.unbranded (Ne.symm other) box] at unheaded

/-! ## Other signatures -/

theorem startsAs_webp (first : bytesAt buffer 0 riff = true) (second : bytesAt buffer 8 webp = true) :
    startsAs "image/webp" buffer = true := by
  have table : ∃ format ∈ signatures, format.1 = "image/webp" ∧ [(0, riff), (8, webp)] ∈ format.2 := by decide
  obtain ⟨format, isFormat, named, isSignature⟩ := table
  exact startsAs_iff.mpr ⟨format, isFormat, named, _, isSignature, by simp [stands, first, second]⟩

theorem startsAs_mp4 (box : bytesAt buffer 4 ftyp = true) : startsAs "video/mp4" buffer = true := by
  have table : ∃ format ∈ signatures, format.1 = "video/mp4" ∧ [(4, ftyp)] ∈ format.2 := by decide
  obtain ⟨format, isFormat, named, isSignature⟩ := table
  exact startsAs_iff.mpr ⟨format, isFormat, named, _, isSignature, by simp [stands, box]⟩

/-- The detector takes what has no signature of a type for another one exactly when it has another format for it. -/
theorem disputed_iff (other : startsAs mimeType buffer = false) :
    (∃ detected, detectMimeTypeFromBuffer buffer = some detected ∧ detected ≠ mimeType) ↔
      Disputed mimeType buffer := by
  constructor
  · rintro ⟨detected, found, different⟩
    refine ⟨?_, fun start known same starts => ?_⟩
    · by_contra unknown
      simp only [not_or, Bool.not_eq_true] at unknown
      simp [detect_eq_none_iff.mpr unknown] at found
    · rcases detect_cases found with ⟨-, begun, knownToo, begins, rfl⟩ | ⟨unheaded, box, -⟩
      · obtain rfl := beginning_unique knownToo known begins starts
        unfold headedType at different
        split at different
        next webm => exact same ▸ webm
        next => exact absurd same different
      · have long := (branded_iff.mp box).1
        simp [headed_iff.mpr ⟨by omega, start, known, starts⟩] at unheaded
  · intro disputed
    by_cases begins : headed buffer = true
    · obtain ⟨long, start, known, starts⟩ := headed_iff.mp begins
      refine ⟨_, detect_headed known long starts, ?_⟩
      unfold headedType
      split
      next webm =>
        rintro rfl
        have first : start.2 = riff := by
          have table : ∀ start ∈ beginnings, start.1 = "video/webm" → start.2 = riff := by decide
          exact table start known webm.1
        simp [startsAs_webp (first ▸ starts) webm.2.2] at other
      next unlike => exact fun same => unlike (same ▸ disputed.unlike start known same starts)
    · have box := disputed.known.resolve_left begins
      rw [Bool.not_eq_true] at begins
      refine ⟨"video/mp4", by rw [detect_unheaded begins, if_pos box], ?_⟩
      rintro rfl
      simp [startsAs_mp4 (branded_iff.mp box).2] at other

end Detector

section Validation
variable {config : FileConfig} {file : MulterFile}

/-- The detector knows no other name for a JPEG, and the allowed types have none either. -/
theorem compatible_iff {declared detected : String} (allowed : categorizeFile declared ≠ .other)
    (found : detectMimeTypeFromBuffer file.buffer = some detected) :
    isMimeCompatible declared detected = true ↔ detected = declared := by
  have named : detected ≠ "image/jpg" := by
    have table : ∀ start ∈ beginnings, start.1 ≠ "image/jpg" := by decide
    rcases detect_cases found with ⟨-, start, known, -, rfl⟩ | ⟨-, -, rfl⟩
    · unfold headedType
      split
      · decide
      · exact table start known
    · decide
  have declares : declared ≠ "image/jpg" := by
    rintro rfl
    exact allowed (by decide)
  simp only [isMimeCompatible, Bool.or_eq_true, Bool.and_eq_true, beq_iff_eq, declares, named, and_false, false_and,
    false_or]
  exact eq_comm

/-- A file is accepted when it passes the other checks and the detector does not contradict its type. -/
theorem validate_eq_nil_iff : validate config file = [] ↔ Passes config file ∧
    ∀ detected, detectMimeTypeFromBuffer file.buffer = some detected → detected = file.mimetype := by
  have nothing : ∀ (refuses : Prop) [Decidable refuses] (error : String),
      (if refuses then [error] else []) = [] ↔ ¬ refuses := by
    intro refuses _ error
    split <;> simp_all
  simp only [validate, List.append_eq_nil_iff, nothing, Nat.not_lt, List.contains_iff_mem]
  constructor
  · rintro ⟨⟨⟨⟨⟨limited, filled⟩, extension⟩, allowed⟩, content⟩, double⟩
    refine ⟨⟨limited, filled, extension, allowed, fun many blocked => double ⟨many, blocked⟩⟩, fun detected found => ?_⟩
    rw [found] at content
    by_contra different
    have apart : isMimeCompatible file.mimetype detected = false :=
      Bool.eq_false_iff.mpr fun same => different ((compatible_iff allowed found).mp same)
    exact (nothing _ _).mp content ⟨different, by rw [apart]; rfl⟩
  · rintro ⟨passes, agrees⟩
    refine ⟨⟨⟨⟨⟨passes.limited, passes.filled⟩, passes.extension⟩, passes.allowed⟩, ?_⟩,
      fun both => passes.double both.1 both.2⟩
    split
    next detected found => exact (nothing _ _).mpr fun both => both.1 (agrees detected found)
    next => rfl

theorem Fine.passes (fine : Fine config file) (own : startsAs file.mimetype file.buffer = true) :
    Passes config file := by
  refine ⟨fine.limited, Nat.ne_of_gt fine.filled, ?_, ?_, fun many => ?_⟩
  · unfold extractExtension lastPart
    split
    next dotted =>
      refine fine.unblocked _ ?_
      cases parts : split '.' file.originalname with
      | nil => simp [parts] at dotted
      | cons first rest =>
        have more : rest ≠ [] := by
          rintro rfl
          simp [parts] at dotted
        rw [List.getLastD_cons, List.getLastD_eq_getLast?, List.getLast?_eq_getLast_of_ne_nil more]
        exact List.getLast_mem more
    next => decide
  · have table : ∀ format ∈ signatures, categorizeFile format.1 ≠ .other := by decide
    obtain ⟨format, isFormat, named, -⟩ := startsAs_iff.mp own
    exact named ▸ table format isFormat
  · refine fine.unblocked _ ?_
    have within : (split '.' file.originalname).length - 2 < (split '.' file.originalname).length := by omega
    rw [List.getD_eq_getElem?_getD, List.getElem?_eq_getElem within, Option.getD_some, List.mem_iff_getElem]
    refine ⟨(split '.' file.originalname).length - 3, by rw [List.length_tail]; omega, ?_⟩
    rw [List.getElem_tail]
    congr 1
    omega

/-- **The detector agrees with the list of allowed types on a file exactly when it recognises the file.** -/
theorem allow_list_agrees_iff (config : FileConfig) (file : MulterFile) : Agrees config file ↔ Recognised config file := by
  constructor
  · intro agrees
    refine ⟨fun fine own => ?_, fun other starts different passes => ?_⟩
    · exact (undisputed_iff own).mp (validate_eq_nil_iff.mp (agrees.accepted fine own)).2
    · have refused := agrees.rejected other starts different
      rw [ne_eq, validate_eq_nil_iff] at refused
      refine (disputed_iff different).mp ?_
      by_contra agreeing
      exact refused ⟨passes, fun detected found => by_contra fun unlike => agreeing ⟨detected, found, unlike⟩⟩
  · intro recognised
    refine ⟨fun fine own => ?_, fun other starts different accepted => ?_⟩
    · exact validate_eq_nil_iff.mpr ⟨fine.passes own, (undisputed_iff own).mpr (recognised.own fine own)⟩
    · obtain ⟨passes, agreeing⟩ := validate_eq_nil_iff.mp accepted
      obtain ⟨detected, found, unlike⟩ := (disputed_iff different).mpr (recognised.other other starts different passes)
      exact unlike (agreeing detected found)

def sampleConfig : FileConfig where
  storageBackend := .localStorage
  defaultExpiryHours := 24
  maxFileSize := 52428800
  encryptionEnabled := false
  scanEnabled := false
  cleanupEnabled := false
  orphanRetentionDays := 7
  basePath := "uploads".toList

/-- A recording in the WAV format. -/
def recording : MulterFile where
  originalname := "a.wav".toList
  mimetype := "audio/wav"
  size := 16
  buffer := riff ++ [8, 0, 0, 0, 0x57, 0x41, 0x56, 0x45, 0x66, 0x6d, 0x74, 0x20]

/-- A recording is not accepted as one, since it is taken for a WebM. -/
theorem recording_refused : ¬ ∀ (config : FileConfig) (file : MulterFile), Agrees config file := by
  intro always
  have fine : Fine sampleConfig recording := ⟨by decide, by decide, by decide⟩
  have accepted := (always sampleConfig recording).accepted fine (by decide)
  revert accepted
  decide

end Validation
end AlianStructure.Guarantees.MagicBytes
