import AlianStructure.Library.PathResolution
import AlianStructure.Source.Exception
import AlianStructure.Library.Interleaving
import AlianStructure.Library.KeyedTable

/-!
# Uploaded files, their validation and their runtime

Source: src/infrastructure/file-upload/entities/*.ts, dto/file-upload.dto.ts and
services/file-validation.service.ts. The columns that no method of the services reads back (dimensions,
format, duration, page count, metadata) are left out, and so are the texts of the log.
-/
namespace AlianStructure.Source.Files
open Library.PathResolution

abbrev Bytes := List UInt8

inductive FileStorageBackend where
  | localStorage | s3 | azureBlob
  deriving DecidableEq

inductive FileStatus where
  | uploading | processing | ready | infected | failed | deleted
  deriving DecidableEq

def FileStatus.text : FileStatus → String
  | .uploading => "uploading"
  | .processing => "processing"
  | .ready => "ready"
  | .infected => "infected"
  | .failed => "failed"
  | .deleted => "deleted"

inductive FileCategory where
  | image | document | video | audio | archive | other
  deriving DecidableEq

inductive ScanStatus where
  | clean | infected
  deriving DecidableEq

/-- An id: a text that is a segment of a path by itself. -/
structure Ident where
  text : List Char
  plain : '/' ∉ text
  undotted : '.' ∉ text
  filled : text ≠ []
  deriving DecidableEq

structure UploadedFile where
  id : Ident
  userId : Ident
  originalName : List Char
  storedName : List Char
  mimeType : String
  size : Nat
  category : FileCategory
  checksum : String
  storageBackend : FileStorageBackend
  storagePath : List Char
  status : FileStatus
  scanStatus : ScanStatus
  encrypted : Bool
  encryptionKey : Option String
  tags : List String
  description : Option String
  downloadCount : Nat
  isOrphaned : Bool
  expiresAt : Option Int
  createdAt : Option Int
  deriving DecidableEq

structure FileThumbnail where
  fileId : Ident
  storedName : List Char
  storagePath : List Char
  width : Nat
  height : Nat
  format : List Char
  size : Nat
  variant : List Char
  deriving DecidableEq

structure FileScanResult where
  fileId : Ident
  engine : String
  engineVersion : String
  status : ScanStatus
  threatName : Option String
  deriving DecidableEq

/-- A file of a multipart form. -/
structure MulterFile where
  originalname : List Char
  mimetype : String
  size : Nat
  buffer : Bytes
  deriving DecidableEq

structure UploadFileDto where
  storageBackend : Option FileStorageBackend
  tags : List String
  description : Option String
  expiresIn : Option Nat
  deriving DecidableEq

structure FileCleanupDto where
  olderThanSeconds : Option Nat
  userId : Option Ident
  dryRun : Bool
  deriving DecidableEq

structure FileConfig where
  storageBackend : FileStorageBackend
  defaultExpiryHours : Nat
  maxFileSize : Nat
  encryptionEnabled : Bool
  scanEnabled : Bool
  cleanupEnabled : Bool
  orphanRetentionDays : Nat
  basePath : List Char

/-- `name.split(".").pop()`. -/
def lastPart (name : List Char) : List Char := (split '.' name).getLastD []

namespace FileValidationService

def blockedExtensions : List String :=
  ["exe", "bat", "cmd", "com", "msi", "scr", "pif", "vbs", "vbe", "js", "jse", "ws", "wsh", "ps1",
    "ps2", "psc1", "psc2", "reg", "inf", "sct", "hta", "cpl", "msp", "mst", "gadget"]

def allowedMimeTypes : List (FileCategory × List String) :=
  [(.image, ["image/jpeg", "image/png", "image/gif", "image/webp", "image/svg+xml", "image/tiff",
      "image/bmp", "image/avif"]),
    (.document, ["application/pdf", "application/msword",
      "application/vnd.openxmlformats-officedocument.wordprocessingml.document",
      "application/vnd.ms-excel",
      "application/vnd.openxmlformats-officedocument.spreadsheetml.sheet",
      "application/vnd.ms-powerpoint",
      "application/vnd.openxmlformats-officedocument.presentationml.presentation",
      "text/plain", "text/csv", "application/json", "application/xml"]),
    (.video, ["video/mp4", "video/webm", "video/ogg", "video/quicktime", "video/x-msvideo",
      "video/x-matroska"]),
    (.audio, ["audio/mpeg", "audio/wav", "audio/ogg", "audio/webm", "audio/aac", "audio/flac",
      "audio/mp4"]),
    (.archive, ["application/zip", "application/x-tar", "application/gzip",
      "application/x-rar-compressed", "application/x-7z-compressed", "application/x-bzip2"])]

def categorizeFile (mimeType : String) : FileCategory :=
  ((allowedMimeTypes.find? fun entry => entry.2.contains mimeType).map (·.1)).getD .other

def extractExtension (filename : List Char) : List Char :=
  if 1 < (split '.' filename).length then lastPart filename else []

/-- Whether the bytes stand in the buffer from an offset on. -/
def bytesAt (buffer : Bytes) (offset : Nat) (bytes : Bytes) : Bool :=
  bytes.isPrefixOf (buffer.drop offset)

section BytesAt
variable {buffer : Bytes} {offset : Nat}

theorem bytesAt_iff {bytes : Bytes} : bytesAt buffer offset bytes = true ↔ bytes <+: buffer.drop offset :=
  List.isPrefixOf_iff_prefix

theorem bytesAt_mono {bytes longer : Bytes} (start : bytes <+: longer) (stands : bytesAt buffer offset longer = true) :
    bytesAt buffer offset bytes = true :=
  bytesAt_iff.mpr (start.trans (bytesAt_iff.mp stands))

/-- What stands at one place begins in one way. -/
theorem bytesAt_apart {bytes others : Bytes} (first : bytesAt buffer offset bytes = true)
    (second : bytesAt buffer offset others = true) : bytes.isPrefixOf others = true ∨ others.isPrefixOf bytes = true := by
  simp only [List.isPrefixOf_iff_prefix]
  exact List.prefix_or_prefix_of_prefix (bytesAt_iff.mp first) (bytesAt_iff.mp second)

theorem bytesAt_drop (bytes : Bytes) {longer : Bytes} (stands : bytesAt buffer offset (bytes ++ longer) = true) :
    bytesAt buffer (offset + bytes.length) longer = true := by
  obtain ⟨rest, whole⟩ := bytesAt_iff.mp stands
  refine bytesAt_iff.mpr ⟨rest, ?_⟩
  rw [← List.drop_drop, ← whole, List.append_assoc, List.drop_left]

end BytesAt

def detectMimeTypeFromBuffer (buffer : Bytes) : Option String :=
  if buffer.length < 4 then none
  else if bytesAt buffer 0 [0xff, 0xd8, 0xff] then some "image/jpeg"
  else if bytesAt buffer 0 [0x89, 0x50, 0x4e, 0x47] then some "image/png"
  else if bytesAt buffer 0 [0x47, 0x49, 0x46] then some "image/gif"
  else if bytesAt buffer 0 [0x52, 0x49, 0x46, 0x46] then
    if 12 < buffer.length ∧ bytesAt buffer 8 [0x57, 0x45, 0x42, 0x50] then some "image/webp"
    else some "video/webm"
  else if bytesAt buffer 0 [0x25, 0x50, 0x44] then some "application/pdf"
  else if bytesAt buffer 0 [0x50, 0x4b, 0x03] then some "application/zip"
  else if bytesAt buffer 0 [0x1f, 0x8b, 0x08] then some "application/gzip"
  else if 8 < buffer.length ∧ bytesAt buffer 4 [0x66, 0x74, 0x79, 0x70] then some "video/mp4"
  else none

def isMimeCompatible (declared detected : String) : Bool :=
  (declared == "image/jpg" && detected == "image/jpeg") ||
    (declared == "image/jpeg" && detected == "image/jpg") || declared == detected

def lowered (text : List Char) : String := toLowerCase (String.ofList text)

/-- The errors of a file; it is valid without any. -/
def validate (config : FileConfig) (file : MulterFile) : List String :=
  let category := categorizeFile file.mimetype
  let ext := extractExtension file.originalname
  let parts := split '.' file.originalname
  (if config.maxFileSize < file.size then
    ["File size " ++ toString file.size ++ " exceeds maximum " ++ toString config.maxFileSize ++
      " bytes"] else []) ++
  (if file.size = 0 then ["File is empty"] else []) ++
  (if blockedExtensions.contains (lowered ext) then
    ["File extension ." ++ String.ofList ext ++ " is blocked for security reasons"] else []) ++
  (if category = .other then ["MIME type " ++ file.mimetype ++ " is not allowed"] else []) ++
  (match detectMimeTypeFromBuffer file.buffer with
    | some detected =>
      if detected ≠ file.mimetype ∧ ! isMimeCompatible file.mimetype detected then
        ["File content does not match declared MIME type. Declared: " ++ file.mimetype ++
          ", detected: " ++ detected] else []
    | none => []) ++
  (if 2 < parts.length ∧ blockedExtensions.contains (lowered (parts.getD (parts.length - 2) [])) then
    ["Suspicious double extension detected: " ++ String.ofList file.originalname] else [])

end FileValidationService

/-!
## The runtime of the file services

Source: src/infrastructure/file-upload/entities/*.ts, storage/*.ts and services/file-scan.service.ts.
Besides the repositories the services await the scan engines, the image library and the storage backends,
which keep their objects by the text of the path. Every operation may fail before or after its effect; the
remote backends may also take an object without keeping it. The histories are read by no method: in the
world, the verdicts of the engines, the files whose URLs were signed, the paths that the local backend has
touched and the thumbnails that were saved for its files; in the memory, what was uploaded.
-/
open Library.AsyncMethod Library.KeyedTable

/-- The rows that a cleanup selects. -/
inductive FileQuery where
  | orphaned (cutoff : Int) (userId : Option Ident)
  | expired (now : Int)
  | stale (cutoff : Int)
  deriving DecidableEq

structure ScanVerdict where
  clean : Bool
  threatName : Option String
  deriving DecidableEq

/-- The awaited operations. A scan names the file for the history only, and a signature the file with its
status. -/
inductive FileOp where
  | findFile (id : Ident)
  | saveFile (file : UploadedFile)
  | removeFile (id : Ident)
  | selectFiles (query : FileQuery)
  | saveThumbnail (thumbnail : FileThumbnail)
  | findThumbnails (fileId : Ident)
  | deleteThumbnails (fileId : Ident)
  | saveScanResult (result : FileScanResult)
  | scan (engine : String) (fileId : Ident) (path : List Char) (buffer : Bytes)
  | sharp (width height : Nat) (format : List Char)
  | put (backend : FileStorageBackend) (path : List Char) (buffer : Bytes) (contentType : String)
  | get (backend : FileStorageBackend) (path : List Char)
  | remove (backend : FileStorageBackend) (path : List Char)
  | signedUrl (file : UploadedFile) (expiresIn : Nat)

abbrev FileOp.Reply : FileOp → Type
  | .findFile _ => Option UploadedFile
  | .saveFile _ => UploadedFile
  | .selectFiles _ => List UploadedFile
  | .findThumbnails _ => List FileThumbnail
  | .scan _ _ _ _ => ScanVerdict
  | .sharp _ _ _ => Nat
  | .get _ _ => Bytes
  | .signedUrl _ _ => String
  | .removeFile _ | .saveThumbnail _ | .deleteThumbnails _ | .saveScanResult _ | .put _ _ _ _
  | .remove _ _ => Unit

def FileOp.isScan : FileOp → Bool
  | .scan _ _ _ _ => true
  | _ => false

/-- What was uploaded under an id, and for which backend. -/
structure Upload where
  id : Ident
  backend : FileStorageBackend
  bytes : Bytes
  deriving DecidableEq

structure FileMemory where
  now : Nat
  draws : Nat
  uploads : List Upload

inductive FileCall where
  | upload (file : MulterFile) (userId : Ident) (dto : UploadFileDto)
  | updateMetadata (fileId : Ident) (tags : Option (List String)) (description : Option String)
  | getDownloadUrl (fileId : Ident) (expiresIn : Option Nat)
  | download (fileId : Ident)
  | delete (fileId : Ident)
  | markOrphaned (fileId : Ident)
  | generateThumbnail (fileId : Ident) (width height : Nat) (format variant : Option (List Char))
  | cleanup (dto : FileCleanupDto)
  | scheduledCleanup

structure UploadResult where
  file : UploadedFile
  scanResult : Option FileScanResult
  thumbnails : Option (List FileThumbnail)

structure CleanupResult where
  filesScanned : Nat
  filesDeleted : Nat
  errors : List String
  deriving DecidableEq

inductive FileValue where
  | nothing
  | uploaded (result : UploadResult)
  | file (file : UploadedFile)
  | url (url : String)
  | content (bytes : Bytes) (file : UploadedFile)
  | thumbnail (thumbnail : FileThumbnail)
  | cleaned (result : CleanupResult)

abbrev filing : Runtime where
  Op := FileOp
  Reply := FileOp.Reply
  Mem := FileMemory
  Err := Exception
  Call := FileCall
  Val := FileValue

abbrev FileM := Async filing

/-- What the services take from the platform: fresh ids, random bytes, the digest and the
cipher, whose padding makes every text longer, and the names of the scan engines. -/
structure FileHost where
  uuid : Nat → Ident
  uuid_injective : Function.Injective uuid
  randomBytes : Nat → Nat → Bytes
  sha256 : Bytes → String
  aes256cbc : Bytes → Bytes → Bytes → Bytes
  padded : ∀ key iv bytes, bytes.length < (aes256cbc key iv bytes).length
  engines : List String

/-- The engines that the scan service registers. -/
def registered (host : FileHost) (config : FileConfig) : List String :=
  if config.scanEnabled then host.engines else []

structure FileHistory where
  cleared : List (Ident × String)
  failed : List (Ident × String)
  signed : List (Ident × FileStatus)
  touched : List (List Char)
  thumbnails : List FileThumbnail

structure FileWorld where
  files : Table UploadedFile UploadedFile.id
  thumbnails : List FileThumbnail
  objects : FileStorageBackend → List Char → Option Bytes
  now : Nat
  history : FileHistory

def FileWorld.empty : FileWorld := ⟨Table.empty, [], fun _ _ => none, 0, ⟨[], [], [], [], []⟩⟩

/-- How an operation is carried out, where that is not determined. -/
inductive FileEffect where
  | plain
  | verdict (verdict : ScanVerdict)
  | crashed (failure : Exception)
  | sized (size : Nat)
  | signed (url : String)
  | unstored

inductive FileAnswer where
  | does (how : FileEffect)
  | fails (failure : Exception)
  | lost (how : FileEffect) (failure : Exception)

/-- The lengths of the columns. -/
def UploadedFile.fits (file : UploadedFile) : Bool :=
  file.userId.text.length ≤ 255 && file.originalName.length ≤ 255 && file.storedName.length ≤ 255 &&
    file.mimeType.length ≤ 512 && file.storagePath.length ≤ 2048 &&
    (file.description.getD "").length ≤ 512

def FileThumbnail.fits (thumbnail : FileThumbnail) : Bool :=
  thumbnail.storedName.length ≤ 255 && thumbnail.storagePath.length ≤ 2048 &&
    thumbnail.format.length ≤ 32 && thumbnail.variant.length ≤ 64

namespace FileWorld
variable (world : FileWorld)

/-- The local backend works on a path. -/
def touch (backend : FileStorageBackend) (path : List Char) : FileWorld :=
  match backend with
  | .localStorage =>
    { world with history := { world.history with touched := world.history.touched ++ [path] } }
  | .s3 | .azureBlob => world

def setObject (backend : FileStorageBackend) (path : List Char) (object : Option Bytes) : FileWorld :=
  { world with objects := fun other key =>
      if other = backend ∧ key = path then object else world.objects other key }

def selects (query : FileQuery) (file : UploadedFile) : Bool :=
  match query with
  | .orphaned cutoff userId =>
    file.isOrphaned && (file.createdAt.any fun created => decide (created < cutoff)) &&
      userId.all fun user => decide (file.userId = user)
  | .expired now => (file.expiresAt.any fun expires => decide (expires < now)) && ! file.isOrphaned
  | .stale cutoff =>
    (file.status == .failed || file.status == .infected) &&
      file.createdAt.any fun created => decide (created < cutoff)

/-- The effect of an operation and its reply. -/
def effect (op : FileOp) (how : FileEffect) : Option (FileWorld × Except Exception op.Reply) :=
  match op, how with
  | .findFile id, .plain => some (world, .ok (world.files.findOne id))
  | .saveFile file, .plain =>
    let saved := { file with createdAt := file.createdAt.or (some world.now) }
    if file.fits then some ({ world with files := world.files.save saved }, .ok saved) else none
  | .removeFile id, .plain =>
    some ({ world with
      files := world.files.delete fun file => decide (file.id = id)
      thumbnails := world.thumbnails.filter fun thumbnail => decide (thumbnail.fileId ≠ id) }, .ok ())
  | .selectFiles query, .plain => some (world, .ok (world.files.rows.filter (selects query)))
  | .saveThumbnail thumbnail, .plain =>
    if thumbnail.fits then
      (world.files.findOne thumbnail.fileId).map fun file => ({ world with
        thumbnails := world.thumbnails ++ [thumbnail]
        history := { world.history with
          thumbnails := world.history.thumbnails ++
            if file.storageBackend = .localStorage then [thumbnail] else [] } }, .ok ())
    else none
  | .findThumbnails fileId, .plain =>
    some (world, .ok (world.thumbnails.filter fun thumbnail => decide (thumbnail.fileId = fileId)))
  | .deleteThumbnails fileId, .plain =>
    some ({ world with
      thumbnails := world.thumbnails.filter fun thumbnail => decide (thumbnail.fileId ≠ fileId) }, .ok ())
  | .saveScanResult _, .plain => some (world, .ok ())
  | .scan engine fileId _ _, .verdict verdict =>
    some (if verdict.clean then
        { world with history := { world.history with
            cleared := world.history.cleared ++ [(fileId, engine)] } }
      else world, .ok verdict)
  | .scan engine fileId _ _, .crashed failure =>
    some ({ world with history := { world.history with
        failed := world.history.failed ++ [(fileId, engine)] } }, .error failure)
  | .sharp _ _ _, .sized size => some (world, .ok size)
  | .put backend path buffer _, .plain =>
    some ((world.touch backend path).setObject backend path (some buffer), .ok ())
  | .put backend path _ _, .unstored =>
    if backend = .localStorage then none else some (world.touch backend path, .ok ())
  | .get backend path, .plain =>
    some (world.touch backend path, match world.objects backend path with
      | some bytes => .ok bytes
      | none => .error (.error ("File not found: " ++ String.ofList path)))
  | .remove backend path, .plain =>
    some ((world.touch backend path).setObject backend path none, .ok ())
  | .remove backend path, .unstored =>
    if backend = .localStorage then none else some (world.touch backend path, .ok ())
  | .signedUrl file _, .signed url =>
    some ({ world with history := { world.history with
        signed := world.history.signed ++ [(file.id, file.status)] } }, .ok url)
  | _, _ => none

/-- The answer to an operation; a scan fails by crashing. -/
def respond (op : FileOp) (answer : FileAnswer) : Option (FileWorld × Except Exception op.Reply) :=
  match answer with
  | .does how => world.effect op how
  | .fails failure => if op.isScan then none else some (world, .error failure)
  | .lost how failure =>
    if op.isScan then none else (world.effect op how).map fun reply => (reply.1, .error failure)

end FileWorld

end AlianStructure.Source.Files
