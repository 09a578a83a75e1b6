import AlianStructure.Source.Auth.DelegationService
import AlianStructure.Source.Files.FileRuntime

/-!
# The storage of files

Source: src/infrastructure/file-upload/services/file-storage.service.ts:72-350, file-scan.service.ts:44-125,
file-metadata.service.ts:36-133 and file-cleanup.service.ts:60-216. What the extraction of metadata finds
is left out, and so are the sums of bytes of a cleanup; an extraction that fails is one whose save fails.
A scan changes the entity of the upload also when it fails later.
-/
namespace AlianStructure.Source.Files
open Library.AsyncMethod Library.Interleaving

namespace FileStorageService
variable (host : FileHost) (config : FileConfig)

def ask (op : FileOp) : FileM op.Reply := Async.perform (R := filing) op

def memory : FileM FileMemory := Async.memory (R := filing)

def update (change : FileMemory → FileMemory) : FileM Unit := Async.update (R := filing) change

def dateNow : FileM Nat := do
  let mem ← memory
  pure mem.now

/-! ## Random values -/

/-- An id for bytes that are uploaded. -/
def uuid (backend : FileStorageBackend) (buffer : Bytes) : FileM Ident := do
  let mem ← memory
  let id := host.uuid mem.draws
  update fun mem =>
    { mem with draws := mem.draws + 1, uploads := mem.uploads ++ [⟨id, backend, buffer⟩] }
  pure id

def randomBytes (size : Nat) : FileM Bytes := do
  let mem ← memory
  update fun mem => { mem with draws := mem.draws + 1 }
  pure (host.randomBytes mem.draws size)

def hex (bytes : Bytes) : String :=
  String.ofList (bytes.flatMap fun byte =>
    [Library.JsonText.hexDigit (byte.toNat / 16), Library.JsonText.hexDigit (byte.toNat % 16)])

/-- The initialization vector stands before the encrypted bytes. -/
def encryptBuffer (buffer : Bytes) : FileM (Bytes × String) := do
  let key ← randomBytes host 32
  let iv ← randomBytes host 16
  pure (iv ++ host.aes256cbc key iv buffer, hex key)

/-- The bytes that are stored, with the key when they are encrypted. -/
def protect (buffer : Bytes) : FileM (Bytes × Option String) :=
  if config.encryptionEnabled then do
    let (encrypted, key) ← encryptBuffer host buffer
    pure (encrypted, some key)
  else pure (buffer, none)

/-! ## Scans -/

/-- The engines are asked in turn until one finds something; one that fails is passed over. The result is
the engine asked last and the verdict against the file, if there is one. -/
def scanEngines (file : UploadedFile) (buffer : Bytes) :
    String → List String → FileM (String × Option ScanVerdict)
  | lastEngine, [] => pure (lastEngine, none)
  | _, engine :: engines => do
    let result ← (ask (.scan engine file.id file.storagePath buffer)).outcome
    match result with
    | .ok verdict =>
      if verdict.clean then scanEngines file buffer engine engines
      else pure (engine, some verdict)
    | .error _ => scanEngines file buffer engine engines

/-- The entity as the scan leaves it, and the result of the scan. -/
def scanFile (file : UploadedFile) (buffer : Bytes) :
    FileM (UploadedFile × Except Exception FileScanResult) :=
  if ! config.scanEnabled then pure (file, .ok ⟨file.id, "none", "0.0.0", .clean, none⟩)
  else do
    let (lastEngine, against) ← scanEngines file buffer "unknown" (registered host config)
    let status := if against.isNone then ScanStatus.clean else .infected
    let file := { file with
      scanStatus := status
      status := if against.isNone then .processing else .infected }
    let scanResult : FileScanResult :=
      ⟨file.id, lastEngine, "1.0.0", status, against.bind (·.threatName)⟩
    let saved ← (do
      let _ ← ask (.saveFile file)
      ask (.saveScanResult scanResult)
      pure scanResult : FileM FileScanResult).outcome
    pure (file, saved)

/-! ## Metadata and thumbnails -/

def extractMetadata (file : UploadedFile) : FileM UploadedFile := ask (.saveFile file)

def digitsOf (n : Nat) : List Char := Nat.toDigits 10 n

def thumbnailName (file : UploadedFile) (width height : Nat) (format variant : List Char) : List Char :=
  file.storedName ++ '_' :: variant ++ '_' :: digitsOf width ++ 'x' :: digitsOf height ++ '.' :: format

def thumbnailPath (userId : Ident) (storedName : List Char) : List Char :=
  "thumbnails/".toList ++ userId.text ++ '/' :: storedName

def storeThumbnail (thumbnail : FileThumbnail) : FileM FileThumbnail := do
  ask (.saveThumbnail thumbnail)
  pure thumbnail

/-- Without the image library only the record is made. -/
def generateThumbnail (file : UploadedFile) (width height : Nat) (format variant : List Char) :
    FileM FileThumbnail :=
  if file.category ≠ .image then throw (.error "Thumbnails can only be generated for image files")
  else do
    let storedName := thumbnailName file width height format variant
    let thumbnail (size : Nat) : FileThumbnail :=
      ⟨file.id, storedName, thumbnailPath file.userId storedName, width, height, format, size, variant⟩
    let processed ← (do
      let size ← ask (.sharp width height format)
      storeThumbnail (thumbnail size) : FileM FileThumbnail).outcome
    match processed with
    | .ok saved => pure saved
    | .error _ => storeThumbnail (thumbnail 0)

/-- The two thumbnails of an image; what has been made stays when the second one fails. -/
def autoThumbnails (file : UploadedFile) : FileM (Option (List FileThumbnail)) := do
  let thumb ← (generateThumbnail file 200 200 "webp".toList "thumb-sm".toList).outcome
  match thumb with
  | .error _ => pure none
  | .ok thumb => do
    let largeThumb ← (generateThumbnail file 800 800 "webp".toList "thumb-lg".toList).outcome
    match largeThumb with
    | .ok largeThumb => pure (some [thumb, largeThumb])
    | .error _ => pure (some [thumb])

def imageThumbnails (file : UploadedFile) : FileM (Option (List FileThumbnail)) :=
  if file.category = .image then autoThumbnails file else pure none

/-! ## Uploads -/

def month (now : Nat) : List Char := (Auth.DelegationService.toISOString now).toList.take 7

def storedPath (userId : Ident) (now : Nat) (storedName : List Char) : List Char :=
  userId.text ++ '/' :: (month now ++ '/' :: storedName)

def expiry (now : Nat) (expiresIn : Option Nat) : Int :=
  match expiresIn with
  | some seconds => if seconds ≠ 0 then now + seconds * 1000 else now + config.defaultExpiryHours * 3600000
  | none => now + config.defaultExpiryHours * 3600000

/-- The entity of an upload. -/
def newFile (file : MulterFile) (userId fileId : Ident) (dto : UploadFileDto)
    (encryptionKey : Option String) (now : Nat) : UploadedFile :=
  let storedName := fileId.text ++ '.' :: lastPart file.originalname
  { id := fileId
    userId := userId
    originalName := file.originalname
    storedName := storedName
    mimeType := file.mimetype
    size := file.size
    category := FileValidationService.categorizeFile file.mimetype
    checksum := host.sha256 file.buffer
    storageBackend := dto.storageBackend.getD config.storageBackend
    storagePath := storedPath userId now storedName
    status := .uploading
    scanStatus := .clean
    encrypted := config.encryptionEnabled
    encryptionKey := encryptionKey
    tags := dto.tags
    description := dto.description
    downloadCount := 0
    isOrphaned := false
    expiresAt := some (expiry config now dto.expiresIn)
    createdAt := none }

/-- Whether the scan has a result that does not report an infection. -/
def passed : Except Exception FileScanResult → Bool
  | .ok result => decide (result.status ≠ .infected)
  | .error _ => false

def readyFile (file : UploadedFile) (scanResult : Except Exception FileScanResult) : UploadedFile :=
  if passed scanResult then { file with status := .ready } else file

/-- What follows the storing of the bytes. -/
def processFile (file : UploadedFile) (buffer : Bytes) : FileM UploadResult := do
  let saved ← ask (.saveFile { file with status := .processing })
  let (scanned, scanResult) ← scanFile host config saved buffer
  let _ ← (extractMetadata scanned).outcome
  let thumbnails ← imageThumbnails scanned
  let done ← ask (.saveFile (readyFile scanned scanResult))
  pure ⟨done, scanResult.toOption, thumbnails⟩

def upload (file : MulterFile) (userId : Ident) (dto : UploadFileDto) : FileM UploadResult := do
  let errors := FileValidationService.validate config file
  if errors ≠ [] then
    throw (.badRequest ("File validation failed: " ++ String.intercalate "; " errors))
  else do
    let fileId ← uuid host (dto.storageBackend.getD config.storageBackend) file.buffer
    let now ← dateNow
    let (buffer, encryptionKey) ← protect host config file.buffer
    let uploadedFile := newFile host config file userId fileId dto encryptionKey now
    ask (.put uploadedFile.storageBackend uploadedFile.storagePath buffer file.mimetype)
    processFile host config uploadedFile file.buffer

/-! ## The other methods -/

def getById (fileId : Ident) : FileM UploadedFile := do
  let file ← ask (.findFile fileId)
  match file with
  | some file => pure file
  | none => throw (.notFound ("File " ++ String.ofList fileId.text ++ " not found"))

def updateMetadata (fileId : Ident) (tags : Option (List String)) (description : Option String) :
    FileM UploadedFile := do
  let file ← getById fileId
  let described := match description with
    | some text => if text = "" then file.description else some text
    | none => file.description
  ask (.saveFile { file with tags := tags.getD file.tags, description := described })

def getDownloadUrl (fileId : Ident) (expiresIn : Option Nat) : FileM String := do
  let file ← getById fileId
  let seconds := match expiresIn with
    | some seconds => if seconds = 0 then 3600 else seconds
    | none => 3600
  let url ← ask (.signedUrl file seconds)
  let _ ← ask (.saveFile { file with downloadCount := file.downloadCount + 1 })
  pure url

def download (fileId : Ident) : FileM (Bytes × UploadedFile) := do
  let file ← getById fileId
  if file.status ≠ .ready then
    throw (.badRequest ("File is not ready for download (status: " ++ file.status.text ++ ")"))
  else do
    let stream ← ask (.get file.storageBackend file.storagePath)
    let counted ← ask (.saveFile { file with downloadCount := file.downloadCount + 1 })
    pure (stream, counted)

def delete (fileId : Ident) : FileM Unit := do
  let file ← getById fileId
  ask (.remove file.storageBackend file.storagePath)
  let _ ← ask (.saveFile { file with status := .deleted })
  pure ()

def markOrphaned (fileId : Ident) : FileM Unit := do
  let file ← getById fileId
  let _ ← ask (.saveFile { file with isOrphaned := true })
  pure ()

/-- The request of a thumbnail. -/
def requestThumbnail (fileId : Ident) (width height : Nat) (format variant : Option (List Char)) :
    FileM FileThumbnail := do
  let file ← getById fileId
  generateThumbnail file width height (format.getD "webp".toList) (variant.getD "default".toList)

end FileStorageService

namespace FileCleanupService
open FileStorageService
variable (config : FileConfig)

def removeThumbnails (backend : FileStorageBackend) : List FileThumbnail → FileM Unit
  | [] => pure ()
  | thumb :: thumbnails => do
    ask (.remove backend thumb.storagePath)
    removeThumbnails backend thumbnails

def deleteFileAndThumbnails (file : UploadedFile) : FileM Unit := do
  ask (.remove file.storageBackend file.storagePath)
  let thumbnails ← ask (.findThumbnails file.id)
  removeThumbnails file.storageBackend thumbnails
  ask (.deleteThumbnails file.id)
  ask (.removeFile file.id)

/-- The files of one kind; one that cannot be deleted is reported. -/
def cleanFiles (kind : String) (dryRun : Bool) (result : CleanupResult) :
    List UploadedFile → FileM CleanupResult
  | [] => pure result
  | file :: files =>
    if dryRun then
      cleanFiles kind dryRun { result with filesDeleted := result.filesDeleted + 1 } files
    else do
      let deleted ← (deleteFileAndThumbnails file).outcome
      match deleted with
      | .ok _ => cleanFiles kind dryRun { result with filesDeleted := result.filesDeleted + 1 } files
      | .error failure =>
        let error := "Failed to delete " ++ kind ++ " file " ++ String.ofList file.id.text ++ ": " ++
          failure.message
        cleanFiles kind dryRun { result with errors := result.errors ++ [error] } files

/-- The kinds of files, one after another; a query that fails ends the cleanup. -/
def cleanKinds (dryRun : Bool) (result : CleanupResult) :
    List (String × (Nat → FileQuery)) → FileM CleanupResult
  | [] => pure result
  | (kind, query) :: kinds => do
    let now ← dateNow
    let found ← (ask (.selectFiles (query now))).outcome
    match found with
    | .error failure =>
      pure { result with errors := result.errors ++ ["Cleanup error: " ++ failure.message] }
    | .ok files => do
      let scanned := { result with filesScanned := result.filesScanned + files.length }
      let cleaned ← cleanFiles kind dryRun scanned files
      cleanKinds dryRun cleaned kinds

def retention (olderThanSeconds : Option Nat) : Nat :=
  match olderThanSeconds with
  | some seconds => if seconds = 0 then config.orphanRetentionDays * 86400 else seconds
  | none => config.orphanRetentionDays * 86400

def cleanup (dto : FileCleanupDto) : FileM CleanupResult :=
  cleanKinds dto.dryRun ⟨0, 0, []⟩
    [("orphaned", fun now =>
        .orphaned (now - (retention config dto.olderThanSeconds * 1000 : Nat)) dto.userId),
      ("expired", fun now => .expired now),
      ("stale", fun now => .stale (now - 86400000))]

def scheduledCleanup : FileM CleanupResult :=
  if ! config.cleanupEnabled then pure ⟨0, 0, []⟩
  else cleanup config ⟨some (config.orphanRetentionDays * 86400), none, false⟩

end FileCleanupService

/-! ## The process -/

open FileStorageService FileCleanupService

def fileBody (host : FileHost) (config : FileConfig) : FileCall → FileM FileValue
  | .upload file userId dto => FileValue.uploaded <$> upload host config file userId dto
  | .updateMetadata fileId tags description =>
    FileValue.file <$> updateMetadata fileId tags description
  | .getDownloadUrl fileId expiresIn => FileValue.url <$> getDownloadUrl fileId expiresIn
  | .download fileId => (fun content => FileValue.content content.1 content.2) <$> download fileId
  | .delete fileId => (fun _ => FileValue.nothing) <$> delete fileId
  | .markOrphaned fileId => (fun _ => FileValue.nothing) <$> markOrphaned fileId
  | .generateThumbnail fileId width height format variant =>
    FileValue.thumbnail <$> requestThumbnail fileId width height format variant
  | .cleanup dto => FileValue.cleaned <$> cleanup config dto
  | .scheduledCleanup => FileValue.cleaned <$> scheduledCleanup config

/-- Any number of calls of the services; time goes on in between. -/
abbrev fileProcess (host : FileHost) (config : FileConfig) : Service filing where
  World := FileWorld
  Choice := FileAnswer
  Env := Nat
  respond := FileWorld.respond
  environment state time := ({ state.1 with now := time }, { state.2 with now := time })
  isPublic _ := true
  body := fileBody host config

end AlianStructure.Source.Files
