import AlianStructure.Guarantees.FileConduct
import AlianStructure.Library.CallsAlone

/-!
# What a download gives back

Source: src/infrastructure/file-upload/services/file-storage.service.ts:85-215, 296-310 and 368-384. The
bytes of a file are encrypted before they are stored, and the key is kept in the row; a download hands out
what is stored. The checksum of the row is always that of the uploaded bytes.
-/
namespace AlianStructure.Guarantees.FileRoundTrip
open Library.Interleaving Library.CallsAlone
open Source.Files FileStorageService FileConduct

variable {host : FileHost} {config : FileConfig}

/-- The file of an upload that has ended, with its id. -/
def uploaded (task : Task filing) : Option (MulterFile × Ident) :=
  match task.call, task.result with
  | .upload file _ _, some (.ok (.uploaded result)) => some (file, result.file.id)
  | _, _ => none

/-- What a download that has ended gave, with the id that was asked for. -/
def downloaded (task : Task filing) : Option (Ident × Bytes × UploadedFile) :=
  match task.call, task.result with
  | .download fileId, some (.ok (.content bytes row)) => some (fileId, bytes, row)
  | _, _ => none

/-- A file was uploaded, and under the id of the upload something was downloaded. -/
def RoundTrip (after : Config (fileProcess host config)) (file : MulterFile) (bytes : Bytes)
    (row : UploadedFile) : Prop :=
  ∃ upload ∈ after.pool, ∃ download ∈ after.pool, ∃ id,
    uploaded upload = some (file, id) ∧ downloaded download = some (id, bytes, row)

variable {state : FileState host config}

theorem uploaded_yields {task : Task filing} {file : MulterFile} {id : Ident}
    (ends : ∀ value, task.result = some (.ok value) → Yields task.call state value)
    (isUpload : uploaded task = some (file, id)) : ∃ backend, ⟨id, backend, file.buffer⟩ ∈ state.2.uploads := by
  unfold uploaded at isUpload
  split at isUpload
  next call result =>
    cases isUpload
    have yields := ends _ result
    rw [call] at yields
    exact yields
  next => cases isUpload

theorem downloaded_yields {task : Task filing} {id : Ident} {bytes : Bytes} {row : UploadedFile}
    (ends : ∀ value, task.result = some (.ok value) → Yields task.call state value)
    (isDownload : downloaded task = some (id, bytes, row)) : Delivered state id bytes row := by
  unfold downloaded at isDownload
  split at isDownload
  next call result =>
    cases isDownload
    have yields := ends _ result
    rw [call] at yields
    exact yields
  next => cases isDownload

theorem stored_eq_iff {original bytes : Bytes} (stored : Stored host config original bytes) :
    bytes = original ↔ config.encryptionEnabled = false := by
  unfold Stored at stored
  split at stored
  next encrypted =>
    obtain ⟨key, iv, rfl⟩ := stored
    refine iff_of_false (fun same => ?_) (by simp [encrypted])
    have lengths := congrArg List.length same
    have padded := host.padded key iv original
    rw [List.length_append] at lengths
    omega
  next plain => exact iff_of_true stored (by simpa using plain)

/-- A ready file whose object is kept can be downloaded: nothing has to happen but the operations of the
download. -/
theorem download_answered {row : UploadedFile} {bytes : Bytes}
    (found : state.1.files.findOne row.id = some row) (ready : row.status = .ready) (fits : row.fits = true)
    (kept : state.1.objects row.storageBackend row.storagePath = some bytes) :
    ∃ final counted, finish (fileProcess host config)
      [.reply (.does .plain), .reply (.does .plain), .reply (.does .plain)] state
        (download row.id) = some (final, .ok (bytes, counted)) := by
  have finds : (fileProcess host config).respond state.1 (.findFile row.id) (.does .plain) =
      some (state.1, .ok (some row)) := by
    change some (state.1, Except.ok (state.1.files.findOne row.id)) = _
    rw [found]
  have gets : (fileProcess host config).respond state.1 (.get row.storageBackend row.storagePath)
      (.does .plain) = some (state.1.touch row.storageBackend row.storagePath, .ok bytes) := by
    simp only [fileProcess, FileWorld.respond, FileWorld.effect, kept]
  obtain ⟨changed, saved, saves⟩ : ∃ changed saved, (fileProcess host config).respond
      (state.1.touch row.storageBackend row.storagePath)
      (.saveFile { row with downloadCount := row.downloadCount + 1 }) (.does .plain) =
        some (changed, .ok saved) := ⟨_, _, if_pos fits⟩
  refine ⟨(changed, state.2), saved, ?_⟩
  calc finish (fileProcess host config)
        [.reply (.does .plain), .reply (.does .plain), .reply (.does .plain)] state (download row.id)
      = finish (fileProcess host config) [.reply (.does .plain), .reply (.does .plain)] state
          (if row.status ≠ .ready then _ else _ : FileM (Bytes × UploadedFile)) := finish_reply finds
    _ = finish (fileProcess host config) [.reply (.does .plain)]
          (state.1.touch row.storageBackend row.storagePath, state.2) _ := by
        rw [if_neg (by simp [ready])]
        exact finish_reply gets
    _ = finish (fileProcess host config) [] (changed, state.2) _ := finish_reply saves
    _ = some ((changed, state.2), .ok (bytes, saved)) := rfl

/-- In every run, what is downloaded under the id of an upload is what was uploaded, with its digest, exactly
when encryption is off; and what is stored of a ready file can be downloaded. -/
theorem file_restored_iff (host : FileHost) (config : FileConfig) (now : Nat)
    (labels : List (Label (fileProcess host config))) (after : Config (fileProcess host config))
    (ran : run labels (Config.initial (fileProcess host config) FileWorld.empty ⟨now, 0, []⟩) = some after) :
    (∀ file bytes row, RoundTrip after file bytes row →
      (bytes = file.buffer ∧ row.checksum = host.sha256 file.buffer ↔ config.encryptionEnabled = false)) ∧
    ∀ row bytes, after.world.files.findOne row.id = some row → row.status = .ready →
      row.fits = true → after.world.objects row.storageBackend row.storagePath = some bytes →
      ∃ final counted, finish (fileProcess host config)
        [.reply (.does .plain), .reply (.does .plain), .reply (.does .plain)] (after.world, after.mem)
          (download row.id) = some (final, .ok (bytes, counted)) := by
  obtain ⟨filed, ended⟩ := filed_always ran
  refine ⟨?_, fun row bytes found ready fits kept => download_answered found ready fits kept⟩
  rintro file bytes row ⟨upload, uploads, download, downloads, id, isUpload, isDownload⟩
  obtain ⟨backend, logged⟩ := uploaded_yields (ended upload uploads) isUpload
  have delivered := downloaded_yields (ended download downloads) isDownload
  obtain ⟨original, listed, same, stored, checksum⟩ := delivered.stored
  obtain rfl := filed.upload_unique listed logged same
  rw [and_iff_left checksum]
  exact stored_eq_iff stored

theorem sampleId_plain (n : Nat) (c : Char) (plain : c.isDigit = false)
    (front : c ∉ "f81d4fae-7dec-41d0-a765-".toList) :
    c ∉ "f81d4fae-7dec-41d0-a765-".toList ++ digitsOf n := by
  rw [List.mem_append, not_or]
  refine ⟨front, fun digit => ?_⟩
  have isDigit := Nat.isDigit_of_mem_toDigits (by decide) (by decide) digit
  rw [plain] at isDigit
  cases isDigit

def sampleId (n : Nat) : Ident where
  text := "f81d4fae-7dec-41d0-a765-".toList ++ digitsOf n
  plain := sampleId_plain n '/' rfl (by decide)
  undotted := sampleId_plain n '.' rfl (by decide)
  filled := List.append_ne_nil_of_left_ne_nil (by decide) _

theorem sampleId_injective : Function.Injective sampleId := by
  intro n m same
  have digits : digitsOf n = digitsOf m := List.append_cancel_left (congrArg Ident.text same)
  rw [← Nat.ofDigitChars_ten_toDigits (n := n), ← Nat.ofDigitChars_ten_toDigits (n := m)]
  exact congrArg (Nat.ofDigitChars 10 · 0) digits

/-- The cipher of one text under a key and a vector of zeros, and the length of any other. -/
def sampleCipher (key iv bytes : Bytes) : Bytes :=
  if key = List.replicate 32 0 ∧ iv = List.replicate 16 0 ∧ bytes = [104, 105] then
    [71, 191, 155, 116, 39, 233, 199, 24, 182, 231, 230, 221, 162, 110, 93, 125]
  else bytes ++ List.replicate (16 - bytes.length % 16) 0

theorem sampleCipher_padded (key iv bytes : Bytes) : bytes.length < (sampleCipher key iv bytes).length := by
  unfold sampleCipher
  split
  next same =>
    rw [same.2.2]
    decide
  next =>
    rw [List.length_append, List.length_replicate]
    omega

def sampleHost : FileHost where
  uuid := sampleId
  uuid_injective := sampleId_injective
  randomBytes _ size := List.replicate size 0
  sha256 bytes :=
    if bytes = [104, 105] then "8f434346648f6b96df89dda901c5176b10a6d83961dd3c1ac88b59b2dc327aa4"
    else ""
  aes256cbc := sampleCipher
  padded := sampleCipher_padded
  engines := ["clamav", "virustotal"]

def sampleConfig (encryptionEnabled scanEnabled : Bool) : FileConfig where
  storageBackend := .localStorage
  defaultExpiryHours := 720
  maxFileSize := 104857600
  encryptionEnabled := encryptionEnabled
  scanEnabled := scanEnabled
  cleanupEnabled := true
  orphanRetentionDays := 30
  basePath := "/srv/uploads".toList

def greeting : MulterFile := ⟨"note.txt".toList, "text/plain", 2, [104, 105]⟩

/-- A text is uploaded and downloaded; every operation is carried out. -/
def uploadAndDownload (config : FileConfig) : List (Label (fileProcess sampleHost config)) :=
  [.call (.upload greeting (sampleId 0) ⟨none, [], none, none⟩), .resume 0, .reply 0 (.does .plain),
    .reply 0 (.does .plain), .reply 0 (.does .plain), .reply 0 (.does .plain),
    .call (.download (sampleId 0)), .reply 1 (.does .plain), .reply 1 (.does .plain),
    .reply 1 (.does .plain)]

/-- Without encryption the text comes back. -/
theorem greeting_restored : ∃ after row,
    run (uploadAndDownload (sampleConfig false false))
      (Config.initial (fileProcess sampleHost (sampleConfig false false)) FileWorld.empty ⟨0, 0, []⟩) =
        some after ∧ RoundTrip after greeting [104, 105] row ∧
      row.checksum = "8f434346648f6b96df89dda901c5176b10a6d83961dd3c1ac88b59b2dc327aa4" := by
  obtain ⟨after, ran, upload, uploads, download, downloads, up, isUpload, down, isDownload, same, bytes⟩ :=
    (by decide +kernel : ∃ after, run (uploadAndDownload (sampleConfig false false))
      (Config.initial (fileProcess sampleHost (sampleConfig false false)) FileWorld.empty ⟨0, 0, []⟩) =
        some after ∧ ∃ upload ∈ after.pool, ∃ download ∈ after.pool, ∃ up ∈ uploaded upload,
          ∃ down ∈ downloaded download, up = (greeting, down.1) ∧ down.2.1 = [104, 105])
  subst same
  obtain ⟨id, content, row⟩ := down
  obtain rfl : content = [104, 105] := bytes
  have round : RoundTrip after greeting [104, 105] row :=
    ⟨upload, uploads, download, downloads, id, isUpload, isDownload⟩
  have restored := (file_restored_iff sampleHost (sampleConfig false false) 0
    (uploadAndDownload (sampleConfig false false)) after ran).1 greeting [104, 105] row round
  exact ⟨after, row, ran, round, (restored.mpr rfl).2⟩

/-- What the sample cipher makes of the greeting, after the vector. -/
def encryptedGreeting : Bytes :=
  List.replicate 16 0 ++ [71, 191, 155, 116, 39, 233, 199, 24, 182, 231, 230, 221, 162, 110, 93, 125]

/-- With encryption the vector and the encrypted text come back. -/
theorem greeting_encrypted : ∃ after row, run (uploadAndDownload (sampleConfig true false))
      (Config.initial (fileProcess sampleHost (sampleConfig true false)) FileWorld.empty ⟨0, 0, []⟩) =
        some after ∧ RoundTrip after greeting encryptedGreeting row ∧ encryptedGreeting ≠ greeting.buffer := by
  obtain ⟨after, ran, upload, uploads, download, downloads, up, isUpload, down, isDownload, same, bytes⟩ :=
    (by decide +kernel : ∃ after, run (uploadAndDownload (sampleConfig true false))
      (Config.initial (fileProcess sampleHost (sampleConfig true false)) FileWorld.empty ⟨0, 0, []⟩) =
        some after ∧ ∃ upload ∈ after.pool, ∃ download ∈ after.pool, ∃ up ∈ uploaded upload,
          ∃ down ∈ downloaded download, up = (greeting, down.1) ∧ down.2.1 = encryptedGreeting)
  subst same
  obtain ⟨id, content, row⟩ := down
  obtain rfl : content = encryptedGreeting := bytes
  have round : RoundTrip after greeting encryptedGreeting row :=
    ⟨upload, uploads, download, downloads, id, isUpload, isDownload⟩
  exact ⟨after, row, ran, round, by decide⟩

end AlianStructure.Guarantees.FileRoundTrip
