import AlianStructure.Library.RelyGuarantee
import AlianStructure.Source.Files.FileStorageService

/-!
# What the file services rely on

Source: src/infrastructure/file-upload/services/*.ts. Whatever calls are under way, a row describes bytes
that were uploaded under its id, an object at the path of a file is what was stored for these bytes, a
file is ready only when every engine has been asked, and the local backend works on the paths of files
and of thumbnails.
-/
namespace AlianStructure.Guarantees.FileConduct
open Library.Interleaving Library.CallsInTurn Library.RelyGuarantee
open Library.KeyedTable Library.PathResolution
open Source Source.Files FileStorageService FileCleanupService

variable {host : FileHost} {config : FileConfig} {fits : FileThumbnail → Prop}

/-! ## The paths of files -/

/-- A path under which the bytes of a file are stored. -/
def UploadPath (id : Ident) (path : List Char) : Prop :=
  ∃ userId now ext, '.' ∉ ext ∧ path = storedPath userId now (id.text ++ '.' :: ext)

theorem lastPart_plain (name : List Char) : '.' ∉ lastPart name := by
  intro member
  have isPart : lastPart name ∈ split '.' name := by
    unfold lastPart
    rw [List.getLastD_eq_getLast?, List.getLast?_eq_some_getLast (split_ne_nil name),
      Option.getD_some]
    exact List.getLast_mem _
  exact (mem_of_part isPart '.' member).2 rfl

theorem padded_digits (width n : Nat) : ∀ c ∈ (Auth.DelegationService.padded width n).toList, c.isDigit = true := by
  intro c member
  rw [Auth.DelegationService.padded, String.toList_append, List.mem_append, String.toList_ofList]
    at member
  rcases member with zero | digit
  · rw [(List.mem_replicate.mp zero).2]
    rfl
  · rw [Nat.toString_eq_repr, Nat.toList_repr] at digit
    exact Nat.isDigit_of_mem_toDigits (by decide) (by decide) digit

theorem padded_cons (width n : Nat) : ∃ c rest,
    (Auth.DelegationService.padded width n).toList = c :: rest ∧ c ≠ '.' := by
  have digits := padded_digits width n
  cases chars : (Auth.DelegationService.padded width n).toList with
  | nil =>
    rw [Auth.DelegationService.padded, String.toList_append, List.append_eq_nil_iff,
      Nat.toString_eq_repr, Nat.toList_repr] at chars
    exact absurd chars.2 Nat.toDigits_ne_nil
  | cons c rest =>
    refine ⟨c, rest, rfl, ?_⟩
    rintro rfl
    rw [chars] at digits
    exact absurd (digits '.' List.mem_cons_self) (by decide)

theorem iso_text (now : Nat) : '/' ∉ (Auth.DelegationService.toISOString now).toList ∧
    ∃ c rest, (Auth.DelegationService.toISOString now).toList = c :: rest ∧ c ≠ '.' := by
  have noSlash : ∀ width n, '/' ∉ (Auth.DelegationService.padded width n).toList := fun width n slash =>
    absurd (padded_digits width n '/' slash) (by decide)
  unfold Auth.DelegationService.toISOString
  generalize Auth.DelegationService.civil (now / 86400000) = date
  generalize now % 86400000 = ms
  obtain ⟨year, month, day⟩ := date
  dsimp only
  refine ⟨?_, ?_⟩
  · split <;> simp [noSlash]
  · simp only [String.toList_append, List.append_assoc]
    split
    next =>
      obtain ⟨c, rest, chars, notDot⟩ := padded_cons 4 year
      rw [chars]
      exact ⟨c, _, List.cons_append, notDot⟩
    next => exact ⟨'+', _, by simp only [String.toList_append]; rfl, by decide⟩

theorem month_plain (now : Nat) : '/' ∉ month now ∧ month now ≠ upward := by
  obtain ⟨noSlash, c, rest, chars, notDot⟩ := iso_text now
  refine ⟨fun slash => noSlash (List.mem_of_mem_take slash), fun dots => ?_⟩
  rw [month, chars] at dots
  exact notDot (List.cons.inj dots).1

variable {path : List Char}

/-- A name that begins with an id has no double dot, whatever stands after the extension. -/
theorem name_level (id : Ident) {ext rest : List Char} (plain : '.' ∉ ext) (flat : '/' ∉ rest)
    (other : ¬ rest <:+ upward ∨ rest = []) : upward ∉ segments (id.text ++ '.' :: (ext ++ rest)) := by
  obtain ⟨first, others, parts⟩ := List.exists_cons_of_ne_nil (split_ne_nil (ext ++ rest) : split '/' _ ≠ [])
  have front : '/' ∉ id.text ++ ['.'] := by simp [id.plain]
  have named : segments (id.text ++ '.' :: (ext ++ rest)) = (id.text ++ ['.'] ++ first) :: others := by
    rw [List.append_cons]
    exact split_append front parts
  rw [named]
  intro climbs
  have dot : '.' ∈ upward := List.mem_cons_self
  rcases List.mem_cons.mp climbs with name | later
  · obtain ⟨c, rest, chars⟩ := List.exists_cons_of_ne_nil id.filled
    rw [chars] at name
    have head : c = '.' := (List.cons.inj name).1.symm
    exact id.undotted (by rw [chars, head]; exact List.mem_cons_self)
  · rcases part_append flat (parts ▸ List.mem_cons_of_mem _ later) with inside | ⟨filled, ends⟩
    · exact plain (inside '.' dot)
    · exact other.elim (fun differs => differs ends) filled

theorem UploadPath.inside {id : Ident} (isPath : UploadPath id path) (base : List Char) : Inside base path := by
  obtain ⟨userId, now, ext, plain, rfl⟩ := isPath
  refine inside_of_level base ?_
  obtain ⟨noSlash, notUpward⟩ := month_plain now
  have whole : segments (storedPath userId now (id.text ++ '.' :: ext)) =
      userId.text :: month now :: segments (id.text ++ '.' :: ext) :=
    (split_cons userId.plain _).trans (congrArg _ (split_cons noSlash _))
  rw [whole]
  intro climbs
  rcases List.mem_cons.mp climbs with user | climbs
  · exact userId.undotted (user ▸ List.mem_cons_self)
  · rcases List.mem_cons.mp climbs with same | climbs
    · exact notUpward same.symm
    · have level := name_level id plain (List.not_mem_nil (a := '/')) (Or.inr rfl)
      rw [List.append_nil] at level
      exact level climbs

theorem append_sep_inj {sep : Char} {a b rest rest' : List Char} (first : sep ∉ a) (second : sep ∉ b)
    (same : a ++ sep :: rest = b ++ sep :: rest') : a = b ∧ rest = rest' := by
  have parts := congrArg (split sep) same
  rw [split_cons first, split_cons second] at parts
  have equal : a = b := (List.cons.inj parts).1
  subst equal
  exact ⟨rfl, (List.cons.inj (List.append_cancel_left same)).2⟩

theorem UploadPath.unique {id other : Ident} (isPath : UploadPath id path)
    (isOther : UploadPath other path) : id.text = other.text := by
  obtain ⟨userId, now, ext, _, isStored⟩ := isPath
  obtain ⟨userId', now', ext', _, isStored'⟩ := isOther
  have same := isStored.symm.trans isStored'
  obtain ⟨_, months⟩ := append_sep_inj userId.plain userId'.plain same
  obtain ⟨_, names⟩ := append_sep_inj (month_plain now).1 (month_plain now').1 months
  exact (append_sep_inj id.undotted other.undotted names).1

/-! ## What is kept -/

abbrev FileState (host : FileHost) (config : FileConfig) := State (fileProcess host config)

/-- What the storage has of bytes that were uploaded. -/
def Stored (host : FileHost) (config : FileConfig) (original bytes : Bytes) : Prop :=
  if config.encryptionEnabled then ∃ key iv, bytes = iv ++ host.aes256cbc key iv original
  else bytes = original

/-- Every engine has been asked about a file: it has found nothing, or it has failed. -/
def Checked (host : FileHost) (config : FileConfig) (history : FileHistory) (id : Ident) : Prop :=
  ∀ engine ∈ registered host config, (id, engine) ∈ history.cleared ∨ (id, engine) ∈ history.failed

/-- The name of a file is its id with an extension. -/
def Named (file : UploadedFile) : Prop := ∃ ext, '.' ∉ ext ∧ file.storedName = file.id.text ++ '.' :: ext

/-- A row of a file, or an entity that a call has. -/
structure Described (state : FileState host config) (file : UploadedFile) : Prop where
  original : ∃ upload ∈ state.2.uploads, upload.id = file.id ∧
    upload.backend = file.storageBackend ∧ file.checksum = host.sha256 upload.bytes
  named : Named file
  path : UploadPath file.id file.storagePath
  checked : file.status = .ready → Checked host config state.1.history file.id

/-- The object at a path is what was stored for a file. -/
def Holds (state : FileState host config) (path : List Char) (bytes : Bytes) : Prop :=
  ∃ upload ∈ state.2.uploads, UploadPath upload.id path ∧ Stored host config upload.bytes bytes

/-- A file is kept by another backend than the local one. -/
def Remote (state : FileState host config) (id : Ident) : Prop :=
  ∃ upload ∈ state.2.uploads, upload.id = id ∧ upload.backend ≠ .localStorage

/-- A path inside the base, or that of a thumbnail. -/
def Touchable (state : FileState host config) (path : List Char) : Prop :=
  Inside config.basePath path ∨
    ∃ thumbnail ∈ state.1.history.thumbnails, thumbnail.storagePath = path

structure Filed (fits : FileThumbnail → Prop) (state : FileState host config) : Prop where
  files : ∀ file ∈ state.1.files.rows, Described state file
  objects : ∀ backend path bytes, state.1.objects backend path = some bytes → Holds state path bytes
  touched : ∀ path ∈ state.1.history.touched, Touchable state path
  thumbnails : ∀ thumbnail ∈ state.1.thumbnails,
    thumbnail ∈ state.1.history.thumbnails ∨ Remote state thumbnail.fileId
  fit : ∀ thumbnail ∈ state.1.history.thumbnails, fits thumbnail
  ids : ∀ upload ∈ state.2.uploads, ∃ n < state.2.draws, upload.id = host.uuid n
  distinct : (state.2.uploads.map (·.id)).Nodup

/-- The histories grow. -/
structure Grows (state later : FileState host config) : Prop where
  uploads : state.2.uploads ⊆ later.2.uploads
  cleared : state.1.history.cleared ⊆ later.1.history.cleared
  failed : state.1.history.failed ⊆ later.1.history.failed
  signed : state.1.history.signed ⊆ later.1.history.signed
  thumbnails : state.1.history.thumbnails ⊆ later.1.history.thumbnails

section Growth
variable {state later : FileState host config}

theorem Grows.refl (state : FileState host config) : Grows state state :=
  ⟨List.Subset.refl _, List.Subset.refl _, List.Subset.refl _, List.Subset.refl _, List.Subset.refl _⟩

theorem Grows.trans {final : FileState host config} (first : Grows state later)
    (second : Grows later final) : Grows state final :=
  ⟨List.Subset.trans first.uploads second.uploads, List.Subset.trans first.cleared second.cleared,
    List.Subset.trans first.failed second.failed, List.Subset.trans first.signed second.signed,
    List.Subset.trans first.thumbnails second.thumbnails⟩

theorem Checked.grow {id : Ident} (grows : Grows state later) (checked : Checked host config state.1.history id) :
    Checked host config later.1.history id := fun engine member =>
  (checked engine member).imp (fun clean => grows.cleared clean) (fun failed => grows.failed failed)

variable {file : UploadedFile}

theorem Described.grow (grows : Grows state later) (described : Described state file) : Described later file := by
  obtain ⟨upload, uploaded, is⟩ := described.original
  exact ⟨⟨upload, grows.uploads uploaded, is⟩, described.named, described.path,
    fun ready => (described.checked ready).grow grows⟩

theorem Holds.grow {bytes : Bytes} (grows : Grows state later) (holds : Holds state path bytes) :
    Holds later path bytes := by
  obtain ⟨upload, uploaded, rest⟩ := holds
  exact ⟨upload, grows.uploads uploaded, rest⟩

theorem Remote.grow {id : Ident} (grows : Grows state later) (remote : Remote state id) : Remote later id := by
  obtain ⟨upload, uploaded, rest⟩ := remote
  exact ⟨upload, grows.uploads uploaded, rest⟩

theorem Touchable.grow (grows : Grows state later) (touchable : Touchable state path) : Touchable later path := by
  refine touchable.imp id fun ⟨thumbnail, member, same⟩ => ?_
  exact ⟨thumbnail, grows.thumbnails member, same⟩

theorem Filed.grow (filed : Filed fits state) (grows : Grows state later)
    (files : later.1.files = state.1.files) (objects : later.1.objects = state.1.objects)
    (touched : later.1.history.touched = state.1.history.touched)
    (thumbnails : ∀ thumbnail ∈ later.1.thumbnails, thumbnail ∈ state.1.thumbnails)
    (logged : later.1.history.thumbnails = state.1.history.thumbnails)
    (mem : later.2.uploads = state.2.uploads) (draws : state.2.draws ≤ later.2.draws) : Filed fits later where
  files file member := (filed.files file (files ▸ member)).grow grows
  objects backend path bytes stored := (filed.objects backend path bytes (objects ▸ stored)).grow grows
  touched path member := (filed.touched path (touched ▸ member)).grow grows
  thumbnails thumbnail member := (filed.thumbnails thumbnail (thumbnails thumbnail member)).imp
    (fun logged => grows.thumbnails logged) (Remote.grow grows)
  fit thumbnail member := filed.fit thumbnail (logged ▸ member)
  ids upload member := by
    obtain ⟨n, below, isId⟩ := filed.ids upload (mem ▸ member)
    exact ⟨n, Nat.lt_of_lt_of_le below draws, isId⟩
  distinct := mem ▸ filed.distinct

end Growth

def filed (host : FileHost) (config : FileConfig) (fits : FileThumbnail → Prop) :
    Rely (fileProcess host config) where
  holds := Filed fits
  moves := Grows
  allowed _ _ := True
  starts _ := False
  refl := Grows.refl
  trans := Grows.trans
  environment state time holds _ := by
    have grows : Grows state ((fileProcess host config).environment state time) :=
      ⟨List.Subset.refl _, List.Subset.refl _, List.Subset.refl _, List.Subset.refl _,
        List.Subset.refl _⟩
    exact ⟨holds.grow grows rfl rfl rfl (fun _ => id) rfl rfl (Nat.le_refl _), grows⟩

/-! ## The operations -/

/-- What a call must know before it asks for an operation. -/
def Safe (fits : FileThumbnail → Prop) (state : FileState host config) : FileOp → Prop
  | .saveFile file => Described state file
  | .saveThumbnail thumbnail => fits thumbnail
  | .put _ path buffer _ => Holds state path buffer
  | .get backend path | .remove backend path => backend = .localStorage → Touchable state path
  | _ => True

/-- What a call knows after an answer. -/
def Answered (state : FileState host config) : (op : FileOp) → op.Reply → Prop
  | .findFile id, found => ∀ file ∈ found, Described state file ∧ file.id = id
  | .selectFiles _, files => ∀ file ∈ files, Described state file
  | .saveFile file, saved => ∃ created, saved = { file with createdAt := created }
  | .findThumbnails id, thumbnails => ∀ thumbnail ∈ thumbnails,
    thumbnail ∈ state.1.history.thumbnails ∨ Remote state id
  | .scan engine id _ _, verdict => verdict.clean = true → (id, engine) ∈ state.1.history.cleared
  | .get _ path, bytes => Holds state path bytes
  | .signedUrl file _, _ => (file.id, file.status) ∈ state.1.history.signed
  | _, _ => True

section Operations
variable {state later : FileState host config} {op : FileOp}

theorem Safe.grow (grows : Grows state later) (safe : Safe fits state op) : Safe fits later op := by
  cases op with
  | saveFile file => exact Described.grow grows safe
  | saveThumbnail thumbnail => exact safe
  | put backend path buffer contentType => exact Holds.grow grows safe
  | get backend path => exact fun isLocal => (safe isLocal).grow grows
  | remove backend path => exact fun isLocal => (safe isLocal).grow grows
  | _ => trivial

theorem Answered.grow {reply : op.Reply} (grows : Grows state later) (answered : Answered state op reply) :
    Answered later op reply := by
  cases op with
  | findFile id => exact fun file found => ⟨(answered file found).1.grow grows, (answered file found).2⟩
  | selectFiles query => exact fun file member => (answered file member).grow grows
  | saveFile file => exact answered
  | findThumbnails id =>
    intro thumbnail member
    exact Or.imp (fun logged => grows.thumbnails logged) (Remote.grow grows) (answered thumbnail member)
  | scan engine id path buffer => exact fun clean => grows.cleared (answered clean)
  | get backend path => exact Holds.grow grows answered
  | signedUrl file expiresIn => exact grows.signed answered
  | _ => trivial

/-- A described file with other values in the columns that nothing is known of. -/
theorem Described.congr {file other : UploadedFile} (described : Described state file)
    (id : other.id = file.id) (checksum : other.checksum = file.checksum)
    (backend : other.storageBackend = file.storageBackend)
    (name : other.storedName = file.storedName) (path : other.storagePath = file.storagePath)
    (checked : other.status = .ready → Checked host config state.1.history file.id) : Described state other where
  original := by
    rw [id, checksum, backend]
    exact described.original
  named := by
    rw [Named, id, name]
    exact described.named
  path := by
    rw [id, path]
    exact described.path
  checked := by
    rw [id]
    exact checked

abbrev onto (state : FileState host config) (world : FileWorld) : FileState host config :=
  (world, state.2)

variable {world : FileWorld}

theorem grows_world (cleared : state.1.history.cleared ⊆ world.history.cleared)
    (failed : state.1.history.failed ⊆ world.history.failed) (signed : state.1.history.signed ⊆ world.history.signed)
    (thumbnails : state.1.history.thumbnails ⊆ world.history.thumbnails) :
    Grows state (onto state world) := ⟨List.Subset.refl _, cleared, failed, signed, thumbnails⟩

theorem grows_still (cleared : world.history.cleared = state.1.history.cleared)
    (failed : world.history.failed = state.1.history.failed) (signed : world.history.signed = state.1.history.signed)
    (thumbnails : world.history.thumbnails = state.1.history.thumbnails) : Grows state (onto state world) :=
  grows_world (cleared ▸ List.Subset.refl _) (failed ▸ List.Subset.refl _)
    (signed ▸ List.Subset.refl _) (thumbnails ▸ List.Subset.refl _)

theorem Filed.step (filed : Filed fits state) (grows : Grows state (onto state world))
    (files : ∀ file ∈ world.files.rows, file ∈ state.1.files.rows ∨ Described state file)
    (objects : ∀ backend path bytes, world.objects backend path = some bytes →
      state.1.objects backend path = some bytes ∨ Holds state path bytes)
    (touched : ∀ path ∈ world.history.touched, path ∈ state.1.history.touched ∨ Touchable state path)
    (thumbnails : ∀ thumbnail ∈ world.thumbnails, thumbnail ∈ state.1.thumbnails ∨
      thumbnail ∈ world.history.thumbnails ∨ Remote state thumbnail.fileId)
    (fit : ∀ thumbnail ∈ world.history.thumbnails, thumbnail ∈ state.1.history.thumbnails ∨ fits thumbnail) :
    Filed fits (onto state world) where
  files file member :=
    ((files file member).elim (filed.files file) fun described => described).grow grows
  objects backend path bytes stored :=
    ((objects backend path bytes stored).elim (filed.objects backend path bytes) id).grow grows
  touched path member := ((touched path member).elim (filed.touched path) id).grow grows
  thumbnails thumbnail member := by
    rcases thumbnails thumbnail member with old | logged | remote
    · exact (filed.thumbnails thumbnail old).imp (fun logged => grows.thumbnails logged)
        (Remote.grow grows)
    · exact Or.inl logged
    · exact Or.inr (remote.grow grows)
  fit thumbnail member := (fit thumbnail member).elim (filed.fit thumbnail) id
  ids := filed.ids
  distinct := filed.distinct

/-- What an effect leads to. -/
structure Leads (fits : FileThumbnail → Prop) (state : FileState host config) (op : FileOp)
    (world : FileWorld) (result : Except Exception op.Reply) : Prop where
  filed : Filed fits (onto state world)
  grows : Grows state (onto state world)
  answered : ∀ reply, result = .ok reply → Answered (onto state world) op reply

theorem leads_same (filed : Filed fits state) {result : Except Exception op.Reply}
    (answered : ∀ reply, result = .ok reply → Answered state op reply) :
    Leads fits state op state.1 result := ⟨filed, Grows.refl state, answered⟩

theorem leads_logged (filed : Filed fits state) {result : Except Exception op.Reply}
    (grows : Grows state (onto state world)) (files : world.files = state.1.files)
    (objects : world.objects = state.1.objects) (touched : world.history.touched = state.1.history.touched)
    (thumbnails : world.thumbnails = state.1.thumbnails)
    (logged : world.history.thumbnails = state.1.history.thumbnails)
    (answered : ∀ reply, result = .ok reply → Answered (onto state world) op reply) :
    Leads fits state op world result :=
  ⟨filed.step grows (fun _ member => Or.inl (files ▸ member))
    (fun _ _ _ stored => Or.inl (objects ▸ stored)) (fun _ member => Or.inl (touched ▸ member))
    (fun _ member => Or.inl (thumbnails ▸ member)) (fun _ member => Or.inl (logged ▸ member)), grows,
    answered⟩

theorem Filed.touch (filed : Filed fits state) (backend : FileStorageBackend)
    (touchable : backend = .localStorage → Touchable state path) :
    Filed fits (onto state (state.1.touch backend path)) ∧ Grows state (onto state (state.1.touch backend path)) := by
  have grows : Grows state (onto state (state.1.touch backend path)) := by
    cases backend <;> exact grows_still rfl rfl rfl rfl
  refine ⟨?_, grows⟩
  cases backend with
  | localStorage =>
    refine filed.step grows (fun _ => Or.inl) (fun _ _ _ => Or.inl) (fun other member => ?_)
      (fun _ => Or.inl) fun _ => Or.inl
    rcases List.mem_append.mp member with old | new
    · exact Or.inl old
    · rw [List.mem_singleton.mp new]
      exact Or.inr (touchable rfl)
  | s3 => exact filed
  | azureBlob => exact filed

theorem Filed.setObject (filed : Filed fits state) (backend : FileStorageBackend) {object : Option Bytes}
    (holds : ∀ bytes ∈ object, Holds state path bytes) :
    Filed fits (onto state (state.1.setObject backend path object)) ∧
      Grows state (onto state (state.1.setObject backend path object)) := by
  have grows : Grows state (onto state (state.1.setObject backend path object)) :=
    grows_still rfl rfl rfl rfl
  refine ⟨filed.step grows (fun _ => Or.inl) (fun other key bytes stored => ?_) (fun _ => Or.inl)
    (fun _ => Or.inl) fun _ => Or.inl, grows⟩
  simp only [FileWorld.setObject] at stored
  split at stored
  next same =>
    rw [same.2]
    exact Or.inr (holds bytes stored)
  next => exact Or.inl stored

variable {how : FileEffect}

theorem saveFile_leads (filed : Filed fits state) (described : Described state file)
    {result : Except Exception UploadedFile} (does : state.1.effect (.saveFile file) how = some (world, result)) :
    Leads fits state (.saveFile file) world result := by
  cases how with
  | plain =>
    obtain ⟨_, saves⟩ := Option.ite_none_right_eq_some.mp does
    cases saves
    refine ⟨filed.step (grows_still rfl rfl rfl rfl) (fun other member => ?_) (fun _ _ _ => Or.inl)
      (fun _ => Or.inl) (fun _ => Or.inl) fun _ => Or.inl, grows_still rfl rfl rfl rfl,
      fun reply isOk => ?_⟩
    · rcases Table.mem_save.mp member with rfl | ⟨old, _⟩
      · exact Or.inr (described.congr rfl rfl rfl rfl rfl described.checked)
      · exact Or.inl old
    · cases isOk
      exact ⟨_, rfl⟩
  | _ => cases does

variable {result : Except Exception Unit}

theorem removeFile_leads (filed : Filed fits state) {id : Ident}
    (does : state.1.effect (.removeFile id) how = some (world, result)) :
    Leads fits state (.removeFile id) world result := by
  cases how with
  | plain =>
    cases does
    exact ⟨filed.step (grows_still rfl rfl rfl rfl)
      (fun _ member => Or.inl (List.mem_of_mem_filter member)) (fun _ _ _ => Or.inl) (fun _ => Or.inl)
      (fun _ member => Or.inl (List.mem_of_mem_filter member)) fun _ => Or.inl,
      grows_still rfl rfl rfl rfl, fun _ _ => trivial⟩
  | _ => cases does

theorem saveThumbnail_leads (filed : Filed fits state) {thumbnail : FileThumbnail} (fit : fits thumbnail)
    (does : state.1.effect (.saveThumbnail thumbnail) how = some (world, result)) :
    Leads fits state (.saveThumbnail thumbnail) world result := by
  cases how with
  | plain =>
    obtain ⟨_, saves⟩ := Option.ite_none_right_eq_some.mp does
    obtain ⟨file, found, same⟩ := Option.map_eq_some_iff.mp saves
    cases same
    have grows : Grows state (onto state { state.1 with
        thumbnails := state.1.thumbnails ++ [thumbnail]
        history := { state.1.history with
          thumbnails := state.1.history.thumbnails ++
            if file.storageBackend = .localStorage then [thumbnail] else [] } }) :=
      grows_world (List.Subset.refl _) (List.Subset.refl _) (List.Subset.refl _)
        (List.subset_append_left _ _)
    refine ⟨filed.step grows (fun _ => Or.inl) (fun _ _ _ => Or.inl) (fun _ => Or.inl)
      (fun other member => ?_) fun other member => ?_, grows, fun _ _ => trivial⟩
    · rcases List.mem_append.mp member with old | new
      · exact Or.inl old
      · rw [List.mem_singleton.mp new]
        by_cases isLocal : file.storageBackend = .localStorage
        · refine Or.inr (Or.inl (List.mem_append_right _ ?_))
          rw [if_pos isLocal]
          exact List.mem_singleton_self _
        · obtain ⟨upload, uploaded, sameId, backend, _⟩ :=
            (filed.files file (Table.findOne_mem found)).original
          have named : file.id = thumbnail.fileId := Table.findOne_key found
          exact Or.inr (Or.inr ⟨upload, uploaded, sameId.trans named, backend ▸ isLocal⟩)
    · rcases List.mem_append.mp member with old | new
      · exact Or.inl old
      · split at new
        next => exact Or.inr (List.mem_singleton.mp new ▸ fit)
        next => cases new
  | _ => cases does

theorem deleteThumbnails_leads (filed : Filed fits state) {id : Ident}
    (does : state.1.effect (.deleteThumbnails id) how = some (world, result)) :
    Leads fits state (.deleteThumbnails id) world result := by
  cases how with
  | plain =>
    cases does
    exact ⟨filed.step (grows_still rfl rfl rfl rfl) (fun _ => Or.inl) (fun _ _ _ => Or.inl)
      (fun _ => Or.inl) (fun _ member => Or.inl (List.mem_of_mem_filter member)) fun _ => Or.inl,
      grows_still rfl rfl rfl rfl, fun _ _ => trivial⟩
  | _ => cases does

theorem scan_leads (filed : Filed fits state) {engine : String} {id : Ident} {buffer : Bytes}
    {result : Except Exception ScanVerdict}
    (does : state.1.effect (.scan engine id path buffer) how = some (world, result)) :
    Leads fits state (.scan engine id path buffer) world result ∧
      ∀ failure, result = .error failure → (id, engine) ∈ world.history.failed := by
  have last : ∀ entries : List (Ident × String), (id, engine) ∈ entries ++ [(id, engine)] :=
    fun _ => List.mem_append_right _ (List.mem_singleton_self _)
  cases how with
  | verdict verdict =>
    cases does
    refine ⟨?_, nofun⟩
    by_cases clean : verdict.clean = true
    · rw [if_pos clean]
      refine leads_logged filed (grows_world (List.subset_append_left _ _) (List.Subset.refl _)
        (List.Subset.refl _) (List.Subset.refl _)) rfl rfl rfl rfl rfl fun _ _ _ => last _
    · rw [if_neg clean]
      refine leads_same filed fun reply isOk => ?_
      cases isOk
      exact fun isClean => absurd isClean clean
  | crashed failure =>
    cases does
    exact ⟨leads_logged filed (grows_world (List.Subset.refl _) (List.subset_append_left _ _)
      (List.Subset.refl _) (List.Subset.refl _)) rfl rfl rfl rfl rfl nofun, fun _ _ => last _⟩
  | _ => cases does

variable {backend : FileStorageBackend}

/-- An object at the path of a file is put there; a remote backend may take it only. -/
theorem put_leads (filed : Filed fits state) {buffer : Bytes} {contentType : String} (holds : Holds state path buffer)
    (does : state.1.effect (.put backend path buffer contentType) how = some (world, result)) :
    Leads fits state (.put backend path buffer contentType) world result := by
  have inside : Inside config.basePath path := by
    obtain ⟨_, _, isPath, _⟩ := id holds
    exact isPath.inside config.basePath
  obtain ⟨touched, moved⟩ := filed.touch backend fun _ => Or.inl inside
  cases how with
  | plain =>
    cases does
    have object : ∀ bytes ∈ some buffer, Holds (onto state (state.1.touch backend path)) path bytes :=
      fun bytes same => Option.some.inj same ▸ holds.grow moved
    obtain ⟨stored, more⟩ := touched.setObject backend object
    exact ⟨stored, moved.trans more, fun _ _ => trivial⟩
  | unstored =>
    obtain ⟨_, takes⟩ := Option.ite_none_left_eq_some.mp does
    cases takes
    exact ⟨touched, moved, fun _ _ => trivial⟩
  | _ => cases does

theorem get_leads (filed : Filed fits state) (touchable : backend = .localStorage → Touchable state path)
    {result : Except Exception Bytes} (does : state.1.effect (.get backend path) how = some (world, result)) :
    Leads fits state (.get backend path) world result := by
  obtain ⟨touched, moved⟩ := filed.touch backend touchable
  cases how with
  | plain =>
    cases does
    refine ⟨touched, moved, fun bytes isOk => ?_⟩
    split at isOk
    next found stored =>
      cases isOk
      exact (filed.objects backend path _ stored).grow moved
    next => cases isOk
  | _ => cases does

theorem remove_leads (filed : Filed fits state) (touchable : backend = .localStorage → Touchable state path)
    (does : state.1.effect (.remove backend path) how = some (world, result)) :
    Leads fits state (.remove backend path) world result := by
  obtain ⟨touched, moved⟩ := filed.touch backend touchable
  cases how with
  | plain =>
    cases does
    have object : ∀ bytes ∈ (none : Option Bytes),
        Holds (onto state (state.1.touch backend path)) path bytes := nofun
    obtain ⟨stored, more⟩ := touched.setObject backend object
    exact ⟨stored, moved.trans more, fun _ _ => trivial⟩
  | unstored =>
    obtain ⟨_, takes⟩ := Option.ite_none_left_eq_some.mp does
    cases takes
    exact ⟨touched, moved, fun _ _ => trivial⟩
  | _ => cases does

theorem effect_leads (filed : Filed fits state) (safe : Safe fits state op) {result : Except Exception op.Reply}
    (does : state.1.effect op how = some (world, result)) : Leads fits state op world result := by
  cases op with
  | saveFile file => exact saveFile_leads filed safe does
  | removeFile id => exact removeFile_leads filed does
  | saveThumbnail thumbnail => exact saveThumbnail_leads filed safe does
  | deleteThumbnails id => exact deleteThumbnails_leads filed does
  | scan engine id path buffer => exact (scan_leads filed does).1
  | put backend path buffer contentType => exact put_leads filed safe does
  | get backend path => exact get_leads filed safe does
  | remove backend path => exact remove_leads filed safe does
  | findFile id =>
    cases how with
    | plain =>
      cases does
      refine leads_same filed fun found isOk file same => ?_
      cases isOk
      exact ⟨filed.files file (Table.findOne_mem same), Table.findOne_key same⟩
    | _ => cases does
  | selectFiles query =>
    cases how with
    | plain =>
      cases does
      refine leads_same filed fun files isOk => ?_
      cases isOk
      exact fun file member => filed.files file (List.mem_of_mem_filter member)
    | _ => cases does
  | findThumbnails id =>
    cases how with
    | plain =>
      cases does
      refine leads_same filed fun thumbnails isOk => ?_
      cases isOk
      intro thumbnail member
      obtain ⟨stored, isId⟩ := List.mem_filter.mp member
      have named : thumbnail.fileId = id := by simpa using isId
      exact named ▸ filed.thumbnails thumbnail stored
    | _ => cases does
  | saveScanResult scanned =>
    cases how with
    | plain =>
      cases does
      exact leads_same filed fun _ _ => trivial
    | _ => cases does
  | sharp width height format =>
    cases how with
    | sized size =>
      cases does
      exact leads_same filed fun _ _ => trivial
    | _ => cases does
  | signedUrl file expiresIn =>
    cases how with
    | signed url =>
      cases does
      exact leads_logged filed (grows_world (List.Subset.refl _) (List.Subset.refl _)
        (List.subset_append_left _ _) (List.Subset.refl _)) rfl rfl rfl rfl rfl fun _ _ =>
          List.mem_append_right _ (List.mem_singleton_self _)
    | _ => cases does

theorem respond_leads (filed : Filed fits state) (safe : Safe fits state op) {answer : FileAnswer}
    {result : Except Exception op.Reply} (responds : state.1.respond op answer = some (world, result)) :
    Leads fits state op world result := by
  cases answer with
  | does how => exact effect_leads filed safe responds
  | fails failure =>
    obtain ⟨_, fails⟩ := Option.ite_none_left_eq_some.mp responds
    cases fails
    exact leads_same filed nofun
  | lost how failure =>
    obtain ⟨_, loses⟩ := Option.ite_none_left_eq_some.mp responds
    obtain ⟨⟨changed, reply⟩, does, same⟩ := Option.map_eq_some_iff.mp loses
    cases same
    have leads := effect_leads filed safe does
    exact ⟨leads.filed, leads.grows, nofun⟩

end Operations

section Methods
variable {state : FileState host config} {α : Type}

abbrev Files (fits : FileThumbnail → Prop) (state : FileState host config) (program : FileM α)
    (post : FileState host config → α → Prop) : Prop :=
  Gives (filed host config fits) state program post

theorem ask_files (safe : Safe fits state op) :
    Files fits state (ask op) fun later reply => Answered later op reply := by
  refine gives_perform fun later since answer world result responds => ?_
  have leads := respond_leads since.1 (safe.grow since.2) responds
  exact ⟨⟨leads.filed, leads.grows⟩, fun reply isOk final more =>
    (leads.answered reply isOk).grow more.2⟩

theorem asks_files (safe : Safe fits state op) : Files fits state (ask op) fun _ _ => True :=
  gives_mono (ask_files safe) fun _ _ _ _ => trivial

theorem memory_files : Files fits state memory fun later mem => mem = later.2 := gives_memory rfl

theorem dateNow_files : Files fits state dateNow fun _ _ => True :=
  gives_bind memory_files fun _ _ _ _ => gives_pure trivial

theorem uuid_files (backend : FileStorageBackend) (buffer : Bytes) :
    Files fits state (uuid host backend buffer) fun later id => ⟨id, backend, buffer⟩ ∈ later.2.uploads := by
  refine gives_bind memory_files fun later mem since same => ?_
  subst same
  have grows : Grows later (later.1, { later.2 with
      draws := later.2.draws + 1
      uploads := later.2.uploads ++ [⟨host.uuid later.2.draws, backend, buffer⟩] }) :=
    ⟨List.subset_append_left _ _, List.Subset.refl _, List.Subset.refl _, List.Subset.refl _,
      List.Subset.refl _⟩
  have logged : (⟨host.uuid later.2.draws, backend, buffer⟩ : Upload) ∈
      later.2.uploads ++ [⟨host.uuid later.2.draws, backend, buffer⟩] :=
    List.mem_append_right _ (List.mem_singleton_self _)
  refine gives_bind (gives_update (fun filed => ⟨?_, grows⟩) logged) fun final _ more drawn =>
    gives_pure drawn
  refine ⟨fun file member => (filed.files file member).grow grows,
    fun backend path bytes stored => (filed.objects backend path bytes stored).grow grows,
    fun path member => (filed.touched path member).grow grows,
    fun thumbnail member => (filed.thumbnails thumbnail member).imp id (Remote.grow grows), filed.fit,
    fun upload member => ?_, ?_⟩
  · rcases List.mem_append.mp member with old | new
    · obtain ⟨n, below, isId⟩ := filed.ids upload old
      exact ⟨n, Nat.lt_succ_of_lt below, isId⟩
    · rw [List.mem_singleton.mp new]
      exact ⟨later.2.draws, Nat.lt_succ_self _, rfl⟩
  · rw [List.map_append]
    refine List.nodup_append.mpr ⟨filed.distinct, List.nodup_singleton _, ?_⟩
    intro id member other last same
    obtain ⟨upload, listed, isId⟩ := List.mem_map.mp member
    obtain ⟨n, below, drawn⟩ := filed.ids upload listed
    have equal : host.uuid n = host.uuid later.2.draws := by
      rw [← drawn, isId, same]
      exact List.mem_singleton.mp last
    exact Nat.ne_of_lt below (host.uuid_injective equal)

theorem randomBytes_files (size : Nat) : Files fits state (randomBytes host size) fun _ _ => True := by
  refine gives_bind memory_files fun later mem since same => ?_
  have grows : Grows later (later.1, { later.2 with draws := later.2.draws + 1 }) :=
    ⟨List.Subset.refl _, List.Subset.refl _, List.Subset.refl _, List.Subset.refl _,
      List.Subset.refl _⟩
  have draws : Files fits later (update fun mem => { mem with draws := mem.draws + 1 }) fun _ _ => True :=
    gives_update (fun filed => ⟨filed.grow grows rfl rfl rfl (fun _ => id) rfl rfl (Nat.le_succ _),
      grows⟩) trivial
  exact gives_bind draws fun _ _ _ _ => gives_pure trivial

theorem protect_files (buffer : Bytes) : Files fits state (protect host config buffer)
    fun _ stored => Stored host config buffer stored.1 := by
  unfold protect Stored
  split
  next =>
    have encrypts : Files fits state (encryptBuffer host buffer) fun _ encrypted =>
        ∃ key iv, encrypted.1 = iv ++ host.aes256cbc key iv buffer := by
      refine gives_bind (randomBytes_files 32) fun _ key _ _ => ?_
      refine gives_bind (randomBytes_files 16) fun _ iv _ _ => ?_
      exact gives_pure ⟨key, iv, rfl⟩
    exact gives_bind encrypts fun _ _ _ encrypted => gives_pure encrypted
  next => exact gives_pure rfl

/-- An engine has found nothing, or has failed. -/
def Asked (state : FileState host config) (id : Ident) (engine : String) : Prop :=
  (id, engine) ∈ state.1.history.cleared ∨ (id, engine) ∈ state.1.history.failed

variable {later : FileState host config}

theorem Asked.grow {id : Ident} {engine : String} (grows : Grows state later)
    (asked : Asked state id engine) : Asked later id engine :=
  asked.imp (fun clean => grows.cleared clean) fun failed => grows.failed failed

theorem scan_files (engine : String) (id : Ident) (path : List Char) (buffer : Bytes) :
    Files fits state (ask (.scan engine id path buffer)).outcome fun later result =>
      match result with
      | .ok verdict => verdict.clean = true → Asked later id engine
      | .error _ => Asked later id engine := by
  refine gives_answer fun later since answer world result responds => ?_
  have safe : Safe fits later (.scan engine id path buffer) := trivial
  have leads := respond_leads since.1 safe responds
  refine ⟨⟨leads.filed, leads.grows⟩, fun final more => ?_⟩
  cases result with
  | ok verdict => exact fun clean => Asked.grow more.2 (Or.inl (leads.answered verdict rfl clean))
  | error failure =>
    cases answer with
    | does how =>
      have failed : (id, engine) ∈ world.history.failed :=
        (scan_leads since.1 responds).2 failure rfl
      have asked : Asked (onto later world) id engine := Or.inr failed
      exact asked.grow more.2
    | fails _ => cases responds
    | lost _ _ => cases responds

theorem scanEngines_files (file : UploadedFile) (buffer : Bytes) :
    ∀ (engines : List String) (last : String) (state : FileState host config),
      Files fits state (scanEngines file buffer last engines) fun later result =>
        result.2 = none → ∀ engine ∈ engines, Asked later file.id engine
  | [], _, _ => gives_pure fun _ _ member => by cases member
  | engine :: engines, last, state => by
    have rest : ∀ later : FileState host config, Asked later file.id engine →
        Files fits later (scanEngines file buffer engine engines) fun final result =>
          result.2 = none → ∀ other ∈ engine :: engines, Asked final file.id other := by
      intro later asked
      refine gives_mono (gives_since (scanEngines_files file buffer engines engine later)) ?_
      rintro final result _ ⟨since, others⟩ clean other member
      rcases List.mem_cons.mp member with rfl | tail
      · exact asked.grow since.2
      · exact others clean other tail
    refine gives_bind (scan_files engine file.id file.storagePath buffer) ?_
    intro later result since known
    cases result with
    | error failure => exact rest later known
    | ok verdict =>
      dsimp only
      split
      next clean => exact rest later (known clean)
      next => exact gives_pure fun impossible => by cases impossible

/-- The entity that a scan leaves is that of the same file and not ready; a result that passes comes
after every engine has been asked. -/
structure Scanned (state : FileState host config) (file : UploadedFile)
    (scanned : UploadedFile × Except Exception FileScanResult) : Prop where
  described : Described state scanned.1
  id : scanned.1.id = file.id
  checked : passed scanned.2 = true → Checked host config state.1.history file.id

theorem scanFile_files {buffer : Bytes} (described : Described state file) :
    Files fits state (scanFile host config file buffer) fun later scanned => Scanned later file scanned := by
  unfold scanFile
  split
  next disabled =>
    refine gives_pure ⟨described, rfl, fun _ engine member => ?_⟩
    have nothing : registered host config = [] := if_neg (by simpa using disabled)
    rw [nothing] at member
    cases member
  next =>
    refine gives_bind (scanEngines_files file buffer _ _ state) fun later result since asked => ?_
    obtain ⟨lastEngine, against⟩ := result
    dsimp only
    have still : Described later { file with
        scanStatus := if against.isNone then ScanStatus.clean else .infected
        status := if against.isNone then .processing else .infected } := by
      refine (described.grow since.2).congr rfl rfl rfl rfl rfl fun ready => ?_
      split at ready <;> cases ready
    have saves : ∀ scanResult : FileScanResult, Files fits later (do
        let _ ← ask (.saveFile { file with
          scanStatus := if against.isNone then ScanStatus.clean else .infected
          status := if against.isNone then .processing else .infected })
        ask (.saveScanResult scanResult)
        pure scanResult : FileM FileScanResult) fun _ result => result = scanResult :=
      fun scanResult => gives_bind (asks_files still) fun _ _ _ _ =>
        gives_bind (asks_files trivial) fun _ _ _ _ => gives_pure rfl
    refine gives_bind (gives_outcome (saves _)) fun final saved more same => gives_pure ?_
    refine ⟨still.grow more.2, rfl, fun passes => ?_⟩
    have clean : against = none := by
      cases saved with
      | error failure => cases passes
      | ok scanResult =>
        rw [same scanResult rfl] at passes
        cases against with
        | none => rfl
        | some verdict => exact absurd passes (by simp [passed])
    exact fun engine member => (asked clean engine member).grow more.2

/-- Every thumbnail of a file that is made with these texts fits. -/
def AllFit (fits : FileThumbnail → Prop) (format variant : List Char) : Prop :=
  ∀ file width height size, Named file → fits ⟨file.id, thumbnailName file width height format variant,
    thumbnailPath file.userId (thumbnailName file width height format variant), width, height, format, size,
    variant⟩

/-- The thumbnails of a call fit. -/
def Fitting (fits : FileThumbnail → Prop) : FileCall → Prop
  | .upload _ _ _ => AllFit fits "webp".toList "thumb-sm".toList ∧ AllFit fits "webp".toList "thumb-lg".toList
  | .generateThumbnail _ _ _ format variant =>
    AllFit fits (format.getD "webp".toList) (variant.getD "default".toList)
  | _ => True

theorem storeThumbnail_files {thumbnail : FileThumbnail} (fit : fits thumbnail) :
    Files fits state (storeThumbnail thumbnail) fun _ _ => True :=
  gives_bind (asks_files fit) fun _ _ _ _ => gives_pure trivial

theorem generateThumbnail_files (named : Named file) (width height : Nat) {format variant : List Char}
    (fit : AllFit fits format variant) :
    Files fits state (generateThumbnail file width height format variant) fun _ _ => True := by
  unfold generateThumbnail
  split
  next => exact gives_throw
  next =>
    refine gives_bind (gives_outcome (gives_bind (asks_files trivial) fun _ size _ _ =>
      storeThumbnail_files (fit file width height size named))) fun later processed _ _ => ?_
    split
    next => exact gives_pure trivial
    next => exact storeThumbnail_files (fit file width height 0 named)

section Automatic
variable (named : Named file) (small : AllFit fits "webp".toList "thumb-sm".toList)
  (large : AllFit fits "webp".toList "thumb-lg".toList)
include named small large

theorem autoThumbnails_files : Files fits state (autoThumbnails file) fun _ _ => True := by
  refine gives_bind (gives_outcome (generateThumbnail_files named _ _ small)) fun _ thumb _ _ => ?_
  cases thumb with
  | error failure => exact gives_pure trivial
  | ok thumb =>
    refine gives_bind (gives_outcome (generateThumbnail_files named _ _ large)) fun _ largeThumb _ _ => ?_
    cases largeThumb <;> exact gives_pure trivial

theorem imageThumbnails_files : Files fits state (imageThumbnails file) fun _ _ => True := by
  unfold imageThumbnails
  split
  next => exact autoThumbnails_files named small large
  next => exact gives_pure trivial

end Automatic

theorem readyFile_described {scanned : UploadedFile × Except Exception FileScanResult}
    (isScanned : Scanned state file scanned) : Described state (readyFile scanned.1 scanned.2) := by
  unfold readyFile
  split
  next passes =>
    refine isScanned.described.congr rfl rfl rfl rfl rfl fun _ => ?_
    rw [isScanned.id]
    exact isScanned.checked passes
  next => exact isScanned.described

theorem readyFile_id (file : UploadedFile) (scanResult : Except Exception FileScanResult) :
    (readyFile file scanResult).id = file.id := by
  unfold readyFile
  split <;> rfl

theorem processFile_files (buffer : Bytes)
    (described : ∀ status ≠ .ready, Described state { file with status := status })
    (small : AllFit fits "webp".toList "thumb-sm".toList)
    (large : AllFit fits "webp".toList "thumb-lg".toList) :
    Files fits state (processFile host config file buffer) fun _ result => result.file.id = file.id := by
  have begins := described .processing (by decide)
  refine gives_bind (ask_files begins) fun first saved since isSaved => ?_
  obtain ⟨created, isSaved⟩ := isSaved
  have kept : Described first saved := by
    rw [isSaved]
    refine Described.grow since.2 ?_
    exact begins.congr rfl rfl rfl rfl rfl begins.checked
  refine gives_bind (scanFile_files kept) fun second scanned since isScanned => ?_
  refine gives_bind (gives_outcome (asks_files isScanned.described)) fun third _ moved _ => ?_
  refine gives_bind (imageThumbnails_files isScanned.described.named small large) fun fourth _ further _ => ?_
  have ready := (readyFile_described isScanned).grow (moved.trans further).2
  refine gives_bind (ask_files ready) fun _ done _ isDone => gives_pure ?_
  obtain ⟨_, isDone⟩ := isDone
  rw [isDone]
  refine (readyFile_id scanned.1 scanned.2).trans (isScanned.id.trans ?_)
  rw [isSaved]

theorem upload_files (small : AllFit fits "webp".toList "thumb-sm".toList)
    (large : AllFit fits "webp".toList "thumb-lg".toList) (file : MulterFile) (userId : Ident)
    (dto : UploadFileDto) :
    Files fits state (upload host config file userId dto) fun later result =>
      ∃ backend, ⟨result.file.id, backend, file.buffer⟩ ∈ later.2.uploads := by
  unfold upload
  dsimp only
  split
  next => exact gives_throw
  next =>
    refine gives_bind (uuid_files (dto.storageBackend.getD config.storageBackend) file.buffer)
      fun first fileId _ uploaded => ?_
    refine gives_bind dateNow_files fun second now since _ => ?_
    refine gives_bind (protect_files file.buffer) fun third stored more isStored => ?_
    have known := (since.trans more).2.uploads uploaded
    have isPath : UploadPath fileId
        (newFile host config file userId fileId dto stored.2 now).storagePath :=
      ⟨userId, now, lastPart file.originalname, lastPart_plain _, rfl⟩
    have holds : Holds third (newFile host config file userId fileId dto stored.2 now).storagePath
        stored.1 := ⟨_, known, isPath, isStored⟩
    refine gives_bind (asks_files holds) fun fourth _ further _ => ?_
    have described : ∀ status ≠ .ready, Described fourth
        { newFile host config file userId fileId dto stored.2 now with status := status } :=
      fun status unready => ⟨⟨_, further.2.uploads known, rfl, rfl, rfl⟩,
        ⟨lastPart file.originalname, lastPart_plain _, rfl⟩, isPath,
        fun ready => absurd ready unready⟩
    refine gives_mono (processFile_files file.buffer described small large) fun final result later same => ?_
    rw [same]
    exact ⟨_, (further.trans later).2.uploads known⟩

theorem getById_files (fileId : Ident) : Files fits state (getById fileId) fun later file =>
    Described later file ∧ file.id = fileId := by
  refine gives_bind (ask_files trivial) fun later found since isFound => ?_
  cases found with
  | none => exact gives_throw
  | some file => exact gives_pure (isFound file rfl)

theorem Ident.ext_text {id other : Ident} (same : id.text = other.text) : id = other := by
  obtain ⟨text, _, _, _⟩ := id
  obtain ⟨text', _, _, _⟩ := other
  cases same
  rfl

theorem Filed.upload_unique (filed : Filed fits state) {upload other : Upload}
    (uploaded : upload ∈ state.2.uploads) (again : other ∈ state.2.uploads)
    (same : upload.id = other.id) : upload = other :=
  List.inj_on_of_nodup_map filed.distinct uploaded again same

/-- What a call has downloaded under an id. -/
structure Delivered (state : FileState host config) (id : Ident) (bytes : Bytes)
    (file : UploadedFile) : Prop where
  stored : ∃ upload ∈ state.2.uploads, upload.id = id ∧ Stored host config upload.bytes bytes ∧
    file.checksum = host.sha256 upload.bytes
  checked : Checked host config state.1.history id

theorem Delivered.grow {id : Ident} {bytes : Bytes} (grows : Grows state later)
    (delivered : Delivered state id bytes file) : Delivered later id bytes file := by
  obtain ⟨upload, uploaded, rest⟩ := delivered.stored
  exact ⟨⟨upload, grows.uploads uploaded, rest⟩, delivered.checked.grow grows⟩

theorem Filed.delivers (filed : Filed fits state) (described : Described state file)
    (ready : file.status = .ready) {bytes : Bytes} (holds : Holds state file.storagePath bytes) :
    Delivered state file.id bytes file := by
  obtain ⟨upload, uploaded, isPath, isStored⟩ := holds
  obtain ⟨other, again, isFile, _, checksum⟩ := described.original
  have same : upload.id = file.id := Ident.ext_text (isPath.unique described.path)
  cases filed.upload_unique uploaded again (same.trans isFile.symm)
  exact ⟨⟨upload, uploaded, same, isStored, checksum⟩, described.checked ready⟩

theorem download_files (fileId : Ident) : Files fits state (download fileId) fun later content =>
    Delivered later fileId content.1 content.2 := by
  refine gives_bind (getById_files fileId) fun first file _ isFile => ?_
  obtain ⟨described, isId⟩ := isFile
  subst isId
  split
  next => exact gives_throw
  next ready =>
    have status : file.status = .ready := by simpa using ready
    have safe : Safe fits first (.get file.storageBackend file.storagePath) :=
      fun _ => Or.inl (described.path.inside config.basePath)
    refine gives_bind (ask_files safe) fun second bytes since holds => ?_
    have delivered := since.1.delivers (described.grow since.2) status holds
    have counted : Described second { file with downloadCount := file.downloadCount + 1 } := by
      refine (described.grow since.2).congr rfl rfl rfl rfl rfl fun isReady => ?_
      exact (described.checked isReady).grow since.2
    refine gives_bind (ask_files counted) fun third saved more isSaved => gives_pure ?_
    obtain ⟨_, isSaved⟩ := isSaved
    obtain ⟨⟨upload, uploaded, same, isStored, checksum⟩, checked⟩ := delivered.grow more.2
    refine ⟨⟨upload, uploaded, same, isStored, ?_⟩, checked⟩
    rw [isSaved]
    exact checksum

/-- A row that was loaded is saved with other values in columns that nothing is known of. -/
theorem resave_files {file other : UploadedFile} (described : Described state file)
    (id : other.id = file.id) (checksum : other.checksum = file.checksum)
    (backend : other.storageBackend = file.storageBackend)
    (name : other.storedName = file.storedName) (path : other.storagePath = file.storagePath)
    (status : other.status = .ready → file.status = .ready) :
    Files fits state (ask (.saveFile other)) fun _ _ => True :=
  asks_files (described.congr id checksum backend name path fun ready => described.checked (status ready))

theorem updateMetadata_files (fileId : Ident) (tags : Option (List String)) (description : Option String) :
    Files fits state (updateMetadata fileId tags description) fun _ _ => True :=
  gives_bind (getById_files fileId) fun _ _ _ isFile => resave_files isFile.1 rfl rfl rfl rfl rfl id

/-- A URL is signed for a file with some status. -/
def Signed (state : FileState host config) (id : Ident) : Prop :=
  ∃ status, (id, status) ∈ state.1.history.signed ∧
    (status = .ready → Checked host config state.1.history id)

theorem Signed.grow {id : Ident} (grows : Grows state later) (signed : Signed state id) : Signed later id := by
  obtain ⟨status, logged, checked⟩ := signed
  exact ⟨status, grows.signed logged, fun ready => (checked ready).grow grows⟩

theorem getDownloadUrl_files (fileId : Ident) (expiresIn : Option Nat) :
    Files fits state (getDownloadUrl fileId expiresIn) fun later _ => Signed later fileId := by
  refine gives_bind (getById_files fileId) fun first file _ isFile => ?_
  obtain ⟨described, isId⟩ := isFile
  subst isId
  have safe : ∀ seconds, Safe fits first (.signedUrl file seconds) := fun _ => trivial
  refine gives_bind (ask_files (safe _)) fun second url since logged => ?_
  have kept := described.grow since.2
  have signed : Signed second file.id := ⟨file.status, logged, kept.checked⟩
  exact gives_bind (resave_files kept rfl rfl rfl rfl rfl id) fun _ _ more _ =>
    gives_pure (signed.grow more.2)

theorem delete_files (fileId : Ident) : Files fits state (delete fileId) fun _ _ => True := by
  refine gives_bind (getById_files fileId) fun first file _ isFile => ?_
  have safe : Safe fits first (.remove file.storageBackend file.storagePath) :=
    fun _ => Or.inl (isFile.1.path.inside config.basePath)
  refine gives_bind (asks_files safe) fun _ _ more _ => ?_
  have kept := isFile.1.grow more.2
  exact gives_bind (resave_files kept rfl rfl rfl rfl rfl nofun) fun _ _ _ _ => gives_pure trivial

theorem markOrphaned_files (fileId : Ident) : Files fits state (markOrphaned fileId) fun _ _ => True := by
  refine gives_bind (getById_files fileId) fun _ file _ isFile => ?_
  exact gives_bind (resave_files isFile.1 rfl rfl rfl rfl rfl id) fun _ _ _ _ => gives_pure trivial

theorem requestThumbnail_files (fileId : Ident) (width height : Nat) {format variant : Option (List Char)}
    (fit : AllFit fits (format.getD "webp".toList) (variant.getD "default".toList)) :
    Files fits state (requestThumbnail fileId width height format variant) fun _ _ => True :=
  gives_bind (getById_files fileId) fun _ _ _ isFile => generateThumbnail_files isFile.1.named _ _ fit

/-! ## Cleanup -/

theorem removeThumbnails_files (backend : FileStorageBackend) :
    ∀ (thumbnails : List FileThumbnail) (state : FileState host config),
      (∀ thumbnail ∈ thumbnails,
        backend = .localStorage → thumbnail ∈ state.1.history.thumbnails) →
        Files fits state (removeThumbnails backend thumbnails) fun _ _ => True
  | [], _, _ => gives_pure trivial
  | thumb :: thumbnails, state, known => by
    have safe : Safe fits state (.remove backend thumb.storagePath) :=
      fun isLocal => Or.inr ⟨thumb, known thumb List.mem_cons_self isLocal, rfl⟩
    refine gives_bind (asks_files safe) fun later _ since _ => ?_
    refine removeThumbnails_files backend thumbnails later fun other member isLocal => ?_
    exact since.2.thumbnails (known other (List.mem_cons_of_mem _ member) isLocal)

theorem Described.not_remote (described : Described state file) (filed : Filed fits state)
    (isLocal : file.storageBackend = .localStorage) : ¬ Remote state file.id := by
  rintro ⟨other, again, same, elsewhere⟩
  obtain ⟨upload, uploaded, isFile, backend, _⟩ := described.original
  cases filed.upload_unique uploaded again (isFile.trans same.symm)
  exact elsewhere (backend.trans isLocal)

theorem deleteFileAndThumbnails_files (described : Described state file) :
    Files fits state (deleteFileAndThumbnails file) fun _ _ => True := by
  have safe : Safe fits state (.remove file.storageBackend file.storagePath) :=
    fun _ => Or.inl (described.path.inside config.basePath)
  refine gives_bind (asks_files safe) fun first _ moved _ => ?_
  refine gives_bind (gives_since (ask_files trivial)) fun later thumbnails further found => ?_
  obtain ⟨since, found⟩ := found
  have kept := described.grow (moved.trans further).2
  have known : ∀ thumbnail ∈ thumbnails, file.storageBackend = .localStorage →
      thumbnail ∈ later.1.history.thumbnails := fun thumbnail member isLocal =>
    (found thumbnail member).resolve_right (kept.not_remote since.1 isLocal)
  refine gives_bind (removeThumbnails_files file.storageBackend thumbnails later known) fun _ _ _ _ => ?_
  exact gives_bind (asks_files trivial) fun _ _ _ _ => asks_files trivial

theorem cleanFiles_files (kind : String) (dryRun : Bool) :
    ∀ (files : List UploadedFile) (result : CleanupResult) (state : FileState host config),
      (∀ file ∈ files, Described state file) →
        Files fits state (cleanFiles kind dryRun result files) fun _ _ => True
  | [], _, _, _ => gives_pure trivial
  | file :: files, result, state, known => by
    have others : ∀ file ∈ files, Described state file :=
      fun other member => known other (List.mem_cons_of_mem _ member)
    unfold cleanFiles
    split
    next => exact cleanFiles_files kind dryRun files _ state others
    next =>
      have described := known file List.mem_cons_self
      refine gives_bind (gives_outcome (deleteFileAndThumbnails_files described))
        fun later deleted since _ => ?_
      have kept := fun other member => (others other member).grow since.2
      cases deleted <;> exact cleanFiles_files kind dryRun files _ later kept

theorem cleanKinds_files (dryRun : Bool) :
    ∀ (kinds : List (String × (Nat → FileQuery))) (result : CleanupResult)
      (state : FileState host config),
        Files fits state (cleanKinds dryRun result kinds) fun _ _ => True
  | [], _, _ => gives_pure trivial
  | (kind, query) :: kinds, result, state => by
    refine gives_bind dateNow_files fun _ now _ _ => ?_
    refine gives_bind (gives_outcome (ask_files trivial)) fun later found _ known => ?_
    cases found with
    | error failure => exact gives_pure trivial
    | ok files =>
      refine gives_bind (cleanFiles_files kind dryRun files _ later (known files rfl))
        fun final cleaned _ _ => ?_
      exact cleanKinds_files dryRun kinds cleaned final

theorem cleanup_files (dto : FileCleanupDto) : Files fits state (cleanup config dto) fun _ _ => True :=
  cleanKinds_files _ _ _ _

theorem scheduledCleanup_files : Files fits state (scheduledCleanup config) fun _ _ => True := by
  unfold scheduledCleanup
  split
  next => exact gives_pure trivial
  next => exact cleanup_files _

/-! ## Calls -/

/-- What is known of the result of a call. -/
def Yields (call : FileCall) (state : FileState host config) (value : FileValue) : Prop :=
  match call, value with
  | .upload file _ _, .uploaded result =>
    ∃ backend, ⟨result.file.id, backend, file.buffer⟩ ∈ state.2.uploads
  | .download fileId, .content bytes file => Delivered state fileId bytes file
  | .getDownloadUrl fileId _, .url _ => Signed state fileId
  | _, _ => True

theorem body_files (call : FileCall) (state : FileState host config) (fit : Fitting fits call) :
    Files fits state (fileBody host config call) (Yields call) := by
  have plain : ∀ {β : Type} {program : FileM β} {value : β → FileValue},
      (∀ later result, @Yields host config call later (value result)) →
      Files fits state program (fun _ _ => True) → Files fits state (value <$> program) (Yields call) :=
    fun yields gives => gives_map gives fun later result _ => yields later result
  cases call with
  | upload file userId dto =>
    exact gives_map (upload_files fit.1 fit.2 file userId dto) fun _ _ uploaded => uploaded
  | updateMetadata fileId tags description =>
    exact plain (fun _ _ => trivial) (updateMetadata_files fileId tags description)
  | getDownloadUrl fileId expiresIn =>
    exact gives_map (getDownloadUrl_files fileId expiresIn) fun _ _ signed => signed
  | download fileId => exact gives_map (download_files fileId) fun _ _ delivered => delivered
  | delete fileId => exact plain (fun _ _ => trivial) (delete_files fileId)
  | markOrphaned fileId => exact plain (fun _ _ => trivial) (markOrphaned_files fileId)
  | generateThumbnail fileId width height format variant =>
    exact plain (fun _ _ => trivial) (requestThumbnail_files fileId width height fit)
  | cleanup dto => exact plain (fun _ _ => trivial) (cleanup_files dto)
  | scheduledCleanup => exact plain (fun _ _ => trivial) scheduledCleanup_files

theorem yields_grow {call : FileCall} {value : FileValue} {state later : FileState host config}
    (grows : Grows state later) (yields : Yields call state value) : Yields call later value := by
  unfold Yields at yields ⊢
  split at yields
  next =>
    obtain ⟨backend, uploaded⟩ := yields
    exact ⟨backend, grows.uploads uploaded⟩
  next => exact Delivered.grow grows yields
  next => exact Signed.grow grows yields
  next => trivial

end Methods

/-- What is known when a call has ended. -/
def Ends (call : FileCall) (state : FileState host config) (result : Except Exception FileValue) :
    Prop :=
  ∀ value, result = .ok value → Yields call state value

theorem ends_lasting (call : FileCall) (result : Except Exception FileValue) :
    Lasting (filed host config fits) fun state => Ends call state result :=
  fun _ _ since ends value isOk => yields_grow since.2 (ends value isOk)

theorem filed_empty (now : Nat) : Filed fits ((FileWorld.empty, ⟨now, 0, []⟩) : FileState host config) where
  files _ member := nomatch member
  objects _ _ _ stored := nomatch stored
  touched _ member := nomatch member
  thumbnails _ member := nomatch member
  fit _ member := nomatch member
  ids _ member := nomatch member
  distinct := List.nodup_nil

section Runs
variable {now : Nat} {labels : List (Label (fileProcess host config))} {after : Config (fileProcess host config)}
  (ran : run labels (Config.initial (fileProcess host config) FileWorld.empty ⟨now, 0, []⟩) = some after)
include ran

/-- In every run of calls whose thumbnails fit, what the calls rely on holds, and every call that has ended
has ended with a value of which this is known. -/
theorem filed_run (fitting : ∀ label ∈ labels, ∀ call, label = .call call → Fitting fits call) :
    Filed fits (after.world, after.mem) ∧ ∀ task ∈ after.pool, ∀ value,
      task.result = some (.ok value) → Yields task.call (after.world, after.mem) value := by
  have relied : Admissible (Relied (filed host config fits) fun _ => Fitting fits) labels
      (Config.initial (fileProcess host config) FileWorld.empty ⟨now, 0, []⟩) := by
    refine admissible_mono (fun _ label fit => ?_) (admissible_of_labels _ fitting)
    cases label with
    | call call => exact fit call rfl
    | _ => trivial
  have guarded : Guarded (filed host config fits) Ends after :=
    guarded_run (fun call _ later _ fit since =>
        guards_mono (fun _ _ ended => ended.2) (body_files call later fit since.1))
      (fun _ _ starts _ => starts.elim) ends_lasting (filed_empty now) relied ran
  exact ⟨guarded.holds, fun task member value ended => guarded.ended member ended value rfl⟩

/-- Of any thumbnails. -/
theorem filed_always : Filed (fun _ => True) (after.world, after.mem) ∧ ∀ task ∈ after.pool, ∀ value,
    task.result = some (.ok value) → Yields task.call (after.world, after.mem) value := by
  refine filed_run ran fun _ _ call _ => ?_
  cases call with
  | upload _ _ _ => exact ⟨fun _ _ _ _ _ => trivial, fun _ _ _ _ _ => trivial⟩
  | generateThumbnail _ _ _ _ _ => exact fun _ _ _ _ _ => trivial
  | _ => trivial

end Runs

end AlianStructure.Guarantees.FileConduct
