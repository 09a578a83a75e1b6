import AlianStructure.Guarantees.FileRoundTrip
import AlianStructure.Source.Common.SanitizePipe

/-!
# Where the local backend works

Source: src/infrastructure/file-upload/storage/local-storage.backend.ts:25-70, services/
file-metadata.service.ts:76-133 and file-cleanup.service.ts:191-216. A path is joined to the base as it
stands. That of a file does not climb, whatever its name is. That of a thumbnail has the variant and the
format of the request in it, is stored with the thumbnail and is removed by a cleanup; the global pipe has
left no separator in them.
-/
namespace AlianStructure.Guarantees.PathContainment
open Library.Interleaving Library.PathResolution
open Source.Files Source.Common.SanitizePipe FileStorageService FileConduct FileRoundTrip

variable {file : UploadedFile} {format variant : List Char}

/-- A thumbnail has a path inside every base when its format and its variant have no separator. -/
theorem thumbnail_inside (base : List Char) (named : Named file) (formatPlain : '/' ∉ format)
    (variantPlain : '/' ∉ variant) (width height : Nat) :
    Inside base (thumbnailPath file.userId (thumbnailName file width height format variant)) := by
  obtain ⟨ext, plain, name⟩ := named
  have digits : ∀ n, '/' ∉ digitsOf n := fun n slash =>
    absurd (Nat.isDigit_of_mem_toDigits (by decide) (by decide) slash) (by decide)
  obtain ⟨rest, isRest⟩ : ∃ rest, rest = '_' :: (variant ++ '_' :: (digitsOf width ++ 'x' ::
      (digitsOf height ++ '.' :: format))) := ⟨_, rfl⟩
  have flat : '/' ∉ rest := by simp [isRest, digits, formatPlain, variantPlain]
  have other : ¬ rest <:+ upward := fun ends => by
    have underscore : '_' ∈ upward := ends.mem (isRest ▸ List.mem_cons_self)
    exact absurd underscore (by decide)
  have isPath : thumbnailPath file.userId (thumbnailName file width height format variant) =
      "thumbnails".toList ++ '/' :: (file.userId.text ++ '/' :: (file.id.text ++ '.' :: (ext ++ rest))) := by
    have folder : "thumbnails/".toList = "thumbnails".toList ++ ['/'] := by decide +kernel
    unfold thumbnailPath thumbnailName
    rw [folder, name, isRest]
    generalize "thumbnails".toList = front
    simp
  have whole : segments (thumbnailPath file.userId (thumbnailName file width height format variant)) =
      "thumbnails".toList :: file.userId.text :: segments (file.id.text ++ '.' :: (ext ++ rest)) := by
    rw [isPath, segments, split_cons (by decide +kernel), split_cons file.userId.plain, segments]
  refine inside_of_level base ?_
  rw [whole]
  intro climbs
  rcases List.mem_cons.mp climbs with front | climbs
  · exact absurd front (by decide +kernel)
  · rcases List.mem_cons.mp climbs with user | climbs
    · exact file.userId.undotted (user ▸ List.mem_cons_self)
    · exact name_level file.id plain flat (Or.inl other) climbs

/-- A thumbnail whose path is inside a base. -/
def Contained (base : List Char) (thumbnail : FileThumbnail) : Prop := Inside base thumbnail.storagePath

theorem contained_fit (base : List Char) (formatPlain : '/' ∉ format) (variantPlain : '/' ∉ variant) :
    AllFit (Contained base) format variant :=
  fun _ width height _ named => thumbnail_inside base named formatPlain variantPlain width height

theorem received_fitting (base : List Char) (strip : List Char → List Char) (request : FileCall) :
    Fitting (Contained base) (received strip request) := by
  have plain : ∀ {standard : List Char} (text : Option (List Char)), '/' ∉ standard →
      '/' ∉ (text.map (sanitizeString strip)).getD standard := by
    intro standard text isPlain
    cases text with
    | none => exact isPlain
    | some text => exact sanitizeString_plain strip text
  cases request with
  | upload file userId dto =>
    exact ⟨contained_fit base (by decide) (by decide), contained_fit base (by decide) (by decide)⟩
  | generateThumbnail fileId width height format variant =>
    exact contained_fit base (plain format (by decide)) (plain variant (by decide))
  | _ => trivial

/-- In every run of uploads, requests of thumbnails, deletions and cleanups, with any names, variants and
formats in the requests, every path that the local backend has worked on lies inside the base. -/
theorem paths_contained (host : FileHost) (config : FileConfig) (now : Nat)
    (strip : List Char → List Char) (labels : List (Label (fileProcess host config)))
    (after : Config (fileProcess host config)) (ran : run (labels.map (throughPipe strip))
      (Config.initial (fileProcess host config) FileWorld.empty ⟨now, 0, []⟩) = some after) :
    ∀ path ∈ after.world.history.touched, Inside config.basePath path := by
  have fitting : ∀ label ∈ labels.map (throughPipe strip), ∀ call, label = .call call →
      Fitting (Contained config.basePath) call := by
    intro label member call isCall
    obtain ⟨raw, _, rfl⟩ := List.mem_map.mp member
    cases raw with
    | call request =>
      cases isCall
      exact received_fitting config.basePath strip request
    | _ => cases isCall
  obtain ⟨filed, _⟩ := filed_run ran fitting
  intro path touched
  rcases filed.touched path touched with inside | ⟨thumbnail, member, rfl⟩
  · exact inside
  · exact filed.fit thumbnail member

def picture : MulterFile := ⟨"me.png".toList, "image/png", 2, [104, 105]⟩

abbrev PictureLabel : Type := Label (fileProcess sampleHost (sampleConfig false false))

/-- A picture is uploaded with its two thumbnails. -/
def uploadPicture : List PictureLabel :=
  [.call (.upload picture (sampleId 7) ⟨none, [], none, none⟩), .resume 0, .reply 0 (.does .plain),
    .reply 0 (.does .plain), .reply 0 (.does .plain), .reply 0 (.does (.sized 9)),
    .reply 0 (.does .plain), .reply 0 (.does (.sized 9)), .reply 0 (.does .plain),
    .reply 0 (.does .plain)]

/-- A thumbnail is requested, and the picture is orphaned. -/
def orphanPicture (format : List Char) : List PictureLabel :=
  [.call (.generateThumbnail (sampleId 0) 16 16 (some format) none), .reply 1 (.does .plain),
    .reply 1 (.fails (.error "unsupported")), .reply 1 (.does .plain),
    .call (.markOrphaned (sampleId 0)), .reply 2 (.does .plain), .reply 2 (.does .plain),
    .env 100000]

/-- A cleanup removes the picture and its three thumbnails. -/
def cleanPicture : List PictureLabel :=
  [.call (.cleanup ⟨some 1, none, false⟩), .resume 3, .reply 3 (.does .plain), .reply 3 (.does .plain),
    .reply 3 (.does .plain), .reply 3 (.does .plain), .reply 3 (.does .plain), .reply 3 (.does .plain),
    .reply 3 (.does .plain), .reply 3 (.does .plain), .resume 3, .reply 3 (.does .plain), .resume 3,
    .reply 3 (.does .plain)]

def pictureRun (format : List Char) : List PictureLabel :=
  uploadPicture ++ orphanPicture format ++ cleanPicture

abbrev beforeUpload : Config (fileProcess sampleHost (sampleConfig false false)) :=
  Config.initial (fileProcess sampleHost (sampleConfig false false)) FileWorld.empty ⟨0, 0, []⟩

/-- The format that is asked for climbs; it is stored encoded. -/
theorem picture_contained : ∃ after,
    run ((pictureRun "/../../etc".toList).map (throughPipe id)) beforeUpload = some after ∧
      after.world.history.touched.length = 5 ∧
        ∀ path ∈ after.world.history.touched, Inside "/srv/uploads".toList path := by
  obtain ⟨after, ran, five⟩ := (by decide +kernel : ∃ after,
    run ((pictureRun "/../../etc".toList).map (throughPipe id)) beforeUpload = some after ∧
      after.world.history.touched.length = 5)
  exact ⟨after, ran, five, paths_contained sampleHost (sampleConfig false false) 0 id
    (pictureRun "/../../etc".toList) after ran⟩

end AlianStructure.Guarantees.PathContainment
