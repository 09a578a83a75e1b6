import AlianStructure.Library.WiderRuntime
import AlianStructure.Guarantees.FileRoundTrip

/-!
# The quarantine of files

Source: src/infrastructure/file-upload/services/file-storage.service.ts:156-215 and 281-310 and
file-scan.service.ts:44-108. A download looks at the status of the row, the signing of a URL does not; and
a file becomes ready when every engine has been asked, whether or not it has answered.
-/
namespace AlianStructure.Guarantees.FileQuarantine
open Library.Interleaving Library.CallProtocol Library.WorldInvariant
open Source Source.Files FileStorageService FileConduct FileRoundTrip

variable {host : FileHost} {config : FileConfig}

/-- No engine fails, and a URL is signed for a ready file only. -/
def Careful (host : FileHost) (config : FileConfig) : Decision (fileProcess host config)
  | _, .scan _ _ _ _, .does (.crashed _) => False
  | _, .signedUrl file _, _ => file.status = .ready
  | _, _, _ => True

instance (world : FileWorld) (op : FileOp) (answer : FileAnswer) :
    Decidable (Careful host config world op answer) := by
  unfold Careful
  split <;> infer_instance

/-- The file whose content or URL a call has handed out. -/
def handedOut (task : Task filing) : Option Ident :=
  match task.call, task.result with
  | .download fileId, some (.ok (.content _ _)) => some fileId
  | .getDownloadUrl fileId _, some (.ok (.url _)) => some fileId
  | _, _ => none

/-- Every registered engine has found nothing in a file. -/
def Cleared (host : FileHost) (config : FileConfig) (history : FileHistory) (id : Ident) : Prop :=
  ∀ engine ∈ registered host config, (id, engine) ∈ history.cleared

instance (history : FileHistory) (id : Ident) : Decidable (Cleared host config history id) :=
  inferInstanceAs (Decidable (∀ engine ∈ registered host config, (id, engine) ∈ history.cleared))

/-- No engine has failed, and URLs were signed for ready files only. -/
structure Untainted (world : FileWorld) : Prop where
  failed : world.history.failed = []
  signed : ∀ entry ∈ world.history.signed, entry.2 = .ready

variable {world changed : FileWorld}

theorem Untainted.same (untainted : Untainted world) (failed : changed.history.failed = world.history.failed)
    (signed : changed.history.signed = world.history.signed) : Untainted changed :=
  ⟨failed.trans untainted.failed, signed ▸ untainted.signed⟩

theorem Untainted.touch {world : FileWorld} (untainted : Untainted world)
    (backend : FileStorageBackend) (path : List Char) : Untainted (world.touch backend path) := by
  cases backend <;> exact untainted.same rfl rfl

theorem Untainted.effect (untainted : Untainted world) {op : FileOp} {how : FileEffect}
    {result : Except Exception op.Reply} (careful : Careful host config world op (.does how))
    (does : world.effect op how = some (changed, result)) : Untainted changed := by
  cases op with
  | saveFile file =>
    cases how with
    | plain =>
      obtain ⟨_, saves⟩ := Option.ite_none_right_eq_some.mp does
      cases saves
      exact untainted.same rfl rfl
    | _ => cases does
  | saveThumbnail thumbnail =>
    cases how with
    | plain =>
      obtain ⟨_, saves⟩ := Option.ite_none_right_eq_some.mp does
      obtain ⟨_, _, same⟩ := Option.map_eq_some_iff.mp saves
      cases same
      exact untainted.same rfl rfl
    | _ => cases does
  | scan engine id path buffer =>
    cases how with
    | verdict verdict =>
      cases does
      split <;> exact untainted.same rfl rfl
    | crashed failure => exact careful.elim
    | _ => cases does
  | get backend path =>
    cases how with
    | plain =>
      cases does
      exact untainted.touch backend path
    | _ => cases does
  | put backend path _ _ | remove backend path =>
    cases how with
    | plain =>
      cases does
      exact (untainted.touch backend path).same rfl rfl
    | unstored =>
      obtain ⟨_, takes⟩ := Option.ite_none_left_eq_some.mp does
      cases takes
      exact untainted.touch backend path
    | _ => cases does
  | signedUrl file expiresIn =>
    cases how with
    | signed url =>
      cases does
      refine ⟨untainted.failed, fun entry member => ?_⟩
      rcases List.mem_append.mp member with old | new
      · exact untainted.signed entry old
      · rw [List.mem_singleton.mp new]
        exact careful
    | _ => cases does
  | _ =>
    cases how <;> cases does
    exact untainted.same rfl rfl

theorem Untainted.respond (untainted : Untainted world) {op : FileOp} {answer : FileAnswer}
    {result : Except Exception op.Reply} (careful : Careful host config world op answer)
    (responds : world.respond op answer = some (changed, result)) : Untainted changed := by
  cases answer with
  | does how => exact untainted.effect careful responds
  | fails failure =>
    obtain ⟨_, fails⟩ := Option.ite_none_left_eq_some.mp responds
    cases fails
    exact untainted
  | lost how failure =>
    obtain ⟨notScan, loses⟩ := Option.ite_none_left_eq_some.mp responds
    obtain ⟨⟨other, reply⟩, does, same⟩ := Option.map_eq_some_iff.mp loses
    cases same
    have still : Careful host config world op (.does how) := by
      cases op with
      | scan engine id path buffer => exact absurd rfl notScan
      | signedUrl file expiresIn => exact careful
      | _ => trivial
    exact untainted.effect still does

/-- In every run in which no engine fails and no URL is signed for a file that is not ready, the content and
the URLs that are handed out are those of files in which every registered engine has found nothing. -/
theorem handed_out_cleared (host : FileHost) (config : FileConfig) (now : Nat)
    (labels : List (Label (fileProcess host config))) (after : Config (fileProcess host config))
    (careful : Admissible (OnDecisions (Careful host config)) labels
      (Config.initial (fileProcess host config) FileWorld.empty ⟨now, 0, []⟩))
    (ran : run labels (Config.initial (fileProcess host config) FileWorld.empty ⟨now, 0, []⟩) = some after) :
    ∀ task ∈ after.pool, ∀ id ∈ handedOut task, Cleared host config after.world.history id := by
  have initially : Untainted FileWorld.empty := ⟨rfl, nofun⟩
  have untainted : Untainted after.world :=
    world_run (fun _ _ _ _ _ holds meets responds => holds.respond meets responds)
      (fun _ _ holds => holds.same rfl rfl) initially careful ran
  obtain ⟨_, ended⟩ := filed_always ran
  have cleared : ∀ id, Checked host config after.world.history id →
      Cleared host config after.world.history id := by
    intro id checked engine registers
    refine (checked engine registers).resolve_right fun failed => ?_
    rw [untainted.failed] at failed
    cases failed
  intro task member id handed
  unfold handedOut at handed
  split at handed
  next call result =>
    cases handed
    have yields := ended task member _ result
    rw [call] at yields
    exact cleared _ (Delivered.checked yields)
  next call result =>
    cases handed
    have yields := ended task member _ result
    rw [call] at yields
    obtain ⟨status, logged, checked⟩ := yields
    exact cleared _ (checked (untainted.signed _ logged))
  next => cases handed

/-- A file is uploaded while the engines answer, and downloaded. -/
def scannedUpload (first second : FileEffect) (config : FileConfig) :
    List (Label (fileProcess sampleHost config)) :=
  [.call (.upload greeting (sampleId 0) ⟨none, [], none, none⟩), .resume 0, .reply 0 (.does .plain),
    .reply 0 (.does .plain), .reply 0 (.does first), .reply 0 (.does second), .reply 0 (.does .plain),
    .reply 0 (.does .plain), .reply 0 (.does .plain), .reply 0 (.does .plain),
    .call (.download (sampleId 0)), .reply 1 (.does .plain), .reply 1 (.does .plain),
    .reply 1 (.does .plain)]

def clean : FileEffect := .verdict ⟨true, none⟩

theorem clean_handed_out : ∃ after, run (scannedUpload clean clean (sampleConfig false true))
      (Config.initial (fileProcess sampleHost (sampleConfig false true)) FileWorld.empty ⟨0, 0, []⟩) =
        some after ∧ (∃ task ∈ after.pool, handedOut task = some (sampleId 0)) ∧
      Cleared sampleHost (sampleConfig false true) after.world.history (sampleId 0) := by
  obtain ⟨after, ran, task, member, handed⟩ := (by decide +kernel : ∃ after,
    run (scannedUpload clean clean (sampleConfig false true))
      (Config.initial (fileProcess sampleHost (sampleConfig false true)) FileWorld.empty ⟨0, 0, []⟩) =
        some after ∧ ∃ task ∈ after.pool, handedOut task = some (sampleId 0))
  exact ⟨after, ran, ⟨task, member, handed⟩,
    handed_out_cleared sampleHost (sampleConfig false true) 0
      (scannedUpload clean clean (sampleConfig false true)) after (by decide +kernel) ran task member
      (sampleId 0) handed⟩

/-- One engine fails, and the file is handed out all the same. -/
theorem unchecked_handed_out : ∃ after,
    run (scannedUpload clean (.crashed (.error "ECONNREFUSED")) (sampleConfig false true))
      (Config.initial (fileProcess sampleHost (sampleConfig false true)) FileWorld.empty ⟨0, 0, []⟩) =
        some after ∧ (∃ task ∈ after.pool, handedOut task = some (sampleId 0)) ∧
      ¬ Cleared sampleHost (sampleConfig false true) after.world.history (sampleId 0) := by
  decide +kernel

end AlianStructure.Guarantees.FileQuarantine
