import AlianStructure.Guarantees.EmailStages

/-!
# The locks of the jobs

Source: src/email/services/email-queue.service.ts:43-125. A worker that has a job in hand holds its lock,
and no two workers have the same job, in the runs in which a job stalls only when no attempt of it is under
way.
-/
namespace AlianStructure.Guarantees.EmailLocks
open Library.CallProtocol
open Source Source.Email EmailStages

/-- The jobs of which an attempt is under way. -/
def underway (stages : List Stage) : List Nat := (stages.filterMap Stage.job?).map (·.id)

/-- A job stalls only when no attempt of it is under way. -/
def Unattended (stages : List Stage) : EmailOp → Prop
  | .moveUnlocked id => id ∉ underway stages
  | _ => True

/-- Every attempt under way has its job to itself. -/
structure Held (world : EmailWorld) (stages : List Stage) : Prop where
  locked : ∀ stage ∈ stages, ∀ job ∈ stage.job?, ∃ row, world.jobs[job.id]? = some row ∧
    row.lockedBy job = true ∧ row.emailLogId = job.emailLogId
  alone : ∀ (i j : Nat) stage other job rival, stages[i]? = some stage → stages[j]? = some other →
    stage.job? = some job → other.job? = some rival → job.id = rival.id → i = j
  named : ∀ stage ∈ stages, stage.Named

theorem mem_set {stages : List Stage} {i : Nat} {moved other : Stage}
    (member : other ∈ stages.set i moved) : other ∈ stages ∨ other = moved :=
  List.mem_or_eq_of_mem_set member

theorem getElem?_setJob {world : EmailWorld} {id key : Nat} {changed other : EmailJob}
    (found : (world.setJob id changed).jobs[key]? = some other) :
    (key = id ∧ other = changed) ∨ (key ≠ id ∧ world.jobs[key]? = some other) :=
  getElem?_set_cases found

section Steps
variable {world later : EmailWorld} {stages : List Stage} {i : Nat} {stage moved : Stage}

theorem Held.active (held : Held world stages) (here : stage ∈ stages) {job : TakenJob}
    (has : stage.job? = some job) {row : EmailJob} (listed : world.jobs[job.id]? = some row) :
    row.state = .active := by
  obtain ⟨other, isOther, locked, _⟩ := held.locked stage here job has
  cases listed.symm.trans isOther
  simp only [EmailJob.lockedBy, Bool.and_eq_true, decide_eq_true_eq] at locked
  exact locked.1

theorem Held.unheld (held : Held world stages) {id : Nat} {row : EmailJob}
    (listed : world.jobs[id]? = some row) (waiting : row.state = .waiting) :
    ∀ other ∈ stages, ∀ job, other.job? = some job → job.id ≠ id := by
  rintro other member job has rfl
  have active := held.active member has listed
  rw [waiting] at active
  cases active

theorem Held.apart (held : Held world stages) (found : stages[i]? = some stage) {job : TakenJob}
    (has : stage.job? = some job) {j : Nat} {other : Stage} (different : j ≠ i)
    (isOther : stages[j]? = some other) {rival : TakenJob} (isRival : other.job? = some rival) : rival.id ≠ job.id :=
  fun same => different (held.alone j i other stage rival job isOther found isRival has same)

theorem Held.move (held : Held world stages) (found : stages[i]? = some stage)
    (has : ∀ job, moved.job? = some job → stage.job? = some job) (named : moved.Named)
    (kept : ∀ (j : Nat) other, (stages.set i moved)[j]? = some other → ∀ job, other.job? = some job →
      later.jobs[job.id]? = world.jobs[job.id]?) : Held later (stages.set i moved) := by
  have before : ∀ {j : Nat} {other : Stage} {job : TakenJob}, (stages.set i moved)[j]? = some other →
      other.job? = some job → ∃ old, stages[j]? = some old ∧ old.job? = some job := by
    intro j other job isOther isJob
    rcases getElem?_set_cases isOther with ⟨rfl, rfl⟩ | ⟨_, old⟩
    · exact ⟨stage, found, has job isJob⟩
    · exact ⟨other, old, isJob⟩
  refine ⟨fun other member job isJob => ?_, fun j k other rival job taken isOther isRival isJob isTaken =>
    ?_, fun other member => ?_⟩
  · obtain ⟨j, isOther⟩ := List.getElem?_of_mem member
    obtain ⟨old, isOld, owns⟩ := before isOther isJob
    rw [kept j other isOther job isJob]
    exact held.locked old (List.mem_of_getElem? isOld) job owns
  · obtain ⟨old, first, owns⟩ := before isOther isJob
    obtain ⟨older, second, owned⟩ := before isRival isTaken
    exact held.alone j k old older job taken first second owns owned
  · rcases mem_set member with old | rfl
    · exact held.named other old
    · exact named

theorem Held.setJob (held : Held world stages) (found : stages[i]? = some stage) {id : Nat}
    (changed : EmailJob) (nothing : moved.job? = none) (named : moved.Named)
    (others : ∀ (j : Nat) other, j ≠ i → stages[j]? = some other → ∀ job, other.job? = some job →
      job.id ≠ id) : Held (world.setJob id changed) (stages.set i moved) := by
  refine held.move found (fun job has => ?_) named fun j other isOther job isJob => ?_
  · rw [nothing] at has
    cases has
  · rcases getElem?_set_cases isOther with ⟨_, rfl⟩ | ⟨different, old⟩
    · rw [nothing] at isJob
      cases isJob
    · exact List.getElem?_set_ne (Ne.symm (others j other different old job isJob))

theorem Held.take (held : Held world stages) {id : Nat} {row : EmailJob}
    (listed : world.jobs[id]? = some row) (waiting : row.state = .waiting) (unsubscribedBefore : List String) :
    Held (world.setJob id row.take)
      (stages.set i (.begun ⟨id, row.emailLogId, row.lock + 1, unsubscribedBefore⟩)) := by
  have inside := (List.getElem?_eq_some_iff.mp listed).1
  have apart := held.unheld listed waiting
  refine ⟨fun other member job isJob => ?_, fun j k other rival job taken isOther isRival isJob isTaken
    same => ?_, fun other member => ?_⟩
  · rcases mem_set member with old | rfl
    · obtain ⟨row', isRow, rest⟩ := held.locked other old job isJob
      exact ⟨row', (List.getElem?_set_ne (Ne.symm (apart other old job isJob))).trans isRow, rest⟩
    · cases isJob
      exact ⟨row.take, List.getElem?_set_self inside, by simp [EmailJob.lockedBy, EmailJob.take], rfl⟩
  · rcases getElem?_set_cases isOther with ⟨rfl, rfl⟩ | ⟨_, old⟩
    · rcases getElem?_set_cases isRival with ⟨rfl, rfl⟩ | ⟨_, older⟩
      · rfl
      · cases isJob
        exact absurd same.symm (apart rival (List.mem_of_getElem? older) taken isTaken)
    · rcases getElem?_set_cases isRival with ⟨rfl, rfl⟩ | ⟨_, older⟩
      · cases isTaken
        exact absurd same (apart other (List.mem_of_getElem? old) job isJob)
      · exact held.alone j k other rival job taken old older isJob isTaken same
  · rcases mem_set member with old | rfl
    · exact held.named other old
    · trivial

end Steps

/-- What an answer does to the jobs. -/
inductive Turns (world changed : EmailWorld) (stage : Stage) :
    (op : EmailOp) → Except Exception op.Reply → Prop where
  | still {op result} (jobs : changed.jobs = world.jobs)
      (untaken : ∀ job, (mailing.advance stage op result).job? = some job → stage.job? = some job) :
      Turns world changed stage op result
  | added {id attempts result} (isStage : stage = .enqueuing id) (isFive : attempts = 5)
      (same : changed = { world with jobs := world.jobs ++ [⟨id, attempts, 0, 0, 0, .waiting⟩] }) :
      Turns world changed stage (.addJob id attempts) result
  | taken {id row} (isStage : stage = .apart) (listed : world.jobs[id]? = some row)
      (waiting : row.state = .waiting) (same : changed = world.setJob id row.take) :
      Turns world changed stage (.takeJob id)
        (.ok ⟨id, row.emailLogId, row.lock + 1, world.unsubscribed⟩)
  | missed {id row failure} (isStage : stage = .apart) (listed : world.jobs[id]? = some row)
      (waiting : row.state = .waiting) (same : changed = world.setJob id row.take) :
      Turns world changed stage (.takeJob id) (.error failure)
  | completed {job row result} (isStage : stage = .ended job true)
      (listed : world.jobs[job.id]? = some row) (same : changed = world.setJob job.id row.complete) :
      Turns world changed stage (.moveToCompleted job) result
  | failed {job row reason result} (isStage : stage = .ended job false)
      (listed : world.jobs[job.id]? = some row) (same : changed = world.setJob job.id row.fail) :
      Turns world changed stage (.moveToFailed job reason) result
  | stalled {id row result} (isStage : stage = .apart) (listed : world.jobs[id]? = some row)
      (active : row.state = .active) (same : changed = world.setJob id row.stall) :
      Turns world changed stage (.moveUnlocked id) result

section Answers
variable {world changed : EmailWorld} {stages : List Stage} {i : Nat} {stage : Stage}

theorem turns {op : EmailOp} {answer : EmailAnswer} {result : Except Exception op.Reply}
    (allowed : mailing.allows stage op) (responds : world.respond op answer = some (changed, result)) :
    Turns world changed stage op result := by
  have still : changed.jobs = world.jobs → (∀ id, op ≠ .takeJob id) →
      Turns world changed stage op result := fun jobs untaken =>
    .still jobs fun job has => (advance_job allowed has).resolve_right fun ⟨_, id, isTake⟩ =>
      untaken id isTake
  have quiet : Quiet op → Turns world changed stage op result := by
    intro isQuiet
    refine still ?_ fun id isTake => by rw [isTake] at isQuiet; exact isQuiet
    rcases respond_cases responds with ⟨_, _, rfl, _⟩ | ⟨_, _, effect, _⟩
    · cases op <;> rfl
    · exact (effect_quiet isQuiet effect).1
  cases op with
  | addJob id attempts =>
    rcases respond_cases responds with ⟨_, _, rfl, _⟩ | ⟨_, _, effect, _⟩
    · exact still rfl nofun
    · cases stage with
      | enqueuing awaited => exact .added (congrArg _ allowed.1.symm) allowed.2 (effect_addJob effect).1
      | _ => exact allowed.elim
  | takeJob id =>
    cases stage with
    | apart =>
      rcases respond_cases responds with ⟨_, _, rfl, rfl⟩ | ⟨_, _, effect, answered⟩
      · exact .still rfl nofun
      · obtain ⟨row, listed, waiting, same, rfl⟩ := effect_takeJob effect
        rcases answered with ⟨_, rfl⟩ | ⟨_, _, rfl⟩
        · exact .taken rfl listed waiting same
        · exact .missed rfl listed waiting same
    | _ => exact allowed.elim
  | sendMail job log options =>
    rcases respond_cases responds with ⟨_, _, rfl, _⟩ | ⟨_, _, effect, _⟩
    · exact still rfl nofun
    · have jobs : changed.jobs = world.jobs := by
        rw [(effect_sendMail effect).1]
        rfl
      exact still jobs nofun
  | moveToCompleted job =>
    cases stage with
    | ended taken success =>
      obtain ⟨rfl, rfl⟩ := allowed
      rcases respond_cases responds with ⟨_, _, rfl, _⟩ | ⟨_, _, effect, _⟩
      · exact still rfl nofun
      · have records := effect_moveToCompleted effect
        rcases record_cases job EmailJob.complete with ⟨row, listed, _, same⟩ | ⟨_, same⟩
        · exact .completed rfl listed (congrArg Prod.fst (records.trans same))
        · exact still (congrArg (·.1.jobs) (records.trans same)) nofun
    | _ => exact allowed.elim
  | moveToFailed job reason =>
    cases stage with
    | ended taken success =>
      obtain ⟨rfl, rfl⟩ := allowed
      rcases respond_cases responds with ⟨_, _, rfl, _⟩ | ⟨_, _, effect, _⟩
      · exact still rfl nofun
      · have records := effect_moveToFailed effect
        rcases record_cases job EmailJob.fail with ⟨row, listed, _, same⟩ | ⟨_, same⟩
        · exact .failed rfl listed (congrArg Prod.fst (records.trans same))
        · exact still (congrArg (·.1.jobs) (records.trans same)) nofun
    | _ => exact allowed.elim
  | moveUnlocked id =>
    cases stage with
    | apart =>
      rcases respond_cases responds with ⟨_, _, rfl, _⟩ | ⟨_, _, effect, _⟩
      · exact still rfl nofun
      · obtain ⟨row, listed, active, same⟩ := effect_moveUnlocked effect
        exact .stalled rfl listed active same
    | _ => exact allowed.elim
  | _ => exact quiet trivial

/-- Every answer keeps the locks when no job stalls while an attempt of it is under way. -/
theorem Held.respond (held : Held world stages) (found : stages[i]? = some stage) {op : EmailOp}
    {answer : EmailAnswer} {result : Except Exception op.Reply} (allowed : mailing.allows stage op)
    (unattended : Unattended stages op) (responds : world.respond op answer = some (changed, result)) :
    Held changed (stages.set i (mailing.advance stage op result)) := by
  have named := advance_named allowed (respond_possible responds)
    (held.named stage (List.mem_of_getElem? found))
  cases turns allowed responds with
  | still jobs untaken =>
    exact held.move found untaken named fun _ _ _ _ _ => by rw [jobs]
  | @added id attempts _ isStage _ same =>
    subst isStage same
    refine held.move found nofun named fun j other isOther job isJob => ?_
    rcases getElem?_set_cases isOther with ⟨_, rfl⟩ | ⟨_, old⟩
    · cases isJob
    · obtain ⟨row, listed, _⟩ := held.locked other (List.mem_of_getElem? old) job isJob
      exact List.getElem?_append_left (List.getElem?_eq_some_iff.mp listed).1
  | taken isStage listed waiting same =>
    subst isStage same
    exact held.take listed waiting _
  | missed isStage listed waiting same =>
    subst isStage same
    exact held.setJob found _ rfl trivial fun j other _ isOther job isJob =>
      held.unheld listed waiting other (List.mem_of_getElem? isOther) job isJob
  | completed isStage listed same =>
    subst isStage same
    exact held.setJob found _ rfl trivial fun j other different isOther rival isRival =>
      held.apart found rfl different isOther isRival
  | failed isStage listed same =>
    subst isStage same
    exact held.setJob found _ rfl trivial fun j other different isOther rival isRival =>
      held.apart found rfl different isOther isRival
  | @stalled id row _ isStage listed _ same =>
    subst isStage same
    refine held.setJob found _ rfl trivial fun j other _ isOther job isJob isId => unattended ?_
    exact List.mem_map.mpr
      ⟨job, List.mem_filterMap.mpr ⟨other, List.mem_of_getElem? isOther, isJob⟩, isId⟩

end Answers

theorem held_initial : Held EmailWorld.empty [] where
  locked _ member := nomatch member
  alone _ _ _ _ _ _ isStage := nomatch isStage
  named _ member := nomatch member

theorem Held.calls {world : EmailWorld} {stages : List Stage} (held : Held world stages)
    (calls : List EmailCall) : Held world (stages ++ calls.map mailing.start) := by
  have owner : ∀ {j : Nat} {stage : Stage} {job : TakenJob},
      (stages ++ calls.map mailing.start)[j]? = some stage → stage.job? = some job →
        stages[j]? = some stage := by
    intro j stage job isStage isJob
    rcases getElem?_append_cases isStage with old | new
    · exact old
    · obtain ⟨call, _, rfl⟩ := List.mem_map.mp new
      rw [start_job] at isJob
      cases isJob
  refine ⟨fun stage member job isJob => ?_, fun j k stage other job rival isStage isOther isJob isRival =>
    held.alone j k stage other job rival (owner isStage isJob) (owner isOther isRival) isJob isRival,
    fun stage member => ?_⟩
  · obtain ⟨j, isStage⟩ := List.getElem?_of_mem member
    exact held.locked stage (List.mem_of_getElem? (owner isStage isJob)) job isJob
  · rcases List.mem_append.mp member with old | new
    · exact held.named stage old
    · obtain ⟨call, _, rfl⟩ := List.mem_map.mp new
      rcases start_cases call with same | same <;> rw [same] <;> trivial

end AlianStructure.Guarantees.EmailLocks
