import AlianStructure.Guarantees.EmailLocks

/-!
# The jobs of a log

Source: src/email/services/email-queue.service.ts:43-56 and email.service.ts:100-118. A log is enqueued when
it has been saved and when it is retried. In the runs in which a log is retried only when none of its jobs
is left, a job that will be attempted is the last one of its log.
-/
namespace AlianStructure.Guarantees.EmailJobs
open Library.Interleaving Library.CallProtocol Library.KeyedTable
open Source Source.Email EmailStages EmailLocks

/-- No job of the log is left. -/
def Idle (world : EmailWorld) (id : String) : Prop :=
  ∀ job ∈ world.jobs, job.emailLogId = id → job.unfinished = false

instance (world : EmailWorld) (id : String) : Decidable (Idle world id) :=
  inferInstanceAs (Decidable (∀ job ∈ world.jobs, job.emailLogId = id → job.unfinished = false))

/-- No job of the log was added after this one. -/
def Last (world : EmailWorld) (id : String) (key : Nat) : Prop :=
  ∀ (other : Nat) job, world.jobs[other]? = some job → job.emailLogId = id → other ≤ key

/-- A log is requeued when none of its jobs is left and no other call enqueues it. -/
def Separate (world : EmailWorld) (stages : List Stage) : EmailOp → EmailAnswer → Prop
  | .updateLog id .requeue, .does _ => Idle world id ∧ .enqueuing id ∉ stages
  | _, _ => True

/-- What holds of the jobs and of the calls that add them. -/
structure Queue (world : EmailWorld) (stages : List Stage) : Prop where
  limit : ∀ job ∈ world.jobs, job.attempts = 5
  known : ∀ job ∈ world.jobs, ∃ log ∈ world.logs.rows, log.id = job.emailLogId
  noted : ∀ stage ∈ stages, ∀ id, stage.target? = some id → ∃ log ∈ world.logs.rows, log.id = id
  last : ∀ (key : Nat) job, world.jobs[key]? = some job → job.unfinished = true →
    Last world job.emailLogId key
  awaited : ∀ id, .enqueuing id ∈ stages → Idle world id
  apart : ∀ (i j : Nat) id, stages[i]? = some (.enqueuing id) → stages[j]? = some (.enqueuing id) → i = j

section Steps
variable {world changed : EmailWorld} {stages : List Stage} {i : Nat} {stage moved : Stage}

theorem Queue.only (queue : Queue world stages) {key other : Nat} {row job : EmailJob}
    (isRow : world.jobs[key]? = some row) (left : row.unfinished = true)
    (isJob : world.jobs[other]? = some job) (leftToo : job.unfinished = true)
    (same : job.emailLogId = row.emailLogId) : other = key :=
  Nat.le_antisymm (queue.last key row isRow left other job isJob same)
    (queue.last other job isJob leftToo key row isRow same.symm)

theorem Queue.move (queue : Queue world stages) (found : stages[i]? = some stage) (jobs : changed.jobs = world.jobs)
    (kept : ∀ log ∈ world.logs.rows, ∃ later ∈ changed.logs.rows, later.id = log.id)
    (noted : ∀ id, moved.target? = some id → ∃ log ∈ changed.logs.rows, log.id = id)
    (fresh : ∀ id, moved = .enqueuing id → Idle world id ∧ .enqueuing id ∉ stages) :
    Queue changed (stages.set i moved) := by
  have known : ∀ {id : String}, (∃ log ∈ world.logs.rows, log.id = id) →
      ∃ log ∈ changed.logs.rows, log.id = id := by
    rintro id ⟨log, member, rfl⟩
    exact kept log member
  refine ⟨jobs ▸ queue.limit, fun job member => known (queue.known job (jobs ▸ member)),
    fun other member id target => ?_, ?_, fun id member => ?_, fun j k id first second => ?_⟩
  · rcases mem_set member with old | rfl
    · exact known (queue.noted other old id target)
    · exact noted id target
  · unfold Last
    rw [jobs]
    exact queue.last
  · unfold Idle
    rw [jobs]
    rcases mem_set member with old | new
    · exact queue.awaited id old
    · exact (fresh id new.symm).1
  · rcases getElem?_set_cases first with ⟨rfl, new⟩ | ⟨_, old⟩
    · rcases getElem?_set_cases second with ⟨rfl, _⟩ | ⟨_, older⟩
      · rfl
      · exact absurd (List.mem_of_getElem? older) (fresh id new.symm).2
    · rcases getElem?_set_cases second with ⟨rfl, new⟩ | ⟨_, older⟩
      · exact absurd (List.mem_of_getElem? old) (fresh id new.symm).2
      · exact queue.apart j k id old older

theorem Queue.aside (queue : Queue world stages) (found : stages[i]? = some stage) (jobs : changed.jobs = world.jobs)
    (kept : ∀ log ∈ world.logs.rows, ∃ later ∈ changed.logs.rows, later.id = log.id)
    (untargeted : moved.target? = none) : Queue changed (stages.set i moved) := by
  refine queue.move found jobs kept (fun id target => ?_) fun id enqueues => ?_
  · rw [untargeted] at target
    cases target
  · rw [enqueues] at untargeted
    cases untargeted

theorem Queue.turn (queue : Queue world stages) {id : Nat} {row next : EmailJob}
    (listed : world.jobs[id]? = some row) (unfinished : row.unfinished = true)
    (logId : next.emailLogId = row.emailLogId) (attempts : next.attempts = row.attempts)
    (untargeted : moved.target? = none) : Queue (world.setJob id next) (stages.set i moved) := by
  have isRow : row ∈ world.jobs := List.mem_of_getElem? listed
  have enqueues : ∀ {other : String}, .enqueuing other ∈ stages.set i moved → .enqueuing other ∈ stages := by
    intro other member
    rcases mem_set member with old | rfl
    · exact old
    · cases untargeted
  have before : ∀ {key : Nat} {job : EmailJob}, (world.setJob id next).jobs[key]? = some job →
      ∃ old, world.jobs[key]? = some old ∧ old.emailLogId = job.emailLogId ∧
        (job.unfinished = true → old.unfinished = true) := by
    intro key job isJob
    rcases getElem?_setJob isJob with ⟨rfl, rfl⟩ | ⟨_, old⟩
    · exact ⟨row, listed, logId.symm, fun _ => unfinished⟩
    · exact ⟨job, old, rfl, fun left => left⟩
  refine ⟨fun job member => ?_, fun job member => ?_, fun other member key target => ?_,
    fun key job isJob left other rival isRival same => ?_, fun key member job isJob same => ?_,
    fun j k key first second => ?_⟩
  · rcases List.mem_or_eq_of_mem_set member with old | rfl
    · exact queue.limit job old
    · exact attempts.trans (queue.limit row isRow)
  · obtain ⟨key, isJob⟩ := List.getElem?_of_mem member
    obtain ⟨old, isOld, same, _⟩ := before isJob
    obtain ⟨log, isLog, named⟩ := queue.known old (List.mem_of_getElem? isOld)
    exact ⟨log, isLog, named.trans same⟩
  · rcases mem_set member with old | rfl
    · exact queue.noted other old key target
    · exact absurd target (by rw [untargeted]; nofun)
  · obtain ⟨old, isOld, oldLog, waits⟩ := before isJob
    obtain ⟨older, isOlder, olderLog, _⟩ := before isRival
    exact queue.last key old isOld (waits left) other older isOlder (olderLog.trans (same.trans oldLog.symm))
  · obtain ⟨position, isPosition⟩ := List.getElem?_of_mem isJob
    obtain ⟨old, isOld, oldLog, waits⟩ := before isPosition
    have ended := queue.awaited key (enqueues member) old (List.mem_of_getElem? isOld) (oldLog.trans same)
    exact Bool.eq_false_iff.mpr fun left => by rw [waits left] at ended; cases ended
  · have unmoved : ∀ {position : Nat}, (stages.set i moved)[position]? = some (.enqueuing key) →
        stages[position]? = some (.enqueuing key) := by
      intro position isStage
      rcases getElem?_set_cases isStage with ⟨_, rfl⟩ | ⟨_, old⟩
      · cases untargeted
      · exact old
    exact queue.apart j k key (unmoved first) (unmoved second)

theorem Queue.add (queue : Queue world stages) {id : String} (found : stages[i]? = some (.enqueuing id)) :
    Queue { world with jobs := world.jobs ++ [⟨id, 5, 0, 0, 0, .waiting⟩] } (stages.set i .free) := by
  have here : Stage.enqueuing id ∈ stages := List.mem_of_getElem? found
  have idle := queue.awaited id here
  have cases : ∀ {key : Nat} {job : EmailJob},
      (world.jobs ++ [⟨id, 5, 0, 0, 0, .waiting⟩])[key]? = some job →
        world.jobs[key]? = some job ∨ key = world.jobs.length ∧ job.emailLogId = id := by
    intro key job isJob
    rcases getElem?_append_cases isJob with old | new
    · exact Or.inl old
    · rw [List.getElem?_append] at isJob
      split at isJob
      next => exact Or.inl isJob
      next outside =>
        have inside := (List.getElem?_eq_some_iff.mp isJob).1
        rw [List.length_singleton] at inside
        exact Or.inr ⟨by omega, by rw [List.mem_singleton.mp new]⟩
  refine ⟨fun job member => ?_, fun job member => ?_, fun other member key target => ?_,
    fun key job isJob left other rival isRival same => ?_, fun key member job isJob same => ?_,
    fun j k key first second => ?_⟩
  · rcases List.mem_append.mp member with old | new
    · exact queue.limit job old
    · rw [List.mem_singleton.mp new]
  · rcases List.mem_append.mp member with old | new
    · exact queue.known job old
    · rw [List.mem_singleton.mp new]
      exact queue.noted _ here id rfl
  · rcases mem_set member with old | rfl
    · exact queue.noted other old key target
    · cases target
  · rcases cases isJob with old | ⟨atEnd, _⟩
    · rcases cases isRival with older | ⟨_, ofLog⟩
      · exact queue.last key job old left other rival older same
      · have ended := idle job (List.mem_of_getElem? old) (same.symm.trans ofLog)
        rw [ended] at left
        cases left
    · rcases cases isRival with older | ⟨atEnd', _⟩
      · exact atEnd ▸ Nat.le_of_lt (List.getElem?_eq_some_iff.mp older).1
      · exact Nat.le_of_eq (atEnd'.trans atEnd.symm)
  · rcases List.mem_append.mp isJob with old | new
    · rcases mem_set member with stays | different
      · exact queue.awaited key stays job old same
      · cases different
    · rw [List.mem_singleton.mp new] at same
      dsimp only at same
      subst same
      obtain ⟨j, isStage⟩ := List.getElem?_of_mem member
      rcases getElem?_set_cases isStage with ⟨_, different⟩ | ⟨different, stays⟩
      · cases different
      · exact absurd (queue.apart j i id stays found) different
  · rcases getElem?_set_cases first with ⟨_, different⟩ | ⟨_, old⟩
    · cases different
    · rcases getElem?_set_cases second with ⟨_, different⟩ | ⟨_, older⟩
      · cases different
      · exact queue.apart j k key old older

/-- Every answer keeps the jobs in order when a log is requeued only after its last job. -/
theorem Queue.respond (queue : Queue world stages) (held : Held world stages)
    (found : stages[i]? = some stage) {op : EmailOp}
    {answer : EmailAnswer} {result : Except Exception op.Reply} (allowed : mailing.allows stage op)
    (separate : Separate world stages op answer) (responds : world.respond op answer = some (changed, result)) :
    Queue changed (stages.set i (mailing.advance stage op result)) := by
  have here : stage ∈ stages := List.mem_of_getElem? found
  have kept : ∀ log ∈ world.logs.rows, ∃ later ∈ changed.logs.rows, later.id = log.id :=
    fun log => log_kept responds
  cases turns allowed responds with
  | still jobs _ =>
    cases stage with
    | free =>
      cases op with
      | insertLog log =>
        rcases respond_cases responds with ⟨_, _, rfl, rfl⟩ | ⟨how, _, effect, answered⟩
        · exact queue.aside found jobs kept rfl
        · obtain ⟨id, fresh, rfl, rfl⟩ := effect_insertLog effect
          rcases answered with ⟨_, rfl⟩ | ⟨_, _, rfl⟩
          · have absent : ∀ {old : EmailLog}, old ∈ world.logs.rows → old.id ≠ id :=
              fun member same => fresh (List.mem_map.mpr ⟨_, member, same⟩)
            refine queue.move found jobs kept (fun other target => ?_) fun other enqueues => ?_
            · cases target
              exact ⟨{ log with id := id }, Table.mem_save.mpr (Or.inl rfl), rfl⟩
            · cases enqueues
              refine ⟨fun job isJob same => ?_, fun member => ?_⟩
              · obtain ⟨old, member, named⟩ := queue.known job isJob
                exact absurd (named.trans same) (absent member)
              · obtain ⟨old, isOld, named⟩ := queue.noted _ member id rfl
                exact absent isOld named
          · exact queue.aside found jobs kept rfl
      | findLog id =>
        rcases respond_cases responds with ⟨_, _, rfl, rfl⟩ | ⟨how, _, effect, answered⟩
        · exact queue.aside found jobs kept rfl
        · obtain ⟨same, rfl⟩ := effect_findLog effect
          subst changed
          rcases answered with ⟨_, rfl⟩ | ⟨_, _, rfl⟩
          · cases looked : world.logs.findOne id with
            | none => exact queue.aside found jobs kept rfl
            | some log =>
              refine queue.move found jobs kept (fun other target => ?_) fun other enqueues => by cases enqueues
              cases target
              exact ⟨log, Table.findOne_mem looked, Table.findOne_key looked⟩
          · exact queue.aside found jobs kept rfl
      | _ => exact allowed.elim
    | looked id =>
      cases op with
      | updateLog requeued change =>
        obtain ⟨rfl, rfl⟩ := allowed
        cases answer with
        | does how =>
          cases result with
          | ok _ =>
            refine queue.move found jobs kept (fun other target => ?_) fun other enqueues => ?_
            · cases target
              obtain ⟨log, member, rfl⟩ := queue.noted _ here requeued rfl
              exact kept log member
            · cases enqueues
              exact separate
          | error failure => exact queue.aside found jobs kept rfl
        | fails failure =>
          cases responds
          exact queue.aside found jobs kept rfl
        | lost how failure =>
          obtain ⟨_, _, same⟩ := Option.map_eq_some_iff.mp responds
          cases same
          exact queue.aside found jobs kept rfl
      | _ => exact allowed.elim
    | _ =>
      exact queue.aside found jobs kept (advance_target allowed nofun nofun)
  | added isStage isFive same =>
    subst isStage isFive same
    exact queue.add found
  | taken isStage listed waiting same =>
    subst isStage same
    exact queue.turn listed (by simp [EmailJob.unfinished, waiting]) rfl rfl rfl
  | missed isStage listed waiting same =>
    subst isStage same
    exact queue.turn listed (by simp [EmailJob.unfinished, waiting]) rfl rfl rfl
  | completed isStage listed same =>
    subst isStage same
    have active := held.active here rfl listed
    exact queue.turn listed (by simp [EmailJob.unfinished, active]) rfl rfl rfl
  | failed isStage listed same =>
    subst isStage same
    have active := held.active here rfl listed
    exact queue.turn listed (by simp [EmailJob.unfinished, active]) rfl rfl rfl
  | stalled isStage listed active same =>
    subst isStage same
    exact queue.turn listed (by simp [EmailJob.unfinished, active]) rfl rfl rfl

end Steps

theorem queue_initial : Queue EmailWorld.empty [] where
  limit _ member := nomatch member
  known _ member := nomatch member
  noted _ member := nomatch member
  last _ _ isJob := nomatch isJob
  awaited _ member := nomatch member
  apart _ _ _ isStage := nomatch isStage

theorem Queue.calls {world : EmailWorld} {stages : List Stage} (queue : Queue world stages)
    (calls : List EmailCall) : Queue world (stages ++ calls.map mailing.start) := by
  have untargeted : ∀ {stage : Stage}, stage ∈ calls.map mailing.start → stage.target? = none := by
    intro stage new
    obtain ⟨call, _, rfl⟩ := List.mem_map.mp new
    rcases start_cases call with same | same <;> rw [same] <;> rfl
  have old : ∀ {i : Nat} {id : String}, (stages ++ calls.map mailing.start)[i]? = some (.enqueuing id) →
      stages[i]? = some (.enqueuing id) := by
    intro i id isStage
    rcases getElem?_append_cases isStage with old | new
    · exact old
    · cases untargeted new
  refine ⟨queue.limit, queue.known, fun stage member id target => ?_, queue.last, fun id member => ?_,
    fun i j id first second => queue.apart i j id (old first) (old second)⟩
  · rcases List.mem_append.mp member with before | new
    · exact queue.noted stage before id target
    · rw [untargeted new] at target
      cases target
  · obtain ⟨i, isStage⟩ := List.getElem?_of_mem member
    exact queue.awaited id (List.mem_of_getElem? (old isStage))

end AlianStructure.Guarantees.EmailJobs
