import AlianStructure.Guarantees.EmailJobs
import AlianStructure.Guarantees.EmailOnce

/-!
# The account of a log

Source: src/email/services/email-queue.service.ts:58-147. The log counts the attempts of its job, so that it
is failed when the job has no attempts left. It does in the runs in which no attempt ends before its count
is written: the log is found, the provider is available, and the updates of the log do not fail.
-/
namespace AlianStructure.Guarantees.EmailAccounts
open Library.Interleaving Library.CallProtocol Library.KeyedTable
open Source Source.Email EmailQueueService EmailStages EmailLocks EmailJobs

/-- A worker that has not found the log of its job yet. -/
def begins : Stage → Bool
  | .begun _ => true
  | _ => false

/-- No attempt is left uncounted and no log without a job: a log that is saved or requeued is enqueued, and
requeued only after its last job; the log of an attempt is found and updated, and its provider is available;
a job stalls once at most, and not while it is attempted. -/
def Accountable (world : EmailWorld) (stages : List Stage) (i : Nat) : EmailOp → EmailAnswer → Prop
  | .insertLog _, .lost _ _ | .addJob _ _, .fails _ | .updateLog _ .requeue, .lost _ _ => False
  | .updateLog id .requeue, .does _ => Idle world id ∧ .enqueuing id ∉ stages
  | .findLog _, .fails _ | .findLog _, .lost _ _ => ∀ stage ∈ stages[i]?, begins stage = false
  | .updateLog _ (.setStatus _ _), .fails _ | .updateLog _ (.setAttempted _ _ _), .fails _ => False
  | .updateLog _ (.setStatus status _), .lost _ _ => status = .failed
  | .isAvailable _, answer => answer = .does (.available true)
  | .moveUnlocked id, _ => id ∉ underway stages ∧ ∀ job ∈ world.jobs[id]?, job.stalls = 0
  | _, _ => True

instance (world : EmailWorld) (stages : List Stage) (i : Nat) (op : EmailOp) (answer : EmailAnswer) :
    Decidable (Accountable world stages i op answer) := by
  unfold Accountable
  split <;> infer_instance

/-- A message for the log has been accepted. -/
def Accepted (world : EmailWorld) (id : String) : Prop :=
  ∃ handing ∈ world.handed, handing.accepted = true ∧ handing.log.id = id

/-- The log of a recipient who had unsubscribed. -/
def Refused (log : EmailLog) : Prop := log.unsubscribed = true ∧ log.status = .failed

/-- The failed attempts of a job are counted in its log. -/
def Tried (log : EmailLog) (job : EmailJob) : Prop := job.attemptsMade ≤ log.attempts ∨ Refused log

/-- An attempt counts on from the log as it has read it. -/
def Counted (log : EmailLog) (job : EmailJob) (read : EmailLog) : Prop :=
  job.attemptsMade ≤ read.attempts ∧ job.attemptsMade ≤ log.attempts ∧ read.maxAttempts = 5

/-- What is true of a log and its job while they are attempted. -/
def Fits (world : EmailWorld) (log : EmailLog) (job : EmailJob) : Stage → Prop
  | .refusing _ _ => log.unsubscribed = true
  | .read _ read | .marked _ read | .ready _ read | .failing _ read => Counted log job read
  | .sent _ read => Counted log job read ∧ Accepted world log.id
  | .ended _ true => log.status = .failed ∨ log.status = .sent ∧ Accepted world log.id
  | .ended _ false => job.attemptsMade + 1 ≤ log.attempts ∧ (5 ≤ log.attempts → log.status = .failed) ∨
      Refused log
  | _ => True

/-- What is true of a log that is left without a job. -/
def Settled (world : EmailWorld) (log : EmailLog) : Prop :=
  log.status = .failed ∨ log.status = .sent ∧ Accepted world log.id ∧
    ∀ (key : Nat) job, world.jobs[key]? = some job → job.emailLogId = log.id → Last world log.id key →
      job.state = .completed

/-- The account of one log. -/
structure Account (world : EmailWorld) (stages : List Stage) (log : EmailLog) : Prop where
  limit : log.maxAttempts = 5
  undelivered : log.status ≠ .delivered
  tried : ∀ (key : Nat) job, world.jobs[key]? = some job → job.emailLogId = log.id →
    job.unfinished = true → Tried log job
  fits : ∀ stage ∈ stages, ∀ taken, stage.job? = some taken → taken.emailLogId = log.id →
    ∀ job, world.jobs[taken.id]? = some job → Fits world log job stage
  settled : Idle world log.id → .enqueuing log.id ∉ stages → Settled world log

/-- What holds of the logs, the jobs and the calls. -/
structure Accounts (world : EmailWorld) (stages : List Stage) : Prop where
  held : Held world stages
  queue : Queue world stages
  logs : ∀ log ∈ world.logs.rows, Account world stages log

/-- A log whose recipient may have unsubscribed since. -/
structure Extends (log later : EmailLog) : Prop where
  id : later.id = log.id
  status : later.status = log.status
  attempts : later.attempts = log.attempts
  maxAttempts : later.maxAttempts = log.maxAttempts
  unsubscribed : log.unsubscribed = true → later.unsubscribed = true

theorem extends_refl (log : EmailLog) : Extends log log := ⟨rfl, rfl, rfl, rfl, fun given => given⟩

section Facts
variable {world changed : EmailWorld} {log later : EmailLog} {job : EmailJob}

theorem Accepted.mono {id : String} (grows : world.handed ⊆ changed.handed) (isAccepted : Accepted world id) :
    Accepted changed id := by
  obtain ⟨handing, member, rest⟩ := isAccepted
  exact ⟨handing, grows member, rest⟩

theorem Refused.mono (kept : Extends log later) (refused : Refused log) : Refused later :=
  ⟨kept.unsubscribed refused.1, kept.status.trans refused.2⟩

theorem Tried.mono (kept : Extends log later) (tried : Tried log job) : Tried later job :=
  tried.imp (fun counted => kept.attempts ▸ counted) (Refused.mono kept)

theorem Counted.mono {read : EmailLog} (kept : Extends log later) (counted : Counted log job read) :
    Counted later job read :=
  ⟨counted.1, kept.attempts ▸ counted.2.1, counted.2.2⟩

theorem Fits.mono {stage : Stage} (kept : Extends log later) (grows : world.handed ⊆ changed.handed)
    (fits : Fits world log job stage) : Fits changed later job stage := by
  have accepted : Accepted world log.id → Accepted changed later.id := fun isAccepted =>
    kept.id ▸ isAccepted.mono grows
  cases stage with
  | refusing taken read => exact kept.unsubscribed fits
  | read taken read => exact Counted.mono kept fits
  | marked taken read => exact Counted.mono kept fits
  | ready taken read => exact Counted.mono kept fits
  | failing taken read => exact Counted.mono kept fits
  | sent taken read => exact ⟨Counted.mono kept fits.1, accepted fits.2⟩
  | ended taken success =>
    cases success with
    | true => exact fits.imp kept.status.trans (And.imp kept.status.trans accepted)
    | false =>
      refine fits.imp (fun counted => ?_) (Refused.mono kept)
      rw [kept.attempts, kept.status]
      exact counted
  | _ => trivial

end Facts

section Steps
variable {world changed : EmailWorld} {stages : List Stage} {i : Nat} {stage moved : Stage}

/-- The jobs of a log are the same. -/
def SameJobs (world changed : EmailWorld) (id : String) : Prop :=
  ∀ (key : Nat) job, job.emailLogId = id → (changed.jobs[key]? = some job ↔ world.jobs[key]? = some job)

theorem sameJobs_of_eq (jobs : changed.jobs = world.jobs) (id : String) : SameJobs world changed id :=
  fun _ _ _ => by rw [jobs]

theorem SameJobs.last {id : String} (same : SameJobs world changed id) {key : Nat}
    (isLast : Last changed id key) : Last world id key :=
  fun other job isJob ofLog => isLast other job ((same other job ofLog).mpr isJob) ofLog

theorem SameJobs.idle {id : String} (same : SameJobs world changed id) (idle : Idle changed id) : Idle world id := by
  intro job member ofLog
  obtain ⟨key, isJob⟩ := List.getElem?_of_mem member
  exact idle job (List.mem_of_getElem? ((same key job ofLog).mpr isJob)) ofLog

theorem Account.frame {log later : EmailLog} (account : Account world stages log)
    (kept : Extends log later) (found : stages[i]? = some stage)
    (same : SameJobs world changed log.id) (grows : world.handed ⊆ changed.handed)
    (aside : ∀ taken, moved.job? = some taken → taken.emailLogId ≠ log.id)
    (unqueued : stage ≠ .enqueuing log.id) (held : Held changed (stages.set i moved)) :
    Account changed (stages.set i moved) later := by
  refine ⟨kept.maxAttempts.trans account.limit, fun delivered => account.undelivered
    (kept.status.symm.trans delivered), fun key job isJob ofLog left => ?_,
    fun other member taken isTaken ofLog job isJob => ?_, fun idle unlisted => ?_⟩
  · rw [kept.id] at ofLog
    exact Tried.mono kept (account.tried key job ((same key job ofLog).mp isJob) ofLog left)
  · rw [kept.id] at ofLog
    rcases mem_set member with old | rfl
    · obtain ⟨row, isRow, _, sameLog⟩ := held.locked other member taken isTaken
      cases isRow.symm.trans isJob
      exact (account.fits other old taken isTaken ofLog job
        ((same _ job (sameLog.trans ofLog)).mp isJob)).mono kept grows
    · exact absurd ofLog (aside taken isTaken)
  · rw [kept.id] at idle unlisted
    have waits : .enqueuing log.id ∉ stages := by
      intro member
      obtain ⟨j, isStage⟩ := List.getElem?_of_mem member
      by_cases here : j = i
      · subst here
        exact unqueued (Option.some.inj (found.symm.trans isStage))
      · exact unlisted (List.mem_of_getElem? ((List.getElem?_set_ne (Ne.symm here)).trans isStage))
    have settled := account.settled (same.idle idle) waits
    unfold Settled
    rw [kept.id, kept.status]
    refine settled.imp id fun ⟨sent, accepted, completed⟩ => ⟨sent, accepted.mono grows,
      fun key job isJob ofLog isLast => ?_⟩
    exact completed key job ((same key job ofLog).mp isJob) ofLog (same.last isLast)

variable {taken : TakenJob}

theorem unfinished_of_held (held : Held world stages) (here : stage ∈ stages) (has : stage.job? = some taken)
    {job : EmailJob} (listed : world.jobs[taken.id]? = some job) : job.unfinished = true := by
  have active := held.active here has listed
  simp [EmailJob.unfinished, active]

theorem Accounts.sole (accounts : Accounts world stages) (found : stages[i]? = some stage)
    (has : stage.job? = some taken) {j : Nat} {other : Stage} (isOther : stages[j]? = some other) {rival : TakenJob}
    (isRival : other.job? = some rival) (same : rival.emailLogId = taken.emailLogId) : j = i := by
  have held := accounts.held
  have here : stage ∈ stages := List.mem_of_getElem? found
  have there : other ∈ stages := List.mem_of_getElem? isOther
  obtain ⟨row, isRow, _, logId⟩ := held.locked stage here taken has
  obtain ⟨job, isJob, _, jobLog⟩ := held.locked other there rival isRival
  have one : rival.id = taken.id := accounts.queue.only isRow (unfinished_of_held held here has isRow) isJob
    (unfinished_of_held held there isRival isJob) (jobLog.trans (same.trans logId.symm))
  exact held.alone j i other stage rival taken isOther found isRival has one

/-- What the account of a log says of the attempt under way. -/
structure Stands (world : EmailWorld) (log : EmailLog) (job : EmailJob) (stage : Stage) : Prop where
  limit : log.maxAttempts = 5
  undelivered : log.status ≠ .delivered
  tried : Tried log job
  fits : Fits world log job stage

theorem Accounts.works (accounts : Accounts world stages) (found : stages[i]? = some stage)
    (has : stage.job? = some taken) (goes : moved.job? = some taken) (held : Held changed (stages.set i moved))
    (jobs : changed.jobs = world.jobs) (grows : world.handed ⊆ changed.handed) {change : EmailLog → EmailLog}
    (sameId : ∀ log, (change log).id = log.id) (rewritten : ∀ later ∈ changed.logs.rows, ∃ log ∈ world.logs.rows,
      later = if log.id = taken.emailLogId then change log else log)
    (progress : ∀ log ∈ world.logs.rows, log.id = taken.emailLogId → ∀ job,
      Stands world log job stage → Stands changed (change log) job moved) :
    ∀ later ∈ changed.logs.rows, Account changed (stages.set i moved) later := by
  intro later member
  have here : stage ∈ stages := List.mem_of_getElem? found
  have enqueues : ∀ id, stage ≠ .enqueuing id := by
    rintro id rfl
    cases has
  obtain ⟨log, isLog, rfl⟩ := rewritten later member
  have account := accounts.logs log isLog
  by_cases ofLog : log.id = taken.emailLogId
  · rw [if_pos ofLog]
    obtain ⟨row, isRow, _, logId⟩ := accounts.held.locked stage here taken has
    have left := unfinished_of_held accounts.held here has isRow
    have rowOf : row.emailLogId = log.id := logId.trans ofLog.symm
    have stands := progress log isLog ofLog row ⟨account.limit, account.undelivered,
      account.tried taken.id row isRow rowOf left,
      account.fits stage here taken has ofLog.symm row isRow⟩
    refine ⟨stands.limit, stands.undelivered, fun key job isJob jobOf stays => ?_,
      fun other isOther rival isRival rivalOf job isJob => ?_, fun idle _ => ?_⟩
    · rw [sameId] at jobOf
      rw [jobs] at isJob
      have one := accounts.queue.only isRow left isJob stays (jobOf.trans rowOf.symm)
      subst one
      cases isJob.symm.trans isRow
      exact stands.tried
    · rw [sameId] at rivalOf
      rw [jobs] at isJob
      obtain ⟨j, isStage⟩ := List.getElem?_of_mem isOther
      rcases getElem?_set_cases isStage with ⟨_, rfl⟩ | ⟨different, old⟩
      · cases goes.symm.trans isRival
        cases isJob.symm.trans isRow
        exact stands.fits
      · exact absurd (accounts.sole found has old isRival (rivalOf.trans ofLog)) different
    · rw [sameId] at idle
      have ended := idle row (by rw [jobs]; exact List.mem_of_getElem? isRow) rowOf
      rw [left] at ended
      cases ended
  · rw [if_neg ofLog]
    refine account.frame (extends_refl log) found (sameJobs_of_eq jobs log.id) grows
      (fun rival isRival rivalOf => ofLog ?_) (enqueues log.id) held
    cases goes.symm.trans isRival
    exact rivalOf.symm

/-- The log of an attempt is found, or nothing is changed but what was handed over. -/
theorem Accounts.goesOn (accounts : Accounts world stages) (found : stages[i]? = some stage)
    (has : stage.job? = some taken) (goes : moved.job? = some taken) (held : Held changed (stages.set i moved))
    (jobs : changed.jobs = world.jobs) (logs : changed.logs = world.logs) (grows : world.handed ⊆ changed.handed)
    (progress : ∀ log ∈ world.logs.rows, log.id = taken.emailLogId → ∀ job,
      Stands world log job stage → Stands changed log job moved) :
    ∀ later ∈ changed.logs.rows, Account changed (stages.set i moved) later := by
  have unchanged : ∀ log : EmailLog, (id log).id = log.id := fun _ => rfl
  refine accounts.works found has goes held jobs grows unchanged
    (fun later member => ⟨later, logs ▸ member, ?_⟩) progress
  exact (ite_self later).symm

theorem Accounts.attempt (accounts : Accounts world stages) (found : stages[i]? = some stage) {op : EmailOp}
    {answer : EmailAnswer} {result : Except Exception op.Reply} (allowed : mailing.allows stage op)
    (accountable : Accountable world stages i op answer) (responds : world.respond op answer = some (changed, result))
    (held : Held changed (stages.set i (mailing.advance stage op result))) (jobs : changed.jobs = world.jobs)
    (has : stage.job? = some taken) (unended : ∀ success, stage ≠ .ended taken success) : ∀ later ∈ changed.logs.rows,
      Account changed (stages.set i (mailing.advance stage op result)) later := by
  have here : stage ∈ stages := List.mem_of_getElem? found
  cases stage with
  | begun job =>
    cases op with
    | findLog id =>
      cases allowed
      cases has
      cases answer with
      | fails failure => exact absurd (accountable _ found) Bool.true_eq_false.mp
      | lost how failure => exact absurd (accountable _ found) Bool.true_eq_false.mp
      | does how =>
        obtain ⟨same, rfl⟩ := effect_findLog responds
        subst changed
        obtain ⟨row, isRow, _, logId⟩ := accounts.held.locked _ here taken rfl
        obtain ⟨log, isLog, named⟩ := accounts.queue.known row (List.mem_of_getElem? isRow)
        have looked : world.logs.findOne taken.emailLogId = some log :=
          (named.trans logId) ▸ Table.findOne_of_mem isLog
        have unique : ∀ other ∈ world.logs.rows, other.id = taken.emailLogId → other = log :=
          fun other isOther same => Table.eq_of_key_eq isOther isLog (same.trans (named.trans logId).symm)
        rw [looked] at held ⊢
        have counted : log.unsubscribed = false → ∀ {other : EmailJob}, Tried log other →
            Counted log other log := by
          intro subscribed other tried
          have attempts := tried.resolve_right fun refused =>
            Bool.false_ne_true (subscribed.symm.trans refused.1)
          exact ⟨attempts, attempts, (accounts.logs log isLog).limit⟩
        change Held world (stages.set i (EmailStages.found taken (some log))) at held
        change ∀ later ∈ world.logs.rows, Account world (stages.set i (EmailStages.found taken (some log))) later
        rcases found_cases taken log with ⟨unsubscribed, leads⟩ | ⟨delivered, _⟩ | ⟨subscribed, leads⟩
        · rw [leads] at held ⊢
          refine accounts.goesOn found rfl rfl held rfl rfl (List.Subset.refl _)
            fun other isOther ofLog row stands => ?_
          cases unique other isOther ofLog
          exact ⟨stands.limit, stands.undelivered, stands.tried, unsubscribed⟩
        · exact absurd delivered (accounts.logs log isLog).undelivered
        · rw [leads] at held ⊢
          refine accounts.goesOn found rfl rfl held rfl rfl (List.Subset.refl _)
            fun other isOther ofLog row stands => ?_
          cases unique other isOther ofLog
          exact ⟨stands.limit, stands.undelivered, stands.tried, counted subscribed stands.tried⟩
    | _ => exact allowed.elim
  | refusing job read =>
    cases op with
    | updateLog id change =>
      obtain ⟨rfl, message, rfl⟩ := allowed
      cases has
      have tried : ∀ {log : EmailLog} {row : EmailJob}, Tried log row →
          Tried ((LogUpdate.setStatus .failed message).apply log) row :=
        fun stands => stands.imp id fun refused => ⟨refused.1, rfl⟩
      rcases respond_update responds with ⟨failure, rfl, _⟩ | ⟨rfl, rfl | ⟨_, failure, rfl, rfl⟩⟩
      · exact accountable.elim
      · refine accounts.works found rfl rfl held rfl (List.Subset.refl _) (LogUpdate.apply_id · _)
          (fun later => mem_update) fun log _ _ row stands => ?_
        exact ⟨stands.limit, nofun, tried stands.tried, Or.inl rfl⟩
      · refine accounts.works found rfl rfl held rfl (List.Subset.refl _) (LogUpdate.apply_id · _)
          (fun later => mem_update) fun log _ _ row stands => ?_
        exact ⟨stands.limit, nofun, tried stands.tried, Or.inr ⟨stands.fits, rfl⟩⟩
    | _ => exact allowed.elim
  | read job read =>
    cases op with
    | updateLog id change =>
      obtain ⟨rfl, rfl⟩ := allowed
      cases has
      rcases respond_update responds with ⟨failure, rfl, _⟩ | ⟨rfl, rfl | ⟨_, failure, rfl, rfl⟩⟩
      · exact accountable.elim
      · refine accounts.works found rfl rfl held rfl (List.Subset.refl _) (LogUpdate.apply_id · _)
          (fun later => mem_update) fun log _ _ row stands => ?_
        exact ⟨stands.limit, nofun, Or.inl stands.fits.2.1, stands.fits⟩
      · cases accountable
    | _ => exact allowed.elim
  | marked job read =>
    cases op with
    | isAvailable provider =>
      cases has
      cases accountable
      cases responds
      refine accounts.goesOn found rfl rfl held rfl rfl (List.Subset.refl _) fun log _ _ row stands => ?_
      exact ⟨stands.limit, stands.undelivered, stands.tried, stands.fits⟩
    | _ => exact allowed.elim
  | ready job read =>
    cases op with
    | sendMail sending log options =>
      obtain ⟨rfl, rfl, _⟩ := allowed
      cases has
      have grows : ∀ isAccepted, world.handed ⊆ (world.hand taken log isAccepted).handed :=
        fun _ => List.subset_append_left _ _
      rcases respond_cases responds with ⟨_, _, rfl, rfl⟩ | ⟨_, _, effect, answered⟩
      · refine accounts.goesOn found rfl rfl held rfl rfl (grows _) fun other _ _ row stands => ?_
        exact ⟨stands.limit, stands.undelivered, stands.tried, stands.fits⟩
      · obtain ⟨rfl, sent, rfl⟩ := effect_sendMail effect
        rcases answered with ⟨_, rfl⟩ | ⟨_, _, rfl⟩
        · refine accounts.goesOn found rfl rfl held rfl rfl (grows _) fun other _ ofLog row stands => ?_
          have named : log.id = taken.emailLogId := accounts.held.named _ here
          exact ⟨stands.limit, stands.undelivered, stands.tried, stands.fits,
            ⟨taken, log, true⟩, List.mem_append_right _ (List.mem_singleton_self _), rfl,
            named.trans ofLog.symm⟩
        · refine accounts.goesOn found rfl rfl held rfl rfl (grows _) fun other _ _ row stands => ?_
          exact ⟨stands.limit, stands.undelivered, stands.tried, stands.fits⟩
    | _ => exact allowed.elim
  | sent job read =>
    cases op with
    | updateLog id change =>
      obtain ⟨rfl, messageId, metadata, rfl⟩ := allowed
      cases has
      rcases respond_update responds with ⟨failure, rfl, rfl, rfl⟩ | ⟨rfl, rfl | ⟨_, failure, rfl, rfl⟩⟩
      · refine accounts.goesOn found rfl rfl held rfl rfl (List.Subset.refl _) fun log _ _ row stands => ?_
        exact ⟨stands.limit, stands.undelivered, stands.tried, stands.fits.1⟩
      · refine accounts.works found rfl rfl held rfl (List.Subset.refl _) (LogUpdate.apply_id · _)
          (fun later => mem_update) fun log _ _ row stands => ?_
        have attempts : row.attemptsMade ≤ read.attempts + 1 := Nat.le_succ_of_le stands.fits.1.1
        exact ⟨stands.limit, nofun, Or.inl attempts, Or.inr ⟨rfl, stands.fits.2⟩⟩
      · refine accounts.works found rfl rfl held rfl (List.Subset.refl _) (LogUpdate.apply_id · _)
          (fun later => mem_update) fun log _ _ row stands => ?_
        obtain ⟨⟨before, _, limit⟩, _⟩ := stands.fits
        have attempts : row.attemptsMade ≤ read.attempts + 1 := Nat.le_succ_of_le before
        exact ⟨stands.limit, nofun, Or.inl attempts, before, attempts, limit⟩
    | _ => exact allowed.elim
  | failing job read =>
    cases op with
    | updateLog id change =>
      obtain ⟨rfl, failure, rfl⟩ := allowed
      cases has
      rcases respond_update responds with ⟨failure, rfl, _⟩ | ⟨rfl, _⟩
      · exact accountable.elim
      · refine accounts.works found rfl rfl held rfl (List.Subset.refl _) (LogUpdate.apply_id · _)
          (fun later => mem_update) fun log _ _ row stands => ?_
        obtain ⟨before, _, limit⟩ := stands.fits
        have undelivered : ((attempted read failure).apply log).status ≠ .delivered := by
          change (if read.maxAttempts ≤ read.attempts + 1 then EmailStatus.failed else .queued) ≠ .delivered
          split <;> nofun
        have exhausted : 5 ≤ read.attempts + 1 → ((attempted read failure).apply log).status = .failed :=
          fun five => if_pos (limit ▸ five)
        exact ⟨stands.limit, undelivered, Or.inl (Nat.le_succ_of_le before),
          Or.inl ⟨Nat.succ_le_succ before, exhausted⟩⟩
    | _ => exact allowed.elim
  | ended job success =>
    cases has
    exact absurd rfl (unended success)
  | _ => cases has

/-- A call goes on that has no job in hand and nothing to enqueue, or its worker lets the job go. -/
theorem Accounts.aside (accounts : Accounts world stages) (found : stages[i]? = some stage)
    (held : Held changed (stages.set i moved)) (jobs : changed.jobs = world.jobs)
    (grows : world.handed ⊆ changed.handed)
    (kept : ∀ later ∈ changed.logs.rows, ∃ log ∈ world.logs.rows, Extends log later)
    (nothing : moved.job? = none) (unqueued : ∀ id, stage ≠ .enqueuing id) :
    ∀ later ∈ changed.logs.rows, Account changed (stages.set i moved) later := by
  intro later member
  obtain ⟨log, isLog, same⟩ := kept later member
  refine (accounts.logs log isLog).frame same found (sameJobs_of_eq jobs log.id) grows
    (fun taken isTaken => ?_) (unqueued log.id) held
  rw [nothing] at isTaken
  cases isTaken

theorem Accounts.turn (accounts : Accounts world stages) (found : stages[i]? = some stage) {id : Nat}
    {row next : EmailJob} (listed : world.jobs[id]? = some row) (left : row.unfinished = true)
    (logId : next.emailLogId = row.emailLogId) (held : Held (world.setJob id next) (stages.set i moved))
    (unqueued : ∀ key, stage ≠ .enqueuing key)
    (alone : ∀ (j : Nat) other, j ≠ i → stages[j]? = some other → ∀ taken, other.job? = some taken → taken.id ≠ id)
    (owns : ∀ taken, moved.job? = some taken → taken.emailLogId = row.emailLogId)
    (unread : ∀ log job, Fits (world.setJob id next) log job moved)
    (tried : ∀ log ∈ world.logs.rows, log.id = row.emailLogId → next.unfinished = true → Tried log next)
    (settles : ∀ log ∈ world.logs.rows, log.id = row.emailLogId → next.unfinished = false →
      log.status = .failed ∨ log.status = .sent ∧ Accepted world log.id ∧ next.state = .completed) :
    ∀ log ∈ world.logs.rows, Account (world.setJob id next) (stages.set i moved) log := by
  intro log isLog
  have account := accounts.logs log isLog
  have inside := (List.getElem?_eq_some_iff.mp listed).1
  have isNext : (world.setJob id next).jobs[id]? = some next := List.getElem?_set_self inside
  by_cases ofLog : log.id = row.emailLogId
  · refine ⟨account.limit, account.undelivered, fun key job isJob jobOf stays => ?_,
      fun other member taken isTaken takenOf job isJob => ?_, fun idle _ => ?_⟩
    · rcases getElem?_setJob isJob with ⟨rfl, rfl⟩ | ⟨different, old⟩
      · exact tried log isLog ofLog stays
      · exact absurd (accounts.queue.only listed left old stays (jobOf.trans ofLog)) different
    · obtain ⟨j, isStage⟩ := List.getElem?_of_mem member
      rcases getElem?_set_cases isStage with ⟨_, rfl⟩ | ⟨different, old⟩
      · exact unread log job
      · have there : other ∈ stages := List.mem_of_getElem? old
        obtain ⟨held', isHeld, _, heldLog⟩ := accounts.held.locked other there taken isTaken
        exact absurd (accounts.queue.only listed left isHeld
          (unfinished_of_held accounts.held there isTaken isHeld)
          (heldLog.trans (takenOf.trans ofLog))) (alone j other different old taken isTaken)
    · have ended := idle next (List.mem_of_getElem? isNext) (logId.trans ofLog.symm)
      refine (settles log isLog ofLog ended).imp_right fun ⟨sent, accepted, completed⟩ =>
        ⟨sent, accepted, fun key job isJob jobOf isLast => ?_⟩
      have after : id ≤ key := isLast id next isNext (logId.trans ofLog.symm)
      rcases getElem?_setJob isJob with ⟨_, rfl⟩ | ⟨different, old⟩
      · exact completed
      · have before := accounts.queue.last id row listed left key job old (jobOf.trans ofLog)
        exact absurd (Nat.le_antisymm before after) different
  · have same : SameJobs world (world.setJob id next) log.id := by
      intro key job jobOf
      by_cases here : id = key
      · subst here
        rw [isNext, listed]
        refine ⟨fun isJob => ?_, fun isJob => ?_⟩ <;> cases isJob
        · exact absurd (jobOf.symm.trans logId) ofLog
        · exact absurd jobOf.symm ofLog
      · have kept : (world.setJob id next).jobs[key]? = world.jobs[key]? := List.getElem?_set_ne here
        rw [kept]
    exact account.frame (extends_refl log) found same (List.Subset.refl _)
      (fun taken isTaken takenOf => ofLog (takenOf.symm.trans (owns taken isTaken))) (unqueued log.id) held

theorem untaken_of_idle (held : Held world stages) {id : String} (idle : Idle world id) (here : stage ∈ stages)
    (has : stage.job? = some taken) : taken.emailLogId ≠ id := by
  intro ofLog
  obtain ⟨row, isRow, _, logId⟩ := held.locked stage here taken has
  have ended := idle row (List.mem_of_getElem? isRow) (logId.trans ofLog)
  rw [unfinished_of_held held here has isRow] at ended
  cases ended

theorem account_waiting {log : EmailLog} (limit : log.maxAttempts = 5)
    (undelivered : log.status ≠ .delivered) (idle : Idle world log.id) (held : Held world stages)
    (waits : .enqueuing log.id ∈ stages) : Account world stages log where
  limit := limit
  undelivered := undelivered
  tried key job isJob ofLog left := by
    rw [idle job (List.mem_of_getElem? isJob) ofLog] at left
    cases left
  fits other member taken isTaken ofLog := absurd ofLog (untaken_of_idle held idle member isTaken)
  settled _ unlisted := absurd waits unlisted

theorem mem_set_self (found : stages[i]? = some stage) (moved : Stage) : moved ∈ stages.set i moved :=
  List.mem_of_getElem? (List.getElem?_set_self (List.getElem?_eq_some_iff.mp found).1)

theorem Accounts.inserts (accounts : Accounts world stages) (found : stages[i]? = some .free)
    {log : EmailLog} (created : Created log) (fresh : log.id ∉ world.logs.rows.map (·.id))
    (held : Held { world with logs := world.logs.save log } (stages.set i (.enqueuing log.id))) :
    ∀ later ∈ (world.logs.save log).rows,
      Account { world with logs := world.logs.save log } (stages.set i (.enqueuing log.id)) later := by
  intro later member
  rcases Table.mem_save.mp member with rfl | ⟨old, _⟩
  · obtain ⟨queued, _, limit, _⟩ := created
    refine account_waiting limit (by rw [queued]; nofun) (fun job isJob ofLog => ?_) held
      (mem_set_self found _)
    obtain ⟨other, isOther, named⟩ := accounts.queue.known job isJob
    exact absurd (List.mem_map.mpr ⟨other, isOther, named.trans ofLog⟩) fresh
  · exact (accounts.logs later old).frame (extends_refl later) found (sameJobs_of_eq rfl later.id)
      (List.Subset.refl _) nofun nofun held

theorem Accounts.requeues (accounts : Accounts world stages) {id : String}
    (found : stages[i]? = some (.looked id)) (idle : Idle world id)
    (held : Held (world.update id .requeue) (stages.set i (.enqueuing id))) :
    ∀ later ∈ (world.update id .requeue).logs.rows,
      Account (world.update id .requeue) (stages.set i (.enqueuing id)) later := by
  intro later member
  obtain ⟨log, isLog, rfl⟩ := mem_update member
  have account := accounts.logs log isLog
  split
  next ofLog =>
    subst ofLog
    exact account_waiting account.limit nofun idle held (mem_set_self found _)
  next =>
    exact account.frame (extends_refl log) found (sameJobs_of_eq rfl log.id) (List.Subset.refl _) nofun
      nofun held

theorem Accounts.adds (accounts : Accounts world stages) {id : String} (found : stages[i]? = some (.enqueuing id))
    (held : Held { world with jobs := world.jobs ++ [⟨id, 5, 0, 0, 0, .waiting⟩] } (stages.set i .free)) :
    ∀ log ∈ world.logs.rows,
      Account { world with jobs := world.jobs ++ [⟨id, 5, 0, 0, 0, .waiting⟩] } (stages.set i .free) log := by
  intro log isLog
  have account := accounts.logs log isLog
  have idle := accounts.queue.awaited id (List.mem_of_getElem? found)
  by_cases ofLog : log.id = id
  · refine ⟨account.limit, account.undelivered, fun key job isJob jobOf left => ?_,
      fun other member taken isTaken takenOf => ?_, fun ended _ => ?_⟩
    · rcases getElem?_append_cases isJob with old | new
      · rw [idle job (List.mem_of_getElem? old) (jobOf.trans ofLog)] at left
        cases left
      · rw [List.mem_singleton.mp new]
        exact Or.inl (Nat.zero_le _)
    · rcases mem_set member with old | rfl
      · exact absurd (takenOf.trans ofLog) (untaken_of_idle accounts.held idle old isTaken)
      · cases isTaken
    · have waiting := ended _ (List.mem_append_right _ (List.mem_singleton_self _)) ofLog.symm
      cases waiting
  · have same : SameJobs world { world with jobs := world.jobs ++ [⟨id, 5, 0, 0, 0, .waiting⟩] } log.id := by
      refine fun key job jobOf => ⟨fun isJob => ?_, fun isJob =>
        (List.getElem?_append_left (List.getElem?_eq_some_iff.mp isJob).1).trans isJob⟩
      rcases getElem?_append_cases isJob with old | new
      · exact old
      · rw [List.mem_singleton.mp new] at jobOf
        exact absurd jobOf.symm ofLog
    refine account.frame (extends_refl log) found same (List.Subset.refl _) nofun (fun enqueues => ?_) held
    cases enqueues
    exact ofLog rfl

section Answers
variable {op : EmailOp} {answer : EmailAnswer} {result : Except Exception op.Reply}

theorem handed_grows (responds : world.respond op answer = some (changed, result)) :
    world.handed ⊆ changed.handed := by
  rcases respond_handed responds with same | ⟨_, _, _, _, _, same⟩ <;> rw [same]
  · exact List.Subset.refl _
  · exact List.subset_append_left _ _

/-- What neither saves nor updates a log leaves it but for the recipient who unsubscribes. -/
theorem log_extends (responds : world.respond op answer = some (changed, result))
    (unsaved : ∀ log, op ≠ .insertLog log) (kept : ∀ id change, op ≠ .updateLog id change) :
    ∀ later ∈ changed.logs.rows, ∃ log ∈ world.logs.rows, Extends log later := by
  intro later member
  rcases respond_logs responds with same | ⟨log, _, isInsert, _⟩ | ⟨id, change, isUpdate, _⟩ | ⟨email, _, rfl⟩
  · exact ⟨later, same ▸ member, extends_refl later⟩
  · exact absurd isInsert (unsaved log)
  · exact absurd isUpdate (kept id change)
  · obtain ⟨log, isLog, rfl⟩ := mem_markUnsubscribed member
    refine ⟨log, isLog, ?_⟩
    split
    next => exact ⟨rfl, rfl, rfl, rfl, fun _ => rfl⟩
    next => exact extends_refl log

theorem Accounts.still (accounts : Accounts world stages) (found : stages[i]? = some stage)
    (allowed : mailing.allows stage op) (accountable : Accountable world stages i op answer)
    (responds : world.respond op answer = some (changed, result))
    (held : Held changed (stages.set i (mailing.advance stage op result))) (jobs : changed.jobs = world.jobs)
    (untaken : ∀ job, (mailing.advance stage op result).job? = some job → stage.job? = some job) :
    ∀ later ∈ changed.logs.rows, Account changed (stages.set i (mailing.advance stage op result)) later := by
  have grows := handed_grows responds
  have nothing : stage.job? = none → (mailing.advance stage op result).job? = none := by
    intro none
    refine Option.eq_none_iff_forall_ne_some.mpr fun job has => ?_
    rw [untaken job has] at none
    cases none
  cases stage with
  | free =>
    cases op with
    | insertLog log =>
      cases answer with
      | does how =>
        obtain ⟨id, fresh, rfl, rfl⟩ := effect_insertLog responds
        exact accounts.inserts found allowed fresh held
      | fails failure =>
        cases responds
        exact accounts.aside found held rfl grows (fun later member => ⟨later, member, extends_refl later⟩)
          rfl nofun
      | lost how failure => exact accountable.elim
    | findLog id =>
      refine accounts.aside found held jobs grows (log_extends responds ?_ ?_) (nothing rfl) nofun
      · exact fun _ => nofun
      · exact fun _ _ => nofun
    | _ => exact allowed.elim
  | looked id =>
    cases op with
    | updateLog requeued change =>
      obtain ⟨rfl, rfl⟩ := allowed
      rcases respond_update responds with ⟨_, rfl, rfl, rfl⟩ | ⟨rfl, rfl | ⟨_, _, rfl, rfl⟩⟩
      · exact accounts.aside found held rfl grows (fun later member => ⟨later, member, extends_refl later⟩)
          rfl nofun
      · cases answer with
        | does how => exact accounts.requeues found accountable.1 held
        | fails failure => cases (Prod.mk.inj (Option.some.inj responds)).2
        | lost how failure => exact accountable.elim
      · exact accountable.elim
    | _ => exact allowed.elim
  | enqueuing id =>
    cases op with
    | addJob emailLogId attempts =>
      rcases respond_cases responds with ⟨_, rfl, _⟩ | ⟨_, _, effect, _⟩
      · exact accountable.elim
      · rw [(effect_addJob effect).1] at jobs
        exact absurd (congrArg List.length jobs) (by simp)
    | _ => exact allowed.elim
  | apart =>
    refine accounts.aside found held jobs grows (log_extends responds ?_ ?_) (nothing rfl) nofun
    · rintro log rfl
      exact allowed
    · rintro id change rfl
      exact allowed
  | ended job success =>
    refine accounts.aside found held jobs grows (log_extends responds ?_ ?_) rfl nofun
    · rintro log rfl
      exact allowed
    · rintro id change rfl
      exact allowed
  | _ => exact accounts.attempt found allowed accountable responds held jobs rfl nofun

theorem Accounts.respond (accounts : Accounts world stages) (found : stages[i]? = some stage)
    (allowed : mailing.allows stage op) (accountable : Accountable world stages i op answer)
    (responds : world.respond op answer = some (changed, result)) :
    Accounts changed (stages.set i (mailing.advance stage op result)) := by
  have here : stage ∈ stages := List.mem_of_getElem? found
  have unattended : Unattended stages op := by
    cases op with
    | moveUnlocked id => exact accountable.1
    | _ => trivial
  have separate : Separate world stages op answer := by
    unfold Separate
    split
    next => exact accountable
    next => trivial
  have held := accounts.held.respond found allowed unattended responds
  refine ⟨held, accounts.queue.respond accounts.held found allowed separate responds, ?_⟩
  have before : ∀ {id : Nat} {row : EmailJob}, world.jobs[id]? = some row → row.unfinished = true →
      ∀ log ∈ world.logs.rows, log.id = row.emailLogId → Tried log row :=
    fun listed left log isLog ofLog => (accounts.logs log isLog).tried _ _ listed ofLog.symm left
  cases turns allowed responds with
  | still jobs untaken => exact accounts.still found allowed accountable responds held jobs untaken
  | added isStage isFive same =>
    subst isStage isFive same
    exact accounts.adds found held
  | @taken id row isStage listed waiting same =>
    subst isStage same
    have left : row.unfinished = true := by simp [EmailJob.unfinished, waiting]
    refine accounts.turn found listed left rfl held (by simp) (fun j other _ isOther job isJob =>
      accounts.held.unheld listed waiting other (List.mem_of_getElem? isOther) job isJob)
      (fun taken isTaken => ?_) (fun _ _ => trivial) (fun log isLog ofLog _ =>
      before listed left log isLog ofLog) fun _ _ _ ended => absurd (show true = false from ended) (by decide)
    cases isTaken
    rfl
  | @missed id row _ isStage listed waiting same =>
    subst isStage same
    have left : row.unfinished = true := by simp [EmailJob.unfinished, waiting]
    exact accounts.turn found listed left rfl held (by simp) (fun j other _ isOther job isJob =>
      accounts.held.unheld listed waiting other (List.mem_of_getElem? isOther) job isJob)
      (fun _ isTaken => by cases isTaken) (fun _ _ => trivial) (fun log isLog ofLog _ => before listed left log isLog ofLog)
      fun _ _ _ ended => absurd (show true = false from ended) (by decide)
  | @completed job row _ isStage listed same =>
    subst isStage same
    have left := unfinished_of_held accounts.held here rfl listed
    obtain ⟨row', isRow, _, logId⟩ := accounts.held.locked _ here job rfl
    cases listed.symm.trans isRow
    refine accounts.turn found listed left rfl held (by simp) (fun j other different isOther rival isRival =>
      accounts.held.apart found rfl different isOther isRival) (fun _ isTaken => by cases isTaken) (fun _ _ => trivial)
      (fun _ _ _ again => absurd (show false = true from again) (by decide)) fun log isLog ofLog _ => ?_
    have fits : Fits world log row (.ended job true) :=
      (accounts.logs log isLog).fits _ here job rfl (logId.symm.trans ofLog.symm) row listed
    exact fits.imp_right fun delivered => ⟨delivered.1, delivered.2, rfl⟩
  | @failed job row _ _ isStage listed same =>
    subst isStage same
    have left := unfinished_of_held accounts.held here rfl listed
    have limit := accounts.queue.limit row (List.mem_of_getElem? listed)
    obtain ⟨row', isRow, _, logId⟩ := accounts.held.locked _ here job rfl
    cases listed.symm.trans isRow
    have fits : ∀ log ∈ world.logs.rows, log.id = row.emailLogId → Fits world log row (.ended job false) :=
      fun log isLog ofLog =>
        (accounts.logs log isLog).fits _ here job rfl (logId.symm.trans ofLog.symm) row listed
    refine accounts.turn found listed left rfl held (by simp) (fun j other different isOther rival isRival =>
      accounts.held.apart found rfl different isOther isRival) (fun _ isTaken => by cases isTaken) (fun _ _ => trivial)
      (fun log isLog ofLog _ => (fits log isLog ofLog).imp_left And.left) fun log isLog ofLog ended => ?_
    rcases fits log isLog ofLog with ⟨counted, exhausted⟩ | refused
    · have last : ¬ row.attemptsMade + 1 < row.attempts := by
        intro again
        simp [EmailJob.fail, EmailJob.unfinished, again] at ended
      rw [limit] at last
      exact Or.inl (exhausted (Nat.le_trans (Nat.le_of_not_lt last) counted))
    · exact Or.inl refused.2
  | @stalled id row _ isStage listed active same =>
    subst isStage same
    have left : row.unfinished = true := by simp [EmailJob.unfinished, active]
    have first : row.stalls = 0 := accountable.2 row listed
    refine accounts.turn found listed left rfl held (by simp) (fun j other _ isOther job isJob isId =>
      accountable.1 ?_) (fun _ isTaken => by cases isTaken) (fun _ _ => trivial) (fun log isLog ofLog _ =>
      before listed left log isLog ofLog) fun log _ _ ended => ?_
    · exact List.mem_map.mpr
        ⟨job, List.mem_filterMap.mpr ⟨other, List.mem_of_getElem? isOther, isJob⟩, isId⟩
    · simp [EmailJob.stall, EmailJob.unfinished, first] at ended

end Answers

end Steps

theorem accounts_initial : Accounts EmailWorld.empty [] where
  held := held_initial
  queue := queue_initial
  logs _ member := nomatch member

theorem Accounts.calls {world : EmailWorld} {stages : List Stage} (accounts : Accounts world stages)
    (calls : List EmailCall) : Accounts world (stages ++ calls.map mailing.start) := by
  refine ⟨accounts.held.calls calls, accounts.queue.calls calls, fun log isLog => ?_⟩
  have account := accounts.logs log isLog
  refine ⟨account.limit, account.undelivered, account.tried, fun stage member taken isTaken => ?_,
    fun idle unlisted => account.settled idle fun waits => unlisted (List.mem_append_left _ waits)⟩
  rcases List.mem_append.mp member with old | new
  · exact account.fits stage old taken isTaken
  · obtain ⟨call, _, rfl⟩ := List.mem_map.mp new
    rw [start_job] at isTaken
    cases isTaken

end AlianStructure.Guarantees.EmailAccounts

/-!
# A log that is left without a job is failed or sent

Source: src/email/services/email-queue.service.ts:43-147 and email.service.ts:100-118. A log of which no job
is left is listed as failed and may be retried, unless a message of it was accepted, in the runs in which
every attempt is counted before it ends.
-/
namespace AlianStructure.Guarantees.EmailAccounting
open Library.Interleaving Library.CallProtocol Library.KeyedTable
open Source Source.Email EmailService EmailQueueService EmailStages EmailLocks EmailJobs EmailAccounts EmailOnce

section Service
variable (engine : TemplateEngine) (config : EmailConfig)

/-- A new call and the answer to its first operation. -/
def asks (now : Config (emailProcess engine config)) (call : EmailCall) :
    List (Label (emailProcess engine config)) :=
  [.call call, .reply now.pool.length (.does .plain)]

/-- A call of getFailedEmailLogs returns the log. -/
def Listed (now : Config (emailProcess engine config)) (log : EmailLog) : Prop :=
  ∃ later logs, run (asks engine config now .getFailedEmailLogs) now = some later ∧
    (later.pool[now.pool.length]?).bind Task.result = some (.ok (.logs logs)) ∧ some log ∈ logs

/-- A call of retryFailed goes on to requeue the log. -/
def Retriable (now : Config (emailProcess engine config)) (id : String) : Prop :=
  ∃ later, run (asks engine config now (.retryFailed id)) now = some later ∧
    (later.pool[now.pool.length]?).bind awaits = some (.updateLog id .requeue)

/-- A log without a job that no call is about to enqueue is failed, or sent and accepted; it is failed when
its last job has failed, and a failed log is listed and may be retried. -/
def Accounted (now : Config (emailProcess engine config)) : Prop :=
  ∀ log ∈ now.world.logs.rows, Idle now.world log.id →
    (∀ task ∈ now.pool, phaseOf mailing task ≠ .enqueuing log.id) →
    (log.status = .failed ∨ log.status = .sent ∧ Accepted now.world log.id) ∧
    (∀ (key : Nat) job, now.world.jobs[key]? = some job → job.emailLogId = log.id →
      Last now.world log.id key → job.state = .failed → log.status = .failed) ∧
    (log.status = .failed → Listed engine config now log ∧ Retriable engine config now log.id)

variable {engine config} {now : Config (emailProcess engine config)} {log : EmailLog}

theorem run_call {S : Service emailing} (c : Config S) (call : EmailCall) (choice : S.Choice) {op : EmailOp}
    {rest : Except Exception op.Reply → EmailM EmailValue} {world : S.World} {result : Except Exception op.Reply} (isPublic : S.isPublic call = true)
    (body : S.body call = .await op rest) (responds : S.respond c.world op choice = some (world, result)) :
    ∃ later, run [.call call, .reply c.pool.length choice] c = some later ∧
      later.pool[c.pool.length]? = some ⟨call, [⟨op, result⟩], rest result, none⟩ := by
  simp [run, next, isPublic, newTask, body, responds]

theorem failed_listed (member : log ∈ now.world.logs.rows) (failed : log.status = .failed) :
    Listed engine config now log := by
  obtain ⟨later, ran, ends⟩ := run_call now .getFailedEmailLogs (.does .plain) rfl rfl rfl
  refine ⟨later, _, ran, by rw [ends]; rfl, ?_⟩
  exact List.mem_map_of_mem (List.mem_filter.mpr ⟨member, decide_eq_true failed⟩)

theorem failed_retriable (member : log ∈ now.world.logs.rows) (failed : log.status = .failed) :
    Retriable engine config now log.id := by
  obtain ⟨later, ran, waits⟩ := run_call now (.retryFailed log.id) (.does .plain) rfl rfl rfl
  refine ⟨later, ran, ?_⟩
  rw [waits, Table.findOne_of_mem member]
  change awaits (R := emailing)
    ⟨_, _, (if log.status ≠ .failed then _ else _ : EmailM (Option EmailLog)) >>= _, _⟩ = _
  rw [if_neg (not_not.mpr failed)]
  rfl

variable (engine config) in
/-- The condition on a run. -/
def accountable : ChoiceCondition mailing (emailProcess engine config) :=
  fun v i op answer => Accountable v.world v.phases i op answer

instance (v : View mailing (emailProcess engine config)) (i : Nat) (op : EmailOp) (answer : EmailAnswer) :
    Decidable (accountable engine config v i op answer) :=
  inferInstanceAs (Decidable (Accountable v.world v.phases i op answer))

end Service

/-- In every run in which every attempt is counted and no enqueuing is lost, the logs that are left without a
job are accounted for, and a call that has ended has nothing to enqueue. -/
theorem failures_accounted (engine : TemplateEngine) (config : EmailConfig)
    (labels : List (Label (emailProcess engine config))) (after : Config (emailProcess engine config))
    (admissible : Admissible (OnChoices (accountable engine config)) labels
      (Config.initial (emailProcess engine config) EmailWorld.empty ()))
    (ran : run labels (Config.initial (emailProcess engine config) EmailWorld.empty ()) = some after) :
    Accounted engine config after ∧
      ∀ task ∈ after.pool, task.result.isSome → ∀ id, phaseOf mailing task ≠ .enqueuing id := by
  have steps : ∀ v v' : View mailing (emailProcess engine config), Accounts v.world v.phases →
      Decides (accountable engine config) v v' → Accounts v'.world v'.phases := by
    intro v v' accounts decides
    cases decides with
    | calls new _ => exact accounts.calls new
    | env mem change => exact accounts
    | reply i stage op choice world result found allowed responds condition =>
      obtain ⟨answer, answers, counted⟩ := condition
      exact accounts.respond found allowed counted answers
  obtain ⟨accounts, keep⟩ := invariant_of_choices (email_conforms engine config) steps
    (allKeep_initial _ _) accounts_initial admissible ran
  refine ⟨fun log isLog idle unlisted => ?_, fun task member ended id waits => ?_⟩
  · have waits : .enqueuing log.id ∉ phases mailing after := by
      intro member
      obtain ⟨task, isTask, same⟩ := List.mem_map.mp member
      exact unlisted task isTask same
    have settled := (accounts.logs log isLog).settled idle waits
    refine ⟨settled.imp_right fun ⟨sent, accepted, _⟩ => ⟨sent, accepted⟩,
      fun key job isJob ofLog isLast failed => ?_,
      fun failed => ⟨failed_listed isLog failed, failed_retriable isLog failed⟩⟩
    rcases settled with isFailed | ⟨_, _, completed⟩
    · exact isFailed
    · have done := completed key job isJob ofLog isLast
      rw [failed] at done
      cases done
  · obtain ⟨i, found⟩ := List.getElem?_of_mem member
    obtain ⟨result, isResult⟩ := Option.isSome_iff_exists.mp ended
    have closed := returns_of_result keep found isResult
    rw [waits] at closed
    rcases closed with same | same | ⟨_, same⟩ <;> cases same

/-- An attempt of the only job to which the provider answers with an error. -/
def refusesMail (worker : Nat) : List MailLabel :=
  [.call (.handleSendEmail 0), .reply worker (.does .plain), .reply worker (.does .plain),
    .reply worker (.does .plain), .reply worker (.does (.available true)),
    .reply worker (.fails (.error "Message failed")), .reply worker (.does .plain),
    .reply worker (.does .plain)]

/-- An attempt of the only job for which there is no provider. -/
def unavailable (worker : Nat) : List MailLabel :=
  [.call (.handleSendEmail 0), .reply worker (.does .plain), .reply worker (.does .plain),
    .reply worker (.does .plain), .reply worker (.does (.available false)), .reply worker (.does .plain)]

theorem refused_mail_accounted : ∃ after,
    run (enqueued ++ [1, 2, 3, 4, 5].flatMap refusesMail) beforeMail = some after ∧
      (after.world.logs.rows.map (·.status) = [.failed] ∧ Idle after.world "m1") ∧
      Accounted sampleEngine sampleConfig after := by
  obtain ⟨after, ran, failed⟩ := (by decide +kernel : ∃ after,
    run (enqueued ++ [1, 2, 3, 4, 5].flatMap refusesMail) beforeMail = some after ∧
      (after.world.logs.rows.map (·.status) = [.failed] ∧ Idle after.world "m1"))
  exact ⟨after, ran, failed, (failures_accounted sampleEngine sampleConfig
    (enqueued ++ [1, 2, 3, 4, 5].flatMap refusesMail) after (by decide +kernel) ran).1⟩

/-- The provider is unavailable in all attempts, and the log stays in sending. -/
theorem unavailable_provider_unaccounted : ∃ after,
    run (enqueued ++ [1, 2, 3, 4, 5].flatMap unavailable) beforeMail = some after ∧
      ¬ Accounted sampleEngine sampleConfig after := by
  obtain ⟨after, ran, log, isLog, sending, idle, unlisted⟩ := (by decide +kernel : ∃ after,
    run (enqueued ++ [1, 2, 3, 4, 5].flatMap unavailable) beforeMail = some after ∧
      ∃ log ∈ after.world.logs.rows, log.status = .sending ∧ Idle after.world log.id ∧
        ∀ task ∈ after.pool, phaseOf mailing task ≠ .enqueuing log.id)
  refine ⟨after, ran, fun accounted => ?_⟩
  rcases (accounted log isLog idle unlisted).1 with failed | ⟨sent, _⟩
  · rw [sending] at failed
    cases failed
  · rw [sending] at sent
    cases sent

end AlianStructure.Guarantees.EmailAccounting
