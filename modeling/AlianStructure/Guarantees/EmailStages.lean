import AlianStructure.Library.CallProtocol
import AlianStructure.Source.Email.EmailRuntime

/-!
# The stages of an email

Source: src/email/email.service.ts:30-127 and services/email-queue.service.ts:43-147. A call that enqueues has
a log to enqueue between saving it and adding its job; a worker goes from the job it has taken through the
checks of the log to the provider, and records what came of it in the log and in the queue. The other calls
stay apart.
-/
namespace AlianStructure.Guarantees.EmailStages
open Library.Interleaving Library.CallProtocol Library.KeyedTable
open Source Source.Email EmailQueueService EmailService

inductive Stage where
  | free
  | looked (id : String)
  | enqueuing (id : String)
  | apart
  | begun (job : TakenJob)
  | refusing (job : TakenJob) (log : EmailLog)
  | read (job : TakenJob) (log : EmailLog)
  | marked (job : TakenJob) (log : EmailLog)
  | ready (job : TakenJob) (log : EmailLog)
  | sent (job : TakenJob) (log : EmailLog)
  | failing (job : TakenJob) (log : EmailLog)
  | ended (job : TakenJob) (success : Bool)
  deriving DecidableEq

/-- The stages in which a call may end. -/
def Stage.Over (stage : Stage) : Prop := stage = .free ∨ stage = .apart ∨ ∃ id, stage = .looked id

/-- A log as it is created. -/
def Created (log : EmailLog) : Prop :=
  log.status = .queued ∧ log.attempts = 0 ∧ log.maxAttempts = 5 ∧ log.unsubscribed = false

/-- Where a log that was found leads. -/
def found (job : TakenJob) : Option EmailLog → Stage
  | none => .ended job false
  | some log =>
    if log.unsubscribed then .refusing job log
    else if log.status = .delivered then .ended job true
    else .read job log

theorem found_cases (job : TakenJob) (log : EmailLog) :
    log.unsubscribed = true ∧ found job (some log) = .refusing job log ∨
      log.status = .delivered ∧ found job (some log) = .ended job true ∨
      log.unsubscribed = false ∧ found job (some log) = .read job log := by
  unfold found
  dsimp only
  split
  next unsubscribed => exact Or.inl ⟨unsubscribed, rfl⟩
  next subscribed =>
    split
    next delivered => exact Or.inr (Or.inl ⟨delivered, rfl⟩)
    next => exact Or.inr (Or.inr ⟨Bool.eq_false_iff.mpr subscribed, rfl⟩)

/-- The calls that enqueue logs. -/
def enqueues : EmailCall → Bool
  | .sendEmail _ | .sendBulk _ | .retryFailed _ => true
  | _ => false

abbrev mailing : Protocol emailing where
  Phase := Stage
  start call := if enqueues call then .free else .apart
  starts _ _ := False
  allows
    | .free, .insertLog log => Created log
    | .looked id, .updateLog requeued change => requeued = id ∧ change = .requeue
    | .free, .findLog _ | .apart, .findLog _ | .apart, .findFailed | .apart, .markUnsubscribed _
    | .apart, .takeJob _ | .apart, .moveUnlocked _ => True
    | .enqueuing id, .addJob emailLogId attempts => emailLogId = id ∧ attempts = 5
    | .begun job, .findLog id => id = job.emailLogId
    | .refusing job _, .updateLog id change =>
      id = job.emailLogId ∧ ∃ message, change = .setStatus .failed message
    | .read job _, .updateLog id change =>
      id = job.emailLogId ∧ change = .setStatus .sending none
    | .marked _ log, .isAvailable provider => provider = log.provider
    | .ready job log, .sendMail taken given options =>
      taken = job ∧ given = log ∧ options = optionsOf log
    | .sent job log, .updateLog id change => id = job.emailLogId ∧
      ∃ messageId metadata, change = .setSent messageId (log.attempts + 1) metadata
    | .failing job log, .updateLog id change =>
      id = job.emailLogId ∧ ∃ failure, change = attempted log failure
    | .ended job success, .moveToCompleted taken => taken = job ∧ success = true
    | .ended job success, .moveToFailed taken _ => taken = job ∧ success = false
    | _, _ => False
  possible op result :=
    match op, result with
    | .findLog id, .ok (some log) => log.id = id
    | _, _ => True
  advance stage op result :=
    match stage, op, result with
    | .free, .insertLog _, .ok saved => .enqueuing saved.id
    | .free, .findLog id, .ok (some _) => .looked id
    | .looked id, _, .ok _ => .enqueuing id
    | .free, _, _ | .looked _, _, _ | .enqueuing _, _, _ => .free
    | .apart, .takeJob _, .ok job => .begun job
    | .begun job, .findLog _, .ok log => found job log
    | .begun job, _, .error _ => .ended job false
    | .refusing job _, _, .ok _ => .ended job true
    | .refusing job _, _, .error _ => .ended job false
    | .read job log, _, .ok _ => .marked job log
    | .read job _, _, .error _ => .ended job false
    | .marked job log, .isAvailable _, .ok available =>
      if available then .ready job log else .ended job false
    | .marked job _, _, .error _ => .ended job false
    | .ready job log, _, .ok _ => .sent job log
    | .ready job log, _, .error _ => .failing job log
    | .sent job _, _, .ok _ => .ended job true
    | .sent job log, _, .error _ => .failing job log
    | .failing job _, _, _ => .ended job false
    | _, _, _ => .apart
  returns stage _ := stage.Over

/-! ## The workers -/

theorem sendAndRecord_follows (job : TakenJob) (emailLog : EmailLog)
    {post : Stage → Except Exception Unit → Prop} (sent : post (.ended job true) (.ok ()))
    (fails : ∀ failure, post (.failing job emailLog) (.error failure)) :
    Follows mailing (.ready job emailLog) (sendAndRecord job emailLog) post := by
  refine (follows_bind _).mpr ⟨⟨rfl, rfl, rfl⟩, fun result _ => ?_⟩
  cases result with
  | error failure => exact fails failure
  | ok sending =>
    refine ⟨⟨rfl, _, _, rfl⟩, fun recorded _ => ?_⟩
    cases recorded with
    | error failure => exact fails failure
    | ok _ => exact sent

theorem processEmail_follows (job : TakenJob) : Follows mailing (.begun job) (processEmail job) fun stage result =>
      stage = .ended job result.toBool := by
  refine (follows_bind _).mpr ⟨rfl, fun result known => ?_⟩
  match result with
  | .error failure => exact rfl
  | .ok none => exact rfl
  | .ok (some emailLog) =>
    change Follows mailing (found job (some emailLog)) (if emailLog.unsubscribed then _ else _) _
    unfold found
    dsimp only
    split
    next =>
      refine ⟨⟨rfl, _, rfl⟩, fun refused _ => ?_⟩
      cases refused <;> rfl
    next =>
      split
      next => exact rfl
      next =>
        refine (follows_bind _).mpr ⟨⟨rfl, rfl⟩, fun marked _ => ?_⟩
        cases marked with
        | error failure => exact rfl
        | ok _ =>
          change Follows mailing (.marked job emailLog)
            (if emailLog.provider ∉ providers then _ else _) _
          split
          next unknown => exact absurd (by cases emailLog.provider <;> decide) unknown
          next =>
            refine (follows_bind _).mpr ⟨rfl, fun available _ => ?_⟩
            match available with
            | .error failure => exact rfl
            | .ok false => exact rfl
            | .ok true =>
              refine (follows_tryCatch _).mpr
                (sendAndRecord_follows job emailLog rfl fun failure => ?_)
              refine (follows_bind _).mpr ⟨⟨rfl, failure, rfl⟩, fun counted _ => ?_⟩
              cases counted <;> rfl

theorem handleSendEmail_follows (jobId : Nat) :
    Follows mailing .apart (handleSendEmail jobId) fun stage _ => stage = .apart := by
  refine (follows_bind _).mpr ⟨trivial, fun taken _ => ?_⟩
  cases taken with
  | error failure => exact rfl
  | ok job =>
    refine (follows_bind _).mpr ((follows_outcome _).mpr ?_)
    refine follows_mono _ (fun stage processed ended => ?_) (processEmail_follows job)
    subst ended
    rw [afterOk_ok]
    cases processed with
    | ok _ => exact ⟨⟨rfl, rfl⟩, fun _ _ => rfl⟩
    | error failure => exact ⟨⟨rfl, rfl⟩, fun _ _ => rfl⟩

/-! ## The calls of the email service -/

theorem sendEach_follows {newLog : String → EmailLog} (created : ∀ recipient, Created (newLog recipient)) :
    ∀ recipients, Follows mailing .free (sendEach newLog recipients) fun stage _ => stage = .free
  | [] => rfl
  | recipient :: recipients => by
    refine (follows_bind _).mpr ⟨created recipient, fun inserted _ => ?_⟩
    cases inserted with
    | error failure => exact rfl
    | ok saved =>
      refine (follows_bind _).mpr ⟨⟨rfl, rfl⟩, fun added _ => ?_⟩
      cases added with
      | error failure => exact rfl
      | ok _ =>
        refine (follows_bind _).mpr (follows_mono _ ?_ (sendEach_follows created recipients))
        rintro stage result rfl
        cases result <;> rfl

theorem contents_follows (engine : TemplateEngine) (dto : SendEmailDto) :
    Follows mailing .free (contents engine dto) fun stage _ => stage = .free := by
  have after : ∀ {α : Type} {text : Except Exception String} {next : String → EmailM α},
      (∀ value, Follows mailing .free (next value) fun stage _ => stage = .free) →
      Follows mailing .free (render text >>= next) fun stage _ => stage = .free := by
    intro α text next follows
    refine (follows_bind _).mpr ?_
    cases text with
    | ok value => exact follows value
    | error failure => exact rfl
  unfold contents
  split
  next => exact after fun subject => after fun html => after fun text => rfl
  next => exact rfl

theorem sendEmail_follows (engine : TemplateEngine) (config : EmailConfig) (dto : SendEmailDto) :
    Follows mailing .free (sendEmail engine config dto) fun stage _ => stage = .free := by
  refine (follows_bind _).mpr (follows_mono _ ?_ (contents_follows engine dto))
  rintro stage result rfl
  cases result with
  | error failure => exact rfl
  | ok content =>
    refine (follows_bind _).mpr (follows_mono _ ?_ (sendEach_follows ?_ dto.recipients))
    · rintro stage result rfl
      cases result <;> rfl
    · exact fun recipient => ⟨rfl, rfl, rfl, rfl⟩

theorem sendBulk_follows (engine : TemplateEngine) (config : EmailConfig) :
    ∀ emails, Follows mailing .free (sendBulk engine config emails) fun stage _ => stage = .free
  | [] => rfl
  | emailDto :: emails => by
    refine (follows_bind _).mpr (follows_mono _ ?_ (sendEmail_follows engine config emailDto))
    rintro stage result rfl
    cases result with
    | error failure => exact rfl
    | ok value =>
      refine (follows_bind _).mpr (follows_mono _ ?_ (sendBulk_follows engine config emails))
      rintro stage result rfl
      cases result <;> rfl

theorem getDeliveryStatus_follows (id : String) :
    Follows mailing .apart (getDeliveryStatus id) fun stage _ => stage = .apart := by
  refine (follows_bind _).mpr ⟨trivial, fun looked _ => ?_⟩
  match looked with
  | .error failure => exact rfl
  | .ok none => exact rfl
  | .ok (some log) => exact rfl

theorem lookUp_follows (id : String) : Follows mailing .free (getDeliveryStatus id)
    fun stage result => stage = if result.toBool then .looked id else .free := by
  refine (follows_bind _).mpr ⟨trivial, fun looked _ => ?_⟩
  match looked with
  | .error failure => exact rfl
  | .ok none => exact rfl
  | .ok (some log) => exact rfl

theorem retryFailed_follows (id : String) : Follows mailing .free (retryFailed id) fun stage _ => stage.Over := by
  refine (follows_bind _).mpr (follows_mono _ ?_ (lookUp_follows id))
  rintro stage result rfl
  cases result with
  | error failure => exact Or.inl rfl
  | ok log =>
    change Follows mailing (.looked id) (if log.status ≠ .failed then _ else _) _
    split
    next => exact Or.inr (Or.inr ⟨id, rfl⟩)
    next =>
      refine (follows_bind _).mpr ⟨⟨rfl, rfl⟩, fun requeued _ => ?_⟩
      cases requeued with
      | error failure => exact Or.inl rfl
      | ok _ =>
        refine (follows_bind _).mpr ⟨⟨rfl, rfl⟩, fun added _ => ?_⟩
        cases added with
        | error failure => exact Or.inl rfl
        | ok _ =>
          refine ⟨trivial, fun looked _ => ?_⟩
          match looked with
          | .error failure => exact Or.inl rfl
          | .ok none => exact Or.inl rfl
          | .ok (some log) => exact Or.inr (Or.inr ⟨id, rfl⟩)

variable {op : EmailOp} {answer : EmailAnswer} {result : Except Exception op.Reply}

theorem respond_possible {world changed : EmailWorld}
    (responds : world.respond op answer = some (changed, result)) : mailing.possible op result := by
  cases op with
  | findLog id =>
    match answer with
    | .does .plain =>
      cases responds
      cases looked : world.logs.findOne id with
      | none => trivial
      | some log => exact Table.findOne_key looked
    | .does (.inserted _) | .does (.available _) | .does (.accepted _) => cases responds
    | .fails failure =>
      cases responds
      trivial
    | .lost how failure =>
      obtain ⟨reply, _, same⟩ := Option.map_eq_some_iff.mp responds
      cases same
      trivial
  | _ => trivial

theorem email_conforms (engine : TemplateEngine) (config : EmailConfig) :
    Conforms mailing (emailProcess engine config) where
  body call _ := by
    have plain : ∀ {α : Type} {program : EmailM α} {value : α → EmailValue} {stage : Stage},
        (Follows mailing stage program fun later _ => later.Over) →
        Keeps mailing stage (value <$> program) := by
      intro α program value stage follows
      refine (follows_bind _).mpr (follows_mono _ (fun later result ends => ?_) follows)
      cases result <;> exact ends
    have freely : ∀ {α : Type} {program : EmailM α},
        (Follows mailing .free program fun later _ => later = .free) →
        Follows mailing .free program fun later _ => later.Over :=
      follows_mono _ fun _ _ ends => Or.inl ends
    have apart : ∀ {α : Type} {program : EmailM α},
        (Follows mailing .apart program fun later _ => later = .apart) →
        Follows mailing .apart program fun later _ => later.Over :=
      follows_mono _ fun _ _ ends => Or.inr (Or.inl ends)
    cases call with
    | sendEmail dto => exact plain (freely (sendEmail_follows engine config dto))
    | sendBulk emails => exact plain (freely (sendBulk_follows engine config emails))
    | getDeliveryStatus id => exact plain (apart (getDeliveryStatus_follows id))
    | retryFailed id => exact plain (retryFailed_follows id)
    | unsubscribe email => exact plain (apart ⟨trivial, fun _ _ => rfl⟩)
    | getFailedEmailLogs => exact plain (apart ⟨trivial, fun _ _ => rfl⟩)
    | handleSendEmail jobId => exact plain (apart (handleSendEmail_follows jobId))
    | moveUnlockedJob jobId => exact plain (apart ⟨trivial, fun _ _ => rfl⟩)
  possible _ _ _ _ _ responds := respond_possible responds

/-! ## The attempts -/

/-- The job that a worker has in hand. -/
def Stage.job? : Stage → Option TakenJob
  | .free | .looked _ | .enqueuing _ | .apart => none
  | .begun job | .refusing job _ | .read job _ | .marked job _ | .ready job _ | .sent job _
  | .failing job _ | .ended job _ => some job

/-- An attempt that has had no message accepted. -/
def Stage.unsent : Stage → Bool
  | .sent _ _ | .ended _ true => false
  | _ => true

theorem start_cases (call : EmailCall) : mailing.start call = .free ∨ mailing.start call = .apart := by
  change (if enqueues call then Stage.free else .apart) = .free ∨
    (if enqueues call then Stage.free else .apart) = .apart
  split
  next => exact Or.inl rfl
  next => exact Or.inr rfl

theorem start_job (call : EmailCall) : (mailing.start call).job? = none := by
  rcases start_cases call with same | same <;> rw [same] <;> rfl

variable {job : TakenJob}

theorem advance_job {stage : Stage} (allowed : mailing.allows stage op)
    (has : (mailing.advance stage op result).job? = some job) :
    stage.job? = some job ∨ stage = .apart ∧ ∃ id, op = .takeJob id := by
  cases stage with
  | free =>
    cases op with
    | findLog id => rcases result with failure | (_ | log) <;> cases has
    | _ => cases result <;> cases has
  | looked id => cases result <;> cases has
  | enqueuing id => cases has
  | apart =>
    cases op with
    | takeJob id => exact Or.inr ⟨rfl, id, rfl⟩
    | _ => cases result <;> cases has
  | begun taken =>
    refine Or.inl ?_
    cases op with
    | findLog id =>
      match result with
      | .error failure => exact has
      | .ok none => exact has
      | .ok (some log) =>
        change (found taken (some log)).job? = some job at has
        rcases found_cases taken log with ⟨_, same⟩ | ⟨_, same⟩ | ⟨_, same⟩ <;> rw [same] at has <;>
          exact has
    | _ => exact allowed.elim
  | marked taken log =>
    refine Or.inl ?_
    cases op with
    | isAvailable provider =>
      match result with
      | .error failure => exact has
      | .ok false => exact has
      | .ok true => exact has
    | _ => exact allowed.elim
  | refusing taken log => cases result <;> exact Or.inl has
  | read taken log => cases result <;> exact Or.inl has
  | ready taken log => cases result <;> exact Or.inl has
  | sent taken log => cases result <;> exact Or.inl has
  | failing taken log => exact Or.inl has
  | ended taken success => cases has

/-- A message is accepted only in the stage that sends it; a record of it that fails is as if it had
not been. -/
theorem advance_unsent {stage : Stage} (allowed : mailing.allows stage op)
    (has : (mailing.advance stage op result).job? = some job)
    (unsent : (mailing.advance stage op result).unsent = true) :
    stage.unsent = true ∨ ∃ taken log failure, stage = .sent taken log ∧ result = .error failure := by
  cases stage with
  | sent taken log =>
    cases result with
    | ok reply => cases unsent
    | error failure => exact Or.inr ⟨taken, log, failure, rfl, rfl⟩
  | ended taken success => cases has
  | _ => exact Or.inl rfl

variable {log : EmailLog}

theorem allows_sent (allowed : mailing.allows (.sent job log) op) :
    ∃ id messageId attempts metadata, op = .updateLog id (.setSent messageId attempts metadata) := by
  cases op with
  | updateLog id change =>
    obtain ⟨_, messageId, metadata, rfl⟩ := allowed
    exact ⟨id, messageId, _, metadata, rfl⟩
  | _ => exact allowed.elim

/-- A log that an attempt has read is that of its job. -/
def Stage.Named : Stage → Prop
  | .refusing job log | .read job log | .marked job log | .ready job log | .sent job log
  | .failing job log => log.id = job.emailLogId
  | _ => True

theorem advance_named {stage : Stage} (allowed : mailing.allows stage op)
    (possible : mailing.possible op result) (named : stage.Named) : (mailing.advance stage op result).Named := by
  cases stage with
  | free =>
    cases op with
    | findLog id => rcases result with failure | (_ | log) <;> trivial
    | _ => cases result <;> trivial
  | looked id => cases result <;> trivial
  | enqueuing id => trivial
  | apart => cases op <;> cases result <;> trivial
  | begun taken =>
    cases op with
    | findLog id =>
      match result with
      | .error failure => trivial
      | .ok none => trivial
      | .ok (some log) =>
        have same : log.id = taken.emailLogId := Eq.trans possible allowed
        change (found taken (some log)).Named
        rcases found_cases taken log with ⟨_, leads⟩ | ⟨_, leads⟩ | ⟨_, leads⟩ <;> rw [leads]
        · exact same
        · trivial
        · exact same
    | _ => exact allowed.elim
  | marked taken log =>
    cases op with
    | isAvailable provider =>
      match result with
      | .error failure => trivial
      | .ok false => trivial
      | .ok true => exact named
    | _ => exact allowed.elim
  | refusing taken log => cases result <;> trivial
  | read taken log => cases result <;> first | exact named | trivial
  | ready taken log => cases result <;> exact named
  | sent taken log => cases result <;> first | exact named | trivial
  | failing taken log => trivial
  | ended taken success => trivial

/-- The log that a call has looked up or has to enqueue. -/
def Stage.target? : Stage → Option String
  | .looked id | .enqueuing id => some id
  | _ => none

/-- Only calls that look a log up, create one or requeue one have a log to enqueue. -/
theorem advance_target {stage : Stage} (allowed : mailing.allows stage op) (notFree : stage ≠ .free)
    (notLooked : ∀ id, stage ≠ .looked id) : (mailing.advance stage op result).target? = none := by
  cases stage with
  | free => exact absurd rfl notFree
  | looked id => exact absurd rfl (notLooked id)
  | enqueuing id => rfl
  | apart => cases op <;> cases result <;> rfl
  | begun job =>
    cases op with
    | findLog id =>
      match result with
      | .error failure => rfl
      | .ok none => rfl
      | .ok (some log) =>
        change (found job (some log)).target? = none
        rcases found_cases job log with ⟨_, same⟩ | ⟨_, same⟩ | ⟨_, same⟩ <;> rw [same] <;> rfl
    | _ => exact allowed.elim
  | marked job log =>
    cases op with
    | isAvailable provider =>
      match result with
      | .error failure => rfl
      | .ok false => rfl
      | .ok true => rfl
    | _ => exact allowed.elim
  | refusing job log => cases result <;> rfl
  | read job log => cases result <;> rfl
  | ready job log => cases result <;> rfl
  | sent job log => cases result <;> rfl
  | failing job log => rfl
  | ended job success => rfl

section Effects
variable {world changed : EmailWorld}

/-- An operation fails without its effect, or takes effect and is answered or not. -/
theorem respond_cases (responds : world.respond op answer = some (changed, result)) :
    (∃ failure, answer = .fails failure ∧ changed = world.failed op ∧ result = .error failure) ∨
      ∃ how reply, world.effect op how = some (changed, reply) ∧ (answer = .does how ∧ result = reply ∨
          ∃ failure, answer = .lost how failure ∧ result = .error failure) := by
  cases answer with
  | does how => exact Or.inr ⟨how, result, responds, Or.inl ⟨rfl, rfl⟩⟩
  | fails failure =>
    cases responds
    exact Or.inl ⟨failure, rfl, rfl, rfl⟩
  | lost how failure =>
    obtain ⟨⟨other, reply⟩, effect, same⟩ := Option.map_eq_some_iff.mp responds
    cases same
    exact Or.inr ⟨how, reply, effect, Or.inr ⟨failure, rfl, rfl⟩⟩

/-- The operations that leave the queue and the providers alone. -/
def Quiet : EmailOp → Prop
  | .findLog _ | .findFailed | .insertLog _ | .updateLog _ _ | .markUnsubscribed _
  | .isAvailable _ => True
  | _ => False

variable {how : EmailEffect}

theorem effect_quiet {reply : Except Exception op.Reply} (quiet : Quiet op)
    (effect : world.effect op how = some (changed, reply)) :
    changed.jobs = world.jobs ∧ changed.handed = world.handed := by
  cases op with
  | insertLog log =>
    cases how with
    | inserted id =>
      obtain ⟨_, saves⟩ := Option.ite_none_left_eq_some.mp effect
      cases saves
      exact ⟨rfl, rfl⟩
    | _ => cases effect
  | findLog id => cases how <;> cases effect; exact ⟨rfl, rfl⟩
  | findFailed => cases how <;> cases effect; exact ⟨rfl, rfl⟩
  | updateLog id change => cases how <;> cases effect; exact ⟨rfl, rfl⟩
  | markUnsubscribed email => cases how <;> cases effect; exact ⟨rfl, rfl⟩
  | isAvailable provider => cases how <;> cases effect; exact ⟨rfl, rfl⟩
  | _ => exact quiet.elim

theorem effect_findLog {id : String} {reply : Except Exception (Option EmailLog)}
    (effect : world.effect (.findLog id) how = some (changed, reply)) :
    changed = world ∧ reply = .ok (world.logs.findOne id) := by
  cases how <;> cases effect
  exact ⟨rfl, rfl⟩

theorem respond_update {id : String} {change : LogUpdate} {result : Except Exception Unit}
    (responds : world.respond (.updateLog id change) answer = some (changed, result)) :
    (∃ failure, answer = .fails failure ∧ changed = world ∧ result = .error failure) ∨
      changed = world.update id change ∧
        (result = .ok () ∨ ∃ how failure, answer = .lost how failure ∧ result = .error failure) := by
  rcases respond_cases responds with ⟨failure, fails, same, isError⟩ | ⟨how, reply, effect, answered⟩
  · exact Or.inl ⟨failure, fails, same, isError⟩
  · have updates : changed = world.update id change ∧ reply = .ok () := by
      cases how <;> cases effect
      exact ⟨rfl, rfl⟩
    refine Or.inr ⟨updates.1, ?_⟩
    rcases answered with ⟨_, same⟩ | ⟨failure, isLost, isError⟩
    · exact Or.inl (same.trans updates.2)
    · exact Or.inr ⟨how, failure, isLost, isError⟩

theorem effect_insertLog {reply : Except Exception EmailLog}
    (effect : world.effect (.insertLog log) how = some (changed, reply)) :
    ∃ id, id ∉ world.logs.rows.map (·.id) ∧ reply = .ok { log with id := id } ∧
      changed = { world with logs := world.logs.save { log with id := id } } := by
  cases how with
  | inserted id =>
    obtain ⟨fresh, saves⟩ := Option.ite_none_left_eq_some.mp effect
    cases saves
    exact ⟨id, fresh, rfl, rfl⟩
  | _ => cases effect

theorem mem_update {id : String} {change : LogUpdate} (member : log ∈ (world.update id change).logs.rows) :
    ∃ old ∈ world.logs.rows, log = if old.id = id then change.apply old else old := by
  obtain ⟨old, isOld, same⟩ := List.mem_map.mp member
  refine ⟨old, isOld, same.symm.trans ?_⟩
  by_cases named : old.id = id <;> simp [named]

theorem mem_markUnsubscribed {email : String} (member : log ∈ (world.markUnsubscribed email).logs.rows) :
    ∃ old ∈ world.logs.rows, log = if old.recipientEmail = email then { old with unsubscribed := true } else old := by
  obtain ⟨old, isOld, same⟩ := List.mem_map.mp member
  refine ⟨old, isOld, same.symm.trans ?_⟩
  by_cases named : old.recipientEmail = email <;> simp [named]

variable {reply : Except Exception Unit}

theorem effect_addJob {id : String} {attempts : Nat}
    (effect : world.effect (.addJob id attempts) how = some (changed, reply)) :
    changed = { world with jobs := world.jobs ++ [⟨id, attempts, 0, 0, 0, .waiting⟩] } ∧
      reply = .ok () := by
  cases how <;> cases effect
  exact ⟨rfl, rfl⟩

theorem effect_takeJob {id : Nat} {reply : Except Exception TakenJob}
    (effect : world.effect (.takeJob id) how = some (changed, reply)) :
    ∃ job, world.jobs[id]? = some job ∧ job.state = .waiting ∧ changed = world.setJob id job.take ∧
      reply = .ok ⟨id, job.emailLogId, job.lock + 1, world.unsubscribed⟩ := by
  cases how with
  | plain =>
    simp only [EmailWorld.effect] at effect
    split at effect
    next job listed =>
      obtain ⟨waiting, takes⟩ := Option.ite_none_right_eq_some.mp effect
      cases takes
      exact ⟨job, listed, waiting, rfl, rfl⟩
    next => cases effect
  | _ => cases effect

theorem effect_sendMail {options : SendEmailOptions} {reply : Except Exception SendEmailResult}
    (effect : world.effect (.sendMail job log options) how = some (changed, reply)) :
    changed = world.hand job log true ∧ ∃ result, reply = .ok result := by
  cases how <;> cases effect
  exact ⟨rfl, _, rfl⟩

theorem record_cases (taken : TakenJob) (change : EmailJob → EmailJob) :
    (∃ job, world.jobs[taken.id]? = some job ∧ job.lockedBy taken = true ∧
      world.record taken change = (world.setJob taken.id (change job), .ok ())) ∨
    ∃ failure, world.record taken change = (world, .error failure) := by
  unfold EmailWorld.record
  split
  next job listed =>
    split
    next locked => exact Or.inl ⟨job, listed, locked, rfl⟩
    next => exact Or.inr ⟨_, rfl⟩
  next => exact Or.inr ⟨_, rfl⟩

theorem effect_moveToCompleted {taken : TakenJob}
    (effect : world.effect (.moveToCompleted taken) how = some (changed, reply)) :
    (changed, reply) = world.record taken EmailJob.complete := by
  cases how with
  | plain => exact (Option.some.inj effect).symm
  | _ => cases effect

theorem effect_moveToFailed {taken : TakenJob} {reason : String}
    (effect : world.effect (.moveToFailed taken reason) how = some (changed, reply)) :
    (changed, reply) = world.record taken EmailJob.fail := by
  cases how with
  | plain => exact (Option.some.inj effect).symm
  | _ => cases effect

theorem effect_moveUnlocked {id : Nat} (effect : world.effect (.moveUnlocked id) how = some (changed, reply)) :
    ∃ job, world.jobs[id]? = some job ∧ job.state = .active ∧ changed = world.setJob id job.stall := by
  cases how with
  | plain =>
    simp only [EmailWorld.effect] at effect
    split at effect
    next job listed =>
      obtain ⟨active, stalls⟩ := Option.ite_none_right_eq_some.mp effect
      cases stalls
      exact ⟨job, listed, active, rfl⟩
    next => cases effect
  | _ => cases effect

theorem effect_logs {reply : Except Exception op.Reply} (away : ¬ Quiet op)
    (effect : world.effect op how = some (changed, reply)) :
    changed.logs = world.logs ∧ changed.unsubscribed = world.unsubscribed := by
  cases op with
  | addJob id attempts =>
    rw [(effect_addJob effect).1]
    exact ⟨rfl, rfl⟩
  | takeJob id =>
    obtain ⟨_, _, _, rfl, _⟩ := effect_takeJob effect
    exact ⟨rfl, rfl⟩
  | sendMail job log options =>
    rw [(effect_sendMail effect).1]
    exact ⟨rfl, rfl⟩
  | moveToCompleted job =>
    have records := effect_moveToCompleted effect
    rcases record_cases job EmailJob.complete with ⟨_, _, _, same⟩ | ⟨_, same⟩ <;>
      cases records.trans same <;> exact ⟨rfl, rfl⟩
  | moveToFailed job reason =>
    have records := effect_moveToFailed effect
    rcases record_cases job EmailJob.fail with ⟨_, _, _, same⟩ | ⟨_, same⟩ <;>
      cases records.trans same <;> exact ⟨rfl, rfl⟩
  | moveUnlocked id =>
    obtain ⟨_, _, _, rfl⟩ := effect_moveUnlocked effect
    exact ⟨rfl, rfl⟩
  | _ => exact absurd trivial away

theorem respond_logs (responds : world.respond op answer = some (changed, result)) : changed.logs = world.logs ∨
      (∃ log id, op = .insertLog log ∧ id ∉ world.logs.rows.map (·.id) ∧
        changed = { world with logs := world.logs.save { log with id := id } }) ∨
      (∃ id change, op = .updateLog id change ∧ changed = world.update id change) ∨
      ∃ email, op = .markUnsubscribed email ∧ changed = world.markUnsubscribed email := by
  rcases respond_cases responds with ⟨_, _, rfl, _⟩ | ⟨how, _, effect, _⟩
  · exact Or.inl (by cases op <;> rfl)
  · cases op with
    | findLog id => exact Or.inl (congrArg EmailWorld.logs (effect_findLog effect).1)
    | findFailed => cases how <;> cases effect; exact Or.inl rfl
    | isAvailable provider => cases how <;> cases effect; exact Or.inl rfl
    | insertLog log =>
      obtain ⟨id, fresh, _, same⟩ := effect_insertLog effect
      exact Or.inr (Or.inl ⟨log, id, rfl, fresh, same⟩)
    | updateLog id change =>
      cases how <;> cases effect
      exact Or.inr (Or.inr (Or.inl ⟨id, change, rfl, rfl⟩))
    | markUnsubscribed email =>
      cases how <;> cases effect
      exact Or.inr (Or.inr (Or.inr ⟨email, rfl, rfl⟩))
    | _ =>
      refine Or.inl (effect_logs ?_ effect).1
      exact not_false

theorem log_kept (responds : world.respond op answer = some (changed, result))
    (member : log ∈ world.logs.rows) : ∃ later ∈ changed.logs.rows, later.id = log.id := by
  rcases respond_logs responds with same | ⟨new, id, rfl, fresh, rfl⟩ | ⟨id, change, rfl, rfl⟩ |
    ⟨email, rfl, rfl⟩
  · exact ⟨log, same ▸ member, rfl⟩
  · refine ⟨log, Table.mem_save.mpr (Or.inr ⟨member, ?_⟩), rfl⟩
    exact fun same => fresh (List.mem_map.mpr ⟨log, member, same⟩)
  · refine ⟨_, List.mem_map_of_mem member, ?_⟩
    dsimp only
    split
    next => exact LogUpdate.apply_id log change
    next => rfl
  · refine ⟨_, List.mem_map_of_mem member, ?_⟩
    dsimp only
    split <;> rfl

/-- A message is handed over by its operation alone, whether or not it is answered. -/
theorem respond_handed (responds : world.respond op answer = some (changed, result)) :
    changed.handed = world.handed ∨ ∃ job log options accepted, op = .sendMail job log options ∧
      changed.handed = world.handed ++ [⟨job, log, accepted⟩] := by
  rcases respond_cases responds with ⟨_, _, rfl, _⟩ | ⟨_, _, effect, _⟩
  · cases op with
    | sendMail job log options => exact Or.inr ⟨job, log, options, false, rfl, rfl⟩
    | _ => exact Or.inl rfl
  · have quiet : Quiet op → changed.handed = world.handed :=
      fun isQuiet => (effect_quiet isQuiet effect).2
    cases op with
    | sendMail job log options =>
      rw [(effect_sendMail effect).1]
      exact Or.inr ⟨job, log, options, true, rfl, rfl⟩
    | addJob id attempts =>
      rw [(effect_addJob effect).1]
      exact Or.inl rfl
    | takeJob id =>
      obtain ⟨_, _, _, rfl, _⟩ := effect_takeJob effect
      exact Or.inl rfl
    | moveToCompleted job =>
      have records := effect_moveToCompleted effect
      rcases record_cases job EmailJob.complete with ⟨_, _, _, same⟩ | ⟨_, same⟩ <;>
        cases records.trans same <;> exact Or.inl rfl
    | moveToFailed job reason =>
      have records := effect_moveToFailed effect
      rcases record_cases job EmailJob.fail with ⟨_, _, _, same⟩ | ⟨_, same⟩ <;>
        cases records.trans same <;> exact Or.inl rfl
    | moveUnlocked id =>
      obtain ⟨_, _, _, rfl⟩ := effect_moveUnlocked effect
      exact Or.inl rfl
    | _ => exact Or.inl (quiet trivial)

end Effects

end AlianStructure.Guarantees.EmailStages
