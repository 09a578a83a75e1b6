import AlianStructure.Library.Interleaving
import AlianStructure.Library.KeyedTable
import AlianStructure.Source.Exception

/-!
# Emails and the runtime of their services

Source: src/email/entities/email-log.entity.ts, interfaces/email-provider.interface.ts,
dto/send-email.dto.ts and providers/*.ts. The services await the repository of logs, the providers and the
queue. A job of the queue is taken by a worker, which holds its lock until it has recorded how the attempt
ended; a job that fails is attempted again until its attempts are used up, and one whose worker is not
heard of stalls: it is attempted once more, and given up the second time. What was handed to the
providers and who has unsubscribed are histories that no method reads; a job that is taken carries those
who had unsubscribed by then. The times in the rows are left out.
-/
namespace AlianStructure.Source.Email
open Library.AsyncMethod Library.Interleaving Library.KeyedTable

inductive EmailProvider where
  | smtp | sendgrid | ses
  deriving DecidableEq

def EmailProvider.text : EmailProvider → String
  | .smtp => "smtp"
  | .sendgrid => "sendgrid"
  | .ses => "ses"

inductive EmailStatus where
  | queued | sending | sent | delivered | failed | bounced
  deriving DecidableEq

def EmailStatus.text : EmailStatus → String
  | .queued => "queued"
  | .sending => "sending"
  | .sent => "sent"
  | .delivered => "delivered"
  | .failed => "failed"
  | .bounced => "bounced"

inductive EmailPriority where
  | low | normal | high
  deriving DecidableEq

structure EmailAttachment where
  filename : String
  content : Option String
  path : Option String
  contentType : Option String
  cid : Option String
  deriving DecidableEq

structure EmailMetadata where
  html : String
  text : String
  attachments : Option (List EmailAttachment)
  priority : EmailPriority
  provider : Option String
  deriving DecidableEq

structure EmailLog where
  id : String
  recipientEmail : String
  senderEmail : String
  subject : String
  templateName : Option String
  templateVars : Option String
  provider : EmailProvider
  status : EmailStatus
  providerMessageId : Option String
  attempts : Nat
  maxAttempts : Nat
  errorMessage : Option String
  metadata : EmailMetadata
  unsubscribed : Bool
  deriving DecidableEq

structure SendEmailDto where
  recipients : List String
  subject : String
  templateName : Option String
  templateVars : Option String
  html : Option String
  text : Option String
  attachments : Option (List EmailAttachment)
  priority : Option EmailPriority
  deriving DecidableEq

structure SendEmailOptions where
  recipient : String
  sender : String
  subject : String
  html : String
  text : String
  attachments : Option (List EmailAttachment)
  deriving DecidableEq

structure SendEmailResult where
  messageId : String
  provider : String
  deriving DecidableEq

/-! ## The queue -/

inductive JobState where
  | waiting | active | completed | failed
  deriving DecidableEq

/-- A job, with the number of times it was taken. -/
structure EmailJob where
  emailLogId : String
  attempts : Nat
  attemptsMade : Nat
  stalls : Nat
  lock : Nat
  state : JobState
  deriving DecidableEq

/-- A job that will be attempted again, or is. -/
def EmailJob.unfinished (job : EmailJob) : Bool := job.state = .waiting || job.state = .active

/-- What a worker has of the job it has taken. -/
structure TakenJob where
  id : Nat
  emailLogId : String
  lock : Nat
  unsubscribedBefore : List String
  deriving DecidableEq

/-- A job whose worker holds the lock. -/
def EmailJob.lockedBy (job : EmailJob) (taken : TakenJob) : Bool :=
  job.state = .active && job.lock = taken.lock

def EmailJob.take (job : EmailJob) : EmailJob := { job with lock := job.lock + 1, state := .active }

def EmailJob.complete (job : EmailJob) : EmailJob := { job with state := .completed }

def EmailJob.fail (job : EmailJob) : EmailJob :=
  { job with
    attemptsMade := job.attemptsMade + 1
    state := if job.attemptsMade + 1 < job.attempts then .waiting else .failed }

def EmailJob.stall (job : EmailJob) : EmailJob :=
  { job with
    stalls := job.stalls + 1
    state := if job.stalls = 0 then .waiting else .failed }

/-! ## Operations -/

/-- The partial updates of a log. -/
inductive LogUpdate where
  | setStatus (status : EmailStatus) (errorMessage : Option String)
  | setSent (providerMessageId : String) (attempts : Nat) (metadata : EmailMetadata)
  | setAttempted (attempts : Nat) (errorMessage : String) (status : EmailStatus)
  | requeue
  deriving DecidableEq

def LogUpdate.apply (change : LogUpdate) (log : EmailLog) : EmailLog :=
  match change with
  | .setStatus status errorMessage =>
    { log with status := status, errorMessage := errorMessage.or log.errorMessage }
  | .setSent providerMessageId attempts metadata =>
    { log with
      status := .sent
      providerMessageId := some providerMessageId
      attempts := attempts
      metadata := metadata }
  | .setAttempted attempts errorMessage status =>
    { log with attempts := attempts, errorMessage := some errorMessage, status := status }
  | .requeue => { log with status := .queued, attempts := 0, errorMessage := none }

@[simp] theorem LogUpdate.apply_id (log : EmailLog) (change : LogUpdate) : (change.apply log).id = log.id := by
  cases change <;> rfl

/-- The awaited operations. -/
inductive EmailOp where
  | findLog (id : String)
  | findFailed
  | insertLog (log : EmailLog)
  | updateLog (id : String) (change : LogUpdate)
  | markUnsubscribed (email : String)
  | addJob (emailLogId : String) (attempts : Nat)
  | takeJob (id : Nat)
  | isAvailable (provider : EmailProvider)
  | sendMail (job : TakenJob) (log : EmailLog) (options : SendEmailOptions)
  | moveToCompleted (job : TakenJob)
  | moveToFailed (job : TakenJob) (reason : String)
  | moveUnlocked (id : Nat)
  deriving DecidableEq

abbrev EmailOp.Reply : EmailOp → Type
  | .findLog _ => Option EmailLog
  | .findFailed => List EmailLog
  | .insertLog _ => EmailLog
  | .takeJob _ => TakenJob
  | .isAvailable _ => Bool
  | .sendMail _ _ _ => SendEmailResult
  | .updateLog _ _ | .markUnsubscribed _ | .addJob _ _ | .moveToCompleted _ | .moveToFailed _ _
  | .moveUnlocked _ => Unit

inductive EmailCall where
  | sendEmail (dto : SendEmailDto)
  | sendBulk (emails : List SendEmailDto)
  | getDeliveryStatus (id : String)
  | retryFailed (id : String)
  | unsubscribe (email : String)
  | getFailedEmailLogs
  | handleSendEmail (jobId : Nat)
  | moveUnlockedJob (jobId : Nat)
  deriving DecidableEq

inductive EmailValue where
  | nothing
  | log (log : Option EmailLog)
  | logs (logs : List (Option EmailLog))
  deriving DecidableEq

abbrev emailing : Runtime where
  Op := EmailOp
  Reply := EmailOp.Reply
  Mem := Unit
  Err := Exception
  Call := EmailCall
  Val := EmailValue

abbrev EmailM := Async emailing

/-! ## The world -/

/-- A message that was handed to a provider, and whether the provider has accepted it. -/
structure Handing where
  job : TakenJob
  log : EmailLog
  accepted : Bool
  deriving DecidableEq

structure EmailWorld where
  logs : Table EmailLog EmailLog.id
  jobs : List EmailJob
  handed : List Handing
  unsubscribed : List String

def EmailWorld.empty : EmailWorld := ⟨Table.empty, [], [], []⟩

/-- How an operation is carried out, where that is not determined. -/
inductive EmailEffect where
  | plain
  | inserted (id : String)
  | available (value : Bool)
  | accepted (result : SendEmailResult)
  deriving DecidableEq

inductive EmailAnswer where
  | does (how : EmailEffect)
  | fails (failure : Exception)
  | lost (how : EmailEffect) (failure : Exception)
  deriving DecidableEq

namespace EmailWorld
variable (world : EmailWorld)

def update (id : String) (change : LogUpdate) : EmailWorld :=
  let logs := world.logs.modify (fun log => decide (log.id = id)) change.apply
    (LogUpdate.apply_id · change)
  { world with logs := logs }

def markUnsubscribed (email : String) : EmailWorld :=
  let logs := world.logs.modify (fun log => decide (log.recipientEmail = email))
    (fun log => { log with unsubscribed := true }) (fun _ => rfl)
  { world with logs := logs, unsubscribed := world.unsubscribed ++ [email] }

def setJob (id : Nat) (job : EmailJob) : EmailWorld := { world with jobs := world.jobs.set id job }

def hand (job : TakenJob) (log : EmailLog) (accepted : Bool) : EmailWorld :=
  { world with handed := world.handed ++ [⟨job, log, accepted⟩] }

/-- The record of how an attempt ended: only the worker that holds the lock can make it. -/
def record (taken : TakenJob) (change : EmailJob → EmailJob) : EmailWorld × Except Exception Unit :=
  match world.jobs[taken.id]? with
  | some job =>
    if job.lockedBy taken then (world.setJob taken.id (change job), .ok ())
    else (world, .error (.error "Missing lock for job"))
  | none => (world, .error (.error "Missing key for job"))

/-- The effect of an operation and its reply. -/
def effect (op : EmailOp) (how : EmailEffect) : Option (EmailWorld × Except Exception op.Reply) :=
  match op, how with
  | .findLog id, .plain => some (world, .ok (world.logs.findOne id))
  | .findFailed, .plain => some (world, .ok (world.logs.rows.filter (·.status = .failed)))
  | .insertLog log, .inserted id =>
    let saved := { log with id := id }
    if id ∈ world.logs.rows.map (·.id) then none
    else some ({ world with logs := world.logs.save saved }, .ok saved)
  | .updateLog id change, .plain => some (world.update id change, .ok ())
  | .markUnsubscribed email, .plain => some (world.markUnsubscribed email, .ok ())
  | .addJob emailLogId attempts, .plain =>
    some ({ world with jobs := world.jobs ++ [⟨emailLogId, attempts, 0, 0, 0, .waiting⟩] }, .ok ())
  | .takeJob id, .plain =>
    match world.jobs[id]? with
    | some job =>
      if job.state = .waiting then
        some (world.setJob id job.take, .ok ⟨id, job.emailLogId, job.take.lock, world.unsubscribed⟩)
      else none
    | none => none
  | .isAvailable _, .available value => some (world, .ok value)
  | .sendMail job log _, .accepted result => some (world.hand job log true, .ok result)
  | .moveToCompleted job, .plain => some (world.record job EmailJob.complete)
  | .moveToFailed job _, .plain => some (world.record job EmailJob.fail)
  | .moveUnlocked id, .plain =>
    match world.jobs[id]? with
    | some job =>
      if job.state = .active then some (world.setJob id job.stall, .ok ()) else none
    | none => none
  | _, _ => none

/-- What an operation that fails leaves: a message was handed over all the same. -/
def failed (op : EmailOp) : EmailWorld :=
  match op with
  | .sendMail job log _ => world.hand job log false
  | _ => world

def respond (op : EmailOp) (answer : EmailAnswer) : Option (EmailWorld × Except Exception op.Reply) :=
  match answer with
  | .does how => world.effect op how
  | .fails failure => some (world.failed op, .error failure)
  | .lost how failure => (world.effect op how).map fun reply => (reply.1, .error failure)

end EmailWorld

/-!
## Emails

Source: src/email/email.service.ts:30-150, services/email-queue.service.ts:43-147 and
services/email-processor.service.ts:11-15. The template engine is a parameter. A worker takes a job,
processes it and records how that ended, or it looks for a job that has stalled.
-/

/-- The methods of the template engine that sending uses; rendering fails for an unknown template. -/
structure TemplateEngine where
  renderSubject : String → Option String → Except Exception String
  renderHtml : String → Option String → Except Exception String
  renderText : String → Option String → Except Exception String
  generatePlainText : String → String

structure EmailConfig where
  sender : Option String
  provider : Option String
  deriving DecidableEq

def ask (op : EmailOp) : EmailM op.Reply := Async.perform (R := emailing) op

def render (text : Except Exception String) : EmailM String :=
  match text with
  | .ok value => pure value
  | .error failure => throw failure

/-- A text that was given and is not empty. -/
def given (text : Option String) : Option String := text.filter (· ≠ "")

namespace EmailQueueService

def providers : List EmailProvider := [.smtp, .sendgrid, .ses]

def enqueueEmail (emailLogId : String) : EmailM Unit := ask (.addJob emailLogId 5)

def updateStatus (id : String) (status : EmailStatus) (errorMessage : Option String) : EmailM Unit :=
  ask (.updateLog id (.setStatus status errorMessage))

def optionsOf (emailLog : EmailLog) : SendEmailOptions :=
  ⟨emailLog.recipientEmail, emailLog.senderEmail, emailLog.subject, emailLog.metadata.html,
    emailLog.metadata.text, emailLog.metadata.attachments⟩

/-- The sending of a message and the record of it. -/
def sendAndRecord (job : TakenJob) (emailLog : EmailLog) : EmailM Unit := do
  let result ← ask (.sendMail job emailLog (optionsOf emailLog))
  ask (.updateLog job.emailLogId (.setSent result.messageId (emailLog.attempts + 1)
    { emailLog.metadata with provider := some result.provider }))

/-- What a failure leaves in the log. -/
def attempted (emailLog : EmailLog) (err : Exception) : LogUpdate :=
  .setAttempted (emailLog.attempts + 1) err.message
    (if emailLog.maxAttempts ≤ emailLog.attempts + 1 then .failed else .queued)

def processEmail (job : TakenJob) : EmailM Unit := do
  let emailLog ← ask (.findLog job.emailLogId)
  match emailLog with
  | none => throw (.error ("EmailLog " ++ job.emailLogId ++ " not found"))
  | some emailLog =>
    if emailLog.unsubscribed then
      updateStatus job.emailLogId .failed (some "Recipient unsubscribed")
    else if emailLog.status = .delivered then pure ()
    else do
      updateStatus job.emailLogId .sending none
      if emailLog.provider ∉ providers then
        throw (.error ("Provider \"" ++ emailLog.provider.text ++ "\" not found"))
      else do
        let available ← ask (.isAvailable emailLog.provider)
        if ! available then
          throw (.error ("Provider \"" ++ emailLog.provider.text ++ "\" is not available"))
        else tryCatch (sendAndRecord job emailLog) fun err => do
          ask (.updateLog job.emailLogId (attempted emailLog err))
          throw err

def getFailedEmailLogs : EmailM (List EmailLog) := ask .findFailed

/-- A worker: the job it has taken is completed or failed as its processing ends. -/
def handleSendEmail (jobId : Nat) : EmailM Unit := do
  let job ← ask (.takeJob jobId)
  let processed ← (processEmail job).outcome
  match processed with
  | .ok _ => ask (.moveToCompleted job)
  | .error failure => ask (.moveToFailed job failure.message)

end EmailQueueService

namespace EmailService
open EmailQueueService
variable (engine : TemplateEngine) (config : EmailConfig)

def resolveProvider : EmailProvider :=
  match config.provider with
  | some "sendgrid" => .sendgrid
  | some "ses" => .ses
  | _ => .smtp

/-- The subject, the html and the text of a message. -/
def contents (dto : SendEmailDto) : EmailM (String × String × String) :=
  match given dto.templateName with
  | some template => do
    let subject ← render (engine.renderSubject template dto.templateVars)
    let html ← render (engine.renderHtml template dto.templateVars)
    let text ← render (engine.renderText template dto.templateVars)
    pure (subject, html, text)
  | none => pure (dto.subject, dto.html.getD "", dto.text.getD "")

/-- The log of a message for a recipient. -/
def newLog (dto : SendEmailDto) (subject html text recipient : String) : EmailLog where
  id := ""
  recipientEmail := recipient
  senderEmail := (given config.sender).getD "noreply@alian-structure.com"
  subject := subject
  templateName := dto.templateName
  templateVars := dto.templateVars
  provider := resolveProvider config
  status := .queued
  providerMessageId := none
  attempts := 0
  maxAttempts := 5
  errorMessage := none
  metadata := ⟨html, text, dto.attachments, dto.priority.getD .normal, none⟩
  unsubscribed := false

/-- The logs of the recipients, each enqueued when it is saved. -/
def sendEach (newLog : String → EmailLog) : List String → EmailM (List EmailLog)
  | [] => pure []
  | recipient :: recipients => do
    let saved ← ask (.insertLog (newLog recipient))
    enqueueEmail saved.id
    let others ← sendEach newLog recipients
    pure (saved :: others)

def sendEmail (dto : SendEmailDto) : EmailM (Option EmailLog) := do
  let (subject, html, text) ← contents engine dto
  let text := match given dto.html, given dto.text with
    | some html, none => engine.generatePlainText html
    | _, _ => text
  let emailLogs ← sendEach (newLog config dto subject html text) dto.recipients
  pure emailLogs.head?

def sendBulk : List SendEmailDto → EmailM (List (Option EmailLog))
  | [] => pure []
  | emailDto :: emails => do
    let result ← sendEmail engine config emailDto
    let results ← sendBulk emails
    pure (result :: results)

def getDeliveryStatus (id : String) : EmailM EmailLog := do
  let log ← ask (.findLog id)
  match log with
  | some log => pure log
  | none => throw (.notFound ("Email log " ++ id ++ " not found"))

def retryFailed (id : String) : EmailM (Option EmailLog) := do
  let log ← getDeliveryStatus id
  if log.status ≠ .failed then
    throw (.error ("Email " ++ id ++ " is not in failed status (current: " ++ log.status.text ++ ")"))
  else do
    ask (.updateLog id .requeue)
    enqueueEmail id
    ask (.findLog id)

def unsubscribe (email : String) : EmailM Unit := ask (.markUnsubscribed email)

end EmailService

/-! ## The process -/

open EmailService EmailQueueService

def emailBody (engine : TemplateEngine) (config : EmailConfig) : EmailCall → EmailM EmailValue
  | .sendEmail dto => EmailValue.log <$> sendEmail engine config dto
  | .sendBulk emails => EmailValue.logs <$> sendBulk engine config emails
  | .getDeliveryStatus id => (fun log => EmailValue.log (some log)) <$> getDeliveryStatus id
  | .retryFailed id => EmailValue.log <$> retryFailed id
  | .unsubscribe email => (fun _ => EmailValue.nothing) <$> unsubscribe email
  | .getFailedEmailLogs => (fun logs => EmailValue.logs (logs.map some)) <$> getFailedEmailLogs
  | .handleSendEmail jobId => (fun _ => EmailValue.nothing) <$> handleSendEmail jobId
  | .moveUnlockedJob jobId => (fun _ => EmailValue.nothing) <$> ask (.moveUnlocked jobId)

/-- Any number of calls, workers and looks for stalled jobs. -/
abbrev emailProcess (engine : TemplateEngine) (config : EmailConfig) : Service emailing where
  World := EmailWorld
  Choice := EmailAnswer
  Env := Empty
  respond := EmailWorld.respond
  environment state _ := state
  isPublic _ := true
  body := emailBody engine config

end AlianStructure.Source.Email
