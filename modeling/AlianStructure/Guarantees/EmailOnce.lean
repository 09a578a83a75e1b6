import Mathlib.Data.List.Perm.Subperm
import AlianStructure.Guarantees.EmailLocks

/-!
# A message is accepted once

Source: src/email/services/email-queue.service.ts:43-125 and email.service.ts:100-118. The queue attempts a
job again when its attempt has failed and when its worker is not heard of. In the other runs the provider
accepts at most one message for each job.
-/
namespace AlianStructure.Guarantees.EmailOnce
open Library.Interleaving Library.CallProtocol
open Source Source.Email EmailQueueService EmailStages EmailLocks

/-- The messages that were accepted. -/
def accepted (world : EmailWorld) : List Handing := world.handed.filter (·.accepted)

/-- For no log more messages were accepted than jobs were added. -/
def AtMostOnce (world : EmailWorld) : Prop :=
  ∀ id, ((accepted world).filter fun handing => handing.log.id = id).length ≤
    (world.jobs.filter fun job => job.emailLogId = id).length

/-- An accepted message is answered and recorded, and a job stalls only when no attempt of it is under way
and none of its messages has been accepted. -/
def Recorded (world : EmailWorld) (stages : List Stage) : EmailOp → EmailAnswer → Prop
  | .sendMail _ _ _, .lost _ _ => False
  | .updateLog _ (.setSent _ _ _), .fails _ | .updateLog _ (.setSent _ _ _), .lost _ _ => False
  | .moveUnlocked id, _ => id ∉ underway stages ∧ id ∉ (accepted world).map (·.job.id)
  | _, _ => True

instance (world : EmailWorld) (stages : List Stage) (op : EmailOp) (answer : EmailAnswer) :
    Decidable (Recorded world stages op answer) :=
  match op, answer with
  | .sendMail _ _ _, .lost _ _ | .updateLog _ (.setSent _ _ _), .fails _
  | .updateLog _ (.setSent _ _ _), .lost _ _ => isFalse not_false
  | .moveUnlocked id, _ => inferInstanceAs (Decidable (id ∉ underway stages ∧ id ∉ (accepted world).map (·.job.id)))
  | .sendMail _ _ _, .does _ | .sendMail _ _ _, .fails _ | .updateLog _ (.setSent _ _ _), .does _
  | .updateLog _ .requeue, _ | .updateLog _ (.setStatus _ _), _ | .updateLog _ (.setAttempted _ _ _), _
  | .findLog _, _ | .findFailed, _ | .insertLog _, _ | .markUnsubscribed _, _ | .addJob _ _, _ | .takeJob _, _
  | .isAvailable _, _ | .moveToCompleted _, _ | .moveToFailed _ _, _ => isTrue trivial

/-- The condition on a run. -/
def recording (engine : TemplateEngine) (config : EmailConfig) :
    ChoiceCondition mailing (emailProcess engine config) :=
  fun v _ op answer => Recorded v.world v.phases op answer

instance (engine : TemplateEngine) (config : EmailConfig)
    (v : View mailing (emailProcess engine config)) (i : Nat) (op : EmailOp) (answer : EmailAnswer) :
    Decidable (recording engine config v i op answer) :=
  inferInstanceAs (Decidable (Recorded v.world v.phases op answer))

/-- What holds of the jobs, the accepted messages and the attempts under way. -/
structure Guarded (world : EmailWorld) (stages : List Stage) : Prop where
  held : Held world stages
  unsent : ∀ stage ∈ stages, ∀ job ∈ stage.job?, stage.unsent = true →
    job.id ∉ (accepted world).map (·.job.id)
  resting : ∀ id row, world.jobs[id]? = some row → row.state = .waiting →
    id ∉ (accepted world).map (·.job.id)
  once : ((accepted world).map (·.job.id)).Nodup
  listed : ∀ handing ∈ accepted world, ∃ row, world.jobs[handing.job.id]? = some row ∧
    row.emailLogId = handing.log.id

section Steps
variable {world changed : EmailWorld} {stages : List Stage} {i : Nat} {stage moved : Stage}

theorem Guarded.move (guarded : Guarded world stages)
    (held : Held changed (stages.set i moved)) (same : accepted changed = accepted world)
    (goes : ∀ job, moved.job? = some job → moved.unsent = true → job.id ∉ (accepted world).map (·.job.id))
    (resting : ∀ id row, changed.jobs[id]? = some row → row.state = .waiting → id ∉ (accepted world).map (·.job.id))
    (kept : ∀ (id : Nat) row, world.jobs[id]? = some row →
      ∃ new, changed.jobs[id]? = some new ∧ new.emailLogId = row.emailLogId) :
    Guarded changed (stages.set i moved) := by
  refine ⟨held, fun other member job isJob unsent => ?_, ?_, ?_, ?_⟩
  · rw [same]
    rcases mem_set member with old | rfl
    · exact guarded.unsent other old job isJob unsent
    · exact goes job isJob unsent
  · rw [same]
    exact resting
  · rw [same]
    exact guarded.once
  · rw [same]
    intro handing member
    obtain ⟨row, isRow, logId⟩ := guarded.listed handing member
    obtain ⟨new, isNew, sameLog⟩ := kept _ row isRow
    exact ⟨new, isNew, sameLog.trans logId⟩

theorem kept_setJob {id : Nat} {row next : EmailJob} (listed : world.jobs[id]? = some row)
    (logId : next.emailLogId = row.emailLogId) (key : Nat) (old : EmailJob) (isOld : world.jobs[key]? = some old) :
    ∃ new, (world.setJob id next).jobs[key]? = some new ∧ new.emailLogId = old.emailLogId := by
  by_cases same : id = key
  · subst same
    cases isOld.symm.trans listed
    exact ⟨next, List.getElem?_set_self (List.getElem?_eq_some_iff.mp listed).1, logId⟩
  · exact ⟨old, (List.getElem?_set_ne same).trans isOld, rfl⟩

theorem Guarded.lists (guarded : Guarded world stages) {id : Nat}
    (isAccepted : id ∈ (accepted world).map (·.job.id)) : id < world.jobs.length := by
  obtain ⟨handing, member, rfl⟩ := List.mem_map.mp isAccepted
  obtain ⟨row, isRow, _⟩ := guarded.listed handing member
  exact (List.getElem?_eq_some_iff.mp isRow).1

theorem accepted_hand (world : EmailWorld) (job : TakenJob) (log : EmailLog) (isAccepted : Bool) :
    accepted (world.hand job log isAccepted) =
      accepted world ++ if isAccepted then [⟨job, log, isAccepted⟩] else [] := by
  cases isAccepted <;> simp [accepted, EmailWorld.hand]

theorem Guarded.accept (guarded : Guarded world stages) {job : TakenJob} {log : EmailLog}
    (found : stages[i]? = some (.ready job log))
    (held : Held (world.hand job log true) (stages.set i (.sent job log))) :
    Guarded (world.hand job log true) (stages.set i (.sent job log)) := by
  have here : Stage.ready job log ∈ stages := List.mem_of_getElem? found
  have fresh := guarded.unsent _ here job rfl rfl
  obtain ⟨row, isRow, _, logId⟩ := guarded.held.locked _ here job rfl
  have ids : (accepted (world.hand job log true)).map (·.job.id) =
      (accepted world).map (·.job.id) ++ [job.id] := by
    rw [accepted_hand, List.map_append]
    rfl
  refine ⟨held, fun other member rival isRival unsent => ?_, fun key row' isOther isWaiting => ?_, ?_,
    fun handing member => ?_⟩
  · rw [ids, List.mem_append, not_or, List.mem_singleton]
    obtain ⟨j, isOther⟩ := List.getElem?_of_mem member
    rcases getElem?_set_cases isOther with ⟨_, rfl⟩ | ⟨different, old⟩
    · cases unsent
    · exact ⟨guarded.unsent other (List.mem_of_getElem? old) rival isRival unsent,
        guarded.held.apart found rfl different old isRival⟩
  · rw [ids, List.mem_append, not_or, List.mem_singleton]
    refine ⟨guarded.resting key row' isOther isWaiting, ?_⟩
    rintro rfl
    exact guarded.held.unheld isOther isWaiting _ here job rfl rfl
  · rw [ids]
    exact List.nodup_append.mpr ⟨guarded.once, List.nodup_singleton _, fun id old last new same =>
      fresh ((List.mem_singleton.mp new ▸ same : id = job.id) ▸ old)⟩
  · rw [accepted_hand] at member
    rcases List.mem_append.mp member with old | new
    · exact guarded.listed handing old
    · rw [List.mem_singleton.mp new]
      have named : log.id = job.emailLogId := guarded.held.named _ here
      exact ⟨row, isRow, logId.trans named.symm⟩

/-- A step that leaves the jobs: the messages are the same, or one more is accepted. -/
theorem Guarded.still (guarded : Guarded world stages) (found : stages[i]? = some stage) {op : EmailOp}
    {answer : EmailAnswer} {result : Except Exception op.Reply} (allowed : mailing.allows stage op)
    (recorded : Recorded world stages op answer) (responds : world.respond op answer = some (changed, result))
    (held : Held changed (stages.set i (mailing.advance stage op result))) (jobs : changed.jobs = world.jobs)
    (untaken : ∀ job, (mailing.advance stage op result).job? = some job → stage.job? = some job) :
    Guarded changed (stages.set i (mailing.advance stage op result)) := by
  have unfailed : ∀ taken log failure, stage = .sent taken log → result ≠ .error failure := by
    rintro taken log failure rfl rfl
    obtain ⟨id, messageId, attempts, metadata, rfl⟩ := allows_sent allowed
    cases answer with
    | does how => cases how <;> cases responds
    | fails failure => exact recorded
    | lost how failure => exact recorded
  have same : accepted changed = accepted world →
      Guarded changed (stages.set i (mailing.advance stage op result)) := by
    intro same
    refine guarded.move held same (fun job has unsent => ?_) (jobs ▸ guarded.resting)
      fun id row isRow => ⟨row, jobs ▸ isRow, rfl⟩
    rcases advance_unsent allowed has unsent with old | ⟨taken, log, failure, isSent, isError⟩
    · exact guarded.unsent stage (List.mem_of_getElem? found) job (untaken job has) old
    · exact absurd isError (unfailed taken log failure isSent)
  cases op with
  | sendMail job log options =>
    cases stage with
    | ready taken read =>
      obtain ⟨rfl, rfl, _⟩ := allowed
      rcases respond_cases responds with ⟨_, _, rfl, rfl⟩ | ⟨_, _, effect, answered⟩
      · exact same ((accepted_hand world job log false).trans (List.append_nil _))
      · obtain ⟨rfl, sending, rfl⟩ := effect_sendMail effect
        rcases answered with ⟨_, rfl⟩ | ⟨_, rfl, _⟩
        · exact guarded.accept found held
        · exact recorded.elim
    | _ => exact allowed.elim
  | _ =>
    rcases respond_handed responds with unchanged | ⟨_, _, _, _, isSend, _⟩
    · exact same (congrArg (List.filter fun handing : Handing => handing.accepted) unchanged)
    · cases isSend

theorem Guarded.respond (guarded : Guarded world stages) (found : stages[i]? = some stage)
    {op : EmailOp} {answer : EmailAnswer} {result : Except Exception op.Reply}
    (allowed : mailing.allows stage op) (recorded : Recorded world stages op answer)
    (responds : world.respond op answer = some (changed, result)) :
    Guarded changed (stages.set i (mailing.advance stage op result)) := by
  have here : stage ∈ stages := List.mem_of_getElem? found
  have unattended : Unattended stages op := by
    cases op with
    | moveUnlocked id => exact recorded.1
    | _ => trivial
  have held := guarded.held.respond found allowed unattended responds
  -- a job that changes: its messages stay, and it waits only when none was accepted
  have turned : ∀ {id : Nat} {row next : EmailJob}, world.jobs[id]? = some row →
      changed = world.setJob id next → next.emailLogId = row.emailLogId →
      (next.state = .waiting → id ∉ (accepted world).map (·.job.id)) →
      (∀ job, (mailing.advance stage op result).job? = some job →
        job.id ∉ (accepted world).map (·.job.id)) →
      Guarded changed (stages.set i (mailing.advance stage op result)) := by
    rintro id row next listed rfl logId waits fresh
    refine guarded.move held rfl (fun job has _ => fresh job has) (fun key other isOther isWaiting => ?_)
      (kept_setJob listed logId)
    rcases getElem?_setJob isOther with ⟨rfl, rfl⟩ | ⟨_, old⟩
    · exact waits isWaiting
    · exact guarded.resting key other old isWaiting
  cases turns allowed responds with
  | still jobs untaken => exact guarded.still found allowed recorded responds held jobs untaken
  | added isStage _ same =>
    subst isStage same
    refine guarded.move held rfl nofun (fun key row isRow isWaiting isAccepted => ?_)
      fun key row isRow => ⟨row, ?_, rfl⟩
    · have old := guarded.lists isAccepted
      exact guarded.resting key row ((List.getElem?_append_left old).symm.trans isRow) isWaiting isAccepted
    · exact (List.getElem?_append_left (List.getElem?_eq_some_iff.mp isRow).1).trans isRow
  | taken isStage listed waiting same =>
    subst isStage
    refine turned listed same rfl nofun fun job has => ?_
    cases has
    exact guarded.resting _ _ listed waiting
  | missed isStage listed waiting same =>
    subst isStage
    exact turned listed same rfl nofun nofun
  | completed isStage listed same =>
    subst isStage
    exact turned listed same rfl nofun nofun
  | failed isStage listed same =>
    subst isStage
    exact turned listed same rfl (fun _ => guarded.unsent _ here _ rfl rfl) nofun
  | stalled isStage listed _ same =>
    subst isStage
    exact turned listed same rfl (fun _ => recorded.2) nofun

end Steps

theorem Guarded.atMostOnce {world : EmailWorld} {stages : List Stage} (guarded : Guarded world stages) :
    AtMostOnce world := by
  intro id
  let jobs := (world.jobs.zipIdx.filter fun entry => entry.1.emailLogId = id).map (·.2)
  let messages := (accepted world).filter fun handing => handing.log.id = id
  have distinct : (messages.map (·.job.id)).Nodup :=
    guarded.once.sublist (List.filter_sublist.map _)
  have among : messages.map (·.job.id) ⊆ jobs := by
    intro key member
    obtain ⟨handing, isMessage, rfl⟩ := List.mem_map.mp member
    obtain ⟨isAccepted, ofLog⟩ := List.mem_filter.mp isMessage
    obtain ⟨row, isRow, logId⟩ := guarded.listed handing isAccepted
    have same : row.emailLogId = id := logId.trans (by simpa using ofLog)
    refine List.mem_map.mpr ⟨(row, handing.job.id), List.mem_filter.mpr ⟨?_, by simpa using same⟩, rfl⟩
    exact List.mem_zipIdx_iff_getElem?.mpr isRow
  have counted : jobs.length = (world.jobs.filter fun job => job.emailLogId = id).length := by
    have front := List.filter_map (f := Prod.fst) (l := world.jobs.zipIdx)
      (p := fun job : EmailJob => decide (job.emailLogId = id))
    rw [List.zipIdx_map_fst] at front
    rw [front, List.length_map, List.length_map]
    rfl
  calc messages.length = (messages.map (·.job.id)).length := (List.length_map _).symm
    _ ≤ jobs.length := (List.subperm_of_subset distinct among).length_le
    _ = _ := counted

theorem guarded_initial : Guarded EmailWorld.empty [] where
  held := held_initial
  unsent _ member := nomatch member
  resting _ _ isRow := nomatch isRow
  once := List.nodup_nil
  listed _ member := nomatch member

theorem Guarded.calls {world : EmailWorld} {stages : List Stage} (guarded : Guarded world stages)
    (calls : List EmailCall) : Guarded world (stages ++ calls.map mailing.start) := by
  refine ⟨guarded.held.calls calls, fun stage member job isJob unsent => ?_, guarded.resting,
    guarded.once, guarded.listed⟩
  rcases List.mem_append.mp member with old | new
  · exact guarded.unsent stage old job isJob unsent
  · obtain ⟨call, _, rfl⟩ := List.mem_map.mp new
    rw [start_job] at isJob
    cases isJob

/-- In every run in which accepted messages are answered and recorded and no job stalls during or after an
accepted attempt, no more messages of a log are accepted than jobs were added for it. -/
theorem email_accepted_once (engine : TemplateEngine) (config : EmailConfig)
    (labels : List (Label (emailProcess engine config))) (after : Config (emailProcess engine config))
    (admissible : Admissible (OnChoices (recording engine config)) labels
      (Config.initial (emailProcess engine config) EmailWorld.empty ()))
    (ran : run labels (Config.initial (emailProcess engine config) EmailWorld.empty ()) = some after) :
    AtMostOnce after.world := by
  have steps : ∀ v v' : View mailing (emailProcess engine config), Guarded v.world v.phases →
      Decides (recording engine config) v v' → Guarded v'.world v'.phases := by
    intro v v' guarded decides
    cases decides with
    | calls new _ => exact guarded.calls new
    | env mem change => exact guarded
    | reply i stage op choice world result found allowed responds condition =>
      obtain ⟨answer, answers, recorded⟩ := condition
      exact guarded.respond found allowed recorded answers
  obtain ⟨guarded, _⟩ := invariant_of_choices (email_conforms engine config) steps
    (allKeep_initial _ _) guarded_initial admissible ran
  exact guarded.atMostOnce

def unknownTemplate {α : Type} (name : String) (_ : Option String) : Except Exception α :=
  .error (.error ("Template " ++ name ++ " not found"))

/-- An engine without templates. -/
def sampleEngine : TemplateEngine := ⟨unknownTemplate, unknownTemplate, unknownTemplate, id⟩

def sampleConfig : EmailConfig := ⟨none, none⟩

def sampleEmail : SendEmailDto :=
  ⟨["ada@example.com"], "Your statement", none, none, none, some "Attached.", none, none⟩

abbrev MailLabel : Type := Label (emailProcess sampleEngine sampleConfig)

abbrev beforeMail : Config (emailProcess sampleEngine sampleConfig) :=
  Config.initial (emailProcess sampleEngine sampleConfig) EmailWorld.empty ()

/-- An email is enqueued. -/
def enqueued : List MailLabel :=
  [.call (.sendEmail sampleEmail), .reply 0 (.does (.inserted "m1")), .reply 0 (.does .plain)]

/-- A worker hands the message of the only job to the provider, which accepts it. -/
def handsOver (worker : Nat) : List MailLabel :=
  [.call (.handleSendEmail 0), .reply worker (.does .plain), .reply worker (.does .plain),
    .reply worker (.does .plain), .reply worker (.does (.available true)),
    .reply worker (.does (.accepted ⟨"<1@mail>", "smtp"⟩))]

/-- The log and the job are updated. -/
def records (worker : Nat) : List MailLabel :=
  [.reply worker (.does .plain), .reply worker (.does .plain)]

/-- The database does not answer the first update of the log. -/
def loses (worker : Nat) : List MailLabel :=
  [.reply worker (.fails (.error "Connection terminated")), .reply worker (.does .plain),
    .reply worker (.does .plain)]

theorem one_email_accepted : ∃ after, run (enqueued ++ handsOver 1 ++ records 1) beforeMail = some after ∧
      (accepted after.world).length = 1 ∧ AtMostOnce after.world := by
  obtain ⟨after, ran, one⟩ := (by decide +kernel : ∃ after,
    run (enqueued ++ handsOver 1 ++ records 1) beforeMail = some after ∧
      (accepted after.world).length = 1)
  exact ⟨after, ran, one, email_accepted_once sampleEngine sampleConfig
    (enqueued ++ handsOver 1 ++ records 1) after (by decide +kernel) ran⟩

/-- The record of an accepted message fails, and the job is attempted again. -/
theorem email_accepted_twice : ∃ after,
    run (enqueued ++ handsOver 1 ++ loses 1 ++ handsOver 2) beforeMail = some after ∧ ¬ AtMostOnce after.world := by
  obtain ⟨after, ran, two, one⟩ := (by decide +kernel : ∃ after,
    run (enqueued ++ handsOver 1 ++ loses 1 ++ handsOver 2) beforeMail = some after ∧
      ((accepted after.world).filter fun handing => handing.log.id = "m1").length = 2 ∧
        (after.world.jobs.filter fun job => job.emailLogId = "m1").length = 1)
  refine ⟨after, ran, fun once => ?_⟩
  have bound := once "m1"
  rw [two, one] at bound
  exact absurd bound (by decide)

end AlianStructure.Guarantees.EmailOnce
