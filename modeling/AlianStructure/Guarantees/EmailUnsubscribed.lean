import AlianStructure.Guarantees.EmailOnce

/-!
# Unsubscribed recipients

Source: src/email/email.service.ts:30-81 and 120-127 and services/email-queue.service.ts:58-77. To
unsubscribe marks the logs of the recipient that exist; a log that is created later is not marked.
-/
namespace AlianStructure.Guarantees.EmailUnsubscribed
open Library.Interleaving Library.CallProtocol Library.KeyedTable
open Source Source.Email EmailService EmailStages EmailLocks EmailOnce

/-- No message was handed over for a recipient that had unsubscribed before its processing started. -/
def Honoured (world : EmailWorld) : Prop :=
  ∀ handing ∈ world.handed, handing.log.recipientEmail ∉ handing.job.unsubscribedBefore

instance (world : EmailWorld) : Decidable (Honoured world) :=
  inferInstanceAs (Decidable (∀ _ ∈ world.handed, _ ∉ _))

/-- An `unsubscribe` that is answered has unsubscribed the recipient. -/
theorem mem_unsubscribed {world changed : EmailWorld} {email : String} {answer : EmailAnswer}
    (responds : world.respond (.markUnsubscribed email) answer = some (changed, .ok ())) :
    email ∈ changed.unsubscribed := by
  cases answer with
  | does how =>
    cases how <;> cases responds
    exact List.mem_append_right _ (List.mem_singleton_self email)
  | fails => cases responds
  | lost how => cases how <;> cases responds

/-- No log is created for a recipient that has unsubscribed. -/
def Subscribed (world : EmailWorld) : EmailOp → EmailAnswer → Prop
  | .insertLog log, _ => log.recipientEmail ∉ world.unsubscribed
  | _, _ => True

instance (world : EmailWorld) (op : EmailOp) (answer : EmailAnswer) :
    Decidable (Subscribed world op answer) :=
  match op with
  | .insertLog log => inferInstanceAs (Decidable (log.recipientEmail ∉ world.unsubscribed))
  | .findLog _ | .findFailed | .updateLog _ _ | .markUnsubscribed _ | .addJob _ _ | .takeJob _ | .isAvailable _
  | .sendMail _ _ _ | .moveToCompleted _ | .moveToFailed _ _ | .moveUnlocked _ => isTrue trivial

/-- The condition on a run. -/
def subscribing (engine : TemplateEngine) (config : EmailConfig) :
    ChoiceCondition mailing (emailProcess engine config) :=
  fun v _ op answer => Subscribed v.world op answer

instance (engine : TemplateEngine) (config : EmailConfig)
    (v : View mailing (emailProcess engine config)) (i : Nat) (op : EmailOp) (answer : EmailAnswer) :
    Decidable (subscribing engine config v i op answer) :=
  inferInstanceAs (Decidable (Subscribed v.world op answer))

/-- An attempt goes on with a log only when its recipient had not unsubscribed before. -/
def Passed : Stage → Prop
  | .read job log | .marked job log | .ready job log | .sent job log | .failing job log =>
    log.recipientEmail ∉ job.unsubscribedBefore
  | _ => True

structure Silent (world : EmailWorld) (stages : List Stage) : Prop where
  flagged : ∀ log ∈ world.logs.rows, log.recipientEmail ∈ world.unsubscribed → log.unsubscribed = true
  started : ∀ stage ∈ stages, ∀ job ∈ stage.job?, job.unsubscribedBefore ⊆ world.unsubscribed
  passed : ∀ stage ∈ stages, Passed stage
  honoured : Honoured world

theorem apply_recipient (change : LogUpdate) (log : EmailLog) :
    (change.apply log).recipientEmail = log.recipientEmail ∧ (change.apply log).unsubscribed = log.unsubscribed := by
  cases change <;> exact ⟨rfl, rfl⟩

section Steps
variable {world changed : EmailWorld} {stages : List Stage} {i : Nat} {stage : Stage} {op : EmailOp}

/-- What an operation does to the logs and the recipients that have unsubscribed. -/
theorem flagged_effect {how : EmailEffect} {reply : Except Exception op.Reply}
    (flagged : ∀ log ∈ world.logs.rows, log.recipientEmail ∈ world.unsubscribed → log.unsubscribed = true)
    (subscribed : ∀ log, op = .insertLog log → log.recipientEmail ∉ world.unsubscribed)
    (effect : world.effect op how = some (changed, reply)) : (∀ log ∈ changed.logs.rows,
      log.recipientEmail ∈ changed.unsubscribed → log.unsubscribed = true) ∧
    world.unsubscribed ⊆ changed.unsubscribed := by
  cases op with
  | insertLog log =>
    obtain ⟨id, _, _, rfl⟩ := effect_insertLog effect
    refine ⟨fun other member unsubscribes => ?_, List.Subset.refl _⟩
    rcases Table.mem_save.mp member with rfl | ⟨old, _⟩
    · exact absurd unsubscribes (subscribed log rfl)
    · exact flagged other old unsubscribes
  | updateLog id change =>
    cases how <;> cases effect
    refine ⟨fun log member unsubscribes => ?_, List.Subset.refl _⟩
    obtain ⟨old, isOld, rfl⟩ := mem_update member
    by_cases named : old.id = id
    · rw [if_pos named, (apply_recipient change old).1] at unsubscribes
      rw [if_pos named, (apply_recipient change old).2]
      exact flagged old isOld unsubscribes
    · rw [if_neg named] at unsubscribes ⊢
      exact flagged old isOld unsubscribes
  | markUnsubscribed email =>
    cases how <;> cases effect
    refine ⟨fun log member unsubscribes => ?_, List.subset_append_left _ _⟩
    obtain ⟨old, isOld, rfl⟩ := mem_markUnsubscribed member
    by_cases named : old.recipientEmail = email
    · rw [if_pos named]
    · rw [if_neg named] at unsubscribes ⊢
      rcases List.mem_append.mp unsubscribes with before | now
      · exact flagged old isOld before
      · exact absurd (List.mem_singleton.mp now) named
  | findLog id =>
    cases how <;> cases effect
    exact ⟨flagged, List.Subset.refl _⟩
  | findFailed =>
    cases how <;> cases effect
    exact ⟨flagged, List.Subset.refl _⟩
  | isAvailable provider =>
    cases how <;> cases effect
    exact ⟨flagged, List.Subset.refl _⟩
  | _ =>
    obtain ⟨logs, unsubscribed⟩ := effect_logs id effect
    rw [logs, unsubscribed]
    exact ⟨flagged, List.Subset.refl _⟩

theorem passed_found {job : TakenJob} {looked : Option EmailLog}
    (unmarked : ∀ log ∈ looked, log.recipientEmail ∈ job.unsubscribedBefore → log.unsubscribed = true) :
    Passed (found job looked) := by
  unfold found
  cases looked with
  | none => trivial
  | some log =>
    dsimp only
    split
    next => trivial
    next notMarked =>
      split
      next => trivial
      next => exact fun before => notMarked (unmarked log rfl before)

variable {result : Except Exception op.Reply}

theorem advance_passed (allowed : mailing.allows stage op) (passed : Passed stage)
    (looked : ∀ job, stage ≠ .begun job) : Passed (mailing.advance stage op result) := by
  cases stage with
  | free =>
    cases op with
    | findLog id => rcases result with failure | (_ | log) <;> trivial
    | _ => cases result <;> trivial
  | looked id => cases result <;> trivial
  | enqueuing id => trivial
  | apart => cases op <;> cases result <;> trivial
  | begun job => exact absurd rfl (looked job)
  | marked job log =>
    cases op with
    | isAvailable provider =>
      match result with
      | .error failure => trivial
      | .ok false => trivial
      | .ok true => exact passed
    | _ => exact allowed.elim
  | refusing job log => cases result <;> trivial
  | read job log => cases result <;> first | exact passed | trivial
  | ready job log => cases result <;> exact passed
  | sent job log => cases result <;> first | exact passed | trivial
  | failing job log => trivial
  | ended job success => trivial

theorem Silent.begun (silent : Silent world stages) {job : TakenJob} (here : .begun job ∈ stages)
    {answer : EmailAnswer} (allowed : mailing.allows (.begun job) op)
    (responds : world.respond op answer = some (changed, result)) :
    Passed (mailing.advance (.begun job) op result) := by
  cases op with
  | findLog id =>
    rcases respond_cases responds with ⟨_, _, _, rfl⟩ | ⟨_, _, effect, answered⟩
    · trivial
    · obtain ⟨_, rfl⟩ := effect_findLog effect
      rcases answered with ⟨_, rfl⟩ | ⟨_, _, rfl⟩
      · refine passed_found fun log same before => ?_
        exact silent.flagged log (Table.findOne_mem same) (silent.started _ here job rfl before)
      · trivial
  | _ => exact allowed.elim

theorem started_advance {answer : EmailAnswer} (allowed : mailing.allows stage op)
    (responds : world.respond op answer = some (changed, result)) {job : TakenJob}
    (has : (mailing.advance stage op result).job? = some job) :
    stage.job? = some job ∨ job.unsubscribedBefore = world.unsubscribed := by
  rcases advance_job allowed has with held | ⟨rfl, id, rfl⟩
  · exact Or.inl held
  · refine Or.inr ?_
    rcases respond_cases responds with ⟨_, _, _, rfl⟩ | ⟨_, _, effect, answered⟩
    · cases has
    · obtain ⟨_, _, _, _, rfl⟩ := effect_takeJob effect
      rcases answered with ⟨_, rfl⟩ | ⟨_, _, rfl⟩
      · cases has
        rfl
      · cases has

theorem Silent.respond (silent : Silent world stages) (found : stages[i]? = some stage)
    {answer : EmailAnswer} (allowed : mailing.allows stage op) (subscribed : Subscribed world op answer)
    (responds : world.respond op answer = some (changed, result)) :
    Silent changed (stages.set i (mailing.advance stage op result)) := by
  have here : stage ∈ stages := List.mem_of_getElem? found
  have created : ∀ log, op = .insertLog log → log.recipientEmail ∉ world.unsubscribed := by
    rintro log rfl
    exact subscribed
  have known : (∀ log ∈ changed.logs.rows,
      log.recipientEmail ∈ changed.unsubscribed → log.unsubscribed = true) ∧
      world.unsubscribed ⊆ changed.unsubscribed := by
    rcases respond_cases responds with ⟨_, _, rfl, _⟩ | ⟨_, _, effect, _⟩
    · cases op <;> exact ⟨silent.flagged, List.Subset.refl _⟩
    · exact flagged_effect silent.flagged created effect
  refine ⟨known.1, fun other member job isJob => ?_, fun other member => ?_, fun handing member => ?_⟩
  · rcases mem_set member with old | rfl
    · exact List.Subset.trans (silent.started other old job isJob) known.2
    · rcases started_advance allowed responds isJob with held | same
      · exact List.Subset.trans (silent.started stage here job held) known.2
      · exact same ▸ known.2
  · rcases mem_set member with old | rfl
    · exact silent.passed other old
    · cases stage with
      | begun job => exact silent.begun here allowed responds
      | _ => exact advance_passed allowed (silent.passed _ here) nofun
  · rcases respond_handed responds with same | ⟨job, log, options, accepted, rfl, same⟩
    · exact silent.honoured handing (same ▸ member)
    · rw [same] at member
      rcases List.mem_append.mp member with old | new
      · exact silent.honoured handing old
      · rw [List.mem_singleton.mp new]
        cases stage with
        | ready taken read =>
          obtain ⟨rfl, rfl, _⟩ := allowed
          have passed : log.recipientEmail ∉ job.unsubscribedBefore := silent.passed _ here
          exact passed
        | _ => exact allowed.elim

end Steps

theorem silent_initial : Silent EmailWorld.empty [] where
  flagged _ member := nomatch member
  started _ member := nomatch member
  passed _ member := nomatch member
  honoured _ member := nomatch member

theorem Silent.calls {world : EmailWorld} {stages : List Stage} (silent : Silent world stages)
    (calls : List EmailCall) : Silent world (stages ++ calls.map mailing.start) := by
  refine ⟨silent.flagged, fun stage member => ?_, fun stage member => ?_, silent.honoured⟩
  · rcases List.mem_append.mp member with old | new
    · exact silent.started stage old
    · obtain ⟨call, _, rfl⟩ := List.mem_map.mp new
      rw [start_job]
      exact nofun
  · rcases List.mem_append.mp member with old | new
    · exact silent.passed stage old
    · obtain ⟨call, _, rfl⟩ := List.mem_map.mp new
      rcases start_cases call with same | same <;> rw [same] <;> trivial

/-- In every run in which no log is created for a recipient that has unsubscribed, no message is handed over
for a recipient that had unsubscribed before its job was taken. -/
theorem unsubscribed_honoured (engine : TemplateEngine) (config : EmailConfig)
    (labels : List (Label (emailProcess engine config))) (after : Config (emailProcess engine config))
    (admissible : Admissible (OnChoices (subscribing engine config)) labels
      (Config.initial (emailProcess engine config) EmailWorld.empty ()))
    (ran : run labels (Config.initial (emailProcess engine config) EmailWorld.empty ()) = some after) :
    Honoured after.world := by
  have steps : ∀ v v' : View mailing (emailProcess engine config), Silent v.world v.phases →
      Decides (subscribing engine config) v v' → Silent v'.world v'.phases := by
    intro v v' silent decides
    cases decides with
    | calls new _ => exact silent.calls new
    | env mem change => exact silent
    | reply i stage op choice world result found allowed responds condition =>
      obtain ⟨answer, answers, subscribed⟩ := condition
      exact silent.respond found allowed subscribed answers
  obtain ⟨silent, _⟩ := invariant_of_choices (email_conforms engine config) steps
    (allKeep_initial _ _) silent_initial admissible ran
  exact silent.honoured

/-- The recipient of the sample unsubscribes. -/
def unsubscribes (call : Nat) : List MailLabel :=
  [.call (.unsubscribe "ada@example.com"), .reply call (.does .plain)]

/-- The message was enqueued before: its log is marked, and the job ends without it. -/
def refused : List MailLabel :=
  [.call (.handleSendEmail 0), .reply 2 (.does .plain), .reply 2 (.does .plain),
    .reply 2 (.does .plain), .reply 2 (.does .plain)]

theorem earlier_email_refused : ∃ after, run (enqueued ++ unsubscribes 1 ++ refused) beforeMail = some after ∧
      after.world.logs.rows.map (·.status) = [.failed] ∧ after.world.handed = [] ∧ Honoured after.world := by
  obtain ⟨after, ran, failed, nothing⟩ := (by decide +kernel : ∃ after,
    run (enqueued ++ unsubscribes 1 ++ refused) beforeMail = some after ∧
      after.world.logs.rows.map (·.status) = [.failed] ∧ after.world.handed = [])
  exact ⟨after, ran, failed, nothing, unsubscribed_honoured sampleEngine sampleConfig
    (enqueued ++ unsubscribes 1 ++ refused) after (by decide +kernel) ran⟩

/-- An email to the recipient that is enqueued afterwards. -/
def enqueuedLater : List MailLabel :=
  [.call (.sendEmail sampleEmail), .reply 1 (.does (.inserted "m1")), .reply 1 (.does .plain)]

theorem later_email_sent : ∃ after, run (unsubscribes 0 ++ enqueuedLater ++ handsOver 2) beforeMail = some after ∧
      ¬ Honoured after.world := by
  decide +kernel

end AlianStructure.Guarantees.EmailUnsubscribed
