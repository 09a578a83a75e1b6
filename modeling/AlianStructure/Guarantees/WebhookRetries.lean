import AlianStructure.Library.CallProtocol
import AlianStructure.Guarantees.WebhookBound

/-!
# What is retried

Source: webhook-delivery.service.ts:161-346, webhook-event.service.ts:63-77. The rows that are returned
for a retry are dead letters, so a FAILED delivery whose time has come is not among them and a
DEAD_LETTERED one is; a delivery that is created for a dead letter gets no job. All is well as long as no
attempt is dead lettered and no time of a retry comes.
-/
namespace AlianStructure.Guarantees.WebhookRetries
open Library.AsyncMethod Library.Interleaving Library.CallProtocol Library.KeyedTable
open Source Source.Webhooks WebhookDeliveryService
open WebhookBound (EndsOn unpublished sampleConfig sampleSubscription sampleStart publication)

/-- A FAILED delivery that has attempts left and whose time has come. -/
def Due (now : ℚ) (row : WebhookDelivery) : Prop :=
  row.status = .failed ∧ row.attempts < row.maxAttempts ∧ ∃ time ∈ row.nextRetryAt, time ≤ now

instance (now : ℚ) (row : WebhookDelivery) : Decidable (Due now row) :=
  inferInstanceAs (Decidable (_ ∧ _ ∧ ∃ time ∈ row.nextRetryAt, time ≤ now))

/-- The rows that are returned for a retry are those of the deliveries that are due and of none that is
SUCCESS or DEAD_LETTERED, and every delivery that was created for a dead letter has a job. -/
@[mk_iff]
structure Retries (world : WebhookWorld) : Prop where
  returned : ∀ row ∈ world.deliveries.rows, Due world.now row →
    ∃ letter ∈ world.pendingDeadLetters, letter.deliveryId = row.id
  unclosed : ∀ row ∈ world.deliveries.rows, closes row.status = true →
    ∀ letter ∈ world.pendingDeadLetters, letter.deliveryId ≠ row.id
  queued : ∀ id ∈ world.recreated, ∃ job ∈ world.jobs, job.deliveryId = id

/-- A call for the pending retries that does not fail returns these rows. -/
theorem getPendingRetries_returns {config : WebhookConfig} {world : WebhookWorld} :
    EndsOn config world.toWebhookStore getPendingRetries fun _ result =>
      ∀ rows, result = .ok rows → rows = world.pendingDeadLetters := by
  refine Library.SeenInTurn.endsFrom_perform fun state outcome after result here _ responds => ?_
  have same : state.1.deadLetters = world.deadLetters := congrArg WebhookStore.deadLetters here
  cases outcome with
  | done lost =>
    cases responds
    rintro rows ⟨⟩
    rw [WebhookWorld.pendingDeadLetters, same, WebhookWorld.pendingDeadLetters]
  | fails failure =>
    cases responds
    nofun
  | _ => cases responds

/-! ## The condition -/

/-- No dead letter is inserted, and no retry is scheduled for a time that has come. -/
def quietAnswer (now : ℚ) : WebhookOp → WebhookOutcome → Prop
  | .insertDeadLetter _, .created _ _ => False
  | .saveDelivery row, .done _ => ¬ Due now row
  | _, _ => True

instance (now : ℚ) (op : WebhookOp) (outcome : WebhookOutcome) :
    Decidable (quietAnswer now op outcome) := by
  unfold quietAnswer
  split <;> infer_instance

/-- No time of a retry comes. -/
def quietChange (world : WebhookWorld) : WebhookChange → Prop
  | .tick ms => ∀ row ∈ world.deliveries.rows, ¬ Due (world.now + ms) row
  | .random _ | .subscribe _ | .unsubscribe _ => True

instance (world : WebhookWorld) : ∀ change, Decidable (quietChange world change)
  | .tick ms => inferInstanceAs (Decidable (∀ row ∈ world.deliveries.rows, ¬ Due (world.now + ms) row))
  | .random _ | .subscribe _ | .unsubscribe _ => isTrue trivial

def Quiet {config : WebhookConfig} (c : Config (webhookProcess config)) :
    Label (webhookProcess config) → Prop
  | .reply i outcome => ∀ op ∈ (c.pool[i]?).bind awaits, quietAnswer c.world.now op outcome
  | .env change => quietChange c.world change
  | .call _ | .resume _ | .fork _ | .join _ => True

instance {config : WebhookConfig} (c : Config (webhookProcess config)) :
    ∀ label, Decidable (Quiet c label)
  | .reply i outcome => inferInstanceAs
      (Decidable (∀ op ∈ (c.pool[i]?).bind awaits, quietAnswer c.world.now op outcome))
  | .env change => inferInstanceAs (Decidable (quietChange c.world change))
  | .call _ | .resume _ | .fork _ | .join _ => isTrue trivial

/-! ## Only a dead letter that was found is retried -/

/-- A call that has found a dead letter may save it and create a delivery for it. -/
def allowsOp (foundLetter : Bool) : WebhookOp → Prop
  | .insertDelivery row none => foundLetter = true ∨ row.status = .pending
  | .insertDelivery _ (some _) | .saveDeadLetter _ => foundLetter = true
  | _ => True

def afterAnswer (foundLetter : Bool) : (op : WebhookOp) → Except Exception op.Reply → Bool
  | .findDeadLetter _, .ok (some _) => true
  | _, _ => foundLetter

abbrev retrying : Protocol webhooks where
  Phase := Bool
  start _ := false
  starts foundLetter _ := foundLetter = true
  allows := allowsOp
  possible _ _ := True
  advance := afterAnswer
  returns _ _ := True

/-- A program that touches no dead letter that exists. -/
def Plain {α : Type} (program : WebhookM α) : Prop :=
  ∀ foundLetter, Follows retrying foundLetter program fun _ _ => True

section Methods
variable {α β : Type} {config : WebhookConfig}

theorem plain_pure {value : α} : Plain (pure value) := fun _ => trivial

theorem plain_throw {failure : Exception} : Plain (throw failure : WebhookM α) := fun _ => trivial

theorem plain_bind {program : WebhookM β} {next : β → WebhookM α} (first : Plain program)
    (rest : ∀ value, Plain (next value)) : Plain (program >>= next) := by
  intro foundLetter
  rw [follows_bind]
  refine follows_mono retrying (fun phase result _ => ?_) (first foundLetter)
  cases result with
  | ok value => exact rest value phase
  | error failure => trivial

theorem allows_found (op : WebhookOp) : allowsOp true op := by
  unfold allowsOp
  split
  next => exact Or.inl rfl
  all_goals trivial

theorem found_stays (op : WebhookOp) (result : Except Exception op.Reply) : afterAnswer true op result = true := by
  unfold afterAnswer
  split <;> rfl

theorem plain_ask {op : WebhookOp} (allowed : allowsOp false op) : Plain (ask op) := by
  intro foundLetter
  refine ⟨?_, fun _ _ => trivial⟩
  cases foundLetter with
  | false => exact allowed
  | true => exact allows_found op

theorem plain_memory : Plain (Async.memory : WebhookM WebhookMemory) := fun _ _ => trivial

theorem plain_clock : Plain clock := plain_bind plain_memory fun _ => plain_pure

theorem plain_outcome {program : WebhookM α} (plain : Plain program) : Plain program.outcome := by
  intro foundLetter
  rw [follows_outcome]
  exact plain foundLetter

theorem createDeliveries_plain {event : WebhookEvent} :
    ∀ subscriptions : List WebhookSubscription, Plain (createDeliveries event subscriptions)
  | [] => plain_pure
  | _ :: subscriptions => plain_bind (plain_ask (Or.inr rfl)) fun _ =>
      plain_bind (createDeliveries_plain subscriptions) fun _ => plain_pure

theorem enqueueEach_plain {eventId : String} :
    ∀ deliveries : List WebhookDelivery, Plain (WebhookEventService.enqueueEach eventId deliveries)
  | [] => plain_pure
  | _ :: deliveries => plain_bind (plain_ask trivial) fun _ => enqueueEach_plain deliveries

theorem publishEvent_plain {dto : PublishWebhookEventDto} : Plain (WebhookEventService.publishEvent dto) := by
  refine plain_bind (plain_ask trivial) fun saved => ?_
  refine plain_bind (plain_bind (plain_ask trivial) fun _ => plain_pure) fun subscribers => ?_
  split
  next => exact plain_bind (plain_ask trivial) fun _ => plain_pure
  next =>
    exact plain_bind (createDeliveries_plain _) fun _ => plain_bind (enqueueEach_plain _) fun _ =>
      plain_bind (plain_ask trivial) fun _ => plain_pure

theorem executeDelivery_plain {delivery : WebhookDelivery} : Plain (executeDelivery config delivery) := by
  refine plain_bind (plain_ask trivial) fun subscription => ?_
  refine plain_bind (plain_ask trivial) fun event => ?_
  split
  next =>
    refine plain_bind plain_clock fun now => plain_bind (plain_ask trivial) fun _ => ?_
    refine plain_bind plain_clock fun startTime => ?_
    refine plain_bind (plain_outcome (plain_ask trivial)) fun answer => ?_
    exact plain_bind plain_clock fun endTime => plain_pure
  next => exact plain_pure

theorem recordResult_plain {delivery : WebhookDelivery} {subscription : WebhookSubscription}
    {result : DeliveryResult} : Plain (recordResult delivery subscription result) := by
  refine plain_bind plain_clock fun now => ?_
  dsimp only
  split
  next => exact plain_bind (plain_ask trivial) fun _ => plain_bind (plain_ask trivial) fun _ => plain_pure
  next =>
    split
    next =>
      exact plain_bind (plain_ask trivial) fun _ => plain_bind (plain_ask trivial) fun _ =>
        plain_bind (plain_ask trivial) fun _ => plain_bind (plain_ask trivial) fun _ => plain_pure
    next => exact plain_bind plain_memory fun _ => plain_bind (plain_ask trivial) fun _ => plain_pure

theorem processDelivery_plain {id : String} : Plain (processDelivery config id) := by
  refine plain_bind (plain_ask trivial) fun found => ?_
  cases found with
  | none => exact plain_throw
  | some delivery =>
    refine plain_bind (plain_ask trivial) fun subscription => ?_
    cases subscription with
    | none => exact plain_throw
    | some subscription => exact plain_bind executeDelivery_plain fun _ => recordResult_plain

theorem found_follows (program : WebhookM α) : Follows retrying true program fun _ _ => True :=
  follows_free retrying (· = true) (fun _ op found => found ▸ allows_found op) (fun _ _ found => found)
    (fun _ op result found => found ▸ found_stays op result) (fun _ _ _ => trivial) rfl

theorem retryDeadLetter_follows {id : String} : Follows retrying false (retryDeadLetter id) fun _ _ => True := by
  unfold retryDeadLetter
  rw [follows_bind]
  refine ⟨trivial, fun result _ => ?_⟩
  cases result with
  | error failure => trivial
  | ok found =>
    cases found with
    | none => trivial
    | some letter => exact found_follows _

end Methods

theorem webhooks_conform (config : WebhookConfig) : Conforms retrying (webhookProcess config) where
  body call _ := by
    cases call with
    | publishEvent dto => exact plain_bind publishEvent_plain (fun _ => plain_pure) false
    | processDelivery id => exact plain_bind processDelivery_plain (fun _ => plain_pure) false
    | getPendingRetries =>
      have read : Plain getPendingRetries := plain_ask trivial
      exact plain_bind read (fun _ => plain_pure) false
    | retryDeadLetter id =>
      refine (follows_bind retrying).mpr (follows_mono retrying ?_ retryDeadLetter_follows)
      intro foundLetter result _
      cases result <;> trivial
  possible _ _ _ _ _ _ := trivial

/-! ## Every step -/

/-- There is no dead letter, and no delivery was created for one. -/
structure Unlettered (world : WebhookWorld) : Prop where
  letters : world.deadLetters.rows = []
  recreated : world.recreated = []

/-- No delivery is due. -/
def Early (world : WebhookWorld) : Prop := ∀ row ∈ world.deliveries.rows, ¬ Due world.now row

theorem retries_of_early {world : WebhookWorld} (unlettered : Unlettered world) (early : Early world) :
    Retries world := by
  have nothing : world.pendingDeadLetters = [] := by
    simp [WebhookWorld.pendingDeadLetters, unlettered.letters]
  refine ⟨fun row member due => absurd due (early row member), fun row _ _ => ?_, ?_⟩
  · rw [nothing]
    exact List.forall_mem_nil _
  · rw [unlettered.recreated]
    exact List.forall_mem_nil _

section Answers
variable {world after : WebhookWorld} {op : WebhookOp} {outcome : WebhookOutcome}
  {result : Except Exception op.Reply}

theorem respond_unlettered (unlettered : Unlettered world) (allowed : allowsOp false op)
    (quiet : quietAnswer world.now op outcome) (responds : world.respond op outcome = some (after, result)) :
    Unlettered after ∧ afterAnswer false op result = false := by
  unfold WebhookWorld.respond at responds
  split at responds
  case h_3 row deadLetterId id lost =>
    cases deadLetterId with
    | some deadLetterId => cases allowed
    | none =>
      simp only [WebhookWorld.inserted] at responds
      split at responds
      next =>
        cases responds
        exact ⟨⟨unlettered.letters, unlettered.recreated⟩, rfl⟩
      next => cases responds
  case h_7 =>
    simp only [WebhookWorld.inserted] at responds
    split at responds
    next =>
      cases responds
      exact ⟨⟨unlettered.letters, unlettered.recreated⟩, rfl⟩
    next => cases responds
  case h_11 => exact quiet.elim
  case h_12 id _ =>
    cases responds
    have absent : world.deadLetters.findOne id = none :=
      Table.findOne_eq_none.mpr (by simp [unlettered.letters])
    refine ⟨unlettered, ?_⟩
    rw [absent]
    rfl
  case h_13 => cases allowed
  case h_18 =>
    cases responds
    refine ⟨unlettered, ?_⟩
    cases op <;> rfl
  case h_19 => cases responds
  all_goals
    cases responds
    exact ⟨⟨unlettered.letters, unlettered.recreated⟩, rfl⟩

theorem early_save {now : ℚ} {table : Table WebhookDelivery WebhookDelivery.id} {row : WebhookDelivery}
    (early : ∀ row ∈ table.rows, ¬ Due now row) (notDue : ¬ Due now row) :
    ∀ other ∈ (table.save row).rows, ¬ Due now other := by
  intro other member
  rcases Table.mem_save.mp member with rfl | ⟨kept, _⟩
  · exact notDue
  · exact early other kept

theorem respond_early (early : Early world) (allowed : allowsOp false op) (quiet : quietAnswer world.now op outcome)
    (responds : world.respond op outcome = some (after, result)) : Early after := by
  unfold WebhookWorld.respond at responds
  split at responds
  case h_2 row lost =>
    cases responds
    exact early_save early quiet
  case h_3 row deadLetterId id lost =>
    cases deadLetterId with
    | some deadLetterId => cases allowed
    | none =>
      have notDue : ¬ Due world.now { row with id } := fun due => by
        rcases allowed with found | isPending
        · cases found
        · exact absurd (isPending.symm.trans due.1) (by decide)
      simp only [WebhookWorld.inserted] at responds
      split at responds
      next =>
        cases responds
        exact early_save early notDue
      next => cases responds
  case h_7 | h_11 =>
    simp only [WebhookWorld.inserted] at responds
    split at responds
    next =>
      cases responds
      exact early
    next => cases responds
  case h_19 => cases responds
  all_goals
    cases responds
    exact early

end Answers

section Steps
variable {config : WebhookConfig}

/-- No call has found a dead letter, and there is none. -/
def Unfound (v : View retrying (webhookProcess config)) : Prop :=
  Unlettered v.world ∧ ∀ foundLetter ∈ v.phases, foundLetter = false

/-- The world gives quiet answers. -/
def quietly : ChoiceCondition retrying (webhookProcess config) :=
  fun v _ op outcome => quietAnswer v.world.now op outcome

theorem unfound_moves (v v' : View retrying (webhookProcess config)) (unfound : Unfound v)
    (moved : Decides quietly v v') : Unfound v' := by
  obtain ⟨unlettered, none_found⟩ := unfound
  cases moved with
  | calls new started =>
    refine ⟨unlettered, fun foundLetter member => ?_⟩
    rcases List.mem_append.mp member with old | isNew
    · exact none_found foundLetter old
    · obtain ⟨_, _, rfl⟩ := List.mem_map.mp isNew
      rfl
  | env mem change =>
    refine ⟨?_, none_found⟩
    cases change <;> exact ⟨unlettered.letters, unlettered.recreated⟩
  | reply i phase op choice world result found allowed responds condition =>
    obtain ⟨outcome, gave, quiet⟩ := condition
    obtain rfl := none_found phase (List.mem_of_getElem? found)
    obtain ⟨kept, stays⟩ := respond_unlettered unlettered allowed quiet gave
    refine ⟨kept, fun foundLetter member => ?_⟩
    rcases List.mem_or_eq_of_mem_set member with old | rfl
    · exact none_found foundLetter old
    · exact stays

theorem early_step {c after : Config (webhookProcess config)} {label : Label (webhookProcess config)}
    (early : Early c.world) (unfound : Unfound (view retrying c)) (keep : AllKeep retrying c)
    (quiet : Quiet c label) (stepped : next c label = some after) : Early after.world := by
  cases label with
  | reply i outcome =>
    obtain ⟨task, op, rest, world, result, found, waits, responds, rfl⟩ := next_reply stepped
    have follows := keep task (List.mem_of_getElem? found)
    rw [waits] at follows
    have fresh : phaseOf retrying task = false :=
      unfound.2 _ (List.mem_map_of_mem (List.mem_of_getElem? found))
    rw [fresh] at follows
    exact respond_early early follows.1 (quiet op (by simp [found, awaits, waits])) responds
  | env change =>
    cases stepped
    cases change with
    | tick ms => exact quiet
    | random value => exact early
    | subscribe row => exact early
    | unsubscribe id => exact early
  | call call =>
    obtain ⟨_, rfl⟩ := next_call stepped
    exact early
  | resume i =>
    obtain ⟨_, _, rfl⟩ := next_resume stepped
    exact early
  | fork i =>
    obtain ⟨_, _, _, _, _, _, rfl⟩ := next_fork stepped
    exact early
  | join i =>
    obtain ⟨_, _, _, _, _, _, rfl⟩ := next_join stepped
    exact early

end Steps

/-- In a run of any number of calls in which no dead letter is inserted and no time of a retry comes, the
right rows are returned for a retry, and every delivery that was created for a dead letter has a job. -/
theorem retries_protocol (config : WebhookConfig)
    (subscriptions : Table WebhookSubscription WebhookSubscription.id) (now : ℚ)
    (memory : WebhookMemory) (labels : List (Label (webhookProcess config))) (after : Config (webhookProcess config))
    (quiet : Admissible Quiet labels (Config.initial _ (unpublished subscriptions now) memory))
    (ran : run labels (Config.initial _ (unpublished subscriptions now) memory) = some after) :
    Retries after.world := by
  have kept := run_preserves
    (fun c : Config (webhookProcess config) =>
      Unfound (view retrying c) ∧ AllKeep retrying c ∧ Early c.world)
    (fun c label after holds quiet stepped => by
      obtain ⟨unfound, keep, early⟩ := holds
      have chosen : OnChoices quietly c label := by
        cases label with
        | reply i outcome => exact quiet
        | _ => trivial
      obtain ⟨moved, keeps⟩ := next_decides (webhooks_conform config) keep chosen stepped
      exact ⟨unfound_moves _ _ unfound moved, keeps, early_step early unfound keep quiet stepped⟩)
    labels _ after
    ⟨⟨⟨rfl, rfl⟩, List.forall_mem_nil _⟩, allKeep_initial _ _, fun _ member => by cases member⟩
    quiet ran
  exact retries_of_early kept.1.1 kept.2.2

instance (world : WebhookWorld) : Decidable (Retries world) :=
  decidable_of_iff' _ (retries_iff world)

/-- The sample with two attempts. -/
def patientStart : Config (webhookProcess sampleConfig) :=
  Config.initial _ (unpublished (Table.empty.save { sampleSubscription with maxRetries := 2 }) 0) ⟨0, 0⟩

/-- The delivery is processed up to the answer of its request. -/
def attempt (i status : Nat) : List (Label (webhookProcess sampleConfig)) :=
  [.call (.processDelivery "d"), .reply i (.done none), .reply i (.done none), .reply i (.done none),
    .reply i (.done none), .resume i, .reply i (.done none), .resume i,
    .reply i (.responded ⟨status, "", []⟩), .resume i, .resume i, .reply i (.done none)]

def returnedFor (c : Config (webhookProcess sampleConfig)) : List String :=
  c.world.pendingDeadLetters.map (·.deliveryId)

def letterRun : List (Label (webhookProcess sampleConfig)) :=
  publication ++ attempt 1 500 ++ [.reply 1 (.done none), .reply 1 (.created "l" none),
    .reply 1 (.done none)]

/-- The dead letter is retried as the delivery `f`. -/
def retryRun : List (Label (webhookProcess sampleConfig)) :=
  [.call (.retryDeadLetter "l"), .reply 2 (.done none), .reply 2 (.done none),
    .reply 2 (.created "f" none), .reply 2 (.done none)]

/-- A delivery that failed once is not returned when its time has come; one that is DEAD_LETTERED is
returned; and the one that is created for it gets no job. -/
theorem due_not_returned :
    (∃ after, run (publication ++ attempt 1 500 ++ [.env (.tick 1000)]) patientStart = some after ∧
      (∀ row ∈ after.world.deliveries.rows, Due after.world.now row) ∧
      after.world.deliveries.rows.map (·.id) = ["d"] ∧ returnedFor after = [] ∧
      ¬ Retries after.world) ∧
    (∃ after, run letterRun sampleStart = some after ∧
      after.world.deliveries.rows.map (·.status) = [.deadLettered] ∧ returnedFor after = ["d"] ∧
      ¬ Retries after.world) ∧
    ∃ after, run (letterRun ++ retryRun) sampleStart = some after ∧
      after.world.recreated = ["f"] ∧ after.world.jobs = [⟨"d", "e"⟩] ∧ ¬ Retries after.world := by
  refine ⟨?_, ?_, ?_⟩ <;> decide +kernel

/-- A delivery fails, waits and succeeds before the time of its retry. -/
theorem retried_in_time : ∃ after,
    run (publication ++ attempt 1 500 ++ [.env (.tick 999)] ++ attempt 2 200) patientStart =
      some after ∧ after.world.deliveries.rows.map (·.status) = [.success] ∧ Retries after.world := by
  obtain ⟨after, ran, succeeded⟩ : ∃ after,
      run (publication ++ attempt 1 500 ++ [.env (.tick 999)] ++ attempt 2 200) patientStart =
        some after ∧ after.world.deliveries.rows.map (·.status) = [.success] := by
    decide +kernel
  refine ⟨after, ran, succeeded, ?_⟩
  exact retries_protocol sampleConfig (Table.empty.save { sampleSubscription with maxRetries := 2 }) 0
    ⟨0, 0⟩ _ after (by decide +kernel) ran

end AlianStructure.Guarantees.WebhookRetries
