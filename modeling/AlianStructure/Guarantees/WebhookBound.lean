import Mathlib.Tactic.MkIffOfInductiveProp
import AlianStructure.Library.SeenInTurn
import AlianStructure.Source.Webhooks.WebhookDeliveryService

/-!
# The attempts of a delivery

Source: src/infrastructure/webhooks/services/webhook-delivery.service.ts:161-275. Processing does not
look at the status of the delivery, nor at its attempts before it sends a request: a repeated job sends
another request. A delivery has its bound when each processing of it begins while it is not closed and
has a request left.
-/
namespace AlianStructure.Guarantees.WebhookBound
open Library.AsyncMethod Library.Interleaving Library.CallsInTurn Library.SeenInTurn
open Library.KeyedTable
open Source Source.Webhooks WebhookDeliveryService

/-- The number of requests that were sent for a delivery. -/
def sent (store : WebhookStore) (id : String) : Nat :=
  (store.requests.filter fun request => decide (request.deliveryId = id)).length

/-- Every delivery has at most its maximum of requests, none after it was closed, and at most one dead
letter. -/
@[mk_iff]
structure Bounded (store : WebhookStore) : Prop where
  attempts : ∀ row ∈ store.deliveries.rows, sent store row.id ≤ row.maxAttempts
  onTime : ∀ request ∈ store.requests, request.afterClose = false
  letters : (store.deadLetters.rows.map (·.deliveryId)).Nodup

instance (store : WebhookStore) : Decidable (Bounded store) :=
  decidable_of_iff' _ (bounded_iff store)

/-- A delivery that is neither SUCCESS nor DEAD_LETTERED and has a request left. -/
def Open (store : WebhookStore) (row : WebhookDelivery) : Prop :=
  closes row.status = false ∧ sent store row.id < row.maxAttempts

instance (store : WebhookStore) (row : WebhookDelivery) : Decidable (Open store row) :=
  inferInstanceAs (Decidable (_ ∧ _))

/-- A delivery that is processed is open when its processing begins. -/
def Timely (store : WebhookStore) : WebhookCall → Prop
  | .processDelivery id => ∀ row ∈ store.deliveries.findOne id, Open store row
  | _ => True

instance (store : WebhookStore) : ∀ call, Decidable (Timely store call)
  | .processDelivery id =>
    inferInstanceAs (Decidable (∀ row ∈ store.deliveries.findOne id, Open store row))
  | .publishEvent _ | .getPendingRetries | .retryDeadLetter _ => isTrue trivial

/-- Any answer is possible. -/
def anyAnswer (config : WebhookConfig) : Fairness (webhookProcess config) := fun _ _ => True

instance (config : WebhookConfig) (op : WebhookOp) (outcome : WebhookOutcome) :
    Decidable (anyAnswer config op outcome) := isTrue trivial

/-- The tables that only calls change. -/
def storeOf (config : WebhookConfig) : Part (webhookProcess config) WebhookStore where
  seen state := state.1.toWebhookStore
  environment _ change := by cases change <;> rfl

abbrev EndsOn {α : Type} (config : WebhookConfig) (store : WebhookStore) (program : WebhookM α)
    (post : WebhookStore → Except Exception α → Prop) : Prop :=
  EndsFrom (storeOf config) (anyAnswer config) store program post

/-- The bound, with what is known of the requests, the closed deliveries and the dead letters. -/
structure Tracked (store : WebhookStore) : Prop extends Bounded store where
  known : ∀ request ∈ store.requests, request.deliveryId ∈ store.deliveries.rows.map (·.id)
  settled : ∀ id ∈ store.closed, ∃ row ∈ store.deliveries.rows, row.id = id ∧ closes row.status = true
  lettered : ∀ letter ∈ store.deadLetters.rows, letter.deliveryId ∈ store.closed

section Store
variable {store : WebhookStore} {world after : WebhookWorld}

theorem sent_zero {id : String} (tracked : Tracked store)
    (absent : id ∉ store.deliveries.rows.map (·.id)) : sent store id = 0 := by
  refine List.length_eq_zero_iff.mpr (List.filter_eq_nil_iff.mpr fun request member => ?_)
  have other : request.deliveryId ≠ id := fun same => absent (same ▸ tracked.known request member)
  simpa using other

/-- The row that is saved takes the place of one with the same maximum, open so far. -/
structure Replaces (store : WebhookStore) (row : WebhookDelivery) : Prop where
  opened : row.id ∉ store.closed
  present : ∃ old, store.deliveries.findOne row.id = some old ∧ old.maxAttempts = row.maxAttempts

theorem Tracked.saveDelivery {row : WebhookDelivery} (tracked : Tracked world.toWebhookStore)
    (replaces : Replaces world.toWebhookStore row) : Tracked (world.saveDelivery row).toWebhookStore := by
  obtain ⟨old, found, same⟩ := replaces.present
  have keys : (world.deliveries.save row).rows.map (·.id) = world.deliveries.rows.map (·.id) :=
    Table.save_keys (List.mem_map.mpr ⟨old, Table.findOne_mem found, Table.findOne_key found⟩)
  refine ⟨⟨?_, tracked.onTime, tracked.letters⟩, ?_, ?_, ?_⟩
  · intro saved member
    rcases Table.mem_save.mp member with rfl | ⟨kept, _⟩
    · have bound := tracked.attempts old (Table.findOne_mem found)
      rw [Table.findOne_key found, same] at bound
      exact bound
    · exact tracked.attempts saved kept
  · intro request member
    exact keys ▸ tracked.known request member
  · intro id closed
    have cases_of : id = row.id ∧ closes row.status = true ∨ id ∈ world.closed := by
      simp only [WebhookWorld.saveDelivery] at closed
      split at closed
      next closing => exact (List.mem_cons.mp closed).imp_left fun same => ⟨same, closing⟩
      next => exact Or.inr closed
    rcases cases_of with ⟨rfl, closing⟩ | before
    · exact ⟨row, Table.mem_save.mpr (Or.inl rfl), rfl, closing⟩
    · obtain ⟨other, member, named, isClosed⟩ := tracked.settled id before
      refine ⟨other, Table.mem_save.mpr (Or.inr ⟨member, fun equal => ?_⟩), named, isClosed⟩
      exact replaces.opened (equal ▸ named ▸ before)
  · intro letter member
    have before := tracked.lettered letter member
    simp only [WebhookWorld.saveDelivery]
    split
    next => exact List.mem_cons_of_mem _ before
    next => exact before

theorem Tracked.create {row : WebhookDelivery} {deadLetterId : Option String}
    (tracked : Tracked world.toWebhookStore) (fresh : world.deliveries.findOne row.id = none) :
    Tracked (world.create (world.deliveries.save row) row.id deadLetterId).toWebhookStore := by
  have rows : (world.deliveries.save row).rows = world.deliveries.rows ++ [row] :=
    Table.save_new fresh
  refine ⟨⟨?_, tracked.onTime, tracked.letters⟩, ?_, ?_, tracked.lettered⟩
  · intro other member
    rcases Table.mem_save.mp member with rfl | ⟨kept, _⟩
    · have none_sent := sent_zero tracked (Table.findOne_eq_none.mp fresh)
      exact none_sent.le.trans (Nat.zero_le _)
    · exact tracked.attempts other kept
  · intro request member
    have before := tracked.known request member
    simp only [WebhookWorld.create, rows, List.map_append]
    exact List.mem_append_left _ before
  · intro id closed
    obtain ⟨other, member, named, isClosed⟩ := tracked.settled id closed
    refine ⟨other, ?_, named, isClosed⟩
    simp only [WebhookWorld.create, rows]
    exact List.mem_append_left _ member

theorem sent_send (id other : String) : sent (world.send id).toWebhookStore other =
      sent world.toWebhookStore other + if id = other then 1 else 0 := by
  simp only [sent, WebhookWorld.send, List.filter_append, List.length_append]
  by_cases same : id = other <;> simp [same]

theorem Tracked.send {row : WebhookDelivery} (tracked : Tracked world.toWebhookStore)
    (replaces : Replaces world.toWebhookStore row) (left : sent world.toWebhookStore row.id < row.maxAttempts) :
    Tracked (world.send row.id).toWebhookStore := by
  obtain ⟨old, found, same⟩ := replaces.present
  refine ⟨⟨?_, ?_, tracked.letters⟩, ?_, tracked.settled, tracked.lettered⟩
  · intro other member
    rw [sent_send]
    split
    next equal =>
      have one : other = old :=
        Table.eq_of_key_eq member (Table.findOne_mem found)
          (equal.symm.trans (Table.findOne_key found).symm)
      rw [← equal, one, same]
      exact left
    next => exact tracked.attempts other member
  · intro request member
    rcases List.mem_append.mp member with before | now
    · exact tracked.onTime request before
    · rw [List.mem_singleton.mp now]
      simpa using replaces.opened
  · intro request member
    rcases List.mem_append.mp member with before | now
    · exact tracked.known request before
    · rw [List.mem_singleton.mp now]
      exact List.mem_map.mpr ⟨old, Table.findOne_mem found, Table.findOne_key found⟩

theorem Tracked.letter {row : WebhookDeadLetter} (tracked : Tracked store)
    (fresh : store.deadLetters.findOne row.id = none) (closed : row.deliveryId ∈ store.closed)
    (first : ∀ letter ∈ store.deadLetters.rows, letter.deliveryId ≠ row.deliveryId) :
    Tracked { store with deadLetters := store.deadLetters.save row } := by
  have rows : (store.deadLetters.save row).rows = store.deadLetters.rows ++ [row] :=
    Table.save_new fresh
  refine ⟨⟨tracked.attempts, tracked.onTime, ?_⟩, tracked.known, tracked.settled, ?_⟩
  · simp only [rows, List.map_append, List.map_singleton]
    refine List.nodup_append.mpr ⟨tracked.letters, List.nodup_singleton _, ?_⟩
    intro named member other isOther
    obtain ⟨letter, listed, rfl⟩ := List.mem_map.mp member
    rw [List.mem_singleton.mp isOther]
    exact first letter listed
  · intro letter member
    rcases Table.mem_save.mp member with rfl | ⟨kept, _⟩
    · exact closed
    · exact tracked.lettered letter kept

/-- The operations that change neither a delivery nor a dead letter that exists. -/
def sparing : WebhookOp → Prop
  | .saveDelivery _ | .insertDeadLetter _ | .saveDeadLetter _ | .post _ _ => False
  | _ => True

/-- The operations that change neither the deliveries nor the dead letters. -/
def reading : WebhookOp → Prop
  | .insertDelivery _ _ => False
  | op => sparing op
theorem Tracked.apart (tracked : Tracked store) (events : Table WebhookEvent WebhookEvent.id)
    (jobs : List DeliveryJob) : Tracked { store with events, jobs } :=
  ⟨⟨tracked.attempts, tracked.onTime, tracked.letters⟩, tracked.known, tracked.settled,
    tracked.lettered⟩

variable {op : WebhookOp}

theorem respond_reads {outcome : WebhookOutcome} {result : Except Exception op.Reply} (isReading : reading op)
    (responds : world.respond op outcome = some (after, result)) : after.toWebhookStore =
      { world.toWebhookStore with events := after.events, jobs := after.jobs } := by
  unfold WebhookWorld.respond at responds
  split at responds
  case h_2 | h_3 | h_11 | h_13 | h_15 | h_16 => exact isReading.elim
  case h_7 =>
    simp only [WebhookWorld.inserted] at responds
    split at responds
    next =>
      cases responds
      rfl
    next => cases responds
  case h_19 => cases responds
  all_goals
    cases responds
    rfl

theorem respond_spares {outcome : WebhookOutcome} {result : Except Exception op.Reply}
    (isSparing : sparing op) (tracked : Tracked world.toWebhookStore)
    (responds : world.respond op outcome = some (after, result)) : Tracked after.toWebhookStore := by
  by_cases isReading : reading op
  · rw [respond_reads isReading responds]
    exact tracked.apart _ _
  · cases op with
    | insertDelivery row deadLetterId =>
      cases outcome with
      | created id lost =>
        simp only [WebhookWorld.respond, WebhookWorld.inserted] at responds
        split at responds
        next fresh =>
          cases responds
          exact tracked.create fresh
        next => cases responds
      | fails failure =>
        cases responds
        exact tracked
      | _ => cases responds
    | _ => exact absurd isSparing isReading
end Store

/-! ## Programs that neither send nor close -/

/-- A program that keeps the bound. -/
abbrev Spares {α : Type} (config : WebhookConfig) (program : WebhookM α) : Prop :=
  Preserves (storeOf config) (anyAnswer config) Tracked program

section Methods
variable {config : WebhookConfig} {store : WebhookStore} {α : Type}

theorem spares_ask (isSparing : sparing op) : Spares config (ask op) :=
  fun store tracked => endsFrom_perform fun state outcome after result here _ responds => by
    subst here
    exact respond_spares isSparing tracked responds

theorem createDeliveries_spares {event : WebhookEvent} :
    ∀ subscriptions : List WebhookSubscription, Spares config (createDeliveries event subscriptions)
  | [] => preserves_pure
  | _ :: subscriptions => preserves_bind (spares_ask trivial) fun _ =>
      preserves_bind (createDeliveries_spares subscriptions) fun _ => preserves_pure

theorem enqueueEach_spares {eventId : String} :
    ∀ deliveries : List WebhookDelivery, Spares config (WebhookEventService.enqueueEach eventId deliveries)
  | [] => preserves_pure
  | _ :: deliveries => preserves_bind (spares_ask trivial) fun _ => enqueueEach_spares deliveries

theorem publishEvent_spares {dto : PublishWebhookEventDto} :
    Spares config (WebhookEventService.publishEvent dto) := by
  refine preserves_bind (spares_ask trivial) fun saved => ?_
  refine preserves_bind (preserves_bind (spares_ask trivial) fun _ => preserves_pure) fun subscribers => ?_
  split
  next => exact preserves_bind (spares_ask trivial) fun _ => preserves_pure
  next =>
    exact preserves_bind (createDeliveries_spares _) fun _ => preserves_bind (enqueueEach_spares _) fun _ =>
      preserves_bind (spares_ask trivial) fun _ => preserves_pure

/-! ## Dead letters -/

/-- The dead letter that is in the table under its id. -/
def Stored (letter : WebhookDeadLetter) (store : WebhookStore) : Prop :=
  Tracked store ∧ store.deadLetters.findOne letter.id = some letter

theorem ask_reads {holds : WebhookStore → Prop} (isReading : reading op)
    (apart : ∀ store events jobs, holds store → holds { store with events, jobs }) (here : holds store) :
    EndsOn config store (ask op) fun after _ => holds after :=
  endsFrom_perform fun state outcome after result seen _ responds => by
    subst seen
    show holds after.toWebhookStore
    rw [respond_reads isReading responds]
    exact apart _ _ _ here

theorem saveDeadLetter_ends {letter changed : WebhookDeadLetter} (stored : Stored letter store)
    (sameId : changed.id = letter.id) (sameDelivery : changed.deliveryId = letter.deliveryId) :
    EndsOn config store (ask (.saveDeadLetter changed)) fun after _ => Tracked after := by
  obtain ⟨tracked, found⟩ := stored
  refine endsFrom_perform fun state outcome after result here _ responds => ?_
  subst here
  cases outcome with
  | done lost =>
    cases responds
    have letters := Table.map_save (f := WebhookDeadLetter.deliveryId) (sameId ▸ found) sameDelivery
    refine ⟨⟨tracked.attempts, tracked.onTime, ?_⟩, tracked.known, tracked.settled, ?_⟩
    · exact letters ▸ tracked.letters
    · intro other member
      obtain ⟨old, listed, same⟩ :=
        List.mem_map.mp (letters ▸ List.mem_map_of_mem (f := WebhookDeadLetter.deliveryId) member)
      exact same ▸ tracked.lettered old listed
  | fails failure =>
    cases responds
    exact tracked
  | _ => cases responds

variable {subscription : WebhookSubscription}

theorem requeue_ends {letter : WebhookDeadLetter} (stored : Stored letter store) :
    EndsOn config store (requeue letter subscription) fun after _ => Tracked after := by
  have created : EndsOn config store (ask (.insertDelivery
      (newDelivery letter.subscriptionId letter.eventId subscription.maxRetries) (some letter.id)))
      fun after _ => Stored letter after := by
    refine endsFrom_perform fun state outcome after result here _ responds => ?_
    subst here
    have isSparing : sparing (.insertDelivery (newDelivery letter.subscriptionId letter.eventId
      subscription.maxRetries) (some letter.id)) := trivial
    refine ⟨respond_spares isSparing stored.1 responds, ?_⟩
    cases outcome with
    | created id lost =>
      simp only [WebhookWorld.respond, WebhookWorld.inserted] at responds
      split at responds
      next =>
        cases responds
        exact stored.2
      next => cases responds
    | fails failure =>
      cases responds
      exact stored.2
    | _ => cases responds
  refine endsFrom_bind created (fun after saved stored => ?_) fun _ _ stored => stored.1
  refine endsFrom_bind (saveDeadLetter_ends stored rfl rfl) (fun after _ tracked => ?_)
    fun _ _ tracked => tracked
  exact endsFrom_pure tracked

theorem retryDeadLetter_ends {id : String} : Spares config (retryDeadLetter id) := by
  intro store tracked
  have found : EndsOn config store (ask (.findDeadLetter id)) fun after result =>
      Tracked after ∧ ∀ letter, result = .ok (some letter) →
        after.deadLetters.findOne id = some letter := by
    refine endsFrom_perform fun state outcome after result here _ responds => ?_
    subst here
    cases outcome with
    | done lost =>
      cases responds
      exact ⟨tracked, fun letter isOk => Except.ok.inj isOk⟩
    | fails failure =>
      cases responds
      exact ⟨tracked, fun letter isOk => by cases isOk⟩
    | _ => cases responds
  refine endsFrom_bind found (fun after result ended => ?_) fun _ _ ended => ended.1
  cases result with
  | none => exact endsFrom_pure ended.1
  | some letter =>
    have listed := ended.2 letter rfl
    have stored : Stored letter after := ⟨ended.1, (Table.findOne_key listed).symm ▸ listed⟩
    dsimp only
    split
    next => exact endsFrom_pure ended.1
    next =>
      have asked : EndsOn config after (ask (.findSubscription letter.subscriptionId))
          fun after _ => Stored letter after :=
        ask_reads trivial (fun _ _ _ stored => ⟨stored.1.apart _ _, stored.2⟩) stored
      refine endsFrom_bind asked (fun after subscription stored => ?_) fun _ _ stored => stored.1
      cases subscription with
      | none => exact endsFrom_pure stored.1
      | some subscription =>
        dsimp only
        split
        next => exact requeue_ends stored
        next => exact endsFrom_pure stored.1

/-! ## The processing of a delivery -/

/-- A delivery under way: the row in the table has its maximum, and it has not been closed. -/
def UnderWay (delivery : WebhookDelivery) (store : WebhookStore) : Prop :=
  Tracked store ∧ Replaces store delivery

variable {delivery : WebhookDelivery}

theorem UnderWay.apart (underWay : UnderWay delivery store) (events : Table WebhookEvent WebhookEvent.id)
    (jobs : List DeliveryJob) : UnderWay delivery { store with events, jobs } :=
  ⟨underWay.1.apart events jobs, underWay.2.opened, underWay.2.present⟩

theorem UnderWay.same {delivery other : WebhookDelivery} (underWay : UnderWay delivery store)
    (sameId : other.id = delivery.id) (sameMax : other.maxAttempts = delivery.maxAttempts) :
    UnderWay other store := by
  refine ⟨underWay.1, sameId ▸ underWay.2.opened, ?_⟩
  rw [sameId, sameMax]
  exact underWay.2.present

theorem saveDelivery_ends (underWay : UnderWay delivery store) :
    EndsOn config store (ask (.saveDelivery delivery)) fun after _ =>
      Tracked after ∧ (closes delivery.status = false → UnderWay delivery after ∧
        sent after delivery.id = sent store delivery.id) := by
  obtain ⟨tracked, replaces⟩ := underWay
  refine endsFrom_perform fun state outcome after result here _ responds => ?_
  subst here
  cases outcome with
  | done lost =>
    cases responds
    have saved := tracked.saveDelivery replaces
    refine ⟨saved, fun notClosing => ⟨⟨saved, ?_, delivery, ?_, rfl⟩, rfl⟩⟩
    · simp only [WebhookWorld.saveDelivery, notClosing]
      exact replaces.opened
    · exact Table.findOne_save_self state.1.deliveries delivery
  | fails failure =>
    cases responds
    exact ⟨tracked, fun _ => ⟨⟨tracked, replaces⟩, rfl⟩⟩
  | _ => cases responds

theorem post_ends {request : HttpRequest} (underWay : UnderWay delivery store)
    (left : sent store delivery.id < delivery.maxAttempts) :
    EndsOn config store (ask (.post delivery.id request)) fun after _ => UnderWay delivery after := by
  obtain ⟨tracked, replaces⟩ := underWay
  refine endsFrom_perform fun state outcome after result here _ responds => ?_
  subst here
  cases outcome with
  | responded response =>
    cases responds
    exact ⟨tracked.send replaces left, replaces.opened, replaces.present⟩
  | timedOut failure =>
    cases responds
    exact ⟨tracked.send replaces left, replaces.opened, replaces.present⟩
  | fails failure =>
    cases responds
    exact ⟨tracked, replaces⟩
  | _ => cases responds

theorem clock_keeps {before : WebhookStore} (here : store = before) :
    EndsOn config store clock fun after _ => after = before :=
  preserves_bind (preserves_memory) (fun _ => preserves_pure) store here

/-- What an attempt leaves: a delivery that can be saved. -/
def Executed (store : WebhookStore) : Except Exception (DeliveryResult × WebhookDelivery) → Prop
  | .ok executed => UnderWay executed.2 store
  | .error _ => Tracked store

theorem sendRequest_ends {event : WebhookEvent} (underWay : UnderWay delivery store)
    (left : sent store delivery.id < delivery.maxAttempts) :
    EndsOn config store (sendRequest config delivery subscription event) Executed := by
  refine endsFrom_bind (clock_keeps rfl) (fun after now here => ?_) fun _ _ here => here ▸ underWay.1
  subst here
  extract_lets payload headers delivering timeout
  have asked : UnderWay delivering after := underWay.same rfl rfl
  refine endsFrom_bind (saveDelivery_ends asked) (fun saving _ saved => ?_) fun _ _ saved => saved.1
  obtain ⟨open_, same⟩ := saved.2 rfl
  refine endsFrom_bind (clock_keeps rfl) (fun final start here => ?_) fun _ _ here => here ▸ saved.1
  subst here
  have posted : EndsOn config final
      (ask (.post delivering.id ⟨subscription.url, payload, headers, timeout⟩)).outcome
      fun after _ => UnderWay delivering after :=
    fun state here => ends_outcome (post_ends open_ (same.trans_lt left) state here)
  refine endsFrom_bind posted (fun after answer underWay => ?_) fun _ _ underWay => underWay.1
  refine endsFrom_bind (clock_keeps rfl) (fun last stop here => ?_) fun _ _ here => here ▸ underWay.1
  subst here
  exact endsFrom_pure underWay

theorem executeDelivery_ends (underWay : UnderWay delivery store)
    (left : sent store delivery.id < delivery.maxAttempts) :
    EndsOn config store (executeDelivery config delivery) Executed := by
  have reads : ∀ {op : WebhookOp} {store : WebhookStore}, reading op →
      UnderWay delivery store ∧ sent store delivery.id < delivery.maxAttempts →
      EndsOn config store (ask op) fun after _ =>
        UnderWay delivery after ∧ sent after delivery.id < delivery.maxAttempts :=
    fun isReading here => ask_reads isReading (fun _ _ _ here => ⟨here.1.apart _ _, here.2⟩) here
  refine endsFrom_bind (reads trivial ⟨underWay, left⟩) (fun after subscription here => ?_)
    fun _ _ here => here.1.1
  refine endsFrom_bind (reads trivial here) (fun final event here => ?_) fun _ _ here => here.1.1
  split
  next => exact sendRequest_ends here.1 here.2
  next => exact endsFrom_pure here.1

theorem succeed_ends (underWay : UnderWay delivery store) :
    EndsOn config store (succeed delivery) fun after _ => Tracked after := by
  refine endsFrom_bind (saveDelivery_ends underWay) (fun after _ saved => ?_) fun _ _ saved => saved.1
  have counted : Spares config (ask (.addSuccess delivery.eventId)) := spares_ask trivial
  exact preserves_bind counted (fun _ => preserves_pure) after saved.1

theorem scheduleRetry_ends (underWay : UnderWay delivery store) :
    EndsOn config store (scheduleRetry delivery subscription) fun after _ => Tracked after := by
  have read : EndsOn config store Async.memory fun after _ => UnderWay delivery after :=
    preserves_memory store underWay
  refine endsFrom_bind read (fun after memory underWay => ?_) fun _ _ underWay => underWay.1
  extract_lets delay failed
  have asked : UnderWay failed after := underWay.same rfl rfl
  refine endsFrom_bind (saveDelivery_ends asked) (fun final _ saved => ?_) fun _ _ saved => saved.1
  exact endsFrom_pure saved.1

/-- A closed delivery that has no dead letter. -/
def Unlettered (id : String) (store : WebhookStore) : Prop :=
  Tracked store ∧ id ∈ store.closed ∧ ∀ letter ∈ store.deadLetters.rows, letter.deliveryId ≠ id

theorem close_ends (underWay : UnderWay delivery store) (closing : closes delivery.status = true) :
    EndsOn config store (ask (.saveDelivery delivery)) fun after result =>
      Tracked after ∧ ∀ value, result = .ok value → Unlettered delivery.id after := by
  obtain ⟨tracked, replaces⟩ := underWay
  refine endsFrom_perform fun state outcome after result here _ responds => ?_
  subst here
  cases outcome with
  | done lost =>
    cases responds
    have saved := tracked.saveDelivery replaces
    refine ⟨saved, fun _ _ => ⟨saved, ?_, fun letter member same => ?_⟩⟩
    · simp only [WebhookWorld.saveDelivery, closing]
      exact List.mem_cons_self
    · exact replaces.opened (same ▸ tracked.lettered letter member)
  | fails failure =>
    cases responds
    exact ⟨tracked, fun _ isOk => by cases isOk⟩
  | _ => cases responds

theorem insertDeadLetter_ends {letter : WebhookDeadLetter} (first : Unlettered letter.deliveryId store) :
    EndsOn config store (ask (.insertDeadLetter letter)) fun after _ => Tracked after := by
  obtain ⟨tracked, closed, unlettered⟩ := first
  refine endsFrom_perform fun state outcome after result here _ responds => ?_
  subst here
  cases outcome with
  | created id lost =>
    simp only [WebhookWorld.respond, WebhookWorld.inserted] at responds
    split at responds
    next fresh =>
      cases responds
      exact tracked.letter fresh closed unlettered
    next => cases responds
  | fails failure =>
    cases responds
    exact tracked
  | _ => cases responds

theorem deadLetter_ends {result : DeliveryResult} (underWay : UnderWay delivery store) :
    EndsOn config store (deadLetter delivery subscription result) fun after _ => Tracked after := by
  unfold deadLetter
  extract_lets closed
  have asked : UnderWay closed store := underWay.same rfl rfl
  refine endsFrom_bind (close_ends asked rfl) (fun after saved ended => ?_) fun _ _ ended => ended.1
  have read : EndsOn config after (ask (.findEvent closed.eventId))
      fun after _ => Unlettered closed.id after :=
    ask_reads trivial (fun _ _ _ here => ⟨here.1.apart _ _, here.2⟩) (ended.2 saved rfl)
  refine endsFrom_bind read (fun after event first => ?_) fun _ _ first => first.1
  refine endsFrom_bind (insertDeadLetter_ends first) (fun after _ tracked => ?_)
    fun _ _ tracked => tracked
  have counted : Spares config (ask (.addFailure closed.eventId)) := spares_ask trivial
  exact preserves_bind counted (fun _ => preserves_pure) after tracked

theorem recordResult_ends {result : DeliveryResult} (underWay : UnderWay delivery store) :
    EndsOn config store (recordResult delivery subscription result) fun after _ => Tracked after := by
  refine endsFrom_bind (clock_keeps rfl) (fun after now here => ?_) fun _ _ here => here ▸ underWay.1
  subst here
  extract_lets attempts failed
  split
  next => exact succeed_ends (underWay.same rfl rfl)
  next =>
    have changed : UnderWay failed after := underWay.same rfl rfl
    split
    next => exact deadLetter_ends changed
    next => exact scheduleRetry_ends changed

theorem processDelivery_ends {id : String} (tracked : Tracked store) (timely : Timely store (.processDelivery id)) :
    EndsOn config store (processDelivery config id) fun after _ => Tracked after := by
  have found : EndsOn config store (ask (.findDelivery id)) fun after result =>
      after = store ∧ ∀ row, result = .ok (some row) → store.deliveries.findOne id = some row := by
    refine endsFrom_perform fun state outcome after result here _ responds => ?_
    subst here
    cases outcome with
    | done lost =>
      cases responds
      exact ⟨rfl, fun row isOk => Except.ok.inj isOk⟩
    | fails failure =>
      cases responds
      exact ⟨rfl, fun row isOk => by cases isOk⟩
    | _ => cases responds
  refine endsFrom_bind found (fun after result ended => ?_) fun _ _ ended => ended.1 ▸ tracked
  obtain ⟨rfl, known⟩ := ended
  cases result with
  | none => exact endsFrom_throw tracked
  | some delivery =>
    have listed := known delivery rfl
    have named := Table.findOne_key listed
    obtain ⟨status, left⟩ := timely delivery listed
    have opened : delivery.id ∉ after.closed := fun closed => by
      obtain ⟨row, member, same, isClosed⟩ := tracked.settled delivery.id closed
      have one := Table.eq_of_key_eq member (Table.findOne_mem listed) same
      rw [one, status] at isClosed
      cases isClosed
    have underWay : UnderWay delivery after :=
      ⟨tracked, opened, delivery, named.symm ▸ listed, rfl⟩
    have asked : EndsOn config after (ask (.findSubscription delivery.subscriptionId))
        fun after _ => UnderWay delivery after ∧ sent after delivery.id < delivery.maxAttempts :=
      ask_reads trivial (fun _ _ _ here => ⟨here.1.apart _ _, here.2⟩) ⟨underWay, left⟩
    refine endsFrom_bind asked (fun final subscription here => ?_) fun _ _ here => here.1.1
    cases subscription with
    | none => exact endsFrom_throw here.1.1
    | some subscription =>
      refine endsFrom_bind (executeDelivery_ends here.1 here.2) (fun last executed underWay => ?_)
        fun _ _ tracked => tracked
      exact recordResult_ends underWay

end Methods

theorem body_keeps (config : WebhookConfig) (state : State (webhookProcess config)) (call : WebhookCall)
    (tracked : Tracked state.1.toWebhookStore) (timely : Timely state.1.toWebhookStore call) :
    Ends (webhookProcess config) (anyAnswer config) state (webhookBody config call)
      fun after _ => Tracked after.1.toWebhookStore := by
  have keeps : EndsOn config state.1.toWebhookStore (webhookBody config call)
      fun after _ => Tracked after := by
    cases call with
    | publishEvent dto => exact preserves_bind publishEvent_spares (fun _ => preserves_pure) _ tracked
    | processDelivery id =>
      exact endsFrom_bind (processDelivery_ends tracked timely)
        (fun _ _ tracked => endsFrom_pure tracked) fun _ _ tracked => tracked
    | getPendingRetries =>
      have read : Spares config getPendingRetries := spares_ask trivial
      exact preserves_bind read (fun _ => preserves_pure) _ tracked
    | retryDeadLetter id => exact preserves_bind retryDeadLetter_ends (fun _ => preserves_pure) _ tracked
  exact keeps state rfl

theorem operations_fail (config : WebhookConfig) (world : WebhookWorld) (op : WebhookOp) :
    ∃ choice failure, anyAnswer config op choice ∧
      (webhookProcess config).respond world op choice = some (world, .error failure) := by
  refine ⟨.fails (.error "failed"), .error "failed", trivial, ?_⟩
  cases op <;> rfl

/-- Subscriptions for which nothing has been published. -/
def unpublished (subscriptions : Table WebhookSubscription WebhookSubscription.id) (now : ℚ) :
    WebhookWorld where
  deliveries := .empty
  deadLetters := .empty
  events := .empty
  jobs := []
  requests := []
  closed := []
  recreated := []
  now := now
  subscriptions := subscriptions

/-- In a run of calls in turn in which every delivery that is processed is open, every delivery has at
most its maximum of requests, none after it was closed, and at most one dead letter. -/
theorem deliveries_bounded (config : WebhookConfig)
    (subscriptions : Table WebhookSubscription WebhookSubscription.id) (now : ℚ)
    (memory : WebhookMemory) (labels : List (Label (webhookProcess config))) (after : Config (webhookProcess config))
    (timely : Admissible (InTurn (anyAnswer config) fun state call => Timely state.1.toWebhookStore call)
      labels (Config.initial _ (unpublished subscriptions now) memory))
    (ran : run labels (Config.initial _ (unpublished subscriptions now) memory) = some after) :
    Bounded after.world.toWebhookStore := by
  have start : Tracked (unpublished subscriptions now).toWebhookStore :=
    ⟨⟨List.forall_mem_nil _, List.forall_mem_nil _, List.nodup_nil⟩, List.forall_mem_nil _,
      List.forall_mem_nil _, List.forall_mem_nil _⟩
  have orderly : Orderly (anyAnswer config) (fun state => Tracked state.1.toWebhookStore)
      (Config.initial (webhookProcess config) (unpublished subscriptions now) memory) :=
    Or.inl ⟨rfl, start⟩
  have later := orderly.run (fun state change tracked => (storeOf config).stable Tracked state change tracked)
    (fun state call _ tracked timely => body_keeps config state call tracked timely) timely ran
  have tracked := Orderly.throughout (S := webhookProcess config)
    (fun world => Tracked world.toWebhookStore) (operations_fail config) later
  exact tracked.toBounded

def sampleConfig : WebhookConfig := ⟨fun _ => "", fun _ _ _ _ headers => headers⟩

def sampleSubscription : WebhookSubscription where
  id := "s"
  userId := "u"
  url := "https://example.org"
  signingKey := "k"
  events := ["*"]
  status := .active
  maxRetries := 1
  retryDelayMs := 1000
  backoffMultiplier := 2
  timeoutMs := 0
  headers := []

def sampleStart : Config (webhookProcess sampleConfig) :=
  Config.initial _ (unpublished (Table.empty.save sampleSubscription) 0) ⟨0, 0⟩

/-- An event is published to the subscription: delivery `d` of event `e`. -/
def publication : List (Label (webhookProcess sampleConfig)) :=
  [.call (.publishEvent ⟨"t", "p", none, none⟩), .reply 0 (.created "e" none), .reply 0 (.done none),
    .reply 0 (.created "d" none), .reply 0 (.done none), .reply 0 (.done none)]

/-- The delivery is processed, and the request is refused. -/
def refusal (i : Nat) (letter : String) : List (Label (webhookProcess sampleConfig)) :=
  [.call (.processDelivery "d"), .reply i (.done none), .reply i (.done none), .reply i (.done none),
    .reply i (.done none), .resume i, .reply i (.done none), .resume i,
    .reply i (.responded ⟨500, "", []⟩), .resume i, .reply i (.done none), .reply i (.done none),
    .reply i (.created letter none), .reply i (.done none)]

/-- A job that comes twice: two requests for one attempt, the second one after the delivery was dead
lettered, and two dead letters. -/
theorem job_processed_again : ∃ after,
    run (publication ++ refusal 1 "l" ++ refusal 2 "m") sampleStart = some after ∧
      Admissible (InTurn (anyAnswer sampleConfig) fun _ _ => True)
        (publication ++ refusal 1 "l" ++ refusal 2 "m") sampleStart ∧
      after.world.deliveries.rows.map (·.maxAttempts) = [1] ∧
      after.world.requests = [⟨"d", false⟩, ⟨"d", true⟩] ∧
      after.world.deadLetters.rows.map (·.deliveryId) = ["d", "d"] ∧
      ¬ Bounded after.world.toWebhookStore := by
  decide +kernel

/-- A job that comes once. -/
theorem job_processed_once : ∃ after, run (publication ++ refusal 1 "l") sampleStart = some after ∧
    after.world.requests = [⟨"d", false⟩] ∧ Bounded after.world.toWebhookStore := by
  obtain ⟨after, ran, requests⟩ : ∃ after,
      run (publication ++ refusal 1 "l") sampleStart = some after ∧
        after.world.requests = [⟨"d", false⟩] := by
    decide +kernel
  exact ⟨after, ran, requests, deliveries_bounded sampleConfig (Table.empty.save sampleSubscription) 0
    ⟨0, 0⟩ _ after (by decide +kernel) ran⟩

end AlianStructure.Guarantees.WebhookBound
