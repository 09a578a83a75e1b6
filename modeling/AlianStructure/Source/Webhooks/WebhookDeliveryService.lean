import Mathlib.Algebra.Order.Ring.Rat
import AlianStructure.Library.Interleaving
import AlianStructure.Library.KeyedTable
import AlianStructure.Source.Exception

/-!
# Webhook deliveries

Source: src/infrastructure/webhooks/services/webhook-delivery.service.ts:60-346,
webhook-event.service.ts:31-100 and the entities. Times are epoch milliseconds, the duration of a
random delay is exact. The JSON text of a payload and its signed headers are parameters. Of the
metadata of a delivery only the attempts are kept.
-/
namespace AlianStructure.Source.Webhooks
open Library.AsyncMethod Library.Interleaving Library.KeyedTable

/-! ## Rows -/

inductive WebhookDeliveryStatus where
  | pending | delivering | success | failed | deadLettered
  deriving DecidableEq

abbrev Headers := List (String × String)

structure DeliveryAttempt where
  attempt : Nat
  statusCode : Option Nat
  error : Option String
  durationMs : ℚ
  timestamp : ℚ
  deriving DecidableEq

structure WebhookDelivery where
  id : String
  subscriptionId : String
  eventId : String
  status : WebhookDeliveryStatus
  attempts : Nat
  maxAttempts : Nat
  statusCode : Option Nat
  responseBody : Option String
  errorMessage : Option String
  durationMs : ℚ
  lastAttemptAt : Option ℚ
  nextRetryAt : Option ℚ
  deliveredAt : Option ℚ
  requestHeaders : Option Headers
  responseHeaders : Option Headers
  allAttempts : List DeliveryAttempt
  deriving DecidableEq

structure WebhookDeadLetter where
  id : String
  deliveryId : String
  subscriptionId : String
  eventId : String
  url : String
  eventPayload : Option String
  requestHeaders : Headers
  lastStatusCode : Option Nat
  lastErrorMessage : Option String
  totalAttempts : Nat
  userId : String
  allAttempts : List DeliveryAttempt
  retried : Bool
  createdAt : ℚ
  deriving DecidableEq

inductive WebhookSubscriptionStatus where
  | active | paused | disabled
  deriving DecidableEq

structure WebhookSubscription where
  id : String
  userId : String
  url : String
  signingKey : String
  events : List String
  status : WebhookSubscriptionStatus
  maxRetries : Nat
  retryDelayMs : ℚ
  backoffMultiplier : ℚ
  timeoutMs : Nat
  headers : Headers
  deriving DecidableEq

inductive WebhookEventStatus where
  | pending | delivering | delivered | failed
  deriving DecidableEq

structure WebhookEvent where
  id : String
  eventType : String
  payload : String
  aggregateId : Option String
  status : WebhookEventStatus
  deliveryCount : Nat
  successCount : Nat
  failureCount : Nat
  metadata : Option String
  deriving DecidableEq

/-! ## Operations -/

structure PublishWebhookEventDto where
  eventType : String
  payload : String
  aggregateId : Option String
  metadata : Option String
  deriving DecidableEq

/-- The body of a request. -/
structure WebhookPayload where
  id : String
  type : String
  aggregateId : Option String
  data : String
  timestamp : ℚ
  attempt : Nat
  deriving DecidableEq

structure HttpRequest where
  url : String
  payload : String
  headers : Headers
  timeout : Nat
  deriving DecidableEq

structure HttpResponse where
  status : Nat
  data : String
  headers : Headers
  deriving DecidableEq

structure DeliveryResult where
  statusCode : Option Nat
  responseBody : Option String
  durationMs : ℚ
  error : Option String
  responseHeaders : Option Headers
  deriving DecidableEq

/-- A request is marked with the delivery for which it is made, a new delivery with the dead letter for
which it is created. -/
inductive WebhookOp where
  | findDelivery (id : String)
  | saveDelivery (row : WebhookDelivery)
  | insertDelivery (row : WebhookDelivery) (deadLetterId : Option String)
  | findSubscription (id : String)
  | findActiveSubscriptions
  | findEvent (id : String)
  | insertEvent (row : WebhookEvent)
  | saveEvent (row : WebhookEvent)
  | addSuccess (eventId : String)
  | addFailure (eventId : String)
  | insertDeadLetter (row : WebhookDeadLetter)
  | findDeadLetter (id : String)
  | saveDeadLetter (row : WebhookDeadLetter)
  | findPendingDeadLetters
  | post (deliveryId : String) (request : HttpRequest)
  | addJob (deliveryId eventId : String)

abbrev WebhookOp.Reply : WebhookOp → Type
  | .findDelivery _ => Option WebhookDelivery
  | .insertDelivery _ _ => WebhookDelivery
  | .findSubscription _ => Option WebhookSubscription
  | .findActiveSubscriptions => List WebhookSubscription
  | .findEvent _ => Option WebhookEvent
  | .insertEvent _ => WebhookEvent
  | .findDeadLetter _ => Option WebhookDeadLetter
  | .findPendingDeadLetters => List WebhookDeadLetter
  | .post _ _ => HttpResponse
  | .saveDelivery _ | .saveEvent _ | .addSuccess _ | .addFailure _ | .insertDeadLetter _
  | .saveDeadLetter _ | .addJob _ _ => Unit

/-- The clock, and the next random number. -/
structure WebhookMemory where
  now : ℚ
  random : ℚ

inductive WebhookCall where
  | publishEvent (dto : PublishWebhookEventDto)
  | processDelivery (deliveryId : String)
  | getPendingRetries
  | retryDeadLetter (deadLetterId : String)

inductive WebhookValue where
  | event (row : WebhookEvent)
  | delivery (row : WebhookDelivery)
  | requeued (row : Option WebhookDelivery)
  | deadLetters (rows : List WebhookDeadLetter)

abbrev webhooks : Runtime where
  Op := WebhookOp
  Reply := WebhookOp.Reply
  Mem := WebhookMemory
  Err := Exception
  Call := WebhookCall
  Val := WebhookValue

abbrev WebhookM := Async webhooks

structure WebhookConfig where
  stringify : WebhookPayload → String
  buildSignedHeaders : String → String → String → String → Headers → Headers

namespace WebhookDeliveryService

def ask (op : WebhookOp) : WebhookM op.Reply := Async.perform (R := webhooks) op

def clock : WebhookM ℚ := do
  let memory ← Async.memory
  pure memory.now

def newDelivery (subscriptionId eventId : String) (maxAttempts : Nat) : WebhookDelivery where
  id := ""
  subscriptionId := subscriptionId
  eventId := eventId
  status := .pending
  attempts := 0
  maxAttempts := maxAttempts
  statusCode := none
  responseBody := none
  errorMessage := none
  durationMs := 0
  lastAttemptAt := none
  nextRetryAt := none
  deliveredAt := none
  requestHeaders := none
  responseHeaders := none
  allAttempts := []

def createDeliveries (event : WebhookEvent) : List WebhookSubscription → WebhookM (List WebhookDelivery)
  | [] => pure []
  | sub :: subscriptions => do
    let saved ← ask (.insertDelivery (newDelivery sub.id event.id sub.maxRetries) none)
    let rest ← createDeliveries event subscriptions
    pure (saved :: rest)

def isSuccess (statusCode : Nat) : Bool := decide (200 ≤ statusCode) && decide (statusCode < 300)

/-- The result of a request that was answered, or of one that was not. -/
def resultOf (answer : Except Exception HttpResponse) (durationMs : ℚ) : DeliveryResult :=
  match answer with
  | .ok response => {
      statusCode := some response.status
      responseBody := some (response.data.take 10000).toString
      durationMs
      error := if isSuccess response.status then none else some ("HTTP " ++ toString response.status)
      responseHeaders := some response.headers }
  | .error failure => {
      statusCode := none
      responseBody := none
      durationMs
      error := some (if failure.message = "" then "Unknown delivery error" else failure.message)
      responseHeaders := none }

/-- The request of an attempt, and the delivery that is saved before it. -/
def sendRequest (config : WebhookConfig) (delivery : WebhookDelivery)
    (subscription : WebhookSubscription) (event : WebhookEvent) :
    WebhookM (DeliveryResult × WebhookDelivery) := do
  let now ← clock
  let payload := config.stringify {
    id := event.id
    type := event.eventType
    aggregateId := event.aggregateId
    data := event.payload
    timestamp := now
    attempt := delivery.attempts + 1 }
  let headers := config.buildSignedHeaders subscription.signingKey payload event.id event.eventType
    subscription.headers
  let delivery := { delivery with
    status := .delivering, requestHeaders := some headers, lastAttemptAt := some now }
  ask (.saveDelivery delivery)
  let startTime ← clock
  let timeout := if subscription.timeoutMs = 0 then 30000 else subscription.timeoutMs
  let answer ← (ask (.post delivery.id ⟨subscription.url, payload, headers, timeout⟩)).outcome
  let endTime ← clock
  pure (resultOf answer (endTime - startTime), delivery)

def notFoundResult : DeliveryResult where
  statusCode := none
  responseBody := none
  durationMs := 0
  error := some "Subscription or event not found"
  responseHeaders := none

/-- The delivery is changed on the way and given back with the result. -/
def executeDelivery (config : WebhookConfig) (delivery : WebhookDelivery) :
    WebhookM (DeliveryResult × WebhookDelivery) := do
  let subscription ← ask (.findSubscription delivery.subscriptionId)
  let event ← ask (.findEvent delivery.eventId)
  match subscription, event with
  | some subscription, some event => sendRequest config delivery subscription event
  | _, _ => pure (notFoundResult, delivery)

def calculateRetryDelay (random baseDelayMs multiplier : ℚ) (attempt : Nat) : ℚ :=
  let exponential := baseDelayMs * multiplier ^ (attempt - 1)
  min (exponential + exponential * (2 / 10) * random) 300000

def succeeded (delivery : WebhookDelivery) (result : DeliveryResult) (now : ℚ)
    (attempts : List DeliveryAttempt) : WebhookDelivery :=
  { delivery with
    status := .success
    statusCode := result.statusCode
    durationMs := result.durationMs
    deliveredAt := some now
    responseBody := result.responseBody
    responseHeaders := result.responseHeaders
    attempts := delivery.attempts + 1
    allAttempts := attempts }

def unsuccessful (delivery : WebhookDelivery) (result : DeliveryResult)
    (attempts : List DeliveryAttempt) : WebhookDelivery :=
  { delivery with
    attempts := delivery.attempts + 1
    statusCode := result.statusCode
    durationMs := result.durationMs
    errorMessage := result.error
    responseBody := result.responseBody
    responseHeaders := result.responseHeaders
    allAttempts := attempts }

def deadLetterOf (delivery : WebhookDelivery) (subscription : WebhookSubscription)
    (event : Option WebhookEvent) (result : DeliveryResult) : WebhookDeadLetter where
  id := ""
  deliveryId := delivery.id
  subscriptionId := delivery.subscriptionId
  eventId := delivery.eventId
  url := subscription.url
  eventPayload := event.map (·.payload)
  requestHeaders := delivery.requestHeaders.getD []
  lastStatusCode := result.statusCode
  lastErrorMessage := result.error
  totalAttempts := delivery.attempts
  userId := subscription.userId
  allAttempts := delivery.allAttempts
  retried := false
  createdAt := 0

def deadLetter (delivery : WebhookDelivery) (subscription : WebhookSubscription)
    (result : DeliveryResult) : WebhookM WebhookDelivery := do
  let delivery := { delivery with status := .deadLettered }
  ask (.saveDelivery delivery)
  let event ← ask (.findEvent delivery.eventId)
  ask (.insertDeadLetter (deadLetterOf delivery subscription event result))
  ask (.addFailure delivery.eventId)
  pure delivery

def scheduleRetry (delivery : WebhookDelivery) (subscription : WebhookSubscription) :
    WebhookM WebhookDelivery := do
  let memory ← Async.memory
  let delay := calculateRetryDelay memory.random subscription.retryDelayMs
    subscription.backoffMultiplier delivery.attempts
  let delivery := { delivery with
    status := .failed, nextRetryAt := some (memory.now + delay) }
  ask (.saveDelivery delivery)
  pure delivery

def succeed (delivery : WebhookDelivery) : WebhookM WebhookDelivery := do
  ask (.saveDelivery delivery)
  ask (.addSuccess delivery.eventId)
  pure delivery

def recordResult (delivery : WebhookDelivery) (subscription : WebhookSubscription)
    (result : DeliveryResult) : WebhookM WebhookDelivery := do
  let now ← clock
  let attempts := delivery.allAttempts ++
    [⟨delivery.attempts + 1, result.statusCode, result.error, result.durationMs, now⟩]
  if result.statusCode.any isSuccess then succeed (succeeded delivery result now attempts)
  else
    let delivery := unsuccessful delivery result attempts
    if delivery.maxAttempts ≤ delivery.attempts then deadLetter delivery subscription result
    else scheduleRetry delivery subscription

def processDelivery (config : WebhookConfig) (deliveryId : String) : WebhookM WebhookDelivery := do
  let found ← ask (.findDelivery deliveryId)
  match found with
  | none => throw (.error ("Delivery " ++ deliveryId ++ " not found"))
  | some delivery => do
    let subscription ← ask (.findSubscription delivery.subscriptionId)
    match subscription with
    | none => throw (.error ("Subscription " ++ delivery.subscriptionId ++ " not found"))
    | some subscription => do
      let executed ← executeDelivery config delivery
      recordResult executed.2 subscription executed.1

def getPendingRetries : WebhookM (List WebhookDeadLetter) := ask .findPendingDeadLetters

/-- The delivery that a dead letter is requeued as. -/
def requeue (deadLetter : WebhookDeadLetter) (subscription : WebhookSubscription) :
    WebhookM (Option WebhookDelivery) := do
  let saved ← ask (.insertDelivery
    (newDelivery deadLetter.subscriptionId deadLetter.eventId subscription.maxRetries)
    (some deadLetter.id))
  ask (.saveDeadLetter { deadLetter with retried := true })
  pure (some saved)

def retryDeadLetter (deadLetterId : String) : WebhookM (Option WebhookDelivery) := do
  let found ← ask (.findDeadLetter deadLetterId)
  match found with
  | none => pure none
  | some dl =>
    if dl.retried then pure none
    else do
      let subscription ← ask (.findSubscription dl.subscriptionId)
      match subscription with
      | none => pure none
      | some subscription =>
        if subscription.status = .active then requeue dl subscription else pure none

end WebhookDeliveryService

namespace WebhookEventService
open WebhookDeliveryService

def newEvent (dto : PublishWebhookEventDto) : WebhookEvent where
  id := ""
  eventType := dto.eventType
  payload := dto.payload
  aggregateId := dto.aggregateId
  status := .pending
  deliveryCount := 0
  successCount := 0
  failureCount := 0
  metadata := dto.metadata

def findActiveForEvent (eventType : String) : WebhookM (List WebhookSubscription) := do
  let allActive ← ask .findActiveSubscriptions
  pure (allActive.filter fun sub => sub.events.contains "*" || sub.events.contains eventType)

def enqueueEach (eventId : String) : List WebhookDelivery → WebhookM Unit
  | [] => pure ()
  | delivery :: deliveries => do
    ask (.addJob delivery.id eventId)
    enqueueEach eventId deliveries

def publishEvent (dto : PublishWebhookEventDto) : WebhookM WebhookEvent := do
  let saved ← ask (.insertEvent (newEvent dto))
  let subscribers ← findActiveForEvent dto.eventType
  if subscribers.isEmpty then do
    let saved := { saved with status := .delivered, deliveryCount := 0 }
    ask (.saveEvent saved)
    pure saved
  else do
    let deliveries ← createDeliveries saved subscribers
    enqueueEach saved.id deliveries
    let saved := { saved with status := .delivering, deliveryCount := deliveries.length }
    ask (.saveEvent saved)
    pure saved

end WebhookEventService

/-! ## The world -/

/-- A request that was sent, and whether its delivery had been SUCCESS or DEAD_LETTERED by then. -/
structure SentRequest where
  deliveryId : String
  afterClose : Bool
  deriving DecidableEq

structure DeliveryJob where
  deliveryId : String
  eventId : String
  deriving DecidableEq

/-- The tables and the jobs that only calls change, with the requests that were sent, the deliveries that
have been SUCCESS or DEAD_LETTERED, and those that were created for a dead letter. -/
structure WebhookStore where
  deliveries : Table WebhookDelivery WebhookDelivery.id
  deadLetters : Table WebhookDeadLetter WebhookDeadLetter.id
  events : Table WebhookEvent WebhookEvent.id
  jobs : List DeliveryJob
  requests : List SentRequest
  closed : List String
  recreated : List String

structure WebhookWorld extends WebhookStore where
  now : ℚ
  subscriptions : Table WebhookSubscription WebhookSubscription.id

inductive WebhookOutcome where
  | done (lost : Option Exception)
  | created (id : String) (lost : Option Exception)
  | responded (response : HttpResponse)
  | timedOut (failure : Exception)
  | fails (failure : Exception)
  deriving DecidableEq

def closes (status : WebhookDeliveryStatus) : Bool :=
  status == .success || status == .deadLettered

namespace WebhookWorld

def saveDelivery (world : WebhookWorld) (row : WebhookDelivery) : WebhookWorld :=
  { world with
    deliveries := world.deliveries.save row
    closed := if closes row.status then row.id :: world.closed else world.closed }

/-- A new delivery, and whether it was created for a dead letter. -/
def create (world : WebhookWorld) (deliveries : Table WebhookDelivery WebhookDelivery.id) (id : String)
    (deadLetterId : Option String) : WebhookWorld :=
  { world with
    deliveries
    recreated := if deadLetterId.isSome then id :: world.recreated else world.recreated }

def send (world : WebhookWorld) (deliveryId : String) : WebhookWorld :=
  { world with
    requests := world.requests ++ [⟨deliveryId, world.closed.contains deliveryId⟩] }

/-- The dead letters that were not retried, the fifty oldest. -/
def pendingDeadLetters (world : WebhookWorld) : List WebhookDeadLetter :=
  ((world.deadLetters.rows.filter fun row => !row.retried).mergeSort
    fun first second => decide (first.createdAt ≤ second.createdAt)).take 50

def changeEvent (world : WebhookWorld) (id : String) (change : WebhookEvent → WebhookEvent)
    (same : ∀ row, (change row).id = row.id) : WebhookWorld :=
  { world with events := world.events.modify (fun row => decide (row.id = id)) change same }

/-- An operation that took effect, with its reply or an error in its place. -/
def answered {Reply : Type} (world : WebhookWorld) (reply : Reply) (lost : Option Exception) :
    Option (WebhookWorld × Except Exception Reply) :=
  some (world, match lost with
    | none => .ok reply
    | some failure => .error failure)

/-- A row with a new id. -/
def inserted {Row : Type} {key : Row → String} (table : Table Row key) (row : Row)
    (insert : Table Row key → WebhookWorld) (reply : Reply) (lost : Option Exception) :
    Option (WebhookWorld × Except Exception Reply) :=
  match table.findOne (key row) with
  | none => answered (insert (table.save row)) reply lost
  | some _ => none

def respond (world : WebhookWorld) (op : WebhookOp) (outcome : WebhookOutcome) :
    Option (WebhookWorld × Except Exception op.Reply) :=
  match op, outcome with
  | .findDelivery id, .done _ => some (world, .ok (world.deliveries.findOne id))
  | .saveDelivery row, .done lost => answered (world.saveDelivery row) () lost
  | .insertDelivery row deadLetterId, .created id lost =>
    inserted world.deliveries { row with id }
      (fun deliveries => world.create deliveries id deadLetterId) { row with id } lost
  | .findSubscription id, .done _ => some (world, .ok (world.subscriptions.findOne id))
  | .findActiveSubscriptions, .done _ =>
    some (world, .ok (world.subscriptions.rows.filter fun row => decide (row.status = .active)))
  | .findEvent id, .done _ => some (world, .ok (world.events.findOne id))
  | .insertEvent row, .created id lost =>
    inserted world.events { row with id } (fun events => { world with events }) { row with id } lost
  | .saveEvent row, .done lost => answered { world with events := world.events.save row } () lost
  | .addSuccess id, .done lost =>
    answered (world.changeEvent id
      (fun row => { row with successCount := row.successCount + 1 }) fun _ => rfl) () lost
  | .addFailure id, .done lost =>
    answered (world.changeEvent id
      (fun row => { row with failureCount := row.failureCount + 1 }) fun _ => rfl) () lost
  | .insertDeadLetter row, .created id lost =>
    inserted world.deadLetters { row with id, createdAt := world.now }
      (fun deadLetters => { world with deadLetters }) () lost
  | .findDeadLetter id, .done _ => some (world, .ok (world.deadLetters.findOne id))
  | .saveDeadLetter row, .done lost =>
    answered { world with deadLetters := world.deadLetters.save row } () lost
  | .findPendingDeadLetters, .done _ => some (world, .ok world.pendingDeadLetters)
  | .post deliveryId _, .responded response => some (world.send deliveryId, .ok response)
  | .post deliveryId _, .timedOut failure => some (world.send deliveryId, .error failure)
  | .addJob deliveryId eventId, .done lost =>
    answered { world with jobs := world.jobs ++ [⟨deliveryId, eventId⟩] } () lost
  | _, .fails failure => some (world, .error failure)
  | _, _ => none

end WebhookWorld

/-- Time passes, another random number comes up, or a subscription is changed or removed. -/
inductive WebhookChange where
  | tick (ms : Nat)
  | random (value : ℚ)
  | subscribe (row : WebhookSubscription)
  | unsubscribe (id : String)

def webhookEnvironment (state : WebhookWorld × WebhookMemory) :
    WebhookChange → WebhookWorld × WebhookMemory
  | .tick ms => ({ state.1 with now := state.1.now + ms }, { state.2 with now := state.2.now + ms })
  | .random value => (state.1, { state.2 with random := value })
  | .subscribe row =>
    ({ state.1 with subscriptions := state.1.subscriptions.save row }, state.2)
  | .unsubscribe id =>
    ({ state.1 with
      subscriptions := state.1.subscriptions.delete fun row => decide (row.id = id) }, state.2)

def webhookBody (config : WebhookConfig) : WebhookCall → WebhookM WebhookValue
  | .publishEvent dto => do
    let event ← WebhookEventService.publishEvent dto
    pure (.event event)
  | .processDelivery deliveryId => do
    let delivery ← WebhookDeliveryService.processDelivery config deliveryId
    pure (.delivery delivery)
  | .getPendingRetries => do
    let rows ← WebhookDeliveryService.getPendingRetries
    pure (.deadLetters rows)
  | .retryDeadLetter deadLetterId => do
    let delivery ← WebhookDeliveryService.retryDeadLetter deadLetterId
    pure (.requeued delivery)

abbrev webhookProcess (config : WebhookConfig) : Service webhooks where
  World := WebhookWorld
  Choice := WebhookOutcome
  Env := WebhookChange
  respond := WebhookWorld.respond
  environment := webhookEnvironment
  isPublic _ := true
  body := webhookBody config

end AlianStructure.Source.Webhooks
