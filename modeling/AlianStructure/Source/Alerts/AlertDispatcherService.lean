import Mathlib.Data.List.Infix
import AlianStructure.Library.InsertionOrder
import AlianStructure.Library.Interleaving
import AlianStructure.Library.JsonText
import AlianStructure.Source.Exception

/-!
# The dispatch of alerts

Source: src/growth/alerts/services/alert-dispatcher.service.ts. The clock gives one reading after
another. A digest entry is an object that the map refers to, its place in `digests` being that of its
insertion, so that a digest that was handed over shares its payloads. An iteration over the map visits
the users in the order of insertion, those added meanwhile as well. The last fields of the memory are
its history: no method reads them.
-/
namespace AlianStructure.Source.Alerts
open Library.AsyncMethod Library.Interleaving Library.InsertionOrder Library.KeyedTable
open Library.JsonText

/-- A member of an object. -/
def member (json : Json) (name : String) : Option Json :=
  match json with
  | .object members => members.lookup name
  | _ => none

/-- A member that is a text, if there is one. -/
def TextMember (json : Json) (name : String) : Prop :=
  ∀ value ∈ member json name, ∃ text, value = .string text

/-- A payload: its type and its message, where it has them, are texts. -/
structure AlertPayload where
  json : Json
  typed : TextMember json "type"
  worded : TextMember json "message"

def textOf (json : Json) (name : String) : String :=
  match member json name with
  | some (.string text) => text
  | _ => ""

inductive AlertFrequency where
  | realtime | dailyDigest
  deriving DecidableEq

structure AlertPreference where
  channels : List String
  quietHoursStart : Option Int
  quietHoursEnd : Option Int
  rateLimit : Int
  frequency : AlertFrequency
  disabledAlertTypes : Option (List String)
  deriving DecidableEq

structure RateLimitEntry where
  count : Nat
  windowStart : Int
  deriving DecidableEq

structure DigestEntry where
  userId : String
  payloads : List AlertPayload
  channels : List String

/-- The readings of a clock, which never goes back. -/
structure Clock where
  reading : Nat → Int
  ordered : ∀ k, reading k ≤ reading (k + 1)

/-- A payload that has passed the de-duplication, by its text, with the time of its slot. -/
structure Cleared where
  userId : String
  text : String
  time : Int
  deriving DecidableEq

/-- What became of an alert that has passed both limits. -/
inductive Fate where
  | suppressed | buffered | delivered
  deriving DecidableEq

/-- An alert that was not stopped by the limits, with the start of the window its user was in. -/
structure Admitted where
  userId : String
  time : Int
  windowStart : Int
  fate : Fate
  deriving DecidableEq

/-- A digest that was handed over for a channel: the entry whose payloads it shares, its count, and the
number of alerts it carried then. -/
structure HandOver where
  digest : Nat
  entry : Nat
  channel : String
  count : Nat
  alerts : Nat
  deriving DecidableEq

/-- What has happened: `flushing` has the users whose digest is being flushed, `overlapped` those for
whom a payload was buffered, or another flush begun, meanwhile. -/
structure AlertHistory where
  cleared : List Cleared
  admitted : List Admitted
  handed : List HandOver
  digestsMade : Nat
  flushing : List String
  overlapped : List String
  deriving DecidableEq

structure AlertMemory where
  fingerprintMap : OrderedMap String Int
  rateLimitMap : OrderedMap String RateLimitEntry
  digestMap : OrderedMap String Nat
  digests : List DigestEntry
  clock : Clock
  readings : Nat
  history : AlertHistory

structure Email where
  recipients : List String
  subject : String
  html : String
  text : String
  deriving DecidableEq

structure PushMessage where
  userId : String
  title : String
  body : String
  data : Json

inductive AlertOp where
  | findPreference (userId : String)
  | saveLog (alertId userId : String) (payload : Json)
  | sendEmail (email : Email)
  | sendPush (message : PushMessage)
  | sleep (ms : Nat)

abbrev AlertOp.Reply : AlertOp → Type
  | .findPreference _ => Option AlertPreference
  | .saveLog _ _ _ | .sendEmail _ | .sendPush _ | .sleep _ => Unit

/-- A flush of all digests ends after a number of users: with enough of them it is that of the source. -/
inductive AlertCall where
  | dispatch (userId : String) (payload : AlertPayload)
  | flushDigest (userId : String)
  | flushAllDigests (users : Nat)

abbrev alerting : Runtime where
  Op := AlertOp
  Reply := AlertOp.Reply
  Mem := AlertMemory
  Err := Exception
  Call := AlertCall
  Val := Unit

abbrev AlertM := Async alerting

/-- The services of delivery that are there, and the hour of a time where the server is. -/
structure AlertHost where
  emailService : Bool
  pushService : Bool
  getHours : Int → Int

/-- What is delivered: an alert, or the digest of an entry. -/
inductive Outgoing where
  | alert (payload : AlertPayload)
  | digest (count : Nat) (entry : Nat)

namespace AlertDispatcherService

def ask (op : AlertOp) : AlertM op.Reply := Async.perform (R := alerting) op

def memory : AlertM AlertMemory := Async.memory (R := alerting)

def update (change : AlertMemory → AlertMemory) : AlertM Unit := Async.update (R := alerting) change

def slotMs : Int := 300000

def hourMs : Int := 3600000

def tick (mem : AlertMemory) : AlertMemory := { mem with readings := mem.readings + 1 }

def dateNow : AlertM Int := do
  let mem ← memory
  update tick
  pure (mem.clock.reading mem.readings)

/-! ## Delivery -/

/-- The payloads of an entry, as they are by now. -/
def payloadsOf (mem : AlertMemory) (entry : Nat) : List AlertPayload :=
  match mem.digests[entry]? with
  | some digest => digest.payloads
  | none => []

/-- What is delivered, as it is by now. -/
def jsonOf (mem : AlertMemory) : Outgoing → Json
  | .alert payload => payload.json
  | .digest count entry => .object [("type", .string "daily.digest"), ("count", .number (.ofNat count)),
      ("alerts", .array ((payloadsOf mem entry).map (·.json)))]

/-- An object with a member set, in its place if it is there. -/
def withMember (json : Json) (name : String) (value : Json) : Json :=
  match json with
  | .object members =>
    if (members.lookup name).isSome then
      .object (members.map fun entry => if entry.1 = name then (name, value) else entry)
    else .object (members ++ [(name, value)])
  | other => other

def buildEmailHtml (alertType message : String) : String :=
  "\n      <h2>Alert: " ++ alertType ++ "</h2>\n      <p>" ++
  (if message = "" then "You have a new notification from Alian Structure." else message) ++
  "</p>\n      <hr />\n      <small>Alian Structure API — Notification Service</small>\n    "

def emailOf (userId : String) (payload : Json) : Email :=
  let alertType := if textOf payload "type" = "" then "alert" else textOf payload "type"
  let message := textOf payload "message"
  { recipients := [userId]
    subject := "[Alian] Alert: " ++ alertType
    html := buildEmailHtml alertType message
    text := if message = "" then payload.stringify else message }

def pushOf (userId : String) (payload : Json) : PushMessage :=
  let type := if textOf payload "type" = "" then "Notification" else textOf payload "type"
  let message := textOf payload "message"
  { userId := userId
    title := "Alert: " ++ type
    body := if message = "" then payload.stringify else message
    data := payload }

variable (host : AlertHost)

/-- One attempt. A broadcast to the sockets of the user does not wait and does not fail. -/
def deliverOnce (channel userId : String) (payload : Outgoing) : AlertM Unit := do
  let mem ← memory
  let json := jsonOf mem payload
  if channel = "in-app" then
    ask (.saveLog "dispatcher" userId (withMember json "channel" (.string "in-app")))
  else if channel = "email" then
    if host.emailService then ask (.sendEmail (emailOf userId json)) else pure ()
  else if channel = "push" then
    if host.pushService then ask (.sendPush (pushOf userId json)) else pure ()
  else pure ()

/-- With the number of attempts that are left, of three. -/
def deliverToChannel (channel userId : String) (payload : Outgoing) : Nat → AlertM Unit
  | 0 => pure ()
  | left + 1 => do
    let attempt := 3 - left
    let delivered ← (deliverOnce host channel userId payload).outcome
    match delivered with
    | .ok _ => pure ()
    | .error _ =>
      if attempt < 3 then do
        ask (.sleep (200 * 2 ^ (attempt - 1)))
        deliverToChannel channel userId payload left
      else pure ()

/-! ## Dispatch -/

/-- A part of a text. -/
def includes (text part : String) : Bool := decide (part.toList <:+: text.toList)

def isAlertTypeDisabled (alertType : String) (disabledTypes : List String) : Bool :=
  disabledTypes.any fun disabled => includes alertType disabled || includes disabled alertType

def isInQuietHours (start «end» now : Int) : Bool :=
  let currentHour := host.getHours now
  if start ≤ «end» then decide (start ≤ currentHour ∧ currentHour < «end»)
  else decide (start ≤ currentHour ∨ currentHour < «end»)

/-- Whether these are quiet hours. The clock is read only when there are any. -/
def quietNow (quietHoursStart quietHoursEnd : Option Int) (mem : AlertMemory) : Bool × AlertMemory :=
  match quietHoursStart, quietHoursEnd with
  | some start, some stop => (isInQuietHours host start stop (mem.clock.reading mem.readings), tick mem)
  | _, _ => (false, mem)

def fingerprint (userId text : String) (windowSlot : Int) : String :=
  userId ++ ":" ++ text ++ ":" ++ toString windowSlot

/-- Remember the fingerprint of a payload. -/
def remember (userId text : String) (time now : Int) (mem : AlertMemory) : AlertMemory :=
  { mem with fingerprintMap := mem.fingerprintMap.set (fingerprint userId text (time / slotMs)) now }

def forget (cutoff : Int) (mem : AlertMemory) : AlertMemory :=
  { mem with
    fingerprintMap := Table.delete mem.fingerprintMap fun entry => decide (entry.2 < cutoff) }

/-- The memory after the de-duplication, of a payload that is no duplicate. -/
def deduplicate (userId text : String) (time : Int) (mem : AlertMemory) : Option AlertMemory :=
  if (mem.fingerprintMap.get? (fingerprint userId text (time / slotMs))).isSome then none
  else
    let remembered := tick (remember userId text time (mem.clock.reading mem.readings) mem)
    some (tick (forget (remembered.clock.reading remembered.readings - slotMs) remembered))

/-- Count an alert in a window. -/
def count (userId : String) (entry : RateLimitEntry) (mem : AlertMemory) : AlertMemory :=
  { mem with rateLimitMap := mem.rateLimitMap.set userId entry }

/-- The memory after the rate limit, of an alert that is not over it. -/
def passesRateLimit (userId : String) (rateLimit now : Int) (mem : AlertMemory) : Option AlertMemory :=
  match mem.rateLimitMap.get? userId with
  | some entry =>
    if now - entry.windowStart < hourMs then
      if rateLimit ≤ entry.count then none
      else some (count userId { entry with count := entry.count + 1 } mem)
    else some (count userId { count := 1, windowStart := now } mem)
  | none => some (count userId { count := 1, windowStart := now } mem)

/-- A payload goes on to the preferences of its user. -/
def recordCleared (userId text : String) (time : Int) (mem : AlertMemory) : AlertMemory :=
  { mem with history := { mem.history with cleared := mem.history.cleared ++ [⟨userId, text, time⟩] } }

/-- An alert goes on to its delivery, to the buffer, or is dropped in quiet hours. -/
def recordAdmitted (userId : String) (time : Int) (fate : Fate) (mem : AlertMemory) : AlertMemory :=
  let windowStart := ((mem.rateLimitMap.get? userId).map (·.windowStart)).getD 0
  { mem with history := { mem.history with
      admitted := mem.history.admitted ++ [⟨userId, time, windowStart, fate⟩] } }

/-- A user whose digest is being flushed overlaps with what happens meanwhile. -/
def meanwhile (userId : String) (history : AlertHistory) : AlertHistory :=
  if userId ∈ history.flushing then { history with overlapped := history.overlapped ++ [userId] }
  else history

def bufferForDigest (userId : String) (payload : AlertPayload) (channels : List String)
    (mem : AlertMemory) : AlertMemory :=
  match mem.digestMap.get? userId with
  | some entry =>
    { mem with
      digests := mem.digests.modify entry fun digest =>
        { digest with payloads := digest.payloads ++ [payload] }
      history := meanwhile userId mem.history }
  | none =>
    { mem with
      digestMap := mem.digestMap.set userId mem.digests.length
      digests := mem.digests ++ [{ userId := userId, payloads := [payload], channels := channels }]
      history := meanwhile userId mem.history }

def deliverEach (userId : String) (payload : AlertPayload) : List String → AlertM Unit
  | [] => pure ()
  | channel :: channels => do
    deliverToChannel host channel userId (.alert payload) 3
    deliverEach userId payload channels

def rateLimitOf (prefs : Option AlertPreference) : Int := (prefs.map (·.rateLimit)).getD 10

/-- What comes between the answer about the preferences and the delivery, without an await: the memory
afterwards, and the channels that are left to deliver to. -/
def accept (userId : String) (payload : AlertPayload) (prefs : Option AlertPreference) (mem : AlertMemory) :
    AlertMemory × List String :=
  let channels := (prefs.map (·.channels)).getD ["in-app"]
  let frequency : AlertFrequency := (prefs.map (·.frequency)).getD .realtime
  let disabledTypes := (prefs.bind (·.disabledAlertTypes)).getD []
  let alertType := textOf payload.json "type"
  if alertType ≠ "" ∧ isAlertTypeDisabled alertType disabledTypes then (mem, [])
  else
    let now := mem.clock.reading mem.readings
    match passesRateLimit userId (rateLimitOf prefs) now (tick mem) with
    | none => (tick mem, [])
    | some mem =>
      let (quiet, mem) := quietNow host (prefs.bind (·.quietHoursStart)) (prefs.bind (·.quietHoursEnd)) mem
      if quiet then (recordAdmitted userId now .suppressed mem, [])
      else if frequency = .dailyDigest then
        (recordAdmitted userId now .buffered (bufferForDigest userId payload channels mem), [])
      else (recordAdmitted userId now .delivered mem, channels)

def dispatchWith (userId : String) (payload : AlertPayload) (prefs : Option AlertPreference) :
    AlertM Unit := do
  let mem ← memory
  let (admitted, channels) := accept host userId payload prefs mem
  update fun _ => admitted
  deliverEach host userId payload channels

def dispatch (userId : String) (payload : AlertPayload) : AlertM Unit := do
  let time ← dateNow
  let mem ← memory
  match deduplicate userId payload.json.stringify time mem with
  | none => pure ()
  | some passed => do
    update fun _ => recordCleared userId payload.json.stringify time passed
    let prefs ← ask (.findPreference userId)
    dispatchWith host userId payload prefs

/-! ## Digests -/

/-- A digest is made of an entry. -/
def beginFlush (userId : String) (mem : AlertMemory) : AlertMemory :=
  let history := meanwhile userId mem.history
  { mem with history := { history with
      digestsMade := history.digestsMade + 1
      flushing := userId :: history.flushing } }

def handOver (digest entry count : Nat) (channel : String) (mem : AlertMemory) : AlertMemory :=
  { mem with history := { mem.history with
      handed := mem.history.handed ++
        [⟨digest, entry, channel, count, (payloadsOf mem entry).length⟩] } }

def endFlush (userId : String) (mem : AlertMemory) : AlertMemory :=
  { mem with
    digestMap := mem.digestMap.delete userId
    history := { mem.history with flushing := mem.history.flushing.erase userId } }

def deliverDigest (userId : String) (digest entry count : Nat) : List String → AlertM Unit
  | [] => pure ()
  | channel :: channels => do
    update (handOver digest entry count channel)
    deliverToChannel host channel userId (.digest count entry) 3
    deliverDigest userId digest entry count channels

def flushDigest (userId : String) : AlertM Unit := do
  let mem ← memory
  match mem.digestMap.get? userId with
  | none => pure ()
  | some entry =>
    match mem.digests[entry]? with
    | none => pure ()
    | some digest =>
      if digest.payloads.length = 0 then pure ()
      else do
        update (beginFlush userId)
        deliverDigest host userId mem.history.digestsMade entry digest.payloads.length
          digest.channels
        update (endFlush userId)

/-- The next user of an iteration over the map that has come to a place. -/
def nextUser (mem : AlertMemory) (place : Nat) : Option (String × Nat) :=
  mem.digestMap.entries.find? fun entry => decide (place ≤ entry.2)

def flushFrom (place : Nat) : Nat → AlertM Unit
  | 0 => pure ()
  | users + 1 => do
    let mem ← memory
    match nextUser mem place with
    | none => pure ()
    | some (userId, entry) => do
      flushDigest host userId
      flushFrom (entry + 1) users

def flushAllDigests (users : Nat) : AlertM Unit := flushFrom host 0 users

end AlertDispatcherService

/-! ## The world -/

/-- The preferences of the users. -/
structure AlertWorld where
  preferences : String → Option AlertPreference

inductive AlertOutcome where
  | done
  | fails (failure : Exception)
  deriving DecidableEq

/-- A user changes the preferences. -/
structure AlertChange where
  userId : String
  preference : Option AlertPreference
  deriving DecidableEq

namespace AlertWorld

def respond (world : AlertWorld) (op : AlertOp) (outcome : AlertOutcome) :
    Option (AlertWorld × Except Exception op.Reply) :=
  match op, outcome with
  | .findPreference userId, .done => some (world, .ok (world.preferences userId))
  | .saveLog _ _ _, .done | .sendEmail _, .done | .sendPush _, .done | .sleep _, .done =>
    some (world, .ok ())
  | .sleep _, .fails _ => none
  | _, .fails failure => some (world, .error failure)

def set (world : AlertWorld) (change : AlertChange) : AlertWorld where
  preferences userId :=
    if userId = change.userId then change.preference else world.preferences userId

end AlertWorld

def alertBody (host : AlertHost) : AlertCall → AlertM Unit
  | .dispatch userId payload => AlertDispatcherService.dispatch host userId payload
  | .flushDigest userId => AlertDispatcherService.flushDigest host userId
  | .flushAllDigests users => AlertDispatcherService.flushAllDigests host users

abbrev alertProcess (host : AlertHost) : Service alerting where
  World := AlertWorld
  Choice := AlertOutcome
  Env := AlertChange
  respond := AlertWorld.respond
  environment state change := (state.1.set change, state.2)
  isPublic _ := true
  body := alertBody host

/-- The memory of a process that has just begun. -/
def AlertMemory.fresh (clock : Clock) : AlertMemory where
  fingerprintMap := .empty
  rateLimitMap := .empty
  digestMap := .empty
  digests := []
  clock := clock
  readings := 0
  history := ⟨[], [], [], 0, [], []⟩

end AlianStructure.Source.Alerts
