import AlianStructure.Source.Notifications.Notification

/-!
# Processing a notification

Source: src/notifications/services/notification-processor.service.ts:36-235, its entities and
src/notifications/providers/notification-channel.interface.ts. A unique index leaves one preference for a user, a
category and a channel. What the runtime reads as the hour in a time zone is a parameter: midnight is 0 or 24 there.
-/
namespace AlianStructure.Source.Notifications
open Library.KeyedTable Library.JsonText Pagination

inductive NotificationChannelPreference where
  | enabled | disabled | digest
  deriving DecidableEq

inductive DeliveryStatus where
  | pending | sent | delivered | bounced | failed | clicked | opened
  deriving DecidableEq

structure NotificationPreference where
  userId : String
  category : NotificationCategory
  channel : NotificationChannel
  preference : NotificationChannelPreference
  quietHoursStart : Option Int
  quietHoursEnd : Option Int
  timezone : Option String
  emailAddress : Option String
  phoneNumber : Option String
  pushToken : Option String
  webhookUrl : Option String
  minPriority : Option String
  deriving DecidableEq

def NotificationPreference.key (row : NotificationPreference) : String × NotificationCategory × NotificationChannel :=
  (row.userId, row.category, row.channel)

structure ChannelDeliveryPayload where
  notificationId : Uuid
  userId : String
  channel : NotificationChannel
  title : String
  body : String
  htmlBody : Option String
  recipientAddress : String
  metadata : Option Json
  priority : NotificationPriority

structure ChannelDeliveryResult where
  status : DeliveryStatus
  providerMessageId : Option String
  provider : Option String
  providerResponse : Option Json
  errorMessage : Option String

structure NotificationDeliveryLog where
  id : Nat
  notificationId : Uuid
  userId : String
  channel : NotificationChannel
  status : DeliveryStatus
  maxAttempts : Nat
  errorMessage : Option String
  providerMessageId : Option String
  provider : Option String
  providerResponse : Option Json
  sentAt : Option Int
  deliveredAt : Option Int

/-- A delivery gives a result or fails with a message. -/
abbrev NotificationChannelProvider := ChannelDeliveryPayload → Except String ChannelDeliveryResult

/-- What a run reads: the preferences, the providers, the hour in each time zone that is one, and the time. -/
structure Surroundings where
  preferences : Table NotificationPreference NotificationPreference.key
  providers : NotificationChannel → Option NotificationChannelProvider
  hours : String → Option (Fin 25)
  now : Int

/-- What a run writes: the notifications, the delivery logs, and the calls of providers that it has made. -/
structure Deliveries where
  notifications : Table Notification Notification.id
  deliveryLogs : List NotificationDeliveryLog
  calls : List ChannelDeliveryPayload

def NotificationPriority.text : NotificationPriority → String
  | .low => "low"
  | .normal => "normal"
  | .high => "high"
  | .critical => "critical"

namespace NotificationProcessor

def getUserLocalHour (hours : String → Option (Fin 25)) (timezone : Option String) : Option (Fin 25) :=
  match timezone with
  | none => none
  | some zone => if zone = "" then none else hours zone

/-- A row that is not there has no null in it, and no time zone. -/
def inQuietHours (hours : String → Option (Fin 25)) (preference : Option NotificationPreference) :
    Except Exception Bool :=
  match preference with
  | none => .error (.error "Cannot read properties of null (reading 'timezone')")
  | some preference =>
    match preference.quietHoursStart, preference.quietHoursEnd with
    | some quietHoursStart, some quietHoursEnd =>
      match getUserLocalHour hours preference.timezone with
      | none => .ok false
      | some userHour => .ok (decide (quietHoursStart ≤ userHour.val) && decide ((userHour.val : Int) < quietHoursEnd))
    | _, _ => .ok false

def priorityOrder : List String := ["low", "normal", "high", "critical"]

/-- The index of a text in a list, and -1 when it is not there. -/
def indexOf (texts : List String) (text : String) : Int :=
  match texts.findIdx? fun other => decide (other = text) with
  | none => -1
  | some index => index

def belowMinimum (preference : Option NotificationPreference) (priority : NotificationPriority) : Bool :=
  match preference.bind (·.minPriority) with
  | none => false
  | some minPriority =>
    decide (minPriority ≠ "") && decide (minPriority ≠ "low") &&
      decide (indexOf priorityOrder priority.text < indexOf priorityOrder minPriority)

/-- An empty text is no address. -/
def orNull (text : Option String) : Option String := text.filter fun value => decide (value ≠ "")

def resolveRecipientAddress (preference : Option NotificationPreference) (channel : NotificationChannel) :
    Option String :=
  match preference with
  | none => none
  | some preference =>
    match channel with
    | .email => orNull preference.emailAddress
    | .sms => orNull preference.phoneNumber
    | .push => orNull preference.pushToken
    | .webhook => orNull preference.webhookUrl
    | .inApp => orNull (some preference.userId)

/-- With whom and where to the loop delivers on a channel, when it does not skip it. -/
def resolve (surroundings : Surroundings) (notification : Notification) (channel : NotificationChannel) :
    Except Exception (Option (NotificationChannelProvider × String)) := do
  let preference := surroundings.preferences.findOne (notification.userId, notification.category, channel)
  if preference.any fun row => decide (row.preference = .disabled) then return none
  if ← inQuietHours surroundings.hours preference then return none
  if belowMinimum preference notification.priority then return none
  match surroundings.providers channel with
  | none => return none
  | some provider =>
    match resolveRecipientAddress preference channel with
    | none => return none
    | some recipientAddress => return some (provider, recipientAddress)

def payload (notification : Notification) (channel : NotificationChannel) (recipientAddress : String) :
    ChannelDeliveryPayload where
  notificationId := notification.id
  userId := notification.userId
  channel := channel
  title := notification.title
  body := notification.body
  htmlBody := notification.htmlBody
  recipientAddress := recipientAddress
  metadata := notification.metadata
  priority := notification.priority

def pendingLog (notification : Notification) (channel : NotificationChannel) (id : Nat) : NotificationDeliveryLog where
  id := id
  notificationId := notification.id
  userId := notification.userId
  channel := channel
  status := .pending
  maxAttempts := notification.maxAttempts
  errorMessage := none
  providerMessageId := none
  provider := none
  providerResponse := none
  sentAt := none
  deliveredAt := none

/-- The log of a delivery once it is over. -/
def settle (now : Int) (log : NotificationDeliveryLog) : Except String ChannelDeliveryResult → NotificationDeliveryLog
  | .ok result =>
    { log with
      status := result.status
      providerMessageId := result.providerMessageId
      provider := result.provider
      providerResponse := result.providerResponse
      errorMessage := result.errorMessage
      sentAt := if result.status = .sent then some now else none
      deliveredAt := if result.status = .delivered then some now else none }
  | .error message => { log with status := .failed, errorMessage := some message }

/-- The log of a delivery is stored first, and updated with what the provider answers. -/
def deliver (now : Int) (notification : Notification) (channel : NotificationChannel)
    (provider : NotificationChannelProvider) (recipientAddress : String) (deliveries : Deliveries) : Deliveries :=
  let savedLog := pendingLog notification channel deliveries.deliveryLogs.length
  let request := payload notification channel recipientAddress
  { deliveries with
    deliveryLogs := deliveries.deliveryLogs ++ [settle now savedLog (provider request)]
    calls := deliveries.calls ++ [request] }

/-- The loop over the channels, up to the one that throws. -/
def deliverAll (surroundings : Surroundings) (notification : Notification) :
    List NotificationChannel → Deliveries → Deliveries × Option Exception
  | [], deliveries => (deliveries, none)
  | channel :: rest, deliveries =>
    match resolve surroundings notification channel with
    | .error failure => (deliveries, some failure)
    | .ok none => deliverAll surroundings notification rest deliveries
    | .ok (some (provider, recipientAddress)) =>
      deliverAll surroundings notification rest
        (deliver surroundings.now notification channel provider recipientAddress deliveries)

def newStatus (notification : Notification) (allLogs : List NotificationDeliveryLog) : NotificationStatus × Bool :=
  let allDelivered := decide (0 < allLogs.length) &&
    allLogs.all fun log => decide (log.status = .delivered ∨ log.status = .sent)
  let anyFailed := allLogs.any fun log => decide (log.status = .failed)
  (if allDelivered then .delivered
    else if anyFailed && decide (notification.maxAttempts ≤ notification.attemptCount) then .failed
    else .queued, allDelivered)

/-- The final update; what it leaves undefined stays as it is. -/
def finish (now : Int) (notification : Notification) (deliveries : Deliveries) : Deliveries :=
  let (status, allDelivered) := newStatus notification
    (deliveries.deliveryLogs.filter fun log => decide (log.notificationId = notification.id))
  { deliveries with
    notifications := deliveries.notifications.modify (fun row => decide (row.id = notification.id))
      (fun row => { row with
        status := status
        sentAt := some now
        deliveredAt := if allDelivered then some now else row.deliveredAt }) fun _ => rfl }

def channelsOf (notification : Notification) : List NotificationChannel :=
  notification.channels.getD [notification.primaryChannel]

def markSending (notification : Notification) (deliveries : Deliveries) : Deliveries :=
  { deliveries with
    notifications := deliveries.notifications.modify (fun row => decide (row.id = notification.id))
      (fun row => { row with status := .sending, attemptCount := notification.attemptCount + 1 }) fun _ => rfl }

/-- What has been written, and what was thrown. -/
def processNotification (surroundings : Surroundings) (notificationId : Uuid) (deliveries : Deliveries) :
    Deliveries × Option Exception :=
  match deliveries.notifications.findOne notificationId with
  | none => (deliveries, none)
  | some notification =>
    if notification.status = .cancelled then (deliveries, none)
    else
      match deliverAll surroundings notification (channelsOf notification) (markSending notification deliveries) with
      | (deliveries, some failure) => (deliveries, some failure)
      | (deliveries, none) => (finish surroundings.now notification deliveries, none)

end NotificationProcessor

end AlianStructure.Source.Notifications
