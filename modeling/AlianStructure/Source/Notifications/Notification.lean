import AlianStructure.Library.JsonText
import AlianStructure.Source.Pagination.CursorPaginationService
import AlianStructure.Library.KeyedTable

/-!
# Notifications

Source: src/notifications/entities/notification.entity.ts. The columns that the services read, write
or hand on. Stored times are in microseconds.
-/
namespace AlianStructure.Source.Notifications
open Library.JsonText Pagination

inductive NotificationChannel where
  | email | sms | push | webhook | inApp
  deriving DecidableEq

inductive NotificationPriority where
  | low | normal | high | critical
  deriving DecidableEq

inductive NotificationStatus where
  | pending | queued | sending | sent | delivered | failed | cancelled | scheduled
  deriving DecidableEq

inductive NotificationCategory where
  | system | security | transaction | portfolio | alert | marketing | social | billing | compliance
  deriving DecidableEq

/-- The place among the priorities, as the enumeration lists them. -/
def NotificationPriority.rank : NotificationPriority → Nat
  | .low => 0
  | .normal => 1
  | .high => 2
  | .critical => 3

structure Notification where
  id : Uuid
  userId : String
  title : String
  body : String
  htmlBody : Option String
  category : NotificationCategory
  priority : NotificationPriority
  status : NotificationStatus
  primaryChannel : NotificationChannel
  channels : Option (List NotificationChannel)
  templateName : Option String
  templateVars : Option Json
  referenceId : Option String
  referenceType : Option String
  read : Bool
  readAt : Option Int
  scheduledAt : Option Int
  sentAt : Option Int
  deliveredAt : Option Int
  attemptCount : Nat
  maxAttempts : Nat
  aggregationKey : Option String
  aggregationCount : Nat
  metadata : Option Json
  deleted : Bool
  createdAt : Int

/-!
## The notification history of a user

Source: src/notifications/services/notification.service.ts:210-288 and
src/notifications/dto/query-notification.dto.ts. A cursor is the payload that its text encodes, its
date in milliseconds of UTC, which is also the time zone of the server. The channels of a
notification are stored in one text, of which the database takes no `ANY`: a query with a channel
fails.
-/
open Library.KeyedTable

structure HistoryCursor where
  createdAt : Int
  id : Uuid
  deriving DecidableEq

/-- The query, as its validation lets it through. -/
structure QueryNotificationHistoryDto where
  userId : String
  limit : Option Nat
  limit_accepted : ∀ n ∈ limit, 1 ≤ n ∧ n ≤ 100
  cursor : Option HistoryCursor
  category : Option NotificationCategory
  channel : Option NotificationChannel
  read : Option Bool
  status : Option NotificationStatus
  priority : Option NotificationPriority
  after : Option String
  before : Option String
  sortBy : Option String
  sortOrder : Option String

structure NotificationHistory where
  data : List Notification
  total : Nat
  nextCursor : Option HistoryCursor

/-- What rows are sorted by, in ascending order. -/
structure SortColumn where
  le : Notification → Notification → Bool
  total : ∀ a b, le a b = true ∨ le b a = true
  trans : ∀ a b c, le a b = true → le b c = true → le a c = true

namespace SortColumn

/-- The order of the numbers of a column, null being more than any. -/
def nullsLast : Option Int → Option Int → Bool
  | _, none => true
  | none, some _ => false
  | some a, some b => decide (a ≤ b)

def ofKey (key : Notification → Option Int) : SortColumn where
  le a b := nullsLast (key a) (key b)
  total a b := by
    cases key a <;> cases key b <;> simp [nullsLast, Int.le_total]
  trans a b c := by
    cases key a <;> cases key b <;> cases key c <;> simp [nullsLast]
    exact Int.le_trans

def createdAt : SortColumn := ofKey fun n => n.createdAt

def readAt : SortColumn := ofKey (·.readAt)

def priority : SortColumn := ofKey fun n => (n.priority.rank : Int)

end SortColumn

/-- What the database makes of the text of a request: the order of what it is asked to sort by, other
than the columns that the query documents, and the time of a date. -/
structure Database where
  expression : String → Option SortColumn
  timestamp : String → Option Int

namespace Database
variable (db : Database)

def sortColumn (sortBy : String) : Option SortColumn :=
  if sortBy = "createdAt" then some .createdAt
  else if sortBy = "readAt" then some .readAt
  else if sortBy = "priority" then some .priority
  else db.expression sortBy

end Database

inductive SortOrder where
  | ASC | DESC
  deriving DecidableEq

namespace NotificationService
variable (db : Database)

def queryFailed : Exception := .error "QueryFailedError"

/-- A text, or another for none and for the empty one. -/
def orDefault (text : Option String) (default : String) : String :=
  match text with
  | none => default
  | some text => if text = "" then default else text

def readTimestamp (text : String) : Except Exception Int :=
  match db.timestamp text with
  | some time => .ok time
  | none => .error queryFailed

/-- The conditions of the query, but for that of the cursor. -/
def conditions (dto : QueryNotificationHistoryDto) : Except Exception (Notification → Bool) := do
  if dto.channel.isSome then throw queryFailed
  let after ← dto.after.mapM (readTimestamp db)
  let before ← dto.before.mapM (readTimestamp db)
  pure fun n =>
    decide (n.userId = dto.userId) && !n.deleted &&
    dto.category.all (fun category => decide (n.category = category)) &&
    dto.read.all (fun read => decide (n.read = read)) &&
    dto.status.all (fun status => decide (n.status = status)) &&
    dto.priority.all (fun priority => decide (n.priority = priority)) &&
    after.all (fun time => decide (time < n.createdAt)) &&
    before.all (fun time => decide (n.createdAt < time))

/-- The condition of a cursor. -/
def isAfterCursor (cursor : HistoryCursor) (n : Notification) : Bool :=
  decide (n.createdAt < fromDate cursor.createdAt ∨
    (n.createdAt = fromDate cursor.createdAt ∧ n.id.value < cursor.id.value))

def sortOrderOf (sortOrder : String) : Except Exception SortOrder :=
  if sortOrder = "ASC" then .ok .ASC
  else if sortOrder = "DESC" then .ok .DESC
  else .error (.error
    "SelectQueryBuilder.addOrderBy \"order\" can accept only \"ASC\" and \"DESC\" values.")

/-- The column and then the id, both ascending. -/
def ascends (column : SortColumn) (a b : Notification) : Prop :=
  column.le a b = true ∧ (column.le b a = true → a.id.value ≤ b.id.value)

instance (column : SortColumn) (a b : Notification) : Decidable (ascends column a b) :=
  inferInstanceAs (Decidable (_ ∧ _))

def orderBy (column : SortColumn) : SortOrder → Notification → Notification → Prop
  | .ASC => fun a b => ascends column a b
  | .DESC => fun a b => ascends column b a

instance (column : SortColumn) (order : SortOrder) : DecidableRel (orderBy column order) :=
  match order with
  | .ASC => fun a b => inferInstanceAs (Decidable (ascends column a b))
  | .DESC => fun a b => inferInstanceAs (Decidable (ascends column b a))

def cursorOf (n : Notification) : HistoryCursor := { createdAt := toDate n.createdAt, id := n.id }

def getHistory (notifications : Table Notification Notification.id)
    (dto : QueryNotificationHistoryDto) : Except Exception NotificationHistory := do
  let matching ← conditions db dto
  let selects := fun n => matching n && dto.cursor.all fun cursor => isAfterCursor cursor n
  let rows := notifications.rows.filter selects
  let sortOrder ← sortOrderOf (orDefault dto.sortOrder "DESC")
  let sortBy := orDefault dto.sortBy "createdAt"
  match db.sortColumn sortBy with
  | none => throw queryFailed
  | some column =>
    let limit := dto.limit.getD 20
    let results := (rows.insertionSort (orderBy column sortOrder)).take (limit + 1)
    let hasMore := decide (limit < results.length)
    let results := if hasMore then results.dropLast else results
    let nextCursor := if hasMore then results.getLast?.map cursorOf else none
    pure { data := results, total := rows.length, nextCursor := nextCursor }

end NotificationService

end AlianStructure.Source.Notifications
