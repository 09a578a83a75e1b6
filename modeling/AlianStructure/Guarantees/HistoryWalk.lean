import AlianStructure.Library.KeysetWalk
import AlianStructure.Source.Notifications.Notification

/-!
# Walking the notification history

Source: src/notifications/services/notification.service.ts:210-288. The condition of a cursor is on
the creation time and the id, below it, whatever the rows are sorted by and in which direction.
-/
namespace AlianStructure.Guarantees.HistoryWalk
open Library.KeyedTable Library.KeysetWalk
open Source Source.Pagination Source.Notifications NotificationService

section Statement
variable (db : Database) (notifications : Table Notification Notification.id)
  (dto : QueryNotificationHistoryDto)

/-- A notification that the query asks for. -/
structure Matches (n : Notification) : Prop where
  user : n.userId = dto.userId
  kept : n.deleted = false
  category : ∀ category ∈ dto.category, n.category = category
  channel : ∀ channel ∈ dto.channel,
    n.primaryChannel = channel ∨ ∃ channels ∈ n.channels, channel ∈ channels
  read : ∀ read ∈ dto.read, n.read = read
  status : ∀ status ∈ dto.status, n.status = status
  priority : ∀ priority ∈ dto.priority, n.priority = priority
  after : ∀ text ∈ dto.after, ∃ time ∈ db.timestamp text, time < n.createdAt
  before : ∀ text ∈ dto.before, ∃ time ∈ db.timestamp text, n.createdAt < time

/-- In the order of a column, in a direction. -/
def InOrder (column : SortColumn) : SortOrder → List Notification → Prop
  | .ASC, seen => seen.Pairwise fun a b => column.le a b = true
  | .DESC, seen => seen.Pairwise fun a b => column.le b a = true

/-- The request names a column and a direction. -/
structure Requested (column : SortColumn) (order : SortOrder) : Prop where
  column : db.sortColumn (orDefault dto.sortBy "createdAt") = some column
  order : sortOrderOf (orDefault dto.sortOrder "DESC") = .ok order

/-- Every notification that the query asks for once, in the requested order. -/
structure Complete (seen : List Notification) : Prop where
  once : seen.Nodup
  all : ∀ n, n ∈ seen ↔ n ∈ notifications.rows ∧ Matches db dto n
  inOrder : ∃ column order, Requested db dto column order ∧ InOrder column order seen

/-- The next page, as a client that follows `nextCursor` gets it. -/
def fetch (cursor : Option HistoryCursor) : Option (Page Notification HistoryCursor) :=
  match getHistory db notifications { dto with cursor := cursor } with
  | .ok history => some { rows := history.data, next := history.nextCursor }
  | .error _ => none

/-- The notifications that the query asks for, by the column and the id, in the direction. -/
structure Listing (column : SortColumn) (order : SortOrder) (listed : List Notification) : Prop where
  once : listed.Nodup
  all : ∀ n, n ∈ listed ↔ n ∈ notifications.rows ∧ Matches db dto n
  sorted : listed.Pairwise (orderBy column order)

/-- The database takes the conditions: none is on the channel, and dates can be read. -/
structure Taken : Prop where
  channel : dto.channel = none
  after : ∀ text ∈ dto.after, ∃ time, db.timestamp text = some time
  before : ∀ text ∈ dto.before, ∃ time, db.timestamp text = some time

/-- The query names a column and a direction and the database takes its conditions; and of the
notifications that it asks for, those listed behind the last one of a page are those below it by
creation, in milliseconds, and id. -/
def Walkable : Prop :=
  Taken db dto ∧ ∃ column order listed, Requested db dto column order ∧
    Listing db notifications dto column order listed ∧
      ∀ n last, (n + 1) * dto.limit.getD 20 < listed.length →
        listed[(n + 1) * dto.limit.getD 20 - 1]? = some last →
          listed.filter (isAfterCursor (cursorOf last)) = listed.drop ((n + 1) * dto.limit.getD 20)

end Statement

section Order
variable {column : SortColumn} {order : SortOrder}

theorem ascends_total (a b : Notification) : ascends column a b ∨ ascends column b a := by
  unfold ascends
  rcases column.total a b with forth | back
  · by_cases back : column.le b a = true
    · rcases Nat.le_total a.id.value b.id.value with less | more
      · exact Or.inl ⟨forth, fun _ => less⟩
      · exact Or.inr ⟨back, fun _ => more⟩
    · exact Or.inl ⟨forth, fun other => absurd other back⟩
  · by_cases forth : column.le a b = true
    · rcases Nat.le_total a.id.value b.id.value with less | more
      · exact Or.inl ⟨forth, fun _ => less⟩
      · exact Or.inr ⟨back, fun _ => more⟩
    · exact Or.inr ⟨back, fun other => absurd other forth⟩

theorem ascends_trans {a b c : Notification} (first : ascends column a b)
    (second : ascends column b c) : ascends column a c := by
  refine ⟨column.trans _ _ _ first.1 second.1, fun back => ?_⟩
  have ba := column.trans _ _ _ second.1 back
  have cb := column.trans _ _ _ back first.1
  exact le_trans (first.2 ba) (second.2 cb)

theorem ascends_antisymm {a b : Notification} (forth : ascends column a b)
    (back : ascends column b a) : a.id = b.id :=
  Uuid.eq_of_val (Nat.le_antisymm (forth.2 back.1) (back.2 forth.1))

instance : Std.Total (orderBy column order) where
  total a b := by
    cases order with
    | ASC => exact ascends_total a b
    | DESC => exact ascends_total b a

instance : IsTrans Notification (orderBy column order) where
  trans a b c first second := by
    cases order with
    | ASC => exact ascends_trans first second
    | DESC => exact ascends_trans second first

theorem orderBy_antisymm {a b : Notification} (forth : orderBy column order a b)
    (back : orderBy column order b a) : a.id = b.id := by
  cases order with
  | ASC => exact ascends_antisymm forth back
  | DESC => exact ascends_antisymm back forth

theorem InOrder.of_orderBy {seen : List Notification} (sorted : seen.Pairwise (orderBy column order)) :
    InOrder column order seen := by
  cases order with
  | ASC => exact sorted.imp fun pair => pair.1
  | DESC => exact sorted.imp fun pair => pair.1

end Order

section Cursors

theorem isAfterCursor_iff {cursor : HistoryCursor} {n : Notification} :
    isAfterCursor cursor n = true ↔ n.createdAt < fromDate cursor.createdAt ∨
      (n.createdAt = fromDate cursor.createdAt ∧ n.id.value < cursor.id.value) :=
  decide_eq_true_iff

theorem isAfterCursor_nested {cursor : HistoryCursor} {n other : Notification}
    (first : isAfterCursor cursor n = true) (second : isAfterCursor (cursorOf n) other = true) :
    isAfterCursor cursor other = true := by
  rw [isAfterCursor_iff] at *
  have below := fromDate_toDate_le n.createdAt
  simp only [cursorOf] at second
  omega

end Cursors

section Conditions
variable {db : Database} {dto : QueryNotificationHistoryDto} {selects : Notification → Bool}
variable {text : Option String}

theorem readTimestamp_ok {time : Option Int} (read : text.mapM (readTimestamp db) = .ok time) :
    (text = none ∧ time = none) ∨ ∃ t i, text = some t ∧ db.timestamp t = some i ∧ time = some i := by
  cases text with
  | none =>
    cases read
    exact Or.inl ⟨rfl, rfl⟩
  | some t =>
    cases known : db.timestamp t with
    | none => simp [readTimestamp, known, Functor.map, Except.map] at read
    | some i =>
      simp [readTimestamp, known, Functor.map, Except.map] at read
      exact Or.inr ⟨t, i, rfl, known, read.symm⟩

theorem readable_of_ok {time : Option Int} (read : text.mapM (readTimestamp db) = .ok time) :
    ∀ t ∈ text, ∃ i, db.timestamp t = some i := by
  rcases readTimestamp_ok read with ⟨rfl, _⟩ | ⟨t, i, rfl, known, _⟩
  · exact fun _ isSome => nomatch isSome
  · rintro _ ⟨⟩
    exact ⟨i, known⟩

theorem compare_iff {time : Option Int} (read : text.mapM (readTimestamp db) = .ok time) (p : Int → Prop)
    [DecidablePred p] : time.all (fun i => decide (p i)) = true ↔ ∀ t ∈ text, ∃ i ∈ db.timestamp t, p i := by
  rcases readTimestamp_ok read with ⟨rfl, rfl⟩ | ⟨t, i, rfl, known, rfl⟩
  · simp
  · simp [known]

theorem ok_of_readable (readable : ∀ t ∈ text, ∃ time, db.timestamp t = some time) :
    ∃ time, text.mapM (readTimestamp db) = .ok time := by
  cases text with
  | none => exact ⟨none, rfl⟩
  | some text =>
    obtain ⟨time, known⟩ := readable text rfl
    exact ⟨some time, by simp [readTimestamp, known, Functor.map, Except.map]⟩

theorem equals_iff {α : Type} [DecidableEq α] {asked : Option α} {value : α} :
    asked.all (fun other => decide (value = other)) = true ↔ ∀ other ∈ asked, value = other := by
  cases asked <;> simp

theorem conditions_taken (taken : Taken db dto) : ∃ selects, conditions db dto = .ok selects := by
  obtain ⟨after, isAfter⟩ := ok_of_readable taken.after
  obtain ⟨before, isBefore⟩ := ok_of_readable taken.before
  simp only [conditions, taken.channel, isAfter, isBefore]
  exact ⟨_, rfl⟩

theorem conditions_ok (isOk : conditions db dto = .ok selects) :
    Taken db dto ∧ ∀ n, selects n = true ↔ Matches db dto n := by
  cases isChannel : dto.channel with
  | some channel =>
    simp only [conditions, isChannel] at isOk
    cases isOk
  | none =>
    cases isAfter : dto.after.mapM (readTimestamp db) with
    | error failure =>
      simp only [conditions, isChannel, isAfter] at isOk
      cases isOk
    | ok after =>
      cases isBefore : dto.before.mapM (readTimestamp db) with
      | error failure =>
        simp only [conditions, isChannel, isAfter, isBefore] at isOk
        cases isOk
      | ok before =>
        simp only [conditions, isChannel, isAfter, isBefore] at isOk
        obtain rfl := Except.ok.inj isOk
        refine ⟨⟨isChannel, readable_of_ok isAfter, readable_of_ok isBefore⟩, fun n => ?_⟩
        have later := compare_iff isAfter (· < n.createdAt)
        have earlier := compare_iff isBefore (n.createdAt < ·)
        simp only [Bool.and_eq_true, equals_iff, decide_eq_true_eq, Bool.not_eq_true', later, earlier]
        constructor
        · rintro ⟨⟨⟨⟨⟨⟨⟨user, kept⟩, category⟩, read⟩, status⟩, priority⟩, after⟩, before⟩
          refine ⟨user, kept, category, fun _ isSome => ?_, read, status, priority, after, before⟩
          rw [isChannel] at isSome
          cases isSome
        · rintro ⟨user, kept, category, channel, read, status, priority, after, before⟩
          exact ⟨⟨⟨⟨⟨⟨⟨user, kept⟩, category⟩, read⟩, status⟩, priority⟩, after⟩, before⟩

end Conditions

section Pages
variable {db : Database} {notifications : Table Notification Notification.id}
  {dto : QueryNotificationHistoryDto} {column : SortColumn} {order : SortOrder}
  {selects : Notification → Bool}

/-- The notifications of a condition, in an order. -/
def sorted (notifications : Table Notification Notification.id) (column : SortColumn)
    (order : SortOrder) (selects : Notification → Bool) : List Notification :=
  (notifications.rows.filter selects).insertionSort (orderBy column order)

theorem sorted_nodup : (sorted notifications column order selects).Nodup :=
  (List.perm_insertionSort _ _).nodup_iff.mpr
    ((List.Nodup.of_map Notification.id notifications.unique).filter _)

theorem sorted_listing (isOk : conditions db dto = .ok selects) :
    Listing db notifications dto column order (sorted notifications column order selects) where
  once := sorted_nodup
  all n := by
    rw [sorted, (List.perm_insertionSort _ _).mem_iff, List.mem_filter, (conditions_ok isOk).2]
  sorted := List.pairwise_insertionSort (orderBy column order) _

theorem Listing.unique {one other : List Notification} (first : Listing db notifications dto column order one)
    (second : Listing db notifications dto column order other) : one = other := by
  have same : one.Perm other :=
    (List.perm_ext_iff_of_nodup first.once second.once).mpr fun n =>
      (first.all n).trans (second.all n).symm
  refine same.eq_of_pairwise (fun a b inA inB forth back => ?_) first.sorted second.sorted
  exact Table.eq_of_key_eq ((first.all a).mp inA).1 ((second.all b).mp inB).1
    (orderBy_antisymm forth back)

theorem Listing.complete {listed : List Notification} (requested : Requested db dto column order)
    (listing : Listing db notifications dto column order listed) : Complete db notifications dto listed where
  once := listing.once
  all := listing.all
  inOrder := ⟨column, order, requested, InOrder.of_orderBy listing.sorted⟩

theorem Complete.perm {seen listed : List Notification} (complete : Complete db notifications dto seen)
    (listing : Listing db notifications dto column order listed) : seen.Perm listed :=
  (List.perm_ext_iff_of_nodup complete.once listing.once).mpr fun n =>
    (complete.all n).trans (listing.all n).symm

/-- The notifications as the pages have them. -/
def keyset (notifications : Table Notification Notification.id) (column : SortColumn)
    (order : SortOrder) (selects : Notification → Bool) : Keyset Notification HistoryCursor where
  rows := sorted notifications column order selects
  distinct := sorted_nodup
  cursor := cursorOf
  selects := isAfterCursor
  nested _ _ _ := isAfterCursor_nested

theorem limit_pos : 0 < dto.limit.getD 20 := by
  cases isLimit : dto.limit with
  | none => decide
  | some limit => exact (dto.limit_accepted limit isLimit).1

theorem selected_eq (cursor : Option HistoryCursor) : (notifications.rows.filter fun n =>
      selects n && cursor.all fun c => isAfterCursor c n).insertionSort (orderBy column order) =
      (keyset notifications column order selects).selected cursor := by
  cases cursor with
  | none =>
    simp only [Option.all_none, Bool.and_true]
    rfl
  | some c =>
    have both : (notifications.rows.filter fun n => selects n && isAfterCursor c n) =
        (notifications.rows.filter selects).filter (isAfterCursor c) := by
      rw [List.filter_filter]
      exact List.filter_congr fun n _ => Bool.and_comm _ _
    simp only [Option.all_some, both]
    exact insertionSort_filter _ fun a inA b inB forth back =>
      Table.eq_of_key_eq (List.mem_filter.mp inA).1 (List.mem_filter.mp inB).1
        (orderBy_antisymm forth back)

theorem getHistory_eq (notifications : Table Notification Notification.id)
    (requested : Requested db dto column order) (isOk : conditions db dto = .ok selects) (cursor : Option HistoryCursor) :
    ∃ total, getHistory db notifications { dto with cursor := cursor } =
      let page := (keyset notifications column order selects).page (dto.limit.getD 20) cursor
      .ok { data := page.rows, total := total, nextCursor := page.next } := by
  have same : conditions db { dto with cursor := cursor } = .ok selects := isOk
  refine ⟨(notifications.rows.filter fun n =>
    selects n && cursor.all fun c => isAfterCursor c n).length, ?_⟩
  simp only [getHistory, same, requested.order, bind, Except.bind]
  rw [show db.sortColumn (orDefault dto.sortBy "createdAt") = some column from requested.column]
  have rows : (notifications.rows.filter fun n =>
      selects n && cursor.all fun c => isAfterCursor c n).insertionSort (orderBy column order) =
      (keyset notifications column order selects).selected cursor := selected_eq cursor
  simp only [rows, Keyset.page]
  generalize (keyset notifications column order selects).selected cursor = selected
  by_cases more : dto.limit.getD 20 < (selected.take (dto.limit.getD 20 + 1)).length
  · have full : (selected.take (dto.limit.getD 20 + 1)).length = dto.limit.getD 20 + 1 := by
      rw [List.length_take] at more ⊢
      omega
    have shortened : (selected.take (dto.limit.getD 20 + 1)).dropLast =
        (selected.take (dto.limit.getD 20 + 1)).take (dto.limit.getD 20) := by
      rw [List.dropLast_eq_take, full, Nat.add_sub_cancel]
    simp only [more, decide_true, if_true, shortened]
    rfl
  · simp only [more, decide_false, if_false]
    rfl

theorem fetch_eq (requested : Requested db dto column order)
    (isOk : conditions db dto = .ok selects) (cursor : Option HistoryCursor) : fetch db notifications dto cursor =
      some ((keyset notifications column order selects).page (dto.limit.getD 20) cursor) := by
  obtain ⟨total, answered⟩ := getHistory_eq notifications requested isOk cursor
  rw [fetch, answered]

/-- A page is fetched only for a query that names a column and a direction and whose conditions the
database takes. -/
theorem fetch_requested {cursor : Option HistoryCursor} {page : Page Notification HistoryCursor}
    (fetched : fetch db notifications dto cursor = some page) :
    ∃ column order selects, Requested db dto column order ∧ conditions db dto = .ok selects := by
  have same : conditions db { dto with cursor := cursor } = conditions db dto := rfl
  cases isOk : conditions db dto with
  | error failure =>
    simp only [fetch, getHistory, same, isOk] at fetched
    cases fetched
  | ok selects =>
    cases isOrder : sortOrderOf (orDefault dto.sortOrder "DESC") with
    | error failure =>
      simp only [fetch, getHistory, same, isOk, isOrder] at fetched
      cases fetched
    | ok order =>
      cases isColumn : db.sortColumn (orDefault dto.sortBy "createdAt") with
      | none =>
        simp only [fetch, getHistory, same, isOk, isOrder, isColumn] at fetched
        cases fetched
      | some column => exact ⟨column, order, selects, ⟨isColumn, isOrder⟩, rfl⟩

theorem walk_requested {cursor : Option HistoryCursor} {seen : List Notification}
    (walk : Walk (fetch db notifications dto) cursor seen) :
    ∃ column order selects, Requested db dto column order ∧ conditions db dto = .ok selects := by
  cases walk with
  | last fetched => exact fetch_requested fetched
  | more fetched later => exact fetch_requested fetched

theorem walk_iff (requested : Requested db dto column order) (isOk : conditions db dto = .ok selects) :
    (∃ seen, Walk (fetch db notifications dto) none seen ∧ Complete db notifications dto seen) ↔
      (keyset notifications column order selects).Seamless (dto.limit.getD 20) := by
  have listing : Listing db notifications dto column order
      (sorted notifications column order selects) := sorted_listing isOk
  exact Keyset.walk_iff_seamless (fun after _ => fetch_eq requested isOk after) limit_pos
    (fun _ complete => complete.perm listing) (listing.complete requested)

end Pages

/-- Following the cursors returns every notification that the query asks for once, in the requested
order, exactly when the history can be walked. -/
theorem history_walk_iff (db : Database) (notifications : Table Notification Notification.id)
    (dto : QueryNotificationHistoryDto) :
    (∃ seen, Walk (fetch db notifications dto) none seen ∧ Complete db notifications dto seen) ↔
      Walkable db notifications dto := by
  constructor
  · rintro ⟨seen, walk, complete⟩
    obtain ⟨column, order, selects, requested, isOk⟩ := walk_requested walk
    exact ⟨(conditions_ok isOk).1, column, order, _, requested, sorted_listing isOk,
      (walk_iff requested isOk).mp ⟨seen, walk, complete⟩⟩
  · rintro ⟨taken, column, order, listed, requested, listing, joined⟩
    obtain ⟨selects, isOk⟩ := conditions_taken taken
    obtain rfl := listing.unique (sorted_listing isOk)
    exact (walk_iff requested isOk).mpr joined

def sampleNotification (n : Fin 100) (createdAt : Int) : Notification where
  id := ⟨⟨n, by omega⟩⟩
  userId := "user"
  title := "title"
  body := "body"
  htmlBody := none
  category := .system
  priority := .normal
  status := .delivered
  primaryChannel := .inApp
  channels := none
  templateName := none
  templateVars := none
  referenceId := none
  referenceType := none
  read := false
  readAt := none
  scheduledAt := none
  sentAt := none
  deliveredAt := none
  attemptCount := 1
  maxAttempts := 5
  aggregationKey := none
  aggregationCount := 0
  metadata := none
  deleted := false
  createdAt := createdAt

local instance hundred_ne_zero : NeZero 100 := ⟨by decide⟩

theorem sampleNotifications_unique :
    ([sampleNotification 1 1000, sampleNotification 2 2000].map Notification.id).Nodup := by
  decide +kernel

/-- Two notifications, a millisecond apart. -/
def sampleNotifications : Table Notification Notification.id :=
  ⟨[sampleNotification 1 1000, sampleNotification 2 2000], sampleNotifications_unique⟩

theorem sampleLimit_accepted : ∀ n ∈ some 1, 1 ≤ n ∧ n ≤ 100 := by decide +kernel

/-- The oldest first, one a page. -/
def oldestFirst : QueryNotificationHistoryDto where
  userId := "user"
  limit := some 1
  limit_accepted := sampleLimit_accepted
  cursor := none
  category := none
  channel := none
  read := none
  status := none
  priority := none
  after := none
  before := none
  sortBy := none
  sortOrder := some "ASC"

/-- A database that knows no other columns. -/
def sampleDatabase : Database where
  expression _ := none
  timestamp _ := none

theorem oldest_first_lost : ¬ ∃ seen, Walk (fetch sampleDatabase sampleNotifications oldestFirst) none seen ∧
      Complete sampleDatabase sampleNotifications oldestFirst seen := by
  rintro ⟨seen, walk, complete⟩
  have first : fetch sampleDatabase sampleNotifications oldestFirst none =
      some ⟨[sampleNotification 1 1000], some ⟨1, ⟨1⟩⟩⟩ := by rfl
  have second : fetch sampleDatabase sampleNotifications oldestFirst (some ⟨1, ⟨1⟩⟩) =
      some ⟨[], none⟩ := by rfl
  have only : seen = [sampleNotification 1 1000] ++ [] := walk.unique (.more first (.last second))
  have matched : Matches sampleDatabase oldestFirst (sampleNotification 2 2000) := by
    constructor <;> first | rfl | exact fun _ isSome => nomatch isSome
  have met : sampleNotification 2 2000 ∈ seen := (complete.all _).mpr
    ⟨List.mem_cons_of_mem _ List.mem_cons_self, matched⟩
  rw [only, List.append_nil, List.mem_singleton] at met
  exact absurd (congrArg Notification.createdAt met) (by decide)

end AlianStructure.Guarantees.HistoryWalk
