import Mathlib.Data.List.Count
import AlianStructure.Source.Notifications.NotificationProcessor

/-!
# The channels of a notification

Source: src/notifications/services/notification-processor.service.ts:36-165,201-235. The loop reads a time zone from a
preference that need not be there, and takes the quiet hours for an interval within one day.
-/
namespace AlianStructure.Guarantees.ChannelGating
open Library.KeyedTable
open Source.Pagination Source.Notifications NotificationProcessor

/-- The hours from one on up to another, on the clock. -/
def Cyclic (start finish hour : Int) : Prop :=
  if start ≤ finish then start ≤ hour ∧ hour < finish else start ≤ hour ∨ hour < finish

section Gates
variable (surroundings : Surroundings) (notification : Notification) (channel : NotificationChannel)

/-- The preference of the user for a channel. -/
def preferenceOf : Option NotificationPreference :=
  surroundings.preferences.findOne (notification.userId, notification.category, channel)

/-- The local hour is within the quiet hours, as far as both are known. -/
def Quiet (row : NotificationPreference) : Prop :=
  ∃ start finish hour, row.quietHoursStart = some start ∧ row.quietHoursEnd = some finish ∧
    getUserLocalHour surroundings.hours row.timezone = some hour ∧ Cyclic start finish (hour.val % 24)

/-- A text that names no priority asks for none. -/
def Reaches (row : NotificationPreference) : Prop :=
  ∀ least : NotificationPriority, row.minPriority = some least.text → least.rank ≤ notification.priority.rank

/-- All that is asked of a channel besides the hour. -/
structure Eligible : Prop where
  enabled : ∀ row, preferenceOf surroundings notification channel = some row → row.preference ≠ .disabled
  reaches : ∀ row, preferenceOf surroundings notification channel = some row → Reaches notification row
  provided : surroundings.providers channel ≠ none
  addressed : resolveRecipientAddress (preferenceOf surroundings notification channel) channel ≠ none

structure Passes : Prop where
  eligible : Eligible surroundings notification channel
  awake : ∀ row, preferenceOf surroundings notification channel = some row → ¬ Quiet surroundings row

/-- The hour is between the two bounds within the day exactly when it is in the quiet hours on the clock. -/
def Heeded (row : NotificationPreference) : Prop :=
  ∀ start finish hour, row.quietHoursStart = some start → row.quietHoursEnd = some finish →
    getUserLocalHour surroundings.hours row.timezone = some hour →
      ((start ≤ hour.val ∧ (hour.val : Int) < finish) ↔ Cyclic start finish (hour.val % 24))

end Gates

/-- The calls of a provider for a channel. -/
def callsFor (calls : List ChannelDeliveryPayload) (channel : NotificationChannel) : Nat :=
  calls.countP fun call => decide (call.channel = channel)

/-- The run reaches its final update, and calls a provider once for each channel of the notification that passes and
for no other one. -/
structure Gated (surroundings : Surroundings) (deliveries : Deliveries) (notification : Notification) : Prop where
  finishes : (processNotification surroundings notification.id deliveries).2 = none
  gated : ∃ made, (processNotification surroundings notification.id deliveries).1.calls = deliveries.calls ++ made ∧
    ∀ channel ∈ channelsOf notification,
      (Passes surroundings notification channel → callsFor made channel = 1) ∧
      (¬ Passes surroundings notification channel → callsFor made channel = 0)

/-- A cancelled notification has no channel that passes. Any other one has a preference for every channel; the hour is
heeded where the rest is in order; and no channel that passes is listed twice. -/
structure Gateable (surroundings : Surroundings) (notification : Notification) : Prop where
  cancelled : notification.status = .cancelled →
    ∀ channel ∈ channelsOf notification, ¬ Passes surroundings notification channel
  known : notification.status ≠ .cancelled →
    ∀ channel ∈ channelsOf notification, preferenceOf surroundings notification channel ≠ none
  heeded : notification.status ≠ .cancelled → ∀ channel ∈ channelsOf notification,
    Eligible surroundings notification channel →
      ∀ row, preferenceOf surroundings notification channel = some row → Heeded surroundings row
  once : notification.status ≠ .cancelled → ∀ channel ∈ channelsOf notification,
    Passes surroundings notification channel → (channelsOf notification).count channel = 1

variable {surroundings : Surroundings} {deliveries : Deliveries} {notification : Notification}
  {channel : NotificationChannel} {row : NotificationPreference}

/-! ## The quiet hours -/

/-- The comparison that the loop makes. -/
def Between (surroundings : Surroundings) (row : NotificationPreference) : Prop :=
  ∃ start finish hour, row.quietHoursStart = some start ∧ row.quietHoursEnd = some finish ∧
    getUserLocalHour surroundings.hours row.timezone = some hour ∧ start ≤ hour.val ∧ (hour.val : Int) < finish

theorem inQuietHours_some (surroundings : Surroundings) (row : NotificationPreference) : ∃ quiet,
    inQuietHours surroundings.hours (some row) = .ok quiet ∧ (quiet = true ↔ Between surroundings row) := by
  unfold inQuietHours Between
  cases isStart : row.quietHoursStart with
  | none => exact ⟨false, by simp only [isStart], by simp⟩
  | some start =>
    cases isFinish : row.quietHoursEnd with
    | none => exact ⟨false, by simp only [isStart, isFinish], by simp⟩
    | some finish =>
      cases isHour : getUserLocalHour surroundings.hours row.timezone with
      | none => exact ⟨false, by simp [isStart, isFinish, isHour], by simp⟩
      | some hour =>
        exact ⟨decide (start ≤ hour.val) && decide ((hour.val : Int) < finish), by simp [isStart, isFinish, isHour],
          by simp⟩

theorem quiet_iff_of_heeded (heeded : Heeded surroundings row) : Quiet surroundings row ↔ Between surroundings row := by
  constructor
  · rintro ⟨start, finish, hour, isStart, isFinish, isHour, inside⟩
    exact ⟨start, finish, hour, isStart, isFinish, isHour, (heeded start finish hour isStart isFinish isHour).mpr inside⟩
  · rintro ⟨start, finish, hour, isStart, isFinish, isHour, inside⟩
    exact ⟨start, finish, hour, isStart, isFinish, isHour, (heeded start finish hour isStart isFinish isHour).mp inside⟩

theorem heeded_of_quiet_iff (same : Quiet surroundings row ↔ Between surroundings row) : Heeded surroundings row := by
  intro start finish hour isStart isFinish isHour
  constructor
  · intro inside
    obtain ⟨start', finish', hour', isStart', isFinish', isHour', cyclic⟩ :=
      same.mpr ⟨start, finish, hour, isStart, isFinish, isHour, inside⟩
    cases isStart.symm.trans isStart'
    cases isFinish.symm.trans isFinish'
    cases isHour.symm.trans isHour'
    exact cyclic
  · intro cyclic
    obtain ⟨start', finish', hour', isStart', isFinish', isHour', inside⟩ :=
      same.mp ⟨start, finish, hour, isStart, isFinish, isHour, cyclic⟩
    cases isStart.symm.trans isStart'
    cases isFinish.symm.trans isFinish'
    cases isHour.symm.trans isHour'
    exact inside

/-! ## The least priority -/

theorem indexOf_text (priority : NotificationPriority) : indexOf priorityOrder priority.text = priority.rank := by
  cases priority <;> decide

theorem text_injective {one other : NotificationPriority} (same : one.text = other.text) : one = other := by
  cases one <;> cases other <;> first | rfl | exact absurd same (by decide)

theorem indexOf_unknown {text : String} (unknown : ∀ priority : NotificationPriority, text ≠ priority.text) :
    indexOf priorityOrder text = -1 := by
  have absent : (priorityOrder.findIdx? fun other => decide (other = text)) = none := by
    rw [List.findIdx?_eq_none_iff]
    intro other member
    simp only [priorityOrder, List.mem_cons, List.not_mem_nil, or_false] at member
    rcases member with rfl | rfl | rfl | rfl
    · exact decide_eq_false (unknown .low).symm
    · exact decide_eq_false (unknown .normal).symm
    · exact decide_eq_false (unknown .high).symm
    · exact decide_eq_false (unknown .critical).symm
  rw [indexOf, absent]

theorem belowMinimum_iff : belowMinimum (some row) notification.priority = false ↔ Reaches notification row := by
  unfold belowMinimum Reaches
  rw [Option.bind_some]
  cases isMinimum : row.minPriority with
  | none => simp
  | some text =>
    by_cases known : ∃ least : NotificationPriority, text = least.text
    · obtain ⟨least, rfl⟩ := known
      have named : ∀ other : NotificationPriority, some least.text = some other.text ↔ least = other :=
        fun other => ⟨fun same => text_injective (Option.some.inj same), fun same => same ▸ rfl⟩
      simp only [named, forall_eq', indexOf_text]
      generalize notification.priority = priority
      cases least <;> cases priority <;> decide
    · have unknown : ∀ priority : NotificationPriority, text ≠ priority.text := fun priority same => known ⟨priority, same⟩
      simp only [Option.some.injEq, indexOf_text, indexOf_unknown unknown]
      refine ⟨fun _ least same => absurd same (unknown least), fun _ => ?_⟩
      have atLeast : ¬ ((notification.priority.rank : Int) < -1) := by omega
      simp [atLeast]

/-! ## One channel -/

/-- What the loop delivers on a channel. -/
def request (surroundings : Surroundings) (notification : Notification) (channel : NotificationChannel) :
    Option ChannelDeliveryPayload :=
  match resolve surroundings notification channel with
  | .ok (some (_, recipientAddress)) => some (payload notification channel recipientAddress)
  | _ => none

theorem resolve_unknown (unknown : preferenceOf surroundings notification channel = none) :
    ∃ failure, resolve surroundings notification channel = .error failure := by
  unfold preferenceOf at unknown
  unfold resolve
  rw [unknown]
  exact ⟨_, rfl⟩

/-- A channel with a preference is skipped or delivered on: the latter when it is eligible and the hour is not between
the two bounds. -/
theorem resolve_known (known : preferenceOf surroundings notification channel = some row) :
    (∃ verdict, resolve surroundings notification channel = .ok verdict) ∧
      (request surroundings notification channel ≠ none ↔
        Eligible surroundings notification channel ∧ ¬ Between surroundings row) := by
  have sole : ∀ {P : NotificationPreference → Prop},
      (∀ other, preferenceOf surroundings notification channel = some other → P other) ↔ P row :=
    ⟨fun all => all row known, fun holds other same => Option.some.inj (known.symm.trans same) ▸ holds⟩
  have eligible_iff : Eligible surroundings notification channel ↔ row.preference ≠ .disabled ∧
      Reaches notification row ∧ surroundings.providers channel ≠ none ∧
        resolveRecipientAddress (some row) channel ≠ none := by
    constructor
    · rintro ⟨enabled, reaches, provided, addressed⟩
      exact ⟨sole.mp enabled, sole.mp reaches, provided, known ▸ addressed⟩
    · rintro ⟨enabled, reaches, provided, addressed⟩
      exact ⟨sole.mpr enabled, sole.mpr reaches, provided, known.symm ▸ addressed⟩
  obtain ⟨quiet, isQuiet, between⟩ := inQuietHours_some surroundings row
  rw [eligible_iff, ← belowMinimum_iff, ← between]
  unfold preferenceOf at known
  unfold request resolve
  simp only [known, isQuiet, Option.any_some]
  by_cases disabled : row.preference = .disabled
  · simp [disabled, pure, Except.pure]
  · cases quiet with
    | true => simp [disabled, bind, Except.bind, pure, Except.pure]
    | false =>
      cases below : belowMinimum (some row) notification.priority with
      | true => simp [disabled, bind, Except.bind, pure, Except.pure]
      | false =>
        cases provided : surroundings.providers channel with
        | none => simp [disabled, bind, Except.bind, pure, Except.pure]
        | some provider =>
          cases addressed : resolveRecipientAddress (some row) channel with
          | none => simp [disabled, bind, Except.bind, pure, Except.pure]
          | some recipientAddress => simp [disabled, bind, Except.bind, pure, Except.pure]

theorem request_channel {call : ChannelDeliveryPayload} (requested : request surroundings notification channel = some call) :
    call.channel = channel := by
  unfold request at requested
  split at requested
  next =>
    obtain rfl := Option.some.inj requested
    rfl
  next => cases requested

/-! ## All channels -/

/-- Over channels with a preference, the loop ends, and has delivered what each of them requests. -/
theorem deliverAll_known (channels : List NotificationChannel) (deliveries : Deliveries)
    (known : ∀ channel ∈ channels, preferenceOf surroundings notification channel ≠ none) :
    (deliverAll surroundings notification channels deliveries).2 = none ∧
      (deliverAll surroundings notification channels deliveries).1.calls =
        deliveries.calls ++ channels.filterMap (request surroundings notification) := by
  induction channels generalizing deliveries with
  | nil => exact ⟨rfl, (List.append_nil _).symm⟩
  | cons channel rest ih =>
    have later : ∀ other ∈ rest, preferenceOf surroundings notification other ≠ none :=
      fun other member => known other (List.mem_cons_of_mem _ member)
    obtain ⟨row, isRow⟩ := Option.ne_none_iff_exists'.mp (known channel List.mem_cons_self)
    obtain ⟨⟨verdict, resolved⟩, -⟩ := resolve_known isRow
    unfold deliverAll
    cases verdict with
    | none =>
      have nothing : request surroundings notification channel = none := by rw [request, resolved]
      simp only [resolved]
      rw [List.filterMap_cons_none nothing]
      exact ih deliveries later
    | some reached =>
      have requested : request surroundings notification channel = some (payload notification channel reached.2) := by
        rw [request, resolved]
      simp only [resolved]
      rw [List.filterMap_cons_some requested]
      obtain ⟨ends, calls⟩ := ih (deliver surroundings.now notification channel reached.1 reached.2 deliveries) later
      refine ⟨ends, calls.trans ?_⟩
      exact List.append_assoc ..

theorem deliverAll_throws (channels : List NotificationChannel) (deliveries : Deliveries)
    (unknown : ∃ channel ∈ channels, preferenceOf surroundings notification channel = none) :
    (deliverAll surroundings notification channels deliveries).2 ≠ none := by
  induction channels generalizing deliveries with
  | nil => exact absurd unknown (by simp)
  | cons channel rest ih =>
    unfold deliverAll
    cases resolved : resolve surroundings notification channel with
    | error failure => exact Option.some_ne_none failure
    | ok verdict =>
      have later : ∃ other ∈ rest, preferenceOf surroundings notification other = none := by
        obtain ⟨other, member, isNone⟩ := unknown
        rcases List.mem_cons.mp member with rfl | tail
        · obtain ⟨failure, throws⟩ := resolve_unknown isNone
          rw [resolved] at throws
          cases throws
        · exact ⟨other, tail, isNone⟩
      cases verdict with
      | none => exact ih deliveries later
      | some reached => exact ih _ later

/-- The calls for a channel: one for each time it is listed, when it is delivered on. -/
theorem callsFor_requests (channels : List NotificationChannel) (channel : NotificationChannel) :
    callsFor (channels.filterMap (request surroundings notification)) channel =
      if request surroundings notification channel = none then 0 else channels.count channel := by
  unfold callsFor
  induction channels with
  | nil => simp
  | cons first rest ih =>
    cases requested : request surroundings notification first with
    | none =>
      rw [List.filterMap_cons_none requested, ih, List.count_cons]
      by_cases same : first = channel
      · subst same
        simp [requested]
      · simp [same]
    | some call =>
      rw [List.filterMap_cons_some requested, List.countP_cons, ih, List.count_cons, request_channel requested]
      by_cases same : first = channel
      · subst same
        simp [requested]
      · simp [same]

/-! ## The whole run -/

/-- A run over a notification that is there and not cancelled is the loop, and then the final update. -/
theorem process_eq (surroundings : Surroundings)
    (found : deliveries.notifications.findOne notification.id = some notification)
    (active : notification.status ≠ .cancelled) : (processNotification surroundings notification.id deliveries).2 =
        (deliverAll surroundings notification (channelsOf notification) (markSending notification deliveries)).2 ∧
      (processNotification surroundings notification.id deliveries).1.calls =
        (deliverAll surroundings notification (channelsOf notification) (markSending notification deliveries)).1.calls := by
  unfold processNotification
  rw [found]
  simp only [if_neg active]
  cases (deliverAll surroundings notification (channelsOf notification) (markSending notification deliveries)) with
  | mk after thrown =>
    cases thrown with
    | none => exact ⟨rfl, rfl⟩
    | some failure => exact ⟨rfl, rfl⟩

/-- A channel with a preference has its calls as it should exactly when the hour is heeded where the rest is in order,
and it is listed once where it passes. -/
theorem channel_gated_iff (known : preferenceOf surroundings notification channel ≠ none)
    (member : channel ∈ channelsOf notification) : ((Passes surroundings notification channel →
        callsFor ((channelsOf notification).filterMap (request surroundings notification)) channel = 1) ∧
      (¬ Passes surroundings notification channel →
        callsFor ((channelsOf notification).filterMap (request surroundings notification)) channel = 0)) ↔
    (Eligible surroundings notification channel →
        ∀ row, preferenceOf surroundings notification channel = some row → Heeded surroundings row) ∧
      (Passes surroundings notification channel → (channelsOf notification).count channel = 1) := by
  obtain ⟨row, isRow⟩ := Option.ne_none_iff_exists'.mp known
  have sole : ∀ {P : NotificationPreference → Prop},
      (∀ other, preferenceOf surroundings notification channel = some other → P other) ↔ P row :=
    ⟨fun all => all row isRow, fun holds other same => Option.some.inj (isRow.symm.trans same) ▸ holds⟩
  have listed : 0 < (channelsOf notification).count channel := List.count_pos_iff.mpr member
  have passes_iff : Passes surroundings notification channel ↔
      Eligible surroundings notification channel ∧ ¬ Quiet surroundings row :=
    ⟨fun passes => ⟨passes.eligible, sole.mp passes.awake⟩, fun ⟨eligible, awake⟩ => ⟨eligible, sole.mpr awake⟩⟩
  have heeded_iff_same : Heeded surroundings row ↔ (Quiet surroundings row ↔ Between surroundings row) :=
    ⟨quiet_iff_of_heeded, heeded_of_quiet_iff⟩
  obtain ⟨-, requested⟩ := resolve_known isRow
  rw [callsFor_requests, sole, passes_iff, heeded_iff_same]
  by_cases eligible : Eligible surroundings notification channel
  · by_cases between : Between surroundings row
    · have skipped : request surroundings notification channel = none := by
        by_contra reached
        exact (requested.mp reached).2 between
      simp only [skipped, eligible, between]
      by_cases quiet : Quiet surroundings row <;> simp [quiet]
    · have delivered : ¬ request surroundings notification channel = none := requested.mpr ⟨eligible, between⟩
      simp only [delivered, eligible, between, if_false]
      by_cases quiet : Quiet surroundings row
      · simp only [quiet]
        simp
        omega
      · simp [quiet]
  · have skipped : request surroundings notification channel = none := by
      by_contra reached
      exact eligible (requested.mp reached).1
    simp [skipped, eligible]

theorem gated_cancelled_iff (found : deliveries.notifications.findOne notification.id = some notification)
    (cancelled : notification.status = .cancelled) :
    Gated surroundings deliveries notification ↔ Gateable surroundings notification := by
  have untouched : processNotification surroundings notification.id deliveries = (deliveries, none) := by
    rw [processNotification, found]
    simp only [if_pos cancelled]
  constructor
  · rintro ⟨-, made, calls, gated⟩
    rw [untouched] at calls
    have nothing : made = [] := List.self_eq_append_right.mp calls
    subst nothing
    refine ⟨fun _ channel member passes => ?_, fun other => absurd cancelled other,
      fun other => absurd cancelled other, fun other => absurd cancelled other⟩
    exact absurd ((gated channel member).1 passes) Nat.zero_ne_one
  · intro gateable
    refine ⟨by rw [untouched], [], by rw [untouched, List.append_nil], fun channel member => ⟨fun passes => ?_, fun _ => rfl⟩⟩
    exact absurd passes (gateable.cancelled cancelled channel member)

theorem gated_active_iff (found : deliveries.notifications.findOne notification.id = some notification)
    (active : notification.status ≠ .cancelled) :
    Gated surroundings deliveries notification ↔ Gateable surroundings notification := by
  obtain ⟨finishes, calls⟩ := process_eq surroundings found active
  by_cases known : ∀ channel ∈ channelsOf notification, preferenceOf surroundings notification channel ≠ none
  · obtain ⟨ends, loop⟩ := deliverAll_known (channelsOf notification) (markSending notification deliveries) known
    rw [loop] at calls
    rw [ends] at finishes
    have each := fun channel (member : channel ∈ channelsOf notification) =>
      channel_gated_iff (known channel member) member
    constructor
    · rintro ⟨-, made, made_eq, gated⟩
      obtain rfl : made = (channelsOf notification).filterMap (request surroundings notification) :=
        (List.append_cancel_left (calls.symm.trans made_eq)).symm
      exact ⟨fun other => absurd other active, fun _ => known,
        fun _ channel member => ((each channel member).mp (gated channel member)).1,
        fun _ channel member => ((each channel member).mp (gated channel member)).2⟩
    · intro gateable
      exact ⟨finishes, _, calls, fun channel member => (each channel member).mpr
        ⟨gateable.heeded active channel member, gateable.once active channel member⟩⟩
  · have unknown : ∃ channel ∈ channelsOf notification, preferenceOf surroundings notification channel = none := by
      simpa only [not_forall, not_not, exists_prop] using known
    constructor
    · rintro ⟨ends, -⟩
      exact absurd (finishes.symm.trans ends) (deliverAll_throws _ _ unknown)
    · exact fun gateable => absurd (gateable.known active) known

/-- The notification with an id, when there is one, is gated. -/
def GatedRun (surroundings : Surroundings) (deliveries : Deliveries) (notificationId : Uuid) : Prop :=
  ∀ notification, deliveries.notifications.findOne notificationId = some notification →
    Gated surroundings deliveries notification

/-- The channels of a notification are gated exactly when it is gateable. -/
theorem channels_gated_iff (surroundings : Surroundings) (deliveries : Deliveries) (notificationId : Uuid) :
    GatedRun surroundings deliveries notificationId ↔ ∀ notification,
      deliveries.notifications.findOne notificationId = some notification → Gateable surroundings notification := by
  refine forall_congr' fun notification => forall_congr' fun isFound => ?_
  have found : deliveries.notifications.findOne notification.id = some notification := by
    rw [(Table.findOne_key isFound : notification.id = notificationId)]
    exact isFound
  by_cases cancelled : notification.status = .cancelled
  · exact gated_cancelled_iff found cancelled
  · exact gated_active_iff found cancelled

/-! ## A user without a preference -/

def welcome : Notification where
  id := ⟨0⟩
  userId := "u"
  title := "Welcome"
  body := "Hello"
  htmlBody := none
  category := .system
  priority := .normal
  status := .queued
  primaryChannel := .email
  channels := none
  templateName := none
  templateVars := none
  referenceId := none
  referenceType := none
  read := false
  readAt := none
  scheduledAt := none
  sentAt := none
  deliveredAt := none
  attemptCount := 0
  maxAttempts := 5
  aggregationKey := none
  aggregationCount := 0
  metadata := none
  deleted := false
  createdAt := 0

/-- The time zone of the preference that is not there is read. -/
theorem missing_preference : ¬ GatedRun ⟨Table.empty, fun _ => none, fun _ => none, 0⟩
    ⟨Table.empty.save welcome, [], []⟩ ⟨0⟩ := by
  intro gated
  have thrown : (processNotification ⟨Table.empty, fun _ => none, fun _ => none, 0⟩ welcome.id
      ⟨Table.empty.save welcome, [], []⟩).2 =
        some (.error "Cannot read properties of null (reading 'timezone')") := rfl
  exact absurd ((gated welcome rfl).finishes) (thrown ▸ Option.some_ne_none _)

end AlianStructure.Guarantees.ChannelGating
