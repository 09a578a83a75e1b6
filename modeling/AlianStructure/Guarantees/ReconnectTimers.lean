import AlianStructure.Library.Trajectory
import AlianStructure.Source.Dashboard.ReconnectionService

/-!
# The timers of the reconnection scheduler

Source: src/dashboard/websocket/services/reconnection.service.ts:42-203. A start sets a timer over one that is pending,
whose handle is then lost: nothing clears it any more.
-/
namespace AlianStructure.Guarantees.ReconnectTimers
open Library.Trajectory Source.Dashboard ReconnectionService

/-- The service, with what has happened: whether it was stopped, reset or told of a success after the last start; the
attempts scheduled since the last reset; and the calls for a reconnection while it was halted. -/
structure Watched where
  service : Reconnection
  halted : Bool
  scheduled : Nat
  late : Nat
  deriving DecidableEq

def reconnects (service : Reconnection) : Nat :=
  service.calls.countP fun called => match called with
    | .reconnect _ => true
    | _ => false

def haltedBy (halted : Bool) : Event → Bool
  | .configure _ | .reset | .stopReconnection | .notifySuccess => true
  | .startReconnection .. => false
  | .triggerAttempt _ | .timerFires _ => halted

def resets : Event → Bool
  | .configure _ | .reset | .notifySuccess => true
  | _ => false

def watch (watched : Watched) (event : Event) : Watched where
  service := step watched.service event
  halted := haltedBy watched.halted event
  scheduled := if resets event then 0
    else watched.scheduled + ((step watched.service event).nextTimer - watched.service.nextTimer)
  late := watched.late +
    if watched.halted then reconnects (step watched.service event) - reconnects watched.service else 0

def opening (config : PartialReconnectionConfig) : Watched := ⟨create config, true, 0, 0⟩

/-- One timer at most is pending, none after a halt, when nothing is called either; no delay is above the largest, and
no more attempts are scheduled than allowed. -/
structure Sound (watched : Watched) : Prop where
  single : watched.service.timers.length ≤ 1
  halted : watched.halted = true → watched.service.timers = []
  late : watched.late = 0
  bounded : ∀ timer ∈ watched.service.timers, timer.delay ≤ watched.service.config.maxDelay
  limited : ∀ maxAttempts, watched.service.config.maxAttempts = some maxAttempts → watched.scheduled ≤ maxAttempts

instance (watched : Watched) : Decidable (Sound watched) :=
  decidable_of_iff (watched.service.timers.length ≤ 1 ∧ (watched.halted = true → watched.service.timers = []) ∧
      watched.late = 0 ∧ (∀ timer ∈ watched.service.timers, timer.delay ≤ watched.service.config.maxDelay) ∧
        ∀ maxAttempts ∈ watched.service.config.maxAttempts, watched.scheduled ≤ maxAttempts)
    ⟨fun ⟨single, halted, late, bounded, limited⟩ => ⟨single, halted, late, bounded, fun m here => limited m here⟩,
      fun sound => ⟨sound.single, sound.halted, sound.late, sound.bounded, fun m here => sound.limited m here⟩⟩

/-- A start finds no timer pending, or no attempts left. -/
def Fresh (watched : Watched) : Event → Prop
  | .startReconnection .. => watched.service.timers = [] ∨
      ∃ maxAttempts, watched.service.config.maxAttempts = some maxAttempts ∧ maxAttempts ≤ watched.service.attempts
  | _ => True

/-- The handle is that of the pending timer, the service counts the attempts, and does not reconnect once halted. -/
structure Linked (watched : Watched) : Prop where
  tracked : ∀ timer ∈ watched.service.timers, watched.service.reconnectTimer = some timer.id
  counted : watched.scheduled = watched.service.attempts
  still : watched.halted = true → watched.service.isReconnecting = false

section Clearing
variable {service : Reconnection}

theorem clearTimeout_timers (tracked : ∀ timer ∈ service.timers, service.reconnectTimer = some timer.id) :
    (clearTimeout service).timers = [] := by
  refine List.filter_eq_nil_iff.mpr fun timer member => ?_
  simp [tracked timer member]

theorem clearTimer_timers (tracked : ∀ timer ∈ service.timers, service.reconnectTimer = some timer.id) :
    (clearTimer service).timers = [] := by
  unfold clearTimer
  split
  next => exact clearTimeout_timers tracked
  next handle =>
    refine List.eq_nil_iff_forall_not_mem.mpr fun timer member => handle ?_
    rw [tracked timer member, Option.isSome_some]

theorem clearTimer_frame (service : Reconnection) : (clearTimer service).config = service.config ∧
    (clearTimer service).attempts = service.attempts ∧ (clearTimer service).isReconnecting = service.isReconnecting ∧
        (clearTimer service).nextTimer = service.nextTimer ∧ (clearTimer service).calls = service.calls := by
  unfold clearTimer
  split <;> exact ⟨rfl, rfl, rfl, rfl, rfl⟩

end Clearing

section Scheduling
variable {service : Reconnection}

theorem reconnects_call {made : Option CallbackCall} (other : ∀ callback, made ≠ some (.reconnect callback)) :
    reconnects (call service made) = reconnects service := by
  cases made with
  | none => simp [reconnects, call]
  | some called =>
    cases called with
    | reconnect callback => exact absurd rfl (other callback)
    | attempt => simp [reconnects, call]
    | failed => simp [reconnects, call]

/-- An attempt sets a timer, to which the handle goes, with a delay up to the largest, and is counted. -/
theorem scheduleReconnect_sets (random : ℚ) (allowed : shouldAttempt service = true) : ∃ timer : PendingTimer,
    (scheduleReconnect service random).timers = service.timers ++ [timer] ∧
      (scheduleReconnect service random).reconnectTimer = some timer.id ∧ timer.delay ≤ service.config.maxDelay ∧
      (scheduleReconnect service random).config = service.config ∧
      (scheduleReconnect service random).attempts = service.attempts + 1 ∧
      (scheduleReconnect service random).nextTimer = service.nextTimer + 1 ∧
      (scheduleReconnect service random).isReconnecting = service.isReconnecting ∧
      reconnects (scheduleReconnect service random) = reconnects service := by
  unfold scheduleReconnect
  rw [if_pos allowed]
  refine ⟨_, rfl, rfl, min_le_right _ _, rfl, rfl, rfl, rfl, ?_⟩
  exact reconnects_call fun callback => by
    cases service.onReconnectAttempt <;> simp

theorem scheduleReconnect_gives_up (random : ℚ) (refused : shouldAttempt service = false) :
    (scheduleReconnect service random).timers = service.timers ∧
      (scheduleReconnect service random).reconnectTimer = service.reconnectTimer ∧
      (scheduleReconnect service random).config = service.config ∧
      (scheduleReconnect service random).attempts = service.attempts ∧
      (scheduleReconnect service random).nextTimer = service.nextTimer ∧
      reconnects (scheduleReconnect service random) = reconnects service := by
  unfold scheduleReconnect
  rw [if_neg (by rw [refused]; exact Bool.false_ne_true)]
  refine ⟨rfl, rfl, rfl, rfl, rfl, ?_⟩
  exact reconnects_call fun callback => by
    cases service.onReconnectFailed <;> simp

theorem shouldAttempt_iff : shouldAttempt service = true ↔ service.isReconnecting = true ∧
    ∀ maxAttempts, service.config.maxAttempts = some maxAttempts → service.attempts < maxAttempts := by
  unfold shouldAttempt
  cases service.config.maxAttempts <;> simp

end Scheduling

variable {watched : Watched}

theorem watch_same {event : Event} (same : step watched.service event = watched.service)
    (going : haltedBy watched.halted event = watched.halted) (goesOn : resets event = false) :
    watch watched event = watched := by
  rw [watch, same, going, goesOn, Nat.sub_self, Nat.sub_self, ite_self]
  rfl

theorem late_of_silent (sound : Sound watched) {event : Event}
    (silent : reconnects (step watched.service event) = reconnects watched.service) : (watch watched event).late = 0 := by
  change watched.late + (if watched.halted then reconnects (step watched.service event) - reconnects watched.service
    else 0) = 0
  rw [silent, sound.late, Nat.sub_self, ite_self]

theorem cleared_keeps (sound : Sound watched) {event : Event} (cleared : (step watched.service event).timers = [])
    (silent : reconnects (step watched.service event) = reconnects watched.service)
    (limited : ∀ maxAttempts, (step watched.service event).config.maxAttempts = some maxAttempts →
      (watch watched event).scheduled ≤ maxAttempts)
    (counted : (watch watched event).scheduled = (step watched.service event).attempts)
    (still : (step watched.service event).isReconnecting = false) :
    Sound (watch watched event) ∧ Linked (watch watched event) := by
  have timers : (watch watched event).service.timers = [] := cleared
  constructor
  · refine ⟨?_, fun _ => timers, late_of_silent sound silent, ?_, limited⟩ <;> rw [timers]
    · exact Nat.zero_le 1
    · exact fun _ member => absurd member List.not_mem_nil
  · refine ⟨?_, counted, fun _ => still⟩
    rw [timers]
    exact fun _ member => absurd member List.not_mem_nil

theorem reset_keeps (sound : Sound watched) (linked : Linked watched) :
    Sound (watch watched .reset) ∧ Linked (watch watched .reset) := by
  obtain ⟨config, attempts, idle, -, calls⟩ := clearTimer_frame { watched.service with
    currentDelay := watched.service.config.baseDelay, attempts := 0, isReconnecting := false }
  exact cleared_keeps sound (clearTimer_timers linked.tracked) (congrArg (List.countP _) calls)
    (fun _ _ => Nat.zero_le _) attempts.symm idle

theorem configure_keeps (sound : Sound watched) (linked : Linked watched) (config : PartialReconnectionConfig) :
    Sound (watch watched (.configure config)) ∧ Linked (watch watched (.configure config)) := by
  obtain ⟨-, attempts, idle, -, calls⟩ := clearTimer_frame { watched.service with
    config := config.over watched.service.config, currentDelay := (config.over watched.service.config).baseDelay,
    attempts := 0, isReconnecting := false }
  exact cleared_keeps sound (clearTimer_timers linked.tracked) (congrArg (List.countP _) calls)
    (fun _ _ => Nat.zero_le _) attempts.symm idle

theorem notifySuccess_keeps (sound : Sound watched) (linked : Linked watched) :
    Sound (watch watched .notifySuccess) ∧ Linked (watch watched .notifySuccess) := by
  obtain ⟨-, attempts, -, -, calls⟩ := clearTimer_frame { watched.service with
    currentDelay := watched.service.config.baseDelay, attempts := 0, isReconnecting := false }
  exact cleared_keeps sound (clearTimer_timers linked.tracked) (congrArg (List.countP _) calls)
    (fun _ _ => Nat.zero_le _) attempts.symm rfl

theorem stop_keeps (sound : Sound watched) (linked : Linked watched) :
    Sound (watch watched .stopReconnection) ∧ Linked (watch watched .stopReconnection) := by
  obtain ⟨config, attempts, idle, nextTimer, calls⟩ := clearTimer_frame { watched.service with isReconnecting := false }
  have none_set : (watch watched .stopReconnection).scheduled = watched.scheduled := by
    change watched.scheduled + ((stopReconnection watched.service).nextTimer - watched.service.nextTimer) = _
    rw [stopReconnection, nextTimer, Nat.sub_self, Nat.add_zero]
  refine cleared_keeps sound (clearTimer_timers linked.tracked) (congrArg (List.countP _) calls) ?_ ?_ idle
  · intro maxAttempts isLimit
    rw [none_set]
    exact sound.limited maxAttempts ((congrArg ReconnectionConfig.maxAttempts config).symm.trans isLimit)
  · rw [none_set, linked.counted]
    exact attempts.symm

theorem schedule_keeps (event : Event) (sound : Sound watched) (linked : Linked watched) {service : Reconnection}
    {random : ℚ} (is_step : step watched.service event = scheduleReconnect service random)
    (count : (watch watched event).scheduled =
      watched.scheduled + ((step watched.service event).nextTimer - watched.service.nextTimer))
    (going : (watch watched event).halted = false) (allowed : shouldAttempt service = true)
    (nothing : service.timers = [])
    (attempts : service.attempts = watched.service.attempts) (nextTimer : service.nextTimer = watched.service.nextTimer)
    (silent : reconnects service = reconnects watched.service) :
    Sound (watch watched event) ∧ Linked (watch watched event) := by
  obtain ⟨timer, timers, handle, delay, sameConfig, counts, next, -, quiet⟩ :=
    scheduleReconnect_sets random allowed
  rw [← is_step] at timers handle sameConfig counts next quiet
  rw [nothing, List.nil_append] at timers
  have scheduled : (watch watched event).scheduled = watched.scheduled + 1 := by
    rw [count, next, nextTimer, Nat.add_sub_cancel_left]
  have pending : (watch watched event).service.timers = [timer] := timers
  constructor
  · refine ⟨pending ▸ Nat.le_refl 1, fun halted => ?_, late_of_silent sound (quiet.trans silent), ?_, ?_⟩
    · rw [going] at halted
      cases halted
    · rw [pending]
      intro other member
      rw [List.mem_singleton.mp member]
      exact delay.trans_eq (congrArg ReconnectionConfig.maxDelay sameConfig).symm
    · intro maxAttempts isLimit
      have below := (shouldAttempt_iff.mp allowed).2 maxAttempts
        ((congrArg ReconnectionConfig.maxAttempts sameConfig).symm.trans isLimit)
      rw [scheduled, linked.counted, ← attempts]
      exact below
  · refine ⟨?_, ?_, fun halted => ?_⟩
    · rw [pending]
      intro other member
      rw [List.mem_singleton.mp member]
      exact handle
    · rw [scheduled, linked.counted, ← attempts]
      exact counts.symm
    · rw [going] at halted
      cases halted

theorem trigger_keeps (sound : Sound watched) (linked : Linked watched) (random : ℚ) :
    Sound (watch watched (.triggerAttempt random)) ∧ Linked (watch watched (.triggerAttempt random)) := by
  cases allowed : shouldAttempt watched.service with
  | true =>
    have isGoing : watched.halted = false := by
      cases halted : watched.halted with
      | false => rfl
      | true =>
        have idle := linked.still halted
        rw [(shouldAttempt_iff.mp allowed).1] at idle
        cases idle
    have steps : step watched.service (.triggerAttempt random) = scheduleReconnect
        (if watched.service.reconnectTimer.isSome then clearTimeout watched.service else watched.service) random :=
      if_pos allowed
    refine schedule_keeps _ sound linked steps rfl isGoing ?_ ?_ ?_ ?_ ?_
    · split <;> exact allowed
    · split
      next => exact clearTimeout_timers linked.tracked
      next handle =>
        refine List.eq_nil_iff_forall_not_mem.mpr fun timer member => handle ?_
        rw [linked.tracked timer member, Option.isSome_some]
    all_goals split <;> rfl
  | false =>
    have same : step watched.service (.triggerAttempt random) = watched.service :=
      if_neg (by rw [allowed]; exact Bool.false_ne_true)
    rw [watch_same same rfl rfl]
    exact ⟨sound, linked⟩

theorem timerFires_keeps (sound : Sound watched) (linked : Linked watched) (id : Nat) :
    Sound (watch watched (.timerFires id)) ∧ Linked (watch watched (.timerFires id)) := by
  cases pending : watched.service.timers.any fun timer => decide (timer.id = id) with
  | true =>
    have isGoing : watched.halted = false := by
      cases halted : watched.halted with
      | false => rfl
      | true =>
        rw [sound.halted halted] at pending
        cases pending
    have fires : step watched.service (.timerFires id) = call { watched.service with
        timers := watched.service.timers.filter fun timer => decide (timer.id ≠ id) }
          (watched.service.onReconnect.map .reconnect) := if_pos pending
    have scheduled : (watch watched (.timerFires id)).scheduled = watched.scheduled := by
      change watched.scheduled + ((step watched.service (.timerFires id)).nextTimer - _) = _
      rw [fires]
      simp [call]
    have service : (watch watched (.timerFires id)).service = step watched.service (.timerFires id) := rfl
    have late : (watch watched (.timerFires id)).late = watched.late := by
      rw [watch, isGoing]
      rfl
    constructor
    · refine ⟨?_, fun halted => ?_, late.trans sound.late, ?_, ?_⟩
      · rw [service, fires]
        exact (List.length_filter_le _ _).trans sound.single
      · exact absurd (isGoing.symm.trans halted) Bool.false_ne_true
      · rw [service, fires]
        exact fun timer member => sound.bounded timer (List.mem_filter.mp member).1
      · rw [scheduled, service, fires]
        exact sound.limited
    · refine ⟨?_, ?_, fun halted => absurd (isGoing.symm.trans halted) Bool.false_ne_true⟩
      · rw [service, fires]
        exact fun timer member => linked.tracked timer (List.mem_filter.mp member).1
      · rw [scheduled, service, fires]
        exact linked.counted
  | false =>
    have same : step watched.service (.timerFires id) = watched.service :=
      if_neg (by rw [pending]; exact Bool.false_ne_true)
    rw [watch_same same rfl rfl]
    exact ⟨sound, linked⟩

/-- A start with attempts left sets another timer; without any it leaves the timers alone. -/
theorem start_keeps (sound : Sound watched) (linked : Linked watched) (onReconnect : Nat)
    (onAttempt onFailed : Option Nat) (random : ℚ) :
    (Sound (watch watched (.startReconnection onReconnect onAttempt onFailed random)) ↔
      Fresh watched (.startReconnection onReconnect onAttempt onFailed random)) ∧
    (Fresh watched (.startReconnection onReconnect onAttempt onFailed random) →
      Linked (watch watched (.startReconnection onReconnect onAttempt onFailed random))) := by
  let started : Reconnection := { watched.service with
    onReconnect := some onReconnect
    onReconnectAttempt := onAttempt
    onReconnectFailed := onFailed
    isReconnecting := true }
  cases allowed : shouldAttempt started with
  | true =>
    have left := (shouldAttempt_iff.mp allowed).2
    have fresh_iff : Fresh watched (.startReconnection onReconnect onAttempt onFailed random) ↔
        watched.service.timers = [] := by
      refine or_iff_left ?_
      rintro ⟨maxAttempts, isLimit, atMost⟩
      exact absurd (left maxAttempts isLimit) (Nat.not_lt.mpr atMost)
    rw [fresh_iff]
    have keeps := fun nothing : watched.service.timers = [] =>
      schedule_keeps (.startReconnection onReconnect onAttempt onFailed random) sound linked rfl rfl rfl allowed
        nothing rfl rfl rfl
    refine ⟨⟨fun after => ?_, fun nothing => (keeps nothing).1⟩, fun nothing => (keeps nothing).2⟩
    obtain ⟨timer, timers, -⟩ := scheduleReconnect_sets random allowed
    have single := after.single
    change (scheduleReconnect started random).timers.length ≤ 1 at single
    rw [timers, List.length_append, List.length_singleton] at single
    have none_before : started.timers.length = 0 := by omega
    exact List.eq_nil_of_length_eq_zero none_before
  | false =>
    obtain ⟨timers, handle, config, attempts, nextTimer, silent⟩ :=
      scheduleReconnect_gives_up random allowed
    have exhausted : ∃ maxAttempts, watched.service.config.maxAttempts = some maxAttempts ∧
        maxAttempts ≤ watched.service.attempts := by
      by_contra left
      push Not at left
      have attempts_left : shouldAttempt started = true := shouldAttempt_iff.mpr ⟨rfl, left⟩
      rw [attempts_left] at allowed
      cases allowed
    have scheduled : (watch watched (.startReconnection onReconnect onAttempt onFailed random)).scheduled =
        watched.scheduled := by
      change watched.scheduled + ((scheduleReconnect started random).nextTimer - watched.service.nextTimer) = _
      rw [nextTimer, Nat.sub_self, Nat.add_zero]
    have service : (watch watched (.startReconnection onReconnect onAttempt onFailed random)).service =
        scheduleReconnect started random := rfl
    refine ⟨iff_of_true ⟨?_, fun halted => ?_, late_of_silent sound silent, ?_, ?_⟩ (Or.inr exhausted),
      fun _ => ⟨?_, ?_, fun halted => ?_⟩⟩
    · rw [service, timers]
      exact sound.single
    · cases halted
    · rw [service, timers, config]
      exact sound.bounded
    · rw [scheduled, service, config]
      exact sound.limited
    · rw [service, timers, handle]
      exact linked.tracked
    · rw [scheduled, service, attempts]
      exact linked.counted
    · cases halted

theorem step_keeps (sound : Sound watched) (linked : Linked watched) (event : Event) :
    (Sound (watch watched event) ↔ Fresh watched event) ∧ (Fresh watched event → Linked (watch watched event)) := by
  have always : ∀ {event : Event}, Fresh watched event → Sound (watch watched event) ∧ Linked (watch watched event) →
      (Sound (watch watched event) ↔ Fresh watched event) ∧ (Fresh watched event → Linked (watch watched event)) :=
    fun fresh kept => ⟨iff_of_true kept.1 fresh, fun _ => kept.2⟩
  cases event with
  | configure config => exact always trivial (configure_keeps sound linked config)
  | reset => exact always trivial (reset_keeps sound linked)
  | startReconnection onReconnect onAttempt onFailed random =>
    exact start_keeps sound linked onReconnect onAttempt onFailed random
  | stopReconnection => exact always trivial (stop_keeps sound linked)
  | notifySuccess => exact always trivial (notifySuccess_keeps sound linked)
  | triggerAttempt random => exact always trivial (trigger_keeps sound linked random)
  | timerFires id => exact always trivial (timerFires_keeps sound linked id)

/-- What every step with a fresh start keeps. -/
def Steady (watched : Watched) : Prop := Sound watched ∧ Linked watched

theorem opening_sound (config : PartialReconnectionConfig) : Sound (opening config) :=
  ⟨Nat.zero_le 1, fun _ => rfl, rfl, fun _ member => absurd member List.not_mem_nil, fun _ _ => Nat.zero_le _⟩

theorem opening_linked (config : PartialReconnectionConfig) : Linked (opening config) :=
  ⟨fun _ member => absurd member List.not_mem_nil, rfl, fun _ => rfl⟩

/-- All states of a run are sound exactly when every start finds no timer pending, or no attempts left. -/
theorem timers_sound_iff (config : PartialReconnectionConfig) (events : List Event) :
    (∀ reached ∈ states watch (opening config) events, Sound reached) ↔ Meets watch Fresh (opening config) events :=
  have steady : Steady (opening config) := ⟨opening_sound config, opening_linked config⟩
  claim_iff_meets (fun _ (holds : Steady _) => holds.1) (fun _ event holds => (step_keeps holds.1 holds.2 event).1)
    (fun _ event holds sound => ⟨sound, (step_keeps holds.1 holds.2 event).2
      ((step_keeps holds.1 holds.2 event).1.mp sound)⟩) events (opening config) steady

/-- Two connection errors, and then a stop: the first timer stays. -/
theorem timer_left_behind : ¬ ∀ reached ∈ states watch (opening ⟨none, none, none, none⟩)
    [.startReconnection 0 none none 0, .startReconnection 0 none none 0, .stopReconnection, .timerFires 0],
      Sound reached := by
  decide +kernel

end AlianStructure.Guarantees.ReconnectTimers
