import Mathlib.Tactic.Linarith
import AlianStructure.Source.Investment.CircuitBreakerService

/-!
# The recovery of an open circuit breaker

Source: src/investment/risk-management/circuit-breaker.service.ts:50-99,165-216. The recovery time is
counted from the last failure. A breaker that slow calls have opened counts from an earlier failure,
or never recovers.
-/
namespace AlianStructure.Guarantees.CircuitRecovery
open Library.InsertionOrder
open Source.Investment CircuitBreakerService

variable {percentage : Nat → Nat → ℚ}

def course (percentage : Nat → Nat → ℚ) (services : CircuitServices) (calls : List CircuitCall) :
    CircuitServices :=
  calls.foldl (afterCall percentage) services

/-- The services with their configurations, before the first call. -/
def configured (configs : List (String × CircuitBreakerConfig)) (now : ℚ) : CircuitServices :=
  configs.foldl (fun services entry => configure services entry.1 entry.2 now) .empty

/-- The clock does not go back. -/
def Chronological (calls : List CircuitCall) : Prop := (calls.map (·.now)).Pairwise (· ≤ ·)

instance (calls : List CircuitCall) : Decidable (Chronological calls) :=
  inferInstanceAs (Decidable ((calls.map (·.now)).Pairwise (· ≤ ·)))

/-- The state of a service before a call for it. -/
abbrev serviceOf (services : CircuitServices) (call : CircuitCall) : ServiceCircuitState :=
  getOrCreate services call.serviceName call.now

/-- The call moves its breaker to OPEN. -/
def Opens (percentage : Nat → Nat → ℚ) (services : CircuitServices) (call : CircuitCall) : Prop :=
  (serviceOf services call).state ≠ .opened ∧
    ((serviceOf services call).after percentage call.now call.event).state = .opened

instance (services : CircuitServices) (call : CircuitCall) :
    Decidable (Opens percentage services call) :=
  inferInstanceAs (Decidable (_ ∧ _))

/-- The moment when the breaker that a call has opened may be tried again. -/
def recoveryOf (services : CircuitServices) (opening : CircuitCall) : ℚ :=
  opening.now + (serviceOf services opening).config.recoveryTimeMs

/-- The service is not called in this way. -/
def Without (event : CircuitEvent) (serviceName : String) (calls : List CircuitCall) : Prop :=
  ∀ call ∈ calls, call.serviceName = serviceName → call.event ≠ event

/-- After the opening, and until a reset, the breaker is open up to its recovery; with no failure
meanwhile, the first call of isOpen after it moves the breaker to HALF_OPEN. -/
def Recovers (percentage : Nat → Nat → ℚ) (services : CircuitServices) (opening : CircuitCall) :
    Prop :=
  ∀ (later : List CircuitCall) (now : ℚ),
    let asked : CircuitCall := ⟨opening.serviceName, now, .isOpen⟩
    let service := serviceOf (course percentage (afterCall percentage services opening) later) asked
    Chronological (opening :: later ++ [asked]) → Without .reset opening.serviceName later →
      (now ≤ recoveryOf services opening → (isOpen service now).2 = true) ∧
      (Without .recordFailure opening.serviceName later →
        (∀ call ∈ later, call.serviceName = opening.serviceName → call.event = .isOpen →
          call.now ≤ recoveryOf services opening) →
        recoveryOf services opening < now →
          (isOpen service now).2 = false ∧ (isOpen service now).1.state = .halfOpen)

/-- The opening is a failure, or comes in the very moment of the last one. When the recovery time is
negative, any earlier failure will do. -/
def TimedByFailure (service : ServiceCircuitState) (now : ℚ) (event : CircuitEvent) : Prop :=
  event = .recordFailure ∨ service.lastFailureTime = some now ∨
    (service.config.recoveryTimeMs < 0 ∧ service.lastFailureTime.isSome = true)

section Service
variable {service : ServiceCircuitState} {now : ℚ}

theorem isOpen_waits (opened : service.state = .opened) (waits : hasRecovered service now = false) :
    isOpen service now = (service, true) := by
  simp [isOpen, opened, waits]

theorem isOpen_recovers (opened : service.state = .opened) (recovers : hasRecovered service now = true) :
    (isOpen service now).2 = false ∧ (isOpen service now).1.state = .halfOpen := by
  simp [isOpen, opened, recovers, transitionTo]

theorem hasRecovered_some {failedAt : ℚ} (failed : service.lastFailureTime = some failedAt) :
    hasRecovered service now = true ↔ service.config.recoveryTimeMs < now - failedAt := by
  simp [hasRecovered, failed]

theorem after_config (event : CircuitEvent) : (service.after percentage now event).config = service.config := by
  cases event with
  | isOpen =>
    simp only [ServiceCircuitState.after, isOpen]
    split <;> rfl
  | recordSuccess durationMs =>
    simp only [ServiceCircuitState.after, recordSuccess, checkSlowCallRate]
    repeat' split
    all_goals rfl
  | recordFailure =>
    simp only [ServiceCircuitState.after, recordFailure]
    repeat' split
    all_goals rfl
  | reset => rfl

theorem recordSuccess_opened {durationMs : Option ℚ} (opened : service.state = .opened) :
    (recordSuccess percentage service durationMs now).state = .opened ∧
      (recordSuccess percentage service durationMs now).lastFailureTime = service.lastFailureTime := by
  simp only [recordSuccess, checkSlowCallRate, opened]
  repeat' split
  all_goals simp_all

theorem recordFailure_opened (opened : service.state = .opened) : (recordFailure service now).state = .opened ∧
      (recordFailure service now).lastFailureTime = some now := by
  simp [recordFailure, opened]

theorem recordFailure_time : (recordFailure service now).lastFailureTime = some now := by
  simp only [recordFailure]
  repeat' split
  all_goals rfl

theorem checkSlowCallRate_time :
    (checkSlowCallRate percentage service now).lastFailureTime = service.lastFailureTime := by
  simp only [checkSlowCallRate]
  repeat' split
  all_goals rfl

theorem recordSuccess_opens {durationMs : Option ℚ}
    (opened : (recordSuccess percentage service durationMs now).state = .opened) :
    (recordSuccess percentage service durationMs now).lastFailureTime = service.lastFailureTime := by
  unfold recordSuccess at opened ⊢
  extract_lets at opened ⊢
  rename_i checked
  have same : checked.lastFailureTime = service.lastFailureTime := by
    unfold checked
    split
    next => exact checkSlowCallRate_time
    next => rfl
  split at opened
  next => cases opened
  next => rwa [if_neg ‹_›]

/-- What an open breaker keeps: the time of its last failure is one at which it was opened or is
later. -/
structure OpenSince (opening : ℚ) (config : CircuitBreakerConfig) (service : ServiceCircuitState) :
    Prop where
  opened : service.state = .opened
  config : service.config = config
  failed : ∃ failedAt, service.lastFailureTime = some failedAt ∧ opening ≤ failedAt

variable {event : CircuitEvent}

theorem OpenSince.after {opening : ℚ} {config : CircuitBreakerConfig}
    (since : OpenSince opening config service) (unreset : event ≠ .reset) (later : opening ≤ now)
    (early : now ≤ opening + config.recoveryTimeMs) :
    OpenSince opening config (service.after percentage now event) := by
  obtain ⟨failedAt, failed, after⟩ := since.failed
  have waits : hasRecovered service now = false := by
    rw [← Bool.not_eq_true, hasRecovered_some failed, since.config]
    linarith
  refine ⟨?_, (after_config event).trans since.config, ?_⟩
  · cases event with
    | isOpen =>
      simp only [ServiceCircuitState.after, isOpen_waits since.opened waits]
      exact since.opened
    | recordSuccess durationMs => exact (recordSuccess_opened since.opened).1
    | recordFailure => exact (recordFailure_opened since.opened).1
    | reset => exact absurd rfl unreset
  · cases event with
    | isOpen =>
      simp only [ServiceCircuitState.after, isOpen_waits since.opened waits]
      exact since.failed
    | recordSuccess durationMs =>
      exact ⟨failedAt, (recordSuccess_opened since.opened).2.trans failed, after⟩
    | recordFailure => exact ⟨now, (recordFailure_opened since.opened).2, later⟩
    | reset => exact absurd rfl unreset

/-- What an open breaker keeps while no failure is recorded. -/
structure OpenFrom (failedAt : ℚ) (config : CircuitBreakerConfig) (service : ServiceCircuitState) :
    Prop where
  opened : service.state = .opened
  config : service.config = config
  failed : service.lastFailureTime = some failedAt

theorem OpenFrom.after {failedAt : ℚ} {config : CircuitBreakerConfig}
    (since : OpenFrom failedAt config service) (unreset : event ≠ .reset) (unfailed : event ≠ .recordFailure)
    (waits : event = .isOpen → now ≤ failedAt + config.recoveryTimeMs) :
    OpenFrom failedAt config (service.after percentage now event) := by
  refine ⟨?_, (after_config event).trans since.config, ?_⟩ <;> cases event with
  | isOpen =>
    have waits : hasRecovered service now = false := by
      rw [← Bool.not_eq_true, hasRecovered_some since.failed, since.config]
      linarith [waits rfl]
    simp only [ServiceCircuitState.after, isOpen_waits since.opened waits]
    first | exact since.opened | exact since.failed
  | recordSuccess durationMs =>
    first
      | exact (recordSuccess_opened since.opened).1
      | exact (recordSuccess_opened since.opened).2.trans since.failed
  | recordFailure => exact absurd rfl unfailed
  | reset => exact absurd rfl unreset

end Service

section Services
variable {services : CircuitServices}

theorem afterCall_self (call : CircuitCall) : (afterCall percentage services call).get? call.serviceName =
      some ((serviceOf services call).after percentage call.now call.event) :=
  OrderedMap.get?_set_self _ _ _

theorem afterCall_other {call : CircuitCall} {name : String} (other : name ≠ call.serviceName) :
    (afterCall percentage services call).get? name = services.get? name :=
  OrderedMap.get?_set_other _ _ other

theorem course_keeps {name : String} (holds : ServiceCircuitState → Prop) :
    ∀ {calls : List CircuitCall} {services : CircuitServices} {service : ServiceCircuitState},
      services.get? name = some service → holds service →
      (∀ call ∈ calls, call.serviceName = name → ∀ before : ServiceCircuitState, holds before →
        holds (before.after percentage call.now call.event)) →
      ∃ reached, (course percentage services calls).get? name = some reached ∧ holds reached
  | [], _, service, found, here, _ => ⟨service, found, here⟩
  | call :: calls, services, service, found, here, keeps => by
    have rest := fun later member => keeps later (List.mem_cons_of_mem _ member)
    obtain ⟨next, isNext, kept⟩ : ∃ next, (afterCall percentage services call).get? name =
        some next ∧ holds next := by
      by_cases mine : call.serviceName = name
      · refine ⟨_, ?_, keeps call List.mem_cons_self mine service here⟩
        rw [← mine, afterCall_self, serviceOf, getOrCreate, mine, found]
        rfl
      · exact ⟨service, (afterCall_other (Ne.symm mine)).trans found, here⟩
    have reaches := course_keeps holds isNext kept rest
    exact reaches

/-- No failure is recorded for the future. -/
def FailedBefore (now : ℚ) (services : CircuitServices) : Prop :=
  ∀ name service failedAt, services.get? name = some service →
    service.lastFailureTime = some failedAt → failedAt ≤ now

theorem after_time {service : ServiceCircuitState} {now failedAt : ℚ}
    (failed : (service.after percentage now event).lastFailureTime = some failedAt) :
    failedAt = now ∨ service.lastFailureTime = some failedAt := by
  cases event with
  | isOpen =>
    right
    simp only [ServiceCircuitState.after, isOpen] at failed
    split at failed <;> exact failed
  | recordSuccess durationMs =>
    right
    simp only [ServiceCircuitState.after] at failed
    unfold recordSuccess at failed
    extract_lets counted checked at failed
    have same : checked.lastFailureTime = service.lastFailureTime := by
      unfold checked
      split
      next => exact checkSlowCallRate_time
      next => rfl
    split at failed
    next => cases failed
    next => exact same ▸ failed
  | recordFailure =>
    left
    simp only [ServiceCircuitState.after, recordFailure_time] at failed
    exact (Option.some.inj failed).symm
  | reset => cases failed

theorem FailedBefore.call {earlier : ℚ} {call : CircuitCall} (before : FailedBefore earlier services)
    (onward : earlier ≤ call.now) : FailedBefore call.now (afterCall percentage services call) := by
  intro name service failedAt found failed
  by_cases mine : name = call.serviceName
  · subst mine
    cases (afterCall_self call).symm.trans found
    rcases after_time failed with rfl | old
    · exact le_refl _
    · unfold serviceOf getOrCreate at old
      cases known : services.get? call.serviceName with
      | none =>
        rw [known] at old
        cases old
      | some known_ =>
        rw [known] at old
        exact (before _ _ _ known old).trans onward
  · rw [afterCall_other mine] at found
    exact (before name service failedAt found failed).trans onward

theorem failedBefore_course : ∀ {calls : List CircuitCall} {services : CircuitServices}
    {earlier now : ℚ}, FailedBefore earlier services →
      (earlier :: (calls.map (·.now) ++ [now])).Pairwise (· ≤ ·) →
      FailedBefore now (course percentage services calls)
  | [], _, earlier, now, before, ordered => fun name service failedAt found failed =>
    (before name service failedAt found failed).trans
      ((List.pairwise_cons.mp ordered).1 now (by simp))
  | call :: calls, services, earlier, now, before, ordered => by
    obtain ⟨first, rest⟩ := List.pairwise_cons.mp ordered
    have onward : earlier ≤ call.now := first call.now List.mem_cons_self
    have moved : FailedBefore call.now (afterCall percentage services call) := before.call onward
    show FailedBefore now (course percentage (afterCall percentage services call) calls)
    exact failedBefore_course moved rest

theorem failedBefore_configured (configs : List (String × CircuitBreakerConfig)) (now : ℚ) :
    FailedBefore now (configured configs now) := by
  have never : ∀ {configs : List (String × CircuitBreakerConfig)} {services : CircuitServices},
      (∀ name service, services.get? name = some service → service.lastFailureTime = none) →
      ∀ name service, (configs.foldl (fun services entry =>
        configure services entry.1 entry.2 now) services).get? name = some service →
          service.lastFailureTime = none := by
    intro configs
    induction configs with
    | nil => exact fun fresh => fresh
    | cons entry configs ih =>
      intro services fresh
      refine ih fun name service found => ?_
      dsimp only [configure] at found
      split at found <;> rw [OrderedMap.get?_set] at found <;> split at found
      next existing known _ =>
        cases found
        exact fresh _ existing known
      next => exact fresh name service found
      next =>
        cases found
        rfl
      next => exact fresh name service found
  intro name service failedAt found failed
  rw [never (fun _ _ none => by cases none) name service found] at failed
  cases failed

end Services

section Recovery
variable {services : CircuitServices} {opening : CircuitCall}

/-- An opening that is no failure is a success, which leaves the time of the last failure. -/
theorem opens_by_success (opens : Opens percentage services opening) (unfailed : opening.event ≠ .recordFailure) :
    ((serviceOf services opening).after percentage opening.now opening.event).lastFailureTime =
      (serviceOf services opening).lastFailureTime := by
  obtain ⟨wasNot, opened⟩ := opens
  cases isEvent : opening.event with
  | isOpen =>
    rw [isEvent] at opened
    simp only [ServiceCircuitState.after, isOpen] at opened
    split at opened
    next => cases opened
    next => exact absurd opened wasNot
  | recordSuccess durationMs =>
    rw [isEvent] at opened
    exact recordSuccess_opens opened
  | recordFailure => exact absurd isEvent unfailed
  | reset =>
    rw [isEvent] at opened
    cases opened

theorem chronological_bounds {later : List CircuitCall} {asked : CircuitCall}
    (ordered : Chronological (opening :: later ++ [asked])) :
    opening.now ≤ asked.now ∧ ∀ call ∈ later, opening.now ≤ call.now ∧ call.now ≤ asked.now := by
  unfold Chronological at ordered
  rw [List.cons_append, List.map_cons, List.pairwise_cons, List.map_append] at ordered
  obtain ⟨first, rest⟩ := ordered
  obtain ⟨_, _, last⟩ := List.pairwise_append.mp rest
  refine ⟨first asked.now (by simp), fun call member => ⟨first call.now ?_, ?_⟩⟩
  · exact List.mem_append_left _ (List.mem_map_of_mem member)
  · exact last call.now (List.mem_map_of_mem member) asked.now (by simp)

theorem serviceOf_reached {reached : CircuitServices} {service : ServiceCircuitState} {now : ℚ}
    (found : reached.get? opening.serviceName = some service) :
    serviceOf reached ⟨opening.serviceName, now, event⟩ = service := by
  simp [serviceOf, getOrCreate, found]

/-- The failure from which the recovery of an opening that is timed by one is counted. -/
theorem counted_failure (opens : Opens percentage services opening) (earlier : FailedBefore opening.now services)
    (timed : TimedByFailure (serviceOf services opening) opening.now opening.event) :
    ∃ failedAt, OpenFrom failedAt (serviceOf services opening).config
        ((serviceOf services opening).after percentage opening.now opening.event) ∧ failedAt ≤ opening.now ∧
      (failedAt = opening.now ∨ (serviceOf services opening).config.recoveryTimeMs < 0) := by
  have config : ((serviceOf services opening).after percentage opening.now opening.event).config =
      (serviceOf services opening).config := after_config opening.event
  by_cases fails : opening.event = .recordFailure
  · refine ⟨opening.now, ⟨opens.2, config, ?_⟩, le_refl _, Or.inl rfl⟩
    rw [fails]
    exact recordFailure_time
  · have same := opens_by_success opens fails
    rcases timed with failure | now | ⟨negative, some_⟩
    · exact absurd failure fails
    · exact ⟨opening.now, ⟨opens.2, config, same.trans now⟩, le_refl _, Or.inl rfl⟩
    · obtain ⟨failedAt, failed⟩ := Option.isSome_iff_exists.mp some_
      refine ⟨failedAt, ⟨opens.2, config, same.trans failed⟩, ?_, Or.inr negative⟩
      unfold serviceOf getOrCreate at failed
      cases known : services.get? opening.serviceName with
      | none =>
        rw [known] at failed
        cases failed
      | some service =>
        rw [known] at failed
        exact earlier _ service failedAt known failed

theorem recovers_of_timed (opens : Opens percentage services opening) (earlier : FailedBefore opening.now services)
    (timed : TimedByFailure (serviceOf services opening) opening.now opening.event) :
    Recovers percentage services opening := by
  obtain ⟨failedAt, opened, before, counted⟩ := counted_failure opens earlier timed
  have found : (afterCall percentage services opening).get? opening.serviceName =
      some ((serviceOf services opening).after percentage opening.now opening.event) :=
    afterCall_self opening
  intro later now asked service ordered unreset
  obtain ⟨reachesNow, between⟩ := chronological_bounds ordered
  refine ⟨fun early => ?_, fun unfailed waits late => ?_⟩
  · have exact_ : failedAt = opening.now := by
      refine counted.resolve_right fun negative => ?_
      have impossible : now ≤ opening.now + (serviceOf services opening).config.recoveryTimeMs :=
        early
      have onward : opening.now ≤ now := reachesNow
      linarith
    have since : OpenSince opening.now (serviceOf services opening).config
        ((serviceOf services opening).after percentage opening.now opening.event) :=
      ⟨opened.opened, opened.config, failedAt, opened.failed, exact_.ge⟩
    obtain ⟨reached, isReached, still⟩ := course_keeps _ found since
      fun call member mine before open_ => open_.after (unreset call member mine)
        (between call member).1 ((between call member).2.trans early)
    obtain ⟨last, failed, after⟩ := still.failed
    have isService : service = reached := serviceOf_reached isReached
    rw [isService]
    have notYet : hasRecovered reached now = false := by
      rw [← Bool.not_eq_true, hasRecovered_some failed, still.config]
      have limit : now ≤ opening.now + (serviceOf services opening).config.recoveryTimeMs := early
      linarith
    rw [isOpen_waits still.opened notYet]
  · have waits' : ∀ call ∈ later, call.serviceName = opening.serviceName → call.event = .isOpen →
        call.now ≤ failedAt + (serviceOf services opening).config.recoveryTimeMs := by
      intro call member mine asks
      have limit : call.now ≤ opening.now + (serviceOf services opening).config.recoveryTimeMs :=
        waits call member mine asks
      have onward := (between call member).1
      rcases counted with same | negative
      · rwa [same]
      · linarith
    obtain ⟨reached, isReached, still⟩ := course_keeps _ found opened
      fun call member mine before open_ => open_.after (unreset call member mine)
        (unfailed call member mine) (waits' call member mine)
    have isService : service = reached := serviceOf_reached isReached
    rw [isService]
    have over_ : opening.now + (serviceOf services opening).config.recoveryTimeMs < now := late
    refine isOpen_recovers still.opened ((hasRecovered_some still.failed).mpr ?_)
    rw [still.config]
    linarith

theorem timed_of_recovers (opens : Opens percentage services opening) (earlier : FailedBefore opening.now services)
    (recovers : Recovers percentage services opening) :
    TimedByFailure (serviceOf services opening) opening.now opening.event := by
  by_cases fails : opening.event = .recordFailure
  · exact Or.inl fails
  have same := opens_by_success opens fails
  have config : ((serviceOf services opening).after percentage opening.now opening.event).config =
      (serviceOf services opening).config := after_config opening.event
  have found : (afterCall percentage services opening).get? opening.serviceName =
      some ((serviceOf services opening).after percentage opening.now opening.event) :=
    afterCall_self opening
  have alone : ∀ now, opening.now ≤ now →
      Chronological (opening :: [] ++ [⟨opening.serviceName, now, .isOpen⟩]) := by
    intro now onward
    simpa [Chronological] using onward
  cases failed : (serviceOf services opening).lastFailureTime with
  | none =>
    -- with no failure the breaker never recovers
    let now := opening.now + |(serviceOf services opening).config.recoveryTimeMs| + 1
    have onward : opening.now ≤ now := by
      have := abs_nonneg (serviceOf services opening).config.recoveryTimeMs
      linarith
    have late : recoveryOf services opening < now := by
      have := le_abs_self (serviceOf services opening).config.recoveryTimeMs
      unfold recoveryOf
      linarith
    have goes := (recovers [] now (alone now onward) (List.forall_mem_nil _)).2
      (List.forall_mem_nil _) (List.forall_mem_nil _) late
    have never : hasRecovered
        ((serviceOf services opening).after percentage opening.now opening.event) now = false := by
      simp [hasRecovered, same.trans failed]
    have isService : serviceOf (course percentage (afterCall percentage services opening) [])
        ⟨opening.serviceName, now, .isOpen⟩ = _ := serviceOf_reached found
    rw [isService, isOpen_waits opens.2 never] at goes
    cases goes.1
  | some failedAt =>
    refine Or.inr (or_iff_not_imp_right.mpr fun notNegative => ?_)
    have nonneg : 0 ≤ (serviceOf services opening).config.recoveryTimeMs := by
      by_contra negative
      exact notNegative ⟨not_le.mp negative, by rw [failed]; rfl⟩
    by_contra differs
    have before : failedAt < opening.now := by
      refine lt_of_le_of_ne ?_ fun equal => differs (by rw [failed, equal])
      unfold serviceOf getOrCreate at failed
      cases known : services.get? opening.serviceName with
      | none =>
        rw [known] at failed
        cases failed
      | some service =>
        rw [known] at failed
        exact earlier _ service failedAt known failed
    -- at the end of the recovery time it has recovered already
    let now := recoveryOf services opening
    have onward : opening.now ≤ now := le_add_of_nonneg_right nonneg
    have stays := (recovers [] now (alone now onward) (List.forall_mem_nil _)).1 (le_refl _)
    have recovered : hasRecovered
        ((serviceOf services opening).after percentage opening.now opening.event) now = true := by
      rw [hasRecovered_some (same.trans failed), config]
      simp only [now, recoveryOf]
      linarith
    have isService : serviceOf (course percentage (afterCall percentage services opening) [])
        ⟨opening.serviceName, now, .isOpen⟩ = _ := serviceOf_reached found
    rw [isService, (isOpen_recovers opens.2 recovered).1] at stays
    cases stays

end Recovery

/-- An opening is followed by the recovery that is meant exactly when it is timed by a failure. -/
theorem circuit_recovers_iff (percentage : Nat → Nat → ℚ)
    (configs : List (String × CircuitBreakerConfig)) (begun : ℚ) (first : List CircuitCall) (opening : CircuitCall)
    (ordered : (begun :: (first.map (·.now) ++ [opening.now])).Pairwise (· ≤ ·))
    (opens : Opens percentage (course percentage (configured configs begun) first) opening) :
    Recovers percentage (course percentage (configured configs begun) first) opening ↔
      TimedByFailure (serviceOf (course percentage (configured configs begun) first) opening)
        opening.now opening.event := by
  have earlier : FailedBefore opening.now
      (course percentage (configured configs begun) first) :=
    failedBefore_course (failedBefore_configured configs begun) ordered
  exact ⟨timed_of_recovers opens earlier, recovers_of_timed opens earlier⟩

/-- The percentage of slow calls, without rounding. -/
def exactPercentage (slow total : Nat) : ℚ := slow / total * 100

def slowSuccess (now : ℚ) : CircuitCall := ⟨"default", now, .recordSuccess (some 5001)⟩

def failureAt (now : ℚ) : CircuitCall := ⟨"default", now, .recordFailure⟩

/-- Ten slow calls open the breaker, and it never recovers. -/
theorem slow_calls_open_for_ever :
    Opens exactPercentage (course exactPercentage (configured [] 0) (List.replicate 9
        (slowSuccess 0))) (slowSuccess 0) ∧
      (isOpen (serviceOf (course exactPercentage (configured [] 0)
        (List.replicate 10 (slowSuccess 0))) ⟨"default", 60001, .isOpen⟩) 60001).2 = true ∧
      ¬ Recovers exactPercentage (course exactPercentage (configured [] 0)
        (List.replicate 9 (slowSuccess 0))) (slowSuccess 0) := by
  have stays : (isOpen (serviceOf (course exactPercentage (configured [] 0)
      (List.replicate 10 (slowSuccess 0))) ⟨"default", 60001, .isOpen⟩) 60001).2 = true := by
    decide +kernel
  refine ⟨by decide +kernel, stays, fun recovers => ?_⟩
  have goes := (recovers [] 60001 (by decide +kernel) (List.forall_mem_nil _)).2
    (List.forall_mem_nil _) (List.forall_mem_nil _) (by decide +kernel)
  exact Bool.false_ne_true (goes.1.symm.trans stays)

/-- Five failures open the breaker, and it recovers. -/
theorem failures_recover : Recovers exactPercentage (course exactPercentage (configured [] 0)
      ([0, 1, 2, 3].map failureAt)) (failureAt 4) :=
  (circuit_recovers_iff exactPercentage [] 0 ([0, 1, 2, 3].map failureAt) (failureAt 4)
    (by decide +kernel) (by decide +kernel)).mpr (Or.inl rfl)

end AlianStructure.Guarantees.CircuitRecovery
