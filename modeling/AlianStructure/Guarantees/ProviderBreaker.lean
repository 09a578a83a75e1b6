import AlianStructure.Library.Trajectory
import AlianStructure.Source.AiCompute.ProviderFailover

/-!
# The breaker of a compute provider

Source: src/infrastructure/ai-compute/provider-failover.ts:8-17,61-161. Jobs select a provider,
acquire it and report once. The breaker keeps its order until a job that is not a probe reports a
success to a breaker that has opened since, or a second job acquires a provider on trial.
-/
namespace AlianStructure.Guarantees.ProviderBreaker
open Library.InsertionOrder Library.Trajectory
open Source.AiCompute ProviderFailover

/-- How far a job is; a probe acquired its provider while that was half-open. -/
inductive Stage where
  | selected
  | running (probe : Bool)
  | reported
  deriving DecidableEq

structure Job where
  provider : String
  stage : Stage
  deriving DecidableEq

/-- The providers with their jobs. `openedSince` is when a breaker that is open was opened. -/
structure Bridge where
  providers : Providers
  jobs : List Job
  clock : ℚ
  openedSince : String → ℚ

def breaker (bridge : Bridge) (name : String) : Option CircuitState :=
  (bridge.providers.get? name).map (·.state)

/-- A job picks a provider by `select` or, with `pick`, one that it finds available. -/
inductive Event where
  | select (nowMs : ℚ)
  | pick (name : String) (nowMs : ℚ)
  | acquire (job : Nat)
  | recordSuccess (job : Nat)
  | recordFailure (job : Nat) (nowMs : ℚ)

/-- The bridge at a time, with other providers and jobs. -/
def advance (bridge : Bridge) (nowMs : ℚ) (providers : Providers) (jobs : List Job) : Bridge where
  providers := providers
  jobs := jobs
  clock := nowMs
  openedSince name :=
    if breaker bridge name = some .opened then bridge.openedSince name else nowMs

variable (cfg : BreakerConfig) (localeCompare : String → String → Int)

def step (bridge : Bridge) : Event → Option Bridge
  | .select nowMs =>
    if bridge.clock ≤ nowMs then
      let (providers, name) := select cfg localeCompare bridge.providers nowMs
      some (advance bridge nowMs providers (bridge.jobs ++ (name.map (⟨·, .selected⟩)).toList))
    else none
  | .pick name nowMs =>
    if bridge.clock ≤ nowMs then
      let (providers, free) := isAvailable cfg bridge.providers name nowMs
      some (advance bridge nowMs providers (bridge.jobs ++ if free then [⟨name, .selected⟩] else []))
    else none
  | .acquire job =>
    match bridge.jobs[job]? with
    | some ⟨name, .selected⟩ =>
      some (advance bridge bridge.clock (acquire bridge.providers name) (bridge.jobs.set job
        ⟨name, .running (decide (breaker bridge name = some .halfOpen))⟩))
    | _ => none
  | .recordSuccess job =>
    match bridge.jobs[job]? with
    | some ⟨name, .running _⟩ =>
      some (advance bridge bridge.clock (recordSuccess bridge.providers name)
        (bridge.jobs.set job ⟨name, .reported⟩))
    | _ => none
  | .recordFailure job nowMs =>
    match bridge.jobs[job]? with
    | some ⟨name, .running _⟩ =>
      if bridge.clock ≤ nowMs then
        some (advance bridge nowMs (recordFailure cfg bridge.providers name nowMs)
          (bridge.jobs.set job ⟨name, .reported⟩))
      else none
    | _ => none

/-- The probes of a provider that are in flight. -/
def probing (bridge : Bridge) (name : String) : Nat := bridge.jobs.count ⟨name, .running true⟩

/-- What a step may do: a breaker leaves open for half-open, after the cooldown, a provider has one
probe at a time, and only the success of a probe closes its breaker, which is half-open. -/
structure Disciplined (before : Bridge) (event : Event) (after : Bridge) : Prop where
  leaves : ∀ name, breaker before name = some .opened → breaker after name ≠ some .opened →
    breaker after name = some .halfOpen ∧ cfg.cooldownMs ≤ after.clock - before.openedSince name
  probes : ∀ name, probing after name ≤ 1
  closes : ∀ name, breaker before name ≠ some .closed → breaker after name = some .closed →
    breaker before name = some .halfOpen ∧
      ∃ job, event = .recordSuccess job ∧ before.jobs[job]? = some ⟨name, .running true⟩

/-- A provider on trial is acquired when it has no probe, and a success is reported to a closed
breaker, or by a probe to one that is half-open. -/
def Allowed (bridge : Bridge) : Event → Prop
  | .acquire job => ∀ name, bridge.jobs[job]? = some ⟨name, .selected⟩ →
    breaker bridge name = some .halfOpen → probing bridge name = 0
  | .recordSuccess job => ∀ name probe, bridge.jobs[job]? = some ⟨name, .running probe⟩ →
    ∀ state, breaker bridge name = some state →
      state = .closed ∨ (state = .halfOpen ∧ probe = true)
  | _ => True

/-- An open breaker was opened no later than it says, and at no time to come. -/
structure Timed (bridge : Bridge) : Prop where
  since : ∀ name p, bridge.providers.get? name = some p → p.state = .opened →
    bridge.openedSince name ≤ p.openedAtMs
  past : ∀ name, bridge.openedSince name ≤ bridge.clock

/-- A change after which an open breaker is as it was, or was opened now. -/
def OpensNow (nowMs : ℚ) (change : ProviderState → ProviderState) : Prop :=
  ∀ p, (change p).state = .opened →
    (p.state = .opened ∧ (change p).openedAtMs = p.openedAtMs) ∨ (change p).openedAtMs = nowMs

section Changes
variable {cfg} {bridge : Bridge} {nowMs : ℚ} {chosen : String → Bool}
  {change : ProviderState → ProviderState} {jobs : List Job} {name : String}

theorem effectiveState_opens (other : ℚ) : OpensNow other fun p => effectiveState cfg p nowMs := by
  intro p opened
  simp only [effectiveState] at opened ⊢
  split at opened
  next => cases opened
  next unchanged => exact Or.inl ⟨opened, by rw [if_neg unchanged]⟩

theorem acquired_opens : OpensNow nowMs acquired := fun _ opened => Or.inl ⟨opened, rfl⟩

theorem succeeded_opens : OpensNow nowMs succeeded := fun _ opened => nomatch opened

theorem failed_opens : OpensNow nowMs (failed cfg nowMs) := by
  intro p opened
  simp only [failed] at opened ⊢
  split at opened
  next trial => exact Or.inr (by rw [if_pos trial])
  next trial =>
    rw [if_neg trial]
    split at opened
    next reached => exact Or.inr (by rw [if_pos reached])
    next below => exact Or.inl ⟨opened, by rw [if_neg below]; rfl⟩

theorem failed_closed {p : ProviderState} (closed : (failed cfg nowMs p).state = .closed) : p.state = .closed := by
  unfold failed released at closed
  dsimp only at closed
  split at closed
  next => cases closed
  next =>
    split at closed
    next => cases closed
    next => exact closed

theorem failed_opened {p : ProviderState} (opened : p.state = .opened) : (failed cfg nowMs p).state = .opened := by
  unfold failed released
  dsimp only
  split
  next => rfl
  next =>
    split
    next => rfl
    next => exact opened

theorem Timed.advance (timed : Timed bridge) (later : bridge.clock ≤ nowMs)
    (opens : OpensNow nowMs change) (jobs : List Job) :
    Timed (advance bridge nowMs (bridge.providers.adjust chosen change) jobs) := by
  have past : ∀ name, (ProviderBreaker.advance bridge nowMs
      (bridge.providers.adjust chosen change) jobs).openedSince name ≤ nowMs := by
    intro name
    simp only [ProviderBreaker.advance]
    split
    next => exact le_trans (timed.past name) later
    next => exact le_refl nowMs
  refine ⟨fun name after found opened => ?_, past⟩
  obtain ⟨p, stored, rfl⟩ := Option.map_eq_some_iff.mp
    ((OrderedMap.get?_adjust bridge.providers chosen change name).symm.trans found)
  have old : p.state = .opened → (ProviderBreaker.advance bridge nowMs
      (bridge.providers.adjust chosen change) jobs).openedSince name ≤ p.openedAtMs := by
    intro isOpen
    have open_before : breaker bridge name = some .opened := by
      rw [breaker, stored, Option.map_some, isOpen]
    simp only [ProviderBreaker.advance, if_pos open_before]
    exact timed.since name p stored isOpen
  split at opened
  next isChosen =>
    rw [if_pos isChosen]
    rcases opens p opened with ⟨isOpen, same⟩ | now
    · rw [same]
      exact old isOpen
    · rw [now]
      exact past name
  next skipped =>
    rw [if_neg skipped]
    exact old opened

theorem breaker_advance : breaker (advance bridge nowMs (bridge.providers.adjust chosen change) jobs)
    name = (bridge.providers.get? name).map fun p => (if chosen name then change p else p).state := by
  rw [breaker]
  simp only [advance, OrderedMap.get?_adjust, Option.map_map]
  rfl

end Changes

section Steps
variable {cfg localeCompare} {bridge after : Bridge}

/-- The providers observed at a time, and new jobs that have selected one. -/
def Observed (cfg : BreakerConfig) (bridge after : Bridge) (nowMs : ℚ) : Prop :=
  ∃ looksAt new, (∀ job ∈ new, job.stage = .selected) ∧
    after = advance bridge nowMs (observe cfg bridge.providers looksAt nowMs) (bridge.jobs ++ new)

variable {nowMs : ℚ}

theorem step_select (stepped : step cfg localeCompare bridge (.select nowMs) = some after) :
    bridge.clock ≤ nowMs ∧ Observed cfg bridge after nowMs := by
  simp only [step, select] at stepped
  split at stepped
  next later =>
    refine ⟨later, fun _ => true, _, fun job new => ?_, (Option.some.inj stepped).symm⟩
    obtain ⟨name, _, rfl⟩ := Option.map_eq_some_iff.mp (Option.mem_toList.mp new)
    rfl
  next => cases stepped

theorem step_pick {name : String} (stepped : step cfg localeCompare bridge (.pick name nowMs) = some after) :
    bridge.clock ≤ nowMs ∧ Observed cfg bridge after nowMs := by
  simp only [step] at stepped
  split at stepped
  next later =>
    have looked : (isAvailable cfg bridge.providers name nowMs).1 =
        observe cfg bridge.providers (fun other => decide (other = name)) nowMs := by
      unfold isAvailable
      dsimp only
      split <;> rfl
    refine ⟨later, _, _, fun job new => ?_, looked ▸ (Option.some.inj stepped).symm⟩
    split at new
    next => exact (List.mem_singleton.mp new) ▸ rfl
    next => cases new
  next => cases stepped

variable {job : Nat}

theorem step_acquire (stepped : step cfg localeCompare bridge (.acquire job) = some after) :
    ∃ name, bridge.jobs[job]? = some ⟨name, .selected⟩ ∧
      after = advance bridge bridge.clock (onProvider bridge.providers name acquired) (bridge.jobs.set job
          ⟨name, .running (decide (breaker bridge name = some .halfOpen))⟩) := by
  simp only [step] at stepped
  split at stepped
  next name found => exact ⟨name, found, (Option.some.inj stepped).symm⟩
  next => cases stepped

theorem step_recordSuccess (stepped : step cfg localeCompare bridge (.recordSuccess job) = some after) :
    ∃ name probe, bridge.jobs[job]? = some ⟨name, .running probe⟩ ∧
      after = advance bridge bridge.clock (onProvider bridge.providers name succeeded)
        (bridge.jobs.set job ⟨name, .reported⟩) := by
  simp only [step] at stepped
  split at stepped
  next name probe found => exact ⟨name, probe, found, (Option.some.inj stepped).symm⟩
  next => cases stepped

theorem step_recordFailure (stepped : step cfg localeCompare bridge (.recordFailure job nowMs) = some after) :
    bridge.clock ≤ nowMs ∧ ∃ name probe, bridge.jobs[job]? = some ⟨name, .running probe⟩ ∧
      after = advance bridge nowMs (onProvider bridge.providers name (failed cfg nowMs))
        (bridge.jobs.set job ⟨name, .reported⟩) := by
  simp only [step] at stepped
  split at stepped
  next name probe found =>
    split at stepped
    next later => exact ⟨later, name, probe, found, (Option.some.inj stepped).symm⟩
    next => cases stepped
  next => cases stepped

theorem Timed.step (timed : Timed bridge) {event : Event}
    (stepped : step cfg localeCompare bridge event = some after) : Timed after := by
  cases event with
  | select nowMs =>
    obtain ⟨later, looksAt, new, _, rfl⟩ := step_select stepped
    exact timed.advance later (effectiveState_opens nowMs) _
  | pick name nowMs =>
    obtain ⟨later, looksAt, new, _, rfl⟩ := step_pick stepped
    exact timed.advance later (effectiveState_opens nowMs) _
  | acquire job =>
    obtain ⟨name, _, rfl⟩ := step_acquire stepped
    exact timed.advance (le_refl _) acquired_opens _
  | recordSuccess job =>
    obtain ⟨name, probe, _, rfl⟩ := step_recordSuccess stepped
    exact timed.advance (le_refl _) succeeded_opens _
  | recordFailure job nowMs =>
    obtain ⟨later, name, probe, _, rfl⟩ := step_recordFailure stepped
    exact timed.advance later failed_opens _

theorem disciplined_observed (timed : Timed bridge) (single : ∀ name, probing bridge name ≤ 1)
    {event : Event} (observed : Observed cfg bridge after nowMs) : Disciplined cfg bridge event after := by
  obtain ⟨looksAt, new, selected, rfl⟩ := observed
  refine ⟨fun name isOpen left => ?_, fun name => ?_, fun name notClosed closed => ?_⟩
  · obtain ⟨p, stored, state⟩ := Option.map_eq_some_iff.mp isOpen
    rw [observe, breaker_advance, stored, Option.map_some] at left ⊢
    split at left
    next isChosen =>
      rw [if_pos isChosen]
      unfold effectiveState at left ⊢
      split at left
      next cooled =>
        rw [if_pos cooled]
        have opened := timed.since name p stored state
        exact ⟨rfl, le_trans cooled.2 (sub_le_sub_left opened nowMs)⟩
      next => exact absurd (congrArg some state) left
    next => exact absurd (congrArg some state) left
  · have none_runs : new.count ⟨name, .running true⟩ = 0 :=
      List.count_eq_zero.mpr fun member => nomatch selected _ member
    have same : probing (advance bridge nowMs (observe cfg bridge.providers looksAt nowMs)
        (bridge.jobs ++ new)) name = probing bridge name := by
      simp only [probing, advance, List.count_append, none_runs, Nat.add_zero]
    rw [same]
    exact single name
  · rw [observe, breaker_advance] at closed
    obtain ⟨p, stored, state⟩ := Option.map_eq_some_iff.mp closed
    have before : breaker bridge name = some p.state := by rw [breaker, stored, Option.map_some]
    have kept : p.state = .closed := by
      split at state
      next =>
        unfold effectiveState at state
        split at state
        next => cases state
        next => exact state
      next => exact state
    exact absurd (before.trans (congrArg some kept)) notClosed

theorem probing_set {old : Job} (found : bridge.jobs[job]? = some old) (changed : Job) (nowMs : ℚ)
    (providers : Providers) (name : String) :
    probing (advance bridge nowMs providers (bridge.jobs.set job changed)) name =
      probing bridge name - (if old = ⟨name, .running true⟩ then 1 else 0) +
        if changed = ⟨name, .running true⟩ then 1 else 0 := by
  obtain ⟨inside, rfl⟩ := List.getElem?_eq_some_iff.mp found
  simp only [probing, advance, List.count_set inside, beq_iff_eq]

theorem disciplined_acquire (single : ∀ name, probing bridge name ≤ 1)
    (stepped : step cfg localeCompare bridge (.acquire job) = some after) :
    Disciplined cfg bridge (.acquire job) after ↔ Allowed bridge (.acquire job) := by
  obtain ⟨name, found, rfl⟩ := step_acquire stepped
  have same : ∀ other, breaker (advance bridge bridge.clock
      (onProvider bridge.providers name acquired) (bridge.jobs.set job
        ⟨name, .running (decide (breaker bridge name = some .halfOpen))⟩)) other =
      breaker bridge other := by
    intro other
    rw [onProvider, breaker_advance, breaker]
    congr 1
    funext p
    split <;> rfl
  have added := probing_set found ⟨name, .running (decide (breaker bridge name = some .halfOpen))⟩
    bridge.clock (onProvider bridge.providers name acquired)
  constructor
  · intro disciplined other chosen trial
    rw [found] at chosen
    cases chosen
    have one := disciplined.probes name
    rw [added, trial] at one
    simpa using one
  · intro allowed
    refine ⟨fun other isOpen left => ?_, fun other => ?_, fun other notClosed closed => ?_⟩
    · exact absurd ((same other).trans isOpen) left
    · have before := single other
      rw [added]
      by_cases probes : (⟨name, .running (decide (breaker bridge name = some .halfOpen))⟩ : Job) =
          ⟨other, .running true⟩
      · obtain ⟨rfl, trial⟩ := Job.mk.inj probes
        have free := allowed name found (of_decide_eq_true (Stage.running.inj trial))
        simp [probes, free]
      · simpa [probes] using before
    · exact absurd ((same other).symm.trans closed) notClosed

theorem probing_reported {name : String} {probe : Bool}
    (found : bridge.jobs[job]? = some ⟨name, .running probe⟩) (single : ∀ name, probing bridge name ≤ 1)
    (nowMs : ℚ) (providers : Providers) (other : String) :
    probing (advance bridge nowMs providers (bridge.jobs.set job ⟨name, .reported⟩)) other ≤ 1 := by
  rw [probing_set found]
  have before := single other
  simp only [Job.mk.injEq, reduceCtorEq, and_false, if_false, Nat.add_zero]
  omega

theorem disciplined_recordSuccess (single : ∀ name, probing bridge name ≤ 1)
    (stepped : step cfg localeCompare bridge (.recordSuccess job) = some after) :
    Disciplined cfg bridge (.recordSuccess job) after ↔ Allowed bridge (.recordSuccess job) := by
  obtain ⟨name, probe, found, rfl⟩ := step_recordSuccess stepped
  have after_other : ∀ other, breaker (advance bridge bridge.clock
      (onProvider bridge.providers name succeeded) (bridge.jobs.set job ⟨name, .reported⟩)) other =
      (breaker bridge other).map fun state => if other = name then .closed else state := by
    intro other
    rw [onProvider, breaker_advance, breaker, Option.map_map]
    congr 1
    funext p
    by_cases same : other = name <;> simp [same, succeeded, released]
  constructor
  · intro disciplined other otherProbe chosen state isState
    rw [found] at chosen
    cases chosen
    by_cases closed : state = .closed
    · exact Or.inl closed
    · have left : breaker bridge name ≠ some .closed := by simpa [isState] using closed
      obtain ⟨trial, other, same, probing⟩ := disciplined.closes name left (by
        rw [after_other, isState]
        simp)
      cases same
      rw [found] at probing
      cases probing
      rw [isState] at trial
      exact Or.inr ⟨Option.some.inj trial, rfl⟩
  · intro allowed
    refine ⟨fun other isOpen left => ?_, probing_reported found single _ _,
      fun other notClosed closed => ?_⟩
    · rw [after_other, isOpen] at left
      by_cases same : other = name
      · subst same
        rcases allowed other probe found _ isOpen with closed | ⟨trial, _⟩
        · cases closed
        · cases trial
      · simp [same] at left
    · rw [after_other] at closed
      obtain ⟨state, isState, becomes⟩ := Option.map_eq_some_iff.mp closed
      by_cases same : other = name
      · subst same
        rcases allowed other probe found state isState with rfl | ⟨rfl, rfl⟩
        · exact absurd isState notClosed
        · exact ⟨isState, job, rfl, found⟩
      · rw [if_neg same] at becomes
        exact absurd (isState.trans (congrArg some becomes)) notClosed

theorem disciplined_recordFailure (single : ∀ name, probing bridge name ≤ 1)
    (stepped : step cfg localeCompare bridge (.recordFailure job nowMs) = some after) :
    Disciplined cfg bridge (.recordFailure job nowMs) after := by
  obtain ⟨later, name, probe, found, rfl⟩ := step_recordFailure stepped
  refine ⟨fun other isOpen left => ?_, probing_reported found single _ _,
    fun other notClosed closed => ?_⟩
  · obtain ⟨p, stored, state⟩ := Option.map_eq_some_iff.mp isOpen
    rw [onProvider, breaker_advance, stored, Option.map_some] at left
    refine absurd (congrArg some ?_) left
    split
    next => exact failed_opened state
    next => exact state
  · rw [onProvider, breaker_advance] at closed
    obtain ⟨p, stored, state⟩ := Option.map_eq_some_iff.mp closed
    have kept : p.state = .closed := by
      split at state
      next => exact failed_closed state
      next => exact state
    exact absurd ((by rw [breaker, stored, Option.map_some, kept]) : breaker bridge other = _)
      notClosed

theorem disciplined_step (timed : Timed bridge) (single : ∀ name, probing bridge name ≤ 1) (event : Event) :
    (∀ after, step cfg localeCompare bridge event = some after →
      Disciplined cfg bridge event after) ↔ Allowed bridge event := by
  cases event with
  | select nowMs =>
    exact iff_of_true (fun _ stepped => disciplined_observed timed single (step_select stepped).2)
      trivial
  | pick name nowMs =>
    exact iff_of_true (fun _ stepped => disciplined_observed timed single (step_pick stepped).2)
      trivial
  | acquire job =>
    constructor
    · intro disciplined name found
      obtain ⟨after, stepped⟩ : ∃ after, step cfg localeCompare bridge (.acquire job) = some after :=
        ⟨_, by rw [step, found]⟩
      exact (disciplined_acquire single stepped).mp (disciplined after stepped) name found
    · exact fun allowed _ stepped => (disciplined_acquire single stepped).mpr allowed
  | recordSuccess job =>
    constructor
    · intro disciplined name probe found
      obtain ⟨after, stepped⟩ :
          ∃ after, step cfg localeCompare bridge (.recordSuccess job) = some after :=
        ⟨_, by rw [step, found]⟩
      exact (disciplined_recordSuccess single stepped).mp (disciplined after stepped) name probe found
    · exact fun allowed _ stepped => (disciplined_recordSuccess single stepped).mpr allowed
  | recordFailure job nowMs =>
    exact iff_of_true (fun _ stepped => disciplined_recordFailure single stepped) trivial

end Steps

/-- The providers before any job. -/
def start (init : List ProviderInit) (clock : ℚ) : Bridge := ⟨create init, [], clock, fun _ => clock⟩

theorem created {P : String → ProviderState → Prop}
    (fresh : ∀ provider index, P provider.name (newProvider provider index))
    (init : List ProviderInit) {name : String} {p : ProviderState} (found : (create init).get? name = some p) :
    P name p := by
  have every : ∀ (entries : List (ProviderInit × Nat)) (providers : Providers),
      (∀ name p, providers.get? name = some p → P name p) →
      ∀ name p, (entries.foldl (fun providers entry =>
        providers.set entry.1.name (newProvider entry.1 entry.2)) providers).get? name = some p → P name p := by
    intro entries
    induction entries with
    | nil => exact fun _ holds => holds
    | cons entry rest ih =>
      refine fun providers holds => ih _ fun name p found => ?_
      rw [OrderedMap.get?_set] at found
      split at found
      next same =>
        cases found
        exact same ▸ fresh entry.1 entry.2
      next => exact holds name p found
  exact every _ .empty (fun _ _ found => nomatch found) name p found

theorem create_closed (init : List ProviderInit) {name : String} {p : ProviderState}
    (found : (create init).get? name = some p) : p.state = .closed :=
  created (P := fun _ p => p.state = .closed) (fun _ _ => rfl) init found

theorem start_timed (init : List ProviderInit) (clock : ℚ) : Timed (start init clock) where
  since _ _ found opened := nomatch (create_closed init found).symm.trans opened
  past _ := le_refl clock

/-- Every step of a run keeps the breakers in order exactly when every step is allowed. -/
theorem breaker_disciplined_iff (init : List ProviderInit) (clock : ℚ) (events : List Event) :
    Admits (step cfg localeCompare) (fun bridge event => ∀ after,
        step cfg localeCompare bridge event = some after → Disciplined cfg bridge event after)
        events (start init clock) ↔ Admits (step cfg localeCompare) Allowed events (start init clock) :=
  @admits_iff _ _ (step cfg localeCompare) _ Allowed
    (fun bridge => Timed bridge ∧ ∀ name, probing bridge name ≤ 1)
    (fun _ event holds => disciplined_step holds.1 holds.2 event)
    (fun _ _ after holds disciplined stepped =>
      ⟨holds.1.step stepped, (disciplined after stepped).probes⟩)
    events (start init clock) ⟨start_timed init clock, fun _ => Nat.zero_le 1⟩

/-- The breaker opens at the first failure. -/
def sampleBreaker : BreakerConfig := ⟨1, 30000⟩

/-- Two jobs acquire one provider, and the first fails and opens its breaker. -/
def openedMeanwhile : List Event :=
  [.select 0, .select 0, .acquire 0, .acquire 1, .recordFailure 0 1]

/-- Then the second succeeds. -/
theorem stale_success_closes :
    ¬ Admits (step sampleBreaker fun _ _ => 0) (fun bridge event => ∀ after,
        step sampleBreaker (fun _ _ => 0) bridge event = some after →
          Disciplined sampleBreaker bridge event after)
      (openedMeanwhile ++ [.recordSuccess 1]) (start [⟨"openai", none⟩] 0) := by
  intro disciplined
  have ran : (course (step sampleBreaker fun _ _ => 0) openedMeanwhile
      (start [⟨"openai", none⟩] 0)).map
        (fun bridge => (breaker bridge "openai", bridge.jobs[1]?)) =
      some (some .opened, some ⟨"openai", .running false⟩) := by
    decide +kernel
  obtain ⟨middle, reached, seen⟩ := Option.map_eq_some_iff.mp ran
  obtain ⟨isOpen, found⟩ := Prod.mk.inj seen
  obtain ⟨after, stepped, closed⟩ : ∃ after,
      step sampleBreaker (fun _ _ => 0) middle (.recordSuccess 1) = some after ∧
        breaker after "openai" = some .closed := by
    refine ⟨_, by rw [step, found], ?_⟩
    obtain ⟨p, stored, _⟩ := Option.map_eq_some_iff.mp isOpen
    rw [recordSuccess, onProvider, breaker_advance, stored]
    rfl
  have last := (admits_concat disciplined reached after stepped).closes "openai"
    (by rw [isOpen]; decide) closed
  rw [isOpen] at last
  exact absurd last.1 (by decide)

/-- The job has acquired the provider and has not reported. -/
def Job.uses (name : String) : Job → Bool
  | ⟨provider, .running _⟩ => decide (provider = name)
  | _ => false

def load (bridge : Bridge) (name : String) : Nat := bridge.jobs.countP (Job.uses name)

/-- The jobs under way are counted at their providers, which stand under their names. -/
def Counted (bridge : Bridge) : Prop :=
  ∀ name p, bridge.providers.get? name = some p → p.name = name ∧ p.inFlight = load bridge name

section Load
variable {cfg : BreakerConfig} {localeCompare : String → String → Int} {bridge after : Bridge} {nowMs : ℚ}
  {job : Nat}

theorem load_set {old : Job} (found : bridge.jobs[job]? = some old) (changed : Job) (providers : Providers)
    (name : String) : load (advance bridge nowMs providers (bridge.jobs.set job changed)) name =
      load bridge name - (if old.uses name then 1 else 0) + if changed.uses name then 1 else 0 := by
  obtain ⟨inside, rfl⟩ := List.getElem?_eq_some_iff.mp found
  simp only [load, advance, List.countP_set inside]

theorem Counted.observed (counted : Counted bridge) (observed : Observed cfg bridge after nowMs) : Counted after := by
  obtain ⟨looksAt, new, selected, rfl⟩ := observed
  intro name p found
  have idle : new.countP (Job.uses name) = 0 := by
    refine List.countP_eq_zero.mpr fun job member uses => ?_
    obtain ⟨provider, stage⟩ := job
    cases selected _ member
    cases uses
  simp only [advance, observe, OrderedMap.get?_adjust, load, List.countP_append, idle, Nat.add_zero] at found ⊢
  obtain ⟨before, stored, rfl⟩ := Option.map_eq_some_iff.mp found
  have same := counted name before stored
  unfold effectiveState
  split
  next => split <;> exact same
  next => exact same

theorem Counted.changed (counted : Counted bridge) {name : String} {old changed : Job}
    {change : ProviderState → ProviderState}
    (found : bridge.jobs[job]? = some old) (named : ∀ p, (change p).name = p.name)
    (counts : ∀ p : ProviderState, (change p).inFlight =
      p.inFlight - (if old.uses name then 1 else 0) + if changed.uses name then 1 else 0)
    (others : ∀ other, name ≠ other → old.uses other = false ∧ changed.uses other = false) :
    Counted (advance bridge nowMs (onProvider bridge.providers name change) (bridge.jobs.set job changed)) := by
  intro other p here
  simp only [advance, onProvider, OrderedMap.get?_adjust] at here
  obtain ⟨before, stored, rfl⟩ := Option.map_eq_some_iff.mp here
  obtain ⟨isNamed, same⟩ := counted other before stored
  rw [load_set found]
  by_cases mine : other = name
  · subst mine
    simp only [decide_true, if_true]
    exact ⟨(named before).trans isNamed, by rw [counts, same]⟩
  · obtain ⟨apart, still⟩ := others other fun equal => mine equal.symm
    simp [mine, apart, still, isNamed, same]

theorem failed_counts (p : ProviderState) : (failed cfg nowMs p).name = p.name ∧
    (failed cfg nowMs p).inFlight = p.inFlight - 1 := by
  simp only [failed]
  split
  next => exact ⟨rfl, rfl⟩
  next => split <;> exact ⟨rfl, rfl⟩

theorem Counted.step (counted : Counted bridge) {event : Event}
    (stepped : step cfg localeCompare bridge event = some after) : Counted after := by
  cases event with
  | select nowMs => exact counted.observed (step_select stepped).2
  | pick name nowMs => exact counted.observed (step_pick stepped).2
  | acquire job =>
    obtain ⟨name, found, rfl⟩ := step_acquire stepped
    exact counted.changed found (fun _ => rfl) (fun p => by simp [acquired, Job.uses])
      fun other apart => ⟨rfl, decide_eq_false apart⟩
  | recordSuccess job =>
    obtain ⟨name, probe, found, rfl⟩ := step_recordSuccess stepped
    exact counted.changed found (fun _ => rfl) (fun p => by simp [succeeded, released, Job.uses])
      fun other apart => ⟨decide_eq_false apart, rfl⟩
  | recordFailure job nowMs =>
    obtain ⟨_, name, probe, found, rfl⟩ := step_recordFailure stepped
    exact counted.changed found (fun p => (failed_counts p).1) (fun p => by simp [failed_counts, Job.uses])
      fun other apart => ⟨decide_eq_false apart, rfl⟩

end Load

/-- The providers that are free, as a query leaves them. -/
def free (providers : Providers) (name : String) : Prop :=
  ∃ p, providers.get? name = some p ∧ p.state ≠ .opened

theorem head_least {α : Type} {r : α → α → Prop} [DecidableRel r] {measure : α → Nat}
    (before : ∀ a b, r a b → measure a ≤ measure b) (after : ∀ a b, ¬ r a b → measure b ≤ measure a) :
    ∀ (l : List α) (a : α), (l.insertionSort r).head? = some a → ∀ b ∈ l, measure a ≤ measure b
  | [], _, _ => nofun
  | x :: l, a, isHead => by
    rw [List.insertionSort_cons] at isHead
    cases sorted : l.insertionSort r with
    | nil =>
      have nothing : l = [] := List.length_eq_zero_iff.mp (by rw [← List.length_insertionSort r l, sorted]; rfl)
      subst nothing
      cases isHead
      exact fun b member => (List.mem_singleton.mp member) ▸ le_rfl
    | cons y rest =>
      have least := head_least before after l y (by rw [sorted]; rfl)
      rw [sorted, List.orderedInsert] at isHead
      split at isHead
      next first =>
        cases isHead
        exact List.forall_mem_cons.mpr ⟨le_rfl, fun b member => (before x y first).trans (least b member)⟩
      next other =>
        cases isHead
        exact List.forall_mem_cons.mpr ⟨after x _ other, least⟩

section Selection
variable {cfg : BreakerConfig} {localeCompare : String → String → Int}

theorem order_load (a b : ProviderState) : (order localeCompare a b ≤ 0 → a.inFlight ≤ b.inFlight) ∧
    (¬ order localeCompare a b ≤ 0 → b.inFlight ≤ a.inFlight) := by
  unfold order
  split
  next =>
    refine ⟨fun less => ?_, fun more => ?_⟩
    · exact_mod_cast sub_nonpos.mp less
    · exact_mod_cast (sub_pos.mp (not_le.mp more)).le
  next same =>
    have equal : a.inFlight = b.inFlight := not_not.mp same
    exact ⟨fun _ => equal.le, fun _ => equal.ge⟩

/-- In every run the count at a provider is that of the jobs that have acquired it and not reported; so a job is given
a free provider on which no more jobs run than on any other free one, and none only if none is free. -/
theorem least_loaded_selected (init : List ProviderInit) (clock : ℚ) {events : List Event} {bridge : Bridge}
    (ran : course (step cfg localeCompare) events (start init clock) = some bridge) :
    (∀ name p, bridge.providers.get? name = some p → p.inFlight = load bridge name) ∧
      ∀ nowMs, match select cfg localeCompare bridge.providers nowMs with
        | (after, some name) => free after name ∧ ∀ other, free after other → load bridge name ≤ load bridge other
        | (after, none) => ∀ other, ¬ free after other := by
  have begun : Counted (start init clock) := fun _ _ found =>
    created (P := fun name p => p.name = name ∧ p.inFlight = 0) (fun _ _ => ⟨rfl, rfl⟩) init found
  have counted := course_keeps (fun _ _ _ here stepped => Counted.step here stepped) begun ran
  refine ⟨fun name p found => (counted name p found).2, fun nowMs => ?_⟩
  have observed : Counted (advance bridge nowMs (observe cfg bridge.providers (fun _ => true) nowMs)
      (bridge.jobs ++ [])) :=
    counted.observed ⟨_, [], by simp, rfl⟩
  have same : ∀ name, load (advance bridge nowMs (observe cfg bridge.providers (fun _ => true) nowMs)
      (bridge.jobs ++ [])) name = load bridge name := fun name => by rw [load, advance, List.append_nil, load]
  unfold select
  dsimp only
  generalize observe cfg bridge.providers (fun _ => true) nowMs = after at observed same ⊢
  have listed : ∀ other, free after other → ∃ p ∈ available after, p.inFlight = load bridge other := by
    rintro other ⟨p, found, closed⟩
    refine ⟨p, List.mem_filter.mpr ⟨List.mem_map.mpr ⟨_, OrderedMap.mem_entries.mpr found, rfl⟩,
      by simpa using closed⟩, ?_⟩
    rw [← same, (observed other p found).2]
  cases sorted : ((available after).insertionSort fun a b => order localeCompare a b ≤ 0).head? with
  | none =>
    rintro other isFree
    obtain ⟨p, member, _⟩ := listed other isFree
    have nothing := List.head?_eq_none_iff.mp sorted
    rw [← List.mem_insertionSort fun a b => order localeCompare a b ≤ 0, nothing] at member
    cases member
  | some p =>
    have least := head_least (fun a b => (order_load a b).1) (fun a b => (order_load a b).2) _ p sorted
    obtain ⟨isEntry, closed⟩ := List.mem_filter.mp ((List.mem_insertionSort _).mp (List.mem_of_head? sorted))
    obtain ⟨⟨name, _⟩, stored, rfl⟩ := List.mem_map.mp isEntry
    have found := OrderedMap.mem_entries.mp stored
    obtain ⟨named, counts⟩ := observed name _ found
    dsimp only [Option.map_some] at named ⊢
    rw [named]
    refine ⟨⟨_, found, by simpa using closed⟩, fun other isFree => ?_⟩
    obtain ⟨q, member, has⟩ := listed other isFree
    rw [← same, ← counts, ← has]
    exact least q member

/-- One of two providers has opened, and the other is selected. -/
theorem openedMeanwhile_loads : ∃ bridge,
    course (step sampleBreaker fun _ _ => 0) openedMeanwhile (start [⟨"openai", none⟩, ⟨"grok", none⟩] 0) = some bridge ∧
      ∀ name p, bridge.providers.get? name = some p → p.inFlight = load bridge name := by
  obtain ⟨bridge, ran⟩ := Option.isSome_iff_exists.mp (show (course (step sampleBreaker fun _ _ => 0) openedMeanwhile
    (start [⟨"openai", none⟩, ⟨"grok", none⟩] 0)).isSome = true by decide +kernel)
  exact ⟨bridge, ran, (least_loaded_selected _ 0 ran).1⟩

end Selection

end AlianStructure.Guarantees.ProviderBreaker
