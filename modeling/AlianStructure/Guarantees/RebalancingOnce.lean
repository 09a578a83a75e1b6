import Mathlib.Tactic.MkIffOfInductiveProp
import Mathlib.Data.List.Perm.Subperm
import AlianStructure.Library.SeenInTurn
import AlianStructure.Source.Investment.RebalancingService

/-!
# The trades of a rebalancing event

Source: src/investment/portfolio/services/rebalancing.service.ts:134-244,391-428. No method looks at
the status of the event: executing it again executes its trades again. They are executed at most once
when every execution begins before any trade has been executed and before the event is closed.
-/
namespace AlianStructure.Guarantees.RebalancingOnce
open Library.AsyncMethod Library.Interleaving Library.CallsInTurn Library.SeenInTurn
open Source Source.Investment RebalancingService

/-- Every trade has been executed at most once, and none after the event was closed. -/
@[mk_iff]
structure AtMostOnce (world : RebalancingWorld) : Prop where
  once : List.Subperm (world.executed.map (·.trade)) world.event.trades
  onTime : ∀ execution ∈ world.executed, execution.afterClose = false

instance (world : RebalancingWorld) : Decidable (AtMostOnce world) :=
  decidable_of_iff' _ (atMostOnce_iff world)

/-- A call that would execute trades begins before one has been executed and the event closed. -/
def Timely (world : RebalancingWorld) : RebalancingCall → Prop
  | .executeRebalancing id _ slippage dryRun =>
    id = world.event.id → slippage ≤ slippageLimit → dryRun = false →
      world.event.trades = [] ∨ world.executed = [] ∧ world.closed = false
  | _ => True

instance (world : RebalancingWorld) : ∀ call, Decidable (Timely world call)
  | .executeRebalancing id _ slippage dryRun =>
    inferInstanceAs (Decidable (id = world.event.id → slippage ≤ slippageLimit → dryRun = false →
      world.event.trades = [] ∨ world.executed = [] ∧ world.closed = false))
  | .approveRebalancing _ | .cancelRebalancing _ _ => inferInstanceAs (Decidable True)

/-- Any answer is possible. -/
def anyAnswer (renderNumber : ℚ → String) : Fairness (rebalancingProcess renderNumber) :=
  fun _ _ => True

instance (renderNumber : ℚ → String) (op : RebalancingOp) (outcome : RebalancingOutcome) :
    Decidable (anyAnswer renderNumber op outcome) := isTrue trivial

/-- The rows and the executions, which time leaves alone. -/
def worldOf (renderNumber : ℚ → String) : Part (rebalancingProcess renderNumber) RebalancingWorld where
  seen state := state.1
  environment _ _ := rfl

abbrev EndsOn {α : Type} (renderNumber : ℚ → String) (world : RebalancingWorld)
    (program : RebalancingM α) (post : RebalancingWorld → Except Exception α → Prop) : Prop :=
  EndsFrom (worldOf renderNumber) (anyAnswer renderNumber) world program post

/-- The event has these trades, and they are executed properly. -/
def Proper (trades : List RebalancingTrade) (world : RebalancingWorld) : Prop :=
  world.event.trades = trades ∧ AtMostOnce world

/-- A program that executes no trade. -/
def Spares {α : Type} (renderNumber : ℚ → String) (trades : List RebalancingTrade)
    (program : RebalancingM α) : Prop :=
  ∀ world, Proper trades world → EndsOn renderNumber world program fun after _ => Proper trades after

section Methods
variable {renderNumber : ℚ → String} {trades : List RebalancingTrade} {α β : Type}

theorem spares_pure {value : α} : Spares renderNumber trades (pure value) :=
  fun _ proper => endsFrom_pure proper

theorem spares_throw {failure : Exception} : Spares renderNumber trades (throw failure : RebalancingM α) :=
  fun _ proper => endsFrom_throw proper

theorem spares_bind {program : RebalancingM β} {next : β → RebalancingM α}
    (first : Spares renderNumber trades program) (rest : ∀ value, Spares renderNumber trades (next value)) :
    Spares renderNumber trades (program >>= next) := fun world proper =>
  endsFrom_bind (first world proper) (fun after value ended => rest value after ended)
    fun _ _ ended => ended

theorem spares_outcome {program : RebalancingM α} (spares : Spares renderNumber trades program) :
    Spares renderNumber trades program.outcome :=
  fun world proper state here => ends_outcome (spares world proper state here)

/-- The operations that execute no trade and keep the trades of the event. -/
def sparing (trades : List RebalancingTrade) : RebalancingOp → Prop
  | .executeTrades _ _ => False
  | .saveEvent event => event.trades = trades
  | _ => True

variable {event : RebalancingEvent} {world : RebalancingWorld}

theorem proper_saveEvent (own : event.trades = trades) (proper : Proper trades world) :
    Proper trades (world.saveEvent event) := by
  refine ⟨own, ?_, proper.2.onTime⟩
  change List.Subperm (world.executed.map (·.trade)) event.trades
  rw [own, ← proper.1]
  exact proper.2.once

theorem respond_spares {world after : RebalancingWorld} {op : RebalancingOp}
    {outcome : RebalancingOutcome} {result : Except Exception op.Reply}
    (isSparing : sparing trades op) (proper : Proper trades world)
    (responds : world.respond op outcome = some (after, result)) : Proper trades after := by
  unfold RebalancingWorld.respond at responds
  split at responds
  case h_3 | h_4 =>
    cases responds
    exact proper_saveEvent isSparing proper
  case h_7 => exact isSparing.elim
  case h_11 => cases responds
  all_goals
    cases responds
    exact ⟨proper.1, proper.2.once, proper.2.onTime⟩

theorem spares_ask {op : RebalancingOp} (isSparing : sparing trades op) :
    Spares renderNumber trades (ask op) := fun world proper =>
  endsFrom_perform fun state outcome after result here _ responds => by
    subst here
    exact respond_spares isSparing proper responds

theorem spares_clock_then {next : ℚ → RebalancingM α} (rest : ∀ now, Spares renderNumber trades (next now)) :
    Spares renderNumber trades (Async.memory >>= next) :=
  spares_bind (fun _ proper => endsFrom_memory fun _ => proper) rest

/-! ## After the trades -/

variable {portfolio : Portfolio}

theorem failRebalancing_spares {error : Exception} (own : event.trades = trades) :
    Spares renderNumber trades (failRebalancing event portfolio error) :=
  spares_bind (spares_ask own) fun _ => spares_bind (spares_ask trivial) fun _ => spares_throw

theorem finalize_spares (own : event.trades = trades) : Spares renderNumber trades (finalize event portfolio) :=
  spares_bind (spares_ask own) fun _ => spares_bind (spares_ask trivial) fun _ => spares_ask trivial

variable {actualCost : Option ℚ} {slippage : ℚ}

theorem completeRebalancing_spares (own : event.trades = trades) :
    Spares renderNumber trades (completeRebalancing event portfolio actualCost slippage) := by
  refine spares_clock_then fun now => spares_bind (spares_outcome (finalize_spares own)) ?_
  intro finalized
  cases finalized with
  | ok _ => exact spares_pure
  | error error => exact failRebalancing_spares own

theorem refuseSlippage_spares {error : String} (own : event.trades = trades) :
    Spares renderNumber trades (refuseSlippage event portfolio slippage error) :=
  spares_bind (spares_ask own) fun _ => spares_bind (spares_ask trivial) fun _ =>
    spares_bind (spares_ask trivial) fun _ => spares_throw

/-! ## The trades -/

/-- The trades before a point have been taken up, each executed at most once. -/
structure Progress (trades taken : List RebalancingTrade) (world : RebalancingWorld) : Prop where
  own : world.event.trades = trades
  executed : (world.executed.map (·.trade)).Sublist taken
  onTime : ∀ execution ∈ world.executed, execution.afterClose = false
  opened : trades = [] ∨ world.closed = false

theorem Progress.proper {taken rest : List RebalancingTrade} (progress : Progress trades taken world)
    (whole : taken ++ rest = trades) : Proper trades world := by
  refine ⟨progress.own, ?_, progress.onTime⟩
  rw [progress.own, ← whole]
  exact (progress.executed.trans (List.sublist_append_left taken rest)).subperm

theorem effective_sublist (batch : List RebalancingTrade) :
    ∀ outcomes : List TradeOutcome, (effective batch outcomes).Sublist batch := by
  induction batch with
  | nil => exact fun outcomes => List.Sublist.refl _
  | cons trade batch ih =>
    intro outcomes
    cases outcomes with
    | nil => exact List.nil_sublist _
    | cons outcome outcomes =>
      unfold effective at ih ⊢
      rw [List.zip_cons_cons, List.filter_cons]
      split
      next => exact (ih outcomes).cons_cons trade
      next => exact (ih outcomes).cons trade

theorem Progress.execute {taken batch rest : List RebalancingTrade}
    (progress : Progress trades taken world) (whole : taken ++ (batch ++ rest) = trades)
    (outcomes : List TradeOutcome) : Progress trades (taken ++ batch) (world.execute (effective batch outcomes)) := by
  have part := effective_sublist batch outcomes
  refine ⟨progress.own, ?_, ?_, progress.opened⟩
  · have added : ((world.execute (effective batch outcomes)).executed.map (·.trade)) =
        world.executed.map (·.trade) ++ effective batch outcomes := by
      simp [RebalancingWorld.execute, Function.comp_def]
    rw [added]
    exact progress.executed.append part
  · intro execution member
    rcases List.mem_append.mp member with old | new
    · exact progress.onTime execution old
    · obtain ⟨trade, isTrade, rfl⟩ := List.mem_map.mp new
      rcases progress.opened with isEmpty | opened
      · have taken_up : trade ∈ trades := by
          rw [← whole]
          exact List.mem_append_right _ (List.mem_append_left _ (part.subset isTrade))
        rw [isEmpty] at taken_up
        cases taken_up
      · exact opened

theorem executeBatches_ends {portfolioId : String} :
    ∀ {batches : List (List RebalancingTrade)} {taken : List RebalancingTrade}
      {world : RebalancingWorld}, taken ++ batches.flatten = trades → Progress trades taken world →
      EndsOn renderNumber world (executeBatches portfolioId batches)
        fun after _ => Proper trades after
  | [], _, _, whole, progress => endsFrom_pure (progress.proper whole)
  | batch :: rest, taken, world, whole, progress => by
    have asked : EndsOn renderNumber world (ask (.executeTrades portfolioId batch))
        fun after _ => Progress trades (taken ++ batch) after :=
      endsFrom_perform fun state outcome after result here _ responds => by
        subst here
        cases outcome with
        | traded outcomes failure =>
          simp only [RebalancingWorld.respond] at responds
          split at responds
          next =>
            cases responds
            exact progress.execute whole outcomes
          next => cases responds
        | fails failure =>
          cases responds
          exact ⟨progress.own, progress.executed.trans (List.sublist_append_left _ _),
            progress.onTime, progress.opened⟩
        | done => cases responds
        | replyLost failure => cases responds
    rw [List.flatten_cons, ← List.append_assoc] at whole
    exact endsFrom_bind asked (fun after _ progress => executeBatches_ends whole progress)
      fun after _ progress => progress.proper whole

theorem batches_flatten : ∀ trades : List RebalancingTrade, (batches trades).flatten = trades
  | first :: second :: third :: rest => by
    rw [batches, List.flatten_cons, batches_flatten rest]
    rfl
  | [] => rfl
  | [_] => rfl
  | [_, _] => rfl

theorem runRebalancing_ends (own : event.trades = trades) (progress : Progress trades [] world) :
    EndsOn renderNumber world (runRebalancing event portfolio actualCost slippage)
      fun after _ => Proper trades after := by
  have whole : [] ++ (batches event.trades).flatten = trades := by
    rw [batches_flatten]
    exact own
  have traded : EndsOn renderNumber world (executeTrades event portfolio)
      fun after _ => Proper trades after := by
    refine endsFrom_bind (executeBatches_ends whole progress) (fun after _ proper => ?_)
      fun _ _ proper => proper
    refine spares_clock_then (fun now => ?_) after proper
    exact spares_bind (spares_ask trivial) fun _ => spares_pure
  have finished : EndsOn renderNumber world (executeTrades event portfolio).outcome
      fun after _ => Proper trades after := fun state here => ends_outcome (traded state here)
  refine endsFrom_bind finished (fun after result proper => ?_) fun _ _ proper => proper
  cases result with
  | ok portfolio => exact completeRebalancing_spares own after proper
  | error error => exact failRebalancing_spares own after proper

/-! ## The methods -/

theorem startRebalancing_ends (own : event.trades = trades) (progress : Progress trades [] world) :
    EndsOn renderNumber world (startRebalancing event portfolio actualCost slippage)
      fun after _ => Proper trades after := by
  have saved : EndsOn renderNumber world
      (ask (.saveEvent { event with status := .inProgress }))
      fun after _ => Progress trades [] after :=
    endsFrom_perform fun state outcome after result here _ responds => by
      subst here
      have still_open : trades = [] ∨ (state.1.closed || closes .inProgress) = false :=
        progress.opened.imp_right (congrArg fun before => before || closes .inProgress)
      cases outcome with
      | done =>
        cases responds
        exact ⟨own, progress.executed, progress.onTime, still_open⟩
      | replyLost failure =>
        cases responds
        exact ⟨own, progress.executed, progress.onTime, still_open⟩
      | fails failure =>
        cases responds
        exact progress
      | traded outcomes failure => cases responds
  refine endsFrom_bind saved (fun after _ progress => runRebalancing_ends own progress)
    fun after _ progress => progress.proper (List.nil_append trades)

theorem changeEvent_spares {id : String} {change : RebalancingEvent → RebalancingEvent}
    (keeps : ∀ event, (change event).trades = event.trades) : Spares renderNumber trades (changeEvent id change) := by
  intro world proper
  have found : EndsOn renderNumber world (ask (.findEvent id)) fun after result =>
      Proper trades after ∧ ∀ event, result = .ok (some event) → event.trades = trades :=
    endsFrom_perform fun state outcome after result here _ responds => by
      subst here
      cases outcome <;> cases responds
      · refine ⟨proper, fun event isOk => ?_⟩
        split at isOk
        next =>
          cases isOk
          exact proper.1
        next => cases isOk
      · exact ⟨proper, fun event isOk => by cases isOk⟩
  refine endsFrom_bind found (fun after result ended => ?_) fun _ _ ended => ended.1
  obtain ⟨proper, own⟩ := ended
  cases result with
  | none => exact spares_throw after proper
  | some event =>
    have kept : sparing trades (.saveEvent (change event)) := (keeps event).trans (own event rfl)
    exact spares_bind (spares_ask kept) (fun _ => spares_pure) after proper

theorem approveRebalancing_spares {id : String} : Spares renderNumber trades (approveRebalancing id) := by
  unfold approveRebalancing
  exact changeEvent_spares fun _ => rfl

theorem cancelRebalancing_spares {id reason : String} : Spares renderNumber trades (cancelRebalancing id reason) := by
  unfold cancelRebalancing
  exact changeEvent_spares fun _ => rfl

theorem executeRebalancing_ends {id : String} {dryRun : Bool} (proper : Proper trades world)
    (timely : Timely world (.executeRebalancing id actualCost slippage dryRun)) :
    EndsOn renderNumber world (executeRebalancing renderNumber id actualCost slippage dryRun)
      fun after _ => Proper trades after := by
  have found : EndsOn renderNumber world (ask (.findEventWithPortfolio id)) fun after result =>
      after = world ∧ ∀ event portfolio, result = .ok (some (event, portfolio)) →
        id = world.event.id ∧ event.trades = trades :=
    endsFrom_perform fun state outcome after result here _ responds => by
      subst here
      cases outcome <;> cases responds
      · refine ⟨rfl, fun event portfolio isOk => ?_⟩
        split at isOk
        next same =>
          cases isOk
          exact ⟨same.symm, proper.1⟩
        next => cases isOk
      · exact ⟨rfl, fun event portfolio isOk => by cases isOk⟩
  refine endsFrom_bind found (fun after result ended => ?_) fun after _ ended => ended.1 ▸ proper
  obtain ⟨rfl, known⟩ := ended
  cases result with
  | none => exact spares_throw after proper
  | some both =>
    obtain ⟨event, portfolio⟩ := both
    obtain ⟨same, own⟩ := known event portfolio rfl
    have told : EndsOn renderNumber after (ask (.dispatch portfolio.userId (.started event.portfolioId
        ("Rebalancing execution started for portfolio " ++ portfolio.name))))
        fun final _ => final = after :=
      endsFrom_perform fun state outcome final result here _ responds => by
        subst here
        cases outcome <;> cases responds <;> rfl
    refine endsFrom_bind told (fun final _ same => ?_) fun final _ same => same ▸ proper
    subst same
    split
    next error _ => exact refuseSlippage_spares own final proper
    next within =>
      split
      next => exact endsFrom_pure proper
      next wet =>
        have limit : slippage ≤ slippageLimit := by
          unfold validateSlippage at within
          split at within
          next => cases within
          next notAbove => exact not_lt.mp notAbove
        refine startRebalancing_ends own ?_
        rcases timely same limit (Bool.eq_false_iff.mpr wet) with none | ⟨fresh, opened⟩
        · have no_trades : trades = [] := proper.1.symm.trans none
          have nothing : final.executed.map (·.trade) = [] := by
            refine List.subperm_nil.mp ?_
            rw [← none]
            exact proper.2.once
          exact ⟨proper.1, by rw [nothing], proper.2.onTime, Or.inl no_trades⟩
        · exact ⟨proper.1, by rw [fresh]; exact List.nil_sublist _, proper.2.onTime, Or.inr opened⟩

end Methods

theorem body_keeps (renderNumber : ℚ → String)
    (state : State (rebalancingProcess renderNumber)) (call : RebalancingCall)
    (once : AtMostOnce state.1) (timely : Timely state.1 call) :
    Ends (rebalancingProcess renderNumber) (anyAnswer renderNumber) state
      (rebalancingBody renderNumber call) fun after _ => AtMostOnce after.1 := by
  have proper : Proper state.1.event.trades state.1 := ⟨rfl, once⟩
  have keeps : EndsOn renderNumber state.1 (rebalancingBody renderNumber call)
      fun after _ => Proper state.1.event.trades after := by
    cases call with
    | approveRebalancing id =>
      exact approveRebalancing_spares state.1 proper
    | executeRebalancing id actualCost slippage dryRun => exact executeRebalancing_ends proper timely
    | cancelRebalancing id reason => exact cancelRebalancing_spares state.1 proper
  exact ends_mono (fun _ _ ended => ended.2) (keeps state rfl)

theorem operations_fail (renderNumber : ℚ → String) (world : RebalancingWorld) (op : RebalancingOp) :
    ∃ choice failure, anyAnswer renderNumber op choice ∧
      (rebalancingProcess renderNumber).respond world op choice = some (world, .error failure) := by
  refine ⟨.fails (.error "failed"), .error "failed", trivial, ?_⟩
  cases op <;> rfl

/-- An event before any of its trades. -/
def begun (event : RebalancingEvent) (portfolio : Portfolio) : RebalancingWorld :=
  ⟨event, portfolio, [], closes event.status⟩

/-- In a run of calls in turn whose executions are timely, every trade is executed at most once, and
none after the event was closed. -/
theorem trades_at_most_once (renderNumber : ℚ → String) (event : RebalancingEvent)
    (portfolio : Portfolio) (now : ℚ) (labels : List (Label (rebalancingProcess renderNumber)))
    (after : Config (rebalancingProcess renderNumber))
    (timely : Admissible (InTurn (anyAnswer renderNumber) fun state call => Timely state.1 call) labels
      (Config.initial _ (begun event portfolio) now))
    (ran : run labels (Config.initial _ (begun event portfolio) now) = some after) : AtMostOnce after.world := by
  have start : AtMostOnce (begun event portfolio) := ⟨List.nil_subperm, List.forall_mem_nil _⟩
  have orderly : Orderly (anyAnswer renderNumber) (fun state => AtMostOnce state.1)
      (Config.initial (rebalancingProcess renderNumber) (begun event portfolio) now) :=
    Or.inl ⟨rfl, start⟩
  have later := orderly.run (fun _ _ => id)
    (fun state call _ once timely => body_keeps renderNumber state call once timely) timely ran
  exact Orderly.throughout (S := rebalancingProcess renderNumber) AtMostOnce
    (operations_fail renderNumber) later

def sampleTrade : RebalancingTrade := ⟨"BTC", .sell, 5, 10, 50, 0⟩

def sampleEvent : RebalancingEvent where
  id := "e"
  portfolioId := "p"
  status := .pending
  allocationAfter := .empty
  trades := [sampleTrade]
  estimatedCost := some 50
  actualCost := none
  executionSlippage := none
  failureReason := none
  executedAt := none
  completedAt := none

def samplePortfolio : Portfolio := ⟨"p", "u", "sample", 100, .empty, none, none⟩

def sampleStart : Config (rebalancingProcess fun _ => "") :=
  Config.initial _ (begun sampleEvent samplePortfolio) 0

/-- An execution that succeeds, as the call with a number. -/
def executionRun (i : Nat) : List (Label (rebalancingProcess fun _ => "")) :=
  [.call (.executeRebalancing "e" none 0 false), .reply i .done, .reply i .done, .reply i .done,
    .reply i (.traded [.executed] (.error "")), .resume i, .reply i .done, .resume i, .reply i .done,
    .reply i .done, .reply i .done]

def cancellationRun (i : Nat) : List (Label (rebalancingProcess fun _ => "")) :=
  [.call (.cancelRebalancing "e" "no"), .reply i .done, .reply i .done]

/-- The same event is executed twice, and cancelled before it is executed. -/
theorem executed_again_and_late : (∃ after, run (executionRun 0 ++ executionRun 1) sampleStart = some after ∧
      after.world.executed = [⟨sampleTrade, false⟩, ⟨sampleTrade, true⟩] ∧ ¬ AtMostOnce after.world) ∧
    ∃ after, run (cancellationRun 0 ++ executionRun 1) sampleStart = some after ∧
      after.world.executed = [⟨sampleTrade, true⟩] ∧ ¬ AtMostOnce after.world := by
  constructor <;> decide +kernel

/-- An approved event is executed once and cancelled afterwards. -/
theorem executed_once : ∃ after,
    run ([.call (.approveRebalancing "e"), .reply 0 .done, .reply 0 .done] ++ executionRun 1 ++
      cancellationRun 2) sampleStart = some after ∧
      after.world.executed = [⟨sampleTrade, false⟩] ∧ AtMostOnce after.world := by
  obtain ⟨after, ran, executed⟩ : ∃ after,
      run ([.call (.approveRebalancing "e"), .reply 0 .done, .reply 0 .done] ++ executionRun 1 ++
        cancellationRun 2) sampleStart = some after ∧
        after.world.executed = [⟨sampleTrade, false⟩] := by
    decide +kernel
  exact ⟨after, ran, executed, trades_at_most_once (fun _ => "") sampleEvent samplePortfolio 0 _
    after (by decide +kernel) ran⟩

end AlianStructure.Guarantees.RebalancingOnce
