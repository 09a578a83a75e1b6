import AlianStructure.Library.Interleaving
import AlianStructure.Source.Exception
import AlianStructure.Source.Investment.RebalancingTrades

/-!
# The life of a rebalancing event

Source: src/investment/portfolio/services/rebalancing.service.ts:117-244,391-428 and
trading-transaction.service.ts. The world holds one event with its portfolio. A trade takes effect when
it is sent, so that a batch does so at once. Every column is written by save.
-/
namespace AlianStructure.Source.Investment
open Library.AsyncMethod Library.Interleaving Library.InsertionOrder

inductive RebalanceStatus where
  | pending | inProgress | completed | failed | cancelled
  deriving DecidableEq

structure RebalancingEvent where
  id : String
  portfolioId : String
  status : RebalanceStatus
  allocationAfter : OrderedMap String ℚ
  trades : List RebalancingTrade
  estimatedCost : Option ℚ
  actualCost : Option ℚ
  executionSlippage : Option ℚ
  failureReason : Option String
  executedAt : Option ℚ
  completedAt : Option ℚ

/-- The messages to the owner of the portfolio. -/
inductive RebalanceAlert where
  | started (portfolioId message : String)
  | cancelled (portfolioId : String) (reason : String)
  | success (portfolioId message : String)
  | failed (portfolioId error : String)
  deriving DecidableEq

inductive RebalanceRecord where
  | slippageFailure (portfolioId : String) (slippage : ℚ)
  | success (portfolioId eventId : String)
  deriving DecidableEq

inductive RebalancingOp where
  | findEvent (id : String)
  | findEventWithPortfolio (id : String)
  | saveEvent (event : RebalancingEvent)
  | savePortfolio (portfolio : Portfolio)
  | executeTrades (portfolioId : String) (batch : List RebalancingTrade)
  | dispatch (userId : String) (alert : RebalanceAlert)
  | recordVerification (record : RebalanceRecord)

abbrev RebalancingOp.Reply : RebalancingOp → Type
  | .findEvent _ => Option RebalancingEvent
  | .findEventWithPortfolio _ => Option (RebalancingEvent × Portfolio)
  | .saveEvent _ | .savePortfolio _ | .executeTrades _ _ | .dispatch _ _ | .recordVerification _ =>
    Unit

inductive RebalancingCall where
  | approveRebalancing (rebalancingEventId : String)
  | executeRebalancing (rebalancingEventId : String) (actualCost : Option ℚ) (slippage : ℚ)
      (dryRun : Bool)
  | cancelRebalancing (rebalancingEventId : String) (reason : String)

/-- The memory is the clock. -/
abbrev rebalancing : Runtime where
  Op := RebalancingOp
  Reply := RebalancingOp.Reply
  Mem := ℚ
  Err := Exception
  Call := RebalancingCall
  Val := RebalancingEvent

abbrev RebalancingM := Async rebalancing

namespace RebalancingService

def ask (op : RebalancingOp) : RebalancingM op.Reply := Async.perform (R := rebalancing) op

def slippageLimit : ℚ := 2 / 100

variable (renderNumber : ℚ → String)

/-- The error of a slippage above the limit. -/
def validateSlippage (slippage : ℚ) : Option String :=
  if slippageLimit < slippage then
    some ("Slippage " ++ renderNumber (slippage * 100) ++ "% exceeds limit of " ++
      renderNumber (slippageLimit * 100) ++ "%")
  else none

def batchSize : Nat := 3

/-- The trades in batches, one after the other. -/
def batches : List RebalancingTrade → List (List RebalancingTrade)
  | first :: second :: third :: rest => [first, second, third] :: batches rest
  | [] => []
  | rest => [rest]

def executeBatches (portfolioId : String) : List (List RebalancingTrade) → RebalancingM Unit
  | [] => pure ()
  | batch :: rest => do
    ask (.executeTrades portfolioId batch)
    executeBatches portfolioId rest

/-- The catch block, with the event as it is by then. -/
def failRebalancing (event : RebalancingEvent) (portfolio : Portfolio) (error : Exception) :
    RebalancingM RebalancingEvent := do
  ask (.saveEvent { event with status := .failed, failureReason := some error.message })
  ask (.dispatch portfolio.userId (.failed event.portfolioId error.message))
  throw error

def completed (event : RebalancingEvent) (actualCost : Option ℚ) (slippage now : ℚ) :
    RebalancingEvent :=
  { event with
    status := .completed
    actualCost := if actualCost.getD 0 = 0 then event.estimatedCost else actualCost
    executionSlippage := some slippage
    executedAt := some now
    completedAt := some now }

/-- The end of a rebalancing whose trades and portfolio are done. -/
def finalize (event : RebalancingEvent) (portfolio : Portfolio) : RebalancingM Unit := do
  ask (.saveEvent event)
  ask (.recordVerification (.success event.portfolioId event.id))
  ask (.dispatch portfolio.userId
    (.success portfolio.id ("Successfully rebalanced portfolio " ++ portfolio.name)))

def completeRebalancing (event : RebalancingEvent) (portfolio : Portfolio) (actualCost : Option ℚ)
    (slippage : ℚ) : RebalancingM RebalancingEvent := do
  let now ← Async.memory
  let event := completed event actualCost slippage now
  let finalized ← (finalize event portfolio).outcome
  match finalized with
  | .ok _ => pure event
  | .error error => failRebalancing event portfolio error

/-- The trades and the portfolio, which get their part of the try block before the event changes. -/
def executeTrades (event : RebalancingEvent) (portfolio : Portfolio) : RebalancingM Portfolio := do
  executeBatches event.portfolioId (batches event.trades)
  let now ← Async.memory
  let portfolio := { portfolio with
    currentAllocation := event.allocationAfter, lastRebalanceDate := some now }
  ask (.savePortfolio portfolio)
  pure portfolio

def runRebalancing (event : RebalancingEvent) (portfolio : Portfolio) (actualCost : Option ℚ)
    (slippage : ℚ) : RebalancingM RebalancingEvent := do
  let traded ← (executeTrades event portfolio).outcome
  match traded with
  | .ok portfolio => completeRebalancing event portfolio actualCost slippage
  | .error error => failRebalancing event portfolio error

def refuseSlippage (event : RebalancingEvent) (portfolio : Portfolio) (slippage : ℚ)
    (error : String) : RebalancingM RebalancingEvent := do
  ask (.saveEvent { event with status := .failed, failureReason := some error })
  ask (.dispatch portfolio.userId (.cancelled event.portfolioId error))
  ask (.recordVerification (.slippageFailure event.portfolioId slippage))
  throw (.badRequest error)

def startRebalancing (event : RebalancingEvent) (portfolio : Portfolio) (actualCost : Option ℚ)
    (slippage : ℚ) : RebalancingM RebalancingEvent := do
  let event := { event with status := .inProgress }
  ask (.saveEvent event)
  runRebalancing event portfolio actualCost slippage

def executeRebalancing (rebalancingEventId : String) (actualCost : Option ℚ) (slippage : ℚ)
    (dryRun : Bool) : RebalancingM RebalancingEvent := do
  let found ← ask (.findEventWithPortfolio rebalancingEventId)
  match found with
  | none => throw (.badRequest "Rebalancing event not found")
  | some (event, portfolio) => do
    ask (.dispatch portfolio.userId (.started event.portfolioId
      ("Rebalancing execution started for portfolio " ++ portfolio.name)))
    match validateSlippage renderNumber slippage with
    | some error => refuseSlippage event portfolio slippage error
    | none =>
      if dryRun then pure event else startRebalancing event portfolio actualCost slippage

/-- The event with some columns changed. -/
def changeEvent (rebalancingEventId : String) (change : RebalancingEvent → RebalancingEvent) :
    RebalancingM RebalancingEvent := do
  let found ← ask (.findEvent rebalancingEventId)
  match found with
  | none => throw (.badRequest "Rebalancing event not found")
  | some event => do
    ask (.saveEvent (change event))
    pure (change event)

def approveRebalancing (rebalancingEventId : String) : RebalancingM RebalancingEvent :=
  changeEvent rebalancingEventId fun event => { event with status := .inProgress }

def cancelRebalancing (rebalancingEventId reason : String) : RebalancingM RebalancingEvent :=
  changeEvent rebalancingEventId fun event =>
    { event with status := .cancelled, failureReason := some reason }

end RebalancingService

/-- A trade that has been executed, and whether the event had been CANCELLED or COMPLETED by then. -/
structure Execution where
  trade : RebalancingTrade
  afterClose : Bool
  deriving DecidableEq

/-- The rows of the event and its portfolio, the trades executed for it, and whether it has ever
been CANCELLED or COMPLETED. -/
structure RebalancingWorld where
  event : RebalancingEvent
  portfolio : Portfolio
  executed : List Execution
  closed : Bool

def closes (status : RebalanceStatus) : Bool :=
  status == .cancelled || status == .completed

/-- What becomes of a trade: it is executed, it fails, or it is executed and then reported failed. -/
inductive TradeOutcome where
  | executed | fails | lost
  deriving DecidableEq

inductive RebalancingOutcome where
  | done
  | fails (failure : Exception)
  | replyLost (failure : Exception)
  | traded (outcomes : List TradeOutcome) (failure : Exception)
  deriving DecidableEq

/-- The trades of a batch that take effect. -/
def effective (batch : List RebalancingTrade) (outcomes : List TradeOutcome) : List RebalancingTrade :=
  ((batch.zip outcomes).filter fun entry => decide (entry.2 ≠ .fails)).map Prod.fst

namespace RebalancingWorld

def saveEvent (world : RebalancingWorld) (event : RebalancingEvent) : RebalancingWorld :=
  { world with event, closed := world.closed || closes event.status }

def execute (world : RebalancingWorld) (trades : List RebalancingTrade) : RebalancingWorld :=
  { world with executed := world.executed ++ trades.map fun trade => ⟨trade, world.closed⟩ }

def respond (world : RebalancingWorld) (op : RebalancingOp) (outcome : RebalancingOutcome) :
    Option (RebalancingWorld × Except Exception op.Reply) :=
  match op, outcome with
  | .findEvent id, .done =>
    some (world, .ok (if world.event.id = id then some world.event else none))
  | .findEventWithPortfolio id, .done =>
    some (world, .ok (if world.event.id = id then some (world.event, world.portfolio) else none))
  | .saveEvent event, .done => some (world.saveEvent event, .ok ())
  | .saveEvent event, .replyLost failure => some (world.saveEvent event, .error failure)
  | .savePortfolio portfolio, .done => some ({ world with portfolio }, .ok ())
  | .savePortfolio portfolio, .replyLost failure => some ({ world with portfolio }, .error failure)
  | .executeTrades _ batch, .traded outcomes failure =>
    if outcomes.length = batch.length then
      some (world.execute (effective batch outcomes),
        if outcomes.all (· == .executed) then .ok () else .error failure)
    else none
  | .dispatch _ _, .done => some (world, .ok ())
  | .recordVerification _, .done => some (world, .ok ())
  | _, .fails failure => some (world, .error failure)
  | _, _ => none

end RebalancingWorld

def rebalancingBody (renderNumber : ℚ → String) : RebalancingCall → RebalancingM RebalancingEvent
  | .approveRebalancing id => RebalancingService.approveRebalancing id
  | .executeRebalancing id actualCost slippage dryRun =>
    RebalancingService.executeRebalancing renderNumber id actualCost slippage dryRun
  | .cancelRebalancing id reason => RebalancingService.cancelRebalancing id reason

/-- The rebalancing of an event; time passes between the steps. -/
abbrev rebalancingProcess (renderNumber : ℚ → String) : Service rebalancing where
  World := RebalancingWorld
  Choice := RebalancingOutcome
  Env := Nat
  respond := RebalancingWorld.respond
  environment state ms := (state.1, state.2 + ms)
  isPublic _ := true
  body := rebalancingBody renderNumber

end AlianStructure.Source.Investment
