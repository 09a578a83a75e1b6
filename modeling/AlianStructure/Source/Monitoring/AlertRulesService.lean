import AlianStructure.Library.InsertionOrder

/-!
# Alert rules

Source: src/monitoring/alert-rules.service.ts:11-251, src/monitoring/monitoring.metrics.ts:112-122. A metric has values
of any type that is compared, written with `text`; the counts of evaluations are whole numbers. The timer of `start`
calls `evaluate`.
-/
namespace AlianStructure.Source.Monitoring
open Library.InsertionOrder

inductive AlertSeverity where
  | info
  | warning
  | critical
  deriving DecidableEq

inductive AlertComparison where
  | gt
  | gte
  | lt
  | lte
  deriving DecidableEq

def AlertComparison.text : AlertComparison → String
  | gt => "gt"
  | gte => "gte"
  | lt => "lt"
  | lte => "lte"

inductive AlertState where
  | ok
  | firing
  deriving DecidableEq

inductive AlertMetricKey where
  | systemCpuUsagePercent
  | processCpuUsagePercent
  | systemMemoryUsagePercent
  | systemDiskUsagePercent
  | processHeapUsedBytes
  | eventLoopLagSeconds
  deriving DecidableEq

structure AlertRule (Value : Type) where
  id : String
  description : String
  severity : AlertSeverity
  metric : AlertMetricKey
  comparison : AlertComparison
  threshold : Value
  forEvaluations : Option Int
  deriving DecidableEq

structure ActiveAlert (Value : Type) where
  rule : AlertRule Value
  state : AlertState
  value : Value
  since : String
  lastEvaluatedAt : String
  message : String
  deriving DecidableEq

/-- What the rules read of a sample of the host; there need not be a disk in it. -/
structure SystemMetricsSnapshot (Value : Type) where
  cpuUsagePercent : Value
  cpuProcessUsagePercent : Value
  memoryUsagePercent : Value
  diskUsagePercent : Option Value
  deriving DecidableEq

/-- The latest sample, if there is one, and the heap of the process. -/
structure Readings (Value : Type) where
  latest : Option (SystemMetricsSnapshot Value)
  heapUsed : Value
  deriving DecidableEq

def defaultRules (Value : Type) [NatCast Value] : List (AlertRule Value) :=
  [{ id := "high-cpu-usage", description := "System CPU usage above 85%", severity := .warning
     metric := .systemCpuUsagePercent, comparison := .gt, threshold := (85 : Nat), forEvaluations := some 3 },
   { id := "high-memory-usage", description := "System memory usage above 90%", severity := .critical
     metric := .systemMemoryUsagePercent, comparison := .gt, threshold := (90 : Nat), forEvaluations := some 2 },
   { id := "high-disk-usage", description := "Disk usage above 90%", severity := .critical
     metric := .systemDiskUsagePercent, comparison := .gt, threshold := (90 : Nat), forEvaluations := some 1 }]

/-- The maps of the service, the gauge and the counter it publishes, and what it logs. -/
structure AlertRulesService (Value : Type) where
  rules : OrderedMap String (AlertRule Value)
  states : OrderedMap String (ActiveAlert Value)
  breachStreak : OrderedMap String Nat
  alertsActive : AlertSeverity → Nat
  alertsFiredTotal : OrderedMap (String × AlertSeverity) Nat
  log : List String

namespace AlertRulesService
variable {Value : Type}

def create [NatCast Value] : AlertRulesService Value where
  rules := (defaultRules Value).foldl (fun rules rule => rules.set rule.id rule) OrderedMap.empty
  states := OrderedMap.empty
  breachStreak := OrderedMap.empty
  alertsActive := fun _ => 0
  alertsFiredTotal := OrderedMap.empty
  log := []

def upsertRule (service : AlertRulesService Value) (rule : AlertRule Value) : AlertRulesService Value :=
  { service with rules := service.rules.set rule.id rule }

def removeRule (service : AlertRulesService Value) (id : String) : AlertRulesService Value :=
  { service with
    states := service.states.delete id
    breachStreak := service.breachStreak.delete id
    rules := service.rules.delete id }

def listRules (service : AlertRulesService Value) : List (AlertRule Value) :=
  service.rules.entries.map Prod.snd

def getActiveAlerts (service : AlertRulesService Value) : List (ActiveAlert Value) :=
  (service.states.entries.map Prod.snd).filter fun alert => decide (alert.state = .firing)

def readMetric (readings : Readings Value) : AlertMetricKey → Option Value
  | .systemCpuUsagePercent => readings.latest.map SystemMetricsSnapshot.cpuUsagePercent
  | .processCpuUsagePercent => readings.latest.map SystemMetricsSnapshot.cpuProcessUsagePercent
  | .systemMemoryUsagePercent => readings.latest.map SystemMetricsSnapshot.memoryUsagePercent
  | .systemDiskUsagePercent => readings.latest.bind SystemMetricsSnapshot.diskUsagePercent
  | .processHeapUsedBytes => some readings.heapUsed
  | .eventLoopLagSeconds => none

/-- The evaluations in a row that have to breach a rule. -/
def required (rule : AlertRule Value) : Int := max 1 (rule.forEvaluations.getD 1)

section Evaluation
variable [LT Value] [LE Value] [DecidableLT Value] [DecidableLE Value]

def breaches (value : Value) (rule : AlertRule Value) : Bool :=
  match rule.comparison with
  | .gt => decide (value > rule.threshold)
  | .gte => decide (value ≥ rule.threshold)
  | .lt => decide (value < rule.threshold)
  | .lte => decide (value ≤ rule.threshold)

/-- The streak of a rule after a reading. -/
def nextStreak (service : AlertRulesService Value) (rule : AlertRule Value) (value : Value) : Nat :=
  if breaches value rule then (service.breachStreak.get? rule.id).getD 0 + 1 else 0

def stateOf (streak : Nat) (rule : AlertRule Value) : AlertState :=
  if (streak : Int) ≥ required rule then .firing else .ok

variable (text : Value → String) (now : String)

def messageOf (rule : AlertRule Value) (value : Value) : AlertState → String
  | .firing => s!"{rule.description} — current {text value} {rule.comparison.text} {text rule.threshold}"
  | .ok => s!"{rule.description} — ok (current {text value})"

def alertOf (rule : AlertRule Value) (value : Value) (newState : AlertState) (prev : Option (ActiveAlert Value)) :
    ActiveAlert Value where
  rule := rule
  state := newState
  value := value
  since := match prev with
    | some alert => if newState = alert.state then alert.since else now
    | none => now
  lastEvaluatedAt := now
  message := messageOf text rule value newState

/-- What is logged and counted when an alert begins or ends to fire. -/
def transition (service : AlertRulesService Value) (rule : AlertRule Value) (value : Value) (newState : AlertState)
    (prev : Option (ActiveAlert Value)) : AlertRulesService Value :=
  let before := prev.map ActiveAlert.state
  if newState = .firing ∧ before ≠ some .firing then
    { service with
      log := service.log ++ [s!"🔥 Alert firing: {rule.id} — {messageOf text rule value newState}"]
      alertsFiredTotal := service.alertsFiredTotal.set (rule.id, rule.severity)
        ((service.alertsFiredTotal.get? (rule.id, rule.severity)).getD 0 + 1) }
  else if newState = .ok ∧ before = some .firing then
    { service with log := service.log ++ [s!"✅ Alert resolved: {rule.id}"] }
  else service

/-- The body of the loop: the service, and the alerts counted so far. -/
def evaluateRule (readings : Readings Value) (current : AlertRulesService Value × (AlertSeverity → Nat))
    (rule : AlertRule Value) : AlertRulesService Value × (AlertSeverity → Nat) :=
  let (service, activeBySeverity) := current
  match readMetric readings rule.metric with
  | none => (service, activeBySeverity)
  | some value =>
    let streak := nextStreak service rule value
    let newState := stateOf streak rule
    let prev := service.states.get? rule.id
    let logged := transition text service rule value newState prev
    ({ logged with
        breachStreak := logged.breachStreak.set rule.id streak
        states := logged.states.set rule.id (alertOf text now rule value newState prev) },
      if newState = .firing then
        Function.update activeBySeverity rule.severity (activeBySeverity rule.severity + 1)
      else activeBySeverity)

def evaluate (readings : Readings Value) (service : AlertRulesService Value) : AlertRulesService Value :=
  let (after, activeBySeverity) := service.listRules.foldl (evaluateRule text now readings) (service, fun _ => 0)
  { after with alertsActive := activeBySeverity }

end Evaluation
end AlertRulesService

/-- The calls of the service that change it. -/
inductive AlertCall (Value : Type) where
  | upsertRule (rule : AlertRule Value)
  | removeRule (id : String)
  | evaluate (now : String) (readings : Readings Value)
  deriving DecidableEq

/-- The service after calls. -/
def AlertRulesService.after {Value : Type} [LT Value] [LE Value] [DecidableLT Value] [DecidableLE Value]
    [NatCast Value] (text : Value → String) (calls : List (AlertCall Value)) : AlertRulesService Value :=
  calls.foldl (fun service call =>
    match call with
    | .upsertRule rule => service.upsertRule rule
    | .removeRule id => service.removeRule id
    | .evaluate now readings => evaluate text now readings service) create

end AlianStructure.Source.Monitoring
