import Mathlib.Data.Rat.Defs
import AlianStructure.Library.InsertionOrder

/-!
# The circuit breaker

Source: src/investment/risk-management/circuit-breaker.service.ts:4-113,148-216. Every method reads
the clock once, which is an argument. The percentage of slow calls is computed by the numbers of the
host and is a parameter. Events and log lines are left out.
-/
namespace AlianStructure.Source.Investment
open Library.InsertionOrder

inductive CircuitState where
  | closed | opened | halfOpen
  deriving DecidableEq

structure CircuitBreakerConfig where
  failureThreshold : ℚ
  slowCallDurationMs : ℚ
  slowCallRateThreshold : ℚ
  recoveryTimeMs : ℚ
  deriving DecidableEq

structure ServiceCircuitState where
  state : CircuitState
  failureCount : Nat
  successCount : Nat
  slowCallCount : Nat
  totalCallCount : Nat
  lastFailureTime : Option ℚ
  lastTransitionTime : ℚ
  config : CircuitBreakerConfig
  deriving DecidableEq

namespace CircuitBreakerService

def defaultConfig : CircuitBreakerConfig where
  failureThreshold := 5
  slowCallDurationMs := 5000
  slowCallRateThreshold := 50
  recoveryTimeMs := 60000

def minCallsForSlowRate : Nat := 10

def createInitialState (config : CircuitBreakerConfig) (now : ℚ) : ServiceCircuitState where
  state := .closed
  failureCount := 0
  successCount := 0
  slowCallCount := 0
  totalCallCount := 0
  lastFailureTime := none
  lastTransitionTime := now
  config := config

def transitionTo (service : ServiceCircuitState) (newState : CircuitState) (now : ℚ) :
    ServiceCircuitState :=
  { service with state := newState, lastTransitionTime := now }

/-- The time since the last failure exceeds the time for recovery; never without a failure. -/
def hasRecovered (service : ServiceCircuitState) (now : ℚ) : Bool :=
  match service.lastFailureTime with
  | none => false
  | some lastFailureTime => decide (service.config.recoveryTimeMs < now - lastFailureTime)

def isOpen (service : ServiceCircuitState) (now : ℚ) : ServiceCircuitState × Bool :=
  let service := if service.state = .opened ∧ hasRecovered service now then
    transitionTo service .halfOpen now else service
  (service, decide (service.state = .opened))

def reset (service : ServiceCircuitState) (now : ℚ) : ServiceCircuitState :=
  createInitialState service.config now

def checkSlowCallRate (percentage : Nat → Nat → ℚ) (service : ServiceCircuitState) (now : ℚ) :
    ServiceCircuitState :=
  if service.totalCallCount < minCallsForSlowRate then service
  else
    let slowRate := percentage service.slowCallCount service.totalCallCount
    if service.config.slowCallRateThreshold ≤ slowRate ∧ service.state = .closed then
      transitionTo service .opened now
    else service

/-- The call lasted longer than a slow one. -/
def isSlow (service : ServiceCircuitState) (durationMs : Option ℚ) : Bool :=
  match durationMs with
  | none => false
  | some durationMs => decide (service.config.slowCallDurationMs < durationMs)

def recordSuccess (percentage : Nat → Nat → ℚ) (service : ServiceCircuitState)
    (durationMs : Option ℚ) (now : ℚ) : ServiceCircuitState :=
  let service := { service with
    totalCallCount := service.totalCallCount + 1
    successCount := service.successCount + 1 }
  let service := if isSlow service durationMs then
    checkSlowCallRate percentage { service with slowCallCount := service.slowCallCount + 1 } now
    else service
  if service.state = .halfOpen then reset service now else service

def recordFailure (service : ServiceCircuitState) (now : ℚ) : ServiceCircuitState :=
  let service := { service with
    failureCount := service.failureCount + 1
    totalCallCount := service.totalCallCount + 1
    lastFailureTime := some now }
  if service.state = .halfOpen then transitionTo service .opened now
  else if service.state = .closed ∧ service.config.failureThreshold ≤ service.failureCount then
    transitionTo service .opened now
  else service

end CircuitBreakerService

inductive CircuitEvent where
  | isOpen
  | recordSuccess (durationMs : Option ℚ)
  | recordFailure
  | reset
  deriving DecidableEq

open CircuitBreakerService in
def ServiceCircuitState.after (percentage : Nat → Nat → ℚ) (service : ServiceCircuitState)
    (now : ℚ) : CircuitEvent → ServiceCircuitState
  | .isOpen => (isOpen service now).1
  | .recordSuccess durationMs => recordSuccess percentage service durationMs now
  | .recordFailure => recordFailure service now
  | .reset => reset service now

/-- A call for a service at a time. -/
structure CircuitCall where
  serviceName : String
  now : ℚ
  event : CircuitEvent
  deriving DecidableEq

abbrev CircuitServices := OrderedMap String ServiceCircuitState

namespace CircuitBreakerService

def configure (services : CircuitServices) (serviceName : String) (config : CircuitBreakerConfig)
    (now : ℚ) : CircuitServices :=
  match services.get? serviceName with
  | some existing => services.set serviceName { existing with config := config }
  | none => services.set serviceName (createInitialState config now)

def getOrCreate (services : CircuitServices) (serviceName : String) (now : ℚ) :
    ServiceCircuitState :=
  (services.get? serviceName).getD (createInitialState defaultConfig now)

/-- The services after a call; one that is not known is created. -/
def afterCall (percentage : Nat → Nat → ℚ) (services : CircuitServices) (call : CircuitCall) :
    CircuitServices :=
  services.set call.serviceName
    ((getOrCreate services call.serviceName call.now).after percentage call.now call.event)

end CircuitBreakerService

end AlianStructure.Source.Investment
