import AlianStructure.Source.Dashboard.DashboardClientService

/-!
# The reconnection scheduler

Source: src/dashboard/websocket/services/reconnection.service.ts:8-203. Delays are exact and `Math.random()` is an
argument; no limit of attempts stands for Infinity. Callbacks have numbers, and do not call the service back at once:
those of the socket manager log, or begin to connect. The runtime clears a timer that is still pending, and lets a timer
fire once.
-/
namespace AlianStructure.Source.Dashboard

structure ReconnectionConfig where
  maxDelay : ℚ
  baseDelay : ℚ
  maxAttempts : Option Nat
  factor : ℚ
  deriving DecidableEq

structure PartialReconnectionConfig where
  maxDelay : Option ℚ
  baseDelay : Option ℚ
  maxAttempts : Option (Option Nat)
  factor : Option ℚ
  deriving DecidableEq

def PartialReconnectionConfig.over (config : PartialReconnectionConfig) (old : ReconnectionConfig) :
    ReconnectionConfig where
  maxDelay := config.maxDelay.getD old.maxDelay
  baseDelay := config.baseDelay.getD old.baseDelay
  maxAttempts := config.maxAttempts.getD old.maxAttempts
  factor := config.factor.getD old.factor

/-- A callback that was called, with its arguments. -/
inductive CallbackCall where
  | reconnect (callback : Nat)
  | attempt (callback : Nat) (attempt : Nat) (delay : ℚ)
  | failed (callback : Nat) (attempts : Nat) (totalDelay : ℚ)
  deriving DecidableEq

/-- The fields of the service, the pending timers of the runtime, and the calls of callbacks so far. -/
structure Reconnection where
  config : ReconnectionConfig
  currentDelay : ℚ
  attempts : Nat
  isReconnecting : Bool
  reconnectTimer : Option Nat
  onReconnect : Option Nat
  onReconnectAttempt : Option Nat
  onReconnectFailed : Option Nat
  timers : List PendingTimer
  nextTimer : Nat
  calls : List CallbackCall
  deriving DecidableEq

namespace ReconnectionService

def defaultConfig : ReconnectionConfig := ⟨30000, 1000, none, 2⟩

def create (config : PartialReconnectionConfig) : Reconnection where
  config := config.over defaultConfig
  currentDelay := (config.over defaultConfig).baseDelay
  attempts := 0
  isReconnecting := false
  reconnectTimer := none
  onReconnect := none
  onReconnectAttempt := none
  onReconnectFailed := none
  timers := []
  nextTimer := 0
  calls := []

section Operations
variable (service : Reconnection)

/-- The runtime forgets the timer of the handle, when it is still pending. -/
def clearTimeout : Reconnection :=
  { service with timers := service.timers.filter fun timer => decide (service.reconnectTimer ≠ some timer.id) }

/-- The timer of the handle is cleared, and then the handle. -/
def clearTimer : Reconnection :=
  if service.reconnectTimer.isSome then { clearTimeout service with reconnectTimer := none } else service

def reset : Reconnection :=
  clearTimer { service with
    currentDelay := service.config.baseDelay
    attempts := 0
    isReconnecting := false }

def configure (config : PartialReconnectionConfig) : Reconnection :=
  reset { service with config := config.over service.config }

def shouldAttempt : Bool :=
  service.isReconnecting && service.config.maxAttempts.all fun maxAttempts => decide (service.attempts < maxAttempts)

def calculateNextDelay (random : ℚ) : ℚ :=
  min (service.currentDelay + random * (3 / 10) * service.currentDelay) service.config.maxDelay

/-- The total of the delays of some attempts, and the delay that comes next. -/
def totalDelay (config : ReconnectionConfig) : Nat → ℚ × ℚ
  | 0 => (0, config.baseDelay)
  | attempts + 1 =>
    let (total, delay) := totalDelay config attempts
    (total + delay, min (delay * config.factor) config.maxDelay)

def calculateTotalDelay : ℚ := (totalDelay service.config service.attempts).1

def call (made : Option CallbackCall) : Reconnection := { service with calls := service.calls ++ made.toList }

def scheduleReconnect (random : ℚ) : Reconnection :=
  if shouldAttempt service then
    let service := { service with attempts := service.attempts + 1 }
    let delay := calculateNextDelay service random
    let service := call service (service.onReconnectAttempt.map (.attempt · service.attempts delay))
    { service with
      timers := service.timers ++ [⟨service.nextTimer, delay⟩]
      reconnectTimer := some service.nextTimer
      nextTimer := service.nextTimer + 1
      currentDelay := min (service.currentDelay * service.config.factor) service.config.maxDelay }
  else
    let service := call service (service.onReconnectFailed.map (.failed · service.attempts (calculateTotalDelay service)))
    { service with isReconnecting := false }

def startReconnection (onReconnect : Nat) (onAttempt onFailed : Option Nat) (random : ℚ) : Reconnection :=
  scheduleReconnect { service with
    onReconnect := some onReconnect
    onReconnectAttempt := onAttempt
    onReconnectFailed := onFailed
    isReconnecting := true } random

def stopReconnection : Reconnection := clearTimer { service with isReconnecting := false }

def notifySuccess : Reconnection := { reset service with isReconnecting := false }

def triggerAttempt (random : ℚ) : Reconnection :=
  if shouldAttempt service then
    scheduleReconnect (if service.reconnectTimer.isSome then clearTimeout service else service) random
  else service

/-- A pending timer fires; its handle stays. -/
def timerFires (id : Nat) : Reconnection :=
  if service.timers.any fun timer => decide (timer.id = id) then
    call { service with timers := service.timers.filter fun timer => decide (timer.id ≠ id) }
      (service.onReconnect.map .reconnect)
  else service

end Operations

/-- What the service is asked to do, and what the runtime does. -/
inductive Event where
  | configure (config : PartialReconnectionConfig)
  | reset
  | startReconnection (onReconnect : Nat) (onAttempt onFailed : Option Nat) (random : ℚ)
  | stopReconnection
  | notifySuccess
  | triggerAttempt (random : ℚ)
  | timerFires (id : Nat)

def step (service : Reconnection) : Event → Reconnection
  | .configure config => configure service config
  | .reset => reset service
  | .startReconnection onReconnect onAttempt onFailed random =>
    startReconnection service onReconnect onAttempt onFailed random
  | .stopReconnection => stopReconnection service
  | .notifySuccess => notifySuccess service
  | .triggerAttempt random => triggerAttempt service random
  | .timerFires id => timerFires service id

end ReconnectionService

end AlianStructure.Source.Dashboard
