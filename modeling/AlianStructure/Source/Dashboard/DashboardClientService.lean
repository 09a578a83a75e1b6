import Mathlib.Algebra.Order.Ring.Rat

/-!
# The dashboard client

Source: src/dashboard/websocket/services/dashboard-client.service.ts:13-305,328-350,365-380,441-478. A step is a
method, the handler of a socket event, or a timer that fires. Every socket that was created keeps its handlers,
which work on the socket of the client. A socket is known by its number; it connects while an attempt of it is
in flight, and sends what it was given. Times are epoch milliseconds, delays are exact, and a timer that is
pending may fire at any time. That `connect` was called after the last `disconnect` is a history that no
method reads. The handlers of the application are left out.
-/
namespace AlianStructure.Source.Dashboard

structure ClientConfig where
  url : String
  token : String
  userId : String
  autoReconnect : Bool
  maxReconnectDelay : ℚ
  baseReconnectDelay : ℚ
  heartbeatInterval : ℚ
  deriving DecidableEq

structure PartialClientConfig where
  url : String
  token : String
  userId : String
  autoReconnect : Option Bool
  maxReconnectDelay : Option ℚ
  baseReconnectDelay : Option ℚ
  heartbeatInterval : Option ℚ
  deriving DecidableEq

def PartialClientConfig.overDefault (config : PartialClientConfig) : ClientConfig where
  url := config.url
  token := config.token
  userId := config.userId
  autoReconnect := config.autoReconnect.getD true
  maxReconnectDelay := config.maxReconnectDelay.getD 30000
  baseReconnectDelay := config.baseReconnectDelay.getD 1000
  heartbeatInterval := config.heartbeatInterval.getD 30000

inductive ConnectionStatus where
  | disconnected | connecting | connected | reconnecting
  deriving DecidableEq

structure ConnectionState where
  status : ConnectionStatus
  attempts : Nat
  lastConnected : Option Nat
  lastDisconnected : Option Nat
  deriving DecidableEq

structure BufferedEvent where
  event : String
  portfolioId : String
  timestamp : Nat
  deriving DecidableEq

inductive ClientMessage where
  | ping (clientTime : Nat)
  | replayEvents (since : Nat)
  | subscribePortfolio (portfolioId : String)
  deriving DecidableEq

structure ClientSocket where
  url : String
  token : String
  userId : String
  connected : Bool
  connecting : Bool
  sent : List ClientMessage
  deriving DecidableEq

inductive DisconnectReason where
  | ioServerDisconnect | ioClientDisconnect | pingTimeout | transportClose | transportError
  deriving DecidableEq

structure PendingTimer where
  id : Nat
  delay : ℚ
  deriving DecidableEq

structure DashboardClient where
  now : Nat
  config : ClientConfig
  sockets : List ClientSocket
  socket : Option Nat
  reconnectAttempts : Nat
  currentReconnectDelay : ℚ
  reconnectTimer : Option Nat
  isReconnecting : Bool
  eventBuffer : List BufferedEvent
  connectionState : ConnectionState
  timersSet : Nat
  timers : List PendingTimer
  intervals : List ℚ
  wanted : Bool
  deriving DecidableEq

namespace DashboardClientService

/-- A number, or the fallback where it is zero. -/
def orDefault (value fallback : ℚ) : ℚ := if value = 0 then fallback else value

def maxBufferSize : Nat := 1000

variable (client : DashboardClient)

def currentSocket : Option ClientSocket := client.socket.bind (client.sockets[·]?)

def isConnected : Bool := (currentSocket client).any (·.connected)

def changeSocket (i : Nat) (change : ClientSocket → ClientSocket) : DashboardClient :=
  { client with sockets := client.sockets.modify i change }

def setStatus (status : ConnectionStatus) : DashboardClient :=
  { client with connectionState := { client.connectionState with status } }

def maxDelay : ℚ := orDefault client.config.maxReconnectDelay 30000

/-! ## Messages -/

def emit (message : ClientMessage) : DashboardClient :=
  match client.socket with
  | none => client
  | some i => changeSocket client i fun socket => { socket with sent := socket.sent ++ [message] }

def sendHeartbeat : DashboardClient :=
  if isConnected client then emit client (.ping client.now) else client

def requestEventReplay : DashboardClient :=
  if isConnected client && ! client.eventBuffer.isEmpty then
    let asked := match client.connectionState.lastDisconnected with
      | some since => emit client (.replayEvents since)
      | none => client
    { asked with eventBuffer := [] }
  else client

def bufferEvent (event portfolioId : String) : DashboardClient :=
  let buffer := client.eventBuffer ++ [⟨event, portfolioId, client.now⟩]
  { client with eventBuffer := if maxBufferSize < buffer.length then buffer.drop 1 else buffer }

def subscribePortfolio (portfolioId : String) : DashboardClient :=
  if isConnected client then emit client (.subscribePortfolio portfolioId)
  else bufferEvent client "portfolio:subscribe" portfolioId

/-! ## Reconnection -/

/-- `random` is what `Math.random` gives. -/
def scheduleReconnect (random : ℚ) : DashboardClient :=
  if client.config.autoReconnect then
    let jitter := random * (3 / 10) * client.currentReconnectDelay
    let delay := min (client.currentReconnectDelay + jitter) (maxDelay client)
    { client with
      reconnectAttempts := client.reconnectAttempts + 1
      connectionState := { client.connectionState with attempts := client.reconnectAttempts + 1 }
      reconnectTimer := some client.timersSet
      timersSet := client.timersSet + 1
      timers := client.timers ++ [⟨client.timersSet, delay⟩]
      currentReconnectDelay := min (client.currentReconnectDelay * 2) (maxDelay client) }
  else client

def startReconnection (random : ℚ) : DashboardClient :=
  if client.isReconnecting then client
  else scheduleReconnect (setStatus { client with isReconnecting := true } .reconnecting) random

def handleConnectionFailure (random : ℚ) : DashboardClient :=
  if client.config.autoReconnect then startReconnection client random else client

/-- `opens` says that the socket does not throw when it is asked to connect. -/
def attemptReconnect (opens : Bool) (random : ℚ) : DashboardClient :=
  match client.socket with
  | none => client
  | some i =>
    if client.config.token = "" then client
    else
      let authorized := changeSocket client i fun socket => { socket with token := client.config.token }
      if opens then changeSocket authorized i fun socket => { socket with connecting := ! socket.connected }
      else scheduleReconnect authorized random

def startHeartbeat : DashboardClient :=
  { client with intervals := client.intervals ++ [orDefault client.config.heartbeatInterval 30000] }

/-! ## Connection -/

def newSocket : ClientSocket where
  url := client.config.url ++ "/dashboard"
  token := client.config.token
  userId := client.config.userId
  connected := false
  connecting := true
  sent := []

/-- `creates` says that the socket can be created. -/
def connect (creates : Bool) (random : ℚ) : DashboardClient :=
  let asked := { client with wanted := true }
  if isConnected asked then asked
  else if creates then
    startHeartbeat { setStatus asked .connecting with
      sockets := client.sockets ++ [newSocket client], socket := some client.sockets.length }
  else handleConnectionFailure (setStatus asked .disconnected) random

/-- The handler of `connect`. -/
def handleConnect : DashboardClient :=
  requestEventReplay { client with
    connectionState := { client.connectionState with
      status := .connected, lastConnected := some client.now }
    reconnectAttempts := 0
    currentReconnectDelay := orDefault client.config.baseReconnectDelay 1000
    isReconnecting := false }

/-- The handler of `disconnect`. -/
def handleDisconnect (reason : DisconnectReason) (random : ℚ) : DashboardClient :=
  let noted := { client with
    connectionState := { client.connectionState with
      status := .disconnected, lastDisconnected := some client.now } }
  if reason ≠ .ioClientDisconnect ∧ client.config.autoReconnect then startReconnection noted random
  else noted

/-- The handler of `connect_error`. -/
def handleConnectError (random : ℚ) : DashboardClient :=
  let noted := setStatus client .disconnected
  if client.config.autoReconnect then handleConnectionFailure noted random else noted

def closeSocket (socket : ClientSocket) : ClientSocket :=
  { socket with connected := false, connecting := false }

/-- The socket is closed; it tells the handler of `disconnect` when it was connected. -/
def disconnectSocket : DashboardClient :=
  match client.socket with
  | none => client
  | some i =>
    let closed := changeSocket client i closeSocket
    let told := if isConnected client then handleDisconnect closed .ioClientDisconnect 0 else closed
    { told with socket := none }

def clearReconnectTimer : DashboardClient :=
  match client.reconnectTimer with
  | none => client
  | some id =>
    { client with timers := client.timers.filter (·.id ≠ id), reconnectTimer := none }

def disconnect : DashboardClient :=
  let off := { client with config := { client.config with autoReconnect := false } }
  let closed := disconnectSocket (clearReconnectTimer off)
  { setStatus closed .disconnected with eventBuffer := [], isReconnecting := false, wanted := false }

def reconnect (creates : Bool) (random : ℚ) : DashboardClient :=
  let closed := disconnect client
  connect { closed with config := { closed.config with autoReconnect := true } } creates random

def updateToken (token : String) : DashboardClient :=
  let updated := { client with config := { client.config with token } }
  match client.socket with
  | none => updated
  | some i => changeSocket updated i fun socket => { socket with token }

/-! ## Socket events and timers -/

/-- An attempt of a socket succeeds. -/
def socketConnects (i : Nat) : DashboardClient :=
  if (client.sockets[i]?).any (·.connecting) then
    handleConnect (changeSocket client i fun socket => { socket with connected := true, connecting := false })
  else client

/-- A connection is lost, for a reason other than its being closed by the client. -/
def socketDisconnects (i : Nat) (reason : DisconnectReason) (random : ℚ) : DashboardClient :=
  if (client.sockets[i]?).any (·.connected) ∧ reason ≠ .ioClientDisconnect then
    handleDisconnect (changeSocket client i closeSocket) reason random
  else client

/-- An attempt of a socket fails. -/
def socketFails (i : Nat) (random : ℚ) : DashboardClient :=
  if (client.sockets[i]?).any (·.connecting) then
    handleConnectError (changeSocket client i closeSocket) random
  else client

/-- A pending timer fires. -/
def timerFires (id : Nat) (opens : Bool) (random : ℚ) : DashboardClient :=
  if client.timers.any (·.id = id) then
    attemptReconnect { client with timers := client.timers.filter (·.id ≠ id) } opens random
  else client

end DashboardClientService

inductive ClientEvent where
  | connect (creates : Bool) (random : ℚ)
  | disconnect
  | reconnect (creates : Bool) (random : ℚ)
  | updateToken (token : String)
  | subscribePortfolio (portfolioId : String)
  | socketConnects (i : Nat)
  | socketDisconnects (i : Nat) (reason : DisconnectReason) (random : ℚ)
  | socketFails (i : Nat) (random : ℚ)
  | timerFires (id : Nat) (opens : Bool) (random : ℚ)
  | heartbeat
  | tick (ms : Nat)
  deriving DecidableEq

open DashboardClientService in
/-- The heartbeat of the client and that of the server are answered alike. -/
def DashboardClient.step (client : DashboardClient) : ClientEvent → DashboardClient
  | .connect creates random => connect client creates random
  | .disconnect => disconnect client
  | .reconnect creates random => reconnect client creates random
  | .updateToken token => updateToken client token
  | .subscribePortfolio portfolioId => subscribePortfolio client portfolioId
  | .socketConnects i => socketConnects client i
  | .socketDisconnects i reason random => socketDisconnects client i reason random
  | .socketFails i random => socketFails client i random
  | .timerFires id opens random => timerFires client id opens random
  | .heartbeat => sendHeartbeat client
  | .tick ms => { client with now := client.now + ms }

open DashboardClientService in
def DashboardClient.initial (now : Nat) (config : PartialClientConfig) : DashboardClient where
  now := now
  config := config.overDefault
  sockets := []
  socket := none
  reconnectAttempts := 0
  currentReconnectDelay := orDefault config.overDefault.baseReconnectDelay 1000
  reconnectTimer := none
  isReconnecting := false
  eventBuffer := []
  connectionState := ⟨.disconnected, 0, none, none⟩
  timersSet := 0
  timers := []
  intervals := []
  wanted := false

end AlianStructure.Source.Dashboard
