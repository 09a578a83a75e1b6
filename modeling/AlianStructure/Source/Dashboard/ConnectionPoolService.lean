import AlianStructure.Library.InsertionOrder

/-!
# The connections of the dashboard

Source: src/dashboard/websocket/services/connection-manager.service.ts:10-142,210-225. Times are
epoch milliseconds; a `Date.now()` is an argument. The fields of a connection that none of these
methods reads (its own client id, its time of connection, its metadata) are left out.
-/
namespace AlianStructure.Source.Dashboard
open Library.InsertionOrder

structure ConnectionInfo where
  userId : String
  lastHeartbeat : Int
  isAlive : Bool
  subscriptions : List String
  deriving DecidableEq

/-- The maps of the service, by client id, user id and client id. -/
structure ConnectionManager where
  connections : OrderedMap String ConnectionInfo
  userConnections : OrderedMap String (OrderedSet String)
  disconnectedClients : OrderedMap String Int

namespace ConnectionManagerService

def initial : ConnectionManager := ⟨.empty, .empty, .empty⟩

/-- The ids listed for a user, none when the user has no set. -/
def clientsOf (userConnections : OrderedMap String (OrderedSet String)) (userId : String) :
    OrderedSet String :=
  (userConnections.get? userId).getD .empty

def registerConnection (manager : ConnectionManager) (clientId : String) (info : ConnectionInfo) :
    ConnectionManager :=
  { manager with
    connections := manager.connections.set clientId
      { info with isAlive := true, subscriptions := [] }
    userConnections := manager.userConnections.set info.userId
      ((clientsOf manager.userConnections info.userId).add clientId) }

def updateHeartbeat (manager : ConnectionManager) (clientId : String) (now : Int) :
    ConnectionManager :=
  match manager.connections.get? clientId with
  | none => manager
  | some connection =>
    { manager with
      connections := manager.connections.set clientId
        { connection with lastHeartbeat := now, isAlive := true } }

/-- The set of the user stays, even when it becomes empty. -/
def markDisconnected (manager : ConnectionManager) (clientId : String) (now : Int) :
    ConnectionManager :=
  match manager.connections.get? clientId with
  | none => manager
  | some connection =>
    { connections := manager.connections.set clientId { connection with isAlive := false }
      disconnectedClients := manager.disconnectedClients.set clientId now
      userConnections :=
        match manager.userConnections.get? connection.userId with
        | none => manager.userConnections
        | some clients => manager.userConnections.set connection.userId (clients.delete clientId) }

def removeConnection (manager : ConnectionManager) (clientId : String) : ConnectionManager :=
  match manager.connections.get? clientId with
  | none => manager
  | some connection =>
    { connections := manager.connections.delete clientId
      disconnectedClients := manager.disconnectedClients.delete clientId
      userConnections :=
        match manager.userConnections.get? connection.userId with
        | none => manager.userConnections
        | some clients =>
          -- clean up empty sets
          if (clients.delete clientId).size = 0 then
            manager.userConnections.delete connection.userId
          else manager.userConnections.set connection.userId (clients.delete clientId) }

def subscribeToPortfolio (manager : ConnectionManager) (clientId portfolioId : String) :
    ConnectionManager :=
  match manager.connections.get? clientId with
  | none => manager
  | some connection =>
    if connection.subscriptions.contains portfolioId then manager
    else
      { manager with
        connections := manager.connections.set clientId
          { connection with subscriptions := connection.subscriptions ++ [portfolioId] } }

def unsubscribeFromPortfolio (manager : ConnectionManager) (clientId portfolioId : String) :
    ConnectionManager :=
  match manager.connections.get? clientId with
  | none => manager
  | some connection =>
    { manager with
      connections := manager.connections.set clientId
        { connection with
          subscriptions := connection.subscriptions.filter fun id => decide (id ≠ portfolioId) } }

/-- The ids that a cleanup removes: those disconnected for longer than the age. -/
def inactive (manager : ConnectionManager) (maxAgeMs now : Int) : List String :=
  (manager.disconnectedClients.entries.filter fun entry =>
    decide (entry.2 + maxAgeMs < now)).map Prod.fst

def cleanupInactiveConnections (manager : ConnectionManager) (maxAgeMs now : Int) :
    ConnectionManager × List String :=
  ((inactive manager maxAgeMs now).foldl removeConnection manager, inactive manager maxAgeMs now)

end ConnectionManagerService

/-- The calls that change the connections; a moment is the clock at the call. -/
inductive ConnectionCall where
  | registerConnection (clientId : String) (info : ConnectionInfo)
  | updateHeartbeat (clientId : String) (now : Int)
  | markDisconnected (clientId : String) (now : Int)
  | removeConnection (clientId : String)
  | cleanupInactiveConnections (maxAgeMs now : Int)
  | subscribeToPortfolio (clientId portfolioId : String)
  | unsubscribeFromPortfolio (clientId portfolioId : String)
  deriving DecidableEq

open ConnectionManagerService in
def ConnectionManager.after (manager : ConnectionManager) : ConnectionCall → ConnectionManager
  | .registerConnection clientId info => registerConnection manager clientId info
  | .updateHeartbeat clientId now => updateHeartbeat manager clientId now
  | .markDisconnected clientId now => markDisconnected manager clientId now
  | .removeConnection clientId => removeConnection manager clientId
  | .cleanupInactiveConnections maxAgeMs now => (cleanupInactiveConnections manager maxAgeMs now).1
  | .subscribeToPortfolio clientId portfolioId =>
    subscribeToPortfolio manager clientId portfolioId
  | .unsubscribeFromPortfolio clientId portfolioId =>
    unsubscribeFromPortfolio manager clientId portfolioId

/-!
## Pools of upstream connections

Source: src/dashboard/websocket/services/connection-pool.service.ts:6-257,304-408. A step is what runs
without a break: a call up to its await, the rest of a call, the handler of a socket event, a timer. An
array is known by its number, since a handler keeps the array that was the pool when its connection was
created. A connection is known by the number of its uuid, no two of which are the same. Times are epoch
milliseconds. The metadata of a connection is left out.
-/

abbrev Uuid := Nat

structure PoolConfig where
  maxConnections : Nat
  connectionTimeout : Nat
  heartbeatInterval : Nat
  staleThreshold : Nat
  reconnectDelay : Nat
  maxReconnectDelay : Nat
  maxReconnectAttempts : Nat
  deriving DecidableEq

structure PartialPoolConfig where
  maxConnections : Option Nat
  connectionTimeout : Option Nat
  heartbeatInterval : Option Nat
  staleThreshold : Option Nat
  reconnectDelay : Option Nat
  maxReconnectDelay : Option Nat
  maxReconnectAttempts : Option Nat
  deriving DecidableEq

def defaultConfig : PoolConfig where
  maxConnections := 100
  connectionTimeout := 10000
  heartbeatInterval := 30000
  staleThreshold := 5 * 60 * 1000
  reconnectDelay := 1000
  maxReconnectDelay := 30000
  maxReconnectAttempts := 10

def PartialPoolConfig.overDefault (config : PartialPoolConfig) : PoolConfig where
  maxConnections := config.maxConnections.getD defaultConfig.maxConnections
  connectionTimeout := config.connectionTimeout.getD defaultConfig.connectionTimeout
  heartbeatInterval := config.heartbeatInterval.getD defaultConfig.heartbeatInterval
  staleThreshold := config.staleThreshold.getD defaultConfig.staleThreshold
  reconnectDelay := config.reconnectDelay.getD defaultConfig.reconnectDelay
  maxReconnectDelay := config.maxReconnectDelay.getD defaultConfig.maxReconnectDelay
  maxReconnectAttempts := config.maxReconnectAttempts.getD defaultConfig.maxReconnectAttempts

/-- A connection with the state of its socket, which may connect while it is active, and the array that
its handler keeps, if there was one. -/
structure UpstreamConnection where
  serviceName : String
  url : String
  socketConnected : Bool
  socketActive : Bool
  connectedAt : Nat
  lastHeartbeat : Nat
  isConnected : Bool
  pool : Option Nat
  deriving DecidableEq

/-- An `acquire` that waits for the disconnection of a stale connection, with the array it has found. -/
structure SuspendedAcquire where
  poolName : String
  serviceUrl : String
  pool : Nat
  deriving DecidableEq

structure ConnectionPools where
  now : Nat
  uuidsDrawn : Nat
  arraysMade : Nat
  arrays : OrderedMap Nat (List Uuid)
  pools : OrderedMap String Nat
  poolConfigs : OrderedMap String PoolConfig
  created : OrderedMap Uuid UpstreamConnection
  connections : OrderedSet Uuid
  suspended : List SuspendedAcquire

namespace ConnectionPoolService

variable (state : ConnectionPools)

def arrayAt (number : Nat) : List Uuid := (state.arrays.get? number).getD []

def configOf (poolName : String) : PoolConfig := (state.poolConfigs.get? poolName).getD defaultConfig

def changeConnection (id : Uuid) (change : UpstreamConnection → UpstreamConnection) : ConnectionPools :=
  match state.created.get? id with
  | none => state
  | some connection => { state with created := state.created.set id (change connection) }

def initializePool (poolName : String) (config : PartialPoolConfig) : ConnectionPools :=
  { state with
    poolConfigs := state.poolConfigs.set poolName config.overDefault
    arraysMade := state.arraysMade + 1
    arrays := state.arrays.set state.arraysMade []
    pools := state.pools.set poolName state.arraysMade }

/-! ## Removal -/

def closeSocket (connection : UpstreamConnection) : UpstreamConnection :=
  { connection with socketConnected := false, socketActive := false, isConnected := false }

def removeFromPool (id : Uuid) (serviceName : String) : ConnectionPools :=
  match state.pools.get? serviceName with
  | none => state
  | some number =>
    { state with arrays := state.arrays.set number ((arrayAt state number).erase id) }

def disconnect (id : Uuid) : ConnectionPools :=
  match state.created.get? id with
  | none => state
  | some connection =>
    if id ∈ state.connections then
      let removed := removeFromPool state id connection.serviceName
      let closed := if connection.socketConnected then changeConnection removed id closeSocket else removed
      { closed with connections := closed.connections.delete id }
    else state

def isStale (config : PoolConfig) (id : Uuid) : Bool :=
  match state.created.get? id with
  | none => false
  | some connection => decide (config.staleThreshold < state.now - connection.lastHeartbeat)

def cleanOne (config : PoolConfig) (cleaned : ConnectionPools × Nat) (id : Uuid) : ConnectionPools × Nat :=
  if isStale cleaned.1 config id then (disconnect cleaned.1 id, cleaned.2 + 1) else cleaned

def cleanPool (cleaned : ConnectionPools × Nat) (entry : String × Nat) : ConnectionPools × Nat :=
  (arrayAt cleaned.1 entry.2).foldl (cleanOne (configOf cleaned.1 entry.1)) cleaned

/-- The pools without their stale connections, and how many there were. -/
def cleanupStaleConnections : ConnectionPools × Nat := state.pools.entries.foldl cleanPool (state, 0)

/-! ## Acquisition -/

def findStaleConnection (poolName : String) : Option Uuid :=
  match state.pools.get? poolName with
  | none => none
  | some number => (arrayAt state number).find? (isStale state (configOf state poolName))

/-- The connection is given back before its socket has connected. -/
def createConnection (poolName url : String) : ConnectionPools × Uuid :=
  let connection : UpstreamConnection := {
    serviceName := poolName
    url
    socketConnected := false
    socketActive := true
    connectedAt := state.now
    lastHeartbeat := state.now
    isConnected := false
    pool := state.pools.get? poolName }
  ({ state with
      uuidsDrawn := state.uuidsDrawn + 1
      created := state.created.set state.uuidsDrawn connection },
    state.uuidsDrawn)

def hasUrl (url : String) (id : Uuid) : Bool :=
  match state.created.get? id with
  | none => false
  | some connection => decide (connection.url = url) && connection.isConnected

/-- The end of an acquisition, with the array that was the pool at its beginning. -/
def findOrCreate (number : Nat) (poolName serviceUrl : String) : ConnectionPools × Option Uuid :=
  match (arrayAt state number).find? (hasUrl state serviceUrl) with
  | some existing => (state, some existing)
  | none =>
    let created := createConnection state poolName serviceUrl
    (created.1, some created.2)

inductive Acquired where
  | returns (connection : Option Uuid)
  | waits
  deriving DecidableEq

def acquire (poolName serviceUrl : String) : ConnectionPools × Acquired :=
  match state.pools.get? poolName with
  | none => (state, .returns none)
  | some number =>
    if (configOf state poolName).maxConnections ≤ (arrayAt state number).length then
      match findStaleConnection state poolName with
      | none => (state, .returns none)
      | some stale =>
        let freed := disconnect state stale
        ({ freed with suspended := freed.suspended ++ [⟨poolName, serviceUrl, number⟩] }, .waits)
    else
      let found := findOrCreate state number poolName serviceUrl
      (found.1, .returns found.2)

/-- An acquisition goes on after its disconnection. -/
def resume (i : Nat) : ConnectionPools × Acquired :=
  match state.suspended[i]? with
  | none => (state, .waits)
  | some waiting =>
    let awake := { state with suspended := state.suspended.eraseIdx i }
    let found := findOrCreate awake waiting.pool waiting.poolName waiting.serviceUrl
    (found.1, .returns found.2)

def release (id : Uuid) : ConnectionPools :=
  if id ∈ state.connections then
    changeConnection state id fun connection => { connection with lastHeartbeat := state.now }
  else state

/-! ## Socket events and timers -/

/-- The handler of `connect`; it throws where there was no array. -/
def joinPool (id : Uuid) (connection : UpstreamConnection) : ConnectionPools :=
  match connection.pool with
  | none => state
  | some number =>
    { state with
      arrays := state.arrays.set number (arrayAt state number ++ [id])
      connections := state.connections.add id }

def connect (id : Uuid) : ConnectionPools :=
  match state.created.get? id with
  | none => state
  | some connection =>
    if connection.socketActive && ! connection.socketConnected then
      let joined := { connection with
        socketConnected := true, isConnected := true, lastHeartbeat := state.now }
      joinPool { state with created := state.created.set id joined } id connection
    else state

/-- The socket is disconnected by the other side, and may connect again. -/
def dropped (again : Bool) (connection : UpstreamConnection) : UpstreamConnection :=
  if connection.socketConnected then
    { connection with socketConnected := false, isConnected := false, socketActive := again }
  else connection

/-- An answer to a ping, or a ping that is sent. -/
def heartbeat (now : Nat) (connection : UpstreamConnection) : UpstreamConnection :=
  if connection.isConnected then { connection with lastHeartbeat := now } else connection

def timedOut (connection : UpstreamConnection) : UpstreamConnection :=
  if ! connection.isConnected && ! connection.socketConnected then
    { connection with socketActive := false }
  else connection

end ConnectionPoolService

inductive PoolEvent where
  | initializePool (poolName : String) (config : PartialPoolConfig)
  | acquire (poolName serviceUrl : String)
  | resume (i : Nat)
  | release (id : Uuid)
  | disconnect (id : Uuid)
  | cleanupStaleConnections
  | connect (id : Uuid)
  | drop (id : Uuid) (again : Bool)
  | heartbeat (id : Uuid)
  | timeout (id : Uuid)
  | tick (ms : Nat)
  deriving DecidableEq

open ConnectionPoolService in
def ConnectionPools.step (state : ConnectionPools) : PoolEvent → ConnectionPools
  | .initializePool poolName config => initializePool state poolName config
  | .acquire poolName serviceUrl => (acquire state poolName serviceUrl).1
  | .resume i => (resume state i).1
  | .release id => release state id
  | .disconnect id => disconnect state id
  | .cleanupStaleConnections => (cleanupStaleConnections state).1
  | .connect id => connect state id
  | .drop id again => changeConnection state id (dropped again)
  | .heartbeat id => changeConnection state id (heartbeat state.now)
  | .timeout id => changeConnection state id timedOut
  | .tick ms => { state with now := state.now + ms }

def ConnectionPools.initial (now : Nat) : ConnectionPools where
  now := now
  uuidsDrawn := 0
  arraysMade := 0
  arrays := .empty
  pools := .empty
  poolConfigs := .empty
  created := .empty
  connections := .empty
  suspended := []

end AlianStructure.Source.Dashboard
