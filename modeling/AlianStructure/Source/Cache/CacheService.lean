import Mathlib.Data.List.Dedup
import AlianStructure.Library.ExpiringBucket
import AlianStructure.Library.InsertionOrder
import AlianStructure.Library.Interleaving
import AlianStructure.Source.Cache.GlobPattern
import AlianStructure.Source.Exception

/-!
# The cache over Redis and the memory of the process

Source: src/common/cache/cache.service.ts:27-160,205-298,332-372 and cache-key.generator.ts:34-66.
Times are epoch milliseconds. The JSON texts of values, the hash of arguments and the patterns of
the server are those of the libraries.
-/
namespace AlianStructure.Source.Cache
open Library.AsyncMethod Library.Interleaving Library.ExpiringKey Library.InsertionOrder

/-- JSON values and their texts; a text stands for itself when it cannot be parsed. -/
structure JsonCodec (Value : Type) where
  stringify : Value → String
  parse : String → Option Value
  text : String → Value
  parses : ∀ value, parse (stringify value) = some value

structure CacheConfig (Value : Type) where
  keyPrefix : String
  version : String
  defaultTtlSeconds : ℚ
  memoryMaxEntries : Nat
  /-- A Redis client is given. -/
  redis : Bool
  json : JsonCodec Value
  /-- The truncated SHA-256 of the arguments. -/
  hashArgs : List Value → String
  /-- The server's MATCH of a pattern. -/
  globMatches : String → String → Bool

namespace CacheKeyGenerator
variable {Value : Type}

def generate (config : CacheConfig Value) (namespace_ : String) (args : List Value) : String :=
  config.keyPrefix ++ config.version ++ ":" ++ namespace_ ++ ":" ++ config.hashArgs args

end CacheKeyGenerator

/-- The Redis commands; the stalled one is never answered. -/
inductive CacheOp where
  | get (key : String)
  | setex (key : String) (ttl : ℚ) (value : String)
  | del (keys : List String)
  | scan (cursor pattern : String) (count : Nat)
  | stalled

abbrev CacheOp.Reply : CacheOp → Type
  | .get _ => Option String
  | .setex _ _ _ | .stalled => Unit
  | .del _ => Nat
  | .scan _ _ _ => String × List String

abbrev MemoryCacheEntry := Expiring ℚ String

/-- The clock and the entries in memory. -/
structure CacheMemory where
  now : ℚ
  memoryCache : OrderedMap String MemoryCacheEntry

inductive CacheCall (Value : Type) where
  | get (namespace_ : String) (args : List Value)
  | set (namespace_ : String) (value : Value) (args : List Value) (ttlSeconds : Option ℚ)
  | del (namespace_ : String) (args : List Value)
  | delPattern (pattern : String)
  deriving DecidableEq

inductive CacheValue (Value : Type) where
  | nothing
  | cached (value : Option Value)
  | deleted (count : Nat)
  deriving DecidableEq

abbrev cache (Value : Type) : Runtime where
  Op := CacheOp
  Reply := CacheOp.Reply
  Mem := CacheMemory
  Err := Exception
  Call := CacheCall Value
  Val := CacheValue Value

abbrev CacheM (Value : Type) := Async (cache Value)

namespace CacheService

section Memory

/-- Delete the first key at capacity, unless the key is there. -/
def evict (maxEntries : Nat) (key : String) (entries : OrderedMap String MemoryCacheEntry) :
    OrderedMap String MemoryCacheEntry :=
  if maxEntries ≤ entries.size ∧ entries.get? key = none then
    match entries.keys with
    | firstKey :: _ => entries.delete firstKey
    | [] => entries
  else entries

def setMemory (maxEntries : Nat) (key value : String) (expiresAt : ℚ)
    (entries : OrderedMap String MemoryCacheEntry) : OrderedMap String MemoryCacheEntry :=
  (evict maxEntries key entries).set key ⟨value, expiresAt⟩

def keysToDelete (pattern : String) (entries : OrderedMap String MemoryCacheEntry) : List String :=
  entries.keys.filter (test (globToRegex pattern))

end Memory

variable {Value : Type} (config : CacheConfig Value)

def redisGet (key : String) : CacheM Value (Option String) :=
  Async.perform (R := cache Value) (.get key)

def setex (key : String) (ttl : ℚ) (value : String) : CacheM Value Unit :=
  Async.perform (R := cache Value) (.setex key ttl value)

def redisDel (keys : List String) : CacheM Value Nat :=
  Async.perform (R := cache Value) (.del keys)

def scan (cursor pattern : String) (count : Nat) : CacheM Value (String × List String) :=
  Async.perform (R := cache Value) (.scan cursor pattern count)

def stalled : CacheM Value Unit := Async.perform (R := cache Value) .stalled

def changeMemory (change : OrderedMap String MemoryCacheEntry → OrderedMap String MemoryCacheEntry) :
    CacheM Value Unit :=
  Async.update (R := cache Value) fun memory =>
    { memory with memoryCache := change memory.memoryCache }

/-- What Redis has, if it answers. -/
def getFromRedis (key : String) : CacheM Value (Option String) :=
  if config.redis then tryCatch (redisGet key) fun _ => pure none else pure none

def getFromMemory (key : String) : CacheM Value (Option String) := do
  let memory ← Async.memory
  match memory.memoryCache.get? key with
  | none => pure none
  | some entry =>
    if entry.expiresAt ≤ memory.now then
      changeMemory fun entries => entries.delete key
      pure none
    else pure (some entry.value)

def getRaw (key : String) : CacheM Value (Option String) := do
  let found ← getFromRedis config key
  match found with
  | some value => pure (some value)
  | none => getFromMemory key

/-- The parsed text, or the text itself. -/
def deserialise (raw : String) : Value :=
  match config.json.parse raw with
  | some value => value
  | none => config.json.text raw

def get (namespace_ : String) (args : List Value) : CacheM Value (Option Value) := do
  let raw ← getRaw config (CacheKeyGenerator.generate config namespace_ args)
  pure (raw.map (deserialise config))

def set (namespace_ : String) (value : Value) (args : List Value) (ttlSeconds : Option ℚ) :
    CacheM Value Unit := do
  let key := CacheKeyGenerator.generate config namespace_ args
  let ttl := ttlSeconds.getD config.defaultTtlSeconds
  let serialised := config.json.stringify value
  let memory ← Async.memory
  changeMemory (setMemory config.memoryMaxEntries key serialised (memory.now + ttl * 1000))
  if config.redis then tryCatch (setex key ttl serialised) fun _ => pure () else pure ()

def del (namespace_ : String) (args : List Value) : CacheM Value Unit := do
  let key := CacheKeyGenerator.generate config namespace_ args
  changeMemory fun entries => entries.delete key
  if config.redis then
    tryCatch (do let _ ← redisDel [key]; pure ()) fun _ => pure ()
  else pure ()

/-- The SCAN loop for as many rounds as the server takes. The deleted keys are counted; a failure
ends the loop. -/
def scanAndDelete (pattern : String) : (rounds : Nat) → (cursor : String) → (deleted : Nat) →
    CacheM Value Nat
  | 0, _, deleted => do
    stalled
    pure deleted
  | rounds + 1, cursor, deleted => do
    let scanned ← (scan cursor pattern 100).outcome
    match scanned with
    | .error _ => pure deleted
    | .ok (nextCursor, keys) =>
      let removed ← (if keys.isEmpty then pure 0 else redisDel keys : CacheM Value Nat).outcome
      match removed with
      | .error _ => pure deleted
      | .ok removed =>
        if nextCursor = "0" then pure (deleted + removed)
        else scanAndDelete pattern rounds nextCursor (deleted + removed)

def delPattern (rounds : Nat) (pattern : String) : CacheM Value Nat := do
  let memory ← Async.memory
  let keys := keysToDelete pattern memory.memoryCache
  changeMemory fun entries => keys.foldl OrderedMap.delete entries
  if config.redis then scanAndDelete pattern rounds "0" keys.length else pure keys.length

end CacheService

structure CacheWorld where
  now : ℚ
  redis : Keyspace (Expiring ℚ String)

/-- What becomes of a command: a lost reply belongs to a command that took effect. -/
inductive CommandOutcome where
  | done
  | scanned (nextCursor : String) (keys : List String)
  | fails (failure : Exception)
  | replyLost (failure : Exception)
  deriving DecidableEq

def CacheWorld.without (world : CacheWorld) (keys : List String) : CacheWorld :=
  { world with redis := fun key => if keys.contains key then none else world.redis key }

/-- A time to live that SETEX accepts. -/
def validTtl (ttl : ℚ) : Bool := decide (0 < ttl) && decide (ttl.den = 1)

def CacheWorld.store (world : CacheWorld) (key : String) (ttl : ℚ) (value : String) : CacheWorld :=
  { world with redis := world.redis.set key ⟨value, world.now + ttl * 1000⟩ }

def cacheRespond {Value : Type} (config : CacheConfig Value) (world : CacheWorld) (op : CacheOp)
    (outcome : CommandOutcome) : Option (CacheWorld × Except Exception op.Reply) :=
  match op, outcome with
  | .stalled, _ => none
  | .get key, .done => some (world, .ok (live (world.redis key) world.now))
  | .setex key ttl value, .done =>
    if validTtl ttl then some (world.store key ttl value, .ok ()) else none
  | .setex key ttl value, .replyLost failure =>
    if validTtl ttl then some (world.store key ttl value, .error failure) else none
  | .del keys, .done =>
    some (world.without keys,
      .ok (keys.dedup.filter fun key => (live (world.redis key) world.now).isSome).length)
  | .del keys, .replyLost failure => some (world.without keys, .error failure)
  | .scan _ pattern _, .scanned nextCursor keys =>
    if keys.all (fun key => config.globMatches pattern key && (world.redis key).isSome) then
      some (world, .ok (nextCursor, keys))
    else none
  | _, .fails failure => some (world, .error failure)
  | _, _ => none

/-- Time passes. -/
def cacheEnvironment (state : CacheWorld × CacheMemory) (ms : Nat) : CacheWorld × CacheMemory :=
  ({ state.1 with now := state.1.now + ms }, { state.2 with now := state.2.now + ms })

/-- The methods of the cache; a scan takes at most so many rounds. -/
def cacheBody {Value : Type} (config : CacheConfig Value) (rounds : Nat) :
    CacheCall Value → CacheM Value (CacheValue Value)
  | .get namespace_ args => do
    let value ← CacheService.get config namespace_ args
    pure (.cached value)
  | .set namespace_ value args ttlSeconds => do
    CacheService.set config namespace_ value args ttlSeconds
    pure .nothing
  | .del namespace_ args => do
    CacheService.del config namespace_ args
    pure .nothing
  | .delPattern pattern => do
    let count ← CacheService.delPattern config rounds pattern
    pure (.deleted count)

abbrev cacheProcess {Value : Type} (config : CacheConfig Value) (rounds : Nat) :
    Service (cache Value) where
  World := CacheWorld
  Choice := CommandOutcome
  Env := Nat
  respond := cacheRespond config
  environment := cacheEnvironment
  isPublic _ := true
  body := cacheBody config rounds

/-! ## Stampede prevention -/

/-- A run of the function: `landed` when the callback of `finally` has deleted its entry. -/
inductive FlightPhase (Value : Type) where
  | running
  | settled (result : Except Exception Value)
  | landed (result : Except Exception Value)

structure Flight (Value : Type) where
  key : String
  phase : FlightPhase Value

/-- The flights, the one in flight for each key, and the one whose promise each caller has been given. -/
structure Flights (Value : Type) where
  flights : List (Flight Value)
  inflight : OrderedMap String Nat
  callers : List (String × Nat)

/-- A call is atomic: up to its first await, the function does not call for its own key. -/
inductive FlightEvent (Value : Type) where
  | singleflight (key : String)
  | settle (i : Nat) (result : Except Exception Value)
  | land (i : Nat)

namespace CacheService
variable {Value : Type}

def singleflight (state : Flights Value) (key : String) : Flights Value :=
  match state.inflight.get? key with
  | some i => { state with callers := state.callers ++ [(key, i)] }
  | none =>
    { flights := state.flights ++ [⟨key, .running⟩]
      inflight := state.inflight.set key state.flights.length
      callers := state.callers ++ [(key, state.flights.length)] }

/-- `none` for an event that cannot happen. -/
def flightStep (state : Flights Value) : FlightEvent Value → Option (Flights Value)
  | .singleflight key => some (singleflight state key)
  | .settle i result =>
    match state.flights[i]? with
    | some ⟨key, .running⟩ => some { state with flights := state.flights.set i ⟨key, .settled result⟩ }
    | _ => none
  | .land i =>
    match state.flights[i]? with
    | some ⟨key, .settled result⟩ =>
      some { state with
        flights := state.flights.set i ⟨key, .landed result⟩
        inflight := state.inflight.delete key }
    | _ => none

end CacheService

end AlianStructure.Source.Cache
