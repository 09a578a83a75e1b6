import AlianStructure.Library.RelyGuarantee
import AlianStructure.Library.Trajectory
import AlianStructure.Source.Cache.CacheService

/-!
# What the cache returns

Source: src/common/cache/cache.service.ts:55-160,205-298,332-372. Calls overlap, and every command may fail or lose its
reply. Both stores hold under a key only what a `set` has put there, and the memory stays within its bound. Of the
functions that `singleflight` runs, one at a time is in flight for a key.
-/
namespace AlianStructure.Guarantees.CacheProvenance
open Library.AsyncMethod Library.Interleaving Library.CallsInTurn Library.RelyGuarantee Library.Trajectory
open Library.ExpiringKey Library.InsertionOrder Library.KeyedTable
open Source Source.Cache CacheService

/-- The entries of the memory were given for their keys, and are not too many. -/
structure Filled (maxEntries : Nat) (given : String → String → Prop)
    (entries : OrderedMap String MemoryCacheEntry) : Prop where
  given : ∀ key entry, entries.get? key = some entry → given key entry.value
  bounded : entries.size ≤ max 1 maxEntries

section Memory
variable {maxEntries : Nat} {given : String → String → Prop} {entries : OrderedMap String MemoryCacheEntry}
  {key text : String}

theorem Filled.delete (filled : Filled maxEntries given entries) (key : String) :
    Filled maxEntries given (entries.delete key) where
  given other entry found := by
    rw [OrderedMap.get?_delete] at found
    split at found
    next => cases found
    next => exact filled.given other entry found
  bounded := (List.length_filter_le _ _).trans filled.bounded

theorem get?_evict {other : String} {entry : MemoryCacheEntry}
    (found : (evict maxEntries key entries).get? other = some entry) : entries.get? other = some entry := by
  unfold evict at found
  split at found
  next =>
    split at found
    next =>
      rw [OrderedMap.get?_delete] at found
      split at found
      next => cases found
      next => exact found
    next => exact found
  next => exact found

/-- What is evicted makes room. -/
theorem evict_size (bounded : entries.size ≤ max 1 maxEntries) (absent : entries.get? key = none) :
    (evict maxEntries key entries).size + 1 ≤ max 1 maxEntries := by
  unfold evict
  split
  next =>
    split
    next firstKey others keys =>
      have shorter : (entries.delete firstKey).size < entries.size := by
        refine List.length_filter_lt_length_iff_exists.mpr ?_
        obtain ⟨entry, member, named⟩ := List.mem_map.mp (show firstKey ∈ entries.keys by simp [keys])
        exact ⟨entry, member, by simp [named]⟩
      omega
    next keys =>
      have none : entries.size = 0 := List.length_eq_zero_iff.mpr (List.map_eq_nil_iff.mp keys)
      omega
  next room =>
    have free : entries.size < maxEntries := not_le.mp fun full => room ⟨full, absent⟩
    omega

theorem Filled.set (filled : Filled maxEntries given entries) (isGiven : given key text) (expiresAt : ℚ) :
    Filled maxEntries given (setMemory maxEntries key text expiresAt entries) where
  given other entry found := by
    rw [setMemory, OrderedMap.get?_set] at found
    split at found
    next same =>
      cases found
      exact same ▸ isGiven
    next => exact filled.given other entry (get?_evict found)
  bounded := by
    unfold setMemory OrderedMap.set OrderedMap.size OrderedMap.entries
    cases found : entries.get? key with
    | none =>
      have absent : (evict maxEntries key entries).get? key = none := by
        by_contra present
        obtain ⟨entry, isEntry⟩ := Option.ne_none_iff_exists'.mp present
        cases found.symm.trans (get?_evict isEntry)
      rw [Table.save_new, List.length_append]
      · exact evict_size filled.bounded found
      · exact Option.map_eq_none_iff.mp absent
    | some entry =>
      have kept : evict maxEntries key entries = entries := if_neg fun full => by simp [found] at full
      have present : key ∈ entries.rows.map Prod.fst :=
        List.mem_map.mpr ⟨_, OrderedMap.mem_entries.mpr found, rfl⟩
      rw [kept, ← List.length_map Prod.fst, Table.save_keys present, List.length_map]
      exact filled.bounded

end Memory

variable {Value : Type} (config : CacheConfig Value) (rounds : Nat) (given : String → String → Prop)

/-- What every step keeps: the server, too, has only texts that were given for their keys. -/
structure Sound (state : State (cacheProcess config rounds)) : Prop where
  memory : Filled config.memoryMaxEntries given state.2.memoryCache
  redis : ∀ key entry, state.1.redis key = some entry → given key entry.value

def cacheRely : Rely (cacheProcess config rounds) where
  holds := Sound config rounds given
  moves _ _ := True
  allowed _ _ := True
  starts _ := False
  refl _ := trivial
  trans _ _ := trivial
  environment _ _ sound _ := ⟨⟨sound.memory, sound.redis⟩, trivial⟩

section Methods
variable {config rounds given} {state : State (cacheProcess config rounds)} {α : Type}

/-- What the server has after a command, it had before or was sent. -/
theorem respond_redis {world after : CacheWorld} {op : CacheOp} {outcome : CommandOutcome}
    {result : Except Exception op.Reply} (responds : cacheRespond config world op outcome = some (after, result))
    {key : String} {entry : MemoryCacheEntry} (stored : after.redis key = some entry) :
    world.redis key = some entry ∨ ∃ ttl, op = .setex key ttl entry.value := by
  have kept {keys : List String} (stored : (world.without keys).redis key = some entry) :
      world.redis key = some entry := by
    simp only [CacheWorld.without] at stored
    split at stored
    next => cases stored
    next => exact stored
  have sent {other value : String} {ttl : ℚ} (stored : (world.store other ttl value).redis key = some entry) :
      world.redis key = some entry ∨ ∃ t, CacheOp.setex other ttl value = .setex key t entry.value := by
    simp only [CacheWorld.store, Keyspace.set] at stored
    split at stored
    next same =>
      cases stored
      exact Or.inr ⟨ttl, by rw [same]⟩
    next => exact Or.inl stored
  unfold cacheRespond at responds
  split at responds
  case h_1 => cases responds
  case h_3 | h_4 =>
    split at responds
    next =>
      cases responds
      exact sent stored
    next => cases responds
  case h_5 | h_6 =>
    cases responds
    exact Or.inl (kept stored)
  case h_7 =>
    split at responds
    next =>
      cases responds
      exact Or.inl stored
    next => cases responds
  case h_9 => cases responds
  all_goals
    cases responds
    exact Or.inl stored

theorem gives_command {op : CacheOp} (sets : ∀ key ttl text, op = .setex key ttl text → given key text) :
    Gives (cacheRely config rounds given) state (Async.perform (R := cache Value) op) fun _ _ => True := by
  refine gives_perform (R := cache Value) fun later since outcome world result responds => ?_
  refine ⟨⟨⟨since.1.memory, fun key entry stored => ?_⟩, trivial⟩, fun _ _ _ _ => trivial⟩
  rcases respond_redis responds stored with before | ⟨ttl, isSet⟩
  · exact since.1.redis key entry before
  · exact sets key ttl entry.value isSet

theorem gives_redisGet (key : String) :
    Gives (cacheRely config rounds given) state (redisGet key) fun _ raw => ∀ text ∈ raw, given key text := by
  refine gives_perform (R := cache Value) fun later since outcome world result responds => ?_
  cases outcome with
  | done =>
    cases responds
    refine ⟨⟨⟨since.1.memory, since.1.redis⟩, trivial⟩, fun raw isOk _ _ text found => ?_⟩
    cases isOk
    unfold live at found
    split at found
    next => cases found
    next entry stored =>
      split at found
      next =>
        cases found
        exact since.1.redis key entry stored
      next => cases found
  | fails failure =>
    cases responds
    exact ⟨⟨⟨since.1.memory, since.1.redis⟩, trivial⟩, fun _ isOk => by cases isOk⟩
  | scanned => cases responds
  | replyLost => cases responds

theorem gives_changeMemory {change : OrderedMap String MemoryCacheEntry → OrderedMap String MemoryCacheEntry}
    (keeps : ∀ entries, Filled config.memoryMaxEntries given entries →
      Filled config.memoryMaxEntries given (change entries)) :
    Gives (cacheRely config rounds given) state (changeMemory change) fun _ _ => True :=
  gives_update (R := cache Value) (fun sound => ⟨⟨keeps _ sound.memory, sound.redis⟩, trivial⟩) trivial

theorem gives_reading : Gives (cacheRely config rounds given) state (Async.memory (R := cache Value))
    fun _ memory => memory = state.2 :=
  gives_memory rfl

theorem gives_getFromRedis (key : String) :
    Gives (cacheRely config rounds given) state (getFromRedis config key) fun _ raw =>
      ∀ text ∈ raw, given key text := by
  unfold getFromRedis
  split
  next => exact gives_tryCatch (gives_redisGet key) fun _ _ _ => gives_pure nofun
  next => exact gives_pure nofun

theorem gives_getFromMemory (key : String) :
    Gives (cacheRely config rounds given) state (getFromMemory key) fun _ raw => ∀ text ∈ raw, given key text := by
  intro sound
  unfold getFromMemory
  refine gives_bind gives_reading (fun later memory _ isMemory => ?_) sound
  subst isMemory
  split
  next => exact gives_pure nofun
  next entry found =>
    split
    next =>
      exact gives_bind (gives_changeMemory fun _ filled => filled.delete key) fun _ _ _ _ =>
        gives_pure nofun
    next =>
      refine gives_pure fun text isText => ?_
      cases isText
      exact sound.memory.given key entry found

theorem gives_getRaw (key : String) : Gives (cacheRely config rounds given) state (getRaw config key) fun _ raw =>
      ∀ text ∈ raw, given key text := by
  unfold getRaw
  refine gives_bind (gives_getFromRedis key) fun _ raw _ isGiven => ?_
  cases raw with
  | some text => exact gives_pure isGiven
  | none => exact gives_getFromMemory key

theorem gives_get (namespace_ : String) (args : List Value) :
    Gives (cacheRely config rounds given) state (CacheService.get config namespace_ args) fun _ value =>
      ∀ found ∈ value, ∃ text, given (CacheKeyGenerator.generate config namespace_ args) text ∧
        found = deserialise config text := by
  unfold CacheService.get
  refine gives_bind (gives_getRaw _) fun _ raw _ isGiven => gives_pure fun found isFound => ?_
  obtain ⟨text, isText, rfl⟩ := Option.map_eq_some_iff.mp isFound
  exact ⟨text, isGiven text isText, rfl⟩

theorem gives_set (namespace_ : String) (value : Value) (args : List Value) (ttlSeconds : Option ℚ)
    (isGiven : given (CacheKeyGenerator.generate config namespace_ args) (config.json.stringify value)) :
    Gives (cacheRely config rounds given) state (CacheService.set config namespace_ value args ttlSeconds)
      fun _ _ => True := by
  unfold CacheService.set
  refine gives_bind gives_reading fun _ memory _ _ => ?_
  refine gives_bind (gives_changeMemory fun _ filled => filled.set isGiven _) fun _ _ _ _ => ?_
  split
  next =>
    refine gives_tryCatch (gives_command ?_) fun _ _ _ => gives_pure trivial
    rintro key ttl text ⟨⟩
    exact isGiven
  next => exact gives_pure trivial

theorem gives_redisDel (keys : List String) :
    Gives (cacheRely config rounds given) state (redisDel keys : CacheM Value Nat) fun _ _ => True :=
  gives_command fun _ _ _ => nofun

theorem gives_scanAndDelete (pattern : String) : ∀ (left : Nat) (cursor : String) (deleted : Nat)
    (state : State (cacheProcess config rounds)),
    Gives (cacheRely config rounds given) state (scanAndDelete pattern left cursor deleted) fun _ _ => True
  | 0, _, _, _ => gives_bind (gives_command fun _ _ _ => nofun) fun _ _ _ _ => gives_pure trivial
  | left + 1, cursor, deleted, state => by
    unfold scanAndDelete
    refine gives_bind (gives_outcome (gives_command fun _ _ _ => nofun)) fun _ scanned _ _ => ?_
    cases scanned with
    | error => exact gives_pure trivial
    | ok answer =>
      obtain ⟨nextCursor, keys⟩ := answer
      have removes (state) : Gives (cacheRely config rounds given) state
          (if keys.isEmpty then pure 0 else redisDel keys : CacheM Value Nat) fun _ _ => True := by
        split
        next => exact gives_pure trivial
        next => exact gives_redisDel keys
      refine gives_bind (gives_outcome (removes _)) fun _ removed _ _ => ?_
      cases removed with
      | error => exact gives_pure trivial
      | ok removed =>
        dsimp only
        by_cases last : nextCursor = "0"
        · rw [if_pos last]
          exact gives_pure trivial
        · rw [if_neg last]
          exact gives_scanAndDelete pattern left _ _ _

theorem delete_all {maxEntries : Nat} (keys : List String) {entries : OrderedMap String MemoryCacheEntry}
    (filled : Filled maxEntries given entries) : Filled maxEntries given (keys.foldl OrderedMap.delete entries) := by
  induction keys generalizing entries with
  | nil => exact filled
  | cons key keys ih => exact ih (filled.delete key)

theorem gives_del (namespace_ : String) (args : List Value) :
    Gives (cacheRely config rounds given) state (CacheService.del config namespace_ args) fun _ _ => True := by
  unfold CacheService.del
  refine gives_bind (gives_changeMemory fun _ filled => filled.delete _) fun _ _ _ _ => ?_
  split
  next =>
    exact gives_tryCatch (gives_bind (gives_redisDel _) fun _ _ _ _ => gives_pure trivial)
      fun _ _ _ => gives_pure trivial
  next => exact gives_pure trivial

theorem gives_delPattern (pattern : String) :
    Gives (cacheRely config rounds given) state (CacheService.delPattern config rounds pattern) fun _ _ => True := by
  unfold CacheService.delPattern
  refine gives_bind gives_reading fun _ memory _ _ => ?_
  refine gives_bind (gives_changeMemory fun _ filled => delete_all _ filled) fun _ _ _ _ => ?_
  split
  next => exact gives_scanAndDelete _ _ _ _ _
  next => exact gives_pure trivial

/-- What is known of the value of a call: a `get` returns what was given for its key. -/
def Returned (config : CacheConfig Value) (given : String → String → Prop) :
    CacheCall Value → Except Exception (CacheValue Value) → Prop
  | .get namespace_ args, .ok (.cached (some value)) =>
    ∃ text, given (CacheKeyGenerator.generate config namespace_ args) text ∧ value = deserialise config text
  | _, _ => True

/-- The texts that a call gives. -/
def Given (config : CacheConfig Value) (given : String → String → Prop) : CacheCall Value → Prop
  | .set namespace_ value args _ =>
    given (CacheKeyGenerator.generate config namespace_ args) (config.json.stringify value)
  | _ => True

theorem body_gives (call : CacheCall Value) (gives : Given config given call) :
    Gives (cacheRely config rounds given) state (cacheBody config rounds call) fun _ value =>
      Returned config given call (.ok value) := by
  cases call with
  | get namespace_ args =>
    refine gives_bind (gives_get namespace_ args) fun _ value _ isGiven => gives_pure ?_
    cases value with
    | none => trivial
    | some value => exact isGiven value rfl
  | set namespace_ value args ttlSeconds =>
    exact gives_bind (gives_set namespace_ value args ttlSeconds gives) fun _ _ _ _ => gives_pure trivial
  | del namespace_ args => exact gives_bind (gives_del namespace_ args) fun _ _ _ _ => gives_pure trivial
  | delPattern pattern => exact gives_bind (gives_delPattern pattern) fun _ _ _ _ => gives_pure trivial

end Methods

/-- The stores of a process that starts. -/
def emptyWorld (now : ℚ) : CacheWorld := ⟨now, Keyspace.empty⟩

def emptyMemory (now : ℚ) : CacheMemory := ⟨now, OrderedMap.empty⟩

/-- In every run, whatever commands fail, the memory stays within its bound, and what a `get` returns is the value of a
`set` that was called with its key. -/
theorem cached_value_was_set {now : ℚ} {labels : List (Label (cacheProcess config rounds))}
    {after : Config (cacheProcess config rounds)}
    (ran : run labels (Config.initial (cacheProcess config rounds) (emptyWorld now) (emptyMemory now)) = some after) :
    after.mem.memoryCache.size ≤ max 1 config.memoryMaxEntries ∧
      ∀ task ∈ after.pool, ∀ namespace_ args value, task.call = .get namespace_ args →
        task.result = some (.ok (.cached (some value))) →
        ∃ other args' ttlSeconds, .call (.set other value args' ttlSeconds) ∈ labels ∧
          CacheKeyGenerator.generate config other args' = CacheKeyGenerator.generate config namespace_ args := by
  let given : String → String → Prop := fun key text => ∃ other value args' ttlSeconds,
    .call (CacheCall.set other value args' ttlSeconds) ∈ labels ∧
      CacheKeyGenerator.generate config other args' = key ∧ config.json.stringify value = text
  have relied : Admissible (Relied (cacheRely config rounds given) fun _ call => Given config given call) labels
      (Config.initial (cacheProcess config rounds) (emptyWorld now) (emptyMemory now)) := by
    have listed : Admissible (fun _ label => label ∈ labels) labels
        (Config.initial (cacheProcess config rounds) (emptyWorld now) (emptyMemory now)) :=
      admissible_of_labels _ fun _ member => member
    refine admissible_mono ?_ listed
    rintro c label member
    cases label with
    | call call =>
      cases call with
      | set namespace_ value args ttlSeconds => exact ⟨namespace_, value, args, ttlSeconds, member, rfl, rfl⟩
      | _ => trivial
    | _ => trivial
  have start : Sound config rounds given (emptyWorld now, emptyMemory now) :=
    ⟨⟨nofun, Nat.zero_le _⟩, nofun⟩
  have guarded : Guarded (cacheRely config rounds given)
      (fun call _ result => Returned config given call result) after :=
    guarded_run (fun call _ _ _ meets since => guards_mono (fun _ result ended => by
        cases result with
        | ok value => exact ended.2 value rfl
        | error failure => cases call <;> trivial) (body_gives call meets since.1))
      (fun _ _ starts _ => starts.elim) (fun _ _ _ _ _ known => known) start relied ran
  refine ⟨guarded.holds.memory.bounded, fun task member namespace_ args value isGet ended => ?_⟩
  have returned := guarded.ended member ended
  rw [isGet] at returned
  obtain ⟨text, ⟨other, value', args', ttlSeconds, called, sameKey, rfl⟩, isValue⟩ := returned
  rw [deserialise, config.json.parses] at isValue
  subst isValue
  exact ⟨other, args', ttlSeconds, called, sameKey⟩

/-- Values are texts, and there is room for one entry. -/
def textConfig : CacheConfig String where
  keyPrefix := "p:"
  version := "v1"
  defaultTtlSeconds := 60
  memoryMaxEntries := 1
  redis := true
  json := ⟨id, some, id, fun _ => rfl⟩
  hashArgs := String.join
  globMatches := fun _ _ => false

def down : Exception := .error "Connection is closed."

/-- The server misses the first value and has evicted nothing. -/
def setTwice : List (Label (cacheProcess textConfig 1)) :=
  [.call (CacheCall.set "price" "1" ["ETH"] none), .resume 0, .call (CacheCall.set "price" "2" ["BTC"] none),
    .resume 1, .reply 0 (CommandOutcome.fails down), .reply 1 CommandOutcome.done,
    .call (CacheCall.get "price" ["BTC"]), .resume 2, .reply 2 (CommandOutcome.fails down), .resume 2]

theorem second_value_was_set : ∃ after,
    run setTwice (Config.initial (cacheProcess textConfig 1) (emptyWorld 0) (emptyMemory 0)) = some after ∧
      (∃ task ∈ after.pool, task.call = .get "price" ["BTC"] ∧ task.result = some (.ok (.cached (some "2")))) ∧
        after.mem.memoryCache.size ≤ 1 ∧ ∃ other args ttlSeconds, .call (.set other "2" args ttlSeconds) ∈ setTwice ∧
          CacheKeyGenerator.generate textConfig other args = CacheKeyGenerator.generate textConfig "price" ["BTC"] := by
  obtain ⟨after, ran, task, member, called, returned⟩ : ∃ after,
      run setTwice (Config.initial (cacheProcess textConfig 1) (emptyWorld 0) (emptyMemory 0)) = some after ∧
        ∃ task ∈ after.pool, task.call = .get "price" ["BTC"] ∧ task.result = some (.ok (.cached (some "2"))) := by
    decide +kernel
  obtain ⟨bounded, wasSet⟩ := cached_value_was_set textConfig 1 ran
  exact ⟨after, ran, ⟨task, member, called, returned⟩, bounded, wasSet task member _ _ _ called returned⟩

/-! ## Stampede prevention -/

section Flights
variable {Value : Type} {state after : Flights Value} {i : Nat}

/-- A flight that has not landed. -/
def Aloft (state : Flights Value) (key : String) (i : Nat) : Prop :=
  ∃ flight, state.flights[i]? = some flight ∧ flight.key = key ∧ ∀ result, flight.phase ≠ .landed result

/-- The entries are those of the flights that have not landed, and callers are on flights of their key. -/
structure Tracked (state : Flights Value) : Prop where
  aloft : ∀ key i, state.inflight.get? key = some i ↔ Aloft state key i
  callers : ∀ caller ∈ state.callers, ∃ flight, state.flights[caller.2]? = some flight ∧ flight.key = caller.1

theorem flight_changed {flights : List (Flight Value)} {flight changed : Flight Value}
    (found : flights[i]? = some flight) (j : Nat) :
    (flights.set i changed)[j]? = if j = i then some changed else flights[j]? := by
  grind

theorem Tracked.callers_changed (tracked : Tracked state) {flight changed : Flight Value}
    (found : state.flights[i]? = some flight) (named : changed.key = flight.key) :
    ∀ caller ∈ state.callers, ∃ flight, (state.flights.set i changed)[caller.2]? = some flight ∧
      flight.key = caller.1 := by
  intro caller member
  obtain ⟨old, there, same⟩ := tracked.callers caller member
  rw [flight_changed found]
  split
  next mine =>
    rw [mine, found] at there
    cases there
    exact ⟨changed, rfl, named.trans same⟩
  next => exact ⟨old, there, same⟩

theorem Tracked.singleflight (tracked : Tracked state) (key : String) :
    Tracked (CacheService.singleflight state key) := by
  unfold CacheService.singleflight
  split
  next i found =>
    obtain ⟨flight, here, named, _⟩ := (tracked.aloft key i).mp found
    refine ⟨tracked.aloft, fun caller member => ?_⟩
    rcases List.mem_append.mp member with old | new
    · exact tracked.callers caller old
    · rw [List.mem_singleton.mp new]
      exact ⟨flight, here, named⟩
  next absent =>
    have earlier {flight : Flight Value} {j : Nat} (found : state.flights[j]? = some flight) :
        (state.flights ++ [⟨key, .running⟩])[j]? = some flight := by
      rw [List.getElem?_append_left (List.getElem?_eq_some_iff.mp found).1, found]
    refine ⟨fun other i => ?_, fun caller member => ?_⟩
    · rw [OrderedMap.get?_set]
      constructor
      · intro here
        split at here
        next same =>
          cases here
          exact ⟨⟨key, .running⟩, List.getElem?_concat_length, same.symm, nofun⟩
        next =>
          obtain ⟨flight, found, rest⟩ := (tracked.aloft other i).mp here
          exact ⟨flight, earlier found, rest⟩
      · rintro ⟨flight, found, named, low⟩
        rcases Nat.lt_or_ge i state.flights.length with old | new
        · rw [List.getElem?_append_left old] at found
          have entry := (tracked.aloft other i).mpr ⟨flight, found, named, low⟩
          have differs : other ≠ key := by
            rintro rfl
            cases entry.symm.trans absent
          rw [if_neg differs, entry]
        · obtain ⟨rfl, rfl⟩ : i = state.flights.length ∧ flight = ⟨key, .running⟩ := by
            grind
          rw [if_pos named.symm]
    · rcases List.mem_append.mp member with old | new
      · obtain ⟨flight, found, named⟩ := tracked.callers caller old
        exact ⟨flight, earlier found, named⟩
      · rw [List.mem_singleton.mp new]
        exact ⟨⟨key, .running⟩, List.getElem?_concat_length, rfl⟩

theorem Tracked.step {event : FlightEvent Value} (tracked : Tracked state)
    (stepped : flightStep state event = some after) : Tracked after := by
  cases event with
  | singleflight key =>
    cases stepped
    exact tracked.singleflight key
  | settle i result =>
    simp only [flightStep] at stepped
    split at stepped
    next key found =>
      cases stepped
      refine ⟨fun other j => (tracked.aloft other j).trans ?_, tracked.callers_changed found rfl⟩
      unfold Aloft
      rw [flight_changed found]
      split
      next mine => simp [mine, found]
      next => rfl
    next => cases stepped
  | land i =>
    simp only [flightStep] at stepped
    split at stepped
    next key result found =>
      cases stepped
      have entry : state.inflight.get? key = some i := (tracked.aloft key i).mpr ⟨_, found, rfl, nofun⟩
      refine ⟨fun other j => ?_, tracked.callers_changed found rfl⟩
      have old := tracked.aloft other j
      unfold Aloft at old ⊢
      rw [OrderedMap.get?_delete, flight_changed found]
      by_cases mine : j = i
      · simp_all [eq_comm (a := other)]
      · by_cases same : other = key
        · have apart : ¬ ∃ flight, state.flights[j]? = some flight ∧ flight.key = other ∧
              ∀ result, flight.phase ≠ .landed result := by
            rw [← old, same, entry]
            exact fun here => mine (Option.some.inj here).symm
          simpa [mine, same] using apart
        · simp [mine, same, old]
    next => cases stepped

/-- In every run at most one flight of a key has not landed, callers are on flights of their key, and a call that comes
while a flight of its key has not landed starts none and gets the promise of that one. -/
theorem one_flight_per_key {events : List (FlightEvent Value)}
    (ran : course flightStep events ⟨[], .empty, []⟩ = some after) :
    (∀ key i j, Aloft after key i → Aloft after key j → i = j) ∧
      (∀ caller ∈ after.callers, ∃ flight, after.flights[caller.2]? = some flight ∧ flight.key = caller.1) ∧
      ∀ key i, Aloft after key i →
        CacheService.singleflight after key = { after with callers := after.callers ++ [(key, i)] } := by
  have tracked : Tracked after := course_keeps (fun _ _ _ here stepped => Tracked.step here stepped)
    ⟨by simp [Aloft], fun _ member => by cases member⟩ ran
  refine ⟨fun key i j first second => ?_, tracked.callers, fun key i aloft => ?_⟩
  · rw [← tracked.aloft] at first second
    exact Option.some.inj (first.symm.trans second)
  · rw [← tracked.aloft] at aloft
    simp only [CacheService.singleflight, aloft]

end Flights

def sharedFlight : List (FlightEvent String) :=
  [.singleflight "p", .singleflight "p", .settle 0 (.ok "1"), .land 0, .singleflight "p"]

/-- Two callers share a flight, and the third one comes when it has landed. -/
theorem shared_flight : ∃ after, course flightStep sharedFlight ⟨[], .empty, []⟩ = some after ∧
    after.callers = [("p", 0), ("p", 0), ("p", 1)] ∧ ∀ i j, Aloft after "p" i → Aloft after "p" j → i = j :=
  ⟨_, rfl, rfl, (one_flight_per_key (show course flightStep sharedFlight _ = some _ from rfl)).1 "p"⟩

end AlianStructure.Guarantees.CacheProvenance
