import AlianStructure.Library.Trajectory
import AlianStructure.Source.Dashboard.ConnectionPoolService

/-!
# The pools and the connections

Source: src/dashboard/websocket/services/connection-pool.service.ts:79-249,387-408. A connection joins its
pool when its socket connects, each time it does, and nothing is tested then. The pools stay within
their bounds, without repetitions and in step with the map exactly as long as each connection that joins
is new to its pool, which is still in use and has room, and no pool with entries is made again.
-/
namespace AlianStructure.Guarantees.PoolAgreement
open Library.InsertionOrder Library.Trajectory
open Source.Dashboard ConnectionPoolService

/-- A pool holds a connection. -/
def Held (state : ConnectionPools) (id : Uuid) : Prop :=
  ∃ poolName number, state.pools.get? poolName = some number ∧ id ∈ arrayAt state number

/-- No pool has more entries than it may or one of them twice, and the pools hold what the map does. -/
structure Agree (state : ConnectionPools) : Prop where
  bounded : ∀ poolName number, state.pools.get? poolName = some number →
    (arrayAt state number).length ≤ (configOf state poolName).maxConnections
  once : ∀ poolName number, state.pools.get? poolName = some number → (arrayAt state number).Nodup
  mapped : ∀ id, Held state id ↔ id ∈ state.connections

/-! ## The condition -/

/-- A connection that would join an array. -/
def joins (state : ConnectionPools) (id : Uuid) : Option (Nat × String) :=
  match state.created.get? id with
  | none => none
  | some connection =>
    if connection.socketActive && ! connection.socketConnected then
      connection.pool.map fun number => (number, connection.serviceName)
    else none

/-- The array is still the pool, the connection is not in it, and it has room. -/
def HasRoom (state : ConnectionPools) (id : Uuid) (number : Nat) (poolName : String) : Prop :=
  state.pools.get? poolName = some number ∧ id ∉ arrayAt state number ∧
    (arrayAt state number).length < (configOf state poolName).maxConnections

instance (state : ConnectionPools) (id : Uuid) (number : Nat) (poolName : String) :
    Decidable (HasRoom state id number poolName) := inferInstanceAs (Decidable (_ ∧ _ ∧ _))

/-- A connection joins a pool that has room for it, and only a pool without entries is made again. -/
def Orderly (state : ConnectionPools) : PoolEvent → Prop
  | .connect id => ∀ joined ∈ joins state id, HasRoom state id joined.1 joined.2
  | .initializePool poolName _ => ∀ number ∈ state.pools.get? poolName, arrayAt state number = []
  | _ => True

instance (state : ConnectionPools) : ∀ event, Decidable (Orderly state event)
  | .connect id =>
    inferInstanceAs (Decidable (∀ joined ∈ joins state id, HasRoom state id joined.1 joined.2))
  | .initializePool poolName _ =>
    inferInstanceAs (Decidable (∀ number ∈ state.pools.get? poolName, arrayAt state number = []))
  | .acquire _ _ | .resume _ | .release _ | .disconnect _ | .cleanupStaleConnections | .drop _ _
  | .heartbeat _ | .timeout _ | .tick _ => isTrue trivial

/-! ## What is always so -/

/-- Arrays, connections and pools belong together. -/
structure Linked (state : ConnectionPools) : Prop where
  numbered : ∀ poolName number, state.pools.get? poolName = some number → number < state.arraysMade
  apart : ∀ poolName other number, state.pools.get? poolName = some number →
    state.pools.get? other = some number → poolName = other
  entered : ∀ number id, id ∈ arrayAt state number →
    ∃ connection, state.created.get? id = some connection ∧ connection.pool = some number
  owned : ∀ id connection number, state.created.get? id = some connection →
    connection.pool = some number → number < state.arraysMade ∧
      ∀ poolName, state.pools.get? poolName = some number → poolName = connection.serviceName
  drawn : ∀ id connection, state.created.get? id = some connection → id < state.uuidsDrawn
  known : ∀ id ∈ state.connections, ∃ connection, state.created.get? id = some connection

section Changes
variable {state after : ConnectionPools} {id other : Uuid} {number : Nat} {poolName : String}

theorem Agree.congr (agree : Agree state) (pools : after.pools = state.pools)
    (arrays : after.arrays = state.arrays) (configs : after.poolConfigs = state.poolConfigs)
    (connections : after.connections = state.connections) : Agree after := by
  have same : ∀ number, arrayAt after number = arrayAt state number := fun number => by
    unfold arrayAt
    rw [arrays]
  refine ⟨fun poolName number isPool => ?_, fun poolName number isPool => ?_, fun id => ?_⟩
  · rw [same, configOf, configs]
    exact agree.bounded poolName number (pools ▸ isPool)
  · rw [same]
    exact agree.once poolName number (pools ▸ isPool)
  · rw [connections, ← agree.mapped id]
    unfold Held
    simp only [pools, same]

/-- A change of the created connections that keeps their arrays and services. -/
structure Touches (state after : ConnectionPools) : Prop where
  pools : after.pools = state.pools
  arrays : after.arrays = state.arrays
  configs : after.poolConfigs = state.poolConfigs
  connections : after.connections = state.connections
  arraysMade : after.arraysMade = state.arraysMade
  uuidsDrawn : after.uuidsDrawn = state.uuidsDrawn
  backwards : ∀ id connection, after.created.get? id = some connection →
    ∃ old, state.created.get? id = some old ∧ connection.pool = old.pool ∧
      connection.serviceName = old.serviceName
  forwards : ∀ id old, state.created.get? id = some old →
    ∃ connection, after.created.get? id = some connection ∧ connection.pool = old.pool

theorem Touches.refl (state : ConnectionPools) : Touches state state :=
  ⟨rfl, rfl, rfl, rfl, rfl, rfl, fun _ connection found => ⟨connection, found, rfl, rfl⟩,
    fun _ old found => ⟨old, found, rfl⟩⟩

theorem Linked.touches (linked : Linked state) (touches : Touches state after) : Linked after := by
  have same : ∀ number, arrayAt after number = arrayAt state number := fun number => by
    unfold arrayAt
    rw [touches.arrays]
  refine ⟨fun poolName number isPool => ?_, fun poolName other number isPool isOther => ?_,
    fun number id member => ?_, fun id connection number found isPool => ?_,
    fun id connection found => ?_, fun id member => ?_⟩
  · rw [touches.arraysMade]
    exact linked.numbered poolName number (touches.pools ▸ isPool)
  · exact linked.apart poolName other number (touches.pools ▸ isPool) (touches.pools ▸ isOther)
  · obtain ⟨old, found, isPool⟩ := linked.entered number id (same number ▸ member)
    obtain ⟨connection, isFound, kept⟩ := touches.forwards id old found
    exact ⟨connection, isFound, kept.trans isPool⟩
  · obtain ⟨old, isOld, pool, service⟩ := touches.backwards id connection found
    obtain ⟨below, own⟩ := linked.owned id old number isOld (pool ▸ isPool)
    rw [touches.arraysMade, touches.pools, service]
    exact ⟨below, own⟩
  · obtain ⟨old, isOld, _⟩ := touches.backwards id connection found
    rw [touches.uuidsDrawn]
    exact linked.drawn id old isOld
  · obtain ⟨old, isOld⟩ := linked.known id (touches.connections ▸ member)
    obtain ⟨connection, isFound, _⟩ := touches.forwards id old isOld
    exact ⟨connection, isFound⟩

theorem changeConnection_touches {change : UpstreamConnection → UpstreamConnection}
    (pool : ∀ connection, (change connection).pool = connection.pool)
    (service : ∀ connection, (change connection).serviceName = connection.serviceName) :
    Touches state (changeConnection state id change) := by
  unfold changeConnection
  cases found : state.created.get? id with
  | none => exact Touches.refl state
  | some old =>
    refine ⟨rfl, rfl, rfl, rfl, rfl, rfl, fun other connection isFound => ?_,
      fun other before isOld => ?_⟩
    · simp only [OrderedMap.get?_set] at isFound
      split at isFound
      next same =>
        cases isFound
        exact ⟨old, same ▸ found, pool old, service old⟩
      next => exact ⟨connection, isFound, rfl, rfl⟩
    · simp only [OrderedMap.get?_set]
      split
      next same =>
        subst same
        cases found.symm.trans isOld
        exact ⟨_, rfl, pool old⟩
      next => exact ⟨before, isOld, rfl⟩

/-! ## Removal -/

/-- The arrays and the map only lose entries. -/
structure Shrinks (state after : ConnectionPools) : Prop where
  pools : after.pools = state.pools
  created : after.created = state.created
  arraysMade : after.arraysMade = state.arraysMade
  uuidsDrawn : after.uuidsDrawn = state.uuidsDrawn
  entries : ∀ number, arrayAt after number ⊆ arrayAt state number
  connections : ∀ id ∈ after.connections, id ∈ state.connections

theorem Linked.shrinks (linked : Linked state) (shrinks : Shrinks state after) : Linked after := by
  obtain ⟨pools, created, arraysMade, uuidsDrawn, entries, connections⟩ := shrinks
  refine ⟨?_, ?_, fun number id member => ?_, ?_, ?_, fun id member => ?_⟩
  · rw [pools, arraysMade]
    exact linked.numbered
  · rw [pools]
    exact linked.apart
  · rw [created]
    exact linked.entered number id (entries number member)
  · rw [pools, created, arraysMade]
    exact linked.owned
  · rw [created, uuidsDrawn]
    exact linked.drawn
  · rw [created]
    exact linked.known id (connections id member)

theorem arrayAt_set (state : ConnectionPools) {arrays : OrderedMap Nat (List Uuid)} {entries : List Uuid} {k : Nat}
    (isAfter : after.arrays = arrays.set number entries) (isState : state.arrays = arrays) :
    arrayAt after k = if k = number then entries else arrayAt state k := by
  unfold arrayAt
  rw [isAfter, isState, OrderedMap.get?_set]
  split <;> rfl

theorem removeFromPool_shrinks (state : ConnectionPools) (id : Uuid) (serviceName : String) :
    Shrinks state (removeFromPool state id serviceName) := by
  unfold removeFromPool
  split
  next => exact ⟨rfl, rfl, rfl, rfl, fun _ => List.Subset.refl _, fun _ member => member⟩
  next number isPool =>
    refine ⟨rfl, rfl, rfl, rfl, fun k => ?_, fun _ member => member⟩
    rw [arrayAt_set state rfl rfl]
    split
    next same => exact same ▸ List.erase_subset
    next => exact List.Subset.refl _

variable {connection : UpstreamConnection}

theorem disconnect_steps (found : state.created.get? id = some connection) (member : id ∈ state.connections) :
    ∃ closed, Touches (removeFromPool state id connection.serviceName) closed ∧
      disconnect state id = { closed with connections := closed.connections.delete id } := by
  unfold disconnect
  rw [found]
  dsimp only
  rw [if_pos member]
  split
  next =>
    exact ⟨changeConnection (removeFromPool state id connection.serviceName) id closeSocket,
      changeConnection_touches (fun _ => rfl) fun _ => rfl, rfl⟩
  next => exact ⟨_, Touches.refl _, rfl⟩

theorem disconnect_absent (absent : state.created.get? id = none ∨ id ∉ state.connections) :
    disconnect state id = state := by
  unfold disconnect
  rcases absent with none | unknown
  · rw [none]
  · cases state.created.get? id with
    | none => rfl
    | some connection => exact if_neg unknown

theorem Linked.disconnect (linked : Linked state) (id : Uuid) : Linked (disconnect state id) := by
  cases found : state.created.get? id with
  | none => exact (disconnect_absent (Or.inl found)).symm ▸ linked
  | some connection =>
    by_cases member : id ∈ state.connections
    · obtain ⟨closed, touches, isAfter⟩ := disconnect_steps found member
      rw [isAfter]
      have closedLinked := (linked.shrinks (removeFromPool_shrinks state id _)).touches touches
      exact closedLinked.shrinks ⟨rfl, rfl, rfl, rfl, fun _ => List.Subset.refl _,
        fun _ kept => (OrderedSet.mem_delete.mp kept).1⟩
    · exact (disconnect_absent (Or.inr member)).symm ▸ linked

theorem pool_of_member (linked : Linked state) (agree : Agree state)
    (found : state.created.get? id = some connection) (member : id ∈ state.connections) :
    ∃ number, state.pools.get? connection.serviceName = some number ∧ connection.pool = some number := by
  obtain ⟨poolName, number, isPool, entry⟩ := (agree.mapped id).mpr member
  obtain ⟨same, isSame, kept⟩ := linked.entered number id entry
  cases found.symm.trans isSame
  have own := (linked.owned id connection number found kept).2 poolName isPool
  exact ⟨number, own ▸ isPool, kept⟩

/-- The state without a connection. -/
def without (state : ConnectionPools) (id : Uuid) (number : Nat) : ConnectionPools :=
  { state with
    arrays := state.arrays.set number ((arrayAt state number).erase id)
    connections := state.connections.delete id }

theorem held_without (linked : Linked state) (found : state.created.get? id = some connection)
    (kept : connection.pool = some number) (once : (arrayAt state number).Nodup) :
    Held (without state id number) other ↔ Held state other ∧ other ≠ id := by
  have at_ : ∀ k, arrayAt (without state id number) k =
      if k = number then (arrayAt state number).erase id else arrayAt state k := fun _ =>
    arrayAt_set state rfl rfl
  constructor
  · rintro ⟨poolName, k, isK, entry⟩
    rw [at_] at entry
    split at entry
    next same =>
      subst same
      obtain ⟨differs, entry⟩ := (List.Nodup.mem_erase_iff once).mp entry
      exact ⟨⟨poolName, k, isK, entry⟩, differs⟩
    next away =>
      refine ⟨⟨poolName, k, isK, entry⟩, fun same => away ?_⟩
      obtain ⟨own, isOwn, inK⟩ := linked.entered k other entry
      rw [same, found] at isOwn
      cases isOwn
      exact Option.some.inj (inK.symm.trans kept)
  · rintro ⟨⟨poolName, k, isK, entry⟩, differs⟩
    refine ⟨poolName, k, isK, ?_⟩
    rw [at_]
    split
    next same =>
      subst same
      exact (List.Nodup.mem_erase_iff once).mpr ⟨differs, entry⟩
    next => exact entry

theorem Agree.without (agree : Agree state) (linked : Linked state)
    (found : state.created.get? id = some connection) (kept : connection.pool = some number)
    (isPool : state.pools.get? poolName = some number) : Agree (without state id number) := by
  have once := agree.once poolName number isPool
  have at_ : ∀ k, arrayAt (PoolAgreement.without state id number) k =
      if k = number then (arrayAt state number).erase id else arrayAt state k := fun _ =>
    arrayAt_set state rfl rfl
  refine ⟨fun poolName k isK => ?_, fun poolName k isK => ?_, fun other => ?_⟩
  · have bound := agree.bounded poolName k isK
    rw [at_]
    split
    next same =>
      subst same
      exact Nat.le_trans List.length_erase_le bound
    next => exact bound
  · rw [at_]
    split
    next => exact once.erase id
    next => exact agree.once poolName k isK
  · rw [held_without linked found kept once, agree.mapped other]
    exact OrderedSet.mem_delete.symm

theorem Agree.disconnect (agree : Agree state) (linked : Linked state) (id : Uuid) : Agree (disconnect state id) := by
  cases found : state.created.get? id with
  | none => exact (disconnect_absent (Or.inl found)).symm ▸ agree
  | some connection =>
    by_cases member : id ∈ state.connections
    · obtain ⟨number, isPool, kept⟩ := pool_of_member linked agree found member
      obtain ⟨closed, touches, isAfter⟩ := disconnect_steps found member
      have removed : removeFromPool state id connection.serviceName =
          { state with arrays := state.arrays.set number ((arrayAt state number).erase id) } := by
        unfold removeFromPool
        rw [isPool]
      rw [removed] at touches
      rw [isAfter]
      refine (agree.without linked found kept isPool).congr touches.pools touches.arrays touches.configs
        ?_
      exact congrArg (fun all : OrderedSet Uuid => all.delete id) touches.connections
    · exact (disconnect_absent (Or.inr member)).symm ▸ agree

theorem cleanup_keeps (linked : Linked state) :
    Linked (cleanupStaleConnections state).1 ∧ (Agree state → Agree (cleanupStaleConnections state).1) := by
  have one : ∀ (config : PoolConfig) (ids : List Uuid) (cleaned : ConnectionPools × Nat),
      Linked cleaned.1 → Linked (ids.foldl (cleanOne config) cleaned).1 ∧
        (Agree cleaned.1 → Agree (ids.foldl (cleanOne config) cleaned).1) := by
    intro config ids
    induction ids with
    | nil => exact fun _ linked => ⟨linked, id⟩
    | cons first rest ih =>
      intro cleaned linked
      rw [List.foldl_cons]
      by_cases stale : isStale cleaned.1 config first = true
      · have cleans : cleanOne config cleaned first = (disconnect cleaned.1 first, cleaned.2 + 1) :=
          if_pos stale
        rw [cleans]
        obtain ⟨restLinked, restAgree⟩ := ih (disconnect cleaned.1 first, cleaned.2 + 1)
          (linked.disconnect first)
        exact ⟨restLinked, fun agree => restAgree (agree.disconnect linked first)⟩
      · have keeps : cleanOne config cleaned first = cleaned := if_neg stale
        rw [keeps]
        exact ih cleaned linked
  have all : ∀ (entries : List (String × Nat)) (cleaned : ConnectionPools × Nat),
      Linked cleaned.1 → Linked (entries.foldl cleanPool cleaned).1 ∧
        (Agree cleaned.1 → Agree (entries.foldl cleanPool cleaned).1) := by
    intro entries
    induction entries with
    | nil => exact fun _ linked => ⟨linked, id⟩
    | cons entry rest ih =>
      intro cleaned linked
      obtain ⟨oneLinked, oneAgree⟩ := one (configOf cleaned.1 entry.1) (arrayAt cleaned.1 entry.2) cleaned
        linked
      obtain ⟨restLinked, restAgree⟩ := ih (cleanPool cleaned entry) oneLinked
      exact ⟨restLinked, fun agree => restAgree (oneAgree agree)⟩
  exact all state.pools.entries (state, 0) linked

/-! ## Acquisition -/

theorem createConnection_linked (linked : Linked state) (poolName url : String) :
    Linked (createConnection state poolName url).1 := by
  have older : ∀ id connection, state.created.get? id = some connection → id ≠ state.uuidsDrawn :=
    fun id connection found => Nat.ne_of_lt (linked.drawn id connection found)
  have kept : ∀ id connection, state.created.get? id = some connection →
      (createConnection state poolName url).1.created.get? id = some connection :=
    fun id connection found => by
      simp only [createConnection, OrderedMap.get?_set, if_neg (older id connection found)]
      exact found
  refine ⟨linked.numbered, linked.apart, fun number id member => ?_,
    fun id connection number found isPool => ?_, fun id connection found => ?_, fun id member => ?_⟩
  · obtain ⟨connection, found, isPool⟩ := linked.entered number id member
    exact ⟨connection, kept id connection found, isPool⟩
  · simp only [createConnection, OrderedMap.get?_set] at found
    split at found
    next =>
      cases found
      exact ⟨linked.numbered poolName number isPool,
        fun other isOther => linked.apart other poolName number isOther isPool⟩
    next => exact linked.owned id connection number found isPool
  · simp only [createConnection, OrderedMap.get?_set] at found ⊢
    split at found
    next same => exact same ▸ Nat.lt_succ_self _
    next => exact Nat.lt_succ_of_lt (linked.drawn id connection found)
  · obtain ⟨connection, found⟩ := linked.known id member
    exact ⟨connection, kept id connection found⟩

theorem findOrCreate_keeps (linked : Linked state) (number : Nat) (poolName serviceUrl : String) :
    Linked (findOrCreate state number poolName serviceUrl).1 ∧
      (Agree state → Agree (findOrCreate state number poolName serviceUrl).1) := by
  unfold findOrCreate
  split
  next => exact ⟨linked, id⟩
  next =>
    exact ⟨createConnection_linked linked poolName serviceUrl, fun agree => agree.congr rfl rfl rfl rfl⟩

theorem suspended_touches (waiting : List SuspendedAcquire) : Touches state { state with suspended := waiting } :=
  ⟨rfl, rfl, rfl, rfl, rfl, rfl, (Touches.refl state).backwards, (Touches.refl state).forwards⟩

theorem acquire_keeps (linked : Linked state) (poolName serviceUrl : String) :
    Linked (acquire state poolName serviceUrl).1 ∧ (Agree state → Agree (acquire state poolName serviceUrl).1) := by
  unfold acquire
  split
  next => exact ⟨linked, id⟩
  next number _ =>
    split
    next =>
      split
      next => exact ⟨linked, id⟩
      next stale _ =>
        exact ⟨(linked.disconnect stale).touches (suspended_touches _),
          fun agree => (agree.disconnect linked stale).congr rfl rfl rfl rfl⟩
    next => exact findOrCreate_keeps linked number poolName serviceUrl

theorem resume_keeps (linked : Linked state) (i : Nat) :
    Linked (resume state i).1 ∧ (Agree state → Agree (resume state i).1) := by
  unfold resume
  split
  next => exact ⟨linked, id⟩
  next waiting _ =>
    obtain ⟨foundLinked, foundAgree⟩ := findOrCreate_keeps
      (linked.touches (suspended_touches (state.suspended.eraseIdx i))) waiting.pool waiting.poolName
      waiting.serviceUrl
    exact ⟨foundLinked, fun agree => foundAgree (agree.congr rfl rfl rfl rfl)⟩

/-! ## A new array for a pool -/

theorem arrayAt_added (state : ConnectionPools) (poolName : String) (config : PartialPoolConfig)
    (k : Nat) : arrayAt (initializePool state poolName config) k =
      if k = state.arraysMade then [] else arrayAt state k := arrayAt_set state rfl rfl

theorem pool_added {config : PartialPoolConfig} {another : String} :
    (initializePool state poolName config).pools.get? another = some number ↔
      (another = poolName ∧ number = state.arraysMade) ∨
        (another ≠ poolName ∧ state.pools.get? another = some number) := by
  simp only [initializePool, OrderedMap.get?_set]
  split
  next same => simp [same, eq_comm]
  next differs => simp [differs]

theorem initializePool_linked (linked : Linked state) (poolName : String) (config : PartialPoolConfig) :
    Linked (initializePool state poolName config) := by
  refine ⟨fun other number isPool => ?_, fun first second number isFirst isSecond => ?_,
    fun number id member => ?_, fun id connection number found isPool => ?_, linked.drawn, linked.known⟩
  · rcases pool_added.mp isPool with ⟨_, rfl⟩ | ⟨_, old⟩
    · exact Nat.lt_succ_self _
    · exact Nat.lt_succ_of_lt (linked.numbered other number old)
  · rcases pool_added.mp isFirst with ⟨rfl, rfl⟩ | ⟨_, oldFirst⟩
    · rcases pool_added.mp isSecond with ⟨rfl, _⟩ | ⟨_, oldSecond⟩
      · rfl
      · exact absurd (linked.numbered second _ oldSecond) (Nat.lt_irrefl _)
    · rcases pool_added.mp isSecond with ⟨rfl, rfl⟩ | ⟨_, oldSecond⟩
      · exact absurd (linked.numbered first _ oldFirst) (Nat.lt_irrefl _)
      · exact linked.apart first second number oldFirst oldSecond
  · rw [arrayAt_added] at member
    split at member
    next => cases member
    next => exact linked.entered number id member
  · obtain ⟨below, own⟩ := linked.owned id connection number found isPool
    refine ⟨Nat.lt_succ_of_lt below, fun other isOther => ?_⟩
    rcases pool_added.mp isOther with ⟨_, rfl⟩ | ⟨_, old⟩
    · exact absurd below (Nat.lt_irrefl _)
    · exact own other old

theorem initializePool_agree_iff (linked : Linked state) (agree : Agree state) (poolName : String)
    (config : PartialPoolConfig) : Agree (initializePool state poolName config) ↔
      Orderly state (.initializePool poolName config) := by
  constructor
  · intro after number isPool
    refine List.eq_nil_iff_forall_not_mem.mpr fun id member => ?_
    have mapped : id ∈ state.connections := (agree.mapped id).mp ⟨poolName, number, isPool, member⟩
    obtain ⟨another, k, isK, entry⟩ := (after.mapped id).mpr mapped
    rw [arrayAt_added] at entry
    split at entry
    next => cases entry
    next old =>
      rcases pool_added.mp isK with ⟨_, new⟩ | ⟨differs, isOld⟩
      · exact old new
      · obtain ⟨connection, found, inNumber⟩ := linked.entered number id member
        have own := (linked.owned id connection number found inNumber).2 poolName isPool
        obtain ⟨same, isSame, inK⟩ := linked.entered k id entry
        cases found.symm.trans isSame
        have ownOther := (linked.owned id connection k found inK).2 another isOld
        exact differs (ownOther.trans own.symm)
  · intro empty
    refine ⟨fun another k isK => ?_, fun another k isK => ?_, fun id => ?_⟩
    · rw [arrayAt_added]
      rcases pool_added.mp isK with ⟨_, new⟩ | ⟨differs, isOld⟩
      · rw [if_pos new]
        exact Nat.zero_le _
      · rw [if_neg (Nat.ne_of_lt (linked.numbered another k isOld))]
        have config' : configOf (initializePool state poolName config) another =
            configOf state another := by
          simp only [configOf, initializePool, OrderedMap.get?_set, if_neg differs]
        rw [config']
        exact agree.bounded another k isOld
    · rw [arrayAt_added]
      split
      next => exact List.nodup_nil
      next old =>
        rcases pool_added.mp isK with ⟨_, new⟩ | ⟨_, isOld⟩
        · exact absurd new old
        · exact agree.once another k isOld
    · refine Iff.trans ?_ (agree.mapped id)
      constructor
      · rintro ⟨another, k, isK, entry⟩
        rw [arrayAt_added] at entry
        split at entry
        next => cases entry
        next old =>
          rcases pool_added.mp isK with ⟨_, new⟩ | ⟨_, isOld⟩
          · exact absurd new old
          · exact ⟨another, k, isOld, entry⟩
      · rintro ⟨another, k, isK, entry⟩
        refine ⟨another, k, pool_added.mpr (Or.inr ⟨fun same => ?_, isK⟩), ?_⟩
        · rw [empty k (same ▸ isK)] at entry
          cases entry
        · rw [arrayAt_added, if_neg (Nat.ne_of_lt (linked.numbered another k isK))]
          exact entry

/-! ## A socket connects -/

/-- The connection whose socket connects. -/
def connected (state : ConnectionPools) (id : Uuid) : ConnectionPools :=
  changeConnection state id fun connection =>
    { connection with socketConnected := true, isConnected := true, lastHeartbeat := state.now }

theorem connected_touches (state : ConnectionPools) (id : Uuid) : Touches state (connected state id) :=
  changeConnection_touches (fun _ => rfl) fun _ => rfl

/-- What the event does: nothing, or the connection joins the array that its handler keeps. -/
theorem connect_eq (state : ConnectionPools) (id : Uuid) : (connect state id = state ∧ joins state id = none) ∨
      ∃ connection, state.created.get? id = some connection ∧
        connect state id = joinPool (connected state id) id connection ∧
        joins state id = connection.pool.map fun number => (number, connection.serviceName) := by
  unfold connect joins
  cases found : state.created.get? id with
  | none => exact Or.inl ⟨rfl, rfl⟩
  | some connection =>
    dsimp only
    by_cases may : (connection.socketActive && ! connection.socketConnected) = true
    · rw [if_pos may, if_pos may]
      refine Or.inr ⟨connection, rfl, ?_, rfl⟩
      unfold connected changeConnection
      rw [found]
    · rw [if_neg may, if_neg may]
      exact Or.inl ⟨rfl, rfl⟩

theorem Linked.join (linked : Linked state) (found : state.created.get? id = some connection) :
    Linked (joinPool state id connection) := by
  unfold joinPool
  split
  next => exact linked
  next number isPool =>
    refine ⟨linked.numbered, linked.apart, fun k other member => ?_, linked.owned, linked.drawn,
      fun other member => ?_⟩
    · rw [arrayAt_set state rfl rfl] at member
      split at member
      next same =>
        subst same
        rcases List.mem_append.mp member with old | new
        · exact linked.entered k other old
        · rw [List.mem_singleton.mp new]
          exact ⟨connection, found, isPool⟩
      next => exact linked.entered k other member
    · rcases OrderedSet.mem_add.mp member with rfl | old
      · exact ⟨connection, found⟩
      · exact linked.known other old

theorem join_agree_iff (linked : Linked state) (agree : Agree state)
    (found : state.created.get? id = some connection) (isPool : connection.pool = some number) :
    Agree (joinPool state id connection) ↔ HasRoom state id number connection.serviceName := by
  have joins : joinPool state id connection = { state with
      arrays := state.arrays.set number (arrayAt state number ++ [id])
      connections := state.connections.add id } := by
    unfold joinPool
    rw [isPool]
  have afterLinked := linked.join found
  have at_ : ∀ k, arrayAt (joinPool state id connection) k =
      if k = number then arrayAt state number ++ [id] else arrayAt state k := fun _ => by
    rw [joins]
    exact arrayAt_set state rfl rfl
  have pools : (joinPool state id connection).pools = state.pools := by rw [joins]
  have configs : ∀ poolName, configOf (joinPool state id connection) poolName =
      configOf state poolName := fun _ => by rw [joins]; rfl
  have mapped : ∀ other, other ∈ (joinPool state id connection).connections ↔
      other = id ∨ other ∈ state.connections := fun other => by
    rw [joins]
    exact OrderedSet.mem_add
  have created : (joinPool state id connection).created = state.created := by rw [joins]
  constructor
  · intro after
    obtain ⟨poolName, k, isK, entry⟩ := (after.mapped id).mpr ((mapped id).mpr (Or.inl rfl))
    obtain ⟨same, isSame, inK⟩ := afterLinked.entered k id entry
    rw [created, found] at isSame
    cases isSame
    obtain rfl : number = k := Option.some.inj (isPool.symm.trans inK)
    rw [pools] at isK
    obtain rfl := (linked.owned id connection number found isPool).2 poolName isK
    have once := after.once _ number (pools ▸ isK)
    have bound := after.bounded _ number (pools ▸ isK)
    rw [at_, if_pos rfl] at once bound
    rw [configs, List.length_append] at bound
    refine ⟨isK, fun inside => ?_, bound⟩
    exact (List.nodup_append.mp once).2.2 id inside id (List.mem_singleton.mpr rfl) rfl
  · rintro ⟨current, new, room⟩
    refine ⟨fun poolName k isK => ?_, fun poolName k isK => ?_, fun other => ?_⟩
    · rw [pools] at isK
      rw [at_, configs]
      split
      next same =>
        subst same
        obtain rfl := linked.apart _ poolName k current isK
        rw [List.length_append]
        exact room
      next => exact agree.bounded poolName k isK
    · rw [pools] at isK
      rw [at_]
      split
      next =>
        refine List.nodup_append.mpr ⟨agree.once _ number current, List.nodup_singleton _, ?_⟩
        intro a member b isId same
        exact new ((List.mem_singleton.mp isId) ▸ same ▸ member)
      next => exact agree.once poolName k isK
    · rw [mapped, ← agree.mapped other]
      unfold Held
      rw [pools]
      constructor
      · rintro ⟨poolName, k, isK, entry⟩
        rw [at_] at entry
        split at entry
        next same =>
          subst same
          rcases List.mem_append.mp entry with old | isId
          · exact Or.inr ⟨poolName, k, isK, old⟩
          · exact Or.inl (List.mem_singleton.mp isId)
        next => exact Or.inr ⟨poolName, k, isK, entry⟩
      · rintro (rfl | ⟨poolName, k, isK, entry⟩)
        · refine ⟨_, number, current, ?_⟩
          rw [at_, if_pos rfl]
          exact List.mem_append_right _ (List.mem_singleton.mpr rfl)
        · refine ⟨poolName, k, isK, ?_⟩
          rw [at_]
          split
          next same => exact List.mem_append_left _ (same ▸ entry)
          next => exact entry

theorem Agree.touches (agree : Agree state) (touches : Touches state after) : Agree after :=
  agree.congr touches.pools touches.arrays touches.configs touches.connections

theorem hasRoom_touches {number : Nat} {poolName : String} (touches : Touches state after) :
    HasRoom after id number poolName ↔ HasRoom state id number poolName := by
  unfold HasRoom arrayAt configOf
  rw [touches.pools, touches.arrays, touches.configs]

theorem connect_keeps (linked : Linked state) (id : Uuid) : Linked (connect state id) ∧
      (Agree state → (Agree (connect state id) ↔ Orderly state (.connect id))) := by
  rcases connect_eq state id with ⟨same, none⟩ | ⟨connection, found, isAfter, isJoined⟩
  · rw [same]
    refine ⟨linked, fun agree => iff_of_true agree fun joined member => ?_⟩
    rw [none] at member
    cases member
  · have touches := connected_touches state id
    have connectedLinked := linked.touches touches
    obtain ⟨now, isNow, samePool⟩ := touches.forwards id connection found
    have sameJoin : joinPool (connected state id) id connection = joinPool (connected state id) id now := by
      unfold joinPool
      rw [samePool]
    obtain ⟨old, isOld, _, sameService⟩ := touches.backwards id now isNow
    cases found.symm.trans isOld
    rw [isAfter, sameJoin]
    refine ⟨connectedLinked.join isNow, fun agree => ?_⟩
    have connectedAgree := agree.touches touches
    cases isPool : connection.pool with
    | none =>
      have nothing : joinPool (connected state id) id now = connected state id := by
        unfold joinPool
        rw [samePool, isPool]
      rw [nothing]
      refine iff_of_true connectedAgree fun joined member => ?_
      rw [isJoined, isPool] at member
      cases member
    | some number =>
      rw [join_agree_iff connectedLinked connectedAgree isNow (samePool.trans isPool),
        hasRoom_touches touches, sameService]
      constructor
      · intro room joined member
        rw [isJoined, isPool] at member
        cases member
        exact room
      · intro orderly
        exact orderly (number, connection.serviceName) (by rw [isJoined, isPool]; rfl)

/-! ## Every step -/

theorem dropped_touches (again : Bool) : Touches state (changeConnection state id (dropped again)) := by
  refine changeConnection_touches (fun connection => ?_) fun connection => ?_ <;>
    (unfold dropped; split <;> rfl)

theorem heartbeat_touches (now : Nat) : Touches state (changeConnection state id (heartbeat now)) := by
  refine changeConnection_touches (fun connection => ?_) fun connection => ?_ <;>
    (unfold heartbeat; split <;> rfl)

theorem timedOut_touches : Touches state (changeConnection state id timedOut) := by
  refine changeConnection_touches (fun connection => ?_) fun connection => ?_ <;>
    (unfold timedOut; split <;> rfl)

theorem release_touches : Touches state (release state id) := by
  unfold release
  split
  next => exact changeConnection_touches (fun _ => rfl) fun _ => rfl
  next => exact Touches.refl state

theorem tick_touches (ms : Nat) : Touches state { state with now := state.now + ms } :=
  ⟨rfl, rfl, rfl, rfl, rfl, rfl, (Touches.refl state).backwards, (Touches.refl state).forwards⟩

theorem step_keeps (linked : Linked state) (event : PoolEvent) :
    Linked (state.step event) ∧ (Agree state → (Agree (state.step event) ↔ Orderly state event)) := by
  have touched : ∀ {after : ConnectionPools}, Touches state after →
      Linked after ∧ (Agree state → Agree after) := fun touches =>
    ⟨linked.touches touches, fun agree => agree.touches touches⟩
  have always : ∀ {after : ConnectionPools}, Linked after ∧ (Agree state → Agree after) →
      Linked after ∧ (Agree state → (Agree after ↔ True)) := fun keeps =>
    ⟨keeps.1, fun agree => iff_of_true (keeps.2 agree) trivial⟩
  cases event with
  | initializePool poolName config =>
    exact ⟨initializePool_linked linked poolName config,
      fun agree => initializePool_agree_iff linked agree poolName config⟩
  | acquire poolName serviceUrl => exact always (acquire_keeps linked poolName serviceUrl)
  | resume i => exact always (resume_keeps linked i)
  | release id => exact always (touched release_touches)
  | disconnect id =>
    exact always ⟨linked.disconnect id, fun agree => agree.disconnect linked id⟩
  | cleanupStaleConnections => exact always (cleanup_keeps linked)
  | connect id => exact connect_keeps linked id
  | drop id again => exact always (touched (dropped_touches again))
  | heartbeat id => exact always (touched (heartbeat_touches state.now))
  | timeout id => exact always (touched timedOut_touches)
  | tick ms => exact always (touched (tick_touches ms))

end Changes

theorem linked_initial (now : Nat) : Linked (.initial now) where
  numbered _ _ found := by cases found
  apart _ _ _ found := by cases found
  entered _ _ member := by cases member
  owned _ _ _ found := by cases found
  drawn _ _ found := by cases found
  known _ member := by cases member

theorem agree_initial (now : Nat) : Agree (.initial now) where
  bounded _ _ found := by cases found
  once _ _ found := by cases found
  mapped id := by
    refine iff_of_false ?_ (OrderedSet.notMem_empty id)
    rintro ⟨_, _, found, _⟩
    cases found

theorem linked_throughout : ∀ (events : List PoolEvent) (state : ConnectionPools), Linked state →
    ∀ reached ∈ states ConnectionPools.step state events, Linked reached
  | [], state, linked, reached, member => by
    rw [List.mem_singleton.mp member]
    exact linked
  | event :: events, state, linked, reached, member => by
    rcases List.mem_cons.mp member with rfl | later
    · exact linked
    · exact linked_throughout events _ (step_keeps linked event).1 reached later

/-- In every sequence of events, the pools agree with the map, within their bounds and without
repetitions, in all states exactly when all steps are orderly. -/
theorem pools_agree_iff (now : Nat) (events : List PoolEvent) :
    (∀ reached ∈ states ConnectionPools.step (.initial now) events, Agree reached) ↔
      Meets ConnectionPools.step Orderly (.initial now) events := by
  have exactly : (∀ reached ∈ states ConnectionPools.step (.initial now) events,
      Linked reached ∧ Agree reached) ↔ Meets ConnectionPools.step Orderly (.initial now) events := by
    have each : ∀ (state : ConnectionPools) (event : PoolEvent), Linked state ∧ Agree state →
        (Linked (state.step event) ∧ Agree (state.step event) ↔ Orderly state event) := by
      intro state event both
      obtain ⟨linked, agreeIff⟩ := step_keeps both.1 event
      rw [and_iff_right linked]
      exact agreeIff both.2
    exact states_iff_meets each events _ ⟨linked_initial now, agree_initial now⟩
  rw [← exactly]
  have linked := linked_throughout events (.initial now) (linked_initial now)
  exact ⟨fun agree reached member => ⟨linked reached member, agree reached member⟩,
    fun both reached member => (both reached member).2⟩

/-! ## Two sockets -/

/-- Two acquisitions of a pool for one connection, before the first socket connects. -/
def twoAcquired : List PoolEvent :=
  [.initializePool "prices" ⟨some 1, none, none, none, none, none, none⟩,
    .acquire "prices" "wss://a", .acquire "prices" "wss://b", .connect 0, .connect 1]

/-- A socket connects again, and its connection is disconnected. -/
def connectedAgain : List PoolEvent :=
  [.initializePool "prices" ⟨none, none, none, none, none, none, none⟩, .acquire "prices" "wss://a",
    .connect 0, .drop 0 true, .connect 0, .disconnect 0]

def last (events : List PoolEvent) : ConnectionPools := events.foldl ConnectionPools.step (.initial 0)

/-- The pool has two entries of one; and it has a connection that the map does not hold. -/
theorem pools_disagree :
    (arrayAt (last twoAcquired) 0 = [0, 1] ∧ (configOf (last twoAcquired) "prices").maxConnections = 1 ∧
      ¬ ∀ reached ∈ states ConnectionPools.step (.initial 0) twoAcquired, Agree reached) ∧
    arrayAt (last (connectedAgain.take 5)) 0 = [0, 0] ∧ arrayAt (last connectedAgain) 0 = [0] ∧
      (last connectedAgain).connections.elements = [] := by
  refine ⟨⟨by decide +kernel, by decide +kernel, fun agree => ?_⟩, by decide +kernel, by decide +kernel,
    by decide +kernel⟩
  have reached : last twoAcquired ∈ states ConnectionPools.step (.initial 0) twoAcquired := by
    simp [states, twoAcquired, last]
  have bound := (agree _ reached).bounded "prices" 0 (by decide +kernel)
  exact absurd bound (by decide +kernel)

end AlianStructure.Guarantees.PoolAgreement
