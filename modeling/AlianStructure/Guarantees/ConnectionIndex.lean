import AlianStructure.Library.Trajectory
import AlianStructure.Source.Dashboard.ConnectionPoolService

/-!
# The index of the live connections by user

Source: src/dashboard/websocket/services/connection-manager.service.ts:24-120,210-225. The index
goes wrong at three calls: a live client is registered for another user, a disconnected client
sends a heartbeat, the last live client of a user disconnects.
-/
namespace AlianStructure.Guarantees.ConnectionIndex
open Library.InsertionOrder Library.Trajectory
open Source.Dashboard ConnectionManagerService

/-- The map holds the client, alive, with this user id. -/
def Live (connections : OrderedMap String ConnectionInfo) (clientId userId : String) : Prop :=
  ∃ info, connections.get? clientId = some info ∧ info.isAlive = true ∧ info.userId = userId

/-- The index lists the live clients of every user, and has no empty set. -/
structure Indexed (connections : OrderedMap String ConnectionInfo)
    (index : OrderedMap String (OrderedSet String)) : Prop where
  lists : ∀ clientId userId, clientId ∈ clientsOf index userId ↔ Live connections clientId userId
  nonempty : ∀ userId clients, index.get? userId = some clients → clients.size ≠ 0

abbrev Consistent (manager : ConnectionManager) : Prop :=
  Indexed manager.connections manager.userConnections

/-- The calls that do not put the index out of step with the connections. -/
def KeepsIndex (manager : ConnectionManager) : ConnectionCall → Prop
  | .registerConnection clientId info =>
    ∀ userId, Live manager.connections clientId userId → userId = info.userId
  | .updateHeartbeat clientId _ =>
    ∀ info, manager.connections.get? clientId = some info → info.isAlive = true
  | .markDisconnected clientId _ =>
    ∀ userId, Live manager.connections clientId userId →
      ∃ other, other ≠ clientId ∧ Live manager.connections other userId
  | _ => True

section Lemmas
variable {connections : OrderedMap String ConnectionInfo}
  {index : OrderedMap String (OrderedSet String)} {clientId userId : String}

variable {other : String}

theorem live_set {info : ConnectionInfo} : Live (connections.set clientId info) other userId ↔
      (other = clientId ∧ info.isAlive = true ∧ info.userId = userId) ∨
        (other ≠ clientId ∧ Live connections other userId) := by
  unfold Live
  rw [OrderedMap.get?_set]
  by_cases same : other = clientId <;> simp [same]

theorem live_delete : Live (connections.delete clientId) other userId ↔
      other ≠ clientId ∧ Live connections other userId := by
  unfold Live
  rw [OrderedMap.get?_delete]
  by_cases same : other = clientId <;> simp [same]

theorem live_iff {info : ConnectionInfo} (found : connections.get? clientId = some info) :
    Live connections clientId userId ↔ info.isAlive = true ∧ info.userId = userId := by
  simp [Live, found]

theorem not_live (absent : connections.get? clientId = none) : ¬ Live connections clientId userId := by
  simp [Live, absent]

theorem clientsOf_set {clients : OrderedSet String} : clientsOf (index.set userId clients) other =
      if other = userId then clients else clientsOf index other := by
  unfold clientsOf
  rw [OrderedMap.get?_set]
  split <;> rfl

theorem clientsOf_delete : clientsOf (index.delete userId) other =
      if other = userId then .empty else clientsOf index other := by
  unfold clientsOf
  rw [OrderedMap.get?_delete]
  split <;> rfl

theorem Indexed.congr {others : OrderedMap String ConnectionInfo}
    (same : ∀ clientId userId, Live others clientId userId ↔ Live connections clientId userId)
    (holds : Indexed connections index) : Indexed others index where
  lists clientId userId := (holds.lists clientId userId).trans (same clientId userId).symm
  nonempty := holds.nonempty

theorem mem_without {clients : OrderedSet String} (found : index.get? userId = some clients)
    (clientId other user : String) : other ∈ clientsOf (index.set userId (clients.delete clientId)) user ↔
      other ∈ clientsOf index user ∧ ¬ (user = userId ∧ other = clientId) := by
  rw [clientsOf_set]
  split
  next same =>
    subst same
    simp [clientsOf, found, OrderedSet.mem_delete]
  next differs => simp [differs]

end Lemmas

section Calls
variable {manager : ConnectionManager} {clientId : String} {info : ConnectionInfo}

theorem registerConnection_keeps (holds : Consistent manager) :
    Consistent (registerConnection manager clientId info) ↔
      KeepsIndex manager (.registerConnection clientId info) := by
  have nonempty : ∀ userId clients,
      (registerConnection manager clientId info).userConnections.get? userId = some clients →
        clients.size ≠ 0 := by
    intro userId clients found
    simp only [registerConnection, OrderedMap.get?_set] at found
    split at found
    next =>
      cases found
      intro none
      exact OrderedSet.size_eq_zero.mp none clientId (OrderedSet.mem_add.mpr (Or.inl rfl))
    next => exact holds.nonempty userId clients found
  have listed : ∀ other userId,
      other ∈ clientsOf (registerConnection manager clientId info).userConnections userId ↔
        (userId = info.userId ∧ other = clientId) ∨ Live manager.connections other userId := by
    intro other userId
    rw [← holds.lists]
    simp only [registerConnection, clientsOf_set]
    split
    next same =>
      subst same
      rw [OrderedSet.mem_add, and_iff_right rfl]
    next differs => simp [differs]
  constructor
  · intro consistent userId live
    have stale := (listed clientId userId).mpr (Or.inr live)
    rcases live_set.mp ((consistent.lists clientId userId).mp stale) with ⟨_, _, same⟩ | ⟨other, _⟩
    · exact same.symm
    · exact absurd rfl other
  · refine fun keeps => ⟨fun other userId => (listed other userId).trans ?_, nonempty⟩
    refine Iff.trans ?_ live_set.symm
    by_cases same : other = clientId
    · subst same
      constructor
      · rintro (⟨rfl, _⟩ | live)
        · exact Or.inl ⟨rfl, rfl, rfl⟩
        · exact Or.inl ⟨rfl, rfl, (keeps userId live).symm⟩
      · rintro (⟨_, _, rfl⟩ | ⟨differs, _⟩)
        · exact Or.inl ⟨rfl, rfl⟩
        · exact absurd rfl differs
    · simp [same]

theorem updateHeartbeat_keeps {now : Int} (holds : Consistent manager) :
    Consistent (updateHeartbeat manager clientId now) ↔ KeepsIndex manager (.updateHeartbeat clientId now) := by
  unfold updateHeartbeat
  split
  next absent => exact iff_of_true holds fun info found => absurd (absent.symm.trans found) nofun
  next info found =>
    constructor
    · intro consistent other isOther
      cases found.symm.trans isOther
      have live : Live (manager.connections.set clientId
          { info with lastHeartbeat := now, isAlive := true }) clientId info.userId :=
        live_set.mpr (Or.inl ⟨rfl, rfl, rfl⟩)
      have wasLive := (holds.lists _ _).mp ((consistent.lists _ _).mpr live)
      exact ((live_iff found).mp wasLive).1
    · intro keeps
      refine holds.congr fun other userId => live_set.trans ?_
      by_cases same : other = clientId
      · subst same
        simp [live_iff found, keeps info found]
      · simp [same]

theorem lists_unlisted {index : OrderedMap String (OrderedSet String)}
    {connections : OrderedMap String ConnectionInfo} (holds : Consistent manager)
    (found : manager.connections.get? clientId = some info)
    (unlists : ∀ other userId, other ∈ clientsOf index userId ↔ other ∈ clientsOf manager.userConnections userId ∧
        ¬ (userId = info.userId ∧ other = clientId)) (drops : ∀ other userId, Live connections other userId ↔
      other ≠ clientId ∧ Live manager.connections other userId) (other userId : String) :
    other ∈ clientsOf index userId ↔ Live connections other userId := by
  rw [unlists, holds.lists, drops, and_comm]
  refine and_congr_left fun live => not_congr ?_
  constructor
  · rintro ⟨_, rfl⟩
    rfl
  · rintro rfl
    exact ⟨((live_iff found).mp live).2.symm, rfl⟩

theorem markDisconnected_keeps {now : Int} (holds : Consistent manager) :
    Consistent (markDisconnected manager clientId now) ↔ KeepsIndex manager (.markDisconnected clientId now) := by
  unfold markDisconnected
  split
  next absent => exact iff_of_true holds fun userId live => absurd live (not_live absent)
  next info found =>
    have drops : ∀ other userId,
        Live (manager.connections.set clientId { info with isAlive := false }) other userId ↔
          other ≠ clientId ∧ Live manager.connections other userId := by
      intro other userId
      simp [live_set]
    cases listed : manager.userConnections.get? info.userId with
    | none =>
      have dead : ∀ userId, ¬ Live manager.connections clientId userId := by
        intro userId live
        have same := ((live_iff found).mp live).2
        have member := (holds.lists _ _).mpr live
        rw [← same, clientsOf, listed] at member
        exact OrderedSet.notMem_empty _ member
      refine iff_of_true ?_ fun userId live => absurd live (dead userId)
      refine holds.congr fun other userId => (drops other userId).trans (and_iff_right_of_imp ?_)
      rintro live rfl
      exact dead userId live
    | some clients =>
      have lists := lists_unlisted holds found
        (mem_without listed clientId) drops
      constructor
      · intro consistent userId live
        have same := ((live_iff found).mp live).2
        have some_left := consistent.nonempty info.userId (clients.delete clientId)
          (OrderedMap.get?_set_self _ _ _)
        obtain ⟨other, member⟩ := not_forall_not.mp fun none =>
          some_left (OrderedSet.size_eq_zero.mpr none)
        obtain ⟨member, differs⟩ := OrderedSet.mem_delete.mp member
        refine ⟨other, differs, (holds.lists _ _).mp ?_⟩
        rw [← same, clientsOf, listed]
        exact member
      · refine fun keeps => ⟨lists, fun userId others isOthers none => ?_⟩
        rw [OrderedMap.get?_set] at isOthers
        split at isOthers
        next same =>
          cases isOthers
          have wasListed : ∀ other, other ∈ clients ↔ Live manager.connections other info.userId := by
            intro other
            rw [← holds.lists, clientsOf, listed]
            rfl
          obtain ⟨first, member⟩ := not_forall_not.mp fun none =>
            holds.nonempty info.userId clients listed (OrderedSet.size_eq_zero.mpr none)
          obtain ⟨other, differs, live⟩ : ∃ other, other ≠ clientId ∧
              Live manager.connections other info.userId := by
            by_cases here : first = clientId
            · subst here
              exact keeps info.userId ((wasListed first).mp member)
            · exact ⟨first, here, (wasListed first).mp member⟩
          exact OrderedSet.size_eq_zero.mp none other
            (OrderedSet.mem_delete.mpr ⟨(wasListed other).mpr live, differs⟩)
        next => exact holds.nonempty userId others isOthers none

theorem removeConnection_keeps (holds : Consistent manager) : Consistent (removeConnection manager clientId) := by
  unfold removeConnection
  split
  next => exact holds
  next info found =>
    cases listed : manager.userConnections.get? info.userId with
    | none =>
      refine holds.congr fun other userId => live_delete.trans (and_iff_right_of_imp ?_)
      rintro live rfl
      have same := ((live_iff found).mp live).2
      have member := (holds.lists _ _).mpr live
      rw [← same, clientsOf, listed] at member
      exact OrderedSet.notMem_empty _ member
    | some clients =>
      have unlists := mem_without listed clientId
      dsimp only
      split
      next none =>
        refine ⟨lists_unlisted holds found (fun other userId => ?_) fun _ _ => live_delete, ?_⟩
        · rw [← unlists, clientsOf_set, clientsOf_delete]
          split
          next => exact iff_of_false (OrderedSet.notMem_empty _) (OrderedSet.size_eq_zero.mp none _)
          next => rfl
        · intro userId others isOthers
          rw [OrderedMap.get?_delete] at isOthers
          split at isOthers
          next => cases isOthers
          next => exact holds.nonempty userId others isOthers
      next some_left =>
        refine ⟨lists_unlisted holds found unlists fun _ _ => live_delete, ?_⟩
        intro userId others isOthers
        rw [OrderedMap.get?_set] at isOthers
        split at isOthers
        next =>
          cases isOthers
          exact some_left
        next => exact holds.nonempty userId others isOthers

theorem removeAll_keeps : ∀ (clientIds : List String) {manager : ConnectionManager},
    Consistent manager → Consistent (clientIds.foldl removeConnection manager)
  | [], _, holds => holds
  | _ :: rest, _, holds => removeAll_keeps rest (removeConnection_keeps holds)

theorem subscriptions_keep {subscriptions : List String} (holds : Consistent manager)
    (found : manager.connections.get? clientId = some info) :
    Indexed (manager.connections.set clientId { info with subscriptions := subscriptions })
      manager.userConnections := by
  refine holds.congr fun other userId => live_set.trans ?_
  by_cases same : other = clientId
  · subst same
    simp [live_iff found]
  · simp [same]

theorem subscribeToPortfolio_keeps {portfolioId : String} (holds : Consistent manager) :
    Consistent (subscribeToPortfolio manager clientId portfolioId) := by
  unfold subscribeToPortfolio
  split
  next => exact holds
  next info found =>
    split
    next => exact holds
    next => exact subscriptions_keep holds found

theorem unsubscribeFromPortfolio_keeps {portfolioId : String} (holds : Consistent manager) :
    Consistent (unsubscribeFromPortfolio manager clientId portfolioId) := by
  unfold unsubscribeFromPortfolio
  split
  next => exact holds
  next info found => exact subscriptions_keep holds found

/-- Every call keeps the index of a consistent manager exactly when it is of the ones that do. -/
theorem after_keeps (manager : ConnectionManager) (call : ConnectionCall)
    (holds : Consistent manager) : Consistent (manager.after call) ↔ KeepsIndex manager call := by
  cases call with
  | registerConnection clientId info => exact registerConnection_keeps holds
  | updateHeartbeat clientId now => exact updateHeartbeat_keeps holds
  | markDisconnected clientId now => exact markDisconnected_keeps holds
  | removeConnection clientId => exact iff_of_true (removeConnection_keeps holds) trivial
  | cleanupInactiveConnections maxAgeMs now => exact iff_of_true (removeAll_keeps _ holds) trivial
  | subscribeToPortfolio clientId portfolioId =>
    exact iff_of_true (subscribeToPortfolio_keeps holds) trivial
  | unsubscribeFromPortfolio clientId portfolioId =>
    exact iff_of_true (unsubscribeFromPortfolio_keeps holds) trivial

end Calls

theorem initial_consistent : Consistent initial where
  lists _ _ := iff_of_false (OrderedSet.notMem_empty _) (not_live rfl)
  nonempty _ _ found := by cases found

/-- In a run of any calls, every state reached has a consistent index exactly when every call is
one that keeps the index. -/
theorem connection_index_iff (calls : List ConnectionCall) :
    (∀ manager ∈ states ConnectionManager.after initial calls, Consistent manager) ↔
      Meets ConnectionManager.after KeepsIndex initial calls :=
  states_iff_meets after_keeps calls initial initial_consistent

def sampleConnection (userId : String) : ConnectionInfo := ⟨userId, 0, true, []⟩

/-- The only client of a user disconnects; a late heartbeat follows. -/
def lateHeartbeat : List ConnectionCall :=
  [.registerConnection "c" (sampleConnection "u"), .markDisconnected "c" 1, .updateHeartbeat "c" 2]

/-- The client is alive and not listed, and the empty set of its user is still there. -/
theorem index_loses_live_client :
    let manager := lateHeartbeat.foldl ConnectionManager.after initial
    Live manager.connections "c" "u" ∧ "c" ∉ clientsOf manager.userConnections "u" ∧
      (manager.userConnections.get? "u").map (·.size) = some 0 ∧
      ¬ ∀ reached ∈ states ConnectionManager.after initial lateHeartbeat, Consistent reached := by
  have notListed : "c" ∉ clientsOf (lateHeartbeat.foldl ConnectionManager.after
      initial).userConnections "u" := by decide
  have live : Live (lateHeartbeat.foldl ConnectionManager.after initial).connections "c" "u" :=
    ⟨⟨"u", 2, true, []⟩, by decide, rfl, rfl⟩
  refine ⟨live, notListed, by decide, fun all => ?_⟩
  have consistent : Consistent (lateHeartbeat.foldl ConnectionManager.after initial) :=
    all _ (by simp [lateHeartbeat, states])
  exact notListed ((consistent.lists "c" "u").mpr live)

end AlianStructure.Guarantees.ConnectionIndex
