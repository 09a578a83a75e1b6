import AlianStructure.Library.Trajectory
import AlianStructure.Source.Dashboard.DashboardClientService

/-!
# The dashboard client comes back

Source: src/dashboard/websocket/services/dashboard-client.service.ts:80-305,441-465. A client that was asked to
connect and reconnects by itself is connected, has an attempt in flight or a timer pending, with one heartbeat
and one timer at most, in all states of a run exactly when no socket is created over a heartbeat, and when a
connection is lost or an attempt fails only while a reconnection can be started.
-/
namespace AlianStructure.Guarantees.ClientReconnection
open Library.Trajectory Source.Dashboard DashboardClientService

def inFlight (client : DashboardClient) : Bool := (currentSocket client).any (·.connecting)

/-- The client is connected or on its way, with one heartbeat and one timer at most. -/
structure Sound (client : DashboardClient) : Prop where
  alive : client.config.autoReconnect = true → client.wanted = true →
    isConnected client = true ∨ inFlight client = true ∨ client.timers ≠ []
  heartbeats : client.intervals.length ≤ 1
  timers : client.timers.length ≤ 1

/-- A reconnection goes on, or none does and none is scheduled. -/
def Startable (client : DashboardClient) : Prop :=
  if client.isReconnecting then client.timers ≠ [] else client.timers = []

/-- No socket is created over a heartbeat, a connection is lost or an attempt fails only while a reconnection
can be started, and a timer fires only when the client is on its way or can go. -/
def Orderly (client : DashboardClient) : ClientEvent → Prop
  | .connect true _ => isConnected client = true ∨ client.intervals = []
  | .connect false _ => isConnected client = true ∨ client.config.autoReconnect = false ∨
      client.isReconnecting = true ∧ inFlight client = true ∨ Startable client
  | .reconnect creates _ => creates = true → client.intervals = []
  | .socketDisconnects i reason _ => (client.sockets[i]?).any (·.connected) = true →
      reason ≠ .ioClientDisconnect → client.config.autoReconnect = true → Startable client
  | .socketFails i _ => (client.sockets[i]?).any (·.connecting) = true →
      client.config.autoReconnect = true → Startable client
  | .timerFires id _ _ => client.timers.any (·.id = id) = true →
      isConnected client = true ∨ inFlight client = true ∨
        client.socket ≠ none ∧ client.config.token ≠ ""
  | _ => True

/-- What holds of the sockets and the timers besides. -/
structure Linked (client : DashboardClient) : Prop where
  counted : client.intervals.length = client.sockets.length
  inside : ∀ i, client.socket = some i → i < client.sockets.length ∧ client.wanted = true
  silent : client.socket = none → ∀ socket ∈ client.sockets,
    socket.connected = false ∧ socket.connecting = false
  tracked : ∀ timer ∈ client.timers, client.reconnectTimer = some timer.id
  active : client.timers ≠ [] → client.config.autoReconnect = true ∧ client.wanted = true

/-! ## Steps that change neither sockets nor timers -/

def link (socket : ClientSocket) : Bool × Bool := (socket.connected, socket.connecting)

structure Alike (before after : DashboardClient) : Prop where
  autoReconnect : after.config.autoReconnect = before.config.autoReconnect
  links : after.sockets.map link = before.sockets.map link
  socket : after.socket = before.socket
  reconnectTimer : after.reconnectTimer = before.reconnectTimer
  timers : after.timers = before.timers
  intervals : after.intervals = before.intervals
  wanted : after.wanted = before.wanted

variable {client after : DashboardClient}

theorem isConnected_eq (client : DashboardClient) :
    isConnected client = (client.socket.bind ((client.sockets.map link)[·]?)).any (·.1) := by
  unfold isConnected currentSocket
  cases client.socket with
  | none => rfl
  | some i =>
    simp only [Option.bind_some, List.getElem?_map]
    cases client.sockets[i]? <;> rfl

theorem inFlight_eq (client : DashboardClient) :
    inFlight client = (client.socket.bind ((client.sockets.map link)[·]?)).any (·.2) := by
  unfold inFlight currentSocket
  cases client.socket with
  | none => rfl
  | some i =>
    simp only [Option.bind_some, List.getElem?_map]
    cases client.sockets[i]? <;> rfl

theorem Alike.sound_iff (alike : Alike client after) : Sound after ↔ Sound client := by
  have connected : isConnected after = isConnected client := by
    rw [isConnected_eq, isConnected_eq, alike.socket, alike.links]
  have flying : inFlight after = inFlight client := by
    rw [inFlight_eq, inFlight_eq, alike.socket, alike.links]
  constructor <;> intro sound
  · have alive := sound.alive
    rw [alike.autoReconnect, alike.wanted, connected, flying, alike.timers] at alive
    exact ⟨alive, alike.intervals ▸ sound.heartbeats, alike.timers ▸ sound.timers⟩
  · refine ⟨?_, alike.intervals ▸ sound.heartbeats, alike.timers ▸ sound.timers⟩
    rw [alike.autoReconnect, alike.wanted, connected, flying, alike.timers]
    exact sound.alive

theorem Alike.linked (alike : Alike client after) (linked : Linked client) : Linked after := by
  have length : after.sockets.length = client.sockets.length := by
    rw [← List.length_map link, alike.links, List.length_map]
  refine ⟨by rw [alike.intervals, length]; exact linked.counted, fun i here => ?_, fun nothing socket member => ?_,
    ?_, ?_⟩
  · rw [length, alike.wanted]
    exact linked.inside i (alike.socket ▸ here)
  · have isLink : link socket ∈ client.sockets.map link := alike.links ▸ List.mem_map_of_mem member
    obtain ⟨old, isOld, same⟩ := List.mem_map.mp isLink
    obtain ⟨connected, connecting⟩ := linked.silent (alike.socket ▸ nothing) old isOld
    exact ⟨(congrArg Prod.fst same).symm.trans connected, (congrArg Prod.snd same).symm.trans connecting⟩
  · rw [alike.timers, alike.reconnectTimer]
    exact linked.tracked
  · rw [alike.timers, alike.autoReconnect, alike.wanted]
    exact linked.active

theorem alike_refl (client : DashboardClient) : Alike client client := ⟨rfl, rfl, rfl, rfl, rfl, rfl, rfl⟩

theorem changeSocket_alike (client : DashboardClient) (i : Nat) (change : ClientSocket → ClientSocket)
    (same : ∀ socket, link (change socket) = link socket) : Alike client (changeSocket client i change) := by
  refine ⟨rfl, List.ext_getElem? fun j => ?_, rfl, rfl, rfl, rfl, rfl⟩
  simp only [changeSocket, List.getElem?_map, List.getElem?_modify]
  split
  next => cases client.sockets[j]? <;> simp [same]
  next => cases client.sockets[j]? <;> rfl

theorem emit_alike (client : DashboardClient) (message : ClientMessage) : Alike client (emit client message) := by
  unfold emit
  split
  next => exact alike_refl client
  next i _ => exact changeSocket_alike client i _ fun _ => rfl

theorem sendHeartbeat_alike (client : DashboardClient) : Alike client (sendHeartbeat client) := by
  unfold sendHeartbeat
  split
  next => exact emit_alike client _
  next => exact alike_refl client

theorem requestEventReplay_alike (client : DashboardClient) : Alike client (requestEventReplay client) := by
  unfold requestEventReplay
  split
  next =>
    dsimp only
    split
    next since _ =>
      have asked := emit_alike client (.replayEvents since)
      exact ⟨asked.autoReconnect, asked.links, asked.socket, asked.reconnectTimer, asked.timers, asked.intervals,
        asked.wanted⟩
    next => exact ⟨rfl, rfl, rfl, rfl, rfl, rfl, rfl⟩
  next => exact alike_refl client

theorem subscribePortfolio_alike (client : DashboardClient) (portfolioId : String) :
    Alike client (subscribePortfolio client portfolioId) := by
  unfold subscribePortfolio
  split
  next => exact emit_alike client _
  next => exact ⟨rfl, rfl, rfl, rfl, rfl, rfl, rfl⟩

theorem updateToken_alike (client : DashboardClient) (token : String) : Alike client (updateToken client token) := by
  unfold updateToken
  dsimp only
  split
  next => exact ⟨rfl, rfl, rfl, rfl, rfl, rfl, rfl⟩
  next i _ =>
    have changed := changeSocket_alike client i (fun socket => { socket with token }) fun _ => rfl
    exact ⟨rfl, changed.links, rfl, rfl, rfl, rfl, rfl⟩

/-! ## The start of a reconnection -/

/-- A timer is set and nothing else that matters changes. -/
structure Schedules (before after : DashboardClient) : Prop where
  config : after.config = before.config
  sockets : after.sockets = before.sockets
  socket : after.socket = before.socket
  intervals : after.intervals = before.intervals
  wanted : after.wanted = before.wanted
  timer : ∃ timer, after.timers = before.timers ++ [timer] ∧ after.reconnectTimer = some timer.id

theorem scheduleReconnect_schedules (client : DashboardClient) (auto : client.config.autoReconnect = true)
    (random : ℚ) : Schedules client (scheduleReconnect client random) := by
  unfold scheduleReconnect
  rw [if_pos auto]
  exact ⟨rfl, rfl, rfl, rfl, rfl, _, rfl, rfl⟩

theorem startReconnection_schedules (auto : client.config.autoReconnect = true)
    (idle : client.isReconnecting = false) (random : ℚ) : Schedules client (startReconnection client random) := by
  unfold startReconnection
  rw [if_neg (by rw [idle]; exact Bool.false_ne_true)]
  obtain ⟨config, sockets, socket, intervals, wanted, timer⟩ :=
    scheduleReconnect_schedules (setStatus { client with isReconnecting := true } .reconnecting) auto random
  exact ⟨config, sockets, socket, intervals, wanted, timer⟩

theorem Schedules.sound_iff (schedules : Schedules client after) (heartbeats : client.intervals.length ≤ 1) :
    Sound after ↔ client.timers = [] := by
  obtain ⟨timer, timers, _⟩ := schedules.timer
  constructor
  · intro sound
    have bound := sound.timers
    rw [timers, List.length_append, List.length_singleton] at bound
    exact List.eq_nil_of_length_eq_zero (by omega)
  · intro none
    refine ⟨fun _ _ => Or.inr (Or.inr ?_), schedules.intervals ▸ heartbeats, ?_⟩ <;> rw [timers]
    · exact List.append_ne_nil_of_right_ne_nil _ (List.cons_ne_nil _ _)
    · rw [none]
      exact Nat.le_refl 1

theorem Schedules.linked (schedules : Schedules client after) (linked : Linked client)
    (auto : client.config.autoReconnect = true) (wanted : client.wanted = true)
    (nothing : client.timers = []) : Linked after := by
  obtain ⟨timer, timers, tracked⟩ := schedules.timer
  rw [nothing, List.nil_append] at timers
  refine ⟨?_, ?_, ?_, fun other member => ?_, fun _ => ?_⟩
  · rw [schedules.intervals, schedules.sockets]
    exact linked.counted
  · rw [schedules.socket, schedules.sockets, schedules.wanted]
    exact linked.inside
  · rw [schedules.socket, schedules.sockets]
    exact linked.silent
  · rw [timers, List.mem_singleton] at member
    rw [member]
    exact tracked
  · rw [schedules.config, schedules.wanted]
    exact ⟨auto, wanted⟩

theorem started_sound_iff (apart : isConnected client = false) (auto : client.config.autoReconnect = true)
    (wanted : client.wanted = true) (heartbeats : client.intervals.length ≤ 1)
    (timers : client.timers.length ≤ 1) (random : ℚ) : Sound (startReconnection client random) ↔
      client.isReconnecting = true ∧ inFlight client = true ∨ Startable client := by
  unfold Startable
  split
  next going =>
    have same : startReconnection client random = client := if_pos going
    rw [same, and_iff_right going]
    constructor
    · intro sound
      exact (sound.alive auto wanted).resolve_left (by rw [apart]; exact Bool.false_ne_true)
    · exact fun goesOn => ⟨fun _ _ => goesOn.elim (fun flying => Or.inr (Or.inl flying))
        fun pending => Or.inr (Or.inr pending), heartbeats, timers⟩
  next idle =>
    rw [or_iff_right fun both => idle both.1]
    exact (startReconnection_schedules auto (Bool.eq_false_iff.mpr idle) random).sound_iff heartbeats

theorem started_linked (linked : Linked client) (auto : client.config.autoReconnect = true)
    (wanted : client.wanted = true) (heartbeats : client.intervals.length ≤ 1) (random : ℚ)
    (sound : Sound (startReconnection client random)) : Linked (startReconnection client random) := by
  cases going : client.isReconnecting with
  | true =>
    have same : startReconnection client random = client := if_pos going
    rw [same]
    exact linked
  | false =>
    have schedules := startReconnection_schedules auto going random
    exact schedules.linked linked auto wanted ((schedules.sound_iff heartbeats).mp sound)

/-! ## The one socket -/

theorem socket_of_live (linked : Linked client) (sound : Sound client) {i : Nat} {socket : ClientSocket}
    (found : client.sockets[i]? = some socket) (live : socket.connected = true ∨ socket.connecting = true) :
    client.socket = some i := by
  have bound := sound.heartbeats
  rw [linked.counted] at bound
  have inside := (List.getElem?_eq_some_iff.mp found).1
  cases current : client.socket with
  | none =>
    obtain ⟨connected, connecting⟩ := linked.silent current socket (List.mem_of_getElem? found)
    rcases live with is | is
    · rw [connected] at is
      cases is
    · rw [connecting] at is
      cases is
  | some j =>
    have within := (linked.inside j current).1
    exact congrArg some (by omega)

theorem Linked.change (linked : Linked client) {i : Nat} (current : client.socket = some i)
    (change : ClientSocket → ClientSocket) : Linked (changeSocket client i change) := by
  have length : (client.sockets.modify i change).length = client.sockets.length := List.length_modify ..
  refine ⟨linked.counted.trans length.symm, fun j here => ?_, fun nothing => ?_, linked.tracked, linked.active⟩
  · refine ⟨?_, (linked.inside j here).2⟩
    exact length.symm ▸ (linked.inside j here).1
  · exact absurd (current.symm.trans nothing) nofun

theorem currentSocket_change {i : Nat} {socket : ClientSocket} (current : client.socket = some i)
    (found : client.sockets[i]? = some socket) (change : ClientSocket → ClientSocket) :
    currentSocket (changeSocket client i change) = some (change socket) := by
  unfold currentSocket changeSocket
  rw [current]
  simp [found]

/-! ## Steps -/

theorem closed_iff (linked : Linked client) (sound : Sound client) {i : Nat} {socket : ClientSocket}
    (found : client.sockets[i]? = some socket) (live : socket.connected = true ∨ socket.connecting = true)
    {noted : DashboardClient} (alike : Alike (changeSocket client i closeSocket) noted)
    (same : noted.isReconnecting = client.isReconnecting) (random : ℚ)
    (goes : after = if client.config.autoReconnect then startReconnection noted random else noted) :
    (Sound after ↔ (client.config.autoReconnect = true → Startable client)) ∧ (Sound after → Linked after) := by
  have current := socket_of_live linked sound found live
  have changed := currentSocket_change current found closeSocket
  have keeps : Linked noted := alike.linked (linked.change current closeSocket)
  have apart : isConnected noted = false := by
    rw [isConnected_eq, alike.socket, alike.links, ← isConnected_eq]
    unfold isConnected
    rw [changed]
    rfl
  have still : inFlight noted = false := by
    rw [inFlight_eq, alike.socket, alike.links, ← inFlight_eq]
    unfold inFlight
    rw [changed]
    rfl
  have wanted : noted.wanted = true := alike.wanted.trans (linked.inside i current).2
  have heartbeats : noted.intervals.length ≤ 1 := alike.intervals ▸ sound.heartbeats
  have timers : noted.timers.length ≤ 1 := alike.timers ▸ sound.timers
  subst goes
  split
  next auto =>
    have autoToo : noted.config.autoReconnect = true := alike.autoReconnect.trans auto
    refine ⟨?_, started_linked keeps autoToo wanted heartbeats random⟩
    rw [started_sound_iff apart autoToo wanted heartbeats timers random, still]
    unfold Startable
    have timersToo : noted.timers = client.timers := alike.timers
    rw [same, timersToo]
    exact ⟨fun starts _ => starts.resolve_left fun both => Bool.false_ne_true both.2,
      fun starts => Or.inr (starts auto)⟩
  next manual =>
    refine ⟨iff_of_true ⟨fun auto => ?_, heartbeats, timers⟩ fun auto => absurd auto manual, fun _ => keeps⟩
    exact absurd (alike.autoReconnect.symm.trans auto) manual

theorem any_eq_some {socket? : Option ClientSocket} {test : ClientSocket → Bool} (holds : socket?.any test = true) :
    ∃ socket, socket? = some socket ∧ test socket = true := by
  cases socket? with
  | none => cases holds
  | some socket => exact ⟨socket, rfl, holds⟩

theorem socketDisconnects_iff (linked : Linked client) (sound : Sound client) (i : Nat)
    (reason : DisconnectReason) (random : ℚ) :
    (Sound (socketDisconnects client i reason random) ↔ Orderly client (.socketDisconnects i reason random)) ∧
      (Sound (socketDisconnects client i reason random) → Linked (socketDisconnects client i reason random)) := by
  unfold socketDisconnects
  split
  next lost =>
    obtain ⟨connected, other⟩ := lost
    obtain ⟨socket, found, live⟩ := any_eq_some connected
    let closed := changeSocket client i closeSocket
    let noted : DashboardClient := { closed with
      connectionState := { closed.connectionState with
        status := .disconnected, lastDisconnected := some closed.now } }
    have goes : handleDisconnect closed reason random =
        if client.config.autoReconnect then startReconnection noted random else noted := by
      by_cases auto : client.config.autoReconnect = true
      · exact (if_pos ⟨other, auto⟩).trans (if_pos auto).symm
      · exact (if_neg fun both => auto both.2).trans (if_neg auto).symm
    have alike : Alike closed noted := ⟨rfl, rfl, rfl, rfl, rfl, rfl, rfl⟩
    obtain ⟨soundIff, keeps⟩ := closed_iff linked sound found (Or.inl live) alike rfl random goes
    exact ⟨soundIff.trans ⟨fun starts _ _ => starts, fun orderly => orderly connected other⟩, keeps⟩
  next unmoved =>
    exact ⟨iff_of_true sound fun connected other => absurd ⟨connected, other⟩ unmoved, fun _ => linked⟩

theorem socketFails_iff (linked : Linked client) (sound : Sound client) (i : Nat) (random : ℚ) :
    (Sound (socketFails client i random) ↔ Orderly client (.socketFails i random)) ∧
      (Sound (socketFails client i random) → Linked (socketFails client i random)) := by
  unfold socketFails
  split
  next connecting =>
    obtain ⟨socket, found, live⟩ := any_eq_some connecting
    let closed := changeSocket client i closeSocket
    have goes : handleConnectError closed random =
        if client.config.autoReconnect then startReconnection (setStatus closed .disconnected) random
        else setStatus closed .disconnected := by
      unfold handleConnectError handleConnectionFailure
      by_cases auto : client.config.autoReconnect = true
      · exact (if_pos auto).trans ((if_pos auto).trans (if_pos auto).symm)
      · exact (if_neg auto).trans (if_neg auto).symm
    have alike : Alike closed (setStatus closed .disconnected) := ⟨rfl, rfl, rfl, rfl, rfl, rfl, rfl⟩
    obtain ⟨soundIff, keeps⟩ := closed_iff linked sound found (Or.inr live) alike rfl random goes
    exact ⟨soundIff.trans ⟨fun starts _ => starts, fun orderly => orderly connecting⟩, keeps⟩
  next unmoved => exact ⟨iff_of_true sound fun connecting => absurd connecting unmoved, fun _ => linked⟩

theorem socketConnects_iff (linked : Linked client) (sound : Sound client) (i : Nat) :
    (Sound (socketConnects client i) ↔ Orderly client (.socketConnects i)) ∧
      (Sound (socketConnects client i) → Linked (socketConnects client i)) := by
  unfold socketConnects
  split
  next connecting =>
    obtain ⟨socket, found, live⟩ := any_eq_some connecting
    have current := socket_of_live linked sound found (Or.inr live)
    let opened := changeSocket client i fun socket => { socket with connected := true, connecting := false }
    have keeps : Linked opened := linked.change current _
    have open_ : Sound opened := by
      refine ⟨fun _ _ => Or.inl ?_, sound.heartbeats, sound.timers⟩
      unfold isConnected
      rw [currentSocket_change current found]
      rfl
    have alike : Alike opened (handleConnect opened) := by
      have replayed := requestEventReplay_alike { opened with
        connectionState := { opened.connectionState with
          status := .connected, lastConnected := some opened.now }
        reconnectAttempts := 0
        currentReconnectDelay := orDefault opened.config.baseReconnectDelay 1000
        isReconnecting := false }
      exact ⟨replayed.autoReconnect, replayed.links, replayed.socket, replayed.reconnectTimer, replayed.timers,
        replayed.intervals, replayed.wanted⟩
    exact ⟨iff_of_true (alike.sound_iff.mpr open_) trivial, fun _ => alike.linked keeps⟩
  next => exact ⟨iff_of_true sound trivial, fun _ => linked⟩

theorem Linked.asked (linked : Linked client) : Linked { client with wanted := true } :=
  ⟨linked.counted, fun i here => ⟨(linked.inside i here).1, rfl⟩, linked.silent, linked.tracked,
    fun pending => ⟨(linked.active pending).1, rfl⟩⟩

theorem connect_iff (linked : Linked client) (sound : Sound client) (creates : Bool) (random : ℚ) :
    (Sound (connect client creates random) ↔ Orderly client (.connect creates random)) ∧
      (Sound (connect client creates random) → Linked (connect client creates random)) := by
  let asked : DashboardClient := { client with wanted := true }
  have keeps : Linked asked := linked.asked
  cases connected : isConnected client with
  | true =>
    have same : connect client creates random = asked := if_pos connected
    have soundToo : Sound asked := ⟨fun _ _ => Or.inl connected, sound.heartbeats, sound.timers⟩
    rw [same]
    exact ⟨iff_of_true soundToo (by cases creates <;> exact Or.inl connected), fun _ => keeps⟩
  | false =>
    have apart : ¬ isConnected client = true := Bool.eq_false_iff.mp connected
    cases creates with
    | true =>
      have goes : connect client true random = startHeartbeat { setStatus asked .connecting with
          sockets := client.sockets ++ [newSocket client], socket := some client.sockets.length } :=
        (if_neg apart).trans (if_pos rfl)
      rw [goes]
      have flying : inFlight (startHeartbeat { setStatus asked .connecting with
          sockets := client.sockets ++ [newSocket client], socket := some client.sockets.length }) = true := by
        unfold inFlight currentSocket startHeartbeat
        simp [newSocket]
      refine ⟨⟨fun after => Or.inr ?_, fun orderly => ⟨fun _ _ => Or.inr (Or.inl flying), ?_, sound.timers⟩⟩,
        fun _ => ⟨?_, fun i here => ?_, nofun, linked.tracked, keeps.active⟩⟩
      · have bound := after.heartbeats
        simp only [startHeartbeat, setStatus, asked, List.length_append, List.length_singleton] at bound
        exact List.eq_nil_of_length_eq_zero (by omega)
      · have none := orderly.resolve_left apart
        simp [startHeartbeat, setStatus, asked, none]
      · simp [startHeartbeat, setStatus, asked, linked.counted]
      · cases here
        simp [startHeartbeat, setStatus, asked]
    | false =>
      have goes : connect client false random =
          if client.config.autoReconnect then startReconnection (setStatus asked .disconnected) random
          else setStatus asked .disconnected := (if_neg apart).trans (if_neg Bool.false_ne_true)
      have alike : Alike asked (setStatus asked .disconnected) := ⟨rfl, rfl, rfl, rfl, rfl, rfl, rfl⟩
      have linkedToo := alike.linked keeps
      have apartToo : isConnected (setStatus asked .disconnected) = false := connected
      rw [goes]
      split
      next auto =>
        refine ⟨(started_sound_iff apartToo auto rfl sound.heartbeats sound.timers random).trans ?_,
          started_linked linkedToo auto rfl sound.heartbeats random⟩
        exact ⟨fun starts => Or.inr (Or.inr starts), fun orderly =>
          (orderly.resolve_left apart).resolve_left fun manual => by rw [auto] at manual; cases manual⟩
      next manual =>
        refine ⟨iff_of_true ⟨fun auto => absurd auto manual, sound.heartbeats, sound.timers⟩ ?_,
          fun _ => linkedToo⟩
        exact Or.inr (Or.inl (Bool.eq_false_iff.mpr manual))

theorem timers_fired (linked : Linked client) {id : Nat} (pending : client.timers.any (·.id = id) = true) :
    client.timers.filter (·.id ≠ id) = [] := by
  obtain ⟨timer, member, isId⟩ := List.any_eq_true.mp pending
  refine List.filter_eq_nil_iff.mpr fun other isOther => ?_
  have same : other.id = timer.id :=
    Option.some.inj ((linked.tracked other isOther).symm.trans (linked.tracked timer member))
  simpa [same] using isId

theorem timerFires_iff (linked : Linked client) (sound : Sound client) (id : Nat) (opens : Bool) (random : ℚ) :
    (Sound (timerFires client id opens random) ↔ Orderly client (.timerFires id opens random)) ∧
      (Sound (timerFires client id opens random) → Linked (timerFires client id opens random)) := by
  unfold timerFires
  split
  next pending =>
    obtain ⟨timer, member, _⟩ := List.any_eq_true.mp pending
    obtain ⟨auto, wanted⟩ := linked.active (List.ne_nil_of_mem member)
    rw [timers_fired linked pending]
    let fired : DashboardClient := { client with timers := [] }
    have keeps : Linked fired := ⟨linked.counted, linked.inside, linked.silent, nofun, fun none => absurd rfl none⟩
    have stuck : ¬ (client.socket ≠ none ∧ client.config.token ≠ "") →
        (Sound fired ↔ Orderly client (.timerFires id opens random)) := by
      intro cannot
      constructor
      · intro after _
        rcases after.alive auto wanted with connected | flying | none
        · exact Or.inl connected
        · exact Or.inr (Or.inl flying)
        · exact absurd rfl none
      · intro orderly
        refine ⟨fun _ _ => ?_, sound.heartbeats, Nat.zero_le 1⟩
        rcases orderly pending with connected | flying | can
        · exact Or.inl connected
        · exact Or.inr (Or.inl flying)
        · exact absurd can cannot
    change (Sound (attemptReconnect fired opens random) ↔ _) ∧ (Sound (attemptReconnect fired opens random) →
      Linked (attemptReconnect fired opens random))
    unfold attemptReconnect
    split
    next nothing => exact ⟨stuck fun can => can.1 nothing, fun _ => keeps⟩
    next i current =>
      split
      next empty => exact ⟨stuck fun can => can.2 empty, fun _ => keeps⟩
      next token =>
        have orderly : Orderly client (.timerFires id opens random) :=
          fun _ => Or.inr (Or.inr ⟨fun none => (nomatch current.symm.trans none), token⟩)
        have authorized := changeSocket_alike fired i (fun socket => { socket with token := fired.config.token })
          fun _ => rfl
        have linkedToo := authorized.linked keeps
        dsimp only
        split
        next =>
          have inside := (linked.inside i current).1
          have found : client.sockets[i]? = some client.sockets[i] := List.getElem?_eq_getElem inside
          refine ⟨iff_of_true ⟨fun _ _ => ?_, sound.heartbeats, Nat.zero_le 1⟩ orderly,
            fun _ => linkedToo.change current _⟩
          have foundToo : (changeSocket fired i fun socket =>
              { socket with token := fired.config.token }).sockets[i]? =
                some { client.sockets[i] with token := client.config.token } := by
            simp [changeSocket, fired, found]
          have asked := currentSocket_change (show (changeSocket fired i _).socket = some i from current) foundToo
            fun socket => { socket with connecting := ! socket.connected }
          unfold isConnected inFlight
          rw [asked]
          cases client.sockets[i].connected <;> simp
        next =>
          have schedules := scheduleReconnect_schedules
            (changeSocket fired i fun socket => { socket with token := fired.config.token }) auto random
          exact ⟨iff_of_true ((schedules.sound_iff sound.heartbeats).mpr rfl) orderly,
            fun _ => schedules.linked linkedToo auto wanted rfl⟩
  next unmoved => exact ⟨iff_of_true sound fun pending => absurd pending unmoved, fun _ => linked⟩

/-- A client that has disconnected: nothing is pending and nothing is on its way. -/
structure Left (before after : DashboardClient) : Prop where
  autoReconnect : after.config.autoReconnect = false
  socket : after.socket = none
  silent : ∀ socket ∈ after.sockets, socket.connected = false ∧ socket.connecting = false
  sockets : after.sockets.length = before.sockets.length
  intervals : after.intervals = before.intervals
  timers : after.timers = []
  isReconnecting : after.isReconnecting = false

theorem clearReconnectTimer_eq (tracked : ∀ timer ∈ client.timers, client.reconnectTimer = some timer.id) :
    clearReconnectTimer client = { client with timers := [], reconnectTimer := none } := by
  unfold clearReconnectTimer
  split
  next none =>
    have empty : client.timers = [] := List.eq_nil_iff_forall_not_mem.mpr fun timer member =>
      nomatch none.symm.trans (tracked timer member)
    rw [← empty, ← none]
  next id current =>
    have empty : client.timers.filter (·.id ≠ id) = [] := by
      refine List.filter_eq_nil_iff.mpr fun timer member => ?_
      have same : id = timer.id := Option.some.inj (current.symm.trans (tracked timer member))
      simp [same]
    rw [empty]

theorem disconnect_left (linked : Linked client) (sound : Sound client) : Left client (disconnect client) := by
  let off : DashboardClient := { client with config := { client.config with autoReconnect := false } }
  let cleared : DashboardClient := { off with timers := [], reconnectTimer := none }
  have clears : clearReconnectTimer off = cleared := clearReconnectTimer_eq linked.tracked
  unfold disconnect
  dsimp only
  rw [clears]
  unfold disconnectSocket
  split
  next nothing => exact ⟨rfl, nothing, linked.silent nothing, rfl, rfl, rfl, rfl⟩
  next i current =>
    have bound := sound.heartbeats
    rw [linked.counted] at bound
    have inside := (linked.inside i current).1
    have silent : ∀ socket ∈ client.sockets.modify i closeSocket,
        socket.connected = false ∧ socket.connecting = false := by
      intro socket member
      obtain ⟨j, found⟩ := List.getElem?_of_mem member
      have within := (List.getElem?_eq_some_iff.mp found).1
      rw [List.length_modify] at within
      have same : i = j := by omega
      rw [List.getElem?_modify] at found
      obtain ⟨old, _, rfl⟩ := Option.map_eq_some_iff.mp found
      rw [if_pos same]
      exact ⟨rfl, rfl⟩
    have length : (client.sockets.modify i closeSocket).length = client.sockets.length := List.length_modify ..
    dsimp only
    split <;> exact ⟨rfl, rfl, silent, length, rfl, rfl, rfl⟩

theorem disconnect_iff (linked : Linked client) (sound : Sound client) :
    Sound (disconnect client) ∧ Linked (disconnect client) := by
  have left := disconnect_left linked sound
  refine ⟨⟨fun auto => ?_, left.intervals ▸ sound.heartbeats, ?_⟩, ⟨?_, fun i here => ?_, fun _ => left.silent,
    fun timer member => ?_, fun pending => absurd left.timers pending⟩⟩
  · rw [left.autoReconnect] at auto
    cases auto
  · rw [left.timers]
    exact Nat.zero_le 1
  · rw [left.intervals, left.sockets]
    exact linked.counted
  · rw [left.socket] at here
    cases here
  · rw [left.timers] at member
    cases member

theorem reconnect_iff (linked : Linked client) (sound : Sound client) (creates : Bool) (random : ℚ) :
    (Sound (reconnect client creates random) ↔ Orderly client (.reconnect creates random)) ∧
      (Sound (reconnect client creates random) → Linked (reconnect client creates random)) := by
  have left := disconnect_left linked sound
  obtain ⟨soundToo, linkedToo⟩ := disconnect_iff linked sound
  let ready : DashboardClient :=
    { disconnect client with config := { (disconnect client).config with autoReconnect := true } }
  have unwanted : (disconnect client).wanted = false := rfl
  have linkedReady : Linked ready :=
    ⟨linkedToo.counted, linkedToo.inside, linkedToo.silent, linkedToo.tracked, fun pending =>
      absurd left.timers pending⟩
  have soundReady : Sound ready :=
    ⟨fun _ wanted => (nomatch unwanted.symm.trans wanted), soundToo.heartbeats, soundToo.timers⟩
  have apart : isConnected ready = false := by
    unfold isConnected currentSocket
    rw [show ready.socket = none from left.socket]
    rfl
  obtain ⟨soundIff, keeps⟩ := connect_iff linkedReady soundReady creates random
  refine ⟨soundIff.trans ?_, keeps⟩
  cases creates with
  | true =>
    have intervals : ready.intervals = client.intervals := left.intervals
    refine ⟨fun orderly _ => ?_, fun orderly => Or.inr (intervals.trans (orderly rfl))⟩
    exact intervals ▸ orderly.resolve_left fun connected => nomatch apart.symm.trans connected
  | false =>
    refine iff_of_true (Or.inr (Or.inr (Or.inr ?_))) nofun
    unfold Startable
    rw [if_neg (by rw [show ready.isReconnecting = false from left.isReconnecting]; nofun)]
    exact left.timers

theorem step_iff (linked : Linked client) (sound : Sound client) (event : ClientEvent) :
    (Sound (client.step event) ↔ Orderly client event) ∧ (Sound (client.step event) → Linked (client.step event)) := by
  have quiet : ∀ {after : DashboardClient}, Alike client after → (Sound after ↔ True) ∧ (Sound after → Linked after) :=
    fun alike => ⟨iff_true_intro (alike.sound_iff.mpr sound), fun _ => alike.linked linked⟩
  cases event with
  | connect creates random => exact connect_iff linked sound creates random
  | disconnect =>
    obtain ⟨soundToo, linkedToo⟩ := disconnect_iff linked sound
    exact ⟨iff_true_intro soundToo, fun _ => linkedToo⟩
  | reconnect creates random => exact reconnect_iff linked sound creates random
  | updateToken token => exact quiet (updateToken_alike client token)
  | subscribePortfolio portfolioId => exact quiet (subscribePortfolio_alike client portfolioId)
  | socketConnects i => exact socketConnects_iff linked sound i
  | socketDisconnects i reason random => exact socketDisconnects_iff linked sound i reason random
  | socketFails i random => exact socketFails_iff linked sound i random
  | timerFires id opens random => exact timerFires_iff linked sound id opens random
  | heartbeat => exact quiet (sendHeartbeat_alike client)
  | tick ms => exact quiet ⟨rfl, rfl, rfl, rfl, rfl, rfl, rfl⟩

theorem linked_initial (now : Nat) (config : PartialClientConfig) : Linked (.initial now config) where
  counted := rfl
  inside _ here := nomatch here
  silent _ _ member := nomatch member
  tracked _ member := nomatch member
  active none := absurd rfl none

theorem sound_initial (now : Nat) (config : PartialClientConfig) : Sound (.initial now config) where
  alive _ wanted := nomatch wanted
  heartbeats := Nat.zero_le 1
  timers := Nat.zero_le 1

/-- In every sequence of events, the client is sound in all states exactly when all events are orderly. -/
theorem client_sound_iff (now : Nat) (config : PartialClientConfig) (events : List ClientEvent) :
    (∀ reached ∈ states DashboardClient.step (.initial now config) events, Sound reached) ↔
      Meets DashboardClient.step Orderly (.initial now config) events := by
  have exactly : ∀ (state : DashboardClient) (event : ClientEvent), Linked state ∧ Sound state →
      (Sound (state.step event) ↔ Orderly state event) :=
    fun _ event both => (step_iff both.1 both.2 event).1
  have kept : ∀ (state : DashboardClient) (event : ClientEvent), Linked state ∧ Sound state →
      Sound (state.step event) → Linked (state.step event) ∧ Sound (state.step event) :=
    fun _ event both sound => ⟨(step_iff both.1 both.2 event).2 sound, sound⟩
  exact claim_iff_meets (fun _ both => both.2) exactly kept events _
    ⟨linked_initial now config, sound_initial now config⟩

/-! ## A client that does not come back -/

def sampleConfig : PartialClientConfig := ⟨"wss://dashboard", "token", "user", none, none, none, none⟩

/-- The connection is lost, and the one attempt that follows fails. -/
def lostForGood : List ClientEvent :=
  [.connect true 0, .socketConnects 0, .socketDisconnects 0 .transportClose 0, .timerFires 0 true 0,
    .socketFails 0 0]

/-- The client is connected to anew. -/
def reconnected : List ClientEvent := [.connect true 0, .socketConnects 0, .reconnect true 0]

def last (events : List ClientEvent) : DashboardClient :=
  events.foldl DashboardClient.step (.initial 0 sampleConfig)

/-- The client waits for nothing; and it has two heartbeats. -/
theorem client_unsound :
    (¬ ∀ reached ∈ states DashboardClient.step (.initial 0 sampleConfig) lostForGood, Sound reached) ∧
      ¬ ∀ reached ∈ states DashboardClient.step (.initial 0 sampleConfig) reconnected, Sound reached := by
  constructor <;> intro sound
  · have reached : last lostForGood ∈ states DashboardClient.step (.initial 0 sampleConfig) lostForGood := by
      simp [states, lostForGood, last]
    have alive := (sound _ reached).alive (by decide +kernel) (by decide +kernel)
    exact absurd alive (by decide +kernel)
  · have reached : last reconnected ∈ states DashboardClient.step (.initial 0 sampleConfig) reconnected := by
      simp [states, reconnected, last]
    exact absurd (sound _ reached).heartbeats (by decide +kernel)

end AlianStructure.Guarantees.ClientReconnection
