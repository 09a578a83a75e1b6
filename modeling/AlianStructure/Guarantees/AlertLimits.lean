import AlianStructure.Library.OwnedParts
import AlianStructure.Source.Alerts.AlertDispatcherService
import AlianStructure.Library.FixedWindow

/-!
# The steps of an alert dispatcher

Source: src/growth/alerts/services/alert-dispatcher.service.ts:185-265. What is awaited leaves the
preferences and the memory of the process as they are, so that a delivery keeps every invariant.
-/
namespace AlianStructure.Guarantees.AlertCalls
open Library.AsyncMethod Library.Interleaving Library.CallsInTurn Library.OwnedParts
open Source Source.Alerts AlertDispatcherService

variable {host : AlertHost} {Part : Type} {terms : Terms (alertProcess host)}
  {inv : Sharing (alertProcess host) Part}

theorem respond_world {world after : AlertWorld} {op : AlertOp} {outcome : AlertOutcome}
    {result : Except Exception op.Reply}
    (responds : world.respond op outcome = some (after, result)) : after = world := by
  unfold AlertWorld.respond at responds
  split at responds
  case h_6 => cases responds
  all_goals
    cases responds
    rfl

theorem keeps_ask (op : AlertOp) : Keeps terms inv (ask op) := by
  refine keeps_perform fun later theirs holds choice world result _ responds => ?_
  rw [respond_world responds]
  exact holds

theorem deliverOnce_keeps {channel userId : String} {payload : Outgoing} :
    Keeps terms inv (deliverOnce host channel userId payload) := by
  refine keeps_bind keeps_memory fun mem => ?_
  dsimp only
  split
  next => exact keeps_ask _
  next =>
    split
    next =>
      split
      next => exact keeps_ask _
      next => exact keeps_pure
    next =>
      split
      next =>
        split
        next => exact keeps_ask _
        next => exact keeps_pure
      next => exact keeps_pure

theorem deliverToChannel_keeps {channel userId : String} {payload : Outgoing} :
    ∀ left, Keeps terms inv (deliverToChannel host channel userId payload left)
  | 0 => keeps_pure
  | left + 1 => by
    refine keeps_bind (keeps_outcome deliverOnce_keeps) fun delivered => ?_
    cases delivered with
    | ok _ => exact keeps_pure
    | error _ =>
      dsimp only
      split
      next => exact keeps_bind (keeps_ask _) fun _ => deliverToChannel_keeps left
      next => exact keeps_pure

variable {userId : String} {payload : AlertPayload}

theorem deliverEach_keeps :
    ∀ channels, Keeps terms inv (deliverEach host userId payload channels)
  | [] => keeps_pure
  | _ :: channels => keeps_bind (deliverToChannel_keeps 3) fun _ => deliverEach_keeps channels

end AlianStructure.Guarantees.AlertCalls

/-!
# The de-duplication and the rate limit of alerts

Source: src/growth/alerts/services/alert-dispatcher.service.ts:48-120. Both look at their map and
change it between two awaits, so that calls do not come between. A fingerprint is dropped only after
its slot, and a window is over an hour after the alert that opened it. What is bounded are the payloads
whose dispatch goes on to the preferences, and the alerts that are delivered, buffered or, in quiet hours,
dropped: they are recorded where this happens.
-/
namespace AlianStructure.Guarantees.AlertLimits
open Library.AsyncMethod Library.Interleaving Library.CallsInTurn Library.OwnedParts
open Library.FixedWindow Library.InsertionOrder Library.KeyedTable
open Source Source.Alerts AlertDispatcherService AlertCalls

/-- The payloads of a text that a user had pass the de-duplication in a slot. -/
def clearedIn (history : AlertHistory) (userId text : String) (slot : Int) : Nat :=
  history.cleared.countP fun passed => decide (passed.userId = userId ∧ passed.text = text ∧
    passed.time / slotMs = slot)

/-- The alerts of a user that the limits have not stopped, whatever became of them. -/
def admittedOf (history : AlertHistory) (userId : String) : List Admitted :=
  history.admitted.filter fun admitted => decide (admitted.userId = userId)

/-- Alerts are in their windows, of which none has more than the limit, and no period of the length
of a window has more than twice the limit. -/
structure WithinLimit (history : AlertHistory) (userId : String) (limit : Int) : Prop where
  windows : Windowed Admitted.time Admitted.windowStart hourMs (admittedOf history userId)
  perWindow : ∀ window : Int, (countAt Admitted.windowStart (admittedOf history userId) window : Int) ≤ limit
  anywhere : ∀ since : Int,
    (countFrom Admitted.time hourMs (admittedOf history userId) since : Int) ≤ 2 * limit

/-- The user keeps a limit. -/
def FixedLimit {host : AlertHost} (userId : String) (limit : Int) (_ : Config (alertProcess host)) :
    Label (alertProcess host) → Prop
  | .env change => change.userId = userId → rateLimitOf change.preference = limit
  | _ => True

/-! ## What is kept -/

/-- The time has come, for every reading to come. -/
def Reached (mem : AlertMemory) (time : Int) : Prop :=
  ∀ k, mem.readings ≤ k → time ≤ mem.clock.reading k

/-- A payload that passed in a slot that may not be over is remembered. -/
structure Deduplicated (mem : AlertMemory) : Prop where
  once : (mem.history.cleared.map fun passed =>
    (passed.userId, passed.text, passed.time / slotMs)).Nodup
  past : ∀ passed ∈ mem.history.cleared, Reached mem passed.time
  remembered : ∀ passed ∈ mem.history.cleared,
    (∃ now, mem.fingerprintMap.get?
      (fingerprint passed.userId passed.text (passed.time / slotMs)) = some now ∧
        passed.time ≤ now) ∨ Reached mem ((passed.time / slotMs + 1) * slotMs)

/-- The entry of a user is the counter of the alerts. -/
def CountedBy (mem : AlertMemory) (userId : String) : Prop :=
  match mem.rateLimitMap.get? userId with
  | none => admittedOf mem.history userId = []
  | some entry => Reached mem entry.windowStart ∧
    Counted Admitted.time Admitted.windowStart hourMs (admittedOf mem.history userId) entry.count
      entry.windowStart

/-- A user with a limit. -/
structure Limited (world : AlertWorld) (mem : AlertMemory) (userId : String) (limit : Int) :
    Prop where
  positive : 1 ≤ limit
  fixed : rateLimitOf (world.preferences userId) = limit
  perWindow : ∀ window : Int, (countAt Admitted.windowStart (admittedOf mem.history userId) window : Int) ≤ limit

/-- What all steps keep, of the limit of one user or of none. -/
structure Sound (limited : Option (String × Int)) (world : AlertWorld) (mem : AlertMemory) :
    Prop where
  deduplicated : Deduplicated mem
  counted : ∀ userId, CountedBy mem userId
  limit : ∀ entry ∈ limited, Limited world mem entry.1 entry.2

section Steps
variable {limited : Option (String × Int)} {world : AlertWorld} {mem after : AlertMemory}

theorem Reached.mono {time : Int} (reached : Reached mem time) (clock : after.clock = mem.clock)
    (readings : mem.readings ≤ after.readings) : Reached after time := by
  intro k later
  rw [clock]
  exact reached k (readings.trans later)

theorem reached_reading (mem : AlertMemory) : Reached mem (mem.clock.reading mem.readings) := by
  intro k later
  induction k, later using Nat.le_induction with
  | base => exact le_refl _
  | succ k _ ih => exact ih.trans (mem.clock.ordered k)

theorem Limited.of_admitted {limit : Int} (limited : Limited world mem userId limit)
    (same : after.history.admitted = mem.history.admitted) : Limited world after userId limit := by
  refine ⟨limited.positive, limited.fixed, ?_⟩
  unfold admittedOf
  rw [same]
  exact limited.perWindow

/-- A change that neither the maps nor the records of the limits see. -/
structure Apart (mem after : AlertMemory) : Prop where
  fingerprints : after.fingerprintMap = mem.fingerprintMap
  limits : after.rateLimitMap = mem.rateLimitMap
  clock : after.clock = mem.clock
  readings : mem.readings ≤ after.readings
  cleared : after.history.cleared = mem.history.cleared
  admitted : after.history.admitted = mem.history.admitted

theorem Apart.trans {later : AlertMemory} (apart : Apart mem after) (further : Apart after later) : Apart mem later where
  fingerprints := further.fingerprints.trans apart.fingerprints
  limits := further.limits.trans apart.limits
  clock := further.clock.trans apart.clock
  readings := apart.readings.trans further.readings
  cleared := further.cleared.trans apart.cleared
  admitted := further.admitted.trans apart.admitted

theorem Apart.recordAdmitted (apart : Apart mem after) (userId : String) (time : Int) (fate : Fate) :
    Apart (recordAdmitted userId time fate mem) (recordAdmitted userId time fate after) where
  fingerprints := apart.fingerprints
  limits := apart.limits
  clock := apart.clock
  readings := apart.readings
  cleared := apart.cleared
  admitted := by
    unfold AlertDispatcherService.recordAdmitted
    rw [apart.admitted, apart.limits]

theorem Apart.admittedOf (apart : Apart mem after) (userId : String) :
    admittedOf after.history userId = admittedOf mem.history userId := by
  unfold AlertLimits.admittedOf
  rw [apart.admitted]

theorem Sound.apart (sound : Sound limited world mem) (apart : Apart mem after) : Sound limited world after := by
  have mono : ∀ {time}, Reached mem time → Reached after time :=
    fun reached => reached.mono apart.clock apart.readings
  refine ⟨⟨?_, ?_, ?_⟩, fun userId => ?_, fun entry isLimited => ?_⟩
  · rw [apart.cleared]
    exact sound.deduplicated.once
  · rw [apart.cleared]
    exact fun passed member => mono (sound.deduplicated.past passed member)
  · rw [apart.cleared, apart.fingerprints]
    exact fun passed member => (sound.deduplicated.remembered passed member).imp_right mono
  · have counted := sound.counted userId
    unfold CountedBy at counted ⊢
    rw [apart.limits]
    split
    next none_yet =>
      rw [none_yet] at counted
      rw [apart.admittedOf]
      exact counted
    next entry found =>
      rw [found] at counted
      rw [apart.admittedOf]
      exact ⟨mono counted.1, counted.2⟩
  · exact (sound.limit entry isLimited).of_admitted apart.admitted

theorem Reached.tick {time : Int} (reached : Reached mem time) : Reached (tick mem) time :=
  reached.mono rfl (Nat.le_succ _)

theorem reached_tick (mem : AlertMemory) : Reached (tick mem) (mem.clock.reading mem.readings) :=
  (reached_reading mem).tick

theorem tick_apart (mem : AlertMemory) : Apart mem (tick mem) := ⟨rfl, rfl, rfl, Nat.le_succ _, rfl, rfl⟩

theorem Sound.tick (sound : Sound limited world mem) : Sound limited world (tick mem) :=
  sound.apart (tick_apart mem)

theorem meanwhile_apart (userId : String) (history : AlertHistory) :
    (meanwhile userId history).cleared = history.cleared ∧
      (meanwhile userId history).admitted = history.admitted := by
  unfold meanwhile
  split <;> exact ⟨rfl, rfl⟩

theorem bufferForDigest_apart (userId : String) (payload : AlertPayload) (channels : List String) :
    Apart mem (bufferForDigest userId payload channels mem) := by
  have same := meanwhile_apart userId mem.history
  unfold bufferForDigest
  split <;> exact ⟨rfl, rfl, rfl, le_refl _, same.1, same.2⟩

theorem quietNow_apart (host : AlertHost) (start stop : Option Int) (mem : AlertMemory) :
    Apart mem (quietNow host start stop mem).2 := by
  unfold quietNow
  split
  next => exact tick_apart mem
  next => exact ⟨rfl, rfl, rfl, le_refl _, rfl, rfl⟩

theorem beginFlush_apart (userId : String) : Apart mem (beginFlush userId mem) :=
  have same := meanwhile_apart userId mem.history
  ⟨rfl, rfl, rfl, le_refl _, same.1, same.2⟩

/-! ## The de-duplication -/

theorem Sound.remember {userId text : String} {time now : Int} (sound : Sound limited world mem)
    (reached : Reached mem time) (ordered : time ≤ now) (past : ∀ passed ∈ mem.history.cleared, passed.time ≤ now)
    (fresh : ∀ passed ∈ mem.history.cleared, ¬ (passed.userId = userId ∧ passed.text = text ∧
      passed.time / slotMs = time / slotMs)) :
    Sound limited world (recordCleared userId text time (remember userId text time now mem)) := by
  refine ⟨⟨?_, fun passed member => ?_, fun passed member => ?_⟩,
    sound.counted, fun entry isLimited => (sound.limit entry isLimited).of_admitted rfl⟩
  · simp only [recordCleared, List.map_append, List.map_singleton]
    refine List.nodup_append.mpr ⟨sound.deduplicated.once, List.nodup_singleton _, ?_⟩
    rintro key isOld _ isNew rfl
    obtain ⟨passed, member, same⟩ := List.mem_map.mp isOld
    rw [List.mem_singleton.mp isNew] at same
    exact fresh passed member ⟨congrArg Prod.fst same, congrArg (·.2.1) same, congrArg (·.2.2) same⟩
  · rcases List.mem_append.mp member with before | isNew
    · exact sound.deduplicated.past passed before
    · rw [List.mem_singleton.mp isNew]
      exact reached
  · simp only [recordCleared, AlertDispatcherService.remember, OrderedMap.get?_set]
    rcases List.mem_append.mp member with before | isNew
    · by_cases same : fingerprint passed.userId passed.text (passed.time / slotMs) =
          fingerprint userId text (time / slotMs)
      · rw [if_pos same]
        exact Or.inl ⟨now, rfl, past passed before⟩
      · rw [if_neg same]
        exact sound.deduplicated.remembered passed before
    · rw [List.mem_singleton.mp isNew, if_pos rfl]
      exact Or.inl ⟨now, rfl, ordered⟩

theorem Sound.forget {time : Int} (sound : Sound limited world mem) (reached : Reached mem time) :
    Sound limited world (forget (time - slotMs) mem) := by
  refine ⟨⟨sound.deduplicated.once, sound.deduplicated.past, fun passed member => ?_⟩,
    sound.counted, fun entry isLimited => (sound.limit entry isLimited).of_admitted rfl⟩
  rcases sound.deduplicated.remembered passed member with ⟨now, found, ordered⟩ | expired
  · by_cases dropped : now < time - slotMs
    · refine Or.inr fun k later => le_trans ?_ (reached k later)
      have slot : passed.time / slotMs * slotMs ≤ passed.time := Int.ediv_mul_le _ (by decide)
      rw [Int.add_mul]
      omega
    · refine Or.inl ⟨now, ?_, ordered⟩
      obtain ⟨row, isRow, rfl⟩ := Option.map_eq_some_iff.mp found
      simp only [AlertDispatcherService.forget, OrderedMap.get?, Table.findOne_delete, isRow,
        Option.filter_some, dropped, decide_false, Bool.not_false, if_true, Option.map_some]
  · exact Or.inr expired

theorem Sound.fresh {userId text : String} (sound : Sound limited world mem) (unknown : mem.fingerprintMap.get?
      (fingerprint userId text (mem.clock.reading mem.readings / slotMs)) = none) :
    ∀ passed ∈ mem.history.cleared, ¬ (passed.userId = userId ∧ passed.text = text ∧
      passed.time / slotMs = mem.clock.reading mem.readings / slotMs) := by
  rintro passed member ⟨rfl, rfl, slot⟩
  rcases sound.deduplicated.remembered passed member with ⟨now, found, _⟩ | expired
  · rw [slot, unknown] at found
    cases found
  · have reached := expired mem.readings (le_refl _)
    rw [slot] at reached
    have below : mem.clock.reading mem.readings < (mem.clock.reading mem.readings / slotMs + 1) * slotMs :=
      Int.lt_ediv_add_one_mul_self _ (by decide)
    omega

/-- A payload that is no duplicate goes on: what was forgotten since has no slot that is not over. -/
theorem Sound.deduplicate {userId text : String} {passed : AlertMemory} (sound : Sound limited world mem)
    (passes : deduplicate userId text (mem.clock.reading mem.readings) (AlertDispatcherService.tick mem) = some passed) :
    Sound limited world (recordCleared userId text (mem.clock.reading mem.readings) passed) := by
  unfold AlertDispatcherService.deduplicate at passes
  split at passes
  next => cases passes
  next unknown =>
    cases passes
    have fresh := sound.fresh (Option.not_isSome_iff_eq_none.mp unknown)
    have remembered := sound.tick.remember (reached_tick mem) (mem.clock.ordered mem.readings)
      (fun passed member => sound.deduplicated.past passed member _ (Nat.le_succ _)) fresh
    exact (remembered.tick.forget (reached_reading _)).tick

/-! ## The rate limit -/

theorem admittedOf_count {userId other : String} {entry : RateLimitEntry} {time : Int} {fate : Fate} :
    admittedOf (recordAdmitted userId time fate (count userId entry mem)).history other =
      if userId = other then admittedOf mem.history other ++ [⟨userId, time, entry.windowStart, fate⟩]
      else admittedOf mem.history other := by
  by_cases same : userId = other <;>
    simp [admittedOf, recordAdmitted, count, List.filter_append, same]

/-- An alert that is counted as the last of its window, if the user has a limit, and in its window. -/
theorem Sound.count (sound : Sound limited world mem) (userId : String) (entry : RateLimitEntry)
    (time : Int) (fate : Fate) (reached : Reached mem entry.windowStart)
    (counted : Counted Admitted.time Admitted.windowStart hourMs
      (admittedOf mem.history userId ++ [⟨userId, time, entry.windowStart, fate⟩]) entry.count entry.windowStart)
    (within : ∀ limit ∈ limited, limit.1 = userId → (entry.count : Int) ≤ limit.2) :
    Sound limited world (recordAdmitted userId time fate (count userId entry mem)) := by
  refine ⟨⟨sound.deduplicated.once, sound.deduplicated.past, sound.deduplicated.remembered⟩,
    fun other => ?_, fun limit isLimited => ?_⟩
  · have before := sound.counted other
    unfold CountedBy at before ⊢
    rw [admittedOf_count]
    simp only [recordAdmitted, AlertDispatcherService.count, OrderedMap.get?_set]
    by_cases same : userId = other
    · subst same
      rw [if_pos rfl, if_pos rfl]
      exact ⟨reached, counted⟩
    · rw [if_neg (Ne.symm same), if_neg same]
      exact before
  · obtain ⟨positive, fixed, perWindow⟩ := sound.limit limit isLimited
    refine ⟨positive, fixed, fun window => ?_⟩
    rw [admittedOf_count]
    by_cases same : userId = limit.1
    · rw [if_pos same, ← same]
      by_cases here : entry.windowStart = window
      · rw [← here, counted.counted]
        exact within limit isLimited same.symm
      · rw [countAt_concat, if_neg here, Nat.add_zero, same]
        exact perWindow window
    · rw [if_neg same]
      exact perWindow window

/-- An alert that is not over the limit is counted, wherever it goes from here. -/
theorem Sound.passes {userId : String} {rateLimit : Int} {counted : AlertMemory} (sound : Sound limited world mem)
    (known : ∀ limit ∈ limited, limit.1 = userId → rateLimit = limit.2)
    (passes : passesRateLimit userId rateLimit (mem.clock.reading mem.readings) (AlertDispatcherService.tick mem) =
      some counted) (fate : Fate) :
    Sound limited world (recordAdmitted userId (mem.clock.reading mem.readings) fate counted) := by
  have entries := sound.counted userId
  have positive : ∀ limit ∈ limited, limit.1 = userId → ((1 : Nat) : Int) ≤ limit.2 :=
    fun limit isLimited _ => (sound.limit limit isLimited).positive
  unfold CountedBy at entries
  unfold passesRateLimit at passes
  split at passes
  next entry found =>
    change mem.rateLimitMap.get? userId = some entry at found
    rw [found] at entries
    obtain ⟨begun, counts⟩ := entries
    have since := begun mem.readings (le_refl _)
    split at passes
    next inside =>
      split at passes
      next => cases passes
      next below =>
        cases passes
        have within : mem.clock.reading mem.readings < entry.windowStart + hourMs := by omega
        have last : ∀ limit ∈ limited, limit.1 = userId → ((entry.count + 1 : Nat) : Int) ≤ limit.2 := by
          intro limit isLimited same
          rw [← known limit isLimited same]
          push_cast
          omega
        have counts' := counts.counts
          ⟨userId, mem.clock.reading mem.readings, entry.windowStart, fate⟩ rfl since within
        exact sound.tick.count userId { entry with count := entry.count + 1 } _ fate begun.tick counts' last
    next expired =>
      cases passes
      have ended : ∀ other ∈ admittedOf mem.history userId,
          other.windowStart + hourMs ≤ mem.clock.reading mem.readings := by
        intro other member
        by_cases same : other.windowStart = entry.windowStart
        · rw [same]
          omega
        · exact (counts.latest other member same).trans since
      have opens := counts.toWindowed.opens ⟨userId, mem.clock.reading mem.readings,
        mem.clock.reading mem.readings, fate⟩ (by decide) ended rfl
      exact sound.tick.count userId { count := 1, windowStart := mem.clock.reading mem.readings } _ fate
        (reached_tick mem) opens positive
  next unknown =>
    cases passes
    change mem.rateLimitMap.get? userId = none at unknown
    rw [unknown] at entries
    have windowed : Windowed Admitted.time Admitted.windowStart hourMs (admittedOf mem.history userId) :=
      entries ▸ Windowed.nil
    have opens := windowed.opens ⟨userId, mem.clock.reading mem.readings,
      mem.clock.reading mem.readings, fate⟩ (by decide) (entries ▸ nofun) rfl
    exact sound.tick.count userId { count := 1, windowStart := mem.clock.reading mem.readings } _ fate
      (reached_tick mem) opens positive

theorem Sound.accept {userId : String} {prefs : Option AlertPreference} (sound : Sound limited world mem)
    (host : AlertHost) (payload : AlertPayload)
    (known : ∀ limit ∈ limited, limit.1 = userId → rateLimitOf prefs = limit.2) :
    Sound limited world (accept host userId payload prefs mem).1 := by
  unfold AlertDispatcherService.accept
  dsimp only
  split
  next => exact sound
  next =>
    split
    next => exact sound.tick
    next counted passes =>
      have recorded := sound.passes known passes
      have quiet := quietNow_apart host (prefs.bind (·.quietHoursStart)) (prefs.bind (·.quietHoursEnd)) counted
      split
      next => exact (recorded _).apart (quiet.recordAdmitted _ _ _)
      next =>
        split
        next => exact (recorded _).apart ((quiet.trans (bufferForDigest_apart _ _ _)).recordAdmitted _ _ _)
        next => exact (recorded _).apart (quiet.recordAdmitted _ _ _)

end Steps

section Calls
variable {host : AlertHost} {limited : Option (String × Int)} {i : Nat}

/-- A user with a limit keeps it. -/
def keepsLimit (host : AlertHost) (limited : Option (String × Int)) : Terms (alertProcess host) where
  answers _ _ _ := True
  changes _ change := ∀ entry ∈ limited, change.userId = entry.1 →
    rateLimitOf change.preference = entry.2

/-- The invariant, of which no call owns a part. -/
def shared (host : AlertHost) (limited : Option (String × Int)) : Sharing (alertProcess host) Unit :=
  fun state _ => Sound limited state.1 state.2

abbrev Spares {α : Type} (host : AlertHost) (limited : Option (String × Int)) (program : AlertM α) :
    Prop :=
  Keeps (keepsLimit host limited) (shared host limited) program

abbrev Leads {α : Type} (host : AlertHost) (limited : Option (String × Int)) (i : Nat)
    (post : State (alertProcess host) → (Nat → Unit) → Except Exception α → Prop)
    (state : State (alertProcess host)) (own : Nat → Unit) (program : AlertM α) : Prop :=
  Carries (keepsLimit host limited) (shared host limited) i post state own program

theorem spares_update {change : AlertMemory → AlertMemory} (apart : ∀ mem, Apart mem (change mem)) :
    Spares host limited (update change) :=
  keeps_change fun _ _ sound => Sound.apart sound (apart _)

theorem leads_dateNow {state : State (alertProcess host)} {own : Nat → Unit}
    {post : State (alertProcess host) → (Nat → Unit) → Except Exception Int → Prop}
    (sound : Sound limited state.1 state.2) (here : post (state.1, tick state.2) own
      (.ok (state.2.clock.reading state.2.readings))) : Leads host limited i post state own dateNow :=
  carries_bind (carries_memory (carries_bind (carries_change sound.tick here)))

theorem deliverDigest_spares {digest entry count : Nat} :
    ∀ channels, Spares host limited (deliverDigest host userId digest entry count channels)
  | [] => keeps_pure
  | _ :: channels => keeps_bind (spares_update fun _ => ⟨rfl, rfl, rfl, le_refl _, rfl, rfl⟩) fun _ =>
      keeps_bind (deliverToChannel_keeps 3) fun _ => deliverDigest_spares channels

theorem flushDigest_spares : Spares host limited (flushDigest host userId) := by
  refine keeps_bind keeps_memory fun mem => ?_
  split
  next => exact keeps_pure
  next =>
    split
    next => exact keeps_pure
    next =>
      split
      next => exact keeps_pure
      next =>
        exact keeps_bind (spares_update fun _ => beginFlush_apart userId) fun _ =>
          keeps_bind (deliverDigest_spares _) fun _ =>
            spares_update fun _ => ⟨rfl, rfl, rfl, le_refl _, rfl, rfl⟩

theorem flushFrom_spares : ∀ users place, Spares host limited (flushFrom host place users)
  | 0, _ => keeps_pure
  | users + 1, _ => by
    refine keeps_bind keeps_memory fun mem => ?_
    split
    next => exact keeps_pure
    next => exact keeps_bind flushDigest_spares fun _ => flushFrom_spares users _

theorem dispatch_spares : Spares host limited (dispatch host userId payload) := by
  intro i state own sound
  refine carries_bind (leads_dateNow sound (carries_bind (carries_memory ?_)))
  dsimp only [Async.onOk]
  split
  next => exact ⟨sound.tick, rfl⟩
  next passed isPassed =>
    have cleared := Sound.deduplicate sound isPassed
    refine carries_bind (carries_change cleared (carries_bind (carries_perform ?_)))
    intro later theirs holds _ choice world result _ responds
    refine ⟨(), ?_, fun final others kept _ => ?_⟩
    · rw [respond_world responds]
      exact holds
    · cases result with
      | error failure => exact ⟨kept, rfl⟩
      | ok prefs =>
        have known : ∀ limit ∈ limited, limit.1 = userId → rateLimitOf prefs = limit.2 := by
          intro limit isLimited same
          cases choice with
          | fails failure => cases responds
          | done =>
            cases responds
            rw [← same]
            exact (holds.limit limit isLimited).fixed
        have admitted := Sound.accept kept host payload known
        refine carries_bind (carries_memory (carries_bind (carries_change admitted ?_)))
        exact carries_mono (fun _ _ _ ended => ended) (deliverEach_keeps _ i _ others admitted)

theorem body_spares : ∀ call, Spares host limited (alertBody host call)
  | .dispatch _ _ => dispatch_spares
  | .flushDigest _ => flushDigest_spares
  | .flushAllDigests users => flushFrom_spares users 0

theorem Sound.set {world : AlertWorld} {mem : AlertMemory} {change : AlertChange}
    (sound : Sound limited world mem) (kept : ∀ entry ∈ limited, change.userId = entry.1 →
      rateLimitOf change.preference = entry.2) : Sound limited (world.set change) mem := by
  refine ⟨sound.deduplicated, sound.counted, fun entry isLimited => ?_⟩
  obtain ⟨positive, fixed, perWindow⟩ := sound.limit entry isLimited
  refine ⟨positive, ?_, perWindow⟩
  simp only [AlertWorld.set]
  split
  next same => exact kept entry isLimited same.symm
  next => exact fixed

theorem sound_fresh {world : AlertWorld} {clock : Clock}
    (limit : ∀ entry ∈ limited, 1 ≤ entry.2 ∧ rateLimitOf (world.preferences entry.1) = entry.2) :
    Sound limited world (.fresh clock) where
  deduplicated := ⟨List.nodup_nil, nofun, nofun⟩
  counted _ := rfl
  limit entry isLimited := by
    obtain ⟨positive, fixed⟩ := limit entry isLimited
    refine ⟨positive, fixed, fun window => ?_⟩
    have none_yet : countAt Admitted.windowStart
        (admittedOf (AlertMemory.fresh clock).history entry.1) window = 0 := rfl
    rw [none_yet]
    omega

theorem sound_run {world : AlertWorld} {clock : Clock} {labels : List (Label (alertProcess host))}
    {after : Config (alertProcess host)}
    (limit : ∀ entry ∈ limited, 1 ≤ entry.2 ∧ rateLimitOf (world.preferences entry.1) = entry.2)
    (met : Admissible (Met (keepsLimit host limited)) labels
      (Config.initial (alertProcess host) world (.fresh clock)))
    (ran : run labels (Config.initial (alertProcess host) world (.fresh clock)) = some after) :
    Sound limited after.world after.mem := by
  have bodies : ∀ call i state own, (alertProcess host).isPublic call = true →
      shared host limited state own → own i = () →
        Carries (keepsLimit host limited) (shared host limited) i (fun _ _ _ => True) state own
          ((alertProcess host).body call) := fun call i state own _ holds _ =>
    carries_mono (fun _ _ _ _ => trivial) (body_spares call i state own holds)
  obtain ⟨_, sound⟩ := shared_run bodies (fun _ _ _ sound kept => sound.set kept)
    (sound_fresh limit) met ran
  exact sound

end Calls

/-- In every run, payloads of one user with one text pass the de-duplication at most once in a slot,
and the alerts of a user with a fixed limit are within it. -/
theorem alerts_limited (host : AlertHost) (world : AlertWorld) (clock : Clock)
    (labels : List (Label (alertProcess host))) (after : Config (alertProcess host))
    (ran : run labels (Config.initial (alertProcess host) world (.fresh clock)) = some after) :
    (∀ userId text slot, clearedIn after.mem.history userId text slot ≤ 1) ∧
      ∀ userId limit, 1 ≤ limit → rateLimitOf (world.preferences userId) = limit →
        Admissible (FixedLimit userId limit) labels (Config.initial (alertProcess host) world (.fresh clock)) →
        WithinLimit after.mem.history userId limit := by
  constructor
  · intro userId text slot
    have sound : Sound none after.world after.mem := sound_run nofun
      (admissible_always (fun c label => by cases label <;> simp [Met, keepsLimit]) labels _) ran
    have once := List.nodup_iff_count_le_one.mp sound.deduplicated.once (userId, text, slot)
    refine le_trans (le_of_eq ?_) once
    rw [List.count_eq_countP, List.countP_map]
    exact List.countP_congr fun passed _ => by simp [Prod.ext_iff]
  · intro userId limit positive fixed admissible
    have sound : Sound (some (userId, limit)) after.world after.mem := by
      refine sound_run ?_ (admissible_mono ?_ admissible) ran
      · rintro _ ⟨⟩
        exact ⟨positive, fixed⟩
      · intro c label met
        cases label with
        | env change =>
          rintro _ ⟨⟩ same
          exact met same
        | _ => simp [Met, keepsLimit]
    have perWindow := (sound.limit _ rfl).perWindow
    have windows : Windowed Admitted.time Admitted.windowStart hourMs
        (admittedOf after.mem.history userId) := by
      have counted := sound.counted userId
      unfold CountedBy at counted
      split at counted
      next => exact counted ▸ Windowed.nil
      next => exact counted.2.toWindowed
    refine ⟨windows, perWindow, fun since => ?_⟩
    obtain ⟨n, rfl⟩ := Int.eq_ofNat_of_zero_le (by omega : 0 ≤ limit)
    have twice := windows.countFrom_le (fun window => Int.ofNat_le.mp (perWindow window)) since
    exact_mod_cast twice

theorem samplePayload_typed (name : String) : TextMember (.object []) name :=
  fun _ isMember => nomatch isMember

def samplePayload : AlertPayload := ⟨.object [], samplePayload_typed _, samplePayload_typed _⟩

theorem sampleClock_ordered (k : Nat) : (k : Int) ≤ (k + 1 : Nat) := by omega

/-- A clock that is read once a millisecond. -/
def sampleClock : Clock := ⟨fun k => k, sampleClock_ordered⟩

def sampleHost : AlertHost := ⟨true, true, fun _ => 0⟩

/-- Users without preferences. -/
def sampleWorld : AlertWorld := ⟨fun _ => none⟩

/-- A payload is dispatched twice. -/
def sampleLabels : List (Label (alertProcess sampleHost)) :=
  [.call (.dispatch "user" samplePayload), .call (.dispatch "user" samplePayload), .resume 0,
    .resume 1, .reply 0 .done, .resume 0]

theorem alert_dispatched : ∃ after,
    run sampleLabels (Config.initial (alertProcess sampleHost) sampleWorld (.fresh sampleClock)) =
      some after ∧
    clearedIn after.mem.history "user" "{}" 0 ≤ 1 ∧ WithinLimit after.mem.history "user" 10 := by
  obtain ⟨after, ran⟩ := Option.isSome_iff_exists.mp (by decide +kernel :
    (run sampleLabels
      (Config.initial (alertProcess sampleHost) sampleWorld (.fresh sampleClock))).isSome = true)
  have limited := alerts_limited sampleHost sampleWorld sampleClock sampleLabels after ran
  exact ⟨after, ran, limited.1 _ _ _, limited.2 "user" 10 (by decide) rfl
    (by simp [sampleLabels, Admissible, FixedLimit])⟩

end AlianStructure.Guarantees.AlertLimits
