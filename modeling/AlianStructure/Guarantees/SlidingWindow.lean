import AlianStructure.Library.SlidingLog
import AlianStructure.Source.RateLimiting.RateLimiterService

/-!
# The two sliding windows

`consumeMemorySlidingWindow` (rate-limiter.service.ts:315-350) is a sliding log.
SLIDING_WINDOW_LUA (rate-limiter.service.ts:60-85) keeps the same log as the
scores of a sorted set under a key that expires. Request times are epoch
milliseconds, as `Date.now()` gives them. A policy may have fractions: the memory
keeps them, while a reply of Redis loses them and PEXPIRE refuses them.
-/
namespace AlianStructure.Guarantees.SlidingWindow
open Library.ExpiringKey Library.SlidingLog Source.RateLimiting

/-- A sliding-window policy whose numbers are whole. -/
structure WindowPolicy (policy : RateLimitPolicy) (limit windowMs : ℕ) : Prop where
  strategy : policy.strategy = .slidingWindow
  limit_eq : policy.limit = limit
  windowMs_eq : policy.windowMs = windowMs
  limit_pos : 1 ≤ limit
  windowMs_pos : 0 < windowMs

/-! ## The in-memory window is a sliding log -/

/-- The timestamps kept for a key. -/
def entriesOf (state : RateLimiterState) (key : String) : List ℚ := (state.memoryWindows key).getD []

variable {policy : RateLimitPolicy} {limit windowMs : ℕ}

theorem consumeMemorySlidingWindow_refines (whole : WindowPolicy policy limit windowMs)
    (state : RateLimiterState) (key : String) (now : ℚ) :
    let call := consumeMemorySlidingWindow state key policy now
    let request := screen limit (windowMs : ℚ) (entriesOf state key) now
    call.1.allowed = request.1 ∧ entriesOf call.2 key = request.2 := by
  unfold consumeMemorySlidingWindow screen recent entriesOf
  rw [whole.limit_eq, whole.windowMs_eq]
  dsimp only
  simp only [Nat.cast_lt]
  split <;> simp

theorem memoryRun_admitted (whole : WindowPolicy policy limit windowMs) (key : String) :
    ∀ (times : List ℚ) (state : RateLimiterState),
      ((memoryRun policy key state times).filter (·.2.allowed)).map (·.1) =
        admitted limit (windowMs : ℚ) (entriesOf state key) times
  | [], _ => rfl
  | now :: rest, state => by
    obtain ⟨allowed, left⟩ := consumeMemorySlidingWindow_refines whole state key now
    have tail := memoryRun_admitted whole key rest
      (consumeMemorySlidingWindow state key policy now).2
    rw [left] at tail
    simp only [memoryRun, consumeMemory, whole.strategy, List.filter_cons, allowed, admitted]
    split
    · rw [List.map_cons, tail]
    · exact tail

/-! ## The sorted set -/

theorem scores_filter (set : List WindowMember) (keep : ℚ → Bool) :
    (set.filter fun m => keep m.score).map (·.score) = (set.map (·.score)).filter keep := by
  rw [List.filter_map]
  rfl

/-- A new member with the largest score goes to the end of the scores, wherever
the order of equal scores puts it. -/
theorem scores_insert (entry : WindowMember) :
    ∀ set : List WindowMember, (set.map (·.score)).Pairwise (· ≤ ·) →
      (∀ m ∈ set, m.score ≤ entry.score) →
      (set.takeWhile (fun m => m.precedes entry) ++
          entry :: set.dropWhile (fun m => m.precedes entry)).map (·.score) =
        set.map (·.score) ++ [entry.score]
  | [], _, _ => rfl
  | first :: rest, sorted, largest => by
    obtain ⟨head, tail⟩ := List.pairwise_cons.mp sorted
    have upper : ∀ m ∈ rest, m.score ≤ entry.score := fun m member => largest m (by simp [member])
    by_cases before : first.precedes entry = true
    · have ih := scores_insert entry rest tail upper
      simp only [List.takeWhile_cons, List.dropWhile_cons, before, if_true, List.cons_append,
        List.map_cons, ih]
    · -- The scores from here on all equal the new one.
      have reached : first.score = entry.score := by
        have most := largest first (by simp)
        simp only [WindowMember.precedes, Bool.or_eq_true, Bool.and_eq_true, decide_eq_true_eq,
          not_or] at before
        exact le_antisymm most (not_lt.mp before.1)
      have equal : rest.map (·.score) = List.replicate rest.length entry.score := by
        rw [List.eq_replicate_iff]
        refine ⟨by simp, fun score member => ?_⟩
        obtain ⟨m, inside, rfl⟩ := List.mem_map.mp member
        exact le_antisymm (upper m inside) (reached ▸ head _ member)
      simp only [List.takeWhile_cons, List.dropWhile_cons, before, Bool.false_eq_true, if_false,
        List.nil_append, List.map_cons, equal, reached]
      rw [← List.replicate_succ, ← List.replicate_succ]
      exact List.replicate_succ'

theorem scores_zadd {set : List WindowMember} {entry : WindowMember}
    (fresh : ∀ m ∈ set, m.member ≠ entry.member) (sorted : (set.map (·.score)).Pairwise (· ≤ ·))
    (largest : ∀ m ∈ set, m.score ≤ entry.score) :
    (zadd set entry).map (·.score) = set.map (·.score) ++ [entry.score] := by
  have others : (set.filter fun m => decide (m.member ≠ entry.member)) = set := by
    rw [List.filter_eq_self]
    simpa using fresh
  simp only [zadd, others]
  exact scores_insert entry set sorted largest

theorem mem_zadd {set : List WindowMember} {entry m : WindowMember} (member : m ∈ zadd set entry) :
    m = entry ∨ m ∈ set := by
  simp only [zadd, List.mem_append, List.mem_cons] at member
  rcases member with taken | rfl | dropped
  · exact Or.inr (List.mem_filter.mp ((List.takeWhile_prefix _).subset taken)).1
  · exact Or.inl rfl
  · exact Or.inr (List.mem_filter.mp ((List.dropWhile_suffix _).subset dropped)).1

/-! ## The simulation -/

/-- The set under a key, expired or not. -/
def setOf (stored : Option WindowEntry) : List WindowMember :=
  (stored.map (·.value)).getD []

/-- The set as a script run at `now` sees it after ZREMRANGEBYSCORE. -/
def pruned (windowMs now : ℚ) (stored : Option WindowEntry) :
    List WindowMember :=
  ((live stored (now : WithTop ℚ)).getD []).filter
    fun m => ! (decide (0 ≤ m.score) && decide (m.score ≤ now - windowMs))

/-- The set's scores are the kept timestamps, and the key outlives the window of
each of them. -/
structure Simulates (windowMs : ℕ) (used : List String) (last : ℚ) (entries : List ℚ)
    (stored : Option WindowEntry) : Prop where
  scores : (setOf stored).map (·.score) = entries
  sorted : entries.Pairwise (· ≤ ·)
  past : ∀ ts ∈ entries, ts ≤ last
  whole : ∀ ts ∈ entries, ∃ n : ℕ, ts = n
  outlives : ∀ entry, stored = some entry → ∀ ts ∈ entries, ((ts + windowMs : ℚ) : WithTop ℚ) ≤ entry.expiresAt
  members : ∀ m ∈ setOf stored, m.member ∈ used

variable {stored : Option WindowEntry}

theorem mem_pruned {windowMs now : ℚ} {m : WindowMember} (member : m ∈ pruned windowMs now stored) :
    m ∈ setOf stored := by
  have inside := (List.mem_filter.mp member).1
  cases stored with
  | none => exact inside
  | some entry =>
    by_cases alive : (now : WithTop ℚ) < entry.expiresAt
    · rwa [live_before alive] at inside
    · rw [live_after (not_lt.mp alive)] at inside
      cases inside

variable {used : List String}

/-- An expired key and a set pruned to nothing look the same: whatever the key
held is a whole window old. -/
theorem Simulates.pruned_scores {windowMs : ℕ} {last : ℚ} {entries : List ℚ}
    (sim : Simulates windowMs used last entries stored) (now : ℚ) :
    (pruned windowMs now stored).map (·.score) = recent (windowMs : ℚ) entries now := by
  have same : ∀ ts ∈ entries,
      (! (decide (0 ≤ ts) && decide (ts ≤ now - windowMs))) = decide (now - windowMs < ts) := by
    intro ts member
    obtain ⟨n, rfl⟩ := sim.whole ts member
    by_cases old : (n : ℚ) ≤ now - windowMs
    · simp [old, not_lt.mpr old]
    · simp [old, not_le.mp old]
  unfold pruned recent
  rw [scores_filter _ fun score => ! (decide (0 ≤ score) && decide (score ≤ now - windowMs))]
  cases stored with
  | none =>
    have empty : entries = [] := sim.scores.symm
    simp [empty]
  | some entry =>
    by_cases alive : (now : WithTop ℚ) < entry.expiresAt
    · have scores : entry.value.map (·.score) = entries := sim.scores
      rw [live_before alive, Option.getD_some, scores]
      exact List.filter_congr same
    · rw [live_after (not_lt.mp alive)]
      symm
      rw [Option.getD_none, List.map_nil, List.filter_nil, List.filter_eq_nil_iff]
      intro ts member
      have outlived := WithTop.coe_le_coe.mp ((sim.outlives entry rfl ts member).trans (not_lt.mp alive))
      simp only [decide_eq_true_eq, not_lt]
      linarith

theorem Simulates.grant {windowMs : ℕ} {last : ℚ} {entries : List ℚ} {now : ℕ} {requestId : String}
    (sim : Simulates windowMs used last entries stored) (later : last ≤ now) (fresh : requestId ∉ used) :
    Simulates windowMs (requestId :: used) now (recent (windowMs : ℚ) entries now ++ [(now : ℚ)])
      (some ⟨zadd (pruned windowMs now stored) ⟨now, requestId⟩, (now + windowMs : ℚ)⟩) := by
  have scores := sim.pruned_scores now
  have kept_past : ∀ ts ∈ recent (windowMs : ℚ) entries now, ts ≤ now := fun ts member =>
    (sim.past ts (mem_recent.mp member).1).trans later
  have kept_sorted : (recent (windowMs : ℚ) entries now).Pairwise (· ≤ ·) := sim.sorted.filter _
  have new_member : ∀ m ∈ pruned windowMs now stored, m.member ≠ requestId := by
    intro m member same
    have known := sim.members m (mem_pruned member)
    rw [same] at known
    exact fresh known
  have inserted : (zadd (pruned windowMs now stored) ⟨now, requestId⟩).map (·.score) =
      (pruned windowMs now stored).map (·.score) ++ [(now : ℚ)] :=
    scores_zadd new_member (scores ▸ kept_sorted)
      fun m member => kept_past m.score (scores ▸ List.mem_map_of_mem member)
  have all_past : ∀ ts ∈ recent (windowMs : ℚ) entries now ++ [(now : ℚ)], ts ≤ now := by
    intro ts member
    rcases List.mem_append.mp member with kept | new
    · exact kept_past ts kept
    · exact (List.mem_singleton.mp new).le
  refine ⟨?_, ?_, all_past, ?_, ?_, ?_⟩
  · rw [← scores]
    exact inserted
  · exact List.pairwise_append.mpr ⟨kept_sorted, List.pairwise_singleton _ _,
      fun ts member other last => (List.mem_singleton.mp last) ▸ kept_past ts member⟩
  · intro ts member
    rcases List.mem_append.mp member with kept | new
    · exact sim.whole ts (mem_recent.mp kept).1
    · exact ⟨now, List.mem_singleton.mp new⟩
  · rintro entry ⟨⟩ ts member
    exact WithTop.coe_le_coe.mpr (by linarith [all_past ts member])
  · intro m member
    rcases mem_zadd member with rfl | old
    · exact List.mem_cons_self
    · exact List.mem_cons_of_mem _ (sim.members m (mem_pruned old))

theorem Simulates.refuse {windowMs : ℕ} {last : ℚ} {entries : List ℚ}
    {entry : WindowEntry} {now : ℕ} {requestId : String}
    (sim : Simulates windowMs used last entries (some entry)) (later : last ≤ now) :
    Simulates windowMs (requestId :: used) now (recent (windowMs : ℚ) entries now)
      (some { entry with value := pruned windowMs now (some entry) }) := by
  refine ⟨sim.pruned_scores now, sim.sorted.filter _, ?_, ?_, ?_, ?_⟩
  · exact fun ts member => (sim.past ts (mem_recent.mp member).1).trans later
  · exact fun ts member => sim.whole ts (mem_recent.mp member).1
  · rintro _ ⟨⟩ ts member
    exact sim.outlives entry rfl ts (mem_recent.mp member).1
  · exact fun m member => List.mem_cons_of_mem _ (sim.members m (mem_pruned member))

theorem slidingWindowLua_grant {limit windowMs now : ℚ} (requestId : String) (whole : windowMs.isInt = true)
    (room : ((pruned windowMs now stored).length : ℚ) < limit) :
    slidingWindowLua stored limit windowMs now requestId =
      (some ⟨1, toIntegerReply (limit - (pruned windowMs now stored).length - 1), 0⟩,
        some ⟨zadd (pruned windowMs now stored) ⟨now, requestId⟩, (now + windowMs : ℚ)⟩) := by
  unfold slidingWindowLua
  dsimp only
  rw [if_pos whole]
  exact if_pos room

theorem slidingWindowLua_refuse {limit windowMs now : ℚ} {entry : WindowEntry}
    {oldest : WindowMember} {rest : List WindowMember} (requestId : String)
    (set : pruned windowMs now (some entry) = oldest :: rest)
    (full : ¬ ((pruned windowMs now (some entry)).length : ℚ) < limit) :
    slidingWindowLua (some entry) limit windowMs now requestId =
      (some ⟨0, 0, toIntegerReply (max 0 (oldest.score + windowMs - now))⟩,
        some { entry with value := oldest :: rest }) := by
  unfold slidingWindowLua
  unfold pruned at set full
  dsimp only
  rw [if_neg full]
  simp only [set]
  rfl

theorem consumeMemorySlidingWindow_grant (whole : WindowPolicy policy limit windowMs)
    {state : RateLimiterState} {key : String} {now : ℚ}
    (room : (recent (windowMs : ℚ) (entriesOf state key) now).length < limit) :
    let entries := recent (windowMs : ℚ) (entriesOf state key) now
    consumeMemorySlidingWindow state key policy now =
      (⟨true, max 0 (limit - entries.length - 1), now + windowMs, none⟩,
        { state with memoryWindows := state.memoryWindows.set key (entries ++ [now]) }) := by
  unfold recent entriesOf at room
  unfold consumeMemorySlidingWindow recent entriesOf
  rw [whole.limit_eq, whole.windowMs_eq]
  dsimp only
  simp only [Nat.cast_lt]
  rw [if_pos room]

theorem consumeMemorySlidingWindow_refuse (whole : WindowPolicy policy limit windowMs)
    {state : RateLimiterState} {key : String} {now oldest : ℚ} {rest : List ℚ}
    (entries : recent (windowMs : ℚ) (entriesOf state key) now = oldest :: rest)
    (full : ¬ (recent (windowMs : ℚ) (entriesOf state key) now).length < limit) :
    consumeMemorySlidingWindow state key policy now =
      (⟨false, 0, oldest + windowMs, some (max 0 (oldest + windowMs - now))⟩,
        { state with memoryWindows := state.memoryWindows.set key (oldest :: rest) }) := by
  unfold recent entriesOf at entries full
  unfold consumeMemorySlidingWindow
  rw [whole.limit_eq, whole.windowMs_eq]
  dsimp only
  simp only [Nat.cast_lt]
  rw [if_neg full, entries]
  rfl

/-- The parts of a decision that the two windows share. -/
def shared (decision : RateLimitDecision) : Bool × ℚ × Option ℚ :=
  (decision.allowed, decision.remaining, decision.retryAfterMs)

/-- A refusal's delay is a positive whole number, so the integer reply loses
nothing and neither side drops it. -/
theorem retry_positive {windowMs now : ℕ} {oldest : ℚ} (whole : ∃ n : ℕ, oldest = n)
    (young : (now : ℚ) - windowMs < oldest) : 0 < toIntegerReply (max 0 (oldest + windowMs - now)) ∧
      (toIntegerReply (max 0 (oldest + windowMs - now)) : ℚ) = max 0 (oldest + windowMs - now) := by
  obtain ⟨n, rfl⟩ := whole
  have positive : (0 : ℤ) < n + windowMs - now := by
    have : (0 : ℚ) < n + windowMs - now := by linarith
    exact_mod_cast this
  have value : max 0 ((n : ℚ) + windowMs - now) = ((n + windowMs - now : ℤ) : ℚ) := by
    push_cast
    exact max_eq_right (by linarith)
  rw [value, toIntegerReply_intCast]
  exact ⟨positive, rfl⟩

theorem slidingWindow_step (whole : WindowPolicy policy limit windowMs)
    {memory : RateLimiterState} {key : String} {last : ℚ} {now : ℕ} {requestId : String}
    (replied : ℚ) (sim : Simulates windowMs used last (entriesOf memory key) stored)
    (later : last ≤ now) (fresh : requestId ∉ used) :
    let left := consumeMemorySlidingWindow memory key policy now
    let right := slidingWindowLua stored policy.limit policy.windowMs now requestId
    right.1.map (fun reply => shared (decisionOfReply policy reply replied)) = some (shared left.1) ∧
      Simulates windowMs (requestId :: used) now (entriesOf left.2 key) right.2 := by
  have scores := sim.pruned_scores now
  have count : (pruned windowMs now stored).length =
      (recent (windowMs : ℚ) (entriesOf memory key) now).length := by
    rw [← scores, List.length_map]
  have cast : ((pruned windowMs now stored).length : ℚ) < limit ↔
      (recent (windowMs : ℚ) (entriesOf memory key) now).length < limit := by
    rw [count, Nat.cast_lt]
  by_cases room : (recent (windowMs : ℚ) (entriesOf memory key) now).length < limit
  · have left : toIntegerReply ((limit : ℚ) -
        (recent (windowMs : ℚ) (entriesOf memory key) now).length - 1) =
        (limit : ℤ) - (recent (windowMs : ℚ) (entriesOf memory key) now).length - 1 := by
      rw [← toIntegerReply_intCast
        ((limit : ℤ) - (recent (windowMs : ℚ) (entriesOf memory key) now).length - 1)]
      push_cast
      rfl
    simp only [consumeMemorySlidingWindow_grant whole room, whole.limit_eq, whole.windowMs_eq,
      slidingWindowLua_grant requestId rfl (cast.mpr room)]
    refine ⟨?_, ?_⟩
    · rw [count, left]
      simp [shared, decisionOfReply]
    · simpa [entriesOf] using sim.grant later fresh
  · have some_left : 0 < (recent (windowMs : ℚ) (entriesOf memory key) now).length := by
      have := whole.limit_pos
      omega
    obtain ⟨entry, rfl⟩ : ∃ entry, stored = some entry := by
      cases stored with
      | none =>
        rw [← count] at some_left
        cases some_left
      | some entry => exact ⟨entry, rfl⟩
    obtain ⟨first, others, set⟩ := List.length_pos_iff_exists_cons.mp (count ▸ some_left)
    have entries : recent (windowMs : ℚ) (entriesOf memory key) now =
        first.score :: others.map (·.score) := by
      rw [← scores, set, List.map_cons]
    have oldest : first.score ∈ recent (windowMs : ℚ) (entriesOf memory key) now := by
      rw [entries]
      exact List.mem_cons_self
    obtain ⟨kept, young⟩ := mem_recent.mp oldest
    obtain ⟨positive, value⟩ := retry_positive (sim.whole _ kept) young
    have refused : Simulates windowMs (requestId :: used) now _ _ := sim.refuse later
    rw [set] at refused
    simp only [consumeMemorySlidingWindow_refuse whole entries room, whole.limit_eq, whole.windowMs_eq,
      slidingWindowLua_refuse requestId set (mt cast.mp room)]
    refine ⟨?_, ?_⟩
    · simp [shared, decisionOfReply, positive, value]
    · rw [entries] at refused
      simpa [entriesOf] using refused

/-- What is compared of the answers of the script, with the times; an error is nothing. -/
def scriptView (policy : RateLimitPolicy) (stored : Option WindowEntry) (requests : List RedisRequest) :
    List (ℚ × Option (Bool × ℚ × Option ℚ)) :=
  (scriptRun policy stored requests).map fun e => (e.1, e.2.map shared)

def memoryView (policy : RateLimitPolicy) (key : String) (state : RateLimiterState)
    (requests : List RedisRequest) : List (ℚ × Option (Bool × ℚ × Option ℚ)) :=
  (memoryRun policy key state (requests.map (·.now))).map fun e => (e.1, some (shared e.2))

theorem slidingWindow_run (whole : WindowPolicy policy limit windowMs) (key : String) :
    ∀ (requests : List RedisRequest) (memory : RateLimiterState) (stored : Option WindowEntry)
      (used : List String) (last : ℚ),
      Simulates windowMs used last (entriesOf memory key) stored →
      (∀ r ∈ requests, ∃ n : ℕ, r.now = n) → (requests.map (·.now)).Pairwise (· ≤ ·) →
      (∀ r ∈ requests, last ≤ r.now) → (requests.map (·.requestId)).Nodup →
      (∀ r ∈ requests, r.requestId ∉ used) →
      scriptView policy stored requests = memoryView policy key memory requests
  | [], _, _, _, _, _, _, _, _, _, _ => rfl
  | request :: rest, memory, stored, used, last, sim, times, sorted, later, distinct, fresh => by
    obtain ⟨n, now⟩ := times request List.mem_cons_self
    obtain ⟨head, tail⟩ := List.pairwise_cons.mp sorted
    obtain ⟨new, distinct⟩ := List.nodup_cons.mp distinct
    have first_later := later request List.mem_cons_self
    rw [now] at first_later
    obtain ⟨same, left⟩ := slidingWindow_step whole request.replied sim first_later
      (fresh request List.mem_cons_self)
    rw [← now] at same left
    have ih := slidingWindow_run whole key rest _ _ _ _ left
      (fun r member => times r (List.mem_cons_of_mem _ member)) tail
      (fun r member => head r.now (List.mem_map_of_mem member)) distinct
      (by
        intro r member known
        rcases List.mem_cons.mp known with equal | old
        · exact new (List.mem_map.mpr ⟨r, member, equal⟩)
        · exact fresh r (List.mem_cons_of_mem _ member) old)
    unfold scriptView memoryView at ih ⊢
    simp only [scriptRun, memoryRun, List.map_cons, ih, consumeMemory, whole.strategy]
    rw [← same, Option.map_map]
    rfl

theorem simulates_initial (windowMs : ℕ) (key : String) (last : ℚ) :
    Simulates windowMs [] last (entriesOf RateLimiterState.initial key) none where
  scores := rfl
  sorted := List.Pairwise.nil
  past := by simp [entriesOf, RateLimiterState.initial, Keyspace.empty]
  whole := by simp [entriesOf, RateLimiterState.initial, Keyspace.empty]
  outlives := by rintro entry ⟨⟩
  members := by simp [setOf]

/-! ## Whole policies, and no others -/

/-- The allowed requests with time in a stretch. -/
def allowedIn (stretch : Set ℚ) [DecidablePred (· ∈ stretch)]
    (view : List (ℚ × Option (Bool × ℚ × Option ℚ))) : ℕ :=
  view.countP fun e => e.2.any (·.1) && decide (e.1 ∈ stretch)

/-- Both windows answer alike, request by request, and both keep every half-open stretch of one window
within the limit. -/
structure Alike (policy : RateLimitPolicy) (script memory : List (ℚ × Option (Bool × ℚ × Option ℚ))) :
    Prop where
  same : script = memory
  bounded : ∀ view ∈ [script, memory], ∀ lo : ℚ,
    allowedIn (Set.Ico lo (lo + policy.windowMs)) view ≤ policy.limit ∧
      allowedIn (Set.Ioc lo (lo + policy.windowMs)) view ≤ policy.limit

theorem allowedIn_memoryView_le (whole : WindowPolicy policy limit windowMs) (key : String)
    {requests : List RedisRequest} (sorted : (requests.map (·.now)).Pairwise (· ≤ ·)) (stretch : Set ℚ)
    [DecidablePred (· ∈ stretch)] (connected : stretch.OrdConnected)
    (short : ∀ a ∈ stretch, ∀ b ∈ stretch, b - (windowMs : ℚ) < a) :
    allowedIn stretch (memoryView policy key RateLimiterState.initial requests) ≤ limit := by
  have admits := memoryRun_admitted whole key (requests.map (·.now)) RateLimiterState.initial
  have counted : allowedIn stretch (memoryView policy key RateLimiterState.initial requests) =
      within stretch (admitted limit (windowMs : ℚ) (entriesOf RateLimiterState.initial key)
        (requests.map (·.now))) := by
    rw [← admits]
    unfold allowedIn memoryView within
    rw [List.countP_map, List.countP_map, List.countP_filter]
    refine List.countP_congr fun e _ => ?_
    simp [and_comm, shared]
  rw [counted]
  exact within_admitted_le connected limit short sorted

theorem exists_natCast {x : ℚ} (whole : x.isInt = true) (notNeg : 0 ≤ x) : ∃ n : ℕ, x = n := by
  have same : (x.num : ℚ) = x := Rat.den_eq_one_iff x |>.mp (by simpa [Rat.isInt] using whole)
  obtain ⟨n, isNat⟩ := Int.eq_ofNat_of_zero_le (Rat.num_nonneg.mpr notNeg)
  exact ⟨n, by rw [← same, isNat]; rfl⟩

/-- The first answers are alike only under a whole policy. -/
theorem whole_of_first {policy : RateLimitPolicy} (sliding : policy.strategy = .slidingWindow)
    (limit_pos : 1 ≤ policy.limit) {key : String} {request : RedisRequest} {rest : List RedisRequest}
    (same : scriptView policy none (request :: rest) =
      memoryView policy key RateLimiterState.initial (request :: rest)) :
    policy.limit.isInt = true ∧ policy.windowMs.isInt = true := by
  have room : (0 : ℚ) < policy.limit := by linarith
  have first := congrArg Prod.snd (List.cons.inj same).1
  simp only [slidingWindowLua, live_none, Option.getD_none, List.filter_nil, List.length_nil, Nat.cast_zero,
    if_pos room, consumeMemory, sliding, consumeMemorySlidingWindow, RateLimiterState.initial,
    Keyspace.empty, sub_zero] at first
  by_cases window : policy.windowMs.isInt = true
  · rw [if_pos window] at first
    have remaining : max 0 (toIntegerReply (policy.limit - 1) : ℚ) = max 0 (policy.limit - 1) :=
      congrArg (fun view => view.2.1) (Option.some.inj first)
    have notNeg : 0 ≤ policy.limit - 1 := by linarith
    rw [toIntegerReply, if_pos notNeg, max_eq_right (Int.cast_nonneg (Int.floor_nonneg.mpr notNeg)),
      max_eq_right notNeg] at remaining
    have isInt : policy.limit = ((⌊policy.limit - 1⌋ + 1 : ℤ) : ℚ) := by
      push_cast
      linarith
    exact ⟨by rw [isInt]; rfl, window⟩
  · rw [if_neg window] at first
    cases first

/-- The two sliding windows agree, and keep every stretch of one window within the limit, exactly when
there is no request or the policy's numbers are whole. -/
theorem sliding_windows_agree_iff (policy : RateLimitPolicy) (sliding : policy.strategy = .slidingWindow)
    (limit_pos : 1 ≤ policy.limit) (windowMs_pos : 0 < policy.windowMs) (key : String)
    (requests : List RedisRequest) (times : ∀ r ∈ requests, ∃ n : ℕ, r.now = n)
    (sorted : (requests.map (·.now)).Pairwise (· ≤ ·)) (distinct : (requests.map (·.requestId)).Nodup) :
    Alike policy (scriptView policy none requests) (memoryView policy key RateLimiterState.initial requests) ↔
      requests = [] ∨ policy.limit.isInt = true ∧ policy.windowMs.isInt = true := by
  constructor
  · intro alike
    cases requests with
    | nil => exact .inl rfl
    | cons request rest => exact .inr (whole_of_first sliding limit_pos alike.same)
  · rintro (rfl | ⟨limit_whole, windowMs_whole⟩)
    · refine ⟨rfl, fun view member lo => ?_⟩
      have empty : view = [] := by simpa [scriptView, memoryView, scriptRun, memoryRun] using member
      rw [empty]
      exact ⟨by simpa [allowedIn] using zero_le_one.trans limit_pos,
        by simpa [allowedIn] using zero_le_one.trans limit_pos⟩
    · obtain ⟨limit, limit_eq⟩ := exists_natCast limit_whole (zero_le_one.trans limit_pos)
      obtain ⟨windowMs, windowMs_eq⟩ := exists_natCast windowMs_whole windowMs_pos.le
      have whole : WindowPolicy policy limit windowMs :=
        ⟨sliding, limit_eq, windowMs_eq, by exact_mod_cast limit_eq ▸ limit_pos,
          by exact_mod_cast windowMs_eq ▸ windowMs_pos⟩
      have same : scriptView policy none requests = memoryView policy key RateLimiterState.initial requests :=
        slidingWindow_run whole key requests _ _ [] 0 (simulates_initial windowMs key 0) times sorted
          (fun r member => by
            obtain ⟨n, now⟩ := times r member
            rw [now]
            exact n.cast_nonneg)
          distinct (by simp)
      refine ⟨same, fun view member lo => ?_⟩
      obtain rfl : view = memoryView policy key RateLimiterState.initial requests := by
        simpa [same] using member
      rw [limit_eq, windowMs_eq]
      have right_open := allowedIn_memoryView_le whole key sorted (Set.Ico lo (lo + windowMs))
        Set.ordConnected_Ico fun a low b high => by linarith [low.1, high.2]
      have left_open := allowedIn_memoryView_le whole key sorted (Set.Ioc lo (lo + windowMs))
        Set.ordConnected_Ioc fun a low b high => by linarith [low.1, high.2]
      exact ⟨Nat.cast_le.mpr right_open, Nat.cast_le.mpr left_open⟩

/-- Two requests a second; the third is refused and the fourth comes when the
first two are exactly one window old. -/
theorem sliding_windows_agree_two :
    let requests : List RedisRequest := [⟨0, 0, "a"⟩, ⟨0, 0, "b"⟩, ⟨500, 500, "c"⟩, ⟨1000, 1001, "d"⟩]
    Alike ⟨2, 1000, 2, .slidingWindow⟩ (scriptView ⟨2, 1000, 2, .slidingWindow⟩ none requests)
      (memoryView ⟨2, 1000, 2, .slidingWindow⟩ "ip" RateLimiterState.initial requests) :=
  (sliding_windows_agree_iff ⟨2, 1000, 2, .slidingWindow⟩ rfl (by norm_num) (by norm_num) "ip"
    [⟨0, 0, "a"⟩, ⟨0, 0, "b"⟩, ⟨500, 500, "c"⟩, ⟨1000, 1001, "d"⟩]
    (by
      simp only [List.forall_mem_cons, List.not_mem_nil, false_imp_iff, implies_true, and_true]
      exact ⟨⟨0, by norm_num⟩, ⟨0, by norm_num⟩, ⟨500, by norm_num⟩, ⟨1000, by norm_num⟩⟩)
    (by norm_num) (by decide)).mpr (.inr (by decide +kernel))

/-- One and a half requests a second are allowed: the script tells that none is left, and the memory half a one. -/
theorem half_lost : ¬ Alike ⟨3 / 2, 1000, 3 / 2, .slidingWindow⟩
    (scriptView ⟨3 / 2, 1000, 3 / 2, .slidingWindow⟩ none [⟨0, 0, "a"⟩])
    (memoryView ⟨3 / 2, 1000, 3 / 2, .slidingWindow⟩ "ip" RateLimiterState.initial [⟨0, 0, "a"⟩]) :=
  fun alike => absurd alike.same (by decide +kernel)

end AlianStructure.Guarantees.SlidingWindow
