import AlianStructure.Library.FixedWindow
import AlianStructure.Source.RateLimiting.RateLimiterService

/-!
# The windows of the quota guard

Source: src/common/guard/quota.guard.ts:173-241. Only the windows that are not over matter to a request, and the
cleanup removes none of these. Without it, the window of a key counts the requests that were allowed in it, up to the
limit.
-/
namespace AlianStructure.Guarantees.QuotaWindows
open Library.FixedWindow Library.InsertionOrder Library.KeyedTable
open Source.RateLimiting Source.RateLimiting.QuotaGuard

/-- A call and its answer. -/
structure Served where
  key : String
  time : ℚ
  decision : QuotaDecision
  deriving DecidableEq

/-- The beginning of the window that a call was counted in. -/
def Served.windowStart (windowMs : ℚ) (served : Served) : ℚ := served.decision.resetAt - windowMs

/-- The calls on a guard, under a cleanup. -/
def serve (cleanup : QuotaGuard → ℚ → QuotaGuard) (limit windowMs : ℚ) : QuotaGuard → List (String × ℚ) → List Served
  | _, [] => []
  | guard, (key, now) :: rest =>
    let answer := consumeWith cleanup guard key limit windowMs now
    ⟨key, now, answer.1⟩ :: serve cleanup limit windowMs answer.2 rest

/-- The allowed requests of a key. -/
def allowedOf (served : List Served) (key : String) : List Served :=
  served.filter fun call => call.decision.allowed && decide (call.key = key)

/-- Requests are in their windows, of which none has more than the limit, and no period of the length of a window has
more than twice the limit. -/
structure WithinQuota (limit windowMs : ℚ) (allowed : List Served) : Prop where
  windows : Windowed Served.time (Served.windowStart windowMs) windowMs allowed
  perWindow : ∀ window : ℚ, (countAt (Served.windowStart windowMs) allowed window : ℚ) ≤ limit
  anywhere : ∀ since : ℚ, (countFrom Served.time windowMs allowed since : ℚ) ≤ 2 * limit

/-- The window of a key that is not over. -/
def openAt (guard : QuotaGuard) (key : String) (now : ℚ) : Option RateWindowState :=
  (guard.windows.get? key).filter fun state => decide (now < state.resetAt)

/-- A cleanup that removes no window before it is over. -/
def Harmless (cleanup : QuotaGuard → ℚ → QuotaGuard) : Prop :=
  ∀ guard key now later, now ≤ later → openAt (cleanup guard now) key later = openAt guard key later

theorem cleanupExpired_harmless : Harmless cleanupExpired := by
  intro guard key now later order
  unfold cleanupExpired
  split
  next => rfl
  next =>
    split
    next => rfl
    next =>
      unfold openAt OrderedMap.get?
      rw [Table.findOne_delete]
      cases found : Table.findOne guard.windows key with
      | none => rfl
      | some entry =>
        by_cases reached : entry.2.resetAt ≤ now
        · simp [Option.filter_some, reached, not_lt.mpr (reached.trans order)]
        · simp [Option.filter_some, reached]

section Requests
variable {guard other : QuotaGuard} {key : String} {limit windowMs now : ℚ}

/-- The window that a request is counted in, before it is counted. -/
def windowOf (guard : QuotaGuard) (key : String) (windowMs now : ℚ) : RateWindowState :=
  (openAt guard key now).getD ⟨0, now + windowMs⟩

theorem consumeWith_eq (cleanup : QuotaGuard → ℚ → QuotaGuard) (guard : QuotaGuard) (key : String)
    (limit windowMs now : ℚ) :
    let state : RateWindowState :=
      { windowOf guard key windowMs now with count := (windowOf guard key windowMs now).count + 1 }
    consumeWith cleanup guard key limit windowMs now =
      (⟨decide ((state.count : ℚ) ≤ limit), max 0 (limit - state.count), state.resetAt⟩,
        cleanup { guard with windows := guard.windows.set key state } now) := by
  unfold consumeWith windowOf openAt
  cases found : guard.windows.get? key with
  | none => rfl
  | some state =>
    by_cases reached : state.resetAt ≤ now
    · simp [Option.filter_some, reached, not_lt.mpr reached]
    · simp [Option.filter_some, reached, not_le.mp reached]

theorem filter_later {left right : Option RateWindowState} {later : ℚ} (order : now ≤ later)
    (same : (left.filter fun state => decide (now < state.resetAt)) =
      right.filter fun state => decide (now < state.resetAt)) :
    (left.filter fun state => decide (later < state.resetAt)) =
      right.filter fun state => decide (later < state.resetAt) := by
  have narrow : ∀ stored : Option RateWindowState, (stored.filter fun state => decide (later < state.resetAt)) =
      (stored.filter fun state => decide (now < state.resetAt)).filter fun state => decide (later < state.resetAt) := by
    intro stored
    rw [Option.filter_filter]
    refine congrArg stored.filter (funext fun state => ?_)
    by_cases young : later < state.resetAt
    · simp [young, order.trans_lt young]
    · simp [young]
  rw [narrow left, narrow right, same]

/-- Guards with the same open windows give the same answer, and have the same open windows after it. -/
theorem consumeWith_alike {cleanup clearing : QuotaGuard → ℚ → QuotaGuard} (key : String) (limit windowMs : ℚ)
    (harmless : Harmless cleanup) (clears : Harmless clearing) (alike : ∀ name, openAt guard name now = openAt other name now) :
    (consumeWith cleanup guard key limit windowMs now).1 = (consumeWith clearing other key limit windowMs now).1 ∧
      ∀ later, now ≤ later → ∀ name, openAt (consumeWith cleanup guard key limit windowMs now).2 name later =
        openAt (consumeWith clearing other key limit windowMs now).2 name later := by
  have same : windowOf guard key windowMs now = windowOf other key windowMs now := by
    unfold windowOf
    rw [alike]
  rw [consumeWith_eq, consumeWith_eq, same]
  refine ⟨rfl, fun later order name => ?_⟩
  rw [harmless _ _ _ _ order, clears _ _ _ _ order]
  have before := alike name
  unfold openAt at before ⊢
  rw [OrderedMap.get?_set, OrderedMap.get?_set]
  split
  next => rfl
  next => exact filter_later order before

end Requests

theorem serve_alike {cleanup clearing : QuotaGuard → ℚ → QuotaGuard} (harmless : Harmless cleanup)
    (clears : Harmless clearing) (limit windowMs : ℚ) :
    ∀ (calls : List (String × ℚ)) (guard other : QuotaGuard) (now : ℚ), (now :: calls.map Prod.snd).Pairwise (· ≤ ·) →
      (∀ later, now ≤ later → ∀ name, openAt guard name later = openAt other name later) →
      serve cleanup limit windowMs guard calls = serve clearing limit windowMs other calls
  | [], _, _, _, _, _ => rfl
  | (key, time) :: rest, guard, other, now, sorted, alike => by
    obtain ⟨before, tail⟩ := List.pairwise_cons.mp sorted
    have order : now ≤ time := before time (by simp)
    obtain ⟨answer, after⟩ := consumeWith_alike key limit windowMs harmless clears
      (alike time order)
    unfold serve
    dsimp only
    rw [answer, serve_alike harmless clears limit windowMs rest _ _ time tail after]

section Counting
variable {limit windowMs : ℚ}

/-- The guard without its cleanup. -/
def uncleaned (guard : QuotaGuard) (_ : ℚ) : QuotaGuard := guard

theorem uncleaned_harmless : Harmless uncleaned := fun _ _ _ _ _ => rfl

/-- The window of a key has counted its requests, the allowed ones up to the limit. -/
structure KeyCounted (limit windowMs : ℚ) (guard : QuotaGuard) (key : String) (now : ℚ) (allowed : List Served) :
    Prop where
  windowed : Windowed Served.time (Served.windowStart windowMs) windowMs allowed
  perWindow : ∀ window, countAt (Served.windowStart windowMs) allowed window ≤ ⌊limit⌋₊
  unopened : guard.windows.get? key = none → allowed = []
  opened : ∀ state, guard.windows.get? key = some state → state.resetAt - windowMs ≤ now ∧
    Counted Served.time (Served.windowStart windowMs) windowMs allowed (min state.count ⌊limit⌋₊)
      (state.resetAt - windowMs)

variable {guard : QuotaGuard} {key : String} {now time : ℚ} {allowed : List Served}

theorem KeyCounted.new (key : String) (now started : ℚ) :
    KeyCounted limit windowMs (QuotaGuard.new started) key now [] :=
  ⟨Windowed.nil, fun _ => Nat.zero_le _, fun _ => rfl, fun state found => by cases found⟩

theorem KeyCounted.over (counted : KeyCounted limit windowMs guard key now allowed) (closed : openAt guard key time = none) :
    ∀ served ∈ allowed, served.windowStart windowMs + windowMs ≤ time := by
  intro served member
  cases found : guard.windows.get? key with
  | none =>
    rw [counted.unopened found] at member
    cases member
  | some state =>
    have reset : state.resetAt ≤ time := by
      unfold openAt at closed
      rw [found, Option.filter_eq_none_iff] at closed
      simpa using closed state rfl
    obtain ⟨_, counts⟩ := counted.opened state found
    by_cases current : served.windowStart windowMs = state.resetAt - windowMs
    · rw [current, sub_add_cancel]
      exact reset
    · have older := counts.latest served member current
      have positive := counts.inside served member
      linarith

theorem perWindow_concat {served : Served} {count : Nat} {window : ℚ}
    (perWindow : ∀ window, countAt (Served.windowStart windowMs) allowed window ≤ ⌊limit⌋₊)
    (counts : Counted Served.time (Served.windowStart windowMs) windowMs (allowed ++ [served]) count window)
    (here : served.windowStart windowMs = window) (fits : count ≤ ⌊limit⌋₊) (other : ℚ) :
    countAt (Served.windowStart windowMs) (allowed ++ [served]) other ≤ ⌊limit⌋₊ := by
  by_cases same : window = other
  · rw [← same, counts.counted]
    exact fits
  · rw [countAt_concat, here, if_neg same]
    exact perWindow other

theorem KeyCounted.other (counted : KeyCounted limit windowMs guard key now allowed) (order : now ≤ time)
    {name : String} (differs : key ≠ name) :
    KeyCounted limit windowMs (consumeWith uncleaned guard name limit windowMs time).2 key time allowed := by
  rw [consumeWith_eq]
  refine ⟨counted.windowed, counted.perWindow, fun absent => ?_, fun state found => ?_⟩
  · rw [uncleaned, OrderedMap.get?_set_other _ _ differs] at absent
    exact counted.unopened absent
  · rw [uncleaned, OrderedMap.get?_set_other _ _ differs] at found
    obtain ⟨begun, counts⟩ := counted.opened state found
    exact ⟨begun.trans order, counts⟩

theorem KeyCounted.store {state : RateWindowState}
    (perWindow : ∀ window, countAt (Served.windowStart windowMs) allowed window ≤ ⌊limit⌋₊)
    (begun : state.resetAt - windowMs ≤ time)
    (counts : Counted Served.time (Served.windowStart windowMs) windowMs allowed (min state.count ⌊limit⌋₊)
      (state.resetAt - windowMs)) :
    KeyCounted limit windowMs { guard with windows := guard.windows.set key state } key time allowed := by
  refine ⟨counts.toWindowed, perWindow, fun absent => ?_, fun stored found => ?_⟩
  · rw [OrderedMap.get?_set_self] at absent
    cases absent
  · rw [OrderedMap.get?_set_self] at found
    obtain rfl := Option.some.inj found
    exact ⟨begun, counts⟩

theorem KeyCounted.consume (counted : KeyCounted limit windowMs guard key now allowed) (limit_pos : 1 ≤ limit)
    (window_pos : 0 < windowMs) (order : now ≤ time) :
    let answer := consumeWith uncleaned guard key limit windowMs time
    KeyCounted limit windowMs answer.2 key time (allowed ++ allowedOf [⟨key, time, answer.1⟩] key) := by
  have unit : 1 ≤ ⌊limit⌋₊ := Nat.le_floor (by exact_mod_cast limit_pos)
  rw [consumeWith_eq]
  unfold windowOf
  cases isOpen : openAt guard key time with
  | none =>
    have isFirst : decide (((0 + 1 : ℕ) : ℚ) ≤ limit) = true := by simpa using limit_pos
    dsimp only [Option.getD_none]
    rw [isFirst]
    generalize isServed : Served.mk key time ⟨true, max 0 (limit - (0 + 1 : ℕ)), time + windowMs⟩ = served
    have start : served.windowStart windowMs = served.time := by
      rw [← isServed]
      exact add_sub_cancel_right time windowMs
    have at_time : served.time = time := by rw [← isServed]
    have listed : allowedOf [served] key = [served] := by simp [allowedOf, ← isServed]
    have counts := counted.windowed.opens served window_pos (at_time ▸ counted.over isOpen) start
    rw [listed]
    refine KeyCounted.store (perWindow_concat counted.perWindow counts rfl unit) (by simp) ?_
    rw [min_eq_left unit, add_sub_cancel_right, ← at_time, ← start]
    exact counts
  | some state =>
    obtain ⟨found, young⟩ := Option.filter_eq_some_iff.mp isOpen
    obtain ⟨begun, counts⟩ := counted.opened state found
    have inside : time < state.resetAt := of_decide_eq_true young
    dsimp only [Option.getD_some]
    generalize isServed : Served.mk key time ⟨decide (((state.count + 1 : ℕ) : ℚ) ≤ limit),
      max 0 (limit - (state.count + 1 : ℕ)), state.resetAt⟩ = served
    by_cases room : ((state.count + 1 : ℕ) : ℚ) ≤ limit
    · have fits : state.count + 1 ≤ ⌊limit⌋₊ := Nat.le_floor room
      have start : served.windowStart windowMs = state.resetAt - windowMs := by rw [← isServed, Served.windowStart]
      have at_time : served.time = time := by rw [← isServed]
      have listed : allowedOf [served] key = [served] := by
        rw [← isServed, allowedOf, List.filter_cons_of_pos (by simpa using room), List.filter_nil]
      rw [min_eq_left (Nat.le_of_succ_le fits)] at counts
      have more := counts.counts served start (at_time ▸ begun.trans order)
        (by rw [at_time, sub_add_cancel]; exact inside)
      rw [listed]
      refine KeyCounted.store (perWindow_concat counted.perWindow more start fits) (begun.trans order) ?_
      rw [min_eq_left fits]
      exact more
    · have full : ⌊limit⌋₊ ≤ state.count := by
        by_contra short
        exact room ((Nat.le_floor_iff (zero_le_one.trans limit_pos)).mp (Nat.lt_of_not_le short))
      have listed : allowedOf [served] key = [] := by
        rw [← isServed, allowedOf, List.filter_cons_of_neg (by simpa using room), List.filter_nil]
      rw [listed, List.append_nil]
      refine KeyCounted.store counted.perWindow (begun.trans order) ?_
      rw [min_eq_right full] at counts
      rw [min_eq_right (full.trans (Nat.le_succ _))]
      exact counts

theorem allowedOf_cons (first : Served) (rest : List Served) (key : String) :
    allowedOf (first :: rest) key = allowedOf [first] key ++ allowedOf rest key := by
  unfold allowedOf
  rw [← List.filter_append, List.singleton_append]

theorem KeyCounted.serve (limit_pos : 1 ≤ limit) (window_pos : 0 < windowMs) (key : String) :
    ∀ (calls : List (String × ℚ)) (guard : QuotaGuard) (now : ℚ) (allowed : List Served),
      (now :: calls.map Prod.snd).Pairwise (· ≤ ·) → KeyCounted limit windowMs guard key now allowed →
      ∃ last later, KeyCounted limit windowMs last key later
        (allowed ++ allowedOf (QuotaWindows.serve uncleaned limit windowMs guard calls) key)
  | [], guard, now, allowed, _, counted => by
    refine ⟨guard, now, ?_⟩
    rw [QuotaWindows.serve, allowedOf, List.filter_nil, List.append_nil]
    exact counted
  | (name, time) :: rest, guard, now, allowed, sorted, counted => by
    obtain ⟨before, tail⟩ := List.pairwise_cons.mp sorted
    have order : now ≤ time := before time (by simp)
    have next : KeyCounted limit windowMs (consumeWith uncleaned guard name limit windowMs time).2 key time
        (allowed ++ allowedOf [⟨name, time, (consumeWith uncleaned guard name limit windowMs time).1⟩] key) := by
      by_cases same : key = name
      · subst same
        exact counted.consume limit_pos window_pos order
      · have listed : allowedOf [⟨name, time, (consumeWith uncleaned guard name limit windowMs time).1⟩] key = [] := by
          simp [allowedOf, Ne.symm same]
        rw [listed, List.append_nil]
        exact counted.other order same
    obtain ⟨last, later, final⟩ := KeyCounted.serve limit_pos window_pos key rest _ time _ tail next
    refine ⟨last, later, ?_⟩
    rw [QuotaWindows.serve, allowedOf_cons, ← List.append_assoc]
    exact final

theorem KeyCounted.withinQuota (counted : KeyCounted limit windowMs guard key now allowed) (limit_pos : 1 ≤ limit) :
    WithinQuota limit windowMs allowed := by
  have floor : ((⌊limit⌋₊ : ℕ) : ℚ) ≤ limit := Nat.floor_le (zero_le_one.trans limit_pos)
  refine ⟨counted.windowed, fun window => ?_, fun since => ?_⟩
  · exact (Nat.cast_le.mpr (counted.perWindow window)).trans floor
  · have twice : (countFrom Served.time windowMs allowed since : ℚ) ≤ (2 * ⌊limit⌋₊ : ℕ) :=
      Nat.cast_le.mpr (counted.windowed.countFrom_le counted.perWindow since)
    push_cast at twice
    linarith

end Counting

/-- Every key has at most the limit of allowed requests in a window, and twice the limit in a period of its length, be
it open on either side; the answers are those of a guard that never cleans up. -/
theorem quota_bound (limit windowMs started : ℚ) (limit_pos : 1 ≤ limit) (window_pos : 0 < windowMs)
    (calls : List (String × ℚ)) (sorted : (calls.map Prod.snd).Pairwise (· ≤ ·)) :
    let served := serve cleanupExpired limit windowMs (QuotaGuard.new started) calls
    (∀ key, WithinQuota limit windowMs (allowedOf served key)) ∧
      served = serve uncleaned limit windowMs (QuotaGuard.new started) calls := by
  have begun : ∃ now, (now :: calls.map Prod.snd).Pairwise (· ≤ ·) := by
    cases calls with
    | nil => exact ⟨0, List.pairwise_singleton _ _⟩
    | cons first rest =>
      refine ⟨first.2, List.pairwise_cons.mpr ⟨fun time member => ?_, sorted⟩⟩
      rcases List.mem_cons.mp member with rfl | later
      · exact le_rfl
      · exact (List.pairwise_cons.mp sorted).1 time later
  obtain ⟨now, ordered⟩ := begun
  have same := serve_alike cleanupExpired_harmless uncleaned_harmless limit windowMs calls
    (QuotaGuard.new started) (QuotaGuard.new started) now ordered fun _ _ _ => rfl
  refine ⟨fun key => ?_, same⟩
  rw [same]
  obtain ⟨_, _, counted⟩ := KeyCounted.serve limit_pos window_pos key calls _ now [] ordered
    (KeyCounted.new key now started)
  rw [List.nil_append] at counted
  exact counted.withinQuota limit_pos

/-- Five requests of two keys, with two allowed in a second. -/
theorem quota_bound_five :
    let served := serve cleanupExpired 2 1000 (QuotaGuard.new 0)
      [("user:1", 0), ("user:1", 900), ("user:2", 900), ("user:1", 950), ("user:1", 40000)]
    (∀ key, WithinQuota 2 1000 (allowedOf served key)) ∧
      served = serve uncleaned 2 1000 (QuotaGuard.new 0)
        [("user:1", 0), ("user:1", 900), ("user:2", 900), ("user:1", 950), ("user:1", 40000)] :=
  quota_bound 2 1000 0 (by norm_num) (by norm_num)
    [("user:1", 0), ("user:1", 900), ("user:2", 900), ("user:1", 950), ("user:1", 40000)] (by norm_num)

end AlianStructure.Guarantees.QuotaWindows
