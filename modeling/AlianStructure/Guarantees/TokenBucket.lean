import AlianStructure.Source.RateLimiting.RateLimiterService

/-!
# The in-memory token bucket is a refill bucket

`consumeMemoryTokenBucket` (rate-limiter.service.ts:271-313) is one request on a
refill bucket of capacity `burst`; its rate per millisecond is `limit / windowMs`.
The rate bound on every interval of every history is the bucket's bound carried
over by that refinement.
-/
namespace AlianStructure.Guarantees.MemoryTokenBucket
open Library.ExpiringKey Library.RefillBucket Source.RateLimiting

/-- The stored state of one key as a bucket. -/
def bucketOf (stored : MemoryTokenBucketState) : Bucket ℚ := ⟨stored.tokens, stored.ts⟩

/-- Tokens gained per millisecond. -/
def ratePerMs (policy : RateLimitPolicy) : ℚ := ratePerSec policy / 1000

theorem ratePerMs_eq (policy : RateLimitPolicy) : ratePerMs policy = policy.limit / policy.windowMs := by
  unfold ratePerMs ratePerSec
  field_simp

variable {policy : RateLimitPolicy}

theorem ratePerSec_pos (limit : 0 < policy.limit) (windowMs : 0 < policy.windowMs) : 0 < ratePerSec policy :=
  div_pos limit (div_pos windowMs (by norm_num))

/-- One call is one request on the bucket of its key: same decision, same state
left behind. -/
theorem consumeMemoryTokenBucket_refines (state : RateLimiterState) (key : String)
    (policy : RateLimitPolicy) (now : ℚ) :
    let call := consumeMemoryTokenBucket state key policy now
    let request := take policy.burst (ratePerMs policy) ((state.memoryBuckets key).map bucketOf) now
    call.1.allowed = request.1 ∧
      (call.2.memoryBuckets key).map bucketOf = some request.2 := by
  cases found : state.memoryBuckets key with
  | none =>
    by_cases enough : 1 ≤ policy.burst <;>
      simp [consumeMemoryTokenBucket, take, observe, bucketOf, found, enough]
  | some stored =>
    have refill : (now - stored.ts) * ratePerSec policy / 1000 =
        (now - stored.ts) * ratePerMs policy := mul_div_assoc _ _ _
    have seen : observe policy.burst (ratePerMs policy) (some (bucketOf stored)) now =
        min policy.burst (stored.tokens + (now - stored.ts) * ratePerMs policy) := rfl
    simp only [consumeMemoryTokenBucket, take, found, refill, Option.map_some, seen]
    by_cases enough : 1 ≤ min policy.burst (stored.tokens + (now - stored.ts) * ratePerMs policy)
    · simp only [enough, decide_true, if_true, Keyspace.set_self, Option.map_some, bucketOf,
        and_self]
    · simp only [enough, decide_false, if_false, Bool.false_eq_true, Keyspace.set_self,
        Option.map_some, bucketOf, and_self]

theorem memoryRun_serve (strategy : policy.strategy = .tokenBucket) (key : String) :
    ∀ (times : List ℚ) (state : RateLimiterState),
      (memoryRun policy key state times).map (fun e => (e.1, e.2.allowed)) =
        serve policy.burst (ratePerMs policy) ((state.memoryBuckets key).map bucketOf) times
  | [], _ => rfl
  | now :: rest, state => by
    obtain ⟨allowed, left⟩ := consumeMemoryTokenBucket_refines state key policy now
    simp only [memoryRun, consumeMemory, strategy, List.map_cons, serve, allowed]
    rw [memoryRun_serve strategy key rest, left]

/-- The requests of a run that were allowed at a time in `[s, s + T]`. -/
def allowedWithin (s T : ℚ) (run : List (ℚ × RateLimitDecision)) : ℕ :=
  run.countP fun e => e.2.allowed && decide (s ≤ e.1) && decide (e.1 ≤ s + T)

theorem allowedWithin_eq_granted (s T : ℚ) (run : List (ℚ × RateLimitDecision)) :
    allowedWithin s T run = granted s (s + T) (run.map fun e => (e.1, e.2.allowed)) := by
  simp [allowedWithin, granted, List.countP_map, Function.comp_def]

/-- Rate bound of the in-memory token bucket: over every history of one key and
every closed interval of length `T`, at most a burst and the refill of the
interval is allowed. -/
theorem memory_token_bucket_rate_bound (policy : RateLimitPolicy) (key : String)
    (strategy : policy.strategy = .tokenBucket) (limit : 0 < policy.limit)
    (windowMs : 0 < policy.windowMs) (burst : 1 ≤ policy.burst) (times : List ℚ)
    (sorted : times.Pairwise (· ≤ ·)) (s T : ℚ) (length : 0 ≤ T) :
    (allowedWithin s T (memoryRun policy key RateLimiterState.initial times) : ℚ) ≤
      policy.burst + T * policy.limit / policy.windowMs := by
  have rate : 0 ≤ ratePerMs policy := by
    rw [ratePerMs_eq]
    exact (div_pos limit windowMs).le
  have bound := granted_le (zero_le_one.trans burst) rate (le_add_of_nonneg_right length : s ≤ s + T)
    times none sorted (fun b stored => by cases stored)
  rw [allowedWithin_eq_granted, memoryRun_serve strategy key times]
  calc (granted s (s + T) (serve policy.burst (ratePerMs policy) none times) : ℚ)
      ≤ policy.burst + (s + T - s) * ratePerMs policy := bound
    _ = policy.burst + T * policy.limit / policy.windowMs := by
        rw [add_sub_cancel_left, ratePerMs_eq, mul_div_assoc]

/-- The default policy of `consume`, four requests at the epoch. -/
theorem memory_token_bucket_rate_bound_default :
    (allowedWithin 0 1000 (memoryRun ⟨60, 60000, 2, .tokenBucket⟩ "ip" RateLimiterState.initial
      [0, 0, 0, 500, 1000, 1000]) : ℚ) ≤ 2 + 1000 * 60 / 60000 ∧
    allowedWithin 0 1000 (memoryRun ⟨60, 60000, 2, .tokenBucket⟩ "ip" RateLimiterState.initial
      [0, 0, 0, 500, 1000, 1000]) = 3 :=
  ⟨memory_token_bucket_rate_bound ⟨60, 60000, 2, .tokenBucket⟩ "ip" rfl (by norm_num) (by norm_num)
    (by norm_num) [0, 0, 0, 500, 1000, 1000] (by norm_num) 0 1000 (by norm_num), by decide +kernel⟩

end AlianStructure.Guarantees.MemoryTokenBucket

/-!
# The Redis token bucket against the in-memory one

TOKEN_BUCKET_LUA (rate-limiter.service.ts:22-58) keeps the same bucket under a
key that expires. After a grant the key lives until the bucket is full again;
after a refusal its time to live is computed from `cost - tokens + 1`, the time
to two tokens, where the other branch uses `capacity - tokens + 1`. The two
limiters therefore agree on every history exactly when two tokens, or one second
of refill, already are a full bucket.
-/
namespace AlianStructure.Guarantees.RedisTokenBucket
open Library.ExpiringKey Library.RefillBucket Library.ExpiringBucket Source.RateLimiting
open MemoryTokenBucket

/-- The script's time to live in seconds for a number of missing tokens. -/
def ttlSeconds (ratePerSec missing : ℚ) : ℤ :=
  if ⌈missing / ratePerSec⌉ < 1 then 1 else ⌈missing / ratePerSec⌉

/-- The lifetime in milliseconds of the key written by a request. -/
def keyLifetime (policy : RateLimitPolicy) (granted : Bool) (tokens : ℚ) : ℚ :=
  if granted then (ttlSeconds (ratePerSec policy) (policy.burst - tokens + 1) : ℚ) * 1000
  else (ttlSeconds (ratePerSec policy) (1 - tokens + 1) : ℚ) * 1000

/-- The hash under a key as an expiring bucket. -/
def recordOf (stored : Expiring ℚ TokenHash) : Expiring ℚ (Bucket ℚ) :=
  ⟨⟨stored.value.tokens, stored.value.ts⟩, stored.expiresAt⟩

theorem live_recordOf (stored : Option (Expiring ℚ TokenHash)) (now : ℚ) : live (stored.map recordOf) now =
      (live stored now).map fun data => ⟨data.tokens, data.ts⟩ := by
  cases stored with
  | none => rfl
  | some entry =>
    by_cases alive : now < entry.expiresAt <;> simp [live, recordOf, alive]

theorem ttlSeconds_ge_one (ratePerSec missing : ℚ) : 1 ≤ ttlSeconds ratePerSec missing := by
  unfold ttlSeconds
  split
  · exact le_refl 1
  next positive => exact not_lt.mp positive

theorem missing_le_ttlSeconds_mul {ratePerSec : ℚ} (missing : ℚ) (rate : 0 < ratePerSec) :
    missing ≤ ttlSeconds ratePerSec missing * ratePerSec := by
  have ceil : missing / ratePerSec ≤ ttlSeconds ratePerSec missing := by
    unfold ttlSeconds
    split
    next short =>
      have below : (⌈missing / ratePerSec⌉ : ℚ) ≤ ((1 : ℤ) : ℚ) := by exact_mod_cast short.le
      exact (Int.le_ceil _).trans below
    next => exact Int.le_ceil _
  rwa [div_le_iff₀ rate] at ceil

theorem keyLifetime_mul (policy : RateLimitPolicy) (granted : Bool) (tokens : ℚ) :
    keyLifetime policy granted tokens * ratePerMs policy =
      (if granted then (ttlSeconds (ratePerSec policy) (policy.burst - tokens + 1) : ℚ)
        else (ttlSeconds (ratePerSec policy) (1 - tokens + 1) : ℚ)) * ratePerSec policy := by
  unfold keyLifetime ratePerMs
  split <;> field_simp

theorem keyLifetime_ge_second (policy : RateLimitPolicy) (granted : Bool) (tokens : ℚ) :
    1000 ≤ keyLifetime policy granted tokens := by
  unfold keyLifetime
  split
  · have := ttlSeconds_ge_one (ratePerSec policy) (policy.burst - tokens + 1)
    have cast : (1 : ℚ) ≤ ttlSeconds (ratePerSec policy) (policy.burst - tokens + 1) := by
      exact_mod_cast this
    linarith
  · have := ttlSeconds_ge_one (ratePerSec policy) (1 - tokens + 1)
    have cast : (1 : ℚ) ≤ ttlSeconds (ratePerSec policy) (1 - tokens + 1) := by
      exact_mod_cast this
    linarith

theorem consumeRedis_refines (strategy : policy.strategy = .tokenBucket) (state : RateLimiterState)
    (key : String) (request : RedisRequest) :
    let call := consumeRedis state key policy request.now request.replied request.requestId
    let answer := takeExpiring policy.burst (ratePerMs policy) (keyLifetime policy)
      ((state.redisBuckets key).map recordOf) request.now
    call.1.allowed = answer.1 ∧ (call.2.redisBuckets key).map recordOf = some answer.2 := by
  have lived := live_recordOf (state.redisBuckets key) request.now
  cases found : live (state.redisBuckets key) request.now with
  | none =>
    rw [found, Option.map_none] at lived
    simp only [consumeRedis, strategy, tokenBucketLua, takeExpiring, take, lived, found, observe,
      sub_self, zero_mul, zero_div, add_zero, min_self]
    by_cases enough : 1 ≤ policy.burst
    · simp [enough, decisionOfReply, recordOf, keyLifetime, ttlSeconds, Keyspace.set_self]
    · simp [enough, decisionOfReply, recordOf, keyLifetime, ttlSeconds, Keyspace.set_self]
  | some data =>
    have refill : (request.now - data.ts) * ratePerSec policy / 1000 =
        (request.now - data.ts) * ratePerMs policy := mul_div_assoc _ _ _
    rw [found, Option.map_some] at lived
    simp only [consumeRedis, strategy, tokenBucketLua, takeExpiring, take, lived, found, observe,
      refill]
    by_cases enough :
        1 ≤ min policy.burst (data.tokens + (request.now - data.ts) * ratePerMs policy)
    · simp only [enough, if_true]
      simp [decisionOfReply, recordOf, keyLifetime, ttlSeconds, Keyspace.set_self]
    · simp only [enough, if_false]
      simp [decisionOfReply, recordOf, keyLifetime, ttlSeconds, Keyspace.set_self]

theorem redisRun_serveExpiring (strategy : policy.strategy = .tokenBucket) (key : String) :
    ∀ (requests : List RedisRequest) (state : RateLimiterState),
      (redisRun policy key state requests).map (fun e => (e.1, e.2.allowed)) =
        serveExpiring policy.burst (ratePerMs policy) (keyLifetime policy)
          ((state.redisBuckets key).map recordOf) (requests.map (·.now))
  | [], _ => rfl
  | request :: rest, state => by
    obtain ⟨allowed, left⟩ := consumeRedis_refines strategy state key request
    simp only [redisRun, List.map_cons, serveExpiring, allowed]
    rw [redisRun_serveExpiring strategy key rest, left]

/-- A key written by a grant always outlives its refill; one written by a
refusal does when two tokens or one second of refill fill the bucket. -/
theorem keyLifetime_outlives (rate : 0 < ratePerSec policy)
    (small : policy.burst ≤ 2 ∨ policy.burst ≤ ratePerSec policy) (granted : Bool) (level : ℚ)
    (leaves : Leaves policy.burst granted level) :
    policy.burst ≤ level + keyLifetime policy granted level * ratePerMs policy := by
  rw [keyLifetime_mul]
  cases granted with
  | true =>
    have refill := missing_le_ttlSeconds_mul (policy.burst - level + 1) rate
    simp only [if_true]
    linarith
  | false =>
    simp only [Bool.false_eq_true, if_false]
    rcases small with two | second
    · have refill := missing_le_ttlSeconds_mul (1 - level + 1) rate
      linarith
    · have whole : (1 : ℚ) ≤ ttlSeconds (ratePerSec policy) (1 - level + 1) := by
        exact_mod_cast ttlSeconds_ge_one (ratePerSec policy) (1 - level + 1)
      have refill := mul_le_mul_of_nonneg_right whole rate.le
      linarith [leaves.nonneg]

theorem ttlSeconds_mul_lt {ratePerSec missing : ℚ} (rate : 0 < ratePerSec) (some_missing : 0 < missing) :
    ttlSeconds ratePerSec missing * ratePerSec < missing + ratePerSec := by
  have ceil : (⌈missing / ratePerSec⌉ : ℚ) < missing / ratePerSec + 1 := Int.ceil_lt_add_one _
  have positive : 0 < ⌈missing / ratePerSec⌉ := Int.ceil_pos.mpr (div_pos some_missing rate)
  have whole : ¬ ⌈missing / ratePerSec⌉ < 1 := by omega
  rw [ttlSeconds, if_neg whole]
  calc (⌈missing / ratePerSec⌉ : ℚ) * ratePerSec
      < (missing / ratePerSec + 1) * ratePerSec := mul_lt_mul_of_pos_right ceil rate
    _ = missing + ratePerSec := by field_simp

theorem ttlSeconds_eq_of_le {ratePerSec missing : ℚ} (rate : 0 < ratePerSec) (n : ℕ) (positive : 1 ≤ n)
    (above : (n - 1) * ratePerSec < missing) (fits : missing ≤ n * ratePerSec) :
    ttlSeconds ratePerSec missing = n := by
  have ceil : ⌈missing / ratePerSec⌉ = (n : ℤ) := by
    rw [Int.ceil_eq_iff]
    refine ⟨?_, ?_⟩
    · rw [lt_div_iff₀ rate]
      exact_mod_cast above
    · rw [div_le_iff₀ rate]
      exact_mod_cast fits
  rw [ttlSeconds, ceil, if_neg (by omega)]

/-- Otherwise some refusal writes a key that expires too early. For rates from
3/2 to 2 the refusal has to come half a second after the burst. -/
theorem keyLifetime_early (rate : 0 < ratePerSec policy) {burst : ℚ} (three : 3 ≤ burst)
    (slow : ratePerSec policy < burst) : ∃ wait : ℚ, 0 ≤ wait ∧ wait < 1000 ∧ wait * ratePerMs policy < 1 ∧
      wait * ratePerMs policy + keyLifetime policy false (wait * ratePerMs policy) * ratePerMs policy < burst := by
  simp only [keyLifetime_mul, Bool.false_eq_true, if_false]
  by_cases middle : 3 / 2 ≤ ratePerSec policy ∧ ratePerSec policy < 2
  · obtain ⟨low, high⟩ := middle
    have half : 500 * ratePerMs policy = ratePerSec policy / 2 := by
      unfold ratePerMs
      ring
    have second : ttlSeconds (ratePerSec policy) (1 - ratePerSec policy / 2 + 1) = (1 : ℕ) :=
      ttlSeconds_eq_of_le rate 1 le_rfl (by push_cast; linarith) (by push_cast; linarith)
    refine ⟨500, by norm_num, by norm_num, ?_, ?_⟩
    · rw [half]
      linarith
    · rw [half, second]
      push_cast
      linarith
  · refine ⟨0, le_rfl, by norm_num, by norm_num, ?_⟩
    simp only [zero_mul, zero_add, sub_zero]
    rcases le_or_gt (ratePerSec policy) 1 with one | above
    · have refill := ttlSeconds_mul_lt rate (by norm_num : (0 : ℚ) < 1 + 1)
      linarith
    · rcases lt_or_ge (ratePerSec policy) 2 with below | two
      · have low : ratePerSec policy < 3 / 2 := not_le.mp fun low => middle ⟨low, below⟩
        have seconds : ttlSeconds (ratePerSec policy) (1 + 1) = (2 : ℕ) :=
          ttlSeconds_eq_of_le rate 2 (by norm_num) (by push_cast; linarith) (by push_cast; linarith)
        rw [seconds]
        push_cast
        linarith
      · have second : ttlSeconds (ratePerSec policy) (1 + 1) = (1 : ℕ) :=
          ttlSeconds_eq_of_le rate 1 le_rfl (by push_cast; linarith) (by push_cast; linarith)
        rw [second]
        push_cast
        linarith

/-- The decisions of a run, each with the time of its request. -/
def decisions (run : List (ℚ × RateLimitDecision)) : List (ℚ × Bool) :=
  run.map fun e => (e.1, e.2.allowed)

/-- Requests at given times whose replies arrive at once. -/
def requestsAt (times : List ℚ) : List RedisRequest := times.map fun now => ⟨now, now, ""⟩

@[simp] theorem requestsAt_now (times : List ℚ) : (requestsAt times).map (·.now) = times := by
  simp [requestsAt, Function.comp_def]

/-- Exactly when the two token buckets decide alike on every history of one key.
The refusal branch of the script keeps the key for two tokens instead of a full
bucket, so a longer bucket is handed out again before it has refilled. -/
theorem redis_token_bucket_agrees_iff (policy : RateLimitPolicy) (key : String)
    (strategy : policy.strategy = .tokenBucket) (limit : 0 < policy.limit)
    (windowMs : 0 < policy.windowMs) (n : ℕ) (positive : 1 ≤ n) (burst : policy.burst = n) :
    (∀ requests : List RedisRequest, (requests.map (·.now)).Pairwise (· ≤ ·) →
      decisions (redisRun policy key RateLimiterState.initial requests) =
        decisions (memoryRun policy key RateLimiterState.initial (requests.map (·.now)))) ↔
      policy.burst ≤ 2 ∨ policy.burst ≤ ratePerSec policy := by
  have rate := ratePerSec_pos limit windowMs
  have rateMs : 0 ≤ ratePerMs policy := div_nonneg rate.le (by norm_num)
  simp only [decisions, redisRun_serveExpiring strategy, memoryRun_serve strategy]
  constructor
  · intro agree
    by_contra large
    push Not at large
    obtain ⟨m, rfl⟩ := Nat.exists_eq_add_of_le' positive
    have three : (3 : ℚ) ≤ ((m + 1 : ℕ) : ℚ) := by
      have two : 2 < m + 1 := by exact_mod_cast burst ▸ large.1
      exact_mod_cast two
    obtain ⟨wait, nonneg, short, refused, early⟩ :=
      keyLifetime_early rate three (burst ▸ large.2)
    have lasting : ∀ granted level, wait < keyLifetime policy granted level :=
      fun granted level => short.trans_le (keyLifetime_ge_second policy granted level)
    have differ := serveExpiring_ne_serve rateMs nonneg lasting m refused early
    apply differ
    have later := le_add_of_nonneg_right (nonneg.trans
      (lasting false (wait * ratePerMs policy)).le) (a := wait)
    have same := agree (requestsAt (burstTwice m wait _)) (by
      rw [requestsAt_now]
      exact burstTwice_sorted m nonneg later)
    rw [requestsAt_now, burst] at same
    exact same
  · intro small requests sorted
    exact serveExpiring_eq_serve (by rw [burst]; positivity) rateMs
      (keyLifetime_outlives rate small) _ none none trivial sorted (fun b stored => by cases stored)

/-- One token a second and a burst of three: three requests, a refusal at the same
instant, and three requests two seconds later, when the key has expired. -/
theorem redis_token_bucket_early_expiry :
    let policy : RateLimitPolicy := ⟨1, 1000, 3, .tokenBucket⟩
    let times : List ℚ := [0, 0, 0, 0, 2000, 2000, 2000]
    decisions (redisRun policy "ip" RateLimiterState.initial (requestsAt times)) =
        times.zip [true, true, true, false, true, true, true] ∧
      decisions (memoryRun policy "ip" RateLimiterState.initial times) =
        times.zip [true, true, true, false, true, true, false] := by
  decide +kernel

/-- A hundred requests a second with a burst of fifty, around one second. -/
theorem redis_token_bucket_agrees_fast :
    decisions (redisRun ⟨100, 1000, 50, .tokenBucket⟩ "ip" RateLimiterState.initial
        (requestsAt [0, 0, 1000])) =
      decisions (memoryRun ⟨100, 1000, 50, .tokenBucket⟩ "ip" RateLimiterState.initial
        ((requestsAt [0, 0, 1000]).map (·.now))) :=
  (redis_token_bucket_agrees_iff ⟨100, 1000, 50, .tokenBucket⟩ "ip" rfl (by norm_num)
    (by norm_num) 50 (by norm_num) (by norm_num)).mpr (Or.inr (by norm_num [ratePerSec]))
    (requestsAt [0, 0, 1000]) (by norm_num [requestsAt])

end AlianStructure.Guarantees.RedisTokenBucket
