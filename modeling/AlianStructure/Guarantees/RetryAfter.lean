import AlianStructure.Guarantees.TokenBucket
import AlianStructure.Guarantees.SlidingWindow

/-!
# The waiting time of a denied request

Source: src/rate-limiting/rate-limiter.service.ts:271-350. The bucket rounds the time until the next token up to a
whole millisecond; the window answers when its oldest entry leaves it. The clock shows whole milliseconds.
-/
namespace AlianStructure.Guarantees.RetryAfter
open Library.RefillBucket Library.SlidingLog Source.RateLimiting MemoryTokenBucket

/-- The state after the requests of one key. -/
def stateAfter (policy : RateLimitPolicy) (key : String) (times : List ℤ) : RateLimiterState :=
  (times.map fun time : ℤ => (time : ℚ)).foldl (fun state now => (consumeMemory state key policy now).2)
    RateLimiterState.initial

/-- The answer to a request that comes after a history and a denied request. -/
def answerAfter (policy : RateLimitPolicy) (key : String) (times : List ℤ) (denied : ℤ) (now : ℚ) : RateLimitDecision :=
  (consumeMemory (stateAfter policy key (times ++ [denied])) key policy now).1

theorem stateAfter_append (policy : RateLimitPolicy) (key : String) (times : List ℤ) (last : ℤ) :
    stateAfter policy key (times ++ [last]) = (consumeMemory (stateAfter policy key times) key policy last).2 := by
  unfold stateAfter
  rw [List.map_append, List.foldl_append]
  rfl

section TokenBucket
variable {policy : RateLimitPolicy} {key : String} {state : RateLimiterState}

/-- A denied request is told the time until the level it leaves reaches one token. -/
theorem denied_retryAfter {now r : ℚ} (retry : (consumeMemoryTokenBucket state key policy now).1.retryAfterMs = some r) :
    r = ⌈(1 - (take policy.burst (ratePerMs policy) ((state.memoryBuckets key).map bucketOf) now).2.level) /
      ratePerSec policy * 1000⌉ := by
  cases found : state.memoryBuckets key with
  | none =>
    by_cases enough : 1 ≤ policy.burst
    · simp [consumeMemoryTokenBucket, found, enough] at retry
    · simpa [consumeMemoryTokenBucket, take, observe, found, enough, eq_comm] using retry
  | some stored =>
    have refill : (now - stored.ts) * ratePerSec policy / 1000 = (now - stored.ts) * ratePerMs policy :=
      mul_div_assoc _ _ _
    have seen : observe policy.burst (ratePerMs policy) (some (bucketOf stored)) now =
        min policy.burst (stored.tokens + (now - stored.ts) * ratePerMs policy) := rfl
    by_cases enough : 1 ≤ min policy.burst (stored.tokens + (now - stored.ts) * ratePerMs policy)
    · simp only [consumeMemoryTokenBucket, found, refill, enough, decide_true, if_true, reduceCtorEq] at retry
    · simp only [consumeMemoryTokenBucket, found, refill, enough, decide_false, Bool.false_eq_true, if_false,
        Option.some.injEq] at retry
      simp only [take, Option.map_some, seen, enough, if_false]
      exact retry.symm

theorem tokenBucket_exact (limit : 0 < policy.limit) (windowMs : 0 < policy.windowMs) (burst : 1 ≤ policy.burst)
    {now r : ℚ} (retry : (consumeMemoryTokenBucket state key policy now).1.retryAfterMs = some r) :
    (∀ later, now + r ≤ later →
      (consumeMemoryTokenBucket (consumeMemoryTokenBucket state key policy now).2 key policy later).1.allowed = true) ∧
      ∀ wait : ℤ, (wait : ℚ) < r →
        (consumeMemoryTokenBucket (consumeMemoryTokenBucket state key policy now).2 key policy (now + wait)).1.allowed =
          false := by
  have isRetry := denied_retryAfter retry
  obtain ⟨_, stored⟩ := consumeMemoryTokenBucket_refines state key policy now
  have decision : ∀ later, (consumeMemoryTokenBucket (consumeMemoryTokenBucket state key policy now).2 key policy
      later).1.allowed = true ↔
        1 ≤ (take policy.burst (ratePerMs policy) ((state.memoryBuckets key).map bucketOf) now).2.level +
          (later - now) * ratePerMs policy := by
    intro later
    rw [(consumeMemoryTokenBucket_refines _ key policy later).1, stored]
    exact take_after_denied burst _ now later
  generalize (take policy.burst (ratePerMs policy) ((state.memoryBuckets key).map bucketOf) now).2.level = left
    at isRetry decision
  have rate : 0 < ratePerMs policy := by
    rw [ratePerMs_eq]
    exact div_pos limit windowMs
  have ceiling : (1 - left) / ratePerSec policy * 1000 = (1 - left) / ratePerMs policy := by
    unfold ratePerMs
    field_simp
  rw [ceiling] at isRetry
  have reached : ∀ wait : ℚ, 1 ≤ left + wait * ratePerMs policy ↔ (1 - left) / ratePerMs policy ≤ wait := by
    intro wait
    rw [div_le_iff₀ rate, sub_le_iff_le_add']
  constructor
  · intro later waited
    rw [decision, reached]
    have longer : r ≤ later - now := le_sub_iff_add_le'.mpr waited
    exact (Int.le_ceil _).trans (isRetry ▸ longer)
  · intro wait early
    rw [← Bool.not_eq_true, decision, reached, add_sub_cancel_left, not_le]
    rw [isRetry, Int.cast_lt] at early
    exact Int.lt_ceil.mp early

end TokenBucket

section Window
variable {policy : RateLimitPolicy} {key : String} {state : RateLimiterState}

theorem window_refines (state : RateLimiterState) (key : String) (policy : RateLimitPolicy) (now : ℚ) :
    let call := consumeMemorySlidingWindow state key policy now
    let request := screen ⌈policy.limit⌉₊ policy.windowMs (SlidingWindow.entriesOf state key) now
    call.1.allowed = request.1 ∧ SlidingWindow.entriesOf call.2 key = request.2 := by
  unfold consumeMemorySlidingWindow screen recent SlidingWindow.entriesOf
  dsimp only
  simp only [Nat.lt_ceil]
  split <;> simp

theorem window_stateAfter (strategy : policy.strategy = .slidingWindow) (times : List ℤ) :
    SlidingWindow.entriesOf (stateAfter policy key times) key =
      logAfter ⌈policy.limit⌉₊ policy.windowMs (times.map fun t : ℤ => (t : ℚ)) := by
  induction times using List.reverseRecOn with
  | nil => rfl
  | append_singleton times last ih =>
    rw [stateAfter_append, List.map_append]
    unfold logAfter at ih ⊢
    rw [List.foldl_append, ← ih]
    simp only [consumeMemory, strategy]
    exact (window_refines _ key policy _).2

/-- The waiting time of a denied request ends when the oldest entry leaves the window. -/
theorem window_retryAfter {now r oldest : ℚ} {rest : List ℚ}
    (denied : (consumeMemorySlidingWindow state key policy now).1.allowed = false)
    (retry : (consumeMemorySlidingWindow state key policy now).1.retryAfterMs = some r)
    (entries : recent policy.windowMs (SlidingWindow.entriesOf state key) now = oldest :: rest) :
    r = max 0 (oldest + policy.windowMs - now) := by
  unfold recent SlidingWindow.entriesOf at entries
  unfold consumeMemorySlidingWindow at denied retry
  dsimp only at denied retry
  rw [entries] at denied retry
  split at denied
  next => cases denied
  next room =>
    rw [if_neg room] at retry
    exact (Option.some.inj retry).symm

theorem slidingWindow_exact (limit : 1 ≤ policy.limit) {now r : ℚ}
    (full : (SlidingWindow.entriesOf state key).length ≤ ⌈policy.limit⌉₊)
    (sorted : (SlidingWindow.entriesOf state key).Pairwise (· ≤ ·))
    (denied : (consumeMemorySlidingWindow state key policy now).1.allowed = false)
    (retry : (consumeMemorySlidingWindow state key policy now).1.retryAfterMs = some r) {later : ℚ} :
    (consumeMemorySlidingWindow (consumeMemorySlidingWindow state key policy now).2 key policy later).1.allowed = true ↔
      now + r ≤ later := by
  obtain ⟨answer, left⟩ := window_refines state key policy now
  have refused : (screen ⌈policy.limit⌉₊ policy.windowMs (SlidingWindow.entriesOf state key) now).1 = false :=
    answer.symm.trans denied
  have nonempty : 0 < (recent policy.windowMs (SlidingWindow.entriesOf state key) now).length :=
    (Nat.ceil_pos.mpr (zero_lt_one.trans_le limit)).trans_le (screen_denied refused).2
  cases entries : recent policy.windowMs (SlidingWindow.entriesOf state key) now with
  | nil =>
    rw [entries] at nonempty
    cases nonempty
  | cons oldest rest =>
    have young : now - policy.windowMs < oldest :=
      (mem_recent.mp (entries ▸ List.mem_cons_self : oldest ∈ recent _ _ now)).2
    have waiting : now + r = oldest + policy.windowMs := by
      have isRetry := window_retryAfter denied retry entries
      rw [isRetry, max_eq_right (by linarith)]
      ring
    rw [(window_refines _ key policy later).1, left, waiting]
    constructor
    · intro admittedLater
      by_contra early
      rw [screen_early sorted refused entries (not_le.mp early)] at admittedLater
      cases admittedLater
    · exact screen_waited full refused entries

end Window

/-- A denied request is told the exact waiting time: the next request is allowed from then on, and denied at every
earlier instant of the clock. -/
theorem retry_after_exact (policy : RateLimitPolicy) (key : String) (limit : 1 ≤ policy.limit)
    (windowMs : 0 < policy.windowMs) (burst : 1 ≤ policy.burst) (times : List ℤ) (denied : ℤ)
    (sorted : (times ++ [denied]).Pairwise (· ≤ ·)) (r : ℚ)
    (refused : (consumeMemory (stateAfter policy key times) key policy denied).1.allowed = false)
    (retry : (consumeMemory (stateAfter policy key times) key policy denied).1.retryAfterMs = some r) :
    (∀ now : ℚ, denied + r ≤ now → (answerAfter policy key times denied now).allowed = true) ∧
      ∀ now : ℤ, denied < now → (now : ℚ) < denied + r → (answerAfter policy key times denied now).allowed = false := by
  unfold answerAfter
  rw [stateAfter_append]
  cases strategy : policy.strategy with
  | tokenBucket =>
    simp only [consumeMemory, strategy] at refused retry ⊢
    obtain ⟨waited, early⟩ := tokenBucket_exact (zero_lt_one.trans_le limit) windowMs burst retry
    refine ⟨waited, fun now _ before => ?_⟩
    have soon : ((now - denied : ℤ) : ℚ) < r := by
      push_cast
      exact sub_lt_iff_lt_add'.mpr before
    have answer := early (now - denied) soon
    rwa [Int.cast_sub, add_sub_cancel] at answer
  | slidingWindow =>
    have ordered : ((times.map fun time : ℤ => (time : ℚ)) ++ [(denied : ℚ)]).Pairwise (· ≤ ·) := by
      have mapped : ((times ++ [denied]).map fun time : ℤ => (time : ℚ)).Pairwise (· ≤ ·) :=
        List.pairwise_map.mpr (sorted.imp fun order => Int.cast_le.mpr order)
      rwa [List.map_append] at mapped
    obtain ⟨full, order, _⟩ := logAfter_log ⌈policy.limit⌉₊ policy.windowMs ordered
    rw [← window_stateAfter strategy] at full order
    simp only [consumeMemory, strategy] at refused retry ⊢
    refine ⟨fun now waited => (slidingWindow_exact limit full order refused retry).mpr waited,
      fun now _ before => ?_⟩
    rw [← Bool.not_eq_true, slidingWindow_exact limit full order refused retry]
    exact not_le.mpr before

/-- A bucket of one token and one token a minute, asked twice. -/
theorem retry_after_exact_minute :
    (∀ now : ℚ, ((1000 : ℤ) : ℚ) + 59000 ≤ now →
      (answerAfter ⟨1, 60000, 1, .tokenBucket⟩ "ip" [0] 1000 now).allowed = true) ∧
      ∀ now : ℤ, 1000 < now → (now : ℚ) < ((1000 : ℤ) : ℚ) + 59000 →
        (answerAfter ⟨1, 60000, 1, .tokenBucket⟩ "ip" [0] 1000 now).allowed = false :=
  retry_after_exact ⟨1, 60000, 1, .tokenBucket⟩ "ip" (by norm_num) (by norm_num) (by norm_num) [0] 1000
    (by norm_num) 59000 (by decide +kernel) (by decide +kernel)

end AlianStructure.Guarantees.RetryAfter
