import Mathlib.Data.Rat.Floor
import Mathlib.Order.WithBot
import AlianStructure.Library.ExpiringBucket
import AlianStructure.Library.InsertionOrder

/-!
# Rate limiter: the two Redis scripts and the two in-memory strategies

Source: src/rate-limiting/rate-limiter.service.ts:22-85,152-350 and
src/rate-limiting/interfaces.ts. Numbers are exact rationals; `now` is the clock
reading `Date.now()` handed to both sides. A Redis key is an `Expiring` entry,
so EXPIRE and PEXPIRE only set `expiresAt`; a key that has none lives on. The analytics registry, the access
lists and the endpoint rules are not read by the functions below.
-/
namespace AlianStructure.Source.RateLimiting
open Library.ExpiringKey

inductive RateLimitStrategy where
  | tokenBucket | slidingWindow
  deriving DecidableEq

structure RateLimitPolicy where
  limit : ℚ
  windowMs : ℚ
  burst : ℚ
  strategy : RateLimitStrategy
  deriving DecidableEq

structure RateLimitDecision where
  allowed : Bool
  remaining : ℚ
  resetAt : ℚ
  retryAfterMs : Option ℚ
  deriving DecidableEq

/-- The array a script returns; Redis sends Lua numbers as integers. -/
structure ScriptReply where
  allowed : ℤ
  remaining : ℤ
  retryAfterMs : ℤ
  deriving DecidableEq

/-- Conversion of a Lua number to a Redis integer: the fraction is dropped. -/
def toIntegerReply (number : ℚ) : ℤ := if 0 ≤ number then ⌊number⌋ else ⌈number⌉

@[simp] theorem toIntegerReply_intCast (n : ℤ) : toIntegerReply n = n := by
  simp [toIntegerReply]

/-! ## TOKEN_BUCKET_LUA -/

/-- The fields 'tokens' and 'ts' of the hash. -/
structure TokenHash where
  tokens : ℚ
  ts : ℚ
  deriving DecidableEq

def tokenBucketLua (stored : Option (Expiring ℚ TokenHash))
    (capacity ratePerSec nowMs cost : ℚ) : ScriptReply × Expiring ℚ TokenHash :=
  let (tokens, ts) : ℚ × ℚ := match live stored nowMs with
    | none => (capacity, nowMs)
    | some data => (data.tokens, data.ts)
  let elapsedMs := nowMs - ts
  let tokenDelta := elapsedMs * ratePerSec / 1000
  let tokens := min capacity (tokens + tokenDelta)
  if cost ≤ tokens then
    let tokens := tokens - cost
    let ttl : ℤ := ⌈(capacity - tokens + 1) / ratePerSec⌉
    let ttl := if ttl < 1 then 1 else ttl
    (⟨1, ⌊tokens⌋, 0⟩, ⟨⟨tokens, nowMs⟩, nowMs + ttl * 1000⟩)
  else
    let waitMs : ℤ := ⌈(cost - tokens) / ratePerSec * 1000⌉
    let ttl : ℤ := ⌈(cost - tokens + 1) / ratePerSec⌉
    let ttl := if ttl < 1 then 1 else ttl
    (⟨0, ⌊tokens⌋, waitMs⟩, ⟨⟨tokens, nowMs⟩, nowMs + ttl * 1000⟩)

/-! ## SLIDING_WINDOW_LUA -/

/-- A member of the sorted set with its score. -/
structure WindowMember where
  score : ℚ
  member : String
  deriving DecidableEq

/-- The order of a sorted set: by score, equal scores by member. -/
def WindowMember.precedes (left right : WindowMember) : Bool :=
  decide (left.score < right.score) ||
    (decide (left.score = right.score) && decide (left.member < right.member))

/-- ZADD: a member that is already in the set is moved to its new score. -/
def zadd (set : List WindowMember) (entry : WindowMember) : List WindowMember :=
  let others := set.filter fun m => decide (m.member ≠ entry.member)
  others.takeWhile (fun m => m.precedes entry) ++
    entry :: others.dropWhile (fun m => m.precedes entry)

/-- The set under the key, with its expiry. -/
abbrev WindowEntry := Expiring (WithTop ℚ) (List WindowMember)

/-- The reply, and the entry left under the key. A denied request keeps the expiry that the last PEXPIRE
has set, and a set pruned to nothing has no key. PEXPIRE refuses a fraction of a millisecond: the script
ends with an error and without a reply, and what ZADD has added stays. -/
def slidingWindowLua (stored : Option WindowEntry) (limit windowMs nowMs : ℚ) (requestId : String) :
    Option ScriptReply × Option WindowEntry :=
  let minScore := nowMs - windowMs
  let set := (live stored (nowMs : WithTop ℚ)).getD []
  let set := set.filter fun m => ! (decide (0 ≤ m.score) && decide (m.score ≤ minScore))
  let count := set.length
  let expiresAt := match stored, set with
    | some entry, _ :: _ => entry.expiresAt
    | _, _ => ⊤
  if (count : ℚ) < limit then
    let set := zadd set ⟨nowMs, requestId⟩
    if windowMs.isInt then
      (some ⟨1, toIntegerReply (limit - count - 1), 0⟩, some ⟨set, (nowMs + windowMs : ℚ)⟩)
    else (none, some ⟨set, expiresAt⟩)
  else
    let resetAt := match set with
      | [] => nowMs
      | oldest :: _ => oldest.score + windowMs
    let retryAfter := max 0 (resetAt - nowMs)
    let kept := if set.isEmpty then none else some ⟨set, expiresAt⟩
    (some ⟨0, 0, toIntegerReply retryAfter⟩, kept)

/-! ## The service -/

structure MemoryTokenBucketState where
  tokens : ℚ
  ts : ℚ
  deriving DecidableEq

/-- The maps of the service and the keys it uses on the Redis server. -/
structure RateLimiterState where
  memoryBuckets : Keyspace MemoryTokenBucketState
  memoryWindows : Keyspace (List ℚ)
  redisBuckets : Keyspace (Expiring ℚ TokenHash)
  redisWindows : Keyspace WindowEntry

def RateLimiterState.initial : RateLimiterState :=
  ⟨Keyspace.empty, Keyspace.empty, Keyspace.empty, Keyspace.empty⟩

/-- Tokens gained per second under a policy. -/
def ratePerSec (policy : RateLimitPolicy) : ℚ := policy.limit / (policy.windowMs / 1000)

def consumeMemoryTokenBucket (state : RateLimiterState) (key : String) (policy : RateLimitPolicy)
    (now : ℚ) : RateLimitDecision × RateLimiterState :=
  let tokens := match state.memoryBuckets key with
    | none => policy.burst
    | some stored =>
      let elapsed := now - stored.ts
      let refill := elapsed * ratePerSec policy / 1000
      min policy.burst (stored.tokens + refill)
  let allowed := decide (1 ≤ tokens)
  let tokens := if allowed then tokens - 1 else tokens
  let state := { state with memoryBuckets := state.memoryBuckets.set key ⟨tokens, now⟩ }
  let remaining : ℚ := max 0 ⌊tokens⌋
  if allowed then
    let resetAt := now + ⌈(policy.burst - tokens) / ratePerSec policy * 1000⌉
    (⟨true, remaining, resetAt, none⟩, state)
  else
    let retryAfterMs : ℚ := ⌈(1 - tokens) / ratePerSec policy * 1000⌉
    (⟨false, remaining, now + retryAfterMs, some retryAfterMs⟩, state)

def consumeMemorySlidingWindow (state : RateLimiterState) (key : String) (policy : RateLimitPolicy)
    (now : ℚ) : RateLimitDecision × RateLimiterState :=
  let windowStart := now - policy.windowMs
  let entries := (state.memoryWindows key).getD []
  let entries := entries.filter fun ts => decide (windowStart < ts)
  let count := entries.length
  if (count : ℚ) < policy.limit then
    let remaining := policy.limit - count - 1
    (⟨true, max 0 remaining, now + policy.windowMs, none⟩,
      { state with memoryWindows := state.memoryWindows.set key (entries ++ [now]) })
  else
    let oldest := entries.headD now
    let retryAfterMs := max 0 (oldest + policy.windowMs - now)
    (⟨false, 0, oldest + policy.windowMs, some retryAfterMs⟩,
      { state with memoryWindows := state.memoryWindows.set key entries })

def consumeMemory (state : RateLimiterState) (key : String) (policy : RateLimitPolicy)
    (now : ℚ) : RateLimitDecision × RateLimiterState :=
  match policy.strategy with
  | .slidingWindow => consumeMemorySlidingWindow state key policy now
  | .tokenBucket => consumeMemoryTokenBucket state key policy now

/-- The decision built from a script's reply; `replied` is the clock when the
reply has arrived. -/
def decisionOfReply (policy : RateLimitPolicy) (reply : ScriptReply) (replied : ℚ) :
    RateLimitDecision :=
  let resetAt := if 0 < reply.retryAfterMs then replied + reply.retryAfterMs
    else match policy.strategy with
      | .slidingWindow => replied + policy.windowMs
      | .tokenBucket => replied + ⌈(policy.burst - reply.remaining) / ratePerSec policy * 1000⌉
  { allowed := decide (reply.allowed = 1)
    remaining := max 0 reply.remaining
    resetAt := resetAt
    retryAfterMs := if 0 < reply.retryAfterMs then some reply.retryAfterMs else none }

/-- A call whose `eval` reaches the server; `requestId` is the member written by
the sliding window. After an error of the script the memory decides. -/
def consumeRedis (state : RateLimiterState) (key : String) (policy : RateLimitPolicy)
    (now replied : ℚ) (requestId : String) : RateLimitDecision × RateLimiterState :=
  match policy.strategy with
  | .slidingWindow =>
    let (reply, entry) :=
      slidingWindowLua (state.redisWindows key) policy.limit policy.windowMs now requestId
    let state := { state with
      redisWindows := fun other => if other = key then entry else state.redisWindows other }
    match reply with
    | some reply => (decisionOfReply policy reply replied, state)
    | none => consumeMemory state key policy replied
  | .tokenBucket =>
    let (reply, entry) :=
      tokenBucketLua (state.redisBuckets key) policy.burst (ratePerSec policy) now 1
    (decisionOfReply policy reply replied,
      { state with redisBuckets := state.redisBuckets.set key entry })

/-! ## Runs over one key -/

/-- The decisions of the in-memory limiter on a sequence of request times. -/
def memoryRun (policy : RateLimitPolicy) (key : String) :
    RateLimiterState → List ℚ → List (ℚ × RateLimitDecision)
  | _, [] => []
  | state, now :: rest =>
    let answer := consumeMemory state key policy now
    (now, answer.1) :: memoryRun policy key answer.2 rest

/-- One request as Redis sees it: the time handed to the script, the time its
reply is read and the member it writes. -/
structure RedisRequest where
  now : ℚ
  replied : ℚ
  requestId : String
  deriving DecidableEq

/-- The decisions of the Redis limiter on a sequence of requests. -/
def redisRun (policy : RateLimitPolicy) (key : String) :
    RateLimiterState → List RedisRequest → List (ℚ × RateLimitDecision)
  | _, [] => []
  | state, request :: rest =>
    let answer := consumeRedis state key policy request.now request.replied request.requestId
    (request.now, answer.1) :: redisRun policy key answer.2 rest

/-- What SLIDING_WINDOW_LUA answers to a sequence of requests, as the service reads it, and nothing where
it ends with an error. -/
def scriptRun (policy : RateLimitPolicy) :
    Option WindowEntry → List RedisRequest → List (ℚ × Option RateLimitDecision)
  | _, [] => []
  | stored, request :: rest =>
    let answer := slidingWindowLua stored policy.limit policy.windowMs request.now request.requestId
    (request.now, answer.1.map fun reply => decisionOfReply policy reply request.replied) ::
      scriptRun policy answer.2 rest

/-!
## The quota guard

Source: src/common/guard/quota.guard.ts:20-40,173-241. A window of a key opens with the first request after the
last one is over and counts every request, the rejected ones too. Numbers are exact rationals and `now` is the clock
reading of a call. The cleanup runs behind every request, within the same turn. The choice of key and policy and the
response headers are not read here.
-/
open Library.InsertionOrder Library.KeyedTable

structure RateWindowState where
  count : Nat
  resetAt : ℚ
  deriving DecidableEq

structure QuotaGuard where
  windows : OrderedMap String RateWindowState
  lastCleanupAt : ℚ

structure QuotaDecision where
  allowed : Bool
  remaining : ℚ
  resetAt : ℚ
  deriving DecidableEq

namespace QuotaGuard

/-- The guard at its construction. -/
def new (now : ℚ) : QuotaGuard := ⟨OrderedMap.empty, now⟩

def cleanupExpired (guard : QuotaGuard) (now : ℚ) : QuotaGuard :=
  if guard.windows.size = 0 then guard
  else if now - guard.lastCleanupAt < 30000 ∧ guard.windows.size < 1000 then guard
  else ⟨Table.delete guard.windows fun entry => decide (entry.2.resetAt ≤ now), now⟩

/-- `consume` under a cleanup. -/
def consumeWith (cleanup : QuotaGuard → ℚ → QuotaGuard) (guard : QuotaGuard) (key : String) (limit windowMs now : ℚ) :
    QuotaDecision × QuotaGuard :=
  let state : RateWindowState := match guard.windows.get? key with
    | none => ⟨0, now + windowMs⟩
    | some state => if state.resetAt ≤ now then ⟨0, now + windowMs⟩ else state
  let state := { state with count := state.count + 1 }
  let remaining := max 0 (limit - state.count)
  let allowed := decide ((state.count : ℚ) ≤ limit)
  let guard := { guard with windows := guard.windows.set key state }
  (⟨allowed, remaining, state.resetAt⟩, cleanup guard now)

def consume : QuotaGuard → String → ℚ → ℚ → ℚ → QuotaDecision × QuotaGuard := consumeWith cleanupExpired

end QuotaGuard

end AlianStructure.Source.RateLimiting
