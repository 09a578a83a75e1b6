import AlianStructure.Library.RefillBucket

/-!
# Keys with a time to live

A stored value disappears at its expiry: a read strictly before `expiresAt`
sees it, a read from `expiresAt` on finds no key. Every write of a keyspace
replaces one entry and keeps all others.
-/
namespace AlianStructure.Library.ExpiringKey

structure Expiring (T V : Type) where
  value : V
  expiresAt : T
  deriving DecidableEq

/-- What a read at `now` finds under a key. -/
def live {T V : Type} [LT T] [DecidableLT T] (stored : Option (Expiring T V)) (now : T) :
    Option V :=
  match stored with
  | none => none
  | some entry => if now < entry.expiresAt then some entry.value else none

section
variable {T V : Type} [LinearOrder T]

@[simp] theorem live_none (now : T) : live (none : Option (Expiring T V)) now = none := rfl

theorem live_before {entry : Expiring T V} {now : T} (before : now < entry.expiresAt) :
    live (some entry) now = some entry.value := if_pos before

theorem live_after {entry : Expiring T V} {now : T} (after : entry.expiresAt ≤ now) :
    live (some entry) now = none := if_neg (not_lt.mpr after)

end

/-- A map from keys to entries, as a program holds it or as a server serves it. -/
abbrev Keyspace (Entry : Type) := String → Option Entry

/-- Store an entry under a key. -/
def Keyspace.set {Entry : Type} (keys : Keyspace Entry) (key : String) (entry : Entry) :
    Keyspace Entry :=
  fun other => if other = key then some entry else keys other

@[simp] theorem Keyspace.set_self {Entry : Type} (keys : Keyspace Entry) (key : String)
    (entry : Entry) : keys.set key entry key = some entry := if_pos rfl

/-- The keyspace before anything was stored. -/
def Keyspace.empty {Entry : Type} : Keyspace Entry := fun _ => none

end AlianStructure.Library.ExpiringKey

/-!
# A refill bucket kept under an expiring key

The bucket is stored with a lifetime that may depend on the decision and on the
level left. When the key is gone the next request sees a full bucket, so the
expiring bucket decides like the plain one as long as no record expires before
the elapsed refill has filled it.
-/
namespace AlianStructure.Library.ExpiringBucket
open ExpiringKey RefillBucket

variable {K : Type} [Field K] [LinearOrder K]

/-- A request on the stored record; `lifetime granted level` is counted from the
request. -/
def takeExpiring (capacity rate : K) (lifetime : Bool → K → K)
    (stored : Option (Expiring K (Bucket K))) (now : K) : Bool × Expiring K (Bucket K) :=
  let answer := take capacity rate (live stored now) now
  (answer.1, ⟨answer.2, now + lifetime answer.1 answer.2.level⟩)

def serveExpiring (capacity rate : K) (lifetime : Bool → K → K) :
    Option (Expiring K (Bucket K)) → List K → List (K × Bool)
  | _, [] => []
  | stored, now :: rest =>
      let answer := takeExpiring capacity rate lifetime stored now
      (now, answer.1) :: serveExpiring capacity rate lifetime (some answer.2) rest

/-- The levels a request can leave behind: a grant leaves at most one unit less
than a full bucket, a refusal less than one unit. -/
structure Leaves (capacity : K) (granted : Bool) (level : K) : Prop where
  nonneg : 0 ≤ level
  grant : granted = true → level ≤ capacity - 1
  refusal : granted = false → level < 1

theorem take_leaves {capacity rate : K} [IsStrictOrderedRing K] {stored : Option (Bucket K)}
    {now : K} (seen : 0 ≤ observe capacity rate stored now) :
    Leaves capacity (take capacity rate stored now).1 (take capacity rate stored now).2.level := by
  have full := observe_le_capacity capacity rate stored now
  refine ⟨take_level_nonneg seen, ?_, ?_⟩ <;> unfold take <;> dsimp only <;> split
  · intro _
    exact sub_le_sub_right full 1
  · intro granted
    cases granted
  · intro refused
    cases refused
  next short =>
    intro _
    exact not_le.mp short

/-- The record and the plain bucket agree, and the record outlives its refill. -/
def Tracks (capacity rate : K) (stored : Option (Bucket K))
    (record : Option (Expiring K (Bucket K))) : Prop :=
  match stored, record with
  | none, none => True
  | some b, some e => e.value = b ∧ 0 ≤ b.level ∧ capacity ≤ b.level + (e.expiresAt - b.time) * rate
  | _, _ => False

/-- While the record tracks the bucket, an expired key and a full bucket look
the same to a request. -/
theorem Tracks.observe_eq [IsStrictOrderedRing K] {capacity rate : K} (hr : 0 ≤ rate)
    {stored : Option (Bucket K)} {record : Option (Expiring K (Bucket K))}
    (tracks : Tracks capacity rate stored record) (now : K) :
    observe capacity rate (live record now) now = observe capacity rate stored now := by
  cases stored with
  | none =>
    cases record with
    | none => rfl
    | some e => exact tracks.elim
  | some b =>
    cases record with
    | none => exact tracks.elim
    | some e =>
      obtain ⟨same, _, full⟩ := tracks
      rcases lt_or_ge now e.expiresAt with before | after
      · rw [live_before before, same]
      · rw [live_after after]
        exact (observe_full_mono hr full after).symm

variable {lifetime : Bool → K → K}

/-- Refinement: when every record outlives its refill, expiry never changes a
decision. -/
theorem serveExpiring_eq_serve [IsStrictOrderedRing K] {capacity rate : K} (hc : 0 ≤ capacity)
    (hr : 0 ≤ rate)
    (outlives : ∀ granted level, Leaves capacity granted level →
      capacity ≤ level + lifetime granted level * rate) :
    ∀ (times : List K) (stored : Option (Bucket K)) (record : Option (Expiring K (Bucket K))),
      Tracks capacity rate stored record → times.Pairwise (· ≤ ·) →
      (∀ b, stored = some b → ∀ t ∈ times, b.time ≤ t) →
      serveExpiring capacity rate lifetime record times = serve capacity rate stored times
  | [], _, _, _, _, _ => rfl
  | now :: rest, stored, record, tracks, sorted, later => by
    obtain ⟨head, tail⟩ := List.pairwise_cons.mp sorted
    have same := take_congr (tracks.observe_eq hr now)
    have seen : 0 ≤ observe capacity rate stored now := by
      cases stored with
      | none => exact hc
      | some b =>
        cases record with
        | none => exact tracks.elim
        | some e => exact observe_nonneg hc hr tracks.2.1 (later b rfl now (by simp))
    have leaves := take_leaves seen
    have stamp := take_time capacity rate stored now
    simp only [serveExpiring, serve, takeExpiring, same]
    congr 1
    apply serveExpiring_eq_serve hc hr outlives rest _ _ _ tail
    · rintro b ⟨⟩ t member
      exact stamp.le.trans (head t member)
    · refine ⟨rfl, leaves.nonneg, ?_⟩
      have filled := outlives _ _ leaves
      rw [stamp, add_sub_cancel_left]
      exact filled

section Drain
variable [IsStrictOrderedRing K]

omit [IsStrictOrderedRing K] in
/-- What a request finds in a record written at the same instant. -/
theorem takeExpiring_now {capacity : K} (rate : K) (lifetime : Bool → K → K) {level now : K}
    {expiresAt : K} (alive : now < expiresAt) (fits : level ≤ capacity) (enough : 1 ≤ level) :
    takeExpiring capacity rate lifetime (some ⟨⟨level, now⟩, expiresAt⟩) now =
      (true, ⟨⟨level - 1, now⟩, now + lifetime true (level - 1)⟩) := by
  have seen : observe capacity rate (some ⟨level, now⟩) now = level := by
    simp [observe, fits]
  simp [takeExpiring, live_before, alive, take, seen, enough]

/-- A burst at one instant is granted as long as whole units are left; each
record written on the way lives longer than `slack`. -/
theorem serveExpiring_drain {capacity : K} (rate : K) {slack : K} {now : K}
    (lasting : ∀ granted level, slack < lifetime granted level) (waits : 0 ≤ slack) (rest : List K) :
    ∀ (m : Nat) (expiresAt : K), now + slack < expiresAt → (m : K) ≤ capacity →
      ∃ until_, now + slack < until_ ∧
        serveExpiring capacity rate lifetime (some ⟨⟨m, now⟩, expiresAt⟩)
            (List.replicate m now ++ rest) =
          List.replicate m (now, true) ++
            serveExpiring capacity rate lifetime (some ⟨⟨0, now⟩, until_⟩) rest
  | 0, expiresAt, alive, _ => ⟨expiresAt, alive, by simp⟩
  | m + 1, expiresAt, alive, fits => by
    have unit : (1 : K) ≤ (m + 1 : ℕ) := by
      push_cast
      linarith [Nat.cast_nonneg (α := K) m]
    have left : ((m + 1 : ℕ) : K) - 1 = m := by
      push_cast
      ring
    have taken := takeExpiring_now rate lifetime
      (by linarith : now < expiresAt) fits unit
    rw [left] at taken
    have renewed : now + slack < now + lifetime true m := by linarith [lasting true (m : K)]
    obtain ⟨until_, after, tail⟩ :=
      serveExpiring_drain rate lasting waits rest m _ renewed (by linarith : (m : K) ≤ capacity)
    refine ⟨until_, after, ?_⟩
    simp only [List.replicate_succ, List.cons_append, serveExpiring, taken, tail]

/-- A burst on a missing key empties a whole bucket. -/
theorem serveExpiring_fresh (rate : K) {slack : K} {now : K}
    (lasting : ∀ granted level, slack < lifetime granted level) (waits : 0 ≤ slack) (m : Nat)
    {record : Option (Expiring K (Bucket K))} (gone : live record now = none) (rest : List K) :
    ∃ until_, now + slack < until_ ∧ serveExpiring ((m + 1 : ℕ) : K) rate lifetime record
          (List.replicate (m + 1) now ++ rest) = List.replicate (m + 1) (now, true) ++
          serveExpiring ((m + 1 : ℕ) : K) rate lifetime (some ⟨⟨0, now⟩, until_⟩) rest := by
  have unit : (1 : K) ≤ (m + 1 : ℕ) := by
    push_cast
    linarith [Nat.cast_nonneg (α := K) m]
  have left : ((m + 1 : ℕ) : K) - 1 = m := by
    push_cast
    ring
  have taken : takeExpiring ((m + 1 : ℕ) : K) rate lifetime record now =
      (true, ⟨⟨m, now⟩, now + lifetime true m⟩) := by
    simp only [takeExpiring, take, gone, observe, if_pos unit, left]
  have renewed : now + slack < now + lifetime true m := by linarith [lasting true (m : K)]
  obtain ⟨until_, after, tail⟩ := serveExpiring_drain rate lasting waits rest m _ renewed
    (by linarith : (m : K) ≤ ((m + 1 : ℕ) : K))
  refine ⟨until_, after, ?_⟩
  simp only [List.replicate_succ, List.cons_append, serveExpiring, taken, tail]

/-- A burst, one request after `wait`, and a second burst. -/
def burstTwice (m : Nat) (wait back : K) : List K :=
  List.replicate (m + 1) 0 ++ wait :: List.replicate (m + 1) back

omit [IsStrictOrderedRing K] in
theorem burstTwice_sorted (m : Nat) {wait back : K} (waits : 0 ≤ wait) (later : wait ≤ back) :
    (burstTwice m wait back).Pairwise (· ≤ ·) := by
  refine List.pairwise_append.mpr ⟨List.pairwise_replicate.mpr (Or.inr le_rfl), ?_, ?_⟩
  · refine List.pairwise_cons.mpr ⟨?_, List.pairwise_replicate.mpr (Or.inr le_rfl)⟩
    intro t member
    rw [List.eq_of_mem_replicate member]
    exact later
  · intro t first u second
    rw [List.eq_of_mem_replicate first]
    rcases List.mem_cons.mp second with rfl | last
    · exact waits
    · rw [List.eq_of_mem_replicate last]
      exact waits.trans later

/-- A record that expires before its refill hands out a whole bucket early:
drain it, be refused after `wait`, and come back when the key is gone. -/
theorem serveExpiring_ne_serve {rate wait : K} (hr : 0 ≤ rate) (waits : 0 ≤ wait)
    (lasting : ∀ granted level, wait < lifetime granted level) (m : Nat) (refused : wait * rate < 1)
    (early : wait * rate + lifetime false (wait * rate) * rate < ((m + 1 : ℕ) : K)) :
    let back := wait + lifetime false (wait * rate)
    serveExpiring ((m + 1 : ℕ) : K) rate lifetime none (burstTwice m wait back) ≠
      serve ((m + 1 : ℕ) : K) rate none (burstTwice m wait back) := by
  intro back same
  have fits : wait * rate ≤ ((m + 1 : ℕ) : K) := by
    push_cast
    linarith [Nat.cast_nonneg (α := K) m]
  -- Both sides drain the bucket and refuse the request at `wait`.
  obtain ⟨until_, alive, drained⟩ := serveExpiring_fresh rate lasting waits m
    (live_none (0 : K)) (wait :: List.replicate (m + 1) back)
  have plain := serve_fresh rate (0 : K) m (wait :: List.replicate (m + 1) back)
  have seen : observe ((m + 1 : ℕ) : K) rate (some ⟨0, 0⟩) wait = wait * rate := by
    simp only [observe, sub_zero, zero_add]
    exact min_eq_right fits
  have denial : take ((m + 1 : ℕ) : K) rate (some ⟨0, 0⟩) wait = (false, ⟨wait * rate, wait⟩) := by
    simp only [take, seen, if_neg (not_le.mpr refused)]
  have record : takeExpiring ((m + 1 : ℕ) : K) rate lifetime (some ⟨⟨0, 0⟩, until_⟩) wait =
      (false, ⟨⟨wait * rate, wait⟩, back⟩) := by
    have found : live (some (⟨⟨0, 0⟩, until_⟩ : Expiring K (Bucket K))) wait = some ⟨0, 0⟩ :=
      live_before (by linarith : wait < until_)
    simp only [takeExpiring, found, denial, back]
  -- The key is gone at `back`, so a full burst is granted there.
  have gone : live (some (⟨⟨wait * rate, wait⟩, back⟩ : Expiring K (Bucket K))) back = none :=
    live_after (le_refl back)
  obtain ⟨_, _, regained⟩ := serveExpiring_fresh rate lasting waits m gone []
  rw [List.append_nil] at regained
  rw [burstTwice, drained, plain, List.append_cancel_left_eq] at same
  simp only [serveExpiring, serve, denial, record, regained, List.cons.injEq, true_and,
    List.append_nil] at same
  -- The plain bucket has not refilled by then.
  have bound := granted_le_of_stored back back (by linarith [Nat.cast_nonneg (α := K) m] :
      (0 : K) ≤ ((m + 1 : ℕ) : K)) hr (List.replicate (m + 1) back) ⟨wait * rate, wait⟩
    (mul_nonneg waits hr) (by linarith [lasting false (wait * rate)])
    (List.pairwise_replicate.mpr (Or.inr (le_refl _)))
    (fun t member => by
      rw [List.eq_of_mem_replicate member]
      linarith [lasting false (wait * rate)])
  rw [← same] at bound
  simp only [granted, List.countP_replicate, le_refl, decide_true, Bool.and_self, if_true,
    back, add_sub_cancel_left] at bound
  linarith

end Drain

end AlianStructure.Library.ExpiringBucket
