import AlianStructure.Source.Billing.BillingService

/-!
# Usage is metered once a key

Source: src/billing/billing.service.ts:93-173; src/billing/dto/record-usage.dto.ts:3-18. Over all calls in turn
from a new service: the usage of an account has one record for each key used with it and one for each call
without a key, and a call gets a record of its own account. This holds exactly when calls of two accounts never
share an entry of the index and no account reuses the empty key; keys without a colon, as UUIDs are, see to that.
The invoice previews follow the usage.
-/
namespace AlianStructure.Guarantees.MeteredUsage
open Library.InsertionOrder Source Source.Billing BillingService

/-- The account and the key of a call that records usage. -/
def use : BillingCall → Option (String × Option String)
  | .setPlan _ _ => none
  | .recordUsage _ accountId input => some (accountId, input.idempotencyKey)

def uses (calls : List BillingCall) : List (String × Option String) := calls.filterMap use

def counted (billing : BillingState) (accountId : String) (key : Option String) : Nat :=
  (getUsage billing accountId).countP (·.idempotencyKey = key)

variable {inc : String → String → ℚ → Except Exception Unit}

/-- One record for each key of an account and for each call without one; a call gets its account's record. -/
structure Metered (inc : String → String → ℚ → Except Exception Unit) (calls : List BillingCall) : Prop where
  keyed : ∀ accountId key, counted (replay inc .fresh calls) accountId (some key) =
    if (accountId, some key) ∈ uses calls then 1 else 0
  unkeyed : ∀ accountId,
    counted (replay inc .fresh calls) accountId none = (uses calls).count (accountId, none)
  own : ∀ past now accountId input later, calls = past ++ .recordUsage now accountId input :: later →
    ∀ record, (recordUsage inc (replay inc .fresh past) now accountId input).2 = .ok record →
      record.accountId = accountId

/-- Two accounts share no entry of the index, and no account reuses the empty key. -/
structure Separable (calls : List BillingCall) : Prop where
  apart : ∀ accountId key other otherKey, (accountId, key) ∈ uses calls → (other, otherKey) ∈ uses calls →
    ∀ index, indexKey accountId key = some index → indexKey other otherKey = some index → accountId = other
  filled : ∀ accountId, (uses calls).count (accountId, some "") ≤ 1

/-! ## The index -/

variable {accountId index : String}

theorem indexKey_eq_some {key : Option String} :
    indexKey accountId key = some index ↔ ∃ text, key = some text ∧ text ≠ "" ∧ accountId ++ ":" ++ text = index := by
  unfold indexKey
  constructor
  · intro here
    split at here
    next => cases here
    next text =>
      split at here
      next => cases here
      next filled => exact ⟨text, rfl, filled, Option.some.inj here⟩
  · rintro ⟨text, rfl, filled, rfl⟩
    exact if_neg filled

theorem indexKey_empty (accountId : String) : indexKey accountId (some "") = none := by
  simp [indexKey]

theorem indexKey_inj {key otherKey : Option String} (here : indexKey accountId key = some index)
    (there : indexKey accountId otherKey = some index) : key = otherKey := by
  obtain ⟨text, rfl, _, rfl⟩ := indexKey_eq_some.mp here
  obtain ⟨other, rfl, _, same⟩ := indexKey_eq_some.mp there
  rw [(String.append_right_inj _).mp same]

theorem colon_separates {accountId other text otherText : String} (plain : ':' ∉ text.toList)
    (otherPlain : ':' ∉ otherText.toList) (same : accountId ++ ":" ++ text = other ++ ":" ++ otherText) :
    accountId = other := by
  have lists := congrArg String.toList same
  simp only [String.toList_append] at lists
  have split : accountId.toList ++ ':' :: text.toList = other.toList ++ ':' :: otherText.toList := by
    simpa using lists
  rcases List.append_eq_append_iff.mp split with ⟨rest, longer, colon⟩ | ⟨rest, longer, colon⟩ <;>
    rcases List.cons_eq_append_iff.mp colon with ⟨rfl, _⟩ | ⟨inside, rfl, within⟩
  · exact String.toList_inj.mp (by simpa using longer.symm)
  · exact absurd (within ▸ by simp) plain
  · exact String.toList_inj.mp (by simpa using longer)
  · exact absurd (within ▸ by simp) otherPlain

/-! ## Storing a record -/

theorem getUsage_store (billing : BillingState) (index : Option String) (record : UsageRecord) (accountId : String) :
    getUsage (store billing index record) accountId =
      if accountId = record.accountId then getUsage billing accountId ++ [record]
      else getUsage billing accountId := by
  unfold store
  simp only [getUsage, OrderedMap.get?_set]
  split
  next same => rw [same]; rfl
  next => rfl

theorem mem_store {billing : BillingState} {index : Option String} {record other : UsageRecord} {accountId : String} :
    other ∈ getUsage (store billing index record) accountId ↔
      other ∈ getUsage billing accountId ∨ accountId = record.accountId ∧ other = record := by
  rw [getUsage_store]
  split
  next same => simp [same]
  next other => simp [other]

theorem counted_store (billing : BillingState) (index : Option String) (record : UsageRecord) (accountId : String)
    (key : Option String) : counted (store billing index record) accountId key = counted billing accountId key +
        if accountId = record.accountId ∧ record.idempotencyKey = key then 1 else 0 := by
  unfold counted
  rw [getUsage_store]
  by_cases same : accountId = record.accountId
  · simp [same, List.countP_append, List.countP_singleton]
  · simp [same]

theorem index_store (billing : BillingState) (index : Option String) (record : UsageRecord) (i : String) :
    (store billing index record).idempotencyKeys.get? i =
      if index = some i then some record else billing.idempotencyKeys.get? i := by
  unfold store
  cases index with
  | none => simp
  | some index =>
    simp only [OrderedMap.get?_set, Option.some.injEq, eq_comm]

/-! ## What calls in turn keep -/

/-- The records and the index after some uses. -/
structure Kept (used : List (String × Option String)) (billing : BillingState) : Prop where
  owned : ∀ accountId, ∀ record ∈ getUsage billing accountId,
    record.accountId = accountId ∧ (accountId, record.idempotencyKey) ∈ used
  indexed : ∀ accountId, ∀ record ∈ getUsage billing accountId, ∀ index,
    indexKey accountId record.idempotencyKey = some index → billing.idempotencyKeys.get? index = some record
  stored : ∀ index record, billing.idempotencyKeys.get? index = some record →
    record ∈ getUsage billing record.accountId ∧ indexKey record.accountId record.idempotencyKey = some index
  known : ∀ accountId key index, (accountId, key) ∈ used → indexKey accountId key = some index →
    billing.idempotencyKeys.get? index ≠ none
  once : ∀ accountId key index, indexKey accountId key = some index → counted billing accountId key ≤ 1
  each : ∀ accountId key, indexKey accountId key = none → counted billing accountId key = used.count (accountId, key)

variable {used : List (String × Option String)} {billing : BillingState}

theorem kept_fresh : Kept [] .fresh :=
  ⟨fun _ _ none => (nomatch none), fun _ _ none => (nomatch none), fun _ _ none => (nomatch none),
    fun _ _ _ none => (nomatch none), fun _ _ _ _ => Nat.zero_le _, fun _ _ _ => rfl⟩

theorem Kept.known_key (kept : Kept used billing) {key : Option String} {record : UsageRecord}
    (here : indexKey accountId key = some index) (found : billing.idempotencyKeys.get? index = some record) :
    Kept (used ++ [(accountId, key)]) billing where
  owned account record member :=
    ⟨(kept.owned account record member).1, List.mem_append_left _ (kept.owned account record member).2⟩
  indexed := kept.indexed
  stored := kept.stored
  known account other index' member there := by
    rcases List.mem_append.mp member with old | new
    · exact kept.known account other index' old there
    · obtain ⟨rfl, rfl⟩ := Prod.mk.inj (List.mem_singleton.mp new)
      rw [Option.some.inj (there.symm.trans here), found]
      nofun
  once := kept.once
  each account other unindexed := by
    have differs : (accountId, key) ≠ (account, other) := by
      rintro ⟨⟩
      rw [here] at unindexed
      cases unindexed
    rw [kept.each account other unindexed, List.count_append, List.count_singleton, beq_false_of_ne differs]
    rfl

theorem Kept.store (kept : Kept used billing) (record : UsageRecord)
    (missing : (indexKey record.accountId record.idempotencyKey).bind billing.idempotencyKeys.get? = none) :
    Kept (used ++ [(record.accountId, record.idempotencyKey)])
      (BillingService.store billing (indexKey record.accountId record.idempotencyKey) record) where
  owned account other member := by
    rcases mem_store.mp member with old | ⟨rfl, rfl⟩
    · exact ⟨(kept.owned account other old).1, List.mem_append_left _ (kept.owned account other old).2⟩
    · exact ⟨rfl, List.mem_append_right _ (List.mem_singleton_self _)⟩
  indexed account other member index here := by
    rw [index_store]
    rcases mem_store.mp member with old | ⟨rfl, rfl⟩
    · have found := kept.indexed account other old index here
      rw [if_neg fun same => nomatch (show some other = none from found.symm.trans (by simpa [same] using missing))]
      exact found
    · rw [if_pos here]
  stored index other found := by
    rw [index_store] at found
    split at found
    next here =>
      cases found
      exact ⟨mem_store.mpr (Or.inr ⟨rfl, rfl⟩), here⟩
    next =>
      obtain ⟨member, named⟩ := kept.stored index other found
      exact ⟨mem_store.mpr (Or.inl member), named⟩
  known account key index member here := by
    rw [index_store]
    split
    next => nofun
    next differs =>
      rcases List.mem_append.mp member with old | new
      · exact kept.known account key index old here
      · obtain ⟨rfl, rfl⟩ := Prod.mk.inj (List.mem_singleton.mp new)
        exact absurd here differs
  once account key index here := by
    rw [counted_store]
    split
    next same =>
      obtain ⟨rfl, rfl⟩ := same
      have absent : counted billing record.accountId record.idempotencyKey = 0 := by
        refine List.countP_eq_zero.mpr fun other member named => ?_
        have found := kept.indexed _ other member index (by rw [of_decide_eq_true named, here])
        rw [here, Option.bind_some, found] at missing
        cases missing
      rw [absent]
    next => exact kept.once account key index here
  each account key unindexed := by
    rw [counted_store, kept.each account key unindexed, List.count_append, List.count_singleton]
    refine congrArg _ (if_congr ?_ rfl rfl)
    rw [beq_iff_eq, Prod.mk.injEq]
    exact and_congr_left' eq_comm

theorem kept_respond (inc : String → String → ℚ → Except Exception Unit) (kept : Kept used billing)
    (call : BillingCall) : Kept (used ++ (use call).toList) (respond inc billing call).1 := by
  cases call with
  | setPlan accountId planId =>
    rw [show (use (.setPlan accountId planId)).toList = [] from rfl, List.append_nil]
    show Kept used (setPlan billing accountId planId).1
    unfold setPlan
    split
    next => exact kept
    next => exact ⟨kept.owned, kept.indexed, kept.stored, kept.known, kept.once, kept.each⟩
  | recordUsage now accountId input =>
    show Kept (used ++ [(accountId, input.idempotencyKey)]) (recordUsage inc billing now accountId input).1
    unfold recordUsage
    dsimp only
    split
    next record found =>
      obtain ⟨index, here, found⟩ := Option.bind_eq_some_iff.mp found
      exact kept.known_key here found
    next missing => exact kept.store { input with accountId, recordedAt := now } missing

theorem kept_replay (inc : String → String → ℚ → Except Exception Unit) (calls : List BillingCall) :
    Kept (uses calls) (replay inc .fresh calls) := by
  suffices general : ∀ calls used billing, Kept used billing → Kept (used ++ uses calls) (replay inc billing calls) from
    general calls [] .fresh kept_fresh
  intro calls
  induction calls with
  | nil =>
    intro used billing kept
    rw [uses, List.filterMap_nil, List.append_nil]
    exact kept
  | cons call calls ih =>
    intro used billing kept
    have split : uses (call :: calls) = (use call).toList ++ uses calls := by
      unfold uses
      cases made : use call <;> simp [made]
    have later := ih _ _ (kept_respond inc kept call)
    rw [List.append_assoc, ← split] at later
    exact later

/-! ## The law -/

theorem uses_append (past later : List BillingCall) : uses (past ++ later) = uses past ++ uses later :=
  List.filterMap_append

theorem counted_pos {accountId : String} {key : Option String} :
    0 < counted billing accountId key ↔ ∃ record ∈ getUsage billing accountId, record.idempotencyKey = key := by
  simp [counted, List.countP_pos_iff]

variable {calls : List BillingCall}

theorem metered_of_separable (inc : String → String → ℚ → Except Exception Unit) (separable : Separable calls) :
    Metered inc calls := by
  have kept := kept_replay inc calls
  refine ⟨fun accountId key => ?_, fun accountId => kept.each accountId none rfl, ?_⟩
  · by_cases empty : key = ""
    · subst empty
      have filled := separable.filled accountId
      rw [kept.each accountId (some "") (indexKey_empty accountId)]
      split
      next used => exact Nat.le_antisymm filled (List.count_pos_iff.mpr used)
      next unused => exact List.count_eq_zero.mpr unused
    · have here : indexKey accountId (some key) = some (accountId ++ ":" ++ key) := if_neg empty
      split
      next used =>
        refine Nat.le_antisymm (kept.once accountId _ _ here) (counted_pos.mpr ?_)
        obtain ⟨record, found⟩ := Option.ne_none_iff_exists'.mp (kept.known accountId _ _ used here)
        obtain ⟨member, named⟩ := kept.stored _ record found
        have same := separable.apart _ _ _ _ (kept.owned _ record member).2 used _ named here
        rw [same] at member named
        exact ⟨record, member, indexKey_inj named here⟩
      next unused =>
        refine Nat.eq_zero_of_not_pos fun some => unused ?_
        obtain ⟨record, member, named⟩ := counted_pos.mp some
        exact named ▸ (kept.owned accountId record member).2
  · rintro past now accountId input later rfl record answered
    have before := kept_replay inc past
    unfold recordUsage at answered
    dsimp only at answered
    split at answered
    next old found =>
      cases answered
      obtain ⟨index, here, found⟩ := Option.bind_eq_some_iff.mp found
      obtain ⟨member, named⟩ := before.stored index record found
      refine separable.apart record.accountId record.idempotencyKey accountId input.idempotencyKey ?_ ?_
        index named here
      · rw [uses_append]
        exact List.mem_append_left _ (before.owned _ record member).2
      · rw [uses_append]
        exact List.mem_append_right _ List.mem_cons_self
    next =>
      simp only [bind, Except.bind] at answered
      split at answered
      next => cases answered
      next =>
        split at answered
        next => cases answered
        next =>
          cases answered
          rfl

/-- Metered calls share no entry: it belongs to the account of every call with its key. -/
theorem separable_of_metered (metered : Metered inc calls) : Separable calls := by
  have kept := kept_replay inc calls
  have entry : ∀ accountId key index, (accountId, key) ∈ uses calls → indexKey accountId key = some index →
      ∃ record, (replay inc .fresh calls).idempotencyKeys.get? index = some record ∧ record.accountId = accountId := by
    intro accountId key index used here
    obtain ⟨text, rfl, _⟩ := indexKey_eq_some.mp here
    have counts := metered.keyed accountId text
    rw [if_pos used] at counts
    obtain ⟨record, member, named⟩ := counted_pos.mp (counts ▸ Nat.one_pos)
    exact ⟨record, kept.indexed accountId record member index (by rw [named, here]),
      (kept.owned accountId record member).1⟩
  refine ⟨fun accountId key other otherKey used otherUsed index here there => ?_, fun accountId => ?_⟩
  · obtain ⟨record, found, rfl⟩ := entry accountId key index used here
    obtain ⟨_, same, rfl⟩ := entry other otherKey index otherUsed there
    rw [Option.some.inj (found.symm.trans same)]
  · rw [← kept.each accountId (some "") (indexKey_empty accountId), metered.keyed]
    split <;> decide

theorem separable_of_plain
    (plain : ∀ accountId key, (accountId, some key) ∈ uses calls → key ≠ "" ∧ ':' ∉ key.toList) :
    Separable calls := by
  refine ⟨fun accountId key other otherKey used otherUsed index here there => ?_, fun accountId => ?_⟩
  · obtain ⟨text, rfl, _, rfl⟩ := indexKey_eq_some.mp here
    obtain ⟨otherText, rfl, _, same⟩ := indexKey_eq_some.mp there
    exact colon_separates (plain _ _ used).2 (plain _ _ otherUsed).2 same.symm
  · rw [List.count_eq_zero.mpr fun used => (plain _ _ used).1 rfl]
    exact Nat.zero_le _

/-- Usage is metered once a key exactly when no two calls share an entry that should differ; so it is for the
keys that the service's requests admit. -/
theorem usage_metered_iff (inc : String → String → ℚ → Except Exception Unit) (calls : List BillingCall) :
    (Metered inc calls ↔ Separable calls) ∧
      ((∀ accountId key, (accountId, some key) ∈ uses calls → key ≠ "" ∧ ':' ∉ key.toList) → Metered inc calls) :=
  ⟨⟨separable_of_metered, metered_of_separable inc⟩, fun plain => metered_of_separable inc (separable_of_plain plain)⟩

def sampleUsage (key : String) : UsageInput := ⟨"api_request", 1, none, some key⟩

/-- A retry under the same key, by two accounts that choose one key. -/
def retriedCalls : List BillingCall :=
  [.recordUsage 0 "a" (sampleUsage "550e8400-e29b-41d4-a716-446655440000"),
    .recordUsage 1 "a:b" (sampleUsage "550e8400-e29b-41d4-a716-446655440000"),
    .recordUsage 2 "a" (sampleUsage "550e8400-e29b-41d4-a716-446655440000")]

theorem retriedCalls_metered : Metered (fun _ _ _ => .ok ()) retriedCalls :=
  (usage_metered_iff (fun _ _ _ => .ok ()) retriedCalls).2 fun accountId key used => by
    have isKey : key = "550e8400-e29b-41d4-a716-446655440000" := by
      simp only [uses, retriedCalls, use, sampleUsage, List.filterMap_cons_some, List.filterMap_nil,
        List.mem_cons, Prod.mk.injEq, Option.some.injEq, List.not_mem_nil, or_false] at used
      rcases used with ⟨_, here⟩ | ⟨_, here⟩ | ⟨_, here⟩ <;> exact here
    subst isKey
    decide +kernel

/-- Two accounts whose keys meet in the index: the second one's usage is not recorded. -/
def meetingCalls : List BillingCall :=
  [.recordUsage 0 "a" (sampleUsage "b:c"), .recordUsage 1 "a:b" (sampleUsage "c")]

theorem usage_suppressed : ¬ ∀ calls, Metered (fun _ _ _ => .ok ()) calls := by
  intro metered
  have counts := (metered meetingCalls).keyed "a:b" "c"
  revert counts
  decide +kernel

/-! ## Invoice previews -/

/-- What an account has used in a period. -/
def unitsIn (billing : BillingState) (accountId : String) (periodStart periodEnd : Nat) : ℚ :=
  ((getUsage billing accountId).filter fun record =>
    decide (periodStart ≤ record.recordedAt) && decide (record.recordedAt ≤ periodEnd)).foldl
      (fun total record => total + record.quantity) 0

/-- What a plan charges for the units of a period. -/
def charge (plan : BillingPlan) (units : ℚ) : ℚ :=
  plan.monthlyPriceCents + max 0 (units - plan.includedUnits) * plan.unitPriceCents

/-- A call that records usage, none of it negative. -/
def Uses (call : BillingCall) : Prop :=
  ∃ now accountId input, call = .recordUsage now accountId input ∧ 0 ≤ input.quantity

theorem findPlan_ok {planId : String} {plan : BillingPlan} (found : findPlan planId = .ok plan) :
    plan ∈ plans ∧ findPlan plan.id = .ok plan := by
  unfold findPlan at found
  split at found
  next => cases found
  next here =>
    cases found
    have named := List.find?_some here
    exact ⟨List.mem_of_find?_eq_some here, by rw [of_decide_eq_true named, findPlan, here]⟩

theorem getPlan_respond (planned : ∃ plan ∈ plans, getPlan billing accountId = .ok plan) (call : BillingCall) :
    ∃ plan ∈ plans, getPlan (respond inc billing call).1 accountId = .ok plan := by
  cases call with
  | setPlan account planId =>
    change ∃ plan ∈ plans, getPlan (setPlan billing account planId).1 accountId = .ok plan
    unfold setPlan
    split
    next => exact planned
    next plan found =>
      unfold getPlan
      rw [OrderedMap.get?_set]
      split
      next => exact ⟨plan, findPlan_ok found⟩
      next => exact planned
  | recordUsage now account input =>
    change ∃ plan ∈ plans, getPlan (recordUsage inc billing now account input).1 accountId = .ok plan
    unfold recordUsage
    dsimp only
    split <;> exact planned

theorem preview_charges {plan : BillingPlan} (planned : getPlan billing accountId = .ok plan)
    (periodStart periodEnd : Nat) : ∃ preview,
    createInvoicePreview billing accountId periodStart periodEnd = .ok preview ∧
      preview.subtotalCents = charge plan (unitsIn billing accountId periodStart periodEnd) := by
  unfold createInvoicePreview
  rw [planned]
  refine ⟨_, rfl, ?_⟩
  dsimp only
  split
  next => simp [charge, unitsIn]
  next none => simp [charge, unitsIn, le_antisymm (not_lt.mp none) (le_max_left _ _)]

theorem charge_mono {plan : BillingPlan} (listed : plan ∈ plans) {units more : ℚ} (grows : units ≤ more) :
    charge plan units ≤ charge plan more := by
  have priced : 0 ≤ plan.unitPriceCents := (by decide +kernel : ∀ plan ∈ plans, 0 ≤ plan.unitPriceCents) plan listed
  exact add_le_add_right (mul_le_mul_of_nonneg_right (max_le_max_left 0 (sub_le_sub_right grows _)) priced) _

/-- Usage leaves the plans alone and adds to the units. -/
theorem respond_uses {call : BillingCall} (records : Uses call) (accountId : String) (periodStart periodEnd : Nat) :
    getPlan (respond inc billing call).1 accountId = getPlan billing accountId ∧
      unitsIn billing accountId periodStart periodEnd ≤
        unitsIn (respond inc billing call).1 accountId periodStart periodEnd := by
  obtain ⟨now, account, input, rfl, nonneg⟩ := records
  change getPlan (recordUsage inc billing now account input).1 accountId = _ ∧
    _ ≤ unitsIn (recordUsage inc billing now account input).1 accountId periodStart periodEnd
  unfold recordUsage
  dsimp only
  split
  next => exact ⟨rfl, le_rfl⟩
  next =>
    refine ⟨rfl, ?_⟩
    unfold unitsIn
    rw [getUsage_store]
    split
    next =>
      rw [List.filter_append, List.foldl_append, List.filter_singleton, Bool.cond_eq_ite]
      split
      next => exact le_add_of_nonneg_right nonneg
      next => exact le_rfl
    next => exact le_rfl

/-- After any calls the preview of every account is its plan's charge for the units of the period; usage never lowers
it, and a call that is retried under its key changes nothing at all. -/
theorem previews_follow_usage (inc : String → String → ℚ → Except Exception Unit) (calls : List BillingCall)
    (accountId : String) (periodStart periodEnd : Nat) : ∃ plan ∈ plans, ∃ preview,
      createInvoicePreview (replay inc .fresh calls) accountId periodStart periodEnd = .ok preview ∧
      preview.subtotalCents = charge plan (unitsIn (replay inc .fresh calls) accountId periodStart periodEnd) ∧
      (∀ more, (∀ call ∈ more, Uses call) → ∃ later,
        createInvoicePreview (replay inc .fresh (calls ++ more)) accountId periodStart periodEnd = .ok later ∧
          preview.subtotalCents ≤ later.subtotalCents) ∧
      ∀ now other input, (other, input.idempotencyKey) ∈ uses calls → indexKey other input.idempotencyKey ≠ none →
        replay inc .fresh (calls ++ [.recordUsage now other input]) = replay inc .fresh calls := by
  obtain ⟨plan, listed, planned⟩ : ∃ plan ∈ plans, getPlan (replay inc .fresh calls) accountId = .ok plan :=
    List.foldlRecOn (motive := fun billing => ∃ plan ∈ plans, getPlan billing accountId = .ok plan) calls _
      ⟨_, List.mem_cons_self, rfl⟩ fun _ planned call _ => getPlan_respond planned call
  obtain ⟨preview, made, charged⟩ := preview_charges planned periodStart periodEnd
  refine ⟨plan, listed, preview, made, charged, fun more records => ?_, fun now other input used keyed => ?_⟩
  · have grows : getPlan (replay inc (replay inc .fresh calls) more) accountId = .ok plan ∧
        unitsIn (replay inc .fresh calls) accountId periodStart periodEnd ≤
          unitsIn (replay inc (replay inc .fresh calls) more) accountId periodStart periodEnd :=
      List.foldlRecOn (motive := fun after => getPlan after accountId = .ok plan ∧
        unitsIn (replay inc .fresh calls) accountId periodStart periodEnd ≤
          unitsIn after accountId periodStart periodEnd) more _ ⟨planned, le_rfl⟩ fun _ here call member =>
          have ⟨same, adds⟩ := respond_uses (records call member) accountId periodStart periodEnd
          ⟨same.trans here.1, here.2.trans adds⟩
    obtain ⟨later, follows, total⟩ := preview_charges grows.1 periodStart periodEnd
    exact ⟨later, by rw [replay, List.foldl_append]; exact follows, charged ▸ total ▸ charge_mono listed grows.2⟩
  · obtain ⟨index, here⟩ := Option.ne_none_iff_exists'.mp keyed
    obtain ⟨record, found⟩ := Option.ne_none_iff_exists'.mp ((kept_replay inc calls).known other _ index used here)
    rw [replay, List.foldl_append, List.foldl_cons, List.foldl_nil]
    change (recordUsage inc (replay inc .fresh calls) now other input).1 = _
    simp only [recordUsage, here, Option.bind_some, found]

end AlianStructure.Guarantees.MeteredUsage
