import Mathlib.Algebra.Order.BigOperators.Group.List
import Mathlib.Algebra.Order.Ring.Nat
import Mathlib.Data.List.Perm.Subperm
import AlianStructure.Library.CallJournal
import AlianStructure.Source.Payments.StellarAdapter

/-!
# What refunds add up to

Source: src/payments/adapters/stellar/stellar.adapter.ts:223-301. A refund call sends back what
it is asked for, once; nothing remembers earlier refunds.
-/
namespace AlianStructure.Guarantees.RefundTotals
open Library.AsyncMethod Library.Interleaving Library.CallProtocol Library.CallJournal
open Source Source.Payments

/-! ## Refunds on the ledger -/

def submissionOf (event : Event stellarPayments) : Option Transaction :=
  match event.op with
  | .submitTransaction transaction => some transaction
  | _ => none

/-- The transactions that a call has submitted. -/
def submissions (past : List (Event stellarPayments)) : List Transaction :=
  past.filterMap submissionOf

theorem submissions_append (past : List (Event stellarPayments)) (event : Event stellarPayments) :
    submissions (past ++ [event]) = submissions past ++ (submissionOf event).toList := by
  unfold submissions
  rw [List.filterMap_append]
  cases made : submissionOf event <;> simp [made]

theorem submissionOf_some {event : Event stellarPayments} {transaction : Transaction}
    (submitted : submissionOf event = some transaction) : event.op = .submitTransaction transaction := by
  unfold submissionOf at submitted
  split at submitted
  next other isOp =>
    cases submitted
    exact isOp
  next => cases submitted

/-- The request of a refund call that is wanted. -/
def requestOf (wanted : RefundRequest → Bool) (call : StellarCall) : Option RefundRequest :=
  match call with
  | .refund request => if wanted request then some request else none
  | .submitTransaction _ => none

section Totals
variable {sdk : StellarSdk} {config : StellarConfig}

def requests (c : Config (stellarProcess sdk config)) (wanted : RefundRequest → Bool) :
    List RefundRequest :=
  c.pool.filterMap fun task => requestOf wanted task.call

/-- The transactions on the ledger that refund calls submitted. -/
def refunds (c : Config (stellarProcess sdk config)) (wanted : RefundRequest → Bool) :
    List Included :=
  c.world.ledger.entries.filter fun entry => c.pool.any fun task =>
    (requestOf wanted task.call).isSome && (submissions task.past).contains entry.transaction

/-- The payment operation that a refund of a transaction reverses. -/
def originalOf (sdk : StellarSdk) (ledger : Ledger) (paymentId : String) : Option OperationRecord :=
  (ledger.find paymentId).bind fun entry =>
    findOriginal (entry.transaction.operations.map (recordOf sdk entry.transaction.source))

def operationUnits : Operation → Nat
  | .payment _ _ amount => amount
  | .other _ => 0

def sentUnits (transaction : Transaction) : Nat := (transaction.operations.map operationUnits).sum

def refundedUnits (c : Config (stellarProcess sdk config)) (paymentId : String) : Nat :=
  ((refunds c fun request => decide (request.paymentId = paymentId)).map
    fun entry => sentUnits entry.transaction).sum

/-- The units a request asks for: its amount, or that of the payment. -/
def askedUnits (sdk : StellarSdk) (ledger : Ledger) (request : RefundRequest) : Nat :=
  ((originalOf sdk ledger request.paymentId).bind fun original =>
    sdk.units (refundAmount request original)).getD 0

/-- The refunds of a payment are within its amount. -/
def WithinPayments (c : Config (stellarProcess sdk config)) : Prop :=
  ∀ paymentId, ∀ original ∈ originalOf sdk c.world.ledger paymentId,
    ∀ paid ∈ sdk.units (amountText original), refundedUnits c paymentId ≤ paid

/-- There is at most one refund under a key. -/
def OncePerKey (c : Config (stellarProcess sdk config)) : Prop :=
  ∀ key, (refunds c fun request => decide (request.idempotencyKey = key)).length ≤ 1

end Totals

/-! ## What a refund call may submit -/

/-- A transaction pays what a request asks for back to the payer. -/
def Reverses (sdk : StellarSdk) (request : RefundRequest) (original : OperationRecord)
    (transaction : Transaction) : Prop :=
  ∃ payer asset amount, original.sender = some payer ∧
    sdk.units (refundAmount request original) = some amount ∧
    transaction.operations = [.payment payer asset amount]

/-- The payment found for a request, as far as it was answered. -/
def Found (request : RefundRequest) (past : List (Event stellarPayments))
    (original : OperationRecord) : Prop :=
  ∃ records : List OperationRecord, (⟨.paymentsForTransaction request.paymentId, .ok records⟩ :
    Event stellarPayments) ∈ past ∧ findOriginal records = some original

/-- A refund call submits one reversal of the payment that it has found. -/
def refundRules (sdk : StellarSdk) : Rules stellarPayments where
  permits call past op :=
    ∀ request transaction, call = .refund request → op = .submitTransaction transaction →
      submissions past = [] ∧ ∃ original, Found request past original ∧
        Reverses sdk request original transaction
  possible _ _ := True
  vouches _ _ _ := True

section Methods
variable {sdk : StellarSdk} {request : RefundRequest} {past : List (Event stellarPayments)}

theorem yields_toStellarError {call : StellarCall} {context : String} {op : StellarOp}
    (permitted : (refundRules sdk).permits call past op) :
    Yields (refundRules sdk) call past (toStellarError context op) fun past' reply =>
      past' = past ++ [⟨op, .ok reply⟩] := by
  refine yields_tryCatch (yields_perform permitted fun _ _ => rfl) fun _ _ _ => yields_throw

theorem reversalOf_reverses {original : OperationRecord} {asset : Asset}
    {recipientAccount : AccountResponse} {now : Nat} {reversal : Transaction}
    (made : reversalOf sdk request original asset recipientAccount now = .ok reversal) :
    Reverses sdk request original reversal := by
  unfold reversalOf at made
  split at made
  next => cases made
  next => cases made
  next => cases made
  next payer amount memo isPayer isAmount _ =>
    cases made
    exact ⟨payer, asset, amount, isPayer, isAmount, rfl⟩

theorem reverse_yields {original : OperationRecord} (found : Found request past original)
    (none : submissions past = []) : Yields (refundRules sdk) (.refund request) past (reverse sdk request original)
      fun _ _ => True := by
  unfold reverse
  split
  next => exact yields_throw
  next asset _ =>
    refine yields_bind (yields_toStellarError fun _ _ _ impossible => by cases impossible) ?_
    rintro _ recipientAccount _ rfl
    have remembers : Yields (refundRules sdk) (.refund request)
        (past ++ [⟨.loadAccount (original.recipient.getD "undefined"), .ok recipientAccount⟩])
        Async.memory fun past' _ =>
          past' = past ++ [⟨.loadAccount (original.recipient.getD "undefined"),
            .ok recipientAccount⟩] := yields_memory fun _ => rfl
    refine yields_bind remembers ?_
    rintro _ memory _ rfl
    split
    next => exact yields_throw
    next reversal made =>
      have permitted : (refundRules sdk).permits (.refund request)
          (past ++ [⟨.loadAccount (original.recipient.getD "undefined"), .ok recipientAccount⟩])
          (.submitTransaction reversal) := by
        intro same transaction isSame isReversal
        cases isSame
        cases isReversal
        obtain ⟨records, listed, isOriginal⟩ := found
        refine ⟨?_, original, ⟨records, List.mem_append_left _ listed, isOriginal⟩,
          reversalOf_reverses made⟩
        simpa [submissions, submissionOf] using none
      exact yields_bind (yields_toStellarError permitted) fun _ _ _ _ => yields_pure trivial

theorem refund_yields {config : StellarConfig} :
    Yields (refundRules sdk) (.refund request) [] (refund sdk config request) fun _ _ => True := by
  unfold refund
  split
  next => exact yields_throw
  next secret _ =>
    refine yields_bind (yields_toStellarError fun _ _ _ impossible => by cases impossible) ?_
    rintro _ records _ rfl
    split
    next => exact yields_throw
    next original isOriginal =>
      split
      next => exact yields_throw
      next =>
        exact reverse_yields ⟨records, List.mem_singleton.mpr rfl, isOriginal⟩ rfl

theorem refunds_conform (sdk : StellarSdk) (config : StellarConfig) :
    Conforms (refundRules sdk).protocol (stellarProcess sdk config) := by
  refine rules_conform (fun call _ => ?_) fun _ _ _ _ _ _ => trivial
  cases call with
  | refund request => exact yields_bind refund_yields fun _ _ _ _ => yields_pure trivial
  | submitTransaction signed =>
    have permitted : ∀ past op, (refundRules sdk).permits (.submitTransaction signed) past op :=
      fun _ _ _ _ impossible => by cases impossible
    have submits : Yields (refundRules sdk) (.submitTransaction signed) []
        (submitTransaction sdk signed) fun _ _ => True := by
      unfold submitTransaction
      split
      next => exact yields_throw
      next transaction _ =>
        exact yields_bind (yields_toStellarError (permitted _ _)) fun _ _ _ _ => yields_pure trivial
    exact yields_bind submits fun _ _ _ _ => yields_pure trivial

end Methods

/-! ## The ledger grows -/

def Grown (before after : StellarWorld) : Prop :=
  before.ledger.entries <+: after.ledger.entries

variable {world after : StellarWorld}

theorem include_grown {hash : String} {transaction : Transaction}
    (included : world.include hash transaction = some after) : Grown world after := by
  unfold StellarWorld.include at included
  split at included
  next =>
    obtain ⟨ledger, isLedger, rfl⟩ := Option.map_eq_some_iff.mp included
    unfold Ledger.include at isLedger
    split at isLedger
    next =>
      cases isLedger
      exact List.prefix_append _ _
    next => cases isLedger
  next => cases included

variable {outcome : StellarOutcome}

theorem respond_grown {sdk : StellarSdk} {op : StellarOp} {result : Except Exception op.Reply}
    (responds : world.respond sdk op outcome = some (after, result)) : Grown world after := by
  unfold StellarWorld.respond at responds
  split at responds
  next =>
    obtain ⟨_, _, same⟩ := Option.map_eq_some_iff.mp responds
    cases same
    exact List.prefix_rfl
  next =>
    cases responds
    exact List.prefix_rfl
  next =>
    obtain ⟨_, included, same⟩ := Option.map_eq_some_iff.mp responds
    cases same
    exact include_grown included
  next =>
    obtain ⟨_, included, same⟩ := Option.map_eq_some_iff.mp responds
    cases same
    exact include_grown included
  next =>
    cases responds
    exact List.prefix_rfl
  next => cases responds

theorem environment_grown (state : StellarWorld × StellarMemory) (change : StellarChange) :
    Grown state.1 (stellarEnvironment state change).1 := by
  cases change with
  | time seconds => exact List.prefix_rfl
  | bump account => exact List.prefix_rfl
  | transaction hash transaction =>
    simp only [stellarEnvironment]
    cases included : state.1.include hash transaction with
    | none => exact List.prefix_rfl
    | some after => exact include_grown included

variable {before after : StellarWorld}

theorem Grown.find {hash : String} {entry : Included} (grown : Grown before after)
    (found : before.ledger.find hash = some entry) : after.ledger.find hash = some entry := by
  obtain ⟨more, grows⟩ := grown
  unfold Ledger.find at found ⊢
  rw [← grows, List.find?_append, found]
  rfl

theorem Grown.original {sdk : StellarSdk} {paymentId : String} {original : OperationRecord}
    (grown : Grown before after) (isOriginal : originalOf sdk before.ledger paymentId = some original) :
    originalOf sdk after.ledger paymentId = some original := by
  unfold originalOf at isOriginal ⊢
  obtain ⟨entry, found, first⟩ := Option.bind_eq_some_iff.mp isOriginal
  rw [grown.find found]
  exact first

/-- What a call has seen and submitted. -/
structure Proper (sdk : StellarSdk) (world : StellarWorld) (journal : Journal stellarPayments) :
    Prop where
  seen : ∀ hash records, (⟨.paymentsForTransaction hash, .ok records⟩ : Event stellarPayments) ∈
    journal.past → ∃ entry, world.ledger.find hash = some entry ∧
      records = entry.transaction.operations.map (recordOf sdk entry.transaction.source)
  submitted : ∀ request, journal.call = .refund request → submissions journal.past = [] ∨
    ∃ transaction original, submissions journal.past = [transaction] ∧
      originalOf sdk world.ledger request.paymentId = some original ∧
      Reverses sdk request original transaction

section Runs
variable {sdk : StellarSdk} {config : StellarConfig}

theorem Proper.grown {journal : Journal stellarPayments} (proper : Proper sdk before journal)
    (grown : Grown before after) : Proper sdk after journal := by
  refine ⟨fun hash records member => ?_, fun request same => ?_⟩
  · obtain ⟨entry, found, shown⟩ := proper.seen hash records member
    exact ⟨entry, grown.find found, shown⟩
  · rcases proper.submitted request same with none | ⟨transaction, original, one, isOriginal, reverses⟩
    · exact Or.inl none
    · exact Or.inr ⟨transaction, original, one, grown.original isOriginal, reverses⟩

theorem respond_shows {hash : String} {records : List OperationRecord}
    (responds : world.respond sdk (.paymentsForTransaction hash) outcome = some (after, .ok records)) :
    ∃ entry, world.ledger.find hash = some entry ∧
      records = entry.transaction.operations.map (recordOf sdk entry.transaction.source) := by
  cases outcome with
  | answered =>
    obtain ⟨entry, found, same⟩ := Option.map_eq_some_iff.mp responds
    cases same
    exact ⟨entry, found, rfl⟩
  | _ => cases responds

theorem originalOf_found {world : StellarWorld} {request : RefundRequest}
    {past : List (Event stellarPayments)} {original : OperationRecord}
    (proper : Proper sdk world ⟨.refund request, past⟩) (found : Found request past original) :
    originalOf sdk world.ledger request.paymentId = some original := by
  obtain ⟨records, listed, isOriginal⟩ := found
  obtain ⟨entry, isEntry, shown⟩ := proper.seen _ records listed
  unfold originalOf
  rw [isEntry, Option.bind_some, ← shown]
  exact isOriginal

theorem Proper.answered {journal : Journal stellarPayments} {op : StellarOp}
    {result : Except Exception op.Reply} (proper : Proper sdk world journal)
    (permitted : (refundRules sdk).permits journal.call journal.past op)
    (responds : world.respond sdk op outcome = some (after, result)) :
    Proper sdk after ⟨journal.call, journal.past ++ [⟨op, result⟩]⟩ := by
  have grown := respond_grown responds
  have kept := proper.grown grown
  refine ⟨fun hash records member => ?_, fun request same => ?_⟩
  · rcases List.mem_append.mp member with old | new
    · exact kept.seen hash records old
    · cases List.mem_singleton.mp new
      obtain ⟨entry, found, shown⟩ := respond_shows responds
      exact ⟨entry, grown.find found, shown⟩
  · cases submitted : submissionOf ⟨op, result⟩ with
    | none =>
      rw [submissions_append, submitted, Option.toList_none, List.append_nil]
      exact kept.submitted request same
    | some transaction =>
      obtain ⟨none, original, found, reverses⟩ :=
        permitted request transaction same (submissionOf_some submitted)
      obtain ⟨call, past⟩ := journal
      obtain rfl : call = .refund request := same
      refine Or.inr ⟨transaction, original, ?_, ?_, reverses⟩
      · rw [submissions_append, submitted, none]
        rfl
      · exact grown.original (originalOf_found proper found)

/-- Every call of a state has seen and submitted what it may. -/
def AllProper (v : View (refundRules sdk).protocol (stellarProcess sdk config)) : Prop :=
  ∀ journal ∈ v.phases, Proper sdk v.world journal

theorem AllProper.moves {v v' : View (refundRules sdk).protocol (stellarProcess sdk config)}
    (proper : AllProper v) (moved : Moves (refundRules sdk).protocol (anyAnswer _ _) v v') : AllProper v' := by
  intro journal member
  cases moved with
  | calls new started =>
    rcases List.mem_append.mp member with old | fresh
    · exact proper journal old
    · obtain ⟨call, _, rfl⟩ := List.mem_map.mp fresh
      exact ⟨fun _ _ seen => absurd seen List.not_mem_nil, fun _ _ => Or.inl rfl⟩
  | env mem change => exact (proper journal member).grown (environment_grown (v.world, mem) change)
  | reply i moving op outcome world result found allowed responds condition =>
    rcases List.mem_or_eq_of_mem_set member with old | rfl
    · exact (proper journal old).grown (respond_grown responds)
    · exact (proper moving (List.mem_of_getElem? found)).answered allowed responds

theorem proper_run {world : StellarWorld} {mem : StellarMemory}
    {labels : List (Label (stellarProcess sdk config))} {after : Config (stellarProcess sdk config)}
    (ran : run labels (Config.initial (stellarProcess sdk config) world mem) = some after) :
    ∀ task ∈ after.pool, Proper sdk after.world ⟨task.call, task.past⟩ := by
  have start : AllProper (view (refundRules sdk).protocol
      (Config.initial (stellarProcess sdk config) world mem)) := fun _ member => by cases member
  have proper : AllProper (view (refundRules sdk).protocol after) :=
    (invariant_of_moves (refunds_conform sdk config) (fun _ _ proper moved => proper.moves moved)
      (allKeep_initial world mem) start (admissible_anyAnswer labels _) ran).1
  intro task member
  have listed : (⟨task.call, task.past⟩ : Journal stellarPayments) ∈
      (view (refundRules sdk).protocol after).phases := by
    have phase : phaseOf (refundRules sdk).protocol task = ⟨task.call, task.past⟩ :=
      phaseOf_journal task
    rw [← phase]
    exact List.mem_map_of_mem member
  exact proper _ listed

end Runs

/-! ## Totals -/

/-- What members give, filtered and added up, is at most what their kinds give. -/
theorem sum_flatMap_le {A B C : Type} {kind : A → Option B} {items : A → List C} {f : C → Nat}
    {g : B → Nat} : ∀ (all : List A), (∀ a ∈ all, ∀ b ∈ kind a, ((items a).map f).sum ≤ g b) →
      (((all.filter fun a => (kind a).isSome).flatMap items).map f).sum ≤
        ((all.filterMap kind).map g).sum
  | [], _ => Nat.le_refl _
  | a :: rest, each => by
    have later := sum_flatMap_le rest fun other member => each other (List.mem_cons_of_mem _ member)
    cases isKind : kind a with
    | none => simpa [List.filter_cons, isKind] using later
    | some b =>
      have here := each a List.mem_cons_self b isKind
      simp only [List.filter_cons, isKind, Option.isSome_some, if_true, List.flatMap_cons,
        List.map_append, List.sum_append, List.filterMap_cons, List.map_cons, List.sum_cons]
      omega

section Bounds
variable {sdk : StellarSdk} {config : StellarConfig} {c : Config (stellarProcess sdk config)}
  {wanted : RefundRequest → Bool}

/-- The refunds on the ledger are among the transactions submitted for the requests. -/
theorem refunds_submitted : ((refunds c wanted).map Included.transaction).Subperm
    ((c.pool.filter fun task => (requestOf wanted task.call).isSome).flatMap fun task => submissions task.past) := by
  have once : (c.world.ledger.entries.map Included.transaction).Nodup := by
    have places : ((c.world.ledger.entries.map Included.transaction).map
        fun transaction => (transaction.source, transaction.sequence)).Nodup := by
      rw [List.map_map]
      exact c.world.ledger.once
    exact List.Nodup.of_map _ places
  refine List.subperm_of_subset (once.sublist (List.filter_sublist.map _)) ?_
  intro transaction member
  obtain ⟨entry, listed, rfl⟩ := List.mem_map.mp member
  obtain ⟨_, isRefund⟩ := List.mem_filter.mp listed
  obtain ⟨task, pooled, requested⟩ := List.any_eq_true.mp isRefund
  obtain ⟨isSome, submitted⟩ := Bool.and_eq_true_iff.mp requested
  exact List.mem_flatMap.mpr ⟨task, List.mem_filter.mpr ⟨pooled, isSome⟩,
    List.contains_iff_mem.mp submitted⟩

theorem subperm_sum_le {few many : List Transaction} (within : few.Subperm many)
    (f : Transaction → Nat) : (few.map f).sum ≤ (many.map f).sum := by
  obtain ⟨middle, perm, sublist⟩ := within
  rw [← (perm.map f).sum_eq]
  exact (sublist.map f).sum_le_sum fun _ _ => Nat.zero_le _

theorem requestOf_some {call : StellarCall} {request : RefundRequest}
    (requested : requestOf wanted call = some request) : call = .refund request := by
  unfold requestOf at requested
  split at requested
  next other =>
    split at requested
    next =>
      cases requested
      rfl
    next => cases requested
  next => cases requested

theorem refunds_le {f : Transaction → Nat} {g : RefundRequest → Nat}
    (each : ∀ task ∈ c.pool, ∀ request, task.call = .refund request →
      ((submissions task.past).map f).sum ≤ g request) :
    ((refunds c wanted).map fun entry => f entry.transaction).sum ≤ ((requests c wanted).map g).sum := by
  have within : (((refunds c wanted).map Included.transaction).map f).sum ≤ _ :=
    subperm_sum_le refunds_submitted f
  rw [List.map_map] at within
  refine le_trans within (sum_flatMap_le c.pool fun task member request requested => ?_)
  exact each task member request (requestOf_some requested)

end Bounds

/-- The total refunded on the ledger for a payment is at most what the refund requests for it ask
for, and there are at most as many refunds under a key as requests with it. -/
theorem refunds_within_requests (sdk : StellarSdk) (config : StellarConfig) (world : StellarWorld)
    (mem : StellarMemory) (labels : List (Label (stellarProcess sdk config)))
    (after : Config (stellarProcess sdk config))
    (ran : run labels (Config.initial (stellarProcess sdk config) world mem) = some after) :
    (∀ paymentId, refundedUnits after paymentId ≤
      ((requests after fun request => decide (request.paymentId = paymentId)).map
        (askedUnits sdk after.world.ledger)).sum) ∧
    ∀ key, (refunds after fun request => decide (request.idempotencyKey = key)).length ≤
      (requests after fun request => decide (request.idempotencyKey = key)).length := by
  have proper := proper_run ran
  refine ⟨fun paymentId => ?_, fun key => ?_⟩
  · refine refunds_le fun task member request same => ?_
    rcases (proper task member).submitted request same with
      none | ⟨transaction, original, one, isOriginal, payer, asset, amount, _, isAmount, pays⟩
    · simp [none]
    · simp [one, sentUnits, pays, operationUnits, askedUnits, isOriginal, isAmount]
  · have counted : ((refunds after fun request => decide (request.idempotencyKey = key)).map
        fun _ => 1).sum ≤ ((requests after fun request =>
          decide (request.idempotencyKey = key)).map fun _ => 1).sum := by
      refine refunds_le (f := fun _ => 1) fun task member request same => ?_
      rcases (proper task member).submitted request same with none | ⟨transaction, _, one, _⟩
      · simp [none]
      · simp [one]
    simpa using counted

/-! ## Runs with one payment -/

/-- The payment of 10 that the sample signs. -/
def sampleTransaction : Transaction := ⟨"payer", 1, [.payment "shop" .native 100000000], none, 180⟩

/-- An SDK as far as the runs use it: the only amount and the only XDR are those of the payment. -/
def sampleSdk : StellarSdk where
  publicKey _ := some "shop"
  units text := if text = "10.0000000" then some 100000000 else none
  decimal _ := "10.0000000"
  memoText text := some text
  numberLt _ _ := false
  fromXdr _ := some sampleTransaction

def sampleStellar : StellarConfig := ⟨"Test SDF Network ; September 2015", some "secret"⟩

def emptyLedger : Ledger := ⟨[], fun _ => 0, nofun, List.nodup_nil⟩

def stellarStart : Config (stellarProcess sampleSdk sampleStellar) :=
  Config.initial _ ⟨0, emptyLedger⟩ ⟨0⟩

/-- The payment takes effect. -/
def paymentRun : List (Label (stellarProcess sampleSdk sampleStellar)) :=
  [.call (.submitTransaction ⟨"id", "xdr"⟩), .reply 0 (.included "payment")]

/-- The whole payment is refunded, as the call with a number, under one key. -/
def refundRun (i : Nat) (hash : String) : List (Label (stellarProcess sampleSdk sampleStellar)) :=
  [.call (.refund ⟨"payment", none, none, "key"⟩), .reply i .answered, .reply i .answered,
    .resume i, .reply i (.included hash)]

/-- Two refunds with one key each send back the whole payment. -/
theorem refunded_twice : ∃ after,
    run (paymentRun ++ refundRun 1 "first" ++ refundRun 2 "second") stellarStart = some after ∧
      ¬ WithinPayments after ∧ ¬ OncePerKey after := by
  obtain ⟨after, ran, ⟨original, isOriginal, isPaid⟩, total, many⟩ : ∃ after,
      run (paymentRun ++ refundRun 1 "first" ++ refundRun 2 "second") stellarStart = some after ∧
      (∃ original ∈ originalOf sampleSdk after.world.ledger "payment",
        sampleSdk.units (amountText original) = some 100000000) ∧
      refundedUnits after "payment" = 200000000 ∧
      (refunds after fun request => decide (request.idempotencyKey = "key")).length = 2 := by
    decide +kernel
  refine ⟨after, ran, fun within => ?_, fun once => ?_⟩
  · have bounded := within "payment" original isOriginal 100000000 isPaid
    rw [total] at bounded
    exact absurd bounded (by decide)
  · have one := once "key"
    rw [many] at one
    exact absurd one (by decide)

theorem refunds_within_requests_once : ∃ after,
    run (paymentRun ++ refundRun 1 "first" ++ refundRun 2 "second") stellarStart = some after ∧
      refundedUnits after "payment" = 200000000 ∧
      (∀ paymentId, refundedUnits after paymentId ≤
        ((requests after fun request => decide (request.paymentId = paymentId)).map
          (askedUnits sampleSdk after.world.ledger)).sum) ∧
      ∀ key, (refunds after fun request => decide (request.idempotencyKey = key)).length ≤
        (requests after fun request => decide (request.idempotencyKey = key)).length := by
  obtain ⟨after, ran, refunded⟩ : ∃ after,
      run (paymentRun ++ refundRun 1 "first" ++ refundRun 2 "second") stellarStart = some after ∧
      refundedUnits after "payment" = 200000000 := by
    decide +kernel
  exact ⟨after, ran, refunded, refunds_within_requests sampleSdk sampleStellar _ _ _ after ran⟩

end AlianStructure.Guarantees.RefundTotals
