import AlianStructure.Library.RelyGuarantee
import AlianStructure.Source.Reconciliation.ReconciliationService

/-!
# Payments and the ledger of transactions

Source: src/reconciliation/reconciliation.service.ts:80-126,206-277 and
entities/stellar-transaction.entity.ts:12-17. A transaction is known by the hash that it shares
with every payment operation in it.
-/
namespace AlianStructure.Guarantees.PaymentsCredited
open Library.AsyncMethod Library.Interleaving Library.RelyGuarantee
open Library.KeyedTable
open Source Source.Reconciliation ReconciliationService

/-- What a row adds to the ledger. -/
def credit (row : StellarTransaction) : String × Amount := (row.transactionId, row.amount)

def credits (books : Books) : List (String × Amount) := books.transactions.rows.map credit

/-- A credit is that of a payment operation. -/
def CreditOf (record : HorizonRecord) (made : String × Amount) : Prop :=
  paymentHash record = some made.1 ∧ normalizeAmount (ingestedAs record made.1).amount = .ok made.2

/-- A request reports a payment operation. -/
def Reports (dto : IngestTransactionDto) (record : HorizonRecord) : Prop :=
  paymentHash record = some dto.transactionId ∧
    (ingestedAs record dto.transactionId).amount = dto.amount

/-- The records up to the cursor. -/
def passed (world : ReconciliationWorld) (mem : ReconciliationMemory) : List HorizonRecord :=
  world.payments.rows.take (afterCursor world.payments.rows mem.horizonCursor)

/-- The stored transactions are the payment operations of a list without repetitions, which has
those before the cursor and those of the requests that were answered. -/
def CreditedOnce {config : ReconciliationConfig} (c : Config (reconciliationProcess config)) : Prop :=
  ∃ credited : List HorizonRecord, credited.Nodup ∧
    List.Forall₂ CreditOf credited (credits c.world.books) ∧
    (∀ record ∈ credited, record ∈ c.world.payments.rows) ∧
    (∀ record ∈ passed c.world c.mem, (paymentHash record).isSome → record ∈ credited) ∧
    ∀ task ∈ c.pool, ∀ dto value, task.call = .ingestTransaction dto →
      task.result = some (.ok value) →
      ∀ record ∈ c.world.payments.rows, Reports dto record → record ∈ credited

/-! ## The condition -/

/-- No two payment operations are of one transaction. -/
def OneEach (records : List HorizonRecord) : Prop :=
  ∀ record ∈ records, ∀ hash ∈ paymentHash record, ∀ other ∈ records,
    paymentHash other = some hash → other = record

/-- A new payment operation is of a new transaction. -/
def OfNewTransaction (state : ReconciliationWorld × ReconciliationMemory) :
    ReconciliationChange → Prop
  | .payment record => ∀ hash ∈ paymentHash record, ∀ other ∈ state.1.payments.rows,
    paymentHash other = some hash → other.id = record.id
  | _ => True

/-- A transaction handed in is a payment on the ledger. -/
def ReportsPayment (state : ReconciliationWorld × ReconciliationMemory) :
    ReconciliationCall → Prop
  | .ingestTransaction dto => ∃ record ∈ state.1.payments.rows, Reports dto record
  | _ => True

/-! ## What the calls rely on -/

def Stored (books : Books) (hash : String) : Prop := hash ∈ (credits books).map Prod.fst

def AllStored (books : Books) (records : List HorizonRecord) : Prop :=
  ∀ record ∈ records, ∀ hash ∈ paymentHash record, Stored books hash

structure Bookkeeping (state : ReconciliationWorld × ReconciliationMemory) : Prop where
  alone : OneEach state.1.payments.rows
  origin : ∀ made ∈ credits state.1.books, ∃ record ∈ state.1.payments.rows, CreditOf record made
  passed : AllStored state.1.books (passed state.1 state.2)
  cursor : ∀ token ∈ state.2.horizonCursor,
    ∃ record ∈ state.1.payments.rows, asString record.paging_token = some token

structure Onward (state later : ReconciliationWorld × ReconciliationMemory) : Prop where
  payments : state.1.payments.rows <+: later.1.payments.rows
  credits : ∀ made ∈ credits state.1.books, made ∈ credits later.1.books

theorem Stored.later {state later : ReconciliationWorld × ReconciliationMemory} {hash : String}
    (onward : Onward state later) (stored : Stored state.1.books hash) : Stored later.1.books hash := by
  obtain ⟨made, member, rfl⟩ := List.mem_map.mp stored
  exact List.mem_map_of_mem (onward.credits made member)

theorem AllStored.later {state later : ReconciliationWorld × ReconciliationMemory}
    {records : List HorizonRecord} (onward : Onward state later)
    (stored : AllStored state.1.books records) : AllStored later.1.books records :=
  fun record member hash named => (stored record member hash named).later onward

theorem afterCursor_append {payments more : List HorizonRecord} {cursor : Option String}
    (known : ∀ token ∈ cursor, ∃ record ∈ payments, asString record.paging_token = some token) :
    afterCursor (payments ++ more) cursor = afterCursor payments cursor := by
  cases cursor with
  | none => rfl
  | some token =>
    obtain ⟨record, member, tokenIs⟩ := known token rfl
    have found : (payments.findIdx? fun record =>
        decide (asString record.paging_token = some token)).isSome := by
      rw [List.findIdx?_isSome]
      exact List.any_eq_true.mpr ⟨record, member, by simpa using tokenIs⟩
    obtain ⟨i, isAt⟩ := Option.isSome_iff_exists.mp found
    simp only [afterCursor, List.findIdx?_append, isAt, Option.some_or]

theorem afterCursor_le (payments : List HorizonRecord) (cursor : Option String) :
    afterCursor payments cursor ≤ payments.length := by
  cases cursor with
  | none => exact Nat.zero_le _
  | some token =>
    simp only [afterCursor]
    split
    next => exact Nat.zero_le _
    next i isAt =>
      obtain ⟨inside, _⟩ := List.findIdx?_eq_some_iff_getElem.mp isAt
      exact inside

variable {record : HorizonRecord}

/-- Records with a token lie at or after the position of the cursor that it sets. -/
theorem afterCursor_some_le (front rest : List HorizonRecord) {token : String}
    (tokenIs : asString record.paging_token = some token) :
    afterCursor (front ++ record :: rest) (some token) ≤ front.length + 1 := by
  simp only [afterCursor, List.findIdx?_append]
  cases isAt : front.findIdx? fun record => decide (asString record.paging_token = some token) with
  | none => simp [List.findIdx?_cons, tokenIs]
  | some i =>
    obtain ⟨inside, _⟩ := List.findIdx?_eq_some_iff_getElem.mp isAt
    simp only [Option.some_or]
    omega

theorem bookkeeping_environment {state : ReconciliationWorld × ReconciliationMemory}
    (kept : Bookkeeping state) (change : ReconciliationChange) (allowed : OfNewTransaction state change) :
    Bookkeeping (reconciliationEnvironment state change) ∧ Onward state (reconciliationEnvironment state change) := by
  cases change with
  | time ms => exact ⟨⟨kept.alone, kept.origin, kept.passed, kept.cursor⟩, ⟨List.prefix_rfl, fun _ => id⟩⟩
  | restart =>
    refine ⟨⟨kept.alone, kept.origin, ?_, nofun⟩, ⟨List.prefix_rfl, fun _ => id⟩⟩
    intro record member
    cases member
  | payment record =>
    simp only [reconciliationEnvironment]
    split
    next => exact ⟨kept, ⟨List.prefix_rfl, fun _ => id⟩⟩
    next unknown =>
      have absent : state.1.payments.findOne record.id = none := by simpa using unknown
      have grown := Table.save_new absent
      have fresh : ∀ other ∈ state.1.payments.rows, other.id ≠ record.id := fun other member same =>
        Table.findOne_eq_none.mp absent (same ▸ List.mem_map_of_mem member)
      refine ⟨⟨?_, ?_, ?_, ?_⟩, ⟨?_, fun _ => id⟩⟩
      · intro one listed hash named other member same
        simp only [grown, List.mem_append, List.mem_singleton] at listed member
        rcases listed with old | rfl <;> rcases member with known | rfl
        · exact kept.alone one old hash named other known same
        · exact absurd (allowed hash same one old named) (fresh one old)
        · exact absurd (allowed hash named other known same) (fresh other known)
        · rfl
      · intro made member
        obtain ⟨source, listed, isCredit⟩ := kept.origin made member
        refine ⟨source, ?_, isCredit⟩
        rw [grown]
        exact List.mem_append_left _ listed
      · have same : passed { state.1 with payments := state.1.payments.save record } state.2 =
            passed state.1 state.2 := by
          simp only [passed, grown]
          rw [afterCursor_append kept.cursor, List.take_append_of_le_length (afterCursor_le _ _)]
        rw [same]
        exact kept.passed
      · intro token isToken
        obtain ⟨source, listed, tokenIs⟩ := kept.cursor token isToken
        refine ⟨source, ?_, tokenIs⟩
        rw [grown]
        exact List.mem_append_left _ listed
      · rw [grown]
        exact List.prefix_append _ _

/-- The invariant of the ledger, and that neither payments nor credits go away. -/
def ledgerRely (config : ReconciliationConfig) : Rely (reconciliationProcess config) where
  holds := Bookkeeping
  moves := Onward
  allowed := OfNewTransaction
  starts _ := False
  refl _ := ⟨List.prefix_rfl, fun _ => id⟩
  trans first second := ⟨first.payments.trans second.payments,
    fun made member => second.credits made (first.credits made member)⟩
  environment _ change kept allowed := bookkeeping_environment kept change allowed

/-! ## Operations -/

/-- The operations that leave the stored transactions alone. -/
def spares : ReconciliationOp → Bool
  | .insertTransaction _ | .saveTransaction _ => false
  | _ => true

theorem respond_spares {world after : ReconciliationWorld} {op : ReconciliationOp}
    {outcome : ReconciliationOutcome} {result : Except Exception op.Reply} (spared : spares op = true)
    (responds : world.respond op outcome = some (after, result)) :
    credits after.books = credits world.books ∧ after.payments = world.payments := by
  unfold ReconciliationWorld.respond at responds
  split at responds
  case h_2 =>
    split at responds
    next =>
      cases responds
      exact ⟨rfl, rfl⟩
    next =>
      cases responds
      exact ⟨rfl, rfl⟩
  case h_10 =>
    split at responds
    next => cases responds
    next =>
      cases responds
      exact ⟨rfl, rfl⟩
  case h_13 => cases responds
  all_goals first
    | (cases responds; exact ⟨rfl, rfl⟩)
    | cases spared

section Methods
variable {config : ReconciliationConfig} {α : Type}
  {state : ReconciliationWorld × ReconciliationMemory}

abbrev Tends (config : ReconciliationConfig) (state : ReconciliationWorld × ReconciliationMemory)
    (program : ReconciliationM α)
    (post : ReconciliationWorld × ReconciliationMemory → α → Prop) : Prop :=
  Gives (ledgerRely config) state program post

theorem later_spared {world : ReconciliationWorld} (kept : Bookkeeping state)
    (credits_eq : credits world.books = credits state.1.books) (payments_eq : world.payments = state.1.payments) :
    (ledgerRely config).Later state (world, state.2) := by
  refine ⟨⟨?_, ?_, ?_, ?_⟩, ⟨?_, ?_⟩⟩
  · rw [payments_eq]
    exact kept.alone
  · rw [credits_eq, payments_eq]
    exact kept.origin
  · intro record member hash named
    simp only [passed, payments_eq] at member
    unfold Stored
    rw [credits_eq]
    exact kept.passed record member hash named
  · rw [payments_eq]
    exact kept.cursor
  · simp only [payments_eq, List.prefix_rfl]
  · intro made member
    rw [credits_eq]
    exact member

theorem tends_spared {op : ReconciliationOp} {post : _ → op.Reply → Prop} (spared : spares op = true)
    (answers : ∀ later, (ledgerRely config).Later state later → ∀ outcome world reply,
      later.1.respond op outcome = some (world, .ok reply) →
      ∀ final, (ledgerRely config).Later later final → post final reply) : Tends config state (ask op) post := by
  refine gives_perform fun later since outcome world result responds => ?_
  obtain ⟨credits_eq, payments_eq⟩ := respond_spares spared responds
  have moved : (ledgerRely config).Later _ _ := later_spared since.1 credits_eq payments_eq
  refine ⟨moved, fun reply isOk final more => ?_⟩
  subst isOk
  exact answers later since outcome world reply responds final (moved.trans more)

theorem tends_ignored {op : ReconciliationOp} (spared : spares op = true) :
    Tends config state (ask op) fun _ _ => True :=
  tends_spared spared fun _ _ _ _ _ _ _ _ => trivial

theorem tends_findTransaction {transactionId : String} :
    Tends config state (ask (.findTransaction transactionId)) fun later found =>
      ∀ row ∈ found, row.transactionId = transactionId ∧ credit row ∈ credits later.1.books := by
  refine tends_spared rfl fun later _ outcome world reply responds final more row isRow => ?_
  cases outcome with
  | done =>
    cases responds
    refine ⟨Table.findOne_key isRow, more.2.credits _ ?_⟩
    exact List.mem_map_of_mem (Table.findOne_mem isRow)
  | _ => cases responds

theorem tends_findTransactions {query : TransactionsQuery} :
    Tends config state (ask (.findTransactions query)) fun later found =>
      ∀ row ∈ found, credit row ∈ credits later.1.books := by
  refine tends_spared rfl fun later _ outcome world reply responds final more row isRow => ?_
  cases outcome with
  | done =>
    cases responds
    refine more.2.credits _ (List.mem_map_of_mem ?_)
    cases query with
    | «at» destinationAccount assetCode statuses =>
      exact List.mem_of_mem_filter ((List.mem_insertionSort _).mp isRow)
    | latestUnmatched take =>
      exact List.mem_of_mem_filter ((List.mem_insertionSort _).mp (List.mem_of_mem_take isRow))
  | _ => cases responds

variable {row : StellarTransaction}

theorem credits_saved {books : Books} (known : credit row ∈ credits books) :
    credits (books.saveTransaction row) = credits books := by
  obtain ⟨old, member, same⟩ := List.mem_map.mp known
  have named : old.transactionId = row.transactionId := congrArg Prod.fst same
  have found : books.transactions.findOne row.transactionId = some old :=
    named ▸ Table.findOne_of_mem member
  exact Table.map_save found same.symm

theorem tends_saveTransaction (known : credit row ∈ credits state.1.books) :
    Tends config state (ask (.saveTransaction row)) fun later _ => credit row ∈ credits later.1.books := by
  refine gives_perform fun later since outcome world result responds => ?_
  have there := since.2.credits _ known
  have moved : (ledgerRely config).Later later (world, later.2) := by
    cases outcome with
    | done =>
      cases responds
      exact later_spared since.1 (credits_saved there) rfl
    | fails failure =>
      cases responds
      exact later_spared since.1 rfl rfl
    | _ => cases responds
  exact ⟨moved, fun _ _ final more => more.2.credits _ (moved.2.credits _ there)⟩

theorem credits_inserted {books : Books} (absent : books.transactions.findOne row.transactionId = none) :
    credits (books.saveTransaction row) = credits books ++ [credit row] := by
  simp only [credits, Books.saveTransaction]
  rw [Table.save_new absent, List.map_append, List.map_singleton]

theorem tends_insertTransaction (origin : ∃ record ∈ state.1.payments.rows, CreditOf record (credit row)) :
    Tends config state (ask (.insertTransaction row)) fun later saved =>
      credit saved = credit row ∧ credit saved ∈ credits later.1.books := by
  refine gives_perform fun later since outcome world result responds => ?_
  cases outcome with
  | done =>
    simp only [ReconciliationWorld.respond] at responds
    split at responds
    next =>
      cases responds
      exact ⟨later_spared since.1 rfl rfl, fun _ isOk => by cases isOk⟩
    next unknown =>
      cases responds
      have absent : later.1.books.transactions.findOne row.transactionId = none := by
        simpa using unknown
      have grown : credits (later.1.books.saveTransaction { row with createdAt := later.1.now }) =
          credits later.1.books ++ [credit row] := credits_inserted absent
      have kept : Bookkeeping later := since.1
      have moved : Onward later ({ later.1 with
          books := later.1.books.saveTransaction { row with createdAt := later.1.now } }, later.2) := by
        refine ⟨List.prefix_rfl, fun made member => ?_⟩
        simp only [grown]
        exact List.mem_append_left _ member
      refine ⟨⟨⟨kept.alone, ?_, kept.passed.later moved, kept.cursor⟩, moved⟩, ?_⟩
      · intro made member
        simp only [grown, List.mem_append, List.mem_singleton] at member
        rcases member with old | rfl
        · exact kept.origin made old
        · obtain ⟨record, listed, isCredit⟩ := origin
          exact ⟨record, since.2.payments.subset listed, isCredit⟩
      · intro saved isOk final more
        cases isOk
        refine ⟨rfl, more.2.credits _ ?_⟩
        simp only [grown]
        exact List.mem_append_right _ (List.mem_singleton.mpr rfl)
  | fails failure =>
    cases responds
    exact ⟨later_spared since.1 rfl rfl, fun _ isOk => by cases isOk⟩
  | _ => cases responds

/-! ## Methods -/

theorem tends_throwing {result : Except Exception α} :
    Tends config state (throwing result) fun _ value => result = .ok value := by
  cases result with
  | error failure => exact gives_throw
  | ok value => exact gives_pure rfl

theorem tends_clock : Tends config state clock fun _ _ => True :=
  fun holds => ⟨⟨holds, (ledgerRely config).refl state⟩, fun _ _ => trivial⟩

theorem tends_then {β : Type} {program : ReconciliationM β} {next : β → ReconciliationM α}
    {post : _ → α → Prop} (first : Tends config state program fun _ _ => True)
    (rest : ∀ later value, (ledgerRely config).Later state later →
      Tends config later (next value) post) : Tends config state (program >>= next) post :=
  gives_bind first fun later value since _ => rest later value since

variable {transaction : StellarTransaction}

theorem leaveUnmatched_tends {invoiceId reason : Option String} :
    Tends config state (leaveUnmatched transaction invoiceId reason) fun _ changed =>
      credit changed = credit transaction :=
  tends_then (tends_ignored rfl) fun _ _ _ => gives_pure rfl

theorem applyTo_tends {invoice : ReconciliationInvoice} {reason : Option String} :
    Tends config state (applyTo transaction invoice reason) fun _ changed => credit changed = credit transaction := by
  refine gives_bind tends_throwing fun _ paid _ _ => ?_
  refine gives_bind tends_throwing fun _ amount _ _ => ?_
  refine gives_bind tends_throwing fun _ expectedUnits _ _ => ?_
  refine tends_then (tends_ignored rfl) fun _ _ _ => ?_
  exact tends_then (tends_ignored rfl) fun _ _ _ => gives_pure rfl

theorem reconcileTransaction_tends {reason : Option String} :
    Tends config state (reconcileTransaction transaction reason) fun _ changed =>
      credit changed = credit transaction := by
  refine tends_then (tends_ignored rfl) fun later found _ => ?_
  cases found with
  | none => exact leaveUnmatched_tends
  | some invoice =>
    simp only
    split
    next => exact applyTo_tends
    next => exact leaveUnmatched_tends

theorem reconcileEach_tends {invoice : ReconciliationInvoice} {reason : String} :
    ∀ {candidates : List StellarTransaction} {state : ReconciliationWorld × ReconciliationMemory},
      (∀ row ∈ candidates, credit row ∈ credits state.1.books) →
      Tends config state (reconcileEach invoice reason candidates) fun _ _ => True
  | [], _, _ => gives_pure trivial
  | transaction :: rest, state, known => by
    unfold reconcileEach
    have restKnown : ∀ later, (ledgerRely config).Later state later →
        ∀ row ∈ rest, credit row ∈ credits later.1.books := fun later since row member =>
      since.2.credits _ (known row (List.mem_cons_of_mem _ member))
    split
    next =>
      refine gives_bind reconcileTransaction_tends fun later changed since same => ?_
      have here : credit changed ∈ credits later.1.books := by
        rw [same]
        exact since.2.credits _ (known transaction List.mem_cons_self)
      refine gives_bind (tends_saveTransaction here) fun final _ more _ => ?_
      exact reconcileEach_tends (restKnown final (since.trans more))
    next => exact reconcileEach_tends fun row member => known row (List.mem_cons_of_mem _ member)

theorem createInvoice_tends {dto : CreateInvoiceDto} : Tends config state (createInvoice dto) fun _ _ => True := by
  refine tends_then (tends_ignored rfl) fun later existing _ => ?_
  cases existing with
  | some invoice => exact gives_pure trivial
  | none =>
    refine gives_bind tends_throwing fun _ expectedAmount _ _ => ?_
    refine tends_then (tends_ignored rfl) fun _ saved _ => ?_
    refine gives_bind tends_findTransactions fun _ candidates _ known => ?_
    exact tends_then (reconcileEach_tends known) fun _ _ _ => gives_pure trivial

theorem recordFailure_tends {saved : StellarTransaction} {failure : Exception} :
    Tends config state (recordFailure saved failure) fun _ changed => credit changed = credit saved :=
  tends_then (tends_ignored rfl) fun _ _ _ => gives_pure rfl

theorem ingestTransaction_tends {dto : IngestTransactionDto}
    (reported : ∃ record ∈ state.1.payments.rows, Reports dto record) :
    Tends config state (ingestTransaction dto) fun later _ => Stored later.1.books dto.transactionId := by
  refine gives_bind tends_findTransaction fun later existing since found => ?_
  cases existing with
  | some transaction =>
    obtain ⟨named, known⟩ := found transaction rfl
    refine tends_then (tends_ignored rfl) fun final _ more => gives_pure ?_
    rw [← named]
    exact List.mem_map_of_mem (more.2.credits _ known)
  | none =>
    refine gives_bind tends_throwing fun second amount more isAmount => ?_
    refine tends_then tends_clock fun third now again => ?_
    have origin : ∃ record ∈ third.1.payments.rows,
        CreditOf record (credit (newTransaction dto amount now)) := by
      obtain ⟨record, listed, hash, amountIs⟩ := reported
      have onward := ((since.trans more).trans again).2
      refine ⟨record, onward.payments.subset listed, hash, ?_⟩
      rw [← amountIs] at isAmount
      exact isAmount
    refine gives_bind (tends_insertTransaction origin) fun fourth saved inserted credited => ?_
    have settles : Tends config fourth
        (tryCatch (reconcileTransaction saved none) (recordFailure saved)) fun _ changed =>
          credit changed = credit saved :=
      gives_tryCatch reconcileTransaction_tends fun _ _ _ => recordFailure_tends
    refine gives_bind settles fun fifth changed settled same => ?_
    have here : credit changed ∈ credits fifth.1.books := by
      rw [same]
      exact settled.2.credits _ credited.2
    refine gives_bind (tends_saveTransaction here) fun final _ _ stored => gives_pure ?_
    have named : dto.transactionId = (credit changed).1 := by
      rw [same, credited.1]
      rfl
    rw [named]
    exact List.mem_map_of_mem stored

theorem getInvoice_tends {invoiceId : String} : Tends config state (getInvoice invoiceId) fun _ _ => True := by
  refine tends_then (tends_ignored rfl) fun later found _ => ?_
  cases found with
  | none => exact gives_throw
  | some invoice => exact tends_then (tends_ignored rfl) fun _ _ _ => gives_pure trivial

theorem getTransaction_tends {transactionId : String} :
    Tends config state (getTransaction transactionId) fun _ _ => True := by
  refine tends_then (tends_ignored rfl) fun later found _ => ?_
  cases found with
  | none => exact gives_throw
  | some transaction => exact tends_then (tends_ignored rfl) fun _ _ _ => gives_pure trivial

theorem manualReconcile_tends {invoiceId : String} {note : Option String} :
    Tends config state (manualReconcile invoiceId note) fun _ _ => True := by
  refine tends_then (tends_ignored rfl) fun later found _ => ?_
  cases found with
  | none => exact gives_throw
  | some invoice =>
    refine gives_bind tends_findTransactions fun _ candidates _ known => ?_
    exact tends_then (reconcileEach_tends known) fun _ _ _ => getInvoice_tends

/-! ## Polling -/

theorem advanceCursor_tends {front rest : List HorizonRecord}
    (inOrder : front ++ record :: rest <+: state.1.payments.rows)
    (stored : AllStored state.1.books (front ++ [record])) :
    Tends config state (advanceCursor record) fun _ _ => True := by
  unfold advanceCursor
  split
  next token tokenIs =>
    refine gives_update (fun holds => ?_) trivial
    have kept : Bookkeeping state := holds
    obtain ⟨beyond, ledger⟩ := inOrder
    have listed : record ∈ state.1.payments.rows := by
      rw [← ledger]
      simp
    refine ⟨⟨kept.alone, kept.origin, ?_, ?_⟩, ⟨List.prefix_rfl, fun _ => id⟩⟩
    · intro other member
      refine stored other ?_
      simp only [passed, ← ledger, List.append_assoc, List.cons_append] at member
      have near := afterCursor_some_le front (rest ++ beyond) tokenIs
      have split_at : (front ++ record :: (rest ++ beyond)).take (front.length + 1) =
          front ++ [record] := by
        rw [List.append_cons, List.take_left' (by simp)]
      rw [← split_at]
      exact (List.take_prefix_take_left near).subset member
    · intro other isToken
      cases isToken
      exact ⟨record, listed, tokenIs⟩
  next => exact gives_pure trivial

theorem pollEach_tends : ∀ {records : List HorizonRecord} (front : List HorizonRecord)
    {state : ReconciliationWorld × ReconciliationMemory},
    front ++ records <+: state.1.payments.rows → AllStored state.1.books front →
      Tends config state (pollEach records) fun _ _ => True
  | [], _, _, _, _ => gives_pure trivial
  | record :: rest, front, state, inOrder, stored => by
    have moves_on : ∀ later, (ledgerRely config).Later state later →
        front ++ record :: rest <+: later.1.payments.rows := fun later since =>
      inOrder.trans since.2.payments
    have goes_on : ∀ later, (ledgerRely config).Later state later →
        AllStored later.1.books (front ++ [record]) → Tends config later (pollEach rest) fun _ _ => True := by
      intro later since storedTo
      refine pollEach_tends (front ++ [record]) ?_ storedTo
      rw [List.append_assoc]
      exact moves_on later since
    unfold pollEach
    split
    next noPayment =>
      have storedTo : AllStored state.1.books (front ++ [record]) := by
        intro other member hash named
        rcases List.mem_append.mp member with old | new
        · exact stored other old hash named
        · rw [List.mem_singleton.mp new, noPayment] at named
          cases named
      refine tends_then (advanceCursor_tends inOrder storedTo) fun later _ since => ?_
      exact goes_on later since (storedTo.later since.2)
    next transactionHash isPayment =>
      have listed : record ∈ state.1.payments.rows := inOrder.subset (by simp)
      have ingests : Tends config state (ingestTransaction (ingestedAs record transactionHash)) _ :=
        ingestTransaction_tends ⟨record, listed, isPayment, rfl⟩
      refine gives_bind ingests fun later _ since here => ?_
      have storedTo : AllStored later.1.books (front ++ [record]) := by
        intro other member hash named
        rcases List.mem_append.mp member with old | new
        · exact stored.later since.2 other old hash named
        · rw [List.mem_singleton.mp new, isPayment] at named
          cases named
          exact here
      refine tends_then (advanceCursor_tends (moves_on later since) storedTo) fun final _ more => ?_
      refine tends_then (goes_on final (since.trans more) (storedTo.later more.2)) fun _ _ _ => ?_
      exact gives_pure trivial

theorem tends_fetchPayments {baseUrl account : String} {cursor : Option String} (known : ∀ token ∈ cursor,
      ∃ record ∈ state.1.payments.rows, asString record.paging_token = some token) (stored : AllStored state.1.books
      (state.1.payments.rows.take (afterCursor state.1.payments.rows cursor))) :
    Tends config state (ask (.fetchPayments baseUrl account cursor)) fun later response =>
      ∀ records, response = .records records → ∃ front,
        front ++ records <+: later.1.payments.rows ∧ AllStored later.1.books front := by
  refine tends_spared rfl fun later since outcome world reply responds final more records isPage => ?_
  subst isPage
  cases outcome with
  | page start count =>
    simp only [ReconciliationWorld.respond] at responds
    split at responds
    next => cases responds
    next inRange =>
      cases responds
      obtain ⟨new, ledger⟩ := since.2.payments
      have near : start ≤ afterCursor state.1.payments.rows cursor := by
        rw [← ledger, afterCursor_append known] at inRange
        omega
      have inside : start ≤ state.1.payments.rows.length := near.trans (afterCursor_le _ _)
      refine ⟨later.1.payments.rows.take start, ?_, ?_⟩
      · refine List.IsPrefix.trans ?_ more.2.payments
        refine ⟨(later.1.payments.rows.drop start).drop count, ?_⟩
        rw [List.append_assoc, List.take_append_drop, List.take_append_drop]
      · refine AllStored.later (since.trans more).2 fun record member => stored record ?_
        rw [← ledger, List.take_append_of_le_length inside] at member
        exact (List.take_prefix_take_left near).subset member
  | _ => cases responds

theorem pollPage_tends {baseUrl account : String} :
    Tends config state (pollPage baseUrl account) fun _ _ => True := by
  intro holds
  have kept : Bookkeeping state := holds
  have known : ∀ token ∈ state.2.horizonCursor.filter (· ≠ ""),
      ∃ record ∈ state.1.payments.rows, asString record.paging_token = some token :=
    fun token isToken => kept.cursor token (Option.mem_filter_iff.mp isToken).1
  have stored : AllStored state.1.books (state.1.payments.rows.take
      (afterCursor state.1.payments.rows (state.2.horizonCursor.filter (· ≠ "")))) := by
    cases cursor : state.2.horizonCursor with
    | none =>
      intro record member
      cases member
    | some token =>
      by_cases empty : token = ""
      · subst empty
        intro record member
        cases member
      · have allPassed := kept.passed
        simp only [passed, cursor] at allPassed
        simpa [Option.filter_some, empty] using allPassed
  have remembers : Tends config state (Async.memory : ReconciliationM ReconciliationMemory)
      fun later mem => later = state ∧ mem = state.2 := gives_memory ⟨rfl, rfl⟩
  refine gives_bind remembers ?_ holds
  rintro _ _ _ ⟨rfl, rfl⟩
  refine gives_bind (tends_fetchPayments known stored) fun later response since page => ?_
  cases response with
  | failed status => exact gives_throw
  | records records =>
    obtain ⟨front, inOrder, storedTo⟩ := page records rfl
    exact pollEach_tends _ inOrder storedTo

theorem pollHorizon_tends : Tends config state (pollHorizon config) fun _ _ => True := by
  unfold pollHorizon
  split
  next => exact gives_pure trivial
  next account _ =>
    refine gives_tryCatch (tends_then pollPage_tends fun _ _ _ => gives_pure trivial) ?_
    exact fun _ _ _ => tends_then (tends_ignored rfl) fun _ _ _ => gives_pure trivial

/-- An ingested transaction is in the ledger. -/
def Answered (call : ReconciliationCall) (state : ReconciliationWorld × ReconciliationMemory)
    (result : Except Exception ReconciliationValue) : Prop :=
  ∀ dto value, call = .ingestTransaction dto → result = .ok value →
    Stored state.1.books dto.transactionId

theorem tends_returning {value : α → ReconciliationValue} {program : ReconciliationM α}
    {post : _ → Prop} (tends : Tends config state program fun later _ => post later) :
    Tends config state (returning value program) fun later _ => post later :=
  gives_bind tends fun _ _ _ ended => gives_pure ended

theorem body_guards (call : ReconciliationCall) (state later : ReconciliationWorld × ReconciliationMemory)
    (reports : ReportsPayment state call) (since : (ledgerRely config).Later state later) :
    Guards (ledgerRely config) (Answered call) later (reconciliationBody config call) := by
  have others : (∀ dto, call ≠ .ingestTransaction dto) →
      Tends config later (reconciliationBody config call) (fun _ _ => True) →
      Guards (ledgerRely config) (Answered call) later (reconciliationBody config call) :=
    fun differs tends =>
      guards_mono (fun _ _ _ dto _ same _ => absurd same (differs dto)) (tends since.1)
  cases call with
  | ingestTransaction dto =>
    obtain ⟨record, listed, isReport⟩ := reports
    have ingests : Tends config later (ingestTransaction dto) fun final _ =>
        Stored final.1.books dto.transactionId :=
      ingestTransaction_tends ⟨record, since.2.payments.subset listed, isReport⟩
    refine guards_mono ?_ (tends_returning ingests since.1)
    rintro final result ⟨_, stored⟩ _ value same isOk
    cases same
    exact stored value isOk
  | createInvoice dto => exact others nofun (tends_returning createInvoice_tends)
  | manualReconcile invoiceId note => exact others nofun (tends_returning manualReconcile_tends)
  | pollHorizon => exact others nofun (tends_returning pollHorizon_tends)
  | getTransaction transactionId => exact others nofun (tends_returning getTransaction_tends)
  | getInvoice invoiceId => exact others nofun (tends_returning getInvoice_tends)
  | listUnmatched limit => exact others nofun (tends_returning (tends_ignored rfl))
  | listAudits invoiceId transactionId => exact others nofun (tends_returning (tends_ignored rfl))

theorem answered_lasting (call : ReconciliationCall) (result : Except Exception ReconciliationValue) :
    Lasting (ledgerRely config) (Answered call · result) :=
  fun _ _ since answered dto value same isOk => (answered dto value same isOk).later since.2

theorem credited_has {records : List HorizonRecord} {made : List (String × Amount)}
    (each : List.Forall₂ CreditOf records made) (member : record ∈ records) : ∃ one ∈ made, CreditOf record one := by
  induction each with
  | nil => cases member
  | cons isCredit _ ih =>
    rcases List.mem_cons.mp member with rfl | later
    · exact ⟨_, List.mem_cons_self, isCredit⟩
    · obtain ⟨one, listed, isOne⟩ := ih later
      exact ⟨one, List.mem_cons_of_mem _ listed, isOne⟩

theorem credited_operations {state : ReconciliationWorld × ReconciliationMemory}
    (kept : Bookkeeping state) : ∃ credited : List HorizonRecord,
      credited.Nodup ∧ List.Forall₂ CreditOf credited (credits state.1.books) ∧
      (∀ record ∈ credited, record ∈ state.1.payments.rows) ∧
      ∀ record ∈ state.1.payments.rows, ∀ hash ∈ paymentHash record,
        Stored state.1.books hash → record ∈ credited := by
  have unique : ((credits state.1.books).map Prod.fst).Nodup := by
    simpa [credits, credit, Function.comp_def] using state.1.books.transactions.unique
  have origin := kept.origin
  revert unique origin
  unfold Stored
  induction credits state.1.books with
  | nil =>
    intro _ _
    refine ⟨[], List.nodup_nil, .nil, fun _ member => absurd member List.not_mem_nil, ?_⟩
    exact fun _ _ _ _ stored => absurd stored List.not_mem_nil
  | cons made rest ih =>
    intro unique origin
    obtain ⟨new, tail⟩ := List.nodup_cons.mp unique
    obtain ⟨credited, once, each, listed, complete⟩ :=
      ih tail fun made member => origin made (List.mem_cons_of_mem _ member)
    obtain ⟨record, isListed, isCredit⟩ := origin made List.mem_cons_self
    have fresh : record ∉ credited := by
      intro again
      obtain ⟨one, isRest, isOne⟩ := credited_has each again
      have same : made.1 = one.1 := Option.some.inj (isCredit.1.symm.trans isOne.1)
      exact new (same ▸ List.mem_map_of_mem isRest)
    refine ⟨record :: credited, List.nodup_cons.mpr ⟨fresh, once⟩, .cons isCredit each, ?_, ?_⟩
    · intro other member
      rcases List.mem_cons.mp member with rfl | old
      · exact isListed
      · exact listed other old
    · intro other member hash named stored
      rcases List.mem_cons.mp stored with rfl | old
      · rw [kept.alone record isListed made.1 isCredit.1 other member named]
        exact List.mem_cons_self
      · exact List.mem_cons_of_mem _ (complete other member hash named old)

end Methods

/-- In every run in which no two payment operations are of one transaction, the ledger has each
payment operation once, and every one that a poll has passed or a request has reported. -/
theorem payments_credited_once (config : ReconciliationConfig) (world : ReconciliationWorld)
    (mem : ReconciliationMemory) (blank : world.books.transactions.rows = [])
    (started : mem.horizonCursor = none) (oneEach : OneEach world.payments.rows)
    (labels : List (Label (reconciliationProcess config))) (after : Config (reconciliationProcess config))
    (relied : Admissible (Relied (ledgerRely config) ReportsPayment) labels
      (Config.initial (reconciliationProcess config) world mem))
    (ran : run labels (Config.initial (reconciliationProcess config) world mem) = some after) :
    CreditedOnce after := by
  have start : Bookkeeping (world, mem) := by
    refine ⟨oneEach, ?_, ?_, ?_⟩
    · intro made member
      simp [credits, blank] at member
    · intro record member
      simp [passed, started, afterCursor] at member
    · intro token isToken
      rw [started] at isToken
      cases isToken
  have guarded : Guarded (ledgerRely config) Answered after :=
    guarded_run (fun call state later _ reports since => body_guards call state later reports since)
      (fun _ _ (never : False) => never.elim) answered_lasting start relied ran
  have kept : Bookkeeping (after.world, after.mem) := guarded.holds
  obtain ⟨credited, once, each, listed, complete⟩ := credited_operations kept
  refine ⟨credited, once, each, listed, ?_, ?_⟩
  · intro record member isPayment
    obtain ⟨hash, named⟩ := Option.isSome_iff_exists.mp isPayment
    exact complete record (List.mem_of_mem_take member) hash named
      (kept.passed record member hash named)
  · intro task member dto value same ended record isListed reports
    exact complete record isListed dto.transactionId reports.1
      (guarded.ended member ended dto value same rfl)

instance (dto : IngestTransactionDto) (record : HorizonRecord) : Decidable (Reports dto record) := by
  unfold Reports
  infer_instance

instance ReportsPayment.decidable (state : ReconciliationWorld × ReconciliationMemory) :
    ∀ call, Decidable (ReportsPayment state call)
  | .ingestTransaction dto =>
    inferInstanceAs (Decidable (∃ record ∈ state.1.payments.rows, Reports dto record))
  | .createInvoice _ | .manualReconcile _ _ | .pollHorizon | .getTransaction _ | .getInvoice _
  | .listUnmatched _ | .listAudits _ _ => isTrue trivial

instance OfNewTransaction.decidable (config : ReconciliationConfig)
    (state : ReconciliationWorld × ReconciliationMemory) :
    ∀ change, Decidable ((ledgerRely config).allowed state change)
  | .payment record => inferInstanceAs (Decidable (∀ hash ∈ paymentHash record,
      ∀ other ∈ state.1.payments.rows, paymentHash other = some hash → other.id = record.id))
  | .time _ | .restart => isTrue trivial

instance (records : List HorizonRecord) : Decidable (OneEach records) := by
  unfold OneEach
  infer_instance

def samplePolling : ReconciliationConfig := ⟨some "G", "https://horizon-testnet.stellar.org"⟩

/-- A native payment to the account. -/
def payment (id hash amount : String) : HorizonRecord :=
  ⟨id, some (.string "payment"), some (.string hash), some (.string id), none, none,
    some (.string "G"), some (.string amount), some (.string "native"), none, none⟩

def paidWorld (records : Table HorizonRecord HorizonRecord.id) : ReconciliationWorld :=
  ⟨0, ⟨Table.empty, Table.empty, []⟩, records⟩

/-- A service that starts with two payments on the ledger. -/
def paidStart (hash other : String) : Config (reconciliationProcess samplePolling) :=
  Config.initial _
    (paidWorld ((Table.empty.save (payment "1" hash "1")).save (payment "2" other "2"))) ⟨0, none⟩

/-- A poll that ingests two payments, with as many answers for the second. -/
def pollingRun (answers : Nat) : List (Label (reconciliationProcess samplePolling)) :=
  [.call .pollHorizon, .resume 0, .reply 0 (.page 0 2), .reply 0 .done, .resume 0, .reply 0 .done,
    .reply 0 .done, .reply 0 .done, .reply 0 .done, .resume 0, .reply 0 .done, .resume 0] ++
    List.replicate answers (.reply 0 .done) ++ [.resume 0]

/-- Of two payments in one transaction the second is taken for the first again. -/
theorem second_payment_dropped : ∃ after,
    run (pollingRun 1) (paidStart "h" "h") = some after ∧ ¬ CreditedOnce after := by
  obtain ⟨after, ran, one, first, second⟩ : ∃ after,
      run (pollingRun 1) (paidStart "h" "h") = some after ∧ (credits after.world.books).length = 1 ∧
        payment "1" "h" "1" ∈ passed after.world after.mem ∧
        payment "2" "h" "2" ∈ passed after.world after.mem := by
    decide +kernel
  refine ⟨after, ran, ?_⟩
  rintro ⟨credited, _, each, _, complete, _⟩
  have both : [payment "1" "h" "1", payment "2" "h" "2"] ⊆ credited := by
    simp only [List.cons_subset, List.nil_subset, and_true]
    exact ⟨complete _ first (by decide), complete _ second (by decide)⟩
  have many := (List.subperm_of_subset (by decide) both).length_le
  rw [each.length_eq, one] at many
  exact absurd many (by decide)

theorem payments_credited_once_polled : ∃ after,
    run (pollingRun 4) (paidStart "h" "other") = some after ∧ CreditedOnce after := by
  obtain ⟨after, ran⟩ : ∃ after, run (pollingRun 4) (paidStart "h" "other") = some after := by
    refine ⟨_, rfl⟩
  exact ⟨after, ran, payments_credited_once samplePolling _ _ rfl rfl (by decide) _ after
    (by decide +kernel) ran⟩

end AlianStructure.Guarantees.PaymentsCredited
