import AlianStructure.Guarantees.ReconciliationInTurn

/-!
# The accounts of invoices

Source: src/reconciliation/reconciliation.service.ts:41-126,177-204,279-329. Every addition to
an invoice leaves an audit with the invoice and the transaction. A transaction is added at most
once as long as manual reconciliation meets no partially matched transaction: it would add such
a one again, or mark it unmatched although it was added.
-/
namespace AlianStructure.Guarantees.InvoiceAccounting
open Library.AsyncMethod Library.Interleaving Library.CallsInTurn Library.SeenInTurn
open Library.KeyedTable
open Source Source.Reconciliation ReconciliationService ReconciliationInTurn

/-- The invoice and the transaction of an addition. -/
def additionOf (audit : ReconciliationAudit) : Option (String × String) :=
  if adds audit then audit.invoiceId.bind fun invoiceId =>
    audit.transactionId.map fun transactionId => (invoiceId, transactionId)
  else none

/-- The additions made so far. -/
def additions (books : Books) : List (String × String) := books.audits.filterMap additionOf

theorem lawfulPairs : LawfulBEq (String × String) := inferInstance

attribute [local instance] lawfulPairs

/-- The units of the transactions that were added to an invoice. -/
def addedUnits (books : Books) (invoiceId : String) : Nat :=
  ((books.transactions.rows.filter fun row =>
    decide ((invoiceId, row.transactionId) ∈ additions books)).map (·.amount.units)).sum

/-- Every transaction is added at most once, an invoice is paid by the transactions added to it,
and these are the matched and partially matched ones. -/
structure Accounted (books : Books) : Prop where
  once : ((additions books).map Prod.snd).Nodup
  paid : ∀ invoice ∈ books.invoices.rows,
    toUnits invoice.paidAmount.text = .ok (addedUnits books invoice.invoiceId)
  status : ∀ row ∈ books.transactions.rows,
    (∃ invoiceId, (invoiceId, row.transactionId) ∈ additions books) ↔
      row.status = .matched ∨ row.status = .partially

/-- The additions are those of stored invoices and transactions. -/
structure Bookkept (books : Books) : Prop extends Accounted books where
  knownInvoice : ∀ addition ∈ additions books, addition.1 ∈
    books.invoices.rows.map ReconciliationInvoice.invoiceId
  knownTransaction : ∀ addition ∈ additions books, addition.2 ∈
    books.transactions.rows.map StellarTransaction.transactionId

variable {audit : ReconciliationAudit}

theorem additions_silent {books : Books} (silent : adds audit = false) :
    additions (books.writeAudit audit) = additions books := by
  simp [additions, Books.writeAudit, additionOf, silent]

theorem additions_grow {books : Books} {invoiceId transactionId : String} (isAdded : adds audit = true)
    (invoiceIs : audit.invoiceId = some invoiceId) (transactionIs : audit.transactionId = some transactionId) :
    additions (books.writeAudit audit) = additions books ++ [(invoiceId, transactionId)] := by
  simp [additions, Books.writeAudit, additionOf, isAdded, invoiceIs, transactionIs]

@[simp] theorem additions_saveInvoice (books : Books) (invoice : ReconciliationInvoice) :
    additions (books.saveInvoice invoice) = additions books := rfl

@[simp] theorem additions_saveTransaction (books : Books) (row : StellarTransaction) :
    additions (books.saveTransaction row) = additions books := rfl

/-- What a row adds to an invoice, under given additions. -/
def share (made : List (String × String)) (invoiceId : String) (row : StellarTransaction) : Nat :=
  if (invoiceId, row.transactionId) ∈ made then row.amount.units else 0

theorem sum_share (made : List (String × String)) (invoiceId : String) (rows : List StellarTransaction) :
    ((rows.filter fun row => decide ((invoiceId, row.transactionId) ∈ made)).map
      (·.amount.units)).sum = (rows.map (share made invoiceId)).sum := by
  induction rows with
  | nil => rfl
  | cons row rest ih =>
    by_cases added : (invoiceId, row.transactionId) ∈ made
    · simp [share, added, ih]
    · simp [share, added, ih]

theorem addedUnits_eq (books : Books) (invoiceId : String) : addedUnits books invoiceId =
      (books.transactions.rows.map (share (additions books) invoiceId)).sum :=
  sum_share (additions books) invoiceId books.transactions.rows

/-- A row with the identity and the amount of the one it replaces. -/
structure Replaces (books : Books) (row : StellarTransaction) : Prop where
  found : ∃ old, books.transactions.findOne row.transactionId = some old ∧ old.amount = row.amount

variable {row : StellarTransaction}

theorem Replaces.shares {books : Books} (replaces : Replaces books row) (made : List (String × String))
    (invoiceId : String) : (books.transactions.save row).rows.map (share made invoiceId) =
      books.transactions.rows.map (share made invoiceId) := by
  obtain ⟨old, found, amount⟩ := replaces.found
  refine Table.map_save found ?_
  have named : old.transactionId = row.transactionId := Table.findOne_key found
  simp only [share, named, amount]

theorem Replaces.ids {books : Books} (replaces : Replaces books row) :
    (books.transactions.save row).rows.map StellarTransaction.transactionId =
      books.transactions.rows.map StellarTransaction.transactionId := by
  obtain ⟨old, found, _⟩ := replaces.found
  exact Table.map_save found (Table.findOne_key found).symm

section Steps
variable {books after : Books}

theorem Bookkept.audited (kept : Bookkept books) (silent : adds audit = false) :
    Bookkept (books.writeAudit audit) := by
  have same : additions (books.writeAudit audit) = additions books := additions_silent silent
  refine ⟨⟨?_, fun invoice member => ?_, fun row member => ?_⟩, ?_, ?_⟩
  · rw [same]
    exact kept.once
  · rw [kept.paid invoice member, addedUnits_eq, addedUnits_eq, same]
    rfl
  · rw [same]
    exact kept.status row member
  · rw [same]
    exact kept.knownInvoice
  · rw [same]
    exact kept.knownTransaction

theorem Bookkept.resaved (kept : Bookkept books) {row old : StellarTransaction}
    (found : books.transactions.findOne row.transactionId = some old) (amount : old.amount = row.amount)
    (status : old.status = row.status) : Bookkept (books.saveTransaction row) := by
  have replaces : Replaces books row := ⟨old, found, amount⟩
  have named : old.transactionId = row.transactionId := Table.findOne_key found
  refine ⟨⟨kept.once, fun invoice member => ?_, fun other member => ?_⟩, kept.knownInvoice, ?_⟩
  · rw [kept.paid invoice member, addedUnits_eq, addedUnits_eq]
    exact congrArg (fun shares => Except.ok (List.sum shares)) (replaces.shares _ _).symm
  · rcases Table.mem_save.mp member with rfl | ⟨listed, _⟩
    · rw [← named, ← status]
      exact kept.status old (Table.findOne_mem found)
    · exact kept.status other listed
  · intro addition member
    rw [show (books.saveTransaction row).transactions.rows = (books.transactions.save row).rows from rfl,
      replaces.ids]
    exact kept.knownTransaction addition member

variable {invoice : ReconciliationInvoice} {transaction : StellarTransaction}

theorem Bookkept.added (kept : Bookkept books)
    (listed : books.transactions.findOne transaction.transactionId = some transaction)
    (new : transaction.status = .unmatched) (stored : invoice ∈ books.invoices.rows)
    {status : TransactionStatus} (isAdded : adds audit = true) (invoiceIs : audit.invoiceId = some invoice.invoiceId)
    (transactionIs : audit.transactionId = some transaction.transactionId)
    (settled : status = .matched ∨ status = .partially) :
    Bookkept (((books.saveInvoice (credited transaction invoice)).writeAudit audit).saveTransaction
      { transaction with status := status }) := by
  have grown : additions (((books.saveInvoice (credited transaction invoice)).writeAudit
      audit).saveTransaction { transaction with status := status }) =
      additions books ++ [(invoice.invoiceId, transaction.transactionId)] :=
    additions_grow isAdded invoiceIs transactionIs
  have member := Table.findOne_mem listed
  have never : ∀ invoiceId, (invoiceId, transaction.transactionId) ∉ additions books := by
    intro invoiceId made
    rcases (kept.status transaction member).mp ⟨invoiceId, made⟩ with matched | partially
    · rw [new] at matched
      cases matched
    · rw [new] at partially
      cases partially
  have replaces : Replaces books { transaction with status := status } := ⟨transaction, listed, rfl⟩
  have shares : ∀ invoiceId, addedUnits (((books.saveInvoice (credited transaction
      invoice)).writeAudit audit).saveTransaction { transaction with status := status }) invoiceId =
      (books.transactions.rows.map (share (additions books ++
        [(invoice.invoiceId, transaction.transactionId)]) invoiceId)).sum := by
    intro invoiceId
    rw [addedUnits_eq, grown]
    exact congrArg List.sum (replaces.shares _ _)
  refine ⟨⟨?_, fun other listed => ?_, fun row listed => ?_⟩, ?_, ?_⟩
  · rw [grown, List.map_append, List.nodup_append]
    refine ⟨kept.once, List.nodup_singleton _, ?_⟩
    rintro id made _ last rfl
    obtain rfl := List.mem_singleton.mp last
    obtain ⟨⟨invoiceId, _⟩, made, rfl⟩ := List.mem_map.mp made
    exact never invoiceId made
  · rw [shares]
    rcases Table.mem_save.mp listed with rfl | ⟨old, differs⟩
    · -- The invoice itself: its total grows at the row of the transaction.
      have here : share (additions books ++ [(invoice.invoiceId, transaction.transactionId)])
          invoice.invoiceId transaction =
          share (additions books) invoice.invoiceId transaction + transaction.amount.units := by
        simp [share, never]
      have total := Table.sum_grows books.transactions.unique member here fun other _ differs => by
        have apart : other.transactionId ≠ transaction.transactionId := differs
        simp [share, apart]
      have before := kept.paid invoice stored
      rw [invoice.paidAmount.toUnits_text, addedUnits_eq] at before
      have same := Except.ok.inj before
      show toUnits (Amount.ofUnits _).text = .ok _
      rw [(Amount.ofUnits _).toUnits_text, Amount.units_ofUnits, same]
      exact congrArg Except.ok total.symm
    · have apart : other.invoiceId ≠ invoice.invoiceId := differs
      rw [kept.paid other old, addedUnits_eq]
      refine congrArg (fun shares => Except.ok (List.sum shares)) (List.map_congr_left ?_)
      intro row _
      simp [share, apart]
  · rw [grown]
    rcases Table.mem_save.mp listed with rfl | ⟨old, differs⟩
    · refine iff_of_true ⟨invoice.invoiceId, ?_⟩ settled
      exact List.mem_append_right _ (List.mem_singleton_self _)
    · have apart : row.transactionId ≠ transaction.transactionId := differs
      rw [← kept.status row old]
      simp [apart]
  · rw [grown]
    intro addition made
    have ids : (books.invoices.save (credited transaction invoice)).rows.map
        ReconciliationInvoice.invoiceId = books.invoices.rows.map ReconciliationInvoice.invoiceId :=
      Table.save_keys (List.mem_map.mpr ⟨invoice, stored, rfl⟩)
    show addition.1 ∈ (books.invoices.save (credited transaction invoice)).rows.map _
    rw [ids]
    rcases List.mem_append.mp made with before | now
    · exact kept.knownInvoice addition before
    · obtain rfl := List.mem_singleton.mp now
      exact List.mem_map_of_mem stored
  · rw [grown]
    intro addition made
    show addition.2 ∈ (books.transactions.save { transaction with status := status }).rows.map _
    rw [replaces.ids]
    rcases List.mem_append.mp made with before | now
    · exact kept.knownTransaction addition before
    · obtain rfl := List.mem_singleton.mp now
      exact List.mem_map_of_mem member

theorem oldest_stored {destinationAccount : String}
    (oldest : books.findInvoice (.oldestAt destinationAccount) = some invoice) : invoice ∈ books.invoices.rows := by
  have sorted := List.mem_of_head? oldest
  exact List.mem_of_mem_filter ((List.mem_insertionSort _).mp sorted)

theorem Bookkept.settled (kept : Bookkept books)
    (listed : books.transactions.findOne transaction.transactionId = some transaction)
    (new : transaction.status = .unmatched) (settled : Settled books transaction after) : Bookkept after := by
  obtain ⟨reconciled⟩ := settled
  cases reconciled with
  | unmatched audit silent none =>
    have saved : Bookkept ((books.writeAudit audit).saveTransaction
        { transaction with status := .unmatched }) := (kept.audited silent).resaved listed rfl new
    exact saved
  | applied invoice audit status isAdded invoiceIs transactionIs oldest agrees settled =>
    exact kept.added listed new (oldest_stored oldest) isAdded invoiceIs transactionIs settled

theorem Settled.others (settled : Settled books transaction after) {transactionId : String}
    (other : transactionId ≠ transaction.transactionId) :
    after.transactions.findOne transactionId = books.transactions.findOne transactionId := by
  obtain ⟨reconciled⟩ := settled
  cases reconciled with
  | unmatched audit silent none =>
    have apart : transactionId ≠ StellarTransaction.transactionId
        { transaction with status := .unmatched } := other
    exact Table.findOne_save_other books.transactions apart
  | applied invoice audit status isAdded invoiceIs transactionIs oldest agrees settled =>
    have apart : transactionId ≠ StellarTransaction.transactionId
        { transaction with status := status } := other
    exact Table.findOne_save_other books.transactions apart

/-- The accounts hold through the loop over candidates that are stored and unmatched. -/
theorem Bookkept.settledEach {candidates : List StellarTransaction}
    (each : SettledEach invoice books candidates after) (kept : Bookkept books)
    (unique : (candidates.map StellarTransaction.transactionId).Nodup)
    (listed : ∀ transaction ∈ candidates, matchesInvoice transaction invoice = true →
      books.transactions.findOne transaction.transactionId = some transaction ∧ transaction.status = .unmatched) :
    Bookkept after := by
  induction each with
  | done books => exact kept
  | other differs later ih =>
    exact ih kept (List.nodup_cons.mp unique).2 fun transaction member =>
      listed transaction (List.mem_cons_of_mem _ member)
  | @settled _ _ _ current _ agrees first later ih =>
    obtain ⟨new, tail⟩ := List.nodup_cons.mp unique
    obtain ⟨stored, unmatched⟩ := listed _ List.mem_cons_self agrees
    refine ih (kept.settled stored unmatched first) tail fun transaction member agrees => ?_
    have apart : transaction.transactionId ≠ current.transactionId := fun same =>
      new (same ▸ List.mem_map_of_mem member)
    rw [Settled.others first apart]
    exact listed transaction (List.mem_cons_of_mem _ member) agrees

theorem candidates_stored (books : Books) (destinationAccount assetCode : String)
    (statuses : List TransactionStatus) : ((books.findTransactions (.at destinationAccount assetCode statuses)).map
      StellarTransaction.transactionId).Nodup ∧
    ∀ row ∈ books.findTransactions (.at destinationAccount assetCode statuses),
      row ∈ books.transactions.rows ∧ row.status ∈ statuses := by
  unfold Books.findTransactions
  refine ⟨?_, fun row member => ?_⟩
  · refine ((List.perm_insertionSort _ _).map _).nodup_iff.mpr ?_
    exact books.transactions.unique.sublist (List.filter_sublist.map _)
  · obtain ⟨stored, chosen⟩ := List.mem_filter.mp ((List.mem_insertionSort _).mp member)
    simp only [Bool.and_eq_true, List.contains_iff_mem] at chosen
    exact ⟨stored, chosen.2⟩

theorem Bookkept.opened (kept : Bookkept books) (absent : books.invoices.findOne invoice.invoiceId = none)
    (unpaid : invoice.paidAmount = Amount.ofUnits 0) : Bookkept (books.saveInvoice invoice) := by
  refine ⟨⟨kept.once, fun other member => ?_, kept.status⟩, ?_, kept.knownTransaction⟩
  · rw [addedUnits_eq]
    show toUnits other.paidAmount.text =
      .ok (books.transactions.rows.map (share (additions books) other.invoiceId)).sum
    rcases Table.mem_save.mp member with rfl | ⟨old, _⟩
    · have never : ∀ row ∈ books.transactions.rows,
          share (additions books) other.invoiceId row = 0 := by
        intro row _
        have none : (other.invoiceId, row.transactionId) ∉ additions books := fun made =>
          Table.findOne_eq_none.mp absent (kept.knownInvoice _ made)
        simp [share, none]
      rw [List.map_congr_left never, unpaid, Amount.toUnits_text, Amount.units_ofUnits]
      simp
    · rw [← addedUnits_eq]
      exact kept.paid other old
  · intro addition made
    show addition.1 ∈ (books.invoices.save invoice).rows.map _
    rw [Table.save_new absent, List.map_append]
    exact List.mem_append_left _ (kept.knownInvoice addition made)

theorem Bookkept.inserted (kept : Bookkept books)
    (absent : books.transactions.findOne row.transactionId = none) (new : row.status = .unmatched) :
    Bookkept (books.saveTransaction row) := by
  have never : ∀ invoiceId, (invoiceId, row.transactionId) ∉ additions books :=
    fun invoiceId made => Table.findOne_eq_none.mp absent (kept.knownTransaction _ made)
  have rows : (books.saveTransaction row).transactions.rows = books.transactions.rows ++ [row] :=
    Table.save_new absent
  refine ⟨⟨kept.once, fun invoice member => ?_, fun other member => ?_⟩, kept.knownInvoice, ?_⟩
  · rw [kept.paid invoice member, addedUnits_eq, addedUnits_eq, rows]
    simp [share, never]
  · rw [rows] at member
    rcases List.mem_append.mp member with old | last
    · exact kept.status other old
    · obtain rfl := List.mem_singleton.mp last
      refine iff_of_false (fun ⟨invoiceId, made⟩ => never invoiceId made) ?_
      simp [new]
  · intro addition made
    rw [rows, List.map_append]
    exact List.mem_append_left _ (kept.knownTransaction addition made)

end Steps

section Methods
variable {config : ReconciliationConfig} {books : Books} {α : Type}

/-- The accounts hold when the program has ended. -/
abbrev KeepsBooks (config : ReconciliationConfig) (books : Books) (program : ReconciliationM α) :
    Prop :=
  EndsOn config books program fun after _ => Bookkept after

theorem createInvoice_keeps (kept : Bookkept books) (dto : CreateInvoiceDto) :
    KeepsBooks config books (createInvoice dto) := by
  refine ends_findInvoice ?_
  cases existing : books.findInvoice (.invoiceId dto.invoiceId) with
  | some invoice => exact endsFrom_pure kept
  | none =>
    simp only
    cases normalizeAmount dto.expectedAmount with
    | error failure => exact endsFrom_throw kept
    | ok expectedAmount =>
      refine ends_insertInvoice existing fun now => ends_findTransactions ?_
      have opened : Bookkept (books.saveInvoice
          { newInvoice dto expectedAmount with createdAt := now }) := kept.opened existing rfl
      obtain ⟨unique, stored⟩ := candidates_stored (books.saveInvoice
        { newInvoice dto expectedAmount with createdAt := now }) dto.destinationAccount
        (toUpperCase (dto.assetCode.getD "XLM")) [.unmatched]
      refine endsFrom_bind reconcileEach_ends ?_ ?_
      · rintro after _ ⟨_, each⟩
        refine endsFrom_pure (Bookkept.settledEach each opened unique fun row member _ => ?_)
        obtain ⟨listed, status⟩ := stored row member
        exact ⟨Table.findOne_of_mem listed, by simpa using status⟩
      · rintro _ _ ⟨impossible, _⟩
        cases impossible

theorem Bookkept.ingested (kept : Bookkept books) {dto : IngestTransactionDto} {after : Books}
    {result : Except Exception StellarTransaction} (ingested : Ingested books dto after result) : Bookkept after := by
  cases ingested with
  | duplicate existing audit silent found => exact kept.audited silent
  | invalid failure absent => exact kept
  | @new amount now createdAt _ _ absent reconciled =>
    have inserted : Bookkept (books.saveTransaction (ingestedRow dto amount now createdAt)) :=
      kept.inserted absent rfl
    exact inserted.settled (Table.findOne_save_self _ _) rfl (.saved reconciled)

theorem ingestTransaction_keeps (kept : Bookkept books) (dto : IngestTransactionDto) :
    KeepsBooks config books (ingestTransaction dto) :=
  endsFrom_mono ingestTransaction_ends fun _ _ ingested => kept.ingested ingested

theorem getInvoice_keeps (kept : Bookkept books) (invoiceId : String) :
    KeepsBooks config books (getInvoice invoiceId) := by
  refine ends_findInvoice ?_
  cases books.findInvoice (.invoiceId invoiceId) with
  | none => exact endsFrom_throw kept
  | some invoice => exact ends_findAudits (endsFrom_pure kept)

/-- No transaction that agrees with the invoice is partially matched. -/
def FreeOfPartials (books : Books) (invoiceId : String) : Prop :=
  ∀ invoice ∈ books.findInvoice (.invoiceId invoiceId), ∀ row ∈ books.transactions.rows,
    matchesInvoice row invoice = true → row.status ≠ .partially

instance (books : Books) (invoiceId : String) : Decidable (FreeOfPartials books invoiceId) := by
  unfold FreeOfPartials
  infer_instance

theorem manualReconcile_keeps (kept : Bookkept books) {invoiceId : String}
    (free : FreeOfPartials books invoiceId) (note : Option String) :
    KeepsBooks config books (manualReconcile invoiceId note) := by
  refine ends_findInvoice ?_
  cases existing : books.findInvoice (.invoiceId invoiceId) with
  | none => exact endsFrom_throw kept
  | some invoice =>
    refine ends_findTransactions ?_
    obtain ⟨unique, stored⟩ := candidates_stored books invoice.destinationAccount invoice.assetCode
      [.unmatched, .partially]
    refine endsFrom_bind reconcileEach_ends ?_ ?_
    · rintro after _ ⟨_, each⟩
      refine getInvoice_keeps (Bookkept.settledEach each kept unique fun row member agrees => ?_) _
      obtain ⟨listed, status⟩ := stored row member
      have whole := free invoice existing row listed agrees
      refine ⟨Table.findOne_of_mem listed, ?_⟩
      simpa [whole] using status
    · rintro _ _ ⟨impossible, _⟩
      cases impossible

theorem advanceCursor_keeps (kept : Bookkept books) (record : HorizonRecord) :
    KeepsBooks config books (advanceCursor record) := by
  unfold advanceCursor
  split
  next token _ => exact endsFrom_update (fun _ _ => rfl) kept
  next => exact endsFrom_pure kept

theorem pollEach_keeps : ∀ (records : List HorizonRecord) {books : Books}, Bookkept books →
    KeepsBooks config books (pollEach records)
  | [], _, kept => endsFrom_pure kept
  | record :: rest, books, kept => by
    unfold pollEach
    split
    next =>
      exact endsFrom_bind (advanceCursor_keeps kept record)
        (fun _ _ kept => pollEach_keeps rest kept) fun _ _ kept => kept
    next transactionHash _ =>
      refine endsFrom_bind (ingestTransaction_keeps kept (ingestedAs record transactionHash)) ?_
        fun _ _ kept => kept
      intro ingested _ kept
      refine endsFrom_bind (advanceCursor_keeps kept record) ?_ fun _ _ kept => kept
      intro advanced _ kept
      exact endsFrom_bind (pollEach_keeps rest kept) (fun _ _ kept => endsFrom_pure kept)
        fun _ _ kept => kept

theorem pollPage_keeps (kept : Bookkept books) (baseUrl account : String) :
    KeepsBooks config books (pollPage baseUrl account) := by
  have remembers : KeepsBooks config books (Async.memory : ReconciliationM ReconciliationMemory) :=
    endsFrom_memory fun _ => kept
  refine endsFrom_bind remembers (fun after memory kept => ?_) fun _ _ kept => kept
  refine endsFrom_bind (ends_reading rfl kept) (fun fetched response kept => ?_) fun _ _ kept => kept
  cases response with
  | failed status => exact endsFrom_throw kept
  | records records => exact pollEach_keeps records kept

theorem pollHorizon_keeps (kept : Bookkept books) : KeepsBooks config books (pollHorizon config) := by
  unfold pollHorizon
  split
  next => exact endsFrom_pure kept
  next account _ =>
    have tries : KeepsBooks config books (do
        let ingested ← pollPage (withoutSlash config.horizonUrl) account
        pure (false, ingested)) :=
      endsFrom_bind (pollPage_keeps kept _ account) (fun _ _ kept => endsFrom_pure kept)
        fun _ _ kept => kept
    refine endsFrom_tryCatch tries (fun after failure kept => ?_) fun _ _ kept => kept
    exact ends_writeAudit (endsFrom_pure (kept.audited rfl))

theorem getTransaction_keeps (kept : Bookkept books) (transactionId : String) :
    KeepsBooks config books (getTransaction transactionId) := by
  refine ends_findTransaction ?_
  cases books.transactions.findOne transactionId with
  | none => exact endsFrom_throw kept
  | some transaction => exact ends_findAudits (endsFrom_pure kept)

end Methods

/-- The condition on a call: it does not reconcile an invoice by hand that a partially matched
transaction agrees with. -/
def SparesPartials (config : ReconciliationConfig) (state : State (reconciliationProcess config)) :
    ReconciliationCall → Prop
  | .manualReconcile invoiceId _ => FreeOfPartials state.1.books invoiceId
  | _ => True

instance SparesPartials.decidable (config : ReconciliationConfig)
    (state : State (reconciliationProcess config)) :
    ∀ call, Decidable (SparesPartials config state call)
  | .manualReconcile invoiceId _ => inferInstanceAs (Decidable (FreeOfPartials state.1.books invoiceId))
  | .createInvoice _ | .ingestTransaction _ | .pollHorizon | .getTransaction _ | .getInvoice _
  | .listUnmatched _ | .listAudits _ _ => isTrue trivial

theorem body_keeps {config : ReconciliationConfig}
    (state : State (reconciliationProcess config)) (call : ReconciliationCall)
    (kept : Bookkept state.1.books) (spares : SparesPartials config state call) :
    KeepsBooks config state.1.books (reconciliationBody config call) := by
  cases call with
  | createInvoice dto => exact ends_returning (createInvoice_keeps kept dto)
  | ingestTransaction dto => exact ends_returning (ingestTransaction_keeps kept dto)
  | manualReconcile invoiceId note => exact ends_returning (manualReconcile_keeps kept spares note)
  | pollHorizon => exact ends_returning (pollHorizon_keeps kept)
  | getTransaction transactionId => exact ends_returning (getTransaction_keeps kept transactionId)
  | getInvoice invoiceId => exact ends_returning (getInvoice_keeps kept invoiceId)
  | listUnmatched limit => exact ends_returning (ends_reading rfl kept)
  | listAudits invoiceId transactionId => exact ends_returning (ends_reading rfl kept)

/-- Tables without rows. -/
def Books.empty : Books := ⟨Table.empty, Table.empty, []⟩

theorem bookkept_empty : Bookkept Books.empty where
  once := List.nodup_nil
  paid _ member := by cases member
  status _ member := by cases member
  knownInvoice _ made := by cases made
  knownTransaction _ made := by cases made

/-- In every run of calls in turn from empty tables, in which no operation fails and no invoice is
reconciled by hand that a partially matched transaction agrees with, the accounts are right
whenever no call is under way. -/
theorem invoices_accounted (config : ReconciliationConfig) (world : ReconciliationWorld)
    (mem : ReconciliationMemory) (blank : world.books = Books.empty)
    (labels : List (Label (reconciliationProcess config))) (after : Config (reconciliationProcess config))
    (inTurn : Admissible (InTurn (unfailing config) (SparesPartials config)) labels
      (Config.initial (reconciliationProcess config) world mem))
    (ran : run labels (Config.initial (reconciliationProcess config) world mem) = some after)
    (allEnded : AllEnded after) : Accounted after.world.books := by
  have start : Bookkept world.books := by
    rw [blank]
    exact bookkept_empty
  have kept : Bookkept after.world.books :=
    seen_in_turn Bookkept (fun state call _ kept spares => body_keeps state call kept spares) start
      inTurn ran allEnded
  exact kept.toAccounted

def sampleReconciliation : ReconciliationConfig := ⟨some "G", "https://horizon-testnet.stellar.org"⟩

def blankWorld : ReconciliationWorld := ⟨0, Books.empty, Table.empty⟩

def blankStart : Config (reconciliationProcess sampleReconciliation) :=
  Config.initial _ blankWorld ⟨0, none⟩

/-- An invoice over 10 is opened. -/
def openingRun : List (Label (reconciliationProcess sampleReconciliation)) :=
  [.call (.createInvoice ⟨"INV", "10", "G", none, none⟩), .reply 0 .done, .reply 0 .done,
    .reply 0 .done]

/-- A payment of an amount arrives. -/
def payingRun (amount : String) : List (Label (reconciliationProcess sampleReconciliation)) :=
  [.call (.ingestTransaction ⟨"tx", none, none, "G", amount, none, none, none⟩), .reply 1 .done,
    .resume 1, .reply 1 .done, .reply 1 .done, .reply 1 .done, .reply 1 .done, .reply 1 .done]

/-- The invoice is reconciled by hand, with as many answers. -/
def manualRun (answers : Nat) : List (Label (reconciliationProcess sampleReconciliation)) :=
  .call (.manualReconcile "INV" none) :: List.replicate answers (.reply 2 .done)

/-- A partial payment is added again when the invoice is reconciled by hand. -/
theorem partial_payment_added_twice :
    ∃ after, run (openingRun ++ payingRun "4" ++ manualRun 8) blankStart = some after ∧
      Admissible (InTurn (unfailing sampleReconciliation) fun _ _ => True)
        (openingRun ++ payingRun "4" ++ manualRun 8) blankStart ∧
      AllEnded after ∧ ¬ Accounted after.world.books := by
  obtain ⟨after, ran, allEnded, twice⟩ : ∃ after,
      run (openingRun ++ payingRun "4" ++ manualRun 8) blankStart = some after ∧
        AllEnded after ∧ ¬ ((additions after.world.books).map Prod.snd).Nodup := by
    decide +kernel
  refine ⟨after, ran, by decide +kernel, allEnded, fun accounted => twice accounted.once⟩

theorem invoices_accounted_paid :
    ∃ after, run (openingRun ++ payingRun "10" ++ manualRun 4) blankStart = some after ∧
      AllEnded after ∧ Accounted after.world.books := by
  obtain ⟨after, ran, allEnded⟩ : ∃ after,
      run (openingRun ++ payingRun "10" ++ manualRun 4) blankStart = some after ∧
        AllEnded after := by
    decide +kernel
  exact ⟨after, ran, allEnded, invoices_accounted sampleReconciliation blankWorld ⟨0, none⟩ rfl
    _ after (by decide +kernel) ran allEnded⟩

end AlianStructure.Guarantees.InvoiceAccounting
