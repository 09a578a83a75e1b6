import AlianStructure.Library.SeenInTurn
import AlianStructure.Source.Reconciliation.ReconciliationService

/-!
# The reconciliation methods, one call at a time

Source: src/reconciliation/reconciliation.service.ts. What a method does to the three tables
when it has them to itself and no operation fails.
-/
namespace AlianStructure.Guarantees.ReconciliationInTurn
open Library.Interleaving Library.CallsInTurn Library.SeenInTurn
open Source Source.Reconciliation ReconciliationService

def isFailure : ReconciliationOutcome → Bool
  | .fails _ => true
  | _ => false

/-- The operations that only the tables answer. -/
def onTables : ReconciliationOp → Bool
  | .fetchPayments _ _ _ => false
  | _ => true

variable {op : ReconciliationOp}

theorem respond_done {world : ReconciliationWorld} {outcome : ReconciliationOutcome}
    {answer : ReconciliationWorld × Except Exception op.Reply} (table : onTables op = true)
    (unfailing : isFailure outcome = false) (responds : world.respond op outcome = some answer) :
    outcome = .done := by
  cases outcome with
  | done => rfl
  | fails failure => cases unfailing
  | page start count =>
    cases op with
    | fetchPayments baseUrl account cursor => cases table
    | _ => cases responds
  | status code =>
    cases op with
    | fetchPayments baseUrl account cursor => cases table
    | _ => cases responds

/-- The operations that change no table. -/
def reads : ReconciliationOp → Bool
  | .findInvoice _ | .findTransaction _ | .findTransactions _ | .findAudits _
  | .fetchPayments _ _ _ => true
  | _ => false

theorem respond_reads {world after : ReconciliationWorld} {outcome : ReconciliationOutcome}
    {result : Except Exception op.Reply} (reading : reads op = true)
    (responds : world.respond op outcome = some (after, result)) : after.books = world.books := by
  unfold ReconciliationWorld.respond at responds
  split at responds
  case h_10 =>
    split at responds
    next => cases responds
    next =>
      cases responds
      rfl
  case h_13 => cases responds
  all_goals first
    | (cases responds; rfl)
    | cases reading

section Methods
variable {config : ReconciliationConfig} {α : Type}

/-- The tables, as a part of the state. -/
def booksOf (config : ReconciliationConfig) : Part (reconciliationProcess config) Books where
  seen state := state.1.books
  environment state change := by
    cases change with
    | payment record =>
      simp only [reconciliationEnvironment]
      split
      next => rfl
      next => rfl
    | _ => rfl

/-- No operation fails. -/
def unfailing (config : ReconciliationConfig) : Fairness (reconciliationProcess config) :=
  fun _ outcome => isFailure outcome = false

instance (config : ReconciliationConfig) (op : ReconciliationOp) (outcome : ReconciliationOutcome) :
    Decidable (unfailing config op outcome) :=
  inferInstanceAs (Decidable (isFailure outcome = false))

abbrev EndsOn (config : ReconciliationConfig) (books : Books) (program : ReconciliationM α)
    (post : Books → Except Exception α → Prop) : Prop :=
  EndsFrom (booksOf config) (unfailing config) books program post

variable {books : Books} {post : Books → Except Exception α → Prop}

theorem ends_ask_then {next : op.Reply → ReconciliationM α} (table : onTables op = true)
    (answers : ∀ world : ReconciliationWorld, world.books = books → ∃ after reply,
      world.respond op .done = some (after, .ok reply) ∧ EndsOn config after.books (next reply) post) :
    EndsOn config books (ask op >>= next) post := by
  have asked : EndsOn config books (ask op) fun after result =>
      ∃ reply, result = .ok reply ∧ EndsOn config after (next reply) post :=
    endsFrom_perform fun state outcome world result here isFair responds => by
      obtain rfl := respond_done table isFair responds
      obtain ⟨after, reply, answered, ends⟩ := answers state.1 here
      cases answered.symm.trans responds
      exact ⟨reply, rfl, ends⟩
  refine endsFrom_bind asked (fun after reply ended => ?_) fun after failure ended => ?_
  · obtain ⟨_, isOk, ends⟩ := ended
    cases isOk
    exact ends
  · obtain ⟨_, impossible, _⟩ := ended
    cases impossible

theorem ends_reading {post : Books → Prop} (reading : reads op = true) (here : post books) :
    EndsOn config books (ask op) fun after _ => post after :=
  endsFrom_perform fun state outcome world result before _ responds => by
    have same : world.books = books := (respond_reads reading responds).trans before
    show post world.books
    rw [same]
    exact here

theorem ends_findInvoice {query : InvoiceQuery} {next : Option ReconciliationInvoice → ReconciliationM α}
    (rest : EndsOn config books (next (books.findInvoice query)) post) :
    EndsOn config books (ask (.findInvoice query) >>= next) post :=
  ends_ask_then rfl fun _ here => ⟨_, _, rfl, here ▸ rest⟩

theorem ends_findTransaction {transactionId : String} {next : Option StellarTransaction → ReconciliationM α}
    (rest : EndsOn config books (next (books.transactions.findOne transactionId)) post) :
    EndsOn config books (ask (.findTransaction transactionId) >>= next) post :=
  ends_ask_then rfl fun _ here => ⟨_, _, rfl, here ▸ rest⟩

theorem ends_findTransactions {query : TransactionsQuery} {next : List StellarTransaction → ReconciliationM α}
    (rest : EndsOn config books (next (books.findTransactions query)) post) :
    EndsOn config books (ask (.findTransactions query) >>= next) post :=
  ends_ask_then rfl fun _ here => ⟨_, _, rfl, here ▸ rest⟩

theorem ends_findAudits {query : AuditsQuery} {next : List ReconciliationAudit → ReconciliationM α}
    (rest : EndsOn config books (next (books.findAudits query)) post) :
    EndsOn config books (ask (.findAudits query) >>= next) post :=
  ends_ask_then rfl fun _ here => ⟨_, _, rfl, here ▸ rest⟩

variable {invoice : ReconciliationInvoice} {next : Unit → ReconciliationM α}

theorem ends_saveInvoice (rest : EndsOn config (books.saveInvoice invoice) (next ()) post) :
    EndsOn config books (ask (.saveInvoice invoice) >>= next) post :=
  ends_ask_then rfl fun _ here => ⟨_, _, rfl, here ▸ rest⟩

theorem ends_saveTransaction {row : StellarTransaction}
    (rest : EndsOn config (books.saveTransaction row) (next ()) post) :
    EndsOn config books (ask (.saveTransaction row) >>= next) post :=
  ends_ask_then rfl fun _ here => ⟨_, _, rfl, here ▸ rest⟩

theorem ends_writeAudit {audit : ReconciliationAudit} (rest : EndsOn config (books.writeAudit audit) (next ()) post) :
    EndsOn config books (writeAudit audit >>= next) post :=
  have asked : EndsOn config books (ask (.insertAudit audit) >>= next) post :=
    ends_ask_then rfl fun _ here => ⟨_, _, rfl, here ▸ rest⟩
  asked

theorem ends_insertInvoice {next : ReconciliationInvoice → ReconciliationM α}
    (new : books.invoices.findOne invoice.invoiceId = none)
    (rest : ∀ now, EndsOn config (books.saveInvoice { invoice with createdAt := now })
      (next { invoice with createdAt := now }) post) :
    EndsOn config books (ask (.insertInvoice invoice) >>= next) post := by
  refine ends_ask_then rfl fun world here => ?_
  subst here
  refine ⟨{ world with books := world.books.saveInvoice { invoice with createdAt := world.now } },
    { invoice with createdAt := world.now }, ?_, rest world.now⟩
  simp only [ReconciliationWorld.respond, new]
  rfl

theorem ends_insertTransaction {row : StellarTransaction} {next : StellarTransaction → ReconciliationM α}
    (new : books.transactions.findOne row.transactionId = none)
    (rest : ∀ now, EndsOn config (books.saveTransaction { row with createdAt := now })
      (next { row with createdAt := now }) post) :
    EndsOn config books (ask (.insertTransaction row) >>= next) post := by
  refine ends_ask_then rfl fun world here => ?_
  subst here
  refine ⟨{ world with books := world.books.saveTransaction { row with createdAt := world.now } },
    { row with createdAt := world.now }, ?_, rest world.now⟩
  simp only [ReconciliationWorld.respond, new]
  rfl

theorem ends_clock_then {next : Nat → ReconciliationM α} (rest : ∀ now, EndsOn config books (next now) post) :
    EndsOn config books (clock >>= next) post := by
  rintro state rfl later waits
  exact rest later.2.now later ((booksOf config).waits waits)

theorem ends_returning {value : α → ReconciliationValue} {program : ReconciliationM α}
    {post : Books → Except Exception ReconciliationValue → Prop}
    (ends : EndsOn config books program fun after result => post after (result.map value)) :
    EndsOn config books (returning value program) post :=
  endsFrom_bind ends (fun _ _ ended => endsFrom_pure ended) fun _ _ ended => ended

/-- An invoice with the amount of a transaction added. -/
def credited (transaction : StellarTransaction) (invoice : ReconciliationInvoice) :
    ReconciliationInvoice :=
  { invoice with
    paidAmount := Amount.ofUnits (invoice.paidAmount.units + transaction.amount.units)
    status :=
      if decide (invoice.expectedAmount.units ≤ invoice.paidAmount.units + transaction.amount.units)
      then .paid else .partially }

/-- An audit that an amount was added to an invoice. -/
def adds (audit : ReconciliationAudit) : Bool :=
  decide (audit.decision = .matched) || decide (audit.decision = .partially)

/-- What reconcileTransaction does to the tables and to the transaction. -/
inductive Reconciled (books : Books) (transaction : StellarTransaction) :
    Books → StellarTransaction → Prop where
  | unmatched (audit : ReconciliationAudit) (silent : adds audit = false)
      (none : ∀ invoice, books.findInvoice (.oldestAt transaction.destinationAccount) = some invoice →
        matchesInvoice transaction invoice = false) :
      Reconciled books transaction (books.writeAudit audit) { transaction with status := .unmatched }
  | applied (invoice : ReconciliationInvoice) (audit : ReconciliationAudit)
      (status : TransactionStatus) (isAdded : adds audit = true)
      (invoiceIs : audit.invoiceId = some invoice.invoiceId)
      (transactionIs : audit.transactionId = some transaction.transactionId)
      (oldest : books.findInvoice (.oldestAt transaction.destinationAccount) = some invoice)
      (agrees : matchesInvoice transaction invoice = true)
      (settled : status = .matched ∨ status = .partially) :
      Reconciled books transaction
        ((books.saveInvoice (credited transaction invoice)).writeAudit audit)
        { transaction with status := status }

theorem throwing_amount {amount : Amount} {next : Nat → ReconciliationM α} :
    (throwing (toUnits amount.text) >>= next) = next amount.units := by
  rw [amount.toUnits_text]
  rfl

variable {transaction : StellarTransaction}

theorem leaveUnmatched_ends {invoiceId reason : Option String}
    (none : ∀ invoice, books.findInvoice (.oldestAt transaction.destinationAccount) = some invoice →
        matchesInvoice transaction invoice = false) :
    EndsOn config books (leaveUnmatched transaction invoiceId reason) fun after result =>
      ∃ changed, result = .ok changed ∧ Reconciled books transaction after changed := by
  refine ends_writeAudit (endsFrom_pure ⟨_, rfl, ?_⟩)
  exact .unmatched _ rfl none

theorem applyTo_ends {reason : Option String}
    (oldest : books.findInvoice (.oldestAt transaction.destinationAccount) = some invoice)
    (agrees : matchesInvoice transaction invoice = true) :
    EndsOn config books (applyTo transaction invoice reason) fun after result =>
      ∃ changed, result = .ok changed ∧ Reconciled books transaction after changed := by
  unfold applyTo
  rw [throwing_amount, throwing_amount, throwing_amount]
  refine ends_saveInvoice (ends_writeAudit (endsFrom_pure ⟨_, rfl, ?_⟩))
  refine Reconciled.applied invoice _ _ ?_ ?_ ?_ oldest agrees ?_
  · unfold adds
    split <;> rfl
  · rfl
  · rfl
  · split
    next => exact Or.inl rfl
    next => exact Or.inr rfl

theorem reconcileTransaction_ends {reason : Option String} :
    EndsOn config books (reconcileTransaction transaction reason) fun after result =>
      ∃ changed, result = .ok changed ∧ Reconciled books transaction after changed := by
  refine ends_findInvoice ?_
  cases oldest : books.findInvoice (.oldestAt transaction.destinationAccount) with
  | none => exact leaveUnmatched_ends fun _ found => by cases oldest.symm.trans found
  | some invoice =>
    by_cases agrees : matchesInvoice transaction invoice = true
    · simp only [agrees, if_true]
      exact applyTo_ends oldest agrees
    · simp only [agrees]
      refine leaveUnmatched_ends fun other found => ?_
      cases oldest.symm.trans found
      simpa using agrees

/-- The tables after a transaction is reconciled and saved. -/
inductive Settled (books : Books) (transaction : StellarTransaction) : Books → Prop where
  | saved {middle : Books} {changed : StellarTransaction}
      (reconciled : Reconciled books transaction middle changed) :
      Settled books transaction (middle.saveTransaction changed)

/-- The tables after the candidates for an invoice are reconciled one after the other. -/
inductive SettledEach (invoice : ReconciliationInvoice) :
    Books → List StellarTransaction → Books → Prop where
  | done (books : Books) : SettledEach invoice books [] books
  | other {books after : Books} {transaction : StellarTransaction} {rest : List StellarTransaction}
      (differs : matchesInvoice transaction invoice = false)
      (later : SettledEach invoice books rest after) :
      SettledEach invoice books (transaction :: rest) after
  | settled {books middle after : Books} {transaction : StellarTransaction}
      {rest : List StellarTransaction} (agrees : matchesInvoice transaction invoice = true)
      (first : Settled books transaction middle) (later : SettledEach invoice middle rest after) :
      SettledEach invoice books (transaction :: rest) after

theorem reconcileEach_ends {reason : String} :
    ∀ {candidates : List StellarTransaction} {books : Books},
      EndsOn config books (reconcileEach invoice reason candidates) fun after result =>
        result = .ok () ∧ SettledEach invoice books candidates after
  | [], books => endsFrom_pure ⟨rfl, .done books⟩
  | transaction :: rest, books => by
    unfold reconcileEach
    by_cases agrees : matchesInvoice transaction invoice = true
    · simp only [agrees, if_true]
      refine endsFrom_bind reconcileTransaction_ends ?_ ?_
      · rintro middle changed ⟨_, isOk, reconciled⟩
        cases isOk
        refine ends_saveTransaction (endsFrom_mono reconcileEach_ends ?_)
        rintro after result ⟨isOk, later⟩
        exact ⟨isOk, .settled agrees (.saved reconciled) later⟩
      · rintro _ _ ⟨_, impossible, _⟩
        cases impossible
    · simp only [agrees]
      refine endsFrom_mono reconcileEach_ends ?_
      rintro after result ⟨isOk, later⟩
      exact ⟨isOk, .other (by simpa using agrees) later⟩

/-- A stored row of a request, as of the times of the process and the database. -/
def ingestedRow (dto : IngestTransactionDto) (amount : Amount) (now createdAt : Nat) :
    StellarTransaction :=
  { newTransaction dto amount now with createdAt := createdAt }

/-- What ingestTransaction does to the tables and returns. -/
inductive Ingested (books : Books) (dto : IngestTransactionDto) :
    Books → Except Exception StellarTransaction → Prop where
  | duplicate (existing : StellarTransaction) (audit : ReconciliationAudit)
      (silent : adds audit = false)
      (found : books.transactions.findOne dto.transactionId = some existing) :
      Ingested books dto (books.writeAudit audit) (.ok existing)
  | invalid (failure : Exception) (absent : books.transactions.findOne dto.transactionId = none) :
      Ingested books dto books (.error failure)
  | new {amount : Amount} {now createdAt : Nat} {middle : Books} {changed : StellarTransaction}
      (absent : books.transactions.findOne dto.transactionId = none)
      (reconciled : Reconciled (books.saveTransaction (ingestedRow dto amount now createdAt))
        (ingestedRow dto amount now createdAt) middle changed) :
      Ingested books dto (middle.saveTransaction changed) (.ok changed)

theorem ingestTransaction_ends {dto : IngestTransactionDto} :
    EndsOn config books (ingestTransaction dto) (Ingested books dto) := by
  refine ends_findTransaction ?_
  cases existing : books.transactions.findOne dto.transactionId with
  | some transaction =>
    exact ends_writeAudit (endsFrom_pure (.duplicate transaction _ rfl existing))
  | none =>
    simp only
    cases normalizeAmount dto.amount with
    | error failure => exact endsFrom_throw (.invalid failure existing)
    | ok amount =>
      refine ends_clock_then fun now => ends_insertTransaction existing fun createdAt => ?_
      have settles : EndsOn config (books.saveTransaction (ingestedRow dto amount now createdAt))
          (tryCatch (reconcileTransaction (ingestedRow dto amount now createdAt) none)
            (recordFailure (ingestedRow dto amount now createdAt))) fun after result =>
          ∃ changed, result = .ok changed ∧
            Reconciled (books.saveTransaction (ingestedRow dto amount now createdAt))
              (ingestedRow dto amount now createdAt) after changed := by
        refine endsFrom_tryCatch reconcileTransaction_ends ?_ fun _ _ ended => ended
        rintro _ _ ⟨_, impossible, _⟩
        cases impossible
      refine endsFrom_bind settles ?_ ?_
      · rintro after changed ⟨_, isOk, reconciled⟩
        cases isOk
        exact ends_saveTransaction (endsFrom_pure (.new existing reconciled))
      · rintro _ _ ⟨_, impossible, _⟩
        cases impossible

end Methods

end AlianStructure.Guarantees.ReconciliationInTurn
