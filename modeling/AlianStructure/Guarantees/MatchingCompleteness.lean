import AlianStructure.Guarantees.InvoiceAccounting

/-!
# Which invoice a payment is matched with

Source: src/reconciliation/reconciliation.service.ts:279-345. Only the oldest invoice of the
destination is looked at, whatever its asset, reference and status.
-/
namespace AlianStructure.Guarantees.MatchingCompleteness
open Library.Interleaving Library.CallsInTurn Library.SeenInTurn
open Library.KeyedTable
open Source.Reconciliation ReconciliationService ReconciliationInTurn InvoiceAccounting

/-- An invoice that is not yet paid agrees with a transaction. -/
def AgreesOpen (books : Books) (transaction : StellarTransaction) : Prop :=
  ∃ invoice ∈ books.invoices.rows, invoice.status ≠ .paid ∧
    matchesInvoice transaction invoice = true

/-- The additions made between two states of the tables. -/
def madeSince (before after : Books) : List (String × String) :=
  (after.audits.drop before.audits.length).filterMap additionOf

/-- What matching owes to a transaction: it stays unmatched only if no open invoice agrees with it,
and is not added to a paid one while an open one agrees. -/
def MatchingMeets (before after : Books) (transactionId : String) : Prop :=
  ∀ row ∈ after.transactions.findOne transactionId,
    (row.status = .unmatched → ¬ AgreesOpen before row) ∧
    ∀ invoice ∈ before.invoices.rows, invoice.status = .paid → AgreesOpen before row →
      (invoice.invoiceId, transactionId) ∉ madeSince before after

/-- The transaction of a request, as far as matching goes. -/
def arriving (dto : IngestTransactionDto) : StellarTransaction :=
  newTransaction dto (Amount.ofUnits 0) 0

/-- A known transaction is matched or agrees with no open invoice; for a new one no open invoice
agrees, or the oldest at its destination is open and agrees. -/
def OldestSuits (books : Books) (dto : IngestTransactionDto) : Prop :=
  match books.transactions.findOne dto.transactionId with
  | some existing => existing.status ≠ .unmatched ∨ ¬ AgreesOpen books existing
  | none => ¬ AgreesOpen books (arriving dto) ∨
    ∃ invoice ∈ books.findInvoice (.oldestAt dto.destinationAccount), invoice.status ≠ .paid ∧
      matchesInvoice (arriving dto) invoice = true

instance (books : Books) (transaction : StellarTransaction) :
    Decidable (AgreesOpen books transaction) := by
  unfold AgreesOpen
  infer_instance

attribute [local instance] lawfulPairs in
instance (before after : Books) (transactionId : String) :
    Decidable (MatchingMeets before after transactionId) := by
  unfold MatchingMeets
  infer_instance

section Ingestion
variable {books after : Books} {dto : IngestTransactionDto} {transaction : StellarTransaction}
variable {audit : ReconciliationAudit}

theorem madeSince_audited {before after : Books} (grown : after.audits = before.audits ++ [audit]) :
    madeSince before after = (additionOf audit).toList := by
  unfold madeSince
  rw [grown, List.drop_left]
  cases made : additionOf audit <;> simp [made]

theorem duplicate_meets {existing : StellarTransaction} (silent : adds audit = false)
    (found : books.transactions.findOne dto.transactionId = some existing) :
    MatchingMeets books (books.writeAudit audit) dto.transactionId ↔ OldestSuits books dto := by
  have nothing : madeSince books (books.writeAudit audit) = [] := by
    rw [madeSince_audited rfl]
    simp [additionOf, silent]
  have stored : (books.writeAudit audit).transactions.findOne dto.transactionId = some existing := found
  unfold MatchingMeets OldestSuits
  rw [stored, found, nothing]
  constructor
  · intro meets
    by_cases unmatched : existing.status = .unmatched
    · exact Or.inr ((meets existing rfl).1 unmatched)
    · exact Or.inl unmatched
  · rintro suits row ⟨⟩
    refine ⟨fun unmatched => ?_, fun _ _ _ _ made => by cases made⟩
    rcases suits with matched | none
    · exact absurd unmatched matched
    · exact none

theorem unmatched_meets {amount : Amount} {now createdAt : Nat}
    (absent : books.transactions.findOne dto.transactionId = none) (silent : adds audit = false)
    (none : ∀ invoice, books.findInvoice (.oldestAt dto.destinationAccount) = some invoice →
      matchesInvoice (arriving dto) invoice = false) :
    MatchingMeets books (((books.saveTransaction (ingestedRow dto amount now createdAt)).writeAudit
      audit).saveTransaction { ingestedRow dto amount now createdAt with status := .unmatched })
      dto.transactionId ↔ OldestSuits books dto := by
  have stored := Table.findOne_save_self
    ((books.saveTransaction (ingestedRow dto amount now createdAt)).writeAudit audit).transactions
    { ingestedRow dto amount now createdAt with status := .unmatched }
  have nothing : madeSince books
      (((books.saveTransaction (ingestedRow dto amount now createdAt)).writeAudit
        audit).saveTransaction { ingestedRow dto amount now createdAt with status := .unmatched }) =
      [] := by
    rw [madeSince_audited rfl]
    simp [additionOf, silent]
  unfold MatchingMeets OldestSuits
  rw [nothing, absent]
  constructor
  · exact fun meets => Or.inl (((meets _ stored).1 rfl))
  · rintro suits row found
    obtain rfl := Option.some.inj (stored.symm.trans found)
    refine ⟨fun _ => ?_, fun _ _ _ _ made => by cases made⟩
    rcases suits with closed | ⟨invoice, oldest, _, agrees⟩
    · exact closed
    · rw [none invoice oldest] at agrees
      cases agrees

theorem applied_meets {amount : Amount} {now createdAt : Nat} {invoice : ReconciliationInvoice}
    {status : TransactionStatus} (absent : books.transactions.findOne dto.transactionId = none)
    (isAdded : adds audit = true) (invoiceIs : audit.invoiceId = some invoice.invoiceId)
    (transactionIs : audit.transactionId = some dto.transactionId)
    (oldest : books.findInvoice (.oldestAt dto.destinationAccount) = some invoice)
    (agrees : matchesInvoice (arriving dto) invoice = true) (settled : status = .matched ∨ status = .partially) :
    MatchingMeets books ((((books.saveTransaction (ingestedRow dto amount now createdAt)).saveInvoice
      (credited (ingestedRow dto amount now createdAt) invoice)).writeAudit audit).saveTransaction
      { ingestedRow dto amount now createdAt with status := status }) dto.transactionId ↔
      OldestSuits books dto := by
  have stored := Table.findOne_save_self
    (((books.saveTransaction (ingestedRow dto amount now createdAt)).saveInvoice
      (credited (ingestedRow dto amount now createdAt) invoice)).writeAudit audit).transactions
    { ingestedRow dto amount now createdAt with status := status }
  have made : madeSince books
      ((((books.saveTransaction (ingestedRow dto amount now createdAt)).saveInvoice
        (credited (ingestedRow dto amount now createdAt) invoice)).writeAudit audit).saveTransaction
        { ingestedRow dto amount now createdAt with status := status }) =
      [(invoice.invoiceId, dto.transactionId)] := by
    rw [madeSince_audited rfl]
    simp [additionOf, isAdded, invoiceIs, transactionIs]
  have listed := oldest_stored oldest
  unfold MatchingMeets OldestSuits
  rw [made, absent]
  constructor
  · intro meets
    by_cases closed : AgreesOpen books (arriving dto)
    · right
      refine ⟨invoice, oldest, fun paid => ?_, agrees⟩
      exact (meets _ stored).2 invoice listed paid closed (List.mem_singleton_self _)
    · exact Or.inl closed
  · rintro suits row found
    obtain rfl := Option.some.inj (stored.symm.trans found)
    refine ⟨fun unmatched => ?_, fun other member paid opened added => ?_⟩
    · rcases settled with rfl | rfl <;> cases unmatched
    · have same : other.invoiceId = invoice.invoiceId := by
        simpa using added
      obtain rfl := Table.eq_of_key_eq member listed same
      rcases suits with closed | ⟨suitable, found, unpaid, _⟩
      · exact closed opened
      · obtain rfl := Option.some.inj (oldest.symm.trans found)
        exact unpaid paid

/-- Whatever an ingestion does, it meets what matching owes exactly when the oldest invoice suits. -/
theorem ingested_meets (ingested : Ingested books dto after (.ok transaction)) :
    MatchingMeets books after dto.transactionId ↔ OldestSuits books dto := by
  cases ingested with
  | duplicate existing audit silent found => exact duplicate_meets silent found
  | new absent reconciled =>
    cases reconciled with
    | unmatched audit silent none => exact unmatched_meets absent silent none
    | applied invoice audit status isAdded invoiceIs transactionIs oldest agrees settled =>
      exact applied_meets absent isAdded invoiceIs transactionIs oldest agrees settled

end Ingestion

/-- A non-failing ingestion leaves its transaction unmatched only if no open invoice agrees with it,
and spares paid invoices while one does, if and only if the oldest invoice at the destination is
the one that agrees, or none does. -/
theorem matching_meets_iff (config : ReconciliationConfig)
    (c after : Config (reconciliationProcess config)) (dto : IngestTransactionDto)
    (labels : List (Label (reconciliationProcess config))) (idle : AllEnded c)
    (alone : ∀ first ∈ next c (.call (ReconciliationCall.ingestTransaction dto)),
      Admissible (Alone (unfailing config)) labels first)
    (ran : run (.call (ReconciliationCall.ingestTransaction dto) :: labels) c = some after)
    (task : Task reconciliation) (transaction : StellarTransaction) (found : after.pool[c.pool.length]? = some task)
    (ended : task.result = some (.ok (.transaction transaction))) :
    MatchingMeets c.world.books after.world.books dto.transactionId ↔ OldestSuits c.world.books dto := by
  have ends : EndsOn config c.world.books (reconciliationBody config (.ingestTransaction dto))
      fun books result => ∀ transaction, result = .ok (.transaction transaction) →
        (MatchingMeets c.world.books books dto.transactionId ↔ OldestSuits c.world.books dto) := by
    refine ends_returning (endsFrom_mono ingestTransaction_ends fun books result ingested => ?_)
    intro transaction returned
    cases result with
    | error failure => cases returned
    | ok changed => exact ingested_meets ingested
  exact ends_alone ends idle alone ran found ended transaction rfl

/-- The transaction that a call has returned. -/
def ingestedBy (task : Task reconciliation) : Option StellarTransaction :=
  match task.result with
  | some (.ok (.transaction transaction)) => some transaction
  | _ => none

theorem ingestedBy_some {task : Task reconciliation} {transaction : StellarTransaction}
    (ingested : ingestedBy task = some transaction) : task.result = some (.ok (.transaction transaction)) := by
  unfold ingestedBy at ingested
  split at ingested
  next other ended =>
    cases ingested
    exact ended
  next => cases ingested

/-- Two invoices over 10 at one account, for two references. -/
def twoInvoicesRun : List (Label (reconciliationProcess sampleReconciliation)) :=
  [.call (.createInvoice ⟨"INV-1", "10", "G", some "a", none⟩), .reply 0 .done, .reply 0 .done,
    .reply 0 .done, .env (.time 1),
    .call (.createInvoice ⟨"INV-2", "10", "G", some "b", none⟩), .reply 1 .done, .reply 1 .done,
    .reply 1 .done]

/-- A payment of 10 with a reference. -/
def referring (memo : String) : IngestTransactionDto :=
  ⟨"tx", none, none, "G", "10", none, some memo, none⟩

/-- The call begins after two others, with as many answers after the clock. -/
def arrivalRun (answers : Nat) : List (Label (reconciliationProcess sampleReconciliation)) :=
  .reply 2 .done :: .resume 2 :: List.replicate answers (.reply 2 .done)

/-- What the runs have in common with the theorem. -/
abbrev Arrives (memo : String) (answers : Nat) (c : Config (reconciliationProcess sampleReconciliation))
    (holds : Config (reconciliationProcess sampleReconciliation) → Prop) : Prop :=
  AllEnded c ∧ (∀ first ∈ next c (.call (ReconciliationCall.ingestTransaction (referring memo))),
    Admissible (Alone (unfailing sampleReconciliation)) (arrivalRun answers) first) ∧
  ∃ after, run (.call (ReconciliationCall.ingestTransaction (referring memo)) :: arrivalRun answers)
    c = some after ∧ (∃ task ∈ after.pool[c.pool.length]?, ∃ transaction ∈ ingestedBy task, True) ∧
    holds after

/-- A payment for the newer of two invoices stays unmatched: the older one hides it. -/
theorem newer_invoice_hidden :
    ∃ c, run twoInvoicesRun blankStart = some c ∧ Arrives "b" 4 c fun after =>
      ¬ MatchingMeets c.world.books after.world.books "tx" := by
  decide +kernel

theorem matching_meets_iff_oldest :
    ∃ c, run twoInvoicesRun blankStart = some c ∧ Arrives "a" 5 c fun after =>
      (MatchingMeets c.world.books after.world.books "tx" ↔
        OldestSuits c.world.books (referring "a")) := by
  obtain ⟨c, opened, idle, alone, after, ran, ⟨task, found, transaction, ingested, _⟩, _⟩ :
      ∃ c, run twoInvoicesRun blankStart = some c ∧ Arrives "a" 5 c fun _ => True := by
    decide +kernel
  exact ⟨c, opened, idle, alone, after, ran, ⟨task, found, transaction, ingested, trivial⟩,
    matching_meets_iff sampleReconciliation c after (referring "a") (arrivalRun 5) idle alone ran
      task transaction found (ingestedBy_some ingested)⟩

end AlianStructure.Guarantees.MatchingCompleteness
