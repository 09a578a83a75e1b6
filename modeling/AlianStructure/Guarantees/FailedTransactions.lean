import AlianStructure.Library.CallsAlone
import AlianStructure.Guarantees.ReconciliationInTurn

/-!
# What a failed transaction has paid

Source: src/reconciliation/reconciliation.service.ts:80-126,279-329. The invoice is saved before the audit and the
transaction are, each on its own. A failure between them leaves the amount with the invoice and the transaction failed
or unmatched.
-/
namespace AlianStructure.Guarantees.FailedTransactions
open Library.Interleaving Library.CallsAlone Library.KeyedTable
open Source Source.Reconciliation ReconciliationService ReconciliationInTurn

/-- A transaction that ends as failed or unmatched has paid nothing: no invoice has another paid amount than before. -/
def PaidNothing (before after : Books) (transactionId : String) : Prop :=
  ∀ row, after.transactions.findOne transactionId = some row → row.status = .failed ∨ row.status = .unmatched →
    ∀ invoice ∈ after.invoices.rows,
      (before.invoices.findOne invoice.invoiceId).map (·.paidAmount) = some invoice.paidAmount

instance (before after : Books) (transactionId : String) : Decidable (PaidNothing before after transactionId) :=
  inferInstanceAs (Decidable (∀ row ∈ after.transactions.findOne transactionId,
    row.status = .failed ∨ row.status = .unmatched → ∀ invoice ∈ after.invoices.rows,
      (before.invoices.findOne invoice.invoiceId).map (·.paidAmount) = some invoice.paidAmount))

/-- The invoice that an unknown transaction is added to. -/
def Credits (books : Books) (dto : IngestTransactionDto) (amount : Amount) (invoice : ReconciliationInvoice) : Prop :=
  books.transactions.findOne dto.transactionId = none ∧ normalizeAmount dto.amount = .ok amount ∧
    books.findInvoice (.oldestAt dto.destinationAccount) = some invoice ∧
    matchesInvoice (newTransaction dto amount 0) invoice = true

/-- An operation fails after the fourth, which saves the invoice. -/
def FailsAfterCredit (outcomes : List ReconciliationOutcome) : Prop :=
  outcomes.take 4 = [.done, .done, .done, .done] ∧ ∃ failure, .fails failure ∈ outcomes.drop 4

/-- What the world has decided about the operations of a call. -/
def outcomes {config : ReconciliationConfig} (happenings : List (Happening (reconciliationProcess config))) :
    List ReconciliationOutcome := answers happenings

theorem respond_fails {world after : ReconciliationWorld} {op : ReconciliationOp} {failure : Exception}
    {result : Except Exception op.Reply} (responds : world.respond op (.fails failure) = some (after, result)) :
    after = world ∧ result = .error failure := by
  cases op <;> cases responds <;> exact ⟨rfl, rfl⟩

theorem outcomes_append {config : ReconciliationConfig}
    (first second : List (Happening (reconciliationProcess config))) :
    outcomes (first ++ second) = outcomes first ++ outcomes second := answers_append first second

section Calls
variable {config : ReconciliationConfig} {α : Type} {state : ReconciliationWorld × ReconciliationMemory}
  {happenings : List (Happening (reconciliationProcess config))}
  {ended : (ReconciliationWorld × ReconciliationMemory) × Except Exception α}

theorem later_books (config : ReconciliationConfig) (state : ReconciliationWorld × ReconciliationMemory) :
    ∀ changes : List ReconciliationChange,
      (later (reconciliationProcess config) state changes).1.books = state.1.books := by
  intro changes
  induction changes generalizing state with
  | nil => rfl
  | cons change changes ih =>
    exact (ih (reconciliationEnvironment state change)).trans ((booksOf config).environment state change)

theorem asked {op : ReconciliationOp} {next : op.Reply → ReconciliationM α} (table : onTables op = true)
    (ends : finish (reconciliationProcess config) happenings state (ask op >>= next) = some ended) :
    (∃ failure, outcomes happenings = [.fails failure] ∧ ended.1.1.books = state.1.books ∧ ended.2 = .error failure) ∨
    ∃ (world : ReconciliationWorld) (middle : ReconciliationWorld × ReconciliationMemory)
      (result : Except Exception op.Reply) (rest : List (Happening (reconciliationProcess config))),
      world.books = state.1.books ∧ outcomes happenings = .done :: outcomes rest ∧
      world.respond op .done = some (middle.1, result) ∧ ((∃ reply, result = .ok reply ∧
          finish (reconciliationProcess config) rest middle (next reply) = some ended) ∨
        ∃ failure, result = .error failure ∧ outcomes rest = [] ∧ ended = (middle, .error failure)) := by
  obtain ⟨changes, outcome, world, result, rest, decided, responds, goesOn⟩ := finish_ask ends
  have same := later_books config state changes
  have reply : outcomes happenings = outcome :: outcomes rest := decided
  rw [reply]
  by_cases fails : isFailure outcome = true
  · cases outcome with
    | fails failure =>
      obtain ⟨rfl, rfl⟩ := respond_fails responds
      rcases goesOn with ⟨_, isOk, _⟩ | ⟨_, isError, rfl, rfl⟩
      · cases isOk
      · cases isError
        exact Or.inl ⟨failure, rfl, same, rfl⟩
    | _ => cases fails
  · obtain rfl := respond_done table (by simpa using fails) responds
    refine Or.inr ⟨_, (world, (later (reconciliationProcess config) state changes).2), result, rest, same, rfl,
      responds, ?_⟩
    rcases goesOn with ⟨reply, isOk, goesOn⟩ | ⟨failure, isError, rfl, isEnd⟩
    · exact Or.inl ⟨reply, isOk, goesOn⟩
    · exact Or.inr ⟨failure, isError, rfl, isEnd⟩

theorem asked_then {op : ReconciliationOp} {next : op.Reply → ReconciliationM α} (table : onTables op = true)
    {books : Books} {reply : op.Reply} (done : ∀ world : ReconciliationWorld, world.books = state.1.books →
      ∃ after, world.respond op .done = some (after, .ok reply) ∧ after.books = books)
    (ends : finish (reconciliationProcess config) happenings state (ask op >>= next) = some ended) :
    (∃ failure, outcomes happenings = [.fails failure] ∧ ended.1.1.books = state.1.books ∧ ended.2 = .error failure) ∨
    ∃ (middle : ReconciliationWorld × ReconciliationMemory) (rest : List (Happening (reconciliationProcess config))),
      outcomes happenings = .done :: outcomes rest ∧ middle.1.books = books ∧
      finish (reconciliationProcess config) rest middle (next reply) = some ended := by
  rcases asked table ends with failed | ⟨world, middle, result, rest, same, isDone, responds, goesOn⟩
  · exact Or.inl failed
  · obtain ⟨after, responded, isBooks⟩ := done world same
    cases responds.symm.trans responded
    rcases goesOn with ⟨_, isReply, goesOn⟩ | ⟨_, isError, _⟩
    · cases isReply
      exact Or.inr ⟨middle, rest, isDone, isBooks, goesOn⟩
    · cases isError

theorem audited {audit : ReconciliationAudit} {value : α}
    (ends : finish (reconciliationProcess config) happenings state (do writeAudit audit; pure value) = some ended) :
    ended.1.1.books.invoices = state.1.books.invoices ∧
      ended.1.1.books.transactions = state.1.books.transactions ∧
      ((outcomes happenings = [.done] ∧ ended.2 = .ok value) ∨
        ∃ failure, outcomes happenings = [.fails failure] ∧ ended.2 = .error failure) := by
  have asks : finish (reconciliationProcess config) happenings state
      (do ask (.insertAudit audit); pure value) = some ended := ends
  rcases asked_then rfl (fun _ same => ⟨_, rfl, congrArg (Books.writeAudit · audit) same⟩) asks with
    ⟨failure, isFailure, same, isError⟩ | ⟨middle, rest, isDone, same, goesOn⟩
  · exact ⟨congrArg Books.invoices same, congrArg Books.transactions same, Or.inr ⟨failure, isFailure, isError⟩⟩
  · obtain ⟨rfl, rfl⟩ := finish_pure goesOn
    exact ⟨(congrArg Books.invoices same).trans rfl, (congrArg Books.transactions same).trans rfl,
      Or.inl ⟨isDone, rfl⟩⟩

variable {closed : (ReconciliationWorld × ReconciliationMemory) × Except Exception StellarTransaction}

theorem stored {row : StellarTransaction}
    (ends : finish (reconciliationProcess config) happenings state
      (do ask (.saveTransaction row); pure row) = some closed) :
    closed.1.1.books.invoices = state.1.books.invoices ∧
      ((outcomes happenings = [.done] ∧ closed.1.1.books.transactions = state.1.books.transactions.save row) ∨
        ∃ failure, outcomes happenings = [.fails failure] ∧
          closed.1.1.books.transactions = state.1.books.transactions) := by
  rcases asked_then rfl (fun _ same => ⟨_, rfl, congrArg (Books.saveTransaction · row) same⟩) ends with
    ⟨failure, isFailure, same, _⟩ | ⟨middle, rest, isDone, same, goesOn⟩
  · exact ⟨congrArg Books.invoices same, Or.inr ⟨failure, isFailure, congrArg Books.transactions same⟩⟩
  · obtain ⟨rfl, rfl⟩ := finish_pure goesOn
    exact ⟨(congrArg Books.invoices same).trans rfl, Or.inl ⟨isDone, (congrArg Books.transactions same).trans rfl⟩⟩

/-- The invoice that a transaction is added to. -/
def Fits (books : Books) (transaction : StellarTransaction) (invoice : ReconciliationInvoice) : Prop :=
  books.findInvoice (.oldestAt transaction.destinationAccount) = some invoice ∧
    matchesInvoice transaction invoice = true

/-- An attempt that leaves the invoices; where one fits, something fails before it is saved. -/
structure Untouched (before after : Books) (transaction : StellarTransaction) (outcomes : List ReconciliationOutcome) :
    Prop where
  invoices : after.invoices = before.invoices
  early : ∀ invoice, Fits before transaction invoice → ∃ failure, .fails failure ∈ outcomes.take 2

variable {transaction : StellarTransaction}

theorem Untouched.goesOn {before after final : Books} {first : List ReconciliationOutcome}
    (untouched : Untouched before after transaction first) (invoices : final.invoices = after.invoices)
    (second : List ReconciliationOutcome) : Untouched before final transaction (first ++ second) := by
  refine ⟨invoices.trans untouched.invoices, fun invoice fits => ?_⟩
  obtain ⟨failure, member⟩ := untouched.early invoice fits
  refine ⟨failure, ?_⟩
  rw [List.take_append]
  exact List.mem_append_left _ member

/-- An attempt that adds the amount, with what is decided after that. -/
structure Added (before after : Books) (transaction : StellarTransaction) (invoice : ReconciliationInvoice)
    (outcomes rest : List ReconciliationOutcome) : Prop where
  fits : Fits before transaction invoice
  decided : outcomes = .done :: .done :: rest
  invoices : after.invoices = before.invoices.save (credited transaction invoice)

variable {invoice : ReconciliationInvoice}

theorem Added.goesOn {before after final : Books} {first rest : List ReconciliationOutcome}
    (added : Added before after transaction invoice first rest) (invoices : final.invoices = after.invoices)
    (second : List ReconciliationOutcome) : Added before final transaction invoice (first ++ second)
    (rest ++ second) :=
  ⟨added.fits, by rw [added.decided]; rfl, invoices.trans added.invoices⟩

theorem applied {reason : Option String}
    (ends : finish (reconciliationProcess config) happenings state (applyTo transaction invoice reason) =
      some closed) : closed.1.1.books.transactions = state.1.books.transactions ∧
      ((∃ failure, outcomes happenings = [.fails failure] ∧
          closed.1.1.books.invoices = state.1.books.invoices ∧ closed.2 = .error failure) ∨
        ∃ rest, outcomes happenings = .done :: rest ∧
          closed.1.1.books.invoices = state.1.books.invoices.save (credited transaction invoice) ∧
          ((∃ status, rest = [.done] ∧ closed.2 = .ok { transaction with status } ∧
              (status = .matched ∨ status = .partially)) ∨
            ∃ failure, rest = [.fails failure] ∧ closed.2 = .error failure)) := by
  unfold applyTo at ends
  rw [throwing_amount, throwing_amount, throwing_amount] at ends
  rcases asked_then rfl (fun _ same => ⟨_, rfl, congrArg (Books.saveInvoice · _) same⟩) ends with
    ⟨failure, isFailure, same, isError⟩ | ⟨middle, rest, isDone, same, goesOn⟩
  · exact ⟨congrArg Books.transactions same, Or.inl ⟨failure, isFailure, congrArg Books.invoices same, isError⟩⟩
  · obtain ⟨invoices, transactions, ending⟩ := audited goesOn
    refine ⟨transactions.trans ((congrArg Books.transactions same).trans rfl), Or.inr ⟨outcomes rest, isDone,
      invoices.trans ((congrArg Books.invoices same).trans rfl), ?_⟩⟩
    rcases ending with ⟨isDone, isOk⟩ | failed
    · refine Or.inl ⟨_, isDone, isOk, ?_⟩
      split
      next => exact Or.inl rfl
      next => exact Or.inr rfl
    · exact Or.inr failed

/-- What becomes of an attempt that has added the amount. -/
def Settles (transaction : StellarTransaction) (rest : List ReconciliationOutcome)
    (result : Except Exception StellarTransaction) : Prop :=
  (∃ status, rest = [.done] ∧ result = .ok { transaction with status } ∧
    (status = .matched ∨ status = .partially)) ∨
  ∃ failure, rest = [.fails failure] ∧ result = .error failure

/-- An attempt leaves the transactions, and either the invoices or one with the amount added. -/
theorem reconciled
    (ends : finish (reconciliationProcess config) happenings state (reconcileTransaction transaction none) =
      some closed) : closed.1.1.books.transactions = state.1.books.transactions ∧
      ((Untouched state.1.books closed.1.1.books transaction (outcomes happenings) ∧
          ∀ changed, closed.2 = .ok changed → changed = { transaction with status := .unmatched }) ∨
        ∃ invoice rest, Added state.1.books closed.1.1.books transaction invoice (outcomes happenings) rest ∧
          Settles transaction rest closed.2) := by
  have looks : ∀ world : ReconciliationWorld, world.books = state.1.books → ∃ after,
      world.respond (.findInvoice (.oldestAt transaction.destinationAccount)) .done =
        some (after, .ok (state.1.books.findInvoice (.oldestAt transaction.destinationAccount))) ∧
          after.books = state.1.books := by
    intro world same
    rw [← same]
    exact ⟨world, rfl, rfl⟩
  unfold reconcileTransaction at ends
  rcases asked_then rfl looks ends with ⟨failure, isFailure, same, isError⟩ | ⟨middle, rest, isDone, same, goesOn⟩
  · refine ⟨congrArg Books.transactions same, Or.inl ⟨⟨congrArg Books.invoices same, fun _ _ => ⟨failure, ?_⟩⟩, ?_⟩⟩
    · rw [isFailure]
      exact List.mem_cons_self
    · rw [isError]
      exact nofun
  · have unmatched : ∀ {invoiceId : Option String}, (∀ invoice, ¬ Fits state.1.books transaction invoice) →
        finish (reconciliationProcess config) rest middle (leaveUnmatched transaction invoiceId none) = some closed →
        closed.1.1.books.transactions = state.1.books.transactions ∧
          Untouched state.1.books closed.1.1.books transaction (outcomes happenings) ∧
          ∀ changed, closed.2 = .ok changed → changed = { transaction with status := .unmatched } := by
      intro invoiceId other ends
      obtain ⟨invoices, transactions, ending⟩ := audited ends
      rw [same] at invoices transactions
      refine ⟨transactions, ⟨invoices, fun invoice fits => absurd fits (other invoice)⟩, fun changed isOk => ?_⟩
      rcases ending with ⟨_, isValue⟩ | ⟨_, _, isError⟩
      · rw [isValue] at isOk
        exact (Except.ok.inj isOk).symm
      · rw [isError] at isOk
        cases isOk
    cases oldest : state.1.books.findInvoice (.oldestAt transaction.destinationAccount) with
    | none =>
      rw [oldest] at goesOn
      obtain ⟨transactions, left⟩ := unmatched (fun invoice fits => by cases oldest.symm.trans fits.1) goesOn
      exact ⟨transactions, Or.inl left⟩
    | some invoice =>
      rw [oldest] at goesOn
      by_cases agrees : matchesInvoice transaction invoice = true
      · simp only [agrees, if_true] at goesOn
        obtain ⟨transactions, ⟨failure, fails, invoices, isError⟩ | ⟨later, decided, invoices, settles⟩⟩ :=
          applied goesOn
        · rw [same] at transactions invoices
          refine ⟨transactions, Or.inl ⟨⟨invoices, fun _ _ => ⟨failure, ?_⟩⟩, ?_⟩⟩
          · rw [isDone, fails]
            exact List.mem_cons_of_mem _ List.mem_cons_self
          · rw [isError]
            exact nofun
        · rw [same] at transactions invoices
          exact ⟨transactions, Or.inr ⟨invoice, later, ⟨⟨oldest, agrees⟩, by rw [isDone, decided], invoices⟩, settles⟩⟩
      · simp only [agrees] at goesOn
        have other : ∀ found, ¬ Fits state.1.books transaction found := by
          intro found fits
          cases oldest.symm.trans fits.1
          exact agrees fits.2
        obtain ⟨transactions, left⟩ := unmatched other goesOn
        exact ⟨transactions, Or.inl left⟩

/-- Whether the stored transaction tells that the amount was added. -/
def Tells (rest : List ReconciliationOutcome) (status : TransactionStatus) : Prop :=
  (rest = [.done, .done] ∧ (status = .matched ∨ status = .partially)) ∨
    ((∃ failure, .fails failure ∈ rest) ∧ (status = .failed ∨ status = .unmatched))

/-- From the stored transaction on, a call either leaves the invoices, or adds the amount and tells so when nothing
fails. -/
theorem finished {saved : StellarTransaction}
    (found : state.1.books.transactions.findOne saved.transactionId = some saved)
    (unmatched : saved.status = .unmatched)
    (ends : finish (reconciliationProcess config) happenings state (do
      let changed ← tryCatch (reconcileTransaction saved none) (recordFailure saved)
      ask (.saveTransaction changed)
      pure changed) = some closed) :
    Untouched state.1.books closed.1.1.books saved (outcomes happenings) ∨
      ∃ invoice rest row, Added state.1.books closed.1.1.books saved invoice (outcomes happenings) rest ∧
        closed.1.1.books.transactions.findOne saved.transactionId = some row ∧ Tells rest row.status := by
  obtain ⟨attempt, storing, middle, result, rfl, attempts, goesOn⟩ := finish_bind ends
  obtain ⟨trying, catching, tried, answer, rfl, reconciles, handled⟩ := finish_tryCatch attempts
  obtain ⟨transactions, attempted⟩ := reconciled reconciles
  dsimp only at transactions attempted
  rw [outcomes_append, outcomes_append]
  cases answer with
  | ok changed =>
    rcases handled with ⟨_, isOk, rfl, same⟩ | ⟨_, isError, _⟩
    · cases isOk
      cases same
      rcases goesOn with ⟨_, isOk, stores⟩ | ⟨_, isError, _⟩
      · cases isOk
        obtain ⟨invoices, writing⟩ := stored stores
        rcases attempted with ⟨untouched, _⟩ | ⟨invoice, rest, added, settles⟩
        · exact Or.inl ((untouched.goesOn rfl _).goesOn invoices _)
        · rcases settles with ⟨status, rfl, isChanged, settled⟩ | ⟨_, _, isError⟩
          · cases isChanged
            rcases writing with ⟨isDone, saves⟩ | ⟨failure, fails, same⟩
            · refine Or.inr ⟨invoice, _, { saved with status }, (added.goesOn rfl _).goesOn invoices _, ?_,
                Or.inl ⟨?_, settled⟩⟩
              · rw [saves]
                exact Table.findOne_save_self _ _
              · rw [isDone]
                rfl
            · refine Or.inr ⟨invoice, _, saved, (added.goesOn rfl _).goesOn invoices _, ?_,
                Or.inr ⟨⟨failure, ?_⟩, Or.inr unmatched⟩⟩
              · rw [same, transactions, found]
              · rw [fails]
                exact List.mem_append_right _ List.mem_cons_self
          · cases isError
      · cases isError
    · cases isError
  | error failure =>
    rcases handled with ⟨_, isOk, _⟩ | ⟨_, isError, records⟩
    · cases isOk
    · cases isError
      obtain ⟨invoices, noted, ending⟩ := audited records
      dsimp only at invoices noted ending
      have kept : middle.1.books.transactions.findOne saved.transactionId = some saved := by
        rw [noted, transactions, found]
      have final : closed.1.1.books.invoices = middle.1.books.invoices ∧ ∃ row,
          closed.1.1.books.transactions.findOne saved.transactionId = some row ∧
            (row.status = .failed ∨ row.status = .unmatched) := by
        rcases ending with ⟨_, isOk⟩ | ⟨_, _, isError⟩
        · cases isOk
          rcases goesOn with ⟨_, isOk, stores⟩ | ⟨_, isError, _⟩
          · cases isOk
            obtain ⟨same, ⟨_, saves⟩ | ⟨_, _, unsaved⟩⟩ := stored stores
            · refine ⟨same, { saved with status := .failed, failureReason := some failure.message }, ?_, Or.inl rfl⟩
              rw [saves]
              exact Table.findOne_save_self _ _
            · exact ⟨same, saved, unsaved ▸ kept, Or.inr unmatched⟩
          · cases isError
        · cases isError
          rcases goesOn with ⟨_, isOk, _⟩ | ⟨_, _, _, rfl⟩
          · cases isOk
          · exact ⟨rfl, saved, kept, Or.inr unmatched⟩
      obtain ⟨same, row, isRow, status⟩ := final
      rcases attempted with ⟨untouched, _⟩ | ⟨invoice, rest, added, settles⟩
      · exact Or.inl ((untouched.goesOn invoices _).goesOn same _)
      · rcases settles with ⟨_, _, isOk, _⟩ | ⟨reported, rfl, _⟩
        · cases isOk
        · exact Or.inr ⟨invoice, _, row, (added.goesOn invoices _).goesOn same _, isRow,
            Or.inr ⟨⟨reported, List.mem_cons_self⟩, status⟩⟩

/-- A call that adds its amount to no invoice. -/
structure Passes (before after : Books) (dto : IngestTransactionDto) (outcomes : List ReconciliationOutcome) : Prop where
  invoices : after.invoices = before.invoices
  early : ∀ amount invoice, Credits before dto amount invoice → outcomes.take 4 ≠ [.done, .done, .done, .done]

/-- A call that adds its amount, with what is stored in the end. -/
structure Pays (before after : Books) (dto : IngestTransactionDto) (outcomes : List ReconciliationOutcome)
    (amount : Amount) (invoice : ReconciliationInvoice) (row : StellarTransaction) : Prop where
  credits : Credits before dto amount invoice
  decided : outcomes.take 4 = [.done, .done, .done, .done]
  invoices : after.invoices = before.invoices.save (credited (newTransaction dto amount 0) invoice)
  found : after.transactions.findOne dto.transactionId = some row
  tells : Tells (outcomes.drop 4) row.status

theorem ingested {dto : IngestTransactionDto}
    (ends : finish (reconciliationProcess config) happenings state (ingestTransaction dto) = some closed) :
    Passes state.1.books closed.1.1.books dto (outcomes happenings) ∨
      ∃ amount invoice row, Pays state.1.books closed.1.1.books dto (outcomes happenings) amount invoice row := by
  have looks : ∀ world : ReconciliationWorld, world.books = state.1.books → ∃ after,
      world.respond (.findTransaction dto.transactionId) .done =
        some (after, .ok (state.1.books.transactions.findOne dto.transactionId)) ∧ after.books = state.1.books := by
    intro world same
    rw [← same]
    exact ⟨world, rfl, rfl⟩
  unfold ingestTransaction at ends
  rcases asked_then rfl looks ends with ⟨failure, fails, same, _⟩ | ⟨middle, rest, isDone, same, goesOn⟩
  · refine Or.inl ⟨congrArg Books.invoices same, fun _ _ _ => ?_⟩
    rw [fails]
    exact nofun
  cases existing : state.1.books.transactions.findOne dto.transactionId with
  | some transaction =>
    rw [existing] at goesOn
    obtain ⟨invoices, _, _⟩ := audited goesOn
    refine Or.inl ⟨invoices.trans (congrArg Books.invoices same), fun _ _ credits => ?_⟩
    cases existing.symm.trans credits.1
  | none =>
    rw [existing] at goesOn
    cases normalized : normalizeAmount dto.amount with
    | error failure =>
      rw [normalized] at goesOn
      obtain ⟨rfl, rfl⟩ := finish_done goesOn
      refine Or.inl ⟨congrArg Books.invoices same, fun _ _ credits => ?_⟩
      cases normalized.symm.trans credits.2.1
    | ok amount =>
      rw [normalized] at goesOn
      have inserts : finish (reconciliationProcess config) rest middle (do
          let saved ← ask (.insertTransaction (newTransaction dto amount middle.2.now))
          let changed ← tryCatch (reconcileTransaction saved none) (recordFailure saved)
          ask (.saveTransaction changed)
          pure changed) = some closed := (finish_get (S := reconciliationProcess config)).symm.trans goesOn
      rcases asked rfl inserts with ⟨failure, fails, unchanged, _⟩ |
        ⟨world, stored, result, rest', here, isInserted, responds, inserted⟩
      · refine Or.inl ⟨congrArg Books.invoices (unchanged.trans same), fun _ _ _ => ?_⟩
        rw [isDone, fails]
        exact nofun
      · rw [same] at here
        obtain ⟨saved, isSaved⟩ : ∃ saved, saved = ingestedRow dto amount middle.2.now world.now := ⟨_, rfl⟩
        have isStored : stored.1.books = state.1.books.saveTransaction saved ∧ result = .ok saved := by
          have fresh : world.books.transactions.findOne (newTransaction dto amount middle.2.now).transactionId = none :=
            (congrArg (fun books : Books => books.transactions.findOne dto.transactionId) here).trans existing
          simp only [ReconciliationWorld.respond, fresh, Option.isSome_none, Bool.false_eq_true, if_false,
            Option.some.injEq, Prod.mk.injEq] at responds
          rw [← responds.1, ← responds.2, ← here, isSaved]
          exact ⟨rfl, rfl⟩
        obtain ⟨books, rfl⟩ := isStored
        rcases inserted with ⟨_, isOk, goesOn⟩ | ⟨_, isError, _⟩
        · cases isOk
          have named : saved.transactionId = dto.transactionId := by rw [isSaved]; rfl
          have found : stored.1.books.transactions.findOne saved.transactionId = some saved := by
            rw [books]
            exact Table.findOne_save_self _ _
          have fits : ∀ invoice, Fits stored.1.books saved invoice ↔ Credits state.1.books dto amount invoice := by
            intro invoice
            rw [books, isSaved]
            exact ⟨fun fits => ⟨existing, normalized, fits⟩, fun credits => credits.2.2⟩
          rcases finished found (by rw [isSaved]; rfl) goesOn with untouched | ⟨invoice, later, row, added, isRow, tells⟩
          · refine Or.inl ⟨untouched.invoices.trans ((congrArg Books.invoices books).trans rfl), fun other invoice credits => ?_⟩
            obtain rfl : amount = other := Except.ok.inj (normalized.symm.trans credits.2.1)
            obtain ⟨failure, member⟩ := untouched.early invoice ((fits invoice).mpr credits)
            rw [isDone, isInserted]
            intro all
            have two : (outcomes rest').take 2 = [.done, .done] := by simpa using all
            rw [two] at member
            simp at member
          · refine Or.inr ⟨amount, invoice, row, (fits invoice).mp added.fits, ?_, ?_, named ▸ isRow, ?_⟩
            · rw [isDone, isInserted, added.decided]
              rfl
            · rw [added.invoices, books, isSaved]
              rfl
            · rw [isDone, isInserted, added.decided]
              exact tells
        · cases isError

end Calls

theorem findInvoice_mem {books : Books} {query : InvoiceQuery} (found : books.findInvoice query = some invoice) :
    invoice ∈ books.invoices.rows := by
  cases query with
  | invoiceId id => exact Table.findOne_mem found
  | oldestAt destinationAccount =>
    have member := List.mem_of_head? found
    rw [List.mem_insertionSort] at member
    exact (List.mem_filter.mp member).1

theorem ofUnits_units (amount : Amount) : Amount.ofUnits amount.units = amount := by
  obtain ⟨text, units, rfl⟩ := amount
  exact congrArg Amount.ofUnits (Amount.units_ofUnits units)

/-- A transaction that has added something tells so when nothing fails after that. -/
theorem Pays.paidNothing_iff {before after : Books} {dto : IngestTransactionDto}
    {outcomes : List ReconciliationOutcome}
    {amount : Amount} {row : StellarTransaction} (pays : Pays before after dto outcomes amount invoice row) :
    PaidNothing before after dto.transactionId ↔
      ¬ (0 < amount.units ∧ ∃ failure, .fails failure ∈ outcomes.drop 4) := by
  have stored := Table.findOne_of_mem (findInvoice_mem pays.credits.2.2.1)
  rcases pays.tells with ⟨done, status⟩ | ⟨fails, status⟩
  · refine iff_of_true (fun found isFound failed => ?_) ?_
    · cases isFound.symm.trans pays.found
      rcases status with same | same <;> rw [same] at failed <;> rcases failed with other | other <;> cases other
    · rintro ⟨_, failure, member⟩
      rw [done] at member
      simp at member
  · constructor
    · rintro nothing ⟨positive, _⟩
      have isCredited : credited (newTransaction dto amount 0) invoice ∈ after.invoices.rows := by
        rw [pays.invoices]
        exact Table.mem_save.mpr (Or.inl rfl)
      have same := nothing row pays.found status _ isCredited
      rw [show (credited (newTransaction dto amount 0) invoice).invoiceId = invoice.invoiceId from rfl, stored] at same
      have units : invoice.paidAmount.units = (credited (newTransaction dto amount 0) invoice).paidAmount.units :=
        congrArg Amount.units (Option.some.inj same)
      rw [show (credited (newTransaction dto amount 0) invoice).paidAmount =
        Amount.ofUnits (invoice.paidAmount.units + amount.units) from rfl, Amount.units_ofUnits] at units
      omega
    · intro harmless found isFound _ other member
      have free : amount.units = 0 := by
        by_contra some
        exact harmless ⟨Nat.pos_of_ne_zero some, fails⟩
      rw [pays.invoices] at member
      rcases Table.mem_save.mp member with rfl | ⟨old, _⟩
      · have same : (credited (newTransaction dto amount 0) invoice).paidAmount = invoice.paidAmount := by
          rw [show (credited (newTransaction dto amount 0) invoice).paidAmount =
            Amount.ofUnits (invoice.paidAmount.units + amount.units) from rfl, free, Nat.add_zero, ofUnits_units]
        rw [same, show (credited (newTransaction dto amount 0) invoice).invoiceId = invoice.invoiceId from rfl, stored]
        rfl
      · rw [Table.findOne_of_mem old]
        rfl

def sampleConfig : ReconciliationConfig := ⟨none, "https://horizon-testnet.stellar.org"⟩

def invoiced : ReconciliationWorld × ReconciliationMemory :=
  (⟨0, ⟨Table.empty.save ⟨"INV", Amount.ofUnits 100000000, Amount.ofUnits 0, "XLM", "G", none, .opened, 0⟩,
    Table.empty, []⟩, Table.empty⟩, ⟨0, none⟩)

def payment : IngestTransactionDto := ⟨"a", none, none, "G", "4", none, none, none⟩

/-- The answers to a call, as operations are done or fail. -/
def replies (decided : List ReconciliationOutcome) : List (Happening (reconciliationProcess sampleConfig)) :=
  decided.map .reply

end AlianStructure.Guarantees.FailedTransactions
