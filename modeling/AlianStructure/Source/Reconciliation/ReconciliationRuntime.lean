import Mathlib.Data.List.Sort
import AlianStructure.Library.DecimalText
import AlianStructure.Source.Common.BigIntText
import AlianStructure.Source.Exception
import AlianStructure.Library.Interleaving
import AlianStructure.Library.KeyedTable

/-!
# Amounts with seven decimals and the runtime of the reconciliation

Source: src/reconciliation/reconciliation.service.ts:23-24,352-374. Texts are taken apart as
lists of characters.
-/
namespace AlianStructure.Source.Reconciliation
open Library.DecimalText

def SCALE : Nat := 7

def SCALE_FACTOR : Nat := 10 ^ SCALE

/-- `\d+` -/
def isNumber (text : List Char) : Bool := ! text.isEmpty && text.all Char.isDigit

/-- `/^\d+(\.\d+)?$/`, on the text before the first dot and the rest with it. -/
def isAmount (whole rest : List Char) : Bool :=
  isNumber whole && (rest.isEmpty || isNumber rest.tail)

/-- The units of an amount; decimals beyond the seventh are cut off. -/
def toUnits (value : String) : Except Exception Nat :=
  let normalized := Common.trim value.toList
  let whole := normalized.takeWhile fun c => c != '.'
  let rest := normalized.dropWhile fun c => c != '.'
  if ! isAmount whole rest then .error (.error ("Invalid Stellar amount: " ++ value))
  else .ok (Nat.ofDigitChars 10 whole 0 * SCALE_FACTOR +
    Nat.ofDigitChars 10 ((rest.tail ++ List.replicate SCALE '0').take SCALE) 0)

def fromUnits (units : Nat) : String :=
  String.ofList (Nat.toDigits 10 (units / SCALE_FACTOR) ++
    '.' :: (Nat.toDigits 10 (units % SCALE_FACTOR)).leftpad SCALE '0')

/-- A text as the service makes it and a numeric column with seven decimals gives it back. -/
structure Amount where
  text : String
  written : ∃ units, fromUnits units = text
  deriving DecidableEq

def Amount.ofUnits (units : Nat) : Amount := ⟨fromUnits units, units, rfl⟩

def normalizeAmount (value : String) : Except Exception Amount := do
  let units ← toUnits value
  pure (Amount.ofUnits units)

/-! ## Reading back -/

theorem trim_digits {text : List Char} (first : ∀ c ∈ text.head?, Common.isBlank c = false)
    (last : ∀ c ∈ text.getLast?, Common.isBlank c = false) : Common.trim text = text := by
  have start : text.dropWhile Common.isBlank = text := by
    cases text with
    | nil => rfl
    | cons c rest => exact List.dropWhile_cons_of_neg (by simp [first c rfl])
  unfold Common.trim
  rw [start]
  have backwards : text.reverse.dropWhile Common.isBlank = text.reverse := by
    cases reversed : text.reverse with
    | nil => rfl
    | cons c rest =>
      have ends : text.getLast? = some c := by
        rw [List.getLast?_eq_head?_reverse, reversed]
        rfl
      exact List.dropWhile_cons_of_neg (by simp [last c ends])
  rw [backwards, List.reverse_reverse]

theorem isDigit_not_blank {c : Char} (digit : c.isDigit = true) : Common.isBlank c = false := by
  have range : 48 ≤ c.toNat ∧ c.toNat ≤ 57 := by
    simp only [Char.isDigit, Bool.and_eq_true, decide_eq_true_eq] at digit
    exact ⟨digit.1, digit.2⟩
  simp only [Common.isBlank, List.contains_eq_mem, List.mem_cons, List.not_mem_nil, or_false, Bool.or_eq_false_iff,
    Bool.and_eq_false_imp, decide_eq_true_eq, decide_eq_false_iff_not]
  omega

theorem isNumber_iff {text : List Char} : isNumber text = true ↔ text ≠ [] ∧ ∀ c ∈ text, c.isDigit = true := by
  simp [isNumber]

theorem trim_text (d : Decimal) : Common.trim d.text = d.text := by
  refine trim_digits (fun c first => ?_) fun c last => ?_
  · rw [Decimal.text, List.head?_append_of_ne_nil _ d.filled] at first
    exact isDigit_not_blank (d.wholeDigits c (List.mem_of_head? first))
  · by_cases none_behind : d.fraction = []
    · rw [Decimal.text, if_pos none_behind, List.append_nil] at last
      exact isDigit_not_blank (d.wholeDigits c (List.mem_of_getLast? last))
    · rw [Decimal.text, if_neg none_behind, List.getLast?_append_of_ne_nil _ (List.cons_ne_nil _ _),
        List.getLast?_cons_of_ne_nil none_behind] at last
      exact isDigit_not_blank (d.fractionDigits c (List.mem_of_getLast? last))

/-- The pattern accepts the texts of decimals. -/
theorem isAmount_iff (text : List Char) :
    isAmount (text.takeWhile fun c => c != '.') (text.dropWhile fun c => c != '.') = true ↔
      ∃ d : Decimal, text = d.text := by
  constructor
  · intro accepted
    obtain ⟨whole, rest⟩ := Bool.and_eq_true_iff.mp accepted
    obtain ⟨filled, wholeDigits⟩ := isNumber_iff.mp whole
    have parts := List.takeWhile_append_dropWhile (p := fun c => c != '.') (l := text)
    cases behind : text.dropWhile fun c => c != '.' with
    | nil =>
      refine ⟨⟨_, [], filled, wholeDigits, nofun⟩, ?_⟩
      rw [behind] at parts
      exact parts.symm
    | cons point fraction =>
      rw [behind] at rest parts
      have number : isNumber fraction = true := (Bool.or_eq_true_iff.mp rest).resolve_left (by simp)
      obtain ⟨some_behind, fractionDigits⟩ := isNumber_iff.mp number
      have isPoint : point = '.' := by
        have stopped := List.head?_dropWhile_not (fun c => c != '.') text
        rw [behind] at stopped
        simpa using stopped
      subst isPoint
      refine ⟨⟨_, fraction, filled, wholeDigits, fractionDigits⟩, ?_⟩
      dsimp only [Decimal.text]
      rw [if_neg some_behind]
      exact parts.symm
  · rintro ⟨d, rfl⟩
    rw [d.text_takeWhile, d.text_dropWhile, isAmount, isNumber_iff.mpr ⟨d.filled, d.wholeDigits⟩, Bool.true_and]
    by_cases none_behind : d.fraction = []
    · rw [if_pos none_behind]
      rfl
    · rw [if_neg none_behind, List.tail_cons, isNumber_iff.mpr ⟨none_behind, d.fractionDigits⟩, Bool.or_true]

/-- The units of a decimal are its digits up to the seventh decimal. -/
theorem toUnits_of_text {value : String} {d : Decimal} (reads : Common.trim value.toList = d.text) :
    toUnits value = .ok (d.cut SCALE) := by
  have accepted := (isAmount_iff d.text).mpr ⟨d, rfl⟩
  unfold toUnits
  simp only [reads, accepted, Bool.not_true, Bool.false_eq_true, if_false]
  rw [d.text_takeWhile, d.text_dropWhile, Decimal.cut, Decimal.decimals]
  by_cases none_behind : d.fraction = []
  · rw [if_pos none_behind, none_behind]
    rfl
  · rw [if_neg none_behind]
    rfl

/-- Other texts are rejected. -/
theorem toUnits_of_other {value : String} (unread : ∀ d : Decimal, Common.trim value.toList ≠ d.text) :
    toUnits value = .error (.error ("Invalid Stellar amount: " ++ value)) := by
  have rejected : ¬ isAmount ((Common.trim value.toList).takeWhile fun c => c != '.')
      ((Common.trim value.toList).dropWhile fun c => c != '.') = true := by
    rw [isAmount_iff]
    rintro ⟨d, reads⟩
    exact unread d reads
  unfold toUnits
  simp only [rejected, Bool.not_false, if_true]

theorem fromUnits_text (units : Nat) : (fromUnits units).toList = (Decimal.ofUnits SCALE units).text := by
  have length := Decimal.ofUnits_fraction_length SCALE units (by decide)
  have filled : (Decimal.ofUnits SCALE units).fraction ≠ [] := by
    intro none_behind
    rw [none_behind] at length
    cases length
  rw [Decimal.text, if_neg filled, fromUnits, String.toList_ofList]
  rfl

/-- The text of an amount is read back as its units. -/
theorem toUnits_fromUnits (units : Nat) : toUnits (fromUnits units) = .ok units := by
  have reads : Common.trim (fromUnits units).toList = (Decimal.ofUnits SCALE units).text := by
    rw [fromUnits_text, trim_text]
  rw [toUnits_of_text reads, Decimal.cut_ofUnits SCALE units (by decide)]

theorem Amount.parses (amount : Amount) : ∃ units, toUnits amount.text = .ok units := by
  obtain ⟨text, units, rfl⟩ := amount
  exact ⟨units, toUnits_fromUnits units⟩

/-- The units of an amount that is well written. -/
def Amount.units (amount : Amount) : Nat :=
  match toUnits amount.text with
  | .ok units => units
  | .error _ => 0

theorem Amount.toUnits_text (amount : Amount) : toUnits amount.text = .ok amount.units := by
  obtain ⟨units, parsed⟩ := amount.parses
  simp [Amount.units, parsed]

@[simp] theorem Amount.units_ofUnits (units : Nat) : (Amount.ofUnits units).units = units := by
  simp [Amount.units, Amount.ofUnits, toUnits_fromUnits]

example : fromUnits 105000000 = "10.5000000" := by decide

/-!
## What the reconciliation service asks for

Source: src/reconciliation/entities, dto/reconciliation.dto.ts and the awaited operations of
reconciliation.service.ts. Rows are found by their unique `invoiceId` and `transactionId`, which
never change; their UUIDs, the metadata and the raw payloads are left out: nothing reads them
back.
-/
open Library.AsyncMethod Library.KeyedTable

inductive InvoiceStatus where
  | opened | partially | paid | failed
  deriving DecidableEq

structure ReconciliationInvoice where
  invoiceId : String
  expectedAmount : Amount
  paidAmount : Amount
  assetCode : String
  destinationAccount : String
  paymentReference : Option String
  status : InvoiceStatus
  createdAt : Nat
  deriving DecidableEq

inductive TransactionStatus where
  | unmatched | partially | matched | failed
  deriving DecidableEq

structure StellarTransaction where
  transactionId : String
  ledger : Option String
  sourceAccount : Option String
  destinationAccount : String
  amount : Amount
  assetCode : String
  memo : Option String
  paymentReference : Option String
  status : TransactionStatus
  failureReason : Option String
  observedAt : Nat
  createdAt : Nat
  deriving DecidableEq

inductive ReconciliationDecision where
  | matched | partially | unmatched | failed | retry
  deriving DecidableEq

structure ReconciliationAudit where
  invoiceId : Option String
  transactionId : Option String
  decision : ReconciliationDecision
  reason : String
  attempt : Nat
  deriving DecidableEq

/-! ## Requests -/

structure CreateInvoiceDto where
  invoiceId : String
  expectedAmount : String
  destinationAccount : String
  paymentReference : Option String
  assetCode : Option String
  deriving DecidableEq

structure IngestTransactionDto where
  transactionId : String
  ledger : Option String
  sourceAccount : Option String
  destinationAccount : String
  amount : String
  assetCode : Option String
  memo : Option String
  observedAt : Option Nat
  deriving DecidableEq

/-! ## Horizon -/

/-- A JSON value that is there and not null; of a number or another value only its text as
`String` makes it. -/
inductive JsonValue where
  | string (text : String)
  | number (text : String)
  | other (text : String)
  deriving DecidableEq

def JsonValue.text : JsonValue → String
  | .string text | .number text | .other text => text

/-- The string a value is, if it is one. -/
def asString : Option JsonValue → Option String
  | some (.string text) => some text
  | _ => none

/-- A payment record of an account; `id` is that of the operation. -/
structure HorizonRecord where
  id : String
  type : Option JsonValue
  transaction_hash : Option JsonValue
  paging_token : Option JsonValue
  ledger : Option JsonValue
  sender : Option JsonValue
  recipient : Option JsonValue
  amount : Option JsonValue
  asset_type : Option JsonValue
  asset_code : Option JsonValue
  memo : Option JsonValue
  deriving DecidableEq

inductive HorizonResponse where
  | failed (status : Nat)
  | records (records : List HorizonRecord)
  deriving DecidableEq

/-! ## Operations -/

inductive InvoiceQuery where
  | invoiceId (id : String)
  | oldestAt (destinationAccount : String)
  deriving DecidableEq

/-- The conditions on several transactions; the first two queries order by `observedAt`. -/
inductive TransactionsQuery where
  | at (destinationAccount assetCode : String) (statuses : List TransactionStatus)
  | latestUnmatched (take : Nat)
  deriving DecidableEq

structure AuditsQuery where
  invoiceId : Option String
  transactionId : Option String
  take : Option Nat
  deriving DecidableEq

/-- The awaited operations. An insert answers the row as it is stored. -/
inductive ReconciliationOp where
  | findInvoice (query : InvoiceQuery)
  | insertInvoice (invoice : ReconciliationInvoice)
  | saveInvoice (invoice : ReconciliationInvoice)
  | findTransaction (transactionId : String)
  | findTransactions (query : TransactionsQuery)
  | insertTransaction (transaction : StellarTransaction)
  | saveTransaction (transaction : StellarTransaction)
  | insertAudit (audit : ReconciliationAudit)
  | findAudits (query : AuditsQuery)
  | fetchPayments (baseUrl account : String) (cursor : Option String)
  deriving DecidableEq

abbrev ReconciliationOp.Reply : ReconciliationOp → Type
  | .findInvoice _ => Option ReconciliationInvoice
  | .insertInvoice _ => ReconciliationInvoice
  | .findTransaction _ => Option StellarTransaction
  | .findTransactions _ => List StellarTransaction
  | .insertTransaction _ => StellarTransaction
  | .findAudits _ => List ReconciliationAudit
  | .fetchPayments _ _ _ => HorizonResponse
  | _ => Unit

/-- The clock and the cursor of the process. -/
structure ReconciliationMemory where
  now : Nat
  horizonCursor : Option String
  deriving DecidableEq

inductive ReconciliationCall where
  | createInvoice (dto : CreateInvoiceDto)
  | ingestTransaction (dto : IngestTransactionDto)
  | manualReconcile (invoiceId : String) (note : Option String)
  | pollHorizon
  | getTransaction (transactionId : String)
  | getInvoice (invoiceId : String)
  | listUnmatched (limit : Int)
  | listAudits (invoiceId transactionId : Option String)
  deriving DecidableEq

inductive ReconciliationValue where
  | invoice (invoice : ReconciliationInvoice)
  | transaction (transaction : StellarTransaction)
  | invoiceAudits (invoice : ReconciliationInvoice) (audits : List ReconciliationAudit)
  | transactionAudits (transaction : StellarTransaction) (audits : List ReconciliationAudit)
  | transactions (transactions : List StellarTransaction)
  | audits (audits : List ReconciliationAudit)
  | polled (skipped : Bool) (ingested : Nat)
  deriving DecidableEq

abbrev reconciliation : Runtime where
  Op := ReconciliationOp
  Reply := ReconciliationOp.Reply
  Mem := ReconciliationMemory
  Err := Exception
  Call := ReconciliationCall
  Val := ReconciliationValue

abbrev ReconciliationM := Async reconciliation

def ask (op : ReconciliationOp) : ReconciliationM op.Reply :=
  Async.perform (R := reconciliation) op

def clock : ReconciliationM Nat := do
  let memory ← Async.memory
  pure memory.now

def setCursor (token : String) : ReconciliationM Unit :=
  Async.update (R := reconciliation) fun memory => { memory with horizonCursor := some token }

/-! ## The database and Horizon -/

/-- The three tables; audits are never changed and stand in the order they were written. -/
structure Books where
  invoices : Table ReconciliationInvoice ReconciliationInvoice.invoiceId
  transactions : Table StellarTransaction StellarTransaction.transactionId
  audits : List ReconciliationAudit

/-- The database, and what Horizon has of the account, in the order of the ledger. -/
structure ReconciliationWorld where
  now : Nat
  books : Books
  payments : Table HorizonRecord HorizonRecord.id

/-- What the outside decides: that an operation is done, from where and how far Horizon answers,
its status code when it refuses, or a failure, which leaves the database as it was. -/
inductive ReconciliationOutcome where
  | done
  | page (start count : Nat)
  | status (code : Nat)
  | fails (failure : Exception)
  deriving DecidableEq

def duplicateKey : Exception := .error "duplicate key value violates unique constraint"

def Books.findInvoice (books : Books) : InvoiceQuery → Option ReconciliationInvoice
  | .invoiceId id => books.invoices.findOne id
  | .oldestAt destinationAccount =>
    ((books.invoices.rows.filter fun invoice =>
      decide (invoice.destinationAccount = destinationAccount)).insertionSort
        fun a b => a.createdAt ≤ b.createdAt).head?

def Books.findTransactions (books : Books) : TransactionsQuery → List StellarTransaction
  | .at destinationAccount assetCode statuses =>
    (books.transactions.rows.filter fun row =>
      decide (row.destinationAccount = destinationAccount) && decide (row.assetCode = assetCode) &&
        statuses.contains row.status).insertionSort fun a b => a.observedAt ≤ b.observedAt
  | .latestUnmatched take =>
    ((books.transactions.rows.filter fun row => decide (row.status = .unmatched)).insertionSort
      fun a b => b.createdAt ≤ a.createdAt).take take

/-- The newest audits first. -/
def Books.findAudits (books : Books) (query : AuditsQuery) : List ReconciliationAudit :=
  let found := (books.audits.filter fun audit =>
    query.invoiceId.all (fun id => decide (audit.invoiceId = some id)) &&
      query.transactionId.all fun id => decide (audit.transactionId = some id)).reverse
  match query.take with
  | none => found
  | some take => found.take take

def Books.saveInvoice (books : Books) (invoice : ReconciliationInvoice) : Books :=
  { books with invoices := books.invoices.save invoice }

def Books.saveTransaction (books : Books) (row : StellarTransaction) : Books :=
  { books with transactions := books.transactions.save row }

def Books.writeAudit (books : Books) (audit : ReconciliationAudit) : Books :=
  { books with audits := books.audits ++ [audit] }

/-- Where the records after a cursor begin. -/
def afterCursor (payments : List HorizonRecord) : Option String → Nat
  | none => 0
  | some token =>
    match payments.findIdx? fun record => decide (asString record.paging_token = some token) with
    | none => 0
    | some i => i + 1

def ReconciliationWorld.respond (world : ReconciliationWorld) (op : ReconciliationOp)
    (outcome : ReconciliationOutcome) :
    Option (ReconciliationWorld × Except Exception op.Reply) :=
  match op, outcome with
  | .findInvoice query, .done => some (world, .ok (world.books.findInvoice query))
  | .insertInvoice invoice, .done =>
    if (world.books.invoices.findOne invoice.invoiceId).isSome then some (world, .error duplicateKey)
    else
      let row := { invoice with createdAt := world.now }
      some ({ world with books := world.books.saveInvoice row }, .ok row)
  | .saveInvoice invoice, .done =>
    some ({ world with books := world.books.saveInvoice invoice }, .ok ())
  | .findTransaction transactionId, .done =>
    some (world, .ok (world.books.transactions.findOne transactionId))
  | .findTransactions query, .done => some (world, .ok (world.books.findTransactions query))
  | .insertTransaction transaction, .done =>
    if (world.books.transactions.findOne transaction.transactionId).isSome then
      some (world, .error duplicateKey)
    else
      let row := { transaction with createdAt := world.now }
      some ({ world with books := world.books.saveTransaction row }, .ok row)
  | .saveTransaction transaction, .done =>
    some ({ world with books := world.books.saveTransaction transaction }, .ok ())
  | .insertAudit audit, .done => some ({ world with books := world.books.writeAudit audit }, .ok ())
  | .findAudits query, .done => some (world, .ok (world.books.findAudits query))
  | .fetchPayments _ _ cursor, .page start count =>
    -- A page may begin with records before the cursor, but leaves none out.
    if afterCursor world.payments.rows cursor < start ∨ 200 < count then none
    else some (world, .ok (.records ((world.payments.rows.drop start).take count)))
  | .fetchPayments _ _ _, .status code => some (world, .ok (.failed code))
  | _, .fails failure => some (world, .error failure)
  | _, _ => none

/-- Time passes, a payment enters the ledger, or the process starts again. -/
inductive ReconciliationChange where
  | time (ms : Nat)
  | payment (record : HorizonRecord)
  | restart
  deriving DecidableEq

def reconciliationEnvironment (state : ReconciliationWorld × ReconciliationMemory) :
    ReconciliationChange → ReconciliationWorld × ReconciliationMemory
  | .time ms =>
    ({ state.1 with now := state.1.now + ms }, { state.2 with now := state.2.now + ms })
  | .payment record =>
    if (state.1.payments.findOne record.id).isSome then state
    else ({ state.1 with payments := state.1.payments.save record }, state.2)
  | .restart => (state.1, { state.2 with horizonCursor := none })

end AlianStructure.Source.Reconciliation
