import AlianStructure.Source.Reconciliation.ReconciliationRuntime

/-!
# Reconciliation of payments with invoices

Source: src/reconciliation/reconciliation.service.ts and horizon-polling.service.ts. A method
that changes its argument returns the changed value.
-/
namespace AlianStructure.Source.Reconciliation
open Library.AsyncMethod Library.Interleaving

structure ReconciliationConfig where
  account : Option String
  horizonUrl : String
  deriving DecidableEq

namespace ReconciliationService

def throwing {α : Type} : Except Exception α → ReconciliationM α
  | .ok value => pure value
  | .error failure => throw failure

/-- An empty reference of the invoice is none. -/
def matchesInvoice (transaction : StellarTransaction) (invoice : ReconciliationInvoice) : Bool :=
  decide (transaction.destinationAccount = invoice.destinationAccount) &&
    decide (transaction.assetCode = invoice.assetCode) &&
    (invoice.paymentReference.filter (· ≠ "")).all fun reference =>
      decide (transaction.paymentReference = some reference)

def writeAudit (audit : ReconciliationAudit) : ReconciliationM Unit := ask (.insertAudit audit)

/-- The part of reconcileTransaction without a matching invoice. -/
def leaveUnmatched (transaction : StellarTransaction) (invoiceId : Option String)
    (reason : Option String) : ReconciliationM StellarTransaction := do
  writeAudit {
    invoiceId := invoiceId
    transactionId := some transaction.transactionId
    decision := .unmatched
    reason := reason.getD "No invoice matched destination, asset, and reference"
    attempt := 0 }
  pure { transaction with status := .unmatched }

/-- The part of reconcileTransaction that adds the amount to the invoice. -/
def applyTo (transaction : StellarTransaction) (invoice : ReconciliationInvoice)
    (reason : Option String) : ReconciliationM StellarTransaction := do
  let paid ← throwing (toUnits invoice.paidAmount.text)
  let amount ← throwing (toUnits transaction.amount.text)
  let paidUnits := paid + amount
  let expectedUnits ← throwing (toUnits invoice.expectedAmount.text)
  let isPaid := decide (expectedUnits ≤ paidUnits)
  ask (.saveInvoice { invoice with
    paidAmount := Amount.ofUnits paidUnits
    status := if isPaid then .paid else .partially })
  writeAudit {
    invoiceId := some invoice.invoiceId
    transactionId := some transaction.transactionId
    decision := if isPaid then .matched else .partially
    reason := reason.getD (if isPaid then "Invoice fully paid" else "Invoice partially paid")
    attempt := 0 }
  pure { transaction with status := if isPaid then .matched else .partially }

def reconcileTransaction (transaction : StellarTransaction) (reason : Option String) :
    ReconciliationM StellarTransaction := do
  let found ← ask (.findInvoice (.oldestAt transaction.destinationAccount))
  match found with
  | none => leaveUnmatched transaction none reason
  | some invoice =>
    if matchesInvoice transaction invoice then applyTo transaction invoice reason
    else leaveUnmatched transaction (some invoice.invoiceId) reason

/-- The loop over candidates for an invoice. -/
def reconcileEach (invoice : ReconciliationInvoice) (reason : String) :
    List StellarTransaction → ReconciliationM Unit
  | [] => pure ()
  | transaction :: rest =>
    if matchesInvoice transaction invoice then do
      let changed ← reconcileTransaction transaction (some reason)
      ask (.saveTransaction changed)
      reconcileEach invoice reason rest
    else reconcileEach invoice reason rest

def newInvoice (dto : CreateInvoiceDto) (expectedAmount : Amount) : ReconciliationInvoice where
  invoiceId := dto.invoiceId
  expectedAmount := expectedAmount
  paidAmount := Amount.ofUnits 0
  assetCode := toUpperCase (dto.assetCode.getD "XLM")
  destinationAccount := dto.destinationAccount
  paymentReference := dto.paymentReference
  status := .opened
  createdAt := 0

def createInvoice (dto : CreateInvoiceDto) : ReconciliationM ReconciliationInvoice := do
  let existing ← ask (.findInvoice (.invoiceId dto.invoiceId))
  match existing with
  | some invoice => pure invoice
  | none => do
    let expectedAmount ← throwing (normalizeAmount dto.expectedAmount)
    let saved ← ask (.insertInvoice (newInvoice dto expectedAmount))
    let candidates ← ask (.findTransactions
      (.at saved.destinationAccount saved.assetCode [.unmatched]))
    reconcileEach saved "Invoice registered after payment" candidates
    pure saved

def newTransaction (dto : IngestTransactionDto) (amount : Amount) (now : Nat) :
    StellarTransaction where
  transactionId := dto.transactionId
  ledger := dto.ledger
  sourceAccount := dto.sourceAccount
  destinationAccount := dto.destinationAccount
  amount := amount
  assetCode := toUpperCase (dto.assetCode.getD "XLM")
  memo := dto.memo
  paymentReference := dto.memo
  status := .unmatched
  failureReason := none
  observedAt := dto.observedAt.getD now
  createdAt := 0

/-- The catch block of ingestTransaction. -/
def recordFailure (saved : StellarTransaction) (failure : Exception) :
    ReconciliationM StellarTransaction := do
  writeAudit {
    invoiceId := none
    transactionId := some saved.transactionId
    decision := .failed
    reason := failure.message
    attempt := 1 }
  pure { saved with status := .failed, failureReason := some failure.message }

def ingestTransaction (dto : IngestTransactionDto) : ReconciliationM StellarTransaction := do
  let existing ← ask (.findTransaction dto.transactionId)
  match existing with
  | some transaction => do
    writeAudit {
      invoiceId := none
      transactionId := some transaction.transactionId
      decision := .retry
      reason := "Duplicate transaction event ignored"
      attempt := 0 }
    pure transaction
  | none => do
    let amount ← throwing (normalizeAmount dto.amount)
    let now ← clock
    let saved ← ask (.insertTransaction (newTransaction dto amount now))
    let changed ← tryCatch (reconcileTransaction saved none) (recordFailure saved)
    ask (.saveTransaction changed)
    pure changed

def getTransaction (transactionId : String) :
    ReconciliationM (StellarTransaction × List ReconciliationAudit) := do
  let found ← ask (.findTransaction transactionId)
  match found with
  | none => throw (.notFound ("Stellar transaction " ++ transactionId ++ " not found"))
  | some transaction => do
    let audits ← ask (.findAudits ⟨none, some transactionId, none⟩)
    pure (transaction, audits)

def getInvoice (invoiceId : String) :
    ReconciliationM (ReconciliationInvoice × List ReconciliationAudit) := do
  let found ← ask (.findInvoice (.invoiceId invoiceId))
  match found with
  | none => throw (.notFound ("Invoice " ++ invoiceId ++ " not found"))
  | some invoice => do
    let audits ← ask (.findAudits ⟨some invoiceId, none, none⟩)
    pure (invoice, audits)

def listUnmatched (limit : Int) : ReconciliationM (List StellarTransaction) :=
  ask (.findTransactions (.latestUnmatched (min (max limit 1) 200).toNat))

/-- An empty filter is no filter. -/
def listAudits (invoiceId transactionId : Option String) :
    ReconciliationM (List ReconciliationAudit) :=
  ask (.findAudits ⟨invoiceId.filter (· ≠ ""), transactionId.filter (· ≠ ""), some 200⟩)

def manualReconcile (invoiceId : String) (note : Option String) :
    ReconciliationM (ReconciliationInvoice × List ReconciliationAudit) := do
  let found ← ask (.findInvoice (.invoiceId invoiceId))
  match found with
  | none => throw (.notFound ("Invoice " ++ invoiceId ++ " not found"))
  | some invoice => do
    let candidates ← ask (.findTransactions
      (.at invoice.destinationAccount invoice.assetCode [.unmatched, .partially]))
    reconcileEach invoice (note.getD "Manual retry") candidates
    getInvoice invoiceId

/-- The hash of a payment; other records have none. -/
def paymentHash (record : HorizonRecord) : Option String :=
  if asString record.type = some "payment" then asString record.transaction_hash else none

def ledgerText : Option JsonValue → Option String
  | some (.string text) | some (.number text) => some text
  | _ => none

/-- What a payment is ingested as. -/
def ingestedAs (record : HorizonRecord) (transactionHash : String) : IngestTransactionDto where
  transactionId := transactionHash
  ledger := ledgerText record.ledger
  sourceAccount := asString record.sender
  destinationAccount := (record.recipient.map JsonValue.text).getD ""
  amount := (record.amount.map JsonValue.text).getD "0"
  assetCode := some (if asString record.asset_type = some "native" then "XLM"
    else (record.asset_code.map JsonValue.text).getD "XLM")
  memo := asString record.memo
  observedAt := none

def advanceCursor (record : HorizonRecord) : ReconciliationM Unit :=
  match asString record.paging_token with
  | some token => setCursor token
  | none => pure ()

/-- The loop over the records of a page: how many are ingested. -/
def pollEach : List HorizonRecord → ReconciliationM Nat
  | [] => pure 0
  | record :: rest =>
    match paymentHash record with
    | none => do
      advanceCursor record
      pollEach rest
    | some transactionHash => do
      let _ ← ingestTransaction (ingestedAs record transactionHash)
      advanceCursor record
      let ingested ← pollEach rest
      pure (ingested + 1)

/-- The part of pollHorizon inside the try block. -/
def pollPage (baseUrl account : String) : ReconciliationM Nat := do
  let memory ← Async.memory
  let response ← ask (.fetchPayments baseUrl account (memory.horizonCursor.filter (· ≠ "")))
  match response with
  | .failed status => throw (.error ("Horizon returned HTTP " ++ toString status))
  | .records records => pollEach records

def withoutSlash (url : String) : String :=
  if url.toList.getLast? = some '/' then String.ofList url.toList.dropLast else url

def pollHorizon (config : ReconciliationConfig) : ReconciliationM (Bool × Nat) :=
  match config.account.filter (· ≠ "") with
  | none => pure (true, 0)
  | some account =>
    tryCatch (do
        let ingested ← pollPage (withoutSlash config.horizonUrl) account
        pure (false, ingested)) fun failure => do
      writeAudit {
        invoiceId := none
        transactionId := none
        decision := .retry
        reason := failure.message
        attempt := 1 }
      pure (false, 0)

end ReconciliationService

/-- The result of a method as that of a call. -/
def returning {α : Type} (value : α → ReconciliationValue) (program : ReconciliationM α) :
    ReconciliationM ReconciliationValue := do
  let result ← program
  pure (value result)

def reconciliationBody (config : ReconciliationConfig) :
    ReconciliationCall → ReconciliationM ReconciliationValue
  | .createInvoice dto => returning .invoice (ReconciliationService.createInvoice dto)
  | .ingestTransaction dto => returning .transaction (ReconciliationService.ingestTransaction dto)
  | .manualReconcile invoiceId note =>
    returning (fun found => .invoiceAudits found.1 found.2)
      (ReconciliationService.manualReconcile invoiceId note)
  | .pollHorizon =>
    returning (fun polled => .polled polled.1 polled.2) (ReconciliationService.pollHorizon config)
  | .getTransaction transactionId =>
    returning (fun found => .transactionAudits found.1 found.2)
      (ReconciliationService.getTransaction transactionId)
  | .getInvoice invoiceId =>
    returning (fun found => .invoiceAudits found.1 found.2)
      (ReconciliationService.getInvoice invoiceId)
  | .listUnmatched limit => returning .transactions (ReconciliationService.listUnmatched limit)
  | .listAudits invoiceId transactionId =>
    returning .audits (ReconciliationService.listAudits invoiceId transactionId)

abbrev reconciliationProcess (config : ReconciliationConfig) : Service reconciliation where
  World := ReconciliationWorld
  Choice := ReconciliationOutcome
  Env := ReconciliationChange
  respond := ReconciliationWorld.respond
  environment := reconciliationEnvironment
  isPublic _ := true
  body := reconciliationBody config

end AlianStructure.Source.Reconciliation
