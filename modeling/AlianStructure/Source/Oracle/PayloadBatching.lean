import AlianStructure.Library.WiderRuntime
import AlianStructure.Source.Oracle.OracleService

/-!
# Payloads that wait to be submitted

Source: src/blockchain/oracle/services/oracle.service.ts:240-257,375-398. Rows of one creation time come in the order of the
table. A comparison with null is never true, so the list of signatures asked for has one.
-/
namespace AlianStructure.Source.Oracle

/-- The response of a payload; an empty signature is left out. -/
structure PayloadResponse where
  id : String
  payloadType : PayloadType
  nonce : Nat
  payload : String
  payloadHash : String
  signature : Option String
  expiresAt : Nat
  status : PayloadStatus
  transactionHash : Option String
  blockNumber : Option Nat
  submissionAttempts : Nat
  errorMessage : Option String
  createdAt : Nat
  updatedAt : Nat
  submittedAt : Option Nat
  confirmedAt : Option Nat
  deriving DecidableEq

def mapToResponseDto (payload : SignedPayload) : PayloadResponse where
  id := payload.id
  payloadType := payload.payloadType
  nonce := payload.nonce
  payload := payload.payload
  payloadHash := payload.payloadHash
  signature := if payload.signature = "" then none else some payload.signature
  expiresAt := payload.expiresAt
  status := payload.status
  transactionHash := payload.transactionHash
  blockNumber := payload.blockNumber
  submissionAttempts := payload.submissionAttempts
  errorMessage := payload.errorMessage
  createdAt := payload.createdAt
  updatedAt := payload.updatedAt
  submittedAt := payload.submittedAt
  confirmedAt := payload.confirmedAt

/-- `status: PENDING, signature: In([null, ""])`, by creation. -/
def findPending (rows : List SignedPayload) (take : Nat) : List SignedPayload :=
  let found := rows.filter fun p => decide (p.status = .pending) && [""].contains p.signature
  (found.insertionSort fun a b => a.createdAt ≤ b.createdAt).take take

def OracleService.getPendingPayloads (rows : List SignedPayload) (now limit : Nat) : List PayloadResponse :=
  let payloads := findPending rows limit
  let validPayloads := payloads.filter fun p => decide (now < p.expiresAt) && decide (p.signature ≠ "")
  validPayloads.map mapToResponseDto

/-!
## Selecting payloads for a batch

Source: src/blockchain/oracle/services/submission-batch.service.ts:109-146. The signature column
is not nullable, so of the two values that the query lists only the empty text can be found.
-/
open Library.AsyncMethod Library.Interleaving Library.WiderRuntime

/-- The awaited query of the selection. -/
inductive BatchingOp where
  | findForBatching (take : Nat)

abbrev BatchingOp.Reply : BatchingOp → Type
  | .findForBatching _ => List SignedPayload

inductive BatchingCall where
  | getPayloadsForBatching (limit : Option Nat)
  deriving DecidableEq

inductive BatchingValue where
  | payloads (payloads : List SignedPayload)
  deriving DecidableEq

abbrev batching : Additions where
  Op := BatchingOp
  Reply := BatchingOp.Reply
  Call := BatchingCall
  Val := BatchingValue

abbrev batchingOracle : Runtime := wider oracle batching

abbrev BatchingM := Async batchingOracle

/-- Pending payloads with an empty signature, the oldest first. -/
def forBatching (take : Nat) (payloads : List SignedPayload) : List SignedPayload :=
  ((payloads.filter fun p => decide (p.status = .pending ∧ p.signature = "")).insertionSort
    fun a b => a.createdAt ≤ b.createdAt).take take

namespace SubmissionBatchService

def findForBatching (take : Nat) : BatchingM (List SignedPayload) :=
  Async.perform (R := batchingOracle) (.inr (.findForBatching take))

/-- `limit || this.batchSize` -/
def batchSizeOr (config : BatchConfig) : (limit : Option Nat) → Nat
  | some (n + 1) => n + 1
  | _ => config.batchSize

/-- The expired payloads are marked as failed without waiting. -/
def failExpired (now : Nat) : List SignedPayload → BatchingM Unit
  | [] => pure ()
  | payload :: rest => do
    if payload.expiresAt < now then
      Async.start (R := batchingOracle)
        (.inl (.markAsFailed payload.id "Payload expired before batch submission" .permanent 1))
    else pure ()
    failExpired now rest

def markAllInFlight : List SignedPayload → BatchingM Unit
  | [] => pure ()
  | payload :: rest => do
    lift (markInFlight payload.id)
    markAllInFlight rest

/-- The payloads that a batch can take. -/
def validForBatching (now : Nat) (memory : OracleMemory) (payloads : List SignedPayload) :
    List SignedPayload :=
  payloads.filter fun payload => ! decide (payload.expiresAt < now) && ! isInFlight memory payload.id

def getPayloadsForBatching (config : BatchConfig) (limit : Option Nat) :
    BatchingM (List SignedPayload) := do
  let batchSize := batchSizeOr config limit
  let started ← Async.memory
  let payloads ← findForBatching (batchSize * 2)
  let memory ← Async.memory
  failExpired started.now payloads
  let result := (validForBatching started.now memory payloads).take batchSize
  if config.preserveOrder then
    markAllInFlight result
    pure result
  else pure result

end SubmissionBatchService

def batchingRespond (world : OracleWorld) (op : OracleOp ⊕ BatchingOp) (outcome : Outcome) :
    Option (OracleWorld × Except Exception (batchingOracle.Reply op)) :=
  match op, outcome with
  | .inl op, outcome => world.respond op outcome
  | .inr (.findForBatching take), .done =>
    some (world, .ok (forBatching take world.payloads.rows))
  | .inr _, .fails failure => some (world, .error failure)
  | .inr _, _ => none

def batchingBody (config : OracleConfig) :
    OracleCall ⊕ BatchingCall → BatchingM (OracleValue ⊕ BatchingValue)
  | .inl call => do
    let value ← lift (oracleBody config call)
    pure (.inl value)
  | .inr (.getPayloadsForBatching limit) => do
    let payloads ← SubmissionBatchService.getPayloadsForBatching config.batch limit
    pure (.inr (.payloads payloads))

/-- Selecting payloads and processing a batch. -/
def ofPipeline : OracleCall ⊕ BatchingCall → Bool
  | .inl (.processBatch _ _) | .inr _ => true
  | _ => false

abbrev batchingProcess (config : OracleConfig) : Service batchingOracle where
  World := OracleWorld
  Choice := Outcome
  Env := OracleEnvironment
  respond := batchingRespond
  environment := oracleEnvironment
  isPublic := ofPipeline
  body := batchingBody config

end AlianStructure.Source.Oracle
