import Mathlib.Data.List.Infix
import Mathlib.Data.List.Sort
import Mathlib.Data.Rat.Defs
import AlianStructure.Library.Interleaving
import AlianStructure.Library.KeyedTable
import AlianStructure.Source.Exception

/-!
# Failures of a submission and signed payloads

Source: src/blockchain/oracle/services/submission-batch.service.ts:14-17,582-622
and the same function in submitter.service.ts:117-160.
-/
namespace AlianStructure.Source.Oracle

inductive FailureType where
  | retryable | permanent
  deriving DecidableEq

def permanentPatterns : List String :=
  ["expired", "invalid signature", "unauthorized", "insufficient funds", "nonce too low",
    "already submitted", "execution reverted", "vm exception"]

def retryablePatterns : List String :=
  ["network error", "timeout", "econnreset", "socket hang up", "temporary", "service unavailable",
    "gateway error", "rate limit"]

/-- Lower case as far as it can produce ASCII: besides the ASCII letters these are
the Kelvin sign and the dotted capital I. -/
def toLowerCaseChars (text : String) : List Char :=
  text.toList.flatMap fun c =>
    if c = '\u212a' then ['k'] else if c = '\u0130' then ['i', '\u0307'] else [c.toLower]

def includes (text : List Char) (pattern : String) : Bool := decide (pattern.toList <:+: text)

/-- The last test of the source cannot change the answer: what is not permanent is
retryable, listed or not. -/
def categorizeFailure (message : String) : FailureType :=
  let message := toLowerCaseChars message
  if permanentPatterns.any (includes message) then .permanent
  else if retryablePatterns.any (includes message) then .retryable
  else .retryable

def isRetryableError (errorMessage : String) : Bool :=
  decide (categorizeFailure errorMessage = .retryable)

/-!
## Signed payloads, their table and the chain

Source: src/blockchain/oracle/entities/signed-payload.entity.ts and the awaited
operations of submitter.service.ts, submission-batch.service.ts and
oracle.service.ts. Times are epoch milliseconds. Columns that none of the modelled
methods reads or writes are left out.
-/
open Library.AsyncMethod Library.Interleaving Library.KeyedTable

inductive PayloadStatus where
  | pending | submitted | confirmed | failed
  deriving DecidableEq

def PayloadStatus.text : PayloadStatus → String
  | .pending => "pending"
  | .submitted => "submitted"
  | .confirmed => "confirmed"
  | .failed => "failed"

inductive PayloadType where
  | oracleUpdate | agentResult | priceFeed | computeProof
  deriving DecidableEq

/-- A row of signed_payloads; `payload` is the JSON text of the payload. -/
structure SignedPayload where
  id : String
  payloadType : PayloadType
  nonce : Nat
  payload : String
  payloadHash : String
  signature : String
  expiresAt : Nat
  status : PayloadStatus
  transactionHash : Option String
  blockNumber : Option Nat
  submissionAttempts : Nat
  errorMessage : Option String
  createdAt : Nat
  updatedAt : Nat
  submittedAt : Option Nat
  confirmedAt : Option Nat
  deriving DecidableEq

/-- The arguments of the contract's submitPayload; `expiresAt` is in seconds. -/
structure SubmitArguments where
  payloadType : PayloadType
  payloadHash : String
  nonce : Nat
  expiresAt : Nat
  data : String
  signature : String
  deriving DecidableEq

def SignedPayload.submitArguments (payload : SignedPayload) : SubmitArguments where
  payloadType := payload.payloadType
  payloadHash := payload.payloadHash
  nonce := payload.nonce
  expiresAt := payload.expiresAt / 1000
  data := payload.payload
  signature := payload.signature

structure Receipt where
  status : Nat
  blockNumber : Nat
  deriving DecidableEq

/-- A transaction accepted by the network for a payload; `reverted` once a receipt
has said so. -/
structure Broadcast where
  payloadId : String
  arguments : SubmitArguments
  hash : String
  reverted : Bool
  deriving DecidableEq

inductive SortColumn where
  | createdAt | updatedAt
  deriving DecidableEq

/-- The `where`, `order` and `take` of a `find`. -/
structure PayloadQuery where
  ids : Option (List String)
  status : Option PayloadStatus
  order : Option SortColumn
  take : Option Nat
  deriving DecidableEq

def PayloadQuery.selects (query : PayloadQuery) (payload : SignedPayload) : Bool :=
  query.ids.all (fun ids => ids.contains payload.id) &&
    query.status.all fun status => decide (payload.status = status)

def PayloadQuery.sorted (query : PayloadQuery) (payloads : List SignedPayload) :
    List SignedPayload :=
  match query.order with
  | none => payloads
  | some .createdAt => payloads.insertionSort fun a b => a.createdAt ≤ b.createdAt
  | some .updatedAt => payloads.insertionSort fun a b => a.updatedAt ≤ b.updatedAt

def PayloadQuery.run (query : PayloadQuery) (payloads : List SignedPayload) : List SignedPayload :=
  let found := query.sorted (payloads.filter query.selects)
  match query.take with
  | none => found
  | some n => found.take n

/-- The place of a query in the source: the same row is read for different purposes. -/
inductive Site where
  | submitPayload | monitorTransaction | monitoringFailed | retrySubmission | processWithRetry
  | markAsFailed | validatePayloadsForBatch | retryFailedPayloads | cleanupExpiredPayloads
  deriving DecidableEq

/-- The awaited operations. The site of a query and the id next to a contract call
only name them; database and chain do not read them. -/
inductive OracleOp where
  | findOne (site : Site) (id : String)
  | find (site : Site) (query : PayloadQuery)
  | save (payload : SignedPayload)
  | saveAll (payloads : List SignedPayload)
  | estimateGas (arguments : SubmitArguments)
  | submitPayload (payloadId : String) (arguments : SubmitArguments) (gasLimit : Nat)
  | waitForTransaction (hash : String)
  | sleep (ms : ℚ)

abbrev OracleOp.Reply : OracleOp → Type
  | .findOne _ _ => Option SignedPayload
  | .find _ _ => List SignedPayload
  | .save _ | .saveAll _ | .sleep _ => Unit
  | .estimateGas _ => Nat
  | .submitPayload _ _ _ => String
  | .waitForTransaction _ => Option Receipt

/-- The clock, the last random suffix and the ids in flight. -/
structure OracleMemory where
  now : Nat
  random : String
  inFlightSubmissions : List String
  deriving DecidableEq

/-- Results of the two batch entry points of the submitter. -/
structure SubmitterResult where
  payloadId : String
  transactionHash : String
  success : Bool
  errorMessage : Option String
  deriving DecidableEq

structure SubmissionResult where
  payloadId : String
  success : Bool
  transactionHash : Option String
  errorMessage : Option String
  failureType : Option FailureType
  attemptNumber : Nat
  deriving DecidableEq

structure BatchSubmissionResult where
  batchId : String
  results : List SubmissionResult
  totalPayloads : Nat
  successfulPayloads : Nat
  failedPayloads : Nat
  totalTimeMs : Nat
  deriving DecidableEq

structure Submitted where
  transactionHash : String
  payload : SignedPayload
  deriving DecidableEq

/-- The methods that are called from outside or started by another one. -/
inductive OracleCall where
  | submitPayload (payloadId : String)
  | retrySubmission (payloadId : String)
  | batchSubmitPayloads (payloadIds : List String)
  | batchSubmitPayloadsConcurrent (payloadIds : List String) (maxConcurrent : Nat)
  | monitorTransaction (payloadId : String) (txHash : String)
  | processBatch (payloadIds : List String) (batchId : Option String)
  | processWithRetry (payloadId : String) (maxRetries : Option Nat)
  | retryFailedPayloads (payloadIds : Option (List String)) (maxConcurrent : Option Nat)
  | submitBatched (payload : SignedPayload)
  | markAsFailed (payloadId : String) (errorMessage : String) (failureType : FailureType)
      (attemptNumber : Nat)
  | cleanupExpiredPayloads
  deriving DecidableEq

inductive OracleValue where
  | nothing
  | count (n : Nat)
  | submitted (result : Submitted)
  | submittedBatched (transactionHash : String)
  | submitterResults (results : List SubmitterResult)
  | submission (result : SubmissionResult)
  | batch (result : BatchSubmissionResult)
  deriving DecidableEq

instance : Inhabited OracleValue := ⟨.nothing⟩

abbrev oracle : Runtime where
  Op := OracleOp
  Reply := OracleOp.Reply
  Mem := OracleMemory
  Err := Exception
  Call := OracleCall
  Val := OracleValue

abbrev OracleM := Async oracle

def findOne (site : Site) (id : String) : OracleM (Option SignedPayload) :=
  Async.perform (R := oracle) (.findOne site id)

def find (site : Site) (query : PayloadQuery) : OracleM (List SignedPayload) :=
  Async.perform (R := oracle) (.find site query)

def save (payload : SignedPayload) : OracleM Unit := Async.perform (R := oracle) (.save payload)

def saveAll (payloads : List SignedPayload) : OracleM Unit :=
  Async.perform (R := oracle) (.saveAll payloads)

def sleep (ms : ℚ) : OracleM Unit := Async.perform (R := oracle) (.sleep ms)

def clock : OracleM Nat := do
  let memory ← Async.memory
  pure memory.now

structure OracleWorld where
  now : Nat
  payloads : Table SignedPayload SignedPayload.id
  broadcasts : List Broadcast

/-- What the outside decides about an operation. A lost reply is a write that took
effect and is reported as failed. -/
inductive Outcome where
  | done
  | fails (failure : Exception)
  | replyLost (failure : Exception)
  | gas (estimate : Nat)
  | accepted (hash : String)
  | mined (receipt : Option Receipt)
  deriving DecidableEq

/-- @UpdateDateColumn: the database stamps a row when it is written. -/
def OracleWorld.write (world : OracleWorld) (payload : SignedPayload) : OracleWorld :=
  { world with payloads := world.payloads.save { payload with updatedAt := world.now } }

def OracleWorld.writeAll (world : OracleWorld) (payloads : List SignedPayload) : OracleWorld :=
  { world with
    payloads := world.payloads.saveAll (payloads.map fun p => { p with updatedAt := world.now }) }

/-- A receipt of a failed transaction reports it as reverted. -/
def OracleWorld.report (world : OracleWorld) (hash : String) (receipt : Option Receipt) :
    OracleWorld :=
  match receipt with
  | none => world
  | some receipt =>
    if receipt.status = 1 then world
    else { world with
      broadcasts := world.broadcasts.map fun b =>
        if b.hash = hash then { b with reverted := true } else b }

def OracleWorld.respond (world : OracleWorld) (op : OracleOp) (outcome : Outcome) :
    Option (OracleWorld × Except Exception op.Reply) :=
  match op, outcome with
  | .findOne _ id, .done => some (world, .ok (world.payloads.findOne id))
  | .find _ query, .done => some (world, .ok (query.run world.payloads.rows))
  | .save payload, .done => some (world.write payload, .ok ())
  | .save payload, .replyLost failure => some (world.write payload, .error failure)
  | .saveAll payloads, .done => some (world.writeAll payloads, .ok ())
  | .saveAll payloads, .replyLost failure => some (world.writeAll payloads, .error failure)
  | .estimateGas _, .gas estimate => some (world, .ok estimate)
  | .submitPayload payloadId arguments _, .accepted hash =>
    some ({ world with broadcasts := world.broadcasts ++ [⟨payloadId, arguments, hash, false⟩] },
      .ok hash)
  | .waitForTransaction hash, .mined receipt => some (world.report hash receipt, .ok receipt)
  | .sleep _, .done => some (world, .ok ())
  | .sleep _, .fails _ => none
  | _, .fails failure => some (world, .error failure)
  | _, _ => none

example (world : OracleWorld) (ms : ℚ) : world.respond (.sleep ms) .done = some (world, .ok ()) := by
  simp only [OracleWorld.respond]

/-- Time passes, or the random number generator yields another suffix. -/
inductive OracleEnvironment where
  | tick (ms : Nat)
  | random (suffix : String)
  deriving DecidableEq

def oracleEnvironment (state : OracleWorld × OracleMemory) :
    OracleEnvironment → OracleWorld × OracleMemory
  | .tick ms => ({ state.1 with now := state.1.now + ms }, { state.2 with now := state.2.now + ms })
  | .random suffix => (state.1, { state.2 with random := suffix })

end AlianStructure.Source.Oracle
