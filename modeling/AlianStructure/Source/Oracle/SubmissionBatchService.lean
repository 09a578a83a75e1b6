import AlianStructure.Source.Oracle.SubmitterService

/-!
# Batch submission with retries

Source: src/blockchain/oracle/services/submission-batch.service.ts:141-430,456-720.
The placeholder `submitPayload` of this service makes up a transaction hash from the
clock and a random suffix and stores it; it never reaches the chain.
-/
namespace AlianStructure.Source.Oracle
open Library.AsyncMethod

structure BatchConfig where
  batchSize : Nat
  maxRetries : Nat
  initialRetryDelayMs : ℚ
  maxRetryDelayMs : ℚ
  retryBackoffMultiplier : ℚ
  preserveOrder : Bool
  deriving DecidableEq

namespace SubmissionBatchService

def calculateRetryDelay (config : BatchConfig) (attempt : Nat) : ℚ :=
  min (config.initialRetryDelayMs * config.retryBackoffMultiplier ^ (attempt - 1))
    config.maxRetryDelayMs

def isInFlight (memory : OracleMemory) (payloadId : String) : Bool :=
  memory.inFlightSubmissions.contains payloadId

def markInFlight (payloadId : String) : OracleM Unit :=
  Async.update (R := oracle) fun memory =>
    { memory with inFlightSubmissions := payloadId :: memory.inFlightSubmissions }

def clearInFlight (payloadId : String) : OracleM Unit :=
  Async.update (R := oracle) fun memory =>
    { memory with
      inFlightSubmissions := memory.inFlightSubmissions.filter fun id => decide (id ≠ payloadId) }

def clearAllInFlight : List String → OracleM Unit
  | [] => pure ()
  | payloadId :: rest => do
    clearInFlight payloadId
    clearAllInFlight rest

/-- Every failure inside is logged and swallowed. -/
def markAsFailed (payloadId errorMessage : String) (_failureType : FailureType)
    (attemptNumber : Nat) : OracleM Unit :=
  tryCatch
    (do
      let payload ← findOne .markAsFailed payloadId
      match payload with
      | none => pure ()
      | some payload =>
        save { payload with
          status := .failed
          errorMessage := some errorMessage
          submissionAttempts := attemptNumber })
    fun _ => pure ()

def hexadecimal (n : Nat) : String := String.ofList (Nat.toDigits 16 n)

/-- The placeholder submission of one payload. -/
def submitPayload (payload : SignedPayload) : OracleM String := do
  let memory ← Async.memory
  let transactionHash := "0x" ++ hexadecimal memory.now ++ memory.random
  save { payload with
    status := .submitted
    transactionHash := some transactionHash
    submittedAt := some memory.now
    submissionAttempts := payload.submissionAttempts + 1 }
  pure transactionHash

/-- The loop of validatePayloadsForBatch over the rows found. -/
def validateEach (now : Nat) : List SignedPayload → OracleM (List SignedPayload)
  | [] => pure []
  | payload :: rest => do
    if payload.expiresAt < now then
      markAsFailed payload.id "Payload expired" .permanent 1
      validateEach now rest
    else if payload.status = .confirmed ∨ payload.status = .submitted then
      validateEach now rest
    else if payload.signature = "" then
      markAsFailed payload.id "Payload has no signature" .permanent 1
      validateEach now rest
    else
      let memory ← Async.memory
      if isInFlight memory payload.id then validateEach now rest
      else
        markInFlight payload.id
        let others ← validateEach now rest
        pure (payload :: others)

def validatePayloadsForBatch (payloadIds : List String) : OracleM (List SignedPayload) := do
  if payloadIds = [] then pure []
  else
    let payloads ← find .validatePayloadsForBatch ⟨some payloadIds, none, none, none⟩
    let now ← clock
    validateEach now payloads

def succeeded (payloadId transactionHash : String) (attempt : Nat) : SubmissionResult :=
  ⟨payloadId, true, some transactionHash, none, none, attempt⟩

def failed (payloadId message : String) (failureType : FailureType) (attempt : Nat) :
    SubmissionResult :=
  ⟨payloadId, false, none, some message, some failureType, attempt⟩

def processSequentially : List SignedPayload → OracleM (List SubmissionResult)
  | [] => pure []
  | payload :: rest => do
    let result ← (submitPayload payload).outcome
    match result with
    | .ok transactionHash =>
      sleep 100
      let others ← processSequentially rest
      pure (succeeded payload.id transactionHash 1 :: others)
    | .error failure =>
      let failureType := categorizeFailure failure.message
      markAsFailed payload.id failure.message failureType 1
      sleep 100
      let others ← processSequentially rest
      pure (failed payload.id failure.message failureType 1 :: others)

/-- The results of settled submissions; a failed one is marked without waiting. -/
def recordSettled : List SignedPayload → List (Except Exception OracleValue) →
    OracleM (List SubmissionResult)
  | payload :: payloads, result :: results =>
    match result with
    | .ok (.submittedBatched transactionHash) => do
      let others ← recordSettled payloads results
      pure (succeeded payload.id transactionHash 1 :: others)
    | .ok _ => recordSettled payloads results
    | .error failure => do
      let failureType := categorizeFailure failure.message
      Async.start (R := oracle) (.markAsFailed payload.id failure.message failureType 1)
      let others ← recordSettled payloads results
      pure (failed payload.id failure.message failureType 1 :: others)
  | _, _ => pure []

def processConcurrently (payloads : List SignedPayload) : OracleM (List SubmissionResult) := do
  let results ← Async.allSettled (R := oracle) (payloads.map .submitBatched)
  recordSettled payloads results

/-- The figures of a finished batch. -/
def summary (batchId : String) (results : List SubmissionResult) (totalPayloads totalTimeMs : Nat) :
    BatchSubmissionResult where
  batchId := batchId
  results := results
  totalPayloads := totalPayloads
  successfulPayloads := (results.filter (·.success)).length
  failedPayloads := (results.filter fun r => ! r.success).length
  totalTimeMs := totalTimeMs

def processBatch (config : BatchConfig) (payloadIds : List String) (batchId : Option String) :
    OracleM BatchSubmissionResult := do
  let started ← Async.memory
  let actualBatchId := match batchId with
    | some id => id
    | none => "batch_" ++ toString started.now ++ "_" ++ started.random
  let payloads ← validatePayloadsForBatch payloadIds
  if payloads = [] then
    let finished ← clock
    pure (summary actualBatchId [] 0 (finished - started.now))
  else
    let results ← if config.preserveOrder then processSequentially payloads
      else processConcurrently payloads
    clearAllInFlight (payloads.map (·.id))
    let finished ← clock
    pure (summary actualBatchId results payloads.length (finished - started.now))

/-- The try block of one attempt of processWithRetry. -/
def processAttempt (payloadId : String) (attempt : Nat) : OracleM SubmissionResult := do
  let payload ← findOne .processWithRetry payloadId
  match payload with
  | none => pure (failed payloadId "Payload not found" .permanent attempt)
  | some payload =>
    if payload.status = .confirmed ∨ payload.status = .submitted then
      pure ⟨payloadId, true, payload.transactionHash, none, none, attempt⟩
    else if payload.status = .failed ∧ ! isRetryableError (payload.errorMessage.getD "") then
      pure ⟨payloadId, false, none, payload.errorMessage, some .permanent, attempt⟩
    else
      let transactionHash ← submitPayload payload
      clearInFlight payloadId
      pure (succeeded payloadId transactionHash attempt)

/-- The loop over the attempts `attempt`, `attempt + 1`, ..., `attempts`, of which
`left` are left. -/
def processAttempts (config : BatchConfig) (payloadId : String) (attempts : Nat) :
    (left attempt : Nat) → (lastError : Option String) → OracleM SubmissionResult
  | 0, _, lastError => do
    clearInFlight payloadId
    pure (failed payloadId (lastError.getD "Unknown error") .retryable attempts)
  | left + 1, attempt, _ => do
    let result ← (processAttempt payloadId attempt).outcome
    match result with
    | .ok result => pure result
    | .error failure =>
      let failureType := categorizeFailure failure.message
      if failureType ≠ .retryable ∨ attempts ≤ attempt then
        markAsFailed payloadId failure.message failureType attempt
        clearInFlight payloadId
        pure (failed payloadId failure.message failureType attempt)
      else
        sleep (calculateRetryDelay config attempt)
        processAttempts config payloadId attempts left (attempt + 1) (some failure.message)

def processWithRetry (config : BatchConfig) (payloadId : String) (maxRetries : Option Nat) :
    OracleM SubmissionResult :=
  let attempts := maxRetries.getD config.maxRetries
  processAttempts config payloadId attempts attempts 1 none

def dayMs : Nat := 24 * 60 * 60 * 1000

def getRetryablePayloads (config : BatchConfig) : OracleM (List SignedPayload) := do
  let now ← clock
  let payloads ← find .retryFailedPayloads
    ⟨none, some .failed, some .updatedAt, some config.batchSize⟩
  pure (payloads.filter fun p =>
    isRetryableError (p.errorMessage.getD "") &&
      decide (p.submissionAttempts < config.maxRetries) && decide (now < p.updatedAt + dayMs))

/-- Promise.all: the results, or the first failure. -/
def allResults : List (Except Exception OracleValue) → OracleM (List SubmissionResult)
  | [] => pure []
  | .ok (.submission result) :: rest => do
    let others ← allResults rest
    pure (result :: others)
  | .ok _ :: rest => allResults rest
  | .error failure :: _ => throw failure

def retryChunks (maxConcurrentBatches : Nat) :
    (rounds : Nat) → List String → OracleM (List SubmissionResult)
  | 0, _ => pure []
  | _, [] => pure []
  | rounds + 1, payloadIds => do
    let chunk := payloadIds.take maxConcurrentBatches
    let remaining := payloadIds.drop maxConcurrentBatches
    let settled ← Async.allSettled (R := oracle)
      (chunk.map fun id => OracleCall.processWithRetry id none)
    let results ← allResults settled
    if remaining = [] then pure results
    else
      sleep 500
      let others ← retryChunks maxConcurrentBatches rounds remaining
      pure (results ++ others)

/-- The rows retryFailedPayloads starts from: those asked for, or the retryable ones. -/
def payloadsToRetry (config : BatchConfig) :
    (payloadIds : Option (List String)) → OracleM (List SignedPayload)
  | some (id :: ids) => find .retryFailedPayloads ⟨some (id :: ids), none, none, none⟩
  | _ => getRetryablePayloads config

def retryFailedPayloads (config : BatchConfig) (payloadIds : Option (List String))
    (maxConcurrent : Option Nat) : OracleM BatchSubmissionResult := do
  let started ← Async.memory
  let batchId := "retry_" ++ toString started.now ++ "_" ++ started.random
  let payloads ← payloadsToRetry config payloadIds
  if payloads = [] then
    let finished ← clock
    pure (summary batchId [] 0 (finished - started.now))
  else
    let maxConcurrentBatches := match maxConcurrent with
      | some (n + 1) => n + 1
      | _ => 5
    let results ← retryChunks maxConcurrentBatches payloads.length (payloads.map (·.id))
    let finished ← clock
    pure (summary batchId results payloads.length (finished - started.now))

end SubmissionBatchService

end AlianStructure.Source.Oracle
