import Mathlib.Data.Rat.Floor
import AlianStructure.Source.Oracle.SignedPayload

/-!
# Submitter: broadcasting signed payloads

Source: src/blockchain/oracle/services/submitter.service.ts:108-445,506-606. The
gas limit is the exact ceiling of estimate times multiplier. The entity that a
method has loaded is mutable in the source; here each mutation is a new value, so
the catch block of the retry loop is given the entity as the try block left it.
-/
namespace AlianStructure.Source.Oracle
open Library.AsyncMethod

/-- The configuration of the service; `configured` is false when provider, wallet
and contract were not built. -/
structure SubmitterConfig where
  configured : Bool
  maxRetries : Nat
  initialRetryDelay : ℚ
  maxRetryDelay : ℚ
  backoffMultiplier : ℚ
  gasLimitMultiplier : ℚ
  deriving DecidableEq

namespace SubmitterService

def calculateRetryDelay (config : SubmitterConfig) (attempt : Nat) : ℚ :=
  min (config.initialRetryDelay * config.backoffMultiplier ^ (attempt - 1)) config.maxRetryDelay

def estimateGas (payload : SignedPayload) : OracleM Nat :=
  tryCatch (Async.perform (R := oracle) (.estimateGas payload.submitArguments))
    fun _ => pure 300000

def broadcast (payload : SignedPayload) (gasLimit : Nat) : OracleM String :=
  Async.perform (R := oracle) (.submitPayload payload.id payload.submitArguments gasLimit)

/-- The catch block of monitorTransaction. -/
def onMonitoringFailed (payloadId : String) (failure : Exception) : OracleM Unit := do
  let payload ← findOne .monitoringFailed payloadId
  match payload with
  | none => pure ()
  | some payload =>
    save { payload with
      status := .failed
      errorMessage := some ("Transaction monitoring failed: " ++ failure.message) }

def monitorTransaction (payloadId txHash : String) : OracleM Unit :=
  tryCatch
    (do
      let receipt ← Async.perform (R := oracle) (.waitForTransaction txHash)
      match receipt with
      | none => throw (.error "Transaction receipt is null")
      | some receipt =>
        let payload ← findOne .monitorTransaction payloadId
        match payload with
        | none => pure ()
        | some payload =>
          let now ← clock
          if receipt.status = 1 then
            save { payload with
              status := .confirmed
              blockNumber := some receipt.blockNumber
              confirmedAt := some now
              errorMessage := none }
          else
            save { payload with
              status := .failed
              errorMessage := some "Transaction reverted on-chain" })
    (onMonitoringFailed payloadId)

/-- The catch block of one attempt; `retry` is the next round of the loop. -/
def onAttemptFailed (config : SubmitterConfig) (payload : SignedPayload) (attempt : Nat)
    (failure : Exception) (retry : SignedPayload → OracleM Submitted) : OracleM Submitted := do
  let failureType := categorizeFailure failure.message
  let payload := { payload with
    submissionAttempts := attempt, errorMessage := some failure.message }
  if config.maxRetries < attempt ∨ failureType = .permanent then do
    save { payload with status := .failed }
    throw failure
  else do
    sleep (calculateRetryDelay config attempt)
    retry payload

/-- The loop over the attempts `attempt`, `attempt + 1`, ..., of which `left` are left. -/
def submitAttempts (config : SubmitterConfig) :
    (left attempt : Nat) → SignedPayload → OracleM Submitted
  | 0, _, _ => throw (.error "null")
  | left + 1, attempt, payload => do
    let retry := submitAttempts config left (attempt + 1)
    let gasEstimate ← estimateGas payload
    let gasLimit := ⌈gasEstimate * config.gasLimitMultiplier⌉.toNat
    let sent ← (broadcast payload gasLimit).outcome
    match sent with
    | .error failure => onAttemptFailed config payload attempt failure retry
    | .ok hash =>
      let now ← clock
      let payload := { payload with
        transactionHash := some hash
        status := .submitted
        submittedAt := some now
        submissionAttempts := attempt
        errorMessage := none }
      let saved ← (save payload).outcome
      match saved with
      | .error failure => onAttemptFailed config payload attempt failure retry
      | .ok () =>
        Async.start (R := oracle) (.monitorTransaction payload.id hash)
        pure ⟨hash, payload⟩

/-- The part of submitPayload after the idempotency checks. -/
def submitPending (config : SubmitterConfig) (payload : SignedPayload) : OracleM Submitted := do
  if payload.status ≠ .pending then
    throw (.badRequest ("Payload " ++ payload.id ++ " is not in PENDING status (current: " ++
      payload.status.text ++ ")"))
  else if payload.signature = "" then
    throw (.badRequest ("Payload " ++ payload.id ++ " is not signed"))
  else
    let now ← clock
    if payload.expiresAt < now then do
      save { payload with
        status := .failed
        errorMessage := some "Payload expired before submission" }
      throw (.badRequest "Payload has expired")
    else submitAttempts config (config.maxRetries + 1) 1 payload

def submitPayload (config : SubmitterConfig) (payloadId : String) : OracleM Submitted := do
  if ¬ config.configured then
    throw (.badRequest
      "SubmitterService is not configured. Blockchain features are disabled.")
  else
    let payload ← findOne .submitPayload payloadId
    match payload with
    | none => throw (.badRequest ("Payload " ++ payloadId ++ " not found"))
    | some payload =>
      match payload.status, payload.transactionHash with
      | .confirmed, some hash => pure ⟨hash, payload⟩
      | .submitted, some hash => do
        Async.start (R := oracle) (.monitorTransaction payloadId hash)
        pure ⟨hash, payload⟩
      | _, _ => submitPending config payload

def retrySubmission (config : SubmitterConfig) (payloadId : String) : OracleM Submitted := do
  let payload ← findOne .retrySubmission payloadId
  match payload with
  | none => throw (.badRequest ("Payload " ++ payloadId ++ " not found"))
  | some payload =>
    if config.maxRetries ≤ payload.submissionAttempts then
      throw (.badRequest
        ("Payload has exceeded maximum retry attempts (" ++ toString config.maxRetries ++ ")"))
    else do
      save { payload with status := .pending, errorMessage := none }
      submitPayload config payloadId

def batchSubmitPayloads (config : SubmitterConfig) :
    List String → OracleM (List SubmitterResult)
  | [] => pure []
  | payloadId :: rest => do
    let result ← (do
      let submitted ← submitPayload config payloadId
      sleep 500
      pure submitted : OracleM Submitted).outcome
    let others ← batchSubmitPayloads config rest
    match result with
    | .ok submitted => pure (⟨payloadId, submitted.transactionHash, true, none⟩ :: others)
    | .error failure => pure (⟨payloadId, "", false, some failure.message⟩ :: others)

/-- The entry recorded for a settled submission. -/
def settledResult (payloadId : String) :
    Except Exception OracleValue → SubmitterResult
  | .ok (.submitted result) => ⟨payloadId, result.transactionHash, true, none⟩
  | .ok _ => ⟨payloadId, "", false, some "Unknown error"⟩
  | .error failure =>
    ⟨payloadId, "", false,
      some (if failure.message = "" then "Unknown error" else failure.message)⟩

/-- The rounds of the chunk loop; a chunk size of zero, with which the source never
leaves the loop, submits nothing here either. -/
def submitChunks (maxConcurrent : Nat) :
    (rounds : Nat) → List String → OracleM (List SubmitterResult)
  | 0, _ => pure []
  | _, [] => pure []
  | rounds + 1, payloadIds => do
    let chunk := payloadIds.take maxConcurrent
    let remaining := payloadIds.drop maxConcurrent
    let settled ← Async.allSettled (R := oracle) (chunk.map .submitPayload)
    let results := List.zipWith settledResult chunk settled
    if remaining = [] then pure results
    else do
      sleep 200
      let others ← submitChunks maxConcurrent rounds remaining
      pure (results ++ others)

def batchSubmitPayloadsConcurrent (payloadIds : List String) (maxConcurrent : Nat) :
    OracleM (List SubmitterResult) :=
  submitChunks maxConcurrent payloadIds.length payloadIds

end SubmitterService

end AlianStructure.Source.Oracle
