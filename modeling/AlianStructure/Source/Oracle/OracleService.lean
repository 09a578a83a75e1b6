import AlianStructure.Source.Oracle.SubmissionBatchService

/-!
# The oracle services as one process

Source: src/blockchain/oracle/services/oracle.service.ts:345-370 for the clean-up; its
submitPayload and retrySubmission hand their argument to the submitter and map the
result to a response. The process runs the calls of all three services against one
payload table and one chain.
-/
namespace AlianStructure.Source.Oracle
open Library.Interleaving

namespace OracleService

def cleanupExpiredPayloads : OracleM Nat := do
  let now ← clock
  let expiredPayloads ← find .cleanupExpiredPayloads ⟨none, some .pending, none, none⟩
  let toUpdate := (expiredPayloads.filter fun p => decide (p.expiresAt < now)).map fun p =>
    { p with status := .failed, errorMessage := some "Payload expired" }
  if toUpdate ≠ [] then
    saveAll toUpdate
    pure toUpdate.length
  else pure 0

end OracleService

structure OracleConfig where
  submitter : SubmitterConfig
  batch : BatchConfig
  deriving DecidableEq

def oracleBody (config : OracleConfig) : OracleCall → OracleM OracleValue
  | .submitPayload payloadId => do
    let result ← SubmitterService.submitPayload config.submitter payloadId
    pure (.submitted result)
  | .retrySubmission payloadId => do
    let result ← SubmitterService.retrySubmission config.submitter payloadId
    pure (.submitted result)
  | .batchSubmitPayloads payloadIds => do
    let results ← SubmitterService.batchSubmitPayloads config.submitter payloadIds
    pure (.submitterResults results)
  | .batchSubmitPayloadsConcurrent payloadIds maxConcurrent => do
    let results ← SubmitterService.batchSubmitPayloadsConcurrent payloadIds maxConcurrent
    pure (.submitterResults results)
  | .monitorTransaction payloadId txHash => do
    SubmitterService.monitorTransaction payloadId txHash
    pure .nothing
  | .processBatch payloadIds batchId => do
    let result ← SubmissionBatchService.processBatch config.batch payloadIds batchId
    pure (.batch result)
  | .processWithRetry payloadId maxRetries => do
    let result ← SubmissionBatchService.processWithRetry config.batch payloadId maxRetries
    pure (.submission result)
  | .retryFailedPayloads payloadIds maxConcurrent => do
    let result ← SubmissionBatchService.retryFailedPayloads config.batch payloadIds maxConcurrent
    pure (.batch result)
  | .submitBatched payload => do
    let transactionHash ← SubmissionBatchService.submitPayload payload
    pure (.submittedBatched transactionHash)
  | .markAsFailed payloadId errorMessage failureType attemptNumber => do
    SubmissionBatchService.markAsFailed payloadId errorMessage failureType attemptNumber
    pure .nothing
  | .cleanupExpiredPayloads => do
    let n ← OracleService.cleanupExpiredPayloads
    pure (.count n)

/-- Private methods are only started by other methods. -/
def OracleCall.isPublic : OracleCall → Bool
  | .monitorTransaction _ _ | .submitBatched _ | .markAsFailed _ _ _ _ => false
  | _ => true

/-- The process, open to the public calls that `offers` admits. -/
abbrev oracleProcess (config : OracleConfig) (offers : OracleCall → Bool) : Service oracle where
  World := OracleWorld
  Choice := Outcome
  Env := OracleEnvironment
  respond := OracleWorld.respond
  environment := oracleEnvironment
  isPublic call := call.isPublic && offers call
  body := oracleBody config

end AlianStructure.Source.Oracle
