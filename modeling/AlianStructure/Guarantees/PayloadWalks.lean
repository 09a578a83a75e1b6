import AlianStructure.Guarantees.PayloadStore

/-!
# The batch service under a protocol about rows

Source: submission-batch.service.ts:109-411,455-720 and submitter.service.ts:325-350. The methods of the batch service
read rows, drop some of them and submit or mark the others one by one. A protocol that has rules for each of these steps
has them for the methods.
-/
namespace AlianStructure.Guarantees.PayloadWalks
open Library.AsyncMethod Library.Interleaving Library.CallProtocol
open Source Source.Oracle

theorem clock_then {α : Type} {P : Protocol oracle} {phase : P.Phase} {post : P.Phase → Except Exception α → Prop}
    {next : Nat → OracleM α} (goesOn : ∀ now, Follows P phase (next now) post) :
    Follows P phase (clock >>= next) post :=
  fun memory => goesOn memory.now

/-- Waiting changes no phase. -/
def Waits (P : Protocol oracle) : Prop :=
  ∀ (phase : P.Phase) (ms : ℚ), Follows P phase (sleep ms) fun after result => after = phase ∧ result = .ok ()

theorem Waits.sleep_then {α : Type} {P : Protocol oracle} (waits : Waits P) {phase : P.Phase} {ms : ℚ}
    {post : P.Phase → Except Exception α → Prop} {next : Unit → OracleM α}
    (goesOn : Follows P phase (next ()) post) : Follows P phase (sleep ms >>= next) post := by
  refine follows_then P (waits phase ms) ?_ ?_
  · rintro _ _ ⟨-, ⟨⟩⟩
  · rintro _ _ ⟨rfl, -⟩
    exact goesOn

/-- An estimate of the gas ends well, whatever is answered. -/
theorem estimateGas_then {P : Protocol oracle} {phase : P.Phase} {payload : SignedPayload}
    {post : P.Phase → Except Exception Nat → Prop}
    (stays : Follows P phase (Async.perform (R := oracle) (.estimateGas payload.submitArguments)) fun after _ =>
      after = phase) (goesOn : ∀ gas, post phase (.ok gas)) :
    Follows P phase (SubmitterService.estimateGas payload) post := by
  unfold SubmitterService.estimateGas
  rw [follows_tryCatch]
  refine follows_mono P ?_ stays
  rintro _ (failure | gas) rfl
  · exact goesOn 300000
  · exact goesOn gas

section Submitter
variable {P : Protocol oracle} {Rests : P.Phase → Prop}

theorem batchSubmitPayloads_follows (config : SubmitterConfig) (waits : Waits P)
    (submits : ∀ payloadId phase, Rests phase →
      Follows P phase (SubmitterService.submitPayload config payloadId) fun after _ => Rests after) :
    ∀ (payloadIds : List String) {phase : P.Phase}, Rests phase →
      Follows P phase (SubmitterService.batchSubmitPayloads config payloadIds) fun after _ => Rests after
  | [], _, rests => rests
  | payloadId :: rest, phase, rests => by
    have others : ∀ {after : P.Phase} (result : Except Exception Submitted), Rests after → Follows P after
        (do
          let others ← SubmitterService.batchSubmitPayloads config rest
          match result with
          | .ok submitted => pure (⟨payloadId, submitted.transactionHash, true, none⟩ :: others)
          | .error failure => pure (⟨payloadId, "", false, some failure.message⟩ :: others))
        fun final _ => Rests final := by
      intro after result resting
      refine follows_then P (batchSubmitPayloads_follows config waits submits rest resting) (fun _ _ ended => ended)
        fun _ _ ended => ?_
      cases result <;> exact ended
    unfold SubmitterService.batchSubmitPayloads
    rw [follows_bind, follows_outcome, follows_bind]
    refine follows_mono _ ?_ (submits payloadId phase rests)
    intro after result resting
    cases result with
    | error failure => exact others (.error failure) resting
    | ok submitted => exact waits.sleep_then (others (.ok submitted) resting)

theorem submitChunks_follows (maxConcurrent : Nat) (waits : Waits P) {phase : P.Phase} (rests : Rests phase)
    (starts : ∀ payloadId, P.starts phase (.submitPayload payloadId)) :
    ∀ (rounds : Nat) (payloadIds : List String), Follows P phase
      (SubmitterService.submitChunks maxConcurrent rounds payloadIds) fun after _ => Rests after
  | 0, _ => rests
  | _ + 1, [] => rests
  | rounds + 1, payloadId :: rest => by
    unfold SubmitterService.submitChunks
    rw [follows_bind, follows_allSettled]
    refine ⟨fun call listed => ?_, fun results => ?_⟩
    · obtain ⟨id, _, rfl⟩ := List.mem_map.mp listed
      exact starts id
    · rw [afterOk_ok]
      dsimp only
      split
      next => exact rests
      next =>
        exact waits.sleep_then (follows_then P (submitChunks_follows maxConcurrent waits rests starts rounds _)
          (fun _ _ ended => ended) fun _ _ ended => ended)

end Submitter

/-! ## The batch service -/

/-- What a protocol knows of rows: a call rests, only what is about one row has changed, a row was read by a batch, and a
row may be submitted; with a rule for each of the steps. -/
structure RowRules (P : Protocol oracle) where
  Idle : P.Phase → Prop
  Kept : String → P.Phase → P.Phase → Prop
  Read : SignedPayload → P.Phase → Prop
  Holds : SignedPayload → P.Phase → Prop
  refl {id phase} : Idle phase → Kept id phase phase
  trans {id phase after final} : Kept id phase after → Kept id after final → Kept id phase final
  idle {id phase after} : Kept id phase after → Idle after
  keepsRead {id phase after payload} : Kept id phase after → payload.id ≠ id → Read payload phase → Read payload after
  keepsHeld {id phase after payload} : Kept id phase after → payload.id ≠ id → Holds payload phase → Holds payload after
  holds {payload phase} : Read payload phase → payload.status ≠ .confirmed → Holds payload phase
  starts {phase call} : Idle phase → (∀ payload, call = .submitBatched payload → Holds payload phase) → P.starts phase call
  waits : Waits P
  finds {phase} (site : Site) (query : PayloadQuery) : site = .validatePayloadsForBatch ∨ site = .retryFailedPayloads →
    Idle phase → Follows P phase (find site query) fun after result => Idle after ∧ ∀ payloads, result = .ok payloads →
      (payloads.map (·.id)).Nodup ∧ ∀ payload ∈ payloads, Read payload after
  reads {phase} (payloadId : String) : Idle phase → Follows P phase (findOne .processWithRetry payloadId)
    fun after result => Idle after ∧ ∀ payload, result = .ok (some payload) → payload.status ≠ .confirmed →
      Holds payload after
  marks {phase} (payloadId message : String) (failureType : FailureType) (attempt : Nat) : Idle phase →
    Follows P phase (SubmissionBatchService.markAsFailed payloadId message failureType attempt) fun after result =>
      result = .ok () ∧ Kept payloadId phase after
  submits {phase payload} : Idle phase → Holds payload phase →
    Follows P phase (SubmissionBatchService.submitPayload payload) fun after _ => Kept payload.id phase after

namespace RowRules
variable {P : Protocol oracle} {phase : P.Phase}

theorem clearAllInFlight_follows {post : P.Phase → Except Exception Unit → Prop} (continues : post phase (.ok ())) :
    ∀ payloadIds : List String, Follows P phase (SubmissionBatchService.clearAllInFlight payloadIds) post
  | [] => continues
  | payloadId :: rest => by
    unfold SubmissionBatchService.clearAllInFlight SubmissionBatchService.clearInFlight
    rw [follows_bind, follows_update]
    intro _
    exact clearAllInFlight_follows continues rest

/-! ## Calls at once -/

variable (rules : RowRules P)

theorem allResults_follows (idle : rules.Idle phase) : ∀ results : List (Except Exception OracleValue),
      Follows P phase (SubmissionBatchService.allResults results) fun after _ => rules.Idle after := by
  intro results
  induction results with
  | nil => exact idle
  | cons result rest ih =>
    unfold SubmissionBatchService.allResults
    split
    next same => cases same
    next same =>
      cases same
      exact follows_then P ih (fun _ _ ended => ended) fun _ _ ended => ended
    next same =>
      cases same
      exact ih
    next => exact idle

theorem retryChunks_follows (maxConcurrentBatches : Nat) :
    ∀ (rounds : Nat) (payloadIds : List String) {phase : P.Phase}, rules.Idle phase →
      Follows P phase (SubmissionBatchService.retryChunks maxConcurrentBatches rounds payloadIds)
        fun after _ => rules.Idle after
  | 0, _, _, idle => idle
  | _ + 1, [], _, idle => idle
  | rounds + 1, payloadId :: rest, phase, idle => by
    unfold SubmissionBatchService.retryChunks
    rw [follows_bind, follows_allSettled]
    refine ⟨fun call listed => ?_, fun settled => ?_⟩
    · obtain ⟨id, _, rfl⟩ := List.mem_map.mp listed
      exact rules.starts idle (by rintro payload ⟨⟩)
    · refine follows_then P (rules.allResults_follows idle settled) (fun _ _ rests => rests) fun after results rests => ?_
      split
      next => exact rests
      next =>
        exact rules.waits.sleep_then (follows_then P (retryChunks_follows maxConcurrentBatches rounds _ rests)
          (fun _ _ ended => ended) fun _ _ ended => ended)

/-! ## A batch -/

/-- The loop keeps rows as they were read; one that is marked as failed is dropped. -/
theorem validateEach_follows (now : Nat) :
    ∀ (payloads : List SignedPayload) (phase : P.Phase), (payloads.map (·.id)).Nodup → rules.Idle phase →
      (∀ payload ∈ payloads, rules.Read payload phase) →
      Follows P phase (SubmissionBatchService.validateEach now payloads)
        fun after result => rules.Idle after ∧ ∀ valid, result = .ok valid → valid.Sublist payloads ∧
          (∀ payload ∈ valid, rules.Holds payload after) ∧
          ∀ other, other.id ∉ payloads.map (·.id) → rules.Holds other phase → rules.Holds other after
  | [], phase, _, idle, _ => by
    refine ⟨idle, ?_⟩
    rintro valid ⟨⟩
    exact ⟨List.Sublist.refl _, by simp, fun _ _ held => held⟩
  | payload :: rest, phase, unique, idle, read => by
    obtain ⟨new, tail⟩ := List.nodup_cons.mp unique
    have apart : ∀ other ∈ rest, other.id ≠ payload.id := fun other member same =>
      new (List.mem_map.mpr ⟨other, member, same⟩)
    -- A row that is skipped leaves the rest of the loop.
    have skipped : ∀ {after : P.Phase}, rules.Kept payload.id phase after →
        Follows P after (SubmissionBatchService.validateEach now rest)
          fun final result => rules.Idle final ∧ ∀ valid, result = .ok valid → valid.Sublist (payload :: rest) ∧
            (∀ payload ∈ valid, rules.Holds payload final) ∧
            ∀ other, other.id ∉ (payload :: rest).map (·.id) → rules.Holds other phase → rules.Holds other final := by
      intro after kept
      refine follows_mono _ ?_ (validateEach_follows now rest after tail (rules.idle kept) fun other member =>
        rules.keepsRead kept (apart other member) (read other (List.mem_cons_of_mem _ member)))
      rintro final result ⟨rests, ended⟩
      refine ⟨rests, fun valid ok => ?_⟩
      obtain ⟨sublist, held, others⟩ := ended valid ok
      refine ⟨sublist.cons _, held, fun other absent before => ?_⟩
      simp only [List.map_cons, List.mem_cons, not_or] at absent
      exact others other absent.2 (rules.keepsHeld kept absent.1 before)
    have marked : ∀ message, Follows P phase
        (do
          SubmissionBatchService.markAsFailed payload.id message .permanent 1
          SubmissionBatchService.validateEach now rest)
        fun final result => rules.Idle final ∧ ∀ valid, result = .ok valid → valid.Sublist (payload :: rest) ∧
          (∀ payload ∈ valid, rules.Holds payload final) ∧
          ∀ other, other.id ∉ (payload :: rest).map (·.id) → rules.Holds other phase → rules.Holds other final := by
      intro message
      refine follows_then P (rules.marks payload.id message .permanent 1 idle) ?_ fun _ _ ended => skipped ended.2
      rintro _ _ ⟨⟨⟩, -⟩
    unfold SubmissionBatchService.validateEach
    split
    next => exact marked _
    next =>
      split
      next => exact skipped (rules.refl idle)
      next unsubmitted =>
        split
        next => exact marked _
        next =>
          rw [follows_bind, follows_memory]
          intro memory
          rw [afterOk_ok]
          split
          next => exact skipped (rules.refl idle)
          next =>
            unfold SubmissionBatchService.markInFlight
            rw [follows_bind, follows_update]
            intro _
            rw [afterOk_ok, follows_bind]
            refine follows_mono _ ?_ (validateEach_follows now rest phase tail idle fun other member =>
              read other (List.mem_cons_of_mem _ member))
            rintro final result ⟨rests, ended⟩
            cases result with
            | error failure => exact ⟨rests, fun valid => by rintro ⟨⟩⟩
            | ok more =>
              obtain ⟨sublist, held, others⟩ := ended more rfl
              refine ⟨rests, ?_⟩
              rintro valid ⟨⟩
              refine ⟨sublist.cons_cons _, fun other member => ?_, fun other absent before => ?_⟩
              · rcases List.mem_cons.mp member with rfl | later
                · have here := rules.holds (read other List.mem_cons_self) fun same => unsubmitted (.inl same)
                  exact others other new here
                · exact held other later
              · simp only [List.map_cons, List.mem_cons, not_or] at absent
                exact others other absent.2 before

theorem validatePayloadsForBatch_follows (payloadIds : List String) (idle : rules.Idle phase) :
    Follows P phase (SubmissionBatchService.validatePayloadsForBatch payloadIds)
      fun after result => rules.Idle after ∧ ∀ valid, result = .ok valid →
        (valid.map (·.id)).Nodup ∧ ∀ payload ∈ valid, rules.Holds payload after := by
  unfold SubmissionBatchService.validatePayloadsForBatch
  split
  next =>
    refine ⟨idle, ?_⟩
    rintro valid ⟨⟩
    exact ⟨List.nodup_nil, by simp⟩
  next =>
    refine follows_then P (rules.finds _ _ (.inl rfl) idle) (fun _ _ ended => ⟨ended.1, by rintro valid ⟨⟩⟩) ?_
    rintro after payloads ⟨rests, ended⟩
    obtain ⟨unique, read⟩ := ended payloads rfl
    refine clock_then fun now => ?_
    refine follows_mono _ ?_ (rules.validateEach_follows now payloads after unique rests read)
    rintro final result ⟨resting, ended⟩
    refine ⟨resting, fun valid ok => ?_⟩
    obtain ⟨sublist, held, _⟩ := ended valid ok
    exact ⟨unique.sublist (sublist.map _), held⟩

theorem processSequentially_follows :
    ∀ (payloads : List SignedPayload) (phase : P.Phase), (payloads.map (·.id)).Nodup → rules.Idle phase →
      (∀ payload ∈ payloads, rules.Holds payload phase) →
      Follows P phase (SubmissionBatchService.processSequentially payloads) fun after _ => rules.Idle after
  | [], _, _, idle, _ => idle
  | payload :: rest, phase, unique, idle, held => by
    obtain ⟨new, tail⟩ := List.nodup_cons.mp unique
    have others : ∀ {after : P.Phase} (entry : SubmissionResult), rules.Kept payload.id phase after →
        Follows P after
          (do
            sleep 100
            let others ← SubmissionBatchService.processSequentially rest
            pure (entry :: others))
          fun final _ => rules.Idle final := by
      intro after entry kept
      have restHeld : ∀ other ∈ rest, rules.Holds other after := fun other member =>
        rules.keepsHeld kept (fun same => new (List.mem_map.mpr ⟨other, member, same⟩))
          (held other (List.mem_cons_of_mem _ member))
      exact rules.waits.sleep_then (follows_then P
        (processSequentially_follows rest after tail (rules.idle kept) restHeld) (fun _ _ ended => ended)
        fun _ _ ended => ended)
    unfold SubmissionBatchService.processSequentially
    rw [follows_bind, follows_outcome]
    refine follows_mono _ ?_ (rules.submits idle (held payload List.mem_cons_self))
    intro after result kept
    rw [afterOk_ok]
    cases result with
    | ok hash => exact others _ kept
    | error failure =>
      refine follows_then P (rules.marks payload.id failure.message (categorizeFailure failure.message) 1
        (rules.idle kept)) ?_ fun _ _ ended => others _ (rules.trans kept ended.2)
      rintro _ _ ⟨⟨⟩, -⟩

theorem recordSettled_follows (idle : rules.Idle phase) :
    ∀ (payloads : List SignedPayload) (results : List (Except Exception OracleValue)),
      Follows P phase (SubmissionBatchService.recordSettled payloads results) fun after _ => rules.Idle after := by
  intro payloads
  induction payloads with
  | nil =>
    intro results
    cases results <;> exact idle
  | cons payload rest ih =>
    intro results
    have entry : ∀ (results : List (Except Exception OracleValue)) (entry : SubmissionResult),
        Follows P phase
          (do
            let others ← SubmissionBatchService.recordSettled rest results
            pure (entry :: others))
          fun after _ => rules.Idle after := by
      intro results entry
      exact follows_then P (ih results) (fun _ _ ended => ended) fun _ _ ended => ended
    cases results with
    | nil => exact idle
    | cons result results =>
      unfold SubmissionBatchService.recordSettled
      split
      next => exact entry results _
      next => exact ih results
      next => exact ⟨rules.starts idle (by rintro payload ⟨⟩), entry results _⟩

theorem processConcurrently_follows {payloads : List SignedPayload} (idle : rules.Idle phase)
    (held : ∀ payload ∈ payloads, rules.Holds payload phase) :
    Follows P phase (SubmissionBatchService.processConcurrently payloads) fun after _ => rules.Idle after := by
  unfold SubmissionBatchService.processConcurrently
  rw [follows_bind, follows_allSettled]
  refine ⟨fun call listed => ?_, fun results => rules.recordSettled_follows idle payloads results⟩
  obtain ⟨payload, member, rfl⟩ := List.mem_map.mp listed
  exact rules.starts idle (by rintro other ⟨⟩; exact held payload member)

theorem processBatch_follows (config : BatchConfig) (payloadIds : List String) (batchId : Option String)
    (idle : rules.Idle phase) :
    Follows P phase (SubmissionBatchService.processBatch config payloadIds batchId) fun after _ => rules.Idle after := by
  unfold SubmissionBatchService.processBatch
  rw [follows_bind, follows_memory]
  intro started
  rw [afterOk_ok]
  dsimp only
  refine follows_then P (rules.validatePayloadsForBatch_follows payloadIds idle) (fun _ _ ended => ended.1) ?_
  rintro after payloads ⟨rests, ended⟩
  obtain ⟨unique, held⟩ := ended payloads rfl
  have finishes : ∀ (id : String) (final : P.Phase) (result : Except Exception (List SubmissionResult)),
      rules.Idle final → afterOk P (fun results => do
        SubmissionBatchService.clearAllInFlight (payloads.map (·.id))
        let finished ← clock
        pure (SubmissionBatchService.summary id results payloads.length (finished - started.now)))
        (fun final _ => rules.Idle final) final result := by
    intro id final result resting
    cases result with
    | error failure => exact resting
    | ok results =>
      rw [afterOk_ok, follows_bind]
      refine clearAllInFlight_follows ?_ _
      rw [afterOk_ok]
      exact clock_then fun _ => resting
  split
  next => exact clock_then fun _ => rests
  next =>
    split
    next =>
      rw [follows_bind]
      exact follows_mono _ (fun final result resting => finishes _ final result resting)
        (rules.processSequentially_follows payloads after unique rests held)
    next =>
      rw [follows_bind]
      exact follows_mono _ (fun final result resting => finishes _ final result resting)
        (rules.processConcurrently_follows rests held)

/-! ## Retries -/

theorem processAttempt_follows (payloadId : String) (attempt : Nat) (idle : rules.Idle phase) :
    Follows P phase (SubmissionBatchService.processAttempt payloadId attempt) fun after _ => rules.Idle after := by
  unfold SubmissionBatchService.processAttempt
  rw [follows_bind]
  refine follows_mono _ ?_ (rules.reads payloadId idle)
  rintro after result ⟨rests, ended⟩
  match result with
  | .error failure => exact rests
  | .ok none => exact rests
  | .ok (some payload) =>
    rw [afterOk_ok]
    dsimp only
    split
    next => exact rests
    next unsubmitted =>
      split
      next => exact rests
      next =>
        have held := ended payload rfl (not_or.mp unsubmitted).1
        exact follows_then P (rules.submits rests held) (fun _ _ kept => rules.idle kept) fun _ _ kept _ =>
          rules.idle kept

theorem processAttempts_follows (config : BatchConfig) (payloadId : String) (attempts : Nat) :
    ∀ (left attempt : Nat) (lastError : Option String) {phase : P.Phase}, rules.Idle phase →
      Follows P phase (SubmissionBatchService.processAttempts config payloadId attempts left attempt lastError)
        fun after _ => rules.Idle after
  | 0, _, _, _, idle => fun _ => idle
  | left + 1, attempt, _, phase, idle => by
    unfold SubmissionBatchService.processAttempts
    rw [follows_bind, follows_outcome]
    refine follows_mono _ ?_ (rules.processAttempt_follows payloadId attempt idle)
    intro after result rests
    rw [afterOk_ok]
    cases result with
    | ok result => exact rests
    | error failure =>
      dsimp only
      split
      next =>
        refine follows_then P (rules.marks payloadId failure.message (categorizeFailure failure.message) attempt
          rests) ?_ fun _ _ ended _ => rules.idle ended.2
        rintro _ _ ⟨⟨⟩, -⟩
      next => exact rules.waits.sleep_then (processAttempts_follows config payloadId attempts left (attempt + 1) _ rests)

theorem payloadsToRetry_follows (config : BatchConfig) (payloadIds : Option (List String)) (idle : rules.Idle phase) :
    Follows P phase (SubmissionBatchService.payloadsToRetry config payloadIds) fun after _ => rules.Idle after := by
  unfold SubmissionBatchService.payloadsToRetry
  split
  next => exact follows_mono _ (fun _ _ ended => ended.1) (rules.finds _ _ (.inr rfl) idle)
  next =>
    unfold SubmissionBatchService.getRetryablePayloads
    exact clock_then fun now => follows_then P (rules.finds _ _ (.inr rfl) idle) (fun _ _ ended => ended.1)
      fun _ _ ended => ended.1

theorem retryFailedPayloads_follows (config : BatchConfig) (payloadIds : Option (List String))
    (maxConcurrent : Option Nat) (idle : rules.Idle phase) :
    Follows P phase (SubmissionBatchService.retryFailedPayloads config payloadIds maxConcurrent)
      fun after _ => rules.Idle after := by
  unfold SubmissionBatchService.retryFailedPayloads
  rw [follows_bind, follows_memory]
  intro started
  rw [afterOk_ok]
  refine follows_then P (rules.payloadsToRetry_follows config payloadIds idle) (fun _ _ rests => rests) ?_
  intro after payloads rests
  split
  next => exact clock_then fun _ => rests
  next =>
    exact follows_then P (rules.retryChunks_follows _ payloads.length _ rests) (fun _ _ ended => ended)
      fun _ _ ended => clock_then fun _ => ended

end RowRules
end AlianStructure.Guarantees.PayloadWalks
