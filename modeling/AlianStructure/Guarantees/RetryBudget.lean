import AlianStructure.Guarantees.PayloadWalks

/-!
# The retry budget of a payload

Source: submitter.service.ts:232-323,421-445 and submission-batch.service.ts:109-411,455-720.
All calls of the oracle services run against one table. For a fixed payload the protocol
remembers which counts of attempts the row can have after what a call has read and written, and
how many calls of the contract it has made that no write has recorded.
-/
namespace AlianStructure.Guarantees.RetryBudget
open Library.AsyncMethod Library.Interleaving Library.CallProtocol Library.KeyedTable
open Source Source.Oracle PayloadStore PayloadWalks

/-! ## What a call knows of the count -/

/-- The calls in which the contract may be called. -/
def submits : OracleCall → Bool
  | .submitPayload _ | .retrySubmission _ | .batchSubmitPayloads _ => true
  | _ => false

/-- `held` are the counts that the row can have, `marks` says that the row was read to mark it as
failed, `calls` counts the contract calls that are not recorded, `asks` says that the call asks for
a retry and `granted` that it got one, and `sender` that it may call the contract. -/
structure Tally where
  held : List Nat
  marks : Bool
  calls : Nat
  asks : Bool
  granted : Bool
  sender : Bool
  deriving DecidableEq

def Tally.see (maxRetries : Nat) (tally : Tally) (site : Site) (payload : SignedPayload) : Tally :=
  { tally with
    held := [payload.submissionAttempts]
    marks := decide (site = .markAsFailed)
    granted := tally.granted ||
      decide (site = .retrySubmission ∧ payload.submissionAttempts < maxRetries) }

/-- Reading the row of an id: only that of the payload counts. -/
def Tally.read (p : String) (maxRetries : Nat) (tally : Tally) (site : Site) (id : String)
    (payload : SignedPayload) : Tally :=
  if id = p then tally.see maxRetries site payload else tally

/-- A write that is answered with a failure may have been stored. -/
def Tally.store (tally : Tally) (payload : SignedPayload) (answered : Bool) : Tally :=
  { tally with
    held := payload.submissionAttempts :: tally.held
    calls := if payload.status = .failed ∨ answered then 0 else tally.calls }

def Tally.after (p : String) (maxRetries : Nat) (tally : Tally) :
    (op : OracleOp) → Except Exception op.Reply → Tally
  | .findOne site id, .ok (some payload) => tally.read p maxRetries site id payload
  | .find site _, .ok payloads =>
    match payloads.find? fun payload => decide (payload.id = p) with
    | some payload => tally.see maxRetries site payload
    | none => tally
  | .save payload, result => if payload.id = p then tally.store payload result.isOk else tally
  | .submitPayload id _ _, _ => if id = p then { tally with calls := tally.calls + 1 } else tally
  | _, _ => tally

/-- What a call may store: the number of its contract calls, or no less than it has read. -/
def Tally.mayStore (tally : Tally) (payload : SignedPayload) : Prop :=
  (0 < tally.calls → payload.submissionAttempts = tally.calls) ∧
    (tally.calls = 0 → tally.marks = false → ∀ count ∈ tally.held,
      count ≤ payload.submissionAttempts)

def Tally.allows (p : String) (tally : Tally) : OracleOp → Prop
  | .findOne _ _ | .find _ _ => tally.calls = 0
  | .save payload => payload.id = p → tally.mayStore payload
  | .saveAll payloads => tally.calls = 0 ∧
    ∀ payload ∈ payloads, payload.id = p → tally.marks = false ∧ tally.mayStore payload
  | .submitPayload id _ _ => id = p → tally.sender = true
  | _ => True

/-- A batched submission is given the row that its batch has read. -/
def Tally.start (p : String) (call : OracleCall) : Tally :=
  match call with
  | .submitBatched payload =>
    ⟨if payload.id = p then [payload.submissionAttempts] else [], false, 0, false, false, false⟩
  | .retrySubmission id => ⟨[], false, 0, decide (id = p), false, true⟩
  | _ => ⟨[], false, 0, false, false, submits call⟩

/-- A retry that is not granted fails. -/
abbrev counting (p : String) (maxRetries : Nat) : Protocol oracle where
  Phase := Tally
  start := Tally.start p
  starts _ _ := True
  allows := Tally.allows p
  possible := possible
  advance := Tally.after p maxRetries
  returns tally result := tally.calls = 0 ∧
    (tally.asks = true → tally.granted = false → ∃ failure, result = .error failure)

section Programs
variable {p : String} {maxRetries : Nat} {α : Type}

/-- Everything is recorded, and a retry that was asked for is granted. -/
def Idle (tally : Tally) : Prop :=
  tally.calls = 0 ∧ (tally.asks = true → tally.granted = true)

abbrev idleEnd : Tally → Except Exception α → Prop := fun after _ => Idle after

/-- Only what is about the payload changes the tally. -/
structure Kept (p id : String) (tally after : Tally) : Prop where
  idle : Idle after
  other : id ≠ p → after = tally
  sender : after.sender = tally.sender

/-- The count in the row of the payload is the one that was read last. -/
def Holds (p : String) (payload : SignedPayload) (tally : Tally) : Prop :=
  payload.id = p → tally.held = [payload.submissionAttempts] ∧ tally.marks = false

variable {payload : SignedPayload}

theorem Holds.kept {id : String} {tally after : Tally} (kept : Kept p id tally after) (other : payload.id ≠ id)
    (holds : Holds p payload tally) : Holds p payload after := by
  intro same
  rw [kept.other fun equal => other (same.trans equal.symm)]
  exact holds same

theorem Idle.see {tally : Tally} (idle : Idle tally) (site : Site) (payload : SignedPayload) :
    Idle (tally.see maxRetries site payload) :=
  ⟨idle.1, fun asks => by simp [Tally.see, idle.2 asks]⟩

variable {site : Site}

theorem sender_read {tally : Tally} {id : String} :
    (tally.read p maxRetries site id payload).sender = tally.sender := by
  unfold Tally.read
  split <;> rfl

theorem Idle.read {tally : Tally} (idle : Idle tally) (site : Site) (id : String)
    (payload : SignedPayload) : Idle (tally.read p maxRetries site id payload) := by
  unfold Tally.read
  split
  next => exact idle.see site payload
  next => exact idle

theorem sender_after (tally : Tally) (op : OracleOp) (result : Except Exception op.Reply) :
    (tally.after p maxRetries op result).sender = tally.sender := by
  unfold Tally.after
  split
  next => exact sender_read
  next => split <;> rfl
  next => split <;> rfl
  next => split <;> rfl
  next => rfl

theorem asks_after (tally : Tally) (op : OracleOp) (result : Except Exception op.Reply) :
    (tally.after p maxRetries op result).asks = tally.asks := by
  unfold Tally.after
  split
  next =>
    unfold Tally.read
    split <;> rfl
  next => split <;> rfl
  next => split <;> rfl
  next => split <;> rfl
  next => rfl

theorem follows_op {tally : Tally} {op : OracleOp}
    {post : Tally → Except Exception op.Reply → Prop} (allowed : tally.allows p op)
    (continues : ∀ result, possible op result → post (tally.after p maxRetries op result) result) :
    Follows (counting p maxRetries) tally (Async.perform (R := oracle) op) post :=
  ⟨allowed, continues⟩

theorem waits : Waits (counting p maxRetries) := fun tally _ =>
  follows_op trivial fun result waits => by
    cases result with
    | ok _ => exact ⟨rfl, rfl⟩
    | error _ => exact waits.elim

theorem findOne_follows {tally : Tally} {id : String} {post : Tally → Except Exception (Option SignedPayload) → Prop}
    (recorded : tally.calls = 0) (failed : ∀ failure, post tally (.error failure)) (missing : post tally (.ok none))
    (found : ∀ payload, payload.id = id → post (tally.read p maxRetries site id payload) (.ok (some payload))) :
    Follows (counting p maxRetries) tally (findOne site id) post :=
  follows_op recorded fun result named => by
    match result with
    | .error failure => exact failed failure
    | .ok none => exact missing
    | .ok (some payload) => exact found payload named

theorem read_follows {tally : Tally} {id : String} {post : Tally → Except Exception (Option SignedPayload) → Prop}
    (idle : Idle tally) (reads : site ≠ .markAsFailed) (failed : ∀ failure, post tally (.error failure))
    (missing : post tally (.ok none))
    (found : ∀ after payload, payload.id = id → Kept p id tally after → Holds p payload after →
      post after (.ok (some payload))) : Follows (counting p maxRetries) tally (findOne site id) post := by
  refine findOne_follows idle.1 failed missing fun payload named => ?_
  refine found _ payload named ⟨idle.read site id payload, fun other => if_neg other, sender_read⟩
    fun same => ?_
  rw [Tally.read, if_pos (named ▸ same)]
  exact ⟨rfl, by simp [Tally.see, reads]⟩

theorem store_idle {tally : Tally} (idle : Idle tally) (payload : SignedPayload) (answered : Bool) :
    Idle (tally.store payload answered) := by
  refine ⟨?_, idle.2⟩
  simp only [Tally.store]
  split
  next => rfl
  next => exact idle.1

variable {post : Tally → Except Exception Unit → Prop}

theorem save_follows {tally : Tally} (idle : Idle tally)
    (fits : payload.id = p → tally.marks = false → ∀ count ∈ tally.held, count ≤ payload.submissionAttempts)
    (continues : ∀ after result, Kept p payload.id tally after → post after result) :
    Follows (counting p maxRetries) tally (save payload) post := by
  refine follows_op (fun same => ⟨fun some => absurd idle.1 (Nat.ne_of_gt some), fun _ =>
    fits same⟩) fun result _ => ?_
  refine continues _ result ?_
  simp only [Tally.after]
  split
  next same => exact ⟨store_idle idle payload _, fun other => absurd same other, rfl⟩
  next => exact ⟨idle, fun _ => rfl, rfl⟩

/-- A row that is held is stored with the count it was read with, or a greater one. -/
theorem saveHeld_follows {tally : Tally} {payload changed : SignedPayload} (idle : Idle tally)
    (holds : Holds p payload tally) (same : changed.id = payload.id)
    (greater : payload.submissionAttempts ≤ changed.submissionAttempts)
    (continues : ∀ after result, Kept p payload.id tally after → post after result) :
    Follows (counting p maxRetries) tally (save changed) post := by
  refine save_follows idle (fun about _ count member => ?_) (same ▸ continues)
  rw [(holds (same ▸ about)).1] at member
  rw [List.mem_singleton.mp member]
  exact greater

theorem onMonitoringFailed_follows (payloadId : String) (failure : Exception) {tally : Tally} (idle : Idle tally) :
    Follows (counting p maxRetries) tally (SubmitterService.onMonitoringFailed payloadId failure) idleEnd := by
  unfold SubmitterService.onMonitoringFailed
  rw [follows_bind]
  refine read_follows idle (by decide) (fun _ => idle) idle fun after payload _ kept holds => ?_
  exact saveHeld_follows kept.idle holds rfl le_rfl fun final _ stored => stored.idle

theorem monitorTransaction_follows (payloadId txHash : String) {tally : Tally} (idle : Idle tally) :
    Follows (counting p maxRetries) tally (SubmitterService.monitorTransaction payloadId txHash) idleEnd := by
  have handled : ∀ failure {after : Tally}, Idle after → Follows (counting p maxRetries) after
      (SubmitterService.onMonitoringFailed payloadId failure) idleEnd :=
    fun failure _ => onMonitoringFailed_follows payloadId failure
  have stored : ∀ {after : Tally} (result : Except Exception Unit), Idle after →
      afterError (counting p maxRetries) (SubmitterService.onMonitoringFailed payloadId) idleEnd
        after result := by
    intro after result rests
    cases result with
    | ok _ => exact rests
    | error failure => exact handled failure rests
  unfold SubmitterService.monitorTransaction
  rw [follows_tryCatch, follows_bind]
  refine follows_op trivial fun receipt _ => ?_
  match receipt with
  | .error failure => exact handled failure idle
  | .ok none => exact handled _ idle
  | .ok (some receipt) =>
    rw [afterOk_ok]
    dsimp only
    rw [follows_bind]
    refine read_follows idle (by decide) (fun failure => handled failure idle) idle
      fun after payload _ kept holds => ?_
    rw [afterOk_ok]
    dsimp only
    refine clock_then fun now => ?_
    split
    next => exact saveHeld_follows kept.idle holds rfl le_rfl fun _ result saved => stored result saved.idle
    next => exact saveHeld_follows kept.idle holds rfl le_rfl fun _ result saved => stored result saved.idle

/-! ## The loop over the attempts -/

/-- So many contract calls for the payload are not recorded. -/
def Trying (p id : String) (calls : Nat) (tally : Tally) : Prop :=
  tally.calls = (if id = p then calls else 0) ∧ (tally.asks = true → tally.granted = true) ∧
    tally.sender = true

theorem Idle.trying {tally : Tally} (idle : Idle tally) (sender : tally.sender = true)
    (id : String) : Trying p id 0 tally :=
  ⟨by simp [idle.1], idle.2, sender⟩

theorem saveAttempt_follows {tally : Tally} {attempt : Nat} (counts : payload.submissionAttempts = attempt + 1)
    (trying : Trying p payload.id (attempt + 1) tally)
    (ended : ∀ after result, payload.status = .failed ∨ result.isOk = true → Idle after → post after result)
    (failed : payload.status ≠ .failed → ∀ after failure, Trying p payload.id (attempt + 1) after →
      post after (.error failure)) : Follows (counting p maxRetries) tally (save payload) post := by
  refine follows_op (fun same => ?_) fun result _ => ?_
  · have calls : tally.calls = attempt + 1 := by rw [trying.1, if_pos same]
    exact ⟨fun _ => by rw [counts, calls], fun none => by omega⟩
  · simp only [Tally.after]
    by_cases finished : payload.status = .failed ∨ result.isOk = true
    · refine ended _ result finished ?_
      split
      next => exact ⟨if_pos finished, trying.2.1⟩
      next other => exact ⟨by rw [trying.1, if_neg other], trying.2.1⟩
    · cases result with
      | ok _ => exact absurd (Or.inr rfl) finished
      | error failure =>
        refine failed (not_or.mp finished).1 _ failure ?_
        split
        next => exact ⟨(if_neg finished).trans trying.1, trying.2⟩
        next => exact trying

theorem onAttemptFailed_follows (config : SubmitterConfig) {attempt : Nat} (failure : Exception)
    {retry : SignedPayload → OracleM Submitted} {tally : Tally} (trying : Trying p payload.id (attempt + 1) tally)
    (retries : attempt + 1 ≤ config.maxRetries → ∀ other : SignedPayload, other.id = payload.id →
      Follows (counting p maxRetries) tally (retry other) idleEnd) : Follows (counting p maxRetries) tally
      (SubmitterService.onAttemptFailed config payload (attempt + 1) failure retry) idleEnd := by
  unfold SubmitterService.onAttemptFailed
  dsimp only
  split
  next last =>
    rw [follows_bind]
    let final : SignedPayload := { payload with
      submissionAttempts := attempt + 1, errorMessage := some failure.message, status := .failed }
    have counts : final.submissionAttempts = attempt + 1 := rfl
    refine saveAttempt_follows counts trying (fun after result _ idle => ?_)
      fun notFailed => absurd rfl notFailed
    cases result <;> exact idle
  next again =>
    refine waits.sleep_then ?_
    exact retries (not_lt.mp (not_or.mp again).1) _ rfl

theorem submitAttempts_follows (config : SubmitterConfig) :
    ∀ (left done : Nat) (payload : SignedPayload) (tally : Tally),
      done + left = config.maxRetries → Trying p payload.id done tally →
      Follows (counting p maxRetries) tally
        (SubmitterService.submitAttempts config (left + 1) (done + 1) payload) idleEnd
  | left, done, payload, tally, counted, trying => by
    have retries : done + 1 ≤ config.maxRetries → ∀ (other : SignedPayload) (after : Tally),
        other.id = payload.id → Trying p payload.id (done + 1) after →
        Follows (counting p maxRetries) after
          (SubmitterService.submitAttempts config left (done + 1 + 1) other) idleEnd := by
      intro notLast other after same again
      cases left with
      | zero => omega
      | succ left =>
        exact submitAttempts_follows config left (done + 1) other after (by omega) (same ▸ again)
    unfold SubmitterService.submitAttempts
    dsimp only
    rw [follows_bind]
    refine estimateGas_then (follows_op trivial fun result _ => by cases result <;> rfl) fun gas => ?_
    rw [afterOk_ok, follows_bind, follows_outcome]
    refine follows_op (fun _ => trying.2.2) fun sent _ => ?_
    rw [afterOk_ok]
    have called : Trying p payload.id (done + 1) (tally.after p maxRetries
        (.submitPayload payload.id payload.submitArguments
          ⌈gas * config.gasLimitMultiplier⌉.toNat) sent) := by
      simp only [Tally.after]
      split
      next same => exact ⟨by simp [trying.1, same], trying.2⟩
      next other => exact ⟨by rw [trying.1, if_neg other, if_neg other], trying.2⟩
    cases sent with
    | error failure =>
      exact onAttemptFailed_follows config failure called fun more other same =>
        retries more other _ same called
    | ok hash =>
      dsimp only
      refine clock_then fun now => ?_
      rw [follows_bind, follows_outcome]
      let sent : SignedPayload := { payload with
        transactionHash := some hash, status := .submitted, submittedAt := some now,
        submissionAttempts := done + 1, errorMessage := none }
      have counts : sent.submissionAttempts = done + 1 := rfl
      refine saveAttempt_follows counts called (fun after saved answered idle => ?_)
        fun _ after failure again => ?_
      · rw [afterOk_ok]
        cases saved with
        | error failure => rcases answered with impossible | impossible <;> cases impossible
        | ok _ => exact ⟨trivial, idle⟩
      · rw [afterOk_ok]
        exact onAttemptFailed_follows config failure again fun more other same =>
          retries more other after same again

theorem submitPayload_follows (config : SubmitterConfig) (payloadId : String) {tally : Tally}
    (idle : Idle tally) (sender : tally.sender = true) :
    Follows (counting p maxRetries) tally (SubmitterService.submitPayload config payloadId) idleEnd := by
  unfold SubmitterService.submitPayload
  split
  next => exact idle
  next =>
    rw [follows_bind]
    refine read_follows idle (by decide) (fun _ => idle) idle fun after payload _ kept holds => ?_
    rw [afterOk_ok]
    dsimp only
    split
    next => exact kept.idle
    next => exact ⟨trivial, kept.1⟩
    next =>
      unfold SubmitterService.submitPending
      split
      next => exact kept.idle
      next =>
        split
        next => exact kept.idle
        next =>
          refine clock_then fun now => ?_
          split
          next =>
            rw [follows_bind]
            refine saveHeld_follows kept.idle holds rfl le_rfl fun final result stored => ?_
            cases result <;> exact stored.idle
          next =>
            exact submitAttempts_follows config config.maxRetries 0 payload after (by omega)
              (kept.idle.trying (kept.sender.trans sender) _)

theorem retrySubmission_follows (config : SubmitterConfig) (payloadId : String) {tally : Tally}
    (recorded : tally.calls = 0) (asks : tally.asks = true → payloadId = p) (sender : tally.sender = true) :
    Follows (counting p config.maxRetries) tally (SubmitterService.retrySubmission config payloadId)
      fun after result => after.calls = 0 ∧
        (after.asks = true → after.granted = false → ∃ failure, result = .error failure) := by
  unfold SubmitterService.retrySubmission
  rw [follows_bind]
  refine findOne_follows recorded (fun failure => ⟨recorded, fun _ _ => ⟨failure, rfl⟩⟩)
    ⟨recorded, fun _ _ => ⟨_, rfl⟩⟩ fun payload named => ?_
  rw [afterOk_ok]
  dsimp only
  split
  next =>
    refine ⟨?_, fun _ _ => ⟨_, rfl⟩⟩
    unfold Tally.read
    split
    next => exact recorded
    next => exact recorded
  next left =>
    have granted : Idle (tally.read p config.maxRetries .retrySubmission payloadId payload) := by
      unfold Tally.read
      split
      next => exact ⟨recorded, by simp [Tally.see, not_le.mp left]⟩
      next other => exact ⟨recorded, fun asked => absurd (asks asked) other⟩
    have holds : Holds p payload
        (tally.read p config.maxRetries .retrySubmission payloadId payload) := by
      intro same
      rw [Tally.read, if_pos (named ▸ same)]
      exact ⟨rfl, rfl⟩
    rw [follows_bind]
    refine saveHeld_follows granted holds rfl le_rfl fun after result kept => ?_
    cases result with
    | error failure => exact ⟨kept.idle.1, fun _ _ => ⟨failure, rfl⟩⟩
    | ok _ =>
      refine follows_mono _ ?_ (submitPayload_follows config payloadId kept.idle
        (kept.sender.trans (sender_read.trans sender)))
      intro final result idle
      exact ⟨idle.1, fun asked refused => by rw [idle.2 asked] at refused; cases refused⟩

theorem submitPayload_rests (config : SubmitterConfig) (payloadId : String) (tally : Tally)
    (rests : Idle tally ∧ tally.sender = true) : Follows (counting p maxRetries) tally
      (SubmitterService.submitPayload config payloadId) fun after _ => Idle after ∧ after.sender = true :=
  follows_keeps _ (fun tally => Tally.sender tally = true)
    (fun tally op result sends => (sender_after tally op result).trans sends) rests.2
    (submitPayload_follows config payloadId rests.1 rests.2)

/-! ## So does the batch service -/

theorem markAsFailed_follows (payloadId message : String) (failureType : FailureType)
    (attempt : Nat) {tally : Tally} (idle : Idle tally) : Follows (counting p maxRetries) tally
      (SubmissionBatchService.markAsFailed payloadId message failureType attempt)
      fun after result => result = .ok () ∧ Kept p payloadId tally after := by
  unfold SubmissionBatchService.markAsFailed
  have unread : Kept p payloadId tally tally := ⟨idle, fun _ => rfl, rfl⟩
  rw [follows_tryCatch, follows_bind]
  refine findOne_follows idle.1 (fun _ => ⟨rfl, unread⟩) ⟨rfl, unread⟩ fun payload named => ?_
  rw [afterOk_ok]
  dsimp only
  refine save_follows (idle.read .markAsFailed payloadId payload) (fun same marks => ?_)
    fun after result kept => ?_
  · rw [Tally.read, if_pos (named ▸ same)] at marks
    cases marks
  · have ended : Kept p payloadId tally after := by
      refine ⟨kept.idle, fun other => (kept.other fun same => other (named ▸ same)).trans ?_,
        kept.sender.trans sender_read⟩
      exact if_neg other
    cases result with
    | ok _ => exact ⟨rfl, ended⟩
    | error failure => exact ⟨rfl, ended⟩

theorem submitBatched_follows {tally : Tally} (idle : Idle tally) (holds : Holds p payload tally) :
    Follows (counting p maxRetries) tally (SubmissionBatchService.submitPayload payload)
      fun after _ => Kept p payload.id tally after := by
  unfold SubmissionBatchService.submitPayload
  rw [follows_bind, follows_memory]
  intro memory
  rw [afterOk_ok]
  dsimp only
  rw [follows_bind]
  refine saveHeld_follows idle holds rfl (Nat.le_succ _) fun after result kept => ?_
  cases result <;> exact kept

theorem find_follows {tally : Tally} {query : PayloadQuery}
    {post : Tally → Except Exception (List SignedPayload) → Prop} (idle : Idle tally) (reads : site ≠ .markAsFailed)
    (failed : ∀ failure, post tally (.error failure))
    (found : ∀ (payloads : List SignedPayload) (after : Tally), (payloads.map (·.id)).Nodup →
      Idle after ∧ (∀ payload ∈ payloads, Holds p payload after) → post after (.ok payloads)) :
    Follows (counting p maxRetries) tally (find site query) post :=
  follows_op idle.1 fun result listed => by
    match result with
    | .error failure => exact failed failure
    | .ok payloads =>
      have rests : Idle (tally.after p maxRetries (.find site query) (.ok payloads)) := by
        simp only [Tally.after]
        split
        next payload _ => exact idle.see site payload
        next => exact idle
      refine found payloads _ listed.1 ⟨rests, fun payload member same => ?_⟩
      have first : payloads.find? (fun other => decide (other.id = p)) = some payload := by
        have inside : payload ∈ (⟨payloads, listed.1⟩ : Table SignedPayload SignedPayload.id).rows :=
          member
        exact same ▸ Table.findOne_of_mem inside
      simp only [Tally.after, first]
      exact ⟨rfl, by simp [Tally.see, reads]⟩

/-- The steps of the batch service. -/
def rows (p : String) (maxRetries : Nat) : RowRules (counting p maxRetries) where
  Idle := Idle
  Kept := Kept p
  Read := Holds p
  Holds := Holds p
  refl idle := ⟨idle, fun _ => rfl, rfl⟩
  trans kept again := ⟨again.idle, fun other => (again.other other).trans (kept.other other),
    again.sender.trans kept.sender⟩
  idle kept := kept.idle
  keepsRead := Holds.kept
  keepsHeld := Holds.kept
  holds held _ := held
  starts _ _ := trivial
  waits := waits
  finds site query reads idle := find_follows idle (by rcases reads with rfl | rfl <;> decide)
    (fun _ => ⟨idle, by rintro payloads ⟨⟩⟩) fun payloads after unique held =>
      ⟨held.1, by rintro others ⟨⟩; exact ⟨unique, held.2⟩⟩
  reads payloadId idle := read_follows idle (by decide) (fun _ => ⟨idle, by rintro payload ⟨⟩⟩)
    ⟨idle, by rintro payload ⟨⟩⟩ fun after payload _ kept held => ⟨kept.idle, by rintro other ⟨⟩ _; exact held⟩
  marks payloadId message failureType attempt idle :=
    markAsFailed_follows payloadId message failureType attempt idle
  submits := submitBatched_follows

theorem cleanupExpiredPayloads_follows {tally : Tally} (idle : Idle tally) :
    Follows (counting p maxRetries) tally OracleService.cleanupExpiredPayloads idleEnd := by
  unfold OracleService.cleanupExpiredPayloads
  refine clock_then fun now => ?_
  rw [follows_bind]
  refine find_follows idle (by decide) (fun _ => idle) fun payloads after _ validated => ?_
  rw [afterOk_ok]
  dsimp only
  split
  next =>
    rw [follows_bind]
    refine follows_op ⟨validated.1.1, fun stored member same => ?_⟩ fun result _ => ?_
    · obtain ⟨payload, kept, rfl⟩ := List.mem_map.mp member
      have held := validated.2 payload (List.mem_filter.mp kept).1 same
      refine ⟨held.2, fun some => absurd validated.1.1 (Nat.ne_of_gt some),
        fun _ _ count listed => ?_⟩
      rw [held.1] at listed
      exact (List.mem_singleton.mp listed).le
    · cases result <;> exact validated.1
  next => exact validated.1

end Programs

/-! ## The process -/

/-- The calls of the three services. A failure may also be marked from outside:
getPayloadsForBatching does so with the rows that have expired. -/
abbrev process (config : OracleConfig) : Service oracle :=
  { oracleProcess config fun _ => true with
    isPublic := fun call =>
      match call with
      | .markAsFailed _ _ _ _ => true
      | _ => call.isPublic }

theorem process_conforms (p : String) (config : OracleConfig) :
    Conforms (counting p config.submitter.maxRetries) (process config) where
  body call _ := by
    have ends : ∀ {α : Type} {program : OracleM α} {tally : Tally} (value : α → OracleValue),
        Follows (counting p config.submitter.maxRetries) tally program
          (fun after result => after.calls = 0 ∧
            (after.asks = true → after.granted = false → ∃ failure, result = .error failure)) →
        Keeps (counting p config.submitter.maxRetries) tally (do
          let result ← program
          pure (value result)) := by
      intro α program tally value follows
      unfold Keeps
      rw [follows_bind]
      refine follows_mono _ ?_ follows
      rintro after result ⟨recorded, refused⟩
      cases result with
      | error failure => exact ⟨recorded, fun _ _ => ⟨failure, rfl⟩⟩
      | ok _ =>
        refine ⟨recorded, fun asks denied => ?_⟩
        obtain ⟨_, impossible⟩ := refused asks denied
        cases impossible
    have idles : ∀ {α : Type} {program : OracleM α} {tally : Tally} (value : α → OracleValue)
        {post : Tally → Except Exception α → Prop}, (∀ after result, post after result → Idle after) →
        Follows (counting p config.submitter.maxRetries) tally program post →
        Keeps (counting p config.submitter.maxRetries) tally (do
          let result ← program
          pure (value result)) := by
      intro α program tally value post rests follows
      refine ends value (follows_mono _ (fun after result ended => ?_) follows)
      have idle := rests after result ended
      exact ⟨idle.1, fun asks denied => by rw [idle.2 asks] at denied; cases denied⟩
    have fresh : ∀ sender, Idle ⟨[], false, 0, false, false, sender⟩ :=
      fun _ => ⟨rfl, fun asks => by cases asks⟩
    cases call with
    | submitPayload payloadId =>
      exact idles _ (fun _ _ ended => ended) (submitPayload_follows _ payloadId (fresh _) rfl)
    | retrySubmission payloadId =>
      exact ends _ (retrySubmission_follows _ payloadId rfl of_decide_eq_true rfl)
    | batchSubmitPayloads payloadIds =>
      exact idles _ (fun _ _ ended => ended.1)
        (batchSubmitPayloads_follows _ waits (submitPayload_rests _) payloadIds ⟨fresh _, rfl⟩)
    | batchSubmitPayloadsConcurrent payloadIds maxConcurrent =>
      exact idles _ (fun _ _ ended => ended) (submitChunks_follows maxConcurrent waits (fresh _) (fun _ => trivial) _ payloadIds)
    | monitorTransaction payloadId txHash =>
      exact idles (fun _ => OracleValue.nothing) (fun _ _ ended => ended)
        (monitorTransaction_follows payloadId txHash (fresh _))
    | processBatch payloadIds batchId =>
      exact idles _ (fun _ _ ended => ended) ((rows _ _).processBatch_follows _ payloadIds batchId (fresh _))
    | processWithRetry payloadId maxRetries =>
      exact idles _ (fun _ _ ended => ended) ((rows _ _).processAttempts_follows _ payloadId _ _ _ _ (fresh _))
    | retryFailedPayloads payloadIds maxConcurrent =>
      exact idles _ (fun _ _ ended => ended)
        ((rows _ _).retryFailedPayloads_follows _ payloadIds maxConcurrent (fresh _))
    | submitBatched payload =>
      have idle : Idle (Tally.start p (.submitBatched payload)) := ⟨rfl, fun asks => by cases asks⟩
      have holds : Holds p payload (Tally.start p (.submitBatched payload)) :=
        fun same => ⟨if_pos same, rfl⟩
      exact idles _ (fun _ _ kept => kept.idle) (submitBatched_follows idle holds)
    | markAsFailed payloadId message failureType attempt =>
      exact idles (fun _ => OracleValue.nothing) (fun _ _ ended => ended.2.idle)
        (markAsFailed_follows payloadId message failureType attempt (fresh _))
    | cleanupExpiredPayloads =>
      exact idles _ (fun _ _ ended => ended) (cleanupExpiredPayloads_follows (fresh _))
  possible _ _ _ _ _ responds := respond_possible responds

/-! ## The condition and the invariant -/

variable {p : String} {config : OracleConfig}

abbrev Seen (p : String) (config : OracleConfig) :=
  View (counting p config.submitter.maxRetries) (process config)

/-- The count in the table. -/
def recorded (p : String) (world : OracleWorld) : Nat :=
  ((world.payloads.findOne p).map (·.submissionAttempts)).getD 0

def broadcasts (p : String) : OracleOp → Bool
  | .submitPayload id _ _ => decide (id = p)
  | _ => false

/-- The broadcasts of the payload that were attempted, accepted or not. -/
def broadcastsAttempted (p : String) (trace : List (Nat × Event oracle)) : Nat :=
  trace.countP fun entry => broadcasts p entry.2.op

/-- A write that did not happen. -/
def lost : Outcome → Bool
  | .fails _ => true
  | _ => false

/-- The condition on a run. A submission sends only a payload that was never sent, and whose count
it has read as 0; the write that ends a failed submission happens; a failure is marked with a
number of attempts that is not below the count; and other writes are made over the count that the
call has read or written. -/
def Budgeted (p : String) (config : OracleConfig) :
    ChoiceCondition (counting p config.submitter.maxRetries) (process config)
  | v, i, .submitPayload id _ _, _ => id = p → ∀ tally ∈ v.phases[i]?, tally.calls = 0 →
    tally.held = [0] ∧ broadcastsAttempted p v.trace = 0
  | v, i, .save payload, choice => payload.id = p → ∀ tally ∈ v.phases[i]?,
    (if tally.marks then recorded p v.world ≤ payload.submissionAttempts
      else recorded p v.world ∈ tally.held) ∧
    (0 < tally.calls → payload.status = .failed → lost choice = false)
  | v, i, .saveAll payloads, _ => p ∈ payloads.map (·.id) → ∀ tally ∈ v.phases[i]?,
    recorded p v.world ∈ tally.held
  | _, _, _, _ => True

instance (v : Seen p config) (i : Nat) :
    ∀ op choice, Decidable (Budgeted p config v i op choice) := by
  intro op choice
  cases op <;> unfold Budgeted <;> infer_instance

/-- At most one call has contract calls that are not recorded, and they are all there ever were;
otherwise all are recorded. -/
structure Accounted (v : Seen p config) : Prop where
  sender : ∀ tally ∈ (v.phases : List Tally), 0 < tally.calls → tally.sender = true
  one : ∀ (i : Nat) (tally : Tally), v.phases[i]? = some tally → 0 < tally.calls →
    tally.calls = broadcastsAttempted p v.trace ∧ (∀ count ∈ tally.held, count ≤ tally.calls) ∧
      ∀ (j : Nat) (other : Tally), v.phases[j]? = some other → j ≠ i → other.calls = 0
  counted : (∀ tally ∈ (v.phases : List Tally), tally.calls = 0) →
    broadcastsAttempted p v.trace ≤ recorded p v.world

section Steps
variable {v : Seen p config} {i : Nat} {tally after : Tally} {world : OracleWorld}
  {trace : List (Nat × Event oracle)}

theorem Accounted.settle (holds : Accounted v) (found : v.phases[i]? = some tally)
    (sent : broadcastsAttempted p trace = broadcastsAttempted p v.trace)
    (same : after.calls = tally.calls) (sender : after.sender = tally.sender)
    (held : 0 < after.calls → ∀ count ∈ after.held, count ≤ after.calls)
    (greater : recorded p v.world ≤ recorded p world) :
    Accounted (⟨world, v.phases.set i after, trace⟩ : Seen p config) := by
  refine ⟨fun other member some => ?_, fun j other at_ some => ?_, fun none => ?_⟩
  · rcases List.mem_or_eq_of_mem_set member with old | rfl
    · exact holds.sender other old some
    · exact sender.trans (holds.sender tally (List.mem_of_getElem? found) (same ▸ some))
  · simp only [sent]
    rcases getElem?_set_cases at_ with ⟨rfl, rfl⟩ | ⟨different, old⟩
    · obtain ⟨counts, _, others⟩ := holds.one j tally found (same ▸ some)
      refine ⟨same.trans counts, held some, fun k third third_ apart => ?_⟩
      rcases getElem?_set_cases third_ with ⟨rfl, _⟩ | ⟨_, old⟩
      · exact absurd rfl apart
      · exact others k third old apart
    · obtain ⟨counts, bound, others⟩ := holds.one j other old some
      refine ⟨counts, bound, fun k third third_ apart => ?_⟩
      rcases getElem?_set_cases third_ with ⟨rfl, rfl⟩ | ⟨_, old⟩
      · exact same.trans (others k tally found apart)
      · exact others k third old apart
  · refine le_trans (sent.le.trans (holds.counted fun other member => ?_)) greater
    obtain ⟨j, here⟩ := List.getElem?_of_mem member
    by_cases at_ : j = i
    · subst at_
      cases found.symm.trans here
      exact same ▸ none after (List.mem_set (List.getElem?_eq_some_iff.mp found).1 after)
    · refine none other (List.mem_of_getElem? (i := j) ?_)
      rw [List.getElem?_set_ne fun equal => at_ equal.symm]
      exact here

theorem Accounted.record (holds : Accounted v) (found : v.phases[i]? = some tally)
    (sent : broadcastsAttempted p trace = broadcastsAttempted p v.trace)
    (some : 0 < tally.calls) (cleared : after.calls = 0) (counts : recorded p world = tally.calls) :
    Accounted (⟨world, v.phases.set i after, trace⟩ : Seen p config) := by
  obtain ⟨all, _, others⟩ := holds.one i tally found some
  refine ⟨fun other member more => ?_, fun j other at_ more => ?_, fun _ => ?_⟩
  · rcases List.mem_or_eq_of_mem_set member with old | rfl
    · exact holds.sender other old more
    · exact absurd cleared (Nat.ne_of_gt more)
  · rcases getElem?_set_cases at_ with ⟨_, rfl⟩ | ⟨different, old⟩
    · exact absurd cleared (Nat.ne_of_gt more)
    · exact absurd (others j other old different) (Nat.ne_of_gt more)
  · simp only [sent, counts, all]
    exact le_rfl

/-- The contract is called for the payload: for the first time, or again by the same call. -/
theorem Accounted.send (holds : Accounted v) (found : v.phases[i]? = some tally)
    (sent : broadcastsAttempted p trace = broadcastsAttempted p v.trace + 1) (sender : tally.sender = true)
    (first : tally.calls = 0 → tally.held = [0] ∧ broadcastsAttempted p v.trace = 0) :
    Accounted (⟨world, v.phases.set i { tally with calls := tally.calls + 1 }, trace⟩ :
      Seen p config) := by
  have alone : ∀ (j : Nat) (other : Tally), v.phases[j]? = some other → j ≠ i → other.calls = 0 := by
    intro j other old different
    by_contra more
    obtain ⟨counts, _, others⟩ := holds.one j other old (Nat.pos_of_ne_zero more)
    have mine := others i tally found (Ne.symm different)
    exact more (counts.trans (first mine).2)
  have counts : tally.calls = broadcastsAttempted p v.trace := by
    by_cases none : tally.calls = 0
    · rw [none, (first none).2]
    · exact (holds.one i tally found (Nat.pos_of_ne_zero none)).1
  have bound : ∀ count ∈ tally.held, count ≤ tally.calls + 1 := by
    intro count member
    by_cases none : tally.calls = 0
    · rw [(first none).1] at member
      simp [List.mem_singleton.mp member]
    · exact ((holds.one i tally found (Nat.pos_of_ne_zero none)).2.1 count member).trans
        (Nat.le_succ _)
  refine ⟨fun other member more => ?_, fun j other at_ more => ?_, fun none => ?_⟩
  · rcases List.mem_or_eq_of_mem_set member with old | rfl
    · exact holds.sender other old more
    · exact sender
  · rcases getElem?_set_cases at_ with ⟨rfl, rfl⟩ | ⟨different, old⟩
    · refine ⟨by simp [sent, counts], bound, fun k third third_ apart => ?_⟩
      rcases getElem?_set_cases third_ with ⟨rfl, _⟩ | ⟨_, old⟩
      · exact absurd rfl apart
      · exact alone k third old apart
    · exact absurd (alone j other old different) (Nat.ne_of_gt more)
  · have mine := none _ (List.mem_set (List.getElem?_eq_some_iff.mp found).1 _)
    cases mine

theorem recorded_write_self (world : OracleWorld) (payload : SignedPayload) :
    recorded payload.id (world.write payload) = payload.submissionAttempts := by
  simp only [recorded, findOne_write_self, Option.map_some, Option.getD_some]

theorem recorded_write_other (other : payload.id ≠ p) : recorded p (world.write payload) = recorded p world :=
    by
  simp only [recorded, findOne_write_other other]

theorem trace_quiet {op : OracleOp} {result : Except Exception op.Reply} (quiet : broadcasts p op = false) :
    broadcastsAttempted p (trace ++ [(i, ⟨op, result⟩)]) = broadcastsAttempted p trace := by
  simp [broadcastsAttempted, quiet]

variable {result : Except Exception Unit} {choice : Outcome}

/-- A write either happens or is answered with a failure; it fails to happen only when it is
lost. -/
theorem respond_save_lost (responds : OracleWorld.respond v.world (.save payload) choice = some (world, result)) :
    world = v.world.write payload ∨ (world = v.world ∧ lost choice = true ∧ result.isOk = false) := by
  cases choice <;> simp only [OracleWorld.respond, Option.some.injEq, Prod.mk.injEq,
    reduceCtorEq] at responds <;> obtain ⟨rfl, rfl⟩ := responds
  · exact Or.inl rfl
  · exact Or.inr ⟨rfl, rfl, rfl⟩
  · exact Or.inl rfl

theorem stores_greater (holds : Accounted v) (found : v.phases[i]? = some tally) (allowed : tally.mayStore payload)
    (current : if tally.marks then recorded p v.world ≤ payload.submissionAttempts
      else recorded p v.world ∈ tally.held) : recorded p v.world ≤ payload.submissionAttempts := by
  split at current
  next => exact current
  next unmarked =>
    by_cases none : tally.calls = 0
    · exact allowed.2 none (by simpa using unmarked) _ current
    · have some := Nat.pos_of_ne_zero none
      rw [allowed.1 some]
      exact (holds.one i tally found some).2.1 _ current

theorem Accounted.save (holds : Accounted v) (found : v.phases[i]? = some tally)
    (allowed : tally.allows p (.save payload))
    (responds : OracleWorld.respond v.world (.save payload) choice = some (world, result))
    (met : Budgeted p config v i (.save payload) choice) : Accounted (⟨world, v.phases.set i
      (tally.after p config.submitter.maxRetries (.save payload) result),
        v.trace ++ [(i, ⟨.save payload, result⟩)]⟩ : Seen p config) ∧ recorded p v.world ≤ recorded p world := by
  have sent : broadcastsAttempted p (v.trace ++ [(i, ⟨.save payload, result⟩)]) =
      broadcastsAttempted p v.trace := trace_quiet rfl
  by_cases same : payload.id = p
  · subst same
    obtain ⟨current, kept⟩ := met rfl tally found
    have mayStore := allowed rfl
    have greater := stores_greater holds found mayStore current
    have grows : recorded payload.id v.world ≤ recorded payload.id world := by
      rcases respond_save_lost responds with rfl | ⟨rfl, _⟩
      · rw [recorded_write_self]
        exact greater
      · exact le_rfl
    refine ⟨?_, grows⟩
    have advanced : tally.after payload.id config.submitter.maxRetries (.save payload) result =
        tally.store payload result.isOk := if_pos rfl
    rw [advanced]
    by_cases none : tally.calls = 0
    · have cleared : (tally.store payload result.isOk).calls = 0 := by
        simp only [Tally.store, none, ite_self]
      exact holds.settle found sent (cleared.trans none.symm) rfl
        (fun more => absurd cleared (Nat.ne_of_gt more)) grows
    · have more := Nat.pos_of_ne_zero none
      by_cases ended : payload.status = .failed ∨ result.isOk = true
      · have written : world = v.world.write payload := by
          rcases respond_save_lost responds with written | ⟨_, isLost, failed⟩
          · exact written
          · rcases ended with status | answered
            · rw [kept more status] at isLost
              cases isLost
            · rw [failed] at answered
              cases answered
        refine holds.record found sent more (if_pos ended) ?_
        rw [written, recorded_write_self, mayStore.1 more]
      · have calls : (tally.store payload result.isOk).calls = tally.calls := if_neg ended
        refine holds.settle found sent calls rfl (fun _ count member => ?_) grows
        rw [calls]
        rcases List.mem_cons.mp member with rfl | old
        · exact (mayStore.1 more).le
        · exact (holds.one i tally found more).2.1 count old
  · have advanced : tally.after p config.submitter.maxRetries (.save payload) result = tally :=
      if_neg same
    have grows : recorded p v.world ≤ recorded p world := by
      rcases respond_save_lost responds with rfl | ⟨rfl, _⟩
      · rw [recorded_write_other same]
      · exact le_rfl
    rw [advanced]
    exact ⟨holds.settle found sent rfl rfl (fun more => (holds.one i tally found more).2.1) grows, grows⟩

theorem saveAll_greater {payloads : List SignedPayload} (found : v.phases[i]? = some tally)
    (allowed : tally.allows p (.saveAll payloads))
    (responds : OracleWorld.respond v.world (.saveAll payloads) choice = some (world, result))
    (met : Budgeted p config v i (.saveAll payloads) choice) : recorded p v.world ≤ recorded p world := by
  rcases respond_saveAll responds with rfl | rfl
  · rcases Table.findOne_saveAll p (payloads.map fun payload =>
        { payload with updatedAt := v.world.now }) v.world.payloads with
      ⟨row, member, same, stored⟩ | ⟨_, kept⟩
    · obtain ⟨payload, listed, rfl⟩ := List.mem_map.mp member
      obtain ⟨unmarked, mayStore⟩ := allowed.2 payload listed same
      have current := met (List.mem_map.mpr ⟨payload, listed, same⟩) tally found
      have after : recorded p (v.world.writeAll payloads) = payload.submissionAttempts := by
        simp only [recorded, OracleWorld.writeAll, stored, Option.map_some, Option.getD_some]
      rw [after]
      exact mayStore.2 allowed.1 unmarked _ current
    · simp only [recorded, OracleWorld.writeAll, kept, le_rfl]
  · exact le_rfl

end Steps

/-- One step under the condition keeps the account, and the count does not decrease. -/
theorem Accounted.moves {v v' : Seen p config} (holds : Accounted v) (moved : Decides (Budgeted p config) v v') :
    Accounted v' ∧ recorded p v.world ≤ recorded p v'.world := by
  cases moved with
  | calls new started =>
    have fresh : ∀ tally ∈ new.map (counting p config.submitter.maxRetries).start,
        Tally.calls tally = 0 := by
      intro tally member
      obtain ⟨call, _, rfl⟩ := List.mem_map.mp member
      cases call <;> rfl
    refine ⟨⟨fun tally member more => ?_, fun i tally found more => ?_, fun none => ?_⟩, le_rfl⟩
    · rcases List.mem_append.mp member with old | new
      · exact holds.sender tally old more
      · exact absurd (fresh tally new) (Nat.ne_of_gt more)
    · rcases getElem?_append_cases found with old | new
      · obtain ⟨counts, bound, others⟩ := holds.one i tally old more
        refine ⟨counts, bound, fun j other here different => ?_⟩
        rcases getElem?_append_cases here with old | new
        · exact others j other old different
        · exact fresh other new
      · exact absurd (fresh tally new) (Nat.ne_of_gt more)
    · exact holds.counted fun tally member => none tally (List.mem_append_left _ member)
  | env mem change =>
    have same : recorded p (oracleEnvironment (v.world, mem) change).1 = recorded p v.world := by
      cases change <;> rfl
    exact ⟨⟨holds.sender, holds.one, fun none => (holds.counted none).trans same.ge⟩, same.ge⟩
  | reply i tally op answer world result found allowed answers decided =>
    obtain ⟨choice, responds, met⟩ := decided
    -- Nothing is stored or sent, and the call has as much to record as before.
    have quiet : ∀ {after : Tally}, after = tally.after p config.submitter.maxRetries op result →
        broadcasts p op = false → after.calls = tally.calls →
        (0 < after.calls → after.held = tally.held) → recorded p v.world ≤ recorded p world →
        Accounted (⟨world, v.phases.set i (tally.after p config.submitter.maxRetries op result),
          v.trace ++ [(i, ⟨op, result⟩)]⟩ : Seen p config) ∧
          recorded p v.world ≤ recorded p world := by
      rintro after rfl silent same held grows
      refine ⟨holds.settle found (trace_quiet silent) same (sender_after tally op result)
        (fun more => ?_) grows, grows⟩
      rw [held more, same]
      exact (holds.one i tally found (same ▸ more)).2.1
    cases op with
    | findOne site id =>
      obtain ⟨rfl, _⟩ := respond_findOne responds
      match result with
      | .error failure => exact quiet rfl rfl rfl (fun _ => rfl) le_rfl
      | .ok none => exact quiet rfl rfl rfl (fun _ => rfl) le_rfl
      | .ok (some row) =>
        have calls : (tally.read p config.submitter.maxRetries site id row).calls = tally.calls := by
          unfold Tally.read
          split <;> rfl
        exact quiet rfl rfl calls (fun more => absurd (calls.trans allowed) (Nat.ne_of_gt more)) le_rfl
    | find site query =>
      obtain ⟨rfl, _⟩ := respond_find responds
      match result with
      | .error failure => exact quiet rfl rfl rfl (fun _ => rfl) le_rfl
      | .ok payloads =>
        have calls : (tally.after p config.submitter.maxRetries (.find site query)
            (.ok payloads)).calls = tally.calls := by
          simp only [Tally.after]
          split <;> rfl
        exact quiet rfl rfl calls (fun more => absurd (calls.trans allowed) (Nat.ne_of_gt more)) le_rfl
    | save payload => exact holds.save found allowed responds met
    | saveAll payloads =>
      exact quiet rfl rfl (by cases result <;> rfl) (fun _ => by cases result <;> rfl)
        (saveAll_greater found allowed responds met)
    | submitPayload payloadId arguments gasLimit =>
      have rows : world.payloads = v.world.payloads := by
        rcases respond_submitPayload responds with ⟨hash, _, rfl⟩ | ⟨rfl, _⟩ <;> rfl
      have grows : recorded p v.world ≤ recorded p world := by simp only [recorded, rows, le_rfl]
      by_cases same : payloadId = p
      · have advanced : tally.after p config.submitter.maxRetries
            (.submitPayload payloadId arguments gasLimit) result =
            { tally with calls := tally.calls + 1 } := by
          cases result <;> exact if_pos same
        have sent : broadcastsAttempted p (v.trace ++
            [(i, ⟨.submitPayload payloadId arguments gasLimit, result⟩)]) =
            broadcastsAttempted p v.trace + 1 := by
          simp [broadcastsAttempted, broadcasts, same]
        refine ⟨?_, grows⟩
        simp only [advanced]
        exact holds.send found sent (allowed same) (met same tally found)
      · have unchanged : tally.after p config.submitter.maxRetries
            (.submitPayload payloadId arguments gasLimit) result = tally := by
          cases result <;> exact if_neg same
        exact quiet rfl (decide_eq_false same) (congrArg Tally.calls unchanged)
          (fun _ => congrArg Tally.held unchanged) grows
    | waitForTransaction hash =>
      obtain ⟨receipt, rfl⟩ := respond_waitForTransaction responds
      refine quiet rfl rfl (by cases result <;> rfl) (fun _ => by cases result <;> rfl) ?_
      simp only [recorded, payloads_report, le_rfl]
    | estimateGas arguments =>
      obtain rfl := respond_estimateGas responds
      exact quiet rfl rfl (by cases result <;> rfl) (fun _ => by cases result <;> rfl) le_rfl
    | sleep ms =>
      obtain rfl := respond_sleep responds
      exact quiet rfl rfl (by cases result <;> rfl) (fun _ => by cases result <;> rfl) le_rfl

/-- No submission is under way. -/
def AtRest (c : Config (process config)) : Prop :=
  ∀ task ∈ c.pool, submits task.call = true → task.result.isSome = true

instance (c : Config (process config)) : Decidable (AtRest c) := by
  unfold AtRest
  infer_instance

/-- The calls from the n-th on get no retry, and the budget is used up. -/
def Refuses (n : Nat) (v : Seen p config) : Prop :=
  config.submitter.maxRetries ≤ recorded p v.world ∧
    ∀ (i : Nat) (tally : Tally), n ≤ i → v.phases[i]? = some tally → tally.granted = false

theorem see_refuses {tally : Tally} {row : SignedPayload} {maxRetries : Nat}
    (usedUp : maxRetries ≤ row.submissionAttempts) : (tally.see maxRetries site row).granted = tally.granted :=
    by
  simp [Tally.see, not_lt.mpr usedUp]

theorem granted_after {v : Seen p config} {world : OracleWorld} {tally : Tally} {op : OracleOp}
    {result : Except Exception op.Reply} (usedUp : config.submitter.maxRetries ≤ recorded p v.world)
    (responds : OracleWorld.respond v.world op choice = some (world, result)) :
    (tally.after p config.submitter.maxRetries op result).granted = tally.granted := by
  unfold Tally.after
  split
  next site id row =>
    unfold Tally.read
    split
    next same =>
      subst same
      have current := (respond_findOne responds).2 row rfl
      simp only [recorded, current, Option.map_some, Option.getD_some] at usedUp
      exact see_refuses usedUp
    next => rfl
  next site query payloads =>
    split
    next row seen =>
      have named : row.id = p := by simpa using List.find?_some seen
      have current := (respond_find responds).2 payloads rfl row (List.mem_of_find?_eq_some seen)
      rw [named] at current
      simp only [recorded, current, Option.map_some, Option.getD_some] at usedUp
      exact see_refuses usedUp
    next => rfl
  next => split <;> rfl
  next => split <;> rfl
  next => rfl

theorem Refuses.moves {n : Nat} {v v' : Seen p config} (refuses : Refuses n v) (holds : Accounted v)
    (moved : Decides (Budgeted p config) v v') : Refuses n v' := by
  refine ⟨refuses.1.trans (holds.moves moved).2, fun i tally late found => ?_⟩
  cases moved with
  | calls new started =>
    rcases getElem?_append_cases found with old | new
    · exact refuses.2 i tally late old
    · obtain ⟨call, _, rfl⟩ := List.mem_map.mp new
      cases call <;> rfl
  | env mem change => exact refuses.2 i tally late found
  | reply j phase op answer world result here allowed responds met =>
    rcases getElem?_set_cases found with ⟨rfl, rfl⟩ | ⟨_, old⟩
    · exact (granted_after refuses.1 responds).trans (refuses.2 i phase late here)
    · exact refuses.2 i tally late old

theorem accounted_initial (world : OracleWorld) (mem : OracleMemory) :
    Accounted (view (counting p config.submitter.maxRetries) (Config.initial (process config) world mem)) :=
  ⟨nofun, nofun, fun _ => Nat.zero_le _⟩

theorem AtRest.calls {c : Config (process config)} (rests : AtRest c)
    (holds : Accounted (view (counting p config.submitter.maxRetries) c))
    (keep : AllKeep (counting p config.submitter.maxRetries) c) :
    ∀ tally ∈ phases (counting p config.submitter.maxRetries) c, Tally.calls tally = 0 := by
  intro tally member
  by_contra some
  have sends := holds.sender tally member (Nat.pos_of_ne_zero some)
  obtain ⟨task, inside, rfl⟩ := List.mem_map.mp member
  have submitting : submits task.call = true := by
    by_contra other
    have never : (phaseOf (counting p config.submitter.maxRetries) task).sender = false := by
      refine phaseOf_keeps (P := counting p config.submitter.maxRetries)
        (fun tally => Tally.sender tally = false)
        (fun tally op result no => (sender_after tally op result).trans no) ?_
      cases called : task.call <;> simp_all [submits, Tally.start]
    rw [never] at sends
    cases sends
  obtain ⟨result, ended⟩ := Option.isSome_iff_exists.mp (rests task inside submitting)
  obtain ⟨i, found⟩ := List.getElem?_of_mem inside
  exact some (returns_of_result keep found ended).1

/-- In every run under the condition, the count of a payload never decreases; whenever no
submission is under way it has counted all broadcasts, up to the maximum; and once the maximum is
reached every later retry fails. -/
theorem retry_budget (p : String) (config : OracleConfig) (world : OracleWorld)
    (mem : OracleMemory) (first later : List (Label (process config))) (before after : Config (process config))
    (budgeted : Admissible (OnChoices (Budgeted p config)) (first ++ later)
      (Config.initial (process config) world mem))
    (reached : run first (Config.initial (process config) world mem) = some before)
    (ran : run later before = some after) : recorded p before.world ≤ recorded p after.world ∧ (AtRest before →
        min (broadcastsAttempted p before.trace) config.submitter.maxRetries ≤ recorded p before.world ∧
        (config.submitter.maxRetries ≤ broadcastsAttempted p before.trace →
          ∀ (i : Nat) (task : Task oracle) (result : Except Exception OracleValue),
            before.pool.length ≤ i → after.pool[i]? = some task →
            task.call = .retrySubmission p → task.result = some result → ∃ failure, result = .error failure)) := by
  obtain ⟨budgetedFirst, budgetedLater⟩ := admissible_append reached budgeted
  obtain ⟨holds, keep⟩ := invariant_of_choices (process_conforms p config)
    (fun v v' (holds : Accounted v) moved => (holds.moves moved).1) (allKeep_initial world mem)
    (accounted_initial world mem) budgetedFirst reached
  have grows : ∀ v v' : Seen p config,
      Accounted v ∧ recorded p before.world ≤ recorded p v.world →
      Decides (Budgeted p config) v v' →
      Accounted v' ∧ recorded p before.world ≤ recorded p v'.world := by
    rintro v v' ⟨holds, greater⟩ moved
    obtain ⟨stillHolds, greaterStill⟩ := holds.moves moved
    exact ⟨stillHolds, greater.trans greaterStill⟩
  refine ⟨(invariant_of_choices (process_conforms p config) grows keep ⟨holds, le_rfl⟩
    budgetedLater ran).1.2, fun rests => ?_⟩
  have counted : broadcastsAttempted p before.trace ≤ recorded p before.world :=
    holds.counted (rests.calls holds keep)
  refine ⟨(Nat.min_le_left _ _).trans counted, fun usedUp i task result late found called ended => ?_⟩
  have refuses : Refuses before.pool.length
      (view (counting p config.submitter.maxRetries) before) := by
    refine ⟨usedUp.trans counted, fun i tally late found => ?_⟩
    have inside := (List.getElem?_eq_some_iff.mp found).1
    simp only [view, phases, List.length_map] at inside
    exact absurd inside (not_lt.mpr late)
  have stays : ∀ v v' : Seen p config, Accounted v ∧ Refuses before.pool.length v →
      Decides (Budgeted p config) v v' → Accounted v' ∧ Refuses before.pool.length v' :=
    fun v v' both moved => ⟨(both.1.moves moved).1, both.2.moves both.1 moved⟩
  obtain ⟨⟨_, refusesAfter⟩, keepAfter⟩ := invariant_of_choices (process_conforms p config) stays
    keep ⟨holds, refuses⟩ budgetedLater ran
  have asks : (phaseOf (counting p config.submitter.maxRetries) task).asks = true := by
    refine phaseOf_keeps (P := counting p config.submitter.maxRetries)
      (fun tally => Tally.asks tally = true)
      (fun tally op result asks => (asks_after tally op result).trans asks) ?_
    rw [called]
    exact decide_eq_true rfl
  refine (returns_of_result keepAfter found ended).2 asks (refusesAfter.2 i _ late ?_)
  simp [view, phases, found]

def sampleBudget (maxRetries : Nat) : OracleConfig :=
  { sampleConfig with submitter := { sampleConfig.submitter with maxRetries := maxRetries } }

def budgetStart (maxRetries : Nat) : Config (process (sampleBudget maxRetries)) :=
  Config.initial _ (sampleWorld samplePayload) ⟨0, "", []⟩

/-- A submission whose first broadcast times out and whose second one fails for good. -/
def twoBroadcasts (maxRetries : Nat) : List (Label (process (sampleBudget maxRetries))) :=
  [.call (.submitPayload "p"), .resume 0, .reply 0 Outcome.done, .resume 0,
    .reply 0 (Outcome.gas 21000), .reply 0 (Outcome.fails (.error "timeout")),
    .reply 0 Outcome.done, .reply 0 (Outcome.gas 21000),
    .reply 0 (Outcome.fails (.error "nonce too low")), .reply 0 Outcome.done]

/-- A retry that is granted, and whose broadcast is accepted. -/
def retriedOnce : List (Label (process (sampleBudget 5))) :=
  [.call (.retrySubmission "p"), .resume 1, .reply 1 Outcome.done, .reply 1 Outcome.done,
    .reply 1 Outcome.done, .resume 1, .reply 1 (Outcome.gas 21000),
    .reply 1 (Outcome.accepted "0x1"), .resume 1, .reply 1 Outcome.done, .resume 1]

/-- After two broadcasts the count is 2; a retry starts to count at 1 again. -/
theorem retry_forgets_attempts :
    ∃ before, run (twoBroadcasts 5) (budgetStart 5) = some before ∧ AtRest before ∧
      recorded "p" before.world = 2 ∧ ∃ after, run retriedOnce before = some after ∧
        AtRest after ∧ recorded "p" after.world = 1 ∧
        ¬ min (broadcastsAttempted "p" after.trace) 5 ≤ recorded "p" after.world := by
  decide +kernel

def refusedRetry : List (Label (process (sampleBudget 1))) :=
  [.call (.retrySubmission "p"), .resume 1, .reply 1 Outcome.done]

theorem retry_budget_used_up :
    ∃ before, run (twoBroadcasts 1) (budgetStart 1) = some before ∧
      ∃ after, run refusedRetry before = some after ∧
        recorded "p" before.world ≤ recorded "p" after.world ∧
        min (broadcastsAttempted "p" before.trace) 1 ≤ recorded "p" before.world ∧
        ∃ failure, (after.pool[1]?).bind Task.result = some (.error failure) := by
  have budgeted : Admissible (OnChoices (Budgeted "p" (sampleBudget 1)))
      (twoBroadcasts 1 ++ refusedRetry) (budgetStart 1) := by decide +kernel
  obtain ⟨before, reached, rests, sent, one, after, ran, retries, ended⟩ :
      ∃ before, run (twoBroadcasts 1) (budgetStart 1) = some before ∧ AtRest before ∧
        1 ≤ broadcastsAttempted "p" before.trace ∧ before.pool.length = 1 ∧
        ∃ after, run refusedRetry before = some after ∧
          (after.pool[1]?).map (·.call) = some (.retrySubmission "p") ∧
          ((after.pool[1]?).bind Task.result).isSome = true := by
    decide +kernel
  obtain ⟨grows, atRest⟩ := retry_budget "p" (sampleBudget 1) (sampleWorld samplePayload)
    ⟨0, "", []⟩ (twoBroadcasts 1) refusedRetry before after budgeted reached ran
  obtain ⟨counted, refused⟩ := atRest rests
  obtain ⟨task, found, called⟩ := Option.map_eq_some_iff.mp retries
  rw [found] at ended
  obtain ⟨result, isResult⟩ := Option.isSome_iff_exists.mp ended
  obtain ⟨failure, rfl⟩ := refused sent 1 task result one.le found called isResult
  exact ⟨before, reached, after, ran, grows, counted, failure, by rw [found]; exact isResult⟩

end AlianStructure.Guarantees.RetryBudget
