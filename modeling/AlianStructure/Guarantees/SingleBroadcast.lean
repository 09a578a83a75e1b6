import AlianStructure.Guarantees.PayloadWalks

/-!
# At most one live transaction for a payload

Source: src/blockchain/oracle/services/submitter.service.ts:166-323,421-445,550-600.
For a fixed payload a call of the submitter is idle, ready (it has read the payload
as pending and signed), or has sent its transaction and not yet stored that it has.
-/
namespace AlianStructure.Guarantees.SingleBroadcast
open Library.AsyncMethod Library.Interleaving Library.CallProtocol
open Source Source.Oracle PayloadStore PayloadWalks

/-! ## The protocol of a submission -/

/-- `broken` stands for every call that failed to store a sent transaction. -/
inductive Stage where
  | idle | ready | sent | broken
  deriving DecidableEq

/-- A call that is about to send, or has sent, a transaction of the payload. -/
def Stage.submitting (stage : Stage) : Bool := decide (stage = .ready ∨ stage = .sent)

/-- What submitPayload asks of a payload it will send. -/
def sendable (payload : SignedPayload) : Bool :=
  decide (payload.status = .pending ∧ payload.signature ≠ "")

def Stage.afterSave (stage : Stage) (status : PayloadStatus) (result : Except Exception Unit) :
    Stage :=
  match status, result with
  | .submitted, .ok _ => .idle
  | .submitted, .error _ => .broken
  | .failed, _ => .idle
  | _, _ => stage

/-- The stage of a call after an answer about payload `p`. -/
def Stage.after (p : String) (stage : Stage) :
    (op : OracleOp) → Except Exception op.Reply → Stage
  | .findOne .submitPayload id, .ok (some payload) =>
    if id = p ∧ sendable payload then .ready else stage
  | .submitPayload id _ _, .ok _ => if id = p then .sent else stage
  | .save payload, result => if payload.id = p then stage.afterSave payload.status result else stage
  | _, _ => stage

/-- What a call may do next about payload `p`. -/
def Stage.allows (p : String) (stage : Stage) : OracleOp → Prop
  | .findOne .submitPayload id => id = p → stage = .idle
  | .submitPayload id _ _ => id = p → stage = .ready
  | .save payload => payload.id = p →
    match payload.status with
    | .pending | .confirmed => stage = .idle
    | .submitted => stage = .sent
    | .failed => stage = .idle ∨ stage = .ready
  | .saveAll _ => False
  | _ => True

/-- The calls a submission is made of. -/
def ofSubmitter : OracleCall → Bool
  | .submitPayload _ | .retrySubmission _ | .batchSubmitPayloads _
  | .batchSubmitPayloadsConcurrent _ _ | .monitorTransaction _ _ => true
  | _ => false

def Stage.advance (p : String) (stage : Stage) (op : OracleOp)
    (result : Except Exception op.Reply) : Stage :=
  if stage = .broken then .broken else stage.after p op result

abbrev submission (p : String) : Protocol oracle where
  Phase := Stage
  start call := if ofSubmitter call then .idle else .broken
  starts stage call := stage = .broken ∨ ofSubmitter call
  allows stage op := stage = .broken ∨ stage.allows p op
  possible := possible
  advance := Stage.advance p
  returns _ _ := True

/-! ## The methods follow the protocol -/

def Stage.atRest (stage : Stage) : Prop := stage = .idle ∨ stage = .broken

/-- The stage of a call that holds a payload it may send, by the payload's id. -/
def readyFor (p id : String) : Stage := if id = p then .ready else .idle

/-- The stage of a call that has just read a payload to submit it. -/
def stageOf (p : String) (payload : SignedPayload) : Stage :=
  if payload.id = p ∧ sendable payload then .ready else .idle

/-- The stage after the payload was sent. -/
def sentFor (p id : String) : Stage := if id = p then .sent else .idle

section Programs
variable {p : String} {α : Type}

theorem follows_of_broken {program : OracleM α} {post : Stage → Except Exception α → Prop}
    (accepts : ∀ result, post .broken result) : Follows (submission p) Stage.broken program post :=
  follows_free (submission p) (· = Stage.broken) (fun _ _ broken => Or.inl broken)
    (fun _ _ broken => Or.inl broken) (fun _ _ _ broken => if_pos broken)
    (fun _ result broken => broken ▸ accepts result) rfl

@[simp] theorem readyFor_not_broken (id : String) : readyFor p id ≠ .broken := by
  unfold readyFor
  split <;> simp

variable {stage : Stage}

theorem follows_op {op : OracleOp} {post : Stage → Except Exception op.Reply → Prop} (allowed : stage.allows p op)
    (continues : ∀ result, possible op result → post (stage.advance p op result) result) :
    Follows (submission p) stage (Async.perform (R := oracle) op) post :=
  ⟨Or.inr allowed, continues⟩

theorem advance_of_after {op : OracleOp} {result : Except Exception op.Reply}
    (same : stage.after p op result = stage) : stage.advance p op result = stage := by
  unfold Stage.advance
  split
  next broken => exact broken.symm
  next => exact same

theorem advance_not_broken (fine : stage ≠ .broken) (op : OracleOp) (result : Except Exception op.Reply) :
    stage.advance p op result = stage.after p op result := if_neg fine

theorem follows_quiet {op : OracleOp} {post : Stage → Except Exception op.Reply → Prop}
    (allowed : stage.allows p op) (quiet : ∀ result, stage.after p op result = stage)
    (continues : ∀ result, post stage result) : Follows (submission p) stage (Async.perform (R := oracle) op) post :=
  follows_op allowed fun result _ => by
    rw [advance_of_after (quiet result)]
    exact continues result

variable {payload : SignedPayload}

theorem waits : Waits (submission p) := fun stage _ =>
  follows_op trivial fun result waits => by
    cases result with
    | ok _ =>
      rw [advance_of_after rfl]
      exact ⟨rfl, rfl⟩
    | error _ => exact waits.elim

variable {post : Stage → Except Exception Unit → Prop}

theorem saveFailed_follows (payload : SignedPayload) (status : payload.status = .failed)
    (continues : ∀ result, post .idle result) :
    Follows (submission p) (readyFor p payload.id) (save payload) post := by
  refine follows_op ?_ fun result _ => ?_
  · intro same
    simp [status, readyFor, same]
  · rw [advance_not_broken (readyFor_not_broken payload.id)]
    have ended : (readyFor p payload.id).after p (.save payload) result = .idle := by
      by_cases same : payload.id = p <;> cases result <;>
        simp [Stage.after, Stage.afterSave, readyFor, same, status]
    rw [ended]
    exact continues result

theorem onAttemptFailed_follows (config : SubmitterConfig) (payload : SignedPayload)
    (attempt : Nat) (failure : Exception) {retry : SignedPayload → OracleM Submitted}
    (retries : attempt ≤ config.maxRetries → ∀ other : SignedPayload, other.id = payload.id →
      Follows (submission p) (readyFor p payload.id) (retry other) fun stage _ => stage.atRest) :
    Follows (submission p) (readyFor p payload.id)
      (SubmitterService.onAttemptFailed config payload attempt failure retry) fun stage _ => stage.atRest := by
  unfold SubmitterService.onAttemptFailed
  dsimp only
  split
  next last =>
    rw [follows_bind]
    refine saveFailed_follows { payload with
      submissionAttempts := attempt, errorMessage := some failure.message, status := .failed } rfl
      fun result => ?_
    cases result <;> exact Or.inl rfl
  next again =>
    refine waits.sleep_then ?_
    exact retries (not_lt.mp (not_or.mp again).1) _ rfl

/-- A transaction is sent from the ready stage; the next operation stores it. -/
theorem broadcast_follows {gasLimit : Nat} {post : Stage → Except Exception String → Prop}
    (failed : ∀ failure, post (readyFor p payload.id) (.error failure))
    (sent : ∀ hash, post (sentFor p payload.id) (.ok hash)) :
    Follows (submission p) (readyFor p payload.id) (SubmitterService.broadcast payload gasLimit) post := by
  refine follows_op (fun same => if_pos same) fun result _ => ?_
  rw [advance_not_broken (readyFor_not_broken payload.id)]
  cases result with
  | error failure => exact failed failure
  | ok hash =>
    have reached : (readyFor p payload.id).after p
        (.submitPayload payload.id payload.submitArguments gasLimit) (.ok hash) =
        sentFor p payload.id := by
      by_cases same : payload.id = p <;> simp [Stage.after, readyFor, sentFor, same]
    rw [reached]
    exact sent hash

/-- Storing the sent transaction ends the submission; failing to do so breaks it. -/
theorem saveSubmitted_follows (payload : SignedPayload) (status : payload.status = .submitted)
    (stored : ∀ result, post .idle (.ok result)) (other : ∀ failure, payload.id ≠ p → post .idle (.error failure))
    (broken : ∀ failure, payload.id = p → post .broken (.error failure)) :
    Follows (submission p) (sentFor p payload.id) (save payload) post := by
  refine follows_op (fun same => ?_) fun result _ => ?_
  · simp [status, same, sentFor]
  · unfold sentFor
    by_cases same : payload.id = p
    · have after : Stage.sent.advance p (.save payload) result =
          match result with
          | .ok _ => .idle
          | .error _ => .broken := by
        cases result <;> simp [Stage.advance, Stage.after, Stage.afterSave, same, status]
      rw [if_pos same, after]
      cases result with
      | ok result => exact stored result
      | error failure => exact broken failure same
    · have after : Stage.idle.advance p (.save payload) result = .idle := by
        simp [Stage.advance, Stage.after, same]
      rw [if_neg same, after]
      cases result with
      | ok result => exact stored result
      | error failure => exact other failure same

theorem submitAttempts_follows (config : SubmitterConfig) :
    ∀ (left attempt : Nat) (payload : SignedPayload), attempt + left = config.maxRetries + 1 →
      Follows (submission p) (readyFor p payload.id)
        (SubmitterService.submitAttempts config (left + 1) attempt payload)
        fun stage _ => stage.atRest
  | left, attempt, payload, counted => by
    have retries : attempt ≤ config.maxRetries → ∀ other : SignedPayload,
        other.id = payload.id → Follows (submission p) (readyFor p payload.id)
          (SubmitterService.submitAttempts config left (attempt + 1) other)
          fun stage _ => stage.atRest := by
      intro notLast other same
      cases left with
      | zero => omega
      | succ left =>
        rw [← same]
        exact submitAttempts_follows config left (attempt + 1) other (by omega)
    unfold SubmitterService.submitAttempts
    dsimp only
    rw [follows_bind]
    refine estimateGas_then (follows_quiet trivial (fun result => by cases result <;> rfl) fun _ => rfl) fun gas => ?_
    rw [afterOk_ok, follows_bind, follows_outcome]
    refine broadcast_follows (fun failure => ?_) fun hash => ?_
    · exact onAttemptFailed_follows config payload attempt failure retries
    · rw [afterOk_ok]
      refine clock_then fun now => ?_
      rw [follows_bind, follows_outcome]
      refine saveSubmitted_follows { payload with
        transactionHash := some hash, status := .submitted, submittedAt := some now,
        submissionAttempts := attempt, errorMessage := none } rfl ?_ ?_ ?_
      · intro stored
        exact ⟨Or.inr rfl, Or.inl rfl⟩
      · intro failure other
        have idle : readyFor p payload.id = .idle := if_neg other
        rw [afterOk_ok]
        have handled := onAttemptFailed_follows (p := p) config { payload with
          transactionHash := some hash, status := .submitted, submittedAt := some now,
          submissionAttempts := attempt, errorMessage := none } attempt failure retries
        rw [idle] at handled
        exact handled
      · intro failure _
        exact follows_of_broken fun _ => Or.inr rfl

theorem follows_atRest {program : OracleM α} {post : Stage → Except Exception α → Prop} (rest : stage.atRest)
    (accepts : ∀ result, post .broken result) (follows : Follows (submission p) Stage.idle program post) :
    Follows (submission p) stage program post := by
  rcases rest with rfl | rfl
  · exact follows
  · exact follows_of_broken accepts

theorem stageOf_unsendable (held : sendable payload = false) : stageOf p payload = .idle := by
  simp [stageOf, held]

theorem stageOf_sendable (sends : sendable payload = true) : stageOf p payload = readyFor p payload.id := by
  simp [stageOf, readyFor, sends]

theorem submitPending_follows (config : SubmitterConfig) (payload : SignedPayload) :
    Follows (submission p) (stageOf p payload)
      (SubmitterService.submitPending config payload) fun stage _ => stage.atRest := by
  unfold SubmitterService.submitPending
  split
  next held =>
    rw [stageOf_unsendable (by simp [sendable, held])]
    exact Or.inl rfl
  next pending =>
    split
    next unsigned =>
      rw [stageOf_unsendable (by simp [sendable, unsigned])]
      exact Or.inl rfl
    next signed =>
      rw [stageOf_sendable (by simp [sendable, not_not.mp pending, signed])]
      refine clock_then fun now => ?_
      split
      next expired =>
        rw [follows_bind]
        refine saveFailed_follows { payload with
          status := .failed, errorMessage := some "Payload expired before submission" } rfl
          fun result => ?_
        cases result <;> exact Or.inl rfl
      next valid => exact submitAttempts_follows config config.maxRetries 1 payload (by omega)

theorem submitPayload_follows (config : SubmitterConfig) (payloadId : String) :
    Follows (submission p) Stage.idle (SubmitterService.submitPayload config payloadId)
      fun stage _ => stage.atRest := by
  unfold SubmitterService.submitPayload
  split
  next => exact Or.inl rfl
  next =>
    rw [follows_bind]
    refine follows_op (fun _ => rfl) fun result named => ?_
    rw [advance_not_broken (by simp)]
    match result with
    | .error failure => exact Or.inl rfl
    | .ok none => exact Or.inl rfl
    | .ok (some payload) =>
      have same : payload.id = payloadId := named
      have reached : Stage.idle.after p (.findOne .submitPayload payloadId) (.ok (some payload)) =
          stageOf p payload := by
        unfold stageOf
        rw [same]
        rfl
      rw [reached, afterOk_ok]
      dsimp only
      split
      next status _ =>
        rw [stageOf_unsendable (by simp [sendable, status])]
        exact Or.inl rfl
      next status _ =>
        rw [stageOf_unsendable (by simp [sendable, status])]
        exact ⟨Or.inr rfl, Or.inl rfl⟩
      next => exact submitPending_follows config payload

theorem retrySubmission_follows (config : SubmitterConfig) (payloadId : String) :
    Follows (submission p) Stage.idle (SubmitterService.retrySubmission config payloadId)
      fun stage _ => stage.atRest := by
  unfold SubmitterService.retrySubmission
  rw [follows_bind]
  refine follows_quiet trivial (fun result => by cases result <;> rfl) fun result => ?_
  match result with
  | .error failure => exact Or.inl rfl
  | .ok none => exact Or.inl rfl
  | .ok (some payload) =>
    rw [afterOk_ok]
    dsimp only
    split
    next => exact Or.inl rfl
    next =>
      rw [follows_bind]
      refine follows_quiet (fun _ => rfl) (fun result => ?_) fun result => ?_
      · cases result <;> simp [Stage.after, Stage.afterSave]
      · cases result with
        | error failure => exact Or.inl rfl
        | ok _ => exact submitPayload_follows config payloadId

theorem saveMonitored_follows (payload : SignedPayload)
    (status : payload.status = .confirmed ∨ payload.status = .failed)
    (continues : ∀ result, post .idle result) : Follows (submission p) Stage.idle (save payload) post := by
  refine follows_quiet (fun _ => ?_) (fun result => ?_) continues
  · rcases status with status | status <;> simp [status]
  · rcases status with status | status <;> cases result <;>
      simp [Stage.after, Stage.afterSave, status]

theorem onMonitoringFailed_follows (payloadId : String) (failure : Exception) :
    Follows (submission p) Stage.idle (SubmitterService.onMonitoringFailed payloadId failure)
      fun stage _ => stage.atRest := by
  unfold SubmitterService.onMonitoringFailed
  rw [follows_bind]
  refine follows_quiet trivial (fun result => by cases result <;> rfl) fun result => ?_
  match result with
  | .error _ => exact Or.inl rfl
  | .ok none => exact Or.inl rfl
  | .ok (some payload) => exact saveMonitored_follows _ (Or.inr rfl) fun _ => Or.inl rfl

theorem monitorTransaction_follows (payloadId txHash : String) :
    Follows (submission p) Stage.idle (SubmitterService.monitorTransaction payloadId txHash)
      fun stage _ => stage.atRest := by
  have handled := onMonitoringFailed_follows (p := p) payloadId
  have stored : ∀ result : Except Exception Unit,
      afterError (submission p) (SubmitterService.onMonitoringFailed payloadId)
        (fun stage _ => stage.atRest) Stage.idle result := by
    intro result
    cases result with
    | ok _ => exact Or.inl rfl
    | error failure => exact handled failure
  unfold SubmitterService.monitorTransaction
  rw [follows_tryCatch, follows_bind]
  refine follows_quiet trivial (fun result => by cases result <;> rfl) fun receipt => ?_
  match receipt with
  | .error failure => exact handled failure
  | .ok none => exact handled _
  | .ok (some receipt) =>
    rw [afterOk_ok]
    dsimp only
    rw [follows_bind]
    refine follows_quiet trivial (fun result => by cases result <;> rfl) fun result => ?_
    match result with
    | .error failure => exact handled failure
    | .ok none => exact Or.inl rfl
    | .ok (some payload) =>
      rw [afterOk_ok]
      dsimp only
      refine clock_then fun now => ?_
      split
      next => exact saveMonitored_follows _ (Or.inl rfl) stored
      next => exact saveMonitored_follows _ (Or.inr rfl) stored

end Programs

/-! ## The process -/

/-- The process open to the calls of the submitter and to nothing else. -/
abbrev submitterProcess (config : OracleConfig) : Service oracle := oracleProcess config ofSubmitter

theorem submitter_conforms (p : String) (config : OracleConfig) :
    Conforms (submission p) (submitterProcess config) where
  body call _ := by
    have ends : ∀ {α : Type} {program : OracleM α} (value : α → OracleValue),
        Follows (submission p) Stage.idle program (fun stage _ => stage.atRest) →
        Keeps (submission p) Stage.idle (do
          let result ← program
          pure (value result)) := by
      intro α program value follows
      unfold Keeps
      rw [follows_bind]
      refine follows_mono (submission p) ?_ follows
      intro stage result _
      cases result <;> trivial
    cases call with
    | submitPayload payloadId => exact ends _ (submitPayload_follows config.submitter payloadId)
    | retrySubmission payloadId => exact ends _ (retrySubmission_follows config.submitter payloadId)
    | batchSubmitPayloads payloadIds =>
      exact ends _ (batchSubmitPayloads_follows config.submitter waits
        (fun payloadId stage resting => follows_atRest resting (fun _ => Or.inr rfl)
          (submitPayload_follows config.submitter payloadId)) payloadIds (Or.inl rfl))
    | batchSubmitPayloadsConcurrent payloadIds maxConcurrent =>
      exact ends _ (submitChunks_follows maxConcurrent waits (Or.inl rfl) (fun _ => Or.inr rfl) _ payloadIds)
    | monitorTransaction payloadId txHash =>
      exact ends (fun _ => OracleValue.nothing) (monitorTransaction_follows payloadId txHash)
    | _ => exact follows_of_broken fun _ => trivial
  possible _ _ _ _ _ responds := respond_possible responds

/-! ## The invariant -/

/-- The transactions of a payload that were accepted and not reported as reverted. -/
def liveBroadcasts (p : String) (world : OracleWorld) : Nat :=
  world.broadcasts.countP fun b => decide (b.payloadId = p) && ! b.reverted

def statusOf (p : String) (world : OracleWorld) : Option PayloadStatus :=
  (world.payloads.findOne p).map (·.status)

variable {p : String} {config : OracleConfig}

/-- Sent transactions of a payload, its stored status and the stages of its calls. -/
structure SingleLive (config : OracleConfig) (v : View (submission p) (submitterProcess config)) :
    Prop where
  intact : Stage.broken ∉ v.phases
  alone : ∀ (i j : Nat) (a b : Stage), v.phases[i]? = some a → v.phases[j]? = some b →
    a.submitting = true →
    b.submitting = true → i = j
  quiet : Stage.ready ∈ v.phases → liveBroadcasts p v.world = 0
  single : liveBroadcasts p v.world ≤ 1
  stored : 0 < liveBroadcasts p v.world → Stage.sent ∉ v.phases →
    statusOf p v.world ≠ some .pending

/-- The condition on a run: a submission reads the payload as pending only while no
other call is submitting it, a retry resets it only while no transaction of it is
live, and the store of a sent transaction does not fail. -/
def Orderly (p : String) (config : OracleConfig) :
    AnswerCondition (submission p) (submitterProcess config) :=
  fun v i op result =>
    match op, result with
    | .findOne .submitPayload id, .ok (some payload) =>
      id = p → sendable payload = true →
        ∀ (j : Nat) (stage : Stage), j ≠ i → v.phases[j]? = some stage → stage.submitting = false
    | .save payload, result => payload.id = p →
      match payload.status with
      | .pending => liveBroadcasts p v.world = 0
      | .submitted => result = .ok ()
      | _ => True
    | _, _ => True

section Steps
variable {v : View (submission p) (submitterProcess config)} {world : OracleWorld} {i : Nat}
  {trace : List (Nat × Event oracle)}

theorem SingleLive.grow (holds : SingleLive config v) (new : List Stage) (idle : ∀ stage ∈ new, stage = .idle) :
    SingleLive config { v with phases := v.phases ++ new } where
  intact member := by
    rcases List.mem_append.mp member with old | added
    · exact holds.intact old
    · cases idle _ added
  alone i j a b ha hb sa sb := by
    have old : ∀ (k : Nat) (c : Stage), (v.phases ++ new)[k]? = some c → c.submitting = true →
        v.phases[k]? = some c := by
      intro k c found active
      rcases Nat.lt_or_ge k v.phases.length with inside | outside
      · rwa [List.getElem?_append_left inside] at found
      · rw [List.getElem?_append_right outside] at found
        rw [idle c (List.mem_of_getElem? found)] at active
        cases active
    exact holds.alone i j a b (old i a ha sa) (old j b hb sb) sa sb
  quiet member := by
    rcases List.mem_append.mp member with old | added
    · exact holds.quiet old
    · cases idle _ added
  single := holds.single
  stored live missing := holds.stored live fun old => missing (List.mem_append_left _ old)

/-- A step that leaves the stages alone may only lose live transactions, and may
make the payload pending only when none is left. -/
theorem SingleLive.keep (holds : SingleLive config v) (fewer : liveBroadcasts p world ≤ liveBroadcasts p v.world)
    (status : statusOf p world = statusOf p v.world ∨ statusOf p world ≠ some .pending ∨
      liveBroadcasts p world = 0) : SingleLive config { v with world := world, trace := trace } where
  intact := holds.intact
  alone := holds.alone
  quiet member := Nat.le_zero.mp (holds.quiet member ▸ fewer)
  single := fewer.trans holds.single
  stored live missing := by
    rcases status with same | different | none_live
    · rw [same]
      exact holds.stored (live.trans_le fewer) missing
    · exact different
    · exact absurd none_live (Nat.pos_iff_ne_zero.mp live)

theorem SingleLive.finish (holds : SingleLive config v) (fewer : liveBroadcasts p world ≤ liveBroadcasts p v.world)
    (status : 0 < liveBroadcasts p world → statusOf p world ≠ some .pending) :
    SingleLive config { v with world := world, phases := v.phases.set i .idle, trace := trace } where
  intact member := by
    rcases List.mem_or_eq_of_mem_set member with old | new
    · exact holds.intact old
    · cases new
  alone j k a b ha hb sa sb := by
    rcases getElem?_set_cases ha with ⟨_, rfl⟩ | ⟨_, ha⟩
    · cases sa
    · rcases getElem?_set_cases hb with ⟨_, rfl⟩ | ⟨_, hb⟩
      · cases sb
      · exact holds.alone j k a b ha hb sa sb
  quiet member := by
    rcases List.mem_or_eq_of_mem_set member with old | new
    · exact Nat.le_zero.mp (holds.quiet old ▸ fewer)
    · cases new
  single := fewer.trans holds.single
  stored live _ := status live

theorem SingleLive.becomeReady (holds : SingleLive config v) (idle : v.phases[i]? = some .idle)
    (others : ∀ (j : Nat) (stage : Stage), j ≠ i → v.phases[j]? = some stage → stage.submitting = false)
    (pending : statusOf p v.world = some .pending) :
    SingleLive config { v with phases := v.phases.set i .ready, trace := trace } := by
  have unsent : Stage.sent ∉ v.phases := by
    intro member
    obtain ⟨j, found⟩ := List.mem_iff_getElem?.mp member
    by_cases same : j = i
    · rw [same, idle] at found
      cases found
    · cases others j _ same found
  have none_live : liveBroadcasts p v.world = 0 := by
    by_contra live
    exact holds.stored (Nat.pos_of_ne_zero live) unsent pending
  refine ⟨?_, ?_, fun _ => none_live, holds.single, ?_⟩
  · intro member
    rcases List.mem_or_eq_of_mem_set member with old | new
    · exact holds.intact old
    · cases new
  · intro j k a b ha hb sa sb
    rcases getElem?_set_cases ha with ⟨rfl, rfl⟩ | ⟨different, ha⟩
    · rcases getElem?_set_cases hb with ⟨rfl, rfl⟩ | ⟨different, hb⟩
      · rfl
      · rw [others k b different hb] at sb
        cases sb
    · rw [others j a different ha] at sa
      cases sa
  · intro live
    exact absurd none_live (Nat.pos_iff_ne_zero.mp live)

theorem SingleLive.send (holds : SingleLive config v) (ready : v.phases[i]? = some .ready)
    (one : liveBroadcasts p world = 1) :
    SingleLive config { v with world := world, phases := v.phases.set i .sent, trace := trace } where
  intact member := by
    rcases List.mem_or_eq_of_mem_set member with old | new
    · exact holds.intact old
    · cases new
  alone j k a b ha hb sa sb := by
    have only : ∀ (l : Nat) (c : Stage), (v.phases.set i .sent)[l]? = some c → c.submitting = true →
        l = i := by
      intro l c found active
      rcases getElem?_set_cases found with ⟨same, _⟩ | ⟨_, old⟩
      · exact same
      · exact holds.alone l i c .ready old ready active rfl
    rw [only j a ha sa, only k b hb sb]
  quiet member := by
    obtain ⟨j, found⟩ := List.mem_iff_getElem?.mp member
    rcases getElem?_set_cases found with ⟨_, new⟩ | ⟨different, old⟩
    · cases new
    · exact absurd (holds.alone j i .ready .ready old ready rfl rfl) different
  single := one.le
  stored _ missing := by
    obtain ⟨inside, _⟩ := List.getElem?_eq_some_iff.mp ready
    exact absurd (List.mem_iff_getElem?.mpr ⟨i, by simp [inside]⟩) missing

end Steps

/-! ## What the operations do to it -/

variable {world : OracleWorld}

theorem statusOf_write_self (same : payload.id = p) : statusOf p (world.write payload) = some payload.status := by
  subst same
  simp only [statusOf, findOne_write_self, Option.map_some]

theorem statusOf_write_other (other : payload.id ≠ p) : statusOf p (world.write payload) = statusOf p world := by
  simp only [statusOf, findOne_write_other other]

theorem liveBroadcasts_report (world : OracleWorld) (hash : String) (receipt : Option Receipt) :
    liveBroadcasts p (world.report hash receipt) ≤ liveBroadcasts p world := by
  unfold OracleWorld.report
  split
  next => exact le_refl _
  next =>
    split
    next => exact le_refl _
    next =>
      simp only [liveBroadcasts, List.countP_map]
      apply List.countP_mono_left
      intro b _ counted
      simp only [Function.comp_apply] at counted
      split at counted
      · simp at counted
      · exact counted

theorem statusOf_report (world : OracleWorld) (hash : String) (receipt : Option Receipt) :
    statusOf p (world.report hash receipt) = statusOf p world := by
  unfold statusOf
  rw [payloads_report]

theorem liveBroadcasts_append (world : OracleWorld) (payloadId hash : String) (arguments : SubmitArguments) :
    liveBroadcasts p { world with
        broadcasts := world.broadcasts ++ [⟨payloadId, arguments, hash, false⟩] } =
      liveBroadcasts p world + if payloadId = p then 1 else 0 := by
  simp [liveBroadcasts, List.countP_append, List.countP_cons]

theorem set_same {phases : List Stage} {i : Nat} (found : phases[i]? = some stage) : phases.set i stage = phases := by
  obtain ⟨inside, rfl⟩ := List.getElem?_eq_some_iff.mp found
  exact List.set_getElem_self inside

theorem SingleLive.quietReply {v : View (submission p) (submitterProcess config)} {i : Nat}
    {phase stage : Stage} {trace : List (Nat × Event oracle)} (holds : SingleLive config v)
    (found : v.phases[i]? = some phase) (same : stage = phase)
    (fewer : liveBroadcasts p world ≤ liveBroadcasts p v.world)
    (status : statusOf p world = statusOf p v.world ∨ statusOf p world ≠ some .pending ∨ liveBroadcasts p world = 0) :
    SingleLive config ⟨world, v.phases.set i stage, trace⟩ := by
  rw [same, set_same found]
  exact holds.keep fewer status

theorem SingleLive.saved {v : View (submission p) (submitterProcess config)} {i : Nat} {outcome : Outcome}
    {result : Except Exception Unit} {trace : List (Nat × Event oracle)} (holds : SingleLive config v)
    (found : v.phases[i]? = some stage) (allowed : stage.allows p (.save payload))
    (responds : OracleWorld.respond v.world (.save payload) outcome = some (world, result))
    (orderly : Orderly p config v i (.save payload) result) :
    SingleLive config ⟨world, v.phases.set i (stage.after p (.save payload) result), trace⟩ := by
  have unbroadcast : liveBroadcasts p world = liveBroadcasts p v.world := by
    rcases respond_save responds with rfl | ⟨rfl, _⟩ <;> rfl
  by_cases same : payload.id = p
  · have written : statusOf p world = some payload.status ∨
        (statusOf p world = statusOf p v.world ∧ ∃ failure, result = .error failure) := by
      rcases respond_save responds with rfl | ⟨rfl, failed⟩
      · exact Or.inl (statusOf_write_self same)
      · exact Or.inr ⟨rfl, failed⟩
    have allowed := allowed same
    have orderly := orderly same
    have after : stage.after p (.save payload) result = stage.afterSave payload.status result := by
      simp [Stage.after, same]
    rw [after]
    cases status : payload.status with
    | pending =>
      rw [status] at allowed orderly
      exact holds.quietReply found (by cases result <;> rfl) unbroadcast.le
        (Or.inr (Or.inr (unbroadcast.trans orderly)))
    | confirmed =>
      refine holds.quietReply found (by cases result <;> rfl) unbroadcast.le ?_
      rcases written with written | ⟨unchanged, _⟩
      · exact Or.inr (Or.inl (by simp [written, status]))
      · exact Or.inl unchanged
    | submitted =>
      rw [status] at orderly
      subst orderly
      refine holds.finish unbroadcast.le fun _ => ?_
      rcases written with written | ⟨_, failure, failed⟩
      · simp [written, status]
      · cases failed
    | failed =>
      rw [status] at allowed
      have idle : stage.afterSave .failed result = .idle := by cases result <;> rfl
      rw [idle]
      rcases written with written | ⟨unchanged, _⟩
      · exact holds.finish unbroadcast.le fun _ => by simp [written, status]
      · rcases allowed with rfl | rfl
        · exact holds.quietReply found rfl unbroadcast.le (Or.inl unchanged)
        · have none_live := holds.quiet (List.mem_of_getElem? found)
          exact holds.finish unbroadcast.le fun live =>
            absurd (unbroadcast.trans none_live) (Nat.pos_iff_ne_zero.mp live)
  · refine holds.quietReply found (by simp [Stage.after, same]) unbroadcast.le (Or.inl ?_)
    rcases respond_save responds with rfl | ⟨rfl, _⟩
    · exact statusOf_write_other same
    · rfl

theorem SingleLive.moves {v v' : View (submission p) (submitterProcess config)}
    (holds : SingleLive config v) (moved : Moves (submission p) (Orderly p config) v v') : SingleLive config v' := by
  cases moved with
  | calls new started =>
    refine holds.grow _ fun stage member => ?_
    obtain ⟨call, listed, rfl⟩ := List.mem_map.mp member
    have submitter : ofSubmitter call = true := by
      rcases started call listed with isPublic | ⟨phase, running, broken | submitter⟩
      · exact (Bool.and_eq_true_iff.mp isPublic).2
      · exact absurd (broken ▸ running) holds.intact
      · exact submitter
    exact if_pos submitter
  | env mem change =>
    cases change <;> exact holds.keep (le_refl _) (Or.inl rfl)
  | reply i phase op choice world result found allowed responds orderly =>
    have fine : phase ≠ .broken := fun broken =>
      holds.intact (broken ▸ List.mem_of_getElem? found)
    have allowed : phase.allows p op := allowed.resolve_left fine
    rw [show (submission p).advance phase op result = phase.after p op result from
      advance_not_broken fine op result]
    cases op with
    | findOne site id =>
      obtain ⟨rfl, reads⟩ := respond_findOne responds
      by_cases reading : site = .submitPayload ∧ id = p ∧
          ∃ payload, result = .ok (some payload) ∧ sendable payload = true
      · obtain ⟨rfl, rfl, payload, rfl, sends⟩ := reading
        have idle := allowed rfl
        have ready : phase.after id (.findOne .submitPayload id) (.ok (some payload)) = .ready := by
          simp [Stage.after, sends]
        have pending : statusOf id v.world = some .pending := by
          simp only [sendable, decide_eq_true_eq] at sends
          simp [statusOf, reads payload rfl, sends.1]
        rw [ready]
        exact holds.becomeReady (idle ▸ found) (orderly rfl sends) pending
      · refine holds.quietReply found ?_ (le_refl _) (Or.inl rfl)
        cases site with
        | submitPayload =>
          rcases result with failure | _ | payload
          · rfl
          · rfl
          · exact if_neg fun read => reading ⟨rfl, read.1, payload, rfl, read.2⟩
        | _ => cases result <;> rfl
    | find site query =>
      obtain ⟨rfl, _⟩ := respond_find responds
      exact holds.quietReply found (by cases result <;> rfl) (le_refl _) (Or.inl rfl)
    | save payload => exact holds.saved found allowed responds orderly
    | saveAll payloads => exact allowed.elim
    | estimateGas arguments =>
      have same := respond_estimateGas responds
      subst same
      exact holds.quietReply found (by cases result <;> rfl) (le_refl _) (Or.inl rfl)
    | submitPayload payloadId arguments gasLimit =>
      rcases respond_submitPayload responds with ⟨hash, rfl, rfl⟩ | ⟨rfl, failure, rfl⟩
      · have live := liveBroadcasts_append (p := p) v.world payloadId hash arguments
        by_cases same : payloadId = p
        · have ready := allowed same
          subst ready
          have none_live := holds.quiet (List.mem_of_getElem? found)
          have sent : Stage.ready.after p (.submitPayload payloadId arguments gasLimit) (.ok hash) =
              .sent := if_pos same
          rw [sent]
          refine holds.send found ?_
          rw [live, none_live, if_pos same]
        · refine holds.quietReply found (if_neg same) ?_ (Or.inl rfl)
          rw [live, if_neg same]
          exact le_refl _
      · exact holds.quietReply found rfl (le_refl _) (Or.inl rfl)
    | waitForTransaction hash =>
      obtain ⟨receipt, rfl⟩ := respond_waitForTransaction responds
      exact holds.quietReply found (by cases result <;> rfl)
        (liveBroadcasts_report v.world hash receipt) (Or.inl (statusOf_report v.world hash receipt))
    | sleep ms =>
      have same := respond_sleep responds
      subst same
      exact holds.quietReply found (by cases result <;> rfl) (le_refl _) (Or.inl rfl)

theorem singleLive_initial (mem : OracleMemory) (none_live : liveBroadcasts p world = 0) : SingleLive config
      (view (submission p) (Config.initial (submitterProcess config) world mem)) where
  intact := by simp [view, phases, Config.initial]
  alone i j a b found := by simp [view, phases, Config.initial] at found
  quiet _ := none_live
  single := by
    change liveBroadcasts p world ≤ 1
    omega
  stored live := absurd none_live (Nat.pos_iff_ne_zero.mp live)

/-- In every orderly run of the submitter, whatever fails and however its calls are
interleaved, at most one transaction of a payload is live. -/
theorem at_most_one_live_broadcast (p : String) (config : OracleConfig) (world : OracleWorld)
    (mem : OracleMemory) (none_live : liveBroadcasts p world = 0)
    (labels : List (Label (submitterProcess config))) (after : Config (submitterProcess config))
    (orderly : Admissible (OnAnswers (submission p) (Orderly p config)) labels
      (Config.initial (submitterProcess config) world mem))
    (ran : run labels (Config.initial (submitterProcess config) world mem) = some after) :
    liveBroadcasts p after.world ≤ 1 := by
  have holds := invariant_of_moves (submitter_conforms p config)
    (fun _ _ holds moved => SingleLive.moves holds moved) (allKeep_initial world mem)
    (singleLive_initial mem none_live) orderly ran
  exact holds.1.single

/-- Two calls read the payload as pending before either stores that it was sent. -/
def overlappingSubmissions : List (Label (submitterProcess sampleConfig)) :=
  [.call (.submitPayload "p"), .call (.submitPayload "p"), .resume 0, .resume 1,
    .reply 0 Outcome.done, .reply 1 Outcome.done, .resume 0, .resume 1,
    .reply 0 (Outcome.gas 21000), .reply 1 (Outcome.gas 21000),
    .reply 0 (Outcome.accepted "0x1"), .reply 1 (Outcome.accepted "0x2")]

theorem two_live_broadcasts :
    (run overlappingSubmissions (sampleStart ofSubmitter samplePayload)).map
      (fun c => liveBroadcasts "p" c.world) = some 2 := by
  rfl

/-- One submission from the first read to the store of the sent transaction, and another that reads the
payload after it. -/
def submissionsInTurn : List (Label (submitterProcess sampleConfig)) :=
  [.call (.submitPayload "p"), .resume 0, .reply 0 Outcome.done, .resume 0,
    .reply 0 (Outcome.gas 21000), .reply 0 (Outcome.accepted "0x1"), .resume 0,
    .reply 0 Outcome.done, .call (.submitPayload "p"), .resume 1, .reply 1 Outcome.done]

theorem submissionsInTurn_orderly :
    Admissible (OnAnswers (submission "p") (Orderly "p" sampleConfig)) submissionsInTurn
      (sampleStart ofSubmitter samplePayload) := by
  refine admissible_cons trivial rfl (admissible_cons trivial rfl (admissible_cons ?_ rfl
    (admissible_cons trivial rfl (admissible_cons ?_ rfl (admissible_cons ?_ rfl
      (admissible_cons trivial rfl (admissible_cons ?_ rfl (admissible_cons trivial rfl
        (admissible_cons trivial rfl (admissible_cons ?_ rfl trivial))))))))))
  · refine onAnswers_reply _ _ rfl fun _ _ j stage other found => ?_
    cases j with
    | zero => exact absurd rfl other
    | succ j => cases found
  · exact onAnswers_reply _ _ rfl trivial
  · exact onAnswers_reply _ _ rfl trivial
  · exact onAnswers_reply _ _ rfl fun _ => rfl
  · exact onAnswers_reply _ _ rfl fun _ sends => by cases sends

theorem at_most_one_live_broadcast_in_turn :
    ∃ after, run submissionsInTurn (sampleStart ofSubmitter samplePayload) = some after ∧
      0 < liveBroadcasts "p" after.world ∧ liveBroadcasts "p" after.world ≤ 1 :=
  ⟨_, rfl, by decide, at_most_one_live_broadcast "p" sampleConfig (sampleWorld samplePayload) ⟨0, "", []⟩ rfl
    submissionsInTurn _ submissionsInTurn_orderly rfl⟩

end AlianStructure.Guarantees.SingleBroadcast
