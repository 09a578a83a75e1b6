import AlianStructure.Guarantees.PayloadWalks

/-!
# A confirmed payload stays confirmed

Source: submitter.service.ts:352-445, submission-batch.service.ts:455-720 and
oracle.service.ts:345-370. All calls of the three services run against one table.
For a fixed payload the protocol remembers the row a call has last read and where in
the source it has read it; that decides what the call can still store.
-/
namespace AlianStructure.Guarantees.ConfirmedForever
open Library.AsyncMethod Library.Interleaving Library.CallProtocol Library.KeyedTable
open Source Source.Oracle PayloadStore PayloadWalks

/-! ## What a call has read -/

/-- The last row of the payload a call has read, with the place of the read, and
whether the last receipt it was given is that of a successful transaction. -/
structure Reading where
  receiptOk : Bool
  read : Option (Site × SignedPayload)

/-- A read after which the source stores something else even over a confirmed row. -/
def Reading.overwrites (maxRetries : Nat) (reading : Reading) : Bool :=
  match reading.read with
  | some (.retrySubmission, row) => decide (row.submissionAttempts < maxRetries)
  | some (.markAsFailed, _) | some (.monitoringFailed, _) => true
  | some (.monitorTransaction, _) => ! reading.receiptOk
  | _ => false

/-- A read after which the source stores the payload as confirmed, if at all. -/
def Reading.confirms (reading : Reading) : Bool :=
  match reading.read with
  | some (.monitorTransaction, row) => reading.receiptOk || decide (row.status = .confirmed)
  | some (_, row) => decide (row.status = .confirmed)
  | none => false

/-- The call has read the payload, and has read it as unconfirmed in order to send it. -/
def Reading.unconfirmed (reading : Reading) : Prop :=
  reading.read.isSome = true ∧ reading.confirms = false

/-- Reading the row of an id: only that of `p` is remembered. -/
def Reading.see (p : String) (reading : Reading) (site : Site) (id : String)
    (payload : SignedPayload) : Reading :=
  if id = p then { reading with read := some (site, payload) } else reading

def Reading.after (p : String) (reading : Reading) :
    (op : OracleOp) → Except Exception op.Reply → Reading
  | .waitForTransaction _, .ok (some receipt) => ⟨decide (receipt.status = 1), none⟩
  | .waitForTransaction _, _ => ⟨false, none⟩
  | .findOne site id, .ok (some payload) => reading.see p site id payload
  | .find site _, .ok payloads =>
    match payloads.find? fun payload => decide (payload.id = p) with
    | some payload => { reading with read := some (site, payload) }
    | none => reading
  | _, _ => reading

/-- What a call may store of the payload after what it has read. -/
def Reading.mayStore (maxRetries : Nat) (reading : Reading) (payload : SignedPayload) : Prop :=
  ∃ site row, reading.read = some (site, row) ∧
    (reading.confirms = true → reading.overwrites maxRetries = false →
      payload.status = .confirmed ∧ payload.transactionHash = row.transactionHash)

/-- The places that read rows by a query. -/
def lists : Site → Bool
  | .validatePayloadsForBatch | .retryFailedPayloads | .cleanupExpiredPayloads => true
  | _ => false

def Reading.allows (p : String) (maxRetries : Nat) (reading : Reading) : OracleOp → Prop
  | .find site _ => lists site = true
  | .save payload => payload.id = p → reading.mayStore maxRetries payload
  | .saveAll payloads => p ∈ payloads.map (·.id) → reading.unconfirmed
  | _ => True

/-- A batched submission is given the row its batch has read. -/
def Reading.start (p : String) : OracleCall → Reading
  | .submitBatched payload =>
    if payload.id = p then ⟨false, some (.validatePayloadsForBatch, payload)⟩ else ⟨false, none⟩
  | _ => ⟨false, none⟩

abbrev reading (p : String) (maxRetries : Nat) : Protocol oracle where
  Phase := Reading
  start := Reading.start p
  starts _ call :=
    match call with
    | .submitBatched payload => payload.id = p → payload.status ≠ .confirmed
    | _ => True
  allows := Reading.allows p maxRetries
  possible := possible
  advance := Reading.after p
  returns _ _ := True

section Programs
variable {p : String} {maxRetries : Nat} {α : Type}

/-- Nothing is asked of how a program ends. -/
abbrev anyEnd : Reading → Except Exception α → Prop := fun _ _ => True

/-- The call may store the payload with this id freely. -/
def Holds (p id : String) (reading : Reading) : Prop := id = p → reading.unconfirmed

theorem mayStore_of_unconfirmed {reading : Reading} (unconfirmed : reading.unconfirmed)
    (payload : SignedPayload) : reading.mayStore maxRetries payload := by
  obtain ⟨isRead, free⟩ := unconfirmed
  obtain ⟨⟨site, row⟩, found⟩ := Option.isSome_iff_exists.mp isRead
  exact ⟨site, row, found, fun confirms => absurd confirms (by simp [free])⟩

theorem follows_op {phase : Reading} {op : OracleOp}
    {post : Reading → Except Exception op.Reply → Prop} (allowed : phase.allows p maxRetries op)
    (continues : ∀ result, possible op result → post (phase.after p op result) result) :
    Follows (reading p maxRetries) phase (Async.perform (R := oracle) op) post :=
  ⟨allowed, continues⟩

theorem waits : Waits (reading p maxRetries) := fun phase _ =>
  follows_op trivial fun result waits => by
    cases result with
    | ok _ => exact ⟨rfl, rfl⟩
    | error _ => exact waits.elim

variable {payload : SignedPayload} {post : Reading → Except Exception Unit → Prop}

theorem save_follows {phase : Reading} (allowed : payload.id = p → phase.mayStore maxRetries payload)
    (continues : ∀ result, post phase result) : Follows (reading p maxRetries) phase (save payload) post :=
  follows_op allowed fun result _ => by
    cases result <;> exact continues _

theorem saveHeld_follows {phase : Reading} (holds : Holds p payload.id phase)
    (continues : ∀ result, post phase result) : Follows (reading p maxRetries) phase (save payload) post :=
  save_follows (fun same => mayStore_of_unconfirmed (holds same) payload) continues

variable {site : Site}

theorem findOne_follows {phase : Reading} {id : String}
    {post : Reading → Except Exception (Option SignedPayload) → Prop}
    (failed : ∀ failure, post phase (.error failure)) (missing : post phase (.ok none))
    (found : ∀ payload : SignedPayload, payload.id = id → post (phase.see p site id payload) (.ok (some payload))) :
    Follows (reading p maxRetries) phase (findOne site id) post :=
  follows_op trivial fun result named => by
    match result with
    | .error failure => exact failed failure
    | .ok none => exact missing
    | .ok (some payload) => exact found payload named

theorem see_other {phase : Reading} {id : String} (other : id ≠ p) :
    phase.see p site id payload = phase := if_neg other

theorem saveSeen_follows {phase : Reading} {id : String} {row payload : SignedPayload} (same : payload.id = row.id)
    (named : row.id = id)
    (permitted : Reading.mayStore maxRetries { phase with read := some (site, row) } payload)
    (continues : ∀ after result, (id ≠ p → after = phase) → post after result) :
    Follows (reading p maxRetries) (phase.see p site id row) (save payload) post := by
  refine save_follows (fun held => ?_) fun result => continues _ result see_other
  have about : id = p := by rw [← named, ← same, held]
  rw [Reading.see, if_pos about]
  exact permitted

variable {row : SignedPayload}

theorem mayStore_over {phase : Reading}
    (stores : Reading.overwrites maxRetries { phase with read := some (site, row) } = true)
    (payload : SignedPayload) :
    Reading.mayStore maxRetries { phase with read := some (site, row) } payload :=
  ⟨site, row, rfl, fun _ stays => by
    rw [stores] at stays
    cases stays⟩

theorem onMonitoringFailed_follows (payloadId : String) (failure : Exception) (phase : Reading) :
    Follows (reading p maxRetries) phase (SubmitterService.onMonitoringFailed payloadId failure) anyEnd := by
  unfold SubmitterService.onMonitoringFailed
  rw [follows_bind]
  refine findOne_follows (fun _ => trivial) trivial fun payload named => ?_
  exact saveSeen_follows rfl named (mayStore_over rfl _) fun _ _ _ => trivial

theorem monitorTransaction_follows (payloadId txHash : String) (phase : Reading) :
    Follows (reading p maxRetries) phase (SubmitterService.monitorTransaction payloadId txHash) anyEnd := by
  have handled : ∀ failure after, Follows (reading p maxRetries) after
      (SubmitterService.onMonitoringFailed payloadId failure) anyEnd :=
    onMonitoringFailed_follows payloadId
  have stored : ∀ (after : Reading) (result : Except Exception Unit),
      afterError (reading p maxRetries) (SubmitterService.onMonitoringFailed payloadId) anyEnd
        after result := by
    intro after result
    cases result with
    | ok _ => trivial
    | error failure => exact handled failure after
  unfold SubmitterService.monitorTransaction
  rw [follows_tryCatch, follows_bind]
  refine follows_op trivial fun receipt _ => ?_
  match receipt with
  | .error failure => exact handled failure _
  | .ok none => exact handled _ _
  | .ok (some receipt) =>
    rw [afterOk_ok]
    dsimp only
    rw [follows_bind]
    refine findOne_follows (fun failure => handled failure _) trivial fun payload named => ?_
    rw [afterOk_ok]
    dsimp only
    refine clock_then fun now => ?_
    split
    next success =>
      exact saveSeen_follows rfl named ⟨_, payload, rfl, fun _ _ => ⟨rfl, rfl⟩⟩
        fun after result _ => stored after result
    next reverted =>
      refine saveSeen_follows rfl named (mayStore_over ?_ _) fun after result _ =>
        stored after result
      simp [Reading.overwrites, Reading.after, reverted]

theorem onAttemptFailed_follows (config : SubmitterConfig) (attempt : Nat) (failure : Exception)
    {retry : SignedPayload → OracleM Submitted} {phase : Reading} (holds : Holds p payload.id phase)
    (retries : ∀ other : SignedPayload, other.id = payload.id →
      Follows (reading p maxRetries) phase (retry other) anyEnd) : Follows (reading p maxRetries) phase
      (SubmitterService.onAttemptFailed config payload attempt failure retry) anyEnd := by
  unfold SubmitterService.onAttemptFailed
  dsimp only
  split
  next last =>
    rw [follows_bind]
    refine saveHeld_follows holds fun result => ?_
    cases result <;> trivial
  next again =>
    refine waits.sleep_then ?_
    exact retries _ rfl

theorem submitAttempts_follows (config : SubmitterConfig) {phase : Reading} :
    ∀ (left attempt : Nat) (payload : SignedPayload), Holds p payload.id phase →
      Follows (reading p maxRetries) phase
        (SubmitterService.submitAttempts config left attempt payload) anyEnd
  | 0, _, _, _ => trivial
  | left + 1, attempt, payload, holds => by
    have retries : ∀ other : SignedPayload, other.id = payload.id →
        Follows (reading p maxRetries) phase
          (SubmitterService.submitAttempts config left (attempt + 1) other) anyEnd :=
      fun other same => submitAttempts_follows config left (attempt + 1) other (same ▸ holds)
    unfold SubmitterService.submitAttempts
    dsimp only
    rw [follows_bind]
    refine estimateGas_then (follows_op trivial fun result _ => by cases result <;> rfl) fun gas => ?_
    rw [afterOk_ok, follows_bind, follows_outcome]
    refine follows_op trivial fun sent _ => ?_
    rw [afterOk_ok]
    cases sent with
    | error failure => exact onAttemptFailed_follows config attempt failure holds retries
    | ok hash =>
      dsimp only
      refine clock_then fun now => ?_
      rw [follows_bind, follows_outcome]
      refine saveHeld_follows holds fun saved => ?_
      rw [afterOk_ok]
      cases saved with
      | error failure => exact onAttemptFailed_follows config attempt failure holds retries
      | ok _ => exact ⟨trivial, trivial⟩

theorem submitPayload_follows (config : SubmitterConfig) (payloadId : String) (phase : Reading) :
    Follows (reading p maxRetries) phase (SubmitterService.submitPayload config payloadId) anyEnd := by
  unfold SubmitterService.submitPayload
  split
  next => trivial
  next =>
    rw [follows_bind]
    refine findOne_follows (fun _ => trivial) trivial fun payload named => ?_
    rw [afterOk_ok]
    dsimp only
    split
    next => trivial
    next => exact ⟨trivial, trivial⟩
    next =>
      unfold SubmitterService.submitPending
      split
      next => trivial
      next pending =>
        have holds : Holds p payload.id (phase.see p .submitPayload payloadId payload) := by
          intro same
          rw [Reading.see, if_pos (named ▸ same)]
          exact ⟨rfl, by simp [Reading.confirms, not_not.mp pending]⟩
        split
        next => trivial
        next =>
          refine clock_then fun now => ?_
          split
          next =>
            rw [follows_bind]
            refine saveHeld_follows holds fun result => ?_
            cases result <;> trivial
          next => exact submitAttempts_follows config _ _ payload holds

theorem retrySubmission_follows (config : SubmitterConfig) (payloadId : String) (phase : Reading) :
    Follows (reading p config.maxRetries) phase (SubmitterService.retrySubmission config payloadId) anyEnd := by
  unfold SubmitterService.retrySubmission
  rw [follows_bind]
  refine findOne_follows (fun _ => trivial) trivial fun payload named => ?_
  rw [afterOk_ok]
  dsimp only
  split
  next => trivial
  next left =>
    rw [follows_bind]
    refine saveSeen_follows rfl named (mayStore_over ?_ _) fun after result _ => ?_
    · simpa [Reading.overwrites] using left
    · cases result with
      | error failure => trivial
      | ok _ => exact submitPayload_follows config payloadId after

/-! ## So does the batch service -/

theorem markAsFailed_follows (payloadId message : String) (failureType : FailureType)
    (attempt : Nat) (phase : Reading) : Follows (reading p maxRetries) phase
      (SubmissionBatchService.markAsFailed payloadId message failureType attempt)
      fun after result => result = .ok () ∧ (payloadId ≠ p → after = phase) := by
  unfold SubmissionBatchService.markAsFailed
  rw [follows_tryCatch, follows_bind]
  refine findOne_follows (fun _ => ⟨rfl, fun _ => rfl⟩) ⟨rfl, fun _ => rfl⟩ fun payload named => ?_
  rw [afterOk_ok]
  dsimp only
  refine saveSeen_follows rfl named (mayStore_over rfl _) fun after result unchanged => ?_
  cases result with
  | ok _ => exact ⟨rfl, unchanged⟩
  | error failure => exact ⟨rfl, unchanged⟩

theorem submitBatched_follows {phase : Reading} (holds : Holds p payload.id phase) :
    Follows (reading p maxRetries) phase (SubmissionBatchService.submitPayload payload)
      fun after _ => after = phase := by
  unfold SubmissionBatchService.submitPayload
  rw [follows_bind, follows_memory]
  intro memory
  rw [afterOk_ok]
  dsimp only
  rw [follows_bind]
  refine saveHeld_follows holds fun result => ?_
  cases result <;> rfl

theorem find_follows {phase : Reading} {query : PayloadQuery}
    {post : Reading → Except Exception (List SignedPayload) → Prop} (listing : lists site = true)
    (failed : ∀ failure, post phase (.error failure))
    (found : ∀ (payloads : List SignedPayload) (after : Reading), (payloads.map (·.id)).Nodup →
      (∀ payload ∈ payloads, query.selects payload = true) →
      (∀ payload ∈ payloads, payload.id = p → after.read = some (site, payload)) → post after (.ok payloads)) :
    Follows (reading p maxRetries) phase (find site query) post :=
  follows_op listing fun result listed => by
    match result with
    | .error failure => exact failed failure
    | .ok payloads =>
      refine found payloads _ listed.1 listed.2 fun payload member same => ?_
      have first : payloads.find? (fun other => decide (other.id = p)) = some payload := by
        have inside : payload ∈ (⟨payloads, listed.1⟩ : Table SignedPayload SignedPayload.id).rows :=
          member
        exact same ▸ Table.findOne_of_mem inside
      simp only [Reading.after, first]

/-- A row that was read to go on with, or that may be stored. -/
def Listed (p : String) (payload : SignedPayload) (phase : Reading) : Prop :=
  payload.id = p → ∃ site, lists site = true ∧ phase.read = some (site, payload)

theorem Listed.unconfirmed {phase : Reading} (listed : Listed p payload phase)
    (unconfirmed : payload.status ≠ .confirmed) (same : payload.id = p) :
    phase.unconfirmed ∧ payload.status ≠ .confirmed := by
  obtain ⟨site, lists, read⟩ := listed same
  refine ⟨⟨by rw [read]; rfl, ?_⟩, unconfirmed⟩
  cases site <;> simp_all [Reading.confirms, ConfirmedForever.lists]

/-- The steps of the batch service. -/
def rows (p : String) (maxRetries : Nat) : RowRules (reading p maxRetries) where
  Idle _ := True
  Kept id phase after := id ≠ p → after = phase
  Read := Listed p
  Holds payload phase := payload.id = p → phase.unconfirmed ∧ payload.status ≠ .confirmed
  refl _ _ := rfl
  trans kept again other := (again other).trans (kept other)
  idle _ := trivial
  keepsRead kept other read same := by
    rw [kept fun equal => other (same.trans equal.symm)]
    exact read same
  keepsHeld kept other held same := by
    rw [kept fun equal => other (same.trans equal.symm)]
    exact held same
  holds := Listed.unconfirmed
  starts {_ call} _ held := by
    cases call with
    | submitBatched payload => exact fun same => (held payload rfl same).2
    | _ => trivial
  waits := waits
  finds site query reads _ := by
    have listing : lists site = true := by rcases reads with rfl | rfl <;> rfl
    refine find_follows listing (fun _ => ⟨trivial, by rintro payloads ⟨⟩⟩) fun payloads after unique _ readHere => ?_
    refine ⟨trivial, ?_⟩
    rintro others ⟨⟩
    exact ⟨unique, fun payload member same => ⟨site, listing, readHere payload member same⟩⟩
  reads payloadId _ := by
    refine findOne_follows (fun _ => ⟨trivial, by rintro payload ⟨⟩⟩) ⟨trivial, by rintro payload ⟨⟩⟩
      fun payload named => ⟨trivial, ?_⟩
    rintro other ⟨⟩ unconfirmed same
    rw [Reading.see, if_pos (named ▸ same)]
    exact ⟨⟨rfl, by simp [Reading.confirms, unconfirmed]⟩, unconfirmed⟩
  marks payloadId message failureType attempt _ := markAsFailed_follows payloadId message failureType attempt _
  submits _ held := by
    refine follows_mono _ ?_ (submitBatched_follows fun same => (held same).1)
    rintro _ _ rfl _
    rfl

theorem cleanupExpiredPayloads_follows (phase : Reading) :
    Follows (reading p maxRetries) phase OracleService.cleanupExpiredPayloads anyEnd := by
  unfold OracleService.cleanupExpiredPayloads
  refine clock_then fun now => ?_
  rw [follows_bind]
  refine find_follows rfl (fun _ => trivial) fun payloads after _ pending readHere => ?_
  rw [afterOk_ok]
  dsimp only
  split
  next =>
    rw [follows_bind]
    refine follows_op (fun listed => ?_) fun result _ => ?_
    · obtain ⟨stored, member, same⟩ := List.mem_map.mp listed
      obtain ⟨payload, kept, rfl⟩ := List.mem_map.mp member
      have inside := (List.mem_filter.mp kept).1
      have status : payload.status = .pending := by
        simpa [PayloadQuery.selects] using pending payload inside
      have found := readHere payload inside same
      exact ⟨by rw [found]; rfl, by simp [Reading.confirms, found, status]⟩
    · cases result <;> trivial
  next => trivial

end Programs

/-! ## The process -/

abbrev process (config : OracleConfig) : Service oracle := oracleProcess config fun _ => true

theorem process_conforms (p : String) (config : OracleConfig) :
    Conforms (reading p config.submitter.maxRetries) (process config) where
  body call startable := by
    have ends : ∀ {α : Type} {program : OracleM α} {phase : Reading} (value : α → OracleValue)
        {post : Reading → Except Exception α → Prop},
        Follows (reading p config.submitter.maxRetries) phase program post →
        Keeps (reading p config.submitter.maxRetries) phase (do
          let result ← program
          pure (value result)) := by
      intro α program phase value post follows
      unfold Keeps
      rw [follows_bind]
      refine follows_mono _ ?_ follows
      intro after result _
      cases result <;> trivial
    cases call with
    | submitPayload payloadId => exact ends _ (submitPayload_follows _ payloadId _)
    | retrySubmission payloadId => exact ends _ (retrySubmission_follows _ payloadId _)
    | batchSubmitPayloads payloadIds => exact ends _ (batchSubmitPayloads_follows _ waits
        (fun payloadId phase (_ : True) => submitPayload_follows _ payloadId phase) payloadIds trivial)
    | batchSubmitPayloadsConcurrent payloadIds maxConcurrent =>
      exact ends _ (@submitChunks_follows _ (fun _ => True) maxConcurrent waits _ trivial (fun _ => trivial) _ payloadIds)
    | monitorTransaction payloadId txHash =>
      exact ends (fun _ => OracleValue.nothing) (monitorTransaction_follows payloadId txHash _)
    | processBatch payloadIds batchId => exact ends _ ((rows _ _).processBatch_follows _ payloadIds batchId trivial)
    | processWithRetry payloadId maxRetries =>
      exact ends _ ((rows _ _).processAttempts_follows _ payloadId _ _ _ _ trivial)
    | retryFailedPayloads payloadIds maxConcurrent =>
      exact ends _ ((rows _ _).retryFailedPayloads_follows _ payloadIds maxConcurrent trivial)
    | submitBatched payload =>
      obtain isPublic | ⟨phase, unconfirmed⟩ := startable
      · cases isPublic
      · refine ends _ (submitBatched_follows fun same => ?_)
        simp only [Reading.start, if_pos same]
        exact ⟨rfl, by simp [Reading.confirms, unconfirmed same]⟩
    | markAsFailed payloadId message failureType attempt =>
      exact ends (fun _ => OracleValue.nothing)
        (markAsFailed_follows payloadId message failureType attempt _)
    | cleanupExpiredPayloads => exact ends _ (cleanupExpiredPayloads_follows _)
  possible _ _ _ _ _ responds := respond_possible responds

/-! ## The condition and the invariant -/

variable {p : String} {config : OracleConfig}

abbrev Seen (p : String) (config : OracleConfig) :=
  View (reading p config.submitter.maxRetries) (process config)

/-- What a call knows is good enough to store over a confirmed row: it has read the
confirmation itself, or it is a monitor that was told of the success of the same
transaction. -/
def Reading.upToDate (phase : Reading) (current : SignedPayload) : Prop :=
  ∃ site row, phase.read = some (site, row) ∧
    (row.status = .confirmed ∨
      (site = .monitorTransaction ∧ phase.receiptOk = true ∧
        row.transactionHash = current.transactionHash))

/-- The condition on a run. A confirmed payload is not picked up by a retry with attempts
left, nor by what marks payloads as failed, nor by a monitor whose transaction was
reverted or could not be followed; and no call stores the payload over a confirmation it
has not seen. -/
def Careful (p : String) (config : OracleConfig) :
    AnswerCondition (reading p config.submitter.maxRetries) (process config) :=
  fun v i op result =>
    match op, result with
    | .findOne site id, .ok (some payload) => id = p → payload.status = .confirmed →
      match site with
      | .retrySubmission => config.submitter.maxRetries ≤ payload.submissionAttempts
      | .markAsFailed | .monitoringFailed => False
      | .monitorTransaction => ∀ phase, v.phases[i]? = some phase → phase.receiptOk = true
      | _ => True
    | .save payload, _ => payload.id = p → ∀ current, v.world.payloads.findOne p = some current →
      current.status = .confirmed → ∀ phase, v.phases[i]? = some phase → phase.upToDate current
    | .saveAll payloads, _ => p ∈ payloads.map (·.id) → ∀ current,
      v.world.payloads.findOne p = some current → current.status ≠ .confirmed
    | _, _ => True

/-- The payload is confirmed with a transaction. -/
def ConfirmedWith (p : String) (hash : Option String) (world : OracleWorld) : Prop :=
  ∃ current, world.payloads.findOne p = some current ∧ current.status = .confirmed ∧
    current.transactionHash = hash

/-- A call that has read a confirmation has read the one that stands, and in a place
that does not store over it. -/
def Stands (p : String) (maxRetries : Nat) (world : OracleWorld) (phase : Reading) : Prop :=
  ∀ site row, phase.read = some (site, row) → row.status = .confirmed →
    phase.overwrites maxRetries = false ∧ ConfirmedWith p row.transactionHash world

/-- Confirmations of the first world stand in the second. -/
def KeepsConfirmed (p : String) (world world' : OracleWorld) : Prop :=
  ∀ hash, ConfirmedWith p hash world → ConfirmedWith p hash world'

def ReadsStand (v : Seen p config) : Prop :=
  ∀ phase ∈ v.phases, Stands p config.submitter.maxRetries v.world phase

theorem keepsConfirmed_of_eq {world world' : OracleWorld}
    (same : world'.payloads.findOne p = world.payloads.findOne p) : KeepsConfirmed p world world' := by
  rintro hash ⟨current, found, confirmed⟩
  exact ⟨current, same ▸ found, confirmed⟩

variable {maxRetries : Nat}

theorem Stands.mono {world world' : OracleWorld} {phase : Reading} (kept : KeepsConfirmed p world world')
    (stands : Stands p maxRetries world phase) : Stands p maxRetries world' phase := by
  intro site row read confirmed
  obtain ⟨harmless, standing⟩ := stands site row read confirmed
  exact ⟨harmless, kept _ standing⟩

variable {world : OracleWorld}

/-- An answer that keeps the confirmation and whose reader has read it right. -/
theorem ReadsStand.reply {v : Seen p config} {i : Nat} {phase : Reading} {trace : List (Nat × Event oracle)}
    (holds : ReadsStand v) (kept : KeepsConfirmed p v.world world)
    (stands : Stands p config.submitter.maxRetries world phase) :
    ReadsStand (⟨world, v.phases.set i phase, trace⟩ : Seen p config) := by
  intro other member
  rcases List.mem_or_eq_of_mem_set member with old | rfl
  · exact (holds other old).mono kept
  · exact stands

theorem stands_read {phase : Reading} (current : world.payloads.findOne p = some row)
    (harmless : row.status = .confirmed →
      Reading.overwrites maxRetries { phase with read := some (site, row) } = false) :
    Stands p maxRetries world { phase with read := some (site, row) } := by
  intro site' row' read confirmed
  obtain ⟨rfl, rfl⟩ := Prod.mk.inj (Option.some.inj read)
  exact ⟨harmless confirmed, row, current, confirmed, rfl⟩

theorem stands_unread {receiptOk : Bool} : Stands p maxRetries world ⟨receiptOk, none⟩ := by
  intro site row read
  cases read

theorem stands_start {call : OracleCall}
    (started : call.isPublic = true ∨ ∃ phase, (reading p maxRetries).starts phase call) :
    Stands p maxRetries world (Reading.start p call) := by
  cases call with
  | submitBatched payload =>
    by_cases same : payload.id = p
    · intro site row read confirmed
      simp only [Reading.start, if_pos same] at read
      obtain ⟨_, rfl⟩ := Prod.mk.inj (Option.some.inj read)
      rcases started with isPublic | ⟨_, unconfirmed⟩
      · cases isPublic
      · exact absurd confirmed (unconfirmed same)
    · simp only [Reading.start, if_neg same]
      exact stands_unread
  | _ => exact stands_unread

section Steps
variable {v : Seen p config} {i : Nat} {phase : Reading} {world : OracleWorld}

theorem ReadsStand.unchanged {after : Reading} {trace : List (Nat × Event oracle)}
    (holds : ReadsStand v) (found : v.phases[i]? = some phase) (advanced : after = phase)
    (kept : KeepsConfirmed p v.world world) : ReadsStand (⟨world, v.phases.set i after, trace⟩ : Seen p config) ∧
      KeepsConfirmed p v.world world := by
  subst advanced
  exact ⟨holds.reply kept ((holds after (List.mem_of_getElem? found)).mono kept), kept⟩

theorem careful_read (found : v.phases[i]? = some phase)
    (careful : Careful p config v i (.findOne site p) (.ok (some row))) (confirmed : row.status = .confirmed) :
    Reading.overwrites config.submitter.maxRetries { phase with read := some (site, row) } =
      false := by
  have met := careful rfl confirmed
  cases site with
  | retrySubmission => simpa [Reading.overwrites] using met
  | markAsFailed => exact met.elim
  | monitoringFailed => exact met.elim
  | monitorTransaction => simpa [Reading.overwrites] using met phase found
  | _ => rfl

theorem overwrites_listed (listing : lists site = true) :
    Reading.overwrites maxRetries { phase with read := some (site, row) } = false := by
  cases site <;> first | rfl | cases listing

/-- What is stored over a confirmation that the call has seen is that confirmation. -/
theorem keepsConfirmed_save {payload current : SignedPayload} (stands : Stands p maxRetries world phase)
    (allowed : phase.mayStore maxRetries payload) (upToDate : phase.upToDate current)
    (stored : world.payloads.findOne p = some current) :
    payload.status = .confirmed ∧ payload.transactionHash = current.transactionHash := by
  obtain ⟨site, row, read, seen⟩ := upToDate
  obtain ⟨site', row', read', stores⟩ := allowed
  obtain ⟨rfl, rfl⟩ := Prod.mk.inj (Option.some.inj (read.symm.trans read'))
  rcases seen with confirmed | ⟨rfl, receiptOk, sameHash⟩
  · obtain ⟨harmless, current', stored', _, sameHash⟩ := stands site row read confirmed
    cases stored.symm.trans stored'
    have confirms : phase.confirms = true := by
      cases site <;> simp [Reading.confirms, read, confirmed]
    rw [sameHash]
    exact stores confirms harmless
  · have confirms : phase.confirms = true := by simp [Reading.confirms, read, receiptOk]
    have harmless : phase.overwrites maxRetries = false := by
      simp [Reading.overwrites, read, receiptOk]
    rw [← sameHash]
    exact stores confirms harmless

theorem careful_save {outcome : Outcome} {result : Except Exception Unit} (holds : ReadsStand v)
    (found : v.phases[i]? = some phase) (allowed : phase.allows p config.submitter.maxRetries (.save payload))
    (responds : OracleWorld.respond v.world (.save payload) outcome = some (world, result))
    (careful : Careful p config v i (.save payload) result) : KeepsConfirmed p v.world world := by
  rcases respond_save responds with rfl | ⟨rfl, _⟩
  · by_cases same : payload.id = p
    · rintro hash ⟨current, stored, confirmed, rfl⟩
      obtain ⟨status, sameHash⟩ := keepsConfirmed_save (holds phase (List.mem_of_getElem? found))
        (allowed same) (careful same current stored confirmed phase found) stored
      subst same
      exact ⟨_, findOne_write_self v.world payload, status, sameHash⟩
    · exact keepsConfirmed_of_eq (findOne_write_other same)
  · exact keepsConfirmed_of_eq rfl

theorem careful_saveAll {payloads : List SignedPayload} {outcome : Outcome} {result : Except Exception Unit}
    (responds : OracleWorld.respond v.world (.saveAll payloads) outcome = some (world, result))
    (careful : Careful p config v i (.saveAll payloads) result) : KeepsConfirmed p v.world world := by
  rcases respond_saveAll responds with rfl | rfl
  · rintro hash ⟨current, stored, confirmed, rfl⟩
    have skipped : p ∉ payloads.map (·.id) := fun listed =>
      careful listed current stored confirmed
    rcases Table.findOne_saveAll p (payloads.map fun payload =>
        { payload with updatedAt := v.world.now }) v.world.payloads with
      ⟨row, member, same, _⟩ | ⟨_, kept⟩
    · obtain ⟨payload, listed, rfl⟩ := List.mem_map.mp member
      exact absurd (List.mem_map.mpr ⟨payload, listed, same⟩) skipped
    · exact ⟨current, kept.trans stored, confirmed, rfl⟩
  · exact keepsConfirmed_of_eq rfl

end Steps

/-- One careful step keeps the confirmation, and what the calls have read of it. -/
theorem ReadsStand.moves {v v' : Seen p config} (holds : ReadsStand v)
    (moved : Moves (reading p config.submitter.maxRetries) (Careful p config) v v') :
    ReadsStand v' ∧ KeepsConfirmed p v.world v'.world := by
  cases moved with
  | calls new started =>
    refine ⟨fun phase member => ?_, keepsConfirmed_of_eq rfl⟩
    rcases List.mem_append.mp member with old | new
    · exact holds phase old
    · obtain ⟨call, listed, rfl⟩ := List.mem_map.mp new
      refine stands_start ?_
      rcases started call listed with isPublic | ⟨phase, _, starts⟩
      · exact Or.inl (Bool.and_eq_true_iff.mp isPublic).1
      · exact Or.inr ⟨phase, starts⟩
  | env mem change =>
    have kept : KeepsConfirmed p v.world (oracleEnvironment (v.world, mem) change).1 := by
      cases change <;> exact keepsConfirmed_of_eq rfl
    exact ⟨fun phase member => (holds phase member).mono kept, kept⟩
  | reply i phase op choice world result found allowed responds careful =>
    cases op with
    | findOne site id =>
      obtain ⟨rfl, reads⟩ := respond_findOne responds
      have kept : KeepsConfirmed p v.world v.world := keepsConfirmed_of_eq rfl
      match result with
      | .error failure => exact holds.unchanged found rfl kept
      | .ok none => exact holds.unchanged found rfl kept
      | .ok (some row) =>
        by_cases same : id = p
        · subst same
          have advanced : phase.after id (.findOne site id) (.ok (some row)) =
              { phase with read := some (site, row) } := if_pos rfl
          have stands : Stands id config.submitter.maxRetries v.world
              (phase.after id (.findOne site id) (.ok (some row))) := by
            rw [advanced]
            exact stands_read (reads row rfl) (careful_read found careful)
          exact ⟨holds.reply kept stands, kept⟩
        · exact holds.unchanged found (if_neg same) kept
    | find site query =>
      obtain ⟨rfl, reads⟩ := respond_find responds
      have kept : KeepsConfirmed p v.world v.world := keepsConfirmed_of_eq rfl
      match result with
      | .error failure => exact holds.unchanged found rfl kept
      | .ok payloads =>
        have stands : Stands p config.submitter.maxRetries v.world
            (phase.after p (.find site query) (.ok payloads)) := by
          simp only [Reading.after]
          split
          next row seen =>
            have named : row.id = p := by simpa using List.find?_some seen
            have current := reads payloads rfl row (List.mem_of_find?_eq_some seen)
            exact stands_read (named ▸ current) fun _ => overwrites_listed allowed
          next => exact holds phase (List.mem_of_getElem? found)
        exact ⟨holds.reply kept stands, kept⟩
    | save payload =>
      exact holds.unchanged found (by cases result <;> rfl)
        (careful_save holds found allowed responds careful)
    | saveAll payloads =>
      exact holds.unchanged found (by cases result <;> rfl) (careful_saveAll responds careful)
    | waitForTransaction hash =>
      obtain ⟨receipt, rfl⟩ := respond_waitForTransaction responds
      have kept : KeepsConfirmed p v.world (v.world.report hash receipt) :=
        keepsConfirmed_of_eq (by rw [payloads_report])
      refine ⟨holds.reply kept ?_, kept⟩
      match result with
      | .error failure => exact stands_unread
      | .ok none => exact stands_unread
      | .ok (some receipt) => exact stands_unread
    | estimateGas arguments =>
      have same := respond_estimateGas responds
      exact holds.unchanged found (by cases result <;> rfl) (keepsConfirmed_of_eq (by rw [same]))
    | submitPayload payloadId arguments gasLimit =>
      refine holds.unchanged found (by cases result <;> rfl) (keepsConfirmed_of_eq ?_)
      rcases respond_submitPayload responds with ⟨hash, _, rfl⟩ | ⟨rfl, _⟩ <;> rfl
    | sleep ms =>
      have same := respond_sleep responds
      exact holds.unchanged found (by cases result <;> rfl) (keepsConfirmed_of_eq (by rw [same]))

theorem readsStand_initial (world : OracleWorld) (mem : OracleMemory) :
    ReadsStand (view (reading p config.submitter.maxRetries) (Config.initial (process config) world mem)) := by
  intro phase member
  cases member

/-- In every careful run a payload that is confirmed at some moment is confirmed at every
later one, with the same transaction. -/
theorem confirmed_is_final (p : String) (config : OracleConfig) (world : OracleWorld)
    (mem : OracleMemory) (first second : List (Label (process config)))
    (middle after : Config (process config)) (hash : Option String)
    (careful : Admissible (OnAnswers (reading p config.submitter.maxRetries) (Careful p config))
      (first ++ second) (Config.initial (process config) world mem))
    (reached : run first (Config.initial (process config) world mem) = some middle)
    (confirmed : ConfirmedWith p hash middle.world) (ran : run second middle = some after) :
    ConfirmedWith p hash after.world := by
  obtain ⟨before, later⟩ := admissible_append reached careful
  have stand := invariant_of_moves (process_conforms p config)
    (fun v v' (holds : ReadsStand v) moved => (holds.moves moved).1) (allKeep_initial world mem)
    (readsStand_initial world mem) before reached
  have step : ∀ v v' : Seen p config, ReadsStand v ∧ ConfirmedWith p hash v.world →
      Moves _ (Careful p config) v v' → ReadsStand v' ∧ ConfirmedWith p hash v'.world := by
    rintro v v' ⟨holds, standing⟩ moved
    obtain ⟨stillHolds, kept⟩ := holds.moves moved
    exact ⟨stillHolds, kept hash standing⟩
  have kept := invariant_of_moves (process_conforms p config) step stand.2 ⟨stand.1, confirmed⟩
    later ran
  exact kept.1.2

/-- A submission and its monitor, up to the store of the confirmation. -/
def confirmingRun : List (Label (process sampleConfig)) :=
  [.call (.submitPayload "p"), .resume 0, .reply 0 Outcome.done, .resume 0,
    .reply 0 (Outcome.gas 21000), .reply 0 (Outcome.accepted "0x1"), .resume 0,
    .reply 0 Outcome.done, .resume 0, .resume 1, .reply 1 (Outcome.mined (some ⟨1, 7⟩)),
    .reply 1 Outcome.done, .resume 1, .reply 1 Outcome.done]

/-- A retry of the payload, up to its first store. -/
def retryingRun : List (Label (process sampleConfig)) :=
  [.call (.retrySubmission "p"), .resume 2, .reply 2 Outcome.done, .resume 2,
    .reply 2 Outcome.done]

theorem retry_reopens_confirmed :
    ∃ middle after, run confirmingRun (sampleStart (fun _ => true) samplePayload) = some middle ∧
      run retryingRun middle = some after ∧ ConfirmedWith "p" (some "0x1") middle.world ∧
      ¬ ConfirmedWith "p" (some "0x1") after.world := by
  refine ⟨_, _, rfl, rfl, ⟨_, rfl, rfl, rfl⟩, ?_⟩
  rintro ⟨current, stored, confirmed, _⟩
  cases stored
  cases confirmed

/-- A second submission of the confirmed payload, up to its answer. -/
def resubmittingRun : List (Label (process sampleConfig)) :=
  [.call (.submitPayload "p"), .resume 2, .reply 2 Outcome.done, .resume 2]

theorem resubmitting_careful :
    Admissible (OnAnswers (reading "p" 5) (Careful "p" sampleConfig))
      (confirmingRun ++ resubmittingRun) (sampleStart (fun _ => true) samplePayload) := by
  refine admissible_cons trivial rfl (admissible_cons trivial rfl (admissible_cons
    (onAnswers_reply _ _ rfl fun _ _ => trivial) rfl (admissible_cons trivial rfl (admissible_cons
    (onAnswers_reply _ _ rfl trivial) rfl (admissible_cons
    (onAnswers_reply _ _ rfl trivial) rfl (admissible_cons trivial rfl (admissible_cons
    (onAnswers_reply _ _ rfl ?submitted) rfl (admissible_cons trivial rfl
    (admissible_cons trivial rfl (admissible_cons (onAnswers_reply _ _ rfl trivial) rfl
    (admissible_cons (onAnswers_reply _ _ rfl ?monitored) rfl (admissible_cons trivial rfl
    (admissible_cons (onAnswers_reply _ _ rfl ?confirmed) rfl (admissible_cons trivial rfl
    (admissible_cons trivial rfl (admissible_cons (onAnswers_reply _ _ rfl fun _ _ => trivial) rfl
    (admissible_cons trivial rfl trivial)))))))))))))))))
  case submitted | confirmed =>
    intro _ current stored confirmed
    cases stored
    cases confirmed
  case monitored =>
    intro _ confirmed
    cases confirmed

theorem confirmed_is_final_resubmitted :
    ∃ after, run (confirmingRun ++ resubmittingRun) (sampleStart (fun _ => true) samplePayload) =
      some after ∧ ConfirmedWith "p" (some "0x1") after.world :=
  ⟨_, rfl, confirmed_is_final "p" sampleConfig (sampleWorld samplePayload) ⟨0, "", []⟩
    confirmingRun resubmittingRun _ _ (some "0x1") resubmitting_careful rfl ⟨_, rfl, rfl, rfl⟩ rfl⟩

end AlianStructure.Guarantees.ConfirmedForever
