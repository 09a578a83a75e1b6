import AlianStructure.Guarantees.PayloadStore
import AlianStructure.Source.Oracle.PayloadSigning

/-!
# The hash and the data of a submission

Source: src/blockchain/oracle/services/oracle.service.ts:42-146, submitter.service.ts:248-258 and
entities/signed-payload.entity.ts:59-66. The hash is of the object as it was given, the data of
the object as the column returns it.
-/
namespace AlianStructure.Guarantees.SubmittedHash
open Library.AsyncMethod Library.Interleaving Library.RelyGuarantee
open Library.KeyedTable Library.WiderRuntime Library.JsonText
open Source Source.Oracle PayloadStore

/-- What was created under an id has a text when stored, and a hash. -/
def IsOf (keccak256 : String → String) (world : SigningWorld) (id data payloadHash : String) :
    Prop :=
  ∃ column ∈ world.columns.rows, column.id = id ∧ column.payload.stored.stringify = data ∧
    keccak256 column.payload.json.stringify = payloadHash

/-- Rows and submissions are of what was created. -/
structure OfCreated (keccak256 : String → String) (state : SigningWorld × OracleMemory) : Prop where
  rows : ∀ row ∈ state.1.oracle.payloads.rows,
    IsOf keccak256 state.1 row.id row.payload row.payloadHash
  sent : ∀ call ∈ state.1.sent, IsOf keccak256 state.1 call.1 call.2.data call.2.payloadHash

def Created (state later : SigningWorld × OracleMemory) : Prop :=
  state.1.columns.rows <+: later.1.columns.rows

theorem IsOf.later {keccak256 : String → String} {state later : SigningWorld × OracleMemory}
    {id data payloadHash : String} (created : Created state later)
    (isOf : IsOf keccak256 state.1 id data payloadHash) : IsOf keccak256 later.1 id data payloadHash := by
  obtain ⟨column, member, same⟩ := isOf
  exact ⟨column, created.subset member, same⟩

/-- A call of the oracle process may start to monitor a transaction. -/
def monitors : OracleCall ⊕ SigningCall → Prop
  | .inl (.monitorTransaction _ _) => True
  | _ => False

def creationRely (config : SigningConfig) : Rely (signingProcess config) where
  holds := OfCreated config.keccak256
  moves := Created
  allowed _ _ := True
  starts := monitors
  refl _ := List.prefix_rfl
  trans := List.IsPrefix.trans
  environment _ change kept _ := by
    cases change with
    | tick ms => exact ⟨⟨kept.rows, kept.sent⟩, List.prefix_rfl⟩
    | random suffix => exact ⟨⟨kept.rows, kept.sent⟩, List.prefix_rfl⟩

section Methods
variable {config : SigningConfig} {α : Type} {state : SigningWorld × OracleMemory}

abbrev Tends (config : SigningConfig) (state : SigningWorld × OracleMemory)
    (program : SigningM α) (post : SigningWorld × OracleMemory → α → Prop) : Prop :=
  Gives (creationRely config) state program post

/-- What an operation writes or sends is of what was created. -/
def Fits (keccak256 : String → String) (world : SigningWorld) : OracleOp → Prop
  | .submitPayload payloadId arguments _ =>
    IsOf keccak256 world payloadId arguments.data arguments.payloadHash
  | op => ∀ payload ∈ written op, IsOf keccak256 world payload.id payload.payload payload.payloadHash

/-- An operation of the oracle services that writes and sends only what was created. -/
theorem respond_kept {world after : SigningWorld} {mem : OracleMemory} {op : OracleOp}
    {outcome : SigningOutcome} {result : Except Exception op.Reply}
    (kept : OfCreated config.keccak256 (world, mem)) (fits : Fits config.keccak256 world op)
    (responds : world.respond (.inl op) outcome = some (after, result)) :
    (creationRely config).Later (world, mem) (after, mem) ∧
      ∃ choice, world.oracle.respond op choice = some (after.oracle, result) := by
  cases outcome with
  | oracle choice =>
    obtain ⟨⟨base, answer⟩, answered, same⟩ := Option.map_eq_some_iff.mp responds
    cases same
    refine ⟨⟨⟨fun row member => ?_, fun call member => ?_⟩, List.prefix_rfl⟩, choice, answered⟩
    · rcases respond_rows answered member with old | ⟨payload, writes, rfl⟩
      · exact kept.rows row old
      · cases op with
        | submitPayload payloadId arguments gasLimit => cases writes
        | _ => exact fits payload writes
    · cases op with
      | submitPayload payloadId arguments gasLimit =>
        rcases List.mem_append.mp member with old | new
        · exact kept.sent call old
        · obtain rfl := List.mem_singleton.mp new
          exact fits
      | _ => exact kept.sent call member
  | _ => cases responds

theorem Fits.later {op : OracleOp} {later : SigningWorld × OracleMemory}
    (created : Created state later) (fits : Fits config.keccak256 state.1 op) : Fits config.keccak256 later.1 op := by
  cases op with
  | submitPayload payloadId arguments gasLimit => exact IsOf.later created fits
  | _ => exact fun payload writes => (fits payload writes).later created

theorem tends_oracle {op : OracleOp} {post : _ → op.Reply → Prop} (fits : Fits config.keccak256 state.1 op)
    (answers : ∀ later, (creationRely config).Later state later → ∀ choice world reply,
      later.1.oracle.respond op choice = some (world, .ok reply) →
      ∀ final, (creationRely config).Later later final → post final reply) :
    Tends config state (lift (Async.perform (R := oracle) op)) post := by
  refine lifted_perform fun later since outcome world result responds => ?_
  obtain ⟨moved, choice, answered⟩ := respond_kept since.1 (fits.later since.2) responds
  refine ⟨moved, fun reply isOk final more => ?_⟩
  subst isOk
  exact answers later since choice world.oracle reply answered final (moved.trans more)

theorem tends_quiet {op : OracleOp} (silent : Fits config.keccak256 state.1 op) :
    Tends config state (lift (Async.perform (R := oracle) op)) fun _ _ => True :=
  tends_oracle silent fun _ _ _ _ _ _ _ _ => trivial

theorem tends_then {β : Type} {program : OracleM β} {next : β → OracleM α} {post : _ → α → Prop}
    (first : Tends config state (lift program) fun _ _ => True)
    (rest : ∀ later value, (creationRely config).Later state later → Tends config later (lift (next value)) post) :
    Tends config state (lift (program >>= next)) post :=
  lifted_bind first fun later value since _ => rest later value since

/-- A loaded row is of what was created. -/
def Knows (config : SigningConfig) (state : SigningWorld × OracleMemory) (payload : SignedPayload) :
    Prop :=
  IsOf config.keccak256 state.1 payload.id payload.payload payload.payloadHash

theorem tends_findOne {site : Site} {id : String} : Tends config state (lift (findOne site id)) fun later found =>
      ∀ payload ∈ found, Knows config later payload := by
  refine tends_oracle (List.forall_mem_nil _)
    fun later since choice world reply answered final more payload found => ?_
  obtain ⟨_, reads⟩ := respond_findOne answered
  cases found
  have row := Table.findOne_mem (reads payload rfl)
  exact (since.1.rows payload row).later more.2

variable {payload : SignedPayload}

theorem tends_save (knows : Knows config state payload) :
    Tends config state (lift (save payload)) fun _ _ => True := by
  refine tends_quiet fun other writes => ?_
  obtain rfl := List.mem_singleton.mp writes
  exact knows

theorem tends_broadcast {gasLimit : Nat} (knows : Knows config state payload) :
    Tends config state (lift (SubmitterService.broadcast payload gasLimit)) fun _ _ => True :=
  tends_quiet knows

theorem tends_clock : Tends config state (lift clock) fun _ _ => True :=
  fun holds => ⟨⟨holds, (creationRely config).refl state⟩, fun _ _ => trivial⟩

theorem tends_outcome {program : OracleM α} (first : Tends config state (lift program) fun _ _ => True) :
    Tends config state (lift program.outcome) fun _ _ => True :=
  gives_mono (lifted_outcome first) fun _ _ _ _ => trivial

/-! ## Submission -/

theorem estimateGas_tends : Tends config state (lift (SubmitterService.estimateGas payload)) fun _ _ => True :=
  lifted_tryCatch (tends_quiet (List.forall_mem_nil _)) fun _ _ _ => lifted_pure trivial

theorem monitorTransaction_tends {payloadId txHash : String} :
    Tends config state (lift (SubmitterService.monitorTransaction payloadId txHash)) fun _ _ => True := by
  refine lifted_tryCatch (tends_then (tends_quiet (List.forall_mem_nil _)) fun _ receipt _ => ?_)
    fun _ failure _ => ?_
  · cases receipt with
    | none => exact lifted_throw
    | some receipt =>
      refine lifted_bind tends_findOne fun _ found _ knows => ?_
      cases found with
      | none => exact lifted_pure trivial
      | some payload =>
        refine tends_then tends_clock fun _ now since => ?_
        have known := (knows payload rfl).later since.2
        split
        next => exact tends_save known
        next => exact tends_save known
  · refine lifted_bind tends_findOne fun _ found _ knows => ?_
    cases found with
    | none => exact lifted_pure trivial
    | some payload => exact tends_save (knows payload rfl)

theorem onAttemptFailed_tends {attempt : Nat} {failure : Exception}
    {retry : SignedPayload → OracleM Submitted} (knows : Knows config state payload)
    (retries : ∀ later payload, Knows config later payload →
      Tends config later (lift (retry payload)) fun _ _ => True) :
    Tends config state (lift (SubmitterService.onAttemptFailed config.oracle.submitter payload
      attempt failure retry)) fun _ _ => True := by
  unfold SubmitterService.onAttemptFailed
  simp only
  split
  next => exact tends_then (tends_save knows) fun _ _ _ => lifted_throw
  next =>
    exact tends_then (tends_quiet (List.forall_mem_nil _)) fun later _ since =>
      retries later _ (knows.later since.2)

theorem submitAttempts_tends : ∀ {left attempt : Nat} {payload : SignedPayload}
    {state : SigningWorld × OracleMemory}, Knows config state payload →
      Tends config state (lift (SubmitterService.submitAttempts config.oracle.submitter left attempt
        payload)) fun _ _ => True
  | 0, _, _, _, _ => lifted_throw
  | left + 1, attempt, payload, state, knows => by
    unfold SubmitterService.submitAttempts
    have retries : ∀ later payload, Knows config later payload → Tends config later
        (lift (SubmitterService.submitAttempts config.oracle.submitter left (attempt + 1) payload))
        fun _ _ => True := fun _ _ known => submitAttempts_tends known
    refine tends_then estimateGas_tends fun second gasEstimate since => ?_
    have known := knows.later since.2
    refine tends_then (tends_outcome (tends_broadcast known)) fun third sent more => ?_
    have stillKnown := known.later more.2
    cases sent with
    | error failure => exact onAttemptFailed_tends stillKnown retries
    | ok hash =>
      refine tends_then tends_clock fun fourth now again => ?_
      have toSave := stillKnown.later again.2
      refine tends_then (tends_outcome (tends_save toSave)) fun fifth saved further => ?_
      cases saved with
      | error failure => exact onAttemptFailed_tends (toSave.later further.2) retries
      | ok _ => exact tends_then (lifted_start trivial trivial) fun _ _ _ => lifted_pure trivial

theorem submitPayload_tends {payloadId : String} :
    Tends config state (lift (SubmitterService.submitPayload config.oracle.submitter payloadId)) fun _ _ => True := by
  unfold SubmitterService.submitPayload
  split
  next => exact lifted_throw
  next =>
    refine lifted_bind tends_findOne fun _ found _ knows => ?_
    cases found with
    | none => exact lifted_throw
    | some payload =>
      simp only
      split
      next => exact lifted_pure trivial
      next => exact tends_then (lifted_start trivial trivial) fun _ _ _ => lifted_pure trivial
      next =>
        unfold SubmitterService.submitPending
        split
        next => exact lifted_throw
        next =>
          split
          next => exact lifted_throw
          next =>
            refine tends_then tends_clock fun later now since => ?_
            have known := (knows payload rfl).later since.2
            split
            next => exact tends_then (tends_save known) fun _ _ _ => lifted_throw
            next => exact submitAttempts_tends known

/-! ## Creation and signing -/

theorem tends_request {op : SigningOp} {post : _ → op.Reply → Prop}
    (answers : ∀ later, (creationRely config).Later state later → ∀ outcome world result,
      later.1.respond (.inr op) outcome = some (world, result) → world = later.1 ∧
        ∀ reply, result = .ok reply → ∀ final, (creationRely config).Later later final →
          post final reply) : Tends config state (request op) post := by
  refine gives_perform (R := signingOracle) fun later since outcome world result responds => ?_
  obtain ⟨rfl, answered⟩ := answers later since outcome world result responds
  exact ⟨⟨since.1, (creationRely config).refl _⟩, answered⟩

theorem tends_nonce {address : String} :
    Tends config state (request (.getAndIncrementNonce address)) fun _ _ => True := by
  refine tends_request fun later _ outcome world result responds => ?_
  cases outcome <;> first
    | (cases responds; exact ⟨rfl, fun _ _ _ _ => trivial⟩)
    | cases responds

theorem tends_signTypedData {privateKey : String} {value : OraclePayload} :
    Tends config state (request (.signTypedData privateKey value)) fun _ _ => True := by
  refine tends_request fun later _ outcome world result responds => ?_
  cases outcome <;> first
    | (cases responds; exact ⟨rfl, fun _ _ _ _ => trivial⟩)
    | cases responds

theorem tends_findToSign {id : String} : Tends config state (request (.findToSign id)) fun later found =>
      ∀ payload signerAddress, found = some (payload, signerAddress) → Knows config later payload := by
  refine tends_request fun later since outcome world result responds => ?_
  cases outcome with
  | found =>
    cases responds
    refine ⟨rfl, fun reply isOk final more payload signerAddress isFound => ?_⟩
    cases isOk
    obtain ⟨row, isRow, isColumns⟩ := Option.bind_eq_some_iff.mp isFound
    obtain ⟨columns, _, same⟩ := Option.bind_eq_some_iff.mp isColumns
    cases same
    exact (since.1.rows payload (Table.findOne_mem isRow)).later more.2
  | fails failure =>
    cases responds
    exact ⟨rfl, fun _ isOk => by cases isOk⟩
  | _ => cases responds

theorem tends_insertPayload {payload : NewPayload}
    (hashed : config.keccak256 payload.payload.json.stringify = payload.payloadHash) :
    Tends config state (request (.insertPayload payload)) fun _ _ => True := by
  refine gives_perform (R := signingOracle) fun later since outcome world result responds => ?_
  refine ⟨?_, fun _ _ _ _ => trivial⟩
  have here : (creationRely config).Later later later := ⟨since.1, (creationRely config).refl _⟩
  cases outcome with
  | inserted id =>
    simp only [SigningWorld.respond] at responds
    split at responds
    next new =>
      cases responds
      have kept : OfCreated config.keccak256 later := since.1
      have absent : later.1.columns.findOne id = none := by
        simp only [SigningWorld.insertable, Bool.and_eq_true, Option.isNone_iff_eq_none] at new
        exact new.1.1
      have grown : (later.1.columns.save (payload.columns id)).rows =
          later.1.columns.rows ++ [payload.columns id] := Table.save_new absent
      have created : Created later (later.1.insert payload id, later.2) := by
        unfold Created
        simp only [SigningWorld.insert, grown]
        exact List.prefix_append _ _
      refine ⟨⟨fun row member => ?_, fun call member => (kept.sent call member).later created⟩,
        created⟩
      rcases Table.mem_save.mp member with rfl | ⟨old, _⟩
      · refine ⟨payload.columns id, ?_, rfl, rfl, hashed⟩
        simp only [SigningWorld.insert, grown]
        exact List.mem_append_right _ (List.mem_singleton.mpr rfl)
      · exact (kept.rows row old).later created
    next => cases responds
  | fails failure =>
    cases responds
    exact here
  | _ => cases responds

theorem createPayload_tends {signerAddress : String} {createPayloadDto : CreatePayloadDto} :
    Tends config state (OracleService.createPayload config.keccak256 signerAddress createPayloadDto)
      fun _ _ => True := by
  refine gives_bind tends_nonce fun _ nonce _ _ => ?_
  have remembers : ∀ state, Tends config state (Async.memory : SigningM OracleMemory)
      fun _ _ => True := fun _ => gives_memory trivial
  refine gives_bind (remembers _) fun _ memory _ _ => ?_
  exact gives_bind (tends_insertPayload rfl) fun _ _ _ _ => gives_pure trivial

theorem signFound_tends {expected privateKey : String} (knows : Knows config state payload) :
    Tends config state (OracleService.signFound payload expected privateKey) fun _ _ => True := by
  unfold OracleService.signFound
  split
  next => exact gives_throw
  next =>
    have remembers : Tends config state (Async.memory : SigningM OracleMemory)
        fun _ _ => True := gives_memory trivial
    refine gives_bind remembers fun later memory since _ => ?_
    split
    next => exact gives_throw
    next =>
      have signs : Tends config later (PayloadSigningService.signPayload privateKey
          payload.payloadType payload.payloadHash payload.nonce (payload.expiresAt / 1000)
          payload.payload) fun _ _ => True :=
        gives_tryCatch tends_signTypedData fun _ _ _ => gives_throw
      refine gives_bind signs fun final signature more _ => ?_
      simp only
      split
      next => exact gives_throw
      next =>
        have known : Knows config final { payload with signature := signature.1 } :=
          knows.later (since.trans more).2
        exact gives_bind (tends_save known) fun _ _ _ _ => gives_pure trivial

theorem signPayload_tends {payloadId privateKey : String} :
    Tends config state (OracleService.signPayload payloadId privateKey) fun _ _ => True := by
  refine gives_bind tends_findToSign fun _ found _ knows => ?_
  cases found with
  | none => exact gives_throw
  | some row => exact signFound_tends (knows row.1 row.2 rfl)

/-- A call on the way of a payload, or one that monitors a transaction. -/
def Considered (call : OracleCall ⊕ SigningCall) : Prop := onTheWay call = true ∨ monitors call

theorem body_tends (call : OracleCall ⊕ SigningCall) (considered : Considered call) :
    Tends config state (signingBody config call) fun _ _ => True := by
  have returns : ∀ {β : Type} {program : OracleM β} {value : β → OracleValue},
      Tends config state (lift program) (fun _ _ => True) →
      Tends config state (lift (program >>= fun result => pure (value result)) >>= fun result =>
        pure (.inl result) : SigningM (OracleValue ⊕ SigningValue)) fun _ _ => True := by
    intro β program value tends
    have lifted : Tends config state (lift (program >>= fun result => pure (value result)))
        fun _ _ => True := tends_then tends fun _ _ _ => lifted_pure trivial
    exact gives_bind lifted fun _ _ _ _ => gives_pure trivial
  cases call with
  | inl call =>
    cases call with
    | submitPayload payloadId => exact returns submitPayload_tends
    | monitorTransaction payloadId txHash => exact returns monitorTransaction_tends
    | _ => rcases considered with impossible | impossible <;> cases impossible
  | inr call =>
    cases call with
    | createPayload signerAddress createPayloadDto =>
      exact gives_bind createPayload_tends fun _ _ _ _ => gives_pure trivial
    | signPayload payloadId privateKey =>
      exact gives_bind signPayload_tends fun _ _ _ _ => gives_pure trivial

theorem body_guards (call : OracleCall ⊕ SigningCall) (considered : Considered call)
    (holds : OfCreated config.keccak256 state) :
    Guards (creationRely config) (fun _ _ => True) state (signingBody config call) :=
  guards_mono (fun _ _ _ => trivial) (body_tends call considered holds)

end Methods

/-- The texts of a payload before and after it is stored do not have the same hash by accident. -/
def CollisionFree (keccak256 : String → String) (payload : PayloadObject) : Prop :=
  keccak256 payload.json.stringify = keccak256 payload.stored.stringify →
    payload.json.stringify = payload.stored.stringify

/-- A table without payloads, before any call of the contract. -/
def blankWorld (now : Nat) : SigningWorld := ⟨⟨now, Table.empty, []⟩, Table.empty, []⟩

/-- In every run, what is sent is a payload of the table, and the hash that is sent with it is that of the data sent
with it exactly when every object in the payload has its keys in storage order. -/
theorem submitted_hash_iff (config : SigningConfig) (now : Nat) (mem : OracleMemory)
    (labels : List (Label (signingProcess config))) (after : Config (signingProcess config))
    (ran : run labels (Config.initial (signingProcess config) (blankWorld now) mem) = some after) :
    ∀ call ∈ after.world.sent, (∃ column ∈ after.world.columns.rows, column.id = call.1) ∧
      ∀ column ∈ after.world.columns.rows, column.id = call.1 → CollisionFree config.keccak256 column.payload →
        (call.2.payloadHash = config.keccak256 call.2.data ↔ column.payload.json.Everywhere StorageOrder) := by
  have start : OfCreated config.keccak256 (blankWorld now, mem) :=
    ⟨List.forall_mem_nil _, List.forall_mem_nil _⟩
  have relied : Admissible (Relied (creationRely config) fun _ _ => True) labels
      (Config.initial (signingProcess config) (blankWorld now) mem) :=
    admissible_always (fun _ label => by cases label <;> trivial) labels _
  have guarded : Guarded (creationRely config) (fun _ _ _ => True) after :=
    guarded_run (fun call _ later isPublic _ since => body_guards call (Or.inl isPublic) since.1)
      (fun call _ starts holds => body_guards call (Or.inr starts) holds)
      (fun _ _ _ _ _ known => known) start relied ran
  have kept : OfCreated config.keccak256 (after.world, after.mem) := guarded.holds
  intro call sent
  obtain ⟨other, member, isId, isData, isHash⟩ := kept.sent call sent
  refine ⟨⟨other, member, isId⟩, fun column listed same collisionFree => ?_⟩
  obtain rfl := Table.eq_of_key_eq listed member (same.trans isId.symm)
  rw [← stringify_stored, ← isData, ← isHash]
  exact ⟨fun equal => (collisionFree equal).symm, fun equal => by rw [equal]⟩

/-- The hash that is sent is that of the data. -/
def HashesData (keccak256 : String → String) (world : SigningWorld) : Prop :=
  ∀ call ∈ world.sent, call.2.payloadHash = keccak256 call.2.data

instance {keccak256 : String → String} {world : SigningWorld} :
    Decidable (HashesData keccak256 world) := by
  unfold HashesData
  infer_instance

/-! ## Two objects with the same members -/

/-- The digests of the two texts. -/
def sampleKeccak (text : String) : String :=
  if text = "\x7b\"at\":2,\"price\":1\x7d" then
    "0x9176d3878ec00555170a03f252ec4d27527d51a88c982614743d7989f86aa989"
  else if text = "\x7b\"price\":1,\"at\":2\x7d" then
    "0x9f06dd48d8b883a75f7ed9de3f25c5d7a9f85b8173c7bf2fb237aacedc80fb8c"
  else ""

def sampleSigning : SigningConfig := ⟨sampleConfig, sampleKeccak⟩

def digit (c : Char) (isNumber : isNumberChar c = true) : Json :=
  .number ⟨[c], by simp, by simp [isNumber]⟩

def priceFirst : PayloadObject where
  members := [("price", digit '1' rfl), ("at", digit '2' rfl)]
  enumerated := ⟨⟨by decide, by decide, by decide⟩, trivial, trivial, trivial⟩

def atFirst : PayloadObject where
  members := [("at", digit '2' rfl), ("price", digit '1' rfl)]
  enumerated := ⟨⟨by decide, by decide, by decide⟩, trivial, trivial, trivial⟩

/-- A payload is created, signed and submitted. -/
def theWay (payload : PayloadObject) : List (Label (signingProcess sampleSigning)) :=
  [.call (.inr (.createPayload "0xA" ⟨.priceFeed, payload, none⟩)), .resume 0, .reply 0 (.nonce 0),
    .resume 0, .reply 0 (.inserted "p"), .resume 0,
    .call (.inr (.signPayload "p" "key")), .resume 1, .reply 1 .found, .resume 1,
    .reply 1 (.signed "0x1" "0xa"), .resume 1, .reply 1 (.oracle .done), .resume 1,
    .call (.inl (.submitPayload "p")), .resume 2, .reply 2 (.oracle .done), .resume 2,
    .reply 2 (.oracle (.gas 21000)), .resume 2, .reply 2 (.oracle (.accepted "0x2")), .resume 2]

def sampleCreation : Config (signingProcess sampleSigning) :=
  Config.initial _ (blankWorld 0) ⟨0, "", []⟩

/-- The key that was given first is longer, so the data has the keys the other way round. -/
theorem hash_of_other_data : ∃ after, run (theWay priceFirst) sampleCreation = some after ∧
    ¬ HashesData sampleKeccak after.world := by
  decide +kernel

theorem submitted_hash_iff_at_first : ∃ after, run (theWay atFirst) sampleCreation = some after ∧
    after.world.sent ≠ [] ∧ HashesData sampleKeccak after.world := by
  obtain ⟨after, ran, isSent, listed, texts⟩ : ∃ after,
      run (theWay atFirst) sampleCreation = some after ∧ after.world.sent ≠ [] ∧
        (∀ call ∈ after.world.sent, ∃ column ∈ after.world.columns.rows, column.id = call.1) ∧
        ∀ column ∈ after.world.columns.rows,
          column.payload.stored.stringify = column.payload.json.stringify := by
    decide +kernel
  refine ⟨after, ran, isSent, fun call sent => ?_⟩
  obtain ⟨column, member, same⟩ := listed call sent
  have inOrder := (stringify_stored column.payload).mp (texts column member)
  have collisionFree : CollisionFree sampleKeccak column.payload :=
    fun _ => (texts column member).symm
  exact ((submitted_hash_iff sampleSigning 0 ⟨0, "", []⟩ (theWay atFirst) after ran call sent).2 column
    member same collisionFree).mpr inOrder

end AlianStructure.Guarantees.SubmittedHash
