import AlianStructure.Library.CallsAlone
import AlianStructure.Library.CallJournal
import AlianStructure.Guarantees.PayloadStore

/-!
# From the selection of payloads to their batch

Source: src/blockchain/oracle/services/submission-batch.service.ts:109-204,455-512. The selection
takes payloads without a signature; the batch drops these without an entry in its result.
-/
namespace AlianStructure.Guarantees.BatchPipeline
open Library.AsyncMethod Library.Interleaving Library.RelyGuarantee
open Library.KeyedTable Library.WiderRuntime Library.AtOnce Library.CallJournal
open Source Source.Oracle SubmissionBatchService PayloadStore

section Selection
variable (config : OracleConfig) (limit : Option Nat)

/-- The payloads that a selection returns, by what it finds. -/
def selection (now : Nat) (memory : OracleMemory) (found : List SignedPayload) :
    List SignedPayload :=
  (validForBatching now memory found).take (batchSizeOr config.batch limit)

/-- What remains of a selection when the query is answered. -/
def afterQuery (started : OracleMemory) (found : Except Exception (List SignedPayload)) :
    BatchingM (OracleValue ⊕ BatchingValue) :=
  (Async.onOk (fun payloads => do
    let memory ← Async.memory
    failExpired started.now payloads
    let result := (validForBatching started.now memory payloads).take
      (batchSizeOr config.batch limit)
    if config.batch.preserveOrder then
      markAllInFlight result
      pure result
    else pure result) found).andThen
  (Async.onOk fun payloads => pure (.inr (.payloads payloads)))

variable {config limit}

theorem failExpired_atOnce {now : Nat} {post : OracleMemory → Except Exception Unit → Prop} :
    ∀ (payloads : List SignedPayload) (mem : OracleMemory), post mem (.ok ()) →
      EndsAtOnce mem (failExpired now payloads) post
  | [], _, here => here
  | payload :: rest, mem, here => by
    unfold failExpired
    dsimp only
    split
    next => exact endsAtOnce_bind ⟨(), rfl, failExpired_atOnce rest mem here⟩
    next => exact failExpired_atOnce rest mem here

theorem markAllInFlight_atOnce {post : OracleMemory → Except Exception Unit → Prop}
    (accepts : ∀ mem, post mem (.ok ())) :
    ∀ (payloads : List SignedPayload) (mem : OracleMemory),
      EndsAtOnce mem (markAllInFlight payloads) post
  | [], mem => accepts mem
  | payload :: rest, mem => by
    unfold markAllInFlight
    exact endsAtOnce_bind ⟨(), rfl, markAllInFlight_atOnce accepts rest _⟩

/-- The answer of the query decides what is selected, with the memory at that moment. -/
theorem afterQuery_atOnce (started mem : OracleMemory) (found : List SignedPayload) :
    EndsAtOnce mem (afterQuery config limit started (.ok found)) fun _ result =>
      result = .ok (.inr (.payloads (selection config limit started.now mem found))) := by
  refine (endsAtOnce_andThen _ _ _ _).mpr ?_
  refine endsAtOnce_bind ⟨mem, rfl, endsAtOnce_bind ?_⟩
  refine failExpired_atOnce found mem ⟨(), rfl, ?_⟩
  dsimp only
  split
  next =>
    refine endsAtOnce_bind (markAllInFlight_atOnce (fun after => ⟨(), rfl, ?_⟩) _ _)
    exact rfl
  next => exact rfl

theorem selection_congr {now : Nat} {mem other : OracleMemory} {found : List SignedPayload}
    (same : other.inFlightSubmissions = mem.inFlightSubmissions) :
    selection config limit now other found = selection config limit now mem found := by
  simp only [selection, validForBatching, isInFlight, same]

/-- A call begins. -/
def begins {config : OracleConfig} : Label (batchingProcess config) → Bool
  | .call _ => true
  | _ => false

/-- The first call of a run selects payloads: it waits for its query, has its answer, or has
ended. Until it ends, the payloads and the ids in flight are those from the beginning. -/
inductive Selecting (config : OracleConfig) (limit : Option Nat) (world : OracleWorld)
    (mem : OracleMemory) : Config (batchingProcess config) → Prop where
  | asking {c : Config (batchingProcess config)} {task : Task batchingOracle}
      (rows : c.world.payloads = world.payloads)
      (flights : c.mem.inFlightSubmissions = mem.inFlightSubmissions) (pool : c.pool = [task])
      (waits : task.rest = .await (.inr (.findForBatching (batchSizeOr config.batch limit * 2)))
        (afterQuery config limit mem)) : Selecting config limit world mem c
  | answered {c : Config (batchingProcess config)} {task : Task batchingOracle}
      (flights : c.mem.inFlightSubmissions = mem.inFlightSubmissions) (pool : c.pool = [task])
      (goesOn : task.rest = afterQuery config limit mem
        (.ok (forBatching (batchSizeOr config.batch limit * 2) world.payloads.rows))) :
      Selecting config limit world mem c
  | ended {c : Config (batchingProcess config)} {task : Task batchingOracle}
      {result : Except Exception (OracleValue ⊕ BatchingValue)} (first : c.pool[0]? = some task)
      (done : task.rest = .done result)
      (selected : ∀ payloads, result = .ok (.inr (.payloads payloads)) →
        payloads = selection config limit mem.now mem
          (forBatching (batchSizeOr config.batch limit * 2) world.payloads.rows)) :
      Selecting config limit world mem c

theorem only_task {pool : List (Task batchingOracle)} {task other : Task batchingOracle} {i : Nat}
    (pool_ : pool = [task]) (found : pool[i]? = some other) : i = 0 ∧ other = task := by
  subst pool_
  cases i with
  | zero => exact ⟨rfl, (Option.some.inj found).symm⟩
  | succ i => cases found

theorem pool_first {pool : List (Task batchingOracle)} {task : Task batchingOracle}
    (pool_ : pool = [task]) (moved : Task batchingOracle) (new : List (Task batchingOracle)) :
    (pool.set 0 moved ++ new)[0]? = some moved := by
  subst pool_
  rfl

variable {world : OracleWorld} {mem : OracleMemory}

theorem Selecting.step {c after : Config (batchingProcess config)}
    {label : Label (batchingProcess config)} (selecting : Selecting config limit world mem c)
    (quiet : begins label = false) (stepped : next c label = some after) :
    Selecting config limit world mem after := by
  cases selecting with
  | asking rows flights pool waits =>
    cases label with
    | call call => cases quiet
    | resume i =>
      obtain ⟨task, found, rfl⟩ := next_resume stepped
      obtain ⟨rfl, rfl⟩ := only_task pool found
      simp only [waits, Async.settle, List.map_nil, List.append_nil, pool]
      exact .asking rows flights rfl rfl
    | reply i choice =>
      obtain ⟨task, op, rest, changed, result, found, waits', responds, rfl⟩ := next_reply stepped
      obtain ⟨rfl, rfl⟩ := only_task pool found
      rw [waits] at waits'
      cases waits'
      cases choice with
      | done =>
        cases responds
        simp only [rows, pool]
        exact .answered flights rfl rfl
      | fails failure =>
        cases responds
        simp only [pool]
        exact .ended rfl rfl fun payloads isOk => by cases isOk
      | _ => cases responds
    | fork i =>
      obtain ⟨task, calls, rest, children, found, waits', rfl⟩ := next_fork stepped
      obtain ⟨rfl, rfl⟩ := only_task pool found
      rw [waits] at waits'
      cases waits'
    | join i =>
      obtain ⟨task, calls, rest, results, found, waits', rfl⟩ := next_join stepped
      obtain ⟨rfl, rfl⟩ := only_task pool found
      rw [waits] at waits'
      cases waits'
    | env change =>
      cases stepped
      cases change with
      | tick ms => exact .asking rows flights pool waits
      | random suffix => exact .asking rows flights pool waits
  | answered flights pool goesOn =>
    cases label with
    | call call => cases quiet
    | resume i =>
      obtain ⟨task, found, rfl⟩ := next_resume stepped
      obtain ⟨rfl, rfl⟩ := only_task pool found
      obtain ⟨result, done, isResult⟩ := endsAtOnce_settle (afterQuery_atOnce mem c.mem
        (forBatching (batchSizeOr config.batch limit * 2) world.payloads.rows))
      rw [← goesOn] at done
      refine .ended (pool_first pool _ _) done fun payloads isOk => ?_
      rw [isResult] at isOk
      cases isOk
      exact selection_congr flights
    | reply i choice =>
      obtain ⟨task, op, rest, changed, result, found, waits, responds, rfl⟩ := next_reply stepped
      obtain ⟨rfl, rfl⟩ := only_task pool found
      rw [goesOn] at waits
      cases waits
    | fork i =>
      obtain ⟨task, calls, rest, children, found, waits, rfl⟩ := next_fork stepped
      obtain ⟨rfl, rfl⟩ := only_task pool found
      rw [goesOn] at waits
      cases waits
    | join i =>
      obtain ⟨task, calls, rest, results, found, waits, rfl⟩ := next_join stepped
      obtain ⟨rfl, rfl⟩ := only_task pool found
      rw [goesOn] at waits
      cases waits
    | env change =>
      cases stepped
      cases change with
      | tick ms => exact .answered flights pool goesOn
      | random suffix => exact .answered flights pool goesOn
  | ended first done selected => exact .ended (next_ended stepped first done) done selected

/-- A run that begins with a selection, which runs up to its query when it is called. -/
def selectingRun (config : OracleConfig) (limit : Option Nat)
    (labels : List (Label (batchingProcess config))) : List (Label (batchingProcess config)) :=
  .call (.inr (.getPayloadsForBatching limit)) :: .resume 0 :: labels

theorem selecting_run {labels : List (Label (batchingProcess config))} {c : Config (batchingProcess config)}
    (ran : run (selectingRun config limit labels) (Config.initial (batchingProcess config) world mem) = some c)
    (quiet : ∀ label ∈ labels, begins label = false) : Selecting config limit world mem c := by
  let task : Task batchingOracle := ⟨.inr (.getPayloadsForBatching limit), [],
    .await (.inr (.findForBatching (batchSizeOr config.batch limit * 2)))
      (afterQuery config limit mem), none⟩
  have started : Selecting config limit world mem ⟨world, mem, [task], []⟩ :=
    .asking rfl rfl rfl rfl
  exact run_preserves (Selecting config limit world mem)
    (fun _ _ _ selecting quiet stepped => selecting.step quiet stepped) labels _ c started
    (admissible_of_labels _ quiet) ran

end Selection

/-- A payload that had no signature in the beginning. -/
def Unsigned (world : OracleWorld) (id : String) : Prop :=
  ∃ row ∈ world.payloads.rows, row.id = id ∧ row.signature = ""

/-- A payload has the signature that it had in the beginning. -/
def SignedAs (world : OracleWorld) (payload : SignedPayload) : Prop :=
  ∃ row ∈ world.payloads.rows, row.id = payload.id ∧ row.signature = payload.signature

def onlyMarks : OracleCall ⊕ BatchingCall → Prop
  | .inl (.markAsFailed _ _ _ _) => True
  | _ => False

/-- No call signs a payload. -/
def signatureRely (config : OracleConfig) (world : OracleWorld) :
    Rely (batchingProcess config) where
  holds state := ∀ row ∈ state.1.payloads.rows, SignedAs world row
  moves _ _ := True
  allowed _ _ := True
  starts := onlyMarks
  refl _ := trivial
  trans _ _ := trivial
  environment state change kept _ := by
    cases change <;> exact ⟨kept, trivial⟩

section Batch
variable {config : OracleConfig} {world : OracleWorld} {α : Type}
  {state : OracleWorld × OracleMemory}

abbrev Tends (config : OracleConfig) (world : OracleWorld) (state : OracleWorld × OracleMemory)
    (program : BatchingM α) (post : OracleWorld × OracleMemory → α → Prop) : Prop :=
  Gives (signatureRely config world) state program post

theorem tends_oracle {op : OracleOp} {post : _ → op.Reply → Prop}
    (fits : ∀ payload ∈ written op, SignedAs world payload)
    (answers : ∀ before, (∀ row ∈ before.payloads.rows, SignedAs world row) →
      ∀ choice after reply, OracleWorld.respond before op choice = some (after, .ok reply) →
        ∀ final, post final reply) : Tends config world state (lift (Async.perform (R := oracle) op)) post := by
  refine lifted_perform fun later since choice after result responds => ?_
  refine ⟨⟨fun row member => ?_, trivial⟩, fun reply isOk final _ => ?_⟩
  · rcases respond_rows responds member with old | ⟨payload, writes, rfl⟩
    · exact since.1 row old
    · exact fits payload writes
  · subst isOk
    exact answers later.1 since.1 choice after reply responds final

theorem tends_findOne {site : Site} {id : String} : Tends config world state (lift (findOne site id)) fun _ found =>
      ∀ payload ∈ found, SignedAs world payload := by
  refine tends_oracle (List.forall_mem_nil _) fun before kept choice after found responds _ => ?_
  intro payload isFound
  cases isFound
  exact kept payload (Table.findOne_mem ((respond_findOne responds).2 payload rfl))

theorem tends_find {site : Site} {query : PayloadQuery} :
    Tends config world state (lift (find site query)) fun _ found =>
      ∀ payload ∈ found, SignedAs world payload ∧ query.selects payload = true := by
  refine tends_oracle (List.forall_mem_nil _) fun before kept choice after found responds _ => ?_
  intro payload member
  have row := (respond_find responds).2 found rfl payload member
  exact ⟨kept payload (Table.findOne_mem row), (respond_possible responds).2 payload member⟩

variable {payload : SignedPayload}

theorem tends_save (signed : SignedAs world payload) :
    Tends config world state (lift (save payload)) fun _ _ => True :=
  tends_oracle (by simpa [written] using signed) fun _ _ _ _ _ _ _ => trivial

theorem tends_clock : Tends config world state (lift clock) fun _ _ => True :=
  fun holds => ⟨⟨holds, trivial⟩, fun _ _ => trivial⟩

theorem markAsFailed_tends {payloadId message : String} {failureType : FailureType}
    {attempt : Nat} : Tends config world state
      (lift (markAsFailed payloadId message failureType attempt)) fun _ _ => True := by
  refine lifted_tryCatch (lifted_bind tends_findOne fun _ found _ signed => ?_)
    fun _ _ _ => lifted_pure trivial
  cases found with
  | none => exact lifted_pure trivial
  | some payload => exact tends_save (signed payload rfl)

theorem validateEach_tends (now : Nat) : ∀ (payloads : List SignedPayload)
    {state : OracleWorld × OracleMemory}, (∀ payload ∈ payloads, payload.signature = "") →
      Tends config world state (lift (validateEach now payloads)) fun _ valid => valid = []
  | [], _, _ => lifted_pure rfl
  | payload :: rest, state, unsigned => by
    have others : ∀ later, Tends config world later (lift (validateEach now rest))
        fun _ valid => valid = [] := fun later =>
      validateEach_tends now rest fun other member => unsigned other (List.mem_cons_of_mem _ member)
    unfold validateEach
    split
    next => exact lifted_bind markAsFailed_tends fun later _ _ _ => others later
    next =>
      split
      next => exact others state
      next =>
        split
        next => exact lifted_bind markAsFailed_tends fun later _ _ _ => others later
        next signed => exact absurd (unsigned payload List.mem_cons_self) signed

theorem unsigned_row (signed : SignedAs world payload) (unsigned : Unsigned world payload.id) :
    payload.signature = "" := by
  obtain ⟨row, member, same, signature⟩ := signed
  obtain ⟨other, inside, equal, empty⟩ := unsigned
  have one := Table.eq_of_key_eq member inside (same.trans equal.symm)
  rw [← signature, one, empty]

theorem validatePayloadsForBatch_tends {payloadIds : List String} (unsigned : ∀ id ∈ payloadIds, Unsigned world id) :
    Tends config world state (lift (validatePayloadsForBatch payloadIds)) fun _ valid => valid = [] := by
  unfold validatePayloadsForBatch
  split
  next => exact lifted_pure rfl
  next =>
    refine lifted_bind tends_find fun _ payloads _ found => ?_
    refine lifted_bind tends_clock fun _ now _ _ => validateEach_tends now payloads ?_
    intro payload member
    obtain ⟨signed, selected⟩ := found payload member
    exact unsigned_row signed (unsigned _ (by simpa [PayloadQuery.selects] using selected))

theorem processBatch_tends {payloadIds : List String} {batchId : Option String}
    (unsigned : ∀ id ∈ payloadIds, Unsigned world id) :
    Tends config world state (lift (processBatch config.batch payloadIds batchId))
      fun _ result => result.results = [] := by
  unfold processBatch
  have remembers : Tends config world state (lift (Async.memory : OracleM OracleMemory))
      fun _ _ => True := lifted_memory trivial
  refine lifted_bind remembers fun _ started _ _ => ?_
  refine lifted_bind (validatePayloadsForBatch_tends unsigned) fun _ valid _ none => ?_
  subst none
  rw [if_pos rfl]
  exact lifted_bind tends_clock fun _ _ _ _ => lifted_pure rfl

theorem failExpired_tends (now : Nat) : ∀ (payloads : List SignedPayload)
    {state : OracleWorld × OracleMemory},
      Tends config world state (failExpired now payloads) fun _ _ => True
  | [], _ => gives_pure trivial
  | payload :: rest, state => by
    unfold failExpired
    dsimp only
    split
    next =>
      have starts : Tends config world state (Async.start (R := batchingOracle)
          (.inl (.markAsFailed payload.id "Payload expired before batch submission" .permanent 1)))
          fun _ _ => True := gives_start trivial trivial
      exact gives_bind starts fun _ _ _ _ => failExpired_tends now rest
    next => exact failExpired_tends now rest

theorem markAllInFlight_tends : ∀ (payloads : List SignedPayload)
    {state : OracleWorld × OracleMemory},
      Tends config world state (markAllInFlight payloads) fun _ _ => True
  | [], _ => gives_pure trivial
  | payload :: rest, state => by
    have marks : Tends config world state (lift (markInFlight payload.id)) fun _ _ => True :=
      fun holds => ⟨⟨holds, trivial⟩, ⟨holds, trivial⟩, fun _ _ => trivial⟩
    exact gives_bind marks fun _ _ _ _ => markAllInFlight_tends rest

theorem getPayloadsForBatching_tends {limit : Option Nat} :
    Tends config world state (getPayloadsForBatching config.batch limit) fun _ _ => True := by
  have remembers : ∀ state, Tends config world state (Async.memory : BatchingM OracleMemory)
      fun _ _ => True := fun _ => gives_memory trivial
  have finds : ∀ state take, Tends config world state (findForBatching take) fun _ _ => True := by
    intro state take
    refine gives_perform (R := batchingOracle) fun later since choice after result responds => ?_
    refine ⟨⟨?_, trivial⟩, fun _ _ _ _ => trivial⟩
    cases choice with
    | done =>
      cases responds
      exact since.1
    | fails failure =>
      cases responds
      exact since.1
    | _ => cases responds
  unfold getPayloadsForBatching
  refine gives_bind (remembers state) fun _ started _ _ => ?_
  refine gives_bind (finds _ _) fun _ payloads _ _ => ?_
  refine gives_bind (remembers _) fun _ memory _ _ => ?_
  refine gives_bind (failExpired_tends _ _) fun _ _ _ _ => ?_
  dsimp only
  split
  next => exact gives_bind (markAllInFlight_tends _) fun _ _ _ _ => gives_pure trivial
  next => exact gives_pure trivial

/-- What is asked of the batches that are called: their payloads had no signature. -/
def UnsignedOnly (world : OracleWorld) : OracleCall ⊕ BatchingCall → Prop
  | .inl (.processBatch payloadIds _) => ∀ id ∈ payloadIds, Unsigned world id
  | _ => True

/-- A batch that ends has no results. -/
def Empty (call : OracleCall ⊕ BatchingCall)
    (result : Except Exception (OracleValue ⊕ BatchingValue)) : Prop :=
  ∀ payloadIds batchId batch, call = .inl (.processBatch payloadIds batchId) →
    result = .ok (.inl (.batch batch)) → batch.results = []

theorem body_guards (call : OracleCall ⊕ BatchingCall)
    (considered : ofPipeline call = true ∧ UnsignedOnly world call ∨ onlyMarks call)
    (holds : (signatureRely config world).holds state) :
    Guards (signatureRely config world) (fun _ result => Empty call result) state (batchingBody config call) := by
  have quiet : ∀ {program : BatchingM (OracleValue ⊕ BatchingValue)},
      (∀ payloadIds batchId, call ≠ .inl (.processBatch payloadIds batchId)) →
      Tends config world state program (fun _ _ => True) →
      Guards (signatureRely config world) (fun _ result => Empty call result) state program :=
    fun other tends => guards_mono
      (fun _ _ _ payloadIds batchId _ same => absurd same (other payloadIds batchId)) (tends holds)
  cases call with
  | inl call =>
    cases call with
    | processBatch payloadIds batchId =>
      rcases considered with ⟨_, unsigned⟩ | impossible
      · have tends : Tends config world state
            (batchingBody config (.inl (.processBatch payloadIds batchId)))
            fun _ value => ∀ batch, value = .inl (.batch batch) → batch.results = [] := by
          have runs : Tends config world state (lift (oracleBody config
              (.processBatch payloadIds batchId))) fun _ value => ∀ batch,
                value = .batch batch → batch.results = [] := by
            refine lifted_bind (processBatch_tends unsigned) fun _ result _ none => ?_
            refine lifted_pure fun batch same => ?_
            cases same
            exact none
          refine gives_bind runs fun _ value _ none => gives_pure fun batch same => ?_
          cases same
          exact none batch rfl
        refine guards_mono (fun _ result ended => ?_) (tends holds)
        rintro _ _ batch _ rfl
        exact ended.2 _ rfl batch rfl
      · cases impossible
    | markAsFailed payloadId message failureType attempt =>
      refine quiet (by rintro _ _ ⟨⟩) ?_
      have runs : Tends config world state (lift (oracleBody config
          (.markAsFailed payloadId message failureType attempt))) fun _ _ => True :=
        lifted_bind markAsFailed_tends fun _ _ _ _ => lifted_pure trivial
      exact gives_bind runs fun _ _ _ _ => gives_pure trivial
    | _ => rcases considered with ⟨impossible, _⟩ | impossible <;> cases impossible
  | inr call =>
    cases call with
    | getPayloadsForBatching limit =>
      exact quiet (by rintro _ _ ⟨⟩)
        (gives_bind getPayloadsForBatching_tends fun _ _ _ _ => gives_pure trivial)

end Batch

/-- The result of the i-th call, when it has one. -/
def endOf {config : OracleConfig} (c : Config (batchingProcess config)) (i : Nat) :
    Option (Except Exception (OracleValue ⊕ BatchingValue)) :=
  (c.pool[i]?).bind Task.result

/-- A run that goes on with a batch of these payloads. -/
def batchingRun (config : OracleConfig) (payloads : List SignedPayload) (batchId : Option String)
    (labels : List (Label (batchingProcess config))) : List (Label (batchingProcess config)) :=
  .call (.inl (.processBatch (payloads.map (·.id)) batchId)) :: labels

/-- No selected payload is neither expired nor in flight. -/
def NothingToBatch (config : OracleConfig) (limit : Option Nat) (world : OracleWorld)
    (mem : OracleMemory) : Prop :=
  batchSizeOr config.batch limit = 0 ∨
    ∀ payload ∈ forBatching (batchSizeOr config.batch limit * 2) world.payloads.rows,
      payload.expiresAt < mem.now ∨ payload.id ∈ mem.inFlightSubmissions

/-- Every payload has an entry in the result of the batch, and none is in flight. -/
def LosesNothing (payloadIds : List String)
    (ended : Except Exception (OracleValue ⊕ BatchingValue)) (mem : OracleMemory) : Prop :=
  ∀ id ∈ payloadIds, (∃ batch, ended = .ok (.inl (.batch batch)) ∧
    ∃ entry ∈ batch.results, entry.payloadId = id) ∧ id ∉ mem.inFlightSubmissions

variable {config : OracleConfig}

theorem selection_eq_nil {limit : Option Nat} : selection config limit mem.now mem
      (forBatching (batchSizeOr config.batch limit * 2) world.payloads.rows) = [] ↔
        NothingToBatch config limit world mem := by
  simp only [selection, List.take_eq_nil_iff, validForBatching, List.filter_eq_nil_iff, isInFlight,
    NothingToBatch]
  refine or_congr Iff.rfl (forall₂_congr fun payload _ => ?_)
  simp [imp_iff_not_or]

theorem selection_unsigned {limit : Option Nat} {now : Nat} (member : payload ∈ selection config limit now mem
      (forBatching (batchSizeOr config.batch limit * 2) world.payloads.rows)) : Unsigned world payload.id := by
  have valid := List.mem_of_mem_take member
  have found := (List.mem_filter.mp valid).1
  have sorted := List.mem_of_mem_take found
  have row := List.mem_filter.mp ((List.perm_insertionSort _ _).subset sorted)
  have unsigned : payload.signature = "" := (of_decide_eq_true row.2).2
  exact ⟨payload, row.1, rfl, unsigned⟩

/-- The calls of a run ask only for payloads that had no signature. -/
def Asks {config : OracleConfig} (world : OracleWorld) : Label (batchingProcess config) → Prop
  | .call call => UnsignedOnly world call
  | _ => True

theorem asks_of_quiet {label : Label (batchingProcess config)} (quiet : begins label = false) : Asks world label := by
  cases label with
  | call call => cases quiet
  | _ => trivial

theorem batch_empty {labels : List (Label (batchingProcess config))}
    {after : Config (batchingProcess config)} (asks : ∀ label ∈ labels, Asks world label)
    (ran : run labels (Config.initial (batchingProcess config) world mem) = some after)
    {task : Task batchingOracle} (member : task ∈ after.pool)
    {ended : Except Exception (OracleValue ⊕ BatchingValue)} (isEnd : task.result = some ended) :
    Empty task.call ended := by
  have start : (signatureRely config world).holds (world, mem) :=
    fun row listed => ⟨row, listed, rfl, rfl⟩
  have relied : Admissible (Relied (signatureRely config world) fun _ => UnsignedOnly world) labels
      (Config.initial (batchingProcess config) world mem) := by
    refine admissible_mono (fun c label asks => ?_) (admissible_of_labels _ asks)
    cases label with
    | call call => exact asks
    | _ => trivial
  have guarded : Guarded (signatureRely config world) (fun call _ result => Empty call result)
      after :=
    guarded_run (fun call _ _ isPublic meets since => body_guards call (Or.inl ⟨isPublic, meets⟩)
        since.1)
      (fun call _ starts holds => body_guards call (Or.inr starts) holds)
      (fun _ _ _ _ _ known => known) start relied ran
  exact guarded.ended member isEnd

/-- Payloads are selected and then processed as a batch, with nothing else called. Every one of
them comes to an end in the result of the batch and out of flight exactly when there are none. -/
theorem pipeline_loses_nothing_iff (config : OracleConfig) (limit : Option Nat)
    (batchId : Option String) (world : OracleWorld) (mem : OracleMemory)
    (first second : List (Label (batchingProcess config)))
    (before after : Config (batchingProcess config)) (payloads : List SignedPayload)
    (ended : Except Exception (OracleValue ⊕ BatchingValue)) (selects : run (selectingRun config limit first)
      (Config.initial (batchingProcess config) world mem) = some before)
    (selected : endOf before 0 = some (.ok (.inr (.payloads payloads))))
    (processes : run (batchingRun config payloads batchId second) before = some after)
    (processed : endOf after before.pool.length = some ended)
    (alone : ∀ label ∈ first ++ second, begins label = false) : LosesNothing (payloads.map (·.id)) ended after.mem ↔
      NothingToBatch config limit world mem := by
  have isSelection : payloads = selection config limit mem.now mem
      (forBatching (batchSizeOr config.batch limit * 2) world.payloads.rows) := by
    have selecting := selecting_run selects fun label member =>
      alone label (List.mem_append_left _ member)
    obtain ⟨task, found, isEnd⟩ := Option.bind_eq_some_iff.mp selected
    cases selecting with
    | asking _ _ pool waits =>
      obtain ⟨_, rfl⟩ := only_task pool found
      simp [Task.result, waits] at isEnd
    | answered _ pool goesOn =>
      obtain ⟨_, rfl⟩ := only_task pool found
      rw [Task.result, goesOn] at isEnd
      cases isEnd
    | ended first done selected =>
      cases found.symm.trans first
      rw [Task.result, done] at isEnd
      exact selected payloads (Option.some.inj isEnd)
  rw [← selection_eq_nil, ← isSelection]
  constructor
  · intro nothing
    have batchAsks : Asks world (.call (.inl (.processBatch (payloads.map (·.id)) batchId)) :
        Label (batchingProcess config)) := by
      intro id listed
      obtain ⟨payload, member, rfl⟩ := List.mem_map.mp listed
      rw [isSelection] at member
      exact selection_unsigned member
    have asks : ∀ label ∈ selectingRun config limit first ++
        batchingRun config payloads batchId second, Asks world label := by
      intro label member
      rcases List.mem_append.mp member with early | late
      · rcases List.mem_cons.mp early with rfl | early
        · trivial
        · rcases List.mem_cons.mp early with rfl | early
          · trivial
          · exact asks_of_quiet (alone label (List.mem_append_left _ early))
      · rcases List.mem_cons.mp late with rfl | late
        · exact batchAsks
        · exact asks_of_quiet (alone label (List.mem_append_right _ late))
    have ran : run (selectingRun config limit first ++ batchingRun config payloads batchId second)
        (Config.initial (batchingProcess config) world mem) = some after := by
      rw [run_append, selects]
      exact processes
    obtain ⟨task, found, isEnd⟩ := Option.bind_eq_some_iff.mp processed
    have called := called_pool processes found
    have empty := batch_empty asks ran (List.mem_of_getElem? found) isEnd
    rw [List.eq_nil_iff_forall_not_mem]
    intro payload member
    obtain ⟨⟨batch, isBatch, entry, listed, _⟩, _⟩ :=
      nothing payload.id (List.mem_map_of_mem member)
    rw [empty _ _ batch called isBatch] at listed
    cases listed
  · rintro rfl
    exact fun id member => by cases member

def unsignedPayload : SignedPayload := { samplePayload with signature := "" }

/-- The query of the selection is answered. -/
def queryAnswered : List (Label (batchingProcess sampleConfig)) :=
  [.reply 0 Outcome.done, .resume 0]

/-- The batch finds the payload, marks it as failed and ends. -/
def memberDropped : List (Label (batchingProcess sampleConfig)) :=
  [.resume 1, .reply 1 Outcome.done, .resume 1, .reply 1 Outcome.done, .reply 1 Outcome.done,
    .resume 1]

def emptyBatch : Except Exception (OracleValue ⊕ BatchingValue) :=
  .ok (.inl (.batch ⟨"batch_0_", [], 0, 0, 0, 0⟩))

/-- The batch drops the selected payload without an entry, and it stays in flight. -/
theorem pipeline_drops_unsigned :
    ∃ before, run (selectingRun sampleConfig none queryAnswered)
        (Config.initial _ (sampleWorld unsignedPayload) ⟨0, "", []⟩) = some before ∧
      endOf before 0 = some (.ok (.inr (.payloads [unsignedPayload]))) ∧
      ∃ after, run (batchingRun sampleConfig [unsignedPayload] none memberDropped) before =
          some after ∧
        endOf after 1 = some emptyBatch ∧ after.mem.inFlightSubmissions = ["p"] ∧
        ¬ LosesNothing ["p"] emptyBatch after.mem := by
  obtain ⟨before, selects, selected, after, processes, processed, inFlight⟩ :
      ∃ before, run (selectingRun sampleConfig none queryAnswered)
          (Config.initial _ (sampleWorld unsignedPayload) ⟨0, "", []⟩) = some before ∧
        endOf before 0 = some (.ok (.inr (.payloads [unsignedPayload]))) ∧
        ∃ after, run (batchingRun sampleConfig [unsignedPayload] none memberDropped) before =
            some after ∧
          endOf after 1 = some emptyBatch ∧ after.mem.inFlightSubmissions = ["p"] := by
    decide +kernel
  refine ⟨before, selects, selected, after, processes, processed, inFlight, fun nothing => ?_⟩
  have notInFlight : "p" ∉ after.mem.inFlightSubmissions := (nothing "p" List.mem_cons_self).2
  rw [inFlight] at notInFlight
  exact notInFlight List.mem_cons_self

/-- Nothing is selected of payloads that have a signature. -/
theorem pipeline_without_members :
    ∃ before, run (selectingRun sampleConfig none queryAnswered)
        (Config.initial _ (sampleWorld samplePayload) ⟨0, "", []⟩) = some before ∧
      ∃ after, run (batchingRun sampleConfig [] none [.resume 1]) before = some after ∧
        ∃ ended, endOf after 1 = some ended ∧ LosesNothing [] ended after.mem := by
  obtain ⟨before, selects, selected, one, after, processes, ends⟩ :
      ∃ before, run (selectingRun sampleConfig none queryAnswered)
        (Config.initial _ (sampleWorld samplePayload) ⟨0, "", []⟩) = some before ∧
      endOf before 0 = some (.ok (.inr (.payloads []))) ∧ before.pool.length = 1 ∧
      ∃ after, run (batchingRun sampleConfig [] none [.resume 1]) before = some after ∧
        (endOf after 1).isSome = true := by
    decide +kernel
  obtain ⟨ended, processed⟩ := Option.isSome_iff_exists.mp ends
  refine ⟨before, selects, after, processes, ended, processed, ?_⟩
  rw [← one] at processed
  exact (pipeline_loses_nothing_iff sampleConfig none none (sampleWorld samplePayload) ⟨0, "", []⟩
    queryAnswered [.resume 1] before after [] ended selects selected processes processed
    (by decide)).mpr (Or.inr (List.forall_mem_nil _))

end AlianStructure.Guarantees.BatchPipeline
