import Mathlib.Tactic.MkIffOfInductiveProp
import AlianStructure.Guarantees.NonceIssuance
import AlianStructure.Source.Oracle.PayloadCreation

/-!
# The nonces of the stored payloads

Source: oracle.service.ts:42-93, nonce-management.service.ts:73-117, payload-signing.service.ts:74-106.
A creation commits its nonce before it hashes the payload and stores it. What the nonce table sees of a run is a
run of increments; beside it the invariant follows which of the committed nonces have a row.
-/
namespace AlianStructure.Guarantees.PayloadNonces
open Library.Interleaving Library.CallProtocol Library.KeyedTable Library.WiderRuntime
open Source Source.Oracle NonceIssuance

/-! ## Phases of a call -/

/-- How far a call is with the nonce, whether its payload can be hashed, and whether an insert has succeeded. -/
structure Phase where
  stage : Stage
  hashes : Bool
  saved : Option Bool
  deriving DecidableEq

/-- Hashing the payload does not throw. -/
def hashable (libraries : CreationLibraries) (payload : PayloadObject) : Bool :=
  match PayloadCreation.hashPayload libraries payload with
  | .ok _ => true
  | .error _ => false

/-- What the nonce table sees of a call. -/
def incrementing : NonceCall ⊕ CreationCall → NonceCall
  | .inl call => call
  | .inr (.createPayload signerAddress _) => .getAndIncrementNonce signerAddress

/-- A call whose payload, if it has one, can be hashed. -/
def hashableCall (libraries : CreationLibraries) : NonceCall ⊕ CreationCall → Bool
  | .inl _ => true
  | .inr (.createPayload _ createPayloadDto) => hashable libraries createPayloadDto.payload

def Phase.start (libraries : CreationLibraries) (key : String) (call : NonceCall ⊕ CreationCall) : Phase where
  stage := Stage.start libraries.getAddress key (incrementing call)
  hashes := hashableCall libraries call
  saved := none

def Phase.allows (key : String) (phase : Phase) : NonceOp ⊕ CreationOp → Prop
  | .inl op => phase.stage.allows key op
  | .inr (.insertPayload payload) =>
    match phase.stage with
    | .other => payload.signerAddress ≠ key
    | .committed nonce =>
      payload.signerAddress = key ∧ payload.nonce = nonce ∧ phase.hashes = true ∧ phase.saved = none
    | _ => False

def succeeded {α : Type} : Except Exception α → Bool
  | .ok _ => true
  | .error _ => false

def Phase.after (phase : Phase) : (op : NonceOp ⊕ CreationOp) → Except Exception (creating.Reply op) → Phase
  | .inl op, result => { phase with stage := phase.stage.after op result }
  | .inr _, result => { phase with saved := some (succeeded result) }

/-- A creation ends well exactly when its insert has succeeded. -/
def Phase.returns (phase : Phase) (result : Except Exception (NonceValue ⊕ CreationValue)) : Prop :=
  match phase.stage with
  | .other => True
  | .committed _ =>
    (succeeded result = true ↔ phase.saved = some true) ∧
      (succeeded result = false → phase.hashes = true → phase.saved = some false)
  | _ => succeeded result = false

def possible : (op : NonceOp ⊕ CreationOp) → Except Exception (creating.Reply op) → Prop
  | .inl op, result => NonceIssuance.possible op result
  | .inr _, _ => True

abbrev storing (libraries : CreationLibraries) (key : String) : Protocol creating where
  Phase := Phase
  start := Phase.start libraries key
  starts _ _ := False
  allows := Phase.allows key
  possible := possible
  advance := Phase.after
  returns := Phase.returns

section Programs
variable {libraries : CreationLibraries} {key : String} {α : Type}

theorem lifted_follows (phase : Phase) {program : NonceM α} {post : Stage → Except Exception α → Prop}
    (follows : Follows (issuing libraries.getAddress key) phase.stage program post) :
    Follows (storing libraries key) phase (lift program) fun after result =>
      post after.stage result ∧ after.hashes = phase.hashes ∧ after.saved = phase.saved := by
  refine follows_mono _ ?_ (follows_lift (P := issuing libraries.getAddress key) (Q := storing libraries key) Phase.stage
    (fun phase => (phase.hashes, phase.saved)) (fun _ _ => id) (fun _ _ => id) (fun _ _ => id) (fun _ _ _ => rfl)
    (fun _ _ _ => rfl) follows)
  rintro after result ⟨ended, same⟩
  exact ⟨ended, congrArg Prod.fst same, congrArg Prod.snd same⟩

theorem throwing_follows {phase : Phase} {result : Except Exception α}
    {post : Phase → Except Exception α → Prop} (ends : post phase result) :
    Follows (storing libraries key) phase (PayloadCreation.throwing result) post := ends

variable {signerAddress : String}

theorem storePayload_other (createPayloadDto : CreatePayloadDto) (nonce : Nat) {phase : Phase}
    (other : phase.stage = .other) (different : toLowerCase signerAddress ≠ key) :
    Follows (storing libraries key) phase
      (PayloadCreation.storePayload libraries signerAddress createPayloadDto nonce)
      fun after _ => after.stage = .other := by
  unfold PayloadCreation.storePayload
  rw [follows_bind]
  refine throwing_follows ?_
  cases PayloadCreation.hashPayload libraries createPayloadDto.payload with
  | error failure => exact other
  | ok payloadHash =>
    rw [afterOk_ok, follows_bind, follows_memory]
    intro memory
    rw [afterOk_ok, follows_bind]
    refine throwing_follows ?_
    cases PayloadCreation.computeStructuredDataHash .. with
    | error failure => exact other
    | ok structuredDataHash =>
      rw [afterOk_ok, follows_bind]
      refine ⟨?_, fun result _ => ?_⟩
      · unfold storing Phase.allows
        dsimp only
        rw [other]
        exact different
      · cases result <;> exact other

theorem structured_ok {payload : PayloadObject} {payloadHash : String}
    (hashed : PayloadCreation.hashPayload libraries payload = .ok payloadHash) (payloadType : PayloadType)
    (nonce expiresAt : Nat) :
    PayloadCreation.computeStructuredDataHash libraries payloadType payloadHash nonce expiresAt payload =
      .ok payloadHash := by
  unfold PayloadCreation.hashPayload at hashed
  unfold PayloadCreation.computeStructuredDataHash PayloadCreation.createStructuredData
  cases text : libraries.stringify payload with
  | error failure =>
    rw [text] at hashed
    cases hashed
  | ok json => rfl

theorem storePayload_follows (createPayloadDto : CreatePayloadDto) {nonce : Nat}
    (same : toLowerCase signerAddress = key) :
    Follows (storing libraries key) ⟨.committed nonce, hashable libraries createPayloadDto.payload, none⟩
      (PayloadCreation.storePayload libraries signerAddress createPayloadDto nonce)
      fun after result => after.returns (result.map Sum.inr) := by
  unfold PayloadCreation.storePayload hashable
  rw [follows_bind]
  refine throwing_follows ?_
  cases hashed : PayloadCreation.hashPayload libraries createPayloadDto.payload with
  | error failure => exact ⟨by simp [succeeded, Except.map], fun _ impossible => by cases impossible⟩
  | ok payloadHash =>
    rw [afterOk_ok, follows_bind, follows_memory]
    intro memory
    rw [afterOk_ok, follows_bind]
    refine throwing_follows ?_
    rw [structured_ok hashed, afterOk_ok, follows_bind]
    refine ⟨⟨same, rfl, rfl, rfl⟩, fun result _ => ?_⟩
    cases result with
    | error failure => exact ⟨by simp [succeeded, Except.map, Phase.after], fun _ _ => rfl⟩
    | ok payloadId => exact ⟨by simp [succeeded, Except.map, Phase.after], fun impossible => by cases impossible⟩

theorem creation_other (createPayloadDto : CreatePayloadDto) {phase : Phase} (other : phase.stage = .other)
    (increments : Follows (issuing libraries.getAddress key) .other
      (NonceManagementService.getAndIncrementNonce libraries.getAddress signerAddress)
      fun stage result => stage = .other ∧ (succeeded result = true → toLowerCase signerAddress ≠ key)) :
    Follows (storing libraries key) phase
      (PayloadCreation.createPayload libraries signerAddress createPayloadDto) fun after _ => after.stage = .other := by
  unfold PayloadCreation.createPayload
  rw [follows_bind]
  rw [← other] at increments
  refine follows_mono _ ?_ (lifted_follows _ increments)
  rintro after result ⟨⟨stays, different⟩, _, _⟩
  cases result with
  | error failure => exact stays.trans other
  | ok nonce => exact storePayload_other createPayloadDto nonce (stays.trans other) (different rfl)

theorem creation_mine {signerAddress checksumAddress : String} (createPayloadDto : CreatePayloadDto)
    (denotes : libraries.getAddress signerAddress = .ok checksumAddress) (same : toLowerCase checksumAddress = key)
    (written : toLowerCase signerAddress = key) :
    Follows (storing libraries key) ⟨.fresh, hashable libraries createPayloadDto.payload, none⟩
      (PayloadCreation.createPayload libraries signerAddress createPayloadDto)
      fun after result => after.returns (result.map Sum.inr) := by
  unfold PayloadCreation.createPayload
  rw [follows_bind]
  have increments := follows_keeps (issuing libraries.getAddress key) (fun stage : Stage => stage ≠ .other)
    (fun _ op result busy => after_ne_other busy op result) (by decide) (increment_follows denotes same)
  refine follows_mono _ ?_ (lifted_follows _ increments)
  rintro ⟨stage, hashes, saved⟩ result ⟨⟨ended, busy⟩, rfl, rfl⟩
  cases stage with
  | other => exact absurd rfl busy
  | committed nonce =>
    cases result with
    | error failure => cases ended
    | ok taken =>
      cases ended
      exact storePayload_follows createPayloadDto written
  | _ =>
    obtain ⟨failure, failed⟩ := ended
    cases result with
    | error failure => rfl
    | ok taken => cases failed

theorem createPayload_follows (createPayloadDto : CreatePayloadDto)
    (inFull : writtenInFull libraries.getAddress signerAddress = true) :
    Follows (storing libraries key) (Phase.start libraries key (.inr (.createPayload signerAddress createPayloadDto)))
      (PayloadCreation.createPayload libraries signerAddress createPayloadDto)
      fun after result => after.returns (result.map Sum.inr) := by
  have ends : ∀ (after : Phase) (result : Except Exception CreationValue), after.stage = .other →
      after.returns (result.map Sum.inr) := by
    rintro ⟨stage, hashes, saved⟩ result rfl
    trivial
  unfold Phase.start
  cases denotes : libraries.getAddress signerAddress with
  | error failure =>
    simp only [incrementing, Stage.start, denotes]
    refine follows_mono _ ends (creation_other createPayloadDto rfl ?_)
    unfold NonceManagementService.getAndIncrementNonce
    rw [follows_bind]
    refine checksum_follows ?_
    rw [denotes]
    exact ⟨rfl, fun impossible => by cases impossible⟩
  | ok checksumAddress =>
    have written : toLowerCase checksumAddress = toLowerCase signerAddress := by
      simpa [writtenInFull, denotes] using inFull
    simp only [incrementing, Stage.start, denotes]
    split
    next same => exact creation_mine createPayloadDto denotes same (written.symm.trans same)
    next different =>
      refine follows_mono _ ends (creation_other createPayloadDto rfl ?_)
      refine follows_mono _ ?_ (increment_other denotes different)
      exact fun stage result stays => ⟨stays, fun _ same => different (written.trans same)⟩

/-- A call of the nonce service that is open to the outside increments no nonce. -/
theorem nonceCall_follows {call : NonceCall} (offered : offersCreation libraries.getAddress (.inl call) = true) :
    Keeps (storing libraries key) (Phase.start libraries key (.inl call)) (creationBody libraries (.inl call)) := by
  have other : Stage.start libraries.getAddress key call = .other := by
    cases call with
    | getAndIncrementNonce address => cases offered
    | _ => rfl
  have conforms := (nonce_conforms libraries.getAddress key).body call (Or.inl rfl)
  have stays := follows_keeps (issuing libraries.getAddress key) (fun stage : Stage => stage = .other)
    (fun stage op result isOther => by rw [isOther]; rfl) other conforms
  unfold Keeps creationBody
  rw [follows_bind]
  refine follows_mono _ ?_ (lifted_follows (Phase.start libraries key (.inl call)) stays)
  rintro ⟨stage, hashes, saved⟩ result ⟨⟨_, isOther⟩, _, _⟩
  cases isOther
  cases result <;> trivial

theorem creationCall_follows (createPayloadDto : CreatePayloadDto)
    (offered : writtenInFull libraries.getAddress signerAddress = true) :
    Keeps (storing libraries key) (Phase.start libraries key (.inr (.createPayload signerAddress createPayloadDto)))
      (creationBody libraries (.inr (.createPayload signerAddress createPayloadDto))) := by
  unfold Keeps creationBody
  rw [follows_bind]
  refine follows_mono _ ?_ (createPayload_follows createPayloadDto offered)
  intro after result ended
  cases result <;> exact ended

end Programs

theorem creation_conforms (libraries : CreationLibraries) (key : String) :
    Conforms (storing libraries key) (creationProcess libraries) where
  body call startable := by
    rcases startable with offered | ⟨_, impossible⟩
    · cases call with
      | inl call => exact nonceCall_follows offered
      | inr call =>
        obtain ⟨signerAddress, createPayloadDto⟩ := call
        exact creationCall_follows createPayloadDto offered
    · exact impossible.elim
  possible world op choice world' result responds := by
    cases op with
    | inr op => trivial
    | inl op =>
      cases choice with
      | nonce outcome =>
        obtain ⟨answer, answered, same⟩ := Option.map_eq_some_iff.mp responds
        cases same
        exact respond_possible answered
      | _ => cases responds

/-! ## The nonce table's view of a run -/

/-- The calls, answers and rows that concern the nonces. -/
def nonceEvent : Nat × Event creating → Option (Nat × Event nonces)
  | (i, ⟨.inl op, result⟩) => some (i, ⟨op, result⟩)
  | _ => none

def narrowView {libraries : CreationLibraries} {key : String}
    (v : View (storing libraries key) (creationProcess libraries)) :
    View (issuing libraries.getAddress key) (nonceProcess libraries.getAddress) where
  world := v.world.nonces
  phases := v.phases.map Phase.stage
  trace := v.trace.filterMap nonceEvent

/-- The calls that have committed a nonce of the signer, in the order of the nonces. -/
def takers (key : String) (trace : List (Nat × Event creating)) : List Nat :=
  committers key (trace.filterMap nonceEvent)

/-- The inserts of the signer's payloads, each with its call and whether it succeeded. -/
def inserts (key : String) (trace : List (Nat × Event creating)) : List (Nat × Bool) :=
  trace.filterMap fun entry =>
    match entry.2 with
    | ⟨.inr (.insertPayload payload), result⟩ =>
      if payload.signerAddress = key then some (entry.1, succeeded result) else none
    | _ => none

/-- The nonces of the stored payloads of a signer. -/
def storedNonces (key : String) (world : CreationWorld) : List Nat :=
  (world.payloads.rows.filter fun row => decide (row.payload.signerAddress = key)).map (·.payload.nonce)

/-- The nonces that have been taken, with the calls that have them. -/
def heldBy (key : String) (trace : List (Nat × Event creating)) (selects : Nat → Bool) : List Nat :=
  (List.range (takers key trace).length).filter fun n => ((takers key trace)[n]?).any selects

def isStored (key : String) (trace : List (Nat × Event creating)) (i : Nat) : Bool :=
  decide ((i, true) ∈ inserts key trace)

structure Creating (libraries : CreationLibraries) (key : String)
    (v : View (storing libraries key) (creationProcess libraries)) : Prop where
  table : Issuing libraries.getAddress key (narrowView v)
  saved {i : Nat} {phase : Phase} : v.phases[i]? = some phase → phase.stage ≠ .other →
    ∀ ok, phase.saved = some ok ↔ (i, ok) ∈ inserts key v.trace
  early {i : Nat} {phase : Phase} {ok : Bool} : v.phases[i]? = some phase → phase.stage ≠ .other →
    phase.saved = some ok → phase.hashes = true ∧ ∃ n, phase.stage = .committed n
  inside {i : Nat} {ok : Bool} : (i, ok) ∈ inserts key v.trace → i < v.phases.length
  rows : (storedNonces key v.world).Perm (heldBy key v.trace (isStored key v.trace))

section Steps
variable {libraries : CreationLibraries} {key : String} {i : Nat} {phase : Phase}
  {v : View (storing libraries key) (creationProcess libraries)} {trace : List (Nat × Event creating)}

theorem inserts_append (key : String) (trace : List (Nat × Event creating)) (entry : Nat × Event creating) :
    inserts key (trace ++ [entry]) = inserts key trace ++ inserts key [entry] := by
  unfold inserts
  rw [List.filterMap_append]

theorem inserts_nonce (key : String) (trace : List (Nat × Event creating)) (op : NonceOp)
    (result : Except Exception op.Reply) : inserts key (trace ++ [(i, ⟨.inl op, result⟩)]) = inserts key trace := by
  rw [inserts_append]
  exact List.append_nil _

theorem takers_append (key : String) (trace : List (Nat × Event creating)) (op : NonceOp)
    (result : Except Exception op.Reply) : takers key (trace ++ [(i, ⟨.inl op, result⟩)]) = takers key trace ∨
      (takers key (trace ++ [(i, ⟨.inl op, result⟩)]) = takers key trace ++ [i] ∧
        ∃ loaded entity, op = .saveInTransaction loaded entity ∧ entity.address = key) := by
  have split : takers key (trace ++ [(i, ⟨.inl op, result⟩)]) =
      takers key trace ++ committers key [(i, ⟨op, result⟩)] := by
    unfold takers
    rw [List.filterMap_append]
    exact committers_append _ _ _
  rw [split]
  cases op with
  | saveInTransaction loaded entity =>
    cases result with
    | error failure => exact Or.inl (List.append_nil _)
    | ok reply =>
      by_cases mine : entity.address = key
      · exact Or.inr ⟨by simp [committers, mine], loaded, entity, rfl, mine⟩
      · exact Or.inl (by simp [committers, mine])
  | _ => exact Or.inl (List.append_nil _)

theorem takers_insert (key : String) (trace : List (Nat × Event creating)) (payload : NewPayload)
    (result : Except Exception String) :
    takers key (trace ++ [(i, ⟨.inr (.insertPayload payload), result⟩)]) = takers key trace := by
  unfold takers
  rw [List.filterMap_append]
  exact congrArg (committers key) (List.append_nil _)

theorem heldBy_grown {trace' : List (Nat × Event creating)} {selects : Nat → Bool}
    (grown : takers key trace' = takers key trace ++ [i]) (absent : selects i = false) :
    heldBy key trace' selects = heldBy key trace selects := by
  unfold heldBy
  rw [grown, List.length_append, List.length_singleton, List.range_succ, List.filter_append]
  have last : ([(takers key trace).length].filter fun n => ((takers key trace ++ [i])[n]?).any selects) = [] := by
    simp [absent]
  rw [last, List.append_nil]
  refine List.filter_congr fun n inside => ?_
  rw [List.getElem?_append_left (List.mem_range.mp inside)]

theorem stages_insert (found : v.phases[i]? = some phase) (saved : Option Bool) :
    (v.phases.set i { phase with saved }).map Phase.stage = v.phases.map Phase.stage := by
  refine List.ext_getElem? fun j => ?_
  rw [List.getElem?_map, List.getElem?_map, List.getElem?_set]
  split
  next same =>
    subst same
    split
    next => rw [found]; rfl
    next outside =>
      rw [List.getElem?_eq_none (Nat.not_lt.mp outside)]
  next => rfl

theorem Creating.nonceAnswer {op : NonceOp} {outcome : NonceOutcome} {world : NonceWorld}
    {result : Except Exception op.Reply} (holds : Creating libraries key v) (found : v.phases[i]? = some phase)
    (allowed : phase.stage.allows key op) (responds : v.world.nonces.respond op outcome = some (world, result)) :
    Creating libraries key ⟨{ v.world with nonces := world },
      v.phases.set i { phase with stage := phase.stage.after op result },
      v.trace ++ [(i, ⟨.inl op, result⟩)]⟩ where
  table := by
    have stage : (narrowView v).phases[i]? = some phase.stage := by simp [narrowView, found]
    have step := @Moves.reply nonces (issuing libraries.getAddress key) (nonceProcess libraries.getAddress)
      (anyAnswer _ _) (narrowView v) i phase.stage op outcome world result stage allowed responds trivial
    have moved := holds.table.moves step
    unfold narrowView at moved ⊢
    rw [List.map_set, List.filterMap_append]
    exact moved
  saved {j other} h busy ok := by
    rw [inserts_nonce]
    rcases getElem?_set_cases h with ⟨rfl, rfl⟩ | ⟨_, old⟩
    · have before : phase.stage ≠ .other := fun isOther => busy (by dsimp only; rw [isOther]; rfl)
      exact holds.saved found before ok
    · exact holds.saved old busy ok
  early {j other ok} h busy isSaved := by
    rcases getElem?_set_cases h with ⟨rfl, rfl⟩ | ⟨_, old⟩
    · have before : phase.stage ≠ .other := fun isOther => busy (by dsimp only; rw [isOther]; rfl)
      obtain ⟨_, n, committed⟩ := holds.early found before isSaved
      rw [committed] at allowed
      exact allowed.elim
    · exact holds.early old busy isSaved
  inside {j ok} listed := by
    rw [inserts_nonce] at listed
    rw [List.length_set]
    exact holds.inside listed
  rows := by
    have kept : isStored key (v.trace ++ [(i, ⟨.inl op, result⟩)]) = isStored key v.trace := by
      unfold isStored
      rw [inserts_nonce]
    rw [kept]
    rcases takers_append key v.trace op result with unchanged | ⟨grown, loaded, entity, rfl, mine⟩
    · unfold heldBy
      rw [unchanged]
      exact holds.rows
    · rw [heldBy_grown grown]
      · exact holds.rows
      · refine decide_eq_false fun stored => ?_
        have before : phase.stage ≠ .other := fun isOther => by
          rw [isOther] at allowed
          exact allowed mine
        obtain ⟨_, n, committed⟩ := holds.early found before ((holds.saved found before true).mpr stored)
        rw [committed] at allowed
        exact allowed

variable {world : CreationWorld}

theorem storedNonces_insert (key : String) (payload : NewPayload) {id : String}
    (new : world.payloads.findOne id = none) : (world.insert payload id).1.nonces = world.nonces ∧
      storedNonces key (world.insert payload id).1 = storedNonces key world ++
        if succeeded (world.insert payload id).2 = true ∧ payload.signerAddress = key then [payload.nonce] else [] := by
  unfold CreationWorld.insert
  split
  next => exact ⟨rfl, by simp [succeeded]⟩
  next =>
    refine ⟨rfl, ?_⟩
    unfold storedNonces
    rw [Table.save_new new, List.filter_append, List.map_append]
    by_cases mine : payload.signerAddress = key <;> simp [succeeded, mine]

theorem narrowView_insert (nonces : world.nonces = v.world.nonces) (found : v.phases[i]? = some phase)
    (saved : Option Bool) (payload : NewPayload) (result : Except Exception String) :
    narrowView (⟨world, v.phases.set i { phase with saved },
      v.trace ++ [(i, ⟨.inr (.insertPayload payload), result⟩)]⟩ :
      View (storing libraries key) (creationProcess libraries)) = narrowView v := by
  unfold narrowView
  rw [nonces, stages_insert found, List.filterMap_append]
  exact congrArg (View.mk _ _) (List.append_nil _)

variable {result : Except Exception String} {payload : NewPayload}

theorem Creating.insertOther (holds : Creating libraries key v) (found : v.phases[i]? = some phase)
    (other : phase.stage = .other) (different : payload.signerAddress ≠ key) (nonces : world.nonces = v.world.nonces)
    (rows : storedNonces key world = storedNonces key v.world) :
    Creating libraries key ⟨world, v.phases.set i { phase with saved := some (succeeded result) },
      v.trace ++ [(i, ⟨.inr (.insertPayload payload), result⟩)]⟩ := by
  have same : inserts key (v.trace ++ [(i, ⟨.inr (.insertPayload payload), result⟩)]) = inserts key v.trace := by
    rw [inserts_append]
    simp [inserts, different]
  refine ⟨?_, fun {j otherPhase} h busy ok => ?_, fun {j otherPhase ok} h busy isSaved => ?_, fun {j ok} listed => ?_, ?_⟩
  · rw [narrowView_insert nonces found]
    exact holds.table
  · rw [same]
    rcases getElem?_set_cases h with ⟨rfl, rfl⟩ | ⟨_, old⟩
    · exact absurd other busy
    · exact holds.saved old busy ok
  · rcases getElem?_set_cases h with ⟨rfl, rfl⟩ | ⟨_, old⟩
    · exact absurd other busy
    · exact holds.early old busy isSaved
  · rw [same] at listed
    rw [List.length_set]
    exact holds.inside listed
  · rw [rows]
    unfold heldBy isStored
    rw [takers_insert, same]
    exact holds.rows

theorem mem_heldBy {selects : Nat → Bool} {n : Nat} :
    n ∈ heldBy key trace selects ↔ ∃ j, (takers key trace)[n]? = some j ∧ selects j = true := by
  unfold heldBy
  rw [List.mem_filter, List.mem_range, Option.any_eq_true]
  constructor
  · exact fun ⟨_, held⟩ => held
  · exact fun held => ⟨(List.getElem?_eq_some_iff.mp held.choose_spec.1).1, held⟩

theorem heldBy_nodup (selects : Nat → Bool) : (heldBy key trace selects).Nodup :=
  List.Nodup.filter _ List.nodup_range

theorem mem_isStored {j : Nat} : isStored key trace j = true ↔ (j, true) ∈ inserts key trace := decide_eq_true_iff

theorem Creating.rows_insert {n : Nat} {rows : List Nat} (holds : Creating libraries key v)
    (found : v.phases[i]? = some phase) (committed : phase.stage = .committed n) (unsaved : phase.saved = none)
    (appended : inserts key (v.trace ++ [(i, ⟨.inr (.insertPayload payload), result⟩)]) =
      inserts key v.trace ++ [(i, succeeded result)])
    (stored : rows = storedNonces key v.world ++ if succeeded result = true then [n] else []) :
    rows.Perm (heldBy key (v.trace ++ [(i, ⟨.inr (.insertPayload payload), result⟩)])
      (isStored key (v.trace ++ [(i, ⟨.inr (.insertPayload payload), result⟩)]))) := by
  have taken : (takers key v.trace)[n]? = some i :=
    holds.table.committed.mp (by simp [narrowView, found, committed])
  have absent : (i, true) ∉ inserts key v.trace := fun listed => by
    have isSaved := (holds.saved found (by rw [committed]; simp) true).mpr listed
    rw [unsaved] at isSaved
    cases isSaved
  have nodup : (storedNonces key v.world).Nodup := holds.rows.nodup_iff.mpr (heldBy_nodup _)
  have new : n ∉ storedNonces key v.world := fun listed => by
    obtain ⟨j, mine, isSaved⟩ := mem_heldBy.mp (holds.rows.mem_iff.mp listed)
    rw [taken] at mine
    cases mine
    exact absent (mem_isStored.mp isSaved)
  have rowsNodup : rows.Nodup := by
    rw [stored]
    split
    next => exact List.Nodup.append nodup (List.nodup_singleton n) (List.disjoint_singleton.mpr new)
    next => rwa [List.append_nil]
  refine (List.perm_ext_iff_of_nodup rowsNodup (heldBy_nodup _)).mpr fun m => ?_
  rw [stored, List.mem_append, holds.rows.mem_iff, mem_heldBy, mem_heldBy, takers_insert]
  simp only [mem_isStored, appended, List.mem_append, List.mem_singleton, Prod.mk.injEq]
  constructor
  · rintro (⟨j, mine, isSaved⟩ | last)
    · exact ⟨j, mine, Or.inl isSaved⟩
    · split at last
      next ok =>
        cases List.mem_singleton.mp last
        exact ⟨i, taken, Or.inr ⟨rfl, ok.symm⟩⟩
      next => cases last
  · rintro ⟨j, mine, isSaved | ⟨rfl, ok⟩⟩
    · exact Or.inl ⟨j, mine, isSaved⟩
    · right
      rw [if_pos ok.symm, List.mem_singleton]
      have first := holds.table.committed.mpr mine
      have second := holds.table.committed.mpr taken
      rw [first] at second
      exact Stage.committed.inj (Option.some.inj second)

theorem Creating.insertMine {n : Nat} (holds : Creating libraries key v) (found : v.phases[i]? = some phase)
    (committed : phase.stage = .committed n) (hashes : phase.hashes = true) (unsaved : phase.saved = none)
    (mine : payload.signerAddress = key) (nonces : world.nonces = v.world.nonces)
    (rows : storedNonces key world = storedNonces key v.world ++ if succeeded result = true then [n] else []) :
    Creating libraries key ⟨world, v.phases.set i { phase with saved := some (succeeded result) },
      v.trace ++ [(i, ⟨.inr (.insertPayload payload), result⟩)]⟩ := by
  have appended : inserts key (v.trace ++ [(i, ⟨.inr (.insertPayload payload), result⟩)]) =
      inserts key v.trace ++ [(i, succeeded result)] := by
    rw [inserts_append]
    simp [inserts, mine]
  have none : ∀ ok, (i, ok) ∉ inserts key v.trace := fun ok listed => by
    have isSaved := (holds.saved found (by rw [committed]; simp) ok).mpr listed
    rw [unsaved] at isSaved
    cases isSaved
  refine ⟨?_, fun {j other} h busy ok => ?_, fun {j other ok} h busy isSaved => ?_, fun {j ok} listed => ?_, ?_⟩
  · rw [narrowView_insert nonces found]
    exact holds.table
  · rw [appended, List.mem_append, List.mem_singleton, Prod.mk.injEq]
    rcases getElem?_set_cases h with ⟨rfl, rfl⟩ | ⟨different, old⟩
    · simp [none ok, eq_comm]
    · simp [different, holds.saved old busy ok]
  · rcases getElem?_set_cases h with ⟨rfl, rfl⟩ | ⟨_, old⟩
    · exact ⟨hashes, n, committed⟩
    · exact holds.early old busy isSaved
  · rw [List.length_set]
    rw [appended] at listed
    rcases List.mem_append.mp listed with old | last
    · exact holds.inside old
    · cases List.mem_singleton.mp last
      exact (List.getElem?_eq_some_iff.mp found).1
  · exact holds.rows_insert found committed unsaved appended rows

end Steps

variable {libraries : CreationLibraries}

theorem respond_insert (key : String) {world world' : CreationWorld} {choice : CreationOutcome}
    (responds : world.respond (.inr (.insertPayload payload)) choice = some (world', result)) :
    world'.nonces = world.nonces ∧ storedNonces key world' = storedNonces key world ++
      if succeeded result = true ∧ payload.signerAddress = key then [payload.nonce] else [] := by
  cases choice with
  | nonce outcome => cases responds
  | fails failure =>
    cases responds
    exact ⟨rfl, by simp [succeeded]⟩
  | inserted id =>
    simp only [CreationWorld.respond] at responds
    split at responds
    next => cases responds
    next free =>
      have inserted := storedNonces_insert key payload (Option.not_isSome_iff_eq_none.mp free)
      rw [Option.some.inj responds] at inserted
      exact inserted

variable {key : String}

theorem Creating.moves {v v' : View (storing libraries key) (creationProcess libraries)}
    (holds : Creating libraries key v) (moved : Moves (storing libraries key) (anyAnswer _ _) v v') :
    Creating libraries key v' := by
  cases moved with
  | calls new started =>
    have old : ∀ {i : Nat} {phase : Phase}, phase.saved ≠ none →
        (v.phases ++ new.map (Phase.start libraries key))[i]? = some phase → v.phases[i]? = some phase := by
      intro i phase busy found
      rcases getElem?_append_cases found with before | added
      · exact before
      · obtain ⟨call, _, rfl⟩ := List.mem_map.mp added
        exact absurd rfl busy
    refine ⟨?_, fun {i phase} found busy ok => ?_, fun {i phase ok} found busy isSaved => ?_, fun {i ok} listed => ?_,
      holds.rows⟩
    · have step := @Moves.calls nonces (issuing libraries.getAddress key) (nonceProcess libraries.getAddress)
        (anyAnswer _ _) (narrowView v) (new.map incrementing) (fun _ _ => Or.inl rfl)
      have moved := holds.table.moves step
      unfold narrowView at moved ⊢
      rw [List.map_map] at moved
      rw [List.map_append, List.map_map]
      exact moved
    · constructor
      · exact fun isSaved => (holds.saved (old (by rw [isSaved]; simp) found) busy ok).mp isSaved
      · intro listed
        rw [List.getElem?_append_left (holds.inside listed)] at found
        exact (holds.saved found busy ok).mpr listed
    · exact holds.early (old (by rw [isSaved]; simp) found) busy isSaved
    · rw [List.length_append]
      exact Nat.lt_of_lt_of_le (holds.inside listed) (Nat.le_add_right _ _)
  | env mem change => exact ⟨holds.table, holds.saved, holds.early, holds.inside, holds.rows⟩
  | reply i phase op choice world result found allowed responds _ =>
    cases op with
    | inl op =>
      cases choice with
      | nonce outcome =>
        obtain ⟨answer, answered, same⟩ := Option.map_eq_some_iff.mp responds
        cases same
        exact holds.nonceAnswer found allowed answered
      | _ => cases responds
    | inr op =>
      obtain ⟨payload⟩ := op
      obtain ⟨nonces, rows⟩ := respond_insert key responds
      cases stage : phase.stage with
      | other =>
        simp only [Phase.allows, stage] at allowed
        refine holds.insertOther found stage allowed nonces ?_
        rw [rows, if_neg fun both => allowed both.2, List.append_nil]
      | committed n =>
        simp only [Phase.allows, stage] at allowed
        obtain ⟨mine, isNonce, hashes, unsaved⟩ := allowed
        refine holds.insertMine found stage hashes unsaved mine nonces ?_
        simp only [rows, isNonce, mine, and_true]
      | _ =>
        simp only [Phase.allows, stage] at allowed

/-- A database without a nonce and without a payload of the signer, and without a transaction under way. -/
def Unused (key : String) (world : CreationWorld) : Prop :=
  NonceIssuance.Unused key world.nonces ∧ storedNonces key world = []

theorem creating_initial (mem : NonceMemory) (unused : Unused key world) :
    Creating libraries key (view (storing libraries key) (Config.initial (creationProcess libraries) world mem)) where
  table := issuing_initial mem unused.1
  saved found := by simp [view, phases, Config.initial] at found
  early found := by simp [view, phases, Config.initial] at found
  inside listed := by simp [view, Config.initial, inserts] at listed
  rows := by
    refine List.Perm.of_eq ?_
    exact unused.2

/-! ## The result of a run -/

/-- The nonce that the next creation of the signer takes. -/
def nextNonce (key : String) (world : CreationWorld) : Nat :=
  ((world.nonces.rows.findOne key).map (·.nonce)).getD 0

def ended (c : Config (creationProcess libraries)) (i : Nat) : Bool :=
  (c.pool[i]?).any fun task => task.result.isSome

def threw (c : Config (creationProcess libraries)) (i : Nat) : Bool :=
  (c.pool[i]?).any fun task => task.result.any fun result => ! succeeded result

/-- The nonces that a creation has taken and may still store. -/
def underway (key : String) (c : Config (creationProcess libraries)) : List Nat :=
  heldBy key c.trace fun i => ! isStored key c.trace i && ! ended c i

/-- A creation that has thrown has taken no nonce, and the stored payloads with those under way have all nonces up to
the next, each once. -/
@[mk_iff]
structure Atomic (key : String) (c : Config (creationProcess libraries)) : Prop where
  unchanged : ∀ i ∈ takers key c.trace, threw c i = false
  gapless : (storedNonces key c.world ++ underway key c).Perm (List.range (nextNonce key c.world))

/-- The creations that have ended after they had committed a nonce have hashed their payload, and their insert was not
refused. -/
def Unfailing (key : String) (c : Config (creationProcess libraries)) : Prop :=
  ∀ i ∈ takers key c.trace, ∀ task, c.pool[i]? = some task → task.result.isSome = true →
    hashableCall libraries task.call = true ∧ (i, false) ∉ inserts key c.trace

/-- Every creation that has ended after it had committed a nonce has stored its payload. -/
def Settled (key : String) (c : Config (creationProcess libraries)) : Prop :=
  ∀ i ∈ takers key c.trace, ended c i = true → (i, true) ∈ inserts key c.trace

section Results
variable {c : Config (creationProcess libraries)}

theorem Creating.taker (holds : Creating libraries key (view (storing libraries key) c))
    (keep : AllKeep (storing libraries key) c) {i : Nat} (member : i ∈ takers key c.trace) :
    ∃ task, c.pool[i]? = some task ∧
      (((i, false) ∈ inserts key c.trace ∨ (i, true) ∈ inserts key c.trace) → hashableCall libraries task.call = true) ∧
      ((i, false) ∈ inserts key c.trace → (i, true) ∉ inserts key c.trace) ∧ ∀ result, task.result = some result →
        (succeeded result = true ↔ (i, true) ∈ inserts key c.trace) ∧
        (succeeded result = false → hashableCall libraries task.call = true → (i, false) ∈ inserts key c.trace) := by
  obtain ⟨n, listed⟩ := List.mem_iff_getElem?.mp member
  have stage := holds.table.committed.mpr listed
  simp only [narrowView, view, phases, List.map_map, List.getElem?_map, Option.map_eq_some_iff] at stage
  obtain ⟨task, found, committed⟩ := stage
  have here : (view (storing libraries key) c).phases[i]? = some (phaseOf (storing libraries key) task) := by
    simp [view, phases, found]
  have busy : (phaseOf (storing libraries key) task : Phase).stage ≠ .other := by
    rw [show (phaseOf (storing libraries key) task : Phase).stage = .committed n from committed]
    simp
  have hashes : (phaseOf (storing libraries key) task : Phase).hashes = hashableCall libraries task.call :=
    phaseOf_keeps (P := storing libraries key) (fun phase : Phase => phase.hashes = hashableCall libraries task.call)
      (fun phase op result kept => by cases op <;> exact kept) rfl
  have saved := holds.saved here busy
  refine ⟨task, found, ?_, fun refused stored => ?_, fun result returned => ?_⟩
  · rintro (refused | stored)
    · exact hashes.symm.trans (holds.early here busy ((saved false).mpr refused)).1
    · exact hashes.symm.trans (holds.early here busy ((saved true).mpr stored)).1
  · have first := (saved false).mpr refused
    rw [(saved true).mpr stored] at first
    cases first
  · have ends := returns_of_result keep found returned
    simp only [Phase.returns, show (phaseOf (storing libraries key) task : Phase).stage = .committed n from committed] at ends
    rw [hashes] at ends
    exact ⟨ends.1.trans (saved true), fun failed can => (saved false).mp (ends.2 failed can)⟩

theorem Creating.next (holds : Creating libraries key (view (storing libraries key) c)) :
    nextNonce key c.world = (takers key c.trace).length := by
  have row := holds.table.row
  unfold nextNonce
  change counts (takers key c.trace).length (c.world.nonces.rows.findOne key) at row
  cases found : c.world.nonces.rows.findOne key with
  | none =>
    rw [found] at row
    exact row.symm
  | some stored =>
    rw [found] at row
    exact row.1

theorem ended_iff {i : Nat} {task : Task creating} (found : c.pool[i]? = some task) :
    ended c i = true ↔ task.result.isSome = true := by
  simp [ended, found]

theorem Creating.settled_iff (holds : Creating libraries key (view (storing libraries key) c))
    (keep : AllKeep (storing libraries key) c) : Unfailing key c ↔ Settled key c := by
  constructor
  · intro unfailing i member hasEnded
    obtain ⟨task, found, _, _, ends⟩ := holds.taker keep member
    have isSome := (ended_iff found).mp hasEnded
    obtain ⟨result, returned⟩ := Option.isSome_iff_exists.mp isSome
    obtain ⟨hashes, accepted⟩ := unfailing i member task found isSome
    obtain ⟨well, badly⟩ := ends result returned
    refine well.mp ?_
    by_contra failed
    exact accepted (badly (Bool.eq_false_iff.mpr failed) hashes)
  · intro settled i member task found isSome
    obtain ⟨other, here, hashes, once, _⟩ := holds.taker keep member
    rw [found] at here
    cases here
    have stored := settled i member ((ended_iff found).mpr isSome)
    exact ⟨hashes (Or.inr stored), fun refused => once refused stored⟩

theorem Creating.all_nodup (holds : Creating libraries key (view (storing libraries key) c)) :
    (storedNonces key c.world ++ underway key c).Nodup := by
  have rows : (storedNonces key c.world).Perm (heldBy key c.trace (isStored key c.trace)) := holds.rows
  refine List.Nodup.append (rows.nodup_iff.mpr (heldBy_nodup _)) (heldBy_nodup _) fun n stored open' => ?_
  obtain ⟨i, mine, isStored⟩ := mem_heldBy.mp (rows.mem_iff.mp stored)
  obtain ⟨j, same, notStored⟩ := mem_heldBy.mp open'
  rw [mine] at same
  cases same
  simp [isStored] at notStored

theorem Creating.atomic_iff (holds : Creating libraries key (view (storing libraries key) c))
    (keep : AllKeep (storing libraries key) c) : Atomic key c ↔ Settled key c := by
  have rows : (storedNonces key c.world).Perm (heldBy key c.trace (isStored key c.trace)) := holds.rows
  constructor
  · intro atomic i member hasEnded
    obtain ⟨task, found, _, _, ends⟩ := holds.taker keep member
    obtain ⟨result, returned⟩ := Option.isSome_iff_exists.mp ((ended_iff found).mp hasEnded)
    refine (ends result returned).1.mp ?_
    have well := atomic.unchanged i member
    simpa [threw, found, returned] using well
  · intro settled
    refine ⟨fun i member => ?_, ?_⟩
    · obtain ⟨task, found, _, _, ends⟩ := holds.taker keep member
      simp only [threw, found, Option.any_some]
      cases returned : task.result with
      | none => rfl
      | some result =>
        have stored := settled i member ((ended_iff found).mpr (by rw [returned]; rfl))
        simp [(ends result returned).1.mpr stored]
    · refine (List.perm_ext_iff_of_nodup holds.all_nodup List.nodup_range).mpr fun n => ?_
      rw [List.mem_append, rows.mem_iff, holds.next, List.mem_range, mem_heldBy]
      unfold underway
      rw [mem_heldBy]
      constructor
      · rintro (⟨i, mine, _⟩ | ⟨i, mine, _⟩) <;> exact (List.getElem?_eq_some_iff.mp mine).1
      · intro inside
        have mine := List.getElem?_eq_getElem inside
        have member := List.getElem_mem inside
        by_cases stored : ((takers key c.trace)[n], true) ∈ inserts key c.trace
        · exact Or.inl ⟨_, mine, mem_isStored.mpr stored⟩
        · refine Or.inr ⟨_, mine, ?_⟩
          have notStored : isStored key c.trace (takers key c.trace)[n] = false := decide_eq_false stored
          have notEnded : ended c (takers key c.trace)[n] = false :=
            Bool.eq_false_iff.mpr fun hasEnded => stored (settled _ member hasEnded)
          simp [notStored, notEnded]

end Results

/-- In every run from a database without nonces and payloads of the signer, the next nonce counts the creations that
have committed one, no two payloads have the same nonce and none has the next; the creations have been atomic exactly
when none of them failed after it had committed its nonce. -/
theorem payload_creation_atomic_iff (libraries : CreationLibraries) (key : String) (world : CreationWorld)
    (mem : NonceMemory) (unused : Unused key world) {labels : List (Label (creationProcess libraries))}
    {after : Config (creationProcess libraries)}
    (ran : run labels (Config.initial (creationProcess libraries) world mem) = some after) :
    nextNonce key after.world = (takers key after.trace).length ∧ (storedNonces key after.world).Nodup ∧
      (∀ n ∈ storedNonces key after.world, n < nextNonce key after.world) ∧
      (Atomic key after ↔ Unfailing key after) := by
  obtain ⟨holds, keep⟩ := invariant_of_moves (creation_conforms libraries key)
    (fun _ _ holds moved => Creating.moves holds moved) (allKeep_initial world mem)
    (creating_initial mem unused) (admissible_anyAnswer _ _) ran
  have rows : (storedNonces key after.world).Perm (heldBy key after.trace (isStored key after.trace)) := holds.rows
  refine ⟨holds.next, rows.nodup_iff.mpr (heldBy_nodup _), fun n stored => ?_,
    (holds.atomic_iff keep).trans (holds.settled_iff keep).symm⟩
  obtain ⟨i, mine, _⟩ := mem_heldBy.mp (rows.mem_iff.mp stored)
  rw [holds.next]
  exact (List.getElem?_eq_some_iff.mp mine).1

/-- A payload with one member. -/
def priceOf (token : String) : PayloadObject where
  members := [("token", .string token)]
  enumerated := by
    have keys : Enumerated ["token"] := ⟨by decide, by decide, by decide⟩
    exact ⟨keys, trivial, trivial⟩

def sampleCreation : CreationLibraries where
  getAddress := sampleGetAddress
  stringify payload := .ok payload.json.stringify
  keccak256 text := .ok ("0x" ++ text)

def signer : String := "0x8ba1f109551bd432803012645ac136ddd64dba72"

abbrev creationStart : Config (creationProcess sampleCreation) :=
  Config.initial (creationProcess sampleCreation) ⟨⟨Table.empty, []⟩, Table.empty⟩ ⟨0, Table.empty⟩

/-- A creation from its call to the answer of its insert. -/
def creates (i : Nat) (token id : String) : List (Label (creationProcess sampleCreation)) :=
  [.call (.inr (.createPayload signer ⟨.priceFeed, priceOf token, none⟩)), .reply i (CreationOutcome.nonce .done),
    .resume i, .reply i (CreationOutcome.nonce .done), .resume i, .reply i (CreationOutcome.inserted id)]

instance (key : String) (c : Config (creationProcess sampleCreation)) : Decidable (Atomic key c) :=
  decidable_of_iff' _ (atomic_iff key c)

/-- A payload is created twice, and then another one. -/
theorem payload_created_twice :
    ∃ after, run (creates 0 "XLM" "p0" ++ creates 1 "XLM" "p1" ++ creates 2 "ETH" "p2") creationStart = some after ∧
      ¬ Atomic signer after ∧ threw after 1 = true ∧ storedNonces signer after.world = [0, 2] ∧
      nextNonce signer after.world = 3 ∧ underway signer after = [] := by
  decide +kernel

theorem two_payloads_atomic_iff :
    ∃ after, run (creates 0 "XLM" "p0" ++ creates 1 "ETH" "p1") creationStart = some after ∧
      nextNonce signer after.world = (takers signer after.trace).length ∧ (storedNonces signer after.world).Nodup ∧
      (∀ n ∈ storedNonces signer after.world, n < nextNonce signer after.world) ∧
      (Atomic signer after ↔ Unfailing signer after) := by
  obtain ⟨after, ran, _⟩ :=
    (by decide +kernel : ∃ after, run (creates 0 "XLM" "p0" ++ creates 1 "ETH" "p1") creationStart = some after ∧ True)
  have unused : Unused signer ⟨⟨Table.empty, []⟩, Table.empty⟩ := ⟨⟨rfl, rfl⟩, rfl⟩
  exact ⟨after, ran, payload_creation_atomic_iff sampleCreation signer _ _ unused ran⟩

end AlianStructure.Guarantees.PayloadNonces
