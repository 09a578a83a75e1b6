import AlianStructure.Guarantees.RecordBinding
import AlianStructure.Source.Audit.ProvenanceService

/-!
# Which records are reported valid

Source: src/infrastructure/audit/provenance.service.ts:39-61,253-373. The hash is taken with the time of
the clock, at creation and again at verification, and an update leaves it as it is. So a record is
reported valid in the millisecond of its creation only, and while it has the status it was created with.
-/
namespace AlianStructure.Guarantees.ProvenanceVerification
open Library.JsonText Library.JsonSelection Library.KeyedTable
open Source.Audit ProvenanceService RecordBinding
open Source.Oracle (storedMembers enumerate isIndex)

/-! ## The order of the members is forgotten -/

theorem normalizeMembers_forgets {members moved : Members} (perm : moved.Perm members)
    (unique : (keysOf members).Nodup) : normalizeMembers moved = normalizeMembers members := by
  have filtered : (keysOf (members.filter fun member => ! nonDeterministic.contains member.1)).Nodup :=
    unique.sublist (List.filter_sublist.map Prod.fst)
  unfold normalizeMembers
  rw [insertionSort_forgets (perm.filter _) filtered]

theorem normalizeForHash_stored (object : JsonObject) :
    normalizeForHash object.stored.json = normalizeForHash object.json :=
  rearrange_rearrange storedMembers_moves
    (fun members unique => normalizeMembers_forgets (storedMembers_moves.perm members) unique)
    object.json object.unique

/-- The package recovers the address of the wallet that signed, and no two texts have the same hash. -/
structure LawfulEthers (ethers : Ethers) : Prop where
  recovers : ∀ wallet hash,
    ethers.verifyMessage hash (ethers.signMessageSync wallet hash) = some (ethers.address wallet)
  collisionFree : Function.Injective ethers.keccak256

/-- Two rows have the same hashed fields. -/
structure SameHashed (row other : ProvenanceRecord) : Prop where
  agentId : row.agentId = other.agentId
  userId : row.userId = other.userId
  action : row.action = other.action
  input : valueOf (normalizeForHash row.input.json) = valueOf (normalizeForHash other.input.json)
  provider : row.provider = other.provider
  providerModel : row.providerModel = other.providerModel
  status : row.status = other.status

section Histories
variable {ethers : Ethers} {uuid : String → Option String} {signingKey id : String}
  {dto : CreateProvenanceRecordDto} {now savedAt later : Nat}
  {table created : ProvenanceTable} {response : ProvenanceResponseDto} {steps : List ProvenanceStep}
  {row proper : ProvenanceRecord}

/-- The record is reported valid when its hashed fields are what the calls made them, and invalid when
they are not. -/
def ReportsRight (ethers : Ethers) (uuid : String → Option String) (signingKey id : String)
    (created : ProvenanceTable) (steps : List ProvenanceStep) (later : Nat) : Prop :=
  ∀ row proper, (afterSteps ethers uuid signingKey created steps).findOne id = some row →
    (afterSteps ethers uuid signingKey created (steps.filter isOperation)).findOne id = some proper →
    let result := verifySignature ethers signingKey id later
      (afterSteps ethers uuid signingKey created steps)
    (SameHashed row proper → result.isValid = true) ∧ (¬ SameHashed row proper → result.isValid = false)

/-- What is read back of a row has the fields that were hashed at its creation, and as much is written
of its input. -/
def Unnoticed (dto : CreateProvenanceRecordDto) (row : ProvenanceRecord) : Prop :=
  SameFields (reread row) dto ∧ writtenInput (reread row) = writtenInput dto

/-- The texts that were given at the creation are read back: none of them is empty, and the user is given
in the form of the column. -/
structure ReadBack (dto : CreateProvenanceRecordDto) (row : ProvenanceRecord) : Prop where
  userId : orUndefined row.userId = dto.userId
  provider : dto.provider ≠ some ""
  providerModel : dto.providerModel ≠ some ""

/-- A record that is as the calls left it is verified in the millisecond of its creation with a valid
key, its texts are read back and it still has its first status; one that was changed shows it. -/
structure Favourable (ethers : Ethers) (signingKey : String) (dto : CreateProvenanceRecordDto)
    (now later : Nat) (row proper : ProvenanceRecord) : Prop where
  untouched : SameHashed row proper →
    later = now ∧ (ethers.wallet signingKey).isSome = true ∧ row.status = dto.status ∧
      ReadBack dto row ∧ writtenInput (reread row) = writtenInput dto
  changed : ¬ SameHashed row proper →
    ¬ (later = now ∧ (ethers.wallet signingKey).isSome = true ∧ Unnoticed dto row)

/-! ## A row through its history -/

/-- The evidence of the creation. -/
structure Evidence (ethers : Ethers) (signingKey : String) (dto : CreateProvenanceRecordDto) (now : Nat)
    (row : ProvenanceRecord) : Prop where
  recordHash : row.recordHash = hashRecordData ethers dto now
  signature : row.signature = generateSignature ethers signingKey row.recordHash

/-- The fields that no call changes are those of the creation. -/
structure Original (uuid : String → Option String) (dto : CreateProvenanceRecordDto)
    (row : ProvenanceRecord) : Prop where
  agentId : row.agentId = dto.agentId
  userId : row.userId = dto.userId.bind uuid
  action : row.action = dto.action
  input : row.input = dto.input.stored
  provider : row.provider = dto.provider
  providerModel : row.providerModel = dto.providerModel

theorem stored_id {record : ProvenanceRecord} (stored : record.stored uuid = some row) : row.id = record.id := by
  unfold ProvenanceRecord.stored at stored
  dsimp only at stored
  split at stored
  next =>
    cases stored
    rfl
  next =>
    obtain ⟨_, _, rfl⟩ := Option.map_eq_some_iff.mp stored
    rfl

theorem created_row (made : createProvenanceRecord ethers uuid signingKey id dto now savedAt table =
      .ok (created, response)) : ∃ row, created.findOne id = some row ∧ Evidence ethers signingKey dto now row ∧
      Original uuid dto row := by
  unfold createProvenanceRecord at made
  dsimp only at made
  split at made
  next row stored fresh =>
    cases made
    unfold ProvenanceRecord.stored at stored
    dsimp only at stored
    split at stored
    next nobody =>
      cases stored
      refine ⟨_, Table.findOne_save_self table _, ⟨rfl, rfl⟩, rfl, ?_, rfl, rfl, rfl, rfl⟩
      have none : dto.userId = none := nobody
      rw [none]
      exact nobody
    next userId isUser =>
      obtain ⟨kept, isKept, rfl⟩ := Option.map_eq_some_iff.mp stored
      refine ⟨_, Table.findOne_save_self table _, ⟨rfl, rfl⟩, rfl, ?_, rfl, rfl, rfl, rfl⟩
      have some_ : dto.userId = some userId := isUser
      rw [some_]
      exact isKept.symm
  next => cases made

/-- What a step does to a row: it stays, is updated, or is overwritten from outside. -/
theorem step_row (ethers : Ethers) (uuid : String → Option String) (signingKey : String)
    (step : ProvenanceStep) (found : table.findOne id = some row) :
    ∃ after, (afterStep ethers uuid signingKey table step).findOne id = some after ∧
      (after = row ∨ (∃ updates, after = updated row updates) ∨
        (isOperation step = false ∧ ∃ other, after = overwritten row other)) := by
  cases step with
  | create other dto now savedAt =>
    unfold afterStep createProvenanceRecord
    dsimp only
    split
    next after response made =>
      split at made
      next new stored fresh =>
        cases made
        have differs : id ≠ new.id := fun same => by
          rw [same.trans (stored_id stored)] at found
          cases found.symm.trans fresh
        exact ⟨row, (Table.findOne_save_other table differs).trans found, Or.inl rfl⟩
      next => cases made
    next => exact ⟨row, found, Or.inl rfl⟩
  | update other updates =>
    unfold afterStep updateProvenanceRecord
    dsimp only
    by_cases same : other = id
    · subst same
      rw [found]
      have saved := Table.findOne_save_self table
        (updated row { updates with output := updates.output.map JsonObject.stored })
      have named : row.id = other := Table.findOne_key found
      rw [show (updated row { updates with output := updates.output.map JsonObject.stored }).id = other
        from named] at saved
      exact ⟨_, saved, Or.inr (Or.inl ⟨_, rfl⟩)⟩
    · cases old : table.findOne other with
      | none => exact ⟨row, found, Or.inl rfl⟩
      | some oldRow =>
        have named : oldRow.id = other := Table.findOne_key old
        have differs : id ≠ (updated oldRow
            { updates with output := updates.output.map JsonObject.stored }).id :=
          fun equal => same (Eq.trans equal named).symm
        exact ⟨row, (Table.findOne_save_other table differs).trans found, Or.inl rfl⟩
  | outside other =>
    unfold afterStep
    dsimp only
    by_cases same : other.id = id
    · rw [same, found]
      have saved := Table.findOne_save_self table (overwritten row other)
      have named : (overwritten row other).id = id := same
      rw [named] at saved
      exact ⟨_, saved, Or.inr (Or.inr ⟨rfl, other, rfl⟩)⟩
    · cases old : table.findOne other.id with
      | none => exact ⟨row, found, Or.inl rfl⟩
      | some oldRow =>
        have differs : id ≠ (overwritten oldRow other).id := fun equal => same equal.symm
        exact ⟨row, (Table.findOne_save_other table differs).trans found, Or.inl rfl⟩

theorem row_after {holds : ProvenanceRecord → Prop} (found : table.findOne id = some row)
    (here : holds row) (steps : List ProvenanceStep) (kept : ∀ step ∈ steps, ∀ old after, holds old →
      (after = old ∨ (∃ updates, after = updated old updates) ∨
        (isOperation step = false ∧ ∃ other, after = overwritten old other)) → holds after) :
    ∃ after, (afterSteps ethers uuid signingKey table steps).findOne id = some after ∧ holds after := by
  induction steps generalizing table row with
  | nil => exact ⟨row, found, here⟩
  | cons step rest ih =>
    obtain ⟨next, isNext, change⟩ := step_row ethers uuid signingKey step found
    exact ih isNext (kept step List.mem_cons_self row next here change)
      fun other member => kept other (List.mem_cons_of_mem _ member)

theorem evidence_after (uuid : String → Option String) (found : table.findOne id = some row)
    (evidence : Evidence ethers signingKey dto now row) (steps : List ProvenanceStep) :
    ∃ after, (afterSteps ethers uuid signingKey table steps).findOne id = some after ∧
      Evidence ethers signingKey dto now after := by
  refine row_after found evidence steps fun step _ old after evidence change => ?_
  rcases change with rfl | ⟨updates, rfl⟩ | ⟨_, other, rfl⟩
  · exact evidence
  · exact ⟨evidence.recordHash, evidence.signature⟩
  · exact ⟨evidence.recordHash, evidence.signature⟩

theorem original_after (ethers : Ethers) (signingKey : String) (found : table.findOne id = some row) (original : Original uuid dto row)
    (steps : List ProvenanceStep) :
    ∃ after, (afterSteps ethers uuid signingKey table (steps.filter isOperation)).findOne id =
      some after ∧ Original uuid dto after := by
  refine row_after found original _ fun step member old after original change => ?_
  rcases change with rfl | ⟨updates, rfl⟩ | ⟨outside, _⟩
  · exact original
  · exact ⟨original.agentId, original.userId, original.action, original.input, original.provider,
      original.providerModel⟩
  · rw [(List.mem_filter.mp member).2] at outside
    cases outside

/-! ## The verification -/

theorem verifyAgainst_generated (lawful : LawfulEthers ethers) (hash : String) :
    verifySignatureAgainstHash ethers signingKey hash (generateSignature ethers signingKey hash) =
      (ethers.wallet signingKey).isSome := by
  unfold verifySignatureAgainstHash generateSignature
  cases ethers.wallet signingKey with
  | none => cases ethers.verifyMessage hash placeholderSignature <;> rfl
  | some wallet =>
    rw [lawful.recovers]
    exact beq_self_eq_true _

/-- A row with the evidence of its creation is reported valid exactly in the millisecond of the creation,
with a valid key, when nothing that was hashed is noticed to be different. -/
theorem isValid_iff (later : Nat) (lawful : LawfulEthers ethers) (found : table.findOne id = some row)
    (evidence : Evidence ethers signingKey dto now row) :
    (verifySignature ethers signingKey id later table).isValid = true ↔
      later = now ∧ (ethers.wallet signingKey).isSome = true ∧ Unnoticed dto row := by
  have hashes : hashRecordData ethers (reread row) later = row.recordHash ↔
      Unnoticed dto row ∧ later = now := by
    rw [evidence.recordHash]
    unfold hashRecordData Unnoticed
    rw [lawful.collisionFree.eq_iff, sortedString_eq_iff, and_assoc]
  unfold verifySignature
  rw [found]
  dsimp only
  rw [evidence.signature, verifyAgainst_generated lawful]
  split
  next differs =>
    refine iff_of_false (by simp) fun accepted => ?_
    exact differs (hashes.mpr ⟨accepted.2.2, accepted.1⟩)
  next same =>
    obtain ⟨unnoticed, time⟩ := hashes.mp (not_not.mp same)
    exact ⟨fun valid => ⟨time, valid, unnoticed⟩, fun accepted => accepted.2.1⟩

theorem orUndefined_eq_self {text : Option String} : orUndefined text = text ↔ text ≠ some "" := by
  cases text with
  | none => simp [orUndefined]
  | some text =>
    by_cases empty : text = "" <;> simp [orUndefined, Option.filter, empty]

/-- When the calls alone made the row, only its status and the texts given can be noticed. -/
theorem unnoticed_iff (same : SameHashed row proper) (original : Original uuid dto proper) :
    Unnoticed dto row ↔ row.status = dto.status ∧ ReadBack dto row ∧
      writtenInput (reread row) = writtenInput dto := by
  have provider : row.provider = dto.provider := same.provider.trans original.provider
  have providerModel : row.providerModel = dto.providerModel :=
    same.providerModel.trans original.providerModel
  constructor
  · rintro ⟨fields, input⟩
    refine ⟨fields.status, ⟨fields.userId, ?_, ?_⟩, input⟩
    · exact orUndefined_eq_self.mp (provider ▸ fields.provider)
    · exact orUndefined_eq_self.mp (providerModel ▸ fields.providerModel)
  · rintro ⟨status, readBack, input⟩
    refine ⟨⟨same.agentId.trans original.agentId, readBack.userId, same.action.trans original.action,
      ?_, ?_, status⟩, input⟩
    · exact (congrArg orUndefined provider).trans (orUndefined_eq_self.mpr readBack.provider)
    · exact (congrArg orUndefined providerModel).trans (orUndefined_eq_self.mpr readBack.providerModel)

end Histories

/-- After every history of a record that was created, verification reports it as it should exactly in
the favourable cases. -/
theorem reports_right_iff (ethers : Ethers) (uuid : String → Option String) (signingKey id : String)
    (dto : CreateProvenanceRecordDto) (now savedAt later : Nat) (table created : ProvenanceTable)
    (response : ProvenanceResponseDto) (steps : List ProvenanceStep) (lawful : LawfulEthers ethers)
    (made : createProvenanceRecord ethers uuid signingKey id dto now savedAt table = .ok (created, response)) :
    ReportsRight ethers uuid signingKey id created steps later ↔
      ∀ row proper, (afterSteps ethers uuid signingKey created steps).findOne id = some row →
        (afterSteps ethers uuid signingKey created (steps.filter isOperation)).findOne id =
          some proper → Favourable ethers signingKey dto now later row proper := by
  obtain ⟨first, isFirst, evidence, original⟩ := created_row made
  obtain ⟨row, found, evidence⟩ := evidence_after uuid isFirst evidence steps
  obtain ⟨proper, isProper, original⟩ := original_after ethers signingKey isFirst original steps
  have valid := isValid_iff later lawful found evidence
  have invalid : (verifySignature ethers signingKey id later
      (afterSteps ethers uuid signingKey created steps)).isValid = false ↔
      ¬ (later = now ∧ (ethers.wallet signingKey).isSome = true ∧ Unnoticed dto row) := by
    rw [← valid, Bool.not_eq_true]
  have only : ∀ other known, (afterSteps ethers uuid signingKey created steps).findOne id = some other →
      (afterSteps ethers uuid signingKey created (steps.filter isOperation)).findOne id = some known →
      other = row ∧ known = proper := fun other known isOther isKnown => by
    rw [found] at isOther
    rw [isProper] at isKnown
    exact ⟨(Option.some.inj isOther).symm, (Option.some.inj isKnown).symm⟩
  unfold ReportsRight
  dsimp only
  rw [valid, invalid]
  constructor
  · intro reports other known isOther isKnown
    obtain ⟨rfl, rfl⟩ := only other known isOther isKnown
    obtain ⟨kept, shown⟩ := reports other known isOther isKnown
    refine ⟨fun same => ?_, shown⟩
    obtain ⟨time, key, unnoticed⟩ := kept same
    exact ⟨time, key, (unnoticed_iff same original).mp unnoticed⟩
  · intro favourable other known isOther isKnown
    obtain ⟨rfl, rfl⟩ := only other known isOther isKnown
    obtain ⟨untouched, changed⟩ := favourable other known isOther isKnown
    refine ⟨fun same => ?_, changed⟩
    obtain ⟨time, key, unnoticed⟩ := untouched same
    exact ⟨time, key, (unnoticed_iff same original).mpr unnoticed⟩

/-! ## Three records -/

/-- A package in which a text is its own hash and a hash its own signature. -/
def plainEthers : Ethers where
  Wallet := Unit
  wallet key := if key = "" then none else some ()
  address _ := "0xa"
  signMessageSync _ hash := hash
  verifyMessage hash signature := if signature = hash then some "0xa" else none
  keccak256 := id

theorem plainEthers_lawful : LawfulEthers plainEthers :=
  ⟨fun _ _ => if_pos rfl, Function.injective_id⟩

def sampleRecord : ProvenanceRecord := newRecord plainEthers "key" "r" (asking "price of ETH") 5 5

def sampleRow : ProvenanceRecord := { sampleRecord with input := sampleRecord.input.stored }

def sampleTable : ProvenanceTable := Table.empty.save sampleRow

def statusUpdate : ProvenanceStep := .update "r" ⟨none, some .failed, none, none, none⟩

/-- The query is replaced. -/
def queryChange : ProvenanceStep := .outside { sampleRow with input := (asking "transfer all").input }

def isReportedValid (steps : List ProvenanceStep) (later : Nat) : Bool :=
  (verifySignature plainEthers "key" "r" later (afterSteps plainEthers some "key" sampleTable steps)).isValid

theorem sameHashed_refl (row : ProvenanceRecord) : SameHashed row row :=
  ⟨rfl, rfl, rfl, rfl, rfl, rfl, rfl⟩

/-- A millisecond later the record is reported invalid, and so it is after an update of its status; when
its query was replaced it is reported valid. -/
theorem reports_wrong :
    (isReportedValid [] 6 = false ∧ ¬ ReportsRight plainEthers some "key" "r" sampleTable [] 6) ∧
    (isReportedValid [statusUpdate] 5 = false ∧
      ¬ ReportsRight plainEthers some "key" "r" sampleTable [statusUpdate] 5) ∧
    isReportedValid [queryChange] 5 = true ∧
      ¬ ReportsRight plainEthers some "key" "r" sampleTable [queryChange] 5 := by
  have late : isReportedValid [] 6 = false := by decide +kernel
  have afterUpdate : isReportedValid [statusUpdate] 5 = false := by decide +kernel
  have replaced : isReportedValid [queryChange] 5 = true := by decide +kernel
  refine ⟨⟨late, fun right => ?_⟩, ⟨afterUpdate, fun right => ?_⟩, replaced, fun right => ?_⟩
  · have valid := (right sampleRow sampleRow rfl rfl).1 (sameHashed_refl _)
    exact Bool.false_ne_true (late.symm.trans valid)
  · have valid := (right _ _ rfl rfl).1 (sameHashed_refl _)
    exact Bool.false_ne_true (afterUpdate.symm.trans valid)
  · have invalid := (right _ sampleRow rfl rfl).2 fun same => by
      have texts := congrArg Json.stringify same.input
      exact absurd texts (by decide +kernel)
    exact Bool.false_ne_true (invalid.symm.trans replaced)

/-- In the millisecond of its creation the record is reported valid. -/
theorem reports_right_at_once : ReportsRight plainEthers some "key" "r" sampleTable [] 5 := by
  refine (reports_right_iff plainEthers some "key" "r" (asking "price of ETH") 5 5 5 Table.empty
    sampleTable (toResponseDto sampleRecord) [] plainEthers_lawful rfl).mpr ?_
  intro row proper found isProper
  obtain rfl : sampleRow = row := Option.some.inj found
  obtain rfl : sampleRow = proper := Option.some.inj isProper
  have written : writtenInput (reread sampleRow) = writtenInput (asking "price of ETH") :=
    congrArg (Source.Audit.written hashedNames) (normalizeForHash_stored (asking "price of ETH").input)
  refine ⟨fun _ => ⟨rfl, rfl, rfl, ⟨rfl, by decide, by decide⟩, written⟩, fun differs => ?_⟩
  exact absurd (sameHashed_refl sampleRow) differs

end AlianStructure.Guarantees.ProvenanceVerification
