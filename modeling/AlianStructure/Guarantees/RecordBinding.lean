import AlianStructure.Source.Audit.RecordHash

/-!
# What the hash binds

Source: src/infrastructure/audit/provenance.service.ts:356-373. Below the outermost object as well, only
members with the names of the hashed fields are written. Records that differ in other members of their
inputs have the same text.
-/
namespace AlianStructure.Guarantees.RecordBinding
open Library.JsonText Library.JsonSelection
open Source.Audit

/-- The value of the normalised input. -/
def normalizedInput (dto : CreateProvenanceRecordDto) : Json := valueOf (normalizeForHash dto.input.json)

/-- What is written of the normalised input. -/
def writtenInput (dto : CreateProvenanceRecordDto) : Json :=
  written hashedNames (normalizeForHash dto.input.json)

/-- The fields beside the input. -/
structure SameFields (first second : CreateProvenanceRecordDto) : Prop where
  agentId : first.agentId = second.agentId
  userId : first.userId = second.userId
  action : first.action = second.action
  provider : first.provider = second.provider
  providerModel : first.providerModel = second.providerModel
  status : first.status = second.status

/-- Records with the same text agree on the fields and on the whole normalised input. -/
def Binds (first second : CreateProvenanceRecordDto) (now : Nat) : Prop :=
  sortedString first now = sortedString second now →
    SameFields first second ∧ normalizedInput first = normalizedInput second

theorem timeText_injective : Function.Injective timeText := by
  intro a b same
  have digits : Nat.toDigits 10 a = Nat.toDigits 10 b := congrArg NumberText.chars same
  rw [← Nat.ofDigitChars_ten_toDigits (n := a), digits, Nat.ofDigitChars_ten_toDigits]

theorem actionText_injective : Function.Injective ProvenanceAction.text := by
  intro a b same
  cases a <;> cases b <;> first | rfl | exact absurd same (by decide)

theorem statusText_injective : Function.Injective ProvenanceStatus.text := by
  intro a b same
  cases a <;> cases b <;> first | rfl | exact absurd same (by decide)

theorem string_injective : Function.Injective Json.string := fun _ _ same => Json.string.inj same

theorem property_data (dto : CreateProvenanceRecordDto) (now : Nat) (name : String) :
    property (rearrangeMembers (select property hashedNames) (present (dataToHash dto now))) name =
      ((dataToHash dto now).lookup name).join.map (·.rearrange (select property hashedNames)) := by
  have unique : ((dataToHash dto now).map Prod.fst).Nodup := by
    change List.Nodup ["agentId", "userId", "action", "input", "provider", "providerModel", "status",
      "timestamp"]
    decide
  have noPrototype : (present (dataToHash dto now)).lookup "__proto__" = none := by
    rw [lookup_present _ unique]
    rfl
  unfold property
  rw [lookup_rearrangeMembers, lookup_rearrangeMembers, noPrototype, lookup_present _ unique]
  cases ((dataToHash dto now).lookup name).join <;> rfl

theorem optional_eq_iff {first second : Option String} :
    ((first.map Json.string).map (·.rearrange (select property hashedNames)) =
        (second.map Json.string).map (·.rearrange (select property hashedNames))) ↔ first = second := by
  rw [Option.map_map, Option.map_map]
  exact (Option.map_injective string_injective).eq_iff

theorem forall_names {holds : String → Prop} : (∀ name ∈ hashedNames, holds name) ↔
    holds "action" ∧ holds "agentId" ∧ holds "input" ∧ holds "provider" ∧ holds "providerModel" ∧
      holds "status" ∧ holds "timestamp" ∧ holds "userId" := by
  simp [hashedNames]

theorem lookup_data (dto : CreateProvenanceRecordDto) (now : Nat) :
    (dataToHash dto now).lookup "action" = some (some (.string dto.action.text)) ∧
    (dataToHash dto now).lookup "agentId" = some (some (.string dto.agentId)) ∧
    (dataToHash dto now).lookup "input" = some (some (normalizeForHash dto.input.json)) ∧
    (dataToHash dto now).lookup "provider" = some (dto.provider.map .string) ∧
    (dataToHash dto now).lookup "providerModel" = some (dto.providerModel.map .string) ∧
    (dataToHash dto now).lookup "status" = some (some (.string dto.status.text)) ∧
    (dataToHash dto now).lookup "timestamp" = some (some (.number (timeText now))) ∧
    (dataToHash dto now).lookup "userId" = some (dto.userId.map .string) :=
  ⟨rfl, rfl, rfl, rfl, rfl, rfl, rfl, rfl⟩

/-- Two texts are one exactly when the fields, what is written of the inputs, and the times are. -/
theorem sortedString_eq_iff (first second : CreateProvenanceRecordDto) (now later : Nat) :
    sortedString first now = sortedString second later ↔
      SameFields first second ∧ writtenInput first = writtenInput second ∧ now = later := by
  unfold sortedString
  dsimp only
  rw [sorted_names, sorted_names, stringify_injective.eq_iff]
  unfold written
  simp only [Json.rearrange, Json.object.injEq]
  rw [select_eq_iff]
  rw [forall_names]
  obtain ⟨action, agentId, input, provider, providerModel, status, time, userId⟩ :=
    lookup_data first now
  obtain ⟨action', agentId', input', provider', providerModel', status', time', userId'⟩ :=
    lookup_data second later
  simp only [property_data, action, agentId, input, provider, providerModel, status, time, userId,
    action', agentId', input', provider', providerModel', status', time', userId',
    Option.join_some, optional_eq_iff, Option.map_some, Json.rearrange, Option.some.injEq,
    Json.string.injEq, Json.number.injEq, actionText_injective.eq_iff, statusText_injective.eq_iff,
    timeText_injective.eq_iff]
  constructor
  · rintro ⟨action, agentId, input, provider, providerModel, status, time, userId⟩
    exact ⟨⟨agentId, userId, action, provider, providerModel, status⟩, input, time⟩
  · rintro ⟨same, input, time⟩
    exact ⟨same.action, same.agentId, input, same.provider, same.providerModel, same.status, time,
      same.userId⟩

/-- The hash binds two records exactly when, agreeing on the other fields, they have normalised inputs
that are one as soon as what is written of them is. -/
theorem binds_iff (first second : CreateProvenanceRecordDto) (now : Nat) : Binds first second now ↔
      (SameFields first second → writtenInput first = writtenInput second →
        normalizedInput first = normalizedInput second) := by
  unfold Binds
  rw [sortedString_eq_iff]
  constructor
  · intro binds same written
    exact (binds ⟨same, written, rfl⟩).2
  · rintro covers ⟨same, written, _⟩
    exact ⟨same, covers same written⟩

/-- A record of a call with a query. -/
def asking (query : String) : CreateProvenanceRecordDto where
  agentId := "agent-123"
  userId := none
  action := .providerCall
  input := ⟨[("query", .string query)], by simp [Json.Everywhere, MembersEverywhere, MemberEverywhere,
    keysOf]⟩
  output := none
  provider := some "openai"
  providerModel := some "gpt-4-turbo"
  status := .success
  error := none
  onChainTxHash := none
  processingDurationMs := none
  metadata := none
  clientIp := none
  userAgent := none

/-- Two records of different queries have the same text. -/
theorem query_not_bound : sortedString (asking "price of ETH") 1700000000000 =
      sortedString (asking "transfer all") 1700000000000 ∧
    ¬ Binds (asking "price of ETH") (asking "transfer all") 1700000000000 := by
  have sameText : sortedString (asking "price of ETH") 1700000000000 =
      sortedString (asking "transfer all") 1700000000000 :=
    (sortedString_eq_iff _ _ _ _).mpr ⟨⟨rfl, rfl, rfl, rfl, rfl, rfl⟩, rfl, rfl⟩
  refine ⟨sameText, fun binds => ?_⟩
  have sameInput := congrArg Json.stringify (binds sameText).2
  exact absurd sameInput (by decide +kernel)

end AlianStructure.Guarantees.RecordBinding
