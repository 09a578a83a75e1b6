import AlianStructure.Library.Csv
import AlianStructure.Library.JsonReading
import AlianStructure.Source.Audit.CsvExports

/-!
# Reading the exports back

Source: src/infrastructure/audit/provenance.service.ts:211-248 and audit-log.service.ts:126-147. One export writes its
fields as they are, the other one as JSON texts, which escape otherwise than RFC 4180 does.
-/
namespace AlianStructure.Guarantees.CsvRoundTrip
open Library Library.JsonText Library.JsonReading Library.IsoDate
open Source Source.Audit

/-- A text is read as rows of texts. -/
def ReadsAs (text : String) (rows : List (List String)) : Prop :=
  Csv.parse text.toList = some (rows.map (·.map String.toList))

instance (text : String) (rows : List (List String)) : Decidable (ReadsAs text rows) :=
  inferInstanceAs (Decidable (_ = _))

/-- The time of a record as it is exported; one without a time has no text. -/
def exportedTime (createdAt : Nat) : String := ((timeClip createdAt).map toISOString).getD ""

/-- The values of a record of provenance that are exported. -/
def provenanceValues (r : ProvenanceResponseDto) : List String :=
  [r.id, r.agentId, r.userId.getD "", r.action.text, r.status.text, r.provider.getD "", r.providerModel.getD "",
    exportedTime r.createdAt, r.recordHash, r.signature]

def auditValues (log : AuditLog) : List String :=
  [log.id, log.userId.getD "", log.action.text, log.resourceType.getD "", log.resourceId.getD "", log.ipAddress,
    toISOString log.createdAt]

/-- The header and a row for every record. -/
def ProvenanceReadsBack (records : List ProvenanceResponseDto) : Prop :=
  ∃ text, ProvenanceService.exportProvenanceToCsv records = .ok text ∧
    ReadsAs text (ProvenanceService.headers :: records.map provenanceValues)

def AuditReadsBack (sign : String → String) (logs : List AuditLog) : Prop :=
  ReadsAs (AuditLogService.exportToCsv sign logs).payload (AuditLogService.header :: logs.map auditValues)

/-- A text without a comma, a quote or the end of a line. -/
def Unsigned (text : String) : Prop := Csv.Clean text.toList

instance (text : String) : Decidable (Unsigned text) := inferInstanceAs (Decidable (Csv.Clean _))

/-- A text that JSON writes as it is. -/
def Unescaped (field : List Char) : Prop := ∀ c ∈ field, isPlain c = true

instance (field : List Char) : Decidable (Unescaped field) := List.decidableBAll _ field

/-- The record has a time, and none of its texts has a sign in it. -/
structure PlainRecord (r : ProvenanceResponseDto) : Prop where
  dated : (timeClip r.createdAt).isSome = true
  texts : ∀ text ∈ [r.id, r.agentId, r.userId.getD "", r.provider.getD "", r.providerModel.getD "", r.recordHash,
    r.signature], Unsigned text

/-- No text of the log has a character that JSON escapes. -/
def PlainLog (log : AuditLog) : Prop :=
  ∀ text ∈ [log.id, log.userId.getD "", log.resourceType.getD "", log.resourceId.getD "", log.ipAddress],
    Unescaped text.toList

/-! ## Fields as JSON texts -/

theorem escapeChar_special {c : Char} (special : ¬ isPlain c = true) : ∃ next rest, escapeChar c = '\\' :: next :: rest := by
  unfold escapeChar
  split
  next short _ => exact ⟨short, [], rfl⟩
  next unescaped =>
    split
    next => exact ⟨_, _, rfl⟩
    next visible =>
      refine absurd (isPlain_iff.mpr ⟨Nat.not_lt.mp visible, ?_, ?_⟩) special
      · rintro rfl
        cases unescaped
      · rintro rfl
        cases unescaped

/-- An escaped text with more backslashes before it does not read as the text itself. -/
theorem backslash_ahead {field rest others : List Char} (ahead : Nat) :
    List.replicate (ahead + 1) '\\' ++ (field.flatMap escapeChar ++ '"' :: rest) ≠
      Csv.doubled field ++ '"' :: others := by
  induction field generalizing ahead with
  | nil =>
    intro same
    exact absurd (List.cons.inj same).1 (by decide)
  | cons c field ih =>
    intro same
    by_cases quote : c = '"'
    · subst quote
      exact absurd (List.cons.inj same).1 (by decide)
    · rw [Csv.doubled_cons quote, List.replicate_succ, List.cons_append, List.cons_append] at same
      obtain ⟨rfl, later⟩ := List.cons.inj same
      refine ih (ahead + 1) (Eq.trans ?_ later)
      have twice : escapeChar '\\' = ['\\', '\\'] := rfl
      rw [List.flatMap_cons, twice, List.replicate_succ', List.replicate_succ']
      simp

theorem unescaped_of_read {field rest others : List Char}
    (same : field.flatMap escapeChar ++ '"' :: rest = Csv.doubled field ++ '"' :: others) : Unescaped field := by
  induction field with
  | nil => exact fun _ member => absurd member List.not_mem_nil
  | cons c field ih =>
    rw [List.flatMap_cons] at same
    by_cases plain : isPlain c = true
    · rw [escapeChar_plain plain, Csv.doubled_cons (isPlain_iff.mp plain).2.1] at same
      exact List.forall_mem_cons.mpr ⟨plain, ih (List.cons.inj same).2⟩
    · obtain ⟨next, more, escaped⟩ := escapeChar_special plain
      by_cases quote : c = '"'
      · subst quote
        exact absurd (List.cons.inj same).1 (by decide)
      · have heads := same
        rw [escaped, Csv.doubled_cons quote] at heads
        obtain rfl : '\\' = c := (List.cons.inj heads).1
        have twice : escapeChar '\\' = ['\\', '\\'] := rfl
        rw [twice, Csv.doubled_cons quote] at same
        exact absurd (List.cons.inj same).2 (backslash_ahead 0)

/-- A field as a JSON text. -/
def jsonField (field : List Char) : List Char := '"' :: (field.flatMap escapeChar ++ ['"'])

theorem json_coding : Csv.Coding jsonField Unescaped where
  reads field record rest unescaped _ := by
    have unquoted : '"' ∉ field := fun member => (isPlain_iff.mp (unescaped _ member)).2.1 rfl
    refine ⟨.closed, Or.inr (Or.inr rfl), ?_⟩
    rw [jsonField, escape_plain unescaped, List.cons_append, Csv.run_step ⟨.quoted, [], record⟩ rfl,
      List.append_assoc, List.singleton_append, Csv.run_quotes unquoted, List.nil_append]
  good field record rest more tail _ reads := by
    rw [jsonField, List.cons_append, Csv.run_step ⟨.quoted, [], record⟩ rfl, List.append_assoc,
      List.singleton_append] at reads
    obtain ⟨y, others, rfl, same⟩ := (Csv.run_quoted _).1 reads
    exact unescaped_of_read same

/-! ## The two exports -/

theorem lines_toList (lines : List (List String)) : ("\n".intercalate (lines.map (",".intercalate ·))).toList =
    Csv.joinLines ((lines.map (·.map String.toList)).map (Csv.writeRecord id)) := by
  rw [String.toList_intercalate, Csv.joinLines_eq, List.map_map, List.map_map]
  refine congrArg _ (List.map_congr_left fun record _ => ?_)
  rw [Function.comp_apply, Function.comp_apply, String.toList_intercalate, Csv.writeRecord_eq, List.map_id]
  rfl

theorem signs_clean {c : Char} (sign : isIsoSign c = true) : Csv.IsText c := by
  refine ⟨?_, ?_, ?_, ?_⟩ <;> rintro rfl <;> exact absurd sign (by decide)

theorem toISOString_clean (time : TimeValue) : Unsigned (toISOString time) := by
  intro c member
  rw [toISOString, String.toList_ofList] at member
  exact signs_clean (isoText_signs _ c member)

theorem toISOString_unescaped (time : TimeValue) : Unescaped (toISOString time).toList := by
  intro c member
  rw [toISOString, String.toList_ofList] at member
  have sign := isoText_signs _ c member
  refine isPlain_iff.mpr ⟨?_, ?_, ?_⟩
  · rw [isIsoSign, Bool.or_eq_true] at sign
    rcases sign with digit | listed
    · exact (by decide : 32 ≤ 48).trans (Char.isDigit_iff_toNat.mp digit).1
    · simp only [List.contains_iff_mem, List.mem_cons, List.not_mem_nil, or_false] at listed
      rcases listed with rfl | rfl | rfl | rfl | rfl | rfl <;> decide
  · rintro rfl
    exact absurd sign (by decide)
  · rintro rfl
    exact absurd sign (by decide)

theorem values_unsigned_iff {r : ProvenanceResponseDto} {time : TimeValue} (dated : timeClip r.createdAt = some time) :
    (∀ value ∈ provenanceValues r, Unsigned value) ↔ PlainRecord r := by
  have isTime : exportedTime r.createdAt = toISOString time := by
    rw [exportedTime, dated]
    rfl
  have isAction : Unsigned r.action.text := by cases r.action <;> decide
  have isStatus : Unsigned r.status.text := by cases r.status <;> decide
  have isDated : (timeClip r.createdAt).isSome = true := by rw [dated, Option.isSome_some]
  simp only [provenanceValues, List.forall_mem_cons, isTime]
  constructor
  · rintro ⟨id, agentId, userId, -, -, provider, providerModel, -, recordHash, signature, -⟩
    refine ⟨isDated, ?_⟩
    simp only [List.forall_mem_cons]
    exact ⟨id, agentId, userId, provider, providerModel, recordHash, signature, nofun⟩
  · rintro ⟨-, texts⟩
    simp only [List.forall_mem_cons] at texts
    obtain ⟨id, agentId, userId, provider, providerModel, recordHash, signature, -⟩ := texts
    exact ⟨id, agentId, userId, isAction, isStatus, provider, providerModel, toISOString_clean time, recordHash,
      signature, nofun⟩

theorem values_unescaped_iff (log : AuditLog) :
    (∀ value ∈ auditValues log, Unescaped value.toList) ↔ PlainLog log := by
  have isAction : Unescaped log.action.text.toList := by cases log.action <;> decide
  simp only [auditValues, PlainLog, List.forall_mem_cons]
  constructor
  · rintro ⟨id, userId, -, resourceType, resourceId, ipAddress, -, -⟩
    exact ⟨id, userId, resourceType, resourceId, ipAddress, nofun⟩
  · rintro ⟨id, userId, resourceType, resourceId, ipAddress, -⟩
    exact ⟨id, userId, isAction, resourceType, resourceId, ipAddress, toISOString_unescaped log.createdAt, nofun⟩

/-! ### Provenance -/

theorem csvRow_ok {r : ProvenanceResponseDto} (dated : (timeClip r.createdAt).isSome = true) :
    ProvenanceService.csvRow r = .ok (provenanceValues r) := by
  obtain ⟨time, isTime⟩ := Option.isSome_iff_exists.mp dated
  simp only [ProvenanceService.csvRow, ProvenanceService.isoOrThrow, isTime, provenanceValues, exportedTime,
    ProvenanceService.orEmpty]
  rfl

theorem csvRows_ok : ∀ {records : List ProvenanceResponseDto}, (∀ r ∈ records, (timeClip r.createdAt).isSome = true) →
    records.mapM ProvenanceService.csvRow = .ok (records.map provenanceValues)
  | [], _ => rfl
  | r :: records, dated => by
    obtain ⟨first, others⟩ := List.forall_mem_cons.mp dated
    rw [List.mapM_cons, csvRow_ok first, csvRows_ok others]
    rfl

theorem csvRows_dated : ∀ {records : List ProvenanceResponseDto} {rows : List (List String)},
    records.mapM ProvenanceService.csvRow = .ok rows → ∀ r ∈ records, (timeClip r.createdAt).isSome = true
  | [], _, _ => fun _ member => absurd member List.not_mem_nil
  | r :: records, rows, written => by
    cases isTime : timeClip r.createdAt with
    | none =>
      have throws : ProvenanceService.csvRow r = .error (.error "Invalid time value") := by
        simp only [ProvenanceService.csvRow, ProvenanceService.isoOrThrow, isTime]
        rfl
      rw [List.mapM_cons, throws] at written
      cases written
    | some time =>
      have dated : (timeClip r.createdAt).isSome = true := by rw [isTime, Option.isSome_some]
      rw [List.mapM_cons, csvRow_ok dated] at written
      cases rest : records.mapM ProvenanceService.csvRow with
      | error failure =>
        rw [rest] at written
        cases written
      | ok others => exact List.forall_mem_cons.mpr ⟨dated, csvRows_dated rest⟩

theorem headers_clean : ∀ value ∈ ProvenanceService.headers, Unsigned value := by decide

theorem provenance_reads_back_iff (records : List ProvenanceResponseDto) :
    ProvenanceReadsBack records ↔ ∀ r ∈ records, PlainRecord r := by
  cases records with
  | nil =>
    refine iff_of_true ⟨_, rfl, ?_⟩ fun _ member => absurd member List.not_mem_nil
    decide +kernel
  | cons r records =>
    by_cases dated : ∀ other ∈ r :: records, (timeClip other.createdAt).isSome = true
    · have writes : ProvenanceService.exportProvenanceToCsv (r :: records) =
          .ok ("\n".intercalate ((ProvenanceService.headers :: (r :: records).map provenanceValues).map
            (",".intercalate ·))) := by
        have rows := csvRows_ok dated
        rw [ProvenanceService.exportProvenanceToCsv, if_neg (by simp), rows]
        rfl
      have reads := Csv.run_lines_iff Csv.text_coding
        ((ProvenanceService.headers :: (r :: records).map provenanceValues).map (·.map String.toList)) (by simp) (by
          simp only [List.forall_mem_map, List.forall_mem_cons, List.length_map]
          exact ⟨by decide, Nat.le_of_ble_eq_true rfl, fun other _ => Nat.le_of_ble_eq_true rfl⟩)
      rw [← lines_toList] at reads
      have plain_iff : (∀ record ∈ (ProvenanceService.headers :: (r :: records).map provenanceValues).map
          (·.map String.toList), ∀ field ∈ record, Csv.Clean field) ↔ ∀ other ∈ r :: records, PlainRecord other := by
        have headers : ∀ value ∈ ProvenanceService.headers, Csv.Clean value.toList := headers_clean
        rw [List.map_cons, List.forall_mem_cons, List.forall_mem_map, and_iff_right headers, List.map_map,
          List.forall_mem_map]
        refine forall₂_congr fun other member => ?_
        obtain ⟨time, isTime⟩ := Option.isSome_iff_exists.mp (dated other member)
        rw [Function.comp_apply, List.forall_mem_map]
        exact values_unsigned_iff isTime
      rw [← plain_iff, ← reads]
      constructor
      · rintro ⟨text, written, parsed⟩
        obtain rfl := Except.ok.inj (writes.symm.trans written)
        exact parsed
      · exact fun parsed => ⟨_, writes, parsed⟩
    · refine iff_of_false ?_ fun plain => dated fun other member => (plain other member).dated
      rintro ⟨text, written, -⟩
      rw [ProvenanceService.exportProvenanceToCsv, if_neg (by simp)] at written
      cases rows : (r :: records).mapM ProvenanceService.csvRow with
      | error failure =>
        rw [rows] at written
        cases written
      | ok others => exact dated (csvRows_dated rows)

/-! ### Audit logs -/

theorem field_values (log : AuditLog) :
    (AuditLogService.header.map fun name => ((AuditLogService.field log name).getD (.string "")).stringify.toList) =
      (auditValues log).map fun value => jsonField value.toList := by
  obtain ⟨id, userId, action, resourceType, resourceId, ipAddress, createdAt⟩ := log
  cases userId <;> cases resourceType <;> cases resourceId <;>
    simp [AuditLogService.header, AuditLogService.field, auditValues, Json.stringify, Json.write, quoted, jsonField]

theorem log_toList (log : AuditLog) :
    (",".intercalate (AuditLogService.header.map fun name =>
      ((AuditLogService.field log name).getD (.string "")).stringify)).toList =
      Csv.writeRecord jsonField ((auditValues log).map String.toList) := by
  rw [String.toList_intercalate, Csv.writeRecord_eq, List.map_map, List.map_map]
  exact congrArg _ (field_values log)

theorem header_clean : ∀ field ∈ AuditLogService.header.map String.toList, Csv.Clean field := by decide

theorem payload_toList (sign : String → String) (log : AuditLog) (logs : List AuditLog) :
    (AuditLogService.exportToCsv sign (log :: logs)).payload.toList =
      Csv.writeRecord id (AuditLogService.header.map String.toList) ++ '\n' ::
        Csv.joinLines (((log :: logs).map fun each => (auditValues each).map String.toList).map
          (Csv.writeRecord jsonField)) := by
  have header : (",".intercalate AuditLogService.header).toList =
      Csv.writeRecord id (AuditLogService.header.map String.toList) := by
    rw [String.toList_intercalate, Csv.writeRecord_eq, List.map_id]
    rfl
  have feed : "\n".toList = ['\n'] := rfl
  have lines : ((log :: logs).map fun log => ",".intercalate (AuditLogService.header.map fun name =>
      ((AuditLogService.field log name).getD (.string "")).stringify)).map String.toList =
        ((log :: logs).map fun each => (auditValues each).map String.toList).map (Csv.writeRecord jsonField) := by
    rw [List.map_map, List.map_map]
    exact List.map_congr_left fun each _ => log_toList each
  rw [AuditLogService.exportToCsv, String.toList_intercalate, List.map_cons, header, feed, ← Csv.joinLines_eq, lines,
    List.map_cons, List.map_cons, Csv.joinLines]

theorem audit_reads_back_iff (sign : String → String) (logs : List AuditLog) :
    AuditReadsBack sign logs ↔ ∀ log ∈ logs, PlainLog log := by
  cases logs with
  | nil =>
    refine iff_of_true ?_ fun _ member => absurd member List.not_mem_nil
    have payload : (AuditLogService.exportToCsv sign []).payload = ",".intercalate AuditLogService.header :=
      String.intercalate_singleton (s := "\n")
    rw [AuditReadsBack, payload]
    decide +kernel
  | cons log logs =>
    have header := Csv.run_header_iff Csv.text_coding (by decide) header_clean
      (Csv.joinLines (((log :: logs).map fun each => (auditValues each).map String.toList).map
        (Csv.writeRecord jsonField))) ((log :: logs).map fun each => (auditValues each).map String.toList)
    have lines := Csv.run_lines_iff json_coding ((log :: logs).map fun each => (auditValues each).map String.toList)
      (by simp) (by
        simp only [List.forall_mem_map, List.length_map]
        exact fun each _ => Nat.le_of_ble_eq_true rfl)
    have rows : (AuditLogService.header :: (log :: logs).map auditValues).map (·.map String.toList) =
        AuditLogService.header.map String.toList ::
          (log :: logs).map fun each => (auditValues each).map String.toList := by
      rw [List.map_cons, List.map_map]
      rfl
    rw [AuditReadsBack, ReadsAs, payload_toList, rows]
    refine (header.trans lines).trans ?_
    rw [List.forall_mem_map]
    refine forall₂_congr fun each _ => ?_
    rw [List.forall_mem_map]
    exact values_unescaped_iff each

/-- The exports are read back exactly where no text needs what they leave out. -/
theorem exports_read_back_iff (records : List ProvenanceResponseDto) (sign : String → String) (logs : List AuditLog) :
    (ProvenanceReadsBack records ↔ ∀ r ∈ records, PlainRecord r) ∧
      (AuditReadsBack sign logs ↔ ∀ log ∈ logs, PlainLog log) :=
  ⟨provenance_reads_back_iff records, audit_reads_back_iff sign logs⟩

/-! ## A comma, and a quote -/

theorem noMembers_unique : (Json.object []).Everywhere List.Nodup := ⟨List.nodup_nil, trivial⟩

/-- A record of a provider with a comma in its name. -/
def commaRecord : ProvenanceResponseDto where
  id := "1"
  agentId := "a"
  userId := none
  action := .submission
  input := ⟨[], noMembers_unique⟩
  output := none
  provider := some "Acme, Inc."
  providerModel := none
  status := .success
  error := none
  onChainTxHash := none
  signature := "0x"
  recordHash := "0x"
  processingDurationMs := none
  metadata := none
  createdAt := 0
  clientIp := none
  userAgent := none

/-- A log of a resource with a quote in its name. -/
def quoteLog : AuditLog := ⟨"1", none, .update, some "a \"b\"", none, "::1", ⟨0, by decide⟩⟩

theorem exports_not_read_back : ¬ ProvenanceReadsBack [commaRecord] ∧ ¬ AuditReadsBack id [quoteLog] := by
  constructor
  · intro reads
    have comma := ((provenance_reads_back_iff [commaRecord]).mp reads commaRecord List.mem_cons_self).texts "Acme, Inc."
      (by decide)
    exact absurd comma (by decide)
  · intro reads
    have plain := (audit_reads_back_iff id [quoteLog]).mp reads quoteLog List.mem_cons_self "a \"b\"" (by decide)
    exact absurd plain (by decide)

end AlianStructure.Guarantees.CsvRoundTrip
