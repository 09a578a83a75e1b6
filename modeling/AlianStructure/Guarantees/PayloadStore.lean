import AlianStructure.Source.Oracle.PayloadBatching

/-!
# The pending payloads that are found

Source: src/blockchain/oracle/services/oracle.service.ts:240-257 and submission-batch.service.ts:109-146. The query
asks for payloads without a signature and the filter behind it for payloads with one, so that nothing is ever found:
the oldest payloads that are ready are returned exactly when none is ready.
-/
namespace AlianStructure.Guarantees.PendingSelection
open Library.KeyedTable Source Source.Oracle OracleService SubmissionBatchService

/-- A payload that can be submitted: pending, signed and not expired. -/
def Ready (now : Nat) (payload : SignedPayload) : Prop :=
  payload.status = .pending ∧ payload.signature ≠ "" ∧ now < payload.expiresAt

instance (now : Nat) (payload : SignedPayload) : Decidable (Ready now payload) :=
  inferInstanceAs (Decidable (_ ∧ _ ∧ _))

/-- The `limit` oldest payloads that are ready, or all of them, by creation. -/
structure OldestReady (rows : List SignedPayload) (now limit : Nat) (chosen : List SignedPayload) : Prop where
  ready : ∀ payload ∈ chosen, payload ∈ rows ∧ Ready now payload
  distinct : chosen.Nodup
  count : chosen.length = min limit (rows.countP (Ready now))
  ordered : chosen.Pairwise fun a b => a.createdAt ≤ b.createdAt
  oldest : ∀ payload ∈ chosen, ∀ other ∈ rows, Ready now other → other ∉ chosen →
    payload.createdAt ≤ other.createdAt

variable {payload : SignedPayload}

theorem mem_findPending {rows : List SignedPayload} {take : Nat} (found : payload ∈ findPending rows take) :
    payload.status = .pending ∧ payload.signature = "" := by
  have selected := (List.mem_insertionSort _).mp (List.mem_of_mem_take found)
  have conditions := List.of_mem_filter selected
  simpa using conditions

theorem getPendingPayloads_eq (rows : List SignedPayload) (now limit : Nat) :
    getPendingPayloads rows now limit = [] := by
  unfold getPendingPayloads
  rw [List.map_eq_nil_iff, List.filter_eq_nil_iff]
  intro payload found
  simp [(mem_findPending found).2]

/-- The oldest payloads that are ready are returned exactly when none is ready. -/
theorem pending_selected_iff (table : Table SignedPayload SignedPayload.id) (now limit : Nat) (asked : 0 < limit) :
    (∃ chosen, OldestReady table.rows now limit chosen ∧
      getPendingPayloads table.rows now limit = chosen.map mapToResponseDto) ↔
      ∀ payload ∈ table.rows, ¬ Ready now payload := by
  rw [getPendingPayloads_eq]
  constructor
  · rintro ⟨chosen, oldest, nothing⟩
    have none : chosen = [] := List.map_eq_nil_iff.mp nothing.symm
    have count := oldest.count
    rw [none, List.length_nil] at count
    have zero : table.rows.countP (Ready now) = 0 := by omega
    intro payload member ready
    exact List.countP_eq_zero.mp zero payload member (decide_eq_true ready)
  · intro unready
    have zero : table.rows.countP (Ready now) = 0 :=
      List.countP_eq_zero.mpr fun payload member ready => unready payload member (of_decide_eq_true ready)
    refine ⟨[], ⟨fun _ none => (nomatch none), List.nodup_nil, ?_, List.Pairwise.nil, fun _ none => (nomatch none)⟩,
      rfl⟩
    rw [zero, Nat.min_zero, List.length_nil]

def samplePayload (signature : String) : SignedPayload :=
  ⟨"p1", .priceFeed, 0, "{}", "0xhash", signature, 1000, .pending, none, none, 0, none, 0, 0, none, none⟩

/-- A payload that waits for its signature is rightly not returned. -/
theorem unsigned_not_selected : ∃ chosen,
    OldestReady ((Table.empty : Table SignedPayload SignedPayload.id).save (samplePayload "")).rows 0 1 chosen ∧
      getPendingPayloads ((Table.empty : Table SignedPayload SignedPayload.id).save (samplePayload "")).rows 0 1 =
        chosen.map mapToResponseDto :=
  (pending_selected_iff (Table.empty.save (samplePayload "")) 0 1 Nat.one_pos).mpr (by decide)

/-- A payload that is signed, pending and not expired is not returned. -/
theorem signed_not_selected : ¬ ∀ (table : Table SignedPayload SignedPayload.id) now limit, 0 < limit →
    ∃ chosen, OldestReady table.rows now limit chosen ∧
      getPendingPayloads table.rows now limit = chosen.map mapToResponseDto := by
  intro selected
  obtain ⟨chosen, oldest, returned⟩ := selected (Table.empty.save (samplePayload "0xsig")) 0 1 Nat.one_pos
  rw [getPendingPayloads_eq] at returned
  have none : chosen = [] := List.map_eq_nil_iff.mp returned.symm
  have count := oldest.count
  rw [none] at count
  exact absurd count (by decide)

end AlianStructure.Guarantees.PendingSelection

/-!
# What the payload operations can answer and change

One lemma for each awaited operation of the oracle services that writes; the
invariants of the later modules use these and never look into `respond`.
-/
namespace AlianStructure.Guarantees.PayloadStore
open Library.Interleaving Library.KeyedTable Source Source.Oracle

/-- A row found under an id has that id, the rows of a query are distinct and satisfy
it, and waiting does not fail. -/
def possible : (op : OracleOp) → Except Exception op.Reply → Prop
  | .findOne _ id, .ok (some payload) => payload.id = id
  | .find _ query, .ok payloads =>
    (payloads.map (·.id)).Nodup ∧ ∀ payload ∈ payloads, query.selects payload = true
  | .sleep _, .error _ => False
  | _, _ => True

theorem sorted_perm (query : PayloadQuery) (payloads : List SignedPayload) :
    (query.sorted payloads).Perm payloads := by
  unfold PayloadQuery.sorted
  split
  · exact List.Perm.refl _
  · exact List.perm_insertionSort _ _
  · exact List.perm_insertionSort _ _

theorem run_subperm (query : PayloadQuery) (payloads : List SignedPayload) :
    (query.run payloads).Subperm (payloads.filter query.selects) := by
  have sorted := sorted_perm query (payloads.filter query.selects)
  unfold PayloadQuery.run
  dsimp only
  split
  · exact sorted.subperm
  · exact (List.take_sublist _ _).subperm.trans sorted.subperm

variable {payloads : List SignedPayload}

theorem mem_run {query : PayloadQuery} (member : payload ∈ query.run payloads) :
    payload ∈ payloads ∧ query.selects payload = true :=
  List.mem_filter.mp ((run_subperm query payloads).subset member)

theorem run_nodup {query : PayloadQuery} (unique : (payloads.map (·.id)).Nodup) :
    ((query.run payloads).map (·.id)).Nodup := by
  have kept : ((payloads.filter query.selects).map (·.id)).Nodup :=
    unique.sublist (List.filter_sublist.map _)
  obtain ⟨listed, perm, sublist⟩ := run_subperm query payloads
  exact (perm.map (·.id)).nodup_iff.mp (kept.sublist (sublist.map _))

variable {world world' : OracleWorld} {outcome : Outcome}

theorem respond_possible {op : OracleOp} {result : Except Exception op.Reply}
    (responds : world.respond op outcome = some (world', result)) : possible op result := by
  cases op with
  | findOne site id =>
    cases outcome <;> cases responds
    · cases found : world.payloads.findOne id with
      | none => trivial
      | some payload => exact Table.findOne_key found
    · trivial
  | find site query =>
    cases outcome <;> cases responds
    · exact ⟨run_nodup world.payloads.unique, fun payload member => (mem_run member).2⟩
    · trivial
  | sleep ms =>
    cases outcome <;> cases responds
    trivial
  | _ => trivial

/-! ## Reading -/

theorem respond_findOne {site : Site} {id : String} {result : Except Exception (Option SignedPayload)}
    (responds : world.respond (.findOne site id) outcome = some (world', result)) :
    world' = world ∧ ∀ payload, result = .ok (some payload) → world.payloads.findOne id = some payload := by
  cases outcome <;> cases responds
  · exact ⟨rfl, fun payload found => Except.ok.inj found⟩
  · exact ⟨rfl, by simp⟩

theorem respond_find {site : Site} {query : PayloadQuery} {result : Except Exception (List SignedPayload)}
    (responds : world.respond (.find site query) outcome = some (world', result)) :
    world' = world ∧ ∀ payloads, result = .ok payloads → ∀ payload ∈ payloads,
      world.payloads.findOne payload.id = some payload := by
  cases outcome <;> cases responds
  · refine ⟨rfl, ?_⟩
    rintro _ ⟨⟩ payload member
    exact Table.findOne_of_mem (mem_run member).1
  · exact ⟨rfl, by simp⟩

/-! ## Writing -/

theorem findOne_write_self (world : OracleWorld) (payload : SignedPayload) :
    (world.write payload).payloads.findOne payload.id = some { payload with updatedAt := world.now } :=
  Table.findOne_save_self world.payloads { payload with updatedAt := world.now }

theorem findOne_write_other {world : OracleWorld} {id : String} (other : payload.id ≠ id) :
    (world.write payload).payloads.findOne id = world.payloads.findOne id :=
  Table.findOne_save_other world.payloads fun same : id = payload.id => other same.symm

variable {result : Except Exception Unit}

theorem respond_save (responds : world.respond (.save payload) outcome = some (world', result)) :
    world' = world.write payload ∨ (world' = world ∧ ∃ failure, result = .error failure) := by
  cases outcome <;> cases responds
  · exact Or.inl rfl
  · exact Or.inr ⟨rfl, _, rfl⟩
  · exact Or.inl rfl

theorem respond_saveAll (responds : world.respond (.saveAll payloads) outcome = some (world', result)) :
    world' = world.writeAll payloads ∨ world' = world := by
  cases outcome <;> cases responds
  · exact Or.inl rfl
  · exact Or.inr rfl
  · exact Or.inl rfl

/-! ## The chain -/

theorem respond_submitPayload {payloadId : String} {arguments : SubmitArguments} {gasLimit : Nat}
    {result : Except Exception String}
    (responds : world.respond (.submitPayload payloadId arguments gasLimit) outcome = some (world', result)) :
    (∃ hash, result = .ok hash ∧ world' = { world with
        broadcasts := world.broadcasts ++ [⟨payloadId, arguments, hash, false⟩] }) ∨
      (world' = world ∧ ∃ failure, result = .error failure) := by
  cases outcome <;> cases responds
  · exact Or.inr ⟨rfl, _, rfl⟩
  · exact Or.inl ⟨_, rfl, rfl⟩

theorem respond_waitForTransaction {hash : String} {result : Except Exception (Option Receipt)}
    (responds : world.respond (.waitForTransaction hash) outcome = some (world', result)) :
    ∃ receipt, world' = world.report hash receipt := by
  cases outcome <;> cases responds
  · exact ⟨none, rfl⟩
  · exact ⟨_, rfl⟩

theorem respond_estimateGas {arguments : SubmitArguments} {result : Except Exception Nat}
    (responds : world.respond (.estimateGas arguments) outcome = some (world', result)) : world' = world := by
  cases outcome <;> cases responds <;> rfl

theorem respond_sleep {ms : ℚ} (responds : world.respond (.sleep ms) outcome = some (world', result)) :
    world' = world := by
  cases outcome <;> cases responds
  rfl

theorem payloads_report (world : OracleWorld) (hash : String) (receipt : Option Receipt) :
    (world.report hash receipt).payloads = world.payloads := by
  unfold OracleWorld.report
  split
  next => rfl
  next => split <;> rfl

/-- The payloads that an operation writes. -/
def written : OracleOp → List SignedPayload
  | .save payload => [payload]
  | .saveAll payloads => payloads
  | _ => []

theorem mem_saveAll {row : SignedPayload} : ∀ {rows : List SignedPayload}
    {table : Table SignedPayload SignedPayload.id}, row ∈ (table.saveAll rows).rows →
      row ∈ table.rows ∨ row ∈ rows
  | [], _, member => Or.inl member
  | first :: rest, table, member => by
    have split : row ∈ (table.save first).rows ∨ row ∈ rest := mem_saveAll member
    rcases split with saved | later
    · rcases Table.mem_save.mp saved with rfl | ⟨old, _⟩
      · exact Or.inr List.mem_cons_self
      · exact Or.inl old
    · exact Or.inr (List.mem_cons_of_mem _ later)

/-- The rows after an operation: those before, and what it writes with the time. -/
theorem respond_rows {world after : OracleWorld} {op : OracleOp} {result : Except Exception op.Reply}
    (responds : world.respond op outcome = some (after, result)) {row : SignedPayload}
    (member : row ∈ after.payloads.rows) : row ∈ world.payloads.rows ∨
      ∃ payload ∈ written op, row = { payload with updatedAt := world.now } := by
  cases op with
  | save payload =>
    rcases respond_save responds with rfl | ⟨rfl, _⟩
    · rcases Table.mem_save.mp member with rfl | ⟨old, _⟩
      · exact Or.inr ⟨payload, List.mem_singleton.mpr rfl, rfl⟩
      · exact Or.inl old
    · exact Or.inl member
  | saveAll payloads =>
    rcases respond_saveAll responds with rfl | rfl
    · rcases mem_saveAll member with old | new
      · exact Or.inl old
      · obtain ⟨payload, listed, rfl⟩ := List.mem_map.mp new
        exact Or.inr ⟨payload, listed, rfl⟩
    · exact Or.inl member
  | findOne site id =>
    obtain ⟨rfl, _⟩ := respond_findOne responds
    exact Or.inl member
  | find site query =>
    obtain ⟨rfl, _⟩ := respond_find responds
    exact Or.inl member
  | estimateGas arguments =>
    obtain rfl := respond_estimateGas responds
    exact Or.inl member
  | submitPayload payloadId arguments gasLimit =>
    rcases respond_submitPayload responds with ⟨_, _, rfl⟩ | ⟨rfl, _⟩
    · exact Or.inl member
    · exact Or.inl member
  | waitForTransaction hash =>
    obtain ⟨receipt, rfl⟩ := respond_waitForTransaction responds
    rw [payloads_report] at member
    exact Or.inl member
  | sleep ms =>
    obtain rfl := respond_sleep responds
    exact Or.inl member

/-! ## A sample process -/

def samplePayload : SignedPayload where
  id := "p"
  payloadType := .priceFeed
  nonce := 0
  payload := "{}"
  payloadHash := "0xab"
  signature := "0xcd"
  expiresAt := 1800000
  status := .pending
  transactionHash := none
  blockNumber := none
  submissionAttempts := 0
  errorMessage := none
  createdAt := 0
  updatedAt := 0
  submittedAt := none
  confirmedAt := none

def sampleConfig : OracleConfig where
  submitter := ⟨true, 5, 1000, 60000, 2, 6 / 5⟩
  batch := ⟨10, 5, 1000, 60000, 2, true⟩

def sampleWorld (payload : SignedPayload) : OracleWorld := ⟨0, Table.empty.save payload, []⟩

def sampleStart (offers : OracleCall → Bool) (payload : SignedPayload) :
    Config (oracleProcess sampleConfig offers) :=
  Config.initial _ (sampleWorld payload) ⟨0, "", []⟩

end AlianStructure.Guarantees.PayloadStore
