import AlianStructure.Library.Trajectory
import AlianStructure.Source.Defi.PositionTrackingService

/-!
# Yields that are claimed

Source: src/defi/services/position-tracking.service.ts:322-376. A claim of any record joins texts: the sum of one record
already has a zero and a text behind the text of the position, which the database refuses after the records have been
marked. A claim of no record leaves everything as it is, and one on a position that there is not only marks.
-/
namespace AlianStructure.Guarantees.YieldClaims
open Library.DecimalColumn Library.KeyedTable Library.Trajectory
open Source.Defi PositionTrackingService

/-- A claim that was answered: its position, the records it took and its answer. -/
structure Claim where
  positionId : String
  records : List DeFiYieldRecord
  result : ClaimResult

/-- The two tables, and the claims so far. -/
structure History where
  tracking : Tracking
  claims : List Claim

inductive YieldCall where
  | recordYield (id positionId : String) (data : YieldData)
  | claimYield (positionId : String) (yieldIds : List String) (now : Nat)

def step (history : History) : YieldCall → History
  | .recordYield id positionId data =>
    { history with tracking := recordYield history.tracking id positionId data }
  | .claimYield positionId yieldIds now =>
    match claimYield history.tracking positionId yieldIds now with
    | (tracking, .ok result) =>
      ⟨tracking, history.claims ++ [⟨positionId, findByIds history.tracking yieldIds, result⟩]⟩
    | (tracking, .error _) => { history with tracking }

/-- Positions, before any yield is recorded. -/
def opening (positions : Table DeFiPosition DeFiPosition.id) : History := ⟨⟨positions, .empty⟩, []⟩

/-- The ids of the records that claims have taken. -/
def taken (history : History) : List String := (history.claims.flatMap (·.records)).map (·.id)

/-- What a record is worth to a position, once claimed, in units of the column. -/
def share (positionId : String) (record : DeFiYieldRecord) : ℤ :=
  if record.claimed = true ∧ record.positionId = positionId then record.tokenValue.units else 0

/-- The claimed records of a position. -/
def earned (yields : List DeFiYieldRecord) (positionId : String) : ℤ := (yields.map (share positionId)).sum

/-- No record is in two claims or in one of another position, and the positions have grown by their own claimed
records. -/
structure ClaimedOnce (positions : Table DeFiPosition DeFiPosition.id) (history : History) : Prop where
  once : (taken history).Nodup
  own : ∀ claim ∈ history.claims, ∀ record ∈ claim.records, record.positionId = claim.positionId
  grown : ∀ before ∈ positions.rows, ∃ position, history.tracking.positions.findOne before.id = some position ∧
    position.accumulatedYield.units = before.accumulatedYield.units + earned history.tracking.yields.rows before.id

/-- What records are worth to a position that are not claimed yet. -/
def unclaimed (records : List DeFiYieldRecord) (positionId : String) : ℤ :=
  ((records.filter fun record => decide (record.claimed = false ∧ record.positionId = positionId)).map
    (·.tokenValue.units)).sum

/-- A claim on a position finds records that add up to nothing for every position, as far as they are not claimed yet.
A claim on an id that no position has finds records of that id only, and none that an earlier claim took. -/
def Harmless (positions : Table DeFiPosition DeFiPosition.id) (history : History) : YieldCall → Prop
  | .recordYield _ _ _ => True
  | .claimYield positionId yieldIds _ =>
    if (history.tracking.positions.findOne positionId).isSome = true then
      ∀ position ∈ positions.rows, unclaimed (findByIds history.tracking yieldIds) position.id = 0
    else ∀ record ∈ findByIds history.tracking yieldIds,
      record.positionId = positionId ∧ record.id ∉ taken history

section Claims
variable {tracking : Tracking} {positionId : String} {yieldIds : List String} {now : Nat}

theorem mem_findByIds {record : DeFiYieldRecord} :
    record ∈ findByIds tracking yieldIds ↔ record ∈ tracking.yields.rows ∧ record.id ∈ yieldIds := by
  rw [findByIds, List.mem_filter, decide_eq_true_iff]

theorem findByIds_nodup : ((findByIds tracking yieldIds).map (·.id)).Nodup :=
  tracking.yields.unique.sublist (List.filter_sublist.map _)

/-- The texts of the records are joined. -/
theorem foldl_chars (records : List DeFiYieldRecord) : ∀ start : Total,
    (records.foldl (fun sum record => Total.text (sum.chars ++ record.tokenValue.text)) start).chars =
      start.chars ++ records.flatMap fun record => record.tokenValue.text := by
  induction records with
  | nil => exact fun start => (List.append_nil _).symm
  | cons first rest ih =>
    intro start
    rw [List.foldl_cons, ih, List.flatMap_cons, ← List.append_assoc]
    rfl

/-- The sum of any records does not fit behind the text of a position. -/
theorem join_total (held : amountColumn.Value) {records : List DeFiYieldRecord} (some : records ≠ []) :
    held.join (totalOf records).chars = none := by
  obtain ⟨first, rest, rfl⟩ := List.exists_cons_of_ne_nil some
  rw [totalOf, foldl_chars, List.flatMap_cons]
  exact held.join_refused (first.tokenValue.exponentOf_text _)

theorem findOne_save_same {positions : Table DeFiPosition DeFiPosition.id} {position : DeFiPosition}
    (found : positions.findOne positionId = some position) (id : String) :
    (positions.save position).findOne id = positions.findOne id := by
  by_cases same : id = position.id
  · rw [same, Table.findOne_save_self, Table.findOne_key found, found]
  · exact Table.findOne_save_other positions same

/-- A claim never changes what a position has: it takes nothing, or is refused, or there is no position. -/
theorem claimYield_cases (tracking : Tracking) (positionId : String) (yieldIds : List String) (now : Nat) :
    (∀ id, (claimYield tracking positionId yieldIds now).1.positions.findOne id = tracking.positions.findOne id) ∧
      ((∃ result, (claimYield tracking positionId yieldIds now).2 = .ok result ∧
          (tracking.positions.findOne positionId = none ∨
            (tracking.positions.findOne positionId).isSome = true ∧ findByIds tracking yieldIds = [])) ∨
        ∃ failure, (claimYield tracking positionId yieldIds now).2 = .error failure ∧
          (tracking.positions.findOne positionId).isSome = true) := by
  unfold claimYield
  dsimp only
  cases found : tracking.positions.findOne positionId with
  | none => exact ⟨fun _ => rfl, .inl ⟨_, rfl, .inl rfl⟩⟩
  | some position =>
    dsimp only
    by_cases empty : findByIds tracking yieldIds = []
    · have same : position.accumulatedYield.join (totalOf []).chars = some position.accumulatedYield :=
        position.accumulatedYield.join_zero
      rw [empty, same]
      exact ⟨findOne_save_same found, .inl ⟨_, rfl, .inr ⟨rfl, rfl⟩⟩⟩
    · rw [join_total position.accumulatedYield empty]
      exact ⟨fun _ => rfl, .inr ⟨_, rfl, rfl⟩⟩

theorem yields_claimYield (tracking : Tracking) (positionId : String) (yieldIds : List String) (now : Nat) :
    (claimYield tracking positionId yieldIds now).1.yields.rows = tracking.yields.rows.map fun record =>
      if record.id ∈ yieldIds then markClaimed now record else record := by
  have saved : (claimYield tracking positionId yieldIds now).1.yields =
      tracking.yields.saveAll ((findByIds tracking yieldIds).map (markClaimed now)) := by
    unfold claimYield
    dsimp only
    split
    next => rfl
    next => split <;> rfl
  rw [saved]
  refine (Table.rows_saveAll (fun _ => rfl : ∀ record, (markClaimed now record).id = record.id) findByIds_nodup
    fun record member => (mem_findByIds.mp member).1).trans (List.map_congr_left fun record member => ?_)
  have named : record.id ∈ (findByIds tracking yieldIds).map (·.id) ↔ record.id ∈ yieldIds := by
    constructor
    · intro listed
      obtain ⟨other, found, same⟩ := List.mem_map.mp listed
      exact same ▸ (mem_findByIds.mp found).2
    · exact fun listed => List.mem_map_of_mem (mem_findByIds.mpr ⟨member, listed⟩)
  simp only [named]

/-- What a claim adds to what the records of a position are worth. -/
theorem earned_claims (yields : List DeFiYieldRecord) (owner : String) :
    earned (yields.map fun record => if record.id ∈ yieldIds then markClaimed now record else record) owner =
      earned yields owner + unclaimed (yields.filter fun record => decide (record.id ∈ yieldIds)) owner := by
  induction yields with
  | nil => rfl
  | cons first rest ih =>
    unfold earned unclaimed at ih ⊢
    rw [List.map_cons, List.map_cons, List.sum_cons, ih, List.map_cons, List.sum_cons]
    by_cases named : first.id ∈ yieldIds
    · by_cases isOwn : first.positionId = owner <;> cases claimed : first.claimed <;>
        simp [share, markClaimed, named, isOwn, claimed] <;> omega
    · simp [named, add_assoc]

theorem unclaimed_others {records : List DeFiYieldRecord} {owner : String}
    (others : ∀ record ∈ records, record.positionId ≠ owner) : unclaimed records owner = 0 := by
  have none : (records.filter fun record => decide (record.claimed = false ∧ record.positionId = owner)) = [] :=
    List.filter_eq_nil_iff.mpr fun record member => by simpa using fun _ => others record member
  rw [unclaimed, none]
  rfl

end Claims

section Histories
variable {positions : Table DeFiPosition DeFiPosition.id} {history : History}

/-- A new record is not claimed. -/
theorem recordYield_cases (tracking : Tracking) (id positionId : String) (data : YieldData) :
    recordYield tracking id positionId data = tracking ∨ ∃ record : DeFiYieldRecord, record.claimed = false ∧
      (recordYield tracking id positionId data).positions = tracking.positions ∧
      (recordYield tracking id positionId data).yields.rows = tracking.yields.rows ++ [record] := by
  unfold recordYield
  split
  next => exact .inl rfl
  next free =>
    cases stored : newYield id positionId data with
    | none => exact .inl rfl
    | some record =>
      obtain ⟨amount, -, stored⟩ := Option.bind_eq_some_iff.mp stored
      obtain ⟨tokenValue, -, stored⟩ := Option.bind_eq_some_iff.mp stored
      obtain ⟨apy, -, stored⟩ := Option.bind_eq_some_iff.mp stored
      cases stored
      exact .inr ⟨_, rfl, rfl, Table.save_new (by simpa using free)⟩

/-- The positions have grown after a claim exactly when its records add up to nothing for them. -/
theorem grown_iff (holds : ClaimedOnce positions history) (positionId : String) (yieldIds : List String) (now : Nat) :
    (∀ before ∈ positions.rows, ∃ position,
      (claimYield history.tracking positionId yieldIds now).1.positions.findOne before.id = some position ∧
      position.accumulatedYield.units = before.accumulatedYield.units +
        earned (claimYield history.tracking positionId yieldIds now).1.yields.rows before.id) ↔
      ∀ before ∈ positions.rows, unclaimed (findByIds history.tracking yieldIds) before.id = 0 := by
  rw [yields_claimYield]
  simp only [earned_claims, (claimYield_cases history.tracking positionId yieldIds now).1]
  refine forall₂_congr fun before member => ?_
  obtain ⟨old, found, units⟩ := holds.grown before member
  unfold findByIds
  constructor
  · rintro ⟨position, again, grown⟩
    obtain rfl := Option.some.inj (found.symm.trans again)
    omega
  · intro none
    exact ⟨old, found, by rw [none, add_zero, units]⟩

/-- A claim keeps the property exactly when it is harmless. -/
theorem claimedOnce_claimYield (holds : ClaimedOnce positions history) (positionId : String) (yieldIds : List String)
    (now : Nat) : ClaimedOnce positions (step history (.claimYield positionId yieldIds now)) ↔
      Harmless positions history (.claimYield positionId yieldIds now) := by
  have grown := grown_iff holds positionId yieldIds now
  rw [step, Harmless]
  rcases (claimYield_cases history.tracking positionId yieldIds now).2 with
    ⟨result, answered, absent | ⟨isPosition, empty⟩⟩ | ⟨failure, refused, isPosition⟩
  · rw [show claimYield history.tracking positionId yieldIds now = (_, .ok result) from Prod.ext rfl answered, absent]
    constructor
    · intro after record member
      refine ⟨after.own _ (List.mem_append_right _ (List.mem_singleton_self _)) record member, fun again => ?_⟩
      have once := after.once
      simp only [taken, List.flatMap_append, List.map_append, List.flatMap_singleton] at once
      exact (List.disjoint_of_nodup_append once) again (List.mem_map_of_mem member)
    · intro fresh
      refine ⟨?_, ?_, grown.mpr fun before member => unclaimed_others fun record found isOwner => ?_⟩
      · simp only [taken, List.flatMap_append, List.map_append, List.flatMap_singleton]
        refine List.nodup_append'.mpr ⟨holds.once, findByIds_nodup, fun id old new => ?_⟩
        obtain ⟨record, found, rfl⟩ := List.mem_map.mp new
        exact (fresh record found).2 old
      · intro claim member
        rcases List.mem_append.mp member with old | new
        · exact holds.own claim old
        · rw [List.mem_singleton.mp new]
          exact fun record found => (fresh record found).1
      · -- the position would be there
        obtain ⟨position, isPosition, -⟩ := holds.grown before member
        rw [← isOwner, (fresh record found).1, absent] at isPosition
        cases isPosition
  · rw [show claimYield history.tracking positionId yieldIds now = (_, .ok result) from Prod.ext rfl answered,
      if_pos isPosition, ← grown]
    refine ⟨fun after => after.grown, fun grown => ⟨?_, fun claim member => ?_, grown⟩⟩
    · simpa [taken, empty] using holds.once
    · rcases List.mem_append.mp member with old | new
      · exact holds.own claim old
      · rw [List.mem_singleton.mp new, empty]
        exact List.forall_mem_nil _
  · rw [show claimYield history.tracking positionId yieldIds now = (_, .error failure) from Prod.ext rfl refused,
      if_pos isPosition, ← grown]
    exact ⟨fun after => after.grown, fun grown => ⟨holds.once, holds.own, grown⟩⟩

theorem claimedOnce_step (history : History) (call : YieldCall) (holds : ClaimedOnce positions history) :
    ClaimedOnce positions (step history call) ↔ Harmless positions history call := by
  cases call with
  | claimYield positionId yieldIds now => exact claimedOnce_claimYield holds positionId yieldIds now
  | recordYield id positionId data =>
    refine iff_of_true ?_ trivial
    rcases recordYield_cases history.tracking id positionId data with same | ⟨record, unclaimed, same, rows⟩
    · rwa [step, same]
    · refine ⟨holds.once, holds.own, fun before member => ?_⟩
      obtain ⟨position, found, units⟩ := holds.grown before member
      refine ⟨position, by rwa [step, same], ?_⟩
      rw [step, rows, units]
      simp [earned, share, unclaimed]

end Histories

theorem opening_claimedOnce (positions : Table DeFiPosition DeFiPosition.id) :
    ClaimedOnce positions (opening positions) where
  once := List.nodup_nil
  own := List.forall_mem_nil _
  grown before member := ⟨before, Table.findOne_of_mem member, by simp [opening, earned, Table.empty]⟩

/-- Every yield stays claimed at most once, by its own position, which grows by it, exactly when every claim is
harmless. -/
theorem yield_claimed_once_iff (positions : Table DeFiPosition DeFiPosition.id) (calls : List YieldCall) :
    (∀ reached ∈ states step (opening positions) calls, ClaimedOnce positions reached) ↔
      Meets step (Harmless positions) (opening positions) calls :=
  states_iff_meets claimedOnce_step calls (opening positions) (opening_claimedOnce positions)

theorem zero_fits : |(0 : ℤ)| < 10 ^ amountColumn.precision := by norm_num [amountColumn]

/-- A position that has earned nothing yet. -/
def samplePositions : Table DeFiPosition DeFiPosition.id := ⟨[⟨"p1", ⟨0, zero_fits⟩⟩], List.nodup_singleton _⟩

/-- A yield of five, and a claim of it. -/
def claimedFirst : List YieldCall :=
  [.recordYield "y1" "p1" ⟨5, "USDC", 5, none, "interest"⟩, .claimYield "p1" ["y1"] 1]

/-- The record is marked, and the position has not grown. -/
theorem yield_lost : ¬ ∀ reached ∈ states step (opening samplePositions) claimedFirst,
    ClaimedOnce samplePositions reached := by
  intro all
  have last := all _ (final_mem_states step claimedFirst (opening samplePositions))
  obtain ⟨position, found, units⟩ := last.grown ⟨"p1", ⟨0, zero_fits⟩⟩ (List.mem_singleton_self _)
  have unchanged : ((claimedFirst.foldl step (opening samplePositions)).tracking.positions.findOne "p1").map
      (fun position => position.accumulatedYield.units) = some 0 := by decide +kernel
  have worth : earned (claimedFirst.foldl step (opening samplePositions)).tracking.yields.rows "p1" =
      5000000000000000000 := by decide +kernel
  rw [found] at unchanged
  have held : position.accumulatedYield.units = 0 := Option.some.inj unchanged
  rw [held, worth] at units
  exact absurd units (by decide)

end AlianStructure.Guarantees.YieldClaims
