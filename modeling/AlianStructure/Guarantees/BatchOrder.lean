import AlianStructure.Library.MemoryReadings
import AlianStructure.Guarantees.PayloadStore

/-!
# The order of a batch

Source: src/blockchain/oracle/services/submission-batch.service.ts:151-204,455-550. A batch that preserves the order
submits its valid payloads one after the other as the repository returned them, which a query for a set of ids does
in any order. Over all runs, with a database that orders rows as it likes: a batch takes the rows that are valid and
not in flight when it looks, and it submits and reports in the order of its list exactly when these rows came in that
order.
-/
namespace AlianStructure.Guarantees.BatchOrder
open Library.AsyncMethod Library.Interleaving Library.MemoryReadings Library.KeyedTable
open Source Source.Oracle SubmissionBatchService
open PayloadStore (samplePayload sampleConfig)

/-- The rows that a batch was given for its ids. -/
def foundRows (payloadIds : List String) (past : List (Event oracle)) : List SignedPayload :=
  past.flatMap fun event =>
    match event with
    | ⟨.find .validatePayloadsForBatch query, .ok payloads⟩ =>
      if query = ⟨some payloadIds, none, none, none⟩ then payloads else []
    | _ => []

/-- The payloads that were submitted, in order. -/
def handedOver (past : List (Event oracle)) : List String :=
  past.filterMap fun event =>
    match event with
    | ⟨.save payload, _⟩ => if payload.status = .submitted then some payload.id else none
    | _ => none

/-- What passes validation: signed, not expired and not submitted before. -/
def Acceptable (now : Nat) (payload : SignedPayload) : Prop :=
  now ≤ payload.expiresAt ∧ payload.signature ≠ "" ∧ payload.status ≠ .confirmed ∧ payload.status ≠ .submitted

instance (now : Nat) (payload : SignedPayload) : Decidable (Acceptable now payload) :=
  inferInstanceAs (Decidable (_ ∧ _ ∧ _ ∧ _))

/-- The rows that a batch takes, with some found in flight. -/
def taken (now : Nat) (inFlight : List String) (rows : List SignedPayload) : List SignedPayload :=
  rows.filter fun payload => decide (Acceptable now payload ∧ payload.id ∉ inFlight)

/-- A memory that the batch has read between its query and its first submission. -/
def LookedAt (read : Reading oracle) (payloadIds : List String) (rows : List SignedPayload) (memory : OracleMemory) :
    Prop :=
  ∃ past, read past memory ∧ foundRows payloadIds past = rows ∧ handedOver past = []

/-- The time and the ids in flight are those that the batch has found when it looked at its rows. -/
structure Looked (read : Reading oracle) (payloadIds : List String) (rows : List SignedPayload) (now : Nat)
    (inFlight : List String) : Prop where
  clock : rows ≠ [] → ∃ memory, LookedAt read payloadIds rows memory ∧ memory.now = now
  flight : ∀ row ∈ rows, Acceptable now row →
    ∃ memory, LookedAt read payloadIds rows memory ∧ (row.id ∈ inFlight ↔ isInFlight memory row.id = true)

/-- A batch has submitted what it takes of the rows, in their order, and reports on it in this order. -/
def Submitted (read : Reading oracle) (payloadIds : List String) (past : List (Event oracle))
    (results : List SubmissionResult) : Prop :=
  ∃ now inFlight, Looked read payloadIds (foundRows payloadIds past) now inFlight ∧
    handedOver past = (taken now inFlight (foundRows payloadIds past)).map (·.id) ∧
    results.map (·.payloadId) = (taken now inFlight (foundRows payloadIds past)).map (·.id)

/-- No row is found twice. -/
def Found : (op : OracleOp) → Except Exception op.Reply → Prop
  | .find _ _, .ok payloads => (payloads.map (·.id)).Nodup
  | _, _ => True

/-- No memory is excluded, and no call. -/
abbrev batching : Setting oracle := ⟨fun _ => True, fun _ => True, Found⟩

section Programs
variable {read : Reading oracle} {payloadIds : List String} {past : List (Event oracle)}

/-- Nothing was found or submitted since. -/
structure Same (payloadIds : List String) (past after : List (Event oracle)) : Prop where
  found : foundRows payloadIds after = foundRows payloadIds past
  handed : handedOver after = handedOver past

theorem Same.trans {first second third : List (Event oracle)} (earlier : Same payloadIds first second)
    (later : Same payloadIds second third) : Same payloadIds first third :=
  ⟨later.found.trans earlier.found, later.handed.trans earlier.handed⟩

theorem same_refl (payloadIds : List String) (past : List (Event oracle)) : Same payloadIds past past := ⟨rfl, rfl⟩

theorem handedOver_append (past : List (Event oracle)) (event : Event oracle) :
    handedOver (past ++ [event]) = handedOver past ++ handedOver [event] := List.filterMap_append

theorem foundRows_append (payloadIds : List String) (past : List (Event oracle)) (event : Event oracle) :
    foundRows payloadIds (past ++ [event]) = foundRows payloadIds past ++ foundRows payloadIds [event] :=
  List.flatMap_append

theorem same_answer (payloadIds : List String) (past : List (Event oracle)) (event : Event oracle)
    (found : foundRows payloadIds [event] = [])
    (handed : handedOver [event] = []) : Same payloadIds past (past ++ [event]) :=
  ⟨by rw [foundRows_append, found, List.append_nil], by rw [handedOver_append, handed, List.append_nil]⟩

theorem markAsFailed_decides (payloadIds : List String) (payloadId errorMessage : String) (failureType : FailureType) (attemptNumber : Nat) :
    Decides batching read (fun after result => Same payloadIds past after ∧ result = .ok ()) past
      (markAsFailed payloadId errorMessage failureType attemptNumber) := by
  unfold markAsFailed
  refine decides_tryCatch.mpr (decides_bind.mpr fun found _ => ?_)
  have read := same_answer payloadIds past ⟨.findOne .markAsFailed payloadId, found⟩ rfl rfl
  match found with
  | .error failure => exact ⟨read, rfl⟩
  | .ok none => exact ⟨read, rfl⟩
  | .ok (some payload) =>
    refine fun saved _ => ?_
    have wrote := read.trans (same_answer payloadIds (past ++ _) ⟨.save { payload with
      status := .failed, errorMessage := some errorMessage, submissionAttempts := attemptNumber }, saved⟩ rfl rfl)
    match saved with
    | .error failure => exact ⟨wrote, rfl⟩
    | .ok _ => exact ⟨wrote, rfl⟩

variable {rest : List SignedPayload} {payload : SignedPayload} {inFlight : List String}

theorem taken_skipped {now : Nat} (skipped : ¬ (Acceptable now payload ∧ payload.id ∉ inFlight)) :
    taken now inFlight (payload :: rest) = taken now inFlight rest :=
  List.filter_cons_of_neg (by rwa [decide_eq_true_eq])

theorem taken_first {now : Nat} (takes : Acceptable now payload ∧ payload.id ∉ inFlight) :
    taken now inFlight (payload :: rest) = payload :: taken now inFlight rest :=
  List.filter_cons_of_pos (decide_eq_true takes)

theorem taken_other {now : Nat} {id : String} {rows : List SignedPayload} (other : id ∉ rows.map (·.id)) :
    taken now (id :: inFlight) rows = taken now inFlight rows := by
  refine List.filter_congr fun payload member => ?_
  have differs : payload.id ≠ id := fun same => other (List.mem_map.mpr ⟨payload, member, same⟩)
  refine decide_eq_decide.mpr (and_congr_right fun _ => ?_)
  rw [List.mem_cons, not_or, and_iff_right differs]

/-- The rows are taken, except those found in flight. -/
def TakenOf (read : Reading oracle) (payloadIds : List String) (rows : List SignedPayload) (now : Nat)
    (payloads : List SignedPayload) (result : Except Exception (List SignedPayload)) : Prop :=
  ∀ valid, result = .ok valid → ∃ inFlight, inFlight ⊆ payloads.map (·.id) ∧ valid = taken now inFlight payloads ∧
    ∀ row ∈ payloads, Acceptable now row →
      ∃ memory, LookedAt read payloadIds rows memory ∧ (row.id ∈ inFlight ↔ isInFlight memory row.id = true)

variable {rows : List SignedPayload}

theorem takenOf_skipped {now : Nat} {result : Except Exception (List SignedPayload)}
    (unacceptable : ¬ Acceptable now payload) (ended : TakenOf read payloadIds rows now rest result) :
    TakenOf read payloadIds rows now (payload :: rest) result := by
  intro valid isOk
  obtain ⟨inFlight, among, rfl, looked⟩ := ended valid isOk
  refine ⟨inFlight, fun id member => List.mem_cons_of_mem _ (among member),
    (taken_skipped fun both => unacceptable both.1).symm, fun row member acceptable => ?_⟩
  rcases List.mem_cons.mp member with rfl | later
  · exact absurd acceptable unacceptable
  · exact looked row later acceptable

theorem validateEach_decides (now : Nat) : ∀ (payloads : List SignedPayload) (past : List (Event oracle)),
    (payloads.map (·.id)).Nodup → foundRows payloadIds past = rows → handedOver past = [] →
    Decides batching read (fun after result => Same payloadIds past after ∧
      TakenOf read payloadIds rows now payloads result) past (validateEach now payloads)
  | [], past, _, _, _ => ⟨same_refl payloadIds past, fun valid isOk => by
      cases isOk
      exact ⟨[], List.Subset.refl _, rfl, fun _ member => nomatch member⟩⟩
  | payload :: rest, past, distinct, found, unhanded => by
    obtain ⟨new, distinct⟩ := List.nodup_cons.mp (List.map_cons ▸ distinct)
    have skips : ∀ after, Same payloadIds past after → ¬ Acceptable now payload →
        Decides batching read (fun last result => Same payloadIds past last ∧
          TakenOf read payloadIds rows now (payload :: rest) result) after (validateEach now rest) :=
      fun after same unacceptable => decides_mono
        (fun last result ended => ⟨same.trans ended.1, takenOf_skipped unacceptable ended.2⟩)
        (validateEach_decides now rest after distinct (same.found.trans found) (same.handed.trans unhanded))
    have marks : ∀ message, ¬ Acceptable now payload → Decides batching read
        (fun last result => Same payloadIds past last ∧ TakenOf read payloadIds rows now (payload :: rest) result) past
        (do markAsFailed payload.id message .permanent 1; validateEach now rest) := by
      intro message unacceptable
      refine decides_bind.mpr (decides_mono ?_ (markAsFailed_decides payloadIds payload.id message .permanent 1))
      rintro after result ⟨same, rfl⟩
      exact skips after same unacceptable
    unfold validateEach
    split
    next expired => exact marks _ fun acceptable => absurd acceptable.1 (not_le.mpr expired)
    next current =>
      split
      next submitted =>
        exact skips past (same_refl payloadIds past) fun acceptable =>
          submitted.elim acceptable.2.2.1 acceptable.2.2.2
      next unsubmitted =>
        split
        next unsigned => exact marks _ fun acceptable => acceptable.2.1 unsigned
        next signed =>
          have acceptable : Acceptable now payload := ⟨not_lt.mp current, signed,
            fun confirmed => unsubmitted (Or.inl confirmed), fun submitted => unsubmitted (Or.inr submitted)⟩
          refine decides_memory_then fun memory _ isRead => ?_
          have looked : LookedAt read payloadIds rows memory := ⟨past, isRead, found, unhanded⟩
          have others := validateEach_decides now rest past distinct found unhanded
          split
          next flying =>
            refine decides_mono ?_ others
            rintro last result ⟨same, ended⟩
            refine ⟨same, fun valid isOk => ?_⟩
            obtain ⟨inFlight, among, rfl, looks⟩ := ended valid isOk
            refine ⟨payload.id :: inFlight, List.cons_subset_cons _ among, ?_, fun row member acceptable => ?_⟩
            · rw [taken_skipped fun both => both.2 List.mem_cons_self, taken_other new]
            · rcases List.mem_cons.mp member with rfl | later
              · exact ⟨memory, looked, iff_of_true List.mem_cons_self flying⟩
              · obtain ⟨seen, isSeen, same⟩ := looks row later acceptable
                have differs : row.id ≠ payload.id := fun equal => new (List.mem_map.mpr ⟨row, later, equal⟩)
                refine ⟨seen, isSeen, ?_⟩
                rw [← same, List.mem_cons, or_iff_right differs]
          next landed =>
            refine decides_bind.mpr fun _ _ _ => ⟨trivial, decides_bind.mpr (decides_mono ?_ others)⟩
            rintro after result ⟨same, ended⟩
            cases result with
            | error failure => exact ⟨same, fun valid isOk => (nomatch isOk)⟩
            | ok others =>
              obtain ⟨inFlight, among, rfl, looks⟩ := ended others rfl
              refine ⟨same, fun valid isOk => ?_⟩
              cases isOk
              refine ⟨inFlight, fun id member => List.mem_cons_of_mem _ (among member), ?_,
                fun row member acceptable => ?_⟩
              · exact (taken_first ⟨acceptable, fun member => new (among member)⟩).symm
              · rcases List.mem_cons.mp member with rfl | later
                · exact ⟨memory, looked, iff_of_false (fun member => new (among member)) landed⟩
                · exact looks row later acceptable

theorem submitPayload_decides (payloadIds : List String) (payload : SignedPayload) :
    Decides batching read (fun after _ => foundRows payloadIds after = foundRows payloadIds past ∧
      handedOver after = handedOver past ++ [payload.id]) past (submitPayload payload) := by
  unfold submitPayload
  refine decides_memory_then fun memory _ _ => decides_bind.mpr fun saved _ => ?_
  have wrote : foundRows payloadIds (past ++ [(⟨.save _, saved⟩ : Event oracle)]) = foundRows payloadIds past := by
    rw [foundRows_append]
    exact List.append_nil _
  match saved with
  | .error failure => exact ⟨wrote, handedOver_append _ _⟩
  | .ok _ => exact ⟨wrote, handedOver_append _ _⟩

theorem processSequentially_decides (payloadIds : List String) : ∀ (payloads : List SignedPayload) (past : List (Event oracle)),
    Decides batching read (fun after result => foundRows payloadIds after = foundRows payloadIds past ∧
      ∀ results, result = .ok results → handedOver after = handedOver past ++ payloads.map (·.id) ∧
        results.map (·.payloadId) = payloads.map (·.id)) past (processSequentially payloads)
  | [], past => ⟨rfl, fun results isOk => by
      cases isOk
      exact ⟨(List.append_nil _).symm, rfl⟩⟩
  | payload :: rest, past => by
    have goesOn : ∀ (after : List (Event oracle)) (record : SubmissionResult), record.payloadId = payload.id →
        foundRows payloadIds after = foundRows payloadIds past →
        handedOver after = handedOver past ++ [payload.id] →
        Decides batching read (fun last result => foundRows payloadIds last = foundRows payloadIds past ∧
          ∀ results, result = .ok results → handedOver last = handedOver past ++ (payload :: rest).map (·.id) ∧
            results.map (·.payloadId) = (payload :: rest).map (·.id)) after
          (do sleep 100; let others ← processSequentially rest; pure (record :: others)) := by
      intro after record named found handed
      refine decides_bind.mpr fun slept _ => ?_
      have waited := same_answer payloadIds after ⟨.sleep 100, slept⟩ rfl rfl
      match slept with
      | .error failure => exact ⟨waited.found.trans found, fun _ isOk => (nomatch isOk)⟩
      | .ok _ =>
        refine decides_bind.mpr (decides_mono ?_ (processSequentially_decides payloadIds rest _))
        rintro last result ⟨lastFound, ended⟩
        cases result with
        | error failure => exact ⟨(lastFound.trans waited.found).trans found, fun _ isOk => (nomatch isOk)⟩
        | ok others =>
          obtain ⟨lastHanded, lastNamed⟩ := ended others rfl
          refine ⟨(lastFound.trans waited.found).trans found, fun results isOk => ?_⟩
          cases isOk
          rw [lastHanded, waited.handed, handed, List.append_assoc, List.map_cons, List.map_cons, lastNamed, named]
          exact ⟨rfl, rfl⟩
    unfold processSequentially
    refine decides_bind.mpr (decides_outcome.mpr (decides_mono ?_ (submitPayload_decides payloadIds payload)))
    rintro after result ⟨found, handed⟩
    cases result with
    | ok transactionHash => exact goesOn after _ rfl found handed
    | error failure =>
      refine decides_bind.mpr (decides_mono ?_ (markAsFailed_decides payloadIds payload.id failure.message _ 1))
      rintro marked outcome ⟨same, rfl⟩
      exact goesOn marked _ rfl (same.found.trans found) (same.handed.trans handed)

theorem validatePayloadsForBatch_decides (unhanded : handedOver past = []) (unfound : foundRows payloadIds past = []) :
    Decides batching read (fun after result => handedOver after = [] ∧ ∀ valid, result = .ok valid →
      ∃ now inFlight, Looked read payloadIds (foundRows payloadIds after) now inFlight ∧
        valid = taken now inFlight (foundRows payloadIds after)) past (validatePayloadsForBatch payloadIds) := by
  unfold validatePayloadsForBatch
  split
  next =>
    refine ⟨unhanded, fun valid isOk => ⟨0, [], ?_⟩⟩
    cases isOk
    rw [unfound]
    exact ⟨⟨fun some => absurd rfl some, fun _ member => nomatch member⟩, rfl⟩
  next =>
    refine decides_bind.mpr fun rows distinct => ?_
    have still : handedOver (past ++ [⟨.find .validatePayloadsForBatch ⟨some payloadIds, none, none, none⟩, rows⟩]) = [] := by
      rw [handedOver_append, unhanded]
      rfl
    match rows with
    | .error failure => exact ⟨still, fun valid isOk => (nomatch isOk)⟩
    | .ok payloads =>
      have found : foundRows payloadIds
          (past ++ [⟨.find .validatePayloadsForBatch ⟨some payloadIds, none, none, none⟩, .ok payloads⟩]) = payloads := by
        rw [foundRows_append, unfound]
        simp [foundRows]
      refine fun memory _ isRead => decides_mono ?_
        (validateEach_decides memory.now payloads _ distinct found still)
      rintro after result ⟨same, ended⟩
      refine ⟨same.handed.trans still, fun valid isOk => ?_⟩
      obtain ⟨inFlight, _, rfl, looked⟩ := ended valid isOk
      rw [same.found.trans found]
      exact ⟨memory.now, inFlight, ⟨fun _ => ⟨memory, ⟨_, isRead, found, still⟩, rfl⟩, looked⟩, rfl⟩

theorem clearAllInFlight_decides : ∀ (payloads : List String) (past : List (Event oracle)),
    Decides batching read (fun after result => after = past ∧ result = .ok ()) past (clearAllInFlight payloads)
  | [], _ => ⟨rfl, rfl⟩
  | _ :: rest, past => fun _ _ _ => ⟨trivial, clearAllInFlight_decides rest past⟩

/-- A batch that preserves the order submits and reports in the order of the rows. -/
theorem processBatch_decides (config : BatchConfig) (inOrder : config.preserveOrder = true)
    (batchId : Option String) : Decides batching read (fun after result => ∀ batch, result = .ok batch →
      Submitted read payloadIds after batch.results) [] (processBatch config payloadIds batchId) := by
  unfold processBatch
  refine decides_memory_then fun started _ _ => ?_
  dsimp only
  refine decides_bind.mpr (decides_mono ?_ (validatePayloadsForBatch_decides rfl rfl))
  rintro after result ⟨unhanded, ended⟩
  cases result with
  | error failure => exact fun batch isOk => (nomatch isOk)
  | ok valid =>
    obtain ⟨now, inFlight, looked, selected⟩ := ended valid rfl
    simp only [Async.onOk]
    split
    next empty =>
      intro memory _ _ batch isOk
      cases isOk
      refine ⟨now, inFlight, looked, ?_, ?_⟩
      · rw [unhanded, ← selected, empty]
        rfl
      · rw [← selected, empty]
        rfl
    next =>
      refine decides_bind.mpr (decides_mono ?_ (processSequentially_decides payloadIds valid after))
      rintro last outcome ⟨found, reported⟩
      cases outcome with
      | error failure => exact fun batch isOk => (nomatch isOk)
      | ok results =>
        obtain ⟨handed, named⟩ := reported results rfl
        rw [unhanded, List.nil_append] at handed
        refine decides_bind.mpr (decides_mono ?_ (clearAllInFlight_decides _ last))
        rintro cleared cleaned ⟨rfl, rfl⟩
        intro memory _ _ batch isOk
        cases isOk
        refine ⟨now, inFlight, found ▸ looked, ?_, ?_⟩
        · rw [handed, found, ← selected]
        · rw [found, ← selected]
          exact named

end Programs

/-- A query that asks for no order is answered in any. -/
def anyOrder (world : OracleWorld) (op : OracleOp) (choice : Outcome × List SignedPayload) :
    Option (OracleWorld × Except Exception op.Reply) :=
  match op, choice with
  | .find site query, (.done, rows) =>
    if query.order = none ∧ query.take = none then
      if rows.Perm (query.run world.payloads.rows) then some (world, .ok rows) else none
    else world.respond (.find site query) .done
  | op, (outcome, _) => world.respond op outcome

/-- The oracle process over a database that orders rows as it likes. -/
abbrev unorderedProcess (config : OracleConfig) (offers : OracleCall → Bool) : Service oracle :=
  { oracleProcess config offers with Choice := Outcome × List SignedPayload, respond := anyOrder }

theorem respond_found {world after : OracleWorld} {op : OracleOp} {outcome : Outcome}
    {result : Except Exception op.Reply} (responds : world.respond op outcome = some (after, result)) :
    Found op result := by
  cases op with
  | find site query =>
    cases result with
    | error failure => trivial
    | ok payloads =>
      cases outcome <;> simp only [OracleWorld.respond, Option.some.injEq, Prod.mk.injEq, Except.ok.injEq,
        reduceCtorEq, and_false] at responds
      obtain ⟨_, rfl⟩ := responds
      exact PayloadStore.run_nodup world.payloads.unique
  | _ => trivial

theorem anyOrder_found {world after : OracleWorld} {op : OracleOp} {choice : Outcome × List SignedPayload}
    {result : Except Exception op.Reply} (responds : anyOrder world op choice = some (after, result)) :
    Found op result := by
  unfold anyOrder at responds
  split at responds
  next site query rows =>
    split at responds
    next =>
      split at responds
      next reordered =>
        cases responds
        exact (reordered.map _).nodup_iff.mpr (PayloadStore.run_nodup world.payloads.unique)
      next => cases responds
    next => exact respond_found responds
  next => exact respond_found responds

/-- In every run a batch submits the rows that it takes when it looks at them, and it does so and reports in the order
of its list exactly when these rows came in that order. -/
theorem batch_ordered_iff (config : OracleConfig) (offers : OracleCall → Bool) (inOrder : config.batch.preserveOrder = true)
    {world : OracleWorld} {memory : OracleMemory} {labels : List (Label (unorderedProcess config offers))}
    {after : Config (unorderedProcess config offers)}
    (ran : run labels (Config.initial (unorderedProcess config offers) world memory) = some after) {i : Nat}
    {task : Task oracle} (found : after.pool[i]? = some task) {payloadIds : List String}
    {batchId : Option String} (called : task.call = .processBatch payloadIds batchId) {batch : BatchSubmissionResult}
    (ended : task.result = some (.ok (.batch batch))) :
    ∃ now inFlight, Looked (ReadIn labels (Config.initial (unorderedProcess config offers) world memory) i) payloadIds
        (foundRows payloadIds task.past) now inFlight ∧
      (handedOver task.past).Perm ((taken now inFlight (foundRows payloadIds task.past)).map (·.id)) ∧
      (batch.results.map (·.payloadId)).Perm ((taken now inFlight (foundRows payloadIds task.past)).map (·.id)) ∧
      ((handedOver task.past).Sublist payloadIds ∧ (batch.results.map (·.payloadId)).Sublist payloadIds ↔
        ((taken now inFlight (foundRows payloadIds task.past)).map (·.id)).Sublist payloadIds) := by
  have bodies : ∀ i call, (unorderedProcess config offers).isPublic call = true ∨ batching.starts call →
      Decides batching (ReadIn labels (Config.initial (unorderedProcess config offers) world memory) i)
        (fun past result => call = .processBatch payloadIds batchId → ∀ batch, result = .ok (.batch batch) →
          Submitted (ReadIn labels (Config.initial (unorderedProcess config offers) world memory) i) payloadIds past
            batch.results) [] ((unorderedProcess config offers).body call) := by
    intro i call _
    by_cases isBatch : call = .processBatch payloadIds batchId
    · subst isBatch
      refine decides_bind.mpr (decides_mono ?_ (processBatch_decides config.batch inOrder batchId))
      intro past result submitted
      cases result with
      | error failure => exact fun _ _ isOk => (nomatch isOk)
      | ok batch =>
        rintro _ _ isOk
        cases isOk
        exact submitted batch rfl
    · exact decides_free (fun _ => trivial) (fun _ => trivial) fun _ _ same => absurd same isBatch
  obtain ⟨now, inFlight, looked, handed, named⟩ := decides_in_run (fun _ _ _ _ => trivial)
    (fun _ _ _ _ _ responds => anyOrder_found responds) bodies trivial ran found ended called batch rfl
  refine ⟨now, inFlight, looked, List.Perm.of_eq handed, List.Perm.of_eq named, ?_⟩
  rw [handed, named, and_self]

def payload (id : String) : SignedPayload := { samplePayload with id }

/-- A table with the payloads "a" and "b". -/
def twoPayloads : Config (unorderedProcess sampleConfig fun _ => true) :=
  Config.initial _ ⟨0, Table.empty.saveAll [payload "a", payload "b"], []⟩ ⟨0, "", []⟩

/-- A batch of "a" and "b", whose rows come in some order. -/
def batchOf (rows : List SignedPayload) : List (Label (unorderedProcess sampleConfig fun _ => true)) :=
  [.call (.processBatch ["a", "b"] (some "batch")), .resume 0, .reply 0 (.done, rows), .resume 0] ++
    (List.replicate 4 [.reply 0 (.done, []), .resume 0]).flatten

/-- The report on payloads that were submitted at time 0. -/
def reportOn (ids : List String) : BatchSubmissionResult :=
  summary "batch" (ids.map fun id => succeeded id "0x0" 1) ids.length 0

/-- A finished batch of "a" and "b". -/
def Reports (ids : List String) (after : Config (unorderedProcess sampleConfig fun _ => true)) : Prop :=
  after.pool.map (fun task => (task.call, handedOver task.past, task.result)) =
    [(.processBatch ["a", "b"] (some "batch"), ids, some (.ok (.batch (reportOn ids))))]

instance (ids : List String) : DecidablePred (Reports ids) := fun _ => inferInstanceAs (Decidable (_ = _))

theorem batched_in_order : ∃ after task now inFlight,
    run (batchOf [payload "a", payload "b"]) twoPayloads = some after ∧ after.pool[0]? = some task ∧
      handedOver task.past = ["a", "b"] ∧
      Looked (ReadIn (batchOf [payload "a", payload "b"]) twoPayloads 0) ["a", "b"] (foundRows ["a", "b"] task.past) now
        inFlight ∧
      ((taken now inFlight (foundRows ["a", "b"] task.past)).map (·.id)).Sublist ["a", "b"] := by
  obtain ⟨after, ran, reported⟩ := (by decide +kernel : ∃ after,
    run (batchOf [payload "a", payload "b"]) twoPayloads = some after ∧ Reports ["a", "b"] after)
  obtain ⟨task, only, same⟩ := List.map_eq_singleton_iff.mp reported
  obtain ⟨called, same⟩ := Prod.mk.inj same
  obtain ⟨handed, ended⟩ := Prod.mk.inj same
  have found : after.pool[0]? = some task := by rw [only]; rfl
  obtain ⟨now, inFlight, looked, _, _, ordered⟩ :=
    batch_ordered_iff sampleConfig (fun _ => true) rfl ran found called ended
  refine ⟨after, task, now, inFlight, ran, found, handed, looked, ordered.mp ⟨?_, by decide⟩⟩
  rw [handed]

/-- The database returns "b" before "a", and so they are submitted and reported. -/
theorem batch_reordered : ¬ ∀ (config : OracleConfig) (offers : OracleCall → Bool), config.batch.preserveOrder = true →
    ∀ (world : OracleWorld) (memory : OracleMemory) (labels : List (Label (unorderedProcess config offers)))
      (after : Config (unorderedProcess config offers)),
      run labels (Config.initial (unorderedProcess config offers) world memory) = some after →
      ∀ (i : Nat) (task : Task oracle), after.pool[i]? = some task → ∀ payloadIds batchId batch, payloadIds.Nodup →
        task.call = .processBatch payloadIds batchId → task.result = some (.ok (.batch batch)) →
        (handedOver task.past).Sublist payloadIds ∧ (batch.results.map (·.payloadId)).Sublist payloadIds := by
  intro ordered
  obtain ⟨after, ran, reported⟩ := (by decide +kernel : ∃ after,
    run (batchOf [payload "b", payload "a"]) twoPayloads = some after ∧ Reports ["b", "a"] after)
  obtain ⟨task, only, same⟩ := List.map_eq_singleton_iff.mp reported
  obtain ⟨called, same⟩ := Prod.mk.inj same
  obtain ⟨handed, ended⟩ := Prod.mk.inj same
  have found : after.pool[0]? = some task := by rw [only]; rfl
  have inOrder := (ordered sampleConfig _ rfl _ _ _ after ran 0 task found ["a", "b"] (some "batch") _ (by decide)
    called ended).1
  rw [handed] at inOrder
  exact absurd inOrder (by decide)

end AlianStructure.Guarantees.BatchOrder
