import AlianStructure.Guarantees.WalletConduct

/-!
# When an account has two-factor enabled

Source: enhanced-auth.service.ts:245-653. What the history of a run says of the two-factor
records: whose they are, and for every account whether its second factor is on and which
answers have been given since it was turned on. The records of the database agree with
it in every state.
-/
namespace AlianStructure.Guarantees.TwoFactorHistory
open Library.Interleaving Library.CallJournal Library.KeyedTable
open Source Source.Auth AuthCalls AccountConduct WalletConduct

/-- The owners of the records, and the answers since an account's second factor was turned
on, this one included; none when it is off. -/
structure Factors where
  owner : String → Option String
  since : String → Option (List (Record auth))

def Factors.empty : Factors := ⟨fun _ => none, fun _ => none⟩

/-- An answer while second factors are on. -/
def Factors.grow (factors : Factors) (record : Record auth) : Factors :=
  { factors with since := fun userId => (factors.since userId).map (· ++ [record]) }

def Factors.own (factors : Factors) (id userId : String) : Factors :=
  { factors with owner := fun other => if other = id then some userId else factors.owner other }

def Factors.turnOn (factors : Factors) (userId : String) (record : Record auth) : Factors :=
  { factors with
    since := fun other =>
      if other = userId then some ((factors.since userId).getD [record])
      else factors.since other }

def Factors.turnOff (factors : Factors) (userId : String) : Factors :=
  { factors with since := fun other => if other = userId then none else factors.since other }

section Fields
variable (factors : Factors) (record : Record auth) (id userId other : String)

@[simp] theorem Factors.grow_owner : (factors.grow record).owner = factors.owner := rfl

@[simp] theorem Factors.grow_since :
    (factors.grow record).since userId = (factors.since userId).map (· ++ [record]) := rfl

@[simp] theorem Factors.own_owner :
    (factors.own id userId).owner other = if other = id then some userId else factors.owner other :=
  rfl

@[simp] theorem Factors.own_since : (factors.own id userId).since = factors.since := rfl

@[simp] theorem Factors.turnOn_owner : (factors.turnOn userId record).owner = factors.owner := rfl

@[simp] theorem Factors.turnOn_since : (factors.turnOn userId record).since other =
    if other = userId then some ((factors.since userId).getD [record]) else factors.since other :=
  rfl

@[simp] theorem Factors.turnOff_owner : (factors.turnOff userId).owner = factors.owner := rfl

@[simp] theorem Factors.turnOff_since : (factors.turnOff userId).since other =
    if other = userId then none else factors.since other := rfl

end Fields

/-- Enabling a record turns its owner's second factor on, and so does saving a record, which
only a code check or new backup codes do, for an enabled one. -/
def Factors.record (factors : Factors) (record : Record auth) : Factors :=
  match record.event with
  | ⟨.insertTwoFactor row, .ok id⟩ => (factors.grow record).own id row.userId
  | ⟨.enableTwoFactor id _, .ok true⟩ =>
    match factors.owner id with
    | some userId => (factors.grow record).turnOn userId record
    | none => factors.grow record
  | ⟨.saveTwoFactor row, .ok _⟩ => (factors.grow record).turnOn row.userId record
  | ⟨.disableTwoFactor userId, .ok _⟩ => (factors.grow record).turnOff userId
  | _ => factors.grow record

def factorsOf (records : List (Record auth)) : Factors := records.foldl Factors.record Factors.empty

theorem factorsOf_append (records : List (Record auth)) (record : Record auth) :
    factorsOf (records ++ [record]) = (factorsOf records).record record := by
  simp [factorsOf]

/-- The answers since the second factor of an account was turned on. -/
def sinceEnabled (records : List (Record auth)) (userId : String) : Option (List (Record auth)) :=
  (factorsOf records).since userId

/-- isTwoFactorEnabled, of a database. -/
def enabledIn (world : AuthWorld) (userId : String) : Prop :=
  (world.twoFactors.rows.find? (TwoFactorQuery.enabled userId).selects).isSome = true

variable {world : AuthWorld}

theorem enabledIn_iff {userId : String} : enabledIn world userId ↔
    ∃ row ∈ world.twoFactors.rows, row.userId = userId ∧ row.isEnabled = true := by
  unfold enabledIn
  rw [List.find?_isSome]
  simp [TwoFactorQuery.selects]

structure Factored (world : AuthWorld) (records : List (Record auth)) : Prop where
  owned : ∀ row ∈ world.twoFactors.rows, (factorsOf records).owner row.id = some row.userId
  /-- A record that a call has found stays its owner's. -/
  found : ∀ (index : Nat) (call : AuthCall) (query : TwoFactorQuery) (row : TwoFactorAuth),
    ⟨index, call, ⟨.findTwoFactor query, .ok (some row)⟩⟩ ∈ records →
    (factorsOf records).owner row.id = some row.userId
  /-- Every id that was given is that of a record, or retired. -/
  given : ∀ id, (factorsOf records).owner id ≠ none →
    id ∈ world.twoFactors.rows.map (·.id) ∨ id ∈ world.retired
  enabled : ∀ userId, (sinceEnabled records userId).isSome = true ↔ enabledIn world userId

theorem respond_findTwoFactor {libraries : AuthLibraries} {world world' : AuthWorld}
    {outcome : AuthOutcome} {query : TwoFactorQuery} {row : TwoFactorAuth}
    (responds : world.respond libraries (.findTwoFactor query) outcome =
      some (world', .ok (some row))) : row ∈ world.twoFactors.rows := by
  cases outcome with
  | done =>
    have answer := Except.ok.inj (congrArg Prod.snd (Option.some.inj responds))
    exact List.mem_of_find?_eq_some answer
  | made text => cases responds
  | fails failure => cases responds

section Answers
variable {world world' : AuthWorld} {records : List (Record auth)} {index : Nat} {call : AuthCall}

/-- An operation that does not write two-factor records only makes the histories grow. -/
theorem record_silent {op : AuthOp} {result : Except Exception op.Reply} (factors : Factors)
    (silent : writesTwoFactors op = false) :
    factors.record ⟨index, call, ⟨op, result⟩⟩ = factors.grow ⟨index, call, ⟨op, result⟩⟩ := by
  cases op with
  | insertTwoFactor _ | saveTwoFactor _ | enableTwoFactor _ _ | disableTwoFactor _ => cases silent
  | _ => rfl

theorem record_failed {op : AuthOp} (failure : Exception) (factors : Factors) :
    factors.record ⟨index, call, ⟨op, .error failure⟩⟩ =
      factors.grow ⟨index, call, ⟨op, .error failure⟩⟩ := by cases op <;> rfl

theorem Factored.same {event : Event auth} (factored : Factored world records)
    (rows : world'.twoFactors.rows = world.twoFactors.rows) (retired : world'.retired = world.retired)
    (grows : (factorsOf records).record ⟨index, call, event⟩ = (factorsOf records).grow ⟨index, call, event⟩)
    (finds : ∀ query row, event = ⟨.findTwoFactor query, .ok (some row)⟩ → row ∈ world.twoFactors.rows) :
    Factored world' (records ++ [⟨index, call, event⟩]) where
  owned row member := by
    rw [factorsOf_append, grows]
    exact factored.owned row (rows ▸ member)
  found i caller query row member := by
    rw [factorsOf_append, grows]
    rcases List.mem_append.mp member with before | now
    · exact factored.found i caller query row before
    · have same := List.mem_singleton.mp now
      simp only [Record.mk.injEq] at same
      exact factored.owned row (finds query row same.2.2.symm)
  given id owner := by
    rw [factorsOf_append, grows] at owner
    rw [rows, retired]
    exact factored.given id owner
  enabled userId := by
    have before := factored.enabled userId
    unfold sinceEnabled at before ⊢
    rw [factorsOf_append, grows, enabledIn, rows]
    simp only [Factors.grow, Option.isSome_map]
    exact before

/-- An answer other than a find, by what it does to the histories and the records. -/
theorem Factored.step {event : Event auth} {factors : Factors} (factored : Factored world records)
    (after : (factorsOf records).record ⟨index, call, event⟩ = factors)
    (other : ∀ query row, event ≠ ⟨.findTwoFactor query, .ok (some row)⟩)
    (keeps : ∀ id userId, (factorsOf records).owner id = some userId → factors.owner id = some userId)
    (owned : ∀ row ∈ world'.twoFactors.rows, factors.owner row.id = some row.userId)
    (given : ∀ id, factors.owner id ≠ none → id ∈ world'.twoFactors.rows.map (·.id) ∨ id ∈ world'.retired)
    (enabled : ∀ userId, (factors.since userId).isSome = true ↔
      ∃ row ∈ world'.twoFactors.rows, row.userId = userId ∧ row.isEnabled = true) :
    Factored world' (records ++ [⟨index, call, event⟩]) := by
  have factorsAfter : factorsOf (records ++ [⟨index, call, event⟩]) = factors := by
    rw [factorsOf_append, after]
  refine ⟨?_, fun i caller query row member => ?_, ?_, fun userId => ?_⟩
  · rw [factorsAfter]
    exact owned
  · rw [factorsAfter]
    rcases List.mem_append.mp member with before | now
    · exact keeps _ _ (factored.found i caller query row before)
    · have same := List.mem_singleton.mp now
      simp only [Record.mk.injEq] at same
      exact absurd same.2.2.symm (other query row)
  · rw [factorsAfter]
    exact given
  · rw [sinceEnabled, factorsAfter, enabledIn_iff]
    exact enabled userId

theorem Factored.on_iff (factored : Factored world records) (userId : String) :
    ((factorsOf records).since userId).isSome = true ↔
      ∃ row ∈ world.twoFactors.rows, row.userId = userId ∧ row.isEnabled = true :=
  (factored.enabled userId).trans enabledIn_iff

theorem Factored.insert {row : TwoFactorAuth} {id : String} (factored : Factored world records)
    (off : row.isEnabled = false) (new : world.twoFactors.findOne id = none) (unused : id ∉ world.retired) :
    Factored { world with twoFactors := world.twoFactors.save { row with id := id } }
      (records ++ [⟨index, call, ⟨.insertTwoFactor row, .ok id⟩⟩]) := by
  have absent : id ∉ world.twoFactors.rows.map (·.id) := Table.findOne_eq_none.mp new
  have unowned : (factorsOf records).owner id = none := by
    by_contra owned
    rcases factored.given id owned with listed | retired
    · exact absent listed
    · exact unused retired
  have keeps : ∀ other userId, (factorsOf records).owner other = some userId →
      (((factorsOf records).grow ⟨index, call, ⟨.insertTwoFactor row, .ok id⟩⟩).own id
        row.userId).owner other = some userId := by
    intro other userId owned
    have differs : other ≠ id := fun same => by rw [same, unowned] at owned; cases owned
    simp [differs, owned]
  have after : (factorsOf records).record ⟨index, call, ⟨.insertTwoFactor row, .ok id⟩⟩ =
      ((factorsOf records).grow ⟨index, call, ⟨.insertTwoFactor row, .ok id⟩⟩).own id row.userId :=
    rfl
  refine factored.step after (by simp) keeps (fun stored member => ?_) (fun other owner => ?_)
    fun userId => ?_
  · rcases Table.mem_save.mp member with rfl | ⟨old, _⟩
    · simp
    · exact keeps _ _ (factored.owned stored old)
  · by_cases same : other = id
    · exact Or.inl (List.mem_map.mpr ⟨_, Table.mem_save.mpr (Or.inl rfl), same.symm⟩)
    · have before : (factorsOf records).owner other ≠ none := by simpa [same] using owner
      rcases factored.given other before with listed | retired
      · obtain ⟨stored, member, named⟩ := List.mem_map.mp listed
        refine Or.inl (List.mem_map.mpr ⟨stored, Table.mem_save.mpr (Or.inr ⟨member, ?_⟩), named⟩)
        exact fun equal => same (named.symm.trans equal)
      · exact Or.inr retired
  · simp only [Factors.own_since, Factors.grow_since, Option.isSome_map, factored.on_iff]
    constructor
    · rintro ⟨stored, member, owner, on⟩
      refine ⟨stored, Table.mem_save.mpr (Or.inr ⟨member, fun equal => ?_⟩), owner, on⟩
      exact absent (List.mem_map.mpr ⟨stored, member, equal⟩)
    · rintro ⟨stored, member, owner, on⟩
      rcases Table.mem_save.mp member with rfl | ⟨old, _⟩
      · rw [off] at on
        cases on
      · exact ⟨stored, old, owner, on⟩

theorem Factored.save {row : TwoFactorAuth} (factored : Factored world records)
    (on : row.isEnabled = true) (owner : (factorsOf records).owner row.id = some row.userId) :
    Factored { world with twoFactors := world.twoFactors.save row }
      (records ++ [⟨index, call, ⟨.saveTwoFactor row, .ok ()⟩⟩]) := by
  have after : (factorsOf records).record ⟨index, call, ⟨.saveTwoFactor row, .ok ()⟩⟩ =
      ((factorsOf records).grow ⟨index, call, ⟨.saveTwoFactor row, .ok ()⟩⟩).turnOn row.userId
        ⟨index, call, ⟨.saveTwoFactor row, .ok ()⟩⟩ := rfl
  refine factored.step after (by simp) (fun _ _ owned => owned) (fun stored member => ?_)
    (fun id owned => ?_) fun userId => ?_
  · rcases Table.mem_save.mp member with rfl | ⟨old, _⟩
    · exact owner
    · exact factored.owned stored old
  · rcases factored.given id owned with listed | retired
    · obtain ⟨stored, member, named⟩ := List.mem_map.mp listed
      by_cases same : stored.id = row.id
      · exact Or.inl (List.mem_map.mpr ⟨row, Table.mem_save.mpr (Or.inl rfl), same.symm.trans named⟩)
      · exact Or.inl (List.mem_map.mpr ⟨stored, Table.mem_save.mpr (Or.inr ⟨member, same⟩), named⟩)
    · exact Or.inr retired
  · simp only [Factors.turnOn_since]
    split
    next same =>
      simp only [Option.isSome_some, true_iff]
      exact ⟨row, Table.mem_save.mpr (Or.inl rfl), same.symm, on⟩
    next differs =>
      simp only [Factors.grow_since, Option.isSome_map, factored.on_iff]
      constructor
      · rintro ⟨stored, member, account, enabled⟩
        refine ⟨stored, Table.mem_save.mpr (Or.inr ⟨member, fun equal => ?_⟩), account, enabled⟩
        have owned := factored.owned stored member
        rw [equal, owner] at owned
        exact differs (account.symm.trans (Option.some.inj owned).symm)
      · rintro ⟨stored, member, account, enabled⟩
        rcases Table.mem_save.mp member with rfl | ⟨old, _⟩
        · exact absurd account.symm differs
        · exact ⟨stored, old, account, enabled⟩

theorem mem_changed_ids {rows : List TwoFactorAuth} {condition : TwoFactorAuth → Bool}
    {change : TwoFactorAuth → TwoFactorAuth} (same : ∀ row, (change row).id = row.id) {id : String}
    (listed : id ∈ rows.map (·.id)) :
    id ∈ (rows.map fun row => if condition row then change row else row).map (·.id) := by
  obtain ⟨row, member, rfl⟩ := List.mem_map.mp listed
  refine List.mem_map.mpr ⟨_, List.mem_map_of_mem member, ?_⟩
  split
  next => exact same row
  next => rfl

theorem Factored.enable {id : String} {verifiedAt : Nat} (factored : Factored world records) : Factored { world with
        twoFactors := world.twoFactors.modify (fun row => decide (row.id = id))
          (·.enable verifiedAt) fun _ => rfl }
      (records ++ [⟨index, call, ⟨.enableTwoFactor id verifiedAt,
        .ok (world.twoFactors.findOne id).isSome⟩⟩]) := by
  cases stored : world.twoFactors.findOne id with
  | none =>
    have absent := Table.findOne_eq_none.mp stored
    refine factored.same ?_ rfl rfl (by simp)
    refine (List.map_congr_left fun row member => ?_).trans (List.map_id _)
    exact if_neg fun same =>
      absent (List.mem_map.mpr ⟨row, member, of_decide_eq_true same⟩)
  | some target =>
    have member := Table.findOne_mem stored
    obtain rfl := Table.findOne_key stored
    have owner := factored.owned target member
    have after : (factorsOf records).record
        ⟨index, call, ⟨.enableTwoFactor target.id verifiedAt, .ok true⟩⟩ =
        ((factorsOf records).grow
          ⟨index, call, ⟨.enableTwoFactor target.id verifiedAt, .ok true⟩⟩).turnOn target.userId
          ⟨index, call, ⟨.enableTwoFactor target.id verifiedAt, .ok true⟩⟩ := by
      simp [Factors.record, owner]
    refine factored.step after (by simp) (fun _ _ owned => owned) (fun row changed => ?_)
      (fun other owned => ?_) fun userId => ?_
    · obtain ⟨old, before, rfl⟩ := List.mem_map.mp changed
      split <;> exact factored.owned old before
    · exact (factored.given other owned).imp_left fun listed => mem_changed_ids (by intro row; rfl) listed
    · simp only [Factors.turnOn_since]
      split
      next same =>
        simp only [Option.isSome_some, true_iff]
        exact ⟨_, List.mem_map.mpr ⟨target, member, if_pos (by simp)⟩, same.symm, rfl⟩
      next differs =>
        have untouched : ∀ row ∈ world.twoFactors.rows, row.userId = userId →
            ¬ decide (row.id = target.id) = true := by
          intro row listed account same
          have owned := factored.owned row listed
          rw [of_decide_eq_true same, owner] at owned
          exact differs (account.symm.trans (Option.some.inj owned).symm)
        simp only [Factors.grow_since, Option.isSome_map, factored.on_iff]
        constructor
        · rintro ⟨row, listed, account, on⟩
          exact ⟨row, List.mem_map.mpr ⟨row, listed, if_neg (untouched row listed account)⟩,
            account, on⟩
        · rintro ⟨row, changed, account, on⟩
          obtain ⟨old, listed, rfl⟩ := List.mem_map.mp changed
          have account : old.userId = userId := by
            split at account <;> exact account
          rw [if_neg (untouched old listed account)] at on
          exact ⟨old, listed, account, on⟩

theorem Factored.disable {userId : String} (factored : Factored world records) : Factored { world with
        twoFactors := world.twoFactors.modify (fun row => decide (row.userId = userId))
          (·.disable) fun _ => rfl }
      (records ++ [⟨index, call, ⟨.disableTwoFactor userId, .ok ()⟩⟩]) := by
  have after : (factorsOf records).record ⟨index, call, ⟨.disableTwoFactor userId, .ok ()⟩⟩ =
      ((factorsOf records).grow ⟨index, call, ⟨.disableTwoFactor userId, .ok ()⟩⟩).turnOff userId :=
    rfl
  refine factored.step after (by simp) (fun _ _ owned => owned) (fun row changed => ?_)
    (fun id owned => ?_) fun other => ?_
  · obtain ⟨old, before, rfl⟩ := List.mem_map.mp changed
    split <;> exact factored.owned old before
  · exact (factored.given id owned).imp_left fun listed => mem_changed_ids (by intro row; rfl) listed
  · simp only [Factors.turnOff_since]
    split
    next same =>
      simp only [Option.isSome_none, Bool.false_eq_true, false_iff]
      rintro ⟨row, changed, account, on⟩
      obtain ⟨old, listed, rfl⟩ := List.mem_map.mp changed
      split at on
      next => cases on
      next kept =>
        rw [if_neg kept] at account
        exact kept (decide_eq_true (account.trans same))
    next differs =>
      simp only [Factors.grow_since, Option.isSome_map, factored.on_iff]
      constructor
      · rintro ⟨row, listed, account, on⟩
        refine ⟨row, List.mem_map.mpr ⟨row, listed, if_neg fun same => ?_⟩, account, on⟩
        exact differs (account.symm.trans (of_decide_eq_true same))
      · rintro ⟨row, changed, account, on⟩
        obtain ⟨old, listed, rfl⟩ := List.mem_map.mp changed
        split at on
        next => cases on
        next kept =>
          rw [if_neg kept] at account
          exact ⟨old, listed, account, on⟩

theorem Factored.delete {userId : String} (factored : Factored world records) : Factored { world with
        twoFactors := world.twoFactors.delete (TwoFactorAuth.stale userId)
        retired := world.retired ++
          (world.twoFactors.rows.filter (TwoFactorAuth.stale userId)).map (·.id) }
      (records ++ [⟨index, call, ⟨.deleteTwoFactor userId, .ok ()⟩⟩]) := by
  have after : (factorsOf records).record ⟨index, call, ⟨.deleteTwoFactor userId, .ok ()⟩⟩ =
      (factorsOf records).grow ⟨index, call, ⟨.deleteTwoFactor userId, .ok ()⟩⟩ := rfl
  refine factored.step after (by simp) (fun _ _ owned => owned) (fun row kept => ?_)
    (fun id owned => ?_) fun other => ?_
  · exact factored.owned row (List.mem_filter.mp kept).1
  · rcases factored.given id owned with listed | retired
    · obtain ⟨row, member, named⟩ := List.mem_map.mp listed
      cases gone : TwoFactorAuth.stale userId row with
      | true =>
        refine Or.inr (List.mem_append_right _ (List.mem_map.mpr ⟨row, ?_, named⟩))
        exact List.mem_filter.mpr ⟨member, gone⟩
      | false =>
        refine Or.inl (List.mem_map.mpr ⟨row, List.mem_filter.mpr ⟨member, ?_⟩, named⟩)
        simp [gone]
    · exact Or.inr (List.mem_append_left _ retired)
  · simp only [Factors.grow_since, Option.isSome_map, factored.on_iff]
    constructor
    · rintro ⟨row, member, account, on⟩
      exact ⟨row, List.mem_filter.mpr ⟨member, by simp [TwoFactorAuth.stale, on]⟩, account, on⟩
    · rintro ⟨row, kept, account, on⟩
      exact ⟨row, (List.mem_filter.mp kept).1, account, on⟩

end Answers

theorem factored_preserved (config : AuthConfig) (offers : AuthCall → Bool) :
    Preserves (conduct config.libraries) (authProcess config offers) Factored := by
  intro world records index call past op outcome world' result factored answers permitted responds
  by_cases silent : writesTwoFactors op = false
  · obtain ⟨rows, retired⟩ := (respond_frame responds).twoFactors silent
    refine factored.same (congrArg Table.rows rows) retired (record_silent _ silent)
      fun query row finds => ?_
    cases finds
    exact respond_findTwoFactor responds
  · cases outcome with
    | fails failure =>
      obtain ⟨rfl, rfl⟩ := respond_fails responds
      exact factored.same rfl rfl (record_failed failure _) fun _ _ finds => by cases finds
    | done =>
      cases op with
      | saveTwoFactor row =>
        obtain ⟨on, _, old, asked, id, account⟩ := permitted
        cases responds
        refine factored.save on ?_
        rw [← id, ← account]
        exact factored.found _ _ _ _ (answers _ asked)
      | enableTwoFactor id verifiedAt =>
        cases responds
        exact factored.enable
      | disableTwoFactor userId =>
        cases responds
        exact factored.disable
      | deleteTwoFactor userId =>
        cases responds
        exact factored.delete
      | insertTwoFactor row => cases responds
      | _ => exact absurd rfl silent
    | made text =>
      cases op with
      | insertTwoFactor row =>
        obtain ⟨free, replied⟩ := respond_insert responds
        cases replied
        simp only [Bool.or_eq_false_iff, Option.isSome_eq_false_iff, Option.isNone_iff_eq_none,
          decide_eq_false_iff_not] at free
        exact factored.insert permitted.1 free.1 free.2
      | saveTwoFactor _ | enableTwoFactor _ _ | disableTwoFactor _ | deleteTwoFactor _ =>
        cases responds
      | _ => exact absurd rfl silent

theorem factored_initial (unused : world.twoFactors.rows = []) : Factored world [] where
  owned row member := by
    rw [unused] at member
    cases member
  found _ _ _ _ member := by cases member
  given _ owner := absurd rfl owner
  enabled userId := by
    rw [enabledIn_iff, unused]
    simp [sinceEnabled, factorsOf, Factors.empty]

theorem Factored.passed {records : List (Record auth)} (factored : Factored world records)
    (mem : AuthMemory) (ms : Nat) : Factored (authEnvironment (world, mem) ms).1 records :=
  ⟨factored.owned, factored.found, factored.given, factored.enabled⟩

theorem factored_always {config : AuthConfig} {offers : AuthCall → Bool} {mem : AuthMemory}
    (unused : world.twoFactors.rows = []) {labels : List (Label (authProcess config offers))}
    {c : Config (authProcess config offers)}
    (ran : run labels (Config.initial (authProcess config offers) world mem) = some c) :
    Factored c.world (history c) :=
  history_invariant (conduct_conforms config offers) Factored
    (fun _ mem ms _ factored => factored.passed mem ms) (factored_preserved config offers)
    (factored_initial unused) ran

end AlianStructure.Guarantees.TwoFactorHistory
