import AlianStructure.Library.CallProtocol
import AlianStructure.Source.Oracle.NonceManagementService

/-!
# Nonces are issued in commit order

Source: nonce-management.service.ts:33-117,214-268. For a fixed address, in lower case,
a call that increments its nonce either holds the row lock with the value it has read,
or has found no row and goes on to insert one. The invariant counts the committed
transactions: the row holds their number, and the holder of the lock has read it.
-/
namespace AlianStructure.Guarantees.NonceIssuance
open Library.Interleaving Library.CallProtocol Library.KeyedTable
open Source Source.Oracle

/-! ## Stages of a call -/

/-- How far a call is with the nonce of the address; `other` is a call that does not
increment it. -/
inductive Stage where
  | other
  | fresh
  | holding (nonce : Nat)
  | creating
  | committed (nonce : Nat)
  | failed
  deriving DecidableEq

def Stage.start (getAddress : String → Except Exception String) (key : String) :
    NonceCall → Stage
  | .getAndIncrementNonce address =>
    match getAddress address with
    | .ok checksumAddress => if toLowerCase checksumAddress = key then .fresh else .other
    | .error _ => .other
  | _ => .other

/-- The row a transaction stores after it has read the nonce. -/
def stores (key : String) (nonce : Nat) (entity : SubmissionNonce) : Prop :=
  entity.address = key ∧ entity.nonce = nonce + 1

def Stage.allows (key : String) : Stage → NonceOp → Prop
  | .other, .save entity => entity.address = key → entity = ⟨key, 0, none⟩
  | .other, .findOneForUpdate address => address ≠ key
  | .other, .saveInTransaction _ entity => entity.address ≠ key
  | .other, _ => True
  | .fresh, .findOneForUpdate address => address = key
  | .holding nonce, .saveInTransaction loaded entity => loaded = true ∧ stores key nonce entity
  | .creating, .saveInTransaction loaded entity => loaded = false ∧ stores key 0 entity
  | _, _ => False

def Stage.after : Stage → (op : NonceOp) → Except Exception op.Reply → Stage
  | .fresh, .findOneForUpdate _, .ok (some row) => .holding row.nonce
  | .fresh, .findOneForUpdate _, .ok none => .creating
  | .fresh, .findOneForUpdate _, .error _ => .failed
  | .holding nonce, .saveInTransaction _ _, .ok _ => .committed nonce
  | .holding _, .saveInTransaction _ _, .error _ => .failed
  | .creating, .saveInTransaction _ _, .ok _ => .committed 0
  | .creating, .saveInTransaction _ _, .error _ => .failed
  | stage, _, _ => stage

/-- A call whose transaction has committed returns the nonce it has read; one whose
transaction has not fails. -/
def Stage.returns : Stage → Except Exception NonceValue → Prop
  | .other, _ => True
  | .committed nonce, result => result = .ok (.nonce nonce)
  | _, result => ∃ failure, result = .error failure

/-- A row found under an address has that address. -/
def possible : (op : NonceOp) → Except Exception op.Reply → Prop
  | .findOneForUpdate address, .ok (some row) => row.address = address
  | _, _ => True

abbrev issuing (getAddress : String → Except Exception String) (key : String) :
    Protocol nonces where
  Phase := Stage
  start := Stage.start getAddress key
  starts _ _ := False
  allows := Stage.allows key
  possible := possible
  advance := Stage.after
  returns := Stage.returns

section Programs
variable {getAddress : String → Except Exception String} {key : String} {α : Type}

theorem checksum_follows {stage : Stage} {address : String}
    {post : Stage → Except Exception String → Prop} (ends : post stage (getAddress address)) :
    Follows (issuing getAddress key) stage
      (NonceManagementService.checksum getAddress address) post := ends

/-- A call that does not increment the nonce of the address stays so. -/
abbrev staysOther : Stage → Except Exception α → Prop := fun stage _ => stage = .other

theorem fetchNonce_follows (address : String) :
    Follows (issuing getAddress key) .other (NonceManagementService.fetchNonce address) staysOther := by
  unfold NonceManagementService.fetchNonce
  rw [follows_bind]
  refine ⟨trivial, fun found _ => ?_⟩
  match found with
  | .error failure => rfl
  | .ok (some row) => exact fun _ => rfl
  | .ok none =>
    refine ⟨fun same => by rw [← same], fun saved _ => ?_⟩
    cases saved with
    | error failure => rfl
    | ok _ => exact fun _ => rfl

theorem getCurrentNonce_follows (address : String) : Follows (issuing getAddress key) .other
      (NonceManagementService.getCurrentNonce getAddress address) staysOther := by
  unfold NonceManagementService.getCurrentNonce
  rw [follows_bind]
  refine checksum_follows ?_
  cases getAddress address with
  | error failure => rfl
  | ok checksumAddress =>
    rw [afterOk_ok, follows_bind, follows_memory]
    intro memory
    rw [afterOk_ok]
    split
    next =>
      split
      next => rfl
      next => exact fetchNonce_follows _
    next => exact fetchNonce_follows _

theorem validateNonce_follows (address : String) (nonce : Nat) : Follows (issuing getAddress key) .other
      (NonceManagementService.validateNonce getAddress address nonce) staysOther := by
  unfold NonceManagementService.validateNonce
  rw [follows_bind]
  refine checksum_follows ?_
  cases getAddress address with
  | error failure => rfl
  | ok checksumAddress =>
    rw [afterOk_ok, follows_bind]
    refine follows_mono _ ?_ (getCurrentNonce_follows checksumAddress)
    rintro stage result rfl
    cases result <;> rfl

theorem increment_other {address checksumAddress : String}
    (denotes : getAddress address = .ok checksumAddress) (other : toLowerCase checksumAddress ≠ key) :
    Follows (issuing getAddress key) .other
      (NonceManagementService.getAndIncrementNonce getAddress address) staysOther := by
  unfold NonceManagementService.getAndIncrementNonce
  rw [follows_bind]
  refine checksum_follows ?_
  rw [denotes, afterOk_ok, follows_bind]
  refine ⟨other, fun found named => ?_⟩
  match found with
  | .error failure => rfl
  | .ok none =>
    refine fun _ => ⟨other, fun saved _ => ?_⟩
    cases saved with
    | error failure => rfl
    | ok _ => exact fun _ => rfl
  | .ok (some row) =>
    have different : row.address ≠ key := fun same => other (named.symm.trans same)
    refine fun _ => ⟨different, fun saved _ => ?_⟩
    cases saved with
    | error failure => rfl
    | ok _ => exact fun _ => rfl

/-- How the transaction of the address ends. -/
def ends (stage : Stage) (result : Except Exception Nat) : Prop :=
  stage.returns (result.map NonceValue.nonce)

theorem increment_follows {address checksumAddress : String}
    (denotes : getAddress address = .ok checksumAddress) (same : toLowerCase checksumAddress = key) :
    Follows (issuing getAddress key) .fresh
      (NonceManagementService.getAndIncrementNonce getAddress address) ends := by
  unfold NonceManagementService.getAndIncrementNonce
  rw [follows_bind]
  refine checksum_follows ?_
  rw [denotes, afterOk_ok, follows_bind]
  refine ⟨same, fun found named => ?_⟩
  match found with
  | .error failure => exact ⟨failure, rfl⟩
  | .ok none =>
    refine fun _ => ⟨⟨rfl, same, rfl⟩, fun saved _ => ?_⟩
    cases saved with
    | error failure => exact ⟨failure, rfl⟩
    | ok _ => exact fun _ => rfl
  | .ok (some row) =>
    refine fun _ => ⟨⟨rfl, named.trans same, rfl⟩, fun saved _ => ?_⟩
    cases saved with
    | error failure => exact ⟨failure, rfl⟩
    | ok _ => exact fun _ => rfl

theorem keeps_other {program : NonceM α} {value : α → NonceValue}
    (follows : Follows (issuing getAddress key) .other program staysOther) :
    Keeps (issuing getAddress key) .other (do
      let result ← program
      pure (value result)) := by
  unfold Keeps
  rw [follows_bind]
  refine follows_mono _ ?_ follows
  rintro stage result rfl
  cases result <;> trivial

end Programs

theorem respond_possible {world world' : NonceWorld} {op : NonceOp} {outcome : NonceOutcome}
    {result : Except Exception op.Reply}
    (responds : world.respond op outcome = some (world', result)) : possible op result := by
  cases op with
  | findOneForUpdate address =>
    match result with
    | .error failure => trivial
    | .ok none => trivial
    | .ok (some row) =>
      cases outcome with
      | fails failure => cases responds
      | done =>
        simp only [NonceWorld.respond] at responds
        split at responds
        next => cases responds
        next stored found =>
          split at responds
          next => cases responds
          next =>
            cases responds
            exact Table.findOne_key found
  | _ => trivial

theorem nonce_conforms (getAddress : String → Except Exception String) (key : String) :
    Conforms (issuing getAddress key) (nonceProcess getAddress) where
  body call _ := by
    cases call with
    | getCurrentNonce address => exact keeps_other (getCurrentNonce_follows address)
    | validateNonce address nonce => exact keeps_other (validateNonce_follows address nonce)
    | clearStaleCache => exact fun _ => trivial
    | cleanupOldNonces daysInactive =>
      intro memory
      refine ⟨trivial, fun result _ => ?_⟩
      cases result <;> trivial
    | getAndIncrementNonce address =>
      cases denotes : getAddress address with
      | error failure =>
        simp only [Stage.start, denotes]
        unfold Keeps nonceBody NonceManagementService.getAndIncrementNonce
        rw [follows_bind, follows_bind]
        refine checksum_follows ?_
        rw [denotes]
        trivial
      | ok checksumAddress =>
        by_cases same : toLowerCase checksumAddress = key
        · simp only [Stage.start, denotes, if_pos same]
          unfold Keeps nonceBody
          rw [follows_bind]
          refine follows_mono _ ?_ (increment_follows denotes same)
          intro stage result ended
          cases result <;> exact ended
        · simp only [Stage.start, denotes, if_neg same]
          exact keeps_other (increment_other denotes same)
  possible _ _ _ _ _ responds := respond_possible responds

/-! ## The invariant -/

/-- The calls whose transaction for the address has committed, in commit order. -/
def committers (key : String) (trace : List (Nat × Event nonces)) : List Nat :=
  trace.filterMap fun entry =>
    match entry.2 with
    | ⟨.saveInTransaction _ entity, .ok _⟩ => if entity.address = key then some entry.1 else none
    | _ => none

/-- The row of the address after a number of increments. A row never incremented has
never been used, so the clean-up does not take it. -/
def counts (count : Nat) : Option SubmissionNonce → Prop
  | none => count = 0
  | some row => row.nonce = count ∧ (row.nonce = 0 → row.lastUsedAt = none)

structure Issuing (getAddress : String → Except Exception String) (key : String)
    (v : View (issuing getAddress key) (nonceProcess getAddress)) : Prop where
  row : counts (committers key v.trace).length (v.world.rows.findOne key)
  held {i n : Nat} : v.phases[i]? = some (Stage.holding n) → key ∈ v.world.locked ∧
    n = (committers key v.trace).length ∧ (v.world.rows.findOne key).isSome = true
  alone {i j n m : Nat} : v.phases[i]? = some (Stage.holding n) → v.phases[j]? = some (Stage.holding m) → i = j
  committed {i n : Nat} : v.phases[i]? = some (Stage.committed n) ↔ (committers key v.trace)[n]? = some i

/-- Neither holding the lock nor committed. -/
def Stage.waiting : Stage → Prop
  | .holding _ | .committed _ => False
  | _ => True

section Steps
variable {getAddress : String → Except Exception String} {key : String} {i : Nat}
  {v : View (issuing getAddress key) (nonceProcess getAddress)} {phase after : Stage}
  {world : NonceWorld} {trace : List (Nat × Event nonces)}

theorem start_waiting (call : NonceCall) : (Stage.start getAddress key call).waiting := by
  unfold Stage.start
  split
  next =>
    split
    next => split <;> trivial
    next => trivial
  next => trivial

/-- A call answered before its transaction commits is not among the committers. -/
theorem Issuing.uncommitted (holds : Issuing getAddress key v) (found : v.phases[i]? = some phase)
    (early : ∀ n, phase ≠ Stage.committed n) (n : Nat) : (committers key v.trace)[n]? ≠ some i := by
  intro listed
  have here := holds.committed.mpr listed
  rw [found] at here
  exact early n (Option.some.inj here)

theorem Issuing.wait (holds : Issuing getAddress key v) (found : v.phases[i]? = some phase)
    (early : ∀ n, phase ≠ Stage.committed n) (waiting : after.waiting)
    (same : committers key trace = committers key v.trace)
    (row : counts (committers key v.trace).length (world.rows.findOne key))
    (present : (v.world.rows.findOne key).isSome = true → (world.rows.findOne key).isSome = true)
    (locked : ∀ j n, j ≠ i → v.phases[j]? = some (Stage.holding n) → key ∈ world.locked) :
    Issuing getAddress key ⟨world, v.phases.set i after, trace⟩ where
  row := by rw [same]; exact row
  held h := by
    rcases getElem?_set_cases h with ⟨_, rfl⟩ | ⟨different, old⟩
    · exact waiting.elim
    · obtain ⟨_, value, stored⟩ := holds.held old
      rw [same]
      exact ⟨locked _ _ different old, value, present stored⟩
  alone ha hb := by
    rcases getElem?_set_cases ha with ⟨_, rfl⟩ | ⟨_, ha⟩
    · exact waiting.elim
    · rcases getElem?_set_cases hb with ⟨_, rfl⟩ | ⟨_, hb⟩
      · exact waiting.elim
      · exact holds.alone ha hb
  committed {j n} := by
    rw [same]
    by_cases here : j = i
    · subst here
      refine ⟨fun h => ?_, fun listed => absurd listed (holds.uncommitted found early n)⟩
      rcases getElem?_set_cases h with ⟨_, rfl⟩ | ⟨different, _⟩
      · exact waiting.elim
      · exact absurd rfl different
    · rw [List.getElem?_set_ne (Ne.symm here)]
      exact holds.committed

theorem Issuing.take {row : SubmissionNonce} (holds : Issuing getAddress key v)
    (found : v.phases[i]? = some phase) (early : ∀ n, phase ≠ Stage.committed n)
    (same : committers key trace = committers key v.trace)
    (stored : v.world.rows.findOne key = some row) (free : key ∉ v.world.locked)
    (locked : key ∈ world.locked) (rows : world.rows = v.world.rows) : Issuing getAddress key
      ⟨world, v.phases.set i (.holding row.nonce), trace⟩ where
  row := by rw [same, rows]; exact holds.row
  held {j n} h := by
    rw [same, rows]
    rcases getElem?_set_cases h with ⟨_, value⟩ | ⟨_, old⟩
    · obtain rfl := Stage.holding.inj value
      have count := holds.row
      rw [stored] at count
      exact ⟨locked, count.1, by rw [stored]; rfl⟩
    · exact absurd (holds.held old).1 free
  alone ha hb := by
    rcases getElem?_set_cases ha with ⟨rfl, _⟩ | ⟨_, ha⟩
    · rcases getElem?_set_cases hb with ⟨rfl, _⟩ | ⟨_, hb⟩
      · rfl
      · exact absurd (holds.held hb).1 free
    · exact absurd (holds.held ha).1 free
  committed {j n} := by
    rw [same]
    by_cases here : j = i
    · subst here
      refine ⟨fun h => ?_, fun listed => absurd listed (holds.uncommitted found early n)⟩
      rcases getElem?_set_cases h with ⟨_, value⟩ | ⟨different, _⟩
      · cases value
      · exact absurd rfl different
    · rw [List.getElem?_set_ne (Ne.symm here)]
      exact holds.committed

theorem Issuing.commit {n : Nat} (holds : Issuing getAddress key v) (found : v.phases[i]? = some phase)
    (early : ∀ n, phase ≠ Stage.committed n) (value : n = (committers key v.trace).length)
    (alone : ∀ j m, j ≠ i → v.phases[j]? ≠ some (Stage.holding m))
    (grown : committers key trace = committers key v.trace ++ [i]) (row : counts (n + 1) (world.rows.findOne key)) :
    Issuing getAddress key ⟨world, v.phases.set i (.committed n), trace⟩ where
  row := by
    rw [grown, List.length_append, ← value]
    exact row
  held h := by
    rcases getElem?_set_cases h with ⟨_, other⟩ | ⟨different, old⟩
    · cases other
    · exact absurd old (alone _ _ different)
  alone ha _ := by
    rcases getElem?_set_cases ha with ⟨_, other⟩ | ⟨different, old⟩
    · cases other
    · exact absurd old (alone _ _ different)
  committed {j m} := by
    obtain ⟨inside, _⟩ := List.getElem?_eq_some_iff.mp found
    rw [grown]
    by_cases here : j = i
    · subst here
      rw [List.getElem?_set_self inside]
      have before := holds.uncommitted found early m
      rw [List.getElem?_append]
      split
      next earlier =>
        have different : n ≠ m := by omega
        simp [before, different]
      next later =>
        rw [List.getElem?_singleton]
        constructor
        · rintro ⟨⟩
          simp [value]
        · intro listed
          split at listed
          next first =>
            have equal : n = m := by omega
            rw [equal]
          next => cases listed
    · rw [List.getElem?_set_ne (Ne.symm here), holds.committed, List.getElem?_append]
      split
      next => rfl
      next later =>
        rw [List.getElem?_eq_none (by omega), List.getElem?_singleton]
        split <;> simp [Ne.symm here]

end Steps

/-! ## What the operations do to it -/

theorem committers_append (key : String) (trace : List (Nat × Event nonces)) (entry : Nat × Event nonces) :
    committers key (trace ++ [entry]) = committers key trace ++ committers key [entry] := by
  unfold committers
  rw [List.filterMap_append]

theorem committers_error (key : String) (trace : List (Nat × Event nonces)) (i : Nat)
    (op : NonceOp) (failure : Exception) :
    committers key (trace ++ [(i, ⟨op, .error failure⟩)]) = committers key trace := by
  rw [committers_append]
  cases op <;> exact List.append_nil _

theorem insert_cases (world : NonceWorld) (entity : SubmissionNonce) : (world.rows.findOne entity.address = none ∧
      world.insert entity = ({ world with rows := world.rows.save entity }, .ok ())) ∨
    (world.rows.findOne entity.address ≠ none ∧
      world.insert entity = (world, .error duplicateKey)) := by
  unfold NonceWorld.insert
  cases found : world.rows.findOne entity.address with
  | none => exact Or.inl ⟨rfl, rfl⟩
  | some row => exact Or.inr ⟨by simp, rfl⟩

theorem mem_unlock_other {world : NonceWorld} {address key : String} (other : address ≠ key)
    (locked : key ∈ world.locked) : key ∈ (world.unlock address).locked :=
  List.mem_filter.mpr ⟨locked, by simpa using Ne.symm other⟩

theorem counts_delete {count : Nat} {found : Option SubmissionNonce} (cutoffDate : Int)
    (counted : counts count found) : found.filter (fun row => ! row.inactive cutoffDate) = found := by
  cases found with
  | none => rfl
  | some row =>
    have kept : row.inactive cutoffDate = false := by
      unfold SubmissionNonce.inactive
      split
      next lastUsedAt used =>
        have positive : row.nonce ≠ 0 := fun zero => by
          have unused := counted.2 zero
          rw [used] at unused
          cases unused
        simp [positive]
      next => rfl
    rw [Option.filter_some, kept]
    rfl

section Answers
variable {getAddress : String → Except Exception String} {key : String} {i : Nat}
  {v : View (issuing getAddress key) (nonceProcess getAddress)} {world : NonceWorld}
  {outcome : NonceOutcome}

theorem Issuing.other {op : NonceOp} {result : Except Exception op.Reply}
    (holds : Issuing getAddress key v) (found : v.phases[i]? = some Stage.other) (allowed : Stage.other.allows key op)
    (responds : NonceWorld.respond v.world op outcome = some (world, result)) : Issuing getAddress key
      ⟨world, v.phases.set i (Stage.other.after op result), v.trace ++ [(i, ⟨op, result⟩)]⟩ := by
  have early : ∀ n, Stage.other ≠ Stage.committed n := fun n same => by cases same
  have stays : Stage.other.after op result = .other := by cases op <;> rfl
  rw [stays]
  have unchanged : world = v.world →
      committers key (v.trace ++ [(i, ⟨op, result⟩)]) = committers key v.trace →
      Issuing getAddress key ⟨world, v.phases.set i .other, v.trace ++ [(i, ⟨op, result⟩)]⟩ := by
    rintro rfl same
    exact holds.wait found early trivial same holds.row id fun _ _ _ old => (holds.held old).1
  cases outcome with
  | fails failure =>
    cases op with
    | saveInTransaction loaded entity =>
      cases loaded with
      | false =>
        cases responds
        exact unchanged rfl (committers_error ..)
      | true =>
        cases responds
        exact holds.wait found early trivial (committers_error ..) holds.row id
          fun _ _ _ old => mem_unlock_other allowed (holds.held old).1
    | _ =>
      cases responds
      exact unchanged rfl (committers_error ..)
  | done =>
    cases op with
    | findOne address =>
      cases responds
      exact unchanged rfl (by rw [committers_append]; exact List.append_nil _)
    | save entity =>
      have replied := Option.some.inj responds
      have same : committers key (v.trace ++ [(i, ⟨.save entity, result⟩)]) =
          committers key v.trace := by
        rw [committers_append]
        exact List.append_nil _
      rcases insert_cases v.world entity with ⟨free, inserted⟩ | ⟨_, refused⟩
      · rw [inserted] at replied
        cases replied
        by_cases mine : entity.address = key
        · obtain rfl := allowed mine
          have count := holds.row
          rw [show v.world.rows.findOne key = none from free] at count
          refine holds.wait found early trivial same ?_ (fun _ => ?_)
            fun _ _ _ old => (holds.held old).1
          · rw [Table.findOne_save_self v.world.rows ⟨key, 0, none⟩]
            exact ⟨count.symm, fun _ => rfl⟩
          · rw [Table.findOne_save_self v.world.rows ⟨key, 0, none⟩]
            rfl
        · have kept : (v.world.rows.save entity).findOne key = v.world.rows.findOne key :=
            Table.findOne_save_other _ (Ne.symm mine)
          refine holds.wait found early trivial same ?_ ?_ fun _ _ _ old => (holds.held old).1
          · rw [kept]
            exact holds.row
          · rw [kept]
            exact id
      · rw [refused] at replied
        cases replied
        exact unchanged rfl same
    | findOneForUpdate address =>
      have same : committers key (v.trace ++ [(i, ⟨.findOneForUpdate address, result⟩)]) =
          committers key v.trace := by
        rw [committers_append]
        exact List.append_nil _
      simp only [NonceWorld.respond] at responds
      split at responds
      next =>
        cases responds
        exact unchanged rfl same
      next row stored =>
        split at responds
        next => cases responds
        next =>
          cases responds
          exact holds.wait found early trivial same holds.row id
            fun _ _ _ old => List.mem_cons_of_mem _ (holds.held old).1
    | saveInTransaction loaded entity =>
      have same : committers key (v.trace ++ [(i, ⟨.saveInTransaction loaded entity, result⟩)]) =
          committers key v.trace := by
        rw [committers_append]
        cases result with
        | error failure => exact List.append_nil _
        | ok _ =>
          have none_new : committers key [(i, ⟨.saveInTransaction loaded entity, .ok ()⟩)] = [] := by
            simp [committers, show entity.address ≠ key from allowed]
          rw [none_new, List.append_nil]
      have kept : (v.world.rows.save entity).findOne key = v.world.rows.findOne key :=
        Table.findOne_save_other _ (Ne.symm allowed)
      cases loaded with
      | false =>
        have replied := Option.some.inj responds
        rcases insert_cases v.world entity with ⟨free, inserted⟩ | ⟨_, refused⟩
        · rw [inserted] at replied
          cases replied
          refine holds.wait found early trivial same ?_ ?_ fun _ _ _ old => (holds.held old).1
          · rw [kept]
            exact holds.row
          · rw [kept]
            exact id
        · rw [refused] at replied
          cases replied
          exact unchanged rfl same
      | true =>
        simp only [NonceWorld.respond] at responds
        split at responds
        next =>
          cases responds
          refine holds.wait found early trivial same ?_ ?_
            fun _ _ _ old => mem_unlock_other allowed (holds.held old).1
          · rw [kept]
            exact holds.row
          · rw [kept]
            exact id
        next => cases responds
    | delete cutoffDate =>
      have same : committers key (v.trace ++ [(i, ⟨.delete cutoffDate, result⟩)]) =
          committers key v.trace := by
        rw [committers_append]
        exact List.append_nil _
      simp only [NonceWorld.respond] at responds
      split at responds
      next => cases responds
      next =>
        cases responds
        have kept : (v.world.rows.delete (·.inactive cutoffDate)).findOne key =
            v.world.rows.findOne key := by
          rw [Table.findOne_delete]
          exact counts_delete cutoffDate holds.row
        refine holds.wait found early trivial same ?_ ?_ fun _ _ _ old => (holds.held old).1
        · rw [kept]
          exact holds.row
        · rw [kept]
          exact id

variable {entity : SubmissionNonce}

theorem committers_commit (trace : List (Nat × Event nonces)) {loaded : Bool} (mine : entity.address = key) :
    committers key (trace ++ [(i, ⟨.saveInTransaction loaded entity, .ok ()⟩)]) = committers key trace ++ [i] := by
  rw [committers_append]
  simp [committers, mine]

theorem Issuing.fresh {address : String} {result : Except Exception (Option SubmissionNonce)}
    (holds : Issuing getAddress key v) (found : v.phases[i]? = some Stage.fresh) (mine : address = key)
    (responds : NonceWorld.respond v.world (.findOneForUpdate address) outcome = some (world, result)) :
    Issuing getAddress key ⟨world, v.phases.set i (Stage.fresh.after (.findOneForUpdate address) result),
      v.trace ++ [(i, ⟨.findOneForUpdate address, result⟩)]⟩ := by
  subst mine
  have early : ∀ n, Stage.fresh ≠ Stage.committed n := fun n same => by cases same
  have same : committers address (v.trace ++ [(i, ⟨.findOneForUpdate address, result⟩)]) =
      committers address v.trace := by
    rw [committers_append]
    exact List.append_nil _
  cases outcome with
  | fails failure =>
    cases responds
    exact holds.wait found early trivial same holds.row id fun _ _ _ old => (holds.held old).1
  | done =>
    simp only [NonceWorld.respond] at responds
    split at responds
    next =>
      cases responds
      exact holds.wait found early trivial same holds.row id fun _ _ _ old => (holds.held old).1
    next row stored =>
      split at responds
      next => cases responds
      next free =>
        cases responds
        exact holds.take found early same stored free List.mem_cons_self rfl

theorem Issuing.holder {n : Nat} {result : Except Exception Unit} (holds : Issuing getAddress key v)
    (found : v.phases[i]? = some (Stage.holding n)) (stored : stores key n entity)
    (responds : NonceWorld.respond v.world (.saveInTransaction true entity) outcome = some (world, result)) :
    Issuing getAddress key ⟨world, v.phases.set i ((Stage.holding n).after (.saveInTransaction true entity) result),
      v.trace ++ [(i, ⟨.saveInTransaction true entity, result⟩)]⟩ := by
  obtain ⟨mine, value⟩ := stored
  have early : ∀ m, Stage.holding n ≠ Stage.committed m := fun m same => by cases same
  have alone : ∀ j m, j ≠ i → v.phases[j]? ≠ some (Stage.holding m) :=
    fun j m different old => different (holds.alone old found)
  cases outcome with
  | fails failure =>
    cases responds
    exact holds.wait found early trivial (committers_error ..) holds.row id
      fun j m different old => absurd old (alone j m different)
  | done =>
    simp only [NonceWorld.respond] at responds
    split at responds
    next =>
      cases responds
      refine holds.commit found early (holds.held found).2.1 alone
        (committers_commit v.trace mine) ?_
      subst mine
      rw [Table.findOne_save_self v.world.rows entity]
      exact ⟨value, fun zero => absurd (value.symm.trans zero) (Nat.succ_ne_zero n)⟩
    next => cases responds

theorem Issuing.creator {result : Except Exception Unit} (holds : Issuing getAddress key v)
    (found : v.phases[i]? = some Stage.creating) (stored : stores key 0 entity)
    (responds : NonceWorld.respond v.world (.saveInTransaction false entity) outcome = some (world, result)) :
    Issuing getAddress key ⟨world, v.phases.set i (Stage.creating.after (.saveInTransaction false entity) result),
      v.trace ++ [(i, ⟨.saveInTransaction false entity, result⟩)]⟩ := by
  obtain ⟨mine, value⟩ := stored
  have early : ∀ m, Stage.creating ≠ Stage.committed m := fun m same => by cases same
  cases outcome with
  | fails failure =>
    cases responds
    exact holds.wait found early trivial (committers_error ..) holds.row id
      fun _ _ _ old => (holds.held old).1
  | done =>
    have replied := Option.some.inj responds
    rcases insert_cases v.world entity with ⟨free, inserted⟩ | ⟨_, refused⟩
    · rw [inserted] at replied
      cases replied
      subst mine
      have count := holds.row
      rw [free] at count
      refine holds.commit found early count.symm ?_ (committers_commit v.trace rfl) ?_
      · intro j m _ old
        have present := (holds.held old).2.2
        rw [free] at present
        cases present
      · rw [Table.findOne_save_self v.world.rows entity]
        exact ⟨value, fun zero => absurd (value.symm.trans zero) (Nat.succ_ne_zero 0)⟩
    · rw [refused] at replied
      cases replied
      exact holds.wait found early trivial (committers_error ..) holds.row id
        fun _ _ _ old => (holds.held old).1

end Answers

variable {getAddress : String → Except Exception String} {key : String}

theorem Issuing.moves {v v' : View (issuing getAddress key) (nonceProcess getAddress)}
    (holds : Issuing getAddress key v)
    (moved : Moves (issuing getAddress key) (anyAnswer _ _) v v') : Issuing getAddress key v' := by
  cases moved with
  | calls new started =>
    have old : ∀ {i : Nat} {stage : Stage}, ¬ stage.waiting →
        (v.phases ++ new.map (Stage.start getAddress key))[i]? = some stage →
        v.phases[i]? = some stage := by
      intro i stage busy found
      rcases getElem?_append_cases found with before | added
      · exact before
      · obtain ⟨call, _, rfl⟩ := List.mem_map.mp added
        exact absurd (start_waiting call) busy
    refine ⟨holds.row, fun h => holds.held (old id h),
      fun ha hb => holds.alone (old id ha) (old id hb), fun {i n} => ?_⟩
    rw [← holds.committed]
    exact ⟨old id, fun h => List.getElem?_append_left (List.getElem?_eq_some_iff.mp h).1 ▸ h⟩
  | env mem change => exact ⟨holds.row, holds.held, holds.alone, holds.committed⟩
  | reply i phase op outcome world result found allowed responds _ =>
    cases phase with
    | other => exact holds.other found allowed responds
    | fresh =>
      cases op with
      | findOneForUpdate address => exact holds.fresh found allowed responds
      | _ => exact allowed.elim
    | holding n =>
      cases op with
      | saveInTransaction loaded entity =>
        obtain ⟨rfl, stored⟩ := allowed
        exact holds.holder found stored responds
      | _ => exact allowed.elim
    | creating =>
      cases op with
      | saveInTransaction loaded entity =>
        obtain ⟨rfl, stored⟩ := allowed
        exact holds.creator found stored responds
      | _ => exact allowed.elim
    | committed n => exact allowed.elim
    | failed => exact allowed.elim

/-- A database without a row of the address, or with one never incremented, and without a
transaction under way. -/
def Unused (key : String) (world : NonceWorld) : Prop :=
  world.locked = [] ∧ counts 0 (world.rows.findOne key)

theorem issuing_initial {world : NonceWorld} (mem : NonceMemory) (unused : Unused key world) : Issuing getAddress key
      (view (issuing getAddress key) (Config.initial (nonceProcess getAddress) world mem)) where
  row := unused.2
  held h := by simp [view, phases, Config.initial] at h
  alone h := by simp [view, phases, Config.initial] at h
  committed := by simp [view, phases, Config.initial, committers]

/-! ## The result of a call -/

/-- The call is an increment of the nonce of the address, under any spelling of it, and
has returned this nonce. -/
def Returns (key : String) (c : Config (nonceProcess getAddress)) (i nonce : Nat) : Prop :=
  ∃ task address checksumAddress, c.pool[i]? = some task ∧
    task.call = .getAndIncrementNonce address ∧ getAddress address = .ok checksumAddress ∧
    toLowerCase checksumAddress = key ∧ task.result = some (.ok (.nonce nonce))

/-- The nonces of an address: every call that returns one has committed its transaction,
the n-th transaction to commit was that of the call that returns n, and no call commits
twice. -/
structure IssuedInOrder (key : String) (c : Config (nonceProcess getAddress)) : Prop where
  once : (committers key c.trace).Nodup
  returned {i n : Nat} : Returns key c i n → (committers key c.trace)[n]? = some i
  ordered {i n : Nat} : (committers key c.trace)[n]? = some i →
    ∃ task, c.pool[i]? = some task ∧
      ∀ result, task.result = some result → result = .ok (.nonce n)

theorem after_ne_other {stage : Stage} (busy : stage ≠ .other) (op : NonceOp)
    (result : Except Exception op.Reply) : stage.after op result ≠ .other := by
  unfold Stage.after
  split <;> first | exact busy | simp

/-- A call that increments the nonce of the address is never taken for another one. -/
theorem phaseOf_ne_other {task : Task nonces} (mine : Stage.start getAddress key task.call ≠ .other) :
    phaseOf (issuing getAddress key) task ≠ Stage.other :=
  phaseOf_keeps (P := issuing getAddress key) (fun stage : Stage => stage ≠ .other)
    (fun _ op result busy => after_ne_other busy op result) mine

theorem Issuing.inOrder {c : Config (nonceProcess getAddress)}
    (holds : Issuing getAddress key (view (issuing getAddress key) c))
    (keep : AllKeep (issuing getAddress key) c) : IssuedInOrder key c where
  once := by
    refine List.nodup_iff_getElem?_ne_getElem?.mpr fun a b before inside same => ?_
    have listed : (committers key c.trace)[b]? = some ((committers key c.trace)[b]) :=
      List.getElem?_eq_getElem inside
    have first := holds.committed.mpr (same.trans listed)
    have second := holds.committed.mpr listed
    rw [first] at second
    have equal := Stage.committed.inj (Option.some.inj second)
    omega
  returned {i n} := by
    rintro ⟨task, address, checksumAddress, found, called, denotes, mine, ended⟩
    have busy : Stage.start getAddress key task.call ≠ .other := by
      simp [called, Stage.start, denotes, mine]
    have returns : (phaseOf (issuing getAddress key) task : Stage).returns (.ok (.nonce n)) :=
      returns_of_result keep found ended
    have here : (phases (issuing getAddress key) c)[i]? =
        some (phaseOf (issuing getAddress key) task) := by
      simp [phases, found]
    refine holds.committed.mp (Eq.trans here (congrArg some ?_))
    cases stage : (phaseOf (issuing getAddress key) task : Stage) with
    | other => exact absurd stage (phaseOf_ne_other busy)
    | committed m =>
      rw [stage] at returns
      cases returns
      rfl
    | _ =>
      rw [stage] at returns
      obtain ⟨_, failed⟩ := returns
      cases failed
  ordered {i n} listed := by
    have here := holds.committed.mpr listed
    simp only [view, phases, List.getElem?_map, Option.map_eq_some_iff] at here
    obtain ⟨task, found, stage⟩ := here
    refine ⟨task, found, fun result ended => ?_⟩
    have returns := returns_of_result keep found ended
    rw [stage] at returns
    exact returns

/-- In every run from a database in which the address has no nonce yet, whatever calls
overlap and whichever fail, the nonces of the address are issued in commit order, without
a gap and none of them twice. -/
theorem nonces_issued_in_order (getAddress : String → Except Exception String) (key : String)
    (world : NonceWorld) (mem : NonceMemory) (unused : Unused key world)
    (labels : List (Label (nonceProcess getAddress))) (after : Config (nonceProcess getAddress))
    (ran : run labels (Config.initial (nonceProcess getAddress) world mem) = some after) :
    IssuedInOrder key after := by
  have holds := invariant_of_moves (nonce_conforms getAddress key)
    (fun _ _ holds moved => Issuing.moves holds moved) (allKeep_initial world mem)
    (issuing_initial mem unused) (admissible_anyAnswer _ _) ran
  exact holds.1.inOrder holds.2

/-- The checksum function at one address, which it accepts in two spellings. -/
def sampleGetAddress (address : String) : Except Exception String :=
  if address = "0x8ba1f109551bd432803012645ac136ddd64dba72" ∨
      address = "0x8ba1f109551bD432803012645Ac136ddd64DBA72" then
    .ok "0x8ba1f109551bD432803012645Ac136ddd64DBA72"
  else .error (.error "invalid address")

/-- Two first calls overlap, under two spellings, and both find no row; the second fails
on the unique address. A third call follows. -/
def overlappingIncrements : List (Label (nonceProcess sampleGetAddress)) :=
  [.call (.getAndIncrementNonce "0x8ba1f109551bd432803012645ac136ddd64dba72"),
    .call (.getAndIncrementNonce "0x8ba1f109551bD432803012645Ac136ddd64DBA72"),
    .reply 0 NonceOutcome.done, .reply 1 NonceOutcome.done, .resume 0, .resume 1,
    .reply 0 NonceOutcome.done, .reply 1 NonceOutcome.done, .resume 0,
    .call (.getAndIncrementNonce "0x8ba1f109551bd432803012645ac136ddd64dba72"),
    .reply 2 NonceOutcome.done, .resume 2, .reply 2 NonceOutcome.done, .resume 2]

theorem nonces_issued_in_order_overlapping :
    ∃ after, run overlappingIncrements
        (Config.initial (nonceProcess sampleGetAddress) ⟨Table.empty, []⟩ ⟨0, Table.empty⟩) =
        some after ∧
      IssuedInOrder "0x8ba1f109551bd432803012645ac136ddd64dba72" after :=
  ⟨_, rfl, nonces_issued_in_order sampleGetAddress "0x8ba1f109551bd432803012645ac136ddd64dba72"
    ⟨Table.empty, []⟩ ⟨0, Table.empty⟩ ⟨rfl, rfl⟩ overlappingIncrements _ rfl⟩

end AlianStructure.Guarantees.NonceIssuance
