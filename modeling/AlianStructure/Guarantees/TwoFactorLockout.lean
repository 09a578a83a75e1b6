import AlianStructure.Library.CallsAlone
import AlianStructure.Library.Lockout
import AlianStructure.Guarantees.AuthCalls

/-!
# The lockout of a second factor

Source: src/core/auth/enhanced-auth.service.ts:376-450. The record of a user counts the wrong codes since the last right
one, and is locked by the last one that is allowed. A call that the database has failed has stored no verdict; such a
call may come between the others, and is not one of those that have completed.
-/
namespace AlianStructure.Guarantees.TwoFactorLockout
open Library.AsyncMethod Library.Interleaving Library.CallsAlone Library.KeyedTable Library.Lockout
open Source Source.Auth EnhancedAuthService AuthCalls

variable {config : AuthConfig} {offers : AuthCall → Bool}

/-! ## Calls in sequence -/

/-- A call, after a pause, and what happens while it runs. -/
structure Request (config : AuthConfig) (offers : AuthCall → Bool) where
  pause : Nat
  dto : TwoFactorVerifyDto
  happenings : List (Happening (authProcess config offers))

/-- A call: the state in which it was asked, and whether it has accepted the code. -/
structure CodeCheck (config : AuthConfig) (offers : AuthCall → Bool) where
  started : AuthWorld × AuthMemory
  request : Request config offers
  accepted : Bool

/-- The record of a user that a check looks up. -/
def recordOf (userId : String) (world : AuthWorld) : Option TwoFactorAuth :=
  world.twoFactors.rows.find? (TwoFactorQuery.enabled userId).selects

/-- The time at which the first operation of a call is answered. -/
def answeredAt : List (Happening (authProcess config offers)) → Nat → Nat
  | .env ms :: happenings, now => answeredAt happenings (now + ms)
  | _, now => now

def isFailure : AuthOutcome → Bool
  | .fails _ => true
  | _ => false

def accepted : Except Exception Unit → Bool
  | .ok _ => true
  | .error _ => false

/-- The calls of one user, each after the one before has ended, and the state when all have. -/
def checks (userId : String) : List (Request config offers) → AuthWorld × AuthMemory →
    Option (List (CodeCheck config offers) × (AuthWorld × AuthMemory))
  | [], state => some ([], state)
  | request :: requests, state => do
    let started := authEnvironment state request.pause
    let (ended, result) ← finish (authProcess config offers) request.happenings started
      (verifyTwoFactorCode config.libraries userId request.dto)
    let (rest, final) ← checks userId requests ended
    some (⟨started, request, accepted result⟩ :: rest, final)

/-- The time at which a call has looked the record up. -/
def CodeCheck.time (check : CodeCheck config offers) : Nat :=
  answeredAt check.request.happenings check.started.2.now

/-- No operation of the call has failed. -/
def CodeCheck.completed (check : CodeCheck config offers) : Bool :=
  ! (answers check.request.happenings).any isFailure

/-- A check of the period of a lockout that begins at a time. -/
def CodeCheck.within (since : Nat) (check : CodeCheck config offers) : Prop :=
  since ≤ check.time ∧ check.time < since + lockoutDurationMs

/-- The record with other backup codes. -/
def withCodes (userId : String) (backupCodes : List String) (world : AuthWorld) : AuthWorld :=
  match recordOf userId world with
  | none => world
  | some row => { world with twoFactors := world.twoFactors.save { row with backupCodes := backupCodes } }

/-- The code was compared with the stored secrets: what the call does depends on them. If the code was verified
otherwise, or was among the backup codes, the call would be accepted. -/
def CodeCheck.Compares (userId : String) (check : CodeCheck config offers) : Prop :=
  ∃ (totpVerify : String → String → Nat → Bool) (backupCodes : List String)
    (more : List (Happening (authProcess config offers))) (ended : AuthWorld × AuthMemory),
    finish (authProcess config offers) (check.request.happenings ++ more)
      (withCodes userId backupCodes check.started.1, check.started.2)
      (verifyTwoFactorCode { config.libraries with totpVerify := totpVerify } userId check.request.dto) =
        some (ended, .ok ())

/-- A completed call has compared a wrong code. -/
structure CodeCheck.Wrong (userId : String) (check : CodeCheck config offers) : Prop where
  completed : check.completed = true
  refused : check.accepted = false
  compares : check.Compares userId

/-! ## The lock of a record -/

/-- The verdict on a code, when a record that is not locked has it compared. -/
def compared (libraries : AuthLibraries) (dto : TwoFactorVerifyDto) (now : Nat) :
    Option TwoFactorAuth → Option Bool
  | none => none
  | some twoFactor =>
    if 0 < twoFactor.lockedUntil.getD 0 - now then none
    else
      match given dto.code, given dto.backupCode with
      | some code, _ => some (libraries.totpVerify twoFactor.secret code now)
      | none, some backupCode =>
        some (decide (hashBackupCode libraries backupCode ∈ twoFactor.backupCodes))
      | none, none => none

/-- A call as the lock sees it. -/
def CodeCheck.toTry (userId : String) (check : CodeCheck config offers) : Try Nat :=
  ⟨check.time, if check.completed then
    compared config.libraries check.request.dto check.time (recordOf userId check.started.1) else none⟩

def lockOf (userId : String) (world : AuthWorld) : Lock Nat :=
  match recordOf userId world with
  | none => ⟨0, none⟩
  | some twoFactor => ⟨twoFactor.failedAttempts, twoFactor.lockedUntil⟩

theorem isShut_iff (lock : Lock Nat) (now : Nat) : lock.isShut now ↔ 0 < lock.lockedUntil.getD 0 - now := by
  obtain ⟨failures, _ | limit⟩ := lock
  · simp [Lock.isShut]
  · simp [Lock.isShut]

theorem recordOf_save {userId : String} {world : AuthWorld} {row new : TwoFactorAuth}
    (found : recordOf userId world = some row) (id : new.id = row.id) (user : new.userId = row.userId)
    (enabled : new.isEnabled = row.isEnabled) :
    recordOf userId { world with twoFactors := world.twoFactors.save new } = some new := by
  have selected : (TwoFactorQuery.enabled userId).selects row = true := List.find?_some found
  refine Table.find_save found id ?_
  simp only [TwoFactorQuery.selects] at selected ⊢
  rw [user, enabled]
  exact selected

section Call
variable {userId : String} {dto : TwoFactorVerifyDto} {state : AuthWorld × AuthMemory}
  {happenings : List (Happening (authProcess config offers))} {libraries : AuthLibraries}
  {ended : (AuthWorld × AuthMemory) × Except Exception Unit}

theorem later_eq (config : AuthConfig) (offers : AuthCall → Bool) : ∀ (changes : List Nat) (state : AuthWorld × AuthMemory),
    (later (authProcess config offers) state changes).1.twoFactors = state.1.twoFactors ∧
      (later (authProcess config offers) state changes).2.now = state.2.now + changes.sum
  | [], _ => ⟨rfl, rfl⟩
  | ms :: changes, state => by
    obtain ⟨same, clock⟩ := later_eq config offers changes (authEnvironment state ms)
    refine ⟨same, clock.trans ?_⟩
    simp [authEnvironment, Nat.add_assoc]

theorem answeredAt_changes (choice : AuthOutcome) (rest : List (Happening (authProcess config offers))) :
    ∀ (changes : List Nat) (now : Nat),
      answeredAt (changes.map (Happening.env (S := authProcess config offers)) ++ .reply choice :: rest) now = now + changes.sum
  | [], _ => rfl
  | ms :: changes, now => by
    have later := answeredAt_changes choice rest changes (now + ms)
    simpa [answeredAt, Nat.add_assoc] using later

theorem respond_fails {world after : AuthWorld} {op : AuthOp} {failure : Exception}
    {result : Except Exception op.Reply}
    (responds : (authProcess config offers).respond world op (AuthOutcome.fails failure) = some (after, result)) :
    after = world ∧ result = .error failure := by
  cases op <;> cases responds <;> exact ⟨rfl, rfl⟩

theorem saved {row : TwoFactorAuth} {next : Except Exception Unit → AuthM Unit}
    (ends : finish (authProcess config offers) happenings state
      (.await (AuthOp.saveTwoFactor row) next) = some ended) :
    ∃ (middle : AuthWorld × AuthMemory) (result : Except Exception Unit)
      (rest : List (Happening (authProcess config offers))),
      (answers happenings).any isFailure = (! accepted result || (answers rest).any isFailure) ∧
      state.2.now ≤ middle.2.now ∧
      middle.1.twoFactors = (if accepted result then state.1.twoFactors.save row else state.1.twoFactors) ∧
      finish (authProcess config offers) rest middle (next result) = some ended := by
  obtain ⟨changes, choice, rest, world, result, rfl, responds, goesOn⟩ := finish_await _ _ ends
  obtain ⟨same, clock⟩ := later_eq config offers changes state
  have decided : answers (changes.map .env ++ .reply choice :: rest) = choice :: answers rest := by
    rw [answers_append, answers_changes]
    rfl
  have forward : state.2.now ≤ (later (authProcess config offers) state changes).2.now :=
    clock ▸ Nat.le_add_right _ _
  rw [decided, List.any_cons]
  cases choice with
  | done =>
    cases responds
    refine ⟨_, _, rest, ?_, ?_, ?_, goesOn⟩
    · rfl
    · exact forward
    · exact congrArg (·.save row) same
  | made text => cases responds
  | fails failure =>
    obtain ⟨rfl, rfl⟩ := respond_fails responds
    refine ⟨_, _, rest, ?_, ?_, ?_, goesOn⟩
    · rfl
    · exact forward
    · exact same

/-- What a call does to a lock. -/
def Judged (before after : Lock Nat) (now : Nat) (passed : Bool) : Option Bool → Prop
  | none => after = before ∧ passed = false
  | some right => ¬ before.isShut now ∧
      after = before.after maxTwoFactorAttempts lockoutDurationMs now right ∧ (right = true → passed = true)

theorem lockOf_found {world : AuthWorld} {row : TwoFactorAuth} (found : recordOf userId world = some row) :
    lockOf userId world = ⟨row.failedAttempts, row.lockedUntil⟩ := by
  unfold lockOf
  rw [found]

theorem lockOf_congr {world other : AuthWorld} (same : other.twoFactors = world.twoFactors) :
    lockOf userId other = lockOf userId world := by
  unfold lockOf recordOf
  rw [same]

theorem lockOf_saved {world after : AuthWorld} {row new : TwoFactorAuth}
    (found : recordOf userId world = some row) (id : new.id = row.id) (user : new.userId = row.userId)
    (enabled : new.isEnabled = row.isEnabled) (same : after.twoFactors = world.twoFactors.save new) :
    lockOf userId after = ⟨new.failedAttempts, new.lockedUntil⟩ := by
  have stored : lockOf userId after = lockOf userId { world with twoFactors := world.twoFactors.save new } :=
    lockOf_congr same
  exact stored.trans (lockOf_found (recordOf_save found id user enabled))

section Found
variable {row : TwoFactorAuth} {now : Nat}

/-- The record is saved with the state of the lock after a verdict, and the call ends. -/
theorem stored_judged {new : TwoFactorAuth} {right : Bool} {last : Except Exception Unit → Except Exception Unit}
    (ends : finish (authProcess config offers) happenings state
      (.await (AuthOp.saveTwoFactor new) fun result => .done (last result)) = some ended)
    (found : recordOf userId state.1 = some row) (id : new.id = row.id) (user : new.userId = row.userId)
    (enabled : new.isEnabled = row.isEnabled) (unlocked : ¬ (lockOf userId state.1).isShut now)
    (lock : (⟨new.failedAttempts, new.lockedUntil⟩ : Lock Nat) =
      (lockOf userId state.1).after maxTwoFactorAttempts lockoutDurationMs now right)
    (passes : right = true → accepted (last (.ok ())) = true)
    (fails : ∀ failure, accepted (last (.error failure)) = false) : state.2.now ≤ ended.1.2.now ∧
      Judged (lockOf userId state.1) (lockOf userId ended.1.1) now (accepted ended.2)
        (if (answers happenings).any isFailure then none else some right) := by
  obtain ⟨middle, result, rest, failed, forward, tables, goesOn⟩ := saved ends
  obtain ⟨rfl, rfl⟩ := finish_done goesOn
  refine ⟨forward, ?_⟩
  cases result with
  | error failure =>
    rw [failed]
    exact ⟨lockOf_congr tables, fails failure⟩
  | ok value =>
    rw [failed]
    exact ⟨unlocked, (lockOf_saved found id user enabled tables).trans lock, passes⟩

theorem ask_throw (op : AuthOp) (failure : Exception) :
    (do let _ ← ask op; throw failure : AuthM Unit) =
      .await op fun result => .done (result.bind fun _ => .error failure) := by
  refine congrArg (Async.await (R := auth) op) (funext fun result => ?_)
  cases result <;> rfl

theorem rejectCode_judged (found : recordOf userId state.1 = some row)
    (unlocked : ¬ (lockOf userId state.1).isShut now)
    (ends : finish (authProcess config offers) happenings state (rejectCode row now) = some ended) :
    state.2.now ≤ ended.1.2.now ∧ Judged (lockOf userId state.1) (lockOf userId ended.1.1) now (accepted ended.2)
        (if (answers happenings).any isFailure then none else some false) := by
  have isLock := lockOf_found found
  unfold rejectCode at ends
  dsimp only at ends
  split at ends
  next last =>
    rw [ask_throw (.saveTwoFactor _)] at ends
    refine stored_judged ends found rfl rfl rfl unlocked ?_ nofun fun _ => rfl
    rw [isLock]
    exact (if_pos last).symm
  next more =>
    rw [ask_throw (.saveTwoFactor _)] at ends
    refine stored_judged ends found rfl rfl rfl unlocked ?_ nofun fun _ => rfl
    rw [isLock]
    exact (if_neg more).symm

theorem checkCode_judged (found : recordOf userId state.1 = some row) (unlocked : ¬ 0 < row.lockedUntil.getD 0 - now)
    (ends : finish (authProcess config offers) happenings state (checkCode libraries row dto now) = some ended) :
    state.2.now ≤ ended.1.2.now ∧ Judged (lockOf userId state.1) (lockOf userId ended.1.1) now (accepted ended.2)
        (if (answers happenings).any isFailure then none
          else compared libraries dto now (recordOf userId state.1)) := by
  have isOpen : ¬ (lockOf userId state.1).isShut now := by
    rw [lockOf_found found, isShut_iff]
    exact unlocked
  rw [found, compared, if_neg unlocked]
  unfold checkCode at ends
  cases totp : given dto.code with
  | some code =>
    simp only [totp] at ends ⊢
    split at ends
    next right =>
      rw [right]
      exact stored_judged ends found rfl rfl rfl isOpen rfl (fun _ => rfl) fun _ => rfl
    next wrong =>
      rw [Bool.not_eq_true] at wrong
      rw [wrong]
      exact rejectCode_judged found isOpen ends
  | none =>
    cases backup : given dto.backupCode with
    | some code =>
      simp only [totp, backup] at ends ⊢
      split at ends
      next right =>
        rw [decide_eq_true right]
        exact stored_judged ends found rfl rfl rfl isOpen rfl (fun _ => rfl) fun _ => rfl
      next wrong =>
        rw [decide_eq_false wrong]
        exact rejectCode_judged found isOpen ends
    | none =>
      simp only [totp, backup] at ends ⊢
      obtain ⟨rfl, rfl⟩ := finish_done ends
      exact ⟨le_refl _, rfl, rfl⟩

end Found

theorem verifyTwoFactorCode_judged (ends : finish (authProcess config offers) happenings state
      (verifyTwoFactorCode libraries userId dto) = some ended) :
    state.2.now ≤ answeredAt happenings state.2.now ∧ answeredAt happenings state.2.now ≤ ended.1.2.now ∧
      Judged (lockOf userId state.1) (lockOf userId ended.1.1) (answeredAt happenings state.2.now)
        (accepted ended.2) (if (answers happenings).any isFailure then none
          else compared libraries dto (answeredAt happenings state.2.now) (recordOf userId state.1)) := by
  obtain ⟨changes, choice, rest, world, result, rfl, responds, goesOn⟩ := finish_await _ _ ends
  obtain ⟨same, clock⟩ := later_eq config offers changes state
  have started : state.2.now ≤ answeredAt (changes.map .env ++ .reply choice :: rest) state.2.now := by
    rw [answeredAt_changes]
    exact Nat.le_add_right _ _
  refine ⟨started, ?_⟩
  have decided : answers (changes.map .env ++ .reply choice :: rest) = choice :: answers rest := by
    rw [answers_append, answers_changes]
    rfl
  rw [decided, List.any_cons, answeredAt_changes, ← clock]
  cases choice with
  | made text => cases responds
  | fails failure =>
    obtain ⟨rfl, rfl⟩ := respond_fails responds
    obtain ⟨rfl, rfl⟩ := finish_done goesOn
    exact ⟨le_refl _, lockOf_congr same, rfl⟩
  | done =>
    cases responds
    have looked : (later (authProcess config offers) state changes).1.twoFactors.rows.find?
        (TwoFactorQuery.enabled userId).selects = recordOf userId state.1 := by
      rw [same]
      rfl
    rw [looked] at goesOn
    have sameLock : lockOf userId (later (authProcess config offers) state changes).1 = lockOf userId state.1 :=
      lockOf_congr same
    rw [← sameLock]
    cases found : recordOf userId state.1 with
    | none =>
      rw [found] at goesOn
      obtain ⟨rfl, rfl⟩ := finish_done goesOn
      exact ⟨le_refl _, by rw [compared, ite_self]; exact ⟨rfl, rfl⟩⟩
    | some row =>
      rw [found] at goesOn
      have isFound : recordOf userId (later (authProcess config offers) state changes).1 = some row :=
        looked.trans found
      have read := finish_get.symm.trans goesOn
      simp only [Async.andThen, Async.onOk, pure] at read
      split at read
      next locked =>
        obtain ⟨rfl, rfl⟩ := finish_done read
        exact ⟨le_refl _, by rw [compared, if_pos locked, ite_self]; exact ⟨rfl, rfl⟩⟩
      next unlocked =>
        obtain ⟨forward, judged⟩ := checkCode_judged isFound unlocked read
        rw [isFound] at judged
        exact ⟨forward, judged⟩

/-- Whether a code is compared depends neither on the way it is verified nor on the backup codes. -/
theorem compared_isSome (totpVerify : String → String → Nat → Bool) (backupCodes : List String)
    (world : AuthWorld) (now : Nat) :
    (compared { libraries with totpVerify := totpVerify } dto now
        (recordOf userId (withCodes userId backupCodes world))).isSome =
      (compared libraries dto now (recordOf userId world)).isSome := by
  unfold withCodes
  cases found : recordOf userId world with
  | none => exact congrArg (fun record => (compared _ dto now record).isSome) found
  | some row =>
    dsimp only
    have saved : recordOf userId { world with
        twoFactors := world.twoFactors.save { row with backupCodes := backupCodes } } =
          some { row with backupCodes := backupCodes } := recordOf_save found rfl rfl rfl
    rw [saved]
    simp only [compared]
    split
    next => rfl
    next => cases given dto.code <;> cases given dto.backupCode <;> rfl

/-- A call that would be accepted with other secrets has a verdict on its code. -/
theorem compares_compared {check : CodeCheck config offers} (compares : check.Compares userId)
    {first : (AuthWorld × AuthMemory) × Except Exception Unit}
    (ends : finish (authProcess config offers) check.request.happenings check.started
      (verifyTwoFactorCode config.libraries userId check.request.dto) = some first) :
    (compared config.libraries check.request.dto check.time (recordOf userId check.started.1)).isSome = true := by
  obtain ⟨totpVerify, backupCodes, more, other, would⟩ := compares
  obtain ⟨_, _, judged⟩ := verifyTwoFactorCode_judged would
  have sameTime : answeredAt (check.request.happenings ++ more) check.started.2.now = check.time := by
    obtain ⟨changes, choice, rest, _, _, isFirst, _, _⟩ := finish_await _ _ ends
    rw [CodeCheck.time, isFirst, List.append_assoc, List.cons_append, answeredAt_changes, answeredAt_changes]
  rw [← compared_isSome totpVerify backupCodes]
  dsimp only at judged
  rw [sameTime] at judged
  split at judged
  next => cases judged.2
  next =>
    cases seen : compared { config.libraries with totpVerify := totpVerify } check.request.dto check.time
        (recordOf userId (withCodes userId backupCodes check.started.1)) with
    | none =>
      rw [seen] at judged
      cases judged.2
    | some right => rfl

end Call

/-! ## Every sequence of calls -/

/-- The tries of a sequence are in order, and the lock of the record admits them. -/
theorem checks_admitted {userId : String} : ∀ {requests : List (Request config offers)}
    {state final : AuthWorld × AuthMemory} {tried : List (CodeCheck config offers)},
    checks userId requests state = some (tried, final) →
    Admits maxTwoFactorAttempts lockoutDurationMs (lockOf userId state.1) (tried.map (CodeCheck.toTry userId)) ∧
      tried.Pairwise (fun earlier later => earlier.time ≤ later.time) ∧
      ∀ check ∈ tried, state.2.now ≤ check.time ∧
        ((check.toTry userId).verdict = some true → check.accepted = true) ∧
        (check.Wrong userId → (check.toTry userId).verdict = some false)
  | [], _, _, _, ran => by
    cases ran
    exact ⟨trivial, List.Pairwise.nil, nofun⟩
  | request :: requests, state, final, tried, ran => by
    simp only [checks, Option.bind_eq_bind, Option.bind_eq_some_iff, Option.some.injEq, Prod.mk.injEq] at ran
    obtain ⟨⟨ended, result⟩, ends, ⟨rest, last⟩, others, rfl, rfl⟩ := ran
    obtain ⟨started, forward, judged⟩ := verifyTwoFactorCode_judged ends
    obtain ⟨admits, ordered, later⟩ := checks_admitted others
    let check : CodeCheck config offers := ⟨authEnvironment state request.pause, request, accepted result⟩
    have verdict : (check.toTry userId).verdict = if (answers request.happenings).any isFailure then none
        else compared config.libraries request.dto check.time (recordOf userId check.started.1) := by
      unfold CodeCheck.toTry CodeCheck.completed
      by_cases failed : (answers request.happenings).any isFailure = true <;> simp [check, failed]
    have passed : Judged (lockOf userId state.1) (lockOf userId ended.1) check.time (accepted result)
        (check.toTry userId).verdict := verdict ▸ judged
    have begun : state.2.now ≤ check.time := (Nat.le_add_right _ _).trans started
    have accepts : (check.toTry userId).verdict = some true → check.accepted = true := by
      intro right
      rw [right] at passed
      exact passed.2.2 rfl
    refine ⟨?_, List.pairwise_cons.mpr ⟨fun other member => forward.trans (later other member).1, ordered⟩, ?_⟩
    · refine admits_cons.mpr ?_
      cases seen : (check.toTry userId).verdict with
      | none =>
        rw [seen] at passed
        rw [passed.1] at admits
        exact admits
      | some right =>
        rw [seen] at passed
        obtain ⟨isOpen, after, _⟩ := passed
        rw [after] at admits
        exact ⟨isOpen, admits⟩
    · intro other member
      rcases List.mem_cons.mp member with rfl | member
      · refine ⟨begun, accepts, fun wrong => ?_⟩
        obtain ⟨right, judges⟩ := Option.isSome_iff_exists.mp (compares_compared wrong.compares ends)
        have seen : (check.toTry userId).verdict = some right := by
          simp only [CodeCheck.toTry]
          rw [if_pos wrong.completed]
          exact judges
        cases right with
        | false => exact seen
        | true => cases wrong.refused.symm.trans (accepts seen)
      · exact ⟨(begun.trans forward).trans (later other member).1, (later other member).2⟩

theorem toTry_within (userId : String) (check : CodeCheck config offers) (since : Nat) :
    (check.toTry userId).within since lockoutDurationMs = true ↔ check.within since := by
  rw [Try.within, Bool.and_eq_true, decide_eq_true_eq, decide_eq_true_eq]
  rfl

/-- The sample account with two-factor authentication on, and no failure so far. -/
def guardedWorld : AuthWorld :=
  { sampleAuthWorld with
    twoFactors := Table.empty.save
      { id := "f1"
        userId := "u1"
        status := .verified
        secret := "JBSWY3DPEHPK3PXP"
        backupCodes := []
        isEnabled := true
        failedAttempts := 0
        lockedUntil := none
        verifiedAt := some 900000
        lastUsedAt := none } }

/-- A wrong code, asked for a second after the call before; the database takes a millisecond for every answer. -/
def wrongCode : Request sampleConfig fun _ => false where
  pause := 1000
  dto := { code := some "000000", backupCode := none }
  happenings := [.env (1 : Nat), .reply AuthOutcome.done, .env (1 : Nat), .reply AuthOutcome.done]

/-- The sixth code, after the lock. -/
def lateCode : Request sampleConfig fun _ => false where
  pause := 1000
  dto := { code := some "000000", backupCode := none }
  happenings := [.env (1 : Nat), .reply AuthOutcome.done]

/-- A refused call that would have been accepted if every one-time code was right. -/
theorem wrong_of_accepting {userId : String} {check : CodeCheck config offers} (completed : check.completed = true)
    (refused : check.accepted = false) (accepts : (finish (authProcess config offers) (check.request.happenings ++ [])
      (withCodes userId [] check.started.1, check.started.2)
      (verifyTwoFactorCode { config.libraries with totpVerify := fun _ _ _ => true } userId
        check.request.dto)).map (fun ended => accepted ended.2) = some true) : check.Wrong userId := by
  obtain ⟨⟨ended, _ | _⟩, ends, isAccepted⟩ := Option.map_eq_some_iff.mp accepts
  · cases isAccepted
  · exact ⟨completed, refused, _, [], [], ended, ends⟩

end AlianStructure.Guarantees.TwoFactorLockout
