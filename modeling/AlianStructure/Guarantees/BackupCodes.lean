import AlianStructure.Guarantees.TwoFactorHistory

/-!
# A backup code is used once

Source: enhanced-auth.service.ts:376-450,603-614. A code check looks the record of the
account up, takes the code out of the list it found and saves the record as a whole. The
list that is saved is right when nobody has saved the record in between.
-/
namespace AlianStructure.Guarantees.BackupCodes
open Library.Interleaving Library.CallProtocol Library.KeyedTable
open Library.Overlap
open Source Source.Auth AuthCalls

/-- The hash that a request for a code check is about, when it is about a backup code. -/
def presented (libraries : AuthLibraries) (dto : TwoFactorVerifyDto) : Option String :=
  match given dto.code, given dto.backupCode with
  | none, some backupCode => some (EnhancedAuthService.hashBackupCode libraries backupCode)
  | _, _ => none

/-- How far a call is; `used` is a call that has saved the record without the code it
presents, `settled` one that has saved it otherwise, or will not. -/
inductive Stage where
  | fresh (code : Option String)
  | found (code : Option String) (row : TwoFactorAuth)
  | used (id code : String)
  | settled (code : Option String)
  deriving DecidableEq

def Stage.start (libraries : AuthLibraries) : AuthCall → Stage
  | .verifyTwoFactorLogin _ dto _ | .verifyWalletTwoFactorAndIssueToken _ dto =>
    .fresh (presented libraries dto)
  | _ => .settled none

/-- What a call may save of a record it has found. -/
def mayStore (code : Option String) (row changed : TwoFactorAuth) : Prop :=
  changed.id = row.id ∧ (changed.backupCodes = row.backupCodes ∨
    ∃ hash ∈ row.backupCodes, code = some hash ∧ changed.backupCodes = row.backupCodes.erase hash)

def Stage.allows : Stage → AuthOp → Prop
  | .fresh _, .findTwoFactor _ => True
  | .found code row, .saveTwoFactor changed => mayStore code row changed
  | .used _ _, .findUser _ | .used _ _, .insertRefreshToken _ => True
  | .settled _, .findUser _ | .settled _, .insertRefreshToken _ => True
  | _, _ => False

def Stage.after : Stage → (op : AuthOp) → Except Exception op.Reply → Stage
  | .fresh code, .findTwoFactor _, .ok (some row) => .found code row
  | .fresh code, _, _ => .settled code
  | .found code row, .saveTwoFactor changed, .ok _ =>
    match code with
    | some hash =>
      if changed.backupCodes = row.backupCodes then .settled code else .used row.id hash
    | none => .settled none
  | .found code _, _, _ => .settled code
  | stage, _, _ => stage

/-- A call that presents a backup code returns only after it has used it. -/
def Stage.returns : Stage → Except Exception AuthValue → Prop
  | .used _ _, _ | .settled none, _ => True
  | _, result => ∃ failure, result = .error failure

abbrev spending (libraries : AuthLibraries) : Protocol auth where
  Phase := Stage
  start := Stage.start libraries
  starts _ _ := False
  allows := Stage.allows
  possible _ _ := True
  advance := Stage.after
  returns := Stage.returns

/-- The process, open to code checks. -/
def checksCodes : AuthCall → Bool
  | .verifyTwoFactorLogin _ _ _ | .verifyWalletTwoFactorAndIssueToken _ _ => true
  | _ => false

section Programs
variable {libraries : AuthLibraries} {code : Option String} {row : TwoFactorAuth}

theorem rejectCode_follows (now : Nat) (post : Stage → Except Exception Unit → Prop)
    (fails : ∀ stage failure, post stage (.error failure)) :
    Follows (spending libraries) (.found code row) (EnhancedAuthService.rejectCode row now) post := by
  unfold EnhancedAuthService.rejectCode
  dsimp only
  split
  next =>
    rw [follows_bind]
    refine ask_follows (P := spending libraries) ⟨rfl, Or.inl rfl⟩ fun result _ => ?_
    cases result <;> exact fails _ _
  next =>
    rw [follows_bind]
    refine ask_follows (P := spending libraries) ⟨rfl, Or.inl rfl⟩ fun result _ => ?_
    cases result <;> exact fails _ _

theorem checkCode_follows (dto : TwoFactorVerifyDto) (now : Nat) (post : Stage → Except Exception Unit → Prop)
    (fails : ∀ stage failure, post stage (.error failure))
    (plain : post (.settled none) (.ok ())) (used : ∀ hash, post (.used row.id hash) (.ok ())) :
    Follows (spending libraries) (.found (presented libraries dto) row)
      (EnhancedAuthService.checkCode libraries row dto now) post := by
  unfold EnhancedAuthService.checkCode
  cases totp : given dto.code with
  | some text =>
    have nothing : presented libraries dto = none := by simp [presented, totp]
    rw [nothing]
    dsimp only
    split
    next =>
      refine ask_follows (P := spending libraries) ⟨rfl, Or.inl rfl⟩ fun result _ => ?_
      cases result with
      | error failure => exact fails _ failure
      | ok _ => exact plain
    next => exact rejectCode_follows now post fails
  | none =>
    cases backup : given dto.backupCode with
    | none => exact fails _ _
    | some text =>
      have hash : presented libraries dto =
          some (EnhancedAuthService.hashBackupCode libraries text) := by
        simp [presented, totp, backup]
      rw [hash]
      dsimp only
      split
      next member =>
        have shorter := List.length_erase_of_mem member
        have some_left := List.length_pos_of_mem member
        have differs : row.backupCodes.erase (EnhancedAuthService.hashBackupCode libraries text) ≠
            row.backupCodes := fun same => by
          rw [same] at shorter
          omega
        refine ask_follows (P := spending libraries) ⟨rfl, Or.inr ⟨_, member, rfl, rfl⟩⟩
          fun result _ => ?_
        cases result with
        | error failure => exact fails _ failure
        | ok _ =>
          simp only [Stage.after, if_neg differs]
          exact used _
      next => exact rejectCode_follows now post fails

theorem verifyTwoFactorCode_follows (userId : String) (dto : TwoFactorVerifyDto)
    (post : Stage → Except Exception Unit → Prop) (fails : ∀ stage failure, post stage (.error failure))
    (plain : post (.settled none) (.ok ())) (used : ∀ id hash, post (.used id hash) (.ok ())) :
    Follows (spending libraries) (.fresh (presented libraries dto))
      (EnhancedAuthService.verifyTwoFactorCode libraries userId dto) post := by
  unfold EnhancedAuthService.verifyTwoFactorCode
  rw [follows_bind]
  refine ask_follows (P := spending libraries) trivial fun result _ => ?_
  match result with
  | .error failure => exact fails _ failure
  | .ok none => exact fails _ _
  | .ok (some row) =>
    rw [afterOk_ok]
    dsimp only
    refine clock_then fun now => ?_
    split
    next => exact fails _ _
    next => exact checkCode_follows dto now post fails plain (used row.id)

/-- A stage in which the code has been checked. -/
def Stage.checked : Stage → Prop
  | .used _ _ | .settled none => True
  | _ => False

theorem settled_checked : (Stage.settled none).checked := trivial

theorem used_checked (id hash : String) : (Stage.used id hash).checked := trivial

theorem Stage.returns_error (stage : Stage) (failure : Exception) : stage.returns (.error failure) := by
  match stage with
  | .used _ _ => trivial
  | .settled none => trivial
  | .settled (some _) => exact ⟨failure, rfl⟩
  | .fresh _ => exact ⟨failure, rfl⟩
  | .found _ _ => exact ⟨failure, rfl⟩

theorem Stage.checked_returns {stage : Stage} (checked : stage.checked)
    (result : Except Exception AuthValue) : stage.returns result := by
  match stage with
  | .used _ _ => trivial
  | .settled none => trivial
  | .settled (some _) => exact checked.elim
  | .fresh _ => exact checked.elim
  | .found _ _ => exact checked.elim

theorem checked_allows {stage : Stage} (checked : stage.checked) :
    (∀ query, stage.allows (.findUser query)) ∧ ∀ entity, stage.allows (.insertRefreshToken entity) := by
  cases stage with
  | used _ _ | settled _ => exact ⟨fun _ => trivial, fun _ => trivial⟩
  | fresh _ | found _ _ => exact checked.elim

theorem checked_stays {stage : Stage} (checked : stage.checked) (op : AuthOp) (result : Except Exception op.Reply) :
    (spending libraries).advance stage op result = stage := by
  cases stage with
  | used _ _ | settled _ => rfl
  | fresh _ | found _ _ => exact checked.elim

theorem generateTokens_follows {stage : Stage} (checked : stage.checked) (user : User)
    (ipAddress : String) (userAgent : Option String) : Follows (spending libraries) stage
      (EnhancedAuthService.generateTokens user ipAddress userAgent true) fun after _ => Stage.checked after := by
  unfold EnhancedAuthService.generateTokens
  refine clock_then fun now => ?_
  rw [follows_bind]
  refine draw_follows fun value => ?_
  rw [afterOk_ok, follows_bind]
  refine ask_follows ((checked_allows checked).2 _) fun result _ => ?_
  rw [checked_stays checked]
  cases result <;> exact checked

theorem issue_follows {α : Type} {stage : Stage} {value : α → AuthValue} (checked : stage.checked)
    (userId : String) (issue : User → AuthM α)
    (issues : ∀ user, Follows (spending libraries) stage (issue user)
      fun after _ => Stage.checked after) :
    Follows (spending libraries) stage
      (do
        let found ← ask (.findUser (.id userId))
        match found with
        | none => throw (.notFound "User not found")
        | some user => issue user)
      fun after result => Stage.returns after (result.map value) := by
  rw [follows_bind]
  refine ask_follows ((checked_allows checked).1 _) fun result _ => ?_
  rw [checked_stays checked]
  match result with
  | .error failure => exact Stage.returns_error stage failure
  | .ok none => exact Stage.returns_error stage _
  | .ok (some user) =>
    exact follows_mono _ (fun _ _ ends => Stage.checked_returns ends _) (issues user)

theorem verifyTwoFactorLogin_follows (userId : String) (dto : TwoFactorVerifyDto) (clientInfo : ClientInfo) :
    Follows (spending libraries) (.fresh (presented libraries dto))
      (EnhancedAuthService.verifyTwoFactorLogin libraries userId dto clientInfo)
      fun stage result => Stage.returns stage (result.map AuthValue.tokens) := by
  unfold EnhancedAuthService.verifyTwoFactorLogin
  rw [follows_bind]
  refine verifyTwoFactorCode_follows userId dto _ (fun stage failure => stage.returns_error failure)
    ?_ fun id hash => ?_
  · exact issue_follows settled_checked userId _ fun user =>
      generateTokens_follows settled_checked user _ _
  · exact issue_follows (used_checked id hash) userId _ fun user =>
      generateTokens_follows (used_checked id hash) user _ _

theorem verifyWalletTwoFactor_follows (userId : String) (dto : TwoFactorVerifyDto) :
    Follows (spending libraries) (.fresh (presented libraries dto))
      (WalletAuthService.verifyWalletTwoFactorAndIssueToken libraries userId dto)
      fun stage result => Stage.returns stage (result.map AuthValue.walletToken) := by
  have issues : ∀ (stage : Stage) (user : User), stage.checked →
      Follows (spending libraries) stage
        (clock >>= fun now => pure (⟨WalletAuthService.issueWalletToken user.walletAddress user true
          now, user.walletAddress⟩ : WalletToken)) fun after _ => Stage.checked after := by
    intro stage user checked
    exact clock_then fun now => checked
  unfold WalletAuthService.verifyWalletTwoFactorAndIssueToken
  rw [follows_bind]
  refine verifyTwoFactorCode_follows userId dto _ (fun stage failure => stage.returns_error failure)
    ?_ fun id hash => ?_
  · exact issue_follows settled_checked userId _ fun user => issues _ user settled_checked
  · exact issue_follows (used_checked id hash) userId _ fun user =>
      issues _ user (used_checked id hash)

end Programs

theorem checks_conform (config : AuthConfig) :
    Conforms (spending config.libraries) (authProcess config checksCodes) where
  body call startable := by
    obtain isPublic | ⟨_, never⟩ := startable
    · cases call with
      | verifyTwoFactorLogin userId dto clientInfo =>
        exact keeps_returning (verifyTwoFactorLogin_follows userId dto clientInfo)
      | verifyWalletTwoFactorAndIssueToken userId dto =>
        exact keeps_returning (verifyWalletTwoFactor_follows userId dto)
      | _ => cases isPublic
    · exact never.elim
  possible _ _ _ _ _ _ := trivial

def looksUp (event : Event auth) : Bool :=
  match event.op with
  | .findTwoFactor _ => true
  | _ => false

/-- Whether an answer has stored a record. -/
def stores (id : String) (event : Event auth) : Bool :=
  match event with
  | ⟨.saveTwoFactor row, .ok _⟩ => decide (row.id = id)
  | _ => false

variable {config : AuthConfig}

abbrev Seen (config : AuthConfig) :=
  View (spending config.libraries) (authProcess config checksCodes)

/-- The condition on a run: when the record that a call saves is stored, nobody has stored
that record since this call's lookup. -/
def OneAtATime (config : AuthConfig) :
    AnswerCondition (spending config.libraries) (authProcess config checksCodes) :=
  fun v i op result =>
    match op, result with
    | .saveTwoFactor row, .ok _ => writtenSince looksUp (stores row.id) i v.trace = false
    | _, _ => True

/-- The calls that have used a code of a record. -/
def usedBy (v : Seen config) (id hash : String) : Nat := v.phases.count (Stage.used id hash)

structure Spending (initial : AuthWorld) (v : Seen config) : Prop where
  ids : v.world.twoFactors.rows.map (·.id) = initial.twoFactors.rows.map (·.id)
  /-- The codes that a record has lost are those that calls have used. -/
  left : ∀ row ∈ initial.twoFactors.rows, ∀ row' ∈ v.world.twoFactors.rows, row'.id = row.id →
    ∀ hash, row'.backupCodes.count hash + usedBy v row.id hash = row.backupCodes.count hash
  /-- What a call has found is still there when nobody has stored it. -/
  found {i : Nat} {code : Option String} {row : TwoFactorAuth} :
    v.phases[i]? = some (Stage.found code row) →
      row.id ∈ initial.twoFactors.rows.map (·.id) ∧
      (writtenSince looksUp (stores row.id) i v.trace = false → row ∈ v.world.twoFactors.rows)
  used {i : Nat} {id hash : String} : v.phases[i]? = some (Stage.used id hash) →
    id ∈ initial.twoFactors.rows.map (·.id)

theorem respond_quiet {libraries : AuthLibraries} {world world' : AuthWorld} {op : AuthOp}
    {outcome : AuthOutcome} {result : Except Exception op.Reply} {stage : Stage}
    (allowed : stage.allows op) (quiet : ∀ id, stores id ⟨op, result⟩ = false)
    (responds : world.respond libraries op outcome = some (world', result)) :
    world'.twoFactors = world.twoFactors := by
  cases op with
  | saveTwoFactor row =>
    cases result with
    | error failure =>
      cases outcome with
      | fails failure => rw [(respond_fails responds).1]
      | done => cases responds
      | made id => cases responds
    | ok answer =>
      have stored := quiet row.id
      simp [stores] at stored
  | findTwoFactor _ | findUser _ | insertRefreshToken _ =>
    exact ((respond_frame responds).twoFactors rfl).1
  | _ => cases stage <;> exact allowed.elim

section Steps
variable {initial : AuthWorld} {v : Seen config} {i : Nat} {stage after : Stage} {world : AuthWorld}

/-- An answer that stores nothing and uses no code; a record that the call has found by it
is in the table. -/
theorem Spending.quiet {op : AuthOp} {result : Except Exception op.Reply}
    (holds : Spending initial v) (before : v.phases[i]? = some stage) (same : world.twoFactors = v.world.twoFactors)
    (uses : ∀ id hash, stage = .used id hash ↔ after = .used id hash)
    (looked : looksUp ⟨op, result⟩ = true → ∀ code row, stage ≠ .found code row)
    (finds : ∀ code row, after = .found code row → stage = after ∨ row ∈ v.world.twoFactors.rows) : Spending initial
      (⟨world, v.phases.set i after, v.trace ++ [(i, ⟨op, result⟩)]⟩ : Seen config) := by
  obtain ⟨inside, here⟩ := List.getElem?_eq_some_iff.mp before
  have counts : ∀ id hash, (v.phases.set i after).count (Stage.used id hash) =
      usedBy v id hash := by
    intro id hash
    have counted := List.count_set (a := after) (b := Stage.used id hash) inside
    rw [here] at counted
    by_cases now : after = Stage.used id hash
    · have then_used := (uses id hash).mpr now
      subst then_used
      subst now
      have positive : 0 < v.phases.count (Stage.used id hash) :=
        List.count_pos_iff.mpr (List.mem_of_getElem? before)
      simp only [beq_self_eq_true, if_true] at counted
      unfold usedBy
      omega
    · have not_before : stage ≠ Stage.used id hash := fun used => now ((uses id hash).mp used)
      simpa [now, not_before, usedBy] using counted
  refine ⟨by rw [same]; exact holds.ids, fun row member row' member' named hash => ?_,
    fun {j code row} now => ?_, fun {j id hash} now => ?_⟩
  · rw [usedBy, counts]
    rw [same] at member'
    exact holds.left row member row' member' named hash
  · rw [same]
    have earlier : v.phases[j]? = some (Stage.found code row) →
        row.id ∈ initial.twoFactors.rows.map (·.id) ∧
        (writtenSince looksUp (stores row.id) j (v.trace ++ [(i, ⟨op, result⟩)]) = false →
          row ∈ v.world.twoFactors.rows) := by
      intro old
      obtain ⟨known, kept⟩ := holds.found old
      refine ⟨known, fun untouched => kept (not_written_before untouched fun looks own => ?_)⟩
      subst own
      rw [before] at old
      exact looked looks code row (Option.some.inj old)
    rcases getElem?_set_cases now with ⟨rfl, rfl⟩ | ⟨_, old⟩
    · rcases finds code row rfl with rfl | member
      · exact earlier before
      · refine ⟨?_, fun _ => member⟩
        rw [← holds.ids]
        exact List.mem_map_of_mem member
    · exact earlier old
  · rcases getElem?_set_cases now with ⟨rfl, rfl⟩ | ⟨_, old⟩
    · exact holds.used (((uses id hash).mpr rfl) ▸ before)
    · exact holds.used old

theorem usedBy_set {before : Stage} {trace : List (Nat × Event auth)} {id hash : String}
    (here : v.phases[i]? = some before) (unused : before ≠ .used id hash) :
    usedBy (⟨world, v.phases.set i after, trace⟩ : Seen config) id hash =
      usedBy v id hash + if after = .used id hash then 1 else 0 := by
  obtain ⟨inside, same⟩ := List.getElem?_eq_some_iff.mp here
  have counted := List.count_set (a := after) (b := Stage.used id hash) inside
  rw [same] at counted
  simpa [usedBy, unused] using counted

theorem Spending.store {code : Option String} {row changed : TwoFactorAuth}
    (holds : Spending initial v) (before : v.phases[i]? = some (Stage.found code row))
    (may : mayStore code row changed) (untouched : writtenSince looksUp (stores changed.id) i v.trace = false) :
    Spending initial
      (⟨{ v.world with twoFactors := v.world.twoFactors.save changed },
        v.phases.set i (Stage.after (.found code row) (.saveTwoFactor changed) (.ok ())),
        v.trace ++ [(i, ⟨.saveTwoFactor changed, .ok ()⟩)]⟩ : Seen config) := by
  obtain ⟨named, codes⟩ := may
  rw [named] at untouched
  obtain ⟨known, kept⟩ := holds.found before
  have stored := kept untouched
  have present : changed.id ∈ v.world.twoFactors.rows.map (·.id) := by
    rw [holds.ids, named]
    exact known
  have uses : ∀ id hash,
      Stage.after (.found code row) (.saveTwoFactor changed) (.ok ()) = .used id hash →
        id = row.id ∧ code = some hash ∧ changed.backupCodes ≠ row.backupCodes := by
    intro id hash same
    cases code with
    | none => cases same
    | some presented =>
      by_cases kept : changed.backupCodes = row.backupCodes
      · simp [Stage.after, kept] at same
      · obtain ⟨rfl, rfl⟩ : row.id = id ∧ presented = hash := by
          simpa [Stage.after, kept] using same
        exact ⟨rfl, rfl, kept⟩
  refine ⟨(Table.save_keys present).trans holds.ids,
    fun first member stored' member' same hash => ?_, fun {j code' other} now => ?_,
    fun {j id hash} now => ?_⟩
  · rw [usedBy_set before (by simp)]
    rcases Table.mem_save.mp member' with rfl | ⟨old, differs⟩
    · have owned : row.id = first.id := named.symm.trans same
      have counted := holds.left first member row stored owned hash
      rcases codes with unchanged | ⟨used, listed, rfl, erased⟩
      · have none_used : Stage.after (.found code row) (.saveTwoFactor stored') (.ok ()) ≠
            .used first.id hash := fun now => (uses _ _ now).2.2 unchanged
        rw [unchanged, if_neg none_used]
        exact counted
      · have shorter := List.length_erase_of_mem listed
        have some_left := List.length_pos_of_mem listed
        have changes : stored'.backupCodes ≠ row.backupCodes := fun equal => by
          rw [← erased, equal] at shorter
          omega
        have now : Stage.after (.found (some used) row) (.saveTwoFactor stored') (.ok ()) =
            .used row.id used := if_neg changes
        rw [now, erased, owned, List.count_erase]
        by_cases equal : used = hash
        · subst equal
          have positive := List.count_pos_iff.mpr listed
          simp only [beq_self_eq_true, if_true]
          omega
        · simp [equal, counted]
    · have other : Stage.after (.found code row) (.saveTwoFactor changed) (.ok ()) ≠
          .used first.id hash := fun now =>
        differs (same.trans ((uses _ _ now).1.trans named.symm))
      rw [if_neg other]
      exact holds.left first member stored' old same hash
  · rcases getElem?_set_cases now with ⟨rfl, found⟩ | ⟨_, old⟩
    · cases code with
      | none => cases found
      | some presented =>
        simp only [Stage.after] at found
        split at found <;> cases found
    · obtain ⟨listed, intact⟩ := holds.found old
      refine ⟨listed, fun quiet => ?_⟩
      have differs : changed.id ≠ other.id := fun same => by
        have seen : writtenSince looksUp (stores other.id) j
            (v.trace ++ [(i, ⟨.saveTwoFactor changed, .ok ()⟩)]) = true :=
          writtenSince_write rfl (by simp [stores, same])
        rw [seen] at quiet
        cases quiet
      have member := intact (not_written_before quiet fun looks => by cases looks)
      exact Table.mem_save.mpr (Or.inr ⟨member, fun same => differs same.symm⟩)
  · rcases getElem?_set_cases now with ⟨rfl, here⟩ | ⟨_, old⟩
    · rw [(uses id hash here.symm).1]
      exact known
    · exact holds.used old

end Steps

theorem Spending.reply {initial : AuthWorld} {v : Seen config} {i : Nat} {stage : Stage}
    {op : AuthOp} {outcome : AuthOutcome} {world : AuthWorld} {result : Except Exception op.Reply}
    (holds : Spending initial v) (before : v.phases[i]? = some stage) (allowed : stage.allows op)
    (responds : v.world.respond config.libraries op outcome = some (world, result))
    (condition : OneAtATime config v i op result) : Spending initial
      (⟨world, v.phases.set i (stage.after op result), v.trace ++ [(i, ⟨op, result⟩)]⟩ : Seen config) := by
  cases stage with
  | fresh code =>
    cases op with
    | findTwoFactor query =>
      have same := respond_quiet allowed (fun _ => rfl) responds
      refine holds.quiet before same (fun id hash => ?_) (fun _ _ _ => by simp)
        fun code' row found => ?_
      · rcases result with failure | _ | row <;> simp [Stage.after]
      · rcases result with failure | _ | row
        · cases found
        · cases found
        · cases found
          exact Or.inr (TwoFactorHistory.respond_findTwoFactor responds)
    | _ => exact allowed.elim
  | found code row =>
    cases op with
    | saveTwoFactor changed =>
      cases result with
      | error failure =>
        have same := respond_quiet allowed (fun _ => rfl) responds
        exact holds.quiet before same (fun _ _ => by simp [Stage.after])
          (fun looks => by cases looks) fun _ _ found => by cases found
      | ok answer =>
        cases outcome with
        | done =>
          cases responds
          exact holds.store before allowed condition
        | made id => cases responds
        | fails failure => cases responds
    | _ => exact allowed.elim
  | used _ _ | settled _ =>
    have quiet : ∀ other, stores other ⟨op, result⟩ = false := by
      intro other
      cases op <;> first | exact allowed.elim | rfl
    have same := respond_quiet allowed quiet responds
    exact holds.quiet before same (fun _ _ => Iff.rfl) (fun _ _ _ => by simp)
      fun _ _ found => by cases found

theorem start_not_engaged (libraries : AuthLibraries) (call : AuthCall) :
    (∀ code row, Stage.start libraries call ≠ .found code row) ∧
      ∀ id hash, Stage.start libraries call ≠ .used id hash := by
  cases call <;> exact ⟨fun _ _ => by simp [Stage.start], fun _ _ => by simp [Stage.start]⟩

theorem Spending.moves {initial : AuthWorld} {v v' : Seen config} (holds : Spending initial v)
    (moved : Moves (spending config.libraries) (OneAtATime config) v v') : Spending initial v' := by
  cases moved with
  | calls new started =>
    have none_used : ∀ id hash,
        (new.map (Stage.start config.libraries)).count (Stage.used id hash) = 0 := by
      intro id hash
      refine List.count_eq_zero_of_not_mem fun listed => ?_
      obtain ⟨call, _, same⟩ := List.mem_map.mp listed
      exact (start_not_engaged config.libraries call).2 id hash same
    refine ⟨holds.ids, fun row member row' member' named hash => ?_, fun {j code row} now => ?_,
      fun {j id hash} now => ?_⟩
    · rw [usedBy, List.count_append, none_used]
      exact holds.left row member row' member' named hash
    · rcases getElem?_append_cases now with old | started
      · exact holds.found old
      · obtain ⟨call, _, same⟩ := List.mem_map.mp started
        exact absurd same ((start_not_engaged config.libraries call).1 code row)
    · rcases getElem?_append_cases now with old | started
      · exact holds.used old
      · obtain ⟨call, _, same⟩ := List.mem_map.mp started
        exact absurd same ((start_not_engaged config.libraries call).2 id hash)
  | env mem change => exact ⟨holds.ids, holds.left, holds.found, holds.used⟩
  | reply i stage op outcome world result found allowed responds condition =>
    exact holds.reply found allowed responds condition

theorem Spending.initial (world : AuthWorld) : Spending world (⟨world, [], []⟩ : Seen config) where
  ids := rfl
  left row member row' member' named hash := by
    have same : row' = row := List.inj_on_of_nodup_map world.twoFactors.unique member' member named
    rw [same]
    rfl
  found h := by cases h
  used h := by cases h

/-- The record and the code that a call has used up. -/
def acceptedCode (config : AuthConfig) (task : Task auth) : Option (String × String) :=
  match (phaseOf (spending config.libraries) task : Stage) with
  | .used id hash => some (id, hash)
  | _ => none

/-- The codes of a record that calls have used up. -/
def acceptedCodes (c : Config (authProcess config checksCodes)) (id : String) : List String :=
  (c.pool.filterMap (acceptedCode config)).filterMap fun used =>
    if used.1 = id then some used.2 else none

theorem count_acceptedCodes (c : Config (authProcess config checksCodes)) (id hash : String) :
    (acceptedCodes c id).count hash = (phases (spending config.libraries) c).count (Stage.used id hash) := by
  unfold acceptedCodes phases
  induction c.pool with
  | nil => rfl
  | cons task rest ih =>
    rw [List.filterMap_cons, List.map_cons, List.count_cons]
    unfold acceptedCode at ih ⊢
    cases stage : (phaseOf (spending config.libraries) task : Stage) with
    | used other code =>
      by_cases here : other = id
      · subst here
        by_cases same : code = hash
        · subst same
          simp [ih]
        · simp [ih, same]
      · simp [ih, here]
    | _ => simp [ih]

/-- The code check of a call. -/
def checked : AuthCall → Option TwoFactorVerifyDto
  | .verifyTwoFactorLogin _ dto _ | .verifyWalletTwoFactorAndIssueToken _ dto => some dto
  | _ => none

/-- The codes that a record had are those that it has and those that calls have used up,
each as often; and every call that has returned for a backup code has used that up. -/
structure SingleUse (world : AuthWorld) (c : Config (authProcess config checksCodes)) : Prop where
  left : ∀ row ∈ world.twoFactors.rows, ∃ row' ∈ c.world.twoFactors.rows, row'.id = row.id ∧
    (row'.backupCodes ++ acceptedCodes c row.id).Perm row.backupCodes
  accepted : ∀ task ∈ c.pool, ∀ dto hash value, checked task.call = some dto →
    presented config.libraries dto = some hash → task.result = some (.ok value) →
    ∃ row ∈ world.twoFactors.rows, acceptedCode config task = some (row.id, hash)

/-- What a call presents stays the same. -/
def Stage.presents (code : Option String) : Stage → Prop
  | .fresh presented | .found presented _ | .settled presented => presented = code
  | .used _ hash => code = some hash

theorem Stage.after_presents {code : Option String} {stage : Stage} {op : AuthOp}
    {result : Except Exception op.Reply} (presents : stage.presents code) :
    (stage.after op result).presents code := by
  cases stage with
  | fresh presented =>
    unfold Stage.after
    split <;> simp_all [Stage.presents]
  | found presented row =>
    cases op with
    | saveTwoFactor changed =>
      cases result with
      | error failure => exact presents
      | ok answer =>
        cases presented with
        | none => exact presents
        | some hash =>
          simp only [Stage.after]
          split
          next => exact presents
          next => exact presents.symm
    | _ => exact presents
  | used id hash => exact presents
  | settled presented => exact presents

theorem used_of_returned {c : Config (authProcess config checksCodes)}
    (keep : AllKeep (spending config.libraries) c) {i : Nat} {task : Task auth}
    {dto : TwoFactorVerifyDto} {hash : String} {value : AuthValue} (found : c.pool[i]? = some task)
    (checks : checked task.call = some dto) (presents : presented config.libraries dto = some hash)
    (returned : task.result = some (.ok value)) :
    ∃ id, (phaseOf (spending config.libraries) task : Stage) = .used id hash := by
  have returns : (phaseOf (spending config.libraries) task : Stage).returns (.ok value) :=
    returns_of_result keep found returned
  have carries : (phaseOf (spending config.libraries) task : Stage).presents (some hash) := by
    refine phaseOf_keeps (P := spending config.libraries)
      (fun stage : Stage => stage.presents (some hash)) (fun _ _ _ => Stage.after_presents) ?_
    cases called : task.call with
    | verifyTwoFactorLogin userId given clientInfo =>
      rw [called] at checks
      cases checks
      exact presents
    | verifyWalletTwoFactorAndIssueToken userId given =>
      rw [called] at checks
      cases checks
      exact presents
    | _ =>
      rw [called] at checks
      cases checks
  generalize (phaseOf (spending config.libraries) task : Stage) = stage at *
  cases stage with
  | used id code =>
    cases carries
    exact ⟨id, rfl⟩
  | settled code =>
    cases carries
    obtain ⟨failure, impossible⟩ := returns
    cases impossible
  | _ =>
    obtain ⟨failure, impossible⟩ := returns
    cases impossible

/-- In every run in which each record that a call saves is stored before anybody else stores
it after the call's lookup, a backup code is used once. -/
theorem backup_codes_used_once (config : AuthConfig) (world : AuthWorld) (mem : AuthMemory)
    (labels : List (Label (authProcess config checksCodes))) (after : Config (authProcess config checksCodes))
    (condition : Admissible (OnAnswers (spending config.libraries) (OneAtATime config)) labels
      (Config.initial (authProcess config checksCodes) world mem))
    (ran : run labels (Config.initial (authProcess config checksCodes) world mem) = some after) :
    SingleUse world after := by
  have start : Spending world
      (view (spending config.libraries)
        (Config.initial (authProcess config checksCodes) world mem)) := Spending.initial world
  obtain ⟨holds, keep⟩ := invariant_of_moves (checks_conform config)
    (fun _ _ holds moved => Spending.moves holds moved) (allKeep_initial world mem) start
    condition ran
  refine ⟨fun row member => ?_, fun task member dto hash value checks presents returned => ?_⟩
  · have listed : row.id ∈ (view (spending config.libraries) after).world.twoFactors.rows.map
        (·.id) := by
      rw [holds.ids]
      exact List.mem_map_of_mem member
    obtain ⟨row', member', named⟩ := List.mem_map.mp listed
    refine ⟨row', member', named, List.perm_iff_count.mpr fun hash => ?_⟩
    rw [List.count_append, count_acceptedCodes]
    exact holds.left row member row' member' named hash
  · obtain ⟨i, found⟩ := List.mem_iff_getElem?.mp member
    obtain ⟨id, used⟩ := used_of_returned keep found checks presents returned
    have phase : (view (spending config.libraries) after).phases[i]? =
        some (Stage.used id hash) := by
      simp [view, phases, found, used]
    obtain ⟨row, known, named⟩ := List.mem_map.mp (holds.used phase)
    refine ⟨row, known, ?_⟩
    simp [acceptedCode, used, named]

/-- The sample account with two-factor enabled and two backup codes. -/
def codesWorld : AuthWorld :=
  { sampleAuthWorld with
    twoFactors := ⟨[{
      id := "f1"
      userId := "u1"
      status := .verified
      secret := "seed"
      backupCodes := ["digest of AAAA1111", "digest of BBBB2222"]
      isEnabled := true
      failedAttempts := 0
      lockedUntil := none
      verifiedAt := some 900000
      lastUsedAt := none }], by simp⟩ }

abbrev codesStart : Config (authProcess sampleConfig checksCodes) :=
  Config.initial (authProcess sampleConfig checksCodes) codesWorld sampleAuthMemory

def presentCode (code : String) : AuthCall :=
  .verifyTwoFactorLogin "u1" ⟨none, some code⟩ ⟨none, none⟩

/-- Two codes, one call after the other. -/
def codesInTurn : List (Label (authProcess sampleConfig checksCodes)) :=
  [.call (presentCode "aaaa-1111"), .reply 0 AuthOutcome.done, .resume 0,
    .reply 0 AuthOutcome.done, .reply 0 AuthOutcome.done, .resume 0,
    .reply 0 (AuthOutcome.made "t1"),
    .call (presentCode "bbbb-2222"), .reply 1 AuthOutcome.done, .resume 1,
    .reply 1 AuthOutcome.done]

theorem codesInTurn_in_turn : Admissible (OnAnswers (spending sampleLibraries) (OneAtATime sampleConfig)) codesInTurn
      codesStart := by
  refine admissible_cons trivial rfl (admissible_cons ?_ rfl (admissible_cons trivial rfl
    (admissible_cons ?_ rfl (admissible_cons ?_ rfl (admissible_cons trivial rfl
    (admissible_cons ?_ rfl (admissible_cons trivial rfl (admissible_cons ?_ rfl
    (admissible_cons trivial rfl (admissible_cons ?_ rfl trivial))))))))))
  · exact onAnswers_reply _ _ rfl trivial
  · exact onAnswers_reply _ _ rfl rfl
  · exact onAnswers_reply _ _ rfl trivial
  · exact onAnswers_reply _ _ rfl trivial
  · exact onAnswers_reply _ _ rfl trivial
  · exact onAnswers_reply _ _ rfl rfl

theorem backup_codes_used_once_in_turn :
    ∃ after, run codesInTurn codesStart = some after ∧ SingleUse codesWorld after :=
  ⟨_, rfl, backup_codes_used_once sampleConfig codesWorld sampleAuthMemory codesInTurn _
    codesInTurn_in_turn rfl⟩

/-- Two calls with the same code look the record up before either saves it. -/
def codeAtOnce : List (Label (authProcess sampleConfig checksCodes)) :=
  [.call (presentCode "aaaa-1111"), .call (presentCode "AAAA1111"), .reply 0 AuthOutcome.done,
    .reply 1 AuthOutcome.done, .resume 0, .resume 1, .reply 0 AuthOutcome.done,
    .reply 1 AuthOutcome.done]

theorem backup_code_used_twice : ∃ after, run codeAtOnce codesStart = some after ∧ ¬ SingleUse codesWorld after := by
  refine ⟨_, rfl, fun once => ?_⟩
  obtain ⟨row', _, _, codes⟩ := once.left _ List.mem_cons_self
  have counted := codes.count_eq "digest of AAAA1111"
  rw [List.count_append] at counted
  have short : row'.backupCodes.count "digest of AAAA1111" + 2 = 1 := counted
  omega

end AlianStructure.Guarantees.BackupCodes
