import AlianStructure.Guarantees.AuthCalls

/-!
# A refresh token is used once

Source: enhanced-auth.service.ts:204-243,553-593. A call that presents the token finds
its row, checks that it is valid, issues the new pair and then revokes the row, whatever
the row has become in between. A row once revoked stays revoked, so all depends on what
other calls store between a call's lookup and its own revocation.
-/
namespace AlianStructure.Guarantees.RefreshRotation
open Library.Interleaving Library.CallProtocol Library.KeyedTable
open Source Source.Auth AuthCalls

/-! ## Stages of a call -/

/-- How far a call is with the token; `other` is a call that presents another one. -/
inductive Stage where
  | other
  | fresh
  | found (id : String)
  | revoked
  | failed
  deriving DecidableEq

def Stage.start (token : String) : AuthCall → Stage
  | .refreshToken presented _ _ => if presented = token then .fresh else .other
  | _ => .other

def Stage.allows (token : String) : Stage → AuthOp → Prop
  | .other, .findRefreshToken _ | .other, .findTwoFactor _ | .other, .insertRefreshToken _
  | .other, .revokeRefreshToken _ _ _ => True
  | .fresh, .findRefreshToken presented => presented = token
  | .found _, .findTwoFactor _ | .found _, .insertRefreshToken _ => True
  | .found id, .revokeRefreshToken rowId _ _ => rowId = id
  | _, _ => False

def Stage.after : Stage → (op : AuthOp) → Except Exception op.Reply → Stage
  | .fresh, .findRefreshToken _, .ok (some (row, _)) => .found row.id
  | .fresh, .findRefreshToken _, _ => .failed
  | .found _, .findTwoFactor _, .error _ | .found _, .insertRefreshToken _, .error _ => .failed
  | .found _, .revokeRefreshToken _ _ _, .error _ => .failed
  | .found _, .revokeRefreshToken _ _ _, .ok _ => .revoked
  | stage, _, _ => stage

/-- Only a call that has revoked the token returns. -/
def Stage.returns : Stage → Except Exception AuthValue → Prop
  | .other, _ | .revoked, _ => True
  | _, result => ∃ failure, result = .error failure

abbrev rotation (token : String) : Protocol auth where
  Phase := Stage
  start := Stage.start token
  starts _ _ := False
  allows := Stage.allows token
  possible _ _ := True
  advance := Stage.after
  returns := Stage.returns

/-- The process, open to refreshes with any token. -/
def refreshes : AuthCall → Bool
  | .refreshToken _ _ _ => true
  | _ => false

section Programs
variable {token : String} {userAgent : Option String}

theorem generateTokens_follows {stage : Stage} {user : User} {ipAddress : String} {verified : Bool}
    {post : Stage → Except Exception TokenPair → Prop}
    (allowed : ∀ entity, stage.allows token (.insertRefreshToken entity))
    (issued : ∀ entity id pair, post (stage.after (.insertRefreshToken entity) (.ok id)) (.ok pair))
    (refused : ∀ entity failure, post (stage.after (.insertRefreshToken entity) (.error failure)) (.error failure)) :
    Follows (rotation token) stage (EnhancedAuthService.generateTokens user ipAddress userAgent verified) post := by
  unfold EnhancedAuthService.generateTokens
  refine clock_then fun now => ?_
  rw [follows_bind]
  refine draw_follows fun value => ?_
  rw [afterOk_ok, follows_bind]
  refine ask_follows (allowed _) fun result _ => ?_
  cases result with
  | error failure => exact refused _ failure
  | ok id => exact issued _ id _

theorem isTwoFactorEnabled_follows {stage : Stage} {userId : String} {post : Stage → Except Exception Bool → Prop}
    (allowed : ∀ query, stage.allows token (.findTwoFactor query)) (answered : ∀ query row enabled,
      post (stage.after (.findTwoFactor query) (.ok row)) (.ok enabled)) (refused : ∀ query failure,
      post (stage.after (.findTwoFactor query) (.error failure)) (.error failure)) :
    Follows (rotation token) stage (EnhancedAuthService.isTwoFactorEnabled userId) post := by
  unfold EnhancedAuthService.isTwoFactorEnabled
  rw [follows_bind]
  refine ask_follows (allowed _) fun result _ => ?_
  cases result with
  | error failure => exact refused _ failure
  | ok row => exact answered _ row _

theorem rotate_follows (entity : RefreshToken) (user : User) (ipAddress : String) (userAgent : Option String) :
    Follows (rotation token) (.found entity.id) (EnhancedAuthService.rotate entity user ipAddress userAgent)
      fun stage result => stage.returns (result.map AuthValue.tokens) := by
  unfold EnhancedAuthService.rotate
  rw [follows_bind]
  refine isTwoFactorEnabled_follows (fun _ => trivial) (fun _ _ enabled => ?_)
    fun _ failure => ⟨failure, rfl⟩
  rw [afterOk_ok, follows_bind]
  refine generateTokens_follows (fun _ => trivial) (fun _ _ pair => ?_)
    fun _ failure => ⟨failure, rfl⟩
  rw [afterOk_ok]
  refine clock_then fun now => ?_
  rw [follows_bind]
  refine ask_follows (P := rotation token) rfl fun result _ => ?_
  cases result with
  | error failure => exact ⟨failure, rfl⟩
  | ok _ => trivial

theorem rotate_other (entity : RefreshToken) (user : User) (ipAddress : String) (userAgent : Option String) :
    Follows (rotation token) .other (EnhancedAuthService.rotate entity user ipAddress userAgent)
      fun stage _ => stage = .other := by
  unfold EnhancedAuthService.rotate
  rw [follows_bind]
  refine isTwoFactorEnabled_follows (fun _ => trivial) (fun _ _ enabled => ?_) fun _ _ => rfl
  rw [afterOk_ok, follows_bind]
  refine generateTokens_follows (fun _ => trivial) (fun _ _ pair => ?_) fun _ _ => rfl
  rw [afterOk_ok]
  refine clock_then fun now => ?_
  rw [follows_bind]
  refine ask_follows (P := rotation token) trivial fun result _ => ?_
  cases result <;> rfl

theorem refreshToken_follows (ipAddress : String) (userAgent : Option String) :
    Follows (rotation token) .fresh (EnhancedAuthService.refreshToken token ipAddress userAgent)
      fun stage result => stage.returns (result.map AuthValue.tokens) := by
  unfold EnhancedAuthService.refreshToken
  rw [follows_bind]
  refine ask_follows (P := rotation token) rfl fun found _ => ?_
  match found with
  | .error failure => exact ⟨failure, rfl⟩
  | .ok none => exact ⟨_, rfl⟩
  | .ok (some (entity, user)) =>
    rw [afterOk_ok]
    dsimp only
    refine clock_then fun now => ?_
    split
    next => exact ⟨_, rfl⟩
    next => exact rotate_follows entity user ipAddress userAgent

theorem refreshToken_other (presented ipAddress : String) (userAgent : Option String) :
    Follows (rotation token) .other (EnhancedAuthService.refreshToken presented ipAddress userAgent)
      fun stage _ => stage = .other := by
  unfold EnhancedAuthService.refreshToken
  rw [follows_bind]
  refine ask_follows (P := rotation token) trivial fun found _ => ?_
  match found with
  | .error failure => rfl
  | .ok none => rfl
  | .ok (some (entity, user)) =>
    rw [afterOk_ok]
    dsimp only
    refine clock_then fun now => ?_
    split
    next => rfl
    next => exact rotate_other entity user ipAddress userAgent

end Programs

theorem refresh_conforms (token : String) (config : AuthConfig) :
    Conforms (rotation token) (authProcess config refreshes) where
  body call startable := by
    obtain isPublic | ⟨_, never⟩ := startable
    · cases call with
      | refreshToken presented ipAddress userAgent =>
        refine keeps_returning ?_
        by_cases same : presented = token
        · simp only [Stage.start, if_pos same]
          subst same
          exact refreshToken_follows ipAddress userAgent
        · simp only [Stage.start, if_neg same]
          refine follows_mono _ ?_ (refreshToken_other presented ipAddress userAgent)
          rintro stage result rfl
          trivial
      | _ => cases isPublic
    · exact never.elim
  possible _ _ _ _ _ _ := trivial

/-! ## The rows -/

/-- The row that an answer has revoked. -/
def revokes : (op : AuthOp) → Except Exception op.Reply → Option String
  | .revokeRefreshToken id _ _, .ok _ => some id
  | _, _ => none

/-- Tokens stay unique and rows stay; only a revocation revokes. -/
structure Kept (revoked : Option String) (rows rows' : List RefreshToken) : Prop where
  unique : (rows.map (·.token)).Nodup → (rows'.map (·.token)).Nodup
  row : ∀ row ∈ rows, ∃ row' ∈ rows', row'.id = row.id ∧ row'.token = row.token ∧
    (row'.revoked = true ↔ row.revoked = true ∨ revoked = some row.id)

theorem Kept.refl (rows : List RefreshToken) : Kept none rows rows where
  unique := id
  row row member := ⟨row, member, rfl, rfl, by simp⟩

theorem kept_insert (world : AuthWorld) (entity : RefreshToken) (new : world.refreshTokens.findOne entity.id = none) :
    Kept none world.refreshTokens.rows (world.insertRefreshToken entity).1.refreshTokens.rows := by
  unfold AuthWorld.insertRefreshToken
  split
  next => exact Kept.refl _
  next free =>
    have fresh : entity.id ∉ world.refreshTokens.rows.map (·.id) := Table.findOne_eq_none.mp new
    have rows : (world.refreshTokens.save entity).rows = world.refreshTokens.rows ++ [entity] := by
      unfold Table.save
      rw [dif_neg fresh]
    dsimp only
    rw [rows]
    refine ⟨fun unique => ?_, fun row member => ⟨row, by simp [member], rfl, rfl, by simp⟩⟩
    rw [List.map_append, List.map_singleton]
    refine List.nodup_append.mpr ⟨unique, List.nodup_singleton _, ?_⟩
    rintro taken old _ added rfl
    rw [List.mem_singleton] at added
    obtain ⟨row, member, same⟩ := List.mem_map.mp old
    exact free (List.any_eq_true.mpr ⟨row, member, by simp [same, added]⟩)

theorem kept_revoke (table : Table RefreshToken RefreshToken.id) (id : String) (revokedAt : Nat)
    (replacedByToken : String) : Kept (some id) table.rows (table.modify (fun row => decide (row.id = id))
      (·.revoke revokedAt replacedByToken) fun _ => rfl).rows where
  unique unique := by
    have tokens : ((table.modify (fun row => decide (row.id = id))
        (·.revoke revokedAt replacedByToken) fun _ => rfl).rows.map (·.token)) =
        table.rows.map (·.token) := by
      simp only [Table.modify, List.map_map]
      refine List.map_congr_left fun row _ => ?_
      simp only [Function.comp_apply]
      split <;> rfl
    rw [tokens]
    exact unique
  row row member := by
    refine ⟨_, List.mem_map_of_mem member, ?_, ?_, ?_⟩
    · split <;> rfl
    · split <;> rfl
    · split
      next same => simp [RefreshToken.revoke, of_decide_eq_true same]
      next other =>
        have different : id ≠ row.id := fun same => other (by simp [same])
        simp [different]

variable {op : AuthOp} {result : Except Exception op.Reply}

theorem respond_kept {libraries : AuthLibraries} {world world' : AuthWorld} {outcome : AuthOutcome}
    {token : String} {stage : Stage} (allowed : stage.allows token op)
    (responds : world.respond libraries op outcome = some (world', result)) :
    Kept (revokes op result) world.refreshTokens.rows world'.refreshTokens.rows := by
  cases outcome with
  | fails failure =>
    have unchanged : world' = world ∧ result = .error failure := by
      cases op <;> cases responds <;> exact ⟨rfl, rfl⟩
    obtain ⟨rfl, rfl⟩ := unchanged
    have none_revoked : revokes op (.error failure) = none := by cases op <;> rfl
    rw [none_revoked]
    exact Kept.refl _
  | done =>
    cases op with
    | findRefreshToken presented =>
      cases responds
      exact Kept.refl _
    | findTwoFactor query =>
      cases responds
      exact Kept.refl _
    | insertRefreshToken entity => cases responds
    | revokeRefreshToken id revokedAt replacedByToken =>
      cases responds
      exact kept_revoke world.refreshTokens id revokedAt replacedByToken
    | _ => cases stage <;> exact allowed.elim
  | made id =>
    cases op with
    | insertRefreshToken entity =>
      have none_revoked : revokes (.insertRefreshToken entity) result = none := by
        cases result <;> rfl
      rw [none_revoked]
      simp only [AuthWorld.respond] at responds
      split at responds
      next => cases responds
      next unused =>
        have new : world.refreshTokens.findOne id = none := by simpa using unused
        have replied := Option.some.inj responds
        have kept := kept_insert world { entity with id := id } new
        rw [replied] at kept
        exact kept
    | findRefreshToken presented => cases responds
    | findTwoFactor query => cases responds
    | revokeRefreshToken rowId revokedAt replacedByToken => cases responds
    | _ => cases stage <;> exact allowed.elim

theorem respond_findRefreshToken {libraries : AuthLibraries} {world world' : AuthWorld}
    {token : String} {outcome : AuthOutcome} {row : RefreshToken} {user : User}
    (responds : world.respond libraries (.findRefreshToken token) outcome = some (world', .ok (some (row, user)))) :
    world' = world ∧ row ∈ world.refreshTokens.rows ∧ row.token = token ∧ row.revoked = false := by
  cases outcome with
  | done =>
    have replied := Option.some.inj responds
    obtain ⟨rfl, answer⟩ := Prod.mk.inj replied
    have answer := Except.ok.inj answer
    unfold AuthWorld.findRefreshToken at answer
    split at answer
    next => cases answer
    next entity found =>
      obtain ⟨owner, _, joined⟩ := Option.map_eq_some_iff.mp answer
      obtain ⟨rfl, _⟩ := Prod.mk.inj joined
      have valid := List.find?_some found
      simp only [Bool.and_eq_true, decide_eq_true_eq, Bool.not_eq_true'] at valid
      exact ⟨rfl, List.mem_of_find?_eq_some found, valid.1, valid.2⟩
  | made text => cases responds
  | fails failure => cases responds

/-! ## The condition and the invariant -/

/-- Whether the row has been revoked since the call looked it up. -/
def revokedSince (i : Nat) (id : String) (trace : List (Nat × Event auth)) : Bool :=
  trace.foldl
    (fun seen entry =>
      match entry.2.op with
      | .findRefreshToken _ => seen && decide (entry.1 ≠ i)
      | _ => seen || decide (revokes entry.2.op entry.2.result = some id))
    false

variable {token : String} {config : AuthConfig}

abbrev Seen (token : String) (config : AuthConfig) :=
  View (rotation token) (authProcess config refreshes)

/-- The condition on a run: when the revocation of a call is stored, no other call has
stored one since this call's lookup. -/
def OneAtATime (token : String) (config : AuthConfig) :
    AnswerCondition (rotation token) (authProcess config refreshes) :=
  fun v i op result =>
    match op, result with
    | .revokeRefreshToken id _ _, .ok _ =>
      v.phases[i]? = some (Stage.found id) → revokedSince i id v.trace = false
    | _, _ => True

structure Rotating (token : String) (config : AuthConfig) (v : Seen token config) : Prop where
  unique : (v.world.refreshTokens.rows.map (·.token)).Nodup
  found {i : Nat} {id : String} : v.phases[i]? = some (Stage.found id) →
    ∃ row ∈ v.world.refreshTokens.rows, row.id = id ∧ row.token = token ∧
      (row.revoked = true → revokedSince i id v.trace = true)
  spent {i : Nat} : v.phases[i]? = some Stage.revoked →
    ∃ row ∈ v.world.refreshTokens.rows, row.token = token ∧ row.revoked = true
  single {i j : Nat} : v.phases[i]? = some Stage.revoked → v.phases[j]? = some Stage.revoked → i = j

theorem revokedSince_append {i j : Nat} {id : String} {trace : List (Nat × Event auth)}
    (other : ∀ presented, op = .findRefreshToken presented → j ≠ i)
    (seen : revokedSince i id trace = true ∨ revokes op result = some id) :
    revokedSince i id (trace ++ [(j, ⟨op, result⟩)]) = true := by
  unfold revokedSince at seen ⊢
  rw [List.foldl_append, List.foldl_cons, List.foldl_nil]
  rcases seen with before | now
  · rw [before]
    cases op with
    | findRefreshToken presented => simpa using other presented rfl
    | _ => rfl
  · cases op with
    | revokeRefreshToken rowId revokedAt replacedByToken => simp [now]
    | _ => cases now

/-- A stage in which a call has the token in its hands. -/
def Stage.engaged : Stage → Prop
  | .found _ | .revoked => True
  | _ => False

theorem start_not_engaged (call : AuthCall) : ¬ (Stage.start token call).engaged := by
  unfold Stage.start
  split
  next => split <;> exact id
  next => exact id

section Steps
variable {v : Seen token config} {i : Nat} {phase after : Stage} {world : AuthWorld}

theorem Rotating.found_kept (holds : Rotating token config v)
    (kept : Kept (revokes op result) v.world.refreshTokens.rows world.refreshTokens.rows)
    (other : ∀ presented, op = .findRefreshToken presented → ¬ phase.engaged)
    (before : v.phases[i]? = some phase) {j : Nat} {id : String} (old : v.phases[j]? = some (Stage.found id)) :
    ∃ row ∈ world.refreshTokens.rows, row.id = id ∧ row.token = token ∧
      (row.revoked = true → revokedSince j id (v.trace ++ [(i, ⟨op, result⟩)]) = true) := by
  obtain ⟨row, member, named, same, seen⟩ := holds.found old
  obtain ⟨row', member', named', same', revoked⟩ := kept.row row member
  refine ⟨row', member', named'.trans named, same'.trans same, fun gone => ?_⟩
  refine revokedSince_append (fun presented lookup here => ?_) ?_
  · subst here
    rw [before] at old
    cases old
    exact other presented lookup trivial
  · rcases revoked.mp gone with earlier | now
    · exact Or.inl (seen earlier)
    · exact Or.inr (named ▸ now)

theorem Rotating.spent_kept (holds : Rotating token config v) {gone : Option String}
    (kept : Kept gone v.world.refreshTokens.rows world.refreshTokens.rows)
    {j : Nat} (old : v.phases[j]? = some Stage.revoked) :
    ∃ row ∈ world.refreshTokens.rows, row.token = token ∧ row.revoked = true := by
  obtain ⟨row, member, same, gone⟩ := holds.spent old
  obtain ⟨row', member', _, same', revoked⟩ := kept.row row member
  exact ⟨row', member', same'.trans same, revoked.mpr (Or.inl gone)⟩

/-- An answer that leaves the call where it is, or after which it has failed. -/
theorem Rotating.stay (holds : Rotating token config v) (before : v.phases[i]? = some phase)
    (kept : Kept (revokes op result) v.world.refreshTokens.rows world.refreshTokens.rows)
    (other : ∀ presented, op = .findRefreshToken presented → ¬ phase.engaged)
    (stays : after = phase ∨ ¬ after.engaged) : Rotating token config
      ⟨world, v.phases.set i after, v.trace ++ [(i, ⟨op, result⟩)]⟩ := by
  have old : ∀ {j : Nat} {stage : Stage}, stage.engaged →
      (v.phases.set i after)[j]? = some stage → v.phases[j]? = some stage := by
    intro j stage engaged now
    rcases getElem?_set_cases now with ⟨rfl, rfl⟩ | ⟨_, now⟩
    · rcases stays with rfl | free
      · exact before
      · exact absurd engaged free
    · exact now
  exact {
    unique := kept.unique holds.unique
    found := fun h => holds.found_kept kept other before (old trivial h)
    spent := fun h => holds.spent_kept kept (old trivial h)
    single := fun ha hb => holds.single (old trivial ha) (old trivial hb) }

theorem Rotating.find {row : RefreshToken} {user : User} {presented : String}
    (holds : Rotating token config v) (before : v.phases[i]? = some Stage.fresh)
    (member : row ∈ v.world.refreshTokens.rows) (same : row.token = token) (valid : row.revoked = false) :
    Rotating token config ⟨v.world, v.phases.set i (.found row.id),
      v.trace ++ [(i, ⟨.findRefreshToken presented, .ok (some (row, user))⟩)]⟩ := by
  have kept : Kept (revokes (.findRefreshToken presented) (.ok (some (row, user))))
      v.world.refreshTokens.rows v.world.refreshTokens.rows := Kept.refl _
  have old : ∀ {j : Nat} {stage : Stage}, stage ≠ .found row.id →
      (v.phases.set i (.found row.id))[j]? = some stage → v.phases[j]? = some stage := by
    intro j stage different now
    rcases getElem?_set_cases now with ⟨_, equal⟩ | ⟨_, now⟩
    · exact absurd equal different
    · exact now
  exact {
    unique := holds.unique
    found := fun h => by
      rcases getElem?_set_cases h with ⟨rfl, equal⟩ | ⟨_, h⟩
      · obtain rfl := Stage.found.inj equal
        exact ⟨row, member, rfl, same, fun gone => by rw [valid] at gone; cases gone⟩
      · exact holds.found_kept kept (fun _ _ => id) before h
    spent := fun h => holds.spent (old (by simp) h)
    single := fun ha hb => holds.single (old (by simp) ha) (old (by simp) hb) }

theorem Rotating.revoke {id replacedByToken : String} {revokedAt : Nat}
    (holds : Rotating token config v) (before : v.phases[i]? = some (Stage.found id))
    (intact : revokedSince i id v.trace = false)
    (kept : Kept (some id) v.world.refreshTokens.rows world.refreshTokens.rows) :
    Rotating token config ⟨world, v.phases.set i .revoked,
      v.trace ++ [(i, ⟨.revokeRefreshToken id revokedAt replacedByToken, .ok ()⟩)]⟩ := by
  have kept : Kept (revokes (.revokeRefreshToken id revokedAt replacedByToken) (.ok ()))
      v.world.refreshTokens.rows world.refreshTokens.rows := kept
  obtain ⟨row, member, named, same, seen⟩ := holds.found before
  have valid : row.revoked ≠ true := fun gone => by
    rw [seen gone] at intact
    cases intact
  have none_revoked : ∀ j : Nat, v.phases[j]? ≠ some Stage.revoked := by
    intro j revoked
    obtain ⟨other, listed, token', gone⟩ := holds.spent revoked
    have equal : other = row :=
      List.inj_on_of_nodup_map holds.unique listed member (token'.trans same.symm)
    exact valid (equal ▸ gone)
  have here : ∀ {j : Nat}, (v.phases.set i .revoked)[j]? = some Stage.revoked → j = i := by
    intro j now
    rcases getElem?_set_cases now with ⟨same, _⟩ | ⟨_, now⟩
    · exact same
    · exact absurd now (none_revoked j)
  exact {
    unique := kept.unique holds.unique
    found := fun h => by
      rcases getElem?_set_cases h with ⟨_, equal⟩ | ⟨_, h⟩
      · cases equal
      · exact holds.found_kept kept (fun _ lookup => by cases lookup) before h
    spent := fun _ => by
      obtain ⟨row', member', _, same', revoked⟩ := kept.row row member
      refine ⟨row', member', same'.trans same, revoked.mpr (Or.inr ?_)⟩
      rw [named]
      rfl
    single := fun ha hb => (here ha).trans (here hb).symm }

end Steps

theorem Rotating.reply {v : Seen token config} {i : Nat} {phase : Stage} {outcome : AuthOutcome}
    {world : AuthWorld} (holds : Rotating token config v) (before : v.phases[i]? = some phase)
    (allowed : phase.allows token op) (responds : v.world.respond config.libraries op outcome = some (world, result))
    (condition : OneAtATime token config v i op result) :
    Rotating token config ⟨world, v.phases.set i (phase.after op result), v.trace ++ [(i, ⟨op, result⟩)]⟩ := by
  have kept := respond_kept allowed responds
  cases phase with
  | other =>
    refine holds.stay before kept (fun _ _ => id) (Or.inl ?_)
    cases op <;> rfl
  | fresh =>
    cases op with
    | findRefreshToken presented =>
      cases allowed
      match result with
      | .error failure => exact holds.stay before kept (fun _ _ => id) (Or.inr id)
      | .ok none => exact holds.stay before kept (fun _ _ => id) (Or.inr id)
      | .ok (some (row, user)) =>
        obtain ⟨rfl, member, same, valid⟩ := respond_findRefreshToken responds
        exact holds.find before member same valid
    | _ => exact allowed.elim
  | found id =>
    cases op with
    | findTwoFactor query =>
      refine holds.stay before kept (fun _ lookup => by cases lookup) ?_
      cases result with
      | error failure => exact Or.inr not_false
      | ok answer => exact Or.inl rfl
    | insertRefreshToken entity =>
      refine holds.stay before kept (fun _ lookup => by cases lookup) ?_
      cases result with
      | error failure => exact Or.inr not_false
      | ok answer => exact Or.inl rfl
    | revokeRefreshToken rowId revokedAt replacedByToken =>
      cases allowed
      cases result with
      | error failure =>
        exact holds.stay before kept (fun _ lookup => by cases lookup) (Or.inr not_false)
      | ok answer => exact holds.revoke before (condition before) kept
    | _ => exact allowed.elim
  | revoked => cases op <;> exact allowed.elim
  | failed => cases op <;> exact allowed.elim

theorem Rotating.moves {v v' : Seen token config} (holds : Rotating token config v)
    (moved : Moves (rotation token) (OneAtATime token config) v v') : Rotating token config v' := by
  cases moved with
  | calls new started =>
    have old : ∀ {j : Nat} {stage : Stage}, stage.engaged →
        (v.phases ++ new.map (Stage.start token))[j]? = some stage → v.phases[j]? = some stage := by
      intro j stage engaged now
      rcases getElem?_append_cases now with before | started
      · exact before
      · obtain ⟨call, _, rfl⟩ := List.mem_map.mp started
        exact absurd engaged (start_not_engaged call)
    exact {
      unique := holds.unique
      found := fun h => holds.found (old trivial h)
      spent := fun h => holds.spent (old trivial h)
      single := fun ha hb => holds.single (old trivial ha) (old trivial hb) }
  | env mem change =>
    exact {
      unique := holds.unique
      found := holds.found
      spent := holds.spent
      single := holds.single }
  | reply i phase op outcome world result found allowed responds condition =>
    exact holds.reply found allowed responds condition

theorem Rotating.initial {world : AuthWorld} (unique : (world.refreshTokens.rows.map (·.token)).Nodup) :
    Rotating token config ⟨world, [], []⟩ where
  unique := unique
  found h := by cases h
  spent h := by cases h
  single h := by cases h

theorem Stage.after_ne_other {stage : Stage} (here : stage ≠ .other) : stage.after op result ≠ .other := by
  unfold Stage.after
  split <;> simp_all

/-- A call presenting the token does not turn into one that presents another. -/
theorem presented_not_other {task : Task auth} {ipAddress : String}
    (presents : task.call = .refreshToken token ipAddress userAgent) :
    phaseOf (rotation token) task ≠ Stage.other := by
  refine phaseOf_keeps (P := rotation token) (fun stage : Stage => stage ≠ .other)
    (fun _ _ _ => Stage.after_ne_other) ?_
  rw [presents]
  simp [Stage.start]

theorem revoked_of_returned {c : Config (authProcess config refreshes)}
    (keep : AllKeep (rotation token) c) {i : Nat} {task : Task auth} {ipAddress : String}
    {value : AuthValue} (found : c.pool[i]? = some task)
    (presents : task.call = .refreshToken token ipAddress userAgent) (returned : task.result = some (.ok value)) :
    (view (rotation token) c).phases[i]? = some Stage.revoked := by
  have returns : (phaseOf (rotation token) task : Stage).returns (.ok value) :=
    returns_of_result keep found returned
  have here := presented_not_other presents
  have phase : (view (rotation token) c).phases[i]? = some (phaseOf (rotation token) task) := by
    simp [view, phases, found]
  rw [phase]
  generalize (phaseOf (rotation token) task : Stage) = stage at *
  cases stage with
  | other => exact absurd rfl here
  | revoked => rfl
  | _ =>
    obtain ⟨failure, impossible⟩ := returns
    cases impossible

/-- When one call has returned a new pair for the token, every other call that presents it
fails. -/
def UsedOnce (token : String) (c : Config (authProcess config refreshes)) : Prop :=
  ∀ (i j : Nat) (task other : Task auth) (ipAddress ipAddress' : String)
    (userAgent userAgent' : Option String) (value : AuthValue)
    (result : Except Exception AuthValue),
    c.pool[i]? = some task → task.call = .refreshToken token ipAddress userAgent →
    task.result = some (.ok value) →
    c.pool[j]? = some other → other.call = .refreshToken token ipAddress' userAgent' →
    other.result = some result → j ≠ i → ∃ failure, result = .error failure

theorem refresh_token_used_once (token : String) (config : AuthConfig) (world : AuthWorld)
    (mem : AuthMemory) (unique : (world.refreshTokens.rows.map (·.token)).Nodup)
    (labels : List (Label (authProcess config refreshes))) (after : Config (authProcess config refreshes))
    (condition : Admissible (OnAnswers (rotation token) (OneAtATime token config)) labels
      (Config.initial (authProcess config refreshes) world mem))
    (ran : run labels (Config.initial (authProcess config refreshes) world mem) = some after) :
    UsedOnce token after := by
  have start : Rotating token config
      (view (rotation token) (Config.initial (authProcess config refreshes) world mem)) :=
    Rotating.initial unique
  obtain ⟨holds, keep⟩ := invariant_of_moves (refresh_conforms token config)
    (fun _ _ holds moved => Rotating.moves holds moved) (allKeep_initial world mem) start
    condition ran
  intro i j task other ipAddress ipAddress' userAgent userAgent' value result found presents
    returned found' presents' returned' different
  cases result with
  | error failure => exact ⟨failure, rfl⟩
  | ok value' =>
    have first := revoked_of_returned keep found presents returned
    have second := revoked_of_returned keep found' presents' returned'
    exact absurd (holds.single second first) different

/-- The sample account with one refresh token. -/
def refreshWorld : AuthWorld :=
  { sampleAuthWorld with
    refreshTokens := ⟨[{
      id := "t1"
      userId := "u1"
      token := "old"
      expiresAt := 2000000
      revoked := false
      revokedAt := none
      replacedByToken := none
      ipAddress := "203.0.113.7"
      userAgent := none }], by simp⟩ }

abbrev refreshStart : Config (authProcess sampleConfig refreshes) :=
  Config.initial (authProcess sampleConfig refreshes) refreshWorld sampleAuthMemory

def presentOld : AuthCall := .refreshToken "old" "203.0.113.7" none

/-- One call after the other. -/
def refreshedTwice : List (Label (authProcess sampleConfig refreshes)) :=
  [.call presentOld, .reply 0 AuthOutcome.done, .resume 0, .reply 0 AuthOutcome.done, .resume 0,
    .reply 0 (AuthOutcome.made "t2"), .resume 0, .reply 0 AuthOutcome.done,
    .call presentOld, .reply 1 AuthOutcome.done]

theorem refreshedTwice_in_turn :
    Admissible (OnAnswers (rotation "old") (OneAtATime "old" sampleConfig)) refreshedTwice
      refreshStart := by
  refine admissible_cons trivial rfl (admissible_cons ?_ rfl (admissible_cons trivial rfl
    (admissible_cons ?_ rfl (admissible_cons trivial rfl (admissible_cons ?_ rfl
    (admissible_cons trivial rfl (admissible_cons ?_ rfl (admissible_cons trivial rfl
    (admissible_cons ?_ rfl trivial)))))))))
  · exact onAnswers_reply _ _ rfl trivial
  · exact onAnswers_reply _ _ rfl trivial
  · exact onAnswers_reply _ _ rfl trivial
  · exact onAnswers_reply _ _ rfl fun _ => rfl
  · exact onAnswers_reply _ _ rfl trivial

theorem refresh_token_used_once_in_turn :
    ∃ after, run refreshedTwice refreshStart = some after ∧ UsedOnce "old" after :=
  ⟨_, rfl, refresh_token_used_once "old" sampleConfig refreshWorld sampleAuthMemory
    (List.nodup_singleton _) refreshedTwice _ refreshedTwice_in_turn rfl⟩

/-- Two calls look the token up before either revokes it. -/
def refreshedAtOnce : List (Label (authProcess sampleConfig refreshes)) :=
  [.call presentOld, .call presentOld, .reply 0 AuthOutcome.done, .reply 1 AuthOutcome.done,
    .resume 0, .resume 1, .reply 0 AuthOutcome.done, .reply 1 AuthOutcome.done, .resume 0,
    .resume 1, .reply 0 (AuthOutcome.made "t2"), .reply 1 (AuthOutcome.made "t3"), .resume 0,
    .resume 1, .reply 0 AuthOutcome.done, .reply 1 AuthOutcome.done]

theorem refresh_token_used_twice :
    ∃ after, run refreshedAtOnce refreshStart = some after ∧ ¬ UsedOnce "old" after := by
  refine ⟨_, rfl, fun once => ?_⟩
  obtain ⟨failure, impossible⟩ := once 0 1 _ _ _ _ _ _ _ _ rfl rfl rfl rfl rfl rfl (by decide)
  cases impossible

end AlianStructure.Guarantees.RefreshRotation
