import AlianStructure.Library.Trajectory
import AlianStructure.Source.Auth.TokenGuards

/-!
# What a revocation reaches

Source: src/core/auth/token-blacklist.service.ts:17-38, jwt.strategy.ts:45-54, guards/strategy-auth.guard.ts:29-114,
and the issuers of tokens. The guard of the passport strategy refuses every token that was revoked; the guard of the
strategies never asks the blacklist, and most issuers give a token no `jti`. In all states of a run every revoked
token was refused and every issued token can be revoked exactly when each step meets `Confined`.
-/
namespace AlianStructure.Guarantees.RevocationReach
open Library.InsertionOrder Library.Trajectory Library.KeyedTable Source.Auth Source.Auth.Tokens

/-- A request that presented a token to a guard. -/
structure Presentation where
  token : SignedToken
  revoked : Bool
  accepted : Bool
  deriving DecidableEq

/-- The process, and what has been seen of it: the expiry passed last with each `jti`, the tokens issued and the
tokens presented. -/
structure Watched where
  process : TokenProcess
  revocations : OrderedMap String Nat
  issued : List TokenClaims
  presented : List Presentation

def Watched.fresh (now : Nat) : Watched := ⟨⟨now, .empty, .empty⟩, .empty, [], []⟩

/-- The token's `jti` was passed to the blacklist with the token's expiry, in milliseconds. -/
def isRevoked (watched : Watched) (token : SignedToken) : Bool :=
  match given token.claims.jti, token.claims.exp with
  | some jti, some exp => decide (watched.revocations.get? jti = some (exp * 1000))
  | _, _ => false

/-- What a step adds to what has been seen. -/
def record (watched : Watched) : TokenEvent → TokenAnswer → Watched
  | .revoke jti expiresAt, _ => { watched with revocations := watched.revocations.set jti expiresAt }
  | .issue _, .token claims => { watched with issued := watched.issued ++ [claims] }
  | .presentToJwtGuard (some token), .jwtUser result =>
    { watched with presented := watched.presented ++ [⟨token, isRevoked watched token, result.isOk⟩] }
  | .presentToStrategyGuard route (some token), .guardUser result =>
    if route.isPublic then watched
    else { watched with presented := watched.presented ++ [⟨token, isRevoked watched token, result.isOk⟩] }
  | _, _ => watched

def step (signatures : Signatures) (watched : Watched) (event : TokenEvent) : Watched :=
  let (process, answer) := watched.process.respond signatures event
  { record watched event answer with process }

/-- Every token that was revoked has been refused, and every token that was issued has a `jti`. -/
structure Sound (watched : Watched) : Prop where
  refused : ∀ presentation ∈ watched.presented, presentation.revoked = true → presentation.accepted = false
  revocable : ∀ claims ∈ watched.issued, given claims.jti ≠ none

def setsJti : Issuance → Bool
  | .authRegister _ _ | .authLogin _ _ => true
  | _ => false

/-- Only `AuthService` issues tokens, and a revoked token comes to the guard of the strategies only where it is
refused for something else: its signature, its expiry, its type, or that there are no strategies. -/
def Confined (signatures : Signatures) (watched : Watched) : TokenEvent → Prop
  | .issue issuance => setsJti issuance = true
  | .presentToStrategyGuard route (some token) =>
    isRevoked watched token = true → route.isPublic = false → signatures.service token = true →
      (∀ exp, token.claims.exp = some exp → watched.process.now / 1000 < exp) →
      StrategyRegistry.getAll watched.process.strategies ≠ [] →
      StrategyAuthGuard.isAllowed route token.claims.type = false
  | _ => True

variable {signatures : Signatures} {watched : Watched}

variable {now : Nat}

theorem verify_ok {accepted : SignedToken → Bool} {token : SignedToken} {claims : TokenClaims} :
    verify accepted now token = .ok claims ↔ claims = token.claims ∧ accepted token = true ∧
      ∀ exp, token.claims.exp = some exp → now / 1000 < exp := by
  unfold verify
  constructor
  · intro ends
    split at ends
    next => cases ends
    next signed =>
      split at ends
      next => cases ends
      next live =>
        cases ends
        refine ⟨rfl, by simpa using signed, fun exp expires => ?_⟩
        rw [expires, Option.any_some, decide_eq_true_eq] at live
        omega
  · rintro ⟨rfl, signed, live⟩
    rw [if_neg (by simp [signed]), if_neg]
    cases expires : token.claims.exp with
    | none => simp
    | some exp =>
      have := live exp expires
      simp only [Option.any_some, decide_eq_true_eq]
      omega

theorem validateToken_eq (strategy : AuthType) : strategy.validateToken = verified := by
  cases strategy <;> rfl

theorem validateTokenWithStrategies_eq (signatures : Signatures) (now : Nat) (token : SignedToken)
    (strategies : List AuthType) : StrategyAuthGuard.validateTokenWithStrategies signatures now token strategies =
      if strategies = [] then none else (verify signatures.service now token).toOption := by
  induction strategies with
  | nil => rfl
  | cons strategy rest ih =>
    rw [if_neg (List.cons_ne_nil _ _), StrategyAuthGuard.validateTokenWithStrategies, validateToken_eq, verified]
    split
    next payload found => exact found.symm
    next missing =>
      rw [ih]
      split
      next => exact missing.symm
      next => rfl

/-- The guard of the strategies accepts what verifies and is allowed, once there is a strategy. -/
theorem strategyGuard_accepts {strategies : Strategies} {route : Route} {token : SignedToken}
    (guarded : route.isPublic = false) :
    (StrategyAuthGuard.canActivate signatures strategies now route (some token)).isOk = true ↔
      StrategyRegistry.getAll strategies ≠ [] ∧ signatures.service token = true ∧
        (∀ exp, token.claims.exp = some exp → now / 1000 < exp) ∧
        StrategyAuthGuard.isAllowed route token.claims.type = true := by
  unfold StrategyAuthGuard.canActivate
  simp only [guarded, Bool.false_eq_true, if_false, validateTokenWithStrategies_eq]
  by_cases none : StrategyRegistry.getAll strategies = []
  · simp [none, Except.isOk, Except.toBool]
  · rw [if_neg none]
    cases checked : verify signatures.service now token with
    | error failure =>
      refine iff_of_false (by simp [Except.toOption, Except.isOk, Except.toBool]) ?_
      rintro ⟨_, signed, live, _⟩
      have verifies : verify signatures.service now token = .ok token.claims :=
        verify_ok.mpr ⟨rfl, signed, live⟩
      rw [checked] at verifies
      cases verifies
    | ok payload =>
      obtain ⟨rfl, signed, live⟩ := verify_ok.mp checked
      simp only [Except.toOption]
      constructor
      · intro accepted
        refine ⟨none, signed, live, ?_⟩
        by_contra refused
        rw [if_neg refused] at accepted
        cases accepted
      · rintro ⟨_, _, _, allowed⟩
        rw [if_pos allowed]
        rfl

/-- A revocation is in the blacklist until its expiry has passed. -/
def Linked (watched : Watched) : Prop :=
  ∀ jti expiresAt, watched.revocations.get? jti = some expiresAt →
    watched.process.blacklist.get? jti = some expiresAt ∨ expiresAt < watched.process.now

variable {blacklist : Blacklist}

theorem isRevoked_keeps {jti other : String} {expiresAt : Nat} (found : blacklist.get? other = some expiresAt) :
    (TokenBlacklistService.isRevoked blacklist now jti).1.get? other = some expiresAt ∨ expiresAt < now := by
  unfold TokenBlacklistService.isRevoked
  split
  next => exact Or.inl found
  next exp here =>
    split
    next expired =>
      rw [OrderedMap.get?_delete]
      split
      next same =>
        subst same
        exact Or.inr (Option.some.inj (here.symm.trans found) ▸ expired)
      next => exact Or.inl found
    next => exact Or.inl found

theorem cleanup_keeps {jti : String} {expiresAt : Nat} (found : blacklist.get? jti = some expiresAt) :
    (TokenBlacklistService.cleanup blacklist now).get? jti = some expiresAt ∨ expiresAt < now := by
  by_cases expired : expiresAt < now
  · exact Or.inr expired
  · left
    obtain ⟨entry, listed, rfl⟩ := Option.map_eq_some_iff.mp found
    unfold OrderedMap.get? TokenBlacklistService.cleanup
    rw [Table.findOne_delete, listed, Option.filter_some, if_pos (by simpa using expired)]
    rfl

theorem validate_keeps {payload : TokenClaims} {jti : String} {expiresAt : Nat}
    (found : blacklist.get? jti = some expiresAt) :
    (Tokens.JwtStrategy.validate blacklist now payload).1.get? jti = some expiresAt ∨ expiresAt < now := by
  unfold Tokens.JwtStrategy.validate
  split
  next => exact Or.inl found
  next own _ =>
    have kept : (TokenBlacklistService.isRevoked blacklist now own).1.get? jti = some expiresAt ∨ expiresAt < now :=
      isRevoked_keeps found
    split <;>
      next looked =>
        rw [looked] at kept
        exact kept

theorem jwtGuard_keeps {bearer : Option SignedToken} {jti : String} {expiresAt : Nat}
    (found : blacklist.get? jti = some expiresAt) :
    (JwtAuthGuard.canActivate signatures blacklist now bearer).1.get? jti = some expiresAt ∨ expiresAt < now := by
  unfold JwtAuthGuard.canActivate
  split
  next => exact Or.inl found
  next =>
    split
    next => exact Or.inl found
    next => exact validate_keeps found

theorem linked_step (linked : Linked watched) (event : TokenEvent) : Linked (step signatures watched event) := by
  have still : ∀ {blacklist : Blacklist},
      (∀ jti expiresAt, watched.process.blacklist.get? jti = some expiresAt →
        blacklist.get? jti = some expiresAt ∨ expiresAt < watched.process.now) →
      ∀ jti expiresAt, watched.revocations.get? jti = some expiresAt →
        blacklist.get? jti = some expiresAt ∨ expiresAt < watched.process.now :=
    fun keeps jti expiresAt passed => (linked jti expiresAt passed).elim (keeps jti expiresAt) Or.inr
  cases event with
  | elapse milliseconds =>
    intro jti expiresAt passed
    exact (linked jti expiresAt passed).imp_right fun expired => Nat.lt_of_lt_of_le expired (Nat.le_add_right _ _)
  | register strategy isEnabled => exact linked
  | unregister name => exact linked
  | issue issuance => exact linked
  | revoke jti expiresAt =>
    intro other expiry passed
    change (watched.revocations.set jti expiresAt).get? other = some expiry at passed
    show (watched.process.blacklist.set jti expiresAt).get? other = some expiry ∨ _
    rw [OrderedMap.get?_set] at passed ⊢
    split at passed
    next same => exact Or.inl ((if_pos same).trans passed)
    next other' =>
      rw [if_neg other']
      exact linked other expiry passed
  | cleanup => exact still fun _ _ => cleanup_keeps
  | presentToJwtGuard bearer =>
    have kept := still fun jti expiresAt => @jwtGuard_keeps signatures _ _ bearer jti expiresAt
    cases bearer <;> exact kept
  | presentToStrategyGuard route bearer =>
    cases bearer with
    | none => exact linked
    | some token =>
      intro jti expiresAt passed
      refine linked jti expiresAt ?_
      simp only [step, record, TokenProcess.respond] at passed
      split at passed <;> exact passed

/-- The guard of the passport strategy refuses a revoked token: it has expired or is on the blacklist. -/
theorem jwtGuard_refuses (linked : Linked watched) {token : SignedToken} (revoked : isRevoked watched token = true) :
    (JwtAuthGuard.canActivate signatures watched.process.blacklist watched.process.now (some token)).2.isOk =
      false := by
  unfold isRevoked at revoked
  split at revoked
  next jti exp named expires =>
    have passed := linked jti (exp * 1000) (of_decide_eq_true revoked)
    unfold JwtAuthGuard.canActivate
    dsimp only
    split
    next => rfl
    next payload verified =>
      obtain ⟨rfl, _, live⟩ := verify_ok.mp verified
      have later := live exp expires
      rcases passed with listed | expired
      · have current : ¬ exp * 1000 < watched.process.now := by omega
        simp only [Tokens.JwtStrategy.validate, named, TokenBlacklistService.isRevoked, listed, if_neg current]
        rfl
      · omega
  next => cases revoked

theorem sound_append {presentation : Presentation} (sound : Sound watched) :
    Sound { watched with presented := watched.presented ++ [presentation] } ↔
      (presentation.revoked = true → presentation.accepted = false) := by
  constructor
  · intro after
    exact after.refused presentation (List.mem_append_right _ (List.mem_singleton_self _))
  · intro refused
    refine ⟨fun other member => ?_, sound.revocable⟩
    rcases List.mem_append.mp member with old | new
    · exact sound.refused other old
    · exact List.mem_singleton.mp new ▸ refused

theorem carries_iff (now : Nat) (issuance : Issuance) :
    given (issuance.claims now).jti ≠ none ↔ setsJti issuance = true := by
  cases issuance with
  | authRegister user uuid | authLogin user uuid =>
    have filled : given (some uuid.val) = some uuid.val := by simp [given, uuid.property]
    refine iff_of_true ?_ rfl
    show given (some uuid.val) ≠ none
    rw [filled]
    nofun
  | _ => exact iff_of_false (fun carries => carries rfl) Bool.false_ne_true

theorem sound_step_iff (linked : Linked watched) (sound : Sound watched) (event : TokenEvent) :
    Sound (step signatures watched event) ↔ Confined signatures watched event := by
  have same : ∀ {process : TokenProcess} {revocations : OrderedMap String Nat},
      Sound { watched with process, revocations } := ⟨sound.refused, sound.revocable⟩
  cases event with
  | elapse | register | unregister | revoke | cleanup => exact iff_of_true same trivial
  | issue issuance =>
    refine Iff.trans ?_ (carries_iff watched.process.now issuance)
    constructor
    · intro after
      exact after.revocable _ (List.mem_append_right _ (List.mem_singleton_self _))
    · intro carries
      refine ⟨sound.refused, fun claims member => ?_⟩
      rcases List.mem_append.mp member with old | new
      · exact sound.revocable claims old
      · exact List.mem_singleton.mp new ▸ carries
  | presentToJwtGuard bearer =>
    cases bearer with
    | none => exact iff_of_true same trivial
    | some token =>
      refine iff_of_true ?_ trivial
      exact (sound_append same).mpr fun revoked => jwtGuard_refuses linked revoked
  | presentToStrategyGuard route bearer =>
    cases bearer with
    | none => exact iff_of_true same trivial
    | some token =>
      cases guarded : route.isPublic with
      | true =>
        refine iff_of_true ?_ fun _ nonpublic => (nomatch nonpublic.symm.trans guarded)
        simp only [step, record, TokenProcess.respond, guarded, if_true]
        exact same
      | false =>
        simp only [step, record, TokenProcess.respond, guarded, Bool.false_eq_true, if_false]
        refine (sound_append same).trans ?_
        rw [← Bool.not_eq_true, strategyGuard_accepts guarded]
        unfold Confined
        constructor
        · intro refused revoked _ signed live some
          by_contra allowed
          exact refused revoked ⟨some, signed, live, by simpa using allowed⟩
        · rintro confined revoked ⟨some, signed, live, allowed⟩
          rw [confined revoked guarded signed live some] at allowed
          cases allowed

/-- From a new process, revoked tokens are refused and issued tokens can be revoked, in all states of a run, exactly
when all its steps are confined. -/
theorem revocation_reaches_iff (signatures : Signatures) (now : Nat) (events : List TokenEvent) :
    (∀ watched ∈ states (step signatures) (.fresh now) events, Sound watched) ↔
      Meets (step signatures) (Confined signatures) (.fresh now) events :=
  @claim_iff_meets _ _ (step signatures) Sound (fun watched => Linked watched ∧ Sound watched) (Confined signatures)
    (fun _ holds => holds.2)
    (fun _ event holds => sound_step_iff holds.1 holds.2 event)
    (fun _ event holds sound => ⟨linked_step holds.1 event, sound⟩)
    events _ ⟨fun _ _ passed => (nomatch passed), fun _ none => (nomatch none), fun _ none => (nomatch none)⟩

def anySignature : Signatures := ⟨fun _ => true, fun _ => true⟩

def sampleUser : User :=
  ⟨"u1", some "ana", "0xa", some "ana@example.com", some "hash", true, .user, .unverified, true, none, none, none⟩

/-- What a login with email and password issues at the start. -/
def sampleToken : SignedToken := ⟨(Issuance.authLogin sampleUser ⟨"j1", by decide⟩).claims 0, "s"⟩

/-- The same token after the logout, at the guard that every route has. -/
def globalEvents : List TokenEvent :=
  [.register .wallet true, .issue (.authLogin sampleUser ⟨"j1", by decide⟩), .revoke "j1" 900000,
    .presentToStrategyGuard ⟨false, none⟩ (some sampleToken)]

/-- A revoked token passes the guard of the strategies. -/
theorem revoked_token_accepted : ¬ ∀ signatures now events,
    ∀ watched ∈ states (step signatures) (.fresh now) events, Sound watched := by
  intro holds
  have sound := holds anySignature 0 globalEvents _ (final_mem_states _ _ _)
  have accepted : Presentation.mk sampleToken true true ∈
      (globalEvents.foldl (step anySignature) (.fresh 0)).presented := by decide +kernel
  exact nomatch sound.refused _ accepted rfl

end AlianStructure.Guarantees.RevocationReach
