import AlianStructure.Guarantees.AuthCalls

/-!
# What the authentication methods write and what their tokens rest on

Source: enhanced-auth.service.ts:64-653, wallet-auth.service.ts:62-522,
delegation.service.ts:56-410, guards/admin-two-factor.guard.ts:45-115. One set of rules
for all methods: which rows a method writes to the wallets and the two-factor records,
and which answers a token or a passed request rests on. This module checks the methods for
passwords and second factors.
-/
namespace AlianStructure.Guarantees.AccountConduct
open Library.Interleaving Library.CallJournal
open Source Source.Auth AuthCalls

/-! ## The rules -/

/-- The wallets a method inserts. -/
def mayInsert : AuthCall → Wallet → Prop
  | .linkWallet .., wallet => wallet.status = .active ∧ wallet.type ≠ .delegated
  | .requestDelegation .., wallet => wallet.status = .pending
  | _, _ => False

/-- The wallets a method saves. -/
def maySave : AuthCall → Wallet → Prop
  | .setPrimaryWallet .., wallet => wallet.status = .active ∧ wallet.type = .primary
  | .unlinkWallet _ walletId, wallet =>
    if wallet.id = walletId then wallet.status = .unlinked
    else wallet.status = .active ∧ wallet.type = .primary
  | .completeDelegation .., wallet =>
    wallet.status = .active ∧ wallet.type = .delegated ∧ wallet.delegationExpiresAt.isSome
  | .revokeDelegation .., wallet => wallet.status = .revoked
  | .verifyDelegationPermission .., wallet | .cleanupExpiredDelegations, wallet =>
    wallet.status = .unlinked
  | _, _ => False

/-- The account whose enabled two-factor record a method may save. -/
def checkedAccount : AuthCall → Option String
  | .verifyTwoFactorLogin userId .. | .verifyWalletTwoFactorAndIssueToken userId _
  | .regenerateBackupCodes userId _ => some userId
  | _ => none

def permits (call : AuthCall) (past : List (Event auth)) : AuthOp → Prop
  | .insertWallet wallet => mayInsert call wallet
  | .saveWallet wallet => maySave call wallet
  | .insertTwoFactor row =>
    row.isEnabled = false ∧ ∃ user, ⟨.findUser (.id row.userId), .ok (some user)⟩ ∈ past
  | .saveTwoFactor row =>
    row.isEnabled = true ∧ checkedAccount call = some row.userId ∧
      ∃ old, ⟨.findTwoFactor (.enabled row.userId), .ok (some old)⟩ ∈ past ∧ old.id = row.id ∧
        old.userId = row.userId
  | _ => True

/-- A row that is found is one that was looked for. -/
def possible : (op : AuthOp) → Except Exception op.Reply → Prop
  | .findUser query, .ok (some user) => query.selects user = true
  | .findTwoFactor query, .ok (some row) => query.selects row = true
  | .findWallet query, .ok (some wallet) => query.selects wallet = true
  | _, _ => True

/-- The code, or else the backup code, is right for a record. -/
def codeIsRight (libraries : AuthLibraries) (row : TwoFactorAuth) (dto : TwoFactorVerifyDto)
    (now : Nat) : Prop :=
  match given dto.code, given dto.backupCode with
  | some code, _ => libraries.totpVerify row.secret code now = true
  | none, some backupCode =>
    EnhancedAuthService.hashBackupCode libraries backupCode ∈ row.backupCodes
  | none, none => False

/-- verifyTwoFactorCode has succeeded: the account had an enabled record that was not
locked, the code was right for it, and this has been stored. -/
def Verified (libraries : AuthLibraries) (userId : String) (dto : TwoFactorVerifyDto)
    (past : List (Event auth)) : Prop :=
  ∃ row accepted now, ⟨.findTwoFactor (.enabled userId), .ok (some row)⟩ ∈ past ∧
    row.lockedUntil.getD 0 ≤ now ∧ codeIsRight libraries row dto now ∧ accepted.id = row.id ∧
    accepted.lastUsedAt = some now ∧ ⟨.saveTwoFactor accepted, .ok ()⟩ ∈ past

/-- The token is made of the row of the account, which is read for it: it has no subject but its address. -/
def OfAccount (userId : String) (token : WalletToken) (past : List (Event auth)) : Prop :=
  ∃ user, ⟨.findUser (.id userId), .ok (some user)⟩ ∈ past ∧ user.id = userId ∧
    token.address = user.walletAddress ∧ token.token.address = some (toLowerCase user.walletAddress) ∧
    token.token.role = normalizeRole (some user.role) ∧ token.token.twoFactorVerified = some true

/-- The token states what the account's two-factor state was when it was read. -/
def StatesTwoFactor (token : AccessToken) (past : List (Event auth)) : Prop :=
  ∃ userId found, ⟨.findTwoFactor (.enabled userId), .ok found⟩ ∈ past ∧
    token.sub = some userId ∧ token.twoFactorVerified = some (! found.isSome)

/-- The account that the guard takes for the holder of a token. -/
def HolderOf (token : AccessToken) (userId : String) (past : List (Event auth)) : Prop :=
  token.sub = some userId ∨ (given token.sub = none ∧ ∃ address user,
    token.address = some address ∧ user.id = userId ∧
    ⟨.findUser (.walletAddress (toLowerCase address)), .ok (some user)⟩ ∈ past)

variable {userId : String} {token : AccessToken}

theorem HolderOf.mono {past past' : List (Event auth)} (holder : HolderOf token userId past)
    (grown : past ⊆ past') : HolderOf token userId past' := by
  rcases holder with named | ⟨unnamed, address, user, present, same, asked⟩
  · exact Or.inl named
  · exact Or.inr ⟨unnamed, address, user, present, same, grown asked⟩

def tokenOf : AuthValue → Option AccessToken
  | .session session => some session.tokens.accessToken
  | .tokens tokens => some tokens.accessToken
  | .walletToken token => some token.token
  | _ => none

def vouches (libraries : AuthLibraries) (call : AuthCall) (past : List (Event auth))
    (value : AuthValue) : Prop :=
  match call, value with
  | .register .., .session session =>
    ∃ user id, ⟨.insertUser user, .ok id⟩ ∈ past ∧ session.tokens.accessToken.sub = some id ∧
      session.tokens.accessToken.twoFactorVerified = some true
  | .login .., .session session => StatesTwoFactor session.tokens.accessToken past
  | .refreshToken .., .tokens tokens => StatesTwoFactor tokens.accessToken past
  | .verifyTwoFactorLogin userId dto _, .tokens tokens =>
    Verified libraries userId dto past ∧ tokens.accessToken.sub = some userId ∧
      tokens.accessToken.twoFactorVerified = some true
  | .verifyWalletTwoFactorAndIssueToken userId dto, .walletToken token =>
    Verified libraries userId dto past ∧ OfAccount userId token past
  | .verifySignatureAndIssueToken .., .walletToken token =>
    ∃ wallet user, ⟨.findWalletWithUser token.address, .ok (some (wallet, user))⟩ ∈ past ∧
      WalletAuthService.mayAuthenticate wallet = true ∧ token.token.sub = user.map (·.id)
  | .adminRequest token, .allowed => token.role = .admin →
    token.twoFactorVerified = some true ∧ ∃ userId row,
      ⟨.findTwoFactor (.enabled userId), .ok (some row)⟩ ∈ past ∧ HolderOf token userId past
  | _, value => tokenOf value = none

abbrev conduct (libraries : AuthLibraries) : Rules auth where
  permits := permits
  possible := possible
  vouches := vouches libraries

section Methods
variable {libraries : AuthLibraries} {call : AuthCall} {past : List (Event auth)}

theorem generateTokens_yields (user : User) (ipAddress : String) (userAgent : Option String) (verified : Bool) :
    Yields (conduct libraries) call past
      (EnhancedAuthService.generateTokens user ipAddress userAgent verified) fun _ pair =>
        pair.accessToken.sub = some user.id ∧ pair.accessToken.twoFactorVerified = some verified := by
  unfold EnhancedAuthService.generateTokens
  refine yields_clock_then fun now => yields_draw_then fun value => ?_
  exact yields_ask_then trivial fun _ _ _ _ _ => yields_pure ⟨rfl, rfl⟩

theorem isTwoFactorEnabled_yields (userId : String) :
    Yields (conduct libraries) call past (EnhancedAuthService.isTwoFactorEnabled userId)
      fun past' enabled => ∃ found, ⟨.findTwoFactor (.enabled userId), .ok found⟩ ∈ past' ∧
        enabled = found.isSome := by
  unfold EnhancedAuthService.isTwoFactorEnabled
  exact yields_ask_then trivial fun _ found _ asked _ => yields_pure ⟨found, asked, rfl⟩

theorem notify2faChange_yields (email : String) :
    Yields (conduct libraries) call past (EnhancedAuthService.notify2faChange email) fun _ _ => True := by
  unfold EnhancedAuthService.notify2faChange
  exact yields_tryCatch (yields_ask trivial fun _ _ => trivial) fun _ _ _ => yields_pure trivial

theorem notifyUser_yields (email : Option String) :
    Yields (conduct libraries) call past (EnhancedAuthService.notifyUser email) fun _ _ => True := by
  unfold EnhancedAuthService.notifyUser
  split
  next => exact yields_pure trivial
  next address _ => exact notify2faChange_yields address

theorem generateBackupCodes_yields (count : Nat) :
    Yields (conduct libraries) call past (EnhancedAuthService.generateBackupCodes libraries count)
      fun _ _ => True := by
  induction count with
  | zero => exact yields_pure trivial
  | succ count ih =>
    refine yields_draw_then fun bytes => yields_bind ih fun past' codes grown _ => ?_
    exact yields_pure trivial

/-! ## Tokens for a password or a refresh token -/

theorem findReferrer_yields (referralCode : Option String) :
    Yields (conduct libraries) call past (EnhancedAuthService.findReferrer referralCode) fun _ _ => True := by
  unfold EnhancedAuthService.findReferrer
  split
  next => exact yields_pure trivial
  next code _ =>
    refine yields_ask_then trivial fun _ referredBy _ _ _ => ?_
    cases referredBy with
    | none => exact yields_throw
    | some user => exact yields_pure trivial

theorem createUser_yields (dto : RegisterDto) (ipAddress : String) (userAgent : Option String) :
    Yields (conduct libraries) call past (EnhancedAuthService.createUser dto ipAddress userAgent) fun past' session =>
        ∃ user id, ⟨.insertUser user, .ok id⟩ ∈ past' ∧ session.tokens.accessToken.sub = some id ∧
          session.tokens.accessToken.twoFactorVerified = some true := by
  unfold EnhancedAuthService.createUser
  refine yields_ask_then trivial fun _ hashedPassword _ _ _ => yields_draw_then fun uuid => ?_
  refine yields_bind (findReferrer_yields dto.referralCode) fun _ referredBy _ _ => ?_
  refine yields_ask_then trivial fun _ id _ inserted _ => ?_
  refine yields_bind (generateTokens_yields _ _ _ _) fun _ tokens grown claims => ?_
  exact yields_pure ⟨_, id, grown inserted, claims⟩

theorem register_yields (dto : RegisterDto) (ipAddress : String) (userAgent : Option String) :
    Yields (conduct libraries) call past (EnhancedAuthService.register dto ipAddress userAgent) fun past' session =>
        ∃ user id, ⟨.insertUser user, .ok id⟩ ∈ past' ∧ session.tokens.accessToken.sub = some id ∧
          session.tokens.accessToken.twoFactorVerified = some true := by
  unfold EnhancedAuthService.register
  refine yields_ask_then trivial fun _ existingUser _ _ _ => ?_
  cases existingUser with
  | none => exact createUser_yields dto ipAddress userAgent
  | some existing =>
    dsimp only
    split
    next => exact yields_throw
    next =>
      split
      next => exact yields_throw
      next => exact createUser_yields dto ipAddress userAgent

theorem openSession_yields (user : User) (ipAddress : String) (userAgent : Option String) :
    Yields (conduct libraries) call past
      (EnhancedAuthService.openSession user ipAddress userAgent) fun past' session =>
        StatesTwoFactor session.tokens.accessToken past' := by
  unfold EnhancedAuthService.openSession
  refine yields_clock_then fun now => yields_ask_then trivial fun _ _ _ _ _ => ?_
  refine yields_bind (isTwoFactorEnabled_yields user.id) fun _ enabled _ read => ?_
  obtain ⟨found, asked, rfl⟩ := read
  refine yields_bind (generateTokens_yields _ _ _ _) fun _ tokens grown claims => ?_
  exact yields_pure ⟨user.id, found, grown asked, claims⟩

theorem login_yields (email password ipAddress : String) (userAgent : Option String) :
    Yields (conduct libraries) call past
      (EnhancedAuthService.login email password ipAddress userAgent) fun past' session =>
        StatesTwoFactor session.tokens.accessToken past' := by
  unfold EnhancedAuthService.login
  refine yields_ask_then trivial fun _ found _ _ _ => ?_
  cases found with
  | none => exact yields_throw
  | some user =>
    dsimp only
    split
    next => exact yields_throw
    next =>
      split
      next => exact yields_throw
      next hash _ =>
        refine yields_ask_then trivial fun _ isPasswordValid _ _ _ => ?_
        split
        next => exact yields_throw
        next => exact openSession_yields user ipAddress userAgent

theorem refreshToken_yields (token ipAddress : String) (userAgent : Option String) :
    Yields (conduct libraries) call past
      (EnhancedAuthService.refreshToken token ipAddress userAgent) fun past' tokens =>
        StatesTwoFactor tokens.accessToken past' := by
  unfold EnhancedAuthService.refreshToken
  refine yields_ask_then trivial fun _ found _ _ _ => ?_
  match found with
  | none => exact yields_throw
  | some (entity, user) =>
    refine yields_clock_then fun now => ?_
    split
    next => exact yields_throw
    next =>
      unfold EnhancedAuthService.rotate
      refine yields_bind (isTwoFactorEnabled_yields user.id) fun _ enabled _ read => ?_
      obtain ⟨found, asked, rfl⟩ := read
      refine yields_bind (generateTokens_yields _ _ _ _) fun _ tokens grown claims => ?_
      refine yields_clock_then fun now => yields_ask_then trivial fun _ _ more _ _ => ?_
      exact yields_pure ⟨user.id, found, more (grown asked), claims⟩

/-! ## Two-factor authentication -/

theorem setupTwoFactor_yields (userId : String) :
    Yields (conduct libraries) call past (EnhancedAuthService.setupTwoFactor libraries userId) fun _ _ => True := by
  unfold EnhancedAuthService.setupTwoFactor
  refine yields_ask_then trivial fun _ found _ asked _ => ?_
  cases found with
  | none => exact yields_throw
  | some user =>
    refine yields_ask_then trivial fun _ existing first _ _ => ?_
    cases existing with
    | some row => exact yields_throw
    | none =>
      refine yields_draw_then fun secret => yields_ask_then trivial fun _ url second _ _ => ?_
      refine yields_bind (generateBackupCodes_yields _) fun _ codes third _ => ?_
      refine yields_ask_then trivial fun _ _ fourth _ _ => ?_
      have known := fourth (third (second (first asked)))
      exact yields_ask_then ⟨rfl, user, known⟩ fun _ _ _ _ _ => yields_pure trivial

theorem verifyTwoFactorSetup_yields (userId code : String) : Yields (conduct libraries) call past
      (EnhancedAuthService.verifyTwoFactorSetup libraries userId code) fun _ _ => True := by
  unfold EnhancedAuthService.verifyTwoFactorSetup
  refine yields_ask_then trivial fun _ found _ _ _ => ?_
  cases found with
  | none => exact yields_throw
  | some row =>
    refine yields_clock_then fun now => ?_
    split
    next =>
      refine yields_ask_then trivial fun _ _ _ _ _ => yields_ask_then trivial fun _ user _ _ _ => ?_
      exact yields_bind (notifyUser_yields _) fun _ _ _ _ => yields_pure trivial
    next => exact yields_pure trivial

theorem permits_saveTwoFactor {row changed : TwoFactorAuth} (mine : checkedAccount call = some userId)
    (asked : ⟨.findTwoFactor (.enabled userId), .ok (some row)⟩ ∈ past)
    (selected : possible (.findTwoFactor (.enabled userId)) (.ok (some row)))
    (id : changed.id = row.id) (account : changed.userId = row.userId)
    (enabled : changed.isEnabled = row.isEnabled) : permits call past (.saveTwoFactor changed) := by
  simp only [possible, TwoFactorQuery.selects, Bool.and_eq_true, decide_eq_true_eq] at selected
  obtain ⟨rfl, on⟩ := selected
  exact ⟨enabled.trans on, mine.trans (congrArg some account.symm), row, account ▸ asked,
    id.symm, account.symm⟩

section Codes
variable {userId : String} {row : TwoFactorAuth} (mine : checkedAccount call = some userId)
  (asked : ⟨.findTwoFactor (.enabled userId), .ok (some row)⟩ ∈ past)
  (selected : possible (.findTwoFactor (.enabled userId)) (.ok (some row)))
include mine asked selected

theorem rejectCode_yields (now : Nat) {good : List (Event auth) → Unit → Prop} :
    Yields (conduct libraries) call past (EnhancedAuthService.rejectCode row now) good := by
  unfold EnhancedAuthService.rejectCode
  dsimp only
  split
  next =>
    exact yields_ask_then (permits_saveTwoFactor mine asked selected rfl rfl rfl)
      fun _ _ _ _ _ => yields_throw
  next =>
    exact yields_ask_then (permits_saveTwoFactor mine asked selected rfl rfl rfl)
      fun _ _ _ _ _ => yields_throw

theorem acceptCode_yields {used : TwoFactorAuth} (now : Nat) (id : used.id = row.id)
    (account : used.userId = row.userId) (enabled : used.isEnabled = row.isEnabled) :
    Yields (conduct libraries) call past (EnhancedAuthService.acceptCode used now)
      fun past' _ => ∃ accepted, accepted.id = row.id ∧ accepted.lastUsedAt = some now ∧
        ⟨.saveTwoFactor accepted, .ok ()⟩ ∈ past' := by
  unfold EnhancedAuthService.acceptCode
  refine yields_ask (permits_saveTwoFactor mine asked selected id account enabled) fun _ _ => ?_
  exact ⟨{ used with failedAttempts := 0, lockedUntil := none, lastUsedAt := some now }, id, rfl,
    List.mem_append_right _ (List.mem_singleton_self _)⟩

theorem checkCode_yields (libraries : AuthLibraries) (dto : TwoFactorVerifyDto) (now : Nat) :
    Yields (conduct libraries) call past (EnhancedAuthService.checkCode libraries row dto now)
      fun past' _ => codeIsRight libraries row dto now ∧ ∃ accepted, accepted.id = row.id ∧
        accepted.lastUsedAt = some now ∧ ⟨.saveTwoFactor accepted, .ok ()⟩ ∈ past' := by
  unfold EnhancedAuthService.checkCode
  cases code : given dto.code with
  | some text =>
    dsimp only
    split
    next right =>
      have right : codeIsRight libraries row dto now := by simpa only [codeIsRight, code] using right
      exact yields_mono (fun _ _ _ stored => ⟨right, stored⟩)
        (acceptCode_yields mine asked selected now rfl rfl rfl)
    next => exact rejectCode_yields mine asked selected now
  | none =>
    cases backupCode : given dto.backupCode with
    | some text =>
      dsimp only
      split
      next right =>
        have right : codeIsRight libraries row dto now := by
          simpa only [codeIsRight, code, backupCode] using right
        exact yields_mono (fun _ _ _ stored => ⟨right, stored⟩)
          (acceptCode_yields mine asked selected now rfl rfl rfl)
      next => exact rejectCode_yields mine asked selected now
    | none => exact yields_throw

end Codes

theorem verifyTwoFactorCode_yields (dto : TwoFactorVerifyDto) (mine : checkedAccount call = some userId) :
    Yields (conduct libraries) call past (EnhancedAuthService.verifyTwoFactorCode libraries userId dto)
      fun past' _ => Verified libraries userId dto past' := by
  unfold EnhancedAuthService.verifyTwoFactorCode
  refine yields_ask_then trivial fun past' found _ asked selected => ?_
  cases found with
  | none => exact yields_throw
  | some row =>
    refine yields_clock_then fun now => ?_
    dsimp only
    split
    next => exact yields_throw
    next unlocked =>
      have checked := checkCode_yields mine asked selected libraries dto now
      refine yields_mono (fun past'' _ grown ends => ?_) checked
      obtain ⟨right, accepted, id, used, stored⟩ := ends
      exact ⟨row, accepted, now, grown asked, by omega, right, id, used, stored⟩

theorem Verified.mono {dto : TwoFactorVerifyDto} {past' : List (Event auth)}
    (verified : Verified libraries userId dto past) (grown : past ⊆ past') : Verified libraries userId dto past' := by
  obtain ⟨row, accepted, now, asked, unlocked, right, id, used, stored⟩ := verified
  exact ⟨row, accepted, now, grown asked, unlocked, right, id, used, grown stored⟩

theorem user_of_query {user : User} (selected : possible (.findUser (.id userId)) (.ok (some user))) :
    user.id = userId := by
  simpa [possible, UserQuery.selects] using selected

theorem verifyTwoFactorLogin_yields (dto : TwoFactorVerifyDto) (clientInfo : ClientInfo)
    (mine : checkedAccount call = some userId) : Yields (conduct libraries) call past
      (EnhancedAuthService.verifyTwoFactorLogin libraries userId dto clientInfo)
      fun past' tokens => Verified libraries userId dto past' ∧ tokens.accessToken.sub = some userId ∧
        tokens.accessToken.twoFactorVerified = some true := by
  unfold EnhancedAuthService.verifyTwoFactorLogin
  refine yields_bind (verifyTwoFactorCode_yields dto mine) fun _ _ _ verified => ?_
  refine yields_ask_then trivial fun _ found grown _ selected => ?_
  cases found with
  | none => exact yields_throw
  | some user =>
    refine yields_mono (fun _ _ more claims => ?_) (generateTokens_yields user _ _ true)
    obtain rfl := user_of_query selected
    exact ⟨(verified.mono grown).mono more, claims⟩

theorem reauthenticate_yields (userId password : String) :
    Yields (conduct libraries) call past (EnhancedAuthService.reauthenticate userId password) fun _ _ => True := by
  unfold EnhancedAuthService.reauthenticate
  refine yields_ask_then trivial fun _ found _ _ _ => ?_
  cases found with
  | none => exact yields_throw
  | some user =>
    dsimp only
    split
    next => exact yields_throw
    next hash _ =>
      refine yields_ask_then trivial fun _ isPasswordValid _ _ _ => ?_
      split
      next => exact yields_throw
      next => exact yields_pure trivial

theorem regenerateBackupCodes_yields (password : String) (mine : checkedAccount call = some userId) :
    Yields (conduct libraries) call past
      (EnhancedAuthService.regenerateBackupCodes libraries userId password) fun _ _ => True := by
  unfold EnhancedAuthService.regenerateBackupCodes
  refine yields_bind (reauthenticate_yields userId password) fun _ user _ _ => ?_
  refine yields_ask_then trivial fun _ found _ asked selected => ?_
  cases found with
  | none => exact yields_throw
  | some row =>
    refine yields_bind (generateBackupCodes_yields _) fun _ codes grown _ => ?_
    refine yields_ask_then (permits_saveTwoFactor mine (grown asked) selected rfl rfl rfl)
      fun _ _ _ _ _ => ?_
    exact yields_bind (notifyUser_yields _) fun _ _ _ _ => yields_pure trivial

theorem disableTwoFactor_yields (userId password : String) :
    Yields (conduct libraries) call past (EnhancedAuthService.disableTwoFactor userId password) fun _ _ => True := by
  unfold EnhancedAuthService.disableTwoFactor
  refine yields_bind (reauthenticate_yields userId password) fun _ user _ _ => ?_
  refine yields_ask_then trivial fun _ _ _ _ _ => ?_
  exact yields_bind (notifyUser_yields _) fun _ _ _ _ => yields_pure trivial

/-! ## The admin guard -/

theorem given_eq_some {text : Option String} {value : String} (there : given text = some value) :
    text = some value ∧ given (some value) = some value := by
  obtain ⟨rfl, notEmpty⟩ := Option.filter_eq_some_iff.mp there
  exact ⟨rfl, there⟩

theorem resolveUserId_yields {principal : Principal} {now : Nat}
    (authenticated : JwtStrategy.validate token now = .ok principal) :
    Yields (conduct libraries) call past (AdminTwoFactorGuard.resolveUserId principal)
      fun past' resolved => ∀ userId, resolved = some userId → HolderOf token userId past' := by
  unfold JwtStrategy.validate at authenticated
  split at authenticated
  next => cases authenticated
  next =>
    split at authenticated
    next sub _ named =>
      cases authenticated
      refine yields_pure fun userId same => ?_
      cases same
      exact Or.inl (given_eq_some named).1
    next address unnamed addressed =>
      cases authenticated
      obtain ⟨present, kept⟩ := given_eq_some addressed
      unfold AdminTwoFactorGuard.resolveUserId
      simp only [kept]
      refine yields_ask_then trivial fun _ owner _ asked _ => yields_pure fun userId same => ?_
      obtain ⟨user, rfl, named⟩ := Option.map_eq_some_iff.mp same
      exact Or.inr ⟨unnamed, address, user, present, named, asked⟩
    next => cases authenticated

theorem validate_claims {principal : Principal} {now : Nat}
    (authenticated : JwtStrategy.validate token now = .ok principal) : principal.role = token.role ∧
      (principal.twoFactorVerified = true → token.twoFactorVerified = some true) := by
  unfold JwtStrategy.validate at authenticated
  split at authenticated
  next => cases authenticated
  next =>
    split at authenticated
    next =>
      cases authenticated
      exact ⟨rfl, fun claimed => by cases claim : token.twoFactorVerified <;> simp_all⟩
    next =>
      cases authenticated
      exact ⟨rfl, fun claimed => by cases claim : token.twoFactorVerified <;> simp_all⟩
    next => cases authenticated

theorem canActivate_yields {principal : Principal} {now : Nat}
    (authenticated : JwtStrategy.validate token now = .ok principal) :
    Yields (conduct libraries) call past (AdminTwoFactorGuard.canActivate principal)
      fun past' _ => token.role = .admin → token.twoFactorVerified = some true ∧
        ∃ userId row, ⟨.findTwoFactor (.enabled userId), .ok (some row)⟩ ∈ past' ∧ HolderOf token userId past' := by
  obtain ⟨role, claims⟩ := validate_claims authenticated
  unfold AdminTwoFactorGuard.canActivate
  split
  next notAdmin =>
    refine yields_pure fun admin => absurd ?_ notAdmin
    simp [AdminTwoFactorGuard.isAdmin, role, admin]
  next =>
    refine yields_bind (resolveUserId_yields authenticated) fun _ resolved _ holder => ?_
    split
    next => exact yields_throw
    next userId named =>
      refine yields_bind (isTwoFactorEnabled_yields userId) fun _ enabled grown read => ?_
      obtain ⟨found, asked, rfl⟩ := read
      split
      next => exact yields_throw
      next on =>
        split
        next => exact yields_throw
        next verified =>
          refine yields_pure fun _ => ⟨claims (not_not.mp verified), ?_⟩
          obtain ⟨row, rfl⟩ := Option.isSome_iff_exists.mp (not_not.mp on)
          have held := holder userId (given_eq_some named).1
          exact ⟨userId, row, asked, held.mono grown⟩

theorem adminRequest_yields (token : AccessToken) :
    Yields (conduct libraries) call past (AdminTwoFactorGuard.adminRequest token)
      fun past' _ => token.role = .admin → token.twoFactorVerified = some true ∧
        ∃ userId row, ⟨.findTwoFactor (.enabled userId), .ok (some row)⟩ ∈ past' ∧ HolderOf token userId past' := by
  unfold AdminTwoFactorGuard.adminRequest
  refine yields_clock_then fun now => ?_
  split
  next => exact yields_throw
  next principal authenticated => exact canActivate_yields authenticated

end Methods

end AlianStructure.Guarantees.AccountConduct
