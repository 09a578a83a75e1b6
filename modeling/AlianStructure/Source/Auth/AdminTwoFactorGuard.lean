import AlianStructure.Source.Auth.DelegationService

/-!
# The email address of an account

Source: src/core/auth/email-linking.service.ts:34-206. Every method finds the account by one
of its wallets, whatever the status of that wallet.
-/
namespace AlianStructure.Source.Auth.EmailLinkingService

def verificationMs : Nat := 15 * 60 * 1000

/-- `[^\s@]+` -/
def isEmailPart (text : List Char) : Bool :=
  ! text.isEmpty && text.all fun c => ! (c.isWhitespace || c == '@')

/-- `[^\s@]+\.[^\s@]+`: a dot that is neither the first nor the last character. -/
def isDomain (text : List Char) : Bool := isEmailPart text && text.tail.dropLast.contains '.'

/-- `/^[^\s@]+@[^\s@]+\.[^\s@]+$/` -/
def isEmail (email : String) : Bool :=
  let (name, rest) := email.toList.span fun c => c != '@'
  isEmailPart name && isDomain rest.tail

example : isEmail "ada@alian.example" = true := by decide

/-- The part of initiateEmailLinking after the checks. -/
def sendVerification (normalizedWallet normalizedEmail : String) : AuthM VerificationSent := do
  let token ← draw
  ask (.deleteEmailVerifications (.walletAddress normalizedWallet))
  let now ← clock
  let _ ← ask (.insertEmailVerification {
    id := ""
    email := normalizedEmail
    token := token
    walletAddress := normalizedWallet
    expiresAt := now + verificationMs })
  let previewUrl ← ask (.sendVerificationEmail normalizedEmail token)
  pure ⟨"Verification email sent. Please check your inbox.", previewUrl⟩

def initiateEmailLinking (walletAddress email : String) : AuthM VerificationSent := do
  if ¬ isEmail email then throw (.badRequest "Invalid email format")
  else
    let normalizedWallet := toLowerCase walletAddress
    let normalizedEmail := toLowerCase email
    let found ← ask (.findWalletWithUser normalizedWallet)
    match found with
    | none => throw (.notFound "Wallet not found")
    | some (_, user) =>
      let existingEmailUser ← ask (.findUser (.email normalizedEmail))
      if existingEmailUser.any fun other => decide (some other.id ≠ user.map (·.id)) then
        throw (.conflict "Email is already linked to another account")
      else if user.any fun u => decide (u.email = some normalizedEmail) && u.emailVerified then
        throw (.conflict "Email is already verified for this account")
      else sendVerification normalizedWallet normalizedEmail

def verifyEmailAndLink (token : String) : AuthM EmailLinked := do
  let found ← ask (.findEmailVerification token)
  match found with
  | none => throw (.notFound "Invalid or expired verification token")
  | some verification =>
    let now ← clock
    if verification.expiresAt < now then do
      ask (.deleteEmailVerifications (.token token))
      throw (.unauthorized "Verification token has expired")
    else
      let wallet ← ask (.findWalletWithUser verification.walletAddress)
      match wallet.bind (·.2) with
      | none => throw (.notFound "User not found")
      | some user => do
        ask (.saveUser { user with email := some verification.email, emailVerified := true })
        ask (.deleteEmailVerifications (.token token))
        pure ⟨"Email successfully verified and linked to wallet", user.walletAddress,
          some verification.email⟩

def unlinkEmail (walletAddress : String) : AuthM String := do
  let normalizedWallet := toLowerCase walletAddress
  let wallet ← ask (.findWalletWithUser normalizedWallet)
  match (wallet.bind (·.2)).filter fun user => (given user.email).isSome with
  | none => throw (.notFound "No email linked to this wallet")
  | some user => do
    ask (.saveUser { user with email := none, emailVerified := false })
    ask (.deleteEmailVerifications (.walletAddress normalizedWallet))
    pure "Email successfully unlinked from wallet"

end AlianStructure.Source.Auth.EmailLinkingService

/-!
# The admin guard, and the authentication services as one process

Source: src/core/auth/guards/admin-two-factor.guard.ts:45-115 and jwt.strategy.ts:47-98. A
request presents a token; the strategy refuses it when it has expired. None of the
modelled services sets the claim `jti`, so the blacklist is not consulted.
-/
namespace AlianStructure.Source.Auth
open Library.Interleaving

/-- What the strategy makes of a token; `id` is there for a token with a user id, `address`
for one without. -/
structure Principal where
  id : Option String
  address : Option String
  role : Role
  twoFactorVerified : Bool
  deriving DecidableEq

namespace JwtStrategy

def validate (token : AccessToken) (now : Nat) : Except Exception Principal :=
  if token.exp ≤ now / 1000 then .error (.unauthorized "jwt expired")
  else
    match given token.sub, given token.address with
    | some sub, _ =>
      .ok ⟨some sub, none, normalizeRole (some token.role), token.twoFactorVerified.getD false⟩
    | none, some address =>
      .ok ⟨none, some address, normalizeRole (some token.role), token.twoFactorVerified.getD false⟩
    | none, none => .error (.unauthorized "Invalid token payload - missing user identifier")

end JwtStrategy

namespace AdminTwoFactorGuard

def isAdmin (role : Role) : Bool := decide (role = .admin)

def resolveUserId (principal : Principal) : AuthM (Option String) :=
  match principal.id, given principal.address with
  | some id, _ => pure (some id)
  | none, some address => do
    let owner ← ask (.findUser (.walletAddress (toLowerCase address)))
    pure (owner.map (·.id))
  | none, none => pure none

/-- Lets the request pass by returning. -/
def canActivate (principal : Principal) : AuthM Unit := do
  if ¬ isAdmin principal.role then pure ()
  else
    let resolved ← resolveUserId principal
    match given resolved with
    | none => throw (.forbidden "Unable to resolve admin account identity")
    | some userId =>
      let enabled ← EnhancedAuthService.isTwoFactorEnabled userId
      if ¬ enabled then
        throw (.forbidden
          "Admin accounts must enable two-factor authentication before accessing admin endpoints.")
      else if ¬ principal.twoFactorVerified then
        throw (.forbidden "Two-factor verification required to access admin endpoints.")
      else pure ()

/-- A request to an admin endpoint: authentication, then the guard. -/
def adminRequest (token : AccessToken) : AuthM Unit := do
  let now ← clock
  match JwtStrategy.validate token now with
  | .error failure => throw failure
  | .ok principal => canActivate principal

end AdminTwoFactorGuard

structure AuthConfig where
  libraries : AuthLibraries
  maxWallets : Nat

/-- The result of a method as that of a call. -/
def returning {α : Type} (value : α → AuthValue) (program : AuthM α) : AuthM AuthValue := do
  let result ← program
  pure (value result)

def authBody (config : AuthConfig) : AuthCall → AuthM AuthValue
  | .register dto ipAddress userAgent =>
    returning .session (EnhancedAuthService.register dto ipAddress userAgent)
  | .login email password ipAddress userAgent =>
    returning .session (EnhancedAuthService.login email password ipAddress userAgent)
  | .refreshToken token ipAddress userAgent =>
    returning .tokens (EnhancedAuthService.refreshToken token ipAddress userAgent)
  | .setupTwoFactor userId =>
    returning .twoFactorSetup (EnhancedAuthService.setupTwoFactor config.libraries userId)
  | .verifyTwoFactorSetup userId code =>
    returning .success (EnhancedAuthService.verifyTwoFactorSetup config.libraries userId code)
  | .verifyTwoFactorLogin userId dto clientInfo =>
    returning .tokens
      (EnhancedAuthService.verifyTwoFactorLogin config.libraries userId dto clientInfo)
  | .regenerateBackupCodes userId password =>
    returning .backupCodes
      (EnhancedAuthService.regenerateBackupCodes config.libraries userId password)
  | .disableTwoFactor userId password =>
    returning .success (EnhancedAuthService.disableTwoFactor userId password)
  | .issueChallengeForAddress address =>
    returning .challenge (ChallengeService.issueChallengeForAddress address)
  | .verifySignatureAndIssueToken message signature =>
    returning .walletToken
      (WalletAuthService.verifySignatureAndIssueToken config.libraries message signature)
  | .verifyWalletTwoFactorAndIssueToken userId dto =>
    returning .walletToken
      (WalletAuthService.verifyWalletTwoFactorAndIssueToken config.libraries userId dto)
  | .linkWallet currentUserId newWalletAddress message signature walletName permissions clientInfo =>
    returning .linkedWallet (WalletAuthService.linkWallet config.libraries config.maxWallets
      currentUserId newWalletAddress message signature walletName permissions clientInfo)
  | .setPrimaryWallet walletId userId =>
    returning (.walletId "Primary wallet updated") (WalletAuthService.setPrimaryWallet walletId userId)
  | .unlinkWallet userId walletId =>
    returning (.walletId "Wallet successfully unlinked")
      (WalletAuthService.unlinkWallet userId walletId)
  | .requestDelegation delegatorUserId request =>
    returning .delegationChallenge (DelegationService.requestDelegation delegatorUserId request)
  | .completeDelegation delegatorUserId delegateWalletId signature =>
    returning .delegation (DelegationService.completeDelegation config.libraries delegatorUserId
      delegateWalletId signature)
  | .revokeDelegation userId delegationId =>
    returning .success (DelegationService.revokeDelegation userId delegationId)
  | .verifyDelegationPermission delegateAddress requiredPermission =>
    returning .delegationCheck
      (DelegationService.verifyDelegationPermission delegateAddress requiredPermission)
  | .cleanupExpiredDelegations => returning .count DelegationService.cleanupExpiredDelegations
  | .initiateEmailLinking walletAddress email =>
    returning .verificationSent (EmailLinkingService.initiateEmailLinking walletAddress email)
  | .verifyEmailAndLink token =>
    returning .emailLinked (EmailLinkingService.verifyEmailAndLink token)
  | .unlinkEmail walletAddress =>
    returning .message (EmailLinkingService.unlinkEmail walletAddress)
  | .adminRequest token =>
    returning (fun _ => .allowed) (AdminTwoFactorGuard.adminRequest token)

/-- The process, open to the calls that `offers` admits. -/
abbrev authProcess (config : AuthConfig) (offers : AuthCall → Bool) : Service auth where
  World := AuthWorld
  Choice := AuthOutcome
  Env := Nat
  respond := AuthWorld.respond config.libraries
  environment := authEnvironment
  isPublic := offers
  body := authBody config

end AlianStructure.Source.Auth
