import AlianStructure.Library.InsertionOrder
import AlianStructure.Source.Auth.Accounts
import AlianStructure.Source.Common.BigIntText

/-!
# Tokens, who issues them and who accepts them

Source: src/core/auth/token-blacklist.service.ts, jwt.strategy.ts:45-98, guards/strategy-auth.guard.ts:29-144,
strategies/ (the registry, the four strategies' claims and `validateToken`), auth.service.ts:91-104,145-158,
enhanced-auth.service.ts:559-575, wallet-auth.service.ts:126-134,198-213, session-recovery.service.ts:352-361 and
src/common/guard/roles.enum.ts:26-32. A token is its claims and a signature; whether a signature is accepted is up
to the passport strategy's secret, or to the module's. A guard's synchronous work takes no time.
-/
namespace AlianStructure.Source.Auth.Tokens
open Library.InsertionOrder

inductive AuthType where
  | wallet | traditional | oauth | apiKey
  deriving DecidableEq

/-- The claims of a token; times are in seconds. -/
structure TokenClaims where
  sub : Option String
  address : Option String
  email : Option String
  username : Option String
  role : Option String
  tier : Option RateLimitTier
  roles : Option (List String)
  jti : Option String
  type : Option AuthType
  twoFactorVerified : Option Bool
  iat : Nat
  exp : Option Nat
  deriving DecidableEq

structure SignedToken where
  claims : TokenClaims
  signature : String
  deriving DecidableEq

/-- Which tokens have an accepted signature. -/
structure Signatures where
  passport : SignedToken → Bool
  service : SignedToken → Bool

/-- A token's claims, when its signature is accepted and it has not expired. -/
def verify (accepted : SignedToken → Bool) (now : Nat) (token : SignedToken) : Except Exception TokenClaims :=
  if ! accepted token then .error (.error "invalid signature")
  else if token.claims.exp.any fun exp => decide (exp ≤ now / 1000) then .error (.error "jwt expired")
  else .ok token.claims

/-! ## Roles -/

def roleValue : Role → String
  | .user => "USER"
  | .operator => "OPERATOR"
  | .admin => "ADMIN"
  | .governanceOperator => "GOVERNANCE_OPERATOR"
  | .kycOperator => "KYC_OPERATOR"

def roleValues : List Role := [.user, .operator, .admin, .governanceOperator, .kycOperator]

def normalizeRoleText (value : Option String) : Role :=
  let normalized := toUpperCase (String.ofList (Common.trim (value.getD "").toList))
  (roleValues.find? fun role => roleValue role = normalized).getD .user

/-! ## Issuers -/

/-- A text that is not empty. -/
abbrev Uuid : Type := { text : String // text ≠ "" }

def apiKeyTtlSeconds : Nat := 60 * 60

/-- A method that issues a token, with what it has looked up by then. -/
inductive Issuance where
  | authRegister (user : User) (uuid : Uuid)
  | authLogin (user : User) (uuid : Uuid)
  | generateTokens (user : User) (twoFactorVerified : Bool)
  | verifySignatureAndIssueToken (address : String) (user : Option User)
  | issueWalletToken (address : String) (user : User) (twoFactorVerified : Bool)
  | completeRecovery (wallet : Wallet) (user : User)
  | walletStrategy (address : String) (user : Option User)
  | traditionalAuthenticate (user : User)
  | traditionalRegister (user : User)
  | oauthStrategy (user : User)
  | apiKeyStrategy (user : User) (tier : RateLimitTier)
  deriving DecidableEq

/-- A token without claims but for its times. -/
def timed (now ttl : Nat) : TokenClaims :=
  ⟨none, none, none, none, none, none, none, none, none, none, now / 1000, some (now / 1000 + ttl)⟩

def verifiedEmail (user : User) : Option String := if user.emailVerified then user.email else none

/-- `AuthService.register` and `AuthService.login`. -/
def AuthService.payload (user : User) (uuid : Uuid) (now : Nat) : TokenClaims :=
  { timed now accessTokenTtlSeconds with
    sub := some user.id
    email := user.email
    username := user.username
    jti := some uuid.val
    tier := some (resolveRateLimitTierFromRole (some user.role)) }

/-- The claims of an email and password login under a strategy. -/
def TraditionalStrategy.payload (user : User) (now : Nat) : TokenClaims :=
  { timed now accessTokenTtlSeconds with
    sub := some user.id
    email := user.email
    username := user.username
    role := some (roleValue user.role)
    tier := some (resolveRateLimitTierFromRole (some user.role))
    type := some .traditional }

def Issuance.claims (now : Nat) : Issuance → TokenClaims
  | .authRegister user uuid => AuthService.payload user uuid now
  | .authLogin user uuid => AuthService.payload user uuid now
  | .generateTokens user twoFactorVerified =>
    { timed now accessTokenTtlSeconds with
      sub := some user.id
      email := user.email
      username := user.username
      role := some (roleValue user.role)
      tier := some (resolveRateLimitTierFromRole (some user.role))
      twoFactorVerified := some twoFactorVerified }
  | .verifySignatureAndIssueToken address user =>
    { timed now accessTokenTtlSeconds with
      sub := user.map (·.id)
      address := some address
      email := user.bind verifiedEmail
      role := some (roleValue (normalizeRole (user.map (·.role))))
      tier := some (resolveRateLimitTierFromRole (user.map (·.role))) }
  | .issueWalletToken address user twoFactorVerified =>
    { timed now accessTokenTtlSeconds with
      address := some (toLowerCase address)
      email := verifiedEmail user
      role := some (roleValue user.role)
      tier := some (resolveRateLimitTierFromRole (some user.role))
      twoFactorVerified := some twoFactorVerified }
  | .completeRecovery wallet user =>
    { timed now accessTokenTtlSeconds with
      sub := some wallet.userId
      address := some wallet.address
      email := verifiedEmail user
      role := some (roleValue user.role) }
  | .walletStrategy address user =>
    { timed now accessTokenTtlSeconds with
      sub := user.map (·.id)
      address := some address
      email := user.bind verifiedEmail
      role := some ((user.map fun owner => roleValue owner.role).getD "user")
      tier := some (resolveRateLimitTierFromRole (user.map (·.role)))
      type := some .wallet }
  | .traditionalAuthenticate user => TraditionalStrategy.payload user now
  | .traditionalRegister user => TraditionalStrategy.payload user now
  | .oauthStrategy user =>
    { timed now accessTokenTtlSeconds with
      sub := some user.id
      email := user.email
      username := user.username
      role := some (roleValue user.role)
      type := some .oauth }
  | .apiKeyStrategy user tier =>
    { timed now apiKeyTtlSeconds with
      sub := some user.id
      email := user.email
      username := user.username
      role := some (roleValue user.role)
      tier := some tier
      type := some .apiKey }

/-! ## The blacklist -/

/-- From the `jti` of a token to its expiry, in epoch milliseconds. -/
abbrev Blacklist : Type := OrderedMap String Nat

namespace TokenBlacklistService

def revoke (blacklist : Blacklist) (jti : String) (expiresAt : Nat) : Blacklist := blacklist.set jti expiresAt

def isRevoked (blacklist : Blacklist) (now : Nat) (jti : String) : Blacklist × Bool :=
  match blacklist.get? jti with
  | none => (blacklist, false)
  | some exp => if exp < now then (blacklist.delete jti, false) else (blacklist, true)

def cleanup (blacklist : Blacklist) (now : Nat) : Blacklist :=
  Library.KeyedTable.Table.delete blacklist fun entry => decide (entry.2 < now)

end TokenBlacklistService

/-! ## The passport strategy -/

/-- What the strategy makes of a payload; a traditional one has `sub`, a wallet's `address`. -/
structure JwtUser where
  sub : Option String
  address : Option String
  email : Option String
  username : Option String
  role : Role
  tier : Option RateLimitTier
  jti : Option String
  twoFactorVerified : Bool
  exp : Option Nat
  deriving DecidableEq

namespace JwtStrategy

def identify (payload : TokenClaims) : Except Exception JwtUser :=
  let user : JwtUser :=
    ⟨none, none, payload.email, none, normalizeRoleText payload.role, payload.tier, payload.jti,
      payload.twoFactorVerified.getD false, payload.exp⟩
  match given payload.sub, given payload.address with
  | some sub, _ => .ok { user with sub := some sub, username := payload.username }
  | none, some address => .ok { user with address := some address }
  | none, none => .error (.unauthorized "Invalid token payload - missing user identifier")

def validate (blacklist : Blacklist) (now : Nat) (payload : TokenClaims) : Blacklist × Except Exception JwtUser :=
  match given payload.jti with
  | none => (blacklist, identify payload)
  | some jti =>
    match TokenBlacklistService.isRevoked blacklist now jti with
    | (after, true) => (after, .error (.unauthorized "Token has been revoked"))
    | (after, false) => (after, identify payload)

end JwtStrategy

/-- `AuthGuard("jwt")`: passport verifies the token before the strategy sees its payload. -/
def JwtAuthGuard.canActivate (signatures : Signatures) (blacklist : Blacklist) (now : Nat)
    (bearer : Option SignedToken) : Blacklist × Except Exception JwtUser :=
  match bearer with
  | none => (blacklist, .error (.unauthorized "Unauthorized"))
  | some token =>
    match verify signatures.passport now token with
    | .error _ => (blacklist, .error (.unauthorized "Unauthorized"))
    | .ok payload => JwtStrategy.validate blacklist now payload

/-! ## The strategies and their guard -/

def AuthType.name : AuthType → String
  | .wallet => "wallet"
  | .traditional => "traditional"
  | .oauth => "oauth"
  | .apiKey => "api-key"

/-- The strategies that are registered, under their names. -/
abbrev Strategies : Type := OrderedMap String AuthType

namespace StrategyRegistry

def register (strategies : Strategies) (strategy : AuthType) (isEnabled : Bool) : Strategies :=
  if isEnabled then strategies.set strategy.name strategy else strategies

def unregister (strategies : Strategies) (name : String) : Strategies := strategies.delete name

def getAll (strategies : Strategies) : List AuthType := strategies.entries.map (·.2)

end StrategyRegistry

/-- What all four strategies do: a failed verification is `null`. -/
def verified (signatures : Signatures) (now : Nat) (token : SignedToken) : Option TokenClaims :=
  (verify signatures.service now token).toOption

def WalletStrategy.validateToken := verified
def TraditionalStrategy.validateToken := verified
def OAuthStrategy.validateToken := verified
def ApiKeyStrategy.validateToken := verified

def AuthType.validateToken : AuthType → Signatures → Nat → SignedToken → Option TokenClaims
  | .wallet => WalletStrategy.validateToken
  | .traditional => TraditionalStrategy.validateToken
  | .oauth => OAuthStrategy.validateToken
  | .apiKey => ApiKeyStrategy.validateToken

/-- What the decorators of a handler say. -/
structure Route where
  isPublic : Bool
  allowedStrategies : Option (List AuthType)
  deriving DecidableEq

structure GuardUser where
  id : Option String
  address : Option String
  email : Option String
  username : Option String
  role : Option String
  tier : Option RateLimitTier
  roles : List (Option String)
  type : Option AuthType
  deriving DecidableEq

namespace StrategyAuthGuard

def validateTokenWithStrategies (signatures : Signatures) (now : Nat) (token : SignedToken) :
    List AuthType → Option TokenClaims
  | [] => none
  | strategy :: rest =>
    match strategy.validateToken signatures now token with
    | some payload => some payload
    | none => validateTokenWithStrategies signatures now token rest

def transformPayloadToUser (payload : TokenClaims) : GuardUser :=
  ⟨payload.sub, payload.address, payload.email, payload.username, payload.role, payload.tier,
    (payload.roles.map fun roles => roles.map some).getD [payload.role], payload.type⟩

def isAllowed (route : Route) (type : Option AuthType) : Bool :=
  route.allowedStrategies.all fun allowed => type.any allowed.contains

/-- The user the request gets, if any; a public route gives it none. -/
def canActivate (signatures : Signatures) (strategies : Strategies) (now : Nat) (route : Route)
    (bearer : Option SignedToken) : Except Exception (Option GuardUser) :=
  if route.isPublic then .ok none
  else
    match bearer with
    | none => .error (.unauthorized "Access token is required")
    | some token =>
      -- Every refusal in the try block comes out as one message.
      match validateTokenWithStrategies signatures now token (StrategyRegistry.getAll strategies) with
      | none => .error (.unauthorized "Authentication failed")
      | some payload =>
        if isAllowed route payload.type then .ok (some (transformPayloadToUser payload))
        else .error (.unauthorized "Authentication failed")

end StrategyAuthGuard

/-! ## The process -/

structure TokenProcess where
  now : Nat
  blacklist : Blacklist
  strategies : Strategies

/-- What happens in the process; the cleanup runs on a timer. -/
inductive TokenEvent where
  | elapse (milliseconds : Nat)
  | register (strategy : AuthType) (isEnabled : Bool)
  | unregister (name : String)
  | issue (issuance : Issuance)
  | revoke (jti : String) (expiresAt : Nat)
  | cleanup
  | presentToJwtGuard (bearer : Option SignedToken)
  | presentToStrategyGuard (route : Route) (bearer : Option SignedToken)

inductive TokenAnswer where
  | done
  | token (claims : TokenClaims)
  | jwtUser (result : Except Exception JwtUser)
  | guardUser (result : Except Exception (Option GuardUser))

def TokenProcess.respond (signatures : Signatures) (process : TokenProcess) :
    TokenEvent → TokenProcess × TokenAnswer
  | .elapse milliseconds => ({ process with now := process.now + milliseconds }, .done)
  | .register strategy isEnabled =>
    ({ process with strategies := StrategyRegistry.register process.strategies strategy isEnabled }, .done)
  | .unregister name =>
    ({ process with strategies := StrategyRegistry.unregister process.strategies name }, .done)
  | .issue issuance => (process, .token (issuance.claims process.now))
  | .revoke jti expiresAt =>
    ({ process with blacklist := TokenBlacklistService.revoke process.blacklist jti expiresAt }, .done)
  | .cleanup => ({ process with blacklist := TokenBlacklistService.cleanup process.blacklist process.now }, .done)
  | .presentToJwtGuard bearer =>
    let (blacklist, result) := JwtAuthGuard.canActivate signatures process.blacklist process.now bearer
    ({ process with blacklist }, .jwtUser result)
  | .presentToStrategyGuard route bearer =>
    (process, .guardUser
      (StrategyAuthGuard.canActivate signatures process.strategies process.now route bearer))

end AlianStructure.Source.Auth.Tokens
