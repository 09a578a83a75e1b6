import AlianStructure.Source.Exception

/-!
# Accounts, wallets and their tokens

Source: src/core/user/entities/user.entity.ts, src/core/auth/entities/wallet.entity.ts,
auth.entity.ts and email-verification.entity.ts, src/common/guard/roles.enum.ts, src/config/quota.config.ts:74-104 and
jwt.config.ts. Times are epoch milliseconds, the claims `iat` and `exp` seconds. An access
token is its claims: who can make a signature is not modelled.
-/
namespace AlianStructure.Source.Auth

inductive Role where
  | user | operator | admin | governanceOperator | kycOperator
  deriving DecidableEq

/-- A role is canonical once it has been read from its column. -/
def normalizeRole (value : Option Role) : Role := value.getD .user

inductive RateLimitTier where
  | free | paid | enterprise
  deriving DecidableEq

def resolveRateLimitTierFromRole : Option Role → RateLimitTier
  | some .admin => .enterprise
  | some .kycOperator | some .operator => .paid
  | _ => .free

inductive KycStatus where
  | unverified | pending | inReview | verified | rejected
  deriving DecidableEq

structure User where
  id : String
  username : Option String
  walletAddress : String
  email : Option String
  password : Option String
  emailVerified : Bool
  role : Role
  kycStatus : KycStatus
  isActive : Bool
  lastLoginAt : Option Nat
  referralCode : Option String
  referredById : Option String
  deriving DecidableEq

inductive WalletStatus where
  | active | pending | revoked | unlinked
  deriving DecidableEq

inductive WalletType where
  | primary | secondary | delegated | hardware
  deriving DecidableEq

structure Wallet where
  id : String
  address : String
  userId : String
  type : WalletType
  status : WalletStatus
  isPrimary : Bool
  name : Option String
  verificationSignature : Option String
  verificationChallenge : Option String
  verifiedAt : Option Nat
  linkedIp : Option String
  linkedUserAgent : Option String
  delegatedById : Option String
  delegationExpiresAt : Option Nat
  delegationPermissions : Option (List String)
  createdAt : Nat
  deriving DecidableEq

structure RefreshToken where
  id : String
  userId : String
  token : String
  expiresAt : Nat
  revoked : Bool
  revokedAt : Option Nat
  replacedByToken : Option String
  ipAddress : String
  userAgent : Option String
  deriving DecidableEq

inductive TwoFactorStatus where
  | pending | verified | disabled
  deriving DecidableEq

/-- Only the type `totp` is ever stored; `backupCodes` is the parsed JSON array. -/
structure TwoFactorAuth where
  id : String
  userId : String
  status : TwoFactorStatus
  secret : String
  backupCodes : List String
  isEnabled : Bool
  failedAttempts : Nat
  lockedUntil : Option Nat
  verifiedAt : Option Nat
  lastUsedAt : Option Nat
  deriving DecidableEq

structure Challenge where
  id : String
  message : String
  createdAt : Nat
  expiresAt : Nat
  address : String
  deriving DecidableEq

structure EmailVerification where
  id : String
  email : String
  token : String
  walletAddress : String
  expiresAt : Nat
  deriving DecidableEq

structure AccessToken where
  sub : Option String
  address : Option String
  email : Option String
  username : Option String
  role : Role
  tier : RateLimitTier
  twoFactorVerified : Option Bool
  iat : Nat
  exp : Nat
  deriving DecidableEq

def accessTokenTtlSeconds : Nat := 15 * 60

def refreshTokenTtlMs : Nat := 7 * 24 * 60 * 60 * 1000

structure RegisterDto where
  email : String
  password : String
  username : Option String
  referralCode : Option String
  deriving DecidableEq

structure TwoFactorVerifyDto where
  code : Option String
  backupCode : Option String
  deriving DecidableEq

structure ClientInfo where
  ip : Option String
  userAgent : Option String
  deriving DecidableEq

structure DelegationRequest where
  delegatorWalletId : String
  delegateAddress : String
  permissions : List String
  expiresAt : Nat
  deriving DecidableEq

/-- A text that is there and not empty. -/
def given (text : Option String) : Option String := text.filter fun t => decide (t ≠ "")

inductive UserQuery where
  | id (id : String)
  | email (email : String)
  | emailOrUsername (email : String) (username : Option String)
  | referralCode (code : String)
  | walletAddress (address : String)
  deriving DecidableEq

/-- A condition on an undefined username is no condition at all. -/
def UserQuery.selects : UserQuery → User → Bool
  | .id userId, user => decide (user.id = userId)
  | .email address, user => decide (user.email = some address)
  | .emailOrUsername address username, user =>
    decide (user.email = some address) || username.all fun name => decide (user.username = some name)
  | .referralCode code, user => decide (user.referralCode = some code)
  | .walletAddress address, user => decide (user.walletAddress = address)

inductive EmailVerificationQuery where
  | token (token : String)
  | walletAddress (address : String)
  deriving DecidableEq

def EmailVerificationQuery.selects : EmailVerificationQuery → EmailVerification → Bool
  | .token value, row => decide (row.token = value)
  | .walletAddress address, row => decide (row.walletAddress = address)

/-- The `where` of the queries on wallets; a condition that is `none` is absent. -/
structure WalletQuery where
  id : Option String
  notId : Option String
  userId : Option String
  address : Option String
  type : Option WalletType
  status : Option WalletStatus
  expiresBefore : Option Nat
  deriving DecidableEq

/-- The query without a condition. -/
def WalletQuery.all : WalletQuery := ⟨none, none, none, none, none, none, none⟩

def WalletQuery.selects (query : WalletQuery) (wallet : Wallet) : Bool :=
  query.id.all (fun id => decide (wallet.id = id)) &&
    query.notId.all (fun id => decide (wallet.id ≠ id)) &&
    query.userId.all (fun userId => decide (wallet.userId = userId)) &&
    query.address.all (fun address => decide (wallet.address = address)) &&
    query.type.all (fun type => decide (wallet.type = type)) &&
    query.status.all (fun status => decide (wallet.status = status)) &&
    query.expiresBefore.all fun time =>
      wallet.delegationExpiresAt.any fun expiresAt => decide (expiresAt < time)

inductive TwoFactorQuery where
  | enabled (userId : String)
  | pending (userId : String)
  deriving DecidableEq

def TwoFactorQuery.selects : TwoFactorQuery → TwoFactorAuth → Bool
  | .enabled userId, row => decide (row.userId = userId) && row.isEnabled
  | .pending userId, row => decide (row.userId = userId) && decide (row.status = .pending)

end AlianStructure.Source.Auth
