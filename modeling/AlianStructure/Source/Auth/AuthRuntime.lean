import Mathlib.Data.List.Sort
import AlianStructure.Library.Interleaving
import AlianStructure.Library.KeyedTable
import AlianStructure.Source.Auth.Accounts

/-!
# What the authentication services ask for

Source: the awaited operations of src/core/auth/enhanced-auth.service.ts,
wallet-auth.service.ts, delegation.service.ts, email-linking.service.ts and
guards/admin-two-factor.guard.ts. The texts of mails and the contents of provenance records are left out: nothing reads them
back. Third-party functions that compute a value are parameters.
-/
namespace AlianStructure.Source.Auth
open Library.AsyncMethod Library.Interleaving Library.KeyedTable

/-- The third-party functions: password hashes, one-time codes, signatures, digests. -/
structure AuthLibraries where
  bcryptCompare : (password hash : String) → Bool
  totpVerify : (secret token : String) → (now : Nat) → Bool
  verifyMessage : (message signature : String) → Except Exception String
  sha256 : String → String
  otpauthUrl : (secret name issuer : String) → String

inductive UserChange where
  | lastLoginAt (time : Nat)
  | walletAddress (address : String)
  deriving DecidableEq

def UserChange.apply (user : User) : UserChange → User
  | .lastLoginAt time => { user with lastLoginAt := some time }
  | .walletAddress address => { user with walletAddress := address }

/-- The awaited operations. An insert is given a row without an id and answers the id; a
save replaces the row with its id; an update changes some columns of the rows it names, and
that of a two-factor record answers whether there was one. -/
inductive AuthOp where
  | findUser (query : UserQuery)
  | insertUser (user : User)
  | updateUser (id : String) (change : UserChange)
  | saveUser (user : User)
  | findRefreshToken (token : String)
  | insertRefreshToken (entity : RefreshToken)
  | revokeRefreshToken (id : String) (revokedAt : Nat) (replacedByToken : String)
  | findTwoFactor (query : TwoFactorQuery)
  | insertTwoFactor (row : TwoFactorAuth)
  | saveTwoFactor (row : TwoFactorAuth)
  | enableTwoFactor (id : String) (verifiedAt : Nat)
  | disableTwoFactor (userId : String)
  | deleteTwoFactor (userId : String)
  | findWallet (query : WalletQuery)
  | findWalletWithUser (address : String)
  | findWallets (query : WalletQuery)
  | insertWallet (wallet : Wallet)
  | saveWallet (wallet : Wallet)
  | unsetPrimary (userId : String)
  | findEmailVerification (token : String)
  | insertEmailVerification (row : EmailVerification)
  | deleteEmailVerifications (query : EmailVerificationQuery)
  | hashPassword (password : String)
  | comparePassword (password hash : String)
  | toDataUrl (url : String)
  | sendMail (recipient : String)
  | sendVerificationEmail (email token : String)
  | createProvenanceRecord
  deriving DecidableEq

abbrev AuthOp.Reply : AuthOp → Type
  | .findUser _ => Option User
  | .findRefreshToken _ => Option (RefreshToken × User)
  | .findTwoFactor _ => Option TwoFactorAuth
  | .findWallet _ => Option Wallet
  | .findWalletWithUser _ => Option (Wallet × Option User)
  | .findWallets _ => List Wallet
  | .findEmailVerification _ => Option EmailVerification
  | .sendVerificationEmail _ _ => Option String
  | .insertUser _ | .insertRefreshToken _ | .insertTwoFactor _ | .insertWallet _ => String
  | .insertEmailVerification _ => String
  | .hashPassword _ | .toDataUrl _ => String
  | .comparePassword _ _ | .enableTwoFactor _ _ => Bool
  | _ => Unit

/-- The clock, the random number generator with the number of values drawn from it, and the
challenges of the process. -/
structure AuthMemory where
  now : Nat
  random : Nat → String
  drawn : Nat
  challenges : Table Challenge Challenge.id

inductive AuthCall where
  | register (dto : RegisterDto) (ipAddress : String) (userAgent : Option String)
  | login (email password ipAddress : String) (userAgent : Option String)
  | refreshToken (token ipAddress : String) (userAgent : Option String)
  | setupTwoFactor (userId : String)
  | verifyTwoFactorSetup (userId code : String)
  | verifyTwoFactorLogin (userId : String) (dto : TwoFactorVerifyDto) (clientInfo : ClientInfo)
  | regenerateBackupCodes (userId password : String)
  | disableTwoFactor (userId password : String)
  | issueChallengeForAddress (address : String)
  | verifySignatureAndIssueToken (message signature : String)
  | verifyWalletTwoFactorAndIssueToken (userId : String) (dto : TwoFactorVerifyDto)
  | linkWallet (currentUserId newWalletAddress message signature : String)
      (walletName : Option String) (permissions : Option (List String)) (clientInfo : ClientInfo)
  | setPrimaryWallet (walletId userId : String)
  | unlinkWallet (userId walletId : String)
  | requestDelegation (delegatorUserId : String) (request : DelegationRequest)
  | completeDelegation (delegatorUserId delegateWalletId signature : String)
  | revokeDelegation (userId delegationId : String)
  | verifyDelegationPermission (delegateAddress requiredPermission : String)
  | cleanupExpiredDelegations
  | initiateEmailLinking (walletAddress email : String)
  | verifyEmailAndLink (token : String)
  | unlinkEmail (walletAddress : String)
  | adminRequest (token : AccessToken)
  deriving DecidableEq

structure TokenPair where
  accessToken : AccessToken
  refreshToken : String
  deriving DecidableEq

/-- The part of the user that register and login return. -/
structure UserSummary where
  id : String
  email : Option String
  username : Option String
  role : Role
  tier : RateLimitTier
  kycStatus : KycStatus
  deriving DecidableEq

structure AuthSession where
  tokens : TokenPair
  user : UserSummary
  requiresTwoFactor : Bool
  deriving DecidableEq

structure WalletToken where
  token : AccessToken
  address : String
  deriving DecidableEq

structure TwoFactorSetup where
  secret : String
  qrCodeUrl : String
  backupCodes : List String
  deriving DecidableEq

structure LinkedWallet where
  message : String
  walletId : String
  walletAddress : String
  type : WalletType
  deriving DecidableEq

structure DelegationChallenge where
  delegationId : String
  message : String
  challenge : String
  deriving DecidableEq

/-- The record completeDelegation returns; its permissions are always empty. -/
structure DelegationRecord where
  id : String
  delegatorWalletId : String
  delegateWalletId : String
  grantedAt : Nat
  expiresAt : Option Nat
  deriving DecidableEq

structure DelegationCheck where
  valid : Bool
  delegatorWalletId : Option String
  expiresAt : Option Nat
  deriving DecidableEq

structure VerificationSent where
  message : String
  previewUrl : Option String
  deriving DecidableEq

structure EmailLinked where
  message : String
  walletAddress : String
  email : Option String
  deriving DecidableEq

inductive AuthValue where
  | session (session : AuthSession)
  | tokens (tokens : TokenPair)
  | twoFactorSetup (setup : TwoFactorSetup)
  | success (success : Bool)
  | backupCodes (codes : List String)
  | challenge (message : String)
  | walletToken (token : WalletToken)
  | linkedWallet (wallet : LinkedWallet)
  | walletId (message walletId : String)
  | delegationChallenge (challenge : DelegationChallenge)
  | delegation (record : DelegationRecord)
  | delegationCheck (check : DelegationCheck)
  | count (n : Nat)
  | verificationSent (sent : VerificationSent)
  | emailLinked (linked : EmailLinked)
  | message (text : String)
  | allowed
  deriving DecidableEq

abbrev auth : Runtime where
  Op := AuthOp
  Reply := AuthOp.Reply
  Mem := AuthMemory
  Err := Exception
  Call := AuthCall
  Val := AuthValue

abbrev AuthM := Async auth

def ask (op : AuthOp) : AuthM op.Reply := Async.perform (R := auth) op

def clock : AuthM Nat := do
  let memory ← Async.memory
  pure memory.now

/-- The next random value. -/
def draw : AuthM String := do
  let memory ← Async.memory
  Async.update (R := auth) fun memory => { memory with drawn := memory.drawn + 1 }
  pure (memory.random memory.drawn)

/-- The tables; `retired` are the ids of deleted two-factor records, which no other record
gets. -/
structure AuthWorld where
  now : Nat
  users : Table User User.id
  refreshTokens : Table RefreshToken RefreshToken.id
  twoFactors : Table TwoFactorAuth TwoFactorAuth.id
  wallets : Table Wallet Wallet.id
  emailVerifications : Table EmailVerification EmailVerification.id
  retired : List String

/-- What the outside decides: the id of a new row, a text it makes up, or a failure, which
leaves the database as it was. -/
inductive AuthOutcome where
  | done
  | made (text : String)
  | fails (failure : Exception)
  deriving DecidableEq

def duplicateKey : Exception := .error "duplicate key value violates unique constraint"

/-- The unique columns of a user, apart from the id. -/
def User.clashes (user other : User) : Bool :=
  decide (user.walletAddress = other.walletAddress) ||
    (user.email.isSome && decide (user.email = other.email)) ||
    (user.username.isSome && decide (user.username = other.username)) ||
    (user.referralCode.isSome && decide (user.referralCode = other.referralCode))

def AuthWorld.insertUser (world : AuthWorld) (user : User) :
    AuthWorld × Except Exception String :=
  if world.users.rows.any user.clashes then (world, .error duplicateKey)
  else ({ world with users := world.users.save user }, .ok user.id)

def AuthWorld.updateUser (world : AuthWorld) (id : String) (change : UserChange) :
    AuthWorld × Except Exception Unit :=
  match world.users.findOne id with
  | none => (world, .ok ())
  | some user =>
    if world.users.rows.any fun other =>
        decide (other.id ≠ id) && (change.apply user).clashes other then
      (world, .error duplicateKey)
    else ({ world with users := world.users.save (change.apply user) }, .ok ())

/-- The columns of the row with the user's id become those of the user. -/
def AuthWorld.saveUser (world : AuthWorld) (user : User) : AuthWorld × Except Exception Unit :=
  if world.users.rows.any fun other => decide (other.id ≠ user.id) && user.clashes other then
    (world, .error duplicateKey)
  else ({ world with users := world.users.save user }, .ok ())

def AuthWorld.insertRefreshToken (world : AuthWorld) (entity : RefreshToken) :
    AuthWorld × Except Exception String :=
  if world.refreshTokens.rows.any fun other => decide (other.token = entity.token) then
    (world, .error duplicateKey)
  else ({ world with refreshTokens := world.refreshTokens.save entity }, .ok entity.id)

def AuthWorld.insertWallet (world : AuthWorld) (wallet : Wallet) :
    AuthWorld × Except Exception String :=
  if world.wallets.rows.any fun other => decide (other.address = wallet.address) then
    (world, .error duplicateKey)
  else ({ world with wallets := world.wallets.save wallet }, .ok wallet.id)

def AuthWorld.insertEmailVerification (world : AuthWorld) (row : EmailVerification) :
    AuthWorld × Except Exception String :=
  if world.emailVerifications.rows.any fun other => decide (other.token = row.token) then
    (world, .error duplicateKey)
  else ({ world with emailVerifications := world.emailVerifications.save row }, .ok row.id)

/-- The row with a valid token, joined with its user. -/
def AuthWorld.findRefreshToken (world : AuthWorld) (token : String) :
    Option (RefreshToken × User) :=
  match world.refreshTokens.rows.find? fun row => decide (row.token = token) && ! row.revoked with
  | none => none
  | some row => (world.users.findOne row.userId).map fun user => (row, user)

def AuthWorld.walletOf (world : AuthWorld) (address : String) : Option Wallet :=
  world.wallets.rows.find? fun wallet => decide (wallet.address = address)

/-- Every query that may find several wallets orders them by creation. -/
def AuthWorld.findWallets (world : AuthWorld) (query : WalletQuery) : List Wallet :=
  (world.wallets.rows.filter query.selects).insertionSort fun a b => a.createdAt ≤ b.createdAt

def RefreshToken.revoke (revokedAt : Nat) (replacedByToken : String) (row : RefreshToken) :
    RefreshToken :=
  { row with
    revoked := true, revokedAt := some revokedAt, replacedByToken := some replacedByToken }

def TwoFactorAuth.enable (verifiedAt : Nat) (row : TwoFactorAuth) : TwoFactorAuth :=
  { row with
    status := .verified, isEnabled := true, verifiedAt := some verifiedAt, failedAttempts := 0
    lockedUntil := none }

def TwoFactorAuth.disable (row : TwoFactorAuth) : TwoFactorAuth :=
  { row with isEnabled := false, status := .disabled, failedAttempts := 0, lockedUntil := none }

/-- The records that a new setup deletes. -/
def TwoFactorAuth.stale (userId : String) (row : TwoFactorAuth) : Bool :=
  decide (row.userId = userId) && ! row.isEnabled

def AuthWorld.respond (libraries : AuthLibraries) (world : AuthWorld) (op : AuthOp)
    (outcome : AuthOutcome) : Option (AuthWorld × Except Exception op.Reply) :=
  match op, outcome with
  | .findUser query, .done => some (world, .ok (world.users.rows.find? query.selects))
  | .insertUser user, .made id =>
    if (world.users.findOne id).isSome then none else some (world.insertUser { user with id := id })
  | .updateUser id change, .done => some (world.updateUser id change)
  | .saveUser user, .done => some (world.saveUser user)
  | .findRefreshToken token, .done => some (world, .ok (world.findRefreshToken token))
  | .insertRefreshToken entity, .made id =>
    if (world.refreshTokens.findOne id).isSome then none
    else some (world.insertRefreshToken { entity with id := id })
  | .revokeRefreshToken id revokedAt replacedByToken, .done =>
    some ({ world with
      refreshTokens := world.refreshTokens.modify (fun row => decide (row.id = id))
        (·.revoke revokedAt replacedByToken) fun _ => rfl }, .ok ())
  | .findTwoFactor query, .done => some (world, .ok (world.twoFactors.rows.find? query.selects))
  | .insertTwoFactor row, .made id =>
    if (world.twoFactors.findOne id).isSome || decide (id ∈ world.retired) then none
    else some ({ world with twoFactors := world.twoFactors.save { row with id := id } }, .ok id)
  | .saveTwoFactor row, .done =>
    some ({ world with twoFactors := world.twoFactors.save row }, .ok ())
  | .enableTwoFactor id verifiedAt, .done =>
    some ({ world with
      twoFactors := world.twoFactors.modify (fun row => decide (row.id = id))
        (·.enable verifiedAt) fun _ => rfl }, .ok (world.twoFactors.findOne id).isSome)
  | .disableTwoFactor userId, .done =>
    some ({ world with
      twoFactors := world.twoFactors.modify (fun row => decide (row.userId = userId))
        (·.disable) fun _ => rfl }, .ok ())
  | .deleteTwoFactor userId, .done =>
    some ({ world with
      twoFactors := world.twoFactors.delete (TwoFactorAuth.stale userId)
      retired := world.retired ++
        (world.twoFactors.rows.filter (TwoFactorAuth.stale userId)).map (·.id) }, .ok ())
  | .findWallet query, .done => some (world, .ok (world.findWallets query).head?)
  | .findWalletWithUser address, .done =>
    some (world, .ok ((world.walletOf address).map fun wallet =>
      (wallet, world.users.findOne wallet.userId)))
  | .findWallets query, .done => some (world, .ok (world.findWallets query))
  | .insertWallet wallet, .made id =>
    if (world.wallets.findOne id).isSome then none
    else some (world.insertWallet { wallet with id := id, createdAt := world.now })
  | .saveWallet wallet, .done => some ({ world with wallets := world.wallets.save wallet }, .ok ())
  | .unsetPrimary userId, .done =>
    some ({ world with
      wallets := world.wallets.modify
        (fun wallet => decide (wallet.userId = userId) && wallet.isPrimary)
        (fun wallet => { wallet with isPrimary := false }) fun _ => rfl }, .ok ())
  | .findEmailVerification token, .done =>
    some (world, .ok (world.emailVerifications.rows.find? (EmailVerificationQuery.token token).selects))
  | .insertEmailVerification row, .made id =>
    if (world.emailVerifications.findOne id).isSome then none
    else some (world.insertEmailVerification { row with id := id })
  | .deleteEmailVerifications query, .done =>
    some ({ world with
      emailVerifications := world.emailVerifications.delete query.selects }, .ok ())
  | .hashPassword _, .made hash => some (world, .ok hash)
  | .comparePassword password hash, .done =>
    some (world, .ok (libraries.bcryptCompare password hash))
  | .toDataUrl _, .made url => some (world, .ok url)
  | .sendMail _, .done => some (world, .ok ())
  | .sendVerificationEmail _ _, .done => some (world, .ok none)
  | .sendVerificationEmail _ _, .made previewUrl => some (world, .ok (some previewUrl))
  | .createProvenanceRecord, .done => some (world, .ok ())
  | _, .fails failure => some (world, .error failure)
  | _, _ => none

/-- Time passes. -/
def authEnvironment (state : AuthWorld × AuthMemory) (ms : Nat) : AuthWorld × AuthMemory :=
  ({ state.1 with now := state.1.now + ms }, { state.2 with now := state.2.now + ms })

end AlianStructure.Source.Auth
