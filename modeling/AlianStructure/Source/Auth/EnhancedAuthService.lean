import AlianStructure.Source.Auth.AuthRuntime
import AlianStructure.Source.Common.BigIntText

/-!
# Passwords, refresh tokens and two-factor authentication

Source: src/core/auth/enhanced-auth.service.ts:64-653. A random value stands for the hex
text of the bytes drawn; how many bytes it has is not modelled.
-/
namespace AlianStructure.Source.Auth.EnhancedAuthService

def maxTwoFactorAttempts : Nat := 5

def lockoutDurationMs : Nat := 15 * 60 * 1000

def backupCodeCount : Nat := 10

def hashBackupCode (libraries : AuthLibraries) (code : String) : String :=
  libraries.sha256 (String.ofList ((toUpperCase code).toList.filter fun c =>
    ! (Common.isBlank c || c == '-')))

/-- The plaintext codes with their hashes. -/
def generateBackupCodes (libraries : AuthLibraries) : Nat → AuthM (List String × List String)
  | 0 => pure ([], [])
  | count + 1 => do
    let bytes ← draw
    let raw := toUpperCase bytes
    let code := String.ofList (raw.toList.take 4) ++ "-" ++ String.ofList (raw.toList.drop 4)
    let (plaintext, hashed) ← generateBackupCodes libraries count
    pure (code :: plaintext, hashBackupCode libraries code :: hashed)

/-- A mail failure is swallowed. -/
def notify2faChange (email : String) : AuthM Unit :=
  tryCatch (ask (.sendMail email)) fun _ => pure ()

def isTwoFactorEnabled (userId : String) : AuthM Bool := do
  let twoFactor ← ask (.findTwoFactor (.enabled userId))
  pure twoFactor.isSome

/-- The access token of a user, as of a time. -/
def accessToken (user : User) (twoFactorVerified : Bool) (now : Nat) : AccessToken where
  sub := some user.id
  address := none
  email := user.email
  username := user.username
  role := normalizeRole (some user.role)
  tier := resolveRateLimitTierFromRole (some user.role)
  twoFactorVerified := some twoFactorVerified
  iat := now / 1000
  exp := now / 1000 + accessTokenTtlSeconds

def generateTokens (user : User) (ipAddress : String) (userAgent : Option String)
    (twoFactorVerified : Bool) : AuthM TokenPair := do
  let now ← clock
  let refreshTokenValue ← draw
  let _ ← ask (.insertRefreshToken {
    id := ""
    userId := user.id
    token := refreshTokenValue
    expiresAt := now + refreshTokenTtlMs
    revoked := false
    revokedAt := none
    replacedByToken := none
    ipAddress := ipAddress
    userAgent := userAgent })
  pure ⟨accessToken user twoFactorVerified now, refreshTokenValue⟩

def summary (user : User) : UserSummary where
  id := user.id
  email := user.email
  username := user.username
  role := normalizeRole (some user.role)
  tier := resolveRateLimitTierFromRole (some user.role)
  kycStatus := user.kycStatus

/-- The user who referred a new one, when a referral code was given. -/
def findReferrer (referralCode : Option String) : AuthM (Option User) :=
  match given referralCode with
  | none => pure none
  | some code => do
    let referredBy ← ask (.findUser (.referralCode (toUpperCase code)))
    match referredBy with
    | none => throw (.badRequest "Invalid referral code")
    | some user => pure (some user)

/-- The part of register after the checks for an existing user. -/
def createUser (dto : RegisterDto) (ipAddress : String) (userAgent : Option String) :
    AuthM AuthSession := do
  let hashedPassword ← ask (.hashPassword dto.password)
  let uuid ← draw
  let referredBy ← findReferrer dto.referralCode
  let user : User := {
    id := ""
    username := dto.username
    walletAddress := "email_" ++ dto.email
    email := some dto.email
    password := some hashedPassword
    emailVerified := false
    role := .user
    kycStatus := .unverified
    isActive := true
    lastLoginAt := none
    referralCode := some (toUpperCase (String.ofList (uuid.toList.take 8)))
    referredById := referredBy.map (·.id) }
  let id ← ask (.insertUser user)
  let user := { user with id := id }
  let tokens ← generateTokens user ipAddress userAgent true
  pure ⟨tokens, summary user, false⟩

def register (dto : RegisterDto) (ipAddress : String) (userAgent : Option String) :
    AuthM AuthSession := do
  let existingUser ← ask (.findUser (.emailOrUsername dto.email dto.username))
  match existingUser with
  | none => createUser dto ipAddress userAgent
  | some existing =>
    if existing.email = some dto.email then throw (.conflict "Email already registered")
    else if dto.username.isSome ∧ existing.username = dto.username then
      throw (.conflict "Username already taken")
    else createUser dto ipAddress userAgent

/-- The part of login after the password check. -/
def openSession (user : User) (ipAddress : String) (userAgent : Option String) :
    AuthM AuthSession := do
  let now ← clock
  ask (.updateUser user.id (.lastLoginAt now))
  let twoFactorEnabled ← isTwoFactorEnabled user.id
  let tokens ← generateTokens user ipAddress userAgent (! twoFactorEnabled)
  pure ⟨tokens, summary user, twoFactorEnabled⟩

def login (email password ipAddress : String) (userAgent : Option String) : AuthM AuthSession := do
  let found ← ask (.findUser (.email email))
  match found with
  | none => throw (.unauthorized "Invalid credentials")
  | some user =>
    if ¬ user.isActive then throw (.unauthorized "Account is deactivated")
    else
      match given user.password with
      | none => throw (.badRequest
          "This account uses wallet authentication. Please use wallet login.")
      | some hash =>
        let isPasswordValid ← ask (.comparePassword password hash)
        if ¬ isPasswordValid then throw (.unauthorized "Invalid credentials")
        else openSession user ipAddress userAgent

/-- The part of refreshToken for a token found valid: the new pair is issued before the
old token is revoked. -/
def rotate (entity : RefreshToken) (user : User) (ipAddress : String)
    (userAgent : Option String) : AuthM TokenPair := do
  let twoFactorEnabled ← isTwoFactorEnabled user.id
  let newTokens ← generateTokens user ipAddress userAgent (! twoFactorEnabled)
  let now ← clock
  ask (.revokeRefreshToken entity.id now newTokens.refreshToken)
  pure newTokens

def refreshToken (token ipAddress : String) (userAgent : Option String) : AuthM TokenPair := do
  let found ← ask (.findRefreshToken token)
  match found with
  | none => throw (.unauthorized "Invalid or expired refresh token")
  | some (entity, user) =>
    let now ← clock
    if entity.expiresAt < now then throw (.unauthorized "Invalid or expired refresh token")
    else rotate entity user ipAddress userAgent

def setupTwoFactor (libraries : AuthLibraries) (userId : String) : AuthM TwoFactorSetup := do
  let found ← ask (.findUser (.id userId))
  match found with
  | none => throw (.notFound "User not found")
  | some user =>
    let existing ← ask (.findTwoFactor (.enabled userId))
    match existing with
    | some _ => throw (.badRequest "Two-factor authentication is already enabled")
    | none =>
      let secret ← draw
      let url := libraries.otpauthUrl secret
        ("alian-structure (" ++ user.email.getD "null" ++ ")") "alian-structure"
      let qrCodeUrl ← ask (.toDataUrl url)
      let (plaintext, hashed) ← generateBackupCodes libraries backupCodeCount
      ask (.deleteTwoFactor userId)
      let _ ← ask (.insertTwoFactor {
        id := ""
        userId := userId
        status := .pending
        secret := secret
        backupCodes := hashed
        isEnabled := false
        failedAttempts := 0
        lockedUntil := none
        verifiedAt := none
        lastUsedAt := none })
      pure ⟨secret, qrCodeUrl, plaintext⟩

/-- Tell a user who has an address of a change. -/
def notifyUser (email : Option String) : AuthM Unit :=
  match given email with
  | none => pure ()
  | some address => notify2faChange address

def verifyTwoFactorSetup (libraries : AuthLibraries) (userId code : String) : AuthM Bool := do
  let found ← ask (.findTwoFactor (.pending userId))
  match found with
  | none => throw (.notFound "Two-factor authentication setup not found")
  | some twoFactor =>
    let now ← clock
    if libraries.totpVerify twoFactor.secret code now then do
      let _ ← ask (.enableTwoFactor twoFactor.id now)
      let user ← ask (.findUser (.id userId))
      notifyUser (user.bind (·.email))
      pure true
    else pure false

/-- The failed branch of verifyTwoFactorCode. -/
def rejectCode (twoFactor : TwoFactorAuth) (now : Nat) : AuthM Unit :=
  let failedAttempts := twoFactor.failedAttempts + 1
  if maxTwoFactorAttempts ≤ failedAttempts then do
    ask (.saveTwoFactor { twoFactor with
      lockedUntil := some (now + lockoutDurationMs), failedAttempts := 0 })
    throw (.unauthorized ("Account locked due to too many failed 2FA attempts. Try again in " ++
      toString (lockoutDurationMs / 60000) ++ " minutes."))
  else do
    ask (.saveTwoFactor { twoFactor with failedAttempts := failedAttempts })
    throw (.unauthorized "Invalid two-factor authentication code")

/-- The successful branch. -/
def acceptCode (twoFactor : TwoFactorAuth) (now : Nat) : AuthM Unit :=
  ask (.saveTwoFactor { twoFactor with
    failedAttempts := 0, lockedUntil := none, lastUsedAt := some now })

/-- A backup code is looked at only when no code was given. -/
def checkCode (libraries : AuthLibraries) (twoFactor : TwoFactorAuth) (dto : TwoFactorVerifyDto)
    (now : Nat) : AuthM Unit :=
  match given dto.code, given dto.backupCode with
  | some code, _ =>
    if libraries.totpVerify twoFactor.secret code now then acceptCode twoFactor now
    else rejectCode twoFactor now
  | none, some backupCode =>
    let candidate := hashBackupCode libraries backupCode
    if candidate ∈ twoFactor.backupCodes then
      acceptCode { twoFactor with backupCodes := twoFactor.backupCodes.erase candidate } now
    else rejectCode twoFactor now
  | none, none => throw (.badRequest "A TOTP code or backup code is required")

def verifyTwoFactorCode (libraries : AuthLibraries) (userId : String) (dto : TwoFactorVerifyDto) :
    AuthM Unit := do
  let found ← ask (.findTwoFactor (.enabled userId))
  match found with
  | none => throw (.badRequest "Two-factor authentication not enabled")
  | some twoFactor =>
    let now ← clock
    let left := twoFactor.lockedUntil.getD 0 - now
    if 0 < left then
      throw (.unauthorized ("Account locked due to too many failed 2FA attempts. Try again in " ++
        toString ((left + 59999) / 60000) ++ " minute(s)."))
    else checkCode libraries twoFactor dto now

def verifyTwoFactorLogin (libraries : AuthLibraries) (userId : String) (dto : TwoFactorVerifyDto)
    (clientInfo : ClientInfo) : AuthM TokenPair := do
  verifyTwoFactorCode libraries userId dto
  let found ← ask (.findUser (.id userId))
  match found with
  | none => throw (.notFound "User not found")
  | some user =>
    generateTokens user (clientInfo.ip.getD "0.0.0.0")
      (some (clientInfo.userAgent.getD "2FA Verification")) true

/-- The user whose password this is. -/
def reauthenticate (userId password : String) : AuthM User := do
  let found ← ask (.findUser (.id userId))
  match found with
  | none => throw (.notFound "User not found")
  | some user =>
    match given user.password with
    | none => throw (.notFound "User not found")
    | some hash =>
      let isPasswordValid ← ask (.comparePassword password hash)
      if ¬ isPasswordValid then throw (.unauthorized "Invalid password")
      else pure user

def regenerateBackupCodes (libraries : AuthLibraries) (userId password : String) :
    AuthM (List String) := do
  let user ← reauthenticate userId password
  let found ← ask (.findTwoFactor (.enabled userId))
  match found with
  | none => throw (.badRequest "Two-factor authentication not enabled")
  | some twoFactor =>
    let (plaintext, hashed) ← generateBackupCodes libraries backupCodeCount
    ask (.saveTwoFactor { twoFactor with backupCodes := hashed })
    notifyUser user.email
    pure plaintext

def disableTwoFactor (userId password : String) : AuthM Bool := do
  let user ← reauthenticate userId password
  ask (.disableTwoFactor userId)
  notifyUser user.email
  pure true

end AlianStructure.Source.Auth.EnhancedAuthService
