import AlianStructure.Source.Auth.EnhancedAuthService

/-!
# Wallet login and linked wallets

Source: src/core/auth/wallet-auth.service.ts:62-522 and challenge.service.ts.
-/
namespace AlianStructure.Source.Auth
open Library.AsyncMethod

namespace ChallengeService

def challengeExpiration : Nat := 5 * 60 * 1000

def challengePrefix : List Char := "Sign this message to authenticate: ".toList

def issueChallengeForAddress (address : String) : AuthM String := do
  let challengeId ← draw
  let now ← clock
  let message := String.ofList challengePrefix ++ challengeId
  Async.update (R := auth) fun memory =>
    { memory with
      challenges := memory.challenges.save
        ⟨challengeId, message, now, now + challengeExpiration, toLowerCase address⟩ }
  pure message

/-- An expired challenge is deleted when it is looked up, a valid one when it is consumed:
either way it is gone. -/
def consumeChallenge (challengeId : String) : AuthM (Option Challenge) := do
  let memory ← Async.memory
  Async.update (R := auth) fun memory =>
    { memory with challenges := memory.challenges.delete fun c => decide (c.id = challengeId) }
  pure ((memory.challenges.findOne challengeId).filter fun challenge =>
    decide (memory.now ≤ challenge.expiresAt))

/-- What a dot of a regular expression does not match. -/
def isLineTerminator (c : Char) : Bool :=
  c == '\n' || c == '\r' || c == '\u2028' || c == '\u2029'

/-- The first occurrence of the prefix with a non-empty single line behind it, up to the
end of the message. -/
def extractFrom : List Char → Option String
  | [] => none
  | c :: rest =>
    match challengePrefix.isPrefixOf? (c :: rest) with
    | some (d :: line) =>
      if (d :: line).any isLineTerminator then extractFrom rest else some (String.ofList (d :: line))
    | _ => extractFrom rest

def extractChallengeId (message : String) : Option String := extractFrom message.toList

end ChallengeService

namespace WalletAuthService

/-- The address that signed a message whose challenge is pending; the challenge is
consumed. -/
def recoverSigner (libraries : AuthLibraries) (message signature : String) :
    AuthM (Challenge × String) := do
  match ChallengeService.extractChallengeId message with
  | none => throw (.unauthorized "Invalid challenge message format")
  | some challengeId =>
    let consumed ← ChallengeService.consumeChallenge challengeId
    match consumed with
    | none => throw (.unauthorized
        "Challenge not found or expired. Please request a new challenge.")
    | some challenge =>
      match libraries.verifyMessage message signature with
      | .error _ => throw (.unauthorized "Invalid signature")
      | .ok recoveredAddress => pure (challenge, recoveredAddress)

/-- A delegated wallet needs the permission in one of two spellings. -/
def mayAuthenticate (wallet : Wallet) : Bool :=
  let permissions := wallet.delegationPermissions.getD []
  decide (wallet.type ≠ .delegated) || permissions.contains "authenticate" ||
    permissions.contains "AUTHENTICATE"

/-- The token of a wallet login; it makes no statement about a second factor. -/
def loginToken (address : String) (user : Option User) (now : Nat) : AccessToken where
  sub := user.map (·.id)
  address := some address
  email := user.bind fun u => if u.emailVerified then u.email else none
  username := none
  role := normalizeRole (user.map (·.role))
  tier := resolveRateLimitTierFromRole (user.map (·.role))
  twoFactorVerified := none
  iat := now / 1000
  exp := now / 1000 + accessTokenTtlSeconds

/-- The part of verifySignatureAndIssueToken after the signature check. -/
def issueForWallet (normalized : String) : AuthM WalletToken := do
  let found ← ask (.findWalletWithUser normalized)
  match found with
  | none => throw (.unauthorized "Wallet not linked to any account")
  | some (wallet, user) =>
    if ¬ mayAuthenticate wallet then
      throw (.unauthorized "Delegated wallet does not have authenticate permission")
    else
      let now ← clock
      ask .createProvenanceRecord
      pure ⟨loginToken normalized user now, normalized⟩

/-- A failed attempt is audited; a failure of the audit is swallowed. -/
def verifySignatureAndIssueToken (libraries : AuthLibraries) (message signature : String) :
    AuthM WalletToken :=
  tryCatch
    (do
      let (challenge, recoveredAddress) ← recoverSigner libraries message signature
      if toLowerCase recoveredAddress ≠ challenge.address then
        throw (.unauthorized "Signature does not match challenge address")
      else issueForWallet (toLowerCase recoveredAddress))
    fun failure => do
      let _ ← (ask .createProvenanceRecord).outcome
      throw failure

def issueWalletToken (address : String) (user : User) (twoFactorVerified : Bool) (now : Nat) :
    AccessToken where
  sub := none
  address := some (toLowerCase address)
  email := if user.emailVerified then user.email else none
  username := none
  role := normalizeRole (some user.role)
  tier := resolveRateLimitTierFromRole (some user.role)
  twoFactorVerified := some twoFactorVerified
  iat := now / 1000
  exp := now / 1000 + accessTokenTtlSeconds

def verifyWalletTwoFactorAndIssueToken (libraries : AuthLibraries) (userId : String)
    (dto : TwoFactorVerifyDto) : AuthM WalletToken := do
  EnhancedAuthService.verifyTwoFactorCode libraries userId dto
  let found ← ask (.findUser (.id userId))
  match found with
  | none => throw (.notFound "User not found")
  | some user =>
    let now ← clock
    pure ⟨issueWalletToken user.walletAddress user true now, user.walletAddress⟩

/-- The mail and the audit record at the end of linkWallet; failures are swallowed. -/
def announceWallet (currentUserId : String) : AuthM Unit := do
  let user ← ask (.findUser (.id currentUserId))
  match user.bind fun u => given u.email with
  | some email =>
    let _ ← (ask (.sendMail email)).outcome
    let _ ← (ask .createProvenanceRecord).outcome
    pure ()
  | none =>
    let _ ← (ask .createProvenanceRecord).outcome
    pure ()

/-- The part of linkWallet after the checks. -/
def addWallet (currentUserId normalizedNew message signature : String)
    (walletName : Option String) (permissions : Option (List String)) (clientInfo : ClientInfo)
    (existing : Nat) : AuthM LinkedWallet := do
  let isFirstWallet := decide (existing = 0)
  let walletType := if isFirstWallet then WalletType.primary else WalletType.secondary
  let now ← clock
  let walletId ← ask (.insertWallet {
    id := ""
    address := normalizedNew
    userId := currentUserId
    type := walletType
    status := .active
    isPrimary := isFirstWallet
    name := some ((given walletName).getD ("Wallet " ++ toString (existing + 1)))
    verificationSignature := some signature
    verificationChallenge := some message
    verifiedAt := some now
    linkedIp := clientInfo.ip
    linkedUserAgent := clientInfo.userAgent
    delegatedById := none
    delegationExpiresAt := none
    delegationPermissions := permissions.filter fun list => ! list.isEmpty
    createdAt := 0 })
  let finish : AuthM LinkedWallet := do
    announceWallet currentUserId
    pure ⟨"Wallet successfully linked", walletId, normalizedNew, walletType⟩
  if isFirstWallet then do
    ask (.updateUser currentUserId (.walletAddress normalizedNew))
    finish
  else finish

def linkWallet (libraries : AuthLibraries) (maxWallets : Nat)
    (currentUserId newWalletAddress message signature : String) (walletName : Option String)
    (permissions : Option (List String)) (clientInfo : ClientInfo) : AuthM LinkedWallet := do
  let normalizedNew := toLowerCase newWalletAddress
  let (_, recoveredAddress) ← recoverSigner libraries message signature
  if toLowerCase recoveredAddress ≠ normalizedNew then
    throw (.unauthorized "Signature does not match the new wallet address")
  else
    let existingWallet ← ask (.findWallet { WalletQuery.all with address := some normalizedNew })
    match existingWallet with
    | some wallet =>
      if wallet.userId = currentUserId then
        throw (.conflict "This wallet is already linked to your account")
      else throw (.conflict "This wallet address is already linked to another account")
    | none =>
      let existingWallets ← ask (.findWallets { WalletQuery.all with userId := some currentUserId })
      if maxWallets ≤ existingWallets.length then
        throw (.badRequest ("Wallet limit reached. Maximum allowed: " ++ toString maxWallets))
      else
        addWallet currentUserId normalizedNew message signature walletName permissions clientInfo
          existingWallets.length

def setPrimaryWallet (walletId userId : String) : AuthM String := do
  let found ← ask (.findWallet { WalletQuery.all with id := some walletId, userId := some userId })
  match found with
  | none => throw (.notFound "Wallet not found")
  | some wallet =>
    if wallet.status ≠ .active then
      throw (.badRequest "Wallet must be active to set as primary")
    else do
      ask (.unsetPrimary userId)
      ask (.saveWallet { wallet with isPrimary := true, type := .primary })
      ask (.updateUser userId (.walletAddress wallet.address))
      pure wallet.id

/-- The only active wallet goes only when there is a verified email. -/
def checkRecovery (userId : String) : AuthM Unit := do
  let activeWallets ← ask
    (.findWallets { WalletQuery.all with userId := some userId, status := some .active })
  if activeWallets.length = 1 then
    let user ← ask (.findUser (.id userId))
    if (user.bind fun u => given u.email).isSome ∧ user.any (·.emailVerified) then pure ()
    else throw (.badRequest "Cannot unlink your only wallet without verified email for recovery")
  else pure ()

/-- The oldest remaining active wallet takes over as primary. -/
def promoteRemaining (userId walletId : String) : AuthM Unit := do
  let remaining ← ask (.findWallet
    { WalletQuery.all with userId := some userId, status := some .active, notId := some walletId })
  match remaining with
  | none => pure ()
  | some wallet => do
    ask (.saveWallet { wallet with isPrimary := true, type := .primary })
    ask (.updateUser userId (.walletAddress wallet.address))

def unlinkWallet (userId walletId : String) : AuthM String := do
  let found ← ask (.findWallet { WalletQuery.all with id := some walletId, userId := some userId })
  match found with
  | none => throw (.notFound "Wallet not found")
  | some wallet =>
    checkRecovery userId
    ask (.saveWallet { wallet with status := .unlinked })
    if wallet.isPrimary then do
      promoteRemaining userId walletId
      pure wallet.id
    else pure wallet.id

end WalletAuthService

/-!
## Wallet login by strategy

Source: src/core/auth/strategies/wallet/wallet.strategy.ts:51-136. A wallet that is linked to no account
gets a token as well.
-/

structure StrategyUser where
  address : String
  email : Option String
  role : Role
  tier : RateLimitTier
  deriving DecidableEq

structure StrategyResult where
  token : AccessToken
  user : StrategyUser
  deriving DecidableEq

namespace WalletStrategy

/-- The result for the wallet that has signed, with the account that it is linked to. -/
def resultFor (address : String) (user : Option User) (now : Nat) : StrategyResult :=
  let email := user.bind fun u => if u.emailVerified then u.email else none
  let role := (user.map (·.role)).getD .user
  let tier := resolveRateLimitTierFromRole (user.map (·.role))
  { token :=
      { sub := user.map (·.id)
        address := some address
        email := email
        username := none
        role := role
        tier := tier
        twoFactorVerified := none
        iat := now / 1000
        exp := now / 1000 + accessTokenTtlSeconds }
    user := ⟨address, email, role, tier⟩ }

def authenticate (libraries : AuthLibraries) (message signature : String) : AuthM StrategyResult := do
  if message = "" ∨ signature = "" then throw (.badRequest "Message and signature are required")
  else
    let (challenge, recoveredAddress) ← WalletAuthService.recoverSigner libraries message signature
    if toLowerCase recoveredAddress ≠ challenge.address then
      throw (.unauthorized "Signature does not match challenge address")
    else
      let found ← ask (.findWalletWithUser (toLowerCase recoveredAddress))
      let now ← clock
      pure (resultFor (toLowerCase recoveredAddress) (found.bind (·.2)) now)

end WalletStrategy

end AlianStructure.Source.Auth
