import AlianStructure.Source.Grantfox.GrantfoxRuntime

/-!
# GrantFox sign-on

Source: src/core/auth/services/grantfox-oauth.service.ts. A random text stands for a UUID, a
code verifier or a user name suffix as it is drawn; the log, the ip address and the user agent
are not used by the methods.
-/
namespace AlianStructure.Source.Grantfox
open Library.Interleaving
open Auth (User Role given normalizeRole resolveRateLimitTierFromRole)

/-- The settings the methods read; `codeChallenge` is the base64url SHA-256 digest. -/
structure GrantfoxConfig where
  authorizationUrl : String
  clientId : String
  clientSecret : String
  redirectUri : String
  codeChallenge : String → String
  transformer : EncryptedTokenTransformer

namespace GrantfoxOAuthService

def DEFAULT_ACCESS_TOKEN_TTL : Nat := 3600

def DEFAULT_REFRESH_TOKEN_TTL : Nat := 30 * 24 * 60 * 60

def pendingUserId : String := "00000000-0000-0000-0000-000000000000"

/-! ## URLs -/

def hexByte (byte : UInt8) : List Char :=
  ['%', Char.ofNat (hexDigit (byte.toNat / 16)), Char.ofNat (hexDigit (byte.toNat % 16))]
where
  hexDigit (n : Nat) : Nat := if n < 10 then 48 + n else 55 + n

/-- One character of a form, as URLSearchParams writes it. -/
def encodeChar (c : Char) : List Char :=
  if c.isAlphanum || "*-._".toList.contains c then [c]
  else if c = ' ' then ['+']
  else (String.utf8EncodeChar c).flatMap hexByte

def encodeText (text : String) : String := String.ofList (text.toList.flatMap encodeChar)

def formText (form : Form) : String :=
  String.intercalate "&" (form.map fun (name, value) => encodeText name ++ "=" ++ encodeText value)

example : formText [("scope", "openid profile"), ("redirect_uri", "http://a/b")] =
    "scope=openid+profile&redirect_uri=http%3A%2F%2Fa%2Fb" := by decide +kernel

/-! ## Authorization -/

def startAuthorization (config : GrantfoxConfig) (scopes : Option (List String)) :
    GrantfoxM GrantfoxAuthStartResult := do
  let state ← draw
  let codeVerifier ← draw
  let now ← clock
  let _ ← ask (.insertToken {
    id := ""
    userId := pendingUserId
    grantfoxUserId := state
    grantfoxOrgName := none
    entitlements := none
    billingPermissions := none
    accessToken := ""
    refreshToken := ""
    accessTokenExpiresAt := now
    refreshTokenExpiresAt := now
    revoked := false
    revokedAt := none
    replacedByToken := none
    codeVerifier := some codeVerifier
    oauthState := some state })
  let params := formText [
    ("response_type", "code"),
    ("client_id", config.clientId),
    ("redirect_uri", config.redirectUri),
    ("state", state),
    ("code_challenge", config.codeChallenge codeVerifier),
    ("code_challenge_method", "S256"),
    ("scope", String.intercalate " " (scopes.getD ["openid", "profile", "entitlements"]))]
  pure ⟨config.authorizationUrl ++ "?" ++ params, state⟩

def exchangeCodeForToken (config : GrantfoxConfig) (code : String) (codeVerifier : Option String) :
    GrantfoxM GrantfoxTokenResponse := do
  let response ← ask (.postToken ([
    ("grant_type", "authorization_code"),
    ("client_id", config.clientId),
    ("client_secret", config.clientSecret),
    ("code", code),
    ("redirect_uri", config.redirectUri)] ++
    ((given codeVerifier).map fun verifier => ("code_verifier", verifier)).toList))
  match response with
  | none => throw (.unauthorized "Failed to exchange authorization code for token")
  | some tokens => pure tokens

/-- The identity of a GrantFox user. -/
structure GrantfoxUserInfo where
  sub : String
  email : Option String
  name : Option String
  org_name : Option String
  entitlements : Option (List String)
  billing_permissions : Option (List String)

def fetchUserInfo (accessToken : String) : GrantfoxM GrantfoxUserInfo := do
  let response ← ask (.getUserInfo accessToken)
  match response with
  | none => throw (.unauthorized "Failed to fetch user info from Grantfox")
  | some data => pure {
      sub := (given data.sub).getD data.id
      email := data.email
      name := data.name
      org_name := (given data.org_name).orElse fun _ => data.organization
      entitlements := data.entitlements
      billing_permissions := data.billing_permissions }

/-- Every run of blanks becomes one underscore. -/
def underscored : List Char → List Char
  | [] => []
  | c :: rest =>
    if c.isWhitespace then
      if rest.head?.any Char.isWhitespace then underscored rest else '_' :: underscored rest
    else c :: underscored rest

def userName (grantfoxUser : GrantfoxUserInfo) : GrantfoxM String :=
  match given grantfoxUser.name with
  | none => pure ("grantfox_" ++ grantfoxUser.sub)
  | some name => do
    let suffix ← draw
    pure (toLowerCase (String.ofList (underscored name.toList)) ++ "_" ++ suffix)

def createUser (grantfoxUser : GrantfoxUserInfo) : GrantfoxM User := do
  let username ← userName grantfoxUser
  let user : User := {
    id := ""
    username := some username
    walletAddress := "grantfox_" ++ grantfoxUser.sub
    email := grantfoxUser.email
    password := none
    emailVerified := (given grantfoxUser.email).isSome
    role := .user
    kycStatus := .unverified
    isActive := false
    lastLoginAt := none
    referralCode := none
    referredById := none }
  let id ← ask (.insertUser user)
  pure { user with id := id }

def findOrCreateUser (grantfoxUser : GrantfoxUserInfo) : GrantfoxM User := do
  let existingSocial ← ask (.findSocialAccount none .grantfox grantfoxUser.sub)
  match existingSocial with
  | some (_, some user) => pure user
  | some (_, none) => throw (.error "Cannot read properties of null (reading 'id')")
  | none =>
    match given grantfoxUser.email with
    | none => createUser grantfoxUser
    | some email => do
      let user ← ask (.findUserByEmail email)
      match user with
      | some user => pure user
      | none => createUser grantfoxUser

def linkSocialAccount (userId : String) (grantfoxUser : GrantfoxUserInfo) : GrantfoxM Unit := do
  let existing ← ask (.findSocialAccount (some userId) .grantfox grantfoxUser.sub)
  match existing with
  | some _ => pure ()
  | none => do
    let _ ← ask (.insertSocialAccount {
      id := ""
      userId := userId
      provider := .grantfox
      providerUserId := grantfoxUser.sub
      email := grantfoxUser.email
      displayName := grantfoxUser.name
      emailVerified := (given grantfoxUser.email).isSome })
    pure ()

/-- The seconds an access token lives; zero counts as not given. -/
def accessTokenTtl (tokens : GrantfoxTokenResponse) : Nat :=
  (tokens.expires_in.filter fun seconds => decide (seconds ≠ 0)).getD DEFAULT_ACCESS_TOKEN_TTL

/-- The entity of new tokens, as of a time. -/
def newToken (userId grantfoxUserId : String) (grantfoxOrgName : Option String)
    (entitlements billingPermissions : Option (List String)) (tokens : GrantfoxTokenResponse)
    (now : Nat) : TokenEntity where
  id := ""
  userId := userId
  grantfoxUserId := grantfoxUserId
  grantfoxOrgName := grantfoxOrgName
  entitlements := entitlements
  billingPermissions := billingPermissions
  accessToken := tokens.access_token
  refreshToken := tokens.refresh_token
  accessTokenExpiresAt := now + accessTokenTtl tokens * 1000
  refreshTokenExpiresAt := now + DEFAULT_REFRESH_TOKEN_TTL * 1000
  revoked := false
  revokedAt := none
  replacedByToken := none
  codeVerifier := none
  oauthState := none

def handleCallback (config : GrantfoxConfig) (code state : String) :
    GrantfoxM GrantfoxAuthCallbackResult := do
  let found ← ask (.findToken (.oauthState state))
  match found with
  | none => throw (.badRequest
      "Invalid or expired OAuth state. Please start the authorization flow again.")
  | some pendingToken =>
    let tokenResponse ← exchangeCodeForToken config code pendingToken.codeVerifier
    let grantfoxUser ← fetchUserInfo tokenResponse.access_token
    let user ← findOrCreateUser grantfoxUser
    let now ← clock
    ask (.removeToken pendingToken.id)
    let _ ← ask (.insertToken (newToken user.id grantfoxUser.sub (given grantfoxUser.org_name)
      grantfoxUser.entitlements grantfoxUser.billing_permissions tokenResponse now))
    linkSocialAccount user.id grantfoxUser
    ask (.recordVerification ⟨user.id, grantfoxUser.sub, grantfoxUser.email, now⟩)
    pure {
      accessToken := tokenResponse.access_token
      refreshToken := tokenResponse.refresh_token
      user := ⟨user.id, user.email, user.username, normalizeRole (some user.role),
        resolveRateLimitTierFromRole (some user.role)⟩
      entitlements := grantfoxUser.entitlements.getD []
      billingPermissions := grantfoxUser.billing_permissions.getD [] }

/-! ## Refresh and revocation -/

/-- The part of refreshToken inside the try block. -/
def rotate (config : GrantfoxConfig) (tokenEntity : TokenEntity) (refreshTokenValue : String) :
    GrantfoxM GrantfoxTokenPair := do
  let response ← ask (.postToken [
    ("grant_type", "refresh_token"),
    ("client_id", config.clientId),
    ("client_secret", config.clientSecret),
    ("refresh_token", refreshTokenValue)])
  match response with
  | none => do
    let now ← clock
    ask (.saveTokens [{ tokenEntity with revoked := true, revokedAt := some now }])
    throw (.unauthorized "Failed to refresh Grantfox token")
  | some newTokens => do
    let now ← clock
    ask (.saveTokens [{ tokenEntity with
      revoked := true, revokedAt := some now, replacedByToken := some "rotated" }])
    let _ ← ask (.insertToken (newToken tokenEntity.userId tokenEntity.grantfoxUserId
      tokenEntity.grantfoxOrgName tokenEntity.entitlements tokenEntity.billingPermissions newTokens
      now))
    pure ⟨newTokens.access_token, newTokens.refresh_token, accessTokenTtl newTokens⟩

def refreshToken (config : GrantfoxConfig) (refreshTokenValue : String) :
    GrantfoxM GrantfoxTokenPair := do
  let found ← ask (.findToken (.refreshToken none refreshTokenValue))
  match found with
  | none => throw (.unauthorized "Invalid or revoked refresh token")
  | some tokenEntity =>
    let now ← clock
    if tokenEntity.refreshTokenExpiresAt < now then
      throw (.unauthorized "Refresh token has expired")
    else
      tryCatch (rotate config tokenEntity refreshTokenValue) fun failure =>
        match failure with
        | .unauthorized message => throw (.unauthorized message)
        | _ => throw (.internalServerError "Failed to refresh Grantfox token")

/-- A failure is only logged. -/
def revokeOnGrantfox (config : GrantfoxConfig) (refreshToken : String) : GrantfoxM Unit :=
  tryCatch (ask (.postRevoke [
    ("client_id", config.clientId),
    ("client_secret", config.clientSecret),
    ("token", refreshToken),
    ("token_type_hint", "refresh_token")])) fun _ => pure ()

/-- The loop over the active tokens: the entities as they are saved after it. -/
def revokeEach (config : GrantfoxConfig) : List TokenEntity → GrantfoxM (List TokenEntity)
  | [] => pure []
  | token :: rest => do
    revokeOnGrantfox config token.refreshToken
    let now ← clock
    let revoked ← revokeEach config rest
    pure ({ token with revoked := true, revokedAt := some now } :: revoked)

def revokeToken (config : GrantfoxConfig) (userId : String) (refreshTokenValue : Option String) :
    GrantfoxM Nat :=
  match given refreshTokenValue with
  | some value => do
    let found ← ask (.findToken (.refreshToken (some userId) value))
    match found with
    | none => throw (.badRequest "Token not found or already revoked")
    | some tokenEntity => do
      revokeOnGrantfox config tokenEntity.refreshToken
      let now ← clock
      ask (.saveTokens [{ tokenEntity with revoked := true, revokedAt := some now }])
      pure 1
  | none => do
    let activeTokens ← ask (.findActiveTokens userId)
    let revoked ← revokeEach config activeTokens
    if revoked.isEmpty then pure 0
    else do
      ask (.saveTokens revoked)
      pure revoked.length

def resolveIdentity (accessToken : String) : GrantfoxM (Option GrantfoxIdentity) := do
  let found ← ask (.findToken (.accessToken accessToken))
  pure (found.map fun tokenEntity =>
    ⟨tokenEntity.userId, tokenEntity.grantfoxUserId, tokenEntity.entitlements.getD [],
      tokenEntity.billingPermissions.getD []⟩)

end GrantfoxOAuthService

/-! ## The process -/

/-- The result of a method as that of a call. -/
def returning {α : Type} (value : α → GrantfoxValue) (program : GrantfoxM α) :
    GrantfoxM GrantfoxValue := do
  let result ← program
  pure (value result)

def grantfoxBody (config : GrantfoxConfig) : GrantfoxCall → GrantfoxM GrantfoxValue
  | .startAuthorization scopes =>
    returning .started (GrantfoxOAuthService.startAuthorization config scopes)
  | .handleCallback code state _ _ =>
    returning .session (GrantfoxOAuthService.handleCallback config code state)
  | .refreshToken refreshTokenValue _ =>
    returning .tokens (GrantfoxOAuthService.refreshToken config refreshTokenValue)
  | .revokeToken userId refreshTokenValue =>
    returning .revoked (GrantfoxOAuthService.revokeToken config userId refreshTokenValue)
  | .resolveIdentity accessToken =>
    returning .identity (GrantfoxOAuthService.resolveIdentity accessToken)

abbrev grantfoxProcess (config : GrantfoxConfig) : Service grantfox where
  World := GrantfoxWorld
  Choice := GrantfoxOutcome
  Env := Nat
  respond := GrantfoxWorld.respond config.transformer
  environment := grantfoxEnvironment
  isPublic _ := true
  body := grantfoxBody config

end AlianStructure.Source.Grantfox
