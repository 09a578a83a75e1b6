import AlianStructure.Source.Auth.AuthRuntime

/-!
# GrantFox tokens and their encrypted column

Source: src/core/auth/entities/grantfox-token.entity.ts and social-account.entity.ts. A row of
the table differs from the entity in its refresh token only, which the column transformer
encrypts. The three base64 parts of a stored value are a structure instead of one text.
-/
namespace AlianStructure.Source.Grantfox

/-- The 12 random bytes of an encryption. -/
abbrev Iv := BitVec 96

/-- A stored value: base64(iv).base64(authTag).base64(ciphertext). -/
structure Sealed where
  iv : Iv
  authTag : String
  ciphertext : String
  deriving DecidableEq

/-- AES-256-GCM under the configured key; `hasKey` is false when no key is configured. -/
structure EncryptedTokenTransformer where
  hasKey : Bool
  encrypt : Iv → String → String × String
  decrypt : Iv → (authTag ciphertext : String) → Except Exception String
  decrypt_encrypt : ∀ iv text, decrypt iv (encrypt iv text).1 (encrypt iv text).2 = .ok text

/-- The value that goes to the database, with the IV drawn for it. -/
def EncryptedTokenTransformer.to (transformer : EncryptedTokenTransformer) (iv : Iv)
    (value : String) : Except Exception Sealed :=
  if ! transformer.hasKey then .error (.error "GRANTFOX_ENCRYPTION_KEY is not configured")
  else .ok ⟨iv, (transformer.encrypt iv value).1, (transformer.encrypt iv value).2⟩

def EncryptedTokenTransformer.from (transformer : EncryptedTokenTransformer) (value : Sealed) :
    Except Exception String :=
  transformer.decrypt value.iv value.authTag value.ciphertext

/-- A stored value carries its IV. -/
theorem EncryptedTokenTransformer.to_iv {transformer : EncryptedTokenTransformer} {iv : Iv}
    {value : String} {stored : Sealed} (converted : transformer.to iv value = .ok stored) : stored.iv = iv := by
  unfold EncryptedTokenTransformer.to at converted
  split at converted
  next => cases converted
  next =>
    cases converted
    rfl

/-- An entity has a `String` for its refresh token, a row has it `Sealed`. -/
structure GrantfoxToken (Text : Type) where
  id : String
  userId : String
  grantfoxUserId : String
  grantfoxOrgName : Option String
  entitlements : Option (List String)
  billingPermissions : Option (List String)
  accessToken : String
  refreshToken : Text
  accessTokenExpiresAt : Nat
  refreshTokenExpiresAt : Nat
  revoked : Bool
  revokedAt : Option Nat
  replacedByToken : Option String
  codeVerifier : Option String
  oauthState : Option String
  deriving DecidableEq

abbrev TokenRow := GrantfoxToken Sealed

abbrev TokenEntity := GrantfoxToken String

def GrantfoxToken.withRefreshToken {Text Other : Type} (token : GrantfoxToken Text)
    (refreshToken : Other) : GrantfoxToken Other :=
  { token with refreshToken := refreshToken }

/-- The row of an entity. -/
def GrantfoxToken.store (transformer : EncryptedTokenTransformer) (entity : TokenEntity) (iv : Iv) :
    Except Exception TokenRow :=
  (transformer.to iv entity.refreshToken).map entity.withRefreshToken

/-- The entity of a row. -/
def GrantfoxToken.load (transformer : EncryptedTokenTransformer) (row : TokenRow) :
    Except Exception TokenEntity :=
  (transformer.from row.refreshToken).map row.withRefreshToken

/-- The unique index on the user and the GrantFox user. -/
def GrantfoxToken.clashes (row other : TokenRow) : Bool :=
  decide (row.userId = other.userId) && decide (row.grantfoxUserId = other.grantfoxUserId)

inductive SocialProvider where
  | google | github | twitter | grantfox
  deriving DecidableEq

structure SocialAccount where
  id : String
  userId : String
  provider : SocialProvider
  providerUserId : String
  email : Option String
  displayName : Option String
  emailVerified : Bool
  deriving DecidableEq

def SocialAccount.clashes (account other : SocialAccount) : Bool :=
  decide (account.provider = other.provider) &&
    decide (account.providerUserId = other.providerUserId)

/-- The conditions on one token; the last two also ask for a token that is not revoked. -/
inductive TokenQuery where
  | oauthState (state : String)
  | accessToken (token : String)
  | refreshToken (userId : Option String) (token : String)
  deriving DecidableEq

/-- A condition on the refresh token is encrypted for the query, as a stored value is. -/
def TokenQuery.selects (transformer : EncryptedTokenTransformer) (iv : Iv) :
    TokenQuery → Except Exception (TokenRow → Bool)
  | .oauthState state => .ok fun row => decide (row.oauthState = some state)
  | .accessToken token => .ok fun row => decide (row.accessToken = token) && ! row.revoked
  | .refreshToken userId token => (transformer.to iv token).map fun value row =>
    userId.all (fun id => decide (row.userId = id)) && decide (row.refreshToken = value) &&
      ! row.revoked

/-!
## What the GrantFox service asks for

Source: the awaited operations of src/core/auth/services/grantfox-oauth.service.ts. A form is
its pairs in order. GrantFox answers as it likes; the texts of the error bodies are only
logged.
-/
open Library.AsyncMethod Library.KeyedTable
open Auth (User Role RateLimitTier duplicateKey)

abbrev Form := List (String × String)

/-- The fields of a token response that are used. -/
structure GrantfoxTokenResponse where
  access_token : String
  refresh_token : String
  expires_in : Option Nat
  deriving DecidableEq

/-- The userinfo document as GrantFox sends it. -/
structure UserInfoData where
  sub : Option String
  id : String
  email : Option String
  name : Option String
  org_name : Option String
  organization : Option String
  entitlements : Option (List String)
  billing_permissions : Option (List String)
  deriving DecidableEq

structure GrantfoxLogin where
  userId : String
  grantfoxUserId : String
  email : Option String
  timestamp : Nat
  deriving DecidableEq

/-- The awaited operations. An insert is given a row without an id and answers the id; a save
replaces the rows with their ids. A response that is not ok is `none`. -/
inductive GrantfoxOp where
  | findToken (query : TokenQuery)
  | findActiveTokens (userId : String)
  | insertToken (entity : TokenEntity)
  | saveTokens (entities : List TokenEntity)
  | removeToken (id : String)
  | postToken (form : Form)
  | getUserInfo (accessToken : String)
  | postRevoke (form : Form)
  | findSocialAccount (userId : Option String) (provider : SocialProvider) (providerUserId : String)
  | insertSocialAccount (account : SocialAccount)
  | findUserByEmail (email : String)
  | insertUser (user : User)
  | recordVerification (login : GrantfoxLogin)
  deriving DecidableEq

abbrev GrantfoxOp.Reply : GrantfoxOp → Type
  | .findToken _ => Option TokenEntity
  | .findActiveTokens _ => List TokenEntity
  | .postToken _ => Option GrantfoxTokenResponse
  | .getUserInfo _ => Option UserInfoData
  | .findSocialAccount _ _ _ => Option (SocialAccount × Option User)
  | .findUserByEmail _ => Option User
  | .insertToken _ | .insertSocialAccount _ | .insertUser _ => String
  | _ => Unit

/-- The clock and the random texts with the number of texts drawn. -/
structure GrantfoxMemory where
  now : Nat
  random : Nat → String
  drawn : Nat

inductive GrantfoxCall where
  | startAuthorization (scopes : Option (List String))
  | handleCallback (code state ipAddress : String) (userAgent : Option String)
  | refreshToken (refreshTokenValue ipAddress : String)
  | revokeToken (userId : String) (refreshTokenValue : Option String)
  | resolveIdentity (accessToken : String)
  deriving DecidableEq

structure GrantfoxAuthStartResult where
  authorizationUrl : String
  state : String
  deriving DecidableEq

structure GrantfoxUserSummary where
  id : String
  email : Option String
  username : Option String
  role : Role
  tier : RateLimitTier
  deriving DecidableEq

structure GrantfoxAuthCallbackResult where
  accessToken : String
  refreshToken : String
  user : GrantfoxUserSummary
  entitlements : List String
  billingPermissions : List String
  deriving DecidableEq

structure GrantfoxTokenPair where
  accessToken : String
  refreshToken : String
  expiresIn : Nat
  deriving DecidableEq

structure GrantfoxIdentity where
  userId : String
  grantfoxUserId : String
  entitlements : List String
  billingPermissions : List String
  deriving DecidableEq

inductive GrantfoxValue where
  | started (result : GrantfoxAuthStartResult)
  | session (result : GrantfoxAuthCallbackResult)
  | tokens (pair : GrantfoxTokenPair)
  | revoked (count : Nat)
  | identity (identity : Option GrantfoxIdentity)
  deriving DecidableEq

abbrev grantfox : Runtime where
  Op := GrantfoxOp
  Reply := GrantfoxOp.Reply
  Mem := GrantfoxMemory
  Err := Exception
  Call := GrantfoxCall
  Val := GrantfoxValue

abbrev GrantfoxM := Async grantfox

def ask (op : GrantfoxOp) : GrantfoxM op.Reply := Async.perform (R := grantfox) op

def clock : GrantfoxM Nat := do
  let memory ← Async.memory
  pure memory.now

/-- The next random text. -/
def draw : GrantfoxM String := do
  let memory ← Async.memory
  Async.update (R := grantfox) fun memory => { memory with drawn := memory.drawn + 1 }
  pure (memory.random memory.drawn)

/-- The tables, and the IVs drawn so far. -/
structure GrantfoxWorld where
  now : Nat
  users : Table User User.id
  socialAccounts : Table SocialAccount SocialAccount.id
  tokens : Table TokenRow GrantfoxToken.id
  ivs : List Iv

/-- What the outside decides: the id of a new row, the IVs that are drawn, the responses of
GrantFox, or a failure, which leaves the database as it was. -/
inductive GrantfoxOutcome where
  | done
  | made (id : String)
  | drew (ivs : List Iv)
  | madeDrawing (id : String) (iv : Iv)
  | tokens (response : Option GrantfoxTokenResponse)
  | userInfo (data : Option UserInfoData)
  | fails (failure : Exception)
  deriving DecidableEq

def unknownUser : Exception := .error "insert or update violates foreign key constraint"

/-- Continue with IVs that were never drawn before. -/
def GrantfoxWorld.draws {Reply : Type} (world : GrantfoxWorld) (ivs : List Iv)
    (rest : GrantfoxWorld → GrantfoxWorld × Except Exception Reply) :
    Option (GrantfoxWorld × Except Exception Reply) :=
  if (world.ivs ++ ivs).Nodup then some (rest { world with ivs := world.ivs ++ ivs }) else none

/-- The IV of a query is drawn only for a condition on the refresh token. -/
def GrantfoxWorld.findToken (world : GrantfoxWorld) (transformer : EncryptedTokenTransformer)
    (query : TokenQuery) (iv : Iv) : Except Exception (Option TokenEntity) := do
  let selects ← query.selects transformer iv
  match world.tokens.rows.find? selects with
  | none => pure none
  | some row => some <$> row.load transformer

/-- The row of a user and GrantFox user is one, and its user exists. -/
def GrantfoxWorld.saveRow (world : GrantfoxWorld) (row : TokenRow) :
    Except Exception GrantfoxWorld :=
  if world.tokens.rows.any fun other => decide (other.id ≠ row.id) && row.clashes other then
    .error duplicateKey
  else if (world.users.findOne row.userId).isNone then .error unknownUser
  else .ok { world with tokens := world.tokens.save row }

/-- Save the entities, each with an IV, in one transaction. -/
def GrantfoxWorld.saveTokens (transformer : EncryptedTokenTransformer) :
    List TokenEntity → List Iv → GrantfoxWorld → Except Exception GrantfoxWorld
  | entity :: entities, iv :: ivs, world => do
    let row ← entity.store transformer iv
    let world ← world.saveRow row
    saveTokens transformer entities ivs world
  | _, _, world => .ok world

/-- A failed transaction leaves the database as it was. -/
def GrantfoxWorld.committed {Reply : Type} (world : GrantfoxWorld) (reply : Reply) :
    Except Exception GrantfoxWorld → GrantfoxWorld × Except Exception Reply
  | .ok after => (after, .ok reply)
  | .error failure => (world, .error failure)

def GrantfoxWorld.insertSocialAccount (world : GrantfoxWorld) (account : SocialAccount) :
    GrantfoxWorld × Except Exception String :=
  if world.socialAccounts.rows.any account.clashes then (world, .error duplicateKey)
  else ({ world with socialAccounts := world.socialAccounts.save account }, .ok account.id)

def GrantfoxWorld.insertUser (world : GrantfoxWorld) (user : User) :
    GrantfoxWorld × Except Exception String :=
  if world.users.rows.any user.clashes then (world, .error duplicateKey)
  else ({ world with users := world.users.save user }, .ok user.id)

/-- The account joined with its user. -/
def GrantfoxWorld.findSocialAccount (world : GrantfoxWorld) (userId : Option String)
    (provider : SocialProvider) (providerUserId : String) : Option (SocialAccount × Option User) :=
  let found := world.socialAccounts.rows.find? fun account =>
    userId.all (fun id => decide (account.userId = id)) && decide (account.provider = provider) &&
      decide (account.providerUserId = providerUserId)
  found.map fun account => (account, world.users.findOne account.userId)

def GrantfoxWorld.respond (transformer : EncryptedTokenTransformer) (world : GrantfoxWorld)
    (op : GrantfoxOp) (outcome : GrantfoxOutcome) :
    Option (GrantfoxWorld × Except Exception op.Reply) :=
  match op, outcome with
  | .findToken query, .drew [iv] =>
    world.draws [iv] fun world => (world, world.findToken transformer query iv)
  | .findActiveTokens userId, .done =>
    some (world, (world.tokens.rows.filter fun row =>
      decide (row.userId = userId) && ! row.revoked).mapM fun row => row.load transformer)
  | .insertToken entity, .madeDrawing id iv =>
    if (world.tokens.findOne id).isSome then none
    else world.draws [iv] fun world => world.committed id
      (GrantfoxWorld.saveTokens transformer [{ entity with id := id }] [iv] world)
  | .saveTokens entities, .drew ivs =>
    if ivs.length ≠ entities.length then none
    else world.draws ivs fun world => world.committed ()
      (GrantfoxWorld.saveTokens transformer entities ivs world)
  | .removeToken id, .done =>
    some ({ world with tokens := world.tokens.delete fun row => decide (row.id = id) }, .ok ())
  | .postToken _, .tokens response => some (world, .ok response)
  | .getUserInfo _, .userInfo data => some (world, .ok data)
  | .postRevoke _, .done => some (world, .ok ())
  | .findSocialAccount userId provider providerUserId, .done =>
    some (world, .ok (world.findSocialAccount userId provider providerUserId))
  | .insertSocialAccount account, .made id =>
    if (world.socialAccounts.findOne id).isSome then none
    else some (world.insertSocialAccount { account with id := id })
  | .findUserByEmail email, .done =>
    some (world, .ok (world.users.rows.find? fun user => decide (user.email = some email)))
  | .insertUser user, .made id =>
    if (world.users.findOne id).isSome then none else some (world.insertUser { user with id := id })
  | .recordVerification _, .done => some (world, .ok ())
  | _, .fails failure => some (world, .error failure)
  | _, _ => none

/-- Time passes. -/
def grantfoxEnvironment (state : GrantfoxWorld × GrantfoxMemory) (ms : Nat) :
    GrantfoxWorld × GrantfoxMemory :=
  ({ state.1 with now := state.1.now + ms }, { state.2 with now := state.2.now + ms })

end AlianStructure.Source.Grantfox
