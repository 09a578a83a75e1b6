import AlianStructure.Library.WiderRuntime
import AlianStructure.Source.Auth.AdminTwoFactorGuard

/-!
# Session recovery

Source: src/core/auth/session-recovery.service.ts:88-377,420-486. The sessions are a further memory of the
process whose challenges the wallet logins consume; the recovery columns of a wallet are kept beside its row. A save writes every
column of the row that was loaded. Awaiting a method that does not wait itself lets other calls run.
-/
namespace AlianStructure.Source.Auth
open Library.AsyncMethod Library.Interleaving Library.KeyedTable Library.WiderRuntime

inductive RecoveryMethodType where
  | backupCode | email | social
  deriving DecidableEq

structure RecoveryMethod where
  type : RecoveryMethodType
  identifier : String
  verified : Bool
  deriving DecidableEq

structure RecoverySession where
  id : String
  userId : String
  walletId : String
  method : RecoveryMethod
  expiresAt : Nat
  attempts : Nat
  verified : Bool
  deriving DecidableEq

/-- The columns of a wallet that only recovery reads. -/
structure RecoveryColumns where
  walletId : String
  recoveryEnabled : Bool
  recoveryCodeHash : Option String
  lastUsedAt : Option Nat
  deriving DecidableEq

/-- A wallet with all its columns, and its user where the query joins it. -/
structure RecoveryWallet where
  wallet : Wallet
  columns : RecoveryColumns
  user : Option User
  deriving DecidableEq

/-- The awaited operations; `turn` waits for nothing. -/
inductive RecoveryOp where
  | findActiveWallet (address : String)
  | findPrimaryWallet (userId : String)
  | findWallet (id : String)
  | findVerifiedUser (email : String)
  | saveWallet (wallet : Wallet) (columns : RecoveryColumns)
  | sendRecoveryEmail (email code : String)
  | importEthers
  | turn
  deriving DecidableEq

abbrev RecoveryOp.Reply : RecoveryOp → Type
  | .findActiveWallet _ | .findPrimaryWallet _ | .findWallet _ => Option RecoveryWallet
  | .findVerifiedUser _ => Option User
  | _ => Unit

inductive RecoveryCall where
  | initiateBackupCodeRecovery (walletAddress backupCode : String)
  | initiateEmailRecovery (email : String)
  | verifyEmailRecoveryCode (sessionId code : String)
  | completeRecovery (sessionId message signature : String)
  | cancelRecovery (sessionId : String)
  | authenticate (message signature : String)
  deriving DecidableEq

structure RecoveryToken where
  sub : String
  address : String
  email : Option String
  role : Role
  iat : Nat
  deriving DecidableEq

inductive RecoveryValue where
  | initiated (sessionId message challenge : String)
  | mailed (sessionId message : String)
  | verified (message challenge : String)
  | completed (token : RecoveryToken) (walletAddress message : String)
  | cancelled
  | authenticated (result : StrategyResult)
  deriving DecidableEq

/-- The sessions, and the verification codes that are generated with their number so far. -/
structure RecoveryMemory where
  sessions : Table RecoverySession RecoverySession.id
  codes : Nat → String
  generated : Nat

abbrev recoveries : Additions where
  Op := RecoveryOp
  Reply := RecoveryOp.Reply
  Call := RecoveryCall
  Val := RecoveryValue

instance : Inhabited AuthValue := ⟨.allowed⟩

abbrev recovery : Runtime := wider (withMemory auth RecoveryMemory) recoveries

abbrev RecoveryM := Async recovery

/-- A method of the other authentication services. -/
def ofAuth {α : Type} (program : AuthM α) : RecoveryM α := lift (R := withMemory auth RecoveryMemory) (remember program)

def askRecovery (op : RecoveryOp) : RecoveryM op.Reply := Async.perform (R := recovery) (.inr op)

/-- Change the sessions. -/
def changeSessions (change : Table RecoverySession RecoverySession.id → Table RecoverySession RecoverySession.id) :
    RecoveryM Unit :=
  Async.update (R := recovery) fun memory =>
    (memory.1, { memory.2 with sessions := change memory.2.sessions })

namespace SessionRecoveryService

def maxAttempts : Nat := 3

def sessionExpiry : Nat := 15 * 60 * 1000

def hashRecoveryCode (libraries : AuthLibraries) (code : String) : String :=
  libraries.sha256 (String.ofList ((toUpperCase code).toList.filter fun c => decide (c ≠ '-')))

def storedHashes (recoveryCodeHash : Option String) : List String :=
  match recoveryCodeHash with
  | some hashes => hashes.splitOn ","
  | none => []

def generateSessionId : RecoveryM String := ofAuth draw

def generateVerificationCode : RecoveryM String := do
  let memory ← Async.memory
  Async.update (R := recovery) fun memory => (memory.1, { memory.2 with generated := memory.2.generated + 1 })
  pure (memory.2.codes memory.2.generated)

/-- An expired session is deleted when it is looked up. -/
def getValidSession (sessionId : String) : RecoveryM (Option RecoverySession) := do
  let memory ← Async.memory
  match memory.2.sessions.findOne sessionId with
  | none => pure none
  | some session =>
    if session.expiresAt < memory.1.now then
      changeSessions fun sessions => sessions.delete fun s => decide (s.id = sessionId)
      pure none
    else pure (some session)

/-- The placeholder of the source. -/
def verifyRecoveryCode (code : String) : Bool :=
  decide (code.toList.length = 6) && code.toList.all fun c => c.isDigit

def initiateBackupCodeRecovery (libraries : AuthLibraries) (walletAddress backupCode : String) :
    RecoveryM RecoveryValue := do
  let normalizedAddress := toLowerCase walletAddress
  let found ← askRecovery (.findActiveWallet normalizedAddress)
  match found with
  | none => throw (.unauthorized "Recovery not enabled for this wallet")
  | some row =>
    if ! row.columns.recoveryEnabled then throw (.unauthorized "Recovery not enabled for this wallet")
    else
      let hashedInput := hashRecoveryCode libraries backupCode
      let hashes := storedHashes row.columns.recoveryCodeHash
      if hashedInput ∉ hashes then
        askRecovery .turn
        throw (.unauthorized "Invalid recovery code")
      else
        let updatedHashes := hashes.filter fun h => decide (h ≠ hashedInput)
        askRecovery (.saveWallet row.wallet
          { row.columns with recoveryCodeHash := some (",".intercalate updatedHashes) })
        let sessionId ← generateSessionId
        let now ← ofAuth clock
        changeSessions fun sessions => sessions.save
          { id := sessionId
            userId := row.wallet.userId
            walletId := row.wallet.id
            method := ⟨.backupCode, walletAddress, true⟩
            expiresAt := now + sessionExpiry
            attempts := 0
            verified := true }
        let challenge ← ofAuth (ChallengeService.issueChallengeForAddress normalizedAddress)
        askRecovery .turn
        pure (.initiated sessionId "Recovery verified. Sign the challenge to complete authentication." challenge)

def initiateEmailRecovery (email : String) : RecoveryM RecoveryValue := do
  let normalizedEmail := toLowerCase email
  let found ← askRecovery (.findVerifiedUser normalizedEmail)
  match found with
  | none => throw (.unauthorized "Recovery email sent if account exists")
  | some user =>
    let primary ← askRecovery (.findPrimaryWallet user.id)
    match primary with
    | none => throw (.unauthorized "No active wallet found for recovery")
    | some row =>
      let sessionId ← generateSessionId
      let verificationCode ← generateVerificationCode
      let now ← ofAuth clock
      changeSessions fun sessions => sessions.save
        { id := sessionId
          userId := user.id
          walletId := row.wallet.id
          method := ⟨.email, normalizedEmail, false⟩
          expiresAt := now + sessionExpiry
          attempts := 0
          verified := false }
      askRecovery (.sendRecoveryEmail normalizedEmail verificationCode)
      pure (.mailed sessionId "Recovery email sent if account exists")

/-- One attempt more. -/
def countAttempt (session : RecoverySession) : RecoverySession :=
  { session with attempts := session.attempts + 1 }

def markVerified (session : RecoverySession) : RecoverySession :=
  { session with verified := true, method := { session.method with verified := true } }

/-- The session objects are shared: a change is seen where the session still is in the map. -/
def changeSession (sessionId : String) (change : RecoverySession → RecoverySession)
    (same : ∀ session, (change session).id = session.id) : RecoveryM Unit :=
  changeSessions fun sessions => sessions.modify (fun s => decide (s.id = sessionId)) change same

theorem countAttempt_id (session : RecoverySession) : (countAttempt session).id = session.id := rfl

theorem markVerified_id (session : RecoverySession) : (markVerified session).id = session.id := rfl

def verifyEmailRecoveryCode (sessionId code : String) : RecoveryM RecoveryValue := do
  let found ← getValidSession sessionId
  match found with
  | none => throw (.unauthorized "Invalid or expired recovery session")
  | some session =>
    if session.method.type ≠ .email then throw (.badRequest "Invalid recovery method")
    else if maxAttempts ≤ session.attempts then
      changeSessions fun sessions => sessions.delete fun s => decide (s.id = sessionId)
      throw (.unauthorized "Too many failed attempts. Please start over.")
    else
      changeSession sessionId countAttempt countAttempt_id
      askRecovery .turn
      if ! verifyRecoveryCode code then
        askRecovery .turn
        throw (.unauthorized "Invalid verification code")
      else
        changeSession sessionId markVerified markVerified_id
        let wallet ← askRecovery (.findWallet session.walletId)
        match wallet with
        | none => throw (.notFound "Wallet not found")
        | some row =>
          let challenge ← ofAuth (ChallengeService.issueChallengeForAddress row.wallet.address)
          askRecovery .turn
          pure (.verified "Recovery verified. Sign the challenge to complete authentication." challenge)

/-- The end of completeRecovery, once the challenge is consumed. -/
def issueToken (sessionId : String) (row : RecoveryWallet) : RecoveryM RecoveryValue := do
  match row.user with
  | none => throw (.error "Cannot read properties of null (reading 'emailVerified')")
  | some user =>
    let now ← ofAuth clock
    let token : RecoveryToken :=
      { sub := row.wallet.userId
        address := row.wallet.address
        email := if user.emailVerified then user.email else none
        role := user.role
        iat := now / 1000 }
    askRecovery (.saveWallet row.wallet { row.columns with lastUsedAt := some now })
    changeSessions fun sessions => sessions.delete fun s => decide (s.id = sessionId)
    pure (.completed token row.wallet.address "Recovery successful. New session established.")

def completeRecovery (libraries : AuthLibraries) (sessionId message signature : String) :
    RecoveryM RecoveryValue := do
  let found ← getValidSession sessionId
  match found with
  | none => throw (.unauthorized "Recovery session not verified")
  | some session =>
    if ! session.verified then throw (.unauthorized "Recovery session not verified")
    else
      let wallet ← askRecovery (.findWallet session.walletId)
      match wallet with
      | none => throw (.notFound "Wallet not found")
      | some row =>
        askRecovery .importEthers
        match libraries.verifyMessage message signature with
        | .error _ => throw (.unauthorized "Invalid signature")
        | .ok recoveredAddress =>
          if toLowerCase recoveredAddress ≠ toLowerCase row.wallet.address then
            throw (.unauthorized "Signature does not match wallet address")
          else
            match ChallengeService.extractChallengeId message with
            | none => throw (.unauthorized "Challenge expired or invalid")
            | some challengeId =>
              let challenge ← ofAuth (ChallengeService.consumeChallenge challengeId)
              match challenge with
              | none => throw (.unauthorized "Challenge expired or invalid")
              | some _ => issueToken sessionId row

def cancelRecovery (sessionId : String) : RecoveryM RecoveryValue := do
  changeSessions fun sessions => sessions.delete fun s => decide (s.id = sessionId)
  pure .cancelled

end SessionRecoveryService

structure RecoveryWorld where
  accounts : AuthWorld
  columns : Table RecoveryColumns RecoveryColumns.walletId

/-- A wallet row with its recovery columns and its user. -/
def RecoveryWorld.joined (world : RecoveryWorld) (wallet : Wallet) : RecoveryWallet where
  wallet := wallet
  columns := (world.columns.findOne wallet.id).getD ⟨wallet.id, false, none, none⟩
  user := world.accounts.users.findOne wallet.userId

def RecoveryWorld.findWallet (world : RecoveryWorld) (selects : Wallet → Bool) : Option RecoveryWallet :=
  (world.accounts.wallets.rows.find? selects).map world.joined

def RecoveryWorld.saveWallet (world : RecoveryWorld) (wallet : Wallet) (columns : RecoveryColumns) : RecoveryWorld where
  accounts := { world.accounts with wallets := world.accounts.wallets.save wallet }
  columns := world.columns.save columns

def RecoveryWorld.answer (world : RecoveryWorld) (op : RecoveryOp) (outcome : AuthOutcome) :
    Option (RecoveryWorld × Except Exception op.Reply) :=
  match op, outcome with
  | .findActiveWallet address, .done =>
    some (world, .ok (world.findWallet fun w => decide (w.address = address ∧ w.status = .active)))
  | .findPrimaryWallet userId, .done =>
    some (world, .ok (world.findWallet fun w =>
      decide (w.userId = userId ∧ w.isPrimary = true ∧ w.status = .active)))
  | .findWallet id, .done => some (world, .ok (world.findWallet fun w => decide (w.id = id)))
  | .findVerifiedUser email, .done =>
    some (world, .ok (world.accounts.users.rows.find? fun u =>
      decide (u.email = some email ∧ u.emailVerified = true)))
  | .saveWallet wallet columns, .done => some (world.saveWallet wallet columns, .ok ())
  | .sendRecoveryEmail _ _, .done => some (world, .ok ())
  | .importEthers, .done => some (world, .ok ())
  | .turn, .done => some (world, .ok ())
  | .turn, .fails _ => none
  | _, .fails failure => some (world, .error failure)
  | _, _ => none

def recoveryRespond (libraries : AuthLibraries) (world : RecoveryWorld) (op : AuthOp ⊕ RecoveryOp)
    (outcome : AuthOutcome) : Option (RecoveryWorld × Except Exception (recovery.Reply op)) :=
  match op with
  | .inl op => (world.accounts.respond libraries op outcome).map fun answer =>
      ({ world with accounts := answer.1 }, answer.2)
  | .inr op => world.answer op outcome

/-- Time passes, or another service changes the status of a wallet. -/
inductive RecoveryEnvironment where
  | tick (ms : Nat)
  | status (walletId : String) (status : WalletStatus)
  deriving DecidableEq

theorem changedStatus_id (status : WalletStatus) (wallet : Wallet) : ({ wallet with status } : Wallet).id = wallet.id := rfl

def recoveryEnvironment (state : RecoveryWorld × AuthMemory × RecoveryMemory) :
    RecoveryEnvironment → RecoveryWorld × AuthMemory × RecoveryMemory
  | .tick ms =>
    let (accounts, memory) := authEnvironment (state.1.accounts, state.2.1) ms
    ({ state.1 with accounts }, memory, state.2.2)
  | .status walletId status =>
    ({ state.1 with
        accounts := { state.1.accounts with
          wallets := state.1.accounts.wallets.modify (fun w => decide (w.id = walletId))
            (fun w => { w with status }) (changedStatus_id status) } }, state.2)

def recoveryBody (config : AuthConfig) : AuthCall ⊕ RecoveryCall → RecoveryM (AuthValue ⊕ RecoveryValue)
  | .inl call => do
    let value ← ofAuth (authBody config call)
    pure (.inl value)
  | .inr (.authenticate message signature) => do
    let result ← ofAuth (WalletStrategy.authenticate config.libraries message signature)
    pure (.inr (.authenticated result))
  | .inr (.initiateBackupCodeRecovery walletAddress backupCode) => do
    let value ← SessionRecoveryService.initiateBackupCodeRecovery config.libraries walletAddress backupCode
    pure (.inr value)
  | .inr (.initiateEmailRecovery email) => do
    let value ← SessionRecoveryService.initiateEmailRecovery email
    pure (.inr value)
  | .inr (.verifyEmailRecoveryCode sessionId code) => do
    let value ← SessionRecoveryService.verifyEmailRecoveryCode sessionId code
    pure (.inr value)
  | .inr (.completeRecovery sessionId message signature) => do
    let value ← SessionRecoveryService.completeRecovery config.libraries sessionId message signature
    pure (.inr value)
  | .inr (.cancelRecovery sessionId) => do
    let value ← SessionRecoveryService.cancelRecovery sessionId
    pure (.inr value)

/-- The process, open to the calls that `offers` admits. -/
abbrev recoveryProcess (config : AuthConfig) (offers : AuthCall ⊕ RecoveryCall → Bool) : Service recovery where
  World := RecoveryWorld
  Choice := AuthOutcome
  Env := RecoveryEnvironment
  respond := recoveryRespond config.libraries
  environment := recoveryEnvironment
  isPublic := offers
  body := recoveryBody config

end AlianStructure.Source.Auth
