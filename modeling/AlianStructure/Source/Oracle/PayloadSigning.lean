import AlianStructure.Library.WiderRuntime
import AlianStructure.Source.Oracle.OracleService
import AlianStructure.Source.Oracle.PayloadJson

/-!
# Creating and signing payloads

Source: src/blockchain/oracle/services/oracle.service.ts:42-146 and
payload-signing.service.ts:74-168. The hash function and the signatures of ethers are parameters;
the EIP-712 domain and types are fixed and left out.
-/
namespace AlianStructure.Source.Oracle
open Library.AsyncMethod Library.Interleaving Library.KeyedTable Library.WiderRuntime
open Library.JsonText

structure CreatePayloadDto where
  payloadType : PayloadType
  payload : PayloadObject
  metadata : Option String

/-- The EIP-712 value that is signed; `expiresAt` is in seconds. -/
structure OraclePayload where
  payloadType : PayloadType
  payloadHash : String
  nonce : Nat
  expiresAt : Nat
  data : String
  deriving DecidableEq

/-- The columns that only creation writes, with the value of the jsonb column. -/
structure CreatedColumns where
  id : String
  payload : PayloadObject
  signerAddress : String
  structuredDataHash : String
  metadata : Option String

/-- A payload that is not yet in the table. -/
structure NewPayload where
  payloadType : PayloadType
  signerAddress : String
  nonce : Nat
  payload : PayloadObject
  payloadHash : String
  structuredDataHash : String
  expiresAt : Nat
  metadata : Option String

/-- The awaited operations of creation and signing. An insert answers the id; a row to sign comes
with the address of its signer. -/
inductive SigningOp where
  | getAndIncrementNonce (address : String)
  | insertPayload (payload : NewPayload)
  | findToSign (id : String)
  | signTypedData (privateKey : String) (value : OraclePayload)

abbrev SigningOp.Reply : SigningOp → Type
  | .getAndIncrementNonce _ => Nat
  | .insertPayload _ => String
  | .findToSign _ => Option (SignedPayload × String)
  | .signTypedData _ _ => String × String

inductive SigningCall where
  | createPayload (signerAddress : String) (createPayloadDto : CreatePayloadDto)
  | signPayload (payloadId privateKey : String)

/-- The parts of the responses that are not read from the row. -/
inductive SigningValue where
  | created (payloadId payloadHash : String)
  | signed (payload : SignedPayload)

abbrev signing : Additions where
  Op := SigningOp
  Reply := SigningOp.Reply
  Call := SigningCall
  Val := SigningValue

abbrev signingOracle : Runtime := wider oracle signing

abbrev SigningM := Async signingOracle

def request (op : SigningOp) : SigningM op.Reply :=
  Async.perform (R := signingOracle) (.inr op)

namespace PayloadSigningService

def hashPayload (keccak256 : String → String) (payload : Json) : String :=
  keccak256 payload.stringify

def createStructuredData (payloadType : PayloadType) (payloadHash : String) (nonce expiresAt : Nat)
    (data : String) : OraclePayload :=
  ⟨payloadType, payloadHash, nonce, expiresAt, data⟩

/-- A placeholder in the source: the hash of the payload. -/
def computeStructuredDataHash (payloadHash : String) : String := payloadHash

/-- The signature and the address it was made with; `data` is the JSON text of the payload. -/
def signPayload (privateKey : String) (payloadType : PayloadType) (payloadHash : String)
    (nonce expiresAt : Nat) (data : String) : SigningM (String × String) :=
  tryCatch
    (request (.signTypedData privateKey
      (createStructuredData payloadType payloadHash nonce expiresAt data)))
    fun failure => throw (.error ("Payload signing failed: " ++ failure.message))

end PayloadSigningService

namespace OracleService

def defaultExpirationMinutes : Nat := 30

def createPayload (keccak256 : String → String) (signerAddress : String)
    (createPayloadDto : CreatePayloadDto) : SigningM SigningValue := do
  let nonce ← request (.getAndIncrementNonce signerAddress)
  let payloadHash := PayloadSigningService.hashPayload keccak256 createPayloadDto.payload.json
  let memory ← Async.memory
  let payloadId ← request (.insertPayload {
    payloadType := createPayloadDto.payloadType
    signerAddress := toLowerCase signerAddress
    nonce := nonce
    payload := createPayloadDto.payload
    payloadHash := payloadHash
    structuredDataHash := PayloadSigningService.computeStructuredDataHash payloadHash
    expiresAt := memory.now + defaultExpirationMinutes * 60000
    metadata := createPayloadDto.metadata })
  pure (.created payloadId payloadHash)

/-- The part of signPayload after the row was found. -/
def signFound (payload : SignedPayload) (expected privateKey : String) : SigningM SigningValue := do
  if payload.signature ≠ "" then
    throw (.badRequest ("Payload " ++ payload.id ++ " is already signed"))
  else
    let memory ← Async.memory
    if payload.expiresAt < memory.now then
      throw (.badRequest ("Payload " ++ payload.id ++ " has expired"))
    else
      let (signature, signerAddress) ← PayloadSigningService.signPayload privateKey
        payload.payloadType payload.payloadHash payload.nonce (payload.expiresAt / 1000)
        payload.payload
      if toLowerCase signerAddress ≠ toLowerCase expected then
        throw (.badRequest ("Signer address " ++ signerAddress ++
          " does not match expected address " ++ expected))
      else
        let signed := { payload with signature := signature }
        lift (save signed)
        pure (.signed signed)

def signPayload (payloadId privateKey : String) : SigningM SigningValue := do
  let found ← request (.findToSign payloadId)
  match found with
  | none => throw (.notFound ("Payload " ++ payloadId ++ " not found"))
  | some (payload, signerAddress) => signFound payload signerAddress privateKey

end OracleService

structure SigningConfig where
  oracle : OracleConfig
  keccak256 : String → String

/-- The payload table and the chain, the columns of creation, and the arguments that the contract
was called with. -/
structure SigningWorld where
  oracle : OracleWorld
  columns : Table CreatedColumns CreatedColumns.id
  sent : List (String × SubmitArguments)

inductive SigningOutcome where
  | oracle (outcome : Outcome)
  | nonce (nonce : Nat)
  | inserted (id : String)
  | found
  | signed (signature signerAddress : String)
  | fails (failure : Exception)

/-- The row that an insert writes. -/
def NewPayload.row (payload : NewPayload) (id : String) (now : Nat) : SignedPayload where
  id := id
  payloadType := payload.payloadType
  nonce := payload.nonce
  payload := payload.payload.stored.stringify
  payloadHash := payload.payloadHash
  signature := ""
  expiresAt := payload.expiresAt
  status := .pending
  transactionHash := none
  blockNumber := none
  submissionAttempts := 0
  errorMessage := none
  createdAt := now
  updatedAt := now
  submittedAt := none
  confirmedAt := none

def NewPayload.columns (payload : NewPayload) (id : String) : CreatedColumns where
  id := id
  payload := payload.payload
  signerAddress := payload.signerAddress
  structuredDataHash := payload.structuredDataHash
  metadata := payload.metadata

/-- A new id is given, and the hash is unique. -/
def SigningWorld.insertable (world : SigningWorld) (payload : NewPayload) (id : String) : Bool :=
  (world.columns.findOne id).isNone && (world.oracle.payloads.findOne id).isNone &&
    ! world.oracle.payloads.rows.any fun row => decide (row.payloadHash = payload.payloadHash)

def SigningWorld.insert (world : SigningWorld) (payload : NewPayload) (id : String) :
    SigningWorld :=
  { world with
    oracle := { world.oracle with
      payloads := world.oracle.payloads.save (payload.row id world.oracle.now) }
    columns := world.columns.save (payload.columns id) }

def SigningWorld.called (world : SigningWorld) : OracleOp → List (String × SubmitArguments)
  | .submitPayload payloadId arguments _ => world.sent ++ [(payloadId, arguments)]
  | _ => world.sent

def SigningWorld.respond (world : SigningWorld) (op : OracleOp ⊕ SigningOp)
    (outcome : SigningOutcome) :
    Option (SigningWorld × Except Exception (signingOracle.Reply op)) :=
  match op, outcome with
  | .inl op, .oracle outcome =>
    (world.oracle.respond op outcome).map fun answer =>
      ({ world with oracle := answer.1, sent := world.called op }, answer.2)
  | .inr (.getAndIncrementNonce _), .nonce nonce => some (world, .ok nonce)
  | .inr (.insertPayload payload), .inserted id =>
    if world.insertable payload id then some (world.insert payload id, .ok id) else none
  | .inr (.findToSign id), .found => some (world, .ok (do
      let payload ← world.oracle.payloads.findOne id
      let columns ← world.columns.findOne id
      pure (payload, columns.signerAddress)))
  | .inr (.signTypedData _ _), .signed signature signerAddress =>
    some (world, .ok (signature, signerAddress))
  | .inr _, .fails failure => some (world, .error failure)
  | _, _ => none

def signingEnvironment (state : SigningWorld × OracleMemory) (change : OracleEnvironment) :
    SigningWorld × OracleMemory :=
  let after := oracleEnvironment (state.1.oracle, state.2) change
  ({ state.1 with oracle := after.1 }, after.2)

def signingBody (config : SigningConfig) :
    OracleCall ⊕ SigningCall → SigningM (OracleValue ⊕ SigningValue)
  | .inl call => do
    let value ← lift (oracleBody config.oracle call)
    pure (.inl value)
  | .inr (.createPayload signerAddress createPayloadDto) => do
    let value ← OracleService.createPayload config.keccak256 signerAddress createPayloadDto
    pure (.inr value)
  | .inr (.signPayload payloadId privateKey) => do
    let value ← OracleService.signPayload payloadId privateKey
    pure (.inr value)

/-- The calls that take a payload from its creation to the chain. -/
def onTheWay : OracleCall ⊕ SigningCall → Bool
  | .inl (.submitPayload _) | .inr _ => true
  | _ => false

abbrev signingProcess (config : SigningConfig) : Service signingOracle where
  World := SigningWorld
  Choice := SigningOutcome
  Env := OracleEnvironment
  respond := SigningWorld.respond
  environment := signingEnvironment
  isPublic := onTheWay
  body := signingBody config

end AlianStructure.Source.Oracle
