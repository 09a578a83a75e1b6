import AlianStructure.Source.Oracle.NonceManagementService
import AlianStructure.Source.Oracle.PayloadSigning

/-!
# Creating a payload with the next nonce

Source: src/blockchain/oracle/services/oracle.service.ts:42-93, nonce-management.service.ts:73-117 and
payload-signing.service.ts:74-106,233-252.
The nonce is taken in a transaction of its own. JSON.stringify and the hash function can throw.
-/
namespace AlianStructure.Source.Oracle
open Library.AsyncMethod Library.Interleaving Library.KeyedTable Library.WiderRuntime

/-- The insert answers the id that the database has given. -/
inductive CreationOp where
  | insertPayload (payload : NewPayload)

abbrev CreationOp.Reply : CreationOp → Type
  | .insertPayload _ => String

inductive CreationCall where
  | createPayload (signerAddress : String) (createPayloadDto : CreatePayloadDto)

inductive CreationValue where
  | created (payloadId payloadHash : String) (nonce : Nat)

abbrev creation : Additions where
  Op := CreationOp
  Reply := CreationOp.Reply
  Call := CreationCall
  Val := CreationValue

instance : Inhabited NonceValue := ⟨.nothing⟩

abbrev creating : Runtime := wider nonces creation

abbrev CreationM := Async creating

/-- `getAddress` and `keccak256` of ethers, the latter on the bytes of a text. -/
structure CreationLibraries where
  getAddress : String → Except Exception String
  stringify : PayloadObject → Except Exception String
  keccak256 : String → Except Exception String

namespace PayloadCreation

def hashPayload (libraries : CreationLibraries) (payload : PayloadObject) : Except Exception String := do
  let jsonString ← libraries.stringify payload
  libraries.keccak256 jsonString

def createStructuredData (libraries : CreationLibraries) (payloadType : PayloadType) (payloadHash : String)
    (nonce expiresAt : Nat) (data : PayloadObject) : Except Exception OraclePayload := do
  let json ← libraries.stringify data
  pure ⟨payloadType, payloadHash, nonce, expiresAt, json⟩

/-- A placeholder in the source: the data is built, and the hash of the payload returned. -/
def computeStructuredDataHash (libraries : CreationLibraries) (payloadType : PayloadType) (payloadHash : String)
    (nonce expiresAt : Nat) (data : PayloadObject) : Except Exception String := do
  let _ ← createStructuredData libraries payloadType payloadHash nonce expiresAt data
  pure payloadHash

/-- A step that may throw and does not wait. -/
def throwing {α : Type} (result : Except Exception α) : CreationM α := .done result

def insertPayload (payload : NewPayload) : CreationM String :=
  Async.perform (R := creating) (.inr (.insertPayload payload))

/-- The part of createPayload after the nonce was taken. -/
def storePayload (libraries : CreationLibraries) (signerAddress : String) (createPayloadDto : CreatePayloadDto)
    (nonce : Nat) : CreationM CreationValue := do
  let payloadHash ← throwing (hashPayload libraries createPayloadDto.payload)
  let memory ← Async.memory
  let expiresAt := memory.now + OracleService.defaultExpirationMinutes * 60000
  let structuredDataHash ← throwing (computeStructuredDataHash libraries createPayloadDto.payloadType payloadHash nonce
    (expiresAt / 1000) createPayloadDto.payload)
  let payloadId ← insertPayload {
    payloadType := createPayloadDto.payloadType
    signerAddress := toLowerCase signerAddress
    nonce := nonce
    payload := createPayloadDto.payload
    payloadHash := payloadHash
    structuredDataHash := structuredDataHash
    expiresAt := expiresAt
    metadata := createPayloadDto.metadata }
  pure (.created payloadId payloadHash nonce)

def createPayload (libraries : CreationLibraries) (signerAddress : String) (createPayloadDto : CreatePayloadDto) :
    CreationM CreationValue := do
  let nonce ← lift (NonceManagementService.getAndIncrementNonce libraries.getAddress signerAddress)
  storePayload libraries signerAddress createPayloadDto nonce

end PayloadCreation

/-- A row of signed_payloads as it was created. -/
structure CreatedPayload where
  id : String
  payload : NewPayload

structure CreationWorld where
  nonces : NonceWorld
  payloads : Table CreatedPayload CreatedPayload.id

inductive CreationOutcome where
  | nonce (outcome : NonceOutcome)
  | inserted (id : String)
  | fails (failure : Exception)
  deriving DecidableEq

def duplicateHash : Exception :=
  .error "duplicate key value violates unique constraint on signed_payloads.payloadHash"

/-- An INSERT under a new id: it fails when the hash is taken. -/
def CreationWorld.insert (world : CreationWorld) (payload : NewPayload) (id : String) :
    CreationWorld × Except Exception String :=
  if world.payloads.rows.any fun row => decide (row.payload.payloadHash = payload.payloadHash) then
    (world, .error duplicateHash)
  else ({ world with payloads := world.payloads.save ⟨id, payload⟩ }, .ok id)

def CreationWorld.respond (world : CreationWorld) (op : NonceOp ⊕ CreationOp) (outcome : CreationOutcome) :
    Option (CreationWorld × Except Exception (creating.Reply op)) :=
  match op, outcome with
  | .inl op, .nonce outcome => (world.nonces.respond op outcome).map fun answer =>
      ({ world with nonces := answer.1 }, answer.2)
  | .inr (.insertPayload payload), .inserted id =>
    if (world.payloads.findOne id).isSome then none else some (world.insert payload id)
  | .inr (.insertPayload _), .fails failure => some (world, .error failure)
  | _, _ => none

def creationEnvironment (state : CreationWorld × NonceMemory) (ms : Nat) : CreationWorld × NonceMemory :=
  let after := nonceEnvironment (state.1.nonces, state.2) ms
  ({ state.1 with nonces := after.1 }, after.2)

def creationBody (libraries : CreationLibraries) : NonceCall ⊕ CreationCall → CreationM (NonceValue ⊕ CreationValue)
  | .inl call => do
    let value ← lift (nonceBody libraries.getAddress call)
    pure (.inl value)
  | .inr (.createPayload signerAddress createPayloadDto) => do
    let value ← PayloadCreation.createPayload libraries signerAddress createPayloadDto
    pure (.inr value)

/-- The address of a token is written in full, in whatever case. -/
def writtenInFull (getAddress : String → Except Exception String) (address : String) : Bool :=
  match getAddress address with
  | .ok checksumAddress => decide (toLowerCase checksumAddress = toLowerCase address)
  | .error _ => true

/-- Only createPayload increments a nonce. -/
def offersCreation (getAddress : String → Except Exception String) : NonceCall ⊕ CreationCall → Bool
  | .inl (.getAndIncrementNonce _) => false
  | .inl _ => true
  | .inr (.createPayload signerAddress _) => writtenInFull getAddress signerAddress

abbrev creationProcess (libraries : CreationLibraries) : Service creating where
  World := CreationWorld
  Choice := CreationOutcome
  Env := Nat
  respond := CreationWorld.respond
  environment := creationEnvironment
  isPublic := offersCreation libraries.getAddress
  body := creationBody libraries

end AlianStructure.Source.Oracle
