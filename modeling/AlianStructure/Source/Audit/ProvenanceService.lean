import AlianStructure.Library.KeyedTable
import AlianStructure.Source.Audit.RecordHash
import AlianStructure.Source.Exception

/-!
# Provenance records

Source: src/infrastructure/audit/provenance.service.ts:27-61,253-400,427-453 and
entities/provenance-record.entity.ts. Times are epoch milliseconds. The `ethers` package is a
parameter, and so is the text that the uuid column returns for one. A jsonb column returns an object
with its members in another order.
-/
namespace AlianStructure.Source.Audit
open Library.JsonText Library.JsonSelection Library.KeyedTable
open Oracle (storedMembers enumerate enumerate_perm storedBefore indexBefore isIndex)

/-! ## Columns -/

theorem insertionSort_natural {before : String → String → Prop} [DecidableRel before]
    (members : Members) (change : Json → Json) : (members.map fun member => (member.1, change member.2)).insertionSort
        (fun a b => before a.1 b.1) = (members.insertionSort fun a b => before a.1 b.1).map fun member =>
        (member.1, change member.2) := by
  symm
  exact List.map_insertionSort _ _ _ _ fun _ _ _ _ => Iff.rfl

theorem filter_natural (keep : String → Bool) (members : Members) (change : Json → Json) :
    (members.map fun member => (member.1, change member.2)).filter (fun member => keep member.1) =
      (members.filter fun member => keep member.1).map fun member => (member.1, change member.2) := by
  rw [List.filter_map]
  rfl

theorem storedMembers_moves : Moves storedMembers where
  perm members := by
    unfold storedMembers
    exact (enumerate_perm _).trans (List.perm_insertionSort _ members)
  natural members change := by
    unfold storedMembers Oracle.enumerate
    rw [insertionSort_natural, filter_natural isIndex, filter_natural (fun key => ! isIndex key),
      insertionSort_natural, List.map_append]

/-- What a jsonb column returns. -/
def JsonObject.stored (object : JsonObject) : JsonObject where
  members := storedMembers (rearrangeMembers storedMembers object.members)
  unique := nodup_rearrange storedMembers_moves object.json object.unique

/-- The columns of a record. -/
structure ProvenanceRecord where
  id : String
  agentId : String
  userId : Option String
  action : ProvenanceAction
  input : JsonObject
  output : Option JsonObject
  provider : Option String
  providerModel : Option String
  status : ProvenanceStatus
  error : Option String
  onChainTxHash : Option String
  signature : String
  recordHash : String
  processingDurationMs : Option Nat
  metadata : Option JsonObject
  createdAt : Nat
  clientIp : Option String
  userAgent : Option String

abbrev ProvenanceTable := Table ProvenanceRecord ProvenanceRecord.id

/-- The record that the columns return; the uuid column may refuse a text. -/
def ProvenanceRecord.stored (uuid : String → Option String) (record : ProvenanceRecord) :
    Option ProvenanceRecord :=
  let row := { record with
    input := record.input.stored
    output := record.output.map JsonObject.stored
    metadata := record.metadata.map JsonObject.stored }
  match record.userId with
  | none => some row
  | some userId => (uuid userId).map fun stored => { row with userId := some stored }

structure ProvenanceResponseDto where
  id : String
  agentId : String
  userId : Option String
  action : ProvenanceAction
  input : JsonObject
  output : Option JsonObject
  provider : Option String
  providerModel : Option String
  status : ProvenanceStatus
  error : Option String
  onChainTxHash : Option String
  signature : String
  recordHash : String
  processingDurationMs : Option Nat
  metadata : Option JsonObject
  createdAt : Nat
  clientIp : Option String
  userAgent : Option String

structure ProvenanceUpdates where
  output : Option JsonObject
  status : Option ProvenanceStatus
  error : Option String
  onChainTxHash : Option String
  processingDurationMs : Option Nat

structure ProvenanceVerificationResult where
  isValid : Bool
  recordId : String
  recordHash : String
  error : Option String
  deriving DecidableEq

/-! ## Hashes and signatures -/

/-- The `ethers` package: `wallet` and `verifyMessage` may throw, `keccak256` hashes the UTF-8 bytes of
a text. -/
structure Ethers where
  Wallet : Type
  wallet : String → Option Wallet
  address : Wallet → String
  signMessageSync : Wallet → String → String
  verifyMessage : String → String → Option String
  keccak256 : String → String

namespace ProvenanceService

def hashRecordData (ethers : Ethers) (dto : CreateProvenanceRecordDto) (now : Nat) : String :=
  ethers.keccak256 (sortedString dto now)

def placeholderSignature : String := "0x" ++ String.ofList (List.replicate 130 '0')

def generateSignature (ethers : Ethers) (signingKey hash : String) : String :=
  match ethers.wallet signingKey with
  | none => placeholderSignature
  | some wallet => ethers.signMessageSync wallet hash

def verifySignatureAgainstHash (ethers : Ethers) (signingKey hash signature : String) : Bool :=
  match ethers.verifyMessage hash signature with
  | none => false
  | some recoveredAddress =>
    match ethers.wallet signingKey with
    | none => false
    | some wallet => toLowerCase recoveredAddress == toLowerCase (ethers.address wallet)

/-! ## Methods -/

/-- `|| undefined` -/
def orUndefined (text : Option String) : Option String := text.filter fun text => text != ""

def toResponseDto (record : ProvenanceRecord) : ProvenanceResponseDto where
  id := record.id
  agentId := record.agentId
  userId := orUndefined record.userId
  action := record.action
  input := record.input
  output := record.output
  provider := orUndefined record.provider
  providerModel := orUndefined record.providerModel
  status := record.status
  error := orUndefined record.error
  onChainTxHash := orUndefined record.onChainTxHash
  signature := record.signature
  recordHash := record.recordHash
  processingDurationMs := record.processingDurationMs.filter (· != 0)
  metadata := record.metadata
  createdAt := record.createdAt
  clientIp := orUndefined record.clientIp
  userAgent := orUndefined record.userAgent

/-- The record that is created, with the id and the time that it gets when it is saved. -/
def newRecord (ethers : Ethers) (signingKey id : String) (dto : CreateProvenanceRecordDto)
    (now savedAt : Nat) : ProvenanceRecord :=
  let recordHash := hashRecordData ethers dto now
  { id
    agentId := dto.agentId
    userId := dto.userId
    action := dto.action
    input := dto.input
    output := dto.output
    provider := dto.provider
    providerModel := dto.providerModel
    status := dto.status
    error := dto.error
    onChainTxHash := dto.onChainTxHash
    signature := generateSignature ethers signingKey recordHash
    recordHash
    processingDurationMs := dto.processingDurationMs
    metadata := dto.metadata
    createdAt := savedAt
    clientIp := dto.clientIp
    userAgent := dto.userAgent }

def saveFailed : Exception := .error "The record could not be saved"

def createProvenanceRecord (ethers : Ethers) (uuid : String → Option String) (signingKey id : String)
    (dto : CreateProvenanceRecordDto) (now savedAt : Nat) (table : ProvenanceTable) :
    Except Exception (ProvenanceTable × ProvenanceResponseDto) :=
  let record := newRecord ethers signingKey id dto now savedAt
  match record.stored uuid, table.findOne id with
  | some row, none => .ok (table.save row, toResponseDto record)
  | _, _ => .error saveFailed

def updated (record : ProvenanceRecord) (updates : ProvenanceUpdates) : ProvenanceRecord :=
  { record with
    output := (updates.output.or record.output)
    status := updates.status.getD record.status
    error := updates.error.or record.error
    onChainTxHash := updates.onChainTxHash.or record.onChainTxHash
    processingDurationMs := updates.processingDurationMs.or record.processingDurationMs }

/-- Only the columns that differ are written, so that the others return what they did. -/
def updateProvenanceRecord (id : String) (updates : ProvenanceUpdates) (table : ProvenanceTable) :
    Except Exception (ProvenanceTable × ProvenanceResponseDto) :=
  match table.findOne id with
  | none => .error (.notFound ("Provenance record " ++ id ++ " not found"))
  | some record =>
    let stored := { updates with output := updates.output.map JsonObject.stored }
    .ok (table.save (updated record stored), toResponseDto (updated record updates))

/-- The data of a record, as they are read back. -/
def reread (record : ProvenanceRecord) : CreateProvenanceRecordDto where
  agentId := record.agentId
  userId := orUndefined record.userId
  action := record.action
  input := record.input
  output := record.output
  provider := orUndefined record.provider
  providerModel := orUndefined record.providerModel
  status := record.status
  error := orUndefined record.error
  onChainTxHash := orUndefined record.onChainTxHash
  processingDurationMs := record.processingDurationMs.filter (· != 0)
  metadata := record.metadata
  clientIp := orUndefined record.clientIp
  userAgent := orUndefined record.userAgent

def verifySignature (ethers : Ethers) (signingKey id : String) (now : Nat) (table : ProvenanceTable) :
    ProvenanceVerificationResult :=
  match table.findOne id with
  | none => ⟨false, id, "", some "Record not found"⟩
  | some record =>
    let computedHash := hashRecordData ethers (reread record) now
    if computedHash ≠ record.recordHash then
      ⟨false, id, record.recordHash, some "Record hash mismatch - data may have been tampered with"⟩
    else
      let isValid := verifySignatureAgainstHash ethers signingKey record.recordHash record.signature
      ⟨isValid, id, record.recordHash, if isValid then none else some "Invalid signature"⟩

end ProvenanceService

/-- What happens to the records: the calls that write, and changes from outside, which leave a record its
hash and signature. -/
inductive ProvenanceStep where
  | create (id : String) (dto : CreateProvenanceRecordDto) (now savedAt : Nat)
  | update (id : String) (updates : ProvenanceUpdates)
  | outside (row : ProvenanceRecord)

namespace ProvenanceService

/-- A row as it is after a change from outside. -/
def overwritten (old row : ProvenanceRecord) : ProvenanceRecord :=
  { row with recordHash := old.recordHash, signature := old.signature }

def afterStep (ethers : Ethers) (uuid : String → Option String) (signingKey : String)
    (table : ProvenanceTable) : ProvenanceStep → ProvenanceTable
  | .create id dto now savedAt =>
    match createProvenanceRecord ethers uuid signingKey id dto now savedAt table with
    | .ok (after, _) => after
    | .error _ => table
  | .update id updates =>
    match updateProvenanceRecord id updates table with
    | .ok (after, _) => after
    | .error _ => table
  | .outside row =>
    match table.findOne row.id with
    | some old => table.save (overwritten old row)
    | none => table

def afterSteps (ethers : Ethers) (uuid : String → Option String) (signingKey : String)
    (table : ProvenanceTable) (steps : List ProvenanceStep) : ProvenanceTable :=
  steps.foldl (afterStep ethers uuid signingKey) table

def isOperation : ProvenanceStep → Bool
  | .create _ _ _ _ | .update _ _ => true
  | .outside _ => false

end ProvenanceService

end AlianStructure.Source.Audit
