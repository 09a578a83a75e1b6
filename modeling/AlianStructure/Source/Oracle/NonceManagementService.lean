import AlianStructure.Library.Interleaving
import AlianStructure.Library.KeyedTable
import AlianStructure.Source.Exception

/-!
# Nonces per address

Source: src/blockchain/oracle/services/nonce-management.service.ts:13-143,214-268 and
entities/submission-nonce.entity.ts. A nonce is kept as a number and not as its decimal
text. `getAddress` of the ethers library is a parameter; it throws on a malformed
address. The save of a transaction and its commit are one operation, and the row lock
taken by findOne exists only when the row does. Times are epoch milliseconds, a day is
24 hours.
-/
namespace AlianStructure.Source.Oracle
open Library.AsyncMethod Library.Interleaving Library.KeyedTable

/-- A row of submission_nonces. -/
structure SubmissionNonce where
  address : String
  nonce : Nat
  lastUsedAt : Option Nat
  deriving DecidableEq

structure CachedNonce where
  address : String
  nonce : Nat
  lastFetch : Nat
  deriving DecidableEq

/-- The awaited operations. `saveInTransaction` tells an entity loaded from the table
(an UPDATE) from a created one (an INSERT); `save` is always an INSERT. -/
inductive NonceOp where
  | findOne (address : String)
  | save (entity : SubmissionNonce)
  | findOneForUpdate (address : String)
  | saveInTransaction (loaded : Bool) (entity : SubmissionNonce)
  | delete (cutoffDate : Int)
  deriving DecidableEq

abbrev NonceOp.Reply : NonceOp → Type
  | .findOne _ | .findOneForUpdate _ => Option SubmissionNonce
  | .save _ | .saveInTransaction _ _ => Unit
  | .delete _ => Nat

/-- The clock and the cache of the process. -/
structure NonceMemory where
  now : Nat
  nonceCache : Table CachedNonce CachedNonce.address

inductive NonceCall where
  | getCurrentNonce (address : String)
  | getAndIncrementNonce (address : String)
  | validateNonce (address : String) (nonce : Nat)
  | clearStaleCache
  | cleanupOldNonces (daysInactive : Int)
  deriving DecidableEq

inductive NonceValue where
  | nothing
  | nonce (n : Nat)
  | valid (isValid : Bool)
  | deleted (count : Nat)
  deriving DecidableEq

abbrev nonces : Runtime where
  Op := NonceOp
  Reply := NonceOp.Reply
  Mem := NonceMemory
  Err := Exception
  Call := NonceCall
  Val := NonceValue

abbrev NonceM := Async nonces

namespace NonceManagementService

def cacheTtl : Nat := 60000

/-- The checksum form of an address, or the exception of the library. -/
def checksum (getAddress : String → Except Exception String) (address : String) : NonceM String :=
  .done (getAddress address)

def invalidate (address : String) : NonceM Unit :=
  Async.update (R := nonces) fun memory =>
    { memory with
      nonceCache := memory.nonceCache.delete fun cached => decide (cached.address = address) }

/-- The part of getCurrentNonce behind the cache. -/
def fetchNonce (address : String) : NonceM Nat := do
  let found ← Async.perform (R := nonces) (.findOne address)
  let nonceEntity ← (match found with
    | some nonceEntity => pure nonceEntity
    | none => do
      let nonceEntity : SubmissionNonce := ⟨address, 0, none⟩
      Async.perform (R := nonces) (.save nonceEntity)
      pure nonceEntity : NonceM SubmissionNonce)
  Async.update (R := nonces) fun memory =>
    { memory with nonceCache := memory.nonceCache.save ⟨address, nonceEntity.nonce, memory.now⟩ }
  pure nonceEntity.nonce

def getCurrentNonce (getAddress : String → Except Exception String) (address : String) :
    NonceM Nat := do
  let checksumAddress ← checksum getAddress address
  let memory ← Async.memory
  match memory.nonceCache.findOne (toLowerCase checksumAddress) with
  | some cached =>
    if memory.now - cached.lastFetch < cacheTtl then pure cached.nonce
    else fetchNonce (toLowerCase checksumAddress)
  | none => fetchNonce (toLowerCase checksumAddress)

def getAndIncrementNonce (getAddress : String → Except Exception String) (address : String) :
    NonceM Nat := do
  let checksumAddress ← checksum getAddress address
  let found ← Async.perform (R := nonces) (.findOneForUpdate (toLowerCase checksumAddress))
  let nonceEntity := found.getD ⟨toLowerCase checksumAddress, 0, none⟩
  let memory ← Async.memory
  Async.perform (R := nonces) (.saveInTransaction found.isSome
    { nonceEntity with nonce := nonceEntity.nonce + 1, lastUsedAt := some memory.now })
  invalidate (toLowerCase checksumAddress)
  pure nonceEntity.nonce

def validateNonce (getAddress : String → Except Exception String) (address : String)
    (nonce : Nat) : NonceM Bool := do
  let checksumAddress ← checksum getAddress address
  let currentNonce ← getCurrentNonce getAddress checksumAddress
  pure (decide (nonce = currentNonce))

def clearStaleCache : NonceM Unit :=
  Async.update (R := nonces) fun memory =>
    { memory with
      nonceCache := memory.nonceCache.delete fun cached =>
        decide (cacheTtl < memory.now - cached.lastFetch) }

def cleanupOldNonces (daysInactive : Int) : NonceM Nat := do
  let memory ← Async.memory
  Async.perform (R := nonces) (.delete (memory.now - daysInactive * 86400000))

end NonceManagementService

def nonceBody (getAddress : String → Except Exception String) : NonceCall → NonceM NonceValue
  | .getCurrentNonce address => do
    let nonce ← NonceManagementService.getCurrentNonce getAddress address
    pure (.nonce nonce)
  | .getAndIncrementNonce address => do
    let nonce ← NonceManagementService.getAndIncrementNonce getAddress address
    pure (.nonce nonce)
  | .validateNonce address nonce => do
    let isValid ← NonceManagementService.validateNonce getAddress address nonce
    pure (.valid isValid)
  | .clearStaleCache => do
    NonceManagementService.clearStaleCache
    pure .nothing
  | .cleanupOldNonces daysInactive => do
    let count ← NonceManagementService.cleanupOldNonces daysInactive
    pure (.deleted count)

/-- The table with the addresses whose rows are locked. -/
structure NonceWorld where
  rows : Table SubmissionNonce SubmissionNonce.address
  locked : List String

inductive NonceOutcome where
  | done
  | fails (failure : Exception)
  deriving DecidableEq

/-- The largest value of a bigint column. -/
def bigintMax : Nat := 2 ^ 63 - 1

def duplicateKey : Exception :=
  .error "duplicate key value violates unique constraint on submission_nonces.address"

/-- An INSERT: it fails when the address is taken. -/
def NonceWorld.insert (world : NonceWorld) (entity : SubmissionNonce) :
    NonceWorld × Except Exception Unit :=
  match world.rows.findOne entity.address with
  | none => ({ world with rows := world.rows.save entity }, .ok ())
  | some _ => (world, .error duplicateKey)

def NonceWorld.unlock (world : NonceWorld) (address : String) : NonceWorld :=
  { world with locked := world.locked.filter fun other => decide (other ≠ address) }

/-- The rows that cleanupOldNonces deletes; a row never used has no date to compare. -/
def SubmissionNonce.inactive (cutoffDate : Int) (row : SubmissionNonce) : Bool :=
  match row.lastUsedAt with
  | some lastUsedAt => decide (lastUsedAt < cutoffDate) && decide (row.nonce = 0)
  | none => false

/-- `none` means that the operation waits for a row lock. The end of a transaction that
has locked its row, committed or rolled back, unlocks it. -/
def NonceWorld.respond (world : NonceWorld) (op : NonceOp) (outcome : NonceOutcome) :
    Option (NonceWorld × Except Exception op.Reply) :=
  match op, outcome with
  | .findOne address, .done => some (world, .ok (world.rows.findOne address))
  | .save entity, .done => some (world.insert entity)
  | .findOneForUpdate address, .done =>
    match world.rows.findOne address with
    | none => some (world, .ok none)
    | some row =>
      if address ∈ world.locked then none
      else some ({ world with locked := address :: world.locked }, .ok (some row))
  | .saveInTransaction false entity, .done => some (world.insert entity)
  | .saveInTransaction true entity, .done =>
    if entity.nonce ≤ bigintMax then
      some ({ world.unlock entity.address with rows := world.rows.save entity }, .ok ())
    else none
  | .saveInTransaction true entity, .fails failure =>
    some (world.unlock entity.address, .error failure)
  | .delete cutoffDate, .done =>
    let inactive := world.rows.rows.filter (·.inactive cutoffDate)
    if inactive.any fun row => decide (row.address ∈ world.locked) then none
    else some ({ world with rows := world.rows.delete (·.inactive cutoffDate) },
      .ok inactive.length)
  | _, .fails failure => some (world, .error failure)

/-- Time passes. -/
def nonceEnvironment (state : NonceWorld × NonceMemory) (ms : Nat) : NonceWorld × NonceMemory :=
  (state.1, { state.2 with now := state.2.now + ms })

/-- The service without its administrative methods. -/
abbrev nonceProcess (getAddress : String → Except Exception String) : Service nonces where
  World := NonceWorld
  Choice := NonceOutcome
  Env := Nat
  respond := NonceWorld.respond
  environment := nonceEnvironment
  isPublic _ := true
  body := nonceBody getAddress

end AlianStructure.Source.Oracle
