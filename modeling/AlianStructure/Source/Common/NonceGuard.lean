import AlianStructure.Library.Interleaving
import AlianStructure.Library.KeyedTable
import AlianStructure.Source.Common.BigIntText
import AlianStructure.Source.Exception

/-!
# The guard against replayed nonces

Source: src/common/guard/nonce.guard.ts:23-57 and blockchain/oracle/entities/submission-nonce.entity.ts.
A row is known by its address, which is unique; the columns that the guard neither reads nor writes are
left out. A nonce column is a number, read from the text that is saved as the database reads a bigint.
A save is answered after it has taken effect, without it, or fails after it.
-/
namespace AlianStructure.Source.Common
open Library.AsyncMethod Library.Interleaving Library.KeyedTable Library.JsonText

/-- How the database reads the text of a bigint. It agrees with the language on what both read, and
reads in addition only texts with a separator or a radix. -/
structure BigIntInput where
  read : String → Option Int
  agrees : ∀ text n m, read text = some n → bigIntOfText text = some m → n = m
  grammar : ∀ text n, read text = some n → bigIntOfText text = some n ∨
    ∃ c ∈ text.toList, c ∈ ['_', 'x', 'X', 'o', 'O', 'b', 'B']

/-- A row of submission_nonces. -/
structure SubmissionNonce where
  address : String
  nonce : Int
  deriving DecidableEq

/-- An entity to be saved, its nonce being a text. -/
structure NonceEntity where
  address : String
  nonce : String
  deriving DecidableEq

/-- The awaited operations. `save` tells an entity that was loaded, with the row it was loaded from,
from a created one. -/
inductive GuardOp where
  | findOne (address : String)
  | save (loaded : Option SubmissionNonce) (entity : NonceEntity)
  deriving DecidableEq

abbrev GuardOp.Reply : GuardOp → Type
  | .findOne _ => Option SubmissionNonce
  | .save _ _ => Unit

/-- What the guard reads of a request body. -/
structure GuardedBody where
  nonce : Option Json
  userId : Option Json

abbrev guarding : Runtime where
  Op := GuardOp
  Reply := GuardOp.Reply
  Mem := Unit
  Err := Exception
  Call := GuardedBody
  Val := Bool

namespace NonceGuard

def ask (op : GuardOp) : Async guarding op.Reply := Async.perform (R := guarding) op

/-- A value that was sent and is not falsy. -/
def sent (value : Option Json) : Option Json := value.filter isTruthy

def convert {α : Type} (message : String) : Option α → Async guarding α
  | some value => pure value
  | none => throw (.error message)

def canActivate (body : GuardedBody) : Async guarding Bool := do
  match sent body.nonce, sent body.userId with
  | some nonce, some userId => do
    let key ← convert "Cannot convert object to primitive value" (textOf userId)
    let nonceEntity ← ask (.findOne key)
    match nonceEntity with
    | some nonceEntity => do
      let currentNonce ← convert "Cannot convert the nonce to a BigInt" (bigIntOf nonce)
      if currentNonce ≤ nonceEntity.nonce then
        throw (.conflict "Nonce already used (replay attack detected)")
      else do
        let text ← convert "nonce.toString is not a function" (textOf nonce)
        ask (.save (some nonceEntity) ⟨nonceEntity.address, text⟩)
        pure true
    | none => do
      let text ← convert "nonce.toString is not a function" (textOf nonce)
      ask (.save none ⟨key, text⟩)
      pure true
  | _, _ => throw (.badRequest "Nonce and userId are required")

end NonceGuard

abbrev Nonces := Table SubmissionNonce SubmissionNonce.address

inductive GuardAnswer where
  | done
  | fails (failure : Exception)
  | lost (failure : Exception)
  deriving DecidableEq

/-- The table after a save, when its constraints are met: the text is a bigint, a new address has at
most 42 characters and is not there yet. -/
def saveNonce (input : BigIntInput) (table : Nonces) (loaded : Option SubmissionNonce)
    (entity : NonceEntity) : Option Nonces :=
  match input.read entity.nonce with
  | none => none
  | some nonce =>
    match loaded, table.findOne entity.address with
    | none, some _ => none
    | _, some _ => some (table.save ⟨entity.address, nonce⟩)
    | _, none =>
      if entity.address.length ≤ 42 then some (table.save ⟨entity.address, nonce⟩) else none

def respond (input : BigIntInput) (table : Nonces) (op : GuardOp) (answer : GuardAnswer) :
    Option (Nonces × Except Exception op.Reply) :=
  match answer, op with
  | .fails failure, _ => some (table, .error failure)
  | .done, .findOne address => some (table, .ok (table.findOne address))
  | .done, .save loaded entity => (saveNonce input table loaded entity).map (·, .ok ())
  | .lost failure, .save loaded entity =>
    (saveNonce input table loaded entity).map (·, .error failure)
  | .lost _, .findOne _ => none

/-- Any number of guarded requests. -/
abbrev guardProcess (input : BigIntInput) : Service guarding where
  World := Nonces
  Choice := GuardAnswer
  Env := Empty
  respond := respond input
  environment state _ := state
  isPublic _ := true
  body := NonceGuard.canActivate

end AlianStructure.Source.Common
