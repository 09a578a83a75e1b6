import Mathlib
import AlianStructure.Source.Exception

/-!
# Keyset cursors

Source: src/common/pagination/cursor-pagination.service.ts:5-99. A cursor is the payload that its
text encodes. An id is the number that its text writes in hexadecimal: the database compares ids as
such. Stored times are in microseconds, dates in milliseconds.
-/
namespace AlianStructure.Source.Pagination

structure Uuid where
  value : Fin (2 ^ 128)
  deriving DecidableEq

theorem Uuid.eq_of_val {a b : Uuid} (same : a.value.val = b.value.val) : a = b := by
  cases a
  cases b
  exact congrArg Uuid.mk (Fin.ext same)

/-- A date as it is read from a stored time, and as it is compared with one. -/
def toDate (micros : Int) : Int := micros / 1000

def fromDate (millis : Int) : Int := millis * 1000

theorem fromDate_toDate_le (micros : Int) : fromDate (toDate micros) ≤ micros := by
  unfold fromDate toDate
  omega

structure CursorPosition where
  createdAt : Int
  id : Uuid
  deriving DecidableEq

structure EncodedCursor where
  v : Nat
  createdAt : Int
  id : Uuid
  deriving DecidableEq

namespace CursorPaginationService

def CURSOR_VERSION : Nat := 1

def invalidCursor : Exception := .badRequest "Invalid pagination cursor"

/-- The version digit is from 1 to 8, the variant digit from 8 to b. -/
def UUID_PATTERN (id : Uuid) : Bool :=
  let version := id.value.val / 2 ^ 76 % 16
  let variant := id.value.val / 2 ^ 60 % 16
  decide (1 ≤ version ∧ version ≤ 8) && decide (8 ≤ variant ∧ variant ≤ 11)

def assertPosition (position : CursorPosition) : Except Exception Unit :=
  if UUID_PATTERN position.id then .ok () else .error invalidCursor

def encode (position : CursorPosition) : Except Exception EncodedCursor := do
  assertPosition position
  pure { v := CURSOR_VERSION, createdAt := position.createdAt, id := position.id }

def decode (cursor : EncodedCursor) : Except Exception CursorPosition := do
  if cursor.v ≠ CURSOR_VERSION then throw invalidCursor
  let position : CursorPosition := { createdAt := cursor.createdAt, id := cursor.id }
  assertPosition position
  pure position

section Keyset
variable {T : Type} (createdAt : T → Int) (id : T → Uuid)

/-- By creation and id, the latest first. -/
def descending (a b : T) : Prop :=
  createdAt b < createdAt a ∨ (createdAt b = createdAt a ∧ (id b).value ≤ (id a).value)

instance (a b : T) : Decidable (descending createdAt id a b) :=
  inferInstanceAs (Decidable (_ ∨ _))

/-- The condition on the rows after a position. -/
def isAfter (position : CursorPosition) (row : T) : Bool :=
  decide (createdAt row < fromDate position.createdAt ∨
    (createdAt row = fromDate position.createdAt ∧ (id row).value < position.id.value))

def applyDescendingKeyset (rows : List T) (cursor : Option EncodedCursor) :
    Except Exception (List T) := do
  match cursor with
  | none => pure (rows.insertionSort (descending createdAt id))
  | some cursor =>
    let position ← decode cursor
    pure ((rows.filter (isAfter createdAt id position)).insertionSort (descending createdAt id))

theorem applyDescendingKeyset_some {rows : List T} {cursor : EncodedCursor}
    {position : CursorPosition} (decoded : decode cursor = .ok position) :
    applyDescendingKeyset createdAt id rows (some cursor) =
      .ok ((rows.filter (isAfter createdAt id position)).insertionSort (descending createdAt id)) := by
  simp only [applyDescendingKeyset, decoded]
  rfl

end Keyset

end CursorPaginationService

end AlianStructure.Source.Pagination
