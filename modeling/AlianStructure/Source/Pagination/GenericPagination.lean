import Mathlib.Data.List.Sort
import AlianStructure.Library.JsonText
import AlianStructure.Source.Exception

/-!
# The generic cursor

Source: src/common/pagination/cursor-pagination.service.ts:101-151,179-206. A cursor is the record that its text
encodes, or a text that encodes none; an empty text is no cursor. The table has the rows that the additional conditions
select. How the database reads the value of a cursor as one of the column, or refuses it, is a parameter; null is the
greatest value of a column and is compared with none.
-/
namespace AlianStructure.Source.Pagination
open Library.JsonText

inductive Direction where
  | forward | backward
  deriving DecidableEq

inductive OrderDirection where
  | ASC | DESC
  deriving DecidableEq

/-- The properties of a row that a cursor has; one that is undefined is left out. -/
structure LegacyRecord where
  id : Option Json
  createdAt : Option Json
  updatedAt : Option Json

inductive LegacyCursor where
  | encoded (record : LegacyRecord)
  | malformed

structure CursorOptions where
  cursor : Option LegacyCursor
  limit : Nat
  direction : Direction
  orderBy : String
  orderDirection : OrderDirection

structure PaginationResult (T : Type) where
  data : List T
  nextCursor : Option LegacyCursor
  prevCursor : Option LegacyCursor
  hasMore : Bool
  hasPrevious : Bool

/-- A table, whose ids are different. -/
structure Repository (T V : Type) [LinearOrder V] where
  rows : List T
  value : String → T → WithTop V
  record : T → LegacyRecord
  read : String → Option Json → Except Exception (Option V)
  unique : (rows.map (value "id")).Nodup

/-- A value that counts as true. -/
def truthy : Option Json → Bool
  | none | some .null => false
  | some (.bool value) => value
  | some (.number text) => decide (text.chars ≠ ['0'])
  | some (.string text) => decide (text ≠ "")
  | some (.array _) | some (.object _) => true

namespace GenericPagination

inductive Operator where
  | above | below
  deriving DecidableEq

def getCursorOperator : Direction → OrderDirection → Operator
  | .forward, .ASC | .backward, .DESC => .above
  | .forward, .DESC | .backward, .ASC => .below

def encodeLegacyCursor (record : LegacyRecord) : LegacyCursor := .encoded record

def decodeLegacyCursor : LegacyCursor → Except Exception (Option Json)
  | .encoded record => .ok (if truthy record.createdAt then record.createdAt else record.id)
  | .malformed => .error (.error "Invalid cursor format")

variable {T V : Type} [LinearOrder V] (repository : Repository T V)

/-- By the column, and by the id where it is another column. -/
def ascends (orderBy : String) (a b : T) : Prop :=
  repository.value orderBy a < repository.value orderBy b ∨
    (repository.value orderBy a = repository.value orderBy b ∧
      (orderBy = "id" ∨ repository.value "id" a ≤ repository.value "id" b))

instance (orderBy : String) : DecidableRel (ascends repository orderBy) :=
  fun _ _ => inferInstanceAs (Decidable (_ ∨ _))

def before (orderBy : String) : OrderDirection → T → T → Prop
  | .ASC, a, b => ascends repository orderBy a b
  | .DESC, a, b => ascends repository orderBy b a

instance (orderBy : String) : ∀ orderDirection : OrderDirection,
    DecidableRel (before repository orderBy orderDirection)
  | .ASC, a, b => inferInstanceAs (Decidable (ascends repository orderBy a b))
  | .DESC, a, b => inferInstanceAs (Decidable (ascends repository orderBy b a))

/-- `column operator :cursor` -/
def compares : Operator → WithTop V → Option V → Bool
  | .above, some value, some cursor => decide (cursor < value)
  | .below, some value, some cursor => decide (value < cursor)
  | _, _, _ => false

/-- The rows of the query, in its order, up to one more than the limit. -/
def createCursorQuery (options : CursorOptions) : Except Exception (List T) := do
  let selected ← match options.cursor with
    | none => pure repository.rows
    | some cursor =>
      let decoded ← decodeLegacyCursor cursor
      let value ← repository.read options.orderBy decoded
      pure (repository.rows.filter fun row =>
        compares (getCursorOperator options.direction options.orderDirection)
          (repository.value options.orderBy row) value)
  pure ((selected.insertionSort (before repository options.orderBy options.orderDirection)).take (options.limit + 1))

def paginateWithCursor (options : CursorOptions) : Except Exception (PaginationResult T) := do
  let results ← createCursorQuery repository options
  let hasMore := decide (options.limit < results.length)
  let hasPrevious := options.cursor.isSome
  let trimmed := if hasMore then results.dropLast else results
  let data := if options.direction = .backward then trimmed.reverse else trimmed
  pure {
    data := data
    nextCursor := if hasMore then data.getLast?.map fun row => encodeLegacyCursor (repository.record row) else none
    prevCursor := if hasPrevious then data.head?.map fun row => encodeLegacyCursor (repository.record row) else none
    hasMore := hasMore
    hasPrevious := hasPrevious }

end GenericPagination

end AlianStructure.Source.Pagination
