import AlianStructure.Library.DecimalColumn
import AlianStructure.Library.KeyedTable
import AlianStructure.Source.Exception

/-!
# Yields of positions

Source: src/defi/services/position-tracking.service.ts:322-376 and the two entities. A query by ids returns every row
that has one of them once. The decimal columns have no transformer: the driver reads them as texts, and `+` joins texts.
-/
namespace AlianStructure.Source.Defi.PositionTrackingService
open Library.DecimalColumn Library.KeyedTable

/-- `decimal(36, 18)` -/
abbrev amountColumn : Column := ⟨36, 18, by decide⟩

/-- `decimal(5, 2)` -/
abbrev rateColumn : Column := ⟨5, 2, by decide⟩

structure DeFiPosition where
  id : String
  accumulatedYield : amountColumn.Value
  deriving DecidableEq

structure DeFiYieldRecord where
  id : String
  positionId : String
  amount : amountColumn.Value
  tokenSymbol : String
  tokenValue : amountColumn.Value
  apy : rateColumn.Value
  yieldType : String
  claimed : Bool
  claimDate : Option Nat
  deriving DecidableEq

structure YieldData where
  amount : ℚ
  tokenSymbol : String
  tokenValue : ℚ
  apy : Option ℚ
  yieldType : String
  deriving DecidableEq

/-- A sum that starts with the number 0, and is a text after the first `+`. -/
inductive Total where
  | zero
  | text (chars : List Char)
  deriving DecidableEq

def Total.chars : Total → List Char
  | zero => ['0']
  | text chars => chars

structure ClaimResult where
  totalClaimed : Total
  recordsClaimed : Nat
  timestamp : Nat
  deriving DecidableEq

structure Tracking where
  positions : Table DeFiPosition DeFiPosition.id
  yields : Table DeFiYieldRecord DeFiYieldRecord.id

/-- The record as it is stored, when its numbers fit. -/
def newYield (id positionId : String) (data : YieldData) : Option DeFiYieldRecord := do
  let amount ← amountColumn.store data.amount
  let tokenValue ← amountColumn.store data.tokenValue
  let apy ← rateColumn.store (data.apy.getD 0)
  pure {
    id, positionId, amount
    tokenSymbol := data.tokenSymbol
    tokenValue, apy
    yieldType := data.yieldType
    claimed := false
    claimDate := none }

/-- The database makes the id up; one that is taken is refused. Nothing refers from `position_id` to the positions. -/
def recordYield (tracking : Tracking) (id positionId : String) (data : YieldData) : Tracking :=
  if (tracking.yields.findOne id).isSome then tracking
  else match newYield id positionId data with
    | some record => { tracking with yields := tracking.yields.save record }
    | none => tracking

/-- The rows with one of the ids. -/
def findByIds (tracking : Tracking) (yieldIds : List String) : List DeFiYieldRecord :=
  tracking.yields.rows.filter fun record => decide (record.id ∈ yieldIds)

def markClaimed (now : Nat) (record : DeFiYieldRecord) : DeFiYieldRecord :=
  { record with claimed := true, claimDate := some now }

def totalOf (records : List DeFiYieldRecord) : Total :=
  records.foldl (fun sum record => .text (sum.chars ++ record.tokenValue.text)) .zero

/-- The records are marked first, and stay so when the position is refused. -/
def claimYield (tracking : Tracking) (positionId : String) (yieldIds : List String) (now : Nat) :
    Tracking × Except Exception ClaimResult :=
  let records := findByIds tracking yieldIds
  let totalClaimed := totalOf records
  let updateData := records.map (markClaimed now)
  let tracking := { tracking with yields := tracking.yields.saveAll updateData }
  let result := { totalClaimed, recordsClaimed := records.length, timestamp := now }
  match tracking.positions.findOne positionId with
  | none => (tracking, .ok result)
  | some position =>
    match position.accumulatedYield.join totalClaimed.chars with
    | none => (tracking, .error (.error "invalid input syntax for type numeric"))
    | some accumulatedYield =>
      ({ tracking with positions := tracking.positions.save { position with accumulatedYield } }, .ok result)

end AlianStructure.Source.Defi.PositionTrackingService
