import Mathlib.Data.Rat.Cast.Order
import AlianStructure.Library.KeyedTable
import AlianStructure.Source.Exception

/-!
# Staking

Source: src/defi/services/staking.service.ts:34-258 with dto/staking.dto.ts, the two entities and
protocols/protocol-registry.ts:29-35. What an adapter and the database answer is handed to a method beside
its arguments. Amounts are exact: the methods convert the texts of the decimal columns before they add.
-/
namespace AlianStructure.Source.Defi
open Library.KeyedTable

structure DeFiPosition where
  id : String
  accumulatedYield : ℚ
  deriving DecidableEq

structure DeFiYieldRecord where
  id : String
  positionId : String
  amount : ℚ
  tokenSymbol : String
  tokenValue : ℚ
  apy : ℚ
  yieldType : String
  claimed : Bool
  claimDate : Option Nat
  deriving DecidableEq

inductive DeFiProtocol where
  | aave | compound | yearn | lido | curve | uniswap | balancer | convex | maker | arbitrum
  deriving DecidableEq

def DeFiProtocol.text : DeFiProtocol → String
  | .aave => "aave"
  | .compound => "compound"
  | .yearn => "yearn"
  | .lido => "lido"
  | .curve => "curve"
  | .uniswap => "uniswap"
  | .balancer => "balancer"
  | .convex => "convex"
  | .maker => "maker"
  | .arbitrum => "arbitrum"

inductive PositionType where
  | lending | borrowing | lp | staking | farming | vault | derivative
  deriving DecidableEq

inductive PositionStatus where
  | active | closed | liquidationRisk | liquidated | paused
  deriving DecidableEq

/-- A position with the columns that staking reads and writes. -/
structure StakingPosition extends DeFiPosition where
  userId : String
  protocol : DeFiProtocol
  positionType : PositionType
  status : PositionStatus
  contractAddress : String
  walletAddress : String
  tokenSymbol : String
  principalAmount : ℚ
  currentAmount : ℚ
  apy : ℚ
  autoCompoundEnabled : Bool
  createdAt : Nat
  deriving DecidableEq

/-- `@Min(0)` on the amount. -/
structure StakeDto where
  protocol : DeFiProtocol
  walletAddress : String
  tokenSymbol : String
  amount : ℚ≥0
  autoCompound : Option Bool

/-- `@Min(0)` on the amount. -/
structure UnstakeDto where
  positionId : String
  amount : ℚ≥0

structure RewardData where
  token : String
  amount : ℚ
  valueUSD : ℚ
  apy : ℚ
  claimable : Bool
  deriving DecidableEq

structure StakingPositionResponse where
  id : String
  protocol : DeFiProtocol
  walletAddress : String
  tokenSymbol : String
  stakedAmount : ℚ
  currentValue : ℚ
  accumulatedRewards : ℚ
  apy : ℚ
  autoCompound : Bool
  createdAt : Nat
  deriving DecidableEq

structure StakingTables where
  positions : Table StakingPosition fun position => position.id
  yields : Table DeFiYieldRecord DeFiYieldRecord.id

/-- What an operation leaves, and its answer. -/
abbrev Done (α : Type) := StakingTables × Except Exception α

def getAdapter (registered : DeFiProtocol → Bool) (protocol : DeFiProtocol) : Except Exception Unit :=
  if registered protocol then pure ()
  else throw (.error ("Protocol adapter not found: " ++ protocol.text))

namespace StakingService

def toResponseDto (position : StakingPosition) : StakingPositionResponse where
  id := position.id
  protocol := position.protocol
  walletAddress := position.walletAddress
  tokenSymbol := position.tokenSymbol
  stakedAmount := position.principalAmount
  currentValue := position.currentAmount
  accumulatedRewards := position.accumulatedYield
  apy := position.apy
  autoCompound := position.autoCompoundEnabled
  createdAt := position.createdAt

def findOwnedPosition (tables : StakingTables) (positionId userId : String) : Except Exception StakingPosition :=
  match tables.positions.findOne positionId with
  | some position =>
    if position.userId = userId then pure position
    else throw (.notFound ("Staking position " ++ positionId ++ " not found"))
  | none => throw (.notFound ("Staking position " ++ positionId ++ " not found"))

/-- A save that the database takes or refuses. -/
def savePosition (tables : StakingTables) (position : StakingPosition) (saved : Except Exception Unit) :
    Done StakingPosition :=
  match saved with
  | .ok () => ({ tables with positions := tables.positions.save position }, .ok position)
  | .error failure => (tables, .error failure)

/-- The database makes the id of a new position up; one that is taken is refused. -/
def insertPosition (tables : StakingTables) (position : StakingPosition) (saved : Except Exception Unit) :
    Done StakingPosition :=
  if (tables.positions.findOne position.id).isSome then
    (tables, .error (.error "duplicate key value violates unique constraint"))
  else savePosition tables position saved

def newPosition (userId : String) (dto : StakeDto) (apy : ℚ) (id : String) (now : Nat) : StakingPosition where
  id := id
  accumulatedYield := 0
  userId := userId
  protocol := dto.protocol
  positionType := .staking
  status := .active
  contractAddress := dto.protocol.text
  walletAddress := dto.walletAddress
  tokenSymbol := dto.tokenSymbol
  principalAmount := dto.amount
  currentAmount := dto.amount
  apy := apy
  autoCompoundEnabled := dto.autoCompound.getD false
  createdAt := now

/-- An apy that could not be fetched is 0. -/
def apyOf : (fetchedApy : Except Exception ℚ) → ℚ
  | .ok apy => apy
  | .error _ => 0

def stake (registered : DeFiProtocol → Bool) (tables : StakingTables) (userId : String) (dto : StakeDto)
    (fetchedApy : Except Exception ℚ) (id : String) (now : Nat) (saved : Except Exception Unit) :
    Done StakingPositionResponse :=
  match getAdapter registered dto.protocol with
  | .error failure => (tables, .error failure)
  | .ok () =>
    let (tables, saved) := insertPosition tables (newPosition userId dto (apyOf fetchedApy) id now) saved
    (tables, saved.map toResponseDto)

/-- What is left of a position; nothing left closes it. -/
def reduce (position : StakingPosition) (amount : ℚ) : StakingPosition :=
  let left := max 0 (position.currentAmount - amount)
  { position with
    currentAmount := left
    status := if left = 0 then .closed else position.status }

def unstake (tables : StakingTables) (userId : String) (dto : UnstakeDto) (saved : Except Exception Unit) :
    Done StakingPositionResponse :=
  match findOwnedPosition tables dto.positionId userId with
  | .error failure => (tables, .error failure)
  | .ok position =>
    let (tables, updated) := savePosition tables (reduce position dto.amount) saved
    (tables, updated.map toResponseDto)

def rewardRecord (id positionId : String) (reward : RewardData) (now : Nat) : DeFiYieldRecord where
  id := id
  positionId := positionId
  amount := reward.amount
  tokenSymbol := reward.token
  tokenValue := reward.valueUSD
  apy := reward.apy
  yieldType := "staking_reward"
  claimed := true
  claimDate := some now

/-- The loop of claimRewards over the rewards, each with the answer to the save of its record: the id made
up, or a failure that ends the loop after the reward was counted. -/
def claimEach (positionId : String) (now : Nat) : List (RewardData × Except Exception String) → ℚ →
    Table DeFiYieldRecord DeFiYieldRecord.id → ℚ × Table DeFiYieldRecord DeFiYieldRecord.id
  | [], totalClaimed, yields => (totalClaimed, yields)
  | (reward, stored) :: rest, totalClaimed, yields =>
    if reward.claimable ∧ 0 < reward.amount then
      match stored with
      | .ok id => claimEach positionId now rest (totalClaimed + reward.valueUSD)
          (yields.save (rewardRecord id positionId reward now))
      | .error _ => (totalClaimed + reward.valueUSD, yields)
    else claimEach positionId now rest totalClaimed yields

/-- The try block of claimRewards. -/
def collect (tables : StakingTables) (positionId : String) (now : Nat)
    (rewards : Except Exception (List (RewardData × Except Exception String))) :
    ℚ × Table DeFiYieldRecord DeFiYieldRecord.id :=
  match rewards with
  | .ok rewards => claimEach positionId now rewards 0 tables.yields
  | .error _ => (0, tables.yields)

def claimRewards (registered : DeFiProtocol → Bool) (tables : StakingTables) (userId positionId : String)
    (now : Nat) (rewards : Except Exception (List (RewardData × Except Exception String)))
    (saved : Except Exception Unit) : Done ℚ :=
  match findOwnedPosition tables positionId userId with
  | .error failure => (tables, .error failure)
  | .ok position =>
    match getAdapter registered position.protocol with
    | .error failure => (tables, .error failure)
    | .ok () =>
      let (totalClaimed, yields) := collect tables positionId now rewards
      let (tables, updated) := savePosition { tables with yields }
        { position with accumulatedYield := position.accumulatedYield + totalClaimed } saved
      (tables, updated.map fun _ => totalClaimed)

/-- The amounts of the rewards that can be claimed. -/
def compoundable (rewards : Except Exception (List RewardData)) : ℚ :=
  match rewards with
  | .ok rewards =>
    rewards.foldl (fun total reward => if reward.claimable ∧ 0 < reward.amount then total + reward.amount
      else total) 0
  | .error _ => 0

def autoCompound (registered : DeFiProtocol → Bool) (tables : StakingTables) (userId positionId : String)
    (rewards : Except Exception (List RewardData)) (saved : Except Exception Unit) : Done ℚ :=
  match findOwnedPosition tables positionId userId with
  | .error failure => (tables, .error failure)
  | .ok position =>
    if ! position.autoCompoundEnabled then (tables, .ok 0)
    else match getAdapter registered position.protocol with
      | .error failure => (tables, .error failure)
      | .ok () =>
        let totalCompounded := compoundable rewards
        if 0 < totalCompounded then
          let (tables, updated) := savePosition tables { position with
            currentAmount := position.currentAmount + totalCompounded
            accumulatedYield := position.accumulatedYield + totalCompounded } saved
          (tables, updated.map fun _ => totalCompounded)
        else (tables, .ok totalCompounded)

def setAutoCompound (tables : StakingTables) (userId positionId : String) (enabled : Bool)
    (saved : Except Exception Unit) : Done StakingPositionResponse :=
  match findOwnedPosition tables positionId userId with
  | .error failure => (tables, .error failure)
  | .ok position =>
    let (tables, updated) := savePosition tables { position with autoCompoundEnabled := enabled } saved
    (tables, updated.map toResponseDto)

end StakingService

end AlianStructure.Source.Defi
