import AlianStructure.Library.DecimalText

/-!
# Simulations of an agent

Source: src/simulator/simulator.service.ts:18-36,123-324, src/simulator/dto/simulation.dto.ts and src/simulator/
entities/simulation.entity.ts. The record of a simulation is read from its table, and its fork block is a bigint column:
the driver reads it as text, and `+` joins a text and a number. A provider answers every request about the chain in one
way, if it answers. Ether units are written by `formatEther` and `formatUnits`; the saves of the record succeed.
-/
namespace AlianStructure.Source.Simulator
open Library.DecimalText

structure Transaction where
  hash : String
  sender : String
  recipient : Option String
  value : Nat
  gasPrice : Option Nat
  blockNumber : Nat
  deriving DecidableEq

structure Block where
  number : Nat
  timestamp : Nat
  prefetchedTransactions : List Transaction
  deriving DecidableEq

/-- What a block is asked for by: a number, or the text of one. -/
inductive BlockTag where
  | number (n : Nat)
  | text (digits : List Char)
  deriving DecidableEq

/-- The number that a text of digits stands for. -/
def valueOf (digits : List Char) : Nat := Nat.ofDigitChars 10 digits 0

/-- A text `+` a number. -/
def plus (text : List Char) (n : Nat) : List Char := text ++ Nat.toDigits 10 n

/-- The chain as a provider tells it: a block has the number that it is asked for by, a text is refused or stands for its
number, a transaction stands once in one block, and has the receipt that is found for it by any spelling of its hash. A
receipt is the gas used. -/
structure Provider where
  getBlock : BlockTag → Except String (Option Block)
  getTransaction : String → Except String (Option Transaction)
  getTransactionReceipt : String → Except String (Option Nat)
  numbered : ∀ number block, getBlock (.number number) = .ok (some block) → block.number = number
  texts : ∀ digits block, getBlock (.text digits) = .ok block → getBlock (.number (valueOf digits)) = .ok block
  once : ∀ number block, getBlock (.number number) = .ok (some block) → (block.prefetchedTransactions.map Transaction.hash).Nodup
  apart : ∀ number block other another, getBlock (.number number) = .ok (some block) →
    getBlock (.number other) = .ok (some another) → ∀ tx ∈ block.prefetchedTransactions,
      ∀ same ∈ another.prefetchedTransactions, tx.hash = same.hash → number = other
  receipts : ∀ hash tx, getTransaction hash = .ok (some tx) → getTransactionReceipt tx.hash = getTransactionReceipt hash

structure Formats where
  formatEther : Nat → String
  formatUnits : Nat → String → String

structure Simulation where
  forkBlockNumber : Nat
  blocksToSimulate : Nat
  positive : 0 < blocksToSimulate

def Simulation.fromBlock (simulation : Simulation) : List Char := Nat.toDigits 10 simulation.forkBlockNumber

def Simulation.toBlock (simulation : Simulation) : Nat :=
  valueOf (plus simulation.fromBlock simulation.blocksToSimulate) - 1

structure AgentAction where
  blockNumber : Nat
  txHash : String
  sender : String
  recipient : String
  value : String
  gasUsed : Nat
  gasPrice : String
  timestamp : Nat
  replayed : Bool
  deriving DecidableEq

structure GasReport where
  totalGasUsed : Nat
  averageGasPerBlock : Nat
  averageGasPerTx : Nat
  totalEstimatedCostEth : String
  breakdown : List (Nat × Nat)
  deriving DecidableEq

structure ComparisonReport where
  simulatedTxCount : Nat
  replayedTxCount : Nat
  sampleActualBlocks : List (Nat × Nat)
  fromBlock : List Char
  toBlock : Nat
  deriving DecidableEq

/-- What a simulation that completes saves, and the numbers of blocks that it reports on its way. -/
structure Outcome where
  agentActions : List AgentAction
  gasReport : GasReport
  comparisonReport : ComparisonReport
  progress : List Nat
  deriving DecidableEq

namespace SimulatorService
variable (formats : Formats) (provider : Provider)

/-! ## Replayed transactions -/

/-- One hash; none when a request fails or finds nothing. -/
def replayTransaction (hash : String) : Option AgentAction :=
  match provider.getTransaction hash, provider.getTransactionReceipt hash with
  | .ok (some tx), .ok (some gasUsed) =>
    match provider.getBlock (.number tx.blockNumber) with
    | .ok block => some {
        blockNumber := tx.blockNumber
        txHash := tx.hash
        sender := tx.sender
        recipient := tx.recipient.getD ""
        value := formats.formatEther tx.value
        gasUsed := gasUsed
        gasPrice := formats.formatUnits (tx.gasPrice.getD 0) "gwei"
        timestamp := (block.map Block.timestamp).getD 0
        replayed := true }
    | .error _ => none
  | _, _ => none

def replayTransactions (txHashes : List String) : List AgentAction :=
  txHashes.filterMap (replayTransaction formats provider)

/-! ## Blocks -/

structure Totals where
  actions : List AgentAction
  gasBreakdown : List (Nat × Nat)
  totalGasUsed : Nat
  deriving DecidableEq

def isRelevant (agentAddresses : List String) (tx : Transaction) : Bool :=
  agentAddresses.isEmpty || agentAddresses.contains tx.sender || agentAddresses.contains (tx.recipient.getD "")

/-- A transaction that is not replayed, with its gas. -/
def actionOf (block : Block) (tx : Transaction) (gasUsed : Nat) : AgentAction where
  blockNumber := block.number
  txHash := tx.hash
  sender := tx.sender
  recipient := tx.recipient.getD ""
  value := formats.formatEther tx.value
  gasUsed := gasUsed
  gasPrice := formats.formatUnits (tx.gasPrice.getD 0) "gwei"
  timestamp := block.timestamp
  replayed := false

/-- The loop over the transactions of a block, with the gas of the block so far. -/
def processTransaction (agentAddresses : List String) (block : Block) (current : Totals × Nat) (tx : Transaction) :
    Except String (Totals × Nat) := do
  if isRelevant agentAddresses tx then
    let receipt ← provider.getTransactionReceipt tx.hash
    let gasUsed := receipt.getD 21000
    pure ({ current.1 with
        totalGasUsed := current.1.totalGasUsed + gasUsed
        actions := current.1.actions ++ [actionOf formats block tx gasUsed] }, current.2 + gasUsed)
  else pure current

def processBlock (agentAddresses : List String) (totals : Totals) : Option Block → Except String Totals
  | none => pure totals
  | some block => do
    let (totals, blockGas) ← block.prefetchedTransactions.foldlM
      (processTransaction formats provider agentAddresses block) (totals, 0)
    pure { totals with gasBreakdown := totals.gasBreakdown ++ [(block.number, blockGas)] }

def BATCH : Nat := 10

/-- The batches from a text on, each with its end and its texts, and no more than `fuel` of them. -/
def batches (toBlock : Nat) : Nat → List Char → List (Nat × List (List Char))
  | 0, _ => []
  | fuel + 1, b =>
    if valueOf b ≤ toBlock then
      let batchEnd := min (valueOf (plus b BATCH) - 1) toBlock
      (batchEnd, (List.range (batchEnd - valueOf b + 1)).map (plus b)) :: batches toBlock fuel (plus b BATCH)
    else []

theorem valueOf_plus (text : List Char) (n : Nat) :
    valueOf (plus text n) = valueOf text * 10 ^ (Nat.toDigits 10 n).length + n := by
  rw [valueOf, plus, Decimal.ofDigitChars_append, Nat.ofDigitChars_ten_toDigits, valueOf]

theorem le_valueOf_plus (text : List Char) (n : Nat) : 10 * valueOf text + n ≤ valueOf (plus text n) := by
  have digit : 1 ≤ (Nat.toDigits 10 n).length := List.length_pos_iff.mpr Nat.toDigits_ne_nil
  have power : 10 ≤ 10 ^ (Nat.toDigits 10 n).length := Nat.le_self_pow (by omega) 10
  rw [valueOf_plus, Nat.mul_comm 10]
  exact Nat.add_le_add_right (Nat.mul_le_mul_left _ power) n

/-- The loop has ended before the fuel has. -/
theorem batches_enough (toBlock : Nat) : ∀ (fuel : Nat) (b : List Char), toBlock < valueOf b + fuel →
    batches toBlock (fuel + 1) b = batches toBlock fuel b
  | 0, b, enough => if_neg (by omega)
  | fuel + 1, b, enough => by
    have grows := le_valueOf_plus b BATCH
    have rest := batches_enough toBlock fuel (plus b BATCH) (by simp only [BATCH] at grows ⊢; omega)
    unfold batches
    rw [rest]

def batchesOf (simulation : Simulation) : List (Nat × List (List Char)) :=
  batches simulation.toBlock (simulation.toBlock + 1) simulation.fromBlock

/-- All blocks of a batch are fetched before the first one is read. -/
def processBatch (agentAddresses : List String) (fromBlock : List Char) (current : Totals × List Nat)
    (batch : Nat × List (List Char)) : Except String (Totals × List Nat) := do
  let blocks ← batch.2.mapM fun digits => provider.getBlock (.text digits)
  let totals ← blocks.foldlM (processBlock formats provider agentAddresses) current.1
  pure (totals, current.2 ++ [batch.1 - valueOf fromBlock + 1])

/-! ## Reports -/

/-- `Math.round` of a quotient. -/
def roundDiv (total count : Nat) : Nat := (2 * total + count) / (2 * count)

def gasReport (totals : Totals) : GasReport :=
  let simulated := totals.actions.filter fun action => !action.replayed
  { totalGasUsed := totals.totalGasUsed
    averageGasPerBlock :=
      if totals.gasBreakdown.length > 0 then roundDiv totals.totalGasUsed totals.gasBreakdown.length else 0
    averageGasPerTx := if simulated.length > 0 then roundDiv totals.totalGasUsed simulated.length else 0
    totalEstimatedCostEth := formats.formatEther (totals.totalGasUsed * 20 * 1000000000)
    breakdown := totals.gasBreakdown }

def buildComparisonReport (simulation : Simulation) (simulatedActions : List AgentAction) :
    Except String ComparisonReport := do
  let fromBlock := simulation.fromBlock
  let toBlock := simulation.toBlock
  let sampleBlocks ← [.text fromBlock, .number (valueOf (plus fromBlock toBlock) / 2), .number toBlock].mapM
    provider.getBlock
  let replayedCount := (simulatedActions.filter AgentAction.replayed).length
  pure {
    simulatedTxCount := simulatedActions.length - replayedCount
    replayedTxCount := replayedCount
    sampleActualBlocks := (sampleBlocks.filterMap id).map fun block =>
      (block.number, block.prefetchedTransactions.length)
    fromBlock := fromBlock
    toBlock := toBlock }

/-- A request that fails makes the simulation fail. -/
def executeSimulation (simulation : Simulation) (agentAddresses replayTxHashes : List String) :
    Except String Outcome := do
  let replayActions := replayTransactions formats provider replayTxHashes
  let totals : Totals := ⟨replayActions, [], (replayActions.map AgentAction.gasUsed).sum⟩
  let (totals, progress) ← (batchesOf simulation).foldlM
    (processBatch formats provider agentAddresses simulation.fromBlock) (totals, [])
  let comparisonReport ← buildComparisonReport provider simulation totals.actions
  pure ⟨totals.actions, gasReport formats totals, comparisonReport, progress⟩

end SimulatorService
end AlianStructure.Source.Simulator
