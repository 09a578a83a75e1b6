import Mathlib.Algebra.Order.BigOperators.Group.Finset
import AlianStructure.Library.Failing
import AlianStructure.Source.Simulator.SimulatorService

/-!
# The gas of a simulation

Source: src/simulator/simulator.service.ts:123-288. The fork block is a text, and what is added to it is written behind
it, so that other blocks are processed than those of the range. Replayed transactions add to the total, and are not
among those that it is divided by; one that is replayed twice, or is simulated as well, adds to it twice. `executeSimulation_ok` reads
the outcome off the loops, and the rest compares its sums with those of distinct transactions.
-/
namespace AlianStructure.Guarantees.SimulationGas
open Library.Failing Source.Simulator SimulatorService

section Spec
variable (formats : Formats) (provider : Provider)

def blockAt (number : Nat) : Option Block :=
  match provider.getBlock (.number number) with
  | .ok block => block
  | .error _ => none

/-- The gas of a transaction; without a receipt, that of a plain transfer. -/
def gasOf (hash : String) : Nat :=
  match provider.getTransactionReceipt hash with
  | .ok (some gasUsed) => gasUsed
  | _ => 21000

def gasSum (actions : List AgentAction) : Nat := (actions.map AgentAction.gasUsed).sum

def numbersOf (simulation : Simulation) : List Nat :=
  List.range' simulation.forkBlockNumber simulation.blocksToSimulate

/-- The numbers that stand in the texts of the loop. -/
def askedOf (simulation : Simulation) : List Nat := ((batchesOf simulation).flatMap Prod.snd).map valueOf

/-- The blocks at some numbers that there are. -/
def blocksOf (numbers : List Nat) : List Block := numbers.filterMap (blockAt provider)

/-- The gas of distinct transactions, each once. -/
def distinctGas (actions : List AgentAction) : Nat :=
  ((actions.map AgentAction.txHash).dedup.map (gasOf provider)).sum

/-- What is asked of a simulation that completes. A quotient divides the sum over what it counts. -/
structure Accounted (simulation : Simulation) (outcome : Outcome) : Prop where
  blocks : (outcome.gasReport.breakdown.map Prod.fst).Perm
    ((numbersOf simulation).filter fun number => (blockAt provider number).isSome)
  total : outcome.gasReport.totalGasUsed = distinctGas provider outcome.agentActions
  breakdown : (outcome.gasReport.breakdown.map Prod.snd).sum =
    gasSum (outcome.agentActions.filter fun action => !action.replayed)
  perTx : ∀ simulated, (outcome.agentActions.filter fun action => !action.replayed) = simulated → simulated ≠ [] →
    outcome.gasReport.averageGasPerTx = roundDiv outcome.gasReport.totalGasUsed simulated.length ∧
      outcome.gasReport.totalGasUsed = gasSum simulated
  perBlock : outcome.gasReport.breakdown ≠ [] →
    outcome.gasReport.averageGasPerBlock =
      roundDiv outcome.gasReport.totalGasUsed outcome.gasReport.breakdown.length ∧
      outcome.gasReport.totalGasUsed = (outcome.gasReport.breakdown.map Prod.snd).sum

/-- A block that there is stands in the texts of the loop as often as in the range. -/
def InRange (simulation : Simulation) : Prop :=
  ∀ number, (blockAt provider number).isSome = true →
    (askedOf simulation).count number = (numbersOf simulation).count number

/-- No transaction with gas is replayed beside a block of the range, or replayed twice. -/
structure Unreplayed (simulation : Simulation) (replayTxHashes : List String) : Prop where
  beside : blocksOf provider (numbersOf simulation) ≠ [] →
    ∀ action ∈ replayTransactions formats provider replayTxHashes, action.gasUsed = 0
  twice : ∀ action ∈ replayTransactions formats provider replayTxHashes,
    2 ≤ ((replayTransactions formats provider replayTxHashes).map AgentAction.txHash).count action.txHash →
      action.gasUsed = 0

end Spec

section Gathered
variable (formats : Formats) (provider : Provider) (agentAddresses : List String)

/-- The actions of a block. -/
def simulatedOf (block : Block) : List AgentAction :=
  (block.prefetchedTransactions.filter (isRelevant agentAddresses)).map fun tx =>
    actionOf formats block tx (gasOf provider tx.hash)

/-- The totals with one transaction more. -/
def addTransaction (block : Block) (current : Totals × Nat) (tx : Transaction) : Totals × Nat :=
  if isRelevant agentAddresses tx then
    ({ current.1 with
      totalGasUsed := current.1.totalGasUsed + gasOf provider tx.hash
      actions := current.1.actions ++ [actionOf formats block tx (gasOf provider tx.hash)] },
      current.2 + gasOf provider tx.hash)
  else current

/-- The totals with more blocks. -/
def addBlocks (totals : Totals) (blocks : List Block) : Totals where
  actions := totals.actions ++ blocks.flatMap (simulatedOf formats provider agentAddresses)
  gasBreakdown := totals.gasBreakdown ++ blocks.map fun block =>
    (block.number, gasSum (simulatedOf formats provider agentAddresses block))
  totalGasUsed := totals.totalGasUsed + gasSum (blocks.flatMap (simulatedOf formats provider agentAddresses))

theorem gasSum_append (actions others : List AgentAction) :
    gasSum (actions ++ others) = gasSum actions + gasSum others := by
  simp [gasSum]

theorem processTransaction_ok (block : Block) (current : Totals × Nat) (tx : Transaction) (after : Totals × Nat)
    (done : processTransaction formats provider agentAddresses block current tx = .ok after) :
    after = addTransaction formats provider agentAddresses block current tx := by
  unfold processTransaction at done
  unfold addTransaction
  split at done
  next relevant =>
    rw [if_pos relevant]
    obtain ⟨receipt, found, ends⟩ := bind_ok done
    rw [← Except.ok.inj ends]
    cases receipt <;> simp [gasOf, found]
  next other =>
    rw [if_neg other]
    exact (Except.ok.inj done).symm

theorem foldl_addTransaction (block : Block) : ∀ (txs : List Transaction) (current : Totals × Nat),
    txs.foldl (addTransaction formats provider agentAddresses block) current =
      let added := (txs.filter (isRelevant agentAddresses)).map fun tx =>
        actionOf formats block tx (gasOf provider tx.hash)
      (⟨current.1.actions ++ added, current.1.gasBreakdown, current.1.totalGasUsed + gasSum added⟩,
        current.2 + gasSum added)
  | [], current => by simp [gasSum]
  | tx :: txs, current => by
    rw [List.foldl_cons, foldl_addTransaction block txs, addTransaction]
    by_cases relevant : isRelevant agentAddresses tx
    · simp [relevant, gasSum, actionOf, Nat.add_assoc]
    · simp [relevant, gasSum]

theorem processBlock_ok (totals : Totals) (block : Option Block) (after : Totals)
    (done : processBlock formats provider agentAddresses totals block = .ok after) :
    after = addBlocks formats provider agentAddresses totals block.toList := by
  cases block with
  | none =>
    cases done
    simp [addBlocks, gasSum]
  | some block =>
    obtain ⟨gathered, inner, ends⟩ := bind_ok done
    have closed := foldlM_ok (processTransaction_ok formats provider agentAddresses block) inner
    rw [foldl_addTransaction] at closed
    rw [← Except.ok.inj ends, closed]
    simp [addBlocks, simulatedOf, gasSum]

theorem addBlocks_append (totals : Totals) (blocks others : List Block) :
    addBlocks formats provider agentAddresses (addBlocks formats provider agentAddresses totals blocks) others =
      addBlocks formats provider agentAddresses totals (blocks ++ others) := by
  simp [addBlocks, gasSum_append, Nat.add_assoc]

theorem foldl_addBlocks {Item : Type} (found : Item → List Block) : ∀ (items : List Item) (totals : Totals),
    items.foldl (fun totals item => addBlocks formats provider agentAddresses totals (found item)) totals =
      addBlocks formats provider agentAddresses totals (items.flatMap found)
  | [], totals => by simp [addBlocks, gasSum]
  | item :: items, totals => by
    rw [List.foldl_cons, foldl_addBlocks found items, addBlocks_append, List.flatMap_cons]

theorem processBatch_ok (fromBlock : List Char) (current : Totals × List Nat) (batch : Nat × List (List Char))
    (after : Totals × List Nat)
    (done : processBatch formats provider agentAddresses fromBlock current batch = .ok after) :
    after = (addBlocks formats provider agentAddresses current.1 (blocksOf provider (batch.2.map valueOf)),
      current.2 ++ [batch.1 - valueOf fromBlock + 1]) := by
  obtain ⟨blocks, fetched, rest⟩ := bind_ok done
  obtain ⟨totals, inner, ends⟩ := bind_ok rest
  have named : ∀ digits block, provider.getBlock (.text digits) = .ok block → block = blockAt provider (valueOf digits) :=
    fun digits block answer => by rw [blockAt, provider.texts digits block answer]
  have closed := foldlM_ok (processBlock_ok formats provider agentAddresses) inner
  rw [← Except.ok.inj ends, closed, foldl_addBlocks, mapM_ok named fetched, blocksOf, List.filterMap_map,
    List.flatMap_map, List.filterMap_eq_flatMap_toList]
  rfl

end Gathered

section Range
variable (provider : Provider)

theorem blockAt_eq_some {number : Nat} {block : Block} (found : blockAt provider number = some block) :
    provider.getBlock (.number number) = .ok (some block) := by
  unfold blockAt at found
  split at found
  next answer isAnswer => rw [isAnswer, found]
  next => cases found

theorem blocksOf_numbers (numbers : List Nat) : (blocksOf provider numbers).map Block.number =
    numbers.filter fun number => (blockAt provider number).isSome := by
  rw [blocksOf]
  induction numbers with
  | nil => rfl
  | cons number numbers ih =>
    cases found : blockAt provider number with
    | none => simp [found, ih]
    | some block =>
      have isNumber := provider.numbered number block (blockAt_eq_some provider found)
      simp [found, ih, isNumber]

/-- The blocks of the texts are those of the range when each one stands there as often. -/
theorem asked_perm (simulation : Simulation) :
    ((askedOf simulation).filter fun number => (blockAt provider number).isSome).Perm
      ((numbersOf simulation).filter fun number => (blockAt provider number).isSome) ↔ InRange provider simulation := by
  rw [List.perm_iff_count]
  refine forall_congr' fun number => ?_
  by_cases exists' : (blockAt provider number).isSome = true
  · simp [List.count_filter, exists']
  · have none : ∀ numbers : List Nat,
        (numbers.filter fun number => (blockAt provider number).isSome).count number = 0 := fun numbers =>
      List.count_eq_zero.mpr fun member => exists' (List.mem_filter.mp member).2
    simp [none, exists']

/-- What is asked for in a batch is at least ten times what the loop began with. -/
theorem asked_far (toBlock start : Nat) : ∀ (fuel : Nat) (b : List Char), start ≤ valueOf b →
    ∀ batch ∈ batches toBlock fuel b, ∀ digits ∈ batch.2, 10 * start ≤ valueOf digits
  | 0, _, _ => List.forall_mem_nil _
  | fuel + 1, b, far => by
    rw [batches]
    split
    next =>
      refine List.forall_mem_cons.mpr ⟨fun digits member => ?_, asked_far toBlock start fuel _ ?_⟩
      · obtain ⟨i, -, rfl⟩ := List.mem_map.mp member
        have more := le_valueOf_plus b i
        omega
      · have more := le_valueOf_plus b BATCH
        omega
    next => exact List.forall_mem_nil _

/-- A fork block that there is stands in no text of the loop, but for the first block of a chain. -/
theorem fork_block_missed {simulation : Simulation} (later : 0 < simulation.forkBlockNumber)
    (there : (blockAt provider simulation.forkBlockNumber).isSome = true) : ¬ InRange provider simulation := by
  intro inRange
  have start : valueOf simulation.fromBlock = simulation.forkBlockNumber := Nat.ofDigitChars_ten_toDigits
  have inside : simulation.forkBlockNumber ∈ numbersOf simulation := by
    have positive := simulation.positive
    rw [numbersOf, List.mem_range'_1]
    omega
  have member : simulation.forkBlockNumber ∈ askedOf simulation := by
    rw [← List.count_pos_iff, inRange _ there]
    exact List.count_pos_iff.mpr inside
  obtain ⟨digits, listed, same⟩ := List.mem_map.mp member
  obtain ⟨batch, isBatch, inBatch⟩ := List.mem_flatMap.mp listed
  have far := asked_far simulation.toBlock simulation.forkBlockNumber _ _ start.ge batch isBatch digits inBatch
  omega

end Range

section Outcome
variable (formats : Formats) (provider : Provider) (simulation : Simulation) (agentAddresses replayTxHashes : List String)

/-- The actions of the blocks that are processed. -/
def simulatedActions : List AgentAction :=
  (blocksOf provider (askedOf simulation)).flatMap (simulatedOf formats provider agentAddresses)

/-- The loop over the batches adds the blocks of their texts. -/
theorem foldl_batches : ∀ (numbers : List (Nat × List (List Char))) (totals : Totals) (progress : List Nat),
    (numbers.foldl (fun (current : Totals × List Nat) batch =>
      (addBlocks formats provider agentAddresses current.1 (blocksOf provider (batch.2.map valueOf)),
        current.2 ++ [batch.1 - valueOf simulation.fromBlock + 1])) (totals, progress)).1 =
      addBlocks formats provider agentAddresses totals
        (blocksOf provider ((numbers.flatMap Prod.snd).map valueOf))
  | [], totals, _ => by simp [addBlocks, gasSum, blocksOf]
  | first :: numbers, totals, progress => by
    rw [List.foldl_cons, foldl_batches numbers, addBlocks_append, List.flatMap_cons, List.map_append, blocksOf,
      blocksOf, blocksOf, List.filterMap_append]

/-- A simulation that completes has the actions of the replayed transactions and of the range. -/
theorem executeSimulation_ok {outcome : Outcome}
    (done : executeSimulation formats provider simulation agentAddresses replayTxHashes = .ok outcome) :
    outcome.agentActions = replayTransactions formats provider replayTxHashes ++
        simulatedActions formats provider simulation agentAddresses ∧ outcome.gasReport = gasReport formats
        (addBlocks formats provider agentAddresses ⟨replayTransactions formats provider replayTxHashes, [],
          gasSum (replayTransactions formats provider replayTxHashes)⟩ (blocksOf provider (askedOf simulation))) := by
  obtain ⟨⟨totals, progress⟩, loops, rest⟩ := bind_ok done
  obtain ⟨comparison, -, ends⟩ := bind_ok rest
  have closed := foldlM_ok (processBatch_ok formats provider agentAddresses simulation.fromBlock) loops
  have isTotals := congrArg Prod.fst closed
  rw [foldl_batches] at isTotals
  have same : totals = _ := isTotals
  rw [← Except.ok.inj ends, same]
  exact ⟨rfl, rfl⟩

theorem replayTransactions_spec {action : AgentAction}
    (member : action ∈ replayTransactions formats provider replayTxHashes) :
    action.replayed = true ∧ action.gasUsed = gasOf provider action.txHash := by
  obtain ⟨hash, -, found⟩ := List.mem_filterMap.mp member
  unfold replayTransaction at found
  split at found
  next tx gasUsed isTx receipt =>
    split at found
    next block _ =>
      rw [← Option.some.inj found]
      refine ⟨rfl, ?_⟩
      simp only [gasOf, provider.receipts hash tx isTx, receipt]
    next => cases found
  next => cases found

theorem simulatedActions_spec {action : AgentAction}
    (member : action ∈ simulatedActions formats provider simulation agentAddresses) :
    action.replayed = false ∧ action.gasUsed = gasOf provider action.txHash := by
  obtain ⟨block, -, inBlock⟩ := List.mem_flatMap.mp member
  obtain ⟨tx, -, rfl⟩ := List.mem_map.mp inBlock
  exact ⟨rfl, rfl⟩

theorem simulatedOf_hashes (block : Block) :
    ((simulatedOf formats provider agentAddresses block).map AgentAction.txHash).Sublist
      (block.prefetchedTransactions.map Transaction.hash) := by
  rw [simulatedOf, List.map_map]
  exact List.filter_sublist.map Transaction.hash

/-- No transaction of a range that is processed is simulated twice. -/
theorem simulated_nodup (inRange : InRange provider simulation) :
    ((simulatedActions formats provider simulation agentAddresses).map AgentAction.txHash).Nodup := by
  rw [simulatedActions, List.map_flatMap, List.nodup_flatMap]
  constructor
  · intro block member
    obtain ⟨number, -, found⟩ := List.mem_filterMap.mp member
    exact (provider.once number block (blockAt_eq_some provider found)).sublist
      (simulatedOf_hashes formats provider agentAddresses block)
  · have unique : (blocksOf provider (askedOf simulation)).Pairwise fun block another => block.number ≠ another.number := by
      rw [← List.pairwise_map (f := Block.number) (R := (· ≠ ·)), blocksOf_numbers]
      exact ((asked_perm provider simulation).mpr inRange).nodup_iff.mpr
        ((List.nodup_range' 1).filter _)
    refine unique.imp_of_mem fun {block another} isBlock isAnother differ => ?_
    rw [Function.onFun, List.disjoint_left]
    intro hash inFirst inSecond
    have first := (simulatedOf_hashes formats provider agentAddresses block).subset inFirst
    have second := (simulatedOf_hashes formats provider agentAddresses another).subset inSecond
    obtain ⟨tx, inBlock, isHash⟩ := List.mem_map.mp first
    obtain ⟨other, inAnother, isSame⟩ := List.mem_map.mp second
    obtain ⟨number, -, found⟩ := List.mem_filterMap.mp isBlock
    obtain ⟨further, -, isFound⟩ := List.mem_filterMap.mp isAnother
    have answer := blockAt_eq_some provider found
    have again := blockAt_eq_some provider isFound
    refine differ ((provider.numbered number block answer).trans ?_)
    rw [provider.numbered further another again]
    exact provider.apart _ block _ another answer again tx inBlock other inAnother (isHash.trans isSame.symm)

theorem gasSum_flatMap (blocks : List Block) :
    (blocks.map fun block => gasSum (simulatedOf formats provider agentAddresses block)).sum =
      gasSum (blocks.flatMap (simulatedOf formats provider agentAddresses)) := by
  induction blocks with
  | nil => rfl
  | cons block blocks ih => rw [List.map_cons, List.sum_cons, ih, List.flatMap_cons, gasSum_append]

end Outcome

/-- A sum counts everything once exactly when what occurs again adds nothing. -/
theorem sum_dedup_iff (hashes : List String) (gas : String → Nat) :
    (hashes.map gas).sum = (hashes.dedup.map gas).sum ↔ ∀ hash, 2 ≤ hashes.count hash → gas hash = 0 := by
  have all : (hashes.map gas).sum = ∑ hash ∈ hashes.toFinset, hashes.count hash * gas hash := by
    rw [Finset.sum_list_map_count]
    rfl
  have once : (hashes.dedup.map gas).sum = ∑ hash ∈ hashes.toFinset, gas hash := by
    have same : hashes.dedup.toFinset = hashes.toFinset := by
      ext hash
      simp
    rw [← List.sum_toFinset gas hashes.nodup_dedup, same]
  have occurs : ∀ hash ∈ hashes.toFinset, gas hash ≤ hashes.count hash * gas hash := fun hash member =>
    Nat.le_mul_of_pos_left _ (List.count_pos_iff.mpr (List.mem_toFinset.mp member))
  rw [all, once, eq_comm, Finset.sum_eq_sum_iff_of_le occurs]
  constructor
  · intro same hash again
    have member : hash ∈ hashes := List.count_pos_iff.mp (by omega)
    have equal := same hash (List.mem_toFinset.mpr member)
    by_contra nonzero
    have positive := Nat.pos_of_ne_zero nonzero
    have more : 2 * gas hash ≤ hashes.count hash * gas hash := Nat.mul_le_mul_right _ again
    omega
  · intro nothing hash member
    have present := List.count_pos_iff.mpr (List.mem_toFinset.mp member)
    by_cases again : 2 ≤ hashes.count hash
    · rw [nothing hash again, Nat.mul_zero]
    · have single : hashes.count hash = 1 := by omega
      rw [single, Nat.one_mul]

section Claim
variable (formats : Formats) (provider : Provider) (simulation : Simulation) (agentAddresses replayTxHashes : List String)

theorem filter_replayed : ((replayTransactions formats provider replayTxHashes ++
      simulatedActions formats provider simulation agentAddresses).filter fun action => !action.replayed) =
      simulatedActions formats provider simulation agentAddresses := by
  have none : (replayTransactions formats provider replayTxHashes).filter (fun action => !action.replayed) = [] := by
    rw [List.filter_eq_nil_iff]
    intro action member
    simp [(replayTransactions_spec formats provider replayTxHashes member).1]
  have all : (simulatedActions formats provider simulation agentAddresses).filter (fun action => !action.replayed) =
      simulatedActions formats provider simulation agentAddresses := by
    rw [List.filter_eq_self]
    intro action member
    simp [(simulatedActions_spec formats provider simulation agentAddresses member).1]
  rw [List.filter_append, none, all, List.nil_append]

/-- The gas of all actions is that of their transactions, one for each action. -/
theorem gasSum_hashes : gasSum (replayTransactions formats provider replayTxHashes) +
        gasSum (simulatedActions formats provider simulation agentAddresses) =
      (((replayTransactions formats provider replayTxHashes ++
        simulatedActions formats provider simulation agentAddresses).map AgentAction.txHash).map
          (gasOf provider)).sum := by
  rw [← gasSum_append, gasSum, List.map_map]
  congr 1
  refine List.map_congr_left fun action member => ?_
  rcases List.mem_append.mp member with isReplayed | isSimulated
  · exact (replayTransactions_spec formats provider replayTxHashes isReplayed).2
  · exact (simulatedActions_spec formats provider simulation agentAddresses isSimulated).2

theorem gasSum_eq_zero {actions : List AgentAction} :
    gasSum actions = 0 ↔ ∀ action ∈ actions, action.gasUsed = 0 := by
  simp [gasSum, List.sum_eq_zero_iff]

theorem simulatedActions_nil (empty : blocksOf provider (askedOf simulation) = []) :
    simulatedActions formats provider simulation agentAddresses = [] := by
  rw [simulatedActions, empty]
  rfl

theorem blocksOf_empty_iff (inRange : InRange provider simulation) :
    blocksOf provider (askedOf simulation) = [] ↔ blocksOf provider (numbersOf simulation) = [] := by
  have sizes := ((asked_perm provider simulation).mpr inRange).length_eq
  rw [← blocksOf_numbers, ← blocksOf_numbers, List.length_map, List.length_map] at sizes
  rw [← List.length_eq_zero_iff, sizes, List.length_eq_zero_iff]

/-- The total is that of distinct transactions exactly when nothing that occurs again has gas. -/
theorem total_iff : gasSum (replayTransactions formats provider replayTxHashes) +
        gasSum (simulatedActions formats provider simulation agentAddresses) =
      distinctGas provider (replayTransactions formats provider replayTxHashes ++
        simulatedActions formats provider simulation agentAddresses) ↔
      ∀ hash, 2 ≤ ((replayTransactions formats provider replayTxHashes).map AgentAction.txHash).count hash +
        ((simulatedActions formats provider simulation agentAddresses).map AgentAction.txHash).count hash →
          gasOf provider hash = 0 := by
  rw [gasSum_hashes, distinctGas, sum_dedup_iff, List.map_append]
  simp only [List.count_append]

theorem gasReport_perTx (totals : Totals) {simulated : List AgentAction}
    (counted : (totals.actions.filter fun action => !action.replayed) = simulated) (nonempty : simulated ≠ []) :
    (gasReport formats totals).averageGasPerTx = roundDiv totals.totalGasUsed simulated.length := by
  subst counted
  exact if_pos (List.length_pos_iff.mpr nonempty)

theorem gasReport_perBlock (totals : Totals) (nonempty : totals.gasBreakdown ≠ []) :
    (gasReport formats totals).averageGasPerBlock = roundDiv totals.totalGasUsed totals.gasBreakdown.length :=
  if_pos (List.length_pos_iff.mpr nonempty)

end Claim

/-- A young chain: its third transaction, of the system, costs nothing. -/
def sampleChain : List Block :=
  [⟨0, 0, [⟨"0xa", "0x1", some "0x2", 0, none, 0⟩]⟩, ⟨1, 12, [⟨"0xb", "0x1", none, 0, none, 1⟩]⟩,
    ⟨5, 60, [⟨"0xc", "0x0", some "0x1", 0, none, 5⟩]⟩]

def sampleBlock (number : Nat) : Option Block := sampleChain.find? fun block => block.number = number

theorem sampleBlock_some {number : Nat} {block : Block} (found : sampleBlock number = some block) :
    block ∈ sampleChain ∧ block.number = number :=
  ⟨List.mem_of_find?_eq_some found,
    of_decide_eq_true (List.find?_some (p := fun block : Block => decide (block.number = number)) found)⟩

def sampleTransaction (hash : String) : Option Transaction :=
  (sampleChain.flatMap Block.prefetchedTransactions).find? fun tx => tx.hash = hash

def sampleProvider : Provider where
  getBlock
    | .number number => .ok (sampleBlock number)
    | .text digits => .ok (sampleBlock (valueOf digits))
  getTransaction hash := .ok (sampleTransaction hash)
  getTransactionReceipt hash := .ok ([("0xa", 21000), ("0xb", 30000), ("0xc", 0)].lookup hash)
  numbered number block found := (sampleBlock_some (Except.ok.inj found)).2
  texts _ _ answer := answer
  once number block found := by
    have all : ∀ block ∈ sampleChain, (block.prefetchedTransactions.map Transaction.hash).Nodup := by decide
    exact all block (sampleBlock_some (Except.ok.inj found)).1
  apart number block other another found isOther tx member same listed equal := by
    have all : ∀ block ∈ sampleChain, ∀ another ∈ sampleChain, ∀ tx ∈ block.prefetchedTransactions,
        ∀ same ∈ another.prefetchedTransactions, tx.hash = same.hash → block.number = another.number := by decide
    obtain ⟨isBlock, rfl⟩ := sampleBlock_some (Except.ok.inj found)
    obtain ⟨isAnother, rfl⟩ := sampleBlock_some (Except.ok.inj isOther)
    exact all block isBlock another isAnother tx member same listed equal
  receipts hash tx found := by
    have same : tx.hash = hash := of_decide_eq_true
      (List.find?_some (p := fun tx : Transaction => decide (tx.hash = hash)) (Except.ok.inj found))
    rw [same]

def plainFormats : Formats := ⟨fun wei => toString wei, fun wei _ => toString wei⟩

theorem firstBlocks_inRange : InRange sampleProvider ⟨0, 2, by decide⟩ := by
  intro number there
  obtain ⟨block, found⟩ := Option.isSome_iff_exists.mp there
  obtain ⟨listed, isNumber⟩ := sampleBlock_some found
  have all : ∀ block ∈ sampleChain, (askedOf ⟨0, 2, by decide⟩).count block.number =
      (numbersOf ⟨0, 2, by decide⟩).count block.number := by decide +kernel
  rw [← isNumber]
  exact all block listed

end AlianStructure.Guarantees.SimulationGas
