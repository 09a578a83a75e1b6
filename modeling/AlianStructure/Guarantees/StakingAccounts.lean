import Mathlib.Algebra.Order.Group.MinMax
import Mathlib.Tactic.Ring
import AlianStructure.Library.Trajectory
import AlianStructure.Source.Defi.StakingService

/-!
# The accounts of staking positions

Source: src/defi/services/staking.service.ts:34-258. No operation asks whether a position is closed, and a stake
may be of nothing. In the runs whose stakes are positive and whose rewards go to open positions, and in no
others, the closed positions are the empty ones, their amounts stand still, and what is there is what was staked
and compounded less what was withdrawn.
-/
namespace AlianStructure.Guarantees.StakingAccounts
open Library.KeyedTable Library.Trajectory
open Source Source.Defi StakingService

structure Withdrawal where
  positionId : String
  amount : ℚ
  available : ℚ

structure Compounding where
  positionId : String
  amount : ℚ

/-- The amounts of a position. -/
structure Amounts where
  principal : ℚ
  current : ℚ
  accumulated : ℚ
  deriving DecidableEq

def amountsOf (position : StakingPosition) : Amounts :=
  ⟨position.principalAmount, position.currentAmount, position.accumulatedYield⟩

/-- The tables, with what was withdrawn and compounded, and the amounts of positions when they were first found
closed. -/
structure Staking where
  tables : StakingTables
  withdrawals : List Withdrawal
  compoundings : List Compounding
  closings : List (String × Amounts)

/-- The operations, each with the answers of the adapter and the database. -/
inductive StakingCall where
  | stake (userId : String) (dto : StakeDto) (fetchedApy : Except Exception ℚ) (id : String) (now : Nat)
      (saved : Except Exception Unit)
  | unstake (userId : String) (dto : UnstakeDto) (saved : Except Exception Unit)
  | claimRewards (userId positionId : String) (now : Nat)
      (rewards : Except Exception (List (RewardData × Except Exception String))) (saved : Except Exception Unit)
  | autoCompound (userId positionId : String) (rewards : Except Exception (List RewardData))
      (saved : Except Exception Unit)
  | setAutoCompound (userId positionId : String) (enabled : Bool) (saved : Except Exception Unit)

/-- A staking position that is closed. -/
def Closed (position : StakingPosition) : Prop :=
  position.positionType = .staking ∧ position.status = .closed

instance (position : StakingPosition) : Decidable (Closed position) := inferInstanceAs (Decidable (_ ∧ _))

/-- The positions that are closed now, and were not before. -/
def newlyClosed (tables : StakingTables) (closings : List (String × Amounts)) : List (String × Amounts) :=
  (tables.positions.rows.filter fun position =>
    decide (Closed position ∧ position.id ∉ closings.map (·.1))).map fun position => (position.id, amountsOf position)

/-- What a call withdraws, when it answers: as much as is there, which is all that `covered` says of it. -/
def withdrawn (tables : StakingTables) (call : StakingCall) : List Withdrawal :=
  match call with
  | .unstake userId dto saved =>
    match findOwnedPosition tables dto.positionId userId, (unstake tables userId dto saved).2 with
    | .ok position, .ok _ =>
      [⟨position.id, min dto.amount position.currentAmount, position.currentAmount⟩]
    | _, _ => []
  | _ => []

/-- What a call compounds, if anything. -/
def compounded (registered : DeFiProtocol → Bool) (tables : StakingTables) (call : StakingCall) : List Compounding :=
  match call with
  | .autoCompound userId positionId rewards saved =>
    match (autoCompound registered tables userId positionId rewards saved).2 with
    | .ok amount => if 0 < amount then [⟨positionId, amount⟩] else []
    | .error _ => []
  | _ => []

def perform (registered : DeFiProtocol → Bool) (tables : StakingTables) : StakingCall → StakingTables
  | .stake userId dto fetchedApy id now saved => (stake registered tables userId dto fetchedApy id now saved).1
  | .unstake userId dto saved => (unstake tables userId dto saved).1
  | .claimRewards userId positionId now rewards saved =>
    (claimRewards registered tables userId positionId now rewards saved).1
  | .autoCompound userId positionId rewards saved =>
    (autoCompound registered tables userId positionId rewards saved).1
  | .setAutoCompound userId positionId enabled saved =>
    (setAutoCompound tables userId positionId enabled saved).1

def step (registered : DeFiProtocol → Bool) (state : Staking) (call : StakingCall) : Staking :=
  let tables := perform registered state.tables call
  { tables := tables
    withdrawals := state.withdrawals ++ withdrawn state.tables call
    compoundings := state.compoundings ++ compounded registered state.tables call
    closings := state.closings ++ newlyClosed tables state.closings }

/-- Before any call on staking positions. -/
def opening (tables : StakingTables) : Staking := ⟨tables, [], [], []⟩

def compoundedTo (state : Staking) (positionId : String) : ℚ :=
  ((state.compoundings.filter fun entry => decide (entry.positionId = positionId)).map (·.amount)).sum

def withdrawnFrom (state : Staking) (positionId : String) : ℚ :=
  ((state.withdrawals.filter fun entry => decide (entry.positionId = positionId)).map (·.amount)).sum

/-- The accounts are in order: staking positions are closed when they are empty, closed ones keep their amounts,
and what is there is what was put in less what was taken out. -/
structure Accounted (state : Staking) : Prop where
  closed : ∀ position ∈ state.tables.positions.rows, position.positionType = .staking →
    (position.status = .closed ↔ position.currentAmount = 0)
  frozen : ∀ closing ∈ state.closings, ∃ position ∈ state.tables.positions.rows,
    position.id = closing.1 ∧ Closed position ∧ amountsOf position = closing.2
  balance : ∀ position ∈ state.tables.positions.rows, position.positionType = .staking →
    position.currentAmount =
      position.principalAmount + compoundedTo state position.id - withdrawnFrom state position.id
  covered : ∀ withdrawal ∈ state.withdrawals, withdrawal.amount ≤ withdrawal.available

/-- A stake that opens a position is of something, and rewards that are worth something do not go to a closed
position. -/
def Proper (registered : DeFiProtocol → Bool) (state : Staking) : StakingCall → Prop
  | .stake _ dto _ id _ saved => registered dto.protocol = true → saved = .ok () →
      state.tables.positions.findOne id = none → 0 < dto.amount
  | .claimRewards userId positionId now rewards saved =>
    ∀ position, findOwnedPosition state.tables positionId userId = .ok position → Closed position →
      registered position.protocol = true → saved = .ok () → (collect state.tables positionId now rewards).1 = 0
  | .autoCompound userId positionId rewards saved =>
    ∀ position, findOwnedPosition state.tables positionId userId = .ok position → Closed position →
      position.autoCompoundEnabled = true → registered position.protocol = true → saved = .ok () →
      compoundable rewards ≤ 0
  | .unstake _ _ _ | .setAutoCompound _ _ _ _ => True

/-- What all runs keep beside the accounts: the closed positions are recorded, nothing is owed, and flows are those
of stored positions. -/
structure Kept (state : Staking) : Prop where
  recorded : ∀ position ∈ state.tables.positions.rows, Closed position → position.id ∈ state.closings.map (·.1)
  nonneg : ∀ position ∈ state.tables.positions.rows, position.positionType = .staking → 0 ≤ position.currentAmount
  withdrawals : ∀ withdrawal ∈ state.withdrawals,
    withdrawal.positionId ∈ state.tables.positions.rows.map fun position => position.id
  compoundings : ∀ compounding ∈ state.compoundings,
    compounding.positionId ∈ state.tables.positions.rows.map fun position => position.id

/-- Nothing but the closings is brought up to date. -/
structure Quiet (state after : Staking) : Prop where
  positions : after.tables.positions = state.tables.positions
  withdrawals : after.withdrawals = state.withdrawals
  compoundings : after.compoundings = state.compoundings
  closings : after.closings = state.closings ++ newlyClosed after.tables state.closings

/-- A position is opened with what is staked. -/
structure Opens (state after : Staking) (new : StakingPosition) : Prop where
  fresh : state.tables.positions.findOne new.id = none
  saved : after.tables.positions = state.tables.positions.save new
  active : new.status = .active
  staked : new.currentAmount = new.principalAmount
  nonneg : 0 ≤ new.currentAmount
  withdrawals : after.withdrawals = state.withdrawals
  compoundings : after.compoundings = state.compoundings
  closings : after.closings = state.closings ++ newlyClosed after.tables state.closings

/-- A position is changed: something is taken out or put in. -/
structure Changes (state after : Staking) (old new : StakingPosition) (taken : List Withdrawal)
    (given : List Compounding) : Prop where
  found : state.tables.positions.findOne old.id = some old
  sameId : new.id = old.id
  sameType : new.positionType = old.positionType
  samePrincipal : new.principalAmount = old.principalAmount
  saved : after.tables.positions = state.tables.positions.save new
  current : new.currentAmount =
    old.currentAmount + (given.map (·.amount)).sum - (taken.map (·.amount)).sum
  nonneg : 0 ≤ old.currentAmount → 0 ≤ new.currentAmount
  withdrawals : after.withdrawals = state.withdrawals ++ taken
  covered : ∀ withdrawal ∈ taken, withdrawal.positionId = old.id ∧ withdrawal.amount ≤ withdrawal.available
  compoundings : after.compoundings = state.compoundings ++ given
  own : ∀ compounding ∈ given, compounding.positionId = old.id
  closings : after.closings = state.closings ++ newlyClosed after.tables state.closings

section Effects
variable {state after : Staking} {old new : StakingPosition} {taken : List Withdrawal} {given : List Compounding}

theorem mem_newlyClosed {tables : StakingTables} {closings : List (String × Amounts)} {closing : String × Amounts} :
    closing ∈ newlyClosed tables closings ↔ ∃ position ∈ tables.positions.rows,
      (Closed position ∧ position.id ∉ closings.map (·.1)) ∧ (position.id, amountsOf position) = closing := by
  simp only [newlyClosed, List.mem_map, List.mem_filter, decide_eq_true_eq, and_assoc]

/-- After the closings are brought up to date, every closed position is recorded. -/
theorem recorded_after (closings : after.closings = state.closings ++ newlyClosed after.tables state.closings) :
    ∀ position ∈ after.tables.positions.rows, Closed position → position.id ∈ after.closings.map (·.1) := by
  intro position member closed
  rw [closings, List.map_append]
  by_cases known : position.id ∈ state.closings.map (·.1)
  · exact List.mem_append_left _ known
  · exact List.mem_append_right _
      (List.mem_map.mpr ⟨_, mem_newlyClosed.mpr ⟨position, member, ⟨closed, known⟩, rfl⟩, rfl⟩)

/-- The amounts of closed positions are kept when each recorded position is still there with its amounts. -/
theorem frozen_after (closings : after.closings = state.closings ++ newlyClosed after.tables state.closings) :
    (∀ closing ∈ after.closings, ∃ position ∈ after.tables.positions.rows,
        position.id = closing.1 ∧ Closed position ∧ amountsOf position = closing.2) ↔
      ∀ closing ∈ state.closings, ∃ position ∈ after.tables.positions.rows,
        position.id = closing.1 ∧ Closed position ∧ amountsOf position = closing.2 := by
  rw [closings]
  constructor
  · exact fun all closing member => all closing (List.mem_append_left _ member)
  · intro earlier closing member
    rcases List.mem_append.mp member with before | now
    · exact earlier closing before
    · obtain ⟨position, stored, ⟨closed, _⟩, rfl⟩ := mem_newlyClosed.mp now
      exact ⟨position, stored, rfl, closed, rfl⟩

theorem Quiet.accounted (quiet : Quiet state after) (accounted : Accounted state) : Accounted after := by
  refine ⟨?_, (frozen_after quiet.closings).mpr ?_, ?_, ?_⟩
  · rw [quiet.positions]
    exact accounted.closed
  · rw [quiet.positions]
    exact accounted.frozen
  · unfold compoundedTo withdrawnFrom
    rw [quiet.positions, quiet.withdrawals, quiet.compoundings]
    exact accounted.balance
  · rw [quiet.withdrawals]
    exact accounted.covered

theorem Quiet.kept (quiet : Quiet state after) (kept : Kept state) : Kept after := by
  refine ⟨recorded_after quiet.closings, ?_, ?_, ?_⟩
  · rw [quiet.positions]
    exact kept.nonneg
  · rw [quiet.positions, quiet.withdrawals]
    exact kept.withdrawals
  · rw [quiet.positions, quiet.compoundings]
    exact kept.compoundings

theorem Kept.untouched (kept : Kept state) {id : String} (fresh : state.tables.positions.findOne id = none) :
    compoundedTo state id = 0 ∧ withdrawnFrom state id = 0 := by
  have absent := Table.findOne_eq_none.mp fresh
  unfold compoundedTo withdrawnFrom
  rw [List.filter_eq_nil_iff.mpr fun entry member => ?_, List.filter_eq_nil_iff.mpr fun entry member => ?_]
  · exact ⟨rfl, rfl⟩
  · rw [decide_eq_true_eq]
    exact fun same => absent (same ▸ kept.withdrawals entry member)
  · rw [decide_eq_true_eq]
    exact fun same => absent (same ▸ kept.compoundings entry member)

theorem Opens.kept (opens : Opens state after new) (kept : Kept state) : Kept after := by
  have grows : ∀ id ∈ state.tables.positions.rows.map (fun position => position.id),
      id ∈ after.tables.positions.rows.map fun position => position.id := by
    intro id member
    rw [opens.saved, Table.save_new opens.fresh, List.map_append]
    exact List.mem_append_left _ member
  refine ⟨recorded_after opens.closings, fun position member staking => ?_, fun entry member => ?_,
    fun entry member => ?_⟩
  · rw [opens.saved] at member
    rcases Table.mem_save.mp member with rfl | ⟨old, _⟩
    · exact opens.nonneg
    · exact kept.nonneg position old staking
  · exact grows _ (kept.withdrawals entry (opens.withdrawals ▸ member))
  · exact grows _ (kept.compoundings entry (opens.compoundings ▸ member))

theorem Opens.balances_iff (opens : Opens state after new) (kept : Kept state) (accounted : Accounted state)
    (staking : new.positionType = .staking) : Accounted after ↔ 0 < new.currentAmount := by
  have stored : ∀ position, position ∈ after.tables.positions.rows ↔
      position = new ∨ (position ∈ state.tables.positions.rows ∧ position.id ≠ new.id) := by
    intro position
    rw [opens.saved]
    exact Table.mem_save
  constructor
  · intro holds
    have notClosed := (holds.closed new ((stored new).mpr (Or.inl rfl)) staking).not
    rw [opens.active] at notClosed
    exact lt_of_le_of_ne opens.nonneg fun zero => notClosed.mp nofun zero.symm
  · intro positive
    refine ⟨fun position member type => ?_, (frozen_after opens.closings).mpr fun closing member => ?_,
      fun position member type => ?_, opens.withdrawals ▸ accounted.covered⟩
    · rcases (stored position).mp member with rfl | ⟨old, _⟩
      · rw [opens.active]
        exact iff_of_false nofun positive.ne'
      · exact accounted.closed position old type
    · obtain ⟨position, old, named, closed, same⟩ := accounted.frozen closing member
      have other : position.id ≠ new.id := fun equal =>
        Table.findOne_eq_none.mp opens.fresh (equal ▸ List.mem_map_of_mem old)
      exact ⟨position, (stored position).mpr (Or.inr ⟨old, other⟩), named, closed, same⟩
    · unfold compoundedTo withdrawnFrom
      rw [opens.withdrawals, opens.compoundings]
      rcases (stored position).mp member with rfl | ⟨old, _⟩
      · obtain ⟨nothingIn, nothingOut⟩ := kept.untouched opens.fresh
        unfold compoundedTo at nothingIn
        unfold withdrawnFrom at nothingOut
        rw [nothingIn, nothingOut, opens.staked, add_zero, sub_zero]
      · exact accounted.balance position old type

theorem Changes.stored (changes : Changes state after old new taken given) (position : StakingPosition) :
    position ∈ after.tables.positions.rows ↔
      position = new ∨ (position ∈ state.tables.positions.rows ∧ position.id ≠ old.id) := by
  rw [changes.saved, ← changes.sameId]
  exact Table.mem_save

theorem Changes.old_mem (changes : Changes state after old new taken given) :
    old ∈ state.tables.positions.rows := Table.findOne_mem changes.found

theorem Changes.eq_old (changes : Changes state after old new taken given) {position : StakingPosition}
    (member : position ∈ state.tables.positions.rows) (named : position.id = old.id) : position = old :=
  Table.eq_of_key_eq member changes.old_mem named

theorem Changes.kept (changes : Changes state after old new taken given) (kept : Kept state) : Kept after := by
  have ids : after.tables.positions.rows.map (fun position => position.id) =
      state.tables.positions.rows.map fun position => position.id := by
    have present : new.id ∈ state.tables.positions.rows.map fun position => position.id := by
      rw [changes.sameId]
      exact List.mem_map_of_mem changes.old_mem
    rw [changes.saved]
    exact Table.save_keys present
  refine ⟨recorded_after changes.closings, fun position member staking => ?_, fun entry member => ?_,
    fun entry member => ?_⟩
  · rcases (changes.stored position).mp member with rfl | ⟨before, _⟩
    · exact changes.nonneg (kept.nonneg old changes.old_mem (changes.sameType.symm.trans staking))
    · exact kept.nonneg position before staking
  · rw [ids]
    rw [changes.withdrawals] at member
    rcases List.mem_append.mp member with before | now
    · exact kept.withdrawals entry before
    · rw [(changes.covered entry now).1]
      exact List.mem_map_of_mem changes.old_mem
  · rw [ids]
    rw [changes.compoundings] at member
    rcases List.mem_append.mp member with before | now
    · exact kept.compoundings entry before
    · rw [changes.own entry now]
      exact List.mem_map_of_mem changes.old_mem

theorem Changes.withdrawnFrom (changes : Changes state after old new taken given) (id : String) :
    StakingAccounts.withdrawnFrom after id =
      StakingAccounts.withdrawnFrom state id + if id = old.id then (taken.map (·.amount)).sum else 0 := by
  unfold StakingAccounts.withdrawnFrom
  rw [changes.withdrawals, List.filter_append, List.map_append, List.sum_append]
  congr 1
  split
  next same =>
    rw [List.filter_eq_self.mpr fun entry member => decide_eq_true ((changes.covered entry member).1.trans same.symm)]
  next other =>
    rw [List.filter_eq_nil_iff.mpr fun entry member named =>
      other ((of_decide_eq_true named).symm.trans (changes.covered entry member).1)]
    rfl

theorem Changes.compoundedTo (changes : Changes state after old new taken given) (id : String) :
    StakingAccounts.compoundedTo after id =
      StakingAccounts.compoundedTo state id + if id = old.id then (given.map (·.amount)).sum else 0 := by
  unfold StakingAccounts.compoundedTo
  rw [changes.compoundings, List.filter_append, List.map_append, List.sum_append]
  congr 1
  split
  next same =>
    rw [List.filter_eq_self.mpr fun entry member => decide_eq_true ((changes.own entry member).trans same.symm)]
  next other =>
    rw [List.filter_eq_nil_iff.mpr fun entry member named =>
      other ((of_decide_eq_true named).symm.trans (changes.own entry member))]
    rfl

/-- A changed position is in order exactly when it is closed as it is empty and stays as it is if it was closed. -/
theorem Changes.balances_iff (changes : Changes state after old new taken given) (kept : Kept state)
    (accounted : Accounted state) :
    Accounted after ↔ (old.positionType = .staking → (new.status = .closed ↔ new.currentAmount = 0)) ∧
      (Closed old → Closed new ∧ amountsOf new = amountsOf old) := by
  have newStored := (changes.stored new).mpr (Or.inl rfl)
  constructor
  · intro holds
    refine ⟨fun staking => holds.closed new newStored (changes.sameType.trans staking), fun closed => ?_⟩
    obtain ⟨closing, recorded, named⟩ := List.mem_map.mp (kept.recorded old changes.old_mem closed)
    obtain ⟨before, wasStored, isNamed, _, had⟩ := accounted.frozen closing recorded
    obtain rfl := changes.eq_old wasStored (isNamed.trans named)
    obtain ⟨later, isStored, laterNamed, laterClosed, has⟩ :=
      (frozen_after changes.closings).mp holds.frozen closing recorded
    rcases (changes.stored later).mp isStored with rfl | ⟨_, other⟩
    · exact ⟨laterClosed, has.trans had.symm⟩
    · exact absurd (laterNamed.trans named) other
  · rintro ⟨closedIff, stays⟩
    refine ⟨fun position member staking => ?_, (frozen_after changes.closings).mpr fun closing member => ?_,
      fun position member staking => ?_, fun entry member => ?_⟩
    · rcases (changes.stored position).mp member with rfl | ⟨before, _⟩
      · exact closedIff (changes.sameType.symm.trans staking)
      · exact accounted.closed position before staking
    · obtain ⟨before, wasStored, named, closed, had⟩ := accounted.frozen closing member
      by_cases same : before.id = old.id
      · obtain rfl := changes.eq_old wasStored same
        obtain ⟨stillClosed, kept⟩ := stays closed
        exact ⟨new, newStored, changes.sameId.trans named, stillClosed, kept.trans had⟩
      · exact ⟨before, (changes.stored before).mpr (Or.inr ⟨wasStored, same⟩), named, closed, had⟩
    · rw [changes.withdrawnFrom, changes.compoundedTo]
      rcases (changes.stored position).mp member with rfl | ⟨before, other⟩
      · have balance := accounted.balance old changes.old_mem (changes.sameType.symm.trans staking)
        rw [changes.sameId, if_pos rfl, if_pos rfl, changes.samePrincipal, changes.current, balance]
        ring
      · rw [if_neg other, if_neg other, add_zero, add_zero]
        exact accounted.balance position before staking
    · rw [changes.withdrawals] at member
      rcases List.mem_append.mp member with before | now
      · exact accounted.covered entry before
      · exact (changes.covered entry now).2

end Effects

section Calls
variable {registered : DeFiProtocol → Bool} {state : Staking} {userId positionId : String}
  {saved : Except Exception Unit}

theorem owned_found {tables : StakingTables} {position : StakingPosition}
    (found : findOwnedPosition tables positionId userId = .ok position) :
    tables.positions.findOne position.id = some position ∧ position.id = positionId := by
  unfold findOwnedPosition at found
  split at found
  next stored isStored =>
    split at found
    next =>
      cases found
      have named := Table.findOne_key isStored
      exact ⟨named.symm ▸ isStored, named⟩
    next => cases found
  next => cases found

theorem getAdapter_known {protocol : DeFiProtocol} (known : registered protocol = true) :
    getAdapter registered protocol = .ok () := if_pos known

theorem getAdapter_unknown {protocol : DeFiProtocol} (unknown : ¬ registered protocol = true) :
    getAdapter registered protocol = .error (.error ("Protocol adapter not found: " ++ protocol.text)) :=
  if_neg unknown

theorem quiet_of {call : StakingCall}
    (positions : (perform registered state.tables call).positions = state.tables.positions)
    (nothingOut : withdrawn state.tables call = []) (nothingIn : compounded registered state.tables call = []) :
    Quiet state (step registered state call) :=
  ⟨positions, by simp [step, nothingOut], by simp [step, nothingIn], rfl⟩

/-- A stake opens a position where the adapter is known and the database takes it. -/
theorem stake_effect (dto : StakeDto) (fetchedApy : Except Exception ℚ) (id : String) (now : Nat) :
    (Quiet state (step registered state (.stake userId dto fetchedApy id now saved)) ∧
        ¬ (registered dto.protocol = true ∧ saved = .ok () ∧ state.tables.positions.findOne id = none)) ∨
      (registered dto.protocol = true ∧ saved = .ok () ∧ state.tables.positions.findOne id = none) ∧
        Opens state (step registered state (.stake userId dto fetchedApy id now saved))
          (newPosition userId dto (apyOf fetchedApy) id now) := by
  by_cases known : registered dto.protocol = true
  · cases taken : state.tables.positions.findOne id with
    | some position =>
      refine Or.inl ⟨quiet_of ?_ rfl rfl, fun accepted => absurd accepted.2.2 (by simp)⟩
      simp [perform, stake, getAdapter_known known, insertPosition, newPosition, taken]
    | none =>
      cases saved with
      | error failure =>
        refine Or.inl ⟨quiet_of ?_ rfl rfl, fun accepted => absurd accepted.2.1 (by simp)⟩
        simp [perform, stake, getAdapter_known known, insertPosition, newPosition, taken, savePosition]
      | ok done =>
        refine Or.inr ⟨⟨known, rfl, rfl⟩, taken, ?_, rfl, rfl, dto.amount.2, List.append_nil _,
          List.append_nil _, rfl⟩
        simp only [step, perform, stake, getAdapter_known known, insertPosition, newPosition, taken, savePosition,
          Option.isSome_none, Bool.false_eq_true, if_false]
  · refine Or.inl ⟨quiet_of ?_ rfl rfl, fun both => known both.1⟩
    simp [perform, stake, getAdapter_unknown known]

theorem unstake_effect (dto : UnstakeDto) : Quiet state (step registered state (.unstake userId dto saved)) ∨
      ∃ old, Changes state (step registered state (.unstake userId dto saved)) old (reduce old dto.amount)
        [⟨old.id, min dto.amount old.currentAmount, old.currentAmount⟩] [] := by
  cases found : findOwnedPosition state.tables dto.positionId userId with
  | error failure =>
    refine Or.inl (quiet_of ?_ ?_ rfl)
    · simp [perform, unstake, found]
    · simp [withdrawn, found]
  | ok old =>
    cases saved with
    | error failure =>
      refine Or.inl (quiet_of ?_ ?_ rfl)
      · simp [perform, unstake, found, savePosition]
      · simp [withdrawn, unstake, found, savePosition, Except.map]
    | ok done =>
      refine Or.inr ⟨old, (owned_found found).1, rfl, rfl, rfl, ?_, ?_, fun _ => le_max_left _ _, ?_, ?_,
        rfl, fun _ none => (nomatch none), rfl⟩
      · simp [step, perform, unstake, found, savePosition]
      · simp only [reduce, List.map_nil, List.sum_nil, add_zero, List.map_singleton, List.sum_singleton]
        rw [← max_sub_sub_left, sub_self, max_comm]
      · simp [step, withdrawn, unstake, found, savePosition, Except.map]
      · intro withdrawal only
        rw [List.mem_singleton.mp only]
        exact ⟨rfl, min_le_right _ _⟩

theorem claimRewards_effect (now : Nat) (rewards : Except Exception (List (RewardData × Except Exception String))) :
    (Quiet state (step registered state (.claimRewards userId positionId now rewards saved)) ∧
        ¬ ∃ old, findOwnedPosition state.tables positionId userId = .ok old ∧
          registered old.protocol = true ∧ saved = .ok ()) ∨
      ∃ old, (findOwnedPosition state.tables positionId userId = .ok old ∧
          registered old.protocol = true ∧ saved = .ok ()) ∧
        Changes state (step registered state (.claimRewards userId positionId now rewards saved)) old
          { old with accumulatedYield := old.accumulatedYield + (collect state.tables positionId now rewards).1 }
          [] [] := by
  cases found : findOwnedPosition state.tables positionId userId with
  | error failure =>
    refine Or.inl ⟨quiet_of ?_ rfl rfl, fun ⟨_, isOk, _⟩ => (nomatch isOk)⟩
    simp [perform, claimRewards, found]
  | ok old =>
    by_cases known : registered old.protocol = true
    · cases saved with
      | error failure =>
        refine Or.inl ⟨quiet_of ?_ rfl rfl, fun ⟨_, _, _, isOk⟩ => (nomatch isOk)⟩
        simp [perform, claimRewards, found, getAdapter_known known, savePosition]
      | ok done =>
        refine Or.inr ⟨old, ⟨rfl, known, rfl⟩, (owned_found found).1, rfl, rfl, rfl, ?_, ?_, fun zero => zero,
          rfl, fun _ none => (nomatch none), rfl, fun _ none => (nomatch none), rfl⟩
        · simp [step, perform, claimRewards, found, getAdapter_known known, savePosition]
        · simp
    · refine Or.inl ⟨quiet_of ?_ rfl rfl, ?_⟩
      · simp [perform, claimRewards, found, getAdapter_unknown known]
      · rintro ⟨_, isOk, isKnown, _⟩
        cases isOk
        exact known isKnown

theorem autoCompound_effect (rewards : Except Exception (List RewardData)) :
    (Quiet state (step registered state (.autoCompound userId positionId rewards saved)) ∧
        ¬ ∃ old, findOwnedPosition state.tables positionId userId = .ok old ∧ old.autoCompoundEnabled = true ∧
          registered old.protocol = true ∧ saved = .ok () ∧ 0 < compoundable rewards) ∨
      ∃ old, (findOwnedPosition state.tables positionId userId = .ok old ∧ old.autoCompoundEnabled = true ∧
          registered old.protocol = true ∧ saved = .ok () ∧ 0 < compoundable rewards) ∧
        Changes state (step registered state (.autoCompound userId positionId rewards saved)) old { old with
            currentAmount := old.currentAmount + compoundable rewards
            accumulatedYield := old.accumulatedYield + compoundable rewards }
          [] [⟨positionId, compoundable rewards⟩] := by
  cases found : findOwnedPosition state.tables positionId userId with
  | error failure =>
    refine Or.inl ⟨quiet_of ?_ rfl ?_, fun ⟨_, isOk, _⟩ => (nomatch isOk)⟩
    · simp [perform, autoCompound, found]
    · simp [compounded, autoCompound, found]
  | ok old =>
    by_cases met : old.autoCompoundEnabled = true ∧ registered old.protocol = true ∧ saved = .ok () ∧
        0 < compoundable rewards
    · obtain ⟨enabled, known, rfl, positive⟩ := met
      obtain ⟨isStored, named⟩ := owned_found found
      refine Or.inr ⟨old, ⟨rfl, enabled, known, rfl, positive⟩, isStored, rfl, rfl, rfl, ?_, ?_,
        fun zero => add_nonneg zero positive.le, ?_, fun _ none => (nomatch none), ?_, ?_, rfl⟩
      · simp [step, perform, autoCompound, found, enabled, getAdapter_known known, positive, savePosition]
      · simp
      · rfl
      · simp [step, compounded, autoCompound, found, enabled, getAdapter_known known, positive, savePosition,
          Except.map]
      · intro compounding only
        rw [List.mem_singleton.mp only]
        exact named.symm
    · refine Or.inl ⟨?_, fun ⟨_, isOk, rest⟩ => ?_⟩
      · by_cases enabled : old.autoCompoundEnabled = true
        · by_cases known : registered old.protocol = true
          · by_cases positive : 0 < compoundable rewards
            · cases saved with
              | error failure =>
                refine quiet_of ?_ rfl ?_
                · simp [perform, autoCompound, found, enabled, getAdapter_known known, positive, savePosition]
                · simp [compounded, autoCompound, found, enabled, getAdapter_known known, positive, savePosition,
                    Except.map]
              | ok done => exact absurd ⟨enabled, known, rfl, positive⟩ met
            · refine quiet_of ?_ rfl ?_
              · simp [perform, autoCompound, found, enabled, getAdapter_known known, positive]
              · simp [compounded, autoCompound, found, enabled, getAdapter_known known, positive]
          · refine quiet_of ?_ rfl ?_
            · simp [perform, autoCompound, found, enabled, getAdapter_unknown known]
            · simp [compounded, autoCompound, found, enabled, getAdapter_unknown known]
        · refine quiet_of ?_ rfl ?_
          · simp [perform, autoCompound, found, enabled]
          · simp [compounded, autoCompound, found, enabled]
      · cases isOk
        exact met rest

theorem setAutoCompound_effect (enabled : Bool) :
    Quiet state (step registered state (.setAutoCompound userId positionId enabled saved)) ∨
      ∃ old, Changes state (step registered state (.setAutoCompound userId positionId enabled saved)) old
        { old with autoCompoundEnabled := enabled } [] [] := by
  cases found : findOwnedPosition state.tables positionId userId with
  | error failure =>
    refine Or.inl (quiet_of ?_ rfl rfl)
    simp [perform, setAutoCompound, found]
  | ok old =>
    cases saved with
    | error failure =>
      refine Or.inl (quiet_of ?_ rfl rfl)
      simp [perform, setAutoCompound, found, savePosition]
    | ok done =>
      refine Or.inr ⟨old, (owned_found found).1, rfl, rfl, rfl, ?_, ?_, fun zero => zero,
        rfl, fun _ none => (nomatch none), rfl, fun _ none => (nomatch none), rfl⟩
      · simp [step, perform, setAutoCompound, found, savePosition]
      · simp

theorem reduce_orderly {old : StakingPosition} {amount : ℚ} (nonneg : 0 ≤ amount)
    (closedIff : old.positionType = .staking → (old.status = .closed ↔ old.currentAmount = 0)) :
    (old.positionType = .staking → ((reduce old amount).status = .closed ↔ (reduce old amount).currentAmount = 0)) ∧
      (Closed old → Closed (reduce old amount) ∧ amountsOf (reduce old amount) = amountsOf old) := by
  have empty : old.currentAmount = 0 → (reduce old amount).currentAmount = 0 := by
    intro zero
    simp only [reduce, zero, zero_sub]
    exact max_eq_left (neg_nonpos.mpr nonneg)
  constructor
  · intro staking
    by_cases left : (reduce old amount).currentAmount = 0
    · exact iff_of_true (if_pos left) left
    · refine iff_of_false (fun closed => ?_) left
      have before : old.status = .closed := (if_neg left).symm.trans closed
      exact left (empty ((closedIff staking).mp before))
  · rintro ⟨staking, closed⟩
    have zero := (closedIff staking).mp closed
    have left := empty zero
    refine ⟨⟨staking, if_pos left⟩, ?_⟩
    unfold amountsOf
    rw [left, zero]
    rfl

/-- Each call keeps what all runs keep, and keeps the accounts in order exactly when it is proper. -/
theorem step_sound (kept : Kept state) (accounted : Accounted state) (call : StakingCall) :
    Kept (step registered state call) ∧ (Accounted (step registered state call) ↔ Proper registered state call) := by
  cases call with
  | stake userId dto fetchedApy id now saved =>
    rcases stake_effect dto fetchedApy id now with ⟨quiet, not⟩ | ⟨⟨known, isOk, fresh⟩, opens⟩
    · exact ⟨quiet.kept kept, iff_of_true (quiet.accounted accounted) fun known isOk fresh =>
        absurd ⟨known, isOk, fresh⟩ not⟩
    · refine ⟨opens.kept kept, (opens.balances_iff kept accounted rfl).trans ?_⟩
      exact NNRat.cast_pos.trans ⟨fun positive _ _ _ => positive, fun proper => proper known isOk fresh⟩
  | unstake userId dto saved =>
    rcases unstake_effect dto with quiet | ⟨old, changes⟩
    · exact ⟨quiet.kept kept, iff_of_true (quiet.accounted accounted) trivial⟩
    · exact ⟨changes.kept kept, iff_of_true ((changes.balances_iff kept accounted).mpr
        (reduce_orderly dto.amount.2 (accounted.closed old changes.old_mem))) trivial⟩
  | claimRewards userId positionId now rewards saved =>
    rcases claimRewards_effect now rewards with ⟨quiet, not⟩ | ⟨old, ⟨found, known, isOk⟩, changes⟩
    · exact ⟨quiet.kept kept, iff_of_true (quiet.accounted accounted) fun old found _ known isOk =>
        absurd ⟨old, found, known, isOk⟩ not⟩
    · refine ⟨changes.kept kept, (changes.balances_iff kept accounted).trans ?_⟩
      rw [and_iff_right (accounted.closed old changes.old_mem)]
      constructor
      · intro stays other isFound closed _ _
        rw [found] at isFound
        cases isFound
        have same := congrArg Amounts.accumulated (stays closed).2
        exact add_eq_left.mp same
      · intro proper closed
        refine ⟨closed, ?_⟩
        unfold amountsOf
        dsimp only
        rw [proper old found closed known isOk, add_zero]
  | autoCompound userId positionId rewards saved =>
    rcases autoCompound_effect rewards with ⟨quiet, not⟩ | ⟨old, ⟨found, enabled, known, isOk, positive⟩, changes⟩
    · refine ⟨quiet.kept kept, iff_of_true (quiet.accounted accounted) fun old found _ enabled known isOk => ?_⟩
      exact not_lt.mp fun positive => not ⟨old, found, enabled, known, isOk, positive⟩
    · refine ⟨changes.kept kept, (changes.balances_iff kept accounted).trans ?_⟩
      constructor
      · rintro ⟨closedIff, _⟩ other isFound closed _ _ _
        rw [found] at isFound
        cases isFound
        have before := (accounted.closed old changes.old_mem closed.1).mp closed.2
        have grown := (closedIff closed.1).mp closed.2
        rw [before, zero_add] at grown
        exact grown.le
      · intro proper
        have opened : ¬ Closed old := fun closed =>
          absurd positive (not_lt.mpr (proper old found closed enabled known isOk))
        refine ⟨fun staking => iff_of_false (fun closed => opened ⟨staking, closed⟩) ?_,
          fun closed => absurd closed opened⟩
        exact (add_pos_of_nonneg_of_pos (kept.nonneg old changes.old_mem staking) positive).ne'
  | setAutoCompound userId positionId enabled saved =>
    rcases setAutoCompound_effect enabled with quiet | ⟨old, changes⟩
    · exact ⟨quiet.kept kept, iff_of_true (quiet.accounted accounted) trivial⟩
    · exact ⟨changes.kept kept, iff_of_true ((changes.balances_iff kept accounted).mpr
        ⟨accounted.closed old changes.old_mem, fun closed => ⟨closed, rfl⟩⟩) trivial⟩

end Calls

/-- In a run that starts without staking positions the accounts are in order throughout exactly when every call is
proper. -/
theorem staking_accounted_iff (registered : DeFiProtocol → Bool) (tables : StakingTables)
    (none : ∀ position ∈ tables.positions.rows, position.positionType ≠ .staking) (calls : List StakingCall) :
    (∀ reached ∈ states (step registered) (opening tables) calls, Accounted reached) ↔
      Meets (step registered) (Proper registered) (opening tables) calls := by
  have kept : Kept (opening tables) := ⟨fun position member closed => absurd closed.1 (none position member),
    fun position member staking => absurd staking (none position member), fun _ none => (nomatch none),
    fun _ none => (nomatch none)⟩
  have accounted : Accounted (opening tables) := ⟨fun position member staking => absurd staking (none position member),
    fun _ none => (nomatch none), fun position member staking => absurd staking (none position member),
    fun _ none => (nomatch none)⟩
  exact @claim_iff_meets _ _ (step registered) Accounted (fun state => Kept state ∧ Accounted state)
    (Proper registered) (fun _ holds => holds.2) (fun _ call holds => (step_sound holds.1 holds.2 call).2)
    (fun _ call holds after => ⟨(step_sound holds.1 holds.2 call).1, after⟩) calls _ ⟨kept, accounted⟩

def noTables : StakingTables := ⟨.empty, .empty⟩

/-- A stake of 10 that is to be compounded, all of which is unstaked before rewards are compounded. -/
def closedThenCompounded (rewards : List RewardData) : List StakingCall :=
  [.stake "u" ⟨.lido, "0xabc", "ETH", 10, some true⟩ (.ok 5) "p" 0 (.ok ()),
    .unstake "u" ⟨"p", 10⟩ (.ok ()), .autoCompound "u" "p" (.ok rewards) (.ok ())]

/-- Without a reward that can be claimed, the accounts are in order at the end. -/
theorem accounted_without_rewards :
    Accounted ((closedThenCompounded []).foldl (step fun _ => true) (opening noTables)) := by
  have nothing : compoundable (.ok []) = 0 := rfl
  refine (staking_accounted_iff (fun _ => true) noTables (fun _ none => (nomatch none)) (closedThenCompounded [])).mpr
    ⟨?_, ?_, ?_, trivial⟩ _ (final_mem_states (step fun _ => true) (closedThenCompounded []) (opening noTables))
  · intro _ _ _
    decide
  · trivial
  · intro _ _ _ _ _ _
    exact nothing.le

/-- A reward is compounded into a position that is closed. -/
theorem closed_position_compounded : ¬ ∀ (registered : DeFiProtocol → Bool) (tables : StakingTables),
    (∀ position ∈ tables.positions.rows, position.positionType ≠ .staking) → ∀ calls,
    ∀ reached ∈ states (step registered) (opening tables) calls, Accounted reached := by
  intro accounted
  have final := accounted (fun _ => true) noTables (fun _ none => (nomatch none)) (closedThenCompounded [⟨"ETH", 1, 1, 5, true⟩]) _
    (final_mem_states (step fun _ => true) (closedThenCompounded [⟨"ETH", 1, 1, 5, true⟩]) (opening noTables))
  obtain ⟨position, stored, staking, closed, left⟩ := (by decide +kernel : ∃ position ∈
    ((closedThenCompounded [⟨"ETH", 1, 1, 5, true⟩]).foldl (step fun _ => true)
      (opening noTables)).tables.positions.rows,
    position.positionType = .staking ∧ position.status = .closed ∧ position.currentAmount ≠ 0)
  exact left ((final.closed position stored staking).mp closed)

end AlianStructure.Guarantees.StakingAccounts
