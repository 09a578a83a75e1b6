import Mathlib.Tactic.MkIffOfInductiveProp
import AlianStructure.Guarantees.WalletsInTurn

/-!
# The primary wallet of an account

Source: wallet-auth.service.ts:266-360,415-522. The three methods that choose a primary
wallet, one call at a time. unlinkWallet leaves the mark on the wallet it unlinks, and the
two methods that change the address of the account do so after the wallet, so a duplicate
address there leaves the two apart.
-/
namespace AlianStructure.Guarantees.PrimaryWallet
open Library.Interleaving Library.CallsInTurn Library.KeyedTable
open Source Source.Auth AuthCalls AuthInTurn WalletsInTurn

/-- The process, open to the methods that choose a primary wallet, and to the challenges that
are signed for them. -/
def managesWallets : AuthCall → Bool
  | .issueChallengeForAddress _ => true
  | .linkWallet _ _ _ _ _ _ _ | .setPrimaryWallet _ _ | .unlinkWallet _ _ => true
  | _ => false

/-! ## The invariant and the condition -/

/-- An account has at most one primary wallet, which is active and whose address is that of
the account. -/
@[mk_iff]
structure Designated (world : AuthWorld) : Prop where
  single : ∀ a ∈ world.wallets.rows, ∀ b ∈ world.wallets.rows, a.isPrimary = true →
    b.isPrimary = true → a.userId = b.userId → a = b
  active : ∀ wallet ∈ world.wallets.rows, wallet.isPrimary = true → wallet.status = .active
  address : ∀ wallet ∈ world.wallets.rows, wallet.isPrimary = true →
    ∀ user ∈ world.users.rows, user.id = wallet.userId → user.walletAddress = wallet.address

instance Designated.decidable (world : AuthWorld) : Decidable (Designated world) :=
  decidable_of_iff' _ (designated_iff world)

/-- The account may get the address: the row it would have clashes with no other. -/
def AddressFree (world : AuthWorld) (userId address : String) : Prop :=
  ∀ user ∈ world.users.rows, user.id = userId → ∀ other ∈ world.users.rows, other.id ≠ userId →
    (UserChange.apply user (.walletAddress address)).clashes other = false

/-- The condition on a call: it does not unlink a primary wallet, unless this is refused, and
an address it would give the account is free. -/
def Meets (state : AuthWorld × AuthMemory) : AuthCall → Prop
  | .linkWallet currentUserId newWalletAddress _ _ _ _ _ =>
    (∀ wallet ∈ state.1.wallets.rows, wallet.userId ≠ currentUserId ∧
      wallet.address ≠ toLowerCase newWalletAddress) →
      AddressFree state.1 currentUserId (toLowerCase newWalletAddress)
  | .setPrimaryWallet walletId userId =>
    ∀ wallet ∈ state.1.wallets.rows, wallet.id = walletId → wallet.userId = userId →
      wallet.status = .active → AddressFree state.1 userId wallet.address
  | .unlinkWallet userId walletId =>
    ∀ wallet ∈ state.1.wallets.rows, wallet.id = walletId → wallet.userId = userId →
      wallet.isPrimary = true → RecoveryRefused state.1 userId
  | _ => True

instance (world : AuthWorld) (userId address : String) : Decidable (AddressFree world userId address) :=
  @List.decidableBAll _ _ (fun _ => inferInstance) _

instance (world : AuthWorld) (userId : String) : Decidable (RecoveryRefused world userId) :=
  inferInstanceAs (Decidable (_ ∧ _))

instance Meets.decidable (state : AuthWorld × AuthMemory) (call : AuthCall) :
    Decidable (Meets state call) :=
  match call with
  | .linkWallet _ _ _ _ _ _ _ => @instDecidableForall _ _ inferInstance inferInstance
  | .setPrimaryWallet _ _ | .unlinkWallet _ _ => @List.decidableBAll _ _ (fun _ => inferInstance) _
  | .register _ _ _ | .login _ _ _ _ | .refreshToken _ _ _ | .setupTwoFactor _ | .verifyTwoFactorSetup _ _
  | .verifyTwoFactorLogin _ _ _ | .regenerateBackupCodes _ _ | .disableTwoFactor _ _ | .issueChallengeForAddress _
  | .verifySignatureAndIssueToken _ _ | .verifyWalletTwoFactorAndIssueToken _ _ | .requestDelegation _ _
  | .completeDelegation _ _ _ | .revokeDelegation _ _ | .verifyDelegationPermission _ _ | .cleanupExpiredDelegations
  | .initiateEmailLinking _ _ | .verifyEmailAndLink _ | .unlinkEmail _ | .adminRequest _ => isTrue trivial

/-- Any operation may fail, but for the change of an account. -/
def changesSucceed (config : AuthConfig) : Fairness (authProcess config managesWallets) :=
  fun op choice =>
    match op, choice with
    | .updateUser _ _, .fails _ => False
    | _, _ => True

instance changesSucceed.decidable (config : AuthConfig) (op : AuthOp) (choice : AuthOutcome) :
    Decidable (changesSucceed config op choice) := by
  unfold changesSucceed
  split <;> infer_instance

/-! ## What the operations do to the invariant -/

theorem designated_congr {world other : AuthWorld} (users : other.users = world.users)
    (wallets : other.wallets = world.wallets) (designated : Designated world) : Designated other where
  single := by
    rw [wallets]
    exact designated.single
  active := by
    rw [wallets]
    exact designated.active
  address := by
    rw [wallets, users]
    exact designated.address

theorem designated_stable (config : AuthConfig) :
    Stable (authProcess config managesWallets) fun state => Designated state.1 :=
  fun _ _ designated => ⟨designated.single, designated.active, designated.address⟩

variable {world : AuthWorld}

theorem Designated.same {state : AuthWorld × AuthMemory} (designated : Designated world)
    (same : Same world state) : Designated state.1 :=
  designated_congr same.1 same.2 designated

theorem Designated.fewer {wallets : Table Wallet Wallet.id} (designated : Designated world)
    (old : ∀ wallet ∈ wallets.rows, wallet.isPrimary = true → wallet ∈ world.wallets.rows) :
    Designated { world with wallets := wallets } where
  single a ma b mb pa pb := designated.single a (old a ma pa) b (old b mb pb) pa pb
  active wallet member primary := designated.active wallet (old wallet member primary) primary
  address wallet member primary := designated.address wallet (old wallet member primary) primary

theorem Designated.save {wallet : Wallet} (designated : Designated world) (secondary : wallet.isPrimary = false) :
    Designated { world with wallets := world.wallets.save wallet } := by
  refine designated.fewer fun other member primary => ?_
  rcases Table.mem_save.mp member with rfl | ⟨before, _⟩
  · rw [secondary] at primary
    cases primary
  · exact before

/-- All is as it should be but for the address of one account, which has this wallet as
its only primary one. -/
structure Chosen (world : AuthWorld) (chosen : Wallet) : Prop where
  active : ∀ wallet ∈ world.wallets.rows, wallet.isPrimary = true → wallet.status = .active
  single : ∀ a ∈ world.wallets.rows, ∀ b ∈ world.wallets.rows, a.isPrimary = true →
    b.isPrimary = true → a.userId = b.userId → a = b
  mine : ∀ wallet ∈ world.wallets.rows, wallet.isPrimary = true → wallet.userId = chosen.userId →
    wallet.address = chosen.address
  others : ∀ wallet ∈ world.wallets.rows, wallet.isPrimary = true → wallet.userId ≠ chosen.userId →
    ∀ user ∈ world.users.rows, user.id = wallet.userId → user.walletAddress = wallet.address

theorem updateUser_address {userId address : String}
    (updated : (world.updateUser userId (.walletAddress address)).2 = .ok ()) :
    ∀ user ∈ (world.updateUser userId (.walletAddress address)).1.users.rows,
      (user.id = userId → user.walletAddress = address) ∧ (user.id ≠ userId → user ∈ world.users.rows) := by
  unfold AuthWorld.updateUser at updated ⊢
  cases found : world.users.findOne userId with
  | none =>
    intro user member
    refine ⟨fun here => ?_, fun _ => member⟩
    exact absurd (List.mem_map.mpr ⟨user, member, here⟩) (Table.findOne_eq_none.mp found)
  | some owner =>
    rw [found] at updated
    dsimp only at updated ⊢
    split at updated
    next => cases updated
    next free =>
      rw [if_neg free]
      have named : owner.id = userId := Table.findOne_key found
      intro user member
      rcases Table.mem_save.mp member with rfl | ⟨before, differs⟩
      · exact ⟨fun _ => rfl, fun other => absurd named other⟩
      · exact ⟨fun here => absurd (here.trans named.symm) differs, fun _ => before⟩

theorem Chosen.designated {chosen : Wallet} (holds : Chosen world chosen)
    (updated : (world.updateUser chosen.userId (.walletAddress chosen.address)).2 = .ok ()) :
    Designated (world.updateUser chosen.userId (.walletAddress chosen.address)).1 := by
  have wallets := (updateUser_frame world chosen.userId (.walletAddress chosen.address)).1
  refine ⟨?_, ?_, ?_⟩
  · rw [wallets]
    exact holds.single
  · rw [wallets]
    exact holds.active
  · rw [wallets]
    intro wallet member primary user listed owner
    obtain ⟨changed, kept⟩ := updateUser_address updated user listed
    by_cases mine : wallet.userId = chosen.userId
    · rw [changed (owner.trans mine), holds.mine wallet member primary mine]
    · have other : user.id ≠ chosen.userId := fun same => mine (owner.symm.trans same)
      exact holds.others wallet member primary mine user (kept other) owner

theorem AddressFree.updates {userId address : String} (free : AddressFree world userId address) :
    (world.updateUser userId (.walletAddress address)).2 = .ok () := by
  unfold AuthWorld.updateUser
  cases found : world.users.findOne userId with
  | none => rfl
  | some owner =>
    dsimp only
    have clear : ¬ (world.users.rows.any fun other => decide (other.id ≠ userId) &&
        (UserChange.apply owner (.walletAddress address)).clashes other) = true := by
      rw [List.any_eq_true]
      rintro ⟨other, member, clash⟩
      rw [Bool.and_eq_true, decide_eq_true_eq] at clash
      rw [free owner (Table.findOne_mem found) (Table.findOne_key found) other member
        clash.1] at clash
      exact absurd clash.2 (by simp)
    rw [if_neg clear]

theorem mem_unsetPrimary {wallets : Table Wallet Wallet.id} {userId : String} {wallet : Wallet}
    (member : wallet ∈ (unsetPrimary userId wallets).rows) (primary : wallet.isPrimary = true) :
    wallet ∈ wallets.rows ∧ wallet.userId ≠ userId := by
  obtain ⟨stored, listed, rfl⟩ := List.mem_map.mp member
  split at primary
  next => cases primary
  next kept =>
    rw [if_neg kept]
    refine ⟨listed, fun mine => kept ?_⟩
    simp [mine, primary]

theorem Designated.unset (designated : Designated world) (userId : String) :
    Designated { world with wallets := unsetPrimary userId world.wallets } :=
  designated.fewer fun _ member primary => (mem_unsetPrimary member primary).1

theorem Designated.choose (designated : Designated world) (chosen : Wallet) (active : chosen.status = .active)
    (free : ∀ wallet ∈ world.wallets.rows, wallet.isPrimary = true → wallet.userId ≠ chosen.userId) :
    Chosen { world with wallets := world.wallets.save chosen } chosen where
  active wallet member primary := by
    rcases Table.mem_save.mp member with rfl | ⟨before, _⟩
    · exact active
    · exact designated.active wallet before primary
  single a ma b mb pa pb same := by
    rcases Table.mem_save.mp ma with rfl | ⟨old, _⟩ <;>
      rcases Table.mem_save.mp mb with rfl | ⟨old', _⟩
    · rfl
    · exact absurd same.symm (free b old' pb)
    · exact absurd same (free a old pa)
    · exact designated.single a old b old' pa pb same
  mine wallet member primary mine := by
    rcases Table.mem_save.mp member with rfl | ⟨before, _⟩
    · rfl
    · exact absurd mine (free wallet before primary)
  others wallet member primary other := by
    rcases Table.mem_save.mp member with rfl | ⟨before, _⟩
    · exact absurd rfl other
    · exact designated.address wallet before primary

/-! ## The calls -/

variable {final : AuthWorld × AuthMemory} {config : AuthConfig}

theorem Chosen.addressed {chosen : Wallet} (holds : Chosen world chosen)
    (free : AddressFree world chosen.userId chosen.address)
    (addressed : Addressed (changesSucceed config) world chosen.userId chosen.address final) :
    Designated final.1 := by
  rcases addressed with ⟨updated, same⟩ | ⟨refused, _⟩
  · exact (holds.designated updated).same same
  · obtain ⟨_, impossible⟩ := refused free.updates
    exact impossible.elim

theorem Designated.linkWallet {currentUserId address : String} (designated : Designated world)
    (free : (∀ wallet ∈ world.wallets.rows, wallet.userId ≠ currentUserId ∧
      wallet.address ≠ address) → AddressFree world currentUserId address)
    (ended : LinkWallet (changesSucceed config) world currentUserId address final) : Designated final.1 := by
  rcases ended with same | ⟨wallet, linked, ended⟩
  · exact designated.same same
  · split at ended
    next primary =>
      have first := linked.primary.mp primary
      obtain rfl := linked.owner
      obtain rfl := linked.named
      have chosen := designated.choose wallet linked.active fun other member _ => first other member
      exact chosen.addressed (free fun other member =>
        ⟨first other member, linked.unused other member⟩) ended
    next secondary =>
      exact (designated.save (Bool.eq_false_iff.mpr secondary)).same ended

theorem Designated.setPrimaryWallet {walletId userId : String} (designated : Designated world)
    (free : ∀ wallet ∈ world.wallets.rows, wallet.id = walletId → wallet.userId = userId →
      wallet.status = .active → AddressFree world userId wallet.address)
    (ended : SetPrimaryWallet (changesSucceed config) world walletId userId final) : Designated final.1 := by
  rcases ended with same | ⟨wallet, member, named, rfl, active, ended⟩
  · exact designated.same same
  · rcases ended with same | addressed
    · exact (designated.unset wallet.userId).same same
    · have chosen := (designated.unset wallet.userId).choose (asPrimary wallet) active
        fun other member primary => (mem_unsetPrimary member primary).2
      exact chosen.addressed (free wallet member named rfl active) addressed

theorem Designated.unlinkWallet {userId walletId : String} (designated : Designated world)
    (refused : ∀ wallet ∈ world.wallets.rows, wallet.id = walletId → wallet.userId = userId →
      wallet.isPrimary = true → RecoveryRefused world userId)
    (ended : UnlinkWallet (changesSucceed config) world userId walletId final) : Designated final.1 := by
  rcases ended with same | ⟨wallet, member, named, owned, passed, ended⟩
  · exact designated.same same
  · have secondary : wallet.isPrimary = false := by
      by_contra primary
      exact passed (refused wallet member named owned (Bool.eq_true_of_not_eq_false primary))
    rcases ended with same | ⟨primary, _⟩
    · have unlinked : (asUnlinked wallet).isPrimary = false := secondary
      exact (designated.save unlinked).same same
    · rw [secondary] at primary
      cases primary

theorem designated_call (config : AuthConfig) (state : AuthWorld × AuthMemory) (call : AuthCall)
    (isPublic : managesWallets call = true) (designated : Designated state.1) (meets : Meets state call) :
    Ends (authProcess config managesWallets) (changesSucceed config) state (authBody config call)
      fun final _ => Designated final.1 := by
  have here : Same state.1 state := ⟨rfl, rfl⟩
  cases call with
  | issueChallengeForAddress address =>
    exact ends_returning (ends_mono (fun _ _ same => designated.same same)
      (issueChallenge_ends here address))
  | linkWallet currentUserId newWalletAddress message signature walletName permissions clientInfo =>
    exact ends_returning (ends_mono (fun _ _ ended => designated.linkWallet meets ended)
      (linkWallet_ends here _ _ _ _ _ _ _))
  | setPrimaryWallet walletId userId =>
    exact ends_returning (ends_mono (fun _ _ ended => designated.setPrimaryWallet meets ended)
      (setPrimaryWallet_ends here walletId userId))
  | unlinkWallet userId walletId =>
    exact ends_returning (ends_mono (fun _ _ ended => designated.unlinkWallet meets ended)
      (unlinkWallet_ends here userId walletId))
  | _ => cases isPublic

/-- In every run of calls in turn that meet their condition, each account has at most one
primary wallet, which is active and whose address is that of the account. -/
theorem one_primary_wallet (config : AuthConfig) (world : AuthWorld) (mem : AuthMemory)
    (start : Designated world) (labels : List (Label (authProcess config managesWallets)))
    (after : Config (authProcess config managesWallets))
    (inTurn : Admissible (InTurn (changesSucceed config) Meets) labels
      (Config.initial (authProcess config managesWallets) world mem))
    (ran : run labels (Config.initial (authProcess config managesWallets) world mem) = some after)
    (allEnded : AllEnded after) : Designated after.world :=
  holds_in_turn (designated_stable config) (designated_call config) start inTurn ran allEnded

abbrev unlinkedStart : Config (authProcess sampleConfig managesWallets) :=
  Config.initial (authProcess sampleConfig managesWallets) sampleAuthWorld sampleAuthMemory

/-- An account links its first wallet. -/
def firstWallet : List (Label (authProcess sampleConfig managesWallets)) :=
  [.call (.issueChallengeForAddress "0xA"), .resume 0,
    .call (.linkWallet "u1" "0xA" "Sign this message to authenticate: r" "0xA" none none
      ⟨none, none⟩), .resume 1,
    .reply 1 AuthOutcome.done, .reply 1 AuthOutcome.done, .resume 1,
    .reply 1 (AuthOutcome.made "w1"), .reply 1 AuthOutcome.done, .reply 1 AuthOutcome.done,
    .reply 1 AuthOutcome.done, .reply 1 AuthOutcome.done]

/-- It makes the wallet the primary one, which it is already. -/
def chosenAgain : List (Label (authProcess sampleConfig managesWallets)) :=
  firstWallet ++ [.call (.setPrimaryWallet "w1" "u1"), .reply 2 AuthOutcome.done,
    .reply 2 AuthOutcome.done, .reply 2 AuthOutcome.done, .reply 2 AuthOutcome.done]

/-- It unlinks the wallet. -/
def unlinkedAgain : List (Label (authProcess sampleConfig managesWallets)) :=
  firstWallet ++ [.call (.unlinkWallet "u1" "w1"), .reply 2 AuthOutcome.done,
    .reply 2 AuthOutcome.done, .reply 2 AuthOutcome.done, .reply 2 AuthOutcome.done,
    .reply 2 AuthOutcome.done]

theorem chosenAgain_ends :
    ∃ after, run chosenAgain unlinkedStart = some after ∧ AllEnded after := by decide +kernel

theorem one_primary_wallet_chosen_again :
    ∃ after, run chosenAgain unlinkedStart = some after ∧ Designated after.world := by
  obtain ⟨after, ran, allEnded⟩ := chosenAgain_ends
  exact ⟨after, ran, one_primary_wallet sampleConfig sampleAuthWorld sampleAuthMemory
    (by decide +kernel) chosenAgain after (by decide +kernel) ran allEnded⟩

/-- The unlinked wallet is still the primary one. -/
theorem unlinked_wallet_stays_primary : Designated sampleAuthWorld ∧
      ∃ after, run unlinkedAgain unlinkedStart = some after ∧ AllEnded after ∧ ¬ Designated after.world := by
  decide +kernel

end AlianStructure.Guarantees.PrimaryWallet
