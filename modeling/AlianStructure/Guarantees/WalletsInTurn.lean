import AlianStructure.Guarantees.AuthCalls

/-!
# What the wallet methods leave behind, one call at a time

Source: wallet-auth.service.ts:62-180,253-360,415-522. For each method the accounts and
wallets it may leave, wherever one of its operations fails.
-/
namespace AlianStructure.Guarantees.WalletsInTurn
open Library.Interleaving Library.CallsInTurn Library.KeyedTable
open Source Source.Auth AuthCalls AuthInTurn

/-- The account has a verified email. -/
def hasRecovery (world : AuthWorld) (userId : String) : Bool :=
  let user := world.users.rows.find? (UserQuery.id userId).selects
  (user.bind fun u => given u.email).isSome && user.any (·.emailVerified)

/-- The wallets that checkRecovery counts. -/
def activeWallets (world : AuthWorld) (userId : String) : List Wallet :=
  world.findWallets { WalletQuery.all with userId := some userId, status := some .active }

/-- checkRecovery refuses: there is one active wallet, and no verified email. -/
def RecoveryRefused (world : AuthWorld) (userId : String) : Prop :=
  (activeWallets world userId).length = 1 ∧ hasRecovery world userId = false

/-- A database with a wallet saved. -/
abbrev withWallet (world : AuthWorld) (wallet : Wallet) : AuthWorld :=
  { world with wallets := world.wallets.save wallet }

/-- A wallet as the primary one. -/
abbrev asPrimary (wallet : Wallet) : Wallet := { wallet with isPrimary := true, type := .primary }

/-- A wallet as unlinked. -/
abbrev asUnlinked (wallet : Wallet) : Wallet := { wallet with status := .unlinked }

section Specs
variable {config : AuthConfig} {offers : AuthCall → Bool} (fair : Fairness (authProcess config offers))
  (world : AuthWorld)

/-- The address of an account has been changed; or it has not, because another account has
it, or because the operation failed. -/
def Addressed (userId address : String) (final : AuthWorld × AuthMemory) : Prop :=
  ((world.updateUser userId (.walletAddress address)).2 = .ok () ∧
    Same (world.updateUser userId (.walletAddress address)).1 final) ∨
  (((world.updateUser userId (.walletAddress address)).2 = .ok () →
    ∃ failure, fair (.updateUser userId (.walletAddress address)) (.fails failure)) ∧
    Same world final)

/-- A wallet that linkWallet adds: the first of its account is its primary wallet. -/
structure Linked (currentUserId address : String) (wallet : Wallet) : Prop where
  new : world.wallets.findOne wallet.id = none
  owner : wallet.userId = currentUserId
  named : wallet.address = address
  unused : ∀ other ∈ world.wallets.rows, other.address ≠ address
  active : wallet.status = .active
  own : wallet.type ≠ .delegated
  primary : wallet.isPrimary = true ↔ ∀ other ∈ world.wallets.rows, other.userId ≠ currentUserId

/-- What linkWallet leaves. -/
def LinkWallet (currentUserId address : String) (final : AuthWorld × AuthMemory) : Prop :=
  Same world final ∨ ∃ wallet, Linked world currentUserId address wallet ∧
    if wallet.isPrimary then
      Addressed fair (withWallet world wallet) currentUserId address final
    else Same (withWallet world wallet) final

/-- What setPrimaryWallet leaves. -/
def SetPrimaryWallet (walletId userId : String) (final : AuthWorld × AuthMemory) : Prop :=
  Same world final ∨ ∃ wallet ∈ world.wallets.rows, wallet.id = walletId ∧ wallet.userId = userId ∧
    wallet.status = .active ∧
    (Same { world with wallets := unsetPrimary userId world.wallets } final ∨
      Addressed fair (withWallet { world with wallets := unsetPrimary userId world.wallets }
        (asPrimary wallet)) userId wallet.address final)

/-- What unlinkWallet leaves. -/
def UnlinkWallet (userId walletId : String) (final : AuthWorld × AuthMemory) : Prop :=
  Same world final ∨ ∃ wallet ∈ world.wallets.rows, wallet.id = walletId ∧ wallet.userId = userId ∧
    ¬ RecoveryRefused world userId ∧
    (Same (withWallet world (asUnlinked wallet)) final ∨
      (wallet.isPrimary = true ∧ ∃ next ∈ world.wallets.rows, next.id ≠ walletId ∧
        next.userId = userId ∧ next.status = .active ∧
        (Addressed fair (withWallet (withWallet world (asUnlinked wallet)) (asPrimary next)) userId
          next.address final)))

end Specs

section Methods
variable {config : AuthConfig} {offers : AuthCall → Bool}
  {fair : Fairness (authProcess config offers)} {world : AuthWorld}
  {state : State (authProcess config offers)}

theorem recoverSigner_ends (here : Same world state) (message signature : String) :
    Ends (authProcess config offers) fair state (WalletAuthService.recoverSigner config.libraries message signature)
      fun final _ => Same world final := by
  unfold WalletAuthService.recoverSigner
  split
  next => exact here
  next challengeId _ =>
    have consumes : Ends (authProcess config offers) fair state
        (ChallengeService.consumeChallenge challengeId) fun final _ => Same world final := by
      unfold ChallengeService.consumeChallenge
      refine ends_memory_then here fun state memory same => ?_
      exact ends_update_then same fun state same => same
    refine ends_bind consumes (fun final consumed same => ?_) fun _ _ same => same
    split
    next => exact same
    next challenge =>
      split
      next => exact same
      next => exact same

theorem issueChallenge_ends (here : Same world state) (address : String) :
    Ends (authProcess config offers) fair state (ChallengeService.issueChallengeForAddress address)
      fun final _ => Same world final := by
  unfold ChallengeService.issueChallengeForAddress
  refine ends_draw_then here fun state challengeId same => ?_
  refine ends_clock_then same fun state now same => ?_
  exact ends_update_then same fun state same => same

theorem announceWallet_ends (here : Same world state) (currentUserId : String) :
    Ends (authProcess config offers) fair state (WalletAuthService.announceWallet currentUserId)
      fun final _ => Same world final := by
  unfold WalletAuthService.announceWallet
  refine ends_silent_then (fun _ _ same => same) here rfl rfl fun state user same => ?_
  split
  next email _ =>
    refine ends_attempt_then same rfl rfl fun state _ same => ?_
    exact ends_attempt_then same rfl rfl fun state _ same => same
  next => exact ends_attempt_then same rfl rfl fun state _ same => same

theorem findWallets_length_eq_zero {userId : String} :
    (world.findWallets { WalletQuery.all with userId := some userId }).length = 0 ↔
      ∀ wallet ∈ world.wallets.rows, wallet.userId ≠ userId := by
  rw [List.length_eq_zero_iff, List.eq_nil_iff_forall_not_mem]
  refine forall_congr' fun wallet => ?_
  rw [mem_findWallets]
  simp [WalletQuery.selects, WalletQuery.all]

/-- The address of the account is changed, and the call goes on without writing. -/
theorem addressed_ends {α : Type} {userId address : String} {rest : Unit → AuthM α}
    {post : State (authProcess config offers) → Except Exception α → Prop} (here : Same world state)
    (accepts : ∀ final result, Addressed fair world userId address final → post final result)
    (quiet : ∀ other state, Same other state →
      Ends (authProcess config offers) fair state (rest ()) fun final _ => Same other final) :
    Ends (authProcess config offers) fair state
      (ask (.updateUser userId (.walletAddress address)) >>= rest) post := by
  refine ends_updateUser_then here (fun state failure same refused => ?_) fun state granted same => ?_
  · exact accepts _ _ (Or.inr ⟨refused, same⟩)
  · exact ends_mono (fun final result kept => accepts final result (Or.inl ⟨granted, kept⟩))
      (quiet _ _ same)

theorem addWallet_ends (here : Same world state) (currentUserId normalizedNew message : String)
    (signature : String) (walletName : Option String) (permissions : Option (List String))
    (clientInfo : ClientInfo) (existing : Nat)
    (counted : existing = 0 ↔ ∀ wallet ∈ world.wallets.rows, wallet.userId ≠ currentUserId) :
    Ends (authProcess config offers) fair state
      (WalletAuthService.addWallet currentUserId normalizedNew message signature walletName
        permissions clientInfo existing) fun final _ => LinkWallet fair world currentUserId normalizedNew final := by
  unfold WalletAuthService.addWallet
  refine ends_clock_then here fun state now same => ?_
  refine ends_insertWallet_then (fun _ _ same => Or.inl same) same
    fun state wallet made new unused same => ?_
  have linked : Linked world currentUserId normalizedNew wallet := {
    new := new
    owner := congrArg Wallet.userId made
    named := congrArg Wallet.address made
    unused := unused
    active := congrArg Wallet.status made
    own := by
      rw [made]
      dsimp only
      split <;> simp
    primary := by
      rw [made, ← counted]
      simp }
  have mark : wallet.isPrimary = decide (existing = 0) := congrArg Wallet.isPrimary made
  have finish : ∀ (type : WalletType) (other : AuthWorld) (state : State (authProcess config offers)),
      Same other state → Ends (authProcess config offers) fair state
        (WalletAuthService.announceWallet currentUserId >>= fun _ => pure
          (⟨"Wallet successfully linked", wallet.id, normalizedNew, type⟩ : LinkedWallet))
        fun final _ => Same other final :=
    fun type other state same => ends_bind (announceWallet_ends same currentUserId)
      (fun _ _ kept => kept) fun _ _ kept => kept
  dsimp only
  split
  next first =>
    refine addressed_ends same (fun final _ addressed => Or.inr ⟨wallet, linked, ?_⟩) (finish _)
    rw [mark, if_pos first]
    exact addressed
  next other =>
    refine ends_mono (fun final _ kept => Or.inr ⟨wallet, linked, ?_⟩) (finish _ _ _ same)
    rw [mark, if_neg other]
    exact kept

theorem linkWallet_ends (here : Same world state) (currentUserId newWalletAddress message : String)
    (signature : String) (walletName : Option String) (permissions : Option (List String)) (clientInfo : ClientInfo) :
    Ends (authProcess config offers) fair state
      (WalletAuthService.linkWallet config.libraries config.maxWallets currentUserId
        newWalletAddress message signature walletName permissions clientInfo)
      fun final _ => LinkWallet fair world currentUserId (toLowerCase newWalletAddress) final := by
  unfold WalletAuthService.linkWallet
  refine ends_bind (recoverSigner_ends here message signature) (fun state signer same => ?_)
    fun _ _ same => Or.inl same
  dsimp only
  split
  next => exact Or.inl same
  next =>
    refine ends_findWallet_then (fun _ _ same => Or.inl same) same fun state same => ?_
    split
    next =>
      split
      next => exact Or.inl same
      next => exact Or.inl same
    next =>
      refine ends_findWallets_then (fun _ _ same => Or.inl same) same fun state same => ?_
      split
      next => exact Or.inl same
      next => exact addWallet_ends same _ _ _ _ _ _ _ _ findWallets_length_eq_zero

theorem findWallet_id {walletId userId : String} {wallet : Wallet} (found : (world.findWallets
      { WalletQuery.all with id := some walletId, userId := some userId }).head? = some wallet) :
    wallet ∈ world.wallets.rows ∧ wallet.id = walletId ∧ wallet.userId = userId := by
  obtain ⟨member, selected⟩ := mem_findWallets.mp (List.mem_of_head? found)
  simp only [WalletQuery.selects, WalletQuery.all, Option.all_some, Option.all_none, Bool.and_true,
    Bool.and_eq_true, decide_eq_true_eq] at selected
  exact ⟨member, selected⟩

theorem setPrimaryWallet_ends (here : Same world state) (walletId userId : String) :
    Ends (authProcess config offers) fair state (WalletAuthService.setPrimaryWallet walletId userId)
      fun final _ => SetPrimaryWallet fair world walletId userId final := by
  unfold WalletAuthService.setPrimaryWallet
  refine ends_findWallet_then (fun _ _ same => Or.inl same) here fun state same => ?_
  cases found : (world.findWallets
      { WalletQuery.all with id := some walletId, userId := some userId }).head? with
  | none => exact Or.inl same
  | some wallet =>
    obtain ⟨member, named, owned⟩ := findWallet_id found
    dsimp only
    split
    next => exact Or.inl same
    next active =>
      have active := not_not.mp active
      refine ends_unsetPrimary_then (fun _ _ same => Or.inl same) same fun state same => ?_
      refine ends_saveWallet_then (fun _ _ same => ?_) same fun state same => ?_
      · exact Or.inr ⟨wallet, member, named, owned, active, Or.inl same⟩
      · refine addressed_ends same (fun final _ addressed => ?_) fun _ _ kept => kept
        exact Or.inr ⟨wallet, member, named, owned, active, Or.inr addressed⟩

theorem checkRecovery_ends (here : Same world state) (userId : String) :
    Ends (authProcess config offers) fair state (WalletAuthService.checkRecovery userId)
      fun final result => Same world final ∧ (result = .ok () → ¬ RecoveryRefused world userId) := by
  unfold WalletAuthService.checkRecovery
  refine ends_findWallets_then (fun _ _ same => ⟨same, fun never => by cases never⟩) here
    fun state same => ?_
  split
  next one =>
    refine ends_findUser_then (fun _ _ same => ⟨same, fun never => by cases never⟩) same
      fun state same => ?_
    split
    next recovery =>
      refine ⟨same, fun _ refused => ?_⟩
      have recovers : hasRecovery world userId = true := by
        simpa [hasRecovery] using recovery
      rw [refused.2] at recovers
      cases recovers
    next => exact ⟨same, fun never => by cases never⟩
  next several => exact ⟨same, fun _ refused => several refused.1⟩

theorem promoteRemaining_ends (here : Same world state) (userId walletId : String) :
    Ends (authProcess config offers) fair state (WalletAuthService.promoteRemaining userId walletId)
      fun final _ => Same world final ∨ ∃ next ∈ world.wallets.rows, next.id ≠ walletId ∧
        next.userId = userId ∧ next.status = .active ∧
        Addressed fair (withWallet world (asPrimary next)) userId next.address final := by
  unfold WalletAuthService.promoteRemaining
  refine ends_findWallet_then (fun _ _ same => Or.inl same) here fun state same => ?_
  cases found : (world.findWallets { WalletQuery.all with
      userId := some userId, status := some .active, notId := some walletId }).head? with
  | none => exact Or.inl same
  | some next =>
    obtain ⟨member, selected⟩ := mem_findWallets.mp (List.mem_of_head? found)
    simp only [WalletQuery.selects, WalletQuery.all, Option.all_some, Option.all_none,
      Bool.and_true, Bool.true_and, Bool.and_eq_true, decide_eq_true_eq] at selected
    obtain ⟨⟨other, owned⟩, active⟩ := selected
    refine ends_saveWallet_then (fun _ _ same => Or.inl same) same fun state same => ?_
    refine ends_perform same_stable same fun before choice after result same isFair responds => ?_
    refine Or.inr ⟨next, member, other, owned, active, ?_⟩
    rcases respond_updateUser same isFair responds with ⟨_, granted, kept⟩ | ⟨_, kept, refused⟩
    · exact Or.inl ⟨granted, kept⟩
    · exact Or.inr ⟨refused, kept⟩

theorem unlinkWallet_ends (here : Same world state) (userId walletId : String) :
    Ends (authProcess config offers) fair state (WalletAuthService.unlinkWallet userId walletId)
      fun final _ => UnlinkWallet fair world userId walletId final := by
  unfold WalletAuthService.unlinkWallet
  refine ends_findWallet_then (fun _ _ same => Or.inl same) here fun state same => ?_
  cases found : (world.findWallets
      { WalletQuery.all with id := some walletId, userId := some userId }).head? with
  | none => exact Or.inl same
  | some wallet =>
    obtain ⟨member, named, owned⟩ := findWallet_id found
    refine ends_bind (checkRecovery_ends same userId) (fun state _ checked => ?_)
      fun _ _ checked => Or.inl checked.1
    obtain ⟨same, passed⟩ := checked
    have passed := passed rfl
    refine ends_saveWallet_then (fun _ _ same => Or.inl same) same fun state same => ?_
    split
    next primary =>
      refine ends_bind (promoteRemaining_ends same userId walletId) (fun final _ ended => ?_)
        fun final _ ended => ?_ <;>
      · refine Or.inr ⟨wallet, member, named, owned, passed, ?_⟩
        rcases ended with kept | ⟨next, listed, other, mine, active, addressed⟩
        · exact Or.inl kept
        · rcases Table.mem_save.mp listed with rfl | ⟨before, _⟩
          · exact absurd named other
          · exact Or.inr ⟨primary, next, before, other, mine, active, addressed⟩
    next => exact Or.inr ⟨wallet, member, named, owned, passed, Or.inl same⟩

end Methods

end AlianStructure.Guarantees.WalletsInTurn
