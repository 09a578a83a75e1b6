import AlianStructure.Guarantees.WalletsInTurn

/-!
# No account is locked out

Source: wallet-auth.service.ts:253-522, email-linking.service.ts:34-206,
delegation.service.ts:56-446. checkRecovery counts every active wallet, a delegated one as
well, and asks for a verified email only when there is one; unlinkEmail asks for nothing.
-/
namespace AlianStructure.Guarantees.AccountLockout
open Library.Interleaving Library.CallsInTurn Library.KeyedTable
open Source Source.Auth AuthCalls AuthInTurn WalletsInTurn

/-- The process, open to the methods that change how an account is reached. -/
def managesAccess : AuthCall → Bool
  | .issueChallengeForAddress _ | .linkWallet _ _ _ _ _ _ _ => true
  | .setPrimaryWallet _ _ | .unlinkWallet _ _ => true
  | .requestDelegation _ _ | .completeDelegation _ _ _ | .revokeDelegation _ _ => true
  | .verifyDelegationPermission _ _ | .cleanupExpiredDelegations => true
  | .initiateEmailLinking _ _ | .verifyEmailAndLink _ | .unlinkEmail _ => true
  | _ => false

/-- An active wallet of the account's own. -/
def isAnchor (userId : String) (wallet : Wallet) : Bool :=
  decide (wallet.userId = userId) && decide (wallet.status = .active) &&
    decide (wallet.type ≠ .delegated)

def Anchored (world : AuthWorld) (userId : String) : Prop :=
  ∃ wallet ∈ world.wallets.rows, isAnchor userId wallet = true

/-- The account has a verified email. -/
def Recoverable (world : AuthWorld) (userId : String) : Prop :=
  ∃ user ∈ world.users.rows, user.id = userId ∧ user.email.isSome = true ∧
    user.emailVerified = true

def Secured (world : AuthWorld) (userId : String) : Prop :=
  Anchored world userId ∨ Recoverable world userId

/-- The condition on a call, for an account: its email is unlinked only while it has an
active wallet of its own; and the last such wallet only when there is a verified email, or no
other active wallet, so that checkRecovery looks for one. -/
def Meets (userId : String) (state : AuthWorld × AuthMemory) : AuthCall → Prop
  | .unlinkEmail walletAddress =>
    ∀ wallet ∈ state.1.walletOf (toLowerCase walletAddress), wallet.userId = userId →
      Anchored state.1 userId
  | .unlinkWallet account walletId =>
    account = userId → (∃ other ∈ state.1.wallets.rows, other.id ≠ walletId ∧
        isAnchor userId other = true) ∨
      Recoverable state.1 userId ∨ (activeWallets state.1 userId).length = 1
  | _ => True

/-- Any operation may fail. -/
def anyOutcome (config : AuthConfig) : Fairness (authProcess config managesAccess) :=
  fun _ _ => True

section Operations
variable {world : AuthWorld} {userId : String}

theorem Secured.same {state : AuthWorld × AuthMemory} (secured : Secured world userId)
    (same : Same world state) : Secured state.1 userId := by
  unfold Secured Anchored Recoverable
  rw [same.1, same.2]
  exact secured

variable {wallet : Wallet}

theorem Anchored.save (anchored : Anchored world userId)
    (keeps : ∀ old ∈ world.wallets.rows, old.id = wallet.id → isAnchor userId old = true →
      isAnchor userId wallet = true) : Anchored (withWallet world wallet) userId := by
  obtain ⟨anchor, member, own⟩ := anchored
  by_cases same : anchor.id = wallet.id
  · exact ⟨wallet, Table.mem_save.mpr (Or.inl rfl), keeps anchor member same own⟩
  · exact ⟨anchor, Table.mem_save.mpr (Or.inr ⟨member, same⟩), own⟩

/-- Saving a wallet does no harm where it does not replace an anchor by another wallet. -/
theorem Secured.save (secured : Secured world userId)
    (keeps : ∀ old ∈ world.wallets.rows, old.id = wallet.id → isAnchor userId old = true →
      isAnchor userId wallet = true) : Secured (withWallet world wallet) userId := by
  rcases secured with anchored | recoverable
  · exact Or.inl (anchored.save keeps)
  · exact Or.inr recoverable

theorem Secured.save_delegated (secured : Secured world userId)
    (delegated : ∀ old ∈ world.wallets.rows, old.id = wallet.id → old.type = .delegated) :
    Secured (withWallet world wallet) userId :=
  secured.save fun old member same own => by
    simp [isAnchor, delegated old member same] at own

theorem Secured.save_new (secured : Secured world userId)
    (new : world.wallets.findOne wallet.id = none) : Secured (withWallet world wallet) userId :=
  secured.save fun _ member same _ =>
    absurd (List.mem_map.mpr ⟨_, member, same⟩) (Table.findOne_eq_none.mp new)

theorem Secured.unset (secured : Secured world userId) (account : String) :
    Secured { world with wallets := unsetPrimary account world.wallets } userId := by
  rcases secured with ⟨anchor, member, own⟩ | recoverable
  · refine Or.inl ⟨_, List.mem_map_of_mem member, ?_⟩
    split
    next => exact own
    next => exact own
  · exact Or.inr recoverable

theorem Recoverable.updateUser (recoverable : Recoverable world userId) (id address : String) :
    Recoverable (world.updateUser id (.walletAddress address)).1 userId := by
  obtain ⟨user, member, named, email, verified⟩ := recoverable
  unfold AuthWorld.updateUser
  split
  next => exact ⟨user, member, named, email, verified⟩
  next owner found =>
    split
    next => exact ⟨user, member, named, email, verified⟩
    next =>
      by_cases same : user.id = owner.id
      · obtain rfl := Table.eq_of_key_eq member (Table.findOne_mem found) same
        exact ⟨_, Table.mem_save.mpr (Or.inl rfl), named, email, verified⟩
      · exact ⟨user, Table.mem_save.mpr (Or.inr ⟨member, same⟩), named, email, verified⟩

variable {final : AuthWorld × AuthMemory}

theorem Secured.addressed {config : AuthConfig} {account address : String} (secured : Secured world userId)
    (addressed : Addressed (anyOutcome config) world account address final) : Secured final.1 userId := by
  rcases addressed with ⟨_, same⟩ | ⟨_, same⟩
  · refine Secured.same ?_ same
    rcases secured with anchored | recoverable
    · left
      unfold Anchored
      rw [(updateUser_frame world account (.walletAddress address)).1]
      exact anchored
    · exact Or.inr (recoverable.updateUser account address)
  · exact secured.same same

theorem Secured.saveUser (secured : Secured world userId) (user : User)
    (keeps : user.id = userId → Anchored world userId ∨ (user.email.isSome = true ∧ user.emailVerified = true)) :
    Secured { world with users := world.users.save user } userId := by
  rcases secured with anchored | ⟨owner, member, named, email, verified⟩
  · exact Or.inl anchored
  · by_cases same : owner.id = user.id
    · rcases keeps (same.symm.trans named) with anchored | ⟨email', verified'⟩
      · exact Or.inl anchored
      · exact Or.inr ⟨user, Table.mem_save.mpr (Or.inl rfl), same.symm.trans named, email',
          verified'⟩
    · exact Or.inr ⟨owner, Table.mem_save.mpr (Or.inr ⟨member, same⟩), named, email, verified⟩

end Operations

section Methods
variable {config : AuthConfig} {world : AuthWorld} {userId : String}
  {state : State (authProcess config managesAccess)}

/-- An account is secured at the end of a method. -/
abbrev Secures {α : Type} (config : AuthConfig) (userId : String)
    (state : AuthWorld × AuthMemory) (program : AuthM α) : Prop :=
  Ends (authProcess config managesAccess) (anyOutcome config) state program
    fun final _ => Secured final.1 userId

theorem linkWallet_secures (secured : Secured world userId) {account address : String}
    (ended : LinkWallet (anyOutcome config) world account address final) : Secured final.1 userId := by
  rcases ended with same | ⟨wallet, linked, ended⟩
  · exact secured.same same
  · have added := secured.save_new linked.new
    split at ended
    next => exact added.addressed ended
    next => exact added.same ended

theorem setPrimaryWallet_secures (secured : Secured world userId) {walletId account : String}
    (ended : SetPrimaryWallet (anyOutcome config) world walletId account final) : Secured final.1 userId := by
  rcases ended with same | ⟨wallet, member, named, owned, active, ended⟩
  · exact secured.same same
  · have unset := secured.unset account
    rcases ended with same | addressed
    · exact unset.same same
    · refine Secured.addressed (unset.save fun old listed same own => ?_) addressed
      obtain ⟨before, stored, rfl⟩ := List.mem_map.mp listed
      have equal : before = wallet := by
        refine Table.eq_of_key_eq stored member ?_
        split at same
        next => exact same
        next => exact same
      subst equal
      have mine : before.userId = userId := by
        split at own <;> simp [isAnchor] at own <;> exact own.1.1
      simp [isAnchor, mine, active]

theorem unlinkWallet_secures (secured : Secured world userId) {account walletId : String}
    (meets : account = userId → (∃ other ∈ world.wallets.rows, other.id ≠ walletId ∧ isAnchor userId other = true) ∨
      Recoverable world userId ∨ (activeWallets world userId).length = 1)
    (ended : UnlinkWallet (anyOutcome config) world account walletId final) : Secured final.1 userId := by
  rcases ended with same | ⟨wallet, member, rfl, rfl, passed, ended⟩
  · exact secured.same same
  · have unlinked : Secured (withWallet world (asUnlinked wallet)) userId := by
      by_cases mine : wallet.userId = userId
      · rcases meets mine with ⟨other, listed, differs, own⟩ | recoverable | one
        · exact Or.inl ⟨other, Table.mem_save.mpr (Or.inr ⟨listed, differs⟩), own⟩
        · exact Or.inr recoverable
        · right
          have recovers : hasRecovery world userId = true := by
            by_contra refused
            rw [← mine] at one refused
            exact passed ⟨one, Bool.eq_false_iff.mpr refused⟩
          unfold hasRecovery at recovers
          cases found : world.users.rows.find? (UserQuery.id userId).selects with
          | none => simp [found] at recovers
          | some user =>
            have named : user.id = userId := by
              simpa [UserQuery.selects] using List.find?_some found
            simp only [found, Option.bind_some, Option.any_some, Bool.and_eq_true] at recovers
            have email : user.email.isSome = true := by
              cases text : user.email with
              | none => simp [given, text] at recovers
              | some _ => rfl
            exact ⟨user, List.mem_of_find?_eq_some found, named, email, recovers.2⟩
      · refine secured.save fun old listed same own => ?_
        obtain rfl := Table.eq_of_key_eq listed member same
        simp [isAnchor, mine] at own
    rcases ended with same | ⟨_, next, listed, other, owned, active, addressed⟩
    · exact unlinked.same same
    · refine Secured.addressed (unlinked.save fun old stored same own => ?_) addressed
      have before : next ∈ (withWallet world (asUnlinked wallet)).wallets.rows :=
        Table.mem_save.mpr (Or.inr ⟨listed, other⟩)
      obtain rfl := Table.eq_of_key_eq stored before same
      have mine : old.userId = userId := by
        simp [isAnchor] at own
        exact own.1.1
      simp [isAnchor, mine, active]

theorem challenge_secures {α : Type} {next : String → AuthM α} (secured : Secured world userId)
    (here : Same world state) (delegatorAddress delegateAddress : String)
    (permissions : List String) (expiresAt : Nat)
    (rest : ∀ state challenge, Same world state → Secures config userId state (next challenge)) :
    Secures config userId state (DelegationService.generateDelegationChallenge delegatorAddress
      delegateAddress permissions expiresAt >>= next) := by
  have generates : Ends (authProcess config managesAccess) (anyOutcome config) state
      (DelegationService.generateDelegationChallenge delegatorAddress delegateAddress permissions
        expiresAt) fun final _ => Same world final := by
    unfold DelegationService.generateDelegationChallenge
    exact ends_draw_then here fun _ _ same => same
  exact ends_bind generates (fun state challenge same => rest state challenge same)
    fun _ _ same => secured.same same

theorem requestDelegation_secures (secured : Secured world userId) (here : Same world state)
    (delegatorUserId : String) (request : DelegationRequest) :
    Secures config userId state (DelegationService.requestDelegation delegatorUserId request) := by
  have kept : ∀ (state : State (authProcess config managesAccess)), Same world state →
      Secured state.1 userId := fun _ same => secured.same same
  unfold DelegationService.requestDelegation
  refine ends_findWallet_then (fun _ _ => kept _) here fun state same => ?_
  split
  next => exact kept _ same
  next delegator _ =>
    split
    next => exact kept _ same
    next =>
      refine ends_findWallet_then (fun _ _ => kept _) same fun state same => ?_
      split
      next => exact kept _ same
      next =>
        split
        next => exact kept _ same
        next =>
          refine ends_clock_then same fun state now same => ?_
          split
          next => exact kept _ same
          next =>
            split
            next => exact kept _ same
            next =>
              unfold DelegationService.createDelegation
              refine ends_draw_then same fun state delegationId same => ?_
              refine challenge_secures secured same _ _ _ _ fun state challenge same => ?_
              dsimp only
              split
              next => exact kept _ same
              next =>
                refine ends_insertWallet_then (fun _ _ => kept _) same
                  fun state row made new _ same => ?_
                exact (secured.save_new new).same same

theorem saveDelegated_secures {α : Type} (secured : Secured world userId) (here : Same world state)
    {query : WalletQuery} {delegate saved : Wallet} {next : Unit → AuthM α} (delegated : query.type = some .delegated)
    (found : (world.findWallets query).head? = some delegate) (same : saved.id = delegate.id)
    (rest : ∀ (final : State (authProcess config managesAccess)), Secured final.1 userId →
      Secures config userId final (next ())) : Secures config userId state (ask (.saveWallet saved) >>= next) := by
  obtain ⟨member, selected⟩ := mem_findWallets.mp (List.mem_of_head? found)
  refine ends_saveWallet_then (fun _ _ kept => secured.same kept) here fun final kept => ?_
  refine rest final (Secured.same (secured.save_delegated fun old listed equal => ?_) kept)
  obtain rfl := Table.eq_of_key_eq listed member (equal.trans same)
  simp only [WalletQuery.selects, delegated, Option.all_some, Bool.and_eq_true,
    decide_eq_true_eq] at selected
  exact selected.1.1.2

theorem completeDelegation_secures (secured : Secured world userId) (here : Same world state)
    (delegatorUserId delegateWalletId signature : String) :
    Secures config userId state (DelegationService.completeDelegation config.libraries
      delegatorUserId delegateWalletId signature) := by
  unfold DelegationService.completeDelegation
  refine ends_findWallet_then (fun _ _ same => secured.same same) here fun state same => ?_
  cases found : (world.findWallets { WalletQuery.all with
      id := some delegateWalletId, userId := some delegatorUserId, type := some .delegated
      status := some .pending }).head? with
  | none => exact secured.same same
  | some delegate =>
    refine ends_findWallet_then (fun _ _ same => secured.same same) same fun state same => ?_
    dsimp only
    split
    next => exact secured.same same
    next => exact secured.same same
    next delegator expiresAt _ =>
      unfold DelegationService.activate
      refine challenge_secures secured same _ _ _ _ fun state challenge same => ?_
      split
      next => exact secured.same same
      next =>
        split
        next => exact secured.same same
        next =>
          refine ends_clock_then same fun state now same => ?_
          exact saveDelegated_secures secured same rfl found rfl fun _ kept => kept

theorem revokeDelegation_secures (secured : Secured world userId) (here : Same world state)
    (account delegationId : String) :
    Secures config userId state (DelegationService.revokeDelegation account delegationId) := by
  unfold DelegationService.revokeDelegation
  refine ends_findWallet_then (fun _ _ same => secured.same same) here fun state same => ?_
  cases found : (world.findWallets { WalletQuery.all with
      id := some delegationId, userId := some account, type := some .delegated }).head? with
  | none => exact secured.same same
  | some delegate =>
    dsimp only
    split
    next => exact secured.same same
    next => exact saveDelegated_secures secured same rfl found rfl fun _ kept => kept

theorem verifyDelegationPermission_secures (secured : Secured world userId)
    (here : Same world state) (delegateAddress requiredPermission : String) : Secures config userId state
      (DelegationService.verifyDelegationPermission delegateAddress requiredPermission) := by
  unfold DelegationService.verifyDelegationPermission
  refine ends_findWallet_then (fun _ _ same => secured.same same) here fun state same => ?_
  cases found : (world.findWallets { WalletQuery.all with
      address := some (toLowerCase delegateAddress), type := some .delegated
      status := some .active }).head? with
  | none => exact secured.same same
  | some delegate =>
    refine ends_clock_then same fun state now same => ?_
    split
    next => exact saveDelegated_secures secured same rfl found rfl fun _ kept => kept
    next =>
      split
      next => exact secured.same same
      next => exact secured.same same

theorem expireAll_secures : ∀ (wallets : List Wallet) {world : AuthWorld}
    {state : State (authProcess config managesAccess)}, Secured world userId → Same world state →
      (∀ wallet ∈ wallets, wallet.type = .delegated ∧
        ∀ old ∈ world.wallets.rows, old.id = wallet.id → old.type = .delegated) →
      Secures config userId state (DelegationService.expireAll wallets)
  | [], _, _, secured, same, _ => secured.same same
  | wallet :: rest, world, state, secured, same, delegated => by
    obtain ⟨first, others⟩ := List.forall_mem_cons.mp delegated
    refine ends_saveWallet_then (fun _ _ kept => secured.same kept) same fun state same => ?_
    have saved : Secured (withWallet world { wallet with status := .unlinked }) userId :=
      secured.save_delegated first.2
    refine expireAll_secures rest saved same fun later member => ?_
    refine ⟨(others later member).1, fun old listed equal => ?_⟩
    rcases Table.mem_save.mp listed with rfl | ⟨before, _⟩
    · exact first.1
    · exact (others later member).2 old before equal

theorem cleanupExpiredDelegations_secures (secured : Secured world userId) (here : Same world state) :
    Secures config userId state DelegationService.cleanupExpiredDelegations := by
  unfold DelegationService.cleanupExpiredDelegations
  refine ends_clock_then here fun state now same => ?_
  refine ends_findWallets_then (fun _ _ same => secured.same same) same fun state same => ?_
  refine ends_bind (expireAll_secures _ secured same fun wallet member => ?_)
    (fun _ _ kept => kept) fun _ _ kept => kept
  obtain ⟨stored, selected⟩ := mem_findWallets.mp member
  have delegated : wallet.type = .delegated := by
    simp only [WalletQuery.selects, WalletQuery.all, Option.all_some, Option.all_none,
      Bool.true_and, Bool.and_eq_true, decide_eq_true_eq] at selected
    exact selected.1.1
  refine ⟨delegated, fun old listed equal => ?_⟩
  obtain rfl := Table.eq_of_key_eq listed stored equal
  exact delegated

theorem initiateEmailLinking_secures (secured : Secured world userId) (here : Same world state)
    (walletAddress email : String) : Secures config userId state
      (EmailLinkingService.initiateEmailLinking walletAddress email) := by
  have kept : ∀ (state : State (authProcess config managesAccess)), Same world state →
      Secured state.1 userId := fun _ same => secured.same same
  unfold EmailLinkingService.initiateEmailLinking
  split
  next => exact kept _ here
  next =>
    refine ends_findWalletWithUser_then (fun _ _ => kept _) here fun state same => ?_
    split
    next => exact kept _ same
    next wallet user _ =>
      refine ends_findUser_then (fun _ _ => kept _) same fun state same => ?_
      split
      next => exact kept _ same
      next =>
        split
        next => exact kept _ same
        next =>
          unfold EmailLinkingService.sendVerification
          refine ends_draw_then same fun state token same => ?_
          refine ends_silent_then (fun _ _ => kept _) same rfl rfl fun state _ same => ?_
          refine ends_clock_then same fun state now same => ?_
          refine ends_silent_then (fun _ _ => kept _) same rfl rfl fun state _ same => ?_
          exact ends_silent_then (fun _ _ => kept _) same rfl rfl fun state _ same => kept _ same

theorem walletUser_eq {address : String} {user : User} (found : ((world.walletOf address).map fun wallet =>
      (wallet, world.users.findOne wallet.userId)).bind (·.2) = some user) :
    ∃ wallet, world.walletOf address = some wallet ∧ wallet.userId = user.id := by
  cases stored : world.walletOf address with
  | none =>
    rw [stored] at found
    cases found
  | some wallet =>
    rw [stored] at found
    exact ⟨wallet, rfl, (Table.findOne_key found).symm⟩

theorem verifyEmailAndLink_secures (secured : Secured world userId) (here : Same world state) (token : String) :
    Secures config userId state (EmailLinkingService.verifyEmailAndLink token) := by
  have kept : ∀ (state : State (authProcess config managesAccess)), Same world state →
      Secured state.1 userId := fun _ same => secured.same same
  unfold EmailLinkingService.verifyEmailAndLink
  refine ends_silent_then (fun _ _ => kept _) here rfl rfl fun state found same => ?_
  cases found with
  | none => exact kept _ same
  | some verification =>
    refine ends_clock_then same fun state now same => ?_
    split
    next => exact ends_silent_then (fun _ _ => kept _) same rfl rfl fun state _ same => kept _ same
    next =>
      refine ends_findWalletWithUser_then (fun _ _ => kept _) same fun state same => ?_
      split
      next => exact kept _ same
      next user _ =>
        refine ends_saveUser_then same (fun _ _ => kept _) fun state same => ?_
        have saved := (secured.saveUser
          { user with email := some verification.email, emailVerified := true }
          fun _ => Or.inr ⟨rfl, rfl⟩).same same
        exact ends_silent_then (fun _ _ same => saved.same same) ⟨rfl, rfl⟩ rfl rfl
          fun _ _ same => saved.same same

theorem unlinkEmail_secures (secured : Secured world userId) (here : Same world state) (walletAddress : String)
    (meets : ∀ wallet ∈ world.walletOf (toLowerCase walletAddress), wallet.userId = userId → Anchored world userId) :
    Secures config userId state (EmailLinkingService.unlinkEmail walletAddress) := by
  unfold EmailLinkingService.unlinkEmail
  refine ends_findWalletWithUser_then (fun _ _ same => secured.same same) here fun state same => ?_
  split
  next => exact secured.same same
  next user found =>
    have held := (Option.filter_eq_some_iff.mp found).1
    obtain ⟨wallet, stored, owned⟩ := walletUser_eq held
    refine ends_saveUser_then same (fun _ _ same => secured.same same) fun state same => ?_
    have saved := (secured.saveUser { user with email := none, emailVerified := false }
      fun mine => Or.inl (meets wallet stored (owned.trans mine))).same same
    exact ends_silent_then (fun _ _ same => saved.same same) ⟨rfl, rfl⟩ rfl rfl
      fun _ _ same => saved.same same

end Methods

theorem secured_call (config : AuthConfig) (userId : String) (state : AuthWorld × AuthMemory)
    (call : AuthCall) (isPublic : managesAccess call = true) (secured : Secured state.1 userId)
    (meets : Meets userId state call) :
    Ends (authProcess config managesAccess) (anyOutcome config) state (authBody config call)
      fun final _ => Secured final.1 userId := by
  have here : Same state.1 state := ⟨rfl, rfl⟩
  cases call with
  | issueChallengeForAddress address =>
    exact ends_returning (ends_mono (fun _ _ same => secured.same same)
      (issueChallenge_ends here address))
  | linkWallet currentUserId newWalletAddress message signature walletName permissions clientInfo =>
    exact ends_returning (ends_mono (fun _ _ ended => linkWallet_secures secured ended)
      (linkWallet_ends here _ _ _ _ _ _ _))
  | setPrimaryWallet walletId account =>
    exact ends_returning (ends_mono (fun _ _ ended => setPrimaryWallet_secures secured ended)
      (setPrimaryWallet_ends here walletId account))
  | unlinkWallet account walletId =>
    exact ends_returning (ends_mono (fun _ _ ended => unlinkWallet_secures secured meets ended)
      (unlinkWallet_ends here account walletId))
  | requestDelegation delegatorUserId request =>
    exact ends_returning (requestDelegation_secures secured here delegatorUserId request)
  | completeDelegation delegatorUserId delegateWalletId signature =>
    exact ends_returning (completeDelegation_secures secured here _ _ signature)
  | revokeDelegation account delegationId =>
    exact ends_returning (revokeDelegation_secures secured here account delegationId)
  | verifyDelegationPermission delegateAddress requiredPermission =>
    exact ends_returning (verifyDelegationPermission_secures secured here _ _)
  | cleanupExpiredDelegations =>
    exact ends_returning (cleanupExpiredDelegations_secures secured here)
  | initiateEmailLinking walletAddress email =>
    exact ends_returning (initiateEmailLinking_secures secured here walletAddress email)
  | verifyEmailAndLink token =>
    exact ends_returning (verifyEmailAndLink_secures secured here token)
  | unlinkEmail walletAddress =>
    exact ends_returning (unlinkEmail_secures secured here walletAddress meets)
  | _ => cases isPublic

theorem operations_fail (config : AuthConfig) (world : AuthWorld) (op : AuthOp) :
    ∃ choice failure, anyOutcome config op choice ∧
      (authProcess config managesAccess).respond world op choice = some (world, .error failure) := by
  refine ⟨.fails duplicateKey, duplicateKey, trivial, ?_⟩
  cases op <;> rfl

/-- An account that has an active wallet of its own while no call is under way has one, or a
verified email, in every later state of a run of calls in turn that meet their condition. -/
theorem account_never_locked_out (config : AuthConfig) (userId : String)
    (labels : List (Label (authProcess config managesAccess)))
    (c after : Config (authProcess config managesAccess)) (allEnded : AllEnded c) (anchored : Anchored c.world userId)
    (inTurn : Admissible (InTurn (anyOutcome config) (Meets userId)) labels c)
    (ran : run labels c = some after) : Secured after.world userId := by
  have stable : Stable (authProcess config managesAccess) fun state => Secured state.1 userId :=
    fun _ _ secured => secured
  have orderly : Orderly (anyOutcome config) (fun state => Secured state.1 userId) c :=
    Orderly.of_allEnded allEnded (Or.inl anchored)
  have later := orderly.run stable (secured_call config userId) inTurn ran
  exact Orderly.throughout (S := authProcess config managesAccess)
    (fun world => Secured world userId) (operations_fail config) later

instance Secured.decidable (world : AuthWorld) (userId : String) :
    Decidable (Secured world userId) := by
  unfold Secured Anchored Recoverable
  infer_instance

instance Meets.decidable (userId : String) (state : AuthWorld × AuthMemory) (call : AuthCall) :
    Decidable (Meets userId state call) := by
  unfold Meets Anchored Recoverable
  split <;> infer_instance

instance anyOutcome.decidable (config : AuthConfig) (op : AuthOp) (choice : AuthOutcome) :
    Decidable (anyOutcome config op choice) := isTrue trivial

/-- An account with a wallet and a verified email. -/
abbrev reachableStart : Config (authProcess sampleConfig managesAccess) :=
  Config.initial (authProcess sampleConfig managesAccess)
    { sampleAuthWorld with wallets := ⟨[sampleWallet], sampleWallet_unique⟩ } sampleAuthMemory

/-- It unlinks the email. -/
def emailUnlinked : List (Label (authProcess sampleConfig managesAccess)) :=
  [.call (.unlinkEmail "0xA"), .reply 0 AuthOutcome.done, .reply 0 AuthOutcome.done,
    .reply 0 AuthOutcome.done]

/-- It unlinks the wallet, and then the email. -/
def bothUnlinked : List (Label (authProcess sampleConfig managesAccess)) :=
  [.call (.unlinkWallet "u1" "w1"), .reply 0 AuthOutcome.done, .reply 0 AuthOutcome.done,
    .reply 0 AuthOutcome.done, .reply 0 AuthOutcome.done, .reply 0 AuthOutcome.done,
    .call (.unlinkEmail "0xA"), .reply 1 AuthOutcome.done, .reply 1 AuthOutcome.done,
    .reply 1 AuthOutcome.done]

theorem sample_anchored : Anchored reachableStart.world "u1" :=
  ⟨sampleWallet, List.mem_singleton_self _, rfl⟩

theorem account_never_locked_out_without_email :
    ∃ after, run emailUnlinked reachableStart = some after ∧ Secured after.world "u1" := by
  obtain ⟨after, ran, _⟩ : ∃ after, run emailUnlinked reachableStart = some after ∧ True := by
    decide +kernel
  exact ⟨after, ran, account_never_locked_out sampleConfig "u1" emailUnlinked reachableStart after
    (fun _ never => by cases never) sample_anchored (by decide +kernel) ran⟩

/-- Each of the two is given up while the other is there, or so it seems. -/
theorem account_locked_out :
    Anchored reachableStart.world "u1" ∧
      ∃ after, run bothUnlinked reachableStart = some after ∧ ¬ Secured after.world "u1" :=
  ⟨sample_anchored, by decide +kernel⟩

end AlianStructure.Guarantees.AccountLockout
