import AlianStructure.Guarantees.AccountConduct

/-!
# What the wallet methods write and what a wallet token rests on

Source: wallet-auth.service.ts:62-522, challenge.service.ts, delegation.service.ts:56-410,
email-linking.service.ts:34-206.
The rest of the methods, and the process as a whole.
-/
namespace AlianStructure.Guarantees.WalletConduct
open Library.Interleaving Library.CallProtocol Library.CallJournal
open Source Source.Auth AuthCalls AccountConduct

/-! ## Rules for the wallet methods -/

/-- The operations that the rules speak of. -/
def guarded : AuthOp → Bool
  | .insertWallet _ | .saveWallet _ | .insertTwoFactor _ | .saveTwoFactor _ => true
  | _ => false

/-- Rules that permit every other operation, under which a lookup finds what it looks for. -/
structure Lenient (rules : Rules auth) (call : AuthCall) : Prop where
  allows : ∀ {past : List (Event auth)} {op : AuthOp}, guarded op = false → rules.permits call past op
  selects : ∀ {query : WalletQuery} {wallet : Wallet},
    rules.possible (.findWallet query) (.ok (some wallet)) → query.selects wallet = true

/-- A wallet that a lookup has found. -/
inductive Found (past : List (Event auth)) (wallet : Wallet) : Prop where
  | one {query : WalletQuery} (asked : ⟨.findWallet query, .ok (some wallet)⟩ ∈ past)
  | many {query : WalletQuery} {wallets : List Wallet} (asked : ⟨.findWallets query, .ok wallets⟩ ∈ past)
      (member : wallet ∈ wallets)

theorem Found.mono {past past' : List (Event auth)} {wallet : Wallet} (found : Found past wallet)
    (grown : past ⊆ past') : Found past' wallet := by
  cases found with
  | one asked => exact .one (grown asked)
  | many asked member => exact .many (grown asked) member

section Methods
variable {rules : Rules auth} {libraries : AuthLibraries} {call : AuthCall} {past : List (Event auth)}

theorem issueChallengeForAddress_yields (address : String) :
    Yields rules call past (ChallengeService.issueChallengeForAddress address) fun _ _ => True := by
  unfold ChallengeService.issueChallengeForAddress
  refine yields_draw_then fun challengeId => yields_clock_then fun now => ?_
  exact yields_update_then (yields_pure trivial)

theorem recoverSigner_yields (message signature : String) :
    Yields rules call past (WalletAuthService.recoverSigner libraries message signature) fun _ _ => True := by
  unfold WalletAuthService.recoverSigner
  split
  next => exact yields_throw
  next challengeId _ =>
    have consumed : Yields rules call past (ChallengeService.consumeChallenge challengeId)
        fun _ _ => True := by
      unfold ChallengeService.consumeChallenge
      exact yields_memory_then fun _ => yields_update_then (yields_pure trivial)
    refine yields_bind consumed fun _ challenge _ _ => ?_
    split
    next => exact yields_throw
    next =>
      split
      next => exact yields_throw
      next => exact yields_pure trivial

theorem generateDelegationChallenge_yields (delegatorAddress delegateAddress : String)
    (permissions : List String) (expiresAt : Nat) : Yields rules call past
      (DelegationService.generateDelegationChallenge delegatorAddress delegateAddress permissions
        expiresAt) fun _ _ => True := by
  unfold DelegationService.generateDelegationChallenge
  exact yields_draw_then fun nonce => yields_pure trivial

/-! ## Wallet login -/

theorem issueForWallet_yields (normalized : String) :
    Yields (conduct libraries) call past (WalletAuthService.issueForWallet normalized)
      fun past' token => ∃ wallet user, ⟨.findWalletWithUser token.address, .ok (some (wallet, user))⟩ ∈ past' ∧
        WalletAuthService.mayAuthenticate wallet = true ∧ token.token.sub = user.map (·.id) := by
  unfold WalletAuthService.issueForWallet
  refine yields_ask_then trivial fun _ found _ asked _ => ?_
  match found with
  | none => exact yields_throw
  | some (wallet, user) =>
    dsimp only
    split
    next => exact yields_throw
    next allowed =>
      refine yields_clock_then fun now => yields_ask_then trivial fun _ _ grown _ _ => ?_
      exact yields_pure ⟨wallet, user, grown asked, not_not.mp allowed, rfl⟩

theorem verifySignatureAndIssueToken_yields (message signature : String) : Yields (conduct libraries) call past
      (WalletAuthService.verifySignatureAndIssueToken libraries message signature) fun past' token => ∃ wallet user,
        ⟨.findWalletWithUser token.address, .ok (some (wallet, user))⟩ ∈ past' ∧
        WalletAuthService.mayAuthenticate wallet = true ∧ token.token.sub = user.map (·.id) := by
  unfold WalletAuthService.verifySignatureAndIssueToken
  refine yields_tryCatch ?_ fun _ failure _ => ?_
  · refine yields_bind (recoverSigner_yields message signature) fun _ signer _ _ => ?_
    obtain ⟨challenge, recoveredAddress⟩ := signer
    dsimp only
    split
    next => exact yields_throw
    next => exact issueForWallet_yields _
  · exact yields_attempt_then trivial fun _ _ _ => yields_throw

theorem verifyWalletTwoFactor_yields {userId : String} (dto : TwoFactorVerifyDto)
    (mine : checkedAccount call = some userId) : Yields (conduct libraries) call past
      (WalletAuthService.verifyWalletTwoFactorAndIssueToken libraries userId dto)
      fun past' token => Verified libraries userId dto past' ∧ OfAccount userId token past' := by
  unfold WalletAuthService.verifyWalletTwoFactorAndIssueToken
  refine yields_bind (verifyTwoFactorCode_yields dto mine) fun _ _ _ verified => ?_
  refine yields_ask_then trivial fun _ found grown asked selected => ?_
  cases found with
  | none => exact yields_throw
  | some user =>
    refine yields_clock_then fun now => yields_pure ⟨verified.mono grown, ?_⟩
    exact ⟨user, asked, user_of_query selected, rfl, rfl, rfl, rfl⟩

/-! ## Linked wallets -/

section Queries
variable {query : WalletQuery} {wallet : Wallet}

theorem selects_id {id : String} (selected : query.selects wallet = true)
    (asked : query.id = some id) : wallet.id = id := by
  simp only [WalletQuery.selects, asked, Bool.and_eq_true, Option.all_some,
    decide_eq_true_eq] at selected
  exact selected.1.1.1.1.1.1

theorem selects_notId {id : String} (selected : query.selects wallet = true)
    (asked : query.notId = some id) : wallet.id ≠ id := by
  simp only [WalletQuery.selects, asked, Bool.and_eq_true, Option.all_some,
    decide_eq_true_eq] at selected
  exact selected.1.1.1.1.1.2

theorem selects_type {type : WalletType} (selected : query.selects wallet = true)
    (asked : query.type = some type) : wallet.type = type := by
  simp only [WalletQuery.selects, asked, Bool.and_eq_true, Option.all_some,
    decide_eq_true_eq] at selected
  exact selected.1.1.2

theorem selects_status {status : WalletStatus} (selected : query.selects wallet = true)
    (asked : query.status = some status) : wallet.status = status := by
  simp only [WalletQuery.selects, asked, Bool.and_eq_true, Option.all_some,
    decide_eq_true_eq] at selected
  exact selected.1.2

end Queries

section Wallets
variable (lenient : Lenient rules call)
include lenient

theorem announceWallet_yields (currentUserId : String) :
    Yields rules call past (WalletAuthService.announceWallet currentUserId) fun _ _ => True := by
  unfold WalletAuthService.announceWallet
  refine yields_ask_then (lenient.allows rfl) fun _ user _ _ _ => ?_
  split
  next =>
    refine yields_attempt_then (lenient.allows rfl) fun _ _ _ => ?_
    exact yields_attempt_then (lenient.allows rfl) fun _ _ _ => yields_pure trivial
  next => exact yields_attempt_then (lenient.allows rfl) fun _ _ _ => yields_pure trivial

theorem addWallet_yields (currentUserId normalizedNew message signature : String)
    (walletName : Option String) (permissions : Option (List String)) (clientInfo : ClientInfo) (existing : Nat)
    (links : ∀ past wallet, wallet.status = .active → wallet.type ≠ .delegated →
      rules.permits call past (.insertWallet wallet)) : Yields rules call past
      (WalletAuthService.addWallet currentUserId normalizedNew message signature walletName
        permissions clientInfo existing) fun _ _ => True := by
  have notDelegated : (if decide (existing = 0) then WalletType.primary else .secondary) ≠
      .delegated := by split <;> simp
  unfold WalletAuthService.addWallet
  refine yields_clock_then fun now => yields_ask_then (links _ _ rfl notDelegated) ?_
  intro past' walletId _ _ _
  have finished : ∀ past'' (linked : LinkedWallet), Yields rules call past''
      (do
        WalletAuthService.announceWallet currentUserId
        pure linked) fun _ _ => True :=
    fun past'' linked =>
      yields_bind (announceWallet_yields lenient currentUserId) fun _ _ _ _ => yields_pure trivial
  dsimp only
  split
  next => exact yields_ask_then (lenient.allows rfl) fun past'' _ _ _ _ => finished past'' _
  next => exact finished past' _

theorem linkWallet_yields (maxWallets : Nat)
    (currentUserId newWalletAddress message signature : String) (walletName : Option String)
    (permissions : Option (List String)) (clientInfo : ClientInfo)
    (links : ∀ past wallet, wallet.status = .active → wallet.type ≠ .delegated →
      rules.permits call past (.insertWallet wallet)) : Yields rules call past
      (WalletAuthService.linkWallet libraries maxWallets currentUserId newWalletAddress message
        signature walletName permissions clientInfo) fun _ _ => True := by
  unfold WalletAuthService.linkWallet
  refine yields_bind (recoverSigner_yields message signature) fun _ signer _ _ => ?_
  obtain ⟨challenge, recoveredAddress⟩ := signer
  dsimp only
  split
  next => exact yields_throw
  next =>
    refine yields_ask_then (lenient.allows rfl) fun _ existingWallet _ _ _ => ?_
    cases existingWallet with
    | some wallet =>
      dsimp only
      split
      next => exact yields_throw
      next => exact yields_throw
    | none =>
      refine yields_ask_then (lenient.allows rfl) fun _ existingWallets _ _ _ => ?_
      split
      next => exact yields_throw
      next => exact addWallet_yields lenient _ _ _ _ _ _ _ _ links

theorem setPrimaryWallet_yields (walletId userId : String)
    (promotes : ∀ past query wallet, ⟨.findWallet query, .ok (some wallet)⟩ ∈ past → wallet.status = .active →
      rules.permits call past (.saveWallet { wallet with isPrimary := true, type := .primary })) :
    Yields rules call past (WalletAuthService.setPrimaryWallet walletId userId) fun _ _ => True := by
  unfold WalletAuthService.setPrimaryWallet
  refine yields_ask_then (lenient.allows rfl) fun _ found _ asked _ => ?_
  cases found with
  | none => exact yields_throw
  | some wallet =>
    dsimp only
    split
    next => exact yields_throw
    next active =>
      refine yields_ask_then (lenient.allows rfl) fun _ _ grown _ _ => ?_
      refine yields_ask_then (promotes _ _ _ (grown asked) (not_not.mp active)) fun _ _ _ _ _ => ?_
      exact yields_ask_then (lenient.allows rfl) fun _ _ _ _ _ => yields_pure trivial

theorem checkRecovery_yields (userId : String) :
    Yields rules call past (WalletAuthService.checkRecovery userId) fun _ _ => True := by
  unfold WalletAuthService.checkRecovery
  refine yields_ask_then (lenient.allows rfl) fun _ activeWallets _ _ _ => ?_
  split
  next =>
    refine yields_ask_then (lenient.allows rfl) fun _ user _ _ _ => ?_
    split
    next => exact yields_pure trivial
    next => exact yields_throw
  next => exact yields_pure trivial

section Unlinked
variable {walletId : String} (promotes : ∀ past query wallet, ⟨.findWallet query, .ok (some wallet)⟩ ∈ past →
  query.notId = some walletId → wallet.id ≠ walletId → wallet.status = .active →
  rules.permits call past (.saveWallet { wallet with isPrimary := true, type := .primary }))
include promotes

theorem promoteRemaining_yields (userId : String) :
    Yields rules call past (WalletAuthService.promoteRemaining userId walletId) fun _ _ => True := by
  unfold WalletAuthService.promoteRemaining
  refine yields_ask_then (lenient.allows rfl) fun _ remaining _ asked possible => ?_
  cases remaining with
  | none => exact yields_pure trivial
  | some wallet =>
    have selected := lenient.selects possible
    have permitted := promotes _ _ _ asked rfl (selects_notId selected rfl) (selects_status selected rfl)
    refine yields_ask_then permitted fun _ _ _ _ _ => ?_
    exact yields_ask (lenient.allows rfl) fun _ _ => trivial

theorem unlinkWallet_yields (userId : String) (unlinks : ∀ past wallet, Found past wallet → wallet.id = walletId →
      rules.permits call past (.saveWallet { wallet with status := .unlinked })) :
    Yields rules call past (WalletAuthService.unlinkWallet userId walletId) fun _ _ => True := by
  unfold WalletAuthService.unlinkWallet
  refine yields_ask_then (lenient.allows rfl) fun _ found _ asked possible => ?_
  cases found with
  | none => exact yields_throw
  | some wallet =>
    refine yields_bind (checkRecovery_yields lenient userId) fun _ _ grown _ => ?_
    have named := selects_id (lenient.selects possible) rfl
    refine yields_ask_then (unlinks _ _ (.one (grown asked)) named) fun _ _ _ _ _ => ?_
    split
    next =>
      exact yields_bind (promoteRemaining_yields lenient promotes userId) fun _ _ _ _ => yields_pure trivial
    next => exact yields_pure trivial

end Unlinked

/-! ## Delegated wallets -/

omit lenient in
theorem createDelegation_yields (delegatorUserId : String) (delegator : Wallet)
    (delegateAddress : String) (existing : Bool) (request : DelegationRequest)
    (requests : ∀ past, rules.permits call past (.insertWallet
      (DelegationService.pendingWallet delegatorUserId delegator delegateAddress request))) : Yields rules call past
      (DelegationService.createDelegation delegatorUserId delegator delegateAddress existing request)
      fun _ _ => True := by
  unfold DelegationService.createDelegation
  refine yields_draw_then fun delegationId => ?_
  refine yields_bind (generateDelegationChallenge_yields _ _ _ _) fun _ challenge _ _ => ?_
  dsimp only
  split
  next => exact yields_pure trivial
  next => exact yields_ask_then (requests _) fun _ _ _ _ _ => yields_pure trivial

theorem requestDelegation_yields (delegatorUserId : String) (request : DelegationRequest)
    (requests : ∀ past delegator address, delegator.id = request.delegatorWalletId → rules.permits call past
      (.insertWallet (DelegationService.pendingWallet delegatorUserId delegator address request))) :
    Yields rules call past (DelegationService.requestDelegation delegatorUserId request) fun _ _ => True := by
  unfold DelegationService.requestDelegation
  refine yields_ask_then (lenient.allows rfl) fun _ found _ _ possible => ?_
  cases found with
  | none => exact yields_throw
  | some delegator =>
    have named := selects_id (lenient.selects possible) rfl
    dsimp only
    split
    next => exact yields_throw
    next =>
      refine yields_ask_then (lenient.allows rfl) fun _ existing _ _ _ => ?_
      split
      next => exact yields_throw
      next =>
        split
        next => exact yields_throw
        next =>
          refine yields_clock_then fun now => ?_
          split
          next => exact yields_throw
          next =>
            split
            next => exact yields_throw
            next => exact createDelegation_yields _ _ _ _ _ fun past => requests past _ _ named

omit lenient in
theorem activate_yields {delegator delegate : Wallet} {expiresAt : Nat} (signature : String)
    (grants : ∀ past' now, past ⊆ past' → rules.permits call past' (.saveWallet { delegate with
      status := .active, verifiedAt := some now, verificationSignature := some signature })) :
    Yields rules call past
      (DelegationService.activate libraries delegator delegate expiresAt signature) fun _ _ => True := by
  unfold DelegationService.activate
  refine yields_bind (generateDelegationChallenge_yields _ _ _ _) fun _ challenge grown _ => ?_
  split
  next => exact yields_throw
  next recoveredAddress _ =>
    split
    next => exact yields_throw
    next =>
      refine yields_clock_then fun now => ?_
      exact yields_ask_then (grants _ _ grown) fun _ _ _ _ _ => yields_pure trivial

theorem completeDelegation_yields (delegatorUserId delegateWalletId signature : String)
    (grants : ∀ past wallet now, Found past wallet → wallet.type = .delegated → wallet.delegationExpiresAt.isSome →
      rules.permits call past (.saveWallet { wallet with
        status := .active, verifiedAt := some now, verificationSignature := some signature })) :
    Yields rules call past
      (DelegationService.completeDelegation libraries delegatorUserId delegateWalletId signature)
      fun _ _ => True := by
  unfold DelegationService.completeDelegation
  refine yields_ask_then (lenient.allows rfl) fun _ found _ asked possible => ?_
  cases found with
  | none => exact yields_throw
  | some delegate =>
    have delegated := selects_type (lenient.selects possible) rfl
    refine yields_ask_then (lenient.allows rfl) fun _ delegator grown _ _ => ?_
    cases delegator with
    | none => exact yields_throw
    | some delegator =>
      cases expires : delegate.delegationExpiresAt with
      | none => exact yields_throw
      | some expiresAt =>
        refine activate_yields signature fun past' now more => ?_
        exact grants past' delegate now (.one (more (grown asked))) delegated (by rw [expires]; rfl)

theorem revokeDelegation_yields (userId delegationId : String) (revokes : ∀ past wallet, Found past wallet →
      rules.permits call past (.saveWallet { wallet with status := .revoked })) :
    Yields rules call past (DelegationService.revokeDelegation userId delegationId)
      fun _ _ => True := by
  unfold DelegationService.revokeDelegation
  refine yields_ask_then (lenient.allows rfl) fun _ found _ asked _ => ?_
  cases found with
  | none => exact yields_throw
  | some delegate =>
    dsimp only
    split
    next => exact yields_throw
    next => exact yields_ask_then (revokes _ _ (.one asked)) fun _ _ _ _ _ => yields_pure trivial

section Expired
variable (expires : ∀ past wallet, Found past wallet →
  rules.permits call past (.saveWallet { wallet with status := .unlinked }))
include expires

theorem verifyDelegationPermission_yields (delegateAddress requiredPermission : String) : Yields rules call past
      (DelegationService.verifyDelegationPermission delegateAddress requiredPermission) fun _ _ => True := by
  unfold DelegationService.verifyDelegationPermission
  refine yields_ask_then (lenient.allows rfl) fun _ found _ asked _ => ?_
  cases found with
  | none => exact yields_pure trivial
  | some delegate =>
    refine yields_clock_then fun now => ?_
    split
    next => exact yields_ask_then (expires _ _ (.one asked)) fun _ _ _ _ _ => yields_pure trivial
    next =>
      split
      next => exact yields_pure trivial
      next => exact yields_pure trivial

omit lenient in
theorem expireAll_yields : ∀ (wallets : List Wallet) (past : List (Event auth)),
    (∀ wallet ∈ wallets, Found past wallet) →
      Yields rules call past (DelegationService.expireAll wallets) fun _ _ => True
  | [], _, _ => yields_pure trivial
  | wallet :: rest, past, found => by
    obtain ⟨first, others⟩ := List.forall_mem_cons.mp found
    refine yields_ask_then (expires past wallet first) fun past' _ grown _ _ => ?_
    exact expireAll_yields rest past' fun other member => (others other member).mono grown

theorem cleanupExpiredDelegations_yields :
    Yields rules call past DelegationService.cleanupExpiredDelegations fun _ _ => True := by
  unfold DelegationService.cleanupExpiredDelegations
  refine yields_clock_then fun now => yields_ask_then (lenient.allows rfl) fun past' wallets _ asked _ => ?_
  exact yields_bind (expireAll_yields expires wallets past' fun _ member => .many asked member)
    fun _ _ _ _ => yields_pure trivial

end Expired

end Wallets

/-! ## Email addresses -/

theorem sendVerification_yields (normalizedWallet normalizedEmail : String) : Yields (conduct libraries) call past
      (EmailLinkingService.sendVerification normalizedWallet normalizedEmail) fun _ _ => True := by
  unfold EmailLinkingService.sendVerification
  refine yields_draw_then fun token => yields_ask_then trivial fun _ _ _ _ _ => ?_
  refine yields_clock_then fun now => yields_ask_then trivial fun _ _ _ _ _ => ?_
  exact yields_ask_then trivial fun _ _ _ _ _ => yields_pure trivial

theorem initiateEmailLinking_yields (walletAddress email : String) : Yields (conduct libraries) call past
      (EmailLinkingService.initiateEmailLinking walletAddress email) fun _ _ => True := by
  unfold EmailLinkingService.initiateEmailLinking
  split
  next => exact yields_throw
  next =>
    refine yields_ask_then trivial fun _ found _ _ _ => ?_
    rcases found with _ | ⟨wallet, user⟩
    · exact yields_throw
    · refine yields_ask_then trivial fun _ existingEmailUser _ _ _ => ?_
      split
      next => exact yields_throw
      next =>
        split
        next => exact yields_throw
        next => exact sendVerification_yields _ _

theorem verifyEmailAndLink_yields (token : String) :
    Yields (conduct libraries) call past (EmailLinkingService.verifyEmailAndLink token) fun _ _ => True := by
  unfold EmailLinkingService.verifyEmailAndLink
  refine yields_ask_then trivial fun _ found _ _ _ => ?_
  cases found with
  | none => exact yields_throw
  | some verification =>
    refine yields_clock_then fun now => ?_
    split
    next => exact yields_ask_then trivial fun _ _ _ _ _ => yields_throw
    next =>
      refine yields_ask_then trivial fun _ wallet _ _ _ => ?_
      split
      next => exact yields_throw
      next user _ =>
        refine yields_ask_then trivial fun _ _ _ _ _ => ?_
        exact yields_ask_then trivial fun _ _ _ _ _ => yields_pure trivial

theorem unlinkEmail_yields (walletAddress : String) :
    Yields (conduct libraries) call past (EmailLinkingService.unlinkEmail walletAddress) fun _ _ => True := by
  unfold EmailLinkingService.unlinkEmail
  refine yields_ask_then trivial fun _ wallet _ _ _ => ?_
  split
  next => exact yields_throw
  next user _ =>
    refine yields_ask_then trivial fun _ _ _ _ _ => ?_
    exact yields_ask_then trivial fun _ _ _ _ _ => yields_pure trivial

end Methods

/-! ## The process -/

theorem conduct_lenient {libraries : AuthLibraries} {call : AuthCall} : Lenient (conduct libraries) call where
  allows {past op} free := by cases op <;> trivial
  selects found := found

theorem yields_silent {libraries : AuthLibraries} {call : AuthCall} {α : Type} {program : AuthM α}
    {value : α → AuthValue} (yields : Yields (conduct libraries) call [] program fun _ _ => True)
    (silent : ∀ past result, vouches libraries call past (value result)) :
    Yields (conduct libraries) call [] (returning value program) (vouches libraries call) :=
  yields_returning (yields_mono (fun past result _ _ => silent past result) yields)

theorem authBody_yields (config : AuthConfig) (call : AuthCall) :
    Yields (conduct config.libraries) call [] (authBody config call) (vouches config.libraries call) := by
  cases call with
  | register dto ipAddress userAgent =>
    exact yields_returning (register_yields dto ipAddress userAgent)
  | login email password ipAddress userAgent =>
    exact yields_returning (login_yields email password ipAddress userAgent)
  | refreshToken token ipAddress userAgent =>
    exact yields_returning (refreshToken_yields token ipAddress userAgent)
  | setupTwoFactor userId => exact yields_silent (setupTwoFactor_yields userId) fun _ _ => rfl
  | verifyTwoFactorSetup userId code =>
    exact yields_silent (verifyTwoFactorSetup_yields userId code) fun _ _ => rfl
  | verifyTwoFactorLogin userId dto clientInfo =>
    exact yields_returning (verifyTwoFactorLogin_yields dto clientInfo rfl)
  | regenerateBackupCodes userId password =>
    exact yields_silent (regenerateBackupCodes_yields password rfl) fun _ _ => rfl
  | disableTwoFactor userId password =>
    exact yields_silent (disableTwoFactor_yields userId password) fun _ _ => rfl
  | issueChallengeForAddress address =>
    exact yields_silent (issueChallengeForAddress_yields address) fun _ _ => rfl
  | verifySignatureAndIssueToken message signature =>
    exact yields_returning (verifySignatureAndIssueToken_yields message signature)
  | verifyWalletTwoFactorAndIssueToken userId dto =>
    exact yields_returning (verifyWalletTwoFactor_yields dto rfl)
  | linkWallet currentUserId newWalletAddress message signature walletName permissions clientInfo =>
    exact yields_silent (linkWallet_yields conduct_lenient _ _ _ _ _ _ _ _ fun _ _ active type => ⟨active, type⟩)
      fun _ _ => rfl
  | setPrimaryWallet walletId userId =>
    exact yields_silent (setPrimaryWallet_yields conduct_lenient _ _ fun _ _ _ _ active => ⟨active, rfl⟩)
      fun _ _ => rfl
  | unlinkWallet userId walletId =>
    refine yields_silent (unlinkWallet_yields conduct_lenient (fun _ _ _ _ _ other active => ?_) _
      fun _ _ _ same => ?_) fun _ _ => rfl
    · simp [permits, maySave, other, active]
    · simp [permits, maySave, same]
  | requestDelegation delegatorUserId request =>
    exact yields_silent (requestDelegation_yields conduct_lenient _ _ fun _ _ _ _ => rfl) fun _ _ => rfl
  | completeDelegation delegatorUserId delegateWalletId signature =>
    exact yields_silent (completeDelegation_yields conduct_lenient _ _ _ fun _ _ _ _ type expires =>
      ⟨rfl, type, expires⟩) fun _ _ => rfl
  | revokeDelegation userId delegationId =>
    exact yields_silent (revokeDelegation_yields conduct_lenient _ _ fun _ _ _ => rfl) fun _ _ => rfl
  | verifyDelegationPermission delegateAddress requiredPermission =>
    refine yields_silent (verifyDelegationPermission_yields conduct_lenient ?_ _ _) fun _ _ => rfl
    exact fun _ _ _ => rfl
  | cleanupExpiredDelegations =>
    exact yields_silent (cleanupExpiredDelegations_yields conduct_lenient fun _ _ _ => rfl) fun _ _ => rfl
  | initiateEmailLinking walletAddress email =>
    exact yields_silent (initiateEmailLinking_yields walletAddress email) fun _ _ => rfl
  | verifyEmailAndLink token =>
    exact yields_silent (verifyEmailAndLink_yields token) fun _ _ => rfl
  | unlinkEmail walletAddress =>
    exact yields_silent (unlinkEmail_yields walletAddress) fun _ _ => rfl
  | adminRequest token => exact yields_returning (adminRequest_yields token)

theorem respond_possible {libraries : AuthLibraries} {world world' : AuthWorld} {op : AuthOp}
    {outcome : AuthOutcome} {result : Except Exception op.Reply}
    (responds : world.respond libraries op outcome = some (world', result)) : possible op result := by
  cases op with
  | findUser query =>
    cases outcome with
    | done =>
      cases responds
      cases found : world.users.rows.find? query.selects with
      | none => trivial
      | some user => exact List.find?_some found
    | made text => cases responds
    | fails failure => cases responds; trivial
  | findTwoFactor query =>
    cases outcome with
    | done =>
      cases responds
      cases found : world.twoFactors.rows.find? query.selects with
      | none => trivial
      | some row => exact List.find?_some found
    | made text => cases responds
    | fails failure => cases responds; trivial
  | findWallet query =>
    cases outcome with
    | done =>
      cases responds
      cases found : (world.findWallets query).head? with
      | none => trivial
      | some wallet =>
        have listed := List.mem_of_head? found
        unfold AuthWorld.findWallets at listed
        rw [List.mem_insertionSort] at listed
        exact (List.mem_filter.mp listed).2
    | made text => cases responds
    | fails failure => cases responds; trivial
  | _ => trivial

theorem conduct_conforms (config : AuthConfig) (offers : AuthCall → Bool) :
    Conforms (conduct config.libraries).protocol (authProcess config offers) :=
  rules_conform (fun call _ => authBody_yields config call)
    fun _ _ _ _ _ responds => respond_possible responds

end AlianStructure.Guarantees.WalletConduct
