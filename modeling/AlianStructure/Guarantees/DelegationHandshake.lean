import AlianStructure.Library.GrowingMemory
import AlianStructure.Guarantees.WalletLineage

/-!
# The delegation handshake never completes

Source: delegation.service.ts:56-249,486-499. requestDelegation returns a challenge with a nonce
that is stored nowhere. completeDelegation makes a challenge of its own, with a new nonce, and
checks the signature against that.
-/
namespace AlianStructure.Guarantees.DelegationHandshake
open Library.AsyncMethod Library.Interleaving Library.CallProtocol Library.CallJournal
open Library.GrowingMemory Library.KeyedTable
open Source Source.Auth AuthCalls WalletLineage

/-! ## Challenges -/

/-- A challenge ends in its nonce. -/
def Nonced (challenge nonce : String) : Prop := ∃ text, challenge = text ++ "\nNonce: " ++ nonce

theorem last_line {first second line line' : List Char} (one : '\n' ∉ line) (other : '\n' ∉ line')
    (same : first ++ '\n' :: line = second ++ '\n' :: line') : line = line' := by
  rcases List.append_eq_append_iff.mp same with ⟨middle, _, rest⟩ | ⟨middle, _, rest⟩
  · cases middle with
    | nil => exact (List.cons.inj rest).2
    | cons c middle =>
      obtain ⟨_, tail⟩ := List.cons.inj rest
      exact absurd (by rw [tail]; simp) one
  · cases middle with
    | nil => exact (List.cons.inj rest).2.symm
    | cons c middle =>
      obtain ⟨_, tail⟩ := List.cons.inj rest
      exact absurd (by rw [tail]; simp) other

theorem Nonced.nonce_eq {challenge nonce nonce' : String} (first : Nonced challenge nonce)
    (second : Nonced challenge nonce') (one : '\n' ∉ nonce.toList) (other : '\n' ∉ nonce'.toList) :
    nonce = nonce' := by
  obtain ⟨text, rfl⟩ := first
  obtain ⟨text', same⟩ := second
  have lists : text.toList ++ '\n' :: ("Nonce: ".toList ++ nonce.toList) =
      text'.toList ++ '\n' :: ("Nonce: ".toList ++ nonce'.toList) := by
    have equal := congrArg String.toList same
    simpa using equal
  have lines := last_line (by simp [one]) (by simp [other]) lists
  exact String.toList_injective (List.append_cancel_left lines)

/-! ## The random values only move forward -/

abbrev process (config : AuthConfig) : Service auth := authProcess config managesDelegations

/-- A later memory has the same source of random values, of which more are drawn. -/
def draws (config : AuthConfig) : Growth (process config) where
  earlier before after := after.random = before.random ∧ before.drawn ≤ after.drawn
  refl _ := ⟨rfl, Nat.le_refl _⟩
  trans first second := ⟨second.1.trans first.1, Nat.le_trans first.2 second.2⟩
  environment _ mem _ := ⟨rfl, Nat.le_refl mem.drawn⟩
  possible := AccountConduct.possible
  answers _ _ _ _ _ responds := WalletConduct.respond_possible responds

section Rules
variable {config : AuthConfig} {α : Type} {past : List (Event auth)} {mem : AuthMemory}
  {post : List (Event auth) → AuthMemory → Except Exception α → Prop}

theorem grows_clock_then {next : Nat → AuthM α} (rest : Grows (draws config) post past mem (next mem.now)) :
    Grows (draws config) post past mem (clock >>= next) := rest

theorem grows_draw_then {next : String → AuthM α}
    (rest : Grows (draws config) post past { mem with drawn := mem.drawn + 1 }
      (next (mem.random mem.drawn))) :
    Grows (draws config) post past mem (draw >>= next) := ⟨⟨rfl, Nat.le_succ _⟩, rest⟩

theorem grows_ask_then {op : AuthOp} {next : op.Reply → AuthM α}
    (fails : ∀ past mem failure, post past mem (.error failure))
    (rest : ∀ past' later reply, past ⊆ past' → ⟨op, .ok reply⟩ ∈ past' →
      (draws config).earlier mem later → AccountConduct.possible op (.ok reply) →
      Grows (draws config) post past' later (next reply)) : Grows (draws config) post past mem (ask op >>= next) := by
  intro later after result possible
  cases result with
  | error failure => exact fails _ later failure
  | ok reply =>
    exact rest _ later reply (List.subset_append_left _ _)
      (List.mem_append_right _ (List.mem_singleton_self _)) after possible

/-- What may be done at any time: it moves the memory forward. -/
def Forward (config : AuthConfig) (program : AuthM α) : Prop :=
  ∀ past mem, Grows (draws config) (fun _ _ _ => True) past mem program

variable {β : Type}

theorem forward_pure (value : α) : Forward config (pure value : AuthM α) := fun _ _ => trivial

theorem forward_throw (failure : Exception) : Forward config (throw failure : AuthM α) :=
  fun _ _ => trivial

theorem forward_bind {program : AuthM β} {next : β → AuthM α} (first : Forward config program)
    (rest : ∀ value, Forward config (next value)) : Forward config (program >>= next) :=
  fun past mem => grows_bind (first past mem) (fun past mem value _ => rest value past mem)
    fun _ _ _ _ => trivial

theorem forward_ask (op : AuthOp) : Forward config (ask op) := fun _ _ _ _ _ _ => trivial

theorem forward_attempt (op : AuthOp) : Forward config (ask op).outcome := fun _ _ _ _ _ _ => trivial

theorem forward_clock : Forward config clock := fun _ _ => trivial

theorem forward_draw : Forward config draw := fun _ _ => ⟨⟨rfl, Nat.le_succ _⟩, trivial⟩

theorem forward_memory : Forward config (Async.memory : AuthM AuthMemory) := fun _ _ => trivial

theorem forward_challenges (change : Table Challenge Challenge.id → Table Challenge Challenge.id) :
    Forward config (Async.update (R := auth) fun memory =>
      { memory with challenges := change memory.challenges }) :=
  fun _ _ => ⟨⟨rfl, Nat.le_refl _⟩, trivial⟩

theorem forward_returning {program : AuthM α} {value : α → AuthValue}
    (forward : Forward config program) : Forward config (returning value program) :=
  forward_bind forward fun _ => forward_pure _

end Rules

section Methods
variable {config : AuthConfig}

theorem issueChallengeForAddress_forward (address : String) :
    Forward config (ChallengeService.issueChallengeForAddress address) := by
  unfold ChallengeService.issueChallengeForAddress
  refine forward_bind forward_draw fun challengeId => forward_bind forward_clock fun now => ?_
  exact forward_bind (forward_challenges fun challenges => challenges.save _)
    fun _ => forward_pure _

theorem recoverSigner_forward (libraries : AuthLibraries) (message signature : String) :
    Forward config (WalletAuthService.recoverSigner libraries message signature) := by
  unfold WalletAuthService.recoverSigner
  split
  next => exact forward_throw _
  next challengeId _ =>
    refine forward_bind ?_ fun consumed => ?_
    · unfold ChallengeService.consumeChallenge
      refine forward_bind forward_memory fun memory => ?_
      exact forward_bind (forward_challenges fun challenges => challenges.delete _)
        fun _ => forward_pure _
    · split
      next => exact forward_throw _
      next =>
        split
        next => exact forward_throw _
        next => exact forward_pure _

theorem announceWallet_forward (currentUserId : String) :
    Forward config (WalletAuthService.announceWallet currentUserId) := by
  unfold WalletAuthService.announceWallet
  refine forward_bind (forward_ask _) fun user => ?_
  split
  next =>
    refine forward_bind (forward_attempt _) fun _ => ?_
    exact forward_bind (forward_attempt _) fun _ => forward_pure _
  next => exact forward_bind (forward_attempt _) fun _ => forward_pure _

theorem linkWallet_forward (libraries : AuthLibraries) (maxWallets : Nat)
    (currentUserId newWalletAddress message signature : String) (walletName : Option String)
    (permissions : Option (List String)) (clientInfo : ClientInfo) :
    Forward config (WalletAuthService.linkWallet libraries maxWallets currentUserId
      newWalletAddress message signature walletName permissions clientInfo) := by
  unfold WalletAuthService.linkWallet
  refine forward_bind (recoverSigner_forward libraries message signature) fun signer => ?_
  dsimp only
  split
  next => exact forward_throw _
  next =>
    refine forward_bind (forward_ask _) fun existingWallet => ?_
    split
    next =>
      split
      next => exact forward_throw _
      next => exact forward_throw _
    next =>
      refine forward_bind (forward_ask _) fun existingWallets => ?_
      split
      next => exact forward_throw _
      next =>
        unfold WalletAuthService.addWallet
        refine forward_bind forward_clock fun now => forward_bind (forward_ask _) fun walletId => ?_
        have finish : ∀ linked : LinkedWallet, Forward config
            (WalletAuthService.announceWallet currentUserId >>= fun _ => pure linked) :=
          fun _ => forward_bind (announceWallet_forward currentUserId) fun _ => forward_pure _
        dsimp only
        split
        next => exact forward_bind (forward_ask _) fun _ => finish _
        next => exact finish _

theorem setPrimaryWallet_forward (walletId userId : String) :
    Forward config (WalletAuthService.setPrimaryWallet walletId userId) := by
  unfold WalletAuthService.setPrimaryWallet
  refine forward_bind (forward_ask _) fun found => ?_
  split
  next => exact forward_throw _
  next =>
    split
    next => exact forward_throw _
    next =>
      refine forward_bind (forward_ask _) fun _ => forward_bind (forward_ask _) fun _ => ?_
      exact forward_bind (forward_ask _) fun _ => forward_pure _

theorem unlinkWallet_forward (userId walletId : String) :
    Forward config (WalletAuthService.unlinkWallet userId walletId) := by
  have checks : Forward config (WalletAuthService.checkRecovery userId) := by
    unfold WalletAuthService.checkRecovery
    refine forward_bind (forward_ask _) fun activeWallets => ?_
    split
    next =>
      refine forward_bind (forward_ask _) fun user => ?_
      split
      next => exact forward_pure _
      next => exact forward_throw _
    next => exact forward_pure _
  have promotes : Forward config (WalletAuthService.promoteRemaining userId walletId) := by
    unfold WalletAuthService.promoteRemaining
    refine forward_bind (forward_ask _) fun remaining => ?_
    split
    next => exact forward_pure _
    next => exact forward_bind (forward_ask _) fun _ => forward_ask _
  unfold WalletAuthService.unlinkWallet
  refine forward_bind (forward_ask _) fun found => ?_
  split
  next => exact forward_throw _
  next =>
    refine forward_bind checks fun _ => forward_bind (forward_ask _) fun _ => ?_
    split
    next => exact forward_bind promotes fun _ => forward_pure _
    next => exact forward_pure _

theorem revokeDelegation_forward (userId delegationId : String) :
    Forward config (DelegationService.revokeDelegation userId delegationId) := by
  unfold DelegationService.revokeDelegation
  refine forward_bind (forward_ask _) fun found => ?_
  split
  next => exact forward_throw _
  next =>
    split
    next => exact forward_throw _
    next => exact forward_bind (forward_ask _) fun _ => forward_pure _

theorem verifyDelegationPermission_forward (delegateAddress requiredPermission : String) : Forward config
      (DelegationService.verifyDelegationPermission delegateAddress requiredPermission) := by
  unfold DelegationService.verifyDelegationPermission
  refine forward_bind (forward_ask _) fun found => ?_
  split
  next => exact forward_pure _
  next =>
    refine forward_bind forward_clock fun now => ?_
    split
    next => exact forward_bind (forward_ask _) fun _ => forward_pure _
    next =>
      split
      next => exact forward_pure _
      next => exact forward_pure _

theorem expireAll_forward :
    ∀ wallets, Forward config (DelegationService.expireAll wallets)
  | [] => forward_pure _
  | _ :: rest => forward_bind (forward_ask _) fun _ => expireAll_forward rest

theorem cleanupExpiredDelegations_forward : Forward config DelegationService.cleanupExpiredDelegations := by
  unfold DelegationService.cleanupExpiredDelegations
  refine forward_bind forward_clock fun now => forward_bind (forward_ask _) fun wallets => ?_
  exact forward_bind (expireAll_forward wallets) fun _ => forward_pure _

end Methods

/-! ## The two halves of the handshake -/

/-- The challenge that requestDelegation has returned: for the delegator that was found, with
a nonce that has been drawn. -/
def Challenged (request : DelegationRequest) (requested : DelegationChallenge)
    (past : List (Event auth)) (mem : AuthMemory) : Prop :=
  (∃ k < mem.drawn, Nonced requested.challenge (mem.random k)) ∧
    ∃ query delegator, ⟨.findWallet query, .ok (some delegator)⟩ ∈ past ∧
      delegator.id = request.delegatorWalletId

/-- completeDelegation has succeeded: the signature was right for a challenge with a nonce
drawn since the call began. -/
def Completed (libraries : AuthLibraries) (delegateWalletId signature : String) (began : AuthMemory)
    (past : List (Event auth)) (mem : AuthMemory) : Prop :=
  ∃ k challenge, began.drawn ≤ k ∧ mem.random = began.random ∧
    Nonced challenge (mem.random k) ∧
    ∃ query delegate query' delegator recovered,
      ⟨.findWallet query, .ok (some delegate)⟩ ∈ past ∧ delegate.id = delegateWalletId ∧
      ⟨.findWallet query', .ok (some delegator)⟩ ∈ past ∧
      (∀ id, delegate.delegatedById = some id → delegator.id = id) ∧
      libraries.verifyMessage challenge signature = .ok recovered ∧
      toLowerCase recovered = toLowerCase delegator.address

/-- What the two methods accept at their ends. -/
def accepts (libraries : AuthLibraries) : Accepts auth := fun began call past mem result =>
  match call, result with
  | .requestDelegation _ request, .ok (.delegationChallenge requested) =>
    Challenged request requested past mem
  | .completeDelegation _ delegateWalletId signature, .ok _ =>
    Completed libraries delegateWalletId signature began past mem
  | _, _ => True

theorem accepts_error {libraries : AuthLibraries} {began mem : AuthMemory} {call : AuthCall}
    {past : List (Event auth)} {failure : Exception} : accepts libraries began call past mem (.error failure) := by
  unfold accepts
  split
  next same => cases same
  next same => cases same
  next => trivial

theorem accepts_keeps {config : AuthConfig} {libraries : AuthLibraries} (began : AuthMemory)
    (call : AuthCall) (past : List (Event auth)) (mem later : AuthMemory)
    (result : Except Exception AuthValue) (after : (draws config).earlier mem later)
    (accepted : accepts libraries began call past mem result) : accepts libraries began call past later result := by
  obtain ⟨random, drawn⟩ := after
  unfold accepts at accepted ⊢
  split
  next =>
    obtain ⟨⟨k, inside, nonced⟩, found⟩ := accepted
    refine ⟨⟨k, Nat.lt_of_lt_of_le inside drawn, ?_⟩, found⟩
    rw [random]
    exact nonced
  next =>
    obtain ⟨k, challenge, late, same, nonced, found⟩ := accepted
    refine ⟨k, challenge, late, random.trans same, ?_, found⟩
    rw [random]
    exact nonced
  next => trivial

section Handshake
variable {config : AuthConfig} {past : List (Event auth)} {mem : AuthMemory}

theorem generateDelegationChallenge_grows (delegatorAddress delegateAddress : String)
    (permissions : List String) (expiresAt : Nat) : Grows (draws config) (fun past' mem' result => past' = past ∧
        mem' = { mem with drawn := mem.drawn + 1 } ∧
        ∀ challenge, result = .ok challenge → Nonced challenge (mem.random mem.drawn)) past mem
      (DelegationService.generateDelegationChallenge delegatorAddress delegateAddress permissions
        expiresAt) := by
  unfold DelegationService.generateDelegationChallenge
  refine grows_draw_then ⟨rfl, rfl, fun challenge same => ?_⟩
  cases same
  exact ⟨_, rfl⟩

theorem createDelegation_grows (delegatorUserId : String) (delegator : Wallet)
    (delegateAddress : String) (existing : Bool) (request : DelegationRequest)
    {query : WalletQuery} (found : ⟨.findWallet query, .ok (some delegator)⟩ ∈ past)
    (named : delegator.id = request.delegatorWalletId) :
    Grows (draws config) (fun past mem result => ∀ requested, result = .ok requested →
        Challenged request requested past mem) past mem
      (DelegationService.createDelegation delegatorUserId delegator delegateAddress existing request) := by
  unfold DelegationService.createDelegation
  refine grows_draw_then ?_
  refine grows_bind (generateDelegationChallenge_grows _ _ _ _) ?_ fun _ _ _ _ _ never => by
    cases never
  rintro past' mem' challenge ⟨rfl, rfl, nonced⟩
  have nonced := nonced challenge rfl
  dsimp only
  split
  next =>
    rintro requested same
    cases same
    exact ⟨⟨mem.drawn + 1, Nat.lt_succ_self _, nonced⟩, query, delegator, found, named⟩
  next =>
    refine grows_ask_then (fun _ _ _ _ never => by cases never) fun past' later _ grown _ after _ => ?_
    rintro requested same
    cases same
    refine ⟨⟨mem.drawn + 1, Nat.lt_of_succ_le after.2, ?_⟩, query, delegator, grown found, named⟩
    rw [after.1]
    exact nonced

theorem requestDelegation_grows (delegatorUserId : String) (request : DelegationRequest) :
    Grows (draws config) (fun past mem result => ∀ requested, result = .ok requested →
        Challenged request requested past mem) past mem
      (DelegationService.requestDelegation delegatorUserId request) := by
  have fails : ∀ (past : List (Event auth)) (mem : AuthMemory) (failure : Exception)
      (requested : DelegationChallenge), (.error failure : Except Exception DelegationChallenge) =
        .ok requested → Challenged request requested past mem :=
    fun _ _ _ _ never => by cases never
  unfold DelegationService.requestDelegation
  refine grows_ask_then fails fun _ _ found _ asked _ selected => ?_
  cases found with
  | none => exact fails _ _ _
  | some delegator =>
    have named : delegator.id = request.delegatorWalletId :=
      WalletConduct.selects_id selected rfl
    dsimp only
    split
    next => exact fails _ _ _
    next =>
      refine grows_ask_then fails fun _ _ existing grown _ _ _ => ?_
      split
      next => exact fails _ _ _
      next =>
        split
        next => exact fails _ _ _
        next =>
          refine grows_clock_then ?_
          split
          next => exact fails _ _ _
          next =>
            split
            next => exact fails _ _ _
            next => exact createDelegation_grows _ _ _ _ _ (grown asked) named

theorem completeDelegation_grows (delegatorUserId delegateWalletId signature : String) :
    Grows (draws config) (fun past mem' result => ∀ record, result = .ok record →
        Completed config.libraries delegateWalletId signature mem past mem') past mem
      (DelegationService.completeDelegation config.libraries delegatorUserId delegateWalletId signature) := by
  have fails : ∀ (past : List (Event auth)) (mem' : AuthMemory) (failure : Exception)
      (record : DelegationRecord), (.error failure : Except Exception DelegationRecord) =
        .ok record → Completed config.libraries delegateWalletId signature mem past mem' :=
    fun _ _ _ _ never => by cases never
  unfold DelegationService.completeDelegation
  refine grows_ask_then fails fun _ first found _ asked after selected => ?_
  cases found with
  | none => exact fails _ _ _
  | some delegate =>
    have named : delegate.id = delegateWalletId := WalletConduct.selects_id selected rfl
    refine grows_ask_then fails fun past' second found grown asked' after' selected' => ?_
    dsimp only
    split
    next => exact fails _ _ _
    next => exact fails _ _ _
    next delegator expiresAt _ =>
      have theirs : ∀ id, delegate.delegatedById = some id → delegator.id = id :=
        fun id delegated => WalletConduct.selects_id selected' delegated
      unfold DelegationService.activate
      refine grows_bind (generateDelegationChallenge_grows _ _ _ _) ?_ fun _ _ failure _ =>
        fails _ _ failure
      rintro past'' mem' challenge ⟨rfl, rfl, nonced⟩
      have nonced := nonced challenge rfl
      split
      next => exact fails _ _ _
      next recovered verified =>
        split
        next => exact fails _ _ _
        next signer =>
          refine grows_clock_then (grows_ask_then fails fun _ later _ more _ after'' _ => ?_)
          rintro record same
          cases same
          have random := after'.1.trans after.1
          refine ⟨second.drawn, challenge, Nat.le_trans after.2 after'.2, after''.1.trans random,
            ?_, _, delegate, _, delegator, recovered, more (grown asked), named, more asked',
            theirs, verified, not_not.mp signer⟩
          rw [after''.1]
          exact nonced

end Handshake

theorem bodies_grow (config : AuthConfig) (call : AuthCall)
    (isPublic : (process config).isPublic call = true) (mem : AuthMemory) :
    Grows (draws config) (accepts config.libraries mem call) [] mem ((process config).body call) := by
  have quiet : ∀ {program : AuthM AuthValue}, Forward config program →
      (∀ past mem' result, accepts config.libraries mem call past mem' result) →
      Grows (draws config) (accepts config.libraries mem call) [] mem program :=
    fun forward accepted => grows_mono (fun _ _ _ _ => accepted _ _ _) (forward [] mem)
  cases call with
  | issueChallengeForAddress address =>
    exact quiet (forward_returning (issueChallengeForAddress_forward address))
      fun _ _ _ => trivial
  | linkWallet currentUserId newWalletAddress message signature walletName permissions clientInfo =>
    exact quiet (forward_returning (linkWallet_forward _ _ _ _ _ _ _ _ _)) fun _ _ _ => trivial
  | setPrimaryWallet walletId userId =>
    exact quiet (forward_returning (setPrimaryWallet_forward walletId userId))
      fun _ _ _ => trivial
  | unlinkWallet userId walletId =>
    exact quiet (forward_returning (unlinkWallet_forward userId walletId)) fun _ _ _ => trivial
  | requestDelegation delegatorUserId request =>
    refine grows_bind (requestDelegation_grows delegatorUserId request) ?_
      fun _ _ _ _ => accepts_error
    exact fun past mem requested challenged => challenged requested rfl
  | completeDelegation delegatorUserId delegateWalletId signature =>
    refine grows_bind (completeDelegation_grows delegatorUserId delegateWalletId signature) ?_
      fun _ _ _ _ => accepts_error
    exact fun past mem record completed => completed record rfl
  | revokeDelegation userId delegationId =>
    exact quiet (forward_returning (revokeDelegation_forward userId delegationId))
      fun _ _ _ => trivial
  | verifyDelegationPermission delegateAddress requiredPermission =>
    exact quiet (forward_returning (verifyDelegationPermission_forward _ _)) fun _ _ _ => trivial
  | cleanupExpiredDelegations =>
    exact quiet (forward_returning cleanupExpiredDelegations_forward) fun _ _ _ => trivial
  | _ => cases isPublic

/-! ## The handshake -/

/-- The id of the wallet that an answer has created. -/
def createdBy : Event auth → Option String
  | ⟨.insertWallet _, .ok id⟩ => some id
  | _ => none

/-- The challenge that a call has returned. -/
def challengeOf (task : Task auth) : Option String :=
  match task.result with
  | some (.ok (.delegationChallenge requested)) => some requested.challenge
  | _ => none

/-- A call of requestDelegation has created a delegate wallet and returned a challenge. -/
def Requested {config : AuthConfig} (c : Config (process config)) (delegatorUserId : String)
    (request : DelegationRequest) (delegateWalletId challenge : String) : Prop :=
  ∃ task ∈ c.pool, task.call = .requestDelegation delegatorUserId request ∧
    (∃ event ∈ task.past, createdBy event = some delegateWalletId) ∧
    challengeOf task = some challenge

/-- A signature of a message: the signer is recovered from it for this message, and for no
other. -/
structure SignatureOf (libraries : AuthLibraries) (signer message signature : String) : Prop where
  recovers : ∃ recovered, libraries.verifyMessage message signature = .ok recovered ∧
    toLowerCase recovered = toLowerCase signer
  only : ∀ other recovered, libraries.verifyMessage other signature = .ok recovered →
    toLowerCase recovered = toLowerCase signer → other = message

theorem createdBy_eq {event : Event auth} {id : String} (made : createdBy event = some id) :
    ∃ wallet, event = ⟨.insertWallet wallet, .ok id⟩ := by
  unfold createdBy at made
  split at made
  next wallet made_id =>
    cases made
    exact ⟨wallet, rfl⟩
  next => cases made

theorem challengeOf_eq {task : Task auth} {challenge : String} (returned : challengeOf task = some challenge) :
    ∃ requested, task.result = some (.ok (.delegationChallenge requested)) ∧ requested.challenge = challenge := by
  unfold challengeOf at returned
  split at returned
  next requested result => exact ⟨requested, result, Option.some.inj returned⟩
  next => cases returned

/-- Whatever is done in between, a signature of the challenge that requestDelegation has
returned does not complete the delegation. -/
theorem delegation_never_completes (config : AuthConfig) (world : AuthWorld) (mem : AuthMemory)
    (distinct : Function.Injective mem.random) (lines : ∀ k, '\n' ∉ (mem.random k).toList)
    (labels more : List (Label (process config))) (c after : Config (process config))
    (ran : run labels (Config.initial (process config) world mem) = some c)
    (ran' : run more c = some after) (delegatorUserId : String) (request : DelegationRequest)
    (delegateWalletId challenge signature : String)
    (requested : Requested c delegatorUserId request delegateWalletId challenge) (delegator : Wallet)
    (stored : c.world.wallets.findOne request.delegatorWalletId = some delegator)
    (signed : SignatureOf config.libraries delegator.address challenge signature)
    (j : Nat) (later : c.pool.length ≤ j) (task : Task auth) (found : after.pool[j]? = some task)
    (completes : task.call = .completeDelegation delegatorUserId delegateWalletId signature)
    (result : Except Exception AuthValue) (ended : task.result = some result) :
    ∃ failure, result = .error failure := by
  cases result with
  | error failure => exact ⟨failure, rfl⟩
  | ok value =>
    exfalso
    have whole : run (labels ++ more) (Config.initial (process config) world mem) = some after := by
      rw [run_append, ran]
      exact ran'
    have conforms := lineage_conforms config
    have traced : Traced after.world (history after) := traced_always whole
    -- what the request rests on
    obtain ⟨asking, member, asks, ⟨event, inserted, made⟩, returned⟩ := requested
    obtain ⟨i, here⟩ := List.mem_iff_getElem?.mp member
    obtain ⟨wallet, rfl⟩ := createdBy_eq made
    obtain ⟨answer, answered, rfl⟩ := challengeOf_eq returned
    obtain ⟨_, challenged⟩ := accepted (bodies_grow config) accepts_keeps ran here answered
    rw [asks] at challenged
    obtain ⟨⟨k, drawn, nonced⟩, query, asked, shown, named⟩ := challenged
    -- what the completion rests on
    obtain ⟨began, since, completed⟩ :=
      accepted_later (bodies_grow config) accepts_keeps ran ran' later found ended
    rw [completes] at completed
    obtain ⟨k', message, late, random, nonced', _, delegate, _, signer, recovered, shown', named',
      shown'', theirs, verified, lowered⟩ := completed
    -- both are about the same delegator
    have then_ {event : Event auth} (member : event ∈ asking.past) :
        (⟨i, asking.call, event⟩ : Record auth) ∈ history after :=
      history_grows ran' (past_in_history conforms ran here member)
    have now {event : Event auth} (member : event ∈ task.past) :
        (⟨j, task.call, event⟩ : Record auth) ∈ history after :=
      past_in_history conforms whole found member
    have delegated : delegate.delegatedById = some request.delegatorWalletId := by
      have made : delegateOf ⟨i, asking.call, ⟨.insertWallet wallet, .ok delegateWalletId⟩⟩ =
          some { wallet with id := delegateWalletId } := by
        simp [delegateOf, asks, isRequest]
      have names := namesDelegator_always whole _ (then_ inserted) _ made
      have same := traced.origin_eq (now shown') (Shows.one _ delegate) (then_ inserted)
        (Shows.made wallet delegateWalletId) named'
      rw [asks] at names
      exact (congrArg Origin.delegatedById same).trans names
    have mine : signer.id = request.delegatorWalletId := theirs _ delegated
    have address : signer.address = delegator.address := by
      have same := traced.origin_eq (now shown'') (Shows.one _ signer) (then_ shown)
        (Shows.one _ asked) (mine.trans named.symm)
      obtain ⟨row, kept, origins⟩ := (traced_always ran :
        Traced c.world (history c)) _ (past_in_history conforms ran here shown) _ (Shows.one _ asked)
      rw [named, stored] at kept
      cases kept
      exact (congrArg Origin.address same).trans (congrArg Origin.address origins).symm
    rw [address] at lowered
    obtain rfl := signed.only message recovered verified lowered
    -- but the nonces differ
    have initially : Tracked (draws config) (accepts config.libraries) 0 mem
        (Config.initial (process config) world mem) :=
      Tracked.initial (G := draws config) world mem
    have tracked := Tracked.run (bodies_grow config) accepts_keeps initially ran
    have source := tracked.grown.1
    have source' := (random.trans since.1).trans source
    rw [source'] at nonced'
    rw [source] at nonced
    have equal := distinct (nonced.nonce_eq nonced' (lines k) (lines k'))
    have apart := since.2
    omega

/-! ## One handshake -/

/-- Signatures that name their signer and carry the message. -/
def exactLibraries : AuthLibraries :=
  { sampleLibraries with
    verifyMessage := fun message signature =>
      if signature = "0xA signs " ++ message then .ok "0xA"
      else .error (.error "invalid signature") }

def exactConfig : AuthConfig := ⟨exactLibraries, 5⟩

abbrev handshakeStart : Config (process exactConfig) :=
  Config.initial (process exactConfig)
    { sampleAuthWorld with wallets := ⟨[sampleWallet], sampleWallet_unique⟩ } sampleAuthMemory

def sampleRequest : DelegationRequest := ⟨"w1", "0xD", ["sign_messages"], 2000000⟩

def requesting : List (Label (process exactConfig)) :=
  [.call (.requestDelegation "u1" sampleRequest), .reply 0 AuthOutcome.done,
    .reply 0 AuthOutcome.done, .resume 0, .reply 0 (AuthOutcome.made "w2")]

def sampleChallenge : String :=
  "Delegate signing authority from 0xa to 0xd\nPermissions: sign_messages\n" ++
    "Expires: 1970-01-01T00:33:20.000Z\nNonce: r+"

def sampleSignature : String := "0xA signs " ++ sampleChallenge

def completing : List (Label (process exactConfig)) :=
  [.call (.completeDelegation "u1" "w2" sampleSignature), .reply 1 AuthOutcome.done,
    .reply 1 AuthOutcome.done, .resume 1]

theorem sample_distinct : Function.Injective sampleAuthMemory.random := by
  intro a b same
  have lengths := congrArg (fun text => text.toList.length) same
  simpa [sampleAuthMemory] using lengths

theorem sample_lines (k : Nat) : '\n' ∉ (sampleAuthMemory.random k).toList := by
  simp [sampleAuthMemory]

theorem sampleSignature_exact :
    SignatureOf exactLibraries "0xa" sampleChallenge sampleSignature where
  recovers := ⟨"0xA", by decide +kernel, by decide +kernel⟩
  only other recovered verified _ := by
    simp only [exactLibraries] at verified
    split at verified
    next same =>
      have lists := congrArg String.toList same
      simp only [sampleSignature, String.toList_append] at lists
      exact String.toList_injective (List.append_cancel_left lists).symm
    next => cases verified

instance Requested.decidable {config : AuthConfig} (c : Config (process config))
    (delegatorUserId : String) (request : DelegationRequest) (delegateWalletId challenge : String) :
    Decidable (Requested c delegatorUserId request delegateWalletId challenge) := by
  unfold Requested
  infer_instance

theorem handshake_ends :
    ∃ c, run requesting handshakeStart = some c ∧
      Requested c "u1" sampleRequest "w2" sampleChallenge ∧ c.pool.length = 1 ∧
      c.world.wallets.findOne "w1" = some sampleWallet ∧
      ∃ after, run completing c = some after ∧ ∃ task ∈ after.pool[1]?,
        task.call = .completeDelegation "u1" "w2" sampleSignature ∧ task.result.isSome = true := by
  decide +kernel

theorem delegation_never_completes_once : ∃ c after task failure, run requesting handshakeStart = some c ∧
      run completing c = some after ∧ after.pool[1]? = some task ∧ task.result = some (.error failure) := by
  obtain ⟨c, ran, requested, one, stored, after, ran', task, found, completes, ended⟩ :=
    handshake_ends
  obtain ⟨result, returned⟩ := Option.isSome_iff_exists.mp ended
  obtain ⟨failure, rfl⟩ := delegation_never_completes exactConfig _ sampleAuthMemory
    sample_distinct sample_lines requesting completing c after ran ran' "u1" sampleRequest "w2"
    sampleChallenge sampleSignature requested sampleWallet stored sampleSignature_exact 1
    (Nat.le_of_eq one) task found completes result returned
  exact ⟨c, after, task, failure, ran, ran', found, returned⟩

/-- The delegator's signature of the challenge returned is refused, well before the expiry. -/
theorem valid_signature_refused :
    ∃ c, run requesting handshakeStart = some c ∧
      Requested c "u1" sampleRequest "w2" sampleChallenge ∧
      c.world.wallets.findOne "w1" = some sampleWallet ∧
      SignatureOf exactLibraries sampleWallet.address sampleChallenge sampleSignature ∧
      ∃ after, run completing c = some after ∧ after.mem.now < sampleRequest.expiresAt ∧
        ∃ task ∈ after.pool[1]?, task.call = .completeDelegation "u1" "w2" sampleSignature ∧
          task.result = some (.error (.unauthorized "Invalid signature")) := by
  obtain ⟨c, ran, requested, stored, refused⟩ : ∃ c, run requesting handshakeStart = some c ∧
      Requested c "u1" sampleRequest "w2" sampleChallenge ∧
      c.world.wallets.findOne "w1" = some sampleWallet ∧
      ∃ after, run completing c = some after ∧ after.mem.now < sampleRequest.expiresAt ∧
        ∃ task ∈ after.pool[1]?, task.call = .completeDelegation "u1" "w2" sampleSignature ∧
          task.result = some (.error (.unauthorized "Invalid signature")) := by
    decide +kernel
  exact ⟨c, ran, requested, stored, sampleSignature_exact, refused⟩

end AlianStructure.Guarantees.DelegationHandshake
