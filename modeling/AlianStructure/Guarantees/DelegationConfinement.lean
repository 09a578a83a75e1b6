import AlianStructure.Guarantees.WalletLineage

/-!
# A delegated wallet stays delegated

Source: wallet-auth.service.ts:415-522, delegation.service.ts:56-410. setPrimaryWallet takes any
active wallet of the account, and unlinkWallet promotes the oldest one that remains: either
may be a delegated wallet, which then keeps neither its type nor its restriction.
-/
namespace AlianStructure.Guarantees.DelegationConfinement
open Library.Interleaving Library.CallJournal
open Library.KeyedTable
open Source Source.Auth AuthCalls WalletLineage

/-- Every wallet inserted by requestDelegation is a delegated one, is not primary, and has
its permissions and its expiry. -/
def Confined {config : AuthConfig} (c : Config (authProcess config managesDelegations)) : Prop :=
  ∀ record ∈ history c, ∀ delegate ∈ delegateOf record,
    ∃ stored ∈ c.world.wallets.findOne delegate.id, Restricted stored ∧
      stored.delegationPermissions = delegate.delegationPermissions ∧
      stored.delegationExpiresAt = delegate.delegationExpiresAt

/-- The condition: the wallet that a call is about to promote is not a delegated one. -/
def PromotesOwn : Answers auth :=
  fun call op result => ∀ wallet ∈ promoted call ⟨op, result⟩, wallet.type ≠ .delegated

instance Confined.decidable {config : AuthConfig}
    (c : Config (authProcess config managesDelegations)) : Decidable (Confined c) := by
  unfold Confined Restricted
  infer_instance

instance PromotesOwn.decidable (call : AuthCall) (op : AuthOp)
    (result : Except Exception op.Reply) : Decidable (PromotesOwn call op result) :=
  inferInstanceAs (Decidable (∀ wallet ∈ promoted call ⟨op, result⟩, wallet.type ≠ .delegated))

/-- A wallet of this id has been inserted by requestDelegation. -/
def Delegate (records : List (Record auth)) (id : String) : Prop :=
  ∃ record ∈ records, ∃ delegate ∈ delegateOf record, delegate.id = id

/-- The delegated wallets are restricted, as they are stored and in all answers; and no
other kind of wallet has been promoted. -/
structure Confining (world : AuthWorld) (records : List (Record auth)) : Prop where
  traced : Traced world records
  stored : ∀ id, Delegate records id → ∀ row, world.wallets.findOne id = some row → Restricted row
  shown : ∀ id, Delegate records id → ∀ record ∈ records, ∀ wallet, Shows record.event wallet →
    wallet.id = id → Restricted wallet
  own : ∀ record ∈ records, ∀ wallet ∈ promoted record.call record.event, wallet.type ≠ .delegated

variable {records : List (Record auth)}

theorem Confining.exists {world : AuthWorld} {id : String} (confining : Confining world records)
    (delegate : Delegate records id) : ∃ row, world.wallets.findOne id = some row := by
  obtain ⟨record, member, wallet, made, rfl⟩ := delegate
  obtain ⟨row, found, _⟩ := confining.traced record member wallet (delegateOf_shows made)
  exact ⟨row, found⟩

theorem Confining.saves {world : AuthWorld} {i : Nat} {call : AuthCall} {past : List (Event auth)}
    (confining : Confining world records) (known : ∀ event ∈ past, ⟨i, call, event⟩ ∈ records)
    {wallet : Wallet} (descends : Descends call past wallet) (delegate : Delegate records wallet.id) :
    Restricted wallet := by
  obtain ⟨event, member, shown, shows, same, kept⟩ := descends
  have named : shown.id = wallet.id := (congrArg Origin.id same).symm
  have restricted := confining.shown _ delegate _ (known event member) shown shows named
  rcases kept with ⟨type, mark⟩ | promotion
  · exact ⟨type.trans restricted.1, mark.trans restricted.2⟩
  · exact absurd restricted.1 (confining.own _ (known event member) shown promotion)

theorem Confining.step {world : AuthWorld} {i : Nat} {call : AuthCall} {past : List (Event auth)}
    {op : AuthOp} {result : Except Exception op.Reply} {wallets : Table Wallet Wallet.id}
    (confining : Confining world records) (known : ∀ event ∈ past, ⟨i, call, event⟩ ∈ records)
    (permitted : permits call past op) (step : WalletStep ⟨op, result⟩ world.wallets wallets)
    {id : String} (delegate : Delegate records id) {row : Wallet}
    (here : wallets.findOne id = some row) : Restricted row := by
  obtain ⟨before, found⟩ := confining.exists delegate
  have restricted := confining.stored id delegate before found
  generalize held : world.wallets = rows at step
  rw [held] at found
  cases step with
  | kept _ =>
    rw [found] at here
    cases here
    exact restricted
  | inserted wallet made createdAt new =>
    have other : id ≠ made := fun same => by
      rw [← same, found] at new
      cases new
    rw [Table.findOne_save_other _ other, found] at here
    cases here
    exact restricted
  | saved wallet =>
    by_cases same : id = wallet.id
    · subst same
      rw [Table.findOne_save_self] at here
      cases here
      exact confining.saves known permitted delegate
    · rw [Table.findOne_save_other _ same, found] at here
      cases here
      exact restricted
  | unset userId =>
    unfold unsetPrimary at here
    rw [Table.findOne_modify, found] at here
    cases here
    dsimp only
    split
    next => exact ⟨restricted.1, rfl⟩
    next => exact restricted

theorem confining_preserved (config : AuthConfig) :
    PreservesWhen lineage (authProcess config managesDelegations) PromotesOwn Confining := by
  intro world records i call past op choice world' result confining known permitted own responds
  have step := respond_wallets responds
  have stored : ∀ id, Delegate (records ++ [⟨i, call, ⟨op, result⟩⟩]) id →
      ∀ row, world'.wallets.findOne id = some row → Restricted row := by
    rintro id ⟨record, member, wallet, made, rfl⟩ row here
    rcases List.mem_append.mp member with old | new
    · exact confining.step known permitted step ⟨record, old, wallet, made, rfl⟩ here
    · rw [List.mem_singleton.mp new] at made
      obtain ⟨createdAt, found⟩ := stored_of_shows responds (delegateOf_shows made)
      obtain ⟨request, inserted, id, same, rfl⟩ := delegateOf_inserted made
      rw [found] at here
      cases here
      cases same
      exact (permitted request).1
  refine ⟨traced_preserved config _ _ i call past op choice world' result confining.traced known
    permitted responds, stored, ?_, ?_⟩
  · rintro id delegate record member wallet shows rfl
    rcases List.mem_append.mp member with old | new
    · obtain ⟨request, listed, made, inserted, same⟩ := delegate
      rcases List.mem_append.mp listed with before | now
      · exact confining.shown _ ⟨request, before, made, inserted, same⟩ record old wallet shows rfl
      · obtain ⟨row, found, _⟩ := confining.traced record old wallet shows
        rw [List.mem_singleton.mp now] at inserted
        obtain ⟨_, base, id, event, rfl⟩ := delegateOf_inserted inserted
        obtain rfl : id = wallet.id := same
        cases event
        generalize world.wallets = rows, world'.wallets = rows' at step found
        cases step with
        | kept none => exact absurd rfl (none base wallet.id)
        | inserted _ _ _ new =>
          rw [found] at new
          cases new
    · rw [List.mem_singleton.mp new] at shows
      obtain ⟨createdAt, found⟩ := stored_of_shows responds shows
      have restricted := stored wallet.id delegate _ found
      exact restricted
  · intro record member wallet promotion
    rcases List.mem_append.mp member with old | new
    · exact confining.own record old wallet promotion
    · rw [List.mem_singleton.mp new] at promotion
      exact own wallet promotion

/-- In every run in which no active delegated wallet is promoted, a wallet that
requestDelegation has inserted stays confined. -/
theorem delegated_wallets_confined (config : AuthConfig) (world : AuthWorld) (mem : AuthMemory)
    (labels : List (Label (authProcess config managesDelegations)))
    (after : Config (authProcess config managesDelegations)) (condition : Admissible (OnCalls PromotesOwn) labels
      (Config.initial (authProcess config managesDelegations) world mem))
    (ran : run labels (Config.initial (authProcess config managesDelegations) world mem) =
      some after) : Confined after := by
  have confining : Confining after.world (history after) :=
    history_invariant_when (lineage_conforms config) Confining
      (fun _ _ _ _ holds => ⟨holds.traced, holds.stored, holds.shown, holds.own⟩)
      (confining_preserved config)
      ⟨fun _ never => (by cases never), fun _ ⟨_, never, _⟩ => (by cases never),
        fun _ _ _ never => (by cases never), fun _ never => (by cases never)⟩ condition ran
  intro record member delegate made
  obtain ⟨stored, found, same⟩ := confining.traced record member delegate (delegateOf_shows made)
  exact ⟨stored, found, confining.stored _ ⟨record, member, delegate, made, rfl⟩ stored found,
    congrArg Origin.delegationPermissions same, congrArg Origin.delegationExpiresAt same⟩

/-- A wallet that is stored at some time of a run stays stored, with its owner, its address, its delegator, and the
expiry and the permissions of the delegation. -/
theorem origins_kept (config : AuthConfig) (world : AuthWorld) (mem : AuthMemory)
    {labels more : List (Label (authProcess config managesDelegations))}
    {middle after : Config (authProcess config managesDelegations)}
    (ran : run labels (Config.initial (authProcess config managesDelegations) world mem) = some middle)
    (goesOn : run more middle = some after) {id : String} {wallet : Wallet}
    (stored : middle.world.wallets.findOne id = some wallet) :
    ∃ later, after.world.wallets.findOne id = some later ∧ origin later = origin wallet := by
  refine kept_since (lineage_conforms config) Traced
    (fun world => ∃ later, world.wallets.findOne id = some later ∧ origin later = origin wallet)
    (fun _ _ _ _ traced => traced) (fun _ _ _ here => here) (traced_preserved config) ?_ (fun _ never => by cases never)
    ran ⟨wallet, stored, rfl⟩ goesOn
  intro world records i call past op choice world' result holds known permitted responds
  obtain ⟨traced, later, found, same⟩ := holds
  have kept := traced_preserved config _ _ _ _ _ _ _ _ _ traced known permitted responds
  obtain ⟨final, isFinal, sameOrigin⟩ := stored_keeps_origin (respond_wallets responds) (fun saved saves row here => by
    cases saves
    exact traced.saves known permitted here) found
  exact ⟨kept, final, isFinal, sameOrigin.trans same⟩

abbrev delegatorStart : Config (authProcess sampleConfig managesDelegations) :=
  Config.initial (authProcess sampleConfig managesDelegations)
    { sampleAuthWorld with wallets := ⟨[sampleWallet], sampleWallet_unique⟩ } sampleAuthMemory

/-- A delegation is requested and completed. -/
def delegating : List (Label (authProcess sampleConfig managesDelegations)) :=
  [.call (.requestDelegation "u1" ⟨"w1", "0xD", ["sign_messages"], 2000000⟩),
    .reply 0 AuthOutcome.done, .reply 0 AuthOutcome.done, .resume 0,
    .reply 0 (AuthOutcome.made "w2"),
    .call (.completeDelegation "u1" "w2" "0xA"), .reply 1 AuthOutcome.done,
    .reply 1 AuthOutcome.done, .resume 1, .reply 1 AuthOutcome.done]

def delegatingAndRevoking : List (Label (authProcess sampleConfig managesDelegations)) :=
  delegating ++ [.call (.revokeDelegation "u1" "w2"), .reply 2 AuthOutcome.done,
    .reply 2 AuthOutcome.done]

def delegatingAndPromoting : List (Label (authProcess sampleConfig managesDelegations)) :=
  delegating ++ [.call (.setPrimaryWallet "w2" "u1"), .reply 2 AuthOutcome.done,
    .reply 2 AuthOutcome.done, .reply 2 AuthOutcome.done, .reply 2 AuthOutcome.done]

theorem delegated_wallets_confined_revoked :
    ∃ after, run delegatingAndRevoking delegatorStart = some after ∧ Confined after := by
  obtain ⟨after, ran, _⟩ : ∃ after, run delegatingAndRevoking delegatorStart = some after ∧ True := by
    decide +kernel
  exact ⟨after, ran, delegated_wallets_confined sampleConfig _ _ delegatingAndRevoking after
    (by decide +kernel) ran⟩

def promoting : List (Label (authProcess sampleConfig managesDelegations)) :=
  [.call (AuthCall.setPrimaryWallet "w2" "u1"), .reply 2 AuthOutcome.done]

/-- A delegated wallet that is promoted keeps its origin. -/
theorem promoted_origin_kept : ∃ middle after wallet later, run delegating delegatorStart = some middle ∧
    run promoting middle = some after ∧ middle.world.wallets.findOne "w2" = some wallet ∧
    after.world.wallets.findOne "w2" = some later ∧ origin later = origin wallet := by
  obtain ⟨middle, ran, wallet, stored, after, goesOn, _⟩ : ∃ middle, run delegating delegatorStart = some middle ∧
      ∃ wallet, middle.world.wallets.findOne "w2" = some wallet ∧
        ∃ after, run promoting middle = some after ∧ True := by
    decide +kernel
  obtain ⟨later, found, same⟩ := origins_kept sampleConfig _ _ ran goesOn stored
  exact ⟨middle, after, wallet, later, ran, goesOn, stored, found, same⟩

/-- A delegated wallet is made the primary one. -/
theorem delegated_wallet_made_primary :
    ∃ after, run delegatingAndPromoting delegatorStart = some after ∧ ¬ Confined after := by
  decide +kernel

end AlianStructure.Guarantees.DelegationConfinement
