import AlianStructure.Guarantees.WalletConduct

/-!
# A wallet login and the standing of the wallet

Source: wallet-auth.service.ts:62-522, delegation.service.ts:56-410. A wallet's row is
what the last stored change has left of it, and the method that made that change decides
whether the wallet is in good standing. The login looks at neither the status nor the
expiry date, so it is sound exactly for wallets in good standing.
-/
namespace AlianStructure.Guarantees.WalletStanding
open Library.Interleaving Library.CallJournal Library.KeyedTable
open Source Source.Auth AuthCalls AccountConduct WalletConduct

/-! ## Standing -/

/-- The last stored change of a wallet. -/
inductive Standing where
  | linked
  | primary
  | requested
  | granted (expiresAt : Option Nat)
  | revoked
  | unlinked
  | expired
  deriving DecidableEq

def insertedBy : AuthCall → Standing
  | .requestDelegation .. => .requested
  | _ => .linked

def savedBy (wallet : Wallet) : AuthCall → Standing
  | .setPrimaryWallet .. => .primary
  | .unlinkWallet _ walletId => if wallet.id = walletId then .unlinked else .primary
  | .completeDelegation .. => .granted wallet.delegationExpiresAt
  | .revokeDelegation .. => .revoked
  | _ => .expired

/-- What an answer changes of a wallet. -/
def changeOf (id : String) (call : AuthCall) : Event auth → Option Standing
  | ⟨.insertWallet _, .ok made⟩ => if made = id then some (insertedBy call) else none
  | ⟨.saveWallet wallet, .ok _⟩ => if wallet.id = id then some (savedBy wallet call) else none
  | _ => none

def standing (records : List (Record auth)) (id : String) : Option Standing :=
  records.foldl (fun before record => (changeOf id record.call record.event).or before) none

/-- A wallet that was linked or made primary, or delegated until a time that is not past. -/
def Standing.good (now : Nat) : Standing → Prop
  | .linked | .primary => True
  | .granted (some expiresAt) => now ≤ expiresAt
  | _ => False

/-- The rows that a change leaves. -/
def Standing.leaves : Standing → Wallet → Prop
  | .linked, wallet => wallet.status = .active ∧ wallet.type ≠ .delegated
  | .primary, wallet => wallet.status = .active ∧ wallet.type = .primary
  | .requested, wallet => wallet.status = .pending
  | .granted expiresAt, wallet => wallet.status = .active ∧ wallet.type = .delegated ∧
    wallet.delegationExpiresAt = expiresAt ∧ expiresAt.isSome
  | .revoked, wallet => wallet.status = .revoked
  | .unlinked, wallet | .expired, wallet => wallet.status = .unlinked

variable {wallet : Wallet}

theorem insertedBy_leaves {call : AuthCall} (inserts : mayInsert call wallet) : (insertedBy call).leaves wallet := by
  cases call <;> first | exact inserts | exact inserts.elim

theorem savedBy_leaves {call : AuthCall} (saves : maySave call wallet) : (savedBy wallet call).leaves wallet := by
  cases call with
  | unlinkWallet userId walletId =>
    simp only [maySave, savedBy] at saves ⊢
    split at saves <;> simp_all [Standing.leaves]
  | completeDelegation delegatorUserId delegateWalletId signature =>
    exact ⟨saves.1, saves.2.1, rfl, saves.2.2⟩
  | _ => first | exact saves | exact saves.elim

theorem standing_append (records : List (Record auth)) (record : Record auth) (id : String) :
    standing (records ++ [record]) id = (changeOf id record.call record.event).or (standing records id) := by
  simp [standing]

/-! ## Rows and history -/

/-- Every row is what the last change of its wallet has left. -/
def Stands (world : AuthWorld) (records : List (Record auth)) : Prop :=
  ∀ wallet ∈ world.wallets.rows, ∃ change, standing records wallet.id = some change ∧
    change.leaves wallet

section Answers
variable {world : AuthWorld} {records : List (Record auth)} {index : Nat} {call : AuthCall}

theorem Stands.same {world' : AuthWorld} {event : Event auth} (stands : Stands world records)
    (rows : world'.wallets = world.wallets) (silent : ∀ id, changeOf id call event = none) :
    Stands world' (records ++ [⟨index, call, event⟩]) := by
  intro wallet member
  rw [rows] at member
  rw [standing_append, silent]
  exact stands wallet member

theorem Stands.saved {table : Table Wallet Wallet.id} {event : Event auth} {change : Standing}
    (stands : Stands world records) (rows : table = world.wallets.save wallet)
    (changes : changeOf wallet.id call event = some change) (fits : change.leaves wallet)
    (others : ∀ id, id ≠ wallet.id → changeOf id call event = none) :
    Stands { world with wallets := table } (records ++ [⟨index, call, event⟩]) := by
  intro other member
  simp only [rows] at member
  rw [standing_append]
  rcases Table.mem_save.mp member with rfl | ⟨old, differs⟩
  · exact ⟨change, by simp [changes], fits⟩
  · rw [others other.id differs]
    exact stands other old

theorem Stands.insertWallet (stands : Stands world records) (id : String) (index : Nat)
    (inserts : mayInsert call wallet) :
    Stands (world.insertWallet { wallet with id := id, createdAt := world.now }).1
      (records ++ [⟨index, call, ⟨.insertWallet wallet,
        (world.insertWallet { wallet with id := id, createdAt := world.now }).2⟩⟩]) := by
  unfold AuthWorld.insertWallet
  split
  next => exact stands.same rfl fun _ => rfl
  next =>
    refine stands.saved rfl (if_pos rfl) (insertedBy_leaves ?_) fun other differs => ?_
    · cases call <;> exact inserts
    · exact if_neg fun same => differs same.symm

theorem Stands.unsetPrimary {userId : String} (stands : Stands world records) : Stands { world with
        wallets := world.wallets.modify
          (fun wallet => decide (wallet.userId = userId) && wallet.isPrimary)
          (fun wallet => { wallet with isPrimary := false }) fun _ => rfl }
      (records ++ [⟨index, call, ⟨.unsetPrimary userId, .ok ()⟩⟩]) := by
  intro wallet member
  obtain ⟨old, stored, rfl⟩ := List.mem_map.mp member
  obtain ⟨change, last, fits⟩ := stands old stored
  refine ⟨change, ?_, ?_⟩
  · rw [standing_append]
    split
    next => exact last
    next => exact last
  · split
    next => cases change <;> exact fits
    next => exact fits

theorem changeOf_silent {op : AuthOp} {result : Except Exception op.Reply}
    (silent : writesWallets op = false) (id : String) : changeOf id call ⟨op, result⟩ = none := by
  cases op with
  | insertWallet _ | saveWallet _ => cases silent
  | _ => rfl

theorem changeOf_failed {op : AuthOp} (failure : Exception) (id : String) :
    changeOf id call ⟨op, .error failure⟩ = none := by cases op <;> rfl

end Answers

theorem stands_preserved (config : AuthConfig) (offers : AuthCall → Bool) :
    Preserves (conduct config.libraries) (authProcess config offers) Stands := by
  intro world records index call past op outcome world' result stands _ permitted responds
  by_cases silent : writesWallets op = false
  · exact stands.same ((respond_frame responds).wallets silent) (changeOf_silent silent)
  · cases outcome with
    | fails failure =>
      obtain ⟨rfl, rfl⟩ := respond_fails responds
      exact stands.same rfl (changeOf_failed failure)
    | done =>
      cases op with
      | saveWallet wallet =>
        cases responds
        refine stands.saved rfl (if_pos rfl) (savedBy_leaves permitted) fun other differs => ?_
        exact if_neg fun same => differs same.symm
      | unsetPrimary userId =>
        cases responds
        exact stands.unsetPrimary
      | insertWallet wallet => cases responds
      | _ => exact absurd rfl silent
    | made id =>
      cases op with
      | insertWallet wallet =>
        obtain ⟨_, replied⟩ := respond_insert responds
        have after := stands.insertWallet id index permitted
        rw [replied] at after
        exact after
      | saveWallet wallet => cases responds
      | unsetPrimary userId => cases responds
      | _ => exact absurd rfl silent

theorem stands_always {config : AuthConfig} {offers : AuthCall → Bool} {world : AuthWorld}
    {mem : AuthMemory} (unlinked : world.wallets.rows = [])
    {labels : List (Label (authProcess config offers))} {c : Config (authProcess config offers)}
    (ran : run labels (Config.initial (authProcess config offers) world mem) = some c) :
    Stands c.world (history c) := by
  refine history_invariant (conduct_conforms config offers) Stands (fun _ _ _ _ stands => stands)
    (stands_preserved config offers) (fun wallet member => ?_) ran
  rw [unlinked] at member
  cases member

/-! ## Logins -/

/-- The wallet row of an address is active, and a delegated one is not past its expiry date
and allows authentication. -/
def LoginSound (world : AuthWorld) (address : String) : Prop :=
  ∃ wallet, world.walletOf address = some wallet ∧ wallet.status = .active ∧
    (wallet.type = .delegated →
      (∀ expiresAt, wallet.delegationExpiresAt = some expiresAt → world.now ≤ expiresAt) ∧
      WalletAuthService.mayAuthenticate wallet = true)

def GoodStanding {config : AuthConfig} {offers : AuthCall → Bool}
    (c : Config (authProcess config offers)) (id : String) : Prop :=
  ∃ change, standing (history c) id = some change ∧ change.good c.world.now

theorem Standing.sound_iff {change : Standing} (left : change.leaves wallet) (now : Nat) :
    (wallet.status = .active ∧ (wallet.type = .delegated →
      ∀ expiresAt, wallet.delegationExpiresAt = some expiresAt → now ≤ expiresAt)) ↔ change.good now := by
  cases change with
  | granted granted =>
    obtain ⟨active, delegated, expires, isGiven⟩ := left
    obtain ⟨expiresAt, rfl⟩ := Option.isSome_iff_exists.mp isGiven
    simp [Standing.good, active, delegated, expires]
  | linked => simp_all [Standing.good, Standing.leaves]
  | primary => simp_all [Standing.good, Standing.leaves]
  | requested => simp_all [Standing.good, Standing.leaves]
  | revoked => simp_all [Standing.good, Standing.leaves]
  | unlinked => simp_all [Standing.good, Standing.leaves]
  | expired => simp_all [Standing.good, Standing.leaves]

/-- A wallet found in a state whose rows are what their last changes have left. -/
theorem loginSound_iff {config : AuthConfig} {offers : AuthCall → Bool}
    {c : Config (authProcess config offers)} (stands : Stands c.world (history c)) {address : String}
    (found : c.world.walletOf address = some wallet) (allowed : WalletAuthService.mayAuthenticate wallet = true) :
    LoginSound c.world address ↔ GoodStanding c wallet.id := by
  obtain ⟨change, last, left⟩ := stands wallet (List.mem_of_find?_eq_some found)
  have sound := Standing.sound_iff left c.world.now
  constructor
  · rintro ⟨other, same, active, unexpired⟩
    rw [found] at same
    cases same
    exact ⟨change, last, sound.mp ⟨active, fun delegated => (unexpired delegated).1⟩⟩
  · rintro ⟨other, same, good⟩
    rw [last] at same
    cases same
    obtain ⟨active, unexpired⟩ := sound.mpr good
    exact ⟨wallet, found, active, fun delegated => ⟨unexpired delegated, allowed⟩⟩

theorem respond_findWalletWithUser {libraries : AuthLibraries} {world world' : AuthWorld}
    {outcome : AuthOutcome} {address : String} {user : Option User}
    (responds : world.respond libraries (.findWalletWithUser address) outcome =
      some (world', .ok (some (wallet, user)))) : world.walletOf address = some wallet := by
  cases outcome with
  | done =>
    have answer := Except.ok.inj (congrArg Prod.snd (Option.some.inj responds))
    obtain ⟨row, found, joined⟩ := Option.map_eq_some_iff.mp answer
    rw [found, (Prod.mk.inj joined).1]
  | made text => cases responds
  | fails failure => cases responds

/-- A wallet login that has returned a token looked its wallet up in some state of the run,
and in that state it was sound if and only if the wallet was in good standing. -/
theorem wallet_login_sound_iff (config : AuthConfig) (offers : AuthCall → Bool) (world : AuthWorld)
    (mem : AuthMemory) (unlinked : world.wallets.rows = [])
    (labels : List (Label (authProcess config offers))) (after : Config (authProcess config offers))
    (ran : run labels (Config.initial (authProcess config offers) world mem) = some after)
    (i : Nat) (task : Task auth) (message signature : String) (token : WalletToken)
    (found : after.pool[i]? = some task) (login : task.call = .verifySignatureAndIssueToken message signature)
    (returned : task.result = some (.ok (.walletToken token))) : ∃ c wallet user,
      AnsweredAt labels (Config.initial (authProcess config offers) world mem) i
        ⟨.findWalletWithUser token.address, .ok (some (wallet, user))⟩ c ∧
      (LoginSound c.world token.address ↔ GoodStanding c wallet.id) := by
  have conforms := conduct_conforms config offers
  have rests := vouched conforms ran found returned
  rw [login] at rests
  obtain ⟨wallet, user, asked, allowed, _⟩ := rests
  obtain ⟨c, at_c⟩ := answered_of_past conforms ran found asked
  refine ⟨c, wallet, user, at_c, ?_⟩
  obtain ⟨before, choice, later, split, reached, gives⟩ := at_c
  obtain ⟨world', responds⟩ := responds_of_answered gives
  exact loginSound_iff (stands_always unlinked reached) (respond_findWalletWithUser responds) allowed

def linkMessage : String := "Sign this message to authenticate: r"

def loginMessage : String := "Sign this message to authenticate: r+"

/-- An account links its first wallet. -/
def linkingRun : List (Label (authProcess sampleConfig fun _ => true)) :=
  [.call (.issueChallengeForAddress "0xA"), .resume 0,
    .call (.linkWallet "u1" "0xA" linkMessage "0xA" none none ⟨none, none⟩), .resume 1,
    .reply 1 AuthOutcome.done, .reply 1 AuthOutcome.done, .resume 1,
    .reply 1 (AuthOutcome.made "w1"), .reply 1 AuthOutcome.done, .reply 1 AuthOutcome.done,
    .reply 1 AuthOutcome.done, .reply 1 AuthOutcome.done]

/-- It unlinks the wallet. -/
def unlinkingRun : List (Label (authProcess sampleConfig fun _ => true)) :=
  [.call (.unlinkWallet "u1" "w1"), .reply 2 AuthOutcome.done, .reply 2 AuthOutcome.done,
    .reply 2 AuthOutcome.done, .reply 2 AuthOutcome.done, .reply 2 AuthOutcome.done]

/-- A login with the wallet, up to its lookup and from there on. -/
def signingRun (i : Nat) : List (Label (authProcess sampleConfig fun _ => true)) :=
  [.call (.issueChallengeForAddress "0xA"), .resume i,
    .call (.verifySignatureAndIssueToken loginMessage "0xA"), .resume (i + 1)]

def issuingRun (i : Nat) : List (Label (authProcess sampleConfig fun _ => true)) :=
  [.reply (i + 1) AuthOutcome.done, .resume (i + 1), .reply (i + 1) AuthOutcome.done]

abbrev walletStart : Config (authProcess sampleConfig fun _ => true) :=
  Config.initial _ sampleAuthWorld sampleAuthMemory

theorem wallet_login_sound_linked :
    ∃ c wallet user, AnsweredAt (linkingRun ++ signingRun 2 ++ issuingRun 2) walletStart 3
      ⟨.findWalletWithUser "0xa", .ok (some (wallet, user))⟩ c ∧
      (LoginSound c.world "0xa" ↔ GoodStanding c wallet.id) :=
  wallet_login_sound_iff sampleConfig (fun _ => true) sampleAuthWorld sampleAuthMemory rfl
    (linkingRun ++ signingRun 2 ++ issuingRun 2) _ rfl 3 _ _ _ _ rfl rfl rfl

/-- A wallet that has been unlinked still logs in. -/
theorem unlinked_wallet_logs_in :
    ∃ after task token c wallet user,
      run (linkingRun ++ unlinkingRun ++ signingRun 3 ++ issuingRun 3) walletStart = some after ∧
      after.pool[4]? = some task ∧
      task.call = .verifySignatureAndIssueToken loginMessage "0xA" ∧
      task.result = some (.ok (.walletToken token)) ∧
      AnsweredAt (linkingRun ++ unlinkingRun ++ signingRun 3 ++ issuingRun 3) walletStart 4
        ⟨.findWalletWithUser token.address, .ok (some (wallet, user))⟩ c ∧
      ¬ LoginSound c.world token.address := by
  refine ⟨_, _, _, _, _, _, rfl, rfl, rfl, rfl,
    ⟨linkingRun ++ unlinkingRun ++ signingRun 3, AuthOutcome.done, _, rfl, rfl, rfl⟩, ?_⟩
  rintro ⟨wallet, found, active, _⟩
  cases found
  cases active

end AlianStructure.Guarantees.WalletStanding
