import AlianStructure.Guarantees.WalletConduct

/-!
# Where a stored wallet comes from

Source: wallet-auth.service.ts:253-522, delegation.service.ts:56-410. A method saves only a
wallet that it has looked up. Owner, address, delegator, expiry and permissions stay as they
are; the type and the primary mark change only where setPrimaryWallet or unlinkWallet
promotes an active wallet.
-/
namespace AlianStructure.Guarantees.WalletLineage
open Library.Interleaving Library.CallProtocol Library.CallJournal
open Library.KeyedTable
open Source Source.Auth AuthCalls

/-- The process, open to the methods that write wallets, and to the challenges that are
signed for them. -/
def managesDelegations : AuthCall → Bool
  | .issueChallengeForAddress _ => true
  | .linkWallet _ _ _ _ _ _ _ | .setPrimaryWallet _ _ | .unlinkWallet _ _ => true
  | .requestDelegation _ _ | .completeDelegation _ _ _ | .revokeDelegation _ _ => true
  | .verifyDelegationPermission _ _ | .cleanupExpiredDelegations => true
  | _ => false

/-- What a wallet keeps. -/
structure Origin where
  id : String
  address : String
  userId : String
  delegatedById : Option String
  delegationExpiresAt : Option Nat
  delegationPermissions : Option (List String)

def origin (wallet : Wallet) : Origin where
  id := wallet.id
  address := wallet.address
  userId := wallet.userId
  delegatedById := wallet.delegatedById
  delegationExpiresAt := wallet.delegationExpiresAt
  delegationPermissions := wallet.delegationPermissions

/-- The wallets in an answer. -/
inductive Shows : Event auth → Wallet → Prop where
  | one (query : WalletQuery) (wallet : Wallet) : Shows ⟨.findWallet query, .ok (some wallet)⟩ wallet
  | many (query : WalletQuery) (wallets : List Wallet) (wallet : Wallet)
      (member : wallet ∈ wallets) : Shows ⟨.findWallets query, .ok wallets⟩ wallet
  | made (wallet : Wallet) (id : String) :
      Shows ⟨.insertWallet wallet, .ok id⟩ { wallet with id := id }

/-- The lookups whose wallet becomes the primary one. -/
def promotes : AuthCall → WalletQuery → Bool
  | .setPrimaryWallet _ _, _ => true
  | .unlinkWallet _ _, query => query.notId.isSome
  | _, _ => false

/-- The active wallet of an answer that becomes the primary one. -/
def promoted (call : AuthCall) : Event auth → Option Wallet
  | ⟨.findWallet query, .ok (some wallet)⟩ =>
    if promotes call query && decide (wallet.status = .active) then some wallet else none
  | _ => none

/-- A wallet is one from an answer, with the same origin; it has its type and mark too, unless it
is promoted. -/
def Descends (call : AuthCall) (past : List (Event auth)) (wallet : Wallet) : Prop :=
  ∃ event ∈ past, ∃ shown, Shows event shown ∧ origin wallet = origin shown ∧
    ((wallet.type = shown.type ∧ wallet.isPrimary = shown.isPrimary) ∨
      promoted call event = some shown)

/-- A wallet that only its permissions and its expiry let act. -/
def Restricted (wallet : Wallet) : Prop := wallet.type = .delegated ∧ wallet.isPrimary = false

def isRequest : AuthCall → Bool
  | .requestDelegation _ _ => true
  | _ => false

/-- The wallet that a request delegates for. -/
def delegatorOf : AuthCall → Option String
  | .requestDelegation _ request => some request.delegatorWalletId
  | _ => none

def permits (call : AuthCall) (past : List (Event auth)) : AuthOp → Prop
  | .saveWallet wallet => Descends call past wallet
  | .insertWallet wallet =>
    isRequest call = true → Restricted wallet ∧ wallet.delegatedById = delegatorOf call
  | _ => True

abbrev lineage : Rules auth where
  permits := permits
  possible := AccountConduct.possible
  vouches _ _ _ := True

section Methods
variable {call : AuthCall} {past : List (Event auth)} {found wallet : Wallet}

theorem lineage_lenient : WalletConduct.Lenient lineage call where
  allows {past op} free := by cases op <;> trivial
  selects found := found

theorem permits_kept (shown : WalletConduct.Found past found) (same : origin wallet = origin found)
    (type : wallet.type = found.type) (mark : wallet.isPrimary = found.isPrimary) :
    lineage.permits call past (.saveWallet wallet) := by
  cases shown with
  | one asked => exact ⟨_, asked, found, .one _ _, same, .inl ⟨type, mark⟩⟩
  | many asked member => exact ⟨_, asked, found, .many _ _ _ member, same, .inl ⟨type, mark⟩⟩

theorem permits_promoted {query : WalletQuery} (promotion : promotes call query = true)
    (asked : ⟨.findWallet query, .ok (some found)⟩ ∈ past) (active : found.status = .active) :
    lineage.permits call past (.saveWallet { found with isPrimary := true, type := .primary }) :=
  ⟨_, asked, found, Shows.one query found, rfl, Or.inr (by simp [promoted, promotion, active])⟩

end Methods

theorem lineage_conforms (config : AuthConfig) :
    Conforms lineage.protocol (authProcess config managesDelegations) := by
  refine rules_conform (fun call isPublic => ?_)
    fun _ _ _ _ _ responds => WalletConduct.respond_possible responds
  cases call with
  | issueChallengeForAddress address =>
    exact yields_returning (WalletConduct.issueChallengeForAddress_yields address)
  | linkWallet currentUserId newWalletAddress message signature walletName permissions clientInfo =>
    refine yields_returning (WalletConduct.linkWallet_yields lineage_lenient _ _ _ _ _ _ _ _ ?_)
    exact fun _ _ _ _ request => by cases request
  | setPrimaryWallet walletId userId =>
    refine yields_returning (WalletConduct.setPrimaryWallet_yields lineage_lenient _ _ ?_)
    exact fun _ _ _ asked active => permits_promoted rfl asked active
  | unlinkWallet userId walletId =>
    refine yields_returning (WalletConduct.unlinkWallet_yields lineage_lenient ?_ _ ?_)
    · exact fun _ _ _ asked other _ active => permits_promoted (by simp [promotes, other]) asked active
    · exact fun _ _ shown _ => permits_kept shown rfl rfl rfl
  | requestDelegation delegatorUserId request =>
    refine yields_returning (WalletConduct.requestDelegation_yields lineage_lenient _ _ ?_)
    exact fun _ _ _ named _ => ⟨⟨rfl, rfl⟩, congrArg some named⟩
  | completeDelegation delegatorUserId delegateWalletId signature =>
    refine yields_returning (WalletConduct.completeDelegation_yields lineage_lenient _ _ _ ?_)
    exact fun _ _ _ shown _ _ => permits_kept shown rfl rfl rfl
  | revokeDelegation userId delegationId =>
    refine yields_returning (WalletConduct.revokeDelegation_yields lineage_lenient _ _ ?_)
    exact fun _ _ shown => permits_kept shown rfl rfl rfl
  | verifyDelegationPermission delegateAddress requiredPermission =>
    refine yields_returning (WalletConduct.verifyDelegationPermission_yields lineage_lenient ?_ _ _)
    exact fun _ _ shown => permits_kept shown rfl rfl rfl
  | cleanupExpiredDelegations =>
    refine yields_returning (WalletConduct.cleanupExpiredDelegations_yields lineage_lenient ?_)
    exact fun _ _ shown => permits_kept shown rfl rfl rfl
  | _ => cases isPublic

theorem stored_of_shows {libraries : AuthLibraries} {world world' : AuthWorld} {op : AuthOp}
    {outcome : AuthOutcome} {result : Except Exception op.Reply} {wallet : Wallet}
    (responds : world.respond libraries op outcome = some (world', result)) (shows : Shows ⟨op, result⟩ wallet) :
    ∃ createdAt, world'.wallets.findOne wallet.id = some { wallet with createdAt := createdAt } := by
  cases shows with
  | one query =>
    cases outcome with
    | done =>
      obtain ⟨rfl, found⟩ := Prod.mk.inj (Option.some.inj responds)
      have listed := (mem_findWallets.mp (List.mem_of_head? (Except.ok.inj found))).1
      exact ⟨wallet.createdAt, Table.findOne_of_mem listed⟩
    | made text => cases responds
    | fails failure => cases responds
  | many query wallets _ member =>
    cases outcome with
    | done =>
      obtain ⟨rfl, found⟩ := Prod.mk.inj (Option.some.inj responds)
      obtain rfl := Except.ok.inj found
      exact ⟨wallet.createdAt, Table.findOne_of_mem (mem_findWallets.mp member).1⟩
    | made text => cases responds
    | fails failure => cases responds
  | made inserted id =>
    have step := respond_wallets responds
    generalize world.wallets = before, world'.wallets = after at step ⊢
    cases step with
    | kept none => exact absurd rfl (none inserted id)
    | inserted _ _ createdAt _ => exact ⟨createdAt, Table.findOne_save_self _ _⟩

/-- A row that is stored stays stored, with its origin, when only rows of a stored origin are
saved. -/
theorem stored_keeps_origin {event : Event auth} {wallets wallets' : Table Wallet Wallet.id}
    (step : WalletStep event wallets wallets') (saves : ∀ wallet, event = ⟨.saveWallet wallet, .ok ()⟩ → ∀ stored,
      wallets.findOne wallet.id = some stored → origin wallet = origin stored)
    {id : String} {stored : Wallet} (here : wallets.findOne id = some stored) :
    ∃ stored', wallets'.findOne id = some stored' ∧ origin stored' = origin stored := by
  have named : stored.id = id := Table.findOne_key here
  cases step with
  | kept _ => exact ⟨stored, here, rfl⟩
  | inserted wallet made createdAt new =>
    have other : id ≠ made := fun same => by
      rw [← same, here] at new
      cases new
    refine ⟨stored, ?_, rfl⟩
    rw [Table.findOne_save_other _ other]
    exact here
  | saved wallet =>
    by_cases same : id = wallet.id
    · subst same
      exact ⟨wallet, Table.findOne_save_self _ _, saves wallet rfl stored here⟩
    · refine ⟨stored, ?_, rfl⟩
      rw [Table.findOne_save_other _ same]
      exact here
  | unset userId =>
    unfold unsetPrimary
    rw [Table.findOne_modify, here]
    refine ⟨_, rfl, ?_⟩
    dsimp only
    split <;> rfl

/-- The wallet that requestDelegation has inserted. -/
def delegateOf (record : Record auth) : Option Wallet :=
  match record.event with
  | ⟨.insertWallet wallet, .ok id⟩ =>
    if isRequest record.call then some { wallet with id := id } else none
  | _ => none

theorem delegateOf_inserted {record : Record auth} {delegate : Wallet} (made : delegateOf record = some delegate) :
    isRequest record.call = true ∧ ∃ wallet id, record.event = ⟨.insertWallet wallet, .ok id⟩ ∧
      delegate = { wallet with id := id } := by
  unfold delegateOf at made
  split at made
  next wallet id inserted =>
    split at made
    next request => exact ⟨request, wallet, id, inserted, (Option.some.inj made).symm⟩
    next => cases made
  next => cases made

theorem delegateOf_shows {record : Record auth} {delegate : Wallet}
    (made : delegateOf record = some delegate) : Shows record.event delegate := by
  obtain ⟨_, wallet, id, inserted, rfl⟩ := delegateOf_inserted made
  rw [inserted]
  exact Shows.made wallet id

/-- Every wallet that an answer has shown is stored, with its origin. -/
def Traced (world : AuthWorld) (records : List (Record auth)) : Prop :=
  ∀ record ∈ records, ∀ wallet, Shows record.event wallet →
    ∃ stored, world.wallets.findOne wallet.id = some stored ∧ origin stored = origin wallet

variable {world : AuthWorld}

theorem Traced.origin_eq {records : List (Record auth)} (traced : Traced world records)
    {first second : Record auth} {wallet other : Wallet} (one : first ∈ records)
    (shows : Shows first.event wallet) (two : second ∈ records) (shows' : Shows second.event other)
    (same : wallet.id = other.id) : origin wallet = origin other := by
  obtain ⟨stored, found, kept⟩ := traced first one wallet shows
  obtain ⟨stored', found', kept'⟩ := traced second two other shows'
  rw [same, found'] at found
  cases found
  exact kept.symm.trans kept'

theorem Traced.saves {records : List (Record auth)} {i : Nat} {call : AuthCall}
    {past : List (Event auth)} (traced : Traced world records)
    (known : ∀ event ∈ past, ⟨i, call, event⟩ ∈ records) {wallet stored : Wallet}
    (descends : Descends call past wallet) (here : world.wallets.findOne wallet.id = some stored) :
    origin wallet = origin stored := by
  obtain ⟨event, member, shown, shows, same, _⟩ := descends
  obtain ⟨row, found, kept⟩ := traced _ (known event member) shown shows
  have named : wallet.id = shown.id := congrArg Origin.id same
  rw [← named, here] at found
  cases found
  exact same.trans kept.symm

theorem traced_preserved (config : AuthConfig) :
    Preserves lineage (authProcess config managesDelegations) Traced := by
  intro world records i call past op choice world' result traced known permitted responds
  have step := respond_wallets responds
  intro record member wallet shows
  rcases List.mem_append.mp member with old | new
  · obtain ⟨stored, found, same⟩ := traced record old wallet shows
    obtain ⟨stored', found', same'⟩ := stored_keeps_origin step (fun saved saves row here => by
      cases saves
      exact traced.saves known permitted here) found
    exact ⟨stored', found', same'.trans same⟩
  · rw [List.mem_singleton.mp new] at shows
    obtain ⟨createdAt, stored⟩ := stored_of_shows responds shows
    exact ⟨_, stored, rfl⟩

/-- After every run, every wallet that has been shown is stored, with its origin. -/
theorem traced_always {config : AuthConfig} {mem : AuthMemory}
    {labels : List (Label (authProcess config managesDelegations))}
    {after : Config (authProcess config managesDelegations)}
    (ran : run labels (Config.initial (authProcess config managesDelegations) world mem) = some after) :
    Traced after.world (history after) :=
  history_invariant (lineage_conforms config) Traced (fun _ _ _ _ traced => traced)
    (traced_preserved config) (fun _ never => by cases never) ran

/-- A wallet that requestDelegation has inserted names its delegator. -/
def NamesDelegator (records : List (Record auth)) : Prop :=
  ∀ record ∈ records, ∀ delegate ∈ delegateOf record,
    delegate.delegatedById = delegatorOf record.call

theorem namesDelegator_always {config : AuthConfig} {mem : AuthMemory}
    {labels : List (Label (authProcess config managesDelegations))}
    {after : Config (authProcess config managesDelegations)}
    (ran : run labels (Config.initial (authProcess config managesDelegations) world mem) = some after) :
    NamesDelegator (history after) := by
  refine history_invariant (lineage_conforms config) (fun _ records => NamesDelegator records)
    (fun _ _ _ _ names => names) ?_ (fun _ never => by cases never) ran
  intro world records i call past op choice world' result names _ permitted _ record member
    delegate made
  rcases List.mem_append.mp member with old | new
  · exact names record old delegate made
  · obtain rfl := List.mem_singleton.mp new
    obtain ⟨request, wallet, id, inserted, rfl⟩ := delegateOf_inserted made
    cases inserted
    exact (permitted request).2

end AlianStructure.Guarantees.WalletLineage
