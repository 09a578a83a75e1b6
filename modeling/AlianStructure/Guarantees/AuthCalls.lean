import AlianStructure.Library.CallJournal
import AlianStructure.Source.Auth.AdminTwoFactorGuard
import AlianStructure.Library.CallsInTurn

/-!
# Rules for the operations of the authentication services

The steps that all methods share, taken through a protocol and through a journal.
-/
namespace AlianStructure.Guarantees.AuthCalls
open Library.AsyncMethod Library.Interleaving Library.CallProtocol Library.CallJournal
open Library.KeyedTable
open Source Source.Auth

section Protocols
variable {P : Protocol auth} {phase : P.Phase} {op : AuthOp}

theorem ask_follows {post : P.Phase → Except Exception op.Reply → Prop} (allowed : P.allows phase op)
    (continues : ∀ result, P.possible op result → post (P.advance phase op result) result) :
    Follows P phase (ask op) post := ⟨allowed, continues⟩

theorem clock_then {α : Type} {post : P.Phase → Except Exception α → Prop} {next : Nat → AuthM α}
    (goesOn : ∀ now, Follows P phase (next now) post) : Follows P phase (clock >>= next) post :=
  fun memory => goesOn memory.now

theorem draw_follows {post : P.Phase → Except Exception String → Prop}
    (continues : ∀ value, post phase (.ok value)) : Follows P phase draw post :=
  fun _ _ => continues _

theorem keeps_returning {α : Type} {program : AuthM α} {value : α → AuthValue}
    (follows : Follows P phase program fun phase result => P.returns phase (result.map value)) :
    Keeps P phase (returning value program) := by
  unfold Keeps returning
  rw [follows_bind]
  refine follows_mono P ?_ follows
  intro after result ended
  cases result <;> exact ended

end Protocols

section Journals
variable {rules : Rules auth} {call : AuthCall} {past : List (Event auth)}

theorem yields_ask {good : List (Event auth) → op.Reply → Prop} (permitted : rules.permits call past op)
    (answered : ∀ reply, rules.possible op (.ok reply) → good (past ++ [⟨op, .ok reply⟩]) reply) :
    Yields rules call past (ask op) good := yields_perform permitted answered

section Sequences
variable {α : Type} {good : List (Event auth) → α → Prop}

theorem yields_ask_then {next : op.Reply → AuthM α} (permitted : rules.permits call past op)
    (rest : ∀ past' reply, past ⊆ past' → ⟨op, .ok reply⟩ ∈ past' →
      rules.possible op (.ok reply) → Yields rules call past' (next reply) good) :
    Yields rules call past (ask op >>= next) good := by
  have answered : Yields rules call past (ask op) fun past' reply =>
      ⟨op, .ok reply⟩ ∈ past' ∧ rules.possible op (.ok reply) :=
    yields_ask permitted fun _ possible =>
      ⟨List.mem_append_right _ (List.mem_singleton_self _), possible⟩
  exact yields_bind answered fun past' reply grown ends => rest past' reply grown ends.1 ends.2

theorem yields_attempt_then {next : Except Exception op.Reply → AuthM α} (permitted : rules.permits call past op)
    (rest : ∀ past' outcome, past ⊆ past' → Yields rules call past' (next outcome) good) :
    Yields rules call past ((ask op).outcome >>= next) good := by
  have attempted : Yields rules call past (ask op) fun _ _ => True :=
    yields_ask permitted fun _ _ => trivial
  exact yields_bind (yields_outcome attempted) fun past' outcome grown _ => rest past' outcome grown

theorem yields_memory_then {next : AuthMemory → AuthM α}
    (rest : ∀ memory, Yields rules call past (next memory) good) :
    Yields rules call past (Async.memory >>= next) good :=
  fun memory => rest memory

theorem yields_update_then {change : AuthMemory → AuthMemory} {next : Unit → AuthM α}
    (rest : Yields rules call past (next ()) good) :
    Yields rules call past (Async.update (R := auth) change >>= next) good :=
  fun _ => rest

theorem yields_clock_then {next : Nat → AuthM α} (rest : ∀ now, Yields rules call past (next now) good) :
    Yields rules call past (clock >>= next) good :=
  fun memory => rest memory.now

theorem yields_draw_then {next : String → AuthM α} (rest : ∀ value, Yields rules call past (next value) good) :
    Yields rules call past (draw >>= next) good :=
  fun memory _ => rest (memory.random memory.drawn)

end Sequences

theorem yields_returning {α : Type} {program : AuthM α} {value : α → AuthValue}
    {good : List (Event auth) → AuthValue → Prop}
    (yields : Yields rules call past program fun past' result => good past' (value result)) :
    Yields rules call past (returning value program) good :=
  yields_bind yields fun _ _ _ ends => yields_pure ends

end Journals

/-! ## Frames -/

/-- The operations that may change the wallets. -/
def writesWallets : AuthOp → Bool
  | .insertWallet _ | .saveWallet _ | .unsetPrimary _ => true
  | _ => false

/-- The operations that may change the two-factor records. -/
def writesTwoFactors : AuthOp → Bool
  | .insertTwoFactor _ | .saveTwoFactor _ | .enableTwoFactor _ _ | .disableTwoFactor _
  | .deleteTwoFactor _ => true
  | _ => false

/-- The operations that may change the users. -/
def writesUsers : AuthOp → Bool
  | .insertUser _ | .updateUser _ _ | .saveUser _ => true
  | _ => false

section Frames
variable {libraries : AuthLibraries} {world world' : AuthWorld} {op : AuthOp}
  {outcome : AuthOutcome} {result : Except Exception op.Reply}

theorem respond_fails {failure : Exception}
    (responds : world.respond libraries op (.fails failure) = some (world', result)) :
    world' = world ∧ result = .error failure := by
  cases op <;> cases responds <;> exact ⟨rfl, rfl⟩

theorem updateUser_frame (world : AuthWorld) (id : String) (change : UserChange) :
    (world.updateUser id change).1.wallets = world.wallets ∧
      (world.updateUser id change).1.twoFactors = world.twoFactors ∧
      (world.updateUser id change).1.retired = world.retired := by
  unfold AuthWorld.updateUser
  split
  next => exact ⟨rfl, rfl, rfl⟩
  next => split <;> exact ⟨rfl, rfl, rfl⟩

theorem saveUser_frame (world : AuthWorld) (user : User) : (world.saveUser user).1.wallets = world.wallets ∧
      (world.saveUser user).1.twoFactors = world.twoFactors ∧ (world.saveUser user).1.retired = world.retired := by
  unfold AuthWorld.saveUser
  split <;> exact ⟨rfl, rfl, rfl⟩

theorem insertUser_frame (world : AuthWorld) (user : User) : (world.insertUser user).1.wallets = world.wallets ∧
      (world.insertUser user).1.twoFactors = world.twoFactors ∧
      (world.insertUser user).1.retired = world.retired := by
  unfold AuthWorld.insertUser
  split <;> exact ⟨rfl, rfl, rfl⟩

theorem insertRefreshToken_frame (world : AuthWorld) (entity : RefreshToken) :
    (world.insertRefreshToken entity).1.wallets = world.wallets ∧
      (world.insertRefreshToken entity).1.twoFactors = world.twoFactors ∧
      (world.insertRefreshToken entity).1.retired = world.retired ∧
      (world.insertRefreshToken entity).1.users = world.users := by
  unfold AuthWorld.insertRefreshToken
  split <;> exact ⟨rfl, rfl, rfl, rfl⟩

theorem insertEmailVerification_frame (world : AuthWorld) (row : EmailVerification) :
    (world.insertEmailVerification row).1.wallets = world.wallets ∧
      (world.insertEmailVerification row).1.twoFactors = world.twoFactors ∧
      (world.insertEmailVerification row).1.retired = world.retired ∧
      (world.insertEmailVerification row).1.users = world.users := by
  unfold AuthWorld.insertEmailVerification
  split <;> exact ⟨rfl, rfl, rfl, rfl⟩

theorem insertWallet_frame (world : AuthWorld) (wallet : Wallet) :
    (world.insertWallet wallet).1.twoFactors = world.twoFactors ∧
      (world.insertWallet wallet).1.retired = world.retired ∧ (world.insertWallet wallet).1.users = world.users := by
  unfold AuthWorld.insertWallet
  split <;> exact ⟨rfl, rfl, rfl⟩

theorem respond_insert {taken : Bool} {reply : AuthWorld × Except Exception String} {result : Except Exception String}
    (responds : (if taken then none else some reply) = some (world', result)) :
    taken = false ∧ reply = (world', result) := by
  cases taken with
  | true => cases responds
  | false => exact ⟨rfl, Option.some.inj responds⟩

/-- What an operation leaves alone, by the tables it may change. -/
structure Frame (op : AuthOp) (world world' : AuthWorld) : Prop where
  wallets : writesWallets op = false → world'.wallets = world.wallets
  twoFactors : writesTwoFactors op = false →
    world'.twoFactors = world.twoFactors ∧ world'.retired = world.retired
  users : writesUsers op = false → world'.users = world.users

theorem respond_frame (responds : world.respond libraries op outcome = some (world', result)) :
    Frame op world world' := by
  cases outcome with
  | fails failure =>
    rw [(respond_fails responds).1]
    exact ⟨fun _ => rfl, fun _ => ⟨rfl, rfl⟩, fun _ => rfl⟩
  | done =>
    cases op with
    | updateUser id change =>
      have frame := updateUser_frame world id change
      rw [Option.some.inj responds] at frame
      exact ⟨fun _ => frame.1, fun _ => frame.2, fun silent => by cases silent⟩
    | saveUser user =>
      have frame := saveUser_frame world user
      rw [Option.some.inj responds] at frame
      exact ⟨fun _ => frame.1, fun _ => frame.2, fun silent => by cases silent⟩
    | saveWallet _ | unsetPrimary _ =>
      cases responds
      exact ⟨fun silent => (by cases silent), fun _ => ⟨rfl, rfl⟩, fun _ => rfl⟩
    | saveTwoFactor _ | enableTwoFactor _ _ | disableTwoFactor _ | deleteTwoFactor _ =>
      cases responds
      exact ⟨fun _ => rfl, fun silent => (by cases silent), fun _ => rfl⟩
    | _ => cases responds <;> exact ⟨fun _ => rfl, fun _ => ⟨rfl, rfl⟩, fun _ => rfl⟩
  | made id =>
    cases op with
    | insertUser user =>
      have frame := insertUser_frame world { user with id := id }
      rw [(respond_insert responds).2] at frame
      exact ⟨fun _ => frame.1, fun _ => frame.2, fun silent => by cases silent⟩
    | insertRefreshToken entity =>
      have frame := insertRefreshToken_frame world { entity with id := id }
      rw [(respond_insert responds).2] at frame
      exact ⟨fun _ => frame.1, fun _ => ⟨frame.2.1, frame.2.2.1⟩, fun _ => frame.2.2.2⟩
    | insertEmailVerification row =>
      have frame := insertEmailVerification_frame world { row with id := id }
      rw [(respond_insert responds).2] at frame
      exact ⟨fun _ => frame.1, fun _ => ⟨frame.2.1, frame.2.2.1⟩, fun _ => frame.2.2.2⟩
    | insertTwoFactor row =>
      have replied := (respond_insert responds).2
      cases replied
      exact ⟨fun _ => rfl, fun silent => (by cases silent), fun _ => rfl⟩
    | insertWallet wallet =>
      have frame := insertWallet_frame world
        { wallet with id := id, createdAt := world.now }
      rw [(respond_insert responds).2] at frame
      exact ⟨fun silent => (by cases silent), fun _ => ⟨frame.1, frame.2.1⟩, fun _ => frame.2.2⟩
    | _ => cases responds <;> exact ⟨fun _ => rfl, fun _ => ⟨rfl, rfl⟩, fun _ => rfl⟩

theorem secondary_id (wallet : Wallet) : ({ wallet with isPrimary := false } : Wallet).id = wallet.id :=
  rfl

/-- The wallets of an account without its primary mark. -/
def unsetPrimary (userId : String) (wallets : Table Wallet Wallet.id) : Table Wallet Wallet.id :=
  wallets.modify (fun wallet => decide (wallet.userId = userId) && wallet.isPrimary)
    (fun wallet => { wallet with isPrimary := false }) secondary_id

theorem mem_findWallets {query : WalletQuery} {wallet : Wallet} : wallet ∈ world.findWallets query ↔
      wallet ∈ world.wallets.rows ∧ query.selects wallet = true := by
  unfold AuthWorld.findWallets
  rw [List.mem_insertionSort, List.mem_filter]

/-- What an answer has done to the wallets. -/
inductive WalletStep : Event auth → Table Wallet Wallet.id → Table Wallet Wallet.id → Prop where
  | kept {event : Event auth} {wallets : Table Wallet Wallet.id}
      (none : ∀ wallet id, event ≠ ⟨.insertWallet wallet, .ok id⟩) : WalletStep event wallets wallets
  | inserted {wallets : Table Wallet Wallet.id} (wallet : Wallet) (id : String) (createdAt : Nat)
      (new : wallets.findOne id = none) :
      WalletStep ⟨.insertWallet wallet, .ok id⟩ wallets
        (wallets.save { wallet with id := id, createdAt := createdAt })
  | saved {wallets : Table Wallet Wallet.id} (wallet : Wallet) :
      WalletStep ⟨.saveWallet wallet, .ok ()⟩ wallets (wallets.save wallet)
  | unset {wallets : Table Wallet Wallet.id} (userId : String) :
      WalletStep ⟨.unsetPrimary userId, .ok ()⟩ wallets (unsetPrimary userId wallets)

theorem respond_wallets (responds : world.respond libraries op outcome = some (world', result)) :
    WalletStep ⟨op, result⟩ world.wallets world'.wallets := by
  cases outcome with
  | fails failure =>
    obtain ⟨rfl, rfl⟩ := respond_fails responds
    exact WalletStep.kept fun _ _ same => by cases same
  | done =>
    cases op with
    | saveWallet wallet =>
      cases responds
      exact WalletStep.saved wallet
    | unsetPrimary userId =>
      cases responds
      exact WalletStep.unset userId
    | insertWallet wallet => cases responds
    | _ =>
      rw [(respond_frame responds).wallets rfl]
      exact WalletStep.kept fun _ _ same => by cases same
  | made id =>
    cases op with
    | insertWallet wallet =>
      obtain ⟨unused, inserted⟩ := respond_insert responds
      unfold AuthWorld.insertWallet at inserted
      split at inserted
      next =>
        cases inserted
        exact WalletStep.kept fun _ _ same => by cases same
      next =>
        cases inserted
        exact WalletStep.inserted wallet id world.now (by simpa using unused)
    | saveWallet wallet => cases responds
    | unsetPrimary userId => cases responds
    | _ =>
      rw [(respond_frame responds).wallets rfl]
      exact WalletStep.kept fun _ _ same => by cases same

end Frames

/-! ## A small installation -/

/-- Signatures that name their signer, and one code that is always right. -/
def sampleLibraries : AuthLibraries where
  bcryptCompare password hash := decide (hash = "hash of " ++ password)
  totpVerify _ token _ := decide (token = "123456")
  verifyMessage _ signature := .ok signature
  sha256 text := "digest of " ++ text
  otpauthUrl secret _ _ := "otpauth://totp/" ++ secret

def sampleConfig : AuthConfig := ⟨sampleLibraries, 5⟩

def sampleAdmin : User where
  id := "u1"
  username := some "ada"
  walletAddress := "email_ada@alian.example"
  email := some "ada@alian.example"
  password := some "hash of correct horse"
  emailVerified := true
  role := .admin
  kycStatus := .verified
  isActive := true
  lastLoginAt := none
  referralCode := some "ADA00001"
  referredById := none

/-- A database with one account, and a process that has drawn no random value. -/
def sampleAuthWorld : AuthWorld where
  now := 1000000
  users := ⟨[sampleAdmin], by simp⟩
  refreshTokens := Table.empty
  twoFactors := Table.empty
  wallets := Table.empty
  emailVerifications := Table.empty
  retired := []

def sampleAuthMemory : AuthMemory where
  now := 1000000
  random n := String.ofList ('r' :: List.replicate n '+')
  drawn := 0
  challenges := Table.empty

def sampleWallet : Wallet where
  id := "w1"
  address := "0xa"
  userId := "u1"
  type := .primary
  status := .active
  isPrimary := true
  name := some "Wallet 1"
  verificationSignature := none
  verificationChallenge := none
  verifiedAt := none
  linkedIp := none
  linkedUserAgent := none
  delegatedById := none
  delegationExpiresAt := none
  delegationPermissions := none
  createdAt := 900000

theorem sampleWallet_unique : ([sampleWallet].map Wallet.id).Nodup := List.nodup_singleton _

/-- The sample account turns two-factor on, in calls `i` and `i + 1`. -/
def enablingRun (i : Nat) : List (Label (authProcess sampleConfig fun _ => true)) :=
  [.call (.setupTwoFactor "u1"), .reply i AuthOutcome.done, .reply i AuthOutcome.done, .resume i,
    .reply i (AuthOutcome.made "data:image/png"), .resume i, .reply i AuthOutcome.done,
    .reply i (AuthOutcome.made "f1"),
    .call (.verifyTwoFactorSetup "u1" "123456"), .reply (i + 1) AuthOutcome.done, .resume (i + 1),
    .reply (i + 1) AuthOutcome.done, .reply (i + 1) AuthOutcome.done,
    .reply (i + 1) AuthOutcome.done]

end AlianStructure.Guarantees.AuthCalls

/-!
# The authentication methods, one call at a time

Source: the awaited operations of wallet-auth.service.ts, delegation.service.ts and
email-linking.service.ts. What each operation does to the accounts and the wallets, as
rules for a call that has the database to itself; every operation may also fail.
-/
namespace AlianStructure.Guarantees.AuthInTurn
open Library.AsyncMethod Library.Interleaving Library.CallsInTurn Library.KeyedTable
open Source Source.Auth AuthCalls

variable {config : AuthConfig} {offers : AuthCall → Bool} {α : Type}
  {fair : Fairness (authProcess config offers)}
  {post : State (authProcess config offers) → Except Exception α → Prop}
  {world : AuthWorld} {state : State (authProcess config offers)}

/-- The accounts and the wallets of a state. -/
def Same (world : AuthWorld) (state : AuthWorld × AuthMemory) : Prop :=
  state.1.users = world.users ∧ state.1.wallets = world.wallets

theorem same_stable : Stable (authProcess config offers) (Same world) :=
  fun _ _ same => same

theorem findWallets_congr {other : AuthWorld} (same : other.wallets = world.wallets)
    (query : WalletQuery) : other.findWallets query = world.findWallets query := by
  unfold AuthWorld.findWallets
  rw [same]

/-! ## The memory of the process -/

theorem ends_memory_then {next : AuthMemory → AuthM α} (here : Same world state)
    (rest : ∀ state mem, Same world state → Ends (authProcess config offers) fair state (next mem) post) :
    Ends (authProcess config offers) fair state (Async.memory >>= next) post :=
  fun later waits => rest later later.2 (same_stable.waits here waits)

theorem ends_update_then {change : AuthMemory → AuthMemory} {next : Unit → AuthM α} (here : Same world state)
    (rest : ∀ state, Same world state → Ends (authProcess config offers) fair state (next ()) post) :
    Ends (authProcess config offers) fair state (Async.update (R := auth) change >>= next) post :=
  fun _ waits final more => by
    have same : Same world final := same_stable.waits (same_stable.waits here waits) more
    exact rest (final.1, _) same

theorem ends_clock_then {next : Nat → AuthM α} (here : Same world state) (rest : ∀ state now, Same world state →
      Ends (authProcess config offers) fair state (next now) post) :
    Ends (authProcess config offers) fair state (clock >>= next) post :=
  fun later waits => rest later later.2.now (same_stable.waits here waits)

theorem ends_draw_then {next : String → AuthM α} (here : Same world state) (rest : ∀ state text, Same world state →
      Ends (authProcess config offers) fair state (next text) post) :
    Ends (authProcess config offers) fair state (draw >>= next) post :=
  fun _ waits _ more final still => by
    have same : Same world final :=
      same_stable.waits (same_stable.waits (same_stable.waits here waits) more) still
    exact rest (final.1, _) _ same

theorem ends_returning {wrap : α → AuthValue} {program : AuthM α} {accepts : AuthWorld × AuthMemory → Prop}
    (ends : Ends (authProcess config offers) fair state program fun final _ => accepts final) :
    Ends (authProcess config offers) fair state (returning wrap program) fun final _ => accepts final :=
  ends_bind ends (fun _ _ accepted => accepted) fun _ _ accepted => accepted

/-! ## Operations that leave accounts and wallets alone -/

theorem ends_ask_then {next : op.Reply → AuthM α} (here : Same world state)
    (answers : ∀ before mem choice after result, Same world (before, mem) → fair op choice →
      before.respond config.libraries op choice = some (after, result) →
      Ends (authProcess config offers) fair (after, mem) (Async.onOk (R := auth) next result) post) :
    Ends (authProcess config offers) fair state (ask op >>= next) post :=
  fun later waits choice after result isFair responds =>
    answers later.1 later.2 choice after result (same_stable.waits here waits) isFair responds

theorem same_of_silent {before after : AuthWorld} {mem : AuthMemory} {choice : AuthOutcome}
    {result : Except Exception op.Reply} (users : writesUsers op = false)
    (wallets : writesWallets op = false) (here : Same world (before, mem))
    (responds : before.respond config.libraries op choice = some (after, result)) : Same world (after, mem) :=
  ⟨((respond_frame responds).users users).trans here.1,
    ((respond_frame responds).wallets wallets).trans here.2⟩

section Operations
variable (fails : ∀ state failure, Same world state → post state (.error failure))
include fails

theorem ends_silent_then {next : op.Reply → AuthM α} (here : Same world state)
    (users : writesUsers op = false) (wallets : writesWallets op = false)
    (rest : ∀ state reply, Same world state → Ends (authProcess config offers) fair state (next reply) post) :
    Ends (authProcess config offers) fair state (ask op >>= next) post := by
  refine ends_ask_then here fun before mem choice after result same _ responds => ?_
  have same' := same_of_silent users wallets same responds
  cases result with
  | error failure => exact fails _ failure same'
  | ok reply => exact rest _ reply same'

omit fails in
theorem ends_attempt_then {next : Except Exception op.Reply → AuthM α} (here : Same world state)
    (users : writesUsers op = false) (wallets : writesWallets op = false) (rest : ∀ state outcome, Same world state →
      Ends (authProcess config offers) fair state (next outcome) post) :
    Ends (authProcess config offers) fair state ((ask op).outcome >>= next) post :=
  fun _ waits _ _ result _ responds =>
    rest _ result (same_of_silent users wallets (same_stable.waits here waits) responds)

theorem ends_read_then {next : op.Reply → AuthM α} {value : op.Reply} (here : Same world state)
    (users : writesUsers op = false) (wallets : writesWallets op = false)
    (reads : ∀ before mem choice after reply, Same world (before, mem) →
      before.respond config.libraries op choice = some (after, .ok reply) → reply = value)
    (rest : ∀ state, Same world state → Ends (authProcess config offers) fair state (next value) post) :
    Ends (authProcess config offers) fair state (ask op >>= next) post := by
  refine ends_ask_then here fun before mem choice after result same _ responds => ?_
  have same' := same_of_silent users wallets same responds
  cases result with
  | error failure => exact fails _ failure same'
  | ok reply =>
    obtain rfl := reads before mem choice after reply same responds
    exact rest _ same'

theorem ends_findWallet_then {query : WalletQuery} {next : Option Wallet → AuthM α} (here : Same world state)
    (rest : ∀ state, Same world state →
      Ends (authProcess config offers) fair state (next (world.findWallets query).head?) post) :
    Ends (authProcess config offers) fair state (ask (.findWallet query) >>= next) post := by
  refine ends_read_then fails here rfl rfl (fun before mem choice after reply same responds => ?_)
    rest
  cases choice with
  | done =>
    cases responds
    rw [findWallets_congr same.2]
  | made text => cases responds
  | fails failure => cases responds

theorem ends_findWallets_then {query : WalletQuery} {next : List Wallet → AuthM α} (here : Same world state)
    (rest : ∀ state, Same world state →
      Ends (authProcess config offers) fair state (next (world.findWallets query)) post) :
    Ends (authProcess config offers) fair state (ask (.findWallets query) >>= next) post := by
  refine ends_read_then fails here rfl rfl (fun before mem choice after reply same responds => ?_)
    rest
  cases choice with
  | done =>
    cases responds
    exact findWallets_congr same.2 query
  | made text => cases responds
  | fails failure => cases responds

theorem ends_findUser_then {query : UserQuery} {next : Option User → AuthM α} (here : Same world state)
    (rest : ∀ state, Same world state → Ends (authProcess config offers) fair state
        (next (world.users.rows.find? query.selects)) post) :
    Ends (authProcess config offers) fair state (ask (.findUser query) >>= next) post := by
  refine ends_read_then fails here rfl rfl (fun before mem choice after reply same responds => ?_)
    rest
  cases choice with
  | done =>
    cases responds
    rw [same.1]
  | made text => cases responds
  | fails failure => cases responds

theorem ends_findWalletWithUser_then {address : String}
    {next : Option (Wallet × Option User) → AuthM α} (here : Same world state) (rest : ∀ state, Same world state →
      Ends (authProcess config offers) fair state (next ((world.walletOf address).map fun wallet =>
          (wallet, world.users.findOne wallet.userId))) post) :
    Ends (authProcess config offers) fair state (ask (.findWalletWithUser address) >>= next) post := by
  refine ends_read_then fails here rfl rfl (fun before mem choice after reply same responds => ?_)
    rest
  cases choice with
  | done =>
    cases responds
    unfold AuthWorld.walletOf
    rw [same.1, same.2]
  | made text => cases responds
  | fails failure => cases responds

/-! ## Operations that write wallets -/

theorem ends_saveWallet_then {wallet : Wallet} {next : Unit → AuthM α} (here : Same world state)
    (rest : ∀ state, Same { world with wallets := world.wallets.save wallet } state →
      Ends (authProcess config offers) fair state (next ()) post) :
    Ends (authProcess config offers) fair state (ask (.saveWallet wallet) >>= next) post := by
  refine ends_ask_then here fun before mem choice after result same _ responds => ?_
  cases choice with
  | done =>
    cases responds
    exact rest _ ⟨same.1, congrArg (fun wallets => wallets.save wallet) same.2⟩
  | made text => cases responds
  | fails failure =>
    obtain ⟨rfl, rfl⟩ := respond_fails responds
    exact fails _ failure same

theorem ends_unsetPrimary_then {userId : String} {next : Unit → AuthM α} (here : Same world state)
    (rest : ∀ state, Same { world with wallets := unsetPrimary userId world.wallets } state →
      Ends (authProcess config offers) fair state (next ()) post) :
    Ends (authProcess config offers) fair state (ask (.unsetPrimary userId) >>= next) post := by
  refine ends_ask_then here fun before mem choice after result same _ responds => ?_
  cases choice with
  | done =>
    cases responds
    exact rest _ ⟨same.1, congrArg (unsetPrimary userId) same.2⟩
  | made text => cases responds
  | fails failure =>
    obtain ⟨rfl, rfl⟩ := respond_fails responds
    exact fails _ failure same

/-- A new wallet gets an id that no wallet has, under an address that no wallet has. -/
theorem ends_insertWallet_then {wallet : Wallet} {next : String → AuthM α} (here : Same world state)
    (rest : ∀ state row, row = { wallet with id := row.id, createdAt := row.createdAt } →
      world.wallets.findOne row.id = none →
      (∀ other ∈ world.wallets.rows, other.address ≠ wallet.address) →
      Same { world with wallets := world.wallets.save row } state →
      Ends (authProcess config offers) fair state (next row.id) post) :
    Ends (authProcess config offers) fair state (ask (.insertWallet wallet) >>= next) post := by
  refine ends_ask_then here fun before mem choice after result same _ responds => ?_
  cases choice with
  | done => cases responds
  | made id =>
    obtain ⟨unused, inserted⟩ := respond_insert responds
    have new : world.wallets.findOne id = none := by
      rw [← same.2]
      simpa using unused
    unfold AuthWorld.insertWallet at inserted
    split at inserted
    next =>
      cases inserted
      exact fails _ _ same
    next free =>
      cases inserted
      refine rest _ { wallet with id := id, createdAt := before.now } rfl new
        (fun other member clash => free ?_)
        ⟨same.1, congrArg (fun wallets =>
          wallets.save { wallet with id := id, createdAt := before.now }) same.2⟩
      have listed : other ∈ before.wallets.rows := by
        rw [same.2]
        exact member
      exact List.any_eq_true.mpr ⟨other, listed, by simp [clash]⟩
  | fails failure =>
    obtain ⟨rfl, rfl⟩ := respond_fails responds
    exact fails _ failure same

end Operations

/-! ## Operations that write accounts -/

theorem updateUser_congr {other : AuthWorld} (same : other.users = world.users) (id : String) (change : UserChange) :
    (other.updateUser id change).1.users = (world.updateUser id change).1.users ∧
      (other.updateUser id change).2 = (world.updateUser id change).2 := by
  unfold AuthWorld.updateUser
  rw [same]
  split
  next => exact ⟨same, rfl⟩
  next =>
    split
    next => exact ⟨same, rfl⟩
    next => exact ⟨rfl, rfl⟩

theorem updateUser_failed {id : String} {change : UserChange}
    (failed : (world.updateUser id change).2 ≠ .ok ()) : (world.updateUser id change).1 = world := by
  unfold AuthWorld.updateUser at failed ⊢
  split
  next => rfl
  next user found =>
    split
    next => rfl
    next free =>
      rw [found] at failed
      exact absurd (by simp only [if_neg free]) failed

theorem respond_updateUser {id : String} {change : UserChange} {before after : AuthWorld}
    {mem : AuthMemory} {choice : AuthOutcome} {result : Except Exception Unit}
    (same : Same world (before, mem)) (isFair : fair (.updateUser id change) choice)
    (responds : before.respond config.libraries (.updateUser id change) choice = some (after, result)) :
    (result = .ok () ∧ (world.updateUser id change).2 = .ok () ∧ Same (world.updateUser id change).1 (after, mem)) ∨
    ((∃ failure, result = .error failure) ∧ Same world (after, mem) ∧ ((world.updateUser id change).2 = .ok () →
        ∃ failure, fair (.updateUser id change) (.fails failure))) := by
  cases choice with
  | done =>
    have replied := Option.some.inj responds
    obtain ⟨users, answer⟩ := updateUser_congr same.1 id change
    have wallets := (updateUser_frame before id change).1
    have wallets' := (updateUser_frame world id change).1
    rw [replied] at users answer wallets
    cases result with
    | ok reply => exact Or.inl ⟨rfl, answer.symm, users, (wallets.trans same.2).trans wallets'.symm⟩
    | error failure =>
      have refused : (world.updateUser id change).2 ≠ .ok () := fun granted => by
        rw [granted] at answer
        cases answer
      refine Or.inr ⟨⟨failure, rfl⟩, ⟨users.trans ?_, wallets.trans same.2⟩, fun granted =>
        absurd granted refused⟩
      rw [updateUser_failed refused]
  | made text => cases responds
  | fails failure =>
    obtain ⟨rfl, rfl⟩ := respond_fails responds
    exact Or.inr ⟨⟨failure, rfl⟩, same, fun _ => ⟨failure, isFair⟩⟩

theorem ends_updateUser_then {id : String} {change : UserChange} {next : Unit → AuthM α} (here : Same world state)
    (fails : ∀ state failure, Same world state → ((world.updateUser id change).2 = .ok () →
        ∃ failure, fair (.updateUser id change) (.fails failure)) → post state (.error failure))
    (rest : ∀ state, (world.updateUser id change).2 = .ok () → Same (world.updateUser id change).1 state →
      Ends (authProcess config offers) fair state (next ()) post) :
    Ends (authProcess config offers) fair state (ask (.updateUser id change) >>= next) post := by
  refine ends_ask_then here fun before mem choice after result same isFair responds => ?_
  rcases respond_updateUser same isFair responds with
    ⟨rfl, granted, changed⟩ | ⟨⟨failure, rfl⟩, kept, refused⟩
  · exact rest _ granted changed
  · exact fails _ failure kept refused

theorem ends_saveUser_then {user : User} {next : Unit → AuthM α} (here : Same world state)
    (fails : ∀ state failure, Same world state → post state (.error failure))
    (rest : ∀ state, Same { world with users := world.users.save user } state →
      Ends (authProcess config offers) fair state (next ()) post) :
    Ends (authProcess config offers) fair state (ask (.saveUser user) >>= next) post := by
  refine ends_ask_then here fun before mem choice after result same _ responds => ?_
  cases choice with
  | done =>
    have replied := Option.some.inj responds
    unfold AuthWorld.saveUser at replied
    split at replied
    next =>
      cases replied
      exact fails _ _ same
    next =>
      cases replied
      exact rest _ ⟨congrArg (fun users => users.save user) same.1, same.2⟩
  | made text => cases responds
  | fails failure =>
    obtain ⟨rfl, rfl⟩ := respond_fails responds
    exact fails _ failure same

end AlianStructure.Guarantees.AuthInTurn
