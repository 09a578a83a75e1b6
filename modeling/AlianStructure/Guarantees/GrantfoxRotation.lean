import AlianStructure.Library.CallJournal
import AlianStructure.Source.Grantfox.GrantfoxOAuthService

/-!
# The rotation of GrantFox refresh tokens

Source: src/core/auth/services/grantfox-oauth.service.ts:278-431,
entities/grantfox-token.entity.ts:22-57,95-100. A lookup by refresh token compares the stored
column with a new encryption of the token it looks for. Both carry their IV, and the new one
was never drawn before.
-/
namespace AlianStructure.Guarantees.GrantfoxRotation
open Library.Interleaving Library.CallProtocol Library.CallJournal
open Library.KeyedTable
open Source Source.Grantfox

/-! ## Stored tokens -/

/-- Every stored token was encrypted with an IV that has been drawn. -/
def SealedEarlier (world : GrantfoxWorld) : Prop :=
  ∀ row ∈ world.tokens.rows, row.refreshToken.iv ∈ world.ivs

variable {world world' : GrantfoxWorld}

theorem draws_some {Reply : Type} {ivs : List Iv}
    {rest : GrantfoxWorld → GrantfoxWorld × Except Exception Reply} {result : Except Exception Reply}
    (drew : world.draws ivs rest = some (world', result)) : (∀ iv ∈ ivs, iv ∉ world.ivs) ∧
      rest { world with ivs := world.ivs ++ ivs } = (world', result) := by
  unfold GrantfoxWorld.draws at drew
  split at drew
  next fresh =>
    refine ⟨fun iv drawn before => ?_, Option.some.inj drew⟩
    exact (List.nodup_append.mp fresh).2.2 iv before iv drawn rfl
  next => cases drew

theorem SealedEarlier.drawing {world : GrantfoxWorld} (sealedEarlier : SealedEarlier world)
    (ivs : List Iv) : SealedEarlier { world with ivs := world.ivs ++ ivs } :=
  fun row member => List.mem_append_left _ (sealedEarlier row member)

theorem saveRow_sealedEarlier {world after : GrantfoxWorld} {row : TokenRow}
    (sealedEarlier : SealedEarlier world) (drawn : row.refreshToken.iv ∈ world.ivs)
    (saved : world.saveRow row = .ok after) : SealedEarlier after ∧ after.ivs = world.ivs := by
  unfold GrantfoxWorld.saveRow at saved
  split at saved
  next => cases saved
  next =>
    split at saved
    next => cases saved
    next =>
      cases saved
      refine ⟨fun other member => ?_, rfl⟩
      rcases Table.mem_save.mp member with rfl | ⟨old, _⟩
      · exact drawn
      · exact sealedEarlier other old

variable {transformer : EncryptedTokenTransformer}

theorem store_iv {entity : TokenEntity} {iv : Iv} {row : TokenRow}
    (stored : entity.store transformer iv = .ok row) : row.refreshToken.iv = iv := by
  unfold GrantfoxToken.store at stored
  cases converted : transformer.to iv entity.refreshToken with
  | error failure =>
    rw [converted] at stored
    cases stored
  | ok value =>
    rw [converted] at stored
    cases stored
    exact EncryptedTokenTransformer.to_iv converted

theorem saveTokens_sealedEarlier :
    ∀ {entities : List TokenEntity} {ivs : List Iv} {world after : GrantfoxWorld},
      SealedEarlier world → (∀ iv ∈ ivs, iv ∈ world.ivs) →
      GrantfoxWorld.saveTokens transformer entities ivs world = .ok after → SealedEarlier after
  | [], _, _, _, sealedEarlier, _, saved => by
    cases saved
    exact sealedEarlier
  | _ :: _, [], _, _, sealedEarlier, _, saved => by
    cases saved
    exact sealedEarlier
  | entity :: entities, iv :: ivs, world, after, sealedEarlier, drawn, saved => by
    simp only [GrantfoxWorld.saveTokens] at saved
    cases stored : entity.store transformer iv with
    | error failure =>
      rw [stored] at saved
      cases saved
    | ok row =>
      rw [stored] at saved
      cases first : world.saveRow row with
      | error failure =>
        simp only [bind, Except.bind, first] at saved
        cases saved
      | ok middle =>
        simp only [bind, Except.bind, first] at saved
        have here : row.refreshToken.iv ∈ world.ivs := by
          rw [store_iv stored]
          exact drawn iv List.mem_cons_self
        obtain ⟨kept, same⟩ := saveRow_sealedEarlier sealedEarlier here first
        refine saveTokens_sealedEarlier kept (fun other member => ?_) saved
        rw [same]
        exact drawn other (List.mem_cons_of_mem _ member)

theorem committed_sealedEarlier {Reply : Type} {reply : Reply}
    {saved : Except Exception GrantfoxWorld} {result : Except Exception Reply}
    (before : SealedEarlier world) (after : ∀ later, saved = .ok later → SealedEarlier later)
    (responds : world.committed reply saved = (world', result)) : SealedEarlier world' := by
  cases saved with
  | error failure =>
    cases responds
    exact before
  | ok later =>
    cases responds
    exact after world' rfl

theorem save_drawn {Reply : Type} {entities : List TokenEntity} {ivs : List Iv} {reply : Reply}
    {result : Except Exception Reply} (sealedEarlier : SealedEarlier world)
    (drew : (world.draws ivs fun world => world.committed reply
      (GrantfoxWorld.saveTokens transformer entities ivs world)) = some (world', result)) : SealedEarlier world' := by
  obtain ⟨_, responds⟩ := draws_some drew
  refine committed_sealedEarlier (sealedEarlier.drawing ivs) (fun later saved => ?_) responds
  exact saveTokens_sealedEarlier (sealedEarlier.drawing ivs)
    (fun iv member => List.mem_append_right _ member) saved

variable {outcome : GrantfoxOutcome}

theorem respond_sealedEarlier {op : GrantfoxOp} {result : Except Exception op.Reply}
    (sealedEarlier : SealedEarlier world) (responds : world.respond transformer op outcome = some (world', result)) :
    SealedEarlier world' := by
  unfold GrantfoxWorld.respond at responds
  split at responds
  next query iv =>
    obtain ⟨_, same⟩ := draws_some responds
    cases same
    exact sealedEarlier.drawing [iv]
  next =>
    cases responds
    exact sealedEarlier
  next =>
    split at responds
    next => cases responds
    next => exact save_drawn sealedEarlier responds
  next =>
    split at responds
    next => cases responds
    next => exact save_drawn sealedEarlier responds
  next =>
    cases responds
    exact fun row member => sealedEarlier row (List.mem_of_mem_filter member)
  next => cases responds; exact sealedEarlier
  next => cases responds; exact sealedEarlier
  next => cases responds; exact sealedEarlier
  next => cases responds; exact sealedEarlier
  next =>
    split at responds
    next => cases responds
    next =>
      simp only [GrantfoxWorld.insertSocialAccount, Option.some.injEq] at responds
      split at responds <;> cases responds <;> exact sealedEarlier
  next => cases responds; exact sealedEarlier
  next =>
    split at responds
    next => cases responds
    next =>
      simp only [GrantfoxWorld.insertUser, Option.some.injEq] at responds
      split at responds <;> cases responds <;> exact sealedEarlier
  next => cases responds; exact sealedEarlier
  next => cases responds; exact sealedEarlier
  next => cases responds

/-! ## Lookups by refresh token -/

/-- The answer is a token found by its refresh token. -/
def hits : (op : GrantfoxOp) → Except Exception op.Reply → Bool
  | .findToken (.refreshToken _ _), .ok (some _) => true
  | _, _ => false

theorem findToken_misses {world : GrantfoxWorld} {userId : Option String} {token : String} {iv : Iv}
    (fresh : ∀ row ∈ world.tokens.rows, row.refreshToken.iv ≠ iv) (entity : TokenEntity) :
    world.findToken transformer (.refreshToken userId token) iv ≠ .ok (some entity) := by
  intro found
  simp only [GrantfoxWorld.findToken, TokenQuery.selects] at found
  cases converted : transformer.to iv token with
  | error failure =>
    rw [converted] at found
    cases found
  | ok value =>
    rw [converted] at found
    simp only [Except.map, bind, Except.bind] at found
    split at found
    next => cases found
    next row chosen =>
      have selected := List.find?_some chosen
      have same : row.refreshToken = value := by
        simp only [Bool.and_eq_true, decide_eq_true_eq] at selected
        exact selected.1.2
      refine fresh row (List.mem_of_find?_eq_some chosen) ?_
      rw [same]
      exact EncryptedTokenTransformer.to_iv converted

theorem respond_findToken {query : TokenQuery} {result : Except Exception (Option TokenEntity)}
    (responds : world.respond transformer (.findToken query) outcome = some (world', result)) :
    (∃ iv, (world.draws [iv] fun world => (world, world.findToken transformer query iv)) =
      some (world', result)) ∨ ∃ failure, result = .error failure := by
  cases outcome with
  | drew ivs =>
    rcases ivs with _ | ⟨iv, _ | ⟨_, _⟩⟩
    · cases responds
    · exact Or.inl ⟨iv, responds⟩
    · cases responds
  | fails failure =>
    cases responds
    exact Or.inr ⟨failure, rfl⟩
  | _ => cases responds

theorem respond_misses {op : GrantfoxOp} {result : Except Exception op.Reply} (sealedEarlier : SealedEarlier world)
    (responds : world.respond transformer op outcome = some (world', result)) : hits op result = false := by
  unfold hits
  split
  next userId token entity =>
    rcases respond_findToken responds with ⟨iv, drew⟩ | ⟨failure, same⟩
    · obtain ⟨fresh, same⟩ := draws_some drew
      refine absurd (congrArg Prod.snd same) (findToken_misses ?_ entity)
      intro row member same
      exact fresh iv (List.mem_singleton_self iv) (same ▸ sealedEarlier row member)
    · cases same
  next => rfl

/-! ## Calls that present a refresh token -/

/-- A call, and whether a lookup of it by refresh token has found a row. -/
structure Lookup where
  call : GrantfoxCall
  hit : Bool

/-- The calls that look a token up by the text presented. -/
def presents : GrantfoxCall → Bool
  | .refreshToken _ _ => true
  | .revokeToken _ refreshTokenValue => (Auth.given refreshTokenValue).isSome
  | _ => false

abbrev lookups : Protocol grantfox where
  Phase := Lookup
  start call := ⟨call, false⟩
  starts _ _ := True
  allows _ _ := True
  possible _ _ := True
  advance phase op result := ⟨phase.call, phase.hit || hits op result⟩
  returns phase result := ∀ value, result = .ok value → presents phase.call = true →
    phase.hit = true

/-- Nothing is left to show of a call. -/
def Settled (phase : Lookup) : Prop := presents phase.call = true → phase.hit = true

theorem settled_follows {α : Type} {program : GrantfoxM α} {phase : Lookup}
    {post : Lookup → Except Exception α → Prop} (settled : Settled phase)
    (accepts : ∀ phase result, Settled phase → post phase result) : Follows lookups phase program post := by
  refine follows_free lookups Settled (fun _ _ _ => trivial) (fun _ _ _ => trivial) ?_ accepts settled
  intro before op result reached presented
  simp [reached presented]

theorem settled_keeps {call : GrantfoxCall} {program : GrantfoxM GrantfoxValue}
    (other : presents call = false) : Keeps lookups ⟨call, false⟩ program := by
  refine settled_follows (fun presented => ?_) fun phase result settled _ _ => settled
  rw [other] at presented
  cases presented

theorem lookup_keeps {α : Type} {call : GrantfoxCall} {userId : Option String} {token : String}
    {value : α → GrantfoxValue} {next : Option TokenEntity → GrantfoxM α}
    (refuses : ∃ failure, next none = throw failure) : Keeps lookups ⟨call, false⟩
      (returning value (ask (.findToken (.refreshToken userId token)) >>= next)) := by
  have looked : Follows lookups ⟨call, false⟩
      (ask (.findToken (.refreshToken userId token)) >>= next)
      fun phase result => ∀ value, result = .ok value → Settled phase := by
    rw [follows_bind]
    refine ⟨trivial, fun answer _ => ?_⟩
    rcases answer with failed | _ | entity
    · exact fun _ impossible => by cases impossible
    · obtain ⟨failure, refuses⟩ := refuses
      show Follows lookups _ (next none) _
      rw [refuses]
      exact fun _ impossible => by cases impossible
    · show Follows lookups _ (next (some entity)) _
      exact settled_follows (fun _ => rfl) fun _ _ settled _ _ => settled
  unfold Keeps returning
  rw [follows_bind]
  refine follows_mono lookups ?_ looked
  intro phase result ended
  cases result with
  | error failed => exact fun _ impossible => by cases impossible
  | ok result => exact fun _ _ => ended result rfl

theorem refreshToken_keeps (config : GrantfoxConfig) (refreshTokenValue ipAddress : String) :
    Keeps lookups ⟨.refreshToken refreshTokenValue ipAddress, false⟩
      (grantfoxBody config (.refreshToken refreshTokenValue ipAddress)) :=
  lookup_keeps ⟨_, rfl⟩

theorem revokeToken_keeps (config : GrantfoxConfig) (userId : String) (refreshTokenValue : Option String) :
    Keeps lookups ⟨.revokeToken userId refreshTokenValue, false⟩
      (returning .revoked (GrantfoxOAuthService.revokeToken config userId refreshTokenValue)) := by
  unfold GrantfoxOAuthService.revokeToken
  split
  next value given => exact lookup_keeps ⟨_, rfl⟩
  next absent =>
    refine settled_keeps ?_
    simp [presents, absent]

theorem body_keeps (config : GrantfoxConfig) (call : GrantfoxCall) :
    Keeps lookups ⟨call, false⟩ (grantfoxBody config call) := by
  cases call with
  | refreshToken refreshTokenValue ipAddress =>
    exact refreshToken_keeps config refreshTokenValue ipAddress
  | revokeToken userId refreshTokenValue => exact revokeToken_keeps config userId refreshTokenValue
  | _ => exact settled_keeps rfl

theorem lookups_conform (config : GrantfoxConfig) : Conforms lookups (grantfoxProcess config) where
  body call _ := body_keeps config call
  possible _ _ _ _ _ _ := trivial

section Runs
variable {config : GrantfoxConfig}

/-- No lookup by refresh token has found a row, and none can. -/
structure Missing (v : View lookups (grantfoxProcess config)) : Prop where
  sealedEarlier : SealedEarlier v.world
  misses : ∀ phase ∈ v.phases, phase.hit = false

theorem Missing.moves {v v' : View lookups (grantfoxProcess config)} (missing : Missing v)
    (moved : Moves lookups (anyAnswer lookups (grantfoxProcess config)) v v') : Missing v' := by
  cases moved with
  | calls new started =>
    refine ⟨missing.sealedEarlier, fun phase member => ?_⟩
    rcases List.mem_append.mp member with old | fresh
    · exact missing.misses phase old
    · obtain ⟨call, _, rfl⟩ := List.mem_map.mp fresh
      rfl
  | env mem change => exact ⟨missing.sealedEarlier, missing.misses⟩
  | reply i phase op choice world result found allowed responds condition =>
    refine ⟨respond_sealedEarlier missing.sealedEarlier responds, fun other member => ?_⟩
    rcases List.mem_or_eq_of_mem_set member with old | rfl
    · exact missing.misses other old
    · have before := missing.misses phase (List.mem_of_getElem? found)
      have now := respond_misses missing.sealedEarlier responds
      show (phase.hit || hits op result) = false
      rw [before, now]
      rfl

theorem missing_run {world : GrantfoxWorld} {mem : GrantfoxMemory}
    (sealedEarlier : SealedEarlier world) {labels : List (Label (grantfoxProcess config))}
    {after : Config (grantfoxProcess config)}
    (ran : run labels (Config.initial (grantfoxProcess config) world mem) = some after) :
    Missing (view lookups after) ∧ AllKeep lookups after := by
  have initially : Missing (view lookups (Config.initial (grantfoxProcess config) world mem)) :=
    ⟨sealedEarlier, fun _ member => by cases member⟩
  exact invariant_of_moves (lookups_conform config)
    (fun _ _ missing moved => Missing.moves missing moved) (allKeep_initial world mem) initially
    (admissible_anyAnswer labels _) ran

theorem presenting_fails {world : GrantfoxWorld} {mem : GrantfoxMemory}
    (sealedEarlier : SealedEarlier world) {labels : List (Label (grantfoxProcess config))}
    {after : Config (grantfoxProcess config)}
    (ran : run labels (Config.initial (grantfoxProcess config) world mem) = some after) {i : Nat}
    {task : Task grantfox} (found : after.pool[i]? = some task) {value : GrantfoxValue}
    (returned : task.result = some (.ok value)) : presents task.call = false := by
  obtain ⟨missing, keep⟩ := missing_run sealedEarlier ran
  have same : (phaseOf lookups task).call = task.call :=
    phaseOf_keeps (P := lookups) (fun phase => phase.call = task.call) (fun _ _ _ kept => kept) rfl
  have never : (phaseOf lookups task).hit = false :=
    missing.misses _ (List.mem_map_of_mem (List.mem_of_getElem? found))
  have rests := returns_of_result keep found returned value rfl
  rw [same, never] at rests
  simpa using rests

/-- The refresh token that a call has returned. -/
def issued (task : Task grantfox) : Option String :=
  match task.result with
  | some (.ok (.session session)) => some session.refreshToken
  | some (.ok (.tokens pair)) => some pair.refreshToken
  | _ => none

/-- A token that was returned and is neither rotated nor revoked. -/
def Live (c : Config (grantfoxProcess config)) (token : String) : Prop :=
  (∃ task ∈ c.pool, issued task = some token) ∧ ∃ row ∈ c.world.tokens.rows,
    config.transformer.from row.refreshToken = .ok token ∧ row.revoked = false

/-- A token for which a call has returned a new pair. -/
def Rotated (c : Config (grantfoxProcess config)) (token : String) : Prop :=
  ∃ task ∈ c.pool, ∃ ipAddress pair, task.call = .refreshToken token ipAddress ∧
    task.result = some (.ok (.tokens pair))

/-- What rotation owes to a call that presents a token. -/
def RefreshMeets (c : Config (grantfoxProcess config)) (token : String)
    (result : Except Exception GrantfoxValue) : Prop :=
  (Live c token → ∃ pair, result = .ok (.tokens pair)) ∧
    (Rotated c token → ∃ failure, result = .error failure)

/-- In every run, a refresh gives what rotation owes exactly when its token is not live. -/
theorem refresh_meets_iff {world : GrantfoxWorld} {mem : GrantfoxMemory}
    (sealedEarlier : SealedEarlier world) {before later : List (Label (grantfoxProcess config))}
    {c after : Config (grantfoxProcess config)} {token ipAddress : String}
    (ran : run before (Config.initial (grantfoxProcess config) world mem) = some c)
    (went : run (.call (GrantfoxCall.refreshToken token ipAddress) :: later) c = some after)
    {task : Task grantfox} {result : Except Exception GrantfoxValue}
    (found : after.pool[c.pool.length]? = some task) (ended : task.result = some result) :
    RefreshMeets c token result ↔ ¬ Live c token := by
  have whole : run (before ++ .call (GrantfoxCall.refreshToken token ipAddress) :: later)
      (Config.initial (grantfoxProcess config) world mem) = some after := by
    rw [run_append, ran]
    exact went
  have asked : task.call = .refreshToken token ipAddress := called_pool went found
  have rejected : ∃ failure, result = .error failure := by
    cases result with
    | error failure => exact ⟨failure, rfl⟩
    | ok value =>
      have silent := presenting_fails sealedEarlier whole found ended
      rw [asked] at silent
      cases silent
  obtain ⟨failure, rfl⟩ := rejected
  constructor
  · intro meets live
    obtain ⟨_, impossible⟩ := meets.1 live
    cases impossible
  · exact fun dead => ⟨fun live => absurd live dead, fun _ => ⟨failure, rfl⟩⟩

end Runs

def sampleTransformer : EncryptedTokenTransformer where
  hasKey := true
  encrypt _ text := ("", text)
  decrypt _ _ ciphertext := .ok ciphertext
  decrypt_encrypt _ _ := rfl

def sampleGrantfoxConfig : GrantfoxConfig where
  authorizationUrl := "https://auth.grantfox.io/oauth/authorize"
  clientId := "client"
  clientSecret := "secret"
  redirectUri := "http://localhost:3000/auth/grantfox/callback"
  codeChallenge verifier := verifier
  transformer := sampleTransformer

/-- The placeholder user that pending records refer to. -/
def pendingUser : Auth.User where
  id := GrantfoxOAuthService.pendingUserId
  username := none
  walletAddress := "pending"
  email := none
  password := none
  emailVerified := false
  role := .user
  kycStatus := .unverified
  isActive := false
  lastLoginAt := none
  referralCode := none
  referredById := none

def sampleGrantfoxWorld : GrantfoxWorld where
  now := 0
  users := Table.empty.save pendingUser
  socialAccounts := Table.empty
  tokens := Table.empty
  ivs := []

def sampleGrantfoxMemory : GrantfoxMemory where
  now := 0
  random n := "r" ++ toString n
  drawn := 0

def loginStart : Config (grantfoxProcess sampleGrantfoxConfig) :=
  Config.initial _ sampleGrantfoxWorld sampleGrantfoxMemory

/-- A user signs on and is given the refresh token `first`. -/
def loginRun : List (Label (grantfoxProcess sampleGrantfoxConfig)) :=
  [.call (.startAuthorization none), .resume 0, .reply 0 (.madeDrawing "t0" 1),
    .call (.handleCallback "code" "r0" "ip" none), .reply 1 (.drew [2]),
    .reply 1 (.tokens (some ⟨"access", "first", some 3600⟩)),
    .reply 1 (.userInfo (some ⟨some "gf", "gf", some "a@b.c", none, none, none, none, none⟩)),
    .reply 1 .done, .reply 1 .done, .reply 1 (.made "u1"), .resume 1, .reply 1 .done,
    .reply 1 (.madeDrawing "t1" 3), .reply 1 .done, .reply 1 (.made "s1"), .reply 1 .done]

/-- The next call presents it. -/
def refreshRun : List (Label (grantfoxProcess sampleGrantfoxConfig)) :=
  [.reply 2 (.drew [4])]

theorem first_refused :
    ∃ c after task, run loginRun loginStart = some c ∧
      run (.call (GrantfoxCall.refreshToken "first" "ip") :: refreshRun) c = some after ∧
      after.pool[c.pool.length]? = some task ∧
      task.result = some (.error (.unauthorized "Invalid or revoked refresh token")) ∧
      Live c "first" :=
  ⟨_, _, _, rfl, rfl, rfl, rfl, ⟨_, List.mem_of_getElem? (i := 1) rfl, rfl⟩, _,
    List.mem_of_getElem? (i := 0) rfl, rfl, rfl⟩

/-- The token a user has just been given does not get a new pair. -/
theorem live_token_refused :
    ∃ c after task result, run loginRun loginStart = some c ∧
      run (.call (GrantfoxCall.refreshToken "first" "ip") :: refreshRun) c = some after ∧
      after.pool[c.pool.length]? = some task ∧ task.result = some result ∧
      ¬ RefreshMeets c "first" result := by
  obtain ⟨c, after, task, ran, went, found, ended, live⟩ := first_refused
  refine ⟨c, after, task, _, ran, went, found, ended, fun meets => ?_⟩
  obtain ⟨pair, impossible⟩ := meets.1 live
  cases impossible

theorem refresh_meets_iff_login :
    ∃ c after task result, run loginRun loginStart = some c ∧
      run (.call (GrantfoxCall.refreshToken "first" "ip") :: refreshRun) c = some after ∧
      after.pool[c.pool.length]? = some task ∧ task.result = some result ∧
      (RefreshMeets c "first" result ↔ ¬ Live c "first") := by
  obtain ⟨c, after, task, ran, went, found, ended, _⟩ := first_refused
  have sealedEarlier : SealedEarlier sampleGrantfoxWorld := fun _ member => by cases member
  exact ⟨c, after, task, _, ran, went, found, ended,
    refresh_meets_iff sealedEarlier ran went found ended⟩

end AlianStructure.Guarantees.GrantfoxRotation
