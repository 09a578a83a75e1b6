import AlianStructure.Guarantees.TwoFactorHistory

/-!
# The two-factor gate of the admin endpoints

Source: guards/admin-two-factor.guard.ts:45-115, enhanced-auth.service.ts:140-243,553-593.
The guard reads whether the account has two-factor enabled now, and believes what the
token says about the login, which was decided when the token was issued. A token that
was decided before two-factor was enabled passes as if a code had been checked.
-/
namespace AlianStructure.Guarantees.AdminGate
open Library.Interleaving Library.CallJournal Library.KeyedTable
open Source Source.Auth AuthCalls AccountConduct WalletConduct TwoFactorHistory

def userIds (world : AuthWorld) : List String := world.users.rows.map (·.id)

/-- The account that an answer shows to exist. -/
def shows : Event auth → Option String
  | ⟨.findUser (.id userId), .ok (some _)⟩ => some userId
  | ⟨.findTwoFactor (.enabled userId), .ok (some _)⟩ => some userId
  | _ => none

/-- What is answered while an account has two-factor enabled: the account is not created,
and whoever asks is told so. -/
def agrees (userId : String) : Event auth → Prop
  | ⟨.findTwoFactor (.enabled asked), .ok found⟩ => asked = userId → found.isSome = true
  | ⟨.insertUser _, .ok id⟩ => id ≠ userId
  | _ => True

/-- The account whose record an answer has saved. -/
def saves : Event auth → Option String
  | ⟨.saveTwoFactor row, .ok _⟩ => some row.userId
  | _ => none

structure Gated (world : AuthWorld) (records : List (Record auth)) : Prop where
  factored : Factored world records
  known : ∀ row ∈ world.twoFactors.rows, row.userId ∈ userIds world
  shown : ∀ record ∈ records, ∀ userId, shows record.event = some userId → userId ∈ userIds world
  agreed : ∀ userId since, sinceEnabled records userId = some since →
    ∀ record ∈ since, record ∈ records ∧ agrees userId record.event
  saved : ∀ record ∈ records, ∀ userId, saves record.event = some userId →
    checkedAccount record.call = some userId

section Answers
variable {libraries : AuthLibraries} {world world' : AuthWorld} {op : AuthOp}
  {outcome : AuthOutcome} {result : Except Exception op.Reply}

theorem userIds_save {users : Table User User.id} {user : User} {id : String}
    (listed : id ∈ users.rows.map (·.id)) : id ∈ (users.save user).rows.map (·.id) := by
  obtain ⟨stored, member, named⟩ := List.mem_map.mp listed
  by_cases same : stored.id = user.id
  · exact List.mem_map.mpr ⟨user, Table.mem_save.mpr (Or.inl rfl), same.symm.trans named⟩
  · exact List.mem_map.mpr ⟨stored, Table.mem_save.mpr (Or.inr ⟨member, same⟩), named⟩

theorem respond_userIds (responds : world.respond libraries op outcome = some (world', result))
    {id : String} (listed : id ∈ userIds world) : id ∈ userIds world' := by
  by_cases silent : writesUsers op = false
  · rw [userIds, (respond_frame responds).users silent]
    exact listed
  · cases outcome with
    | fails failure =>
      rw [(respond_fails responds).1]
      exact listed
    | done =>
      cases op with
      | updateUser userId change =>
        have grown : id ∈ userIds (world.updateUser userId change).1 := by
          unfold AuthWorld.updateUser
          split
          next => exact listed
          next =>
            split
            next => exact listed
            next => exact userIds_save listed
        rw [Option.some.inj responds] at grown
        exact grown
      | saveUser user =>
        have grown : id ∈ userIds (world.saveUser user).1 := by
          unfold AuthWorld.saveUser
          split
          next => exact listed
          next => exact userIds_save listed
        rw [Option.some.inj responds] at grown
        exact grown
      | insertUser user => cases responds
      | _ => exact absurd rfl silent
    | made text =>
      cases op with
      | insertUser user =>
        have grown : id ∈ userIds (world.insertUser { user with id := text }).1 := by
          unfold AuthWorld.insertUser
          split
          next => exact listed
          next => exact userIds_save listed
        rw [(respond_insert responds).2] at grown
        exact grown
      | updateUser userId change => cases responds
      | saveUser user => cases responds
      | _ => exact absurd rfl silent

variable {userId : String}

theorem shown_of_responds (known : ∀ row ∈ world.twoFactors.rows, row.userId ∈ userIds world)
    (responds : world.respond libraries op outcome = some (world', result))
    (shown : shows ⟨op, result⟩ = some userId) : userId ∈ userIds world := by
  cases op with
  | findUser query =>
    cases query with
    | id asked =>
      rcases result with failure | _ | user
      · cases shown
      · cases shown
      · cases shown
        cases outcome with
        | done =>
          have found := Except.ok.inj (congrArg Prod.snd (Option.some.inj responds))
          have selected : user.id = userId := by
            simpa [UserQuery.selects] using List.find?_some found
          exact List.mem_map.mpr ⟨user, List.mem_of_find?_eq_some found, selected⟩
        | made text => cases responds
        | fails failure => cases responds
    | _ => cases shown
  | findTwoFactor query =>
    cases query with
    | enabled asked =>
      rcases result with failure | _ | row
      · cases shown
      · cases shown
      · cases shown
        have selected := respond_possible responds
        simp only [possible, TwoFactorQuery.selects, Bool.and_eq_true,
          decide_eq_true_eq] at selected
        rw [← selected.1]
        exact known row (respond_findTwoFactor responds)
    | pending asked => cases shown
  | _ => cases shown

theorem agrees_of_responds (known : ∀ row ∈ world.twoFactors.rows, row.userId ∈ userIds world)
    (responds : world.respond libraries op outcome = some (world', result))
    (on : enabledIn world userId) : agrees userId ⟨op, result⟩ := by
  cases op with
  | findTwoFactor query =>
    cases query with
    | enabled asked =>
      cases result with
      | error failure => trivial
      | ok found =>
        rintro rfl
        cases outcome with
        | done =>
          have answer := Except.ok.inj (congrArg Prod.snd (Option.some.inj responds))
          rw [← answer]
          exact on
        | made text => cases responds
        | fails failure => cases responds
    | pending asked => trivial
  | insertUser user =>
    cases result with
    | error failure => trivial
    | ok id =>
      obtain ⟨row, member, account, _⟩ := enabledIn_iff.mp on
      cases outcome with
      | made text =>
        obtain ⟨free, replied⟩ := respond_insert responds
        have given : id = text := by
          have answer := congrArg Prod.snd replied
          unfold AuthWorld.insertUser at answer
          split at answer
          next => cases answer
          next => exact (Except.ok.inj answer).symm
        rintro rfl
        have listed := known row member
        rw [account, given] at listed
        have absent : world.users.findOne text = none := by simpa using free
        exact Table.findOne_eq_none.mp absent listed
      | done => cases responds
      | fails failure => cases responds
  | _ => trivial

section Histories
variable {factors : Factors} {record : Record auth} {userId : String} {since : List (Record auth)}

theorem since_grow (now : (factors.grow record).since userId = some since) :
    ∃ before, factors.since userId = some before ∧ since = before ++ [record] := by
  obtain ⟨before, stood, rfl⟩ := Option.map_eq_some_iff.mp now
  exact ⟨before, stood, rfl⟩

theorem since_turnOn {account : String}
    (now : ((factors.grow record).turnOn account record).since userId = some since) :
    (∃ before, factors.since userId = some before ∧ since = before ++ [record]) ∨ since = [record] := by
  rw [Factors.turnOn_since] at now
  split at now
  next same =>
    subst same
    cases stood : factors.since userId with
    | none => exact Or.inr (by simpa [stood, eq_comm] using now)
    | some before => exact Or.inl ⟨before, rfl, by simpa [stood, eq_comm] using now⟩
  next => exact Or.inl (since_grow now)

/-- The histories: those from before with the answer, or a new one for an answer that turns
the second factor on. -/
theorem since_record (now : (factors.record record).since userId = some since) :
    (∃ before, factors.since userId = some before ∧ since = before ++ [record]) ∨
      (since = [record] ∧ agrees userId record.event) := by
  obtain ⟨index, call, event⟩ := record
  unfold Factors.record at now
  split at now
  next => exact Or.inl (since_grow now)
  next id verifiedAt enables =>
    have enables : event = ⟨.enableTwoFactor id verifiedAt, .ok true⟩ := enables
    subst enables
    split at now
    next => exact (since_turnOn now).imp_right fun new => ⟨new, trivial⟩
    next => exact Or.inl (since_grow now)
  next row answer stored =>
    have stored : event = ⟨.saveTwoFactor row, .ok answer⟩ := stored
    subst stored
    exact (since_turnOn now).imp_right fun new => ⟨new, trivial⟩
  next =>
    rw [Factors.turnOff_since] at now
    split at now
    next => cases now
    next => exact Or.inl (since_grow now)
  next => exact Or.inl (since_grow now)

end Histories

end Answers

variable {libraries : AuthLibraries}

theorem Gated.known_after {world world' : AuthWorld} {records : List (Record auth)} {index : Nat}
    {call : AuthCall} {past : List (Event auth)} {op : AuthOp} {outcome : AuthOutcome}
    {result : Except Exception op.Reply} (gated : Gated world records)
    (answers : ∀ event ∈ past, (⟨index, call, event⟩ : Record auth) ∈ records) (permitted : permits call past op)
    (responds : world.respond libraries op outcome = some (world', result)) :
    ∀ row ∈ world'.twoFactors.rows, row.userId ∈ userIds world := by
  intro row member
  by_cases silent : writesTwoFactors op = false
  · rw [((respond_frame responds).twoFactors silent).1] at member
    exact gated.known row member
  · cases outcome with
    | fails failure =>
      rw [(respond_fails responds).1] at member
      exact gated.known row member
    | done =>
      cases op with
      | saveTwoFactor saved =>
        cases responds
        obtain ⟨_, _, old, asked, _, _⟩ := permitted
        rcases Table.mem_save.mp member with rfl | ⟨stood, _⟩
        · exact gated.shown _ (answers _ asked) _ rfl
        · exact gated.known row stood
      | enableTwoFactor id verifiedAt =>
        cases responds
        obtain ⟨old, stood, rfl⟩ := List.mem_map.mp member
        split <;> exact gated.known old stood
      | disableTwoFactor userId =>
        cases responds
        obtain ⟨old, stood, rfl⟩ := List.mem_map.mp member
        split <;> exact gated.known old stood
      | deleteTwoFactor userId =>
        cases responds
        exact gated.known row (List.mem_filter.mp member).1
      | insertTwoFactor _ => cases responds
      | _ => exact absurd rfl silent
    | made id =>
      cases op with
      | insertTwoFactor inserted =>
        cases (respond_insert responds).2
        obtain ⟨_, user, asked⟩ := permitted
        rcases Table.mem_save.mp member with rfl | ⟨stood, _⟩
        · exact gated.shown _ (answers _ asked) _ rfl
        · exact gated.known row stood
      | saveTwoFactor _ | enableTwoFactor _ _ | disableTwoFactor _ | deleteTwoFactor _ =>
        cases responds
      | _ => exact absurd rfl silent

theorem Gated.answer {config : AuthConfig} {offers : AuthCall → Bool} :
    Preserves (conduct config.libraries) (authProcess config offers) Gated := by
  intro world records index call past op outcome world' result gated answers permitted responds
  have factored := factored_preserved config offers world records index call past op outcome world'
    result gated.factored answers permitted responds
  have kept : ∀ {id : String}, id ∈ userIds world → id ∈ userIds world' :=
    fun listed => respond_userIds responds listed
  refine ⟨factored, fun row member => kept (gated.known_after answers permitted responds row member),
    fun record member userId shown => ?_, fun userId since now => ?_,
    fun record member userId saved => ?_⟩
  · rcases List.mem_append.mp member with before | now
    · exact kept (gated.shown record before userId shown)
    · obtain rfl := List.mem_singleton.mp now
      exact kept (shown_of_responds gated.known responds shown)
  · rw [sinceEnabled, factorsOf_append] at now
    rcases since_record now with ⟨before, stood, rfl⟩ | ⟨rfl, agreed⟩
    · intro record member
      rcases List.mem_append.mp member with old | new
      · obtain ⟨logged, agreed⟩ := gated.agreed userId before stood record old
        exact ⟨List.mem_append_left _ logged, agreed⟩
      · obtain rfl := List.mem_singleton.mp new
        refine ⟨List.mem_append_right _ new, ?_⟩
        refine agrees_of_responds gated.known responds ((gated.factored.enabled userId).mp ?_)
        rw [sinceEnabled, stood]
        rfl
    · intro record member
      obtain rfl := List.mem_singleton.mp member
      exact ⟨List.mem_append_right _ member, agreed⟩
  · rcases List.mem_append.mp member with before | now
    · exact gated.saved record before userId saved
    · obtain rfl := List.mem_singleton.mp now
      cases op with
      | saveTwoFactor row =>
        cases result with
        | ok answer =>
          cases saved
          exact permitted.2.1
        | error failure => cases saved
      | _ => cases saved

theorem gated_initial {world : AuthWorld} (unused : world.twoFactors.rows = []) : Gated world [] where
  factored := factored_initial unused
  known row member := by
    rw [unused] at member
    cases member
  shown _ member := by cases member
  agreed _ _ none := by cases none
  saved _ member := by cases member

theorem gated_always {config : AuthConfig} {offers : AuthCall → Bool} {world : AuthWorld}
    {mem : AuthMemory} (unused : world.twoFactors.rows = [])
    {labels : List (Label (authProcess config offers))} {c : Config (authProcess config offers)}
    (ran : run labels (Config.initial (authProcess config offers) world mem) = some c) : Gated c.world (history c) :=
  history_invariant (conduct_conforms config offers) Gated
    (fun _ mem ms _ gated => ⟨gated.factored.passed mem ms, gated.known, gated.shown,
      gated.agreed, gated.saved⟩)
    Gated.answer (gated_initial unused) ran

/-- The access token of a pair that register, login, refreshToken or verifyTwoFactorLogin has
returned. -/
def pairToken : AuthValue → Option AccessToken
  | .session session => some session.tokens.accessToken
  | .tokens tokens => some tokens.accessToken
  | _ => none

section Requests
variable {config : AuthConfig} {offers : AuthCall → Bool}

/-- The token was issued by a verifyTwoFactorLogin of the account that succeeded after its
two-factor was enabled. -/
def VerifiedSince (c : Config (authProcess config offers)) (userId : String)
    (token : AccessToken) : Prop :=
  ∃ i task dto clientInfo tokens row since, c.pool[i]? = some task ∧
    task.call = .verifyTwoFactorLogin userId dto clientInfo ∧
    task.result = some (.ok (.tokens tokens)) ∧ tokens.accessToken = token ∧
    sinceEnabled (history c) userId = some since ∧
    ⟨i, task.call, ⟨.saveTwoFactor row, .ok ()⟩⟩ ∈ since

/-- The answer that decided the two-factor claim of a token of the account: the account was
created, its two-factor state was read, or a code of it was accepted. -/
def Decides (userId : String) (token : AccessToken) : Event auth → Prop
  | ⟨.insertUser _, .ok id⟩ => id = userId ∧ token.twoFactorVerified = some true
  | ⟨.findTwoFactor (.enabled asked), .ok found⟩ =>
    asked = userId ∧ token.twoFactorVerified = some (! found.isSome)
  | ⟨.saveTwoFactor row, .ok _⟩ => row.userId = userId ∧ token.twoFactorVerified = some true
  | _ => False

/-- The token was issued by a call whose decision about it came after two-factor was
enabled. -/
def DecidedSince (c : Config (authProcess config offers)) (userId : String)
    (token : AccessToken) : Prop :=
  token.sub = some userId ∧ ∃ i task value event since, c.pool[i]? = some task ∧
    task.result = some (.ok value) ∧ pairToken value = some token ∧
    sinceEnabled (history c) userId = some since ∧ ⟨i, task.call, event⟩ ∈ since ∧
    Decides userId token event

/-- Of the methods that check codes, only verifyTwoFactorLogin returns a pair. -/
theorem verifies_of_checked {call : AuthCall} {past : List (Event auth)} {value : AuthValue}
    {token : AccessToken} (account : checkedAccount call = some userId)
    (rests : vouches libraries call past value) (issued : pairToken value = some token) :
    ∃ dto clientInfo tokens, call = .verifyTwoFactorLogin userId dto clientInfo ∧
      value = .tokens tokens ∧ tokens.accessToken = token := by
  cases call with
  | verifyTwoFactorLogin asked dto clientInfo =>
    cases account
    cases value with
    | tokens tokens => exact ⟨dto, clientInfo, tokens, rfl, rfl, Option.some.inj issued⟩
    | session session => cases rests
    | _ => cases issued
  | verifyWalletTwoFactorAndIssueToken asked dto =>
    cases value with
    | tokens _ | session _ => cases rests
    | _ => cases issued
  | regenerateBackupCodes asked password =>
    cases value with
    | tokens _ | session _ => cases rests
    | _ => cases issued
  | _ => cases account

/-- The second factor of an account with two-factor enabled, for a token that claims it. -/
theorem verifiedSince_iff {world : AuthWorld} {mem : AuthMemory}
    {labels : List (Label (authProcess config offers))} {c : Config (authProcess config offers)}
    (ran : run labels (Config.initial (authProcess config offers) world mem) = some c)
    (gated : Gated c.world (history c)) {token : AccessToken} (claims : token.twoFactorVerified = some true) :
    VerifiedSince c userId token ↔ DecidedSince c userId token := by
  have conforms := conduct_conforms config offers
  constructor
  · rintro ⟨i, task, dto, clientInfo, tokens, row, since, found, called, returned, same, now, member⟩
    have rests := vouched conforms ran found returned
    rw [called] at rests
    obtain ⟨_, sub, _⟩ := rests
    have logged := (gated.agreed userId since now _ member).1
    have account := gated.saved _ logged row.userId rfl
    simp only [called, checkedAccount, Option.some.injEq] at account
    exact ⟨same ▸ sub, i, task, .tokens tokens, _, since, found, returned, congrArg some same, now,
      member, account.symm, claims⟩
  · rintro ⟨sub, i, task, value, event, since, found, returned, issued, now, member, decides⟩
    obtain ⟨logged, agreed⟩ := gated.agreed userId since now _ member
    unfold Decides at decides
    split at decides
    next user id => exact absurd decides.1 agreed
    next asked answer =>
      have isSome := agreed decides.1
      rw [claims, isSome] at decides
      cases decides.2
    next row answer =>
      have account := gated.saved _ logged row.userId rfl
      rw [decides.1] at account
      obtain ⟨dto, clientInfo, tokens, called, rfl, same⟩ :=
        verifies_of_checked account (vouched conforms ran found returned) issued
      exact ⟨i, task, dto, clientInfo, tokens, row, since, found, called, returned, same, now, member⟩
    next => exact decides.elim

theorem enabledIn_of_found {world world' : AuthWorld} {outcome : AuthOutcome} {row : TwoFactorAuth}
    (responds : world.respond libraries (.findTwoFactor (.enabled userId)) outcome = some (world', .ok (some row))) :
    enabledIn world userId := by
  have selected := respond_possible responds
  simp only [possible, TwoFactorQuery.selects, Bool.and_eq_true, decide_eq_true_eq] at selected
  exact enabledIn_iff.mpr ⟨row, respond_findTwoFactor responds, selected⟩

/-- A request of an admin that the guard has let pass asked whether the account has
two-factor enabled in some state of the run; it had, and the token was issued by a
verifyTwoFactorLogin that succeeded since if and only if its two-factor claim was decided
since. -/
theorem admin_gate_iff (config : AuthConfig) (offers : AuthCall → Bool) (world : AuthWorld)
    (mem : AuthMemory) (unused : world.twoFactors.rows = [])
    (labels : List (Label (authProcess config offers))) (after : Config (authProcess config offers))
    (ran : run labels (Config.initial (authProcess config offers) world mem) = some after)
    (i : Nat) (task : Task auth) (token : AccessToken) (found : after.pool[i]? = some task)
    (request : task.call = .adminRequest token) (admin : token.role = .admin)
    (passed : task.result = some (.ok .allowed)) : ∃ c userId row, HolderOf token userId task.past ∧
      AnsweredAt labels (Config.initial (authProcess config offers) world mem) i
        ⟨.findTwoFactor (.enabled userId), .ok (some row)⟩ c ∧
      enabledIn c.world userId ∧ (VerifiedSince c userId token ↔ DecidedSince c userId token) := by
  have conforms := conduct_conforms config offers
  have rests := vouched conforms ran found passed
  rw [request] at rests
  obtain ⟨claims, userId, row, asked, holder⟩ := rests admin
  obtain ⟨c, at_c⟩ := answered_of_past conforms ran found asked
  refine ⟨c, userId, row, holder, at_c, ?_⟩
  obtain ⟨_, _, _, _, reached, gives⟩ := at_c
  obtain ⟨_, responds⟩ := responds_of_answered gives
  exact ⟨enabledIn_of_found responds, verifiedSince_iff reached (gated_always unused reached) claims⟩

end Requests

abbrev adminStart : Config (authProcess sampleConfig fun _ => true) :=
  Config.initial _ sampleAuthWorld sampleAuthMemory

/-- The claims of the sample admin's tokens. -/
def adminToken : AccessToken :=
  EnhancedAuthService.accessToken { sampleAdmin with lastLoginAt := some 1000000 } true 1000000

/-- The admin logs in without a second factor. -/
def passwordRun : List (Label (authProcess sampleConfig fun _ => true)) :=
  [.call (.login "ada@alian.example" "correct horse" "203.0.113.7" none),
    .reply 0 AuthOutcome.done, .reply 0 AuthOutcome.done, .resume 0, .reply 0 AuthOutcome.done,
    .reply 0 AuthOutcome.done, .resume 0, .reply 0 (AuthOutcome.made "t1")]

/-- Two-factor is on, and a code is checked. -/
def codeRun : List (Label (authProcess sampleConfig fun _ => true)) :=
  [.call (.verifyTwoFactorLogin "u1" ⟨some "123456", none⟩ ⟨none, none⟩),
    .reply 3 AuthOutcome.done, .resume 3, .reply 3 AuthOutcome.done, .reply 3 AuthOutcome.done,
    .resume 3, .reply 3 (AuthOutcome.made "t2")]

/-- A request with the token of the password login, as call `i`. -/
def requestRun (i : Nat) : List (Label (authProcess sampleConfig fun _ => true)) :=
  [.call (.adminRequest adminToken), .resume i, .reply i AuthOutcome.done]

theorem admin_gate_iff_verified :
    ∃ after task, run (passwordRun ++ enablingRun 1 ++ codeRun ++ requestRun 4) adminStart =
        some after ∧ after.pool[4]? = some task ∧ ∃ c userId row, HolderOf adminToken userId task.past ∧
        AnsweredAt (passwordRun ++ enablingRun 1 ++ codeRun ++ requestRun 4) adminStart 4
          ⟨.findTwoFactor (.enabled userId), .ok (some row)⟩ c ∧ enabledIn c.world userId ∧
        (VerifiedSince c userId adminToken ↔ DecidedSince c userId adminToken) :=
  ⟨_, _, rfl, rfl, admin_gate_iff sampleConfig (fun _ => true) sampleAuthWorld sampleAuthMemory rfl
    (passwordRun ++ enablingRun 1 ++ codeRun ++ requestRun 4) _ rfl 4 _ adminToken rfl rfl rfl rfl⟩

/-- A token of a login from before two-factor was enabled passes the guard. -/
theorem earlier_token_passes : ∃ after task c userId row,
      run (passwordRun ++ enablingRun 1 ++ requestRun 3) adminStart = some after ∧
      after.pool[3]? = some task ∧ task.call = .adminRequest adminToken ∧
      adminToken.role = .admin ∧ task.result = some (.ok .allowed) ∧
      AnsweredAt (passwordRun ++ enablingRun 1 ++ requestRun 3) adminStart 3
        ⟨.findTwoFactor (.enabled userId), .ok (some row)⟩ c ∧
      enabledIn c.world userId ∧ ¬ VerifiedSince c userId adminToken := by
  refine ⟨_, _, _, _, _, rfl, rfl, rfl, rfl, rfl,
    ⟨passwordRun ++ enablingRun 1 ++ [.call (.adminRequest adminToken), .resume 3],
      AuthOutcome.done, _, rfl, rfl, rfl⟩, ?_, ?_⟩
  · rfl
  · rintro ⟨i, task, dto, clientInfo, tokens, row, since, found, called, _⟩
    rcases i with _ | _ | _ | _ | i
    · cases found; cases called
    · cases found; cases called
    · cases found; cases called
    · cases found; cases called
    · cases found

end AlianStructure.Guarantees.AdminGate
