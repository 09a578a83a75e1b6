import AlianStructure.Guarantees.AuthCalls
import AlianStructure.Library.MemoryReadings
import AlianStructure.Source.Auth.SessionRecoveryService

/-!
# What a consumed challenge proves

Source: challenge.service.ts:17-62, wallet-auth.service.ts:68-96,247-271, wallet.strategy.ts:51-90 and
session-recovery.service.ts:304-377.
A message names a challenge by what follows the prefix in it. No flow compares the message with the one of
the challenge, and only the logins compare the address for which the challenge was issued.
-/
namespace AlianStructure.Guarantees.ChallengeBinding
open Library.Interleaving Library.KeyedTable Library.MemoryReadings
open Source Source.Auth AuthCalls

/-- A non-empty text on a single line, as the hexadecimal ids are. -/
def SingleLine (line : String) : Prop :=
  line.toList ≠ [] ∧ line.toList.any ChallengeService.isLineTerminator = false

instance (line : String) : Decidable (SingleLine line) := inferInstanceAs (Decidable (_ ∧ _))

/-- The message of a challenge. -/
def messageOf (id : String) : String := String.ofList ChallengeService.challengePrefix ++ id

/-- Nothing stands before the prefix and the id. -/
def WholeMessage (message : String) : Prop := ∃ line, SingleLine line ∧ message = messageOf line

variable {α : Type}

theorem isPrefixOf?_eq [DecidableEq α] (pre line : List α) : pre.isPrefixOf? (pre ++ line) = some line := by
  induction pre with
  | nil => rfl
  | cons a pre ih => simp [List.isPrefixOf?, ih]

theorem singleLine_of_extract {message id : String} (named : ChallengeService.extractChallengeId message = some id) :
    SingleLine id := by
  have search : ∀ text, ChallengeService.extractFrom text = some id → SingleLine id := by
    intro text
    induction text with
    | nil => intro found; cases found
    | cons c rest ih =>
      intro found
      unfold ChallengeService.extractFrom at found
      split at found
      next d line _ =>
        split at found
        next => exact ih found
        next single =>
          cases found
          exact ⟨by simp, by simpa using single⟩
      next => exact ih found
  exact search message.toList named

theorem challengePrefix_cons : ∃ c rest, ChallengeService.challengePrefix = c :: rest := ⟨'S', _, rfl⟩

theorem extract_messageOf {line : String} (single : SingleLine line) :
    ChallengeService.extractChallengeId (messageOf line) = some line := by
  obtain ⟨c, rest, prefixed⟩ := challengePrefix_cons
  obtain ⟨d, chars, isLine⟩ := List.exists_cons_of_ne_nil single.1
  have found := isPrefixOf?_eq ChallengeService.challengePrefix line.toList
  unfold ChallengeService.extractChallengeId messageOf
  rw [String.toList_append, String.toList_ofList]
  rw [prefixed, List.cons_append] at found ⊢
  unfold ChallengeService.extractFrom
  rw [prefixed, found, isLine]
  dsimp only
  rw [← isLine, single.2, isLine]
  exact congrArg some (by rw [← isLine]; exact String.ofList_toList)

/-- A message is the one of the challenge that it names exactly when it is whole. -/
theorem named_message {message id : String} (named : ChallengeService.extractChallengeId message = some id) :
    message = messageOf id ↔ WholeMessage message := by
  constructor
  · exact fun same => ⟨id, singleLine_of_extract named, same⟩
  · rintro ⟨line, single, rfl⟩
    rw [extract_messageOf single] at named
    rw [Option.some.inj named]

/-- The message and the signature of a flow that consumes a challenge. -/
def presented : AuthCall ⊕ RecoveryCall → Option (String × String)
  | .inl (.verifySignatureAndIssueToken message signature) => some (message, signature)
  | .inl (.linkWallet _ _ message signature _ _ _) => some (message, signature)
  | .inr (.completeRecovery _ message signature) => some (message, signature)
  | .inr (.authenticate message signature) => some (message, signature)
  | _ => none

/-- The calls that issue or consume challenges. -/
def offers : AuthCall ⊕ RecoveryCall → Bool
  | .inl (.issueChallengeForAddress _) => true
  | .inl (.verifySignatureAndIssueToken _ _) => true
  | .inl (.linkWallet ..) => true
  | .inl _ => false
  | .inr _ => true

/-- The wallet of the session that a recovery completes. -/
def recoveredWallet (past : List (Event recovery)) : Option RecoveryWallet :=
  past.findSome? fun
    | ⟨.inr (.findWallet _), .ok row⟩ => row
    | _ => none

/-- The address with which a flow compares the signer's. -/
def comparedAddress (call : AuthCall ⊕ RecoveryCall) (past : List (Event recovery)) (challenge : Challenge) : String :=
  match call with
  | .inl (.linkWallet _ newWalletAddress ..) => toLowerCase newWalletAddress
  | .inr (.completeRecovery ..) =>
    ((recoveredWallet past).map fun row => toLowerCase row.wallet.address).getD challenge.address
  | _ => challenge.address

/-- The message names a pending challenge, and the signature is one of the message. -/
structure Names (libraries : AuthLibraries) (memory : AuthMemory) (message signature : String) (challenge : Challenge)
    (recovered : String) : Prop where
  named : ChallengeService.extractChallengeId message = some challenge.id
  pending : memory.challenges.findOne challenge.id = some challenge
  unexpired : memory.now ≤ challenge.expiresAt
  signed : libraries.verifyMessage message signature = .ok recovered

/-- The message is in full the one of a pending challenge that was issued for the signer. -/
def Bound (libraries : AuthLibraries) (memory : AuthMemory) (message signature : String) : Prop :=
  ∃ challenge ∈ memory.challenges.rows, memory.now ≤ challenge.expiresAt ∧ message = challenge.message ∧
    (libraries.verifyMessage message signature).map toLowerCase = .ok challenge.address

/-- Stored challenges have the message that was issued. -/
structure Formed (memory : AuthMemory) : Prop where
  random : ∀ n, SingleLine (memory.random n)
  stored : ∀ challenge ∈ memory.challenges.rows,
    challenge.message = messageOf challenge.id ∧ SingleLine challenge.id

/-- What a flow compares about a challenge, before it does what is asked. -/
def Accepts (libraries : AuthLibraries) (message signature : String) (compared : Challenge → String)
    (memory : AuthMemory) : Prop :=
  ∃ challenge recovered, Names libraries memory message signature challenge recovered ∧
    toLowerCase recovered = compared challenge

/-- What a call of the process has to read. -/
def Good (libraries : AuthLibraries) (call : AuthCall ⊕ RecoveryCall) : Reading recovery := fun past memory =>
  ∀ message signature, presented call = some (message, signature) →
    Accepts libraries message signature (comparedAddress call past) memory.1

variable {libraries : AuthLibraries}

/-- The exact condition: of a flow that has accepted a message, the message was bound exactly when it is whole and its
challenge was issued for the address that the flow compares. -/
theorem bound_iff {memory : AuthMemory} {message signature recovered : String} {challenge : Challenge}
    {compared : String} (formed : Formed memory)
    (names : Names libraries memory message signature challenge recovered)
    (accepted : toLowerCase recovered = compared) :
    Bound libraries memory message signature ↔ WholeMessage message ∧ challenge.address = compared := by
  have member := Table.findOne_mem names.pending
  have same : message = challenge.message ↔ WholeMessage message := by
    rw [(formed.stored challenge member).1]
    exact named_message names.named
  unfold Bound
  rw [names.signed]
  constructor
  · rintro ⟨other, stored, valid, whole, issued⟩
    have named := names.named
    rw [whole, (formed.stored other stored).1, extract_messageOf (formed.stored other stored).2] at named
    have isOther : other = challenge := Table.eq_of_key_eq stored member (Option.some.inj named)
    subst isOther
    exact ⟨same.mp whole, (Except.ok.inj issued).symm.trans accepted⟩
  · rintro ⟨whole, issued⟩
    exact ⟨challenge, member, names.unexpired, same.mpr whole, congrArg Except.ok (accepted.trans issued.symm)⟩

section Methods
variable {libraries : AuthLibraries} {seen : Prop} {past : List (Event auth)} {good : AuthMemory → Prop}

theorem Formed.consumed {memory : AuthMemory} (formed : Formed memory) (condition : Challenge → Bool) :
    Formed { memory with challenges := memory.challenges.delete condition } :=
  ⟨formed.random, fun challenge kept => formed.stored challenge (List.mem_filter.mp kept).1⟩

theorem draw_sees : Sees (R := auth) Formed (fun _ _ => seen) past draw fun _ id => seen ∧ SingleLine id := by
  refine sees_memory_then fun memory formed sees => ?_
  refine sees_update_then (fun _ kept => ⟨kept.random, kept.stored⟩) ?_
  exact sees_pure ⟨sees, formed.random _⟩

theorem Formed.issued {memory : AuthMemory} (formed : Formed memory) {id : String} (single : SingleLine id)
    (createdAt expiresAt : Nat) (address : String) : Formed { memory with
      challenges := memory.challenges.save ⟨id, messageOf id, createdAt, expiresAt, address⟩ } := by
  refine ⟨formed.random, fun challenge stored => ?_⟩
  rcases Table.mem_save.mp stored with rfl | ⟨old, _⟩
  · exact ⟨rfl, single⟩
  · exact formed.stored challenge old

theorem issueChallengeForAddress_sees (address : String) :
    Sees (R := auth) Formed (fun _ _ => seen) past (ChallengeService.issueChallengeForAddress address)
      fun _ _ => seen := by
  unfold ChallengeService.issueChallengeForAddress
  refine sees_bind draw_sees fun past' id ⟨sees, single⟩ => ?_
  exact sees_memory_then fun _ _ _ => sees_update_then (fun _ kept => kept.issued single _ _ _) (sees_pure sees)

theorem consumeChallenge_sees (id : String) :
    Sees (R := auth) Formed (fun _ memory => good memory → seen) past (ChallengeService.consumeChallenge id)
      fun _ found => ∃ memory, (good memory → seen) ∧ ∀ challenge, found = some challenge →
        memory.challenges.findOne id = some challenge ∧ memory.now ≤ challenge.expiresAt := by
  refine sees_memory_then fun memory _ sees => ?_
  refine sees_update_then (fun _ kept => kept.consumed _) (sees_pure ⟨memory, sees, fun challenge found => ?_⟩)
  obtain ⟨pending, valid⟩ := Option.filter_eq_some_iff.mp found
  exact ⟨pending, of_decide_eq_true valid⟩

theorem recoverSigner_sees (message signature : String) :
    Sees (R := auth) Formed (fun _ memory => good memory → seen) past
      (WalletAuthService.recoverSigner libraries message signature) fun _ signer =>
        ∃ memory, (good memory → seen) ∧ Names libraries memory message signature signer.1 signer.2 := by
  unfold WalletAuthService.recoverSigner
  split
  next => exact sees_throw
  next id named =>
    refine sees_bind (consumeChallenge_sees id) ?_
    rintro past' consumed ⟨memory, sees, found⟩
    cases consumed with
    | none => exact sees_throw
    | some challenge =>
      dsimp only
      split
      next => exact sees_throw
      next recovered signed =>
        obtain ⟨pending, valid⟩ := found challenge rfl
        have isId : challenge.id = id := Table.findOne_key pending
        subst isId
        exact sees_pure ⟨memory, sees, named, pending, valid, signed⟩

/-! ### The logins and linked wallets -/

/-- Once a good memory has been read, a method that leaves the challenges alone changes nothing. -/
theorem issueForWallet_sees (sees : seen) (normalized : String) :
    Sees (R := auth) Formed (fun _ memory => good memory → seen) past (WalletAuthService.issueForWallet normalized)
      fun _ _ => seen := by
  unfold WalletAuthService.issueForWallet
  refine sees_ask_then fun found => ?_
  match found with
  | none => exact sees_throw
  | some (wallet, user) =>
    dsimp only
    split
    next => exact sees_throw
    next => exact sees_memory_then fun _ _ _ => sees_ask_then fun _ => sees_pure sees

theorem verifySignatureAndIssueToken_sees (message signature : String) :
    Sees (R := auth) Formed (fun _ memory => Accepts libraries message signature Challenge.address memory → seen) past
      (WalletAuthService.verifySignatureAndIssueToken libraries message signature) fun _ _ => seen := by
  unfold WalletAuthService.verifySignatureAndIssueToken
  refine sees_tryCatch ?_ fun _ _ => sees_attempt_then fun _ => sees_throw
  refine sees_bind (recoverSigner_sees message signature) ?_
  rintro past' ⟨challenge, recovered⟩ ⟨memory, sees, names⟩
  dsimp only
  split
  next => exact sees_throw
  next same => exact issueForWallet_sees (sees ⟨challenge, recovered, names, not_not.mp same⟩) _

theorem authenticate_sees (message signature : String) :
    Sees (R := auth) Formed (fun _ memory => Accepts libraries message signature Challenge.address memory → seen) past
      (WalletStrategy.authenticate libraries message signature) fun _ _ => seen := by
  unfold WalletStrategy.authenticate
  split
  next => exact sees_throw
  next =>
    refine sees_bind (recoverSigner_sees message signature) ?_
    rintro past' ⟨challenge, recovered⟩ ⟨memory, sees, names⟩
    dsimp only
    split
    next => exact sees_throw
    next same =>
      refine sees_ask_then fun found => sees_memory_then fun _ _ _ => sees_pure ?_
      exact sees ⟨challenge, recovered, names, not_not.mp same⟩

theorem announceWallet_sees (currentUserId : String) :
    Sees (R := auth) Formed (fun _ memory => good memory → seen) past
      (WalletAuthService.announceWallet currentUserId) fun _ _ => True := by
  unfold WalletAuthService.announceWallet
  refine sees_ask_then fun user => ?_
  split
  next => exact sees_attempt_then fun _ => sees_attempt_then fun _ => sees_pure trivial
  next => exact sees_attempt_then fun _ => sees_pure trivial

theorem addWallet_sees (sees : seen) (currentUserId normalizedNew message signature : String)
    (walletName : Option String) (permissions : Option (List String)) (clientInfo : ClientInfo) (existing : Nat) :
    Sees (R := auth) Formed (fun _ memory => good memory → seen) past
      (WalletAuthService.addWallet currentUserId normalizedNew message signature walletName permissions clientInfo
        existing) fun _ _ => seen := by
  unfold WalletAuthService.addWallet
  refine sees_memory_then fun _ _ _ => sees_ask_then fun walletId => ?_
  have finished : ∀ (past' : List (Event auth)) (linked : LinkedWallet),
      Sees (R := auth) Formed (fun _ memory => good memory → seen) past' (do
        WalletAuthService.announceWallet currentUserId
        pure linked) fun _ _ => seen :=
    fun past' linked => sees_bind (announceWallet_sees currentUserId) fun _ _ _ => sees_pure sees
  dsimp only
  split
  next => exact sees_ask_then fun _ => finished _ _
  next => exact finished _ _

theorem linkWallet_sees (maxWallets : Nat) (currentUserId newWalletAddress message signature : String)
    (walletName : Option String) (permissions : Option (List String)) (clientInfo : ClientInfo) :
    Sees (R := auth) Formed
      (fun _ memory => Accepts libraries message signature (fun _ => toLowerCase newWalletAddress) memory → seen) past
      (WalletAuthService.linkWallet libraries maxWallets currentUserId newWalletAddress message signature walletName
        permissions clientInfo) fun _ _ => seen := by
  unfold WalletAuthService.linkWallet
  refine sees_bind (recoverSigner_sees message signature) ?_
  rintro past' ⟨challenge, recovered⟩ ⟨memory, sees, names⟩
  dsimp only
  split
  next => exact sees_throw
  next same =>
    refine sees_ask_then fun existingWallet => ?_
    cases existingWallet with
    | some wallet =>
      dsimp only
      split
      next => exact sees_throw
      next => exact sees_throw
    | none =>
      refine sees_ask_then fun existingWallets => ?_
      split
      next => exact sees_throw
      next => exact addWallet_sees (sees ⟨challenge, recovered, names, not_not.mp same⟩) _ _ _ _ _ _ _ _

end Methods

/-! ### Session recovery -/

section Recovery
variable {libraries : AuthLibraries} {seen : Prop} {past : List (Event recovery)} {read : Reading recovery}

abbrev FormedBoth (memory : recovery.Mem) : Prop := Formed memory.1

theorem ofAuth_sees {program : AuthM α} (read : AuthMemory → Prop)
    (sees : Sees (R := auth) Formed (fun _ => read) [] program fun _ _ => seen) :
    Sees (R := recovery) FormedBoth (fun _ memory => read memory.1) past (ofAuth program) fun _ _ => seen :=
  sees_narrower (R := auth) read sees

theorem clock_then {next : Nat → RecoveryM α} {ends : List (Event recovery) → α → Prop}
    (rest : ∀ now, Sees (R := recovery) FormedBoth read past (next now) ends) :
    Sees (R := recovery) FormedBoth read past (ofAuth clock >>= next) ends :=
  fun _ _ _ => rest _

theorem changeSessions_then {next : Unit → RecoveryM α} {ends : List (Event recovery) → α → Prop}
    {change : Table RecoverySession RecoverySession.id → Table RecoverySession RecoverySession.id}
    (rest : Sees (R := recovery) FormedBoth read past (next ()) ends) :
    Sees (R := recovery) FormedBoth read past (changeSessions change >>= next) ends :=
  sees_update_then (R := recovery) (fun _ formed => formed) rest

theorem getValidSession_sees (sessionId : String) :
    Sees (R := recovery) FormedBoth read past (SessionRecoveryService.getValidSession sessionId)
      fun past' _ => past' = past ∧ ∃ memory, read past memory := by
  refine sees_memory_then fun memory _ reads => ?_
  split
  next => exact sees_pure ⟨rfl, memory, reads⟩
  next =>
    split
    next => exact changeSessions_then (sees_pure ⟨rfl, memory, reads⟩)
    next => exact sees_pure ⟨rfl, memory, reads⟩

theorem generateSessionId_sees :
    Sees (R := recovery) FormedBoth (fun _ _ => seen) past SessionRecoveryService.generateSessionId fun _ _ => seen :=
  ofAuth_sees (fun _ => seen) (decides_mono (fun _ _ drawn value returned => (drawn value returned).1) draw_sees)

theorem generateVerificationCode_sees :
    Sees (R := recovery) FormedBoth read past SessionRecoveryService.generateVerificationCode fun _ _ => True :=
  sees_memory_then fun _ _ _ => sees_update_then (R := recovery) (fun _ formed => formed) (sees_pure trivial)

theorem issued_sees (address : String) :
    Sees (R := recovery) FormedBoth (fun _ _ => seen) past (ofAuth (ChallengeService.issueChallengeForAddress address))
      fun _ _ => seen :=
  ofAuth_sees (fun _ => seen) (issueChallengeForAddress_sees address)

theorem initiateBackupCodeRecovery_sees (walletAddress backupCode : String) :
    Sees (R := recovery) FormedBoth (fun _ _ => seen) past
      (SessionRecoveryService.initiateBackupCodeRecovery libraries walletAddress backupCode) fun _ _ => seen := by
  unfold SessionRecoveryService.initiateBackupCodeRecovery
  refine sees_ask_then fun found => ?_
  cases found with
  | none => exact sees_throw
  | some row =>
    dsimp only
    split
    next => exact sees_throw
    next =>
      split
      next => exact sees_ask_then fun _ => sees_throw
      next =>
        refine sees_ask_then fun _ => sees_bind generateSessionId_sees fun _ _ sees => ?_
        refine clock_then fun now => changeSessions_then (sees_bind (issued_sees _) fun _ _ _ => ?_)
        exact sees_ask_then fun _ => sees_pure sees

theorem initiateEmailRecovery_sees (email : String) :
    Sees (R := recovery) FormedBoth (fun _ _ => seen) past (SessionRecoveryService.initiateEmailRecovery email)
      fun _ _ => seen := by
  unfold SessionRecoveryService.initiateEmailRecovery
  refine sees_ask_then fun found => ?_
  cases found with
  | none => exact sees_throw
  | some user =>
    refine sees_ask_then fun primary => ?_
    cases primary with
    | none => exact sees_throw
    | some row =>
      refine sees_bind generateSessionId_sees fun _ _ sees => sees_bind generateVerificationCode_sees fun _ _ _ => ?_
      refine clock_then fun now => changeSessions_then ?_
      exact sees_ask_then fun _ => sees_pure sees

theorem verifyEmailRecoveryCode_sees (sessionId code : String) :
    Sees (R := recovery) FormedBoth (fun _ _ => seen) past
      (SessionRecoveryService.verifyEmailRecoveryCode sessionId code) fun _ _ => seen := by
  unfold SessionRecoveryService.verifyEmailRecoveryCode
  refine sees_bind (getValidSession_sees sessionId) ?_
  rintro past' found ⟨rfl, _, sees⟩
  cases found with
  | none => exact sees_throw
  | some session =>
    dsimp only
    split
    next => exact sees_throw
    next =>
      split
      next => exact changeSessions_then sees_throw
      next =>
        refine changeSessions_then (sees_ask_then fun _ => ?_)
        split
        next => exact sees_ask_then fun _ => sees_throw
        next =>
          refine changeSessions_then (sees_ask_then fun wallet => ?_)
          cases wallet with
          | none => exact sees_throw
          | some row =>
            exact sees_bind (issued_sees _) fun _ _ _ => sees_ask_then fun _ => sees_pure sees

theorem cancelRecovery_sees (sessionId : String) :
    Sees (R := recovery) FormedBoth (fun _ _ => seen) past (SessionRecoveryService.cancelRecovery sessionId)
      fun _ _ => seen :=
  fun _ formed sees => ⟨formed, fun _ _ => sees⟩

theorem issueToken_sees (sees : seen) (sessionId : String) (row : RecoveryWallet) :
    Sees (R := recovery) FormedBoth read past (SessionRecoveryService.issueToken sessionId row) fun _ _ => seen := by
  unfold SessionRecoveryService.issueToken
  split
  next => exact sees_throw
  next => exact clock_then fun now => sees_ask_then fun _ => changeSessions_then (sees_pure sees)

theorem consumed_sees (id : String) :
    Sees (R := recovery) FormedBoth read past (ofAuth (ChallengeService.consumeChallenge id))
      fun past' found => past' = past ∧ ∃ memory : recovery.Mem, read past memory ∧ ∀ challenge, found = some challenge →
        memory.1.challenges.findOne id = some challenge ∧ memory.1.now ≤ challenge.expiresAt := by
  refine fun memory formed reads between kept _ final whole _ => ⟨kept.consumed _, ?_⟩
  rintro found returned
  cases returned
  refine ⟨rfl, memory, reads, fun challenge found => ?_⟩
  obtain ⟨pending, valid⟩ := Option.filter_eq_some_iff.mp found
  exact ⟨pending, of_decide_eq_true valid⟩

theorem completeRecovery_sees (sessionId message signature : String) :
    Sees (R := recovery) FormedBoth
      (fun past memory => Good libraries (.inr (.completeRecovery sessionId message signature)) past memory → seen) []
      (SessionRecoveryService.completeRecovery libraries sessionId message signature) fun _ _ => seen := by
  unfold SessionRecoveryService.completeRecovery
  refine sees_bind (getValidSession_sees sessionId) ?_
  rintro past' found ⟨rfl, _⟩
  cases found with
  | none => exact sees_throw
  | some session =>
    dsimp only
    split
    next => exact sees_throw
    next =>
      refine sees_ask_then fun wallet => ?_
      cases wallet with
      | none => exact sees_throw
      | some row =>
        refine sees_ask_then fun _ => ?_
        dsimp only
        split
        next => exact sees_throw
        next recovered signed =>
          split
          next => exact sees_throw
          next same =>
            split
            next => exact sees_throw
            next id named =>
              refine sees_bind (consumed_sees id) ?_
              rintro past' consumed ⟨rfl, memory, sees, found⟩
              cases consumed with
              | none => exact sees_throw
              | some challenge =>
                obtain ⟨pending, valid⟩ := found challenge rfl
                have isId : challenge.id = id := Table.findOne_key pending
                subst isId
                refine issueToken_sees (sees ?_) sessionId row
                rintro _ _ presents
                cases presents
                exact ⟨challenge, recovered, ⟨named, pending, valid, signed⟩, not_not.mp same⟩

end Recovery

section Runs
variable {config : AuthConfig} {call : AuthCall ⊕ RecoveryCall} {seen : Prop}

theorem returned_sees {program : RecoveryM α} {read : Reading recovery} {value : α → AuthValue ⊕ RecoveryValue}
    (sees : Sees (R := recovery) FormedBoth read [] program fun _ _ => seen) :
    Sees (R := recovery) FormedBoth read [] (do
      let result ← program
      pure (value result)) fun _ _ => seen := sees_bind sees fun _ _ here => sees_pure here

theorem ofAuth_returned {program : AuthM α} {value : α → AuthValue} (read : AuthMemory → Prop)
    (sees : Sees (R := auth) Formed (fun _ => read) [] program fun _ _ => seen) :
    Sees (R := recovery) FormedBoth (fun _ memory => read memory.1) [] (do
      let result ← ofAuth (returning value program)
      pure (Sum.inl result : AuthValue ⊕ RecoveryValue)) fun _ _ => seen :=
  returned_sees (ofAuth_sees _ (sees_bind sees fun _ _ here => sees_pure here))

/-- A call that consumes no challenge has nothing to wait for. -/
theorem good_free (nothing : presented call = none) :
    (fun past memory => Good libraries call past memory → seen) = fun _ _ => seen :=
  funext₂ fun _ _ => propext ⟨fun sees => sees fun _ _ presents => (nomatch nothing.symm.trans presents), fun sees _ => sees⟩

theorem good_accepts {message signature : String} (compared : Challenge → String)
    (presents : presented call = some (message, signature)) (same : ∀ past, comparedAddress call past = compared) :
    Good libraries call = fun _ memory => Accepts libraries message signature compared memory.1 := by
  refine funext₂ fun past memory => propext ⟨fun good => ?_, fun accepts _ _ presents' => ?_⟩
  · rw [← same past]
    exact good message signature presents
  · rw [presents] at presents'
    cases presents'
    rw [same past]
    exact accepts

theorem body_sees (offered : offers call = true) (seen : Prop) :
    Sees (R := recovery) FormedBoth (fun past memory => Good config.libraries call past memory → seen) []
      (recoveryBody config call) fun _ _ => seen := by
  cases call with
  | inl call =>
    cases call with
    | issueChallengeForAddress address =>
      rw [good_free rfl]
      exact ofAuth_returned (fun _ => seen) (issueChallengeForAddress_sees address)
    | verifySignatureAndIssueToken message signature =>
      rw [good_accepts Challenge.address rfl fun _ => rfl]
      exact ofAuth_returned _ (verifySignatureAndIssueToken_sees message signature)
    | linkWallet currentUserId newWalletAddress message signature walletName permissions clientInfo =>
      rw [good_accepts (fun _ => toLowerCase newWalletAddress) rfl fun _ => rfl]
      exact ofAuth_returned _ (linkWallet_sees _ _ _ message signature _ _ _)
    | _ => cases offered
  | inr call =>
    cases call with
    | initiateBackupCodeRecovery walletAddress backupCode =>
      rw [good_free rfl]
      exact returned_sees (initiateBackupCodeRecovery_sees walletAddress backupCode)
    | initiateEmailRecovery email =>
      rw [good_free rfl]
      exact returned_sees (initiateEmailRecovery_sees email)
    | verifyEmailRecoveryCode sessionId code =>
      rw [good_free rfl]
      exact returned_sees (verifyEmailRecoveryCode_sees sessionId code)
    | completeRecovery sessionId message signature =>
      exact returned_sees (completeRecovery_sees sessionId message signature)
    | cancelRecovery sessionId =>
      rw [good_free rfl]
      exact returned_sees (cancelRecovery_sees sessionId)
    | authenticate message signature =>
      rw [good_accepts Challenge.address rfl fun _ => rfl]
      exact returned_sees (ofAuth_sees _ (authenticate_sees message signature))

theorem formed_environment (world : RecoveryWorld) (memory : recovery.Mem) (change : RecoveryEnvironment)
    (formed : FormedBoth memory) : FormedBoth (recoveryEnvironment (world, memory) change).2 := by
  cases change with
  | tick ms => exact ⟨formed.random, formed.stored⟩
  | status walletId status => exact formed

end Runs

/-- In every run, a flow that has succeeded has read the pending challenge that its message names; the message was
bound to that state exactly when it is whole and the challenge was issued for the address that the flow compares. -/
theorem challenge_bound_iff (config : AuthConfig) (world : RecoveryWorld) (memory : recovery.Mem)
    (hexadecimal : ∀ n, SingleLine (memory.1.random n)) (fresh : memory.1.challenges = Table.empty)
    {labels : List (Label (recoveryProcess config offers))} {after : Config (recoveryProcess config offers)}
    (ran : run labels (Config.initial _ world memory) = some after) {i : Nat} {task : Task recovery}
    (found : after.pool[i]? = some task) {value : AuthValue ⊕ RecoveryValue}
    (ended : task.result = some (.ok value)) {message signature : String}
    (presents : presented task.call = some (message, signature)) :
    ∃ past memory' challenge recovered, ReadIn labels (Config.initial _ world memory) i past memory' ∧
      Names config.libraries memory'.1 message signature challenge recovered ∧
      (Bound config.libraries memory'.1 message signature ↔
        WholeMessage message ∧ challenge.address = comparedAddress task.call past challenge) := by
  have start : FormedBoth memory := ⟨hexadecimal, fun challenge stored => by
    rw [fresh] at stored
    cases stored⟩
  obtain ⟨past, memory', read, formed, good⟩ :=
    seen_in_run (fun _ => body_sees) formed_environment start ran found ended
  obtain ⟨challenge, recovered, names, accepted⟩ := good message signature presents
  exact ⟨past, memory', challenge, recovered, read, names, bound_iff formed names accepted⟩

instance (libraries : AuthLibraries) (memory : AuthMemory) (message signature : String) :
    Decidable (Bound libraries memory message signature) := by
  unfold Bound
  infer_instance

/-- A call has returned a value. -/
def Succeeded (c : Config (recoveryProcess sampleConfig offers)) (i : Nat) (call : AuthCall ⊕ RecoveryCall) : Prop :=
  (c.pool[i]?).map Task.call = some call ∧
    (((c.pool[i]?).bind Task.result).bind fun result => result.toOption).isSome = true

instance (c : Config (recoveryProcess sampleConfig offers)) (i : Nat) (call : AuthCall ⊕ RecoveryCall) :
    Decidable (Succeeded c i call) := inferInstanceAs (Decidable (_ ∧ _))

theorem Succeeded.task {c : Config (recoveryProcess sampleConfig offers)} {i : Nat} {call : AuthCall ⊕ RecoveryCall}
    (succeeded : Succeeded c i call) :
    ∃ task value, c.pool[i]? = some task ∧ task.call = call ∧ task.result = some (.ok value) := by
  obtain ⟨called, returned⟩ := succeeded
  obtain ⟨task, found, isCall⟩ := Option.map_eq_some_iff.mp called
  rw [found] at returned
  obtain ⟨value, isValue⟩ := Option.isSome_iff_exists.mp returned
  obtain ⟨result, ended, isOk⟩ := Option.bind_eq_some_iff.mp isValue
  cases result with
  | error failure => cases isOk
  | ok => exact ⟨task, _, found, isCall, ended⟩

/-- The sample account, and a process that has issued no challenge. -/
abbrev challengeStart : Config (recoveryProcess sampleConfig offers) :=
  Config.initial (recoveryProcess sampleConfig offers) ⟨sampleAuthWorld, Table.empty⟩
    (sampleAuthMemory, ⟨Table.empty, fun _ => "000000", 0⟩)

def linking : AuthCall ⊕ RecoveryCall :=
  .inl (.linkWallet "u1" "0xB" "Sign this message to authenticate: r" "0xB" none none ⟨none, none⟩)

/-- A wallet is linked with a challenge that was issued for another address. -/
def linkingAnother : List (Label (recoveryProcess sampleConfig offers)) :=
  [.call (.inl (.issueChallengeForAddress "0xA")), .resume 0, .call linking, .resume 1, .reply 1 AuthOutcome.done,
    .reply 1 AuthOutcome.done, .resume 1, .reply 1 (AuthOutcome.made "w1"), .reply 1 AuthOutcome.done,
    .reply 1 AuthOutcome.done, .reply 1 AuthOutcome.done, .reply 1 AuthOutcome.done]

theorem linked_with_another_challenge :
    ∃ after, run linkingAnother challengeStart = some after ∧ Succeeded after 1 linking ∧
      ∀ past memory, ReadIn linkingAnother challengeStart 1 past memory →
        ¬ Bound sampleLibraries memory.1 "Sign this message to authenticate: r" "0xB" := by
  obtain ⟨after, ran, succeeded⟩ :=
    (by decide +kernel : ∃ after, run linkingAnother challengeStart = some after ∧ Succeeded after 1 linking)
  have unbound : ∀ moment ∈ moments 1 linkingAnother challengeStart,
      ¬ Bound sampleLibraries moment.2.1 "Sign this message to authenticate: r" "0xB" := by decide +kernel
  exact ⟨after, ran, succeeded, fun past memory read => unbound _ (readIn_mem read)⟩

def payment : String := "I send 5 XLM. Sign this message to authenticate: r"

/-- A login with a message that only ends like the one of the challenge. -/
def payingLogin : List (Label (recoveryProcess sampleConfig offers)) :=
  [.call (.inl (.issueChallengeForAddress "0xA")), .resume 0, .call (.inr (.authenticate payment "0xA")),
    .resume 1, .reply 1 AuthOutcome.done, .resume 1]

theorem sample_singleLine (n : Nat) : SingleLine (sampleAuthMemory.random n) := by
  refine ⟨by simp [sampleAuthMemory], ?_⟩
  have plus : ChallengeService.isLineTerminator '+' = false := by decide
  have first : ChallengeService.isLineTerminator 'r' = false := by decide
  simp [sampleAuthMemory, plus, first]

theorem paying_login_bound_iff :
    ∃ past memory challenge recovered, ReadIn payingLogin challengeStart 1 past memory ∧
      Names sampleLibraries memory.1 payment "0xA" challenge recovered ∧
      (Bound sampleLibraries memory.1 payment "0xA" ↔
        WholeMessage payment ∧ challenge.address =
          comparedAddress (.inr (.authenticate payment "0xA")) past challenge) := by
  obtain ⟨after, ran, succeeded⟩ := (by decide +kernel : ∃ after, run payingLogin challengeStart = some after ∧
    Succeeded after 1 (.inr (.authenticate payment "0xA")))
  obtain ⟨task, value, found, isCall, ended⟩ := succeeded.task
  have stated := challenge_bound_iff sampleConfig _ _ sample_singleLine rfl ran found ended
    (congrArg presented isCall)
  rw [isCall] at stated
  exact stated

end AlianStructure.Guarantees.ChallengeBinding
