import AlianStructure.Guarantees.TwoFactorHistory
import AlianStructure.Guarantees.WalletStanding

/-!
# The second factor of a wallet login

Source: wallet-auth.service.ts:55-213, enhanced-auth.service.ts:376-450. The wallet login
never asks whether the owner of the wallet has a second factor; the other method that
issues a wallet token does so after a successful code check only.
-/
namespace AlianStructure.Guarantees.WalletSecondFactor
open Library.Interleaving Library.CallJournal
open Source.Auth AuthCalls AccountConduct WalletConduct WalletStanding TwoFactorHistory

/-- What a call that has returned a wallet token rests on: a code of the account of the token that it has
checked; or it is a login, and in the state in which its lookup was answered the owner of the wallet did not
have two-factor enabled if and only if it was not turned on since it was last turned off. -/
def RestsOn {config : AuthConfig} {offers : AuthCall → Bool} (labels : List (Label (authProcess config offers)))
    (start : Config (authProcess config offers)) (i : Nat) (task : Task auth) (token : WalletToken) : Prop :=
  (∃ userId dto, task.call = .verifyWalletTwoFactorAndIssueToken userId dto ∧
    Verified config.libraries userId dto task.past ∧ OfAccount userId token task.past) ∨
  ((∃ message signature, task.call = .verifySignatureAndIssueToken message signature) ∧
    ∃ c wallet user,
      AnsweredAt labels start i ⟨.findWalletWithUser token.address, .ok (some (wallet, user))⟩ c ∧
      token.token.sub = user.map (·.id) ∧
      (¬ enabledIn c.world wallet.userId ↔ sinceEnabled (history c) wallet.userId = none))

/-- No other call returns a wallet token, and none without resting on this. -/
theorem wallet_token_second_factor (config : AuthConfig) (offers : AuthCall → Bool)
    (world : AuthWorld) (mem : AuthMemory) (unused : world.twoFactors.rows = [])
    (labels : List (Label (authProcess config offers))) (after : Config (authProcess config offers))
    (ran : run labels (Config.initial (authProcess config offers) world mem) = some after)
    (i : Nat) (task : Task auth) (token : WalletToken) (found : after.pool[i]? = some task)
    (returned : task.result = some (.ok (.walletToken token))) :
    RestsOn labels (Config.initial (authProcess config offers) world mem) i task token := by
  have conforms := conduct_conforms config offers
  have rests := vouched conforms ran found returned
  cases called : task.call with
  | verifyWalletTwoFactorAndIssueToken userId dto =>
    rw [called] at rests
    exact Or.inl ⟨userId, dto, called, rests⟩
  | verifySignatureAndIssueToken message signature =>
    rw [called] at rests
    obtain ⟨wallet, user, asked, _, sub⟩ := rests
    obtain ⟨c, at_c⟩ := answered_of_past conforms ran found asked
    refine Or.inr ⟨⟨message, signature, called⟩, c, wallet, user, at_c, sub, ?_⟩
    obtain ⟨_, _, _, _, reached, _⟩ := at_c
    rw [← (factored_always unused reached).enabled wallet.userId]
    simp
  | _ =>
    rw [called] at rests
    cases rests

/-- The account asks for a challenge and turns two-factor on before it signs it. -/
def lateRun : List (Label (authProcess sampleConfig fun _ => true)) :=
  [.call (.issueChallengeForAddress "0xA"), .resume 2] ++ enablingRun 3 ++
    [.call (.verifySignatureAndIssueToken loginMessage "0xA"), .resume 5]

/-- With two-factor enabled the wallet login returns a token for the account. -/
theorem enabled_account_logs_in :
    ∃ after task token c wallet user,
      run (linkingRun ++ lateRun ++ issuingRun 4) walletStart = some after ∧
      after.pool[5]? = some task ∧
      task.call = .verifySignatureAndIssueToken loginMessage "0xA" ∧
      task.result = some (.ok (.walletToken token)) ∧
      AnsweredAt (linkingRun ++ lateRun ++ issuingRun 4) walletStart 5
        ⟨.findWalletWithUser token.address, .ok (some (wallet, user))⟩ c ∧
      token.token.sub = some wallet.userId ∧ enabledIn c.world wallet.userId := by
  refine ⟨_, _, _, _, _, _, rfl, rfl, rfl, rfl,
    ⟨linkingRun ++ lateRun, AuthOutcome.done, _, rfl, rfl, rfl⟩, rfl, rfl⟩

/-- The account of the wallet turns two-factor on and logs in with a code. -/
def codeRun : List (Label (authProcess sampleConfig fun _ => true)) :=
  enablingRun 2 ++ [.call (.verifyWalletTwoFactorAndIssueToken "u1" ⟨some "123456", none⟩),
    .reply 4 AuthOutcome.done, .resume 4, .reply 4 AuthOutcome.done, .reply 4 AuthOutcome.done, .resume 4]

theorem wallet_token_second_factor_linked :
    (∃ after task token, run (linkingRun ++ codeRun) walletStart = some after ∧ after.pool[4]? = some task ∧
      task.result = some (.ok (.walletToken token)) ∧ RestsOn (linkingRun ++ codeRun) walletStart 4 task token) ∧
    ∃ after task token, run (linkingRun ++ signingRun 2 ++ issuingRun 2) walletStart = some after ∧
      after.pool[3]? = some task ∧ task.result = some (.ok (.walletToken token)) ∧
      RestsOn (linkingRun ++ signingRun 2 ++ issuingRun 2) walletStart 3 task token :=
  ⟨⟨_, _, _, rfl, rfl, rfl, wallet_token_second_factor sampleConfig (fun _ => true) sampleAuthWorld
      sampleAuthMemory rfl (linkingRun ++ codeRun) _ rfl 4 _ _ rfl rfl⟩,
    ⟨_, _, _, rfl, rfl, rfl, wallet_token_second_factor sampleConfig (fun _ => true) sampleAuthWorld
      sampleAuthMemory rfl (linkingRun ++ signingRun 2 ++ issuingRun 2) _ rfl 3 _ _ rfl rfl⟩⟩

end AlianStructure.Guarantees.WalletSecondFactor
