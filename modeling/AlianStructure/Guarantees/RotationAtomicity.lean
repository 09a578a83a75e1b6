import AlianStructure.Guarantees.GrantfoxRotation
import AlianStructure.Library.CallsAlone

/-!
# What a failed rotation leaves

Source: src/core/auth/services/grantfox-oauth.service.ts:278-375, entities/grantfox-token.entity.ts:22-57.
A rotation begins with the lookup of the token that is presented. The column encrypts it with an IV that was
never drawn, so the lookup finds no row: the call throws before it asks the provider and before it saves.
-/
namespace AlianStructure.Guarantees.RotationAtomicity
open Library.Interleaving Library.CallsAlone Library.KeyedTable
open Source Source.Grantfox GrantfoxOAuthService
open GrantfoxRotation (SealedEarlier missing_run respond_findToken respond_misses draws_some)

/-- A row is that of a refresh token which is not revoked. -/
structure Presented (transformer : EncryptedTokenTransformer) (world : GrantfoxWorld) (value : String)
    (row : TokenRow) : Prop where
  stored : row ∈ world.tokens.rows
  valid : row.revoked = false
  reads : transformer.from row.refreshToken = .ok value

/-- The user has a refresh token that is stored and not revoked. -/
def HasToken (world : GrantfoxWorld) (userId : String) : Prop :=
  ∃ row ∈ world.tokens.rows, row.userId = userId ∧ row.revoked = false

/-- A call that throws, although the provider has not rejected the token, leaves its user with a token. -/
def Atomic (transformer : EncryptedTokenTransformer) (before after : GrantfoxWorld) (value : String)
    (outcomes : List GrantfoxOutcome) (result : Except Exception GrantfoxTokenPair) : Prop :=
  ∀ failure, result = .error failure → .tokens none ∉ outcomes →
    ∀ row, Presented transformer before value row → HasToken after row.userId

section Calls
variable {config : GrantfoxConfig} {world after : GrantfoxWorld} {mem : GrantfoxMemory}
  {outcome : GrantfoxOutcome} {value : String}

/-- A lookup by refresh token saves nothing. -/
theorem lookup_tokens {query : TokenQuery} {result : Except Exception (Option TokenEntity)}
    (responds : world.respond config.transformer (.findToken query) outcome = some (after, result)) :
    after.tokens = world.tokens := by
  cases outcome with
  | drew ivs =>
    rcases ivs with _ | ⟨iv, _ | ⟨_, _⟩⟩
    · cases responds
    · have drew : (world.draws [iv] fun world => (world, world.findToken config.transformer query iv)) =
          some (after, result) := responds
      obtain ⟨_, same⟩ := draws_some drew
      cases same
      rfl
    · cases responds
  | fails failure =>
    cases responds
    rfl
  | _ => cases responds

theorem later_sealed (config : GrantfoxConfig) (state : GrantfoxWorld × GrantfoxMemory) (sealedEarlier : SealedEarlier state.1) :
    ∀ changes : List Nat, SealedEarlier (later (grantfoxProcess config) state changes).1 ∧
      (later (grantfoxProcess config) state changes).1.tokens = state.1.tokens := by
  intro changes
  induction changes generalizing state with
  | nil => exact ⟨sealedEarlier, rfl⟩
  | cons change changes ih => exact ih (grantfoxEnvironment state change) sealedEarlier

/-- The lookup of a call finds nothing, whatever is presented: the call is over. -/
theorem refresh_rejected {state : GrantfoxWorld × GrantfoxMemory}
    {happenings : List (Happening (grantfoxProcess config))}
    {closed : (GrantfoxWorld × GrantfoxMemory) × Except Exception GrantfoxTokenPair}
    (sealedEarlier : SealedEarlier state.1)
    (ends : finish (grantfoxProcess config) happenings state (refreshToken config value) = some closed) :
    closed.1.1.tokens = state.1.tokens ∧ ∃ failure, closed.2 = .error failure := by
  unfold refreshToken at ends
  obtain ⟨changes, choice, there, result, rest, _, responds, goesOn⟩ := finish_ask ends
  obtain ⟨stillSealed, unchanged⟩ := later_sealed config state sealedEarlier changes
  have left : there.tokens = state.1.tokens := (lookup_tokens responds).trans unchanged
  have misses := respond_misses stillSealed responds
  rcases goesOn with ⟨reply, rfl, goesOn⟩ | ⟨failure, rfl, _, rfl⟩
  · cases reply with
    | none =>
      obtain ⟨_, rfl⟩ := finish_done goesOn
      exact ⟨left, _, rfl⟩
    | some entity => cases misses
  · exact ⟨left, failure, rfl⟩

end Calls

/-- From every state that a run reaches, a rotation that throws leaves the user of the token with one. -/
theorem rotation_atomic (config : GrantfoxConfig) (world : GrantfoxWorld) (mem : GrantfoxMemory)
    (sealedEarlier : SealedEarlier world) (labels : List (Label (grantfoxProcess config)))
    (reached : Config (grantfoxProcess config))
    (ran : run labels (Config.initial (grantfoxProcess config) world mem) = some reached)
    (value : String) (happenings : List (Happening (grantfoxProcess config)))
    (closed : (GrantfoxWorld × GrantfoxMemory) × Except Exception GrantfoxTokenPair)
    (ends : finish (grantfoxProcess config) happenings (reached.world, reached.mem)
      (refreshToken config value) = some closed) :
    Atomic config.transformer reached.world closed.1.1 value (answers happenings) closed.2 := by
  have stillSealed : SealedEarlier reached.world := (missing_run sealedEarlier ran).1.sealedEarlier
  obtain ⟨left, _⟩ := refresh_rejected stillSealed ends
  intro _ _ _ row presented
  refine ⟨row, ?_, rfl, presented.valid⟩
  rw [left]
  exact presented.stored

/-- The user has signed on and presents the token `first`. -/
theorem rotation_atomic_login : ∃ c closed,
    run GrantfoxRotation.loginRun GrantfoxRotation.loginStart = some c ∧
      finish (grantfoxProcess GrantfoxRotation.sampleGrantfoxConfig) [.reply (.drew [4])] (c.world, c.mem)
        (refreshToken GrantfoxRotation.sampleGrantfoxConfig "first") = some closed ∧
      closed.2 = .error (.unauthorized "Invalid or revoked refresh token") ∧ HasToken closed.1.1 "u1" := by
  obtain ⟨c, ran, row, presented, closed, ends, isError⟩ : ∃ c,
      run GrantfoxRotation.loginRun GrantfoxRotation.loginStart = some c ∧ ∃ row,
        (Presented GrantfoxRotation.sampleTransformer c.world "first" row ∧ row.userId = "u1") ∧ ∃ closed,
          finish (grantfoxProcess GrantfoxRotation.sampleGrantfoxConfig) [.reply (.drew [4])] (c.world, c.mem)
            (refreshToken GrantfoxRotation.sampleGrantfoxConfig "first") = some closed ∧
          closed.2 = .error (.unauthorized "Invalid or revoked refresh token") :=
    ⟨_, rfl, _, ⟨⟨List.mem_of_getElem? (i := 0) rfl, rfl, rfl⟩, rfl⟩, _, rfl, rfl⟩
  have sealedEarlier : SealedEarlier GrantfoxRotation.sampleGrantfoxWorld := fun _ member => by cases member
  have atomic := rotation_atomic GrantfoxRotation.sampleGrantfoxConfig GrantfoxRotation.sampleGrantfoxWorld
    GrantfoxRotation.sampleGrantfoxMemory sealedEarlier GrantfoxRotation.loginRun c ran "first"
    [.reply (.drew [4])] closed ends
  have left := atomic _ isError (by simp [answers]) row presented.1
  rw [presented.2] at left
  exact ⟨c, closed, ran, ends, isError, left⟩

end AlianStructure.Guarantees.RotationAtomicity
