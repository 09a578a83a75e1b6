import AlianStructure.Source.Auth.WalletAuthService

/-!
# Delegated wallets

Source: src/core/auth/delegation.service.ts:56-410. The audit of this service only writes
to the log and is left out.
-/
namespace AlianStructure.Source.Auth.DelegationService

def validPermissions : List String :=
  ["sign_messages", "sign_transactions", "authenticate", "read_data"]

def maxDelegationMs : Nat := 90 * 24 * 60 * 60 * 1000

def validatePermissions (permissions : List String) : Except Exception Unit :=
  match permissions.find? fun permission => ! validPermissions.contains permission with
  | some permission => .error (.badRequest ("Invalid permission: " ++ permission))
  | none =>
    if permissions = [] then .error (.badRequest "At least one permission must be granted")
    else .ok ()

/-- Year, month and day of a day counted from 1970-01-01, in the Gregorian calendar; the
years of the computation begin in March. -/
def civil (days : Nat) : Nat × Nat × Nat :=
  let z := days + 719468
  let era := z / 146097
  let dayOfEra := z % 146097
  let yearOfEra := (dayOfEra - dayOfEra / 1460 + dayOfEra / 36524 - dayOfEra / 146096) / 365
  let dayOfYear := dayOfEra - (365 * yearOfEra + yearOfEra / 4 - yearOfEra / 100)
  let marchMonth := (5 * dayOfYear + 2) / 153
  let day := dayOfYear - (153 * marchMonth + 2) / 5 + 1
  let month := if marchMonth < 10 then marchMonth + 3 else marchMonth - 9
  (yearOfEra + era * 400 + (if month ≤ 2 then 1 else 0), month, day)

def padded (width n : Nat) : String :=
  String.ofList (List.replicate (width - (toString n).length) '0') ++ toString n

/-- Years beyond 9999 get a sign and six digits. -/
def toISOString (time : Nat) : String :=
  let (year, month, day) := civil (time / 86400000)
  let ms := time % 86400000
  (if year ≤ 9999 then padded 4 year else "+" ++ padded 6 year) ++ "-" ++ padded 2 month ++ "-" ++
    padded 2 day ++ "T" ++ padded 2 (ms / 3600000) ++ ":" ++ padded 2 (ms / 60000 % 60) ++ ":" ++
    padded 2 (ms / 1000 % 60) ++ "." ++ padded 3 (ms % 1000) ++ "Z"

example : toISOString 1709210096789 = "2024-02-29T12:34:56.789Z" := by decide +kernel

/-- Every challenge has a fresh nonce. -/
def generateDelegationChallenge (delegatorAddress delegateAddress : String)
    (permissions : List String) (expiresAt : Nat) : AuthM String := do
  let nonce ← draw
  pure ("Delegate signing authority from " ++ delegatorAddress ++ " to " ++ delegateAddress ++
    "\nPermissions: " ++ String.intercalate ", " permissions ++ "\nExpires: " ++
    toISOString expiresAt ++ "\nNonce: " ++ nonce)

/-- The wallet of a delegate without one. -/
def pendingWallet (delegatorUserId : String) (delegator : Wallet) (delegateAddress : String)
    (request : DelegationRequest) : Wallet where
  id := ""
  address := delegateAddress
  userId := delegatorUserId
  type := .delegated
  status := .pending
  isPrimary := false
  name := some ("Delegated by " ++
    (given delegator.name).getD (String.ofList (delegator.address.toList.take 8)))
  verificationSignature := none
  verificationChallenge := none
  verifiedAt := none
  linkedIp := none
  linkedUserAgent := none
  delegatedById := some delegator.id
  delegationExpiresAt := some request.expiresAt
  delegationPermissions := some request.permissions
  createdAt := 0

/-- The part of requestDelegation after the checks; a delegate that already has a wallet
gets no other one. -/
def createDelegation (delegatorUserId : String) (delegator : Wallet) (delegateAddress : String)
    (existing : Bool) (request : DelegationRequest) : AuthM DelegationChallenge := do
  let delegationId ← draw
  let challenge ← generateDelegationChallenge delegator.address delegateAddress request.permissions
    request.expiresAt
  let requested : DelegationChallenge :=
    ⟨delegationId, "Delegation requested. Sign the challenge to authorize.", challenge⟩
  if existing then pure requested
  else do
    let _ ← ask (.insertWallet (pendingWallet delegatorUserId delegator delegateAddress request))
    pure requested

def requestDelegation (delegatorUserId : String) (request : DelegationRequest) :
    AuthM DelegationChallenge := do
  let found ← ask (.findWallet { WalletQuery.all with
    id := some request.delegatorWalletId, userId := some delegatorUserId, status := some .active })
  match found with
  | none => throw (.notFound "Delegator wallet not found or not active")
  | some delegator =>
    if ¬ delegator.isPrimary ∧ delegator.type ≠ .secondary then
      throw (.forbidden "Only primary or secondary wallets can delegate authority")
    else
      let delegateAddress := toLowerCase request.delegateAddress
      let existing ← ask (.findWallet { WalletQuery.all with address := some delegateAddress })
      if existing.any fun wallet => decide (wallet.userId ≠ delegatorUserId) then
        throw (.conflict "Delegate address is already linked to another account")
      else
        match validatePermissions request.permissions with
        | .error failure => throw failure
        | .ok () =>
          let now ← clock
          if request.expiresAt ≤ now then
            throw (.badRequest "Expiration date must be in the future")
          else if now + maxDelegationMs < request.expiresAt then
            throw (.badRequest "Delegation cannot exceed 90 days")
          else createDelegation delegatorUserId delegator delegateAddress existing.isSome request

/-- The part of completeDelegation after the lookups: the challenge that was signed is made
anew. -/
def activate (libraries : AuthLibraries) (delegator delegate : Wallet) (expiresAt : Nat)
    (signature : String) : AuthM DelegationRecord := do
  let challenge ← generateDelegationChallenge delegator.address delegate.address
    (delegate.delegationPermissions.getD []) expiresAt
  match libraries.verifyMessage challenge signature with
  | .error _ => throw (.unauthorized "Invalid signature")
  | .ok recoveredAddress =>
    if toLowerCase recoveredAddress ≠ toLowerCase delegator.address then
      throw (.unauthorized "Signature does not match delegator wallet")
    else
      let now ← clock
      ask (.saveWallet { delegate with
        status := .active, verifiedAt := some now, verificationSignature := some signature })
      pure ⟨delegate.id, delegator.id, delegate.id, now, delegate.delegationExpiresAt⟩

def completeDelegation (libraries : AuthLibraries)
    (delegatorUserId delegateWalletId signature : String) : AuthM DelegationRecord := do
  let found ← ask (.findWallet { WalletQuery.all with
    id := some delegateWalletId, userId := some delegatorUserId, type := some .delegated
    status := some .pending })
  match found with
  | none => throw (.notFound "Pending delegation not found")
  | some delegate =>
    let delegator ← ask (.findWallet { WalletQuery.all with id := delegate.delegatedById })
    match delegator, delegate.delegationExpiresAt with
    | none, _ => throw (.notFound "Delegator wallet not found")
    | some _, none =>
      throw (.error "Cannot read properties of null (reading 'toISOString')")
    | some delegator, some expiresAt => activate libraries delegator delegate expiresAt signature

def revokeDelegation (userId delegationId : String) : AuthM Bool := do
  let found ← ask (.findWallet { WalletQuery.all with
    id := some delegationId, userId := some userId, type := some .delegated })
  match found with
  | none => throw (.notFound "Delegation not found")
  | some delegate =>
    if delegate.status ≠ .active then throw (.badRequest "Delegation is not active")
    else do
      ask (.saveWallet { delegate with status := .revoked })
      pure true

def verifyDelegationPermission (delegateAddress requiredPermission : String) :
    AuthM DelegationCheck := do
  let found ← ask (.findWallet { WalletQuery.all with
    address := some (toLowerCase delegateAddress), type := some .delegated, status := some .active })
  match found with
  | none => pure ⟨false, none, none⟩
  | some delegate =>
    let now ← clock
    if delegate.delegationExpiresAt.any fun expiresAt => decide (expiresAt < now) then do
      ask (.saveWallet { delegate with status := .unlinked })
      pure ⟨false, none, none⟩
    else if (delegate.delegationPermissions.getD []).contains requiredPermission then
      pure ⟨true, delegate.delegatedById, delegate.delegationExpiresAt⟩
    else pure ⟨false, delegate.delegatedById, none⟩

/-- The loop of cleanupExpiredDelegations. -/
def expireAll : List Wallet → AuthM Unit
  | [] => pure ()
  | wallet :: rest => do
    ask (.saveWallet { wallet with status := .unlinked })
    expireAll rest

def cleanupExpiredDelegations : AuthM Nat := do
  let now ← clock
  let expiredWallets ← ask (.findWallets { WalletQuery.all with
    type := some .delegated, status := some .active, expiresBefore := some now })
  expireAll expiredWallets
  pure expiredWallets.length

end AlianStructure.Source.Auth.DelegationService
