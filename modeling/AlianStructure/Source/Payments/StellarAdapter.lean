import Mathlib.Data.List.Nodup
import AlianStructure.Library.Interleaving
import AlianStructure.Source.Exception

/-!
# Refunds on Stellar

Source: src/payments/adapters/stellar/stellar.adapter.ts:130-152,223-301,338-347 and
interfaces/payment-processor.interface.ts. The Stellar SDK is a parameter. A transaction is
named by its source account and sequence number, which it uses up; amounts on the ledger are in
units of 1/10^7.
-/
namespace AlianStructure.Source.Payments
open Library.AsyncMethod Library.Interleaving

inductive PaymentStatus where
  | pending | processing | submitted | confirmed | failed | refunded | partiallyRefunded
  deriving DecidableEq

structure SignedTransaction where
  paymentId : String
  signedPayload : String
  deriving DecidableEq

structure SubmittedTransaction where
  paymentId : String
  transactionHash : String
  status : PaymentStatus
  deriving DecidableEq

structure RefundRequest where
  paymentId : String
  amount : Option String
  reason : Option String
  idempotencyKey : String
  deriving DecidableEq

structure RefundResult where
  refundId : String
  paymentId : String
  status : PaymentStatus
  refundedAmount : String
  deriving DecidableEq

/-! ## The ledger -/

inductive Asset where
  | native
  | credit (code issuer : String)
  deriving DecidableEq

/-- An operation as Horizon shows it among the payments of a transaction. -/
structure OperationRecord where
  type : String
  amount : Option String
  sender : Option String
  recipient : Option String
  asset_type : Option String
  asset_code : Option String
  asset_issuer : Option String
  deriving DecidableEq

inductive Operation where
  | payment (destination : String) (asset : Asset) (amount : Nat)
  | other (record : OperationRecord)
  deriving DecidableEq

structure Transaction where
  source : String
  sequence : Nat
  operations : List Operation
  memo : Option String
  maxTime : Nat
  deriving DecidableEq

structure Included where
  hash : String
  transaction : Transaction
  deriving DecidableEq

/-- What a transaction uses up. -/
def Included.place (entry : Included) : String × Nat :=
  (entry.transaction.source, entry.transaction.sequence)

/-- The transactions that took effect, and the sequence number of every account: no number is used
twice. -/
structure Ledger where
  entries : List Included
  sequences : String → Nat
  used : ∀ entry ∈ entries, entry.transaction.sequence ≤ sequences entry.transaction.source
  once : (entries.map Included.place).Nodup

def Ledger.find (ledger : Ledger) (hash : String) : Option Included :=
  ledger.entries.find? fun entry => decide (entry.hash = hash)

/-- The next transaction of its account takes effect, under a hash of its own. -/
def Ledger.include (ledger : Ledger) (hash : String) (transaction : Transaction) : Option Ledger :=
  if accepted : ledger.find hash = none ∧
      transaction.sequence = ledger.sequences transaction.source + 1 then
    some {
      entries := ledger.entries ++ [⟨hash, transaction⟩]
      sequences := Function.update ledger.sequences transaction.source transaction.sequence
      used := by
        intro entry member
        rcases List.mem_append.mp member with old | new
        · have below := ledger.used entry old
          by_cases same : entry.transaction.source = transaction.source
          · rw [same, Function.update_self, accepted.2]
            rw [same] at below
            omega
          · rw [Function.update_of_ne same]
            exact below
        · rw [List.mem_singleton.mp new]
          exact Nat.le_of_eq
            (Function.update_self transaction.source transaction.sequence ledger.sequences).symm
      once := by
        rw [List.map_append, List.map_singleton]
        refine List.nodup_append.mpr ⟨ledger.once, List.nodup_singleton _, ?_⟩
        rintro place old _ new rfl
        obtain ⟨entry, member, isPlace⟩ := List.mem_map.mp old
        rw [List.mem_singleton.mp new] at isPlace
        have below := ledger.used entry member
        have sameSource : entry.transaction.source = transaction.source := congrArg Prod.fst isPlace
        have sameSequence : entry.transaction.sequence = transaction.sequence :=
          congrArg Prod.snd isPlace
        rw [sameSource, sameSequence, accepted.2] at below
        omega }
  else none

/-- An account skips sequence numbers: a transaction failed, or it asked to. -/
def Ledger.bump (ledger : Ledger) (account : String) : Ledger where
  entries := ledger.entries
  sequences := Function.update ledger.sequences account (ledger.sequences account + 1)
  used entry member := by
    have below := ledger.used entry member
    by_cases same : entry.transaction.source = account
    · rw [same, Function.update_self]
      rw [same] at below
      omega
    · rw [Function.update_of_ne same]
      exact below
  once := ledger.once

/-! ## Horizon -/

/-- What the adapter uses of the Stellar SDK: the public key of a secret, the units of an amount
that a payment may have, an amount as Horizon writes it, the memo that a text makes, the order of
`Number`, and the transaction of an XDR. -/
structure StellarSdk where
  publicKey : String → Option String
  units : String → Option Nat
  decimal : Nat → String
  memoText : String → Option String
  numberLt : String → String → Bool
  fromXdr : String → Option Transaction

/-- Operations by their source, the account of the transaction, as Horizon shows them. -/
def recordOf (sdk : StellarSdk) (source : String) : Operation → OperationRecord
  | .payment destination .native amount =>
    ⟨"payment", some (sdk.decimal amount), some source, some destination, some "native", none, none⟩
  | .payment destination (.credit code issuer) amount =>
    ⟨"payment", some (sdk.decimal amount), some source, some destination,
      some (if code.length ≤ 4 then "credit_alphanum4" else "credit_alphanum12"), some code,
      some issuer⟩
  | .other record => record

structure AccountResponse where
  id : String
  sequence : Nat
  deriving DecidableEq

structure SubmitResponse where
  hash : String
  successful : Bool
  deriving DecidableEq

inductive StellarOp where
  | paymentsForTransaction (hash : String)
  | loadAccount (account : String)
  | submitTransaction (transaction : Transaction)
  deriving DecidableEq

abbrev StellarOp.Reply : StellarOp → Type
  | .paymentsForTransaction _ => List OperationRecord
  | .loadAccount _ => AccountResponse
  | .submitTransaction _ => SubmitResponse

inductive StellarCall where
  | refund (request : RefundRequest)
  | submitTransaction (signed : SignedTransaction)
  deriving DecidableEq

inductive StellarValue where
  | refunded (result : RefundResult)
  | submitted (result : SubmittedTransaction)
  deriving DecidableEq

/-- The clock of the process, in seconds. -/
structure StellarMemory where
  now : Nat
  deriving DecidableEq

/-- A failed request is the result codes of Horizon or a message. -/
abbrev stellarPayments : Runtime where
  Op := StellarOp
  Reply := StellarOp.Reply
  Mem := StellarMemory
  Err := Exception
  Call := StellarCall
  Val := StellarValue

abbrev StellarM := Async stellarPayments

/-- An operation of the SDK; its failures become those of the adapter. -/
def toStellarError (context : String) (op : StellarOp) : StellarM op.Reply :=
  tryCatch (Async.perform (R := stellarPayments) op) fun failure =>
    throw (.serviceUnavailable (context ++ ": " ++ failure.message))

/-! ## The adapter -/

structure StellarConfig where
  networkPassphrase : String
  signingSecret : Option String
  deriving DecidableEq

def submitTransaction (sdk : StellarSdk) (signed : SignedTransaction) :
    StellarM SubmittedTransaction :=
  match sdk.fromXdr signed.signedPayload with
  | none => throw (.error "Invalid XDR")
  | some transaction => do
    let response ← toStellarError "Failed to submit transaction to Horizon"
      (.submitTransaction transaction)
    pure ⟨signed.paymentId, response.hash, if response.successful then .confirmed else .failed⟩

/-- The payment operation that a refund reverses. -/
def findOriginal (records : List OperationRecord) : Option OperationRecord :=
  records.find? fun record => decide (record.type = "payment") || record.amount.isSome

def amountText (original : OperationRecord) : String := original.amount.getD "undefined"

def refundAmount (request : RefundRequest) (original : OperationRecord) : String :=
  request.amount.getD (amountText original)

/-- `new Asset` refuses a missing code or issuer. -/
def assetOf (original : OperationRecord) : Option Asset :=
  if original.asset_type = some "native" then some .native
  else
    match original.asset_code, original.asset_issuer with
    | some code, some issuer => some (.credit code issuer)
    | _, _ => none

/-- The transaction that sends the funds back. -/
def reversalOf (sdk : StellarSdk) (request : RefundRequest) (original : OperationRecord)
    (asset : Asset) (recipientAccount : AccountResponse) (now : Nat) :
    Except Exception Transaction :=
  match original.sender, sdk.units (refundAmount request original),
    sdk.memoText (request.reason.getD "refund") with
  | none, _, _ => .error (.error "destination is invalid")
  | some _, none, _ => .error (.error ("amount argument must be of type String, represent a " ++
    "positive number and have at most 7 digits after the decimal"))
  | some _, some _, none => .error (.error "Expects string, array or buffer, max 28 bytes")
  | some payer, some amount, some memo => .ok {
    source := recipientAccount.id
    sequence := recipientAccount.sequence + 1
    operations := [.payment payer asset amount]
    memo := some memo
    maxTime := now + 180 }

/-- The part of refund that sends the funds back. -/
def reverse (sdk : StellarSdk) (request : RefundRequest) (original : OperationRecord) :
    StellarM RefundResult :=
  match assetOf original with
  | none => throw (.error "Asset code is invalid")
  | some asset => do
    let recipientAccount ← toStellarError "Failed to load refund source account"
      (.loadAccount (original.recipient.getD "undefined"))
    let memory ← Async.memory
    match reversalOf sdk request original asset recipientAccount memory.now with
    | .error failure => throw failure
    | .ok reversal => do
      let response ← toStellarError "Failed to submit refund transaction"
        (.submitTransaction reversal)
      let isPartial := sdk.numberLt (refundAmount request original) (amountText original)
      pure {
        refundId := response.hash
        paymentId := request.paymentId
        status := if isPartial then .partiallyRefunded else .refunded
        refundedAmount := refundAmount request original }

def refund (sdk : StellarSdk) (config : StellarConfig) (request : RefundRequest) :
    StellarM RefundResult :=
  match config.signingSecret.filter (· ≠ "") with
  | none => throw (.preconditionFailed
    "STELLAR_SIGNING_SECRET is not configured; cannot issue a refund.")
  | some secret => do
    let records ← toStellarError ("Failed to load original payment " ++ request.paymentId)
      (.paymentsForTransaction request.paymentId)
    match findOriginal records with
    | none => throw (.badRequest
      ("No payment operation found for transaction " ++ request.paymentId ++ "."))
    | some original =>
      match sdk.publicKey secret with
      | none => throw (.error "invalid encoded string")
      | some _ => reverse sdk request original

/-! ## The process -/

structure StellarWorld where
  now : Nat
  ledger : Ledger

/-- What the outside decides: that a request is answered, that a transaction takes effect under a
hash, with or without the adapter hearing of it, or that a request fails. -/
inductive StellarOutcome where
  | answered
  | included (hash : String)
  | lost (hash : String) (failure : Exception)
  | fails (failure : Exception)
  deriving DecidableEq

/-- A transaction takes effect in time. -/
def StellarWorld.include (world : StellarWorld) (hash : String) (transaction : Transaction) :
    Option StellarWorld :=
  if world.now ≤ transaction.maxTime then
    (world.ledger.include hash transaction).map fun ledger => { world with ledger := ledger }
  else none

def StellarWorld.respond (sdk : StellarSdk) (world : StellarWorld) (op : StellarOp)
    (outcome : StellarOutcome) : Option (StellarWorld × Except Exception op.Reply) :=
  match op, outcome with
  | .paymentsForTransaction hash, .answered =>
    (world.ledger.find hash).map fun entry => (world, .ok
      (entry.transaction.operations.map (recordOf sdk entry.transaction.source)))
  | .loadAccount account, .answered => some (world, .ok ⟨account, world.ledger.sequences account⟩)
  | .submitTransaction transaction, .included hash =>
    (world.include hash transaction).map fun after => (after, .ok ⟨hash, true⟩)
  | .submitTransaction transaction, .lost hash failure =>
    (world.include hash transaction).map fun after => (after, .error failure)
  | _, .fails failure => some (world, .error failure)
  | _, _ => none

/-- Time passes, a transaction of whomever takes effect, or an account skips a number. -/
inductive StellarChange where
  | time (seconds : Nat)
  | transaction (hash : String) (transaction : Transaction)
  | bump (account : String)
  deriving DecidableEq

def stellarEnvironment (state : StellarWorld × StellarMemory) :
    StellarChange → StellarWorld × StellarMemory
  | .time seconds =>
    ({ state.1 with now := state.1.now + seconds }, ⟨state.2.now + seconds⟩)
  | .transaction hash transaction =>
    ((state.1.include hash transaction).getD state.1, state.2)
  | .bump account => ({ state.1 with ledger := state.1.ledger.bump account }, state.2)

def stellarBody (sdk : StellarSdk) (config : StellarConfig) : StellarCall → StellarM StellarValue
  | .refund request => do
    let result ← refund sdk config request
    pure (.refunded result)
  | .submitTransaction signed => do
    let result ← submitTransaction sdk signed
    pure (.submitted result)

abbrev stellarProcess (sdk : StellarSdk) (config : StellarConfig) : Service stellarPayments where
  World := StellarWorld
  Choice := StellarOutcome
  Env := StellarChange
  respond := StellarWorld.respond sdk
  environment := stellarEnvironment
  isPublic _ := true
  body := stellarBody sdk config

end AlianStructure.Source.Payments
