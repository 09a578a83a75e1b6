import Mathlib.Algebra.Order.Ring.Rat
import AlianStructure.Library.InsertionOrder
import AlianStructure.Source.Exception

/-!
# The billing service

Source: src/billing/billing.service.ts:46-173,224-228. Times are epoch milliseconds and quantities are exact.
The usage counter is the metrics library's: it takes a plan, a metric and a quantity, and may throw. The gauge
of estimated charges and the export formats are left out.
-/
namespace AlianStructure.Source.Billing
open Library.InsertionOrder

structure BillingPlan where
  id : String
  name : String
  monthlyPriceCents : ℚ
  includedUnits : ℚ
  unitPriceCents : ℚ
  deriving DecidableEq

structure UsageInput where
  metric : String
  quantity : ℚ
  tokenizedAccessId : Option String
  idempotencyKey : Option String
  deriving DecidableEq

structure UsageRecord extends UsageInput where
  accountId : String
  recordedAt : Nat
  deriving DecidableEq

structure InvoiceLine where
  description : String
  quantity : ℚ
  unitPriceCents : ℚ
  amountCents : ℚ
  deriving DecidableEq

structure InvoicePreview where
  accountId : String
  planId : String
  periodStart : Nat
  periodEnd : Nat
  subtotalCents : ℚ
  lineItems : List InvoiceLine
  deriving DecidableEq

def plans : List BillingPlan :=
  [⟨"free", "Free", 0, 100, 0⟩, ⟨"starter", "Starter", 1900, 10000, 1⟩, ⟨"growth", "Growth", 9900, 100000, 1⟩]

structure BillingState where
  accountPlans : OrderedMap String String
  usage : OrderedMap String (List UsageRecord)
  idempotencyKeys : OrderedMap String UsageRecord

/-- A service that was just constructed. -/
def BillingState.fresh : BillingState := ⟨.empty, .empty, .empty⟩

namespace BillingService

def findPlan (planId : String) : Except Exception BillingPlan :=
  match plans.find? (·.id = planId) with
  | none => .error (.notFound s!"Unknown billing plan: {planId}")
  | some plan => .ok plan

def setPlan (billing : BillingState) (accountId planId : String) : BillingState × Except Exception BillingPlan :=
  match findPlan planId with
  | .error failure => (billing, .error failure)
  | .ok plan => ({ billing with accountPlans := billing.accountPlans.set accountId plan.id }, .ok plan)

def getPlan (billing : BillingState) (accountId : String) : Except Exception BillingPlan :=
  findPlan ((billing.accountPlans.get? accountId).getD "free")

def getUsage (billing : BillingState) (accountId : String) : List UsageRecord :=
  (billing.usage.get? accountId).getD []

/-- The key of the index: a key that is empty counts as none. -/
def indexKey (accountId : String) (key : Option String) : Option String :=
  match key with
  | none => none
  | some key => if key = "" then none else some (accountId ++ ":" ++ key)

/-- Append a record to the account's usage and index it. -/
def store (billing : BillingState) (index : Option String) (record : UsageRecord) : BillingState :=
  { billing with
    usage := billing.usage.set record.accountId (getUsage billing record.accountId ++ [record])
    idempotencyKeys := match index with
      | none => billing.idempotencyKeys
      | some index => billing.idempotencyKeys.set index record }

variable (inc : String → String → ℚ → Except Exception Unit)

def recordUsage (billing : BillingState) (now : Nat) (accountId : String) (input : UsageInput) :
    BillingState × Except Exception UsageRecord :=
  let index := indexKey accountId input.idempotencyKey
  match index.bind billing.idempotencyKeys.get? with
  | some record => (billing, .ok record)
  | none =>
    let record : UsageRecord := { input with accountId, recordedAt := now }
    let stored := store billing index record
    -- The counter comes last: when it throws, the record is there.
    (stored, do
      let plan ← getPlan stored accountId
      inc plan.id input.metric input.quantity
      return record)

def createInvoicePreview (billing : BillingState) (accountId : String) (periodStart periodEnd : Nat) :
    Except Exception InvoicePreview := do
  let plan ← getPlan billing accountId
  let billed := (getUsage billing accountId).filter fun record =>
    decide (periodStart ≤ record.recordedAt) && decide (record.recordedAt ≤ periodEnd)
  let units := billed.foldl (fun total record => total + record.quantity) 0
  let overage := max 0 (units - plan.includedUnits)
  let lineItems : List InvoiceLine :=
    ⟨s!"{plan.name} monthly plan", 1, plan.monthlyPriceCents, plan.monthlyPriceCents⟩ ::
      if 0 < overage then
        [⟨"Metered usage overage", overage, plan.unitPriceCents, overage * plan.unitPriceCents⟩]
      else []
  return {
    accountId, planId := plan.id, periodStart, periodEnd, lineItems
    subtotalCents := lineItems.foldl (fun total item => total + item.amountCents) 0 }

end BillingService

/-- A call of the service that changes it, at a time. -/
inductive BillingCall where
  | setPlan (accountId planId : String)
  | recordUsage (now : Nat) (accountId : String) (input : UsageInput)
  deriving DecidableEq

inductive BillingAnswer where
  | plan (result : Except Exception BillingPlan)
  | usage (result : Except Exception UsageRecord)

def respond (inc : String → String → ℚ → Except Exception Unit) (billing : BillingState) :
    BillingCall → BillingState × BillingAnswer
  | .setPlan accountId planId =>
    let (after, result) := BillingService.setPlan billing accountId planId
    (after, .plan result)
  | .recordUsage now accountId input =>
    let (after, result) := BillingService.recordUsage inc billing now accountId input
    (after, .usage result)

/-- The state after calls in turn. -/
def replay (inc : String → String → ℚ → Except Exception Unit) (billing : BillingState)
    (calls : List BillingCall) : BillingState :=
  calls.foldl (fun billing call => (respond inc billing call).1) billing

end AlianStructure.Source.Billing
