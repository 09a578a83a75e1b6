import Mathlib.Data.List.Sort
import Mathlib.Algebra.Order.Ring.Rat
import AlianStructure.Library.InsertionOrder

/-!
# The failover of compute providers

Source: src/infrastructure/ai-compute/provider-failover.ts. A look at the state of a provider may
change it, so that every query returns the providers as well. The order of names is that of the
host and is a parameter.
-/
namespace AlianStructure.Source.AiCompute
open Library.InsertionOrder

inductive CircuitState where
  | closed | opened | halfOpen
  deriving DecidableEq

structure BreakerConfig where
  failureThreshold : ℚ
  cooldownMs : ℚ
  deriving DecidableEq

structure ProviderState where
  name : String
  priority : ℚ
  consecutiveFailures : Nat
  state : CircuitState
  openedAtMs : ℚ
  inFlight : Nat
  deriving DecidableEq

structure ProviderInit where
  name : String
  priority : Option ℚ
  deriving DecidableEq

abbrev Providers : Type := OrderedMap String ProviderState

namespace ProviderFailover

def newProvider (provider : ProviderInit) (index : Nat) : ProviderState where
  name := provider.name
  priority := provider.priority.getD index
  consecutiveFailures := 0
  state := .closed
  openedAtMs := 0
  inFlight := 0

/-- Of several providers with one name the last is kept, in the first one's place. -/
def create (init : List ProviderInit) : Providers :=
  init.zipIdx.foldl (fun providers entry =>
    providers.set entry.1.name (newProvider entry.1 entry.2)) .empty

variable (cfg : BreakerConfig) (localeCompare : String → String → Int)

/-- The provider with its state at a time: open turns into half-open after the cooldown. -/
def effectiveState (p : ProviderState) (nowMs : ℚ) : ProviderState :=
  if p.state = .opened ∧ cfg.cooldownMs ≤ nowMs - p.openedAtMs then { p with state := .halfOpen }
  else p

/-- Look at the states of some providers. -/
def observe (providers : Providers) (looksAt : String → Bool) (nowMs : ℚ) : Providers :=
  providers.adjust looksAt fun p => effectiveState cfg p nowMs

def isAvailable (providers : Providers) (name : String) (nowMs : ℚ) : Providers × Bool :=
  let providers := observe cfg providers (fun other => decide (other = name)) nowMs
  match providers.get? name with
  | none => (providers, false)
  | some p => (providers, decide (p.state ≠ .opened))

/-- The providers that are not open, as they are. -/
def available (providers : Providers) : List ProviderState :=
  (providers.entries.map Prod.snd).filter fun p => decide (p.state ≠ .opened)

/-- Least loaded first, then by priority and name. -/
def order (a b : ProviderState) : ℚ :=
  if a.inFlight ≠ b.inFlight then a.inFlight - b.inFlight
  else if a.priority ≠ b.priority then a.priority - b.priority
  else localeCompare a.name b.name

def select (providers : Providers) (nowMs : ℚ) : Providers × Option String :=
  let providers := observe cfg providers (fun _ => true) nowMs
  let candidates := (available providers).insertionSort fun a b => order localeCompare a b ≤ 0
  (providers, candidates.head?.map (·.name))

/-- Change a provider, when there is one. -/
def onProvider (providers : Providers) (name : String) (change : ProviderState → ProviderState) :
    Providers :=
  providers.adjust (fun other => decide (other = name)) change

def acquired (p : ProviderState) : ProviderState := { p with inFlight := p.inFlight + 1 }

def acquire (providers : Providers) (name : String) : Providers := onProvider providers name acquired

def released (p : ProviderState) : ProviderState := { p with inFlight := p.inFlight - 1 }

def succeeded (p : ProviderState) : ProviderState :=
  released { p with consecutiveFailures := 0, state := .closed }

def recordSuccess (providers : Providers) (name : String) : Providers :=
  onProvider providers name succeeded

def failed (nowMs : ℚ) (p : ProviderState) : ProviderState :=
  let p := released p
  if p.state = .halfOpen then { p with state := .opened, openedAtMs := nowMs }
  else
    let p := { p with consecutiveFailures := p.consecutiveFailures + 1 }
    if cfg.failureThreshold ≤ p.consecutiveFailures then
      { p with state := .opened, openedAtMs := nowMs }
    else p

def recordFailure (providers : Providers) (name : String) (nowMs : ℚ) : Providers :=
  onProvider providers name (failed cfg nowMs)

end ProviderFailover

end AlianStructure.Source.AiCompute
