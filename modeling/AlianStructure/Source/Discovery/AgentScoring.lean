import Mathlib.Data.Rat.Floor
import AlianStructure.Library.ExactNumber

/-!
# The scores of agents

Source: src/discovery/algorithms/agent-scoring.ts:15-188. Numbers have exact values; weights are finite. The logistic
curve of `normalizeRoi`, the collation of `localeCompare` and the reading of numerals by `Number` are arguments.
-/
namespace AlianStructure.Source.Discovery
open Library.ExactNumber

/-- A curve that grows from 0 to 1, without reaching either. -/
structure RoiCurve where
  value : ℚ → ℚ
  positive : ∀ roi, 0 < value roi
  below : ∀ roi, value roi < 1
  grows : StrictMono value

/-- A comparison of texts that orders them. -/
structure Collation where
  localeCompare : String → String → Int
  reverses : ∀ a b, localeCompare a b = -localeCompare b a
  transitive : ∀ a b c, localeCompare a b ≤ 0 → localeCompare b c ≤ 0 → localeCompare a c ≤ 0

structure AgentMetrics where
  agentId : String
  successRate : Option (Number ℚ)
  roi : Option (Number ℚ)
  risk : Option (Number ℚ)
  userRating : Option (Number ℚ)
  executions : Option ℚ
  deriving DecidableEq

structure ScoringWeights where
  successRate : ℚ
  roi : ℚ
  risk : ℚ
  userRating : ℚ
  deriving DecidableEq

structure PartialScoringWeights where
  successRate : Option ℚ
  roi : Option ℚ
  risk : Option ℚ
  userRating : Option ℚ
  deriving DecidableEq

def DEFAULT_WEIGHTS : ScoringWeights where
  successRate := 4 / 10
  roi := 3 / 10
  risk := 2 / 10
  userRating := 1 / 10

def ScoringWeights.total (weights : ScoringWeights) : ℚ :=
  weights.successRate + weights.roi + weights.risk + weights.userRating

structure ScoreBreakdown where
  successRate : ℚ
  roi : ℚ
  risk : ℚ
  userRating : ℚ
  deriving DecidableEq

structure AgentScore where
  agentId : String
  score : ℚ
  breakdown : ScoreBreakdown
  executions : ℚ
  deriving DecidableEq

structure RankedAgent extends AgentScore where
  rank : Nat
  deriving DecidableEq

namespace AgentScoring

def clamp (n : Number ℚ) (lo hi : ℚ) : ℚ :=
  match n with
  | .finite value => min hi (max lo value)
  | _ => lo

/-- `Number.EPSILON`. -/
def EPSILON : ℚ := 1 / 2 ^ 52

/-- Round to two decimals, halves upwards. -/
def round (n : ℚ) : ℚ := ⌊(n + EPSILON) * 100 + 1 / 2⌋ / 100

def normalizeRoi (curve : RoiCurve) (roi : Number ℚ) : ℚ :=
  curve.value (match roi with
    | .finite value => value
    | _ => 0)

/-- The weights that are given, and the default ones in place of the others. -/
def merge (weights : Option PartialScoringWeights) : ScoringWeights where
  successRate := (weights.bind PartialScoringWeights.successRate).getD DEFAULT_WEIGHTS.successRate
  roi := (weights.bind PartialScoringWeights.roi).getD DEFAULT_WEIGHTS.roi
  risk := (weights.bind PartialScoringWeights.risk).getD DEFAULT_WEIGHTS.risk
  userRating := (weights.bind PartialScoringWeights.userRating).getD DEFAULT_WEIGHTS.userRating

def resolveWeights (weights : Option PartialScoringWeights) : ScoringWeights :=
  let merged := merge weights
  let total := merged.total
  if total ≤ 0 then DEFAULT_WEIGHTS
  else if |total - 1| < 1 / 10 ^ 9 then merged
  else {
    successRate := merged.successRate / total
    roi := merged.roi / total
    risk := merged.risk / total
    userRating := merged.userRating / total }

def breakdown (curve : RoiCurve) (m : AgentMetrics) : ScoreBreakdown where
  successRate := clamp (m.successRate.getD (.finite 0)) 0 1
  roi := normalizeRoi curve (m.roi.getD (.finite 0))
  risk := 1 - clamp (m.risk.getD (.finite 0)) 0 1
  userRating := clamp (m.userRating.getD (.finite 0) / .finite 5) 0 1

/-- The weighted sum of the components. -/
def weighted (b : ScoreBreakdown) (w : ScoringWeights) : ℚ :=
  b.successRate * w.successRate + b.roi * w.roi + b.risk * w.risk + b.userRating * w.userRating

def score (curve : RoiCurve) (m : AgentMetrics) (weights : Option PartialScoringWeights) : AgentScore where
  agentId := m.agentId
  score := round (weighted (breakdown curve m) (resolveWeights weights) * 100)
  breakdown := breakdown curve m
  executions := m.executions.getD 0

/-- The first difference that is not zero. -/
def compare (collation : Collation) (x y : AgentScore) : ℚ :=
  if y.score - x.score ≠ 0 then y.score - x.score
  else if y.executions - x.executions ≠ 0 then y.executions - x.executions
  else collation.localeCompare x.agentId y.agentId

def rank (curve : RoiCurve) (collation : Collation) (agents : List AgentMetrics)
    (weights : Option PartialScoringWeights) : List RankedAgent :=
  let scored := agents.map fun agent => score curve agent weights
  (scored.mergeSort fun x y => decide (compare collation x y ≤ 0)).mapIdx fun i scored => { scored with rank := i + 1 }

def num (number : String → Number ℚ) (v : Option String) : Option ℚ :=
  match v.map number with
  | some (.finite n) => some n
  | _ => none

/-- The weights that an environment gives. -/
def envWeights (number : String → Number ℚ) (env : String → Option String) : PartialScoringWeights where
  successRate := num number (env "AGENT_SCORE_WEIGHT_SUCCESS")
  roi := num number (env "AGENT_SCORE_WEIGHT_ROI")
  risk := num number (env "AGENT_SCORE_WEIGHT_RISK")
  userRating := num number (env "AGENT_SCORE_WEIGHT_RATING")

def weightsFromEnv (number : String → Number ℚ) (env : String → Option String) : ScoringWeights :=
  resolveWeights (some (envWeights number env))

end AgentScoring
end AlianStructure.Source.Discovery
