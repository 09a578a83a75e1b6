import Mathlib.Algebra.Order.Ring.Rat
import AlianStructure.Library.KeyedTable
import AlianStructure.Source.Pagination.CursorPaginationService

/-!
# The approved reviews of an agent

Source: src/discovery/reviews/agent-reviews.service.ts:18-37,114-157 and the review entity.
-/
namespace AlianStructure.Source.Discovery
open Library.KeyedTable Pagination CursorPaginationService

inductive ReviewStatus where
  | pending | approved | rejected | flagged
  deriving DecidableEq

structure AgentReview where
  id : Uuid
  agentId : String
  userId : String
  rating : Nat
  reviewText : Option String
  status : ReviewStatus
  createdAt : Int
  deriving DecidableEq

structure AgentReviewEdge where
  cursor : EncodedCursor
  node : AgentReview
  deriving DecidableEq

structure PageInfo where
  hasNextPage : Bool
  hasPreviousPage : Bool
  startCursor : Option EncodedCursor
  endCursor : Option EncodedCursor
  deriving DecidableEq

structure AgentReviewConnection where
  edges : List AgentReviewEdge
  pageInfo : PageInfo
  deriving DecidableEq

namespace AgentReviewsService

def MAX_REVIEW_PAGE_SIZE : ℚ := 50

/-- The reviews that a query of the agent selects. -/
def approved (reviews : Table AgentReview AgentReview.id) (agentId : String) : List AgentReview :=
  reviews.rows.filter fun review =>
    decide (review.agentId = agentId) && decide (review.status = .approved)

def toEdge (node : AgentReview) : Except Exception AgentReviewEdge := do
  let cursor ← encode { createdAt := toDate node.createdAt, id := node.id }
  pure { cursor := cursor, node := node }

def getApprovedReviewsConnection (reviews : Table AgentReview AgentReview.id) (agentId : String)
    (first : ℚ) (after : Option EncodedCursor) : Except Exception AgentReviewConnection := do
  if ¬ first.isInt ∨ first < 1 ∨ MAX_REVIEW_PAGE_SIZE < first then
    throw (.badRequest "first must be an integer between 1 and 50")
  let first := first.num.toNat
  let selected ← applyDescendingKeyset (·.createdAt) (·.id) (approved reviews agentId) after
  let rows := selected.take (first + 1)
  let hasNextPage := decide (first < rows.length)
  let page := if hasNextPage then rows.take first else rows
  let edges ← page.mapM toEdge
  pure {
    edges := edges
    pageInfo := {
      hasNextPage := hasNextPage
      hasPreviousPage := after.isSome
      startCursor := edges.head?.map (·.cursor)
      endCursor := edges.getLast?.map (·.cursor) } }

end AgentReviewsService

end AlianStructure.Source.Discovery
