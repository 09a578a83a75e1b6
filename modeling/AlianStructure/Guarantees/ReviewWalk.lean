import AlianStructure.Library.KeysetWalk
import AlianStructure.Source.Discovery.AgentReviewsService

/-!
# Walking the approved reviews of an agent

Source: src/discovery/reviews/agent-reviews.service.ts:118-157 and
src/common/pagination/cursor-pagination.service.ts:28-99. A cursor keeps milliseconds: a review of
the same millisecond as the last one of a page is lost, unless both are on the millisecond.
-/
namespace AlianStructure.Guarantees.ReviewWalk
open Library.KeyedTable Library.KeysetWalk
open Source.Pagination CursorPaginationService Source.Discovery AgentReviewsService

/-- The next page, as a client that follows `endCursor` until `hasNextPage` is false gets it. -/
def fetch (reviews : Table AgentReview AgentReview.id) (agentId : String) (first : ℚ)
    (after : Option EncodedCursor) : Option (Page AgentReview EncodedCursor) :=
  match getApprovedReviewsConnection reviews agentId first after with
  | .ok connection => some {
      rows := connection.edges.map (·.node)
      next := if connection.pageInfo.hasNextPage then connection.pageInfo.endCursor else none }
  | .error _ => none

/-- Every approved review of the agent once, the latest first. -/
def Complete (reviews : Table AgentReview AgentReview.id) (agentId : String)
    (seen : List AgentReview) : Prop :=
  seen.Perm (approved reviews agentId) ∧ seen.Pairwise (descending (·.createdAt) (·.id))

/-- The approved reviews of the agent, the latest first. -/
def latestFirst (reviews : Table AgentReview AgentReview.id) (agentId : String) :
    List AgentReview :=
  (approved reviews agentId).insertionSort (descending (·.createdAt) (·.id))

/-- The position of a review, as a cursor has it. -/
def positionOf (review : AgentReview) : CursorPosition := ⟨toDate review.createdAt, review.id⟩

def cursorOf (review : AgentReview) : EncodedCursor := ⟨1, toDate review.createdAt, review.id⟩

def after (position : CursorPosition) (review : AgentReview) : Bool :=
  isAfter (·.createdAt) (·.id) position review

/-- The page size is accepted, every approved review has an id of the pattern, and the review that
opens a page comes after the position, in milliseconds, of the one before it. -/
structure Walkable (reviews : Table AgentReview AgentReview.id) (agentId : String)
    (first : Nat) : Prop where
  accepted : 1 ≤ first ∧ first ≤ 50
  ids : ∀ review ∈ approved reviews agentId, UUID_PATTERN review.id = true
  apart : ∀ n last next, (latestFirst reviews agentId)[(n + 1) * first - 1]? = some last →
    (latestFirst reviews agentId)[(n + 1) * first]? = some next → after (positionOf last) next = true

section Order

theorem descending_iff {a b : AgentReview} : descending (·.createdAt) (·.id) a b ↔ b.createdAt < a.createdAt ∨
      (b.createdAt = a.createdAt ∧ b.id.value.val ≤ a.id.value.val) := Iff.rfl

instance : Std.Total (descending (T := AgentReview) (·.createdAt) (·.id)) where
  total a b := by
    rw [descending_iff, descending_iff]
    omega

instance : IsTrans AgentReview (descending (·.createdAt) (·.id)) where
  trans a b c first second := by
    rw [descending_iff] at *
    omega

theorem descending_antisymm {reviews : Table AgentReview AgentReview.id} {a b : AgentReview}
    (inA : a ∈ reviews.rows) (inB : b ∈ reviews.rows)
    (forth : descending (·.createdAt) (·.id) a b) (back : descending (·.createdAt) (·.id) b a) : a = b := by
  rw [descending_iff] at forth back
  exact Table.eq_of_key_eq inA inB (Uuid.eq_of_val (by omega))

variable {review : AgentReview} {position : CursorPosition}

theorem after_iff : after position review = true ↔ review.createdAt < fromDate position.createdAt ∨
      (review.createdAt = fromDate position.createdAt ∧ review.id.value < position.id.value) :=
  decide_eq_true_iff

variable {review other : AgentReview}

theorem after_nested (first : after position review = true)
    (second : after (positionOf review) other = true) : after position other = true := by
  rw [after_iff] at *
  have below := fromDate_toDate_le review.createdAt
  simp only [positionOf] at second
  omega

theorem after_behind (first : after position review = true)
    (behind : descending (·.createdAt) (·.id) review other) : after position other = true := by
  rw [after_iff] at *
  rw [descending_iff] at behind
  omega

theorem not_after (ordered : descending (·.createdAt) (·.id) review other) :
    after (positionOf other) review = false := by
  rw [Bool.eq_false_iff, ne_eq, after_iff]
  have below := fromDate_toDate_le other.createdAt
  rw [descending_iff] at ordered
  simp only [positionOf]
  omega

end Order

section Pages
variable {reviews : Table AgentReview AgentReview.id} {agentId : String} {first : Nat}

theorem mem_latestFirst : review ∈ latestFirst reviews agentId ↔ review ∈ approved reviews agentId :=
  (List.perm_insertionSort _ _).mem_iff

theorem mem_rows (member : review ∈ approved reviews agentId) :
    review ∈ reviews.rows := (List.mem_filter.mp member).1

theorem latestFirst_complete (reviews : Table AgentReview AgentReview.id) (agentId : String) :
    Complete reviews agentId (latestFirst reviews agentId) :=
  ⟨List.perm_insertionSort _ _, List.pairwise_insertionSort _ _⟩

theorem latestFirst_nodup : (latestFirst reviews agentId).Nodup :=
  (List.perm_insertionSort _ _).nodup_iff.mpr
    ((List.Nodup.of_map AgentReview.id reviews.unique).filter _)

/-- The reviews as the pages of the service have them. -/
def keyset (reviews : Table AgentReview AgentReview.id) (agentId : String) :
    Keyset AgentReview EncodedCursor where
  rows := latestFirst reviews agentId
  distinct := latestFirst_nodup
  cursor := cursorOf
  selects c review := after ⟨c.createdAt, c.id⟩ review
  nested _ _ _ := after_nested

theorem refused_iff : (¬ ((first : ℚ).isInt = true) ∨ (first : ℚ) < 1 ∨ MAX_REVIEW_PAGE_SIZE < (first : ℚ)) ↔
      ¬ (1 ≤ first ∧ first ≤ 50) := by
  have isInt : (first : ℚ).isInt = true := by simp [Rat.isInt]
  have small : (first : ℚ) < 1 ↔ first < 1 := by exact_mod_cast Iff.rfl
  have large : MAX_REVIEW_PAGE_SIZE < (first : ℚ) ↔ 50 < first := by
    unfold MAX_REVIEW_PAGE_SIZE
    exact_mod_cast Iff.rfl
  rw [small, large]
  simp only [isInt, not_true_eq_false, false_or]
  omega

theorem toEdge_eq : toEdge review = if UUID_PATTERN review.id then .ok ⟨cursorOf review, review⟩
      else .error invalidCursor := by
  simp only [toEdge, encode, assertPosition]
  split <;> rfl

theorem mapM_toEdge {page : List AgentReview} (ids : ∀ review ∈ page, UUID_PATTERN review.id = true) :
    page.mapM toEdge = .ok (page.map fun review => ⟨cursorOf review, review⟩) := by
  induction page with
  | nil => rfl
  | cons review rest ih =>
    rw [List.mapM_cons, toEdge_eq, if_pos (ids review List.mem_cons_self),
      ih fun other member => ids other (List.mem_cons_of_mem _ member)]
    rfl

theorem ids_of_mapM {page : List AgentReview} {edges : List AgentReviewEdge} (made : page.mapM toEdge = .ok edges) :
    ∀ review ∈ edges.map (·.node), UUID_PATTERN review.id = true := by
  induction page generalizing edges with
  | nil =>
    cases made
    exact fun _ member => nomatch member
  | cons review rest ih =>
    rw [List.mapM_cons, toEdge_eq] at made
    split at made
    next matched =>
      cases others : rest.mapM toEdge with
      | error failure =>
        rw [others] at made
        cases made
      | ok tail =>
        rw [others] at made
        cases made
        intro other member
        rcases List.mem_cons.mp member with rfl | later
        · exact matched
        · exact ih others other later
    next => cases made

variable {cursor : Option EncodedCursor}

theorem applyDescendingKeyset_eq (ids : ∀ review ∈ approved reviews agentId, UUID_PATTERN review.id = true)
    (own : (keyset reviews agentId).Own cursor) :
    applyDescendingKeyset (·.createdAt) (·.id) (approved reviews agentId) cursor =
      .ok ((keyset reviews agentId).selected cursor) := by
  cases cursor with
  | none => rfl
  | some c =>
    obtain ⟨review, member, rfl⟩ := own c rfl
    have matched := ids review (mem_latestFirst.mp member)
    have decoded : decode (cursorOf review) = .ok (positionOf review) := by
      simp [decode, cursorOf, positionOf, assertPosition, matched, CURSOR_VERSION]
    have filtered : ((approved reviews agentId).filter (after (positionOf review))).insertionSort
        (descending (·.createdAt) (·.id)) =
        (latestFirst reviews agentId).filter (after (positionOf review)) :=
      insertionSort_filter _ fun a inA b inB => descending_antisymm (mem_rows inA) (mem_rows inB)
    exact (applyDescendingKeyset_some _ _ decoded).trans (congrArg Except.ok filtered)

/-- The rows that a page shows of those selected. -/
def shown (selected : List AgentReview) (first : Nat) : List AgentReview :=
  if decide (first < (selected.take (first + 1)).length) then (selected.take (first + 1)).take first
  else selected.take (first + 1)

theorem mem_of_shown (first : Nat) {selected : List AgentReview} (member : review ∈ shown selected first) :
    review ∈ selected := by
  unfold shown at member
  split at member
  next => exact List.mem_of_mem_take (List.mem_of_mem_take member)
  next => exact List.mem_of_mem_take member

theorem connection_eq (accepted : 1 ≤ first ∧ first ≤ 50) {selected : List AgentReview}
    (isSelected : applyDescendingKeyset (·.createdAt) (·.id) (approved reviews agentId) cursor = .ok selected)
    (ids : ∀ review ∈ selected, UUID_PATTERN review.id = true) :
    getApprovedReviewsConnection reviews agentId first cursor =
      let edges : List AgentReviewEdge :=
        (shown selected first).map fun review => ⟨cursorOf review, review⟩
      .ok {
        edges := edges
        pageInfo := {
          hasNextPage := decide (first < (selected.take (first + 1)).length)
          hasPreviousPage := cursor.isSome
          startCursor := edges.head?.map (·.cursor)
          endCursor := edges.getLast?.map (·.cursor) } } := by
  rw [getApprovedReviewsConnection, if_neg (fun refused => refused_iff.mp refused accepted),
    isSelected]
  have edges := mapM_toEdge fun review member => ids review (mem_of_shown first member)
  simp only [Rat.num_natCast, Int.toNat_natCast]
  change ((shown selected first).mapM toEdge >>= fun edges => _) = _
  rw [edges]
  rfl

theorem fetch_eq (accepted : 1 ≤ first ∧ first ≤ 50)
    (ids : ∀ review ∈ approved reviews agentId, UUID_PATTERN review.id = true)
    (own : (keyset reviews agentId).Own cursor) :
    fetch reviews agentId first cursor = some ((keyset reviews agentId).page first cursor) := by
  rw [fetch, connection_eq accepted (applyDescendingKeyset_eq ids own) fun review member =>
    ids review (mem_latestFirst.mp (Keyset.selected_subset member))]
  generalize isRows : ((keyset reviews agentId).selected cursor).take (first + 1) = rows
  unfold Keyset.page shown
  simp only [isRows, decide_eq_true_eq]
  by_cases more : first < rows.length
  · simp only [if_pos more, List.map_map, List.getLast?_map, Option.map_map]
    exact congrArg some (congrArg₂ Page.mk (List.map_id _) rfl)
  · simp only [if_neg more, List.map_map]
    exact congrArg some (congrArg₂ Page.mk (List.map_id _) rfl)

/-- A page is answered only for a page size that is accepted, with reviews whose ids have the
pattern. -/
theorem fetch_accepted {page : Page AgentReview EncodedCursor}
    (fetched : fetch reviews agentId first cursor = some page) :
    (1 ≤ first ∧ first ≤ 50) ∧ ∀ review ∈ page.rows, UUID_PATTERN review.id = true := by
  unfold fetch at fetched
  split at fetched
  next connection answered =>
    cases fetched
    rw [getApprovedReviewsConnection] at answered
    by_cases refused : ¬ ((first : ℚ).isInt = true) ∨ (first : ℚ) < 1 ∨
        MAX_REVIEW_PAGE_SIZE < (first : ℚ)
    · rw [if_pos refused] at answered
      cases answered
    · rw [if_neg refused] at answered
      refine ⟨Decidable.not_not.mp fun outside => refused (refused_iff.mpr outside), ?_⟩
      cases isSelected : applyDescendingKeyset (·.createdAt) (·.id) (approved reviews agentId) cursor with
      | error failure =>
        rw [isSelected] at answered
        cases answered
      | ok selected =>
        rw [isSelected] at answered
        simp only [Rat.num_natCast, Int.toNat_natCast] at answered
        change ((shown selected first).mapM toEdge >>= fun edges => _) = _ at answered
        cases made : (shown selected first).mapM toEdge with
        | error failure =>
          rw [made] at answered
          cases answered
        | ok edges =>
          rw [made] at answered
          cases answered
          exact ids_of_mapM made
  next => cases fetched

theorem walk_accepted {seen : List AgentReview} (walk : Walk (fetch reviews agentId first) cursor seen) :
    (1 ≤ first ∧ first ≤ 50) ∧ ∀ review ∈ seen, UUID_PATTERN review.id = true := by
  induction walk with
  | last fetched => exact fetch_accepted fetched
  | more fetched later ih =>
    refine ⟨ih.1, fun review member => ?_⟩
    rcases List.mem_append.mp member with here | there
    · exact (fetch_accepted fetched).2 review here
    · exact ih.2 review there

theorem seamless_iff_apart (pos : 0 < first) : (keyset reviews agentId).Seamless first ↔
    ∀ n last next, (latestFirst reviews agentId)[(n + 1) * first - 1]? = some last →
      (latestFirst reviews agentId)[(n + 1) * first]? = some next → after (positionOf last) next = true :=
  Keyset.seamless_iff_next pos (latestFirst_complete reviews agentId).2
    (fun _ _ _ => after_behind) (fun _ => not_after (Or.inr ⟨rfl, le_refl _⟩))
    (fun _ _ => not_after)

end Pages

/-- Following the cursors returns every approved review of the agent once, the latest first, exactly
when the set of reviews can be walked with the page size. -/
theorem review_walk_iff (reviews : Table AgentReview AgentReview.id) (agentId : String) (first : Nat) :
    (∃ seen, Walk (fetch reviews agentId first) none seen ∧ Complete reviews agentId seen) ↔
      Walkable reviews agentId first := by
  have complete : ∀ seen, Complete reviews agentId seen →
      seen.Perm (keyset reviews agentId).rows := fun seen whole =>
    whole.1.trans (latestFirst_complete reviews agentId).1.symm
  constructor
  · rintro ⟨seen, walk, whole⟩
    obtain ⟨accepted, matched⟩ := walk_accepted walk
    have ids : ∀ review ∈ approved reviews agentId, UUID_PATTERN review.id = true :=
      fun review member => matched review (whole.1.symm.subset member)
    have seamless := (Keyset.walk_iff_seamless (fun _ own => fetch_eq accepted ids own) accepted.1
      complete (latestFirst_complete reviews agentId)).mp ⟨seen, walk, whole⟩
    exact ⟨accepted, ids, (seamless_iff_apart accepted.1).mp seamless⟩
  · rintro ⟨accepted, ids, apart⟩
    exact (Keyset.walk_iff_seamless (fun _ own => fetch_eq accepted ids own) accepted.1 complete
      (latestFirst_complete reviews agentId)).mpr ((seamless_iff_apart accepted.1).mpr apart)

/-- An id of the pattern. -/
def sampleId (n : Fin 100) : Uuid :=
  ⟨⟨4 * 2 ^ 76 + 8 * 2 ^ 60 + n, by omega⟩⟩

def sampleReview (n : Fin 100) (createdAt : Int) : AgentReview :=
  ⟨sampleId n, "agent", "user", 5, none, .approved, createdAt⟩

/-- Two reviews of one millisecond, 300 microseconds apart. -/
def sampleReviews : Table AgentReview AgentReview.id :=
  ⟨[sampleReview 1 1000500, sampleReview 2 1000200], by decide +kernel⟩

theorem review_lost :
    ¬ ∃ seen, Walk (fetch sampleReviews "agent" (1 : Nat)) none seen ∧
      Complete sampleReviews "agent" seen := by
  rintro ⟨seen, walk, whole, _⟩
  have first : fetch sampleReviews "agent" (1 : Nat) none =
      some ⟨[sampleReview 1 1000500], some ⟨1, 1000, sampleId 1⟩⟩ := by decide +kernel
  have second : fetch sampleReviews "agent" (1 : Nat) (some ⟨1, 1000, sampleId 1⟩) =
      some ⟨[], none⟩ := by decide +kernel
  have only : seen = [sampleReview 1 1000500] ++ [] := walk.unique (.more first (.last second))
  have short := whole.length_eq
  rw [only] at short
  exact absurd short (by decide +kernel)

end AlianStructure.Guarantees.ReviewWalk
