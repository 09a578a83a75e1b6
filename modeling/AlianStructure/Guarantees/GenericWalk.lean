import AlianStructure.Library.KeysetWalk
import AlianStructure.Source.Pagination.GenericPagination

/-!
# Walking a table with the generic cursor

Source: src/common/pagination/cursor-pagination.service.ts:101-151,179-206. A backward page is taken from the beginning
of the table and turned around, so that it is the page before only when there is one page before, of one row.
-/
namespace AlianStructure.Guarantees.GenericWalk
open Library.KeysetWalk
open Source Source.Pagination GenericPagination

section Statement
variable {T V : Type} [LinearOrder V] (repository : Repository T V) (orderBy : String)
  (orderDirection : OrderDirection) (limit : Nat)

/-- A request for the page of a cursor. -/
def page (direction : Direction) (cursor : Option LegacyCursor) : Except Exception (PaginationResult T) :=
  paginateWithCursor repository ⟨cursor, limit, direction, orderBy, orderDirection⟩

/-- The page as a client that follows `nextCursor` gets it. -/
def forwards (cursor : Option LegacyCursor) : Option (Page T LegacyCursor) :=
  match page repository orderBy orderDirection limit .forward cursor with
  | .ok result => some ⟨result.data, result.nextCursor⟩
  | .error _ => none

/-- The cursors of the pages that a client gets to from the first. -/
inductive Reached : Option LegacyCursor → Prop where
  | first : Reached none
  | next {after : Option LegacyCursor} {result : PaginationResult T} {cursor : LegacyCursor} (reached : Reached after)
      (got : page repository orderBy orderDirection limit .forward after = .ok result)
      (more : result.nextCursor = some cursor) : Reached (some cursor)

/-- The pages that follow each other have every row once, in order, and a backward request with the cursor of a page
has the page before. -/
structure Walks : Prop where
  complete : ∃ seen, Walk (forwards repository orderBy orderDirection limit) none seen ∧ seen.Perm repository.rows ∧
    seen.Pairwise (before repository orderBy orderDirection)
  back : ∀ after earlier cursor later, Reached repository orderBy orderDirection limit after →
    page repository orderBy orderDirection limit .forward after = .ok earlier → earlier.nextCursor = some cursor →
    page repository orderBy orderDirection limit .forward (some cursor) = .ok later →
    ∃ previous result, later.prevCursor = some previous ∧
      page repository orderBy orderDirection limit .backward (some previous) = .ok result ∧
      result.data = earlier.data

/-- The rows in the order of the query. -/
def sorted : List T := repository.rows.insertionSort (before repository orderBy orderDirection)

/-- What the database reads the cursor of a row as. -/
def readCursor (row : T) : Except Exception (Option V) := do
  repository.read orderBy (← decodeLegacyCursor (encodeLegacyCursor (repository.record row)))

/-- The rows that the condition of a cursor selects. -/
def selects (direction : Direction) (cursor : Option V) (row : T) : Bool :=
  compares (getCursorOperator direction orderDirection) (repository.value orderBy row) cursor

/-- The cursor of a row selects the one behind it, and not the row; the cursor of that one selects the row before. -/
def Separated (first second : T) : Prop :=
  ∃ value other, readCursor repository orderBy first = .ok value ∧ readCursor repository orderBy second = .ok other ∧
    selects repository orderBy orderDirection .forward value first = false ∧
    selects repository orderBy orderDirection .forward value second = true ∧
    selects repository orderBy orderDirection .backward other first = true

end Statement

section Order
variable {T V : Type} [LinearOrder V] {repository : Repository T V} {orderBy : String}
  {orderDirection : OrderDirection} {a b c : T}

theorem ascends_total (a b : T) : ascends repository orderBy a b ∨ ascends repository orderBy b a := by
  unfold ascends
  rcases lt_trichotomy (repository.value orderBy a) (repository.value orderBy b) with less | same | more
  · exact Or.inl (Or.inl less)
  · rcases le_total (repository.value "id" a) (repository.value "id" b) with le | le
    · exact Or.inl (Or.inr ⟨same, Or.inr le⟩)
    · exact Or.inr (Or.inr ⟨same.symm, Or.inr le⟩)
  · exact Or.inr (Or.inl more)

theorem ascends_trans (first : ascends repository orderBy a b) (second : ascends repository orderBy b c) :
    ascends repository orderBy a c := by
  unfold ascends at *
  rcases first with less | ⟨same, tie⟩ <;> rcases second with less' | ⟨same', tie'⟩
  · exact Or.inl (less.trans less')
  · exact Or.inl (same' ▸ less)
  · exact Or.inl (same ▸ less')
  · refine Or.inr ⟨same.trans same', ?_⟩
    rcases tie with byId | le
    · exact Or.inl byId
    · exact tie'.imp_right le.trans

theorem ascends_antisymm (listedA : a ∈ repository.rows) (listedB : b ∈ repository.rows)
    (forth : ascends repository orderBy a b) (back : ascends repository orderBy b a) : a = b := by
  have sameId : repository.value "id" a = repository.value "id" b := by
    rcases forth with less | ⟨same, tie⟩ <;> rcases back with less' | ⟨same', tie'⟩
    · exact absurd less' less.asymm
    · exact absurd less (same'.symm ▸ lt_irrefl _)
    · exact absurd less' (same.symm ▸ lt_irrefl _)
    · rcases tie with rfl | le
      · exact same
      · rcases tie' with rfl | le'
        · exact same
        · exact le_antisymm le le'
  exact List.inj_on_of_nodup_map repository.unique listedA listedB sameId

theorem before_antisymm (listedA : a ∈ repository.rows) (listedB : b ∈ repository.rows)
    (forth : before repository orderBy orderDirection a b) (back : before repository orderBy orderDirection b a) :
    a = b := by
  cases orderDirection with
  | ASC => exact ascends_antisymm listedA listedB forth back
  | DESC => exact ascends_antisymm listedA listedB back forth

instance : Std.Total (before repository orderBy orderDirection) := by
  constructor
  intro a b
  cases orderDirection with
  | ASC => exact ascends_total a b
  | DESC => exact ascends_total b a

instance : IsTrans T (before repository orderBy orderDirection) := by
  constructor
  intro a b c first second
  cases orderDirection with
  | ASC => exact ascends_trans first second
  | DESC => exact ascends_trans second first

theorem below_iff {value : WithTop V} {cursor : Option V} :
    compares .below value cursor = true ↔ ∃ x y : V, value = x ∧ cursor = some y ∧ x < y := by
  cases value with
  | top =>
    have never : compares .below (⊤ : WithTop V) cursor = false := by cases cursor <;> rfl
    rw [never]
    constructor
    · exact fun absurdly => Bool.noConfusion absurdly
    · rintro ⟨_, _, isTop, _⟩
      cases isTop
  | coe x =>
    cases cursor with
    | none =>
      constructor
      · exact fun absurdly => Bool.noConfusion absurdly
      · rintro ⟨_, _, _, isNone, _⟩
        cases isNone
    | some y =>
      refine ⟨fun below => ⟨x, y, rfl, rfl, of_decide_eq_true below⟩, fun ⟨x', y', isX, isY, less⟩ => ?_⟩
      cases WithTop.coe_injective isX
      cases isY
      exact decide_eq_true less

theorem above_iff {value : WithTop V} {cursor : Option V} :
    compares .above value cursor = true ↔ ∃ x y : V, value = x ∧ cursor = some y ∧ y < x := by
  cases value with
  | top =>
    have never : compares .above (⊤ : WithTop V) cursor = false := by cases cursor <;> rfl
    rw [never]
    constructor
    · exact fun absurdly => Bool.noConfusion absurdly
    · rintro ⟨_, _, isTop, _⟩
      cases isTop
  | coe x =>
    cases cursor with
    | none =>
      constructor
      · exact fun absurdly => Bool.noConfusion absurdly
      · rintro ⟨_, _, _, isNone, _⟩
        cases isNone
    | some y =>
      refine ⟨fun above => ⟨x, y, rfl, rfl, of_decide_eq_true above⟩, fun ⟨x', y', isX, isY, less⟩ => ?_⟩
      cases WithTop.coe_injective isX
      cases isY
      exact decide_eq_true less

theorem column_le (order : ascends repository orderBy a b) :
    repository.value orderBy a ≤ repository.value orderBy b :=
  order.elim le_of_lt fun same => same.1.le

/-- A row before one that a backward condition selects is selected too, unless it has no value. -/
theorem selects_before {value other : Option V} (order : before repository orderBy orderDirection a b)
    (selected : selects repository orderBy orderDirection .backward value b = true)
    (somewhere : selects repository orderBy orderDirection .backward other a = true) :
    selects repository orderBy orderDirection .backward value a = true := by
  cases orderDirection with
  | ASC =>
    obtain ⟨x, y, isX, isY, less⟩ := below_iff.mp selected
    obtain ⟨x', _, isX', _, _⟩ := below_iff.mp somewhere
    have le : (x' : WithTop V) ≤ x := isX' ▸ isX ▸ column_le order
    exact below_iff.mpr ⟨x', y, isX', isY, (WithTop.coe_le_coe.mp le).trans_lt less⟩
  | DESC =>
    obtain ⟨x, y, isX, isY, less⟩ := above_iff.mp selected
    obtain ⟨x', _, isX', _, _⟩ := above_iff.mp somewhere
    have le : (x : WithTop V) ≤ x' := isX' ▸ isX ▸ column_le order
    exact above_iff.mpr ⟨x', y, isX', isY, less.trans_le (WithTop.coe_le_coe.mp le)⟩

end Order

section Pages
variable {T V : Type} [LinearOrder V] {repository : Repository T V} {orderBy : String}
  {orderDirection : OrderDirection} {limit : Nat}

/-- The page of the rows selected, in their order. -/
def resultOf (repository : Repository T V) (limit : Nat) (direction : Direction) (hasPrevious : Bool)
    (selected : List T) : PaginationResult T :=
  let data := if direction = .backward then (selected.take limit).reverse else selected.take limit
  { data := data
    nextCursor := if limit < selected.length then
        data.getLast?.map fun row => encodeLegacyCursor (repository.record row) else none
    prevCursor := if hasPrevious then
        data.head?.map fun row => encodeLegacyCursor (repository.record row) else none
    hasMore := decide (limit < selected.length)
    hasPrevious := hasPrevious }

theorem hasMore_eq (rows : List T) : limit < (rows.take (limit + 1)).length ↔ limit < rows.length := by
  rw [List.length_take]
  omega

theorem trimmed_eq (rows : List T) : (if limit < rows.length then (rows.take (limit + 1)).dropLast
    else rows.take (limit + 1)) = rows.take limit := by
  split
  next more =>
    have readLength : (rows.take (limit + 1)).length - 1 = limit := by
      rw [List.length_take]
      omega
    rw [List.dropLast_eq_take, readLength, List.take_take, Nat.min_eq_left (Nat.le_succ limit)]
  next few =>
    have few : rows.length ≤ limit := Nat.le_of_not_lt few
    rw [List.take_of_length_le few, List.take_of_length_le (Nat.le_succ_of_le few)]

theorem paginate_of_query {options : CursorOptions} {rows : List T}
    (queried : createCursorQuery repository options = .ok (rows.take (options.limit + 1))) :
    paginateWithCursor repository options =
      .ok (resultOf repository options.limit options.direction options.cursor.isSome rows) := by
  simp only [paginateWithCursor, queried, resultOf]
  show Except.ok _ = _
  simp only [hasMore_eq, decide_eq_true_eq, trimmed_eq]

theorem page_first (direction : Direction) : page repository orderBy orderDirection limit direction none =
    .ok (resultOf repository limit direction false (sorted repository orderBy orderDirection)) :=
  paginate_of_query rfl

theorem filter_sorted (p : T → Bool) : (repository.rows.filter p).insertionSort
    (before repository orderBy orderDirection) = (sorted repository orderBy orderDirection).filter p :=
  insertionSort_filter p fun _ listedA _ listedB => before_antisymm listedA listedB

theorem query_cursor (direction : Direction) (row : T) : createCursorQuery repository
    ⟨some (encodeLegacyCursor (repository.record row)), limit, direction, orderBy, orderDirection⟩ =
    readCursor repository orderBy row >>= fun value => .ok (((sorted repository orderBy orderDirection).filter
      (selects repository orderBy orderDirection direction value)).take (limit + 1)) := by
  change (readCursor repository orderBy row >>= fun value => .ok (((repository.rows.filter
    (selects repository orderBy orderDirection direction value)).insertionSort
      (before repository orderBy orderDirection)).take (limit + 1))) = _
  simp only [filter_sorted]

theorem page_cursor {direction : Direction} {row : T} {value : Option V}
    (read : readCursor repository orderBy row = .ok value) :
    page repository orderBy orderDirection limit direction (some (encodeLegacyCursor (repository.record row))) =
      .ok (resultOf repository limit direction true ((sorted repository orderBy orderDirection).filter
        (selects repository orderBy orderDirection direction value))) := by
  refine paginate_of_query ?_
  rw [query_cursor, read]
  rfl

theorem page_refused {direction : Direction} {row : T} {failure : Exception}
    (read : readCursor repository orderBy row = .error failure) :
    page repository orderBy orderDirection limit direction (some (encodeLegacyCursor (repository.record row))) =
      .error failure := by
  unfold page paginateWithCursor
  rw [query_cursor, read]
  rfl

end Pages

section Walks
variable {T V : Type} [LinearOrder V] {repository : Repository T V} {orderBy : String}
  {orderDirection : OrderDirection} {limit : Nat}

variable {after : Option LegacyCursor}

theorem forwards_of_page {result : PaginationResult T}
    (paged : page repository orderBy orderDirection limit .forward after = .ok result) :
    forwards repository orderBy orderDirection limit after = some ⟨result.data, result.nextCursor⟩ := by
  unfold forwards
  rw [paged]

/-- What a walk from a cursor yields tells the page of the cursor, and where it goes on. -/
theorem page_of_walk {selected rest : List T} {hasPrevious : Bool}
    (walk : Walk (forwards repository orderBy orderDirection limit) after rest)
    (paged : page repository orderBy orderDirection limit .forward after =
      .ok (resultOf repository limit .forward hasPrevious selected)) :
    selected.take limit = rest.take limit ∧ (limit < rest.length → ∃ row, (rest.take limit).getLast? = some row ∧
      (resultOf repository limit .forward hasPrevious selected).nextCursor =
        some (encodeLegacyCursor (repository.record row)) ∧
      Walk (forwards repository orderBy orderDirection limit) (some (encodeLegacyCursor (repository.record row)))
        (rest.drop limit)) := by
  have got := forwards_of_page paged
  cases walk with
  | last fetched =>
    have isRest : rest = selected.take limit := (Page.mk.inj (Option.some.inj (fetched.symm.trans got))).1
    have short : rest.length ≤ limit := isRest ▸ List.length_take_le limit selected
    exact ⟨(List.take_of_length_le short).symm ▸ isRest.symm, fun longer => absurd short (Nat.not_le_of_lt longer)⟩
  | @more _ rows cursor later fetched walk =>
    obtain ⟨isRows, isCursor⟩ := Page.mk.inj (Option.some.inj (fetched.symm.trans got))
    change rows = selected.take limit at isRows
    have more : limit < selected.length := by
      by_contra few
      simp only [resultOf, if_neg few] at isCursor
      cases isCursor
    have length : rows.length = limit := by
      rw [isRows, List.length_take]
      omega
    have taken : (rows ++ later).take limit = rows := length ▸ List.take_left
    have dropped : (rows ++ later).drop limit = later := length ▸ List.drop_left
    refine ⟨isRows.symm.trans taken.symm, fun _ => ?_⟩
    simp only [resultOf, if_pos more, if_neg (by decide : ¬ Direction.forward = Direction.backward)] at isCursor ⊢
    rw [← isRows] at isCursor ⊢
    cases isLast : rows.getLast? with
    | none =>
      rw [isLast] at isCursor
      cases isCursor
    | some row =>
      rw [isLast] at isCursor
      cases isCursor
      exact ⟨row, by rw [taken, isLast], rfl, dropped.symm ▸ walk⟩

theorem read_of_walk {row : T} {rest : List T} (walk : Walk (forwards repository orderBy orderDirection limit)
    (some (encodeLegacyCursor (repository.record row))) rest) : ∃ value, readCursor repository orderBy row = .ok value := by
  cases read : readCursor repository orderBy row with
  | ok value => exact ⟨value, rfl⟩
  | error failure =>
    have nothing : forwards repository orderBy orderDirection limit
        (some (encodeLegacyCursor (repository.record row))) = none := by
      unfold forwards
      rw [page_refused read]
    cases walk with
    | last fetched => cases fetched.symm.trans nothing
    | more fetched => cases fetched.symm.trans nothing

theorem back_of_walks (walks : Walks repository orderBy orderDirection limit)
    (reached : Reached repository orderBy orderDirection limit after) {hasPrevious : Bool} {selected further : List T}
    (earlier : page repository orderBy orderDirection limit .forward after =
      .ok (resultOf repository limit .forward hasPrevious selected)) {cursor : LegacyCursor}
    (more : (resultOf repository limit .forward hasPrevious selected).nextCursor = some cursor)
    (later : page repository orderBy orderDirection limit .forward (some cursor) =
      .ok (resultOf repository limit .forward true further))
    {row : T} (starts : (further.take limit).head? = some row) :
    ∃ value, readCursor repository orderBy row = .ok value ∧ (((sorted repository orderBy orderDirection).filter
      (selects repository orderBy orderDirection .backward value)).take limit).reverse = selected.take limit := by
  obtain ⟨previous, result, isPrevious, paged, same⟩ := walks.back after _ cursor _ reached earlier more later
  have isCursor : previous = encodeLegacyCursor (repository.record row) := by
    simp only [resultOf, if_true, if_neg (by decide : ¬ Direction.forward = Direction.backward), starts] at isPrevious
    exact (Option.some.inj isPrevious).symm
  subst isCursor
  cases read : readCursor repository orderBy row with
  | error failure => cases (page_refused read).symm.trans paged
  | ok value =>
    cases (page_cursor read).symm.trans paged
    exact ⟨value, rfl, same⟩

theorem sorted_perm : (sorted repository orderBy orderDirection).Perm repository.rows := List.perm_insertionSort _ _

theorem sorted_pairwise : (sorted repository orderBy orderDirection).Pairwise
    (before repository orderBy orderDirection) := List.pairwise_insertionSort _ _

theorem sorted_nodup : (sorted repository orderBy orderDirection).Nodup :=
  sorted_perm.nodup_iff.mpr (List.Nodup.of_map _ repository.unique)

theorem walk_sorted (walks : Walks repository orderBy orderDirection limit) :
    Walk (forwards repository orderBy orderDirection limit) none (sorted repository orderBy orderDirection) := by
  obtain ⟨seen, walk, every, order⟩ := walks.complete
  have same : seen = sorted repository orderBy orderDirection :=
    (every.trans sorted_perm.symm).eq_of_pairwise (fun a b inA inB forth back =>
      before_antisymm (every.subset inA) (sorted_perm.subset inB) forth back) order sorted_pairwise
  exact same ▸ walk

/-- A page whose rows are in order whichever way they are read has at most one. -/
theorem short_of_reverse {rows turned : List T} (listed : rows.Sublist (sorted repository orderBy orderDirection))
    (order : turned.Pairwise (before repository orderBy orderDirection)) (same : turned.reverse = rows) :
    rows.length ≤ 1 := by
  match rows, listed, same with
  | [], _, _ => exact Nat.zero_le 1
  | [_], _, _ => exact Nat.le_refl 1
  | a :: b :: rest, listed, same =>
    have forth := List.rel_of_pairwise_cons (sorted_pairwise.sublist listed) (List.mem_cons_self)
    have reversed : (a :: b :: rest).Pairwise fun x y => before repository orderBy orderDirection y x := by
      rw [← same]
      exact List.pairwise_reverse.mpr order
    have back := List.rel_of_pairwise_cons reversed List.mem_cons_self
    have inA : a ∈ repository.rows := sorted_perm.subset (listed.subset List.mem_cons_self)
    have inB : b ∈ repository.rows := sorted_perm.subset (listed.subset (List.mem_cons_of_mem a List.mem_cons_self))
    have equal : a = b := before_antisymm inA inB forth back
    exact absurd (equal ▸ List.mem_cons_self) (List.nodup_cons.mp (sorted_nodup.sublist listed)).1

end Walks

section Result
variable {T V : Type} [LinearOrder V] {repository : Repository T V} {orderBy : String}
  {orderDirection : OrderDirection} {limit : Nat}

theorem selected_of_first {p : T → Bool} {rows : List T} {row : T} (taken : (rows.filter p).take 1 = [row]) :
    p row = true ∧ ∀ first rest, rows = first :: rest → p first = true → first = row := by
  constructor
  · have listed : row ∈ (rows.filter p).take 1 := taken ▸ List.mem_singleton_self row
    exact (List.mem_filter.mp (List.mem_of_mem_take listed)).2
  · rintro first rest rfl selected
    rw [List.filter_cons_of_pos selected] at taken
    exact List.head_eq_of_cons_eq taken

theorem one_of_walks (positive : 1 ≤ limit) {value : Option V}
    (turned : (((sorted repository orderBy orderDirection).filter
      (selects repository orderBy orderDirection .backward value)).take limit).reverse =
        (sorted repository orderBy orderDirection).take limit)
    (longer : limit < (sorted repository orderBy orderDirection).length) : limit = 1 := by
  have order : (((sorted repository orderBy orderDirection).filter
      (selects repository orderBy orderDirection .backward value)).take limit).Pairwise
        (before repository orderBy orderDirection) :=
    sorted_pairwise.sublist ((List.take_sublist limit _).trans List.filter_sublist)
  have short := short_of_reverse (List.take_sublist limit _) order turned
  rw [List.length_take] at short
  omega

theorem separated_of_walks (positive : 1 ≤ limit) (walks : Walks repository orderBy orderDirection limit)
    (further : limit < repository.rows.length) : limit = 1 ∧ ∃ first second,
      sorted repository orderBy orderDirection = [first, second] ∧
        Separated repository orderBy orderDirection first second := by
  have walk := walk_sorted walks
  have longer : limit < (sorted repository orderBy orderDirection).length := by
    rw [sorted_perm.length_eq]
    exact further
  have paged : page repository orderBy orderDirection limit .forward none =
      .ok (resultOf repository limit .forward false (sorted repository orderBy orderDirection)) := page_first .forward
  obtain ⟨-, goesOn⟩ := page_of_walk walk paged
  obtain ⟨first, isFirst, more, walk'⟩ := goesOn longer
  obtain ⟨value, read⟩ := read_of_walk walk'
  have paged' : page repository orderBy orderDirection limit .forward
      (some (encodeLegacyCursor (repository.record first))) = .ok (resultOf repository limit .forward true
        ((sorted repository orderBy orderDirection).filter
          (selects repository orderBy orderDirection .forward value))) := page_cursor read
  obtain ⟨isPage, goesOn'⟩ := page_of_walk walk' paged'
  obtain ⟨second, tail, isRest⟩ : ∃ second tail, (sorted repository orderBy orderDirection).drop limit = second :: tail :=
    List.exists_cons_of_length_pos (by rw [List.length_drop]; omega)
  rw [isRest] at isPage goesOn'
  have starts : ((second :: tail).take limit).head? = some second := by
    obtain ⟨pred, rfl⟩ := Nat.exists_eq_add_of_le' positive
    rfl
  obtain ⟨other, readOther, turned⟩ := back_of_walks walks .first paged more paged' (isPage ▸ starts)
  obtain rfl := one_of_walks positive turned longer
  obtain ⟨row, rest, isSorted⟩ := List.exists_cons_of_length_pos (Nat.zero_lt_of_lt longer)
  rw [isSorted] at isFirst isRest turned
  obtain rfl : row = first := Option.some.inj isFirst
  obtain rfl : rest = second :: tail := isRest
  have inOrder : (row :: second :: tail).Pairwise (before repository orderBy orderDirection) :=
    isSorted ▸ sorted_pairwise
  have distinct : (row :: second :: tail).Nodup := by
    rw [← isSorted]
    exact sorted_nodup
  have differ : row ≠ second := fun same => (List.nodup_cons.mp distinct).1 (same ▸ List.mem_cons_self)
  obtain ⟨rowBack, -⟩ := selected_of_first (List.reverse_eq_iff.mp turned)
  rw [isSorted] at isPage
  obtain ⟨secondAfter, firstAfter⟩ := selected_of_first isPage
  have rowAfter : selects repository orderBy orderDirection .forward value row = false := by
    by_contra selected
    exact differ (firstAfter row _ rfl (Bool.eq_true_of_not_eq_false selected))
  have isTail : tail = [] := by
    by_contra longerYet
    obtain ⟨third, later, rfl⟩ := List.exists_cons_of_ne_nil longerYet
    obtain ⟨last, isLast, more', walk''⟩ := goesOn' (Nat.lt_add_of_pos_left (Nat.succ_pos _))
    obtain rfl : second = last := Option.some.inj isLast
    have paged'' : page repository orderBy orderDirection 1 .forward
        (some (encodeLegacyCursor (repository.record second))) = .ok (resultOf repository 1 .forward true
          ((sorted repository orderBy orderDirection).filter
            (selects repository orderBy orderDirection .forward other))) := page_cursor readOther
    obtain ⟨isPage', -⟩ := page_of_walk walk'' paged''
    have starts' : (((sorted repository orderBy orderDirection).filter
        (selects repository orderBy orderDirection .forward other)).take 1).head? = some third := by
      rw [isPage']
      rfl
    obtain ⟨_, -, turned'⟩ := back_of_walks walks (.next .first paged more) paged' more' paged'' starts'
    rw [isSorted, isPage] at turned'
    -- the row before the second has a page of its own, so that the page of the third begins with it
    obtain ⟨secondBack, firstBack⟩ := selected_of_first (List.reverse_eq_iff.mp turned')
    exact differ (firstBack row _ rfl
      (selects_before (List.rel_of_pairwise_cons inOrder List.mem_cons_self) secondBack rowBack))
  exact ⟨rfl, row, second, isTail ▸ isSorted, value, other, read, readOther, rowAfter, secondAfter, rowBack⟩

theorem walks_of_single (single : repository.rows.length ≤ limit) : Walks repository orderBy orderDirection limit := by
  have few : ¬ limit < (sorted repository orderBy orderDirection).length := by
    rw [sorted_perm.length_eq]
    exact Nat.not_lt.mpr single
  have paged : page repository orderBy orderDirection limit .forward none =
      .ok (resultOf repository limit .forward false (sorted repository orderBy orderDirection)) := page_first .forward
  have ends : (resultOf repository limit .forward false (sorted repository orderBy orderDirection)).nextCursor = none :=
    if_neg few
  have got := forwards_of_page paged
  rw [ends] at got
  have whole : (resultOf repository limit .forward false (sorted repository orderBy orderDirection)).data =
      sorted repository orderBy orderDirection := List.take_of_length_le (Nat.le_of_not_lt few)
  rw [whole] at got
  have places : ∀ {after}, Reached repository orderBy orderDirection limit after → after = none := by
    intro after reached
    induction reached with
    | first => rfl
    | next _ got more ih =>
      subst ih
      cases paged.symm.trans got
      cases ends.symm.trans more
  refine ⟨⟨_, .last got, sorted_perm, sorted_pairwise⟩, fun after earlier cursor later reached first more _ => ?_⟩
  obtain rfl := places reached
  cases paged.symm.trans first
  cases ends.symm.trans more

theorem walks_of_separated {first second : T} (isSorted : sorted repository orderBy orderDirection = [first, second])
    (separated : Separated repository orderBy orderDirection first second) :
    Walks repository orderBy orderDirection 1 := by
  obtain ⟨value, other, read, readOther, firstAfter, secondAfter, firstBack⟩ := separated
  have paged : page repository orderBy orderDirection 1 .forward none =
      .ok ⟨[first], some (encodeLegacyCursor (repository.record first)), none, true, false⟩ := by
    rw [page_first, isSorted]
    rfl
  have paged' : page repository orderBy orderDirection 1 .forward
      (some (encodeLegacyCursor (repository.record first))) =
        .ok ⟨[second], none, some (encodeLegacyCursor (repository.record second)), false, true⟩ := by
    rw [page_cursor read, isSorted, List.filter_cons_of_neg (by simp [firstAfter]), List.filter_cons_of_pos secondAfter]
    rfl
  have turned : page repository orderBy orderDirection 1 .backward
      (some (encodeLegacyCursor (repository.record second))) =
        .ok (resultOf repository 1 .backward true (first :: [second].filter
          (selects repository orderBy orderDirection .backward other))) := by
    rw [page_cursor readOther, isSorted, List.filter_cons_of_pos firstBack]
  have places : ∀ {after}, Reached repository orderBy orderDirection 1 after →
      after = none ∨ after = some (encodeLegacyCursor (repository.record first)) := by
    intro after reached
    induction reached with
    | first => exact Or.inl rfl
    | next _ got more ih =>
      rcases ih with rfl | rfl
      · cases paged.symm.trans got
        exact Or.inr more.symm
      · cases paged'.symm.trans got
        cases more
  have every : [first, second].Perm repository.rows := by
    rw [← isSorted]
    exact sorted_perm
  have inOrder : [first, second].Pairwise (before repository orderBy orderDirection) := by
    rw [← isSorted]
    exact sorted_pairwise
  refine ⟨⟨_, .more (forwards_of_page paged) (.last (forwards_of_page paged')), every, inOrder⟩,
    fun after earlier cursor later reached got more got' => ?_⟩
  rcases places reached with rfl | rfl
  · cases paged.symm.trans got
    cases more
    cases paged'.symm.trans got'
    exact ⟨_, _, rfl, turned, rfl⟩
  · cases paged'.symm.trans got
    cases more

/-- The generic cursor walks a table just when it has one page, or two pages of one row that the cursors tell apart. -/
theorem walks_iff (repository : Repository T V) (orderBy : String) (orderDirection : OrderDirection) (limit : Nat)
    (positive : 1 ≤ limit) : Walks repository orderBy orderDirection limit ↔ repository.rows.length ≤ limit ∨
      (limit = 1 ∧ ∃ first second, sorted repository orderBy orderDirection = [first, second] ∧
        Separated repository orderBy orderDirection first second) := by
  constructor
  · intro walks
    rcases Nat.lt_or_ge limit repository.rows.length with further | single
    · exact Or.inr (separated_of_walks positive walks further)
    · exact Or.inl single
  · rintro (single | ⟨rfl, first, second, isSorted, separated⟩)
    · exact walks_of_single single
    · exact walks_of_separated isSorted separated

end Result

def days : List String := ["2024-03-01T00:00:00.000Z", "2024-03-02T00:00:00.000Z", "2024-03-03T00:00:00.000Z"]

def ids : List String := ["ada", "bob", "cleo"]

/-- Three rows, whose ids are in the order of their days. -/
def sample : Repository Nat Nat where
  rows := [0, 1, 2]
  value _ row := row
  record row := ⟨some (.string (ids.getD row "")), some (.string (days.getD row "")), none⟩
  read
    | column, some (.string text) => .ok (some ((if column = "id" then ids else days).idxOf text))
    | _, _ => .error (.error "invalid input syntax")
  unique := by decide

theorem one_page_walks : Walks sample "createdAt" .ASC 3 :=
  (walks_iff sample "createdAt" .ASC 3 (by decide)).mpr (.inl (by decide))

/-- The page before the second has its rows the other way around. -/
theorem page_before_reversed : ¬ Walks sample "createdAt" .ASC 2 ∧
    (page sample "createdAt" .ASC 2 .forward none).toOption.map PaginationResult.data = some [0, 1] ∧
    (page sample "createdAt" .ASC 2 .backward (some (encodeLegacyCursor (sample.record 2)))).toOption.map
      PaginationResult.data = some [1, 0] := by
  refine ⟨fun walks => ?_, by decide, by decide⟩
  have single : 2 = 1 := (separated_of_walks (by decide) walks (by decide)).1
  exact absurd single (by decide)

end AlianStructure.Guarantees.GenericWalk
