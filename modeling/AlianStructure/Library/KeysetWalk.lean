import Mathlib.Data.List.Sort

/-!
# Walking a table page by page

A page has the rows selected by a cursor, up to a limit, and the cursor of its last row when there
are more. Following the cursors yields the whole table, once and in order, exactly when the cursor
at the end of each page selects what comes behind it.
-/
namespace AlianStructure.Library.KeysetWalk

variable {Row Cursor : Type}

structure Page (Row Cursor : Type) where
  rows : List Row
  next : Option Cursor
  deriving DecidableEq

/-- Follow the cursors from one on until there is none: the rows of all pages. -/
inductive Walk (fetch : Option Cursor → Option (Page Row Cursor)) :
    Option Cursor → List Row → Prop where
  | last {after : Option Cursor} {rows : List Row} (fetched : fetch after = some ⟨rows, none⟩) :
      Walk fetch after rows
  | more {after : Option Cursor} {rows : List Row} {cursor : Cursor} {rest : List Row}
      (fetched : fetch after = some ⟨rows, some cursor⟩) (later : Walk fetch (some cursor) rest) :
      Walk fetch after (rows ++ rest)

/-- A walk has one result. -/
theorem Walk.unique {fetch : Option Cursor → Option (Page Row Cursor)} {after : Option Cursor}
    {first second : List Row} (one : Walk fetch after first) (other : Walk fetch after second) : first = second := by
  induction one generalizing second with
  | last fetched =>
    cases other with
    | last same =>
      cases fetched.symm.trans same
      rfl
    | more same later => cases fetched.symm.trans same
  | more fetched later ih =>
    cases other with
    | last same => cases fetched.symm.trans same
    | more same later' =>
      cases fetched.symm.trans same
      rw [ih later']

/-- Sorting what is selected selects from what is sorted. -/
theorem insertionSort_filter {r : Row → Row → Prop} [DecidableRel r] [Std.Total r] [IsTrans Row r]
    {rows : List Row} (p : Row → Bool) (antisymm : ∀ a ∈ rows, ∀ b ∈ rows, r a b → r b a → a = b) :
    (rows.filter p).insertionSort r = (rows.insertionSort r).filter p := by
  have same : ((rows.filter p).insertionSort r).Perm ((rows.insertionSort r).filter p) :=
    (List.perm_insertionSort r _).trans ((List.perm_insertionSort r rows).filter p).symm
  refine same.eq_of_pairwise (fun a b inA inB forth back => ?_) (List.pairwise_insertionSort r _)
    ((List.pairwise_insertionSort r rows).filter p)
  have listedA := (List.mem_filter.mp ((List.perm_insertionSort r _).subset inA)).1
  have listedB := (List.perm_insertionSort r rows).subset (List.mem_filter.mp inB).1
  exact antisymm a listedA b listedB forth back

/-- A table in its order, what the cursor of a row is and what it selects. A row selected by a cursor
has a cursor that selects no more. -/
structure Keyset (Row Cursor : Type) where
  rows : List Row
  distinct : rows.Nodup
  cursor : Row → Cursor
  selects : Cursor → Row → Bool
  nested : ∀ c row other, selects c row = true → selects (cursor row) other = true →
    selects c other = true

namespace Keyset
variable (keyset : Keyset Row Cursor) (limit : Nat)

def selected : Option Cursor → List Row
  | none => keyset.rows
  | some c => keyset.rows.filter (keyset.selects c)

/-- One row more than the limit tells that there is another page. -/
def page (after : Option Cursor) : Page Row Cursor :=
  let results := (keyset.selected after).take (limit + 1)
  if limit < results.length then
    ⟨results.take limit, (results.take limit).getLast?.map keyset.cursor⟩
  else ⟨results, none⟩

/-- The cursor at the end of each page but the last selects what comes behind it. -/
def Seamless : Prop :=
  ∀ n last, (n + 1) * limit < keyset.rows.length → keyset.rows[(n + 1) * limit - 1]? = some last →
    keyset.rows.filter (keyset.selects (keyset.cursor last)) = keyset.rows.drop ((n + 1) * limit)

/-- No cursor, or that of a row. -/
def Own (after : Option Cursor) : Prop := ∀ c ∈ after, ∃ row ∈ keyset.rows, c = keyset.cursor row

variable {keyset limit} {after : Option Cursor}

theorem selected_subset {row : Row} (member : row ∈ keyset.selected after) : row ∈ keyset.rows := by
  cases after with
  | none => exact member
  | some c => exact (List.mem_filter.mp member).1

/-- The page of a selection that fits, and of one that does not. -/
theorem page_fits (fits : (keyset.selected after).length ≤ limit) :
    keyset.page limit after = ⟨keyset.selected after, none⟩ := by
  have all : (keyset.selected after).take (limit + 1) = keyset.selected after :=
    List.take_of_length_le (Nat.le_succ_of_le fits)
  simp only [page, all]
  rw [if_neg (Nat.not_lt.mpr fits)]

theorem page_exceeds (exceeds : limit < (keyset.selected after).length) :
    keyset.page limit after = ⟨(keyset.selected after).take limit,
      ((keyset.selected after).take limit).getLast?.map keyset.cursor⟩ := by
  have more : limit < ((keyset.selected after).take (limit + 1)).length := by
    rw [List.length_take]
    omega
  simp only [page]
  rw [if_pos more, List.take_take, Nat.min_eq_left (Nat.le_succ limit)]

/-- The row before a place, when there is one. -/
theorem getLast?_take_drop {rows : List Row} {start count : Nat} (pos : 0 < count)
    (inside : start + count < rows.length) : ((rows.drop start).take count).getLast? = rows[start + count - 1]? := by
  rw [List.getLast?_eq_getElem?, List.length_take, List.length_drop,
    Nat.min_eq_left (by omega), List.getElem?_take, if_pos (by omega), List.getElem?_drop]
  congr 1
  omega

section Walks
variable {fetch : Option Cursor → Option (Page Row Cursor)}

/-- A walk meets only rows that its first cursor selects. -/
theorem walk_selected (pages : ∀ after, keyset.Own after → fetch after = some (keyset.page limit after))
    {seen : List Row} (walk : Walk fetch after seen) (own : keyset.Own after) :
    ∀ row ∈ seen, row ∈ keyset.selected after := by
  induction walk with
  | @last after rows fetched =>
    intro row member
    have same := Option.some.inj (fetched.symm.trans (pages after own))
    by_cases fits : (keyset.selected after).length ≤ limit
    · rw [page_fits fits] at same
      cases same
      exact member
    · rw [page_exceeds (Nat.lt_of_not_le fits)] at same
      obtain ⟨rfl, _⟩ := Page.mk.inj same
      exact List.mem_of_mem_take member
  | @more after rows cursor rest fetched later ih =>
    intro row member
    have same := Option.some.inj (fetched.symm.trans (pages after own))
    by_cases fits : (keyset.selected after).length ≤ limit
    · rw [page_fits fits] at same
      cases same
    · rw [page_exceeds (Nat.lt_of_not_le fits)] at same
      obtain ⟨rfl, isCursor⟩ := Page.mk.inj same
      obtain ⟨last, isLast, rfl⟩ := Option.map_eq_some_iff.mp isCursor.symm
      have lastIn : last ∈ keyset.selected after :=
        List.mem_of_mem_take (List.mem_of_getLast? isLast)
      rcases List.mem_append.mp member with here | there
      · exact List.mem_of_mem_take here
      · have ownLast : keyset.Own (some (keyset.cursor last)) := by
          rintro _ ⟨⟩
          exact ⟨last, selected_subset lastIn, rfl⟩
        obtain ⟨inTable, isUnder⟩ := List.mem_filter.mp (ih ownLast row there)
        cases after with
        | none => exact inTable
        | some c =>
          exact List.mem_filter.mpr
            ⟨inTable, keyset.nested c last row (List.mem_filter.mp lastIn).2 isUnder⟩

/-- A walk meets the first row selected. -/
theorem walk_first (pages : ∀ after, keyset.Own after → fetch after = some (keyset.page limit after))
    (pos : 0 < limit) {seen : List Row} (walk : Walk fetch after seen) (own : keyset.Own after)
    {row : Row} {rest : List Row} (first : keyset.selected after = row :: rest) : row ∈ seen := by
  have shown : row ∈ (keyset.page limit after).rows := by
    by_cases fits : (keyset.selected after).length ≤ limit
    · rw [page_fits fits, first]
      exact List.mem_cons_self
    · rw [page_exceeds (Nat.lt_of_not_le fits), first]
      obtain ⟨n, rfl⟩ := Nat.exists_eq_succ_of_ne_zero (Nat.pos_iff_ne_zero.mp pos)
      exact List.mem_cons_self
  cases walk with
  | last fetched =>
    rw [← Option.some.inj (fetched.symm.trans (pages after own))] at shown
    exact shown
  | more fetched later =>
    rw [← Option.some.inj (fetched.symm.trans (pages after own))] at shown
    exact List.mem_append_left _ shown

/-- A selection that contains what is behind a place, and whose first row is there, is what is
behind it. -/
theorem selected_eq_drop {c : Cursor} {place : Nat}
    (behind : ∀ row ∈ keyset.rows.drop place, keyset.selects c row = true)
    (first : ∀ row rest, keyset.rows.filter (keyset.selects c) = row :: rest → row ∈ keyset.rows.drop place) :
    keyset.rows.filter (keyset.selects c) = keyset.rows.drop place := by
  have parts : keyset.rows.filter (keyset.selects c) =
      (keyset.rows.take place).filter (keyset.selects c) ++ keyset.rows.drop place := by
    conv_lhs => rw [← List.take_append_drop place keyset.rows, List.filter_append]
    rw [List.filter_eq_self.mpr behind]
  cases before : (keyset.rows.take place).filter (keyset.selects c) with
  | nil =>
    rw [parts, before]
    rfl
  | cons row rest =>
    have inFront : row ∈ keyset.rows.take place := by
      have member : row ∈ (keyset.rows.take place).filter (keyset.selects c) :=
        before ▸ List.mem_cons_self
      exact (List.mem_filter.mp member).1
    have inBack := first row (rest ++ keyset.rows.drop place) (by rw [parts, before]; rfl)
    have apart : List.Disjoint (keyset.rows.take place) (keyset.rows.drop place) :=
      List.disjoint_of_nodup_append ((List.take_append_drop place keyset.rows).symm ▸ keyset.distinct)
    exact absurd inBack fun later => apart inFront later

/-- The boundaries of a walk that meets every row from a place on once. -/
theorem seamless_of_walk (pages : ∀ after, keyset.Own after → fetch after = some (keyset.page limit after))
    (pos : 0 < limit) {seen : List Row} (walk : Walk fetch after seen) :
    ∀ n, keyset.Own after → keyset.selected after = keyset.rows.drop (n * limit) →
      seen.Perm (keyset.rows.drop (n * limit)) → ∀ m last, n ≤ m →
        (m + 1) * limit < keyset.rows.length → keyset.rows[(m + 1) * limit - 1]? = some last →
          keyset.rows.filter (keyset.selects (keyset.cursor last)) = keyset.rows.drop ((m + 1) * limit) := by
  induction walk with
  | @last after rows fetched =>
    intro n own from_n perm m last later inside isLast
    have same := Option.some.inj (fetched.symm.trans (pages after own))
    have fits : (keyset.selected after).length ≤ limit := by
      by_contra exceeds
      rw [page_exceeds (Nat.lt_of_not_le exceeds)] at same
      have filled : (keyset.selected after).take limit ≠ [] := by
        intro empty
        have none_shown := congrArg List.length empty
        rw [List.length_take, List.length_nil] at none_shown
        omega
      rw [List.getLast?_eq_some_getLast filled] at same
      cases same
    rw [from_n, List.length_drop] at fits
    have far : (n + 1) * limit ≤ (m + 1) * limit := Nat.mul_le_mul_right limit (by omega)
    rw [Nat.succ_mul] at far
    omega
  | @more after rows cursor rest fetched walk ih =>
    intro n own from_n perm
    have same := Option.some.inj (fetched.symm.trans (pages after own))
    have exceeds : limit < (keyset.selected after).length := by
      by_contra fits
      rw [page_fits (Nat.not_lt.mp fits)] at same
      cases same
    rw [page_exceeds exceeds, from_n] at same
    rw [from_n, List.length_drop] at exceeds
    obtain ⟨rfl, isCursor⟩ := Page.mk.inj same
    obtain ⟨final, isFinal, rfl⟩ := Option.map_eq_some_iff.mp isCursor.symm
    have next : (n + 1) * limit = n * limit + limit := Nat.succ_mul n limit
    have finalIn : final ∈ keyset.rows :=
      List.mem_of_mem_drop (List.mem_of_mem_take (List.mem_of_getLast? isFinal))
    have ownFinal : keyset.Own (some (keyset.cursor final)) := by
      rintro _ ⟨⟩
      exact ⟨final, finalIn, rfl⟩
    have split : keyset.rows.drop (n * limit) =
        (keyset.rows.drop (n * limit)).take limit ++ keyset.rows.drop ((n + 1) * limit) := by
      rw [next, ← List.drop_drop, List.take_append_drop]
    have restPerm : rest.Perm (keyset.rows.drop ((n + 1) * limit)) := by
      rw [split, List.take_append_of_le_length (by rw [List.length_take, List.length_drop]; omega),
        List.take_take, Nat.min_self] at perm
      exact (List.perm_append_left_iff _).mp perm
    have here : keyset.rows.filter (keyset.selects (keyset.cursor final)) =
        keyset.rows.drop ((n + 1) * limit) := by
      refine selected_eq_drop (fun row behind => ?_) fun row others first => ?_
      · have met := walk_selected pages walk ownFinal row (restPerm.symm.subset behind)
        exact (List.mem_filter.mp met).2
      · exact restPerm.subset (walk_first pages pos walk ownFinal first)
    intro m last later inside isLast
    rcases Nat.eq_or_lt_of_le later with rfl | beyond
    · rw [getLast?_take_drop pos (by omega), ← next, isLast] at isFinal
      cases isFinal
      exact here
    · exact ih (n + 1) ownFinal here restPerm m last beyond inside isLast

/-- A walk over pages that join without a seam. -/
theorem walk_of_seamless (pages : ∀ after, keyset.Own after → fetch after = some (keyset.page limit after))
    (pos : 0 < limit) (seamless : keyset.Seamless limit) :
    ∀ d n after, keyset.rows.length - n * limit ≤ d → keyset.Own after →
      keyset.selected after = keyset.rows.drop (n * limit) → Walk fetch after (keyset.rows.drop (n * limit)) := by
  intro d
  induction d with
  | zero =>
    intro n after short own from_n
    have fits : (keyset.selected after).length ≤ limit := by
      rw [from_n, List.length_drop]
      omega
    refine .last ?_
    rw [pages after own, page_fits fits, from_n]
  | succ d ih =>
    intro n after short own from_n
    by_cases fits : (keyset.selected after).length ≤ limit
    · refine .last ?_
      rw [pages after own, page_fits fits, from_n]
    · have exceeds := Nat.lt_of_not_le fits
      have fetched := pages after own
      rw [page_exceeds exceeds, from_n] at fetched
      rw [from_n, List.length_drop] at exceeds
      have next : (n + 1) * limit = n * limit + limit := Nat.succ_mul n limit
      have inside : (n + 1) * limit - 1 < keyset.rows.length := by omega
      have isFinal : keyset.rows[(n + 1) * limit - 1]? = some keyset.rows[(n + 1) * limit - 1] :=
        List.getElem?_eq_getElem inside
      rw [getLast?_take_drop pos (by omega), ← next, isFinal, Option.map_some] at fetched
      have behind := seamless n _ (by omega) isFinal
      have ownFinal : keyset.Own (some (keyset.cursor keyset.rows[(n + 1) * limit - 1])) := by
        rintro _ ⟨⟩
        exact ⟨_, List.getElem_mem inside, rfl⟩
      have later := ih (n + 1) _ (by omega) ownFinal behind
      have split : keyset.rows.drop (n * limit) =
          (keyset.rows.drop (n * limit)).take limit ++ keyset.rows.drop ((n + 1) * limit) := by
        rw [next, ← List.drop_drop, List.take_append_drop]
      rw [split]
      exact .more fetched later

/-- There is a walk of the whole table, in its order or one that is accepted as well, exactly when
the pages join without a seam. -/
theorem walk_iff_seamless (pages : ∀ after, keyset.Own after → fetch after = some (keyset.page limit after))
    (pos : 0 < limit) {accepted : List Row → Prop}
    (complete : ∀ seen, accepted seen → seen.Perm keyset.rows) (inOrder : accepted keyset.rows) :
    (∃ seen, Walk fetch none seen ∧ accepted seen) ↔ keyset.Seamless limit := by
  have ownNone : keyset.Own none := fun _ isSome => nomatch isSome
  have start : keyset.selected none = keyset.rows.drop (0 * limit) := by
    rw [Nat.zero_mul]
    rfl
  constructor
  · rintro ⟨seen, walk, isAccepted⟩ n last inside isLast
    have perm := complete seen isAccepted
    refine seamless_of_walk pages pos walk 0 ownNone start ?_ n last (Nat.zero_le n) inside isLast
    rw [Nat.zero_mul]
    exact perm
  · intro seamless
    have walk := walk_of_seamless pages pos seamless keyset.rows.length 0 none (Nat.sub_le _ _)
      ownNone start
    rw [Nat.zero_mul] at walk
    exact ⟨keyset.rows, walk, inOrder⟩

end Walks

/-- Where a cursor selects a row it selects the rows behind it, and never its own row or one in
front of it, the pages join when each cursor selects the next row. -/
theorem seamless_iff_next {before : Row → Row → Prop} (pos : 0 < limit) (ordered : keyset.rows.Pairwise before)
    (behind : ∀ c row other, keyset.selects c row = true → before row other → keyset.selects c other = true)
    (own : ∀ row, keyset.selects (keyset.cursor row) row = false) (front : ∀ row other, before row other →
      keyset.selects (keyset.cursor other) row = false) :
    keyset.Seamless limit ↔ ∀ n last next, keyset.rows[(n + 1) * limit - 1]? = some last →
      keyset.rows[(n + 1) * limit]? = some next → keyset.selects (keyset.cursor last) next = true := by
  have at_order : ∀ {i j : Nat} {row other : Row}, keyset.rows[i]? = some row →
      keyset.rows[j]? = some other → i < j → before row other := by
    intro i j row other isRow isOther less
    obtain ⟨insideI, rfl⟩ := List.getElem?_eq_some_iff.mp isRow
    obtain ⟨insideJ, rfl⟩ := List.getElem?_eq_some_iff.mp isOther
    exact List.pairwise_iff_getElem.mp ordered i j insideI insideJ less
  constructor
  · intro seamless n last next isLast isNext
    obtain ⟨inside, rfl⟩ := List.getElem?_eq_some_iff.mp isNext
    have member : keyset.rows[(n + 1) * limit] ∈ keyset.rows.drop ((n + 1) * limit) := by
      rw [List.drop_eq_getElem_cons inside]
      exact List.mem_cons_self
    rw [← seamless n last inside isLast] at member
    exact (List.mem_filter.mp member).2
  · intro selects n last inside isLast
    have positive : 0 < (n + 1) * limit := Nat.mul_pos (Nat.succ_pos n) pos
    have isNext := List.getElem?_eq_getElem inside
    have nextSelected := selects n last _ isLast isNext
    refine selected_eq_drop (fun row member => ?_) fun row rest first => ?_
    · obtain ⟨i, isRow⟩ := List.mem_iff_getElem?.mp member
      rw [List.getElem?_drop] at isRow
      cases i with
      | zero =>
        rw [Nat.add_zero, isNext] at isRow
        cases isRow
        exact nextSelected
      | succ i => exact behind _ _ _ nextSelected (at_order isNext isRow (by omega))
    · have member : row ∈ keyset.rows.filter (keyset.selects (keyset.cursor last)) :=
        first ▸ List.mem_cons_self
      obtain ⟨inTable, isSelected⟩ := List.mem_filter.mp member
      obtain ⟨i, isRow⟩ := List.mem_iff_getElem?.mp inTable
      rcases Nat.lt_trichotomy i ((n + 1) * limit - 1) with less | rfl | more
      · rw [front row last (at_order isRow isLast less)] at isSelected
        cases isSelected
      · cases isRow.symm.trans isLast
        rw [own] at isSelected
        cases isSelected
      · refine List.mem_iff_getElem?.mpr ⟨i - (n + 1) * limit, ?_⟩
        rw [List.getElem?_drop, ← isRow]
        congr 1
        omega

end Keyset

end AlianStructure.Library.KeysetWalk
