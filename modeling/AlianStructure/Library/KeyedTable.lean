import Mathlib.Algebra.GroupWithZero.Nat
import Mathlib.Data.List.Nodup

/-!
# A table of rows with a unique key

A table carries the proof that no two of its rows have the same key, so a row is
found by its key whenever it is in the table. Saving a row replaces the row with
its key in place, or appends it.
-/
namespace AlianStructure.Library.KeyedTable

variable {Row Key : Type} [DecidableEq Key]

structure Table (Row : Type) {Key : Type} (key : Row → Key) where
  rows : List Row
  unique : (rows.map key).Nodup

variable {key : Row → Key}

/-- The row with a key, among rows. -/
def lookup (key : Row → Key) (rows : List Row) (k : Key) : Option Row :=
  rows.find? fun row => decide (key row = k)

/-- Replace the rows that have the new row's key. -/
def replace (key : Row → Key) (rows : List Row) (row : Row) : List Row :=
  rows.map fun old => if key old = key row then row else old

namespace Table

def empty : Table Row key := ⟨[], List.nodup_nil⟩

def findOne (table : Table Row key) (k : Key) : Option Row := lookup key table.rows k

theorem replace_keys (rows : List Row) (row : Row) : (replace key rows row).map key = rows.map key := by
  simp only [replace, List.map_map]
  apply List.map_congr_left
  intro old _
  simp only [Function.comp_apply]
  split
  next same => exact same.symm
  next => rfl

/-- Insert a row, or replace the row with its key. -/
def save (table : Table Row key) (row : Row) : Table Row key :=
  if fresh : key row ∈ table.rows.map key then
    ⟨replace key table.rows row, by
      rw [replace_keys]
      exact table.unique⟩
  else
    ⟨table.rows ++ [row], by
      rw [List.map_append, List.map_singleton]
      exact List.nodup_append.mpr ⟨table.unique, List.nodup_singleton _, by
        rintro k old _ new rfl
        rw [List.mem_singleton] at new
        exact fresh (new ▸ old)⟩⟩

/-- Save several rows, in order. -/
def saveAll (table : Table Row key) (rows : List Row) : Table Row key := rows.foldl save table

/-- Delete the rows that satisfy a condition. -/
def delete (table : Table Row key) (condition : Row → Bool) : Table Row key :=
  ⟨table.rows.filter fun row => ! condition row,
    table.unique.sublist (List.filter_sublist.map key)⟩

/-- Change the rows that satisfy a condition, keeping their keys. -/
def modify (table : Table Row key) (condition : Row → Bool) (change : Row → Row)
    (same : ∀ row, key (change row) = key row) : Table Row key :=
  ⟨table.rows.map fun row => if condition row then change row else row, by
    rw [List.map_map, List.map_congr_left (g := key)]
    · exact table.unique
    · intro row _
      simp only [Function.comp_apply]
      split
      next => exact same row
      next => rfl⟩

variable {table : Table Row key} {row : Row}

theorem findOne_key {k : Key} (found : table.findOne k = some row) : key row = k := by
  simpa using List.find?_some found

theorem findOne_mem {k : Key} (found : table.findOne k = some row) :
    row ∈ table.rows := List.mem_of_find?_eq_some found

/-- A row of the table is found under its key. -/
theorem findOne_of_mem (member : row ∈ table.rows) : table.findOne (key row) = some row := by
  obtain ⟨rows, unique⟩ := table
  induction rows with
  | nil => cases member
  | cons first rest ih =>
    obtain ⟨new, tail⟩ := List.nodup_cons.mp unique
    rcases List.mem_cons.mp member with rfl | later
    · simp [findOne, lookup]
    · have other : key first ≠ key row := fun same => new (same ▸ List.mem_map_of_mem later)
      have found := ih tail later
      simp only [findOne, lookup] at found ⊢
      rw [List.find?_cons_of_neg (by simpa using other)]
      exact found

/-- Two rows of a table with the same key are one. -/
theorem eq_of_key_eq {row other : Row} (member : row ∈ table.rows) (listed : other ∈ table.rows)
    (same : key row = key other) : row = other := by
  have found := findOne_of_mem member
  rw [same, findOne_of_mem listed] at found
  exact (Option.some.inj found).symm

theorem findOne_eq_none {k : Key} : table.findOne k = none ↔ k ∉ table.rows.map key := by
  simp [findOne, lookup]

variable {rows : List Row}

theorem lookup_replace_other {k : Key} (other : k ≠ key row) :
    lookup key (replace key rows row) k = lookup key rows k := by
  induction rows with
  | nil => rfl
  | cons first rest ih =>
    simp only [lookup, replace, List.map_cons, List.find?_cons] at ih ⊢
    by_cases same : key first = key row
    · have left : ¬ key row = k := fun equal => other equal.symm
      simp [same, left, ih]
    · simp [same, ih]

theorem lookup_replace_self (present : key row ∈ rows.map key) :
    lookup key (replace key rows row) (key row) = some row := by
  induction rows with
  | nil => cases present
  | cons first rest ih =>
    simp only [lookup, replace, List.map_cons, List.find?_cons] at ih ⊢
    by_cases same : key first = key row
    · simp [same]
    · have later : key row ∈ rest.map key := by
        rcases List.mem_cons.mp present with head | tail
        · exact absurd head.symm same
        · exact tail
      simp [same, ih later]

/-- The row that a condition finds, replaced by one that satisfies it, is found again. -/
theorem find_replace {row new : Row} {condition : Row → Bool} (found : rows.find? condition = some row)
    (same : key new = key row) (holds : condition new = true) :
    (replace key rows new).find? condition = some new := by
  induction rows with
  | nil => cases found
  | cons first rest ih =>
    simp only [replace, List.map_cons, List.find?_cons] at ih ⊢
    by_cases here : key first = key new
    · simp [here, holds]
    · cases selected : condition first with
      | true =>
        rw [List.find?_cons_of_pos selected] at found
        cases found
        exact absurd same.symm here
      | false =>
        rw [List.find?_cons_of_neg (by simp [selected])] at found
        simpa [here, selected] using ih found

theorem find_save {row new : Row} {condition : Row → Bool} (found : table.rows.find? condition = some row)
    (same : key new = key row) (holds : condition new = true) : (table.save new).rows.find? condition = some new := by
  have present : key new ∈ table.rows.map key :=
    same ▸ List.mem_map_of_mem (List.mem_of_find?_eq_some found)
  rw [save, dif_pos present]
  exact find_replace found same holds

@[simp] theorem findOne_save_self (table : Table Row key) (row : Row) :
    (table.save row).findOne (key row) = some row := by
  unfold save findOne
  split
  next present => exact lookup_replace_self present
  next fresh =>
    simp only [lookup, List.find?_append]
    have none_before : table.rows.find? (fun old => decide (key old = key row)) = none := by
      simpa using fresh
    simp [none_before]

/-- Saving a row that is there keeps the keys. -/
theorem save_keys (present : key row ∈ table.rows.map key) : (table.save row).rows.map key = table.rows.map key := by
  unfold save
  rw [dif_pos present]
  exact replace_keys table.rows row

/-- The rows after a save: the saved one, and those with another key. -/
theorem mem_save {row other : Row} :
    other ∈ (table.save row).rows ↔ other = row ∨ (other ∈ table.rows ∧ key other ≠ key row) := by
  unfold save
  split
  next present =>
    simp only [replace, List.mem_map]
    constructor
    · rintro ⟨old, member, rfl⟩
      split
      next => exact Or.inl rfl
      next differs => exact Or.inr ⟨member, differs⟩
    · rintro (rfl | ⟨member, differs⟩)
      · obtain ⟨old, member, same⟩ := List.mem_map.mp present
        exact ⟨old, member, if_pos same⟩
      · exact ⟨other, member, if_neg differs⟩
  next fresh =>
    simp only [List.mem_append, List.mem_singleton]
    constructor
    · rintro (member | rfl)
      · exact Or.inr ⟨member, fun same => fresh (same ▸ List.mem_map_of_mem member)⟩
      · exact Or.inl rfl
    · rintro (rfl | ⟨member, _⟩)
      · exact Or.inr rfl
      · exact Or.inl member

/-- A row with a new key comes last. -/
theorem save_new (absent : table.findOne (key row) = none) : (table.save row).rows = table.rows ++ [row] := by
  unfold save
  rw [dif_neg (findOne_eq_none.mp absent)]

/-- What a save leaves as it is of the row that it replaces, it leaves of all rows. -/
theorem map_save {Value : Type} {row old : Row} {f : Row → Value} (found : table.findOne (key row) = some old)
    (same : f row = f old) : (table.save row).rows.map f = table.rows.map f := by
  have present : key row ∈ table.rows.map key :=
    List.mem_map.mpr ⟨old, findOne_mem found, findOne_key found⟩
  unfold save
  rw [dif_pos present]
  simp only [replace, List.map_map]
  apply List.map_congr_left
  intro other member
  simp only [Function.comp_apply]
  split
  next equal =>
    rw [eq_of_key_eq member (findOne_mem found) (equal.trans (findOne_key found).symm)]
    exact same
  next => rfl

omit [DecidableEq Key] in
/-- A total that grows at one row grows by as much. -/
theorem sum_grows {f g : Row → Nat} {n : Nat} (unique : (rows.map key).Nodup) (member : row ∈ rows)
    (here : g row = f row + n) (others : ∀ other ∈ rows, key other ≠ key row → g other = f other) :
    (rows.map g).sum = (rows.map f).sum + n := by
  induction rows with
  | nil => cases member
  | cons first rest ih =>
    obtain ⟨new, tail⟩ := List.nodup_cons.mp unique
    simp only [List.map_cons, List.sum_cons]
    rcases List.mem_cons.mp member with rfl | later
    · have same : rest.map g = rest.map f := List.map_congr_left fun other listed =>
        others other (List.mem_cons_of_mem _ listed) fun equal =>
          new (equal ▸ List.mem_map_of_mem listed)
      rw [same, here]
      omega
    · have differs : key first ≠ key row := fun equal => new (equal ▸ List.mem_map_of_mem later)
      rw [others first List.mem_cons_self differs,
        ih tail later fun other listed => others other (List.mem_cons_of_mem _ listed)]
      omega

/-- Rows that are there, changed under their keys, are changed in place. -/
theorem rows_saveAll {change : Row → Row} (same : ∀ row, key (change row) = key row) :
    ∀ {chosen : List Row} {table : Table Row key}, (chosen.map key).Nodup →
      (∀ row ∈ chosen, row ∈ table.rows) → (table.saveAll (chosen.map change)).rows =
        table.rows.map fun row => if key row ∈ chosen.map key then change row else row
  | [], table, _, _ => by simp [saveAll]
  | first :: rest, table, distinct, stored => by
    obtain ⟨new, tail⟩ := List.nodup_cons.mp distinct
    have here := stored first List.mem_cons_self
    have present : key (change first) ∈ table.rows.map key := by
      rw [same]
      exact List.mem_map_of_mem here
    have saved : (table.save (change first)).rows = replace key table.rows (change first) := by
      unfold save
      rw [dif_pos present]
    have left : ∀ row ∈ rest, row ∈ (table.save (change first)).rows := fun row member =>
      mem_save.mpr <| Or.inr ⟨stored row (List.mem_cons_of_mem _ member), fun equal =>
        new (same first ▸ equal ▸ List.mem_map_of_mem member)⟩
    have later := rows_saveAll same tail left
    simp only [saveAll, List.map_cons, List.foldl_cons] at later ⊢
    rw [later, saved, replace, List.map_map]
    apply List.map_congr_left
    intro row member
    simp only [Function.comp_apply, same, List.mem_cons]
    by_cases equal : key row = key first
    · obtain rfl : row = first := eq_of_key_eq member here equal
      simp [same, new]
    · simp [equal]

/-- Frame: saving a row leaves every other key alone. -/
theorem findOne_save_other (table : Table Row key) {k : Key} (other : k ≠ key row) :
    (table.save row).findOne k = table.findOne k := by
  unfold save findOne
  split
  next => exact lookup_replace_other other
  next =>
    have skip : ¬ key row = k := fun equal => other equal.symm
    simp only [lookup, List.find?_append]
    cases table.rows.find? (fun old => decide (key old = k)) with
    | none => simp [skip]
    | some found => rfl

/-- Deleting rows leaves the others where they were. -/
theorem findOne_delete (table : Table Row key) (condition : Row → Bool) (k : Key) :
    (table.delete condition).findOne k = (table.findOne k).filter fun row => ! condition row := by
  cases found : table.findOne k with
  | none =>
    have absent : k ∉ (table.delete condition).rows.map key := fun listed =>
      findOne_eq_none.mp found (List.filter_sublist.map key |>.subset listed)
    rw [findOne_eq_none.mpr absent]
    rfl
  | some row =>
    have named := findOne_key found
    cases deleted : condition row with
    | false =>
      have kept : row ∈ (table.delete condition).rows :=
        List.mem_filter.mpr ⟨findOne_mem found, by simp [deleted]⟩
      rw [← named, findOne_of_mem kept, Option.filter_some, deleted]
      rfl
    | true =>
      have absent : k ∉ (table.delete condition).rows.map key := by
        intro listed
        obtain ⟨other, member, same⟩ := List.mem_map.mp listed
        obtain ⟨stored, kept⟩ := List.mem_filter.mp member
        have unique := findOne_of_mem stored
        rw [same, found] at unique
        cases unique
        simp [deleted] at kept
      rw [findOne_eq_none.mpr absent, Option.filter_some, deleted]
      rfl

/-- A changed row is found under its old key. -/
theorem findOne_modify (table : Table Row key) (condition : Row → Bool) (change : Row → Row)
    (same : ∀ row, key (change row) = key row) (k : Key) : (table.modify condition change same).findOne k =
      (table.findOne k).map fun row => if condition row then change row else row := by
  have keeps : ∀ row, key (if condition row then change row else row) = key row := by
    intro row
    split
    next => exact same row
    next => rfl
  unfold modify findOne lookup
  rw [List.find?_map]
  congr 2
  funext row
  exact congrArg (fun found => decide (found = k)) (keeps row)

/-- What saving several rows leaves under a key: one of the rows saved, or what was
there. -/
theorem findOne_saveAll (k : Key) :
    ∀ (rows : List Row) (table : Table Row key),
      (∃ row ∈ rows, key row = k ∧ (table.saveAll rows).findOne k = some row) ∨
        (k ∉ rows.map key ∧ (table.saveAll rows).findOne k = table.findOne k)
  | [], _ => Or.inr ⟨by simp, rfl⟩
  | first :: rest, table => by
    simp only [saveAll, List.foldl_cons]
    rcases findOne_saveAll k rest (table.save first) with ⟨row, member, same, found⟩ | ⟨skip, kept⟩
    · exact Or.inl ⟨row, List.mem_cons_of_mem _ member, same, found⟩
    · by_cases here : key first = k
      · refine Or.inl ⟨first, List.mem_cons_self, here, ?_⟩
        subst here
        rw [← findOne_save_self table first]
        exact kept
      · refine Or.inr ⟨?_, ?_⟩
        · simp only [List.map_cons, List.mem_cons, not_or]
          exact ⟨fun equal => here equal.symm, skip⟩
        · exact Eq.trans kept (findOne_save_other table fun equal => here equal.symm)

end Table

end AlianStructure.Library.KeyedTable
