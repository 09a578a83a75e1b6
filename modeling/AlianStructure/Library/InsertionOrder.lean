import AlianStructure.Library.KeyedTable

/-!
# Maps and sets that keep the order of insertion

A map is a table of entries with unique keys. Setting a key that is there keeps its place, a new
one comes last; so does an element of a set.
-/
namespace AlianStructure.Library.InsertionOrder
open KeyedTable

abbrev OrderedMap (Key Value : Type) : Type :=
  Table (Key × Value) (Prod.fst : Key × Value → Key)

abbrev OrderedSet (Element : Type) : Type := Table Element (id : Element → Element)

variable {Key Value : Type} [DecidableEq Key]

namespace OrderedMap

def empty : OrderedMap Key Value := Table.empty

def entries (m : OrderedMap Key Value) : List (Key × Value) := m.rows

def keys (m : OrderedMap Key Value) : List Key := m.entries.map Prod.fst

def size (m : OrderedMap Key Value) : Nat := m.entries.length

def get? (m : OrderedMap Key Value) (k : Key) : Option Value := (Table.findOne m k).map Prod.snd

def set (m : OrderedMap Key Value) (k : Key) (value : Value) : OrderedMap Key Value :=
  Table.save m (k, value)

def delete (m : OrderedMap Key Value) (k : Key) : OrderedMap Key Value :=
  Table.delete m fun entry => decide (entry.1 = k)

/-- Change the values under some of the keys. -/
def adjust (m : OrderedMap Key Value) (chosen : Key → Bool) (change : Value → Value) :
    OrderedMap Key Value :=
  Table.modify m (fun entry => chosen entry.1) (fun entry => (entry.1, change entry.2)) fun _ => rfl

@[simp] theorem get?_empty (k : Key) : (empty : OrderedMap Key Value).get? k = none := rfl

theorem get?_set (m : OrderedMap Key Value) (k : Key) (value : Value) (j : Key) :
    (m.set k value).get? j = if j = k then some value else m.get? j := by
  unfold get? set
  split
  next same =>
    subst same
    rw [Table.findOne_save_self m (j, value)]
    rfl
  next other => rw [Table.findOne_save_other m other]

@[simp] theorem get?_set_self (m : OrderedMap Key Value) (k : Key) (value : Value) :
    (m.set k value).get? k = some value := by
  rw [get?_set, if_pos rfl]

theorem get?_set_other (m : OrderedMap Key Value) {k j : Key} (value : Value) (other : j ≠ k) :
    (m.set k value).get? j = m.get? j := by
  rw [get?_set, if_neg other]

theorem get?_delete (m : OrderedMap Key Value) (k j : Key) :
    (m.delete k).get? j = if j = k then none else m.get? j := by
  unfold get? delete
  rw [Table.findOne_delete]
  cases found : Table.findOne m j with
  | none => simp
  | some entry =>
    have key : entry.1 = j := Table.findOne_key found
    by_cases same : j = k <;> simp [Option.filter_some, key, same]

theorem get?_delete_other (m : OrderedMap Key Value) {k j : Key} (other : j ≠ k) :
    (m.delete k).get? j = m.get? j := by
  rw [get?_delete, if_neg other]

theorem get?_adjust (m : OrderedMap Key Value) (chosen : Key → Bool) (change : Value → Value)
    (k : Key) : (m.adjust chosen change).get? k =
      (m.get? k).map fun value => if chosen k then change value else value := by
  unfold get? adjust
  rw [Table.findOne_modify, Option.map_map, Option.map_map]
  cases found : Table.findOne m k with
  | none => rfl
  | some entry =>
    have key : entry.1 = k := Table.findOne_key found
    by_cases isChosen : chosen k <;> simp [key, isChosen]

theorem mem_entries {m : OrderedMap Key Value} {k : Key} {value : Value} :
    (k, value) ∈ m.entries ↔ m.get? k = some value := by
  constructor
  · intro member
    have found : Table.findOne m k = some (k, value) := Table.findOne_of_mem member
    simp [get?, found]
  · intro found
    obtain ⟨⟨j, _⟩, isFound, rfl⟩ := Option.map_eq_some_iff.mp found
    have key : j = k := Table.findOne_key isFound
    subst key
    exact Table.findOne_mem isFound

end OrderedMap

namespace OrderedSet

variable {Element : Type} [DecidableEq Element]

def empty : OrderedSet Element := Table.empty

def elements (s : OrderedSet Element) : List Element := s.rows

def size (s : OrderedSet Element) : Nat := s.elements.length

def add (s : OrderedSet Element) (element : Element) : OrderedSet Element := Table.save s element

def delete (s : OrderedSet Element) (element : Element) : OrderedSet Element :=
  Table.delete s fun other => decide (other = element)

instance : Membership Element (OrderedSet Element) := ⟨fun s element => element ∈ s.elements⟩

instance (element : Element) (s : OrderedSet Element) : Decidable (element ∈ s) :=
  inferInstanceAs (Decidable (element ∈ s.elements))

omit [DecidableEq Element] in
@[simp] theorem notMem_empty (element : Element) : element ∉ (empty : OrderedSet Element) :=
  List.not_mem_nil

variable {s : OrderedSet Element}

theorem mem_add {element other : Element} : other ∈ s.add element ↔ other = element ∨ other ∈ s := by
  refine Table.mem_save.trans (or_congr_right' fun differs => and_iff_left differs)

theorem mem_delete {element other : Element} : other ∈ s.delete element ↔ other ∈ s ∧ other ≠ element := by
  refine List.mem_filter.trans (and_congr_right fun _ => ?_)
  simp

omit [DecidableEq Element] in
theorem size_eq_zero : s.size = 0 ↔ ∀ element, element ∉ s := by
  rw [size, List.length_eq_zero_iff, List.eq_nil_iff_forall_not_mem]
  rfl

end OrderedSet

end AlianStructure.Library.InsertionOrder
