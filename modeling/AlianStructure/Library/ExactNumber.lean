import Mathlib.Algebra.Order.BigOperators.Group.List
import Mathlib.Algebra.Order.Field.Basic
import Mathlib.Tactic.Linarith

/-!
# Numbers with exact values

The arithmetic of the numbers of a host language, without rounding: the values of an ordered field,
two infinities and the result of an operation that has none.
-/
namespace AlianStructure.Library.ExactNumber

inductive Number (K : Type) where
  | finite (value : K)
  | infinite (positive : Bool)
  | nan
  deriving DecidableEq

namespace Number
variable {K : Type}

section Order
variable [LinearOrder K]

/-- Nothing compares with what is no number. -/
def atMost : Number K → Number K → Bool
  | nan, _ | _, nan => false
  | finite a, finite b => decide (a ≤ b)
  | infinite p, infinite q => !p || q
  | infinite p, finite _ => !p
  | finite _, infinite p => p

def less (a b : Number K) : Bool := atMost a b && !atMost b a

instance : LE (Number K) := ⟨fun a b => atMost a b = true⟩
instance : LT (Number K) := ⟨fun a b => less a b = true⟩
instance : DecidableLE (Number K) := fun a b => inferInstanceAs (Decidable (atMost a b = true))
instance : DecidableLT (Number K) := fun a b => inferInstanceAs (Decidable (less a b = true))

/-- The larger of two numbers, and none when one of them is none. -/
def larger (a b : Number K) : Number K :=
  if a = nan ∨ b = nan then nan else if a ≤ b then b else a

def smaller (a b : Number K) : Number K :=
  if a = nan ∨ b = nan then nan else if a ≤ b then a else b

@[simp] theorem finite_le_finite {a b : K} : (finite a : Number K) ≤ finite b ↔ a ≤ b :=
  decide_eq_true_iff

@[simp] theorem larger_finite (a b : K) : larger (finite a) (finite b) = finite (max a b) := by
  simp only [larger, reduceCtorEq, or_self, if_false, finite_le_finite, max_def]
  split <;> rfl

@[simp] theorem smaller_finite (a b : K) : smaller (finite a) (finite b) = finite (min a b) := by
  simp only [smaller, reduceCtorEq, or_self, if_false, finite_le_finite, min_def]
  split <;> rfl

theorem not_le_nan (a : Number K) : ¬ a ≤ nan := by
  cases a <;> exact Bool.false_ne_true

/-- Where a number stands in the order of all of them. -/
def height : Number K → WithBot (WithTop K)
  | finite value => ((value : WithTop K) : WithBot (WithTop K))
  | infinite true => ⊤
  | infinite false => ⊥
  | nan => ⊥

variable {a b : Number K}

theorem le_iff_height (isA : a ≠ nan) (isB : b ≠ nan) : a ≤ b ↔ height a ≤ height b := by
  change atMost a b = true ↔ _
  cases a with
  | nan => exact absurd rfl isA
  | finite x =>
    cases b with
    | nan => exact absurd rfl isB
    | finite y => simp [atMost, height]
    | infinite q => cases q <;> simp [atMost, height]
  | infinite p =>
    cases b with
    | nan => exact absurd rfl isB
    | finite y => cases p <;> simp [atMost, height]
    | infinite q => cases p <;> cases q <;> simp [atMost, height]

theorem lt_iff_height (isA : a ≠ nan) (isB : b ≠ nan) : a < b ↔ height a < height b := by
  rw [lt_iff_le_not_ge, ← le_iff_height isA isB, ← le_iff_height isB isA]
  change (atMost a b && !atMost b a) = true ↔ atMost a b = true ∧ ¬ atMost b a = true
  rw [Bool.and_eq_true, Bool.not_eq_true', Bool.not_eq_true]

theorem numbers_of_lt (below : a < b) : a ≠ nan ∧ b ≠ nan := by
  constructor
  · rintro rfl
    cases b <;> exact Bool.false_ne_true below
  · rintro rfl
    cases a <;> exact Bool.false_ne_true below

theorem height_injective (isA : a ≠ nan) (isB : b ≠ nan) (same : height a = height b) : a = b := by
  cases a with
  | nan => exact absurd rfl isA
  | finite x =>
    cases b with
    | nan => exact absurd rfl isB
    | finite y => simpa [height] using same
    | infinite q => cases q <;> simp [height] at same
  | infinite p =>
    cases b with
    | nan => exact absurd rfl isB
    | finite y => cases p <;> simp [height] at same
    | infinite q => cases p <;> cases q <;> simp [height] at same ⊢

end Order

section Arithmetic
variable [Field K]

def add : Number K → Number K → Number K
  | finite a, finite b => finite (a + b)
  | nan, _ | _, nan => nan
  | infinite p, infinite q => if p = q then infinite p else nan
  | infinite p, finite _ | finite _, infinite p => infinite p

def neg : Number K → Number K
  | finite a => finite (-a)
  | infinite p => infinite !p
  | nan => nan

instance : Zero (Number K) := ⟨finite 0⟩
instance : Add (Number K) := ⟨add⟩
instance : Neg (Number K) := ⟨neg⟩
instance : Sub (Number K) := ⟨fun a b => a + -b⟩

@[simp] theorem nan_add (a : Number K) : nan + a = nan := by cases a <;> rfl
@[simp] theorem add_nan (a : Number K) : a + nan = nan := by cases a <;> rfl
@[simp] theorem finite_add_finite (a b : K) : finite a + finite b = finite (a + b) := rfl

/-- The numbers added up from a first one on. -/
def sumFrom (first : Number K) (rest : List (Number K)) : Number K := rest.foldl (· + ·) first

theorem sumFrom_finite (first : K) (rest : List K) :
    sumFrom (finite first) (rest.map finite) = finite (first + rest.sum) := by
  induction rest generalizing first with
  | nil => simp [sumFrom]
  | cons next rest ih =>
    have adds : sumFrom (finite first) ((next :: rest).map finite) =
        sumFrom (finite (first + next)) (rest.map finite) := rfl
    rw [adds, ih, List.sum_cons, add_assoc]

theorem sumFrom_nan (rest : List (Number K)) : sumFrom nan rest = nan := by
  induction rest with
  | nil => rfl
  | cons next rest ih => exact ih

theorem sumFrom_of_mem_nan {rest : List (Number K)} (member : nan ∈ rest) (first : Number K) :
    sumFrom first rest = nan := by
  induction rest generalizing first with
  | nil => cases member
  | cons next rest ih =>
    rcases List.mem_cons.mp member with isNext | later
    · subst isNext
      have adds : sumFrom first (nan :: rest) = sumFrom (first + nan) rest := rfl
      rw [adds, add_nan, sumFrom_nan]
    · exact ih later _

variable [LinearOrder K]

/-- An infinity with the sign of a value, and no number for zero. -/
def signed (p : Bool) (value : K) : Number K :=
  if 0 < value then infinite p else if value < 0 then infinite !p else nan

def mul : Number K → Number K → Number K
  | finite a, finite b => finite (a * b)
  | nan, _ | _, nan => nan
  | infinite p, infinite q => infinite (p == q)
  | infinite p, finite a | finite a, infinite p => signed p a

def div : Number K → Number K → Number K
  | finite a, finite b => if b = 0 then signed true a else finite (a / b)
  | nan, _ | _, nan => nan
  | infinite _, infinite _ => nan
  | infinite p, finite a => if a < 0 then infinite !p else infinite p
  | finite _, infinite _ => finite 0

instance : Mul (Number K) := ⟨mul⟩
instance : Div (Number K) := ⟨div⟩

def magnitude : Number K → Number K
  | finite a => finite |a|
  | infinite _ => infinite true
  | nan => nan

/-- Zero and what is no number give way to another value. -/
def orElse (a b : Number K) : Number K := if a = 0 ∨ a = nan then b else a

@[simp] theorem div_nan (a : Number K) : a / nan = nan := by cases a <;> rfl

theorem finite_div_finite {a b : K} (nonzero : b ≠ 0) : finite a / finite b = finite (a / b) :=
  if_neg nonzero

theorem finite_div_zero (a : K) : finite a / finite 0 = signed true a := if_pos rfl

theorem signed_ne_finite (p : Bool) (a b : K) : signed p a ≠ finite b := by
  unfold signed
  split
  next => exact fun same => nomatch same
  next => split <;> exact fun same => nomatch same

/-- Only a finite number has a finite multiple. -/
theorem finite_of_mul_finite {x : Number K} {a b : K} (multiple : x * finite a = finite b) : ∃ c, x = finite c := by
  cases x with
  | finite c => exact ⟨c, rfl⟩
  | infinite p => exact absurd multiple (signed_ne_finite p a b)
  | nan => exact nomatch multiple

/-- A division by zero gives no value between two bounds. -/
theorem div_zero_not_between {a lo hi : K} :
    ¬ (finite lo ≤ finite a / finite 0 ∧ finite a / finite 0 ≤ finite hi) := by
  rintro ⟨above, below⟩
  rw [finite_div_zero, signed] at above below
  split at above
  next positive =>
    rw [if_pos positive] at below
    exact Bool.false_ne_true below
  next =>
    split at above
    next => exact Bool.false_ne_true above
    next => exact not_le_nan _ above

end Arithmetic

end Number

end AlianStructure.Library.ExactNumber
