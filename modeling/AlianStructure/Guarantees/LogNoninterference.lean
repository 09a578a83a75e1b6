import AlianStructure.Source.Exception
import AlianStructure.Source.Logging.SanitizeUtil

/-!
# What a log shows of sensitive values

Source: src/logging/sanitize.util.ts:17-64,100-146. A key is looked up without its hyphens, underscores and blanks; a
field that is listed with them, or in another case, is never found so.
-/
namespace AlianStructure.Guarantees.LogNoninterference
open Source.Logging

section Relations
variable {Leaf : Type} (toLowerCase : String → String) (extra : List String)

/-- A key is listed, in whatever case, as it is written or without hyphens, underscores and blanks. -/
def Sensitive (key : String) : Prop :=
  ∃ field, (field ∈ SENSITIVE_FIELDS ∨ field ∈ extra) ∧
    (toLowerCase key = toLowerCase field ∨ stripped (toLowerCase key) = toLowerCase field)

mutual

/-- Two values differ only in what is stored under sensitive keys. -/
inductive Alike : LogValue Leaf → LogValue Leaf → Prop where
  | null : Alike .null .null
  | missing : Alike .missing .missing
  | text (value : String) : Alike (.text value) (.text value)
  | leaf (value : Leaf) : Alike (.leaf value) (.leaf value)
  | date (value : Leaf) : Alike (.date value) (.date value)
  | array {items others : List (LogValue Leaf)} (alike : AlikeItems items others) : Alike (.array items) (.array others)
  | object {entries others : List (String × LogValue Leaf)} (alike : AlikeEntries entries others) :
    Alike (.object entries) (.object others)

inductive AlikeItems : List (LogValue Leaf) → List (LogValue Leaf) → Prop where
  | nil : AlikeItems [] []
  | cons {item other : LogValue Leaf} {items others : List (LogValue Leaf)} (first : Alike item other)
    (rest : AlikeItems items others) : AlikeItems (item :: items) (other :: others)

inductive AlikeEntries : List (String × LogValue Leaf) → List (String × LogValue Leaf) → Prop where
  | nil : AlikeEntries [] []
  | sensitive {key : String} {val changed : LogValue Leaf} {entries others : List (String × LogValue Leaf)}
    (sensitive : Sensitive toLowerCase extra key) (rest : AlikeEntries entries others) :
    AlikeEntries ((key, val) :: entries) ((key, changed) :: others)
  | cons {key : String} {val changed : LogValue Leaf} {entries others : List (String × LogValue Leaf)}
    (first : Alike val changed) (rest : AlikeEntries entries others) :
    AlikeEntries ((key, val) :: entries) ((key, changed) :: others)

end

mutual

/-- Every sensitive key that is met is one that is redacted. -/
def Covered (depth : Nat) : LogValue Leaf → Prop
  | .null | .missing | .text _ | .leaf _ | .date _ => True
  | .array items => depth ≤ MAX_DEPTH → CoveredItems (depth + 1) MAX_ARRAY_LENGTH items
  | .object entries => depth ≤ MAX_DEPTH → CoveredEntries depth entries

def CoveredItems (depth : Nat) : Nat → List (LogValue Leaf) → Prop
  | _, [] => True
  | 0, _ :: _ => True
  | room + 1, item :: items => Covered depth item ∧ CoveredItems depth room items

def CoveredEntries (depth : Nat) : List (String × LogValue Leaf) → Prop
  | [] => True
  | entry :: entries => CoveredEntry depth entry ∧ CoveredEntries depth entries

def CoveredEntry (depth : Nat) : String × LogValue Leaf → Prop
  | (key, val) => isSensitive toLowerCase extra key = true ∨
      ¬ Sensitive toLowerCase extra key ∧ Covered (depth + 1) val

end

variable {toLowerCase extra}

mutual

theorem alike_refl : ∀ value : LogValue Leaf, Alike toLowerCase extra value value
  | .null => .null
  | .missing => .missing
  | .text value => .text value
  | .leaf value => .leaf value
  | .date value => .date value
  | .array items => .array (alikeItems_refl items)
  | .object entries => .object (alikeEntries_refl entries)

theorem alikeItems_refl : ∀ items : List (LogValue Leaf), AlikeItems toLowerCase extra items items
  | [] => .nil
  | item :: items => .cons (alike_refl item) (alikeItems_refl items)

theorem alikeEntries_refl : ∀ entries : List (String × LogValue Leaf), AlikeEntries toLowerCase extra entries entries
  | [] => .nil
  | (_, val) :: entries => .cons (alike_refl val) (alikeEntries_refl entries)

end

/-- An assignment tells its value, unless two primitive values were tried. -/
theorem assign_value {key : String} {val changed : LogValue Leaf} {out : List (String × LogValue Leaf)}
    (sets : isPrimitive val = false ∨ isPrimitive changed = false)
    (same : assign (key, val) out = assign (key, changed) out) : val = changed := by
  unfold assign at same
  split at same <;> split at same
  next one two =>
    rcases sets with set | set
    · cases set.symm.trans one.2
    · cases set.symm.trans two.2
  · exact absurd same.symm (List.cons_ne_self _ _)
  · exact absurd same (List.cons_ne_self _ _)
  · exact (Prod.mk.inj (List.cons.inj same).1).2

theorem assign_out {entry : String × LogValue Leaf} {out other : List (String × LogValue Leaf)}
    (same : assign entry out = assign entry other) : out = other := by
  unfold assign at same
  split at same
  · exact same
  · exact (List.cons.inj same).2

/-- Alike values that are primitive in the log are the same there. -/
theorem alike_primitive {depth : Nat} {value other : LogValue Leaf} (alike : Alike toLowerCase extra value other)
    (primitive : isPrimitive (sanitizeValue toLowerCase extra depth value) = true) :
    sanitizeValue toLowerCase extra depth value = sanitizeValue toLowerCase extra depth other := by
  cases alike with
  | array | object =>
    rw [sanitizeValue] at primitive
    rw [sanitizeValue, sanitizeValue]
    split at primitive
    next deep => rw [if_pos deep, if_pos deep]
    · cases primitive
  | _ => rfl

variable (toLowerCase extra)

/-- There is a value that is logged otherwise, also under `__proto__`. -/
theorem sanitizeValue_differs (depth : Nat) (value : LogValue Leaf) : ∃ other,
    (isPrimitive (sanitizeValue toLowerCase extra depth value) = false ∨
      isPrimitive (sanitizeValue toLowerCase extra depth other) = false) ∧
    sanitizeValue toLowerCase extra depth value ≠ sanitizeValue toLowerCase extra depth other := by
  by_cases isNull : sanitizeValue toLowerCase extra depth value = .null
  · refine ⟨.text "", .inl (by rw [isNull]; rfl), ?_⟩
    rw [isNull, sanitizeValue]
    split <;> exact fun same => nomatch same
  · exact ⟨.null, .inr (by rw [sanitizeValue]; rfl), isNull⟩

mutual

/-- A value is logged as every value like it exactly when its sensitive keys are redacted. -/
theorem sanitizeValue_iff : ∀ (depth : Nat) (value : LogValue Leaf),
    (∀ other, Alike toLowerCase extra value other →
      sanitizeValue toLowerCase extra depth value = sanitizeValue toLowerCase extra depth other) ↔
      Covered toLowerCase extra depth value
  | _, .null | _, .missing | _, .text _ | _, .leaf _ | _, .date _ => by
    refine iff_of_true (fun _ alike => ?_) (by simp only [Covered])
    cases alike
    rfl
  | depth, .array items => by
    rw [Covered, ← sanitizeItems_iff (depth + 1) MAX_ARRAY_LENGTH items]
    constructor
    · intro all shallow others alike
      have same := all (.array others) (.array alike)
      rw [sanitizeValue, sanitizeValue, if_neg (Nat.not_lt.mpr shallow), if_neg (Nat.not_lt.mpr shallow)] at same
      exact LogValue.array.inj same
    · rintro all _ (_ | _ | _ | _ | _ | alike)
      rw [sanitizeValue, sanitizeValue]
      split
      next => rfl
      next shallow => rw [all (Nat.not_lt.mp shallow) _ alike]
  | depth, .object entries => by
    rw [Covered, ← sanitizeObject_iff depth entries]
    constructor
    · intro all shallow others alike
      have same := all (.object others) (.object alike)
      rw [sanitizeValue, sanitizeValue, if_neg (Nat.not_lt.mpr shallow), if_neg (Nat.not_lt.mpr shallow)] at same
      exact LogValue.object.inj same
    · rintro all _ (_ | _ | _ | _ | _ | _ | alike)
      rw [sanitizeValue, sanitizeValue]
      split
      next => rfl
      next shallow => rw [all (Nat.not_lt.mp shallow) _ alike]

theorem sanitizeItems_iff : ∀ (depth room : Nat) (items : List (LogValue Leaf)),
    (∀ others, AlikeItems toLowerCase extra items others →
      sanitizeItems toLowerCase extra depth room items = sanitizeItems toLowerCase extra depth room others) ↔
      CoveredItems toLowerCase extra depth room items
  | _, _, [] => by
    refine iff_of_true (fun _ alike => ?_) (by simp only [CoveredItems])
    cases alike
    rfl
  | depth, 0, item :: items => by
    refine iff_of_true (fun _ alike => ?_) (by simp only [CoveredItems])
    cases alike
    simp only [sanitizeItems]
  | depth, room + 1, item :: items => by
    rw [CoveredItems, ← sanitizeValue_iff depth item, ← sanitizeItems_iff depth room items]
    constructor
    · intro all
      constructor
      · intro other alike
        have same := all _ (.cons alike (alikeItems_refl items))
        rw [sanitizeItems, sanitizeItems] at same
        exact (List.cons.inj same).1
      · intro others alike
        have same := all _ (.cons (alike_refl item) alike)
        rw [sanitizeItems, sanitizeItems] at same
        exact (List.cons.inj same).2
    · rintro ⟨first, rest⟩ _ (_ | ⟨alike, alikeRest⟩)
      rw [sanitizeItems, sanitizeItems, first _ alike, rest _ alikeRest]

theorem sanitizeObject_iff : ∀ (depth : Nat) (entries : List (String × LogValue Leaf)),
    (∀ others, AlikeEntries toLowerCase extra entries others →
      sanitizeObject toLowerCase extra depth entries = sanitizeObject toLowerCase extra depth others) ↔
      CoveredEntries toLowerCase extra depth entries
  | _, [] => by
    refine iff_of_true (fun _ alike => ?_) (by simp only [CoveredEntries])
    cases alike
    rfl
  | depth, (key, val) :: entries => by
    rw [CoveredEntries, CoveredEntry, ← sanitizeValue_iff (depth + 1) val, ← sanitizeObject_iff depth entries]
    constructor
    · intro all
      constructor
      · by_cases redacted : isSensitive toLowerCase extra key = true
        · exact .inl redacted
        · have shown : ∀ {other : LogValue Leaf},
              AlikeEntries toLowerCase extra ((key, val) :: entries) ((key, other) :: entries) →
              (isPrimitive (sanitizeValue toLowerCase extra (depth + 1) val) = false ∨
                isPrimitive (sanitizeValue toLowerCase extra (depth + 1) other) = false) →
              sanitizeValue toLowerCase extra (depth + 1) val = sanitizeValue toLowerCase extra (depth + 1) other := by
            intro other alike sets
            have same := all _ alike
            simp only [sanitizeObject, sanitizeEntry, if_neg redacted] at same
            exact assign_value sets same
          refine .inr ⟨fun sensitive => ?_, fun other alike => ?_⟩
          · -- the value of such a key can be any other one
            obtain ⟨other, sets, differs⟩ := sanitizeValue_differs toLowerCase extra (depth + 1) val
            exact differs (shown (.sensitive sensitive (alikeEntries_refl entries)) sets)
          · cases primitive : isPrimitive (sanitizeValue toLowerCase extra (depth + 1) val) with
            | false => exact shown (.cons alike (alikeEntries_refl entries)) (.inl primitive)
            | true => exact alike_primitive alike primitive
      · intro others alike
        have same := all _ (.cons (alike_refl val) alike)
        rw [sanitizeObject, sanitizeObject] at same
        exact assign_out same
    · rintro ⟨first, rest⟩ _ (_ | ⟨sensitive, alikeRest⟩ | ⟨alike, alikeRest⟩)
      · rw [sanitizeObject, sanitizeObject, rest _ alikeRest, sanitizeEntry, sanitizeEntry]
        rcases first with redacted | ⟨harmless, -⟩
        · rw [if_pos redacted, if_pos redacted]
        · exact absurd sensitive harmless
      · rw [sanitizeObject, sanitizeObject, rest _ alikeRest, sanitizeEntry, sanitizeEntry]
        rcases first with redacted | ⟨-, all⟩
        · rw [if_pos redacted, if_pos redacted]
        · rw [all _ alike]

end

/-- All values that differ from one only under sensitive keys are logged as it is, exactly when every sensitive key that
is met in it is redacted. -/
theorem logged_alike_iff (value : LogValue Leaf) : (∀ other, Alike toLowerCase extra value other →
      sanitizeValue toLowerCase extra 0 value = sanitizeValue toLowerCase extra 0 other) ↔
      Covered toLowerCase extra 0 value :=
  sanitizeValue_iff toLowerCase extra 0 value

end Relations

/-- The password of a database is logged. -/
theorem password_logged : ¬ ∀ (extra : List String) (value other : LogValue Nat),
    Alike Source.toLowerCase extra value other →
      sanitizeValue Source.toLowerCase extra 0 value = sanitizeValue Source.toLowerCase extra 0 other := by
  intro all
  have sensitive : Sensitive Source.toLowerCase [] "db_password" :=
    ⟨"db_password", .inl (by decide), .inl rfl⟩
  have alike : Alike Source.toLowerCase [] (.object [("db_password", .text "first")] : LogValue Nat)
      (.object [("db_password", .text "second")]) :=
    .object (.sensitive sensitive .nil)
  have same := all _ _ _ alike
  have redacted : isSensitive Source.toLowerCase [] "db_password" = false := by decide
  simp [sanitizeValue, sanitizeObject, sanitizeEntry, assign, redacted, MAX_DEPTH] at same

end AlianStructure.Guarantees.LogNoninterference
