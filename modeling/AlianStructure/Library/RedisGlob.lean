import AlianStructure.Library.Utf
import AlianStructure.Library.Wildcards

/-!
# The glob patterns of Redis

A pattern is read byte by byte, as KEYS and SCAN do. A star takes any bytes and a question mark one; a bracket begins a
class of bytes and ranges, negated by a caret, that ends with the closing bracket or the pattern; a backslash takes the
byte after it as it is, and itself at the end.
-/
namespace AlianStructure.Library.RedisGlob
open Wildcards

def star : UInt8 := 42
def question : UInt8 := 63
def openBracket : UInt8 := 91
def backslash : UInt8 := 92
def closeBracket : UInt8 := 93
def caret : UInt8 := 94
def dash : UInt8 := 45

structure ByteClass where
  negated : Bool
  ranges : List (UInt8 × UInt8)

/-- A range may be given from its end. -/
def inRange (byte : UInt8) (range : UInt8 × UInt8) : Bool :=
  decide (range.1 ≤ byte ∧ byte ≤ range.2) || decide (range.2 ≤ byte ∧ byte ≤ range.1)

def ByteClass.accepts (byteClass : ByteClass) (byte : UInt8) : Bool :=
  byteClass.ranges.any (inRange byte) != byteClass.negated

/-- The ranges of a class, and the pattern after it. -/
def classRanges : List UInt8 → List (UInt8 × UInt8) × List UInt8
  | [] => ([], [])
  | [byte] => if byte = closeBracket then ([], []) else ([(byte, byte)], [])
  | first :: second :: rest =>
    if first = backslash then ((second, second) :: (classRanges rest).1, (classRanges rest).2)
    else if first = closeBracket then ([], second :: rest)
    else
      match rest with
      | third :: after =>
        if second = dash then ((first, third) :: (classRanges after).1, (classRanges after).2)
        else ((first, first) :: (classRanges (second :: third :: after)).1, (classRanges (second :: third :: after)).2)
      | [] => ((first, first) :: (classRanges [second]).1, (classRanges [second]).2)

/-- The class after an opening bracket, and the pattern after the class. -/
def readClass : List UInt8 → ByteClass × List UInt8
  | [] => (⟨false, []⟩, [])
  | byte :: rest =>
    if byte = caret then (⟨true, (classRanges rest).1⟩, (classRanges rest).2)
    else (⟨false, (classRanges (byte :: rest)).1⟩, (classRanges (byte :: rest)).2)

/-- The items of a pattern that is no longer than a length. -/
def itemsWithin : Nat → List UInt8 → List (Item UInt8)
  | 0, _ => []
  | _, [] => []
  | length + 1, byte :: rest =>
    if byte = star then .many :: itemsWithin length rest
    else if byte = question then .one (fun _ => true) :: itemsWithin length rest
    else if byte = openBracket then .one (readClass rest).1.accepts :: itemsWithin length (readClass rest).2
    else if byte = backslash then
      match rest with
      | escaped :: after => .one (fun other => decide (other = escaped)) :: itemsWithin length after
      | [] => [.one fun other => decide (other = backslash)]
    else .one (fun other => decide (other = byte)) :: itemsWithin length rest

def items (pattern : List UInt8) : List (Item UInt8) := itemsWithin pattern.length pattern

/-- A key matches a pattern. -/
def globMatches (pattern key : String) : Bool :=
  test (items (Utf.utf8.write pattern.toList)) (Utf.utf8.write key.toList)

section Reading

theorem classRanges_suffix (pattern : List UInt8) : (classRanges pattern).2 <:+ pattern := by
  fun_induction classRanges pattern with
  | case1 => exact List.suffix_refl _
  | case2 => exact List.nil_suffix
  | case3 => exact List.nil_suffix
  | case4 second rest ih => exact ih.trans ((List.suffix_cons _ _).trans (List.suffix_cons _ _))
  | case5 => exact List.suffix_cons _ _
  | case6 first _ _ third after ih =>
    exact ih.trans ((List.suffix_cons _ _).trans ((List.suffix_cons _ _).trans (List.suffix_cons _ _)))
  | case7 first second _ _ third after _ ih => exact ih.trans (List.suffix_cons _ _)
  | case8 first second _ _ ih => exact ih.trans (List.suffix_cons _ _)

theorem readClass_suffix (pattern : List UInt8) : (readClass pattern).2 <:+ pattern := by
  cases pattern with
  | nil => exact List.suffix_refl _
  | cons byte rest =>
    rw [readClass]
    split
    next => exact (classRanges_suffix rest).trans (List.suffix_cons byte rest)
    next => exact classRanges_suffix (byte :: rest)

/-- A length that is enough is as good as another. -/
theorem itemsWithin_enough : ∀ {length other : Nat} {pattern : List UInt8}, pattern.length ≤ length →
    pattern.length ≤ other → itemsWithin length pattern = itemsWithin other pattern
  | length, other, [], _, _ => by cases length <;> cases other <;> rfl
  | length + 1, other + 1, byte :: rest, fits, enough => by
    have shorter {after : List UInt8} (suffix : after <:+ rest) :
        itemsWithin length after = itemsWithin other after :=
      itemsWithin_enough (suffix.length_le.trans (Nat.le_of_succ_le_succ fits))
        (suffix.length_le.trans (Nat.le_of_succ_le_succ enough))
    simp only [itemsWithin, shorter (List.suffix_refl rest), shorter (readClass_suffix rest)]
    cases rest with
    | nil => rfl
    | cons escaped after => simp only [shorter (List.suffix_cons escaped after)]

section Items
variable {byte : UInt8} {rest : List UInt8}

theorem itemsWithin_eq {length : Nat} {pattern : List UInt8} (fits : pattern.length ≤ length) :
    itemsWithin length pattern = items pattern := itemsWithin_enough fits (Nat.le_refl _)

theorem items_openBracket : items (openBracket :: rest) =
    .one (readClass rest).1.accepts :: items (readClass rest).2 :=
  congrArg (_ :: ·) (itemsWithin_eq (readClass_suffix rest).length_le)

theorem items_backslash {escaped : UInt8} : items (backslash :: escaped :: rest) =
    .one (fun other => decide (other = escaped)) :: items rest :=
  congrArg (_ :: ·) (itemsWithin_eq (Nat.le_succ _))

/-- A byte with a meaning of its own. -/
def isSpecial (byte : UInt8) : Bool := [star, question, openBracket, backslash].contains byte

theorem items_plain (plain : isSpecial byte = false) : items (byte :: rest) =
    .one (fun other => decide (other = byte)) :: items rest := by
  simp only [isSpecial, List.contains_cons, List.contains_nil, Bool.or_false, Bool.or_eq_false_iff, beq_eq_false_iff_ne]
    at plain
  obtain ⟨notStar, notQuestion, notBracket, notBackslash⟩ := plain
  show itemsWithin (rest.length + 1) (byte :: rest) = _
  rw [itemsWithin.eq_def]
  dsimp only
  rw [if_neg notStar, if_neg notQuestion, if_neg notBracket, if_neg notBackslash]
  rfl

/-- Bytes without a meaning of their own stand for themselves. -/
theorem items_word {word : List UInt8} (plain : ∀ byte ∈ word, isSpecial byte = false) :
    items (word ++ rest) = exactly word ++ items rest := by
  induction word with
  | nil => rfl
  | cons byte word ih =>
    rw [List.cons_append, items_plain (plain byte List.mem_cons_self),
      ih fun other member => plain other (List.mem_cons_of_mem _ member)]
    rfl

end Items

/-- The bytes of a pattern other than stars. -/
def weight (pattern : List UInt8) : Nat := pattern.countP fun byte => decide (byte ≠ star)

theorem weight_suffix {after pattern : List UInt8} (suffix : after <:+ pattern) : weight after ≤ weight pattern :=
  suffix.sublist.countP_le

theorem weight_cons {byte : UInt8} {rest : List UInt8} (other : byte ≠ star) :
    weight (byte :: rest) = weight rest + 1 := List.countP_cons_of_pos (decide_eq_true other)

/-- A class has bytes of its own, or takes nothing but stars. -/
theorem classRanges_weight (pattern : List UInt8) : weight (classRanges pattern).2 < weight pattern ∨
    ∀ range ∈ (classRanges pattern).1, range = (star, star) := by
  have own {first : UInt8} {rest after : List UInt8} (other : first ≠ star) (suffix : after <:+ rest) :
      weight after < weight (first :: rest) :=
    (weight_cons other).symm ▸ Nat.lt_succ_of_le (weight_suffix suffix)
  have single {first : UInt8} {rest : List UInt8}
      (ih : weight (classRanges rest).2 < weight rest ∨ ∀ range ∈ (classRanges rest).1, range = (star, star)) :
      weight (classRanges rest).2 < weight (first :: rest) ∨
        ∀ range ∈ (first, first) :: (classRanges rest).1, range = (star, star) := by
    by_cases other : first = star
    · refine ih.imp (fun less => less.trans_le (weight_suffix (List.suffix_cons first rest))) fun stars => ?_
      exact List.forall_mem_cons.mpr ⟨by rw [other], stars⟩
    · exact Or.inl (own other (classRanges_suffix rest))
  fun_induction classRanges pattern with
  | case1 => exact Or.inr nofun
  | case2 => exact Or.inl (own (by decide) (List.suffix_refl _))
  | case3 byte _ =>
    by_cases other : byte = star
    · exact Or.inr (by simp [other])
    · exact Or.inl (own other (List.suffix_refl _))
  | case4 second rest ih =>
    exact Or.inl (own (by decide) ((classRanges_suffix rest).trans (List.suffix_cons second rest)))
  | case5 => exact Or.inl (own (by decide) (List.suffix_refl _))
  | case6 first _ _ third after ih =>
    have inner : weight (classRanges after).2 < weight (dash :: third :: after) :=
      own (by decide) ((classRanges_suffix after).trans (List.suffix_cons third after))
    exact Or.inl (inner.trans_le (weight_suffix (List.suffix_cons first _)))
  | case7 first second _ _ third after _ ih => exact single ih
  | case8 first second _ _ ih => exact single ih

/-- A class that takes a byte other than a star has bytes of its own. -/
theorem readClass_weight {pattern : List UInt8} {byte : UInt8} (other : byte ≠ star)
    (accepted : (readClass pattern).1.accepts byte = true) : weight (readClass pattern).2 < weight pattern := by
  cases pattern with
  | nil => cases accepted
  | cons first rest =>
    rw [readClass] at accepted ⊢
    split at accepted
    next isCaret =>
      rw [if_pos isCaret, weight_cons (by rw [isCaret]; decide)]
      exact Nat.lt_succ_of_le (weight_suffix (classRanges_suffix rest))
    next plain =>
      rw [if_neg plain]
      refine (classRanges_weight (first :: rest)).resolve_right fun stars => ?_
      simp only [ByteClass.accepts, Bool.bne_false, List.any_eq_true] at accepted
      obtain ⟨range, member, inside⟩ := accepted
      rw [stars range member, inRange, Bool.or_self, decide_eq_true_eq] at inside
      exact other (UInt8.le_antisymm inside.2 inside.1)

/-- Every item that takes a byte has a byte of the pattern. -/
theorem singles_le : ∀ (length : Nat) (pattern : List UInt8), singles (itemsWithin length pattern) ≤ weight pattern
  | 0, _ => Nat.zero_le _
  | _ + 1, [] => Nat.zero_le _
  | length + 1, byte :: rest => by
    have one {after : List UInt8} (other : byte ≠ star) (suffix : after <:+ rest) :
        singles (itemsWithin length after) + 1 ≤ weight (byte :: rest) := by
      rw [weight_cons other]
      exact Nat.succ_le_succ ((singles_le length after).trans (weight_suffix suffix))
    rw [itemsWithin.eq_def]
    dsimp only
    split
    next isStar => exact (singles_le length rest).trans (weight_suffix (List.suffix_cons byte rest))
    next other =>
      split
      next => exact one other (List.suffix_refl rest)
      split
      next => exact one other (readClass_suffix rest)
      split
      next =>
        split
        next escaped after => exact one other (List.suffix_cons escaped after)
        next => exact (weight_cons other).symm ▸ Nat.succ_le_succ (Nat.zero_le _)
      next => exact one other (List.suffix_refl rest)

end Reading

end AlianStructure.Library.RedisGlob
