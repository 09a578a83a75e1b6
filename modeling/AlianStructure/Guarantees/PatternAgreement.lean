import AlianStructure.Library.RedisGlob
import AlianStructure.Source.Cache.CacheService

/-!
# Patterns of the memory and of Redis

Source: src/common/cache/cache.service.ts:205-259,376-384. One pattern text is an expression for the keys in memory and
a glob pattern for the keys of Redis. The expression escapes brackets and backslashes, its dots stop at a line
terminator, and they take code units where the wildcards of Redis take bytes.
-/
namespace AlianStructure.Guarantees.PatternAgreement
open Library.TextCode Library.Utf Library.Wildcards Library.RedisGlob
open Source.Cache

def itemOf (codeUnit : Nat) : RegExpItem :=
  if codeUnit = '*'.toNat then .dotStar
  else if codeUnit = '?'.toNat then .dot
  else .unit codeUnit

def expression (pattern : List Char) : List RegExpItem := (utf16.write pattern).map itemOf

/-- The expression of a pattern matches a key. -/
def inMemory (pattern key : List Char) : Prop := matchesAll (expression pattern) (utf16.write key) = true

/-- A pattern of Redis matches a key. -/
def inRedis (pattern key : List Char) : Prop := Library.Wildcards.test (items (utf8.write pattern)) (utf8.write key) = true

theorem matchesAll_units {items : List RegExpItem} : ∀ {word codeUnits : List Nat},
    matchesAll (word.map RegExpItem.unit ++ items) codeUnits = true ↔
      ∃ rest, codeUnits = word ++ rest ∧ matchesAll items rest = true
  | [], codeUnits => by simp
  | codeUnit :: word, [] => by simp [matchesAll]
  | codeUnit :: word, other :: codeUnits => by
    have ih := @matchesAll_units items word codeUnits
    simp only [List.map_cons, List.cons_append, matchesAll, Bool.and_eq_true, beq_iff_eq, ih, List.cons.injEq]
    constructor
    · rintro ⟨same, rest, split, matched⟩
      exact ⟨rest, ⟨same, split⟩, matched⟩
    · rintro ⟨rest, ⟨same, split⟩, matched⟩
      exact ⟨same, rest, split, matched⟩

theorem itemOf_plain {codeUnit : Nat} (notStar : codeUnit ≠ 42) (notDot : codeUnit ≠ 63) :
    itemOf codeUnit = .unit codeUnit := (if_neg notStar).trans (if_neg notDot)

theorem itemOf_word {c : Char} (notStar : c ≠ '*') (notDot : c ≠ '?') :
    (codeUnitsOf c).map itemOf = (codeUnitsOf c).map RegExpItem.unit := by
  have one : c.toNat ≠ 42 := fun same => notStar (Char.toNat_inj.mp same)
  have two : c.toNat ≠ 63 := fun same => notDot (Char.toNat_inj.mp same)
  unfold codeUnitsOf
  split
  next => rw [List.map_singleton, List.map_singleton, itemOf_plain one two]
  next =>
    rw [List.map_cons, List.map_singleton, itemOf_plain (by omega) (by omega), itemOf_plain (by omega) (by omega)]
    rfl

theorem mem_afterDots {rest : List Nat} : ∀ {codeUnits : List Nat}, rest ∈ afterDots codeUnits ↔
    ∃ dots, codeUnits = dots ++ rest ∧ ∀ codeUnit ∈ dots, isLineTerminator codeUnit = false
  | [] => by
    simp only [afterDots, List.mem_singleton]
    constructor
    · rintro rfl
      exact ⟨[], rfl, nofun⟩
    · rintro ⟨dots, split, _⟩
      exact (List.append_eq_nil_iff.mp split.symm).2
  | codeUnit :: codeUnits => by
    have ih := @mem_afterDots rest codeUnits
    simp only [afterDots, List.mem_cons]
    constructor
    · rintro (rfl | later)
      · exact ⟨[], rfl, nofun⟩
      · split at later
        next => cases later
        next plain =>
          obtain ⟨dots, rfl, none⟩ := ih.mp later
          exact ⟨codeUnit :: dots, rfl, List.forall_mem_cons.mpr ⟨by simpa using plain, none⟩⟩
    · rintro ⟨dots, split, none⟩
      cases dots with
      | nil => exact Or.inl split.symm
      | cons dot dots =>
        obtain ⟨rfl, rfl⟩ := List.cons.inj split
        obtain ⟨plain, none⟩ := List.forall_mem_cons.mp none
        rw [if_neg (by simp [plain])]
        exact Or.inr (ih.mpr ⟨dots, rfl, none⟩)

theorem matchesAll_dotStar {items : List RegExpItem} {codeUnits : List Nat} :
    matchesAll (.dotStar :: items) codeUnits = true ↔ ∃ dots rest, codeUnits = dots ++ rest ∧
      (∀ codeUnit ∈ dots, isLineTerminator codeUnit = false) ∧ matchesAll items rest = true := by
  simp only [matchesAll, List.any_eq_true, mem_afterDots]
  constructor
  · rintro ⟨rest, ⟨dots, split, none⟩, matched⟩
    exact ⟨dots, rest, split, none, matched⟩
  · rintro ⟨dots, rest, split, none, matched⟩
    exact ⟨rest, ⟨dots, split, none⟩, matched⟩

theorem matchesAll_count : ∀ {items : List RegExpItem} {codeUnits : List Nat}, matchesAll items codeUnits = true →
    codeUnits.count 10 = items.count (.unit 10)
  | [], codeUnits, matched => by
    rw [List.isEmpty_iff.mp matched]
    rfl
  | .unit expected :: items, [], matched | .dot :: items, [], matched => by cases matched
  | .unit expected :: items, codeUnit :: codeUnits, matched => by
    simp only [matchesAll, Bool.and_eq_true, beq_iff_eq] at matched
    rw [matched.1, List.count_cons, List.count_cons, matchesAll_count matched.2]
    simp
  | .dot :: items, codeUnit :: codeUnits, matched => by
    simp only [matchesAll, Bool.and_eq_true, Bool.not_eq_true'] at matched
    have other : codeUnit ≠ 10 := by
      rintro rfl
      exact absurd matched.1 (by decide)
    rw [List.count_cons_of_ne other, List.count_cons_of_ne (by simp), matchesAll_count matched.2]
  | .dotStar :: items, codeUnits, matched => by
    obtain ⟨dots, rest, rfl, none, matched⟩ := matchesAll_dotStar.mp matched
    have absent : 10 ∉ dots := fun member => absurd (none 10 member) (by decide)
    rw [List.count_append, List.count_eq_zero_of_not_mem absent, List.count_cons_of_ne (by simp),
      matchesAll_count matched, Nat.zero_add]

theorem count_codeUnitsOf (c : Char) : (codeUnitsOf c).count 10 = [c].count '\n' := by
  have same : c.toNat = 10 ↔ c = '\n' := ⟨fun equal => Char.toNat_inj.mp equal, fun equal => congrArg Char.toNat equal⟩
  unfold codeUnitsOf
  split
  next => simp [List.count_cons, same]
  next =>
    have other : c ≠ '\n' := by
      rintro rfl
      exact absurd (same.mpr rfl) (by omega)
    have first : 0xd800 + (c.toNat - 0x10000) / 0x400 ≠ 10 := by omega
    have second : 0xdc00 + (c.toNat - 0x10000) % 0x400 ≠ 10 := by omega
    simp [first, second, other]

theorem count_write (text : List Char) : (utf16.write text).count 10 = text.count '\n' := by
  induction text with
  | nil => rfl
  | cons c text ih =>
    have here : (utf16.encode c).count 10 = [c].count '\n' := count_codeUnitsOf c
    rw [write_cons, List.count_append, ih, here, ← List.count_append]
    rfl

theorem count_items (codeUnits : List Nat) : (codeUnits.map itemOf).count (.unit 10) = codeUnits.count 10 := by
  induction codeUnits with
  | nil => rfl
  | cons codeUnit codeUnits ih =>
    rw [List.map_cons, List.count_cons, List.count_cons, ih]
    unfold itemOf
    split
    next star => simp [star]
    split
    next dot => simp [dot]
    next => simp

section Memory
variable {c : Char} {pattern key : List Char}

theorem inMemory_nil : inMemory [] key ↔ key = [] := by
  unfold inMemory
  cases key with
  | nil => simp [expression, matchesAll]
  | cons c key =>
    have written := encode_ne_nil utf16 c
    simp [expression, matchesAll, written]

theorem inMemory_char (notStar : c ≠ '*') (notDot : c ≠ '?') :
    inMemory (c :: pattern) key ↔ ∃ rest, key = c :: rest ∧ inMemory pattern rest := by
  have isWord : expression (c :: pattern) = (codeUnitsOf c).map RegExpItem.unit ++ expression pattern := by
    rw [← itemOf_word notStar notDot]
    exact List.map_append
  unfold inMemory
  rw [isWord, matchesAll_units]
  constructor
  · rintro ⟨rest, same, matched⟩
    obtain ⟨left, rfl, rfl⟩ := write_eq_encode_append utf16 same
    exact ⟨left, rfl, matched⟩
  · rintro ⟨rest, rfl, matched⟩
    exact ⟨utf16.write rest, rfl, matched⟩

theorem inMemory_dot_x : inMemory ('?' :: pattern) ('x' :: key) ↔ inMemory pattern key := by
  show matchesAll (.dot :: expression pattern) (120 :: utf16.write key) = true ↔ _
  rw [matchesAll, Bool.and_eq_true]
  exact and_iff_right rfl

theorem inMemory_dot_lineFeed : ¬ inMemory ('?' :: pattern) ('\n' :: key) := nofun

theorem inMemory_star (matched : inMemory pattern key) : inMemory ('*' :: pattern) key := by
  exact matchesAll_dotStar.mpr ⟨[], utf16.write key, rfl, nofun, matched⟩

theorem inMemory_star_x (matched : inMemory ('*' :: pattern) key) : inMemory ('*' :: pattern) ('x' :: key) := by
  obtain ⟨dots, rest, split, none, matched⟩ := matchesAll_dotStar.mp matched
  refine matchesAll_dotStar.mpr ⟨'x'.toNat :: dots, rest, ?_, List.forall_mem_cons.mpr ⟨rfl, none⟩, matched⟩
  exact congrArg ('x'.toNat :: ·) split

theorem inMemory_count (matched : inMemory pattern key) : key.count '\n' = pattern.count '\n' := by
  have units := matchesAll_count matched
  rwa [count_write, expression, count_items, count_write] at units

theorem inMemory_exists : ∀ pattern : List Char, ∃ key, inMemory pattern key
  | [] => ⟨[], rfl⟩
  | c :: pattern => by
    obtain ⟨key, matched⟩ := inMemory_exists pattern
    by_cases notStar : c = '*'
    · exact ⟨key, notStar ▸ inMemory_star matched⟩
    · by_cases notDot : c = '?'
      · exact ⟨'x' :: key, notDot ▸ inMemory_dot_x.mpr matched⟩
      · exact ⟨c :: key, (inMemory_char notStar notDot).mpr ⟨key, rfl, matched⟩⟩

theorem inMemory_empty : ∀ {pattern : List Char}, inMemory pattern [] → weight (utf8.write pattern) = 0
  | [], _ => rfl
  | c :: pattern, matched => by
    by_cases notStar : c = '*'
    · subst notStar
      obtain ⟨dots, rest, split, _, matched⟩ := matchesAll_dotStar.mp matched
      obtain ⟨rfl, rfl⟩ := List.append_eq_nil_iff.mp split.symm
      exact @inMemory_empty pattern matched
    · by_cases notDot : c = '?'
      · subst notDot
        cases matched
      · obtain ⟨_, split, _⟩ := (inMemory_char notStar notDot).mp matched
        cases split

end Memory

section Bytes

theorem utf8_lineFeed : utf8.encode '\n' = [10] := rfl

theorem special_char {c : Char} {byte : UInt8} (member : byte ∈ utf8.encode c) (special : byte.toNat < 128) :
    c.toNat = byte.toNat := by
  by_cases ascii : c.toNat < 128
  · rw [utf8_ascii ascii, List.mem_singleton] at member
    rw [member, toNat_ofNat (by omega)]
  · exact absurd (utf8_wide (not_lt.mp ascii) byte member) (not_le.mpr special)

theorem star_not_mem {c : Char} (notStar : c ≠ '*') : star ∉ utf8.encode c :=
  fun member => notStar (Char.toNat_inj.mp (special_char member (by decide)))

theorem weight_write {c : Char} (notStar : c ≠ '*') (rest : List UInt8) :
    weight (utf8.encode c ++ rest) = (utf8.encode c).length + weight rest := by
  have whole : weight (utf8.encode c) = (utf8.encode c).length := by
    refine List.countP_eq_length.mpr fun byte member => decide_eq_true fun same => ?_
    exact star_not_mem notStar (same ▸ member)
  rw [← whole]
  exact List.countP_append

/-- Items that match a key after any number of letters match it after a line feed too. -/
theorem stretched {key : List Char} : ∀ {items : List (Item UInt8)},
    (∀ n, Library.Wildcards.test items (utf8.write (List.replicate n 'x' ++ key)) = true) →
    ∃ n, Library.Wildcards.test items (utf8.write (List.replicate n 'x' ++ '\n' :: key)) = true
  | [], matched => by cases matched 1
  | .many :: items, matched => ⟨0, test_many_mono ⟨[10], rfl⟩ (matched 0)⟩
  | .one accepts :: items, matched => by
    have letters (n : Nat) : accepts 120 = true ∧
        Library.Wildcards.test items (utf8.write (List.replicate n 'x' ++ key)) = true :=
      test_one_cons.mp (matched (n + 1))
    obtain ⟨n, more⟩ := stretched fun n => (letters n).2
    exact ⟨n + 1, test_one_cons.mpr ⟨(letters 0).1, more⟩⟩

/-- Items with fewer single items than the pattern has bytes do not take the keys that the pattern matches, within a
character or not. -/
theorem never_agree : ∀ (items : List (Item UInt8)) (tail : List UInt8) (pattern : List Char) (c : Char), c ≠ '\n' →
    tail <:+ utf8.encode c → singles items < tail.length + weight (utf8.write pattern) →
    ¬ ∀ key, Library.Wildcards.test items (tail ++ utf8.write key) = true ↔ inMemory pattern key
  | [], tail, pattern, c, _, _, heavy, agree => by
    obtain ⟨key, matched⟩ := inMemory_exists pattern
    obtain ⟨rfl, isEmpty⟩ := List.append_eq_nil_iff.mp (test_nil.mp ((agree key).mpr matched))
    obtain rfl : key = [] := write_injective utf8 isEmpty
    rw [inMemory_empty matched] at heavy
    exact absurd heavy (lt_irrefl _)
  | .many :: items, tail, pattern, c, notFeed, suffix, _, agree => by
    obtain ⟨key, matched⟩ := inMemory_exists pattern
    obtain ⟨first, written⟩ := suffix
    have more : tail ++ utf8.write key <:+ tail ++ utf8.write ('\n' :: c :: key) := by
      refine ⟨tail ++ 10 :: first, ?_⟩
      rw [write_cons, write_cons, ← written, utf8_lineFeed]
      simp
    have taken := (agree _).mp (test_many_mono more ((agree key).mpr matched))
    have feeds := (inMemory_count taken).trans (inMemory_count matched).symm
    rw [List.count_cons_self, List.count_cons_of_ne notFeed] at feeds
    omega
  | .one accepts :: items, byte :: tail, pattern, c, notFeed, suffix, heavy, agree => by
    obtain ⟨key, matched⟩ := inMemory_exists pattern
    obtain ⟨accepted, _⟩ := test_one_cons.mp ((agree key).mpr matched)
    refine never_agree items tail pattern c notFeed ((List.suffix_cons byte tail).trans suffix) ?_ fun key => ?_
    · rw [singles, List.length_cons] at heavy
      omega
    · rw [← agree key, List.cons_append, test_one_cons]
      exact (and_iff_right accepted).symm
  | .one accepts :: items, [], [], c, _, _, _, agree => by
    cases (agree []).mpr (inMemory_nil.mpr rfl)
  | .one accepts :: items, [], d :: pattern, c, _, _, heavy, agree => by
    obtain ⟨key, matched⟩ := inMemory_exists pattern
    by_cases isStar : d = '*'
    · subst isStar
      have letters (n : Nat) : inMemory ('*' :: pattern) (List.replicate n 'x' ++ key) := by
        induction n with
        | zero => exact inMemory_star matched
        | succ n ih => exact inMemory_star_x ih
      obtain ⟨n, taken⟩ := stretched fun n => (agree _).mpr (letters n)
      have feeds := (inMemory_count ((agree _).mp taken)).trans (inMemory_count (letters n)).symm
      rw [List.count_append, List.count_append, List.count_cons_self] at feeds
      omega
    · rw [write_cons, weight_write isStar, singles, List.length_nil, Nat.zero_add] at heavy
      by_cases isDot : d = '?'
      · subst isDot
        have step (key : List Char) : accepts 120 = true ∧ Library.Wildcards.test items (utf8.write key) = true ↔
            inMemory pattern key := by
          rw [← test_one_cons, ← inMemory_dot_x]
          exact agree ('x' :: key)
        have accepted := ((step key).mpr matched).1
        refine never_agree items [] pattern 'x' (by decide) List.nil_suffix ?_ fun key => ?_
        · have one : (utf8.encode '?').length = 1 := rfl
          rw [List.length_nil, Nat.zero_add]
          omega
        · exact (and_iff_right accepted).symm.trans (step key)
      · obtain ⟨byte, tail, written, _⟩ := utf8.begins d
        have step (key : List Char) :
            accepts byte = true ∧ Library.Wildcards.test items (tail ++ utf8.write key) = true ↔
              inMemory pattern key := by
          have whole := agree (d :: key)
          rw [List.nil_append, write_cons, written, List.cons_append, test_one_cons] at whole
          rw [whole, inMemory_char isStar isDot]
          simp
        have accepted := ((step key).mpr matched).1
        rw [written, List.length_cons] at heavy
        by_cases isFeed : d = '\n'
        · subst isFeed
          obtain rfl : tail = [] := (List.cons.inj (written.symm.trans utf8_lineFeed)).2
          refine never_agree items [] pattern 'x' (by decide) List.nil_suffix (by grind) fun key => ?_
          exact (and_iff_right accepted).symm.trans (step key)
        · refine never_agree items tail pattern d isFeed ⟨[byte], written.symm⟩ (by omega) fun key => ?_
          exact (and_iff_right accepted).symm.trans (step key)

end Bytes

/-- A pattern without classes and escapes. -/
def IsSimple (pattern : List Char) : Prop := '[' ∉ pattern ∧ '\\' ∉ pattern.dropLast

/-- A pattern that stands for itself. -/
def IsLiteral (pattern : List Char) : Prop := '*' ∉ pattern ∧ '?' ∉ pattern ∧ IsSimple pattern

instance (pattern : List Char) : Decidable (IsSimple pattern) := by
  unfold IsSimple
  infer_instance

instance (pattern : List Char) : Decidable (IsLiteral pattern) := by
  unfold IsLiteral
  infer_instance

section Literal
variable {c : Char} {pattern : List Char}

theorem IsSimple.of_cons (simple : IsSimple (c :: pattern)) : IsSimple pattern := by
  refine ⟨fun member => simple.1 (List.mem_cons_of_mem _ member), fun member => simple.2 ?_⟩
  cases pattern with
  | nil => cases member
  | cons d rest => exact List.mem_cons_of_mem _ member

theorem IsSimple.backslash_last (simple : IsSimple ('\\' :: pattern)) : pattern = [] := by
  cases pattern with
  | nil => rfl
  | cons d rest => exact absurd List.mem_cons_self simple.2

theorem IsLiteral.cons (literal : IsLiteral pattern) (notStar : c ≠ '*') (notDot : c ≠ '?') (notBracket : c ≠ '[')
    (notBackslash : c ≠ '\\') : IsLiteral (c :: pattern) := by
  refine ⟨?_, ?_, ?_, ?_⟩
  · exact List.not_mem_cons_of_ne_of_not_mem notStar.symm literal.1
  · exact List.not_mem_cons_of_ne_of_not_mem notDot.symm literal.2.1
  · exact List.not_mem_cons_of_ne_of_not_mem notBracket.symm literal.2.2.1
  · cases pattern with
    | nil => exact List.not_mem_nil
    | cons d rest => exact List.not_mem_cons_of_ne_of_not_mem notBackslash.symm literal.2.2.2

/-- The bytes of a character without a meaning of its own stand for themselves. -/
theorem items_char (notStar : c ≠ '*') (notDot : c ≠ '?') (notBracket : c ≠ '[') (notBackslash : c ≠ '\\')
    (rest : List UInt8) : items (utf8.encode c ++ rest) = exactly (utf8.encode c) ++ items rest := by
  refine items_word fun byte member => ?_
  have char {special : UInt8} (ascii : special.toNat < 128) (d : Char) (code : d.toNat = special.toNat)
      (other : c ≠ d) : byte ≠ special := by
    rintro rfl
    exact other (Char.toNat_inj.mp ((special_char member ascii).trans code.symm))
  have one : byte ≠ star := char (by decide) '*' rfl notStar
  have two : byte ≠ question := char (by decide) '?' rfl notDot
  have three : byte ≠ openBracket := char (by decide) '[' rfl notBracket
  have four : byte ≠ backslash := char (by decide) '\\' rfl notBackslash
  simp [isSpecial, one, two, three, four]

theorem literal_of_agree : ∀ {pattern : List Char}, (∀ key, inRedis pattern key ↔ inMemory pattern key) →
    IsLiteral pattern
  | [], _ => by decide
  | c :: pattern, agree => by
    obtain ⟨key, matched⟩ := inMemory_exists pattern
    by_cases isStar : c = '*'
    · subst isStar
      have taken := (agree ('\n' :: key)).mp (test_many_mono ⟨[10], rfl⟩ ((agree key).mpr (inMemory_star matched)))
      have feeds := (inMemory_count taken).trans (inMemory_count (inMemory_star matched)).symm
      rw [List.count_cons_self] at feeds
      omega
    by_cases isDot : c = '?'
    · subst isDot
      have rest := (test_one_cons.mp ((agree ('x' :: key)).mpr (inMemory_dot_x.mpr matched))).2
      exact absurd ((agree ('\n' :: key)).mp (test_one_cons.mpr ⟨rfl, rest⟩)) inMemory_dot_lineFeed
    by_cases isBracket : c = '['
    · subst isBracket
      have step (key : List Char) : (readClass (utf8.write pattern)).1.accepts openBracket = true ∧
          Library.Wildcards.test (items (readClass (utf8.write pattern)).2) (utf8.write key) = true ↔
            inMemory pattern key := by
        have whole := agree ('[' :: key)
        rw [inMemory_char (by decide) (by decide)] at whole
        rw [← test_one_cons, ← items_openBracket]
        have same : inRedis ('[' :: pattern) ('[' :: key) ↔ inMemory pattern key := by simpa using whole
        exact same
      have accepted := ((step key).mpr matched).1
      refine absurd (fun key => (and_iff_right accepted).symm.trans (step key))
        (never_agree _ [] pattern 'x' (by decide) List.nil_suffix ?_)
      rw [List.length_nil, Nat.zero_add]
      exact (singles_le _ _).trans_lt (readClass_weight (by decide) accepted)
    by_cases isBackslash : c = '\\'
    · subst isBackslash
      cases pattern with
      | nil => decide
      | cons d pattern =>
        obtain ⟨byte, tail, written, _⟩ := utf8.begins d
        have isPattern : utf8.write ('\\' :: d :: pattern) = backslash :: byte :: (tail ++ utf8.write pattern) := by
          rw [write_cons, write_cons, written]
          rfl
        have step (key : List Char) : decide (backslash = byte) = true ∧
            Library.Wildcards.test (items (tail ++ utf8.write pattern)) (utf8.write key) = true ↔
              inMemory (d :: pattern) key := by
          have whole := agree ('\\' :: key)
          rw [inRedis, isPattern, items_backslash, inMemory_char (by decide) (by decide)] at whole
          have first : utf8.write ('\\' :: key) = backslash :: utf8.write key := rfl
          rw [first, test_one_cons] at whole
          simpa using whole
        have escaped := ((step key).mpr matched).1
        refine absurd (fun key => (and_iff_right escaped).symm.trans (step key))
          (never_agree _ [] (d :: pattern) 'x' (by decide) List.nil_suffix ?_)
        have other : byte ≠ star := (of_decide_eq_true escaped) ▸ by decide
        rw [List.length_nil, Nat.zero_add, write_cons, written, List.cons_append, weight_cons other]
        exact Nat.lt_succ_of_le (singles_le _ _)
    · have rest : IsLiteral pattern := literal_of_agree fun key => by
        have whole := agree (c :: key)
        rw [inRedis, write_cons, items_char isStar isDot isBracket isBackslash, test_exactly,
          inMemory_char isStar isDot] at whole
        simpa [inRedis] using whole
      exact rest.cons isStar isDot isBracket isBackslash

end Literal

/-- The wildcards of a pattern without classes and escapes. -/
def wildOf (c : Char) : Wild Char :=
  if c = '*' then .anyMany
  else if c = '?' then .anyOne
  else .char c

section Simple

theorem items_simple : ∀ {pattern : List Char}, IsSimple pattern →
    items (utf8.write pattern) = spell utf8 (pattern.map wildOf)
  | [], _ => rfl
  | c :: pattern, simple => by
    have ih := items_simple simple.of_cons
    rw [List.map_cons, write_cons, wildOf]
    split
    next isStar =>
      subst isStar
      exact congrArg (.many :: ·) ih
    split
    next isDot =>
      subst isDot
      exact congrArg (.one (fun _ => true) :: ·) ih
    next isStar isDot =>
      by_cases isBackslash : c = '\\'
      · subst isBackslash
        obtain rfl := simple.backslash_last
        rfl
      · have notBracket : c ≠ '[' := by
          rintro rfl
          exact simple.1 List.mem_cons_self
        rw [items_char isStar isDot notBracket isBackslash, ih]
        rfl

/-- The expression reads the wildcards of a pattern, where the text has no line terminators. -/
theorem expression_wild : ∀ {pattern : List Char} {codeUnits : List Nat},
    (∀ codeUnit ∈ codeUnits, isLineTerminator codeUnit = false) →
    (matchesAll (expression pattern) codeUnits = true ↔
      Library.Wildcards.test (spell utf16 (pattern.map wildOf)) codeUnits = true)
  | [], _, _ => Iff.rfl
  | c :: pattern, codeUnits, tame => by
    rw [List.map_cons, wildOf]
    split
    next isStar =>
      subst isStar
      have isExpression : expression ('*' :: pattern) = .dotStar :: expression pattern := rfl
      rw [isExpression, matchesAll_dotStar, spell, test_many]
      constructor
      · rintro ⟨dots, rest, rfl, _, matched⟩
        exact ⟨rest, List.suffix_append _ _,
          (expression_wild fun codeUnit member => tame codeUnit (List.mem_append_right _ member)).mp matched⟩
      · rintro ⟨rest, ⟨dots, rfl⟩, matched⟩
        exact ⟨dots, rest, rfl, fun codeUnit member => tame codeUnit (List.mem_append_left _ member),
          (expression_wild fun codeUnit member => tame codeUnit (List.mem_append_right _ member)).mpr matched⟩
    split
    next isDot =>
      subst isDot
      cases codeUnits with
      | nil => exact Iff.rfl
      | cons codeUnit codeUnits =>
        obtain ⟨plain, tame⟩ := List.forall_mem_cons.mp tame
        rw [spell, test_one_cons, ← expression_wild tame]
        show matchesAll (.dot :: expression pattern) (codeUnit :: codeUnits) = true ↔ _
        rw [matchesAll, Bool.and_eq_true, plain]
        rfl
    next isStar isDot =>
      have isWord : expression (c :: pattern) = (codeUnitsOf c).map RegExpItem.unit ++ expression pattern := by
        rw [← itemOf_word isStar isDot]
        exact List.map_append
      rw [isWord, matchesAll_units, spell, test_exactly]
      refine exists_congr fun rest => and_congr_right fun split => expression_wild fun codeUnit member => ?_
      exact tame codeUnit (split ▸ List.mem_append_right _ member)

theorem tame_codeUnits {key : List Char} (tame : ∀ c ∈ key, isLineTerminator c.toNat = false) :
    ∀ codeUnit ∈ utf16.write key, isLineTerminator codeUnit = false := by
  intro codeUnit member
  obtain ⟨c, inside, isUnit⟩ := List.mem_flatMap.mp member
  have plain := tame c inside
  have isCode : codeUnit ∈ codeUnitsOf c := isUnit
  unfold codeUnitsOf at isCode
  split at isCode
  next =>
    rw [List.mem_singleton] at isCode
    rwa [isCode]
  next =>
    have high : 0xd800 ≤ codeUnit := by
      simp only [List.mem_cons, List.not_mem_nil, or_false] at isCode
      omega
    simp only [isLineTerminator, List.contains_cons, List.contains_nil, Bool.or_false, Bool.or_eq_false_iff,
      beq_eq_false_iff_ne]
    omega

/-- A pattern without classes and escapes is read alike of a key without line terminators, when it has no single
wildcard or the key is ASCII. -/
theorem agree_of_simple {pattern key : List Char} (simple : IsSimple pattern)
    (tame : ∀ c ∈ key, isLineTerminator c.toNat = false) (narrow : '?' ∉ pattern ∨ ∀ c ∈ key, c.toNat < 128) :
    inRedis pattern key ↔ inMemory pattern key := by
  have absent (none : '?' ∉ pattern) : Wild.anyOne ∉ pattern.map wildOf := by
    intro member
    obtain ⟨c, inside, isAny⟩ := List.mem_map.mp member
    unfold wildOf at isAny
    split at isAny
    next => cases isAny
    split at isAny
    next isDot => exact none (isDot ▸ inside)
    next => cases isAny
  have one : Narrow utf8 (pattern.map wildOf) key :=
    narrow.imp absent fun ascii c member => by rw [utf8_ascii (ascii c member)]; rfl
  have two : Narrow utf16 (pattern.map wildOf) key := narrow.imp absent fun ascii c member => by
    have small : c.toNat < 0x10000 := (ascii c member).trans (by decide)
    exact congrArg List.length (if_pos small)
  unfold inRedis inMemory
  rw [items_simple simple, expression_wild (tame_codeUnits tame), test_spell one, test_spell two]

theorem inRedis_char {c : Char} {pattern key : List Char} (simple : IsSimple (c :: pattern)) (notStar : c ≠ '*')
    (notDot : c ≠ '?') : inRedis (c :: pattern) key ↔ ∃ rest, key = c :: rest ∧ inRedis pattern rest := by
  unfold inRedis
  rw [items_simple simple, items_simple simple.of_cons, List.map_cons, wildOf, if_neg notStar, if_neg notDot, spell,
    test_exactly]
  constructor
  · rintro ⟨rest, same, matched⟩
    obtain ⟨left, rfl, rfl⟩ := write_eq_encode_append utf8 same
    exact ⟨left, rfl, matched⟩
  · rintro ⟨rest, rfl, matched⟩
    exact ⟨utf8.write rest, rfl, matched⟩

theorem agree_of_literal : ∀ {pattern key : List Char}, IsLiteral pattern →
    (inRedis pattern key ↔ inMemory pattern key)
  | [], key, _ => by
    have written : utf8.write key = [] ↔ key = [] :=
      ⟨fun same => write_injective utf8 same, fun same => by rw [same]; rfl⟩
    rw [inMemory_nil, ← written]
    exact test_nil
  | c :: pattern, key, ⟨noStar, noDot, simple⟩ => by
    have notStar : c ≠ '*' := (List.ne_of_not_mem_cons noStar).symm
    have notDot : c ≠ '?' := (List.ne_of_not_mem_cons noDot).symm
    rw [inRedis_char simple notStar notDot, inMemory_char notStar notDot]
    refine exists_congr fun rest => and_congr_right fun _ => agree_of_literal ⟨?_, ?_, simple.of_cons⟩
    · exact List.not_mem_of_not_mem_cons noStar
    · exact List.not_mem_of_not_mem_cons noDot

end Simple

/-- The two stores read a pattern alike, of every key, when it has no wildcards, classes and escapes. Of a pattern with
wildcards alone they read keys alike that have no line terminators, when the pattern has no single wildcard or the key
is ASCII. -/
theorem patterns_agree_iff (pattern : String) :
    ((∀ key, test (globToRegex pattern) key = globMatches pattern key) ↔ IsLiteral pattern.toList) ∧
    (IsSimple pattern.toList → ∀ key : String, (∀ c ∈ key.toList, isLineTerminator c.toNat = false) →
      ('?' ∉ pattern.toList ∨ ∀ c ∈ key.toList, c.toNat < 128) →
      test (globToRegex pattern) key = globMatches pattern key) := by
  have read (key : String) : test (globToRegex pattern) key = globMatches pattern key ↔
      (inRedis pattern.toList key.toList ↔ inMemory pattern.toList key.toList) :=
    Bool.eq_iff_iff.trans (iff_comm.trans Iff.rfl)
  refine ⟨⟨fun agree => literal_of_agree fun key => ?_, fun literal key => (read key).mpr (agree_of_literal literal)⟩,
    fun simple key tame narrow => (read key).mpr (agree_of_simple simple tame narrow)⟩
  have here := (read (String.ofList key)).mp (agree _)
  rwa [String.toList_ofList] at here

/-- A class is text for the memory. -/
theorem class_differs : ¬ ∀ pattern key : String, test (globToRegex pattern) key = globMatches pattern key :=
  fun agree => absurd (agree "user:[ab]" "user:a") (by decide +kernel)

end AlianStructure.Guarantees.PatternAgreement
