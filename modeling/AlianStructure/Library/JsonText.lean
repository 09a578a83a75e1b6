import Mathlib.Data.List.Basic
import Mathlib.Tactic.IntervalCases

/-!
# JSON texts

JSON values with the members of an object in their order, and the text without blanks that is
written for one. Different values have different texts. A number is kept as its text.
-/
namespace AlianStructure.Library.JsonText

instance decidableSigns (p : Char → Prop) [DecidablePred p] (signs : List Char) : Decidable (∀ c ∈ signs, p c) :=
  List.decidableBAll p signs

def isNumberChar (c : Char) : Bool := c.isDigit || ['-', '+', '.', 'e', 'E'].contains c

structure NumberText where
  chars : List Char
  filled : chars ≠ []
  number : ∀ c ∈ chars, isNumberChar c = true

def NumberText.ofNat (n : Nat) : NumberText where
  chars := Nat.toDigits 10 n
  filled := Nat.toDigits_ne_nil
  number c member := by simp [isNumberChar, Nat.isDigit_of_mem_toDigits (by decide) (by decide) member]

inductive Json where
  | null
  | bool (value : Bool)
  | number (text : NumberText)
  | string (text : String)
  | array (items : List Json)
  | object (members : List (String × Json))

/-! ## Strings -/

/-- The characters with an escape of two characters. -/
def shortEscapes : List (Char × Char) :=
  [('"', '"'), ('\\', '\\'), ('\x08', 'b'), ('\t', 't'), ('\n', 'n'), ('\x0c', 'f'), ('\r', 'r')]

def hexDigit (n : Nat) : Char := ['0', '1', '2', '3', '4', '5', '6', '7', '8', '9', 'a', 'b', 'c',
  'd', 'e', 'f'].getD n '0'

def escapeChar (c : Char) : List Char :=
  match shortEscapes.lookup c with
  | some short => ['\\', short]
  | none =>
    if c.toNat < 32 then ['\\', 'u', '0', '0', hexDigit (c.toNat / 16), hexDigit (c.toNat % 16)]
    else [c]

def quoted (text : String) : List Char := '"' :: (text.toList.flatMap escapeChar ++ ['"'])

/-- Read a character that is escaped or stands for itself. -/
def unescape : List Char → Option (Char × List Char)
  | '\\' :: 'u' :: '0' :: '0' :: high :: low :: rest =>
    (List.range 32).findSome? fun n =>
      if hexDigit (n / 16) = high ∧ hexDigit (n % 16) = low then some (Char.ofNat n, rest) else none
  | '\\' :: short :: rest =>
    (shortEscapes.find? fun escape => decide (escape.2 = short)).map fun escape => (escape.1, rest)
  | c :: rest => some (c, rest)
  | [] => none

theorem unescape_control : ∀ n < 32, ∀ rest : List Char,
    unescape ('\\' :: 'u' :: '0' :: '0' :: hexDigit (n / 16) :: hexDigit (n % 16) :: rest) =
      some (Char.ofNat n, rest) := by
  intro n small rest
  interval_cases n <;> rfl

theorem shortEscapes_mem {c short : Char} (found : shortEscapes.lookup c = some short) :
    (c, short) ∈ shortEscapes := by
  obtain ⟨before, after, split, _⟩ := List.lookup_eq_some_iff.mp found
  rw [split]
  simp

/-- A character is read back from its escape. -/
theorem unescape_escapeChar (c : Char) (rest : List Char) : unescape (escapeChar c ++ rest) = some (c, rest) := by
  unfold escapeChar
  split
  next short found =>
    have escapes := shortEscapes_mem found
    simp only [shortEscapes, List.mem_cons, Prod.mk.injEq, List.not_mem_nil, or_false] at escapes
    rcases escapes with ⟨rfl, rfl⟩ | ⟨rfl, rfl⟩ | ⟨rfl, rfl⟩ | ⟨rfl, rfl⟩ | ⟨rfl, rfl⟩ |
      ⟨rfl, rfl⟩ | ⟨rfl, rfl⟩ <;> rfl
  next unescaped =>
    split
    next control =>
      have read := unescape_control c.toNat control rest
      rw [Char.ofNat_toNat] at read
      exact read
    next =>
      have plain : c ≠ '\\' := by
        rintro rfl
        cases unescaped
      simp only [List.cons_append, List.nil_append]
      unfold unescape
      split
      next same => exact absurd (List.cons.inj same).1 plain
      next same => exact absurd (List.cons.inj same).1 plain
      next same =>
        cases same
        rfl
      next impossible => cases impossible

variable {r s : List Char}

theorem escapeChar_unique {c d : Char} (same : escapeChar c ++ r = escapeChar d ++ s) : c = d ∧ r = s := by
  have read := unescape_escapeChar c r
  rw [same, unescape_escapeChar] at read
  cases read
  exact ⟨rfl, rfl⟩

theorem escapeChar_head (c : Char) : ∃ first rest, escapeChar c = first :: rest ∧ first ≠ '"' := by
  unfold escapeChar
  split
  next short _ => exact ⟨'\\', [short], rfl, by decide⟩
  next unescaped =>
    split
    next => exact ⟨_, _, rfl, by decide⟩
    next =>
      refine ⟨c, [], rfl, ?_⟩
      rintro rfl
      cases unescaped

theorem escaped_unique : ∀ {first second r s : List Char},
    first.flatMap escapeChar ++ '"' :: r = second.flatMap escapeChar ++ '"' :: s →
      first = second ∧ r = s
  | [], [], _, _, same => by
    cases same
    exact ⟨rfl, rfl⟩
  | [], d :: _, _, _, same => by
    obtain ⟨head, rest, isHead, differs⟩ := escapeChar_head d
    simp only [List.flatMap_nil, List.nil_append, List.flatMap_cons, isHead, List.cons_append,
      List.cons.injEq] at same
    exact absurd same.1.symm differs
  | c :: _, [], _, _, same => by
    obtain ⟨head, rest, isHead, differs⟩ := escapeChar_head c
    simp only [List.flatMap_nil, List.nil_append, List.flatMap_cons, isHead, List.cons_append,
      List.cons.injEq] at same
    exact absurd same.1 differs
  | c :: first, d :: second, r, s, same => by
    simp only [List.flatMap_cons, List.append_assoc] at same
    obtain ⟨rfl, later⟩ := escapeChar_unique same
    obtain ⟨rfl, rest⟩ := escaped_unique later
    exact ⟨rfl, rest⟩

theorem quoted_unique {first second : String} (same : quoted first ++ r = quoted second ++ s) :
    first = second ∧ r = s := by
  simp only [quoted, List.cons_append, List.append_assoc, List.cons.injEq, true_and]
    at same
  obtain ⟨sameText, rest⟩ := escaped_unique same
  exact ⟨String.toList_inj.mp sameText, rest⟩

mutual

def Json.write : Json → List Char
  | .null => ['n', 'u', 'l', 'l']
  | .bool true => ['t', 'r', 'u', 'e']
  | .bool false => ['f', 'a', 'l', 's', 'e']
  | .number text => text.chars
  | .string text => quoted text
  | .array items => '[' :: (writeItems [] items ++ [']'])
  | .object members => '{' :: (writeMembers [] members ++ ['}'])

/-- The items of an array, the first after nothing and the others after a comma. -/
def writeItems (before : List Char) : List Json → List Char
  | [] => []
  | item :: rest => before ++ (item.write ++ writeItems [','] rest)

def writeMembers (before : List Char) : List (String × Json) → List Char
  | [] => []
  | member :: rest => before ++ (writeMember member ++ writeMembers [','] rest)

def writeMember : String × Json → List Char
  | (key, value) => quoted key ++ ':' :: value.write

end

/-- The text of a value. -/
def Json.stringify (json : Json) : String := String.ofList json.write

example : (Json.object [("a", .array [.null, .bool true]), ("\n", .string "\"")]).stringify =
    "\x7b\"a\":[null,true],\"\\n\":\"\\\"\"\x7d" := by decide

/-! ## Different values have different texts -/

/-- What may follow a value: nothing, or the next sign of an array or object. -/
def Follows (rest : List Char) : Prop := ∀ c ∈ rest.head?, [',', ']', '}'].contains c = true

theorem follows_cons {c : Char} (sign : [',', ']', '}'].contains c = true) (rest : List Char) :
    Follows (c :: rest) := by
  intro other first
  cases first
  exact sign

theorem follows_nil : Follows [] := fun _ first => by cases first

/-- A number ends where its characters do. -/
theorem number_unique {first second : NumberText} (followsR : Follows r) (followsS : Follows s)
    (same : first.chars ++ r = second.chars ++ s) : first = second ∧ r = s := by
  have ends : ∀ {rest : List Char}, Follows rest → rest.takeWhile isNumberChar = [] := by
    intro rest follows
    cases rest with
    | nil => rfl
    | cons c rest =>
      have sign := follows c rfl
      simp only [List.contains_cons, List.contains_nil, Bool.or_false, Bool.or_eq_true,
        beq_iff_eq] at sign
      rcases sign with rfl | rfl | rfl <;> rfl
  have reads : ∀ (text : NumberText) {rest : List Char}, Follows rest →
      (text.chars ++ rest).takeWhile isNumberChar = text.chars := by
    intro text rest follows
    rw [List.takeWhile_append_of_pos text.number, ends follows, List.append_nil]
  have chars : first.chars = second.chars := by
    rw [← reads first followsR, same, reads second followsS]
  obtain ⟨firstChars, _, _⟩ := first
  obtain ⟨secondChars, _, _⟩ := second
  obtain rfl : firstChars = secondChars := chars
  exact ⟨rfl, List.append_cancel_left same⟩

/-- What a value begins with tells its kind. -/
inductive Kind where
  | null | yes | no | number | string | array | object
  deriving DecidableEq

def kindOf (c : Char) : Kind :=
  if c = 'n' then .null
  else if c = 't' then .yes
  else if c = 'f' then .no
  else if c = '"' then .string
  else if c = '[' then .array
  else if c = '{' then .object
  else .number

def Json.kind : Json → Kind
  | .null => .null
  | .bool true => .yes
  | .bool false => .no
  | .number _ => .number
  | .string _ => .string
  | .array _ => .array
  | .object _ => .object

/-- The sign a value begins with. -/
theorem write_begins (json : Json) : ∃ c rest, json.write = c :: rest ∧
    [',', ']', '}'].contains c = false ∧ kindOf c = json.kind := by
  cases json with
  | null => exact ⟨_, _, rfl, rfl, rfl⟩
  | bool value => cases value <;> exact ⟨_, _, rfl, rfl, rfl⟩
  | string text => exact ⟨_, _, rfl, rfl, rfl⟩
  | array items => exact ⟨_, _, rfl, rfl, rfl⟩
  | object members => exact ⟨_, _, rfl, rfl, rfl⟩
  | number text =>
    obtain ⟨chars, filled, number⟩ := text
    cases chars with
    | nil => exact absurd rfl filled
    | cons c rest =>
      have isNumber := number c List.mem_cons_self
      refine ⟨c, rest, rfl, ?_, ?_⟩
      · by_contra sign
        simp only [List.contains_cons, List.contains_nil, Bool.or_false, Bool.not_eq_false,
          Bool.or_eq_true, beq_iff_eq] at sign
        rcases sign with rfl | rfl | rfl <;> cases isNumber
      · unfold kindOf
        repeat
          rw [if_neg (by rintro rfl; cases isNumber)]
        rfl

theorem kind_unique {x y : Json} (same : x.write ++ r = y.write ++ s) : x.kind = y.kind := by
  obtain ⟨c, _, isX, _, kindX⟩ := write_begins x
  obtain ⟨d, _, isY, _, kindY⟩ := write_begins y
  rw [isX, isY] at same
  rw [← kindX, ← kindY, (List.cons.inj same).1]

/-- What stands before an item. -/
def Opening (before : List Char) : Prop := before = [] ∨ before = [',']

theorem items_ne_closed {before : List Char} (opening : Opening before) (item : Json)
    (rest r : List Char) : before ++ (item.write ++ rest) ≠ ']' :: r := by
  intro same
  rcases opening with rfl | rfl
  · obtain ⟨c, tail, isWritten, sign, _⟩ := write_begins item
    rw [isWritten] at same
    obtain ⟨rfl, _⟩ := List.cons.inj same
    cases sign
  · cases same

theorem members_ne_closed {before : List Char} (opening : Opening before)
    (member : String × Json) (rest r : List Char) : before ++ (writeMember member ++ rest) ≠ '}' :: r := by
  intro same
  obtain ⟨key, value⟩ := member
  rcases opening with rfl | rfl
  · cases same
  · cases same

theorem items_follow (items : List Json) (r : List Char) : Follows (writeItems [','] items ++ ']' :: r) := by
  cases items with
  | nil => exact follows_cons rfl r
  | cons item rest => exact follows_cons rfl _

theorem members_follow (members : List (String × Json)) (r : List Char) :
    Follows (writeMembers [','] members ++ '}' :: r) := by
  cases members with
  | nil => exact follows_cons rfl r
  | cons member rest => exact follows_cons rfl _

mutual

/-- A value is the only one whose text begins another text in this way. -/
theorem write_unique (x : Json) : ∀ {y : Json} {r s : List Char}, Follows r → Follows s →
    x.write ++ r = y.write ++ s → x = y ∧ r = s := by
  intro y r s followsR followsS same
  have kind := kind_unique same
  cases x with
  | null =>
    cases y with
    | null => exact ⟨rfl, List.append_cancel_left same⟩
    | bool value => cases value <;> cases kind
    | _ => cases kind
  | bool value =>
    cases y with
    | bool other => cases value <;> cases other <;>
        first | exact ⟨rfl, List.append_cancel_left same⟩ | cases kind
    | _ => cases value <;> cases kind
  | number text =>
    cases y with
    | number other =>
      obtain ⟨rfl, rest⟩ := number_unique followsR followsS same
      exact ⟨rfl, rest⟩
    | bool value => cases value <;> cases kind
    | _ => cases kind
  | string text =>
    cases y with
    | string other =>
      obtain ⟨rfl, rest⟩ := quoted_unique same
      exact ⟨rfl, rest⟩
    | bool value => cases value <;> cases kind
    | _ => cases kind
  | array items =>
    cases y with
    | array others =>
      simp only [Json.write, List.cons_append, List.append_assoc, List.cons.injEq, true_and,
        List.nil_append] at same
      obtain ⟨rfl, rest⟩ := items_unique items (Or.inl rfl) same
      exact ⟨rfl, rest⟩
    | bool value => cases value <;> cases kind
    | _ => cases kind
  | object members =>
    cases y with
    | object others =>
      simp only [Json.write, List.cons_append, List.append_assoc, List.cons.injEq, true_and,
        List.nil_append] at same
      obtain ⟨rfl, rest⟩ := members_unique members (Or.inl rfl) same
      exact ⟨rfl, rest⟩
    | bool value => cases value <;> cases kind
    | _ => cases kind
termination_by structural x

theorem items_unique (items : List Json) : ∀ {before r s : List Char} {others : List Json},
    Opening before → writeItems before items ++ ']' :: r = writeItems before others ++ ']' :: s →
      items = others ∧ r = s := by
  intro before r s others opening same
  cases items with
  | nil =>
    cases others with
    | nil => exact ⟨rfl, (List.cons.inj same).2⟩
    | cons other rest =>
      simp only [writeItems, List.nil_append, List.append_assoc] at same
      exact absurd same.symm (items_ne_closed opening other _ r)
  | cons item rest =>
    cases others with
    | nil =>
      simp only [writeItems, List.nil_append, List.append_assoc] at same
      exact absurd same (items_ne_closed opening item _ s)
    | cons other others =>
      simp only [writeItems, List.append_assoc, List.append_cancel_left_eq] at same
      obtain ⟨rfl, later⟩ := write_unique item (items_follow rest r) (items_follow others s) same
      obtain ⟨rfl, ends⟩ := items_unique rest (Or.inr rfl) later
      exact ⟨rfl, ends⟩
termination_by structural items

theorem members_unique (members : List (String × Json)) : ∀ {before r s : List Char}
    {others : List (String × Json)}, Opening before →
    writeMembers before members ++ '}' :: r = writeMembers before others ++ '}' :: s → members = others ∧ r = s := by
  intro before r s others opening same
  cases members with
  | nil =>
    cases others with
    | nil => exact ⟨rfl, (List.cons.inj same).2⟩
    | cons other rest =>
      simp only [writeMembers, List.nil_append, List.append_assoc] at same
      exact absurd same.symm (members_ne_closed opening other _ r)
  | cons member rest =>
    cases others with
    | nil =>
      simp only [writeMembers, List.nil_append, List.append_assoc] at same
      exact absurd same (members_ne_closed opening member _ s)
    | cons other others =>
      simp only [writeMembers, List.append_assoc, List.append_cancel_left_eq] at same
      obtain ⟨rfl, later⟩ := member_unique member (members_follow rest r) (members_follow others s) same
      obtain ⟨rfl, ends⟩ := members_unique rest (Or.inr rfl) later
      exact ⟨rfl, ends⟩
termination_by structural members

theorem member_unique (member : String × Json) : ∀ {other : String × Json} {r s : List Char},
    Follows r → Follows s → writeMember member ++ r = writeMember other ++ s → member = other ∧ r = s := by
  intro other r s followsR followsS same
  obtain ⟨key, value⟩ := member
  obtain ⟨otherKey, otherValue⟩ := other
  simp only [writeMember, List.append_assoc, List.cons_append] at same
  obtain ⟨rfl, later⟩ := quoted_unique same
  obtain ⟨rfl, ends⟩ := write_unique value followsR followsS (List.cons.inj later).2
  exact ⟨rfl, ends⟩
termination_by structural member

end

theorem stringify_injective : Function.Injective Json.stringify := by
  intro x y same
  have written : x.write ++ [] = y.write ++ [] := by
    rw [List.append_nil, List.append_nil]
    exact String.ofList_inj.mp same
  exact (write_unique x follows_nil follows_nil written).1

/-! ## The order of members -/

abbrev Members := List (String × Json)

def keysOf (members : Members) : List String := members.map Prod.fst

mutual

/-- Rearrange the members of every object, the inner ones first. -/
def Json.rearrange (arrange : Members → Members) : Json → Json
  | .array items => .array (rearrangeItems arrange items)
  | .object members => .object (arrange (rearrangeMembers arrange members))
  | .null => .null
  | .bool value => .bool value
  | .number text => .number text
  | .string text => .string text

def rearrangeItems (arrange : Members → Members) : List Json → List Json
  | [] => []
  | item :: rest => item.rearrange arrange :: rearrangeItems arrange rest

def rearrangeMembers (arrange : Members → Members) : List (String × Json) → List (String × Json)
  | [] => []
  | member :: rest => rearrangeMember arrange member :: rearrangeMembers arrange rest

def rearrangeMember (arrange : Members → Members) : String × Json → String × Json
  | (key, value) => (key, value.rearrange arrange)

end

mutual

/-- A property of the keys of every object in a value. -/
def Json.Everywhere (holds : List String → Prop) : Json → Prop
  | .array items => ItemsEverywhere holds items
  | .object members => holds (keysOf members) ∧ MembersEverywhere holds members
  | .null | .bool _ | .number _ | .string _ => True

def ItemsEverywhere (holds : List String → Prop) : List Json → Prop
  | [] => True
  | item :: rest => item.Everywhere holds ∧ ItemsEverywhere holds rest

def MembersEverywhere (holds : List String → Prop) : List (String × Json) → Prop
  | [] => True
  | member :: rest => MemberEverywhere holds member ∧ MembersEverywhere holds rest

def MemberEverywhere (holds : List String → Prop) : String × Json → Prop
  | (_, value) => value.Everywhere holds

end

theorem keysOf_rearrangeMembers (arrange : Members → Members) : ∀ members : Members,
    keysOf (rearrangeMembers arrange members) = keysOf members
  | [] => rfl
  | (key, value) :: rest => by
    have later := keysOf_rearrangeMembers arrange rest
    simp only [keysOf] at later
    simp [keysOf, rearrangeMembers, rearrangeMember, later]

/-- A rearrangement brings members into an order, and leaves accepted ones in it as they are. -/
structure Arranges (arrange : Members → Members) (accepted ordered : List String → Prop) :
    Prop where
  keeps : ∀ members, accepted (keysOf members) → ordered (keysOf members) →
    arrange members = members
  orders : ∀ members, ordered (keysOf (arrange members))

section Rearranging
variable {arrange : Members → Members} {accepted ordered : List String → Prop}

mutual

/-- The values that a rearrangement does not change are those in order everywhere. -/
theorem rearrange_eq_iff (arranges : Arranges arrange accepted ordered) (x : Json)
    (isAccepted : x.Everywhere accepted) : x.rearrange arrange = x ↔ x.Everywhere ordered := by
  cases x with
  | null => exact iff_of_true rfl trivial
  | bool value => exact iff_of_true rfl trivial
  | number text => exact iff_of_true rfl trivial
  | string text => exact iff_of_true rfl trivial
  | array items =>
    simp only [Json.rearrange, Json.Everywhere, Json.array.injEq]
    exact rearrangeItems_eq_iff arranges items isAccepted
  | object members =>
    obtain ⟨acceptedKeys, inner⟩ := isAccepted
    simp only [Json.rearrange, Json.Everywhere, Json.object.injEq]
    have keys := keysOf_rearrangeMembers arrange members
    constructor
    · intro same
      have inOrder : ordered (keysOf members) := by
        have comesOut := arranges.orders (rearrangeMembers arrange members)
        rw [same] at comesOut
        exact comesOut
      rw [arranges.keeps _ (keys.symm ▸ acceptedKeys) (keys.symm ▸ inOrder)] at same
      exact ⟨inOrder, (rearrangeMembers_eq_iff arranges members inner).mp same⟩
    · rintro ⟨inOrder, innerOrder⟩
      rw [(rearrangeMembers_eq_iff arranges members inner).mpr innerOrder]
      exact arranges.keeps members acceptedKeys inOrder
termination_by structural x

theorem rearrangeItems_eq_iff (arranges : Arranges arrange accepted ordered)
    (items : List Json) (isAccepted : ItemsEverywhere accepted items) :
    rearrangeItems arrange items = items ↔ ItemsEverywhere ordered items := by
  cases items with
  | nil => exact iff_of_true rfl trivial
  | cons item rest =>
    simp only [rearrangeItems, ItemsEverywhere, List.cons.injEq]
    exact and_congr (rearrange_eq_iff arranges item isAccepted.1)
      (rearrangeItems_eq_iff arranges rest isAccepted.2)
termination_by structural items

theorem rearrangeMembers_eq_iff (arranges : Arranges arrange accepted ordered)
    (members : List (String × Json)) (isAccepted : MembersEverywhere accepted members) :
    rearrangeMembers arrange members = members ↔ MembersEverywhere ordered members := by
  cases members with
  | nil => exact iff_of_true rfl trivial
  | cons member rest =>
    simp only [rearrangeMembers, MembersEverywhere, List.cons.injEq]
    exact and_congr (rearrangeMember_eq_iff arranges member isAccepted.1)
      (rearrangeMembers_eq_iff arranges rest isAccepted.2)
termination_by structural members

theorem rearrangeMember_eq_iff (arranges : Arranges arrange accepted ordered)
    (member : String × Json) (isAccepted : MemberEverywhere accepted member) :
    rearrangeMember arrange member = member ↔ MemberEverywhere ordered member := by
  obtain ⟨key, value⟩ := member
  simp only [rearrangeMember, MemberEverywhere, Prod.mk.injEq, true_and]
  exact rearrange_eq_iff arranges value isAccepted
termination_by structural member

end

end Rearranging

end AlianStructure.Library.JsonText
