import Mathlib.Algebra.Order.Ring.Int

/-!
# Times and their ISO texts

A time is a number of milliseconds since 1970, up to a hundred million days on either side. The calendar is the
Gregorian one for all years; a year outside 0 to 9999 is written with a sign and six digits.
-/
namespace AlianStructure.Library.IsoDate

/-! ## The calendar -/

/-- The day that a year begins on, counted from the first of 1970. -/
def dayFromYear (year : Int) : Int :=
  365 * (year - 1970) + (year - 1969) / 4 - (year - 1901) / 100 + (year - 1601) / 400

def isLeap (year : Int) : Bool := year % 4 == 0 && (year % 100 != 0 || year % 400 == 0)

def daysInYear (year : Int) : Nat := if isLeap year then 366 else 365

/-- The year with a day, from the average length of a year: it is wrong by one at most. -/
def yearFromDay (day : Int) : Int :=
  let near := 1970 + day * 400 / 146097
  if day < dayFromYear near then near - 1 else if day < dayFromYear (near + 1) then near else near + 1

theorem dayFromYear_succ (year : Int) : dayFromYear (year + 1) = dayFromYear year + daysInYear year := by
  unfold daysInYear isLeap dayFromYear
  simp only [Bool.and_eq_true, beq_iff_eq, Bool.or_eq_true, bne_iff_ne]
  split <;> omega

theorem dayFromYear_bounds (year : Int) :
    146097 * (year - 1970) - 800 ≤ 400 * dayFromYear year ∧ 400 * dayFromYear year ≤ 146097 * (year - 1970) + 800 := by
  unfold dayFromYear
  omega

theorem yearFromDay_bounds (day : Int) :
    dayFromYear (yearFromDay day) ≤ day ∧ day < dayFromYear (yearFromDay day + 1) := by
  unfold yearFromDay
  extract_lets near
  have isNear : 146097 * (near - 1970) ≤ 400 * day ∧ 400 * day < 146097 * (near - 1970) + 146097 := by
    constructor <;> omega
  have before := dayFromYear_bounds (near - 1)
  have after := dayFromYear_bounds (near + 1 + 1)
  split
  next early =>
    rw [sub_add_cancel]
    exact ⟨by omega, early⟩
  next late =>
    split
    next inside => exact ⟨not_lt.mp late, inside⟩
    next later => exact ⟨not_lt.mp later, by omega⟩

/-- The days of a year before each of its months, and before the next year. -/
def monthStarts (leap : Bool) : List Nat :=
  let extra := if leap then 1 else 0
  [0, 31, 59 + extra, 90 + extra, 120 + extra, 151 + extra, 181 + extra, 212 + extra, 243 + extra, 273 + extra,
    304 + extra, 334 + extra, 365 + extra]

def monthStart (leap : Bool) (month : Nat) : Nat := (monthStarts leap).getD month 0

def daysInMonth (leap : Bool) (month : Nat) : Nat := monthStart leap month - monthStart leap (month - 1)

/-- The month, from 1 on, that has a day of the year. -/
def monthFromDay (leap : Bool) (day : Nat) : Nat := (monthStarts leap).countP fun start => decide (start ≤ day)

theorem monthFromDay_spec : ∀ leap, ∀ day < (if leap then 366 else 365), 1 ≤ monthFromDay leap day ∧
    monthFromDay leap day ≤ 12 ∧ monthStart leap (monthFromDay leap day - 1) ≤ day ∧
    day < monthStart leap (monthFromDay leap day - 1) + daysInMonth leap (monthFromDay leap day) := by
  decide +kernel

/-! ## Times -/

/-- The parts of a time. -/
structure Civil where
  year : Int
  month : Nat
  day : Nat
  hour : Nat
  minute : Nat
  second : Nat
  millisecond : Nat
  deriving DecidableEq

namespace Civil

def Legal (civil : Civil) : Prop :=
  (1 ≤ civil.month ∧ civil.month ≤ 12) ∧ (1 ≤ civil.day ∧ civil.day ≤ daysInMonth (isLeap civil.year) civil.month) ∧
    civil.hour < 24 ∧ civil.minute < 60 ∧ civil.second < 60 ∧ civil.millisecond < 1000

instance (civil : Civil) : Decidable civil.Legal := inferInstanceAs (Decidable (_ ∧ _))

def dayNumber (civil : Civil) : Int :=
  dayFromYear civil.year + monthStart (isLeap civil.year) (civil.month - 1) + (civil.day - 1 : Nat)

def time (civil : Civil) : Int :=
  civil.dayNumber * 86400000 + (civil.hour * 3600000 + civil.minute * 60000 + civil.second * 1000 + civil.millisecond)

def ofTime (time : Int) : Civil :=
  let day := time / 86400000
  let inDay := (time % 86400000).toNat
  let year := yearFromDay day
  let inYear := (day - dayFromYear year).toNat
  let month := monthFromDay (isLeap year) inYear
  { year := year
    month := month
    day := inYear - monthStart (isLeap year) (month - 1) + 1
    hour := inDay / 3600000
    minute := inDay / 60000 % 60
    second := inDay / 1000 % 60
    millisecond := inDay % 1000 }

/-- A day of a year is a day of one of its months. -/
theorem ofTime_day (time : Int) : (1 ≤ (ofTime time).month ∧ (ofTime time).month ≤ 12) ∧
      (1 ≤ (ofTime time).day ∧ (ofTime time).day ≤ daysInMonth (isLeap (ofTime time).year) (ofTime time).month) ∧
      (ofTime time).dayNumber = time / 86400000 := by
  obtain ⟨begun, ends⟩ := yearFromDay_bounds (time / 86400000)
  rw [dayFromYear_succ] at ends
  have inside : (time / 86400000 - dayFromYear (yearFromDay (time / 86400000))).toNat <
      (if isLeap (yearFromDay (time / 86400000)) then 366 else 365) := by
    change _ < daysInYear _
    omega
  obtain ⟨least, most, starts, inMonth⟩ := monthFromDay_spec _ _ inside
  refine ⟨⟨least, most⟩, ⟨Nat.le_add_left 1 _, ?_⟩, ?_⟩
  · simp only [ofTime]
    omega
  · simp only [ofTime, dayNumber]
    omega

theorem legal_ofTime (time : Int) : (ofTime time).Legal := by
  obtain ⟨month, day, -⟩ := ofTime_day time
  refine ⟨month, day, ?_, ?_, ?_, ?_⟩
  · simp only [ofTime]
    omega
  · exact Nat.mod_lt _ (by decide)
  · exact Nat.mod_lt _ (by decide)
  · exact Nat.mod_lt _ (by decide)

/-- The parts of a time make the time. -/
theorem time_ofTime (time : Int) : (ofTime time).time = time := by
  obtain ⟨-, -, isDay⟩ := ofTime_day time
  rw [Civil.time, isDay]
  simp only [ofTime]
  omega

end Civil

/-- A number of milliseconds that a date can have. -/
structure TimeValue where
  milliseconds : Int
  clipped : -8640000000000000 ≤ milliseconds ∧ milliseconds ≤ 8640000000000000
  deriving DecidableEq

def timeClip (time : Int) : Option TimeValue :=
  if clipped : -8640000000000000 ≤ time ∧ time ≤ 8640000000000000 then some ⟨time, clipped⟩ else none

theorem ofTime_year (time : TimeValue) :
    -999999 ≤ (Civil.ofTime time.milliseconds).year ∧ (Civil.ofTime time.milliseconds).year ≤ 999999 := by
  obtain ⟨lower, upper⟩ := time.clipped
  obtain ⟨begun, ends⟩ := yearFromDay_bounds (time.milliseconds / 86400000)
  have first := dayFromYear_bounds (yearFromDay (time.milliseconds / 86400000))
  have next := dayFromYear_bounds (yearFromDay (time.milliseconds / 86400000) + 1)
  simp only [Civil.ofTime]
  omega

/-! ## Texts -/

/-- A number with zeros before it. -/
def padded (width n : Nat) : List Char := (Nat.toDigits 10 n).leftpad width '0'

def readDigits (width : Nat) (text : List Char) : Option (Nat × List Char) :=
  let digits := text.take width
  if digits.length = width ∧ digits.all Char.isDigit then some (Nat.ofDigitChars 10 digits 0, text.drop width) else none

def readSign (sign : Char) : List Char → Option (List Char)
  | [] => none
  | c :: rest => if c = sign then some rest else none

theorem padded_length {width n : Nat} (positive : 0 < width) (small : n < 10 ^ width) : (padded width n).length = width := by
  have short : (Nat.toDigits 10 n).length ≤ width := (Nat.length_toDigits_le_iff (by decide) positive).mpr small
  simp only [padded, List.leftpad, List.length_append, List.length_replicate]
  omega

theorem padded_digits (width n : Nat) : ∀ c ∈ padded width n, c.isDigit = true := by
  intro c member
  rcases List.mem_append.mp member with zero | digit
  · rw [List.eq_of_mem_replicate zero]
    rfl
  · exact Nat.isDigit_of_mem_toDigits (by decide) (by decide) digit

theorem padded_value (width n : Nat) : Nat.ofDigitChars 10 (padded width n) 0 = n := by
  simp only [padded, List.leftpad, Nat.ofDigitChars_append, Nat.ofDigitChars_replicate_zero, Nat.mul_zero,
    Nat.ofDigitChars_ten_toDigits]

theorem readDigits_padded (width n : Nat) (positive : 0 < width) (small : n < 10 ^ width) (rest : List Char) :
    readDigits width (padded width n ++ rest) = some (n, rest) := by
  have length := padded_length positive small
  have taken : (padded width n ++ rest).take width = padded width n := List.take_left' length
  have dropped : (padded width n ++ rest).drop width = rest := List.drop_left' length
  unfold readDigits
  rw [taken, dropped, if_pos ⟨length, List.all_eq_true.mpr (padded_digits width n)⟩, padded_value]

def yearText (year : Int) : List Char :=
  if 0 ≤ year ∧ year ≤ 9999 then padded 4 year.toNat
  else if year < 0 then '-' :: padded 6 (-year).toNat else '+' :: padded 6 year.toNat

/-- There is no year minus zero. -/
def readYear : List Char → Option (Int × List Char)
  | '+' :: rest => (readDigits 6 rest).map fun read => ((read.1 : Int), read.2)
  | '-' :: rest => (readDigits 6 rest).bind fun read => if read.1 = 0 then none else some (-(read.1 : Int), read.2)
  | text => (readDigits 4 text).map fun read => ((read.1 : Int), read.2)

theorem readYear_of_digit {c : Char} (digit : c.isDigit = true) (rest : List Char) :
    readYear (c :: rest) = (readDigits 4 (c :: rest)).map fun read => ((read.1 : Int), read.2) := by
  unfold readYear
  split
  next isPlus =>
    cases isPlus
    exact absurd digit (by decide)
  next isMinus =>
    cases isMinus
    exact absurd digit (by decide)
  next => rfl

theorem padded_cons {width n : Nat} (positive : 0 < width) (small : n < 10 ^ width) :
    ∃ c rest, padded width n = c :: rest ∧ c.isDigit = true := by
  have length := padded_length positive small
  obtain ⟨c, rest, isPadded⟩ := List.exists_cons_of_length_pos (length.symm ▸ positive)
  exact ⟨c, rest, isPadded, padded_digits width n c (isPadded ▸ List.mem_cons_self)⟩

theorem readYear_yearText {year : Int} (lower : -999999 ≤ year) (upper : year ≤ 999999) (rest : List Char) :
    readYear (yearText year ++ rest) = some (year, rest) := by
  unfold yearText
  split
  next plain =>
    have small : year.toNat < 10 ^ 4 := by omega
    have read := readDigits_padded 4 year.toNat (by decide) small rest
    obtain ⟨c, tail, isPadded, digit⟩ := padded_cons (by decide) small
    rw [isPadded, List.cons_append] at read ⊢
    rw [readYear_of_digit digit, read, Option.map_some, Int.toNat_of_nonneg plain.1]
  next =>
    split
    next negative =>
      have read := readDigits_padded 6 (-year).toNat (by decide) (by omega) rest
      rw [List.cons_append, readYear, read, Option.bind_some, if_neg (by omega), Int.toNat_of_nonneg (by omega), neg_neg]
    next positive =>
      have read := readDigits_padded 6 year.toNat (by decide) (by omega) rest
      rw [List.cons_append, readYear, read, Option.map_some, Int.toNat_of_nonneg (by omega)]

def isoText (civil : Civil) : List Char :=
  yearText civil.year ++ '-' :: (padded 2 civil.month ++ '-' :: (padded 2 civil.day ++ 'T' :: (padded 2 civil.hour ++
    ':' :: (padded 2 civil.minute ++ ':' :: (padded 2 civil.second ++ '.' :: (padded 3 civil.millisecond ++ ['Z']))))))

def readPart (sign : Char) (width : Nat) (text : List Char) : Option (Nat × List Char) :=
  (readSign sign text).bind (readDigits width)

/-- Read a text with all parts of a time. -/
def readIso (text : List Char) : Option Civil := do
  let (year, text) ← readYear text
  let (month, text) ← readPart '-' 2 text
  let (day, text) ← readPart '-' 2 text
  let (hour, text) ← readPart 'T' 2 text
  let (minute, text) ← readPart ':' 2 text
  let (second, text) ← readPart ':' 2 text
  let (millisecond, text) ← readPart '.' 3 text
  let civil : Civil := ⟨year, month, day, hour, minute, second, millisecond⟩
  if text = ['Z'] ∧ civil.Legal then some civil else none

theorem readPart_padded (sign : Char) (width : Nat) {n : Nat} (positive : 0 < width) (small : n < 10 ^ width)
    (rest : List Char) : readPart sign width (sign :: (padded width n ++ rest)) = some (n, rest) := by
  rw [readPart, readSign, if_pos rfl, Option.bind_some, readDigits_padded width n positive small]

theorem daysInMonth_lt : ∀ leap, ∀ month < 13, daysInMonth leap month < 10 ^ 2 := by
  decide

/-- A time is read from its text. -/
theorem readIso_isoText {civil : Civil} (legal : civil.Legal) (lower : -999999 ≤ civil.year)
    (upper : civil.year ≤ 999999) : readIso (isoText civil) = some civil := by
  obtain ⟨⟨-, month⟩, ⟨-, day⟩, hour, minute, second, millisecond⟩ := id legal
  have small : civil.day < 10 ^ 2 := day.trans_lt (daysInMonth_lt _ _ (Nat.lt_succ_of_le month))
  unfold readIso isoText
  rw [readYear_yearText lower upper]
  show (readPart '-' 2 _ >>= _) = _
  rw [readPart_padded '-' 2 (by decide) (month.trans_lt (by decide))]
  show (readPart '-' 2 _ >>= _) = _
  rw [readPart_padded '-' 2 (by decide) small]
  show (readPart 'T' 2 _ >>= _) = _
  rw [readPart_padded 'T' 2 (by decide) (hour.trans (by decide))]
  show (readPart ':' 2 _ >>= _) = _
  rw [readPart_padded ':' 2 (by decide) (minute.trans (by decide))]
  show (readPart ':' 2 _ >>= _) = _
  rw [readPart_padded ':' 2 (by decide) (second.trans (by decide))]
  show (readPart '.' 3 _ >>= _) = _
  rw [readPart_padded '.' 3 (by decide) millisecond]
  exact if_pos ⟨rfl, legal⟩

/-- The signs of a text of a time. -/
def isIsoSign (c : Char) : Bool := c.isDigit || ['+', '-', 'T', ':', '.', 'Z'].contains c

theorem isoText_signs (civil : Civil) : ∀ c ∈ isoText civil, isIsoSign c = true := by
  have digits : ∀ width n, ∀ c ∈ padded width n, isIsoSign c = true := fun width n c member => by
    rw [isIsoSign, padded_digits width n c member, Bool.true_or]
  have year : ∀ c ∈ yearText civil.year, isIsoSign c = true := by
    unfold yearText
    split
    · exact digits _ _
    · split
      · exact List.forall_mem_cons.mpr ⟨rfl, digits _ _⟩
      · exact List.forall_mem_cons.mpr ⟨rfl, digits _ _⟩
  simp only [isoText, List.forall_mem_append, List.forall_mem_cons]
  exact ⟨year, rfl, digits _ _, rfl, digits _ _, rfl, digits _ _, rfl, digits _ _, rfl, digits _ _, rfl, digits _ _,
    rfl, nofun⟩

theorem isoText_length {civil : Civil} (legal : civil.Legal) (lower : -999999 ≤ civil.year)
    (upper : civil.year ≤ 999999) : (isoText civil).length ≤ 27 := by
  obtain ⟨⟨-, month⟩, ⟨-, day⟩, hour, minute, second, millisecond⟩ := legal
  have small : civil.day < 10 ^ 2 := day.trans_lt (daysInMonth_lt _ _ (Nat.lt_succ_of_le month))
  have year : (yearText civil.year).length ≤ 7 := by
    unfold yearText
    split
    · rw [padded_length (by decide) (by omega)]
      decide
    · split
      · rw [List.length_cons, padded_length (by decide) (by omega)]
      · rw [List.length_cons, padded_length (by decide) (by omega)]
  simp only [isoText, List.length_append, List.length_cons, List.length_nil,
    padded_length (by decide : 0 < 2) (month.trans_lt (by decide : 12 < 10 ^ 2)), padded_length (by decide : 0 < 2) small,
    padded_length (by decide : 0 < 2) (hour.trans (by decide : 24 < 10 ^ 2)),
    padded_length (by decide : 0 < 2) (minute.trans (by decide : 60 < 10 ^ 2)),
    padded_length (by decide : 0 < 2) (second.trans (by decide : 60 < 10 ^ 2)),
    padded_length (by decide : 0 < 3) millisecond]
  omega

end AlianStructure.Library.IsoDate
