import AlianStructure.Source.Pagination.CursorCodec

/-!
# Cursors and their texts

Source: src/common/pagination/cursor-pagination.service.ts:28-75,169-177. A position is decoded from what it is encoded
to. The decoder checks that the bytes and the time are in their one form, and not that the JSON between them is.
-/
namespace AlianStructure.Guarantees.CanonicalCursors
open Library Base64Url IsoDate JsonReading JsonText Utf
open Source.Pagination CursorCodec

/-! ## The JSON of a position -/

/-- A member of an object and what comes after its name. -/
def memberText (key : String) (value : List Char) : List Char := '"' :: (key.toList ++ '"' :: ':' :: value)

/-- The text with the three members in their order and nothing between them. -/
def compact (createdAt id : List Char) : List Char :=
  '{' :: memberText "v" ('1' :: ',' :: memberText "createdAt" ('"' :: (createdAt ++ '"' :: ',' ::
    memberText "id" ('"' :: (id ++ ['"', '}'])))))

/-- The cursor of a JSON text. -/
def cursorOf (text : List Char) : String := String.ofList (Base64Url.write (utf8.write text))

/-- The cursor encodes a text that is so written. -/
def Compact (cursor : String) : Prop :=
  ∃ createdAt id, (∀ c ∈ createdAt, isPlain c = true) ∧ (∀ c ∈ id, isPlain c = true) ∧
    cursor = cursorOf (compact createdAt id)

/-- The payload has the version, the text of a time and a UUID. -/
structure Holds (payload : Value) (position : CursorPosition) : Prop where
  version : ∃ v, payload.member "v" = some (.number v) ∧ isVersion v = true
  time : ∃ createdAt, position.createdAt = some createdAt ∧
    payload.member "createdAt" = some (.string (some (toISOString createdAt)))
  id : payload.member "id" = some (.string (some position.id))
  uuid : UUID_PATTERN position.id = true

/-- The cursor encodes the JSON of a payload, in whichever form. -/
def Carries (cursor : String) (position : CursorPosition) : Prop :=
  ∃ text payload, cursor = cursorOf text ∧ cursor.length ≤ MAX_CURSOR_LENGTH ∧ parse text = some payload ∧
    Holds payload position

theorem quoted_plain {text : String} (plain : ∀ c ∈ text.toList, isPlain c = true) :
    quoted text = '"' :: (text.toList ++ ['"']) := by
  rw [quoted, escape_plain plain]

theorem readValue_text {text : List Char} (plain : ∀ c ∈ text, isPlain c = true) (depth : Nat) (rest : List Char) :
    readValue (depth + 1) ('"' :: (text ++ '"' :: rest)) = some (.string (some (String.ofList text)), rest) := by
  have read := readText_plain plain rest
  rw [readValue, show skipBlanks ('"' :: (text ++ '"' :: rest)) = '"' :: (text ++ '"' :: rest) from rfl]
  simp only [read, Option.map_some]

theorem readNumber_one (rest : List Char) : readNumber ('1' :: ',' :: rest) = some (1, ',' :: rest) := by
  have value : (Nat.ofDigitChars 10 (['1'] ++ []) 0 : ℚ) * 10 ^ ((0 : Int) - ([] : List Char).length) = 1 := by
    rw [show Nat.ofDigitChars 10 (['1'] ++ []) 0 = 1 from rfl]
    norm_num
  calc readNumber ('1' :: ',' :: rest)
      = some ((Nat.ofDigitChars 10 (['1'] ++ []) 0 : ℚ) * 10 ^ ((0 : Int) - ([] : List Char).length), ',' :: rest) := rfl
    _ = some (1, ',' :: rest) := by rw [value]

theorem readValue_one (depth : Nat) (rest : List Char) :
    readValue (depth + 1) ('1' :: ',' :: rest) = some (.number 1, ',' :: rest) := by
  rw [readValue]
  show (readNumber ('1' :: ',' :: rest)).map _ = _
  rw [readNumber_one, Option.map_some]

theorem readMember_text (key : String) (plain : ∀ c ∈ key.toList, isPlain c = true) {depth : Nat} {value : Value}
    {text rest : List Char} (read : readValue depth text = some (value, rest)) :
    readMember (depth + 1) (memberText key text) = some ((some key, value), rest) := by
  have readKey := readText_plain plain (':' :: text)
  rw [readMember, show skipBlanks (memberText key text) = memberText key text from rfl]
  simp only [memberText, readKey, String.ofList_toList]
  rw [show skipBlanks (':' :: text) = ':' :: text from rfl]
  simp only [read, Option.map_some]

theorem readMembers_more {depth : Nat} {member : Option String × Value} {text rest : List Char}
    (read : readMember depth text = some (member, ',' :: rest)) :
    readMembers (depth + 1) text = (readMembers depth rest).map fun read => (member :: read.1, read.2) := by
  rw [readMembers, read]
  rfl

theorem readMembers_last {depth : Nat} {member : Option String × Value} {text rest : List Char}
    (read : readMember depth text = some (member, '}' :: rest)) :
    readMembers (depth + 1) text = some ([member], rest) := by
  rw [readMembers, read]
  rfl

/-- The payload of a text in the form of the encoder. -/
def payloadOf (createdAt id : List Char) : Value :=
  .object [(some "v", .number 1), (some "createdAt", .string (some (String.ofList createdAt))),
    (some "id", .string (some (String.ofList id)))]

variable {createdAt id : List Char}

theorem readValue_compact (plainTime : ∀ c ∈ createdAt, isPlain c = true) (plainId : ∀ c ∈ id, isPlain c = true)
    (depth : Nat) : readValue (depth + 6) (compact createdAt id) = some (payloadOf createdAt id, []) := by
  have third : readMembers (depth + 3) (memberText "id" ('"' :: (id ++ ['"', '}']))) = _ :=
    readMembers_last (readMember_text "id" (by decide) (readValue_text plainId depth ['}']))
  have second := readMembers_more (readMember_text "createdAt" (by decide)
    (readValue_text plainTime (depth + 1) (',' :: memberText "id" ('"' :: (id ++ ['"', '}'])))))
  have first := readMembers_more (readMember_text "v" (by decide) (readValue_one (depth + 2)
    (memberText "createdAt" ('"' :: (createdAt ++ '"' :: ',' :: memberText "id" ('"' :: (id ++ ['"', '}'])))))))
  rw [second, third] at first
  rw [readValue]
  show (readMembers (depth + 5) (memberText "v" _)).map _ = _
  rw [first]
  rfl

theorem parse_compact (plainTime : ∀ c ∈ createdAt, isPlain c = true) (plainId : ∀ c ∈ id, isPlain c = true) :
    parse (compact createdAt id) = some (payloadOf createdAt id) := by
  have deep : 3 * (compact createdAt id).length + 3 = 3 * (compact createdAt id).length - 3 + 6 := by
    have filled : 1 ≤ (compact createdAt id).length := Nat.le_add_left 1 _
    omega
  unfold parse
  rw [deep, readValue_compact plainTime plainId]
  rfl

/-! ## Times and ids -/

theorem readIso_time (time : TimeValue) :
    readIso (isoText (Civil.ofTime time.milliseconds)) = some (Civil.ofTime time.milliseconds) :=
  readIso_isoText (Civil.legal_ofTime _) (ofTime_year time).1 (ofTime_year time).2

theorem newDate_toISOString (otherwise : String → Option TimeValue) (time : TimeValue) :
    newDate otherwise (toISOString time) = some time := by
  unfold newDate toISOString
  rw [String.toList_ofList, readIso_time]
  show timeClip _ = _
  rw [Civil.time_ofTime, timeClip, dif_pos time.clipped]

/-- A sign of a time or of a UUID. -/
def IsSimple (c : Char) : Prop := 43 ≤ c.toNat ∧ c.toNat ≤ 102 ∧ c.toNat ≠ 92

instance (c : Char) : Decidable (IsSimple c) := inferInstanceAs (Decidable (_ ∧ _))

variable {c : Char}

theorem IsSimple.plain (simple : IsSimple c) : isPlain c = true := by
  obtain ⟨lower, upper, notBackslash⟩ := simple
  simp only [isPlain, Bool.and_eq_true, decide_eq_true_eq, bne_iff_ne]
  refine ⟨⟨by omega, ?_⟩, ?_⟩
  · rintro rfl
    exact absurd lower (by decide)
  · rintro rfl
    exact absurd rfl notBackslash

theorem simple_of_digit (digit : c.isDigit = true) : IsSimple c := by
  simp only [Char.isDigit, Bool.and_eq_true, decide_eq_true_eq] at digit
  have lower : 48 ≤ c.toNat := digit.1
  have upper : c.toNat ≤ 57 := digit.2
  refine ⟨?_, ?_, ?_⟩ <;> omega

theorem simple_of_listed {signs : List Char} (all : ∀ c ∈ signs, IsSimple c) (listed : signs.contains c = true) :
    IsSimple c := all c (List.contains_iff_mem.mp listed)

theorem simple_of_isoSign (sign : isIsoSign c = true) : IsSimple c := by
  rcases Bool.or_eq_true_iff.mp sign with digit | listed
  · exact simple_of_digit digit
  · exact simple_of_listed (by decide) listed

theorem simple_of_hexadecimal (sign : isHexadecimal c = true) : IsSimple c := by
  rcases Bool.or_eq_true_iff.mp sign with digit | listed
  · exact simple_of_digit digit
  · exact simple_of_listed (by decide) listed

theorem simple_of_dash (sign : isDash c = true) : IsSimple c := by
  rw [beq_iff_eq.mp sign]
  decide

theorem simple_of_uuidSign : ∀ sign ∈ uuidSigns, ∀ c, sign c = true → IsSimple c := by
  have hexadecimals : ∀ n, ∀ sign ∈ List.replicate n isHexadecimal, ∀ c, sign c = true → IsSimple c := by
    intro n sign member c fits
    rw [List.eq_of_mem_replicate member] at fits
    exact simple_of_hexadecimal fits
  have dash : ∀ c, isDash c = true → IsSimple c := fun c => simple_of_dash
  simp only [uuidSigns, List.forall_mem_append, List.forall_mem_cons]
  refine ⟨hexadecimals 8, dash, hexadecimals 4, dash, fun c => ?_, hexadecimals 3, dash, fun c => ?_, hexadecimals 3,
    dash, hexadecimals 12⟩
  · exact simple_of_listed (by decide)
  · exact simple_of_listed (by decide)

theorem sign_of_zipWith {signs : List (Char → Bool)} {chars : List Char} (length : chars.length = signs.length)
    (all : (List.zipWith (fun sign c => sign c) signs chars).all (fun fits => fits) = true) :
    ∀ c ∈ chars, ∃ sign ∈ signs, sign c = true := by
  induction chars generalizing signs with
  | nil => exact nofun
  | cons c rest ih =>
    cases signs with
    | nil => cases length
    | cons sign signs =>
      simp only [List.zipWith_cons_cons, List.all_cons, Bool.and_eq_true] at all
      refine List.forall_mem_cons.mpr ⟨⟨sign, List.mem_cons_self, all.1⟩, fun other member => ?_⟩
      obtain ⟨found, listed, fits⟩ := ih (Nat.succ.inj length) all.2 other member
      exact ⟨found, List.mem_cons_of_mem sign listed, fits⟩

theorem simple_of_uuid {id : String} (uuid : UUID_PATTERN id = true) :
    id.toList.length = 36 ∧ ∀ c ∈ id.toList, IsSimple c := by
  obtain ⟨length, all⟩ := Bool.and_eq_true_iff.mp uuid
  have same : id.toList.length = uuidSigns.length := by
    rw [String.length_toList]
    exact beq_iff_eq.mp length
  refine ⟨same, fun c member => ?_⟩
  obtain ⟨sign, listed, fits⟩ := sign_of_zipWith same all c member
  exact simple_of_uuidSign sign listed c fits

theorem simple_toISOString (time : TimeValue) : ∀ c ∈ (toISOString time).toList, IsSimple c := by
  intro c member
  rw [toISOString, String.toList_ofList] at member
  exact simple_of_isoSign (isoText_signs _ c member)

/-! ## The codec -/

theorem utf8_length_ascii {text : List Char} (ascii : ∀ c ∈ text, c.toNat < 128) :
    (utf8.write text).length = text.length := by
  induction text with
  | nil => rfl
  | cons c rest ih =>
    show (utf8.encode c ++ utf8.write rest).length = _
    rw [utf8_ascii (ascii c List.mem_cons_self), List.length_append,
      ih fun other member => ascii other (List.mem_cons_of_mem c member), List.length_singleton, List.length_cons,
      Nat.add_comm]

theorem write_payload {createdAt id : String} (plainTime : ∀ c ∈ createdAt.toList, isPlain c = true)
    (plainId : ∀ c ∈ id.toList, isPlain c = true) :
    (Json.object [("v", .number (NumberText.ofNat CURSOR_VERSION)), ("createdAt", .string createdAt),
      ("id", .string id)]).write = compact createdAt.toList id.toList := by
  have v : quoted "v" = '"' :: ("v".toList ++ ['"']) := quoted_plain (by decide)
  have created : quoted "createdAt" = '"' :: ("createdAt".toList ++ ['"']) := quoted_plain (by decide)
  have named : quoted "id" = '"' :: ("id".toList ++ ['"']) := quoted_plain (by decide)
  have version : (NumberText.ofNat CURSOR_VERSION).chars = ['1'] := rfl
  simp only [Json.write, writeMembers, writeMember, v, created, named, version, quoted_plain plainTime,
    quoted_plain plainId, compact, memberText, List.append_assoc, List.cons_append, List.nil_append]

theorem assertPosition_ok (position : CursorPosition) :
    assertPosition position = .ok () ↔ position.createdAt ≠ none ∧ UUID_PATTERN position.id = true := by
  unfold assertPosition
  split
  next refused =>
    refine ⟨nofun, fun ⟨date, uuid⟩ => ?_⟩
    rcases refused with noDate | noUuid
    · exact absurd noDate date
    · exact absurd (noUuid.symm.trans uuid) Bool.false_ne_true
  next accepted =>
    rw [not_or] at accepted
    exact ⟨fun _ => ⟨accepted.1, Bool.eq_true_of_not_eq_false accepted.2⟩, fun _ => rfl⟩

theorem encode_eq (time : TimeValue) {id : String} (uuid : UUID_PATTERN id = true) :
    encode ⟨some time, id⟩ = .ok (cursorOf (compact (toISOString time).toList id.toList)) := by
  have asserted := (assertPosition_ok ⟨some time, id⟩).mpr ⟨nofun, uuid⟩
  have written := write_payload (fun c member => (simple_toISOString time c member).plain)
    (fun c member => ((simple_of_uuid uuid).2 c member).plain)
  unfold encode
  simp only [asserted, written]
  rfl

variable {position : CursorPosition} {cursor : String}

theorem encode_ok (encoded : encode position = .ok cursor) :
    ∃ time, position = ⟨some time, position.id⟩ ∧ UUID_PATTERN position.id = true ∧
      cursor = cursorOf (compact (toISOString time).toList position.id.toList) := by
  obtain ⟨date, id⟩ := position
  have asserted : assertPosition ⟨date, id⟩ = .ok () := by
    cases isAsserted : assertPosition ⟨date, id⟩ with
    | ok => rfl
    | error failure =>
      unfold encode at encoded
      rw [isAsserted] at encoded
      cases encoded
  obtain ⟨hasDate, uuid⟩ := (assertPosition_ok _).mp asserted
  obtain ⟨time, rfl⟩ := Option.ne_none_iff_exists'.mp hasDate
  exact ⟨time, rfl, uuid, Except.ok.inj (encoded.symm.trans (encode_eq time uuid))⟩

theorem cursorOf_injective {text other : List Char} (same : cursorOf text = cursorOf other) : text = other :=
  TextCode.write_injective utf8 (Base64Url.write_injective (String.ofList_injective same))

theorem decodePosition_cursorOf (otherwise : String → Option TimeValue) {text : List Char} {payload : Value}
    (short : (cursorOf text).length ≤ MAX_CURSOR_LENGTH) (parsed : parse text = some payload) :
    decodePosition otherwise (cursorOf text) = readPayload otherwise payload := by
  have filled : cursorOf text ≠ "" := by
    intro empty
    have isNil : text = [] := cursorOf_injective empty
    subst isNil
    cases parsed
  have signs : (cursorOf text).toList = Base64Url.write (utf8.write text) := String.toList_ofList
  have allSigns : (cursorOf text).toList.all isSign = true := by
    rw [signs]
    exact List.all_eq_true.mpr (isSign_write _)
  have decoded : readUtf8 (Base64Url.read (cursorOf text).toList) = text := by
    rw [signs, read_write, readUtf8_write]
  unfold decodePosition
  rw [if_neg]
  · simp only [decoded]
    rw [if_neg (not_not_intro signs.symm), parsed]
  · rintro (empty | long | other)
    · exact filled empty
    · exact absurd short (Nat.not_le_of_lt long)
    · exact absurd (other.symm.trans allSigns) Bool.false_ne_true

theorem decodePosition_ok {otherwise : String → Option TimeValue}
    (decoded : decodePosition otherwise cursor = .ok position) : ∃ text payload, cursor = cursorOf text ∧
      cursor.length ≤ MAX_CURSOR_LENGTH ∧ parse text = some payload ∧ readPayload otherwise payload = .ok position := by
  unfold decodePosition at decoded
  split at decoded
  next => cases decoded
  next accepted =>
    rw [not_or, not_or] at accepted
    obtain ⟨-, short, -⟩ := accepted
    extract_lets text at decoded
    split at decoded
    next => cases decoded
    next canonical =>
      have isCursor : cursor = cursorOf text := by
        rw [cursorOf, not_not.mp canonical, String.ofList_toList]
      split at decoded
      next => cases decoded
      next payload parsed => exact ⟨text, payload, isCursor, Nat.le_of_not_lt short, parsed, decoded⟩

theorem readPayload_ok (otherwise : String → Option TimeValue) (payload : Value) (position : CursorPosition) :
    readPayload otherwise payload = .ok position ↔ Holds payload position := by
  constructor
  · intro read
    unfold readPayload at read
    split at read
    next v createdAt id isV isCreatedAt isId =>
      split at read
      next => cases read
      next version =>
        cases asserted : assertPosition ⟨newDate otherwise createdAt, id⟩ with
        | error failure =>
          simp only [asserted] at read
          cases read
        | ok _ =>
          simp only [asserted] at read
          change (if _ then _ else _) = _ at read
          split at read
          next => cases read
          next canonical =>
            cases read
            obtain ⟨hasDate, uuid⟩ := (assertPosition_ok _).mp asserted
            obtain ⟨time, isTime⟩ := Option.ne_none_iff_exists'.mp hasDate
            have isText : toISOString time = createdAt := by
              have mapped := not_not.mp canonical
              have isTime' : newDate otherwise createdAt = some time := isTime
              rw [isTime'] at mapped
              exact Option.some.inj mapped
            exact ⟨⟨v, isV, Bool.eq_true_of_not_eq_false version⟩, ⟨time, isTime, isText ▸ isCreatedAt⟩, isId, uuid⟩
    next => cases read
  · intro holds
    obtain ⟨v, isV, version⟩ := holds.version
    obtain ⟨createdAt, isDate, isCreatedAt⟩ := holds.time
    obtain ⟨date, id⟩ := position
    obtain rfl : date = some createdAt := isDate
    have asserted := (assertPosition_ok ⟨some createdAt, id⟩).mpr ⟨nofun, holds.uuid⟩
    unfold readPayload
    simp only [isV, isCreatedAt, holds.id, version, newDate_toISOString, asserted]
    rw [if_neg nofun]
    exact if_neg (not_not_intro rfl)

theorem decode_iff (otherwise : String → Option TimeValue) (cursor : String) (position : CursorPosition) :
    decode otherwise cursor = .ok position ↔ Carries cursor position := by
  constructor
  · intro decoded
    unfold decode at decoded
    split at decoded
    next accepted =>
      cases decoded
      obtain ⟨text, payload, isCursor, short, parsed, read⟩ := decodePosition_ok accepted
      exact ⟨text, payload, isCursor, short, parsed, (readPayload_ok otherwise payload position).mp read⟩
    next => cases decoded
  · rintro ⟨text, payload, rfl, short, parsed, holds⟩
    unfold decode
    rw [decodePosition_cursorOf otherwise short parsed, (readPayload_ok otherwise payload position).mpr holds]

/-! ## Positions and cursors -/

theorem isVersion_one : isVersion 1 = true := by
  norm_num [isVersion]

theorem holds_payloadOf (time : TimeValue) {id : String} (uuid : UUID_PATTERN id = true) :
    Holds (payloadOf (toISOString time).toList id.toList) ⟨some time, id⟩ where
  version := ⟨1, rfl, isVersion_one⟩
  time := ⟨time, rfl, by rw [payloadOf, String.ofList_toList]; rfl⟩
  id := by rw [payloadOf, String.ofList_toList, String.ofList_toList]; rfl
  uuid := uuid

theorem ascii_compact (simpleTime : ∀ c ∈ createdAt, IsSimple c) (simpleId : ∀ c ∈ id, IsSimple c) :
    ∀ c ∈ compact createdAt id, c.toNat < 128 := by
  have ascii {text : List Char} (simple : ∀ c ∈ text, IsSimple c) : ∀ c ∈ text, c.toNat < 128 :=
    fun c member => (simple c member).2.1.trans_lt (by decide)
  have keys : (∀ c ∈ "v".toList, c.toNat < 128) ∧ (∀ c ∈ "createdAt".toList, c.toNat < 128) ∧
      ∀ c ∈ "id".toList, c.toNat < 128 := by decide
  simp only [compact, memberText, List.forall_mem_append, List.forall_mem_cons]
  exact ⟨by decide, by decide, keys.1, by decide, by decide, by decide, by decide, by decide, keys.2.1, by decide,
    by decide, by decide, ascii simpleTime, by decide, by decide, by decide, keys.2.2, by decide, by decide, by decide,
    ascii simpleId, by decide, by decide, nofun⟩

theorem cursorOf_compact_length (time : TimeValue) {id : String} (uuid : UUID_PATTERN id = true) :
    (cursorOf (compact (toISOString time).toList id.toList)).length ≤ 124 := by
  have bytes := utf8_length_ascii (ascii_compact (simple_toISOString time) (simple_of_uuid uuid).2)
  have timeLength : (toISOString time).toList.length ≤ 27 := by
    rw [toISOString, String.toList_ofList]
    exact isoText_length (Civil.legal_ofTime _) (ofTime_year time).1 (ofTime_year time).2
  have idLength := (simple_of_uuid uuid).1
  have length : (compact (toISOString time).toList id.toList).length ≤ 93 := by
    have v : "v".toList.length = 1 := rfl
    have created : "createdAt".toList.length = 9 := rfl
    have named : "id".toList.length = 2 := rfl
    simp only [compact, memberText, List.length_append, List.length_cons, List.length_nil, v, created, named]
    omega
  have written := length_write_le (utf8.write (compact (toISOString time).toList id.toList))
  rw [cursorOf, String.length_ofList]
  omega

theorem carries_encoded (time : TimeValue) {id : String} (uuid : UUID_PATTERN id = true) :
    Carries (cursorOf (compact (toISOString time).toList id.toList)) ⟨some time, id⟩ :=
  ⟨_, _, rfl, (cursorOf_compact_length time uuid).trans (by decide),
    parse_compact (fun c member => (simple_toISOString time c member).plain)
      (fun c member => ((simple_of_uuid uuid).2 c member).plain), holds_payloadOf time uuid⟩

theorem compact_of_encoded (encoded : encode position = .ok cursor) : Compact cursor := by
  obtain ⟨time, -, uuid, rfl⟩ := encode_ok encoded
  exact ⟨_, _, fun c member => (simple_toISOString time c member).plain,
    fun c member => ((simple_of_uuid uuid).2 c member).plain, rfl⟩

/-- A position that a text in the form of the encoder carries is encoded to it. -/
theorem encoded_of_compact (carries : Carries cursor position) (isCompact : Compact cursor) :
    encode position = .ok cursor := by
  obtain ⟨createdAt, id, plainTime, plainId, rfl⟩ := isCompact
  obtain ⟨text, payload, same, -, parsed, holds⟩ := carries
  obtain rfl := cursorOf_injective same
  cases (parse_compact plainTime plainId).symm.trans parsed
  obtain ⟨time, isTime, isText⟩ := holds.time
  have isText' : String.ofList createdAt = toISOString time := by
    have named : (payloadOf createdAt id).member "createdAt" = some (.string (some (String.ofList createdAt))) := rfl
    rw [named] at isText
    exact Option.some.inj (Value.string.inj (Option.some.inj isText))
  have isId : String.ofList id = position.id := by
    have named : (payloadOf createdAt id).member "id" = some (.string (some (String.ofList id))) := rfl
    exact Option.some.inj (Value.string.inj (Option.some.inj (named.symm.trans holds.id)))
  obtain ⟨date, positionId⟩ := position
  obtain rfl : date = some time := isTime
  rw [encode_eq time holds.uuid, ← isText', ← isId, String.toList_ofList, String.toList_ofList]

/-- A position is decoded from its cursor, which has at most 512 signs of base64url. A cursor that is decoded is the
cursor of a position just when the JSON in it is written as the encoder writes it. -/
theorem cursors_canonical_iff (otherwise : String → Option TimeValue) :
    (∀ (time : TimeValue) (id : String), UUID_PATTERN id = true → ∃ cursor, encode ⟨some time, id⟩ = .ok cursor ∧
      decode otherwise cursor = .ok ⟨some time, id⟩ ∧ (∀ c ∈ cursor.toList, isSign c = true) ∧
      cursor.length ≤ MAX_CURSOR_LENGTH) ∧
    ∀ cursor : String, ((∀ position, decode otherwise cursor = .ok position → ∃ position, encode position = .ok cursor) ↔
      ((∃ position, Carries cursor position) → Compact cursor)) := by
  refine ⟨fun time id uuid => ⟨_, encode_eq time uuid, ?_, ?_, ?_⟩, fun cursor => ⟨?_, ?_⟩⟩
  · exact (decode_iff otherwise _ _).mpr (carries_encoded time uuid)
  · rw [cursorOf, String.toList_ofList]
    exact isSign_write _
  · exact (cursorOf_compact_length time uuid).trans (by decide)
  · rintro onlyEncoded ⟨position, carries⟩
    obtain ⟨_, encoded⟩ := onlyEncoded position ((decode_iff otherwise cursor position).mpr carries)
    exact compact_of_encoded encoded
  · intro onlyCompact position decoded
    have carries := (decode_iff otherwise cursor position).mp decoded
    exact ⟨position, encoded_of_compact carries (onlyCompact ⟨position, carries⟩)⟩

theorem sampleTime_clipped :
    (-8640000000000000 : Int) ≤ 1767323045000 ∧ (1767323045000 : Int) ≤ 8640000000000000 := by
  decide

def sampleTime : TimeValue := ⟨1767323045000, sampleTime_clipped⟩

def sampleId : String := "550e8400-e29b-41d4-a716-446655440000"

/-- The JSON of a position with a blank before it. -/
def blankCursor : String :=
  cursorOf (' ' :: compact "2026-01-02T03:04:05.000Z".toList sampleId.toList)

theorem readValue_blank (depth : Nat) (text : List Char) : readValue (depth + 1) (' ' :: text) = readValue (depth + 1) text := by
  rw [readValue, readValue]
  rfl

theorem parse_blank_compact (plainTime : ∀ c ∈ createdAt, isPlain c = true) (plainId : ∀ c ∈ id, isPlain c = true) :
    parse (' ' :: compact createdAt id) = some (payloadOf createdAt id) := by
  unfold parse
  rw [List.length_cons, show 3 * ((compact createdAt id).length + 1) + 3 = 3 * (compact createdAt id).length + 6 by omega,
    readValue_blank, readValue_compact plainTime plainId]
  rfl

/-- A cursor with a blank in its JSON is decoded, and no position is encoded to it. -/
theorem blank_decoded : decode (fun _ => none) blankCursor = .ok ⟨some sampleTime, sampleId⟩ ∧
    ∀ position, encode position ≠ .ok blankCursor := by
  have uuid : UUID_PATTERN sampleId = true := by decide
  have isText : toISOString sampleTime = "2026-01-02T03:04:05.000Z" := by decide +kernel
  constructor
  · refine (decode_iff _ _ _).mpr ⟨_, _, rfl, by decide +kernel, ?_, holds_payloadOf sampleTime uuid⟩
    rw [← isText]
    exact parse_blank_compact (fun c member => (simple_toISOString sampleTime c member).plain)
      (fun c member => ((simple_of_uuid uuid).2 c member).plain)
  · intro position encoded
    obtain ⟨time, -, -, same⟩ := encode_ok encoded
    have heads := (List.cons.inj (cursorOf_injective same)).1
    exact absurd heads (by decide)

end AlianStructure.Guarantees.CanonicalCursors
