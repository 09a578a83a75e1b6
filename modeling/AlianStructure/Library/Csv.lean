import Mathlib.Data.List.Basic

/-!
# Comma-separated values

The format of RFC 4180, read character by character: a field is plain, or in quotes, where two quotes stand for one. A
line ends with a line feed, which a carriage return may precede, and the last line need not end with one. Characters
are not limited to ASCII.
-/
namespace AlianStructure.Library.Csv

abbrev Row := List (List Char)

inductive Mode where
  | start | plain | quoted | closed | carriageReturn
  deriving DecidableEq

/-- Where the reader is: within a field, after the fields of the record before it. -/
structure State where
  mode : Mode
  field : List Char
  record : Row
  deriving DecidableEq

def initial : State := ⟨.start, [], []⟩

/-- The next state, and the record when it is complete. -/
def advance (state : State) (c : Char) : Option (State × List Row) :=
  match state.mode with
  | .quoted =>
    if c = '"' then some (⟨.closed, state.field, state.record⟩, [])
    else some (⟨.quoted, state.field ++ [c], state.record⟩, [])
  | .carriageReturn => if c = '\n' then some (initial, [state.record ++ [state.field]]) else none
  | mode =>
    if c = ',' then some (⟨.start, [], state.record ++ [state.field]⟩, [])
    else if c = '\n' then some (initial, [state.record ++ [state.field]])
    else if c = '\r' then some (⟨.carriageReturn, state.field, state.record⟩, [])
    else if c = '"' then
      match mode with
      | .start => some (⟨.quoted, state.field, state.record⟩, [])
      | .closed => some (⟨.quoted, state.field ++ ['"'], state.record⟩, [])
      | _ => none
    else if mode = .closed then none
    else some (⟨.plain, state.field ++ [c], state.record⟩, [])

/-- The end of the text; after the end of a line it adds nothing. -/
def finish (state : State) : Option (List Row) :=
  match state.mode with
  | .quoted | .carriageReturn => none
  | .start => some (if state.record = [] then [] else [state.record ++ [state.field]])
  | _ => some [state.record ++ [state.field]]

def run (state : State) : List Char → Option (List Row)
  | [] => finish state
  | c :: rest => (advance state c).bind fun next => (run next.1 rest).map (next.2 ++ ·)

def parse (text : List Char) : Option (List Row) := run initial text

/-! ## What was read stays -/

theorem run_cons {state : State} {c : Char} (after : State) (done : List Row) (advances : advance state c = some (after, done))
    (rest : List Char) : run state (c :: rest) = (run after rest).map (done ++ ·) := by
  rw [run, advances, Option.bind_some]

theorem run_step {state : State} {c : Char} (after : State) (advances : advance state c = some (after, []))
    (rest : List Char) : run state (c :: rest) = run after rest := by
  rw [run_cons after [] advances]
  simp

variable {text : List Char}

/-- The fields of the record that are read are in the rows, when there are any. -/
theorem run_record {state : State} {rows : List Row} (reads : run state text = some rows) :
    (rows = [] ∧ state.record = []) ∨ ∃ more tail, rows = (state.record ++ more) :: tail := by
  induction text generalizing state rows with
  | nil =>
    rw [run, finish] at reads
    split at reads
    next => cases reads
    next => cases reads
    next =>
      obtain rfl := Option.some.inj reads
      split
      next none => exact Or.inl ⟨rfl, none⟩
      next => exact Or.inr ⟨_, _, rfl⟩
    next =>
      obtain rfl := Option.some.inj reads
      exact Or.inr ⟨_, _, rfl⟩
  | cons c rest ih =>
    rw [run] at reads
    obtain ⟨⟨after, done⟩, advances, later⟩ := Option.bind_eq_some_iff.mp reads
    obtain ⟨others, goesOn, rfl⟩ := Option.map_eq_some_iff.mp later
    have kept : (done = [] ∧ ∃ more, after.record = state.record ++ more) ∨
        ∃ more, done = [state.record ++ more] := by
      unfold advance at advances
      repeat' split at advances
      all_goals first
        | cases advances; exact Or.inl ⟨rfl, [], (List.append_nil _).symm⟩
        | cases advances; exact Or.inl ⟨rfl, _, rfl⟩
        | cases advances; exact Or.inr ⟨_, rfl⟩
        | cases advances
    rcases kept with ⟨rfl, more, grown⟩ | ⟨more, rfl⟩
    · rcases ih goesOn with ⟨rfl, empty⟩ | ⟨next, tail, rfl⟩
      · rw [grown, List.append_eq_nil_iff] at empty
        exact Or.inl ⟨rfl, empty.1⟩
      · exact Or.inr ⟨more ++ next, tail, by rw [grown, List.append_assoc, List.nil_append]⟩
    · exact Or.inr ⟨more, others, rfl⟩

variable {record more : Row} {tail : List Row} {field x : List Char}

/-- A field that is complete is the one in the row. -/
theorem field_of_complete (reads : run ⟨.start, [], record ++ [field]⟩ text = some ((record ++ x :: more) :: tail)) :
    x = field := by
  rcases run_record reads with ⟨none, -⟩ | ⟨next, others, rows⟩
  · cases none
  · have row := (List.cons.inj rows).1
    rw [List.append_assoc, List.append_cancel_left_eq] at row
    exact (List.cons.inj row).1

theorem field_of_line {others : Option (List Row)}
    (reads : others.map ([record ++ [field]] ++ ·) = some ((record ++ x :: more) :: tail)) : x = field := by
  obtain ⟨_, -, rows⟩ := Option.map_eq_some_iff.mp reads
  have row := (List.cons.inj rows).1
  rw [List.append_cancel_left_eq] at row
  exact (List.cons.inj row).1.symm

theorem field_of_carriageReturn
    (reads : run ⟨.carriageReturn, field, record⟩ text = some ((record ++ x :: more) :: tail)) : x = field := by
  cases text with
  | nil => cases reads
  | cons c rest =>
    by_cases feed : c = '\n'
    · subst feed
      rw [run_cons initial [record ++ [field]] rfl] at reads
      exact field_of_line reads
    · have stops : advance ⟨.carriageReturn, field, record⟩ c = none := if_neg feed
      rw [run, stops] at reads
      cases reads

/-! ## Fields in quotes -/

/-- Every quote twice. -/
def doubled (text : List Char) : List Char := text.flatMap fun c => if c = '"' then ['"', '"'] else [c]

@[simp] theorem doubled_quote (text : List Char) : doubled ('"' :: text) = '"' :: '"' :: doubled text := rfl

theorem doubled_cons {c : Char} (other : c ≠ '"') (text : List Char) : doubled (c :: text) = c :: doubled text := by
  rw [doubled, List.flatMap_cons, if_neg other]
  rfl

/-- After the quote that closes a field: the field, or more of it after another quote. -/
def ReadOn (field x text : List Char) : Prop :=
  x = field ∨ ∃ y rest, x = field ++ '"' :: y ∧ text = '"' :: (doubled y ++ '"' :: rest)

/-- A field in quotes ends with a quote, and has its quotes doubled before. -/
theorem run_quoted (text : List Char) :
    (run ⟨.quoted, field, record⟩ text = some ((record ++ x :: more) :: tail) →
      ∃ y rest, x = field ++ y ∧ text = doubled y ++ '"' :: rest) ∧
    (run ⟨.closed, field, record⟩ text = some ((record ++ x :: more) :: tail) → ReadOn field x text) := by
  induction text generalizing field with
  | nil =>
    refine ⟨fun reads => (nomatch reads), fun reads => Or.inl ?_⟩
    have row := (List.cons.inj (Option.some.inj reads)).1
    rw [List.append_cancel_left_eq] at row
    exact (List.cons.inj row).1.symm
  | cons c rest ih =>
    constructor
    · intro reads
      by_cases quote : c = '"'
      · subst quote
        rw [run_step ⟨.closed, field, record⟩ rfl] at reads
        rcases ih.2 reads with rfl | ⟨y, others, rfl, rfl⟩
        · exact ⟨[], rest, (List.append_nil _).symm, rfl⟩
        · exact ⟨'"' :: y, others, rfl, rfl⟩
      · have advances : advance ⟨.quoted, field, record⟩ c = some (⟨.quoted, field ++ [c], record⟩, []) := if_neg quote
        rw [run_step _ advances] at reads
        obtain ⟨y, others, rfl, rfl⟩ := ih.1 reads
        exact ⟨c :: y, others, by simp, by rw [doubled_cons quote]; rfl⟩
    · intro reads
      by_cases comma : c = ','
      · subst comma
        rw [run_step ⟨.start, [], record ++ [field]⟩ rfl] at reads
        exact Or.inl (field_of_complete reads)
      by_cases feed : c = '\n'
      · subst feed
        rw [run_cons initial [record ++ [field]] rfl] at reads
        exact Or.inl (field_of_line reads)
      by_cases carriage : c = '\r'
      · subst carriage
        rw [run_step ⟨.carriageReturn, field, record⟩ rfl] at reads
        exact Or.inl (field_of_carriageReturn reads)
      by_cases quote : c = '"'
      · subst quote
        rw [run_step ⟨.quoted, field ++ ['"'], record⟩ rfl] at reads
        obtain ⟨y, others, rfl, rfl⟩ := ih.1 reads
        exact Or.inr ⟨y, others, by simp, rfl⟩
      · have stops : advance ⟨.closed, field, record⟩ c = none := by
          simp [advance, comma, feed, carriage, quote]
        rw [run, stops] at reads
        cases reads

/-- A text without quotes, up to the quote that closes it. -/
theorem run_quotes (unquoted : '"' ∉ text) (field : List Char) (record : Row) (rest : List Char) :
    run ⟨.quoted, field, record⟩ (text ++ '"' :: rest) = run ⟨.closed, field ++ text, record⟩ rest := by
  induction text generalizing field with
  | nil =>
    rw [List.nil_append, List.append_nil]
    exact run_step ⟨.closed, field, record⟩ rfl rest
  | cons c text ih =>
    rw [List.mem_cons, not_or] at unquoted
    obtain ⟨other, later⟩ := unquoted
    have advances : advance ⟨.quoted, field, record⟩ c = some (⟨.quoted, field ++ [c], record⟩, []) :=
      if_neg (Ne.symm other)
    rw [List.cons_append, run_step _ advances, ih later, List.append_assoc, List.singleton_append]

/-! ## Writing fields and records -/

/-- What may come after a field: nothing, or a sign that ends it. -/
def Ends (rest : List Char) : Prop := ∀ c ∈ rest.head?, c = ',' ∨ c = '\n'

theorem ends_comma (rest : List Char) : Ends (',' :: rest) := fun _ first => Or.inl (Option.some.inj first).symm

theorem ends_feed (rest : List Char) : Ends ('\n' :: rest) := fun _ first => Or.inr (Option.some.inj first).symm

theorem ends_nil : Ends [] := fun _ first => nomatch first

/-- The modes in which a field can end. -/
def Settled (mode : Mode) : Prop := mode = .start ∨ mode = .plain ∨ mode = .closed

variable {mode : Mode}

theorem run_comma (settled : Settled mode) (field : List Char) (record : Row) (rest : List Char) :
    run ⟨mode, field, record⟩ (',' :: rest) = run ⟨.start, [], record ++ [field]⟩ rest := by
  rcases settled with rfl | rfl | rfl <;> exact run_step ⟨.start, [], record ++ [field]⟩ rfl rest

theorem run_feed (settled : Settled mode) (field : List Char) (record : Row) (rest : List Char) :
    run ⟨mode, field, record⟩ ('\n' :: rest) = (run initial rest).map ([record ++ [field]] ++ ·) := by
  rcases settled with rfl | rfl | rfl <;> exact run_cons initial [record ++ [field]] rfl rest

/-- At the end of the text a record with several fields is complete. -/
theorem run_end (settled : Settled mode) (field : List Char) {record : Row} (more : record ≠ []) :
    run ⟨mode, field, record⟩ [] = some [record ++ [field]] := by
  rcases settled with rfl | rfl | rfl
  · exact congrArg some (if_neg more)
  · rfl
  · rfl

/-- A way to write fields: the good ones are read back, and no others are. -/
structure Coding (encode : List Char → List Char) (Good : List Char → Prop) : Prop where
  reads : ∀ field record rest, Good field → Ends rest →
    ∃ mode, Settled mode ∧ run ⟨.start, [], record⟩ (encode field ++ rest) = run ⟨mode, field, record⟩ rest
  good : ∀ field record rest more tail, Ends rest →
    run ⟨.start, [], record⟩ (encode field ++ rest) = some ((record ++ field :: more) :: tail) → Good field

/-- The fields of a record with commas between them. -/
def writeRecord (encode : List Char → List Char) : Row → List Char
  | [] => []
  | [field] => encode field
  | field :: next :: fields => encode field ++ ',' :: writeRecord encode (next :: fields)

/-- The lines of a file, with line feeds between them. -/
def joinLines : List (List Char) → List Char
  | [] => []
  | [line] => line
  | line :: next :: lines => line ++ '\n' :: joinLines (next :: lines)

theorem writeRecord_eq (encode : List Char → List Char) :
    ∀ record : Row, writeRecord encode record = [','].intercalate (record.map encode)
  | [] => rfl
  | [field] => List.intercalate_singleton.symm
  | field :: next :: fields => by
    rw [writeRecord, writeRecord_eq encode (next :: fields)]
    simp only [List.map_cons, List.intercalate_cons_cons, List.append_assoc, List.singleton_append]

theorem joinLines_eq : ∀ lines : List (List Char), joinLines lines = ['\n'].intercalate lines
  | [] => rfl
  | [line] => List.intercalate_singleton.symm
  | line :: next :: lines => by
    rw [joinLines, joinLines_eq (next :: lines), List.intercalate_cons_cons, List.append_assoc, List.singleton_append]

section Coding
variable {encode : List Char → List Char} {Good : List Char → Prop}

/-- What is read after a record: nothing, or the other records. -/
def After (rest : List Char) (tail : List Row) : Prop :=
  match rest with
  | [] => tail = []
  | _ :: others => run initial others = some tail

/-- A record of several fields is read back exactly when all its fields are good. -/
theorem run_record_iff (coding : Coding encode Good) (tail : List Row) {rest : List Char}
    (ends : rest = [] ∨ ∃ others, rest = '\n' :: others) :
    ∀ (fields record : Row), fields ≠ [] → (record ≠ [] ∨ 2 ≤ fields.length) →
      (run ⟨.start, [], record⟩ (writeRecord encode fields ++ rest) = some ((record ++ fields) :: tail) ↔
        (∀ field ∈ fields, Good field) ∧ After rest tail)
  | [], _, filled, _ => absurd rfl filled
  | [field], record, _, several => by
    have more : record ≠ [] := several.resolve_right (by simp)
    have closes : ∀ {mode}, Settled mode →
        (run ⟨mode, field, record⟩ rest = some ((record ++ [field]) :: tail) ↔ After rest tail) := by
      intro mode settled
      rcases ends with rfl | ⟨others, rfl⟩
      · rw [run_end settled field more, Option.some.injEq, List.cons.injEq]
        exact ⟨fun same => same.2.symm, fun none => ⟨rfl, none.symm⟩⟩
      · rw [run_feed settled]
        simp [After]
    have isEnd : Ends rest := by
      rcases ends with rfl | ⟨others, rfl⟩
      · exact ends_nil
      · exact ends_feed others
    rw [writeRecord, List.forall_mem_singleton]
    constructor
    · intro reads
      have isGood := coding.good field record rest [] tail isEnd reads
      obtain ⟨mode, settled, same⟩ := coding.reads field record rest isGood isEnd
      exact ⟨isGood, (closes settled).mp (same ▸ reads)⟩
    · rintro ⟨isGood, after⟩
      obtain ⟨mode, settled, same⟩ := coding.reads field record rest isGood isEnd
      rw [same]
      exact (closes settled).mpr after
  | field :: next :: fields, record, _, _ => by
    have goesOn := run_record_iff coding tail ends (next :: fields) (record ++ [field]) (List.cons_ne_nil _ _)
      (Or.inl (by simp))
    rw [List.append_assoc, List.singleton_append] at goesOn
    rw [writeRecord, List.append_assoc, List.cons_append, List.forall_mem_cons, and_assoc, ← goesOn]
    constructor
    · intro reads
      have isGood := coding.good field record _ (next :: fields) tail (ends_comma _) reads
      obtain ⟨mode, settled, same⟩ := coding.reads field record _ isGood (ends_comma _)
      rw [same, run_comma settled] at reads
      exact ⟨isGood, reads⟩
    · rintro ⟨isGood, reads⟩
      obtain ⟨mode, settled, same⟩ := coding.reads field record _ isGood (ends_comma _)
      rw [same, run_comma settled]
      exact reads

/-- Records of several fields, a line each, are read back exactly when all fields are good. -/
theorem run_lines_iff (coding : Coding encode Good) : ∀ records : List Row, records ≠ [] →
    (∀ record ∈ records, 2 ≤ record.length) →
      (run initial (joinLines (records.map (writeRecord encode))) = some records ↔
        ∀ record ∈ records, ∀ field ∈ record, Good field)
  | [], filled, _ => absurd rfl filled
  | [record], _, several => by
    have length := several record List.mem_cons_self
    have reads := run_record_iff coding [] (Or.inl rfl) record [] (List.ne_nil_of_length_pos (by omega))
      (Or.inr length)
    rw [List.append_nil, List.nil_append] at reads
    simpa [After, joinLines, initial] using reads
  | record :: next :: records, _, several => by
    have length := several record List.mem_cons_self
    have reads := run_record_iff coding (next :: records)
      (Or.inr ⟨joinLines ((next :: records).map (writeRecord encode)), rfl⟩) record []
      (List.ne_nil_of_length_pos (by omega)) (Or.inr length)
    have goesOn := run_lines_iff coding (next :: records) (List.cons_ne_nil _ _)
      fun other member => several other (List.mem_cons_of_mem _ member)
    rw [List.forall_mem_cons, ← goesOn]
    exact reads

/-- A first line of good fields before other lines. -/
theorem run_header_iff (coding : Coding encode Good) {header : Row} (several : 2 ≤ header.length)
    (good : ∀ field ∈ header, Good field) (body : List Char) (tail : List Row) :
    run initial (writeRecord encode header ++ '\n' :: body) = some (header :: tail) ↔ run initial body = some tail :=
  (run_record_iff coding tail (Or.inr ⟨body, rfl⟩) header [] (List.ne_nil_of_length_pos (by omega))
    (Or.inr several)).trans (and_iff_right good)

end Coding

/-! ## Plain fields -/

/-- A character that needs no quotes. -/
def IsText (c : Char) : Prop := c ≠ ',' ∧ c ≠ '"' ∧ c ≠ '\n' ∧ c ≠ '\r'

instance (c : Char) : Decidable (IsText c) := inferInstanceAs (Decidable (_ ∧ _ ∧ _ ∧ _))

def Clean (field : List Char) : Prop := ∀ c ∈ field, IsText c

instance (field : List Char) : Decidable (Clean field) := List.decidableBAll IsText field

theorem advance_text (within : mode = .start ∨ mode = .plain) {c : Char} (isText : IsText c) (field : List Char)
    (record : Row) : advance ⟨mode, field, record⟩ c = some (⟨.plain, field ++ [c], record⟩, []) := by
  obtain ⟨comma, quote, feed, carriage⟩ := isText
  rcases within with rfl | rfl <;> simp [advance, comma, quote, feed, carriage]

theorem run_text (within : mode = .start ∨ mode = .plain) (clean : Clean text) (field : List Char) (record : Row)
    (rest : List Char) : ∃ after, (after = .start ∨ after = .plain) ∧
      run ⟨mode, field, record⟩ (text ++ rest) = run ⟨after, field ++ text, record⟩ rest := by
  induction text generalizing mode field with
  | nil => exact ⟨mode, within, by rw [List.nil_append, List.append_nil]⟩
  | cons c text ih =>
    obtain ⟨isText, others⟩ := List.forall_mem_cons.mp clean
    obtain ⟨after, isOpen, goesOn⟩ := ih (Or.inr rfl) others (field ++ [c])
    refine ⟨after, isOpen, ?_⟩
    rw [List.cons_append, run_step _ (advance_text within isText field record), goesOn, List.append_assoc,
      List.singleton_append]

/-- A text with all its quotes doubled, and more of them before, is not the text itself. -/
theorem doubled_ahead {text rest others : List Char} (ends : Ends rest) (ahead : Nat) :
    text ++ rest ≠ List.replicate (ahead + 1) '"' ++ (doubled text ++ '"' :: others) := by
  induction text generalizing ahead with
  | nil =>
    intro same
    rw [List.nil_append, List.replicate_succ] at same
    rcases ends '"' (by rw [same]; rfl) with comma | feed
    · exact absurd comma (by decide)
    · exact absurd feed (by decide)
  | cons c text ih =>
    intro same
    rw [List.replicate_succ, List.cons_append, List.cons_append] at same
    obtain ⟨rfl, later⟩ := List.cons.inj same
    refine ih (ahead + 1) (later.trans ?_)
    rw [doubled_quote, List.replicate_succ', List.replicate_succ']
    simp

/-- A field that is read as it stands in the text has no sign in it. -/
theorem clean_of_read {field text rest : List Char} (within : mode = .start ∧ field = [] ∨ mode = .plain)
    (ends : Ends rest)
    (reads : run ⟨mode, field, record⟩ (text ++ rest) = some ((record ++ (field ++ text) :: more) :: tail)) :
    Clean text := by
  induction text generalizing mode field with
  | nil => exact fun _ member => absurd member List.not_mem_nil
  | cons c text ih =>
    rw [List.cons_append] at reads
    have longer : field ++ c :: text ≠ field := by simp
    have settled : Settled mode := within.elim (fun here => Or.inl here.1) fun here => Or.inr (Or.inl here)
    by_cases comma : c = ','
    · subst comma
      rw [run_comma settled] at reads
      exact absurd (field_of_complete reads) longer
    by_cases feed : c = '\n'
    · subst feed
      rw [run_feed settled] at reads
      exact absurd (field_of_line reads) longer
    by_cases carriage : c = '\r'
    · subst carriage
      have advances : advance ⟨mode, field, record⟩ '\r' = some (⟨.carriageReturn, field, record⟩, []) := by
        rcases settled with rfl | rfl | rfl <;> rfl
      rw [run_step _ advances] at reads
      exact absurd (field_of_carriageReturn reads) longer
    by_cases quote : c = '"'
    · subst quote
      rcases within with ⟨rfl, rfl⟩ | rfl
      · rw [run_step ⟨.quoted, [], record⟩ rfl, List.nil_append] at reads
        obtain ⟨y, others, isField, inText⟩ := (run_quoted _).1 reads
        rw [List.nil_append] at isField
        subst isField
        exact absurd inText (by
          rw [doubled_quote]
          exact doubled_ahead ends 1)
      · cases reads
    · have isText : IsText c := ⟨comma, quote, feed, carriage⟩
      have isOpen : mode = .start ∨ mode = .plain := within.imp_left And.left
      rw [run_step _ (advance_text isOpen isText field record)] at reads
      have same : field ++ c :: text = field ++ [c] ++ text := by rw [List.append_assoc, List.singleton_append]
      rw [same] at reads
      exact List.forall_mem_cons.mpr ⟨isText, ih (Or.inr rfl) reads⟩

/-- Fields written as they are. -/
theorem text_coding : Coding id Clean where
  reads field record rest clean _ := by
    obtain ⟨after, isOpen, reads⟩ := run_text (Or.inl rfl) clean [] record rest
    exact ⟨after, isOpen.imp_right Or.inl, reads⟩
  good field record rest more tail ends reads := clean_of_read (Or.inl ⟨rfl, rfl⟩) ends reads

end AlianStructure.Library.Csv
