import AlianStructure.Library.CallProtocol
import AlianStructure.Source.Common.NonceGuard

/-!
# Nonces are not replayed

Source: src/common/guard/nonce.guard.ts:23-57. A guarded request looks the row of its user up, compares
and saves in steps of their own. What it saves is above all that was accepted before when the row is
still the one it has found; the first row of a user is inserted, which the database does only once.
-/
namespace AlianStructure.Guarantees.ReplayGuard
open Library.Interleaving Library.CallProtocol Library.KeyedTable
open Library.JsonText
open Source Source.Common NonceGuard

/-- The nonces that were accepted for a user, in the order of their saves. -/
def accepted (input : BigIntInput) (key : String) (trace : List (Nat × Event guarding)) : List Int :=
  trace.filterMap fun entry =>
    match entry.2 with
    | ⟨.save _ entity, .ok _⟩ => if entity.address = key then input.read entity.nonce else none
    | _ => none

/-- What a request asks to be saved: the texts of its user and of its nonce. -/
def Requests (body : GuardedBody) (entity : NonceEntity) : Prop :=
  ∃ nonce userId, sent body.nonce = some nonce ∧ sent body.userId = some userId ∧
    textOf userId = some entity.address ∧ textOf nonce = some entity.nonce

/-- The nonces of each user are accepted in increasing order, and each request that was let through
has its nonce among them. -/
structure ReplaySafe (input : BigIntInput) (c : Config (guardProcess input)) : Prop where
  increasing : ∀ key, (accepted input key c.trace).Pairwise (· < ·)
  recorded : ∀ (i : Nat) task, c.pool[i]? = some task → task.result = some (.ok true) →
    ∃ loaded entity, (i, ⟨.save loaded entity, .ok ()⟩) ∈ c.trace ∧ Requests task.call entity ∧
      (input.read entity.nonce).isSome

/-- A request with the entity it has saved. -/
structure Stage where
  body : GuardedBody
  saved : Option NonceEntity

/-- An entity that was loaded is the row of its user and has a smaller nonce. -/
def Asks (body : GuardedBody) (loaded : Option SubmissionNonce) (entity : NonceEntity) : Prop :=
  Requests body entity ∧ ∀ row ∈ loaded, row.address = entity.address ∧
    ∃ nonce n, sent body.nonce = some nonce ∧ bigIntOf nonce = some n ∧ row.nonce < n

abbrev checking : Protocol guarding where
  Phase := Stage
  start body := ⟨body, none⟩
  starts _ _ := False
  allows stage op :=
    match op with
    | .findOne _ => True
    | .save loaded entity => Asks stage.body loaded entity
  possible op result :=
    match op, result with
    | .findOne address, .ok (some row) => row.address = address
    | _, _ => True
  advance stage op result :=
    match op, result with
    | .save _ entity, .ok _ => ⟨stage.body, some entity⟩
    | _, _ => stage
  returns stage result := ∀ value, result = .ok value → stage.saved.isSome

theorem convert_follows {α : Type} {message : String} {value : Option α} {stage : Stage}
    {post : Stage → Except Exception α → Prop} (fails : ∀ failure, post stage (.error failure))
    (goes : ∀ result, value = some result → post stage (.ok result)) :
    Follows checking stage (convert message value) post := by
  cases value with
  | none => exact fails _
  | some result => exact goes result rfl

variable {loaded : Option SubmissionNonce} {entity : NonceEntity}

theorem save_follows {stage : Stage} (asks : Asks stage.body loaded entity) :
    Follows checking stage (do ask (.save loaded entity); pure true)
      fun stage result => ∀ value, result = .ok value → stage.saved.isSome := by
  refine (follows_bind _).mpr ⟨asks, fun result _ => ?_⟩
  cases result with
  | error failure => exact fun _ impossible => by cases impossible
  | ok saved => exact fun _ _ => rfl

theorem canActivate_follows (body : GuardedBody) : Keeps checking ⟨body, none⟩ (canActivate body) := by
  unfold canActivate
  have never : ∀ {failure : Exception} {stage : Stage} (value : Bool),
      (.error failure : Except Exception Bool) = .ok value → stage.saved.isSome := nofun
  split
  next nonce userId isNonce isUser =>
    refine (follows_bind _).mpr (convert_follows (fun _ => never) fun key isKey => ?_)
    refine (follows_bind _).mpr ⟨trivial, fun result found => ?_⟩
    match result with
    | .error failure => exact never
    | .ok none =>
      refine (follows_bind _).mpr (convert_follows (fun _ => never) fun text isText => ?_)
      exact save_follows ⟨⟨nonce, userId, isNonce, isUser, isKey, isText⟩, nofun⟩
    | .ok (some row) =>
      refine (follows_bind _).mpr (convert_follows (fun _ => never) fun current isCurrent => ?_)
      rw [afterOk_ok]
      split
      next => exact never
      next above =>
        refine (follows_bind _).mpr (convert_follows (fun _ => never) fun text isText => ?_)
        have address : row.address = key := found
        refine save_follows ⟨⟨nonce, userId, isNonce, isUser, ?_, isText⟩, fun other same => ?_⟩
        · rw [address]
          exact isKey
        · cases same
          exact ⟨rfl, nonce, current, isNonce, isCurrent, Int.not_le.mp above⟩
  next => exact never

theorem guard_conforms (input : BigIntInput) : Conforms checking (guardProcess input) where
  body call _ := canActivate_follows call
  possible world op answer world' result responds := by
    cases op with
    | save loaded entity => trivial
    | findOne address =>
      cases answer with
      | done =>
        cases responds
        cases found : world.findOne address with
        | none => trivial
        | some row => exact Table.findOne_key found
      | fails failure =>
        cases responds
        trivial
      | lost failure => cases responds

/-- The text of a nonce denotes the nonce: a number may be too large for that. -/
def Exact : Option Json → Prop
  | some (.number text) =>
    ∀ n ∈ bigIntOfNumber text, ∀ m ∈ bigIntOfText (String.ofList text.chars), n = m
  | _ => True

instance Exact.decidable : ∀ nonce, Decidable (Exact nonce)
  | some (.number text) => inferInstanceAs (Decidable
      (∀ n ∈ bigIntOfNumber text, ∀ m ∈ bigIntOfText (String.ofList text.chars), n = m))
  | none | some .null | some (.bool _) | some (.string _) | some (.array _) | some (.object _) =>
    isTrue trivial

/-- The condition on a run: when an entity that was loaded is saved, its row is still as it was loaded,
and the text of the nonce denotes the nonce. -/
def Undisturbed (input : BigIntInput) : ChoiceCondition checking (guardProcess input) :=
  fun v i op answer =>
    match op, answer with
    | .save (some row) entity, .done | .save (some row) entity, .lost _ =>
      Table.findOne v.world entity.address = some row ∧
        ∀ stage ∈ v.phases[i]?, Exact (Stage.body stage).nonce
    | _, _ => True

instance Undisturbed.decidable (input : BigIntInput) (v : View checking (guardProcess input))
    (i : Nat) (op : GuardOp) (answer : GuardAnswer) : Decidable (Undisturbed input v i op answer) :=
  match op, answer with
  | .save (some row) entity, .done | .save (some row) entity, .lost _ =>
    inferInstanceAs (Decidable (Table.findOne v.world entity.address = some row ∧
      ∀ stage ∈ v.phases[i]?, Exact (Stage.body stage).nonce))
  | .save (some _) _, .fails _ | .save none _, _ | .findOne _, _ => isTrue trivial

section Saves
variable {input : BigIntInput}

theorem number_plain (text : NumberText) (c : Char) (member : c ∈ text.chars) :
    c ∉ ['_', 'x', 'X', 'o', 'O', 'b', 'B'] := by
  intro special
  have plain := text.number c member
  simp only [List.mem_cons, List.not_mem_nil, or_false] at special
  rcases special with rfl | rfl | rfl | rfl | rfl | rfl | rfl <;> exact absurd plain (by decide)

theorem read_eq {nonce : Json} {text : String} {n m : Int} (exact : Exact (some nonce))
    (isText : textOf nonce = some text) (isNonce : bigIntOf nonce = some m)
    (reads : input.read text = some n) : n = m := by
  have viaText (same : (textOf nonce).bind bigIntOfText = some m) : n = m := by
    rw [isText] at same
    exact input.agrees text n m reads same
  cases nonce with
  | null => exact viaText isNonce
  | string value => exact viaText isNonce
  | array items => exact viaText isNonce
  | object members => exact viaText isNonce
  | bool value =>
    have unread : ∀ text ∈ ["true", "false"], bigIntOfText text = none ∧
        ∀ c ∈ text.toList, c ∉ ['_', 'x', 'X', 'o', 'O', 'b', 'B'] := by decide +kernel
    have word : text ∈ ["true", "false"] := by
      cases isText
      cases value <;> decide
    rcases input.grammar text n reads with plain | ⟨c, member, special⟩
    · rw [(unread text word).1] at plain
      cases plain
    · exact absurd special ((unread text word).2 c member)
  | number number =>
    cases isText
    rcases input.grammar _ n reads with plain | ⟨c, member, special⟩
    · exact (exact m isNonce n plain).symm
    · rw [String.toList_ofList] at member
      exact absurd special (number_plain number c member)

theorem saveNonce_rises {v : View checking (guardProcess input)} {i : Nat} {stage : Stage}
    {answer : GuardAnswer} {table : Nonces} (isStage : v.phases[i]? = some stage)
    (asks : Asks stage.body loaded entity) (takes : answer = .done ∨ ∃ failure, answer = .lost failure)
    (undisturbed : Undisturbed input v i (.save loaded entity) answer)
    (saves : saveNonce input v.world loaded entity = some table) :
    ∃ n, input.read entity.nonce = some n ∧ table = Table.save v.world ⟨entity.address, n⟩ ∧
      ∀ row, Table.findOne v.world entity.address = some row → row.nonce < n := by
  cases reads : input.read entity.nonce with
  | none => simp [saveNonce, reads] at saves
  | some n =>
    cases present : Table.findOne v.world entity.address with
    | none =>
      simp only [saveNonce, reads, present, Option.ite_none_right_eq_some, Option.some.injEq] at saves
      refine ⟨n, rfl, saves.2.symm, fun row isRow => ?_⟩
      cases isRow
    | some row =>
      cases loaded with
      | none => simp [saveNonce, reads, present] at saves
      | some old =>
        simp only [saveNonce, reads, present, Option.some.injEq] at saves
        refine ⟨n, rfl, saves.symm, fun other same => ?_⟩
        have condition : Table.findOne v.world entity.address = some old ∧
            ∀ stage ∈ v.phases[i]?, Exact (Stage.body stage).nonce := by
          rcases takes with rfl | ⟨failure, rfl⟩ <;> exact undisturbed
        obtain ⟨⟨nonce, _, isNonce, _, _, isText⟩, fits⟩ := asks
        obtain ⟨_, sentNonce, m, isSent, isInt, below⟩ := fits old rfl
        cases isNonce.symm.trans isSent
        have exact : Exact (some nonce) := by
          obtain ⟨given, _⟩ := Option.filter_eq_some_iff.mp isNonce
          have here := condition.2 stage isStage
          rwa [given] at here
        rw [present] at condition
        cases same
        cases condition.1
        rw [read_eq exact isText isInt reads]
        exact below

end Saves

section Steps
variable {input : BigIntInput}

/-- What was accepted rises and is not above the row of its user; what a request has saved is in the
trace. -/
structure Guarded (v : View checking (guardProcess input)) : Prop where
  increasing : ∀ key, (accepted input key v.trace).Pairwise (· < ·)
  below : ∀ key, ∀ n ∈ accepted input key v.trace,
    ∃ row, Table.findOne v.world key = some row ∧ n ≤ row.nonce
  recorded : ∀ (i : Nat) (stage : Stage), v.phases[i]? = some stage → ∀ entity ∈ stage.saved,
    ∃ loaded, (i, ⟨.save loaded entity, .ok ()⟩) ∈ v.trace ∧ Requests stage.body entity ∧
      (input.read entity.nonce).isSome

variable {v : View checking (guardProcess input)} {i : Nat} {stage : Stage}

theorem accepted_append (key : String) (trace : List (Nat × Event guarding)) (entry : Nat × Event guarding) :
    accepted input key (trace ++ [entry]) = accepted input key trace ++ accepted input key [entry] :=
  List.filterMap_append

/-- A row that is saved takes the place of that of its user, with a larger nonce. -/
theorem Guarded.below_save (guarded : Guarded v) {n : Int}
    (rises : ∀ row, Table.findOne v.world entity.address = some row → row.nonce < n) (key : String)
    (m : Int) (member : m ∈ accepted input key v.trace) : (key = entity.address → m < n) ∧ ∃ row,
      Table.findOne (Table.save v.world ⟨entity.address, n⟩) key = some row ∧ m ≤ row.nonce := by
  obtain ⟨row, found, bounded⟩ := guarded.below key m member
  have smaller : key = entity.address → m < n := by
    rintro rfl
    exact Int.lt_of_le_of_lt bounded (rises row found)
  refine ⟨smaller, ?_⟩
  by_cases same : key = entity.address
  · subst same
    exact ⟨⟨entity.address, n⟩, Table.findOne_save_self _ _, Int.le_of_lt (smaller rfl)⟩
  · have kept : Table.findOne (Table.save v.world ⟨entity.address, n⟩) key = Table.findOne v.world key :=
      Table.findOne_save_other v.world same
    exact ⟨row, kept.trans found, bounded⟩

theorem Guarded.silent (guarded : Guarded v) {event : Event guarding} {world : Nonces}
    (nothing : ∀ key, accepted input key [(i, event)] = []) (isStage : v.phases[i]? = some stage)
    (below : ∀ key, ∀ n ∈ accepted input key v.trace, ∃ row, Table.findOne world key = some row ∧ n ≤ row.nonce) :
    @Guarded input ⟨world, v.phases.set i stage, v.trace ++ [(i, event)]⟩ := by
  refine ⟨fun key => ?_, fun key n member => ?_, fun j other isOther entity saved => ?_⟩
  · rw [accepted_append, nothing, List.append_nil]
    exact guarded.increasing key
  · rw [accepted_append, nothing, List.append_nil] at member
    exact below key n member
  · have before : v.phases[j]? = some other := by
      rcases getElem?_set_cases isOther with ⟨rfl, rfl⟩ | ⟨_, old⟩
      · exact isStage
      · exact old
    obtain ⟨loaded, logged, rest⟩ := guarded.recorded j other before entity saved
    exact ⟨loaded, List.mem_append_left _ logged, rest⟩

theorem Guarded.accepts (guarded : Guarded v) {n : Int} (isStage : v.phases[i]? = some stage)
    (requests : Requests stage.body entity) (reads : input.read entity.nonce = some n)
    (rises : ∀ row, Table.findOne v.world entity.address = some row → row.nonce < n) :
    @Guarded input ⟨Table.save v.world ⟨entity.address, n⟩, v.phases.set i ⟨stage.body, some entity⟩,
      v.trace ++ [(i, ⟨.save loaded entity, .ok ()⟩)]⟩ := by
  have one : ∀ key, accepted input key [(i, ⟨.save loaded entity, .ok ()⟩)] =
      if entity.address = key then [n] else [] := by
    intro key
    simp only [accepted, List.filterMap_cons, List.filterMap_nil]
    split <;> simp_all
  refine ⟨fun key => ?_, fun key m member => ?_, fun j other isOther saved isSaved => ?_⟩
  · rw [accepted_append, one]
    split
    next same =>
      refine List.pairwise_append.mpr ⟨guarded.increasing key, List.pairwise_singleton _ _, ?_⟩
      intro m member k last
      rw [List.mem_singleton.mp last]
      exact (guarded.below_save rises key m member).1 same.symm
    next =>
      rw [List.append_nil]
      exact guarded.increasing key
  · rw [accepted_append, one] at member
    rcases List.mem_append.mp member with old | new
    · exact (guarded.below_save rises key m old).2
    · split at new
      next same =>
        subst same
        rw [List.mem_singleton.mp new]
        exact ⟨_, Table.findOne_save_self _ _, Int.le_refl n⟩
      next => cases new
  · rcases getElem?_set_cases isOther with ⟨rfl, rfl⟩ | ⟨_, old⟩
    · cases isSaved
      exact ⟨loaded, List.mem_append_right _ (List.mem_singleton_self _), requests,
        reads ▸ rfl⟩
    · obtain ⟨first, logged, rest⟩ := guarded.recorded j other old saved isSaved
      exact ⟨first, List.mem_append_left _ logged, rest⟩

theorem Guarded.saves (guarded : Guarded v) {answer : GuardAnswer} {world : Nonces}
    {result : Except Exception Unit} (isStage : v.phases[i]? = some stage) (asks : Asks stage.body loaded entity)
    (undisturbed : Undisturbed input v i (.save loaded entity) answer)
    (responds : respond input v.world (.save loaded entity) answer = some (world, result)) : @Guarded input ⟨world,
      v.phases.set i (checking.advance stage (.save loaded entity) result),
      v.trace ++ [(i, ⟨.save loaded entity, result⟩)]⟩ := by
  cases answer with
  | fails failure =>
    cases responds
    exact guarded.silent (fun _ => rfl) isStage guarded.below
  | lost failure =>
    obtain ⟨table, saves, same⟩ := Option.map_eq_some_iff.mp responds
    cases same
    obtain ⟨n, _, rfl, rises⟩ :=
      saveNonce_rises isStage asks (Or.inr ⟨failure, rfl⟩) undisturbed saves
    exact guarded.silent (fun _ => rfl) isStage fun key m member =>
      (guarded.below_save rises key m member).2
  | done =>
    obtain ⟨table, saves, same⟩ := Option.map_eq_some_iff.mp responds
    cases same
    obtain ⟨n, reads, rfl, rises⟩ := saveNonce_rises isStage asks (Or.inl rfl) undisturbed saves
    exact guarded.accepts isStage asks.1 reads rises

theorem Guarded.step {v v' : View checking (guardProcess input)} (guarded : Guarded v)
    (decides : Decides (Undisturbed input) v v') : Guarded v' := by
  cases decides with
  | calls new started =>
    refine ⟨guarded.increasing, guarded.below, fun j other isOther entity saved => ?_⟩
    rcases getElem?_append_cases isOther with old | started
    · exact guarded.recorded j other old entity saved
    · obtain ⟨call, _, rfl⟩ := List.mem_map.mp started
      cases saved
  | env mem change => exact change.elim
  | reply i stage op choice world result isStage allowed responds condition =>
    obtain ⟨answer, responds, undisturbed⟩ := condition
    cases op with
    | save loaded entity => exact guarded.saves isStage allowed undisturbed responds
    | findOne address =>
      have same : world = v.world := by
        cases answer <;> cases responds <;> rfl
      subst same
      exact guarded.silent (fun _ => rfl) isStage guarded.below

end Steps

theorem phaseOf_body (task : Task guarding) : (phaseOf checking task).body = task.call := by
  refine phaseOf_keeps (P := checking) (fun stage => stage.body = task.call)
    (fun stage op result same => ?_) rfl
  cases op with
  | findOne address => exact same
  | save loaded entity => cases result <;> exact same

/-- In every run in which a row is still as it was loaded when its save takes effect, and in which the
nonces that are compared have exact texts, nothing is replayed. -/
theorem nonces_not_replayed (input : BigIntInput) (labels : List (Label (guardProcess input)))
    (after : Config (guardProcess input)) (admissible : Admissible (OnChoices (Undisturbed input)) labels
      (Config.initial (guardProcess input) Table.empty ()))
    (ran : run labels (Config.initial (guardProcess input) Table.empty ()) = some after) :
    ReplaySafe input after := by
  have start : Guarded (view checking (Config.initial (guardProcess input) Table.empty ())) :=
    ⟨fun _ => List.Pairwise.nil, nofun, nofun⟩
  obtain ⟨guarded, keep⟩ := invariant_of_choices (guard_conforms input)
    (fun _ _ guarded decides => Guarded.step guarded decides) (allKeep_initial _ _) start admissible ran
  refine ⟨guarded.increasing, fun i task found ended => ?_⟩
  obtain ⟨entity, saved⟩ := Option.isSome_iff_exists.mp
    (returns_of_result keep found ended true rfl)
  have body : (phaseOf checking task).body = task.call := phaseOf_body task
  have isPhase : (view checking after).phases[i]? = some (phaseOf checking task) := by
    simp [view, phases, found]
  obtain ⟨loaded, logged, requests, reads⟩ := guarded.recorded i _ isPhase entity saved
  exact ⟨loaded, entity, logged, body ▸ requests, reads⟩

/-- A database that reads the texts of the language within its range. -/
def sampleInput : BigIntInput where
  read text := (bigIntOfText text).filter fun n => decide (-2 ^ 63 ≤ n ∧ n < 2 ^ 63)
  agrees text n m reads isInt := by
    rw [isInt] at reads
    exact (Option.some.inj (Option.filter_eq_some_iff.mp reads).1).symm
  grammar text n reads := Or.inl (Option.filter_eq_some_iff.mp reads).1

def request (nonce : String) : GuardedBody := ⟨some (.string nonce), some (.string "user")⟩

/-- A user sends one nonce after another. -/
def inOrder : List (Label (guardProcess sampleInput)) :=
  [.call (request "5"), .reply 0 .done, .reply 0 .done,
    .call (request "7"), .reply 1 .done, .reply 1 .done]

theorem nonces_accepted : ∃ after,
    run inOrder (Config.initial (guardProcess sampleInput) Table.empty ()) = some after ∧
      accepted sampleInput "user" after.trace = [5, 7] ∧ ReplaySafe sampleInput after := by
  obtain ⟨after, ran, accepts⟩ := (by decide +kernel : ∃ after,
    run inOrder (Config.initial (guardProcess sampleInput) Table.empty ()) = some after ∧
      accepted sampleInput "user" after.trace = [5, 7])
  exact ⟨after, ran, accepts,
    nonces_not_replayed sampleInput inOrder after (by decide +kernel) ran⟩

/-- A request is sent twice, and both look the row up before one saves it. -/
def twice : List (Label (guardProcess sampleInput)) :=
  [.call (request "5"), .reply 0 .done, .reply 0 .done,
    .call (request "7"), .call (request "7"), .reply 1 .done, .reply 2 .done,
    .reply 1 .done, .reply 2 .done]

theorem nonce_replayed : ∃ after, run twice (Config.initial (guardProcess sampleInput) Table.empty ()) = some after ∧
      ¬ ReplaySafe sampleInput after := by
  obtain ⟨after, ran, accepts⟩ := (by decide +kernel : ∃ after,
    run twice (Config.initial (guardProcess sampleInput) Table.empty ()) = some after ∧
      accepted sampleInput "user" after.trace = [5, 7, 7])
  refine ⟨after, ran, fun safe => ?_⟩
  have increasing := safe.increasing "user"
  rw [accepts] at increasing
  exact absurd increasing (by decide)

end AlianStructure.Guarantees.ReplayGuard
