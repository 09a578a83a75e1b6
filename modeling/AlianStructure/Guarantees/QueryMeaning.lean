import AlianStructure.Library.Failing
import AlianStructure.Source.Database.QueryBuilderService

/-!
# Queries that mean what their options say

Source: src/common/database/query-builder/query-builder.service.ts:54-151,176-206. Conditions on one field share the name
of their parameter, and with it the last value given; `count` has no percent signs around a text, and a value after a
test for null; IN with an empty list is no condition of the database.
-/
namespace AlianStructure.Guarantees.QueryMeaning
open Library.InsertionOrder Library.Failing Source Source.Database QueryBuilderService

variable {Value Row : Type} {spreads : Value → Bool}

/-- The options with a where object and filters only. -/
def plainOptions (wheres : List (String × Option Value)) (filters : List (Database.Filter Value)) : QueryBuilderOptions Value :=
  { wheres := wheres, filters := filters }

/-- What a filter asks of a row. -/
def filterTest (like : Value → Value) (filter : Database.Filter Value) : Test Value :=
  match filter.operator with
  | .isNull => ⟨filter.field, .isNull, none⟩
  | .isNotNull => ⟨filter.field, .isNotNull, none⟩
  | .like => ⟨filter.field, .like, some (like filter.value)⟩
  | operator => ⟨filter.field, operator, some filter.value⟩

/-- What a where object and filters ask of a row, all together. -/
def asked (like : Value → Value) (wheres : List (String × Option Value)) (filters : List (Database.Filter Value)) :
    List (Test Value) :=
  (wheres.filterMap fun entry => entry.2.map fun value => ⟨entry.1, .equal, some value⟩) ++
    filters.map (filterTest like)

/-- The rows are those that all options ask for, and their count is the total. -/
def Means (like : Value → Value) (repository : Repository spreads Row) (wheres : List (String × Option Value))
    (filters : List (Database.Filter Value)) : Prop :=
  ∃ data, findAll like repository (plainOptions wheres filters) = some (data, data.length) ∧
    data.Perm (passing repository.holds repository.rows (asked like wheres filters)) ∧
    count repository (plainOptions wheres filters) = some data.length

/-- The conditions with a value, under the names of their parameters; `reading` is the value that a filter gives. -/
def named (reading : Database.Filter Value → Value) (wheres : List (String × Option Value))
    (filters : List (Database.Filter Value)) :
    List (String × Test Value) :=
  (wheres.filterMap fun entry => entry.2.map fun value => (entry.1, ⟨entry.1, .equal, some value⟩)) ++
    filters.map fun filter => (paramOf filter.field, ⟨filter.field, filter.operator, some (reading filter)⟩)

def laterValue (name : String) (found : Option Value) (entry : String × Test Value) : Option Value :=
  if entry.1 = name then entry.2.value else found

/-- The value given last under a name. -/
def lastValue (tests : List (String × Test Value)) (name : String) : Option Value :=
  tests.foldl (laterValue name) none

/-- Every condition with the value given last under its name. -/
def rebound (tests : List (String × Test Value)) : List (Test Value) :=
  tests.map fun (name, test) => { test with value := lastValue tests name }

/-- A filter tests for null. -/
def NullTest (filter : Database.Filter Value) : Prop := filter.operator = .isNull ∨ filter.operator = .isNotNull

/-- The value that `findAll` gives for a filter. -/
def wrapped (like : Value → Value) (filter : Database.Filter Value) : Value :=
  if filter.operator = .like then like filter.value else filter.value

/-- No filter tests for null or for an empty list, and the last values leave the same conditions, with or without percent
signs. -/
structure Unmixed (like : Value → Value) (spreads : Value → Bool) (wheres : List (String × Option Value))
    (filters : List (Database.Filter Value)) : Prop where
  valued : ∀ filter ∈ filters, ¬ NullTest filter
  spread : ∀ filter ∈ filters, filter.operator = .isIn → spreads filter.value = true
  found : ∀ test, test ∈ rebound (named (wrapped like) wheres filters) ↔ test ∈ asked like wheres filters
  counted : ∀ test, test ∈ rebound (named Database.Filter.value wheres filters) ↔ test ∈ asked like wheres filters

/-! ## The queries -/

/-- The condition that a test under a name becomes. -/
def conditionOf (entry : String × Test Value) : Condition :=
  ⟨entry.2.field, entry.2.operator, if entry.2.operator = .isIn then .spread entry.1 else .parameter entry.1⟩

def bindOne (parameters : OrderedMap String Value) (entry : String × Test Value) : OrderedMap String Value :=
  match entry.2.value with
  | some value => parameters.set entry.1 value
  | none => parameters

/-- Bindings of names, one after another. -/
def bindAll (parameters : OrderedMap String Value) (tests : List (String × Test Value)) : OrderedMap String Value :=
  tests.foldl bindOne parameters

/-- A query that was given conditions with values. -/
structure Extends (before after : Query Value) (tests : List (String × Test Value)) : Prop where
  conditions : after.conditions = before.conditions ++ tests.map conditionOf
  parameters : after.parameters = bindAll before.parameters tests
  plain : before.Plain → after.Plain

theorem Extends.refl (query : Query Value) : Extends query query [] := ⟨(List.append_nil _).symm, rfl, id⟩

theorem Extends.trans {first second third : Query Value} {tests more : List (String × Test Value)}
    (one : Extends first second tests) (two : Extends second third more) : Extends first third (tests ++ more) where
  conditions := by rw [two.conditions, one.conditions, List.map_append, List.append_assoc]
  parameters := by rw [two.parameters, one.parameters, bindAll, bindAll, bindAll, List.foldl_append]
  plain := fun plain => two.plain (one.plain plain)

theorem applyWhere_extends (query : Query Value) (entry : String × Option Value) :
    Extends query (applyWhere query entry) ((entry.2.map fun value =>
      (entry.1, (⟨entry.1, .equal, some value⟩ : Test Value))).toList) := by
  obtain ⟨key, value⟩ := entry
  cases value with
  | none => exact Extends.refl query
  | some value => exact ⟨rfl, rfl, fun plain => ⟨plain.1, plain.2, plain.3, plain.4, plain.5, plain.6⟩⟩

theorem applyFilter_extends (like : Value → Value) (query : Query Value) {filter : Database.Filter Value}
    (valued : ¬ NullTest filter) : Extends query (applyFilter like query filter)
      [(paramOf filter.field, ⟨filter.field, filter.operator, some (wrapped like filter)⟩)] := by
  obtain ⟨field, operator, value⟩ := filter
  cases operator with
  | isNull => exact absurd (.inl rfl) valued
  | isNotNull => exact absurd (.inr rfl) valued
  | _ => exact ⟨rfl, rfl, fun plain => ⟨plain.1, plain.2, plain.3, plain.4, plain.5, plain.6⟩⟩

theorem applyCountFilter_extends (query : Query Value) (filter : Database.Filter Value) :
    Extends query (applyCountFilter query filter)
      [(paramOf filter.field, ⟨filter.field, filter.operator, some filter.value⟩)] := by
  obtain ⟨field, operator, value⟩ := filter
  cases operator <;> exact ⟨rfl, rfl, fun plain => ⟨plain.1, plain.2, plain.3, plain.4, plain.5, plain.6⟩⟩

theorem foldl_extends {Item : Type} (apply : Query Value → Item → Query Value)
    (tests : Item → List (String × Test Value)) : ∀ (items : List Item) (query : Query Value),
    (∀ item ∈ items, ∀ query, Extends query (apply query item) (tests item)) →
      Extends query (items.foldl apply query) (items.flatMap tests)
  | [], query, _ => Extends.refl query
  | item :: items, query, all =>
    (all item List.mem_cons_self query).trans
      (foldl_extends apply tests items _ fun other member => all other (List.mem_cons_of_mem _ member))

theorem named_eq_flatMap (reading : Database.Filter Value → Value) (wheres : List (String × Option Value))
    (filters : List (Database.Filter Value)) : named reading wheres filters =
      (wheres.flatMap fun entry => (entry.2.map fun value =>
        (entry.1, (⟨entry.1, .equal, some value⟩ : Test Value))).toList) ++ filters.flatMap fun filter =>
        [(paramOf filter.field, ⟨filter.field, filter.operator, some (reading filter)⟩)] := by
  rw [named, List.filterMap_eq_flatMap_toList, List.map_eq_flatMap]

theorem wheres_extends (wheres : List (String × Option Value)) (query : Query Value) :
    Extends query (wheres.foldl applyWhere query) (wheres.flatMap fun entry => (entry.2.map fun value =>
      (entry.1, (⟨entry.1, .equal, some value⟩ : Test Value))).toList) :=
  foldl_extends applyWhere _ wheres query fun entry _ query => applyWhere_extends query entry

variable {filters : List (Database.Filter Value)}

/-- The query of `findAll` has all conditions, with the values that it gives. -/
theorem findAllQuery_extends (like : Value → Value) (wheres : List (String × Option Value))
    (valued : ∀ filter ∈ filters, ¬ NullTest filter) :
    Extends createQueryBuilder (findAllQuery like (plainOptions wheres filters))
      (named (wrapped like) wheres filters) := by
  have built := (wheres_extends wheres (createQueryBuilder : Query Value)).trans
    (foldl_extends (applyFilter like) _ filters _ fun filter member query =>
      applyFilter_extends like query (valued filter member))
  rw [← named_eq_flatMap] at built
  exact ⟨built.conditions, built.parameters, fun _ => ⟨rfl, rfl, rfl, (built.plain ⟨rfl, rfl, rfl, rfl, rfl, rfl⟩).having, rfl, rfl⟩⟩

theorem countQuery_extends (wheres : List (String × Option Value)) (filters : List (Database.Filter Value)) :
    Extends createQueryBuilder (countQuery (plainOptions wheres filters)) (named Database.Filter.value wheres filters) := by
  have built := (wheres_extends wheres (createQueryBuilder : Query Value)).trans
    (foldl_extends applyCountFilter _ filters _ fun filter _ query => applyCountFilter_extends query filter)
  rwa [← named_eq_flatMap] at built

/-! ## The tests of a query -/

/-- All tests have a value, and an operator that takes one. -/
def Valued (tests : List (String × Test Value)) : Prop :=
  ∀ entry ∈ tests, entry.2.value ≠ none ∧ entry.2.operator ≠ .isNull ∧ entry.2.operator ≠ .isNotNull

theorem bindAll_get? (name : String) : ∀ (tests : List (String × Test Value)), Valued tests →
    ∀ parameters : OrderedMap String Value, (bindAll parameters tests).get? name =
      tests.foldl (laterValue name) (parameters.get? name)
  | [], _, _ => rfl
  | entry :: tests, valued, parameters => by
    obtain ⟨value, given⟩ := Option.ne_none_iff_exists'.mp (valued _ List.mem_cons_self).1
    have step : bindOne parameters entry = parameters.set entry.1 value := by rw [bindOne, given]
    have rest := bindAll_get? name tests (fun other member => valued other (List.mem_cons_of_mem _ member))
    rw [bindAll, List.foldl_cons, step, ← bindAll, rest, OrderedMap.get?_set, List.foldl_cons, laterValue, given]
    congr 1
    by_cases same : name = entry.1
    · rw [if_pos same, if_pos same.symm]
    · rw [if_neg same, if_neg (Ne.symm same)]

theorem lastValue_isSome (name : String) : ∀ (tests : List (String × Test Value)), Valued tests →
    ∀ found : Option Value, (found ≠ none ∨ ∃ test, (name, test) ∈ tests) →
      tests.foldl (laterValue name) found ≠ none
  | [], _, _, given => given.resolve_right fun ⟨_, member⟩ => nomatch member
  | entry :: tests, valued, found, given => by
    refine lastValue_isSome name tests (fun other member => valued other (List.mem_cons_of_mem _ member)) _ ?_
    by_cases same : entry.1 = name
    · rw [laterValue, if_pos same]
      exact .inl (valued _ List.mem_cons_self).1
    · rw [laterValue, if_neg same]
      refine given.imp_right fun ⟨test, member⟩ => ⟨test, ?_⟩
      rcases List.mem_cons.mp member with isFirst | later
      · exact absurd (congrArg Prod.fst isFirst).symm same
      · exact later

theorem conditionOf_test (parameters : OrderedMap String Value) (name : String) {test : Test Value}
    (notNull : test.operator ≠ .isNull) (notNotNull : test.operator ≠ .isNotNull) :
    (conditionOf (name, test)).test spreads parameters =
      ((parameters.get? name).filter fun value => decide (test.operator = .isIn → spreads value = true)).map
        fun value => { test with value := some value } := by
  obtain ⟨field, operator, value⟩ := test
  cases operator with
  | isNull => exact absurd rfl notNull
  | isNotNull => exact absurd rfl notNotNull
  | _ => cases isBound : parameters.get? name <;> simp [conditionOf, Condition.test, isBound, Option.filter]

/-- A value that is spread is a list that is not empty. -/
def Spread (spreads : Value → Bool) (tests : List (String × Test Value)) : Prop :=
  ∀ entry ∈ tests, entry.2.operator = .isIn → ∀ value ∈ lastValue tests entry.1, spreads value = true

section Built
variable {query : Query Value} {tests : List (String × Test Value)} (valued : Valued tests)
  (built : Extends createQueryBuilder query tests)
include valued built

theorem condition_test (spreads : Value → Bool) {name : String} {test : Test Value} (member : (name, test) ∈ tests) :
    ∃ value, lastValue tests name = some value ∧ (conditionOf (name, test)).test spreads query.parameters =
      if test.operator = .isIn → spreads value = true then some { test with value := some value } else none := by
  obtain ⟨-, notNull, notNotNull⟩ := valued _ member
  obtain ⟨value, last⟩ := Option.ne_none_iff_exists'.mp (lastValue_isSome name tests valued none (.inr ⟨test, member⟩))
  have found : query.parameters.get? name = some value := by
    rw [built.parameters]
    exact (bindAll_get? name tests valued OrderedMap.empty).trans last
  refine ⟨value, last, ?_⟩
  rw [conditionOf_test _ _ notNull notNotNull, found, Option.filter_some]
  by_cases fits : test.operator = .isIn → spreads value = true
  · rw [if_pos fits, if_pos (decide_eq_true fits)]
    rfl
  · rw [if_neg fits, if_neg (by simpa using fits)]
    rfl

theorem tests_of_extends (spread : Spread spreads tests) : query.tests spreads = some (rebound tests) := by
  have conditions : query.conditions = tests.map conditionOf := built.conditions
  rw [Query.tests, conditions, List.mapM_map]
  refine mapM_some tests fun ⟨name, test⟩ member => ?_
  obtain ⟨value, last, is⟩ := condition_test valued built spreads member
  rw [Function.comp_apply, is, if_pos fun isIn => spread _ member isIn value last]
  exact congrArg (fun value => some { test with value }) last.symm

/-- A query that is answered spreads no empty list. -/
theorem spread_of_tests (answered : query.tests spreads ≠ none) : Spread spreads tests := by
  intro ⟨name, test⟩ member isIn value isLast
  by_contra empty
  obtain ⟨same, last, is⟩ := condition_test valued built spreads member
  obtain rfl : same = value := Option.some.inj (last.symm.trans isLast)
  rw [if_neg fun fits => empty (fits isIn)] at is
  have conditions : query.conditions = tests.map conditionOf := built.conditions
  refine answered ?_
  rw [Query.tests, conditions]
  have listed : conditionOf (name, test) ∈ tests.map conditionOf := List.mem_map_of_mem member
  exact mapM_none (f := fun condition : Condition => condition.test spreads query.parameters) is _ listed

end Built

/-- The test of an IN filter, and of no other. -/
theorem filterTest_isIn {like : Value → Value} {filter : Database.Filter Value} {test : Test Value}
    (is : filterTest like filter = test) :
    test.operator = filter.operator ∧ (filter.operator = .isIn → test.value = some filter.value) := by
  obtain ⟨field, operator, value⟩ := filter
  subst is
  cases operator <;> exact ⟨rfl, fun isIn => by cases isIn <;> rfl⟩

section Left
variable {like : Value → Value} {wheres : List (String × Option Value)} {tests : List (String × Test Value)}

/-- The lists that are spread are those of filters when the last values leave the conditions that are asked. -/
theorem spread_last (own : ∀ filter ∈ filters, filter.operator = .isIn → spreads filter.value = true)
    (same : ∀ test ∈ rebound tests, test ∈ asked like wheres filters) : Spread spreads tests := by
  intro entry member isIn value isLast
  rcases List.mem_append.mp (same _ (List.mem_map_of_mem member)) with isWhere | isFilter
  · obtain ⟨given, -, found⟩ := List.mem_filterMap.mp isWhere
    obtain ⟨_, -, is⟩ := Option.map_eq_some_iff.mp found
    have equal : entry.2.operator = .equal := (congrArg Test.operator is).symm
    exact absurd (equal.symm.trans isIn) (by decide)
  · obtain ⟨filter, listed, is⟩ := List.mem_map.mp isFilter
    obtain ⟨operator, value⟩ := filterTest_isIn is
    have filterIn : filter.operator = .isIn := operator.symm.trans isIn
    obtain rfl := Option.some.inj ((value filterIn).symm.trans isLast)
    exact own filter listed filterIn

theorem spread_own (last : Spread spreads tests) (same : ∀ test ∈ asked like wheres filters, test ∈ rebound tests) :
    ∀ filter ∈ filters, filter.operator = .isIn → spreads filter.value = true := by
  intro filter member filterIn
  obtain ⟨entry, listed, is⟩ := List.mem_map.mp
    (same _ (List.mem_append_right _ (List.mem_map_of_mem member)))
  obtain ⟨operator, value⟩ := filterTest_isIn (is.symm : filterTest like filter = _)
  exact last entry listed (operator.trans filterIn) _ (value filterIn)

end Left

theorem named_valued (reading : Database.Filter Value → Value) (wheres : List (String × Option Value))
    (valued : ∀ filter ∈ filters, ¬ NullTest filter) : Valued (named reading wheres filters) := by
  intro entry member
  rcases List.mem_append.mp member with isWhere | isFilter
  · obtain ⟨⟨key, value⟩, -, found⟩ := List.mem_filterMap.mp isWhere
    obtain ⟨value, -, rfl⟩ := Option.map_eq_some_iff.mp found
    simp
  · obtain ⟨filter, listed, rfl⟩ := List.mem_map.mp isFilter
    have notNull := not_or.mp (valued filter listed)
    exact ⟨Option.some_ne_none _, notNull.1, notNull.2⟩

theorem countQuery_refused {wheres : List (String × Option Value)} {filter : Database.Filter Value}
    (member : filter ∈ filters) (isNull : NullTest filter) :
    (countQuery (plainOptions wheres filters)).tests spreads = none := by
  have built := countQuery_extends wheres filters
  have conditions : (countQuery (plainOptions wheres filters)).conditions =
      (named Database.Filter.value wheres filters).map conditionOf := built.conditions
  rw [Query.tests, conditions]
  refine mapM_none ?_ _ (List.mem_map_of_mem (List.mem_append_right _ (List.mem_map_of_mem member)))
  rcases isNull with operator | operator <;> simp [conditionOf, Condition.test, operator]

/-! ## Repositories -/

/-- A repository that answers queries of conditions, and no others. -/
def answering (spreads : Value → Bool) (rows : List Row) (holds : Test Value → Row → Bool) : Repository spreads Row where
  rows := rows
  holds := holds
  getManyAndCount query := (query.tests spreads).map fun tests =>
    (passing holds rows tests, (passing holds rows tests).length)
  getCount query := (query.tests spreads).map fun tests => (passing holds rows tests).length
  many query tests _ isTests := ⟨_, by rw [isTests]; rfl, List.Perm.refl _⟩
  manyRefused query refused := by rw [refused]; rfl
  count query tests _ isTests := by rw [isTests]; rfl
  countRefused query refused := by rw [refused]; rfl

theorem passing_congr (holds : Test Value → Row → Bool) (rows : List Row) {tests others : List (Test Value)}
    (same : ∀ test, test ∈ tests ↔ test ∈ others) : passing holds rows tests = passing holds rows others := by
  refine List.filter_congr fun row _ => ?_
  rw [Bool.eq_iff_iff, List.all_eq_true, List.all_eq_true]
  exact forall_congr' fun test => imp_congr (same test) Iff.rfl

variable [DecidableEq Value]

/-- Tests that select as many rows as others, whatever they mean, are the same tests. -/
theorem subset_of_passing {tests others : List (Test Value)}
    (same : ∀ holds : Test Value → Unit → Bool, (passing holds [()] tests).length = (passing holds [()] others).length)
    {test : Test Value} (member : test ∈ tests) : test ∈ others := by
  have lengths := same fun other _ => decide (other ≠ test)
  by_contra absent
  have fails : (tests.all fun other => decide (other ≠ test)) = false := by
    rw [List.all_eq_false]
    exact ⟨test, member, by simp⟩
  have passes : (others.all fun other => decide (other ≠ test)) = true := by
    rw [List.all_eq_true]
    exact fun other listed => decide_eq_true fun equal => absent (equal ▸ listed)
  rw [passing, passing, List.filter_singleton, List.filter_singleton, fails, passes] at lengths
  exact absurd lengths (by decide)

section Claim
variable (like : Value → Value) (spreads : Value → Bool) (wheres : List (String × Option Value))
  (filters : List (Database.Filter Value))

/-- Every table gives what the options say, whatever its conditions mean, exactly when they are not mixed up. -/
theorem means_iff : (∀ (Row : Type) (repository : Repository spreads Row), Means like repository wheres filters) ↔
    Unmixed like spreads wheres filters := by
  constructor
  · intro all
    have valued : ∀ filter ∈ filters, ¬ NullTest filter := by
      intro filter member isNull
      obtain ⟨data, -, -, counted⟩ := all Unit (answering spreads [] fun _ _ => true)
      rw [count, (answering spreads [] fun _ _ => true).countRefused _ (countQuery_refused member isNull)] at counted
      cases counted
    have findNamed := named_valued (wrapped like) wheres valued
    have countNamed := named_valued Database.Filter.value wheres valued
    have findBuilt := findAllQuery_extends like wheres valued
    have countBuilt := countQuery_extends wheres filters
    obtain ⟨_, answered, -, numbered⟩ := all Unit (answering spreads [] fun _ _ => true)
    have findSpread : Spread spreads (named (wrapped like) wheres filters) :=
      spread_of_tests findNamed findBuilt fun refused => by
        rw [findAll, (answering spreads [] fun _ _ => true).manyRefused _ refused] at answered
        cases answered
    have countSpread : Spread spreads (named Database.Filter.value wheres filters) :=
      spread_of_tests countNamed countBuilt fun refused => by
        rw [count, (answering spreads [] fun _ _ => true).countRefused _ refused] at numbered
        cases numbered
    have findTests := tests_of_extends findNamed findBuilt findSpread
    have countTests := tests_of_extends countNamed countBuilt countSpread
    have lengths : ∀ holds : Test Value → Unit → Bool,
        (passing holds [()] (rebound (named (wrapped like) wheres filters))).length =
          (passing holds [()] (asked like wheres filters)).length ∧
        (passing holds [()] (rebound (named Database.Filter.value wheres filters))).length =
          (passing holds [()] (asked like wheres filters)).length := by
      intro holds
      obtain ⟨data, found, perm, counted⟩ := all Unit (answering spreads [()] holds)
      have isFound : findAll like (answering spreads [()] holds) (plainOptions wheres filters) = some
          (passing holds [()] (rebound (named (wrapped like) wheres filters)),
            (passing holds [()] (rebound (named (wrapped like) wheres filters))).length) := by
        exact congrArg (Option.map fun tests => (passing holds [()] tests, (passing holds [()] tests).length)) findTests
      have isCount : count (answering spreads [()] holds) (plainOptions wheres filters) =
          some (passing holds [()] (rebound (named Database.Filter.value wheres filters))).length := by
        exact congrArg (Option.map fun tests => (passing holds [()] tests).length) countTests
      rw [isFound] at found
      rw [isCount] at counted
      cases found
      have size := perm.length_eq
      exact ⟨size, (Option.some.inj counted).trans size⟩
    have left : ∀ test ∈ asked like wheres filters, test ∈ rebound (named (wrapped like) wheres filters) :=
      fun test => subset_of_passing fun holds => (lengths holds).1.symm
    refine ⟨valued, spread_own findSpread left, fun test => ⟨?_, left test⟩, fun test => ⟨?_, ?_⟩⟩
    · exact subset_of_passing fun holds => (lengths holds).1
    · exact subset_of_passing fun holds => (lengths holds).2
    · exact subset_of_passing fun holds => (lengths holds).2.symm
  · rintro ⟨valued, spread, found, counted⟩ Row repository
    have findBuilt := findAllQuery_extends like wheres valued
    have countBuilt := countQuery_extends wheres filters
    have empty : (createQueryBuilder : Query Value).Plain := ⟨rfl, rfl, rfl, rfl, rfl, rfl⟩
    obtain ⟨data, answer, perm⟩ := repository.many _ _ (findBuilt.plain empty)
      (tests_of_extends (named_valued _ wheres valued) findBuilt (spread_last spread fun test => (found test).mp))
    have counts := repository.count _ _ (countBuilt.plain empty)
      (tests_of_extends (named_valued _ wheres valued) countBuilt (spread_last spread fun test => (counted test).mp))
    rw [passing_congr _ _ found] at perm
    rw [passing_congr _ _ counted, ← perm.length_eq] at counts
    exact ⟨data, answer, perm, counts⟩

end Claim

/-- The bounds of a range. -/
def between (test : Test Nat) (row : Nat) : Bool :=
  test.value.any fun value =>
    match test.operator with
    | .greaterOrEqual => decide (row ≥ value)
    | .lessOrEqual => decide (row ≤ value)
    | _ => false

/-- Two bounds on one field become the second one twice. -/
theorem range_lost : ¬ ∀ (wheres : List (String × Option Nat)) (filters : List (Database.Filter Nat))
    (repository : Repository (fun _ : Nat => false) Nat), Means id repository wheres filters := by
  intro all
  obtain ⟨data, found, perm, -⟩ := all [] [⟨"age", .greaterOrEqual, 18⟩, ⟨"age", .lessOrEqual, 65⟩] (answering (fun _ => false) [30] between)
  have nothing : findAll id (answering (fun _ => false) [30] between)
      (plainOptions [] [⟨"age", .greaterOrEqual, 18⟩, ⟨"age", .lessOrEqual, 65⟩]) = some ([], 0) := by decide
  rw [nothing] at found
  cases found
  exact absurd perm.length_eq (by decide)

end AlianStructure.Guarantees.QueryMeaning
