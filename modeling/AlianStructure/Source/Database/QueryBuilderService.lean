import Mathlib.Data.List.Perm.Basic
import AlianStructure.Library.InsertionOrder

/-!
# The query builder

Source: src/common/database/query-builder/query-builder.service.ts:11-151,176-206. A query keeps its conditions with the
names of their parameters, and one value for each name. Values are of any type; `like` is the template that puts one
between two percent signs, and `spreads` tells the lists that are not empty: no other value can be spread after IN.
What a condition means for a row is up to the database.
-/
namespace AlianStructure.Source.Database
open Library.InsertionOrder

inductive SortOrder where
  | asc
  | desc
  deriving DecidableEq

inductive FilterOperator where
  | equal
  | notEqual
  | greater
  | less
  | greaterOrEqual
  | lessOrEqual
  | isIn
  | like
  | isNull
  | isNotNull
  deriving DecidableEq

structure Filter (Value : Type) where
  field : String
  operator : FilterOperator
  value : Value
  deriving DecidableEq

structure Having (Value : Type) where
  field : String
  operator : String
  value : Value
  deriving DecidableEq

structure Join where
  entity : String
  aliasName : String
  condition : String
  type : Option String
  deriving DecidableEq

/-- The options of a query. A value of `wheres` may be null or undefined; the lists may be empty. -/
structure QueryBuilderOptions (Value : Type) where
  select : List String := []
  wheres : List (String × Option Value) := []
  filters : List (Filter Value) := []
  orderBy : Option (String × SortOrder) := none
  groupBy : List String := []
  having : Option (Having Value) := none
  skip : Option Nat := none
  take : Option Nat := none
  join : List Join := []
  relations : List String := []
  deriving DecidableEq

/-- What stands after the operator of a condition. -/
inductive Operand where
  | nothing
  | parameter (name : String)
  | spread (name : String)
  deriving DecidableEq

structure Condition where
  field : String
  operator : FilterOperator
  operand : Operand
  deriving DecidableEq

structure Query (Value : Type) where
  selects : List String
  conditions : List Condition
  parameters : OrderedMap String Value
  joins : List Join
  relations : List String
  groupBys : List String
  having : Option (String × String × String)
  order : Option (String × SortOrder)
  skip : Option Nat
  take : Option Nat

namespace QueryBuilderService
variable {Value : Type}

def createQueryBuilder : Query Value := ⟨[], [], OrderedMap.empty, [], [], [], none, none, none, none⟩

/-- A condition, and the value of its parameter; an earlier value of the name is replaced. -/
def andWhere (query : Query Value) (condition : Condition) (binding : Option (String × Value)) : Query Value :=
  { query with
    conditions := query.conditions ++ [condition]
    parameters := match binding with
      | some (name, value) => query.parameters.set name value
      | none => query.parameters }

/-- The name of a parameter: the field with underscores for its dots. -/
def paramOf (field : String) : String := String.ofList (field.toList.map fun c => if c = '.' then '_' else c)

def applyWhere (query : Query Value) : String × Option Value → Query Value
  | (key, some value) => andWhere query ⟨key, .equal, .parameter key⟩ (some (key, value))
  | (_, none) => query

/-- A filter in `findAll`. -/
def applyFilter (like : Value → Value) (query : Query Value) (filter : Filter Value) : Query Value :=
  let param := paramOf filter.field
  match filter.operator with
  | .like => andWhere query ⟨filter.field, .like, .parameter param⟩ (some (param, like filter.value))
  | .isIn => andWhere query ⟨filter.field, .isIn, .spread param⟩ (some (param, filter.value))
  | .isNull => andWhere query ⟨filter.field, .isNull, .nothing⟩ none
  | .isNotNull => andWhere query ⟨filter.field, .isNotNull, .nothing⟩ none
  | operator => andWhere query ⟨filter.field, operator, .parameter param⟩ (some (param, filter.value))

/-- A filter in `count`. -/
def applyCountFilter (query : Query Value) (filter : Filter Value) : Query Value :=
  let param := paramOf filter.field
  if filter.operator = .isIn then andWhere query ⟨filter.field, .isIn, .spread param⟩ (some (param, filter.value))
  else andWhere query ⟨filter.field, filter.operator, .parameter param⟩ (some (param, filter.value))

def applyHaving (query : Query Value) : Option (Having Value) → Query Value
  | some having =>
    { query with
      having := some (having.field, having.operator, paramOf having.field)
      parameters := query.parameters.set (paramOf having.field) having.value }
  | none => query

/-- The query of `findAll`. Zero rows to skip or take are no limit. -/
def findAllQuery (like : Value → Value) (options : QueryBuilderOptions Value) : Query Value :=
  let query := { createQueryBuilder with selects := options.select }
  let query := options.wheres.foldl applyWhere query
  let query := options.filters.foldl (applyFilter like) query
  let query := { query with joins := options.join, relations := options.relations, groupBys := options.groupBy }
  let query := applyHaving query options.having
  { query with
    order := options.orderBy
    skip := options.skip.filter (· ≠ 0)
    take := options.take.filter (· ≠ 0) }

/-- The query of `count`. -/
def countQuery (options : QueryBuilderOptions Value) : Query Value :=
  options.filters.foldl applyCountFilter (options.wheres.foldl applyWhere createQueryBuilder)

end QueryBuilderService

/-- A field, an operator, and what it is compared with. -/
structure Test (Value : Type) where
  field : String
  operator : FilterOperator
  value : Option Value
  deriving DecidableEq

section Meaning
variable {Value : Type} (spreads : Value → Bool)

/-- The test that a condition stands for; none when it is no condition of the language. -/
def Condition.test (condition : Condition) (parameters : OrderedMap String Value) : Option (Test Value) :=
  match condition.operand, condition.operator with
  | .nothing, .isNull => some ⟨condition.field, .isNull, none⟩
  | .nothing, .isNotNull => some ⟨condition.field, .isNotNull, none⟩
  | .nothing, _ => none
  | .spread name, .isIn =>
    ((parameters.get? name).filter spreads).map fun value => ⟨condition.field, .isIn, some value⟩
  | .spread _, _ => none
  | .parameter _, .isNull | .parameter _, .isNotNull | .parameter _, .isIn => none
  | .parameter name, operator => (parameters.get? name).map fun value => ⟨condition.field, operator, some value⟩

def Query.tests (query : Query Value) : Option (List (Test Value)) :=
  query.conditions.mapM fun condition => condition.test spreads query.parameters

/-- A query of conditions only. -/
structure Query.Plain (query : Query Value) : Prop where
  joins : query.joins = []
  relations : query.relations = []
  groupBys : query.groupBys = []
  having : query.having = none
  skip : query.skip = none
  take : query.take = none

/-- The rows that pass tests. -/
def passing {Row : Type} (holds : Test Value → Row → Bool) (rows : List Row) (tests : List (Test Value)) : List Row :=
  rows.filter fun row => tests.all fun test => holds test row

/-- A table, and the answers to queries. A query of conditions has the rows that pass all of them, in some order; one
with a condition that is none is refused. -/
structure Repository {Value : Type} (spreads : Value → Bool) (Row : Type) where
  rows : List Row
  holds : Test Value → Row → Bool
  getManyAndCount : Query Value → Option (List Row × Nat)
  getCount : Query Value → Option Nat
  many : ∀ query tests, query.Plain → query.tests spreads = some tests →
    ∃ data, getManyAndCount query = some (data, data.length) ∧ data.Perm (passing holds rows tests)
  manyRefused : ∀ query, query.tests spreads = none → getManyAndCount query = none
  count : ∀ query tests, query.Plain → query.tests spreads = some tests →
    getCount query = some (passing holds rows tests).length
  countRefused : ∀ query, query.tests spreads = none → getCount query = none

end Meaning

namespace QueryBuilderService
variable {Value Row : Type} {spreads : Value → Bool} (like : Value → Value) (repository : Repository spreads Row)
  (options : QueryBuilderOptions Value)

/-- The rows and their number; none when the query is refused. -/
def findAll : Option (List Row × Nat) := repository.getManyAndCount (findAllQuery like options)

def count : Option Nat := repository.getCount (countQuery options)

end QueryBuilderService
end AlianStructure.Source.Database
