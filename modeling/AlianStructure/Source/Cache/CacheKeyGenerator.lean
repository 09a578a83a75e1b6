import AlianStructure.Source.Audit.RecordHash
import AlianStructure.Source.Cache.CacheService

/-!
# The keys of cached results

Source: src/common/cache/cache-key.generator.ts:35-93. An object is serialised after its members have been assigned,
in the order of their keys, to a new one; to assign `__proto__` sets the prototype and adds no member. A number that is
too large for a double is serialised as null. The truncated SHA-256 is a parameter.
-/
namespace AlianStructure.Source.Cache
open Library.JsonText
open Audit (unitsBefore)
open Oracle (enumerate)

/-- A number other than -0; a JSON text may hold one that is too large for a double. -/
inductive JsonNumber where
  | finite (text : NumberText)
  | infinite (negative : Bool)

/-- What JSON.parse returns. -/
inductive JsonValue where
  | null
  | bool (value : Bool)
  | number (value : JsonNumber)
  | string (text : String)
  | array (items : List JsonValue)
  | object (members : List (String × JsonValue))

mutual

/-- No object has two members with one key. -/
def JsonValue.Unique : JsonValue → Prop
  | .array items => ItemsUnique items
  | .object members => (members.map Prod.fst).Nodup ∧ MembersUnique members
  | .null | .bool _ | .number _ | .string _ => True

def ItemsUnique : List JsonValue → Prop
  | [] => True
  | item :: rest => item.Unique ∧ ItemsUnique rest

def MembersUnique : List (String × JsonValue) → Prop
  | [] => True
  | member :: rest => MemberUnique member ∧ MembersUnique rest

def MemberUnique : String × JsonValue → Prop
  | (_, value) => value.Unique

end

/-- The arguments of a call. -/
structure Arguments where
  items : List JsonValue
  unique : ItemsUnique items

namespace CacheKeyGenerator

/-- `sorted[k] = value[k]` -/
def assign (sorted : Members) (member : String × Json) : Members :=
  if member.1 = "__proto__" then sorted else sorted ++ [member]

/-- The members of an object in the order in which they are serialised. -/
def sortedMembers (members : Members) : Members :=
  enumerate ((members.insertionSort fun a b => unitsBefore a.1 b.1).foldl assign [])

mutual

/-- What is serialised of a value. -/
def jsonReplacer : JsonValue → Json
  | .null | .number (.infinite _) => .null
  | .bool value => .bool value
  | .number (.finite text) => .number text
  | .string text => .string text
  | .array items => .array (replacedItems items)
  | .object members => .object (sortedMembers (replacedMembers members))

def replacedItems : List JsonValue → List Json
  | [] => []
  | item :: rest => jsonReplacer item :: replacedItems rest

def replacedMembers : List (String × JsonValue) → Members
  | [] => []
  | member :: rest => replacedMember member :: replacedMembers rest

def replacedMember : String × JsonValue → String × Json
  | (key, value) => (key, jsonReplacer value)

end

def hashArgs (truncatedHash : String → String) (args : List JsonValue) : String :=
  truncatedHash (Json.array (replacedItems args)).stringify

end CacheKeyGenerator

/-- The fields of a generator. -/
structure KeyGenerator where
  keyPrefix : String
  version : String
  truncatedHash : String → String

def KeyGenerator.generate (generator : KeyGenerator) (namespace_ : String) (args : Arguments) : String :=
  generator.keyPrefix ++ generator.version ++ ":" ++ namespace_ ++ ":" ++
    CacheKeyGenerator.hashArgs generator.truncatedHash args.items

end AlianStructure.Source.Cache
