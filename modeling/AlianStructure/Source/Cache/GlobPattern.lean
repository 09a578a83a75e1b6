import AlianStructure.Library.Utf

/-!
# Glob patterns as regular expressions

Source: src/common/cache/cache.service.ts:376-384. The expression matches UTF-16 code units and has
no flags, so a dot matches every unit but a line terminator. All signs other than `*` and `?` are
escaped.
-/
namespace AlianStructure.Source.Cache

/-- The UTF-16 code units of a text. -/
def codeUnits (text : String) : List Nat := text.toList.flatMap Library.Utf.codeUnitsOf

inductive RegExpItem where
  | unit (codeUnit : Nat)
  | dot
  | dotStar
  deriving DecidableEq

def globToRegex (pattern : String) : List RegExpItem :=
  (codeUnits pattern).map fun codeUnit =>
    if codeUnit = '*'.toNat then .dotStar
    else if codeUnit = '?'.toNat then .dot
    else .unit codeUnit

def isLineTerminator (codeUnit : Nat) : Bool := [0x0a, 0x0d, 0x2028, 0x2029].contains codeUnit

/-- What can be left of a text after a run of dots. -/
def afterDots : List Nat → List (List Nat)
  | [] => [[]]
  | codeUnit :: rest =>
    (codeUnit :: rest) :: if isLineTerminator codeUnit then [] else afterDots rest

/-- The items match the whole text. -/
def matchesAll : List RegExpItem → List Nat → Bool
  | [], codeUnits => codeUnits.isEmpty
  | .unit expected :: items, codeUnit :: rest => codeUnit == expected && matchesAll items rest
  | .dot :: items, codeUnit :: rest => ! isLineTerminator codeUnit && matchesAll items rest
  | .unit _ :: _, [] | .dot :: _, [] => false
  | .dotStar :: items, codeUnits => (afterDots codeUnits).any (matchesAll items)

/-- `regex.test(key)` -/
def test (regex : List RegExpItem) (key : String) : Bool := matchesAll regex (codeUnits key)

end AlianStructure.Source.Cache
