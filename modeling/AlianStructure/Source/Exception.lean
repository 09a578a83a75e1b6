/-!
# Case mapping and exceptions

`toLowerCase` and `toUpperCase` on ASCII text: addresses, hexadecimal digits and codes.
-/
namespace AlianStructure.Source

def toLowerCase (text : String) : String := String.ofList (text.toList.map Char.toLower)

def toUpperCase (text : String) : String := String.ofList (text.toList.map Char.toUpper)

/-!
## Exceptions

The exception classes the modelled services throw, with their messages.
-/

inductive Exception where
  | badRequest (message : String)
  | notFound (message : String)
  | unauthorized (message : String)
  | forbidden (message : String)
  | conflict (message : String)
  | preconditionFailed (message : String)
  | serviceUnavailable (message : String)
  | internalServerError (message : String)
  | error (message : String)
  deriving DecidableEq

def Exception.message : Exception → String
  | .badRequest message | .notFound message | .unauthorized message | .forbidden message
  | .conflict message | .preconditionFailed message | .serviceUnavailable message
  | .internalServerError message | .error message => message

end AlianStructure.Source
