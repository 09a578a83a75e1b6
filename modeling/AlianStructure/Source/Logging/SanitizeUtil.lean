import AlianStructure.Source.Common.BigIntText

/-!
# Sanitized log values

Source: src/logging/sanitize.util.ts:17-64,83-146. An object is the list of its entries, of which one under `__proto__`
is its prototype in a result; a number or a boolean is a leaf; and no extra fields are an empty list of them.
`toLowerCase` is an argument.
-/
namespace AlianStructure.Source.Logging

inductive LogValue (Leaf : Type) where
  | null
  | missing
  | text (value : String)
  | leaf (value : Leaf)
  | date (value : Leaf)
  | array (items : List (LogValue Leaf))
  | object (entries : List (String × LogValue Leaf))

def SENSITIVE_FIELDS : List String :=
  ["password", "passwordconfirm", "oldpassword", "newpassword", "currentpassword", "confirmpassword", "token",
    "accesstoken", "refreshtoken", "idtoken", "authtoken", "sessiontoken", "bearertoken", "secret", "apikey", "api_key",
    "clientsecret", "client_secret", "clientid", "ssn", "socialsecuritynumber", "creditcard", "cardnumber", "cvv", "cvc",
    "pin", "dateofbirth", "dob", "privatekey", "private_key", "mnemonic", "seed", "seedphrase", "walletpassphrase",
    "keystorepassword", "databasepassword", "db_password", "smtppassword", "smtp_password", "redispassword",
    "redis_password"]

def REDACTED : String := "[REDACTED]"

def MAX_DEPTH : Nat := 8

def MAX_ARRAY_LENGTH : Nat := 50

/-- What `replace(/[-_\s]/g, "")` leaves. -/
def stripped (text : String) : String :=
  String.ofList (text.toList.filter fun c => !(c == '-' || c == '_' || Common.isBlank c))

def isPrimitive {Leaf : Type} : LogValue Leaf → Bool
  | .missing | .text _ | .leaf _ => true
  | .null | .date _ | .array _ | .object _ => false

/-- `out[key] = val`: under `__proto__` an object, or null, becomes the prototype, and a primitive value nothing. -/
def assign {Leaf : Type} (entry : String × LogValue Leaf) (out : List (String × LogValue Leaf)) :
    List (String × LogValue Leaf) :=
  if entry.1 = "__proto__" ∧ isPrimitive entry.2 = true then out else entry :: out

section Sanitize
variable {Leaf : Type} (toLowerCase : String → String) (extraSensitiveFields : List String)

def isSensitive (key : String) : Bool :=
  let lower := stripped (toLowerCase key)
  SENSITIVE_FIELDS.contains lower || extraSensitiveFields.contains lower

mutual

def sanitizeValue (depth : Nat) : LogValue Leaf → LogValue Leaf
  | .null => .null
  | .missing => .missing
  | .text value => if MAX_DEPTH < depth then .text "[MAX_DEPTH]" else .text value
  | .leaf value => if MAX_DEPTH < depth then .text "[MAX_DEPTH]" else .leaf value
  | .date value => if MAX_DEPTH < depth then .text "[MAX_DEPTH]" else .date value
  | .array items =>
    if MAX_DEPTH < depth then .text "[MAX_DEPTH]" else .array (sanitizeItems (depth + 1) MAX_ARRAY_LENGTH items)
  | .object entries =>
    if MAX_DEPTH < depth then .text "[MAX_DEPTH]" else .object (sanitizeObject depth entries)

/-- The first items, as many as there is room for. -/
def sanitizeItems (depth : Nat) : Nat → List (LogValue Leaf) → List (LogValue Leaf)
  | _, [] => []
  | 0, _ :: _ => []
  | room + 1, item :: items => sanitizeValue depth item :: sanitizeItems depth room items

def sanitizeObject (depth : Nat) : List (String × LogValue Leaf) → List (String × LogValue Leaf)
  | [] => []
  | entry :: entries => assign (sanitizeEntry depth entry) (sanitizeObject depth entries)

def sanitizeEntry (depth : Nat) : String × LogValue Leaf → String × LogValue Leaf
  | (key, val) =>
    (key, if isSensitive toLowerCase extraSensitiveFields key then .text REDACTED else sanitizeValue (depth + 1) val)

end
end Sanitize

end AlianStructure.Source.Logging
