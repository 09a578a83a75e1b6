import AlianStructure.Library.JsonSelection
import AlianStructure.Library.Utf
import AlianStructure.Source.Cache.GlobPattern
import AlianStructure.Source.Oracle.PayloadJson

/-!
# The hashed text of a provenance record

Source: src/infrastructure/audit/provenance.service.ts:356-373,405-425. The list of names that is given
to `JSON.stringify` selects the members of every object, not only of the outermost one. A member
`__proto__` that is an object, an array or null becomes the prototype of a normalised object: it is no
key of it, but a name may be found there.
-/
namespace AlianStructure.Source.Audit
open Library.JsonText Library.JsonSelection
open Oracle (enumerate storedMembers)

inductive ProvenanceStatus where
  | pending | success | failed
  deriving DecidableEq

def ProvenanceStatus.text : ProvenanceStatus → String
  | .pending => "pending"
  | .success => "success"
  | .failed => "failed"

inductive ProvenanceAction where
  | requestReceived | providerCall | resultNormalization | submission | error
  deriving DecidableEq

def ProvenanceAction.text : ProvenanceAction → String
  | .requestReceived => "request_received"
  | .providerCall => "provider_call"
  | .resultNormalization => "result_normalization"
  | .submission => "submission"
  | .error => "error"

/-- An object: the keys of every object in it are different. -/
structure JsonObject where
  members : Members
  unique : (Json.object members).Everywhere List.Nodup

def JsonObject.json (object : JsonObject) : Json := .object object.members

structure CreateProvenanceRecordDto where
  agentId : String
  userId : Option String
  action : ProvenanceAction
  input : JsonObject
  output : Option JsonObject
  provider : Option String
  providerModel : Option String
  status : ProvenanceStatus
  error : Option String
  onChainTxHash : Option String
  processingDurationMs : Option Nat
  metadata : Option JsonObject
  clientIp : Option String
  userAgent : Option String

/-- The order of `sort`. -/
def unitsBefore (a b : String) : Prop := List.le (Cache.codeUnits a) (Cache.codeUnits b)

instance : DecidableRel unitsBefore := fun _ _ => inferInstanceAs (Decidable (List.le _ _))

theorem unitsBefore_antisymm {a b : String} (forth : unitsBefore a b) (back : unitsBefore b a) : a = b := by
  have same : Library.Utf.utf16.write a.toList = Library.Utf.utf16.write b.toList := List.le_antisymm forth back
  exact String.toList_inj.mp (Library.TextCode.write_injective _ same)

instance : Std.Total fun a b : String × Json => unitsBefore a.1 b.1 :=
  ⟨fun a b => List.le_total (Cache.codeUnits a.1) (Cache.codeUnits b.1)⟩

instance : IsTrans (String × Json) fun a b => unitsBefore a.1 b.1 :=
  ⟨fun _ _ _ => List.le_trans⟩

/-- Members with different keys have one order. -/
theorem ordered_unique {members moved : Members} (perm : moved.Perm members) (unique : (keysOf members).Nodup)
    (ordered : members.Pairwise fun a b => unitsBefore a.1 b.1)
    (movedOrdered : moved.Pairwise fun a b => unitsBefore a.1 b.1) : moved = members := by
  refine List.Perm.eq_of_pairwise (fun a b inA inB forth back => ?_) movedOrdered ordered perm
  exact List.inj_on_of_nodup_map unique (perm.subset inA) inB (unitsBefore_antisymm forth back)

/-- Members with different keys are sorted in one way. -/
theorem insertionSort_forgets {members moved : Members} (perm : moved.Perm members)
    (unique : (keysOf members).Nodup) :
    (moved.insertionSort fun a b => unitsBefore a.1 b.1) = members.insertionSort fun a b => unitsBefore a.1 b.1 := by
  have sorted := List.perm_insertionSort (fun a b : String × Json => unitsBefore a.1 b.1) members
  refine ordered_unique ?_ ((sorted.map Prod.fst).nodup_iff.mpr unique)
    (List.pairwise_insertionSort _ _) (List.pairwise_insertionSort _ _)
  exact ((List.perm_insertionSort _ _).trans perm).trans sorted.symm

def nonDeterministic : List String := ["timestamp", "createdAt", "updatedAt", "id"]

def isPrototype : Json → Bool
  | .null | .array _ | .object _ => true
  | .bool _ | .number _ | .string _ => false

/-- The members of a normalised object, with its prototype under `__proto__`. -/
def normalizeMembers (members : Members) : Members :=
  let kept := (members.filter fun member => ! nonDeterministic.contains member.1).insertionSort
    fun a b => unitsBefore a.1 b.1
  enumerate (kept.filter fun member => decide (member.1 ≠ "__proto__") || isPrototype member.2)

def normalizeForHash (data : Json) : Json := data.rearrange normalizeMembers

/-- The value of normalised data, without the prototypes. -/
def valueOf (normalized : Json) : Json :=
  normalized.rearrange fun members => members.filter fun member => decide (member.1 ≠ "__proto__")

/-- What an object has under a name, itself or from its prototype. -/
def property (members : Members) (name : String) : Option Json :=
  match members.lookup name with
  | some value => some value
  | none =>
    match members.lookup "__proto__" with
    | some (.object inherited) => inherited.lookup name
    | _ => none

/-- What is written of a value when a list of names is given. -/
def written (names : List String) (value : Json) : Json := value.rearrange (select property names)

def timeText (ms : Nat) : NumberText := NumberText.ofNat ms

/-- The data, with the fields that are undefined. -/
def dataToHash (dto : CreateProvenanceRecordDto) (now : Nat) : List (String × Option Json) :=
  [("agentId", some (.string dto.agentId)),
    ("userId", dto.userId.map .string),
    ("action", some (.string dto.action.text)),
    ("input", some (normalizeForHash dto.input.json)),
    ("provider", dto.provider.map .string),
    ("providerModel", dto.providerModel.map .string),
    ("status", some (.string dto.status.text)),
    ("timestamp", some (.number (timeText now)))]

def sortedString (dto : CreateProvenanceRecordDto) (now : Nat) : String :=
  let data := dataToHash dto now
  let names := (data.map Prod.fst).insertionSort unitsBefore
  (written names (.object (present data))).stringify

/-- The names, in their order. -/
def hashedNames : List String :=
  ["action", "agentId", "input", "provider", "providerModel", "status", "timestamp", "userId"]

theorem sorted_names (dto : CreateProvenanceRecordDto) (now : Nat) :
    ((dataToHash dto now).map Prod.fst).insertionSort unitsBefore = hashedNames := by
  have names : (dataToHash dto now).map Prod.fst = ["agentId", "userId", "action", "input", "provider",
      "providerModel", "status", "timestamp"] := rfl
  rw [names]
  decide

end AlianStructure.Source.Audit
