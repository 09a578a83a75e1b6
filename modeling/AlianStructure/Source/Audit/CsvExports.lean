import AlianStructure.Library.IsoDate
import AlianStructure.Source.Audit.ProvenanceService

/-!
# Exports of the audit as comma-separated values

Source: src/infrastructure/audit/provenance.service.ts:211-248, audit-log.service.ts:108-147 and
entities/audit-log.entity.ts. The records are those that the query of an export returns, in its order. The service that
signs a payload is a parameter.
-/
namespace AlianStructure.Source.Audit
open Library.JsonText Library.IsoDate

inductive AuditLogAction where
  | create | update | delete | login | logout | access | exported | permissionChange
  deriving DecidableEq

def AuditLogAction.text : AuditLogAction → String
  | .create => "CREATE"
  | .update => "UPDATE"
  | .delete => "DELETE"
  | .login => "LOGIN"
  | .logout => "LOGOUT"
  | .access => "ACCESS"
  | .exported => "EXPORT"
  | .permissionChange => "PERMISSION_CHANGE"

/-- The columns of a log that an export reads. -/
structure AuditLog where
  id : String
  userId : Option String
  action : AuditLogAction
  resourceType : Option String
  resourceId : Option String
  ipAddress : String
  createdAt : TimeValue
  deriving DecidableEq

structure SignedPayload where
  payload : String
  signature : String
  deriving DecidableEq

def toISOString (time : TimeValue) : String := String.ofList (isoText (Civil.ofTime time.milliseconds))

namespace ProvenanceService

def headers : List String :=
  ["id", "agentId", "userId", "action", "status", "provider", "providerModel", "createdAt", "recordHash", "signature"]

/-- A date without a time throws when it is written. -/
def isoOrThrow (createdAt : Nat) : Except Exception String :=
  match timeClip createdAt with
  | none => .error (.error "Invalid time value")
  | some time => .ok (toISOString time)

/-- An absent text and an empty one are the same. -/
def orEmpty (text : Option String) : String := text.getD ""

def csvRow (r : ProvenanceResponseDto) : Except Exception (List String) := do
  let createdAt ← isoOrThrow r.createdAt
  return [r.id, r.agentId, orEmpty r.userId, r.action.text, r.status.text, orEmpty r.provider, orEmpty r.providerModel,
    createdAt, r.recordHash, r.signature]

def exportProvenanceToCsv (records : List ProvenanceResponseDto) : Except Exception String :=
  if records.length = 0 then
    .ok "id,agentId,userId,action,status,provider,providerModel,createdAt,recordHash,signature\n"
  else do
    let rows ← records.mapM csvRow
    return "\n".intercalate (",".intercalate headers :: rows.map (",".intercalate ·))

end ProvenanceService

namespace AuditLogService

def header : List String := ["id", "userId", "action", "resourceType", "resourceId", "ipAddress", "createdAt"]

/-- The field of a log as JSON takes it; a date is its text there. -/
def field (log : AuditLog) : String → Option Json
  | "id" => some (.string log.id)
  | "userId" => log.userId.map .string
  | "action" => some (.string log.action.text)
  | "resourceType" => log.resourceType.map .string
  | "resourceId" => log.resourceId.map .string
  | "ipAddress" => some (.string log.ipAddress)
  | "createdAt" => some (.string (toISOString log.createdAt))
  | _ => none

def exportToCsv (sign : String → String) (logs : List AuditLog) : SignedPayload :=
  let rows := logs.map fun log =>
    ",".intercalate (header.map fun name => ((field log name).getD (.string "")).stringify)
  let payload := "\n".intercalate (",".intercalate header :: rows)
  { payload := payload, signature := sign payload }

end AuditLogService

end AlianStructure.Source.Audit
