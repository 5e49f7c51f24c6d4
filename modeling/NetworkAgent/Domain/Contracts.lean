import NetworkAgent.Domain.Validation

/-! The trigger that hands a candidate incident to the coordinator. -/
namespace NetworkAgent
open Checks (require)

/-- Trimmed text that may be empty. -/
structure ShortText where
  text : String
  trimmed : stripWhitespace text = text
  short : text.length ≤ 4096
  deriving DecidableEq

structure IncidentTrigger where
  messageId : Identifier
  workflowId : Identifier
  incidentId : Identifier
  traceId : Identifier
  idempotencyKey : Identifier
  sentAt : Instant
  incident : Incident
  summaryZh : ShortText
  deriving DecidableEq

def IncidentTrigger.messageType : String := "incident_trigger"

def IncidentTrigger.toJson (t : IncidentTrigger) : Json := .obj
  [("schema_version", .str schemaVersion), ("message_type", .str messageType),
   ("message_id", dumpId t.messageId), ("workflow_id", dumpId t.workflowId),
   ("incident_id", dumpId t.incidentId), ("trace_id", dumpId t.traceId),
   ("idempotency_key", dumpId t.idempotencyKey), ("sent_at", dumpTime "Z" t.sentAt),
   ("incident", t.incident.toJson), ("summary_zh", .str t.summaryZh.text)]

def IncidentTrigger.validate (h : Host) (t : IncidentTrigger) : Validation := do
  t.incident.modelValidate h
  requireText (t.incident.incidentId = t.incidentId)
    "incident.incident_id must match envelope incident_id"
  requireText (t.incident.traceId = t.traceId)
    "incident.trace_id must match envelope trace_id"

end NetworkAgent
