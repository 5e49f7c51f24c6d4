import NetworkAgent.Domain.Privacy

/-! The JSON dump of the domain models, and the hashes and identities computed from it. -/
namespace NetworkAgent

/-- The last `width` decimal digits of a number. -/
def digits : Nat → Nat → List Char
  | 0, _ => []
  | width + 1, n => digits width (n / 10) ++ [Nat.digitChar (n % 10)]

/-- Year, month and day of a number of days since the epoch, in the Gregorian calendar. -/
def civilDate (days : Int) : Int × Nat × Nat :=
  let z := days + 719468
  let era := z.fdiv 146097
  let doe := (z - era * 146097).toNat
  let yoe := (doe - doe / 1460 + doe / 36524 - doe / 146096) / 365
  let doy := doe - (365 * yoe + yoe / 4 - yoe / 100)
  let mp := (5 * doy + 2) / 153
  let month := if mp < 10 then mp + 3 else mp - 9
  (yoe + era * 400 + (if month ≤ 2 then 1 else 0), month, doy - (153 * mp + 2) / 5 + 1)

def dateChars (year month day : Nat) : List Char :=
  digits 4 year ++ '-' :: digits 2 month ++ '-' :: digits 2 day

/-- The microseconds are left out when there are none. -/
def fractionChars (micros : Nat) : List Char := if micros = 0 then [] else '.' :: digits 6 micros

def timeChars (seconds micros : Nat) : List Char :=
  digits 2 (seconds / 3600) ++ ':' :: digits 2 (seconds / 60 % 60) ++ ':' :: digits 2 (seconds % 60) ++
    fractionChars micros

/-- How an instant is written; years have four digits. A model dump writes the zone as `Z`,
`isoformat` as `+00:00`. -/
def isoText (zone : String) (t : Instant) : String :=
  let date := civilDate (t.fdiv 86400000000)
  let rest := (t.fmod 86400000000).toNat
  String.ofList (dateChars date.1.toNat date.2.1 date.2.2 ++
    'T' :: timeChars (rest / 1000000) (rest % 1000000)) ++ zone

example : isoText "Z" 1709210096789000 = "2024-02-29T12:34:56.789000Z" := by decide

def dumpTime (zone : String) (t : Instant) : Json := .str (isoText zone t)

def optional {α : Type} (dump : α → Json) : Option α → Json
  | none => .null
  | some a => dump a

def dumpId {p : Char → Bool} {bound : Nat} (s : Text.Bounded p bound) : Json := .str s.text
def dumpDigest (d : Sha256.Digest) : Json := .str d.text
def dumpStrings (fields : List (String × String)) : Json :=
  .obj (fields.map fun f => (f.1, .str f.2))
def dumpList {α : Type} (dump : α → Json) (xs : List α) : Json := .arr (xs.map dump)

def ResourceReference.toJson (r : ResourceReference) : Json := .obj
  [("schema_version", .str schemaVersion), ("resource_id", dumpId r.resourceId),
   ("resource_type", .str r.resourceType.value), ("name", optional dumpId r.name),
   ("technology", optional (fun t => .str t.value) r.technology),
   ("vendor_profile", optional dumpId r.vendorProfile),
   ("parent_resource_id", optional dumpId r.parentResourceId),
   ("location_id", optional dumpId r.locationId), ("external_ids", dumpStrings r.externalIds),
   ("attributes", .obj r.attributes)]

/-- `stable_identity`: every stable field used to authorize this exact resource. -/
def ResourceReference.stableIdentity (r : ResourceReference) : Json := .obj
  [("resource_id", dumpId r.resourceId), ("resource_type", .str r.resourceType.value),
   ("technology", optional (fun t => .str t.value) r.technology),
   ("vendor_profile", optional dumpId r.vendorProfile),
   ("location_id", optional dumpId r.locationId),
   ("parent_resource_id", optional dumpId r.parentResourceId),
   ("external_ids", dumpStrings r.externalIds)]

def KpiViolation.dump (zone : String) (k : KpiViolation) : Json := .obj
  [("schema_version", .str schemaVersion), ("violation_id", optional dumpId k.violationId),
   ("kpi_name", dumpId k.kpiName), ("observed_value", .float k.observedValue),
   ("threshold_value", .float k.thresholdValue), ("comparator", .str k.comparator.value),
   ("unit", optional .str k.unit), ("window_start", optional (dumpTime zone) k.windowStart),
   ("window_end", optional (dumpTime zone) k.windowEnd), ("rule_id", optional dumpId k.ruleId),
   ("rule_version", optional dumpId k.ruleVersion),
   ("resource_ids", dumpList dumpId k.resourceIds), ("dimensions", dumpStrings k.dimensions)]

def EvidenceReference.dump (zone : String) (e : EvidenceReference) : Json := .obj
  [("schema_version", .str schemaVersion), ("evidence_id", dumpId e.evidenceId),
   ("evidence_type", .str e.evidenceType.value), ("uri", dumpId e.uri),
   ("source", optional dumpId e.source), ("summary", optional .str e.summary),
   ("collected_at", optional (dumpTime zone) e.collectedAt),
   ("content_type", optional dumpId e.contentType),
   ("checksum_sha256", optional .str e.checksumSha256), ("attributes", .obj e.attributes)]

def RemediationAction.dump (zone : String) (a : RemediationAction) : Json := .obj
  [("schema_version", .str schemaVersion), ("action_id", dumpId a.actionId),
   ("action_type", dumpId a.actionType), ("description", optional .str a.description),
   ("target_resources", dumpList ResourceReference.toJson a.targetResources),
   ("parameters", .obj a.parameters), ("risk_level", .str a.riskLevel.value),
   ("requires_approval", .bool true), ("reversible", .bool a.reversible),
   ("rollback_plan", optional .str a.rollbackPlan),
   ("expected_outcome", optional .str a.expectedOutcome),
   ("idempotency_key", optional dumpId a.idempotencyKey), ("created_at", dumpTime zone a.createdAt)]

def RcaReport.dump (zone : String) (r : RcaReport) : Json := .obj
  [("schema_version", .str schemaVersion), ("report_id", dumpId r.reportId),
   ("incident_id", dumpId r.incidentId), ("version", .int r.version),
   ("status", .str r.status.value), ("title", optional .str r.title),
   ("summary", .str r.summary), ("hypotheses", dumpList .str r.hypotheses),
   ("root_cause", optional .str r.rootCause), ("conclusion", .str r.conclusion.value),
   ("confidence", optional .float r.confidence),
   ("evidence_refs", dumpList (EvidenceReference.dump zone) r.evidenceRefs),
   ("recommendations", dumpList (RemediationAction.dump zone) r.recommendations),
   ("generated_by", optional .str r.generatedBy), ("model_metadata", .obj r.modelMetadata),
   ("created_at", dumpTime zone r.createdAt)]

def ApprovalDecision.dump (zone : String) (d : ApprovalDecision) : Json := .obj
  [("schema_version", .str schemaVersion), ("approval_id", dumpId d.approvalId),
   ("request_id", dumpId d.requestId), ("sequence", .int d.sequence),
   ("incident_id", dumpId d.incidentId), ("report_id", dumpId d.reportId),
   ("report_version", .int d.reportVersion), ("subject_id", dumpId d.subjectId),
   ("status", .str d.status.value), ("approval_type", .str d.approvalType.value),
   ("action_hash", optional dumpDigest d.actionHash),
   ("scope", dumpList ResourceReference.toJson d.scope),
   ("requested_by", optional dumpId d.requestedBy), ("decided_by", optional dumpId d.decidedBy),
   ("reason", optional .str d.reason), ("requested_at", dumpTime zone d.requestedAt),
   ("decided_at", optional (dumpTime zone) d.decidedAt),
   ("expires_at", optional (dumpTime zone) d.expiresAt),
   ("idempotency_key", dumpId d.idempotencyKey)]

def ActionRun.dump (zone : String) (r : ActionRun) : Json := .obj
  [("schema_version", .str schemaVersion), ("action_run_id", dumpId r.actionRunId),
   ("incident_id", optional dumpId r.incidentId), ("action_id", dumpId r.actionId),
   ("action_hash", optional dumpDigest r.actionHash), ("status", .str r.status.value),
   ("idempotency_key", optional dumpId r.idempotencyKey), ("attempt", .int r.attempt),
   ("started_at", optional (dumpTime zone) r.startedAt),
   ("finished_at", optional (dumpTime zone) r.finishedAt),
   ("output_summary", optional .str r.outputSummary), ("error", optional dumpId r.error),
   ("metadata", .obj r.metadata)]

def VerificationRun.dump (zone : String) (v : VerificationRun) : Json := .obj
  [("schema_version", .str schemaVersion), ("verification_id", dumpId v.verificationId),
   ("incident_id", optional dumpId v.incidentId),
   ("action_run_ids", dumpList dumpId v.actionRunIds), ("status", .str v.status.value),
   ("checks", dumpList .str v.checks),
   ("observed_kpis", dumpList (KpiViolation.dump zone) v.observedKpis),
   ("evidence_refs", dumpList (EvidenceReference.dump zone) v.evidenceRefs),
   ("summary", optional .str v.summary), ("error", optional dumpId v.error),
   ("started_at", optional (dumpTime zone) v.startedAt),
   ("finished_at", optional (dumpTime zone) v.finishedAt),
   ("metadata", .obj v.metadata)]

def IncidentAuditEvent.toJson (e : IncidentAuditEvent) : Json := .obj
  [("schema_version", .str schemaVersion), ("event_id", dumpId e.eventId),
   ("incident_id", dumpId e.incidentId),
   ("from_status", optional (fun s => .str s.value) e.fromStatus),
   ("to_status", .str e.toStatus.value), ("revision", .int e.revision),
   ("occurred_at", dumpTime "Z" e.occurredAt), ("actor", dumpId e.actor),
   ("reason", dumpId e.reason),
   ("idempotency_key", dumpId e.idempotencyKey), ("trace_id", dumpId e.traceId)]

def SourceEventAssociation.toJson (a : SourceEventAssociation) : Json := .obj
  [("schema_version", .str schemaVersion), ("incident_id", dumpId a.incidentId),
   ("source_event_id", dumpId a.sourceEventId), ("registered_at", dumpTime "Z" a.registeredAt),
   ("actor", dumpId a.actor), ("reason", dumpId a.reason),
   ("idempotency_key", dumpId a.idempotencyKey), ("trace_id", dumpId a.traceId)]

def Incident.fields (zone : String) (i : Incident) : Dict :=
  [("schema_version", .str schemaVersion), ("incident_id", dumpId i.incidentId),
   ("correlation_key", optional dumpId i.correlationKey),
   ("source_event_ids", dumpList dumpId i.sourceEventIds), ("technology", .str i.technology.value),
   ("vendor_profile", optional dumpId i.vendorProfile), ("status", .str i.status.value),
   ("severity", .str i.severity.value), ("title", .str i.title),
   ("description", .str i.description),
   ("affected_resources", dumpList ResourceReference.toJson i.affectedResources),
   ("detected_at", dumpTime zone i.detectedAt),
   ("window_start", optional (dumpTime zone) i.windowStart),
   ("window_end", optional (dumpTime zone) i.windowEnd),
   ("violated_kpis", dumpList (KpiViolation.dump zone) i.violatedKpis),
   ("evidence_refs", dumpList (EvidenceReference.dump zone) i.evidenceRefs),
   ("hypotheses", dumpList .str i.hypotheses), ("root_cause", optional .str i.rootCause),
   ("rca_reports", dumpList (RcaReport.dump zone) i.rcaReports),
   ("recommendations", dumpList (RemediationAction.dump zone) i.recommendations),
   ("approvals", dumpList (ApprovalDecision.dump zone) i.approvals),
   ("action_runs", dumpList (ActionRun.dump zone) i.actionRuns),
   ("verification_runs", dumpList (VerificationRun.dump zone) i.verificationRuns),
   ("model_metadata", .obj i.modelMetadata), ("rule_versions", dumpStrings i.ruleVersions),
   ("trace_id", dumpId i.traceId), ("duplicate_of", optional dumpId i.duplicateOf),
   ("created_at", dumpTime zone i.createdAt), ("updated_at", dumpTime zone i.updatedAt),
   ("revision", .int i.revision)]

def Incident.toJson (i : Incident) : Json := .obj (i.fields "Z")

/-! Hashes and identities. -/

def Host.stableHash (h : Host) (value : Json) : Sha256.Digest := h.sha256 (h.canonicalJson value)

def canonicalResourceIdentity (h : Host) (r : ResourceReference) : List Nat :=
  h.canonicalJson r.stableIdentity

def resourceScopeIdentity (h : Host) (resources : List ResourceReference) : List (List Nat) :=
  (resources.map (canonicalResourceIdentity h)).insertionSort fun a b => bytesLe a b

def RemediationAction.parameterHash (h : Host) (a : RemediationAction) : Sha256.Digest :=
  h.stableHash (.obj a.parameters)

/-- `compute_action_hash`: the semantic action without volatile ids or timestamps. -/
def RemediationAction.actionHash (h : Host) (a : RemediationAction) : Sha256.Digest :=
  let targets := (a.targetResources.map ResourceReference.stableIdentity).insertionSort
    fun x y => bytesLe (h.canonicalJson x) (h.canonicalJson y)
  h.stableHash <| .obj
    [("action_type", dumpId a.actionType), ("description", optional .str a.description),
     ("risk_level", .str a.riskLevel.value), ("reversible", .bool a.reversible),
     ("rollback_plan", optional .str a.rollbackPlan),
     ("expected_outcome", optional .str a.expectedOutcome),
     ("parameter_hash", dumpDigest (a.parameterHash h)), ("targets", .arr targets)]

end NetworkAgent
