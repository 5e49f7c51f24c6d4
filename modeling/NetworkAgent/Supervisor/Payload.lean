import NetworkAgent.Supervisor.Fields

/-! The canonical payloads the supervisor accepts: one validator for each kind of object, and
the payload as a whole. -/
namespace NetworkAgent.Supervisor

def commonFields : List String :=
  ["schema_version", "message_type", "message_id", "workflow_id", "trace_id", "idempotency_key",
    "sent_at"]

inductive MessageType where
  | scanRequest | candidatePage | confirmationRequest | confirmationResult | analyzeRequest | error
  deriving DecidableEq

namespace MessageType

def value : MessageType → String
  | .scanRequest => "assurance_scan_request"
  | .candidatePage => "assurance_candidate_page"
  | .confirmationRequest => "assurance_confirmation_request"
  | .confirmationResult => "assurance_confirmation_result"
  | .analyzeRequest => "assurance_analyze_request"
  | .error => "assurance_error"

def all : List MessageType :=
  [.scanRequest, .candidatePage, .confirmationRequest, .confirmationResult, .analyzeRequest, .error]

def parse (s : String) : Option MessageType := all.find? (·.value == s)

@[simp] theorem parse_value (t : MessageType) : parse t.value = some t := by
  cases t <;> decide

theorem value_of_parse {s : String} {t : MessageType} (parsed : parse s = some t) :
    t.value = s := by
  have found := List.find?_some parsed
  simpa using found

def fields : MessageType → List String
  | .scanRequest =>
    commonFields ++ ["window_start", "window_end", "resource_ids", "page_size", "page_offset"]
  | .candidatePage =>
    commonFields ++ ["request_message_id", "candidates", "page_size", "page_offset",
      "total_candidates", "has_more", "challenge_id", "snapshot_sha256", "challenge_expires_at",
      "effective_window_start", "effective_window_end", "summary_zh"]
  | .confirmationRequest =>
    commonFields ++ ["preview_message_id", "candidate_id", "challenge_id", "snapshot_sha256",
      "decision", "reason"]
  | .confirmationResult =>
    commonFields ++ ["request_message_id", "preview_message_id", "candidate_id", "decision",
      "actor", "outcome", "incident", "summary_zh"]
  | .analyzeRequest => commonFields ++ ["incident_id", "requested_report_version"]
  | .error => ["schema_version", "message_type", "message_id", "error_code", "summary_zh", "sent_at"]

end MessageType

def candidateFields : List String :=
  ["candidate_id", "title", "technology", "window_start", "window_end", "affected_resources",
    "violated_kpis", "summary_zh"]

def candidateResourceFields : List String := ["resource_id", "resource_type", "technology"]

def candidateKpiFields : List String :=
  ["kpi_name", "observed_value", "threshold_value", "comparator", "unit", "sample_count"]

def incidentFields : List String :=
  ["schema_version", "incident_id", "correlation_key", "source_event_ids", "technology",
    "vendor_profile", "status", "severity", "title", "description", "affected_resources",
    "detected_at", "window_start", "window_end", "violated_kpis", "evidence_refs", "hypotheses",
    "root_cause", "rca_reports", "recommendations", "approvals", "action_runs",
    "verification_runs", "model_metadata", "rule_versions", "trace_id", "duplicate_of",
    "created_at", "updated_at", "revision"]

def resourceReferenceFields : List String :=
  ["schema_version", "resource_id", "resource_type", "name", "technology", "vendor_profile",
    "parent_resource_id", "location_id", "external_ids", "attributes"]

def kpiViolationFields : List String :=
  ["schema_version", "violation_id", "kpi_name", "observed_value", "threshold_value", "comparator",
    "unit", "window_start", "window_end", "rule_id", "rule_version", "resource_ids", "dimensions"]

def evidenceReferenceFields : List String :=
  ["schema_version", "evidence_id", "evidence_type", "uri", "source", "summary", "collected_at",
    "content_type", "checksum_sha256", "attributes"]

def rcaReportFields : List String :=
  ["schema_version", "report_id", "incident_id", "version", "status", "title", "summary",
    "hypotheses", "root_cause", "conclusion", "confidence", "evidence_refs", "recommendations",
    "generated_by", "model_metadata", "created_at"]

def remediationFields : List String :=
  ["schema_version", "action_id", "action_type", "description", "target_resources", "parameters",
    "risk_level", "requires_approval", "reversible", "rollback_plan", "expected_outcome",
    "idempotency_key", "created_at"]

def approvalFields : List String :=
  ["schema_version", "approval_id", "request_id", "sequence", "incident_id", "report_id",
    "report_version", "subject_id", "status", "approval_type", "action_hash", "scope",
    "requested_by", "decided_by", "reason", "requested_at", "decided_at", "expires_at",
    "idempotency_key"]

def actionRunFields : List String :=
  ["schema_version", "action_run_id", "incident_id", "action_id", "action_hash", "status",
    "idempotency_key", "attempt", "started_at", "finished_at", "output_summary", "error", "metadata"]

def verificationRunFields : List String :=
  ["schema_version", "verification_id", "incident_id", "action_run_ids", "status", "checks",
    "observed_kpis", "evidence_refs", "summary", "error", "started_at", "finished_at", "metadata"]

/-! Candidates of a page. -/

def validateCandidateResource (value : Json) : Check Unit := do
  let resource ← allowedObject "candidate resource" candidateResourceFields
    ["resource_id", "resource_type"] value
  identifier "candidate resource_id" (field "resource_id" resource)
  textValue "candidate resource_type" (field "resource_type" resource) 64 false
  if field "technology" resource ≠ .null then
    textValue "candidate resource technology" (field "technology" resource) 64 false

def validateCandidateKpi (value : Json) : Check Unit := do
  let kpi ← allowedObject "candidate KPI" candidateKpiFields
    ["kpi_name", "observed_value", "threshold_value", "comparator", "sample_count"] value
  textValue "candidate KPI name" (field "kpi_name" kpi) 1024
  number "candidate observed_value" (field "observed_value" kpi)
  number "candidate threshold_value" (field "threshold_value" kpi)
  textValue "candidate comparator" (field "comparator" kpi) 64
  optionalText "candidate unit" (field "unit" kpi) 256
  integer "candidate sample_count" (field "sample_count" kpi) 0

def validateCandidate (p : Python) (value : Json) : Check Unit := do
  let candidate ← allowedObject "candidate" candidateFields
    ["candidate_id", "technology", "window_start", "window_end"] value
  identifier "candidate_id" (field "candidate_id" candidate)
  textValue "candidate title" (fieldOr (.str "") "title" candidate) 1024
  textValue "candidate technology" (field "technology" candidate) 64 false
  utcPair p "candidate" (field "window_start" candidate) (field "window_end" candidate) (some 31)
  listOf "candidate affected_resources" validateCandidateResource
    (fieldOr (.arr []) "affected_resources" candidate) (some 100)
  listOf "candidate violated_kpis" validateCandidateKpi
    (fieldOr (.arr []) "violated_kpis" candidate) (some 32)
  textValue "candidate summary_zh" (fieldOr (.str "") "summary_zh" candidate)

/-! The parts of an incident. -/

def validateResourceReference (value : Json) : Check Unit := do
  let resource ← versionedObject "resource" resourceReferenceFields
    ["resource_id", "resource_type"] value
  identifier "resource_id" (field "resource_id" resource)
  textValue "resource_type" (field "resource_type" resource) 64
  Checks.each (fun name => optionalText ("resource " ++ name) (field name resource) 1024)
    ["name", "technology", "vendor_profile", "parent_resource_id", "location_id"]
  stringMapping "resource external_ids" (fieldOr (.obj []) "external_ids" resource)
  jsonMapping "resource attributes" (fieldOr (.obj []) "attributes" resource)

def validateKpiViolation (p : Python) (value : Json) : Check Unit := do
  let kpi ← versionedObject "KPI violation" kpiViolationFields
    ["kpi_name", "observed_value", "threshold_value", "comparator"] value
  optionalIdentifier "violation_id" (field "violation_id" kpi)
  textValue "KPI name" (field "kpi_name" kpi) 1024 false
  number "KPI observed_value" (field "observed_value" kpi)
  number "KPI threshold_value" (field "threshold_value" kpi)
  oneOf "KPI comparator" ["LT", "LTE", "GT", "GTE", "EQ", "NE"] (field "comparator" kpi)
  optionalText "KPI unit" (field "unit" kpi) 256
  utcPair p "KPI" (field "window_start" kpi) (field "window_end" kpi)
  optionalIdentifier "KPI rule_id" (field "rule_id" kpi)
  optionalText "KPI rule_version" (field "rule_version" kpi) 1024
  stringList "KPI resource_ids" (fieldOr (.arr []) "resource_ids" kpi) true
  stringMapping "KPI dimensions" (fieldOr (.obj []) "dimensions" kpi)

def validateEvidenceReference (p : Python) (value : Json) : Check Unit := do
  let evidence ← versionedObject "evidence reference" evidenceReferenceFields
    ["evidence_id", "evidence_type", "uri"] value
  identifier "evidence_id" (field "evidence_id" evidence)
  textValue "evidence_type" (field "evidence_type" evidence) 64
  textValue "evidence uri" (field "uri" evidence) 1024 false
  Checks.each (fun name => optionalText ("evidence " ++ name) (field name evidence) 1024)
    ["source", "summary", "content_type"]
  optionalUtcIso p "evidence collected_at" (field "collected_at" evidence)
  optionalSha256 "evidence checksum" (field "checksum_sha256" evidence)
  jsonMapping "evidence attributes" (fieldOr (.obj []) "attributes" evidence)

/-- A timestamp whose key may be missing; where the key stands, it is read. -/
def presentUtcIso (p : Python) (fieldName key : String) (fields : Dict) : Check (Option Instant) :=
  match Json.get? key fields with
  | none => .ok none
  | some value => some <$> parseUtcIso p fieldName value

def validateRemediation (p : Python) (value : Json) : Check Unit := do
  let action ← versionedObject "remediation" remediationFields
    ["action_id", "target_resources"] value
  identifier "remediation action_id" (field "action_id" action)
  textValue "remediation action_type" (fieldOr (.str "CUSTOM") "action_type" action) 1024 false
  Checks.each (fun name => optionalText ("remediation " ++ name) (field name action))
    ["description", "rollback_plan", "expected_outcome"]
  let targets ← listValue "remediation targets" (field "target_resources" action)
  Checks.require (targets ≠ []) (.invalid "remediation targets are invalid")
  Checks.each validateResourceReference targets
  jsonMapping "remediation parameters" (fieldOr (.obj []) "parameters" action)
  oneOf "remediation risk_level" ["LOW", "MEDIUM", "HIGH", "CRITICAL"]
    (fieldOr (.str "MEDIUM") "risk_level" action)
  Checks.require (fieldOr (.bool true) "requires_approval" action = .bool true ∧
    isBool (fieldOr (.bool false) "reversible" action))
    (.invalid "remediation approval fields are invalid")
  optionalIdentifier "remediation idempotency_key" (field "idempotency_key" action)
  let _ ← presentUtcIso p "remediation created_at" "created_at" action

def IsConfidence : Json → Prop
  | .int n => 0 ≤ n ∧ n ≤ 1
  | .float q => 0 ≤ q ∧ q ≤ 1
  | _ => False

instance : DecidablePred IsConfidence := fun value => match value with
  | .int _ | .float _ => inferInstanceAs (Decidable (_ ∧ _))
  | .null | .bool _ | .str _ | .arr _ | .obj _ => inferInstanceAs (Decidable False)

def validateRcaReport (p : Python) (value : Json) : Check Unit := do
  let report ← versionedObject "RCA report" rcaReportFields ["report_id", "incident_id"] value
  identifier "RCA report_id" (field "report_id" report)
  identifier "RCA incident_id" (field "incident_id" report)
  integer "RCA version" (fieldOr (.int 1) "version" report) 1
  textValue "RCA status" (fieldOr (.str "DRAFT") "status" report) 64
  optionalText "RCA title" (field "title" report)
  textValue "RCA summary" (fieldOr (.str "") "summary" report)
  stringList "RCA hypotheses" (fieldOr (.arr []) "hypotheses" report)
  optionalText "RCA root_cause" (field "root_cause" report)
  textValue "RCA conclusion" (fieldOr (.str "CONCLUSIVE") "conclusion" report) 64
  orInvalid (field "confidence" report = .null ∨ IsConfidence (field "confidence" report))
    "RCA confidence"
  listOf "RCA evidence_refs" (validateEvidenceReference p) (fieldOr (.arr []) "evidence_refs" report)
  listOf "RCA recommendations" (validateRemediation p) (fieldOr (.arr []) "recommendations" report)
  optionalText "RCA generated_by" (field "generated_by" report)
  jsonMapping "RCA model_metadata" (fieldOr (.obj []) "model_metadata" report)
  let _ ← presentUtcIso p "RCA created_at" "created_at" report

def validateApproval (p : Python) (value : Json) : Check Unit := do
  let approval ← versionedObject "approval" approvalFields
    ["approval_id", "request_id", "sequence", "incident_id", "report_id", "report_version",
      "subject_id", "idempotency_key"] value
  Checks.each (fun name => identifier ("approval " ++ name) (field name approval))
    ["approval_id", "request_id", "incident_id", "report_id", "subject_id", "idempotency_key"]
  integer "approval sequence" (field "sequence" approval) 0
  integer "approval report_version" (field "report_version" approval) 1
  textValue "approval status" (fieldOr (.str "PENDING") "status" approval) 64
  textValue "approval type" (fieldOr (.str "NETWORK_ACTION") "approval_type" approval) 64
  optionalSha256 "approval action_hash" (field "action_hash" approval)
  listOf "approval scope" validateResourceReference (fieldOr (.arr []) "scope" approval)
  Checks.each (fun name => optionalIdentifier ("approval " ++ name) (field name approval))
    ["requested_by", "decided_by"]
  optionalText "approval reason" (field "reason" approval)
  let _ ← presentUtcIso p "approval requested_at" "requested_at" approval
  Checks.each (fun name => optionalUtcIso p ("approval " ++ name) (field name approval))
    ["decided_at", "expires_at"]

def validateActionRun (p : Python) (value : Json) : Check Unit := do
  let run ← versionedObject "action run" actionRunFields ["action_run_id", "action_id"] value
  identifier "action_run_id" (field "action_run_id" run)
  optionalIdentifier "action run incident_id" (field "incident_id" run)
  identifier "action run action_id" (field "action_id" run)
  optionalSha256 "action run action_hash" (field "action_hash" run)
  textValue "action run status" (fieldOr (.str "PENDING") "status" run) 64
  optionalIdentifier "action run idempotency_key" (field "idempotency_key" run)
  integer "action run attempt" (fieldOr (.int 1) "attempt" run) 1
  Checks.each (fun name => optionalUtcIso p ("action run " ++ name) (field name run))
    ["started_at", "finished_at"]
  Checks.each (fun name => optionalText ("action run " ++ name) (field name run))
    ["output_summary", "error"]
  jsonMapping "action run metadata" (fieldOr (.obj []) "metadata" run)

def validateVerificationRun (p : Python) (value : Json) : Check Unit := do
  let run ← versionedObject "verification run" verificationRunFields ["verification_id"] value
  identifier "verification_id" (field "verification_id" run)
  optionalIdentifier "verification incident_id" (field "incident_id" run)
  stringList "verification action_run_ids" (fieldOr (.arr []) "action_run_ids" run) true
  textValue "verification status" (fieldOr (.str "PENDING") "status" run) 64
  stringList "verification checks" (fieldOr (.arr []) "checks" run)
  listOf "verification observed_kpis" (validateKpiViolation p)
    (fieldOr (.arr []) "observed_kpis" run)
  listOf "verification evidence_refs" (validateEvidenceReference p)
    (fieldOr (.arr []) "evidence_refs" run)
  Checks.each (fun name => optionalText ("verification " ++ name) (field name run))
    ["summary", "error"]
  Checks.each (fun name => optionalUtcIso p ("verification " ++ name) (field name run))
    ["started_at", "finished_at"]
  jsonMapping "verification metadata" (fieldOr (.obj []) "metadata" run)

def InOrder (first last : Option Instant) : Prop := ∀ a ∈ first, ∀ b ∈ last, a ≤ b

instance (first last : Option Instant) : Decidable (InOrder first last) :=
  inferInstanceAs (Decidable (∀ a ∈ first, ∀ b ∈ last, _))

def validateIncident (p : Python) (value : Json) : Check Unit := do
  let incident ← versionedObject "incident" incidentFields ["incident_id", "trace_id"] value
  identifier "incident_id" (field "incident_id" incident)
  optionalIdentifier "incident correlation_key" (field "correlation_key" incident)
  stringList "incident source_event_ids" (fieldOr (.arr []) "source_event_ids" incident) true
  textValue "incident technology" (fieldOr (.str "UNKNOWN") "technology" incident) 64
  optionalText "incident vendor_profile" (field "vendor_profile" incident) 1024
  textValue "incident status" (fieldOr (.str "DETECTED") "status" incident) 64
  textValue "incident severity" (fieldOr (.str "UNKNOWN") "severity" incident) 64
  textValue "incident title" (fieldOr (.str "") "title" incident)
  textValue "incident description" (fieldOr (.str "") "description" incident)
  listOf "incident resources" validateResourceReference
    (fieldOr (.arr []) "affected_resources" incident)
  let detectedAt ← presentUtcIso p "incident detected_at" "detected_at" incident
  utcPair p "incident" (field "window_start" incident) (field "window_end" incident)
  -- the end of the window is read once more to compare it with the detection
  if detectedAt ≠ none ∧ field "window_end" incident ≠ .null then do
    let windowEnd ← parseUtcIso p "incident window_end" (field "window_end" incident)
    orInvalid (InOrder (some windowEnd) detectedAt) "incident window_end"
  listOf "incident violated_kpis" (validateKpiViolation p)
    (fieldOr (.arr []) "violated_kpis" incident)
  listOf "incident evidence_refs" (validateEvidenceReference p)
    (fieldOr (.arr []) "evidence_refs" incident)
  stringList "incident hypotheses" (fieldOr (.arr []) "hypotheses" incident)
  optionalText "incident root_cause" (field "root_cause" incident)
  listOf "incident rca_reports" (validateRcaReport p) (fieldOr (.arr []) "rca_reports" incident)
  listOf "incident recommendations" (validateRemediation p)
    (fieldOr (.arr []) "recommendations" incident)
  listOf "incident approvals" (validateApproval p) (fieldOr (.arr []) "approvals" incident)
  listOf "incident action_runs" (validateActionRun p) (fieldOr (.arr []) "action_runs" incident)
  listOf "incident verification_runs" (validateVerificationRun p)
    (fieldOr (.arr []) "verification_runs" incident)
  jsonMapping "incident model_metadata" (fieldOr (.obj []) "model_metadata" incident)
  stringMapping "incident rule_versions" (fieldOr (.obj []) "rule_versions" incident)
  identifier "incident trace_id" (field "trace_id" incident)
  optionalIdentifier "incident duplicate_of" (field "duplicate_of" incident)
  let createdAt ← presentUtcIso p "incident created_at" "created_at" incident
  let updatedAt ← presentUtcIso p "incident updated_at" "updated_at" incident
  Checks.require (InOrder createdAt updatedAt) (.invalid "incident timeline is invalid")
  integer "incident revision" (fieldOr (.int 0) "revision" incident) 0

end NetworkAgent.Supervisor
