import NetworkAgent.Library.Json
import NetworkAgent.Library.Sha256

/-! The canonical domain models. A text field is a `String`, an `Identifier` or a
`NonEmptyStr`; the last two hold only trimmed text of the declared length. Instants are
microseconds since the epoch in UTC, binary64 numbers are the rationals they denote.
A digest field holds the text after lower-casing. -/
namespace NetworkAgent

abbrev Instant := Int

/-- The `White_Space` characters, which model validation strips. -/
def isWhiteSpace (c : Char) : Bool :=
  let n := c.toNat
  (9 ≤ n && n ≤ 13) || n == 0x20 || n == 0x85 || n == 0xA0 || n == 0x1680 ||
    (0x2000 ≤ n && n ≤ 0x200A) || n == 0x2028 || n == 0x2029 || n == 0x202F || n == 0x205F ||
    n == 0x3000

/-- `str.isspace`: the separators U+001C to U+001F count as well. -/
def isSpace (c : Char) : Bool :=
  isWhiteSpace c || (0x1C ≤ c.toNat && c.toNat ≤ 0x1F)

theorem isSpace_of_isWhiteSpace (c : Char) (h : isWhiteSpace c = true) : isSpace c = true := by
  simp [isSpace, h]

theorem isSpace_of_hex {c : Char} (hex : Sha256.isHexDigit c = true) : isSpace c = false := by
  simp only [Sha256.isHexDigit, Bool.or_eq_true, Bool.and_eq_true, decide_eq_true_eq] at hex
  have bounds : (48 ≤ c.toNat ∧ c.toNat ≤ 57) ∨ (97 ≤ c.toNat ∧ c.toNat ≤ 102) := hex
  simp only [isSpace, isWhiteSpace, Bool.or_eq_false_iff, Bool.and_eq_false_iff,
    decide_eq_false_iff_not, beq_eq_false_iff_ne]
  omega

theorem isWhiteSpace_of_hex {c : Char} (hex : Sha256.isHexDigit c = true) :
    isWhiteSpace c = false := by
  cases white : isWhiteSpace c with
  | false => rfl
  | true => exact (isSpace_of_isWhiteSpace c white).symm.trans (isSpace_of_hex hex)

/-- `strip_whitespace` of the model fields. -/
def stripWhitespace (s : String) : String := Text.trim isWhiteSpace s

/-- `str.strip`. -/
def strip (s : String) : String := Text.trim isSpace s

/-- What `str.strip` leaves has nothing for the models to strip. -/
@[simp] theorem stripWhitespace_strip (s : String) : stripWhitespace (strip s) = strip s :=
  Text.trim_trim_of_imp isSpace_of_isWhiteSpace s

abbrev Identifier := Text.Bounded isWhiteSpace 256
abbrev NonEmptyStr := Text.Bounded isWhiteSpace 1024

def Identifier.parse (s : String) : Option Identifier := Text.Bounded.parse isWhiteSpace 256 s
def NonEmptyStr.parse (s : String) : Option NonEmptyStr := Text.Bounded.parse isWhiteSpace 1024 s

instance : LawfulBEq Identifier := inferInstance

abbrev SampleText (s : String) (bound : Nat := 256) : Prop :=
  Text.trim isWhiteSpace s = s ∧ 1 ≤ s.length ∧ s.length ≤ bound

/-! The texts of the samples. -/

theorem fits_trace : SampleText "trace" := by decide
theorem fits_event : SampleText "event" := by decide
theorem fits_incident : SampleText "incident" := by decide
theorem fits_snapshot : SampleText "snapshot" := by decide
theorem fits_i : SampleText "i" := by decide
theorem fits_t : SampleText "t" := by decide
theorem fits_o1 : SampleText "o1" := by decide
theorem fits_access : SampleText "access" 1024 := by decide
theorem fits_evidence1 : SampleText "evidence-1" := by decide
theorem fits_incident1 : SampleText "incident-1" := by decide
theorem fits_trace1 : SampleText "trace-1" := by decide
theorem fits_source : SampleText "source" 2048 := by decide
theorem fits_fault : SampleText "fault" 128 := by decide
theorem fits_rrc : SampleText "rrc" 1024 := by decide
theorem fits_version : SampleText "1.0.0" 1024 := by decide

def schemaVersion : String := "1.0"
def maxIncidentSourceEvents : Nat := 1000

inductive IncidentStatus where
  | detected | triaged | investigating | rcaComplete | awaitingApproval | remediating
  | verifying | resolved | closed | duplicate | rejected | failed | cancelled | reopened
  deriving DecidableEq

def IncidentStatus.value : IncidentStatus → String
  | .detected => "DETECTED"
  | .triaged => "TRIAGED"
  | .investigating => "INVESTIGATING"
  | .rcaComplete => "RCA_COMPLETE"
  | .awaitingApproval => "AWAITING_APPROVAL"
  | .remediating => "REMEDIATING"
  | .verifying => "VERIFYING"
  | .resolved => "RESOLVED"
  | .closed => "CLOSED"
  | .duplicate => "DUPLICATE"
  | .rejected => "REJECTED"
  | .failed => "FAILED"
  | .cancelled => "CANCELLED"
  | .reopened => "REOPENED"

inductive IncidentSeverity where
  | unknown | info | low | medium | high | critical
  deriving DecidableEq

def IncidentSeverity.value : IncidentSeverity → String
  | .unknown => "UNKNOWN" | .info => "INFO" | .low => "LOW"
  | .medium => "MEDIUM" | .high => "HIGH" | .critical => "CRITICAL"

inductive Technology where
  | unknown | lte | fiveGNsa | fiveGSa
  deriving DecidableEq

def Technology.value : Technology → String
  | .unknown => "UNKNOWN" | .lte => "LTE" | .fiveGNsa => "5G_NSA" | .fiveGSa => "5G_SA"

inductive ResourceType where
  | location | networkService | networkNode | enodeb | cell | gnb | nrCell | networkSlice | other
  deriving DecidableEq

def ResourceType.value : ResourceType → String
  | .location => "LOCATION"
  | .networkService => "NETWORK_SERVICE"
  | .networkNode => "NETWORK_NODE"
  | .enodeb => "ENODEB"
  | .cell => "CELL"
  | .gnb => "GNB"
  | .nrCell => "NR_CELL"
  | .networkSlice => "NETWORK_SLICE"
  | .other => "OTHER"

inductive KpiComparator where
  | lessThan | lessThanOrEqual | greaterThan | greaterThanOrEqual | equal | notEqual
  deriving DecidableEq

def KpiComparator.value : KpiComparator → String
  | .lessThan => "LT" | .lessThanOrEqual => "LTE" | .greaterThan => "GT"
  | .greaterThanOrEqual => "GTE" | .equal => "EQ" | .notEqual => "NE"

inductive EvidenceType where
  | metric | trace | log | rule | document | priorIncident | testResult | topology | other
  deriving DecidableEq

def EvidenceType.value : EvidenceType → String
  | .metric => "METRIC" | .trace => "TRACE" | .log => "LOG" | .rule => "RULE"
  | .document => "DOCUMENT" | .priorIncident => "PRIOR_INCIDENT"
  | .testResult => "TEST_RESULT" | .topology => "TOPOLOGY" | .other => "OTHER"

inductive ReportStatus where
  | draft | proposed | approved | persisted | superseded
  deriving DecidableEq

def ReportStatus.value : ReportStatus → String
  | .draft => "DRAFT" | .proposed => "PROPOSED" | .approved => "APPROVED"
  | .persisted => "PERSISTED" | .superseded => "SUPERSEDED"

inductive RcaConclusion where
  | conclusive | inconclusive
  deriving DecidableEq

def RcaConclusion.value : RcaConclusion → String
  | .conclusive => "CONCLUSIVE" | .inconclusive => "INCONCLUSIVE"

inductive ApprovalType where
  | reportPersistence | networkAction
  deriving DecidableEq

def ApprovalType.value : ApprovalType → String
  | .reportPersistence => "REPORT_PERSISTENCE" | .networkAction => "NETWORK_ACTION"

inductive ApprovalStatus where
  | pending | approved | rejected | expired | cancelled
  deriving DecidableEq

def ApprovalStatus.value : ApprovalStatus → String
  | .pending => "PENDING" | .approved => "APPROVED" | .rejected => "REJECTED"
  | .expired => "EXPIRED" | .cancelled => "CANCELLED"

inductive RiskLevel where
  | low | medium | high | critical
  deriving DecidableEq

def RiskLevel.value : RiskLevel → String
  | .low => "LOW" | .medium => "MEDIUM" | .high => "HIGH" | .critical => "CRITICAL"

inductive ActionRunStatus where
  | pending | queued | running | succeeded | failed | cancelled | skipped
  deriving DecidableEq

def ActionRunStatus.value : ActionRunStatus → String
  | .pending => "PENDING" | .queued => "QUEUED" | .running => "RUNNING"
  | .succeeded => "SUCCEEDED" | .failed => "FAILED" | .cancelled => "CANCELLED"
  | .skipped => "SKIPPED"

inductive VerificationStatus where
  | pending | running | passed | failed | inconclusive | cancelled
  deriving DecidableEq

def VerificationStatus.value : VerificationStatus → String
  | .pending => "PENDING" | .running => "RUNNING" | .passed => "PASSED"
  | .failed => "FAILED" | .inconclusive => "INCONCLUSIVE" | .cancelled => "CANCELLED"

abbrev Dict := List (String × Json)

structure ResourceReference where
  resourceId : Identifier
  resourceType : ResourceType
  name : Option NonEmptyStr := none
  technology : Option Technology := none
  vendorProfile : Option NonEmptyStr := none
  parentResourceId : Option Identifier := none
  locationId : Option Identifier := none
  externalIds : List (String × String) := []
  attributes : Dict := []
  deriving DecidableEq

structure KpiViolation where
  violationId : Option Identifier := none
  kpiName : NonEmptyStr
  observedValue : ℚ
  thresholdValue : ℚ
  comparator : KpiComparator
  unit : Option String := none
  windowStart : Option Instant := none
  windowEnd : Option Instant := none
  ruleId : Option Identifier := none
  ruleVersion : Option NonEmptyStr := none
  resourceIds : List Identifier := []
  dimensions : List (String × String) := []
  deriving DecidableEq

structure EvidenceReference where
  evidenceId : Identifier
  evidenceType : EvidenceType
  uri : NonEmptyStr
  source : Option NonEmptyStr := none
  summary : Option String := none
  collectedAt : Option Instant := none
  contentType : Option NonEmptyStr := none
  checksumSha256 : Option String := none
  attributes : Dict := []
  deriving DecidableEq

/-- A proposed, not yet executed network change. -/
structure RemediationAction where
  actionId : Identifier
  actionType : NonEmptyStr
  description : Option String := none
  targetResources : List ResourceReference
  parameters : Dict := []
  riskLevel : RiskLevel := .medium
  reversible : Bool := false
  rollbackPlan : Option String := none
  expectedOutcome : Option String := none
  idempotencyKey : Option Identifier := none
  createdAt : Instant
  deriving DecidableEq

structure RcaReport where
  reportId : Identifier
  incidentId : Identifier
  version : Nat := 1
  status : ReportStatus := .draft
  title : Option String := none
  summary : String := ""
  hypotheses : List String := []
  rootCause : Option String := none
  conclusion : RcaConclusion := .conclusive
  confidence : Option ℚ := none
  evidenceRefs : List EvidenceReference := []
  recommendations : List RemediationAction := []
  generatedBy : Option String := none
  modelMetadata : Dict := []
  createdAt : Instant
  deriving DecidableEq

structure ApprovalDecision where
  approvalId : Identifier
  requestId : Identifier
  sequence : Nat
  incidentId : Identifier
  reportId : Identifier
  reportVersion : Nat
  subjectId : Identifier
  status : ApprovalStatus := .pending
  approvalType : ApprovalType := .networkAction
  actionHash : Option Sha256.Digest := none
  scope : List ResourceReference := []
  requestedBy : Option Identifier := none
  decidedBy : Option Identifier := none
  reason : Option String := none
  requestedAt : Instant
  decidedAt : Option Instant := none
  expiresAt : Option Instant := none
  idempotencyKey : Identifier
  deriving DecidableEq

structure ActionRun where
  actionRunId : Identifier
  incidentId : Option Identifier := none
  actionId : Identifier
  actionHash : Option Sha256.Digest := none
  status : ActionRunStatus := .pending
  idempotencyKey : Option Identifier := none
  attempt : Nat := 1
  startedAt : Option Instant := none
  finishedAt : Option Instant := none
  outputSummary : Option String := none
  error : Option NonEmptyStr := none
  metadata : Dict := []
  deriving DecidableEq

structure VerificationRun where
  verificationId : Identifier
  incidentId : Option Identifier := none
  actionRunIds : List Identifier := []
  status : VerificationStatus := .pending
  checks : List String := []
  observedKpis : List KpiViolation := []
  evidenceRefs : List EvidenceReference := []
  summary : Option String := none
  error : Option NonEmptyStr := none
  startedAt : Option Instant := none
  finishedAt : Option Instant := none
  metadata : Dict := []
  deriving DecidableEq

/-- An immutable state-change record committed together with its incident. -/
structure IncidentAuditEvent where
  eventId : Identifier
  incidentId : Identifier
  fromStatus : Option IncidentStatus
  toStatus : IncidentStatus
  revision : Nat
  occurredAt : Instant
  actor : Identifier
  reason : NonEmptyStr
  idempotencyKey : Identifier
  traceId : Identifier
  deriving DecidableEq

structure SourceEventAssociation where
  incidentId : Identifier
  sourceEventId : Identifier
  registeredAt : Instant
  actor : Identifier
  reason : NonEmptyStr
  idempotencyKey : Identifier
  traceId : Identifier
  deriving DecidableEq

structure Incident where
  incidentId : Identifier
  correlationKey : Option Identifier := none
  sourceEventIds : List Identifier := []
  technology : Technology := .unknown
  vendorProfile : Option NonEmptyStr := none
  status : IncidentStatus := .detected
  severity : IncidentSeverity := .unknown
  title : String := ""
  description : String := ""
  affectedResources : List ResourceReference := []
  detectedAt : Instant
  windowStart : Option Instant := none
  windowEnd : Option Instant := none
  violatedKpis : List KpiViolation := []
  evidenceRefs : List EvidenceReference := []
  hypotheses : List String := []
  rootCause : Option String := none
  rcaReports : List RcaReport := []
  recommendations : List RemediationAction := []
  approvals : List ApprovalDecision := []
  actionRuns : List ActionRun := []
  verificationRuns : List VerificationRun := []
  modelMetadata : Dict := []
  ruleVersions : List (String × String) := []
  traceId : Identifier
  duplicateOf : Option Identifier := none
  createdAt : Instant
  updatedAt : Instant
  revision : Nat := 0
  deriving DecidableEq

/-! Two models are equal when their fields are, mappings compared without their order
and JSON values by `==`. -/

def normDict (fields : Dict) : Dict := Json.sortFields (Json.normFields fields)

instance : PyEq Identifier := ⟨id⟩

instance : PyEq ResourceReference where
  norm r := { r with
    externalIds := Json.sortFields r.externalIds, attributes := normDict r.attributes }

instance : PyEq KpiViolation where
  norm k := { k with dimensions := Json.sortFields k.dimensions }

instance : PyEq EvidenceReference where
  norm e := { e with attributes := normDict e.attributes }

instance : PyEq RemediationAction where
  norm a := { a with
    targetResources := a.targetResources.map PyEq.norm, parameters := normDict a.parameters }

instance : PyEq RcaReport where
  norm r := { r with
    evidenceRefs := r.evidenceRefs.map PyEq.norm
    recommendations := r.recommendations.map PyEq.norm
    modelMetadata := normDict r.modelMetadata }

instance : PyEq ApprovalDecision where
  norm d := { d with scope := d.scope.map PyEq.norm }

instance : PyEq ActionRun where
  norm r := { r with metadata := normDict r.metadata }

instance : PyEq VerificationRun where
  norm v := { v with
    observedKpis := v.observedKpis.map PyEq.norm
    evidenceRefs := v.evidenceRefs.map PyEq.norm
    metadata := normDict v.metadata }

def Incident.norm (i : Incident) : Incident :=
  { i with
    affectedResources := i.affectedResources.map PyEq.norm
    violatedKpis := i.violatedKpis.map PyEq.norm
    evidenceRefs := i.evidenceRefs.map PyEq.norm
    rcaReports := i.rcaReports.map PyEq.norm
    recommendations := i.recommendations.map PyEq.norm
    approvals := i.approvals.map PyEq.norm
    actionRuns := i.actionRuns.map PyEq.norm
    verificationRuns := i.verificationRuns.map PyEq.norm
    modelMetadata := normDict i.modelMetadata
    ruleVersions := Json.sortFields i.ruleVersions }

instance : PyEq Incident := ⟨Incident.norm⟩

end NetworkAgent
