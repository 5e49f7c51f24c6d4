import Mathlib.Data.List.MinMax
import NetworkAgent.Domain.Dump

/-! The validators of the domain models. Validation always runs again on instances, so
an accepted aggregate has accepted parts. -/
namespace NetworkAgent
open Checks (require each)

/-- The text of a failed validator. Messages about one approval request name it. -/
inductive ModelError where
  | message (text : String)
  | approvalRequest (requestId : Identifier) (problem : String)
  deriving DecidableEq

abbrev Validation := Except ModelError Unit

def requireText (condition : Prop) [Decidable condition] (text : String) : Validation :=
  require condition (.message text)

@[simp] theorem requireText_ok {condition : Prop} [Decidable condition] {text : String} {u : Unit} :
    requireText condition text = .ok u ↔ condition := Checks.require_ok

/-- Every listed field must be present; the message lists the missing ones in order. -/
def requireFields (text : String) (fields : List (Bool × String)) : Validation :=
  requireText (∀ f ∈ fields, f.1 = true)
    (text ++ ", ".intercalate ((fields.filter fun f => !f.1).map Prod.snd))

@[simp] theorem requireFields_ok {text : String} {fields : List (Bool × String)} {u : Unit} :
    requireFields text fields = .ok u ↔ ∀ f ∈ fields, f.1 = true := requireText_ok

def ensureUnique {α : Type} [DecidableEq α] (name : String) (values : List α) : Validation :=
  requireText values.Nodup (name ++ " must not contain duplicates")

@[simp] theorem ensureUnique_ok {α : Type} [DecidableEq α] {name : String} {values : List α}
    {u : Unit} : ensureUnique name values = .ok u ↔ values.Nodup := requireText_ok

/-- A window is given by both of its ends, in order. -/
def validateWindow (windowStart windowEnd : Option Instant) : Validation := do
  requireText (windowStart.isSome = windowEnd.isSome)
    "window_start and window_end must be provided together"
  requireText (∀ s ∈ windowStart, ∀ e ∈ windowEnd, s ≤ e)
    "window_end must not be earlier than window_start"

def requireOrder (startedAt finishedAt : Option Instant) : Validation :=
  requireText (∀ s ∈ startedAt, ∀ e ∈ finishedAt, s ≤ e)
    "finished_at must not be earlier than started_at"

def KpiViolation.validate (k : KpiViolation) : Validation :=
  validateWindow k.windowStart k.windowEnd

/-- The pattern of `checksum_sha256`, in either case. -/
def isChecksum (s : String) : Bool :=
  s.length == 64 && s.toList.all fun c => Sha256.isHexDigit c || ('A' ≤ c && c ≤ 'F')

def EvidenceReference.validate (e : EvidenceReference) : Validation :=
  requireText (∀ c ∈ e.checksumSha256, isChecksum c = true) "checksum_sha256 must match its pattern"

def isBlank (s : String) : Bool := strip s == ""

def RemediationAction.validate (h : Host) (a : RemediationAction) : Validation := do
  requireText (a.targetResources ≠ []) "target_resources must not be empty"
  requireText (a.targetResources.map (canonicalResourceIdentity h)).Nodup
    "target_resources must not contain duplicates"
  requireText (a.reversible = true → isBlank (a.rollbackPlan.getD "") = false)
    "reversible actions must include a rollback_plan"

def RcaReport.validate (h : Host) (r : RcaReport) : Validation := do
  requireText (1 ≤ r.version) "version must be at least 1"
  requireText (∀ c ∈ r.confidence, 0 ≤ c ∧ c ≤ 1) "confidence must be between 0 and 1"
  each EvidenceReference.validate r.evidenceRefs
  each (RemediationAction.validate h) r.recommendations

def ApprovalDecision.validateTimes (d : ApprovalDecision) : Validation := do
  requireText (∀ t ∈ d.decidedAt, d.requestedAt ≤ t)
    "decided_at must not be earlier than requested_at"
  requireText (∀ e ∈ d.expiresAt, d.requestedAt < e) "expires_at must be later than requested_at"
  requireText (d.status = .approved → ∀ t ∈ d.decidedAt, ∀ e ∈ d.expiresAt, t < e)
    "approved decisions must precede expires_at"
  requireText (d.status = .expired → d.expiresAt.isSome) "EXPIRED decisions require expires_at"
  requireText (d.status = .expired → ∀ t ∈ d.decidedAt, ∀ e ∈ d.expiresAt, e ≤ t)
    "EXPIRED decided_at must be at or after expires_at"

def ApprovalDecision.validateStatus (d : ApprovalDecision) : Validation :=
  if d.status = .pending then
    requireText (d.sequence = 0) "pending approval requests must use sequence 0"
  else do
    requireFields "terminal approval decisions require "
      [(d.decidedBy.isSome, "decided_by"), (d.decidedAt.isSome, "decided_at")]
    requireText (d.sequence ≠ 0) "terminal approval decisions require sequence >= 1"

def ApprovalDecision.validateSubject (h : Host) (d : ApprovalDecision) : Validation :=
  match d.approvalType with
  | .networkAction => do
    requireFields "network action approvals require "
      [(d.actionHash.isSome, "action_hash"), (!d.scope.isEmpty, "scope"),
       (d.expiresAt.isSome, "expires_at")]
    requireText (d.scope.map (canonicalResourceIdentity h)).Nodup
      "approval scope must not contain duplicates"
  | .reportPersistence =>
    requireText (d.subjectId = d.reportId) "report approval subject_id must match report_id"

/-- `validate_timeline`. -/
def ApprovalDecision.validate (h : Host) (d : ApprovalDecision) : Validation := do
  requireText (1 ≤ d.reportVersion) "report_version must be at least 1"
  d.validateTimes
  d.validateStatus
  d.validateSubject h

/-- `is_effective` at a given instant. -/
def ApprovalDecision.IsEffective (d : ApprovalDecision) (at' : Instant) : Prop :=
  d.status = .approved ∧ (∃ t ∈ d.decidedAt, t ≤ at') ∧ ∀ e ∈ d.expiresAt, at' < e

instance (d : ApprovalDecision) (at' : Instant) : Decidable (d.IsEffective at') :=
  inferInstanceAs (Decidable (_ ∧ _ ∧ _))

/-- `covers_action`: the immutable bindings, without time and status. -/
def ApprovalDecision.CoversAction (h : Host) (d : ApprovalDecision) (action : RemediationAction)
    (incidentId : Identifier) (report : RcaReport) : Prop :=
  d.approvalType = .networkAction ∧ d.incidentId = incidentId ∧ d.reportId = report.reportId ∧
    d.reportVersion = report.version ∧ report.incidentId = incidentId ∧
    d.subjectId = action.actionId ∧ d.actionHash = some (action.actionHash h) ∧
    resourceScopeIdentity h d.scope = resourceScopeIdentity h action.targetResources

instance (h : Host) (d : ApprovalDecision) (action : RemediationAction) (incidentId : Identifier)
    (report : RcaReport) : Decidable (d.CoversAction h action incidentId report) :=
  inferInstanceAs (Decidable (_ ∧ _ ∧ _ ∧ _ ∧ _ ∧ _ ∧ _ ∧ _))

def ActionRunStatus.isTerminal : ActionRunStatus → Bool
  | .succeeded | .failed | .cancelled | .skipped => true
  | .pending | .queued | .running => false

def ActionRunStatus.isBound : ActionRunStatus → Bool
  | .running => true
  | s => s.isTerminal

def ActionRun.validateBound (r : ActionRun) : Validation :=
  if r.status.isBound then
    requireFields (r.status.value ++ " ActionRun requires ")
      [(r.incidentId.isSome, "incident_id"), (r.actionHash.isSome, "action_hash"),
       (r.idempotencyKey.isSome, "idempotency_key"), (r.startedAt.isSome, "started_at")]
  else .ok ()

def ActionRun.validate (r : ActionRun) : Validation := do
  requireText (1 ≤ r.attempt) "attempt must be at least 1"
  requireOrder r.startedAt r.finishedAt
  r.validateBound
  requireText (r.status.isTerminal = true → r.finishedAt.isSome)
    (r.status.value ++ " ActionRun requires finished_at")
  requireText (r.status = .failed → r.error.isSome)
    "FAILED ActionRun requires a safe error summary"

def VerificationRun.validateResult (v : VerificationRun) : Validation :=
  match v.status with
  | .running =>
    requireFields "RUNNING VerificationRun requires "
      [(v.incidentId.isSome, "incident_id"), (v.startedAt.isSome, "started_at")]
  | .passed | .failed =>
    requireFields (v.status.value ++ " VerificationRun requires ")
      [(v.incidentId.isSome, "incident_id"), (!v.actionRunIds.isEmpty, "action_run_ids"),
       (v.checks.any fun c => !isBlank c, "checks"), (!v.evidenceRefs.isEmpty, "result evidence"),
       (v.startedAt.isSome, "started_at"), (v.finishedAt.isSome, "finished_at")]
  | _ => .ok ()

def VerificationRun.validate (v : VerificationRun) : Validation := do
  each KpiViolation.validate v.observedKpis
  each EvidenceReference.validate v.evidenceRefs
  requireOrder v.startedAt v.finishedAt
  v.validateResult
  requireText (v.status = .failed → v.error.isSome)
    "FAILED VerificationRun requires a safe error summary"
  requireText v.actionRunIds.Nodup "action_run_ids must not contain duplicates"

/-- What no later event of a request may change. -/
structure ApprovalBinding where
  approvalType : ApprovalType
  incidentId : Identifier
  reportId : Identifier
  reportVersion : Nat
  subjectId : Identifier
  actionHash : Option Sha256.Digest
  scope : List (List Nat)
  requestedAt : Instant
  expiresAt : Option Instant
  deriving DecidableEq

/-- `_approval_binding`. -/
def ApprovalDecision.binding (h : Host) (d : ApprovalDecision) : ApprovalBinding :=
  ⟨d.approvalType, d.incidentId, d.reportId, d.reportVersion, d.subjectId, d.actionHash,
    resourceScopeIdentity h d.scope, d.requestedAt, d.expiresAt⟩

namespace Incident

def findReport (i : Incident) (reportId : Identifier) (version : Nat) : Option RcaReport :=
  i.rcaReports.find? fun r => r.reportId = reportId ∧ r.version = version

def findAction (i : Incident) (actionId : Identifier) : Option RemediationAction :=
  i.recommendations.find? fun a => a.actionId = actionId

def validateApproval (h : Host) (i : Incident) (d : ApprovalDecision) : Validation := do
  requireText (d.incidentId = i.incidentId) "approval incident_id must match its Incident"
  match i.findReport d.reportId d.reportVersion with
  | none => .error (.message "approval must bind an RCA report on its Incident")
  | some report => do
    requireText (d.approvalType = .networkAction →
        ∃ a ∈ i.findAction d.subjectId, d.CoversAction h a i.incidentId report)
      "approval must exactly bind a recommended action"
    requireText (d.approvalType = .reportPersistence → d.subjectId = report.reportId)
      "report approval subject_id must match report_id"

def requestIds (i : Incident) : List Identifier := (i.approvals.map (·.requestId)).eraseDups

def requestEvents (i : Incident) (requestId : Identifier) : List ApprovalDecision :=
  i.approvals.filter fun d => d.requestId = requestId

def validateRequest (h : Host) (i : Incident) (requestId : Identifier) : Validation := do
  let ordered := (i.requestEvents requestId).insertionSort fun a b => a.sequence ≤ b.sequence
  require (ordered.map (·.sequence) = List.range ordered.length)
    (.approvalRequest requestId "must have contiguous sequences")
  match ordered with
  | [] => .ok ()
  | first :: later => do
    require (first.status = .pending) (.approvalRequest requestId "must begin with PENDING")
    require (∀ d ∈ later, d.binding h = first.binding h)
      (.approvalRequest requestId "cannot change its binding")

def validateApprovalLifecycles (h : Host) (i : Incident) : Validation := do
  each (i.validateApproval h) i.approvals
  each (i.validateRequest h) i.requestIds

def requireRunOwner (i : Incident) (owner : Option Identifier) : Validation :=
  requireText (∀ o ∈ owner, o = i.incidentId) "run incident_id must match its Incident"

def validateAggregate (h : Host) (i : Incident) : Validation := do
  validateWindow i.windowStart i.windowEnd
  requireText (∀ e ∈ i.windowEnd, e ≤ i.detectedAt) "window_end must not be later than detected_at"
  requireText (i.createdAt ≤ i.updatedAt) "updated_at must not be earlier than created_at"
  requireText (i.duplicateOf ≠ some i.incidentId)
    "duplicate_of must reference a different incident"
  ensureUnique "source_event_ids" i.sourceEventIds
  ensureUnique "affected_resources"
    (i.affectedResources.map fun r => (r.resourceType.value, r.resourceId))
  ensureUnique "approvals" (i.approvals.map (·.approvalId))
  ensureUnique "approval lifecycle sequences" (i.approvals.map fun d => (d.requestId, d.sequence))
  ensureUnique "approval idempotency keys" (i.approvals.map (·.idempotencyKey))
  ensureUnique "rca_reports" (i.rcaReports.map fun r => (r.reportId, r.version))
  ensureUnique "RCA report versions" (i.rcaReports.map (·.version))
  ensureUnique "evidence_refs" (i.evidenceRefs.map (·.evidenceId))
  ensureUnique "recommendations" (i.recommendations.map (·.actionId))
  requireText (∀ r ∈ i.rcaReports, r.incidentId = i.incidentId)
    "RCA report incident_id must match its Incident"
  i.validateApprovalLifecycles h
  each (fun r => i.requireRunOwner r.incidentId) i.actionRuns
  each (fun v => i.requireRunOwner v.incidentId) i.verificationRuns
  ensureUnique "action_runs" (i.actionRuns.map (·.actionRunId))
  ensureUnique "action run attempts" (i.actionRuns.map fun r => (r.actionId, r.attempt))
  ensureUnique "action run idempotency keys" (i.actionRuns.filterMap (·.idempotencyKey))
  ensureUnique "verification_runs" (i.verificationRuns.map (·.verificationId))
  requireText (∀ v ∈ i.verificationRuns, v.actionRunIds ⊆ i.actionRuns.map (·.actionRunId))
    "VerificationRun action_run_ids must reference this Incident"

/-- `Incident.model_validate` on typed fields: every part, then the aggregate. -/
def modelValidate (h : Host) (i : Incident) : Validation := do
  requireText (i.sourceEventIds.length ≤ maxIncidentSourceEvents)
    "source_event_ids must have at most 1000 items"
  each KpiViolation.validate i.violatedKpis
  each EvidenceReference.validate i.evidenceRefs
  each (RcaReport.validate h) i.rcaReports
  each (RemediationAction.validate h) i.recommendations
  each (ApprovalDecision.validate h) i.approvals
  each ActionRun.validate i.actionRuns
  each VerificationRun.validate i.verificationRuns
  i.validateAggregate h

def Valid (h : Host) (i : Incident) : Prop := i.modelValidate h = .ok ()

instance (h : Host) (i : Incident) : Decidable (i.Valid h) :=
  inferInstanceAs (Decidable (_ = _))

structure Aggregate (h : Host) (i : Incident) : Prop where
  window : validateWindow i.windowStart i.windowEnd = .ok ()
  windowBeforeDetection : ∀ e ∈ i.windowEnd, e ≤ i.detectedAt
  updatedAt : i.createdAt ≤ i.updatedAt
  duplicateOf : i.duplicateOf ≠ some i.incidentId
  sourceEventIds : i.sourceEventIds.Nodup
  affectedResources : (i.affectedResources.map fun r => (r.resourceType.value, r.resourceId)).Nodup
  approvalIds : (i.approvals.map (·.approvalId)).Nodup
  approvalSequences : (i.approvals.map fun d => (d.requestId, d.sequence)).Nodup
  approvalKeys : (i.approvals.map (·.idempotencyKey)).Nodup
  reports : (i.rcaReports.map fun r => (r.reportId, r.version)).Nodup
  reportVersions : (i.rcaReports.map (·.version)).Nodup
  evidenceIds : (i.evidenceRefs.map (·.evidenceId)).Nodup
  actionIds : (i.recommendations.map (·.actionId)).Nodup
  reportOwner : ∀ r ∈ i.rcaReports, r.incidentId = i.incidentId
  approvals : ∀ d ∈ i.approvals, i.validateApproval h d = .ok ()
  requests : ∀ r ∈ i.requestIds, i.validateRequest h r = .ok ()
  actionRunOwner : ∀ r ∈ i.actionRuns, ∀ o ∈ r.incidentId, o = i.incidentId
  verificationOwner : ∀ v ∈ i.verificationRuns, ∀ o ∈ v.incidentId, o = i.incidentId
  actionRunIds : (i.actionRuns.map (·.actionRunId)).Nodup
  actionRunAttempts : (i.actionRuns.map fun r => (r.actionId, r.attempt)).Nodup
  actionRunKeys : (i.actionRuns.filterMap (·.idempotencyKey)).Nodup
  verificationIds : (i.verificationRuns.map (·.verificationId)).Nodup
  verifiedRuns : ∀ v ∈ i.verificationRuns, v.actionRunIds ⊆ i.actionRuns.map (·.actionRunId)

theorem validateAggregate_ok {h : Host} {i : Incident} {u : Unit} :
    i.validateAggregate h = .ok u ↔ i.Aggregate h := by
  simp only [validateAggregate, validateApprovalLifecycles, requireRunOwner, Checks.seq_ok,
    requireText_ok, ensureUnique_ok, Checks.each_ok]
  constructor
  · rintro ⟨h1, h2, h3, h4, h5, h6, h7, h8, h9, h10, h11, h12, h13, h14, h15, h16, h17, h18, h19,
      h20, h21, h22⟩
    exact ⟨h1, h2, h3, h4, h5, h6, h7, h8, h9, h10, h11, h12, h13, h14, h15.1, h15.2, h16, h17,
      h18, h19, h20, h21, h22⟩
  · intro a
    exact ⟨a.window, a.windowBeforeDetection, a.updatedAt, a.duplicateOf, a.sourceEventIds,
      a.affectedResources, a.approvalIds, a.approvalSequences, a.approvalKeys, a.reports,
      a.reportVersions, a.evidenceIds, a.actionIds, a.reportOwner, ⟨a.approvals, a.requests⟩,
      a.actionRunOwner, a.verificationOwner, a.actionRunIds, a.actionRunAttempts,
      a.actionRunKeys, a.verificationIds, a.verifiedRuns⟩

theorem valid_iff {h : Host} {i : Incident} : i.Valid h ↔
    i.sourceEventIds.length ≤ maxIncidentSourceEvents ∧
    (∀ k ∈ i.violatedKpis, k.validate = .ok ()) ∧ (∀ e ∈ i.evidenceRefs, e.validate = .ok ()) ∧
    (∀ r ∈ i.rcaReports, r.validate h = .ok ()) ∧
    (∀ a ∈ i.recommendations, a.validate h = .ok ()) ∧
    (∀ d ∈ i.approvals, d.validate h = .ok ()) ∧ (∀ r ∈ i.actionRuns, r.validate = .ok ()) ∧
    (∀ v ∈ i.verificationRuns, v.validate = .ok ()) ∧ i.Aggregate h := by
  rw [← validateAggregate_ok (u := ())]
  simp only [Valid, modelValidate, Checks.seq_ok, requireText_ok, Checks.each_ok]

end Incident

end NetworkAgent
