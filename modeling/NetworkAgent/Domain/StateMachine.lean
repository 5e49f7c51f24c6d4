import NetworkAgent.Domain.Validation

/-! Pure state transitions of the incident aggregate. -/
namespace NetworkAgent
open Checks (require each)

namespace IncidentStatus

def allowedTransitions : IncidentStatus → List IncidentStatus
  | .detected => [.triaged, .duplicate, .failed, .cancelled]
  | .triaged => [.investigating, .duplicate, .rejected, .failed, .cancelled]
  | .investigating => [.rcaComplete, .duplicate, .failed, .cancelled]
  | .rcaComplete => [.awaitingApproval, .investigating, .rejected, .failed, .cancelled]
  | .awaitingApproval => [.remediating, .rejected, .failed, .cancelled]
  | .remediating => [.verifying, .failed, .cancelled]
  | .verifying => [.resolved, .reopened, .failed, .cancelled]
  | .resolved => [.closed, .reopened]
  | .closed => [.reopened]
  | .reopened => [.investigating, .failed, .cancelled]
  | .duplicate | .rejected | .failed | .cancelled => []

def CanTransition (current target : IncidentStatus) : Prop := target ∈ current.allowedTransitions

instance (current target : IncidentStatus) : Decidable (current.CanTransition target) :=
  inferInstanceAs (Decidable (_ ∈ _))

def isTerminal : IncidentStatus → Bool
  | .duplicate | .rejected | .failed | .cancelled => true
  | _ => false

/-- `SETTLED_STATUSES`: terminal, or closed but reopenable. -/
def isSettled (s : IncidentStatus) : Bool := s.isTerminal || s == .closed

def isActive (s : IncidentStatus) : Bool := !s.isSettled

/-- `_FROZEN_RECOMMENDATION_STATUSES`. -/
def freezesRecommendations : IncidentStatus → Bool
  | .rcaComplete | .awaitingApproval | .remediating | .verifying | .resolved | .closed => true
  | _ => false

theorem isTerminal_iff (s : IncidentStatus) : s.isTerminal = true ↔ s.allowedTransitions = [] := by
  cases s <;> decide

end IncidentStatus

inductive TransitionError where
  | revisionConflict (incidentId : Identifier) (expected : Int) (actual : Nat)
  | invalidTransition (incidentId : Identifier) (current target : IncidentStatus)
  | protectedFields (fields : List String)
  | notASequence (field : String)
  | transitionTime (transitionedAt currentUpdatedAt : Instant)
  | guard (incidentId : Identifier) (target : IncidentStatus) (reason : String)
  /-- The guard that names the action without a matching effective approval. -/
  | unapproved (incidentId : Identifier) (target : IncidentStatus) (actionId : Identifier)
  | validation (error : ModelError)
  deriving DecidableEq

/-! The updates mapping of a caller. -/

/-- What the mapping says about one field: nothing, a value that parses for the field, or
one that does not. -/
inductive Change (α : Type) where
  | keep
  | set (value : α)
  | invalid

/-- An element of a sequence the caller supplies: an instance of the model, or a plain
mapping, which is parsed into one but equals none. -/
inductive Element (α : Type) where
  | model (a : α)
  | mapping (parsed : Option α)

def Element.parse {α : Type} : Element α → Option α
  | .model a => some a
  | .mapping parsed => parsed

/-- `==` between a supplied element and a stored model. -/
def Element.isSame {α : Type} [PyEq α] [DecidableEq α] : Element α → α → Bool
  | .model b, a => decide (PyEq.Same b a)
  | .mapping _, _ => false

/-- The fields a mapping may name, the other keys it names, and its JSON image. -/
structure Updates where
  sourceEventIds : Change (List String) := .keep
  vendorProfile : Change (Option NonEmptyStr) := .keep
  severity : Change IncidentSeverity := .keep
  title : Change String := .keep
  description : Change String := .keep
  affectedResources : Change (List ResourceReference) := .keep
  windowStart : Change (Option Instant) := .keep
  windowEnd : Change (Option Instant) := .keep
  violatedKpis : Change (List KpiViolation) := .keep
  evidenceRefs : Change (List (Element EvidenceReference)) := .keep
  hypotheses : Change (List String) := .keep
  rootCause : Change (Option String) := .keep
  rcaReports : Change (List (Element RcaReport)) := .keep
  recommendations : Change (List (Element RemediationAction)) := .keep
  approvals : Change (List (Element ApprovalDecision)) := .keep
  actionRuns : Change (List (Element ActionRun)) := .keep
  verificationRuns : Change (List (Element VerificationRun)) := .keep
  modelMetadata : Change Dict := .keep
  ruleVersions : Change (List (String × String)) := .keep
  duplicateOf : Change (Option Identifier) := .keep
  others : List String := []
  image : Dict := []

def protectedUpdateFields : List String :=
  ["schema_version", "incident_id", "correlation_key", "technology", "status", "revision",
    "created_at", "detected_at", "trace_id", "updated_at"]

def Change.resolve {α : Type} (current : α) : Change α → Except ModelError α
  | .keep => .ok current
  | .set value => .ok value
  | .invalid => .error (.message "value does not parse")

def Change.resolveAll {α β : Type} (parse : α → Option β) (current : List β) :
    Change (List α) → Except ModelError (List β)
  | .keep => .ok current
  | .set values => values.mapM fun a => match parse a with
    | some b => .ok b
    | none => .error (.message "value does not parse")
  | .invalid => .error (.message "value does not parse")

/-- The dump of the incident with the named fields replaced, parsed again. -/
def Updates.merge (u : Updates) (i : Incident) : Except ModelError Incident := do
  requireText (u.others = []) "Extra inputs are not permitted"
  let sourceEventIds ← u.sourceEventIds.resolveAll Identifier.parse i.sourceEventIds
  let vendorProfile ← u.vendorProfile.resolve i.vendorProfile
  let severity ← u.severity.resolve i.severity
  let title ← u.title.resolve i.title
  let description ← u.description.resolve i.description
  let affectedResources ← u.affectedResources.resolve i.affectedResources
  let windowStart ← u.windowStart.resolve i.windowStart
  let windowEnd ← u.windowEnd.resolve i.windowEnd
  let violatedKpis ← u.violatedKpis.resolve i.violatedKpis
  let evidenceRefs ← u.evidenceRefs.resolveAll Element.parse i.evidenceRefs
  let hypotheses ← u.hypotheses.resolve i.hypotheses
  let rootCause ← u.rootCause.resolve i.rootCause
  let rcaReports ← u.rcaReports.resolveAll Element.parse i.rcaReports
  let recommendations ← u.recommendations.resolveAll Element.parse i.recommendations
  let approvals ← u.approvals.resolveAll Element.parse i.approvals
  let actionRuns ← u.actionRuns.resolveAll Element.parse i.actionRuns
  let verificationRuns ← u.verificationRuns.resolveAll Element.parse i.verificationRuns
  let modelMetadata ← u.modelMetadata.resolve i.modelMetadata
  let ruleVersions ← u.ruleVersions.resolve i.ruleVersions
  let duplicateOf ← u.duplicateOf.resolve i.duplicateOf
  return { i with
    sourceEventIds, vendorProfile, severity, title, description, affectedResources, windowStart,
    windowEnd, violatedKpis, evidenceRefs, hypotheses, rootCause, rcaReports, recommendations,
    approvals, actionRuns, verificationRuns, modelMetadata, ruleVersions, duplicateOf }

/-- The status, the revision and the time that only a transition sets. -/
def Incident.stamp (merged : Incident) (target : IncidentStatus) (revision : Nat)
    (updatedAt : Instant) : Incident :=
  { merged with status := target, revision := revision, updatedAt := updatedAt }

/-! Histories. -/

def keepsHistory {α : Type} [PyEq α] [DecidableEq α] : List α → List (Element α) → Bool
  | [], _ => true
  | _ :: _, [] => false
  | a :: before, e :: after => e.isSame a && keepsHistory before after

def sameHistory {α : Type} [PyEq α] [DecidableEq α] (before : List α) (after : List (Element α)) :
    Bool :=
  after.length == before.length && keepsHistory before after

def appendOnlyText (field : String) : String :=
  field ++ " is append-only; existing history cannot be removed or changed"

def frozenText : String := "recommendations are frozen after entering AWAITING_APPROVAL"

def requireGuard (i : Incident) (target : IncidentStatus) (condition : Prop) [Decidable condition]
    (reason : String) : Except TransitionError Unit :=
  require condition (.guard i.incidentId target reason)

@[simp] theorem requireGuard_ok {i : Incident} {target : IncidentStatus} {condition : Prop}
    [Decidable condition] {reason : String} {u : Unit} :
    requireGuard i target condition reason = .ok u ↔ condition := Checks.require_ok

/-- One field of the mapping against the stored history; a field it does not name passes. -/
def requireHistory {α : Type} (original : Incident) (target : IncidentStatus)
    (field reason : String) (keeps : List α → Bool) :
    Change (List α) → Except TransitionError Unit
  | .keep => .ok ()
  | .set after => requireGuard original target (keeps after = true) reason
  | .invalid => .error (.notASequence field)

/-- `_validate_requested_history_update`: the mapping as the caller wrote it, before it is
parsed. -/
def validateRequestedHistoryUpdate (original : Incident) (target : IncidentStatus) (u : Updates) :
    Except TransitionError Unit := do
  requireHistory original target "approvals" (appendOnlyText "approvals")
    (keepsHistory original.approvals) u.approvals
  requireHistory original target "rca_reports" (appendOnlyText "rca_reports")
    (keepsHistory original.rcaReports) u.rcaReports
  requireHistory original target "action_runs" (appendOnlyText "action_runs")
    (keepsHistory original.actionRuns) u.actionRuns
  requireHistory original target "verification_runs" (appendOnlyText "verification_runs")
    (keepsHistory original.verificationRuns) u.verificationRuns
  requireHistory original target "evidence_refs" (appendOnlyText "evidence_refs")
    (keepsHistory original.evidenceRefs) u.evidenceRefs
  requireHistory original target "source_event_ids" (appendOnlyText "source_event_ids")
    (fun after => decide (original.sourceEventIds.map (·.text) <+: after)) u.sourceEventIds
  if original.status.freezesRecommendations then
    requireHistory original target "recommendations" frozenText
      (sameHistory original.recommendations) u.recommendations

/-- `_validate_append_only`: the parsed successor keeps every history. -/
def validateAppendOnly (original successor : Incident) : Except TransitionError Unit := do
  requireGuard successor successor.status
    (PyEq.Extends original.approvals successor.approvals) (appendOnlyText "approvals")
  requireGuard successor successor.status
    (PyEq.Extends original.rcaReports successor.rcaReports) (appendOnlyText "rca_reports")
  requireGuard successor successor.status
    (PyEq.Extends original.actionRuns successor.actionRuns) (appendOnlyText "action_runs")
  requireGuard successor successor.status
    (PyEq.Extends original.verificationRuns successor.verificationRuns)
    (appendOnlyText "verification_runs")
  requireGuard successor successor.status
    (PyEq.Extends original.evidenceRefs successor.evidenceRefs) (appendOnlyText "evidence_refs")
  requireGuard successor successor.status
    (PyEq.Extends original.sourceEventIds successor.sourceEventIds)
    (appendOnlyText "source_event_ids")
  requireGuard successor successor.status
    (original.status.freezesRecommendations = true →
      PyEq.Same successor.recommendations original.recommendations) frozenText

/-! Guards of the target status. -/

def Incident.latestReport (i : Incident) : Option RcaReport := i.rcaReports.argmax (·.version)

def ReportStatus.isEligible : ReportStatus → Bool
  | .proposed | .approved | .persisted => true
  | .draft | .superseded => false

def RcaReport.HasConclusion (r : RcaReport) : Prop :=
  isBlank (r.rootCause.getD "") = false ∨ r.conclusion = .inconclusive

instance (r : RcaReport) : Decidable r.HasConclusion := inferInstanceAs (Decidable (_ ∨ _))

def validateRcaComplete (i : Incident) (target : IncidentStatus) : Except TransitionError Unit :=
  match i.latestReport with
  | none => .error (.guard i.incidentId target "an eligible latest RCA report is required")
  | some report => requireGuard i target
      (report.incidentId = i.incidentId ∧ report.status.isEligible = true ∧
        report.evidenceRefs ≠ [] ∧ report.HasConclusion ∧
        PyEq.Same report.recommendations i.recommendations)
      ("latest RCA report must match the Incident, be eligible, include evidence, " ++
        "declare a root cause or INCONCLUSIVE result, and own recommendations")

/-- `_latest_approval_events`: the event of the highest sequence of each request. -/
def Incident.latestApprovalEvents (i : Incident) : List ApprovalDecision :=
  i.requestIds.filterMap fun r => (i.requestEvents r).argmax (·.sequence)

/-- One recommended action has a latest approval event that is effective now. -/
def Incident.Approved (h : Host) (i : Incident) (report : RcaReport) (now : Instant)
    (action : RemediationAction) : Prop :=
  ∃ d ∈ i.latestApprovalEvents, d.status = .approved ∧
    d.CoversAction h action i.incidentId report ∧ d.IsEffective now

instance (h : Host) (i : Incident) (report : RcaReport) (now : Instant)
    (action : RemediationAction) : Decidable (i.Approved h report now action) :=
  inferInstanceAs (Decidable (∃ d ∈ i.latestApprovalEvents, _))

def validateRemediationApprovals (h : Host) (i : Incident) (target : IncidentStatus)
    (now : Instant) : Except TransitionError Unit :=
  match i.latestReport with
  | none => .error (.guard i.incidentId target
      "latest RCA report must own the frozen remediation actions")
  | some report => do
    requireGuard i target (PyEq.Same report.recommendations i.recommendations)
      "latest RCA report must own the frozen remediation actions"
    each (fun action => require (i.Approved h report now action)
      (.unapproved i.incidentId target action.actionId)) i.recommendations

def Incident.latestRun (i : Incident) (action : RemediationAction) : Option ActionRun :=
  (i.actionRuns.filter fun r => r.actionId = action.actionId).argmax (·.attempt)

def ActionRun.Succeeded (h : Host) (r : ActionRun) (i : Incident) (action : RemediationAction) :
    Prop :=
  r.status = .succeeded ∧ r.incidentId = some i.incidentId ∧
    r.actionHash = some (action.actionHash h) ∧ r.finishedAt.isSome

instance (h : Host) (r : ActionRun) (i : Incident) (action : RemediationAction) :
    Decidable (r.Succeeded h i action) := inferInstanceAs (Decidable (_ ∧ _ ∧ _ ∧ _))

def exactRunText : String := "every recommended action requires an exact successful ActionRun"

def successfulActionRun (h : Host) (i : Incident) (target : IncidentStatus)
    (action : RemediationAction) : Except TransitionError ActionRun :=
  match i.latestRun action with
  | none => .error (.guard i.incidentId target exactRunText)
  | some latest => do
    requireGuard i target (latest.Succeeded h i action) exactRunText
    return latest

def successfulActionRuns (h : Host) (i : Incident) (target : IncidentStatus) :
    Except TransitionError (List ActionRun) :=
  i.recommendations.mapM (successfulActionRun h i target)

def VerificationRun.Covers (v : VerificationRun) (i : Incident) (runs : List ActionRun) : Prop :=
  v.status = .passed ∧ v.incidentId = some i.incidentId ∧ v.finishedAt.isSome ∧
    (v.checks.any fun c => !isBlank c) = true ∧ v.evidenceRefs ≠ [] ∧
    runs.map (·.actionRunId) ⊆ v.actionRunIds ∧ v.actionRunIds ⊆ runs.map (·.actionRunId)

instance (v : VerificationRun) (i : Incident) (runs : List ActionRun) :
    Decidable (v.Covers i runs) := inferInstanceAs (Decidable (_ ∧ _ ∧ _ ∧ _ ∧ _ ∧ _ ∧ _))

def validateResolution (h : Host) (i : Incident) (target : IncidentStatus) :
    Except TransitionError Unit := do
  let runs ← successfulActionRuns h i target
  match i.verificationRuns.getLast? with
  | none => .error (.guard i.incidentId target "a latest VerificationRun is required")
  | some latest =>
    requireGuard i target (latest.Covers i runs)
      "latest VerificationRun must be PASSED, complete, and cover successful runs"

def validateTarget (h : Host) (i : Incident) (target : IncidentStatus) (now : Instant) :
    Except TransitionError Unit :=
  match target with
  | .duplicate => requireGuard i target (i.duplicateOf ≠ none) "duplicate_of is required"
  | .rcaComplete => validateRcaComplete i target
  | .awaitingApproval => do
    validateRcaComplete i target
    requireGuard i target (i.recommendations ≠ []) "at least one remediation action is required"
  | .remediating => do
    requireGuard i target (i.recommendations ≠ []) "at least one remediation action is required"
    validateRemediationApprovals h i target now
  | .verifying => do
    let _ ← successfulActionRuns h i target
  | .resolved => validateResolution h i target
  | _ => .ok ()

def validateTransitionGuard (h : Host) (original i : Incident) (target : IncidentStatus)
    (now : Instant) : Except TransitionError Unit := do
  validateAppendOnly original i
  validateTarget h i target now

/-! The transition. -/

/-- An instant argument: given by the caller, or the reading of the system clock. -/
inductive When where
  | given (t : Instant)
  | reading (t : Instant)

/-- `_normalize_transition_time`. -/
def When.transitionTime (w : When) (updatedAt : Instant) : Except TransitionError Instant :=
  match w with
  | .reading t => .ok (max t updatedAt)
  | .given t => do
    require (updatedAt ≤ t) (.transitionTime t updatedAt)
    return t

/-- `_normalize_trusted_now`. -/
def When.trustedNow : When → Instant
  | .given t | .reading t => t

def liftModel {α : Type} : Except ModelError α → Except TransitionError α
  | .ok a => .ok a
  | .error e => .error (.validation e)

def transitionIncident (h : Host) (i : Incident) (target : IncidentStatus) (expected : Int)
    (transitionedAt now : When) (u : Updates) : Except TransitionError Incident := do
  require (expected = i.revision) (.revisionConflict i.incidentId expected i.revision)
  require (i.status.CanTransition target) (.invalidTransition i.incidentId i.status target)
  let protectedKeys := u.others.filter fun key => protectedUpdateFields.contains key
  require (protectedKeys = []) (.protectedFields protectedKeys)
  validateRequestedHistoryUpdate i target u
  let updatedAt ← transitionedAt.transitionTime i.updatedAt
  let merged ← liftModel (u.merge i)
  let successor := merged.stamp target (i.revision + 1) updatedAt
  liftModel (successor.modelValidate h)
  validateTransitionGuard h i successor target now.trustedNow
  return successor

end NetworkAgent
