import NetworkAgent.Domain.Approvals
import NetworkAgent.Library.Programs
import NetworkAgent.Memory.Reads

/-! The gateways of the local governance: the fixed simulation policy, the append-only approvals
and the simulated action and verification. A gateway is a program of accesses to the repository
and readings of the trusted clock. -/
namespace NetworkAgent.Governance
open Checks (require)
open Program (ask attempt caught)

def localSimulationActionType : String := "LOCAL_SIMULATION"
def localSimulationParameters : Dict :=
  [("scenario", .str "local-governance-recovery"), ("version", .str "1.0")]
def localSimulationRollback : String :=
  "No rollback is required because the local simulation never changes network state."

/-- `unauthorized` is the `ApprovalAuthorizationError` of the contracts. -/
inductive GovernanceError where
  | value (text : String)
  | notFound (incidentId : String)
  | state (text : String)
  | authorization (text : String)
  | idempotencyConflict (text : String)
  | unauthorized (text : String)
  | validation (error : ModelError)
  | repository (error : RepositoryError)
  | analysis (text : String)
  deriving DecidableEq

/-! `_digest` and the names made of it. -/

def digest (h : Host) (parts : List Json) : String := (h.stableHash (.arr parts)).text

def isSha256Digest (s : String) : Bool := s.length == 64 && s.toList.all Sha256.isHexDigit

def stableId (h : Host) (start : String) (parts : List Json) : String :=
  start ++ "-" ++ String.ofList ((digest h (.str start :: parts)).toList.take 32)

def stepKey (h : Host) (rootIdempotencyKey step : String) (requestParts : List Json) : String :=
  stableId h ("local-governance-" ++ step)
    (.str (digest h [.str rootIdempotencyKey]) :: requestParts)

def requireText (name value : String) (maximum : Nat := 256) : Except GovernanceError String := do
  require (isBlank value = false) (.value (name ++ " must be a non-empty string"))
  require ((strip value).length ≤ maximum)
    (.value (name ++ " must be at most " ++ toString maximum ++ " characters"))
  return strip value

def requireActionHash (value : String) : Except GovernanceError String := do
  require (isSha256Digest value = true)
    (.value "expected_action_hash must be a lowercase SHA-256 digest")
  return value

/-- An approval is later by its time, then its request, then its sequence. -/
def approvalBefore (a b : ApprovalDecision) : Bool :=
  decide (a.requestedAt < b.requestedAt) || (a.requestedAt == b.requestedAt &&
    ((a.requestId != b.requestId && textLe a.requestId.text b.requestId.text) ||
      (a.requestId == b.requestId && decide (a.sequence < b.sequence))))

def laterApproval : Option ApprovalDecision → ApprovalDecision → Option ApprovalDecision
  | none, d => some d
  | some best, d => if approvalBefore best d then some d else some best

/-- `_latest_approval`: the first of the latest ones. -/
def latestApproval (i : Incident) : Option ApprovalDecision := i.approvals.foldl laterApproval none

def setItem (fields : Dict) (key : String) (value : Json) : Dict :=
  if (fields.lookup key).isSome then
    fields.map fun f => if f.1 = key then (key, value) else f
  else fields ++ [(key, value)]

/-- A model that is built from texts; a text that does not fit refuses it. -/
def field {α : Type} (model : String) : Option α → Except GovernanceError α
  | some a => .ok a
  | none => .error (.validation (.message model))

def validated : Validation → Except GovernanceError Unit
  | .ok () => .ok ()
  | .error e => .error (.validation e)

/-! `LocalSimulationPolicy`. -/

def policyVersion : String := "1.0"

def requireState (condition : Prop) [Decidable condition] (text : String) :
    Except GovernanceError Unit := require condition (.state text)

/-- The dump of a report without the fields that the policy fills. -/
def baseReport (report : RcaReport) : Json :=
  match report.dump "Z" with
  | .obj fields => .obj (fields.filter fun f => f.1 ≠ "report_id" ∧ f.1 ≠ "recommendations")
  | other => other

def policyIdentity (i : Incident) (report : RcaReport) (workflowFingerprint : String) : Json := .obj
  [("policy", .str "local-simulation-policy"), ("version", .str policyVersion),
   ("workflow_fingerprint", .str workflowFingerprint), ("incident_id", dumpId i.incidentId),
   ("base_report", baseReport report),
   ("targets", dumpList ResourceReference.stableIdentity i.affectedResources)]

def simulationAction (h : Host) (i : Incident) (identity : Json) (createdAt : Instant) :
    Except GovernanceError RemediationAction := do
  let action : RemediationAction := {
    actionId := ← field "RemediationAction"
      (Identifier.parse (stableId h "local-simulation-action" [identity]))
    actionType := ← field "RemediationAction" (NonEmptyStr.parse localSimulationActionType)
    description := some ("Simulate a governance recovery locally without contacting or " ++
      "changing any network resource.")
    targetResources := i.affectedResources
    parameters := localSimulationParameters
    riskLevel := .low
    reversible := true
    rollbackPlan := some localSimulationRollback
    expectedOutcome := some "Local deterministic verification completes."
    idempotencyKey := some (← field "RemediationAction"
      (Identifier.parse (stableId h "local-simulation-action-key" [identity])))
    createdAt := createdAt }
  validated (action.validate h)
  return action

def attachAction (h : Host) (i : Incident) (report : RcaReport) (workflowFingerprint : String)
    (createdAt : Instant) : Except GovernanceError RcaReport := do
  requireState (report.conclusion = .conclusive)
    "only a CONCLUSIVE RCA may propose a local simulation"
  requireState (isBlank (report.rootCause.getD "") = false ∧ report.evidenceRefs ≠ [])
    "a conclusive local simulation requires root cause and evidence"
  requireState (i.affectedResources ≠ [])
    "a local simulation requires at least one affected resource"
  requireState (report.recommendations = [])
    "the read-only RCA gateway must not propose network actions"
  let action ← simulationAction h i (policyIdentity i report workflowFingerprint) createdAt
  let reportIdentity : Json := .obj [("base_report", baseReport report),
    ("action", action.dump "Z"), ("policy", .str "local-simulation-policy"),
    ("policy_version", .str policyVersion)]
  let attached : RcaReport := { report with
    reportId := ← field "RcaReport"
      (Identifier.parse (stableId h "local-simulation-report" [reportIdentity]))
    recommendations := [action]
    modelMetadata := setItem report.modelMetadata "local_simulation_policy" (.obj
      [("action_type", .str localSimulationActionType), ("side_effects", .bool false),
       ("version", .str policyVersion)]) }
  validated (attached.validate h)
  return attached

/-! What the engine and its gateways do. -/

structure Envelope where
  messageId : Identifier
  workflowId : Identifier
  incidentId : Identifier
  traceId : Identifier
  idempotencyKey : Identifier
  sentAt : Instant

def envelope (model messageId workflowId idempotencyKey : String) (i : Incident)
    (sentAt : Instant) : Except GovernanceError Envelope := do
  return {
    messageId := ← field model (Identifier.parse messageId)
    workflowId := ← field model (Identifier.parse workflowId)
    incidentId := i.incidentId
    traceId := i.traceId
    idempotencyKey := ← field model (Identifier.parse idempotencyKey)
    sentAt := sentAt }

structure RcaRequest extends Envelope where
  incident : Incident
  basedOnRevision : Nat
  requestedReportVersion : Nat

structure RcaResult extends Envelope where
  report : RcaReport
  basedOnRevision : Nat
  requestedReportVersion : Nat

/-- A reading of the trusted clock, an analysis by the RCA gateway that the engine is given, or an
access to the repository. -/
inductive Op where
  | now
  | analyze (request : RcaRequest)
  | repository (access : Access)

def Op.Answer : Op → Type
  | .now => Instant
  | .analyze _ => Except String RcaResult
  | .repository access => access.Answer

abbrev Governed (α : Type) : Type := ExceptT GovernanceError (Program Op Op.Answer) α

def readClock : Governed Instant := ask Op.now

def get (incidentId : String) : Governed (Option Incident) :=
  ask (Op.repository (.get incidentId))

def fromRepository {α : Type} : Except RepositoryError α → Except GovernanceError α
  | .ok a => .ok a
  | .error e => .error (.repository e)

/-- `transition` of the repository, from the version of the incident that is at hand. -/
def transition (current : Incident) (target : IncidentStatus)
    (idempotencyKey actor reason : String) (u : Updates) : Governed Incident := do
  let answer ← ask (Op.repository (.write (.transition current.incidentId.text target
    current.revision ⟨idempotencyKey, actor, reason, current.traceId.text⟩ u)))
  attempt (fromRepository answer)

/-! `LocalApprovalGateway`. -/

structure ApprovalRequest extends Envelope where
  requestId : Identifier
  approvalType : ApprovalType
  report : RcaReport
  action : Option RemediationAction
  scope : List ResourceReference
  basedOnRevision : Nat
  expiresAt : Option Instant

/-- `_report_contains_action`. -/
def ReportContains (h : Host) (report : RcaReport) (action : RemediationAction) : Prop :=
  ∃ r ∈ report.recommendations, r.actionId = action.actionId ∧ r.actionHash h = action.actionHash h

instance (h : Host) (report : RcaReport) (action : RemediationAction) :
    Decidable (ReportContains h report action) :=
  inferInstanceAs (Decidable (∃ r ∈ report.recommendations, _))

/-- `_approval_binding_is_complete`. -/
def ApprovalRequest.validate (h : Host) (r : ApprovalRequest) : Validation := do
  NetworkAgent.requireText (r.report.incidentId = r.incidentId)
    "report.incident_id must match envelope incident_id"
  match r.approvalType, r.action with
  | .reportPersistence, _ => return ()
  | .networkAction, none =>
    .error (.message "network action approval requires an action")
  | .networkAction, some action => do
    NetworkAgent.requireText (r.expiresAt.isSome) "network action approval requires expires_at"
    NetworkAgent.requireText (r.scope ≠ []) "network action approval requires non-empty scope"
    NetworkAgent.requireText
      (resourceScopeIdentity h r.scope = resourceScopeIdentity h action.targetResources)
      "approval scope must exactly match action targets"
    NetworkAgent.requireText (ReportContains h r.report action)
      "action must be an immutable recommendation in report"

def pendingFromRequest (h : Host) (r : ApprovalRequest) (requestedAt : Instant) :
    Except GovernanceError ApprovalDecision :=
  match r.action, r.expiresAt with
  | some action, some expiresAt => do
    let pending : ApprovalDecision := {
      approvalId := ← field "ApprovalDecision"
        (Identifier.parse (stableId h "local-approval-pending" [dumpId r.requestId]))
      requestId := r.requestId
      sequence := 0
      incidentId := r.incidentId
      reportId := r.report.reportId
      reportVersion := r.report.version
      subjectId := action.actionId
      actionHash := some (action.actionHash h)
      scope := r.scope
      requestedBy := some (← field "ApprovalDecision" (Identifier.parse "local-governance-engine"))
      requestedAt := requestedAt
      expiresAt := some expiresAt
      idempotencyKey := r.idempotencyKey }
    validated (pending.validate h)
    return pending
  | _, _ => .error (.state "local simulation approval requires action and expiry")

def SameRequest (h : Host) (r : ApprovalRequest) (pending : ApprovalDecision) : Prop :=
  pending.sequence = 0 ∧ pending.incidentId = r.incidentId ∧ pending.reportId = r.report.reportId ∧
    pending.reportVersion = r.report.version ∧
    some pending.subjectId = r.action.map (·.actionId) ∧
    pending.actionHash = r.action.map (·.actionHash h) ∧ PyEq.Same pending.scope r.scope ∧
    pending.expiresAt = r.expiresAt ∧ pending.idempotencyKey = r.idempotencyKey

instance (h : Host) (r : ApprovalRequest) (pending : ApprovalDecision) :
    Decidable (SameRequest h r pending) := inferInstanceAs (Decidable (_ ∧ _))

/-- The checks of a new request against the incident, and the event it begins with. -/
def newRequest (h : Host) (r : ApprovalRequest) (current : Incident) (trustedNow : Instant) :
    Except GovernanceError ApprovalDecision := do
  requireState (current.status = .rcaComplete) "approval requests require an RCA_COMPLETE incident"
  requireState (current.revision = r.basedOnRevision)
    "approval request revision does not match the current incident revision"
  require ((∃ latest ∈ current.latestReport, PyEq.Same latest r.report) ∧
      ∃ action ∈ r.action, ∃ a ∈ r.report.recommendations, PyEq.Same a action)
    (.authorization "approval request does not bind the latest persisted report action")
  pendingFromRequest h r trustedNow

/-- `request_approval`; the message around its answer is not read and left out. -/
def requestApproval (h : Host) (r : ApprovalRequest) : Governed ApprovalDecision := do
  let trustedNow ← readClock
  attempt (requireState (r.approvalType = .networkAction)
    "local governance only supports network-action approval records")
  attempt (require (∃ e ∈ r.expiresAt, trustedNow < e)
    (.authorization "approval expiry must be later than the trusted gateway time"))
  match ← get r.incidentId.text with
  | none => attempt (.error (.notFound r.incidentId.text))
  | some current =>
    match (current.requestEvents r.requestId).argmin (·.sequence) with
    | some pending => do
      attempt (require (SameRequest h r pending) (.idempotencyConflict
        "approval request identifier was reused with another binding"))
      return pending
    | none => do
      let pending ← attempt (newRequest h r current trustedNow)
      let committed ← transition current .awaitingApproval r.idempotencyKey.text
        "local-approval-gateway" "Request explicit approval for the local simulation"
        { approvals := .set ((current.approvals ++ [pending]).map .model)
          image := [("approvals",
            dumpList (ApprovalDecision.dump "Z") (current.approvals ++ [pending]))] }
      match committed.latestApprovalDecision r.requestId with
      | none => attempt (.error (.state "pending approval was not persisted"))
      | some committedPending => return committedPending

structure DecideArguments where
  incidentId : String
  approve : Bool
  expectedActionHash : String
  expectedRevision : Int
  actor : String
  reason : String
  idempotencyKey : String

/-- The arguments of a decision once they are checked, and the names made of them. -/
structure Ruling where
  expectedActionHash : String
  actor : String
  reason : String
  eventKey : String
  approvalId : String

def decisionKey (h : Host) (idempotencyKey : String) : String :=
  stepKey h idempotencyKey "approval-decision" []

def checkDecision (h : Host) (a : DecideArguments) (expectedActionHash : String) :
    Except GovernanceError Ruling := do
  let actor ← requireText "actor" a.actor
  let reason ← requireText "reason" a.reason 4096
  let idempotencyKey ← requireText "idempotency_key" a.idempotencyKey
  let requestFingerprint := digest h [.str "approval-decision-v1", .bool a.approve,
    .str expectedActionHash, .int a.expectedRevision, .str actor, .str reason]
  return {
    expectedActionHash, actor, reason
    eventKey := decisionKey h idempotencyKey
    approvalId := stableId h "local-approval-decision"
      [.str (digest h [.str idempotencyKey]), .str requestFingerprint] }

/-- The latest approval, when it is the pending one of the one recommended action. -/
def requirePending (h : Host) (a : DecideArguments) (r : Ruling) (current : Incident) :
    Except GovernanceError ApprovalDecision := do
  requireState (current.status = .awaitingApproval)
    "an explicit decision requires an AWAITING_APPROVAL incident"
  requireState ((current.revision : Int) = a.expectedRevision)
    ("approval preview revision " ++ toString a.expectedRevision ++ " is stale; " ++
      "current revision is " ++ toString current.revision)
  match current.latestReport, current.latestReport.map (·.recommendations) with
  | some report, some [action] => do
    require ((action.actionHash h).text = r.expectedActionHash) (.authorization
      "approved action hash does not match the current local simulation")
    match latestApproval current with
    | none => .error (.authorization
        "the latest pending approval does not cover the simulation action")
    | some pending => do
      require (pending.sequence = 0 ∧ pending.status = .pending ∧
          pending.CoversAction h action current.incidentId report)
        (.authorization "the latest pending approval does not cover the simulation action")
      return pending
  | _, _ => .error (.state
      "local governance requires exactly one persisted simulation action")

def decidedStatus (approve : Bool) (pending : ApprovalDecision) (trustedNow : Instant) :
    ApprovalStatus :=
  if approve = false then .rejected
  else if ∃ e ∈ pending.expiresAt, trustedNow < e then .approved
  else .expired

def terminalDecision (h : Host) (r : Ruling) (pending : ApprovalDecision) (status : ApprovalStatus)
    (trustedNow : Instant) : Except GovernanceError ApprovalDecision := do
  let terminal : ApprovalDecision := { pending with
    approvalId := ← field "ApprovalDecision" (Identifier.parse r.approvalId)
    sequence := 1
    status := status
    decidedBy := some (← field "ApprovalDecision" (Identifier.parse r.actor))
    decidedAt := some trustedNow
    reason := some r.reason
    idempotencyKey := ← field "ApprovalDecision" (Identifier.parse r.eventKey) }
  validated (terminal.validate h)
  return terminal

def decideRead (h : Host) (a : DecideArguments) (r : Ruling) (trustedNow : Instant)
    (current : Incident) : Governed Incident :=
  match current.approvals.find? fun d => d.idempotencyKey.text = r.eventKey with
  | some replay => do
    attempt (require (replay.approvalId.text = r.approvalId) (.idempotencyConflict
      "approval decision key was retried with another request"))
    return current
  | none => do
    let pending ← attempt (requirePending h a r current)
    let status := decidedStatus a.approve pending trustedNow
    let terminal ← attempt (terminalDecision h r pending status trustedNow)
    let target := if status = .approved then IncidentStatus.remediating else .rejected
    transition current target r.eventKey r.actor
      ("Record explicit local simulation decision: " ++ status.value)
      { approvals := .set ((current.approvals ++ [terminal]).map .model)
        image := [("approvals",
          dumpList (ApprovalDecision.dump "Z") (current.approvals ++ [terminal]))] }

/-- `decide` of the approval gateway. -/
def decideApproval (h : Host) (a : DecideArguments) : Governed Incident := do
  let expectedActionHash ← attempt (requireActionHash a.expectedActionHash)
  attempt (require (0 ≤ a.expectedRevision)
    (.value "expected_revision must be a non-negative integer"))
  let trustedNow ← readClock
  let r ← attempt (checkDecision h a expectedActionHash)
  match ← get a.incidentId with
  | none => attempt (.error (.notFound a.incidentId))
  | some current => decideRead h a r trustedNow current

structure NetworkChangeRequest extends Envelope where
  action : RemediationAction
  report : RcaReport
  basedOnRevision : Nat
  approvalReference : ApprovalReference

/-- `_immutable_bindings_match`. -/
def NetworkChangeRequest.validate (h : Host) (r : NetworkChangeRequest) : Validation := do
  let reference := r.approvalReference
  NetworkAgent.requireText (r.report.incidentId = r.incidentId)
    "report.incident_id must match envelope incident_id"
  NetworkAgent.requireText (reference.incidentId = r.incidentId)
    "approval reference is bound to another incident"
  NetworkAgent.requireText (reference.reportId = r.report.reportId)
    "approval reference report_id does not match report"
  NetworkAgent.requireText (reference.reportVersion = r.report.version)
    "approval reference report_version does not match report"
  NetworkAgent.requireText (reference.subjectId = r.action.actionId)
    "approval reference subject_id does not match action"
  NetworkAgent.requireText (reference.actionHash = r.action.actionHash h)
    "approval reference action_hash does not match action"
  NetworkAgent.requireText (reference.basedOnRevision = r.basedOnRevision)
    "approval reference revision does not match request"
  NetworkAgent.requireText (ReportContains h r.report r.action)
    "action must be an immutable recommendation in report"

def unauthorizedUnless {α : Type} : Except String α → Except GovernanceError α
  | .ok a => .ok a
  | .error text => .error (.unauthorized text)

def requireAuthorized (condition : Prop) [Decidable condition] (text : String) :
    Except GovernanceError Unit := require condition (.unauthorized text)

def resolveForExecution (h : Host) (r : NetworkChangeRequest) : Governed ApprovalDecision := do
  match ← get r.incidentId.text with
  | none => attempt (.error (.notFound r.incidentId.text))
  | some current => do
    attempt (requireAuthorized (current.status = .remediating)
      "local action execution requires a REMEDIATING incident")
    attempt (requireAuthorized (current.revision = r.basedOnRevision + 1)
      "incident revision changed after the approved preview")
    attempt (requireAuthorized ((∃ latest ∈ current.latestReport, PyEq.Same latest r.report) ∧
        ∃ a ∈ current.recommendations, PyEq.Same a r.action)
      "execution request does not match the frozen incident recommendation")
    let trustedNow ← readClock
    attempt (unauthorizedUnless (validateApprovalReference h r.approvalReference current.approvals
      r.action r.report trustedNow))

/-! `SimulatedActionGateway` and `LocalVerificationGateway`. -/

def IsSimulation (action : RemediationAction) : Prop :=
  action.actionType.text = localSimulationActionType ∧
    normDict action.parameters = normDict localSimulationParameters

instance (action : RemediationAction) : Decidable (IsSimulation action) :=
  inferInstanceAs (Decidable (_ ∧ _))

def simulatedRun (h : Host) (r : NetworkChangeRequest) (trustedNow : Instant) :
    Except GovernanceError ActionRun := do
  let run : ActionRun := {
    actionRunId := ← field "ActionRun" (Identifier.parse (stableId h "local-simulation-run"
      [dumpId r.incidentId, dumpId r.idempotencyKey, dumpDigest (r.action.actionHash h)]))
    incidentId := some r.incidentId
    actionId := r.action.actionId
    actionHash := some (r.action.actionHash h)
    status := .succeeded
    idempotencyKey := some r.idempotencyKey
    attempt := 1
    startedAt := some trustedNow
    finishedAt := some trustedNow
    outputSummary := some "Local simulation completed; no network state was changed."
    metadata := [("mode", .str "simulation"), ("side_effects", .bool false)] }
  validated run.validate
  return run

/-- `execute` of the action gateway. -/
def executeAction (h : Host) (r : NetworkChangeRequest) : Governed ActionRun := do
  attempt (require (IsSimulation r.action ∧ r.action.reversible = true ∧
      r.action.rollbackPlan = some localSimulationRollback)
    (.authorization "the local action gateway accepts only the fixed local simulation"))
  let _ ← resolveForExecution h r
  let trustedNow ← readClock
  attempt (simulatedRun h r trustedNow)

structure VerificationRequest extends Envelope where
  actionRun : ActionRun
  verification : VerificationRun

/-- `_action_run_binding_matches`. -/
def VerificationRequest.validate (r : VerificationRequest) : Validation := do
  NetworkAgent.requireText (r.actionRun.status = .succeeded)
    "verification requires a SUCCEEDED ActionRun"
  NetworkAgent.requireText (r.actionRun.incidentId = some r.incidentId)
    "action_run.incident_id must match envelope incident_id"
  NetworkAgent.requireText (r.verification.incidentId = some r.incidentId)
    "verification.incident_id must match envelope incident_id"
  NetworkAgent.requireText (r.actionRun.actionRunId ∈ r.verification.actionRunIds)
    "verification must include action_run.action_run_id"

def requestedOutcome (pending : VerificationRun) : Option VerificationStatus :=
  match pending.metadata.lookup "requested_outcome" with
  | some (.str "PASSED") => some .passed
  | some (.str "FAILED") => some .failed
  | _ => none

def verifiedRun (h : Host) (pending : VerificationRun) (status : VerificationStatus)
    (trustedNow : Instant) : Except GovernanceError VerificationRun := do
  let summary := if status = .passed then "Local simulated health checks passed."
    else "Local simulated health checks failed."
  let evidence : EvidenceReference := {
    evidenceId := ← field "EvidenceReference" (Identifier.parse (stableId h
      "local-verification-evidence" [dumpId pending.verificationId, .str status.value]))
    evidenceType := .testResult
    uri := ← field "EvidenceReference"
      (NonEmptyStr.parse ("local-simulation://verification/" ++ pending.verificationId.text))
    source := some (← field "EvidenceReference" (NonEmptyStr.parse "local-verification-gateway"))
    summary := some summary
    collectedAt := some trustedNow
    attributes := [("mode", .str "simulation"), ("side_effects", .bool false)] }
  validated evidence.validate
  let error : Option NonEmptyStr := if status = .failed then
    NonEmptyStr.parse "Local simulated verification failed" else none
  let verification : VerificationRun := { pending with
    status := status
    evidenceRefs := [evidence]
    summary := some summary
    error := error
    startedAt := some trustedNow
    finishedAt := some trustedNow
    metadata := setItem (setItem pending.metadata "mode" (.str "simulation"))
      "side_effects" (.bool false) }
  validated verification.validate
  return verification

/-- `verify`; the message around its answer is left out. -/
def verify (h : Host) (r : VerificationRequest) : Governed VerificationRun := do
  attempt (requireState (r.verification.status = .pending)
    "local verification input must be PENDING")
  match requestedOutcome r.verification with
  | none => attempt (.error (.state
      "local verification requires an explicit deterministic outcome"))
  | some status => do
    let trustedNow ← readClock
    attempt (verifiedRun h r.verification status trustedNow)

end NetworkAgent.Governance
