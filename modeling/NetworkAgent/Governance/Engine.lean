import NetworkAgent.Governance.Gateways

/-! The engine of the local governance: what prepares an incident for approval, and what executes
its approved action, or fails it when the approval is no longer effective. -/
namespace NetworkAgent.Governance
open Checks (require)
open Program (ask attempt caught)

/-- What the engine is given: `timedelta.total_seconds` of a number of microseconds, and the
analysis of the RCA gateway, which may read the repository and the clock. -/
structure Engine extends Host where
  totalSeconds : Int → ℚ
  analyze : Memory → Instant → RcaRequest → Except String RcaResult

def Engine.exec (g : Engine) (m : Memory) (now : Instant) : (op : Op) → op.Answer × Memory
  | .now => (now, m)
  | .analyze request => (g.analyze m now request, m)
  | .repository access => m.access g.toHost now access

structure GovernanceResult where
  incident : Incident
  replayed : Bool
  deriving DecidableEq

def markerKey : String := "local_governance"
def executionFailureMarkerKey : String := "local_governance_execution_failure"
def executionApprovalExpiredCode : String := "APPROVAL_NO_LONGER_EFFECTIVE"
def executionApprovalExpiredReason : String :=
  "Fail local simulation because its approval is no longer effective"

/-- `_get`. -/
def getIncident (incidentId : String) : Governed Incident := do
  let incidentId ← attempt (requireText "incident_id" incidentId)
  match ← get incidentId with
  | none => attempt (.error (.notFound incidentId))
  | some incident => return incident

/-! `prepare`. -/

structure PrepareArguments where
  incidentId : String
  idempotencyKey : String
  actor : String := "local-governance"
  approvalTtl : Int := 15 * 60 * 1000000

structure Preparation where
  idempotencyKey : String
  actor : String
  approvalTtl : Int
  requestFingerprint : String
  workflowId : String
  marker : Dict

/-- `_marker`, with the two values of it that are used by themselves. -/
def preparation (g : Engine) (idempotencyKey actor : String) (approvalTtl : Int) : Preparation :=
  let rootFingerprint := digest g.toHost [.str idempotencyKey]
  let requestFingerprint := digest g.toHost [.str "local-governance-prepare-v1",
    .str rootFingerprint, .float (g.totalSeconds approvalTtl), .str actor]
  let workflowId := stableId g.toHost "local-governance-workflow" [.str rootFingerprint]
  { idempotencyKey, actor, approvalTtl, requestFingerprint, workflowId
    marker := [("actor", .str actor), ("mode", .str "simulation"),
      ("policy_version", .str policyVersion), ("root_fingerprint", .str rootFingerprint),
      ("request_fingerprint", .str requestFingerprint),
      ("approval_ttl_seconds", .float (g.totalSeconds approvalTtl)),
      ("workflow_id", .str workflowId)] }

/-- What a call of `prepare` checks before it reads the incident. -/
def checkPrepare (g : Engine) (a : PrepareArguments) : Except GovernanceError Preparation := do
  let idempotencyKey ← requireText "idempotency_key" a.idempotencyKey
  let actor ← requireText "actor" a.actor
  require (0 < a.approvalTtl ∧ a.approvalTtl ≤ 24 * 60 * 60 * 1000000)
    (.value "approval_ttl must be greater than zero and at most 24 hours")
  return preparation g idempotencyKey actor a.approvalTtl

def requireMarker (i : Incident) (expected : Dict) : Except GovernanceError Unit :=
  match i.modelMetadata.lookup markerKey with
  | some (.obj actual) => do
    requireState (actual.lookup "root_fingerprint" = expected.lookup "root_fingerprint")
      "incident is already owned by another governance request"
    require (actual.lookup "request_fingerprint" = expected.lookup "request_fingerprint")
      (.idempotencyConflict "prepare idempotency key was retried with another request")
    requireState (normDict actual = normDict expected)
      "persisted local governance binding is inconsistent"
  | _ => .error (.state "incident is already owned by another lifecycle")

/-- A DETECTED incident is marked as its own; any other has to be marked so. -/
def triage (g : Engine) (p : Preparation) (current : Incident) : Governed (Incident × Bool) :=
  if current.status = .detected then do
    let metadata := setItem current.modelMetadata markerKey (.obj p.marker)
    let triaged ← transition current .triaged (stepKey g.toHost p.idempotencyKey "triage" [])
      p.actor "Triage incident for deterministic local governance"
      { modelMetadata := .set metadata, image := [("model_metadata", .obj metadata)] }
    return (triaged, true)
  else do
    attempt (requireMarker current p.marker)
    return (current, false)

def investigate (g : Engine) (p : Preparation) (current : Incident) (wrote : Bool) :
    Governed (Incident × Bool) :=
  if current.status = .triaged then do
    let investigating ← transition current .investigating
      (stepKey g.toHost p.idempotencyKey "investigate" []) p.actor
      "Start deterministic local RCA" {}
    return (investigating, true)
  else return (current, wrote)

def rcaRequest (g : Engine) (p : Preparation) (current : Incident) (now : Instant) :
    Except GovernanceError RcaRequest := do
  let envelope ← envelope "RcaRequest"
    (stableId g.toHost "local-rca-request" [.str p.requestFingerprint, .int current.revision])
    p.workflowId (stepKey g.toHost p.idempotencyKey "rca-request" []) current now
  return { envelope with
    incident := current
    basedOnRevision := current.revision
    requestedReportVersion := (current.latestReport.map (·.version)).getD 0 + 1 }

def validateRcaResult (request : RcaRequest) (result : RcaResult) :
    Except GovernanceError Unit := do
  requireState (result.incidentId = request.incidentId ∧ result.traceId = request.traceId ∧
      result.basedOnRevision = request.basedOnRevision ∧
      result.requestedReportVersion = request.requestedReportVersion ∧
      result.report.incidentId = request.incidentId ∧
      result.report.version = request.requestedReportVersion)
    "RCA result is not bound to the requested incident revision"
  requireState (result.report.status.isEligible = true)
    "RCA result is not eligible for persistence"
  requireState (result.report.evidenceRefs ≠ []) "RCA result must include local evidence"
  requireState (result.report.recommendations = [])
    "the read-only local RCA gateway returned an action"

def fromGateway {α : Type} : Except String α → Except GovernanceError α
  | .ok a => .ok a
  | .error text => .error (.analysis text)

/-- The report to persist, with the action that the policy attaches to a conclusive one. -/
def governedReport (g : Engine) (p : Preparation) (current : Incident) (report : RcaReport)
    (now : Instant) : Except GovernanceError RcaReport :=
  if report.conclusion = .conclusive then
    attachAction g.toHost current report p.requestFingerprint now
  else .ok report

def completeRca (g : Engine) (p : Preparation) (current : Incident) (wrote : Bool) :
    Governed (Incident × Bool) :=
  if current.status = .investigating then do
    let now ← readClock
    let request ← attempt (rcaRequest g p current now)
    let answer ← ask (Op.analyze request)
    let result ← attempt (fromGateway answer)
    attempt (validateRcaResult request result)
    let report ← attempt (governedReport g p current result.report now)
    let complete ← transition current .rcaComplete
      (stepKey g.toHost p.idempotencyKey "rca-complete" []) p.actor
      "Persist deterministic local RCA result"
      { rootCause := .set report.rootCause
        hypotheses := .set report.hypotheses
        rcaReports := .set ((current.rcaReports ++ [report]).map .model)
        recommendations := .set (report.recommendations.map .model)
        image := [("root_cause", optional .str report.rootCause),
          ("hypotheses", dumpList .str report.hypotheses),
          ("rca_reports", dumpList (RcaReport.dump "Z") (current.rcaReports ++ [report])),
          ("recommendations", dumpList (RemediationAction.dump "Z") report.recommendations)] }
    return (complete, true)
  else return (current, wrote)

def approvalRequest (g : Engine) (p : Preparation) (current : Incident) (report : RcaReport)
    (action : RemediationAction) (now : Instant) : Except GovernanceError ApprovalRequest := do
  let envelope ← envelope "ApprovalRequest"
    (stableId g.toHost "local-approval-request-message"
      [.str p.requestFingerprint, dumpDigest (action.actionHash g.toHost)])
    p.workflowId (stepKey g.toHost p.idempotencyKey "approval-request" []) current now
  let request : ApprovalRequest := { envelope with
    requestId := ← field "ApprovalRequest" (Identifier.parse (stableId g.toHost
      "local-approval-request" [.str p.requestFingerprint, dumpId report.reportId,
        dumpDigest (action.actionHash g.toHost)]))
    approvalType := .networkAction
    report := report
    action := some action
    scope := action.targetResources
    basedOnRevision := current.revision
    expiresAt := some (now + p.approvalTtl) }
  validated (request.validate g.toHost)
  return request

/-! The binding of a failed execution. -/

def executionFailureBinding (rootFingerprint requestFingerprint : String) : Dict :=
  [("code", .str executionApprovalExpiredCode), ("request_fingerprint", .str requestFingerprint),
   ("root_fingerprint", .str rootFingerprint), ("side_effects", .bool false)]

def isDigestItem : Option Json → Bool
  | some (.str s) => isSha256Digest s
  | _ => false

def failureKeys : List String := ["code", "request_fingerprint", "root_fingerprint", "side_effects"]

/-- The failure is bound to its request, nothing was run, and an approval covers the fixed
simulation. -/
def CompleteFailure (h : Host) (i : Incident) (raw : Dict) (report : RcaReport)
    (action : RemediationAction) (approval : ApprovalDecision) : Prop :=
  (raw.map Prod.fst ⊆ failureKeys ∧ failureKeys ⊆ raw.map Prod.fst) ∧
    raw.lookup "code" = some (.str executionApprovalExpiredCode) ∧
    raw.lookup "side_effects" = some (.bool false) ∧
    isDigestItem (raw.lookup "request_fingerprint") = true ∧
    isDigestItem (raw.lookup "root_fingerprint") = true ∧
    i.actionRuns = [] ∧ i.verificationRuns = [] ∧ IsSimulation action ∧
    approval.status = .approved ∧ approval.CoversAction h action i.incidentId report

instance (h : Host) (i : Incident) (raw : Dict) (report : RcaReport) (action : RemediationAction)
    (approval : ApprovalDecision) : Decidable (CompleteFailure h i raw report action approval) :=
  inferInstanceAs (Decidable (_ ∧ _))

def incompleteFailure : GovernanceError :=
  .state "FAILED incident lacks a complete local execution failure binding"

/-- `_require_complete_execution_failure_binding`. -/
def requireCompleteFailureBinding (h : Host) (i : Incident) : Except GovernanceError Dict :=
  match i.modelMetadata.lookup executionFailureMarkerKey, i.latestReport, latestApproval i with
  | some (.obj raw), some report, some approval =>
    match report.recommendations with
    | [action] => do
      require (CompleteFailure h i raw report action approval) incompleteFailure
      return raw
    | _ => .error incompleteFailure
  | _, _, _ => .error incompleteFailure

/-! The rest of `prepare`. -/

def isGoverned : IncidentStatus → Bool
  | .awaitingApproval | .remediating | .verifying | .resolved | .reopened | .rejected => true
  | _ => false

def settle (g : Engine) (p : Preparation) (current : Incident) (wrote : Bool) :
    Except GovernanceError GovernanceResult :=
  if current.status = .failed then do
    let _ ← requireCompleteFailureBinding g.toHost current
    return ⟨current, true⟩
  else if isGoverned current.status = true then do
    requireMarker current p.marker
    return ⟨current, !wrote⟩
  else .error (.state ("prepare cannot resume incident in " ++ current.status.value))

def approveAndSettle (g : Engine) (p : Preparation) (current : Incident) (wrote : Bool) :
    Governed GovernanceResult :=
  if current.status = .rcaComplete then
    match current.latestReport with
    | none => attempt (.error (.state "RCA_COMPLETE incident has no report"))
    | some report =>
      if report.conclusion = .inconclusive then return ⟨current, !wrote⟩
      else match report.recommendations with
        | [action] => do
          let now ← readClock
          let request ← attempt (approvalRequest g p current report action now)
          let _ ← requestApproval g.toHost request
          let current ← getIncident current.incidentId.text
          attempt (settle g p current true)
        | _ => attempt (.error (.state
            "conclusive local RCA must contain one simulation action"))
  else attempt (settle g p current wrote)

def prepare (g : Engine) (a : PrepareArguments) : Governed GovernanceResult := do
  let p ← attempt (checkPrepare g a)
  let current ← getIncident a.incidentId
  let (current, wrote) ← triage g p current
  let (current, wrote) ← investigate g p current wrote
  let (current, wrote) ← completeRca g p current wrote
  approveAndSettle g p current wrote

/-! `decide`. -/

def decide (g : Engine) (a : DecideArguments) : Governed GovernanceResult := do
  let before ← getIncident a.incidentId
  let idempotencyKey ← attempt (requireText "idempotency_key" a.idempotencyKey)
  let hadEvent := before.approvals.any fun d =>
    d.idempotencyKey.text == decisionKey g.toHost idempotencyKey
  let committed ← decideApproval g.toHost a
  return ⟨committed, hadEvent⟩

/-! `execute`. -/

structure ExecuteArguments where
  incidentId : String
  idempotencyKey : String
  actor : String := "local-simulator"
  verificationPassed : Bool := true

/-- What a call of `execute` takes from its arguments and from the incident as it was read. -/
structure Execution where
  idempotencyKey : String
  actor : String
  verificationPassed : Bool
  report : RcaReport
  action : RemediationAction
  approval : Option ApprovalDecision
  rootFingerprint : String
  requestFingerprint : String
  verificationId : String

def execution (h : Host) (a : ExecuteArguments) (idempotencyKey actor : String) (current : Incident)
    (report : RcaReport) (action : RemediationAction) : Execution :=
  let rootFingerprint := digest h [.str idempotencyKey]
  let approval := latestApproval current
  { idempotencyKey, actor, report, action, approval, rootFingerprint
    verificationPassed := a.verificationPassed
    requestFingerprint := digest h [.str "local-governance-execute-v2",
      dumpId current.incidentId, .str rootFingerprint, .str actor,
      .bool a.verificationPassed, dumpDigest (action.actionHash h),
      optional (fun d : ApprovalDecision => dumpId d.approvalId) approval]
    verificationId := stableId h "local-verification"
      [.str rootFingerprint, .str a.incidentId] }

def freeze (h : Host) (a : ExecuteArguments) (idempotencyKey actor : String) (current : Incident) :
    Except GovernanceError Execution :=
  match current.latestReport with
  | none => .error (.state "execution requires one frozen local simulation action")
  | some report =>
    match report.recommendations with
    | [action] => .ok (execution h a idempotencyKey actor current report action)
    | _ => .error (.state "execution requires one frozen local simulation action")

def Execution.verificationOf (x : Execution) (current : Incident) : Option VerificationRun :=
  current.verificationRuns.find? fun run => run.verificationId.text = x.verificationId

def replayVerification (x : Execution) (current : Incident) (run : VerificationRun) :
    Except GovernanceError GovernanceResult := do
  require (run.metadata.lookup "request_fingerprint" = some (.str x.requestFingerprint))
    (.idempotencyConflict "execution key was retried with another request")
  return ⟨current, true⟩

def resumeFailed (h : Host) (x : Execution) (current : Incident) :
    Except GovernanceError GovernanceResult :=
  match requireCompleteFailureBinding h current with
  | .error _ => .error (.state "FAILED incident was not produced by expired execution recovery")
  | .ok binding => do
    requireState (binding.lookup "root_fingerprint" = some (.str x.rootFingerprint))
      "FAILED incident belongs to another execution request"
    require (binding.lookup "request_fingerprint" = some (.str x.requestFingerprint))
      (.idempotencyConflict "execution key was retried with another request")
    requireState (normDict binding =
        normDict (executionFailureBinding x.rootFingerprint x.requestFingerprint))
      "persisted execution failure binding is inconsistent"
    return ⟨current, true⟩

def failedMetadata (x : Execution) (current : Incident) : Dict :=
  setItem current.modelMetadata executionFailureMarkerKey
    (.obj (executionFailureBinding x.rootFingerprint x.requestFingerprint))

def failExpiredExecution (g : Engine) (x : Execution) (current : Incident) :
    Governed GovernanceResult := do
  attempt (requireState (current.status = .remediating)
    "expired execution recovery requires a REMEDIATING incident")
  let committed ← transition current .failed
    (stepKey g.toHost x.idempotencyKey "approval-no-longer-effective" [.str x.requestFingerprint])
    x.actor executionApprovalExpiredReason
    { modelMetadata := .set (failedMetadata x current)
      image := [("model_metadata", .obj (failedMetadata x current))] }
  return ⟨committed, false⟩

def authorizedApproval (h : Host) (x : Execution) (current : Incident) :
    Except GovernanceError ApprovalDecision :=
  match x.approval with
  | none => .error (.authorization "latest approval does not cover the simulation action")
  | some approval => do
    require (approval.status = .approved ∧
        approval.CoversAction h x.action current.incidentId x.report)
      (.authorization "latest approval does not cover the simulation action")
    return approval

def actionKey (h : Host) (x : Execution) : String :=
  stepKey h x.idempotencyKey "simulate-action"
    [.str x.requestFingerprint, dumpDigest (x.action.actionHash h)]

/-- The reference to an approval; the revision it is based on is the one before. -/
def approvalReference (h : Host) (x : Execution) (current : Incident) (approval : ApprovalDecision)
    (now : Instant) : Except GovernanceError ApprovalReference := do
  let validatorId ← field "ApprovalReference" (Identifier.parse "local-governance-engine")
  if wellFormed : 1 ≤ approval.sequence ∧ 1 ≤ x.report.version ∧ 1 ≤ current.revision then
    return {
      approvalId := approval.approvalId
      requestId := approval.requestId
      decisionSequence := approval.sequence
      incidentId := current.incidentId
      reportId := x.report.reportId
      reportVersion := x.report.version
      subjectId := x.action.actionId
      actionHash := x.action.actionHash h
      basedOnRevision := current.revision - 1
      validatedAt := now
      validatorId := validatorId
      decided := wellFormed.1
      versioned := wellFormed.2.1 }
  else .error (.validation (.message "ApprovalReference"))

def changeRequest (h : Host) (x : Execution) (current : Incident) (approval : ApprovalDecision)
    (now : Instant) : Except GovernanceError NetworkChangeRequest := do
  let reference ← approvalReference h x current approval now
  let envelope ← envelope "NetworkChangeRequest"
    (stableId h "local-change-request"
      [.str x.requestFingerprint, dumpDigest (x.action.actionHash h)])
    (stableId h "local-execution-workflow" [.str x.requestFingerprint]) (actionKey h x) current now
  let request : NetworkChangeRequest := { envelope with
    action := x.action
    report := x.report
    basedOnRevision := current.revision - 1
    approvalReference := reference }
  validated (request.validate h)
  return request

/-- A REMEDIATING incident: its action is run, or it fails because the approval is no longer
effective, before the action gateway is asked or when the gateway refuses. -/
def remediate (g : Engine) (x : Execution) (current : Incident) :
    Governed (GovernanceResult ⊕ Incident) := do
  let approval ← attempt (authorizedApproval g.toHost x current)
  let now ← readClock
  if ¬ approval.IsEffective now then
    return .inl (← failExpiredExecution g x current)
  else
    let request ← attempt (changeRequest g.toHost x current approval now)
    match ← caught (executeAction g.toHost request) with
    | .ok run =>
      return .inr (← transition current .verifying (actionKey g.toHost x) x.actor
        "Record side-effect-free local simulation run"
        { actionRuns := .set ((current.actionRuns ++ [run]).map .model)
          image := [("action_runs",
            dumpList (ActionRun.dump "Z") (current.actionRuns ++ [run]))] })
    | .error (.unauthorized text) =>
      let now ← readClock
      if ¬ approval.IsEffective now then
        return .inl (← failExpiredExecution g x current)
      else attempt (.error (.authorization text))
    | .error other => attempt (.error other)

def executedRun (h : Host) (x : Execution) (current : Incident) :
    Except GovernanceError ActionRun :=
  let expectedRunId := stableId h "local-simulation-run"
    [dumpId current.incidentId, .str (actionKey h x), dumpDigest (x.action.actionHash h)]
  match current.actionRuns.find? fun run => run.actionRunId.text = expectedRunId with
  | none =>
    if current.actionRuns ≠ [] then .error (.idempotencyConflict
      "another execution request already produced the action run")
    else .error (.state "simulated action run was not persisted")
  | some run => do
    requireState (run.status = .succeeded ∧ run.actionHash = some (x.action.actionHash h))
      "simulated action run is not successful"
    return run

def verificationRequest (h : Host) (x : Execution) (current : Incident) (run : ActionRun)
    (now : Instant) : Except GovernanceError VerificationRequest := do
  let pending : VerificationRun := {
    verificationId := ← field "VerificationRun" (Identifier.parse x.verificationId)
    incidentId := some current.incidentId
    actionRunIds := [run.actionRunId]
    status := .pending
    checks := ["local deterministic post-remediation health check"]
    metadata := [("mode", .str "simulation"),
      ("requested_outcome", .str (if x.verificationPassed then "PASSED" else "FAILED")),
      ("request_fingerprint", .str x.requestFingerprint)] }
  validated pending.validate
  let envelope ← envelope "VerificationRequest"
    (stableId h "local-verification-request" [.str x.requestFingerprint, .str x.verificationId])
    (stableId h "local-execution-workflow" [.str x.requestFingerprint])
    (stepKey h x.idempotencyKey "verify" [.str x.requestFingerprint]) current now
  let request : VerificationRequest := { envelope with actionRun := run, verification := pending }
  validated request.validate
  return request

def complete (g : Engine) (x : Execution) (current : Incident) : Governed GovernanceResult := do
  attempt (requireState (current.status = .verifying)
    "local execution requires a REMEDIATING or resumable VERIFYING incident")
  let run ← attempt (executedRun g.toHost x current)
  let now ← readClock
  let request ← attempt (verificationRequest g.toHost x current run now)
  let verification ← verify g.toHost request
  let target := if verification.status = .passed then IncidentStatus.resolved
    else IncidentStatus.reopened
  let committed ← transition current target
    (stepKey g.toHost x.idempotencyKey "verify" [.str x.requestFingerprint]) x.actor
    ("Record local simulated verification: " ++ verification.status.value)
    { verificationRuns := .set ((current.verificationRuns ++ [verification]).map .model)
      image := [("verification_runs",
        dumpList (VerificationRun.dump "Z") (current.verificationRuns ++ [verification]))] }
  return ⟨committed, false⟩

/-- What a call of `execute` does once it has read the incident. -/
def executeFrozen (g : Engine) (x : Execution) (current : Incident) : Governed GovernanceResult :=
  match x.verificationOf current with
  | some run => attempt (replayVerification x current run)
  | none =>
    if current.status = .failed then attempt (resumeFailed g.toHost x current)
    else if current.status = .remediating then do
      match ← remediate g x current with
      | .inl result => return result
      | .inr current => complete g x current
    else complete g x current

def execute (g : Engine) (a : ExecuteArguments) : Governed GovernanceResult := do
  let idempotencyKey ← attempt (requireText "idempotency_key" a.idempotencyKey)
  let actor ← attempt (requireText "actor" a.actor)
  let current ← getIncident a.incidentId
  let x ← attempt (freeze g.toHost a idempotencyKey actor current)
  executeFrozen g x current

end NetworkAgent.Governance
