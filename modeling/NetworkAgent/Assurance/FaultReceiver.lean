import NetworkAgent.Lab.Wire
import NetworkAgent.Library.Programs
import NetworkAgent.Memory.Reads
import NetworkAgent.Rca.Rules

/-! The receiver of replayed fault events: one validated payload becomes one incident, which
is acknowledged when the repository has committed it and its provenance is read back. -/
namespace NetworkAgent.Assurance
open Lab Rca
open Program (ask attempt)

inductive FaultFailure where
  | invalidRequest
  | unavailable
  | validation (error : ModelError)
  | sensitive
  | repository (error : RepositoryError)
  deriving DecidableEq

def ingestReason : String := "local replay source event ingestion"
def bubbleranDatasetId : String := "bubbleran-persistent-interference"
def bubbleranDatasetVersion : String := "fa4e3333855d64474e710bc5bebf11a9ec075e0b"
def bubbleranScenario : String := "bubbleran-persistent-interference"
def bubbleranRuleVersion : String := "1.0.0"
def ulBlerKpi : String := "ran.mac.ul_bler"
/-- The binary64 number nearest to 0.15. -/
def ulBlerThreshold : ℚ := 5404319552844595 / 36028797018963968
def ulBlerUnit : String := "ratio"

def stableId (h : Host) (start sourceEventId : String) : String :=
  start ++ "-" ++ (h.sha256
    (utf8 ("telco-assurance:" ++ start ++ ":v1") ++ 0 :: utf8 sourceEventId)).text

def resourceType : Technology → ResourceType
  | .lte => .cell
  | .fiveGNsa | .fiveGSa => .gnb
  | .unknown => .other

/-- A field of a model that is built; a text that does not fit refuses the model. -/
def field {α : Type} (model : String) : Option α → Except FaultFailure α
  | some a => .ok a
  | none => .error (.validation (.message model))

@[simp] theorem field_ok {α : Type} {model : String} {x : Option α} {a : α} :
    field model x = .ok a ↔ x = some a := by
  cases x <;> simp [field]

def validated : Validation → Except FaultFailure Unit
  | .ok () => .ok ()
  | .error e => .error (.validation e)

def requireAvailable (condition : Prop) [Decidable condition] : Except FaultFailure Unit :=
  Checks.require condition .unavailable

@[simp] theorem requireAvailable_ok {condition : Prop} [Decidable condition] {u : Unit} :
    requireAvailable condition = .ok u ↔ condition := Checks.require_ok

def IsReplayRule (r : RcaRule) : Prop :=
  r.ruleId = bubbleranReplayRuleId ∧ r.version = bubbleranRuleVersion ∧ r.technology = .fiveGSa ∧
    r.isCurrent = true ∧ r.detection.kpiName = ulBlerKpi ∧ r.detection.comparator = .greaterThan ∧
    r.detection.threshold = ulBlerThreshold ∧ r.detection.unit = some ulBlerUnit

instance (r : RcaRule) : Decidable (IsReplayRule r) := inferInstanceAs (Decidable (_ ∧ _))

/-- `get_version` of the rule repository. -/
abbrev RuleVersions := String → String → Option RcaRule

structure Controlled where
  violatedKpis : List KpiViolation := []
  ruleVersions : List (String × String) := []
  metadata : Dict := []

def controlledViolation (h : Host) (rules : RuleVersions) (w : ReplayWirePayload) :
    Except FaultFailure Controlled :=
  match w.metrics.lookup ulBlerKpi with
  | none => .ok {}
  | some observed =>
    if observed ≤ ulBlerThreshold then .ok {}
    else match rules bubbleranReplayRuleId bubbleranRuleVersion with
      | none => .error .unavailable
      | some rule => do
        requireAvailable (IsReplayRule rule ∧ w.units.lookup ulBlerKpi = some ulBlerUnit)
        let violation : KpiViolation := {
          violationId := some (← field "KpiViolation"
            (Identifier.parse (stableId h "local-replay-violation" w.sourceEventId)))
          kpiName := ← field "KpiViolation" (NonEmptyStr.parse rule.detection.kpiName)
          observedValue := observed
          thresholdValue := rule.detection.threshold
          comparator := rule.detection.comparator
          unit := rule.detection.unit
          windowStart := some w.replayObservedAt
          windowEnd := some w.replayObservedAt
          ruleId := some (← field "KpiViolation" (Identifier.parse rule.ruleId))
          ruleVersion := some (← field "KpiViolation" (NonEmptyStr.parse rule.version))
          resourceIds := [← field "KpiViolation" (Identifier.parse w.resourceId)] }
        return {
          violatedKpis := [violation]
          ruleVersions := [(rule.ruleId, rule.version)]
          metadata := [
            ("detector_algorithm", .str bubbleranReplayDetectorAlgorithm),
            ("rule_content_hashes", .obj [(rule.ruleId, dumpDigest (rule.contentSha256 h))])] }

def candidate (h : Host) (rules : RuleVersions) (w : ReplayWirePayload) :
    Except FaultFailure Incident := do
  Checks.require (w.datasetId = bubbleranDatasetId ∧ w.datasetVersion = bubbleranDatasetVersion ∧
    w.scenario = bubbleranScenario ∧ w.technology = .fiveGSa ∧
    isHexId "lab:5g-sa:gnb:" 24 w.resourceId) .invalidRequest
  let resource : ResourceReference := {
    resourceId := ← field "ResourceReference" (Identifier.parse w.resourceId)
    resourceType := resourceType w.technology
    technology := some w.technology }
  let controlled ← controlledViolation h rules w
  let metadata : Dict := [
    ("aggregation_mode", .str "PER_SOURCE_EVENT"), ("dataset_id", .str w.datasetId),
    ("dataset_version", .str w.datasetVersion), ("event_source", .str "telco-lab-replay"),
    ("payload_sha256", .str w.payloadSha256),
    ("quality_flags", .arr (w.qualityFlags.map .str)),
    ("replay_metrics", .obj (w.metrics.map fun m => (m.1, .float m.2))),
    ("replay_scenario", .str w.scenario), ("replay_units", dumpStrings w.units),
    ("wire_request_fingerprint_sha256", dumpDigest (w.requestFingerprintSha256 h)),
    ("wire_schema_version", .str schemaVersion)]
  let incident : Incident := {
    incidentId := ← field "Incident"
      (Identifier.parse (stableId h "local-replay-incident" w.sourceEventId))
    correlationKey := some (← field "Incident"
      (Identifier.parse (stableId h "local-replay-correlation" w.sourceEventId)))
    sourceEventIds := [← field "Incident" (Identifier.parse w.sourceEventId)]
    technology := w.technology
    title := "Validated local replay KPI fault"
    description := "A strict, label-free local replay event was durably received."
    affectedResources := [resource]
    detectedAt := w.replayObservedAt
    windowStart := some w.replayObservedAt
    windowEnd := some w.replayObservedAt
    violatedKpis := controlled.violatedKpis
    modelMetadata := metadata ++ controlled.metadata
    ruleVersions := controlled.ruleVersions
    traceId := ← field "Incident"
      (Identifier.parse (stableId h "local-replay-trace" w.sourceEventId))
    createdAt := w.replayObservedAt
    updatedAt := w.replayObservedAt }
  validated (incident.modelValidate h)
  Checks.require (findSensitivePaths h "$" incident.toJson = []) .sensitive
  return incident

def SameFacts (result candidate : Incident) : Prop :=
  result.incidentId = candidate.incidentId ∧ result.correlationKey = candidate.correlationKey ∧
    result.sourceEventIds = candidate.sourceEventIds ∧
    result.technology = candidate.technology ∧ result.title = candidate.title ∧
    result.description = candidate.description ∧
    PyEq.Same result.affectedResources candidate.affectedResources ∧
    result.detectedAt = candidate.detectedAt ∧ result.windowStart = candidate.windowStart ∧
    result.windowEnd = candidate.windowEnd ∧
    PyEq.Same result.violatedKpis candidate.violatedKpis ∧
    Json.sortFields result.ruleVersions = Json.sortFields candidate.ruleVersions ∧
    result.traceId = candidate.traceId

instance (result candidate : Incident) : Decidable (SameFacts result candidate) :=
  inferInstanceAs (Decidable (_ ∧ _))

def CandidateIdentityMatches (result candidate : Incident) : Prop :=
  SameFacts result candidate ∧ normDict result.modelMetadata = normDict candidate.modelMetadata

instance (result candidate : Incident) : Decidable (CandidateIdentityMatches result candidate) :=
  inferInstanceAs (Decidable (_ ∧ _))

/-- `_persisted_identity_matches`: the lifecycle may have gone on, and metadata been added. -/
def PersistedIdentityMatches (result candidate : Incident) : Prop :=
  SameFacts result candidate ∧ ∀ f ∈ candidate.modelMetadata,
    ((result.modelMetadata.lookup f.1).getD .null).norm = f.2.norm

instance (result candidate : Incident) : Decidable (PersistedIdentityMatches result candidate) :=
  inferInstanceAs (Decidable (_ ∧ _))

structure FaultResourceView where
  resourceId : String
  resourceType : String
  technology : String
  deriving DecidableEq

structure FaultReceiptView where
  sourceEventId : String
  payloadSha256 : String
  incidentId : String
  status : String
  revision : Nat
  technology : String
  scope : List FaultResourceView
  deriving DecidableEq

def FaultReceiptView.toJson (r : FaultReceiptView) : Json := .obj
  [("accepted", .str "DURABLE"), ("source_event_id", .str r.sourceEventId),
   ("payload_sha256", .str r.payloadSha256), ("incident_id", .str r.incidentId),
   ("status", .str r.status), ("revision", .int r.revision), ("technology", .str r.technology),
   ("scope", dumpList (fun v : FaultResourceView => .obj [("resource_id", .str v.resourceId),
     ("resource_type", .str v.resourceType), ("technology", .str v.technology)]) r.scope)]

def resourceView (r : ResourceReference) : Option FaultResourceView :=
  r.technology.map fun t => ⟨r.resourceId.text, r.resourceType.value, t.value⟩

def receipt (h : Host) (i : Incident) (w : ReplayWirePayload) :
    Except FaultFailure FaultReceiptView := do
  let view : FaultReceiptView := {
    sourceEventId := w.sourceEventId
    payloadSha256 := w.payloadSha256
    incidentId := i.incidentId.text
    status := i.status.value
    revision := i.revision
    technology := i.technology.value
    scope := i.affectedResources.filterMap resourceView }
  requireAvailable (view.scope.length = i.affectedResources.length)
  Checks.require (findSensitivePaths h "$" view.toJson = []) .sensitive
  return view

def fromRepository {α : Type} : Except RepositoryError α → Except FaultFailure α
  | .ok a => .ok a
  | .error e => .error (.repository e)

@[simp] theorem fromRepository_ok {α : Type} {x : Except RepositoryError α} {a : α} :
    fromRepository x = .ok a ↔ x = .ok a := by
  cases x <;> simp [fromRepository]

/-- The one association of the source event is the one this ingest asked for. -/
def AssociationMatches (w : ReplayWirePayload) (actor traceId : String) (incident : Incident)
    (associations : List SourceEventAssociation) : Prop :=
  match associations.filter fun a => a.sourceEventId.text = w.sourceEventId with
  | [a] => a.incidentId = incident.incidentId ∧ a.idempotencyKey.text = w.idempotencyKey ∧
      a.actor.text = actor ∧ a.reason.text = ingestReason ∧ a.traceId.text = traceId
  | _ => False

instance (w : ReplayWirePayload) (actor traceId : String) (incident : Incident)
    (associations : List SourceEventAssociation) :
    Decidable (AssociationMatches w actor traceId incident associations) := by
  unfold AssociationMatches
  split <;> infer_instance

def InitialEventMatches (w : ReplayWirePayload) (actor traceId : String) (incident : Incident)
    (page : List IncidentAuditEvent) : Prop :=
  match page.filter fun e => e.revision = 0 ∨ e.fromStatus = none with
  | [e] => e.incidentId = incident.incidentId ∧ e.fromStatus = none ∧ e.toStatus = .detected ∧
      e.revision = 0 ∧ e.actor.text = actor ∧ e.reason.text = ingestReason ∧
      e.idempotencyKey.text = w.idempotencyKey ∧ e.traceId.text = traceId
  | _ => False

instance (w : ReplayWirePayload) (actor traceId : String) (incident : Incident)
    (page : List IncidentAuditEvent) :
    Decidable (InitialEventMatches w actor traceId incident page) := by
  unfold InitialEventMatches
  split <;> infer_instance

/-- `ingest`: the accesses to the repository, with everything checked between them. -/
def ingest (h : Host) (rules : RuleVersions) (actor : String) (w : ReplayWirePayload) :
    ExceptT FaultFailure (Program Access Access.Answer) FaultReceiptView := do
  let candidate ← attempt (candidate h rules w)
  let traceId := candidate.traceId.text
  let answer : Except RepositoryError Incident ← ask (Access.write (.createOrCorrelate candidate
    { idempotencyKey := w.idempotencyKey, actor, reason := ingestReason, traceId }))
  let incident ← attempt (fromRepository answer)
  attempt (requireAvailable (CandidateIdentityMatches incident candidate))
  let current : Option Incident ← ask (Access.get incident.incidentId.text)
  attempt (requireAvailable (∃ c ∈ current, PersistedIdentityMatches c candidate))
  let page : Except RepositoryError (List SourceEventAssociation) ←
    ask (Access.sourceEventAssociations incident.incidentId.text 1000 0)
  let associations ← attempt (fromRepository page)
  attempt (requireAvailable (AssociationMatches w actor traceId incident associations))
  let page : Except RepositoryError (List IncidentAuditEvent) ←
    ask (Access.history incident.incidentId.text 2 0)
  let events ← attempt (fromRepository page)
  attempt (requireAvailable (InitialEventMatches w actor traceId incident events))
  attempt (receipt h incident w)

end NetworkAgent.Assurance
