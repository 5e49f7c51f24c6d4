import NetworkAgent.FaultIngress.Normalizer

/-! Mode routing and acknowledgement of the fault ingress, over one event store. -/
namespace NetworkAgent.FaultIngress
open Cloud (SourceEventEnvelope IngestResult IngestCall IngestError EventStore Disposition)
open Checks (require)

inductive FaultPipelineMode where
  | legacy | shadow | canonical | paused
  deriving DecidableEq

structure FaultIngressConfig where
  mode : FaultPipelineMode := .shadow
  actor : Text.Bounded isSpace 256
  settings : Settings := {}

structure IngressDecision where
  httpStatus : Nat
  code : String
  result : Option IngestResult := none

/-- What the legacy handler of a push comes to: it fails, or returns a value that is or is not
`False`. -/
inductive LegacyOutcome where
  | failed
  | returned (isFalse : Bool)

abbrev LegacyHandler := ParsedPubSubPush → LegacyOutcome

/-! What is sent to the repository. -/

def buildIncidentTrigger (h : Host) (e : SourceEventEnvelope) :
    Except IngressFailure IncidentTrigger :=
  match e.incident with
  | none => .error (.permanent "FAULT_INCIDENT_MISSING")
  | some incident => do
    let trigger : IncidentTrigger := {
      messageId := derivedId h .message [e.sourceEventId.text]
      workflowId := derivedId h .workflow [e.sourceEventId.text]
      incidentId := incident.incidentId
      traceId := incident.traceId
      idempotencyKey := derivedId h .idempotency [e.sourceEventId.text]
      sentAt := e.receivedAt
      incident := incident
      summaryZh := Cloud.createdSummary }
    built (Cloud.validateTrigger h trigger)
    return trigger

structure Prepared where
  envelope : SourceEventEnvelope
  trigger : IncidentTrigger

/-- The arguments of `repository.ingest`. -/
def Prepared.call (p : Prepared) (config : FaultIngressConfig) : IngestCall :=
  if config.mode = .shadow then {
    envelope := p.envelope
    shadow := true
    actor := config.actor.text
    reason := "shadow source event observation" }
  else {
    envelope := p.envelope
    actor := config.actor.text
    reason := "canonical source event ingestion"
    idempotencyKey := some p.trigger.idempotencyKey.text
    outboxPayload := some ⟨p.trigger.toJson, some p.trigger⟩ }

/-- What comes before `repository.ingest`; only a canonical event is dumped as a data part. -/
def prepare (h : Host) (fromisoformat : String → Option Instant) (config : FaultIngressConfig)
    (receivedAt : Instant) (push : ParsedPubSubPush) : Except IngressFailure Prepared := do
  let envelope ← normalizeFaultEvent h fromisoformat config.settings receivedAt push
  let trigger ← buildIncidentTrigger h envelope
  built (if config.mode = .shadow then .ok () else Cloud.toDataPart h trigger)
  return ⟨envelope, trigger⟩

/-! Failures. -/

def isInvalidIncident : Cloud.IncidentError → Bool
  | .input _ | .validation _ | .transition _ | .batch _ | .notStateMachineOutput _
  | .idempotencyConflict _ => true
  | .notFound _ | .alreadyExists _ | .activeConflict _ _ | .ownershipConflict _ _ _
  | .correlationConflict _ _ | .revisionConflict _ _ _ | .inconsistent _ | .constraint _ => false

/-- The errors that reject the event; every other one is a failure of the dependency. -/
def isInvalid : IngestError → Bool
  | .input _ | .validation _ | .contract => true
  | .incident error => isInvalidIncident error
  | .outbox (.input _) | .outbox (.validation _) => true
  | .outbox _ | .runtime _ | .constraint _ => false

/-- A permanent failure is raised with its code, any other one is answered. -/
def failed (error : IngestError) : Except String IngressDecision :=
  if isInvalid error then .error "FAULT_CANONICAL_INVALID"
  else .ok { httpStatus := 503, code := "FAULT_DEPENDENCY_UNAVAILABLE" }

def refused : IngressFailure → Except String IngressDecision
  | .permanent code => .error code
  | .value _ => .error "FAULT_CANONICAL_INVALID"
  | .model error => failed error
  | .overflow => .ok { httpStatus := 503, code := "FAULT_DEPENDENCY_UNAVAILABLE" }

/-! Acknowledgement. -/

/-- The incident and the association of a canonical result are those of the event. -/
def BoundTo (r : IngestResult) (e : SourceEventEnvelope) (original : Disposition)
    (actor idempotencyKey : String) : Prop :=
  ∃ i ∈ r.incident, ∃ a ∈ r.sourceAssociation, ∃ candidate ∈ e.incident,
    i.correlationKey = candidate.correlationKey ∧ i.technology = candidate.technology ∧
      (original = .created → i.traceId = e.traceId) ∧ a.incidentId = i.incidentId ∧
      a.sourceEventId = e.sourceEventId ∧ a.traceId = e.traceId ∧
      a.idempotencyKey.text = idempotencyKey ∧ a.actor.text = actor ∧
      a.reason.text = "canonical source event ingestion"

instance (r : IngestResult) (e : SourceEventEnvelope) (original : Disposition)
    (actor idempotencyKey : String) : Decidable (BoundTo r e original actor idempotencyKey) :=
  inferInstanceAs (Decidable (∃ i ∈ r.incident, ∃ a ∈ r.sourceAssociation,
    ∃ candidate ∈ e.incident, _ ∧ _))

def OriginalMatches (r : IngestResult) (e : SourceEventEnvelope) (actor idempotencyKey : String) :
    Option Disposition → Prop
  | some .shadowRecorded =>
    r.incident = none ∧ r.sourceAssociation = none ∧ r.outboxEventId = none
  | some .created => BoundTo r e .created actor idempotencyKey
  | some .correlated => BoundTo r e .correlated actor idempotencyKey
  | some .replayed | none => False

instance (r : IngestResult) (e : SourceEventEnvelope) (actor idempotencyKey : String) :
    (original : Option Disposition) →
      Decidable (OriginalMatches r e actor idempotencyKey original)
  | some .shadowRecorded => inferInstanceAs (Decidable (_ ∧ _))
  | some .created => inferInstanceAs (Decidable (BoundTo _ _ _ _ _))
  | some .correlated => inferInstanceAs (Decidable (BoundTo _ _ _ _ _))
  | some .replayed | none => inferInstanceAs (Decidable False)

def FreshMatches : FaultPipelineMode → Disposition → Prop
  | .shadow, d => d = .shadowRecorded
  | .canonical, d => d = .created ∨ d = .correlated
  | .legacy, _ | .paused, _ => True

instance : (mode : FaultPipelineMode) → (d : Disposition) → Decidable (FreshMatches mode d)
  | .shadow, _ => inferInstanceAs (Decidable (_ = _))
  | .canonical, _ => inferInstanceAs (Decidable (_ ∨ _))
  | .legacy, _ | .paused, _ => inferInstanceAs (Decidable True)

def ResultMatchesMode (r : IngestResult) (e : SourceEventEnvelope) (mode : FaultPipelineMode)
    (actor idempotencyKey : String) : Prop :=
  (r.sourceEventId = e.sourceEventId ∧ r.traceId = e.traceId) ∧
    (r.disposition = .replayed ∨ FreshMatches mode r.disposition) ∧
    OriginalMatches r e actor idempotencyKey r.originalDisposition

instance (r : IngestResult) (e : SourceEventEnvelope) (mode : FaultPipelineMode)
    (actor idempotencyKey : String) :
    Decidable (ResultMatchesMode r e mode actor idempotencyKey) :=
  inferInstanceAs (Decidable ((_ ∧ _) ∧ (_ ∨ _) ∧ _))

/-- The code of an acknowledgement; `str.upper` of the disposition. -/
def acceptedCode : Disposition → String
  | .created => "FAULT_CREATED" | .correlated => "FAULT_CORRELATED"
  | .replayed => "FAULT_REPLAYED" | .shadowRecorded => "FAULT_SHADOW_RECORDED"

def acknowledge (h : Host) (config : FaultIngressConfig) (p : Prepared) (result : IngestResult) :
    IngressDecision :=
  match result.validate h with
  | .error _ => { httpStatus := 503, code := "FAULT_INGEST_RESULT_INVALID" }
  | .ok validated =>
    if ResultMatchesMode validated p.envelope config.mode config.actor.text
        p.trigger.idempotencyKey.text then {
      httpStatus := 204
      code := acceptedCode validated.disposition
      result := some validated }
    else { httpStatus := 503, code := "FAULT_INGEST_RESULT_INVALID" }

/-! The service. -/

/-- One push as it reaches the service: under the configuration of the moment, with the clock of
the service and that of the repository. -/
structure Delivery where
  config : FaultIngressConfig
  push : ParsedPubSubPush
  receivedAt : Instant
  now : Instant

def legacyDecision (legacyHandler : Option LegacyHandler) (push : ParsedPubSubPush) :
    IngressDecision :=
  match legacyHandler with
  | none => { httpStatus := 503, code := "FAULT_LEGACY_UNAVAILABLE" }
  | some handler => match handler push with
    | .failed | .returned true => { httpStatus := 503, code := "FAULT_LEGACY_FAILED" }
    | .returned false => { httpStatus := 204, code := "FAULT_LEGACY_ACCEPTED" }

def ingestPush (h : Host) (fromisoformat : String → Option Instant) (s : EventStore)
    (d : Delivery) : Except String IngressDecision × EventStore :=
  match prepare h fromisoformat d.config d.receivedAt d.push with
  | .error failure => (refused failure, s)
  | .ok p => match s.ingest h (p.call d.config) d.now with
    | (.error error, s') => (failed error, s')
    | (.ok result, s') => (.ok (acknowledge h d.config p result), s')

def process (h : Host) (fromisoformat : String → Option Instant)
    (legacyHandler : Option LegacyHandler) (s : EventStore) (d : Delivery) :
    Except String IngressDecision × EventStore :=
  match d.config.mode with
  | .paused => (.ok { httpStatus := 503, code := "FAULT_PIPELINE_PAUSED" }, s)
  | .legacy => (.ok (legacyDecision legacyHandler d.push), s)
  | .shadow | .canonical => ingestPush h fromisoformat s d

def Acknowledged (h : Host) (fromisoformat : String → Option Instant)
    (legacyHandler : Option LegacyHandler) (s : EventStore) (d : Delivery) : Prop :=
  ∃ decision, (process h fromisoformat legacyHandler s d).1 = .ok decision ∧
    decision.httpStatus = 204

/-! Runs: pushes in any order and any mode, while others work on the incidents and the outbox. -/

inductive Step where
  | deliver (d : Delivery)
  | incident (now : Instant) (call : Call)
  | outbox (now : Instant) (call : Cloud.OutboxCall)

def next (h : Host) (fromisoformat : String → Option Instant)
    (legacyHandler : Option LegacyHandler) (s : EventStore) : Step → EventStore
  | .deliver d => (process h fromisoformat legacyHandler s d).2
  | .incident now call => s.next h (now, .incident call)
  | .outbox now call => s.next h (now, .outbox call)

def run (h : Host) (fromisoformat : String → Option Instant)
    (legacyHandler : Option LegacyHandler) (s : EventStore) (steps : List Step) : EventStore :=
  Runs.run (next h fromisoformat legacyHandler) s steps

end NetworkAgent.FaultIngress
