import NetworkAgent.Cloud.IncidentCalls
import NetworkAgent.Cloud.Outbox

/-! Ingestion of source events: one transaction over the inbox, the incident tables and the
outbox. -/
namespace NetworkAgent.Cloud
open Checks (require)
open Memory (Request)

structure SourceEventEnvelope where
  sourceEventId : Identifier
  source : Text.Bounded isWhiteSpace 2048
  eventType : Text.Bounded isWhiteSpace 128
  occurredAt : Instant
  receivedAt : Instant
  payloadSha256 : Sha256.Digest
  traceId : Identifier
  incident : Option Incident := none
  attributes : Dict := []

inductive Disposition where
  | created | correlated | replayed | shadowRecorded
  deriving DecidableEq

def Disposition.value : Disposition → String
  | .created => "created" | .correlated => "correlated" | .replayed => "replayed"
  | .shadowRecorded => "shadow_recorded"

structure IngestResult where
  disposition : Disposition
  originalDisposition : Option Disposition := none
  sourceEventId : Identifier
  traceId : Identifier
  incident : Option Incident := none
  sourceAssociation : Option SourceEventAssociation := none
  outboxEventId : Option Identifier := none

inductive IngestError where
  | input (error : InputError)
  | incident (error : IncidentError)
  | outbox (error : OutboxError)
  | validation (text : String)
  | contract
  | runtime (text : String)
  | constraint (table : String)
  deriving DecidableEq

def fromInput {α : Type} : Except InputError α → Except IngestError α
  | .ok a => .ok a
  | .error e => .error (.input e)

def fromIncidents {α : Type} : Except IncidentError α → Except IngestError α
  | .ok a => .ok a
  | .error e => .error (.incident e)

def fromOutbox {α : Type} : Except OutboxError α → Except IngestError α
  | .ok a => .ok a
  | .error e => .error (.outbox e)

def requireModel (condition : Prop) [Decidable condition] (text : String) :
    Except IngestError Unit := require condition (.validation text)

def requireRuntime (condition : Prop) [Decidable condition] (text : String) :
    Except IngestError Unit := require condition (.runtime text)

def requireArgument (condition : Prop) [Decidable condition] (text : String) :
    Except IngestError Unit := require condition (.input (.value text))

def validateIncident (h : Host) (i : Incident) : Except IngestError Unit :=
  fromIncidents (liftValidation (i.modelValidate h))

namespace SourceEventEnvelope

def toJson (e : SourceEventEnvelope) : Json := .obj
  [("schema_version", .str schemaVersion), ("source_event_id", dumpId e.sourceEventId),
   ("source", dumpId e.source), ("event_type", dumpId e.eventType),
   ("occurred_at", dumpTime "Z" e.occurredAt), ("received_at", dumpTime "Z" e.receivedAt),
   ("payload_sha256", dumpDigest e.payloadSha256), ("trace_id", dumpId e.traceId),
   ("incident", optional Incident.toJson e.incident), ("attributes", .obj e.attributes)]

/-- `SourceEventEnvelope.model_validate`: the incident first, then `validate_envelope`. -/
def validate (h : Host) (e : SourceEventEnvelope) : Except IngestError Unit := do
  (e.incident.elim (.ok ()) (validateIncident h) : Except IngestError Unit)
  requireModel (e.occurredAt ≤ e.receivedAt + 300000000)
    "occurred_at must not be over 300 seconds in the future"
  requireModel (∀ i ∈ e.incident, i.traceId = e.traceId) "event trace_id must match incident.trace_id"
  fromInput (assertSafe h "source-event-envelope" e.toJson)

/-- What the fingerprint of an event covers: everything but the time it was received. -/
def identity (e : SourceEventEnvelope) : Dict :=
  [("source_event_id", dumpId e.sourceEventId), ("source", dumpId e.source),
   ("event_type", dumpId e.eventType), ("occurred_at", dumpTime "+00:00" e.occurredAt),
   ("payload_sha256", dumpDigest e.payloadSha256), ("trace_id", dumpId e.traceId),
   ("incident", optional Incident.toJson e.incident), ("attributes", .obj e.attributes)]

end SourceEventEnvelope

namespace IngestResult

def toJson (r : IngestResult) : Json := .obj
  [("disposition", .str r.disposition.value),
   ("original_disposition", optional (fun d => .str (Disposition.value d)) r.originalDisposition),
   ("source_event_id", dumpId r.sourceEventId), ("trace_id", dumpId r.traceId),
   ("incident", optional Incident.toJson r.incident),
   ("source_association", optional SourceEventAssociation.toJson r.sourceAssociation),
   ("outbox_event_id", optional dumpId r.outboxEventId)]

def original (r : IngestResult) : Except IngestError Disposition :=
  if r.disposition = .replayed then
    match r.originalDisposition with
    | none | some .replayed => .error (.validation "REPLAYED requires an original disposition")
    | some d => .ok d
  else match r.originalDisposition with
    | none => .ok r.disposition
    | some d => do
      requireModel (d = r.disposition)
        "non-replay result original_disposition must match disposition"
      return d

def validateAssociation (r : IngestResult) : Except IngestError Unit :=
  match r.sourceAssociation with
  | none => .ok ()
  | some a => do
    requireModel r.incident.isSome "source association requires an incident"
    requireModel (r.incident.map (·.incidentId) = some a.incidentId ∧
        a.sourceEventId = r.sourceEventId ∧ a.traceId = r.traceId)
      "source association binding mismatch"

def validateShape (r : IngestResult) : Disposition → Except IngestError Unit
  | .created => requireModel
      (r.incident.isSome ∧ r.sourceAssociation.isSome ∧ r.outboxEventId.isSome)
      "CREATED requires incident, source association, and outbox_event_id"
  | .correlated => requireModel
      (r.incident.isSome ∧ r.sourceAssociation.isSome ∧ r.outboxEventId = none)
      "CORRELATED requires incident and source association without a new outbox"
  | .shadowRecorded => requireModel
      (r.incident = none ∧ r.sourceAssociation = none ∧ r.outboxEventId = none)
      "SHADOW_RECORDED cannot carry incident, association, or outbox"
  | .replayed => .ok ()

/-- `IngestResult.model_validate`: the incident first, then `validate_disposition_shape`. -/
def validate (h : Host) (r : IngestResult) : Except IngestError IngestResult := do
  (r.incident.elim (.ok ()) (validateIncident h) : Except IngestError Unit)
  let original ← r.original
  requireModel (r.outboxEventId.isSome → r.incident.isSome) "an outbox event requires an incident"
  r.validateAssociation
  r.validateShape original
  return { r with originalDisposition := some original }

end IngestResult

/-! The tables. -/

structure InboxRow where
  source : String
  eventType : String
  payloadSha256 : Sha256.Digest
  fingerprint : Sha256.Digest
  traceId : String
  receivedAt : Instant
  disposition : Disposition
  incidentId : Option String
  outboxEventId : Option String
  payload : IngestResult

/-- The tables that an ingestion writes; an inbox row is found by its source event. -/
structure EventStore where
  repository : Spanner := {}
  inbox : Table String InboxRow := ∅
  outbox : Outbox := ⟨∅, Outbox.keyed_empty⟩

/-- A mapping passed as an outbox payload: its JSON image, and the trigger it parses to. -/
structure TriggerPayload where
  image : Json
  trigger : Option IncidentTrigger

structure IngestCall where
  envelope : SourceEventEnvelope
  shadow : Bool := false
  actor : String := "fault-ingress"
  reason : String := "source event ingestion"
  idempotencyKey : Option String := none
  outboxPayload : Option TriggerPayload := none

structure Ingestion where
  envelope : SourceEventEnvelope
  shadow : Bool
  metadata : WriteMetadata
  template : Option IncidentTrigger
  fingerprint : Sha256.Digest

/-- What an ingestion buffers beside the mutations of the incident tables. -/
structure Writes where
  mutations : List Mutation := []
  outbox : Option OutboxRecord := none
  inbox : Option InboxRow := none

/-! The checks of the arguments. -/

def eventIdempotencyKey (h : Host) (sourceEventId : Identifier) : String :=
  "source-event-" ++ (h.sha256 (utf8 sourceEventId.text)).text

/-- `idempotency_key or ...`: an empty key counts as none. -/
def effectiveKey (h : Host) (call : IngestCall) : String :=
  match call.idempotencyKey with
  | none | some "" => eventIdempotencyKey h call.envelope.sourceEventId
  | some key => key

def validateTriggerTemplate (t : IncidentTrigger) (e : SourceEventEnvelope) (i : Incident)
    (key : String) : Except IngestError Unit :=
  requireArgument (PyEq.Same t.incident i ∧ t.incidentId = i.incidentId ∧ t.traceId = e.traceId ∧
      t.idempotencyKey.text = key ∧ t.sentAt = e.receivedAt ∧
      e.sourceEventId ∈ t.incident.sourceEventIds)
    "outbox IncidentTrigger binding mismatch"

def validateTrigger (h : Host) (t : IncidentTrigger) : Except IngestError Unit :=
  match t.validate h with
  | .ok () => .ok ()
  | .error _ => .error (.validation "IncidentTrigger")

def parseTemplate (h : Host) (e : SourceEventEnvelope) (key : String) :
    Option TriggerPayload → Except IngestError (Option IncidentTrigger)
  | none => .ok none
  | some payload => do
    fromInput (assertSafe h "outbox-payload" payload.image)
    match payload.trigger, e.incident with
    | some t, some i => do
      validateTrigger h t
      validateTriggerTemplate t e i key
      return some t
    | _, _ => .error (.validation "IncidentTrigger")

/-- What `ingest` checks and computes before it opens the transaction. -/
def ingestRequest (h : Host) (call : IngestCall) : Except IngestError Ingestion := do
  let e := call.envelope
  e.validate h
  let metadata : WriteMetadata := ⟨effectiveKey h call, call.actor, call.reason, e.traceId.text⟩
  fromIncidents (requireWriteMetadata h metadata)
  requireArgument (call.shadow = true ∨ e.incident.isSome)
    "non-shadow ingestion requires a canonical incident"
  requireArgument (call.shadow = true ∨ ∀ i ∈ e.incident, e.sourceEventId ∈ i.sourceEventIds)
    "incident.source_event_ids must include the source event identity"
  requireArgument (call.shadow = true → call.outboxPayload.isNone)
    "shadow ingestion cannot accept an outbox payload"
  let template ← parseTemplate h e metadata.idempotencyKey call.outboxPayload
  return ⟨e, call.shadow, metadata, template, fingerprint h "source_event" e.identity⟩

/-! The callback of a new event. -/

/-- A name made of a prefix and the first 48 digits of a hash. -/
def hashedName (h : Host) (name : String) (hashed : List Nat) : String :=
  name ++ "-" ++ String.ofList ((h.sha256 hashed).text.toList.take 48)

def contractId (h : Host) (kind : String) (sourceEventId : Identifier) : String :=
  hashedName h kind (utf8 kind ++ 0 :: utf8 sourceEventId.text)

def outboxEventId (h : Host) (sourceEventId incidentId : Identifier) : String :=
  hashedName h "outbox"
    (utf8 "incident-trigger" ++ 0 :: utf8 sourceEventId.text ++ 0 :: utf8 incidentId.text)

def createdSummary : ShortText where
  text := "检测到实时故障并提交 Canonical Incident。"
  trimmed := by decide +kernel
  short := by decide +kernel

/-- The trigger of a created incident: the default one, or the template with its bindings. -/
def triggerOf (h : Host) (template : Option IncidentTrigger) (e : SourceEventEnvelope)
    (i : Incident) (key : Identifier) : Option IncidentTrigger :=
  match template with
  | some t => some { t with
      incidentId := i.incidentId
      traceId := e.traceId
      idempotencyKey := key
      incident := i }
  | none => do
    let messageId ← Identifier.parse (contractId h "message" e.sourceEventId)
    let workflowId ← Identifier.parse (contractId h "workflow" e.sourceEventId)
    return {
      messageId
      workflowId
      incidentId := i.incidentId
      traceId := e.traceId
      idempotencyKey := key
      sentAt := e.receivedAt
      incident := i
      summaryZh := createdSummary }

def materializeTrigger (h : Host) (template : Option IncidentTrigger) (e : SourceEventEnvelope)
    (i : Incident) (key : String) : Except IngestError IncidentTrigger :=
  match (Identifier.parse key).bind (triggerOf h template e i) with
  | none => .error (.validation "IncidentTrigger")
  | some t => do
    validateTrigger h t
    requireRuntime (PyEq.Same t.incident i ∧ t.traceId = e.traceId ∧ t.idempotencyKey.text = key)
      "materialized IncidentTrigger binding mismatch"
    return t

def toDataPart (h : Host) (t : IncidentTrigger) : Except IngestError Unit :=
  match assertRepositorySafe h t.toJson with
  | .ok _ => .ok ()
  | .error _ => .error .contract

def outboxRow (h : Host) (p : Ingestion) (i : Incident) (now : Instant) :
    Except IngestError OutboxRecord := do
  let t ← materializeTrigger h p.template p.envelope i p.metadata.idempotencyKey
  toDataPart h t
  requireRuntime (PyEq.Same t.incident i) "outbox Incident snapshot binding mismatch"
  match Identifier.parse (outboxEventId h p.envelope.sourceEventId i.incidentId),
      Identifier.parse IncidentTrigger.messageType with
  | some eventId, some eventType => return {
      eventId
      incidentId := i.incidentId
      sourceEventId := p.envelope.sourceEventId
      eventType
      payload := t
      status := .pending
      attempts := 0
      availableAt := now
      createdAt := now }
  | _, _ => .error (.validation "IngestResult")

/-- `_insert_inbox_tx`. -/
def inboxRow (h : Host) (p : Ingestion) (r : IngestResult) : Except IngestError InboxRow := do
  fromInput (assertSafe h "ingest-result" r.toJson)
  return {
    source := p.envelope.source.text
    eventType := p.envelope.eventType.text
    payloadSha256 := p.envelope.payloadSha256
    fingerprint := p.fingerprint
    traceId := p.envelope.traceId.text
    receivedAt := p.envelope.receivedAt
    disposition := r.disposition
    incidentId := r.incident.map (·.incidentId.text)
    outboxEventId := r.outboxEventId.map (·.text)
    payload := r }

def correlationRequest (h : Host) (i : Incident) (w : WriteMetadata) :
    Except IngestError Request := do
  let scope ← fromIncidents (requestScope "create_or_correlate" i.incidentId.text w.idempotencyKey)
  return request scope (fingerprint h "create_or_correlate" (("incident", i.toJson) :: w.fields)) w

namespace EventStore

/-- An event in shadow mode is recorded and goes no further. -/
def shadowTx (h : Host) (p : Ingestion) : Except IngestError (IngestResult × Writes) := do
  let result ← IngestResult.validate h {
    disposition := .shadowRecorded
    sourceEventId := p.envelope.sourceEventId
    traceId := p.envelope.traceId }
  let row ← inboxRow h p result
  return (result, { inbox := some row })

def createdRow (h : Host) (p : Ingestion) (correlated : Spanner.Correlated) (now : Instant) :
    Except IngestError (Option OutboxRecord) :=
  if correlated.created then some <$> outboxRow h p correlated.incident now else .ok none

def freshTx (h : Host) (s : EventStore) (p : Ingestion) (now : Instant) :
    Except IngestError (IngestResult × Writes) :=
  if p.shadow then shadowTx h p
  else match p.envelope.incident with
    | none => .error (.runtime "AssertionError")
    | some candidate => do
      let r ← correlationRequest h candidate p.metadata
      let (correlated, mutations) ← fromIncidents
        (s.repository.createOrCorrelateTx h candidate p.metadata.traceId r now)
      match correlated.associations.find? fun a => a.sourceEventId = p.envelope.sourceEventId with
      | none => .error (.runtime "source event association was not persisted")
      | some association => do
        let outbox ← createdRow h p correlated now
        let result ← IngestResult.validate h {
          disposition := if correlated.created then .created else .correlated
          sourceEventId := p.envelope.sourceEventId
          traceId := p.envelope.traceId
          incident := some correlated.incident
          sourceAssociation := some association
          outboxEventId := outbox.map (·.eventId) }
        let row ← inboxRow h p result
        return (result, ⟨mutations, outbox, some row⟩)

/-! The callback of an event that was seen before. -/

/-- The fields of `_incident_identity`. -/
def SameIncident (a b : Incident) : Prop :=
  a.incidentId = b.incidentId ∧ a.correlationKey = b.correlationKey ∧ a.technology = b.technology ∧
    a.detectedAt = b.detectedAt ∧ a.createdAt = b.createdAt ∧ a.traceId = b.traceId ∧
    a.sourceEventIds = b.sourceEventIds

instance (a b : Incident) : Decidable (SameIncident a b) :=
  inferInstanceAs (Decidable (_ ∧ _ ∧ _ ∧ _ ∧ _ ∧ _ ∧ _))

/-- `_get_source_association_tx`. -/
def sourceAssociation (h : Host) (s : EventStore) (incidentId sourceEventId : String) :
    Except IncidentError (Option SourceEventAssociation) :=
  match s.repository.sourceEvents.lookup (incidentId, sourceEventId) with
  | none => .ok none
  | some row => some <$> row.parse h incidentId

def replayIncident (h : Host) (s : EventStore) : Option Incident → Except IngestError Unit
  | none => .ok ()
  | some i => do
    let persisted ← fromIncidents (s.repository.get h i.incidentId.text)
    requireRuntime (∃ current ∈ persisted, SameIncident current i)
      "persisted source-event Incident result mismatch"

/-- The association of the original result, and the repository's replay of the request that the
association stands for. -/
def replayAssociation (h : Host) (s : EventStore) (e : SourceEventEnvelope) (i : Option Incident) :
    Option SourceEventAssociation → Except IngestError Unit
  | none => .ok ()
  | some a => do
    let persisted ← fromIncidents (s.sourceAssociation h a.incidentId.text e.sourceEventId.text)
    requireRuntime (persisted = some a) "persisted source-event association result mismatch"
    match e.incident with
    | none => .error (.runtime "persisted canonical result is missing its replay candidate")
    | some candidate => do
      let r ← correlationRequest h candidate
        ⟨a.idempotencyKey.text, a.actor.text, a.reason.text, a.traceId.text⟩
      let replayed ← fromIncidents (s.repository.replay h r.scope r.fingerprint)
      requireRuntime (PyEq.Same replayed i) "persisted source-event idempotency result mismatch"

def replayOutbox (h : Host) (s : EventStore) (e : SourceEventEnvelope) (row : InboxRow)
    (r : IngestResult) : Except IngestError Unit :=
  if r.originalDisposition = some .created then
    match r.outboxEventId with
    | none => .error (.runtime "persisted CREATED result is missing its outbox identity")
    | some eventId => do
      let persisted ← fromOutbox (s.outbox.get h eventId.text)
      requireRuntime (∃ o ∈ persisted, ∃ i ∈ r.incident, ∃ a ∈ r.sourceAssociation,
          o.incidentId = i.incidentId ∧ o.sourceEventId = e.sourceEventId ∧
          PyEq.Same o.payload.incident i ∧ o.payload.traceId = r.traceId ∧
          o.payload.idempotencyKey = a.idempotencyKey ∧ o.payload.sentAt = row.receivedAt)
        "persisted source-event outbox result mismatch"
  else .ok ()

def replayTx (h : Host) (s : EventStore) (p : Ingestion) (row : InboxRow) :
    Except IngestError (IngestResult × Writes) := do
  let e := p.envelope
  requireArgument (row.source = e.source.text ∧ row.eventType = e.eventType.text ∧
      row.payloadSha256 = e.payloadSha256 ∧ row.fingerprint = p.fingerprint ∧
      row.traceId = e.traceId.text)
    "source event identity was replayed with a different payload"
  let original ← row.payload.validate h
  requireRuntime (original.sourceEventId = e.sourceEventId ∧ original.traceId = e.traceId ∧
      original.disposition = row.disposition ∧
      original.incident.map (·.incidentId.text) = row.incidentId ∧
      original.outboxEventId.map (·.text) = row.outboxEventId)
    "persisted source-event Inbox binding mismatch"
  s.replayIncident h original.incident
  s.replayAssociation h e original.incident original.sourceAssociation
  s.replayOutbox h e row original
  let result ← IngestResult.validate h { original with disposition := .replayed }
  return (result, {})

/-! The transaction. -/

def insertOutbox (o : Outbox) : Option OutboxRecord → Except IngestError Outbox
  | none => .ok o
  | some row => if row.eventId.text ∈ o.rows then .error (.constraint "CanonicalIncidentOutboxV2")
    else .ok (o.put row)

def insertInbox (inbox : Table String InboxRow) (sourceEventId : String) :
    Option InboxRow → Except IngestError (Table String InboxRow)
  | none => .ok inbox
  | some row => match inbox.insertNew sourceEventId row with
    | none => .error (.constraint "CanonicalSourceEventInboxV2")
    | some inbox' => .ok inbox'

def commit (s : EventStore) (sourceEventId : String) (writes : Writes) :
    Except IngestError EventStore := do
  let repository ← fromIncidents (Spanner.commit writes.mutations s.repository)
  let outbox ← insertOutbox s.outbox writes.outbox
  let inbox ← insertInbox s.inbox sourceEventId writes.inbox
  return { repository, inbox, outbox }

/-- The callback of `ingest`. -/
def ingestTx (h : Host) (s : EventStore) (p : Ingestion) (now : Instant) :
    Except IngestError (IngestResult × Writes) :=
  match s.inbox.lookup p.envelope.sourceEventId.text with
  | some row => s.replayTx h p row
  | none => s.freshTx h p now

/-- `ingest`: the transaction commits whole, or writes nothing. -/
def ingest (h : Host) (s : EventStore) (call : IngestCall) (now : Instant) :
    Except IngestError IngestResult × EventStore :=
  let transaction : Except IngestError (IngestResult × EventStore) := do
    let p ← ingestRequest h call
    let (result, writes) ← s.ingestTx h p now
    let s' ← s.commit p.envelope.sourceEventId.text writes
    return (result, s')
  match transaction with
  | .ok (result, s') => (.ok result, s')
  | .error e => (.error e, s)

end EventStore

/-! Runs. -/

inductive StoreCall where
  | ingest (call : IngestCall)
  | incident (call : Call)
  | outbox (call : OutboxCall)

namespace EventStore

def next (h : Host) (s : EventStore) : Instant × StoreCall → EventStore
  | (now, .ingest call) => (s.ingest h call now).2
  | (now, .incident call) => { s with repository := s.repository.next h (now, call) }
  | (now, .outbox call) => { s with outbox := s.outbox.next h (now, call) }

def run (h : Host) (s : EventStore) (calls : List (Instant × StoreCall)) : EventStore :=
  Runs.run (next h) s calls

end EventStore
end NetworkAgent.Cloud
