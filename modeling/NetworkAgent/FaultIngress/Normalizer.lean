import NetworkAgent.Cloud.Ingest

/-! The normalizer of the fault ingress: one allowlisted log entry becomes the envelope of one
source event, under identities hashed from what it reads of the entry. -/
namespace NetworkAgent.FaultIngress
open Cloud (SourceEventEnvelope)
open Checks (require)

inductive IngressFailure where
  | permanent (code : String)
  | value (text : String)
  | model (error : Cloud.IngestError)
  | overflow
  deriving DecidableEq

structure ParsedPubSubPush where
  payload : Dict
  payloadSha256 : Sha256.Digest
  deriving DecidableEq

structure Limits where
  maxDecodedBytes : Nat := 262144
  maxJsonDepth : Nat := 16

/-- The last steps of `parse_pubsub_push`, on the bytes that the message data decodes to.
`loads` is the reader of one JSON object. -/
def parseData (h : Host) (loads : List Nat → Option Dict) (limits : Limits) (decoded : List Nat) :
    Except IngressFailure ParsedPubSubPush := do
  require (decoded ≠ [] ∧ decoded.length ≤ limits.maxDecodedBytes)
    (.permanent "PUBSUB_DATA_SIZE_INVALID")
  match loads decoded with
  | none => .error (.permanent "PUBSUB_DATA_JSON_INVALID")
  | some payload => do
    require ((Json.obj payload).depth ≤ limits.maxJsonDepth) (.permanent "PUBSUB_DATA_TOO_DEEP")
    return ⟨payload, h.sha256 decoded⟩

/-! The derived identities. -/

def nul : Char := Char.ofNat 0

def material : String → List String → String
  | text, [] => text
  | text, value :: rest => text ++ (String.singleton nul ++ material value rest)

inductive Namespace where
  | resource | event | correlation | incident | trace | message | workflow | idempotency
  deriving DecidableEq

def Namespace.value : Namespace → String
  | .resource => "resource" | .event => "event" | .correlation => "correlation"
  | .incident => "incident" | .trace => "trace" | .message => "message"
  | .workflow => "workflow" | .idempotency => "idempotency"

theorem Namespace.value_plain (n : Namespace) :
    (n.value.toList.all fun c => !isWhiteSpace c) = true ∧ n.value.length ≤ 11 := by
  cases n <;> decide

def hashed (n : Namespace) (values : List String) : List Nat := utf8 (material n.value values)

theorem derivedId_fits (h : Host) (n : Namespace) (values : List String) :
    let text := n.value ++ "-" ++ (h.sha256 (hashed n values)).text
    Text.trim isWhiteSpace text = text ∧ 1 ≤ text.length ∧ text.length ≤ 256 := by
  have digest := (h.sha256 (hashed n values)).length
  have plain := n.value_plain
  have dash : "-".length = 1 := by decide
  refine ⟨Text.trim_fixed fun c member => ?_, ?_, ?_⟩
  · simp only [String.toList_append, List.mem_append] at member
    rcases member with (front | middle) | back
    · simpa using List.all_eq_true.mp plain.1 c front
    · have mark : ("-".toList.all fun c => !isWhiteSpace c) = true := by decide
      simpa using List.all_eq_true.mp mark c middle
    · exact isWhiteSpace_of_hex (List.all_eq_true.mp (h.sha256 _).hex c back)
  · simp only [String.length_append]; omega
  · simp only [String.length_append]; omega

def derivedId (h : Host) (n : Namespace) (values : List String) : Identifier :=
  Text.Bounded.ofText (n.value ++ "-" ++ (h.sha256 (hashed n values)).text)
    (derivedId_fits h n values)

/-! What is read of an entry. -/

def boundedText (maximum : Nat) : Option Json → Option String
  | some (.str value) =>
    let normalized := strip value
    if normalized ≠ "" ∧ normalized.length ≤ maximum then some normalized else none
  | _ => none

def mapping : Option Json → Dict
  | some (.obj fields) => fields
  | _ => []

/-- `_SAFE_RESOURCE`. -/
def isSafeResource (s : String) : Bool := match Text.chars s with
  | [] => false
  | c :: rest => c.isAlphanum && rest.length ≤ 127 &&
    rest.all fun c => c.isAlphanum || c == '.' || c == '_' || c == ':' || c == '-'

/-- `str.lower`, of a text that is a safe resource. -/
def lower (s : String) : String := String.ofList ((Text.chars s).map Char.toLower)

/-- A fault of one of the allowed event types, with the case-folded names it is about. -/
inductive Fault where
  | ueransimHealth (hostname processName : String)
  | criticalServiceError (node : String)
  deriving DecidableEq

namespace Fault

def eventType : Fault → String
  | .ueransimHealth _ _ => "UERANSIMHEALTH"
  | .criticalServiceError _ => "CRITICALSERVICEERROR"

def semanticResource : Fault → String
  | .ueransimHealth hostname processName => hostname ++ ":" ++ processName
  | .criticalServiceError node => node

def severity : Fault → IncidentSeverity
  | .ueransimHealth _ _ => .high
  | .criticalServiceError _ => .critical

def title : Fault → String
  | .ueransimHealth _ _ => "5G 仿真进程健康异常"
  | .criticalServiceError _ => "5G 关键服务异常"

end Fault

def safeText (value : Option Json) : Option String :=
  (boundedText 128 value).filter isSafeResource

/-- `_fault_identity`, as far as it reads the entry. -/
def faultIdentity (payload : Dict) (eventType : String) : Except IngressFailure Fault :=
  let jsonPayload := mapping (payload.lookup "jsonPayload")
  if eventType = "UERANSIMHEALTH" then
    match safeText (jsonPayload.lookup "process_name"), safeText (jsonPayload.lookup "hostname") with
    | some processName, some hostname =>
      .ok (.ueransimHealth (lower hostname) (lower processName))
    | _, _ => .error (.permanent "FAULT_RESOURCE_INVALID")
  else
    match safeText (jsonPayload.lookup "node") with
    | some node => .ok (.criticalServiceError (lower node))
    | none => .error (.permanent "FAULT_RESOURCE_INVALID")

/-- `_ALLOWED_EVENTS`. -/
def allowedEvents : List String := ["UERANSIMHEALTH", "CRITICALSERVICEERROR"]

def readEventType (payload : Dict) : Except IngressFailure String :=
  match boundedText 64 ((mapping (payload.lookup "labels")).lookup "python_logger") with
  | some eventType => do
    require (eventType ∈ allowedEvents) (.permanent "FAULT_EVENT_TYPE_REJECTED")
    return eventType
  | none => .error (.permanent "FAULT_EVENT_TYPE_REJECTED")

/-- `datetime.min` and `datetime.max` in UTC. -/
def representable (t : Instant) : Prop := -62135596800000000 ≤ t ∧ t ≤ 253402300799999999

instance (t : Instant) : Decidable (representable t) := inferInstanceAs (Decidable (_ ∧ _))

def calendar (t : Instant) : Except IngressFailure Instant := do
  require (representable t) .overflow
  return t

/-- `raw.replace("Z", "+00:00")`. -/
def withOffset (raw : String) : String :=
  String.ofList ((Text.chars raw).flatMap fun c =>
    if c = 'Z' then ['+', '0', '0', ':', '0', '0'] else [c])

/-- `_event_timestamp`. `fromisoformat` gives the instant of a text with an offset. -/
def eventTimestamp (fromisoformat : String → Option Instant) (payload : Dict) :
    Except IngressFailure Instant :=
  match (boundedText 64 (payload.lookup "timestamp")).bind fun raw => fromisoformat (withOffset raw)
    with
  | some parsed => calendar parsed
  | none => .error (.permanent "FAULT_TIMESTAMP_INVALID")

structure Settings where
  maxEventAgeSeconds : Int := 604800
  maxFutureSkewSeconds : Int := 300

def checkTimes (s : Settings) (occurredAt receivedAt : Instant) : Except IngressFailure Unit := do
  require (1 ≤ s.maxEventAgeSeconds ∧ s.maxEventAgeSeconds ≤ 604800)
    (.value "max_event_age_seconds is outside the safe range")
  require (1 ≤ s.maxFutureSkewSeconds ∧ s.maxFutureSkewSeconds ≤ 300)
    (.value "max_future_skew_seconds is outside the safe range")
  let latest ← calendar (receivedAt + s.maxFutureSkewSeconds * 1000000)
  require (occurredAt ≤ latest) (.permanent "FAULT_TIMESTAMP_FUTURE")
  let earliest ← calendar (receivedAt - s.maxEventAgeSeconds * 1000000)
  require (earliest ≤ occurredAt) (.permanent "FAULT_TIMESTAMP_STALE")

def readInsertId (payload : Dict) : Option String := boundedText 256 (payload.lookup "insertId")

def readLogName (payload : Dict) : String :=
  (boundedText 1024 (payload.lookup "logName")).getD "unknown"

structure LogEntry where
  fault : Fault
  occurredAt : Instant
  insertId : Option String
  logName : String
  payloadSha256 : Sha256.Digest
  deriving DecidableEq

def readEntry (fromisoformat : String → Option Instant) (s : Settings) (receivedAt : Instant)
    (push : ParsedPubSubPush) : Except IngressFailure LogEntry := do
  let eventType ← readEventType push.payload
  let occurredAt ← eventTimestamp fromisoformat push.payload
  checkTimes s occurredAt receivedAt
  let fault ← faultIdentity push.payload eventType
  return {
    fault
    occurredAt
    insertId := readInsertId push.payload
    logName := readLogName push.payload
    payloadSha256 := push.payloadSha256 }

/-! What is built from an entry. -/
namespace LogEntry

def sourceSeed (e : LogEntry) : String := match e.insertId with
  | some insertId => material e.logName [insertId]
  | none => material e.fault.eventType [isoText "+00:00" e.occurredAt, e.payloadSha256.text]

def semanticValues (e : LogEntry) : List String := [e.fault.eventType, e.fault.semanticResource]

def resourceId (h : Host) (e : LogEntry) : Identifier := derivedId h .resource e.semanticValues
def sourceEventId (h : Host) (e : LogEntry) : Identifier := derivedId h .event [e.sourceSeed]
def correlationKey (h : Host) (e : LogEntry) : Identifier :=
  derivedId h .correlation e.semanticValues
def incidentId (h : Host) (e : LogEntry) : Identifier :=
  derivedId h .incident [(e.sourceEventId h).text, (e.correlationKey h).text]
def traceId (h : Host) (e : LogEntry) : Identifier := derivedId h .trace [(e.sourceEventId h).text]

/-- The times come from the event, so that a redelivery builds the same incident. -/
def incident (h : Host) (e : LogEntry) : Incident where
  incidentId := e.incidentId h
  correlationKey := some (e.correlationKey h)
  sourceEventIds := [e.sourceEventId h]
  technology := .fiveGSa
  severity := e.fault.severity
  title := e.fault.title
  description := "检测到经过白名单验证的实时网络故障事件。"
  affectedResources := [{
    resourceId := e.resourceId h
    resourceType := .networkNode
    technology := some .fiveGSa }]
  detectedAt := e.occurredAt
  createdAt := e.occurredAt
  updatedAt := e.occurredAt
  traceId := e.traceId h
  modelMetadata := [("event_source", .str "cloud-logging"), ("event_type", .str e.fault.eventType)]

set_option maxRecDepth 8000 in
theorem eventType_bounded (f : Fault) : Text.trim isWhiteSpace f.eventType = f.eventType ∧
    1 ≤ f.eventType.length ∧ f.eventType.length ≤ 128 := by
  have allowed : ∀ t ∈ allowedEvents, Text.trim isWhiteSpace t = t ∧ 1 ≤ t.length ∧
      t.length ≤ 128 := by decide
  cases f with
  | ueransimHealth => exact allowed _ (by simp [allowedEvents, Fault.eventType])
  | criticalServiceError => exact allowed _ (by simp [allowedEvents, Fault.eventType])

def envelope (h : Host) (e : LogEntry) (receivedAt : Instant) : SourceEventEnvelope where
  sourceEventId := e.sourceEventId h
  source := Text.Bounded.ofText "cloud-logging" ⟨by decide +kernel, by decide, by decide⟩
  eventType := Text.Bounded.ofText e.fault.eventType (eventType_bounded e.fault)
  occurredAt := e.occurredAt
  receivedAt := receivedAt
  payloadSha256 := e.payloadSha256
  traceId := e.traceId h
  incident := some (e.incident h)
  attributes := [("correlation_key", .str (e.correlationKey h).text),
    ("resource_id", .str (e.resourceId h).text)]

end LogEntry

def built {α : Type} : Except Cloud.IngestError α → Except IngressFailure α
  | .ok a => .ok a
  | .error e => .error (.model e)

@[simp] theorem built_ok {α : Type} {x : Except Cloud.IngestError α} {a : α} :
    built x = .ok a ↔ x = .ok a := by
  cases x <;> simp [built]

def normalizeFaultEvent (h : Host) (fromisoformat : String → Option Instant) (s : Settings)
    (receivedAt : Instant) (push : ParsedPubSubPush) :
    Except IngressFailure SourceEventEnvelope := do
  let entry ← readEntry fromisoformat s receivedAt push
  built (Cloud.validateIncident h (entry.incident h))
  built ((entry.envelope h receivedAt).validate h)
  return entry.envelope h receivedAt

theorem normalizeFaultEvent_ok {h : Host} {fromisoformat : String → Option Instant} {s : Settings}
    {receivedAt : Instant} {push : ParsedPubSubPush} {envelope : SourceEventEnvelope} :
    normalizeFaultEvent h fromisoformat s receivedAt push = .ok envelope ↔
      ∃ entry, readEntry fromisoformat s receivedAt push = .ok entry ∧
        Cloud.validateIncident h (entry.incident h) = .ok () ∧
        (entry.envelope h receivedAt).validate h = .ok () ∧
        entry.envelope h receivedAt = envelope := by
  rw [normalizeFaultEvent, Checks.bind_ok]
  simp only [Checks.seq_ok, built_ok, pure, Except.pure, Except.ok.injEq]

theorem readEntry_ok {fromisoformat : String → Option Instant} {s : Settings} {receivedAt : Instant}
    {push : ParsedPubSubPush} {entry : LogEntry}
    (read : readEntry fromisoformat s receivedAt push = .ok entry) :
    entry.insertId = readInsertId push.payload ∧ entry.logName = readLogName push.payload ∧
      entry.payloadSha256 = push.payloadSha256 := by
  simp only [readEntry, Checks.bind_ok, pure, Except.pure, Except.ok.injEq] at read
  obtain ⟨_, _, _, _, _, _, _, _, rfl⟩ := read
  exact ⟨rfl, rfl, rfl⟩

end NetworkAgent.FaultIngress
