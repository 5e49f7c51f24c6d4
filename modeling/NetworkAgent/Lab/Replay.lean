import NetworkAgent.Domain.Dump

/-! Replay plans, the checkpoints that bind to them, and the errors of a delivery. -/
namespace NetworkAgent.Lab

/-- The code of a `ReplayDeliveryError`. -/
inductive DeliveryCode where
  | argumentsInvalid | policyInvalid | environmentUnsafe | eventInvalid | endpointUnsafe
  | payloadLimit | responseLimit | timeout | network | redirect | status | transportInvalid
  | planInvalid | checkpointInvalid | sequenceInvalid | pacingArgumentsInvalid
  | pacingClockInvalid | pacingCancelled | pacingDeadlineExceeded
  deriving DecidableEq

/-- The code of a `ReplayCheckpointError`. -/
inductive CheckpointCode where
  | argumentsInvalid | workspaceUnsafe | busy | invalid | regression | io
  deriving DecidableEq

inductive ActionMode where
  | disabled | simulate
  deriving DecidableEq

def ActionMode.value : ActionMode → String
  | .disabled => "disabled"
  | .simulate => "simulate"

structure ReplayPolicy where
  endpoint : String
  actionMode : ActionMode
  speed : ℚ := 1
  maxEvents : Nat := 10000
  maxRatePerSecond : ℚ := 50
  maxDurationSeconds : ℚ := 3600
  maxPayloadBytes : Nat := 64 * 1024
  maxTotalPayloadBytes : Nat := 64 * 1024 * 1024
  maxResources : Nat := 1000
  maxConcurrency : Nat := 1
  deriving DecidableEq

def ReplayPolicy.toJson (p : ReplayPolicy) : Json := .obj
  [("schema_version", .str schemaVersion), ("endpoint", .str p.endpoint),
   ("action_mode", .str p.actionMode.value), ("speed", .float p.speed),
   ("max_events", .int p.maxEvents), ("max_rate_per_second", .float p.maxRatePerSecond),
   ("max_duration_seconds", .float p.maxDurationSeconds),
   ("max_payload_bytes", .int p.maxPayloadBytes),
   ("max_total_payload_bytes", .int p.maxTotalPayloadBytes),
   ("max_resources", .int p.maxResources), ("max_concurrency", .int p.maxConcurrency)]

structure ReplayEvent where
  sequenceNumber : Nat
  sourceEventId : String
  idempotencyKey : String
  datasetId : String
  datasetVersion : String
  scenario : String
  lockId : String
  sourceObservationId : String
  replayObservedAt : Instant
  scheduledOffsetSeconds : ℚ
  resourceId : String
  technology : Technology
  metrics : List (String × ℚ)
  units : List (String × String)
  qualityFlags : List String
  payloadSha256 : String
  deriving DecidableEq

/-- `_digest`: the domain is separated from the canonical text by a zero byte. -/
def domainDigest (h : Host) (domain : String) (value : Json) : String :=
  (h.sha256 (utf8 domain ++ 0 :: h.canonicalJson value)).text

namespace ReplayEvent

/-- `_event_payload_identity`: the projection that is sent. -/
def payloadIdentity (e : ReplayEvent) : Json := .obj
  [("schema_version", .str schemaVersion), ("dataset_id", .str e.datasetId),
   ("dataset_version", .str e.datasetVersion), ("scenario", .str e.scenario),
   ("replay_observed_at", dumpTime "+00:00" e.replayObservedAt),
   ("resource_id", .str e.resourceId), ("technology", .str e.technology.value),
   ("metrics", .obj (e.metrics.map fun m => (m.1, .float m.2))),
   ("units", dumpStrings e.units), ("quality_flags", dumpList .str e.qualityFlags)]

def expectedPayload (h : Host) (e : ReplayEvent) : String :=
  domainDigest h "telco-lab:replay-payload:v1" e.payloadIdentity

/-- `_source_event_id`. -/
def expectedSourceEvent (h : Host) (e : ReplayEvent) : String :=
  "labevent-" ++ domainDigest h "telco-lab:replay-source-event:v1" (.obj
    [("dataset_id", .str e.datasetId), ("dataset_version", .str e.datasetVersion),
     ("lock_id", .str e.lockId), ("scenario", .str e.scenario),
     ("source_observation_id", .str e.sourceObservationId),
     ("payload_sha256", .str (e.expectedPayload h))])

def expectedIdempotency (h : Host) (e : ReplayEvent) : String :=
  "labidempotency-" ++ domainDigest h "telco-lab:replay-idempotency:v1"
    (.obj [("source_event_id", .str e.sourceEventId)])

/-- The identifiers that the event model recomputes: the source event identifier is bound to
the payload, the idempotency key to the identifier. -/
structure Identified (h : Host) (e : ReplayEvent) : Prop where
  payload : e.payloadSha256 = e.expectedPayload h
  sourceEvent : e.sourceEventId = e.expectedSourceEvent h
  idempotency : e.idempotencyKey = e.expectedIdempotency h

instance (h : Host) (e : ReplayEvent) : Decidable (e.Identified h) :=
  decidable_of_iff (e.payloadSha256 = e.expectedPayload h ∧
      e.sourceEventId = e.expectedSourceEvent h ∧ e.idempotencyKey = e.expectedIdempotency h)
    ⟨fun ⟨p, s, i⟩ => ⟨p, s, i⟩, fun ⟨p, s, i⟩ => ⟨p, s, i⟩⟩

end ReplayEvent

structure ReplayPlan (h : Host) where
  planId : String
  policy : ReplayPolicy
  events : List ReplayEvent
  nonempty : events ≠ []
  contiguous : events.map (·.sequenceNumber) = List.range' 1 events.length
  identified : ∀ e ∈ events, e.Identified h

structure ReplayDeliveryCheckpoint where
  planId : String
  sequenceNumber : Nat
  sourceEventId : Option String
  payloadSha256 : Option String
  deriving DecidableEq

structure ReplayDeliveryReceipt where
  sequenceNumber : Nat
  sourceEventId : String
  statusCode : Nat
  responseBytes : Nat
  deriving DecidableEq

namespace ReplayPlan
variable {h : Host} (plan : ReplayPlan h)

def resumeAfter (sequenceNumber : Nat) : Except DeliveryCode (List ReplayEvent) :=
  if sequenceNumber ≤ plan.events.length then .ok (plan.events.drop sequenceNumber)
  else .error .sequenceInvalid

def checkpointForSequence (sequenceNumber : Nat) : Except DeliveryCode ReplayDeliveryCheckpoint :=
  match sequenceNumber with
  | 0 => .ok ⟨plan.planId, 0, none, none⟩
  | n + 1 => match plan.events[n]? with
    | some e => .ok ⟨plan.planId, n + 1, some e.sourceEventId, some e.payloadSha256⟩
    | none => .error .checkpointInvalid

def validatedCheckpoint (value : Option ReplayDeliveryCheckpoint) :
    Except DeliveryCode ReplayDeliveryCheckpoint :=
  match value with
  | none => plan.checkpointForSequence 0
  | some value => do
    let expected ← plan.checkpointForSequence value.sequenceNumber
    Checks.require (value = expected) .checkpointInvalid
    return expected

theorem checkpointForSequence_sequence {n : Nat} {c : ReplayDeliveryCheckpoint}
    (built : plan.checkpointForSequence n = .ok c) : c.sequenceNumber = n := by
  unfold checkpointForSequence at built
  split at built
  · cases built; rfl
  · split at built
    · cases built; rfl
    · cases built

theorem checkpointForSequence_ok {n : Nat} (bound : n ≤ plan.events.length) :
    ∃ c, plan.checkpointForSequence n = .ok c := by
  unfold checkpointForSequence
  split
  · exact ⟨_, rfl⟩
  · next n =>
    rw [List.getElem?_eq_getElem (by omega)]
    exact ⟨_, rfl⟩

theorem validatedCheckpoint_ok {n : Nat} {c : ReplayDeliveryCheckpoint}
    (built : plan.checkpointForSequence n = .ok c) : plan.validatedCheckpoint (some c) = .ok c := by
  simp only [validatedCheckpoint, plan.checkpointForSequence_sequence built, built]
  simp [Checks.require, Bind.bind, Except.bind, pure, Except.pure]

theorem validatedCheckpoint_built {value : Option ReplayDeliveryCheckpoint}
    {c : ReplayDeliveryCheckpoint} (passed : plan.validatedCheckpoint value = .ok c) :
    plan.checkpointForSequence c.sequenceNumber = .ok c := by
  unfold validatedCheckpoint at passed
  split at passed
  · rw [plan.checkpointForSequence_sequence passed]
    exact passed
  · simp only [Checks.bind_ok, Checks.require_ok, pure, Except.pure, Except.ok.injEq] at passed
    obtain ⟨_, built, _, _, rfl⟩ := passed
    rw [plan.checkpointForSequence_sequence built]
    exact built

/-- The event after the first `n` has the sequence number `n + 1`. -/
theorem sequenceNumber_of_get {n : Nat} {e : ReplayEvent} (found : plan.events[n]? = some e) :
    e.sequenceNumber = n + 1 := by
  have mapped : (plan.events.map (·.sequenceNumber))[n]? = some e.sequenceNumber := by
    rw [List.getElem?_map, found, Option.map_some]
  have inside : n < plan.events.length := (List.getElem?_eq_some_iff.mp found).1
  rw [plan.contiguous, List.getElem?_range' inside, Option.some.injEq] at mapped
  omega

end ReplayPlan
end NetworkAgent.Lab
