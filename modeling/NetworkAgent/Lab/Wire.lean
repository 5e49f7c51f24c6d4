import NetworkAgent.Domain.Validation
import NetworkAgent.Lab.Replay

/-! The wire payload of a replay event, its identity and what its model accepts. -/
namespace NetworkAgent.Lab

def maxMetricsPerObservation : Nat := 64

structure EventValues where
  datasetId : String
  datasetVersion : String
  scenario : String
  lockId : String
  sourceObservationId : String
  replayObservedAt : Instant
  resourceId : String
  technology : Technology
  metrics : List (String × ℚ)
  units : List (String × String)
  qualityFlags : List String
  deriving DecidableEq

namespace EventValues

/-- `_event_payload_identity`. -/
def payloadIdentity (v : EventValues) : Json := .obj
  [("schema_version", .str schemaVersion), ("dataset_id", .str v.datasetId),
   ("dataset_version", .str v.datasetVersion), ("scenario", .str v.scenario),
   ("replay_observed_at", dumpTime "+00:00" v.replayObservedAt),
   ("resource_id", .str v.resourceId), ("technology", .str v.technology.value),
   ("metrics", .obj (v.metrics.map fun m => (m.1, .float m.2))),
   ("units", dumpStrings v.units), ("quality_flags", dumpList .str v.qualityFlags)]

def expectedPayload (h : Host) (v : EventValues) : String :=
  domainDigest h "telco-lab:replay-payload:v1" v.payloadIdentity

/-- `_source_event_id`. -/
def expectedSourceEvent (h : Host) (v : EventValues) : String :=
  "labevent-" ++ domainDigest h "telco-lab:replay-source-event:v1" (.obj
    [("dataset_id", .str v.datasetId), ("dataset_version", .str v.datasetVersion),
     ("lock_id", .str v.lockId), ("scenario", .str v.scenario),
     ("source_observation_id", .str v.sourceObservationId),
     ("payload_sha256", .str (v.expectedPayload h))])

end EventValues

def replayIdempotencyKey (h : Host) (sourceEventId : String) : String :=
  "labidempotency-" ++ domainDigest h "telco-lab:replay-idempotency:v1"
    (.obj [("source_event_id", .str sourceEventId)])

structure ReplayWirePayload where
  sourceEventId : String
  idempotencyKey : String
  payloadSha256 : String
  lockId : String
  bundleId : String
  sourceObservationId : String
  datasetId : String
  datasetVersion : String
  scenario : String
  replayObservedAt : Instant
  resourceId : String
  technology : Technology
  metrics : List (String × ℚ)
  units : List (String × String)
  qualityFlags : List String := []
  deriving DecidableEq

/-! The patterns of the identifiers. A text matches as a whole. -/

/-- A fixed start and a number of lower-case hexadecimal digits. -/
def isHexId (start : String) (count : Nat) (s : String) : Bool :=
  s.toList.take start.length == start.toList &&
    (s.toList.drop start.length).length == count &&
    (s.toList.drop start.length).all Sha256.isHexDigit

def isNameChar (c : Char) : Bool := c.isAlphanum || c == '.' || c == '_' || c == ':' || c == '-'

/-- A letter or digit, then letters, digits and `. _ : -`; at most `bound` characters. -/
def isName (bound : Nat) (s : String) : Bool := match s.toList with
  | [] => false
  | c :: rest => c.isAlphanum && rest.all isNameChar && rest.length < bound

/-! The one approved projection of an adapter. -/

def approvedProjection : List (String × String) :=
  [("ran.mac.buffer_status_report", "count"), ("ran.mac.dl_aggregated_prb", "PRB"),
   ("ran.mac.ul_aggregated_prb", "PRB"), ("ran.mac.dl_retransmission_prb", "PRB"),
   ("ran.mac.ul_retransmission_prb", "PRB"), ("ran.mac.dl_scheduled_rb", "PRB"),
   ("ran.mac.ul_scheduled_rb", "PRB"), ("ran.mac.dl_bler", "ratio"), ("ran.mac.ul_bler", "ratio"),
   ("ran.mac.dl_mcs", "index"), ("ran.mac.ul_mcs", "index"),
   ("ran.mac.ul_harq_process_2", "count"), ("ran.mac.ul_harq_process_3", "count"),
   ("ran.mac.pucch_snr", "dB"), ("ran.mac.pusch_snr", "dB"), ("ran.mac.power_headroom", "dB"),
   ("ran.mac.wideband_cqi", "index"), ("ran.mac.dl_shared_channel_errors", "count"),
   ("ran.mac.ul_shared_channel_errors", "count"), ("ran.rlc.tx_retransmitted_pdus", "count"),
   ("ran.rlc.tx_buffer_occupancy", "bytes"), ("ran.rlc.rx_dropped_pdus", "count"),
   ("ran.rlc.rx_buffer_occupancy", "bytes"), ("ran.rlc.average_sdu_tx_delay", "microseconds"),
   ("ran.rlc.head_of_line_sdu_delay", "microseconds"), ("ran.pdcp.rx_out_of_order_pdus", "count"),
   ("ran.pdcp.rx_discarded_pdus", "count"), ("ran.kpm.dl_throughput", "bps"),
   ("ran.kpm.ul_throughput", "bps"), ("ran.kpm.dl_used_prb", "PRB"), ("ran.kpm.ul_used_prb", "PRB"),
   ("ran.kpm.dl_total_prb", "PRB"), ("ran.kpm.ul_total_prb", "PRB")]

def approvedQualityFlags : List String := ["MISSING_METRIC_VALUES"]

def IsApprovedEventProjection (metrics : List (String × ℚ)) (units : List (String × String))
    (qualityFlags : List String) : Prop :=
  (∀ m ∈ metrics, ∃ unit, (m.1, unit) ∈ approvedProjection ∧ (m.1, unit) ∈ units) ∧
    qualityFlags ⊆ approvedQualityFlags

instance (metrics : List (String × ℚ)) (units : List (String × String))
    (qualityFlags : List String) :
    Decidable (IsApprovedEventProjection metrics units qualityFlags) :=
  decidable_of_iff ((∀ m ∈ metrics, ∃ p ∈ approvedProjection, p.1 = m.1 ∧ (m.1, p.2) ∈ units) ∧
      qualityFlags ⊆ approvedQualityFlags) <| by
    refine and_congr_left fun _ => forall₂_congr fun m _ => ⟨?_, ?_⟩
    · rintro ⟨⟨name, unit⟩, known, rfl, given⟩
      exact ⟨unit, known, given⟩
    · rintro ⟨unit, known, given⟩
      exact ⟨(m.1, unit), known, rfl, given⟩

/-! The types of the fields. -/

def isSafeName (s : String) : Bool := isName 128 s

/-- Lower-case words joined by single dots or underscores; after a joint a word must follow. -/
def isWords : Bool → List Char → Bool
  | joint, [] => !joint
  | joint, c :: rest =>
    if isLowerOrDigit c then isWords false rest
    else (c == '.' || c == '_') && !joint && isWords true rest

def isMetricName (s : String) : Bool := match s.toList with
  | [] => false
  | c :: rest => 'a' ≤ c && c ≤ 'z' && isWords false rest && rest.length < 128

def isMetricUnit (s : String) : Bool := match s.toList with
  | [] => false
  | c :: rest => c.isAlpha &&
      (rest.all fun c => c.isAlphanum || c == '.' || c == '_' || c == '/' || c == '-') &&
      rest.length < 32

/-- A strictly increasing list of texts: the keys of a frozen mapping, or unique sorted flags. -/
def isSorted (names : List String) : Bool :=
  decide (names.Pairwise fun a b => textLe a b = true ∧ a ≠ b)

/-- `_FrozenMapping` holds its items in the order of their names. -/
def isFrozen {V : Type} (items : List (String × V)) : Bool :=
  isSorted (items.map Prod.fst) && 0 < items.length && items.length ≤ maxMetricsPerObservation

namespace ReplayWirePayload

def values (w : ReplayWirePayload) : EventValues := {
  datasetId := w.datasetId
  datasetVersion := w.datasetVersion
  scenario := w.scenario
  lockId := w.lockId
  sourceObservationId := w.sourceObservationId
  replayObservedAt := w.replayObservedAt
  resourceId := w.resourceId
  technology := w.technology
  metrics := w.metrics
  units := w.units
  qualityFlags := w.qualityFlags }

def toSinkPayload (w : ReplayWirePayload) : Json := .obj
  [("schema_version", .str schemaVersion), ("source_event_id", .str w.sourceEventId),
   ("idempotency_key", .str w.idempotencyKey), ("payload_sha256", .str w.payloadSha256),
   ("lock_id", .str w.lockId), ("bundle_id", .str w.bundleId),
   ("source_observation_id", .str w.sourceObservationId), ("dataset_id", .str w.datasetId),
   ("dataset_version", .str w.datasetVersion), ("scenario", .str w.scenario),
   ("replay_observed_at", dumpTime "+00:00" w.replayObservedAt),
   ("resource_id", .str w.resourceId), ("technology", .str w.technology.value),
   ("metrics", .obj (w.metrics.map fun m => (m.1, .float m.2))),
   ("units", dumpStrings w.units), ("quality_flags", dumpList .str w.qualityFlags)]

def requestFingerprintSha256 (h : Host) (w : ReplayWirePayload) : Sha256.Digest :=
  h.sha256 (h.canonicalJson w.toSinkPayload)

structure Typed (w : ReplayWirePayload) : Prop where
  payloadSha256 : w.payloadSha256.length = 64 ∧ w.payloadSha256.toList.all Sha256.isHexDigit
  datasetId : isSafeName w.datasetId
  datasetVersion : isSafeName w.datasetVersion
  scenario : isSafeName w.scenario
  metrics : isFrozen w.metrics ∧ ∀ m ∈ w.metrics, isMetricName m.1
  units : isFrozen w.units ∧ ∀ u ∈ w.units, isMetricName u.1 ∧ isMetricUnit u.2
  qualityFlags : ∀ flag ∈ w.qualityFlags, isSafeName flag

def validateWireIdentity (h : Host) (w : ReplayWirePayload) : Validation := do
  requireText (isHexId "labevent-" 64 w.sourceEventId) "source event identifier is invalid"
  requireText (isHexId "labidempotency-" 64 w.idempotencyKey) "idempotency identifier is invalid"
  requireText (isHexId "lablock-" 64 w.lockId) "workspace lock identifier is invalid"
  requireText (isHexId "labbundle-" 64 w.bundleId) "bundle identifier is invalid"
  requireText (isHexId "labobs-" 64 w.sourceObservationId) "observation identifier is invalid"
  requireText (isName 256 w.resourceId) "resource identifier is invalid"
  requireText (isName 128 w.scenario) "scenario is invalid"
  requireText (w.metrics.map Prod.fst = w.units.map Prod.fst)
    "metric values and units must have identical names"
  requireText (isSorted w.qualityFlags) "quality flags must be unique and sorted"
  requireText (IsApprovedEventProjection w.metrics w.units w.qualityFlags)
    "replay event projection is not approved"
  requireText (w.payloadSha256 = w.values.expectedPayload h ∧
      w.sourceEventId = w.values.expectedSourceEvent h ∧
      w.idempotencyKey = replayIdempotencyKey h (w.values.expectedSourceEvent h))
    "replay wire identity is inconsistent"
  requireText (findSensitivePaths h "$" w.toSinkPayload = [])
    "replay wire payload is not privacy safe"

structure Valid (h : Host) (w : ReplayWirePayload) : Prop where
  typed : w.Typed
  identity : w.validateWireIdentity h = .ok ()

end ReplayWirePayload

structure ValidWirePayload (h : Host) where
  payload : ReplayWirePayload
  valid : payload.Valid h

namespace ReplayWirePayload
variable {h : Host} {w : ReplayWirePayload}

theorem Valid.idempotencyKey (valid : w.Valid h) :
    w.idempotencyKey = replayIdempotencyKey h w.sourceEventId := by
  have identity := valid.identity
  simp only [validateWireIdentity, Checks.bind_ok, requireText_ok] at identity
  obtain ⟨_, _, _, _, _, _, _, _, _, _, _, _, _, _, _, _, _, _, _, _, _, ⟨_, source, key⟩, _⟩ :=
    identity
  rw [key, source]

theorem Valid.sourceEventId (valid : w.Valid h) : isHexId "labevent-" 64 w.sourceEventId = true := by
  have identity := valid.identity
  simp only [validateWireIdentity, Checks.bind_ok, requireText_ok] at identity
  exact identity.choose_spec.1

end ReplayWirePayload

end NetworkAgent.Lab
