import Mathlib.Tactic.MkIffOfInductiveProp
import NetworkAgent.Lab.Commitment

/-! The contracts of a dataset bundle: observations without labels, ground-truth episodes,
predictions, and the manifest that binds a bundle together. A model strips the texts it is given
and then checks them. -/
namespace NetworkAgent.Bundle
open Lab (isHexId isSafeName isMetricName isMetricUnit isSorted ModelSafe)

def maxMetricsPerObservation : Nat := 64
def maxQualityFlags : Nat := 8
def maxBundleObservations : Nat := 50000
def maxBundleEpisodes : Nat := 10000
def maxBundleResources : Nat := 1000
def maxObservationSerializedBytes : Nat := 32 * 1024
def maxEpisodeSerializedBytes : Nat := 16 * 1024
def maxManifestSerializedBytes : Nat := 64 * 1024
def maxBundleSerializedBytes : Nat := 64 * 1024 * 1024

def isContentId (s : String) : Bool :=
  ["labobs-", "labtruth-", "labpred-", "labbundle-", "labeval-"].any fun start => isHexId start 64 s

def isLabResourceId (s : String) : Bool :=
  ["lte", "5g-nsa", "5g-sa"].any fun technology => ["enodeb", "gnb", "cell"].any fun kind =>
    isHexId ("lab:" ++ technology ++ ":" ++ kind ++ ":") 24 s

def stableContentId (h : Host) (kind : String) (value : Json) : String :=
  "lab" ++ kind ++ "-" ++
    (h.sha256 (utf8 ("telco-lab:1.0:" ++ kind) ++ 0 :: h.canonicalJson value)).text

def persistentInterference : String := "persistent_interference"

def sortedSet (texts : List String) : List String := texts.dedup.insertionSort fun a b => textLe a b

/-! Observations. -/

structure LabObservation where
  observationId : String
  datasetId : String
  datasetVersion : String
  sourceArtifactSha256 : Sha256.Digest
  sourceRowNumber : Nat
  observedAt : Instant
  resourceId : String
  technology : Technology
  metrics : List (String × ℚ)
  units : List (String × String)
  qualityFlags : List String := []
  deriving DecidableEq

namespace LabObservation

def identity (o : LabObservation) : List (String × Json) :=
  [("dataset_id", .str o.datasetId), ("dataset_version", .str o.datasetVersion),
   ("source_artifact_sha256", dumpDigest o.sourceArtifactSha256),
   ("source_row_number", .int o.sourceRowNumber), ("observed_at", dumpTime "+00:00" o.observedAt),
   ("resource_id", .str o.resourceId), ("technology", .str o.technology.value),
   ("metrics", .obj (o.metrics.map fun m => (m.1, .float m.2))), ("units", dumpStrings o.units),
   ("quality_flags", dumpList .str o.qualityFlags)]

def dump (o : LabObservation) : Json := .obj
  (("schema_version", .str schemaVersion) :: ("observation_id", .str o.observationId) :: o.identity)

def stripped (o : LabObservation) : LabObservation :=
  { o with
    datasetId := stripWhitespace o.datasetId
    datasetVersion := stripWhitespace o.datasetVersion }

/-- The constraints of the fields, then `_privacy_safe` and `_validate_metric_projection`. -/
@[mk_iff]
structure Valid (h : Host) (o : LabObservation) : Prop where
  observationId : isContentId o.observationId = true
  datasetId : isSafeName o.datasetId = true
  datasetVersion : isSafeName o.datasetVersion = true
  sourceRowNumber : 2 ≤ o.sourceRowNumber ∧ o.sourceRowNumber ≤ 10000001
  resourceId : isLabResourceId o.resourceId = true
  metrics : (1 ≤ o.metrics.length ∧ o.metrics.length ≤ maxMetricsPerObservation) ∧
    ∀ m ∈ o.metrics, isMetricName m.1 = true
  units : (1 ≤ o.units.length ∧ o.units.length ≤ maxMetricsPerObservation) ∧
    ∀ u ∈ o.units, isMetricName u.1 = true ∧ isMetricUnit u.2 = true
  qualityFlags : o.qualityFlags.length ≤ maxQualityFlags ∧
    ∀ flag ∈ o.qualityFlags, isSafeName flag = true
  safe : ModelSafe h o.dump
  names : (∀ m ∈ o.metrics, m.1 ∈ o.units.map Prod.fst) ∧ ∀ u ∈ o.units, u.1 ∈ o.metrics.map Prod.fst
  flags : isSorted o.qualityFlags = true
  size : serializedBytes h o.dump ≤ maxObservationSerializedBytes
  identified : stableContentId h "obs" (.obj o.identity) = o.observationId

instance (h : Host) (o : LabObservation) : Decidable (o.Valid h) := decidable_of_iff _ (valid_iff h o).symm

/-- `LabObservation.model_validate`. -/
def modelValidate (h : Host) (o : LabObservation) : Option LabObservation :=
  if o.stripped.Valid h then some o.stripped else none

end LabObservation

/-! Ground truth. -/

structure LabEpisode where
  episodeId : String
  datasetId : String
  datasetVersion : String
  sourceArtifactSha256 : Sha256.Digest
  resourceId : String
  windowStart : Instant
  windowEnd : Instant
  sampleCount : Nat
  firstObservationId : String
  lastObservationId : String
  deriving DecidableEq

namespace LabEpisode

def identity (e : LabEpisode) : List (String × Json) :=
  [("dataset_id", .str e.datasetId), ("dataset_version", .str e.datasetVersion),
   ("source_artifact_sha256", dumpDigest e.sourceArtifactSha256),
   ("resource_id", .str e.resourceId), ("label", .str persistentInterference),
   ("window_start", dumpTime "+00:00" e.windowStart), ("window_end", dumpTime "+00:00" e.windowEnd),
   ("sample_count", .int e.sampleCount), ("first_observation_id", .str e.firstObservationId),
   ("last_observation_id", .str e.lastObservationId)]

def dump (e : LabEpisode) : Json := .obj
  (("schema_version", .str schemaVersion) :: ("episode_id", .str e.episodeId) ::
    ("origin", .str "GROUND_TRUTH") :: e.identity)

def stripped (e : LabEpisode) : LabEpisode :=
  { e with
    datasetId := stripWhitespace e.datasetId
    datasetVersion := stripWhitespace e.datasetVersion }

/-- The constraints of the fields, then `_privacy_safe` and `_validate_contiguous_window`. -/
@[mk_iff]
structure Valid (h : Host) (e : LabEpisode) : Prop where
  episodeId : isContentId e.episodeId = true
  datasetId : isSafeName e.datasetId = true
  datasetVersion : isSafeName e.datasetVersion = true
  resourceId : isLabResourceId e.resourceId = true
  sampleCount : 1 ≤ e.sampleCount ∧ e.sampleCount ≤ maxBundleObservations
  firstObservationId : isContentId e.firstObservationId = true
  lastObservationId : isContentId e.lastObservationId = true
  safe : ModelSafe h e.dump
  ordered : e.windowStart ≤ e.windowEnd
  contiguous : (e.windowEnd - e.windowStart) / 1000000 + 1 = (e.sampleCount : Int)
  size : serializedBytes h e.dump ≤ maxEpisodeSerializedBytes
  identified : stableContentId h "truth" (.obj e.identity) = e.episodeId

instance (h : Host) (e : LabEpisode) : Decidable (e.Valid h) := decidable_of_iff _ (valid_iff h e).symm

/-- `LabEpisode.model_validate`. -/
def modelValidate (h : Host) (e : LabEpisode) : Option LabEpisode :=
  if e.stripped.Valid h then some e.stripped else none

end LabEpisode

/-! Bundles. -/

structure LabBundleManifest where
  bundleId : String
  datasetId : String
  datasetVersion : String
  sourceArtifactSha256 : Sha256.Digest
  sourceLicense : String
  adapterId : String
  adapterVersion : String
  contentSha256 : Sha256.Digest
  observationCount : Nat
  groundTruthEpisodeCount : Nat
  windowStart : Instant
  windowEnd : Instant
  resourceIds : List String
  metricNames : List String
  deriving DecidableEq

namespace LabBundleManifest

def identityPayload (m : LabBundleManifest) : List (String × Json) :=
  [("dataset_id", .str m.datasetId), ("dataset_version", .str m.datasetVersion),
   ("source_artifact_sha256", dumpDigest m.sourceArtifactSha256),
   ("source_license", .str m.sourceLicense), ("adapter_id", .str m.adapterId),
   ("adapter_version", .str m.adapterVersion),
   ("content_hash_algorithm", .str "sha256-canonical-json-lines-v1"),
   ("content_sha256", dumpDigest m.contentSha256), ("observation_count", .int m.observationCount),
   ("ground_truth_episode_count", .int m.groundTruthEpisodeCount),
   ("window_start", dumpTime "+00:00" m.windowStart), ("window_end", dumpTime "+00:00" m.windowEnd),
   ("resource_ids", dumpList .str m.resourceIds), ("metric_names", dumpList .str m.metricNames)]

def dump (m : LabBundleManifest) : Json := .obj
  (("schema_version", .str schemaVersion) :: ("bundle_id", .str m.bundleId) :: m.identityPayload)

def stripped (m : LabBundleManifest) : LabBundleManifest :=
  { m with
    datasetId := stripWhitespace m.datasetId
    datasetVersion := stripWhitespace m.datasetVersion }

/-- The constraints of the fields, then `_privacy_safe` and `_validate_manifest`. -/
@[mk_iff]
structure Valid (h : Host) (m : LabBundleManifest) : Prop where
  bundleId : isContentId m.bundleId = true
  names : ∀ name ∈ [m.datasetId, m.datasetVersion, m.sourceLicense, m.adapterId, m.adapterVersion],
    isSafeName name = true
  observationCount : 1 ≤ m.observationCount ∧ m.observationCount ≤ maxBundleObservations
  groundTruthEpisodeCount : m.groundTruthEpisodeCount ≤ maxBundleEpisodes
  resourceIds : (1 ≤ m.resourceIds.length ∧ m.resourceIds.length ≤ maxBundleResources) ∧
    ∀ id ∈ m.resourceIds, isLabResourceId id = true
  metricNames : (1 ≤ m.metricNames.length ∧ m.metricNames.length ≤ maxMetricsPerObservation) ∧
    ∀ name ∈ m.metricNames, isMetricName name = true
  safe : ModelSafe h m.dump
  ordered : m.windowStart ≤ m.windowEnd
  sortedResources : isSorted m.resourceIds = true
  sortedMetrics : isSorted m.metricNames = true
  size : serializedBytes h m.dump ≤ maxManifestSerializedBytes

instance (h : Host) (m : LabBundleManifest) : Decidable (m.Valid h) := decidable_of_iff _ (valid_iff h m).symm

/-- `LabBundleManifest.model_validate`. -/
def modelValidate (h : Host) (m : LabBundleManifest) : Option LabBundleManifest :=
  if m.stripped.Valid h then some m.stripped else none

end LabBundleManifest

def contentLine (h : Host) (kind : String) (item : Json) : List Nat :=
  utf8 kind ++ 0 :: (h.canonicalJson item ++ [10])

def computeBundleContentSha256 (h : Host) (observations : List LabObservation)
    (groundTruthEpisodes : List LabEpisode) : Sha256.Digest :=
  h.sha256 (utf8 "telco-lab:1.0:bundle-content" ++ 0 ::
    (observations.flatMap (fun o => contentLine h "observation" o.dump) ++
      groundTruthEpisodes.flatMap fun e => contentLine h "ground-truth" e.dump))

structure LabBundle where
  manifest : LabBundleManifest
  observations : List LabObservation
  groundTruthEpisodes : List LabEpisode
  deriving DecidableEq

namespace LabBundle

def dump (b : LabBundle) : Json := .obj
  [("schema_version", .str schemaVersion), ("manifest", b.manifest.dump),
   ("observations", dumpList LabObservation.dump b.observations),
   ("ground_truth_episodes", dumpList LabEpisode.dump b.groundTruthEpisodes)]

def episodeLe (a b : LabEpisode) : Bool :=
  if a.resourceId = b.resourceId then decide (a.windowStart ≤ b.windowStart)
  else textLe a.resourceId b.resourceId

/-- An episode neither touches the next one of its resource nor overlaps it. -/
def Separated (a b : LabEpisode) : Prop :=
  a.resourceId = b.resourceId → a.windowEnd + 1000000 < b.windowStart

instance (a b : LabEpisode) : Decidable (Separated a b) := inferInstanceAs (Decidable (_ → _))

/-- The parts, the constraints of the fields, then `_privacy_safe` and `_validate_bundle`. -/
@[mk_iff]
structure Valid (h : Host) (b : LabBundle) : Prop where
  manifest : b.manifest.Valid h
  observations : (1 ≤ b.observations.length ∧ b.observations.length ≤ maxBundleObservations) ∧
    ∀ o ∈ b.observations, o.Valid h
  groundTruthEpisodes : b.groundTruthEpisodes.length ≤ maxBundleEpisodes ∧
    ∀ e ∈ b.groundTruthEpisodes, e.Valid h
  safe : ModelSafe h b.dump
  observationCount : b.manifest.observationCount = b.observations.length
  episodeCount : b.manifest.groundTruthEpisodeCount = b.groundTruthEpisodes.length
  observationIds : (b.observations.map (·.observationId)).Nodup
  episodeIds : (b.groundTruthEpisodes.map (·.episodeId)).Nodup
  observationScope : ∀ o ∈ b.observations, o.datasetId = b.manifest.datasetId ∧
    o.datasetVersion = b.manifest.datasetVersion ∧
      o.sourceArtifactSha256 = b.manifest.sourceArtifactSha256
  episodeScope : ∀ e ∈ b.groundTruthEpisodes, e.datasetId = b.manifest.datasetId ∧
    e.datasetVersion = b.manifest.datasetVersion ∧
      e.sourceArtifactSha256 = b.manifest.sourceArtifactSha256
  resources : sortedSet (b.observations.map (·.resourceId)) = b.manifest.resourceIds
  metrics : sortedSet (b.observations.flatMap fun o => o.metrics.map Prod.fst) =
    b.manifest.metricNames
  start : (b.observations.map (·.observedAt)).min? = some b.manifest.windowStart
  stop : (b.observations.map (·.observedAt)).max? = some b.manifest.windowEnd
  content : computeBundleContentSha256 h b.observations b.groundTruthEpisodes =
    b.manifest.contentSha256
  identified : stableContentId h "bundle" (.obj b.manifest.identityPayload) = b.manifest.bundleId
  separated : ((b.groundTruthEpisodes.insertionSort fun a b => episodeLe a b).IsChain Separated)
  size : serializedBytes h b.manifest.dump +
    (b.observations.map fun o => serializedBytes h o.dump).sum +
      (b.groundTruthEpisodes.map fun e => serializedBytes h e.dump).sum ≤ maxBundleSerializedBytes

instance (h : Host) (b : LabBundle) : Decidable (b.Valid h) := decidable_of_iff _ (valid_iff h b).symm

/-- `LabBundle.model_validate`, of parts that are validated models. -/
def modelValidate (h : Host) (b : LabBundle) : Option LabBundle :=
  if b.Valid h then some b else none

end LabBundle

end NetworkAgent.Bundle
