import NetworkAgent.Lab.RcaModels

/-! The commitment to one batch of five rankings: how it is built from the three mappings of a
batch, and how a presented batch is verified against it. -/
namespace NetworkAgent.Lab

/-- The code of an `AdapterError`. -/
inductive AdapterError where
  | invalidInput | unsafeField | limitExceeded
  deriving DecidableEq

def rcaRankingBatchCommitmentSchema : String := "networkagent-rcaeval-ranking-batch-commitment/1.0"
def rcaRankingBatchSize : Nat := 5
def rcaArtifactClosureCount : Int := 16

/-! The texts of a commitment. -/

def isSlot (s : String) : Bool := isHexId "rcaslot-" 64 s

def isIdentifier (s : String) : Bool := match s.toList with
  | [] => false
  | c :: rest =>
    c.isAlphanum && rest.all (fun d => d.isAlphanum || d == '.' || d == '_' || d == '-') &&
      decide (s.length ≤ 128)

def isNumericPart (cs : List Char) : Bool :=
  !cs.isEmpty && cs.all Char.isDigit && (cs == ['0'] || cs.head? != some '0')

def isLabelPart (cs : List Char) : Bool := !cs.isEmpty && cs.all fun c => c.isAlphanum || c == '-'

def isPrereleasePart (cs : List Char) : Bool :=
  isNumericPart cs || (isLabelPart cs && cs.any fun c => !c.isDigit)

/-- What stands before the first mark and, where there is one, what stands after it. -/
def cutAt (mark : Char) (cs : List Char) : List Char × Option (List Char) :=
  (cs.takeWhile (· != mark), (cs.dropWhile (· != mark)).tail?)

def isSemanticVersion (s : String) : Bool :=
  let (version, build) := cutAt '+' s.toList
  let (core, prerelease) := cutAt '-' version
  let numbers := core.splitOn '.'
  decide (s.length ≤ 64) && decide (numbers.length = 3) && numbers.all isNumericPart &&
    prerelease.all (fun part => (part.splitOn '.').all isPrereleasePart) &&
    build.all fun part => (part.splitOn '.').all isLabelPart

structure RcaRankingBatchCommitmentItem where
  opaqueSlot : String
  caseKeySha256 : String
  featureSha256 : String
  rankingSha256 : String
  deriving DecidableEq

namespace RcaRankingBatchCommitmentItem

def dump (i : RcaRankingBatchCommitmentItem) : Json := .obj
  [("opaque_slot", .str i.opaqueSlot), ("case_key_sha256", .str i.caseKeySha256),
   ("feature_sha256", .str i.featureSha256), ("ranking_sha256", .str i.rankingSha256)]

def Valid (i : RcaRankingBatchCommitmentItem) : Prop :=
  isSlot i.opaqueSlot ∧ isSha256 i.caseKeySha256 ∧ isSha256 i.featureSha256 ∧
    isSha256 i.rankingSha256

instance (i : RcaRankingBatchCommitmentItem) : Decidable i.Valid :=
  inferInstanceAs (Decidable (_ ∧ _))

end RcaRankingBatchCommitmentItem

structure CommitmentContext where
  catalogId : String
  catalogVersion : String
  datasetId : String
  datasetVersion : String
  lockId : String
  artifactClosureCount : Int := rcaArtifactClosureCount
  artifactClosureSha256 : String
  rankingAlgorithm : String := rcaRankingAlgorithm
  externallyTimestamped : Bool := false
  deriving DecidableEq

structure RcaRankingBatchCommitment extends CommitmentContext where
  schemaVersion : String := rcaRankingBatchCommitmentSchema
  items : List RcaRankingBatchCommitmentItem
  commitmentSha256 : String
  deriving DecidableEq

namespace RcaRankingBatchCommitment

def bodyFields (c : RcaRankingBatchCommitment) : List (String × Json) :=
  [("schema_version", .str c.schemaVersion), ("catalog_id", .str c.catalogId),
   ("catalog_version", .str c.catalogVersion), ("dataset_id", .str c.datasetId),
   ("dataset_version", .str c.datasetVersion), ("lock_id", .str c.lockId),
   ("artifact_closure_count", .int c.artifactClosureCount),
   ("artifact_closure_sha256", .str c.artifactClosureSha256),
   ("ranking_algorithm", .str c.rankingAlgorithm),
   ("items", dumpList RcaRankingBatchCommitmentItem.dump c.items),
   ("externally_timestamped", .bool c.externallyTimestamped)]

def dump (c : RcaRankingBatchCommitment) : Json :=
  .obj (c.bodyFields ++ [("commitment_sha256", .str c.commitmentSha256)])

/-- The bytes that `commitment_sha256` covers. -/
def canonicalBodyBytes (h : Host) (c : RcaRankingBatchCommitment) : List Nat :=
  h.canonicalJson (.obj c.bodyFields)

def Valid (h : Host) (c : RcaRankingBatchCommitment) : Prop :=
  c.schemaVersion = rcaRankingBatchCommitmentSchema ∧ isIdentifier c.catalogId ∧
    isSemanticVersion c.catalogVersion ∧ isIdentifier c.datasetId ∧
    isIdentifier c.datasetVersion ∧ isHexId "lablock-" 64 c.lockId ∧
    c.artifactClosureCount = 16 ∧ isSha256 c.artifactClosureSha256 ∧
    c.rankingAlgorithm = rcaRankingAlgorithm ∧ c.items.length = rcaRankingBatchSize ∧
    (∀ i ∈ c.items, i.Valid) ∧ isSha256 c.commitmentSha256 ∧
    c.items.map (·.opaqueSlot) =
      (c.items.map (·.opaqueSlot)).dedup.insertionSort (fun a b => textLe a b) ∧
    c.externallyTimestamped = false ∧
    c.commitmentSha256 = (h.sha256 (c.canonicalBodyBytes h)).text

instance (h : Host) (c : RcaRankingBatchCommitment) : Decidable (c.Valid h) :=
  inferInstanceAs (Decidable (_ ∧ _))

end RcaRankingBatchCommitment

/-- The three mappings over the slots of a batch, each in its own order. -/
structure RankingBatch where
  caseKeySha256BySlot : List (String × String)
  featuresBySlot : List (String × RcaFeatureSet)
  sealedRankings : List (String × RcaRankingSeal)

/-- `_copied_mapping_items`: the items of a mapping in the order of their slots. -/
def copiedMappingItems {V : Type} (value : List (String × V)) :
    Except AdapterError (List (String × V)) := do
  Checks.require (value.length ≤ rcaRankingBatchSize) .limitExceeded
  Checks.require (value.length = rcaRankingBatchSize) .invalidInput
  Checks.require (∀ item ∈ value, isSlot item.1) .invalidInput
  Checks.require (value.map Prod.fst).Nodup .invalidInput
  return Json.sortFields value

def validatedFeature (h : Host) (value : RcaFeatureSet) : Except AdapterError RcaFeatureSet := do
  Checks.require (value.aggregates.length ≤ maxFeatureAggregates) .limitExceeded
  Checks.require (value.Valid h) .invalidInput
  return value

def validatedSeal (h : Host) (value : RcaRankingSeal) : Except AdapterError RcaRankingSeal := do
  Checks.require (value.ranking.candidates.length ≤ maxFeatureCandidates) .limitExceeded
  Checks.require ((value.ranking.candidates.map (·.evidenceIds.length)).sum ≤ maxFeatureAggregates)
    .limitExceeded
  Checks.require (value.Valid h) .invalidInput
  return value

structure BatchEntry where
  slot : String
  caseKeyDigest : String
  feature : RcaFeatureSet
  rankingSeal : RcaRankingSeal

def featureSha256 (h : Host) (feature : RcaFeatureSet) : String :=
  (h.sha256 (feature.canonicalBytes h)).text

/-- One slot of a batch: a valid feature set and the seal of a ranking computed from it. -/
def validatedEntry (h : Host) (slot caseKeyDigest : String) (feature : RcaFeatureSet)
    (sealed : RcaRankingSeal) : Except AdapterError BatchEntry := do
  let feature ← validatedFeature h feature
  let sealed ← validatedSeal h sealed
  Checks.require (sealed.featureSha256 = featureSha256 h feature) .invalidInput
  return ⟨slot, caseKeyDigest, feature, sealed⟩

def validatedBatch (h : Host) (b : RankingBatch) : Except AdapterError (List BatchEntry) := do
  let caseItems ← copiedMappingItems b.caseKeySha256BySlot
  let featureItems ← copiedMappingItems b.featuresBySlot
  let sealItems ← copiedMappingItems b.sealedRankings
  Checks.require (caseItems.map Prod.fst = featureItems.map Prod.fst ∧
    featureItems.map Prod.fst = sealItems.map Prod.fst) .invalidInput
  Checks.require (∀ item ∈ caseItems, isSha256 item.2) .invalidInput
  Checks.require ((caseItems.map Prod.snd).dedup.length = rcaRankingBatchSize) .invalidInput
  (caseItems.zip (featureItems.zip sealItems)).mapM fun item =>
    validatedEntry h item.1.1 item.1.2 item.2.1.2 item.2.2.2

/-- `_body`, as the commitment it becomes once its digest is known. -/
def body (h : Host) (context : CommitmentContext) (batch : List BatchEntry)
    (commitmentSha256 : String) : RcaRankingBatchCommitment where
  toCommitmentContext := context
  items := batch.map fun e =>
    { opaqueSlot := e.slot, caseKeySha256 := e.caseKeyDigest,
      featureSha256 := featureSha256 h e.feature, rankingSha256 := e.rankingSeal.rankingSha256 }
  commitmentSha256 := commitmentSha256

def createRankingBatchCommitment (h : Host) (context : CommitmentContext) (b : RankingBatch) :
    Except AdapterError RcaRankingBatchCommitment := do
  let batch ← validatedBatch h b
  let digest := (h.sha256 ((body h context batch "").canonicalBodyBytes h)).text
  let commitment := body h context batch digest
  Checks.require (commitment.Valid h) .invalidInput
  return commitment

def validatedCommitment (h : Host) (value : RcaRankingBatchCommitment) :
    Except AdapterError RcaRankingBatchCommitment := do
  Checks.require (value.items.length ≤ rcaRankingBatchSize) .limitExceeded
  Checks.require (value.items.length = rcaRankingBatchSize) .invalidInput
  Checks.require (value.Valid h) .invalidInput
  return value

def verifyRankingBatchCommitment (h : Host) (commitment : RcaRankingBatchCommitment)
    (b : RankingBatch) : Except AdapterError RcaRankingBatchCommitment := do
  let normalized ← validatedCommitment h commitment
  let expected ← createRankingBatchCommitment h normalized.toCommitmentContext b
  Checks.require (h.canonicalJson expected.dump = h.canonicalJson normalized.dump) .invalidInput
  return normalized

end NetworkAgent.Lab
