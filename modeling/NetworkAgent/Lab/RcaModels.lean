import Mathlib.Algebra.Group.Int.Defs
import NetworkAgent.Library.JsonText
import NetworkAgent.Lab.Wire

/-! The answer-blind contracts of a root-cause ranking: feature sets, rankings and the seal that
ties a ranking to the features it was computed from. -/
namespace NetworkAgent.Lab

def rcaFeatureSchema : String := "networkagent-rca-feature-set/1.0"
def rcaRankingSchema : String := "networkagent-rca-ranking/1.0"
def rcaRankingSealSchema : String := "networkagent-rca-ranking-seal/1.1"
def rcaRankingAlgorithm : String := "networkagent-multisource-shift-v1"

def maxFeatureAggregates : Nat := 4096
def maxFeatureCandidates : Nat := 64
def maxFeatureSerializedBytes : Nat := 4 * 1024 * 1024
def maxRankingSerializedBytes : Nat := 1024 * 1024
def maxTotalAbsolute : Int := 10 ^ 18
def maxSampleCount : Int := 10 ^ 9

inductive Modality where
  | metric | log | trace
  deriving DecidableEq

def Modality.value : Modality → String
  | .metric => "METRIC"
  | .log => "LOG"
  | .trace => "TRACE"

theorem Modality.value_injective : Function.Injective Modality.value := by
  intro a b same
  cases a <;> cases b <;> simp_all [Modality.value]

inductive RankingOutcome where
  | ranked | inconclusive
  deriving DecidableEq

def RankingOutcome.value : RankingOutcome → String
  | .ranked => "RANKED"
  | .inconclusive => "INCONCLUSIVE"

theorem RankingOutcome.value_injective : Function.Injective RankingOutcome.value := by
  intro a b same
  cases a <;> cases b <;> simp_all [RankingOutcome.value]

/-- Groups of lower-case letters and digits joined by hyphens; the first starts with a letter. -/
def isCandidateName (s : String) : Bool :=
  (s.toList.splitOn '-').all (fun part => !part.isEmpty && part.all isLowerOrDigit) &&
    s.toList.head?.any Char.isLower

def isCandidateId (s : String) : Bool := isCandidateName s && decide (s.length ≤ 64)

def isEvidenceId (s : String) : Bool := isHexId "rcaevidence-" 64 s

def isSha256 (s : String) : Bool := isHexId "" 64 s

/-- `assert_model_safe` passes. -/
def ModelSafe (h : Host) (dumped : Json) : Prop := findSensitivePaths h "$" dumped = []

instance (h : Host) (dumped : Json) : Decidable (ModelSafe h dumped) :=
  inferInstanceAs (Decidable (_ = _))

structure EvidenceAggregate where
  evidenceId : String
  candidateId : String
  modality : Modality
  baselineTotal : Int
  baselineCount : Int
  observedTotal : Int
  observedCount : Int
  deriving DecidableEq

namespace EvidenceAggregate

def dump (a : EvidenceAggregate) : Json := .obj
  [("evidence_id", .str a.evidenceId), ("candidate_id", .str a.candidateId),
   ("modality", .str a.modality.value), ("baseline_total", .int a.baselineTotal),
   ("baseline_count", .int a.baselineCount), ("observed_total", .int a.observedTotal),
   ("observed_count", .int a.observedCount)]

def Valid (h : Host) (a : EvidenceAggregate) : Prop :=
  isEvidenceId a.evidenceId ∧ isCandidateId a.candidateId ∧
    (-maxTotalAbsolute ≤ a.baselineTotal ∧ a.baselineTotal ≤ maxTotalAbsolute) ∧
    (1 ≤ a.baselineCount ∧ a.baselineCount ≤ maxSampleCount) ∧
    (-maxTotalAbsolute ≤ a.observedTotal ∧ a.observedTotal ≤ maxTotalAbsolute) ∧
    (1 ≤ a.observedCount ∧ a.observedCount ≤ maxSampleCount) ∧ ModelSafe h a.dump

instance (h : Host) (a : EvidenceAggregate) : Decidable (a.Valid h) :=
  inferInstanceAs (Decidable (_ ∧ _))

end EvidenceAggregate

structure RcaFeatureSet where
  schemaVersion : String := rcaFeatureSchema
  aggregates : List EvidenceAggregate := []
  deriving DecidableEq

namespace RcaFeatureSet

def dump (f : RcaFeatureSet) : Json := .obj
  [("schema_version", .str f.schemaVersion), ("aggregates", dumpList EvidenceAggregate.dump f.aggregates)]

def canonicalBytes (h : Host) (f : RcaFeatureSet) : List Nat := h.canonicalJson f.dump

/-- What the model accepts: every aggregate, evidence named once, a bounded number of
candidates and a bounded size. -/
def Valid (h : Host) (f : RcaFeatureSet) : Prop :=
  f.schemaVersion = rcaFeatureSchema ∧ f.aggregates.length ≤ maxFeatureAggregates ∧
    (∀ a ∈ f.aggregates, a.Valid h) ∧ ModelSafe h f.dump ∧
    (f.aggregates.map (·.evidenceId)).Nodup ∧
    (f.aggregates.map (·.candidateId)).dedup.length ≤ maxFeatureCandidates ∧
    (f.canonicalBytes h).length ≤ maxFeatureSerializedBytes

instance (h : Host) (f : RcaFeatureSet) : Decidable (f.Valid h) :=
  inferInstanceAs (Decidable (_ ∧ _))

end RcaFeatureSet

structure RcaRankedCandidate where
  candidateId : String
  rank : Int
  scoreNumerator : Int
  scoreDenominator : Int
  evidenceIds : List String
  deriving DecidableEq

namespace RcaRankedCandidate

def dump (c : RcaRankedCandidate) : Json := .obj
  [("candidate_id", .str c.candidateId), ("rank", .int c.rank),
   ("score_numerator", .int c.scoreNumerator), ("score_denominator", .int c.scoreDenominator),
   ("evidence_ids", dumpList .str c.evidenceIds)]

def score (c : RcaRankedCandidate) : ℚ := Rat.divInt c.scoreNumerator c.scoreDenominator

def Valid (h : Host) (c : RcaRankedCandidate) : Prop :=
  isCandidateId c.candidateId ∧ (1 ≤ c.rank ∧ c.rank ≤ maxFeatureCandidates) ∧
    (1 ≤ c.scoreNumerator ∧ c.scoreNumerator ≤ maxTotalAbsolute) ∧
    (1 ≤ c.scoreDenominator ∧ c.scoreDenominator ≤ maxTotalAbsolute) ∧
    (1 ≤ c.evidenceIds.length ∧ c.evidenceIds.length ≤ maxFeatureAggregates) ∧
    (∀ e ∈ c.evidenceIds, isEvidenceId e) ∧ ModelSafe h c.dump ∧
    Int.gcd c.scoreNumerator c.scoreDenominator = 1 ∧
    c.evidenceIds = c.evidenceIds.dedup.insertionSort fun a b => textLe a b

instance (h : Host) (c : RcaRankedCandidate) : Decidable (c.Valid h) :=
  inferInstanceAs (Decidable (_ ∧ _))

/-- A candidate may follow another: a lower score, or the same score and a later name. -/
def Follows (previous item : RcaRankedCandidate) : Prop :=
  ¬ (item.score > previous.score ∨
    (item.score = previous.score ∧ textLe item.candidateId previous.candidateId))

instance (previous item : RcaRankedCandidate) : Decidable (Follows previous item) :=
  inferInstanceAs (Decidable (¬ _))

end RcaRankedCandidate

structure RcaRanking where
  schemaVersion : String := rcaRankingSchema
  algorithm : String := rcaRankingAlgorithm
  outcome : RankingOutcome
  candidates : List RcaRankedCandidate := []
  deriving DecidableEq

namespace RcaRanking

def dump (r : RcaRanking) : Json := .obj
  [("schema_version", .str r.schemaVersion), ("algorithm", .str r.algorithm),
   ("outcome", .str r.outcome.value), ("candidates", dumpList RcaRankedCandidate.dump r.candidates)]

def canonicalBytes (h : Host) (r : RcaRanking) : List Nat := h.canonicalJson r.dump

/-- The positions count from one and every candidate may follow the one before it. -/
def Ordered : Int → Option RcaRankedCandidate → List RcaRankedCandidate → Prop
  | _, _, [] => True
  | expected, previous, item :: rest =>
    item.rank = expected ∧ (∀ p ∈ previous, p.Follows item) ∧ Ordered (expected + 1) (some item) rest

instance decideOrdered : ∀ (expected : Int) (previous : Option RcaRankedCandidate)
    (items : List RcaRankedCandidate), Decidable (Ordered expected previous items)
  | _, _, [] => isTrue trivial
  | expected, _, item :: rest =>
    have := decideOrdered (expected + 1) (some item) rest
    inferInstanceAs (Decidable (_ ∧ _ ∧ _))

def Valid (h : Host) (r : RcaRanking) : Prop :=
  r.schemaVersion = rcaRankingSchema ∧ r.algorithm = rcaRankingAlgorithm ∧
    r.candidates.length ≤ maxFeatureCandidates ∧ (∀ c ∈ r.candidates, c.Valid h) ∧
    ModelSafe h r.dump ∧ (r.outcome = .ranked ↔ r.candidates ≠ []) ∧
    (r.candidates.map (·.candidateId)).Nodup ∧ (r.candidates.flatMap (·.evidenceIds)).Nodup ∧
    Ordered 1 none r.candidates ∧ (r.canonicalBytes h).length ≤ maxRankingSerializedBytes

instance (h : Host) (r : RcaRanking) : Decidable (r.Valid h) :=
  inferInstanceAs (Decidable (_ ∧ _))

end RcaRanking

structure RcaRankingSeal where
  schemaVersion : String := rcaRankingSealSchema
  featureSha256 : String
  ranking : RcaRanking
  rankingSha256 : String
  deriving DecidableEq

namespace RcaRankingSeal

def dump (s : RcaRankingSeal) : Json := .obj
  [("schema_version", .str s.schemaVersion), ("feature_sha256", .str s.featureSha256),
   ("ranking", s.ranking.dump), ("ranking_sha256", .str s.rankingSha256)]

def Valid (h : Host) (s : RcaRankingSeal) : Prop :=
  s.schemaVersion = rcaRankingSealSchema ∧ isSha256 s.featureSha256 ∧ s.ranking.Valid h ∧
    isSha256 s.rankingSha256 ∧ ModelSafe h s.dump ∧
    s.rankingSha256 = (h.sha256 (s.ranking.canonicalBytes h)).text

instance (h : Host) (s : RcaRankingSeal) : Decidable (s.Valid h) :=
  inferInstanceAs (Decidable (_ ∧ _))

end RcaRankingSeal

/-! The dump of a record determines the record, whatever the order of its fields. -/

section
open Json

theorem fields_eq_of_canon_eq {xs ys : List (String × Json)}
    (same : canon (.obj xs) = canon (.obj ys)) (keys : xs.map Prod.fst = ys.map Prod.fst)
    (once : (xs.map Prod.fst).Nodup) : canonFields xs = canonFields ys := by
  have names : ∀ zs : List (String × Json), (canonFields zs).map Prod.fst = zs.map Prod.fst := by
    intro zs
    rw [canonFields_eq, List.map_map]
    rfl
  simp only [canon, Json.obj.injEq] at same
  exact eq_of_sortFields_eq (by rwa [names]) (by rw [names, names, keys]) same

theorem items_eq_of_canon_eq {α : Type} {dump : α → Json}
    (each : Function.Injective fun a => canon (dump a)) {xs ys : List α}
    (same : canon (dumpList dump xs) = canon (dumpList dump ys)) : xs = ys := by
  simp only [dumpList, canon, canonItems_eq, List.map_map, Json.arr.injEq] at same
  exact List.map_injective_iff.mpr each same

theorem canon_str_injective : Function.Injective fun s : String => canon (.str s) := by
  intro a b same
  simpa [canon] using same

theorem EvidenceAggregate.canon_dump_injective :
    Function.Injective fun a : EvidenceAggregate => canon a.dump := by
  intro a b same
  simp only [dump] at same
  have fields := fields_eq_of_canon_eq same rfl (by simp)
  simp only [canonFields, canon, List.cons.injEq, Prod.mk.injEq, true_and, and_true,
    Json.str.injEq, Json.int.injEq] at fields
  obtain ⟨evidence, candidate, modality, numbers⟩ := fields
  have kinds := Modality.value_injective modality
  cases a
  cases b
  simp_all

theorem RcaFeatureSet.canon_dump_injective :
    Function.Injective fun f : RcaFeatureSet => canon f.dump := by
  intro a b same
  simp only [dump] at same
  have fields := fields_eq_of_canon_eq same rfl (by simp)
  simp only [canonFields, List.cons.injEq, Prod.mk.injEq, true_and, and_true] at fields
  have version := canon_str_injective fields.1
  have aggregates := items_eq_of_canon_eq EvidenceAggregate.canon_dump_injective fields.2
  cases a
  cases b
  simp_all

theorem RcaRankedCandidate.canon_dump_injective :
    Function.Injective fun c : RcaRankedCandidate => canon c.dump := by
  intro a b same
  simp only [dump] at same
  have fields := fields_eq_of_canon_eq same rfl (by simp)
  simp only [canonFields, List.cons.injEq, Prod.mk.injEq, true_and, and_true] at fields
  obtain ⟨candidate, rank, numerator, denominator, evidence⟩ := fields
  have ids := items_eq_of_canon_eq canon_str_injective evidence
  simp only [canon, Json.str.injEq, Json.int.injEq] at candidate rank numerator denominator
  cases a
  cases b
  simp_all

theorem RcaRanking.canon_dump_injective :
    Function.Injective fun r : RcaRanking => canon r.dump := by
  intro a b same
  simp only [dump] at same
  have fields := fields_eq_of_canon_eq same rfl (by simp)
  simp only [canonFields, List.cons.injEq, Prod.mk.injEq, true_and, and_true] at fields
  obtain ⟨version, algorithm, outcome, candidates⟩ := fields
  have ranked := items_eq_of_canon_eq RcaRankedCandidate.canon_dump_injective candidates
  have kinds := RankingOutcome.value_injective (canon_str_injective outcome)
  simp only [canon, Json.str.injEq] at version algorithm
  cases a
  cases b
  simp_all

/-! None of these dumps holds a float. -/

theorem isExact_list {α : Type} {dump : α → Json} (each : ∀ a, isExact (dump a) = true)
    (xs : List α) : isExact (dumpList dump xs) = true := by
  simp [dumpList, isExact, isExactItems_iff, each]

theorem EvidenceAggregate.isExact_dump (a : EvidenceAggregate) : isExact a.dump = true := by
  simp [dump, isExact, isExactFields]

theorem RcaFeatureSet.isExact_dump (f : RcaFeatureSet) : isExact f.dump = true := by
  simp [dump, isExact, isExactFields, isExact_list EvidenceAggregate.isExact_dump]

theorem RcaRankedCandidate.isExact_dump (c : RcaRankedCandidate) : isExact c.dump = true := by
  have ids : isExact (dumpList .str c.evidenceIds) = true :=
    isExact_list (fun s : String => by simp [isExact]) c.evidenceIds
  simp [dump, isExact, isExactFields, ids]

theorem RcaRanking.isExact_dump (r : RcaRanking) : isExact r.dump = true := by
  simp [dump, isExact, isExactFields, isExact_list RcaRankedCandidate.isExact_dump]

theorem RcaFeatureSet.canonicalBytes_injective (h : Host) :
    Function.Injective (RcaFeatureSet.canonicalBytes h) := fun a b same =>
  canon_dump_injective (canon_eq_of_bytes_eq a.isExact_dump b.isExact_dump same)

theorem RcaRanking.canonicalBytes_injective (h : Host) :
    Function.Injective (RcaRanking.canonicalBytes h) := fun a b same =>
  canon_dump_injective (canon_eq_of_bytes_eq a.isExact_dump b.isExact_dump same)

end

end NetworkAgent.Lab
