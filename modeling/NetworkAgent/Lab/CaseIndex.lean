import Mathlib.Data.List.Dedup
import NetworkAgent.Lab.Binding

/-! The answers of the selected cases, opened only for the batch that a commitment binds. -/
namespace NetworkAgent.Lab

inductive ArrowType where
  | largeString | int64 | other
  deriving DecidableEq

/-- What the case index reads of the contract of a parquet artifact. -/
structure ParquetContract where
  expectedSchema : List (String × ArrowType)
  projectedColumns : List String

/-- One row of the projected columns; a value may be missing. -/
structure AnswerRow where
  case : Option String
  rootCauseService : Option String

structure CaseAnswer where
  opaqueSlot : String
  candidateId : String
  deriving DecidableEq

def answerColumns : List String := ["case", "root_cause_service"]

def requiredTypes : List (String × ArrowType) :=
  [("case", .largeString), ("inject_time", .int64), ("time_start", .int64), ("time_end", .int64),
   ("root_cause_service", .largeString)]

def requireProjection (contract : ParquetContract) (expected : List String) :
    Except AdapterError Unit := do
  Checks.require (contract.projectedColumns = expected) .unsafeField
  Checks.each (fun column => Checks.require
    (contract.expectedSchema.lookup column = requiredTypes.lookup column) .unsafeField) expected

def isCaseKey (s : String) : Bool := match s.toList with
  | [] => false
  | c :: rest =>
    c.isAlphanum && rest.all (fun d => d.isAlphanum || d == '_' || d == '-') &&
      decide (s.length ≤ 256)

def caseKeySha256 (h : Host) (value : Option String) : Except AdapterError String :=
  match value with
  | none => .error .invalidInput
  | some key => do
    Checks.require (isCaseKey key) .invalidInput
    return (h.sha256 (utf8 "networkagent-rcaeval-case-key-v1" ++ 0 :: utf8 key)).text

def normalizeCandidate (value : Option String) : Except AdapterError String :=
  match value with
  | none => .error .invalidInput
  | some name => do
    let candidate := if name = "frontendservice" then "frontend" else name
    Checks.require (candidate.length ≤ 64 ∧ isCandidateName candidate) .unsafeField
    return candidate

def caseAnswer (opaqueSlot candidateId : String) : Except AdapterError CaseAnswer := do
  Checks.require (isSlot opaqueSlot) .invalidInput
  let normalized ← normalizeCandidate (some candidateId)
  Checks.require (normalized = candidateId) .invalidInput
  return ⟨opaqueSlot, candidateId⟩

def selectedCaseDigests (value : List (String × String)) :
    Except AdapterError (List (String × String)) := do
  Checks.require (value.length ≤ rcaRankingBatchSize) .limitExceeded
  Checks.require (value.length = rcaRankingBatchSize) .invalidInput
  Checks.require (value.map Prod.fst).Nodup .invalidInput
  Checks.require (∀ item ∈ value, isSlot item.1) .invalidInput
  Checks.require (∀ item ∈ value, isSha256 item.2) .invalidInput
  Checks.require ((value.map Prod.snd).dedup.length = rcaRankingBatchSize) .invalidInput
  return Json.sortFields value

/-- One row of the artifact; a row of a case that is not selected is passed over. -/
def recordAnswer (h : Host) (selected : List (String × String)) (found : List (String × CaseAnswer))
    (row : AnswerRow) : Except AdapterError (List (String × CaseAnswer)) := do
  let digest ← caseKeySha256 h row.case
  match selected.find? (·.2 = digest) with
  | none => return found
  | some (slot, _) =>
    Checks.require (slot ∉ found.map Prod.fst) .invalidInput
    let candidate ← normalizeCandidate row.rootCauseService
    let answer ← caseAnswer slot candidate
    return found ++ [(slot, answer)]

/-- `load_case_answers`; `readParquetBatches` is what reading the stream gives. -/
def loadCaseAnswers (h : Host) (readParquetBatches : ParquetContract → Except AdapterError (List AnswerRow))
    (contract : ParquetContract) (commitment : RcaRankingBatchCommitment) (b : RankingBatch) :
    Except AdapterError (List CaseAnswer) := do
  let selected ← selectedCaseDigests b.caseKeySha256BySlot
  let normalized ← verifyRankingBatchCommitment h commitment { b with caseKeySha256BySlot := selected }
  let committed := normalized.items.map fun i => (i.opaqueSlot, i.caseKeySha256)
  Checks.require (committed = selected) .invalidInput
  requireProjection contract answerColumns
  let rows ← readParquetBatches contract
  let found ← rows.foldlM (recordAnswer h selected) []
  Checks.require (found.map Prod.fst ⊆ selected.map Prod.fst ∧
    selected.map Prod.fst ⊆ found.map Prod.fst) .invalidInput
  return selected.filterMap fun item => found.lookup item.1

theorem selectedCaseDigests_ok {value selected : List (String × String)}
    (ok : selectedCaseDigests value = .ok selected) : Json.sortFields value = selected := by
  simp only [selectedCaseDigests, Checks.seq_ok, pure, Except.pure, Except.ok.injEq] at ok
  exact ok.2.2.2.2.2.2

theorem verify_of_loadCaseAnswers {h : Host}
    {readParquetBatches : ParquetContract → Except AdapterError (List AnswerRow)}
    {contract : ParquetContract} {c : RcaRankingBatchCommitment} {b : RankingBatch}
    {answers : List CaseAnswer}
    (loaded : loadCaseAnswers h readParquetBatches contract c b = .ok answers) :
    ∃ d, verifyRankingBatchCommitment h c
      { b with caseKeySha256BySlot := Json.sortFields b.caseKeySha256BySlot } = .ok d := by
  simp only [loadCaseAnswers, Checks.bind_ok] at loaded
  obtain ⟨selected, chosen, normalized, verified, -⟩ := loaded
  rw [selectedCaseDigests_ok chosen]
  exact ⟨normalized, verified⟩

/-! A batch that commits: five slots with nothing measured, each ranking inconclusive. -/

theorem isHexId_append {start : String} {count : Nat} {cs : List Char} (size : cs.length = count)
    (hex : cs.all Sha256.isHexDigit = true) : isHexId start count (start ++ String.ofList cs) = true := by
  simp [isHexId, ← String.length_toList, size, hex]

theorem isSha256_digest (d : Sha256.Digest) : isSha256 d.text = true := by
  have size : d.text.toList.length = 64 := by rw [String.length_toList]; exact d.length
  simp [isSha256, isHexId, size, d.hex]

theorem isSha256_feature (h : Host) (f : RcaFeatureSet) : isSha256 (featureSha256 h f) = true :=
  isSha256_digest _

theorem canonicalBodyBytes_body (h : Host) (context : CommitmentContext) (batch : List BatchEntry)
    (d d' : String) : (body h context batch d).canonicalBodyBytes h =
      (body h context batch d').canonicalBodyBytes h := rfl

namespace Sample

def hexId (digit : Char) : List Char := List.replicate 63 '0' ++ [digit]

def digits : List Char := ['0', '1', '2', '3', '4']

def slot (digit : Char) : String := "rcaslot-" ++ String.ofList (hexId digit)

def ranking : RcaRanking where
  outcome := .inconclusive

def rankingSeal : RcaRankingSeal where
  featureSha256 := featureSha256 Host.ascii {}
  ranking := ranking
  rankingSha256 := (Host.ascii.sha256 (ranking.canonicalBytes Host.ascii)).text

def entry (digit : Char) : BatchEntry := ⟨slot digit, String.ofList (hexId digit), {}, rankingSeal⟩

def batch : RankingBatch where
  caseKeySha256BySlot := digits.map fun d => (slot d, String.ofList (hexId d))
  featuresBySlot := digits.map fun d => (slot d, {})
  sealedRankings := digits.map fun d => (slot d, rankingSeal)

def context : CommitmentContext where
  catalogId := "catalog"
  catalogVersion := "1.0.0"
  datasetId := "dataset"
  datasetVersion := "v1"
  lockId := "lablock-" ++ String.ofList (hexId '0')
  artifactClosureSha256 := String.ofList (hexId '0')

/-- What is evaluated on the sample. -/
class Computed : Prop where
  rankingSeal : rankingSeal.Valid Host.ascii
  sorted : digits.Pairwise fun a b => textLe (slot a) (slot b)
  empty : validatedFeature Host.ascii {} = .ok {}
  distinct : (batch.caseKeySha256BySlot.map Prod.snd).dedup.length = rcaRankingBatchSize
  named : isIdentifier "catalog" ∧ isSemanticVersion "1.0.0" ∧ isIdentifier "dataset" ∧
    isIdentifier "v1"

instance computed : Computed where
  rankingSeal := by decide +kernel
  sorted := by decide +kernel
  empty := by decide +kernel
  distinct := by decide +kernel
  named := by decide +kernel

theorem rankingSeal_valid : rankingSeal.Valid Host.ascii := computed.rankingSeal

theorem hexId_hex {d : Char} (member : d ∈ digits) : (hexId d).all Sha256.isHexDigit = true := by
  have every : digits.all (fun d => (hexId d).all Sha256.isHexDigit) = true := by decide
  exact List.all_eq_true.mp every d member

theorem hexId_length (d : Char) : (hexId d).length = 64 := by
  rw [hexId, List.length_append, List.length_replicate, List.length_singleton]

theorem slot_valid {d : Char} (member : d ∈ digits) : isSlot (slot d) = true :=
  isHexId_append (hexId_length d) (hexId_hex member)

theorem digest_valid {d : Char} (member : d ∈ digits) : isSha256 (String.ofList (hexId d)) = true := by
  have whole : isHexId "" 64 ("" ++ String.ofList (hexId d)) = true :=
    isHexId_append (hexId_length d) (hexId_hex member)
  rwa [String.empty_append] at whole

theorem slot_injective : Function.Injective slot := by
  intro a b same
  simpa [slot, hexId] using same

theorem slots_sorted : digits.Pairwise fun a b => textLe (slot a) (slot b) := computed.sorted

theorem copied {V : Type} (value : Char → V) :
    copiedMappingItems (digits.map fun d => (slot d, value d)) =
      .ok (digits.map fun d => (slot d, value d)) := by
  refine copiedMappingItems_ok.mpr ⟨⟨rfl, ?_, ?_⟩, ?_⟩
  · intro item member
    obtain ⟨d, known, rfl⟩ := List.mem_map.mp member
    exact slot_valid known
  · rw [List.map_map]
    exact List.Nodup.map slot_injective (by decide)
  · exact List.Pairwise.insertionSort_eq (List.pairwise_map.mpr slots_sorted)

theorem validatedEntry_entry (d : Char) :
    validatedEntry Host.ascii (slot d) (String.ofList (hexId d)) {} rankingSeal = .ok (entry d) := by
  have sealed : validatedSeal Host.ascii rankingSeal = .ok rankingSeal := by
    simp only [validatedSeal, Checks.seq_ok, Checks.require_ok]
    exact ⟨by decide, by decide, rankingSeal_valid, rfl⟩
  simp only [validatedEntry, Checks.bind_ok, Checks.require_ok]
  exact ⟨{}, computed.empty, rankingSeal, sealed, (), rfl, rfl⟩

theorem validated : validatedBatch Host.ascii batch = .ok (digits.map entry) := by
  simp only [validatedBatch, batch, copied, Checks.bind_ok, Checks.require_ok, Except.ok.injEq]
  refine ⟨_, rfl, _, rfl, _, rfl, (), by simp, (), ?_, (), ?_, ?_⟩
  · intro item member
    obtain ⟨d, known, rfl⟩ := List.mem_map.mp member
    exact digest_valid known
  · exact computed.distinct
  · rw [List.zip_map', List.zip_map', Checks.mapM_ok, List.forall₂_map_left_iff,
      List.forall₂_map_right_iff, List.forall₂_same]
    exact fun d _ => validatedEntry_entry d

def digest : String :=
  (Host.ascii.sha256 ((body Host.ascii context (digits.map entry) "").canonicalBodyBytes Host.ascii)).text

theorem digest_eq : digest =
    (Host.ascii.sha256 ((body Host.ascii context (digits.map entry) digest).canonicalBodyBytes
      Host.ascii)).text := by
  rw [canonicalBodyBytes_body _ _ _ digest "", digest]

theorem slots_eq : (body Host.ascii context (digits.map entry) digest).items.map (·.opaqueSlot) =
    digits.map slot := by
  rw [body, List.map_map, List.map_map]
  rfl

theorem commitment_valid : (body Host.ascii context (digits.map entry) digest).Valid Host.ascii := by
  have zero : '0' ∈ digits := by decide
  refine ⟨rfl, computed.named.1, computed.named.2.1, computed.named.2.2.1, computed.named.2.2.2,
    isHexId_append (hexId_length '0') (hexId_hex zero), rfl, digest_valid zero, rfl, rfl, ?_,
    isSha256_digest _, ?_, rfl, digest_eq⟩
  · intro i member
    simp only [body, List.map_map] at member
    obtain ⟨d, known, same⟩ := List.mem_map.mp member
    have hashed : isSha256 rankingSeal.rankingSha256 = true := rankingSeal_valid.2.2.2.1
    rw [← same]
    exact ⟨slot_valid known, digest_valid known, isSha256_feature _ _, hashed⟩
  · have once : (digits.map slot).Nodup := List.Nodup.map slot_injective (by decide)
    rw [slots_eq, List.dedup_eq_self.mpr once]
    exact (List.Pairwise.insertionSort_eq (List.pairwise_map.mpr slots_sorted)).symm

theorem created : createRankingBatchCommitment Host.ascii context batch =
    .ok (body Host.ascii context (digits.map entry) digest) := by
  simp only [createRankingBatchCommitment, validated, Checks.bind_ok, Checks.require_ok]
  exact ⟨_, rfl, (), commitment_valid, rfl⟩

end Sample

/-- A commitment accepts its batch in every order of the mappings, rejects every other batch,
and opens the answers for no other batch. -/
theorem commitment_binds_batch {h : Host} {context : CommitmentContext} {a : RankingBatch}
    {c : RcaRankingBatchCommitment} (created : createRankingBatchCommitment h context a = .ok c) :
    (∀ b, a.Reordered b → verifyRankingBatchCommitment h c b = .ok c) ∧
    (∀ b, RankingBatch.CollisionFree h a b → ¬ a.Reordered b →
      ∃ e, verifyRankingBatchCommitment h c b = .error e) ∧
    ∀ readParquetBatches contract b answers, RankingBatch.CollisionFree h a b →
      loadCaseAnswers h readParquetBatches contract c b = .ok answers → a.Reordered b := by
  refine ⟨fun b reordered => verify_reordered created reordered, fun b free other => ?_,
    fun readParquetBatches contract b answers free loaded => ?_⟩
  · cases verified : verifyRankingBatchCommitment h c b with
    | error e => exact ⟨e, rfl⟩
    | ok d => exact absurd (reordered_of_verify free created verified) other
  · obtain ⟨d, verified⟩ := verify_of_loadCaseAnswers loaded
    -- the digests of the cases are no part of what is hashed with the features and rankings
    obtain ⟨cases, features, seals⟩ := reordered_of_verify (b := { b with
      caseKeySha256BySlot := Json.sortFields b.caseKeySha256BySlot }) free created verified
    exact ⟨cases.trans (List.perm_insertionSort _ _), features, seals⟩

theorem commitment_binds_batch_sample :
    ∃ c, createRankingBatchCommitment Host.ascii Sample.context Sample.batch = .ok c ∧
      (∀ b, Sample.batch.Reordered b → verifyRankingBatchCommitment Host.ascii c b = .ok c) ∧
      (∀ b, RankingBatch.CollisionFree Host.ascii Sample.batch b → ¬ Sample.batch.Reordered b →
        ∃ e, verifyRankingBatchCommitment Host.ascii c b = .error e) ∧
      ∀ readParquetBatches contract b answers, RankingBatch.CollisionFree Host.ascii Sample.batch b →
        loadCaseAnswers Host.ascii readParquetBatches contract c b = .ok answers →
          Sample.batch.Reordered b :=
  ⟨_, Sample.created, commitment_binds_batch Sample.created⟩

end NetworkAgent.Lab
