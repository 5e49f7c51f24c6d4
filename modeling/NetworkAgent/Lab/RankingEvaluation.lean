import Mathlib.Tactic.Linarith
import NetworkAgent.Library.Budget
import NetworkAgent.Lab.Ranking

/-! The evaluation of sealed rankings against the private answers, slot by slot. -/
namespace NetworkAgent.Lab.RankingEvaluation
open Checks (require)

def maxEvaluationSeals : Nat := 10000
def maxEvidenceReferences : Nat := 100000

structure RcaTruth where
  candidateId : String
  validEvidenceIds : List String := []
  deriving DecidableEq

namespace RcaTruth

def dump (t : RcaTruth) : Json := .obj
  [("candidate_id", .str t.candidateId), ("valid_evidence_ids", dumpList .str t.validEvidenceIds)]

def Valid (h : Host) (t : RcaTruth) : Prop :=
  isCandidateId t.candidateId ∧ t.validEvidenceIds.length ≤ maxFeatureAggregates ∧
    (∀ e ∈ t.validEvidenceIds, isEvidenceId e) ∧ ModelSafe h t.dump ∧
    t.validEvidenceIds = t.validEvidenceIds.dedup.insertionSort fun a b => textLe a b

instance (h : Host) (t : RcaTruth) : Decidable (t.Valid h) :=
  inferInstanceAs (Decidable (_ ∧ _))

end RcaTruth

structure RcaEvaluationReport where
  sampleCount : Int
  rankedCount : Int
  inconclusiveCount : Int
  acAt1Ppm : Int
  acAt2Ppm : Int
  acAt3Ppm : Int
  acAt4Ppm : Int
  acAt5Ppm : Int
  avgAt5Ppm : Int
  mrrPpm : Int
  evidenceReferenceCount : Int
  validEvidenceReferenceCount : Int
  evidenceValidityPpm : Int
  deriving DecidableEq

namespace RcaEvaluationReport

def dump (r : RcaEvaluationReport) : Json := .obj
  [("schema_version", .str "networkagent-rca-evaluation/1.0"),
   ("ranking_algorithm", .str rcaRankingAlgorithm), ("sample_count", .int r.sampleCount),
   ("ranked_count", .int r.rankedCount), ("inconclusive_count", .int r.inconclusiveCount),
   ("ac_at_1_ppm", .int r.acAt1Ppm), ("ac_at_2_ppm", .int r.acAt2Ppm),
   ("ac_at_3_ppm", .int r.acAt3Ppm), ("ac_at_4_ppm", .int r.acAt4Ppm),
   ("ac_at_5_ppm", .int r.acAt5Ppm), ("avg_at_5_ppm", .int r.avgAt5Ppm),
   ("mrr_ppm", .int r.mrrPpm), ("evidence_reference_count", .int r.evidenceReferenceCount),
   ("valid_evidence_reference_count", .int r.validEvidenceReferenceCount),
   ("evidence_validity_ppm", .int r.evidenceValidityPpm)]

def accuracies (r : RcaEvaluationReport) : List Int :=
  [r.acAt1Ppm, r.acAt2Ppm, r.acAt3Ppm, r.acAt4Ppm, r.acAt5Ppm]

/-- What the model accepts: its ranges, and the checks of `_validate_report`. -/
def Valid (h : Host) (r : RcaEvaluationReport) : Prop :=
  (1 ≤ r.sampleCount ∧ r.sampleCount ≤ 10000) ∧ (0 ≤ r.rankedCount ∧ r.rankedCount ≤ 10000) ∧
    (0 ≤ r.inconclusiveCount ∧ r.inconclusiveCount ≤ 10000) ∧
    (∀ rate ∈ r.accuracies ++ [r.avgAt5Ppm, r.mrrPpm, r.evidenceValidityPpm],
      0 ≤ rate ∧ rate ≤ ppmScale) ∧
    (0 ≤ r.evidenceReferenceCount ∧ r.evidenceReferenceCount ≤ 100000) ∧
    (0 ≤ r.validEvidenceReferenceCount ∧ r.validEvidenceReferenceCount ≤ 100000) ∧
    ModelSafe h r.dump ∧ r.rankedCount + r.inconclusiveCount = r.sampleCount ∧
    r.accuracies = r.accuracies.insertionSort (· ≤ ·) ∧
    r.validEvidenceReferenceCount ≤ r.evidenceReferenceCount ∧
    (r.evidenceReferenceCount = 0 → r.evidenceValidityPpm = 0)

instance (h : Host) (r : RcaEvaluationReport) : Decidable (r.Valid h) :=
  inferInstanceAs (Decidable (_ ∧ _))

end RcaEvaluationReport

def ppm (value : ℚ) : Int :=
  if value ≤ 0 then 0
  else if value ≥ 1 then ppmScale
  else value.num * ppmScale / value.den

abbrev BySlot (V : Type) := List (String × V)

/-- `_copied_mapping_items`: the items in the order of their slots. -/
def copiedMappingItems {V : Type} (value : BySlot V) (requireNonempty : Bool) :
    Except EvaluationError (BySlot V) := do
  require (¬ (requireNonempty = true ∧ value.length < 1)) .invalidInput
  require (value.length ≤ maxEvaluationSeals) .limitExceeded
  require (value.map Prod.fst).Nodup .invalidInput
  require (∀ item ∈ value, isSlot item.1) .invalidInput
  return value.insertionSort fun a b => textLe a.1 b.1

def sealEvidenceCount (item : RcaRankingSeal) : Except EvaluationError Nat := do
  require (item.ranking.candidates.length ≤ maxFeatureCandidates) .limitExceeded
  Budget.total maxEvidenceReferences .limitExceeded
    (fun candidate : RcaRankedCandidate => do
      require (candidate.evidenceIds.length ≤ maxFeatureAggregates) .limitExceeded
      return candidate.evidenceIds.length) 0 item.ranking.candidates

def validatedSeals (h : Host) (value : BySlot RcaRankingSeal) :
    Except EvaluationError (BySlot RcaRankingSeal) := do
  let supplied ← copiedMappingItems value true
  let _ ← Budget.total maxEvidenceReferences .limitExceeded (fun item => sealEvidenceCount item.2) 0
    supplied
  Checks.each (fun item => require (item.2.Valid h) .invalidInput) supplied
  return supplied

def validatedTruths (h : Host) (value : BySlot RcaTruth) (slotIds : List String) :
    Except EvaluationError (BySlot RcaTruth) := do
  let supplied ← copiedMappingItems value false
  require (supplied.map Prod.fst = slotIds) .invalidInput
  let _ ← Budget.total maxEvidenceReferences .limitExceeded
    (fun item => do
      require (item.2.validEvidenceIds.length ≤ maxFeatureAggregates) .limitExceeded
      return item.2.validEvidenceIds.length) 0 supplied
  Checks.each (fun item => require (item.2.Valid h) .invalidInput) supplied
  return supplied

structure Tally where
  hitCounts : List Nat := [0, 0, 0, 0, 0]
  reciprocalSum : ℚ := 0
  rankedCount : Nat := 0
  evidenceReferenceCount : Nat := 0
  validEvidenceReferenceCount : Nat := 0

/-- One candidate of a ranking: the rank of the answer so far, and the references. -/
def countCandidate (truth : RcaTruth) (state : Option Int × Tally) (item : RcaRankedCandidate) :
    Except EvaluationError (Option Int × Tally) := do
  let answerRank := if item.candidateId = truth.candidateId then some item.rank else state.1
  let references := state.2.evidenceReferenceCount + item.evidenceIds.length
  require (references ≤ maxEvidenceReferences) .limitExceeded
  let found := item.evidenceIds.countP fun id => decide (id ∈ truth.validEvidenceIds)
  return (answerRank, { state.2 with
    evidenceReferenceCount := references
    validEvidenceReferenceCount := state.2.validEvidenceReferenceCount + found })

def recordAnswer (tally : Tally) : Option Int → Tally
  | none => tally
  | some rank => { tally with
      reciprocalSum := tally.reciprocalSum + 1 / (rank : ℚ)
      hitCounts := tally.hitCounts.mapIdx fun index count =>
        if rank - 1 ≤ index then count + 1 else count }

def scoreSlot (truths : BySlot RcaTruth) (tally : Tally) (slot : String × RcaRankingSeal) :
    Except EvaluationError Tally :=
  match truths.lookup slot.1 with
  | none => .error .invalidInput
  | some truth => do
    let ranking := slot.2.ranking
    let tally :=
      if ranking.outcome = .ranked then { tally with rankedCount := tally.rankedCount + 1 }
      else tally
    let (answerRank, tally) ← ranking.candidates.foldlM (countCandidate truth) (none, tally)
    return recordAnswer tally answerRank

def reportOf (sampleCount : Nat) (tally : Tally) : RcaEvaluationReport :=
  let accuracy := fun index => ((tally.hitCounts.getD index 0 : ℚ)) / sampleCount
  let averageAtFive := (accuracy 0 + accuracy 1 + accuracy 2 + accuracy 3 + accuracy 4) / 5
  let evidenceValidity : ℚ :=
    if tally.evidenceReferenceCount = 0 then 0
    else tally.validEvidenceReferenceCount / tally.evidenceReferenceCount
  { sampleCount := sampleCount
    rankedCount := tally.rankedCount
    inconclusiveCount := sampleCount - tally.rankedCount
    acAt1Ppm := ppm (accuracy 0)
    acAt2Ppm := ppm (accuracy 1)
    acAt3Ppm := ppm (accuracy 2)
    acAt4Ppm := ppm (accuracy 3)
    acAt5Ppm := ppm (accuracy 4)
    avgAt5Ppm := ppm averageAtFive
    mrrPpm := ppm (tally.reciprocalSum / sampleCount)
    evidenceReferenceCount := tally.evidenceReferenceCount
    validEvidenceReferenceCount := tally.validEvidenceReferenceCount
    evidenceValidityPpm := ppm evidenceValidity }

def evaluateRcaRankings (h : Host) (sealsBySlot : BySlot RcaRankingSeal)
    (truthBySlot : BySlot RcaTruth) : Except EvaluationError RcaEvaluationReport := do
  let normalizedSeals ← validatedSeals h sealsBySlot
  let truths ← validatedTruths h truthBySlot (normalizedSeals.map Prod.fst)
  let tally ← normalizedSeals.foldlM (scoreSlot truths) {}
  let report := reportOf normalizedSeals.length tally
  require (report.Valid h) .invalidInput
  return report

/-! What the report is meant to say. -/

abbrev Graded := List (RcaRanking × RcaTruth)

def graded (sealed : BySlot RcaRankingSeal) (truths : BySlot RcaTruth) : Graded :=
  sealed.filterMap fun slot => (truths.lookup slot.1).map fun truth => (slot.2.ranking, truth)

def answerRank (g : RcaRanking × RcaTruth) : Option Int :=
  (g.1.candidates.find? fun c => decide (c.candidateId = g.2.candidateId)).map (·.rank)

def HitsWithin (k : Nat) (g : RcaRanking × RcaTruth) : Prop := ∃ rank ∈ answerRank g, rank ≤ k

instance (k : Nat) : DecidablePred (HitsWithin k) := fun g =>
  inferInstanceAs (Decidable (∃ rank ∈ answerRank g, rank ≤ k))

def reciprocal (g : RcaRanking × RcaTruth) : ℚ := (answerRank g).elim 0 fun rank => 1 / (rank : ℚ)

def references (g : RcaRanking × RcaTruth) : Nat :=
  (g.1.candidates.map fun c => c.evidenceIds.length).sum

def validReferences (g : RcaRanking × RcaTruth) : Nat :=
  (g.1.candidates.map fun c => c.evidenceIds.countP fun id => decide (id ∈ g.2.validEvidenceIds)).sum

namespace Graded

def hits (gs : Graded) (k : Nat) : Nat := gs.countP fun g => decide (HitsWithin k g)

/-- The share of the slots whose answer is among the first `k`. -/
def accuracyAt (gs : Graded) (k : Nat) : ℚ := (gs.hits k : ℚ) / gs.length

def averageAtFive (gs : Graded) : ℚ := ([1, 2, 3, 4, 5].map gs.accuracyAt).sum / 5

def meanReciprocalRank (gs : Graded) : ℚ := (gs.map reciprocal).sum / gs.length

def evidenceValidity (gs : Graded) : ℚ :=
  ((gs.map validReferences).sum : ℚ) / ((gs.map references).sum : ℚ)

end Graded

def inMillionths (rate : ℚ) : Int := ⌊rate * 1000000⌋

structure Reports (r : RcaEvaluationReport) (gs : Graded) : Prop where
  samples : r.sampleCount = gs.length
  ranked : r.rankedCount = gs.countP fun g => decide (g.1.outcome = .ranked)
  inconclusive : r.inconclusiveCount = gs.countP fun g => decide (g.1.outcome = .inconclusive)
  accuracies : r.accuracies = [1, 2, 3, 4, 5].map fun k => inMillionths (gs.accuracyAt k)
  average : r.avgAt5Ppm = inMillionths gs.averageAtFive
  reciprocal : r.mrrPpm = inMillionths gs.meanReciprocalRank
  references : r.evidenceReferenceCount = (gs.map references).sum
  validReferences : r.validEvidenceReferenceCount = (gs.map validReferences).sum
  validity : r.evidenceValidityPpm = inMillionths gs.evidenceValidity

/-! The counters. -/

def tallyOf (gs : Graded) : Tally where
  hitCounts := [gs.hits 1, gs.hits 2, gs.hits 3, gs.hits 4, gs.hits 5]
  reciprocalSum := (gs.map reciprocal).sum
  rankedCount := gs.countP fun g => decide (g.1.outcome = .ranked)
  evidenceReferenceCount := (gs.map references).sum
  validEvidenceReferenceCount := (gs.map validReferences).sum

theorem foldlM_countCandidate {truth : RcaTruth} {candidates : List RcaRankedCandidate}
    {rank : Option Int} {tally : Tally}
    (within : tally.evidenceReferenceCount + (candidates.map fun c => c.evidenceIds.length).sum ≤
      maxEvidenceReferences) :
    candidates.foldlM (countCandidate truth) (rank, tally) = .ok
      (candidates.foldl (fun rank c => if c.candidateId = truth.candidateId then some c.rank else rank)
        rank,
      { tally with
        evidenceReferenceCount :=
          tally.evidenceReferenceCount + (candidates.map fun c => c.evidenceIds.length).sum
        validEvidenceReferenceCount := tally.validEvidenceReferenceCount +
          (candidates.map fun c =>
            c.evidenceIds.countP fun id => decide (id ∈ truth.validEvidenceIds)).sum }) := by
  induction candidates generalizing rank tally with
  | nil => rfl
  | cons c rest ih =>
    rw [List.map_cons, List.sum_cons] at within
    have step : countCandidate truth (rank, tally) c = .ok
        (if c.candidateId = truth.candidateId then some c.rank else rank,
        { tally with
          evidenceReferenceCount := tally.evidenceReferenceCount + c.evidenceIds.length
          validEvidenceReferenceCount := tally.validEvidenceReferenceCount +
            c.evidenceIds.countP fun id => decide (id ∈ truth.validEvidenceIds) }) := by
      unfold countCandidate
      rw [Checks.seq_ok]
      exact ⟨Checks.require_ok.mpr (by dsimp only; omega), rfl⟩
    rw [List.foldlM_cons, step]
    refine (ih (by dsimp only; omega)).trans ?_
    simp only [List.foldl_cons, List.map_cons, List.sum_cons, Nat.add_assoc]

theorem foldl_rank {name : String} {candidates : List RcaRankedCandidate}
    (distinct : (candidates.map (·.candidateId)).Nodup) (rank : Option Int) :
    candidates.foldl (fun rank c => if c.candidateId = name then some c.rank else rank) rank =
      ((candidates.find? fun c => decide (c.candidateId = name)).map (·.rank)).or rank := by
  induction candidates generalizing rank with
  | nil => rfl
  | cons c rest ih =>
    obtain ⟨fresh, distinct⟩ := List.nodup_cons.mp distinct
    rw [List.foldl_cons, ih distinct, List.find?_cons]
    by_cases here : c.candidateId = name
    · have none : rest.find? (fun c => decide (c.candidateId = name)) = none := by
        refine List.find?_eq_none.mpr fun d member => ?_
        rw [decide_eq_true_eq]
        intro same
        exact fresh (List.mem_map.mpr ⟨d, member, same.trans here.symm⟩)
      simp [here, none]
    · simp [here]

theorem hits_append (gs : Graded) (g : RcaRanking × RcaTruth) (k : Nat) :
    Graded.hits (gs ++ [g]) k = gs.hits k + if HitsWithin k g then 1 else 0 := by
  simp [Graded.hits, List.countP_append, List.countP_cons]

theorem hitsWithin_some {g : RcaRanking × RcaTruth} {rank : Int} (found : answerRank g = some rank)
    (k : Nat) : HitsWithin k g ↔ rank ≤ k := by
  simp [HitsWithin, found]

theorem recordAnswer_tally (gs : Graded) (g : RcaRanking × RcaTruth) {ranked refs valid : Nat} :
    recordAnswer { tallyOf gs with
        rankedCount := ranked
        evidenceReferenceCount := refs
        validEvidenceReferenceCount := valid } (answerRank g) =
      { tallyOf (gs ++ [g]) with
        rankedCount := ranked
        evidenceReferenceCount := refs
        validEvidenceReferenceCount := valid } := by
  cases found : answerRank g with
  | none =>
    have never : ∀ k, ¬ HitsWithin k g := by simp [HitsWithin, found]
    simp [recordAnswer, tallyOf, hits_append, never, reciprocal, found]
  | some rank =>
    have each : ∀ index count : Nat, (if rank - 1 ≤ (index : Int) then count + 1 else count) =
        count + if HitsWithin (index + 1) g then 1 else 0 := by
      intro index count
      have same : rank - 1 ≤ (index : Int) ↔ HitsWithin (index + 1) g := by
        rw [hitsWithin_some found]
        omega
      by_cases hit : HitsWithin (index + 1) g
      · rw [if_pos (same.mpr hit), if_pos hit]
      · rw [if_neg (mt same.mp hit), if_neg hit, Nat.add_zero]
    simp only [recordAnswer, each, tallyOf, hits_append, List.map_append, List.sum_append,
      List.map_cons, List.map_nil, List.sum_cons, List.sum_nil, add_zero, reciprocal, found,
      Option.elim_some]
    rfl

theorem scoreSlot_tally {truths : BySlot RcaTruth} {done : Graded} {slot : String × RcaRankingSeal}
    {truth : RcaTruth} (answer : truths.lookup slot.1 = some truth)
    (distinct : (slot.2.ranking.candidates.map (·.candidateId)).Nodup)
    (within : ((done ++ [(slot.2.ranking, truth)]).map references).sum ≤ maxEvidenceReferences) :
    scoreSlot truths (tallyOf done) slot = .ok (tallyOf (done ++ [(slot.2.ranking, truth)])) := by
  have counted : (if slot.2.ranking.outcome = .ranked then
      { tallyOf done with rankedCount := (tallyOf done).rankedCount + 1 } else tallyOf done) =
      { tallyOf done with
        rankedCount := (tallyOf (done ++ [(slot.2.ranking, truth)])).rankedCount } := by
    split <;> rename_i outcome <;>
      simp [tallyOf, List.countP_append, outcome]
  have spent : (tallyOf done).evidenceReferenceCount +
      (slot.2.ranking.candidates.map fun c => c.evidenceIds.length).sum ≤ maxEvidenceReferences := by
    simpa [tallyOf, references] using within
  have walk := @foldlM_countCandidate truth _ none { tallyOf done with
      rankedCount := (tallyOf (done ++ [(slot.2.ranking, truth)])).rankedCount } spent
  rw [foldl_rank distinct, Option.or_none] at walk
  unfold scoreSlot
  rw [answer]
  dsimp only
  rw [counted, walk]
  refine congrArg Except.ok ((recordAnswer_tally done (slot.2.ranking, truth)).trans ?_)
  simp [tallyOf, references, validReferences]

theorem foldlM_scoreSlot {truths : BySlot RcaTruth} {slots : BySlot RcaRankingSeal} {done : Graded}
    (known : ∀ slot ∈ slots, ∃ truth, truths.lookup slot.1 = some truth)
    (distinct : ∀ slot ∈ slots, (slot.2.ranking.candidates.map (·.candidateId)).Nodup)
    (within : ((done ++ graded slots truths).map references).sum ≤ maxEvidenceReferences) :
    slots.foldlM (scoreSlot truths) (tallyOf done) = .ok (tallyOf (done ++ graded slots truths)) := by
  induction slots generalizing done with
  | nil => simp [graded, pure, Except.pure]
  | cons slot rest ih =>
    obtain ⟨truth, answer⟩ := known slot List.mem_cons_self
    have split : done ++ graded (slot :: rest) truths =
        (done ++ [(slot.2.ranking, truth)]) ++ graded rest truths := by
      simp [graded, answer]
    rw [split] at within ⊢
    have spent : ((done ++ [(slot.2.ranking, truth)]).map references).sum ≤
        maxEvidenceReferences := by
      rw [List.map_append, List.sum_append] at within
      omega
    have step : scoreSlot truths (tallyOf done) slot =
        .ok (tallyOf (done ++ [(slot.2.ranking, truth)])) :=
      scoreSlot_tally answer (distinct slot List.mem_cons_self) spent
    rw [List.foldlM_cons, step]
    exact ih (fun s member => known s (List.mem_cons_of_mem _ member))
      (fun s member => distinct s (List.mem_cons_of_mem _ member)) within

/-! The rates. -/

theorem ppm_eq {rate : ℚ} (low : 0 ≤ rate) (high : rate ≤ 1) : ppm rate = inMillionths rate := by
  unfold ppm inMillionths
  split
  · rename_i none
    rw [le_antisymm none low, zero_mul, Int.floor_zero]
  · split
    · rename_i all
      rw [le_antisymm high all, one_mul]
      rfl
    · have scaled : rate * 1000000 = ((rate.num * ppmScale : Int) : ℚ) / (rate.den : ℚ) := by
        conv_lhs => rw [← Rat.num_div_den rate]
        rw [Int.cast_mul, div_mul_eq_mul_div]
        rfl
      rw [scaled, Rat.floor_intCast_div_natCast]

theorem inMillionths_mono {a b : ℚ} (le : a ≤ b) : inMillionths a ≤ inMillionths b :=
  Int.floor_mono (mul_le_mul_of_nonneg_right le (by norm_num))

theorem ppm_bounds (rate : ℚ) : 0 ≤ ppm rate ∧ ppm rate ≤ ppmScale := by
  rcases lt_or_ge rate 0 with low | low
  · simp [ppm, low.le, ppmScale]
  · rcases le_or_gt rate 1 with high | high
    · rw [ppm_eq low high]
      exact ⟨Int.floor_nonneg.mpr (by positivity), by
        have le := inMillionths_mono high
        simpa [inMillionths, ppmScale] using le⟩
    · have positive : ¬ rate ≤ 0 := by linarith
      simp [ppm, positive, high.le, ppmScale]

section
variable {gs : Graded}

theorem hits_le_length (k : Nat) : gs.hits k ≤ gs.length := List.countP_le_length

theorem hits_mono {k l : Nat} (le : k ≤ l) : gs.hits k ≤ gs.hits l := by
  apply List.countP_mono_left
  intro g _ hit
  obtain ⟨rank, found, near⟩ := of_decide_eq_true hit
  exact decide_eq_true ⟨rank, found, by omega⟩

theorem share_bounds {part whole : ℚ} (low : 0 ≤ part) (high : part ≤ whole) :
    0 ≤ part / whole ∧ part / whole ≤ 1 :=
  ⟨div_nonneg low (low.trans high), div_le_one_of_le₀ high (low.trans high)⟩

theorem accuracyAt_bounds (gs : Graded) (k : Nat) : 0 ≤ gs.accuracyAt k ∧ gs.accuracyAt k ≤ 1 :=
  share_bounds (Nat.cast_nonneg _) (Nat.cast_le.mpr (hits_le_length k))

theorem accuracyAt_mono {k l : Nat} (le : k ≤ l) : gs.accuracyAt k ≤ gs.accuracyAt l :=
  div_le_div_of_nonneg_right (Nat.cast_le.mpr (hits_mono le)) (Nat.cast_nonneg _)

theorem averageAtFive_bounds (gs : Graded) :
    gs.accuracyAt 1 ≤ gs.averageAtFive ∧ gs.averageAtFive ≤ gs.accuracyAt 5 := by
  have two : gs.accuracyAt 1 ≤ gs.accuracyAt 2 := accuracyAt_mono (by decide)
  have three : gs.accuracyAt 2 ≤ gs.accuracyAt 3 := accuracyAt_mono (by decide)
  have four : gs.accuracyAt 3 ≤ gs.accuracyAt 4 := accuracyAt_mono (by decide)
  have five : gs.accuracyAt 4 ≤ gs.accuracyAt 5 := accuracyAt_mono (by decide)
  simp only [Graded.averageAtFive, List.map_cons, List.map_nil, List.sum_cons, List.sum_nil]
  constructor <;> linarith

def Ranked (gs : Graded) : Prop := ∀ g ∈ gs, ∀ rank ∈ answerRank g, 1 ≤ rank

theorem reciprocal_bounds {g : RcaRanking × RcaTruth} (ranked : ∀ rank ∈ answerRank g, 1 ≤ rank) :
    (if HitsWithin 1 g then (1 : ℚ) else 0) ≤ reciprocal g ∧ reciprocal g ≤ 1 := by
  unfold reciprocal
  cases found : answerRank g with
  | none => simp [HitsWithin, found]
  | some rank =>
    have positive : (1 : ℚ) ≤ rank := by exact_mod_cast ranked rank found
    refine ⟨?_, div_le_one_of_le₀ positive (zero_le_one.trans positive)⟩
    split
    · rename_i first
      have same : rank = 1 :=
        le_antisymm ((hitsWithin_some found 1).mp first) (ranked rank found)
      simp [same]
    · exact div_nonneg zero_le_one (zero_le_one.trans positive)

theorem hits_eq_sum (gs : Graded) (k : Nat) :
    (gs.hits k : ℚ) = (gs.map fun g => if HitsWithin k g then (1 : ℚ) else 0).sum := by
  induction gs with
  | nil => rfl
  | cons g rest ih =>
    rw [List.map_cons, List.sum_cons, ← ih, Graded.hits, List.countP_cons, add_comm]
    split <;> simp_all [Graded.hits]

theorem meanReciprocalRank_bounds (ranked : Ranked gs) :
    gs.accuracyAt 1 ≤ gs.meanReciprocalRank ∧ gs.meanReciprocalRank ≤ 1 := by
  have low : (gs.hits 1 : ℚ) ≤ (gs.map reciprocal).sum := by
    rw [hits_eq_sum]
    exact List.sum_le_sum fun g member => (reciprocal_bounds (ranked g member)).1
  have high : (gs.map reciprocal).sum ≤ gs.length := by
    have each := List.sum_le_card_nsmul (gs.map reciprocal) 1 fun x member => by
      obtain ⟨g, inside, rfl⟩ := List.mem_map.mp member
      exact (reciprocal_bounds (ranked g inside)).2
    simpa using each
  exact ⟨div_le_div_of_nonneg_right low (Nat.cast_nonneg _),
    (share_bounds ((Nat.cast_nonneg _).trans low) high).2⟩

theorem validReferences_le (gs : Graded) : (gs.map validReferences).sum ≤ (gs.map references).sum :=
  List.sum_le_sum fun _ _ => List.sum_le_sum fun _ _ => List.countP_le_length

theorem evidenceValidity_bounds (gs : Graded) :
    0 ≤ gs.evidenceValidity ∧ gs.evidenceValidity ≤ 1 :=
  share_bounds (Nat.cast_nonneg _) (Nat.cast_le.mpr (validReferences_le gs))

theorem ranked_or_inconclusive (gs : Graded) :
    gs.countP (fun g => decide (g.1.outcome = .ranked)) +
      gs.countP (fun g => decide (g.1.outcome = .inconclusive)) = gs.length := by
  induction gs with
  | nil => rfl
  | cons g rest ih =>
    rw [List.countP_cons, List.countP_cons, List.length_cons]
    cases g.1.outcome <;> simp <;> omega

theorem reportOf_reports (ranked : Ranked gs) : Reports (reportOf gs.length (tallyOf gs)) gs := by
  have first := (accuracyAt_bounds gs 1).1
  have mean := meanReciprocalRank_bounds ranked
  have average := averageAtFive_bounds gs
  refine ⟨rfl, rfl, ?_, ?_, ?_, ?_, rfl, rfl, ?_⟩
  · have counted := ranked_or_inconclusive gs
    simp only [reportOf, tallyOf]
    omega
  · simp only [List.map_cons, List.map_nil, ← ppm_eq (accuracyAt_bounds gs _).1
      (accuracyAt_bounds gs _).2]
    rfl
  · rw [← ppm_eq (first.trans average.1) (average.2.trans (accuracyAt_bounds gs 5).2)]
    refine congrArg (fun total : ℚ => ppm (total / 5)) ?_
    simp only [List.map_cons, List.map_nil, List.sum_cons, List.sum_nil, add_zero, ← add_assoc]
    rfl
  · rw [← ppm_eq (first.trans mean.1) mean.2]
    rfl
  · rw [← ppm_eq (evidenceValidity_bounds gs).1 (evidenceValidity_bounds gs).2]
    simp only [reportOf]
    split
    · rename_i none
      have zero : (gs.map references).sum = 0 := none
      rw [Graded.evidenceValidity, zero, Nat.cast_zero, div_zero]
    · rfl

theorem accuracies_sorted (gs : Graded) :
    ([1, 2, 3, 4, 5].map fun k => inMillionths (gs.accuracyAt k)).Pairwise (· ≤ ·) := by
  refine List.pairwise_map.mpr ?_
  have indices : [1, 2, 3, 4, 5].Pairwise (· ≤ ·) := by decide
  exact indices.imp fun le => inMillionths_mono (accuracyAt_mono le)

theorem reportOf_valid (h : Host) (nonempty : gs ≠ []) (few : gs.length ≤ maxEvaluationSeals)
    (ranked : Ranked gs) (within : (gs.map references).sum ≤ maxEvidenceReferences) :
    (reportOf gs.length (tallyOf gs)).Valid h := by
  have reports := reportOf_reports ranked
  have counted := ranked_or_inconclusive gs
  have valid := validReferences_le gs
  have positive := List.length_pos_iff.mpr nonempty
  unfold maxEvaluationSeals at few
  unfold maxEvidenceReferences at within
  refine ⟨?_, ?_, ?_, ?_, ?_, ?_, ?_, ?_, ?_, ?_, ?_⟩
  · rw [reports.samples]
    omega
  · rw [reports.ranked]
    omega
  · rw [reports.inconclusive]
    omega
  · simp only [RcaEvaluationReport.accuracies, List.cons_append, List.nil_append,
      List.forall_mem_cons, List.not_mem_nil, false_imp_iff, implies_true, and_true]
    exact ⟨ppm_bounds _, ppm_bounds _, ppm_bounds _, ppm_bounds _, ppm_bounds _, ppm_bounds _,
      ppm_bounds _, ppm_bounds _⟩
  · rw [reports.references]
    omega
  · rw [reports.validReferences]
    omega
  · refine modelSafe_obj ?_
    simp only [List.forall_mem_cons, List.not_mem_nil, false_imp_iff, implies_true, and_true,
      modelSafe_int]
    exact ⟨⟨by decide, modelSafe_const (by decide)⟩, ⟨by decide, modelSafe_const (by decide)⟩,
      by decide⟩
  · rw [reports.ranked, reports.inconclusive, reports.samples]
    omega
  · rw [reports.accuracies]
    exact (List.Pairwise.insertionSort_eq (accuracies_sorted gs)).symm
  · rw [reports.references, reports.validReferences]
    omega
  · intro none
    rw [reports.references] at none
    have zero : (gs.map references).sum = 0 := by omega
    rw [reports.validity, Graded.evidenceValidity, zero, Nat.cast_zero, div_zero, inMillionths,
      zero_mul, Int.floor_zero]

structure Consistent (r : RcaEvaluationReport) : Prop where
  nondecreasing : r.accuracies.Pairwise (· ≤ ·)
  reciprocal : r.acAt1Ppm ≤ r.mrrPpm
  average : r.acAt1Ppm ≤ r.avgAt5Ppm ∧ r.avgAt5Ppm ≤ r.acAt5Ppm

theorem Reports.consistent {r : RcaEvaluationReport} (reports : Reports r gs) (ranked : Ranked gs) :
    Consistent r := by
  have accuracies := reports.accuracies
  simp only [RcaEvaluationReport.accuracies, List.map_cons, List.map_nil, List.cons.injEq,
    and_true] at accuracies
  obtain ⟨first, -, -, -, fifth⟩ := accuracies
  refine ⟨reports.accuracies ▸ accuracies_sorted gs, ?_, ?_, ?_⟩
  · rw [first, reports.reciprocal]
    exact inMillionths_mono (meanReciprocalRank_bounds ranked).1
  · rw [first, reports.average]
    exact inMillionths_mono (averageAtFive_bounds gs).1
  · rw [fifth, reports.average]
    exact inMillionths_mono (averageAtFive_bounds gs).2

end

/-! Mappings. -/

section
variable {V : Type}

/-- `copiedMappingItems` of a mapping. -/
def bySlot (value : BySlot V) : BySlot V := value.insertionSort fun a b => textLe a.1 b.1

theorem bySlot_perm (value : BySlot V) : (bySlot value).Perm value := List.perm_insertionSort _ _

theorem bySlot_of_perm {xs ys : BySlot V} (distinct : (xs.map Prod.fst).Nodup) (perm : xs.Perm ys) :
    bySlot xs = bySlot ys := Sorting.sorted_by_of_perm Prod.fst distinct perm

theorem lookup_iff {xs : BySlot V} (distinct : (xs.map Prod.fst).Nodup) {slot : String} {v : V} :
    xs.lookup slot = some v ↔ (slot, v) ∈ xs := by
  induction xs with
  | nil => simp
  | cons x rest ih =>
    obtain ⟨fresh, distinct⟩ := List.nodup_cons.mp distinct
    rw [Grouping.lookup_pair, List.mem_cons]
    split
    · rename_i here
      subst here
      have absent : (x.1, v) ∉ rest := fun member =>
        fresh (List.mem_map.mpr ⟨(x.1, v), member, rfl⟩)
      simp only [Option.some.injEq, absent, or_false]
      exact ⟨fun same => by rw [← same], fun same => by rw [← same]⟩
    · rename_i other
      rw [ih distinct]
      exact ⟨.inr, fun either => either.resolve_left fun same => other (by rw [← same])⟩

theorem lookup_of_perm {xs ys : BySlot V} (distinct : (xs.map Prod.fst).Nodup) (perm : xs.Perm ys)
    (slot : String) : xs.lookup slot = ys.lookup slot := by
  apply Option.ext
  intro v
  rw [lookup_iff distinct, lookup_iff ((perm.map _).nodup_iff.mp distinct), perm.mem_iff]

theorem slots_eq {W : Type} {xs : BySlot V} {ys : BySlot W} (distinct : (xs.map Prod.fst).Nodup)
    (distinct' : (ys.map Prod.fst).Nodup)
    (same : ∀ slot, slot ∈ ys.map Prod.fst ↔ slot ∈ xs.map Prod.fst) :
    (bySlot ys).map Prod.fst = (bySlot xs).map Prod.fst := by
  have sorted : ∀ {U : Type} (zs : BySlot U), ((bySlot zs).map Prod.fst).Pairwise fun a b =>
      textLe a b = true := fun zs =>
    List.pairwise_map.mpr (Sorting.pairwise_sorted_by Prod.fst zs)
  have perm : ((bySlot ys).map Prod.fst).Perm ((bySlot xs).map Prod.fst) :=
    (((bySlot_perm ys).map _).trans ((List.perm_ext_iff_of_nodup distinct' distinct).mpr same)).trans
      ((bySlot_perm xs).map _).symm
  exact perm.eq_of_pairwise (fun a b _ _ => textLe_antisymm) (sorted ys) (sorted xs)

theorem copiedMappingItems_ok {value : BySlot V} {required : Bool}
    (nonempty : required = true → value ≠ []) (few : value.length ≤ maxEvaluationSeals)
    (distinct : (value.map Prod.fst).Nodup) (slots : ∀ item ∈ value, isSlot item.1 = true) :
    copiedMappingItems value required = .ok (bySlot value) := by
  have enough : ¬ (required = true ∧ value.length < 1) := by
    rintro ⟨needed, short⟩
    exact nonempty needed (List.length_eq_zero_iff.mp (by omega))
  unfold copiedMappingItems
  simp only [Checks.seq_ok, Checks.require_ok]
  exact ⟨enough, few, distinct, slots, rfl⟩

end

/-- A mapping of slots to valid seals, and one of the same slots to valid truths, within the
budget of the evidence. -/
structure Inputs (h : Host) (sealsBySlot : BySlot RcaRankingSeal) (truthBySlot : BySlot RcaTruth) :
    Prop where
  nonempty : sealsBySlot ≠ []
  slots : ∀ item ∈ sealsBySlot, isSlot item.1 = true
  distinct : (sealsBySlot.map Prod.fst).Nodup
  valid : ∀ item ∈ sealsBySlot, item.2.Valid h
  sameSlots : ∀ slot, slot ∈ truthBySlot.map Prod.fst ↔ slot ∈ sealsBySlot.map Prod.fst
  distinctTruths : (truthBySlot.map Prod.fst).Nodup
  truths : ∀ item ∈ truthBySlot, item.2.Valid h
  sealBudget : (sealsBySlot.map fun item =>
    (item.2.ranking.candidates.map fun c => c.evidenceIds.length).sum).sum ≤ maxEvidenceReferences
  truthBudget : (truthBySlot.map fun item => item.2.validEvidenceIds.length).sum ≤
    maxEvidenceReferences

section
variable {h : Host} {sealed : BySlot RcaRankingSeal} {truths : BySlot RcaTruth}

theorem Inputs.of_perm (inputs : Inputs h sealed truths) {others : BySlot RcaRankingSeal}
    {answers : BySlot RcaTruth} (perm : others.Perm sealed) (perm' : answers.Perm truths) :
    Inputs h others answers where
  nonempty none := inputs.nonempty (List.Perm.nil_eq (none ▸ perm)).symm
  slots item member := inputs.slots item (perm.mem_iff.mp member)
  distinct := (perm.map _).nodup_iff.mpr inputs.distinct
  valid item member := inputs.valid item (perm.mem_iff.mp member)
  sameSlots slot := by
    rw [(perm'.map _).mem_iff, (perm.map _).mem_iff]
    exact inputs.sameSlots slot
  distinctTruths := (perm'.map _).nodup_iff.mpr inputs.distinctTruths
  truths item member := inputs.truths item (perm'.mem_iff.mp member)
  sealBudget := (perm.map _).sum_eq.trans_le inputs.sealBudget
  truthBudget := (perm'.map _).sum_eq.trans_le inputs.truthBudget

theorem sealEvidenceCount_ok {item : RcaRankingSeal} (valid : item.Valid h)
    (within : (item.ranking.candidates.map fun c => c.evidenceIds.length).sum ≤
      maxEvidenceReferences) : sealEvidenceCount item =
        .ok (item.ranking.candidates.map fun c => c.evidenceIds.length).sum := by
  obtain ⟨-, -, few, each, -⟩ := valid.2.2.1
  unfold sealEvidenceCount
  rw [Checks.seq_ok, Checks.require_ok, Budget.total_ok fun c => c.evidenceIds.length]
  · exact ⟨few, .inr (by omega), by omega⟩
  · intro c member
    rw [Checks.seq_ok, Checks.require_ok]
    exact ⟨(each c member).2.2.2.2.1.2, rfl⟩

theorem validatedSeals_ok (inputs : Inputs h sealed truths)
    (few : sealed.length ≤ maxEvaluationSeals) : validatedSeals h sealed = .ok (bySlot sealed) := by
  have member : ∀ item, item ∈ bySlot sealed ↔ item ∈ sealed := fun _ => (bySlot_perm sealed).mem_iff
  unfold validatedSeals
  rw [Checks.bind_ok]
  refine ⟨_, copiedMappingItems_ok (fun _ => inputs.nonempty) few inputs.distinct inputs.slots, ?_⟩
  rw [Checks.bind_ok]
  refine ⟨_, (Budget.total_ok (fun item =>
    (item.2.ranking.candidates.map fun c => c.evidenceIds.length).sum) ?_).mpr ⟨.inr ?_, rfl⟩, ?_⟩
  · intro item inside
    have inside := (member item).mp inside
    refine sealEvidenceCount_ok (inputs.valid item inside) (le_trans ?_ inputs.sealBudget)
    exact List.le_sum_of_mem (List.mem_map_of_mem (f := fun item : String × RcaRankingSeal =>
      (item.2.ranking.candidates.map fun c => c.evidenceIds.length).sum) inside)
  · rw [((bySlot_perm sealed).map _).sum_eq, Nat.zero_add]
    exact inputs.sealBudget
  · rw [Checks.seq_ok, Checks.each_ok]
    exact ⟨fun item inside => Checks.require_ok.mpr (inputs.valid item ((member item).mp inside)), rfl⟩

theorem Inputs.length_eq (inputs : Inputs h sealed truths) : truths.length = sealed.length := by
  have perm := (List.perm_ext_iff_of_nodup inputs.distinctTruths inputs.distinct).mpr
    inputs.sameSlots
  simpa using perm.length_eq

theorem validatedTruths_ok (inputs : Inputs h sealed truths)
    (few : sealed.length ≤ maxEvaluationSeals) :
    validatedTruths h truths ((bySlot sealed).map Prod.fst) = .ok (bySlot truths) := by
  have member : ∀ item, item ∈ bySlot truths ↔ item ∈ truths := fun _ => (bySlot_perm truths).mem_iff
  have slots : ∀ item ∈ truths, isSlot item.1 = true := by
    intro item inside
    have known := (inputs.sameSlots item.1).mp (List.mem_map_of_mem inside)
    obtain ⟨other, there, same⟩ := List.mem_map.mp known
    exact same ▸ inputs.slots other there
  unfold validatedTruths
  rw [Checks.bind_ok]
  refine ⟨_, copiedMappingItems_ok nofun (inputs.length_eq ▸ few) inputs.distinctTruths slots, ?_⟩
  rw [Checks.seq_ok, Checks.require_ok]
  refine ⟨slots_eq inputs.distinct inputs.distinctTruths inputs.sameSlots, ?_⟩
  rw [Checks.bind_ok]
  refine ⟨_, (Budget.total_ok (fun item => item.2.validEvidenceIds.length) ?_).mpr
    ⟨.inr ?_, rfl⟩, ?_⟩
  · intro item inside
    rw [Checks.seq_ok, Checks.require_ok]
    exact ⟨(inputs.truths item ((member item).mp inside)).2.1, rfl⟩
  · rw [((bySlot_perm truths).map _).sum_eq, Nat.zero_add]
    exact inputs.truthBudget
  · rw [Checks.seq_ok, Checks.each_ok]
    exact ⟨fun item inside => Checks.require_ok.mpr (inputs.truths item ((member item).mp inside)), rfl⟩

theorem Inputs.answered (inputs : Inputs h sealed truths) {item : String × RcaRankingSeal}
    (member : item ∈ sealed) : ∃ truth, truths.lookup item.1 = some truth := by
  obtain ⟨other, there, same⟩ := List.mem_map.mp
    ((inputs.sameSlots item.1).mpr (List.mem_map_of_mem member))
  exact ⟨other.2, (lookup_iff inputs.distinctTruths).mpr (same ▸ there)⟩

theorem Inputs.graded_length (inputs : Inputs h sealed truths) :
    (graded sealed truths).length = sealed.length := by
  unfold graded
  rw [List.length_filterMap_eq_countP, List.countP_eq_length]
  intro item member
  obtain ⟨truth, answer⟩ := inputs.answered member
  rw [answer]
  rfl

theorem Inputs.references_eq (inputs : Inputs h sealed truths) :
    ((graded sealed truths).map references).sum = (sealed.map fun item =>
      (item.2.ranking.candidates.map fun c => c.evidenceIds.length).sum).sum := by
  have answered : ∀ item ∈ sealed, ∃ truth, truths.lookup item.1 = some truth :=
    fun _ member => inputs.answered member
  unfold graded
  clear inputs
  induction sealed with
  | nil => rfl
  | cons item rest ih =>
    obtain ⟨truth, answer⟩ := answered item List.mem_cons_self
    simp only [List.filterMap_cons, answer, Option.map_some, List.map_cons, List.sum_cons]
    rw [ih fun other member => answered other (List.mem_cons_of_mem _ member)]
    rfl

theorem Inputs.ranked (inputs : Inputs h sealed truths) : Ranked (graded sealed truths) := by
  intro g member rank found
  obtain ⟨item, inside, same⟩ := List.mem_filterMap.mp member
  obtain ⟨truth, -, rfl⟩ := Option.map_eq_some_iff.mp same
  obtain ⟨c, search, rfl⟩ := Option.map_eq_some_iff.mp found
  exact ((inputs.valid item inside).2.2.1.2.2.2.1 c (List.mem_of_find?_eq_some search)).2.1.1

theorem evaluate_ok (inputs : Inputs h sealed truths) (few : sealed.length ≤ maxEvaluationSeals) :
    evaluateRcaRankings h sealed truths = .ok (reportOf (bySlot sealed).length
      (tallyOf (graded (bySlot sealed) (bySlot truths)))) ∧
    (reportOf (bySlot sealed).length
      (tallyOf (graded (bySlot sealed) (bySlot truths)))).Valid h := by
  have sorted : Inputs h (bySlot sealed) (bySlot truths) :=
    inputs.of_perm (bySlot_perm sealed) (bySlot_perm truths)
  have few' : (bySlot sealed).length ≤ maxEvaluationSeals := (bySlot_perm sealed).length_eq ▸ few
  have within := sorted.references_eq.trans_le sorted.sealBudget
  have valid := @reportOf_valid (graded (bySlot sealed) (bySlot truths)) h
    (List.ne_nil_of_length_pos (sorted.graded_length ▸ List.length_pos_iff.mpr sorted.nonempty))
    (sorted.graded_length ▸ few') sorted.ranked within
  rw [sorted.graded_length] at valid
  refine ⟨?_, valid⟩
  have scored := @foldlM_scoreSlot (bySlot truths) (bySlot sealed) []
    (fun item member => sorted.answered member)
    (fun item member => (sorted.valid item member).2.2.1.2.2.2.2.2.2.1) within
  unfold evaluateRcaRankings
  rw [Checks.bind_ok]
  refine ⟨_, validatedSeals_ok inputs few, ?_⟩
  rw [Checks.bind_ok]
  refine ⟨_, validatedTruths_ok inputs few, ?_⟩
  rw [Checks.bind_ok]
  refine ⟨_, scored, ?_⟩
  rw [Checks.seq_ok, Checks.require_ok]
  exact ⟨valid, rfl⟩

end

/-! The order of the mappings. -/

theorem graded_perm {sealed others : BySlot RcaRankingSeal} {truths answers : BySlot RcaTruth}
    (distinct : (truths.map Prod.fst).Nodup) (perm : sealed.Perm others)
    (perm' : truths.Perm answers) : (graded sealed truths).Perm (graded others answers) := by
  unfold graded
  have same : ∀ slot : String × RcaRankingSeal, truths.lookup slot.1 = answers.lookup slot.1 :=
    fun slot => lookup_of_perm distinct perm' slot.1
  simp only [same]
  exact perm.filterMap _

theorem reports_of_perm {r : RcaEvaluationReport} {gs others : Graded} (reports : Reports r gs)
    (perm : gs.Perm others) : Reports r others := by
  have hits : ∀ k, gs.hits k = others.hits k := fun k => perm.countP_eq _
  have accuracy : ∀ k, gs.accuracyAt k = others.accuracyAt k := by
    intro k
    rw [Graded.accuracyAt, Graded.accuracyAt, hits, perm.length_eq]
  have sums : (gs.map references).sum = (others.map references).sum := (perm.map references).sum_eq
  have valid : (gs.map validReferences).sum = (others.map validReferences).sum :=
    (perm.map validReferences).sum_eq
  refine ⟨?_, ?_, ?_, ?_, ?_, ?_, ?_, ?_, ?_⟩
  · rw [reports.samples, perm.length_eq]
  · rw [reports.ranked, perm.countP_eq]
  · rw [reports.inconclusive, perm.countP_eq]
  · rw [reports.accuracies]
    exact List.map_congr_left fun k _ => congrArg inMillionths (accuracy k)
  · rw [reports.average, Graded.averageAtFive, Graded.averageAtFive, funext accuracy]
  · rw [reports.reciprocal, Graded.meanReciprocalRank, Graded.meanReciprocalRank,
      (perm.map _).sum_eq, perm.length_eq]
  · rw [reports.references, sums]
  · rw [reports.validReferences, valid]
  · rw [reports.validity, Graded.evidenceValidity, Graded.evidenceValidity, sums, valid]

/-- The evaluation of valid seals against valid truths, for at most as many slots as it takes. -/
theorem evaluate_rca_rankings_spec (h : Host) (sealed : BySlot RcaRankingSeal)
    (truths : BySlot RcaTruth) (inputs : Inputs h sealed truths)
    (few : sealed.length ≤ maxEvaluationSeals) :
    ∃ r, evaluateRcaRankings h sealed truths = .ok r ∧ r.Valid h ∧
      (graded sealed truths).length = sealed.length ∧ Reports r (graded sealed truths) ∧
      Consistent r ∧ ∀ others answers, others.Perm sealed → answers.Perm truths →
        evaluateRcaRankings h others answers = .ok r := by
  have sorted : Inputs h (bySlot sealed) (bySlot truths) :=
    inputs.of_perm (bySlot_perm sealed) (bySlot_perm truths)
  have reports := reportOf_reports sorted.ranked
  rw [sorted.graded_length] at reports
  obtain ⟨done, valid⟩ := evaluate_ok inputs few
  refine ⟨_, done, valid, inputs.graded_length, reports_of_perm reports (graded_perm
    sorted.distinctTruths (bySlot_perm sealed) (bySlot_perm truths)), reports.consistent sorted.ranked, ?_⟩
  intro others answers perm perm'
  have again := (evaluate_ok (inputs.of_perm perm perm') (perm.length_eq ▸ few)).1
  rwa [bySlot_of_perm (inputs.of_perm perm perm').distinct perm,
    bySlot_of_perm (inputs.of_perm perm perm').distinctTruths perm'] at again

/-- The sample ranking, in which the answer is the only candidate. -/
def sampleSeals : BySlot RcaRankingSeal :=
  [(Sample.slot '0', sealedOf Host.ascii RankingSample.features)]

def sampleTruths : BySlot RcaTruth :=
  [(Sample.slot '0', ⟨"api", ["rcaevidence-" ++ String.ofList (Sample.hexId '1')]⟩)]

theorem evaluate_rca_rankings_sample :
    ∃ r, evaluateRcaRankings Host.ascii sampleSeals sampleTruths = .ok r ∧
      Reports r (graded sampleSeals sampleTruths) := by
  have inputs : Inputs Host.ascii sampleSeals sampleTruths := {
    nonempty := by decide
    slots := by simpa [sampleSeals] using Sample.slot_valid (by decide)
    distinct := by decide
    valid := by simpa [sampleSeals] using sealed_valid RankingSample.features_valid
    sameSlots := by simp [sampleSeals, sampleTruths]
    distinctTruths := by decide
    truths := by decide
    sealBudget := by decide
    truthBudget := by decide }
  obtain ⟨r, done, -, -, reports, -⟩ :=
    evaluate_rca_rankings_spec Host.ascii sampleSeals sampleTruths inputs (by decide)
  exact ⟨r, done, reports⟩

/-! One slot more than the evaluation takes. -/

def numberDigits (n : Nat) : List Char :=
  List.replicate 59 '0' ++ [10000, 1000, 100, 10, 1].map fun place => (n / place % 10).digitChar

def numberedSlot (n : Nat) : String := "rcaslot-" ++ String.ofList (numberDigits n)

def manySeals : BySlot RcaRankingSeal :=
  (List.range 10001).map fun n => (numberedSlot n, Sample.rankingSeal)

def manyTruths : BySlot RcaTruth := (List.range 10001).map fun n => (numberedSlot n, ⟨"api", []⟩)

theorem digitChar_spec : (∀ d < 10, Sha256.isHexDigit (Nat.digitChar d) = true) ∧
    ∀ d < 10, ∀ e < 10, Nat.digitChar d = Nat.digitChar e → d = e := by
  decide

theorem numberedSlot_valid (n : Nat) : isSlot (numberedSlot n) = true := by
  refine isHexId_append rfl (List.all_eq_true.mpr fun c member => ?_)
  rcases List.mem_append.mp member with zero | digit
  · rw [List.eq_of_mem_replicate zero]
    decide
  · obtain ⟨place, -, rfl⟩ := List.mem_map.mp digit
    exact digitChar_spec.1 _ (Nat.mod_lt _ (by decide))

theorem numberedSlot_inj {m n : Nat} (small : m < 100000) (small' : n < 100000)
    (same : numberedSlot m = numberedSlot n) : m = n := by
  have digits : numberDigits m = numberDigits n := by
    simpa [numberedSlot, String.ext_iff] using same
  have places := List.append_cancel_left digits
  simp only [List.map_cons, List.map_nil, List.cons.injEq, and_true, Nat.div_one] at places
  obtain ⟨a, b, c, d, e⟩ := places
  have digit : ∀ place, (m / place % 10).digitChar = (n / place % 10).digitChar →
      m / place % 10 = n / place % 10 := fun place same =>
    digitChar_spec.2 _ (Nat.mod_lt _ (by decide)) _ (Nat.mod_lt _ (by decide)) same
  have a := digit _ a
  have b := digit _ b
  have c := digit _ c
  have d := digit _ d
  have e := digitChar_spec.2 _ (Nat.mod_lt _ (by decide)) _ (Nat.mod_lt _ (by decide)) e
  omega

theorem numberedSlots_nodup : ((List.range 10001).map numberedSlot).Nodup := by
  refine List.Nodup.map_on (fun m member n member' same => ?_) List.nodup_range
  have small := List.mem_range.mp member
  have small' := List.mem_range.mp member'
  exact numberedSlot_inj (by omega) (by omega) same

theorem many_inputs : Inputs Host.ascii manySeals manyTruths where
  nonempty := List.ne_nil_of_length_pos (by simp [manySeals])
  slots item member := by
    obtain ⟨n, -, rfl⟩ := List.mem_map.mp member
    exact numberedSlot_valid n
  distinct := by
    rw [manySeals, List.map_map]
    exact numberedSlots_nodup
  valid item member := by
    obtain ⟨n, -, rfl⟩ := List.mem_map.mp member
    exact Sample.rankingSeal_valid
  sameSlots slot := by simp [manySeals, manyTruths]
  distinctTruths := by
    rw [manyTruths, List.map_map]
    exact numberedSlots_nodup
  truths item member := by
    obtain ⟨n, -, rfl⟩ := List.mem_map.mp member
    exact (by decide : RcaTruth.Valid Host.ascii ⟨"api", []⟩)
  sealBudget := by
    have none : ∀ count ∈ manySeals.map fun item =>
        (item.2.ranking.candidates.map fun c => c.evidenceIds.length).sum, count = 0 := by
      simp [manySeals, Sample.rankingSeal, Sample.ranking]
    rw [List.sum_eq_zero none]
    exact Nat.zero_le _
  truthBudget := by
    have none : ∀ count ∈ manyTruths.map fun item => item.2.validEvidenceIds.length, count = 0 := by
      simp [manyTruths]
    rw [List.sum_eq_zero none]
    exact Nat.zero_le _

/-- More than ten thousand slots are refused. -/
theorem many_slots_refused : ¬ ∀ (sealed : BySlot RcaRankingSeal) (truths : BySlot RcaTruth),
    Inputs Host.ascii sealed truths → ∃ r, evaluateRcaRankings Host.ascii sealed truths = .ok r := by
  intro claim
  obtain ⟨r, done⟩ := claim manySeals manyTruths many_inputs
  obtain ⟨validated, read, -⟩ := Checks.bind_ok.mp done
  obtain ⟨supplied, copied, -⟩ := Checks.bind_ok.mp read
  obtain ⟨-, copied⟩ := Checks.seq_ok.mp copied
  have few := Checks.require_ok.mp (Checks.seq_ok.mp copied).1
  simp [manySeals, maxEvaluationSeals] at few

end NetworkAgent.Lab.RankingEvaluation
