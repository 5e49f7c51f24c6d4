import Mathlib.Algebra.Order.Field.Rat
import Mathlib.Algebra.Order.BigOperators.Group.List
import Mathlib.Data.Nat.Digits.Defs
import NetworkAgent.Library.Grouping
import NetworkAgent.Domain.Redaction
import NetworkAgent.Lab.CaseIndex
import NetworkAgent.Lab.Evaluation

/-! The answer-blind ranking: every candidate whose measurements shifted in two modalities or more,
by the mean of its modalities' mean shifts. -/
namespace NetworkAgent.Lab
open Checks (require)

def ppmScale : Int := 1000000
def maxShiftPpm : Int := 1000000000

/-- `_shift`: how far the observed mean moved, in millionths of the baseline's magnitude. -/
def EvidenceAggregate.shift (item : EvidenceAggregate) : Int :=
  let observedCross := item.observedTotal * item.baselineCount
  let baselineCross := item.baselineTotal * item.observedCount
  let delta := |observedCross - baselineCross|
  let denominator :=
    if |item.baselineTotal| ≥ item.baselineCount then item.observedCount * |item.baselineTotal|
    else item.observedCount * item.baselineCount
  let value := delta * ppmScale / denominator
  min value maxShiftPpm

abbrev Entries := List (Int × String)

abbrev CandidateValues := List (Modality × Entries)

def addValue (item : EvidenceAggregate) (values : Option CandidateValues) : CandidateValues :=
  Grouping.update item.modality (fun entries => entries.getD [] ++ [(item.shift, item.evidenceId)])
    (values.getD [])

def addItem (grouped : List (String × CandidateValues)) (item : EvidenceAggregate) :
    List (String × CandidateValues) :=
  if item.shift ≤ 0 then grouped
  else Grouping.update item.candidateId (addValue item) grouped

/-- The aggregates in the order of their identifiers, those that shifted gathered. -/
def grouped (aggregates : List EvidenceAggregate) : List (String × CandidateValues) :=
  (aggregates.insertionSort fun a b => textLe a.evidenceId b.evidenceId).foldl addItem []

structure ScoredCandidate where
  score : ℚ
  candidateId : String
  evidenceIds : List String
  deriving DecidableEq

def scoreCandidate (candidateId : String) (values : CandidateValues) : Option ScoredCandidate :=
  if values.length < 2 then none
  else
    let modalities := (values.map Prod.fst).insertionSort fun a b => textLe a.value b.value
    let entries := fun modality => (values.lookup modality).getD []
    let modalityScores := modalities.map fun modality =>
      ((entries modality).map Prod.fst).sum / ((entries modality).length : Int)
    let evidenceIds := modalities.flatMap fun modality => (entries modality).map Prod.snd
    let score := Rat.divInt modalityScores.sum (modalityScores.length * ppmScale)
    if score > 0 then some ⟨score, candidateId, evidenceIds.insertionSort fun a b => textLe a b⟩
    else none

/-- The order of the key `(-score, candidate_id)`. -/
def scoredLe (a b : ScoredCandidate) : Bool :=
  decide (a.score > b.score) || (decide (a.score = b.score) && textLe a.candidateId b.candidateId)

def scored (aggregates : List EvidenceAggregate) : List ScoredCandidate :=
  let values := grouped aggregates
  (((values.map Prod.fst).insertionSort fun a b => textLe a b).filterMap fun candidateId =>
    scoreCandidate candidateId ((values.lookup candidateId).getD [])).insertionSort
      fun a b => scoredLe a b

def rankedCandidates (index : Nat) : List ScoredCandidate → List RcaRankedCandidate
  | [] => []
  | item :: rest =>
    { candidateId := item.candidateId, rank := index, scoreNumerator := item.score.num,
      scoreDenominator := item.score.den, evidenceIds := item.evidenceIds } ::
        rankedCandidates (index + 1) rest

def normalized (h : Host) (features : RcaFeatureSet) : Except EvaluationError RcaFeatureSet := do
  require (features.aggregates.length ≤ maxFeatureAggregates) .limitExceeded
  require (features.Valid h) .invalidInput
  return features

def rankRcaFeatures (h : Host) (features : RcaFeatureSet) :
    Except EvaluationError RcaRankingSeal := do
  let features ← normalized h features
  let scored := scored features.aggregates
  require (scored.length ≤ maxFeatureCandidates) .limitExceeded
  let candidates := rankedCandidates 1 scored
  Checks.each (fun c : RcaRankedCandidate => require (c.Valid h) .invalidInput) candidates
  let ranking : RcaRanking :=
    { outcome := if candidates = [] then .inconclusive else .ranked, candidates := candidates }
  require (ranking.Valid h) .invalidInput
  let sealed : RcaRankingSeal :=
    { featureSha256 := featureSha256 h features, ranking := ranking,
      rankingSha256 := (h.sha256 (ranking.canonicalBytes h)).text }
  require (sealed.Valid h) .invalidInput
  return sealed

/-! What the ranking is meant to be. -/

def support (aggregates : List EvidenceAggregate) (candidate : String) (modality : Modality) :
    List EvidenceAggregate :=
  aggregates.filter fun a => a.candidateId = candidate ∧ a.modality = modality ∧ 0 < a.shift

def supported (aggregates : List EvidenceAggregate) (candidate : String) : List Modality :=
  [.log, .metric, .trace].filter fun modality => support aggregates candidate modality ≠ []

def modalityScore (aggregates : List EvidenceAggregate) (candidate : String) (modality : Modality) :
    Int :=
  ((support aggregates candidate modality).map (·.shift)).sum /
    ((support aggregates candidate modality).length : Int)

def meanScore (aggregates : List EvidenceAggregate) (candidate : String) : ℚ :=
  ((supported aggregates candidate).map (modalityScore aggregates candidate)).sum /
    (supported aggregates candidate).length / ppmScale

/-- The candidates of a ranking are those with two modalities, by score and then by name. -/
structure IsRanking (aggregates : List EvidenceAggregate) (candidates : List RcaRankedCandidate) :
    Prop where
  exact : ∀ candidate, candidate ∈ candidates.map (·.candidateId) ↔
    2 ≤ (supported aggregates candidate).length
  scores : ∀ c ∈ candidates, c.score = meanScore aggregates c.candidateId
  ordered : candidates.Pairwise fun a b => a.score > b.score ∨
    a.score = b.score ∧ a.candidateId ≠ b.candidateId ∧ textLe a.candidateId b.candidateId

/-! The gathered values are the supports. -/

section
variable (aggregates : List EvidenceAggregate)

def inOrder : List EvidenceAggregate :=
  aggregates.insertionSort fun a b => textLe a.evidenceId b.evidenceId

theorem inOrder_perm : (inOrder aggregates).Perm aggregates := List.perm_insertionSort _ _

def entry (item : EvidenceAggregate) : Int × String := (item.shift, item.evidenceId)

def moved (candidate : String) : List EvidenceAggregate :=
  (inOrder aggregates).filter fun a => a.candidateId = candidate ∧ 0 < a.shift

theorem grouped_eq : grouped aggregates = Grouping.group (·.candidateId) addValue
    ((inOrder aggregates).filter fun a => 0 < a.shift) := by
  rw [Grouping.group, List.foldl_filter]
  unfold grouped
  congr 1
  funext m item
  by_cases still : item.shift ≤ 0
  · have rest : ¬ 0 < item.shift := by omega
    simp [addItem, still, rest]
  · have rest : 0 < item.shift := by omega
    simp [addItem, still, rest]

def valuesOf (candidate : String) : CandidateValues :=
  Grouping.group (·.modality) (fun item entries => entries.getD [] ++ [entry item])
    (moved aggregates candidate)

theorem lookup_grouped (candidate : String) :
    ((grouped aggregates).lookup candidate).getD [] = valuesOf aggregates candidate := by
  rw [grouped_eq, Grouping.lookup_group, List.filter_filter]
  have same : ((inOrder aggregates).filter fun a =>
      decide (a.candidateId = candidate) && decide (0 < a.shift)) = moved aggregates candidate := by
    simp [moved]
  rw [same]
  have steps := Grouping.foldl_getD (α := EvidenceAggregate) ([] : CandidateValues)
    (fun item values => Grouping.update item.modality
      (fun entries => entries.getD [] ++ [entry item]) values) (moved aggregates candidate) none
  refine (congrArg (Option.getD · []) steps).trans ?_
  by_cases none : moved aggregates candidate = []
  · simp [none, valuesOf, Grouping.group]
  · simp [none, valuesOf, Grouping.group]

theorem support_inOrder (candidate : String) (modality : Modality) :
    support (inOrder aggregates) candidate modality =
      (moved aggregates candidate).filter fun a => a.modality = modality := by
  rw [support, moved, List.filter_filter]
  congr 1
  funext a
  rw [← Bool.decide_and, decide_eq_decide]
  tauto

theorem lookup_values (candidate : String) (modality : Modality) :
    ((valuesOf aggregates candidate).lookup modality).getD [] =
      (support (inOrder aggregates) candidate modality).map entry := by
  rw [valuesOf, Grouping.lookup_group, support_inOrder, Grouping.foldl_getD []
    (fun item entries => entries ++ [entry item])]
  by_cases none : ((moved aggregates candidate).filter fun a => a.modality = modality) = []
  · simp [none]
  · rw [if_neg none, Option.getD_some, Grouping.foldl_append]
    rfl

theorem mem_supported {candidate : String} {modality : Modality} :
    modality ∈ supported aggregates candidate ↔
      ∃ a ∈ aggregates, a.candidateId = candidate ∧ a.modality = modality ∧ 0 < a.shift := by
  have every : modality ∈ [Modality.log, .metric, .trace] := by cases modality <;> simp
  simp only [supported, List.mem_filter, every, true_and, decide_eq_true_eq, support, ne_eq,
    List.filter_eq_nil_iff]
  simp

theorem supported_sorted (candidate : String) :
    (supported aggregates candidate).Pairwise fun a b => textLe a.value b.value = true :=
  List.Pairwise.filter _ (by decide)

theorem supported_nodup (candidate : String) : (supported aggregates candidate).Nodup :=
  List.Nodup.filter _ (by decide)

theorem supported_length_le (candidate : String) :
    (supported aggregates candidate).length ≤ 3 := List.length_filter_le _ _

theorem sorted_modalities (candidate : String) :
    ((valuesOf aggregates candidate).map Prod.fst).insertionSort
      (fun a b => textLe a.value b.value) = supported (inOrder aggregates) candidate := by
  have distinct : ((valuesOf aggregates candidate).map Prod.fst).Nodup := Grouping.nodup_group _ _ _
  have perm : ((valuesOf aggregates candidate).map Prod.fst).Perm
      (supported (inOrder aggregates) candidate) := by
    rw [List.perm_ext_iff_of_nodup distinct (supported_nodup _ candidate)]
    intro modality
    rw [valuesOf, Grouping.mem_keys_group, mem_supported, List.mem_map]
    simp only [moved, List.mem_filter, decide_eq_true_eq]
    exact ⟨fun ⟨a, ⟨known, owner, up⟩, same⟩ => ⟨a, known, owner, same, up⟩,
      fun ⟨a, known, owner, same, up⟩ => ⟨a, ⟨known, owner, up⟩, same⟩⟩
  have named := distinct.map Modality.value_injective
  rw [Sorting.sorted_by_of_perm Modality.value named perm]
  exact (supported_sorted _ candidate).insertionSort_eq

theorem values_length (candidate : String) :
    (valuesOf aggregates candidate).length = (supported (inOrder aggregates) candidate).length := by
  rw [← sorted_modalities, List.length_insertionSort, List.length_map]

end

/-! Scores. -/

section
variable {aggregates : List EvidenceAggregate} {candidate : String} {modality : Modality}

theorem shift_le (a : EvidenceAggregate) : a.shift ≤ maxShiftPpm := min_le_right _ _

theorem sum_bounds {xs : List Int} (each : ∀ x ∈ xs, 1 ≤ x ∧ x ≤ maxShiftPpm) :
    (xs.length : Int) ≤ xs.sum ∧ xs.sum ≤ maxShiftPpm * xs.length := by
  induction xs with
  | nil => simp
  | cons x xs ih =>
    have head := each x List.mem_cons_self
    have tail := ih fun y member => each y (List.mem_cons_of_mem x member)
    simp only [List.sum_cons, List.length_cons, maxShiftPpm] at head tail ⊢
    push_cast
    omega

theorem modalityScore_bounds (member : modality ∈ supported aggregates candidate) :
    1 ≤ modalityScore aggregates candidate modality ∧
      modalityScore aggregates candidate modality ≤ maxShiftPpm := by
  have some : support aggregates candidate modality ≠ [] := by
    simpa [supported] using (List.mem_filter.mp member).2
  have size : 0 < ((support aggregates candidate modality).length : Int) := by
    have positive := List.length_pos_iff.mpr some
    omega
  have each : ∀ x ∈ (support aggregates candidate modality).map (·.shift),
      1 ≤ x ∧ x ≤ maxShiftPpm := by
    intro x inside
    obtain ⟨a, known, rfl⟩ := List.mem_map.mp inside
    have positive : 0 < a.shift := (of_decide_eq_true (List.mem_filter.mp known).2).2.2
    exact ⟨positive, shift_le a⟩
  have bounds := sum_bounds each
  rw [List.length_map] at bounds
  exact ⟨Int.le_ediv_of_mul_le size (by omega), Int.ediv_le_of_le_mul size bounds.2⟩

theorem scores_bounds (aggregates : List EvidenceAggregate) (candidate : String) :
    ((supported aggregates candidate).length : Int) ≤
        ((supported aggregates candidate).map (modalityScore aggregates candidate)).sum ∧
      ((supported aggregates candidate).map (modalityScore aggregates candidate)).sum ≤
        maxShiftPpm * (supported aggregates candidate).length := by
  have each : ∀ x ∈ (supported aggregates candidate).map (modalityScore aggregates candidate),
      1 ≤ x ∧ x ≤ maxShiftPpm := by
    intro x inside
    obtain ⟨modality, known, rfl⟩ := List.mem_map.mp inside
    exact modalityScore_bounds known
  have bounds := sum_bounds each
  rwa [List.length_map] at bounds

theorem meanScore_eq (aggregates : List EvidenceAggregate) (candidate : String) :
    Rat.divInt ((supported aggregates candidate).map (modalityScore aggregates candidate)).sum
      ((supported aggregates candidate).length * ppmScale) = meanScore aggregates candidate := by
  rw [Rat.divInt_eq_div, meanScore, div_div]
  push_cast
  rfl

theorem meanScore_pos (two : 2 ≤ (supported aggregates candidate).length) :
    0 < meanScore aggregates candidate := by
  have bounds := (scores_bounds aggregates candidate).1
  have count : (0 : ℚ) < (supported aggregates candidate).length := by
    exact_mod_cast (by omega : 0 < (supported aggregates candidate).length)
  have total : (0 : ℚ) <
      ((supported aggregates candidate).map (modalityScore aggregates candidate)).sum := by
    exact_mod_cast (by omega : (0 : Int) < _)
  have scale : (0 : ℚ) < ppmScale := by simp [ppmScale]
  exact div_pos (div_pos total count) scale

theorem meanScore_bounds (two : 2 ≤ (supported aggregates candidate).length) :
    (1 ≤ (meanScore aggregates candidate).num ∧
      (meanScore aggregates candidate).num ≤ maxTotalAbsolute) ∧
    (1 ≤ ((meanScore aggregates candidate).den : Int) ∧
      ((meanScore aggregates candidate).den : Int) ≤ maxTotalAbsolute) := by
  have bounds := scores_bounds aggregates candidate
  have three := supported_length_le aggregates candidate
  have positive := Rat.num_pos.mpr (meanScore_pos two)
  have den := (meanScore aggregates candidate).den_pos
  rw [maxShiftPpm] at bounds
  have scaled : (0 : Int) < (supported aggregates candidate).length * ppmScale := by
    rw [ppmScale]
    omega
  have above := Int.le_of_dvd (by omega) (Rat.num_dvd
    ((supported aggregates candidate).map (modalityScore aggregates candidate)).sum scaled.ne')
  have below := Int.le_of_dvd scaled (Rat.den_dvd
    ((supported aggregates candidate).map (modalityScore aggregates candidate)).sum
    ((supported aggregates candidate).length * ppmScale))
  rw [meanScore_eq] at above below
  rw [ppmScale] at below
  simp only [maxTotalAbsolute]
  omega

end

/-! The candidates that are scored. -/

section
variable (aggregates : List EvidenceAggregate)

def evidence (candidate : String) : List String :=
  ((supported aggregates candidate).flatMap fun modality =>
    (support aggregates candidate modality).map (·.evidenceId)).insertionSort fun a b => textLe a b

def expected (candidate : String) : ScoredCandidate :=
  ⟨meanScore aggregates candidate, candidate, evidence aggregates candidate⟩

theorem scoreCandidate_eq (candidate : String) :
    scoreCandidate candidate (((grouped aggregates).lookup candidate).getD []) =
      if 2 ≤ (supported (inOrder aggregates) candidate).length then
        some (expected (inOrder aggregates) candidate)
      else none := by
  rw [lookup_grouped, scoreCandidate, values_length]
  by_cases few : (supported (inOrder aggregates) candidate).length < 2
  · rw [if_pos few, if_neg (by omega)]
  · have two : 2 ≤ (supported (inOrder aggregates) candidate).length := by omega
    rw [if_neg few, if_pos two]
    have scores : ((supported (inOrder aggregates) candidate).map fun modality =>
        ((((valuesOf aggregates candidate).lookup modality).getD []).map Prod.fst).sum /
          ((((valuesOf aggregates candidate).lookup modality).getD []).length : Int)) =
        (supported (inOrder aggregates) candidate).map
          (modalityScore (inOrder aggregates) candidate) := by
      refine List.map_congr_left fun modality _ => ?_
      rw [lookup_values, List.map_map, List.length_map]
      rfl
    have texts : ((supported (inOrder aggregates) candidate).flatMap fun modality =>
        (((valuesOf aggregates candidate).lookup modality).getD []).map Prod.snd) =
        (supported (inOrder aggregates) candidate).flatMap fun modality =>
          (support (inOrder aggregates) candidate modality).map (·.evidenceId) := by
      refine List.flatMap_congr fun modality _ => ?_
      rw [lookup_values, List.map_map]
      rfl
    simp only [sorted_modalities, scores, texts, List.length_map, meanScore_eq,
      gt_iff_lt, meanScore_pos two, if_true]
    rfl

def names : List String :=
  ((grouped aggregates).map Prod.fst).insertionSort fun a b => textLe a b

theorem names_nodup : (names aggregates).Nodup := by
  refine (List.perm_insertionSort _ _).nodup_iff.mpr ?_
  rw [grouped_eq]
  exact Grouping.nodup_group _ _ _

theorem mem_names {candidate : String} : candidate ∈ names aggregates ↔
    ∃ a ∈ aggregates, a.candidateId = candidate ∧ 0 < a.shift := by
  rw [names, List.mem_insertionSort, grouped_eq, Grouping.mem_keys_group]
  simp only [List.mem_map, List.mem_filter, decide_eq_true_eq, inOrder, List.mem_insertionSort]
  exact ⟨fun ⟨a, ⟨known, up⟩, same⟩ => ⟨a, known, same, up⟩,
    fun ⟨a, known, same, up⟩ => ⟨a, ⟨known, up⟩, same⟩⟩

def chosen : List String :=
  (names aggregates).filter fun candidate => 2 ≤ (supported (inOrder aggregates) candidate).length

theorem mem_chosen {candidate : String} : candidate ∈ chosen aggregates ↔
    2 ≤ (supported (inOrder aggregates) candidate).length := by
  rw [chosen, List.mem_filter, decide_eq_true_eq, and_iff_right_iff_imp]
  intro two
  obtain ⟨modality, member⟩ := List.exists_mem_of_length_pos
    (by omega : 0 < (supported (inOrder aggregates) candidate).length)
  obtain ⟨a, known, owner, _, up⟩ := (mem_supported _).mp member
  exact (mem_names _).mpr ⟨a, (inOrder_perm aggregates).mem_iff.mp known, owner, up⟩

theorem scored_eq : scored aggregates = ((chosen aggregates).map
    (expected (inOrder aggregates))).insertionSort fun a b => scoredLe a b := by
  unfold scored
  have each : ∀ xs : List String, xs.filterMap (fun candidate =>
      scoreCandidate candidate (((grouped aggregates).lookup candidate).getD [])) =
      (xs.filter fun candidate =>
        2 ≤ (supported (inOrder aggregates) candidate).length).map
          (expected (inOrder aggregates)) := by
    intro xs
    induction xs with
    | nil => rfl
    | cons x xs ih =>
      by_cases two : 2 ≤ (supported (inOrder aggregates) x).length
      · rw [List.filterMap_cons, scoreCandidate_eq, if_pos two, ih, List.filter_cons_of_pos (by simpa using two)]
        rfl
      · rw [List.filterMap_cons, scoreCandidate_eq, if_neg two, ih, List.filter_cons_of_neg (by simpa using two)]
  exact congrArg _ (each _)

theorem scored_perm : (scored aggregates).Perm
    ((chosen aggregates).map (expected (inOrder aggregates))) := by
  rw [scored_eq]
  exact List.perm_insertionSort _ _

theorem mem_scored {s : ScoredCandidate} : s ∈ scored aggregates ↔
    2 ≤ (supported (inOrder aggregates) s.candidateId).length ∧
      s = expected (inOrder aggregates) s.candidateId := by
  rw [(scored_perm aggregates).mem_iff, List.mem_map]
  constructor
  · rintro ⟨candidate, member, rfl⟩
    exact ⟨(mem_chosen aggregates).mp member, rfl⟩
  · rintro ⟨two, same⟩
    exact ⟨s.candidateId, (mem_chosen aggregates).mpr two, same.symm⟩

theorem scored_names_nodup : ((scored aggregates).map (·.candidateId)).Nodup := by
  have names : ((chosen aggregates).map (expected (inOrder aggregates))).map (·.candidateId) =
      chosen aggregates := by
    rw [List.map_map]
    exact List.map_id _
  rw [((scored_perm aggregates).map _).nodup_iff, names]
  exact (names_nodup aggregates).filter _

theorem scored_length_le : (scored aggregates).length ≤
    (aggregates.map (·.candidateId)).dedup.length := by
  rw [← List.length_map (·.candidateId)]
  refine ((scored_names_nodup aggregates).subperm fun candidate member => ?_).length_le
  obtain ⟨s, inside, rfl⟩ := List.mem_map.mp member
  have known := (mem_chosen aggregates).mpr ((mem_scored aggregates).mp inside).1
  obtain ⟨a, present, same, _⟩ := (mem_names aggregates).mp (List.mem_filter.mp known).1
  exact List.mem_dedup.mpr (same ▸ List.mem_map_of_mem present)

theorem scored_sorted : (scored aggregates).Pairwise fun a b => a.score > b.score ∨
    a.score = b.score ∧ a.candidateId ≠ b.candidateId ∧ textLe a.candidateId b.candidateId := by
  have total : ∀ a b, scoredLe a b = true ∨ scoredLe b a = true := by
    intro a b
    simp only [scoredLe, Bool.or_eq_true, Bool.and_eq_true, decide_eq_true_eq]
    rcases lt_trichotomy a.score b.score with less | same | more
    · exact .inr (.inl less)
    · exact (textLe_total a.candidateId b.candidateId).imp (fun le => .inr ⟨same, le⟩)
        fun le => .inr ⟨same.symm, le⟩
    · exact .inl (.inl more)
  have trans : ∀ a b c, scoredLe a b = true → scoredLe b c = true → scoredLe a c = true := by
    intro a b c first second
    simp only [scoredLe, Bool.or_eq_true, Bool.and_eq_true, decide_eq_true_eq] at first second ⊢
    rcases first with more | ⟨same, le⟩
    · rcases second with more' | ⟨same', _⟩
      · exact .inl (more'.trans more)
      · exact .inl (same' ▸ more)
    · rcases second with more' | ⟨same', le'⟩
      · exact .inl (same.symm ▸ more')
      · exact .inr ⟨same.trans same', textLe_trans le le'⟩
  have : Std.Total (fun a b => scoredLe a b = true) := ⟨total⟩
  have : IsTrans ScoredCandidate (fun a b => scoredLe a b = true) := ⟨trans⟩
  have sorted : (scored aggregates).Pairwise fun a b => scoredLe a b = true := by
    rw [scored_eq]
    exact List.pairwise_insertionSort _ _
  refine (sorted.and (List.pairwise_map.mp (scored_names_nodup aggregates))).imp ?_
  rintro a b ⟨le, differ⟩
  simp only [scoredLe, Bool.or_eq_true, Bool.and_eq_true, decide_eq_true_eq] at le
  exact le.imp id fun both => ⟨both.1, differ, both.2⟩

end

/-! The numbered candidates. -/

theorem rankedCandidates_length (index : Nat) (items : List ScoredCandidate) :
    (rankedCandidates index items).length = items.length := by
  induction items generalizing index with
  | nil => rfl
  | cons item rest ih => simp [rankedCandidates, ih]

theorem rankedCandidates_ids (index : Nat) (items : List ScoredCandidate) :
    (rankedCandidates index items).map (·.candidateId) = items.map (·.candidateId) := by
  induction items generalizing index with
  | nil => rfl
  | cons item rest ih => simp [rankedCandidates, ih]

theorem rankedCandidates_evidence (index : Nat) (items : List ScoredCandidate) :
    (rankedCandidates index items).flatMap (·.evidenceIds) = items.flatMap (·.evidenceIds) := by
  induction items generalizing index with
  | nil => rfl
  | cons item rest ih => simp [rankedCandidates, ih]

theorem mem_rankedCandidates {index : Nat} {items : List ScoredCandidate} {c : RcaRankedCandidate}
    (member : c ∈ rankedCandidates index items) : ∃ s ∈ items, ∃ rank : Nat,
      (index ≤ rank ∧ rank < index + items.length) ∧
        c = ⟨s.candidateId, rank, s.score.num, s.score.den, s.evidenceIds⟩ := by
  induction items generalizing index with
  | nil => cases member
  | cons item rest ih =>
    rcases List.mem_cons.mp member with rfl | later
    · exact ⟨item, List.mem_cons_self, index, ⟨le_refl _, by simp⟩, rfl⟩
    · obtain ⟨s, inside, rank, bounds, same⟩ := ih later
      refine ⟨s, List.mem_cons_of_mem _ inside, rank, ?_, same⟩
      rw [List.length_cons]
      omega

theorem score_mk (candidateId : String) (rank : Int) (score : ℚ) (ids : List String) :
    (⟨candidateId, rank, score.num, score.den, ids⟩ : RcaRankedCandidate).score = score :=
  Rat.num_divInt_den score

theorem rankedCandidates_pairwise {R : ℚ → String → ℚ → String → Prop} (index : Nat)
    (items : List ScoredCandidate)
    (sorted : items.Pairwise fun a b => R a.score a.candidateId b.score b.candidateId) :
    (rankedCandidates index items).Pairwise fun a b =>
      R a.score a.candidateId b.score b.candidateId := by
  induction items generalizing index with
  | nil => exact .nil
  | cons item rest ih =>
    obtain ⟨first, later⟩ := List.pairwise_cons.mp sorted
    refine .cons (fun c member => ?_) (ih (index + 1) later)
    obtain ⟨s, inside, rank, _, rfl⟩ := mem_rankedCandidates member
    rw [score_mk, score_mk]
    exact first s inside

theorem ordered_of_pairwise (index : Nat) (previous : Option RcaRankedCandidate)
    (items : List ScoredCandidate)
    (after : ∀ p ∈ previous, ∀ c ∈ rankedCandidates index items, p.Follows c)
    (sorted : (rankedCandidates index items).Pairwise RcaRankedCandidate.Follows) :
    RcaRanking.Ordered index previous (rankedCandidates index items) := by
  induction items generalizing index previous with
  | nil => trivial
  | cons item rest ih =>
    obtain ⟨first, later⟩ := List.pairwise_cons.mp sorted
    refine ⟨rfl, fun p known => after p known _ List.mem_cons_self, ?_⟩
    refine ih (index + 1) _ ?_ later
    rintro p ⟨⟩ c member
    exact first c member

theorem follows_of {a b : RcaRankedCandidate} (order : a.score > b.score ∨
    a.score = b.score ∧ a.candidateId ≠ b.candidateId ∧ textLe a.candidateId b.candidateId) :
    a.Follows b := by
  rintro (more | ⟨same, le⟩)
  · rcases order with less | ⟨same, _⟩
    · exact absurd less (not_lt.mpr more.le)
    · exact absurd same more.ne
  · rcases order with less | ⟨_, differ, le'⟩
    · exact absurd same less.ne
    · exact differ (textLe_antisymm le' le)

/-! The identifiers of the evidence. -/

section
variable {aggregates : List EvidenceAggregate}

theorem mem_evidence {candidate id : String} : id ∈ evidence aggregates candidate ↔
    ∃ a ∈ aggregates, a.candidateId = candidate ∧ 0 < a.shift ∧ a.evidenceId = id := by
  simp only [evidence, List.mem_insertionSort, List.mem_flatMap, List.mem_map, mem_supported,
    support, List.mem_filter, decide_eq_true_eq]
  constructor
  · rintro ⟨modality, _, a, ⟨known, owner, _, up⟩, same⟩
    exact ⟨a, known, owner, up, same⟩
  · rintro ⟨a, known, owner, up, same⟩
    exact ⟨a.modality, ⟨a, known, owner, rfl, up⟩, a, ⟨known, owner, rfl, up⟩, same⟩

theorem evidence_nodup (distinct : (aggregates.map (·.evidenceId)).Nodup) (candidate : String) :
    (evidence aggregates candidate).Nodup := by
  rw [evidence, (List.perm_insertionSort _ _).nodup_iff, List.nodup_flatMap]
  constructor
  · intro modality _
    exact distinct.sublist (List.filter_sublist.map _)
  · refine (supported_nodup aggregates candidate).imp fun {m n} differ => ?_
    rintro id first second
    obtain ⟨a, known, same⟩ := List.mem_map.mp first
    obtain ⟨b, known', same'⟩ := List.mem_map.mp second
    rw [support, List.mem_filter, decide_eq_true_eq] at known known'
    have one := List.inj_on_of_nodup_map distinct known.1 known'.1 (same.trans same'.symm)
    exact differ (known.2.2.1.symm.trans ((congrArg (·.modality) one).trans known'.2.2.1))

theorem evidence_sorted (candidate : String) :
    (evidence aggregates candidate).insertionSort (fun a b => textLe a b) =
      evidence aggregates candidate := by
  have sorted := Sorting.pairwise_sorted_by (fun s : String => s)
    ((supported aggregates candidate).flatMap fun modality =>
      (support aggregates candidate modality).map (·.evidenceId))
  exact List.Pairwise.insertionSort_eq sorted

theorem evidence_ne_nil {candidate : String} (two : 2 ≤ (supported aggregates candidate).length) :
    evidence aggregates candidate ≠ [] := by
  obtain ⟨modality, member⟩ := List.exists_mem_of_length_pos
    (by omega : 0 < (supported aggregates candidate).length)
  obtain ⟨a, known, owner, _, up⟩ := (mem_supported _).mp member
  exact List.ne_nil_of_mem (mem_evidence.mpr ⟨a, known, owner, up, rfl⟩)

end

section
variable {aggregates : List EvidenceAggregate}
  (distinct : (aggregates.map (·.evidenceId)).Nodup)
include distinct

theorem inOrder_distinct : ((inOrder aggregates).map (·.evidenceId)).Nodup :=
  ((inOrder_perm aggregates).map _).nodup_iff.mpr distinct

theorem scored_evidence_nodup : ((scored aggregates).flatMap (·.evidenceIds)).Nodup := by
  rw [List.nodup_flatMap]
  constructor
  · intro s member
    rw [((mem_scored aggregates).mp member).2]
    exact evidence_nodup (inOrder_distinct distinct) _
  · refine (List.pairwise_map.mp (scored_names_nodup aggregates)).imp_of_mem ?_
    intro s t first second differ id inside inside'
    rw [((mem_scored aggregates).mp first).2] at inside
    rw [((mem_scored aggregates).mp second).2] at inside'
    obtain ⟨a, known, owner, _, same⟩ := mem_evidence.mp inside
    obtain ⟨b, known', owner', _, same'⟩ := mem_evidence.mp inside'
    have one := List.inj_on_of_nodup_map (inOrder_distinct distinct) known known'
      (same.trans same'.symm)
    exact differ (owner.symm.trans ((congrArg (·.candidateId) one).trans owner'))

theorem scored_evidence_le :
    ((scored aggregates).flatMap (·.evidenceIds)).length ≤ aggregates.length := by
  have names : (aggregates.map (·.evidenceId)).length = aggregates.length := List.length_map _
  rw [← names]
  refine ((scored_evidence_nodup distinct).subperm fun id member => ?_).length_le
  obtain ⟨s, inside, held⟩ := List.mem_flatMap.mp member
  rw [((mem_scored aggregates).mp inside).2] at held
  obtain ⟨a, known, _, _, rfl⟩ := mem_evidence.mp held
  exact List.mem_map_of_mem ((inOrder_perm aggregates).mem_iff.mp known)

end

/-! The payload policy passes what it passed in the features. -/

section
variable {h : Host}

theorem modelSafe_obj {fields : List (String × Json)}
    (clean : ∀ f ∈ fields, isCleanKey f.1 = true ∧ ModelSafe h f.2) : ModelSafe h (.obj fields) := by
  refine quiet_obj.mpr fun f member => ?_
  obtain ⟨key, value⟩ := clean f member
  simp only [isCleanKey, Bool.and_eq_true, Bool.not_eq_true'] at key
  exact ⟨searchFrom_of_labelFree key.1, by simp [key.2], value⟩

theorem modelSafe_list {α : Type} {dump : α → Json} {xs : List α}
    (each : ∀ x ∈ xs, ModelSafe h (dump x)) : ModelSafe h (dumpList dump xs) := by
  refine quiet_arr.mpr fun v member => ?_
  obtain ⟨x, inside, rfl⟩ := List.mem_map.mp member
  exact each x inside

theorem modelSafe_str {s : String} : ModelSafe h (.str s) ↔ labeledIdentifier h s = false := by
  simp [ModelSafe, findSensitivePaths]

theorem modelSafe_int (n : Int) : ModelSafe h (.int n) := rfl

theorem modelSafe_const {s : String} (free : labelFree s.toList = true) : ModelSafe h (.str s) :=
  modelSafe_str.mpr (by rw [labeledIdentifier, Text.chars_eq]; exact searchFrom_of_labelFree free)

theorem modelSafe_digest (d : Sha256.Digest) : ModelSafe h (.str d.text) := by
  refine modelSafe_str.mpr ?_
  rw [labeledIdentifier, Text.chars_eq]
  exact searchFrom_of_startsNoLabel fun c member =>
    startsNoLabel_of_hex (List.all_eq_true.mp d.hex c member)

theorem aggregate_safe {a : EvidenceAggregate} (valid : a.Valid h) :
    ModelSafe h (.str a.evidenceId) ∧ ModelSafe h (.str a.candidateId) := by
  have safe := quiet_obj.mp valid.2.2.2.2.2.2
  exact ⟨(safe ("evidence_id", .str a.evidenceId) (by simp)).2.2,
    (safe ("candidate_id", .str a.candidateId) (by simp)).2.2⟩

theorem keys_clean : ∀ key ∈ ["candidate_id", "rank", "score_numerator", "score_denominator",
    "evidence_ids", "schema_version", "algorithm", "outcome", "candidates", "feature_sha256",
    "ranking", "ranking_sha256"], isCleanKey key = true := by
  decide

theorem candidate_safe {c : RcaRankedCandidate} (named : ModelSafe h (.str c.candidateId))
    (held : ∀ id ∈ c.evidenceIds, ModelSafe h (.str id)) : ModelSafe h c.dump := by
  refine modelSafe_obj ?_
  simp only [List.forall_mem_cons, List.not_mem_nil, false_imp_iff, implies_true, and_true]
  exact ⟨⟨keys_clean _ (by simp), named⟩, ⟨keys_clean _ (by simp), modelSafe_int _⟩,
    ⟨keys_clean _ (by simp), modelSafe_int _⟩, ⟨keys_clean _ (by simp), modelSafe_int _⟩,
    keys_clean _ (by simp), modelSafe_list held⟩

theorem ranking_safe {outcome : RankingOutcome} {candidates : List RcaRankedCandidate}
    (each : ∀ c ∈ candidates, ModelSafe h c.dump) :
    ModelSafe h (RcaRanking.dump { outcome := outcome, candidates := candidates }) := by
  refine modelSafe_obj ?_
  simp only [List.forall_mem_cons, List.not_mem_nil, false_imp_iff, implies_true, and_true]
  exact ⟨⟨keys_clean _ (by simp), modelSafe_const (by decide)⟩,
    ⟨keys_clean _ (by simp), modelSafe_const (by decide)⟩,
    ⟨keys_clean _ (by simp), modelSafe_const (by cases outcome <;> decide)⟩,
    keys_clean _ (by simp), modelSafe_list each⟩

theorem sealed_safe {ranking : RcaRanking} (safe : ModelSafe h ranking.dump)
    (feature digest : Sha256.Digest) : ModelSafe h (RcaRankingSeal.dump
      { featureSha256 := feature.text, ranking := ranking, rankingSha256 := digest.text }) := by
  refine modelSafe_obj ?_
  simp only [List.forall_mem_cons, List.not_mem_nil, false_imp_iff, implies_true, and_true]
  exact ⟨⟨keys_clean _ (by simp), modelSafe_const (by decide)⟩,
    ⟨keys_clean _ (by simp), modelSafe_digest _⟩, ⟨keys_clean _ (by simp), safe⟩,
    keys_clean _ (by simp), modelSafe_digest _⟩

end

/-! The size of a ranking. -/

section
variable {h : Host}

theorem bytes_list_length_le {α : Type} (dump : α → Json) (xs : List α) :
    (h.canonicalJson (dumpList dump xs)).length ≤
      (xs.map fun x => (h.canonicalJson (dump x)).length + 1).sum + 2 := by
  have joined := Json.commaSep_length_le (Json.bytesItems h.floatRepr (xs.map dump))
  rw [Json.bytesItems_eq, List.map_map, List.map_map] at joined
  simp only [dumpList, Host.canonicalJson, Json.bytes, Json.bytesItems_eq, List.cons_append,
    List.length_cons, List.length_append, List.length_nil, List.map_map] at joined ⊢
  exact Nat.add_le_add_right joined 2

theorem bytes_int_le {n : Int} (low : 1 ≤ n) (high : n ≤ maxTotalAbsolute) :
    (h.canonicalJson (.int n)).length ≤ 76 := by
  obtain ⟨m, rfl⟩ := Int.eq_ofNat_of_zero_le (by omega : 0 ≤ n)
  rw [maxTotalAbsolute] at high
  have digits := Nat.repr_length m 19 (by omega) (by omega)
  have size := utf8_length_le (Nat.repr m)
  have text : h.canonicalJson (.int m) = utf8 (Nat.repr m) := rfl
  rw [text]
  omega

theorem bytes_evidence {s : String} (named : isEvidenceId s = true) :
    (h.canonicalJson (.str s)).length = 78 := by
  simp only [isEvidenceId, isHexId, Bool.and_eq_true, beq_iff_eq] at named
  obtain ⟨⟨front, count⟩, hex⟩ := named
  have start : "rcaevidence-".length = 12 := by decide
  rw [start] at front count hex
  have plain : ∀ c ∈ s.toList, 44 < c.toNat ∧ c.toNat < 123 ∧ c.toNat ≠ 92 := by
    intro c member
    rw [← List.take_append_drop 12 s.toList, List.mem_append, front] at member
    rcases member with first | second
    · have letters : ("rcaevidence-".toList.all fun c =>
          decide (44 < c.toNat ∧ c.toNat < 123 ∧ c.toNat ≠ 92)) = true := by decide
      exact of_decide_eq_true (List.all_eq_true.mp letters c first)
    · have digit := List.all_eq_true.mp hex c second
      have bounds : '0'.val.toNat = 48 ∧ '9'.val.toNat = 57 ∧ 'a'.val.toNat = 97 ∧
        'f'.val.toNat = 102 := ⟨rfl, rfl, rfl, rfl⟩
      simp only [Sha256.isHexDigit, Char.le_def, UInt32.le_iff_toNat_le, Bool.or_eq_true,
        Bool.and_eq_true, decide_eq_true_eq] at digit
      have value : c.toNat = c.val.toNat := rfl
      omega
  have size : s.toList.length = 76 := by
    have whole := congrArg List.length (List.take_append_drop 12 s.toList)
    rw [List.length_append, count, front] at whole
    simpa using whole.symm
  have ascii := Json.utf8_ofList_ascii s.toList fun c member => by
    have bounds := plain c member
    omega
  rw [String.ofList_toList] at ascii
  have same : ∀ bs : List Nat, (∀ b ∈ bs, 44 < b ∧ b < 123 ∧ b ≠ 92) →
      (bs.flatMap Json.escape).length = bs.length := by
    intro bs bounds
    induction bs with
    | nil => rfl
    | cons b bs ih =>
      have first := bounds b List.mem_cons_self
      have single : Json.escape b = [b] := by
        unfold Json.escape
        repeat rw [if_neg (by omega)]
      rw [List.flatMap_cons, single, List.singleton_append, List.length_cons, List.length_cons,
        ih fun c member => bounds c (List.mem_cons_of_mem b member)]
  have quoted : h.canonicalJson (.str s) = Json.quote s := rfl
  rw [quoted, Json.quote, ascii, List.cons_append, List.length_cons, List.length_append, same]
  · simp [size]
  · intro b member
    obtain ⟨c, inside, rfl⟩ := List.mem_map.mp member
    exact plain c inside

theorem bytes_candidate_le {c : RcaRankedCandidate} (named : c.candidateId.length ≤ 64)
    (rank : 1 ≤ c.rank ∧ c.rank ≤ maxTotalAbsolute)
    (numerator : 1 ≤ c.scoreNumerator ∧ c.scoreNumerator ≤ maxTotalAbsolute)
    (denominator : 1 ≤ c.scoreDenominator ∧ c.scoreDenominator ≤ maxTotalAbsolute)
    (held : ∀ id ∈ c.evidenceIds, isEvidenceId id = true) :
    (h.canonicalJson c.dump).length ≤ 3300 + 79 * c.evidenceIds.length := by
  have size := Json.bytes_obj_length_le h.floatRepr
    [("candidate_id", .str c.candidateId), ("rank", .int c.rank),
     ("score_numerator", .int c.scoreNumerator), ("score_denominator", .int c.scoreDenominator),
     ("evidence_ids", dumpList .str c.evidenceIds)]
  have text : (h.canonicalJson (.str c.candidateId)).length ≤ 24 * c.candidateId.length + 2 :=
    Json.quote_length_le c.candidateId
  have ids := bytes_list_length_le (h := h) Json.str c.evidenceIds
  have each : (c.evidenceIds.map fun id => (h.canonicalJson (.str id)).length + 1) =
      c.evidenceIds.map fun _ => 79 :=
    List.map_congr_left fun id member => by rw [bytes_evidence (held id member)]
  rw [each, List.map_const', List.sum_replicate_nat] at ids
  have first := bytes_int_le (h := h) rank.1 rank.2
  have second := bytes_int_le (h := h) numerator.1 numerator.2
  have third := bytes_int_le (h := h) denominator.1 denominator.2
  obtain ⟨id, position, above, below, evidence⟩ : "candidate_id".length = 12 ∧
    "rank".length = 4 ∧ "score_numerator".length = 15 ∧ "score_denominator".length = 17 ∧
    "evidence_ids".length = 12 := by decide
  simp only [List.map_cons, List.map_nil, List.sum_cons, List.sum_nil, id, position, above, below,
    evidence] at size
  simp only [Host.canonicalJson, RcaRankedCandidate.dump] at text ids first second third ⊢
  omega

theorem bytes_ranking_le {outcome : RankingOutcome} {candidates : List RcaRankedCandidate}
    (few : candidates.length ≤ 64) (held : (candidates.flatMap (·.evidenceIds)).length ≤ 4096)
    (each : ∀ c ∈ candidates, (h.canonicalJson c.dump).length ≤ 3300 + 79 * c.evidenceIds.length) :
    (RcaRanking.canonicalBytes h { outcome := outcome, candidates := candidates }).length ≤
      maxRankingSerializedBytes := by
  have total : (candidates.map fun c => (h.canonicalJson c.dump).length + 1).sum ≤
      3301 * candidates.length + 79 * (candidates.flatMap (·.evidenceIds)).length := by
    clear few held
    induction candidates with
    | nil => simp
    | cons c rest ih =>
      have head := each c List.mem_cons_self
      have tail := ih fun d member => each d (List.mem_cons_of_mem c member)
      simp only [List.map_cons, List.sum_cons, List.length_cons, List.flatMap_cons,
        List.length_append] at tail ⊢
      omega
  have items := bytes_list_length_le (h := h) RcaRankedCandidate.dump candidates
  have size := Json.bytes_obj_length_le h.floatRepr
    [("schema_version", .str rcaRankingSchema), ("algorithm", .str rcaRankingAlgorithm),
     ("outcome", .str outcome.value), ("candidates", dumpList RcaRankedCandidate.dump candidates)]
  have version : (h.canonicalJson (.str rcaRankingSchema)).length ≤ 24 * rcaRankingSchema.length + 2 :=
    Json.quote_length_le _
  have method : (h.canonicalJson (.str rcaRankingAlgorithm)).length ≤
    24 * rcaRankingAlgorithm.length + 2 := Json.quote_length_le _
  have result : (h.canonicalJson (.str outcome.value)).length ≤ 24 * outcome.value.length + 2 :=
    Json.quote_length_le _
  have word : outcome.value.length ≤ 12 := by cases outcome <;> decide
  obtain ⟨first, second, third, fourth, fifth, sixth⟩ : "schema_version".length = 14 ∧
    "algorithm".length = 9 ∧ "outcome".length = 7 ∧ "candidates".length = 10 ∧
    rcaRankingSchema.length = 28 ∧ rcaRankingAlgorithm.length = 33 := by decide
  simp only [List.map_cons, List.map_nil, List.sum_cons, List.sum_nil, first, second, third,
    fourth] at size
  simp only [RcaRanking.canonicalBytes, RcaRanking.dump, Host.canonicalJson,
    maxRankingSerializedBytes] at items version method result size total ⊢
  omega

end

/-! The validators accept what is computed. -/

def rankingOf (aggregates : List EvidenceAggregate) : RcaRanking where
  outcome := if rankedCandidates 1 (scored aggregates) = [] then .inconclusive else .ranked
  candidates := rankedCandidates 1 (scored aggregates)

def sealedOf (h : Host) (features : RcaFeatureSet) : RcaRankingSeal where
  featureSha256 := featureSha256 h features
  ranking := rankingOf features.aggregates
  rankingSha256 := (h.sha256 ((rankingOf features.aggregates).canonicalBytes h)).text

section
variable {h : Host} {features : RcaFeatureSet} (valid : features.Valid h)
include valid

theorem scored_few : (scored features.aggregates).length ≤ maxFeatureCandidates :=
  (scored_length_le _).trans valid.2.2.2.2.2.1

theorem evidence_valid {s : ScoredCandidate} (member : s ∈ scored features.aggregates) :
    ∀ id ∈ s.evidenceIds, isEvidenceId id = true ∧ ModelSafe h (.str id) := by
  intro id held
  rw [((mem_scored _).mp member).2] at held
  obtain ⟨a, known, _, _, rfl⟩ := mem_evidence.mp held
  have sound := valid.2.2.1 a ((inOrder_perm _).mem_iff.mp known)
  exact ⟨sound.1, (aggregate_safe sound).1⟩

theorem name_valid {s : ScoredCandidate} (member : s ∈ scored features.aggregates) :
    isCandidateId s.candidateId = true ∧ ModelSafe h (.str s.candidateId) := by
  have two := ((mem_scored _).mp member).1
  obtain ⟨modality, known⟩ := List.exists_mem_of_length_pos
    (by omega : 0 < (supported (inOrder features.aggregates) s.candidateId).length)
  obtain ⟨a, present, owner, _⟩ := (mem_supported _).mp known
  have sound := valid.2.2.1 a ((inOrder_perm _).mem_iff.mp present)
  exact owner ▸ ⟨sound.2.1, (aggregate_safe sound).2⟩

theorem candidate_valid {c : RcaRankedCandidate}
    (member : c ∈ rankedCandidates 1 (scored features.aggregates)) : c.Valid h := by
  obtain ⟨s, inside, rank, position, rfl⟩ := mem_rankedCandidates member
  obtain ⟨two, same⟩ := (mem_scored _).mp inside
  have few := scored_few valid
  have distinct := valid.2.2.2.2.1
  have ids : s.evidenceIds = evidence (inOrder features.aggregates) s.candidateId :=
    congrArg (·.evidenceIds) same
  have score : s.score = meanScore (inOrder features.aggregates) s.candidateId :=
    congrArg (·.score) same
  have bounds := meanScore_bounds two
  rw [← score] at bounds
  have held := evidence_valid valid inside
  have named := name_valid valid inside
  have some : 1 ≤ s.evidenceIds.length :=
    List.length_pos_iff.mpr (ids ▸ evidence_ne_nil two)
  have within : s.evidenceIds.Sublist ((scored features.aggregates).flatMap (·.evidenceIds)) := by
    rw [List.flatMap_def]
    exact List.sublist_flatten_of_mem (List.mem_map_of_mem inside)
  have total := within.length_le.trans (scored_evidence_le distinct)
  refine ⟨named.1, ?_, bounds.1, bounds.2, ⟨some, total.trans valid.2.1⟩,
    fun id member => (held id member).1, candidate_safe named.2 fun id member => (held id member).2,
    ?_, ?_⟩
  · simp only [maxFeatureCandidates] at few ⊢
    omega
  · exact s.score.reduced
  · rw [ids, (evidence_nodup (inOrder_distinct distinct) _).dedup, evidence_sorted]

theorem ranking_valid : (rankingOf features.aggregates).Valid h := by
  have few := scored_few valid
  have distinct := valid.2.2.2.2.1
  have each : ∀ c ∈ rankedCandidates 1 (scored features.aggregates), c.Valid h :=
    fun c member => candidate_valid valid member
  refine ⟨rfl, rfl, ?_, each, ranking_safe fun c member => (each c member).2.2.2.2.2.2.1, ?_, ?_, ?_,
    ?_, ?_⟩
  · exact (rankedCandidates_length _ _).trans_le few
  · by_cases none : rankedCandidates 1 (scored features.aggregates) = [] <;>
      simp [rankingOf, none]
  · exact (rankedCandidates_ids _ _).symm ▸ scored_names_nodup _
  · exact (rankedCandidates_evidence _ _).symm ▸ scored_evidence_nodup distinct
  · refine ordered_of_pairwise 1 none _ (by simp) ?_
    exact (rankedCandidates_pairwise (R := fun x a y b => x > y ∨ x = y ∧ a ≠ b ∧ textLe a b) 1 _
      (scored_sorted _)).imp fun order => follows_of order
  · refine bytes_ranking_le ((rankedCandidates_length _ _).trans_le few)
      ((congrArg List.length (rankedCandidates_evidence _ _)).trans_le
        ((scored_evidence_le distinct).trans valid.2.1)) fun c member => ?_
    obtain ⟨named, rank, numerator, denominator, _, held, _⟩ := each c member
    have short : c.candidateId.length ≤ 64 := by
      rw [isCandidateId, Bool.and_eq_true, decide_eq_true_eq] at named
      exact named.2
    refine bytes_candidate_le short ⟨rank.1, ?_⟩ numerator denominator held
    have position := rank.2
    simp only [maxFeatureCandidates, maxTotalAbsolute] at position ⊢
    omega

theorem sealed_valid : (sealedOf h features).Valid h :=
  ⟨rfl, isSha256_feature h features, ranking_valid valid, isSha256_digest _,
    sealed_safe (ranking_valid valid).2.2.2.2.1 _ _, rfl⟩

theorem rank_ok : rankRcaFeatures h features = .ok (sealedOf h features) := by
  have few := scored_few valid
  have size := valid.2.1
  rw [rankRcaFeatures, Checks.bind_ok]
  refine ⟨features, ?_, ?_⟩
  · rw [normalized, Checks.seq_ok, Checks.require_ok, Checks.seq_ok, Checks.require_ok]
    exact ⟨size, valid, rfl⟩
  · dsimp only
    rw [Checks.seq_ok, Checks.require_ok, Checks.seq_ok, Checks.each_ok, Checks.seq_ok,
      Checks.require_ok, Checks.seq_ok, Checks.require_ok]
    exact ⟨few, fun c member => Checks.require_ok.mpr (candidate_valid valid member),
      ranking_valid valid, sealed_valid valid, rfl⟩

end

/-! Permutations. -/

section
variable {xs ys : List EvidenceAggregate}

theorem supported_perm (perm : xs.Perm ys) (candidate : String) :
    supported xs candidate = supported ys candidate := by
  unfold supported
  refine List.filter_congr fun modality _ => ?_
  have same : (support xs candidate modality).Perm (support ys candidate modality) := perm.filter _
  rw [decide_eq_decide]
  exact not_congr ⟨fun none => List.Perm.nil_eq (none ▸ same) |>.symm,
    fun none => List.Perm.eq_nil (none ▸ same)⟩

theorem meanScore_perm (perm : xs.Perm ys) (candidate : String) :
    meanScore xs candidate = meanScore ys candidate := by
  have each : ∀ modality, modalityScore xs candidate modality = modalityScore ys candidate modality := by
    intro modality
    have same : (support xs candidate modality).Perm (support ys candidate modality) :=
      perm.filter _
    rw [modalityScore, modalityScore, (same.map _).sum_eq, same.length_eq]
  rw [meanScore, meanScore, supported_perm perm, funext each]

theorem scored_of_perm (distinct : (xs.map (·.evidenceId)).Nodup) (perm : xs.Perm ys) :
    scored xs = scored ys := by
  have same : inOrder xs = inOrder ys := Sorting.sorted_by_of_perm EvidenceAggregate.evidenceId distinct perm
  have gathered : grouped xs = grouped ys := congrArg (·.foldl addItem []) same
  simp only [scored, gathered]

end

theorem rankingOf_isRanking (aggregates : List EvidenceAggregate) :
    IsRanking aggregates (rankingOf aggregates).candidates where
  exact candidate := by
    rw [rankingOf, rankedCandidates_ids, ← supported_perm (inOrder_perm aggregates)]
    constructor
    · intro member
      obtain ⟨s, inside, rfl⟩ := List.mem_map.mp member
      exact ((mem_scored _).mp inside).1
    · exact fun two => List.mem_map.mpr
        ⟨expected (inOrder aggregates) candidate, (mem_scored _).mpr ⟨two, rfl⟩, rfl⟩
  scores c member := by
    obtain ⟨s, inside, rank, _, rfl⟩ := mem_rankedCandidates member
    rw [score_mk, ← meanScore_perm (inOrder_perm aggregates)]
    exact congrArg (·.score) ((mem_scored _).mp inside).2
  ordered := rankedCandidates_pairwise
    (R := fun x a y b => x > y ∨ x = y ∧ a ≠ b ∧ textLe a b) 1 _ (scored_sorted aggregates)

/-! A permuted feature set is as valid, and as long in bytes. -/

section
variable {h : Host}

theorem commaSep_length (parts : List (List Nat)) :
    (Json.commaSep parts).length = (parts.map fun p => p.length + 1).sum - 1 := by
  induction parts with
  | nil => rfl
  | cons p rest ih =>
    cases rest with
    | nil => simp [Json.commaSep]
    | cons q rest =>
      simp only [Json.commaSep, List.length_append, List.length_cons, List.map_cons,
        List.sum_cons] at ih ⊢
      omega

theorem bytes_list_perm {α : Type} (dump : α → Json) {xs ys : List α} (perm : xs.Perm ys) :
    (h.canonicalJson (dumpList dump xs)).length = (h.canonicalJson (dumpList dump ys)).length := by
  simp only [dumpList, Host.canonicalJson, Json.bytes, Json.bytesItems_eq, List.cons_append,
    List.length_cons, List.length_append, commaSep_length, List.map_map]
  rw [(perm.map _).sum_nat]

theorem bytes_obj_length (fields : List (String × Json)) :
    (h.canonicalJson (.obj fields)).length = (fields.map fun f =>
      (Json.quote f.1).length + (h.canonicalJson f.2).length + 2).sum - 1 + 2 := by
  have sorted : (Json.sortFields (Json.bytesFields h.floatRepr fields)).Perm
      (Json.bytesFields h.floatRepr fields) := List.perm_insertionSort _ _
  simp only [Host.canonicalJson, Json.bytes, List.cons_append, List.length_cons,
    List.length_append, commaSep_length, List.map_map, List.length_nil]
  rw [(sorted.map _).sum_nat, Json.bytesFields_eq, List.map_map]
  have each : (fields.map (((fun p : List Nat => p.length + 1) ∘
      fun f => Json.quote f.1 ++ 58 :: f.2) ∘ fun f => (f.1, Json.bytes h.floatRepr f.2))) =
      fields.map fun f => (Json.quote f.1).length + (Json.bytes h.floatRepr f.2).length + 2 := by
    refine List.map_congr_left fun f _ => ?_
    simp only [Function.comp_apply, List.length_append, List.length_cons]
    omega
  rw [each]

theorem RcaFeatureSet.Valid.of_perm {f g : RcaFeatureSet} (valid : f.Valid h)
    (version : g.schemaVersion = f.schemaVersion) (perm : g.aggregates.Perm f.aggregates) :
    g.Valid h := by
  obtain ⟨named, few, each, _, distinct, candidates, size⟩ := valid
  have sound : ∀ a ∈ g.aggregates, a.Valid h := fun a member => each a (perm.mem_iff.mp member)
  refine ⟨version.trans named, perm.length_eq.trans_le few, sound, ?_,
    (perm.map _).nodup_iff.mpr distinct, (perm.map _).dedup.length_eq.trans_le candidates, ?_⟩
  · refine modelSafe_obj ?_
    simp only [List.forall_mem_cons, List.not_mem_nil, false_imp_iff, implies_true, and_true]
    refine ⟨⟨by decide, ?_⟩, by decide, modelSafe_list fun a member => (sound a member).2.2.2.2.2.2⟩
    rw [version, named]
    exact modelSafe_const (by decide)
  · have same := bytes_list_perm (h := h) EvidenceAggregate.dump perm
    simp only [canonicalBytes, dump, bytes_obj_length, List.map_cons, List.map_nil] at size ⊢
    rwa [same, version]

end

/-- The ranking of every valid feature set, and what a permutation of the features changes. -/
theorem rank_rca_features_spec (h : Host) (f : RcaFeatureSet) (valid : f.Valid h) :
    ∃ s, rankRcaFeatures h f = .ok s ∧ s.Valid h ∧
      IsRanking f.aggregates s.ranking.candidates ∧ s.featureSha256 = featureSha256 h f ∧
      ∀ g : RcaFeatureSet, g.schemaVersion = f.schemaVersion → g.aggregates.Perm f.aggregates →
        ∃ t, rankRcaFeatures h g = .ok t ∧ t.ranking = s.ranking ∧
          t.rankingSha256 = s.rankingSha256 := by
  refine ⟨sealedOf h f, rank_ok valid, sealed_valid valid, rankingOf_isRanking _, rfl, ?_⟩
  intro g version perm
  have same : rankingOf g.aggregates = rankingOf f.aggregates := by
    rw [rankingOf, rankingOf,
      scored_of_perm ((perm.map _).nodup_iff.mpr valid.2.2.2.2.1) perm]
  refine ⟨sealedOf h g, rank_ok (valid.of_perm version perm), same, ?_⟩
  simp only [sealedOf, same]

namespace RankingSample

def aggregate (digit : Char) (modality : Modality) : EvidenceAggregate where
  evidenceId := "rcaevidence-" ++ String.ofList (Sample.hexId digit)
  candidateId := "api"
  modality := modality
  baselineTotal := 0
  baselineCount := 1
  observedTotal := 1
  observedCount := 1

def features : RcaFeatureSet where
  aggregates := [aggregate '0' .metric, aggregate '1' .log]

def reversed : RcaFeatureSet where
  aggregates := [aggregate '1' .log, aggregate '0' .metric]

theorem features_valid : features.Valid Host.ascii := by decide +kernel

theorem digests_differ :
    featureSha256 Host.ascii features ≠ featureSha256 Host.ascii reversed := by decide +kernel

end RankingSample

theorem rank_rca_features_sample : ∃ s, rankRcaFeatures Host.ascii RankingSample.features = .ok s ∧
    IsRanking RankingSample.features.aggregates s.ranking.candidates := by
  obtain ⟨s, done, _, ranked, _⟩ :=
    rank_rca_features_spec Host.ascii RankingSample.features RankingSample.features_valid
  exact ⟨s, done, ranked⟩

/-- The seal names the features in the order they came in. -/
theorem reversed_seal_differs : ¬ ∀ f g : RcaFeatureSet, f.Valid Host.ascii → g.Valid Host.ascii →
    g.aggregates.Perm f.aggregates → rankRcaFeatures Host.ascii g = rankRcaFeatures Host.ascii f := by
  intro claim
  have perm : RankingSample.reversed.aggregates.Perm RankingSample.features.aggregates :=
    List.Perm.swap _ _ _
  have valid : RankingSample.reversed.Valid Host.ascii :=
    RankingSample.features_valid.of_perm rfl perm
  have same := claim _ _ RankingSample.features_valid valid perm
  rw [rank_ok valid, rank_ok RankingSample.features_valid, Except.ok.injEq] at same
  exact RankingSample.digests_differ (congrArg RcaRankingSeal.featureSha256 same).symm

end NetworkAgent.Lab
