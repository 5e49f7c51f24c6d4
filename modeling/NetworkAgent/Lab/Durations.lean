import Mathlib.Algebra.Order.Field.Rat
import Mathlib.Data.Int.ConditionallyCompleteOrder
import Mathlib.Data.Int.Interval
import Mathlib.Tactic.Linarith
import Mathlib.Tactic.NormNum
import NetworkAgent.Lab.Evaluation

/-! The duration metrics count what the episodes of both sides cover. -/
namespace NetworkAgent.Lab
open Intervals (Started Separated covered)

/-! The intervals of one group. -/

def covers (group : Group) (episodes : List EpisodeWindow) : Finset Int :=
  covered (intervalsOf group episodes)

def joined (group : Group) (episodes : List EpisodeWindow) : List Interval :=
  Intervals.join ((intervalsOf group episodes).insertionSort fun a b => intervalLe a b)

theorem intervalLe_iff {a b : Interval} :
    intervalLe a b = true ↔ a.1 < b.1 ∨ a.1 = b.1 ∧ a.2 ≤ b.2 := by
  simp [intervalLe]

theorem sorted_started (is : List Interval) :
    Started (is.insertionSort fun a b => intervalLe a b) := by
  have total : Std.Total (fun a b : Interval => intervalLe a b = true) := ⟨fun a b => by
    simp only [intervalLe_iff]
    rcases lt_trichotomy a.1 b.1 with less | same | more
    · exact .inl (.inl less)
    · exact (le_total a.2 b.2).imp (fun le => .inr ⟨same, le⟩) (fun le => .inr ⟨same.symm, le⟩)
    · exact .inr (.inl more)⟩
  have trans : IsTrans Interval (fun a b => intervalLe a b = true) := ⟨fun a b c => by
    simp only [intervalLe_iff]
    rintro (less | ⟨same, le⟩) (less' | ⟨same', le'⟩)
    · exact .inl (lt_trans less less')
    · exact .inl (lt_of_lt_of_eq less same')
    · exact .inl (lt_of_eq_of_lt same less')
    · exact .inr ⟨same.trans same', le_trans le le'⟩⟩
  refine (List.pairwise_insertionSort (fun a b => intervalLe a b = true) is).imp fun le => ?_
  exact (intervalLe_iff.mp le).elim le_of_lt fun both => le_of_eq both.1

theorem interval_ordered (e : EpisodeWindow) : e.interval.1 ≤ e.interval.2 :=
  le_trans e.ordered (Int.le_add_of_nonneg_right (by decide))

theorem joined_separated (group : Group) (episodes : List EpisodeWindow) :
    Separated (joined group episodes) := by
  apply Intervals.join_separated (sorted_started _)
  intro i member
  obtain ⟨e, _, rfl⟩ := List.mem_map.mp ((List.mem_insertionSort _).mp member)
  exact interval_ordered e

theorem covered_joined (group : Group) (episodes : List EpisodeWindow) :
    covered (joined group episodes) = covers group episodes := by
  rw [joined, Intervals.covered_join (sorted_started _)]
  exact Intervals.covered_perm (List.perm_insertionSort _ _)

/-- Seconds, as a homomorphism from the number of microseconds. -/
def secondsHom : ℕ →+ ℚ where
  toFun n := totalSeconds n
  map_zero' := by simp [totalSeconds]
  map_add' a b := by simp [totalSeconds, add_div]

theorem seconds_interval {i : Interval} (ordered : i.1 ≤ i.2) :
    totalSeconds (i.2 - i.1) = secondsHom (Finset.Ico i.1 i.2).card := by
  change _ = totalSeconds ((Finset.Ico i.1 i.2).card : ℤ)
  rw [Int.card_Ico_of_le _ _ ordered]

theorem joined_seconds (group : Group) (episodes : List EpisodeWindow) :
    ((joined group episodes).map fun i => totalSeconds (i.2 - i.1)).sum =
      secondsHom (covers group episodes).card := by
  have separated := joined_separated group episodes
  rw [← covered_joined, separated.card_covered, map_list_sum, List.map_map]
  exact congrArg List.sum (List.map_congr_left fun i member =>
    seconds_interval (separated.ordered i member))

theorem commonSeconds_eq (a b : Int) : commonSeconds a b = secondsHom (Finset.Ico a b).card := by
  change _ = totalSeconds ((Finset.Ico a b).card : ℤ)
  rw [Int.card_Ico, Int.toNat_eq_max, commonSeconds, max_comm]
  have mono : Monotone totalSeconds := fun x y le =>
    div_le_div_of_nonneg_right (Int.cast_le.mpr le) (by norm_num)
  rw [mono.map_max]
  simp [totalSeconds]

theorem overlap_seconds (group : Group) (truth predictions : List EpisodeWindow) :
    Intervals.overlap commonSeconds (joined group truth) (joined group predictions) =
      secondsHom (covers group truth ∩ covers group predictions).card := by
  rw [← covered_joined, ← covered_joined, ← Intervals.overlap_eq_card (joined_separated _ _)
    (joined_separated _ _), Intervals.map_overlap]
  congr
  funext a b
  exact commonSeconds_eq a b

/-! All groups together. -/

def points (episodes : List EpisodeWindow) : Finset (Group × Int) :=
  episodes.toFinset.biUnion fun e => {e.group} ×ˢ covered [e.interval]

theorem mem_covers {group : Group} {episodes : List EpisodeWindow} {x : Int} :
    x ∈ covers group episodes ↔
      ∃ e ∈ episodes, e.group = group ∧ e.interval.1 ≤ x ∧ x < e.interval.2 := by
  rw [covers, Intervals.mem_covered]
  constructor
  · rintro ⟨i, member, inside⟩
    obtain ⟨e, kept, rfl⟩ := List.mem_map.mp member
    obtain ⟨listed, same⟩ := List.mem_filter.mp kept
    exact ⟨e, listed, of_decide_eq_true same, inside⟩
  · rintro ⟨e, listed, same, inside⟩
    exact ⟨e.interval, List.mem_map_of_mem (List.mem_filter.mpr ⟨listed, decide_eq_true same⟩),
      inside⟩

theorem mem_points {group : Group} {episodes : List EpisodeWindow} {x : Int} :
    (group, x) ∈ points episodes ↔ x ∈ covers group episodes := by
  simp only [points, mem_covers, Finset.mem_biUnion, List.mem_toFinset, Finset.mem_product,
    Finset.mem_singleton, Intervals.mem_covered, List.mem_singleton, exists_eq_left]
  exact exists_congr fun e => and_congr_right fun _ => and_congr_left fun _ => eq_comm

theorem points_perm {xs ys : List EpisodeWindow} (perm : xs.Perm ys) : points xs = points ys := by
  rw [points, List.toFinset_eq_of_perm _ _ perm, points]

theorem mem_groupsOf {group : Group} {episodes : List EpisodeWindow} :
    group ∈ groupsOf episodes ↔ ∃ e ∈ episodes, e.group = group := by
  simp [groupsOf]

theorem groupsOf_nodup (episodes : List EpisodeWindow) : (groupsOf episodes).Nodup :=
  List.nodup_reverse.mpr (List.nodup_dedup _)

theorem card_groups {s : Finset (Group × Int)} {part : Group → Finset Int}
    (parts : ∀ g x, (g, x) ∈ s ↔ x ∈ part g) {keys : List Group} (nodup : keys.Nodup)
    (all : ∀ g, (part g).Nonempty → g ∈ keys) :
    s.card = (keys.map fun g => (part g).card).sum := by
  have inside : (s : Set (Group × Int)).MapsTo Prod.fst keys.toFinset := by
    rintro ⟨g, x⟩ member
    exact List.mem_toFinset.mpr (all g ⟨x, (parts g x).mp member⟩)
  have fiber : ∀ g, {p ∈ s | p.1 = g} = (part g).map ⟨(g, ·), Prod.mk_right_injective g⟩ := by
    intro g
    ext ⟨g', x⟩
    simp only [Finset.mem_filter, parts, Finset.mem_map, Function.Embedding.coeFn_mk,
      Prod.mk.injEq, exists_eq_right_right]
    constructor
    · rintro ⟨member, rfl⟩
      exact ⟨member, rfl⟩
    · rintro ⟨member, rfl⟩
      exact ⟨member, rfl⟩
  rw [Finset.card_eq_sum_card_fiberwise inside, ← List.sum_toFinset _ nodup]
  simp only [fiber, Finset.card_map]

theorem mergedIntervals_lookup (group : Group) (episodes : List EpisodeWindow) :
    ((mergedIntervals episodes).lookup group).getD [] = joined group episodes := by
  cases found : (mergedIntervals episodes).lookup group with
  | none =>
    have absent : ∀ e ∈ episodes, e.group ≠ group := by
      intro e member same
      have := List.lookup_eq_none_iff.mp found (group, joined group episodes)
        (List.mem_map.mpr ⟨group, mem_groupsOf.mpr ⟨e, member, same⟩, rfl⟩)
      simp at this
    have none : intervalsOf group episodes = [] := by
      rw [intervalsOf, List.filter_eq_nil_iff.mpr fun e member => by simp [absent e member]]
      rfl
    rw [joined, none]
    rfl
  | some intervals =>
    obtain ⟨before, after, split, _⟩ := List.lookup_eq_some_iff.mp found
    have member : (group, intervals) ∈ mergedIntervals episodes := by rw [split]; simp
    obtain ⟨g, _, same⟩ := List.mem_map.mp member
    cases same
    rfl

theorem mergedIntervals_groups (episodes : List EpisodeWindow) :
    (mergedIntervals episodes).map (·.1) = groupsOf episodes := by
  simp [mergedIntervals, Function.comp_def]

theorem group_of_covers {group : Group} {episodes : List EpisodeWindow} {x : Int}
    (member : x ∈ covers group episodes) : group ∈ groupsOf episodes := by
  obtain ⟨e, listed, same, _⟩ := mem_covers.mp member
  exact mem_groupsOf.mpr ⟨e, listed, same⟩

theorem sumSeconds_eq (episodes : List EpisodeWindow) :
    sumSeconds (mergedIntervals episodes) = secondsHom (points episodes).card := by
  have all : ∀ g, (covers g episodes).Nonempty → g ∈ groupsOf episodes :=
    fun _ ⟨_, member⟩ => group_of_covers member
  have parts := card_groups (fun _ _ => mem_points) (groupsOf_nodup episodes) all
  rw [parts, map_list_sum, List.map_map, sumSeconds, List.flatMap_def, List.map_flatten,
    List.sum_flatten, mergedIntervals, List.map_map, List.map_map, List.map_map]
  exact congrArg List.sum (List.map_congr_left fun g _ => joined_seconds g episodes)

theorem intersectionSeconds_eq (truth predictions : List EpisodeWindow) :
    intersectionSeconds (mergedIntervals truth) (mergedIntervals predictions) =
      secondsHom (points truth ∩ points predictions).card := by
  rw [intersectionSeconds, mergedIntervals_groups, mergedIntervals_groups]
  have perm := List.perm_insertionSort (fun a b : Group => groupLe a b = true)
    ((groupsOf truth).filter fun key => key ∈ groupsOf predictions)
  have nodup := perm.nodup_iff.mpr ((groupsOf_nodup truth).filter _)
  have all : ∀ g, (covers g truth ∩ covers g predictions).Nonempty →
      g ∈ ((groupsOf truth).filter fun key => key ∈ groupsOf predictions).insertionSort
        fun a b => groupLe a b := by
    rintro g ⟨x, member⟩
    obtain ⟨left, right⟩ := Finset.mem_inter.mp member
    rw [perm.mem_iff, List.mem_filter]
    exact ⟨group_of_covers left, decide_eq_true (group_of_covers right)⟩
  have inside : ∀ g x, (g, x) ∈ points truth ∩ points predictions ↔
      x ∈ covers g truth ∩ covers g predictions := by
    intro g x
    rw [Finset.mem_inter, Finset.mem_inter, mem_points, mem_points]
  rw [card_groups inside nodup all, map_list_sum, List.map_map]
  refine congrArg List.sum (List.map_congr_left fun g _ => ?_)
  rw [mergedIntervals_lookup, mergedIntervals_lookup]
  exact overlap_seconds g truth predictions

/-! The ratios. -/

theorem secondsHom_nonneg (n : ℕ) : 0 ≤ secondsHom n := by
  change 0 ≤ totalSeconds n
  exact div_nonneg (Int.cast_nonneg (Int.natCast_nonneg n)) (by norm_num)

theorem secondsHom_mono {m n : ℕ} (le : m ≤ n) : secondsHom m ≤ secondsHom n := by
  obtain ⟨k, rfl⟩ := Nat.exists_eq_add_of_le le
  rw [map_add]
  exact le_add_of_nonneg_right (secondsHom_nonneg k)

theorem metric_bounds {numerator denominator : ℚ} (nonneg : 0 ≤ numerator)
    (le : numerator ≤ denominator) (bothEmpty : Bool) :
    0 ≤ metric numerator denominator bothEmpty ∧ metric numerator denominator bothEmpty ≤ 1 := by
  unfold metric
  split
  · split <;> norm_num
  · have nonneg' := le_trans nonneg le
    exact ⟨div_nonneg nonneg nonneg', div_le_one_of_le₀ le nonneg'⟩

theorem roundHalfEven_bounds {x : ℚ} {n : Int} (nonneg : 0 ≤ x) (le : x ≤ n) :
    0 ≤ roundHalfEven x ∧ roundHalfEven x ≤ n := by
  have low : 0 ≤ ⌊x⌋ := Int.floor_nonneg.mpr nonneg
  have high : ⌊x⌋ ≤ n := Int.cast_le.mp (le_trans (Int.floor_le x) le)
  dsimp only [roundHalfEven]
  split
  · exact ⟨low, high⟩
  · next up =>
    have strict : ⌊x⌋ < n := by
      refine lt_of_le_of_ne high fun reached => up (.inl ?_)
      rw [reached]
      linarith
    exact ⟨by omega, by omega⟩

theorem rounded_bounds {x : ℚ} (nonneg : 0 ≤ x) (le : x ≤ 1) : 0 ≤ rounded x ∧ rounded x ≤ 1 := by
  have limit : x * 10 ^ 12 ≤ ((10 ^ 12 : Int) : ℚ) := by
    push_cast
    linarith
  obtain ⟨low, high⟩ := roundHalfEven_bounds (mul_nonneg nonneg (by norm_num)) limit
  unfold rounded
  constructor
  · exact div_nonneg (Int.cast_nonneg low) (by norm_num)
  · rw [div_le_one (by norm_num)]
    exact_mod_cast high

/-! Rearranging the episodes. -/

/-- Two adjacent pieces of an episode; the windows include their last second. -/
structure Pieces (e first second : EpisodeWindow) : Prop where
  firstGroup : first.group = e.group
  secondGroup : second.group = e.group
  start : first.windowStart = e.windowStart
  adjacent : second.windowStart = first.windowEnd + 1000000
  stop : second.windowEnd = e.windowEnd

/-- The same episodes in another order or cut into adjacent pieces. -/
inductive Rearranged : List EpisodeWindow → List EpisodeWindow → Prop where
  | perm {xs ys : List EpisodeWindow} (perm : xs.Perm ys) : Rearranged xs ys
  | split {e first second : EpisodeWindow} (before after : List EpisodeWindow)
      (pieces : Pieces e first second) :
      Rearranged (before ++ e :: after) (before ++ first :: second :: after)
  | trans {xs ys zs : List EpisodeWindow} (first : Rearranged xs ys) (second : Rearranged ys zs) :
      Rearranged xs zs

theorem Pieces.interval {e first second : EpisodeWindow} (pieces : Pieces e first second) (x : Int) :
    e.interval.1 ≤ x ∧ x < e.interval.2 ↔
      (first.interval.1 ≤ x ∧ x < first.interval.2) ∨
        (second.interval.1 ≤ x ∧ x < second.interval.2) := by
  have cut : ∀ s m t : Int, s ≤ m → m + 1000000 ≤ t → (s ≤ x ∧ x < t + 1000000 ↔
      (s ≤ x ∧ x < m + 1000000) ∨ (m + 1000000 ≤ x ∧ x < t + 1000000)) := by omega
  have ordered := first.ordered
  have ordered' := second.ordered
  rw [pieces.start] at ordered
  rw [pieces.adjacent, pieces.stop] at ordered'
  dsimp only [EpisodeWindow.interval]
  rw [pieces.start, pieces.adjacent, pieces.stop]
  exact cut e.windowStart first.windowEnd e.windowEnd ordered ordered'

theorem Rearranged.points {xs ys : List EpisodeWindow} (same : Rearranged xs ys) :
    points xs = points ys := by
  induction same with
  | perm perm => exact points_perm perm
  | split before after pieces =>
    ext ⟨g, x⟩
    rw [mem_points, mem_points, mem_covers, mem_covers]
    simp only [List.mem_append, List.mem_cons, or_and_right, exists_or, exists_eq_left,
      pieces.firstGroup, pieces.secondGroup]
    rw [pieces.interval x, and_or_left, or_assoc]
  | trans _ _ first second => exact first.trans second

theorem Rearranged.isEmpty {xs ys : List EpisodeWindow} (same : Rearranged xs ys) :
    xs.isEmpty = ys.isEmpty := by
  induction same with
  | perm perm => exact perm.isEmpty_eq
  | split before after pieces => cases before <;> rfl
  | trans _ _ first second => exact first.trans second

theorem durations_rearranged {truth truth' predictions predictions' : List EpisodeWindow}
    (truths : Rearranged truth truth') (predicted : Rearranged predictions predictions') :
    durationPrecision truth predictions = durationPrecision truth' predictions' ∧
      durationRecall truth predictions = durationRecall truth' predictions' := by
  simp only [durationPrecision, durationRecall, sumSeconds_eq, intersectionSeconds_eq,
    truths.points, predicted.points, truths.isEmpty, predicted.isEmpty, and_self]

theorem durationPrecision_bounds (truth predictions : List EpisodeWindow) :
    0 ≤ durationPrecision truth predictions ∧ durationPrecision truth predictions ≤ 1 := by
  rw [durationPrecision, sumSeconds_eq, intersectionSeconds_eq]
  exact metric_bounds (secondsHom_nonneg _)
    (secondsHom_mono (Finset.card_le_card Finset.inter_subset_right)) _

theorem durationRecall_bounds (truth predictions : List EpisodeWindow) :
    0 ≤ durationRecall truth predictions ∧ durationRecall truth predictions ≤ 1 := by
  rw [durationRecall, sumSeconds_eq, intersectionSeconds_eq]
  exact metric_bounds (secondsHom_nonneg _)
    (secondsHom_mono (Finset.card_le_card Finset.inter_subset_left)) _

def truthWindows (truth : List LabEpisode) : List EpisodeWindow := truth.map (·.toEpisodeWindow)

def predictionWindows (predictions : List PredictedEpisode) : List EpisodeWindow :=
  predictions.map (·.toEpisodeWindow)

theorem evaluateEpisodes_ok {h : Host} {truth : List LabEpisode}
    {predictions : List PredictedEpisode} {threshold : ℚ} {r : EpisodeEvaluation}
    (evaluated : evaluateEpisodes h truth predictions threshold = .ok r) :
    ∃ candidates, candidateMatches (sortedTruth truth) (sortedPredictions predictions) threshold =
      .ok candidates ∧
      r = evaluationReport h truth predictions threshold (episodeMatches candidates) := by
  obtain ⟨_, evaluated⟩ := Checks.seq_ok.mp evaluated
  obtain ⟨_, evaluated⟩ := Checks.seq_ok.mp evaluated
  obtain ⟨_, evaluated⟩ := Checks.seq_ok.mp evaluated
  obtain ⟨_, evaluated⟩ := Checks.seq_ok.mp evaluated
  obtain ⟨candidates, enumerated, same⟩ := Checks.bind_ok.mp evaluated
  exact ⟨candidates, enumerated, (Except.ok.inj same).symm⟩

theorem reported_durations {h : Host} {truth : List LabEpisode}
    {predictions : List PredictedEpisode} {threshold : ℚ} {r : EpisodeEvaluation}
    (evaluated : evaluateEpisodes h truth predictions threshold = .ok r) :
    r.durationPrecision =
        rounded (durationPrecision (truthWindows truth) (predictionWindows predictions)) ∧
      r.durationRecall =
        rounded (durationRecall (truthWindows truth) (predictionWindows predictions)) := by
  obtain ⟨_, _, rfl⟩ := evaluateEpisodes_ok evaluated
  exact ⟨rfl, rfl⟩

/-! A predicted episode of ten seconds, whole and in two pieces. -/
namespace Cut

def window (start stop : Int) (ordered : start ≤ stop) : EpisodeWindow :=
  { resourceId := "lab:lte:cell:1", windowStart := 1000000 * start, windowEnd := 1000000 * stop,
    ordered := Int.mul_le_mul_of_nonneg_left ordered (by decide) }

def labels : List LabEpisode := [⟨window 0 9 (by decide), "labtruth-1"⟩]

def whole : List PredictedEpisode := [⟨window 0 9 (by decide), "labpred-1"⟩]

def pieces : List PredictedEpisode :=
  [⟨window 0 4 (by decide), "labpred-2"⟩, ⟨window 5 9 (by decide), "labpred-3"⟩]

theorem evaluated (found : List PredictedEpisode) (listed : found = whole ∨ found = pieces) :
    ∃ r, evaluateEpisodes Host.ascii labels found 1 = .ok r := by
  have accepted : (evaluateEpisodes Host.ascii labels whole 1).toOption.isSome = true ∧
      (evaluateEpisodes Host.ascii labels pieces 1).toOption.isSome = true := by decide
  have some' : (evaluateEpisodes Host.ascii labels found 1).toOption.isSome = true := by
    rcases listed with rfl | rfl
    · exact accepted.1
    · exact accepted.2
  cases outcome : evaluateEpisodes Host.ascii labels found 1 with
  | error e => rw [outcome] at some'; cases some'
  | ok r => exact ⟨r, rfl⟩

end Cut

end NetworkAgent.Lab
