import Mathlib.Algebra.Ring.Rat
import Mathlib.Data.List.SplitBy
import NetworkAgent.Library.Sorting
import NetworkAgent.Local.Scan

/-! The episodes of a scan partition what violates a rule, and what a scan finds does not
depend on the order of the telemetry rows. -/
namespace NetworkAgent.Local
open Rca (RcaRule)
open Sorting (IsOrder byKey listLe)

/-! The orders of the detector. -/

theorem observationLe_iff {a b : KpiObservation} : observationLe a b = true ↔
    a.observedAt < b.observedAt ∨
      a.observedAt = b.observedAt ∧ textLe a.observationId.text b.observationId.text = true := by
  simp [observationLe]

theorem observationLe_total (a b : KpiObservation) :
    observationLe a b = true ∨ observationLe b a = true := by
  simp only [observationLe_iff]
  rcases Int.lt_trichotomy a.observedAt b.observedAt with less | same | more
  · exact .inl (.inl less)
  · exact (textLe_total _ _).imp (fun le => .inr ⟨same, le⟩) (fun le => .inr ⟨same.symm, le⟩)
  · exact .inr (.inl more)

theorem observationLe_trans (a b c : KpiObservation) (first : observationLe a b = true)
    (second : observationLe b c = true) : observationLe a c = true := by
  simp only [observationLe_iff] at first second ⊢
  rcases first with less | ⟨same, le⟩
  · exact .inl (lt_of_lt_of_le less (second.elim le_of_lt fun both => le_of_eq both.1))
  · rcases second with less' | ⟨same', le'⟩
    · exact .inl (lt_of_eq_of_lt same less')
    · exact .inr ⟨same.trans same', textLe_trans le le'⟩

theorem observedAt_le {a b : KpiObservation} (le : observationLe a b = true) :
    a.observedAt ≤ b.observedAt := by
  exact (observationLe_iff.mp le).elim le_of_lt fun both => le_of_eq both.1

theorem observationId_eq {a b : KpiObservation} (first : observationLe a b = true)
    (second : observationLe b a = true) : a.observationId.text = b.observationId.text := by
  rcases observationLe_iff.mp first with less | ⟨_, le⟩
  · exact absurd (observedAt_le second) (not_le_of_gt less)
  · rcases observationLe_iff.mp second with less | ⟨_, le'⟩
    · exact absurd (observedAt_le first) (not_le_of_gt less)
    · exact textLe_antisymm le le'

theorem isOrder_pair : IsOrder pairLe := by
  have same : pairLe = Sorting.textPairLe := by
    funext a b
    rw [Bool.eq_iff_iff, Sorting.textPairLe, Sorting.byKey_iff]
    simp [pairLe]
  exact same ▸ Sorting.isOrder_textPair

theorem identityLe_eq : identityLe = listLe pairLe := by
  funext as bs
  induction as generalizing bs with
  | nil => rfl
  | cons a as ih =>
    cases bs with
    | nil => rfl
    | cons b bs =>
      rw [Bool.eq_iff_iff, Sorting.listLe_cons, ← ih]
      simp [identityLe]

theorem isOrder_identity : IsOrder identityLe := identityLe_eq ▸ isOrder_pair.list

def evidenceKey (e : EvidenceReference) : String × String := (e.evidenceType.value, e.evidenceId.text)

theorem evidenceLe_eq : evidenceLe =
    byKey pairLe evidenceKey fun a b => textLe a.uri.text b.uri.text := by
  funext a b
  have refl (k : String × String) : pairLe k k = true := (isOrder_pair.total k k).elim id id
  rw [Bool.eq_iff_iff, Sorting.byKey_iff]
  by_cases same : evidenceKey a = evidenceKey b
  · have le : pairLe (evidenceKey a) (evidenceKey b) = true := same ▸ refl (evidenceKey a)
    simp only [evidenceKey] at same le ⊢
    simp [evidenceLe, same, refl]
  · simp only [evidenceKey] at same ⊢
    simp [evidenceLe, same]

theorem evidenceLe_total (a b : EvidenceReference) :
    evidenceLe a b = true ∨ evidenceLe b a = true := by
  rw [evidenceLe_eq]
  exact Sorting.byKey_total isOrder_pair (fun a b => textLe_total a.uri.text b.uri.text) a b

theorem evidenceLe_trans (a b c : EvidenceReference) (first : evidenceLe a b = true)
    (second : evidenceLe b c = true) : evidenceLe a c = true := by
  rw [evidenceLe_eq] at first second ⊢
  exact Sorting.byKey_trans isOrder_pair
    (fun a b c => textLe_trans (a := a.uri.text) (b := b.uri.text) (c := c.uri.text)) a b c
    first second

theorem evidenceId_eq {a b : EvidenceReference} (first : evidenceLe a b = true)
    (second : evidenceLe b a = true) : a.evidenceId.text = b.evidenceId.text := by
  rw [evidenceLe_eq] at first second
  have same := (Sorting.byKey_antisymm isOrder_pair first second).1
  exact congrArg Prod.snd same

/-! Splitting at the gaps. -/

def near (gap : Int) (a b : KpiObservation) : Bool := !decide (gap < b.observedAt - a.observedAt)

theorem splitEpisodes_loop (gap : Int) (rest : List KpiObservation) (previous : KpiObservation)
    (current : List KpiObservation) (found : List (List KpiObservation)) :
    found.reverse ++ splitEpisodes gap (current.reverse ++ [previous]) previous rest =
      List.splitBy.loop (near gap) rest previous current found := by
  induction rest generalizing previous current found with
  | nil => simp [splitEpisodes, List.splitBy.loop]
  | cons o rest ih =>
    rw [splitEpisodes, List.splitBy.loop]
    by_cases long : gap < o.observedAt - previous.observedAt
    · have cut : near gap previous o = false := by simp [near, long]
      have next := ih o [] ((current.reverse ++ [previous]) :: found)
      simp only [List.reverse_cons, List.reverse_nil, List.nil_append, List.append_assoc,
        List.singleton_append] at next
      rw [if_pos long, cut, next]
      simp
    · have kept : near gap previous o = true := by simp [near, long]
      have next := ih o (previous :: current) found
      simp only [List.reverse_cons, List.append_assoc] at next
      rw [if_neg long, kept, ← next, List.append_assoc]

theorem episodes_eq (observations : List KpiObservation) (maxGapMinutes : Nat) :
    episodes observations maxGapMinutes =
      (observations.insertionSort fun a b => observationLe a b).splitBy
        (near (60000000 * maxGapMinutes)) := by
  rw [episodes]
  cases observations.insertionSort fun a b => observationLe a b with
  | nil => rfl
  | cons o rest => exact splitEpisodes_loop (60000000 * maxGapMinutes) rest o [] []

structure Partitions (gap : Int) (observations : List KpiObservation)
    (found : List (List KpiObservation)) : Prop where
  joined : found.flatten = observations.insertionSort fun a b => observationLe a b
  kept : found.flatten.Perm observations
  ordered : found.flatten.Pairwise fun a b => observationLe a b = true
  inhabited : ∀ e ∈ found, e ≠ []
  near : ∀ e ∈ found, e.IsChain fun a b => b.observedAt - a.observedAt ≤ gap
  apart : found.IsChain fun e e' => ∀ a ∈ e.getLast?, ∀ b ∈ e'.head?,
    gap < b.observedAt - a.observedAt

theorem episodes_partition (observations : List KpiObservation) (maxGapMinutes : Nat) :
    Partitions (60000000 * maxGapMinutes) observations (episodes observations maxGapMinutes) := by
  have total : Std.Total (fun a b => observationLe a b = true) := ⟨observationLe_total⟩
  have trans : IsTrans KpiObservation (fun a b => observationLe a b = true) := ⟨observationLe_trans⟩
  rw [episodes_eq]
  refine ⟨List.flatten_splitBy _ _, ?_, ?_, ?_, ?_, ?_⟩
  · rw [List.flatten_splitBy]
    exact List.perm_insertionSort _ _
  · rw [List.flatten_splitBy]
    exact List.pairwise_insertionSort _ _
  · exact fun e member => List.ne_nil_of_mem_splitBy member
  · intro e member
    refine (List.isChain_of_mem_splitBy member).imp fun a b close => ?_
    simpa [Local.near] using close
  · refine (List.isChain_getLast_head_splitBy _ _).imp ?_
    rintro e e' ⟨some', some'', far⟩ a last b first
    rw [List.getLast?_eq_some_getLast some'] at last
    rw [List.head?_eq_some_head some''] at first
    cases last
    cases first
    simpa [Local.near] using far

instance : Std.Refl fun a b : KpiObservation => a.observedAt ≤ b.observedAt := ⟨fun _ => le_refl _⟩

/-! Observations of one time are in one episode, which holds each identifier once. -/

theorem times_apart {gap : Int} (positive : 0 ≤ gap) {found : List (List KpiObservation)}
    (ordered : found.flatten.Pairwise fun a b => observationLe a b = true)
    (inhabited : ∀ e ∈ found, e ≠ [])
    (apart : found.IsChain fun e e' => ∀ a ∈ e.getLast?, ∀ b ∈ e'.head?,
      gap < b.observedAt - a.observedAt) :
    found.Pairwise fun e e' => ∀ a ∈ e, ∀ b ∈ e', a.observedAt < b.observedAt := by
  induction found with
  | nil => exact .nil
  | cons e rest ih =>
    rw [List.flatten_cons, List.pairwise_append] at ordered
    obtain ⟨inside, later, _⟩ := ordered
    refine .cons ?_ (ih later (fun e' member => inhabited e' (List.mem_cons_of_mem _ member))
      apart.tail)
    intro e' member a first b second
    cases rest with
    | nil => cases member
    | cons next more =>
      have far := (List.isChain_cons_cons.mp apart).1 _ (List.getLast?_eq_some_getLast (inhabited e (.head _))) _
        (List.head?_eq_some_head (inhabited next (.tail _ (.head _))))
      have before : a.observedAt ≤ (e.getLast (inhabited e (.head _))).observedAt :=
        (inside.imp observedAt_le).rel_getLast first
      have reached : b ∈ (next :: more).flatten := List.mem_flatten.mpr ⟨e', member, second⟩
      have after : (next.head (inhabited next (.tail _ (.head _)))).observedAt ≤ b.observedAt := by
        have start := (later.imp observedAt_le).rel_head reached
        simpa [List.head_append_of_ne_nil (inhabited next (.tail _ (.head _)))] using start
      have between := Int.lt_of_sub_pos (lt_of_le_of_lt positive far)
      exact lt_of_le_of_lt before (lt_of_lt_of_le between after)

def Distinct (e : List KpiObservation) : Prop := (e.map (·.observationId)).Nodup

theorem observations_apart {observations : List KpiObservation} {maxGapMinutes : Nat}
    (distinct : ∀ e ∈ episodes observations maxGapMinutes, Distinct e) :
    ∀ a ∈ observations, ∀ b ∈ observations, observationLe a b = true → observationLe b a = true →
      a = b := by
  intro a first b second le le'
  have split := episodes_partition observations maxGapMinutes
  have apart := times_apart (by omega) split.ordered split.inhabited split.apart
  obtain ⟨e, member, inside⟩ := List.mem_flatten.mp (split.kept.mem_iff.mpr first)
  obtain ⟨e', member', inside'⟩ := List.mem_flatten.mp (split.kept.mem_iff.mpr second)
  have together : a.observedAt = b.observedAt := le_antisymm (observedAt_le le) (observedAt_le le')
  have one : e = e' := by
    by_contra differ
    have symm : Std.Symm fun e e' : List KpiObservation =>
        ∀ a ∈ e, ∀ b ∈ e', a.observedAt ≠ b.observedAt :=
      ⟨fun _ _ unequal b second a first same => unequal a first b second same.symm⟩
    have unequal := (apart.imp fun before a first b second => ne_of_lt (before a first b second))
    exact unequal.forall member member' differ a inside b inside' together
  subst one
  exact List.inj_on_of_nodup_map (distinct e member) inside inside'
    (Text.Bounded.ext (observationId_eq le le'))

theorem episodes_of_perm {observations observations' : List KpiObservation} {maxGapMinutes : Nat}
    (distinct : ∀ e ∈ episodes observations maxGapMinutes, Distinct e)
    (perm : observations.Perm observations') :
    episodes observations' maxGapMinutes = episodes observations maxGapMinutes := by
  rw [episodes_eq, episodes_eq, Sorting.insertionSort_eq_of_perm observationLe_total
    observationLe_trans (observations_apart distinct) perm]

/-! Reading the rows in another order. -/

theorem matching_ok {rule : RcaRule} {observations matched : List KpiObservation} :
    matching rule observations = .ok matched ↔
      (∀ o ∈ observations, ∃ kept, validateRuleObservation rule o = .ok kept) ∧
        matched = observations.filter fun o =>
          (validateRuleObservation rule o).toOption.getD false := by
  induction observations generalizing matched with
  | nil => simp [matching, eq_comm]
  | cons o rest ih =>
    rw [matching, Checks.bind_ok]
    cases checked : validateRuleObservation rule o with
    | error e => simp [checked]
    | ok kept =>
      simp only [Except.ok.injEq, Checks.bind_ok, ih, pure, Except.pure, List.forall_mem_cons,
        exists_eq_left', List.filter_cons, checked, Except.toOption, Option.getD_some,
        exists_eq', true_and]
      cases kept <;> simp [eq_comm]

theorem matching_of_perm {rule : RcaRule} {observations observations' matched : List KpiObservation}
    (perm : observations.Perm observations') (found : matching rule observations = .ok matched) :
    ∃ matched', matching rule observations' = .ok matched' ∧ matched.Perm matched' := by
  obtain ⟨valid, rfl⟩ := matching_ok.mp found
  exact ⟨_, matching_ok.mpr ⟨fun o member => valid o (perm.mem_iff.mpr member), rfl⟩,
    perm.filter _⟩

theorem ruleEpisodes_of_perm {rule : RcaRule} {matched matched' : List KpiObservation}
    (distinct : ∀ e ∈ ruleEpisodes rule matched, Distinct e) (perm : matched.Perm matched') :
    ruleEpisodes rule matched' = ruleEpisodes rule matched := by
  have names := (perm.map fun o => resourceIdentity o.resources).dedup
  have same := Sorting.insertionSort_eq_of_perm isOrder_identity.total isOrder_identity.trans
    (fun a _ b _ => isOrder_identity.antisymm a b) names
  rw [ruleEpisodes, ruleEpisodes, ← same]
  refine List.flatMap_congr fun identity member => ?_
  refine episodes_of_perm (fun e inside => ?_) (perm.filter _)
  exact distinct e (List.mem_flatMap.mpr ⟨identity, member, inside⟩)

theorem addEpisodes_ok {rule : RcaRule} {found : List (List KpiObservation)}
    {specs out : List EpisodeSpec} (added : addEpisodes rule found specs = .ok out) :
    out = specs ++ found.map (rule, ·) := by
  induction found generalizing specs with
  | nil => cases added; simp
  | cons e rest ih =>
    obtain ⟨_, added⟩ := Checks.seq_ok.mp added
    obtain ⟨_, added⟩ := Checks.seq_ok.mp added
    rw [ih added]
    simp

theorem episodeSpecs_extends {observations : List KpiObservation} {rules : List RcaRule}
    {specs out : List EpisodeSpec} (found : episodeSpecs observations rules specs = .ok out) :
    specs ⊆ out := by
  induction rules generalizing specs with
  | nil => cases found; exact List.Subset.refl _
  | cons rule rest ih =>
    obtain ⟨matched, _, found⟩ := Checks.bind_ok.mp found
    obtain ⟨more, added, found⟩ := Checks.bind_ok.mp found
    rw [addEpisodes_ok added] at found
    exact List.Subset.trans (List.subset_append_left _ _) (ih found)

theorem episodeSpecs_of_perm {observations observations' : List KpiObservation}
    (perm : observations.Perm observations') {rules : List RcaRule} {specs out : List EpisodeSpec}
    (distinct : ∀ spec ∈ out, Distinct spec.2)
    (found : episodeSpecs observations rules specs = .ok out) :
    episodeSpecs observations' rules specs = .ok out := by
  induction rules generalizing specs with
  | nil => exact found
  | cons rule rest ih =>
    obtain ⟨matched, violating, found⟩ := Checks.bind_ok.mp found
    obtain ⟨more, added, found⟩ := Checks.bind_ok.mp found
    obtain ⟨matched', violating', same⟩ := matching_of_perm perm violating
    refine Checks.bind_ok.mpr ⟨matched', violating', Checks.bind_ok.mpr ⟨more, ?_, ih found⟩⟩
    rw [ruleEpisodes_of_perm (fun e member => ?_) same]
    · exact added
    · have present : (rule, e) ∈ more := by
        rw [addEpisodes_ok added]
        exact List.mem_append_right _ (List.mem_map_of_mem member)
      exact distinct _ (episodeSpecs_extends found present)

/-! What accepted candidates say about their episodes and their evidence. -/

theorem episodeIncident_aggregate {h : Host} {rule : RcaRule} {resources : List ResourceReference}
    {start stop : Instant} {episode : List KpiObservation} {violation : KpiViolation}
    {traceId : Identifier} {incidentId : String} {evidence : List EvidenceReference} {i : Incident}
    (made : episodeIncident h rule resources start stop episode violation traceId incidentId
      evidence = .ok i) :
    Distinct episode ∧ (evidence.map (·.evidenceId)).Nodup := by
  obtain ⟨_, _, made⟩ := Checks.bind_ok.mp made
  obtain ⟨_, _, made⟩ := Checks.bind_ok.mp made
  obtain ⟨valid, _⟩ := Checks.seq_ok.mp made
  obtain ⟨_, _, _, _, _, _, _, _, aggregate⟩ := Incident.valid_iff.mp (validated_ok.mp valid)
  exact ⟨aggregate.sourceEventIds, aggregate.evidenceIds⟩

/-- An answer that lists the same elements, or fails in the same way. -/
inductive Permuted {ε α : Type} : Except ε (List α) → Except ε (List α) → Prop where
  | ok {as bs : List α} (perm : as.Perm bs) : Permuted (.ok as) (.ok bs)
  | error (e : ε) : Permuted (.error e) (.error e)

theorem Permuted.symm {ε α : Type} {x y : Except ε (List α)} (same : Permuted x y) :
    Permuted y x := by
  cases same with
  | ok perm => exact .ok perm.symm
  | error e => exact .error e

theorem Permuted.of_ok {ε α : Type} {x y : Except ε (List α)} {as : List α} (same : Permuted x y)
    (answered : x = .ok as) : ∃ bs, y = .ok bs ∧ as.Perm bs := by
  cases same with
  | ok perm =>
    cases answered
    exact ⟨_, rfl, perm⟩
  | error e => cases answered

/-- Ports that answer with the same rows, in whatever order. -/
structure Reordered (ports ports' : Ports) : Prop where
  rules : ports'.rules = ports.rules
  observations : ∀ kpiNames window resourceIds,
    Permuted (ports.queryKpis kpiNames window resourceIds)
      (ports'.queryKpis kpiNames window resourceIds)
  evidence : ∀ i, Permuted (ports.collectEvidence i) (ports'.collectEvidence i)
  mean : ports'.mean = ports.mean

section
variable {h : Host} {ports ports' : Ports} {traceId : Identifier} {workflowId : String}

theorem Reordered.symm (same : Reordered ports ports') : Reordered ports' ports :=
  ⟨same.rules.symm, fun names window ids => (same.observations names window ids).symm,
    fun i => (same.evidence i).symm, same.mean.symm⟩

theorem episodeViolation_mean (same : ports'.mean = ports.mean) {rule : RcaRule}
    {resources : List ResourceReference} {start stop : Instant} {episode : List KpiObservation} :
    episodeViolation h ports' rule resources start stop episode =
      episodeViolation h ports rule resources start stop episode := by
  unfold episodeViolation
  rw [same]

theorem triggerForEpisode_distinct {rule : RcaRule} {episode : List KpiObservation}
    {first last : KpiObservation} {t : IncidentTrigger}
    (made : triggerForEpisode h ports rule episode first last traceId workflowId = .ok t) :
    Distinct episode := by
  obtain ⟨_, _, made⟩ := Checks.bind_ok.mp made
  obtain ⟨_, previewed, _⟩ := Checks.bind_ok.mp made
  exact (episodeIncident_aggregate previewed).1

theorem triggerForEpisode_reordered (same : Reordered ports ports') {rule : RcaRule}
    {episode : List KpiObservation} {first last : KpiObservation} {t : IncidentTrigger}
    (made : triggerForEpisode h ports rule episode first last traceId workflowId = .ok t) :
    triggerForEpisode h ports' rule episode first last traceId workflowId = .ok t := by
  simp only [triggerForEpisode, Checks.bind_ok, pure, Except.pure, Except.ok.injEq] at made ⊢
  obtain ⟨violation, violated, preview, previewed, evidence, collected, incident, built, rest⟩ := made
  obtain ⟨evidence', collected', perm⟩ := (same.evidence preview).of_ok collected
  have ids := (episodeIncident_aggregate built).2
  have unique := (((List.perm_insertionSort _ evidence).map (·.evidenceId)).nodup_iff).mp ids
  have sorted : (evidence.insertionSort fun a b => evidenceLe a b) =
      evidence'.insertionSort fun a b => evidenceLe a b :=
    Sorting.insertionSort_eq_of_perm evidenceLe_total evidenceLe_trans
      (fun a first b second le le' => List.inj_on_of_nodup_map unique first second
        (Text.Bounded.ext (evidenceId_eq le le'))) perm
  rw [sorted] at built
  exact ⟨violation, (episodeViolation_mean same.mean).trans violated, preview, previewed, evidence',
    collected', incident, built, rest⟩

theorem triggers_distinct {specs : List EpisodeSpec} {found : List IncidentTrigger}
    (made : triggers h ports traceId workflowId specs = .ok found) :
    ∀ spec ∈ specs, Distinct spec.2 := by
  induction specs generalizing found with
  | nil => simp
  | cons spec specs ih =>
    obtain ⟨rule, episode⟩ := spec
    rw [List.forall_mem_cons]
    cases head : episode.head? with
    | none =>
      simp only [triggers, head] at made
      rw [List.head?_eq_none_iff.mp head]
      exact ⟨List.nodup_nil, ih made⟩
    | some first =>
      obtain ⟨last, final⟩ : ∃ last, episode.getLast? = some last := by
        cases episode with
        | nil => cases head
        | cons o rest => exact ⟨_, List.getLast?_eq_some_getLast (List.cons_ne_nil o rest)⟩
      obtain ⟨t, trigger, rest, more, _⟩ := (triggers_cons_ok ⟨head, final⟩).mp made
      exact ⟨triggerForEpisode_distinct trigger, ih more⟩

theorem triggers_reordered (same : Reordered ports ports') {specs : List EpisodeSpec}
    {found : List IncidentTrigger}
    (made : triggers h ports traceId workflowId specs = .ok found) :
    triggers h ports' traceId workflowId specs = .ok found := by
  induction specs generalizing found with
  | nil => exact made
  | cons spec specs ih =>
    obtain ⟨rule, episode⟩ := spec
    cases head : episode.head? with
    | none => simp only [triggers, head] at made ⊢; exact ih made
    | some first =>
      cases final : episode.getLast? with
      | none => simp only [triggers, head, final] at made ⊢; exact ih made
      | some last =>
        obtain ⟨t, trigger, rest, more, rfl⟩ := (triggers_cons_ok ⟨head, final⟩).mp made
        exact (triggers_cons_ok ⟨head, final⟩).mpr
          ⟨t, triggerForEpisode_reordered same trigger, rest, ih more, rfl⟩

theorem scan_reordered (same : Reordered ports ports') {traceId workflowId : String}
    {scope : ScanScope} {found : List IncidentTrigger}
    (scanned : scan h ports traceId workflowId scope = .ok found) :
    scan h ports' traceId workflowId scope = .ok found := by
  unfold scan at scanned ⊢
  obtain ⟨trace, normal, scanned⟩ := Checks.bind_ok.mp scanned
  obtain ⟨independent, scanned⟩ := Checks.seq_ok.mp scanned
  obtain ⟨⟨window, resourceIds⟩, bounded, scanned⟩ := Checks.bind_ok.mp scanned
  obtain ⟨rules, loaded, scanned⟩ := Checks.bind_ok.mp scanned
  obtain ⟨few, scanned⟩ := Checks.seq_ok.mp scanned
  refine Checks.bind_ok.mpr ⟨trace, normal, Checks.seq_ok.mpr ⟨independent, ?_⟩⟩
  refine Checks.bind_ok.mpr ⟨(window, resourceIds), bounded, ?_⟩
  refine Checks.bind_ok.mpr ⟨rules, same.rules.trans loaded, Checks.seq_ok.mpr ⟨few, ?_⟩⟩
  dsimp only at scanned ⊢
  split at scanned
  · next empty => rwa [if_pos empty]
  · next some' =>
    rw [if_neg some']
    obtain ⟨observations, queried, scanned⟩ := Checks.bind_ok.mp scanned
    obtain ⟨complete, scanned⟩ := Checks.seq_ok.mp scanned
    obtain ⟨specs, collected, scanned⟩ := Checks.bind_ok.mp scanned
    obtain ⟨trace', parsed, scanned⟩ := Checks.bind_ok.mp scanned
    obtain ⟨ts, made, answered⟩ := Checks.bind_ok.mp scanned
    obtain ⟨observations', queried', perm⟩ := (same.observations _ _ _).of_ok queried
    have collected' := episodeSpecs_of_perm perm (triggers_distinct made) collected
    refine Checks.bind_ok.mpr ⟨observations', queried', Checks.seq_ok.mpr ⟨?_, ?_⟩⟩
    · rwa [← perm.length_eq]
    · exact Checks.bind_ok.mpr ⟨specs, collected', Checks.bind_ok.mpr ⟨trace', parsed,
        Checks.bind_ok.mpr ⟨ts, triggers_reordered same made, answered⟩⟩⟩

end

/-- The episodes partition the observations at the long gaps, and a scan of the same rows finds
the same candidates in whatever order the rows come. -/
theorem scan_ignores_row_order (h : Host) :
    (∀ observations (maxGapMinutes : Nat), Partitions (60000000 * maxGapMinutes) observations
      (episodes observations maxGapMinutes)) ∧
    ∀ (ports ports' : Ports), Reordered ports ports' →
      ∀ (traceId workflowId : String) (scope : ScanScope) (found : List IncidentTrigger),
        scan h ports traceId workflowId scope = .ok found ↔
          scan h ports' traceId workflowId scope = .ok found :=
  ⟨episodes_partition, fun _ _ same _ _ _ _ =>
    ⟨scan_reordered same, scan_reordered same.symm⟩⟩

/-! Two healthy samples that are an hour apart, in either order. -/
namespace Swapped

def rule : RcaRule where
  ruleId := "lte.access"
  version := "1.0.0"
  technology := .lte
  isCurrent := true
  descriptionZh := "access"
  detection := { kpiName := "access", comparator := .lessThan, threshold := 1, maxGapMinutes := 15 }
  analysis := {
    evidenceTypes := [.metric]
    when' := { predicates := [⟨"f", .equal, .bool true⟩] }
    hypothesisZh := "h"
    rootCauseZh := "c" }
  severity := { default := .low }

def observation (id : Identifier) (at' : Instant) : KpiObservation where
  observationId := id
  kpiName := .ofText "access" fits_access
  observedValue := 2
  observedAt := at'
  resources := []

def early : KpiObservation := observation (.ofText "o1" fits_o1) 0

def late : KpiObservation := observation (.ofText "o2" (by decide)) 3600000000

def ports (rows : List KpiObservation) : Ports where
  rules := .ok [rule]
  queryKpis _ _ _ := .ok rows
  collectEvidence _ := .ok []
  mean values := values.sum / values.length

theorem reordered : Reordered (ports [late, early]) (ports [early, late]) where
  rules := rfl
  observations _ _ _ := .ok (.swap early late [])
  evidence _ := .ok (.refl [])
  mean := rfl

end Swapped

theorem scan_ignores_row_order_swapped :
    Partitions (60000000 * 15) [Swapped.late, Swapped.early] [[Swapped.early], [Swapped.late]] ∧
      scan Host.ascii (Swapped.ports [Swapped.early, Swapped.late]) "t" "w" {} = .ok [] := by
  have split : episodes [Swapped.late, Swapped.early] 15 = [[Swapped.early], [Swapped.late]] := by
    decide
  have scanned : scan Host.ascii (Swapped.ports [Swapped.late, Swapped.early]) "t" "w" {} =
      .ok [] := by
    have counted : (scan Host.ascii (Swapped.ports [Swapped.late, Swapped.early]) "t" "w"
        {}).toOption.map List.length = some 0 := by decide
    cases scanned : scan Host.ascii (Swapped.ports [Swapped.late, Swapped.early]) "t" "w" {} with
    | error e => rw [scanned] at counted; cases counted
    | ok found =>
      rw [scanned] at counted
      rw [List.length_eq_zero_iff.mp (Option.some.inj counted)]
  have results := scan_ignores_row_order Host.ascii
  refine ⟨split ▸ results.1 [Swapped.late, Swapped.early] 15, ?_⟩
  exact (results.2 _ _ Swapped.reordered "t" "w" {} []).mp scanned

end NetworkAgent.Local
