import NetworkAgent.Rca.RuleIndex

/-! When a resolution is exact. Every issue is found from the incident and the index alone, so
the order of the available rules does not matter. -/
namespace NetworkAgent.Rca

/-! The issues and the rules of a resolution. -/

theorem violationDrafts_mem {h : Host} {i : Incident} {x : RuleIndex} {d : Draft} :
    d ∈ violationDrafts h i x ↔ ∃ p ∈ i.violatedKpis.zipIdx, ∃ code,
      classify h i x p.1 = .error code ∧
        d = ⟨p.2, code, p.1.ruleId.map (·.text), p.1.ruleVersion.map (·.text)⟩ := by
  simp only [violationDrafts, List.mem_filterMap]
  refine exists_congr fun p => and_congr_right fun _ => ?_
  cases classify h i x p.1 with
  | ok rule => simp
  | error code => simp [eq_comm]

theorem versionDrafts_mem {i : Incident} {d : Draft} :
    d ∈ versionDrafts i ↔ ∃ p ∈ (i.ruleVersions.insertionSort fun a b => textLe a.1 b.1).zipIdx
      i.violatedKpis.length, p.1.1 ∉ referencedRuleIds i ∧
        d = ⟨p.2, .unreferencedIncidentRule, some p.1.1, some p.1.2⟩ := by
  simp only [versionDrafts, List.mem_filterMap]
  refine exists_congr fun p => and_congr_right fun _ => ?_
  by_cases referenced : p.1.1 ∈ referencedRuleIds i
  · simp [referenced]
  · simp [referenced, eq_comm]

theorem hashDrafts_mem {i : Incident} {d : Draft} :
    d ∈ hashDrafts i ↔ ∃ p ∈ (((hashKeys i).dedup.filter (· ∉ claimedRuleIds i)).insertionSort
      fun a b => textLe a b).zipIdx (i.violatedKpis.length + i.ruleVersions.length),
        d = ⟨p.2, .unreferencedRuleContentHash, some p.1, versionOf i p.1⟩ := by
  simp only [hashDrafts, List.mem_map]
  exact exists_congr fun p => and_congr_right fun _ => eq_comm

theorem forall_mem_zipIdx {α : Type} {P : α → Prop} (xs : List α) (n : Nat) :
    (∀ p ∈ xs.zipIdx n, P p.1) ↔ ∀ a ∈ xs, P a := by
  conv_rhs => rw [← List.zipIdx_map_fst n xs]
  rw [List.forall_mem_map]

theorem drafts_eq_nil {h : Host} {i : Incident} {x : RuleIndex} :
    drafts h i x = [] ↔ (∀ v ∈ i.violatedKpis, ∃ rule, classify h i x v = .ok rule) ∧
      (∀ f ∈ i.ruleVersions, f.1 ∈ referencedRuleIds i) ∧
      ∀ key ∈ hashKeys i, key ∈ claimedRuleIds i := by
  have none : ∀ ds : List Draft, ds = [] ↔ ∀ d, d ∉ ds := fun ds => List.eq_nil_iff_forall_not_mem
  rw [drafts, List.append_eq_nil_iff, List.append_eq_nil_iff, and_assoc]
  refine and_congr ?_ (and_congr ?_ ?_)
  · rw [← forall_mem_zipIdx i.violatedKpis 0, none]
    constructor
    · intro empty p member
      cases bound : classify h i x p.1 with
      | ok rule => exact ⟨rule, rfl⟩
      | error code =>
        exact absurd (violationDrafts_mem.mpr ⟨p, member, code, bound, rfl⟩) (empty _)
    · rintro every d member
      obtain ⟨p, inside, code, unbound, _⟩ := violationDrafts_mem.mp member
      obtain ⟨rule, bound⟩ := every p inside
      rw [unbound] at bound
      cases bound
  · rw [none]
    have sorted := forall_mem_zipIdx (P := fun f : String × String => f.1 ∈ referencedRuleIds i)
      (i.ruleVersions.insertionSort fun a b => textLe a.1 b.1) i.violatedKpis.length
    simp only [List.mem_insertionSort] at sorted
    rw [← sorted]
    constructor
    · intro empty p member
      by_contra unreferenced
      exact empty _ (versionDrafts_mem.mpr ⟨p, member, unreferenced, rfl⟩)
    · intro every d member
      obtain ⟨p, inside, unreferenced, _⟩ := versionDrafts_mem.mp member
      exact unreferenced (every p inside)
  · rw [none]
    have sorted := forall_mem_zipIdx (P := fun _ => False)
      (((hashKeys i).dedup.filter (· ∉ claimedRuleIds i)).insertionSort fun a b => textLe a b)
      (i.violatedKpis.length + i.ruleVersions.length)
    simp only [List.mem_insertionSort, List.mem_filter, List.mem_dedup, decide_eq_true_eq,
      imp_false, not_and, not_not] at sorted
    rw [← sorted]
    constructor
    · exact fun empty p member => empty _ (hashDrafts_mem.mpr ⟨p, member, rfl⟩)
    · rintro every d member
      obtain ⟨p, inside, _⟩ := hashDrafts_mem.mp member
      exact every p inside

/-! The characterisation. -/

theorem resolve_ok {h : Host} {i : Incident} {rules : List RcaRule} (known : IsApplicable i)
    {resolution : RuleResolution} : resolveRulesForIncident h i rules = .ok resolution ↔
      ∃ issues, (drafts h i (indexRules i rules)).mapM Draft.build = .ok issues ∧
        resolution = {
          status := resolutionStatus i (resolvedRules h i (indexRules i rules))
            (issues.insertionSort fun a b => issueLe a b)
          rules := resolvedRules h i (indexRules i rules)
          issues := issues.insertionSort fun a b => issueLe a b } := by
  simp only [resolveRulesForIncident, not_not.mpr known, if_false, Checks.bind_ok, pure,
    Except.pure, Except.ok.injEq]
  exact exists_congr fun issues => and_congr_right fun _ => eq_comm

theorem resolve_not_applicable {h : Host} {i : Incident} {rules : List RcaRule}
    (other : ¬ IsApplicable i) :
    resolveRulesForIncident h i rules = .ok { status := .notApplicable } := by
  simp [resolveRulesForIncident, other]

theorem resolvedRules_mem {h : Host} {i : Incident} {x : RuleIndex} {rule : RcaRule}
    (member : rule ∈ resolvedRules h i x) :
    ∃ v ∈ i.violatedKpis, classify h i x v = .ok rule := by
  obtain ⟨identity, stored⟩ := Table.mem_values.mp ((List.mem_insertionSort _).mp member)
  unfold resolved at stored
  generalize i.violatedKpis = violations at stored
  induction violations using List.reverseRecOn with
  | nil => cases stored
  | append_singleton before v ih =>
    rw [List.foldl_append, List.foldl_cons, List.foldl_nil] at stored
    have earlier := fun found => (ih found).imp fun w both =>
      And.imp_left (List.mem_append_left [v]) both
    split at stored
    · next known bound =>
      rcases Table.lookup_insert_iff.mp stored with ⟨_, rfl⟩ | ⟨_, found⟩
      · exact ⟨v, by simp, bound⟩
      · exact earlier found
    · exact earlier stored

theorem resolutionStatus_exact {i : Incident} {rules : List RcaRule}
    {issues : List RuleResolutionIssue} :
    resolutionStatus i rules issues = .exact ↔ issues = [] ∧ i.violatedKpis ≠ [] := by
  unfold resolutionStatus
  split_ifs with found some' legacy violations <;> simp_all

structure Exact (h : Host) (i : Incident) (rules : List RcaRule) : Prop where
  applicable : IsApplicable i
  violations : i.violatedKpis ≠ []
  bound : ∀ v ∈ i.violatedKpis, ∃ rule, Bound h i rules v rule
  versions : ∀ f ∈ i.ruleVersions, f.1 ∈ referencedRuleIds i
  hashes : ∀ key ∈ hashKeys i, key ∈ claimedRuleIds i

theorem exact_iff {h : Host} {i : Incident} {rules : List RcaRule} (separated : Separated rules)
    {resolution : RuleResolution} (returned : resolveRulesForIncident h i rules = .ok resolution) :
    resolution.status = .exact ↔ Exact h i rules := by
  by_cases known : IsApplicable i
  · obtain ⟨issues, built, rfl⟩ := (resolve_ok known).mp returned
    have none : (issues.insertionSort fun a b => issueLe a b) = [] ↔
        drafts h i (indexRules i rules) = [] := by
      have size := (List.length_insertionSort (fun a b => issueLe a b = true) issues).trans
        (Checks.mapM_ok.mp built).length_eq.symm
      rw [← List.length_eq_zero_iff, ← List.length_eq_zero_iff, size]
    rw [resolutionStatus_exact, none, drafts_eq_nil]
    simp only [classify_ok (knows_indexRules separated)]
    constructor
    · rintro ⟨⟨bound, versions, hashes⟩, violations⟩
      exact ⟨known, violations, bound, versions, hashes⟩
    · rintro ⟨_, violations, bound, versions, hashes⟩
      exact ⟨⟨bound, versions, hashes⟩, violations⟩
  · rw [resolve_not_applicable known] at returned
    cases returned
    exact iff_of_false nofun fun exact => known exact.applicable

theorem returned_rule {h : Host} {i : Incident} {rules : List RcaRule}
    {resolution : RuleResolution} (returned : resolveRulesForIncident h i rules = .ok resolution)
    {rule : RcaRule} (member : rule ∈ resolution.rules) :
    rule ∈ rules ∧ ∃ v ∈ i.violatedKpis, DetectionMatches rule v := by
  by_cases known : IsApplicable i
  · obtain ⟨issues, _, rfl⟩ := (resolve_ok known).mp returned
    obtain ⟨v, inside, bound⟩ := resolvedRules_mem member
    obtain ⟨available, detection⟩ := classify_sound bound
    exact ⟨available, v, inside, detection⟩
  · rw [resolve_not_applicable known] at returned
    cases returned
    cases member

theorem resolve_perm {h : Host} {i : Incident} {rules rules' : List RcaRule}
    (separated : Separated rules) (perm : rules.Perm rules') :
    resolveRulesForIncident h i rules = resolveRulesForIncident h i rules' := by
  have separated' : Separated rules' := fun a first b second =>
    separated a (perm.mem_iff.mpr first) b (perm.mem_iff.mpr second)
  have lookups := lookupRule_congr (knows_indexRules (i := i) separated)
    (knows_indexRules separated') fun r => (perm.filter _).mem_iff
  have same : classify h i (indexRules i rules) = classify h i (indexRules i rules') := by
    funext v
    unfold classify
    simp only [lookups]
  simp only [resolveRulesForIncident, drafts, violationDrafts, resolvedRules, resolved, same]

/-- A resolution is exact when every violation is bound and nothing is left unreferenced, it
returns rules that were available and match, and it does not depend on their order. -/
theorem resolution_characterised {h : Host} {i : Incident} {rules : List RcaRule}
    (separated : Separated rules) {resolution : RuleResolution}
    (returned : resolveRulesForIncident h i rules = .ok resolution) :
    (resolution.status = .exact ↔ Exact h i rules) ∧
    (∀ rule ∈ resolution.rules, rule ∈ rules ∧ ∃ v ∈ i.violatedKpis, DetectionMatches rule v) ∧
    ∀ rules' : List RcaRule, rules.Perm rules' →
      resolveRulesForIncident h i rules' = .ok resolution :=
  ⟨exact_iff separated returned, fun _ => returned_rule returned,
    fun _ perm => (resolve_perm separated perm).symm.trans returned⟩

/-! An incident of a detector that records no content hashes. -/
namespace Sample

def rule : RcaRule where
  ruleId := "lte.rrc"
  version := "1.0.0"
  technology := .lte
  isCurrent := true
  descriptionZh := "d"
  detection := { kpiName := "rrc", comparator := .lessThan, threshold := 95, maxGapMinutes := 5 }
  analysis :=
    { evidenceTypes := [.metric]
      when' := { predicates := [{ fact := "kpi.rrc", comparator := .lessThan, value := .int 95 }] }
      hypothesisZh := "h"
      rootCauseZh := "r" }
  severity := { default := .high }

def named : Incident where
  incidentId := .ofText "i" fits_i
  technology := .lte
  violatedKpis := [
    { kpiName := .ofText "rrc" fits_rrc
      observedValue := 90
      thresholdValue := 95
      comparator := .lessThan
      ruleId := some (.ofText "lte.rrc" (by decide))
      ruleVersion := some (.ofText "1.0.0" fits_version) }]
  ruleVersions := [("lte.rrc", "1.0.0")]
  detectedAt := 0
  traceId := .ofText "t" fits_t
  createdAt := 0
  updatedAt := 0

theorem resolved_exact : resolveRulesForIncident Host.ascii named [rule] =
    .ok { status := .exact, rules := [rule] } := by decide

theorem rule_separated : Separated [rule] := by
  intro a first b second _ _
  rw [List.mem_singleton.mp first, List.mem_singleton.mp second]

end Sample

theorem resolution_characterised_sample :
    (RuleResolutionStatus.exact = .exact ↔ Exact Host.ascii Sample.named [Sample.rule]) ∧
    (∀ rule ∈ [Sample.rule], rule ∈ [Sample.rule] ∧
      ∃ v ∈ Sample.named.violatedKpis, DetectionMatches rule v) ∧
    ∀ rules' : List RcaRule, [Sample.rule].Perm rules' →
      resolveRulesForIncident Host.ascii Sample.named rules' =
        .ok { status := .exact, rules := [Sample.rule] } :=
  resolution_characterised Sample.rule_separated Sample.resolved_exact

/-- A violation is bound by identifier, version and the content hash that the incident carries. -/
def BoundByHash (h : Host) (i : Incident) (v : KpiViolation) (rule : RcaRule) : Prop :=
  v.ruleId.map (·.text) = some rule.ruleId ∧ v.ruleVersion.map (·.text) = some rule.version ∧
    ∃ hashes text, contentHashes i = .ok hashes ∧
      getValue hashes rule.ruleId = some (.str text) ∧ lower text = (rule.contentSha256 h).text

/-- An incident without content hashes resolves exactly all the same. -/
theorem exact_without_content_hashes : ¬ ∀ (h : Host) (i : Incident) (rules : List RcaRule)
    (resolution : RuleResolution), i.Valid h →
    resolveRulesForIncident h i rules = .ok resolution →
    (resolution.status = .exact ↔ i.violatedKpis ≠ [] ∧
      (∀ v ∈ i.violatedKpis, ∃ rule ∈ rules, BoundByHash h i v rule ∧
        ∀ other ∈ rules, BoundByHash h i v other → other = rule) ∧
      (∀ f ∈ i.ruleVersions, f.1 ∈ referencedRuleIds i) ∧
      ∀ key ∈ hashKeys i, key ∈ claimedRuleIds i) := by
  intro claimed
  obtain ⟨_, bound, _⟩ := (claimed Host.ascii Sample.named [Sample.rule] _ (by decide)
    Sample.resolved_exact).mp rfl
  obtain ⟨rule, _, ⟨_, _, hashes, text, listed, found, _⟩, _⟩ := bound _ List.mem_cons_self
  have empty : contentHashes Sample.named = .ok [] := by rfl
  rw [empty] at listed
  cases listed
  cases found

end NetworkAgent.Rca
