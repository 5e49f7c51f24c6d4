import NetworkAgent.Rca.Exactness

/-! Whether a resolution returns at all: the record of an issue bounds its texts, and the
incident that the issue is about does not. -/
namespace NetworkAgent.Rca

theorem build_isOk {d : Draft} : (∃ issue, d.build = .ok issue) ↔
    Fits 128 d.ruleId ∧ Fits 64 d.ruleVersion := by
  simp [Draft.build, Checks.seq_ok, pure, Except.pure]

/-- The lengths that the records of issues allow, wherever an issue may name a rule. -/
structure Recordable (i : Incident) : Prop where
  violations : ∀ v ∈ i.violatedKpis,
    Fits 128 (v.ruleId.map (·.text)) ∧ Fits 64 (v.ruleVersion.map (·.text))
  versions : ∀ f ∈ i.ruleVersions, f.1 ∉ referencedRuleIds i → Fits 128 (some f.1) ∧ Fits 64 (some f.2)
  hashes : ∀ key ∈ hashKeys i, key ∉ claimedRuleIds i →
    Fits 128 (some key) ∧ Fits 64 (versionOf i key)

theorem fits_of_length {bound : Nat} {s : String} (short : s.length ≤ bound) :
    Fits bound (some s) := by
  rintro _ ⟨⟩
  exact (Text.trim_length_le isWhiteSpace s).trans short

theorem fits_of_matches {rule : RcaRule} (valid : rule.Valid) {v : KpiViolation}
    (detection : DetectionMatches rule v) :
    Fits 128 (v.ruleId.map (·.text)) ∧ Fits 64 (v.ruleVersion.map (·.text)) := by
  obtain ⟨named, versioned, _⟩ := detection
  rw [named, versioned]
  exact ⟨fits_of_length valid.ruleId_short, fits_of_length valid.version.2.2.2⟩

def Draft.Fitting (d : Draft) : Prop := Fits 128 d.ruleId ∧ Fits 64 d.ruleVersion

theorem violationDrafts_fitting {h : Host} {i : Incident} {rules : List AvailableRule} :
    (∀ d ∈ violationDrafts h i (indexRules i (rules.map (·.rule))), d.Fitting) ↔
      ∀ v ∈ i.violatedKpis, Fits 128 (v.ruleId.map (·.text)) ∧
        Fits 64 (v.ruleVersion.map (·.text)) := by
  rw [← forall_mem_zipIdx i.violatedKpis 0]
  constructor
  · intro every p member
    cases bound : classify h i (indexRules i (rules.map (·.rule))) p.1 with
    | ok rule =>
      obtain ⟨available, detection⟩ := classify_sound bound
      obtain ⟨source, _, rfl⟩ := List.mem_map.mp available
      exact fits_of_matches source.valid detection
    | error code => exact every _ (violationDrafts_mem.mpr ⟨p, member, code, bound, rfl⟩)
  · rintro every d member
    obtain ⟨p, inside, code, _, rfl⟩ := violationDrafts_mem.mp member
    exact every p inside

theorem versionDrafts_fitting {i : Incident} : (∀ d ∈ versionDrafts i, d.Fitting) ↔
    ∀ f ∈ i.ruleVersions, f.1 ∉ referencedRuleIds i → Fits 128 (some f.1) ∧ Fits 64 (some f.2) := by
  have sorted := forall_mem_zipIdx (P := fun f : String × String =>
      f.1 ∉ referencedRuleIds i → Fits 128 (some f.1) ∧ Fits 64 (some f.2))
    (i.ruleVersions.insertionSort fun a b => textLe a.1 b.1) i.violatedKpis.length
  simp only [List.mem_insertionSort] at sorted
  rw [← sorted]
  constructor
  · intro every p member unreferenced
    exact every _ (versionDrafts_mem.mpr ⟨p, member, unreferenced, rfl⟩)
  · intro every d member
    obtain ⟨p, inside, unreferenced, rfl⟩ := versionDrafts_mem.mp member
    exact every p inside unreferenced

theorem hashDrafts_fitting {i : Incident} : (∀ d ∈ hashDrafts i, d.Fitting) ↔
    ∀ key ∈ hashKeys i, key ∉ claimedRuleIds i →
      Fits 128 (some key) ∧ Fits 64 (versionOf i key) := by
  have sorted := forall_mem_zipIdx (P := fun key => Fits 128 (some key) ∧ Fits 64 (versionOf i key))
    (((hashKeys i).dedup.filter (· ∉ claimedRuleIds i)).insertionSort fun a b => textLe a b)
    (i.violatedKpis.length + i.ruleVersions.length)
  simp only [List.mem_insertionSort, List.mem_filter, List.mem_dedup, decide_eq_true_eq,
    and_imp] at sorted
  rw [← sorted]
  constructor
  · exact fun every p member => every _ (hashDrafts_mem.mpr ⟨p, member, rfl⟩)
  · intro every d member
    obtain ⟨p, inside, rfl⟩ := hashDrafts_mem.mp member
    exact every p inside

/-- Resolving returns exactly when the incident is of no technology with rules, or every rule
it may name in an issue is short enough. -/
theorem resolve_returns_iff (h : Host) (i : Incident) (rules : List AvailableRule) :
    (∃ resolution, resolveRulesForIncident h i (rules.map (·.rule)) = .ok resolution) ↔
      ¬ IsApplicable i ∨ Recordable i := by
  by_cases known : IsApplicable i
  · have returns : (∃ resolution,
        resolveRulesForIncident h i (rules.map (·.rule)) = .ok resolution) ↔
        ∀ d ∈ drafts h i (indexRules i (rules.map (·.rule))), d.Fitting := by
      simp only [resolve_ok known]
      rw [exists_comm]
      simp only [exists_and_left, exists_eq, and_true, Checks.mapM_isOk, build_isOk, Draft.Fitting]
    rw [returns, drafts, List.forall_mem_append, List.forall_mem_append, violationDrafts_fitting,
      versionDrafts_fitting, hashDrafts_fitting]
    constructor
    · rintro ⟨⟨violations, versions⟩, hashes⟩
      exact .inr ⟨violations, versions, hashes⟩
    · intro either
      obtain ⟨violations, versions, hashes⟩ := either.resolve_left (not_not.mpr known)
      exact ⟨⟨violations, versions⟩, hashes⟩
  · exact iff_of_true ⟨_, resolve_not_applicable known⟩ (.inl known)

/-! An incident that lists a version of 65 characters. -/

def Sample.longVersion : Incident :=
  { Sample.named with
    violatedKpis := []
    ruleVersions := [("lte.rrc", String.ofList (List.replicate 65 '1'))] }

/-- A long version that no violation refers to stops the resolver. -/
theorem long_version_not_resolved : ¬ ∀ (h : Host) (i : Incident) (rules : List AvailableRule),
    i.Valid h → ∃ resolution, resolveRulesForIncident h i (rules.map (·.rule)) = .ok resolution := by
  intro claimed
  have returns := claimed Host.ascii Sample.longVersion [] (by decide)
  rcases (resolve_returns_iff Host.ascii Sample.longVersion []).mp returns with other | recordable
  · exact other (.inl rfl)
  · have fits := (recordable.versions _ List.mem_cons_self (by decide)).2
    exact absurd fits (by decide)

end NetworkAgent.Rca
