import Mathlib.Data.List.Nodup
import NetworkAgent.Rca.Clocks
import NetworkAgent.Rca.Exactness

/-! What a conclusion rests on: exactly bound rules that all hold of the facts, facts that the
incident itself gives or that were measured in its scope, and telemetry none of which was left
out. -/
namespace NetworkAgent.Rca
open Checks (require)

/-! Distinct values, counted. -/

section
variable {α β : Type} [BEq β]

theorem eraseDups_length_le (xs : List β) : xs.eraseDups.length ≤ xs.length := by
  induction n : xs.length using Nat.strong_induction_on generalizing xs with
  | _ n ih =>
    cases xs with
    | nil => simp
    | cons x rest =>
      rw [List.eraseDups_cons, List.length_cons]
      have shorter := List.length_filter_le (fun y => !y == x) rest
      rw [List.length_cons] at n
      have := ih _ (by omega) (rest.filter fun y => !y == x) rfl
      omega

variable [LawfulBEq β]

theorem eraseDups_length_iff {xs : List β} : xs.eraseDups.length = xs.length ↔ xs.Nodup := by
  induction xs with
  | nil => simp
  | cons x rest ih =>
    have shorter := List.length_filter_le (fun y => !y == x) rest
    have fewer := eraseDups_length_le (rest.filter fun y => !y == x)
    have same : (rest.filter fun y => !y == x).length = rest.length ↔ x ∉ rest := by
      rw [List.length_filter_eq_length_iff]
      constructor
      · intro every member
        simpa using every x member
      · intro absent y member
        simpa using fun equal : y = x => absent (equal ▸ member)
    rw [List.eraseDups_cons, List.length_cons, List.length_cons, List.nodup_cons, ← ih, ← same]
    constructor
    · intro count
      have whole : (rest.filter fun y => !y == x).length = rest.length := by omega
      rw [List.filter_eq_self.mpr (List.length_filter_eq_length_iff.mp whole)] at count
      exact ⟨whole, by omega⟩
    · rintro ⟨whole, count⟩
      rw [List.filter_eq_self.mpr (List.length_filter_eq_length_iff.mp whole)]
      omega

/-- As many distinct values among the chosen as there are elements: all are chosen, and no two
share a value. -/
theorem distinct_of_chosen {f : α → β} {p : α → Bool} {xs : List α} :
    ((xs.filter p).map f).eraseDups.length = xs.length ↔
      (∀ a ∈ xs, p a = true) ∧ (xs.map f).Nodup := by
  have fewer := eraseDups_length_le ((xs.filter p).map f)
  have shorter := List.length_filter_le p xs
  rw [List.length_map] at fewer
  constructor
  · intro count
    have every := List.length_filter_eq_length_iff.mp (show (xs.filter p).length = xs.length by omega)
    rw [List.filter_eq_self.mpr every] at count
    exact ⟨every, eraseDups_length_iff.mp (by rw [count, List.length_map])⟩
  · rintro ⟨every, distinct⟩
    rw [List.filter_eq_self.mpr every, eraseDups_length_iff.mpr distinct, List.length_map]

end

/-! Facts in scope. -/

/-- A collected reference names the resources of the incident and a window inside its own. -/
structure InScope (g : RcaGateway) (i : Incident) (item : EvidenceReference) : Prop where
  kind : IsTelemetry item
  resources : ∃ entries, getValue item.attributes "resource_scope" = some (.arr entries) ∧
    entries ≠ [] ∧ (∀ entry ∈ entries, isMapping entry = true) ∧
      entries.map g.host.canonicalJson = expectedResourceScope g.host i
  window : ∃ lower upper start stop, i.windowStart = some lower ∧ i.windowEnd = some upper ∧
    (getValue item.attributes "window_start").bind (parseEvidenceTime g.fromisoformat) =
      some start ∧
    (getValue item.attributes "window_end").bind (parseEvidenceTime g.fromisoformat) = some stop ∧
    lower ≤ start ∧ start ≤ stop ∧ stop ≤ upper ∧ overlapsViolation i start stop = true ∧
    ∀ t ∈ item.collectedAt, start ≤ t ∧ t ≤ stop

/-- What a conclusion may rest on. -/
inductive Admissible (g : RcaGateway) (i : Incident) (item : EvidenceReference) : Prop
  | violation (index : Nat) (v : KpiViolation) (member : v ∈ i.violatedKpis)
      (made : violationReference g.host g.formats.general i index v = .ok item)
  | telemetry (inside : InScope g i item)

/-- The telemetry of an LTE incident could be asked for, and all of it was in scope. -/
def AllAccepted (g : RcaGateway) (i : Incident) : Prop :=
  i.technology = .lte → i.affectedResources ≠ [] ∧ ∃ start stop collected telemetry,
    i.windowStart = some start ∧ i.windowEnd = some stop ∧
    g.collectEvidence i start stop g.evidenceLimit = .ok collected ∧
    deduplicateEvidence collected = .ok telemetry ∧ ∀ item ∈ telemetry, InScope g i item

theorem resourceScopeIssue_none {h : Host} {attributes : Dict} {i : Incident} :
    resourceScopeIssue h attributes i = none ↔
      ∃ entries, getValue attributes "resource_scope" = some (.arr entries) ∧
        entries ≠ [] ∧ (∀ entry ∈ entries, isMapping entry = true) ∧
          entries.map h.canonicalJson = expectedResourceScope h i := by
  unfold resourceScopeIssue
  cases stated : getValue attributes "resource_scope" with
  | none => simp
  | some value =>
    cases value with
    | arr entries =>
      have filled : entries ≠ [] → entries.map h.canonicalJson = expectedResourceScope h i →
          expectedResourceScope h i ≠ [] := by
        intro filled same empty
        exact filled (List.map_eq_nil_iff.mp (same.trans empty))
      simp only [Option.some.injEq, Json.arr.injEq, exists_eq_left']
      split_ifs with invalid mismatch
      · simp only [List.any_eq_true, Bool.not_eq_true'] at invalid
        refine iff_of_false (by simp) ?_
        rintro ⟨some', every, _⟩
        rcases invalid with empty | ⟨entry, member, other⟩
        · exact some' empty
        · simp [every entry member] at other
      · refine iff_of_false (by simp) ?_
        rintro ⟨some', _, same⟩
        exact mismatch.elim (filled some' same) fun different => different same
      · simp only [not_or, List.any_eq_true, Bool.not_eq_true', not_exists, not_and,
          Bool.not_eq_false, ne_eq, not_not] at invalid mismatch
        exact iff_of_true rfl ⟨invalid.1, invalid.2, mismatch.2⟩
    | _ => simp

theorem timeScopeIssue_none {item : EvidenceReference} {i : Incident} {start stop : Instant} :
    timeScopeIssue item i start stop = none ↔ ∃ lower upper, i.windowStart = some lower ∧
      i.windowEnd = some upper ∧ lower ≤ start ∧ stop ≤ upper ∧
        overlapsViolation i start stop = true ∧ ∀ t ∈ item.collectedAt, start ≤ t ∧ t ≤ stop := by
  unfold timeScopeIssue
  cases i.windowStart with
  | none => simp
  | some lower =>
    cases i.windowEnd with
    | none => simp
    | some upper =>
      simp only [Option.some.injEq, exists_and_left, exists_eq_left']
      split_ifs with outside apart late
      · refine iff_of_false (by simp) ?_
        rintro ⟨after, before, _⟩
        exact outside.elim (not_lt.mpr after) (not_lt.mpr before)
      · exact iff_of_false (by simp) (by simp_all)
      · rw [not_or, not_lt, not_lt] at outside
        exact iff_of_true rfl ⟨outside.1, outside.2, by simpa using apart, late⟩
      · exact iff_of_false (by simp) (by simp_all)

/-- The scope check passes what names the resources and a window of the incident. -/
theorem telemetryScopeIssue_none {g : RcaGateway} {i : Incident} {item : EvidenceReference}
    (kind : IsTelemetry item) :
    telemetryScopeIssue g.host g.fromisoformat item i = none ↔ InScope g i item := by
  unfold telemetryScopeIssue
  rw [Option.or_eq_none_iff, resourceScopeIssue_none]
  constructor
  · rintro ⟨resources, window⟩
    refine ⟨kind, resources, ?_⟩
    cases first : getValue item.attributes "window_start" with
    | none => simp [first] at window
    | some rawStart =>
      cases second : getValue item.attributes "window_end" with
      | none => simp [first, second] at window
      | some rawEnd =>
        simp only [first, second] at window
        cases began : parseEvidenceTime g.fromisoformat rawStart with
        | none => simp [began] at window
        | some start =>
          cases ended : parseEvidenceTime g.fromisoformat rawEnd with
          | none => simp [began, ended] at window
          | some stop =>
            simp only [began, ended] at window
            split_ifs at window with reversed
            obtain ⟨lower, upper, opens, closes, after, before, overlaps, collected⟩ :=
              timeScopeIssue_none.mp window
            exact ⟨lower, upper, start, stop, opens, closes, began, ended, after,
              not_lt.mp reversed, before, overlaps, collected⟩
  · rintro ⟨_, resources, lower, upper, start, stop, opens, closes, began, ended, after, ordered,
      before, overlaps, collected⟩
    obtain ⟨rawStart, first, began⟩ := Option.bind_eq_some_iff.mp began
    obtain ⟨rawEnd, second, ended⟩ := Option.bind_eq_some_iff.mp ended
    refine ⟨resources, ?_⟩
    simp only [first, second, began, ended, not_lt.mpr ordered, if_false]
    exact timeScopeIssue_none.mpr
      ⟨lower, upper, opens, closes, after, before, overlaps, collected⟩

/-! What is gathered. -/

theorem mapError_ok {ε δ α : Type} {f : ε → δ} {x : Except ε α} {a : α} :
    x.mapError f = .ok a ↔ x = .ok a := by
  cases x <;> simp [Except.mapError]

theorem telemetryIssues_nil {g : RcaGateway} {i : Incident} {evidence : List EvidenceReference} :
    telemetryIssues g i evidence = [] ↔
      ∀ item ∈ evidence, telemetryScopeIssue g.host g.fromisoformat item i = none := by
  rw [← forall_mem_zipIdx evidence 0, telemetryIssues, List.filterMap_eq_nil_iff]
  simp only [Option.map_eq_none_iff]

theorem gatherTelemetry_ok {g : RcaGateway} {i : Incident} {telemetry : List EvidenceReference}
    {issues : List Json} (gathered : gatherTelemetry g i = .ok (telemetry, issues)) :
    (∀ item ∈ telemetry, InScope g i item) ∧ (issues = [] ↔ AllAccepted g i) := by
  unfold gatherTelemetry at gathered
  split at gathered
  · next other =>
    cases gathered
    exact ⟨by simp, iff_of_true rfl fun lte => absurd lte other⟩
  · next lte =>
    split at gathered
    · next resources start stop named opens closes =>
      simp only [Checks.bind_ok] at gathered
      obtain ⟨collected, answered, kept, merged, _, _, _, checked, result⟩ := gathered
      cases result
      have kinds : ∀ item ∈ kept, IsTelemetry item := by
        intro item member
        have passed := Checks.each_ok.mp checked item member
        simp only [checkTelemetry, Checks.seq_ok, Checks.require_ok] at passed
        exact passed.2
      constructor
      · intro item member
        obtain ⟨inside, clean⟩ := List.mem_filter.mp member
        exact (telemetryScopeIssue_none (kinds item inside)).mp (Option.isNone_iff_eq_none.mp clean)
      · rw [telemetryIssues_nil]
        constructor
        · intro clean _
          exact ⟨by simp [named], start, stop, collected, kept, opens, closes, answered,
            mapError_ok.mp merged, fun item member =>
              (telemetryScopeIssue_none (kinds item member)).mp (clean item member)⟩
        · intro accepted item member
          obtain ⟨_, start', stop', collected', kept', opens', closes', answered', merged', inside⟩ :=
            accepted (not_not.mp lte)
          cases opens.symm.trans opens'
          cases closes.symm.trans closes'
          cases answered.symm.trans answered'
          cases (mapError_ok.mp merged).symm.trans merged'
          exact (telemetryScopeIssue_none (kinds item member)).mpr (inside item member)
    · next missing =>
      cases gathered
      refine ⟨by simp, iff_of_false (by simp) fun accepted => ?_⟩
      obtain ⟨named, start, stop, _, _, opens, closes, _⟩ := accepted (not_not.mp lte)
      obtain ⟨r, rest, listed⟩ := List.exists_cons_of_ne_nil named
      exact missing r rest start stop listed opens closes

/-! The rules that conclude. -/

/-- A rule detects a violation of the incident, the facts are of every type that it needs, and
its predicates hold of what those of its types say together. -/
structure Holds (g : RcaGateway) (i : Incident) (facts : List EvidenceReference)
    (rule : RcaRule) : Prop where
  detects : ∃ v ∈ i.violatedKpis, DetectionMatches rule v
  measured : ∀ t ∈ rule.analysis.evidenceTypes, ∃ item ∈ facts, item.evidenceType = t
  applies : predicateGroupMatches rule.analysis.when' (mergeFactCandidates g.host g.builtins
    (facts.filter fun item => item.evidenceType ∈ rule.analysis.evidenceTypes)) = .ok true

theorem matchedViolation_eq_none {rule : RcaRule} {i : Incident} :
    matchedViolation rule i = none ↔ ¬ ∃ v ∈ i.violatedKpis, DetectionMatches rule v := by
  have none : ∀ le : KpiViolation → KpiViolation → Bool,
      ((i.violatedKpis.filter fun v => DetectionMatches rule v).insertionSort
        fun a b => le a b).head? = none ↔ ¬ ∃ v ∈ i.violatedKpis, DetectionMatches rule v := by
    intro le
    rw [List.head?_eq_none_iff, ← List.length_eq_zero_iff, List.length_insertionSort,
      List.length_eq_zero_iff, List.filter_eq_nil_iff]
    simp
  unfold matchedViolation
  split <;> exact none _

/-- What one turn of the loop adds, and when it concludes. -/
theorem findRule_ok {g : RcaGateway} {i : Incident} {facts : List EvidenceReference}
    {now : Instant} {rule : RcaRule} {found : Option Finding}
    (done : findRule g i facts now rule = .ok found) :
    (found.filter (·.conclusive)).map (·.rule) = some rule ∧ Holds g i facts rule ∨
      found.filter (·.conclusive) = none ∧ ¬ Holds g i facts rule := by
  unfold findRule at done
  split at done
  · next missed =>
    cases done
    exact .inr ⟨rfl, fun holds => matchedViolation_eq_none.mp missed holds.detects⟩
  · next v matched =>
    have detects : ∃ v ∈ i.violatedKpis, DetectionMatches rule v := by
      by_contra missed
      rw [matchedViolation_eq_none.mpr missed] at matched
      cases matched
    simp only [Checks.bind_ok] at done
    obtain ⟨conclusive, concluded, severity, _, evidence, _, result⟩ := done
    cases result
    have measured : (∀ t ∈ rule.analysis.evidenceTypes, t ∈ facts.map (·.evidenceType)) ↔
        ∀ t ∈ rule.analysis.evidenceTypes, ∃ item ∈ facts, item.evidenceType = t := by
      simp only [List.mem_map]
    unfold concludes at concluded
    split at concluded
    · next available =>
      cases conclusive with
      | true => exact .inl ⟨rfl, detects, measured.mp available, concluded⟩
      | false =>
        refine .inr ⟨rfl, fun holds => ?_⟩
        cases concluded.symm.trans holds.applies
    · next unavailable =>
      cases concluded
      exact .inr ⟨rfl, fun holds => unavailable (measured.mpr holds.measured)⟩

open Classical in
theorem conclusive_rules {g : RcaGateway} {i : Incident} {facts : List EvidenceReference}
    {now : Instant} {rules : List RcaRule} {found : List (Option Finding)}
    (done : rules.mapM (findRule g i facts now) = .ok found) :
    (found.reduceOption.filter (·.conclusive)).map (·.rule) =
      rules.filter fun rule => Holds g i facts rule := by
  have turns := Checks.mapM_ok.mp done
  clear done
  induction turns with
  | nil => rfl
  | @cons rule turn rules found first _ ih =>
    rcases findRule_ok first with ⟨concluded, holds⟩ | ⟨passed, fails⟩
    · rw [List.filter_cons_of_pos (by simpa using holds), ← ih]
      cases turn with
      | none => cases concluded
      | some f =>
        obtain ⟨kept, here, rfl⟩ := Option.map_eq_some_iff.mp concluded
        obtain ⟨same, conclusive⟩ := Option.filter_eq_some_iff.mp here
        cases same
        rw [List.reduceOption_cons_of_some, List.filter_cons_of_pos conclusive, List.map_cons]
    · rw [List.filter_cons_of_neg (by simpa using fails), ← ih]
      cases turn with
      | none => rw [List.reduceOption_cons_of_none]
      | some f =>
        have silent : ¬ f.conclusive = true := by simpa using passed
        rw [List.reduceOption_cons_of_some, List.filter_cons_of_neg silent]

/-! The conclusion. -/

/-- When a conclusion is warranted: every rule that the incident is bound to holds, and nothing
that was collected had to be left out. -/
structure Warranted (g : RcaGateway) (i : Incident) (resolution : RuleResolution)
    (facts : List EvidenceReference) : Prop where
  exact : resolution.status = .exact
  bound : resolution.rules ≠ []
  distinct : (resolution.rules.map RcaRule.identity).Nodup
  accepted : AllAccepted g i
  holds : ∀ rule ∈ resolution.rules, Holds g i facts rule

/-- The root causes of rules, each once and in their order. -/
def joinedCauses (rules : List RcaRule) : String :=
  clip (joinTexts "；" (rules.map (·.analysis.rootCauseZh)).eraseDups) 4096

theorem gatherFacts_ok {g : RcaGateway} {i : Incident} {resolution : RuleResolution}
    {issues : List Json} {facts : List EvidenceReference}
    (gathered : gatherFacts g i = .ok (resolution, issues, facts)) :
    (∀ item ∈ facts, Admissible g i item) ∧ (issues = [] ↔ AllAccepted g i) := by
  simp only [gatherFacts, Checks.bind_ok] at gathered
  obtain ⟨_, _, ⟨telemetry, left⟩, collected, base, built, kept, merged, result⟩ := gathered
  cases result
  obtain ⟨inside, clean⟩ := gatherTelemetry_ok collected
  refine ⟨deduplicateEvidence_source (fun item member => ?_) (mapError_ok.mp merged), clean⟩
  rcases List.mem_append.mp member with violated | measured
  · obtain ⟨p, listed, made⟩ := Checks.mapM_source (mapError_ok.mp built) violated
    have known : p.1 ∈ sortedViolations i := (List.mem_zipIdx' listed).2 ▸ List.getElem_mem _
    exact .violation p.2 p.1 ((List.mem_insertionSort _).mp known) made
  · exact .telemetry (inside item measured)

open Classical in
theorem analyzeFacts_ok {g : RcaGateway} {i : Incident} {now : Instant}
    {resolution : RuleResolution} {issues : List Json} {facts : List EvidenceReference}
    {a : Analysis} (analyzed : analyzeFacts g i now resolution issues facts = .ok a) :
    a.resolution = resolution ∧ a.issues = issues ∧ a.conclusiveFindings.map (·.rule) =
      resolution.rules.filter fun rule => Holds g i facts rule := by
  simp only [analyzeFacts, Checks.bind_ok] at analyzed
  obtain ⟨found, turns, _, _, _, _, _, _, result⟩ := analyzed
  cases result
  exact ⟨rfl, rfl, conclusive_rules turns⟩

section
variable {g : RcaGateway} {i : Incident} {now : Instant} {resolution : RuleResolution}
  {issues : List Json} {facts : List EvidenceReference} {a : Analysis}
  (clean : issues = [] ↔ AllAccepted g i)
  (analyzed : analyzeFacts g i now resolution issues facts = .ok a)
include clean analyzed

theorem isComplete_iff : a.IsComplete ↔ Warranted g i resolution facts := by
  classical
  obtain ⟨same, left, chosen⟩ := analyzeFacts_ok analyzed
  have identities : a.conclusiveFindings.map (·.rule.identity) =
      (resolution.rules.filter fun rule => Holds g i facts rule).map RcaRule.identity := by
    rw [← chosen, List.map_map]
    rfl
  rw [Analysis.IsComplete, same, left, identities, distinct_of_chosen, clean]
  simp only [decide_eq_true_eq]
  constructor
  · rintro ⟨exact, bound, ⟨holds, distinct⟩, accepted⟩
    exact ⟨exact, bound, distinct, accepted, holds⟩
  · intro w
    exact ⟨w.exact, w.bound, ⟨w.holds, w.distinct⟩, w.accepted⟩

theorem rootCause_iff (cause : String) : a.rootCause = some cause ↔
    Warranted g i resolution facts ∧ joinedCauses resolution.rules = cause := by
  classical
  have complete := isComplete_iff clean analyzed
  by_cases w : Warranted g i resolution facts
  · obtain ⟨_, _, chosen⟩ := analyzeFacts_ok analyzed
    have every : resolution.rules.filter (fun rule => Holds g i facts rule) = resolution.rules :=
      List.filter_eq_self.mpr fun rule member => by simpa using w.holds rule member
    have causes : a.conclusiveFindings.map (·.rule.analysis.rootCauseZh) =
        resolution.rules.map (·.analysis.rootCauseZh) := by
      rw [← every, ← chosen, List.map_map]
      rfl
    have some' : (resolution.rules.map (·.analysis.rootCauseZh)).eraseDups ≠ [] := by
      obtain ⟨rule, rest, listed⟩ := List.exists_cons_of_ne_nil w.bound
      rw [listed, List.map_cons, List.eraseDups_cons]
      exact List.cons_ne_nil _ _
    rw [Analysis.rootCause, causes, if_pos ⟨some', complete.mpr w⟩, Option.some.injEq]
    exact (and_iff_right w).symm
  · rw [Analysis.rootCause, if_neg fun both => w (complete.mp both.2)]
    exact iff_of_false (by simp) fun both => w both.1

end

theorem buildResult_ok {h : Host} {q : RcaRequest} {a : Analysis} {text : String}
    {now : Instant} {r : RcaResult} (built : buildResult h q a text now = .ok r) :
    r.report.rootCause = a.rootCause ∧ r.report.conclusion = a.conclusion := by
  unfold buildResult at built
  dsimp only at built
  split at built
  · cases built
    exact ⟨rfl, rfl⟩
  · cases built

theorem analyze_ok {g : RcaGateway} {q : RcaRequest} {clock : Option Instant} {r : RcaResult}
    (returned : analyze g q clock = .ok r) :
    ∃ resolution issues facts, gatherFacts g q.incident = .ok (resolution, issues, facts) ∧
      (r.report.conclusion = .conclusive ↔ ∃ cause, r.report.rootCause = some cause) ∧
      ∀ cause, r.report.rootCause = some cause ↔
        Warranted g q.incident resolution facts ∧ joinedCauses resolution.rules = cause := by
  simp only [analyze, Checks.seq_ok] at returned
  obtain ⟨_, returned⟩ := returned
  cases clock with
  | none => cases returned
  | some now =>
    simp only [Checks.bind_ok] at returned
    obtain ⟨result, assembled, _, _, _, _, same⟩ := returned
    cases same
    simp only [assemble, Checks.bind_ok] at assembled
    obtain ⟨⟨resolution, issues, facts⟩, gathered, a, analyzed, _, _, built⟩ := assembled
    obtain ⟨root, concluded⟩ := buildResult_ok built
    have causes := rootCause_iff (gatherFacts_ok gathered).2 analyzed
    refine ⟨resolution, issues, facts, gathered, ?_, fun cause => root ▸ causes cause⟩
    rw [concluded, root, Analysis.conclusion, ← Option.isSome_iff_exists]
    cases a.rootCause <;> simp

/-- The facts that an analysis gathers are all admissible and warrant a conclusion from the
rules. -/
def WarrantedBy (g : RcaGateway) (i : Incident) (rules : List RcaRule) : Prop :=
  ∃ resolution issues facts, gatherFacts g i = .ok (resolution, issues, facts) ∧
    (∀ item ∈ facts, Admissible g i item) ∧ Warranted g i resolution facts ∧
    resolution.rules = rules

/-- A report is conclusive exactly when every rule that the incident is bound to holds of facts
in its scope and nothing collected was left out, and its root cause is then the causes of those
rules: neither documents nor history nor evidence out of scope take part. -/
theorem conclusive_iff (g : RcaGateway) (q : RcaRequest) (clock : Option Instant) :
    ((∃ r, analyze g q clock = .ok r ∧ r.report.conclusion = .conclusive) ↔
      (∃ r, analyze g q clock = .ok r) ∧ ∃ rules, WarrantedBy g q.incident rules) ∧
    ∀ cause, (∃ r, analyze g q clock = .ok r ∧ r.report.rootCause = some cause) ↔
      (∃ r, analyze g q clock = .ok r) ∧
        ∃ rules, WarrantedBy g q.incident rules ∧ joinedCauses rules = cause := by
  have caused : ∀ cause, (∃ r, analyze g q clock = .ok r ∧ r.report.rootCause = some cause) ↔
      (∃ r, analyze g q clock = .ok r) ∧
        ∃ rules, WarrantedBy g q.incident rules ∧ joinedCauses rules = cause := by
    intro cause
    constructor
    · rintro ⟨r, returned, stated⟩
      obtain ⟨resolution, issues, facts, gathered, _, causes⟩ := analyze_ok returned
      obtain ⟨warranted, joined⟩ := (causes cause).mp stated
      exact ⟨⟨r, returned⟩, resolution.rules, ⟨resolution, issues, facts, gathered,
        (gatherFacts_ok gathered).1, warranted, rfl⟩, joined⟩
    · rintro ⟨⟨r, returned⟩, _, ⟨resolution, issues, facts, gathered, _, warranted, rfl⟩, joined⟩
      obtain ⟨_, _, _, gathered', _, causes⟩ := analyze_ok returned
      cases gathered.symm.trans gathered'
      exact ⟨r, returned, (causes cause).mpr ⟨warranted, joined⟩⟩
  refine ⟨?_, caused⟩
  constructor
  · rintro ⟨r, returned, conclusive⟩
    obtain ⟨_, _, _, _, concluded, _⟩ := analyze_ok returned
    obtain ⟨cause, stated⟩ := concluded.mp conclusive
    obtain ⟨some', rules, warranted, _⟩ := (caused cause).mp ⟨r, returned, stated⟩
    exact ⟨some', rules, warranted⟩
  · rintro ⟨some', rules, warranted⟩
    obtain ⟨r, returned, stated⟩ := (caused _).mpr ⟨some', rules, warranted, rfl⟩
    obtain ⟨_, _, _, _, concluded, _⟩ := analyze_ok returned
    exact ⟨r, returned, concluded.mpr ⟨_, stated⟩⟩

end NetworkAgent.Rca
