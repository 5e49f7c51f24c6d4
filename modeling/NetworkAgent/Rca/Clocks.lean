import Mathlib.Data.List.ReduceOption
import NetworkAgent.Rca.Gateway

/-! Two analyses of one request that read different times. What the second returns is what the
first returns with its own reading stamped on: the reading reaches no identifier, no text and no
comparison. -/
namespace NetworkAgent.Rca
open Checks (require)

/-! References that an analysis makes itself carry its reading of the clock. -/

def IsOwn (e : EvidenceReference) : Prop :=
  e.evidenceType = .rule ∨ e.evidenceType = .document ∨ e.evidenceType = .priorIncident

instance (e : EvidenceReference) : Decidable (IsOwn e) := inferInstanceAs (Decidable (_ ∨ _ ∨ _))

def stamped (u : Instant) (e : EvidenceReference) : EvidenceReference :=
  if IsOwn e then { e with collectedAt := some u } else e

theorem stamped_eq (u : Instant) (e : EvidenceReference) :
    ∃ c, stamped u e = { e with collectedAt := c } := by
  unfold stamped
  split
  · exact ⟨_, rfl⟩
  · exact ⟨e.collectedAt, rfl⟩

@[simp] theorem stamped_evidenceId (u : Instant) (e : EvidenceReference) :
    (stamped u e).evidenceId = e.evidenceId := by
  obtain ⟨c, same⟩ := stamped_eq u e
  rw [same]

@[simp] theorem stamped_evidenceType (u : Instant) (e : EvidenceReference) :
    (stamped u e).evidenceType = e.evidenceType := by
  obtain ⟨c, same⟩ := stamped_eq u e
  rw [same]

@[simp] theorem stamped_uri (u : Instant) (e : EvidenceReference) :
    (stamped u e).uri = e.uri := by
  obtain ⟨c, same⟩ := stamped_eq u e
  rw [same]

@[simp] theorem stamped_contentIdentity (h : Host) (u : Instant) (e : EvidenceReference) :
    evidenceContentIdentity h (stamped u e) = evidenceContentIdentity h e := by
  obtain ⟨c, same⟩ := stamped_eq u e
  rw [same]
  rfl

@[simp] theorem stamped_referenceLine (u : Instant) (e : EvidenceReference) :
    referenceLine (stamped u e) = referenceLine e := by
  rw [referenceLine, stamped_evidenceType, stamped_evidenceId, stamped_uri, referenceLine]

theorem stamped_of_own {u : Instant} {e : EvidenceReference} (own : IsOwn e) :
    stamped u e = { e with collectedAt := some u } := if_pos own

theorem stamped_of_other {u : Instant} {e : EvidenceReference} (other : ¬ IsOwn e) :
    stamped u e = e := if_neg other

theorem stamped_stamped (t u : Instant) (e : EvidenceReference) :
    stamped t (stamped u e) = stamped t e := by
  by_cases own : IsOwn e
  · rw [stamped_of_own own, stamped_of_own own, stamped_of_own]
    exact own
  · rw [stamped_of_other own]

theorem norm_stamped (u : Instant) (e : EvidenceReference) :
    PyEq.norm (stamped u e) = stamped u (PyEq.norm e) := by
  have kind : IsOwn (PyEq.norm e) ↔ IsOwn e := Iff.rfl
  by_cases own : IsOwn e
  · rw [stamped_of_own own, stamped_of_own (kind.mpr own)]
    rfl
  · rw [stamped_of_other own, stamped_of_other (kind.not.mpr own)]

theorem same_stamped {t : Instant} (u : Instant) {a b : EvidenceReference}
    (first : stamped t a = a) (second : stamped t b = b) :
    PyEq.Same (stamped u a) (stamped u b) ↔ PyEq.Same a b := by
  have image : ∀ s x y, PyEq.Same x y → PyEq.Same (stamped s x) (stamped s y) := by
    intro s x y same
    rw [PyEq.Same, norm_stamped, norm_stamped, show PyEq.norm x = PyEq.norm y from same]
  constructor
  · intro same
    have back := image t _ _ same
    rwa [stamped_stamped, stamped_stamped, first, second] at back
  · exact image u a b

/-! Deduplication. -/

theorem addEvidence_stamped {t : Instant} (u : Instant)
    {byId byId' : Table String EvidenceReference} {item : EvidenceReference}
    (mapped : Table.Mapped (stamped u) byId byId') (stored : ∀ k, ∀ e ∈ byId.lookup k, stamped t e = e)
    (made : stamped t item = item) :
    (addEvidence byId item = .error .conflictingEvidence ∧
      addEvidence byId' (stamped u item) = .error .conflictingEvidence) ∨
    ∃ next next', addEvidence byId item = .ok next ∧ addEvidence byId' (stamped u item) = .ok next' ∧
      Table.Mapped (stamped u) next next' ∧ ∀ k, ∀ e ∈ next.lookup k, stamped t e = e := by
  have agree : (∀ previous ∈ byId'.lookup (stamped u item).evidenceId.text,
      PyEq.Same previous (stamped u item)) ↔
      ∀ previous ∈ byId.lookup item.evidenceId.text, PyEq.Same previous item := by
    rw [stamped_evidenceId, mapped.lookup]
    cases found : byId.lookup item.evidenceId.text with
    | none => simp
    | some previous =>
      have known : stamped t previous = previous := stored _ _ found
      simpa using same_stamped u known made
  by_cases passes : ∀ previous ∈ byId.lookup item.evidenceId.text, PyEq.Same previous item
  · refine .inr ⟨_, _, addEvidence_ok.mpr ⟨passes, rfl⟩,
      addEvidence_ok.mpr ⟨agree.mpr passes, rfl⟩, ?_, ?_⟩
    · rw [stamped_evidenceId]
      exact mapped.insert _ _
    · intro k e found
      rcases Table.lookup_insert_iff.mp found with ⟨-, rfl⟩ | ⟨-, found⟩
      · exact made
      · exact stored k e found
  · left
    constructor
    · rw [addEvidence, require, if_neg passes]
      rfl
    · rw [addEvidence, require, if_neg (agree.not.mpr passes)]
      rfl

theorem foldlM_addEvidence_stamped {t : Instant} (u : Instant) {evidence : List EvidenceReference}
    {byId byId' : Table String EvidenceReference} (mapped : Table.Mapped (stamped u) byId byId')
    (stored : ∀ k, ∀ e ∈ byId.lookup k, stamped t e = e) (made : ∀ e ∈ evidence, stamped t e = e) :
    (evidence.foldlM addEvidence byId = .error .conflictingEvidence ∧
      (evidence.map (stamped u)).foldlM addEvidence byId' = .error .conflictingEvidence) ∨
    ∃ next next', evidence.foldlM addEvidence byId = .ok next ∧
      (evidence.map (stamped u)).foldlM addEvidence byId' = .ok next' ∧
      Table.Mapped (stamped u) next next' := by
  induction evidence generalizing byId byId' with
  | nil => exact .inr ⟨byId, byId', rfl, rfl, mapped⟩
  | cons item rest ih =>
    rw [List.forall_mem_cons] at made
    rw [List.map_cons, List.foldlM_cons, List.foldlM_cons]
    rcases addEvidence_stamped u mapped stored made.1 with
      ⟨failed, failed'⟩ | ⟨next, next', added, added', mapped', stored'⟩
    · rw [failed, failed']
      exact .inl ⟨rfl, rfl⟩
    · rw [added, added']
      exact ih mapped' stored' made.2

theorem evidenceLe_stamped (u : Instant) (a b : EvidenceReference) :
    evidenceLe (stamped u a) (stamped u b) = evidenceLe a b := by
  simp only [evidenceLe, stamped_evidenceType, stamped_evidenceId, stamped_uri]

theorem deduplicateEvidence_stamped {t : Instant} (u : Instant)
    {evidence : List EvidenceReference} (made : ∀ e ∈ evidence, stamped t e = e) :
    deduplicateEvidence (evidence.map (stamped u)) =
      List.map (stamped u) <$> deduplicateEvidence evidence := by
  have empty : Table.Mapped (stamped u) (∅ : Table String EvidenceReference) ∅ := rfl
  rw [deduplicateEvidence, deduplicateEvidence]
  rcases foldlM_addEvidence_stamped u empty (by simp) made with
    ⟨failed, failed'⟩ | ⟨next, next', folded, folded', mapped⟩
  · rw [failed, failed']
    rfl
  · rw [folded, folded']
    have sorted := List.map_insertionSort (r := fun a b => evidenceLe a b = true)
      (s := fun a b => evidenceLe a b = true) (stamped u) next.values fun a _ b _ => by
        rw [evidenceLe_stamped]
    exact congrArg Except.ok (mapped.values ▸ sorted.symm)

/-! Membership: what is deduplicated was there before. -/

theorem foldlM_addEvidence_source {P : EvidenceReference → Prop}
    {evidence : List EvidenceReference} {byId t : Table String EvidenceReference}
    (stored : ∀ k, ∀ e ∈ byId.lookup k, P e) (every : ∀ e ∈ evidence, P e)
    (folded : evidence.foldlM addEvidence byId = .ok t) : ∀ k, ∀ e ∈ t.lookup k, P e := by
  induction evidence generalizing byId with
  | nil =>
    cases folded
    exact stored
  | cons item rest ih =>
    rw [List.forall_mem_cons] at every
    rw [List.foldlM_cons, Checks.bind_ok] at folded
    obtain ⟨next, added, folded⟩ := folded
    obtain ⟨-, rfl⟩ := addEvidence_ok.mp added
    refine ih (fun k e found => ?_) every.2 folded
    rcases Table.lookup_insert_iff.mp found with ⟨-, rfl⟩ | ⟨-, found⟩
    · exact every.1
    · exact stored k e found

theorem deduplicateEvidence_source {P : EvidenceReference → Prop}
    {evidence kept : List EvidenceReference} (every : ∀ e ∈ evidence, P e)
    (done : deduplicateEvidence evidence = .ok kept) : ∀ e ∈ kept, P e := by
  rw [deduplicateEvidence, Checks.bind_ok] at done
  obtain ⟨t, folded, sorted⟩ := done
  cases sorted
  intro e member
  rw [List.mem_insertionSort] at member
  obtain ⟨k, found⟩ := Table.mem_values.mp member
  exact foldlM_addEvidence_source (by simp) every folded k e found

/-! The facts of an analysis are the violations and the telemetry, and none of them is its own. -/

theorem violationEvidence_other {h : Host} {formatG : ℚ → String} {i : Incident}
    {evidence : List EvidenceReference} (built : violationEvidence h formatG i = .ok evidence) :
    ∀ e ∈ evidence, ¬ IsOwn e := by
  intro e member
  obtain ⟨p, -, made⟩ := Checks.mapM_source built member
  unfold violationReference at made
  dsimp only at made
  split at made
  · cases made
    exact of_decide_eq_false rfl
  · cases made

theorem gatherTelemetry_other {g : RcaGateway} {i : Incident} {telemetry : List EvidenceReference}
    {issues : List Json} (gathered : gatherTelemetry g i = .ok (telemetry, issues)) :
    ∀ e ∈ telemetry, ¬ IsOwn e := by
  unfold gatherTelemetry at gathered
  split at gathered
  · cases gathered
    simp
  · split at gathered
    · simp only [Checks.bind_ok] at gathered
      obtain ⟨collected, -, kept, -, _, -, _, checked, result⟩ := gathered
      cases result
      intro e member own
      have passed := Checks.each_ok.mp checked e (List.mem_of_mem_filter member)
      simp only [checkTelemetry, Checks.seq_ok, Checks.require_ok] at passed
      rcases own with own | own | own <;> rcases passed.2 with kind | kind <;>
        rw [own] at kind <;> cases kind
    · cases gathered
      simp

/-! Each part of an analysis. -/

theorem ruleEvidence_stamped (h : Host) (rule : RcaRule) (t u : Instant) :
    ruleEvidence h rule u = stamped u <$> ruleEvidence h rule t := by
  unfold ruleEvidence
  dsimp only
  split
  · simp only [Functor.map, Except.map]
    rw [stamped_of_own]
    exact .inl rfl
  · rfl

def Finding.stamped (u : Instant) (f : Finding) : Finding :=
  { f with evidence := Rca.stamped u f.evidence }

theorem findRule_stamped (g : RcaGateway) (i : Incident) (facts : List EvidenceReference)
    (t u : Instant) (rule : RcaRule) :
    findRule g i facts u rule = Option.map (Finding.stamped u) <$> findRule g i facts t rule := by
  unfold findRule
  cases matchedViolation rule i with
  | none => rfl
  | some violation =>
    dsimp only
    rw [ruleEvidence_stamped g.host rule t u]
    simp only [map_bind, bind_map_left, map_pure]
    rfl

def stampedRecord (u : Instant) (r : EvidenceReference × String) : EvidenceReference × String :=
  (stamped u r.1, r.2)

theorem recordEvidence_stamped (g : RcaGateway) (t u : Instant) (record : Dict) :
    recordEvidence g u record = Option.map (stampedRecord u) <$> recordEvidence g t record := by
  unfold recordEvidence
  rw [map_bind]
  refine bind_congr fun _ => ?_
  cases nonEmptyText (valueOf record "uri") with
  | none => rfl
  | some uri =>
    dsimp only
    split
    · simp only [map_pure, Option.map_some, stampedRecord]
      rw [stamped_of_own]
      exact .inr (.inl rfl)
    · rfl

theorem documentEvidence_stamped (g : RcaGateway) (i : Incident) (t u : Instant) :
    documentEvidence g i u =
      (fun d => (d.1.map (stamped u), d.2)) <$> documentEvidence g i t := by
  unfold documentEvidence
  cases g.search with
  | none => rfl
  | some search =>
    dsimp only
    split
    · rfl
    · rw [map_bind]
      refine bind_congr fun records => ?_
      rw [Checks.mapM_image (recordEvidence_stamped g t u), bind_map_left, map_bind]
      refine bind_congr fun found => ?_
      simp only [List.reduceOption_map, List.map_map, map_pure]
      rfl

theorem matchEvidence_stamped (h : Host) (t u : Instant) (match' : SimilarIncident) :
    matchEvidence h u match' = stamped u <$> matchEvidence h t match' := by
  unfold matchEvidence
  dsimp only
  split
  · simp only [Functor.map, Except.map]
    rw [stamped_of_own]
    exact .inr (.inr rfl)
  · rfl

theorem historyEvidence_stamped (g : RcaGateway) (i : Incident) (t u : Instant) :
    historyEvidence g i u =
      (fun d => (d.1.map (stamped u), d.2)) <$> historyEvidence g i t := by
  unfold historyEvidence
  cases g.listIncidents with
  | none => rfl
  | some list =>
    dsimp only
    split
    · rfl
    · simp only [map_bind, map_pure]
      refine bind_congr fun candidates => bind_congr fun matches' => ?_
      rw [Checks.mapM_image (matchEvidence_stamped g.host t u), bind_map_left]

/-! The whole analysis. -/

def Analysis.stamped (u : Instant) (a : Analysis) : Analysis :=
  { a with findings := a.findings.map (Finding.stamped u), evidence := a.evidence.map (Rca.stamped u) }

section
variable (u : Instant) (a : Analysis)

@[simp] theorem stamped_hypotheses : (a.stamped u).hypotheses = a.hypotheses := by
  rw [Analysis.hypotheses, Analysis.stamped, List.map_map]
  rfl

theorem stamped_conclusiveFindings : (a.stamped u).conclusiveFindings =
    a.conclusiveFindings.map (Finding.stamped u) := by
  rw [Analysis.conclusiveFindings, Analysis.stamped, List.filter_map]
  rfl

@[simp] theorem stamped_rootCause : (a.stamped u).rootCause = a.rootCause := by
  have complete : (a.stamped u).IsComplete ↔ a.IsComplete := by
    rw [Analysis.IsComplete, stamped_conclusiveFindings, List.map_map]
    rfl
  simp only [Analysis.rootCause, stamped_conclusiveFindings, List.map_map, complete]
  rfl

@[simp] theorem stamped_conclusion : (a.stamped u).conclusion = a.conclusion := by
  rw [Analysis.conclusion, stamped_rootCause, Analysis.conclusion]

@[simp] theorem stamped_severity : (a.stamped u).severity = a.severity := by
  rw [Analysis.severity, Analysis.stamped, List.map_map]
  rfl

theorem stamped_text (f : Formats) (i : Incident) : (a.stamped u).text f i = a.text f i := by
  have lines : (((a.stamped u).evidence.take 20).map referenceLine) =
      (a.evidence.take 20).map referenceLine := by
    rw [Analysis.stamped, ← List.map_take, List.map_map]
    exact List.map_congr_left fun e _ => stamped_referenceLine u e
  simp only [Analysis.text, reportText, stamped_rootCause, stamped_hypotheses, stamped_severity, lines]
  rfl

theorem stamped_reportIdentity (h : Host) (q : RcaRequest) :
    reportIdentity h q (a.stamped u) = reportIdentity h q a := by
  have evidence : (a.stamped u).evidence.map (evidenceContentIdentity h) =
      a.evidence.map (evidenceContentIdentity h) := by
    rw [Analysis.stamped, List.map_map]
    exact List.map_congr_left fun e _ => stamped_contentIdentity h u e
  simp only [reportIdentity, evidence, stamped_conclusion, stamped_rootCause, stamped_severity,
    stamped_hypotheses]
  rfl

theorem stamped_metadata (q : RcaRequest) : (a.stamped u).metadata q = a.metadata q := by
  simp only [Analysis.metadata, stamped_severity]
  rfl

end

def RcaResult.stamped (u : Instant) (r : RcaResult) : RcaResult :=
  { r with
    sentAt := u
    report := { r.report with
      evidenceRefs := r.report.evidenceRefs.map (Rca.stamped u), createdAt := u } }

theorem buildResult_stamped (h : Host) (q : RcaRequest) (a : Analysis) (text : String)
    (t u : Instant) : buildResult h q (a.stamped u) text u =
      RcaResult.stamped u <$> buildResult h q a text t := by
  unfold buildResult
  simp only [stamped_reportIdentity, stamped_metadata, stamped_hypotheses, stamped_rootCause,
    stamped_conclusion]
  split
  · rfl
  · rfl

theorem gatherFacts_other {g : RcaGateway} {i : Incident} {resolution : RuleResolution}
    {issues : List Json} {facts : List EvidenceReference}
    (gathered : gatherFacts g i = .ok (resolution, issues, facts)) : ∀ e ∈ facts, ¬ IsOwn e := by
  have raised : ∀ {α : Type} {x : Except RcaError α} {a : α},
      x.mapError AnalysisError.evidence = .ok a → x = .ok a := by
    intro α x a same
    cases x with
    | error e => cases same
    | ok b => exact congrArg Except.ok (Except.ok.inj same)
  simp only [gatherFacts, Checks.bind_ok] at gathered
  obtain ⟨_, -, ⟨telemetry, _⟩, collected, base, built, kept, done, result⟩ := gathered
  cases result
  refine deduplicateEvidence_source (fun e member => ?_) (raised done)
  rcases List.mem_append.mp member with violated | measured
  · exact violationEvidence_other (raised built) e violated
  · exact gatherTelemetry_other collected e measured

theorem stays_of_image {α : Type} {k : α → α} {x : Except AnalysisError α} {a : α}
    (image : x = k <$> x) (made : x = .ok a) : k a = a := by
  rw [made] at image
  exact (Except.ok.inj image).symm

theorem analyzeFacts_stamped (g : RcaGateway) (i : Incident) (resolution : RuleResolution)
    (issues : List Json) {facts : List EvidenceReference} (other : ∀ e ∈ facts, ¬ IsOwn e)
    (t u : Instant) : analyzeFacts g i u resolution issues facts =
      Analysis.stamped u <$> analyzeFacts g i t resolution issues facts := by
  have findings := fun s => Checks.mapM_image (findRule_stamped g i facts t s) resolution.rules
  have documents := documentEvidence_stamped g i t
  have history := historyEvidence_stamped g i t
  rw [analyzeFacts, analyzeFacts, findings u, documents u, history u]
  cases found : resolution.rules.mapM (findRule g i facts t) with
  | error e => rfl
  | ok found' => cases searched : documentEvidence g i t with
    | error e => rfl
    | ok documents' => cases listed : historyEvidence g i t with
      | error e => rfl
      | ok history' =>
        have own : ∀ e ∈ facts ++ found'.reduceOption.map (·.evidence) ++ documents'.1 ++ history'.1,
            stamped t e = e := by
          simp only [List.mem_append, List.mem_map]
          rintro e (((fact | ⟨f, finding, rfl⟩) | document) | prior)
          · exact stamped_of_other (other e fact)
          · have same := stays_of_image (findings t) found
            rw [← same, List.reduceOption_map] at finding
            obtain ⟨f', -, rfl⟩ := List.mem_map.mp finding
            exact stamped_stamped t t f'.evidence
          · have same := congrArg Prod.fst (stays_of_image (documents t) searched)
            exact List.map_eq_map_iff.mp (same.trans (List.map_id _).symm) e document
          · have same := congrArg Prod.fst (stays_of_image (history t) listed)
            exact List.map_eq_map_iff.mp (same.trans (List.map_id _).symm) e prior
        have image := deduplicateEvidence_stamped u own
        have kept : facts.map (stamped u) = facts := by
          refine (List.map_congr_left fun e member => ?_).trans (List.map_id facts)
          exact stamped_of_other (other e member)
        have findings' : (found'.map (Option.map (Finding.stamped u))).reduceOption.map (·.evidence) =
            (found'.reduceOption.map (·.evidence)).map (stamped u) := by
          rw [List.reduceOption_map, List.map_map, List.map_map]
          rfl
        simp only [List.map_append, kept] at image
        simp only [Functor.map, Except.map, bind, Except.bind, findings'] at image ⊢
        rw [image]
        cases deduplicateEvidence
            (facts ++ found'.reduceOption.map (·.evidence) ++ documents'.1 ++ history'.1) with
        | error e => rfl
        | ok kept => rw [List.reduceOption_map]; rfl

theorem assemble_stamped (g : RcaGateway) (q : RcaRequest) (t u : Instant) :
    assemble g q u = RcaResult.stamped u <$> assemble g q t := by
  rw [assemble, assemble]
  cases gathered : gatherFacts g q.incident with
  | error e => rfl
  | ok start =>
    obtain ⟨resolution, issues, facts⟩ := start
    have analyzed := analyzeFacts_stamped g q.incident resolution issues
      (gatherFacts_other gathered) t u
    change (analyzeFacts g q.incident u resolution issues facts >>= _) =
      RcaResult.stamped u <$> (analyzeFacts g q.incident t resolution issues facts >>= _)
    rw [analyzed, bind_map_left, map_bind]
    refine bind_congr fun a => ?_
    rw [stamped_text, map_bind]
    refine bind_congr fun _ => ?_
    rw [buildResult_stamped g.host q a _ t u]

/-! The checks on a result do not see the time either, except that it takes up room. -/

/-- Values that the privacy check and the depth limit do not tell apart. -/
structure Unmarked (h : Host) (a b : Json) : Prop where
  paths : ∀ path, findSensitivePaths h path a = findSensitivePaths h path b
  empty : isEmptyValue a = isEmptyValue b
  depth : a.depth = b.depth

section
variable {h : Host}

theorem unmarked_refl (a : Json) : Unmarked h a a := ⟨fun _ => rfl, rfl, rfl⟩

theorem unmarked_time (t u : Instant) : Unmarked h (dumpTime "Z" t) (dumpTime "Z" u) := by
  have written : ∀ t : Instant, (isoText "Z" t == "") = false := by
    intro t
    rw [beq_eq_false_iff_ne]
    intro same
    have size := congrArg String.length same
    simp [isoText] at size
  refine ⟨fun path => ?_, ?_, ?_⟩
  · rw [dumpTime, dumpTime, findSensitivePaths, findSensitivePaths, isoText_clean, isoText_clean]
  · rw [dumpTime, dumpTime, isEmptyValue, isEmptyValue, written, written]
  · simp only [dumpTime, Json.depth]

theorem unmarked_arr {xs ys : List Json} (pairs : List.Forall₂ (Unmarked h) xs ys) :
    Unmarked h (.arr xs) (.arr ys) := by
  refine ⟨fun path => ?_, ?_, ?_⟩
  · rw [findSensitivePaths, findSensitivePaths]
    generalize (0 : Nat) = index
    induction pairs generalizing index with
    | nil => rfl
    | cons head _ ih => rw [sensitiveItems, sensitiveItems, head.paths, ih]
  · cases pairs <;> rfl
  · rw [Json.depth, Json.depth]
    congr 1
    induction pairs with
    | nil => rfl
    | cons head _ ih => rw [Json.depthItems, Json.depthItems, head.depth, ih]

theorem unmarked_obj {fs gs : Dict}
    (pairs : List.Forall₂ (fun f g => f.1 = g.1 ∧ Unmarked h f.2 g.2) fs gs) :
    Unmarked h (.obj fs) (.obj gs) := by
  refine ⟨fun path => ?_, ?_, ?_⟩
  · rw [findSensitivePaths, findSensitivePaths]
    induction pairs with
    | nil => rfl
    | @cons f g _ _ head _ ih =>
      obtain ⟨key, value⟩ := f
      obtain ⟨rfl, same⟩ := head
      rw [sensitiveFields, sensitiveFields, same.paths, same.empty, ih]
  · cases pairs <;> rfl
  · rw [Json.depth, Json.depth]
    congr 1
    induction pairs with
    | nil => rfl
    | @cons f g _ _ head _ ih =>
      obtain ⟨key, value⟩ := f
      rw [Json.depthFields, Json.depthFields, head.2.depth, ih]

theorem Unmarked.trans {a b c : Json} (first : Unmarked h a b) (second : Unmarked h b c) :
    Unmarked h a c :=
  ⟨fun path => (first.paths path).trans (second.paths path), first.empty.trans second.empty,
    first.depth.trans second.depth⟩

theorem unmarked_field (front back : Dict) (key : String) {a b : Json} (field : Unmarked h a b) :
    Unmarked h (.obj (front ++ (key, a) :: back)) (.obj (front ++ (key, b) :: back)) := by
  refine unmarked_obj ?_
  induction front with
  | nil => exact .cons ⟨rfl, field⟩ (List.forall₂_same.mpr fun f _ => ⟨rfl, unmarked_refl f.2⟩)
  | cons f rest ih => exact .cons ⟨rfl, unmarked_refl f.2⟩ ih

theorem unmarked_reference (t u : Instant) (e : EvidenceReference) :
    Unmarked h ((stamped t e).dump "Z") ((stamped u e).dump "Z") := by
  by_cases own : IsOwn e
  · rw [stamped_of_own own, stamped_of_own own]
    exact unmarked_field [_, _, _, _, _, _] [_, _, _] "collected_at" (unmarked_time t u)
  · rw [stamped_of_other own, stamped_of_other own]
    exact unmarked_refl _

theorem unmarked_report (t u : Instant) (r : RcaResult) :
    Unmarked h ((r.stamped t).report.dump "Z") ((r.stamped u).report.dump "Z") := by
  have references : List.Forall₂ (Unmarked h)
      ((r.report.evidenceRefs.map (stamped t)).map (EvidenceReference.dump "Z"))
      ((r.report.evidenceRefs.map (stamped u)).map (EvidenceReference.dump "Z")) := by
    rw [List.map_map, List.map_map, List.forall₂_map_left_iff, List.forall₂_map_right_iff]
    exact List.forall₂_same.mpr fun e _ => unmarked_reference t u e
  exact (unmarked_field [_, _, _, _, _, _, _, _, _, _, _] [_, _, _, _] "evidence_refs"
    (unmarked_arr references)).trans
      (unmarked_field [_, _, _, _, _, _, _, _, _, _, _, _, _, _, _] [] "created_at"
        (unmarked_time t u))

theorem unmarked_result (t u : Instant) (r : RcaResult) :
    Unmarked h (r.stamped t).toJson (r.stamped u).toJson :=
  (unmarked_field [_, _, _, _, _, _, _] [_, _, _, _, _] "sent_at" (unmarked_time t u)).trans
    (unmarked_field [_, _, _, _, _, _, _, _, _] [_, _, _] "report" (unmarked_report t u r))

end

/-! Two runs. -/

structure RcaResult.Alike (r s : RcaResult) : Prop where
  reportId : s.report.reportId = r.report.reportId
  messageId : s.messageId = r.messageId
  idempotencyKey : s.idempotencyKey = r.idempotencyKey
  conclusion : s.report.conclusion = r.report.conclusion
  rootCause : s.report.rootCause = r.report.rootCause
  hypotheses : s.report.hypotheses = r.report.hypotheses
  metadata : s.report.modelMetadata = r.report.modelMetadata
  title : s.report.title = r.report.title
  summary : s.report.summary = r.report.summary ∧ s.summaryZh = r.summaryZh
  facts : s.report.evidenceRefs.map EvidenceReference.contentPayload =
    r.report.evidenceRefs.map EvidenceReference.contentPayload
  recommendations : s.report.recommendations = r.report.recommendations

theorem alike_stamped (u : Instant) (r : RcaResult) : r.Alike (r.stamped u) := by
  refine ⟨rfl, rfl, rfl, rfl, rfl, rfl, rfl, rfl, ⟨rfl, rfl⟩, ?_, rfl⟩
  rw [RcaResult.stamped, List.map_map]
  refine List.map_congr_left fun e _ => ?_
  obtain ⟨c, same⟩ := stamped_eq u e
  rw [Function.comp_apply, same]
  rfl

/-- Two runs end alike: with results that are alike or with the same error. Only the size of the
payload can tell them apart, since a time with a fraction of a second is written longer. -/
inductive SameAnalysis : Except AnalysisError RcaResult → Except AnalysisError RcaResult → Prop
  | alike {r s : RcaResult} (alike : r.Alike s) : SameAnalysis (.ok r) (.ok s)
  | failed (e : AnalysisError) : SameAnalysis (.error e) (.error e)
  | secondOversized (r : RcaResult) : SameAnalysis (.ok r) (.error (.payload .size))
  | firstOversized (s : RcaResult) : SameAnalysis (.error (.payload .size)) (.ok s)

/-- What two readings of the clock make of one analysis is the same. -/
theorem analysis_ignores_clock (g : RcaGateway) (q : RcaRequest) (t u : Instant) :
    SameAnalysis (analyze g q (some t)) (analyze g q (some u)) := by
  unfold analyze
  by_cases safe : findSensitivePaths g.host "$" q.toJson = []
  · rw [require, if_pos safe]
    change SameAnalysis (assemble g q t >>= _) (assemble g q u >>= _)
    rw [assemble_stamped g q t u]
    cases assembled : assemble g q t with
    | error e => exact .failed e
    | ok r =>
      have own : r.stamped t = r := stays_of_image (assemble_stamped g q t t) assembled
      have unmarked := unmarked_result (h := g.host) t u r
      rw [own] at unmarked
      change SameAnalysis (require _ _ >>= _) (require _ _ >>= _)
      simp only [toDataPart, unmarked.paths, unmarked.depth]
      by_cases clean : findSensitivePaths g.host "$" (r.stamped u).toJson = []
      · by_cases shallow : (r.stamped u).toJson.depth ≤ maxContractDepth
        · simp only [require, if_pos clean, if_pos shallow]
          by_cases fits : serializedBytes g.host r.toJson ≤ maxContractSerializedBytes <;>
            by_cases fits' : serializedBytes g.host (r.stamped u).toJson ≤
              maxContractSerializedBytes <;> simp only [fits, fits', if_true, if_false]
          · exact .alike (alike_stamped u r)
          · exact .secondOversized r
          · exact .firstOversized (r.stamped u)
          · exact .failed _
        · simp only [require, if_pos clean, if_neg shallow]
          exact .failed _
      · simp only [require, if_neg clean]
        exact .failed _
  · rw [require, if_neg safe]
    exact .failed .privacy

end NetworkAgent.Rca
