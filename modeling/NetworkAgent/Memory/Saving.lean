import NetworkAgent.Memory.History

/-! Saving a successor against the transition that makes it. A save sends the fields in
which the successor differs through the state machine as dumped mappings, and no mapping
equals a stored model. -/
namespace NetworkAgent.Memory

def storedOr {α : Type} (same : Bool) (stored candidate : α) : α :=
  if same then stored else candidate

def rebuild (current candidate : Incident) : Incident :=
  { current with
    sourceEventIds := candidate.sourceEventIds
    vendorProfile := candidate.vendorProfile
    severity := candidate.severity
    title := candidate.title
    description := candidate.description
    affectedResources := storedOr
      (PyEq.Same candidate.affectedResources current.affectedResources) current.affectedResources
      candidate.affectedResources
    windowStart := candidate.windowStart
    windowEnd := candidate.windowEnd
    violatedKpis := storedOr (PyEq.Same candidate.violatedKpis current.violatedKpis)
      current.violatedKpis candidate.violatedKpis
    evidenceRefs := storedOr (PyEq.Same candidate.evidenceRefs current.evidenceRefs)
      current.evidenceRefs candidate.evidenceRefs
    hypotheses := candidate.hypotheses
    rootCause := candidate.rootCause
    rcaReports := storedOr (PyEq.Same candidate.rcaReports current.rcaReports)
      current.rcaReports candidate.rcaReports
    recommendations := storedOr (PyEq.Same candidate.recommendations current.recommendations)
      current.recommendations candidate.recommendations
    approvals := storedOr (PyEq.Same candidate.approvals current.approvals)
      current.approvals candidate.approvals
    actionRuns := storedOr (PyEq.Same candidate.actionRuns current.actionRuns)
      current.actionRuns candidate.actionRuns
    verificationRuns := storedOr (PyEq.Same candidate.verificationRuns current.verificationRuns)
      current.verificationRuns candidate.verificationRuns
    modelMetadata := storedOr (normDict candidate.modelMetadata = normDict current.modelMetadata)
      current.modelMetadata candidate.modelMetadata
    ruleVersions := storedOr
      (Json.sortFields candidate.ruleVersions = Json.sortFields current.ruleVersions)
      current.ruleVersions candidate.ruleVersions
    duplicateOf := candidate.duplicateOf }

theorem resolve_changed {α : Type} (same : Bool) (current value : α) :
    (changed same value).resolve current = .ok (storedOr same current value) := by
  cases same <;> rfl

theorem storedOr_eq {α : Type} [DecidableEq α] (stored candidate : α) :
    storedOr (decide (candidate = stored)) stored candidate = candidate := by
  by_cases same : candidate = stored
  · simp [storedOr, same]
  · simp [storedOr, same]

theorem resolveAll_dumped {α : Type} [PyEq α] [DecidableEq α] (current candidate : List α) :
    (dumped current candidate).resolveAll Element.parse current =
      .ok (storedOr (PyEq.Same candidate current) current candidate) := by
  unfold dumped
  by_cases same : PyEq.Same candidate current
  · simp [changed, same, Change.resolveAll, storedOr]
  · simp only [changed, same, decide_false, Change.resolveAll, storedOr]
    refine Checks.mapM_ok.mpr ?_
    rw [List.forall₂_map_left_iff]
    exact List.forall₂_same.mpr fun _ _ => rfl

theorem resolveAll_sources (current candidate : List Identifier) :
    (changed (decide (candidate = current)) (candidate.map (·.text))).resolveAll Identifier.parse
      current = .ok candidate := by
  by_cases same : candidate = current
  · simp [changed, same, Change.resolveAll]
  · simp only [changed, same, decide_false, Change.resolveAll]
    refine Checks.mapM_ok.mpr ?_
    rw [List.forall₂_map_left_iff]
    refine List.forall₂_same.mpr fun s _ => ?_
    have parsed : Identifier.parse s.text = some s := Text.Bounded.parse_text s
    simp [parsed]

theorem merge_differences (current candidate : Incident) :
    (differences current candidate).merge current = .ok (rebuild current candidate) := by
  simp only [Updates.merge, differences, resolve_changed, storedOr_eq, resolveAll_dumped,
    resolveAll_sources, rebuild, requireText, Checks.require, if_true, Bind.bind, Except.bind, pure,
    Except.pure]

/-! The two histories are compared element by element, as dumped. -/

theorem keepsHistory_dumped {α : Type} [PyEq α] [DecidableEq α] (stored candidate : List α) :
    keepsHistory stored (candidate.map fun a => .mapping (some a)) = true ↔ stored = [] := by
  cases stored with
  | nil => simp [keepsHistory]
  | cons a before =>
    cases candidate with
    | nil => simp [keepsHistory]
    | cons c after => simp [keepsHistory, Element.isSame]

theorem requireHistory_dumped {α : Type} [PyEq α] [DecidableEq α] (original : Incident)
    (target : IncidentStatus) (field reason : String) (stored candidate : List α) :
    requireHistory original target field reason (keepsHistory stored) (dumped stored candidate) =
      .ok () ↔ stored = [] ∨ PyEq.Same candidate stored := by
  unfold dumped changed
  by_cases same : PyEq.Same candidate stored
  · simp [requireHistory, same]
  · simp [requireHistory, same, keepsHistory_dumped]

theorem requireHistory_unchanged {α : Type} [PyEq α] [DecidableEq α] (original : Incident)
    (target : IncidentStatus) (field reason : String) (keeps : List (Element α) → Bool)
    {stored candidate : List α} (same : PyEq.Same candidate stored) :
    requireHistory original target field reason keeps (dumped stored candidate) = .ok () := by
  simp [dumped, changed, same, requireHistory]

theorem requireHistory_sources (original : Incident) (target : IncidentStatus)
    (field reason : String) {candidate : List Identifier}
    (history : PyEq.Extends original.sourceEventIds candidate) :
    requireHistory original target field reason
      (fun after => decide (original.sourceEventIds.map (·.text) <+: after))
      (changed (decide (candidate = original.sourceEventIds)) (candidate.map (·.text))) =
      .ok () := by
  have first : original.sourceEventIds <+: candidate := by
    have normed := PyEq.extends_iff.mp history
    have plain : (PyEq.norm : Identifier → Identifier) = id := rfl
    simpa [plain] using normed
  unfold changed
  split
  · rfl
  · simpa [requireHistory] using first.map (·.text)

structure NewHistories (current candidate : Incident) : Prop where
  approvals : current.approvals = [] ∨ PyEq.Same candidate.approvals current.approvals
  rcaReports : current.rcaReports = [] ∨ PyEq.Same candidate.rcaReports current.rcaReports
  actionRuns : current.actionRuns = [] ∨ PyEq.Same candidate.actionRuns current.actionRuns
  verificationRuns : current.verificationRuns = [] ∨
    PyEq.Same candidate.verificationRuns current.verificationRuns
  evidenceRefs : current.evidenceRefs = [] ∨
    PyEq.Same candidate.evidenceRefs current.evidenceRefs

theorem requestedHistory_differences {h : Host} {current candidate : Incident}
    {target : IncidentStatus} {now : Instant} (t : Transition h current target now candidate) :
    validateRequestedHistoryUpdate current target (differences current candidate) = .ok () ↔
      NewHistories current candidate := by
  have sources := requireHistory_sources current target "source_event_ids"
    (appendOnlyText "source_event_ids") t.history.sourceEventIds
  have frozen : (if current.status.freezesRecommendations = true then
      requireHistory current target "recommendations" frozenText
        (sameHistory current.recommendations)
        (dumped current.recommendations candidate.recommendations) else Except.ok ()) =
      Except.ok () := by
    split
    · next fixed => exact requireHistory_unchanged _ _ _ _ _ (t.frozen fixed)
    · rfl
  simp only [validateRequestedHistoryUpdate, differences, Checks.seq_ok, requireHistory_dumped,
    sources]
  constructor
  · rintro ⟨approvals, reports, actions, verifications, evidence, _⟩
    exact ⟨approvals, reports, actions, verifications, evidence⟩
  · rintro ⟨approvals, reports, actions, verifications, evidence⟩
    exact ⟨approvals, reports, actions, verifications, evidence, trivial, frozen⟩

/-! What a save stores. -/

/-- The successor that a save stores: the rebuilt incident, with the status, the revision
and the time of the transition. -/
def rebuilt (current successor : Incident) (now : Instant) : Incident :=
  (rebuild current successor).stamp successor.status (current.revision + 1) now

theorem storedOr_map {α β : Type} (f : α → β) [DecidableEq β] (stored candidate : α) :
    f (storedOr (decide (f candidate = f stored)) stored candidate) = f candidate := by
  by_cases same : f candidate = f stored
  · simp [storedOr, same]
  · simp [storedOr, same]

theorem storedOr_same {α : Type} [PyEq α] [DecidableEq α] (stored candidate : List α) :
    (storedOr (decide (PyEq.Same candidate stored)) stored candidate).map PyEq.norm =
      candidate.map PyEq.norm := by
  by_cases same : PyEq.Same candidate stored
  · simp only [storedOr, same, decide_true, if_true]
    exact same.symm
  · simp [storedOr, same]

theorem rebuilt_same {current successor : Incident} (identity : current.SameIdentity successor)
    (revision : successor.revision = current.revision + 1) (now : Instant) :
    SameExceptTime (rebuilt current successor now) successor := by
  have metadata := storedOr_map normDict current.modelMetadata successor.modelMetadata
  have versions := storedOr_map Json.sortFields current.ruleVersions successor.ruleVersions
  change Incident.norm _ = Incident.norm _
  simp only [Incident.norm, rebuilt, rebuild, Incident.stamp, storedOr_same, metadata, versions,
    ← revision, ← identity.incidentId, ← identity.correlationKey, ← identity.technology,
    ← identity.createdAt, ← identity.detectedAt, ← identity.traceId]

theorem storedOr_extends {α : Type} [PyEq α] [DecidableEq α] {stored candidate : List α}
    (kept : stored = [] ∨ PyEq.Same candidate stored) :
    PyEq.Extends stored (storedOr (decide (PyEq.Same candidate stored)) stored candidate) := by
  by_cases same : PyEq.Same candidate stored
  · simp only [storedOr, same, decide_true, if_true]
    exact PyEq.extends_refl stored
  · rw [kept.resolve_right same]
    rfl

theorem rebuilt_keeps {h : Host} {current successor : Incident} {target : IncidentStatus}
    {at' : Instant} (t : Transition h current target at' successor)
    (kept : NewHistories current successor) (now : Instant) :
    validateAppendOnly current (rebuilt current successor now) = .ok () := by
  refine validateAppendOnly_ok.mpr ⟨?_, fun fixed => ?_⟩
  · exact {
      approvals := storedOr_extends kept.approvals
      rcaReports := storedOr_extends kept.rcaReports
      actionRuns := storedOr_extends kept.actionRuns
      verificationRuns := storedOr_extends kept.verificationRuns
      evidenceRefs := storedOr_extends kept.evidenceRefs
      sourceEventIds := t.history.sourceEventIds }
  · have same := t.frozen fixed
    simp only [rebuilt, rebuild, Incident.stamp, storedOr, same, decide_true, if_true]
    rfl

theorem transition_differences {h : Host} {current successor s : Incident}
    {at' now : Instant} (t : Transition h current successor.status at' successor)
    (ordered : current.updatedAt ≤ now) :
    transitionIncident h current successor.status current.revision (.given now) (.given now)
        (differences current successor) = .ok s ↔
      s = rebuilt current successor now ∧ NewHistories current successor ∧
        (rebuilt current successor now).Valid h ∧
        validateTarget h (rebuilt current successor now) successor.status now = .ok () := by
  have time : (When.given now).transitionTime current.updatedAt = .ok now :=
    Checks.seq_ok.mpr ⟨Checks.require_ok.mpr ordered, rfl⟩
  have keys : (differences current successor).others = [] := rfl
  simp only [transitionIncident_ok, requestedHistory_differences t, merge_differences, time, keys,
    t.edge, List.filter_nil, true_and, Except.ok.injEq, exists_eq_left', When.trustedNow]
  constructor
  · rintro ⟨kept, rfl, valid, guards⟩
    exact ⟨rfl, kept, valid, (Checks.seq_ok.mp guards).2⟩
  · rintro ⟨rfl, kept, valid, reached⟩
    exact ⟨kept, rfl, valid, Checks.seq_ok.mpr ⟨rebuilt_keeps t kept now, reached⟩⟩

theorem SameExceptTime.retime {a b : Incident} (same : SameExceptTime a b) (t : Instant) :
    PyEq.Same { a with updatedAt := t } { b with updatedAt := t } := by
  have timed := congrArg (fun i : Incident => ({ i with updatedAt := t } : Incident)) same
  exact timed

/-! The event and the commit. -/

theorem isWhiteSpace_of_isHexDigit {c : Char} (hex : Sha256.isHexDigit c = true) :
    isWhiteSpace c = false := by
  have code : ∀ a b : Char, a ≤ b ↔ a.toNat ≤ b.toNat := fun _ _ => Iff.rfl
  simp only [Sha256.isHexDigit, Bool.or_eq_true, Bool.and_eq_true, decide_eq_true_eq, code] at hex
  have bounds : '0'.toNat = 48 ∧ '9'.toNat = 57 ∧ 'a'.toNat = 97 ∧ 'f'.toNat = 102 := by decide
  simp only [isWhiteSpace, Bool.or_eq_false_iff, Bool.and_eq_false_iff, decide_eq_false_iff_not,
    beq_eq_false_iff_ne]
  omega

theorem eventId_parses (digest : Sha256.Digest) :
    ∃ id, Identifier.parse ("audit-" ++ String.ofList (digest.text.toList.take 32)) = some id := by
  have size : ("audit-" ++ String.ofList (digest.text.toList.take 32)).length = 38 := by
    have letters : "audit-".length = 6 := by decide
    rw [String.length_append, letters, String.length_ofList, List.length_take,
      String.length_toList, digest.length]
    rfl
  have fixed := Text.trim_fixed (p := isWhiteSpace)
    (s := "audit-" ++ String.ofList (digest.text.toList.take 32)) (by
      intro c member
      simp only [String.toList_append, String.toList_ofList, List.mem_append] at member
      rcases member with letter | hex
      · have letters : "audit-".toList.all (fun c => !isWhiteSpace c) = true := by decide
        simpa using List.all_eq_true.mp letters c letter
      · exact isWhiteSpace_of_isHexDigit
          (List.all_eq_true.mp digest.hex c (List.mem_of_mem_take hex)))
  exact ⟨⟨_, fixed, by omega, by omega⟩, Text.Bounded.parse_eq_some.mpr fixed⟩

def SameRecord (e e' : IncidentAuditEvent) : Prop := { e with eventId := e'.eventId } = e'

theorem auditEvent_same {h : Host} {i j : Incident} {fromStatus : Option IncidentStatus}
    {w : WriteMetadata} {fp : Sha256.Digest} {t : Instant} {e : IncidentAuditEvent}
    (built : auditEvent h i fromStatus w fp t = .ok e) (incidentId : j.incidentId = i.incidentId)
    (status : j.status = i.status) (revision : j.revision = i.revision) (fp' : Sha256.Digest) :
    ∃ e', auditEvent h j fromStatus w fp' t = .ok e' ∧ SameRecord e e' := by
  have parsed : ∃ a, w.attribution = some a := by
    unfold auditEvent at built
    generalize h.sha256 _ = eventDigest at built
    extract_lets eventId at built
    split at built
    · next a _ found => exact ⟨a, found⟩
    · cases built
  obtain ⟨a, parsed⟩ := parsed
  obtain ⟨id, name⟩ := eventId_parses
    (h.sha256 (utf8 i.incidentId.text ++ 0 :: utf8 w.idempotencyKey ++ 0 :: utf8 fp.text))
  obtain ⟨id', name'⟩ := eventId_parses
    (h.sha256 (utf8 j.incidentId.text ++ 0 :: utf8 w.idempotencyKey ++ 0 :: utf8 fp'.text))
  unfold auditEvent at built ⊢
  simp only [parsed, name, Except.ok.injEq] at built
  simp only [parsed, name', Except.ok.injEq, exists_eq_left']
  rw [← built, incidentId, status, revision]
  rfl

theorem commitTransition_ok {h : Host} {m m' : Memory} {r : Request}
    {current successor s : Incident} {now : Instant} :
    m.commitTransition h r current successor now = (.ok s, m') ↔
      s = successor ∧ ∃ event,
        auditEvent h successor (some current.status) r.metadata r.fingerprint now = .ok event ∧
        ∃ m₁, m.registerSourceEvents h successor.incidentId successor.sourceEventIds now
            r.metadata = (.ok (), m₁) ∧
          m' = m₁.writeIncident r successor
            (((m₁.history.lookup successor.incidentId.text).getD []) ++ [event]) := by
  unfold commitTransition
  cases auditEvent h successor (some current.status) r.metadata r.fingerprint now with
  | error e => simp
  | ok event =>
    rcases m.registerSourceEvents h successor.incidentId successor.sourceEventIds now
      r.metadata with ⟨_ | _, m₁⟩
    · simp
    · simp [eq_comm]

/-- The save left what the transition left: the same incident and associations, and the
same trail up to the name of its last event. -/
structure SameCommit (t s : Incident) (m' m'' : Memory) : Prop where
  incident : PyEq.Same s t
  stored : m'.incidents.lookup t.incidentId.text = some t ∧
    m''.incidents.lookup t.incidentId.text = some s
  sources : m''.sourceEvents = m'.sourceEvents
  trail : ∃ events e e', m'.history.lookup t.incidentId.text = some (events ++ [e]) ∧
    m''.history.lookup t.incidentId.text = some (events ++ [e']) ∧ SameRecord e e'

theorem commitTransition_same {h : Host} {m m' : Memory} {r r' : Request}
    {current t s a : Incident} {now : Instant}
    (committed : m.commitTransition h r current t now = (.ok a, m'))
    (metadata : r'.metadata = r.metadata) (same : PyEq.Same s t)
    (sources : s.sourceEventIds = t.sourceEventIds) :
    ∃ m'', m.commitTransition h r' current s now = (.ok s, m'') ∧ SameCommit t s m' m'' := by
  obtain ⟨_, event, built, m₁, registered, rfl⟩ := commitTransition_ok.mp committed
  have incidentId : s.incidentId = t.incidentId := same.congr _ fun _ => rfl
  obtain ⟨event', built', record⟩ := auditEvent_same built incidentId
    (same.congr Incident.status fun _ => rfl) (same.congr Incident.revision fun _ => rfl)
    r'.fingerprint
  have before : m₁.history.lookup s.incidentId.text = m₁.history.lookup t.incidentId.text := by
    rw [incidentId]
  refine ⟨_, commitTransition_ok.mpr ⟨rfl, event', metadata ▸ built', m₁, ?_, rfl⟩, ?_⟩
  · rw [incidentId, sources, metadata]; exact registered
  · exact {
      incident := same
      stored := ⟨by simp [writeIncident], by simp [writeIncident, incidentId]⟩
      sources := rfl
      trail := ⟨_, event, event', by simp [writeIncident]; rfl,
        by simp only [writeIncident, incidentId, before, AList.lookup_insert], record⟩ }

/-! The save of a successor. -/

/-- What a save has to let through: new histories only, and equal values that the stored
ones can stand in for. -/
structure Savable (h : Host) (current successor : Incident) (now : Instant) : Prop where
  histories : NewHistories current successor
  candidate : RepositorySafe h successor.toJson
  differences : RepositorySafe h (.obj (Memory.differences current successor).image)
  valid : (rebuilt current successor now).Valid h
  target : validateTarget h (rebuilt current successor now) successor.status now = .ok ()
  safe : RepositorySafe h (rebuilt current successor now).toJson

theorem decideSave_ok {h : Host} {m : Memory} {i : Incident} {expected : Int} {w : WriteMetadata}
    {now : Instant} {r : Request} {work : Incident × Incident} :
    m.decideSave h i expected w now = .ok (.proceed r work) ↔
      saveRequest h i expected w = .ok r ∧ m.idempotency.lookup r.scope = none ∧
      ∃ current, m.requireCurrent i.incidentId.text = .ok current ∧
      (expected = current.revision ∧ (i.revision : Int) = expected + 1) ∧
      current.traceId.text = w.traceId ∧ i.Valid h ∧
      RepositorySafe h (.obj (differences current i).image) ∧
      ∃ s, transitionIncident h current i.status expected (.given now) (.given now)
        (differences current i) = .ok s ∧ SameExceptTime s i ∧ RepositorySafe h s.toJson ∧
      m.requireReactivationKeys current s = .ok () ∧ work = (current, s) := by
  unfold decideSave
  rw [Checks.bind_ok]
  constructor
  · rintro ⟨r', requested, found⟩
    rcases unlessReplayed_ok.mp found with ⟨_, _, _, same⟩ | ⟨absent, work', done, same⟩
    · cases same
    · cases same
      simp only [requireTrace, Checks.bind_ok, requireValue_ok, liftValidation_ok,
        liftTransition_ok, Checks.require_ok, assertSafe_ok, assertRepositorySafe_ok, pure,
        Except.pure, Except.ok.injEq] at done
      obtain ⟨current, present, _, revision, _, trace, _, valid, _, ⟨image, _⟩, s, accepted, _,
        same, _, ⟨safe, _⟩, _, keys, rfl⟩ := done
      exact ⟨requested, absent, current, present, revision, trace, valid, image, s, accepted, same,
        safe, keys, rfl⟩
  · rintro ⟨requested, absent, current, present, revision, trace, valid, image, s, accepted, same,
      safe, keys, rfl⟩
    refine ⟨r, requested, unlessReplayed_ok.mpr (.inr ⟨absent, _, ?_, rfl⟩)⟩
    simp only [requireTrace, Checks.bind_ok, requireValue_ok, liftValidation_ok,
      liftTransition_ok, Checks.require_ok, assertSafe_ok, assertRepositorySafe_ok, pure,
      Except.pure, Except.ok.injEq]
    exact ⟨current, present, (), revision, (), trace, (), valid, _, ⟨image, rfl⟩, s, accepted, (),
      same, _, ⟨safe, rfl⟩, (), keys, rfl⟩

theorem requestScope_ok {operation incidentId idempotencyKey : String} {scope : Scope} :
    requestScope operation incidentId idempotencyKey = .ok scope ↔
      requireNonEmpty "operation" operation 64 = .ok () ∧
      requireNonEmpty "incident_id" incidentId 256 = .ok () ∧
      requireNonEmpty "idempotency_key" idempotencyKey 256 = .ok () ∧
      scope = ⟨operation, incidentId, idempotencyKey⟩ := by
  simp only [requestScope, Checks.seq_ok, pure, Except.pure, Except.ok.injEq]
  rw [eq_comm (a := scope)]

theorem saveRequest_ok {h : Host} {i : Incident} {expected : Int} {w : WriteMetadata} {r : Request} :
    saveRequest h i expected w = .ok r ↔ w.require h = .ok () ∧ RepositorySafe h i.toJson ∧
      0 ≤ expected ∧ requestScope "save" i.incidentId.text w.idempotencyKey = .ok r.scope ∧
      r = ⟨r.scope, fingerprint h "save" (("incident", i.toJson) ::
        ("expected_revision", .int expected) :: w.fields), w⟩ := by
  simp only [saveRequest, Checks.bind_ok, requireValue_ok, assertSafe_ok,
    assertRepositorySafe_ok, pure, Except.pure, Except.ok.injEq]
  constructor
  · rintro ⟨_, passed, _, ⟨safe, _⟩, _, positive, scope, named, rfl⟩
    exact ⟨passed, safe, positive, named, rfl⟩
  · rintro ⟨passed, safe, positive, named, same⟩
    exact ⟨(), passed, _, ⟨safe, rfl⟩, (), positive, r.scope, named, same.symm⟩

theorem transition_committed {h : Host} {m m' : Memory} {incidentId : String}
    {target : IncidentStatus} {expected : Int} {w : WriteMetadata} {u : Updates} {now : Instant}
    {t : Incident}
    (unused : m.idempotency.lookup ⟨"transition", incidentId, w.idempotencyKey⟩ = none)
    (committed : m.transition h incidentId target expected w u now = (.ok t, m')) :
    ∃ r current, transitionRequest h incidentId target expected w u = .ok r ∧
      Admitted h m incidentId target expected w.traceId now u current t ∧
      m.commitTransition h r current t now = (.ok t, m') := by
  unfold transition settle at committed
  split at committed
  · cases committed
  · next result decided =>
    obtain ⟨r, requested, found⟩ := Checks.bind_ok.mp decided
    simp only [transitionRequest, Checks.bind_ok, pure, Except.pure, Except.ok.injEq] at requested
    obtain ⟨_, _, _, _, _, _, _, named, rfl⟩ := requested
    obtain ⟨_, _, _, rfl⟩ := requestScope_ok.mp named
    rcases unlessReplayed_ok.mp found with ⟨_, present, _⟩ | ⟨_, _, _, same⟩
    · rw [unused] at present; cases present
    · cases same
  · next r work decided =>
    obtain ⟨requested, _, admitted⟩ := decideTransition_proceed decided
    obtain ⟨rfl, _⟩ := commitTransition_ok.mp committed
    exact ⟨r, work.1, requested, admitted, committed⟩

theorem save_committed {h : Host} {m m' : Memory} {i s : Incident} {expected : Int}
    {w : WriteMetadata} {now : Instant}
    (unused : m.idempotency.lookup ⟨"save", i.incidentId.text, w.idempotencyKey⟩ = none) :
    m.save h i expected w now = (.ok s, m') ↔ ∃ r current,
      m.decideSave h i expected w now = .ok (.proceed r (current, s)) ∧
        m.commitTransition h r current s now = (.ok s, m') := by
  unfold save settle
  constructor
  · intro committed
    split at committed
    · cases committed
    · next result decided =>
      obtain ⟨r, requested, found⟩ := Checks.bind_ok.mp decided
      obtain ⟨_, _, _, named, _⟩ := saveRequest_ok.mp requested
      obtain ⟨_, _, _, scope⟩ := requestScope_ok.mp named
      rcases unlessReplayed_ok.mp found with ⟨_, present, _⟩ | ⟨_, _, _, same⟩
      · rw [scope, unused] at present; cases present
      · cases same
    · next r work decided =>
      obtain ⟨rfl, _⟩ := commitTransition_ok.mp committed
      exact ⟨r, work.1, decided, committed⟩
  · rintro ⟨r, current, decided, committed⟩
    rw [decided]
    exact committed

theorem transition_time_only {h : Host} {i s t : Incident} {target : IncidentStatus}
    {expected : Int} {at' tn : When} {now : Instant} {u : Updates}
    (first : transitionIncident h i target expected at' tn u = .ok s)
    (second : transitionIncident h i target expected (.given now) (.given now) u = .ok t) :
    t = { s with updatedAt := now } ∧ i.updatedAt ≤ now := by
  obtain ⟨_, _, _, _, _, _, _, merged, rfl, _⟩ := transitionIncident_ok.mp first
  obtain ⟨_, _, _, _, _, time, _, merged', rfl, _⟩ := transitionIncident_ok.mp second
  cases merged.symm.trans merged'
  obtain ⟨ordered, same⟩ := Checks.seq_ok.mp time
  cases same
  exact ⟨rfl, Checks.require_ok.mp ordered⟩

def SaveAgrees (h : Host) (m : Memory) (successor : Incident) (expected : Int)
    (w : WriteMetadata) (now : Instant) (t : Incident) (m' : Memory) : Prop :=
  ∃ s m'', m.save h successor expected w now = (.ok s, m'') ∧ SameCommit t s m' m''

/-- What a committed transition says about the save of the successor it makes. -/
structure Comparable (h : Host) (m : Memory) (w : WriteMetadata) (now : Instant)
    (current successor t : Incident) (m' : Memory) : Prop where
  step : ∃ at', Transition h current successor.status at' successor
  time : t = { successor with updatedAt := now }
  ordered : current.updatedAt ≤ now
  present : m.requireCurrent successor.incidentId.text = .ok current
  passed : w.require h = .ok ()
  named : requestScope "save" successor.incidentId.text w.idempotencyKey =
    .ok ⟨"save", successor.incidentId.text, w.idempotencyKey⟩
  trace : current.traceId.text = w.traceId
  keys : m.requireReactivationKeys current t = .ok ()
  commit : ∃ r, r.metadata = w ∧ m.commitTransition h r current t now = (.ok t, m')

section
variable {h : Host} {m m' : Memory} {w : WriteMetadata} {now : Instant}
  {current successor t : Incident}

set_option maxRecDepth 8000 in
theorem comparable_of_transition {incidentId : String} {target : IncidentStatus} {at' tn : When}
    {u : Updates} (keyed : m.Keyed h) (stored : m.incidents.lookup incidentId = some current)
    (accepted : transitionIncident h current target current.revision at' tn u = .ok successor)
    (fresh : m.idempotency.lookup ⟨"transition", incidentId, w.idempotencyKey⟩ = none)
    (committed : m.transition h incidentId target current.revision w u now = (.ok t, m')) :
    Comparable h m w now current successor t m' ∧ successor.incidentId.text = incidentId := by
  have step := transition_of_ok accepted
  obtain rfl := step.status
  obtain rfl : successor.incidentId.text = incidentId := by
    rw [step.identity.incidentId, keyed.key stored]
  obtain ⟨r, found, requested, admitted, commit⟩ := transition_committed fresh committed
  simp only [transitionRequest, Checks.bind_ok, pure, Except.pure, Except.ok.injEq] at requested
  obtain ⟨_, passed, _, _, _, _, _, named, rfl⟩ := requested
  obtain ⟨_, incidentName, keyName, rfl⟩ := requestScope_ok.mp named
  cases stored.symm.trans admitted.stored
  obtain ⟨time, ordered⟩ := transition_time_only accepted admitted.accepted
  refine ⟨?_, rfl⟩
  exact {
    step := ⟨_, step⟩
    time := time
    ordered := ordered
    present := by unfold requireCurrent; rw [stored]
    passed := passed
    named := requestScope_ok.mpr ⟨by decide, incidentName, keyName, rfl⟩
    trace := admitted.trace
    keys := admitted.reactivated
    commit := ⟨_, rfl, commit⟩ }

theorem savable_of_agrees (comparable : Comparable h m w now current successor t m')
    (unused : m.idempotency.lookup ⟨"save", successor.incidentId.text, w.idempotencyKey⟩ = none)
    (agrees : SaveAgrees h m successor current.revision w now t m') :
    Savable h current successor now := by
  obtain ⟨_, step⟩ := comparable.step
  obtain ⟨s, m'', saved, _⟩ := agrees
  obtain ⟨r, found, decided, _⟩ := (save_committed unused).mp saved
  obtain ⟨requested, _, found', present, _, _, _, image, s', accepted, _, safe, _, same⟩ :=
    decideSave_ok.mp decided
  cases same
  cases comparable.present.symm.trans present
  obtain ⟨rfl, histories, valid, reached⟩ :=
    (transition_differences step comparable.ordered).mp accepted
  exact ⟨histories, (saveRequest_ok.mp requested).2.1, image, valid, reached, safe⟩

theorem agrees_of_savable (comparable : Comparable h m w now current successor t m')
    (unused : m.idempotency.lookup ⟨"save", successor.incidentId.text, w.idempotencyKey⟩ = none)
    (savable : Savable h current successor now) :
    SaveAgrees h m successor current.revision w now t m' := by
  obtain ⟨_, step⟩ := comparable.step
  obtain ⟨r, requested, scope, metadata⟩ : ∃ r,
      saveRequest h successor current.revision w = .ok r ∧
        r.scope = ⟨"save", successor.incidentId.text, w.idempotencyKey⟩ ∧ r.metadata = w :=
    ⟨⟨⟨"save", successor.incidentId.text, w.idempotencyKey⟩, _, w⟩,
      saveRequest_ok.mpr ⟨comparable.passed, savable.candidate, Int.natCast_nonneg _,
        comparable.named, rfl⟩, rfl, rfl⟩
  have same := rebuilt_same step.identity step.revision now
  have revision : (successor.revision : Int) = (current.revision : Int) + 1 := by
    rw [step.revision]; rfl
  have stored : PyEq.Same (rebuilt current successor now) { successor with updatedAt := now } :=
    SameExceptTime.retime same now
  have keys : m.requireReactivationKeys current (rebuilt current successor now) = .ok () := by
    have key := step.identity.correlationKey
    have id := step.identity.incidentId
    have admitted := comparable.keys
    simp only [comparable.time, requireReactivationKeys, rebuilt, rebuild, Incident.stamp, key,
      id] at admitted ⊢
    exact admitted
  have decided := decideSave_ok.mpr ⟨requested, scope ▸ unused, current, comparable.present,
    ⟨rfl, revision⟩, comparable.trace, step.valid, savable.differences, _,
    (transition_differences step comparable.ordered).mpr ⟨rfl, savable.histories, savable.valid,
      savable.target⟩, same, savable.safe, keys, rfl⟩
  obtain ⟨r', own, commit⟩ := comparable.commit
  rw [comparable.time] at commit ⊢
  obtain ⟨m'', saved, agrees⟩ := commitTransition_same commit (metadata.trans own.symm) stored rfl
  exact ⟨_, m'', (save_committed unused).mpr ⟨r, current, decided, saved⟩, agrees⟩

end

/-- The save of a successor agrees with the transition that makes it exactly when it can be
let through. -/
theorem save_agrees_iff {h : Host} {calls : List (Instant × Call)} {w : WriteMetadata}
    {now : Instant} {incidentId : String} {target : IncidentStatus} {at' tn : When} {u : Updates}
    {current successor t : Incident} {m' : Memory}
    (stored : (run h {} calls).incidents.lookup incidentId = some current)
    (accepted : transitionIncident h current target current.revision at' tn u = .ok successor)
    (fresh : (run h {} calls).idempotency.lookup
      ⟨"transition", incidentId, w.idempotencyKey⟩ = none)
    (unused : (run h {} calls).idempotency.lookup ⟨"save", incidentId, w.idempotencyKey⟩ = none)
    (committed : (run h {} calls).transition h incidentId target current.revision w u now =
      (.ok t, m')) :
    SaveAgrees h (run h {} calls) successor current.revision w now t m' ↔
      Savable h current successor now := by
  obtain ⟨comparable, rfl⟩ :=
    comparable_of_transition (run_keyed h calls) stored accepted fresh committed
  exact ⟨savable_of_agrees comparable unused, agrees_of_savable comparable unused⟩

theorem eq_of_fst {α β : Type} {pair : α × β} {a : α} (first : pair.1 = a) : pair = (a, pair.2) :=
  Prod.ext first rfl

/-! A second piece of evidence. -/
namespace Sample

def firstEvidence : EvidenceReference where
  evidenceId := .ofText "e1" (by decide +kernel)
  evidenceType := .log
  uri := .ofText "urn:1" (by decide +kernel)

def secondEvidence : EvidenceReference :=
  { firstEvidence with evidenceId := .ofText "e2" (by decide +kernel) }

def incident : Incident where
  incidentId := .ofText "i" fits_i
  evidenceRefs := [firstEvidence]
  detectedAt := 0
  traceId := .ofText "t" fits_t
  createdAt := 0
  updatedAt := 0

def appended : Incident :=
  { incident.stamp .triaged 1 1 with evidenceRefs := [firstEvidence, secondEvidence] }

def metadata (idempotencyKey : String) : WriteMetadata := ⟨idempotencyKey, "a", "r", "t"⟩

def updates : Updates where
  evidenceRefs := .set [.model firstEvidence, .model secondEvidence]
  image := [("evidence_refs", .arr [firstEvidence.dump "Z", secondEvidence.dump "Z"])]

def calls : List (Instant × Call) := [(0, .create incident (metadata "k0"))]

/-- What the creation and the transition compute. -/
class Computed : Prop where
  accepted : transitionIncident Host.ascii incident .triaged incident.revision (.given 1) (.given 1)
    updates = .ok appended
  created : (run Host.ascii {} calls).incidents.lookup "i" = some incident ∧
    ((run Host.ascii {} calls).idempotency.lookup ⟨"transition", "i", "k1"⟩).isNone = true ∧
    ((run Host.ascii {} calls).idempotency.lookup ⟨"save", "i", "k1"⟩).isNone = true ∧
    ((run Host.ascii {} calls).transition Host.ascii "i" .triaged incident.revision
      (metadata "k1") updates 1).1 = .ok appended

set_option maxRecDepth 8000 in
instance computed : Computed where
  accepted := by decide
  created := by decide +kernel

theorem transitioned : ∃ m', (run Host.ascii {} calls).transition Host.ascii "i" .triaged
    incident.revision (metadata "k1") updates 1 = (.ok appended, m') :=
  ⟨_, eq_of_fst computed.created.2.2.2⟩

end Sample

theorem save_agrees_iff_appended : ∃ m', (run Host.ascii {} Sample.calls).transition Host.ascii
      "i" .triaged Sample.incident.revision (Sample.metadata "k1") Sample.updates 1 =
      (.ok Sample.appended, m') ∧
    (SaveAgrees Host.ascii (run Host.ascii {} Sample.calls) Sample.appended
      Sample.incident.revision (Sample.metadata "k1") 1 Sample.appended m' ↔
      Savable Host.ascii Sample.incident Sample.appended 1) := by
  obtain ⟨accepted, stored, fresh, unused, _⟩ := Sample.computed
  obtain ⟨m', committed⟩ := Sample.transitioned
  exact ⟨m', committed, save_agrees_iff stored accepted (Option.isNone_iff_eq_none.mp fresh)
    (Option.isNone_iff_eq_none.mp unused) committed⟩

set_option maxRecDepth 8000 in
/-- A save of a successor with a second piece of evidence does not go through. -/
theorem save_refuses_appended_evidence : ¬ ∀ (h : Host) (calls : List (Instant × Call))
    (w : WriteMetadata) (now : Instant) (incidentId : String) (target : IncidentStatus)
    (at' tn : When) (u : Updates) (current successor t : Incident) (m' : Memory),
    (run h {} calls).incidents.lookup incidentId = some current →
    transitionIncident h current target current.revision at' tn u = .ok successor →
    (run h {} calls).idempotency.lookup ⟨"transition", incidentId, w.idempotencyKey⟩ = none →
    (run h {} calls).idempotency.lookup ⟨"save", incidentId, w.idempotencyKey⟩ = none →
    (run h {} calls).transition h incidentId target current.revision w u now = (.ok t, m') →
    SaveAgrees h (run h {} calls) successor current.revision w now t m' := by
  intro claimed
  obtain ⟨accepted, stored, fresh, unused, _⟩ := Sample.computed
  have fresh := Option.isNone_iff_eq_none.mp fresh
  have unused := Option.isNone_iff_eq_none.mp unused
  obtain ⟨m', committed⟩ := Sample.transitioned
  have agrees := claimed Host.ascii Sample.calls (Sample.metadata "k1") 1 "i" .triaged (.given 1)
    (.given 1) Sample.updates Sample.incident Sample.appended Sample.appended m' stored
    accepted fresh unused committed
  obtain ⟨comparable, same⟩ := comparable_of_transition (w := Sample.metadata "k1")
    (run_keyed Host.ascii Sample.calls) stored accepted fresh committed
  rw [← same] at unused
  have savable := savable_of_agrees comparable unused agrees
  exact absurd savable.histories.evidenceRefs (by decide)

end NetworkAgent.Memory
