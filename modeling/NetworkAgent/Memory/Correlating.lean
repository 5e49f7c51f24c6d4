import NetworkAgent.Memory.ImportRecords

/-! What a correlating create does, with the scope of its record. -/
namespace NetworkAgent.Memory

def correlateOperation : String := "create_or_correlate"

theorem scope_of_createRequest {h : Host} {operation : String} {i : Incident} {w : WriteMetadata}
    {r : Request} (requested : createRequest h operation i w = .ok r) :
    r.scope = ⟨operation, i.incidentId.text, w.idempotencyKey⟩ := by
  simp only [createRequest, Checks.bind_ok, pure, Except.pure, Except.ok.injEq] at requested
  obtain ⟨_, _, _, _, scope, named, rfl⟩ := requested
  obtain ⟨_, _, _, rfl⟩ := requestScope_ok.mp named
  rfl

theorem validateNewIncident_eq {h : Host} {i committed : Incident} {traceId : String}
    {now : Instant} (validated : validateNewIncident h i traceId now = .ok committed) :
    committed = { i with createdAt := now, updatedAt := now } := by
  simp only [validateNewIncident, Checks.bind_ok, pure, Except.pure, Except.ok.injEq] at validated
  obtain ⟨_, _, _, _, _, _, _, _, _, _, rfl⟩ := validated
  rfl

/-- The outcomes of a correlating create under its scope. -/
inductive Correlated (m : Memory) (i : Incident) (scope : Scope) (now : Instant) :
    Except RepositoryError Incident → Memory → Prop
  | failed (e : RepositoryError) : Correlated m i scope now (.error e) m
  | replayed {record : IdempotencyRecord} (stored : m.idempotency.lookup scope = some record) :
      Correlated m i scope now (.ok record.result) m
  | joined {existing : Incident} {fp : Sha256.Digest}
      {table : Table (String × String) SourceEventAssociation}
      (absent : m.idempotency.lookup scope = none) (stored : existing ∈ m.incidents.values) :
      Correlated m i scope now (.ok existing) { m with
        sourceEvents := table, idempotency := m.idempotency.insert scope ⟨fp, existing⟩ }
  | opened {fp : Sha256.Digest} {w : WriteMetadata} {events : List IncidentAuditEvent}
      {table : Table (String × String) SourceEventAssociation}
      (absent : m.idempotency.lookup scope = none) (fresh : i.incidentId.text ∉ m.incidents)
      (detected : i.status = .detected) (revision : i.revision = 0)
      (linked : Linked m.sourceEvents table i.incidentId.text (i.sourceEventIds.map (·.text))) :
      Correlated m i scope now (.ok { i with createdAt := now, updatedAt := now })
        ({ m with sourceEvents := table }.writeIncident ⟨scope, fp, w⟩
          { i with createdAt := now, updatedAt := now } events)

theorem createOrCorrelate_correlated {h : Host} {m : Memory} (safe : m.AllSafe h) (i : Incident)
    (w : WriteMetadata) (now : Instant) :
    Correlated m i ⟨correlateOperation, i.incidentId.text, w.idempotencyKey⟩ now
      (m.createOrCorrelate h i w now).1 (m.createOrCorrelate h i w now).2 := by
  unfold createOrCorrelate settle
  match decided : m.decideCorrelate h i w now with
  | .error e => exact .failed e
  | .ok (.replayed result) =>
    obtain ⟨r, requested, found⟩ := Checks.bind_ok.mp decided
    rcases unlessReplayed_ok.mp found with ⟨record, stored, _, same⟩ | ⟨_, _, _, same⟩
    · cases same
      rw [scope_of_createRequest requested] at stored
      exact .replayed stored
    · cases same
  | .ok (.proceed r work) =>
    obtain ⟨r', requested, found⟩ := Checks.bind_ok.mp decided
    rcases unlessReplayed_ok.mp found with ⟨_, _, _, same⟩ | ⟨absent, a, worked, same⟩
    · cases same
    cases same
    obtain ⟨metadata, clean⟩ := metadata_of_createRequest requested
    have scope := scope_of_createRequest requested
    obtain ⟨r_scope, fp, rw'⟩ := r
    simp only at scope metadata
    subst scope metadata
    obtain ⟨candidate, validated, worked⟩ := Checks.bind_ok.mp worked
    obtain ⟨active, looked, worked⟩ := Checks.bind_ok.mp worked
    have new := newIncident_of_validate validated
    cases active with
    | none =>
      obtain ⟨_, fresh, worked⟩ := Checks.bind_ok.mp worked
      cases worked
      cases validateNewIncident_eq validated
      dsimp only [commitCreate]
      split
      · exact .failed _
      · obtain ⟨incident, texts⟩ := Incident.clean_of_safe new.safe
        rcases registerSourceEvents_spec (m := m) (t := now) clean incident texts with
          ⟨e, failed⟩ | ⟨table, passed, linked, _⟩
        · rw [failed]; exact .failed e
        · rw [passed]
          exact .opened absent (Checks.require_ok.mp fresh) new.detected new.revision linked
    | some existing =>
      cases worked
      obtain ⟨stored, _⟩ := active_of_some looked
      have incident := (Incident.clean_of_safe (safe existing stored)).1
      have texts := (Incident.clean_of_safe new.safe).2
      dsimp only [commitCorrelation]
      rcases registerSourceEvents_spec (m := m) (t := now) clean incident texts with
        ⟨e, failed⟩ | ⟨table, passed, _, _⟩
      · rw [failed]; exact .failed e
      · rw [passed]; exact .joined absent stored


/-! A transition adds no incident, and writes its answer under a scope of its own. -/

theorem commitTransition_known {h : Host} {m : Memory} {r : Request} {current successor : Incident}
    {now : Instant} {k : String} (known : successor.incidentId.text ∈ m.incidents)
    (stored : k ∈ (m.commitTransition h r current successor now).2.incidents) :
    k ∈ m.incidents := by
  unfold commitTransition at stored
  split at stored
  · exact stored
  · next event built =>
    have same := (registerSourceEvents_frame h m successor.incidentId successor.sourceEventIds now
      r.metadata).1
    split at stored
    · next failed =>
      rw [failed] at same
      exact same ▸ stored
    · next passed =>
      rw [passed] at same
      rcases AList.mem_insert _ |>.mp stored with rfl | before
      · exact known
      · exact same ▸ before

theorem transition_known {h : Host} {m : Memory} (keyed : m.Keyed h) {incidentId : String}
    {target : IncidentStatus} {expected : Int} {w : WriteMetadata} {u : Updates} {now : Instant}
    {k : String} (stored : k ∈ (m.transition h incidentId target expected w u now).2.incidents) :
    k ∈ m.incidents := by
  unfold transition settle at stored
  split at stored
  · exact stored
  · exact stored
  · next r work decided =>
    obtain ⟨_, _, admitted⟩ := decideTransition_proceed decided
    have same := (transition_of_ok admitted.accepted).identity.incidentId
    have known : work.2.incidentId.text ∈ m.incidents := by
      rw [same, keyed.key admitted.stored]
      exact mem_iff_lookup.mpr ⟨_, admitted.stored⟩
    dsimp only at stored
    exact commitTransition_known known stored

theorem transition_records {h : Host} {m : Memory} {incidentId : String} {target : IncidentStatus}
    {expected : Int} {w : WriteMetadata} {u : Updates} {now : Instant} {scope : Scope}
    {record : IdempotencyRecord} (operation : scope.operation = correlateOperation)
    (found : (m.transition h incidentId target expected w u now).2.idempotency.lookup scope =
      some record) : m.idempotency.lookup scope = some record := by
  cases before : m.idempotency.lookup scope with
  | some old =>
    have keeps : m.Keeps (m.transition h incidentId target expected w u now).2 :=
      settle_keeps fun r work decided => commitTransition_keeps (unused_of_proceed decided)
    exact (keeps.records _ _ before).symm.trans found
  | none =>
    obtain ⟨r, work, decided, written⟩ := settle_record before found
    have own := commitTransition_record before written
    rw [own, operation_of_transitionRequest (request_of_proceed decided)] at operation
    exact absurd operation (by decide)

end NetworkAgent.Memory
