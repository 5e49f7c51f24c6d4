import NetworkAgent.Cloud.IngestReplay

/-! The ingestion of an event that is already associated with the active incident it correlates
to: the association is kept as it was registered, and the result and its replay are bound to it. -/
namespace NetworkAgent.Cloud
open Memory (Request)

namespace Spanner

theorem erase_unused {s : Spanner} {scope : Scope} (unused : s.idempotency.lookup scope = none) :
    { s with idempotency := s.idempotency.erase scope } = s := by
  have absent : scope ∉ s.idempotency := AList.lookup_eq_none.mp unused
  have same : s.idempotency.erase scope = s.idempotency :=
    AList.ext (List.kerase_of_notMem_keys absent)
  rw [same]

theorem Registered.kept {h : Host} {s : Spanner} {incidentId : Identifier} {ids : List Identifier}
    {now : Instant} {r : Request} {associations : List SourceEventAssociation}
    {rows : List SourceRow} (registered : Registered h s incidentId ids now r associations rows)
    (keyed : s.Keyed h) {row : SourceRow} {id : Identifier}
    (stored : s.sourceEvents.lookup (incidentId.text, id.text) = some row) (inside : id ∈ ids) :
    associations.find? (fun a => a.sourceEventId = id) = some row.payload ∧
      row.columns = sourceBinding row.payload := by
  obtain ⟨answer, listed, named⟩ := registered.covered id inside
  obtain ⟨a, found⟩ := Option.isSome_iff_exists.mp
    (List.find?_isSome.mpr ⟨answer, listed, by simpa using named⟩ :
      (associations.find? fun a => decide (a.sourceEventId = id)).isSome)
  have same : a.sourceEventId = id := by simpa using List.find?_some found
  obtain ⟨owner, _, source⟩ := registered.answered a (List.mem_of_find?_eq_some found)
  rw [found]
  rcases source with ⟨new, written, rfl⟩ | old
  · obtain ⟨id', _, _, _, rfl, _⟩ := registered.built new written
    have columns : row.columns.sourceEventId = id.text :=
      congrArg Prod.snd (keyed.sources _ row stored).1
    exact absurd (columns.trans (congrArg Text.Bounded.text same.symm))
      (registered.new _ written row (Table.mem_values.mpr ⟨_, stored⟩))
  · obtain ⟨key, here⟩ := Table.mem_values.mp old
    have place : (incidentId.text, id.text) = key := by
      rw [← (keyed.sources key _ here).1, ← owner, ← same]
      rfl
    rw [place, here] at stored
    cases Option.some.inj stored
    exact ⟨rfl, rfl⟩

end Spanner

namespace EventStore
variable {h : Host} {s : EventStore}

/-- Apart from the record of the request, the transaction of `create_or_correlate` joins the
candidate to the incident. -/
def Joins (h : Host) (s : Spanner) (candidate existing : Incident) (r : Request) (now : Instant) :
    Prop :=
  ∃ associations mutations, s.correlateTx h candidate r.metadata.traceId r now =
    .ok (⟨existing, false, associations⟩, mutations) ∧
    ∃ s', Spanner.commit mutations { s with idempotency := s.idempotency.erase r.scope } = .ok s'

/-- What the ingestion of an owned event asks for: the event is new to the inbox and its request
to the repository, which joins the candidate; and the association has the trace of the event. -/
structure Acceptable (h : Host) (s : EventStore) (p : Ingestion) (now : Instant)
    (candidate existing : Incident) (a : SourceEventAssociation) : Prop where
  fresh : s.inbox.lookup p.envelope.sourceEventId.text = none
  joins : ∃ r, correlationRequest h candidate p.metadata = .ok r ∧
    s.repository.idempotency.lookup r.scope = none ∧ Joins h s.repository candidate existing r now
  trace : a.traceId = p.envelope.traceId
  safe : ∃ row, inboxRow h p (resultOf p .correlated (some existing) (some a) none) = .ok row

theorem correlationRequest_trace {candidate : Incident} {w : WriteMetadata} {r : Request}
    (requested : correlationRequest h candidate w = .ok r) : r.metadata.traceId = w.traceId := by
  obtain ⟨_, _, same⟩ := Checks.bind_ok.mp requested
  cases same
  rfl

/-- An event whose candidate shares its keys with an active incident that owns it. -/
structure Owns (h : Host) (s : EventStore) (p : Ingestion) (candidate existing : Incident)
    (row : SourceRow) : Prop where
  known : p.envelope.incident = some candidate
  active : s.repository.findActiveForKeys h (candidateActiveKeys h candidate)
    candidate.incidentId.text = .ok (some existing)
  owned : s.repository.sourceEvents.lookup
    (existing.incidentId.text, p.envelope.sourceEventId.text) = some row
  regular : p.shadow = false

section
variable {p : Ingestion} {candidate existing : Incident} {row : SourceRow} {now : Instant}
  {r : Request}

theorem correlateTx_owned (keyed : s.repository.Keyed h) (owns : Owns h s p candidate existing row)
    (listed : p.envelope.sourceEventId ∈ candidate.sourceEventIds)
    {correlated : Spanner.Correlated} {mutations : List Mutation} {traceId : String}
    (done : s.repository.correlateTx h candidate traceId r now = .ok (correlated, mutations)) :
    ∃ associations, correlated = ⟨existing, false, associations⟩ ∧
      associations.find? (fun a => a.sourceEventId = p.envelope.sourceEventId) =
        some row.payload ∧ row.columns = sourceBinding row.payload := by
  obtain ⟨stamped, validated, done⟩ := Checks.bind_ok.mp done
  obtain ⟨rfl, _, _⟩ := Spanner.validateNewIncident_ok validated
  obtain ⟨found, looked, done⟩ := Checks.bind_ok.mp done
  cases (show Except.ok found = Except.ok (some existing) from looked.symm.trans owns.active)
  simp only [Checks.bind_ok, Prod.exists, pure, Except.pure, Except.ok.injEq, Prod.mk.injEq] at done
  obtain ⟨associations, _, registration, _, _, _, rfl, _⟩ := done
  obtain ⟨rows, _, registered⟩ := Spanner.registerSourceEvents_ok registration
  exact ⟨associations, rfl, registered.kept keyed owns.owned listed⟩

/-- The result that an accepted ingestion of an owned event answers with. -/
def ownedResult (p : Ingestion) (existing : Incident) (a : SourceEventAssociation) : IngestResult :=
  resultOf p .correlated (some existing) (some a) none

theorem freshTx_owned (keyed : s.repository.Keyed h) (owns : Owns h s p candidate existing row)
    (listed : p.envelope.sourceEventId ∈ candidate.sourceEventIds)
    {result : IngestResult} {writes : Writes}
    (done : s.freshTx h p now = .ok (result, writes)) :
    ∃ r inbox, correlationRequest h candidate p.metadata = .ok r ∧
      s.repository.idempotency.lookup r.scope = none ∧
      (∃ associations, s.repository.correlateTx h candidate r.metadata.traceId r now =
        .ok (⟨existing, false, associations⟩, writes.mutations)) ∧
      row.payload.traceId = p.envelope.traceId ∧
      inboxRow h p (ownedResult p existing row.payload) = .ok inbox ∧
      result = ownedResult p existing row.payload ∧ row.columns = sourceBinding row.payload := by
  simp only [freshTx, owns.regular, owns.known, Bool.false_eq_true, if_false] at done
  obtain ⟨r, requested, done⟩ := Checks.bind_ok.mp done
  obtain ⟨⟨correlated, mutations⟩, worked, done⟩ := Checks.bind_ok.mp done
  have trace := correlationRequest_trace requested
  rcases replay_of_createOrCorrelate (fromIncidents_ok.mp worked) with nothing | ⟨unused, worked⟩
  · simp [nothing] at done
  obtain ⟨associations, rfl, kept, columns⟩ := correlateTx_owned keyed owns listed worked
  simp only [kept, createdRow, Checks.bind_ok, pure, Except.pure, Except.ok.injEq,
    Prod.mk.injEq, Bool.false_eq_true, if_false] at done
  obtain ⟨_, rfl, _, validated, inbox, recorded, rfl, rfl⟩ := done
  obtain ⟨rfl, bound, _⟩ := (IngestResult.validate_fresh rfl (by simp)).mp validated
  exact ⟨r, inbox, requested, unused, ⟨associations, trace ▸ worked⟩,
    (bound.association _ rfl).2.2, recorded, rfl, columns⟩

theorem freshTx_of_acceptable (keyed : s.repository.Keyed h)
    (owns : Owns h s p candidate existing row)
    (listed : p.envelope.sourceEventId ∈ candidate.sourceEventIds)
    (requested : correlationRequest h candidate p.metadata = .ok r)
    (unused : s.repository.idempotency.lookup r.scope = none)
    {associations : List SourceEventAssociation} {mutations : List Mutation}
    (worked : s.repository.correlateTx h candidate r.metadata.traceId r now =
      .ok (⟨existing, false, associations⟩, mutations))
    (trace : row.payload.traceId = p.envelope.traceId) {inbox : InboxRow}
    (recorded : inboxRow h p (ownedResult p existing row.payload) = .ok inbox) :
    s.freshTx h p now = .ok (ownedResult p existing row.payload, ⟨mutations, none, some inbox⟩) := by
  obtain ⟨_, same, kept, _⟩ := correlateTx_owned keyed owns listed worked
  cases same
  rw [correlationRequest_trace requested] at worked
  have whole : s.repository.createOrCorrelateTx h candidate p.metadata.traceId r now =
      .ok (⟨existing, false, associations⟩, mutations) :=
    Checks.bind_ok.mpr ⟨none, Spanner.replay_none.mpr unused, worked⟩
  have stored := (Spanner.findActiveForKeys_ok owns.active).stored
  have valid : existing.Valid h := (keyed.incidents _ _ (Spanner.get_some.mp stored).1).2.2
  have bound : (ownedResult p existing row.payload).Bound h := by
    refine ⟨fun i same => Option.some.inj same ▸ valid, fun a same => ?_⟩
    cases Option.some.inj same
    obtain ⟨place, incident, event⟩ := keyed.sources _ row owns.owned
    have place' := Prod.mk.inj place
    exact ⟨congrArg some (Text.Bounded.ext (place'.1.symm.trans incident.symm)),
      Text.Bounded.ext (event.trans place'.2), trace⟩
  have validated : IngestResult.validate h {
      disposition := .correlated
      sourceEventId := p.envelope.sourceEventId
      traceId := p.envelope.traceId
      incident := some existing
      sourceAssociation := some row.payload } = .ok (ownedResult p existing row.payload) :=
    (IngestResult.validate_fresh rfl (by simp)).mpr
      ⟨rfl, ⟨bound.incident, bound.association⟩, by simp, by
        simp [IngestResult.validateShape, requireModel_ok]⟩
  simp only [freshTx, owns.regular, owns.known, Bool.false_eq_true, if_false]
  refine Checks.bind_ok.mpr ⟨r, requested, Checks.bind_ok.mpr ⟨_, fromIncidents_ok.mpr whole, ?_⟩⟩
  simp only [kept, createdRow, Bool.false_eq_true, if_false]
  exact Checks.bind_ok.mpr ⟨none, rfl, Checks.bind_ok.mpr ⟨_, validated,
    Checks.bind_ok.mpr ⟨inbox, recorded, rfl⟩⟩⟩

end

theorem ingest_eq_ok {s' : EventStore} {call : IngestCall} {now : Instant} {result : IngestResult} :
    s.ingest h call now = (.ok result, s') ↔ ∃ p, ingestRequest h call = .ok p ∧
      ∃ writes, s.ingestTx h p now = .ok (result, writes) ∧
        s.commit p.envelope.sourceEventId.text writes = .ok s' := by
  unfold ingest
  dsimp only
  split
  · next result' s'' done =>
    obtain ⟨p, requested, done⟩ := Checks.bind_ok.mp done
    obtain ⟨⟨_, writes⟩, worked, done⟩ := Checks.bind_ok.mp done
    obtain ⟨_, commits, same⟩ := Checks.bind_ok.mp done
    cases same
    constructor
    · intro same
      cases same
      exact ⟨p, requested, writes, worked, commits⟩
    · rintro ⟨p', requested', writes', worked', commits'⟩
      cases requested.symm.trans requested'
      cases worked.symm.trans worked'
      cases commits.symm.trans commits'
      rfl
  · next e failed =>
    refine iff_of_false nofun ?_
    rintro ⟨p, requested, writes, worked, commits⟩
    simp [requested, worked, commits, Bind.bind, Except.bind, pure, Except.pure] at failed

/-- The event joins the incident, and the later ingestion of the same envelope replays it. -/
def Accepts (h : Host) (s : EventStore) (after : List (Instant × StoreCall))
    (call call' : IngestCall) (now later : Instant) (existing : Incident) : Prop :=
  ∃ result s', s.ingest h call now = (.ok result, s') ∧ result.disposition = .correlated ∧
    result.incident = some existing ∧ Replays h (run h s' after) call' later result

section
variable {before after : List (Instant × StoreCall)} {call call' : IngestCall}
  {now later : Instant} {p p' : Ingestion} {candidate existing : Incident} {row : SourceRow}

theorem acceptable_of_correlated (keyed : s.repository.Keyed h)
    (owns : Owns h s p candidate existing row)
    (listed : p.envelope.sourceEventId ∈ candidate.sourceEventIds) {s' : EventStore}
    {result : IngestResult} {writes : Writes} (worked : s.ingestTx h p now = .ok (result, writes))
    (commits : s.commit p.envelope.sourceEventId.text writes = .ok s')
    (correlated : result.disposition = .correlated) :
    Acceptable h s p now candidate existing row.payload ∧
      result = ownedResult p existing row.payload ∧ row.columns = sourceBinding row.payload := by
  unfold ingestTx at worked
  split at worked
  · rw [replayTx_disposition worked] at correlated
    cases correlated
  · next absent =>
    obtain ⟨r, inbox, requested, unused, ⟨associations, joined⟩, trace, recorded, rfl, columns⟩ :=
      freshTx_owned keyed owns listed worked
    have repository := (commit_ok.mp commits).1
    rw [← Spanner.erase_unused unused] at repository
    exact ⟨⟨absent, ⟨r, requested, unused, associations, _, joined, _, repository⟩, trace,
      inbox, recorded⟩, rfl, columns⟩

theorem correlated_of_acceptable (keyed : s.repository.Keyed h)
    (owns : Owns h s p candidate existing row)
    (listed : p.envelope.sourceEventId ∈ candidate.sourceEventIds)
    (acceptable : Acceptable h s p now candidate existing row.payload) : ∃ writes s',
      s.ingestTx h p now = .ok (ownedResult p existing row.payload, writes) ∧
      s.commit p.envelope.sourceEventId.text writes = .ok s' := by
  obtain ⟨absent, ⟨r, requested, unused, associations, mutations, joined, repository, commits⟩,
    trace, inbox, recorded⟩ := acceptable
  rw [Spanner.erase_unused unused] at commits
  have inserted : insertInbox s.inbox p.envelope.sourceEventId.text (some inbox) =
      .ok (AList.insert p.envelope.sourceEventId.text inbox s.inbox) := by
    simp [insertInbox, Table.insertNew, AList.lookup_eq_none.mp absent]
  refine ⟨⟨mutations, none, some inbox⟩, ⟨repository, _, s.outbox⟩, ?_,
    commit_ok.mpr ⟨commits, rfl, inserted⟩⟩
  simp only [ingestTx, absent]
  exact freshTx_of_acceptable keyed owns listed requested unused joined trace recorded

theorem replayable_owned {s' : EventStore} (later : Later s s')
    (owns : Owns h s p candidate existing row) (columns : row.columns = sourceBinding row.payload)
    (keyed : s.repository.Keyed h) :
    Replayable h s' p.envelope (ownedResult p existing row.payload) ↔
      Unextended h s' existing ∧ Requested h s' candidate existing row.payload := by
  constructor
  · intro replayable
    exact ⟨replayable.incident existing rfl,
      replayable.correlated rfl candidate owns.known existing rfl row.payload rfl⟩
  · rintro ⟨unextended, requested⟩
    refine ⟨fun i same => Option.some.inj same ▸ unextended, fun a same => ?_,
      fun _ c known i same a same' => ?_, nofun⟩
    · cases Option.some.inj same
      have place := (keyed.sources _ row owns.owned).1
      rw [SourceRow.key, columns] at place
      exact ⟨row, later.repository.sources _ row (place ▸ owns.owned), columns⟩
    · cases Option.some.inj same
      cases Option.some.inj same'
      cases Option.some.inj (owns.known.symm.trans known)
      exact requested

/-- An event that is already associated with the active incident it correlates to is accepted,
and replayed later, exactly when its first ingestion is acceptable and the incident and the
record of the associating request are as the replay reads them. -/
theorem owned_event_accepted_iff (requested : ingestRequest h call = .ok p)
    (owns : Owns h (run h {} before) p candidate existing row)
    (same : SameEnvelope call.envelope call'.envelope) (again : ingestRequest h call' = .ok p') :
    Accepts h (run h {} before) after call call' now later existing ↔
      Acceptable h (run h {} before) p now candidate existing row.payload ∧
      Unextended h (run h ((run h {} before).ingest h call now).2 after) existing ∧
      Requested h (run h ((run h {} before).ingest h call now).2 after) candidate existing
        row.payload := by
  have keyed := (run_sound h before).keyed
  have envelope := (ingestRequest_ok requested).envelope
  have listed : p.envelope.sourceEventId ∈ candidate.sourceEventIds := by
    rcases (ingestRequest_ok requested).candidate with shadow | ⟨i, known, inside⟩
    · simp [owns.regular] at shadow
    · cases Option.some.inj (owns.known.symm.trans known)
      exact inside
  have replays : ∀ {s' : EventStore}, (run h {} before).ingest h call now =
      (.ok (ownedResult p existing row.payload), s') →
      (Replays h (run h s' after) call' later (ownedResult p existing row.payload) ↔
        Unextended h (run h s' after) existing ∧
          Requested h (run h s' after) candidate existing row.payload) := by
    intro s' first
    obtain ⟨p'', requested', writes, worked, commits⟩ := ingest_eq_ok.mp first
    cases requested.symm.trans requested'
    obtain ⟨_, _, columns⟩ := acceptable_of_correlated keyed owns listed worked commits rfl
    have past : Later (run h {} before) (run h s' after) := by
      have moved := next_later (h := h) (run h {} before) (now, .ingest call)
      rw [next, first] at moved
      exact moved.trans (run_later s' after)
    rw [ingest_replayed_iff first (by simp [ownedResult, resultOf]) same, ← envelope,
      replayable_owned past owns columns keyed]
    exact and_iff_right ⟨p', again⟩
  constructor
  · rintro ⟨result, s', first, correlated, _, replayed⟩
    obtain ⟨p'', requested', writes, worked, commits⟩ := ingest_eq_ok.mp first
    cases requested.symm.trans requested'
    obtain ⟨acceptable, rfl, _⟩ := acceptable_of_correlated keyed owns listed worked commits correlated
    rw [first]
    exact ⟨acceptable, (replays first).mp replayed⟩
  · rintro ⟨acceptable, readable⟩
    obtain ⟨writes, s', worked, commits⟩ := correlated_of_acceptable keyed owns listed acceptable
    have first := ingest_eq_ok.mpr ⟨p, requested, writes, worked, commits⟩
    rw [first] at readable
    exact ⟨_, s', first, rfl, rfl, (replays first).mpr readable⟩

end

def finds (h : Host) (s : EventStore) (call : IngestCall) : Bool :=
  match ingestRequest h call with
  | .error _ => false
  | .ok p => match p.envelope.incident with
    | none => false
    | some candidate =>
      match s.repository.findActiveForKeys h (candidateActiveKeys h candidate)
        candidate.incidentId.text with
      | .ok (some existing) => (s.repository.sourceEvents.lookup
          (existing.incidentId.text, p.envelope.sourceEventId.text)).isSome && !p.shadow
      | _ => false

theorem owns_of_finds {call : IngestCall} (found : finds h s call = true) :
    ∃ p candidate existing row, ingestRequest h call = .ok p ∧
      Owns h s p candidate existing row := by
  unfold finds at found
  split at found
  · cases found
  · next p requested =>
    split at found
    · cases found
    · next candidate known =>
      split at found
      · next existing active =>
        rw [Bool.and_eq_true, Bool.not_eq_true'] at found
        obtain ⟨row, owned⟩ := Option.isSome_iff_exists.mp found.1
        exact ⟨p, candidate, existing, row, requested, known, active, owned, found.2⟩
      · cases found

/-! An operator creates an incident with a source event, and the event is ingested after it, in
a trace of its own. -/
namespace Handover

def incidentOf (incidentId traceId : Identifier) : Incident where
  incidentId := incidentId
  sourceEventIds := [.ofText "event" fits_event]
  detectedAt := 0
  traceId := traceId
  createdAt := 0
  updatedAt := 0

def created : List (Instant × StoreCall) :=
  [(1, .incident (.create
    (incidentOf (.ofText "incident-1" fits_incident1) (.ofText "trace-1" fits_trace1))
    ⟨"key", "operator", "opened by hand", "trace-1"⟩))]

def event : IngestCall where
  envelope := {
    sourceEventId := .ofText "event" fits_event
    source := .ofText "source" fits_source
    eventType := .ofText "fault" fits_fault
    occurredAt := 0
    receivedAt := 1
    payloadSha256 := Sha256.digest []
    traceId := .ofText "trace-2" (by decide +kernel)
    incident := some (incidentOf (.ofText "incident-2" (by decide +kernel))
      (.ofText "trace-2" (by decide +kernel))) }

theorem refused : finds Host.ascii (run Host.ascii {} created) event = true ∧
    ((run Host.ascii {} created).ingest Host.ascii event 2).1.toOption.isNone = true := by
  decide +kernel

end Handover

theorem owned_event_accepted_iff_sample : ∃ (p : Ingestion) (candidate existing : Incident)
    (row : SourceRow),
    ingestRequest Host.ascii Handover.event = .ok p ∧
    (Accepts Host.ascii (run Host.ascii {} Handover.created) [] Handover.event Handover.event 2 3
        existing ↔
      Acceptable Host.ascii (run Host.ascii {} Handover.created) p 2 candidate existing row.payload ∧
      Unextended Host.ascii (run Host.ascii ((run Host.ascii {} Handover.created).ingest Host.ascii
        Handover.event 2).2 []) existing ∧
      Requested Host.ascii (run Host.ascii ((run Host.ascii {} Handover.created).ingest Host.ascii
        Handover.event 2).2 []) candidate existing row.payload) := by
  obtain ⟨p, candidate, existing, row, requested, owns⟩ := owns_of_finds Handover.refused.1
  exact ⟨p, candidate, existing, row, requested,
    owned_event_accepted_iff requested owns (.refl _) requested⟩

/-- The event that its incident owns in another trace is refused. -/
theorem owned_event_refused : ¬ ∀ (h : Host) (before after : List (Instant × StoreCall))
    (call call' : IngestCall) (now later : Instant) (p p' : Ingestion)
    (candidate existing : Incident) (row : SourceRow), ingestRequest h call = .ok p →
    Owns h (run h {} before) p candidate existing row → SameEnvelope call.envelope call'.envelope →
    ingestRequest h call' = .ok p' →
    Accepts h (run h {} before) after call call' now later existing := by
  intro claimed
  obtain ⟨p, candidate, existing, row, requested, owns⟩ := owns_of_finds Handover.refused.1
  obtain ⟨result, s', accepted, _⟩ := claimed Host.ascii Handover.created [] Handover.event
    Handover.event 2 3 p p candidate existing row requested owns (.refl _) requested
  have failed := Handover.refused.2
  rw [accepted] at failed
  cases failed

end EventStore
end NetworkAgent.Cloud
