import NetworkAgent.Cloud.IncidentEffects
import NetworkAgent.Cloud.Ingest

/-! What an ingestion does to the tables. -/
namespace NetworkAgent.Cloud
open Memory (Request)

section
variable {α : Type}

theorem fromInput_ok {x : Except InputError α} {a : α} : fromInput x = .ok a ↔ x = .ok a := by
  cases x <;> simp [fromInput]

theorem fromIncidents_ok {x : Except IncidentError α} {a : α} :
    fromIncidents x = .ok a ↔ x = .ok a := by
  cases x <;> simp [fromIncidents]

theorem fromOutbox_ok {x : Except OutboxError α} {a : α} : fromOutbox x = .ok a ↔ x = .ok a := by
  cases x <;> simp [fromOutbox]

end

theorem requireModel_ok {condition : Prop} [Decidable condition] {text : String} {u : Unit} :
    requireModel condition text = .ok u ↔ condition := Checks.require_ok

theorem requireRuntime_ok {condition : Prop} [Decidable condition] {text : String} {u : Unit} :
    requireRuntime condition text = .ok u ↔ condition := Checks.require_ok

theorem requireArgument_ok {condition : Prop} [Decidable condition] {text : String} {u : Unit} :
    requireArgument condition text = .ok u ↔ condition := Checks.require_ok

theorem validateIncident_ok {h : Host} {i : Incident} {u : Unit} :
    validateIncident h i = .ok u ↔ i.Valid h := by
  rw [validateIncident, fromIncidents_ok, liftValidation_ok]
  rfl

theorem validateIncident_elim {h : Host} {i : Option Incident} {u : Unit} :
    i.elim (.ok ()) (validateIncident h) = .ok u ↔ ∀ j ∈ i, j.Valid h := by
  cases i with
  | none => simp
  | some j => simp [validateIncident_ok]

/-! Results. -/

namespace IngestResult

structure Bound (h : Host) (r : IngestResult) : Prop where
  incident : ∀ i ∈ r.incident, i.Valid h
  association : ∀ a ∈ r.sourceAssociation, r.incident.map (·.incidentId) = some a.incidentId ∧
    a.sourceEventId = r.sourceEventId ∧ a.traceId = r.traceId

theorem validateAssociation_ok {r : IngestResult} {u : Unit} :
    r.validateAssociation = .ok u ↔ ∀ a ∈ r.sourceAssociation,
      r.incident.map (·.incidentId) = some a.incidentId ∧ a.sourceEventId = r.sourceEventId ∧
        a.traceId = r.traceId := by
  unfold validateAssociation
  cases r.sourceAssociation with
  | none => simp
  | some a =>
    simp only [Checks.seq_ok, requireModel_ok, Option.mem_def, Option.some.injEq, forall_eq']
    refine ⟨fun passed => passed.2, fun bound => ⟨?_, bound⟩⟩
    cases known : r.incident with
    | none => rw [known] at bound; cases bound.1
    | some i => rfl

theorem validate_fresh {h : Host} {r result : IngestResult} (fresh : r.originalDisposition = none)
    (other : r.disposition ≠ .replayed) : r.validate h = .ok result ↔
      result = { r with originalDisposition := some r.disposition } ∧ r.Bound h ∧
        (r.outboxEventId.isSome → r.incident.isSome) ∧ r.validateShape r.disposition = .ok () := by
  simp only [validate, original, fresh, if_neg other, Checks.bind_ok, validateIncident_elim,
    requireModel_ok, validateAssociation_ok, pure, Except.pure, Except.ok.injEq, exists_const,
    exists_eq_left']
  constructor
  · rintro ⟨incident, outbox, association, _, shape, rfl⟩
    exact ⟨rfl, ⟨incident, association⟩, outbox, shape⟩
  · rintro ⟨rfl, bound, outbox, shape⟩
    exact ⟨bound.incident, outbox, bound.association, (), shape, rfl⟩

end IngestResult

/-! Commits. -/

namespace EventStore

theorem insertOutbox_none {o o' : Outbox} : insertOutbox o none = .ok o' ↔ o' = o := by
  simp [insertOutbox, eq_comm]

theorem insertOutbox_some {o o' : Outbox} {row : OutboxRecord} :
    insertOutbox o (some row) = .ok o' ↔ row.eventId.text ∉ o.rows ∧ o' = o.put row := by
  unfold insertOutbox
  dsimp only
  split
  · next present => simp [present]
  · next absent => simp [absent, eq_comm]

theorem insertInbox_some {inbox inbox' : Table String InboxRow} {id : String} {row : InboxRow}
    (done : insertInbox inbox id (some row) = .ok inbox') :
    inbox.Added [(id, row)] inbox' := by
  unfold insertInbox at done
  dsimp only at done
  split at done
  · cases done
  · next inserted =>
    cases done
    exact Table.insertNew_some inserted

theorem commit_ok {s s' : EventStore} {id : String} {writes : Writes} :
    s.commit id writes = .ok s' ↔
      Spanner.commit writes.mutations s.repository = .ok s'.repository ∧
        insertOutbox s.outbox writes.outbox = .ok s'.outbox ∧
        insertInbox s.inbox id writes.inbox = .ok s'.inbox := by
  obtain ⟨repository, inbox, outbox⟩ := s'
  simp only [commit, Checks.bind_ok, fromIncidents_ok, pure, Except.pure, Except.ok.injEq,
    EventStore.mk.injEq]
  constructor
  · rintro ⟨_, first, _, second, _, third, rfl, rfl, rfl⟩
    exact ⟨first, second, third⟩
  · rintro ⟨first, second, third⟩
    exact ⟨_, first, _, second, _, third, rfl, rfl, rfl⟩

/-! The outcomes of a new event. -/

def resultOf (p : Ingestion) (disposition : Disposition) (i : Option Incident)
    (a : Option SourceEventAssociation) (o : Option OutboxRecord) : IngestResult where
  disposition := disposition
  originalDisposition := some disposition
  sourceEventId := p.envelope.sourceEventId
  traceId := p.envelope.traceId
  incident := i
  sourceAssociation := a
  outboxEventId := o.map (·.eventId)

/-- What a new event does to the incident tables and to the outbox. -/
inductive Outcome (h : Host) (s : EventStore) (p : Ingestion) (now : Instant) :
    IngestResult → EventStore → Prop
  | shadow {s' : EventStore} (shadow : p.shadow = true) (repository : s'.repository = s.repository)
      (outbox : s'.outbox = s.outbox) :
      Outcome h s p now (resultOf p .shadowRecorded none none none) s'
  | correlated {s' : EventStore} {candidate existing : Incident} {r : Request}
      {a : SourceEventAssociation} {associations : List SourceEventAssociation}
      {sources : List SourceRow} (known : p.envelope.incident = some candidate)
      (requested : correlationRequest h candidate p.metadata = .ok r)
      (unused : s.repository.idempotency.lookup r.scope = none)
      (joining : Spanner.Joining h s.repository s'.repository now r
        { candidate with createdAt := now, updatedAt := now } existing associations sources)
      (listed : a ∈ associations) (named : a.sourceEventId = p.envelope.sourceEventId)
      (outbox : s'.outbox = s.outbox) :
      Outcome h s p now (resultOf p .correlated (some existing) (some a) none) s'
  | created {s' : EventStore} {candidate committed : Incident} {r : Request}
      {a : SourceEventAssociation} {associations : List SourceEventAssociation}
      {sources : List SourceRow} {event : IncidentAuditEvent} {row : OutboxRecord}
      (known : p.envelope.incident = some candidate)
      (requested : correlationRequest h candidate p.metadata = .ok r)
      (unused : s.repository.idempotency.lookup r.scope = none)
      (stamped : committed = { candidate with createdAt := now, updatedAt := now })
      (registered : Spanner.Registered h s.repository committed.incidentId committed.sourceEventIds
        now r associations sources)
      (opening : Spanner.Opening h s.repository s'.repository now r committed sources
        (candidateActiveKeys h committed) event)
      (listed : a ∈ associations) (named : a.sourceEventId = p.envelope.sourceEventId)
      (built : outboxRow h p committed now = .ok row) (absent : row.eventId.text ∉ s.outbox.rows)
      (outbox : s'.outbox = s.outbox.put row) :
      Outcome h s p now (resultOf p .created (some committed) (some a) (some row)) s'

structure Fresh (h : Host) (s : EventStore) (p : Ingestion) (now : Instant) (result : IngestResult)
    (s' : EventStore) : Prop where
  absent : s.inbox.lookup p.envelope.sourceEventId.text = none
  bound : result.Bound h
  outcome : Outcome h s p now result s'
  recorded : ∃ row, inboxRow h p result = .ok row ∧
    s.inbox.Added [(p.envelope.sourceEventId.text, row)] s'.inbox

theorem replay_of_createOrCorrelate {s : Spanner} {h : Host} {i : Incident} {traceId : String}
    {r : Request} {now : Instant} {answer : Spanner.Correlated} {mutations : List Mutation}
    (done : s.createOrCorrelateTx h i traceId r now = .ok (answer, mutations)) :
    answer.associations = [] ∨ (s.idempotency.lookup r.scope = none ∧
      s.correlateTx h i traceId r now = .ok (answer, mutations)) := by
  obtain ⟨found, looked, done⟩ := Checks.bind_ok.mp done
  cases found with
  | some result => cases done; exact .inl rfl
  | none => exact .inr ⟨Spanner.replay_none.mp looked, done⟩

theorem shadowTx_ok {h : Host} {s s' : EventStore} {p : Ingestion} {now : Instant}
    {result : IngestResult} {writes : Writes} (shadow : p.shadow = true)
    (absent : s.inbox.lookup p.envelope.sourceEventId.text = none)
    (done : shadowTx h p = .ok (result, writes))
    (commits : s.commit p.envelope.sourceEventId.text writes = .ok s') :
    Fresh h s p now result s' := by
  simp only [shadowTx, Checks.bind_ok, pure, Except.pure, Except.ok.injEq, Prod.mk.injEq] at done
  obtain ⟨_, validated, row, recorded, rfl, rfl⟩ := done
  obtain ⟨rfl, bound, _⟩ := (IngestResult.validate_fresh rfl (by simp)).mp validated
  obtain ⟨repository, outbox, inbox⟩ := commit_ok.mp commits
  have bound' : (resultOf p .shadowRecorded none none none).Bound h :=
    ⟨bound.incident, bound.association⟩
  exact ⟨absent, bound', .shadow shadow (Except.ok.inj repository).symm (insertOutbox_none.mp outbox),
    row, recorded, insertInbox_some inbox⟩

theorem freshTx_ok {h : Host} {s s' : EventStore} {p : Ingestion} {now : Instant}
    {result : IngestResult} {writes : Writes}
    (absent : s.inbox.lookup p.envelope.sourceEventId.text = none)
    (done : s.freshTx h p now = .ok (result, writes))
    (commits : s.commit p.envelope.sourceEventId.text writes = .ok s') :
    Fresh h s p now result s' := by
  unfold freshTx at done
  split at done
  · next shadow => exact shadowTx_ok shadow absent done commits
  · split at done
    · cases done
    · next candidate known =>
      obtain ⟨r, requested, done⟩ := Checks.bind_ok.mp done
      obtain ⟨⟨answer, mutations⟩, correlated, done⟩ := Checks.bind_ok.mp done
      dsimp only at done
      split at done
      · cases done
      · next association found =>
        have listed := List.mem_of_find?_eq_some found
        have named : association.sourceEventId = p.envelope.sourceEventId := by
          simpa using List.find?_some found
        simp only [Checks.bind_ok, pure, Except.pure, Except.ok.injEq, Prod.mk.injEq] at done
        obtain ⟨outbox, opened, _, validated, row, recorded, rfl, rfl⟩ := done
        obtain ⟨repository, written, inbox⟩ := commit_ok.mp commits
        have trace : r.metadata.traceId = p.metadata.traceId := by
          obtain ⟨scope, _, same⟩ := Checks.bind_ok.mp requested
          cases same
          rfl
        rcases replay_of_createOrCorrelate (fromIncidents_ok.mp correlated) with
          nothing | ⟨unused, correlated⟩
        · rw [nothing] at listed
          cases listed
        · cases Spanner.correlateTx_ok trace correlated repository with
          | joined joining =>
            cases opened
            obtain ⟨rfl, bound, _⟩ := (IngestResult.validate_fresh rfl (by simp)).mp validated
            exact ⟨absent, ⟨bound.incident, bound.association⟩,
              .correlated known requested unused joining listed named
                (insertOutbox_none.mp written), row, recorded, insertInbox_some inbox⟩
          | opened registered opening =>
            obtain ⟨out, built, rfl⟩ := Checks.map_ok.mp opened
            obtain ⟨rfl, bound, _⟩ := (IngestResult.validate_fresh rfl (by simp)).mp validated
            obtain ⟨new, put⟩ := insertOutbox_some.mp written
            exact ⟨absent, ⟨bound.incident, bound.association⟩,
              .created known requested unused rfl registered opening listed named built new put,
              row, recorded, insertInbox_some inbox⟩

theorem replayTx_writes {h : Host} {s : EventStore} {p : Ingestion} {row : InboxRow}
    {result : IngestResult} {writes : Writes} (done : s.replayTx h p row = .ok (result, writes)) :
    writes = {} := by
  simp only [replayTx, Checks.bind_ok, pure, Except.pure, Except.ok.injEq, Prod.mk.injEq] at done
  obtain ⟨_, _, _, _, _, _, _, _, _, _, _, _, _, _, _, rfl⟩ := done
  rfl

theorem commit_nothing {s s' : EventStore} {id : String} (commits : s.commit id {} = .ok s') :
    s' = s := by
  obtain ⟨repository, outbox, inbox⟩ := commit_ok.mp commits
  obtain ⟨repository', inbox', outbox'⟩ := s'
  cases repository
  cases outbox
  cases inbox
  rfl

theorem ingest_ok {h : Host} {s : EventStore} {call : IngestCall} {now : Instant}
    {result : IngestResult} (answer : (s.ingest h call now).1 = .ok result) :
    ∃ p, ingestRequest h call = .ok p ∧
      ((∃ row, s.inbox.lookup p.envelope.sourceEventId.text = some row ∧
          s.replayTx h p row = .ok (result, {}) ∧ (s.ingest h call now).2 = s) ∨
        Fresh h s p now result (s.ingest h call now).2) := by
  unfold ingest at answer ⊢
  dsimp only at answer ⊢
  split at answer
  · next result' s' done =>
    cases answer
    obtain ⟨p, requested, done⟩ := Checks.bind_ok.mp done
    obtain ⟨⟨result', writes⟩, worked, done⟩ := Checks.bind_ok.mp done
    obtain ⟨s'', commits, same⟩ := Checks.bind_ok.mp done
    cases same
    refine ⟨p, requested, ?_⟩
    dsimp only at commits ⊢
    unfold ingestTx at worked
    split at worked
    · next row known =>
      cases replayTx_writes worked
      exact .inl ⟨row, known, worked, commit_nothing commits⟩
    · next absent => exact .inr (freshTx_ok absent worked commits)
  · cases answer

theorem ingest_error {h : Host} {s : EventStore} {call : IngestCall} {now : Instant}
    {e : IngestError} (failed : (s.ingest h call now).1 = .error e) :
    (s.ingest h call now).2 = s := by
  unfold ingest at failed ⊢
  dsimp only at failed ⊢
  split at failed
  · cases failed
  · rfl

structure IngestRequest (h : Host) (call : IngestCall) (p : Ingestion) : Prop where
  envelope : p.envelope = call.envelope
  valid : call.envelope.validate h = .ok ()
  metadata : p.metadata =
    ⟨effectiveKey h call, call.actor, call.reason, call.envelope.traceId.text⟩
  accepted : requireWriteMetadata h p.metadata = .ok ()
  shadow : p.shadow = call.shadow
  candidate : p.shadow = true ∨
    ∃ i, p.envelope.incident = some i ∧ p.envelope.sourceEventId ∈ i.sourceEventIds
  template : parseTemplate h p.envelope p.metadata.idempotencyKey call.outboxPayload =
    .ok p.template
  fingerprint : p.fingerprint = fingerprint h "source_event" p.envelope.identity

theorem ingestRequest_ok {h : Host} {call : IngestCall} {p : Ingestion}
    (done : ingestRequest h call = .ok p) : IngestRequest h call p := by
  simp only [ingestRequest, Checks.bind_ok, fromIncidents_ok, requireArgument_ok, pure, Except.pure,
    Except.ok.injEq] at done
  obtain ⟨_, valid, _, accepted, _, present, _, listed, _, _, template, parsed, rfl⟩ := done
  refine ⟨rfl, valid, rfl, accepted, rfl, ?_, parsed, rfl⟩
  rcases present with shadow | present
  · exact .inl shadow
  · refine listed.imp id fun inside => ?_
    obtain ⟨i, known⟩ := Option.isSome_iff_exists.mp present
    exact ⟨i, known, inside i known⟩

theorem correlationRequest_ok {h : Host} {i : Incident} {w : WriteMetadata} {r : Request}
    (passed : requireWriteMetadata h w = .ok ()) (done : correlationRequest h i w = .ok r) :
    Spanner.Requested h w r := by
  obtain ⟨scope, accepted, same⟩ := Checks.bind_ok.mp done
  cases same
  exact Spanner.requested_of_scope passed (fromIncidents_ok.mp accepted)

theorem Outcome.effect {h : Host} {s s' : EventStore} {p : Ingestion} {now : Instant}
    {result : IngestResult} (passed : requireWriteMetadata h p.metadata = .ok ())
    (outcome : Outcome h s p now result s') :
    ∃ call, Spanner.Effect h s.repository now call s'.repository := by
  cases outcome with
  | shadow _ repository _ =>
    rw [repository]
    exact ⟨.transition "" .triaged 0 p.metadata {}, .unchanged _⟩
  | @correlated _ candidate _ _ _ _ _ _ requested _ joining =>
    exact ⟨.createOrCorrelate candidate p.metadata,
      .joined (correlationRequest_ok passed requested) (by rfl) joining⟩
  | @created _ candidate _ _ _ _ _ _ _ _ requested _ stamped registered opening =>
    cases stamped
    exact ⟨.createOrCorrelate candidate p.metadata,
      .opened (i := { candidate with createdAt := now, updatedAt := now })
        (correlationRequest_ok passed requested) rfl registered opening⟩

end EventStore
end NetworkAgent.Cloud
