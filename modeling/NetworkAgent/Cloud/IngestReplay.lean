import NetworkAgent.Cloud.Delivery

/-! The second ingestion of an event: what the tables hold of a processed event over every later
run, and when the replay of its envelope is accepted. -/
namespace NetworkAgent.Cloud
open Memory (Request Evolved)

namespace IngestResult

/-- A result as it is recorded: not a replay, and its own original. -/
structure Recorded (h : Host) (r : IngestResult) : Prop where
  own : r.originalDisposition = some r.disposition
  original : r.disposition ≠ .replayed
  accepted : r.validate h = .ok r

theorem original_of_own {r : IngestResult} (own : r.originalDisposition = some r.disposition)
    (other : r.disposition ≠ .replayed) : r.original = .ok r.disposition := by
  simp [original, own, other, requireModel, Checks.require, pure, Except.pure, Bind.bind, Except.bind]

theorem validate_own {h : Host} {r : IngestResult}
    (own : r.originalDisposition = some r.disposition) (other : r.disposition ≠ .replayed) :
    r.validate h = .ok r ↔ r.Bound h ∧ (r.outboxEventId.isSome → r.incident.isSome) ∧
      r.validateShape r.disposition = .ok () := by
  simp only [validate, original_of_own own other, Checks.bind_ok, validateIncident_elim,
    requireModel_ok, validateAssociation_ok, pure, Except.pure, Except.ok.injEq, exists_const,
    exists_eq_left', ← own, and_true]
  exact ⟨fun ⟨incident, outbox, association, _, shape⟩ => ⟨⟨incident, association⟩, outbox, shape⟩,
    fun ⟨bound, outbox, shape⟩ => ⟨bound.incident, outbox, bound.association, (), shape⟩⟩

theorem Recorded.replay {h : Host} {r : IngestResult} (recorded : r.Recorded h) :
    IngestResult.validate h { r with disposition := .replayed } =
      .ok { r with disposition := .replayed } := by
  have accepted := recorded.accepted
  have other := recorded.original
  have original : IngestResult.original { r with disposition := .replayed } =
      .ok r.disposition := by
    simp only [IngestResult.original, if_true, recorded.own]
  rw [validate_own recorded.own other] at accepted
  obtain ⟨bound, outbox, shape⟩ := accepted
  refine Checks.bind_ok.mpr ⟨(), validateIncident_elim.mpr bound.incident, ?_⟩
  refine Checks.bind_ok.mpr ⟨r.disposition, original, ?_⟩
  refine Checks.bind_ok.mpr ⟨(), requireModel_ok.mpr outbox, ?_⟩
  refine Checks.bind_ok.mpr ⟨(), validateAssociation_ok.mpr bound.association, ?_⟩
  refine Checks.bind_ok.mpr ⟨(), shape, ?_⟩
  rw [← recorded.own]
  rfl

end IngestResult

namespace EventStore
variable {h : Host} {s s' : EventStore}

/-! What stays. -/

structure Later (s s' : EventStore) : Prop where
  repository : Spanner.Kept s.repository s'.repository
  inbox : ∀ id row, s.inbox.lookup id = some row → s'.inbox.lookup id = some row
  outbox : ∀ k o, s.outbox.rows.lookup k = some o →
    ∃ o', s'.outbox.rows.lookup k = some o' ∧ o.SameEvent o'

theorem Later.refl (s : EventStore) : Later s s :=
  ⟨.refl _, fun _ _ known => known, fun _ o known => ⟨o, known, rfl, rfl, rfl, rfl⟩⟩

theorem Later.trans {a b c : EventStore} (first : Later a b) (second : Later b c) : Later a c where
  repository := first.repository.trans second.repository
  inbox id row known := second.inbox id row (first.inbox id row known)
  outbox k o known := by
    obtain ⟨o', known', same⟩ := first.outbox k o known
    obtain ⟨o'', known'', same'⟩ := second.outbox k o' known'
    exact ⟨o'', known'', same'.eventId.trans same.eventId, same'.incidentId.trans same.incidentId,
      same'.sourceEventId.trans same.sourceEventId, same'.payload.trans same.payload⟩

theorem Fresh.later {p : Ingestion} {now : Instant} {result : IngestResult}
    (passed : requireWriteMetadata h p.metadata = .ok ()) (fresh : Fresh h s p now result s') :
    Later s s' := by
  obtain ⟨row, _, added⟩ := fresh.recorded
  refine ⟨fresh.outcome.kept passed, fun id row known => added.lookup.mpr (.inr known),
    fun k o known => ?_⟩
  have outcome := fresh.outcome
  cases outcome with
  | shadow _ _ outbox => exact ⟨o, outbox ▸ known, rfl, rfl, rfl, rfl⟩
  | correlated _ _ _ _ _ _ outbox => exact ⟨o, outbox ▸ known, rfl, rfl, rfl, rfl⟩
  | @created _ _ _ _ _ _ _ _ row _ _ _ _ _ _ _ _ _ absent outbox =>
    have other : k ≠ row.eventId.text := by
      rintro rfl
      exact absent (AList.lookup_isSome.mp (by rw [known]; rfl))
    refine ⟨o, ?_, rfl, rfl, rfl, rfl⟩
    rw [outbox, Outbox.lookup_put, if_neg other, known]

theorem next_later (s : EventStore) (call : Instant × StoreCall) : Later s (next h s call) := by
  obtain ⟨now, call⟩ := call
  cases call with
  | ingest call =>
    change Later s (s.ingest h call now).2
    cases answer : (s.ingest h call now).1 with
    | error e => rw [ingest_error answer]; exact .refl s
    | ok result =>
      obtain ⟨p, requested, ⟨_, _, _, same⟩ | fresh⟩ := ingest_ok answer
      · rw [same]; exact .refl s
      · exact fresh.later (ingestRequest_ok requested).accepted
  | incident call =>
    exact ⟨(Spanner.step_effect h s.repository now call).kept, fun _ _ known => known,
      fun _ o known => ⟨o, known, rfl, rfl, rfl, rfl⟩⟩
  | outbox call =>
    exact ⟨.refl _, fun _ _ known => known, fun _ _ known => Outbox.next_kept (now, call) known⟩

theorem run_later (s : EventStore) (calls : List (Instant × StoreCall)) : Later s (run h s calls) :=
  Runs.run_relation (next h) (P := fun _ => True) (R := Later) (fun _ _ _ => trivial) .refl
    (fun first second => first.trans second) (fun s call _ => next_later s call) trivial calls

/-! What is true of the incident tables over every run. -/

/-- The tables are keyed, every association passes the payload policy, and every recorded result
is a valid incident under its own name. -/
structure Sound (h : Host) (s : Spanner) : Prop where
  keyed : s.Keyed h
  associations : ∀ row ∈ s.sourceEvents.values, RepositorySafe h row.payload.toJson
  results : ∀ scope row, s.idempotency.lookup scope = some row →
    row.resultIncidentId = row.payload.incidentId.text ∧ row.payload.Valid h

theorem sound_empty (h : Host) : Sound h {} where
  keyed := Spanner.keyed_empty h
  associations row member := by
    obtain ⟨_, stored⟩ := Table.mem_values.mp member
    cases stored
  results scope row stored := by cases stored

theorem Sound.write {a b : Spanner} {sources : List SourceRow} {r : Request} {i : Incident}
    (sound : Sound h a) (keyed : b.Keyed h) (added : Spanner.SourcesAdded a b sources)
    (safe : ∀ row ∈ sources, RepositorySafe h row.payload.toJson)
    (recorded : a.idempotency.Added [(r.scope, ⟨r.fingerprint, i.incidentId.text, i⟩)] b.idempotency)
    (valid : i.Valid h) : Sound h b where
  keyed := keyed
  associations row member := by
    rcases added.mem_values.mp member with new | old
    · exact safe row new
    · exact sound.associations row old
  results scope row stored := by
    rcases recorded.lookup.mp stored with new | old
    · cases List.mem_singleton.mp new
      exact ⟨rfl, valid⟩
    · exact sound.results scope row old

theorem registered_safe {a : Spanner} {incidentId : Identifier} {ids : List Identifier}
    {now : Instant} {r : Request} {associations : List SourceEventAssociation}
    {rows : List SourceRow}
    (registered : Spanner.Registered h a incidentId ids now r associations rows) :
    ∀ row ∈ rows, RepositorySafe h row.payload.toJson := by
  intro row member
  obtain ⟨_, _, _, _, rfl, safe⟩ := registered.built row member
  exact safe

theorem effect_sound {a b : Spanner} {now : Instant} {call : Call} (sound : Sound h a)
    (effect : Spanner.Effect h a now call b) : Sound h b := by
  have keyed := effect.keyed sound.keyed
  cases effect with
  | unchanged => exact sound
  | opened _ _ registered opening =>
    exact sound.write keyed opening.opened.sources (registered_safe registered)
      opening.opened.booked.idempotency opening.new.valid
  | imported _ bound opening =>
    refine sound.write keyed opening.opened.sources (fun row member => ?_)
      opening.opened.booked.idempotency opening.new.valid
    obtain ⟨association, inside, rfl⟩ := List.mem_map.mp member
    exact (bound association (Spanner.mem_sortedAssociations.mp inside)).2
  | joined _ _ joining =>
    obtain ⟨_, _, valid, _⟩ := Spanner.get_some.mp joining.answers.stored
    exact sound.write keyed joining.joined.sources (registered_safe joining.registered)
      joining.joined.idempotency valid
  | advanced _ _ advancing =>
    obtain ⟨associations, registered⟩ := advancing.registered
    exact sound.write keyed advancing.advanced.sources (registered_safe registered)
      advancing.advanced.booked.idempotency (Spanner.identity_of_advancing advancing).valid

theorem next_sound (s : EventStore) (call : Instant × StoreCall) (sound : Sound h s.repository) :
    Sound h (next h s call).repository := by
  obtain ⟨now, call⟩ := call
  cases call with
  | ingest call =>
    change Sound h (s.ingest h call now).2.repository
    cases answer : (s.ingest h call now).1 with
    | error e => rw [ingest_error answer]; exact sound
    | ok result =>
      obtain ⟨p, requested, ⟨_, _, _, same⟩ | fresh⟩ := ingest_ok answer
      · rw [same]; exact sound
      · obtain ⟨_, effect⟩ := fresh.outcome.effect (ingestRequest_ok requested).accepted
        exact effect_sound sound effect
  | incident call => exact effect_sound sound (Spanner.step_effect h s.repository now call)
  | outbox call => exact sound

def SourcesUnique (s : Spanner) : Prop := (s.sourceEvents.values.map (·.columns.sourceEventId)).Nodup

theorem effect_unique {a b : Spanner} {now : Instant} {call : Call} (unique : SourcesUnique a)
    (effect : Spanner.Effect h a now call b) : SourcesUnique b := by
  cases effect with
  | unchanged => exact unique
  | opened _ _ _ opening => exact opening.opened.sources.unique
  | imported _ _ opening => exact opening.opened.sources.unique
  | joined _ _ joining => exact joining.joined.sources.unique
  | advanced _ _ advancing => exact advancing.advanced.sources.unique

theorem next_unique (s : EventStore) (call : Instant × StoreCall)
    (unique : SourcesUnique s.repository) : SourcesUnique (next h s call).repository := by
  obtain ⟨now, call⟩ := call
  cases call with
  | ingest call =>
    change SourcesUnique (s.ingest h call now).2.repository
    cases answer : (s.ingest h call now).1 with
    | error e => rw [ingest_error answer]; exact unique
    | ok result =>
      obtain ⟨p, requested, ⟨_, _, _, same⟩ | fresh⟩ := ingest_ok answer
      · rw [same]; exact unique
      · obtain ⟨_, effect⟩ := fresh.outcome.effect (ingestRequest_ok requested).accepted
        exact effect_unique unique effect
  | incident call => exact effect_unique unique (Spanner.step_effect h s.repository now call)
  | outbox call => exact unique

theorem run_sound (h : Host) (calls : List (Instant × StoreCall)) :
    Sound h (run h {} calls).repository :=
  Runs.run_invariant (next h) (P := fun s => Sound h s.repository) next_sound (sound_empty h) calls

/-! What the tables hold of a processed event. -/

def requestOf (a : SourceEventAssociation) : WriteMetadata :=
  ⟨a.idempotencyKey.text, a.actor.text, a.reason.text, a.traceId.text⟩

structure Inboxed (h : Host) (s : EventStore) (e : SourceEventEnvelope) (result : IngestResult) :
    Prop where
  recorded : result.Recorded h
  event : result.sourceEventId = e.sourceEventId
  trace : result.traceId = e.traceId
  row : s.inbox.lookup e.sourceEventId.text = some {
    source := e.source.text
    eventType := e.eventType.text
    payloadSha256 := e.payloadSha256
    fingerprint := fingerprint h "source_event" e.identity
    traceId := e.traceId.text
    receivedAt := e.receivedAt
    disposition := result.disposition
    incidentId := result.incident.map (·.incidentId.text)
    outboxEventId := result.outboxEventId.map (·.text)
    payload := result }

/-- The rows behind a result that has an incident: the association of the event, and for a
created incident the recorded request and the outbox row. -/
structure Backed (s : EventStore) (e : SourceEventEnvelope) (candidate i : Incident)
    (a : SourceEventAssociation) : Prop where
  candidate : e.incident = some candidate
  event : a.sourceEventId = e.sourceEventId
  incident : ∃ row, s.repository.incidents.lookup i.incidentId.text = some row ∧
    Evolved i row.payload
  association : ∃ row, s.repository.sourceEvents.lookup
    (a.incidentId.text, a.sourceEventId.text) = some row ∧ row.payload = a

/-- The request that created an incident: what it recorded, and the association it built. -/
structure Opener (h : Host) (s : EventStore) (candidate i : Incident) (a : SourceEventAssociation)
    (r : Request) (w : WriteMetadata) : Prop where
  requested : correlationRequest h candidate w = .ok r
  result : s.repository.idempotency.lookup r.scope = some ⟨r.fingerprint, i.incidentId.text, i⟩
  safe : RepositorySafe h i.toJson
  association : s.repository.sourceEvents.lookup (a.incidentId.text, a.sourceEventId.text) =
    some (Spanner.sourceRow a r)

structure Announced (s : EventStore) (e : SourceEventEnvelope) (i : Incident) (eventId : Identifier)
    (o : OutboxRecord) : Prop where
  stored : s.outbox.rows.lookup eventId.text = some o
  incident : o.incidentId = i.incidentId
  event : o.sourceEventId = e.sourceEventId
  payload : PyEq.Same o.payload.incident i
  trace : o.payload.traceId = e.traceId
  sent : o.payload.sentAt = e.receivedAt

/-- What the tables hold of a processed event, by its result. -/
inductive Holds (h : Host) (s : EventStore) (e : SourceEventEnvelope) (result : IngestResult) : Prop
  | shadow (disposition : result.disposition = .shadowRecorded) (incident : result.incident = none)
      (association : result.sourceAssociation = none)
  | correlated {candidate i : Incident} {a : SourceEventAssociation}
      (disposition : result.disposition = .correlated) (incident : result.incident = some i)
      (association : result.sourceAssociation = some a) (backed : Backed s e candidate i a)
  | created {candidate i : Incident} {a : SourceEventAssociation} {r : Request} {w : WriteMetadata}
      {eventId : Identifier} {o : OutboxRecord}
      (disposition : result.disposition = .created) (incident : result.incident = some i)
      (association : result.sourceAssociation = some a) (event : result.outboxEventId = some eventId)
      (backed : Backed s e candidate i a) (opener : Opener h s candidate i a r w)
      (announced : Announced s e i eventId o)

section
variable {e : SourceEventEnvelope} {result : IngestResult} {candidate i : Incident}
  {a : SourceEventAssociation}

theorem Inboxed.later (inboxed : Inboxed h s e result) (later : Later s s') :
    Inboxed h s' e result :=
  ⟨inboxed.recorded, inboxed.event, inboxed.trace, later.inbox _ _ inboxed.row⟩

theorem Backed.later (backed : Backed s e candidate i a) (later : Later s s') :
    Backed s' e candidate i a where
  candidate := backed.candidate
  event := backed.event
  incident := by
    obtain ⟨row, stored, evolved⟩ := backed.incident
    obtain ⟨row', stored', further⟩ := later.repository.incidents _ row stored
    exact ⟨row', stored', evolved.trans further⟩
  association := by
    obtain ⟨row, stored, same⟩ := backed.association
    exact ⟨row, later.repository.sources _ row stored, same⟩

theorem Holds.later (holds : Holds h s e result) (later : Later s s') : Holds h s' e result := by
  cases holds with
  | shadow disposition incident association => exact .shadow disposition incident association
  | correlated disposition incident association backed =>
    exact .correlated disposition incident association (backed.later later)
  | created disposition incident association event backed opener announced =>
    obtain ⟨o', stored, same⟩ := later.outbox _ _ announced.stored
    refine .created disposition incident association event (backed.later later)
      ⟨opener.requested, later.repository.idempotency _ _ opener.result, opener.safe,
        later.repository.sources _ _ opener.association⟩
      ⟨stored, same.incidentId.trans announced.incident,
        same.sourceEventId.trans announced.event, ?_, ?_, ?_⟩
    · rw [same.payload]; exact announced.payload
    · rw [same.payload]; exact announced.trace
    · rw [same.payload]; exact announced.sent

end

/-! A new event leaves these rows. -/

theorem Outcome.recorded {p : Ingestion} {now : Instant} {result : IngestResult}
    (outcome : Outcome h s p now result s') (bound : result.Bound h) : result.Recorded h := by
  have own : result.originalDisposition = some result.disposition := by cases outcome <;> rfl
  have other : result.disposition ≠ .replayed := by cases outcome <;> exact nofun
  refine ⟨own, other, (IngestResult.validate_own own other).mpr ⟨bound, ?_, ?_⟩⟩
  · cases outcome <;> simp [resultOf]
  · cases outcome <;> rfl

theorem Fresh.inboxed {call : IngestCall} {p : Ingestion} {now : Instant} {result : IngestResult}
    (requested : IngestRequest h call p) (fresh : Fresh h s p now result s') :
    Inboxed h s' call.envelope result := by
  obtain ⟨row, recorded, added⟩ := fresh.recorded
  obtain ⟨_, rfl⟩ := inboxRow_ok.mp recorded
  have stored := added.lookup.mpr (.inl List.mem_cons_self)
  rw [requested.fingerprint, requested.envelope] at stored
  have outcome := fresh.outcome
  refine ⟨outcome.recorded fresh.bound, ?_, ?_, stored⟩
  · rw [← requested.envelope]; cases outcome <;> rfl
  · rw [← requested.envelope]; cases outcome <;> rfl

theorem registered_association {x y : Spanner} {incidentId : Identifier} {ids : List Identifier}
    {now : Instant} {r : Request} {associations : List SourceEventAssociation}
    {rows : List SourceRow} {a : SourceEventAssociation} (keyed : x.Keyed h)
    (registered : Spanner.Registered h x incidentId ids now r associations rows)
    (added : Spanner.SourcesAdded x y rows) (listed : a ∈ associations) :
    y.sourceEvents.lookup (a.incidentId.text, a.sourceEventId.text) = some (Spanner.sourceRow a r) ∨
      x.sourceEvents.lookup (a.incidentId.text, a.sourceEventId.text) =
        some ⟨sourceBinding a, a⟩ := by
  obtain ⟨_, _, ⟨row, new, rfl⟩ | old⟩ := registered.answered a listed
  · obtain ⟨id, _, attribution, _, rfl, _⟩ := registered.built row new
    exact .inl (added.added.lookup.mpr (.inl (List.mem_map_of_mem new)))
  · obtain ⟨k, stored⟩ := Table.mem_values.mp old
    have key := (keyed.sources k _ stored).1
    exact .inr (by rw [← stored, ← key]; rfl)

theorem materializeTrigger_ok {t : IncidentTrigger} {template : Option IncidentTrigger}
    {e : SourceEventEnvelope} {i : Incident} {key : String}
    (made : materializeTrigger h template e i key = .ok t) :
    PyEq.Same t.incident i ∧ t.traceId = e.traceId ∧
      ∃ k, triggerOf h template e i k = some t := by
  unfold materializeTrigger at made
  split at made
  · cases made
  · next t' found =>
    obtain ⟨_, made⟩ := Checks.seq_ok.mp made
    obtain ⟨same, made⟩ := Checks.seq_ok.mp made
    cases made
    obtain ⟨k, _, built⟩ := Option.bind_eq_some_iff.mp found
    obtain ⟨incident, trace, _⟩ := requireRuntime_ok.mp same
    exact ⟨incident, trace, k, built⟩

theorem parseTemplate_sent {e : SourceEventEnvelope} {key : String}
    {payload : Option TriggerPayload} {t : IncidentTrigger}
    (parsed : parseTemplate h e key payload = .ok (some t)) : t.sentAt = e.receivedAt := by
  cases payload with
  | none => cases parsed
  | some payload =>
    obtain ⟨_, parsed⟩ := Checks.seq_ok.mp parsed
    split at parsed
    · simp only [Checks.bind_ok, validateTriggerTemplate, requireArgument_ok, pure, Except.pure,
        Except.ok.injEq, Option.some.injEq] at parsed
      obtain ⟨_, _, _, ⟨_, _, _, _, sent, _⟩, rfl⟩ := parsed
      exact sent
    · cases parsed

theorem triggerOf_sent {template : Option IncidentTrigger} {e : SourceEventEnvelope} {i : Incident}
    {key : Identifier} {t : IncidentTrigger} (sent : ∀ t ∈ template, t.sentAt = e.receivedAt)
    (built : triggerOf h template e i key = some t) : t.sentAt = e.receivedAt := by
  unfold triggerOf at built
  split at built
  · next t' => cases built; exact sent t' rfl
  · simp only [Option.bind_eq_bind, Option.bind_eq_some_iff, pure, Option.some.injEq] at built
    obtain ⟨_, _, _, _, rfl⟩ := built
    rfl

theorem Fresh.holds {call : IngestCall} {p : Ingestion} {now : Instant} {result : IngestResult}
    (requested : IngestRequest h call p) (keyed : s.repository.Keyed h)
    (fresh : Fresh h s p now result s') : Holds h s' call.envelope result := by
  have outcome := fresh.outcome
  cases outcome with
  | shadow => exact .shadow rfl rfl rfl
  | @correlated _ candidate existing r a associations sources known _ _ joining listed named =>
    obtain ⟨stored, _⟩ := Spanner.get_some.mp joining.answers.stored
    have known : call.envelope.incident = some candidate := requested.envelope ▸ known
    refine .correlated rfl rfl rfl ⟨known, requested.envelope ▸ named, ?_, ?_⟩
    · exact ⟨_, by rw [joining.joined.incidents]; exact stored, .refl _⟩
    · rcases registered_association keyed joining.registered joining.joined.sources listed with
        new | old
      · exact ⟨_, new, rfl⟩
      · exact ⟨_, joining.joined.sources.added.lookup.mpr (.inr old), rfl⟩
  | @created _ candidate committed r a associations sources event o known asked _ stamped
      registered opening listed named built _ outbox =>
    have triggered := outboxRow_ok built
    obtain ⟨payload, trace, _, made⟩ := materializeTrigger_ok triggered.trigger
    have stored : s'.repository.sourceEvents.lookup (a.incidentId.text, a.sourceEventId.text) =
        some (Spanner.sourceRow a r) := by
      rcases registered_association keyed registered opening.opened.sources listed with new | old
      · exact new
      · -- The association cannot be older than its incident.
        have owner := keyed.owners _ (Table.mem_values.mpr ⟨_, old⟩)
        have own : a.incidentId = committed.incidentId := (registered.answered a listed).1
        rw [show (sourceBinding a).incidentId = committed.incidentId.text from
          congrArg (·.text) own, opening.absent] at owner
        cases owner
    have template : ∀ t ∈ p.template, t.sentAt = p.envelope.receivedAt := fun t inside =>
      parseTemplate_sent (requested.template.trans (congrArg Except.ok inside))
    have known : call.envelope.incident = some candidate := requested.envelope ▸ known
    refine .created rfl rfl rfl rfl
      ⟨known, requested.envelope ▸ named, ⟨incidentValues committed, ?_, .refl committed⟩, _,
        stored, rfl⟩
      ⟨asked, ?_, opening.new.safe, stored⟩
      ⟨?_, triggered.incidentId, requested.envelope ▸ triggered.sourceEventId, payload,
        requested.envelope ▸ trace, requested.envelope ▸ triggerOf_sent template made⟩
    · exact opening.opened.incidents.lookup.mpr (.inl List.mem_cons_self)
    · exact opening.opened.booked.idempotency.lookup.mpr (.inl List.mem_cons_self)
    · rw [outbox, Outbox.lookup_put, if_pos rfl]

/-! When a replay is accepted. -/

/-- The incident still has the source events of the result, and its row passes the policy. -/
def Unextended (h : Host) (s : EventStore) (i : Incident) : Prop :=
  ∃ row ∈ s.repository.incidents.lookup i.incidentId.text, RepositorySafe h row.payload.toJson ∧
    row.payload.sourceEventIds = i.sourceEventIds

/-- The columns of the association repeat its payload, as they do when the actor and the reason
of the call that registered it had no surrounding blanks. -/
def Unpadded (s : EventStore) (a : SourceEventAssociation) : Prop :=
  ∃ row ∈ s.repository.sourceEvents.lookup (a.incidentId.text, a.sourceEventId.text),
    row.columns = sourceBinding row.payload

/-- The association stands for a recorded request of the candidate that answered with the
incident. -/
def Requested (h : Host) (s : EventStore) (candidate i : Incident) (a : SourceEventAssociation) :
    Prop :=
  ∃ r, correlationRequest h candidate (requestOf a) = .ok r ∧
    ∃ row ∈ s.repository.idempotency.lookup r.scope, row.fingerprint = r.fingerprint ∧
      RepositorySafe h row.payload.toJson ∧ PyEq.Same row.payload i

/-- The outbox row is a valid record, and its trigger has the key of the association. -/
def Deliverable (h : Host) (s : EventStore) (eventId : Identifier) (a : SourceEventAssociation) :
    Prop :=
  ∃ o ∈ s.outbox.rows.lookup eventId.text, o.Valid h ∧
    o.payload.idempotencyKey = a.idempotencyKey

section
variable {e : SourceEventEnvelope} {result : IngestResult} {candidate i : Incident}
  {a : SourceEventAssociation} {u : Unit}

theorem replayIncident_ok {row : Cloud.IncidentRow} (sound : Sound h s.repository)
    (stored : s.repository.incidents.lookup i.incidentId.text = some row)
    (evolved : Evolved i row.payload) :
    s.replayIncident h (some i) = .ok u ↔ Unextended h s i := by
  obtain ⟨bound, named, valid⟩ := sound.keyed.incidents _ row stored
  simp only [replayIncident, Checks.bind_ok, fromIncidents_ok, requireRuntime_ok, Unextended,
    stored, Option.mem_def, Option.some.injEq, exists_eq_left']
  constructor
  · rintro ⟨found, got, current, rfl, same⟩
    obtain ⟨known, _, _, safe⟩ := Spanner.get_some.mp got
    rw [stored] at known
    cases known
    exact ⟨safe, same.2.2.2.2.2.2⟩
  · rintro ⟨safe, ids⟩
    refine ⟨some row.payload, Spanner.get_some.mpr ⟨by rw [stored, ← bound], named, valid, safe⟩,
      row.payload, rfl, ?_⟩
    have identity := evolved.identity
    exact ⟨identity.incidentId, identity.correlationKey, identity.technology, identity.detectedAt,
      identity.createdAt, identity.traceId, ids⟩

theorem sourceAssociation_ok {row : SourceRow} (sound : Sound h s.repository)
    (stored : s.repository.sourceEvents.lookup (a.incidentId.text, a.sourceEventId.text) = some row)
    (own : row.payload = a) :
    s.sourceAssociation h a.incidentId.text a.sourceEventId.text = .ok (some a) ↔ Unpadded s a := by
  have safe := sound.associations row (Table.mem_values.mpr ⟨_, stored⟩)
  simp only [sourceAssociation, Unpadded, stored, Checks.map_ok, Option.some.injEq, exists_eq_right,
    Option.mem_def, exists_eq_left', sourceRow_parse_ok]
  rw [own] at safe ⊢
  constructor
  · rintro ⟨same, _⟩
    rw [same]
  · intro same
    refine ⟨?_, trivial, safe⟩
    rw [← same, ← own]

theorem replay_same (sound : Sound h s.repository) {r : Request} :
    (∃ found, s.repository.replay h r.scope r.fingerprint = .ok found ∧ PyEq.Same found (some i)) ↔
      ∃ row ∈ s.repository.idempotency.lookup r.scope, row.fingerprint = r.fingerprint ∧
        RepositorySafe h row.payload.toJson ∧ PyEq.Same row.payload i := by
  constructor
  · rintro ⟨found, replayed, same⟩
    cases found with
    | none => cases same
    | some j =>
      obtain ⟨stored, _, safe⟩ := Spanner.replay_some.mp replayed
      exact ⟨_, stored, rfl, safe, Option.some.inj same⟩
  · rintro ⟨row, stored, fingerprint, safe, same⟩
    obtain ⟨own, valid⟩ := sound.results _ row stored
    refine ⟨some row.payload, Spanner.replay_some.mpr ⟨?_, valid, safe⟩, congrArg some same⟩
    rw [← fingerprint, ← own]
    exact stored

theorem replayAssociation_ok (sound : Sound h s.repository) (backed : Backed s e candidate i a) :
    s.replayAssociation h e (some i) (some a) = .ok u ↔
      Unpadded s a ∧ Requested h s candidate i a := by
  obtain ⟨row, stored, own⟩ := backed.association
  rw [← sourceAssociation_ok sound stored own]
  simp only [replayAssociation, backed.candidate, ← backed.event, Checks.bind_ok, fromIncidents_ok,
    requireRuntime_ok, Requested, requestOf, ← replay_same sound]
  constructor
  · rintro ⟨found, read, _, rfl, r, asked, replayed⟩
    exact ⟨read, r, asked, replayed⟩
  · rintro ⟨read, r, asked, replayed⟩
    exact ⟨some a, read, (), rfl, r, asked, replayed⟩

theorem outbox_get {o : OutboxRecord} {eventId : String}
    (stored : s.outbox.rows.lookup eventId = some o) {found : Option OutboxRecord} :
    s.outbox.get h eventId = .ok found ↔ o.Valid h ∧ found = some o := by
  simp only [Outbox.get, stored, Checks.seq_ok, OutboxRecord.parseRow_ok, Checks.require_ok, pure,
    Except.pure, Except.ok.injEq, s.outbox.keyed _ _ stored, true_and, @eq_comm _ _ found]

theorem replayOutbox_ok {o : OutboxRecord} {eventId : Identifier} {row : InboxRow}
    (disposition : result.disposition = .created) (recorded : result.Recorded h)
    (trace : result.traceId = e.traceId) (received : row.receivedAt = e.receivedAt)
    (incident : result.incident = some i) (association : result.sourceAssociation = some a)
    (event : result.outboxEventId = some eventId) (announced : Announced s e i eventId o) :
    s.replayOutbox h e row result = .ok u ↔ Deliverable h s eventId a := by
  have original : result.originalDisposition = some .created := recorded.own.trans (by rw [disposition])
  simp only [replayOutbox, original, if_true, event, Checks.bind_ok, fromOutbox_ok,
    requireRuntime_ok, outbox_get announced.stored, incident, association, Deliverable,
    announced.stored, Option.mem_def, Option.some.injEq, exists_eq_left']
  constructor
  · rintro ⟨_, ⟨valid, rfl⟩, _, known, _, _, _, _, key, _⟩
    cases known
    exact ⟨valid, key⟩
  · rintro ⟨valid, key⟩
    exact ⟨_, ⟨valid, rfl⟩, o, rfl, announced.incident, announced.event, announced.payload,
      announced.trace.trans trace.symm, key, announced.sent.trans received.symm⟩

end

/-! The replay of an envelope. -/

def SameEnvelope (e e' : SourceEventEnvelope) : Prop := e' = { e with receivedAt := e'.receivedAt }

structure Replayable (h : Host) (s : EventStore) (e : SourceEventEnvelope) (result : IngestResult) :
    Prop where
  incident : ∀ i ∈ result.incident, Unextended h s i
  association : ∀ a ∈ result.sourceAssociation, Unpadded s a
  correlated : result.disposition = .correlated → ∀ candidate ∈ e.incident, ∀ i ∈ result.incident,
    ∀ a ∈ result.sourceAssociation, Requested h s candidate i a
  created : result.disposition = .created → ∀ eventId ∈ result.outboxEventId,
    ∀ a ∈ result.sourceAssociation, Deliverable h s eventId a

def Replays (h : Host) (s : EventStore) (call : IngestCall) (now : Instant)
    (result : IngestResult) : Prop :=
  ∃ answer, s.ingest h call now = (.ok answer, s) ∧ answer.disposition = .replayed ∧
    answer.originalDisposition = some result.disposition ∧ answer.incident = result.incident

theorem requireNonEmpty_text (name : String) {bound : Nat} (text : Text.Bounded isSpace bound) :
    requireNonEmpty name text.text bound = .ok text := by
  have some_text : isBlank text.text = false := by
    rw [isBlank, beq_eq_false_iff_ne, show strip text.text = text.text from text.trimmed, ne_eq,
      ← String.length_eq_zero_iff]
    have := text.nonempty
    omega
  simp [requireNonEmpty, Checks.require, some_text, pure, Except.pure, Bind.bind, Except.bind]

theorem correlationRequest_metadata {candidate : Incident} {w : WriteMetadata} {r : Request}
    (requested : correlationRequest h candidate w = .ok r) :
    correlationRequest h candidate r.metadata = .ok r := by
  simp only [correlationRequest, requestScope, Checks.bind_ok, fromIncidents_ok, liftInput_ok, pure,
    Except.pure, Except.ok.injEq] at requested ⊢
  obtain ⟨_, ⟨operation, first, id, second, key, third, rfl⟩, rfl⟩ := requested
  exact ⟨_, ⟨operation, first, id, second, key, requireNonEmpty_text _ key, rfl⟩, rfl⟩

section
variable {e e' : SourceEventEnvelope} {result : IngestResult} {candidate i : Incident}
  {a : SourceEventAssociation} {u : Unit}

theorem Opener.requested_of_unpadded {r : Request} {w : WriteMetadata}
    (opener : Opener h s candidate i a r w) (unpadded : Unpadded s a) :
    Requested h s candidate i a := by
  obtain ⟨row, stored, columns⟩ := unpadded
  cases Option.some.inj (opener.association.symm.trans stored)
  have metadata : requestOf a = r.metadata := by
    simp only [Spanner.sourceRow, sourceBinding, SourceColumns.mk.injEq, true_and] at columns
    obtain ⟨actor, reason, key, trace⟩ := columns
    rw [requestOf, ← key, ← actor, ← reason, ← trace]
  exact ⟨r, metadata ▸ correlationRequest_metadata opener.requested, _, opener.result, rfl,
    opener.safe, rfl⟩

theorem SameEnvelope.refl (e : SourceEventEnvelope) : SameEnvelope e e := rfl

theorem SameEnvelope.identity (same : SameEnvelope e e') : e'.identity = e.identity := by
  rw [same]
  rfl

theorem replayTx_ok {p : Ingestion} {row : InboxRow} {answer : IngestResult} {writes : Writes}
    (inboxed : Inboxed h s e result) (same : SameEnvelope e p.envelope)
    (fp : p.fingerprint = fingerprint h "source_event" p.envelope.identity)
    (known : s.inbox.lookup e.sourceEventId.text = some row) :
    s.replayTx h p row = .ok (answer, writes) ↔
      s.replayIncident h result.incident = .ok () ∧
        s.replayAssociation h e result.incident result.sourceAssociation = .ok () ∧
        s.replayOutbox h e row result = .ok () ∧
        answer = { result with disposition := .replayed } ∧ writes = {} := by
  cases Option.some.inj (known.symm.trans inboxed.row)
  rw [same.identity] at fp
  obtain ⟨envelope, shadow, metadata, template, fingerprint⟩ := p
  change SameEnvelope e envelope at same
  change fingerprint = _ at fp
  rw [same, fp]
  have replay := inboxed.recorded.replay
  constructor
  · intro done
    simp only [replayTx, inboxed.recorded.accepted, Checks.bind_ok, requireArgument_ok,
      requireRuntime_ok, Except.ok.injEq, pure, Except.pure, Prod.mk.injEq] at done
    obtain ⟨_, _, _, rfl, _, _, _, incident, _, association, _, outbox, _, validated, rfl, rfl⟩ := done
    cases replay.symm.trans validated
    exact ⟨incident, association, outbox, rfl, rfl⟩
  · rintro ⟨incident, association, outbox, rfl, rfl⟩
    simp only [replayTx, inboxed.recorded.accepted, Checks.bind_ok, requireArgument_ok,
      requireRuntime_ok, Except.ok.injEq, pure, Except.pure, Prod.mk.injEq]
    exact ⟨(), by simp, _, rfl, (), ⟨inboxed.event, inboxed.trace, by simp⟩, (), incident,
       (), association, (), outbox, _, replay, by simp⟩

end

theorem replayTx_replayable {e : SourceEventEnvelope} {result : IngestResult} {p : Ingestion}
    {row : InboxRow} (sound : Sound h s.repository) (inboxed : Inboxed h s e result)
    (holds : Holds h s e result) (same : SameEnvelope e p.envelope)
    (fp : p.fingerprint = fingerprint h "source_event" p.envelope.identity)
    (known : s.inbox.lookup e.sourceEventId.text = some row) :
    s.replayTx h p row = .ok ({ result with disposition := .replayed }, {}) ↔
      Replayable h s e result := by
  have received : row.receivedAt = e.receivedAt := by
    cases Option.some.inj (known.symm.trans inboxed.row)
    rfl
  have other : ∀ {d d' : Disposition} {P : Prop}, d ≠ d' → result.disposition = d →
      result.disposition = d' → P := fun differ own own' => absurd (own.symm.trans own') differ
  rw [replayTx_ok inboxed same fp known]
  simp only [and_true]
  cases holds with
  | shadow disposition incident association =>
    have original : result.originalDisposition ≠ some .created := by
      rw [inboxed.recorded.own, disposition]; decide
    rw [incident, association, replayOutbox, if_neg original]
    refine ⟨fun _ => ⟨fun i known => ?_, fun a known => ?_, other (by decide) disposition, other (by decide) disposition⟩,
      fun _ => ⟨rfl, rfl, rfl⟩⟩
    · cases incident.symm.trans known
    · cases association.symm.trans known
  | @correlated candidate i a disposition incident association backed =>
    obtain ⟨stored, here, evolved⟩ := backed.incident
    have original : result.originalDisposition ≠ some .created := by
      rw [inboxed.recorded.own, disposition]; decide
    rw [incident, association, replayIncident_ok sound here evolved,
      replayAssociation_ok sound backed, replayOutbox, if_neg original]
    constructor
    · rintro ⟨unextended, ⟨unpadded, requested⟩, _⟩
      refine ⟨?_, ?_, fun _ => ?_, other (by decide) disposition⟩
      · simpa only [incident, Option.mem_def, Option.some.injEq, forall_eq'] using unextended
      · simpa only [association, Option.mem_def, Option.some.injEq, forall_eq'] using unpadded
      · simpa only [backed.candidate, incident, association, Option.mem_def, Option.some.injEq,
          forall_eq'] using requested
    · intro replayable
      exact ⟨replayable.incident i incident, ⟨replayable.association a association,
        replayable.correlated disposition candidate backed.candidate i incident a association⟩, rfl⟩
  | @created candidate i a r w eventId o disposition incident association event backed opener
      announced =>
    obtain ⟨stored, here, evolved⟩ := backed.incident
    rw [incident, association, replayIncident_ok sound here evolved,
      replayAssociation_ok sound backed, replayOutbox_ok disposition inboxed.recorded inboxed.trace
        received incident association event announced]
    constructor
    · rintro ⟨unextended, ⟨unpadded, _⟩, deliverable⟩
      refine ⟨?_, ?_, other (by decide) disposition, fun _ => ?_⟩
      · simpa only [incident, Option.mem_def, Option.some.injEq, forall_eq'] using unextended
      · simpa only [association, Option.mem_def, Option.some.injEq, forall_eq'] using unpadded
      · simpa only [event, association, Option.mem_def, Option.some.injEq, forall_eq'] using
          deliverable
    · intro replayable
      have unpadded := replayable.association a association
      exact ⟨replayable.incident i incident, ⟨unpadded, opener.requested_of_unpadded unpadded⟩,
        replayable.created disposition eventId event a association⟩

theorem ingest_of_replayTx {call : IngestCall} {now : Instant} {p : Ingestion} {row : InboxRow}
    {answer : IngestResult} (requested : ingestRequest h call = .ok p)
    (known : s.inbox.lookup p.envelope.sourceEventId.text = some row)
    (done : s.replayTx h p row = .ok (answer, {})) : s.ingest h call now = (.ok answer, s) := by
  simp [ingest, requested, ingestTx, known, done, commit, Spanner.commit, fromIncidents,
    insertOutbox, insertInbox, pure, Except.pure, Bind.bind, Except.bind]

theorem SameEnvelope.sourceEventId {e e' : SourceEventEnvelope} (same : SameEnvelope e e') :
    e'.sourceEventId = e.sourceEventId := by
  rw [same]

theorem replayTx_disposition {p : Ingestion} {row : InboxRow} {result : IngestResult}
    {writes : Writes} (done : s.replayTx h p row = .ok (result, writes)) :
    result.disposition = .replayed := by
  simp only [replayTx, Checks.bind_ok, pure, Except.pure, Except.ok.injEq, Prod.mk.injEq] at done
  obtain ⟨_, _, r, _, _, _, _, _, _, _, _, _, _, validated, rfl, _⟩ := done
  simp only [IngestResult.validate, Checks.bind_ok, pure, Except.pure, Except.ok.injEq] at validated
  obtain ⟨_, _, _, _, _, _, _, _, _, _, rfl⟩ := validated
  rfl

/-- A processed event is replayed exactly while the tables hold what the replay reads again. -/
theorem ingest_replayed_iff {before after : List (Instant × StoreCall)} {call call' : IngestCall}
    {now later : Instant} {result : IngestResult} {s : EventStore}
    (first : (run h {} before).ingest h call now = (.ok result, s))
    (original : result.disposition ≠ .replayed)
    (same : SameEnvelope call.envelope call'.envelope) :
    Replays h (run h s after) call' later result ↔
      (∃ p, ingestRequest h call' = .ok p) ∧ Replayable h (run h s after) call.envelope result := by
  obtain ⟨p, requested, replayed | fresh⟩ := ingest_ok (congrArg Prod.fst first)
  · obtain ⟨row, _, done, _⟩ := replayed
    exact absurd (replayTx_disposition done) original
  rw [congrArg Prod.snd first] at fresh
  have accepted := ingestRequest_ok requested
  have keyed := (run_sound h before).keyed
  have sound : Sound h (run h s after).repository := by
    have moved : Sound h s.repository := by
      rw [show s = ((run h {} before).ingest h call now).2 from (congrArg Prod.snd first).symm]
      exact next_sound (run h {} before) (now, .ingest call) (run_sound h before)
    exact Runs.run_invariant (next h) (P := fun s => Sound h s.repository) next_sound moved after
  have past := run_later (h := h) s after
  have inboxed := (fresh.inboxed accepted).later past
  have holds := (fresh.holds accepted keyed).later past
  constructor
  · rintro ⟨answer, answered, replayed, _⟩
    obtain ⟨p', requested', ⟨row, known, done, _⟩ | other⟩ := ingest_ok (congrArg Prod.fst answered)
    · have accepted' := ingestRequest_ok requested'
      have same' : SameEnvelope call.envelope p'.envelope := accepted'.envelope ▸ same
      rw [same'.sourceEventId] at known
      obtain ⟨_, _, _, rfl, _⟩ := (replayTx_ok inboxed same' accepted'.fingerprint known).mp done
      exact ⟨⟨p', requested'⟩,
        (replayTx_replayable sound inboxed holds same' accepted'.fingerprint known).mp done⟩
    · have absent := other.absent
      rw [(ingestRequest_ok requested').envelope, same.sourceEventId, inboxed.row] at absent
      cases absent
  · rintro ⟨⟨p', requested'⟩, replayable⟩
    have accepted' := ingestRequest_ok requested'
    have same' : SameEnvelope call.envelope p'.envelope := accepted'.envelope ▸ same
    have done := (replayTx_replayable sound inboxed holds same' accepted'.fingerprint
      inboxed.row).mpr replayable
    exact ⟨_, ingest_of_replayTx requested' (same'.sourceEventId ▸ inboxed.row) done, rfl,
      inboxed.recorded.own, rfl⟩

/-! An incident that gains a source event after its ingestion. -/
namespace Extension

def incident : Incident where
  incidentId := .ofText "incident" fits_incident
  sourceEventIds := [.ofText "event" fits_event]
  detectedAt := 0
  traceId := .ofText "trace" fits_trace
  createdAt := 0
  updatedAt := 0

def event : IngestCall where
  envelope := {
    sourceEventId := .ofText "event" fits_event
    source := .ofText "source" fits_source
    eventType := .ofText "fault" fits_fault
    occurredAt := 0
    receivedAt := 1
    payloadSha256 := Sha256.digest []
    traceId := .ofText "trace" fits_trace
    incident := some incident }

def ingested : Except IngestError IngestResult × EventStore := ingest Host.ascii {} event 2

def extend : List (Instant × StoreCall) :=
  [(3, .incident (.transition "incident" .triaged 0 ⟨"extend", "operator", "more", "trace"⟩
    { sourceEventIds := .set ["event", "event-2"] }))]

/-- Whether the event creates its incident, and its replay after the transition fails. -/
def fails : Except IngestError IngestResult × EventStore → Bool
  | (.ok result, s) => result.disposition = .created &&
      ((run Host.ascii s extend).ingest Host.ascii event 4).1.toOption.isNone
  | (.error _, _) => false

theorem replay_fails : fails ingested = true := by decide +kernel

theorem ingested_created : ∃ result s, ingest Host.ascii (run Host.ascii {} []) event 2 =
    (.ok result, s) ∧ result.disposition = .created ∧
      ((run Host.ascii s extend).ingest Host.ascii event 4).1.toOption.isNone = true := by
  have outcome := replay_fails
  change ∃ result s, ingested = (.ok result, s) ∧ _
  generalize ingested = answer at outcome ⊢
  obtain ⟨answer, s⟩ := answer
  cases answer with
  | error e => cases outcome
  | ok result =>
    simp only [fails, Bool.and_eq_true, decide_eq_true_eq] at outcome
    exact ⟨result, s, rfl, outcome⟩

end Extension

theorem ingest_replayed_iff_sample : ∃ result s,
    ingest Host.ascii (run Host.ascii {} []) Extension.event 2 = (.ok result, s) ∧
    (Replays Host.ascii (run Host.ascii s []) Extension.event 4 result ↔
      (∃ p, ingestRequest Host.ascii Extension.event = .ok p) ∧
        Replayable Host.ascii (run Host.ascii s []) Extension.event.envelope result) := by
  obtain ⟨result, s, first, created, _⟩ := Extension.ingested_created
  exact ⟨result, s, first, ingest_replayed_iff first (by rw [created]; decide) rfl⟩

/-- A transition that appends a source event makes every later replay of the event fail. -/
theorem extended_incident_not_replayed : ¬ ∀ (h : Host) (before after : List (Instant × StoreCall))
    (call call' : IngestCall) (now later : Instant) (result : IngestResult) (s : EventStore)
    (p : Ingestion), (run h {} before).ingest h call now = (.ok result, s) →
    result.disposition ≠ .replayed → SameEnvelope call.envelope call'.envelope →
    ingestRequest h call' = .ok p → Replays h (run h s after) call' later result := by
  intro claimed
  obtain ⟨result, s, first, created, refused⟩ := Extension.ingested_created
  obtain ⟨p, requested, _⟩ := ingest_ok (congrArg Prod.fst first)
  obtain ⟨answer, replayed, _⟩ := claimed Host.ascii [] Extension.extend Extension.event
    Extension.event 2 4 result s p first (by rw [created]; decide) rfl requested
  rw [replayed] at refused
  cases refused

end EventStore
end NetworkAgent.Cloud
