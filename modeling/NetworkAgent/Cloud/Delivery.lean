import Mathlib.Data.Set.Function
import NetworkAgent.Cloud.IncidentHistory
import NetworkAgent.Cloud.IngestEffects
import NetworkAgent.Cloud.Leases

/-! The outbox of created incidents: over every run of ingestions, outbox calls and incident
calls, the events recorded as created, the outbox rows and the incidents that ingestion created
correspond one to one. -/
namespace NetworkAgent.Cloud
open Memory (Request)

/-- The fields of an outbox row that no delivery changes. -/
structure OutboxRecord.SameEvent (r r' : OutboxRecord) : Prop where
  eventId : r'.eventId = r.eventId
  incidentId : r'.incidentId = r.incidentId
  sourceEventId : r'.sourceEventId = r.sourceEventId
  payload : r'.payload = r.payload

namespace Outbox

theorem claimRow_same {h : Host} {now expiry : Instant} {owner : Identifier} {maxAttempts : Int}
    {r r' : OutboxRecord} (taken : claimRow h now owner expiry maxAttempts r = .ok r') :
    r.SameEvent r' := by
  obtain ⟨_, taken⟩ := Checks.seq_ok.mp taken
  obtain ⟨_, taken⟩ := Checks.seq_ok.mp taken
  split at taken
  all_goals
    obtain ⟨_, same⟩ := Checks.seq_ok.mp taken
    cases same
    exact ⟨rfl, rfl, rfl, rfl⟩

theorem finishLease_same {h : Host} {o o' : Outbox} {eventId leaseOwner : String}
    {expectedAttempt : Int} {finish : Finish} {now : Instant} {answer : List OutboxRecord}
    (finished : o.finishLease h eventId leaseOwner expectedAttempt finish now = .ok (answer, o'))
    {k : String} {r' : OutboxRecord} (stored : o'.rows.lookup k = some r') :
    ∃ r, o.rows.lookup k = some r ∧ r.SameEvent r' := by
  simp only [finishLease, Checks.bind_ok, checkInput_ok] at finished
  obtain ⟨event, named, _, _, _, _, _, _, current, found, finished⟩ := finished
  cases current with
  | none => cases finished
  | some r =>
    simp only [Checks.seq_ok, pure, Except.pure, Except.ok.injEq, Prod.mk.injEq] at finished
    obtain ⟨_, _, _, rfl⟩ := finished
    obtain ⟨known, _⟩ := get_ok found
    have kept : r.SameEvent (finish.apply now r) := by cases finish <;> exact ⟨rfl, rfl, rfl, rfl⟩
    rw [lookup_put] at stored
    split at stored
    · next own =>
      cases stored
      have own' : r.eventId.text = event.text := o.keyed _ _ known
      rw [kept.eventId, own'] at own
      exact ⟨r, own ▸ known, kept⟩
    · exact ⟨r', stored, rfl, rfl, rfl, rfl⟩

theorem next_same {h : Host} {o : Outbox} {call : Instant × OutboxCall} {k : String}
    {r' : OutboxRecord} (stored : (o.next h call).rows.lookup k = some r') :
    ∃ r, o.rows.lookup k = some r ∧ r.SameEvent r' := by
  obtain ⟨now, call⟩ := call
  unfold next at stored
  split at stored
  · next answer o' done =>
    cases call with
    | claim leaseOwner limit leaseSeconds maxAttempts =>
      simp only [step, claim, Checks.bind_ok, checkInput_ok, pure, Except.pure, Except.ok.injEq,
        Prod.mk.injEq] at done
      obtain ⟨_, _, _, _, _, _, _, _, _, _, updated, taken, _, rfl⟩ := done
      rcases lookup_foldl_put updated o k with ⟨r, member, own, known⟩ | ⟨_, same⟩
      · cases stored.symm.trans known
        obtain ⟨before, listed, ok⟩ := Checks.mapM_source taken member
        have kept := claimRow_same ok
        refine ⟨before, ?_, kept⟩
        rw [← own, kept.eventId]
        exact mem_claimable listed
      · exact ⟨r', same ▸ stored, rfl, rfl, rfl, rfl⟩
    | markDelivered eventId leaseOwner expectedAttempt => exact finishLease_same done stored
    | retry eventId leaseOwner expectedAttempt delaySeconds errorCode =>
      obtain ⟨_, _, done⟩ := Checks.bind_ok.mp done
      obtain ⟨_, _, done⟩ := Checks.bind_ok.mp done
      exact finishLease_same done stored
    | markDead eventId leaseOwner expectedAttempt errorCode =>
      obtain ⟨_, _, done⟩ := Checks.bind_ok.mp done
      exact finishLease_same done stored
  · exact ⟨r', stored, rfl, rfl, rfl, rfl⟩

theorem next_kept {h : Host} {o : Outbox} (call : Instant × OutboxCall) {k : String}
    {r : OutboxRecord} (stored : o.rows.lookup k = some r) :
    ∃ r', (o.next h call).rows.lookup k = some r' ∧ r.SameEvent r' := by
  obtain ⟨r', known, _⟩ := next_rows h o call stored
  obtain ⟨before, stored', same⟩ := next_same known
  cases stored.symm.trans stored'
  exact ⟨r', known, same⟩

end Outbox

namespace EventStore
variable {h : Host} {s : EventStore}

/-- The event was recorded as the one that created this incident, with this outbox row. -/
def Created (s : EventStore) (sourceEventId incidentId eventId : String) : Prop :=
  ∃ row, s.inbox.lookup sourceEventId = some row ∧ row.disposition = .created ∧
    row.incidentId = some incidentId ∧ row.outboxEventId = some eventId

structure Paired (s : EventStore) : Prop where
  delivered : ∀ id row, s.inbox.lookup id = some row → row.disposition = .created →
    ∃ incidentId eventId o, row.incidentId = some incidentId ∧ row.outboxEventId = some eventId ∧
      s.outbox.rows.lookup eventId = some o ∧ o.sourceEventId.text = id ∧
      o.incidentId.text = incidentId
  recorded : ∀ k o, s.outbox.rows.lookup k = some o →
    s.Created o.sourceEventId.text o.incidentId.text k
  others : ∀ id row, s.inbox.lookup id = some row → row.disposition ≠ .created →
    row.outboxEventId = none
  stored : ∀ id incidentId k, s.Created id incidentId k →
    (s.repository.incidents.lookup incidentId).isSome = true
  single : ∀ id id' incidentId k k', s.Created id incidentId k → s.Created id' incidentId k' →
    id = id'

theorem paired_empty : Paired {} where
  delivered _ _ stored := by cases stored
  recorded _ _ stored := by cases stored
  others _ _ stored := by cases stored
  stored _ _ _ created := by obtain ⟨_, stored, _⟩ := created; cases stored
  single _ _ _ _ _ created := by obtain ⟨_, stored, _⟩ := created; cases stored

theorem inboxRow_ok {p : Ingestion} {r : IngestResult} {row : InboxRow} :
    inboxRow h p r = .ok row ↔ RepositorySafe h r.toJson ∧ row = {
      source := p.envelope.source.text
      eventType := p.envelope.eventType.text
      payloadSha256 := p.envelope.payloadSha256
      fingerprint := p.fingerprint
      traceId := p.envelope.traceId.text
      receivedAt := p.envelope.receivedAt
      disposition := r.disposition
      incidentId := r.incident.map (·.incidentId.text)
      outboxEventId := r.outboxEventId.map (·.text)
      payload := r } := by
  rw [inboxRow, Checks.seq_ok, fromInput_ok, assertSafe_ok]
  exact and_congr_right fun _ =>
    ⟨fun same => (Except.ok.inj same).symm, fun same => congrArg Except.ok same.symm⟩

structure Triggered (h : Host) (p : Ingestion) (i : Incident) (o : OutboxRecord) : Prop where
  incidentId : o.incidentId = i.incidentId
  sourceEventId : o.sourceEventId = p.envelope.sourceEventId
  trigger : materializeTrigger h p.template p.envelope i p.metadata.idempotencyKey = .ok o.payload

theorem outboxRow_ok {p : Ingestion} {i : Incident} {now : Instant} {o : OutboxRecord}
    (built : outboxRow h p i now = .ok o) : Triggered h p i o := by
  obtain ⟨t, trigger, built⟩ := Checks.bind_ok.mp built
  obtain ⟨_, built⟩ := Checks.seq_ok.mp built
  obtain ⟨_, built⟩ := Checks.seq_ok.mp built
  split at built
  · cases built
    exact ⟨rfl, rfl, trigger⟩
  · cases built

theorem created_added {s' : EventStore} {id : String} {row : InboxRow}
    (added : s.inbox.Added [(id, row)] s'.inbox) {a b c : String} :
    s'.Created a b c ↔ s.Created a b c ∨ (a = id ∧ row.disposition = .created ∧
      row.incidentId = some b ∧ row.outboxEventId = some c) := by
  constructor
  · rintro ⟨row', stored, created⟩
    rcases added.lookup.mp stored with new | old
    · cases List.mem_singleton.mp new
      exact .inr ⟨rfl, created⟩
    · exact .inl ⟨row', old, created⟩
  · rintro (⟨row', old, created⟩ | ⟨rfl, created⟩)
    · exact ⟨row', added.lookup.mpr (.inr old), created⟩
    · exact ⟨row, added.lookup.mpr (.inl List.mem_cons_self), created⟩

theorem Paired.keep {s' : EventStore} {id : String} {row : InboxRow} (paired : s.Paired)
    (added : s.inbox.Added [(id, row)] s'.inbox) (other : row.disposition ≠ .created)
    (none : row.outboxEventId = none) (outbox : s'.outbox = s.outbox)
    (kept : ∀ k, (s.repository.incidents.lookup k).isSome = true →
      (s'.repository.incidents.lookup k).isSome = true) : s'.Paired := by
  have created : ∀ {a b c}, s'.Created a b c ↔ s.Created a b c := by
    intro a b c
    rw [created_added added, or_iff_left fun new => other new.2.1]
  refine ⟨fun k r stored outcome => ?_, fun k o stored => ?_, fun k r stored outcome => ?_,
    fun k incidentId eventId known => kept _ (paired.stored _ _ _ (created.mp known)),
    fun k k' incidentId eventId eventId' first second =>
      paired.single _ _ _ _ _ (created.mp first) (created.mp second)⟩
  · rw [outbox]
    rcases added.lookup.mp stored with new | old
    · cases List.mem_singleton.mp new
      exact absurd outcome other
    · exact paired.delivered k r old outcome
  · rw [outbox] at stored
    exact created.mpr (paired.recorded k o stored)
  · rcases added.lookup.mp stored with new | old
    · cases List.mem_singleton.mp new
      exact none
    · exact paired.others k r old outcome

theorem Paired.open {s' : EventStore} {id : String} {row : InboxRow} {o : OutboxRecord}
    {incidentId : String} (paired : s.Paired) (added : s.inbox.Added [(id, row)] s'.inbox)
    (outcome : row.disposition = .created) (incident : row.incidentId = some incidentId)
    (event : row.outboxEventId = some o.eventId.text) (source : o.sourceEventId.text = id)
    (bound : o.incidentId.text = incidentId) (absent : o.eventId.text ∉ s.outbox.rows)
    (outbox : s'.outbox = s.outbox.put o)
    (unknown : s.repository.incidents.lookup incidentId = none)
    (kept : ∀ k, k = incidentId ∨ (s.repository.incidents.lookup k).isSome = true →
      (s'.repository.incidents.lookup k).isSome = true) : s'.Paired := by
  have created : ∀ {a b c}, s'.Created a b c ↔ s.Created a b c ∨
      (a = id ∧ b = incidentId ∧ c = o.eventId.text) := by
    intro a b c
    rw [created_added added, incident, event]
    simp only [outcome, true_and, Option.some.injEq, eq_comm]
  have lookup : ∀ k, s'.outbox.rows.lookup k =
      if k = o.eventId.text then some o else s.outbox.rows.lookup k := fun k => by
    rw [outbox, Outbox.lookup_put]
  have unused : ∀ {a c}, ¬ s.Created a incidentId c := fun known => by
    have here := paired.stored _ _ _ known
    rw [unknown] at here
    cases here
  refine ⟨fun k r stored outcome' => ?_, fun k o' stored => ?_, fun k r stored outcome' => ?_,
    fun a b c known => kept b ?_, fun a a' b c c' first second => ?_⟩
  · rcases added.lookup.mp stored with new | old
    · cases List.mem_singleton.mp new
      exact ⟨incidentId, o.eventId.text, o, incident, event, by rw [lookup, if_pos rfl], source,
        bound⟩
    · obtain ⟨i, e, o', i_eq, e_eq, known, rest⟩ := paired.delivered k r old outcome'
      have other : e ≠ o.eventId.text := by
        rintro rfl
        exact absent (AList.lookup_isSome.mp (by rw [known]; rfl))
      exact ⟨i, e, o', i_eq, e_eq, by rw [lookup, if_neg other, known], rest⟩
  · rw [lookup] at stored
    split at stored
    · next own =>
      cases stored
      exact created.mpr (.inr ⟨source, bound, own⟩)
    · exact created.mpr (.inl (paired.recorded k o' stored))
  · rcases added.lookup.mp stored with new | old
    · cases List.mem_singleton.mp new
      exact absurd outcome outcome'
    · exact paired.others k r old outcome'
  · rcases created.mp known with old | ⟨_, same, _⟩
    · exact .inr (paired.stored _ _ _ old)
    · exact .inl same
  · rcases created.mp first with old | ⟨rfl, rfl, _⟩
    · rcases created.mp second with old' | ⟨_, rfl, _⟩
      · exact paired.single _ _ _ _ _ old old'
      · exact absurd old unused
    · rcases created.mp second with old' | ⟨rfl, _, _⟩
      · exact absurd old' unused
      · rfl

theorem kept_isSome {a b : Spanner} (kept : Spanner.Kept a b) (k : String)
    (known : (a.incidents.lookup k).isSome = true) : (b.incidents.lookup k).isSome = true := by
  obtain ⟨row, stored⟩ := Option.isSome_iff_exists.mp known
  obtain ⟨row', stored', _⟩ := kept.incidents k row stored
  rw [stored']
  rfl

theorem Outcome.kept {s' : EventStore} {p : Ingestion} {now : Instant} {result : IngestResult}
    (outcome : Outcome h s p now result s') (passed : requireWriteMetadata h p.metadata = .ok ()) :
    Spanner.Kept s.repository s'.repository := by
  obtain ⟨_, effect⟩ := outcome.effect passed
  exact effect.kept

theorem Fresh.paired {s' : EventStore} {p : Ingestion} {now : Instant} {result : IngestResult}
    (passed : requireWriteMetadata h p.metadata = .ok ()) (paired : s.Paired)
    (fresh : Fresh h s p now result s') : s'.Paired := by
  obtain ⟨row, recorded, added⟩ := fresh.recorded
  obtain ⟨_, rfl⟩ := inboxRow_ok.mp recorded
  have kept := kept_isSome (fresh.outcome.kept passed)
  have outcome := fresh.outcome
  cases outcome with
  | shadow _ _ outbox => exact paired.keep added nofun rfl outbox kept
  | correlated _ _ _ _ _ _ outbox => exact paired.keep added nofun rfl outbox kept
  | created _ _ _ _ _ opening _ _ built absent outbox =>
    have triggered := outboxRow_ok built
    refine paired.open added rfl rfl rfl (congrArg (·.text) triggered.sourceEventId)
      (congrArg (·.text) triggered.incidentId) absent outbox opening.absent fun k known => ?_
    rcases known with rfl | known
    · rw [opening.opened.incidents.lookup.mpr (.inl List.mem_cons_self)]
      rfl
    · exact kept k known

theorem next_paired (s : EventStore) (call : Instant × StoreCall) (paired : s.Paired) :
    (next h s call).Paired := by
  obtain ⟨now, call⟩ := call
  cases call with
  | ingest call =>
    change ((s.ingest h call now).2).Paired
    cases answer : (s.ingest h call now).1 with
    | error e => rw [ingest_error answer]; exact paired
    | ok result =>
      obtain ⟨p, requested, ⟨_, _, _, same⟩ | fresh⟩ := ingest_ok answer
      · rw [same]; exact paired
      · exact fresh.paired (ingestRequest_ok requested).accepted paired
  | incident call =>
    have kept := kept_isSome (Spanner.step_effect h s.repository now call).kept
    exact ⟨paired.delivered, paired.recorded, paired.others,
      fun id incidentId k known => kept incidentId (paired.stored id incidentId k known),
      paired.single⟩
  | outbox call =>
    refine ⟨fun id row stored outcome => ?_, fun k o stored => ?_, paired.others, paired.stored,
      paired.single⟩
    · obtain ⟨incidentId, eventId, o, incident, event, known, source, bound⟩ :=
        paired.delivered id row stored outcome
      obtain ⟨o', known', same⟩ := Outbox.next_kept (now, call) known
      exact ⟨incidentId, eventId, o', incident, event, known', by rw [same.sourceEventId, source],
        by rw [same.incidentId, bound]⟩
    · obtain ⟨o', known, same⟩ := Outbox.next_same stored
      rw [same.sourceEventId, same.incidentId]
      exact paired.recorded k o' known

theorem run_paired (h : Host) (calls : List (Instant × StoreCall)) : (run h {} calls).Paired :=
  Runs.run_invariant (next h) next_paired paired_empty calls

/-! The incidents that ingestion created. -/

/-- The call is an ingestion, and the incident is stored after it and not before. -/
def Creates (h : Host) (incidentId : String) (s : EventStore) (call : Instant × StoreCall) : Prop :=
  (∃ c, call.2 = .ingest c) ∧ s.repository.incidents.lookup incidentId = none ∧
    ((next h s call).repository.incidents.lookup incidentId).isSome = true

def HasEvent (incidentId : String) (s : EventStore) : Prop :=
  ∃ id k, s.Created id incidentId k

theorem Fresh.creates {s' : EventStore} {p : Ingestion} {now : Instant} {result : IngestResult}
    (fresh : Fresh h s p now result s') {incidentId : String} :
    HasEvent incidentId s' ↔ HasEvent incidentId s ∨
      (s.repository.incidents.lookup incidentId = none ∧
        (s'.repository.incidents.lookup incidentId).isSome = true) := by
  obtain ⟨row, recorded, added⟩ := fresh.recorded
  obtain ⟨_, rfl⟩ := inboxRow_ok.mp recorded
  have outcome := fresh.outcome
  have unchanged : s'.repository.incidents = s.repository.incidents →
      ¬(s.repository.incidents.lookup incidentId = none ∧
        (s'.repository.incidents.lookup incidentId).isSome = true) := by
    rintro same ⟨absent, present⟩
    rw [same, absent] at present
    cases present
  simp only [HasEvent, created_added added, exists_or]
  refine or_congr_right ?_
  cases outcome with
  | shadow _ repository _ =>
    refine iff_of_false (fun ⟨_, _, _, other, _⟩ => by cases other) (unchanged ?_)
    rw [repository]
  | correlated _ _ _ joining =>
    exact iff_of_false (fun ⟨_, _, _, other, _⟩ => by cases other)
      (unchanged joining.joined.incidents)
  | @created _ _ committed _ _ _ _ _ o _ _ _ _ _ opening =>
    constructor
    · rintro ⟨id, k, _, _, same, _⟩
      cases Option.some.inj same
      refine ⟨opening.absent, ?_⟩
      rw [opening.opened.incidents.lookup.mpr (.inl List.mem_cons_self)]
      rfl
    · rintro ⟨absent, present⟩
      obtain ⟨found, stored⟩ := Option.isSome_iff_exists.mp present
      rcases opening.opened.incidents.lookup.mp stored with new | old
      · cases List.mem_singleton.mp new
        exact ⟨_, o.eventId.text, rfl, rfl, rfl, rfl⟩
      · rw [absent] at old
        cases old

theorem next_creates (incidentId : String) (s : EventStore) (call : Instant × StoreCall) :
    HasEvent incidentId (next h s call) ↔ HasEvent incidentId s ∨ Creates h incidentId s call := by
  obtain ⟨now, call⟩ := call
  cases call with
  | ingest call =>
    change HasEvent incidentId (s.ingest h call now).2 ↔ _
    have unchanged : (s.ingest h call now).2 = s → (HasEvent incidentId (s.ingest h call now).2 ↔
        HasEvent incidentId s ∨ Creates h incidentId s (now, .ingest call)) := by
      intro same
      rw [same, or_iff_left]
      rintro ⟨_, absent, present⟩
      change ((s.ingest h call now).2.repository.incidents.lookup incidentId).isSome = true at present
      rw [same, absent] at present
      cases present
    cases answer : (s.ingest h call now).1 with
    | error e => exact unchanged (ingest_error answer)
    | ok result =>
      obtain ⟨p, _, ⟨_, _, _, same⟩ | fresh⟩ := ingest_ok answer
      · exact unchanged same
      · rw [fresh.creates]
        exact or_congr_right ⟨fun new => ⟨⟨call, rfl⟩, new⟩, fun new => new.2⟩
  | incident call =>
    have other : ¬ Creates h incidentId s (now, .incident call) := fun ⟨⟨_, same⟩, _⟩ => by cases same
    exact (or_iff_left other).symm
  | outbox call =>
    have other : ¬ Creates h incidentId s (now, .outbox call) := fun ⟨⟨_, same⟩, _⟩ => by cases same
    exact (or_iff_left other).symm

def CreatedByIngest (h : Host) (calls : List (Instant × StoreCall)) (incidentId : String) : Prop :=
  Runs.Sometime (next h) (Creates h incidentId) {} calls

theorem hasEvent_run (h : Host) (calls : List (Instant × StoreCall)) (incidentId : String) :
    HasEvent incidentId (run h {} calls) ↔ CreatedByIngest h calls incidentId := by
  have collected := Runs.run_collects (next h) (P := HasEvent incidentId)
    (fun s call => next_creates incidentId s call) {} calls
  have empty : ¬ HasEvent incidentId ({} : EventStore) := by
    rintro ⟨id, k, row, stored, _⟩
    cases stored
  exact collected.trans (or_iff_right empty)

/-! The correspondence. -/

def createdEvents (s : EventStore) : Set String :=
  {id | ∃ row, s.inbox.lookup id = some row ∧ row.disposition = .created}

def outboxEventOf (s : EventStore) (sourceEventId : String) : Option String :=
  (s.inbox.lookup sourceEventId).bind (·.outboxEventId)

def incidentOf (s : EventStore) (sourceEventId : String) : Option String :=
  (s.inbox.lookup sourceEventId).bind (·.incidentId)

theorem Created.unique {id incidentId incidentId' k k' : String} (first : s.Created id incidentId k)
    (second : s.Created id incidentId' k') : incidentId = incidentId' ∧ k = k' := by
  obtain ⟨row, stored, _, incident, event⟩ := first
  obtain ⟨row', stored', _, incident', event'⟩ := second
  cases stored.symm.trans stored'
  exact ⟨Option.some.inj (incident.symm.trans incident'), Option.some.inj (event.symm.trans event')⟩

theorem Paired.of_event (paired : s.Paired) {id : String} (member : id ∈ s.createdEvents) :
    ∃ incidentId k o, s.Created id incidentId k ∧ s.outboxEventOf id = some k ∧
      s.incidentOf id = some incidentId ∧ s.outbox.rows.lookup k = some o ∧
      o.sourceEventId.text = id ∧ o.incidentId.text = incidentId := by
  obtain ⟨row, stored, outcome⟩ := member
  obtain ⟨incidentId, k, o, incident, event, known, source, bound⟩ :=
    paired.delivered id row stored outcome
  refine ⟨incidentId, k, o, ⟨row, stored, outcome, incident, event⟩, ?_, ?_, known, source, bound⟩
  · rw [outboxEventOf, stored]; exact event
  · rw [incidentOf, stored]; exact incident

structure DeliversOnce (h : Host) (calls : List (Instant × StoreCall)) (s : EventStore) : Prop where
  events : Set.BijOn s.outboxEventOf s.createdEvents {e | ∃ k, e = some k ∧ k ∈ s.outbox.rows}
  incidents : Set.BijOn s.incidentOf s.createdEvents
    {i | ∃ incidentId, i = some incidentId ∧ CreatedByIngest h calls incidentId}
  bound : ∀ incidentId, CreatedByIngest h calls incidentId →
    ∃! k, ∃ o, s.outbox.rows.lookup k = some o ∧ o.incidentId.text = incidentId
  others : ∀ id row, s.inbox.lookup id = some row → row.disposition ≠ .created →
    row.outboxEventId = none ∧ ∀ k o, s.outbox.rows.lookup k = some o → o.sourceEventId.text ≠ id
  silent : ∀ now call result, (s.ingest h call now).1 = .ok result →
    result.disposition ≠ .created → (s.ingest h call now).2.outbox = s.outbox
  rollback : ∀ now call e, (s.ingest h call now).1 = .error e → (s.ingest h call now).2 = s

theorem silent_of_other {call : IngestCall} {now : Instant} {result : IngestResult}
    (answer : (s.ingest h call now).1 = .ok result) (other : result.disposition ≠ .created) :
    (s.ingest h call now).2.outbox = s.outbox := by
  obtain ⟨p, _, ⟨_, _, _, same⟩ | fresh⟩ := ingest_ok answer
  · rw [same]
  · have outcome := fresh.outcome
    cases outcome with
    | shadow _ _ outbox => exact outbox
    | correlated _ _ _ _ _ _ outbox => exact outbox
    | created => exact absurd rfl other

/-- In every state of every run the created events, the outbox rows and the incidents that
ingestion created correspond one to one, and nothing else writes an outbox row. -/
theorem transactional_outbox (h : Host) (calls : List (Instant × StoreCall)) :
    DeliversOnce h calls (run h {} calls) := by
  have paired := run_paired h calls
  have created := hasEvent_run h calls
  generalize run h {} calls = s at paired created
  refine ⟨⟨?_, ?_, ?_⟩, ⟨?_, ?_, ?_⟩, fun incidentId known => ?_, fun id row stored other => ?_,
    fun now call result answer other => silent_of_other answer other,
    fun now call e failed => ingest_error failed⟩
  · intro id member
    obtain ⟨_, k, o, _, event, _, known, _⟩ := paired.of_event member
    exact ⟨k, event, AList.lookup_isSome.mp (by rw [known]; rfl)⟩
  · intro id member id' member' same
    obtain ⟨_, k, o, _, event, _, known, source, _⟩ := paired.of_event member
    obtain ⟨_, k', o', _, event', _, known', source', _⟩ := paired.of_event member'
    rw [event, event'] at same
    cases same
    cases known.symm.trans known'
    exact source.symm.trans source'
  · rintro _ ⟨k, rfl, present⟩
    obtain ⟨o, known⟩ := Option.isSome_iff_exists.mp (AList.lookup_isSome.mpr present)
    obtain ⟨row, stored, outcome, _, event⟩ := paired.recorded k o known
    refine ⟨o.sourceEventId.text, ⟨row, stored, outcome⟩, ?_⟩
    rw [outboxEventOf, stored]
    exact event
  · intro id member
    obtain ⟨incidentId, k, _, known, _, incident, _⟩ := paired.of_event member
    exact ⟨incidentId, incident, (created incidentId).mp ⟨id, k, known⟩⟩
  · intro id member id' member' same
    obtain ⟨_, _, _, known, _, incident, _⟩ := paired.of_event member
    obtain ⟨_, _, _, known', _, incident', _⟩ := paired.of_event member'
    rw [incident, incident'] at same
    cases same
    exact paired.single _ _ _ _ _ known known'
  · rintro _ ⟨incidentId, rfl, known⟩
    obtain ⟨id, k, row, stored, outcome, incident, _⟩ := (created incidentId).mpr known
    refine ⟨id, ⟨row, stored, outcome⟩, ?_⟩
    rw [incidentOf, stored]
    exact incident
  · obtain ⟨id, k₀, row, stored, outcome, incident, _⟩ := (created incidentId).mpr known
    obtain ⟨_, k, o, event, _, incident', found, _, own⟩ :=
      paired.of_event ⟨row, stored, outcome⟩
    rw [incidentOf, stored] at incident'
    cases Option.some.inj (incident'.symm.trans incident)
    refine ⟨k, ⟨o, found, own⟩, fun k' ⟨o', found', own'⟩ => ?_⟩
    have recorded := paired.recorded k' o' found'
    rw [own'] at recorded
    rw [← paired.single _ _ _ _ _ event recorded] at recorded
    exact (event.unique recorded).2.symm
  · refine ⟨paired.others id row stored other, fun k o found same => ?_⟩
    obtain ⟨row', stored', outcome, _⟩ := paired.recorded k o found
    rw [same, stored] at stored'
    cases stored'
    exact other outcome

end EventStore
end NetworkAgent.Cloud
