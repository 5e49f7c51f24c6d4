import NetworkAgent.FaultIngress.Service
import NetworkAgent.FaultIngress.Identities
import NetworkAgent.Cloud.IngestReplay

/-! What an acknowledgement in canonical mode promises, over every run of deliveries. -/
namespace NetworkAgent.FaultIngress
open Cloud (SourceEventEnvelope IngestResult IngestError EventStore InboxRow SourceRow)

section
variable {h : Host} {fromisoformat : String → Option Instant}
  {legacyHandler : Option LegacyHandler} {s s' : EventStore} {d : Delivery}

/-! The cases of a delivery. -/

theorem process_store (h : Host) (fromisoformat : String → Option Instant)
    (legacyHandler : Option LegacyHandler) (s : EventStore) (d : Delivery) :
    (process h fromisoformat legacyHandler s d).2 = s ∨
      ∃ p, prepare h fromisoformat d.config d.receivedAt d.push = .ok p ∧
        (process h fromisoformat legacyHandler s d).2 = (s.ingest h (p.call d.config) d.now).2 := by
  have ingested : (ingestPush h fromisoformat s d).2 = s ∨
      ∃ p, prepare h fromisoformat d.config d.receivedAt d.push = .ok p ∧
        (ingestPush h fromisoformat s d).2 = (s.ingest h (p.call d.config) d.now).2 := by
    unfold ingestPush
    split
    · exact .inl rfl
    · next p prepared =>
      refine .inr ⟨p, prepared, ?_⟩
      split <;> next answer => rw [answer]
  unfold process
  cases d.config.mode with
  | paused => exact .inl rfl
  | legacy => exact .inl rfl
  | shadow => exact ingested
  | canonical => exact ingested

structure Accepts (h : Host) (fromisoformat : String → Option Instant) (s : EventStore)
    (d : Delivery) (s' : EventStore) (p : Prepared) (result answer : IngestResult) : Prop where
  prepared : prepare h fromisoformat d.config d.receivedAt d.push = .ok p
  ingested : s.ingest h (p.call d.config) d.now = (.ok result, s')
  validated : result.validate h = .ok answer
  matching : ResultMatchesMode answer p.envelope .canonical d.config.actor.text
    p.trigger.idempotencyKey.text

theorem accepts_of_acknowledged (canonical : d.config.mode = .canonical)
    (acknowledged : Acknowledged h fromisoformat legacyHandler s d) :
    ∃ p result answer, Accepts h fromisoformat s d
      (process h fromisoformat legacyHandler s d).2 p result answer := by
  obtain ⟨decision, answered, status⟩ := acknowledged
  have routed : process h fromisoformat legacyHandler s d = ingestPush h fromisoformat s d := by
    simp [process, canonical]
  rw [routed] at answered ⊢
  unfold ingestPush at answered ⊢
  cases prepared : prepare h fromisoformat d.config d.receivedAt d.push with
  | error failure =>
    simp only [prepared] at answered
    cases failure with
    | permanent code => cases answered
    | value text => cases answered
    | model error =>
      simp only [refused, failed] at answered
      split at answered
      · cases answered
      · cases answered; cases status
    | overflow => cases answered; cases status
  | ok p =>
    simp only [prepared] at answered ⊢
    split at answered
    · next error s' _ =>
      simp only [failed] at answered
      split at answered
      · cases answered
      · cases answered; cases status
    · next result s' ingested =>
      simp only [acknowledge, Except.ok.injEq] at answered
      split at answered
      · cases answered; cases status
      · next answer validated =>
        split at answered
        · next matching =>
          exact ⟨p, result, answer, prepared, ingested, validated, canonical ▸ matching⟩
        · cases answered; cases status

/-! What the store holds over every run. -/

def Observed (h : Host) (fromisoformat : String → Option Instant) (steps : List Step)
    (sourceEventId : String) : Prop :=
  ∃ d, Step.deliver d ∈ steps ∧ d.config.mode = .shadow ∧
    ∃ p, prepare h fromisoformat d.config d.receivedAt d.push = .ok p ∧
      p.envelope.sourceEventId.text = sourceEventId

theorem Observed.append {before : List Step} {id : String}
    (observed : Observed h fromisoformat before id) (after : List Step) :
    Observed h fromisoformat (before ++ after) id := by
  obtain ⟨d, member, rest⟩ := observed
  exact ⟨d, List.mem_append_left after member, rest⟩

/-- The inbox keeps results as they were answered; a shadow result comes from a shadow delivery. -/
structure Kept (h : Host) (fromisoformat : String → Option Instant) (steps : List Step)
    (s : EventStore) : Prop where
  sound : EventStore.Sound h s.repository
  unique : EventStore.SourcesUnique s.repository
  recorded : ∀ id row, s.inbox.lookup id = some row →
    row.payload.Recorded h ∧ row.disposition = row.payload.disposition
  observed : ∀ id row, s.inbox.lookup id = some row → row.disposition = .shadowRecorded →
    Observed h fromisoformat steps id

theorem kept_empty : Kept h fromisoformat [] {} where
  sound := EventStore.sound_empty h
  unique := List.nodup_nil
  recorded _ _ stored := by cases stored
  observed _ _ stored := by cases stored

theorem Kept.append {before : List Step} (kept : Kept h fromisoformat before s)
    (after : List Step) : Kept h fromisoformat (before ++ after) s :=
  ⟨kept.sound, kept.unique, kept.recorded,
    fun id row stored shadow => (kept.observed id row stored shadow).append after⟩

theorem Prepared.call_envelope (p : Prepared) (config : FaultIngressConfig) :
    (p.call config).envelope = p.envelope := by
  unfold Prepared.call
  split <;> rfl

theorem Prepared.call_shadow (p : Prepared) (config : FaultIngressConfig) :
    (p.call config).shadow = true ↔ config.mode = .shadow := by
  unfold Prepared.call
  split
  · next shadow => simp [shadow]
  · next other => simp [other]

theorem kept_of_ingest {steps : List Step} {p : Prepared}
    (prepared : prepare h fromisoformat d.config d.receivedAt d.push = .ok p)
    (kept : Kept h fromisoformat steps s) :
    Kept h fromisoformat (steps ++ [.deliver d]) (s.ingest h (p.call d.config) d.now).2 := by
  have sound := EventStore.next_sound s (d.now, .ingest (p.call d.config)) kept.sound
  have unique := EventStore.next_unique (h := h) s (d.now, .ingest (p.call d.config)) kept.unique
  cases answer : (s.ingest h (p.call d.config) d.now).1 with
  | error error => rw [EventStore.ingest_error answer]; exact kept.append _
  | ok result =>
    obtain ⟨i, requested, ⟨_, _, _, same⟩ | fresh⟩ := EventStore.ingest_ok answer
    · rw [same]; exact kept.append _
    · obtain ⟨row, recorded, added⟩ := fresh.recorded
      obtain ⟨_, rfl⟩ := EventStore.inboxRow_ok.mp recorded
      have request := Cloud.EventStore.ingestRequest_ok requested
      refine ⟨sound, unique, fun id row stored => ?_, fun id row stored shadow => ?_⟩
      · rcases added.lookup.mp stored with new | old
        · cases List.mem_singleton.mp new
          exact ⟨fresh.outcome.recorded fresh.bound, rfl⟩
        · exact kept.recorded id row old
      · rcases added.lookup.mp stored with new | old
        · cases List.mem_singleton.mp new
          have outcome := fresh.outcome
          cases outcome with
          | shadow asked =>
            rw [request.shadow, p.call_shadow] at asked
            refine ⟨d, by simp, asked, p, prepared, ?_⟩
            rw [request.envelope, p.call_envelope]
          | correlated => cases shadow
          | created => cases shadow
        · exact (kept.observed id row old shadow).append _

theorem kept_step (legacyHandler : Option LegacyHandler) {steps : List Step} (step : Step) (kept : Kept h fromisoformat steps s) :
    Kept h fromisoformat (steps ++ [step]) (next h fromisoformat legacyHandler s step) := by
  cases step with
  | deliver d =>
    change Kept _ _ _ (process h fromisoformat legacyHandler s d).2
    rcases process_store h fromisoformat legacyHandler s d with same | ⟨p, prepared, ingested⟩
    · rw [same]; exact kept.append _
    · rw [ingested]; exact kept_of_ingest prepared kept
  | incident now call =>
    have later := kept.append [.incident now call]
    exact ⟨EventStore.next_sound s (now, .incident call) kept.sound,
      EventStore.next_unique s (now, .incident call) kept.unique, later.recorded, later.observed⟩
  | outbox now call =>
    have later := kept.append [.outbox now call]
    exact ⟨later.sound, later.unique, later.recorded, later.observed⟩

theorem kept_run (legacyHandler : Option LegacyHandler) {steps : List Step} (more : List Step)
    (kept : Kept h fromisoformat steps s) :
    Kept h fromisoformat (steps ++ more) (run h fromisoformat legacyHandler s more) := by
  induction more generalizing steps s with
  | nil => exact kept.append []
  | cons step rest ih =>
    have whole := ih (kept_step legacyHandler step kept)
    rwa [List.append_assoc, List.singleton_append] at whole

theorem next_later (s : EventStore) (step : Step) :
    EventStore.Later s (next h fromisoformat legacyHandler s step) := by
  cases step with
  | deliver d =>
    change EventStore.Later s (process h fromisoformat legacyHandler s d).2
    rcases process_store h fromisoformat legacyHandler s d with same | ⟨p, -, ingested⟩
    · rw [same]; exact .refl s
    · rw [ingested]; exact EventStore.next_later s (d.now, .ingest (p.call d.config))
  | incident now call => exact EventStore.next_later s (now, .incident call)
  | outbox now call => exact EventStore.next_later s (now, .outbox call)

theorem run_later (h : Host) (fromisoformat : String → Option Instant)
    (legacyHandler : Option LegacyHandler) (s : EventStore) (steps : List Step) :
    EventStore.Later s (run h fromisoformat legacyHandler s steps) :=
  Runs.run_relation _ (P := fun _ => True) (R := EventStore.Later) (fun _ _ _ => trivial) .refl
    (fun first second => first.trans second) (fun s step _ => next_later s step) trivial steps

/-! Associations. -/

def Associated (s : EventStore) (sourceEventId incidentId : String) : Prop :=
  (s.repository.sourceEvents.lookup (incidentId, sourceEventId)).isSome = true

instance (s : EventStore) (sourceEventId incidentId : String) :
    Decidable (Associated s sourceEventId incidentId) := inferInstanceAs (Decidable (_ = _))

/-- The source event is registered with exactly one incident, which the repository holds. -/
def HasOneIncident (s : EventStore) (sourceEventId : String) : Prop :=
  ∃ incidentId, (∀ k, Associated s sourceEventId k ↔ k = incidentId) ∧
    (s.repository.incidents.lookup incidentId).isSome = true

theorem Kept.owner_unique {steps : List Step} (kept : Kept h fromisoformat steps s)
    {id k k' : String} (first : Associated s id k) (second : Associated s id k') : k = k' := by
  obtain ⟨row, stored⟩ := Option.isSome_iff_exists.mp first
  obtain ⟨row', stored'⟩ := Option.isSome_iff_exists.mp second
  have key := (kept.sound.keyed.sources _ row stored).1
  have key' := (kept.sound.keyed.sources _ row' stored').1
  have same : row = row' := List.inj_on_of_nodup_map kept.unique
    (Table.mem_values.mpr ⟨_, stored⟩) (Table.mem_values.mpr ⟨_, stored'⟩)
    ((Prod.ext_iff.mp key).2.trans (Prod.ext_iff.mp key').2.symm)
  exact (Prod.ext_iff.mp key).1.symm.trans (same ▸ (Prod.ext_iff.mp key').1)

theorem Kept.hasOneIncident {steps : List Step} (kept : Kept h fromisoformat steps s)
    {id k : String} (associated : Associated s id k) : HasOneIncident s id := by
  refine ⟨k, fun k' => ⟨fun other => kept.owner_unique other associated, fun same => same ▸ associated⟩, ?_⟩
  obtain ⟨row, stored⟩ := Option.isSome_iff_exists.mp associated
  have owner := kept.sound.keyed.owners row (Table.mem_values.mpr ⟨_, stored⟩)
  have key : row.columns.incidentId = k :=
    (Prod.ext_iff.mp (kept.sound.keyed.sources _ row stored).1).1
  rwa [key] at owner

theorem lookup_of_replayAssociation {e : SourceEventEnvelope} {i : Option Incident}
    {a : SourceEventAssociation} {u : Unit}
    (replayed : s.replayAssociation h e i (some a) = .ok u) :
    Associated s e.sourceEventId.text a.incidentId.text := by
  obtain ⟨persisted, found, replayed⟩ := Checks.bind_ok.mp replayed
  obtain ⟨same, -⟩ := Checks.seq_ok.mp replayed
  cases Cloud.requireRuntime_ok.mp same
  have read := Cloud.fromIncidents_ok.mp found
  unfold EventStore.sourceAssociation at read
  split at read
  · cases read
  · next row stored => exact Option.isSome_iff_exists.mpr ⟨row, stored⟩

theorem associated_of_replay {i : Cloud.Ingestion} {row : InboxRow} {result answer : IngestResult}
    {actor idempotencyKey : String} (recorded : row.payload.Recorded h)
    (own : row.disposition = row.payload.disposition)
    (done : s.replayTx h i row = .ok (result, {})) (validated : result.validate h = .ok answer)
    (matching : ResultMatchesMode answer i.envelope .canonical actor idempotencyKey) :
    row.disposition = .shadowRecorded ∨ ∃ k, Associated s i.envelope.sourceEventId.text k := by
  simp only [EventStore.replayTx, recorded.accepted, Checks.bind_ok, Cloud.requireArgument_ok,
    Cloud.requireRuntime_ok, Except.ok.injEq, pure, Except.pure, Prod.mk.injEq] at done
  obtain ⟨_, _, _, rfl, _, _, _, _, _, association, _, _, _, replayed, rfl, -⟩ := done
  cases recorded.replay.symm.trans replayed
  cases recorded.replay.symm.trans validated
  have original := matching.2.2
  simp only [recorded.own] at original
  have bound : ∀ {disposition}, BoundTo { row.payload with disposition := .replayed } i.envelope
      disposition actor idempotencyKey → ∃ k, Associated s i.envelope.sourceEventId.text k := by
    rintro _ ⟨_, _, a, listed, _⟩
    simp only [Option.mem_def] at listed
    rw [listed] at association
    exact ⟨_, lookup_of_replayAssociation association⟩
  rw [own]
  cases disposition : row.payload.disposition with
  | shadowRecorded => exact .inl rfl
  | replayed => exact absurd disposition recorded.original
  | created => rw [disposition] at original; exact .inr (bound original)
  | correlated => rw [disposition] at original; exact .inr (bound original)

theorem associated_of_holds {e : SourceEventEnvelope} {result : IngestResult}
    (holds : EventStore.Holds h s e result)
    (fresh : result.disposition = .created ∨ result.disposition = .correlated) :
    ∃ k, Associated s e.sourceEventId.text k := by
  have backed : ∀ {candidate i a}, EventStore.Backed s e candidate i a →
      ∃ k, Associated s e.sourceEventId.text k := by
    intro _ _ a backed
    obtain ⟨row, stored, _⟩ := backed.association
    rw [backed.event] at stored
    exact ⟨_, Option.isSome_iff_exists.mpr ⟨row, stored⟩⟩
  cases holds with
  | shadow disposition => rw [disposition] at fresh; simp at fresh
  | correlated _ _ _ rows => exact backed rows
  | created _ _ _ _ rows _ _ => exact backed rows

theorem associated_of_accepts {steps : List Step} {p : Prepared} {result answer : IngestResult}
    (kept : Kept h fromisoformat steps s)
    (accepts : Accepts h fromisoformat s d s' p result answer) :
    (∃ row, s.inbox.lookup p.envelope.sourceEventId.text = some row ∧
        row.disposition = .shadowRecorded) ∨
      ∃ k, Associated s' p.envelope.sourceEventId.text k := by
  have answered : (s.ingest h (p.call d.config) d.now).1 = .ok result := by rw [accepts.ingested]
  obtain ⟨i, requested, cases⟩ := EventStore.ingest_ok answered
  have request := EventStore.ingestRequest_ok requested
  have named : i.envelope = p.envelope := request.envelope.trans (p.call_envelope d.config)
  rw [accepts.ingested] at cases
  rcases cases with ⟨row, known, done, same⟩ | fresh
  · obtain ⟨recorded, own⟩ := kept.recorded _ row known
    rw [named] at known
    have matching := accepts.matching
    rw [← named] at matching
    cases same
    rcases associated_of_replay recorded own done accepts.validated matching with shadow | found
    · exact .inl ⟨row, known, shadow⟩
    · exact .inr (named ▸ found)
  · have recorded := fresh.outcome.recorded fresh.bound
    cases recorded.accepted.symm.trans accepts.validated
    have holds := fresh.holds request kept.sound.keyed
    rw [p.call_envelope] at holds
    exact .inr (associated_of_holds holds (accepts.matching.2.1.resolve_left recorded.original))

/-- The trigger of an envelope, as `build_incident_trigger` fills it in. -/
structure TriggerOf (h : Host) (e : SourceEventEnvelope) (i : Incident) (t : IncidentTrigger) :
    Prop where
  incident : t.incident = i
  incidentId : t.incidentId = i.incidentId
  traceId : t.traceId = i.traceId
  idempotencyKey : t.idempotencyKey = derivedId h .idempotency [e.sourceEventId.text]
  sentAt : t.sentAt = e.receivedAt

/-- What `prepare` establishes. -/
structure Ready (h : Host) (config : FaultIngressConfig) (p : Prepared) : Prop where
  envelope : p.envelope.validate h = .ok ()
  incident : ∃ i, p.envelope.incident = some i ∧ i.traceId = p.envelope.traceId ∧
    i.sourceEventIds = [p.envelope.sourceEventId] ∧ TriggerOf h p.envelope i p.trigger
  trigger : Cloud.validateTrigger h p.trigger = .ok ()
  dataPart : config.mode ≠ .shadow → Cloud.toDataPart h p.trigger = .ok ()

theorem ready_of_prepare {config : FaultIngressConfig} {receivedAt : Instant}
    {push : ParsedPubSubPush} {p : Prepared}
    (prepared : prepare h fromisoformat config receivedAt push = .ok p) : Ready h config p := by
  obtain ⟨envelope, normalized, prepared⟩ := Checks.bind_ok.mp prepared
  obtain ⟨entry, -, -, valid, rfl⟩ := normalizeFaultEvent_ok.mp normalized
  obtain ⟨trigger, made, prepared⟩ := Checks.bind_ok.mp prepared
  obtain ⟨dataPart, same⟩ := Checks.seq_ok.mp prepared
  cases same
  simp only [buildIncidentTrigger, LogEntry.envelope, Checks.seq_ok, built_ok, pure, Except.pure,
    Except.ok.injEq] at made
  obtain ⟨accepted, rfl⟩ := made
  refine ⟨valid, ⟨_, rfl, rfl, rfl, ⟨rfl, rfl, rfl, rfl, rfl⟩⟩, accepted, fun other => ?_⟩
  rwa [if_neg other, built_ok] at dataPart

def callMetadata (h : Host) (p : Prepared) (config : FaultIngressConfig) : WriteMetadata where
  idempotencyKey := Cloud.effectiveKey h (p.call config)
  actor := (p.call config).actor
  reason := (p.call config).reason
  traceId := p.envelope.traceId.text

theorem call_of_shadow {p : Prepared} {config : FaultIngressConfig} (shadow : config.mode = .shadow) :
    p.call config = {
      envelope := p.envelope
      shadow := true
      actor := config.actor.text
      reason := "shadow source event observation" } := if_pos shadow

theorem call_of_canonical {p : Prepared} {config : FaultIngressConfig}
    (canonical : config.mode = .canonical) : p.call config = {
      envelope := p.envelope
      actor := config.actor.text
      reason := "canonical source event ingestion"
      idempotencyKey := some p.trigger.idempotencyKey.text
      outboxPayload := some ⟨p.trigger.toJson, some p.trigger⟩ } := if_neg (by simp [canonical])

theorem request_of_checks {call : Cloud.IngestCall} {template : Option IncidentTrigger}
    (valid : call.envelope.validate h = .ok ())
    (accepted : Cloud.requireWriteMetadata h
      ⟨Cloud.effectiveKey h call, call.actor, call.reason, call.envelope.traceId.text⟩ = .ok ())
    (present : call.shadow = true ∨ call.envelope.incident.isSome = true)
    (listed : call.shadow = true ∨
      ∀ i ∈ call.envelope.incident, call.envelope.sourceEventId ∈ i.sourceEventIds)
    (plain : call.shadow = true → call.outboxPayload.isNone = true)
    (parsed : Cloud.parseTemplate h call.envelope (Cloud.effectiveKey h call) call.outboxPayload =
      .ok template) : ∃ i, Cloud.ingestRequest h call = .ok i := by
  simp only [Cloud.ingestRequest, Checks.bind_ok, Cloud.fromIncidents_ok, Cloud.requireArgument_ok,
    pure, Except.pure, Except.ok.injEq]
  exact ⟨_, (), valid, (), accepted, (), present, (), listed, (), plain, template, parsed, rfl⟩

theorem request_of_shadow {p : Prepared} {config : FaultIngressConfig}
    (shadow : config.mode = .shadow) (ready : Ready h config p)
    (accepted : Cloud.requireWriteMetadata h (callMetadata h p config) = .ok ()) :
    ∃ i, Cloud.ingestRequest h (p.call config) = .ok i := by
  rw [callMetadata, call_of_shadow shadow] at accepted
  rw [call_of_shadow shadow]
  exact request_of_checks ready.envelope accepted (.inl rfl) (.inl rfl) (fun _ => rfl) rfl

theorem request_of_canonical {p : Prepared} {config : FaultIngressConfig}
    (canonical : config.mode = .canonical) (ready : Ready h config p)
    (accepted : Cloud.requireWriteMetadata h (callMetadata h p config) = .ok ()) :
    ∃ i, Cloud.ingestRequest h (p.call config) = .ok i := by
  obtain ⟨i, known, trace, sources, trigger⟩ := ready.incident
  have named : p.trigger.idempotencyKey.text ≠ "" := by
    have filled := p.trigger.idempotencyKey.nonempty
    intro empty
    simp [empty] at filled
  have key : Cloud.effectiveKey h (p.call config) = p.trigger.idempotencyKey.text := by
    rw [call_of_canonical canonical, Cloud.effectiveKey]
    split
    · next missing => cases missing
    · next missing => exact absurd (Option.some.inj missing) named
    · next given => exact (Option.some.inj given).symm
  have safe : Cloud.assertSafe h "outbox-payload" p.trigger.toJson = .ok () := by
    have dumped := ready.dataPart (by simp [canonical])
    unfold Cloud.toDataPart at dumped
    split at dumped
    · next n passed => exact Cloud.assertSafe_ok.mpr (assertRepositorySafe_ok.mp passed).1
    · cases dumped
  have bound : Cloud.validateTriggerTemplate p.trigger p.envelope i
      p.trigger.idempotencyKey.text = .ok () := by
    refine Cloud.requireArgument_ok.mpr ⟨?_, trigger.incidentId, ?_, rfl, trigger.sentAt, ?_⟩
    · rw [trigger.incident]
    · rw [trigger.traceId, trace]
    · rw [trigger.incident, sources]; exact List.mem_singleton_self _
  have parsed : Cloud.parseTemplate h p.envelope p.trigger.idempotencyKey.text
      (some ⟨p.trigger.toJson, some p.trigger⟩) = .ok (some p.trigger) := by
    simp only [Cloud.parseTemplate, known, Checks.seq_ok, Cloud.fromInput_ok]
    exact ⟨safe, ready.trigger, bound, rfl⟩
  rw [callMetadata] at accepted
  rw [← key] at parsed
  rw [call_of_canonical canonical] at accepted parsed ⊢
  refine request_of_checks ready.envelope accepted (.inr ?_) (.inr ?_) (by simp) parsed
  · simp [known]
  · intro i' same
    cases Option.some.inj (known.symm.trans same)
    simp [sources]

/-- A fault that a shadow delivery recorded is acknowledged, however late, when the same entry is
delivered in canonical mode; nothing is written. -/
theorem canonical_redelivery_acknowledged {steps : List Step} {d' : Delivery} {p p' : Prepared}
    {result : IngestResult} (kept : Kept h fromisoformat steps s)
    (prepared : prepare h fromisoformat d.config d.receivedAt d.push = .ok p)
    (ingested : s.ingest h (p.call d.config) d.now = (.ok result, s'))
    (new : result.disposition = .shadowRecorded) (between : List Step)
    (canonical : d'.config.mode = .canonical)
    (prepared' : prepare h fromisoformat d'.config d'.receivedAt d'.push = .ok p')
    (accepted : Cloud.requireWriteMetadata h (callMetadata h p' d'.config) = .ok ())
    (same : EventStore.SameEnvelope p.envelope p'.envelope) :
    ∃ decision, process h fromisoformat legacyHandler
        (run h fromisoformat legacyHandler s' between) d' =
          (.ok decision, run h fromisoformat legacyHandler s' between) ∧
      decision.httpStatus = 204 := by
  have answered : (s.ingest h (p.call d.config) d.now).1 = .ok result := by rw [ingested]
  obtain ⟨i, requested, ⟨_, _, replayed, _⟩ | fresh⟩ := EventStore.ingest_ok answered
  · rw [EventStore.replayTx_disposition replayed] at new
    cases new
  have request := EventStore.ingestRequest_ok requested
  rw [ingested] at fresh
  have past := run_later h fromisoformat legacyHandler s' between
  have inboxed := (fresh.inboxed request).later past
  have holds := (fresh.holds request kept.sound.keyed).later past
  rw [p.call_envelope] at inboxed holds
  have kept' := kept_of_ingest prepared kept
  rw [ingested] at kept'
  have sound := (kept_run legacyHandler between kept').sound
  obtain ⟨i', requested'⟩ := request_of_canonical canonical (ready_of_prepare prepared') accepted
  have request' := EventStore.ingestRequest_ok requested'
  have same' : EventStore.SameEnvelope p.envelope i'.envelope :=
    request'.envelope.trans (p'.call_envelope d'.config) ▸ same
  cases holds with
  | correlated other => rw [new] at other; cases other
  | created other => rw [new] at other; cases other
  | shadow _ incident association =>
    have replayable : EventStore.Replayable h (run h fromisoformat legacyHandler s' between)
        p.envelope result :=
      ⟨by simp [incident], by simp [association], by simp [new], by simp [new]⟩
    have done := (EventStore.replayTx_replayable sound inboxed
      (.shadow new incident association) same' request'.fingerprint inboxed.row).mpr replayable
    have answer : EventStore.ingest h _ _ d'.now = _ := EventStore.ingest_of_replayTx requested'
      (same'.sourceEventId ▸ inboxed.row) done
    have bound := inboxed.recorded.accepted
    rw [IngestResult.validate_own inboxed.recorded.own inboxed.recorded.original, new] at bound
    have outbox := (Cloud.requireModel_ok.mp bound.2.2).2.2
    have matching : ResultMatchesMode { result with disposition := .replayed } p'.envelope
        .canonical d'.config.actor.text p'.trigger.idempotencyKey.text := by
      have event := same.sourceEventId
      have trace : p'.envelope.traceId = p.envelope.traceId := by rw [same]
      refine ⟨⟨inboxed.event.trans event.symm, inboxed.trace.trans trace.symm⟩, .inl rfl, ?_⟩
      simp only [inboxed.recorded.own, new]
      exact ⟨incident, association, outbox⟩
    refine ⟨⟨204, acceptedCode .replayed, some { result with disposition := .replayed }⟩, ?_, rfl⟩
    simp only [process, canonical, ingestPush, prepared', answer, acknowledge,
      inboxed.recorded.replay, if_pos matching]

theorem run_deliver (s : EventStore) (d : Delivery) :
    run h fromisoformat legacyHandler s [.deliver d] =
      (process h fromisoformat legacyHandler s d).2 := rfl

theorem process_shadow {p : Prepared} {result : IngestResult} (shadow : d.config.mode = .shadow)
    (prepared : prepare h fromisoformat d.config d.receivedAt d.push = .ok p)
    (ingested : s.ingest h (p.call d.config) d.now = (.ok result, s')) :
    (process h fromisoformat legacyHandler s d).2 = s' := by
  simp only [process, shadow, ingestPush, prepared, ingested]

def shadowResult (e : SourceEventEnvelope) : IngestResult where
  disposition := .shadowRecorded
  originalDisposition := some .shadowRecorded
  sourceEventId := e.sourceEventId
  traceId := e.traceId

theorem shadowResult_validated (e : SourceEventEnvelope) : IngestResult.validate h {
    disposition := .shadowRecorded
    sourceEventId := e.sourceEventId
    traceId := e.traceId } = .ok (shadowResult e) := by
  refine (IngestResult.validate_fresh rfl (by simp)).mpr ⟨rfl, ⟨?_, ?_⟩, ?_, rfl⟩
  · simp
  · simp
  · simp

theorem shadow_ingested {p : Prepared} {config : FaultIngressConfig} {now : Instant}
    (shadow : config.mode = .shadow) (ready : Ready h config p)
    (accepted : Cloud.requireWriteMetadata h (callMetadata h p config) = .ok ())
    (absent : s.inbox.lookup p.envelope.sourceEventId.text = none)
    (safe : RepositorySafe h (shadowResult p.envelope).toJson) :
    ∃ inbox, s.ingest h (p.call config) now =
      (.ok (shadowResult p.envelope), { s with inbox := inbox }) := by
  obtain ⟨i, requested⟩ := request_of_shadow shadow ready accepted
  have request := EventStore.ingestRequest_ok requested
  have named : i.envelope = p.envelope := request.envelope.trans (p.call_envelope config)
  have asked : i.shadow = true := by rw [request.shadow, p.call_shadow, shadow]
  obtain ⟨row, recorded⟩ : ∃ row, Cloud.inboxRow h i (shadowResult p.envelope) = .ok row :=
    ⟨_, EventStore.inboxRow_ok.mpr ⟨safe, rfl⟩⟩
  have worked : s.ingestTx h i now = .ok (shadowResult p.envelope, { inbox := some row }) := by
    have missing : s.inbox.lookup i.envelope.sourceEventId.text = none := by rw [named]; exact absent
    simp only [EventStore.ingestTx, missing, EventStore.freshTx, asked, if_true,
      EventStore.shadowTx, named, shadowResult_validated, Checks.bind_ok]
    exact ⟨_, rfl, row, recorded, rfl⟩
  have free : p.envelope.sourceEventId.text ∉ s.inbox := AList.lookup_eq_none.mp absent
  have committed : s.commit p.envelope.sourceEventId.text { inbox := some row } =
      .ok { s with inbox := s.inbox.insert p.envelope.sourceEventId.text row } := by
    refine EventStore.commit_ok.mpr ⟨rfl, rfl, ?_⟩
    simp only [EventStore.insertInbox, Table.insertNew, if_neg free]
  refine ⟨s.inbox.insert p.envelope.sourceEventId.text row, ?_⟩
  simp only [EventStore.ingest, requested, worked, committed, named, Bind.bind, Except.bind, pure,
    Except.pure]

end

/-! A health event that is delivered in shadow mode, and again after the switch to canonical
mode. -/

theorem healthActor : SampleText "fault-ingress" := by decide

def healthConfig (mode : FaultPipelineMode) : FaultIngressConfig where
  mode := mode
  actor := Text.Bounded.ofText "fault-ingress" healthActor

def healthDelivery (mode : FaultPipelineMode) : Delivery where
  config := healthConfig mode
  push := healthPush "3" "upf" "nr-gnb"
  receivedAt := 1709210097000000
  now := 1709210097000001

def healthTrigger : IncidentTrigger where
  messageId := derivedId Host.ascii .message [plainNames.envelope.sourceEventId.text]
  workflowId := derivedId Host.ascii .workflow [plainNames.envelope.sourceEventId.text]
  incidentId := plainNames.entry.incidentId Host.ascii
  traceId := plainNames.entry.traceId Host.ascii
  idempotencyKey := derivedId Host.ascii .idempotency [plainNames.envelope.sourceEventId.text]
  sentAt := 1709210097000000
  incident := plainNames.entry.incident Host.ascii
  summaryZh := Cloud.createdSummary

def healthPrepared : Prepared := ⟨plainNames.envelope, healthTrigger⟩

theorem health_checks : Cloud.validateTrigger Host.ascii healthTrigger = .ok () ∧
    Cloud.toDataPart Host.ascii healthTrigger = .ok () ∧
    (∀ mode ∈ [.shadow, .canonical], Cloud.requireWriteMetadata Host.ascii
      (callMetadata Host.ascii healthPrepared (healthConfig mode)) = .ok ()) ∧
    RepositorySafe Host.ascii (shadowResult healthPrepared.envelope).toJson := by
  decide +kernel

theorem health_prepared (mode : FaultPipelineMode) :
    prepare Host.ascii healthTime (healthConfig mode) 1709210097000000
      (healthPush "3" "upf" "nr-gnb") = .ok healthPrepared := by
  obtain ⟨valid, dumped, -⟩ := health_checks
  refine Checks.bind_ok.mpr ⟨plainNames.envelope, plainNames.accepted, ?_⟩
  refine Checks.bind_ok.mpr ⟨healthTrigger, ?_, ?_⟩
  · exact Checks.seq_ok.mpr ⟨built_ok.mpr valid, rfl⟩
  · refine Checks.seq_ok.mpr ⟨built_ok.mpr ?_, rfl⟩
    split
    · rfl
    · exact dumped

theorem health_recorded : ∃ inbox,
    EventStore.ingest Host.ascii {} (healthPrepared.call (healthDelivery .shadow).config)
        (healthDelivery .shadow).now =
      (.ok (shadowResult healthPrepared.envelope), { inbox := inbox }) := by
  obtain ⟨-, -, accepted, safe⟩ := health_checks
  exact shadow_ingested rfl (ready_of_prepare (health_prepared .shadow))
    (accepted _ (by simp)) (AList.lookup_empty _) safe

theorem health_acknowledged : ∃ inbox decision,
    run Host.ascii healthTime none {} [.deliver (healthDelivery .shadow)] = { inbox := inbox } ∧
      process Host.ascii healthTime none { inbox := inbox } (healthDelivery .canonical) =
        (.ok decision, { inbox := inbox }) ∧ decision.httpStatus = 204 := by
  obtain ⟨inbox, ingested⟩ := health_recorded
  obtain ⟨-, -, accepted, -⟩ := health_checks
  have stored : (process Host.ascii healthTime none {} (healthDelivery .shadow)).2 =
      { inbox := inbox } := process_shadow rfl (health_prepared .shadow) ingested
  have same := EventStore.SameEnvelope.refl healthPrepared.envelope
  have redelivered : ∃ decision, process Host.ascii healthTime none
      (run Host.ascii healthTime none { inbox := inbox } []) (healthDelivery .canonical) =
        (.ok decision, run Host.ascii healthTime none { inbox := inbox } []) ∧
      decision.httpStatus = 204 :=
    canonical_redelivery_acknowledged (d := healthDelivery .shadow) kept_empty
      (health_prepared .shadow) ingested rfl [] rfl (health_prepared .canonical)
      (accepted _ (by simp)) same
  obtain ⟨decision, processed, status⟩ := redelivered
  exact ⟨inbox, decision, (run_deliver _ _).trans stored, processed, status⟩

end NetworkAgent.FaultIngress
