import Mathlib.Data.List.Chain
import NetworkAgent.Memory.Effects

/-! The audit trail and the versions of every stored incident, over every run. -/
namespace NetworkAgent.Memory

/-- Every incident is stored under its own identifier, and passed every check. -/
structure Keyed (h : Host) (m : Memory) : Prop where
  key : ∀ {k i}, m.incidents.lookup k = some i → i.incidentId.text = k
  valid : ∀ {k i}, m.incidents.lookup k = some i → i.Valid h
  safe : ∀ {k i}, m.incidents.lookup k = some i → RepositorySafe h i.toJson

theorem Keyed.allSafe {h : Host} {m : Memory} (keyed : m.Keyed h) : m.AllSafe h := by
  intro i stored
  obtain ⟨k, found⟩ := Table.mem_values.mp stored
  exact keyed.safe found

theorem Keyed.stored {h : Host} {m : Memory} (keyed : m.Keyed h) {i : Incident}
    (stored : i ∈ m.incidents.values) : m.incidents.lookup i.incidentId.text = some i := by
  obtain ⟨k, found⟩ := Table.mem_values.mp stored
  rw [keyed.key found]
  exact found

/-- One event of the trail follows another along an edge of the lifecycle. -/
def Follows (earlier later : IncidentAuditEvent) : Prop :=
  later.fromStatus = some earlier.toStatus ∧ earlier.toStatus.CanTransition later.toStatus

/-- The trail of an incident: from its creation to its current status and revision. -/
structure AuditTrail (events : List IncidentAuditEvent) (i : Incident) : Prop where
  revisions : events.map (·.revision) = List.range (i.revision + 1)
  follows : events.IsChain Follows
  opened : ∃ e ∈ events.head?, e.fromStatus = none
  last : ∃ e ∈ events.getLast?, e.toStatus = i.status ∧ e.revision = i.revision
  incidentId : ∀ e ∈ events, e.incidentId = i.incidentId

def Audited (m : Memory) : Prop :=
  ∀ k i, m.incidents.lookup k = some i →
    ∃ events, m.history.lookup k = some events ∧ AuditTrail events i

theorem auditTrail_opened {event : IncidentAuditEvent} {i : Incident} (records : EventOf event i none)
    (revision : i.revision = 0) : AuditTrail [event] i where
  revisions := by simp [records.revision, revision]
  follows := List.isChain_singleton _
  opened := ⟨event, rfl, records.fromStatus⟩
  last := ⟨event, rfl, records.toStatus, records.revision⟩
  incidentId := by simpa using records.incidentId

theorem auditTrail_advanced {h : Host} {events : List IncidentAuditEvent}
    {event : IncidentAuditEvent} {current successor : Incident} {target : IncidentStatus}
    {now : Instant} (trail : AuditTrail events current)
    (t : Transition h current target now successor)
    (records : EventOf event successor (some current.status)) :
    AuditTrail (events ++ [event]) successor where
  revisions := by
    rw [List.map_append, trail.revisions, t.revision, List.range_succ (n := current.revision + 1)]
    simp [records.revision, t.revision]
  follows := by
    refine List.isChain_append.mpr ⟨trail.follows, List.isChain_singleton _, ?_⟩
    intro e last e' head
    cases head
    obtain ⟨found, there, status, _⟩ := trail.last
    have same : e = found := Option.some.inj (last.symm.trans there)
    refine ⟨?_, ?_⟩
    · rw [records.fromStatus, same, status]
    · rw [same, status, records.toStatus, t.status]; exact t.edge
  opened := by
    obtain ⟨first, head, none⟩ := trail.opened
    exact ⟨first, by simp [List.head?_append, Option.mem_def.mp head], none⟩
  last := ⟨event, by simp, records.toStatus, records.revision⟩
  incidentId := by
    intro e member
    rcases List.mem_append.mp member with old | new
    · rw [trail.incidentId e old, t.identity.incidentId]
    · rw [List.mem_singleton.mp new, records.incidentId]

structure Evolved (i s : Incident) : Prop where
  identity : i.SameIdentity s
  history : i.HistoryExtends s
  updatedAt : i.updatedAt ≤ s.updatedAt
  revision : i.revision ≤ s.revision

theorem Evolved.refl (i : Incident) : Evolved i i :=
  ⟨.refl i, .refl i, le_refl _, le_refl _⟩

theorem Evolved.trans {a b c : Incident} (h : Evolved a b) (k : Evolved b c) : Evolved a c :=
  ⟨h.identity.trans k.identity, h.history.trans k.history, h.updatedAt.trans k.updatedAt,
    h.revision.trans k.revision⟩

theorem Evolved.of_transition {h : Host} {i s : Incident} {target : IncidentStatus} {now : Instant}
    (t : Transition h i target now s) : Evolved i s :=
  ⟨t.identity, t.history, t.updatedAt, by rw [t.revision]; exact Nat.le_succ _⟩

def Advances (h : Host) (i s : Incident) : Prop :=
  s = i ∨ ∃ target now, Transition h i target now s

theorem Effect.advances {h : Host} {m m' : Memory} {result : Except RepositoryError Incident}
    (keyed : m.Keyed h) (effect : Effect h m result m') {k : String} {i : Incident}
    (stored : m.incidents.lookup k = some i) :
    ∃ s, m'.incidents.lookup k = some s ∧ Advances h i s := by
  cases effect with
  | failed | replayed | correlated => exact ⟨i, stored, .inl rfl⟩
  | @opened new _ _ _ _ opening =>
    have other : k ≠ new.incidentId.text := by
      rintro rfl
      exact opening.fresh (mem_iff_lookup.mpr ⟨i, stored⟩)
    exact ⟨i, by simpa [writeIncident, AList.lookup_insert_ne other] using stored, .inl rfl⟩
  | @advanced key current successor _ _ _ _ _ found t =>
    have own : successor.incidentId.text = key := by
      rw [t.identity.incidentId, keyed.key found]
    by_cases same : k = key
    · subst same
      cases stored.symm.trans found
      exact ⟨successor, by simp [writeIncident, own], .inr ⟨_, _, t⟩⟩
    · rw [← own] at same
      exact ⟨i, by simpa [writeIncident, AList.lookup_insert_ne same] using stored, .inl rfl⟩

theorem Effect.stored {h : Host} {m m' : Memory} {result : Except RepositoryError Incident}
    (effect : Effect h m result m') {k : String} {s : Incident}
    (stored : m'.incidents.lookup k = some s) :
    m.incidents.lookup k = some s ∨ (k = s.incidentId.text ∧ s.Valid h ∧
      RepositorySafe h s.toJson) := by
  cases effect with
  | failed | replayed | correlated => exact .inl stored
  | opened opening =>
    rcases Table.lookup_insert_iff.mp stored with ⟨same, rfl⟩ | ⟨_, before⟩
    · exact .inr ⟨same, opening.valid, opening.safe⟩
    · exact .inl before
  | advanced _ t safe =>
    rcases Table.lookup_insert_iff.mp stored with ⟨same, rfl⟩ | ⟨_, before⟩
    · exact .inr ⟨same, t.valid, safe⟩
    · exact .inl before

theorem Effect.keyed {h : Host} {m m' : Memory} {result : Except RepositoryError Incident}
    (keyed : m.Keyed h) (effect : Effect h m result m') : m'.Keyed h where
  key stored := by
    rcases effect.stored stored with before | ⟨same, _⟩
    · exact keyed.key before
    · exact same.symm
  valid stored := by
    rcases effect.stored stored with before | ⟨_, valid, _⟩
    · exact keyed.valid before
    · exact valid
  safe stored := by
    rcases effect.stored stored with before | ⟨_, _, safe⟩
    · exact keyed.safe before
    · exact safe

theorem Effect.audited {h : Host} {m m' : Memory} {result : Except RepositoryError Incident}
    (keyed : m.Keyed h) (audited : m.Audited) (effect : Effect h m result m') : m'.Audited := by
  intro k s stored
  cases effect with
  | failed | replayed | correlated => exact audited k s stored
  | opened opening records =>
    rcases Table.lookup_insert_iff.mp stored with ⟨rfl, rfl⟩ | ⟨other, before⟩
    · exact ⟨_, by simp [writeIncident], auditTrail_opened records opening.revision⟩
    · obtain ⟨events, known, trail⟩ := audited _ _ before
      exact ⟨events, by simpa [writeIncident, AList.lookup_insert_ne other] using known, trail⟩
  | @advanced key current successor _ _ _ _ _ found t _ records =>
    have own : successor.incidentId.text = key := by
      rw [t.identity.incidentId, keyed.key found]
    rcases Table.lookup_insert_iff.mp stored with ⟨rfl, rfl⟩ | ⟨other, before⟩
    · obtain ⟨events, known, trail⟩ := audited _ _ found
      rw [← own] at known
      exact ⟨_, by simp [writeIncident, known], auditTrail_advanced trail t records⟩
    · obtain ⟨events, known, trail⟩ := audited _ _ before
      exact ⟨events, by simpa [writeIncident, AList.lookup_insert_ne other] using known, trail⟩

/-! Runs. -/

theorem keyed_empty (h : Host) : ({} : Memory).Keyed h where
  key stored := by simp at stored
  valid stored := by simp at stored
  safe stored := by simp at stored

theorem audited_empty : ({} : Memory).Audited := by
  intro k i stored
  simp at stored

theorem next_keyed {h : Host} (m : Memory) (call : Instant × Call) (keyed : m.Keyed h) :
    (m.next h call).Keyed h :=
  (step_effect keyed.allSafe call.1 call.2).keyed keyed

theorem run_keyed (h : Host) (calls : List (Instant × Call)) : (run h {} calls).Keyed h :=
  Runs.run_invariant _ (fun m call keyed => next_keyed m call keyed) (keyed_empty h) calls

theorem run_audited (h : Host) (calls : List (Instant × Call)) : (run h {} calls).Audited := by
  have both := Runs.run_invariant (next h) (P := fun m => m.Keyed h ∧ m.Audited)
    (fun m call inv => ⟨next_keyed m call inv.1,
      (step_effect inv.1.allSafe call.1 call.2).audited inv.1 inv.2⟩)
    ⟨keyed_empty h, audited_empty⟩ calls
  exact both.2

/-- Every incident of the earlier repository is in the later one, as a later version. -/
def Grows (m m' : Memory) : Prop :=
  ∀ k i, m.incidents.lookup k = some i → ∃ s, m'.incidents.lookup k = some s ∧ Evolved i s

theorem Advances.evolved {h : Host} {i s : Incident} (advances : Advances h i s) : Evolved i s := by
  rcases advances with rfl | ⟨_, _, t⟩
  · exact .refl s
  · exact .of_transition t

theorem run_grows {h : Host} {m : Memory} (keyed : m.Keyed h) (calls : List (Instant × Call)) :
    m.Grows (run h m calls) := by
  refine Runs.run_relation (next h) (P := fun m => m.Keyed h) (R := Grows) (fun m call => next_keyed m call)
    (fun m k i stored => ⟨i, stored, .refl i⟩) ?_ ?_ keyed calls
  · intro a b c first second k i stored
    obtain ⟨s, known, evolved⟩ := first k i stored
    obtain ⟨s', known', evolved'⟩ := second k s known
    exact ⟨s', known', evolved.trans evolved'⟩
  · intro m call keyed k i stored
    obtain ⟨s, known, advances⟩ := (step_effect keyed.allSafe call.1 call.2).advances keyed stored
    exact ⟨s, known, advances.evolved⟩

def Recorded (m : Memory) : Prop :=
  ∀ scope record, m.idempotency.lookup scope = some record →
    ∃ s, m.incidents.lookup record.result.incidentId.text = some s ∧ Evolved record.result s

theorem Effect.recorded {h : Host} {m m' : Memory} {result : Except RepositoryError Incident}
    (keyed : m.Keyed h) (recorded : m.Recorded) (effect : Effect h m result m') : m'.Recorded := by
  intro scope record known
  have older : ∀ old, m.idempotency.lookup scope = some old →
      ∃ s, m'.incidents.lookup old.result.incidentId.text = some s ∧ Evolved old.result s := by
    intro old before
    obtain ⟨s, stored, evolved⟩ := recorded scope old before
    obtain ⟨s', stored', advances⟩ := effect.advances keyed stored
    exact ⟨s', stored', evolved.trans advances.evolved⟩
  cases effect with
  | failed | replayed => exact older record known
  | correlated stored =>
    rcases Table.lookup_insert_iff.mp known with ⟨_, rfl⟩ | ⟨_, before⟩
    · exact ⟨_, keyed.stored stored, .refl _⟩
    · exact older record before
  | opened =>
    rcases Table.lookup_insert_iff.mp known with ⟨_, rfl⟩ | ⟨_, before⟩
    · exact ⟨_, by simp [writeIncident], .refl _⟩
    · exact older record before
  | advanced =>
    rcases Table.lookup_insert_iff.mp known with ⟨_, rfl⟩ | ⟨_, before⟩
    · exact ⟨_, by simp [writeIncident], .refl _⟩
    · exact older record before

theorem recorded_empty : ({} : Memory).Recorded := by
  intro scope record known
  simp at known

theorem commitTransition_answer {h : Host} {m : Memory} {r : Request} {current successor s : Incident}
    {now : Instant} (answer : (m.commitTransition h r current successor now).1 = .ok s) :
    s = successor ∧ (m.commitTransition h r current successor now).2.incidents.lookup
      s.incidentId.text = some s := by
  unfold commitTransition at answer ⊢
  split at answer
  · cases answer
  · split at answer
    · cases answer
    · cases answer
      exact ⟨rfl, by simp only [writeIncident, AList.lookup_insert]⟩

/-- A successful update is answered from the idempotency record, or raised the revision of a
stored incident by one. -/
def Updated (m m' : Memory) (s : Incident) : Prop :=
  (∃ scope record, m.idempotency.lookup scope = some record ∧ s = record.result ∧ m' = m) ∨
    ∃ key current, m.incidents.lookup key = some current ∧ s.revision = current.revision + 1 ∧
      m'.incidents.lookup s.incidentId.text = some s

theorem settle_updated {h : Host} {m : Memory}
    {decision : Except RepositoryError (Decision (Incident × Incident))} {now : Instant}
    (replayed : ∀ result, decision = .ok (.replayed result) →
      ∃ scope record, m.idempotency.lookup scope = some record ∧ result = record.result)
    (admitted : ∀ r work, decision = .ok (.proceed r work) →
      ∃ key, m.incidents.lookup key = some work.1 ∧ work.2.revision = work.1.revision + 1)
    {s : Incident} {commit : Request → Incident × Incident → Except RepositoryError Incident × Memory}
    (writes : ∀ r work, commit r work = m.commitTransition h r work.1 work.2 now)
    (answer : (m.settle decision commit).1 = .ok s) : Updated m (m.settle decision commit).2 s := by
  match decision, replayed, admitted with
  | .error e, _, _ => cases answer
  | .ok (.replayed result), replayed, _ =>
    cases answer
    obtain ⟨scope, record, stored, same⟩ := replayed s rfl
    exact .inl ⟨scope, record, stored, same, rfl⟩
  | .ok (.proceed r work), _, admitted =>
    simp only [settle, writes] at answer ⊢
    obtain ⟨rfl, known⟩ := commitTransition_answer answer
    obtain ⟨key, stored, raised⟩ := admitted r work rfl
    exact .inr ⟨key, work.1, stored, raised, known⟩

theorem save_updated {h : Host} {m : Memory} {i s : Incident} {expected : Int} {w : WriteMetadata}
    {now : Instant} (answer : (m.save h i expected w now).1 = .ok s) :
    Updated m (m.save h i expected w now).2 s := by
  refine settle_updated (fun _ decided => replayed_recorded decided) (fun r work decided => ?_)
    (fun _ _ => rfl) answer
  obtain ⟨_, _, admitted, _⟩ := decideSave_proceed decided
  exact ⟨_, admitted.stored, (transition_of_ok admitted.accepted).revision⟩

theorem transition_updated {h : Host} {m : Memory} {incidentId : String} {target : IncidentStatus}
    {expected : Int} {w : WriteMetadata} {u : Updates} {now : Instant} {s : Incident}
    (answer : (m.transition h incidentId target expected w u now).1 = .ok s) :
    Updated m (m.transition h incidentId target expected w u now).2 s := by
  refine settle_updated (fun _ decided => replayed_recorded decided)
    (fun r work decided => ?_) (fun _ _ => rfl) answer
  obtain ⟨_, _, admitted⟩ := decideTransition_proceed decided
  exact ⟨_, admitted.stored, (transition_of_ok admitted.accepted).revision⟩

/-- What holds of one run of the repository from the empty one. -/
structure RunInvariant (h : Host) (calls : List (Instant × Call)) : Prop where
  trail : ∀ k i, (run h {} calls).incidents.lookup k = some i →
    ∃ events, (run h {} calls).history.lookup k = some events ∧ AuditTrail events i
  /-- Every call leaves a stored incident as it is, or moves it by one transition. -/
  step : ∀ before call after, calls = before ++ call :: after → ∀ k i,
    (run h {} before).incidents.lookup k = some i →
    ∃ s, ((run h {} before).next h call).incidents.lookup k = some s ∧ Advances h i s
  update : ∀ before now call after s, calls = before ++ (now, call) :: after →
    ((run h {} before).step h now call).1 = .ok s →
    (∃ i expected w, call = .save i expected w) ∨
      (∃ incidentId target expected w u, call = .transition incidentId target expected w u) →
    Updated (run h {} before) ((run h {} before).next h (now, call)) s
  versions : ∀ before after, calls = before ++ after → (run h {} before).Grows (run h {} calls)

/-- The audit trail and the revisions of the in-memory repository, over every run. -/
theorem audit_and_revision_invariant (h : Host) (calls : List (Instant × Call)) :
    RunInvariant h calls where
  trail := run_audited h calls
  step before call _ _ k i stored := by
    have keyed := run_keyed h before
    exact (step_effect keyed.allSafe call.1 call.2).advances keyed stored
  update before now call _ s _ answer update := by
    rcases update with ⟨i, expected, w, rfl⟩ | ⟨incidentId, target, expected, w, u, rfl⟩
    · exact save_updated answer
    · exact transition_updated answer
  versions before after split := by
    have both : run h {} calls = run h (run h {} before) after := by
      rw [split]; exact Runs.run_append _ _ _ _
    rw [both]
    exact run_grows (run_keyed h before) after

end NetworkAgent.Memory
