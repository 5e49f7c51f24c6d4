import NetworkAgent.Memory.Saving

/-! One incident that is alone in the repository: what its creation and its transitions leave. -/
namespace NetworkAgent.Memory
open Checks (require)

theorem run_cons (h : Host) (m : Memory) (call : Instant × Call) (calls : List (Instant × Call)) :
    run h m (call :: calls) = run h (next h m call) calls := rfl

/-- The incident is stored, only these scopes are in use, and no source event is owned. -/
structure Holds (m : Memory) (i : Incident) (scopes : List Scope) : Prop where
  stored : m.incidents.lookup i.incidentId.text = some i
  unused : ∀ s, s ∉ scopes → m.idempotency.lookup s = none
  unowned : m.sourceEvents = ∅

theorem auditEvent_built {h : Host} {w : WriteMetadata} (attributed : w.attribution.isSome = true)
    (i : Incident) (fromStatus : Option IncidentStatus) (fp : Sha256.Digest) (t : Instant) :
    ∃ e, auditEvent h i fromStatus w fp t = .ok e := by
  obtain ⟨a, parsed⟩ := Option.isSome_iff_exists.mp attributed
  obtain ⟨id, name⟩ := eventId_parses
    (h.sha256 (utf8 i.incidentId.text ++ 0 :: utf8 w.idempotencyKey ++ 0 :: utf8 fp.text))
  unfold auditEvent
  simp only [parsed, name]
  exact ⟨_, rfl⟩

theorem registerSourceEvents_none {h : Host} {m : Memory} (unowned : m.sourceEvents = ∅)
    (incidentId : Identifier) (t : Instant) (w : WriteMetadata) :
    m.registerSourceEvents h incidentId [] t w = (.ok (), m) := by
  have registrable : m.requireRegistrable incidentId [] = .ok () := by
    unfold requireRegistrable associatedSourceIds
    rw [unowned]
    rfl
  unfold registerSourceEvents
  rw [registrable]
  rfl

theorem writeIncident_holds {m : Memory} {scopes : List Scope} {r : Request}
    (unused : ∀ s, s ∉ scopes → m.idempotency.lookup s = none) (unowned : m.sourceEvents = ∅)
    (i : Incident) (events : List IncidentAuditEvent) :
    (m.writeIncident r i events).Holds i (r.scope :: scopes) where
  stored := by simp [writeIncident]
  unused s outside := by
    obtain ⟨other, older⟩ := not_or.mp (List.mem_cons.not.mp outside)
    simpa [writeIncident, AList.lookup_insert_ne other] using unused s older
  unowned := unowned

section
variable {h : Host} {m : Memory} {i s : Incident} {scopes : List Scope} {scope : Scope}
  {w : WriteMetadata} {now : Instant}

theorem create_holds (requested : (createRequest h "create" i w).map (·.scope) = .ok scope)
    (valid : validateNewIncident h i w.traceId now = .ok s) (attributed : w.attribution.isSome = true)
    (unsourced : s.sourceEventIds = []) : (({} : Memory).create h i w now).2.Holds s [scope] := by
  obtain ⟨r, request, rfl⟩ := Checks.map_ok.mp requested
  have metadata : r.metadata = w := by
    obtain ⟨_, _, request⟩ := Checks.bind_ok.mp request
    obtain ⟨_, _, request⟩ := Checks.bind_ok.mp request
    obtain ⟨_, _, request⟩ := Checks.bind_ok.mp request
    cases request
    rfl
  have decided : ({} : Memory).decideCreate h i w now = .ok (.proceed r s) := by
    refine Checks.bind_ok.mpr ⟨r, request, unlessReplayed_ok.mpr (.inr ⟨rfl, s, ?_, rfl⟩)⟩
    refine Checks.seq_ok.mpr ⟨rfl, Checks.bind_ok.mpr ⟨s, valid, rfl⟩⟩
  obtain ⟨event, built⟩ := auditEvent_built (h := h) attributed s none r.fingerprint now
  have registered := registerSourceEvents_none (h := h) (m := {}) rfl s.incidentId now w
  rw [create, decided, settle]
  unfold commitCreate
  rw [metadata, built, unsourced]
  dsimp only
  rw [registered]
  exact writeIncident_holds (fun _ _ => rfl) rfl s _

theorem Holds.transition (holds : m.Holds i scopes) {target : IncidentStatus} {u : Updates}
    (requested : (transitionRequest h i.incidentId.text target i.revision w u).map (·.scope) =
      .ok scope)
    (unused : scope ∉ scopes) (trace : i.traceId.text = w.traceId)
    (accepted : transitionIncident h i target i.revision (.given now) (.given now) u = .ok s)
    (safe : RepositorySafe h s.toJson) (active : i.status.isActive = true)
    (unsourced : s.sourceEventIds = []) (attributed : w.attribution.isSome = true) :
    (m.transition h i.incidentId.text target i.revision w u now).2.Holds s (scope :: scopes) := by
  obtain ⟨r, request, rfl⟩ := Checks.map_ok.mp requested
  have metadata : r.metadata = w := by
    obtain ⟨_, _, request⟩ := Checks.bind_ok.mp request
    obtain ⟨_, _, request⟩ := Checks.bind_ok.mp request
    obtain ⟨_, _, request⟩ := Checks.bind_ok.mp request
    obtain ⟨_, _, request⟩ := Checks.bind_ok.mp request
    cases request
    rfl
  have decided : m.decideTransition h i.incidentId.text target i.revision w u now =
      .ok (.proceed r (i, s)) := by
    refine Checks.bind_ok.mpr ⟨r, request,
      unlessReplayed_ok.mpr (.inr ⟨holds.unused _ unused, (i, s), ?_, rfl⟩)⟩
    simp only [requireCurrent, holds.stored, requireTrace, requireReactivationKeys, Checks.bind_ok,
      Checks.require_ok, requireValue_ok, liftTransition_ok, assertSafe_ok,
      assertRepositorySafe_ok, pure, Except.pure, Except.ok.injEq]
    exact ⟨i, rfl, (), rfl, (), trace, s, accepted, _, ⟨safe, rfl⟩, (), if_pos (.inl active), rfl⟩
  obtain ⟨event, built⟩ := auditEvent_built (h := h) attributed s (some i.status) r.fingerprint now
  have registered := registerSourceEvents_none (h := h) holds.unowned s.incidentId now w
  rw [Memory.transition, decided, settle]
  unfold commitTransition
  rw [metadata, built, unsourced]
  dsimp only
  rw [registered]
  exact writeIncident_holds holds.unused holds.unowned s _

end

end NetworkAgent.Memory
