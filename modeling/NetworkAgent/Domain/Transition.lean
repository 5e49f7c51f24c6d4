import NetworkAgent.Domain.StateMachine

/-! What a successful transition does: the one fact from which every invariant of the
lifecycle is derived. -/
namespace NetworkAgent

/-- The fields the state machine protects, without the status, the revision and the time. -/
structure Incident.SameIdentity (i s : Incident) : Prop where
  incidentId : s.incidentId = i.incidentId
  correlationKey : s.correlationKey = i.correlationKey
  technology : s.technology = i.technology
  createdAt : s.createdAt = i.createdAt
  detectedAt : s.detectedAt = i.detectedAt
  traceId : s.traceId = i.traceId

namespace Incident.SameIdentity

theorem refl (i : Incident) : i.SameIdentity i := ⟨rfl, rfl, rfl, rfl, rfl, rfl⟩

theorem trans {a b c : Incident} (h : a.SameIdentity b) (k : b.SameIdentity c) :
    a.SameIdentity c where
  incidentId := k.incidentId.trans h.incidentId
  correlationKey := k.correlationKey.trans h.correlationKey
  technology := k.technology.trans h.technology
  createdAt := k.createdAt.trans h.createdAt
  detectedAt := k.detectedAt.trans h.detectedAt
  traceId := k.traceId.trans h.traceId

end Incident.SameIdentity

/-- Every append-only list of the later version begins with the list of the earlier one. -/
structure Incident.HistoryExtends (i s : Incident) : Prop where
  approvals : PyEq.Extends i.approvals s.approvals
  rcaReports : PyEq.Extends i.rcaReports s.rcaReports
  actionRuns : PyEq.Extends i.actionRuns s.actionRuns
  verificationRuns : PyEq.Extends i.verificationRuns s.verificationRuns
  evidenceRefs : PyEq.Extends i.evidenceRefs s.evidenceRefs
  sourceEventIds : PyEq.Extends i.sourceEventIds s.sourceEventIds

namespace Incident.HistoryExtends

theorem refl (i : Incident) : i.HistoryExtends i :=
  ⟨PyEq.extends_refl _, PyEq.extends_refl _, PyEq.extends_refl _, PyEq.extends_refl _,
    PyEq.extends_refl _, PyEq.extends_refl _⟩

theorem trans {a b c : Incident} (h : a.HistoryExtends b) (k : b.HistoryExtends c) :
    a.HistoryExtends c where
  approvals := PyEq.extends_trans h.approvals k.approvals
  rcaReports := PyEq.extends_trans h.rcaReports k.rcaReports
  actionRuns := PyEq.extends_trans h.actionRuns k.actionRuns
  verificationRuns := PyEq.extends_trans h.verificationRuns k.verificationRuns
  evidenceRefs := PyEq.extends_trans h.evidenceRefs k.evidenceRefs
  sourceEventIds := PyEq.extends_trans h.sourceEventIds k.sourceEventIds

end Incident.HistoryExtends

structure Transition (h : Host) (i : Incident) (target : IncidentStatus) (now : Instant)
    (s : Incident) : Prop where
  edge : i.status.CanTransition target
  status : s.status = target
  revision : s.revision = i.revision + 1
  updatedAt : i.updatedAt ≤ s.updatedAt
  identity : i.SameIdentity s
  valid : s.Valid h
  history : i.HistoryExtends s
  frozen : i.status.freezesRecommendations = true →
    PyEq.Same s.recommendations i.recommendations
  target : validateTarget h s target now = .ok ()

theorem merge_identity {u : Updates} {i m : Incident} (h : u.merge i = .ok m) :
    i.SameIdentity m := by
  revert h
  unfold Updates.merge
  iterate 21 refine Checks.of_bind fun _ => ?_
  intro h
  cases h
  exact ⟨rfl, rfl, rfl, rfl, rfl, rfl⟩

theorem merge_sourceEventIds {u : Updates} {i m : Incident} (h : u.merge i = .ok m) :
    u.sourceEventIds.resolveAll Identifier.parse i.sourceEventIds = .ok m.sourceEventIds := by
  obtain ⟨_, _, h⟩ := Checks.bind_ok.mp h
  obtain ⟨ids, resolved, h⟩ := Checks.bind_ok.mp h
  have kept : m.sourceEventIds = ids := by
    revert h
    iterate 19 refine Checks.of_bind (P := fun m : Incident => m.sourceEventIds = ids) fun _ => ?_
    intro h
    cases h
    rfl
  rw [resolved, kept]

theorem validateAppendOnly_ok {i s : Incident} {u : Unit} :
    validateAppendOnly i s = .ok u ↔ i.HistoryExtends s ∧
      (i.status.freezesRecommendations = true →
        PyEq.Same s.recommendations i.recommendations) := by
  simp only [validateAppendOnly, Checks.seq_ok, requireGuard_ok]
  constructor
  · rintro ⟨approvals, reports, actions, verifications, evidence, sources, frozen⟩
    exact ⟨⟨approvals, reports, actions, verifications, evidence, sources⟩, frozen⟩
  · rintro ⟨history, frozen⟩
    exact ⟨history.approvals, history.rcaReports, history.actionRuns, history.verificationRuns,
      history.evidenceRefs, history.sourceEventIds, frozen⟩

theorem liftModel_ok {α : Type} {x : Except ModelError α} {a : α} :
    liftModel x = .ok a ↔ x = .ok a := by
  cases x <;> simp [liftModel]

theorem transitionTime_le {w : When} {updatedAt t : Instant}
    (h : w.transitionTime updatedAt = .ok t) : updatedAt ≤ t := by
  cases w with
  | reading r =>
    cases h
    exact le_max_right r updatedAt
  | given r =>
    obtain ⟨_, ordered, same⟩ := Checks.bind_ok.mp h
    cases same
    exact Checks.require_ok.mp ordered

theorem transitionIncident_ok {h : Host} {i s : Incident} {target : IncidentStatus}
    {expected : Int} {at' now : When} {u : Updates} :
    transitionIncident h i target expected at' now u = .ok s ↔
      expected = i.revision ∧ i.status.CanTransition target ∧
      u.others.filter (fun key => protectedUpdateFields.contains key) = [] ∧
      validateRequestedHistoryUpdate i target u = .ok () ∧
      ∃ t, at'.transitionTime i.updatedAt = .ok t ∧
      ∃ m, u.merge i = .ok m ∧ s = m.stamp target (i.revision + 1) t ∧ s.Valid h ∧
      validateTransitionGuard h i s target now.trustedNow = .ok () := by
  simp only [transitionIncident, Checks.bind_ok, Checks.require_ok, liftModel_ok, pure,
    Except.pure, Except.ok.injEq, exists_and_left, exists_const]
  constructor
  · rintro ⟨expected, edge, keys, _, requested, t, time, m, merged, _, valid, _, guards, rfl⟩
    exact ⟨expected, edge, keys, requested, t, time, m, merged, rfl, valid, guards⟩
  · rintro ⟨expected, edge, keys, requested, t, time, m, merged, rfl, valid, guards⟩
    exact ⟨expected, edge, keys, (), requested, t, time, m, merged, (), valid, (), guards, rfl⟩

theorem transition_of_ok {h : Host} {i s : Incident} {target : IncidentStatus} {expected : Int}
    {at' now : When} {u : Updates}
    (accepted : transitionIncident h i target expected at' now u = .ok s) :
    Transition h i target now.trustedNow s := by
  obtain ⟨_, edge, _, _, t, time, m, merged, rfl, valid, guards⟩ :=
    transitionIncident_ok.mp accepted
  have identity := merge_identity merged
  obtain ⟨_, kept, reached⟩ := Checks.bind_ok.mp guards
  obtain ⟨history, frozen⟩ := validateAppendOnly_ok.mp kept
  exact {
    edge := edge
    status := rfl
    revision := rfl
    updatedAt := transitionTime_le time
    identity := ⟨identity.incidentId, identity.correlationKey, identity.technology,
      identity.createdAt, identity.detectedAt, identity.traceId⟩
    valid := valid
    history := history
    frozen := frozen
    target := reached }

end NetworkAgent
