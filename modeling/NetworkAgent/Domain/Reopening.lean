import NetworkAgent.Domain.Lifecycle

/-! The second round of a reopened incident: which new plans the histories of the first
round admit, and which evidence a second resolution rests on. -/
namespace NetworkAgent

/-! New plans. -/

/-- The mapping that completes an analysis with a new report and its actions. -/
def replan (i : Incident) (report : RcaReport) (actions : List RemediationAction) : Updates where
  rcaReports := .set ((i.rcaReports ++ [report]).map .model)
  recommendations := .set (actions.map .model)

/-- A report that the guard of RCA_COMPLETE accepts, newer than those on file, and its actions. -/
structure NewPlan (h : Host) (i : Incident) (report : RcaReport)
    (actions : List RemediationAction) : Prop where
  valid : report.validate h = .ok ()
  owner : report.incidentId = i.incidentId
  eligible : report.status.isEligible = true
  evidence : report.evidenceRefs ≠ []
  conclusion : report.HasConclusion
  newer : ∀ r ∈ i.rcaReports, r.version < report.version
  validActions : ∀ a ∈ actions, a.validate h = .ok ()
  distinct : (actions.map (·.actionId)).Nodup
  owned : PyEq.Same report.recommendations actions

def ApprovalDecision.Names (h : Host) (d : ApprovalDecision) (a : RemediationAction) : Prop :=
  d.subjectId = a.actionId ∧ d.actionHash = some (a.actionHash h) ∧
    resourceScopeIdentity h d.scope = resourceScopeIdentity h a.targetResources

/-- Every action an earlier approval names is among the given ones, unchanged. -/
def Incident.KeepsApproved (h : Host) (i : Incident) (actions : List RemediationAction) : Prop :=
  ∀ d ∈ i.approvals, d.approvalType = .networkAction → ∃ a ∈ actions, d.Names h a

theorem latestReport_append {i : Incident} {report : RcaReport}
    (newer : ∀ r ∈ i.rcaReports, r.version < report.version) :
    (i.rcaReports ++ [report]).argmax (·.version) = some report := by
  rw [List.argmax_concat]
  cases latest : i.rcaReports.argmax (·.version) with
  | none => rfl
  | some old =>
    have older := newer old (List.argmax_mem (Option.mem_def.mpr latest))
    simp only [if_pos older]

theorem findAction_iff {i : Incident} (distinct : (i.recommendations.map (·.actionId)).Nodup)
    {actionId : Identifier} {a : RemediationAction} :
    a ∈ i.findAction actionId ↔ a ∈ i.recommendations ∧ a.actionId = actionId := by
  constructor
  · intro found
    exact ⟨List.mem_of_find?_eq_some (Option.mem_def.mp found),
      by simpa using List.find?_some (Option.mem_def.mp found)⟩
  · rintro ⟨member, same⟩
    cases found : i.findAction actionId with
    | none => exact absurd same (by simpa using List.find?_eq_none.mp found a member)
    | some b =>
      have known := List.mem_of_find?_eq_some found
      have named : b.actionId = actionId := by simpa using List.find?_some found
      exact Option.mem_def.mpr (congrArg some
        (List.inj_on_of_nodup_map distinct known member (named.trans same.symm)))

theorem validateApproval_replanned {h : Host} {i s : Incident} {report : RcaReport}
    {d : ApprovalDecision} (before : i.validateApproval h d = .ok ())
    (identity : s.incidentId = i.incidentId) (reports : s.rcaReports = i.rcaReports ++ [report])
    (distinct : (s.recommendations.map (·.actionId)).Nodup) :
    s.validateApproval h d = .ok () ↔
      (d.approvalType = .networkAction → ∃ a ∈ s.recommendations, d.Names h a) := by
  obtain ⟨owner, bound⟩ := Checks.seq_ok.mp before
  rw [requireText_ok] at owner
  cases found : i.findReport d.reportId d.reportVersion with
  | none => rw [found] at bound; cases bound
  | some bindingReport =>
    rw [found] at bound
    simp only [Checks.seq_ok, requireText_ok] at bound
    have kept : s.findReport d.reportId d.reportVersion = some bindingReport := by
      have first : i.rcaReports.find? (fun r => r.reportId = d.reportId ∧
        r.version = d.reportVersion) = some bindingReport := found
      simp only [Incident.findReport, reports, List.find?_append, first, Option.some_or]
    unfold Incident.validateApproval
    simp only [kept, Checks.seq_ok, requireText_ok, identity, owner, true_and]
    constructor
    · rintro ⟨covered, _⟩ network
      obtain ⟨a, found, covers⟩ := covered network
      exact ⟨a, ((findAction_iff distinct).mp found).1, covers.2.2.2.2.2⟩
    · intro named
      refine ⟨fun network => ?_, bound.2⟩
      obtain ⟨a, member, names⟩ := named network
      obtain ⟨_, _, old⟩ := bound.1 network
      exact ⟨a, (findAction_iff distinct).mpr ⟨member, names.1.symm⟩, network, old.2.1, old.2.2.1,
        old.2.2.2.1, old.2.2.2.2.1, names⟩

theorem resolveAll_models {α : Type} (current after : List α) :
    (Change.set (after.map Element.model)).resolveAll Element.parse current = .ok after := by
  simp only [Change.resolveAll, Checks.mapM_ok, List.forall₂_map_left_iff, Element.parse]
  exact List.forall₂_same.mpr fun _ _ => rfl

theorem keepsHistory_models {α : Type} [PyEq α] [DecidableEq α] (before added : List α) :
    keepsHistory before ((before ++ added).map .model) = true := by
  induction before with
  | nil => rfl
  | cons a rest ih =>
    simp only [List.cons_append, List.map_cons, keepsHistory, Element.isSame, ih, Bool.and_true,
      decide_eq_true_eq]
    rfl

/-- The incident the mapping of a new plan makes, before it is validated. -/
def Incident.replanned (i : Incident) (report : RcaReport) (actions : List RemediationAction) :
    Incident :=
  { i with rcaReports := i.rcaReports ++ [report], recommendations := actions }

theorem merge_replan (i : Incident) (report : RcaReport) (actions : List RemediationAction) :
    (replan i report actions).merge i = .ok (i.replanned report actions) := by
  simp only [Updates.merge, replan, resolveAll_models]
  rfl

theorem valid_replanned {h : Host} {i : Incident} {report : RcaReport}
    {actions : List RemediationAction} {t : Instant} (valid : i.Valid h)
    (plan : NewPlan h i report actions) (time : i.updatedAt ≤ t) :
    ((i.replanned report actions).stamp .rcaComplete (i.revision + 1) t).Valid h ↔
      i.KeepsApproved h actions := by
  obtain ⟨sources, kpis, evidence, reports, _, approvals, runs, verifications, old⟩ :=
    Incident.valid_iff.mp valid
  have fresh : report.version ∉ i.rcaReports.map (·.version) := by
    intro member
    obtain ⟨r, known, same⟩ := List.mem_map.mp member
    exact absurd (plan.newer r known) (by omega)
  have checked : ∀ d ∈ i.approvals,
      (((i.replanned report actions).stamp .rcaComplete (i.revision + 1) t).validateApproval h d =
        .ok () ↔ (d.approvalType = .networkAction → ∃ a ∈ actions, d.Names h a)) :=
    fun d member => validateApproval_replanned (old.approvals d member) rfl rfl plan.distinct
  constructor
  · intro accepted d member
    have aggregate := (Incident.valid_iff.mp accepted).2.2.2.2.2.2.2.2
    exact (checked d member).mp (aggregate.approvals d member)
  · intro keeps
    refine Incident.valid_iff.mpr ⟨sources, kpis, evidence, ?_, plan.validActions, approvals, runs,
      verifications, ?_⟩
    · intro r member
      rcases List.mem_append.mp member with before | new
      · exact reports r before
      · rw [List.mem_singleton.mp new]; exact plan.valid
    · exact { old with
        updatedAt := le_trans old.updatedAt time
        reports := by
          have apart : ∀ r ∈ i.rcaReports, (r.reportId, r.version) ≠ (report.reportId, report.version) :=
            fun r known same => fresh (List.mem_map.mpr ⟨r, known, (Prod.mk.inj same).2⟩)
          simpa [Incident.stamp, Incident.replanned, List.nodup_append, old.reports] using apart
        reportVersions := by
          have apart : ∀ r ∈ i.rcaReports, r.version ≠ report.version :=
            fun r known same => fresh (List.mem_map.mpr ⟨r, known, same⟩)
          simpa [Incident.stamp, Incident.replanned, List.nodup_append, old.reportVersions] using apart
        actionIds := plan.distinct
        reportOwner := by
          intro r member
          rcases List.mem_append.mp member with before | new
          · exact old.reportOwner r before
          · rw [List.mem_singleton.mp new]; exact plan.owner
        approvals := fun d member => (checked d member).mpr (keeps d member)
        requests := old.requests }

/-- The second plan of an incident under analysis is accepted exactly when it keeps every
action that an approval on file names. -/
theorem replan_accepted_iff {h : Host} {start : Incident} {e : Entry} {earlier : List Entry}
    {report : RcaReport} {actions : List RemediationAction} {at' now : When} {t : Instant}
    (detected : start.status = .detected) (chain : Chain h start (e :: earlier))
    (status : e.incident.status = .investigating) (plan : NewPlan h e.incident report actions)
    (time : at'.transitionTime e.incident.updatedAt = .ok t) :
    (∃ s, transitionIncident h e.incident .rcaComplete e.incident.revision at' now
      (replan e.incident report actions) = .ok s) ↔ e.incident.KeepsApproved h actions := by
  obtain ⟨_, _, _, _, reached⟩ := chain.entered (by rw [status, detected]; decide)
  have replanned := valid_replanned reached.valid plan (transitionTime_le time)
  constructor
  · rintro ⟨s, accepted⟩
    obtain ⟨_, _, _, _, t', time', m, merged, rfl, valid, _⟩ := transitionIncident_ok.mp accepted
    cases (merge_replan _ _ _).symm.trans merged
    cases time.symm.trans time'
    exact replanned.mp valid
  · intro keeps
    refine ⟨_, transitionIncident_ok.mpr ⟨rfl, by rw [status]; decide, rfl, ?_, t, time, _,
      merge_replan _ _ _, rfl, replanned.mpr keeps, ?_⟩⟩
    · have history := keepsHistory_models e.incident.rcaReports [report]
      simp only [validateRequestedHistoryUpdate, replan, requireHistory, Checks.seq_ok,
        requireGuard_ok, history, status, IncidentStatus.freezesRecommendations, true_and]
      rfl
    · refine Checks.seq_ok.mpr ⟨validateAppendOnly_ok.mpr ⟨{
        Incident.HistoryExtends.refl e.incident with
        rcaReports := PyEq.extends_append _ _ }, ?_⟩, ?_⟩
      · rw [status]; rintro ⟨⟩
      · have latest : ((e.incident.replanned report actions).stamp .rcaComplete
            (e.incident.revision + 1) t).latestReport = some report :=
          latestReport_append plan.newer
        simp only [validateTarget, validateRcaComplete, latest, requireGuard_ok]
        exact ⟨plan.owner, plan.eligible, plan.evidence, plan.conclusion, plan.owned⟩

/-! A second round that follows a resolution. -/
namespace Sample

def reopened : Incident := resolved.stamp .reopened 8 8
def secondInvestigating : Incident := reopened.stamp .investigating 9 9
def secondRcaComplete : Incident := secondInvestigating.stamp .rcaComplete 10 10
def secondAwaitingApproval : Incident := secondRcaComplete.stamp .awaitingApproval 11 11
def secondRemediating : Incident := secondAwaitingApproval.stamp .remediating 12 12
def secondVerifying : Incident := secondRemediating.stamp .verifying 13 13
def secondResolved : Incident := secondVerifying.stamp .resolved 14 14

def newAction : RemediationAction :=
  { action with
    actionId := .ofText "action-2" (by decide)
    actionType := .ofText "RETUNE" (by decide) }

def newReport : RcaReport :=
  { report with
    reportId := .ofText "report-2" (by decide)
    version := 2
    recommendations := [newAction] }

def firstRound : List Entry := ⟨7, resolved⟩ :: ⟨6, verifying⟩ :: earlier

theorem reopened_chain : Chain host detected
    (⟨9, secondInvestigating⟩ :: ⟨8, reopened⟩ :: firstRound) := by
  obtain ⟨to_reopened, to_investigating⟩ : step resolved .reopened {} = .ok reopened ∧
      step reopened .investigating {} = .ok secondInvestigating := by decide +kernel
  refine .call (.call chain ?_ to_reopened) ?_ to_investigating <;> decide

def secondRound : List Entry :=
  [⟨13, secondVerifying⟩, ⟨12, secondRemediating⟩, ⟨11, secondAwaitingApproval⟩,
    ⟨10, secondRcaComplete⟩, ⟨9, secondInvestigating⟩]

theorem second_chain : Chain host detected
    (⟨14, secondResolved⟩ :: secondRound ++ ⟨8, reopened⟩ :: firstRound) := by
  obtain ⟨to_rcaComplete, to_awaitingApproval, to_remediating, to_verifying, to_resolved⟩ :
      step secondInvestigating .rcaComplete {} = .ok secondRcaComplete ∧
      step secondRcaComplete .awaitingApproval {} = .ok secondAwaitingApproval ∧
      step secondAwaitingApproval .remediating {} = .ok secondRemediating ∧
      step secondRemediating .verifying {} = .ok secondVerifying ∧
      step secondVerifying .resolved {} = .ok secondResolved := by decide +kernel
  refine .call (.call (.call (.call (.call reopened_chain ?_ to_rcaComplete) ?_
    to_awaitingApproval) ?_ to_remediating) ?_ to_verifying) ?_ to_resolved <;> decide

theorem newPlan : NewPlan host secondInvestigating newReport [newAction] where
  valid := by decide
  owner := rfl
  eligible := rfl
  evidence := by decide
  conclusion := by decide
  newer := by decide
  validActions := by decide
  distinct := by decide
  owned := rfl

theorem replan_refused : transitionIncident host secondInvestigating .rcaComplete 9 (.given 10)
    (.given 10) (replan secondInvestigating newReport [newAction]) =
      .error (.validation (.message "approval must exactly bind a recommended action")) := by
  decide

end Sample

theorem replan_accepted_iff_sample :
    (∃ s, transitionIncident Sample.host Sample.secondInvestigating .rcaComplete 9 (.given 10)
      (.given 10) (replan Sample.secondInvestigating Sample.newReport [Sample.newAction]) = .ok s) ↔
      Sample.secondInvestigating.KeepsApproved Sample.host [Sample.newAction] :=
  replan_accepted_iff (e := ⟨9, Sample.secondInvestigating⟩) (t := 10) rfl Sample.reopened_chain rfl
    Sample.newPlan (by decide)

/-- An approval of the first round blocks a plan of other actions. -/
theorem replan_blocked_by_approvals : ¬ ∀ (h : Host) (start : Incident) (e : Entry)
    (earlier : List Entry) (report : RcaReport) (actions : List RemediationAction) (t : Instant),
      start.Valid h → start.status = .detected → start.revision = 0 →
      Chain h start (e :: earlier) → e.incident.status = .investigating →
      (∃ o ∈ earlier, o.incident.status = .reopened) → NewPlan h e.incident report actions →
      e.incident.updatedAt ≤ t → ∃ s, transitionIncident h e.incident .rcaComplete
        e.incident.revision (.given t) (.given t) (replan e.incident report actions) = .ok s := by
  intro claimed
  obtain ⟨s, accepted⟩ := claimed Sample.host Sample.detected ⟨9, Sample.secondInvestigating⟩
    (⟨8, Sample.reopened⟩ :: Sample.firstRound) Sample.newReport [Sample.newAction] 10
    Sample.detected_valid rfl rfl Sample.reopened_chain rfl ⟨_, List.mem_cons_self, rfl⟩
    Sample.newPlan (by decide)
  cases Sample.replan_refused.symm.trans accepted

/-! Resolutions after a reopening. -/

theorem Chain.extends {h : Host} {start : Incident} {e : Entry} {earlier : List Entry}
    (chain : Chain h start (e :: earlier)) :
    ∀ o ∈ earlier, o.incident.HistoryExtends e.incident := by
  generalize whole : e :: earlier = trace at chain
  induction chain generalizing e earlier with
  | start now =>
    cases whole
    intro o member
    cases member
  | call chain _ accepted ih =>
    cases whole
    intro o member
    have last := (transition_of_ok accepted).history
    rcases List.mem_cons.mp member with rfl | older
    · exact last
    · exact (ih rfl o older).trans last

structure SecondResolution (h : Host) (o r : Incident) : Prop where
  executed : r.Executed h
  verified : r.Verified
  evidence : o.verificationRuns.length < r.verificationRuns.length ∨
    PyEq.Same r.verificationRuns o.verificationRuns ∧ o.verificationRuns.getLast?.isSome ∧
      r.latestRunIds ⊆ o.actionRuns.map (·.actionRunId)

theorem latestRunIds_subset {h : Host} {o r : Incident} (valid : o.Valid h) (verified : r.Verified)
    (same : PyEq.Same r.verificationRuns o.verificationRuns) :
    o.verificationRuns.getLast?.isSome ∧ r.latestRunIds ⊆ o.actionRuns.map (·.actionRunId) := by
  obtain ⟨v, last, _, covers⟩ := verified
  have ends : r.verificationRuns.getLast?.map PyEq.norm = o.verificationRuns.getLast?.map PyEq.norm := by
    rw [← List.getLast?_map, ← List.getLast?_map]
    exact congrArg _ same
  rw [Option.mem_def.mp last] at ends
  cases kept : o.verificationRuns.getLast? with
  | none => rw [kept] at ends; cases ends
  | some w =>
    rw [kept] at ends
    have equal : PyEq.Same v w := Option.some.inj ends
    have ids : v.actionRunIds = w.actionRunIds := equal.congr _ fun _ => rfl
    have aggregate := (Incident.valid_iff.mp valid).2.2.2.2.2.2.2.2
    refine ⟨rfl, fun id covered => ?_⟩
    have listed := (covers id).mpr covered
    rw [ids] at listed
    exact aggregate.verifiedRuns w (List.mem_of_getLast? kept) listed

/-- At every entry into RESOLVED after a reopening, either a verification was appended since,
or the one on file at the reopening covers exactly the latest runs and no recommended action
has a later run. -/
theorem resolution_after_reopening {h : Host} {start : Incident} {trace : List Entry}
    (detected : start.status = .detected) (chain : Chain h start trace) :
    ∀ later r between o older, trace = later ++ r :: (between ++ o :: older) →
      o.incident.status = .reopened → r.incident.status = .resolved →
      SecondResolution h o.incident r.incident := by
  intro later r between o older split reopened resolved
  have chain := chain.suffix later r (between ++ o :: older) split
  obtain ⟨v, rest, _, _, _, t⟩ := chain.before_resolved detected resolved
  have before : Chain h start (o :: older) := chain.suffix (r :: between) o older rfl
  obtain ⟨_, _, _, _, entered⟩ := before.entered (by rw [reopened, detected]; decide)
  obtain ⟨executed, verified⟩ := t.verified
  refine ⟨executed, verified, ?_⟩
  have history := chain.extends o (by simp)
  rcases Nat.lt_or_ge o.incident.verificationRuns.length r.incident.verificationRuns.length with
    appended | none
  · exact .inl appended
  · have same := history.verificationRuns.same (le_antisymm none history.verificationRuns.length)
    exact .inr ⟨same, latestRunIds_subset entered.valid verified same⟩

theorem resolution_after_reopening_sample :
    SecondResolution Sample.host Sample.reopened Sample.secondResolved :=
  resolution_after_reopening rfl Sample.second_chain [] ⟨14, Sample.secondResolved⟩
    Sample.secondRound ⟨8, Sample.reopened⟩ Sample.firstRound rfl rfl rfl

/-- The evidence of the first resolution can carry the second one as well. -/
theorem resolved_again_on_old_verification : ¬ ∀ (h : Host) (start : Incident)
    (r o r' : Entry) (between older : List Entry), start.Valid h → start.status = .detected →
      start.revision = 0 → Chain h start (r :: (between ++ o :: older)) →
      r.incident.status = .resolved → o.incident.status = .reopened → r' ∈ older →
      r'.incident.status = .resolved →
      o.incident.verificationRuns.length < r.incident.verificationRuns.length := by
  intro claimed
  have fresh := claimed Sample.host Sample.detected ⟨14, Sample.secondResolved⟩ ⟨8, Sample.reopened⟩
    ⟨7, Sample.resolved⟩ Sample.secondRound Sample.firstRound Sample.detected_valid rfl rfl
    Sample.second_chain rfl rfl List.mem_cons_self rfl
  exact absurd fresh (by decide)

end NetworkAgent
