import NetworkAgent.Domain.Transition

/-! Authorization safety of the lifecycle: what stands behind every incident that is
being verified, resolved or closed, on every chain of transitions. -/
namespace NetworkAgent

namespace IncidentStatus

theorem eq_of_canTransition_verifying {s : IncidentStatus} (edge : s.CanTransition .verifying) :
    s = .remediating := by
  cases s <;> first | rfl | exact absurd edge (by decide)

theorem eq_of_canTransition_resolved {s : IncidentStatus} (edge : s.CanTransition .resolved) :
    s = .verifying := by
  cases s <;> first | rfl | exact absurd edge (by decide)

theorem eq_of_canTransition_closed {s : IncidentStatus} (edge : s.CanTransition .closed) :
    s = .resolved := by
  cases s <;> first | rfl | exact absurd edge (by decide)

end IncidentStatus

/-! What each guard establishes. -/

def Incident.IsLatestReport (i : Incident) (report : RcaReport) : Prop :=
  report ∈ i.rcaReports ∧ ∀ other ∈ i.rcaReports, other.version ≤ report.version

def Incident.IsLatestEvent (i : Incident) (d : ApprovalDecision) : Prop :=
  d ∈ i.approvals ∧ ∀ other ∈ i.approvals, other.requestId = d.requestId →
    other.sequence ≤ d.sequence

def Incident.IsLatestRun (i : Incident) (action : RemediationAction) (run : ActionRun) : Prop :=
  run ∈ i.actionRuns ∧ run.actionId = action.actionId ∧
    ∀ other ∈ i.actionRuns, other.actionId = action.actionId → other.attempt ≤ run.attempt

theorem isLatestReport_of_mem {i : Incident} {report : RcaReport}
    (h : report ∈ i.latestReport) : i.IsLatestReport report :=
  ⟨List.argmax_mem h, fun _ member => List.le_of_mem_argmax member h⟩

theorem isLatestEvent_of_mem {i : Incident} {d : ApprovalDecision}
    (h : d ∈ i.latestApprovalEvents) : i.IsLatestEvent d := by
  obtain ⟨requestId, _, latest⟩ := List.mem_filterMap.mp h
  have member := List.argmax_mem (Option.mem_def.mpr latest)
  simp only [Incident.requestEvents, List.mem_filter, decide_eq_true_eq] at member
  refine ⟨member.1, fun other known same => ?_⟩
  apply List.le_of_mem_argmax (m := d) _ (Option.mem_def.mpr latest)
  simp [Incident.requestEvents, known, same, member.2]

theorem isLatestRun_of_mem {i : Incident} {action : RemediationAction} {run : ActionRun}
    (h : run ∈ i.latestRun action) : i.IsLatestRun action run := by
  have member := List.argmax_mem h
  simp only [List.mem_filter, decide_eq_true_eq] at member
  refine ⟨member.1, member.2, fun other known same => ?_⟩
  apply List.le_of_mem_argmax _ h
  simp [known, same]

/-- The approvals behind an entry into REMEDIATING at the trusted instant `now`. -/
def Incident.Authorized (h : Host) (i : Incident) (now : Instant) : Prop :=
  ∃ report, i.IsLatestReport report ∧ ∀ action ∈ i.recommendations, ∃ d, i.IsLatestEvent d ∧
    d.status = .approved ∧ d.CoversAction h action i.incidentId report ∧
    ∃ t ∈ d.decidedAt, ∃ e ∈ d.expiresAt, t ≤ now ∧ now < e

/-- Every recommended action has run: its latest run succeeded on the action as hashed. -/
def Incident.Executed (h : Host) (i : Incident) : Prop :=
  ∀ action ∈ i.recommendations, ∃ run, i.IsLatestRun action run ∧ run.Succeeded h i action

def Incident.latestRunIds (i : Incident) : List Identifier :=
  i.recommendations.filterMap fun action => (i.latestRun action).map (·.actionRunId)

def Incident.Verified (i : Incident) : Prop :=
  ∃ v ∈ i.verificationRuns.getLast?, v.status = .passed ∧
    ∀ id, id ∈ v.actionRunIds ↔ id ∈ i.latestRunIds

theorem expiresAt_isSome {h : Host} {d : ApprovalDecision} (valid : d.validate h = .ok ())
    (network : d.approvalType = .networkAction) : d.expiresAt.isSome = true := by
  simp only [ApprovalDecision.validate, ApprovalDecision.validateSubject, network, Checks.bind_ok,
    requireFields_ok] at valid
  obtain ⟨_, _, _, _, _, _, _, fields, _⟩ := valid
  exact fields (d.expiresAt.isSome, "expires_at") (by simp)

theorem validateRcaReportOwner {h : Host} {i : Incident} {target : IncidentStatus}
    {now : Instant} (passed : validateRemediationApprovals h i target now = .ok ()) :
    ∃ report ∈ i.latestReport, ∀ action ∈ i.recommendations, i.Approved h report now action := by
  unfold validateRemediationApprovals at passed
  split at passed
  · cases passed
  · next report latest =>
    simp only [Checks.seq_ok, Checks.each_ok, Checks.require_ok] at passed
    exact ⟨report, latest, passed.2⟩

theorem Transition.authorized {h : Host} {i s : Incident} {now : Instant}
    (t : Transition h i .remediating now s) : s.Authorized h now := by
  have guards := t.target
  simp only [validateTarget, Checks.seq_ok] at guards
  obtain ⟨report, latest, approved⟩ := validateRcaReportOwner guards.2
  refine ⟨report, isLatestReport_of_mem latest, fun action recommended => ?_⟩
  obtain ⟨d, event, status, covers, _, ⟨at', decided, before⟩, unexpired⟩ :=
    approved action recommended
  have latestEvent := isLatestEvent_of_mem event
  have valid := (Incident.valid_iff.mp t.valid).2.2.2.2.2.1 d latestEvent.1
  obtain ⟨expiry, expires⟩ := Option.isSome_iff_exists.mp (expiresAt_isSome valid covers.1)
  exact ⟨d, latestEvent, status, covers, at', decided, expiry, expires, before,
    unexpired expiry expires⟩

theorem successfulActionRun_ok {h : Host} {i : Incident} {target : IncidentStatus}
    {action : RemediationAction} {run : ActionRun} :
    successfulActionRun h i target action = .ok run ↔
      run ∈ i.latestRun action ∧ run.Succeeded h i action := by
  unfold successfulActionRun
  cases i.latestRun action with
  | none => simp
  | some latest =>
    simp only [Checks.seq_ok, requireGuard_ok, pure, Except.pure, Except.ok.injEq,
      Option.mem_def, Option.some.injEq]
    constructor
    · rintro ⟨succeeded, rfl⟩; exact ⟨rfl, succeeded⟩
    · rintro ⟨rfl, succeeded⟩; exact ⟨succeeded, rfl⟩

theorem executed_of_runs {h : Host} {i : Incident} {target : IncidentStatus}
    {runs : List ActionRun} (found : successfulActionRuns h i target = .ok runs) :
    i.Executed h ∧ runs.map (·.actionRunId) = i.latestRunIds := by
  constructor
  · intro action recommended
    obtain ⟨run, _, ok⟩ := Checks.mapM_mem found recommended
    obtain ⟨latest, succeeded⟩ := successfulActionRun_ok.mp ok
    exact ⟨run, isLatestRun_of_mem latest, succeeded⟩
  · unfold Incident.latestRunIds
    have pairs := Checks.mapM_ok.mp found
    clear found
    generalize i.recommendations = actions at pairs ⊢
    induction pairs with
    | nil => rfl
    | cons ok _ ih =>
      obtain ⟨latest, _⟩ := successfulActionRun_ok.mp ok
      simp only [List.map_cons, List.filterMap_cons, Option.mem_def.mp latest, Option.map_some, ih]

theorem Transition.executed {h : Host} {i s : Incident} {now : Instant}
    (t : Transition h i .verifying now s) : s.Executed h := by
  obtain ⟨runs, found, _⟩ := Checks.bind_ok.mp t.target
  exact (executed_of_runs found).1

theorem Transition.verified {h : Host} {i s : Incident} {now : Instant}
    (t : Transition h i .resolved now s) : s.Executed h ∧ s.Verified := by
  obtain ⟨runs, found, covered⟩ := Checks.bind_ok.mp t.target
  obtain ⟨executed, ids⟩ := executed_of_runs found
  refine ⟨executed, ?_⟩
  split at covered
  · cases covered
  · next v last =>
    obtain ⟨passed, _, _, _, _, below, above⟩ := requireGuard_ok.mp covered
    rw [ids] at below above
    exact ⟨v, last, passed, fun id => ⟨fun k => above k, fun k => below k⟩⟩

/-! Recommendations that are equal have the same content, because every approval on file
still covers the action it names. -/

def Incident.SameActions (h : Host) (i s : Incident) : Prop :=
  List.Forall₂ (fun a b => PyEq.Same a b ∧ a.actionHash h = b.actionHash h)
    i.recommendations s.recommendations

theorem approval_covers {h : Host} {i : Incident} (valid : i.Valid h) {d : ApprovalDecision}
    (member : d ∈ i.approvals) (network : d.approvalType = .networkAction)
    {action : RemediationAction} (recommended : action ∈ i.recommendations)
    (subject : d.subjectId = action.actionId) : d.actionHash = some (action.actionHash h) := by
  have aggregate := (Incident.valid_iff.mp valid).2.2.2.2.2.2.2.2
  have checked := aggregate.approvals d member
  unfold Incident.validateApproval at checked
  obtain ⟨_, checked⟩ := Checks.seq_ok.mp checked
  split at checked
  · cases checked
  · simp only [Checks.seq_ok, requireText_ok] at checked
    obtain ⟨found, lookup, covers⟩ := checked.1 network
    have member' := List.mem_of_find?_eq_some (Option.mem_def.mp lookup)
    have same : found = action := by
      refine List.inj_on_of_nodup_map aggregate.actionIds member' recommended ?_
      exact covers.2.2.2.2.2.1.symm.trans subject
    rw [← same]
    exact covers.2.2.2.2.2.2.1

theorem sameActions_of_kept {h : Host} {entry s : Incident} {now : Instant}
    (authorized : entry.Authorized h now) (valid : s.Valid h)
    (history : entry.HistoryExtends s)
    (frozen : PyEq.Same s.recommendations entry.recommendations) : s.SameActions h entry := by
  obtain ⟨report, _, approved⟩ := authorized
  refine (PyEq.same_iff_forall₂.mp frozen).imp_mem fun {a b} recommended before same => ?_
  refine ⟨same, ?_⟩
  obtain ⟨d, event, _, covers, _⟩ := approved b before
  obtain ⟨kept, member, equal⟩ := history.approvals.mem event.1
  have actionId : a.actionId = b.actionId := same.congr _ fun _ => rfl
  have network : kept.approvalType = .networkAction :=
    (equal.congr ApprovalDecision.approvalType fun _ => rfl).trans covers.1
  have subject : kept.subjectId = a.actionId :=
    ((equal.congr ApprovalDecision.subjectId fun _ => rfl).trans covers.2.2.2.2.2.1).trans
      actionId.symm
  have hash : kept.actionHash = some (b.actionHash h) :=
    (equal.congr ApprovalDecision.actionHash fun _ => rfl).trans covers.2.2.2.2.2.2.1
  exact Option.some.inj ((approval_covers valid member network recommended subject).symm.trans hash)

theorem argmax_map {α : Type} (g : α → α) (f : α → Nat) (kept : ∀ a, f (g a) = f a)
    (xs : List α) : (xs.map g).argmax f = (xs.argmax f).map g := by
  induction xs with
  | nil => rfl
  | cons a rest ih =>
    simp only [List.map_cons, List.argmax_cons, ih]
    cases rest.argmax f with
    | none => rfl
    | some c =>
      simp only [Option.map_some, kept]
      split <;> rfl

theorem latestRunIds_congr {i s : Incident}
    (actions : PyEq.Same i.recommendations s.recommendations)
    (runs : PyEq.Same i.actionRuns s.actionRuns) : i.latestRunIds = s.latestRunIds := by
  have latest : ∀ a b : RemediationAction, PyEq.Same a b →
      (i.latestRun a).map (·.actionRunId) = (s.latestRun b).map (·.actionRunId) := by
    intro a b same
    have normed : ∀ (j : Incident) (c : RemediationAction),
        ((j.actionRuns.map PyEq.norm).filter fun r => r.actionId = c.actionId).argmax (·.attempt) =
          (j.latestRun c).map PyEq.norm := by
      intro j c
      rw [List.filter_map, argmax_map PyEq.norm _ fun _ => rfl]
      rfl
    have actionId : a.actionId = b.actionId := same.congr _ fun _ => rfl
    have equal : (i.latestRun a).map PyEq.norm = (s.latestRun b).map PyEq.norm := by
      rw [← normed i a, ← normed s b, actionId]
      exact congrArg _ (congrArg _ runs)
    have ids := congrArg (Option.map ActionRun.actionRunId) equal
    simp only [Option.map_map] at ids
    exact ids
  unfold Incident.latestRunIds
  have pairs := PyEq.same_iff_forall₂.mp actions
  generalize i.recommendations = before at pairs ⊢
  generalize s.recommendations = after at pairs ⊢
  induction pairs with
  | nil => rfl
  | cons same _ ih => simp only [List.filterMap_cons, latest _ _ same, ih]

/-! Chains of transitions, newest first. -/

/-- An incident of a chain, and the trusted instant of the call that produced it. -/
structure Entry where
  now : Instant
  incident : Incident

/-- Successful calls from `start`, with a trusted clock that never runs back. -/
inductive Chain (h : Host) (start : Incident) : List Entry → Prop
  | start (now : Instant) : Chain h start [⟨now, start⟩]
  | call {e : Entry} {earlier : List Entry} {target : IncidentStatus} {expected : Int}
      {at' now : When} {u : Updates} {next : Incident} (chain : Chain h start (e :: earlier))
      (ordered : e.now ≤ now.trustedNow)
      (accepted : transitionIncident h e.incident target expected at' now u = .ok next) :
      Chain h start (⟨now.trustedNow, next⟩ :: e :: earlier)

theorem Chain.entered {h : Host} {start : Incident} {e : Entry} {earlier : List Entry}
    (chain : Chain h start (e :: earlier)) (moved : e.incident.status ≠ start.status) :
    ∃ before older, earlier = before :: older ∧ Chain h start (before :: older) ∧
      Transition h before.incident e.incident.status e.now e.incident := by
  cases chain with
  | start now => exact absurd rfl moved
  | call chain _ accepted =>
    have t := transition_of_ok accepted
    refine ⟨_, _, rfl, chain, ?_⟩
    rw [t.status]
    exact t

theorem Chain.suffix {h : Host} {start : Incident} {trace : List Entry}
    (chain : Chain h start trace) :
    ∀ later e earlier, trace = later ++ e :: earlier → Chain h start (e :: earlier) := by
  induction chain with
  | start now =>
    intro later e earlier split
    cases later with
    | nil => rw [List.nil_append] at split; exact split ▸ Chain.start now
    | cons _ rest => simp at split
  | call chain ordered accepted ih =>
    intro later e earlier split
    cases later with
    | nil => rw [List.nil_append] at split; exact split ▸ Chain.call chain ordered accepted
    | cons _ rest => exact ih rest e earlier (List.cons.inj split).2

/-- What stands behind the head of `between`: the last entry into REMEDIATING, and what
happened since, newest first. -/
structure Backing (h : Host) (e entry : Entry) (between : List Entry) : Prop where
  entered : entry.incident.status = .remediating
  latest : ∀ b ∈ between, b.incident.status ≠ .remediating
  recommendations : e.incident.SameActions h entry.incident
  authorized : entry.incident.Authorized h entry.now
  verifying : ∃ v ∈ between, v.incident.status = .verifying
  executed : ∀ v ∈ between, v.incident.status = .verifying → v.incident.Executed h
  resolved : e.incident.status ≠ .verifying → ∃ r ∈ between, r.incident.status = .resolved
  verified : ∀ r ∈ between, r.incident.status = .resolved →
    r.incident.Executed h ∧ r.incident.Verified
  sameRuns : ∀ v ∈ between, ∀ r ∈ between, v.incident.status = .verifying →
    r.incident.status = .resolved →
    r.incident.actionRuns.length = v.incident.actionRuns.length →
    r.incident.latestRunIds = v.incident.latestRunIds

section
variable {h : Host} {start : Incident} {e : Entry} {earlier : List Entry}

theorem Chain.before_verifying (detected : start.status = .detected)
    (chain : Chain h start (e :: earlier)) (status : e.incident.status = .verifying) :
    ∃ entry older, earlier = entry :: older ∧ entry.incident.status = .remediating ∧
      entry.incident.Authorized h entry.now ∧
      Transition h entry.incident .verifying e.now e.incident := by
  obtain ⟨entry, older, rfl, chain, t⟩ := chain.entered (by rw [status, detected]; decide)
  rw [status] at t
  have entered := IncidentStatus.eq_of_canTransition_verifying t.edge
  obtain ⟨_, _, _, _, u⟩ := chain.entered (by rw [entered, detected]; decide)
  rw [entered] at u
  exact ⟨entry, older, rfl, entered, u.authorized, t⟩

theorem Chain.before_resolved (detected : start.status = .detected)
    (chain : Chain h start (e :: earlier)) (status : e.incident.status = .resolved) :
    ∃ v older, earlier = v :: older ∧ v.incident.status = .verifying ∧
      Chain h start (v :: older) ∧ Transition h v.incident .resolved e.now e.incident := by
  obtain ⟨v, older, rfl, chain, t⟩ := chain.entered (by rw [status, detected]; decide)
  rw [status] at t
  exact ⟨v, older, rfl, IncidentStatus.eq_of_canTransition_resolved t.edge, chain, t⟩

theorem Chain.before_closed (detected : start.status = .detected)
    (chain : Chain h start (e :: earlier)) (status : e.incident.status = .closed) :
    ∃ r older, earlier = r :: older ∧ r.incident.status = .resolved ∧
      Chain h start (r :: older) ∧ Transition h r.incident .closed e.now e.incident := by
  obtain ⟨r, older, rfl, chain, t⟩ := chain.entered (by rw [status, detected]; decide)
  rw [status] at t
  exact ⟨r, older, rfl, IncidentStatus.eq_of_canTransition_closed t.edge, chain, t⟩

theorem backing_verifying {v entry : Entry} (status : v.incident.status = .verifying)
    (entered : entry.incident.status = .remediating)
    (authorized : entry.incident.Authorized h entry.now)
    (t : Transition h entry.incident .verifying v.now v.incident) : Backing h v entry [v] where
  entered := entered
  latest := by simp [status]
  recommendations :=
    sameActions_of_kept authorized t.valid t.history (t.frozen (by rw [entered]; rfl))
  authorized := authorized
  verifying := ⟨v, by simp, status⟩
  executed := by simpa using fun _ => t.executed
  resolved := fun other => absurd status other
  verified := by simp [status]
  sameRuns := by simp [status]

theorem backing_resolved {r v entry : Entry} (status : r.incident.status = .resolved)
    (verifying : v.incident.status = .verifying)
    (entered : entry.incident.status = .remediating)
    (authorized : entry.incident.Authorized h entry.now)
    (t : Transition h entry.incident .verifying v.now v.incident)
    (t' : Transition h v.incident .resolved r.now r.incident) : Backing h r entry [r, v] where
  entered := entered
  latest := by simp [status, verifying]
  recommendations :=
    sameActions_of_kept authorized t'.valid (t.history.trans t'.history)
      ((t'.frozen (by rw [verifying]; rfl)).trans (t.frozen (by rw [entered]; rfl)))
  authorized := authorized
  verifying := ⟨v, by simp, verifying⟩
  executed := by simpa [status] using fun _ => t.executed
  resolved := fun _ => ⟨r, by simp, status⟩
  verified := by simpa [verifying] using fun _ => t'.verified
  sameRuns := by
    have same := fun size => latestRunIds_congr (t'.frozen (by rw [verifying]; rfl))
      (t'.history.actionRuns.same size)
    simpa [status, verifying] using same

theorem backing_closed {c r v entry : Entry} (status : c.incident.status = .closed)
    (backing : Backing h r entry [r, v]) (t : Transition h entry.incident .verifying v.now v.incident)
    (t' : Transition h v.incident .resolved r.now r.incident)
    (t'' : Transition h r.incident .closed c.now c.incident) : Backing h c entry [c, r, v] where
  entered := backing.entered
  latest := by simpa [status] using backing.latest
  recommendations :=
    sameActions_of_kept backing.authorized t''.valid ((t.history.trans t'.history).trans t''.history)
      ((t''.frozen (by rw [t'.status]; rfl)).trans
        ((t'.frozen (by rw [t.status]; rfl)).trans (t.frozen (by rw [backing.entered]; rfl))))
  authorized := backing.authorized
  verifying := ⟨v, by simp, t.status⟩
  executed := by simpa [status] using backing.executed
  resolved := fun _ => ⟨r, by simp, t'.status⟩
  verified := by simpa [status] using backing.verified
  sameRuns := by simpa [status] using backing.sameRuns

end

/-- Every incident of a chain that is being verified, resolved or closed is backed by an
authorized entry into REMEDIATING, by the runs at the entry into VERIFYING, and by the
verification at the entry into RESOLVED. -/
theorem authorization_safety {h : Host} {start : Incident} {trace : List Entry}
    (detected : start.status = .detected) (chain : Chain h start trace) :
    ∀ later e earlier, trace = later ++ e :: earlier →
      (e.incident.status = .verifying ∨ e.incident.status = .resolved ∨
        e.incident.status = .closed) →
      ∃ between entry older, e :: earlier = between ++ entry :: older ∧
        Backing h e entry between := by
  intro later e earlier split status
  have chain := chain.suffix later e earlier split
  rcases status with verifying | resolved | closed
  · obtain ⟨entry, older, rfl, entered, authorized, t⟩ := chain.before_verifying detected verifying
    exact ⟨[e], entry, older, rfl, backing_verifying verifying entered authorized t⟩
  · obtain ⟨v, _, rfl, verifying, chain, t'⟩ := chain.before_resolved detected resolved
    obtain ⟨entry, older, rfl, entered, authorized, t⟩ := chain.before_verifying detected verifying
    exact ⟨[e, v], entry, older, rfl,
      backing_resolved resolved verifying entered authorized t t'⟩
  · obtain ⟨r, _, rfl, resolved, chain, t''⟩ := chain.before_closed detected closed
    obtain ⟨v, _, rfl, verifying, chain, t'⟩ := chain.before_resolved detected resolved
    obtain ⟨entry, older, rfl, entered, authorized, t⟩ := chain.before_verifying detected verifying
    have backing := backing_resolved resolved verifying entered authorized t t'
    exact ⟨[e, r, v], entry, older, rfl, backing_closed closed backing t t' t''⟩

/-! A chain whose call into RESOLVED appends a newer run of the action. -/
namespace Sample

def host : Host := Host.ascii

def cell : ResourceReference where
  resourceId := .ofText "cell-1" (by decide)
  resourceType := .cell

def evidence : EvidenceReference where
  evidenceId := .ofText "evidence-1" (by decide +kernel)
  evidenceType := .metric
  uri := .ofText "urn:evidence:1" (by decide)

def action : RemediationAction where
  actionId := .ofText "action-1" (by decide)
  actionType := .ofText "RESTART" (by decide)
  targetResources := [cell]
  createdAt := 0

def incidentId : Identifier := .ofText "incident-1" (by decide)

def report : RcaReport where
  reportId := .ofText "report-1" (by decide)
  incidentId := incidentId
  status := .proposed
  rootCause := some "overload"
  evidenceRefs := [evidence]
  recommendations := [action]
  createdAt := 0

def pending : ApprovalDecision where
  approvalId := .ofText "approval-1" (by decide)
  requestId := .ofText "request-1" (by decide)
  sequence := 0
  incidentId := incidentId
  reportId := report.reportId
  reportVersion := 1
  subjectId := action.actionId
  actionHash := some (action.actionHash host)
  scope := [cell]
  requestedAt := 4
  expiresAt := some 100
  idempotencyKey := .ofText "approval-key-1" (by decide)

def granted : ApprovalDecision :=
  { pending with
    approvalId := .ofText "approval-2" (by decide)
    sequence := 1
    status := .approved
    decidedBy := some (.ofText "operator" (by decide))
    decidedAt := some 5
    idempotencyKey := .ofText "approval-key-2" (by decide) }

def run (attempt : Nat) (id : Identifier) : ActionRun where
  actionRunId := id
  incidentId := some incidentId
  actionId := action.actionId
  actionHash := some (action.actionHash host)
  status := .succeeded
  idempotencyKey := some id
  attempt := attempt
  startedAt := some 6
  finishedAt := some 6

def firstRun : ActionRun := run 1 (.ofText "run-1" (by decide))
def secondRun : ActionRun := run 2 (.ofText "run-2" (by decide))

def verification : VerificationRun where
  verificationId := .ofText "verification-1" (by decide)
  incidentId := some incidentId
  actionRunIds := [secondRun.actionRunId]
  status := .passed
  checks := ["KPI recovered"]
  evidenceRefs := [evidence]
  startedAt := some 7
  finishedAt := some 7

def detected : Incident where
  incidentId := incidentId
  detectedAt := 0
  traceId := .ofText "trace-1" (by decide)
  createdAt := 0
  updatedAt := 0

def step (i : Incident) (target : IncidentStatus) (u : Updates) : Except TransitionError Incident :=
  transitionIncident host i target i.revision (.given (i.revision + 1)) (.given (i.revision + 1)) u

def triaged : Incident := detected.stamp .triaged 1 1
def investigating : Incident := triaged.stamp .investigating 2 2
def rcaComplete : Incident :=
  { investigating.stamp .rcaComplete 3 3 with rcaReports := [report], recommendations := [action] }
def awaitingApproval : Incident :=
  { rcaComplete.stamp .awaitingApproval 4 4 with approvals := [pending] }
def remediating : Incident :=
  { awaitingApproval.stamp .remediating 5 5 with approvals := [pending, granted] }
def verifying : Incident :=
  { remediating.stamp .verifying 6 6 with actionRuns := [firstRun] }
def resolved : Incident :=
  { verifying.stamp .resolved 7 7 with
    actionRuns := [firstRun, secondRun], verificationRuns := [verification] }

def earlier : List Entry :=
  [⟨5, remediating⟩, ⟨4, awaitingApproval⟩, ⟨3, rcaComplete⟩, ⟨2, investigating⟩, ⟨1, triaged⟩,
    ⟨0, detected⟩]

theorem chain : Chain host detected (⟨7, resolved⟩ :: ⟨6, verifying⟩ :: earlier) := by
  have to_triaged : step detected .triaged {} = .ok triaged := by decide
  have to_investigating : step triaged .investigating {} = .ok investigating := by decide
  have to_rcaComplete : step investigating .rcaComplete
      { rcaReports := .set [.model report], recommendations := .set [.model action] } =
      .ok rcaComplete := by decide
  -- One evaluation: the four steps compute the same action hash.
  obtain ⟨to_awaitingApproval, to_remediating, to_verifying, to_resolved⟩ :
      step rcaComplete .awaitingApproval
        { approvals := .set [.model pending] } = .ok awaitingApproval ∧
      step awaitingApproval .remediating
        { approvals := .set [.model pending, .model granted] } = .ok remediating ∧
      step remediating .verifying { actionRuns := .set [.model firstRun] } = .ok verifying ∧
      step verifying .resolved
        { actionRuns := .set [.model firstRun, .model secondRun],
          verificationRuns := .set [.model verification] } = .ok resolved := by decide +kernel
  refine .call (.call (.call (.call (.call (.call (.call (.start 0) ?_ to_triaged) ?_
    to_investigating) ?_ to_rcaComplete) ?_ to_awaitingApproval) ?_ to_remediating) ?_
    to_verifying) ?_ to_resolved <;> decide

theorem detected_valid : detected.Valid host := by decide

end Sample

theorem authorization_safety_resolved :
    ∃ between entry older, ⟨7, Sample.resolved⟩ :: ⟨6, Sample.verifying⟩ :: Sample.earlier =
      between ++ entry :: older ∧ Backing Sample.host ⟨7, Sample.resolved⟩ entry between :=
  authorization_safety rfl Sample.chain [] _ _ rfl (.inr (.inl rfl))

/-- The verification at the entry into RESOLVED need not cover the runs that were the latest
at the entry into VERIFYING. -/
theorem resolved_covers_newer_run : ¬ ∀ (h : Host) (start : Incident) (r v : Entry)
    (earlier : List Entry), start.Valid h → start.status = .detected → start.revision = 0 →
      Chain h start (r :: v :: earlier) → v.incident.status = .verifying →
      r.incident.status = .resolved → ∃ run ∈ r.incident.verificationRuns.getLast?,
        ∀ id, id ∈ run.actionRunIds ↔ id ∈ v.incident.latestRunIds := by
  intro claimed
  obtain ⟨run, last, covered⟩ := claimed Sample.host Sample.detected ⟨7, Sample.resolved⟩
    ⟨6, Sample.verifying⟩ Sample.earlier Sample.detected_valid rfl rfl Sample.chain rfl rfl
  cases last
  have newer := (covered Sample.secondRun.actionRunId).mp (by decide)
  exact absurd newer (by decide)

end NetworkAgent
