import NetworkAgent.Domain.Lifecycle

/-! The three evaluators of an approval: the guard of the state machine, the lookup on the
aggregate, and the resolution of a wire reference. -/
namespace NetworkAgent
open Checks (require)

def Incident.latestApprovalDecision (i : Incident) (requestId : Identifier) :
    Option ApprovalDecision :=
  (i.requestEvents requestId).argmax (·.sequence)

/-- `effective_action_approval`. The request identifiers are a set, so the order in which they
are visited is not fixed. -/
def Incident.effectiveActionApproval (h : Host) (i : Incident) (order : List Identifier)
    (action : RemediationAction) (report : RcaReport) (at' : Instant) : Option ApprovalDecision :=
  (order.filterMap i.latestApprovalDecision).find? fun d =>
    d.CoversAction h action i.incidentId report ∧ d.IsEffective at'

structure ApprovalReference where
  approvalId : Identifier
  requestId : Identifier
  decisionSequence : Nat
  incidentId : Identifier
  reportId : Identifier
  reportVersion : Nat
  subjectId : Identifier
  actionHash : Sha256.Digest
  basedOnRevision : Nat
  validatedAt : Instant
  validatorId : Identifier
  decided : 1 ≤ decisionSequence
  versioned : 1 ≤ reportVersion

def ApprovalReference.Binds (r : ApprovalReference) (d : ApprovalDecision) : Prop :=
  d.incidentId = r.incidentId ∧ d.reportId = r.reportId ∧ d.reportVersion = r.reportVersion ∧
    d.subjectId = r.subjectId ∧ d.actionHash = some r.actionHash

instance (r : ApprovalReference) (d : ApprovalDecision) : Decidable (r.Binds d) :=
  inferInstanceAs (Decidable (_ ∧ _ ∧ _ ∧ _ ∧ _))

/-- `validate_approval_reference`; the error is the text of the refusal. -/
def validateApprovalReference (h : Host) (r : ApprovalReference) (decisions : List ApprovalDecision)
    (action : RemediationAction) (report : RcaReport) (trustedNow : Instant) :
    Except String ApprovalDecision :=
  let found := (decisions.filter fun d => d.requestId = r.requestId).insertionSort
    fun a b => a.sequence ≤ b.sequence
  match found.getLast? with
  | none => .error "approval request was not found"
  | some latest => do
    require (found.map (·.sequence) = List.range found.length)
      "approval lifecycle is not contiguous"
    require (latest.approvalId = r.approvalId ∧ latest.sequence = r.decisionSequence)
      "approval reference is not the latest decision"
    require (r.Binds latest) "approval reference binding does not match"
    require (latest.CoversAction h action r.incidentId report)
      "latest decision does not cover the action"
    require (latest.IsEffective trustedNow) "latest decision is not effective"
    return latest

/-! The latest event of a request. -/

theorem mem_requestEvents {i : Incident} {requestId : Identifier} {d : ApprovalDecision} :
    d ∈ i.requestEvents requestId ↔ d ∈ i.approvals ∧ d.requestId = requestId := by
  simp [Incident.requestEvents]

theorem mem_requestIds {i : Incident} {requestId : Identifier} :
    requestId ∈ i.requestIds ↔ ∃ d ∈ i.approvals, d.requestId = requestId := by
  simp [Incident.requestIds]

section
variable {h : Host} {i : Incident} {d e : ApprovalDecision}

theorem event_ext (valid : i.Valid h) (first : d ∈ i.approvals) (second : e ∈ i.approvals)
    (request : d.requestId = e.requestId) (sequence : d.sequence = e.sequence) : d = e := by
  obtain ⟨_, _, _, _, _, _, _, _, aggregate⟩ := Incident.valid_iff.mp valid
  exact List.inj_on_of_nodup_map aggregate.approvalSequences first second
    (by rw [request, sequence])

theorem latestApprovalDecision_eq (valid : i.Valid h) (latest : i.IsLatestEvent d) :
    i.latestApprovalDecision d.requestId = some d := by
  have listed : d ∈ i.requestEvents d.requestId := mem_requestEvents.mpr ⟨latest.1, rfl⟩
  unfold Incident.latestApprovalDecision
  cases found : (i.requestEvents d.requestId).argmax (·.sequence) with
  | none =>
    rw [List.argmax_eq_none.mp found] at listed
    cases listed
  | some e =>
    obtain ⟨known, request⟩ := mem_requestEvents.mp (List.argmax_mem (Option.mem_def.mpr found))
    have above := List.le_of_mem_argmax listed (Option.mem_def.mpr found)
    have below := latest.2 e known request
    rw [event_ext valid known latest.1 request (Nat.le_antisymm below above)]

theorem isLatestEvent_of_decision {requestId : Identifier}
    (found : i.latestApprovalDecision requestId = some d) :
    i.IsLatestEvent d ∧ d.requestId = requestId := by
  obtain ⟨known, request⟩ := mem_requestEvents.mp (List.argmax_mem (Option.mem_def.mpr found))
  refine ⟨⟨known, fun other member same => ?_⟩, request⟩
  exact List.le_of_mem_argmax (mem_requestEvents.mpr ⟨member, same.trans request⟩)
    (Option.mem_def.mpr found)

theorem mem_latestApprovalEvents (valid : i.Valid h) :
    d ∈ i.latestApprovalEvents ↔ i.IsLatestEvent d := by
  refine ⟨isLatestEvent_of_mem, fun latest => List.mem_filterMap.mpr ⟨d.requestId, ?_, ?_⟩⟩
  · exact mem_requestIds.mpr ⟨d, latest.1, rfl⟩
  · exact latestApprovalDecision_eq valid latest

theorem getLast_requestEvents (valid : i.Valid h) (requestId : Identifier) :
    ((i.requestEvents requestId).insertionSort fun a b => a.sequence ≤ b.sequence).getLast? =
      some d ↔ i.IsLatestEvent d ∧ d.requestId = requestId := by
  have perm := List.perm_insertionSort (fun a b : ApprovalDecision => a.sequence ≤ b.sequence)
    (i.requestEvents requestId)
  have : Std.Total fun a b : ApprovalDecision => a.sequence ≤ b.sequence :=
    ⟨fun a b => Nat.le_total a.sequence b.sequence⟩
  have : IsTrans ApprovalDecision fun a b => a.sequence ≤ b.sequence :=
    ⟨fun _ _ _ => Nat.le_trans⟩
  have sorted := List.pairwise_insertionSort
    (fun a b : ApprovalDecision => a.sequence ≤ b.sequence) (i.requestEvents requestId)
  have highest : ∀ last, ((i.requestEvents requestId).insertionSort
      fun a b => a.sequence ≤ b.sequence).getLast? = some last →
      i.IsLatestEvent last ∧ last.requestId = requestId := by
    intro last ends
    obtain ⟨front, split⟩ := List.getLast?_eq_some_iff.mp ends
    have member : last ∈ i.requestEvents requestId := perm.mem_iff.mp (by rw [split]; simp)
    obtain ⟨known, request⟩ := mem_requestEvents.mp member
    refine ⟨⟨known, fun other listed same => ?_⟩, request⟩
    have inside := perm.mem_iff.mpr (mem_requestEvents.mpr ⟨listed, same.trans request⟩)
    rw [split] at inside sorted
    rcases List.mem_append.mp inside with before | only
    · exact (List.pairwise_append.mp sorted).2.2 other before last (by simp)
    · rw [List.mem_singleton.mp only]
  refine ⟨highest d, fun ⟨latest, request⟩ => ?_⟩
  cases ends : ((i.requestEvents requestId).insertionSort
      fun a b => a.sequence ≤ b.sequence).getLast? with
  | none =>
    rw [List.getLast?_eq_none_iff] at ends
    have member := perm.mem_iff.mpr (mem_requestEvents.mpr ⟨latest.1, request⟩)
    rw [ends] at member
    cases member
  | some last =>
    obtain ⟨top, request'⟩ := highest last ends
    have below := latest.2 last top.1 (request'.trans request.symm)
    have above := top.2 d latest.1 (request.trans request'.symm)
    rw [event_ext valid top.1 latest.1 (request'.trans request.symm)
      (Nat.le_antisymm below above)]

theorem contiguous (valid : i.Valid h) (known : d ∈ i.approvals) :
    ((i.requestEvents d.requestId).insertionSort fun a b => a.sequence ≤ b.sequence).map
        (·.sequence) =
      List.range ((i.requestEvents d.requestId).insertionSort
        fun a b => a.sequence ≤ b.sequence).length := by
  obtain ⟨_, _, _, _, _, _, _, _, aggregate⟩ := Incident.valid_iff.mp valid
  have checked := aggregate.requests d.requestId (mem_requestIds.mpr ⟨d, known, rfl⟩)
  exact Checks.require_ok.mp (Checks.seq_ok.mp checked).1

end

/-! The evaluators. -/

def Incident.Grants (h : Host) (i : Incident) (report : RcaReport) (now : Instant)
    (action : RemediationAction) (d : ApprovalDecision) : Prop :=
  i.IsLatestEvent d ∧ d.CoversAction h action i.incidentId report ∧ d.IsEffective now

section
variable {h : Host} {i : Incident} {report : RcaReport} {now : Instant}
  {action : RemediationAction} {d : ApprovalDecision}

theorem approved_iff (valid : i.Valid h) :
    i.Approved h report now action ↔ ∃ d, i.Grants h report now action d := by
  simp only [Incident.Approved, Incident.Grants, mem_latestApprovalEvents valid]
  constructor
  · rintro ⟨d, latest, _, covers, effective⟩
    exact ⟨d, latest, covers, effective⟩
  · rintro ⟨d, latest, covers, effective⟩
    exact ⟨d, latest, effective.1, covers, effective⟩

theorem grants_of_effective {order : List Identifier}
    (found : i.effectiveActionApproval h order action report now = some d) :
    i.Grants h report now action d := by
  have holds := List.find?_some found
  obtain ⟨requestId, _, decision⟩ := List.mem_filterMap.mp (List.mem_of_find?_eq_some found)
  simp only [decide_eq_true_eq] at holds
  exact ⟨(isLatestEvent_of_decision decision).1, holds⟩

theorem effective_isSome {order : List Identifier} (valid : i.Valid h)
    (whole : ∀ requestId ∈ i.requestIds, requestId ∈ order) :
    (i.effectiveActionApproval h order action report now).isSome ↔
      ∃ d, i.Grants h report now action d := by
  constructor
  · intro found
    obtain ⟨d, found⟩ := Option.isSome_iff_exists.mp found
    exact ⟨d, grants_of_effective found⟩
  · rintro ⟨d, latest, covers, effective⟩
    have visited := whole d.requestId (mem_requestIds.mpr ⟨d, latest.1, rfl⟩)
    rw [Incident.effectiveActionApproval, List.find?_isSome]
    exact ⟨d, List.mem_filterMap.mpr ⟨d.requestId, visited, latestApprovalDecision_eq valid latest⟩,
      by simp [covers, effective]⟩

theorem grants_of_reference (valid : i.Valid h) {r : ApprovalReference}
    (resolved : validateApprovalReference h r i.approvals action report now = .ok d) :
    i.Grants h report now action d := by
  unfold validateApprovalReference at resolved
  dsimp only at resolved
  split at resolved
  · cases resolved
  · next latest ends =>
    simp only [Checks.seq_ok, Checks.require_ok, pure, Except.pure, Except.ok.injEq] at resolved
    obtain ⟨_, _, binds, covers, effective, rfl⟩ := resolved
    obtain ⟨top, _⟩ := (getLast_requestEvents valid r.requestId).mp ends
    obtain ⟨_, _, _, _, _, _, _, _, aggregate⟩ := Incident.valid_iff.mp valid
    have owned : latest.incidentId = i.incidentId :=
      requireText_ok.mp (Checks.seq_ok.mp (aggregate.approvals latest top.1)).1
    rw [← binds.1, owned] at covers
    exact ⟨top, covers, effective⟩

theorem reference_of_grants (valid : i.Valid h) (grants : i.Grants h report now action d) :
    ∃ r, validateApprovalReference h r i.approvals action report now = .ok d := by
  obtain ⟨latest, covers, effective⟩ := grants
  obtain ⟨_, _, _, _, _, approvals, _, _, _⟩ := Incident.valid_iff.mp valid
  have checked := approvals d latest.1
  simp only [ApprovalDecision.validate, Checks.seq_ok, requireText_ok] at checked
  obtain ⟨versioned, _, status, _⟩ := checked
  have decided : 1 ≤ d.sequence := by
    unfold ApprovalDecision.validateStatus at status
    rw [if_neg (by rw [effective.1]; decide)] at status
    simp only [Checks.seq_ok, requireText_ok] at status
    omega
  have hash : d.actionHash = some (action.actionHash h) := covers.2.2.2.2.2.2.1
  refine ⟨{
    approvalId := d.approvalId
    requestId := d.requestId
    decisionSequence := d.sequence
    incidentId := d.incidentId
    reportId := d.reportId
    reportVersion := d.reportVersion
    subjectId := d.subjectId
    actionHash := action.actionHash h
    basedOnRevision := i.revision
    validatedAt := now
    validatorId := d.approvalId
    decided := decided
    versioned := versioned }, ?_⟩
  have ends := (getLast_requestEvents valid d.requestId).mpr ⟨latest, rfl⟩
  have owned : d.incidentId = i.incidentId := covers.2.1
  unfold validateApprovalReference
  simp only [Incident.requestEvents] at ends
  simp only [ends, Checks.seq_ok, Checks.require_ok]
  refine ⟨contiguous valid latest.1, ⟨trivial, trivial⟩, ⟨rfl, rfl, rfl, rfl, hash⟩, ?_, effective, rfl⟩
  rw [owned]
  exact covers

def Incident.Defeated (i : Incident) (d : ApprovalDecision) : Prop :=
  ∃ later ∈ i.approvals, later.requestId = d.requestId ∧ d.sequence < later.sequence

theorem not_grants_of_defeated (defeated : i.Defeated d) : ¬ i.Grants h report now action d := by
  rintro ⟨latest, _⟩
  obtain ⟨later, known, request, above⟩ := defeated
  exact absurd (latest.2 later known request) (by omega)

end

structure EvaluatorsAgree (h : Host) (i : Incident) (order : List Identifier) (report : RcaReport)
    (now : Instant) (action : RemediationAction) : Prop where
  effective : i.Approved h report now action ↔
    (i.effectiveActionApproval h order action report now).isSome
  reference : (i.effectiveActionApproval h order action report now).isSome ↔
    ∃ r d, validateApprovalReference h r i.approvals action report now = .ok d
  defeated : ∀ d, i.Defeated d → d ∉ i.latestApprovalEvents ∧
    i.effectiveActionApproval h order action report now ≠ some d ∧
    ∀ r, validateApprovalReference h r i.approvals action report now ≠ .ok d

/-- The guard on entering REMEDIATING accepts when the report owns the actions and each of them
is approved, and the three evaluators agree on every action at every instant. -/
theorem approval_evaluators_agree (h : Host) (i : Incident) (valid : i.Valid h) (report : RcaReport)
    (latest : i.latestReport = some report) (order : List Identifier)
    (whole : ∀ requestId, requestId ∈ order ↔ requestId ∈ i.requestIds) (now : Instant) :
    (validateRemediationApprovals h i .remediating now = .ok () ↔
      PyEq.Same report.recommendations i.recommendations ∧
        ∀ action ∈ i.recommendations, i.Approved h report now action) ∧
      ∀ action ∈ i.recommendations, EvaluatorsAgree h i order report now action := by
  have visited := fun requestId known => (whole requestId).mpr known
  constructor
  · unfold validateRemediationApprovals
    simp only [latest, Checks.seq_ok, Checks.each_ok, requireGuard, Checks.require_ok]
  · intro action _
    refine ⟨?_, ?_, fun d defeated => ⟨fun listed => ?_, fun found => ?_, fun r resolved => ?_⟩⟩
    · rw [approved_iff valid, effective_isSome valid visited]
    · rw [effective_isSome valid visited]
      constructor
      · rintro ⟨d, grants⟩
        obtain ⟨r, resolved⟩ := reference_of_grants valid grants
        exact ⟨r, d, resolved⟩
      · rintro ⟨r, d, resolved⟩
        exact ⟨d, grants_of_reference valid resolved⟩
    · obtain ⟨later, known, request, above⟩ := defeated
      exact absurd ((isLatestEvent_of_mem listed).2 later known request) (by omega)
    · exact not_grants_of_defeated defeated (grants_of_effective found)
    · exact not_grants_of_defeated defeated (grants_of_reference valid resolved)

theorem approval_evaluators_agree_sample :
    (validateRemediationApprovals Sample.host Sample.remediating .remediating 50 = .ok () ↔
      PyEq.Same Sample.report.recommendations Sample.remediating.recommendations ∧
        ∀ action ∈ Sample.remediating.recommendations,
          Sample.remediating.Approved Sample.host Sample.report 50 action) ∧
      ∀ action ∈ Sample.remediating.recommendations, EvaluatorsAgree Sample.host Sample.remediating
        Sample.remediating.requestIds Sample.report 50 action := by
  have known : Sample.remediating.Valid Sample.host ∧
      Sample.remediating.latestReport = some Sample.report := by decide +kernel
  exact approval_evaluators_agree Sample.host Sample.remediating known.1 Sample.report known.2
    Sample.remediating.requestIds (fun _ => Iff.rfl) 50

end NetworkAgent
