import NetworkAgent.Governance.Steps
import NetworkAgent.Memory.Walk

/-! Executions that fail because their approval has expired, and the calls that come after: what
the failure is bound to is compared with what a call finds. -/
namespace NetworkAgent.Governance
open Checks (require)
open Program (ask attempt caught)

/-- What an execution has found out about the incident that it fails. -/
structure Expired (g : Engine) (a : ExecuteArguments) (x : Execution) (current : Incident) : Prop
    extends Frozen g a x current where
  authorized : ∃ approval, authorizedApproval g.toHost x current = .ok approval

/-! The failed incident. -/

theorem lookup_setItem_self (fields : Dict) (key : String) (value : Json) :
    (setItem fields key value).lookup key = some value := by
  unfold setItem
  split
  · next known =>
    induction fields with
    | nil => cases known
    | cons f rest ih =>
      obtain ⟨key', old⟩ := f
      by_cases same : key' = key
      · simp [same]
      · have other : (key == key') = false := by simpa using fun equal => same equal.symm
        simp only [List.lookup_cons, other] at known
        simpa [same, List.lookup_cons, other] using ih known
  · next absent =>
    have missing : fields.lookup key = none := Option.not_isSome_iff_eq_none.mp absent
    simp [List.lookup_append, missing]

theorem lookup_setItem_other {fields : Dict} {key key' : String} {value : Json}
    (other : key' ≠ key) : (setItem fields key value).lookup key' = fields.lookup key' := by
  have differ : (key' == key) = false := by simpa using other
  unfold setItem
  split
  · clear * - differ
    induction fields with
    | nil => rfl
    | cons f rest ih =>
      obtain ⟨name, old⟩ := f
      rw [List.map_cons, List.lookup_cons, List.lookup_cons, ih]
      by_cases same : name = key
      · simp [same, differ]
      · simp [same]
  · simp [List.lookup_append, List.lookup_cons, differ]

/-- What `_fail_expired_execution` stores. -/
def failedIncident (x : Execution) (i : Incident) (t : Instant) : Incident :=
  ({ i with modelMetadata := failedMetadata x i }).stamp .failed (i.revision + 1) t

theorem merge_failUpdates (x : Execution) (current i : Incident) :
    (failUpdates x current).merge i =
      .ok { i with modelMetadata := failedMetadata x current } := rfl

theorem failed_of_accepted {h : Host} {x : Execution} {i f : Incident} {expected : Int}
    {now : Instant} (accepted : transitionIncident h i .failed expected (.given now) (.given now)
      (failUpdates x i) = .ok f) : f = failedIncident x i f.updatedAt := by
  obtain ⟨_, _, _, _, t, _, merged, made, rfl, _⟩ := transitionIncident_ok.mp accepted
  rw [merge_failUpdates] at made
  cases made
  rfl

/-! What the recognition asks of a failed incident. -/

/-- Nothing was run or verified, and the one recommended action of the latest report is the fixed
local simulation. -/
def FreshSimulation (i : Incident) : Prop :=
  i.actionRuns = [] ∧ i.verificationRuns = [] ∧ ∃ report ∈ i.latestReport, ∃ action,
    report.recommendations = [action] ∧ IsSimulation action

theorem isSha256Digest_digest (h : Host) (parts : List Json) :
    isSha256Digest (digest h parts) = true := by
  simp [isSha256Digest, digest, (h.stableHash (.arr parts)).length, (h.stableHash (.arr parts)).hex]

section
variable {g : Engine} {a : ExecuteArguments} {x : Execution} {i : Incident} {t : Instant}

theorem binding_found : (failedIncident x i t).modelMetadata.lookup executionFailureMarkerKey =
    some (.obj (executionFailureBinding x.rootFingerprint x.requestFingerprint)) :=
  lookup_setItem_self _ _ _

/-- The recognition of a failed execution finds its binding, or has an objection to the action or
to the runs of the incident. -/
theorem binding_complete_iff (expired : Expired g a x i) :
    requireCompleteFailureBinding g.toHost (failedIncident x i t) =
        .ok (executionFailureBinding x.rootFingerprint x.requestFingerprint) ↔
      FreshSimulation i := by
  obtain ⟨report, action, latest, only, taken⟩ := freeze_ok.mp expired.frozen
  obtain ⟨approval, authorized⟩ := expired.authorized
  obtain ⟨known, approved, covers⟩ : latestApproval i = some approval ∧
      approval.status = .approved ∧ approval.CoversAction g.toHost action i.incidentId report := by
    rw [taken] at authorized
    unfold authorizedApproval at authorized
    split at authorized
    · cases authorized
    · next found =>
      obtain ⟨passed, same⟩ := Checks.seq_ok.mp authorized
      cases same
      exact ⟨found, Checks.require_ok.mp passed⟩
  have complete : CompleteFailure g.toHost (failedIncident x i t)
      (executionFailureBinding x.rootFingerprint x.requestFingerprint) report action approval ↔
        i.actionRuns = [] ∧ i.verificationRuns = [] ∧ IsSimulation action := by
    have digests : isSha256Digest x.rootFingerprint = true ∧
        isSha256Digest x.requestFingerprint = true := by
      rw [taken]
      exact ⟨isSha256Digest_digest _ _, isSha256Digest_digest _ _⟩
    constructor
    · rintro ⟨_, _, _, _, _, runs, verifications, simulation, _⟩
      exact ⟨runs, verifications, simulation⟩
    · rintro ⟨runs, verifications, simulation⟩
      refine ⟨?_, rfl, rfl, digests.2, digests.1, runs, verifications, simulation, approved, covers⟩
      simp [executionFailureBinding, failureKeys]
  unfold requireCompleteFailureBinding
  have latestReport : (failedIncident x i t).latestReport = some report := latest
  have latestApproval : latestApproval (failedIncident x i t) = some approval := known
  rw [binding_found, latestReport, latestApproval]
  simp only [only, Checks.bind_ok, Checks.require_ok, complete, pure, Except.pure, and_true,
    exists_const, FreshSimulation, latest, Option.mem_def, Option.some.injEq, exists_eq_left']
  simp

theorem binding_of_ok {raw : Dict}
    (found : requireCompleteFailureBinding g.toHost (failedIncident x i t) = .ok raw) :
    raw = executionFailureBinding x.rootFingerprint x.requestFingerprint := by
  unfold requireCompleteFailureBinding at found
  rw [binding_found] at found
  split at found
  · next _ stored _ _ =>
    cases stored
    split at found
    · obtain ⟨_, same⟩ := Checks.seq_ok.mp found
      exact (Except.ok.inj same).symm
    · cases found
  · cases found

theorem resumeFailed_iff (expired : Expired g a x i) :
    resumeFailed g.toHost x (failedIncident x i t) = .ok ⟨failedIncident x i t, true⟩ ↔
      FreshSimulation i := by
  rw [← binding_complete_iff (t := t) expired]
  unfold resumeFailed
  cases found : requireCompleteFailureBinding g.toHost (failedIncident x i t) with
  | error e => simp
  | ok raw =>
    cases binding_of_ok found
    simp only [iff_true, Checks.seq_ok, Checks.require_ok, requireState]
    exact ⟨rfl, rfl, trivial, rfl⟩

theorem alone_get {α : Type} (incidentId : String) (f : Option Incident → Governed α)
    (m : Memory) (now : Instant) :
    Program.alone g.exec now (get incidentId >>= f : Governed α) m =
      Program.alone g.exec now (f (m.incidents.lookup incidentId)) m := rfl

theorem alone_execute (expired : Expired g a x i) {m : Memory}
    (stored : m.incidents.lookup i.incidentId.text = some (failedIncident x i t)) (now : Instant) :
    (execute g a).alone g.exec now m =
      (resumeFailed g.toHost x (failedIncident x i t), m) := by
  have frozen : freeze g.toHost a x.idempotencyKey x.actor (failedIncident x i t) = .ok x :=
    expired.frozen
  have unverified : x.verificationOf (failedIncident x i t) = none := expired.unverified
  unfold execute
  rw [expired.key, Program.attempt_ok, expired.actor, Program.attempt_ok, getIncident_bind,
    expired.incident, Program.attempt_ok]
  rw [alone_get, stored]
  dsimp only
  rw [frozen, Program.attempt_ok]
  unfold executeFrozen
  rw [unverified]
  rfl

/-! A later call of `prepare`. -/

def PreparedWith (g : Engine) (a : PrepareArguments) (i : Incident) : Prop :=
  ∃ p, checkPrepare g a = .ok p ∧ requireText "incident_id" a.incidentId = .ok i.incidentId.text ∧
    requireMarker i p.marker = .ok ()

/-- A failed incident that is marked passes through `prepare` to its end. -/
theorem settles_failed {p : Preparation} {f : Incident} (failed : f.status = .failed)
    (marked : requireMarker f p.marker = .ok ()) : triage g p f = pure (f, false) ∧
      investigate g p f false = pure (f, false) ∧ completeRca g p f false = pure (f, false) ∧
      approveAndSettle g p f false = attempt
        ((requireCompleteFailureBinding g.toHost f).map fun _ => ⟨f, true⟩) := by
  refine ⟨?_, ?_, ?_, ?_⟩
  · rw [triage, if_neg (by simp [failed]), marked]
    rfl
  · rw [investigate, if_neg (by simp [failed])]
  · rw [completeRca, if_neg (by simp [failed])]
  · rw [approveAndSettle, if_neg (by simp [failed]), settle, if_pos failed]
    cases requireCompleteFailureBinding g.toHost f <;> rfl

theorem alone_prepare {b : PrepareArguments} (prepared : PreparedWith g b i) {m : Memory}
    (stored : m.incidents.lookup i.incidentId.text = some (failedIncident x i t)) (now : Instant) :
    (prepare g b).alone g.exec now m =
      ((requireCompleteFailureBinding g.toHost (failedIncident x i t)).map
        fun _ => ⟨failedIncident x i t, true⟩, m) := by
  obtain ⟨p, checked, named, marked⟩ := prepared
  have marker : requireMarker (failedIncident x i t) p.marker = .ok () := by
    unfold requireMarker at marked ⊢
    have kept : (failedIncident x i t).modelMetadata.lookup markerKey =
        i.modelMetadata.lookup markerKey := lookup_setItem_other (by decide)
    rw [kept]
    exact marked
  obtain ⟨triaged, investigated, completed, settled⟩ := settles_failed (g := g) rfl marker
  unfold prepare
  rw [checked, Program.attempt_ok, getIncident_bind, named, Program.attempt_ok]
  rw [alone_get, stored]
  dsimp only
  rw [triaged]
  change Program.alone g.exec now (investigate g p (failedIncident x i t) false >>= fun c =>
    completeRca g p c.1 c.2 >>= fun c => approveAndSettle g p c.1 c.2 :
      Governed GovernanceResult) m = _
  rw [investigated]
  change Program.alone g.exec now (completeRca g p (failedIncident x i t) false >>= fun c =>
    approveAndSettle g p c.1 c.2 : Governed GovernanceResult) m = _
  rw [completed]
  change Program.alone g.exec now (approveAndSettle g p (failedIncident x i t) false) m = _
  rw [settled]
  rfl

theorem prepare_resumes_iff (expired : Expired g a x i) {b : PrepareArguments}
    (prepared : PreparedWith g b i) {m : Memory}
    (stored : m.incidents.lookup i.incidentId.text = some (failedIncident x i t)) (now : Instant) :
    (prepare g b).alone g.exec now m = (.ok ⟨failedIncident x i t, true⟩, m) ↔
      FreshSimulation i := by
  rw [alone_prepare prepared stored, ← binding_complete_iff (t := t) expired]
  cases found : requireCompleteFailureBinding g.toHost (failedIncident x i t) with
  | error e => simp [Except.map]
  | ok raw =>
    cases binding_of_ok found
    simp [Except.map]

theorem execute_resumes_iff (expired : Expired g a x i) {m : Memory}
    (stored : m.incidents.lookup i.incidentId.text = some (failedIncident x i t)) (now : Instant) :
    (execute g a).alone g.exec now m = (.ok ⟨failedIncident x i t, true⟩, m) ↔
      FreshSimulation i := by
  rw [alone_execute expired stored, ← resumeFailed_iff (t := t) expired]
  simp

end

/-! Runs. -/

structure Fails (g : Engine) (a : ExecuteArguments) (start : Memory) (moves : List Move)
    (last : Move) (i f : Incident) : Prop where
  before : (Memory.run g.toHost (g.during a start moves).memory last.1).incidents.lookup
    f.incidentId.text = some i
  running : i.status ≠ .failed
  after : (g.during a start (moves ++ [last])).memory.incidents.lookup f.incidentId.text = some f
  failed : f.status = .failed

/-- Whenever the call is made from now on, it answers with the incident as a replay, and leaves
the repository as it is. -/
def Resumes (g : Engine) (call : Governed GovernanceResult) (m : Memory) (f : Incident) : Prop :=
  ∀ (others : List (Instant × Call)) (now : Instant),
    Program.alone g.exec now call (Memory.run g.toHost m others) =
      (.ok ⟨f, true⟩, Memory.run g.toHost m others)

section
variable {g : Engine} {a : ExecuteArguments} {start : Memory} {i f : Incident}

theorem expired_of_fails {moves : List Move} {last : Move} (sound : start.Sound g.toHost)
    (fails : Fails g a start moves last i f) :
    ∃ x t, Expired g a x i ∧ f = failedIncident x i t := by
  rcases move_writes sound fails.before fails.after with same | ⟨target, w, u, writes, accepted⟩
  · exact absurd (same ▸ fails.failed) fails.running
  · have ends : target = .failed := (transition_of_ok accepted).status.symm.trans fails.failed
    subst ends
    generalize (g.during a start moves).readings = readings at writes
    cases writes with
    | @fails _ _ x _ frozen authorized =>
      exact ⟨x, f.updatedAt, ⟨frozen, authorized⟩, failed_of_accepted accepted⟩
    | verifies _ ends => rcases ends with ends | ends <;> cases ends

theorem Fails.stays {moves : List Move} {last : Move} (sound : start.Sound g.toHost)
    (fails : Fails g a start moves last i f) (others : List (Instant × Call)) :
    (Memory.run g.toHost (g.during a start (moves ++ [last])).memory others).incidents.lookup
      f.incidentId.text = some f := by
  obtain ⟨soundAfter, _⟩ := during_kept (a := a) sound (moves ++ [last])
  obtain ⟨j, found, onward⟩ := Memory.Later.onward ⟨others, rfl⟩ soundAfter fails.after
  rwa [onward.failed fails.failed] at found

theorem Fails.execute_resumes_iff {moves : List Move} {last : Move} (sound : start.Sound g.toHost)
    (fails : Fails g a start moves last i f) :
    Resumes g (execute g a) (g.during a start (moves ++ [last])).memory f ↔ FreshSimulation i := by
  have stays := fails.stays sound
  obtain ⟨x, t, expired, rfl⟩ := expired_of_fails sound fails
  constructor
  · intro resumes
    exact (Governance.execute_resumes_iff expired (stays []) 0).mp (resumes [] 0)
  · intro fresh others now
    exact (Governance.execute_resumes_iff expired (stays others) now).mpr fresh

theorem Fails.prepare_resumes_iff {moves : List Move} {last : Move} (sound : start.Sound g.toHost)
    (fails : Fails g a start moves last i f) {b : PrepareArguments}
    (prepared : PreparedWith g b i) :
    Resumes g (prepare g b) (g.during a start (moves ++ [last])).memory f ↔ FreshSimulation i := by
  have stays := fails.stays sound
  obtain ⟨x, t, expired, rfl⟩ := expired_of_fails sound fails
  constructor
  · intro resumes
    exact (Governance.prepare_resumes_iff expired prepared (stays []) 0).mp (resumes [] 0)
  · intro fresh others now
    exact (Governance.prepare_resumes_iff expired prepared (stays others) now).mpr fresh

end

section
variable {g : Engine} {a : ExecuteArguments} {x : Execution} {i : Incident} {m : Memory}
  {approval : ApprovalDecision} {t now : Instant}

theorem execute_opens (frozen : Frozen g a x i) : ∃ next,
    execute g a = .call (.repository (.get i.incidentId.text)) next ∧
      next (some i) = executeFrozen g x i := by
  unfold execute
  rw [frozen.key, Program.attempt_ok, frozen.actor, Program.attempt_ok, getIncident_bind,
    frozen.incident, Program.attempt_ok]
  refine ⟨_, rfl, ?_⟩
  change (attempt (freeze g.toHost a x.idempotencyKey x.actor i) >>= fun x =>
    executeFrozen g x i : Governed GovernanceResult) = _
  rw [frozen.frozen]
  rfl

theorem executeFrozen_opens (frozen : Frozen g a x i)
    (authorized : authorizedApproval g.toHost x i = .ok approval)
    (expired : ¬ approval.IsEffective now) : ∃ next, executeFrozen g x i = .call .now next ∧
      ∃ after, next now = .call (.repository (.write (.transition i.incidentId.text .failed
        i.revision (failMetadata g x i) (failUpdates x i)))) after := by
  unfold executeFrozen
  rw [frozen.unverified]
  dsimp only
  rw [if_neg (by simp [frozen.remediating]), if_pos frozen.remediating]
  unfold remediate
  rw [authorized]
  refine ⟨_, rfl, ?_⟩
  simp only [Program.bind, ExceptT.bindCont]
  rw [if_pos expired]
  unfold failExpiredExecution
  rw [requireState, require, if_pos frozen.remediating]
  exact ⟨_, rfl⟩

theorem during_opens (frozen : Frozen g a x i)
    (stored : m.incidents.lookup i.incidentId.text = some i)
    (authorized : authorizedApproval g.toHost x i = .ok approval)
    (expired : ¬ approval.IsEffective now) : ∃ after, g.during a m [([], t), ([], now)] =
      ⟨.call (.repository (.write (.transition i.incidentId.text .failed i.revision
        (failMetadata g x i) (failUpdates x i)))) after, m, [now]⟩ := by
  obtain ⟨read, opens, found⟩ := execute_opens frozen
  obtain ⟨look, begins, after, writes⟩ := executeFrozen_opens frozen authorized expired
  refine ⟨after, ?_⟩
  have first : g.move { program := execute g a, memory := m } ([], t) =
      ⟨executeFrozen g x i, m, []⟩ := by
    rw [opens, ← found, ← stored]
    rfl
  have second : g.move ⟨executeFrozen g x i, m, []⟩ ([], now) =
      ⟨look now, m, [now]⟩ := by
    rw [begins]
    rfl
  change g.move (g.move _ _) _ = _
  rw [first, second, writes]

theorem move_memory (op : Op) (next : Op.Answer op → Program Op Op.Answer
    (Except GovernanceError GovernanceResult)) (readings : List Instant) :
    (g.move ⟨.call op next, m, readings⟩ ([], now)).memory = (g.exec m now op).2 := rfl

theorem fails_of_opens (frozen : Frozen g a x i)
    (stored : m.incidents.lookup i.incidentId.text = some i)
    (authorized : authorizedApproval g.toHost x i = .ok approval)
    (expired : ¬ approval.IsEffective now) {f : Incident} (same : f.incidentId = i.incidentId)
    (failed : f.status = .failed)
    (after : (m.transition g.toHost i.incidentId.text .failed i.revision (failMetadata g x i)
      (failUpdates x i) now).2.incidents.lookup f.incidentId.text = some f) :
    Fails g a m [([], t), ([], now)] ([], now) i f := by
  obtain ⟨next, opens⟩ := during_opens (t := t) frozen stored authorized expired
  refine ⟨?_, by simp [frozen.remediating], ?_, failed⟩
  · rw [opens, same]
    exact stored
  · rw [during_append, opens, move_memory, exec_write]
    simp only [Memory.step]
    exact after

end

/-- An execution whose approval has expired takes its incident to FAILED; whether a later call of
`execute` or `prepare` with the same arguments finds that failure is decided by what else there is
in the incident. -/
theorem expired_execution_resumes_iff (g : Engine) (calls : List (Instant × Call))
    (a : ExecuteArguments) (moves : List Move) (last : Move) (i f : Incident)
    (fails : Fails g a (Memory.run g.toHost {} calls) moves last i f) :
    (Resumes g (execute g a)
        (g.during a (Memory.run g.toHost {} calls) (moves ++ [last])).memory f ↔
      FreshSimulation i) ∧
    ∀ b, PreparedWith g b i → (Resumes g (prepare g b)
        (g.during a (Memory.run g.toHost {} calls) (moves ++ [last])).memory f ↔
      FreshSimulation i) :=
  have sound := Memory.run_sound g.toHost calls
  ⟨fails.execute_resumes_iff sound, fun _ => fails.prepare_resumes_iff sound⟩

namespace Foreign
open Sample hiding pending granted awaitingApproval remediating

def hash : Sha256.Digest where
  text := "256aaa0eaf8544e50f8fd6acb3d68714cb4a39394b39510bd588a03cf6f7198e"
  length := by decide +kernel
  hex := by decide +kernel

def pending : ApprovalDecision := { Sample.pending with actionHash := some hash }

def granted : ApprovalDecision := { Sample.granted with actionHash := some hash }

def awaitingApproval : Incident :=
  { rcaComplete.stamp .awaitingApproval 4 4 with approvals := [pending] }

def remediating : Incident :=
  { awaitingApproval.stamp .remediating 5 5 with approvals := [pending, granted] }

def metadata (key : String) : WriteMetadata := ⟨key, "operator", "move on", "trace-1"⟩

def scope (operation key : String) : Scope := ⟨operation, "incident-1", key⟩

structure Moves (i s : Incident) (target : IncidentStatus) (key : String) (u : Updates) : Prop where
  requested : (Memory.transitionRequest Host.ascii "incident-1" target i.revision (metadata key)
    u).map (·.scope) = .ok (scope "transition" key)
  accepted : step i target u = .ok s
  safe : RepositorySafe Host.ascii s.toJson

def move (key : String) (target : IncidentStatus) (i : Incident) (u : Updates) :
    Instant × Call :=
  (i.revision + 1, .transition "incident-1" target i.revision (metadata key) u)

theorem Moves.next {i s : Incident} {target : IncidentStatus} {key : String} {u : Updates}
    {m : Memory} {scopes : List Scope} (moves : Moves i s target key u) (holds : m.Holds i scopes)
    (unused : scope "transition" key ∉ scopes) (own : i.incidentId = incidentId)
    (trace : i.traceId.text = "trace-1") (active : i.status.isActive = true)
    (unsourced : s.sourceEventIds = []) (attributed : (metadata key).attribution.isSome = true) :
    (Memory.next Host.ascii m (move key target i u)).Holds s (scope "transition" key :: scopes) := by
  have named : i.incidentId.text = "incident-1" := congrArg (fun id => id.text) own
  have after := holds.transition (named ▸ moves.requested) unused trace moves.accepted moves.safe
    active unsourced attributed
  rwa [named] at after

def completing : Updates where
  rcaReports := .set [.model report]
  recommendations := .set [.model action]
  image := [("rca_reports", .arr [report.dump "Z"]), ("recommendations", .arr [action.dump "Z"])]

def asking : Updates where
  approvals := .set [.model pending]
  image := [("approvals", .arr [pending.dump "Z"])]

def granting : Updates where
  approvals := .set [.model pending, .model granted]
  image := [("approvals", .arr [pending.dump "Z", granted.dump "Z"])]

def calls : List (Instant × Call) :=
  [(0, .create detected (metadata "k0")), move "k1" .triaged detected {},
    move "k2" .investigating triaged {}, move "k3" .rcaComplete investigating completing,
    move "k4" .awaitingApproval rcaComplete asking,
    move "k5" .remediating awaitingApproval granting]

def engine : Engine where
  toHost := Host.ascii
  totalSeconds n := n / 1000000
  analyze _ _ _ := .error "no analysis"

def arguments : ExecuteArguments := { incidentId := "incident-1", idempotencyKey := "execute-1" }

def taken : Execution where
  idempotencyKey := "execute-1"
  actor := "local-simulator"
  verificationPassed := true
  report := report
  action := action
  approval := some granted
  rootFingerprint := "e6f50524d9a5c9e6941187171f5cba6f2b4e8e5b5fb4ff3eaa8b2a1a9685b00b"
  requestFingerprint := "93ca27274a020cba3c4e59f8311ded4771156fb44059cb394b19ce63a3da2c47"
  verificationId := "local-verification-8ab1a032a8f079b0236b0e2a7974e255"

def failKey : String :=
  "local-governance-approval-no-longer-effective-7d7eacfa4349890df6c1ad600cdd7a80"

def failed : Incident := failedIncident taken remediating 100

/-- What the calls and the execution compute. -/
class Computed : Prop where
  created : (Memory.createRequest Host.ascii "create" detected (metadata "k0")).map (·.scope) =
    .ok (scope "create" "k0")
  valid : Memory.validateNewIncident Host.ascii detected "trace-1" 0 = .ok detected
  toTriaged : Moves detected triaged .triaged "k1" {}
  toInvestigating : Moves triaged investigating .investigating "k2" {}
  toComplete : Moves investigating rcaComplete .rcaComplete "k3" completing
  toAwaiting : Moves rcaComplete awaitingApproval .awaitingApproval "k4" asking
  toRemediating : Moves awaitingApproval remediating .remediating "k5" granting
  actionHash : action.actionHash Host.ascii = hash
  root : digest Host.ascii [.str "execute-1"] = taken.rootFingerprint
  request : digest Host.ascii [.str "local-governance-execute-v2", dumpId remediating.incidentId,
    .str taken.rootFingerprint, .str "local-simulator", .bool arguments.verificationPassed,
    dumpDigest hash, optional (fun d : ApprovalDecision => dumpId d.approvalId)
      (latestApproval remediating)] = taken.requestFingerprint
  verification : stableId Host.ascii "local-verification" [.str taken.rootFingerprint,
    .str arguments.incidentId] = taken.verificationId
  failKey : stepKey Host.ascii taken.idempotencyKey "approval-no-longer-effective"
    [.str taken.requestFingerprint] = failKey
  key : requireText "idempotency_key" arguments.idempotencyKey = .ok taken.idempotencyKey
  actor : requireText "actor" arguments.actor = .ok taken.actor
  incident : requireText "incident_id" arguments.incidentId = .ok remediating.incidentId.text
  covers : granted.CoversAction Host.ascii action remediating.incidentId report
  requested : (Memory.transitionRequest Host.ascii remediating.incidentId.text .failed
    remediating.revision ⟨Foreign.failKey, "local-simulator", executionApprovalExpiredReason,
      "trace-1"⟩ (failUpdates taken remediating)).map (·.scope) =
    .ok (scope "transition" Foreign.failKey)
  accepted : transitionIncident Host.ascii remediating .failed remediating.revision
    (.given 100) (.given 100) (failUpdates taken remediating) = .ok failed
  safe : RepositorySafe Host.ascii failed.toJson
  fresh : scope "transition" Foreign.failKey ∉ [scope "transition" "k5", scope "transition" "k4",
    scope "transition" "k3", scope "transition" "k2", scope "transition" "k1", scope "create" "k0"]

theorem safe_incidents : RepositorySafe Host.ascii triaged.toJson ∧
    RepositorySafe Host.ascii investigating.toJson ∧ RepositorySafe Host.ascii rcaComplete.toJson ∧
    RepositorySafe Host.ascii awaitingApproval.toJson ∧
    RepositorySafe Host.ascii remediating.toJson ∧ RepositorySafe Host.ascii failed.toJson := by
  decide +kernel

/-- The steps and the checks that compute the hash of the action. -/
theorem hashed_steps : step rcaComplete .awaitingApproval asking = .ok awaitingApproval ∧
    step awaitingApproval .remediating granting = .ok remediating ∧
    action.actionHash Host.ascii = hash ∧
    granted.CoversAction Host.ascii action remediating.incidentId report ∧
    transitionIncident Host.ascii remediating .failed remediating.revision (.given 100)
      (.given 100) (failUpdates taken remediating) = .ok failed := by
  decide +kernel

instance computed : Computed where
  created := by decide +kernel
  valid := by decide +kernel
  toTriaged := ⟨by decide, by decide, safe_incidents.1⟩
  toInvestigating := ⟨by decide, by decide, safe_incidents.2.1⟩
  toComplete := ⟨by decide +kernel, by decide, safe_incidents.2.2.1⟩
  toAwaiting := ⟨by decide +kernel, hashed_steps.1, safe_incidents.2.2.2.1⟩
  toRemediating := ⟨by decide +kernel, hashed_steps.2.1, safe_incidents.2.2.2.2.1⟩
  actionHash := hashed_steps.2.2.1
  root := by decide +kernel
  request := by decide +kernel
  verification := by decide +kernel
  failKey := by decide +kernel
  key := by decide +kernel
  actor := by decide +kernel
  incident := by decide +kernel
  covers := hashed_steps.2.2.2.1
  requested := by decide +kernel
  accepted := hashed_steps.2.2.2.2
  safe := safe_incidents.2.2.2.2.2
  fresh := by decide +kernel

theorem detected_created : (Memory.next Host.ascii {} (0, .create detected (metadata "k0"))).Holds
    detected [scope "create" "k0"] := by
  have created : (({} : Memory).create Host.ascii detected (metadata "k0") 0).2.Holds detected
      [scope "create" "k0"] :=
    Memory.create_holds computed.created computed.valid rfl rfl
  rw [Memory.next, Memory.step]
  exact created

theorem remediating_holds : (Memory.run Host.ascii {} calls).Holds remediating
    [scope "transition" "k5", scope "transition" "k4", scope "transition" "k3",
      scope "transition" "k2", scope "transition" "k1", scope "create" "k0"] := by
  have first := computed.toTriaged.next detected_created (by decide) rfl rfl rfl rfl rfl
  have second := computed.toInvestigating.next first (by decide) rfl rfl rfl rfl rfl
  have third := computed.toComplete.next second (by decide) rfl rfl rfl rfl rfl
  have fourth := computed.toAwaiting.next third (by decide) rfl rfl rfl rfl rfl
  have fifth := computed.toRemediating.next fourth (by decide) rfl rfl rfl rfl rfl
  rw [calls]
  repeat rw [Memory.run_cons]
  rw [Memory.run_nil]
  exact fifth

theorem taken_eq : execution Host.ascii arguments "execute-1" "local-simulator" remediating report
    action = taken := by
  simp only [execution, computed.root, computed.actionHash, computed.request,
    computed.verification]
  rfl

theorem frozen : Frozen engine arguments taken remediating where
  key := computed.key
  actor := computed.actor
  incident := computed.incident
  frozen := congrArg Except.ok taken_eq
  unverified := rfl
  remediating := rfl

theorem authorized : authorizedApproval Host.ascii taken remediating = .ok granted :=
  Checks.seq_ok.mpr ⟨Checks.require_ok.mpr ⟨rfl, computed.covers⟩, rfl⟩

theorem expired : ¬ granted.IsEffective 100 := by decide

theorem failMetadata_eq : failMetadata engine taken remediating =
    ⟨failKey, "local-simulator", executionApprovalExpiredReason, "trace-1"⟩ := by
  unfold failMetadata
  rw [show engine.toHost = Host.ascii from rfl, computed.failKey]
  rfl

theorem failed_stored : ((Memory.run engine.toHost {} calls).transition engine.toHost
    remediating.incidentId.text .failed remediating.revision (failMetadata engine taken remediating)
    (failUpdates taken remediating) 100).2.incidents.lookup failed.incidentId.text = some failed := by
  rw [failMetadata_eq, show engine.toHost = Host.ascii from rfl]
  exact (remediating_holds.transition computed.requested computed.fresh rfl computed.accepted
    computed.safe rfl rfl rfl).stored

/-- The time at which the approval expires, with no calls of others before it. -/
def expiry : Move := ([], 100)

theorem fails : Fails engine arguments (Memory.run engine.toHost {} calls) [expiry, expiry] expiry
    remediating failed :=
  fails_of_opens frozen (show AList.lookup _ (Memory.run engine.toHost {} calls).incidents = _ from
    remediating_holds.stored) authorized expired rfl rfl failed_stored

theorem not_fresh : ¬ FreshSimulation remediating := by
  rintro ⟨_, _, report, latest, action, only, simulation, _⟩
  cases latest
  cases only
  exact absurd simulation (by decide)

end Foreign

theorem expired_execution_resumes_iff_restart :
    Fails Foreign.engine Foreign.arguments (Memory.run Foreign.engine.toHost {} Foreign.calls)
        [Foreign.expiry, Foreign.expiry] Foreign.expiry Foreign.remediating Foreign.failed ∧
      (Resumes Foreign.engine (execute Foreign.engine Foreign.arguments)
        (Foreign.engine.during Foreign.arguments (Memory.run Foreign.engine.toHost {} Foreign.calls)
          ([Foreign.expiry, Foreign.expiry] ++ [Foreign.expiry])).memory Foreign.failed ↔
        FreshSimulation Foreign.remediating) :=
  ⟨Foreign.fails, (expired_execution_resumes_iff _ _ _ _ _ _ _ Foreign.fails).1⟩

theorem expired_execution_not_resumed :
    ¬ ∀ (g : Engine) (calls : List (Instant × Call)) (a : ExecuteArguments) (moves : List Move)
      (last : Move) (i f : Incident), Fails g a (Memory.run g.toHost {} calls) moves last i f →
        Resumes g (execute g a)
          (g.during a (Memory.run g.toHost {} calls) (moves ++ [last])).memory f := by
  intro always
  have resumes := always _ _ _ _ _ _ _ Foreign.fails
  exact Foreign.not_fresh ((Foreign.fails.execute_resumes_iff (Memory.run_sound _ _)).mp resumes)

end NetworkAgent.Governance
