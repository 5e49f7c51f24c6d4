import NetworkAgent.Governance.Engine
import NetworkAgent.Memory.Versions
import NetworkAgent.Domain.Reopening

/-! What the calls of the engine do to the repository, whatever others do in between: every write
of a call moves an incident that the call knows along one of a few edges. -/
namespace NetworkAgent.Governance
open Checks (require)
open Program (ask attempt caught)

/-- A call of the engine. -/
inductive Task where
  | prepare (a : PrepareArguments)
  | decide (a : DecideArguments)
  | execute (a : ExecuteArguments)

def Task.code (g : Engine) : Task → Governed GovernanceResult
  | .prepare a => Governance.prepare g a
  | .decide a => Governance.decide g a
  | .execute a => Governance.execute g a

def logReading (readings : List Instant) (now : Instant) : Op → List Instant
  | .now => now :: readings
  | _ => readings

structure KeepsRuns (u : Updates) : Prop where
  actions : u.actionRuns = .keep
  verifications : u.verificationRuns = .keep

theorem merge_runs {u : Updates} {i merged : Incident} (accepted : u.merge i = .ok merged) :
    u.actionRuns.resolveAll Element.parse i.actionRuns = .ok merged.actionRuns ∧
      u.verificationRuns.resolveAll Element.parse i.verificationRuns =
        .ok merged.verificationRuns := by
  iterate 16 obtain ⟨_, _, accepted⟩ := Checks.bind_ok.mp accepted
  obtain ⟨actions, resolved, accepted⟩ := Checks.bind_ok.mp accepted
  obtain ⟨verifications, resolved', accepted⟩ := Checks.bind_ok.mp accepted
  iterate 3 obtain ⟨_, _, accepted⟩ := Checks.bind_ok.mp accepted
  cases accepted
  exact ⟨resolved, resolved'⟩

theorem accepted_runs {h : Host} {i s : Incident} {target : IncidentStatus} {expected : Int}
    {at' now : When} {u : Updates} (accepted : transitionIncident h i target expected at' now u = .ok s) :
    u.actionRuns.resolveAll Element.parse i.actionRuns = .ok s.actionRuns ∧
      u.verificationRuns.resolveAll Element.parse i.verificationRuns = .ok s.verificationRuns := by
  obtain ⟨_, _, _, _, _, _, merged, made, rfl, _⟩ := transitionIncident_ok.mp accepted
  obtain ⟨actions, verifications⟩ := merge_runs made
  exact ⟨actions, verifications⟩

theorem resolveAll_keep {α β : Type} {parse : α → Option β} {current after : List β}
    (resolved : Change.keep.resolveAll parse current = .ok after) : after = current :=
  (Except.ok.inj resolved).symm

theorem resolveAll_set {α : Type} {current supplied after : List α}
    (resolved : (Change.set (supplied.map Element.model)).resolveAll Element.parse current =
      .ok after) : after = supplied :=
  Except.ok.inj (resolved.symm.trans (resolveAll_models current supplied))

/-! The write of `_fail_expired_execution`. -/

def failMetadata (g : Engine) (x : Execution) (current : Incident) : WriteMetadata :=
  ⟨stepKey g.toHost x.idempotencyKey "approval-no-longer-effective" [.str x.requestFingerprint],
    x.actor, executionApprovalExpiredReason, current.traceId.text⟩

def failUpdates (x : Execution) (current : Incident) : Updates where
  modelMetadata := .set (failedMetadata x current)
  image := [("model_metadata", .obj (failedMetadata x current))]

/-- What an execution has found out about the incident that it has read, by the time that it goes
on to its action. -/
structure Frozen (g : Engine) (a : ExecuteArguments) (x : Execution) (current : Incident) :
    Prop where
  key : requireText "idempotency_key" a.idempotencyKey = .ok x.idempotencyKey
  actor : requireText "actor" a.actor = .ok x.actor
  incident : requireText "incident_id" a.incidentId = .ok current.incidentId.text
  frozen : freeze g.toHost a x.idempotencyKey x.actor current = .ok x
  unverified : x.verificationOf current = none
  remediating : current.status = .remediating

/-- What a call writes about the incident that it knows, after its readings of the clock. -/
inductive Writes (g : Engine) : Task → List Instant → Incident → IncidentStatus → WriteMetadata →
    Updates → Prop
  | prepares {a : PrepareArguments} {readings : List Instant} {current : Incident}
      {target : IncidentStatus} {w : WriteMetadata} {u : Updates}
      (edge : (current.status, target) ∈ [(.detected, .triaged), (.triaged, .investigating),
        (.investigating, .rcaComplete), (.rcaComplete, .awaitingApproval)])
      (keeps : KeepsRuns u) : Writes g (.prepare a) readings current target w u
  | approves {a : DecideArguments} {readings : List Instant} {current : Incident}
      {report : RcaReport} {action : RemediationAction} {w : WriteMetadata} {u : Updates}
      (approve : a.approve = true) (awaiting : current.status = .awaitingApproval)
      (revision : (current.revision : Int) = a.expectedRevision)
      (latest : current.latestReport = some report) (only : report.recommendations = [action])
      (hash : (action.actionHash g.toHost).text = a.expectedActionHash)
      (keeps : KeepsRuns u) : Writes g (.decide a) readings current .remediating w u
  | rejects {a : DecideArguments} {readings : List Instant} {current : Incident}
      {w : WriteMetadata} {u : Updates} (awaiting : current.status = .awaitingApproval)
      (keeps : KeepsRuns u) : Writes g (.decide a) readings current .rejected w u
  | fails {a : ExecuteArguments} {readings : List Instant} {x : Execution} {current : Incident}
      (frozen : Frozen g a x current)
      (authorized : ∃ approval, authorizedApproval g.toHost x current = .ok approval) :
      Writes g (.execute a) readings current .failed (failMetadata g x current)
        (failUpdates x current)
  | runs {a : ExecuteArguments} {x : Execution} {current : Incident} {approval : ApprovalDecision}
      {run : ActionRun} {looked started : Instant} {earlier : List Instant} {w : WriteMetadata}
      {u : Updates} (frozen : Frozen g a x current)
      (authorized : authorizedApproval g.toHost x current = .ok approval)
      (effective : approval.IsEffective looked) (seen : looked ∈ earlier)
      (stamped : run.startedAt = some started)
      (added : u.actionRuns = .set ((current.actionRuns ++ [run]).map .model))
      (keeps : u.verificationRuns = .keep) :
      Writes g (.execute a) (started :: earlier) current .verifying w u
  | verifies {a : ExecuteArguments} {readings : List Instant} {current : Incident}
      {verification : VerificationRun} {target : IncidentStatus} {w : WriteMetadata} {u : Updates}
      (verifying : current.status = .verifying) (ends : target = .resolved ∨ target = .reopened)
      (added : u.verificationRuns =
        .set ((current.verificationRuns ++ [verification]).map .model))
      (keeps : u.actionRuns = .keep) : Writes g (.execute a) readings current target w u

/-- A call reads, or writes about an incident that it knows. -/
inductive Allowed (g : Engine) (task : Task) (readings : List Instant) (m : Memory) : Op → Prop
  | now : Allowed g task readings m .now
  | analyze (request : RcaRequest) : Allowed g task readings m (.analyze request)
  | get (incidentId : String) : Allowed g task readings m (.repository (.get incidentId))
  | writes {current : Incident} {target : IncidentStatus} {w : WriteMetadata} {u : Updates}
      (known : m.Known current) (by' : Writes g task readings current target w u) :
      Allowed g task readings m
        (.repository (.write (.transition current.incidentId.text target current.revision w u)))

theorem exec_later (g : Engine) (m : Memory) (now : Instant) (op : Op) :
    m.Later g.toHost (g.exec m now op).2 := by
  cases op with
  | now => exact .refl _ m
  | analyze request => exact .refl _ m
  | repository access =>
    cases access with
    | write call => exact ⟨[(now, call)], rfl⟩
    | get | sourceEventAssociations | history => exact .refl _ m

theorem exec_write (g : Engine) (m : Memory) (now : Instant) (call : Call) :
    (g.exec m now (.repository (.write call))).2 = (m.step g.toHost now call).2 := rfl

theorem exec_sound (g : Engine) (m : Memory) (now : Instant) (op : Op) (sound : m.Sound g.toHost) :
    (g.exec m now op).2.Sound g.toHost := (exec_later g m now op).sound sound

theorem fromRepository_ok {α : Type} {x : Except RepositoryError α} {a : α} :
    fromRepository x = .ok a ↔ x = .ok a := by
  cases x <;> simp [fromRepository]

abbrev Guarded (g : Engine) (task : Task) {α : Type} (post : α → List Instant → Memory → Prop)
    (p : Program Op Op.Answer α) (readings : List Instant) (m : Memory) : Prop :=
  p.Guarded g.exec logReading (fun m => m.Sound g.toHost) (Memory.Later g.toHost)
    (Allowed g task) post readings m

section
variable {g : Engine} {task : Task} {readings : List Instant} {m : Memory} {α β : Type}
  {post : Except GovernanceError β → List Instant → Memory → Prop}

theorem guarded_readClock {f : Instant → Governed β}
    (goes : ∀ now m', m'.Sound g.toHost → m.Later g.toHost m' →
      Guarded g task post (f now) (now :: readings) m') :
    Guarded g task post (readClock >>= f : Governed β) readings m :=
  Program.Guarded.ask fun m' sound later => ⟨.now, fun now => goes now m' sound later⟩

theorem guarded_analyze {request : RcaRequest} {f : Except String RcaResult → Governed β}
    (goes : ∀ answer m', m'.Sound g.toHost → m.Later g.toHost m' →
      Guarded g task post (f answer) readings m') :
    Guarded g task post (ask (Op.analyze request) >>= f : Governed β) readings m :=
  Program.Guarded.ask fun m' sound later => ⟨.analyze request, fun _ => goes _ m' sound later⟩

theorem guarded_get {incidentId : String} {f : Option Incident → Governed β}
    (goes : ∀ m', m'.Sound g.toHost → m.Later g.toHost m' →
      Guarded g task post (f (m'.incidents.lookup incidentId)) readings m') :
    Guarded g task post (get incidentId >>= f : Governed β) readings m :=
  Program.Guarded.ask fun m' sound later => ⟨.get incidentId, fun _ => goes m' sound later⟩

theorem guarded_transition {current : Incident} {target : IncidentStatus}
    {idempotencyKey actor reason : String} {u : Updates} {f : Incident → Governed β}
    (known : m.Known current) (sound : m.Sound g.toHost)
    (writes : Writes g task readings current target
      ⟨idempotencyKey, actor, reason, current.traceId.text⟩ u)
    (fails : ∀ e m', post (.error e) readings m')
    (goes : ∀ s m', m'.Sound g.toHost → m.Later g.toHost m' → m'.Known s →
      Guarded g task post (f s) readings m') :
    Guarded g task post (transition current target idempotencyKey actor reason u >>= f : Governed β)
      readings m := by
  refine Program.Guarded.ask fun m' sound' later =>
    ⟨.writes (known.onward sound later) writes, fun now => ?_⟩
  have after := exec_sound g m' now (.repository (.write (.transition current.incidentId.text target
    current.revision ⟨idempotencyKey, actor, reason, current.traceId.text⟩ u))) sound'
  have onwards := exec_later g m' now (.repository (.write (.transition current.incidentId.text
    target current.revision ⟨idempotencyKey, actor, reason, current.traceId.text⟩ u)))
  refine Program.Guarded.attempt (fun e _ => fails e _) fun s answered => ?_
  have answer : (m'.transition g.toHost current.incidentId.text target current.revision
      ⟨idempotencyKey, actor, reason, current.traceId.text⟩ u now).1 = .ok s :=
    fromRepository_ok.mp answered
  exact goes s _ after (later.trans onwards) (Memory.transition_answer_known sound' answer)

theorem guarded_lastTransition {current : Incident} {target : IncidentStatus}
    {idempotencyKey actor reason : String} {u : Updates}
    {post : Except GovernanceError Incident → List Instant → Memory → Prop}
    (known : m.Known current) (sound : m.Sound g.toHost)
    (writes : Writes g task readings current target
      ⟨idempotencyKey, actor, reason, current.traceId.text⟩ u)
    (ends : ∀ result m', post result readings m') :
    Guarded g task post (transition current target idempotencyKey actor reason u) readings m :=
  Program.Guarded.ask fun _ _ later => ⟨.writes (known.onward sound later) writes,
    fun _ => Program.Guarded.finish (ends _ _)⟩

theorem guarded_check {x : Except GovernanceError α} {f : α → Governed β}
    (fails : ∀ e r m', post (.error e) r m')
    (goes : ∀ b, x = .ok b → Guarded g task post (f b) readings m) :
    Guarded g task post (attempt x >>= f : Governed β) readings m :=
  Program.Guarded.attempt (fun _ _ => fails _ _ _) goes

theorem guarded_attempt {x : Except GovernanceError β} (ends : post x readings m) :
    Guarded g task post (attempt x : Governed β) readings m := Program.Guarded.finish ends

theorem guarded_return {b : β} (ends : post (.ok b) readings m) :
    Guarded g task post (pure b : Governed β) readings m := Program.Guarded.finish ends

theorem guarded_andThen {p : Governed α} {f : α → Governed β}
    {post' : Except GovernanceError α → List Instant → Memory → Prop} (sound : m.Sound g.toHost)
    (first : Guarded g task post' p readings m) (fails : ∀ e r m', post (.error e) r m')
    (second : ∀ a r m', m'.Sound g.toHost → post' (.ok a) r m' → Guarded g task post (f a) r m') :
    Guarded g task post (p >>= f : Governed β) readings m :=
  Program.Guarded.andThen (exec_sound g) sound first (fun e r m' _ => fails e r m') second

theorem getIncident_bind (incidentId : String) (f : Incident → Governed β) :
    (getIncident incidentId >>= f) = (attempt (requireText "incident_id" incidentId) >>=
      fun id => (get id >>= fun found => match found with
        | none => attempt (.error (.notFound id))
        | some i => f i) : Governed β) := by
  unfold getIncident
  cases requireText "incident_id" incidentId with
  | error e => rfl
  | ok id =>
    change ExceptT.mk (Program.call (Op.repository (.get id)) _) =
      ExceptT.mk (Program.call (Op.repository (.get id)) _)
    congr 2
    funext found
    cases found <;> rfl

theorem guarded_getIncident {incidentId : String} {f : Incident → Governed β}
    (fails : ∀ e r m', post (.error e) r m')
    (goes : ∀ i m', m'.Sound g.toHost → m.Later g.toHost m' →
      requireText "incident_id" incidentId = .ok i.incidentId.text →
      m'.incidents.lookup i.incidentId.text = some i → Guarded g task post (f i) readings m') :
    Guarded g task post (getIncident incidentId >>= f : Governed β) readings m := by
  rw [getIncident_bind]
  refine guarded_check fails fun id named => ?_
  refine guarded_get fun m' sound later => ?_
  split
  · exact guarded_attempt (fails _ _ _)
  · next i found =>
    have own := sound.key found
    subst own
    exact goes i m' sound later named found

end

/-! Preparations. -/

section
variable {g : Engine} {a : PrepareArguments} {p : Preparation} {current : Incident}
  {readings : List Instant} {m : Memory}

/-- The incident that a stage of `prepare` hands on is known. -/
def HandsOn (result : Except GovernanceError (Incident × Bool)) (_ : List Instant) (m : Memory) :
    Prop := ∀ c, result = .ok c → m.Known c.1

theorem handsOn_error {e : GovernanceError} : HandsOn (.error e) readings m := by
  intro c failed
  cases failed

theorem handsOn_ok {c : Incident × Bool} (known : m.Known c.1) : HandsOn (.ok c) readings m := by
  intro c' same
  cases same
  exact known

theorem guarded_triage (known : m.Known current) (sound : m.Sound g.toHost) :
    Guarded g (.prepare a) HandsOn (triage g p current) readings m := by
  unfold triage
  split
  · next detected =>
    refine guarded_transition known sound (.prepares ?_ ⟨rfl, rfl⟩) (fun _ _ => handsOn_error) ?_
    · simp [detected]
    · exact fun s m' _ _ known' => guarded_return (handsOn_ok known')
  · refine guarded_check (fun _ _ _ => handsOn_error) fun _ _ => ?_
    exact guarded_return (handsOn_ok known)

theorem guarded_investigate (known : m.Known current) (sound : m.Sound g.toHost) (wrote : Bool) :
    Guarded g (.prepare a) HandsOn (investigate g p current wrote) readings m := by
  unfold investigate
  split
  · next triaged =>
    refine guarded_transition known sound (.prepares ?_ ⟨rfl, rfl⟩) (fun _ _ => handsOn_error) ?_
    · simp [triaged]
    · exact fun s m' _ _ known' => guarded_return (handsOn_ok known')
  · exact guarded_return (handsOn_ok known)

theorem guarded_completeRca (known : m.Known current) (sound : m.Sound g.toHost) (wrote : Bool) :
    Guarded g (.prepare a) HandsOn (completeRca g p current wrote) readings m := by
  unfold completeRca
  split
  · next investigating =>
    refine guarded_readClock fun now m₁ sound₁ later₁ => ?_
    refine guarded_check (fun _ _ _ => handsOn_error) fun request _ => ?_
    refine guarded_analyze fun answer m₂ sound₂ later₂ => ?_
    refine guarded_check (fun _ _ _ => handsOn_error) fun result _ => ?_
    refine guarded_check (fun _ _ _ => handsOn_error) fun _ _ => ?_
    refine guarded_check (fun _ _ _ => handsOn_error) fun report _ => ?_
    have known₂ := (known.onward sound later₁).onward sound₁ later₂
    refine guarded_transition known₂ sound₂ (.prepares ?_ ⟨rfl, rfl⟩) (fun _ _ => handsOn_error) ?_
    · simp [investigating]
    · exact fun s m' _ _ known' => guarded_return (handsOn_ok known')
  · exact guarded_return (handsOn_ok known)

theorem guarded_requestApproval (r : ApprovalRequest) :
    Guarded g (.prepare a) (fun _ _ _ => True) (requestApproval g.toHost r) readings m := by
  refine guarded_readClock fun trustedNow m₁ sound₁ _ => ?_
  refine guarded_check (fun _ _ _ => trivial) fun _ _ => ?_
  refine guarded_check (fun _ _ _ => trivial) fun _ _ => ?_
  refine guarded_get fun m₂ sound₂ _ => ?_
  split
  · exact guarded_attempt trivial
  · next current found =>
    split
    · exact guarded_check (fun _ _ _ => trivial) fun _ _ => guarded_return trivial
    · refine guarded_check (fun _ _ _ => trivial) fun pending accepted => ?_
      obtain ⟨complete, _⟩ := Checks.seq_ok.mp accepted
      refine guarded_transition (sound₂.known found) sound₂ (.prepares ?_ ⟨rfl, rfl⟩)
        (fun _ _ => trivial) fun committed m₃ _ _ _ => ?_
      · simp [Checks.require_ok.mp complete]
      · split
        · exact guarded_attempt trivial
        · exact guarded_return trivial

theorem guarded_approveAndSettle (wrote : Bool) :
    Guarded g (.prepare a) (fun _ _ _ => True) (approveAndSettle g p current wrote) readings m := by
  unfold approveAndSettle
  split
  · split
    · exact guarded_attempt trivial
    · split
      · exact guarded_return trivial
      · split
        · refine guarded_readClock fun now m₁ sound₁ _ => ?_
          refine guarded_check (fun _ _ _ => trivial) fun request _ => ?_
          refine guarded_andThen sound₁ (guarded_requestApproval request) (fun _ _ _ => trivial)
            fun _ _ _ _ _ => ?_
          exact guarded_getIncident (fun _ _ _ => trivial) fun _ _ _ _ _ _ =>
            guarded_attempt trivial
        · exact guarded_attempt trivial
  · exact guarded_attempt trivial

theorem guarded_prepare :
    Guarded g (.prepare a) (fun _ _ _ => True) (prepare g a) readings m := by
  refine guarded_check (fun _ _ _ => trivial) fun p _ => ?_
  refine guarded_getIncident (fun _ _ _ => trivial) fun current m₁ sound₁ _ _ found => ?_
  refine guarded_andThen sound₁ (guarded_triage (sound₁.known found) sound₁)
    (fun _ _ _ => trivial) fun c₁ r₁ m₂ sound₂ known₂ => ?_
  refine guarded_andThen sound₂ (guarded_investigate (known₂ _ rfl) sound₂ _)
    (fun _ _ _ => trivial) fun c₂ r₂ m₃ sound₃ known₃ => ?_
  refine guarded_andThen sound₃ (guarded_completeRca (known₃ _ rfl) sound₃ _)
    (fun _ _ _ => trivial) fun c₃ r₃ m₄ sound₄ _ => ?_
  exact guarded_approveAndSettle _

end

/-! Decisions. -/

section
variable {g : Engine} {a : DecideArguments} {readings : List Instant} {m : Memory}

theorem requireActionHash_ok {value hash : String} (checked : requireActionHash value = .ok hash) :
    hash = value := by
  obtain ⟨_, same⟩ := Checks.seq_ok.mp checked
  exact (Except.ok.inj same).symm

theorem checkDecision_hash {h : Host} {hash : String} {r : Ruling}
    (checked : checkDecision h a hash = .ok r) : r.expectedActionHash = hash := by
  obtain ⟨_, _, checked⟩ := Checks.bind_ok.mp checked
  obtain ⟨_, _, checked⟩ := Checks.bind_ok.mp checked
  obtain ⟨_, _, checked⟩ := Checks.bind_ok.mp checked
  cases checked
  rfl

theorem requirePending_ok {h : Host} {r : Ruling} {current : Incident} {pending : ApprovalDecision}
    (found : requirePending h a r current = .ok pending) :
    current.status = .awaitingApproval ∧ (current.revision : Int) = a.expectedRevision ∧
      ∃ report action, current.latestReport = some report ∧ report.recommendations = [action] ∧
        (action.actionHash h).text = r.expectedActionHash := by
  obtain ⟨awaiting, found⟩ := Checks.seq_ok.mp found
  obtain ⟨revision, found⟩ := Checks.seq_ok.mp found
  refine ⟨Checks.require_ok.mp awaiting, Checks.require_ok.mp revision, ?_⟩
  split at found
  · next report action latest only =>
    obtain ⟨hash, _⟩ := Checks.seq_ok.mp found
    rw [latest] at only
    exact ⟨report, action, latest, Option.some.inj only, Checks.require_ok.mp hash⟩
  · cases found

theorem decidedStatus_approved {approve : Bool} {pending : ApprovalDecision} {trustedNow : Instant}
    (approved : decidedStatus approve pending trustedNow = .approved) : approve = true := by
  unfold decidedStatus at approved
  split at approved
  · cases approved
  · next not_rejected => simpa using not_rejected

theorem guarded_decideRead {r : Ruling} {trustedNow : Instant} {current : Incident}
    (known : m.Known current) (sound : m.Sound g.toHost)
    (hash : r.expectedActionHash = a.expectedActionHash) :
    Guarded g (.decide a) (fun _ _ _ => True) (decideRead g.toHost a r trustedNow current)
      readings m := by
  unfold decideRead
  split
  · exact guarded_check (fun _ _ _ => trivial) fun _ _ => guarded_return trivial
  · refine guarded_check (fun _ _ _ => trivial) fun pending found => ?_
    refine guarded_check (fun _ _ _ => trivial) fun terminal _ => ?_
    obtain ⟨awaiting, revision, report, action, latest, only, bound⟩ := requirePending_ok found
    refine guarded_lastTransition known sound ?_ fun _ _ => trivial
    split
    · next approved =>
      exact .approves (decidedStatus_approved approved) awaiting revision latest only
        (bound.trans hash) ⟨rfl, rfl⟩
    · exact .rejects awaiting ⟨rfl, rfl⟩

theorem guarded_decideApproval :
    Guarded g (.decide a) (fun _ _ _ => True) (decideApproval g.toHost a) readings m := by
  refine guarded_check (fun _ _ _ => trivial) fun hash checked => ?_
  refine guarded_check (fun _ _ _ => trivial) fun _ _ => ?_
  refine guarded_readClock fun trustedNow m₁ _ _ => ?_
  refine guarded_check (fun _ _ _ => trivial) fun r ruled => ?_
  refine guarded_get fun m₂ sound₂ _ => ?_
  split
  · exact guarded_attempt trivial
  · next current found =>
    exact guarded_decideRead (sound₂.known found) sound₂
      ((checkDecision_hash ruled).trans (requireActionHash_ok checked))

theorem guarded_decide :
    Guarded g (.decide a) (fun _ _ _ => True) (Governance.decide g a) readings m := by
  refine guarded_getIncident (fun _ _ _ => trivial) fun before m₁ sound₁ _ _ _ => ?_
  refine guarded_check (fun _ _ _ => trivial) fun key _ => ?_
  exact guarded_andThen sound₁ guarded_decideApproval (fun _ _ _ => trivial)
    fun _ _ _ _ _ => guarded_return trivial

end

/-! Executions. -/

section
variable {g : Engine} {a : ExecuteArguments} {readings : List Instant} {m : Memory}
  {x : Execution} {current : Incident}

theorem freeze_ok {h : Host} {key actor : String} : freeze h a key actor current = .ok x ↔
    ∃ report action, current.latestReport = some report ∧ report.recommendations = [action] ∧
      x = execution h a key actor current report action := by
  unfold freeze
  cases current.latestReport with
  | none => simp
  | some report =>
    simp only [Option.some.injEq, exists_and_left, exists_eq_left']
    split
    · next action only => simp [only, eq_comm]
    · next other => simpa using fun action only => (other action only).elim

theorem guarded_verify (r : VerificationRequest) :
    Guarded g (.execute a) (fun _ _ m' => m.Later g.toHost m') (verify g.toHost r) readings m := by
  refine Program.Guarded.attempt (fun _ _ => .refl _ m) fun _ _ => ?_
  split
  · exact guarded_attempt (.refl _ m)
  · exact guarded_readClock fun _ m' _ later => guarded_attempt later

theorem guarded_complete (known : m.Known current) (sound : m.Sound g.toHost) :
    Guarded g (.execute a) (fun _ _ _ => True) (complete g x current) readings m := by
  refine guarded_check (fun _ _ _ => trivial) fun _ verifying => ?_
  refine guarded_check (fun _ _ _ => trivial) fun run _ => ?_
  refine guarded_readClock fun now m₁ sound₁ later₁ => ?_
  refine guarded_check (fun _ _ _ => trivial) fun request _ => ?_
  refine guarded_andThen sound₁ (guarded_verify request) (fun _ _ _ => trivial)
    fun verification r₂ m₂ sound₂ later₂ => ?_
  have known₂ := (known.onward sound later₁).onward sound₁ later₂
  refine guarded_transition known₂ sound₂ (.verifies (Checks.require_ok.mp verifying) ?_ rfl rfl)
    (fun _ _ => trivial) fun _ _ _ _ _ => guarded_return trivial
  split
  · exact .inl rfl
  · exact .inr rfl

/-- The call has gone on, and has kept its readings of the clock. -/
def GoneOn (h : Host) (readings : List Instant) (start : Memory) (r : List Instant) (m : Memory) :
    Prop := start.Later h m ∧ readings ⊆ r

theorem guarded_resolveForExecution (r : NetworkChangeRequest) :
    Guarded g (.execute a) (fun _ r m' => GoneOn g.toHost readings m r m')
      (resolveForExecution g.toHost r) readings m := by
  refine guarded_get fun m₁ sound₁ later₁ => ?_
  have kept : GoneOn g.toHost readings m readings m₁ := ⟨later₁, fun _ member => member⟩
  split
  · exact guarded_attempt kept
  · refine Program.Guarded.attempt (fun _ _ => kept) fun _ _ => ?_
    refine Program.Guarded.attempt (fun _ _ => kept) fun _ _ => ?_
    refine Program.Guarded.attempt (fun _ _ => kept) fun _ _ => ?_
    refine guarded_readClock fun now m₂ _ later₂ => guarded_attempt ⟨later₁.trans later₂, ?_⟩
    exact fun _ member => List.mem_cons_of_mem _ member

def Stamped (readings : List Instant) (result : Except GovernanceError ActionRun)
    (r : List Instant) : Prop :=
  ∀ run, result = .ok run → ∃ started earlier, r = started :: earlier ∧
    run.startedAt = some started ∧ readings ⊆ earlier

theorem stamped_error {e : GovernanceError} {r : List Instant} : Stamped readings (.error e) r := by
  intro run failed
  cases failed

theorem simulatedRun_startedAt {h : Host} {r : NetworkChangeRequest} {now : Instant} {run : ActionRun}
    (made : simulatedRun h r now = .ok run) : run.startedAt = some now := by
  obtain ⟨_, _, made⟩ := Checks.bind_ok.mp made
  obtain ⟨_, made⟩ := Checks.seq_ok.mp made
  cases made
  rfl

theorem guarded_executeAction (r : NetworkChangeRequest) (sound : m.Sound g.toHost) :
    Guarded g (.execute a) (fun result r m' => m.Later g.toHost m' ∧ Stamped readings result r)
      (executeAction g.toHost r) readings m := by
  refine Program.Guarded.attempt (fun _ _ => ⟨.refl _ m, stamped_error⟩) fun _ _ => ?_
  refine Program.Guarded.andThen (exec_sound g) sound (guarded_resolveForExecution r)
    (fun _ _ _ kept => ⟨kept.1, stamped_error⟩) fun _ r₁ m₁ sound₁ kept => ?_
  refine guarded_readClock fun now m₂ _ later₂ => guarded_attempt ⟨kept.1.trans later₂, ?_⟩
  intro run made
  exact ⟨now, r₁, rfl, simulatedRun_startedAt made, kept.2⟩

theorem guarded_failExpired (known : m.Known current) (sound : m.Sound g.toHost)
    (frozen : Frozen g a x current)
    (authorized : ∃ approval, authorizedApproval g.toHost x current = .ok approval) :
    Guarded g (.execute a) (fun _ _ _ => True) (failExpiredExecution g x current) readings m := by
  refine guarded_check (fun _ _ _ => trivial) fun _ _ => ?_
  exact guarded_transition known sound (.fails frozen authorized) (fun _ _ => trivial)
    fun _ _ _ _ _ => guarded_return trivial

def Continues (result : Except GovernanceError (GovernanceResult ⊕ Incident)) (m : Memory) : Prop :=
  ∀ s, result = .ok (.inr s) → m.Known s

theorem continues_ended {result : Except GovernanceError (GovernanceResult ⊕ Incident)}
    (ended : ∀ s, result ≠ .ok (.inr s)) : Continues result m :=
  fun s same => (ended s same).elim

theorem guarded_remediate (known : m.Known current) (sound : m.Sound g.toHost)
    (frozen : Frozen g a x current) :
    Guarded g (.execute a) (fun result _ m' => Continues result m') (remediate g x current)
      readings m := by
  refine guarded_check (fun _ _ _ => continues_ended (by simp)) fun approval authorized => ?_
  refine guarded_readClock fun looked m₁ sound₁ later₁ => ?_
  have known₁ := known.onward sound later₁
  split
  · exact guarded_andThen sound₁ (guarded_failExpired known₁ sound₁ frozen ⟨_, authorized⟩)
      (fun _ _ _ => continues_ended (by simp))
      fun _ _ _ _ _ => guarded_return (continues_ended (by simp))
  · next effective =>
    refine guarded_check (fun _ _ _ => continues_ended (by simp)) fun request _ => ?_
    refine guarded_andThen sound₁
      (Program.Guarded.caught (exec_sound g) sound₁ (guarded_executeAction request sound₁))
      (fun _ _ _ => continues_ended (by simp)) fun outcome r₂ m₂ sound₂ ended => ?_
    obtain ⟨later₂, stamped⟩ := ended outcome rfl
    have known₂ := known₁.onward sound₁ later₂
    split
    · next run =>
      obtain ⟨started, earlier, rfl, start, kept⟩ := stamped run rfl
      refine guarded_transition known₂ sound₂ (.runs frozen authorized
        (not_not.mp effective) (kept List.mem_cons_self) start rfl rfl)
        (fun _ _ => continues_ended (by simp)) fun s m' _ _ known' => guarded_return ?_
      intro s' same
      cases same
      exact known'
    · refine guarded_readClock fun again m₃ sound₃ later₃ => ?_
      split
      · exact guarded_andThen sound₃ (guarded_failExpired (known₂.onward sound₂ later₃) sound₃
          frozen ⟨_, authorized⟩) (fun _ _ _ => continues_ended (by simp))
          fun _ _ _ _ _ => guarded_return (continues_ended (by simp))
      · exact guarded_attempt (continues_ended (by simp))
    · exact guarded_attempt (continues_ended (by simp))

theorem guarded_executeFrozen {key actor : String} (known : m.Known current)
    (sound : m.Sound g.toHost) (keyText : requireText "idempotency_key" a.idempotencyKey = .ok key)
    (actorText : requireText "actor" a.actor = .ok actor)
    (named : requireText "incident_id" a.incidentId = .ok current.incidentId.text)
    (frozen : freeze g.toHost a key actor current = .ok x) :
    Guarded g (.execute a) (fun _ _ _ => True) (executeFrozen g x current) readings m := by
  unfold executeFrozen
  split
  · exact guarded_attempt trivial
  · next unverified =>
    split
    · exact guarded_attempt trivial
    · split
      · next remediating =>
        have found : Frozen g a x current := by
          obtain ⟨report, action, _, _, rfl⟩ := freeze_ok.mp frozen
          exact ⟨keyText, actorText, named, frozen, unverified, remediating⟩
        refine guarded_andThen sound (guarded_remediate known sound found) (fun _ _ _ => trivial)
          fun outcome r₁ m₁ sound₁ continues => ?_
        split
        · exact guarded_return trivial
        · exact guarded_complete (continues _ rfl) sound₁
      · exact guarded_complete known sound

theorem guarded_execute :
    Guarded g (.execute a) (fun _ _ _ => True) (execute g a) readings m := by
  refine guarded_check (fun _ _ _ => trivial) fun key keyText => ?_
  refine guarded_check (fun _ _ _ => trivial) fun actor actorText => ?_
  refine guarded_getIncident (fun _ _ _ => trivial) fun current m₁ sound₁ _ named found => ?_
  refine guarded_check (fun _ _ _ => trivial) fun x frozen => ?_
  exact guarded_executeFrozen (sound₁.known found) sound₁ keyText actorText named frozen

end

theorem guarded_task (g : Engine) (task : Task) (readings : List Instant) (m : Memory) :
    Guarded g task (fun _ _ _ => True) (task.code g) readings m := by
  cases task with
  | prepare a => exact guarded_prepare
  | decide a => exact guarded_decide
  | execute a => exact guarded_execute

/-- What an operation of a call makes of a stored incident: what the call writes about it, or
nothing. -/
theorem exec_writes {g : Engine} {task : Task} {past : List Instant} {m : Memory} {now : Instant}
    {op : Op} (sound : m.Sound g.toHost) (allowed : Allowed g task past m op) {i f : Incident}
    (before : m.incidents.lookup f.incidentId.text = some i)
    (after : (g.exec m now op).2.incidents.lookup f.incidentId.text = some f) :
    f = i ∨ ∃ target w u, Writes g task past i target w u ∧
      transitionIncident g.toHost i target i.revision (.given now) (.given now) u = .ok f := by
  have unmoved : m.incidents.lookup f.incidentId.text = some f → f = i :=
    fun stored => Option.some.inj (stored.symm.trans before)
  cases allowed with
  | now => exact .inl (unmoved after)
  | analyze request => exact .inl (unmoved after)
  | get incidentId => exact .inl (unmoved after)
  | @writes current target w u known writes =>
    rw [exec_write] at after
    simp only [Memory.step] at after
    rcases Memory.transition_stored sound.toKeyed before after with same | ⟨own, accepted⟩
    · exact .inl same
    · have revision : current.revision = i.revision :=
        Int.ofNat_inj.mp (transitionIncident_ok.mp accepted).1
      rw [own] at before
      cases known.eq before revision.symm
      exact .inr ⟨target, w, u, writes, accepted⟩

/-! An execution, with the calls of others in between. -/

/-- The calls of the others, and the clock reading of the operation that follows. -/
abbrev Move : Type := List (Instant × Call) × Instant

/-- What is left of an execution, the repository, and the readings of the clock that the execution
has made, the latest first. -/
structure Underway where
  program : Program Op Op.Answer (Except GovernanceError GovernanceResult)
  memory : Memory
  readings : List Instant := []

def Engine.move (g : Engine) (c : Underway) (move : Move) : Underway :=
  let m := Memory.run g.toHost c.memory move.1
  match c.program with
  | .done answer => ⟨.done answer, m, c.readings⟩
  | .call op next => ⟨next (g.exec m move.2 op).1, (g.exec m move.2 op).2,
      logReading c.readings move.2 op⟩

def Engine.during (g : Engine) (a : ExecuteArguments) (start : Memory) (moves : List Move) :
    Underway := Runs.run g.move { program := execute g a, memory := start } moves

section
variable {g : Engine} {a : ExecuteArguments} {start : Memory}

theorem during_append (moves : List Move) (last : Move) :
    g.during a start (moves ++ [last]) = g.move (g.during a start moves) last := by
  rw [Engine.during, Runs.run_append]
  rfl

theorem move_kept {c : Underway} (sound : c.memory.Sound g.toHost)
    (guarded : Guarded g (.execute a) (fun _ _ _ => True) c.program c.readings c.memory)
    (move : Move) : (g.move c move).memory.Sound g.toHost ∧
      Guarded g (.execute a) (fun _ _ _ => True) (g.move c move).program (g.move c move).readings
        (g.move c move).memory := by
  obtain ⟨program, m, readings⟩ := c
  have others : m.Later g.toHost (Memory.run g.toHost m move.1) := ⟨move.1, rfl⟩
  have sound' := others.sound sound
  cases program with
  | done answer =>
    exact ⟨sound', guarded.onward (fun _ _ _ => .trans) (fun _ _ _ _ _ h => h) others⟩
  | call op next =>
    exact ⟨exec_sound g _ move.2 op sound', (guarded.next _ sound' others).2 move.2⟩

theorem during_kept (sound : start.Sound g.toHost) (moves : List Move) :
    (g.during a start moves).memory.Sound g.toHost ∧
      Guarded g (.execute a) (fun _ _ _ => True) (g.during a start moves).program
        (g.during a start moves).readings (g.during a start moves).memory :=
  Runs.run_invariant g.move (P := fun c : Underway => c.memory.Sound g.toHost ∧
      Guarded g (.execute a) (fun _ _ _ => True) c.program c.readings c.memory)
    (fun _ move kept => move_kept kept.1 kept.2 move) ⟨sound, guarded_execute⟩ moves

/-- What a move of an execution makes of a stored incident: what the execution writes about it, or
nothing. -/
theorem move_writes (sound : start.Sound g.toHost) {moves : List Move} {last : Move} {i f : Incident}
    (before : (Memory.run g.toHost (g.during a start moves).memory last.1).incidents.lookup
      f.incidentId.text = some i)
    (after : (g.during a start (moves ++ [last])).memory.incidents.lookup f.incidentId.text =
      some f) :
    f = i ∨ ∃ target w u, Writes g (.execute a) (g.during a start moves).readings i target w u ∧
      transitionIncident g.toHost i target i.revision (.given last.2) (.given last.2) u = .ok f := by
  obtain ⟨soundThere, guarded⟩ := during_kept (a := a) sound moves
  rw [during_append] at after
  generalize g.during a start moves = c at soundThere guarded before after
  obtain ⟨program, m, readings⟩ := c
  have others : m.Later g.toHost (Memory.run g.toHost m last.1) := ⟨last.1, rfl⟩
  have soundLast := others.sound soundThere
  have unmoved : (Memory.run g.toHost m last.1).incidents.lookup f.incidentId.text = some f →
      f = i := fun stored => Option.some.inj (stored.symm.trans before)
  cases program with
  | done answer => exact .inl (unmoved after)
  | call op next =>
    obtain ⟨allowed, _⟩ := guarded.next _ soundLast others
    exact exec_writes soundLast allowed before after

end

end NetworkAgent.Governance
