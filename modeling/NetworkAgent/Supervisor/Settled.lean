import NetworkAgent.Supervisor.SendTask

/-! The state a thread is left in by a call with an outcome: the assignments the tool makes
before its request reach the session last. -/
namespace NetworkAgent.Supervisor

def Settled (s : Session) (r : Prepared) (outcome : RemoteStreamOutcome) : Prop :=
  match outcome.state with
  | .inputRequired =>
    s .agent = .str r.agentName ∧ s .taskStatus = .str "input_needed" ∧
      s .taskId = .str outcome.taskId ∧ s .a2aContextId = .str outcome.contextId ∧
      (r.isAssuranceAgent = true → s .trustedAssuranceDecision = .null ∧
        ∃ page, outcome.content = some page ∧ s .pendingAssurance = .obj page.data)
  | .completed => ∀ key, s key = .null
  | state => s .taskStatus = .str state.name

theorem Session.writeAll_common (s : Session) (before : List Write) (agentName contextId : String) :
    s.writeAll (before ++ commonDelta agentName contextId) .taskStatus = .str "running" ∧
    s.writeAll (before ++ commonDelta agentName contextId) .agent = .str agentName := by
  rw [Session.writeAll_append]
  exact ⟨rfl, rfl⟩

theorem request_delta {p : Python} {s : Session} {call : Call} {r : Prepared}
    (request : prepareRequest p s call = .ok r) :
    r.agentName = call.agentName ∧
      ∃ before, r.stateDelta = before ++ commonDelta call.agentName r.contextId := by
  rcases prepareRequest_cases request with ⟨_, _, content, _, rfl⟩ |
    ⟨taskId, contextId, confirmation, content, _, _, _, _, _, _, rfl⟩ | ⟨_, rfl⟩
  · exact ⟨rfl, _, rfl⟩
  · exact ⟨rfl, [], rfl⟩
  · exact ⟨rfl, [], rfl⟩

theorem committed_of_sends {p : Python} {connections : Connections} {t : Thread} {call : Call}
    {r : Prepared} {stream : Stream} (sends : Sends p connections t call r stream)
    (events : List StreamEvent) :
    (sendTask p connections t call events).committed .taskStatus = .str "running" ∧
    (sendTask p connections t call events).committed .agent = .str r.agentName := by
  obtain ⟨connection, prepared, _⟩ := id sends
  obtain ⟨named, before, delta⟩ := request_delta (prepare_ok.mp prepared).2.2.2.2
  rw [sendTask_of_sends sends, Returned.committed]
  simp only [delta, named]
  exact Session.writeAll_common _ before _ _

theorem not_settled_running {s : Session} {r : Prepared} {outcome : RemoteStreamOutcome}
    (running : s .taskStatus = .str "running") : ¬ Settled s r outcome := by
  unfold Settled
  intro settled
  cases state : outcome.state with
  | inputRequired =>
    rw [state] at settled
    exact absurd (running.symm.trans settled.2.1) (by decide)
  | completed =>
    rw [state] at settled
    exact absurd (running.symm.trans (settled .taskStatus)) (by decide)
  | submitted | working | failed | canceled | rejected | authRequired | unknown =>
    rw [state] at settled
    exact absurd (running.symm.trans settled) (by decide)

/-- The session holds what the outcome asks for only where there is no outcome to ask for
anything: after every outcome the task is running again, and the approval of a page that was put
before the user is refused. -/
theorem settled_after_commit_iff (p : Python) (connections : Connections) (t : Thread) (call : Call)
    (events : List StreamEvent) :
    ((∀ r outcome, Accepts p connections t call events r outcome →
        Settled (sendTask p connections t call events).committed r outcome) ↔
      ∀ r outcome, ¬ Accepts p connections t call events r outcome) ∧
    ∀ r outcome, Accepts p connections t call events r outcome →
      outcome.state = .inputRequired → r.isAssuranceAgent = true →
      ∀ result, buildTrustedDecision p result (sendTask p connections t call events).committed =
        .error (.permission "Assurance task is not awaiting a decision") := by
  constructor
  · constructor
    · intro settled r outcome accepts
      obtain ⟨stream, sends, _⟩ := id accepts
      exact not_settled_running (committed_of_sends sends events).1 (settled r outcome accepts)
    · exact fun none r outcome accepts => absurd accepts (none r outcome)
  · rintro r outcome ⟨stream, sends, _⟩ _ assurance result
    obtain ⟨running, agent⟩ := committed_of_sends sends events
    have named : r.agentName = assuranceAgentName := by
      simpa [Prepared.isAssuranceAgent] using assurance
    simp [buildTrustedDecision, agent, named, running, permit, Checks.require, Bind.bind, Except.bind]

theorem sample_accepts (state : TaskState) (isOver : state = .inputRequired ∨ state = .failed) :
    Accepts Python.ascii sampleConnections sampleThread sampleCall (sampleEvents state)
      samplePrepared (sampleOutcome state) := by
  rcases isOver with rfl | rfl
  · exact ⟨sampleStream, sample_sends, by rfl, by rfl⟩
  · exact ⟨sampleStream, sample_sends, by rfl, by rfl⟩

/-- An agent that asks for input on a new thread: its task is left running. -/
theorem input_required_left_running :
    Accepts Python.ascii sampleConnections sampleThread sampleCall (sampleEvents .inputRequired)
      samplePrepared (sampleOutcome .inputRequired) ∧
    (sendTask Python.ascii sampleConnections sampleThread sampleCall
      (sampleEvents .inputRequired)).committed .taskStatus = .str "running" ∧
    ¬ Settled (sendTask Python.ascii sampleConnections sampleThread sampleCall
      (sampleEvents .inputRequired)).committed samplePrepared (sampleOutcome .inputRequired) := by
  have running := (committed_of_sends sample_sends (sampleEvents .inputRequired)).1
  exact ⟨sample_accepts .inputRequired (.inl rfl), running, not_settled_running running⟩

end NetworkAgent.Supervisor
