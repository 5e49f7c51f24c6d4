import NetworkAgent.Library.Runs
import NetworkAgent.Supervisor.Scans
import NetworkAgent.Supervisor.Tracking

/-! A thread over many calls: what a call that is over leaves behind for the next one. -/
namespace NetworkAgent.Supervisor

/-! The thread and what happens on it, one act after the other. -/

/-- A call from its start to its return, and whether the runtime of the model has appended its
assignments before the next act; a result of the approval component; the sockets. -/
inductive Act where
  | task (call : Call) (events : List StreamEvent) (commits : Bool)
  | approve (result : ToolResult)
  | connect (sid : String)
  | bind (sid : String)
  | disconnect (sid : String)

def act (p : Python) (connections : Connections) (t : Thread) : Act → Thread
  | .task call events commits =>
    let returned := sendTask p connections t call events
    { t with session := if commits then returned.committed else returned.session }
  | .approve result => { t with session := (handleToolResult p t result none).1 }
  | .connect sid => t.register sid
  | .bind sid => t.bind sid
  | .disconnect sid => t.remove sid

/-- The call was sent, and its task is over or its stream was given up: nothing is asked of the
user. -/
def Ended (p : Python) (connections : Connections) (t : Thread) (call : Call)
    (events : List StreamEvent) : Prop :=
  (∃ r stream, Sends p connections t call r stream) ∧
    ∀ r outcome, Accepts p connections t call events r outcome → outcome.state ≠ .inputRequired

/-- A call that is sent completes or asks for input; or it is for a new task, and its stream names
none before it is given up. -/
def EndsClean (p : Python) (connections : Connections) (t : Thread) : Act → Prop
  | .task call events _ => ∀ r stream, Sends p connections t call r stream →
      (∃ outcome, Accepts p connections t call events r outcome ∧
        (outcome.state = .completed ∨ outcome.state = .inputRequired)) ∨
      (textOf (t.session .taskId) = none ∧ (stream.follow p events).tasks = [])
  | _ => True

/-! One key of the session. -/

theorem Session.writeAll_keeps {P : Json → Prop} {s : Session} {key : Key} {values : List Write}
    (before : P (s key)) (written : ∀ w ∈ values, w.1 = key → P w.2) : P (s.writeAll values key) := by
  induction values generalizing s with
  | nil => exact before
  | cons w rest ih =>
    refine ih (s := s.write w) ?_ fun v member => written v (List.mem_cons_of_mem _ member)
    by_cases same : w.1 = key
    · rw [Session.write, ← same, Function.update_self]
      exact written w List.mem_cons_self same
    · rw [Session.write, Function.update_of_ne (Ne.symm same)]
      exact before

theorem Session.writeAll_other {s : Session} {key : Key} {values : List Write}
    (other : ∀ w ∈ values, w.1 ≠ key) : s.writeAll values key = s key :=
  Session.writeAll_keeps (P := fun v => v = s key) rfl fun w member same =>
    absurd same (other w member)

/-! The context of the session stays an identifier that a stream takes. -/

def IsContext (v : Json) : Prop := ∀ c, textOf v = some c → IsStreamId c

theorem textOf_str {s c : String} (read : textOf (.str s) = some c) : c = s ∧ s ≠ "" := by
  by_cases empty : s = ""
  · simp [textOf, empty] at read
  · simp only [textOf, empty, if_false, Option.some.injEq] at read
    exact ⟨read.symm, empty⟩

theorem isContext_str {s : String} (short : s.length ≤ maxIdChars) : IsContext (.str s) := by
  intro c read
  obtain ⟨rfl, some'⟩ := textOf_str read
  exact ⟨some', short⟩

theorem isContext_null : IsContext .null := nofun

theorem newId_context (uuid : Uuid) : IsStreamId (newId "context" uuid) :=
  isOptionalId_newId uuid (by decide) _ rfl

theorem request_context {p : Python} {s : Session} {call : Call} {r : Prepared}
    (context : IsContext (s .a2aContextId)) (request : prepareRequest p s call = .ok r) :
    IsStreamId r.contextId := by
  rcases prepareRequest_cases request with ⟨_, _, content, _, rfl⟩ |
    ⟨taskId, contextId, confirmation, content, _, _, known, _, _, _, rfl⟩ | ⟨_, rfl⟩
  · exact newId_context _
  · exact context contextId known
  · cases known : textOf (s .a2aContextId) with
    | none => exact newId_context _
    | some contextId => exact context contextId known

theorem request_writes {p : Python} {s : Session} {call : Call} {r : Prepared}
    (request : prepareRequest p s call = .ok r) :
    (∀ w ∈ r.early ++ r.stateDelta, w.1 = .a2aContextId → w.2 = .str r.contextId) ∧
    (∀ w ∈ r.early ++ r.stateDelta, w.1 = .taskId → w.2 = .null) := by
  rcases prepareRequest_cases request with ⟨_, _, content, _, rfl⟩ |
    ⟨taskId, contextId, confirmation, content, _, _, _, _, _, _, rfl⟩ | ⟨_, rfl⟩
  · simp [preparedScan, scanWrites, commonDelta]
  · simp [preparedConfirmation, commonDelta]
  · simp [prepareText, commonDelta]

theorem openStream_ok {connection : Connection} {r : Prepared} {stream : Stream}
    (opened : openStream connection r = .ok stream) :
    stream.expectedTaskId = r.taskId ∧ stream.Valid ∧ stream.machine.state = r.startingState := by
  unfold openStream at opened
  split at opened
  · split at opened
    · cases opened
    · rename_i machine created
      cases opened
      simp only [Machine.create, Checks.bind_ok, Option.mapM_some, Checks.map_ok, streamId_ok] at created
      obtain ⟨task, _, context, ⟨c, ⟨valid, rfl⟩, rfl⟩, state, started, same⟩ := created
      cases same
      refine ⟨rfl, ⟨?_, ?_⟩, ?_⟩
      · rintro c ⟨⟩
        exact valid
      · rintro c ⟨⟩
        exact valid
      · cases given : r.startingState with
        | none => simpa [given, pure, Except.pure, eq_comm] using started
        | some start =>
          simp only [given, Option.mapM_some, Checks.map_ok, Machine.normalizedState,
            Checks.bind_ok] at started
          obtain ⟨a, ⟨_, _, same⟩, rfl⟩ := started
          cases same
          rfl
  · cases opened

theorem observedWrites_context {agentName : String} {tasks : List (String × String)}
    (named : ∀ task ∈ tasks, IsStreamId task.2) :
    ∀ w ∈ observedWrites agentName tasks, w.1 = .a2aContextId → IsContext w.2 := by
  intro w member same
  obtain ⟨task, known, written⟩ := List.mem_flatMap.mp member
  simp only [taskWrites, List.mem_cons, List.not_mem_nil, or_false] at written
  rcases written with rfl | rfl | rfl | rfl
  · cases same
  · cases same
  · cases same
  · exact isContext_str (named task known).2

theorem concludingWrites_context {p : Python} {r : Prepared} {later : Fresh}
    {outcome : RemoteStreamOutcome} {values : List Write} {answer : Answer}
    (context : IsStreamId outcome.contextId)
    (concluded : concludingWrites p r later outcome = .ok (values, answer)) :
    ∀ w ∈ values, w.1 = .a2aContextId → IsContext w.2 := by
  intro w member same
  rcases concludingWrites_cases concluded with ⟨_, _, page, _, rfl⟩ | ⟨_, _, rfl⟩ | ⟨_, rfl⟩ | ⟨_, _, rfl⟩
  · simp only [inputWrites, List.cons_append, List.nil_append, List.mem_cons, List.not_mem_nil,
      or_false] at member
    rcases member with rfl | rfl | rfl | rfl | rfl | rfl
    all_goals first | exact isContext_str context.2 | cases same
  · simp only [inputWrites, List.mem_cons, List.not_mem_nil, or_false] at member
    rcases member with rfl | rfl | rfl | rfl
    all_goals first | exact isContext_str context.2 | cases same
  · simp only [clearedWrites, List.mem_cons, List.not_mem_nil, or_false] at member
    rcases member with rfl | rfl | rfl | rfl | rfl | rfl | rfl | rfl | rfl | rfl
    all_goals exact isContext_null
  · simp only [List.mem_cons, List.not_mem_nil, or_false] at member
    rcases member with rfl
    cases same

theorem concludeWith_context {p : Python} {s : Session} {r : Prepared} {later : Fresh}
    {outcome : Option RemoteStreamOutcome} (before : IsContext (s .a2aContextId))
    (named : ∀ o ∈ outcome, IsStreamId o.contextId) :
    IsContext ((concludeWith p s r later outcome).1 .a2aContextId) := by
  cases outcome with
  | none => exact before
  | some o =>
    cases concluded : concludingWrites p r later o with
    | error e => simpa [concludeWith, concluded] using before
    | ok pair =>
      simp only [concludeWith, concluded]
      exact Session.writeAll_keeps before (concludingWrites_context (named o rfl) concluded)

theorem sendTask_context (p : Python) (connections : Connections) {t : Thread} (call : Call)
    (events : List StreamEvent) (before : IsContext (t.session .a2aContextId)) :
    IsContext ((sendTask p connections t call events).session .a2aContextId) ∧
      IsContext ((sendTask p connections t call events).committed .a2aContextId) := by
  have early : ∀ {connection r}, prepare p connections t call = .ok (connection, r) →
      (∀ w ∈ r.early ++ r.stateDelta, w.1 = .a2aContextId → IsContext w.2) := by
    intro connection r prepared w member same
    have request := (prepare_ok.mp prepared).2.2.2.2
    rw [(request_writes request).1 w member same]
    exact isContext_str (request_context before request).2
  by_cases sent : ∃ r stream, Sends p connections t call r stream
  · obtain ⟨r, stream, sends⟩ := sent
    obtain ⟨connection, prepared, opened⟩ := id sends
    have writes := early prepared
    have valid := Stream.follow_valid (p := p) (openStream_ok opened).2.1 events
    have session : IsContext ((sendTask p connections t call events).session .a2aContextId) := by
      rw [sendTask_of_sends sends]
      refine concludeWith_context (Session.writeAll_keeps (Session.writeAll_keeps before ?_) ?_)
        valid.2
      · exact fun w member => writes w (List.mem_append_left _ member)
      · exact observedWrites_context valid.1
    refine ⟨session, Session.writeAll_keeps session ?_⟩
    rw [sendTask_of_sends sends]
    exact fun w member => writes w (List.mem_append_right _ member)
  · have unsent : ∀ r stream, ¬ Sends p connections t call r stream :=
      fun r stream sends => sent ⟨r, stream, sends⟩
    rcases sendTask_of_not_sent unsent events with ⟨_, same, none⟩ | ⟨connection, r, prepared, same, delta⟩
    · rw [Returned.committed, none, same]
      exact ⟨before, before⟩
    · have writes := early prepared
      have session : IsContext ((sendTask p connections t call events).session .a2aContextId) := by
        rw [same]
        exact Session.writeAll_keeps before fun w member => writes w (List.mem_append_left _ member)
      refine ⟨session, Session.writeAll_keeps session ?_⟩
      rw [delta]
      exact fun w member => writes w (List.mem_append_right _ member)

theorem handleToolResult_other {p : Python} {t : Thread} {result : ToolResult} {key : Key}
    (other : key ≠ .trustedAssuranceDecision) :
    (handleToolResult p t result none).1 key = t.session key := by
  unfold handleToolResult
  split
  · rfl
  · rfl
  · refine Session.writeAll_other ?_
    intro w member
    obtain rfl := List.mem_singleton.mp member
    exact Ne.symm other

theorem act_context (p : Python) (connections : Connections) (t : Thread) (a : Act)
    (before : IsContext (t.session .a2aContextId)) :
    IsContext ((act p connections t a).session .a2aContextId) := by
  cases a with
  | task call events commits =>
    have after := sendTask_context p connections call events before
    cases commits with
    | true => exact after.2
    | false => exact after.1
  | approve result =>
    simp only [act, handleToolResult_other (show Key.a2aContextId ≠ .trustedAssuranceDecision by decide)]
    exact before
  | connect sid =>
    simp only [act, Thread.register]
    split <;> exact before
  | bind sid =>
    simp only [act, Thread.bind]
    split <;> exact before
  | disconnect sid =>
    simp only [act, Thread.remove]
    split <;> exact before

/-! A call that ends clean leaves no task behind. -/

theorem textOf_null_of_writes {s : Session} {values : List Write}
    (before : textOf (s .taskId) = none) (written : ∀ w ∈ values, w.1 = .taskId → w.2 = .null) :
    textOf (s.writeAll values .taskId) = none :=
  Session.writeAll_keeps (P := fun v => textOf v = none) before fun w member same => by
    rw [written w member same]
    rfl

theorem concludeWith_task {p : Python} {s : Session} {r : Prepared} {later : Fresh}
    {outcome : Option RemoteStreamOutcome} (before : textOf (s .taskId) = none)
    (isOver : ∀ o ∈ outcome, (concludingWrites p r later o).isOk = true → o.state ≠ .inputRequired) :
    textOf ((concludeWith p s r later outcome).1 .taskId) = none := by
  cases outcome with
  | none => exact before
  | some o =>
    cases concluded : concludingWrites p r later o with
    | error e => simpa [concludeWith, concluded] using before
    | ok pair =>
      have asks := isOver o rfl (by rw [concluded]; rfl)
      simp only [concludeWith, concluded]
      rcases concludingWrites_cases concluded with ⟨input, _⟩ | ⟨input, _⟩ | ⟨_, cleared⟩ | ⟨_, _, failed⟩
      · exact absurd input asks
      · exact absurd input asks
      · rw [cleared]
        rfl
      · rw [failed]
        exact textOf_null_of_writes before fun w member same => by
          obtain rfl := List.mem_singleton.mp member
          cases same

theorem sendTask_frees {p : Python} {connections : Connections} {t : Thread} {call : Call}
    {events : List StreamEvent} {commits : Bool} (ended : Ended p connections t call events)
    (clean : EndsClean p connections t (.task call events commits)) :
    textOf ((sendTask p connections t call events).session .taskId) = none ∧
      textOf ((sendTask p connections t call events).committed .taskId) = none := by
  obtain ⟨⟨r, stream, sends⟩, isOver⟩ := ended
  obtain ⟨connection, prepared, _⟩ := id sends
  have request := (prepare_ok.mp prepared).2.2.2.2
  have writes := (request_writes request).2
  have session : textOf ((sendTask p connections t call events).session .taskId) = none := by
    rw [sendTask_of_sends sends]
    rcases clean r stream sends with ⟨outcome, accepts, state⟩ | ⟨free, silent⟩
    · have completed : outcome.state = .completed :=
        state.resolve_right (isOver r outcome accepts)
      obtain ⟨stream', sends', yields, accepted⟩ := accepts
      obtain ⟨_, rfl⟩ := sends.unique sends'
      rw [yields]
      cases concluded : concludingWrites p r call.later outcome with
      | error e => rw [concluded] at accepted; cases accepted
      | ok pair =>
        simp only [concludeWith, concluded]
        rcases concludingWrites_cases concluded with ⟨input, _⟩ | ⟨input, _⟩ | ⟨_, cleared⟩ | ⟨_, other, _⟩
        · exact absurd (input.symm.trans completed) (by decide)
        · exact absurd (input.symm.trans completed) (by decide)
        · rw [cleared]
          rfl
        · exact absurd completed other
    · have early : textOf (t.session.writeAll r.early .taskId) = none :=
        textOf_null_of_writes free fun w member => writes w (List.mem_append_left _ member)
      rw [silent]
      refine concludeWith_task early ?_
      exact fun o yields accepted => isOver r o ⟨stream, sends, yields, accepted⟩
  refine ⟨session, textOf_null_of_writes session ?_⟩
  rw [sendTask_of_sends sends]
  exact fun w member => writes w (List.mem_append_right _ member)

/-! On a thread without a task every available agent can complete a call. -/

def newStream (isAssuranceAgent : Bool) (contextId : String) : Stream where
  isAssuranceAgent
  expectedTaskId := none
  expectedContextId := some contextId
  machine := { taskId := none, contextId := some contextId, state := none }

theorem openStream_new {r : Prepared} (fresh : r.taskId = none ∧ r.startingState = none)
    (context : IsStreamId r.contextId) :
    openStream {} r = .ok (newStream r.isAssuranceAgent r.contextId) := by
  have taken : streamId "context" r.contextId = .ok r.contextId := streamId_ok.mpr ⟨context, rfl⟩
  simp [openStream, Machine.create, fresh.1, fresh.2, taken, newStream, Bind.bind, Except.bind,
    pure, Except.pure, Functor.map, Except.map]

def completingEvents (contextId : String) (found : Option Dict) : List StreamEvent :=
  [.task "task-1" contextId .submitted, .status "task-1" contextId .working false none] ++
  (found.toList.map fun page => .artifact "task-1" contextId { parts := [.data (.obj page)] }) ++
  [.status "task-1" contextId .completed true none]

theorem follow_completing {p : Python} {contextId : String} (context : IsStreamId contextId) :
    ((newStream false contextId).follow p (completingEvents contextId none)).outcome =
      some ⟨.completed, "task-1", contextId, none, none⟩ := by
  have taken : streamId "context" contextId = .ok contextId := streamId_ok.mpr ⟨context, rfl⟩
  have task : streamId "task" "task-1" = .ok "task-1" := by rfl
  simp [completingEvents, Stream.follow, Stream.observe, Stream.onTask, Stream.onStatus,
    Stream.trackTask, newStream, Machine.observeTask, Machine.observeStatus, Machine.bind, taken,
    task, Machine.normalizedState, TaskState.known, TaskState.terminal, statusContent, contentOr,
    Machine.finish, Machine.Active, Agrees, Checks.require, maxStreamEvents, Bind.bind, Except.bind,
    pure, Except.pure]

theorem follow_completing_page {p : Python} {contextId : String} {page : Dict}
    (context : IsStreamId contextId) (canonical : IsCanonical p .candidatePage page) :
    ((newStream true contextId).follow p (completingEvents contextId (some page))).outcome =
      some ⟨.completed, "task-1", contextId, some ⟨page, none, messageIdOf page⟩, none⟩ := by
  have taken : streamId "context" contextId = .ok contextId := streamId_ok.mpr ⟨context, rfl⟩
  have task : streamId "task" "task-1" = .ok "task-1" := by rfl
  have decoded := decodeCanonicalParts_single (canonicalData_ok.mpr ⟨rfl, _, canonical⟩)
  have kind := canonical.kind
  simp [completingEvents, Stream.follow, Stream.observe, Stream.onTask, Stream.onStatus,
    Stream.onArtifact, artifactContent, canonicalType, decoded, kind, Machine.observeArtifact,
    Stream.trackTask, newStream, Machine.observeTask, Machine.observeStatus, Machine.bind, taken,
    task, Machine.normalizedState, TaskState.known, TaskState.terminal, statusContent, contentOr,
    Machine.finish, Machine.Active, Agrees, Checks.require, maxStreamEvents, Bind.bind, Except.bind,
    pure, Except.pure]

/-- The call passes the routing checks and sends a request; its stream follows the task from the
first event on; and there are events after which it answers that the task is completed. -/
def CanComplete (p : Python) (connections : Connections) (t : Thread) (call : Call) : Prop :=
  ∃ r stream taskId contextId later, Sends p connections t call r stream ∧
    (∃ machine, stream.trackTask taskId contextId .submitted = .ok machine ∧
      machine.state = some .submitted) ∧
    (sendTask p connections t call (.task taskId contextId .submitted :: later)).answer.status =
      "Task Completed"

theorem trackTask_new {isAssuranceAgent : Bool} {contextId : String} (context : IsStreamId contextId) :
    ∃ machine, (newStream isAssuranceAgent contextId).trackTask "task-1" contextId .submitted =
      .ok machine ∧ machine.state = some .submitted := by
  have taken : streamId "context" contextId = .ok contextId := streamId_ok.mpr ⟨context, rfl⟩
  have task : streamId "task" "task-1" = .ok "task-1" := by rfl
  simp [Stream.trackTask, newStream, Machine.observeTask, Machine.bind, taken, task,
    Machine.normalizedState, TaskState.known, TaskState.terminal, Agrees, Checks.require, Bind.bind,
    Except.bind, pure, Except.pure]

theorem canComplete_of_yields {p : Python} {connections : Connections} {t : Thread} {call : Call}
    {r : Prepared} {found : Option Dict} {outcome : RemoteStreamOutcome} {values : List Write}
    {text : String} (context : IsStreamId r.contextId)
    (sends : Sends p connections t call r (newStream r.isAssuranceAgent r.contextId))
    (yields : ((newStream r.isAssuranceAgent r.contextId).follow p
      (completingEvents r.contextId found)).outcome = some outcome)
    (concluded : concludingWrites p r call.later outcome =
      .ok (values, ⟨"Task Completed", text, false⟩)) : CanComplete p connections t call := by
  refine ⟨r, _, "task-1", r.contextId, (completingEvents r.contextId found).tail, sends,
    trackTask_new context, ?_⟩
  have whole := sendTask_of_sends sends (completingEvents r.contextId found)
  rw [yields] at whole
  simp only [concludeWith, concluded] at whole
  exact congrArg (fun returned => returned.answer.status) whole

theorem completes_of_free {p : Python} {connections : Connections} {t : Thread} {call : Call}
    (free : textOf (t.session .taskId) = none) (context : IsContext (t.session .a2aContextId))
    (named : t.threadId ≠ "") (target : ∃ sid, socketTarget t = .ok sid)
    (available : connections.lookup call.agentName = some ⟨true, true⟩)
    (reads : call.agentName = assuranceAgentName → p.ReadsBack call.fresh.now) :
    CanComplete p connections t call := by
  have sends : ∀ {r : Prepared}, prepareRequest p t.session call = .ok r →
      r.taskId = none ∧ r.startingState = none →
      Sends p connections t call r (newStream r.isAssuranceAgent r.contextId) := by
    intro r request fresh
    exact ⟨⟨true, true⟩, prepare_ok.mpr ⟨named, target, available, .inl free, request⟩,
      openStream_new fresh (request_context context request)⟩
  by_cases assurance : call.agentName = assuranceAgentName
  · have reads := reads assurance
    have request : prepareRequest p t.session call = .ok (preparedScan call
        (buildAssuranceScanRequest call.fresh) (scanContent call.fresh)) := by
      simp only [prepareRequest, assurance, if_true, free]
      exact prepareScan_ok call reads
    have agent : (preparedScan call (buildAssuranceScanRequest call.fresh)
        (scanContent call.fresh)).isAssuranceAgent = true := by
      simp [Prepared.isAssuranceAgent, preparedScan, assurance]
    have valid := request_context context request
    have checked := checkEmptyScan_emptyPage call reads (scanContent call.fresh) none
    have yields := follow_completing_page valid (emptyPage_canonical call.fresh reads)
    rw [← agent] at yields
    have concluded : concludingWrites p (preparedScan call (buildAssuranceScanRequest call.fresh)
        (scanContent call.fresh)) call.later ⟨.completed, "task-1", newId "context" call.fresh.context,
          some ⟨emptyPage call.fresh, none, "page-1"⟩, none⟩ =
        .ok (clearedWrites, ⟨"Task Completed", "Completed", false⟩) := by
      simp only [concludingWrites, agent, if_true]
      exact Checks.seq_ok.mpr ⟨checked, rfl⟩
    exact canComplete_of_yields valid (sends request ⟨rfl, rfl⟩) yields concluded
  · have request : prepareRequest p t.session call = .ok (prepareText t.session call none
        (textOf (t.session .a2aContextId)) none) := by
      simp [prepareRequest, assurance, free, startingStateOf]
    have agent : (prepareText t.session call none (textOf (t.session .a2aContextId))
        none).isAssuranceAgent = false := by
      simpa [Prepared.isAssuranceAgent, prepareText] using assurance
    have valid := request_context context request
    have yields : ((newStream false _).follow p (completingEvents _ none)).outcome = _ :=
      follow_completing valid
    have concluded : ∀ contextId, concludingWrites p (prepareText t.session call none
        (textOf (t.session .a2aContextId)) none) call.later
          ⟨.completed, "task-1", contextId, none, none⟩ =
        .ok (clearedWrites, ⟨"Task Completed", "Completed", false⟩) := by
      intro contextId
      simp only [concludingWrites, agent]
      rfl
    rw [← agent] at yields
    exact canComplete_of_yields valid (sends request ⟨rfl, rfl⟩) yields (concluded _)

/-! A thread that holds a task that is not waiting for input is stuck. -/

@[simp] theorem HostError.answer_status (e : HostError) : e.answer.status = "Task Error" := by
  cases e <;> rfl

theorem answer_of_not_sent {p : Python} {connections : Connections} {t : Thread} {call : Call}
    (unsent : ∀ r stream, ¬ Sends p connections t call r stream) (events : List StreamEvent) :
    (sendTask p connections t call events).answer.status = "Task Error" := by
  cases prepared : prepare p connections t call with
  | error e => simp [sendTask, startTask, prepared]
  | ok pair =>
    obtain ⟨connection, r⟩ := pair
    cases opened : openStream connection r with
    | ok stream => exact absurd ⟨connection, prepared, opened⟩ (unsent r stream)
    | error e => simp [sendTask, startTask, prepared, opened, updateState]

/-- No call completes on a thread that holds a task of an agent when the task does not wait for
input: another agent is refused, and the stream of the same agent is not followed. -/
theorem answer_of_held_task (p : Python) (connections : Connections) {t : Thread} {taskId : String}
    (task : textOf (t.session .taskId) = some taskId)
    (status : t.session .taskStatus ≠ .str "input_needed") (call : Call)
    (events : List StreamEvent) :
    (sendTask p connections t call events).answer.status = "Task Error" := by
  by_cases sent : ∃ r stream, Sends p connections t call r stream
  · obtain ⟨r, stream, sends⟩ := sent
    obtain ⟨connection, prepared, opened⟩ := id sends
    have unwaiting : startingStateOf t.session = none := by simp [startingStateOf, status]
    have continued : r.taskId = some taskId ∧ r.startingState = none := by
      rcases prepareRequest_cases (prepare_ok.mp prepared).2.2.2.2 with ⟨_, free, _⟩ |
        ⟨_, _, _, _, _, _, _, waiting, _⟩ | ⟨_, rfl⟩
      · rw [task] at free
        cases free
      · rw [unwaiting] at waiting
        cases waiting
      · exact ⟨task, unwaiting⟩
    obtain ⟨expected, _, state⟩ := openStream_ok opened
    have silent := Stream.follow_untracked (p := p) (by rw [expected, continued.1]; simp)
      (by rw [state, continued.2]) events
    rw [sendTask_of_sends sends, silent]
    rfl
  · exact answer_of_not_sent (fun r stream sends => sent ⟨r, stream, sends⟩) events

/-! Runs. -/

/-- After every run of calls that end clean, a call that is over leaves the thread to any available
agent: the next call is routed, its stream follows the task from the first event, and it can
complete. -/
theorem next_call_can_complete {p : Python} {connections : Connections} {start : Thread}
    (new : start.session = Session.empty) (acts : List Act) (call : Call)
    (events : List StreamEvent) (commits : Bool)
    (clean : Runs.Along (act p connections) (EndsClean p connections) start
      (acts ++ [.task call events commits]))
    (ended : Ended p connections (Runs.run (act p connections) start acts) call events)
    (next : Call) (available : connections.lookup next.agentName = some ⟨true, true⟩)
    (reads : next.agentName = assuranceAgentName → p.ReadsBack next.fresh.now) :
    CanComplete p connections
      (Runs.run (act p connections) start (acts ++ [.task call events commits])) next := by
  have context : IsContext ((Runs.run (act p connections) start acts).session .a2aContextId) := by
    refine Runs.run_invariant (act p connections)
      (P := fun t => IsContext (t.session .a2aContextId)) (act_context p connections) ?_ acts
    rw [new]
    exact isContext_null
  have last := ((Runs.along_append (act p connections) start acts _).mp clean).2.1
  rw [Runs.run_append]
  obtain ⟨⟨r, stream, connection, prepared, _⟩, _⟩ := id ended
  obtain ⟨named, target, _⟩ := prepare_ok.mp prepared
  have freed := sendTask_frees ended last
  have after := act_context p connections _ (.task call events commits) context
  refine completes_of_free ?_ after named target available reads
  cases commits with
  | true => exact freed.2
  | false => exact freed.1

theorem sample_ended {state : TaskState} (isOver : state = .completed ∨ state = .failed) :
    Ended Python.ascii sampleConnections sampleThread sampleCall (sampleEvents state) := by
  refine ⟨⟨_, _, sample_sends⟩, ?_⟩
  rintro r outcome ⟨stream, sends, yields, _⟩ asks
  obtain ⟨rfl, rfl⟩ := sample_sends.unique sends
  have known : (sampleStream.follow Python.ascii (sampleEvents state)).outcome =
      some (sampleOutcome state) := by
    rcases isOver with rfl | rfl <;> rfl
  have same : state = .inputRequired := by
    rw [← asks, ← Option.some.inj (known.symm.trans yields)]
    rfl
  rcases isOver with rfl | rfl <;> cases same

theorem ascii_readsBack : Python.ascii.ReadsBack sampleFresh.now := by
  have text : isoText "+00:00" sampleFresh.now = "2026-01-01T00:00:00+00:00" := by decide
  rw [Python.ReadsBack, text]
  rfl

theorem next_call_can_complete_sample :
    CanComplete Python.ascii sampleConnections
      (Runs.run (act Python.ascii sampleConnections) sampleThread
        ([] ++ [.task sampleCall (sampleEvents .completed) true]))
      { sampleCall with agentName := assuranceAgentName } := by
  refine next_call_can_complete rfl [] sampleCall (sampleEvents .completed) true ?_
    (sample_ended (.inl rfl)) _ (by rfl) fun _ => ascii_readsBack
  refine ⟨?_, trivial⟩
  intro r stream sends
  obtain ⟨rfl, rfl⟩ := sample_sends.unique sends
  exact .inl ⟨sampleOutcome .completed, ⟨sampleStream, sample_sends, by rfl, by rfl⟩, .inl rfl⟩

/-- A task that failed blocks its thread: the next call to any agent, whatever its stream yields,
ends in an error. -/
theorem failed_task_blocks_thread :
    Ended Python.ascii sampleConnections sampleThread sampleCall (sampleEvents .failed) ∧
    ∀ commits next events, (sendTask Python.ascii sampleConnections
      (act Python.ascii sampleConnections sampleThread
        (.task sampleCall (sampleEvents .failed) commits)) next events).answer.status =
      "Task Error" := by
  refine ⟨sample_ended (.inr rfl), ?_⟩
  intro commits next events
  have held : textOf ((act Python.ascii sampleConnections sampleThread
      (.task sampleCall (sampleEvents .failed) commits)).session .taskId) = some "task-1" := by
    cases commits <;> rfl
  refine answer_of_held_task _ _ held ?_ next events
  cases commits
  · exact (show Json.str "failed" ≠ .str "input_needed" by decide)
  · exact (show Json.str "running" ≠ .str "input_needed" by decide)

end NetworkAgent.Supervisor
