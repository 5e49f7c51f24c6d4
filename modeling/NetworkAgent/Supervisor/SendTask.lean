import NetworkAgent.Supervisor.Approvals

/-! One call of `send_task` from its start to its return, when every update of the state
succeeds, and the state the thread is left in once the runtime of the model has appended what the
tool assigned. -/
namespace NetworkAgent.Supervisor

def consume (p : Python) (s : Session) (flight : Flight) : List StreamEvent → Session × Answer
  | [] => (s, HostError.supervisor.answer)
  | event :: later => match meetEvent p s flight event none with
    | (s, .returned answer) => (s, answer)
    | (s, .waiting flight) => consume p s flight later

structure Returned where
  session : Session
  stateDelta : List Write
  request : Option Content
  answer : Answer

/-- `send_task`, with the events its stream yields. -/
def sendTask (p : Python) (connections : Connections) (t : Thread) (call : Call)
    (events : List StreamEvent) : Returned :=
  let start := startTask p connections t call none
  match start.progress with
  | .returned answer => ⟨start.session, start.stateDelta, start.request, answer⟩
  | .waiting flight =>
    let (session, answer) := consume p start.session flight events
    ⟨session, start.stateDelta, start.request, answer⟩

/-- What the tool assigned is appended to the session after the call has returned. -/
def Returned.committed (r : Returned) : Session := r.session.writeAll r.stateDelta

/-! What a stream yields by itself. -/

structure Yield where
  tasks : List (String × String) := []
  outcome : Option RemoteStreamOutcome := none

/-- `send_streaming_task`, without the state it writes. -/
def Stream.follow (p : Python) (s : Stream) : List StreamEvent → Yield
  | [] => {}
  | event :: later => match s.observe p event with
    | .error _ => {}
    | .ok reaction => match reaction.observedTask, reaction.outcome with
      | some task, _ =>
        let rest := reaction.stream.follow p later
        { rest with tasks := task :: rest.tasks }
      | none, some outcome => { outcome }
      | none, none => reaction.stream.follow p later

def observedWrites (agentName : String) (tasks : List (String × String)) : List Write :=
  tasks.flatMap fun task => taskWrites agentName task.1 task.2

@[simp] theorem observedWrites_nil (agentName : String) : observedWrites agentName [] = [] := rfl

@[simp] theorem observedWrites_cons (agentName : String) (task : String × String)
    (tasks : List (String × String)) : observedWrites agentName (task :: tasks) =
      taskWrites agentName task.1 task.2 ++ observedWrites agentName tasks := rfl

theorem Session.writeAll_append (s : Session) (first later : List Write) :
    s.writeAll (first ++ later) = (s.writeAll first).writeAll later := List.foldl_append

def concludeWith (p : Python) (s : Session) (prepared : Prepared) (later : Fresh) :
    Option RemoteStreamOutcome → Session × Answer
  | none => (s, HostError.supervisor.answer)
  | some outcome => match concludingWrites p prepared later outcome with
    | .error e => (s, e.answer)
    | .ok (values, answer) => (s.writeAll values, answer)

theorem consume_eq (p : Python) (s : Session) (flight : Flight) (events : List StreamEvent) :
    consume p s flight events =
      concludeWith p
        (s.writeAll (observedWrites flight.prepared.agentName (flight.stream.follow p events).tasks))
        flight.prepared flight.later (flight.stream.follow p events).outcome := by
  induction events generalizing s flight with
  | nil => rfl
  | cons event later ih =>
    cases met : flight.stream.observe p event with
    | error e => simp [consume, meetEvent, Stream.follow, met, concludeWith, Session.writeAll]
    | ok reaction =>
      cases task : reaction.observedTask with
      | some task' =>
        simp only [consume, meetEvent, Stream.follow, met, task, updateState, if_true, ih,
          observedWrites_cons, Session.writeAll_append]
      | none =>
        cases isOver : reaction.outcome with
        | none => simp [consume, meetEvent, Stream.follow, met, task, isOver, ih]
        | some outcome =>
          simp only [consume, meetEvent, Stream.follow, met, task, isOver, conclude, updateState,
            observedWrites_nil, concludeWith, Session.writeAll, List.foldl_nil]
          cases concludingWrites p flight.prepared flight.later outcome <;> rfl

/-! The request of a call and the outcome of its stream. -/

/-- The call is sent: the request that is prepared, and the stream that answers it. -/
def Sends (p : Python) (connections : Connections) (t : Thread) (call : Call) (r : Prepared)
    (stream : Stream) : Prop :=
  ∃ connection, prepare p connections t call = .ok (connection, r) ∧
    openStream connection r = .ok stream

theorem Sends.unique {p : Python} {connections : Connections} {t : Thread} {call : Call}
    {r r' : Prepared} {stream stream' : Stream} (sends : Sends p connections t call r stream)
    (again : Sends p connections t call r' stream') : r' = r ∧ stream' = stream := by
  obtain ⟨connection, prepared, opened⟩ := sends
  obtain ⟨connection', prepared', opened'⟩ := again
  rw [prepared] at prepared'
  cases prepared'
  exact ⟨rfl, Except.ok.inj (opened'.symm.trans opened)⟩

theorem sendTask_of_sends {p : Python} {connections : Connections} {t : Thread} {call : Call}
    {r : Prepared} {stream : Stream} (sends : Sends p connections t call r stream)
    (events : List StreamEvent) :
    sendTask p connections t call events =
      let ended := concludeWith p ((t.session.writeAll r.early).writeAll
        (observedWrites r.agentName (stream.follow p events).tasks)) r call.later
        (stream.follow p events).outcome
      ⟨ended.1, r.stateDelta, some r.request, ended.2⟩ := by
  obtain ⟨connection, prepared, opened⟩ := sends
  simp [sendTask, startTask, prepared, opened, updateState, consume_eq]

theorem sendTask_of_not_sent {p : Python} {connections : Connections} {t : Thread} {call : Call}
    (unsent : ∀ r stream, ¬ Sends p connections t call r stream) (events : List StreamEvent) :
    ((∃ e, prepare p connections t call = .error e) ∧
      (sendTask p connections t call events).session = t.session ∧
      (sendTask p connections t call events).stateDelta = []) ∨
    ∃ connection r, prepare p connections t call = .ok (connection, r) ∧
      (sendTask p connections t call events).session = t.session.writeAll r.early ∧
      (sendTask p connections t call events).stateDelta = r.stateDelta := by
  cases prepared : prepare p connections t call with
  | error e => exact .inl ⟨⟨e, rfl⟩, by simp [sendTask, startTask, prepared]⟩
  | ok pair =>
    obtain ⟨connection, r⟩ := pair
    cases opened : openStream connection r with
    | ok stream => exact absurd ⟨connection, prepared, opened⟩ (unsent r stream)
    | error e =>
      exact .inr ⟨connection, r, rfl, by simp [sendTask, startTask, prepared, opened, updateState]⟩

def Accepts (p : Python) (connections : Connections) (t : Thread) (call : Call)
    (events : List StreamEvent) (r : Prepared) (outcome : RemoteStreamOutcome) : Prop :=
  ∃ stream, Sends p connections t call r stream ∧
    (stream.follow p events).outcome = some outcome ∧
    (concludingWrites p r call.later outcome).isOk = true

/-! A thread with one agent besides the assurance agent. -/

def sampleUuid : Uuid where
  hex := "0123456789abcdef0123456789abcdef"
  length := by decide
  digits := by decide

def sampleFresh : Fresh where
  message := sampleUuid
  workflow := sampleUuid
  trace := sampleUuid
  key := sampleUuid
  context := sampleUuid
  now := 1767225600000000

def sampleConnections : Connections := [("RCA Agent", {}), (assuranceAgentName, {})]

def sampleThread : Thread where
  threadId := "thread-1"
  owner := some "socket-1"
  sockets := ["socket-1"]

def sampleCall : Call where
  agentName := "RCA Agent"
  message := "分析最近的故障。"
  fresh := sampleFresh
  later := sampleFresh

def sampleContext : String := newId "context" sampleUuid

def sampleEvents (state : TaskState) : List StreamEvent :=
  [.task "task-1" sampleContext .submitted, .status "task-1" sampleContext state true none]

def samplePrepared : Prepared :=
  prepareText Session.empty sampleCall none none none

def sampleOutcome (state : TaskState) : RemoteStreamOutcome := ⟨state, "task-1", sampleContext, none, none⟩

def sampleStream : Stream where
  isAssuranceAgent := false
  expectedTaskId := none
  expectedContextId := some sampleContext
  machine := { taskId := none, contextId := some sampleContext, state := none }

theorem sample_sends :
    Sends Python.ascii sampleConnections sampleThread sampleCall samplePrepared sampleStream :=
  ⟨{}, prepare_ok.mpr ⟨by decide, ⟨"socket-1", by rfl⟩, by rfl, .inl rfl, by rfl⟩, by rfl⟩

end NetworkAgent.Supervisor
