import NetworkAgent.Supervisor.Confirmation

/-! One request to a remote agent: the machine that tracks the task of the stream, and the
consumer that feeds it event by event. -/
namespace NetworkAgent.Supervisor

def assuranceAgentName : String := "Local Assurance Agent"
def maxStreamEvents : Nat := 256

/-- The states of a remote task. -/
inductive TaskState where
  | submitted | working | inputRequired | completed | failed | canceled | rejected | authRequired
  | unknown
  deriving DecidableEq

namespace TaskState

/-- `_state_name`. -/
def name : TaskState → String
  | submitted => "submitted"
  | working => "working"
  | inputRequired => "input_required"
  | completed => "completed"
  | failed => "failed"
  | canceled => "canceled"
  | rejected => "rejected"
  | authRequired => "auth_required"
  | unknown => "unknown"

/-- `_TERMINAL_STREAM_STATES`: the states that end or interrupt a stream. -/
def terminal : TaskState → Bool
  | inputRequired | completed | failed | canceled | rejected => true
  | submitted | working | authRequired | unknown => false

/-- `_KNOWN_STREAM_STATES`. -/
def known (s : TaskState) : Bool := s.terminal || s == submitted || s == working

end TaskState

/-- Why a stream is given up: a rejected content, a broken protocol, or an error on the way. -/
inductive StreamError where
  | content (e : ContentError)
  | protocol (message : String)
  | transport
  deriving DecidableEq

abbrev Tracked := Except StreamError

def streamId (name : String) (value : String) : Tracked String := do
  Checks.require (value ≠ "" ∧ value.length ≤ maxIdChars)
    (.protocol ("invalid " ++ name ++ " identifier"))
  return value

structure RemoteStreamOutcome where
  state : TaskState
  taskId : String
  contextId : String
  content : Option CanonicalContent := none
  text : Option String := none

/-- `RemoteStreamStateMachine`. -/
structure Machine where
  taskId : Option String
  contextId : Option String
  state : Option TaskState
  content : Option CanonicalContent := none
  finished : Bool := false

namespace Machine

def normalizedState (state : TaskState) : Tracked TaskState := do
  Checks.require state.known (.protocol "unknown task state")
  return state

def create (expectedTaskId expectedContextId : Option String) (startingState : Option TaskState) :
    Tracked Machine := do
  let taskId ← expectedTaskId.mapM (streamId "task")
  let contextId ← expectedContextId.mapM (streamId "context")
  let state ← startingState.mapM normalizedState
  return { taskId, contextId, state }

def bind (m : Machine) (taskId contextId : String) : Tracked Machine := do
  let task ← streamId "task" taskId
  let context ← streamId "context" contextId
  Checks.require (Agrees m.taskId (some task)) (.protocol "task identifier mismatch")
  Checks.require (Agrees m.contextId (some context)) (.protocol "context identifier mismatch")
  return { m with taskId := some task, contextId := some context }

def observeTask (m : Machine) (taskId contextId : String) (state : TaskState) : Tracked Machine := do
  Checks.require (m.finished = false ∧ m.state = none) (.protocol "duplicate or out-of-order Task")
  let m ← m.bind taskId contextId
  let normalized ← normalizedState state
  Checks.require (normalized = .submitted) (.protocol "initial Task must be submitted")
  return { m with state := some normalized }

def observeArtifact (m : Machine) (taskId contextId : String) (content : Option CanonicalContent) :
    Tracked Machine := do
  Checks.require (m.finished = false ∧ m.state ≠ none)
    (.protocol "artifact arrived outside an active task")
  let m ← m.bind taskId contextId
  Checks.require (m.state = some .working ∨ m.state = some .inputRequired)
    (.protocol "artifact arrived in an invalid task state")
  return { m with content := content <|> m.content }

def Active (m : Machine) : Prop :=
  m.state = some .submitted ∨ m.state = some .working ∨ m.state = some .inputRequired

instance (m : Machine) : Decidable m.Active := inferInstanceAs (Decidable (_ ∨ _))

def observeStatus (m : Machine) (taskId contextId : String) (state : TaskState) (final : Bool)
    (content : Option CanonicalContent) : Tracked Machine := do
  Checks.require (m.finished = false ∧ m.state ≠ none)
    (.protocol "status arrived outside an active task")
  let m ← m.bind taskId contextId
  let normalized ← normalizedState state
  Checks.require (normalized ≠ .submitted) (.protocol "duplicate submitted status")
  if normalized = .working then
    Checks.require (final = false ∧ m.Active) (.protocol "invalid working status transition")
    return { m with content := content <|> m.content, state := some normalized }
  else
    Checks.require (final = true) (.protocol "terminal or interrupt status must be final")
    Checks.require m.Active (.protocol "invalid terminal status transition")
    return { m with content := content <|> m.content, state := some normalized, finished := true }

def finish (m : Machine) (text : Option String) : Tracked RemoteStreamOutcome :=
  let unexpected : Tracked RemoteStreamOutcome :=
    .error (.protocol "unexpected EOF before an explicit final status")
  match m.finished, m.state, m.taskId, m.contextId with
  | true, some state, some taskId, some contextId =>
    if state.terminal then .ok ⟨state, taskId, contextId, m.content, text⟩ else unexpected
  | _, _, _, _ => unexpected

end Machine

/-- One event of a stream. -/
inductive StreamEvent where
  | task (id contextId : String) (state : TaskState)
  | artifact (taskId contextId : String) (artifact : Content)
  | status (taskId contextId : String) (state : TaskState) (final : Bool) (message : Option Content)
  /-- An error response, or an event of another kind. -/
  | other (message : String)

def contentOr {α : Type} (x : Check α) : Tracked α := match x with
  | .ok a => .ok a
  | .error e => .error (.content e)

def canonicalType (expected : List MessageType) (content : CanonicalContent) :
    Check CanonicalContent := do
  Checks.require (field "message_type" content.data ∈ expected.map fun t => Json.str t.value)
    (.invalid "unexpected assurance payload type")
  return content

/-- `_status_content`: the text to show and the payload of a status. -/
def statusContent (p : Python) (isAssuranceAgent : Bool) (state : TaskState)
    (message : Option Content) (taskId contextId : String) :
    Check (Option String × Option CanonicalContent) :=
  match message with
  | none =>
    if isAssuranceAgent ∧ state = .inputRequired then
      .error (.invalid "assurance input_required is missing its DataPart")
    else .ok (none, none)
  | some message =>
    let display : Check (Option String × Option CanonicalContent) := do
      let text ← decodeDisplayParts p message (some taskId) (some contextId)
      return (some text, none)
    let canonical (expected : List MessageType) : Check (Option String × Option CanonicalContent) := do
      let decoded ← decodeCanonicalParts p message (some taskId) (some contextId)
      let content ← canonicalType expected decoded
      return (content.text, some content)
    if isAssuranceAgent ∧ state = .inputRequired then canonical [.candidatePage]
    else if isAssuranceAgent ∧ (state = .failed ∨ state = .rejected) then
      match canonical [.error] with
      | .error (.invalid _) => display
      | result => result
    else display

/-- The payload of an artifact; that of another agent is only shown. -/
def artifactContent (p : Python) (isAssuranceAgent : Bool) (artifact : Content) :
    Check (Option CanonicalContent) :=
  if isAssuranceAgent then do
    let decoded ← decodeCanonicalParts p artifact
    let content ← canonicalType [.candidatePage, .confirmationResult, .error] decoded
    return some content
  else do
    let _ ← decodeDisplayParts p artifact
    return none

structure Stream where
  isAssuranceAgent : Bool
  expectedTaskId : Option String
  expectedContextId : Option String
  machine : Machine
  eventCount : Nat := 0

/-- What one event leads to: the task to write down, and the outcome when the stream is over. -/
structure Reaction where
  stream : Stream
  observedTask : Option (String × String) := none
  outcome : Option RemoteStreamOutcome := none

namespace Stream

/-- The first event of a new task goes to the machine; on a continuation it only repeats what is
known, and the machine does not see it. -/
def trackTask (s : Stream) (id contextId : String) (state : TaskState) : Tracked Machine :=
  match s.expectedTaskId with
  | none => s.machine.observeTask id contextId state
  | some expected => do
    Checks.require (id = expected) (.protocol "task identifier mismatch")
    Checks.require (s.expectedContextId = some contextId) (.protocol "context identifier mismatch")
    return s.machine

def onTask (s : Stream) (id contextId : String) (state : TaskState) : Tracked Reaction := do
  let machine ← s.trackTask id contextId state
  return { stream := { s with machine }, observedTask := some (id, contextId) }

def onArtifact (p : Python) (s : Stream) (taskId contextId : String) (artifact : Content) :
    Tracked Reaction := do
  let content ← contentOr (artifactContent p s.isAssuranceAgent artifact)
  let machine ← s.machine.observeArtifact taskId contextId content
  return { stream := { s with machine } }

def onStatus (p : Python) (s : Stream) (taskId contextId : String) (state : TaskState)
    (final : Bool) (message : Option Content) : Tracked Reaction := do
  let (text, content) ← contentOr (statusContent p s.isAssuranceAgent state message taskId contextId)
  let machine ← s.machine.observeStatus taskId contextId state final content
  let stream := { s with machine }
  if state.terminal then
    let outcome ← machine.finish text
    return { stream, outcome := some outcome }
  else return { stream }

def observe (p : Python) (s : Stream) (event : StreamEvent) : Tracked Reaction := do
  Checks.require (s.eventCount < maxStreamEvents) (.protocol "remote stream event limit exceeded")
  let s := { s with eventCount := s.eventCount + 1 }
  match event with
  | .task id contextId state => s.onTask id contextId state
  | .artifact taskId contextId artifact => s.onArtifact p taskId contextId artifact
  | .status taskId contextId state final message => s.onStatus p taskId contextId state final message
  | .other message => .error (.protocol message)

end Stream

end NetworkAgent.Supervisor
