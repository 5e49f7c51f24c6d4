import NetworkAgent.Middleware.PendingCalls

/-! The tool calls of one run: what the translators and the client tools put into the queue, and
what is left pending at the end. Events that carry no tool call are left out. -/
namespace NetworkAgent.Middleware

/-- The arguments of a call: none, those that `json.dumps` writes, or others. -/
inductive Arguments where
  | none
  | dumped (text : String)
  | unserializable
  deriving DecidableEq

structure FunctionCall where
  id : String
  name : String
  args : Arguments := .none
  deriving DecidableEq

structure FunctionResponse where
  id : String
  name : String
  /-- As `json.dumps` writes it, if it does. -/
  response : Option String := some "{}"
  deriving DecidableEq

inductive Part where
  | text (text : String)
  | functionCall (call : FunctionCall)
  | functionResponse (response : FunctionResponse)
  deriving DecidableEq

structure AdkEvent where
  author : String
  isFinalResponse : Bool
  usageMetadata : Bool
  longRunningToolIds : List String := []
  parts : List Part
  deriving DecidableEq

namespace AdkEvent

def functionCalls (e : AdkEvent) : List FunctionCall :=
  e.parts.filterMap fun part => match part with | .functionCall call => some call | _ => none

def functionResponses (e : AdkEvent) : List FunctionResponse :=
  e.parts.filterMap fun part => match part with | .functionResponse r => some r | _ => none

end AdkEvent

/-- What the runner does next: it yields an event, or a client tool runs inside it. -/
inductive RunnerStep where
  | event (event : AdkEvent)
  | clientTool (functionCallId name : String) (args : Option String)
  deriving DecidableEq

/-- The end of a call names the function call it is about, which the client does not see. -/
inductive ToolEvent where
  | start (toolCallId toolCallName : String)
  | args (toolCallId delta : String)
  | finish (toolCallId call : String)
  | result (toolCallId content : String)
  deriving DecidableEq

def encodeToolCall (threadId id : String) : String := id ++ "::" ++ threadId

def internalSupervisorTools : List String := ["list_remote_agents"]

structure Emitted where
  events : List ToolEvent := []
  raised : Bool := false
  deriving DecidableEq

def Emitted.andThen (first second : Emitted) : Emitted :=
  if first.raised then first else ⟨first.events ++ second.events, second.raised⟩

/-- `START`, `ARGS` if there are any, and `END`. -/
def emitCall (threadId : String) (call : FunctionCall) : Emitted :=
  let toolCallId := encodeToolCall threadId call.id
  match call.args with
  | .none => ⟨[.start toolCallId call.name, .finish toolCallId call.id], false⟩
  | .dumped text =>
    ⟨[.start toolCallId call.name, .args toolCallId text, .finish toolCallId call.id], false⟩
  | .unserializable => ⟨[.start toolCallId call.name], true⟩

def translateFunctionCalls (threadId : String) : List FunctionCall → Emitted
  | [] => {}
  | call :: rest =>
    if call.name ∈ internalSupervisorTools then translateFunctionCalls threadId rest
    else (emitCall threadId call).andThen (translateFunctionCalls threadId rest)

def translateFunctionResponse (longRunning : List String) : List FunctionResponse → Emitted
  | [] => {}
  | r :: rest =>
    if r.name ∈ internalSupervisorTools ∨ r.id ∈ longRunning then
      translateFunctionResponse longRunning rest
    else match r.response with
      | none => ⟨[], true⟩
      | some content => Emitted.andThen ⟨[.result r.id content], false⟩
          (translateFunctionResponse longRunning rest)

/-- `translate`. Its errors are only logged. -/
def translate (threadId : String) (longRunning : List String) (e : AdkEvent) : List ToolEvent :=
  if e.author = "user" then []
  else ((translateFunctionCalls threadId e.functionCalls).andThen
    (translateFunctionResponse longRunning e.functionResponses)).events

def longRunningCall (e : AdkEvent) : Option FunctionCall :=
  e.functionCalls.find? fun call => call.id ∈ e.longRunningToolIds

/-- One step of `_run_adk_in_background`: the events for the queue, the long-running ids of the
translator, and whether the run goes on. -/
def background (threadId : String) (longRunning : List String) :
    RunnerStep → List ToolEvent × List String × Bool
  | .clientTool id name none => ([.start id name], longRunning, false)
  | .clientTool id name (some args) =>
    ([.start id name, .args id args, .finish id id], longRunning, true)
  | .event e =>
    if e.isFinalResponse = false ∨ e.usageMetadata = false ∧ e.parts ≠ [] then
      (translate threadId longRunning e, longRunning, true)
    else match longRunningCall e with
      | none => ([], longRunning, true)
      | some call => ((emitCall threadId call).events,
          longRunning ++ [encodeToolCall threadId call.id], false)

def runInBackground (threadId : String) :
    List String → List RunnerStep → List ToolEvent × List RunnerStep
  | _, [] => ([], [])
  | longRunning, step :: rest =>
    let (events, longRunning', goesOn) := background threadId longRunning step
    if goesOn then
      let (later, steps) := runInBackground threadId longRunning' rest
      (events ++ later, step :: steps)
    else (events, [step])

/-- The ids of the calls that have ended and whose result was not seen since. -/
def track (toolCallIds : List String) : ToolEvent → List String
  | .finish id _ => toolCallIds ++ [id]
  | .result id _ => toolCallIds.erase id
  | _ => toolCallIds

def nameOf (events : List ToolEvent) (toolCallId : String) : Option String :=
  events.foldl (fun name e => match e with
    | .start id toolName => if id = toolCallId then some toolName else name
    | _ => name) none

/-- What `_start_new_execution` leaves pending for the client. -/
def leftPending (events : List ToolEvent) : List (String × Option String) :=
  (events.foldl track []).map fun id => (id, nameOf events id)

def runAgent (threadId : String) (s : SessionState) (steps : List RunnerStep) : SessionState :=
  (Program.alone Session.exec false
    (addPendingToolCalls (leftPending (runInBackground threadId [] steps).1)) { state := s }).2.state

end NetworkAgent.Middleware
