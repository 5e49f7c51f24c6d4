import NetworkAgent.Middleware.ToolCalls

/-! The event stream of one run: the translator with its open text message, the background task
with its queue, and the consumer that reads the queue. A run that is cancelled is left out. -/
namespace NetworkAgent.Middleware

structure StreamedEvent extends AdkEvent where
  id : String := ""
  isPartial : Bool := false
  inputRequired : Bool := false
  stateDelta : List (String × Json) := []
  customData : Option Json := none
  deriving DecidableEq

inductive AgUiEvent where
  | runStarted (threadId runId : String)
  | runFinished (threadId runId : String)
  | runError (message code : String)
  | textMessageStart (messageId : String)
  | textMessageContent (messageId delta : String)
  | textMessageEnd (messageId : String)
  | toolCall (event : ToolEvent)
  | stateDelta (delta : List Json)
  | stateSnapshot (snapshot : List (String × Json))
  | custom (name : String) (value : Json)
  deriving DecidableEq

def StreamedEvent.textParts (e : StreamedEvent) : List String :=
  e.parts.filterMap fun part => match part with
    | .text text => if text = "" then none else some text
    | _ => none

def createStateDeltaEvent (stateDelta : List (String × Json)) : AgUiEvent :=
  .stateDelta (stateDelta.map fun (key, value) =>
    .obj [("op", .str "add"), ("path", .str ("/" ++ key)), ("value", value)])

def StreamedEvent.changes (e : StreamedEvent) : List AgUiEvent :=
  (if e.stateDelta = [] then [] else [createStateDeltaEvent e.stateDelta]) ++
    (e.customData.map (.custom "adk_metadata")).toList

structure Translator where
  /-- The message that is open. -/
  streamingMessageId : Option String := none
  longRunningToolIds : List String := []
  /-- How many message ids it has made. -/
  made : Nat := 0
  deriving DecidableEq

namespace Translator

/-- `force_close_streaming_message`. -/
def forceClose (t : Translator) : List AgUiEvent × Translator :=
  match t.streamingMessageId with
  | some id => ([.textMessageEnd id], { t with streamingMessageId := none })
  | none => ([], t)

/-- The open message, begun with a new id if there is none. -/
def beginMessage (newId : Nat → String) (t : Translator) : String × List AgUiEvent × Translator :=
  match t.streamingMessageId with
  | some id => (id, [], t)
  | none => (newId t.made, [.textMessageStart (newId t.made)],
      { t with streamingMessageId := some (newId t.made), made := t.made + 1 })

def wholeMessage (t : Translator) (e : StreamedEvent) : List AgUiEvent :=
  if t.streamingMessageId = none ∧ e.usageMetadata = false ∧ e.isPartial = false then
    [.textMessageStart e.id, .textMessageContent e.id (String.join e.textParts),
      .textMessageEnd e.id]
  else []

/-- `_translate_text_content`. Its last check sends no `END`: it asks for a final event or one
that requires input, and these have returned. -/
def translateTextContent (newId : Nat → String) (t : Translator) (e : StreamedEvent) :
    List AgUiEvent × Translator :=
  if e.textParts = [] then ([], t)
  else if e.isFinalResponse || e.inputRequired then
    (t.wholeMessage e ++ t.forceClose.1, t.forceClose.2)
  else
    let combinedText := String.join e.textParts
    let (id, start, t) := t.beginMessage newId
    (start ++ if combinedText = "" then [] else [.textMessageContent id combinedText], t)

def closeForCalls (t : Translator) (e : StreamedEvent) : List AgUiEvent × Translator :=
  if e.functionCalls = [] then ([], t) else t.forceClose

/-- `translate`. An error is only logged, and what is left of the event is not translated. -/
def translate (newId : Nat → String) (threadId : String) (t : Translator) (e : StreamedEvent) :
    List AgUiEvent × Translator :=
  if e.author = "user" then ([], t)
  else
    let text := t.translateTextContent newId e
    let closing := text.2.closeForCalls e
    let tools := (translateFunctionCalls threadId e.functionCalls).andThen
      (translateFunctionResponse t.longRunningToolIds e.functionResponses)
    (text.1 ++ closing.1 ++ tools.events.map .toolCall ++
      if tools.raised then [] else e.changes, closing.2)

/-- `translate_lro_function_calls`, and whether an error broke it off. -/
def translateLro (threadId : String) (t : Translator) (call : FunctionCall) :
    List AgUiEvent × Translator × Bool :=
  let emitted := emitCall threadId call
  (emitted.events.map .toolCall,
    { t with longRunningToolIds := t.longRunningToolIds ++ [encodeToolCall threadId call.id] },
    emitted.raised)

end Translator

inductive StreamStep where
  | event (event : StreamedEvent)
  | clientTool (functionCallId name : String) (args : Option String)
  deriving DecidableEq

/-- How the background task goes on after a step. -/
inductive Course where
  | goesOn | stopped | raised
  deriving DecidableEq

/-- Which events the background task gives to `translate`. -/
def StreamedEvent.translated (e : StreamedEvent) : Bool :=
  !e.isFinalResponse || (!e.usageMetadata && !e.parts.isEmpty)

/-- One step of `_run_adk_in_background`. -/
def Translator.background (newId : Nat → String) (threadId : String) (t : Translator) :
    StreamStep → List AgUiEvent × Translator × Course
  | .clientTool id name none => ([.toolCall (.start id name)], t, .raised)
  | .clientTool id name (some args) =>
    ([.toolCall (.start id name), .toolCall (.args id args), .toolCall (.finish id id)], t, .goesOn)
  | .event e =>
    if e.translated then
      let (events, t) := t.translate newId threadId e
      (events, t, .goesOn)
    else match longRunningCall e.toAdkEvent with
      | none => ([], t, .goesOn)
      | some call =>
        let (events, t, raised) := t.translateLro threadId call
        (events, t, if raised then .raised else .stopped)

/-- What ends a run that no long-running call stops. After the runner has ended, the message is
closed and the state of the session read. -/
inductive Ending where
  | finished (sessionState : List (String × Json))
  | raised (runnerEnded : Bool)
  /-- Nothing more happens until the execution has timed out. -/
  | stalled (runnerEnded : Bool)
  deriving DecidableEq

/-- How the queue ends. -/
inductive Completion where
  /-- By `None`. -/
  | signalled
  /-- The task has ended and put no `None`. -/
  | stopped
  | stalled
  deriving DecidableEq

def backgroundError : AgUiEvent :=
  .runError "后台代理执行失败，请稍后重试。" "BACKGROUND_EXECUTION_ERROR"

/-- The end of `_run_adk_in_background`. -/
def Translator.finish (t : Translator) : Ending → List AgUiEvent × Completion
  | .finished sessionState =>
    (t.forceClose.1 ++ if sessionState = [] then [] else [.stateSnapshot sessionState], .signalled)
  | .raised runnerEnded =>
    ((if runnerEnded then t.forceClose.1 else []) ++ [backgroundError], .signalled)
  | .stalled runnerEnded => (if runnerEnded then t.forceClose.1 else [], .stalled)

/-- `_run_adk_in_background`: what it puts into the queue. -/
def Translator.runAdkInBackground (newId : Nat → String) (threadId : String) :
    Translator → List StreamStep → Ending → List AgUiEvent × Completion
  | t, [], ending => t.finish ending
  | t, step :: rest, ending =>
    match t.background newId threadId step with
    | (events, t, .goesOn) =>
      let (later, completion) := runAdkInBackground newId threadId t rest ending
      (events ++ later, completion)
    | (events, _, .stopped) => (events, .stopped)
    | (events, _, .raised) => (events ++ [backgroundError], .signalled)

def timeoutError : AgUiEvent := .runError "Execution timed out" "EXECUTION_TIMEOUT"

/-- `_stream_events`. A consumer that finds the queue empty looks at the age of the execution
before it looks at the task. -/
def streamEvents (stale : Bool) : List AgUiEvent × Completion → List AgUiEvent
  | (events, .signalled) => events
  | (events, .stopped) => events ++ if stale then [timeoutError] else []
  | (events, .stalled) => events ++ [timeoutError]

structure AgentRun where
  threadId : String
  runId : String
  newId : Nat → String
  /-- An execution was started: the limit was not reached and nothing failed before. -/
  started : Bool := true
  steps : List StreamStep
  ending : Ending := .finished []
  /-- The execution has timed out when the consumer finds a queue that is empty for good. -/
  stale : Bool := false

/-- `_start_new_execution`: what a run yields. -/
def AgentRun.events (r : AgentRun) : List AgUiEvent :=
  .runStarted r.threadId r.runId ::
    if r.started then
      streamEvents r.stale
        (({} : Translator).runAdkInBackground r.newId r.threadId r.steps r.ending) ++
        [.runFinished r.threadId r.runId]
    else [.runError "代理执行失败，请稍后重试。" "EXECUTION_ERROR"]

end NetworkAgent.Middleware
