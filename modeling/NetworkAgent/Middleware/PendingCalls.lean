import NetworkAgent.Library.Programs
import NetworkAgent.Cloud.Outbox

/-! The pending tool calls of one thread, in the state of its session. A read and an append of
the session service are single operations; every caller is a program of these. -/
namespace NetworkAgent.Middleware

structure SessionState where
  pendingToolCalls : List String := []
  pendingToolCallNames : Table String String := ∅
  /-- The other keys. -/
  other : List (String × Json) := []
  deriving DecidableEq

structure StateDelta where
  pendingToolCalls : Option (List String) := none
  pendingToolCallNames : Option (Table String String) := none
  other : List (String × Json) := []
  deriving DecidableEq

def SessionState.apply (s : SessionState) (delta : StateDelta) : SessionState where
  pendingToolCalls := delta.pendingToolCalls.getD s.pendingToolCalls
  pendingToolCallNames := delta.pendingToolCallNames.getD s.pendingToolCallNames
  other := delta.other.foldl (fun fields field => Json.set field.1 field.2 fields) s.other

/-- What a write is for: with the list it was computed from where it writes the pending calls. -/
inductive Purpose where
  | other
  | add (basis : List String) (toolCallId : String)
  | remove (basis : List String) (toolCallId : String)
  deriving DecidableEq

inductive Op where
  | get
  | append (delta : StateDelta) (purpose : Purpose)
  deriving DecidableEq

@[reducible] def Op.Answer : Op → Type
  | .get => SessionState
  | .append _ _ => Bool

/-- The session, and what was added to the pending calls and removed from them. -/
structure Session where
  state : SessionState := {}
  added : List String := []
  removed : List String := []
  deriving DecidableEq

def Session.record (s : Session) : Purpose → Session
  | .other => s
  | .add _ x => { s with added := x :: s.added }
  | .remove _ x => { s with removed := x :: s.removed }

def Session.exec (s : Session) (fails : Bool) : (op : Op) → op.Answer × Session
  | .get => (s.state, s)
  | .append delta purpose =>
    if fails then (false, s) else (true, { s with state := s.state.apply delta }.record purpose)

abbrev Awaiting (α : Type) := ExceptT String (Program Op Op.Answer) α

def getSession : Awaiting SessionState := Program.ask Op.get

def appendEvent (delta : StateDelta) (purpose : Purpose) : Awaiting Bool :=
  Program.ask (Op.append delta purpose)

def updateSessionState (delta : StateDelta) (purpose : Purpose) : Awaiting Bool := do
  let _ ← getSession
  if delta = {} then return false
  appendEvent delta purpose

/-- The name of a call is kept beside it. -/
def nameToolCall (toolCallId : String) (toolName : Option String) : Awaiting Unit :=
  match toolName with
  | none => return ()
  | some name =>
    if name = "" then return () else do
      let s ← getSession
      let names := s.pendingToolCallNames.insert toolCallId name
      let _ ← updateSessionState { pendingToolCallNames := some names } .other
      return ()

/-- `_add_pending_tool_call_with_context`. -/
def addPendingToolCall (toolCallId : String) (toolName : Option String) : Awaiting Unit := do
  let s ← getSession
  let basis := s.pendingToolCalls
  if toolCallId ∈ basis then nameToolCall toolCallId toolName else
    let _ ← updateSessionState { pendingToolCalls := some (basis ++ [toolCallId]) }
      (.add basis toolCallId)
    nameToolCall toolCallId toolName

def addPendingToolCalls : List (String × Option String) → Awaiting Unit
  | [] => return ()
  | (toolCallId, toolName) :: rest => do
    addPendingToolCall toolCallId toolName
    addPendingToolCalls rest

def forgetName (toolCallId : String) : Awaiting Bool := do
  let s ← getSession
  if toolCallId ∈ s.pendingToolCallNames then
    let names := s.pendingToolCallNames.erase toolCallId
    let _ ← updateSessionState { pendingToolCallNames := some names } .other
    return true
  else return true

def removePendingToolCall (toolCallId : String) : Awaiting Bool := do
  let s ← getSession
  let basis := s.pendingToolCalls
  if toolCallId ∈ basis then
    let success ← updateSessionState { pendingToolCalls := some (basis.erase toolCallId) }
      (.remove basis toolCallId)
    if success then forgetName toolCallId else return false
  else return false

/-- The text before the first `::` and the text after it. -/
def splitBinding : List Char → Option (List Char × List Char)
  | ':' :: ':' :: rest => some ([], rest)
  | c :: rest => (splitBinding rest).map fun parts => (c :: parts.1, parts.2)
  | [] => none

def decodeToolCall (sessionId toolCallId : String) : Except String String :=
  match splitBinding toolCallId.toList with
  | none => .error "tool call binding is invalid"
  | some (original, threadId) =>
    if sessionId = "" ∨ (splitBinding threadId).isSome then .error "tool call binding is invalid"
    else if original = [] ∨ String.ofList threadId ≠ sessionId then
      .error "tool call belongs to another thread"
    else .ok (String.ofList original)

def usableName (name : Option String) : Except String String :=
  match name with
  | none => .error "pending tool call name is unavailable"
  | some name =>
    if name = "" ∨ name ≠ strip name ∨ name.toList.map Cloud.lowerAscii = "unknown".toList then
      .error "pending tool call name is unavailable"
    else .ok name

/-- What a tool result goes on with: the messages of the run input, built from the name that
was seen when the call became pending. -/
structure Continuation where
  threadId : String
  runId : String
  toolCallId : String
  toolName : String
  content : String
  deriving DecidableEq

/-- `handle_tool_result`, for a thread whose session is known. -/
def handleToolResult (sessionId toolCallId content : String) : Awaiting Continuation := do
  let original ← Program.attempt (decodeToolCall sessionId toolCallId)
  let s ← getSession
  if toolCallId ∈ s.pendingToolCalls then
    let s ← getSession
    let name ← Program.attempt (usableName (s.pendingToolCallNames.lookup toolCallId))
    let removed ← removePendingToolCall toolCallId
    if removed then
      return ⟨sessionId, "tool_result_" ++ original, original, name, content⟩
    else throw "pending tool call could not be consumed"
  else throw "tool call is not pending for this thread"

/-- What may run on the thread. -/
inductive Caller where
  | toolResult (sessionId toolCallId content : String)
  | run (toolCalls : List (String × Option String))
  | read
  | update (other : List (String × Json))
  deriving DecidableEq

def Caller.code : Caller → Program Op Op.Answer (Except String (Option Continuation))
  | .toolResult sessionId toolCallId content =>
    (some <$> handleToolResult sessionId toolCallId content : Awaiting (Option Continuation))
  | .run toolCalls =>
    ((fun _ => none) <$> addPendingToolCalls toolCalls : Awaiting (Option Continuation))
  | .read => ((fun _ => none) <$> getSession : Awaiting (Option Continuation))
  | .update other =>
    ((fun _ => none) <$> updateSessionState { other } .other : Awaiting (Option Continuation))

abbrev Thread := Program.System Session Caller Op Op.Answer (Except String (Option Continuation))

abbrev ThreadMove := Program.Move Caller Bool

/-- The thread after a list of moves; a step says whether an append fails. -/
def Thread.run (start : SessionState) (moves : List ThreadMove) : Thread :=
  Program.System.run Session.exec Caller.code ⟨{ state := start }, []⟩ moves

end NetworkAgent.Middleware
