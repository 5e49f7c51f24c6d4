import Mathlib.Logic.Function.Basic
import NetworkAgent.Supervisor.Stream

/-! What the host agent keeps of one thread of the user interface: the session, written key by
key, and the sockets that are connected to the thread. -/
namespace NetworkAgent.Supervisor

/-! The session. -/

/-- The keys `updateState` writes, in the order in which it writes them. -/
inductive Key where
  | agent | taskStatus | taskId | a2aContextId | workflowId | traceId | scanMessageId
  | scanIdempotencyKey | pendingAssurance | trustedAssuranceDecision
  deriving DecidableEq

/-- What the session holds under each key; a key that is missing reads as `None`. -/
abbrev Session := Key → Json

def Session.empty : Session := fun _ => .null

abbrev Write := Key × Json

def Session.write (s : Session) (w : Write) : Session := Function.update s w.1 w.2

def Session.writeAll (s : Session) (values : List Write) : Session := values.foldl Session.write s

/-- How a state update goes: all its keys are written, or it fails after some of them. -/
abbrev WriteFailure := Option Nat

/-- `updateState`: the keys are written one after the other, and a failure leaves the ones
before it written. -/
def updateState (failure : WriteFailure) (s : Session) (values : List Write) : Session × Bool :=
  match failure with
  | none => (s.writeAll values, true)
  | some written => (s.writeAll (values.take written), false)

/-! The thread and its sockets. -/

structure Connection where
  streaming : Bool := true
  hasClient : Bool := true

abbrev Connections := List (String × Connection)

structure Thread where
  threadId : String
  session : Session := Session.empty
  owner : Option String := none
  sockets : List String := []

inductive HostError where
  | noSession | unavailable | supervisor | typeError
  | permission (message : String)
  | content (e : ContentError)
  | protocol (e : StreamError)

structure Answer where
  status : String
  text : String
  requireUserInput : Bool := false

def HostError.answer : HostError → Answer
  | .noSession => ⟨"Task Error", "会话标识无效。", false⟩
  | .unavailable => ⟨"Task Error", "远程代理当前不可用。", false⟩
  | .supervisor => ⟨"Task Error", "远程任务处理失败。", false⟩
  | .typeError | .permission _ | .content _ | .protocol _ =>
    ⟨"Task Error", "任务请求未通过安全校验。", false⟩

abbrev Hosted := Except HostError

def hosted {α : Type} (x : Check α) : Hosted α := match x with
  | .ok a => .ok a
  | .error e => .error (.content e)

@[simp] theorem hosted_ok {α : Type} {x : Check α} {a : α} : hosted x = .ok a ↔ x = .ok a := by
  cases x <;> simp [hosted]

def permit (condition : Prop) [Decidable condition] (message : String) : Hosted Unit :=
  Checks.require condition (.permission message)

@[simp] theorem permit_ok {condition : Prop} [Decidable condition] {message : String} {u : Unit} :
    permit condition message = .ok u ↔ condition := Checks.require_ok

def isSocketId (s : String) : Bool := s != "" && decide (s.length ≤ maxIdChars)

/-- `socket_target`: the thread has an owner that is connected. -/
def socketTarget (t : Thread) : Hosted String := do
  permit (isSocketId t.threadId) "invalid thread_id"
  match t.owner with
  | none => .error (.permission "thread has no socket owner")
  | some sid => do
    permit (sid ∈ t.sockets) "thread owner is disconnected"
    return sid

namespace Thread

/-- `register_socket`. -/
def register (t : Thread) (sid : String) : Thread :=
  if sid = "" then t else { t with sockets := sid :: t.sockets }

/-- `bind_ui_thread`: a registered socket takes a thread that no other socket owns. -/
def bind (t : Thread) (sid : String) : Thread :=
  if sid ∈ t.sockets ∧ isSocketId t.threadId ∧ isSocketId sid ∧ (t.owner = none ∨ t.owner = some sid)
  then { t with owner := some sid } else t

/-- `remove_socket`. -/
def remove (t : Thread) (sid : String) : Thread :=
  if isSocketId sid then
    { t with owner := if t.owner = some sid then none else t.owner
             sockets := t.sockets.filter (· ≠ sid) }
  else t

end Thread

end NetworkAgent.Supervisor
