import NetworkAgent.Domain.Models
import NetworkAgent.Library.Runs

/-! The graph of the network engineer agent: a plan is built, shown, answered and executed step by
step. One turn is one call of `stream`; the models, the tools and langgraph are parameters. -/
namespace NetworkAgent.Engineer

def allowedTools : List String :=
  ["getNetworkDesign", "getLocations", "createLocation", "deleteLocation", "getServiceDefinitions",
    "getServices", "createService", "deleteService", "reinstallFailedService"]

/-- The tools that `build_plan` looks up. -/
def discoveryTools : List String := ["getNetworkDesign", "getServices", "getLocations"]

def recursionLimit : Nat := 50

/-- What the agent runs on. `tools` are the keys of `tools_by_name`; langgraph runs as many nodes
as `nodes` says in a run of the graph that is resumed or not, and keeps or drops the question of a
node that raised after its answer. -/
structure Agent where
  loads : String → Option Json
  dumps : Json → String
  tools : List String
  nodes : Bool → Nat → Nat
  limit_le_nodes : ∀ resumed limit, limit ≤ nodes resumed limit
  keepsInterrupt : Bool

structure ToolCall where
  name : String
  args : Json
  id : String

inductive Message where
  | human (content : String)
  | ai (content : String) (toolCalls : List ToolCall)
  | tool (content name toolCallId : String)

def Message.content : Message → String
  | .human content | .ai content _ | .tool content _ _ => content

def Message.toolCalls : Message → List ToolCall
  | .ai _ toolCalls => toolCalls
  | .human _ | .tool _ _ _ => []

/-- `NetworkEngineerAgentState`. -/
structure Channels where
  objective : String
  preapproved : Bool
  context : List Message
  steps : Option (List String)
  pastSteps : List (String × Json)
  response : Option String

inductive Node where
  | buildPlan | confirmPlan | executeStep | runStepTool | responseSummary
  deriving DecidableEq

/-- What there is to see of the runs on one thread. A submitted step comes with its position in the
plan, an answer with what the model reads in it. -/
inductive Event where
  | started (preapproved : Bool)
  | shown (plan : List String)
  | answered (text : String) (reading : Option String)
  | confirmed (plan : List String)
  | submitted (step : String) (position : Nat)
  | ran (plan : List String) (tool : String)
  | finished
  | raised
  | outOfSteps
  deriving DecidableEq

/-- One call of `stream`, and what the models and the tools do at each superstep of its run; `none`
is an exception. -/
structure Turn where
  query : String
  preapproved : Bool
  plan : Nat → Option (Option (List String))
  reading : Nat → Option String
  reply : Nat → Option (String × List ToolCall)
  result : Nat → Nat → Option Json
  summary : Nat → Option String

inductive Next where
  | goto (node : Node)
  | interrupt
  | finish
  | raise

/-- What a node leaves: the channels, what was seen of it, and where its edges lead. -/
structure Outcome where
  channels : Channels
  events : List Event
  next : Next

def buildPlan (a : Agent) (t : Turn) (k : Nat) (s : Channels) : Outcome :=
  if discoveryTools ⊆ a.tools then
    match t.plan k with
    | none => ⟨s, [], .raise⟩
    | some none => ⟨s, [], .goto .confirmPlan⟩
    | some (some steps) => ⟨{ s with steps := some steps }, [], .goto .confirmPlan⟩
  else ⟨s, [], .raise⟩

/-! The answer to a plan. -/

def widgetApproval (loads : String → Option Json) (message : String) : Option Bool :=
  if (Text.chars (strip message)).head? = some '\x7b' then
    match loads message with
    | some (.obj fields) => (Json.get? "approved" fields).map fun value => decide (value = .bool true)
    | _ => none
  else none

/-- `str.lower`, as far as it decides which of the words below a text is: none has a letter that
anything but an ASCII letter lowers to. -/
def lower (s : String) : String := String.ofList ((Text.chars s).map Char.toLower)

def confirmWords : List String := ["yes", "y", "approve", "approved", "confirm", "confirmed"]
def cancelWords : List String := ["no", "n", "deny", "denied", "cancel", "cancelled"]

/-- Where an answer leads; `reading` is the model's, asked last. -/
def decision (loads : String → Option Json) (message : String) (reading : Option String) :
    Option Node :=
  match widgetApproval loads message with
  | some approved => some (if approved then .executeStep else .responseSummary)
  | none =>
    let cleanedMessage := lower (strip message)
    if cleanedMessage ∈ confirmWords then some .executeStep
    else if cleanedMessage ∈ cancelWords then some .responseSummary
    else reading.map fun planDecision =>
      if planDecision = "confirmed" then .executeStep
      else if planDecision = "cancelled" then .responseSummary
      else if planDecision = "amend" then .buildPlan
      else .responseSummary

def planCompleteDecision (loads : String → Option Json) (reading : Option String) (s : Channels) :
    Option Node :=
  match s.steps with
  | none => some .responseSummary
  | some _ => s.context.getLast?.bind fun message => decision loads message.content reading

/-- The edge out of `confirm_plan`: an exception in it loses what the node returned. -/
def leaveConfirm (a : Agent) (reading : Option String) (before after : Channels)
    (events : List Event) : Outcome :=
  match planCompleteDecision a.loads reading after with
  | none => ⟨before, events, .raise⟩
  | some node =>
    ⟨after, events ++ if node = .executeStep then [.confirmed (after.steps.getD [])] else [],
      .goto node⟩

def confirmPlan (a : Agent) (t : Turn) (k : Nat) (answer : Option String) (s : Channels) : Outcome :=
  if s.preapproved then
    leaveConfirm a (t.reading k) s { s with context := s.context ++ [.human "yes"] } []
  else match s.steps with
    | none => leaveConfirm a (t.reading k) s s []
    | some steps =>
      match answer with
      | none => ⟨s, [.shown steps], .interrupt⟩
      | some text =>
        leaveConfirm a (t.reading k) s { s with context := s.context ++ [.human text] }
          [.answered text (t.reading k)]

/-! The steps of a plan. -/

/-- `completed_step_names`. -/
def Channels.completed (s : Channels) : List String := s.pastSteps.map Prod.fst

def incompleteSteps (steps completed : List String) : List String :=
  steps.filter (· ∉ completed)

def shouldRunTool (s : Channels) : Node :=
  if (s.context.getLast?.elim [] Message.toolCalls).isEmpty then .responseSummary else .runStepTool

def executeStep (t : Turn) (k : Nat) (s : Channels) : Outcome :=
  match s.steps with
  | none => ⟨s, [], .raise⟩
  | some steps =>
    match incompleteSteps steps s.completed with
    | [] =>
      let after := { s with context := s.context ++ [.ai "All steps have been completed" []] }
      ⟨after, [], .goto (shouldRunTool after)⟩
    | thisStep :: _ =>
      if thisStep ≠ "" ∧ (Text.chars thisStep).all isSpace then ⟨s, [], .raise⟩
      else
        let submitted := [Event.submitted thisStep (steps.idxOf thisStep)]
        match t.reply k with
        | none => ⟨s, submitted, .raise⟩
        | some (content, toolCalls) =>
          let after := { s with context := s.context ++ [.ai content toolCalls] }
          ⟨after, submitted, .goto (shouldRunTool after)⟩

/-- The tools that the calls of a reply ran, and unless one failed the messages for them with the
last result. -/
def callTools (a : Agent) (result : Nat → Option Json) :
    List ToolCall → Nat → List Message → Json → List String × Option (List Message × Json)
  | [], _, outputs, toolResult => ([], some (outputs, toolResult))
  | call :: rest, i, outputs, _ =>
    if call.name ∉ a.tools then ([], none)
    else match result i with
      | none => ([call.name], none)
      | some value =>
        let later := callTools a result rest (i + 1)
          (outputs ++ [.tool (a.dumps value) call.name call.id]) value
        (call.name :: later.1, later.2)

def shouldEnd (s : Channels) : Node :=
  if (incompleteSteps (s.steps.getD []) s.completed).isEmpty then .responseSummary else .executeStep

def runStep (s : Channels) : String :=
  ((incompleteSteps (s.steps.getD []) s.completed).head?.or (s.steps.getD []).getLast?).getD
    "Unknown step"

def toolNode (a : Agent) (t : Turn) (k : Nat) (s : Channels) : Outcome :=
  let called := callTools a (t.result k) (s.context.getLast?.elim [] Message.toolCalls) 0 [] (.obj [])
  let events := called.1.map (Event.ran (s.steps.getD []))
  match called.2 with
  | none => ⟨s, events, .raise⟩
  | some (outputs, toolResult) =>
    let after := { s with
      pastSteps := s.pastSteps ++ [(runStep s, toolResult)]
      context := s.context ++ outputs }
    ⟨after, events, .goto (shouldEnd after)⟩

def responseSummary (t : Turn) (k : Nat) (s : Channels) : Outcome :=
  match t.summary k with
  | none => ⟨s, [], .raise⟩
  | some content => ⟨{ s with response := some content }, [], .finish⟩

/-! A run of the graph. -/

def runNode (a : Agent) (t : Turn) (k : Nat) (answer : Option String) (s : Channels) :
    Node → Outcome
  | .buildPlan => buildPlan a t k s
  | .confirmPlan => confirmPlan a t k answer s
  | .executeStep => executeStep t k s
  | .runStepTool => toolNode a t k s
  | .responseSummary => responseSummary t k s

/-- One thread: its checkpoint, whether that waits for an answer, and what was seen of it. -/
structure Thread where
  channels : Channels
  asking : Bool
  log : List Event

/-- The supersteps of a run, from the `k`th on; only the first one of a resumed run has the
answer. -/
def go (a : Agent) (t : Turn) : Nat → Nat → Option String → Node → Channels → Thread
  | 0, _, _, _, s => ⟨s, false, [.outOfSteps]⟩
  | fuel + 1, k, answer, node, s =>
    let o := runNode a t k answer s node
    match o.next with
    | .goto next =>
      let later := go a t fuel (k + 1) none next o.channels
      { later with log := o.events ++ later.log }
    | .interrupt => ⟨o.channels, true, o.events⟩
    | .finish => ⟨o.channels, false, o.events ++ [.finished]⟩
    | .raise =>
      ⟨o.channels, a.keepsInterrupt && decide (node = .confirmPlan), o.events ++ [.raised]⟩

def turn (a : Agent) (th : Thread) (t : Turn) : Thread :=
  if th.asking then
    go a t (a.nodes true recursionLimit) 0 (some t.query) .confirmPlan th.channels
  else
    let run := go a t (a.nodes false recursionLimit) 0 none .buildPlan
      { th.channels with objective := t.query, preapproved := t.preapproved }
    { run with log := .started t.preapproved :: run.log }

def stream (a : Agent) (th : Thread) (t : Turn) : Thread :=
  { turn a th t with log := th.log ++ (turn a th t).log }

def Thread.new : Thread := ⟨⟨"", false, [], none, [], none⟩, false, []⟩

abbrev session (a : Agent) (turns : List Turn) : Thread := Runs.run (stream a) .new turns

end NetworkAgent.Engineer
