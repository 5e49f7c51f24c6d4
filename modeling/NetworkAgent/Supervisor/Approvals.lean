import NetworkAgent.Supervisor.HostAgent

/-! The result of the approval component: the host agent records the decision about the page
that is pending before it lets the model go on. -/
namespace NetworkAgent.Supervisor

/-- A result as a socket submits it, with what the runtime of the model knows of the call: whether
it is pending on the thread, and its name. -/
structure ToolResult where
  sid : String
  toolCallId : String
  content : String
  isPending : Bool
  toolName : Option String
  fresh : Fresh

def requireOwner (t : Thread) (sid : String) : Hosted Unit := do
  permit (isSocketId t.threadId) "invalid thread_id"
  permit (isSocketId sid) "invalid socket session"
  permit (t.owner = some sid) "socket session does not own the thread"

def splitCall : List Char → Option (List Char × List Char)
  | ':' :: ':' :: rest => some ([], rest)
  | c :: rest => (splitCall rest).map fun (call, thread) => (c :: call, thread)
  | [] => none

/-- `tool_call_thread_id`: the identifier names one call of this thread. -/
def toolCallThreadId (toolCallId threadId : String) : Hosted Unit := do
  permit (toolCallId.length ≤ maxIdChars * 2 + 2) "tool call is not bound to exactly one thread"
  match splitCall toolCallId.toList with
  | none => .error (.permission "tool call is not bound to exactly one thread")
  | some (call, thread) => do
    permit (splitCall thread = none) "tool call is not bound to exactly one thread"
    permit (call ≠ [] ∧ thread ≠ [] ∧ thread = threadId.toList)
      "tool call is bound to another thread"

def decisionFields : List String := ["tool_call_id", "approved", "confirmation_data"]

/-- The identifier to build a confirmation with again; a value that counts as false stands for
a new one. -/
def givenId : Json → Option String
  | .str s => some s
  | value => if truthy value then none else some ""

def SameFields (a b : Dict) : Prop :=
  keys a ⊆ keys b ∧ keys b ⊆ keys a ∧ ∀ f ∈ b, field f.1 a = f.2

instance (a b : Dict) : Decidable (SameFields a b) := inferInstanceAs (Decidable (_ ∧ _))

/-- The time of a persisted confirmation; one without an offset cannot be told in UTC. -/
def persistedTime (p : Python) (confirmation : Dict) : Hosted Instant :=
  let invalid : Hosted Instant := .error (.permission "Persisted Assurance decision is invalid")
  match field "sent_at" confirmation with
  | .str sentAt => match p.fromisoformat (spellZone sentAt) with
    | some ⟨clock, some offset⟩ => .ok (clock - offset)
    | _ => invalid
  | _ => invalid

def rebuiltConfirmation (p : Python) (fresh : Fresh) (pending : Dict) (approved : Bool)
    (confirmation : Dict) : Hosted Dict :=
  let invalid : Hosted Dict := .error (.permission "Persisted Assurance decision is invalid")
  match persistedTime p confirmation, givenId (field "message_id" confirmation),
    givenId (field "idempotency_key" confirmation) with
  | .ok sentAt, some messageId, some idempotencyKey =>
    match buildAssuranceConfirmationRequest p fresh (.obj pending) approved
      (approvalReason approved) sentAt messageId idempotencyKey with
    | .ok expected => .ok expected
    | .error _ => invalid
  | _, _, _ => invalid

def repeatDecision (p : Python) (result : ToolResult) (pending : Dict) (approved : Bool)
    (existing : Json) : Hosted TrustedDecision :=
  match existing with
  | .obj recorded => do
    permit (keys recorded ⊆ decisionFields ∧ decisionFields ⊆ keys recorded)
      "Persisted Assurance decision is invalid"
    permit (field "tool_call_id" recorded = .str result.toolCallId ∧
      field "approved" recorded = .bool approved) "Persisted Assurance decision does not match"
    match field "confirmation_data" recorded with
    | .obj confirmation => do
      let expected ← rebuiltConfirmation p result.fresh pending approved confirmation
      permit (SameFields confirmation expected) "Persisted Assurance decision does not match"
      return ⟨result.toolCallId, approved, confirmation⟩
    | _ => .error (.permission "Persisted Assurance decision does not match")
  | _ => .error (.permission "Persisted Assurance decision is invalid")

/-- `build_trusted_assurance_decision`. -/
def newDecision (p : Python) (result : ToolResult) (pending : Dict) : Hosted TrustedDecision := do
  permit (result.toolName = some "requestTaskApproval")
    "Assurance decision is not from the approval tool"
  permit (result.toolCallId ≠ "" ∧ result.toolCallId.length ≤ maxIdChars * 2 + 2)
    "approval tool call identifier is invalid"
  let approved ← hosted (parseTrustedApproval p result.content)
  let confirmation ← hosted (buildAssuranceConfirmationRequest p result.fresh (.obj pending) approved
    (approvalReason approved) result.fresh.now "" "")
  return ⟨result.toolCallId, approved, confirmation⟩

/-- `_build_trusted_assurance_decision`: a thread of another agent has no decision to record. -/
def buildTrustedDecision (p : Python) (result : ToolResult) (s : Session) :
    Hosted (Option TrustedDecision) :=
  if s .agent ≠ .str assuranceAgentName then .ok none
  else do
    permit (s .taskStatus = .str "input_needed") "Assurance task is not awaiting a decision"
    match s .pendingAssurance with
    | .obj pending => do
      let approved ← hosted (parseTrustedApproval p result.content)
      let decision ←
        if s .trustedAssuranceDecision = .null then newDecision p result pending
        else repeatDecision p result pending approved (s .trustedAssuranceDecision)
      return some decision
    | _ => .error (.permission "Assurance candidate challenge is missing")

def decisionFor (p : Python) (t : Thread) (result : ToolResult) : Hosted (Option TrustedDecision) := do
  requireOwner t result.sid
  toolCallThreadId result.toolCallId t.threadId
  permit (result.isPending = true) "tool call is not pending for this thread"
  buildTrustedDecision p result t.session

/-- `handleToolResult` up to the continuation of the model: the state it leaves, and whether it
goes on. -/
def handleToolResult (p : Python) (t : Thread) (result : ToolResult) (failure : WriteFailure) :
    Session × Bool :=
  match decisionFor p t result with
  | .error _ => (t.session, false)
  | .ok none => (t.session, true)
  | .ok (some decision) =>
    updateState failure t.session [(.trustedAssuranceDecision, decision.toJson)]

end NetworkAgent.Supervisor
