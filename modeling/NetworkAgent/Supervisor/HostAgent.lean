import NetworkAgent.Supervisor.Session

/-! The call that sends a task to a remote agent. It is taken apart where it waits for the agent:
it starts, meets the events of its stream one by one, and concludes. -/
namespace NetworkAgent.Supervisor

/-! Starting a call. -/

/-- A call as the model makes it, with what it draws at its start and at its end. -/
structure Call where
  agentName : String
  message : String
  fresh : Fresh
  later : Fresh

def textOf : Json → Option String
  | .str s => if s = "" then none else some s
  | _ => none

def createSendMessagePayload (text : String) (messageId : Uuid) (taskId contextId : Option String) :
    Content := { parts := [.text text], messageId := some messageId.hex, taskId, contextId }

def createDataMessagePayload (p : Python) (data : Dict) (taskId contextId : Option String)
    (displayText : String) : Check Content := do
  Checks.require (messageIdOf data ≠ "") (.invalid "canonical message_id is missing")
  let content : Content := { parts := [.data (.obj data), .text displayText]
                             messageId := some (messageIdOf data), taskId, contextId }
  let _ ← decodeCanonicalParts p content taskId contextId
  return content

/-- A call that is ready to be sent: the state it writes first, the assignments to the state of
the tool, the message, and what it will compare the outcome with. -/
structure Prepared where
  agentName : String
  taskId : Option String
  contextId : String
  startingState : Option TaskState
  early : List Write
  stateDelta : List Write
  request : Content
  scanMessageId : Json
  workflowId : Json
  traceId : Json
  trusted : Json

namespace Prepared

def isAssuranceAgent (r : Prepared) : Bool := r.agentName == assuranceAgentName

end Prepared

def commonDelta (agentName contextId : String) : List Write :=
  [(.agent, .str agentName), (.taskStatus, .str "running"), (.a2aContextId, .str contextId)]

/-- The state a scan starts from: a task without identifier, no page and no decision. -/
def scanWrites (agentName : String) (scan : AssuranceScanRequest) : List Write :=
  [(.agent, .str agentName), (.taskStatus, .str "running"), (.taskId, .null),
   (.a2aContextId, .str scan.a2aContextId), (.workflowId, field "workflow_id" scan.data),
   (.traceId, field "trace_id" scan.data), (.scanMessageId, field "message_id" scan.data),
   (.scanIdempotencyKey, field "idempotency_key" scan.data), (.pendingAssurance, .null),
   (.trustedAssuranceDecision, .null)]

def preparedScan (call : Call) (scan : AssuranceScanRequest) (request : Content) : Prepared where
  agentName := call.agentName
  taskId := none
  contextId := scan.a2aContextId
  startingState := none
  early := scanWrites call.agentName scan
  stateDelta :=
    [(.workflowId, field "workflow_id" scan.data), (.traceId, field "trace_id" scan.data),
     (.scanMessageId, field "message_id" scan.data),
     (.scanIdempotencyKey, field "idempotency_key" scan.data)] ++
    commonDelta call.agentName scan.a2aContextId
  request
  scanMessageId := field "message_id" scan.data
  workflowId := field "workflow_id" scan.data
  traceId := field "trace_id" scan.data
  trusted := .null

def prepareScan (p : Python) (call : Call) : Hosted Prepared := do
  let scan := buildAssuranceScanRequest call.fresh
  let request ← hosted (createDataMessagePayload p scan.data none (some scan.a2aContextId)
    "开始检查已批准导入的本地网络数据。")
  return preparedScan call scan request

/-- `str(value)`. -/
def strOf (p : Python) : Json → String
  | .str s => s
  | value => p.str value

/-- Every field of the confirmation but its time is what the page asks for. -/
def Unmodified (confirmation expected : Dict) : Prop :=
  ∀ f ∈ expected, f.1 ≠ "sent_at" → field f.1 confirmation = f.2

instance (confirmation expected : Dict) : Decidable (Unmodified confirmation expected) :=
  inferInstanceAs (Decidable (∀ f ∈ expected, _ → _))

/-- The confirmation that the session holds, checked against the page that is pending. -/
def trustedConfirmation (p : Python) (fresh : Fresh) (s : Session) : Hosted Dict :=
  match s .pendingAssurance, s .trustedAssuranceDecision with
  | .obj pending, .obj trusted => match field "confirmation_data" trusted with
    | .obj confirmation => match field "approved" trusted with
      | .bool approved => do
        let expected ← hosted (buildAssuranceConfirmationRequest p fresh (.obj pending) approved
          (strOf p (fieldOr (.str "") "reason" confirmation)) fresh.now
          (strOf p (fieldOr (.str "") "message_id" confirmation))
          (strOf p (fieldOr (.str "") "idempotency_key" confirmation)))
        permit (Unmodified confirmation expected) "trusted Assurance decision was modified"
        return confirmation
      | _ => .error .typeError
    | _ => .error (.permission "trusted Assurance decision is invalid")
  | _, _ => .error (.permission "trusted Assurance decision is missing")

def preparedConfirmation (s : Session) (call : Call) (taskId contextId : String)
    (startingState : Option TaskState) (request : Content) : Prepared where
  agentName := call.agentName
  taskId := some taskId
  contextId
  startingState
  early := [(.taskStatus, .str "running")]
  stateDelta := commonDelta call.agentName contextId
  request
  scanMessageId := s .scanMessageId
  workflowId := s .workflowId
  traceId := s .traceId
  trusted := s .trustedAssuranceDecision

def prepareConfirmation (p : Python) (s : Session) (call : Call) (taskId : String)
    (contextId : Option String) (startingState : Option TaskState) : Hosted Prepared := do
  permit (startingState = some .inputRequired) "trusted Assurance decision is missing"
  match contextId with
  | none => .error (.permission "trusted Assurance decision is missing")
  | some contextId => do
    let confirmation ← trustedConfirmation p call.fresh s
    let request ← hosted (createDataMessagePayload p confirmation (some taskId) (some contextId)
      "提交受信任的确认决定。")
    return preparedConfirmation s call taskId contextId startingState request

def prepareText (s : Session) (call : Call) (taskId contextId : Option String)
    (startingState : Option TaskState) : Prepared :=
  let contextId := contextId.getD (newId "context" call.fresh.context)
  { agentName := call.agentName
    taskId
    contextId
    startingState
    early := [(.agent, .str call.agentName), (.taskStatus, .str "running"),
      (.a2aContextId, .str contextId)]
    stateDelta := commonDelta call.agentName contextId
    request := createSendMessagePayload call.message call.fresh.message taskId (some contextId)
    scanMessageId := s .scanMessageId
    workflowId := s .workflowId
    traceId := s .traceId
    trusted := s .trustedAssuranceDecision }

/-- The state the stream starts in: a task that waits for input goes on from there. -/
def startingStateOf (s : Session) : Option TaskState :=
  if (textOf (s .taskId)).isSome ∧ s .taskStatus = .str "input_needed" then some .inputRequired
  else none

/-- The request to send: a scan, the confirmation of the pending page, or the text of the model. -/
def prepareRequest (p : Python) (s : Session) (call : Call) : Hosted Prepared :=
  let taskId := textOf (s .taskId)
  let contextId := textOf (s .a2aContextId)
  if call.agentName = assuranceAgentName then match taskId with
    | none => prepareScan p call
    | some taskId => prepareConfirmation p s call taskId contextId (startingStateOf s)
  else .ok (prepareText s call taskId contextId (startingStateOf s))

/-- What a prepared request is: a scan on a thread without a task, the confirmation of a page that
is pending, or the text for another agent. -/
theorem prepareRequest_cases {p : Python} {s : Session} {call : Call} {r : Prepared}
    (request : prepareRequest p s call = .ok r) :
    (call.agentName = assuranceAgentName ∧ textOf (s .taskId) = none ∧
      ∃ content, prepareScan p call = .ok r ∧
        r = preparedScan call (buildAssuranceScanRequest call.fresh) content) ∨
    (∃ taskId contextId confirmation content, call.agentName = assuranceAgentName ∧
      textOf (s .taskId) = some taskId ∧ textOf (s .a2aContextId) = some contextId ∧
      startingStateOf s = some .inputRequired ∧
      trustedConfirmation p call.fresh s = .ok confirmation ∧
      createDataMessagePayload p confirmation (some taskId) (some contextId) "提交受信任的确认决定。" =
        .ok content ∧
      r = preparedConfirmation s call taskId contextId (some .inputRequired) content) ∨
    (call.agentName ≠ assuranceAgentName ∧
      r = prepareText s call (textOf (s .taskId)) (textOf (s .a2aContextId)) (startingStateOf s)) := by
  unfold prepareRequest at request
  by_cases assurance : call.agentName = assuranceAgentName
  · simp only [assurance, if_true] at request
    cases task : textOf (s .taskId) with
    | none =>
      simp only [task] at request
      obtain ⟨content, _, same⟩ := Checks.bind_ok.mp (id request)
      cases same
      exact .inl ⟨assurance, rfl, content, request, rfl⟩
    | some taskId =>
      simp only [task, prepareConfirmation] at request
      obtain ⟨waiting, request⟩ := Checks.seq_ok.mp request
      cases context : textOf (s .a2aContextId) with
      | none => simp [context] at request
      | some contextId =>
        simp only [context] at request
        obtain ⟨confirmation, trusted, request⟩ := Checks.bind_ok.mp request
        obtain ⟨content, created, same⟩ := Checks.bind_ok.mp request
        cases same
        have waiting := permit_ok.mp waiting
        rw [waiting]
        exact .inr (.inl ⟨taskId, contextId, confirmation, content, assurance, rfl, rfl, rfl,
          trusted, hosted_ok.mp created, rfl⟩)
  · simp only [assurance, if_false] at request
    cases request
    exact .inr (.inr ⟨assurance, rfl⟩)

def Routed (s : Session) (agentName : String) : Prop :=
  textOf (s .taskId) = none ∨ s .agent = .null ∨ s .agent = .str agentName

instance (s : Session) (agentName : String) : Decidable (Routed s agentName) :=
  inferInstanceAs (Decidable (_ ∨ _))

/-- The part of `send_task` before the first write: routing, and the request to send. -/
def prepare (p : Python) (connections : Connections) (t : Thread) (call : Call) :
    Hosted (Connection × Prepared) := do
  Checks.require (t.threadId ≠ "") .noSession
  let _ ← socketTarget t
  match connections.lookup call.agentName with
  | none => .error .unavailable
  | some connection => do
    permit (Routed t.session call.agentName) "active task belongs to another agent"
    let prepared ← prepareRequest p t.session call
    return (connection, prepared)

theorem prepare_ok {p : Python} {connections : Connections} {t : Thread} {call : Call}
    {connection : Connection} {r : Prepared} :
    prepare p connections t call = .ok (connection, r) ↔
      t.threadId ≠ "" ∧ (∃ sid, socketTarget t = .ok sid) ∧
      connections.lookup call.agentName = some connection ∧ Routed t.session call.agentName ∧
      prepareRequest p t.session call = .ok r := by
  unfold prepare
  rw [Checks.seq_ok, Checks.require_ok, Checks.bind_ok]
  apply and_congr_right
  intro named
  cases found : connections.lookup call.agentName with
  | none => simp
  | some connection' =>
    simp only [permit, Checks.bind_ok, Checks.require_ok, Option.some.injEq]
    constructor
    · rintro ⟨sid, target, _, routed, r', request, same⟩
      cases same
      exact ⟨⟨sid, target⟩, rfl, routed, request⟩
    · rintro ⟨⟨sid, target⟩, rfl, routed, request⟩
      exact ⟨sid, target, (), routed, r, request, rfl⟩

def openStream (connection : Connection) (r : Prepared) : Hosted Stream :=
  if connection.hasClient && connection.streaming then
    match Machine.create r.taskId (some r.contextId) r.startingState with
    | .error e => .error (.protocol e)
    | .ok machine => .ok
      { isAssuranceAgent := r.isAssuranceAgent
        expectedTaskId := r.taskId
        expectedContextId := some r.contextId
        machine }
  else .error .supervisor

/-! The end of a call. -/

def Correlated (r : Prepared) (page : Dict) : Prop :=
  field "request_message_id" page = r.scanMessageId ∧ field "workflow_id" page = r.workflowId ∧
    field "trace_id" page = r.traceId

instance (r : Prepared) (page : Dict) : Decidable (Correlated r page) :=
  inferInstanceAs (Decidable (_ ∧ _))

def pageOf (p : Python) (r : Prepared) (later : Fresh) (outcome : RemoteStreamOutcome) :
    Hosted Dict :=
  match outcome.content with
  | none => .error (.content (.invalid "Assurance candidate page is missing"))
  | some content => do
    Checks.require (field "message_type" content.data = .str "assurance_candidate_page")
      (.content (.invalid "Assurance candidate page is missing"))
    Checks.require (Correlated r content.data)
      (.content (.invalid "Assurance candidate correlation mismatch"))
    let _ ← hosted (buildAssuranceConfirmationRequest p later (.obj content.data) false
      "候选页协议校验。" later.now "" "")
    return content.data

def checkEmptyScan (p : Python) (r : Prepared) (content : Option CanonicalContent) : Hosted Unit :=
  match content with
  | none => .error (.content (.invalid "empty Assurance scan artifact is missing"))
  | some result => do
    let page ← hosted (validateEmptyAssuranceCandidatePage p result.data)
    Checks.require (Correlated r page)
      (.content (.invalid "empty Assurance scan correlation mismatch"))

def confirmationOf (trusted : Json) : Option Dict := match trusted with
  | .obj fields => match field "confirmation_data" fields with
    | .obj confirmation => some confirmation
    | _ => none
  | _ => none

def Answers (confirmation result : Dict) : Prop :=
  field "message_type" result = .str "assurance_confirmation_result" ∧
    field "request_message_id" result = field "message_id" confirmation ∧
    (∀ name ∈ ["preview_message_id", "candidate_id", "decision", "workflow_id", "trace_id"],
      field name result = field name confirmation) ∧
    field "outcome" result ∈ ["created", "correlated", "replayed", "rejected"].map Json.str

instance (confirmation result : Dict) : Decidable (Answers confirmation result) :=
  inferInstanceAs (Decidable (_ ∧ _))

def Fits (confirmation result : Dict) : Prop :=
  (field "decision" confirmation = .str "REJECT" →
    field "outcome" result = .str "rejected" ∧ field "incident" result = .null) ∧
  (field "decision" confirmation = .str "CONFIRM" →
    field "outcome" result ≠ .str "rejected" ∧ isObject (field "incident" result))

instance (confirmation result : Dict) : Decidable (Fits confirmation result) :=
  inferInstanceAs (Decidable (_ ∧ _))

def checkConfirmationResult (r : Prepared) (content : Option CanonicalContent) : Hosted Unit :=
  match content, confirmationOf r.trusted with
  | some result, some confirmation => do
    Checks.require (Answers confirmation result.data)
      (.content (.invalid "Assurance confirmation result mismatch"))
    Checks.require (Fits confirmation result.data)
      (.content (.invalid "Assurance confirmation outcome mismatch"))
  | _, _ => .error (.content (.invalid "Assurance confirmation result mismatch"))

def inputWrites (agentName : String) (outcome : RemoteStreamOutcome) : List Write :=
  [(.agent, .str agentName), (.taskStatus, .str "input_needed"), (.taskId, .str outcome.taskId),
   (.a2aContextId, .str outcome.contextId)]

def clearedWrites : List Write :=
  [(.agent, .null), (.taskStatus, .null), (.taskId, .null), (.a2aContextId, .null),
   (.workflowId, .null), (.traceId, .null), (.scanMessageId, .null), (.scanIdempotencyKey, .null),
   (.pendingAssurance, .null), (.trustedAssuranceDecision, .null)]

def concludingWrites (p : Python) (r : Prepared) (later : Fresh) (outcome : RemoteStreamOutcome) :
    Hosted (List Write × Answer) :=
  match outcome.state with
  | .inputRequired => do
    if r.isAssuranceAgent then
      let page ← pageOf p r later outcome
      let text := outcome.content.bind (·.text)
      return (inputWrites r.agentName outcome ++
          [(.pendingAssurance, .obj page), (.trustedAssuranceDecision, .null)],
        ⟨"Input Required from User", text.getD "请在审批组件中确认或拒绝该候选事件。", true⟩)
    else
      return (inputWrites r.agentName outcome,
        ⟨"Input Required from User", outcome.text.getD "需要用户补充输入。", true⟩)
  | .completed => do
    if r.isAssuranceAgent then
      match r.taskId with
      | none => checkEmptyScan p r outcome.content
      | some _ => checkConfirmationResult r outcome.content
    return (clearedWrites, ⟨"Task Completed", outcome.text.getD "Completed", false⟩)
  | state =>
    .ok ([(.taskStatus, .str state.name)],
      ⟨"Task Failed", outcome.text.getD "远程任务未成功完成。", false⟩)

theorem concludingWrites_cases {p : Python} {r : Prepared} {later : Fresh}
    {outcome : RemoteStreamOutcome} {values : List Write} {answer : Answer}
    (concluded : concludingWrites p r later outcome = .ok (values, answer)) :
    (outcome.state = .inputRequired ∧ r.isAssuranceAgent = true ∧
      ∃ page, pageOf p r later outcome = .ok page ∧ values = inputWrites r.agentName outcome ++
        [(.pendingAssurance, .obj page), (.trustedAssuranceDecision, .null)]) ∨
    (outcome.state = .inputRequired ∧ r.isAssuranceAgent = false ∧
      values = inputWrites r.agentName outcome) ∨
    (outcome.state = .completed ∧ values = clearedWrites) ∨
    (outcome.state ≠ .inputRequired ∧ outcome.state ≠ .completed ∧
      values = [(.taskStatus, .str outcome.state.name)]) := by
  unfold concludingWrites at concluded
  split at concluded
  · rename_i state
    split at concluded
    · rename_i assurance
      obtain ⟨page, shown, same⟩ := Checks.bind_ok.mp concluded
      cases same
      exact .inl ⟨state, assurance, page, shown, rfl⟩
    · rename_i other
      cases concluded
      exact .inr (.inl ⟨state, by simpa using other, rfl⟩)
  · rename_i state
    have cleared : values = clearedWrites := by
      split at concluded
      · split at concluded
        · obtain ⟨_, _, same⟩ := Checks.bind_ok.mp concluded
          cases same
          rfl
        · obtain ⟨_, _, same⟩ := Checks.bind_ok.mp concluded
          cases same
          rfl
      · cases concluded
        rfl
    exact .inr (.inr (.inl ⟨state, cleared⟩))
  · rename_i notInput notCompleted
    cases concluded
    exact .inr (.inr (.inr ⟨notInput, notCompleted, rfl⟩))

def taskWrites (agentName taskId contextId : String) : List Write :=
  [(.agent, .str agentName), (.taskStatus, .str "submitted"), (.taskId, .str taskId),
   (.a2aContextId, .str contextId)]

/-! A call step by step. -/

structure Flight where
  prepared : Prepared
  later : Fresh
  stream : Stream

/-- A call after a step: it waits, or it has returned. -/
inductive Progress where
  | waiting (flight : Flight)
  | returned (answer : Answer)

/-- The start of a call: the state it leaves, the assignments it has made, and the request when
it was sent. -/
structure Start where
  session : Session
  stateDelta : List Write := []
  request : Option Content := none
  progress : Progress

/-- `send_task` up to its request. -/
def startTask (p : Python) (connections : Connections) (t : Thread) (call : Call)
    (failure : WriteFailure) : Start :=
  match prepare p connections t call with
  | .error e => { session := t.session, progress := .returned e.answer }
  | .ok (connection, prepared) =>
    let (session, written) := updateState failure t.session prepared.early
    if written then match openStream connection prepared with
      | .error e =>
        { session, stateDelta := prepared.stateDelta, progress := .returned e.answer }
      | .ok stream =>
        { session, stateDelta := prepared.stateDelta, request := some prepared.request
          progress := .waiting ⟨prepared, call.later, stream⟩ }
    else { session, progress := .returned HostError.supervisor.answer }

/-- The end of `send_task`, once the stream has an outcome. -/
def conclude (p : Python) (s : Session) (flight : Flight) (outcome : RemoteStreamOutcome)
    (failure : WriteFailure) : Session × Answer :=
  match concludingWrites p flight.prepared flight.later outcome with
  | .error e => (s, e.answer)
  | .ok (values, answer) =>
    let (session, written) := updateState failure s values
    (session, if written then answer else HostError.supervisor.answer)

def meetEvent (p : Python) (s : Session) (flight : Flight) (event : StreamEvent)
    (failure : WriteFailure) : Session × Progress :=
  match flight.stream.observe p event with
  | .error _ => (s, .returned HostError.supervisor.answer)
  | .ok reaction =>
    let flight := { flight with stream := reaction.stream }
    match reaction.observedTask, reaction.outcome with
    | some (taskId, contextId), _ =>
      let (session, written) :=
        updateState failure s (taskWrites flight.prepared.agentName taskId contextId)
      (session, if written then .waiting flight else .returned HostError.supervisor.answer)
    | none, some outcome =>
      let (session, answer) := conclude p s flight outcome failure
      (session, .returned answer)
    | none, none => (s, .waiting flight)

def breakOff : Progress := .returned HostError.supervisor.answer

end NetworkAgent.Supervisor
