import NetworkAgent.Domain.Records
import NetworkAgent.Supervisor.Parts

/-! The requests the supervisor builds itself: a scan, and the confirmation of the one candidate
of a page, with the decision that the approval component reported. -/
namespace NetworkAgent.Supervisor

structure Uuid where
  hex : String
  length : hex.length = 32
  digits : hex.toList.all Sha256.isHexDigit = true

def newId (start : String) (uuid : Uuid) : String := start ++ "-" ++ uuid.hex

structure Fresh where
  message : Uuid
  workflow : Uuid
  trace : Uuid
  key : Uuid
  context : Uuid
  now : Instant

def utcText (t : Instant) : Json := .str (isoText "Z" t)

structure AssuranceScanRequest where
  data : Dict
  a2aContextId : String

def buildAssuranceScanRequest (fresh : Fresh) : AssuranceScanRequest where
  data :=
    [("schema_version", .str "1.0"), ("message_type", .str "assurance_scan_request"),
     ("message_id", .str (newId "message" fresh.message)),
     ("workflow_id", .str (newId "workflow" fresh.workflow)),
     ("trace_id", .str (newId "trace" fresh.trace)),
     ("idempotency_key", .str (newId "scan" fresh.key)), ("sent_at", utcText fresh.now),
     ("window_start", .null), ("window_end", .null), ("resource_ids", .arr []),
     ("page_size", .int 1), ("page_offset", .int 0)]
  a2aContextId := newId "context" fresh.context

/-- `_validate_window`, at most 31 days. -/
def validateWindow (p : Python) (label : String) (windowStart windowEnd : Json) : Check Unit := do
  let first ← parseUtcIso p (label ++ "_window_start") windowStart
  let last ← parseUtcIso p (label ++ "_window_end") windowEnd
  Checks.require (first ≤ last) (.invalid (label ++ " effective_window has invalid order"))
  Checks.require (last - first ≤ daysInMicros 31)
    (.invalid (label ++ " window must not exceed 31 days"))

def soleCandidate (page : Dict) : Check Dict := match field "candidates" page with
  | .arr [.obj candidate] => .ok candidate
  | .arr [_] => .error (.invalid "pending candidate is invalid")
  | _ => .error (.invalid "pending candidate page must contain exactly one candidate")

def requiredOfPage (page candidate : Dict) : Dict :=
  [("message_id", field "message_id" page), ("request_message_id", field "request_message_id" page),
   ("workflow_id", field "workflow_id" page), ("trace_id", field "trace_id" page),
   ("challenge_id", field "challenge_id" page), ("snapshot_sha256", field "snapshot_sha256" page),
   ("candidate_id", field "candidate_id" candidate),
   ("effective_window_start", field "effective_window_start" page),
   ("effective_window_end", field "effective_window_end" page),
   ("challenge_expires_at", field "challenge_expires_at" page)]

def IsLongText (minimum : Nat) : Json → Prop
  | .str s => minimum ≤ s.length
  | _ => False

instance (minimum : Nat) : DecidablePred (IsLongText minimum) := fun value => match value with
  | .str _ => inferInstanceAs (Decidable (_ ≤ _))
  | .null | .bool _ | .int _ | .float _ | .arr _ | .obj _ => inferInstanceAs (Decidable False)

def isInt : Json → Bool
  | .int _ => true
  | _ => false

def checkPendingPage (p : Python) (page candidate : Dict) : Check Unit := do
  Checks.each (fun f => Checks.require (IsIdentifier f.2)
    (.invalid ("pending candidate page has invalid " ++ f.1))) (requiredOfPage page candidate)
  Checks.require (IsSha256 (field "snapshot_sha256" page))
    (.invalid "pending candidate page has invalid snapshot_sha256")
  Checks.require (IsLongText 32 (field "challenge_id" page))
    (.invalid "pending candidate page has invalid challenge_id")
  validateWindow p "effective" (field "effective_window_start" page)
    (field "effective_window_end" page)
  let expiresAt ← parseUtcIso p "challenge_expires_at" (field "challenge_expires_at" page)
  let sentAt ← parseUtcIso p "sent_at" (field "sent_at" page)
  Checks.require (sentAt < expiresAt) (.invalid "pending candidate challenge is already expired")
  Checks.require (field "page_size" page = .int 1 ∧ isInt (field "page_offset" page) ∧
    IsInteger 1 none (field "total_candidates" page) ∧ isBool (field "has_more" page))
    (.invalid "pending candidate page metadata is invalid")

/-- The identifiers of a confirmation: the given text, or a new one where it is empty. -/
def orNew (given start : String) (uuid : Uuid) : String := if given = "" then newId start uuid else given

def decisionOf (approved : Bool) : String := if approved then "CONFIRM" else "REJECT"

def confirmationData (page candidate : Dict) (approved : Bool) (reason : String) (sentAt : Instant)
    (messageId idempotencyKey : String) : Dict :=
  [("schema_version", .str "1.0"), ("message_type", .str "assurance_confirmation_request"),
   ("message_id", .str messageId), ("workflow_id", field "workflow_id" page),
   ("trace_id", field "trace_id" page), ("idempotency_key", .str idempotencyKey),
   ("sent_at", utcText sentAt), ("preview_message_id", field "message_id" page),
   ("candidate_id", field "candidate_id" candidate), ("challenge_id", field "challenge_id" page),
   ("snapshot_sha256", field "snapshot_sha256" page), ("decision", .str (decisionOf approved)),
   ("reason", .str (strip reason))]

def buildAssuranceConfirmationRequest (p : Python) (fresh : Fresh) (candidatePage : Json)
    (approved : Bool) (reason : String) (sentAt : Instant) (messageId idempotencyKey : String) :
    Check Dict := do
  Checks.require (strip reason ≠ "" ∧ reason.length ≤ 1024)
    (.invalid "confirmation reason is invalid")
  let page ← canonicalData p candidatePage
  Checks.require (field "message_type" page = .str "assurance_candidate_page")
    (.invalid "pending content is not an assurance candidate page")
  let candidate ← soleCandidate page
  checkPendingPage p page candidate
  let messageId := orNew messageId "message" fresh.message
  let idempotencyKey := orNew idempotencyKey "confirm" fresh.key
  let result := confirmationData page candidate approved reason sentAt messageId idempotencyKey
  Checks.require (field "message_id" result ≠ field "message_id" page)
    (.invalid "confirmation message_id must differ from preview")
  Checks.require (field "idempotency_key" result ≠ field "idempotency_key" page)
    (.invalid "confirmation idempotency key must differ from preview")
  Checks.require (["message_id", "workflow_id", "trace_id", "idempotency_key"].map fun name =>
    field name result).Nodup
    (.invalid "confirmation correlation identifiers must remain independent")
  canonicalData p (.obj result)

def validateEmptyAssuranceCandidatePage (p : Python) (candidatePage : Dict) : Check Dict := do
  let decoded ← canonicalData p (.obj candidatePage)
  Checks.require (field "message_type" decoded = .str "assurance_candidate_page")
    (.invalid "completed scan artifact is not a candidate page")
  Checks.require (IsIdentifier (field "request_message_id" decoded))
    (.invalid "empty candidate page has invalid request_message_id")
  Checks.require (field "candidates" decoded = .arr [] ∧ field "challenge_id" decoded = .null ∧
    field "challenge_expires_at" decoded = .null)
    (.invalid "empty candidate page must not contain a challenge")
  Checks.require (field "page_size" decoded = .int 1 ∧ field "page_offset" decoded = .int 0 ∧
    field "total_candidates" decoded = .int 0 ∧ field "has_more" decoded = .bool false)
    (.invalid "empty candidate page metadata is invalid")
  Checks.require (IsSha256 (field "snapshot_sha256" decoded))
    (.invalid "empty candidate page has invalid snapshot_sha256")
  validateWindow p "effective" (field "effective_window_start" decoded)
    (field "effective_window_end" decoded)
  return decoded

/-! The decision of the approval component. -/

def approvalFieldNames : List String := ["approved", "timestamp", "tasks"]

/-- Exactly what the approval component emits; the answer is the decision. -/
def parseTrustedApproval (p : Python) (content : String) : Check Bool := do
  Checks.require ((utf8 content).length ≤ 16384) (.invalid "approval result is invalid")
  match p.loads content with
  | some (.obj payload) =>
    Checks.require (keys payload ⊆ approvalFieldNames ∧ approvalFieldNames ⊆ keys payload)
      (.invalid "approval result shape is invalid")
    match field "approved" payload with
    | .bool approved =>
      Checks.require (IsTextValue 128 false (field "timestamp" payload))
        (.invalid "approval timestamp is invalid")
      let tasks ← match field "tasks" payload with
        | .arr tasks => .ok tasks
        | _ => .error (.invalid "approval task list is invalid")
      Checks.require (tasks.length ≤ 20 ∧ tasks.all isObject)
        (.invalid "approval task list is invalid")
      return approved
    | _ => .error (.invalid "approval decision must be a boolean")
  | some _ => .error (.invalid "approval result shape is invalid")
  | none => .error (.invalid "approval result is invalid")

def approvalReason (approved : Bool) : String :=
  if approved then "用户已在受信任审批组件中确认。" else "用户已在受信任审批组件中拒绝。"

structure TrustedDecision where
  toolCallId : String
  approved : Bool
  confirmation : Dict

def TrustedDecision.toJson (d : TrustedDecision) : Json := .obj
  [("tool_call_id", .str d.toolCallId), ("approved", .bool d.approved),
   ("confirmation_data", .obj d.confirmation)]

end NetworkAgent.Supervisor
