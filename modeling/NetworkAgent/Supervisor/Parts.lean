import NetworkAgent.Supervisor.Payload

/-! The payload as a whole, and the parts of a message or an artifact that carry it: one
structured part that is authoritative, and at most one text that is only shown. -/
namespace NetworkAgent.Supervisor

/-! The rules of each kind of message. -/

/-- A decimal number without leading zeros and below the bound, digits as the runtime reads them. -/
def isCanonicalComponent (p : Python) (component : List Char) : Bool :=
  !component.isEmpty && component.all (fun c => (p.digitValue c).isSome) &&
    (component.length ≤ 1 || component.head? != some '0') &&
    decide ((component.foldl (fun n c => 10 * n + (p.digitValue c).getD 0) 0) ≤ 268435455)

/-- `lte:enodeb:N`, or `lte:enodeb:N:cell:M`. -/
def isCanonicalResource (p : Python) (resourceId : String) : Bool :=
  match resourceId.toList.splitOn ':' with
  | [net, kind, node] =>
    net == "lte".toList && kind == "enodeb".toList && isCanonicalComponent p node
  | [net, kind, node, part, cell] =>
    net == "lte".toList && kind == "enodeb".toList && part == "cell".toList &&
      isCanonicalComponent p node && isCanonicalComponent p cell
  | _ => false

def canonicalResource (p : Python) (value : Json) : Check Unit := match value with
  | .str s => Checks.require (isCanonicalResource p s)
      (.invalid "scan resource_id is not canonical")
  | _ => .error (.invalid "scan resource_id is not canonical")

def validateScanRequest (p : Python) (decoded : Dict) : Check Unit := do
  utcPair p "scan" (field "window_start" decoded) (field "window_end" decoded) (some 31)
  stringList "scan resource_ids" (field "resource_ids" decoded) true (some 100)
  listOf "scan resource_ids" (canonicalResource p) (field "resource_ids" decoded)
  integer "scan page_size" (field "page_size" decoded) 1 (some 20)
  integer "scan page_offset" (field "page_offset" decoded) 0 (some 100)

/-- A challenge is missing or a text of 32 to 256 characters. -/
def IsChallenge : Json → Prop
  | .null => True
  | .str s => 32 ≤ s.length ∧ s.length ≤ maxIdChars
  | _ => False

instance : DecidablePred IsChallenge := fun value => match value with
  | .null => inferInstanceAs (Decidable True)
  | .str _ => inferInstanceAs (Decidable (_ ∧ _))
  | .bool _ | .int _ | .float _ | .arr _ | .obj _ => inferInstanceAs (Decidable False)

def truthy : Json → Bool
  | .null => false
  | .bool b => b
  | .int n => n != 0
  | .float q => q != 0
  | .str s => s != ""
  | .arr items => !items.isEmpty
  | .obj fields => !fields.isEmpty

def validateCandidatePage (p : Python) (decoded : Dict) : Check Unit := do
  identifier "candidate request_message_id" (field "request_message_id" decoded)
  let candidates ← listValue "candidates" (field "candidates" decoded) (some 20)
  Checks.each (validateCandidate p) candidates
  integer "candidate page_size" (field "page_size" decoded) 1 (some 20)
  integer "candidate page_offset" (field "page_offset" decoded) 0 (some 100)
  integer "candidate total_candidates" (field "total_candidates" decoded) 0 (some 100)
  orInvalid (isBool (field "has_more" decoded)) "candidate has_more"
  orInvalid (IsChallenge (field "challenge_id" decoded)) "candidate challenge_id"
  sha256Value "candidate snapshot_sha256" (field "snapshot_sha256" decoded)
  optionalUtcIso p "challenge_expires_at" (field "challenge_expires_at" decoded)
  Checks.require ((candidates ≠ [] ↔ truthy (field "challenge_id" decoded)) ∧
    (candidates ≠ [] ↔ truthy (field "challenge_expires_at" decoded)))
    (.invalid "candidate challenge presence is invalid")
  utcPair p "effective_window" (field "effective_window_start" decoded)
    (field "effective_window_end" decoded) (some 31)
  textValue "candidate page summary_zh" (field "summary_zh" decoded)

def validateConfirmationRequest (decoded : Dict) : Check Unit := do
  identifier "preview_message_id" (field "preview_message_id" decoded)
  identifier "candidate_id" (field "candidate_id" decoded)
  identifier "challenge_id" (field "challenge_id" decoded)
  sha256Value "snapshot_sha256" (field "snapshot_sha256" decoded)
  Checks.require (["preview_message_id", "candidate_id", "challenge_id", "snapshot_sha256",
    "message_id", "workflow_id", "trace_id", "idempotency_key"].map fun name => field name decoded).Nodup
    (.invalid "confirmation identifiers must remain independent")
  oneOf "confirmation decision" ["CONFIRM", "REJECT"] (field "decision" decoded)
  textValue "confirmation reason" (field "reason" decoded) maxTextChars false

def validateConfirmationResult (p : Python) (decoded : Dict) : Check Unit := do
  Checks.each (fun name => identifier ("confirmation result " ++ name) (field name decoded))
    ["request_message_id", "preview_message_id", "candidate_id", "actor"]
  oneOf "confirmation result outcome" ["CONFIRM", "REJECT"] (field "decision" decoded)
  oneOf "confirmation result outcome" ["created", "correlated", "replayed", "rejected"]
    (field "outcome" decoded)
  if field "decision" decoded = .str "REJECT" then
    Checks.require (field "outcome" decoded = .str "rejected" ∧ field "incident" decoded = .null)
      (.invalid "rejected confirmation result is invalid")
  else do
    Checks.require (field "outcome" decoded ≠ .str "rejected" ∧ field "incident" decoded ≠ .null)
      (.invalid "confirmed confirmation result is invalid")
    validateIncident p (field "incident" decoded)
  textValue "confirmation result summary_zh" (field "summary_zh" decoded)

def validateAnalyzeRequest (decoded : Dict) : Check Unit := do
  identifier "analyze incident_id" (field "incident_id" decoded)
  integer "requested_report_version" (field "requested_report_version" decoded) 1 (some 1000)

def validateAssurancePayload (p : Python) (type : MessageType) (decoded : Dict) : Check Unit :=
  match type with
  | .scanRequest => validateScanRequest p decoded
  | .candidatePage => validateCandidatePage p decoded
  | .confirmationRequest => validateConfirmationRequest decoded
  | .confirmationResult => validateConfirmationResult p decoded
  | .analyzeRequest => validateAnalyzeRequest decoded
  | .error => .ok ()

/-! The payload. -/

mutual
/-- Keys of at most 256 characters and texts of at most 4096. -/
def boundedStrings : Json → Bool
  | .str s => decide (s.length ≤ maxTextChars)
  | .arr items => boundedItems items
  | .obj fields => boundedFields fields
  | _ => true
def boundedItems : List Json → Bool
  | [] => true
  | x :: xs => boundedStrings x && boundedItems xs
def boundedFields : List (String × Json) → Bool
  | [] => true
  | (key, x) :: xs => decide (key.length ≤ maxIdChars) && boundedStrings x && boundedFields xs
end

def rejectSensitiveOrOversizedStrings (p : Python) (value : Json) : Check Unit := do
  Checks.require (boundedStrings value) (.invalid "canonical string exceeds the limit")
  Checks.require (findSensitivePaths p.toHost "$" value = [])
    (.invalid "sensitive subscriber data is not allowed")

/-- An error code: an upper-case letter, then upper-case letters, digits and underscores. -/
def IsErrorCode : Json → Prop
  | .str s => 3 ≤ s.length ∧ s.length ≤ 64 ∧ s.toList.head?.any Char.isUpper ∧
      s.toList.all fun c => c.isUpper || c.isDigit || c == '_'
  | _ => False

instance : DecidablePred IsErrorCode := fun value => match value with
  | .str _ => inferInstanceAs (Decidable (_ ∧ _))
  | .null | .bool _ | .int _ | .float _ | .arr _ | .obj _ => inferInstanceAs (Decidable False)

/-- A field every message needs: a text that is not empty and of bounded length. -/
def requiredText (name : String) (value : Json) : Check Unit := match value with
  | .str s => do
    Checks.require (s ≠ "") (.invalid ("canonical payload has invalid " ++ name))
    Checks.require (s.length ≤ if name = "sent_at" then maxTextChars else maxIdChars)
      (.invalid ("canonical payload has oversized " ++ name))
  | _ => .error (.invalid ("canonical payload has invalid " ++ name))

def messageTypeOf (decoded : Dict) : Check MessageType :=
  match field "message_type" decoded with
  | .str s => match MessageType.parse s with
    | some type => .ok type
    | none => .error (.invalid "unsupported assurance message_type")
  | .arr _ | .obj _ => .error .notHashable
  | _ => .error (.invalid "unsupported assurance message_type")

def validateError (decoded : Dict) : Check Unit := do
  Checks.require (IsErrorCode (field "error_code" decoded))
    (.invalid "assurance_error has invalid error_code")
  textValue "assurance_error summary_zh" (field "summary_zh" decoded) 512

def requiredFields : MessageType → List String
  | .error => ["schema_version", "message_type", "message_id", "sent_at"]
  | _ => commonFields

/-- `_canonical_data`. Reading the canonical text back gives the value itself: an object does
not remember the order of its keys. -/
def canonicalData (p : Python) (value : Json) : Check Dict := match value with
  | .obj decoded => do
    Checks.require (value.depth ≤ maxCanonicalDepth)
      (.invalid "canonical payload depth exceeds the limit")
    Checks.require ((p.canonicalJson value).length ≤ maxCanonicalBytes)
      (.invalid "canonical payload size exceeds the limit")
    let type ← messageTypeOf decoded
    let _ ← strictObject type.value type.fields value
    rejectSensitiveOrOversizedStrings p value
    if type = .error then validateError decoded
    Checks.each (fun name => requiredText name (field name decoded)) (requiredFields type)
    Checks.require (field "schema_version" decoded = .str "1.0")
      (.invalid "unsupported schema_version")
    let _ ← parseUtcIso p "sent_at" (field "sent_at" decoded)
    if type ≠ .error then
      Checks.require (["message_id", "workflow_id", "trace_id", "idempotency_key"].map fun name =>
        field name decoded).Nodup
        (.invalid "canonical correlation identifiers must remain independent")
      validateAssurancePayload p type decoded
    return decoded
  | _ => .error (.invalid "DataPart data must be an object")

/-! The parts of a message or of an artifact. -/

inductive Part where
  | data (data : Json)
  | text (text : String)
  | other (kind : String)

/-- A message or an artifact; an artifact names neither a message nor a task. -/
structure Content where
  parts : List Part
  messageId : Option String := none
  taskId : Option String := none
  contextId : Option String := none

structure CanonicalContent where
  data : Dict
  text : Option String
  messageId : String

def boundedText (p : Python) (text : String) : Check String := do
  Checks.require (text ≠ "" ∧ text.length ≤ maxTextChars)
    (.invalid "TextPart length exceeds the limit")
  rejectSensitiveOrOversizedStrings p (.str text)
  return text

/-- `_optional_string`: what stands there is an identifier. -/
def optionalString (name : String) (value : Option String) : Check (Option String) := do
  Checks.require (∀ s ∈ value, s ≠ "" ∧ s.length ≤ maxIdChars) (.invalid ("invalid " ++ name))
  return value

def Agrees (expected given : Option String) : Prop := ∀ a ∈ expected, ∀ b ∈ given, a = b

instance (expected given : Option String) : Decidable (Agrees expected given) :=
  inferInstanceAs (Decidable (∀ a ∈ expected, ∀ b ∈ given, _))

def assertTransport (content : Content) (expectedTaskId expectedContextId : Option String) :
    Check Unit := do
  let task ← optionalString "task_id" content.taskId
  Checks.require (Agrees expectedTaskId task) (.invalid "task identifier mismatch")
  let context ← optionalString "context_id" content.contextId
  Checks.require (Agrees expectedContextId context) (.invalid "context identifier mismatch")

/-- `_assert_container_ids`, where no message is expected. -/
def assertContainerIds (content : Content) (dataMessageId : String)
    (expectedTaskId expectedContextId : Option String) : Check Unit := do
  let message ← optionalString "message_id" content.messageId
  Checks.require (Agrees message (some dataMessageId)) (.invalid "message identifier mismatch")
  assertTransport content expectedTaskId expectedContextId

def splitParts (p : Python) : List Part → Check (List Json × List String)
  | [] => .ok ([], [])
  | .data value :: rest => do
    let (values, texts) ← splitParts p rest
    return (value :: values, texts)
  | .text text :: rest => do
    let text ← boundedText p text
    let (values, texts) ← splitParts p rest
    return (values, text :: texts)
  | .other kind :: _ => .error (.invalid ("unsupported part kind: " ++ kind))

def messageIdOf (data : Dict) : String := match field "message_id" data with
  | .str s => s
  | _ => ""

/-- One structured part and at most one text, in any order. -/
def decodeCanonicalParts (p : Python) (content : Content)
    (expectedTaskId expectedContextId : Option String := none) : Check CanonicalContent := do
  Checks.require (1 ≤ content.parts.length ∧ content.parts.length ≤ 2)
    (.invalid "canonical content must contain one or two parts")
  let (values, texts) ← splitParts p content.parts
  match values, texts with
  | [value], [] | [value], [_] =>
    let data ← canonicalData p value
    assertContainerIds content (messageIdOf data) expectedTaskId expectedContextId
    return ⟨data, texts.head?, messageIdOf data⟩
  | _, _ => .error (.invalid
      "canonical content requires exactly one DataPart and at most one TextPart")

/-- One text; structured data is never shown in its place. -/
def decodeDisplayParts (p : Python) (content : Content)
    (expectedTaskId expectedContextId : Option String := none) : Check String :=
  match content.parts with
  | [.text text] => do
    assertTransport content expectedTaskId expectedContextId
    boundedText p text
  | [_] => .error (.invalid "display content must be TextPart-only")
  | _ => .error (.invalid "display content must contain exactly one TextPart")

end NetworkAgent.Supervisor
