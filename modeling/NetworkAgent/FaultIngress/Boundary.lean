import NetworkAgent.FaultIngress.Service

/-! The boundary of the fault ingress: from one HTTP request to a parsed push, and from the
decision about it to a response. A response of 503 makes the sender deliver the same message
again. -/
namespace NetworkAgent.FaultIngress
open Cloud (SourceEventEnvelope IngestResult IngestCall IngestError EventStore)
open Checks (require)

/-! What the boundary calls. -/

inductive LoadsError where
  | unicodeDecode | jsonDecode | recursion | value

/-- What reading a JSON text comes to. Lone surrogates are read, but no text holds them. -/
inductive Loaded where
  | raised (error : LoadsError)
  | loneSurrogate
  | value (v : Json)

structure Readers where
  loads : List Nat → Loaded
  awareDatetime : Json → Option Instant
  integer : Json → Option Int
  b64decode : List Char → Option (List Nat)
  fromisoformat : String → Option Instant

def jsonObject (r : Readers) (data : List Nat) : Option Dict :=
  match r.loads data with
  | .raised .unicodeDecode | .raised .jsonDecode | .raised .recursion | .raised .value => none
  | .loneSurrogate => none
  | .value (.obj fields) => some fields
  | .value _ => none

/-! The envelope of a push. -/

structure PubSubMessage where
  data : String
  messageId : String
  publishTime : Instant
  orderingKey : String
  deriving DecidableEq

structure PubSubPush where
  message : PubSubMessage
  subscription : String
  deliveryAttempt : Option Int
  deriving DecidableEq

def boundedString : Json → Option String
  | .str value =>
    let stripped := stripWhitespace value
    if 1 ≤ stripped.length ∧ stripped.length ≤ 1024 then some stripped else none
  | _ => none

def textBetween (minimum maximum : Nat) : Json → Option String
  | .str value => if minimum ≤ value.length ∧ value.length ≤ maximum then some value else none
  | _ => none

/-- `_bounded_attributes`. The map is checked and dropped. -/
def boundedAttributes : Json → Bool
  | .obj fields => decide (fields.length ≤ 64) && fields.all fun field =>
    decide (field.1.length ≤ 256) && (textBetween 0 1024 field.2).isSome
  | _ => false

def nonEmpty : Json → Option String
  | .str value => if value = "" then none else some value
  | _ => none

def PubSubMessage.modelValidate (r : Readers) : Json → Option PubSubMessage
  | .obj fields => do
    guard (∀ field ∈ fields,
      field.1 ∈ ["data", "messageId", "publishTime", "attributes", "orderingKey"])
    let data ← (fields.lookup "data").bind nonEmpty
    let messageId ← (fields.lookup "messageId").bind boundedString
    let publishTime ← (fields.lookup "publishTime").bind r.awareDatetime
    guard (boundedAttributes ((fields.lookup "attributes").getD (.obj [])) = true)
    let orderingKey ← textBetween 0 1024 ((fields.lookup "orderingKey").getD (.str ""))
    return { data, messageId, publishTime, orderingKey }
  | _ => none

def readAttempt (r : Readers) : Option Json → Option (Option Int)
  | none | some .null => some none
  | some value => do
    let attempt ← r.integer value
    guard (1 ≤ attempt ∧ attempt ≤ 10000)
    return some attempt

def PubSubPush.modelValidate (r : Readers) (outer : Dict) : Option PubSubPush := do
  guard (∀ field ∈ outer, field.1 ∈ ["message", "subscription", "deliveryAttempt"])
  let message ← (outer.lookup "message").bind (PubSubMessage.modelValidate r)
  let subscription ← (outer.lookup "subscription").bind boundedString
  let deliveryAttempt ← readAttempt r (outer.lookup "deliveryAttempt")
  return { message, subscription, deliveryAttempt }

/-! The configuration, as its constructor leaves it. -/

structure IngressConfig extends FaultIngressConfig where
  allowedSubscriptions : List String
  maxRequestBytes : Nat := 262144
  limits : Limits := {}
  requestBytes : 1 ≤ maxRequestBytes ∧ maxRequestBytes ≤ 10000000 := by decide
  decodedBytes : 1 ≤ limits.maxDecodedBytes ∧ limits.maxDecodedBytes ≤ maxRequestBytes := by decide
  jsonDepth : 2 ≤ limits.maxJsonDepth ∧ limits.maxJsonDepth ≤ 32 := by decide
  eventAge : 1 ≤ settings.maxEventAgeSeconds ∧ settings.maxEventAgeSeconds ≤ 604800 := by decide
  futureSkew : 1 ≤ settings.maxFutureSkewSeconds ∧ settings.maxFutureSkewSeconds ≤ 300 := by decide

/-! Parsing a push. -/

def orReject {α : Type} (code : String) : Option α → Except IngressFailure α
  | some a => .ok a
  | none => .error (.permanent code)

/-- `data.encode("ascii")` and the decoding after it. -/
def decodeData (r : Readers) (data : String) : Option (List Nat) :=
  if data.toList.all fun c => decide (c.toNat < 128) then r.b64decode data.toList else none

/-- `parse_pubsub_push` up to its last statement. -/
def readPush (h : Host) (r : Readers) (config : IngressConfig) (body : List Nat) :
    Except IngressFailure (PubSubPush × ParsedPubSubPush) := do
  require (body ≠ [] ∧ body.length ≤ config.maxRequestBytes)
    (.permanent "PUBSUB_REQUEST_SIZE_INVALID")
  let outer ← orReject "PUBSUB_ENVELOPE_INVALID" (jsonObject r body)
  require ((Json.obj outer).depth ≤ config.limits.maxJsonDepth)
    (.permanent "PUBSUB_ENVELOPE_TOO_DEEP")
  let push ← orReject "PUBSUB_ENVELOPE_INVALID" (PubSubPush.modelValidate r outer)
  require (push.subscription ∈ config.allowedSubscriptions)
    (.permanent "PUBSUB_SUBSCRIPTION_REJECTED")
  let decoded ← orReject "PUBSUB_DATA_INVALID" (decodeData r push.message.data)
  let parsed ← parseData h (jsonObject r) config.limits decoded
  return (push, parsed)

structure TransportPush extends ParsedPubSubPush where
  subscription : String
  messageId : String
  publishTime : Instant
  deliveryAttempt : Option Int

def parsePubsubPush (h : Host) (r : Readers) (config : IngressConfig) (body : List Nat) :
    Except IngressFailure TransportPush := do
  let (push, parsed) ← readPush h r config body
  let publishTime ← calendar push.message.publishTime
  return {
    parsed with
    subscription := push.subscription
    messageId := push.message.messageId
    publishTime
    deliveryAttempt := push.deliveryAttempt }

/-! The service, over a repository that answers each call in its own way. -/

structure IngressService where
  config : IngressConfig
  ingest : IngestCall → Except IngestError IngestResult
  legacyHandler : Option (TransportPush → LegacyOutcome)
  receivedAt : Instant

namespace IngressService

/-- The ingestion of a push in one of the modes that call the repository. -/
def ingestPush (h : Host) (r : Readers) (service : IngressService) (push : TransportPush) :
    Except String IngressDecision :=
  match prepare h r.fromisoformat service.config.toFaultIngressConfig service.receivedAt
      push.toParsedPubSubPush with
  | .error failure => refused failure
  | .ok p => match service.ingest (p.call service.config.toFaultIngressConfig) with
    | .error error => failed error
    | .ok result => .ok (acknowledge h service.config.toFaultIngressConfig p result)

def process (h : Host) (r : Readers) (service : IngressService) (push : TransportPush) :
    Except String IngressDecision :=
  match service.config.mode with
  | .paused => .ok { httpStatus := 503, code := "FAULT_PIPELINE_PAUSED" }
  | .legacy => .ok (legacyDecision (service.legacyHandler.map fun handler _ => handler push)
      push.toParsedPubSubPush)
  | .shadow | .canonical => service.ingestPush h r push

end IngressService

/-! The HTTP endpoint. -/

/-- A body larger than the server reads is `none`. -/
structure Request where
  contentType : String
  contentLength : Option Nat
  body : Option (List Nat)

structure Response where
  status : Nat
  code : Option String := none
  retryAfter : Option Nat := none
  deriving DecidableEq

/-- `_error`. -/
def errorResponse (status : Nat) (code : String) : Response where
  status := status
  code := some code
  retryAfter := if status = 503 then some 5 else none

def readBody (config : IngressConfig) (request : Request) : Except String (List Nat) := do
  require (request.contentType = "application/json") "PUBSUB_CONTENT_TYPE_INVALID"
  require (∀ length ∈ request.contentLength, length ≤ config.maxRequestBytes)
    "PUBSUB_REQUEST_SIZE_INVALID"
  match request.body with
  | some body => .ok body
  | none => .error "PUBSUB_REQUEST_SIZE_INVALID"

def respond : Except String IngressDecision → Response
  | .error code => errorResponse 400 code
  | .ok decision =>
    if decision.httpStatus = 204 then { status := 204 }
    else errorResponse decision.httpStatus decision.code

def receive (h : Host) (r : Readers) (service : IngressService) (request : Request) : Response :=
  match readBody service.config request with
  | .error code => errorResponse 400 code
  | .ok body => match parsePubsubPush h r service.config body with
    | .error (.permanent code) => errorResponse 400 code
    | .error _ => errorResponse 503 "FAULT_INGRESS_UNAVAILABLE"
    | .ok push => respond (service.process h r push)

end NetworkAgent.FaultIngress
