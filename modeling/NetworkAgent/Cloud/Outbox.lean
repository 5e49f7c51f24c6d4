import NetworkAgent.Library.Runs
import NetworkAgent.Library.Table
import NetworkAgent.Domain.Contracts
import NetworkAgent.Cloud.Common

/-! The Spanner outbox. Every call is one serializable transaction, given the reading of its
own clock; a call that raises writes nothing. -/
namespace NetworkAgent.Cloud
open Checks (require)

inductive OutboxStatus where
  | pending | leased | delivered | dead
  deriving DecidableEq

def OutboxStatus.value : OutboxStatus → String
  | .pending => "PENDING" | .leased => "LEASED" | .delivered => "DELIVERED" | .dead => "DEAD"

def maxOutboxClaim : Int := 100
def maxOutboxAttempts : Int := 1000000
def maxLeaseSeconds : Int := 3600
def maxRetryDelaySeconds : Int := 86400

/-- `str.lower`, as far as it makes an ASCII letter. -/
def lowerAscii (c : Char) : Char :=
  if 'A' ≤ c ∧ c ≤ 'Z' then Char.ofNat (c.toNat + 32) else if c.toNat = 0x212A then 'k' else c

/-- `_ERROR_CODE_PATTERN`. -/
def isErrorCode : List Char → Bool
  | [] => false
  | c :: rest => ('a' ≤ c && c ≤ 'z') && rest.length ≤ 127 &&
    rest.all fun c => isLowerOrDigit c || c == '_' || c == '.' || c == '-'

structure ErrorCode where
  text : String
  matched : isErrorCode (Text.chars text) = true
  deriving DecidableEq

inductive OutboxError where
  | input (error : InputError)
  | leaseConflict (text : String)
  | malformedRow
  | identityMismatch
  | ineligibleRow
  | validation (text : String)
  deriving DecidableEq

def checkInput {α : Type} : Except InputError α → Except OutboxError α
  | .ok a => .ok a
  | .error e => .error (.input e)

/-- `_error_code`. -/
def ErrorCode.parse (value : String) : Except OutboxError ErrorCode := do
  let stripped ← checkInput (requireNonEmpty "error_code" value 128)
  let normalized := String.ofList ((Text.chars stripped.text).map lowerAscii)
  if matched : isErrorCode (Text.chars normalized) = true then return ⟨normalized, matched⟩
  else .error (.input (.value "error_code must be a bounded machine-readable code"))

def maxAttemptsExceeded : ErrorCode := ⟨"max_attempts_exceeded", by decide +kernel⟩

structure OutboxRecord where
  eventId : Identifier
  incidentId : Identifier
  sourceEventId : Identifier
  eventType : Identifier
  payload : IncidentTrigger
  status : OutboxStatus
  attempts : Int
  availableAt : Instant
  createdAt : Instant
  publishedAt : Option Instant := none
  leaseOwner : Option Identifier := none
  leaseExpiresAt : Option Instant := none
  lastErrorCode : Option ErrorCode := none
  deriving DecidableEq

namespace OutboxRecord

def toJson (r : OutboxRecord) : Json := .obj
  [("event_id", dumpId r.eventId), ("incident_id", dumpId r.incidentId),
   ("source_event_id", dumpId r.sourceEventId), ("event_type", dumpId r.eventType),
   ("payload", r.payload.toJson), ("status", .str r.status.value), ("attempts", .int r.attempts),
   ("available_at", dumpTime "Z" r.availableAt), ("created_at", dumpTime "Z" r.createdAt),
   ("published_at", optional (dumpTime "Z") r.publishedAt),
   ("lease_owner", optional dumpId r.leaseOwner),
   ("lease_expires_at", optional (dumpTime "Z") r.leaseExpiresAt),
   ("last_error_code", optional (fun c => .str c.text) r.lastErrorCode)]

def requireState (condition : Prop) [Decidable condition] (text : String) :
    Except OutboxError Unit := require condition (.validation text)

def validateLease (r : OutboxRecord) : Except OutboxError Unit :=
  if r.status = .leased then do
    requireState (r.leaseOwner.isSome ∧ r.leaseExpiresAt.isSome)
      "LEASED outbox record requires an owner and expiry"
    requireState (r.publishedAt = none) "LEASED outbox record cannot be published"
  else
    requireState (r.leaseOwner = none ∧ r.leaseExpiresAt = none)
      "only LEASED outbox records can carry lease metadata"

def validatePublication (r : OutboxRecord) : Except OutboxError Unit :=
  if r.status = .delivered then
    requireState r.publishedAt.isSome "DELIVERED outbox record requires published_at"
  else
    requireState (r.publishedAt = none) "only DELIVERED outbox records can be published"

/-- `validate_attempts` and `validate_binding_and_state`. -/
def validate (h : Host) (r : OutboxRecord) : Except OutboxError Unit := do
  checkInput (requireInteger "attempts" r.attempts 0 maxOutboxAttempts)
  requireState (r.eventType.text = IncidentTrigger.messageType ∧
      r.incidentId = r.payload.incidentId ∧ r.incidentId = r.payload.incident.incidentId ∧
      r.sourceEventId ∈ r.payload.incident.sourceEventIds)
    "outbox trigger binding mismatch"
  r.validateLease
  r.validatePublication
  checkInput (assertSafe h "outbox-record" r.toJson)

/-- `_parse_row`: the payload is parsed on the way. A policy violation is not a value error
and keeps its own name. -/
def parseRow (h : Host) (r : OutboxRecord) : Except OutboxError Unit :=
  match r.payload.validate h with
  | .error _ => .error .malformedRow
  | .ok _ => match r.validate h with
    | .ok _ => .ok ()
    | .error (.input (.unsafeWrite boundary reason)) => .error (.input (.unsafeWrite boundary reason))
    | .error _ => .error .malformedRow

def Valid (h : Host) (r : OutboxRecord) : Prop :=
  r.payload.validate h = .ok () ∧ r.validate h = .ok ()

def Claimable (r : OutboxRecord) (now : Instant) : Prop :=
  (r.status = .pending ∧ r.availableAt ≤ now) ∨
    (r.status = .leased ∧ ∃ expiry ∈ r.leaseExpiresAt, expiry ≤ now)

instance (r : OutboxRecord) (now : Instant) : Decidable (r.Claimable now) :=
  inferInstanceAs (Decidable (_ ∨ _))

end OutboxRecord

structure Outbox where
  rows : Table String OutboxRecord
  keyed : ∀ k r, rows.lookup k = some r → r.eventId.text = k

namespace Outbox

theorem keyed_empty (k : String) (r : OutboxRecord)
    (stored : (∅ : Table String OutboxRecord).lookup k = some r) : r.eventId.text = k := by
  cases stored

/-- `_update_tx`. -/
def put (o : Outbox) (r : OutboxRecord) : Outbox where
  rows := o.rows.insert r.eventId.text r
  keyed k r' stored := by
    rcases Table.lookup_insert_iff.mp stored with ⟨rfl, rfl⟩ | ⟨_, before⟩
    · rfl
    · exact o.keyed k r' before

def deliveryOrder (a b : OutboxRecord) : Bool :=
  a.availableAt < b.availableAt ||
    (a.availableAt == b.availableAt && textLe a.eventId.text b.eventId.text)

def claimable (o : Outbox) (now : Instant) (limit : Nat) : List OutboxRecord :=
  ((o.rows.values.filter fun r => r.Claimable now).insertionSort
    fun a b => deliveryOrder a b).take limit

/-- The body of the claim loop: an exhausted record dies, any other is leased. -/
def claimRow (h : Host) (now : Instant) (owner : Identifier) (expiry : Instant)
    (maxAttempts : Int) (current : OutboxRecord) : Except OutboxError OutboxRecord := do
  current.parseRow h
  require (current.Claimable now) .ineligibleRow
  if maxAttempts ≤ current.attempts then
    let dead := { current with
      status := .dead
      leaseOwner := none
      leaseExpiresAt := none
      lastErrorCode := some maxAttemptsExceeded }
    dead.validate h
    return dead
  else
    let leased := { current with
      status := .leased
      attempts := current.attempts + 1
      leaseOwner := some owner
      leaseExpiresAt := some expiry }
    leased.validate h
    return leased

/-- `claim`: the records it leased, and the table. -/
def claim (h : Host) (o : Outbox) (leaseOwner : String) (limit leaseSeconds maxAttempts : Int)
    (now : Instant) : Except OutboxError (List OutboxRecord × Outbox) := do
  let owner ← checkInput (requireNonEmpty "lease_owner" leaseOwner 256)
  checkInput (assertSafe h "outbox-claim" (.obj [("lease_owner", .str owner.text)]))
  checkInput (requireInteger "limit" limit 1 maxOutboxClaim)
  checkInput (requireInteger "lease_seconds" leaseSeconds 1 maxLeaseSeconds)
  checkInput (requireInteger "max_attempts" maxAttempts 1 maxOutboxAttempts)
  let updated ← (o.claimable now limit.toNat).mapM
    (claimRow h now (asIdentifier owner) (now + leaseSeconds * 1000000) maxAttempts)
  return (updated.filter fun r => r.status = .leased, updated.foldl put o)

/-- What a finishing call does with the record it holds. -/
inductive Finish where
  | delivered
  | retry (delaySeconds : Int) (errorCode : ErrorCode)
  | dead (errorCode : ErrorCode)

def Finish.apply (now : Instant) (current : OutboxRecord) : Finish → OutboxRecord
  | .delivered => { current with
      leaseOwner := none
      leaseExpiresAt := none
      status := .delivered
      publishedAt := some now
      lastErrorCode := none }
  | .retry delaySeconds errorCode => { current with
      leaseOwner := none
      leaseExpiresAt := none
      status := .pending
      availableAt := now + delaySeconds * 1000000
      lastErrorCode := some errorCode }
  | .dead errorCode => { current with
      leaseOwner := none
      leaseExpiresAt := none
      status := .dead
      lastErrorCode := some errorCode }

/-- Whether the record is leased to this worker, on this attempt, and not expired. -/
def HeldBy (current : OutboxRecord) (owner : String) (attempt : Int) (now : Instant) : Prop :=
  current.status = .leased ∧ current.leaseOwner.map (·.text) = some owner ∧
    current.attempts = attempt ∧ ∃ expiry ∈ current.leaseExpiresAt, now < expiry

instance (current : OutboxRecord) (owner : String) (attempt : Int) (now : Instant) :
    Decidable (HeldBy current owner attempt now) := inferInstanceAs (Decidable (_ ∧ _ ∧ _ ∧ _))

/-- `_get_tx`. -/
def get (h : Host) (o : Outbox) (eventId : String) : Except OutboxError (Option OutboxRecord) :=
  match o.rows.lookup eventId with
  | none => .ok none
  | some record => do
    record.parseRow h
    require (record.eventId.text = eventId) .identityMismatch
    return some record

def finishLease (h : Host) (o : Outbox) (eventId leaseOwner : String) (expectedAttempt : Int)
    (finish : Finish) (now : Instant) : Except OutboxError (List OutboxRecord × Outbox) := do
  let event ← checkInput (requireNonEmpty "event_id" eventId 256)
  let owner ← checkInput (requireNonEmpty "lease_owner" leaseOwner 256)
  checkInput (assertSafe h "outbox-lease"
    (.obj [("event_id", .str event.text), ("lease_owner", .str owner.text)]))
  checkInput (requireInteger "expected_attempt" expectedAttempt 1 maxOutboxAttempts)
  match ← o.get h event.text with
  | none => .error (.leaseConflict "outbox event does not exist")
  | some current => do
    require (HeldBy current owner.text expectedAttempt now)
      (.leaseConflict "outbox lease is stale or owned by another worker")
    let successor := finish.apply now current
    successor.validate h
    return ([successor], o.put successor)

end Outbox

/-! Runs. -/

inductive OutboxCall where
  | claim (leaseOwner : String) (limit leaseSeconds maxAttempts : Int)
  | markDelivered (eventId leaseOwner : String) (expectedAttempt : Int)
  | retry (eventId leaseOwner : String) (expectedAttempt delaySeconds : Int) (errorCode : String)
  | markDead (eventId leaseOwner : String) (expectedAttempt : Int) (errorCode : String)

namespace Outbox

def step (h : Host) (o : Outbox) (now : Instant) :
    OutboxCall → Except OutboxError (List OutboxRecord × Outbox)
  | .claim leaseOwner limit leaseSeconds maxAttempts =>
    o.claim h leaseOwner limit leaseSeconds maxAttempts now
  | .markDelivered eventId leaseOwner expectedAttempt =>
    o.finishLease h eventId leaseOwner expectedAttempt .delivered now
  | .retry eventId leaseOwner expectedAttempt delaySeconds errorCode => do
    checkInput (requireInteger "delay_seconds" delaySeconds 0 maxRetryDelaySeconds)
    let errorCode ← ErrorCode.parse errorCode
    o.finishLease h eventId leaseOwner expectedAttempt (.retry delaySeconds errorCode) now
  | .markDead eventId leaseOwner expectedAttempt errorCode => do
    let errorCode ← ErrorCode.parse errorCode
    o.finishLease h eventId leaseOwner expectedAttempt (.dead errorCode) now

def next (h : Host) (o : Outbox) (call : Instant × OutboxCall) : Outbox :=
  match o.step h call.1 call.2 with
  | .ok (_, o') => o'
  | .error _ => o

def run (h : Host) (o : Outbox) (calls : List (Instant × OutboxCall)) : Outbox :=
  Runs.run (next h) o calls

end Outbox
end NetworkAgent.Cloud
