import NetworkAgent.Library.Table
import NetworkAgent.Domain.Records
import NetworkAgent.Domain.Transition

/-! The in-memory incident repository. Every call runs under one lock, so a call is one
step: it reads the clock, decides, and writes. An exception does not roll a write back, so a
call answers with the repository it leaves behind, also when it fails. -/
namespace NetworkAgent
open Checks (require each)

inductive RepositoryError where
  | value (text : String)
  | unsafeWrite (incidentId : String) (reason : UnsafeReason)
  | notStateMachineOutput (incidentId : String)
  | validation (error : ModelError)
  | transition (error : TransitionError)
  | idempotencyConflict (idempotencyKey : String)
  | notFound (incidentId : String)
  | alreadyExists (incidentId : String)
  | activeConflict (incidentId existingId : String)
  | ownershipConflict (sourceEventId owner incidentId : String)
  | correlationConflict (requestedId : String) (conflicting : List String)
  | revisionConflict (incidentId : String) (expected : Int) (actual : Nat)
  | corruptedOwnership
  | inconsistent (text : String)
  deriving DecidableEq

/-! What every write checks before it takes the lock. -/

def requireValue (condition : Prop) [Decidable condition] (text : String) :
    Except RepositoryError Unit := require condition (.value text)

@[simp] theorem requireValue_ok {condition : Prop} [Decidable condition] {text : String} {u : Unit} :
    requireValue condition text = .ok u ↔ condition := Checks.require_ok

def requireNonEmpty (name value : String) (maxLength : Nat) : Except RepositoryError Unit := do
  requireValue (isBlank value = false) (name ++ " must be a non-empty string")
  requireValue (value.length ≤ maxLength)
    (name ++ " must be at most " ++ toString maxLength ++ " characters")

/-- `_assert_repository_safe` as the repository raises it. -/
def assertSafe (h : Host) (incidentId : String) (value : Json) : Except RepositoryError Nat :=
  match assertRepositorySafe h value with
  | .ok size => .ok size
  | .error reason => .error (.unsafeWrite incidentId reason)

def WriteMetadata.fields (w : WriteMetadata) : Dict :=
  [("actor", .str w.actor), ("reason", .str w.reason), ("trace_id", .str w.traceId)]

/-- `_require_write_metadata`. -/
def WriteMetadata.require (h : Host) (w : WriteMetadata) : Except RepositoryError Unit := do
  requireNonEmpty "idempotency_key" w.idempotencyKey 256
  requireNonEmpty "actor" w.actor 256
  requireNonEmpty "reason" w.reason 4096
  requireNonEmpty "trace_id" w.traceId 256
  let _ ← assertSafe h "<audit-metadata>"
    (.obj (("idempotency_key", .str w.idempotencyKey) :: w.fields))

/-- The scope of a request; the operation is a lower-case literal. -/
structure Scope where
  operation : String
  incidentId : String
  idempotencyKey : String
  deriving DecidableEq

/-- `_scope`. -/
def requestScope (operation incidentId idempotencyKey : String) : Except RepositoryError Scope := do
  requireNonEmpty "operation" operation 64
  requireNonEmpty "incident_id" incidentId 256
  requireNonEmpty "idempotency_key" idempotencyKey 256
  return { operation, incidentId, idempotencyKey }

def fingerprint (h : Host) (operation : String) (payload : Dict) : Sha256.Digest :=
  h.stableHash (.obj [("operation", .str operation), ("payload", .obj payload)])

structure IdempotencyRecord where
  fingerprint : Sha256.Digest
  result : Incident

/-- `_audit_event`: the event of a commit, named by its request. -/
def auditEvent (h : Host) (i : Incident) (fromStatus : Option IncidentStatus) (w : WriteMetadata)
    (fp : Sha256.Digest) (occurredAt : Instant) : Except RepositoryError IncidentAuditEvent :=
  let eventDigest := h.sha256
    (utf8 i.incidentId.text ++ 0 :: utf8 w.idempotencyKey ++ 0 :: utf8 fp.text)
  let eventId := "audit-" ++ String.ofList (eventDigest.text.toList.take 32)
  match Identifier.parse eventId, w.attribution with
  | some eventId, some a => .ok {
      eventId
      incidentId := i.incidentId
      fromStatus
      toStatus := i.status
      revision := i.revision
      occurredAt
      actor := a.actor
      reason := a.reason
      idempotencyKey := a.idempotencyKey
      traceId := a.traceId }
  | _, _ => .error (.validation (.message "IncidentAuditEvent"))

structure Memory where
  incidents : Table String Incident := ∅
  idempotency : Table Scope IdempotencyRecord := ∅
  history : Table String (List IncidentAuditEvent) := ∅
  sourceEvents : Table (String × String) SourceEventAssociation := ∅

namespace Memory

def replay (m : Memory) (scope : Scope) (fp : Sha256.Digest) :
    Except RepositoryError (Option Incident) :=
  match m.idempotency.lookup scope with
  | none => .ok none
  | some record => do
    require (record.fingerprint = fp) (.idempotencyConflict scope.idempotencyKey)
    return some record.result

def associatedSourceIds (m : Memory) (incidentId : String) : List String :=
  (m.sourceEvents.rows.filter fun r => r.1.1 = incidentId).map fun r => r.1.2

def owners (m : Memory) (sourceEventId : String) : List String :=
  ((m.sourceEvents.rows.filter fun r => r.1.2 = sourceEventId).map fun r => r.1.1).dedup

/-- `_source_event_owner_locked`. -/
def sourceEventOwner (m : Memory) (sourceEventId : String) :
    Except RepositoryError (Option String) := do
  require ((m.owners sourceEventId).length ≤ 1) .corruptedOwnership
  return (m.owners sourceEventId).head?

def Answers (m : Memory) (correlationKey : Option String) (sourceIds : List String)
    (i : Incident) : Prop :=
  (∃ key ∈ correlationKey, i.correlationKey.map (·.text) = some key) ∨
    ∃ s ∈ sourceIds, s ∈ m.associatedSourceIds i.incidentId.text

instance (m : Memory) (correlationKey : Option String) (sourceIds : List String) (i : Incident) :
    Decidable (m.Answers correlationKey sourceIds i) := inferInstanceAs (Decidable (_ ∨ _))

def activeMatches (m : Memory) (correlationKey : Option String) (sourceIds : List String)
    (excluded : Option String) : List Incident :=
  (m.incidents.values.insertionSort fun a b => textLe a.incidentId.text b.incidentId.text).filter
    fun i => excluded ≠ some i.incidentId.text ∧ i.status.isActive = true ∧
      m.Answers correlationKey sourceIds i

def findActiveLocked (m : Memory) (correlationKey : Option String) (sourceIds : List String)
    (excluded : Option String) (requestedId : String) : Except RepositoryError (Option Incident) :=
  let found := m.activeMatches correlationKey sourceIds excluded
  do
    require (found.length ≤ 1)
      (.correlationConflict requestedId (found.map (·.incidentId.text)))
    return found.head?

def findActive (m : Memory) (correlationKey sourceEventId : Option String) :
    Except RepositoryError (Option Incident) := do
  requireValue (correlationKey.isSome ∨ sourceEventId.isSome)
    "correlation_key or source_event_id is required"
  m.findActiveLocked correlationKey sourceEventId.toList none "<lookup>"

/-! Writes. -/

def associate (m : Memory) (a : SourceEventAssociation) : Memory :=
  { m with sourceEvents := m.sourceEvents.insert (a.incidentId.text, a.sourceEventId.text) a }

/-- The associations of the given source events are added in order; the first that cannot be
built stops the loop and leaves the earlier ones in place. -/
def addAssociations (h : Host) (incidentId : Identifier) (registeredAt : Instant)
    (w : WriteMetadata) : List Identifier → Memory → Except RepositoryError Unit × Memory
  | [], m => (.ok (), m)
  | s :: rest, m =>
    if (incidentId.text, s.text) ∈ m.sourceEvents then
      addAssociations h incidentId registeredAt w rest m
    else match w.attribution with
      | none => (.error (.validation (.message "SourceEventAssociation")), m)
      | some a =>
        let association := SourceEventAssociation.build incidentId s registeredAt a
        match assertSafe h incidentId.text association.toJson with
        | .error e => (.error e, m)
        | .ok _ => addAssociations h incidentId registeredAt w rest (m.associate association)

def capacityText : String := "incident source-event association capacity exceeded 1000"

def sortedSources (sourceIds : List Identifier) : List Identifier :=
  sourceIds.dedup.insertionSort fun a b => textLe a.text b.text

/-- The checks of a registration: the capacity, then the owner of every source event. -/
def requireRegistrable (m : Memory) (incidentId : Identifier) (sourceIds : List Identifier) :
    Except RepositoryError Unit := do
  requireValue ((m.associatedSourceIds incidentId.text ++ sourceIds.map (·.text)).dedup.length ≤
    maxIncidentSourceEvents) capacityText
  each (fun s => do
    let owner ← m.sourceEventOwner s.text
    require (∀ o ∈ owner, o = incidentId.text)
      (.ownershipConflict s.text (owner.getD "") incidentId.text)) (sortedSources sourceIds)

/-- `_register_source_events_locked`. -/
def registerSourceEvents (h : Host) (m : Memory) (incidentId : Identifier)
    (sourceIds : List Identifier) (registeredAt : Instant) (w : WriteMetadata) :
    Except RepositoryError Unit × Memory :=
  match m.requireRegistrable incidentId sourceIds with
  | .error e => (.error e, m)
  | .ok () => addAssociations h incidentId registeredAt w (sortedSources sourceIds) m

structure Request where
  scope : Scope
  fingerprint : Sha256.Digest
  metadata : WriteMetadata

/-- A decided call: the stored answer of an earlier one, or what there is to write. -/
inductive Decision (α : Type) where
  | replayed (result : Incident)
  | proceed (request : Request) (work : α)

def writeIncident (m : Memory) (r : Request) (i : Incident) (events : List IncidentAuditEvent) :
    Memory :=
  { m with
    incidents := m.incidents.insert i.incidentId.text i
    idempotency := m.idempotency.insert r.scope ⟨r.fingerprint, i⟩
    history := m.history.insert i.incidentId.text events }

/-- `_commit_create_locked`. -/
def commitCreate (h : Host) (m : Memory) (r : Request) (i : Incident) (occurredAt : Instant) :
    Except RepositoryError Incident × Memory :=
  match auditEvent h i none r.metadata r.fingerprint occurredAt with
  | .error e => (.error e, m)
  | .ok event =>
    match m.registerSourceEvents h i.incidentId i.sourceEventIds occurredAt r.metadata with
    | (.error e, m) => (.error e, m)
    | (.ok (), m) => (.ok i, m.writeIncident r i [event])

/-- `_commit_transition_locked`. -/
def commitTransition (h : Host) (m : Memory) (r : Request) (current successor : Incident)
    (occurredAt : Instant) : Except RepositoryError Incident × Memory :=
  match auditEvent h successor (some current.status) r.metadata r.fingerprint occurredAt with
  | .error e => (.error e, m)
  | .ok event =>
    match m.registerSourceEvents h successor.incidentId successor.sourceEventIds occurredAt
        r.metadata with
    | (.error e, m) => (.error e, m)
    | (.ok (), m) => (.ok successor, m.writeIncident r successor
        (((m.history.lookup successor.incidentId.text).getD []) ++ [event]))

def commitCorrelation (h : Host) (m : Memory) (r : Request) (existing : Incident)
    (sourceIds : List Identifier) (registeredAt : Instant) :
    Except RepositoryError Incident × Memory :=
  match m.registerSourceEvents h existing.incidentId sourceIds registeredAt r.metadata with
  | (.error e, m) => (.error e, m)
  | (.ok (), m) => (.ok existing,
      { m with idempotency := m.idempotency.insert r.scope ⟨r.fingerprint, existing⟩ })

end Memory

end NetworkAgent
