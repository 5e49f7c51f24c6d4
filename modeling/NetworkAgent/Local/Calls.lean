import NetworkAgent.Memory.Reads
import NetworkAgent.Local.Repository

/-! The writes and reads of the DuckDB incident repository, and the runs they make up. -/
namespace NetworkAgent.Local
open Checks (require)

def validateNewIncident (h : Host) (i : Incident) (traceId : String) (now : Instant) :
    Except RepositoryError Incident := do
  requireValue (i.revision = 0) "a newly created incident must have revision 0"
  requireValue (i.status = .detected) "a newly created incident must have DETECTED status"
  requireValue (i.traceId.text = traceId) "trace_id must match incident.trace_id"
  let committed := { i with createdAt := now, updatedAt := now }
  Memory.liftValidation (committed.modelValidate h)
  let _ ← assertSafe h committed.toJson
  return committed

def createRequest (h : Host) (operation : String) (i : Incident) (w : WriteMetadata) :
    Except RepositoryError Memory.Request := do
  requireMetadata h w
  let _ ← assertSafe h i.toJson
  let scope ← requestScope operation i.incidentId.text w.idempotencyKey
  return ⟨scope, fingerprint h operation (("incident", i.toJson) :: w.fields), w⟩

def saveRequest (h : Host) (i : Incident) (expected : Int) (w : WriteMetadata) :
    Except RepositoryError Memory.Request := do
  requireMetadata h w
  let _ ← assertSafe h i.toJson
  requireValue (0 ≤ expected) "expected_revision must not be negative"
  let scope ← requestScope "save" i.incidentId.text w.idempotencyKey
  return ⟨scope, fingerprint h "save" (("incident", i.toJson) ::
    ("expected_revision", .int expected) :: w.fields), w⟩

/-- The policy on a mapping of updates. Its depth is counted on the mapping as it is given, in
which a model is a leaf; its other bounds are on the image. -/
def assertUpdatesSafe (h : Host) (depth : Nat) (u : Updates) : Except RepositoryError Unit := do
  require (depth ≤ maxContractDepth) (unsafePayload .depth)
  require (findSensitivePaths h "$" (.obj u.image) = []) (unsafePayload .privacy)
  require (serializedBytes h (.obj u.image) ≤ maxContractSerializedBytes) (unsafePayload .size)

def transitionRequest (h : Host) (incidentId : String) (target : IncidentStatus) (expected : Int)
    (w : WriteMetadata) (u : Updates) (depth : Nat) : Except RepositoryError Memory.Request := do
  requireMetadata h w
  let _ ← assertSafe h (.obj [("incident_id", .str incidentId)])
  requireValue (0 ≤ expected) "expected_revision must not be negative"
  assertUpdatesSafe h depth u
  let scope ← requestScope "transition" incidentId w.idempotencyKey
  return ⟨scope, fingerprint h "transition" (("target_status", .str target.value) ::
    ("expected_revision", .int expected) :: ("updates", .obj u.image) :: w.fields), w⟩

namespace Database

def unlessReplayed (d : Driver) (db : Database) (r : Memory.Request)
    (work : Except Fault (Incident × Database)) : Except Fault (Incident × Database) := do
  match ← db.replay d r.scope r.fingerprint with
  | some result => return (result, db)
  | none => work

/-- A transaction that raises is rolled back. -/
def transaction (db : Database) (work : Except Fault (Incident × Database)) :
    Except Fault Incident × Database :=
  match work with
  | .error e => (.error e, db)
  | .ok (result, db') => (.ok result, db')

/-! The work of each call, for a request without a record. -/

def createNew (d : Driver) (db : Database) (i : Incident) (w : WriteMetadata) (now : Instant)
    (r : Memory.Request) : Except Fault (Incident × Database) := do
  match ← db.getLocked d i.incidentId.text with
  | some _ => .error (.repository (.alreadyExists i.incidentId.text))
  | none => do
    let committed ← lift (validateNewIncident d.toHost i w.traceId now)
    match ← db.findActiveLocked d (committed.correlationKey.map (·.text))
        (committed.sourceEventIds.map (·.text)) none committed.incidentId.text with
    | some active => .error (.repository
        (.activeConflict committed.incidentId.text active.incidentId.text))
    | none => return (committed, ← db.commitCreate d.toHost r committed now)

def commitCorrelation (db : Database) (r : Memory.Request) (existing : Incident)
    (sourceIds : List Identifier) (registeredAt : Instant) : Except Fault Database := do
  let db ← db.insertSourceEvents existing.incidentId sourceIds registeredAt r.metadata
  db.insertIdempotency r.scope r.fingerprint existing

def createOrCorrelateNew (d : Driver) (db : Database) (i : Incident) (w : WriteMetadata)
    (now : Instant) (r : Memory.Request) : Except Fault (Incident × Database) := do
  let candidate ← lift (validateNewIncident d.toHost i w.traceId now)
  match ← db.findActiveLocked d (candidate.correlationKey.map (·.text))
      (candidate.sourceEventIds.map (·.text)) none candidate.incidentId.text with
  | some existing =>
    return (existing, ← db.commitCorrelation r existing candidate.sourceEventIds now)
  | none => do
    match ← db.getLocked d candidate.incidentId.text with
    | some _ => .error (.repository (.alreadyExists candidate.incidentId.text))
    | none => return (candidate, ← db.commitCreate d.toHost r candidate now)

def saveNew (d : Driver) (db : Database) (i : Incident) (expected : Int) (w : WriteMetadata)
    (now : Instant) (r : Memory.Request) : Except Fault (Incident × Database) := do
  let current ← db.requireCurrent d i.incidentId.text
  require (expected = current.revision ∧ (i.revision : Int) = expected + 1)
    (.repository (.revisionConflict i.incidentId.text expected current.revision))
  lift (Memory.requireTrace current w.traceId)
  lift (Memory.liftValidation (i.modelValidate d.toHost))
  let u := Memory.differences current i
  let _ ← lift (assertSafe d.toHost (.obj u.image))
  let successor ← lift (Memory.liftTransition
    (transitionIncident d.toHost current i.status expected (.given now) (.given now) u))
  require (Memory.SameExceptTime successor i)
    (.repository (.notStateMachineOutput i.incidentId.text))
  let _ ← lift (assertSafe d.toHost successor.toJson)
  db.requireReactivationKeys d current successor
  return (successor, ← db.commitTransition d.toHost r current successor now)

def transitionNew (d : Driver) (db : Database) (incidentId : String) (target : IncidentStatus)
    (expected : Int) (w : WriteMetadata) (u : Updates) (now : Instant) (r : Memory.Request) :
    Except Fault (Incident × Database) := do
  let current ← db.requireCurrent d incidentId
  require (expected = current.revision)
    (.repository (.revisionConflict incidentId expected current.revision))
  lift (Memory.requireTrace current w.traceId)
  let successor ← lift (Memory.liftTransition
    (transitionIncident d.toHost current target expected (.given now) (.given now) u))
  let _ ← lift (assertSafe d.toHost successor.toJson)
  db.requireReactivationKeys d current successor
  return (successor, ← db.commitTransition d.toHost r current successor now)

/-! The calls. -/

def create (d : Driver) (db : Database) (i : Incident) (w : WriteMetadata) (now : Instant) :
    Except Fault (Incident × Database) := do
  let r ← lift (createRequest d.toHost "create" i w)
  db.unlessReplayed d r (db.createNew d i w now r)

def createOrCorrelate (d : Driver) (db : Database) (i : Incident) (w : WriteMetadata)
    (now : Instant) : Except Fault (Incident × Database) := do
  let r ← lift (createRequest d.toHost "create_or_correlate" i w)
  db.unlessReplayed d r (db.createOrCorrelateNew d i w now r)

/-- `save`, which `compare_and_swap` calls. -/
def save (d : Driver) (db : Database) (i : Incident) (expected : Int) (w : WriteMetadata)
    (now : Instant) : Except Fault (Incident × Database) := do
  let r ← lift (saveRequest d.toHost i expected w)
  db.unlessReplayed d r (db.saveNew d i expected w now r)

def transition (d : Driver) (db : Database) (incidentId : String) (target : IncidentStatus)
    (expected : Int) (w : WriteMetadata) (u : Updates) (depth : Nat) (now : Instant) :
    Except Fault (Incident × Database) := do
  let r ← lift (transitionRequest d.toHost incidentId target expected w u depth)
  db.unlessReplayed d r (db.transitionNew d incidentId target expected w u now r)

/-! Reads. -/

def get (d : Driver) (db : Database) (incidentId : String) : Except Fault (Option Incident) := do
  lift (requireNonEmpty "incident_id" incidentId 256)
  db.getLocked d incidentId

/-- `find_by_idempotency_key`, for an operation in lower case. -/
def findByIdempotencyKey (d : Driver) (db : Database) (incidentId idempotencyKey operation : String) :
    Except Fault (Option Incident) := do
  let scope ← lift (requestScope operation incidentId idempotencyKey)
  match db.idempotency.lookup scope with
  | none => return none
  | some row => return some (← parseIncident d row.resultPayload)

def findActive (d : Driver) (db : Database) (correlationKey sourceEventId : Option String) :
    Except Fault (Option Incident) := do
  lift (requireValue (correlationKey.isSome ∨ sourceEventId.isSome)
    "correlation_key or source_event_id is required")
  db.findActiveLocked d correlationKey sourceEventId.toList none "<lookup>"

/-- The loop over the rows of a page with `_append_bounded`. -/
def appendBounded {R A : Type} (h : Host) (parse : R → Except Fault A) (image : A → Json) :
    Nat → List R → Except Fault (List A)
  | _, [] => .ok []
  | size, row :: rest => do
    let a ← parse row
    let bytes ← lift (assertSafe h (image a))
    require (size + bytes ≤ maxRepositoryBatchBytes)
      (.repository (.unsafeWrite "<repository-page>" .batch))
    return a :: (← appendBounded h parse image (size + bytes) rest)

/-- What a page takes of its rows; a history may be read without a limit. -/
def page {R : Type} (limit : Option Nat) (offset : Nat) (rows : List R) : List R :=
  match limit with
  | none => rows
  | some limit => (rows.drop offset).take limit

def auditLe (a b : String × AuditRow) : Bool :=
  decide (a.2.revision < b.2.revision) || (a.2.revision == b.2.revision &&
    (decide (a.2.occurredAt < b.2.occurredAt) ||
      (a.2.occurredAt == b.2.occurredAt && textLe a.1 b.1)))

def history (d : Driver) (db : Database) (incidentId : String) (limit : Option Nat)
    (offset : Nat) : Except Fault (List IncidentAuditEvent) := do
  lift (requireNonEmpty "incident_id" incidentId 256)
  lift (requireValue (∀ n ∈ limit, 1 ≤ n ∧ n ≤ maxRepositoryPageSize)
    "limit must be between 1 and 1000")
  lift (requireValue (offset ≤ maxRepositoryOffset) "offset must be between 0 and 100000")
  lift (requireValue (limit.isSome ∨ offset = 0) "offset requires an explicit limit")
  let rows := (db.audit.rows.filter fun r => r.2.incidentId = incidentId).insertionSort
    fun a b => auditLe a b
  appendBounded d.toHost (fun r => parseEvent d r.2.payload) (·.toJson) 0 (page limit offset rows)

def sourceEventAssociations (d : Driver) (db : Database) (incidentId : String)
    (limit offset : Nat) : Except Fault (List SourceEventAssociation) := do
  lift (requireNonEmpty "incident_id" incidentId 256)
  lift (requireValue (1 ≤ limit ∧ limit ≤ maxRepositoryPageSize) "limit must be between 1 and 1000")
  lift (requireValue (offset ≤ maxRepositoryOffset) "offset must be between 0 and 100000")
  let rows := (db.sourceEvents.rows.filter fun r => r.1.1 = incidentId).insertionSort
    fun a b => textLe a.1.2 b.1.2
  appendBounded d.toHost (fun r => parseAssociation d r.1.1 r.1.2 r.2) (·.toJson) 0
    (page (some limit) offset rows)

end Database

/-- A read of the repository. -/
inductive Read where
  | get (incidentId : String)
  | findByIdempotencyKey (incidentId idempotencyKey operation : String)
  | findActive (correlationKey sourceEventId : Option String)
  | history (incidentId : String) (limit : Option Nat) (offset : Nat)
  | sourceEventAssociations (incidentId : String) (limit offset : Nat)

def Read.Answer : Read → Type
  | .get _ | .findByIdempotencyKey _ _ _ | .findActive _ _ => Option Incident
  | .history _ _ _ => List IncidentAuditEvent
  | .sourceEventAssociations _ _ _ => List SourceEventAssociation

def Database.read (d : Driver) (db : Database) : (q : Read) → Except Fault q.Answer
  | .get incidentId => db.get d incidentId
  | .findByIdempotencyKey incidentId idempotencyKey operation =>
    db.findByIdempotencyKey d incidentId idempotencyKey operation
  | .findActive correlationKey sourceEventId => db.findActive d correlationKey sourceEventId
  | .history incidentId limit offset => db.history d incidentId limit offset
  | .sourceEventAssociations incidentId limit offset =>
    db.sourceEventAssociations d incidentId limit offset

/-! Runs. -/

/-- A write of the repository. -/
inductive Write where
  | create (i : Incident) (w : WriteMetadata)
  | createOrCorrelate (i : Incident) (w : WriteMetadata)
  | save (i : Incident) (expected : Int) (w : WriteMetadata)
  | transition (incidentId : String) (target : IncidentStatus) (expected : Int)
      (w : WriteMetadata) (u : Updates) (depth : Nat)

def Write.request (h : Host) : Write → Except RepositoryError Memory.Request
  | .create i w => createRequest h "create" i w
  | .createOrCorrelate i w => createRequest h "create_or_correlate" i w
  | .save i expected w => saveRequest h i expected w
  | .transition incidentId target expected w u depth =>
    transitionRequest h incidentId target expected w u depth

namespace Database

def perform (d : Driver) (db : Database) (now : Instant) : Write → Except Fault (Incident × Database)
  | .create i w => db.create d i w now
  | .createOrCorrelate i w => db.createOrCorrelate d i w now
  | .save i expected w => db.save d i expected w now
  | .transition incidentId target expected w u depth =>
    db.transition d incidentId target expected w u depth now

def step (d : Driver) (db : Database) (now : Instant) (call : Write) :
    Except Fault Incident × Database := db.transaction (db.perform d now call)

def next (d : Driver) (db : Database) (call : Instant × Write) : Database :=
  (db.step d call.1 call.2).2

end Database

end NetworkAgent.Local
