import NetworkAgent.Memory.Calls
import NetworkAgent.Cloud.Common

/-! The Spanner incident repository. A call is one serializable transaction: it reads the
committed tables, buffers mutations, and the commit applies them in order or not at all.
Columns that no code reads back are left out. -/
namespace NetworkAgent.Cloud
open Checks (require)

inductive IncidentError where
  | input (error : InputError)
  | validation (error : ModelError)
  | transition (error : TransitionError)
  | batch (boundary : String)
  | notStateMachineOutput (incidentId : String)
  | idempotencyConflict (idempotencyKey : String)
  | notFound (incidentId : String)
  | alreadyExists (incidentId : String)
  | activeConflict (incidentId existingId : String)
  | ownershipConflict (sourceEventId owner incidentId : String)
  | correlationConflict (requestedId : String) (conflicting : List String)
  | revisionConflict (incidentId : String) (expected : Int) (actual : Nat)
  | inconsistent (text : String)
  | constraint (table : String)
  deriving DecidableEq

def liftInput {α : Type} : Except InputError α → Except IncidentError α
  | .ok a => .ok a
  | .error e => .error (.input e)

def liftValidation : Validation → Except IncidentError Unit
  | .ok () => .ok ()
  | .error e => .error (.validation e)

def liftTransition {α : Type} : Except TransitionError α → Except IncidentError α
  | .ok a => .ok a
  | .error e => .error (.transition e)

def requireSafe (h : Host) (boundary : String) (value : Json) : Except IncidentError Unit :=
  liftInput (assertSafe h boundary value)

def requireValue (condition : Prop) [Decidable condition] (text : String) :
    Except IncidentError Unit := require condition (.input (.value text))

def requireConsistent (condition : Prop) [Decidable condition] (text : String) :
    Except IncidentError Unit := require condition (.inconsistent text)

/-! Rows. -/

structure IncidentColumns where
  incidentId : String
  correlationKey : Option String
  schemaVersion : String
  technology : String
  status : String
  severity : String
  revision : Nat
  traceId : String
  detectedAt : Instant
  createdAt : Instant
  updatedAt : Instant
  deriving DecidableEq

structure IncidentRow where
  columns : IncidentColumns
  payload : Incident

structure SourceColumns where
  incidentId : String
  sourceEventId : String
  registeredAt : Instant
  actor : String
  reason : String
  idempotencyKey : String
  traceId : String
  deriving DecidableEq

structure SourceRow where
  columns : SourceColumns
  payload : SourceEventAssociation

structure AuditColumns where
  incidentId : String
  revision : Nat
  eventId : String
  fromStatus : Option String
  toStatus : String
  traceId : String
  occurredAt : Instant
  deriving DecidableEq

structure AuditRow where
  columns : AuditColumns
  payload : IncidentAuditEvent

structure IdempotencyRow where
  fingerprint : Sha256.Digest
  resultIncidentId : String
  payload : Incident

inductive ActiveKeyKind where
  | correlation | source
  deriving DecidableEq

def ActiveKeyKind.value : ActiveKeyKind → String
  | .correlation => "correlation" | .source => "source"

structure ActiveKeyRow where
  kind : ActiveKeyKind
  incidentId : String

def incidentBinding (i : Incident) : IncidentColumns where
  incidentId := i.incidentId.text
  correlationKey := i.correlationKey.map (·.text)
  schemaVersion := schemaVersion
  technology := i.technology.value
  status := i.status.value
  severity := i.severity.value
  revision := i.revision
  traceId := i.traceId.text
  detectedAt := i.detectedAt
  createdAt := i.createdAt
  updatedAt := i.updatedAt

def sourceBinding (a : SourceEventAssociation) : SourceColumns where
  incidentId := a.incidentId.text
  sourceEventId := a.sourceEventId.text
  registeredAt := a.registeredAt
  actor := a.actor.text
  reason := a.reason.text
  idempotencyKey := a.idempotencyKey.text
  traceId := a.traceId.text

def auditBinding (e : IncidentAuditEvent) : AuditColumns where
  incidentId := e.incidentId.text
  revision := e.revision
  eventId := e.eventId.text
  fromStatus := e.fromStatus.map IncidentStatus.value
  toStatus := e.toStatus.value
  traceId := e.traceId.text
  occurredAt := e.occurredAt

def incidentValues (i : Incident) : IncidentRow := ⟨incidentBinding i, i⟩

/-! The parsers of persisted rows. -/

/-- `_parse_incident_row`, for the incident that was asked for. -/
def IncidentRow.parse (h : Host) (r : IncidentRow) (incidentId : String) :
    Except IncidentError Incident := do
  liftValidation (r.payload.modelValidate h)
  requireConsistent (r.columns = incidentBinding r.payload ∧ r.payload.incidentId.text = incidentId)
    "persisted Incident binding mismatch"
  requireSafe h "persisted-incident" r.payload.toJson
  return r.payload

/-- `_parse_source_association_row`. -/
def SourceRow.parse (h : Host) (r : SourceRow) (incidentId : String) :
    Except IncidentError SourceEventAssociation := do
  requireConsistent (r.columns = sourceBinding r.payload ∧ r.payload.incidentId.text = incidentId)
    "persisted source association binding mismatch"
  requireSafe h "persisted-source-association" r.payload.toJson
  return r.payload

/-- `_parse_audit_row`. -/
def AuditRow.parse (h : Host) (r : AuditRow) (incidentId : String) :
    Except IncidentError IncidentAuditEvent := do
  requireConsistent (r.columns = auditBinding r.payload ∧ r.payload.incidentId.text = incidentId)
    "persisted audit binding mismatch"
  requireSafe h "persisted-audit" r.payload.toJson
  return r.payload

/-- `_bounded_page`: the rows parsed in order, under a bound on their total size. -/
def boundedPage {R A : Type} (h : Host) (boundary : String) (parse : R → Except IncidentError A)
    (image : A → Json) (size : Nat) : List R → Except IncidentError (List A)
  | [] => .ok []
  | r :: rest => do
    let a ← parse r
    let total := size + serializedBytes h (image a) + 1
    require (total ≤ maxRepositoryBatchBytes) (.batch boundary)
    return a :: (← boundedPage h boundary parse image total rest)

/-! Tables. -/

structure Spanner where
  incidents : Table String IncidentRow := ∅
  sourceEvents : Table (String × String) SourceRow := ∅
  audit : Table (String × Nat) AuditRow := ∅
  idempotency : Table Scope IdempotencyRow := ∅
  activeKeys : Table Sha256.Digest ActiveKeyRow := ∅

inductive Mutation where
  | insertIncident (row : IncidentRow)
  | updateIncident (row : IncidentRow)
  | insertSourceEvents (rows : List SourceRow)
  | insertActiveKeys (rows : List (Sha256.Digest × ActiveKeyRow))
  | deleteActiveKeys (hashes : List Sha256.Digest)
  | insertAudit (row : AuditRow)
  | insertIdempotency (scope : Scope) (row : IdempotencyRow)

/-- The bound of an `INT64` column. -/
def maxInt64 : Nat := 2 ^ 63 - 1

/-- A text column of a source row holds at most 256 characters, except the reason. -/
def SourceRow.Fits (r : SourceRow) : Prop :=
  r.columns.incidentId.length ≤ 256 ∧ r.columns.sourceEventId.length ≤ 256 ∧
    r.columns.actor.length ≤ 256 ∧ r.columns.idempotencyKey.length ≤ 256 ∧
    r.columns.traceId.length ≤ 256

instance (r : SourceRow) : Decidable r.Fits := inferInstanceAs (Decidable (_ ∧ _ ∧ _ ∧ _ ∧ _))

def SourceRow.key (r : SourceRow) : String × String :=
  (r.columns.incidentId, r.columns.sourceEventId)

def AuditRow.key (r : AuditRow) : String × Nat := (r.columns.incidentId, r.columns.revision)

def inserted {T : Type} (table : String) : Option T → Except IncidentError T
  | some t => .ok t
  | none => .error (.constraint table)

namespace Spanner

/-- One mutation under the constraints of the schema: primary keys, the unique indexes on the
source event and on the audit event, and the column types. -/
def apply (s : Spanner) : Mutation → Except IncidentError Spanner
  | .insertIncident row => do
    require (row.columns.revision ≤ maxInt64) (.constraint "CanonicalIncidentsV2")
    let incidents ← inserted "CanonicalIncidentsV2"
      (s.incidents.insertNew row.columns.incidentId row)
    return { s with incidents }
  | .updateIncident row => do
    require (row.columns.revision ≤ maxInt64 ∧ row.columns.incidentId ∈ s.incidents)
      (.constraint "CanonicalIncidentsV2")
    return { s with incidents := s.incidents.insert row.columns.incidentId row }
  | .insertSourceEvents rows => do
    require (∀ r ∈ rows, r.Fits) (.constraint "CanonicalIncidentSourceEventsV2")
    let sourceEvents ← inserted "CanonicalIncidentSourceEventsV2"
      (Table.insertRows (rows.map fun r => (r.key, r)) s.sourceEvents)
    require (sourceEvents.values.map (·.columns.sourceEventId)).Nodup
      (.constraint "CanonicalIncidentSourceEventsV2ByGlobalSource")
    return { s with sourceEvents }
  | .insertActiveKeys rows => do
    let activeKeys ← inserted "CanonicalIncidentActiveKeysV2"
      (Table.insertRows rows s.activeKeys)
    return { s with activeKeys }
  | .deleteActiveKeys hashes =>
    return { s with activeKeys := Table.eraseAll hashes s.activeKeys }
  | .insertAudit row => do
    require (row.columns.revision ≤ maxInt64) (.constraint "CanonicalIncidentAuditV2")
    let audit ← inserted "CanonicalIncidentAuditV2" (s.audit.insertNew row.key row)
    require (audit.values.map (·.columns.eventId)).Nodup
      (.constraint "CanonicalIncidentAuditV2ByEvent")
    return { s with audit }
  | .insertIdempotency scope row => do
    let idempotency ← inserted "CanonicalIncidentIdempotencyV2"
      (s.idempotency.insertNew scope row)
    return { s with idempotency }

def commit : List Mutation → Spanner → Except IncidentError Spanner
  | [], s => .ok s
  | m :: rest, s => s.apply m >>= commit rest

end Spanner

/-- What a transaction callback answers: a result and the mutations it buffered. -/
abbrev Buffered (α : Type) := α × List Mutation

/-- A transaction that raises, in its callback or at its commit, writes nothing. -/
def Spanner.execute {α : Type} (s : Spanner) (transaction : Except IncidentError (Buffered α)) :
    Except IncidentError α × Spanner :=
  match transaction with
  | .error e => (.error e, s)
  | .ok (a, mutations) => match Spanner.commit mutations s with
    | .error e => (.error e, s)
    | .ok s' => (.ok a, s')

end NetworkAgent.Cloud
