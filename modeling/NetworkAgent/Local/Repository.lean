import NetworkAgent.Memory.Calls

/-! The DuckDB incident repository. A call runs in one transaction under a lock, and an
exception rolls it back. A row holds the JSON text of a model; it is parsed and checked again
on every read. Columns that no modelled query reads are left out. -/
namespace NetworkAgent.Local
open Checks (require each)

mutual
/-- Whether a value holds no binary64 number. -/
def isFloatFree : Json → Bool
  | .float _ => false
  | .arr items => isFloatFreeItems items
  | .obj fields => isFloatFreeFields fields
  | _ => true
def isFloatFreeItems : List Json → Bool
  | [] => true
  | x :: xs => isFloatFree x && isFloatFreeItems xs
def isFloatFreeFields : List (String × Json) → Bool
  | [] => true
  | (_, x) :: xs => isFloatFree x && isFloatFreeFields xs
end

/-- The model library writes the JSON text of a row, which parses back to the value it was
written from; only its size is read here. It has the tokens of the canonical text, except that
it writes the binary64 numbers in its own way. -/
structure Driver extends Host where
  textBytes : Json → Nat
  textBytes_eq : ∀ value, isFloatFree value = true → textBytes value = serializedBytes toHost value

def Driver.ascii : Driver :=
  { Host.ascii with
    textBytes := serializedBytes Host.ascii
    textBytes_eq := fun _ _ => rfl }

inductive Fault where
  | repository (error : RepositoryError)
  | persistedSize
  | persistedRecord
  | persistedAssociation
  | staleRevision (incidentId : String) (expected : Nat) (actual : Int)
  | constraint (table : String)
  deriving DecidableEq

def lift {α : Type} : Except RepositoryError α → Except Fault α
  | .ok a => .ok a
  | .error e => .error (.repository e)

@[simp] theorem lift_ok {α : Type} {x : Except RepositoryError α} {a : α} :
    lift x = .ok a ↔ x = .ok a := by
  cases x <;> simp [lift]

/-! What every write checks before its transaction begins. -/

def unsafePayload (reason : UnsafeReason) : RepositoryError :=
  .unsafeWrite "<canonical-incident>" reason

/-- `_assert_repository_safe`. -/
def assertSafe (h : Host) (value : Json) : Except RepositoryError Nat := do
  require (value.depth ≤ maxContractDepth) (unsafePayload .depth)
  require (findSensitivePaths h "$" value = []) (unsafePayload .privacy)
  require (serializedBytes h value ≤ maxContractSerializedBytes) (unsafePayload .size)
  return serializedBytes h value

theorem assertSafe_ok {h : Host} {value : Json} {n : Nat} :
    assertSafe h value = .ok n ↔ RepositorySafe h value ∧ n = serializedBytes h value := by
  simp only [assertSafe, Checks.bind_ok, Checks.require_ok, RepositorySafe, pure, Except.pure,
    Except.ok.injEq]
  constructor
  · rintro ⟨_, depth, _, privacy, _, size, rfl⟩; exact ⟨⟨privacy, depth, size⟩, rfl⟩
  · rintro ⟨⟨privacy, depth, size⟩, rfl⟩; exact ⟨(), depth, (), privacy, (), size, rfl⟩

/-- `_require_write_metadata`. -/
def requireMetadata (h : Host) (w : WriteMetadata) : Except RepositoryError Unit := do
  requireNonEmpty "idempotency_key" w.idempotencyKey 256
  requireNonEmpty "actor" w.actor 256
  requireNonEmpty "reason" w.reason 4096
  requireNonEmpty "trace_id" w.traceId 256
  let _ ← assertSafe h (.obj (("idempotency_key", .str w.idempotencyKey) :: w.fields))

/-! Rows. -/

structure IncidentRow where
  revision : Nat
  payload : Incident

/-- The metadata columns of a source row hold the texts as the caller passed them. -/
structure SourceRow where
  registeredAt : Instant
  metadata : WriteMetadata

structure AuditRow where
  incidentId : String
  revision : Nat
  occurredAt : Instant
  payload : IncidentAuditEvent

structure IdempotencyRow where
  fingerprint : Sha256.Digest
  resultPayload : Incident

structure Database where
  incidents : Table String IncidentRow := ∅
  sourceEvents : Table (String × String) SourceRow := ∅
  audit : Table String AuditRow := ∅
  idempotency : Table Scope IdempotencyRow := ∅

/-! Parsers of persisted rows. -/

def parseIncident (d : Driver) (payload : Incident) : Except Fault Incident := do
  require (d.textBytes payload.toJson ≤ maxContractSerializedBytes) .persistedSize
  match payload.modelValidate d.toHost with
  | .error _ => .error .persistedRecord
  | .ok () => do
    let _ ← lift (assertSafe d.toHost payload.toJson)
    return payload

def parseEvent (d : Driver) (payload : IncidentAuditEvent) : Except Fault IncidentAuditEvent := do
  require (d.textBytes payload.toJson ≤ maxContractSerializedBytes) .persistedSize
  let _ ← lift (assertSafe d.toHost payload.toJson)
  return payload

def parseAssociation (d : Driver) (incidentId sourceEventId : String) (row : SourceRow) :
    Except Fault SourceEventAssociation :=
  match Identifier.parse incidentId, Identifier.parse sourceEventId, row.metadata.attribution with
  | some incidentId, some sourceEventId, some a => do
    let association := SourceEventAssociation.build incidentId sourceEventId row.registeredAt a
    let _ ← lift (assertSafe d.toHost association.toJson)
    return association
  | _, _, _ => .error .persistedAssociation

namespace Database

/-- The bound of a `BIGINT` column. -/
def maxBigint : Nat := 2 ^ 63 - 1

/-! Queries. -/

def getLocked (d : Driver) (db : Database) (incidentId : String) :
    Except Fault (Option Incident) :=
  match db.incidents.lookup incidentId with
  | none => .ok none
  | some row => some <$> parseIncident d row.payload

/-- `_require_current_locked`. -/
def requireCurrent (d : Driver) (db : Database) (incidentId : String) : Except Fault Incident := do
  match ← db.getLocked d incidentId with
  | none => .error (.repository (.notFound incidentId))
  | some current => return current

def replay (d : Driver) (db : Database) (scope : Scope) (fp : Sha256.Digest) :
    Except Fault (Option Incident) :=
  match db.idempotency.lookup scope with
  | none => .ok none
  | some row => do
    require (row.fingerprint = fp) (.repository (.idempotencyConflict scope.idempotencyKey))
    return some (← parseIncident d row.resultPayload)

def associatedSourceIds (db : Database) (incidentId : String) : List String :=
  (db.sourceEvents.rows.filter fun r => r.1.1 = incidentId).map fun r => r.1.2

/-- The stored payloads in the order of their incidents. -/
def payloads (db : Database) : List (String × Incident) :=
  (db.incidents.rows.map fun r => (r.1, r.2.payload)).insertionSort fun a b => textLe a.1 b.1

def joinedPayloads (db : Database) (sourceIds : List String) : List (String × Incident) :=
  db.payloads.filter fun r => ∃ s ∈ sourceIds, (r.1, s) ∈ db.sourceEvents

/-- The matches are collected by incident; a second match of one incident is the same row. -/
def addMatch (found : List Incident) (i : Incident) : List Incident :=
  if i.incidentId ∈ found.map (·.incidentId) then found else found ++ [i]

def isCandidate (excluded : Option String) (i : Incident) : Bool :=
  decide (excluded ≠ some i.incidentId.text) && i.status.isActive

def Answers (correlationKey : Option String) (sourceIds : List String) (i : Incident) : Prop :=
  (∃ key ∈ correlationKey, i.correlationKey.map (·.text) = some key) ∨
    ∃ s ∈ sourceIds, s ∈ i.sourceEventIds.map (·.text)

instance (correlationKey : Option String) (sourceIds : List String) (i : Incident) :
    Decidable (Answers correlationKey sourceIds i) := inferInstanceAs (Decidable (_ ∨ _))

/-- `_find_active_locked`: first by the associations, then by a scan of the payloads. -/
def findActiveLocked (d : Driver) (db : Database) (correlationKey : Option String)
    (sourceIds : List String) (excluded : Option String) (requestedId : String) :
    Except Fault (Option Incident) := do
  let joined ← (db.joinedPayloads sourceIds).mapM fun r => parseIncident d r.2
  let all ← db.payloads.mapM fun r => parseIncident d r.2
  let byAssociation := joined.filter (isCandidate excluded)
  let byPayload := all.filter fun i => isCandidate excluded i && Answers correlationKey sourceIds i
  let found := (byAssociation ++ byPayload).foldl addMatch []
  require (found.length ≤ 1)
    (.repository (.correlationConflict requestedId (found.map (·.incidentId.text))))
  return found.head?

/-- `_require_reactivation_keys_locked`. -/
def requireReactivationKeys (d : Driver) (db : Database) (current successor : Incident) :
    Except Fault Unit :=
  if current.status.isActive ∨ successor.status.isSettled then .ok ()
  else do
    match ← db.findActiveLocked d (successor.correlationKey.map (·.text))
        (db.associatedSourceIds successor.incidentId.text) (some successor.incidentId.text)
        successor.incidentId.text with
    | some active =>
      .error (.repository (.activeConflict successor.incidentId.text active.incidentId.text))
    | none => return ()

/-! Statements that write. -/

/-- `_insert_incident_locked`. -/
def insertIncident (db : Database) (i : Incident) : Except Fault Database := do
  require (i.incidentId.text ∉ db.incidents) (.constraint "canonical_incidents")
  return { db with incidents := db.incidents.insert i.incidentId.text ⟨i.revision, i⟩ }

/-- `_update_incident_locked`: the row is read again to see whether the update took place. -/
def updateIncident (db : Database) (current successor : Incident) : Except Fault Database := do
  require (successor.revision ≤ maxBigint) (.constraint "canonical_incidents")
  let id := successor.incidentId.text
  let incidents := match db.incidents.lookup id with
    | some row =>
      if row.revision = current.revision then
        AList.insert id (⟨successor.revision, successor⟩ : IncidentRow) db.incidents
      else db.incidents
    | none => db.incidents
  match incidents.lookup id with
  | none => .error (.staleRevision id current.revision (-1))
  | some row => do
    require (row.revision = successor.revision) (.staleRevision id current.revision row.revision)
    return { db with incidents }

def owners (db : Database) (sourceEventId : String) : List String :=
  (db.sourceEvents.rows.filter fun r => r.1.2 = sourceEventId).map fun r => r.1.1

/-- A row that conflicts with the primary key or with the owner index is not inserted. -/
def insertSourceRow (incidentId : String) (row : SourceRow) (db : Database)
    (sourceEventId : String) : Database :=
  if db.owners sourceEventId = [] then
    { db with sourceEvents := db.sourceEvents.insert (incidentId, sourceEventId) row }
  else db

def sortedTexts (sourceIds : List Identifier) : List String :=
  (sourceIds.map (·.text)).dedup.insertionSort fun a b => textLe a b

/-- `_insert_source_event_associations_locked`. -/
def insertSourceEvents (db : Database) (incidentId : Identifier) (sourceIds : List Identifier)
    (registeredAt : Instant) (w : WriteMetadata) : Except Fault Database := do
  lift (requireValue ((db.associatedSourceIds incidentId.text ++
    sourceIds.map (·.text)).dedup.length ≤ maxIncidentSourceEvents) Memory.capacityText)
  each (fun s => each (fun owner => require (owner = incidentId.text)
    (.repository (.ownershipConflict s owner incidentId.text))) (db.owners s))
    (sortedTexts sourceIds)
  return (sortedTexts sourceIds).foldl (insertSourceRow incidentId.text ⟨registeredAt, w⟩) db

/-- `_insert_audit_locked`. -/
def insertAudit (db : Database) (e : IncidentAuditEvent) : Except Fault Database := do
  require (e.revision ≤ maxBigint ∧ e.eventId.text ∉ db.audit ∧
      ∀ r ∈ db.audit.values, (r.incidentId, r.revision) ≠ (e.incidentId.text, e.revision))
    (.constraint "canonical_incident_audit")
  let row : AuditRow := ⟨e.incidentId.text, e.revision, e.occurredAt, e⟩
  return { db with audit := db.audit.insert e.eventId.text row }

/-- `_insert_idempotency_locked`. -/
def insertIdempotency (db : Database) (scope : Scope) (fp : Sha256.Digest) (result : Incident) :
    Except Fault Database := do
  require (scope ∉ db.idempotency) (.constraint "canonical_incident_idempotency")
  return { db with idempotency := db.idempotency.insert scope ⟨fp, result⟩ }

/-- `_commit_create_locked`. -/
def commitCreate (h : Host) (db : Database) (r : Memory.Request) (i : Incident)
    (occurredAt : Instant) : Except Fault Database := do
  let event ← lift (auditEvent h i none r.metadata r.fingerprint occurredAt)
  let db ← db.insertIncident i
  let db ← db.insertSourceEvents i.incidentId i.sourceEventIds occurredAt r.metadata
  let db ← db.insertAudit event
  db.insertIdempotency r.scope r.fingerprint i

/-- `_commit_transition_locked`. -/
def commitTransition (h : Host) (db : Database) (r : Memory.Request) (current successor : Incident)
    (occurredAt : Instant) : Except Fault Database := do
  let event ← lift (auditEvent h successor (some current.status) r.metadata r.fingerprint occurredAt)
  let db ← db.updateIncident current successor
  let db ← db.insertSourceEvents successor.incidentId successor.sourceEventIds occurredAt r.metadata
  let db ← db.insertAudit event
  db.insertIdempotency r.scope r.fingerprint successor

end Database

end NetworkAgent.Local
