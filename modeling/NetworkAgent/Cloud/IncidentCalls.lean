import NetworkAgent.Cloud.Incidents

/-! The transactions of the Spanner incident repository, and the runs they make up. -/
namespace NetworkAgent.Cloud
open Checks (require each)
open Memory (Request)

/-- A key of the active-key index: the hash of its kind and value, and the kind. -/
abbrev ActiveKey := Sha256.Digest × ActiveKeyKind

def activeKey (h : Host) (kind : ActiveKeyKind) (value : String) : ActiveKey :=
  (h.sha256 (utf8 kind.value ++ 0 :: utf8 value), kind)

def sourceKeys (h : Host) (sourceIds : List String) : List ActiveKey :=
  sourceIds.map (activeKey h .source)

def correlationKeys (h : Host) (i : Incident) : List ActiveKey :=
  (i.correlationKey.map fun key => activeKey h .correlation key.text).toList

def keyLe (a b : ActiveKey) : Bool :=
  textLe a.1.text b.1.text && (a.1 != b.1 || textLe a.2.value b.2.value)

/-- `tuple(sorted(set(keys)))`. -/
def sortedKeys (keys : List ActiveKey) : List ActiveKey :=
  keys.dedup.insertionSort fun a b => keyLe a b

def candidateActiveKeys (h : Host) (i : Incident) : List ActiveKey :=
  sortedKeys (correlationKeys h i ++ sourceKeys h (i.sourceEventIds.map (·.text)))

/-- The kind that `dict(keys)` keeps for a hash. -/
def expectedKind (keys : List ActiveKey) (hash : Sha256.Digest) : Option ActiveKeyKind :=
  keys.reverse.lookup hash

def inconsistentIndex : String := "active-key index is inconsistent"

/-- The rows of a key query, one by one: each hash once and asked for, of the expected kind,
and acceptable to the caller. -/
def checkKeyRows (keys : List ActiveKey) (accept : ActiveKeyRow → Except IncidentError Unit) :
    List Sha256.Digest → List (Sha256.Digest × ActiveKeyRow) → Except IncidentError Unit
  | _, [] => .ok ()
  | seen, (hash, row) :: rest => do
    requireConsistent (hash ∉ seen ∧ (expectedKind keys hash).isSome) inconsistentIndex
    requireConsistent (some row.kind = expectedKind keys hash) "active-key hash collision detected"
    accept row
    checkKeyRows keys accept (hash :: seen) rest

def requireWriteMetadata (h : Host) (w : WriteMetadata) : Except IncidentError Unit := do
  let _ ← liftInput (requireNonEmpty "idempotency_key" w.idempotencyKey 256)
  let _ ← liftInput (requireNonEmpty "actor" w.actor 256)
  let _ ← liftInput (requireNonEmpty "reason" w.reason 4096)
  let _ ← liftInput (requireNonEmpty "trace_id" w.traceId 256)
  requireSafe h "write-metadata" (.obj (("idempotency_key", .str w.idempotencyKey) :: w.fields))

/-- `_scope`; the operation is a lower-case literal. -/
def requestScope (operation incidentId idempotencyKey : String) : Except IncidentError Scope := do
  let operation ← liftInput (requireNonEmpty "operation" operation 64)
  let incidentId ← liftInput (requireNonEmpty "incident_id" incidentId 256)
  let idempotencyKey ← liftInput (requireNonEmpty "idempotency_key" idempotencyKey 256)
  return ⟨operation.text, incidentId.text, idempotencyKey.text⟩

/-- The records of a request carry the key of its scope, the other texts as they came. -/
def request (scope : Scope) (fp : Sha256.Digest) (w : WriteMetadata) : Request :=
  ⟨scope, fp, { w with idempotencyKey := scope.idempotencyKey }⟩

namespace Spanner

/-! Reads. -/

/-- `_get_tx`. -/
def get (h : Host) (s : Spanner) (incidentId : String) : Except IncidentError (Option Incident) :=
  match s.incidents.lookup incidentId with
  | none => .ok none
  | some row => some <$> row.parse h incidentId

def requireCurrent (h : Host) (s : Spanner) (incidentId : String) :
    Except IncidentError Incident := do
  match ← s.get h incidentId with
  | none => .error (.notFound incidentId)
  | some current => return current

def requireAbsent (h : Host) (s : Spanner) (incidentId : String) : Except IncidentError Unit := do
  match ← s.get h incidentId with
  | none => return ()
  | some _ => .error (.alreadyExists incidentId)

def replay (h : Host) (s : Spanner) (scope : Scope) (fp : Sha256.Digest) :
    Except IncidentError (Option Incident) :=
  match s.idempotency.lookup scope with
  | none => .ok none
  | some row => do
    require (row.fingerprint = fp) (.idempotencyConflict scope.idempotencyKey)
    liftValidation (row.payload.modelValidate h)
    requireConsistent (row.payload.incidentId.text = row.resultIncidentId)
      "persisted idempotency result mismatch"
    requireSafe h "incident-idempotency-replay" row.payload.toJson
    return some row.payload

def sourceRows (s : Spanner) (incidentId : String) : List SourceRow :=
  (s.sourceEvents.values.filter fun r => r.columns.incidentId = incidentId).insertionSort
    fun a b => textLe a.columns.sourceEventId b.columns.sourceEventId

def sourcePage (h : Host) (s : Spanner) (boundary incidentId : String) :
    Except IncidentError (List SourceEventAssociation) :=
  boundedPage h boundary (·.parse h incidentId) SourceEventAssociation.toJson 0
    ((s.sourceRows incidentId).take (maxIncidentSourceEvents + 1))

/-- `_require_source_event_owners_tx`. -/
def requireSourceEventOwners (s : Spanner) (incidentId : String) (sourceIds : List String) :
    Except IncidentError Unit :=
  each (fun r =>
      require (r.columns.incidentId = incidentId)
        (.ownershipConflict r.columns.sourceEventId r.columns.incidentId incidentId))
    ((s.sourceEvents.values.filter fun r => r.columns.sourceEventId ∈ sourceIds).insertionSort
      fun a b => textLe a.columns.sourceEventId b.columns.sourceEventId)

/-- `_associated_source_ids_tx`. -/
def associatedSourceIds (s : Spanner) (incidentId : String) : Except IncidentError (List String) := do
  let ids := ((s.sourceRows incidentId).take (maxIncidentSourceEvents + 1)).map
    (·.columns.sourceEventId)
  requireConsistent (ids.length ≤ maxIncidentSourceEvents)
    "persisted source association capacity exceeded"
  return ids

def keyRows (s : Spanner) (keys : List ActiveKey) : List (Sha256.Digest × ActiveKeyRow) :=
  (s.activeKeys.rows.filter fun r => (expectedKind keys r.1).isSome).insertionSort
    fun a b => textLe a.1.text b.1.text

/-- `_find_active_for_keys_tx`. -/
def findActiveForKeys (h : Host) (s : Spanner) (keys : List ActiveKey) (requestedId : String) :
    Except IncidentError (Option Incident) := do
  checkKeyRows keys (fun _ => .ok ()) [] (s.keyRows keys)
  match ((s.keyRows keys).map (·.2.incidentId)).dedup with
  | [] => return none
  | [incidentId] => match ← s.get h incidentId with
    | none => .error (.inconsistent inconsistentIndex)
    | some incident => do
      requireConsistent (incident.status.isActive = true) inconsistentIndex
      return some incident
  | several => .error (.correlationConflict requestedId (several.insertionSort fun a b => textLe a b))

/-! Buffered writes. -/

def sourceRow (a : SourceEventAssociation) (r : Request) : SourceRow where
  columns := { sourceBinding a with
    actor := r.metadata.actor
    reason := r.metadata.reason
    idempotencyKey := r.metadata.idempotencyKey
    traceId := r.metadata.traceId }
  payload := a

/-- The associations of the incoming source events: those that exist, and new ones. -/
def associate (h : Host) (incidentId : Identifier) (registeredAt : Instant) (r : Request)
    (existing : List SourceEventAssociation) :
    List Identifier → Except IncidentError (List SourceEventAssociation × List SourceRow)
  | [] => .ok ([], [])
  | id :: rest =>
    match existing.find? fun a => a.sourceEventId = id with
    | some a => do
      let (associations, rows) ← associate h incidentId registeredAt r existing rest
      return (a :: associations, rows)
    | none => match r.metadata.attribution with
      | none => .error (.validation (.message "SourceEventAssociation"))
      | some attribution => do
        let a := SourceEventAssociation.build incidentId id registeredAt attribution
        requireSafe h incidentId.text a.toJson
        let (associations, rows) ← associate h incidentId registeredAt r existing rest
        return (a :: associations, sourceRow a r :: rows)

/-- `_register_source_events_tx`. -/
def registerSourceEvents (h : Host) (s : Spanner) (incidentId : Identifier)
    (sourceIds : List Identifier) (registeredAt : Instant) (r : Request) :
    Except IncidentError (Buffered (List SourceEventAssociation)) := do
  s.requireSourceEventOwners incidentId.text (sourceIds.map (·.text))
  let persisted ← s.sourcePage h "source-association-registration" incidentId.text
  requireConsistent (persisted.length ≤ maxIncidentSourceEvents)
    "persisted source association capacity exceeded"
  requireValue ((persisted.map (·.sourceEventId) ++ sourceIds).dedup.length ≤
    maxIncidentSourceEvents) Memory.capacityText
  let (associations, rows) ← associate h incidentId registeredAt r persisted
    (Memory.sortedSources sourceIds)
  return (associations, [.insertSourceEvents rows])

/-- `_acquire_active_keys_tx`. -/
def acquireActiveKeys (s : Spanner) (incidentId : String) (keys : List ActiveKey) :
    Except IncidentError (Buffered Unit) := do
  checkKeyRows keys
    (fun row => require (row.incidentId = incidentId) (.activeConflict incidentId row.incidentId))
    [] (s.keyRows keys)
  let missing := keys.filter fun key => key.1 ∉ s.activeKeys
  return ((), [.insertActiveKeys (missing.map fun key => (key.1, ⟨key.2, incidentId⟩))])

/-- `_release_active_keys_tx`. -/
def releaseActiveKeys (s : Spanner) (incidentId : String) : Except IncidentError (Buffered Unit) := do
  let hashes := ((s.activeKeys.rows.filter fun r => r.2.incidentId = incidentId).take
    (maxIncidentSourceEvents + 2)).map (·.1)
  requireConsistent (hashes.length ≤ maxIncidentSourceEvents + 1)
    "persisted active-key capacity exceeded"
  return ((), [.deleteActiveKeys hashes])

/-- `_audit_event`. -/
def auditEventOf (h : Host) (i : Incident) (fromStatus : Option IncidentStatus) (r : Request)
    (occurredAt : Instant) : Except IncidentError IncidentAuditEvent :=
  match auditEvent h i fromStatus r.metadata r.fingerprint occurredAt with
  | .ok event => .ok event
  | .error _ => .error (.validation (.message "IncidentAuditEvent"))

def auditRow (e : IncidentAuditEvent) : AuditRow := ⟨auditBinding e, e⟩

def recordResult (r : Request) (i : Incident) : Mutation :=
  .insertIdempotency r.scope ⟨r.fingerprint, i.incidentId.text, i⟩

/-- `_commit_create_tx`. -/
def commitCreate (h : Host) (s : Spanner) (r : Request) (i : Incident) (occurredAt : Instant) :
    Except IncidentError (Buffered (List SourceEventAssociation)) := do
  let event ← auditEventOf h i none r occurredAt
  let (associations, sources) ←
    s.registerSourceEvents h i.incidentId i.sourceEventIds occurredAt r
  let (_, keys) ← s.acquireActiveKeys i.incidentId.text (candidateActiveKeys h i)
  return (associations, .insertIncident (incidentValues i) :: sources ++ keys ++
    [.insertAudit (auditRow event), recordResult r i])

def moveActiveKeys (h : Host) (s : Spanner) (current successor : Incident) : Except IncidentError (Buffered Unit) :=
  let incidentId := successor.incidentId.text
  let sourceIds := successor.sourceEventIds.map (·.text)
  if current.status.isSettled ∧ successor.status.isActive then do
    let associated ← s.associatedSourceIds incidentId
    let keys := sourceKeys h ((associated ++ sourceIds).dedup.insertionSort fun a b => textLe a b) ++
      correlationKeys h successor
    match ← s.findActiveForKeys h keys incidentId with
    | some active => do
      require (active.incidentId = successor.incidentId)
        (.activeConflict incidentId active.incidentId.text)
      s.acquireActiveKeys incidentId keys
    | none => s.acquireActiveKeys incidentId keys
  else if current.status.isActive ∧ successor.status.isSettled then s.releaseActiveKeys incidentId
  else if successor.status.isActive then s.acquireActiveKeys incidentId (sourceKeys h sourceIds)
  else .ok ((), [])

/-- `_commit_transition_tx`. -/
def commitTransition (h : Host) (s : Spanner) (r : Request) (current successor : Incident)
    (occurredAt : Instant) : Except IncidentError (Buffered Unit) := do
  let (_, sources) ←
    s.registerSourceEvents h successor.incidentId successor.sourceEventIds occurredAt r
  let (_, keys) ← s.moveActiveKeys h current successor
  let event ← auditEventOf h successor (some current.status) r occurredAt
  return ((), sources ++ keys ++ [.updateIncident (incidentValues successor),
    .insertAudit (auditRow event), recordResult r successor])

end Spanner

/-! The calls. A callback runs after the checks of the arguments, in one transaction. -/

def validateNewIncident (h : Host) (i : Incident) (traceId : String) (now : Instant) :
    Except IncidentError Incident := do
  requireValue (i.revision = 0) "a newly created incident must have revision 0"
  requireValue (i.status = .detected) "a newly created incident must have DETECTED status"
  requireValue (i.traceId.text = traceId) "trace_id must match incident.trace_id"
  let committed := { i with createdAt := now, updatedAt := now }
  liftValidation (committed.modelValidate h)
  requireSafe h i.incidentId.text committed.toJson
  return committed

/-- What a create checks and fingerprints, and a correlating create as well. -/
def createRequest (h : Host) (operation : String) (i : Incident) (w : WriteMetadata) :
    Except IncidentError Request := do
  requireWriteMetadata h w
  requireSafe h i.incidentId.text i.toJson
  let scope ← requestScope operation i.incidentId.text w.idempotencyKey
  return request scope (fingerprint h operation (("incident", i.toJson) :: w.fields)) w

namespace Spanner

def unlessReplayed (h : Host) (s : Spanner) (r : Request)
    (work : Except IncidentError (Buffered Incident)) :
    Except IncidentError (Buffered Incident) := do
  match ← s.replay h r.scope r.fingerprint with
  | some result => return (result, [])
  | none => work

/-- The callback of `create`. -/
def createTx (h : Host) (s : Spanner) (i : Incident) (traceId : String) (r : Request)
    (now : Instant) : Except IncidentError (Buffered Incident) := do
  s.requireAbsent h i.incidentId.text
  let committed ← validateNewIncident h i traceId now
  s.requireSourceEventOwners committed.incidentId.text (committed.sourceEventIds.map (·.text))
  match ← s.findActiveForKeys h (candidateActiveKeys h committed) committed.incidentId.text with
  | some active => .error (.activeConflict committed.incidentId.text active.incidentId.text)
  | none => do
    let (_, mutations) ← s.commitCreate h r committed now
    return (committed, mutations)

def create (h : Host) (s : Spanner) (i : Incident) (w : WriteMetadata) (now : Instant) :
    Except IncidentError Incident × Spanner :=
  s.execute do
    let r ← createRequest h "create" i w
    s.unlessReplayed h r (s.createTx h i w.traceId r now)

/-- What a correlating create answers: the incident, whether it is new, and the associations
of its source events. -/
structure Correlated where
  incident : Incident
  created : Bool
  associations : List SourceEventAssociation

/-- The callback of `create_or_correlate` after its replay check. -/
def correlateTx (h : Host) (s : Spanner) (i : Incident) (traceId : String) (r : Request)
    (now : Instant) : Except IncidentError (Buffered Correlated) := do
  let candidate ← validateNewIncident h i traceId now
  match ← s.findActiveForKeys h (candidateActiveKeys h candidate) candidate.incidentId.text with
  | some existing => do
    let (associations, sources) ←
      s.registerSourceEvents h existing.incidentId candidate.sourceEventIds now r
    let (_, keys) ← s.acquireActiveKeys existing.incidentId.text
      (sourceKeys h (candidate.sourceEventIds.map (·.text)))
    return (⟨existing, false, associations⟩, sources ++ keys ++ [recordResult r existing])
  | none => do
    s.requireAbsent h candidate.incidentId.text
    let (associations, mutations) ← s.commitCreate h r candidate now
    return (⟨candidate, true, associations⟩, mutations)

def createOrCorrelateTx (h : Host) (s : Spanner) (i : Incident) (traceId : String) (r : Request)
    (now : Instant) : Except IncidentError (Buffered Correlated) := do
  match ← s.replay h r.scope r.fingerprint with
  | some result => return (⟨result, false, []⟩, [])
  | none => s.correlateTx h i traceId r now

def createOrCorrelate (h : Host) (s : Spanner) (i : Incident) (w : WriteMetadata) (now : Instant) :
    Except IncidentError Incident × Spanner :=
  s.execute do
    let r ← createRequest h "create_or_correlate" i w
    let (result, mutations) ← s.createOrCorrelateTx h i w.traceId r now
    return (result.incident, mutations)

/-! Imports. -/

def requireAssociations (h : Host) (size : Nat) : List SourceEventAssociation →
    Except IncidentError Unit
  | [] => .ok ()
  | a :: rest => do
    requireSafe h "migration-source-association" a.toJson
    let total := size + serializedBytes h a.toJson + 1
    require (total ≤ maxRepositoryBatchBytes) (.batch "migration-source-association")
    requireAssociations h total rest

def importRequest (h : Host) (i : Incident) (associations : List SourceEventAssociation)
    (w : WriteMetadata) : Except IncidentError Request := do
  requireWriteMetadata h w
  liftValidation (i.modelValidate h)
  requireValue (i.status = .detected ∧ i.revision = 0)
    "migration accepts only DETECTED revision-0 incidents"
  requireValue (i.traceId.text = w.traceId) "trace_id must match the imported incident"
  requireSafe h "migration-incident" i.toJson
  requireValue (associations.length ≤ maxIncidentSourceEvents)
    "migration source associations exceed 1000"
  requireAssociations h 0 associations
  let ids := associations.map (·.sourceEventId)
  requireValue ids.Nodup "migration source associations must be unique"
  requireValue (i.sourceEventIds ⊆ ids) "migration source provenance is incomplete"
  requireValue (∀ a ∈ associations, a.incidentId = i.incidentId)
    "migration source association binding mismatch"
  let scope ← requestScope "import_detected_snapshot" i.incidentId.text w.idempotencyKey
  return request scope (fingerprint h "import_detected_snapshot"
    (("incident", i.toJson) :: ("associations", .arr (associations.map (·.toJson))) :: w.fields)) w

def migrationActiveKeys (h : Host) (i : Incident) (associations : List SourceEventAssociation) :
    List ActiveKey :=
  sortedKeys (candidateActiveKeys h i ++ sourceKeys h (associations.map (·.sourceEventId.text)))

def sortedAssociations (associations : List SourceEventAssociation) :
    List SourceEventAssociation :=
  associations.insertionSort fun a b => textLe a.sourceEventId.text b.sourceEventId.text

def ImportEvent (r : Request) (e : IncidentAuditEvent) : Prop :=
  e.fromStatus = none ∧ e.toStatus = .detected ∧ e.revision = 0 ∧
    e.idempotencyKey.text = r.scope.idempotencyKey ∧ e.actor.text = r.metadata.actor ∧
    e.reason.text = r.metadata.reason ∧ e.traceId.text = r.metadata.traceId

instance (r : Request) (e : IncidentAuditEvent) : Decidable (ImportEvent r e) :=
  inferInstanceAs (Decidable (_ ∧ _ ∧ _ ∧ _ ∧ _ ∧ _ ∧ _))

/-- The fields of a snapshot that no later write changes. -/
def SameLineage (current candidate : Incident) : Prop :=
  current.incidentId = candidate.incidentId ∧ current.correlationKey = candidate.correlationKey ∧
    current.technology = candidate.technology ∧ current.traceId = candidate.traceId ∧
    current.detectedAt = candidate.detectedAt ∧ current.createdAt = candidate.createdAt ∧
    candidate.sourceEventIds ⊆ current.sourceEventIds

instance (current candidate : Incident) : Decidable (SameLineage current candidate) :=
  inferInstanceAs (Decidable (_ ∧ _ ∧ _ ∧ _ ∧ _ ∧ _ ∧ _))

def persistedKeys (s : Spanner) (incidentId : String) : List ActiveKey :=
  (((s.activeKeys.rows.filter fun r => r.2.incidentId = incidentId).take
    (maxIncidentSourceEvents + 2)).map fun r => (r.1, r.2.kind)).insertionSort fun a b => keyLe a b

/-- `_validate_import_replay_tx`. -/
def validateImportReplay (h : Host) (s : Spanner) (replayed i : Incident)
    (associations : List SourceEventAssociation) (r : Request) : Except IncidentError Unit := do
  requireConsistent (PyEq.Same replayed i) "persisted migration replay snapshot is inconsistent"
  match ← s.get h i.incidentId.text with
  | none => .error (.inconsistent "persisted migration Incident is missing")
  | some current => do
    requireConsistent (SameLineage current i) "persisted migration Incident lineage is inconsistent"
    let persisted ← s.sourcePage h "migration-source-replay" i.incidentId.text
    requireConsistent (persisted = sortedAssociations associations)
      "persisted migration source provenance is inconsistent"
    match s.audit.lookup (i.incidentId.text, 0) with
    | none => .error (.inconsistent "persisted migration audit is missing")
    | some row => do
      let event ← row.parse h i.incidentId.text
      requireConsistent (ImportEvent r event) "persisted migration audit is inconsistent"
      let keys := s.persistedKeys i.incidentId.text
      requireConsistent (keys.length ≤ maxIncidentSourceEvents + 1)
        "persisted migration active-key capacity exceeded"
      requireConsistent (keys =
          if current.status.isSettled then [] else migrationActiveKeys h i associations)
        "persisted migration active key is inconsistent"

def importTx (h : Host) (s : Spanner) (i : Incident) (associations : List SourceEventAssociation)
    (r : Request) (now : Instant) : Except IncidentError (Buffered (Incident × Bool)) := do
  s.requireAbsent h i.incidentId.text
  s.requireSourceEventOwners i.incidentId.text (associations.map (·.sourceEventId.text))
  match ← s.findActiveForKeys h (migrationActiveKeys h i associations) i.incidentId.text with
  | some active => .error (.activeConflict i.incidentId.text active.incidentId.text)
  | none => do
    let event ← auditEventOf h i none r now
    let (_, keys) ← s.acquireActiveKeys i.incidentId.text (migrationActiveKeys h i associations)
    return ((i, false), .insertIncident (incidentValues i) ::
      .insertSourceEvents ((sortedAssociations associations).map fun a => ⟨sourceBinding a, a⟩) ::
      keys ++ [.insertAudit (auditRow event), recordResult r i])

/-- `import_detected_snapshot`: the incident, and whether the import was replayed. -/
def importDetectedSnapshot (h : Host) (s : Spanner) (i : Incident)
    (associations : List SourceEventAssociation) (w : WriteMetadata) (now : Instant) :
    Except IncidentError (Incident × Bool) × Spanner :=
  s.execute do
    let r ← importRequest h i associations w
    match ← s.replay h r.scope r.fingerprint with
    | some result => do
      s.validateImportReplay h result i associations r
      return ((result, true), [])
    | none => s.importTx h i associations r now

/-! Updates of a stored incident. -/

def requireTrace (i : Incident) (traceId : String) : Except IncidentError Unit :=
  requireValue (i.traceId.text = traceId) "trace_id must match the persisted incident trace_id"

def saveRequest (h : Host) (i : Incident) (expected : Int) (w : WriteMetadata) :
    Except IncidentError Request := do
  requireWriteMetadata h w
  requireSafe h i.incidentId.text i.toJson
  requireValue (0 ≤ expected) "expected_revision must not be negative"
  let scope ← requestScope "save" i.incidentId.text w.idempotencyKey
  return request scope (fingerprint h "save" (("incident", i.toJson) ::
    ("expected_revision", .int expected) :: w.fields)) w

def saveSuccessor (h : Host) (current i : Incident) (expected : Int) (now : Instant) :
    Except TransitionError Incident :=
  transitionIncident h current i.status expected (.given now) (.given now)
    (Memory.differences current i)

/-- The callback of `save`. -/
def saveTx (h : Host) (s : Spanner) (i : Incident) (expected : Int) (traceId : String)
    (r : Request) (now : Instant) : Except IncidentError (Buffered Incident) := do
  let current ← s.requireCurrent h i.incidentId.text
  require (expected = current.revision ∧ (i.revision : Int) = expected + 1)
    (.revisionConflict i.incidentId.text expected current.revision)
  requireTrace current traceId
  liftValidation (i.modelValidate h)
  requireSafe h i.incidentId.text (.obj (Memory.differences current i).image)
  let successor ← liftTransition (saveSuccessor h current i expected now)
  require (Memory.SameExceptTime successor i) (.notStateMachineOutput i.incidentId.text)
  let (_, mutations) ← s.commitTransition h r current successor now
  return (successor, mutations)

def save (h : Host) (s : Spanner) (i : Incident) (expected : Int) (w : WriteMetadata)
    (now : Instant) : Except IncidentError Incident × Spanner :=
  s.execute do
    let r ← saveRequest h i expected w
    s.unlessReplayed h r (s.saveTx h i expected w.traceId r now)

def transitionRequest (h : Host) (incidentId : String) (target : IncidentStatus) (expected : Int)
    (w : WriteMetadata) (u : Updates) : Except IncidentError Request := do
  requireWriteMetadata h w
  let _ ← liftInput (requireNonEmpty "incident_id" incidentId 256)
  requireValue (0 ≤ expected) "expected_revision must not be negative"
  requireSafe h incidentId (.obj u.image)
  let scope ← requestScope "transition" incidentId w.idempotencyKey
  return request scope (fingerprint h "transition" (("target_status", .str target.value) ::
    ("expected_revision", .int expected) :: ("updates", .obj u.image) :: w.fields)) w

/-- The callback of `transition`. -/
def transitionTx (h : Host) (s : Spanner) (incidentId : String) (target : IncidentStatus)
    (expected : Int) (traceId : String) (u : Updates) (r : Request) (now : Instant) :
    Except IncidentError (Buffered Incident) := do
  let current ← s.requireCurrent h incidentId
  require (expected = current.revision) (.revisionConflict incidentId expected current.revision)
  requireTrace current traceId
  let successor ← liftTransition
    (transitionIncident h current target expected (.given now) (.given now) u)
  requireSafe h incidentId successor.toJson
  let (_, mutations) ← s.commitTransition h r current successor now
  return (successor, mutations)

def transition (h : Host) (s : Spanner) (incidentId : String) (target : IncidentStatus)
    (expected : Int) (w : WriteMetadata) (u : Updates) (now : Instant) :
    Except IncidentError Incident × Spanner :=
  s.execute do
    let r ← transitionRequest h incidentId target expected w u
    s.unlessReplayed h r (s.transitionTx h incidentId target expected w.traceId u r now)

/-! Lookups. -/

def selectorKey (h : Host) (kind : ActiveKeyKind) (name : String) :
    Option String → Except IncidentError (List ActiveKey)
  | none => .ok []
  | some value => do
    let text ← liftInput (requireNonEmpty name value 256)
    return [activeKey h kind text.text]

def findActive (h : Host) (s : Spanner) (correlationKey sourceEventId : Option String) :
    Except IncidentError (Option Incident) := do
  requireValue (correlationKey.isSome ∨ sourceEventId.isSome)
    "correlation_key or source_event_id is required"
  let correlation ← selectorKey h .correlation "correlation_key" correlationKey
  let source ← selectorKey h .source "source_event_id" sourceEventId
  s.findActiveForKeys h (correlation ++ source) "<lookup>"

/-- `history`, without a page limit. -/
def history (h : Host) (s : Spanner) (incidentId : String) :
    Except IncidentError (List IncidentAuditEvent) := do
  let _ ← liftInput (requireNonEmpty "incident_id" incidentId 256)
  boundedPage h "incident-history" (·.parse h incidentId) IncidentAuditEvent.toJson 0
    ((s.audit.values.filter fun r => r.columns.incidentId = incidentId).insertionSort
      fun a b => a.columns.revision ≤ b.columns.revision)

def sourceEventAssociations (h : Host) (s : Spanner) (incidentId : String) (limit offset : Nat) :
    Except IncidentError (List SourceEventAssociation) := do
  let _ ← liftInput (requireNonEmpty "incident_id" incidentId 256)
  requireValue (1 ≤ limit ∧ limit ≤ 1000) "limit must be between 1 and 1000"
  requireValue (offset ≤ 100000) "offset must be between 0 and 100000"
  boundedPage h "source-event-associations" (·.parse h incidentId) SourceEventAssociation.toJson 0
    (((s.sourceRows incidentId).drop offset).take limit)

/-! Runs. -/

def step (h : Host) (s : Spanner) (now : Instant) : Call → Except IncidentError Incident × Spanner
  | .create i w => s.create h i w now
  | .createOrCorrelate i w => s.createOrCorrelate h i w now
  | .importDetectedSnapshot i associations w =>
    ((s.importDetectedSnapshot h i associations w now).1.map (·.1),
      (s.importDetectedSnapshot h i associations w now).2)
  | .save i expected w => s.save h i expected w now
  | .transition incidentId target expected w u => s.transition h incidentId target expected w u now

def next (h : Host) (s : Spanner) (call : Instant × Call) : Spanner := (s.step h call.1 call.2).2

def run (h : Host) (s : Spanner) (calls : List (Instant × Call)) : Spanner :=
  Runs.run (next h) s calls

end Spanner
end NetworkAgent.Cloud
