import NetworkAgent.Library.Runs
import NetworkAgent.Memory.Repository

/-! The five writes of the in-memory repository, and the runs they make up. -/
namespace NetworkAgent
open Checks (require each)

namespace Memory

def liftValidation : Validation → Except RepositoryError Unit
  | .ok () => .ok ()
  | .error e => .error (.validation e)

def liftTransition {α : Type} : Except TransitionError α → Except RepositoryError α
  | .ok a => .ok a
  | .error e => .error (.transition e)

/-- Answer with the stored result of the same request, or go on with the work. -/
def unlessReplayed {α : Type} (m : Memory) (request : Request) (work : Except RepositoryError α) :
    Except RepositoryError (Decision α) := do
  match ← m.replay request.scope request.fingerprint with
  | some result => return .replayed result
  | none => return .proceed request (← work)

def settle {α : Type} (m : Memory) (decision : Except RepositoryError (Decision α))
    (commit : Request → α → Except RepositoryError Incident × Memory) :
    Except RepositoryError Incident × Memory :=
  match decision with
  | .error e => (.error e, m)
  | .ok (.replayed result) => (.ok result, m)
  | .ok (.proceed request work) => commit request work

def validateNewIncident (h : Host) (i : Incident) (traceId : String) (now : Instant) :
    Except RepositoryError Incident := do
  requireValue (i.revision = 0) "a newly created incident must have revision 0"
  requireValue (i.status = .detected) "a newly created incident must have DETECTED status"
  requireValue (i.traceId.text = traceId) "trace_id must match incident.trace_id"
  let committed := { i with createdAt := now, updatedAt := now }
  liftValidation (committed.modelValidate h)
  let _ ← assertSafe h i.incidentId.text committed.toJson
  return committed

def createRequest (h : Host) (operation : String) (i : Incident) (w : WriteMetadata) :
    Except RepositoryError Request := do
  w.require h
  let _ ← assertSafe h i.incidentId.text i.toJson
  let scope ← requestScope operation i.incidentId.text w.idempotencyKey
  return ⟨scope, fingerprint h operation (("incident", i.toJson) :: w.fields), w⟩

def decideCreate (h : Host) (m : Memory) (i : Incident) (w : WriteMetadata) (now : Instant) :
    Except RepositoryError (Decision Incident) := do
  let request ← createRequest h "create" i w
  m.unlessReplayed request do
    require (i.incidentId.text ∉ m.incidents) (.alreadyExists i.incidentId.text)
    let committed ← validateNewIncident h i w.traceId now
    match ← m.findActiveLocked (committed.correlationKey.map (·.text))
        (committed.sourceEventIds.map (·.text)) none committed.incidentId.text with
    | some active => .error (.activeConflict committed.incidentId.text active.incidentId.text)
    | none => return committed

def create (h : Host) (m : Memory) (i : Incident) (w : WriteMetadata) (now : Instant) :
    Except RepositoryError Incident × Memory :=
  m.settle (m.decideCreate h i w now) fun r committed => m.commitCreate h r committed now

def decideCorrelate (h : Host) (m : Memory) (i : Incident) (w : WriteMetadata) (now : Instant) :
    Except RepositoryError (Decision (Option Incident × Incident)) := do
  let request ← createRequest h "create_or_correlate" i w
  m.unlessReplayed request do
    let candidate ← validateNewIncident h i w.traceId now
    match ← m.findActiveLocked (candidate.correlationKey.map (·.text))
        (candidate.sourceEventIds.map (·.text)) none candidate.incidentId.text with
    | some existing => return (some existing, candidate)
    | none => do
      require (candidate.incidentId.text ∉ m.incidents) (.alreadyExists candidate.incidentId.text)
      return (none, candidate)

def createOrCorrelate (h : Host) (m : Memory) (i : Incident) (w : WriteMetadata) (now : Instant) :
    Except RepositoryError Incident × Memory :=
  m.settle (m.decideCorrelate h i w now) fun
    | r, (some existing, candidate) => m.commitCorrelation h r existing candidate.sourceEventIds now
    | r, (none, candidate) => m.commitCreate h r candidate now

/-! Import of one snapshot. -/

def requireBatch (h : Host) (incidentId : String) :
    Nat → List SourceEventAssociation → Except RepositoryError Unit
  | _, [] => .ok ()
  | size, a :: rest => do
    let bytes ← assertSafe h incidentId a.toJson
    require (size + bytes + 1 ≤ maxRepositoryBatchBytes) (.unsafeWrite incidentId .batch)
    requireBatch h incidentId (size + bytes + 1) rest

def importRequest (h : Host) (i : Incident) (associations : List SourceEventAssociation)
    (w : WriteMetadata) : Except RepositoryError Request := do
  w.require h
  liftValidation (i.modelValidate h)
  requireValue (i.status = .detected ∧ i.revision = 0)
    "migration accepts only DETECTED revision-0 incidents"
  requireValue (i.traceId.text = w.traceId) "trace_id must match the imported incident"
  let _ ← assertSafe h i.incidentId.text i.toJson
  requireValue (associations.length ≤ maxIncidentSourceEvents)
    "migration source association capacity exceeded"
  requireBatch h i.incidentId.text 0 associations
  let ids := associations.map (·.sourceEventId)
  requireValue ids.Nodup "migration source associations must be unique"
  requireValue (i.sourceEventIds ⊆ ids) "migration source provenance is incomplete"
  requireValue (∀ a ∈ associations, a.incidentId = i.incidentId)
    "migration source association binding mismatch"
  let scope ← requestScope "import_detected_snapshot" i.incidentId.text w.idempotencyKey
  return ⟨scope, fingerprint h "import_detected_snapshot"
    (("incident", i.toJson) :: ("associations", .arr (associations.map (·.toJson))) :: w.fields), w⟩

def ImportEvent (w : WriteMetadata) (e : IncidentAuditEvent) : Prop :=
  e.fromStatus = none ∧ e.toStatus = .detected ∧ e.idempotencyKey.text = w.idempotencyKey ∧
    e.actor.text = w.actor ∧ e.reason.text = w.reason ∧ e.traceId.text = w.traceId

instance (w : WriteMetadata) (e : IncidentAuditEvent) : Decidable (ImportEvent w e) :=
  inferInstanceAs (Decidable (_ ∧ _ ∧ _ ∧ _ ∧ _ ∧ _))

def requireReplayedImport (m : Memory) (i : Incident) (associations : List SourceEventAssociation)
    (w : WriteMetadata) (result : Incident) : Except RepositoryError Unit := do
  require (PyEq.Same result i)
    (.inconsistent "persisted migration replay snapshot is inconsistent")
  match m.incidents.lookup i.incidentId.text with
  | none => .error (.inconsistent "persisted migration Incident is missing")
  | some current => do
    require (∀ a ∈ associations,
        m.sourceEvents.lookup (a.incidentId.text, a.sourceEventId.text) = some a)
      (.inconsistent "persisted migration source provenance is inconsistent")
    let audit := ((m.history.lookup i.incidentId.text).getD []).find? fun e => e.revision = 0
    require (∃ e ∈ audit, ImportEvent w e)
      (.inconsistent "persisted migration audit is inconsistent")
    if current.status.isActive ∧ (i.correlationKey.isSome ∨ associations ≠ []) then do
      let active ← m.findActiveLocked (i.correlationKey.map (·.text))
        (associations.map (·.sourceEventId.text)) none i.incidentId.text
      require (∃ a ∈ active, a.incidentId = i.incidentId)
        (.inconsistent "persisted migration active keys are inconsistent")

/-- The checks of a new import: no incident, no other owner, no active match. -/
def requireImportable (m : Memory) (i : Incident) (associations : List SourceEventAssociation) :
    Except RepositoryError Unit := do
  require (i.incidentId.text ∉ m.incidents) (.alreadyExists i.incidentId.text)
  each (fun a => do
    let owner ← m.sourceEventOwner a.sourceEventId.text
    require (∀ o ∈ owner, o = i.incidentId.text)
      (.ownershipConflict a.sourceEventId.text (owner.getD "") i.incidentId.text)) associations
  match ← m.findActiveLocked (i.correlationKey.map (·.text))
      (associations.map (·.sourceEventId.text)) none i.incidentId.text with
  | some active => .error (.activeConflict i.incidentId.text active.incidentId.text)
  | none => return ()

def decideImport (h : Host) (m : Memory) (i : Incident) (associations : List SourceEventAssociation)
    (w : WriteMetadata) (now : Instant) :
    Except RepositoryError (Decision IncidentAuditEvent) := do
  let request ← importRequest h i associations w
  match ← m.unlessReplayed request do
      m.requireImportable i associations
      auditEvent h i none w request.fingerprint now with
  | .replayed result => do
    m.requireReplayedImport i associations w result
    return .replayed result
  | .proceed request event => return .proceed request event

def putAssociations (associations : List SourceEventAssociation)
    (t : Table (String × String) SourceEventAssociation) :
    Table (String × String) SourceEventAssociation :=
  associations.foldl (fun t a => t.insert (a.incidentId.text, a.sourceEventId.text) a) t

/-- `import_detected_snapshot`; the answer leaves out whether it was replayed. -/
def importDetectedSnapshot (h : Host) (m : Memory) (i : Incident)
    (associations : List SourceEventAssociation) (w : WriteMetadata) (now : Instant) :
    Except RepositoryError Incident × Memory :=
  m.settle (m.decideImport h i associations w now) fun r event =>
    (.ok i, { m with sourceEvents := putAssociations associations m.sourceEvents }.writeIncident
      r i [event])

/-! Updates of a stored incident. -/

/-- `_require_reactivation_keys_locked`. -/
def requireReactivationKeys (m : Memory) (current successor : Incident) :
    Except RepositoryError Unit :=
  if current.status.isActive ∨ successor.status.isSettled then .ok ()
  else do
    match ← m.findActiveLocked (successor.correlationKey.map (·.text))
        (m.associatedSourceIds successor.incidentId.text) (some successor.incidentId.text)
        successor.incidentId.text with
    | some active => .error (.activeConflict successor.incidentId.text active.incidentId.text)
    | none => return ()

def requireCurrent (m : Memory) (incidentId : String) : Except RepositoryError Incident :=
  match m.incidents.lookup incidentId with
  | none => .error (.notFound incidentId)
  | some current => .ok current

def requireTrace (i : Incident) (traceId : String) : Except RepositoryError Unit :=
  requireValue (i.traceId.text = traceId) "trace_id must match the persisted incident trace_id"

def transitionRequest (h : Host) (incidentId : String) (target : IncidentStatus) (expected : Int)
    (w : WriteMetadata) (u : Updates) : Except RepositoryError Request := do
  w.require h
  requireValue (0 ≤ expected) "expected_revision must not be negative"
  let _ ← assertSafe h incidentId (.obj u.image)
  let scope ← requestScope "transition" incidentId w.idempotencyKey
  return ⟨scope, fingerprint h "transition" (("target_status", .str target.value) ::
    ("expected_revision", .int expected) :: ("updates", .obj u.image) :: w.fields), w⟩

def decideTransition (h : Host) (m : Memory) (incidentId : String) (target : IncidentStatus)
    (expected : Int) (w : WriteMetadata) (u : Updates) (now : Instant) :
    Except RepositoryError (Decision (Incident × Incident)) := do
  let request ← transitionRequest h incidentId target expected w u
  m.unlessReplayed request do
    let current ← m.requireCurrent incidentId
    require (expected = current.revision) (.revisionConflict incidentId expected current.revision)
    requireTrace current w.traceId
    let successor ← liftTransition
      (transitionIncident h current target expected (.given now) (.given now) u)
    let _ ← assertSafe h incidentId successor.toJson
    m.requireReactivationKeys current successor
    return (current, successor)

def transition (h : Host) (m : Memory) (incidentId : String) (target : IncidentStatus)
    (expected : Int) (w : WriteMetadata) (u : Updates) (now : Instant) :
    Except RepositoryError Incident × Memory :=
  m.settle (m.decideTransition h incidentId target expected w u now) fun r work =>
    m.commitTransition h r work.1 work.2 now

/-! A save rebuilds a successor: the fields in which the candidate differs from the stored
incident, as dumped, go through the state machine. -/

def changed {α : Type} (same : Bool) (value : α) : Change α := if same then .keep else .set value

def dumped {α : Type} [PyEq α] [DecidableEq α] (current candidate : List α) :
    Change (List (Element α)) :=
  changed (PyEq.Same candidate current) (candidate.map fun a => .mapping (some a))

def Change.isSet {α : Type} : Change α → Bool
  | .keep => false
  | _ => true

def updatedNames (u : Updates) : List String :=
  ([("source_event_ids", Change.isSet u.sourceEventIds),
    ("vendor_profile", Change.isSet u.vendorProfile), ("severity", Change.isSet u.severity),
    ("title", Change.isSet u.title), ("description", Change.isSet u.description),
    ("affected_resources", Change.isSet u.affectedResources),
    ("window_start", Change.isSet u.windowStart), ("window_end", Change.isSet u.windowEnd),
    ("violated_kpis", Change.isSet u.violatedKpis), ("evidence_refs", Change.isSet u.evidenceRefs),
    ("hypotheses", Change.isSet u.hypotheses), ("root_cause", Change.isSet u.rootCause),
    ("rca_reports", Change.isSet u.rcaReports),
    ("recommendations", Change.isSet u.recommendations), ("approvals", Change.isSet u.approvals),
    ("action_runs", Change.isSet u.actionRuns),
    ("verification_runs", Change.isSet u.verificationRuns),
    ("model_metadata", Change.isSet u.modelMetadata),
    ("rule_versions", Change.isSet u.ruleVersions),
    ("duplicate_of", Change.isSet u.duplicateOf)].filter (·.2)).map Prod.fst

/-- The difference of two incidents outside the fields that only a transition sets. -/
def differences (current candidate : Incident) : Updates :=
  let u : Updates := {
    sourceEventIds := changed (candidate.sourceEventIds = current.sourceEventIds)
      (candidate.sourceEventIds.map (·.text))
    vendorProfile := changed (candidate.vendorProfile = current.vendorProfile)
      candidate.vendorProfile
    severity := changed (candidate.severity = current.severity) candidate.severity
    title := changed (candidate.title = current.title) candidate.title
    description := changed (candidate.description = current.description) candidate.description
    affectedResources := changed
      (PyEq.Same candidate.affectedResources current.affectedResources) candidate.affectedResources
    windowStart := changed (candidate.windowStart = current.windowStart) candidate.windowStart
    windowEnd := changed (candidate.windowEnd = current.windowEnd) candidate.windowEnd
    violatedKpis := changed (PyEq.Same candidate.violatedKpis current.violatedKpis)
      candidate.violatedKpis
    evidenceRefs := dumped current.evidenceRefs candidate.evidenceRefs
    hypotheses := changed (candidate.hypotheses = current.hypotheses) candidate.hypotheses
    rootCause := changed (candidate.rootCause = current.rootCause) candidate.rootCause
    rcaReports := dumped current.rcaReports candidate.rcaReports
    recommendations := dumped current.recommendations candidate.recommendations
    approvals := dumped current.approvals candidate.approvals
    actionRuns := dumped current.actionRuns candidate.actionRuns
    verificationRuns := dumped current.verificationRuns candidate.verificationRuns
    modelMetadata := changed (normDict candidate.modelMetadata = normDict current.modelMetadata)
      candidate.modelMetadata
    ruleVersions := changed
      (Json.sortFields candidate.ruleVersions = Json.sortFields current.ruleVersions)
      candidate.ruleVersions
    duplicateOf := changed (candidate.duplicateOf = current.duplicateOf) candidate.duplicateOf }
  { u with image := (candidate.fields "+00:00").filter fun f => (updatedNames u).contains f.1 }

/-- Equal dumps without `updated_at`. -/
def SameExceptTime (a b : Incident) : Prop := PyEq.Same { a with updatedAt := b.updatedAt } b

instance (a b : Incident) : Decidable (SameExceptTime a b) := inferInstanceAs (Decidable (_ = _))

def saveRequest (h : Host) (i : Incident) (expected : Int) (w : WriteMetadata) :
    Except RepositoryError Request := do
  w.require h
  let _ ← assertSafe h i.incidentId.text i.toJson
  requireValue (0 ≤ expected) "expected_revision must not be negative"
  let scope ← requestScope "save" i.incidentId.text w.idempotencyKey
  return ⟨scope, fingerprint h "save" (("incident", i.toJson) ::
    ("expected_revision", .int expected) :: w.fields), w⟩

def decideSave (h : Host) (m : Memory) (i : Incident) (expected : Int) (w : WriteMetadata)
    (now : Instant) : Except RepositoryError (Decision (Incident × Incident)) := do
  let request ← saveRequest h i expected w
  m.unlessReplayed request do
    let current ← m.requireCurrent i.incidentId.text
    require (expected = current.revision ∧ (i.revision : Int) = expected + 1)
      (.revisionConflict i.incidentId.text expected current.revision)
    requireTrace current w.traceId
    liftValidation (i.modelValidate h)
    let u := differences current i
    let _ ← assertSafe h i.incidentId.text (.obj u.image)
    let successor ← liftTransition
      (transitionIncident h current i.status expected (.given now) (.given now) u)
    require (SameExceptTime successor i) (.notStateMachineOutput i.incidentId.text)
    let _ ← assertSafe h i.incidentId.text successor.toJson
    m.requireReactivationKeys current successor
    return (current, successor)

def save (h : Host) (m : Memory) (i : Incident) (expected : Int) (w : WriteMetadata)
    (now : Instant) : Except RepositoryError Incident × Memory :=
  m.settle (m.decideSave h i expected w now) fun r work => m.commitTransition h r work.1 work.2 now

end Memory

/-! Runs. -/

/-- A write of the repository. -/
inductive Call where
  | create (i : Incident) (w : WriteMetadata)
  | createOrCorrelate (i : Incident) (w : WriteMetadata)
  | importDetectedSnapshot (i : Incident) (associations : List SourceEventAssociation)
      (w : WriteMetadata)
  | save (i : Incident) (expected : Int) (w : WriteMetadata)
  | transition (incidentId : String) (target : IncidentStatus) (expected : Int)
      (w : WriteMetadata) (u : Updates)

namespace Memory

def step (h : Host) (m : Memory) (now : Instant) : Call → Except RepositoryError Incident × Memory
  | .create i w => m.create h i w now
  | .createOrCorrelate i w => m.createOrCorrelate h i w now
  | .importDetectedSnapshot i associations w => m.importDetectedSnapshot h i associations w now
  | .save i expected w => m.save h i expected w now
  | .transition incidentId target expected w u => m.transition h incidentId target expected w u now

def next (h : Host) (m : Memory) (call : Instant × Call) : Memory := (m.step h call.1 call.2).2

/-- The repository after a list of calls, each with its own clock reading. -/
def run (h : Host) (m : Memory) (calls : List (Instant × Call)) : Memory :=
  Runs.run (next h) m calls

theorem run_nil (h : Host) (m : Memory) : run h m [] = m := rfl

end Memory

end NetworkAgent
