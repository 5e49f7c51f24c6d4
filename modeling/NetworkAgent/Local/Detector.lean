import Mathlib.Algebra.Ring.Rat
import NetworkAgent.Memory.Saving
import NetworkAgent.Local.Effects
import NetworkAgent.Local.Scan

/-! The detector's confirmation of one candidate: it scans again and lets the repository
create or correlate. A repeated call does not scan when the recorded answer has the candidate's
identifier; it then rebuilds the request from that answer, which the first call may only have
correlated with. -/
namespace NetworkAgent.Local
open Checks (require)
open Rca (RcaRule)

structure ConfirmRequest where
  candidateId : String
  traceId : String
  idempotencyKey : String
  actor : String
  reason : String
  scope : ScanScope := {}

def normalizeRequest (h : Host) (r : ConfirmRequest) :
    Except DetectorError (String × WriteMetadata) := do
  let candidateId ← requireIdentifier h "candidate_id" r.candidateId
  let traceId ← requireIdentifier h "trace_id" r.traceId
  let idempotencyKey ← requireIdentifier h "idempotency_key" r.idempotencyKey
  let actor ← requireIdentifier h "actor" r.actor
  let reason ← requireText h "reason" r.reason
  let _ ← validatedScanScope h r.scope
  return (candidateId, { idempotencyKey, actor, reason, traceId })

def rescan (h : Host) (ports : Ports) (candidateId traceId workflowId : String)
    (scope : ScanScope) : Except DetectorError Incident := do
  let candidates ← scan h ports traceId workflowId scope
  match candidates.find? fun t => t.incident.incidentId.text = candidateId with
  | some selected => return selected.incident
  | none => .error (.value "candidate is unavailable after deterministic rescan")

def asDetected (i : Incident) : Incident :=
  { i with createdAt := i.detectedAt, updatedAt := i.detectedAt }

/-- Whether an incident is a snapshot that nothing has changed since its detection. -/
def IsOriginal (i : Incident) : Prop :=
  i.status = .detected ∧ i.revision = 0 ∧ i.windowEnd = some i.detectedAt

instance (i : Incident) : Decidable (IsOriginal i) := inferInstanceAs (Decidable (_ ∧ _ ∧ _))

/-- The request of a recorded answer, rebuilt without a scan. -/
def reconstruct (h : Host) (replay : Incident) : Except DetectorError Incident := do
  requireScan (IsOriginal replay) "candidate replay cannot reconstruct the original snapshot"
  validated ((asDetected replay).modelValidate h)
  return asDetected replay

def liftFault {α : Type} : Except Fault α → Except DetectorError α
  | .ok a => .ok a
  | .error e => .error (.repository e)

@[simp] theorem liftFault_ok {α : Type} {x : Except Fault α} {a : α} :
    liftFault x = .ok a ↔ x = .ok a := by
  cases x <;> simp [liftFault]

def createOrCorrelateOperation : String := "create_or_correlate"

def selectIncident (d : Driver) (ports : Ports) (db : Database) (r : ConfirmRequest)
    (workflowId : String) : Except DetectorError (Incident × WriteMetadata) := do
  let (candidateId, w) ← normalizeRequest d.toHost r
  match ← liftFault (db.findByIdempotencyKey d candidateId w.idempotencyKey
      createOrCorrelateOperation) with
  | some replay =>
    if replay.incidentId.text = candidateId then
      return (← reconstruct d.toHost replay, w)
    else
      return (← rescan d.toHost ports candidateId w.traceId workflowId r.scope, w)
  | none => return (← rescan d.toHost ports candidateId w.traceId workflowId r.scope, w)

/-- `confirm`, under a new workflow identifier for its scan. -/
def confirm (d : Driver) (ports : Ports) (db : Database) (r : ConfirmRequest)
    (workflowId : String) (now : Instant) : Except DetectorError Incident × Database :=
  match selectIncident d ports db r workflowId with
  | .error e => (.error e, db)
  | .ok (selected, w) => match db.step d now (.createOrCorrelate selected w) with
    | (.error e, db') => (.error (.repository e), db')
    | (.ok result, db') =>
      (do assertPrivacySafe d.toHost result.toJson "confirmed incident"; return result, db')

theorem confirm_of_step {d : Driver} {ports : Ports} {db after : Database} {r : ConfirmRequest}
    {workflowId : String} {now : Instant} {selected result : Incident} {w : WriteMetadata}
    (candidate : selectIncident d ports db r workflowId = .ok (selected, w))
    (stepped : db.step d now (.createOrCorrelate selected w) = (.ok result, after))
    (passed : assertPrivacySafe d.toHost result.toJson "confirmed incident" = .ok ()) :
    confirm d ports db r workflowId now = (.ok result, after) := by
  rw [confirm, candidate]
  dsimp only
  rw [stepped]
  dsimp only
  rw [passed]
  rfl

/-! What happens between a call and its retry. -/

/-- Another confirmation of the same candidate, or a transition of the incident. -/
inductive Later where
  | confirm (traceId idempotencyKey actor reason : String) (scope : ScanScope)
      (workflowId : String)
  | transition (target : IncidentStatus) (expected : Int) (w : WriteMetadata) (u : Updates)
      (depth : Nat)

def Later.next (d : Driver) (ports : Ports) (candidateId incidentId : String) (db : Database)
    (step : Instant × Later) : Database :=
  match step.2 with
  | .confirm traceId idempotencyKey actor reason scope workflowId =>
    (NetworkAgent.Local.confirm d ports db
      { candidateId, traceId, idempotencyKey, actor, reason, scope } workflowId step.1).2
  | .transition target expected w u depth =>
    (db.step d step.1 (.transition incidentId target expected w u depth)).2

theorem confirm_keepsRecords (d : Driver) (ports : Ports) (db : Database) (r : ConfirmRequest)
    (workflowId : String) (now : Instant) :
    db.KeepsRecords (confirm d ports db r workflowId now).2 := by
  unfold confirm
  split
  · exact .refl db
  · next selected w _ =>
    have kept : db.KeepsRecords (db.step d now (.createOrCorrelate selected w)).2 :=
      Database.step_keepsRecords now _
    split
    · next stepped => rw [stepped] at kept; exact kept
    · next stepped => rw [stepped] at kept; exact kept

theorem later_keepsRecords (d : Driver) (ports : Ports) (candidateId incidentId : String)
    (db : Database) (steps : List (Instant × Later)) :
    db.KeepsRecords (Runs.run (Later.next d ports candidateId incidentId) db steps) := by
  refine Runs.run_relation (P := fun _ => True) _ (fun _ _ _ => trivial) Database.KeepsRecords.refl
    Database.KeepsRecords.trans (fun db step _ => ?_) trivial steps
  unfold Later.next
  split
  · exact confirm_keepsRecords d ports db _ _ _
  · exact Database.step_keepsRecords _ _

/-! A call and its retry. -/

theorem asDetected_valid {h : Host} {i : Incident} (valid : i.Valid h) : (asDetected i).Valid h := by
  obtain ⟨sources, kpis, evidence, reports, actions, approvals, runs, checks, a⟩ :=
    Incident.valid_iff.mp valid
  exact Incident.valid_iff.mpr ⟨sources, kpis, evidence, reports, actions, approvals, runs, checks,
    { a with updatedAt := le_refl _ }⟩

/-- The incident, set back to its detection, makes the request of the candidate. -/
structure Rebuilds (h : Host) (w : WriteMetadata) (candidate existing : Incident) : Prop where
  original : IsOriginal existing
  request : createRequest h createOrCorrelateOperation (asDetected existing) w =
    createRequest h createOrCorrelateOperation candidate w

section
variable {d : Driver} {ports : Ports} {db db' : Database} {r : ConfirmRequest}
  {candidateId workflowId other : String} {w : WriteMetadata} {now : Instant}
  {candidate selected result : Incident} {request : Memory.Request}

theorem normalizeRequest_traceId (normal : normalizeRequest d.toHost r = .ok (candidateId, w)) :
    w.traceId = strip r.traceId := by
  obtain ⟨_, _, normal⟩ := Checks.bind_ok.mp normal
  obtain ⟨_, trace, normal⟩ := Checks.bind_ok.mp normal
  obtain ⟨_, _, normal⟩ := Checks.bind_ok.mp normal
  obtain ⟨_, _, normal⟩ := Checks.bind_ok.mp normal
  obtain ⟨_, _, normal⟩ := Checks.bind_ok.mp normal
  obtain ⟨_, _, normal⟩ := Checks.bind_ok.mp normal
  cases normal
  exact requireBounded_ok trace

theorem scope_of_createRequest {h : Host} {operation : String} {i : Incident}
    (requested : createRequest h operation i w = .ok request) :
    request.scope = ⟨operation, i.incidentId.text, w.idempotencyKey⟩ := by
  obtain ⟨_, requested⟩ := Checks.seq_ok.mp requested
  obtain ⟨_, _, requested⟩ := Checks.bind_ok.mp requested
  obtain ⟨scope, named, same⟩ := Checks.bind_ok.mp requested
  cases same
  obtain ⟨_, _, _, rfl⟩ := Memory.requestScope_ok.mp named
  rfl

theorem rescan_found {h : Host} {scope : ScanScope} {traceId : String}
    (found : rescan h ports candidateId traceId workflowId scope = .ok candidate) :
    candidate.incidentId.text = candidateId ∧ IsFresh candidate := by
  obtain ⟨candidates, scanned, chosen⟩ := Checks.bind_ok.mp found
  split at chosen
  · next selected here =>
    cases chosen
    have named : decide (selected.incident.incidentId.text = candidateId) = true := by
      simpa only using List.find?_some here
    exact ⟨of_decide_eq_true named, scan_fresh scanned selected (List.mem_of_find?_eq_some here)⟩
  · cases chosen

theorem rescan_under {h : Host} {scope : ScanScope} {traceId : String}
    (new : IsNewUuid (strip traceId) other)
    (found : rescan h ports candidateId traceId workflowId scope = .ok candidate) :
    rescan h ports candidateId traceId other scope = .ok candidate := by
  obtain ⟨candidates, scanned, chosen⟩ := Checks.bind_ok.mp found
  refine Checks.bind_ok.mpr ⟨_, scan_under new scanned, ?_⟩
  rw [List.find?_map]
  split at chosen
  · next selected here =>
    cases chosen
    have same : ((fun t : IncidentTrigger => decide (t.incident.incidentId.text = candidateId)) ∘
        fun t : IncidentTrigger => t.under other) = fun t => decide (t.incident.incidentId.text = candidateId) := rfl
    rw [same, here]
    rfl
  · cases chosen

theorem findByIdempotencyKey_ok {operation : String} {found : Option Incident} {scope : Scope}
    (named : requestScope operation candidateId w.idempotencyKey = .ok scope) :
    db.findByIdempotencyKey d candidateId w.idempotencyKey operation = .ok found ↔
      (db.idempotency.lookup scope = none ∧ found = none) ∨
        ∃ row, db.idempotency.lookup scope = some row ∧ Readable d row.resultPayload ∧
          found = some row.resultPayload := by
  simp only [Database.findByIdempotencyKey, named, lift, Checks.bind_ok, Except.ok.injEq,
    exists_eq_left']
  cases stored : db.idempotency.lookup scope with
  | none => simp [pure, Except.pure, eq_comm]
  | some row =>
    simp only [Checks.bind_ok, parseIncident_ok, pure, Except.pure, Except.ok.injEq]
    constructor
    · rintro ⟨_, ⟨same, readable⟩, answer⟩
      exact .inr ⟨row, rfl, readable, by rw [← answer, same]⟩
    · rintro (⟨absent, _⟩ | ⟨_, ⟨⟩, readable, answer⟩)
      · cases absent
      · exact ⟨row.resultPayload, ⟨rfl, readable⟩, answer.symm⟩

theorem selectIncident_of_record {scope : Scope} {row : IdempotencyRow}
    (named : requestScope createOrCorrelateOperation candidateId w.idempotencyKey = .ok scope)
    (normal : normalizeRequest d.toHost r = .ok (candidateId, w))
    (stored : db.idempotency.lookup scope = some row) :
    selectIncident d ports db r workflowId = .ok (selected, w) ↔ Readable d row.resultPayload ∧
      (row.resultPayload.incidentId.text = candidateId ∧
          reconstruct d.toHost row.resultPayload = .ok selected ∨
        row.resultPayload.incidentId.text ≠ candidateId ∧
          rescan d.toHost ports candidateId w.traceId workflowId r.scope = .ok selected) := by
  constructor
  · intro chosen
    obtain ⟨⟨_, _⟩, again, chosen⟩ := Checks.bind_ok.mp chosen
    cases normal.symm.trans again
    obtain ⟨found, looked, chosen⟩ := Checks.bind_ok.mp chosen
    rcases (findByIdempotencyKey_ok named).mp (liftFault_ok.mp looked) with ⟨absent, _⟩ |
      ⟨row', present, readable, rfl⟩
    · rw [stored] at absent; cases absent
    cases stored.symm.trans present
    refine ⟨readable, ?_⟩
    dsimp only at chosen
    split at chosen
    · next same =>
      obtain ⟨_, rebuilt, answer⟩ := Checks.bind_ok.mp chosen
      cases answer
      exact .inl ⟨same, rebuilt⟩
    · next different =>
      obtain ⟨_, found, answer⟩ := Checks.bind_ok.mp chosen
      cases answer
      exact .inr ⟨different, found⟩
  · rintro ⟨readable, chosen⟩
    have looked := liftFault_ok.mpr ((findByIdempotencyKey_ok (d := d) named).mpr
      (.inr ⟨row, stored, readable, rfl⟩))
    refine Checks.bind_ok.mpr ⟨_, normal, Checks.bind_ok.mpr ⟨_, looked, ?_⟩⟩
    dsimp only
    rcases chosen with ⟨same, rebuilt⟩ | ⟨different, found⟩
    · rw [if_pos same]
      exact Checks.bind_ok.mpr ⟨_, rebuilt, rfl⟩
    · rw [if_neg different]
      exact Checks.bind_ok.mpr ⟨_, found, rfl⟩

theorem selectIncident_metadata {v : WriteMetadata}
    (normal : normalizeRequest d.toHost r = .ok (candidateId, w))
    (chosen : selectIncident d ports db r workflowId = .ok (selected, v)) : v = w := by
  obtain ⟨⟨_, _⟩, again, chosen⟩ := Checks.bind_ok.mp chosen
  cases normal.symm.trans again
  obtain ⟨found, _, chosen⟩ := Checks.bind_ok.mp chosen
  cases found with
  | none =>
    obtain ⟨_, _, answer⟩ := Checks.bind_ok.mp chosen
    cases answer
    rfl
  | some replay =>
    dsimp only at chosen
    split at chosen
    all_goals
      obtain ⟨_, _, answer⟩ := Checks.bind_ok.mp chosen
      cases answer
      rfl

theorem reconstruct_ok {h : Host} {replay : Incident} :
    reconstruct h replay = .ok selected ↔
      IsOriginal replay ∧ (asDetected replay).Valid h ∧ selected = asDetected replay := by
  simp only [reconstruct, requireScan, Checks.seq_ok, Checks.require_ok, validated_ok, pure,
    Except.pure, Except.ok.injEq]
  rw [eq_comm (a := selected)]
  rfl

theorem confirm_of_changed_record {scope : Scope} {row : IdempotencyRow}
    (named : requestScope createOrCorrelateOperation candidateId w.idempotencyKey = .ok scope)
    (normal : normalizeRequest d.toHost r = .ok (candidateId, w))
    (stored : db.idempotency.lookup scope = some row) (readable : Readable d row.resultPayload)
    (own : row.resultPayload.incidentId.text = candidateId)
    (changed : ¬ IsOriginal row.resultPayload) :
    confirm d ports db r workflowId now =
      (.error (.value "candidate replay cannot reconstruct the original snapshot"), db) := by
  have looked := (findByIdempotencyKey_ok (d := d) named).mpr (.inr ⟨row, stored, readable, rfl⟩)
  have broken : reconstruct d.toHost row.resultPayload =
      .error (.value "candidate replay cannot reconstruct the original snapshot") := by
    simp only [reconstruct, requireScan, Checks.require, if_neg changed, Bind.bind, Except.bind]
  simp only [confirm, selectIncident, normal, Bind.bind, Except.bind, looked, liftFault, if_pos own,
    broken]

theorem createOrCorrelate_of_record {row : IdempotencyRow} {answer : Incident × Database}
    (requested : createRequest d.toHost createOrCorrelateOperation selected w = .ok request)
    (stored : db.idempotency.lookup request.scope = some row) :
    db.createOrCorrelate d selected w now = .ok answer ↔ row.fingerprint = request.fingerprint ∧
      Readable d row.resultPayload ∧ answer = (row.resultPayload, db) := by
  have begun := lift_ok.mpr requested
  constructor
  · intro done
    obtain ⟨_, again, done⟩ := Checks.bind_ok.mp done
    cases begun.symm.trans again
    rcases Database.unlessReplayed_ok.mp done with ⟨absent, _⟩ | ⟨_, present, rest⟩
    · rw [stored] at absent; cases absent
    · cases stored.symm.trans present
      exact rest
  · intro rest
    exact Checks.bind_ok.mpr ⟨_, begun, Database.unlessReplayed_ok.mpr (.inr ⟨row, stored, rest⟩)⟩

theorem confirm_ok (r : ConfirmRequest) :
    confirm d ports db r workflowId now = (.ok result, db') ↔
      ∃ selected w, selectIncident d ports db r workflowId = .ok (selected, w) ∧
        db.createOrCorrelate d selected w now = .ok (result, db') ∧
        findSensitivePaths d.toHost "$" result.toJson = [] := by
  unfold confirm
  constructor
  · intro done
    split at done
    · cases done
    · next selected w chosen =>
      refine ⟨selected, w, chosen, ?_⟩
      split at done
      · cases done
      · next stored after stepped =>
        have worked := Database.step_ok.mp stepped
        obtain ⟨answer, same⟩ := Prod.mk.inj done
        obtain ⟨safe, answer⟩ := Checks.seq_ok.mp answer
        cases answer
        exact ⟨same ▸ worked, Checks.require_ok.mp safe⟩
  · rintro ⟨selected, w, chosen, worked, safe⟩
    have stepped : db.step d now (.createOrCorrelate selected w) = (.ok result, db') :=
      Database.step_ok.mpr worked
    simp only [chosen, stepped]
    exact Prod.ext (Checks.seq_ok.mpr ⟨Checks.require_ok.mpr safe, rfl⟩) rfl

theorem metadata_of_createRequest {h : Host} {operation : String} {i : Incident}
    (requested : createRequest h operation i w = .ok request) : request.metadata = w := by
  obtain ⟨_, requested⟩ := Checks.seq_ok.mp requested
  obtain ⟨_, _, requested⟩ := Checks.bind_ok.mp requested
  obtain ⟨_, _, same⟩ := Checks.bind_ok.mp requested
  cases same
  rfl

/-- A call whose request is on record answers with the record, if it can be read and its own
incident still makes the request. -/
theorem confirm_of_record {scope : Scope} {row : IdempotencyRow}
    (normal : normalizeRequest d.toHost r = .ok (candidateId, w))
    (named : requestScope createOrCorrelateOperation candidateId w.idempotencyKey = .ok scope)
    (found : rescan d.toHost ports candidateId w.traceId workflowId r.scope = .ok candidate)
    (requested : createRequest d.toHost createOrCorrelateOperation candidate w = .ok request)
    (stored : db.idempotency.lookup scope = some row)
    (printed : row.fingerprint = request.fingerprint) :
    confirm d ports db r workflowId now = (.ok row.resultPayload, db) ↔
      Readable d row.resultPayload ∧ (row.resultPayload.incidentId.text = candidateId →
        Rebuilds d.toHost w candidate row.resultPayload) := by
  obtain ⟨own, _⟩ := rescan_found found
  obtain ⟨_, _, _, rfl⟩ := Memory.requestScope_ok.mp named
  have scoped' := scope_of_createRequest requested
  rw [own] at scoped'
  constructor
  · intro done
    obtain ⟨selected, w', chosen, worked, _⟩ := (confirm_ok r).mp done
    cases selectIncident_metadata normal chosen
    obtain ⟨readable, branch⟩ := (selectIncident_of_record named normal stored).mp chosen
    refine ⟨readable, fun ours => ?_⟩
    rcases branch with ⟨_, rebuilt⟩ | ⟨other, _⟩
    · obtain ⟨original, _, rfl⟩ := reconstruct_ok.mp rebuilt
      obtain ⟨request', again, _⟩ := Checks.bind_ok.mp worked
      have again : createRequest d.toHost createOrCorrelateOperation
        (asDetected row.resultPayload) w = .ok request' := lift_ok.mp again
      have scope' := scope_of_createRequest again
      rw [show (asDetected row.resultPayload).incidentId.text = candidateId from ours] at scope'
      have printed' := ((createOrCorrelate_of_record again (scope' ▸ stored)).mp worked).1
      have scopes : request'.scope = request.scope := scope'.trans scoped'.symm
      have prints : request'.fingerprint = request.fingerprint := printed'.symm.trans printed
      have sources : request'.metadata = request.metadata :=
        (metadata_of_createRequest again).trans (metadata_of_createRequest requested).symm
      refine ⟨original, ?_⟩
      rw [again, requested]
      obtain ⟨_, _, _⟩ := request
      obtain ⟨_, _, _⟩ := request'
      dsimp only at scopes prints sources
      rw [scopes, prints, sources]
    · exact absurd ours other
  · rintro ⟨readable, rebuilds⟩
    have branch : ∀ selected, selectIncident d ports db r workflowId = .ok (selected, w) ↔ _ :=
      fun _ => selectIncident_of_record named normal stored
    by_cases ours : row.resultPayload.incidentId.text = candidateId
    · obtain ⟨original, again⟩ := rebuilds ours
      rw [requested] at again
      have chosen := (branch _).mpr ⟨readable, .inl ⟨ours,
        reconstruct_ok.mpr ⟨original, asDetected_valid readable.valid, rfl⟩⟩⟩
      refine (confirm_ok r).mpr ⟨_, w, chosen, ?_, readable.safe.1⟩
      exact (createOrCorrelate_of_record again (scoped' ▸ stored)).mpr ⟨printed, readable, rfl⟩
    · have chosen := (branch _).mpr ⟨readable, .inr ⟨ours, found⟩⟩
      refine (confirm_ok r).mpr ⟨_, w, chosen, ?_, readable.safe.1⟩
      exact (createOrCorrelate_of_record requested (scoped' ▸ stored)).mpr ⟨printed, readable, rfl⟩

/-- The record that a call without one leaves behind, and where its answer comes from. -/
structure Recorded (d : Driver) (db : Database) (candidate : Incident) (request : Memory.Request)
    (now : Instant) (result : Incident) (db' : Database) : Prop where
  stored : db'.idempotency.lookup request.scope = some ⟨request.fingerprint, result⟩
  origin :
    (db.findActiveLocked d (candidate.correlationKey.map (·.text))
        (candidate.sourceEventIds.map (·.text)) none candidate.incidentId.text = .ok none ∧
      result = { candidate with createdAt := now, updatedAt := now } ∧
      result.Valid d.toHost ∧ RepositorySafe d.toHost result.toJson) ∨
    (db.findActiveLocked d (candidate.correlationKey.map (·.text))
        (candidate.sourceEventIds.map (·.text)) none candidate.incidentId.text =
        .ok (some result) ∧ Readable d result)

theorem createOrCorrelate_recorded
    (requested : createRequest d.toHost createOrCorrelateOperation candidate w = .ok request)
    (absent : db.idempotency.lookup request.scope = none)
    (done : db.createOrCorrelate d candidate w now = .ok (result, db')) :
    Recorded d db candidate request now result db' := by
  obtain ⟨_, again, done⟩ := Checks.bind_ok.mp done
  cases (lift_ok.mpr requested).symm.trans again
  rcases Database.unlessReplayed_ok.mp done with ⟨_, done⟩ | ⟨_, present, _⟩
  · cases Database.createOrCorrelateNew_worked done with
    | opened accepted looked commit =>
      obtain ⟨rfl, valid, safe⟩ := validateNewIncident_ok accepted
      exact ⟨commit.records.lookup, .inl ⟨looked, rfl, valid, safe⟩⟩
    | joined accepted looked commit =>
      obtain ⟨rfl, _, _⟩ := validateNewIncident_ok accepted
      exact ⟨commit.records.lookup, .inr ⟨looked, (Database.findActiveLocked_some looked).1⟩⟩
  · rw [absent] at present; cases present

end

/-- When a confirmation can be repeated: its record was there before; or the incident it opens
can be read back; or it correlates with an incident of another identifier, or with one that
still makes the candidate's own request. -/
def Repeatable (d : Driver) (ports : Ports) (db : Database) (r : ConfirmRequest)
    (workflowId : String) (now : Instant) : Prop :=
  ∀ candidateId w, normalizeRequest d.toHost r = .ok (candidateId, w) →
    ⟨createOrCorrelateOperation, candidateId, w.idempotencyKey⟩ ∈ db.idempotency ∨
    ∀ candidate, rescan d.toHost ports candidateId w.traceId workflowId r.scope = .ok candidate →
      ∀ active, db.findActiveLocked d (candidate.correlationKey.map (·.text))
        (candidate.sourceEventIds.map (·.text)) none candidateId = .ok active →
      match active with
      | none => d.textBytes { candidate with createdAt := now, updatedAt := now }.toJson ≤
          maxContractSerializedBytes
      | some existing => existing.incidentId.text = candidateId →
          Rebuilds d.toHost w candidate existing

theorem exists_newUuid (traceId : String) : ∃ workflowId, IsNewUuid traceId workflowId := by
  have one : "1".toList.all Sha256.isHexDigit = true := by decide
  have zero : "0".toList.all Sha256.isHexDigit = true := by decide
  by_cases same : traceId = "0"
  · exact ⟨"1", fun c member => .inl (List.all_eq_true.mp one c member), by rw [same]; decide⟩
  · exact ⟨"0", fun c member => .inl (List.all_eq_true.mp zero c member),
      fun other => same other.symm⟩

/-- Every later retry answers as the first call did and changes nothing, exactly when the
confirmation is repeatable. -/
theorem confirm_repeats_iff {d : Driver} {ports : Ports} {db db' : Database} {r : ConfirmRequest}
    {workflowId : String} {now : Instant} {result : Incident}
    (first : confirm d ports db r workflowId now = (.ok result, db')) :
    (∀ steps workflowId' now', IsNewUuid (strip r.traceId) workflowId' →
      confirm d ports (Runs.run (Later.next d ports r.candidateId result.incidentId.text) db' steps)
        r workflowId' now' =
      (.ok result, Runs.run (Later.next d ports r.candidateId result.incidentId.text) db' steps)) ↔
    Repeatable d ports db r workflowId now := by
  obtain ⟨selected, w, chosen, worked, _⟩ := (confirm_ok r).mp first
  obtain ⟨⟨candidateId, v⟩, normal, rest⟩ := Checks.bind_ok.mp chosen
  cases selectIncident_metadata normal chosen
  obtain ⟨found, looked, rest⟩ := Checks.bind_ok.mp rest
  obtain ⟨scope, named, _⟩ := Checks.bind_ok.mp (liftFault_ok.mp looked)
  have named := lift_ok.mp named
  obtain ⟨_, _, _, scoped'⟩ := Memory.requestScope_ok.mp named
  obtain ⟨request, requested, _⟩ := Checks.bind_ok.mp worked
  have requested : createRequest d.toHost createOrCorrelateOperation selected w = .ok request :=
    lift_ok.mp requested
  have trace : strip w.traceId = strip r.traceId := by
    rw [normalizeRequest_traceId normal, strip, strip, Text.trim_trim]
  cases stored : db.idempotency.lookup scope with
  | some row =>
    obtain ⟨readable, branch⟩ := (selectIncident_of_record named normal stored).mp chosen
    have own : request.scope = scope := by
      rw [scope_of_createRequest requested, scoped']
      rcases branch with ⟨ours, rebuilt⟩ | ⟨_, rescanned⟩
      · obtain ⟨_, _, rfl⟩ := reconstruct_ok.mp rebuilt
        rw [show (asDetected row.resultPayload).incidentId.text = candidateId from ours]
      · rw [(rescan_found rescanned).1]
    obtain ⟨printed, _, answer⟩ := (createOrCorrelate_of_record requested (own ▸ stored)).mp worked
    cases answer
    refine iff_of_true (fun steps workflowId' now' new => ?_) fun candidateId' w' again => ?_
    · have kept := later_keepsRecords d ports r.candidateId row.resultPayload.incidentId.text db
        steps scope row stored
      refine (confirm_ok r).mpr ⟨selected, w, ?_, ?_, readable.safe.1⟩
      · refine (selectIncident_of_record named normal kept).mpr ⟨readable, branch.imp_right ?_⟩
        exact fun ⟨other, rescanned⟩ => ⟨other, rescan_under (trace ▸ new) rescanned⟩
      · exact (createOrCorrelate_of_record requested (own ▸ kept)).mpr ⟨printed, readable, rfl⟩
    · cases normal.symm.trans again
      exact .inl (scoped' ▸ AList.lookup_isSome.mp (Option.isSome_of_mem stored))
  | none =>
    rcases (findByIdempotencyKey_ok named).mp (liftFault_ok.mp looked) with ⟨_, rfl⟩ |
      ⟨_, present, _⟩
    · obtain ⟨candidate, rescanned, same⟩ := Checks.bind_ok.mp rest
      obtain ⟨rfl, _⟩ := Prod.mk.inj (Except.ok.inj same)
      obtain ⟨ours, fresh⟩ := rescan_found rescanned
      have own : request.scope = scope := by
        rw [scope_of_createRequest requested, scoped', ours]
      have recorded := createOrCorrelate_recorded requested (own ▸ stored) worked
      have retry : ∀ steps workflowId' now', IsNewUuid (strip r.traceId) workflowId' →
          (confirm d ports _ r workflowId' now' = (.ok result, _) ↔ Readable d result ∧
            (result.incidentId.text = candidateId → Rebuilds d.toHost w candidate result)) :=
        fun steps workflowId' now' new => confirm_of_record normal named
          (rescan_under (trace ▸ new) rescanned) requested
          (own ▸ later_keepsRecords d ports r.candidateId result.incidentId.text db' steps
            request.scope _ recorded.stored) rfl
      constructor
      · intro repeats
        obtain ⟨other, new⟩ := exists_newUuid (strip r.traceId)
        obtain ⟨readable, rebuilds⟩ := (retry [] other now new).mp (repeats [] other now new)
        intro candidateId' w' again
        cases normal.symm.trans again
        refine .inr fun candidate' again active looked => ?_
        cases rescanned.symm.trans again
        rw [← ours] at looked
        rcases recorded.origin with ⟨opened, rfl, _⟩ | ⟨joined, _⟩
        · cases opened.symm.trans looked
          exact readable.size
        · cases joined.symm.trans looked
          exact rebuilds
      · intro repeatable steps other now' new
        refine (retry steps other now' new).mpr ?_
        rcases repeatable candidateId w normal with known | condition
        · rw [← scoped', ← AList.lookup_isSome, stored] at known
          cases known
        have condition := condition candidate rescanned
        rw [← ours] at condition
        rcases recorded.origin with ⟨opened, rfl, valid, safe⟩ | ⟨joined, readable⟩
        · have back : asDetected { candidate with createdAt := now, updatedAt := now } = candidate := by
            have created := fresh.createdAt
            have updated := fresh.updatedAt
            cases candidate
            dsimp only at created updated
            subst created updated
            rfl
          exact ⟨⟨condition none opened, valid, safe⟩, fun _ =>
            ⟨⟨fresh.status, fresh.revision, fresh.windowEnd⟩, by rw [back]⟩⟩
        · exact ⟨readable, ours ▸ condition (some result) joined⟩
    · rw [stored] at present; cases present


/-! A confirmation that cannot be repeated: another key has opened the candidate's incident
before, and the incident has moved on since. -/

namespace Sample

def driver : Driver := .ascii

def rule : RcaRule where
  ruleId := "lte.access"
  version := "1.0.0"
  technology := .lte
  isCurrent := true
  descriptionZh := "access"
  detection := { kpiName := "access", comparator := .lessThan, threshold := 1, maxGapMinutes := 15 }
  analysis := {
    evidenceTypes := [.metric]
    when' := { predicates := [⟨"f", .equal, .bool true⟩] }
    hypothesisZh := "h"
    rootCauseZh := "c" }
  severity := { default := .low }

def observation : KpiObservation where
  observationId := .ofText "o1" (by decide)
  kpiName := .ofText "access" (by decide)
  observedValue := 0
  observedAt := 0
  resources := [{ resourceId := .ofText "r1" (by decide), resourceType := .cell }]

def ports : Ports where
  rules := .ok [rule]
  queryKpis _ _ _ := .ok [observation]
  collectEvidence _ := .ok []
  mean values := values.sum / values.length

def incidentId : String :=
  "incident-d75fad796a1cad70dbf21cf80c9057b5df9b2317563d38d0efee9a2eea123ae4"

def violation : KpiViolation where
  violationId := some (.ofText
    "violation-64dab6cb423d899d782c92a010adbd5dc02821df28025ba91dde1e2a7de4336f"
    (by decide +kernel))
  kpiName := .ofText "access" (by decide)
  observedValue := 0
  thresholdValue := 1
  comparator := .lessThan
  windowStart := some 0
  windowEnd := some 0
  ruleId := some (.ofText "lte.access" (by decide))
  ruleVersion := some (.ofText "1.0.0" (by decide))
  resourceIds := [.ofText "r1" (by decide)]
  dimensions := [("aggregation", "arithmetic_mean_of_violating_samples"),
    ("max_gap_minutes", "15"), ("quality_flags", ""), ("sample_count", "1")]

/-- The incident that the first key opened at 1. -/
def opened : Incident where
  incidentId := .ofText incidentId (by decide +kernel)
  correlationKey := some (.ofText
    "correlation-9f29db7b6843a426bfd198c775df23aef8bf5d6609ce5189e90ea0baf3d211d0"
    (by decide +kernel))
  sourceEventIds := [observation.observationId]
  technology := .lte
  title := "access KPI 异常"
  description := "access"
  affectedResources := observation.resources
  detectedAt := 0
  windowStart := some 0
  windowEnd := some 0
  violatedKpis := [violation]
  ruleVersions := [("lte.access", "1.0.0")]
  traceId := .ofText "t" fits_t
  createdAt := 1
  updatedAt := 1
  modelMetadata := [("detector_algorithm", .str "deterministic-threshold-episodes-v3"),
    ("rule_content_hashes", .obj [("lte.access",
      .str "40b64b2d7f482894c28f3d064ea0f425c566784a058552a0edfe23d3afcea0b7")])]

/-- The incident after its triage at 2. -/
def triaged : Incident := { opened with status := .triaged, revision := 1, updatedAt := 2 }

def event (eventId idempotencyKey : String) (i : Incident) (fromStatus : Option IncidentStatus)
    (eventText : Text.trim isWhiteSpace eventId = eventId ∧ 1 ≤ eventId.length ∧
      eventId.length ≤ 256)
    (keyText : Text.trim isWhiteSpace idempotencyKey = idempotencyKey ∧
      1 ≤ idempotencyKey.length ∧ idempotencyKey.length ≤ 256) : IncidentAuditEvent where
  eventId := .ofText eventId eventText
  incidentId := i.incidentId
  fromStatus := fromStatus
  toStatus := i.status
  revision := i.revision
  occurredAt := i.updatedAt
  actor := .ofText "a" (by decide)
  reason := .ofText "r" (by decide)
  idempotencyKey := .ofText idempotencyKey keyText
  traceId := i.traceId

def openedEvent : IncidentAuditEvent :=
  event "audit-3fcbdc63e85799892cc21bde8a3295d0" "k1" opened none
    (by decide +kernel) (by decide)

def triagedEvent : IncidentAuditEvent :=
  event "audit-7c7c257fa5d94a2b17beeb5cff6feec0" "k2" triaged (some .detected)
    (by decide +kernel) (by decide)

def auditRow (e : IncidentAuditEvent) : AuditRow := ⟨incidentId, e.revision, e.occurredAt, e⟩

/-- What the confirmation under the key `k1` and the transition under `k2` leave in an empty
database. -/
def database : Database where
  incidents := AList.insert incidentId ⟨1, triaged⟩ ∅
  sourceEvents := AList.insert (incidentId, "o1") ⟨1, ⟨"k1", "a", "r", "t"⟩⟩ ∅
  audit := AList.insert triagedEvent.eventId.text (auditRow triagedEvent)
    (AList.insert openedEvent.eventId.text (auditRow openedEvent) ∅)
  idempotency := AList.insert ⟨"transition", incidentId, "k2"⟩
    ⟨⟨"aca81a8e3fd022d8e521673c22e92c10418c845aeab56f7a52bc9029c917c8f3", by decide +kernel,
      by decide +kernel⟩,
      triaged⟩
    (AList.insert ⟨"create_or_correlate", incidentId, "k1"⟩
      ⟨⟨"df4976a98d191cfb26c658101aa79f7ee4c758a3edc3913bf12384f801e730b4", by decide +kernel,
        by decide +kernel⟩,
        opened⟩ ∅)

def request : ConfirmRequest where
  candidateId := incidentId
  traceId := "t"
  idempotencyKey := "k3"
  actor := "a"
  reason := "r"

def metadata : WriteMetadata := ⟨"k3", "a", "r", "t"⟩

def after : Database := (database.step driver 3 (.createOrCorrelate (asDetected opened) metadata)).2

def scope : Scope := ⟨createOrCorrelateOperation, incidentId, metadata.idempotencyKey⟩

/-- What the call and its retry compute. -/
class Computed : Prop where
  normalized : normalizeRequest driver.toHost request = .ok (incidentId, metadata)
  unknown : database.findByIdempotencyKey driver incidentId metadata.idempotencyKey
    createOrCorrelateOperation = .ok none
  scanned : rescan driver.toHost ports incidentId metadata.traceId "w" request.scope =
    .ok (asDetected opened)
  answered : (database.step driver 3 (.createOrCorrelate (asDetected opened) metadata)).1 =
    .ok triaged
  safe : findSensitivePaths driver.toHost "$" triaged.toJson = []
  absent : scope ∉ database.idempotency
  named : requestScope createOrCorrelateOperation incidentId metadata.idempotencyKey = .ok scope

instance computed : Computed where
  normalized := Checks.bind_ok.mpr ⟨incidentId, by decide,
    Checks.bind_ok.mpr ⟨"t", by decide, Checks.bind_ok.mpr ⟨"k3", by decide,
    Checks.bind_ok.mpr ⟨"a", by decide, Checks.bind_ok.mpr ⟨"r", by decide,
    Checks.bind_ok.mpr ⟨(none, []), by decide, rfl⟩⟩⟩⟩⟩⟩
  unknown := by decide +kernel
  scanned := by decide +kernel
  answered := by decide +kernel
  safe := by decide +kernel
  absent := by decide
  named := by decide

theorem candidate_selected : selectIncident driver ports database request "w" =
    .ok (asDetected opened, metadata) :=
  Checks.bind_ok.mpr ⟨(incidentId, metadata), computed.normalized,
    Checks.bind_ok.mpr ⟨none, liftFault_ok.mpr computed.unknown,
      Checks.bind_ok.mpr ⟨_, computed.scanned, rfl⟩⟩⟩

theorem candidate_correlated :
    database.step driver 3 (.createOrCorrelate (asDetected opened) metadata) =
      (.ok triaged, after) := Memory.eq_of_fst computed.answered

theorem first_call : confirm driver ports database request "w" 3 = (.ok triaged, after) :=
  confirm_of_step candidate_selected candidate_correlated (Checks.require_ok.mpr computed.safe)

theorem retry_refused : (confirm driver ports after request "w" 4).1 =
    .error (.value "candidate replay cannot reconstruct the original snapshot") := by
  have performed := Database.step_ok.mp candidate_correlated
  have worked : database.createOrCorrelate driver (asDetected opened) metadata 3 =
    .ok (triaged, after) := performed
  obtain ⟨r, requested, _⟩ := Checks.bind_ok.mp worked
  have requested : createRequest driver.toHost createOrCorrelateOperation (asDetected opened)
    metadata = .ok r := lift_ok.mp requested
  have scope : r.scope = Sample.scope := scope_of_createRequest requested
  have absent : r.scope ∉ database.idempotency := scope ▸ computed.absent
  have recorded := createOrCorrelate_recorded requested (AList.lookup_eq_none.mpr absent) worked
  have stored := recorded.stored
  rw [scope] at stored
  have readable : Readable driver triaged := by
    rcases recorded.origin with ⟨_, same, _⟩ | ⟨_, readable⟩
    · exact absurd (congrArg Incident.status same) (by decide)
    · exact readable
  have changed : ¬ IsOriginal triaged := by decide
  rw [confirm_of_changed_record computed.named computed.normalized stored readable rfl changed]

end Sample

/-- The first call succeeds and its retry fails. -/
theorem confirm_not_idempotent :
    confirm Sample.driver Sample.ports Sample.database Sample.request "w" 3 =
        (.ok Sample.triaged, Sample.after) ∧
      (confirm Sample.driver Sample.ports Sample.after Sample.request "w" 4).1 =
        .error (.value "candidate replay cannot reconstruct the original snapshot") :=
  ⟨Sample.first_call, Sample.retry_refused⟩

/-- The condition for that call. -/
theorem confirm_repeats_iff_sample :
    (∀ steps workflowId' now', IsNewUuid (strip Sample.request.traceId) workflowId' →
      confirm Sample.driver Sample.ports
        (Runs.run (Later.next Sample.driver Sample.ports Sample.request.candidateId
          Sample.triaged.incidentId.text) Sample.after steps)
        Sample.request workflowId' now' =
      (.ok Sample.triaged, Runs.run (Later.next Sample.driver Sample.ports
        Sample.request.candidateId Sample.triaged.incidentId.text) Sample.after steps)) ↔
    Repeatable Sample.driver Sample.ports Sample.database Sample.request "w" 3 :=
  confirm_repeats_iff Sample.first_call

end NetworkAgent.Local
