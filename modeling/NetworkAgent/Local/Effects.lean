import NetworkAgent.Local.Calls
import NetworkAgent.Memory.Effects

/-! What a write leaves behind. Every statement of a commit has one lemma that says what it
writes; a call is then a replay, or one commit under a scope that held no record. -/
namespace NetworkAgent.Local

structure Readable (d : Driver) (i : Incident) : Prop where
  size : d.textBytes i.toJson ≤ maxContractSerializedBytes
  valid : i.Valid d.toHost
  safe : RepositorySafe d.toHost i.toJson

theorem parseIncident_ok {d : Driver} {payload i : Incident} :
    parseIncident d payload = .ok i ↔ i = payload ∧ Readable d payload := by
  simp only [parseIncident, Checks.seq_ok, Checks.require_ok]
  constructor
  · rintro ⟨size, rest⟩
    split at rest
    · cases rest
    · next valid =>
      simp only [Checks.bind_ok, lift_ok, assertSafe_ok, pure, Except.pure, Except.ok.injEq] at rest
      obtain ⟨_, ⟨safe, _⟩, rfl⟩ := rest
      exact ⟨rfl, size, valid, safe⟩
  · rintro ⟨rfl, size, valid, safe⟩
    refine ⟨size, ?_⟩
    have valid : i.modelValidate d.toHost = .ok () := valid
    rw [valid]
    exact Checks.bind_ok.mpr ⟨_, lift_ok.mpr (assertSafe_ok.mpr ⟨safe, rfl⟩), rfl⟩

theorem validateNewIncident_ok {h : Host} {i committed : Incident} {traceId : String}
    (accepted : validateNewIncident h i traceId now = .ok committed) :
    committed = { i with createdAt := now, updatedAt := now } ∧ committed.Valid h ∧
      RepositorySafe h committed.toJson := by
  obtain ⟨_, accepted⟩ := Checks.seq_ok.mp accepted
  obtain ⟨_, accepted⟩ := Checks.seq_ok.mp accepted
  obtain ⟨_, accepted⟩ := Checks.seq_ok.mp accepted
  obtain ⟨valid, accepted⟩ := Checks.seq_ok.mp accepted
  obtain ⟨_, safe, same⟩ := Checks.bind_ok.mp accepted
  cases same
  exact ⟨rfl, Memory.liftValidation_ok.mp valid, (assertSafe_ok.mp safe).1⟩

namespace Database
variable {d : Driver} {db db' : Database}

/-! Statements. -/

theorem insertIncident_ok {i : Incident} (done : db.insertIncident i = .ok db') :
    i.incidentId.text ∉ db.incidents ∧
      db' = { db with incidents := db.incidents.insert i.incidentId.text ⟨i.revision, i⟩ } := by
  obtain ⟨fresh, same⟩ := Checks.seq_ok.mp done
  cases same
  exact ⟨Checks.require_ok.mp fresh, rfl⟩

theorem updateIncident_ok {current successor : Incident}
    (done : db.updateIncident current successor = .ok db') :
    ∃ table, db' = { db with incidents := table } ∧
      (table = db.incidents ∨
        table = db.incidents.insert successor.incidentId.text ⟨successor.revision, successor⟩) := by
  obtain ⟨_, done⟩ := Checks.seq_ok.mp done
  dsimp only at done
  split at done
  · cases done
  · obtain ⟨_, same⟩ := Checks.seq_ok.mp done
    cases same
    refine ⟨_, rfl, ?_⟩
    split
    · split
      · exact .inr rfl
      · exact .inl rfl
    · exact .inl rfl

/-- The second table is the first and rows of one incident for some of the source events, each
without an owner before. -/
def Registered (t : Table (String × String) SourceRow) (incidentId : String) (row : SourceRow)
    (ids : List String) (t' : Table (String × String) SourceRow) : Prop :=
  ∀ k r, t'.lookup k = some r → t.lookup k = some r ∨
    (k.1 = incidentId ∧ k.2 ∈ ids ∧ r = row ∧ ∀ owner, t.lookup (owner, k.2) = none)

theorem owners_eq_nil {s : String} :
    db.owners s = [] ↔ ∀ owner, db.sourceEvents.lookup (owner, s) = none := by
  simp only [owners, List.map_eq_nil_iff, List.filter_eq_nil_iff, decide_eq_true_eq]
  constructor
  · intro unowned owner
    cases stored : db.sourceEvents.lookup (owner, s) with
    | none => rfl
    | some row => exact absurd rfl (unowned ((owner, s), row) (Table.mem_rows.mpr stored))
  · rintro unowned ⟨⟨owner, _⟩, row⟩ member rfl
    exact nomatch (unowned owner).symm.trans (Table.mem_rows.mp member)

theorem lookup_of_insert_none {K V : Type} [DecidableEq K] {t : Table K V} {k k' : K} {v : V}
    (absent : (t.insert k v).lookup k' = none) : t.lookup k' = none := by
  by_cases same : k' = k
  · rw [same, AList.lookup_insert] at absent
    cases absent
  · rwa [AList.lookup_insert_ne same] at absent

theorem foldl_insertSourceRow (incidentId : String) (row : SourceRow) (ids : List String)
    (db : Database) : ∃ table, Registered db.sourceEvents incidentId row ids table ∧
      ids.foldl (insertSourceRow incidentId row) db = { db with sourceEvents := table } := by
  induction ids generalizing db with
  | nil => exact ⟨_, fun _ _ stored => .inl stored, rfl⟩
  | cons s rest ih =>
    rw [List.foldl_cons, insertSourceRow]
    split
    · next unowned =>
      obtain ⟨table, registered, same⟩ := ih { db with
        sourceEvents := db.sourceEvents.insert (incidentId, s) row }
      refine ⟨table, fun k r stored => ?_, same⟩
      rcases registered k r stored with before | ⟨owner, later, new, absent⟩
      · rcases Table.lookup_insert_iff.mp before with ⟨rfl, rfl⟩ | ⟨_, before⟩
        · exact .inr ⟨rfl, List.mem_cons_self, rfl, owners_eq_nil.mp unowned⟩
        · exact .inl before
      · exact .inr ⟨owner, List.mem_cons_of_mem _ later, new,
          fun o => lookup_of_insert_none (absent o)⟩
    · obtain ⟨table, registered, same⟩ := ih db
      refine ⟨table, fun k r stored => ?_, same⟩
      exact (registered k r stored).imp_right fun ⟨owner, later, new⟩ =>
        ⟨owner, List.mem_cons_of_mem _ later, new⟩

theorem mem_sortedTexts {sourceIds : List Identifier} {s : String} :
    s ∈ sortedTexts sourceIds ↔ s ∈ sourceIds.map (·.text) := by
  rw [sortedTexts, List.mem_insertionSort, List.mem_dedup]

theorem insertSourceEvents_ok {incidentId : Identifier} {sourceIds : List Identifier}
    {registeredAt : Instant} {w : WriteMetadata}
    (done : db.insertSourceEvents incidentId sourceIds registeredAt w = .ok db') :
    ∃ table, Registered db.sourceEvents incidentId.text ⟨registeredAt, w⟩
      (sourceIds.map (·.text)) table ∧ db' = { db with sourceEvents := table } := by
  obtain ⟨_, rest⟩ := Checks.seq_ok.mp done
  obtain ⟨_, same⟩ := Checks.seq_ok.mp rest
  obtain ⟨table, registered, folded⟩ := foldl_insertSourceRow incidentId.text ⟨registeredAt, w⟩
    (sortedTexts sourceIds) db
  refine ⟨table, fun k r stored => ?_, (Except.ok.inj same).symm.trans folded⟩
  exact (registered k r stored).imp_right fun ⟨owner, member, new⟩ =>
    ⟨owner, mem_sortedTexts.mp member, new⟩

def auditRow (e : IncidentAuditEvent) : AuditRow :=
  ⟨e.incidentId.text, e.revision, e.occurredAt, e⟩

theorem insertAudit_ok {e : IncidentAuditEvent} (done : db.insertAudit e = .ok db') :
    e.revision ≤ maxBigint ∧
      db' = { db with audit := db.audit.insert e.eventId.text (auditRow e) } := by
  obtain ⟨fresh, same⟩ := Checks.seq_ok.mp done
  cases same
  exact ⟨(Checks.require_ok.mp fresh).1, rfl⟩

theorem insertIdempotency_ok {scope : Scope} {fp : Sha256.Digest} {i : Incident}
    (done : db.insertIdempotency scope fp i = .ok db') :
    scope ∉ db.idempotency ∧
      db' = { db with idempotency := db.idempotency.insert scope ⟨fp, i⟩ } := by
  obtain ⟨fresh, same⟩ := Checks.seq_ok.mp done
  cases same
  exact ⟨Checks.require_ok.mp fresh, rfl⟩

/-! Commits. -/

/-- The records after a commit are those before it and the one of its request. -/
structure Records (db : Database) (r : Memory.Request) (i : Incident) (db' : Database) : Prop where
  fresh : r.scope ∉ db.idempotency
  stored : db'.idempotency = db.idempotency.insert r.scope ⟨r.fingerprint, i⟩

theorem Records.lookup {r : Memory.Request} {i : Incident} (records : db.Records r i db') :
    db'.idempotency.lookup r.scope = some ⟨r.fingerprint, i⟩ := by
  rw [records.stored, AList.lookup_insert]

/-- The rows a commit adds: the incident, its source events, its record and, when the incident
changes, its event. -/
structure Committed (h : Host) (db : Database) (r : Memory.Request) (i : Incident)
    (sources : List Identifier) (fromStatus : Option (Option IncidentStatus)) (now : Instant)
    (db' : Database) : Prop where
  records : db.Records r i db'
  incidents : ∀ k row, db'.incidents.lookup k = some row →
    db.incidents.lookup k = some row ∨ row.payload = i
  sourceEvents : Registered db.sourceEvents i.incidentId.text ⟨now, r.metadata⟩
    (sources.map (·.text)) db'.sourceEvents
  audit : ∀ k row, db'.audit.lookup k = some row → db.audit.lookup k = some row ∨
    ∃ f ∈ fromStatus, ∃ e, auditEvent h i f r.metadata r.fingerprint now = .ok e ∧
      e.revision ≤ maxBigint ∧ row.payload = e
  attributed : fromStatus.isSome → r.metadata.attribution.isSome

theorem attribution_of_auditEvent {h : Host} {i : Incident} {f : Option IncidentStatus}
    {w : WriteMetadata} {fp : Sha256.Digest} {now : Instant} {e : IncidentAuditEvent}
    (made : auditEvent h i f w fp now = .ok e) : w.attribution.isSome := by
  unfold auditEvent at made
  dsimp only at made
  split at made
  · next parsed => rw [parsed]; rfl
  · cases made

theorem commitCreate_committed {h : Host} {r : Memory.Request} {i : Incident} {now : Instant}
    (done : db.commitCreate h r i now = .ok db') :
    Committed h db r i i.sourceEventIds (some none) now db' := by
  obtain ⟨event, made, done⟩ := Checks.bind_ok.mp done
  obtain ⟨db₁, first, done⟩ := Checks.bind_ok.mp done
  obtain ⟨db₂, second, done⟩ := Checks.bind_ok.mp done
  obtain ⟨db₃, third, last⟩ := Checks.bind_ok.mp done
  have made := lift_ok.mp made
  obtain ⟨_, rfl⟩ := insertIncident_ok first
  obtain ⟨table, registered, rfl⟩ := insertSourceEvents_ok second
  obtain ⟨bounded, rfl⟩ := insertAudit_ok third
  obtain ⟨fresh, rfl⟩ := insertIdempotency_ok last
  refine ⟨⟨fresh, rfl⟩, fun k row stored => ?_, registered, fun k row stored => ?_,
    fun _ => attribution_of_auditEvent made⟩
  · rcases Table.lookup_insert_iff.mp stored with ⟨_, rfl⟩ | ⟨_, before⟩
    · exact .inr rfl
    · exact .inl before
  · rcases Table.lookup_insert_iff.mp stored with ⟨_, rfl⟩ | ⟨_, before⟩
    · exact .inr ⟨none, rfl, event, made, bounded, rfl⟩
    · exact .inl before

theorem commitTransition_committed {h : Host} {r : Memory.Request} {current successor : Incident}
    {now : Instant} (done : db.commitTransition h r current successor now = .ok db') :
    Committed h db r successor successor.sourceEventIds (some (some current.status)) now db' := by
  obtain ⟨event, made, done⟩ := Checks.bind_ok.mp done
  obtain ⟨db₁, first, done⟩ := Checks.bind_ok.mp done
  obtain ⟨db₂, second, done⟩ := Checks.bind_ok.mp done
  obtain ⟨db₃, third, last⟩ := Checks.bind_ok.mp done
  have made := lift_ok.mp made
  obtain ⟨table, rfl, updated⟩ := updateIncident_ok first
  obtain ⟨_, registered, rfl⟩ := insertSourceEvents_ok second
  obtain ⟨bounded, rfl⟩ := insertAudit_ok third
  obtain ⟨fresh, rfl⟩ := insertIdempotency_ok last
  refine ⟨⟨fresh, rfl⟩, fun k row stored => ?_, registered, fun k row stored => ?_,
    fun _ => attribution_of_auditEvent made⟩
  · have stored : table.lookup k = some row := stored
    rcases updated with rfl | rfl
    · exact .inl stored
    · rcases Table.lookup_insert_iff.mp stored with ⟨_, rfl⟩ | ⟨_, before⟩
      · exact .inr rfl
      · exact .inl before
  · rcases Table.lookup_insert_iff.mp stored with ⟨_, rfl⟩ | ⟨_, before⟩
    · exact .inr ⟨_, rfl, event, made, bounded, rfl⟩
    · exact .inl before

theorem commitCorrelation_committed {h : Host} {r : Memory.Request} {existing : Incident}
    {sourceIds : List Identifier} {now : Instant}
    (done : db.commitCorrelation r existing sourceIds now = .ok db') :
    Committed h db r existing sourceIds none now db' := by
  obtain ⟨db₁, first, last⟩ := Checks.bind_ok.mp done
  obtain ⟨_, registered, rfl⟩ := insertSourceEvents_ok first
  obtain ⟨fresh, rfl⟩ := insertIdempotency_ok last
  exact ⟨⟨fresh, rfl⟩, fun _ _ stored => .inl stored, registered, fun _ _ stored => .inl stored,
    nofun⟩

/-! Calls. -/

theorem replay_ok {scope : Scope} {fp : Sha256.Digest} {found : Option Incident} :
    db.replay d scope fp = .ok found ↔
      (db.idempotency.lookup scope = none ∧ found = none) ∨
        ∃ row, db.idempotency.lookup scope = some row ∧ row.fingerprint = fp ∧
          Readable d row.resultPayload ∧ found = some row.resultPayload := by
  unfold replay
  cases stored : db.idempotency.lookup scope with
  | none => simp [eq_comm]
  | some row =>
    constructor
    · intro found
      obtain ⟨same, parsed⟩ := Checks.seq_ok.mp found
      obtain ⟨i, parsed, answer⟩ := Checks.bind_ok.mp parsed
      obtain ⟨rfl, readable⟩ := parseIncident_ok.mp parsed
      exact .inr ⟨row, rfl, Checks.require_ok.mp same, readable, (Except.ok.inj answer).symm⟩
    · rintro (⟨absent, _⟩ | ⟨_, ⟨⟩, same, readable, rfl⟩)
      · cases absent
      · exact Checks.seq_ok.mpr ⟨Checks.require_ok.mpr same,
          Checks.bind_ok.mpr ⟨_, parseIncident_ok.mpr ⟨rfl, readable⟩, rfl⟩⟩

theorem unlessReplayed_ok {r : Memory.Request} {work : Except Fault (Incident × Database)}
    {answer : Incident × Database} :
    db.unlessReplayed d r work = .ok answer ↔
      (db.idempotency.lookup r.scope = none ∧ work = .ok answer) ∨
        ∃ row, db.idempotency.lookup r.scope = some row ∧ row.fingerprint = r.fingerprint ∧
          Readable d row.resultPayload ∧ answer = (row.resultPayload, db) := by
  simp only [unlessReplayed, Checks.bind_ok, replay_ok]
  constructor
  · rintro ⟨_, ⟨absent, rfl⟩ | ⟨row, stored, same, readable, rfl⟩, answered⟩
    · exact .inl ⟨absent, answered⟩
    · exact .inr ⟨row, stored, same, readable, (Except.ok.inj answered).symm⟩
  · rintro (⟨absent, answered⟩ | ⟨row, stored, same, readable, rfl⟩)
    · exact ⟨none, .inl ⟨absent, rfl⟩, answered⟩
    · exact ⟨some row.resultPayload, .inr ⟨row, stored, same, readable, rfl⟩, rfl⟩

def work (d : Driver) (db : Database) (now : Instant) :
    Write → Memory.Request → Except Fault (Incident × Database)
  | .create i w => db.createNew d i w now
  | .createOrCorrelate i w => db.createOrCorrelateNew d i w now
  | .save i expected w => db.saveNew d i expected w now
  | .transition incidentId target expected w u _ =>
    db.transitionNew d incidentId target expected w u now

theorem perform_eq (now : Instant) (call : Write) :
    db.perform d now call =
      lift (call.request d.toHost) >>= fun r => db.unlessReplayed d r (db.work d now call r) := by
  cases call <;> rfl

/-- What the work of a new request came to. -/
inductive Worked (d : Driver) (db : Database) (now : Instant) (r : Memory.Request) :
    Write → Incident → Database → Prop
  | created {i committed : Incident} {w : WriteMetadata} {db' : Database}
      (accepted : validateNewIncident d.toHost i w.traceId now = .ok committed)
      (commit : Committed d.toHost db r committed committed.sourceEventIds (some none) now db') :
      Worked d db now r (.create i w) committed db'
  | opened {i committed : Incident} {w : WriteMetadata} {db' : Database}
      (accepted : validateNewIncident d.toHost i w.traceId now = .ok committed)
      (looked : db.findActiveLocked d (committed.correlationKey.map (·.text))
        (committed.sourceEventIds.map (·.text)) none committed.incidentId.text = .ok none)
      (commit : Committed d.toHost db r committed committed.sourceEventIds (some none) now db') :
      Worked d db now r (.createOrCorrelate i w) committed db'
  | joined {i candidate existing : Incident} {w : WriteMetadata} {db' : Database}
      (accepted : validateNewIncident d.toHost i w.traceId now = .ok candidate)
      (looked : db.findActiveLocked d (candidate.correlationKey.map (·.text))
        (candidate.sourceEventIds.map (·.text)) none candidate.incidentId.text = .ok (some existing))
      (commit : Committed d.toHost db r existing candidate.sourceEventIds none now db') :
      Worked d db now r (.createOrCorrelate i w) existing db'
  | saved {i current successor : Incident} {expected : Int} {w : WriteMetadata} {db' : Database}
      (stored : db.requireCurrent d i.incidentId.text = .ok current)
      (moved : transitionIncident d.toHost current i.status expected (.given now) (.given now)
        (Memory.differences current i) = .ok successor)
      (safe : RepositorySafe d.toHost successor.toJson)
      (commit : Committed d.toHost db r successor successor.sourceEventIds
        (some (some current.status)) now db') :
      Worked d db now r (.save i expected w) successor db'
  | transitioned {incidentId : String} {target : IncidentStatus} {current successor : Incident}
      {expected : Int} {w : WriteMetadata} {u : Updates} {depth : Nat} {db' : Database}
      (stored : db.requireCurrent d incidentId = .ok current)
      (moved : transitionIncident d.toHost current target expected (.given now) (.given now) u =
        .ok successor)
      (safe : RepositorySafe d.toHost successor.toJson)
      (commit : Committed d.toHost db r successor successor.sourceEventIds
        (some (some current.status)) now db') :
      Worked d db now r (.transition incidentId target expected w u depth) successor db'

theorem Worked.records {now : Instant} {r : Memory.Request} {call : Write} {i : Incident}
    (worked : Worked d db now r call i db') : db.Records r i db' := by
  cases worked with
  | created _ commit => exact commit.records
  | opened _ _ commit => exact commit.records
  | joined _ _ commit => exact commit.records
  | saved _ _ _ commit => exact commit.records
  | transitioned _ _ _ commit => exact commit.records

theorem liftTransition_ok {α : Type} {x : Except TransitionError α} {a : α} :
    Memory.liftTransition x = .ok a ↔ x = .ok a := by
  cases x <;> simp [Memory.liftTransition]

theorem createNew_worked {i result : Incident} {w : WriteMetadata} {now : Instant}
    {r : Memory.Request} (done : db.createNew d i w now r = .ok (result, db')) :
    Worked d db now r (.create i w) result db' := by
  obtain ⟨found, _, done⟩ := Checks.bind_ok.mp done
  cases found with
  | some _ => cases done
  | none =>
    obtain ⟨candidate, accepted, done⟩ := Checks.bind_ok.mp done
    obtain ⟨active, _, done⟩ := Checks.bind_ok.mp done
    cases active with
    | some _ => cases done
    | none =>
      obtain ⟨_, commit, done⟩ := Checks.bind_ok.mp done
      cases done
      exact .created (lift_ok.mp accepted) (commitCreate_committed commit)

theorem createOrCorrelateNew_worked {i result : Incident} {w : WriteMetadata} {now : Instant}
    {r : Memory.Request} (done : db.createOrCorrelateNew d i w now r = .ok (result, db')) :
    Worked d db now r (.createOrCorrelate i w) result db' := by
  obtain ⟨candidate, accepted, done⟩ := Checks.bind_ok.mp done
  obtain ⟨active, looked, done⟩ := Checks.bind_ok.mp done
  cases active with
  | some existing =>
    obtain ⟨_, commit, done⟩ := Checks.bind_ok.mp done
    cases done
    exact .joined (lift_ok.mp accepted) looked (commitCorrelation_committed commit)
  | none =>
    obtain ⟨found, _, done⟩ := Checks.bind_ok.mp done
    cases found with
    | some _ => cases done
    | none =>
      obtain ⟨_, commit, done⟩ := Checks.bind_ok.mp done
      cases done
      exact .opened (lift_ok.mp accepted) looked (commitCreate_committed commit)

theorem saveNew_worked {i result : Incident} {expected : Int} {w : WriteMetadata} {now : Instant}
    {r : Memory.Request} (done : db.saveNew d i expected w now r = .ok (result, db')) :
    Worked d db now r (.save i expected w) result db' := by
  obtain ⟨current, stored, done⟩ := Checks.bind_ok.mp done
  obtain ⟨_, done⟩ := Checks.seq_ok.mp done
  obtain ⟨_, done⟩ := Checks.seq_ok.mp done
  obtain ⟨_, done⟩ := Checks.seq_ok.mp done
  obtain ⟨_, _, done⟩ := Checks.bind_ok.mp done
  obtain ⟨successor, moved, done⟩ := Checks.bind_ok.mp done
  obtain ⟨_, done⟩ := Checks.seq_ok.mp done
  obtain ⟨_, safe, done⟩ := Checks.bind_ok.mp done
  obtain ⟨_, done⟩ := Checks.seq_ok.mp done
  obtain ⟨_, commit, done⟩ := Checks.bind_ok.mp done
  cases done
  exact .saved stored (liftTransition_ok.mp (lift_ok.mp moved)) (assertSafe_ok.mp (lift_ok.mp safe)).1
    (commitTransition_committed commit)

theorem transitionNew_worked {incidentId : String} {target : IncidentStatus} {expected : Int}
    {w : WriteMetadata} {u : Updates} {depth : Nat} {now : Instant} {r : Memory.Request}
    {result : Incident}
    (done : db.transitionNew d incidentId target expected w u now r = .ok (result, db')) :
    Worked d db now r (.transition incidentId target expected w u depth) result db' := by
  obtain ⟨current, stored, done⟩ := Checks.bind_ok.mp done
  obtain ⟨_, done⟩ := Checks.seq_ok.mp done
  obtain ⟨_, done⟩ := Checks.seq_ok.mp done
  obtain ⟨successor, moved, done⟩ := Checks.bind_ok.mp done
  obtain ⟨_, safe, done⟩ := Checks.bind_ok.mp done
  obtain ⟨_, done⟩ := Checks.seq_ok.mp done
  obtain ⟨_, commit, done⟩ := Checks.bind_ok.mp done
  cases done
  exact .transitioned stored (liftTransition_ok.mp (lift_ok.mp moved))
    (assertSafe_ok.mp (lift_ok.mp safe)).1 (commitTransition_committed commit)

theorem work_ok {now : Instant} {call : Write} {r : Memory.Request} {i : Incident}
    (done : db.work d now call r = .ok (i, db')) : Worked d db now r call i db' := by
  cases call with
  | create i w => exact createNew_worked done
  | createOrCorrelate i w => exact createOrCorrelateNew_worked done
  | save i expected w => exact saveNew_worked done
  | transition incidentId target expected w u depth => exact transitionNew_worked done

theorem perform_ok {now : Instant} {call : Write} {i : Incident}
    (done : db.perform d now call = .ok (i, db')) :
    ∃ r, call.request d.toHost = .ok r ∧
      ((db.idempotency.lookup r.scope = none ∧ Worked d db now r call i db') ∨
        ∃ row, db.idempotency.lookup r.scope = some row ∧ row.fingerprint = r.fingerprint ∧
          Readable d row.resultPayload ∧ i = row.resultPayload ∧ db' = db) := by
  rw [perform_eq] at done
  obtain ⟨r, requested, done⟩ := Checks.bind_ok.mp done
  refine ⟨r, lift_ok.mp requested, ?_⟩
  rcases unlessReplayed_ok.mp done with ⟨absent, worked⟩ | ⟨row, stored, same, readable, answer⟩
  · exact .inl ⟨absent, work_ok worked⟩
  · cases answer
    exact .inr ⟨row, stored, same, readable, rfl, rfl⟩

def KeepsRecords (db db' : Database) : Prop :=
  ∀ scope row, db.idempotency.lookup scope = some row → db'.idempotency.lookup scope = some row

theorem KeepsRecords.refl (db : Database) : db.KeepsRecords db := fun _ _ stored => stored

theorem KeepsRecords.trans {a b c : Database} (first : a.KeepsRecords b)
    (second : b.KeepsRecords c) : a.KeepsRecords c :=
  fun scope row stored => second scope row (first scope row stored)

theorem Records.keeps {r : Memory.Request} {i : Incident} (records : db.Records r i db') :
    db.KeepsRecords db' := by
  intro scope row stored
  have other : scope ≠ r.scope := by
    rintro rfl
    exact records.fresh (AList.lookup_isSome.mp (Option.isSome_of_mem stored))
  rw [records.stored, AList.lookup_insert_ne other]
  exact stored

theorem step_ok {now : Instant} {call : Write} {i : Incident} :
    db.step d now call = (.ok i, db') ↔ db.perform d now call = .ok (i, db') := by
  unfold step transaction
  cases worked : db.perform d now call with
  | error e => simp
  | ok answer => simp [Prod.ext_iff]

theorem step_leaves {P : Database → Prop} (now : Instant) (call : Write) (unchanged : P db)
    (done : ∀ i db', db.perform d now call = .ok (i, db') → P db') :
    P (db.step d now call).2 := by
  unfold step transaction
  cases worked : db.perform d now call with
  | error e => exact unchanged
  | ok answer => exact done answer.1 answer.2 worked

theorem step_keepsRecords (now : Instant) (call : Write) :
    db.KeepsRecords (db.step d now call).2 := by
  refine step_leaves now call (.refl db) fun i db' done => ?_
  obtain ⟨r, _, ⟨_, worked⟩ | ⟨_, _, _, _, _, rfl⟩⟩ := perform_ok done
  · exact worked.records.keeps
  · exact .refl _

/-! Matches. -/

theorem mem_foldl_addMatch {found more : List Incident} {i : Incident}
    (member : i ∈ more.foldl addMatch found) : i ∈ found ∨ i ∈ more := by
  induction more generalizing found with
  | nil => exact .inl member
  | cons j rest ih =>
    rcases ih member with early | late
    · unfold addMatch at early
      split at early
      · exact .inl early
      · rcases List.mem_append.mp early with before | last
        · exact .inl before
        · exact .inr (List.mem_singleton.mp last ▸ List.mem_cons_self)
    · exact .inr (List.mem_cons_of_mem _ late)

theorem mem_payloads {r : String × Incident} :
    r ∈ db.payloads ↔ ∃ row, db.incidents.lookup r.1 = some row ∧ row.payload = r.2 := by
  simp only [payloads, List.mem_insertionSort, List.mem_map]
  constructor
  · rintro ⟨⟨k, row⟩, member, rfl⟩
    exact ⟨row, Table.mem_rows.mp member, rfl⟩
  · rintro ⟨row, stored, same⟩
    exact ⟨(r.1, row), Table.mem_rows.mpr stored, by rw [same]⟩

theorem findActiveLocked_some {correlationKey : Option String} {sourceIds : List String}
    {excluded : Option String} {requestedId : String} {i : Incident}
    (looked : db.findActiveLocked d correlationKey sourceIds excluded requestedId = .ok (some i)) :
    Readable d i ∧ isCandidate excluded i = true ∧
      ∃ k row, db.incidents.lookup k = some row ∧ row.payload = i := by
  obtain ⟨joined, first, looked⟩ := Checks.bind_ok.mp looked
  obtain ⟨all, second, looked⟩ := Checks.bind_ok.mp looked
  obtain ⟨_, answer⟩ := Checks.seq_ok.mp looked
  have parsed : ∀ r ∈ db.payloads, parseIncident d r.2 = .ok i → Readable d i ∧
      ∃ k row, db.incidents.lookup k = some row ∧ row.payload = i := by
    intro r member done
    obtain ⟨rfl, readable⟩ := parseIncident_ok.mp done
    obtain ⟨row, stored, same⟩ := mem_payloads.mp member
    exact ⟨readable, r.1, row, stored, same⟩
  have member := List.mem_of_mem_head? (Except.ok.inj answer).symm.symm
  rcases mem_foldl_addMatch member with none | member
  · cases none
  rcases List.mem_append.mp member with associated | scanned
  · obtain ⟨here, chosen⟩ := List.mem_filter.mp associated
    obtain ⟨r, from', done⟩ := Checks.mapM_source first here
    obtain ⟨readable, stored⟩ := parsed r (List.mem_of_mem_filter from') done
    exact ⟨readable, chosen, stored⟩
  · obtain ⟨here, chosen⟩ := List.mem_filter.mp scanned
    obtain ⟨r, from', done⟩ := Checks.mapM_source second here
    obtain ⟨readable, stored⟩ := parsed r from' done
    exact ⟨readable, (Bool.and_eq_true_iff.mp chosen).1, stored⟩

end Database

end NetworkAgent.Local
