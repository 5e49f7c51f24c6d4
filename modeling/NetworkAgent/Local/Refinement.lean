import NetworkAgent.Local.Agreement

/-! The DuckDB repository refines the in-memory one: every run of the same calls at the same
clock readings answers alike. -/
namespace NetworkAgent.Local
open Checks (Lockstep)

/-! Writes. -/

/-- One write on both sides: it fails alike and leaves both as they were, or answers the same
incident and leaves the same contents. -/
inductive Simulates (d : Driver) (m : Memory) :
    Except Fault (Incident × Database) → Except RepositoryError Incident × Memory → Prop
  | failed {e : Fault} {e' : RepositoryError} (same : SameClass e e') :
      Simulates d m (.error e) (.error e', m)
  | answered {i : Incident} {m' : Memory} {db' : Database} (contents : SameContents d m' db') :
      Simulates d m (.ok (i, db')) (.ok i, m')

def proceed {α : Type} (m : Memory) (work : Except RepositoryError α)
    (commit : α → Except RepositoryError Incident × Memory) :
    Except RepositoryError Incident × Memory :=
  match work with
  | .error e => (.error e, m)
  | .ok a => commit a

section
variable {d : Driver} {m : Memory} {db : Database}

theorem Simulates.bind {α β γ : Type} {R : α → β → Prop} {x : Except Fault α}
    {y : Except RepositoryError β} {f : α → Except Fault (Incident × Database)}
    {g : β → Except RepositoryError γ} {commit : γ → Except RepositoryError Incident × Memory}
    (first : Lockstep SameClass R x y)
    (later : ∀ a b, R a b → x = .ok a → y = .ok b →
      Simulates d m (f a) (proceed m (g b) commit)) :
    Simulates d m (x >>= f) (proceed m (y >>= g) commit) := by
  cases first with
  | ok related => exact later _ _ related rfl rfl
  | error related => exact .failed related

theorem simulates_request {α : Type} {x y : Except RepositoryError Memory.Request}
    (mirrors : Mirrors d m db) (requested : SameErrors x y)
    {work : Memory.Request → Except RepositoryError α}
    {commit : Memory.Request → α → Except RepositoryError Incident × Memory}
    {durable : Memory.Request → Except Fault (Incident × Database)}
    (new : ∀ r, x = .ok r → db.idempotency.lookup r.scope = none →
      Simulates d m (durable r) (proceed m (work r) (commit r))) :
    Simulates d m (lift x >>= fun r => db.unlessReplayed d r (durable r))
      (m.settle (y >>= fun r => m.unlessReplayed r (work r)) commit) := by
  cases requested with
  | error same => exact .failed same
  | @ok r _ same =>
    cases same
    have replayed := mirrors.replay r.scope r.fingerprint
    simp only [lift, Database.unlessReplayed, Memory.unlessReplayed, Bind.bind, Except.bind]
    cases left : db.replay d r.scope r.fingerprint with
    | error e =>
      rw [left] at replayed
      cases right : m.replay r.scope r.fingerprint with
      | ok _ => rw [right] at replayed; cases replayed
      | error e' =>
        rw [right] at replayed
        cases replayed with
        | error same => exact .failed same
    | ok found =>
      rw [left] at replayed
      cases right : m.replay r.scope r.fingerprint with
      | error _ => rw [right] at replayed; cases replayed
      | ok found' =>
        rw [right] at replayed
        cases replayed with
        | ok same =>
          cases same
          cases found with
          | some result => exact .answered mirrors.toSameContents
          | none =>
            have absent : db.idempotency.lookup r.scope = none := by
              rcases Database.replay_ok.mp left with ⟨absent, _⟩ | ⟨_, _, _, _, found⟩
              · exact absent
              · cases found
            have simulated := new r rfl absent
            simp only [proceed] at simulated
            cases decided : work r with
            | error e => rw [decided] at simulated; exact simulated
            | ok a => rw [decided] at simulated; exact simulated

/-! The audit rows of one incident. -/

theorem orderedInsert_last {α : Type} {r : α → α → Bool} {a : α} {l : List α}
    (last : ∀ b ∈ l, r a b = false) : l.orderedInsert (fun a b => r a b) a = l ++ [a] := by
  induction l with
  | nil => rfl
  | cons b rest ih =>
    have after : ¬ r a b = true := by rw [last b List.mem_cons_self]; nofun
    rw [List.orderedInsert_cons, if_neg after, ih fun c member =>
      last c (List.mem_cons_of_mem _ member)]
    rfl

theorem auditOf_insert {e : IncidentAuditEvent} (fresh : e.eventId.text ∉ db.audit)
    (last : ∀ r ∈ db.auditOf e.incidentId.text, r.2.revision < e.revision) {db' : Database}
    (audit : db'.audit = db.audit.insert e.eventId.text (Database.auditRow e)) (id : String) :
    db'.auditOf id = if id = e.incidentId.text
      then db.auditOf id ++ [(e.eventId.text, Database.auditRow e)] else db.auditOf id := by
  have rows : db'.audit.rows = (e.eventId.text, Database.auditRow e) :: db.audit.rows := by
    rw [audit, Table.rows_insert fresh]
  rw [Database.auditOf, rows, List.filter_cons]
  by_cases own : id = e.incidentId.text
  · have mine : decide ((Database.auditRow e).incidentId = id) = true := decide_eq_true own.symm
    rw [if_pos own, if_pos mine, List.insertionSort_cons, own]
    refine orderedInsert_last fun b member => ?_
    have later : b.2.revision < e.revision := last b member
    have more : ¬ e.revision < b.2.revision := by omega
    have other : ¬ e.revision = b.2.revision := by omega
    simp [Database.auditLe, Database.auditRow, more, other]
  · have theirs : ¬ decide ((Database.auditRow e).incidentId = id) = true :=
      fun same => own (of_decide_eq_true same).symm
    rw [if_neg own, if_neg theirs]
    rfl

theorem Mirrors.mem_auditOf (mirrors : Mirrors d m db) {id : String} {r : String × AuditRow}
    (member : r ∈ db.auditOf id) : ∃ i, m.incidents.lookup id = some i ∧
      r.2.revision ≤ i.revision := by
  have row := Table.mem_rows.mp (List.mem_of_mem_filter ((List.mem_insertionSort _).mp member))
  have inside : r.2.payload ∈ (db.auditOf id).map fun r => r.2.payload := List.mem_map_of_mem member
  rw [mirrors.history id] at inside
  cases known : m.history.lookup id with
  | none => rw [known] at inside; cases inside
  | some events =>
    rw [known, Option.getD_some] at inside
    have stored := mirrors.historyKnown id (Memory.mem_iff_lookup.mpr ⟨events, known⟩)
    obtain ⟨i, here⟩ := Memory.mem_iff_lookup.mp stored
    obtain ⟨trail, recorded, audit⟩ := mirrors.audited id i here
    cases known.symm.trans recorded
    have revision := List.mem_map_of_mem (f := (·.revision)) inside
    rw [audit.revisions, List.mem_range] at revision
    refine ⟨i, here, ?_⟩
    rw [mirrors.auditRows r.1 r.2 row]
    exact Nat.lt_succ_iff.mp revision

theorem insertAudit_of_fresh {e : IncidentAuditEvent} (bounded : e.revision ≤ Database.maxBigint)
    (fresh : e.eventId.text ∉ db.audit)
    (last : ∀ r ∈ db.auditOf e.incidentId.text, r.2.revision < e.revision) :
    db.insertAudit e = .ok { db with
      audit := db.audit.insert e.eventId.text (Database.auditRow e) } := by
  refine Checks.seq_ok.mpr ⟨Checks.require_ok.mpr ⟨bounded, fresh, ?_⟩, rfl⟩
  intro row member same
  obtain ⟨k, stored⟩ := Table.mem_values.mp member
  have here : (k, row) ∈ db.auditOf e.incidentId.text := by
    refine (List.mem_insertionSort _).mpr (List.mem_filter.mpr ⟨Table.mem_rows.mpr stored, ?_⟩)
    exact decide_eq_true (congrArg Prod.fst same)
  exact absurd (congrArg Prod.snd same) (Nat.ne_of_lt (last _ here))

theorem SameContents.written (same : SameContents d m db) {i : Incident} {e : IncidentAuditEvent}
    {r : Memory.Request} (own : e.incidentId = i.incidentId) (fresh : e.eventId.text ∉ db.audit)
    (last : ∀ row ∈ db.auditOf e.incidentId.text, row.2.revision < e.revision)
    {t : Table (String × String) SourceEventAssociation} {t' : Table (String × String) SourceRow}
    (mirror : SourcesMirror d t t') :
    SameContents d
      ({ m with sourceEvents := t }.writeIncident r i
        ((m.history.lookup i.incidentId.text).getD [] ++ [e]))
      { incidents := db.incidents.insert i.incidentId.text ⟨i.revision, i⟩
        sourceEvents := t'
        audit := db.audit.insert e.eventId.text (Database.auditRow e)
        idempotency := db.idempotency.insert r.scope ⟨r.fingerprint, i⟩ } where
  incidents := by
    intro k
    dsimp only [Memory.writeIncident]
    by_cases here : k = i.incidentId.text
    · rw [here, AList.lookup_insert, AList.lookup_insert]
      rfl
    · rw [AList.lookup_insert_ne here, AList.lookup_insert_ne here]
      exact same.incidents k
  revisions := by
    intro k row stored
    rcases Table.lookup_insert_iff.mp stored with ⟨_, rfl⟩ | ⟨_, before⟩
    · rfl
    · exact same.revisions k row before
  sourceEvents := mirror
  auditRows := by
    intro k row stored
    rcases Table.lookup_insert_iff.mp stored with ⟨_, rfl⟩ | ⟨_, before⟩
    · rfl
    · exact same.auditRows k row before
  history := by
    intro id
    rw [auditOf_insert fresh last rfl]
    dsimp only [Memory.writeIncident]
    by_cases here : id = e.incidentId.text
    · rw [if_pos here, List.map_append, same.history, here, own, AList.lookup_insert]
      rfl
    · rw [if_neg here, same.history, AList.lookup_insert_ne (own ▸ here)]
  historyKnown := by
    intro id member
    dsimp only [Memory.writeIncident] at member ⊢
    rcases (AList.mem_insert _).mp member with rfl | before
    · exact (AList.mem_insert _).mpr (.inl rfl)
    · exact (AList.mem_insert _).mpr (.inr (same.historyKnown id before))
  idempotency := by
    intro s
    dsimp only [Memory.writeIncident]
    by_cases here : s = r.scope
    · rw [here, AList.lookup_insert, AList.lookup_insert]
      rfl
    · rw [AList.lookup_insert_ne here, AList.lookup_insert_ne here]
      exact same.idempotency s

structure Enters (db : Database) (scope : Scope) (e : IncidentAuditEvent) : Prop where
  bounded : e.revision ≤ Database.maxBigint
  fresh : e.eventId.text ∉ db.audit
  scope : scope ∉ db.idempotency
  last : ∀ row ∈ db.auditOf e.incidentId.text, row.2.revision < e.revision

theorem simulates_writes (mirrors : Mirrors d m db) {i : Incident} {e : IncidentAuditEvent}
    {r : Memory.Request} (now : Instant) (own : e.incidentId = i.incidentId)
    (enters : Enters db r.scope e) (clean : r.metadata.Clean d.toHost)
    (attributed : r.metadata.attribution.isSome) (safe : RepositorySafe d.toHost i.toJson)
    (events : Memory → List IncidentAuditEvent) (appended : ∀ t,
      events { m with sourceEvents := t } = (m.history.lookup i.incidentId.text).getD [] ++ [e]) :
    let db₁ := { db with incidents := db.incidents.insert i.incidentId.text ⟨i.revision, i⟩ }
    Simulates d m
      (do
        let db₂ ← db₁.insertSourceEvents i.incidentId i.sourceEventIds now r.metadata
        let db₃ ← db₂.insertAudit e
        let db₄ ← db₃.insertIdempotency r.scope r.fingerprint i
        return (i, db₄))
      (match m.registerSourceEvents d.toHost i.incidentId i.sourceEventIds now r.metadata with
        | (.error e, m) => (.error e, m)
        | (.ok (), m) => (.ok i, m.writeIncident r i (events m))) := by
  intro db₁
  obtain ⟨incident, texts⟩ := Incident.clean_of_safe safe
  have mirror : SourcesMirror d m.sourceEvents db₁.sourceEvents := mirrors.sourceEvents
  have registered := registers mirror mirrors.owned now clean incident texts
    fun _ _ => attributed
  cases left : db₁.insertSourceEvents i.incidentId i.sourceEventIds now r.metadata with
  | error f =>
    rw [left] at registered
    generalize m.registerSourceEvents d.toHost i.incidentId i.sourceEventIds now r.metadata = right
      at registered ⊢
    cases registered with
    | refused same => exact .failed same
  | ok db₂ =>
    rw [left] at registered
    generalize m.registerSourceEvents d.toHost i.incidentId i.sourceEventIds now r.metadata = right
      at registered ⊢
    cases registered with
    | @done t t' mirror =>
      have event : Database.insertAudit { db₁ with sourceEvents := t' } e = .ok _ :=
        insertAudit_of_fresh enters.bounded enters.fresh enters.last
      have written : SameContents d _ _ :=
        mirrors.written (r := r) own enters.fresh enters.last mirror
      have record : ∀ audit, Database.insertIdempotency ⟨db₁.incidents, t', audit, db₁.idempotency⟩
          r.scope r.fingerprint i = .ok ⟨db₁.incidents, t', audit, _⟩ :=
        fun _ => Database.insertIdempotency_of_fresh enters.scope
      simp only [Bind.bind, Except.bind, event, record, appended]
      exact .answered written

theorem insertIncident_of_fresh {i : Incident} (fresh : i.incidentId.text ∉ db.incidents) :
    db.insertIncident i = .ok { db with
      incidents := db.incidents.insert i.incidentId.text ⟨i.revision, i⟩ } :=
  Checks.seq_ok.mpr ⟨Checks.require_ok.mpr fresh, rfl⟩

/-- `_commit_create_locked` on both sides. -/
theorem simulates_commitCreate (mirrors : Mirrors d m db) {i : Incident} {r : Memory.Request}
    {now : Instant} (new : i.incidentId.text ∉ m.incidents) (clean : r.metadata.Clean d.toHost)
    (safe : RepositorySafe d.toHost i.toJson)
    (enters : ∀ e, auditEvent d.toHost i none r.metadata r.fingerprint now = .ok e →
      e.revision ≤ Database.maxBigint ∧ e.eventId.text ∉ db.audit ∧ r.scope ∉ db.idempotency) :
    Simulates d m (db.commitCreate d.toHost r i now >>= fun db' => .ok (i, db'))
      (m.commitCreate d.toHost r i now) := by
  unfold Database.commitCreate Memory.commitCreate
  cases made : auditEvent d.toHost i none r.metadata r.fingerprint now with
  | error e => exact .failed rfl
  | ok e =>
    obtain ⟨bounded, fresh, scope⟩ := enters e made
    have own := (Memory.eventOf_auditEvent made).incidentId
    have unknown : i.incidentId.text ∉ db.incidents := by
      rw [← AList.lookup_eq_none, ← Option.map_eq_none_iff (f := IncidentRow.payload),
        ← mirrors.incidents, AList.lookup_eq_none]
      exact new
    have unrecorded : m.history.lookup i.incidentId.text = none :=
      AList.lookup_eq_none.mpr fun member => new (mirrors.historyKnown _ member)
    have last : ∀ row ∈ db.auditOf e.incidentId.text, row.2.revision < e.revision := by
      intro row member
      obtain ⟨j, stored, _⟩ := mirrors.mem_auditOf member
      exact absurd (Memory.mem_iff_lookup.mpr ⟨j, stored⟩) (own ▸ new)
    have inserted := insertIncident_of_fresh unknown
    have rest := simulates_writes mirrors now own ⟨bounded, fresh, scope, last⟩ clean
      (Database.attribution_of_auditEvent made) safe (fun _ => [e])
      fun _ => by rw [unrecorded]; rfl
    simp only [bind_assoc, inserted]
    exact rest

theorem updateIncident_of_current {current successor : Incident}
    (bounded : successor.revision ≤ Database.maxBigint) {row : IncidentRow}
    (stored : db.incidents.lookup successor.incidentId.text = some row)
    (revision : row.revision = current.revision) :
    db.updateIncident current successor = .ok { db with
      incidents := db.incidents.insert successor.incidentId.text
        ⟨successor.revision, successor⟩ } := by
  have written : (db.incidents.insert successor.incidentId.text
      ⟨successor.revision, successor⟩).lookup successor.incidentId.text =
      some ⟨successor.revision, successor⟩ := AList.lookup_insert _
  unfold Database.updateIncident
  refine Checks.seq_ok.mpr ⟨Checks.require_ok.mpr bounded, ?_⟩
  simp only [stored, if_pos revision, written]
  exact Checks.seq_ok.mpr ⟨Checks.require_ok.mpr trivial, rfl⟩

/-- `_commit_transition_locked` on both sides. -/
theorem simulates_commitTransition (mirrors : Mirrors d m db) {key : String}
    {current successor : Incident} {target : IncidentStatus} {t now : Instant} {r : Memory.Request}
    (stored : m.incidents.lookup key = some current)
    (moved : Transition d.toHost current target t successor) (clean : r.metadata.Clean d.toHost)
    (safe : RepositorySafe d.toHost successor.toJson)
    (enters : ∀ e, auditEvent d.toHost successor (some current.status) r.metadata r.fingerprint now =
      .ok e → e.revision ≤ Database.maxBigint ∧ e.eventId.text ∉ db.audit ∧
        r.scope ∉ db.idempotency) :
    Simulates d m
      (db.commitTransition d.toHost r current successor now >>= fun db' => .ok (successor, db'))
      (m.commitTransition d.toHost r current successor now) := by
  unfold Database.commitTransition Memory.commitTransition
  cases made : auditEvent d.toHost successor (some current.status) r.metadata r.fingerprint now with
  | error e => exact .failed rfl
  | ok e =>
    obtain ⟨bounded, fresh, scope⟩ := enters e made
    have event := Memory.eventOf_auditEvent made
    have own : successor.incidentId.text = key := by
      rw [moved.identity.incidentId, mirrors.keyed.key stored]
    have mirrored := mirrors.incidents successor.incidentId.text
    rw [own, stored, eq_comm, Option.map_eq_some_iff] at mirrored
    obtain ⟨row, there, payload⟩ := mirrored
    have revision : row.revision = current.revision := payload ▸ mirrors.revisions key row there
    have last : ∀ row ∈ db.auditOf e.incidentId.text, row.2.revision < e.revision := by
      intro row member
      obtain ⟨j, known, earlier⟩ := mirrors.mem_auditOf member
      rw [event.incidentId, own, stored] at known
      cases known
      rw [event.revision, moved.revision]
      exact Nat.lt_succ_of_le earlier
    have updated := updateIncident_of_current (event.revision ▸ bounded) (own.symm ▸ there) revision
    have rest := simulates_writes mirrors now event.incidentId
      ⟨bounded, fresh, scope, last⟩ clean (Database.attribution_of_auditEvent made) safe
      (fun m => (m.history.lookup successor.incidentId.text).getD [] ++ [e]) fun _ => rfl
    simp only [bind_assoc, updated]
    exact rest

theorem simulates_commitCorrelation (mirrors : Mirrors d m db) {existing : Incident}
    {sourceIds : List Identifier} {now : Instant} {r : Memory.Request}
    (clean : r.metadata.Clean d.toHost)
    (incident : labeledIdentifier d.toHost existing.incidentId.text = false)
    (texts : ∀ s ∈ sourceIds, labeledIdentifier d.toHost s.text = false)
    (attributed : (∃ s ∈ sourceIds, db.owners s.text = []) → r.metadata.attribution.isSome)
    (scope : r.scope ∉ db.idempotency) :
    Simulates d m
      (db.commitCorrelation r existing sourceIds now >>= fun db' => .ok (existing, db'))
      (m.commitCorrelation d.toHost r existing sourceIds now) := by
  unfold Database.commitCorrelation Memory.commitCorrelation
  have registered := registers mirrors.sourceEvents mirrors.owned now clean incident texts
    fun _ => attributed
  cases left : db.insertSourceEvents existing.incidentId sourceIds now r.metadata with
  | error f =>
    rw [left] at registered
    generalize m.registerSourceEvents d.toHost existing.incidentId sourceIds now r.metadata = right
      at registered ⊢
    cases registered with
    | refused same => exact .failed same
  | ok db₁ =>
    rw [left] at registered
    generalize m.registerSourceEvents d.toHost existing.incidentId sourceIds now r.metadata = right
      at registered ⊢
    cases registered with
    | @done t t' mirror =>
      have record : Database.insertIdempotency { db with sourceEvents := t' } r.scope r.fingerprint
          existing = .ok _ := Database.insertIdempotency_of_fresh scope
      simp only [Bind.bind, Except.bind, record]
      exact .answered { mirrors.toSameContents with
        sourceEvents := mirror
        idempotency := by
          intro s
          by_cases here : s = r.scope
          · rw [here, AList.lookup_insert, AList.lookup_insert]
            rfl
          · rw [AList.lookup_insert_ne here, AList.lookup_insert_ne here]
            exact mirrors.idempotency s }

theorem validateNewIncident_sameErrors (h : Host) (i : Incident) (traceId : String)
    (now : Instant) :
    SameErrors (validateNewIncident h i traceId now) (Memory.validateNewIncident h i traceId now) :=
  (SameErrors.refl _).step fun _ => (SameErrors.refl _).step fun _ =>
    (SameErrors.refl _).step fun _ => (SameErrors.refl _).step fun _ =>
      (assertSafe_sameErrors h _ _).step fun _ => .ok rfl

/-- The event of an incident that the call would store enters the audit table. -/
def Recordable (d : Driver) (db : Database) (call : Instant × Write) (r : Memory.Request) : Prop :=
  ∀ i f e, Proposed d db call.1 call.2 i →
    auditEvent d.toHost i f r.metadata r.fingerprint call.1 = .ok e →
    e.revision ≤ Database.maxBigint ∧ e.eventId.text ∉ db.audit

/-! Calls without a record. -/

theorem simulates_create (mirrors : Mirrors d m db) {i : Incident} {w : WriteMetadata}
    {now : Instant} {r : Memory.Request} (clean : r.metadata.Clean d.toHost)
    (scope : r.scope ∉ db.idempotency) (recordable : Recordable d db (now, .create i w) r) :
    Simulates d m (db.createNew d i w now r)
      (proceed m (do
        Checks.require (i.incidentId.text ∉ m.incidents) (.alreadyExists i.incidentId.text)
        let committed ← Memory.validateNewIncident d.toHost i w.traceId now
        match ← m.findActiveLocked (committed.correlationKey.map (·.text))
            (committed.sourceEventIds.map (·.text)) none committed.incidentId.text with
        | some active =>
          .error (.activeConflict committed.incidentId.text active.incidentId.text)
        | none => return committed) fun committed => m.commitCreate d.toHost r committed now) := by
  unfold Database.createNew
  rw [mirrors.getLocked]
  by_cases known : i.incidentId.text ∈ m.incidents
  · obtain ⟨j, stored⟩ := Memory.mem_iff_lookup.mp known
    rw [stored, Checks.require, if_neg (not_not_intro known)]
    exact .failed rfl
  · rw [AList.lookup_eq_none.mpr known, Checks.require, if_pos known]
    change Simulates d m (lift _ >>= _) (proceed m (Memory.validateNewIncident _ _ _ _ >>= _) _)
    refine Simulates.bind (validateNewIncident_sameErrors _ i w.traceId now).alike
      fun committed _ same accepted _ => ?_
    cases same
    obtain ⟨stamped, _, safe⟩ := validateNewIncident_ok (lift_ok.mp accepted)
    have new : committed.incidentId.text ∉ m.incidents := by rw [stamped]; exact known
    have proposed : Proposed d db now (.create i w) committed := stamped ▸ .created i w
    refine Simulates.bind (mirrors.findActiveLocked _ (fun _ => Iff.rfl) _ _)
      fun found _ same _ _ => ?_
    cases same
    cases found with
    | some active => exact .failed rfl
    | none =>
      simp only [proceed, pure, Except.pure]
      refine simulates_commitCreate mirrors new clean safe fun e made => ?_
      obtain ⟨bounded, fresh⟩ := recordable committed none e proposed made
      exact ⟨bounded, fresh, scope⟩

theorem simulates_createOrCorrelate (mirrors : Mirrors d m db) {i : Incident} {w : WriteMetadata}
    {now : Instant} {r : Memory.Request} (own : r.metadata = w) (accepted : Accepted d.toHost w)
    (scope : r.scope ∉ db.idempotency) (admissible : Admissible d db (now, .createOrCorrelate i w))
    (recordable : Recordable d db (now, .createOrCorrelate i w) r)
    {commit : Option Incident × Incident → Except RepositoryError Incident × Memory}
    (joins : ∀ existing candidate, commit (some existing, candidate) =
      m.commitCorrelation d.toHost r existing candidate.sourceEventIds now)
    (opens : ∀ candidate, commit (none, candidate) = m.commitCreate d.toHost r candidate now) :
    Simulates d m (db.createOrCorrelateNew d i w now r)
      (proceed m (do
        let candidate ← Memory.validateNewIncident d.toHost i w.traceId now
        match ← m.findActiveLocked (candidate.correlationKey.map (·.text))
            (candidate.sourceEventIds.map (·.text)) none candidate.incidentId.text with
        | some existing => return (some existing, candidate)
        | none => do
          Checks.require (candidate.incidentId.text ∉ m.incidents)
            (.alreadyExists candidate.incidentId.text)
          return (none, candidate)) commit) := by
  have clean : r.metadata.Clean d.toHost := own ▸ accepted.clean
  unfold Database.createOrCorrelateNew
  refine Simulates.bind (validateNewIncident_sameErrors _ i w.traceId now).alike
    fun candidate _ same validated _ => ?_
  cases same
  obtain ⟨stamped, _, safe⟩ := validateNewIncident_ok (lift_ok.mp validated)
  refine Simulates.bind (mirrors.findActiveLocked _ (fun _ => Iff.rfl) _ _)
    fun found _ same looked _ => ?_
  cases same
  cases found with
  | some existing =>
    have incident := (Incident.clean_of_safe (Database.findActiveLocked_some looked).1.safe).1
    simp only [proceed, pure, Except.pure, joins]
    refine simulates_commitCorrelation mirrors clean incident (Incident.clean_of_safe safe).2
      (fun unowned => ?_) scope
    rw [stamped] at looked unowned
    exact own ▸ accepted.attributed (admissible.reason i w existing rfl looked unowned)
  | none =>
    simp only [mirrors.getLocked]
    by_cases known : candidate.incidentId.text ∈ m.incidents
    · obtain ⟨j, stored⟩ := Memory.mem_iff_lookup.mp known
      rw [stored, Checks.require, if_neg (not_not_intro known)]
      exact .failed rfl
    · rw [AList.lookup_eq_none.mpr known, Checks.require, if_pos known]
      have proposed : Proposed d db now (.createOrCorrelate i w) candidate := by
        rw [stamped] at looked ⊢
        exact .opened i w looked
      simp only [proceed, pure, Except.pure, Checks.ok_bind, opens]
      refine simulates_commitCreate mirrors known clean safe fun e made => ?_
      obtain ⟨bounded, fresh⟩ := recordable candidate none e proposed made
      exact ⟨bounded, fresh, scope⟩

theorem simulates_update (mirrors : Mirrors d m db) {key : String} {current successor : Incident}
    {target : IncidentStatus} {expected : Int} {u : Updates} {now : Instant} {r : Memory.Request}
    {call : Write} (stored : m.incidents.lookup key = some current)
    (moved : transitionIncident d.toHost current target expected (.given now) (.given now) u =
      .ok successor) (clean : r.metadata.Clean d.toHost) (scope : r.scope ∉ db.idempotency)
    (proposed : Proposed d db now call successor) (recordable : Recordable d db (now, call) r) :
    Simulates d m
      (lift (assertSafe d.toHost successor.toJson) >>= fun _ =>
        db.requireReactivationKeys d current successor >>= fun _ =>
          db.commitTransition d.toHost r current successor now >>= fun db' => .ok (successor, db'))
      (proceed m (NetworkAgent.assertSafe d.toHost key successor.toJson >>= fun _ =>
        m.requireReactivationKeys current successor >>= fun _ => .ok (current, successor))
        fun work => m.commitTransition d.toHost r work.1 work.2 now) := by
  refine Simulates.bind (assertSafe_sameErrors _ _ _).alike fun _ _ _ checked _ => ?_
  refine Simulates.bind (mirrors.requireReactivationKeys current successor) fun _ _ _ _ _ => ?_
  have safe := (assertSafe_ok.mp (lift_ok.mp checked)).1
  simp only [proceed]
  refine simulates_commitTransition mirrors stored (transition_of_ok moved) clean safe
    fun e made => ?_
  obtain ⟨bounded, fresh⟩ := recordable successor _ e proposed made
  exact ⟨bounded, fresh, scope⟩

theorem simulates_save (mirrors : Mirrors d m db) {i : Incident} {expected : Int}
    {w : WriteMetadata} {now : Instant} {r : Memory.Request} (clean : r.metadata.Clean d.toHost)
    (scope : r.scope ∉ db.idempotency) (recordable : Recordable d db (now, .save i expected w) r) :
    Simulates d m (db.saveNew d i expected w now r)
      (proceed m (do
        let current ← m.requireCurrent i.incidentId.text
        Checks.require (expected = current.revision ∧ (i.revision : Int) = expected + 1)
          (.revisionConflict i.incidentId.text expected current.revision)
        Memory.requireTrace current w.traceId
        Memory.liftValidation (i.modelValidate d.toHost)
        let u := Memory.differences current i
        let _ ← NetworkAgent.assertSafe d.toHost i.incidentId.text (.obj u.image)
        let successor ← Memory.liftTransition
          (transitionIncident d.toHost current i.status expected (.given now) (.given now) u)
        Checks.require (Memory.SameExceptTime successor i)
          (.notStateMachineOutput i.incidentId.text)
        let _ ← NetworkAgent.assertSafe d.toHost i.incidentId.text successor.toJson
        m.requireReactivationKeys current successor
        return (current, successor)) fun work => m.commitTransition d.toHost r work.1 work.2 now) := by
  unfold Database.saveNew
  refine Simulates.bind (mirrors.requireCurrent _) fun current _ same found stored => ?_
  cases same
  refine Simulates.bind (R := fun _ _ => True) (Lockstep.require Iff.rfl rfl) fun _ _ _ _ _ => ?_
  refine Simulates.bind (alike_lift _) fun _ _ _ _ _ => ?_
  refine Simulates.bind (alike_lift _) fun _ _ _ _ _ => ?_
  refine Simulates.bind (assertSafe_sameErrors _ _ _).alike fun _ _ _ _ _ => ?_
  refine Simulates.bind (alike_lift _) fun successor _ same moved _ => ?_
  cases same
  refine Simulates.bind (R := fun _ _ => True) (Lockstep.require Iff.rfl rfl) fun _ _ _ _ _ => ?_
  have moved := Database.liftTransition_ok.mp (lift_ok.mp moved)
  exact simulates_update mirrors (Memory.lookup_of_requireCurrent stored) moved clean scope
    (.saved w found moved) recordable

theorem simulates_transition (mirrors : Mirrors d m db) {incidentId : String}
    {target : IncidentStatus} {expected : Int} {w : WriteMetadata} {u : Updates} {depth : Nat}
    {now : Instant} {r : Memory.Request} (clean : r.metadata.Clean d.toHost)
    (scope : r.scope ∉ db.idempotency)
    (recordable : Recordable d db (now, .transition incidentId target expected w u depth) r) :
    Simulates d m (db.transitionNew d incidentId target expected w u now r)
      (proceed m (do
        let current ← m.requireCurrent incidentId
        Checks.require (expected = current.revision)
          (.revisionConflict incidentId expected current.revision)
        Memory.requireTrace current w.traceId
        let successor ← Memory.liftTransition
          (transitionIncident d.toHost current target expected (.given now) (.given now) u)
        let _ ← NetworkAgent.assertSafe d.toHost incidentId successor.toJson
        m.requireReactivationKeys current successor
        return (current, successor)) fun work => m.commitTransition d.toHost r work.1 work.2 now) := by
  unfold Database.transitionNew
  refine Simulates.bind (mirrors.requireCurrent _) fun current _ same found stored => ?_
  cases same
  refine Simulates.bind (R := fun _ _ => True) (Lockstep.require Iff.rfl rfl) fun _ _ _ _ _ => ?_
  refine Simulates.bind (alike_lift _) fun _ _ _ _ _ => ?_
  refine Simulates.bind (alike_lift _) fun successor _ same moved _ => ?_
  cases same
  have moved := Database.liftTransition_ok.mp (lift_ok.mp moved)
  exact simulates_update mirrors (Memory.lookup_of_requireCurrent stored) moved clean scope
    (.transitioned w depth found moved) recordable

/-! Steps. -/

/-- The condition on a write: the checks of both repositories agree on it, and what a new request
would store fits the rows. -/
structure Comparable (d : Driver) (db : Database) (call : Instant × Write) : Prop where
  policy : SamePolicy d.toHost call.2
  fits : ∀ r, call.2.request d.toHost = .ok r → r.scope ∉ db.idempotency →
    Admissible d db call ∧ Recordable d db call r

theorem simulates (mirrors : Mirrors d m db) (now : Instant) (call : Write)
    (comparable : Comparable d db (now, call)) :
    Simulates d m (db.perform d now call) (m.step d.toHost now call.toCall) := by
  have scope : ∀ {r : Memory.Request}, db.idempotency.lookup r.scope = none →
      r.scope ∉ db.idempotency := AList.lookup_eq_none.mp
  cases call with
  | create i w =>
    refine simulates_request mirrors (createRequest_sameErrors _ _ i w) fun r requested absent => ?_
    obtain ⟨_, accepted⟩ := metadata_of_request (show (Write.create i w).request _ = _ from requested)
    exact simulates_create mirrors accepted.clean (scope absent)
      (comparable.fits r requested (scope absent)).2
  | createOrCorrelate i w =>
    refine simulates_request mirrors (createRequest_sameErrors _ _ i w) fun r requested absent => ?_
    obtain ⟨own, accepted⟩ := metadata_of_request
      (show (Write.createOrCorrelate i w).request _ = _ from requested)
    obtain ⟨admissible, recordable⟩ := comparable.fits r requested (scope absent)
    have own : r.metadata = w := own
    exact simulates_createOrCorrelate mirrors own (own ▸ accepted) (scope absent) admissible
      recordable (fun _ _ => rfl) fun _ => rfl
  | save i expected w =>
    refine simulates_request mirrors (saveRequest_sameErrors _ i expected w)
      fun r requested absent => ?_
    obtain ⟨_, accepted⟩ := metadata_of_request
      (show (Write.save i expected w).request _ = _ from requested)
    exact simulates_save mirrors accepted.clean (scope absent)
      (comparable.fits r requested (scope absent)).2
  | transition incidentId target expected w u depth =>
    refine simulates_request mirrors (transitionRequest_sameErrors _ comparable.policy)
      fun r requested absent => ?_
    obtain ⟨_, accepted⟩ := metadata_of_request
      (show (Write.transition incidentId target expected w u depth).request _ = _ from requested)
    exact simulates_transition mirrors accepted.clean (scope absent)
      (comparable.fits r requested (scope absent)).2

theorem step_alike (mirrors : Mirrors d m db) (now : Instant) (call : Write)
    (comparable : Comparable d db (now, call)) :
    Alike (db.step d now call).1 (m.step d.toHost now call.toCall).1 ∧
      SameContents d (m.step d.toHost now call.toCall).2 (db.step d now call).2 := by
  have simulated := simulates mirrors now call comparable
  unfold Database.step Database.transaction
  generalize db.perform d now call = x at simulated ⊢
  generalize m.step d.toHost now call.toCall = y at simulated ⊢
  cases simulated with
  | failed same => exact ⟨.error same, mirrors.toSameContents⟩
  | answered contents => exact ⟨.ok rfl, contents⟩

theorem step_mirrors (mirrors : Mirrors d m db) (now : Instant) (call : Write)
    (comparable : Comparable d db (now, call)) :
    Mirrors d (m.step d.toHost now call.toCall).2 (db.step d now call).2 := by
  have effect := Memory.step_effect mirrors.keyed.allSafe now call.toCall
  refine { (step_alike mirrors now call comparable).2 with
    closed := ?_
    keyed := effect.keyed mirrors.keyed
    owned := effect.owned mirrors.keyed mirrors.owned
    audited := effect.audited mirrors.keyed mirrors.audited }
  refine Database.step_leaves now call mirrors.closed fun i db' done => ?_
  obtain ⟨r, requested, ⟨absent, worked⟩ | ⟨_, _, _, _, _, rfl⟩⟩ := Database.perform_ok done
  · have admissible := (comparable.fits r requested (AList.lookup_eq_none.mp absent)).1
    exact Database.worked_closed mirrors.closed requested admissible worked
  · exact mirrors.closed

end

theorem mirrors_empty (d : Driver) : Mirrors d {} {} where
  incidents _ := rfl
  revisions _ _ := nofun
  sourceEvents _ := .inl ⟨rfl, rfl⟩
  auditRows _ _ := nofun
  history _ := rfl
  historyKnown _ := nofun
  idempotency _ := rfl
  closed := closed_empty d
  keyed := Memory.keyed_empty d.toHost
  owned := Memory.owned_empty
  audited := Memory.audited_empty

/-! Runs. -/

/-- A write at its clock reading, or a read. -/
inductive Access where
  | write (now : Instant) (call : Write)
  | read (q : Read)

def nextBoth (d : Driver) (s : Memory × Database) : Access → Memory × Database
  | .write now call => ((s.1.step d.toHost now call.toCall).2, (s.2.step d now call).2)
  | .read _ => s

theorem nextBoth_write (d : Driver) (s : Memory × Database) (now : Instant) (call : Write) :
    nextBoth d s (.write now call) =
      (s.1.next d.toHost (now, call.toCall), s.2.next d (now, call)) := rfl

def AnswersAlike (d : Driver) (s : Memory × Database) : Access → Prop
  | .write now call => Alike (s.2.step d now call).1 (s.1.step d.toHost now call.toCall).1
  | .read q => Alike (s.2.read d q) (q.onMemory d.toHost s.1)

/-- Only the durable repository checks the identifier of a get. -/
def Access.Comparable (d : Driver) (s : Memory × Database) : Access → Prop
  | .write now call => Local.Comparable d s.2 (now, call)
  | .read (.get incidentId) => requireNonEmpty "incident_id" incidentId 256 = .ok ()
  | .read _ => True

theorem access_alike {d : Driver} (s : Memory × Database) (a : Access) (mirrors : Mirrors d s.1 s.2)
    (comparable : a.Comparable d s) : AnswersAlike d s a := by
  cases a with
  | write now call => exact (step_alike mirrors now call comparable).1
  | read q =>
    cases q with
    | get incidentId => exact mirrors.get comparable
    | findByIdempotencyKey incidentId idempotencyKey operation =>
      exact mirrors.findByIdempotencyKey incidentId idempotencyKey operation
    | findActive correlationKey sourceEventId =>
      exact mirrors.findActive correlationKey sourceEventId
    | history incidentId limit offset => exact mirrors.history_alike incidentId limit offset
    | sourceEventAssociations incidentId limit offset =>
      exact mirrors.sourceEventAssociations incidentId limit offset

theorem nextBoth_mirrors {d : Driver} (s : Memory × Database) (a : Access)
    (mirrors : Mirrors d s.1 s.2) (comparable : a.Comparable d s) :
    Mirrors d (nextBoth d s a).1 (nextBoth d s a).2 := by
  cases a with
  | write now call => exact step_mirrors mirrors now call comparable
  | read q => exact mirrors

/-- In a run whose accesses are all comparable, every access answers alike, and the contents are
the same at the end. -/
theorem durable_refines_memory (d : Driver) (accesses : List Access)
    (comparable : Runs.Along (nextBoth d) (fun s a => a.Comparable d s) ({}, {}) accesses) :
    Runs.Along (nextBoth d) (AnswersAlike d) ({}, {}) accesses ∧
      SameContents d (Runs.run (nextBoth d) ({}, {}) accesses).1
        (Runs.run (nextBoth d) ({}, {}) accesses).2 := by
  have start : Mirrors d ({} : Memory) ({} : Database) := mirrors_empty d
  refine ⟨Runs.along_of_invariant (nextBoth d) (P := fun s => Mirrors d s.1 s.2)
    nextBoth_mirrors access_alike start accesses comparable, ?_⟩
  exact (Runs.along_invariant (nextBoth d) (P := fun s => Mirrors d s.1 s.2)
    nextBoth_mirrors start accesses comparable).toSameContents

/-! The second call of the two that leave an unreadable source event. -/
namespace Refinement.Sample
open Readable.Sample

def memory : Memory :=
  Memory.next Host.ascii {} (1, .createOrCorrelate first (metadata "r"))

structure Joins (m : Memory) : Prop where
  absent : m.idempotency.lookup scope = none
  matched : m.findActiveLocked (some "k") ["s2"] none "i2" = .ok (some opened)
  registrable : m.requireRegistrable opened.incidentId second.sourceEventIds = .ok ()
  unlinked : ("i1", "s2") ∉ m.sourceEvents

theorem memory_joins : Joins memory := by
  have every : memory.idempotency.lookup scope = none ∧
      memory.findActiveLocked (some "k") ["s2"] none "i2" = .ok (some opened) ∧
      memory.requireRegistrable opened.incidentId second.sourceEventIds = .ok () ∧
      ("i1", "s2") ∉ memory.sourceEvents := by decide +kernel
  obtain ⟨absent, matched, registrable, unlinked⟩ := every
  exact ⟨absent, matched, registrable, unlinked⟩

theorem second_requested_in_memory {n : Nat} (filled : 0 < n) (short : n ≤ 4096) :
    ∃ fp, Memory.createRequest Host.ascii "create_or_correlate" second (metadata (reason n)) =
      .ok ⟨scope, fp, metadata (reason n)⟩ := by
  obtain ⟨fp, requested⟩ := second_requested filled short
  have same := createRequest_sameErrors Host.ascii "create_or_correlate" second (metadata (reason n))
  rw [requested] at same
  generalize Memory.createRequest _ _ _ _ = asked at same ⊢
  cases same with
  | ok equal => exact ⟨fp, congrArg Except.ok equal.symm⟩

theorem second_refused {m : Memory} (joins : Joins m) {n : Nat} (long : 1024 < n)
    (short : n ≤ 4096) :
    (m.createOrCorrelate Host.ascii second (metadata (reason n)) 2).1 =
      .error (.validation (.message "SourceEventAssociation")) := by
  obtain ⟨fp, requested⟩ := second_requested_in_memory (Nat.zero_lt_of_lt long) short
  have validated : Memory.validateNewIncident Host.ascii second (metadata (reason n)).traceId 2 =
      .ok { second with createdAt := 2, updatedAt := 2 } := by
    have accepted : Memory.validateNewIncident Host.ascii second "t" 2 =
        .ok { second with createdAt := 2, updatedAt := 2 } := by decide +kernel
    exact accepted
  have decided : m.decideCorrelate Host.ascii second (metadata (reason n)) 2 =
      .ok (.proceed ⟨scope, fp, metadata (reason n)⟩
        (some opened, { second with createdAt := 2, updatedAt := 2 })) :=
    Checks.bind_ok.mpr ⟨_, requested, Memory.unlessReplayed_ok.mpr (.inr ⟨joins.absent, _,
      Checks.bind_ok.mpr ⟨_, validated, Checks.bind_ok.mpr ⟨_, joins.matched, rfl⟩⟩, rfl⟩)⟩
  have sources : Memory.sortedSources second.sourceEventIds = second.sourceEventIds := by
    decide +kernel
  have refused : m.registerSourceEvents Host.ascii opened.incidentId second.sourceEventIds 2
      (metadata (reason n)) = (.error (.validation (.message "SourceEventAssociation")), m) := by
    unfold Memory.registerSourceEvents
    rw [joins.registrable, sources]
    have one : second.sourceEventIds = [.ofText "s2" (by decide)] := rfl
    simp only [one, Memory.addAssociations]
    refine (if_neg joins.unlinked).trans ?_
    rw [reason_unattributed long]
  unfold Memory.createOrCorrelate
  rw [decided]
  change (m.commitCorrelation Host.ascii ⟨scope, fp, metadata (reason n)⟩ opened
    second.sourceEventIds 2).1 = _
  unfold Memory.commitCorrelation
  simp only [refused]

theorem second_differs {m : Memory} {db : Database} (joins : Joins m) (met : Met db) {n : Nat}
    (long : 1024 < n) (short : n ≤ 4096) : ¬ AnswersAlike .ascii (m, db)
      (.write 2 (.createOrCorrelate second (metadata (reason n)))) := by
  intro alike
  obtain ⟨db', joined, _⟩ := second_joined met (Nat.zero_lt_of_lt long) short
  have refused := second_refused joins long short
  have alike : Alike (db.step .ascii 2 (.createOrCorrelate second (metadata (reason n)))).1
    (m.createOrCorrelate Host.ascii second (metadata (reason n)) 2).1 := alike
  rw [joined, refused] at alike
  cases alike

theorem first_comparable : Access.Comparable .ascii ({}, {})
    (.write 1 (.createOrCorrelate first (metadata "r"))) where
  policy := trivial
  fits := by
    intro r _ _
    refine ⟨first_admissible, fun i f e proposed made => ?_⟩
    have revision := (Memory.eventOf_auditEvent made).revision
    cases proposed with
    | opened _ _ _ => exact ⟨revision.le.trans (Nat.zero_le _), AList.notMem_empty _⟩

end Refinement.Sample

theorem durable_refines_memory_sample :
    Runs.Along (nextBoth .ascii) (AnswersAlike .ascii) ({}, {})
        [.write 1 (.createOrCorrelate Readable.Sample.first (Readable.Sample.metadata "r")),
          .read (.get "i1")] ∧
      SameContents .ascii
        (Runs.run (nextBoth .ascii) ({}, {})
          [.write 1 (.createOrCorrelate Readable.Sample.first (Readable.Sample.metadata "r")),
            .read (.get "i1")]).1
        (Runs.run (nextBoth .ascii) ({}, {})
          [.write 1 (.createOrCorrelate Readable.Sample.first (Readable.Sample.metadata "r")),
            .read (.get "i1")]).2 :=
  have named : requireNonEmpty "incident_id" "i1" 256 = .ok () := by decide +kernel
  durable_refines_memory .ascii _ ⟨Refinement.Sample.first_comparable, named, trivial⟩

/-- The second call stores its long reason in one repository and is refused by the other. -/
theorem long_reason_answers_differ : ¬ Runs.Along (nextBoth .ascii) (AnswersAlike .ascii) ({}, {})
    [.write 1 (.createOrCorrelate Readable.Sample.first (Readable.Sample.metadata "r")),
      .write 2 (.createOrCorrelate Readable.Sample.second
        (Readable.Sample.metadata (Readable.Sample.reason 1025)))] := by
  rintro ⟨_, alike, _⟩
  rw [nextBoth_write] at alike
  exact Refinement.Sample.second_differs Refinement.Sample.memory_joins
    Readable.Sample.database_met (by decide) (by decide) alike

end NetworkAgent.Local
