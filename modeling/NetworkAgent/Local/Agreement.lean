import NetworkAgent.Library.Lockstep
import NetworkAgent.Library.Sorting
import NetworkAgent.Memory.Ownership
import NetworkAgent.Local.Readable

/-! The DuckDB repository next to the in-memory one. Over equal contents, the parts their calls
are made of answer alike. -/
namespace NetworkAgent
open Checks (Lockstep)

/-- The class of an error, and all of an error of the state machine. -/
inductive ErrorClass where
  | value
  | unsafeWrite
  | validation
  | transition (error : TransitionError)
  | idempotencyConflict
  | notFound
  | alreadyExists
  | activeConflict
  | ownershipConflict
  | correlationConflict
  | revisionConflict
  | runtime
  | constraint
  deriving DecidableEq

def RepositoryError.errorClass : RepositoryError → ErrorClass
  | .value _ => .value
  | .unsafeWrite _ _ | .notStateMachineOutput _ => .unsafeWrite
  | .validation _ => .validation
  | .transition error => .transition error
  | .idempotencyConflict _ => .idempotencyConflict
  | .notFound _ => .notFound
  | .alreadyExists _ => .alreadyExists
  | .activeConflict _ _ => .activeConflict
  | .ownershipConflict _ _ _ => .ownershipConflict
  | .correlationConflict _ _ => .correlationConflict
  | .revisionConflict _ _ _ => .revisionConflict
  | .corruptedOwnership | .inconsistent _ => .runtime

/-! Reads of the in-memory repository with the arguments of the durable one. -/
namespace Memory

/-- `history`. -/
def historyOf (h : Host) (m : Memory) (incidentId : String) (limit : Option Nat) (offset : Nat) :
    Except RepositoryError (List IncidentAuditEvent) := do
  requireNonEmpty "incident_id" incidentId 256
  requireValue (∀ n ∈ limit, 1 ≤ n ∧ n ≤ maxRepositoryPageSize) "limit must be between 1 and 1000"
  requireValue (offset ≤ maxRepositoryOffset) "offset must be between 0 and 100000"
  requireValue (limit.isSome ∨ offset = 0) "offset requires an explicit limit"
  let events := ((m.history.lookup incidentId).getD []).drop offset
  boundedPage h (·.toJson) 0 (match limit with
    | none => events
    | some limit => events.take limit)

/-- `find_by_idempotency_key`, for an operation in lower case. -/
def findByIdempotencyKey (m : Memory) (incidentId idempotencyKey operation : String) :
    Except RepositoryError (Option Incident) := do
  let scope ← requestScope operation incidentId idempotencyKey
  return (m.idempotency.lookup scope).map (·.result)

end Memory

namespace Local

def Fault.errorClass : Fault → ErrorClass
  | .repository error => error.errorClass
  | .persistedSize | .persistedRecord | .persistedAssociation => .unsafeWrite
  | .staleRevision _ _ _ => .revisionConflict
  | .constraint _ => .constraint

def SameClass (e : Fault) (e' : RepositoryError) : Prop := e.errorClass = e'.errorClass

/-- Both fail with errors of one class, or both answer, and the answers are equal. -/
abbrev Alike {α : Type} (x : Except Fault α) (y : Except RepositoryError α) : Prop :=
  Lockstep SameClass Eq x y

theorem alike_lift {α : Type} (x : Except RepositoryError α) : Alike (lift x) x := by
  cases x with
  | ok a => exact .ok rfl
  | error e => exact .error rfl

def Write.toCall : Write → Call
  | .create i w => .create i w
  | .createOrCorrelate i w => .createOrCorrelate i w
  | .save i expected w => .save i expected w
  | .transition incidentId target expected w u _ => .transition incidentId target expected w u

def Read.onMemory (h : Host) (m : Memory) : (q : Read) → Except RepositoryError q.Answer
  | .get incidentId => .ok (m.get incidentId)
  | .findByIdempotencyKey incidentId idempotencyKey operation =>
    m.findByIdempotencyKey incidentId idempotencyKey operation
  | .findActive correlationKey sourceEventId => m.findActive correlationKey sourceEventId
  | .history incidentId limit offset => m.historyOf h incidentId limit offset
  | .sourceEventAssociations incidentId limit offset =>
    m.sourceEventAssociations h incidentId limit offset

/-! What a write checks first. -/

abbrev SameErrors {α : Type} (x y : Except RepositoryError α) : Prop :=
  Lockstep (fun e e' : RepositoryError => e.errorClass = e'.errorClass) Eq x y

theorem SameErrors.refl {α : Type} (x : Except RepositoryError α) : SameErrors x x := by
  cases x with
  | ok a => exact .ok rfl
  | error e => exact .error rfl

theorem SameErrors.alike {α : Type} {x y : Except RepositoryError α} (same : SameErrors x y) :
    Alike (lift x) y := by
  cases same with
  | ok related => exact .ok related
  | error related => exact .error related

theorem SameErrors.step {α β : Type} {x y : Except RepositoryError α}
    {f g : α → Except RepositoryError β} (first : SameErrors x y)
    (later : ∀ a, SameErrors (f a) (g a)) : SameErrors (x >>= f) (y >>= g) :=
  first.bind fun a _ same _ _ => same ▸ later a

theorem assertSafe_fails (h : Host) (value : Json) :
    Checks.FailsWith (fun e => e.errorClass = .unsafeWrite) (assertSafe h value) :=
  Checks.failsWith_bind (Checks.failsWith_require rfl) fun _ =>
    Checks.failsWith_bind (Checks.failsWith_require rfl) fun _ =>
      Checks.failsWith_bind (Checks.failsWith_require rfl) fun _ => Checks.failsWith_ok _

theorem memory_assertSafe_fails (h : Host) (incidentId : String) (value : Json) :
    Checks.FailsWith (fun e => e.errorClass = .unsafeWrite)
      (NetworkAgent.assertSafe h incidentId value) := by
  unfold NetworkAgent.assertSafe
  split
  · exact Checks.failsWith_ok _
  · exact Checks.failsWith_error rfl

theorem assertSafe_sameErrors (h : Host) (incidentId : String) (value : Json) :
    SameErrors (assertSafe h value) (NetworkAgent.assertSafe h incidentId value) := by
  refine .of_ok_iff (fun n passed => ?_) (fun n passed => ?_) (assertSafe_fails h value)
    (memory_assertSafe_fails h incidentId value) fun e e' first second => first.trans second.symm
  · obtain ⟨safe, rfl⟩ := assertSafe_ok.mp passed
    exact ⟨_, assertSafe_of_safe incidentId safe, rfl⟩
  · exact ⟨_, assertSafe_ok.mpr ⟨safe_of_assertSafe passed, rfl⟩⟩

theorem requireMetadata_sameErrors (h : Host) (w : WriteMetadata) :
    SameErrors (requireMetadata h w) (w.require h) :=
  (SameErrors.refl _).step fun _ => (SameErrors.refl _).step fun _ =>
    (SameErrors.refl _).step fun _ => (SameErrors.refl _).step fun _ =>
      (assertSafe_sameErrors h _ _).step fun _ => .ok rfl

theorem createRequest_sameErrors (h : Host) (operation : String) (i : Incident)
    (w : WriteMetadata) :
    SameErrors (createRequest h operation i w) (Memory.createRequest h operation i w) :=
  (requireMetadata_sameErrors h w).step fun _ => (assertSafe_sameErrors h _ _).step fun _ =>
    (SameErrors.refl _).step fun _ => .ok rfl

theorem saveRequest_sameErrors (h : Host) (i : Incident) (expected : Int) (w : WriteMetadata) :
    SameErrors (saveRequest h i expected w) (Memory.saveRequest h i expected w) :=
  (requireMetadata_sameErrors h w).step fun _ => (assertSafe_sameErrors h _ _).step fun _ =>
    (SameErrors.refl _).step fun _ => (SameErrors.refl _).step fun _ => .ok rfl

/-- Only the durable transition runs the policy on the identifier, and it counts the depth of the
updates on the mapping as it is given. -/
def SamePolicy (h : Host) : Write → Prop
  | .transition incidentId _ _ _ u depth =>
    RepositorySafe h (.obj [("incident_id", .str incidentId)]) ∧
      (depth ≤ maxContractDepth ↔ (Json.obj u.image).depth ≤ maxContractDepth)
  | _ => True

theorem assertUpdatesSafe_sameErrors (h : Host) {depth : Nat} {u : Updates} (incidentId : String)
    (same : depth ≤ maxContractDepth ↔ (Json.obj u.image).depth ≤ maxContractDepth) :
    Lockstep (fun e e' : RepositoryError => e.errorClass = e'.errorClass) (fun _ _ => True)
      (assertUpdatesSafe h depth u) (NetworkAgent.assertSafe h incidentId (.obj u.image)) := by
  have fails : Checks.FailsWith (fun e => e.errorClass = .unsafeWrite)
      (assertUpdatesSafe h depth u) :=
    Checks.failsWith_bind (Checks.failsWith_require rfl) fun _ =>
      Checks.failsWith_bind (Checks.failsWith_require rfl) fun _ => Checks.failsWith_require rfl
  refine .of_ok_iff (fun _ passed => ?_) (fun n passed => ?_) fails
    (memory_assertSafe_fails h incidentId _) fun e e' first second => first.trans second.symm
  · simp only [assertUpdatesSafe, Checks.seq_ok, Checks.require_ok] at passed
    obtain ⟨shallow, clean, small⟩ := passed
    exact ⟨_, assertSafe_of_safe incidentId ⟨clean, same.mp shallow, small⟩, trivial⟩
  · obtain ⟨clean, shallow, small⟩ := safe_of_assertSafe passed
    refine ⟨(), ?_⟩
    simp only [assertUpdatesSafe, Checks.seq_ok, Checks.require_ok]
    exact ⟨same.mpr shallow, clean, small⟩

theorem transitionRequest_sameErrors (h : Host) {incidentId : String} {target : IncidentStatus}
    {expected : Int} {w : WriteMetadata} {u : Updates} {depth : Nat}
    (policy : SamePolicy h (.transition incidentId target expected w u depth)) :
    SameErrors (transitionRequest h incidentId target expected w u depth)
      (Memory.transitionRequest h incidentId target expected w u) := by
  have named : assertSafe h (.obj [("incident_id", .str incidentId)]) = .ok _ :=
    assertSafe_ok.mpr ⟨policy.1, rfl⟩
  refine (requireMetadata_sameErrors h w).step fun _ => ?_
  rw [named]
  refine (SameErrors.refl (requireValue (0 ≤ expected) _)).step fun _ => ?_
  refine (assertUpdatesSafe_sameErrors h incidentId policy.2).bind fun _ _ _ _ _ => ?_
  exact (SameErrors.refl _).step fun _ => .ok rfl

/-! Equal contents. -/

/-- The audit rows of an incident in the order of its history. -/
def Database.auditOf (db : Database) (incidentId : String) : List (String × AuditRow) :=
  (db.audit.rows.filter fun r => r.2.incidentId = incidentId).insertionSort fun a b =>
    Database.auditLe a b

def SourcesMirror (d : Driver) (t : Table (String × String) SourceEventAssociation)
    (t' : Table (String × String) SourceRow) : Prop :=
  ∀ k, (t.lookup k = none ∧ t'.lookup k = none) ∨
    ∃ a row, t.lookup k = some a ∧ t'.lookup k = some row ∧
      parseAssociation d k.1 k.2 row = .ok a ∧ a.sourceEventId.text = k.2

theorem SourcesMirror.mem {d : Driver} {t : Table (String × String) SourceEventAssociation}
    {t' : Table (String × String) SourceRow} (mirror : SourcesMirror d t t') {k : String × String} :
    k ∈ t ↔ k ∈ t' := by
  rw [Memory.mem_iff_lookup, Memory.mem_iff_lookup]
  rcases mirror k with ⟨left, right⟩ | ⟨a, row, left, right, _⟩
  · simp [left, right]
  · simp [left, right]

/-- Both repositories hold the same incidents, associations, histories and records. -/
structure SameContents (d : Driver) (m : Memory) (db : Database) : Prop where
  incidents : ∀ k, m.incidents.lookup k = (db.incidents.lookup k).map (·.payload)
  revisions : ∀ k row, db.incidents.lookup k = some row → row.revision = row.payload.revision
  sourceEvents : SourcesMirror d m.sourceEvents db.sourceEvents
  auditRows : ∀ k row, db.audit.lookup k = some row → row = Database.auditRow row.payload
  history : ∀ id, (db.auditOf id).map (fun r => r.2.payload) = (m.history.lookup id).getD []
  historyKnown : ∀ id ∈ m.history, id ∈ m.incidents
  idempotency : ∀ s, m.idempotency.lookup s =
    (db.idempotency.lookup s).map fun row => ⟨row.fingerprint, row.resultPayload⟩

structure Mirrors (d : Driver) (m : Memory) (db : Database) : Prop extends SameContents d m db where
  closed : Closed d db
  keyed : m.Keyed d.toHost
  owned : m.Owned
  audited : m.Audited

section
variable {d : Driver} {m : Memory} {db : Database}

theorem Mirrors.getLocked (mirrors : Mirrors d m db) (incidentId : String) :
    db.getLocked d incidentId = .ok (m.incidents.lookup incidentId) := by
  rw [mirrors.incidents incidentId]
  unfold Database.getLocked
  cases stored : db.incidents.lookup incidentId with
  | none => rfl
  | some row =>
    have parsed := parseIncident_ok.mpr ⟨rfl, mirrors.closed.incidents incidentId row stored⟩
    simp only [parsed, Option.map_some]
    rfl

theorem Mirrors.replay (mirrors : Mirrors d m db) (scope : Scope) (fp : Sha256.Digest) :
    Alike (db.replay d scope fp) (m.replay scope fp) := by
  have same := mirrors.idempotency scope
  unfold Database.replay Memory.replay
  cases stored : db.idempotency.lookup scope with
  | none =>
    rw [stored] at same
    rw [same]
    exact .ok rfl
  | some row =>
    rw [stored] at same
    rw [same]
    have parsed := parseIncident_ok.mpr ⟨rfl, mirrors.closed.idempotency scope row stored⟩
    refine Lockstep.bind (R := fun _ _ => True) (Lockstep.require Iff.rfl rfl) fun _ _ _ _ _ => ?_
    rw [parsed]
    exact .ok rfl

theorem Mirrors.requireCurrent (mirrors : Mirrors d m db) (incidentId : String) :
    Alike (db.requireCurrent d incidentId) (m.requireCurrent incidentId) := by
  unfold Database.requireCurrent Memory.requireCurrent
  rw [mirrors.getLocked]
  cases m.incidents.lookup incidentId with
  | none => exact .error rfl
  | some current => exact .ok rfl

theorem mem_associatedSourceIds {incidentId s : String} :
    s ∈ db.associatedSourceIds incidentId ↔ (incidentId, s) ∈ db.sourceEvents := by
  simp only [Database.associatedSourceIds, List.mem_map, List.mem_filter, Table.mem_rows,
    decide_eq_true_eq, Memory.mem_iff_lookup]
  constructor
  · rintro ⟨⟨⟨_, _⟩, v⟩, ⟨known, rfl⟩, rfl⟩; exact ⟨v, known⟩
  · rintro ⟨v, known⟩; exact ⟨⟨(incidentId, s), v⟩, ⟨known, rfl⟩, rfl⟩

theorem mem_owners {incidentId s : String} :
    incidentId ∈ db.owners s ↔ (incidentId, s) ∈ db.sourceEvents := by
  simp only [Database.owners, List.mem_map, List.mem_filter, Table.mem_rows, decide_eq_true_eq,
    Memory.mem_iff_lookup]
  constructor
  · rintro ⟨⟨⟨_, _⟩, v⟩, ⟨known, rfl⟩, rfl⟩; exact ⟨v, known⟩
  · rintro ⟨v, known⟩; exact ⟨⟨(incidentId, s), v⟩, ⟨known, rfl⟩, rfl⟩

/-! The lookup of an active incident. -/

theorem mapM_parse {rows : List (String × Incident)} (readable : ∀ r ∈ rows, Readable d r.2) :
    rows.mapM (fun r => parseIncident d r.2) = .ok (rows.map (·.2)) := by
  induction rows with
  | nil => rfl
  | cons r rest ih =>
    have parsed := parseIncident_ok.mpr ⟨rfl, readable r List.mem_cons_self⟩
    rw [List.mapM_cons, parsed, ih fun r member => readable r (List.mem_cons_of_mem _ member)]
    rfl

theorem foldl_addMatch_nodup {found more : List Incident}
    (nodup : (found.map (·.incidentId)).Nodup) :
    ((more.foldl Database.addMatch found).map (·.incidentId)).Nodup := by
  induction more generalizing found with
  | nil => exact nodup
  | cons i rest ih =>
    refine ih ?_
    unfold Database.addMatch
    split
    · exact nodup
    · next fresh =>
      rw [List.map_append, List.map_singleton]
      exact List.nodup_append_comm.mp (List.nodup_cons.mpr ⟨fresh, nodup⟩)

theorem mem_foldl_addMatch {found more : List Incident} {i : Incident}
    (unique : ∀ j, j ∈ found ∨ j ∈ more → j.incidentId = i.incidentId → j = i) :
    i ∈ more.foldl Database.addMatch found ↔ i ∈ found ∨ i ∈ more := by
  refine ⟨Database.mem_foldl_addMatch, fun member => ?_⟩
  induction more generalizing found with
  | nil => exact member.elim id nofun
  | cons j rest ih =>
    have kept : ∀ k ∈ Database.addMatch found j, k ∈ found ∨ k ∈ j :: rest := by
      intro k inside
      unfold Database.addMatch at inside
      split at inside
      · exact .inl inside
      · rcases List.mem_append.mp inside with before | last
        · exact .inl before
        · exact .inr (List.mem_singleton.mp last ▸ List.mem_cons_self)
    refine ih (fun k inside same => unique k ?_ same) ?_
    · exact inside.elim (kept k) fun later => .inr (List.mem_cons_of_mem _ later)
    · rcases member with before | inside
      · left
        unfold Database.addMatch
        split
        · exact before
        · exact List.mem_append_left _ before
      · rcases List.mem_cons.mp inside with rfl | later
        · left
          unfold Database.addMatch
          split
          · next known =>
            obtain ⟨k, here, same⟩ := List.mem_map.mp known
            exact unique k (.inl here) same ▸ here
          · exact List.mem_append_right _ List.mem_cons_self
        · exact .inr later

theorem Mirrors.mem_values (mirrors : Mirrors d m db) {i : Incident} :
    i ∈ m.incidents.values ↔ ∃ k, (k, i) ∈ db.payloads := by
  rw [Table.mem_values]
  refine exists_congr fun k => ?_
  rw [mirrors.incidents k, Option.map_eq_some_iff, Database.mem_payloads]

theorem Mirrors.unique (mirrors : Mirrors d m db) {i j : Incident}
    (first : i ∈ m.incidents.values) (second : j ∈ m.incidents.values)
    (same : i.incidentId = j.incidentId) : i = j := by
  have here := mirrors.keyed.stored first
  rw [same, mirrors.keyed.stored second] at here
  exact (Option.some.inj here).symm

def Database.collected (db : Database) (correlationKey : Option String) (sources : List String)
    (excluded : Option String) : List Incident :=
  ((db.joinedPayloads sources).map (·.2)).filter (Database.isCandidate excluded) ++
    (db.payloads.map (·.2)).filter fun i =>
      Database.isCandidate excluded i && Database.Answers correlationKey sources i

theorem findActiveLocked_eq (readable : ∀ r ∈ db.payloads, Readable d r.2)
    (correlationKey : Option String) (sources : List String) (excluded : Option String)
    (requestedId : String) :
    db.findActiveLocked d correlationKey sources excluded requestedId =
      let found := (db.collected correlationKey sources excluded).foldl Database.addMatch []
      Checks.require (found.length ≤ 1) (.repository
        (.correlationConflict requestedId (found.map (·.incidentId.text)))) >>= fun _ =>
      .ok found.head? := by
  have joined : (db.joinedPayloads sources).mapM (fun r => parseIncident d r.2) =
      .ok ((db.joinedPayloads sources).map (·.2)) :=
    mapM_parse fun r member => readable r (List.mem_of_mem_filter member)
  unfold Database.findActiveLocked
  rw [mapM_parse readable, joined]
  rfl

theorem Mirrors.mem_collected (mirrors : Mirrors d m db) {correlationKey : Option String}
    {sources sources' : List String} (same : ∀ s, s ∈ sources ↔ s ∈ sources')
    {excluded : Option String} {i : Incident} :
    i ∈ db.collected correlationKey sources excluded ↔
      i ∈ m.activeMatches correlationKey sources' excluded := by
  have stored : i ∈ db.payloads.map (·.2) ↔ i ∈ m.incidents.values := by
    rw [mirrors.mem_values, List.mem_map]
    exact ⟨fun ⟨⟨k, _⟩, member, same⟩ => ⟨k, same ▸ member⟩, fun ⟨k, member⟩ => ⟨_, member, rfl⟩⟩
  have linked : i ∈ (db.joinedPayloads sources).map (·.2) ↔ i ∈ m.incidents.values ∧
      ∃ s ∈ sources', s ∈ m.associatedSourceIds i.incidentId.text := by
    simp only [Database.joinedPayloads, List.mem_map, List.mem_filter, decide_eq_true_eq,
      Memory.mem_associatedSourceIds, mirrors.sourceEvents.mem]
    constructor
    · rintro ⟨⟨k, j⟩, ⟨member, s, inside, owner⟩, rfl⟩
      have value := mirrors.mem_values.mpr ⟨k, member⟩
      obtain ⟨row, here, rfl⟩ := Database.mem_payloads.mp member
      have key : row.payload.incidentId.text = k :=
        mirrors.keyed.key (by rw [mirrors.incidents k, here]; rfl)
      exact ⟨value, s, (same s).mp inside, key ▸ owner⟩
    · rintro ⟨value, s, inside, owner⟩
      have here := mirrors.keyed.stored value
      rw [mirrors.incidents, Option.map_eq_some_iff] at here
      exact ⟨(i.incidentId.text, i), ⟨Database.mem_payloads.mpr here, s, (same s).mpr inside, owner⟩,
        rfl⟩
  have own : i ∈ m.incidents.values → ∀ s ∈ i.sourceEventIds.map (·.text),
      s ∈ m.associatedSourceIds i.incidentId.text := by
    intro value s inside
    obtain ⟨source, member, rfl⟩ := List.mem_map.mp inside
    exact Memory.mem_associatedSourceIds.mpr
      (mirrors.owned.listed _ i (mirrors.keyed.stored value) source member)
  simp only [Database.collected, List.mem_append, List.mem_filter, linked, stored,
    Database.isCandidate, Memory.mem_activeMatches, Bool.and_eq_true, decide_eq_true_eq]
  constructor
  · rintro (⟨⟨value, source⟩, other, active⟩ | ⟨value, ⟨other, active⟩, key | ⟨s, inside, mine⟩⟩)
    · exact ⟨value, other, active, Or.inr source⟩
    · exact ⟨value, other, active, Or.inl key⟩
    · exact ⟨value, other, active, Or.inr ⟨s, (same s).mp inside, own value s mine⟩⟩
  · rintro ⟨value, other, active, key | source⟩
    · exact .inr ⟨value, ⟨other, active⟩, Or.inl key⟩
    · exact .inl ⟨⟨value, source⟩, other, active⟩

theorem head?_of_perm {α : Type} {xs ys : List α} (perm : xs.Perm ys) (single : xs.length ≤ 1) :
    xs.head? = ys.head? := by
  match xs, single with
  | [], _ => rw [List.nil_perm.mp perm]
  | [x], _ => rw [List.singleton_perm.mp perm]

theorem Mirrors.findActiveLocked (mirrors : Mirrors d m db) (correlationKey : Option String)
    {sources sources' : List String} (same : ∀ s, s ∈ sources ↔ s ∈ sources')
    (excluded : Option String) (requestedId : String) :
    Alike (db.findActiveLocked d correlationKey sources excluded requestedId)
      (m.findActiveLocked correlationKey sources' excluded requestedId) := by
  have readable : ∀ r ∈ db.payloads, Readable d r.2 := by
    intro r member
    obtain ⟨row, stored, same⟩ := Database.mem_payloads.mp member
    exact same ▸ mirrors.closed.incidents r.1 row stored
  have perm : ((db.collected correlationKey sources excluded).foldl Database.addMatch []).Perm
      (m.activeMatches correlationKey sources' excluded) := by
    have ids := Memory.incidentIds_nodup mirrors.keyed
    have nodup : (m.activeMatches correlationKey sources' excluded).Nodup :=
      ((List.perm_insertionSort _ _).nodup_iff.mpr (List.Nodup.of_map _ ids)).filter _
    have values : ∀ i ∈ db.collected correlationKey sources excluded, i ∈ m.incidents.values :=
      fun i member => (Memory.mem_activeMatches.mp ((mirrors.mem_collected same).mp member)).1
    have collects : (((db.collected correlationKey sources excluded).foldl
        Database.addMatch []).map (·.incidentId)).Nodup := foldl_addMatch_nodup (by simp)
    refine (List.perm_ext_iff_of_nodup (List.Nodup.of_map _ collects) nodup).mpr fun i => ?_
    rw [← mirrors.mem_collected same]
    refine ⟨fun member => (Database.mem_foldl_addMatch member).elim nofun id, fun member => ?_⟩
    refine (mem_foldl_addMatch fun j inside equal => ?_).mpr (.inr member)
    exact mirrors.unique (values j (inside.elim nofun id)) (values i member) equal
  rw [findActiveLocked_eq readable]
  unfold Memory.findActiveLocked
  refine Lockstep.bind (R := fun _ _ => True) (S := Eq)
    (Lockstep.require (by rw [perm.length_eq]) rfl) fun _ _ _ single _ => ?_
  rw [head?_of_perm perm (Checks.require_ok.mp single)]
  exact .ok rfl

theorem Mirrors.requireReactivationKeys (mirrors : Mirrors d m db) (current successor : Incident) :
    Alike (db.requireReactivationKeys d current successor)
      (m.requireReactivationKeys current successor) := by
  have same : ∀ s, s ∈ db.associatedSourceIds successor.incidentId.text ↔
      s ∈ m.associatedSourceIds successor.incidentId.text := fun s => by
    rw [mem_associatedSourceIds, Memory.mem_associatedSourceIds, mirrors.sourceEvents.mem]
  unfold Database.requireReactivationKeys Memory.requireReactivationKeys
  split
  · exact .ok rfl
  · refine (mirrors.findActiveLocked _ same _ _).bind fun found _ same _ _ => ?_
    cases same
    cases found with
    | some active => exact .error rfl
    | none => exact .ok rfl

/-! Registration of source events. -/

theorem dedup_length_of_same {xs ys : List String} (same : ∀ s, s ∈ xs ↔ s ∈ ys) :
    xs.dedup.length = ys.dedup.length := by
  refine ((List.perm_ext_iff_of_nodup (List.nodup_dedup _) (List.nodup_dedup _)).mpr ?_).length_eq
  simpa using same

/-- The rows of source events for one incident, in any order. -/
def LinkRows {V : Type} (incidentId : String) (value : Identifier → V) (ids : List Identifier)
    (rows : List ((String × String) × V)) : Prop :=
  ∀ k v, (k, v) ∈ rows ↔ ∃ s ∈ ids, k = (incidentId, s.text) ∧ v = value s

theorem LinkRows.functional {V : Type} {incidentId : String} {value : Identifier → V}
    {ids : List Identifier} {rows : List ((String × String) × V)}
    (links : LinkRows incidentId value ids rows) : ∀ r ∈ rows, ∀ r' ∈ rows, r.1 = r'.1 → r = r' := by
  rintro ⟨k, v⟩ first ⟨k', v'⟩ second same
  obtain ⟨s, _, rfl, rfl⟩ := (links k v).mp first
  obtain ⟨s', _, rfl, rfl⟩ := (links k' v').mp second
  have text : s.text = s'.text := congrArg Prod.snd same
  rw [Text.Bounded.ext text]

theorem foldl_insertSourceRow_eq (incidentId : String) (row : SourceRow) (ids : List String)
    (db : Database) (own : ∀ s ∈ ids, ∀ owner, (owner, s) ∈ db.sourceEvents → owner = incidentId) :
    ids.foldl (Database.insertSourceRow incidentId row) db = { db with
      sourceEvents := Table.addMissing db.sourceEvents (ids.map fun s => ((incidentId, s), row)) } := by
  induction ids generalizing db with
  | nil => rfl
  | cons s rest ih =>
    have unowned : db.owners s = [] ↔ (incidentId, s) ∉ db.sourceEvents := by
      constructor
      · intro none member
        have owner := mem_owners.mpr member
        rw [none] at owner
        cases owner
      · intro absent
        refine List.eq_nil_iff_forall_not_mem.mpr fun owner member => ?_
        have known := mem_owners.mp member
        rw [own s List.mem_cons_self owner known] at known
        exact absent known
    rw [List.foldl_cons, Database.insertSourceRow, List.map_cons, Table.addMissing, List.foldl_cons,
      ← Table.addMissing]
    by_cases present : (incidentId, s) ∈ db.sourceEvents
    · rw [if_neg fun none => unowned.mp none present, if_pos present]
      exact ih db fun s' member => own s' (List.mem_cons_of_mem _ member)
    · rw [if_pos (unowned.mpr present), if_neg present]
      refine ih _ fun s' member owner known => ?_
      rcases (AList.mem_insert _).mp known with same | before
      · exact congrArg Prod.fst same
      · exact own s' (List.mem_cons_of_mem _ member) owner before

theorem addAssociations_eq {h : Host} {incidentId : Identifier} {t : Instant} {w : WriteMetadata}
    {a : Attribution} (clean : w.Clean h) (parsed : w.attribution = some a)
    (incident : labeledIdentifier h incidentId.text = false) {sources : List Identifier}
    (texts : ∀ s ∈ sources, labeledIdentifier h s.text = false) (m : Memory) :
    Memory.addAssociations h incidentId t w sources m = (.ok (), { m with
      sourceEvents := Table.addMissing m.sourceEvents
        (sources.map fun s => ((incidentId.text, s.text), .build incidentId s t a)) }) := by
  induction sources generalizing m with
  | nil => rfl
  | cons s rest ih =>
    have tail := fun m => ih (fun s' member => texts s' (List.mem_cons_of_mem _ member)) m
    rw [List.map_cons, Table.addMissing, List.foldl_cons, ← Table.addMissing]
    by_cases present : (incidentId.text, s.text) ∈ m.sourceEvents
    · rw [Memory.addAssociations, if_pos present, if_pos present]
      exact tail m
    · have accepted := assertSafe_of_safe incidentId.text (association_safe (t := t) clean parsed
        incident (texts s List.mem_cons_self))
      simp only [Memory.addAssociations, if_neg present, parsed, accepted]
      exact tail _

theorem addAssociations_present {h : Host} {incidentId : Identifier} {t : Instant}
    {w : WriteMetadata} {sources : List Identifier} {m : Memory}
    (present : ∀ s ∈ sources, (incidentId.text, s.text) ∈ m.sourceEvents) :
    Memory.addAssociations h incidentId t w sources m = (.ok (), m) := by
  induction sources with
  | nil => rfl
  | cons s rest ih =>
    rw [Memory.addAssociations, if_pos (present s List.mem_cons_self)]
    exact ih fun s' member => present s' (List.mem_cons_of_mem _ member)

theorem requireValue_alike {condition condition' : Prop} [Decidable condition]
    [Decidable condition'] (same : condition ↔ condition') (text : String) :
    Lockstep SameClass (fun _ _ => True) (lift (requireValue condition text))
      (requireValue condition' text) := by
  unfold requireValue Checks.require
  by_cases holds : condition
  · rw [if_pos holds, if_pos (same.mp holds)]
    exact .ok trivial
  · rw [if_neg holds, if_neg fun other => holds (same.mpr other)]
    exact .error rfl

def Database.requireRegistrable (db : Database) (incidentId : Identifier)
    (sourceIds : List Identifier) : Except Fault Unit := do
  lift (requireValue ((db.associatedSourceIds incidentId.text ++
    sourceIds.map (·.text)).dedup.length ≤ maxIncidentSourceEvents) Memory.capacityText)
  Checks.each (fun s => Checks.each (fun owner => Checks.require (owner = incidentId.text)
    (.repository (.ownershipConflict s owner incidentId.text))) (db.owners s))
    (Database.sortedTexts sourceIds)

theorem insertSourceEvents_eq (incidentId : Identifier) (sourceIds : List Identifier)
    (registeredAt : Instant) (w : WriteMetadata) :
    db.insertSourceEvents incidentId sourceIds registeredAt w =
      db.requireRegistrable incidentId sourceIds >>= fun _ =>
        .ok ((Database.sortedTexts sourceIds).foldl
          (Database.insertSourceRow incidentId.text ⟨registeredAt, w⟩) db) := by
  unfold Database.insertSourceEvents Database.requireRegistrable
  rw [bind_assoc]
  rfl

theorem requireRegistrable_lockstep (mirror : SourcesMirror d m.sourceEvents db.sourceEvents)
    (owned : m.Owned) (incidentId : Identifier)
    (sourceIds : List Identifier) :
    Lockstep SameClass (fun _ _ => ∀ s ∈ sourceIds, m.OwnedOnlyBy incidentId.text s.text)
      (db.requireRegistrable incidentId sourceIds) (m.requireRegistrable incidentId sourceIds) := by
  have listed : ∀ s, s ∈ db.associatedSourceIds incidentId.text ++ sourceIds.map (·.text) ↔
      s ∈ m.associatedSourceIds incidentId.text ++ sourceIds.map (·.text) := fun s => by
    rw [List.mem_append, List.mem_append, mem_associatedSourceIds, Memory.mem_associatedSourceIds,
      mirror.mem]
  unfold Database.requireRegistrable Memory.requireRegistrable
  refine (requireValue_alike (by rw [dedup_length_of_same listed]) _).bind fun _ _ _ _ _ => ?_
  have owner := fun s => Memory.sourceEventOwner_ok owned s
  refine .of_ok_iff (K := fun e => e.errorClass = .ownershipConflict)
    (P := fun e => e.errorClass = .ownershipConflict) (fun _ passed => ?_) (fun _ passed => ?_)
    (Checks.failsWith_each fun s _ => Checks.failsWith_each fun _ _ => Checks.failsWith_require rfl)
    (Checks.failsWith_each fun s _ => ?_) fun e e' first second => first.trans second.symm
  · have own : ∀ s ∈ sourceIds, m.OwnedOnlyBy incidentId.text s.text := by
      intro s member a linked
      have checked := Checks.each_ok.mp passed s.text
        (Database.mem_sortedTexts.mpr (List.mem_map_of_mem member))
      exact Checks.require_ok.mp (Checks.each_ok.mp checked a
        (mem_owners.mpr (mirror.mem.mp linked)))
    refine ⟨(), Checks.each_ok.mpr fun s member => ?_, own⟩
    refine Checks.bind_ok.mpr ⟨_, owner s.text, Checks.require_ok.mpr fun o head => ?_⟩
    exact own s (Memory.mem_sortedSources.mp member) o
      (Memory.mem_owners.mp (List.mem_of_mem_head? head))
  · refine ⟨(), Checks.each_ok.mpr fun text member => Checks.each_ok.mpr fun o known => ?_⟩
    obtain ⟨s, inside, rfl⟩ := List.mem_map.mp (Database.mem_sortedTexts.mp member)
    obtain ⟨found, looked, own⟩ := Checks.bind_ok.mp
      (Checks.each_ok.mp passed s (Memory.mem_sortedSources.mpr inside))
    exact Checks.require_ok.mpr (Memory.ownedOnlyBy_of_owner looked (Checks.require_ok.mp own) o
      (mirror.mem.mpr (mem_owners.mp known)))
  · rw [owner]
    exact Checks.failsWith_bind (Checks.failsWith_ok _) fun _ => Checks.failsWith_require rfl

theorem SourcesMirror.linked (mirror : SourcesMirror d m.sourceEvents db.sourceEvents) {incidentId : Identifier}
    {sourceIds : List Identifier} {now : Instant} {w : WriteMetadata} {a : Attribution}
    (clean : w.Clean d.toHost) (parsed : w.attribution = some a)
    (incident : labeledIdentifier d.toHost incidentId.text = false)
    (texts : ∀ s ∈ sourceIds, labeledIdentifier d.toHost s.text = false)
    {rows : List ((String × String) × SourceEventAssociation)}
    {rows' : List ((String × String) × SourceRow)}
    (links : LinkRows incidentId.text (fun s => .build incidentId s now a) sourceIds rows)
    (links' : LinkRows incidentId.text (fun _ => ⟨now, w⟩) sourceIds rows') :
    SourcesMirror d (Table.addMissing m.sourceEvents rows)
      (Table.addMissing db.sourceEvents rows') := by
  intro k
  have left := fun v => @Table.lookup_addMissing _ _ _ m.sourceEvents _ links.functional k v
  have right := fun v => @Table.lookup_addMissing _ _ _ db.sourceEvents _ links'.functional k v
  simp only [links k, links' k] at left right
  rcases mirror k with ⟨absent, absent'⟩ | ⟨b, row, stored, stored', same⟩
  · have free : k ∉ m.sourceEvents := AList.lookup_eq_none.mp absent
    have free' : k ∉ db.sourceEvents := AList.lookup_eq_none.mp absent'
    by_cases named : ∃ s ∈ sourceIds, k = (incidentId.text, s.text)
    · obtain ⟨s, inside, rfl⟩ := named
      exact .inr ⟨_, _, (left _).mpr (.inr ⟨free, s, inside, rfl, rfl⟩),
        (right _).mpr (.inr ⟨free', s, inside, rfl, rfl⟩),
        parseAssociation_build clean parsed incident (texts s inside), rfl⟩
    · refine .inl ⟨Option.eq_none_iff_forall_ne_some.mpr fun v stored => ?_,
        Option.eq_none_iff_forall_ne_some.mpr fun v stored => ?_⟩
      · rcases (left v).mp stored with before | ⟨_, s, inside, same, _⟩
        · exact nomatch absent.symm.trans before
        · exact named ⟨s, inside, same⟩
      · rcases (right v).mp stored with before | ⟨_, s, inside, same, _⟩
        · exact nomatch absent'.symm.trans before
        · exact named ⟨s, inside, same⟩
  · exact .inr ⟨b, row, (left b).mpr (.inl stored), (right row).mpr (.inl stored'), same⟩

/-- What a registration leaves on both sides. -/
inductive Registers (d : Driver) (m : Memory) (db : Database) :
    Except Fault Database → Except RepositoryError Unit × Memory → Prop
  | refused {e : Fault} {e' : RepositoryError} (same : SameClass e e') :
      Registers d m db (.error e) (.error e', m)
  | done {t : Table (String × String) SourceEventAssociation} {t' : Table (String × String) SourceRow}
      (mirror : SourcesMirror d t t') :
      Registers d m db (.ok { db with sourceEvents := t' }) (.ok (), { m with sourceEvents := t })

theorem registers (mirror : SourcesMirror d m.sourceEvents db.sourceEvents)
    (owned : m.Owned) {incidentId : Identifier}
    {sourceIds : List Identifier} (now : Instant) {w : WriteMetadata} (clean : w.Clean d.toHost)
    (incident : labeledIdentifier d.toHost incidentId.text = false)
    (texts : ∀ s ∈ sourceIds, labeledIdentifier d.toHost s.text = false)
    (attributed : (∃ db', db.insertSourceEvents incidentId sourceIds now w = .ok db') →
      (∃ s ∈ sourceIds, db.owners s.text = []) → w.attribution.isSome) :
    Registers d m db (db.insertSourceEvents incidentId sourceIds now w)
      (m.registerSourceEvents d.toHost incidentId sourceIds now w) := by
  rw [insertSourceEvents_eq]
  unfold Memory.registerSourceEvents
  have checks := requireRegistrable_lockstep mirror owned incidentId sourceIds
  cases left : db.requireRegistrable incidentId sourceIds with
  | error e =>
    rw [left] at checks
    cases right : m.requireRegistrable incidentId sourceIds with
    | ok _ => rw [right] at checks; cases checks
    | error e' =>
      rw [right] at checks
      cases checks with
      | error same => exact .refused same
  | ok u =>
    rw [left] at checks
    cases right : m.requireRegistrable incidentId sourceIds with
    | error _ => rw [right] at checks; cases checks
    | ok u' =>
      rw [right] at checks
      cases checks with
      | ok own =>
        have solely : ∀ s ∈ Database.sortedTexts sourceIds, ∀ owner,
            (owner, s) ∈ db.sourceEvents → owner = incidentId.text := by
          intro text member owner known
          obtain ⟨s, inside, rfl⟩ := List.mem_map.mp (Database.mem_sortedTexts.mp member)
          exact own s inside owner (mirror.mem.mpr known)
        have folded := foldl_insertSourceRow_eq incidentId.text ⟨now, w⟩
          (Database.sortedTexts sourceIds) db solely
        have registered : ∃ db', db.insertSourceEvents incidentId sourceIds now w = .ok db' :=
          ⟨_, by rw [insertSourceEvents_eq, left]; rfl⟩
        simp only [Bind.bind, Except.bind, folded]
        cases parsed : w.attribution with
        | some a =>
          rw [addAssociations_eq clean parsed incident fun s member =>
            texts s (Memory.mem_sortedSources.mp member)]
          have links : LinkRows incidentId.text
              (fun s => SourceEventAssociation.build incidentId s now a) sourceIds
              ((Memory.sortedSources sourceIds).map fun s =>
                ((incidentId.text, s.text), .build incidentId s now a)) := fun k v => by
            simp [Memory.mem_sortedSources, eq_comm]
          have links' : LinkRows incidentId.text (fun _ => (⟨now, w⟩ : SourceRow)) sourceIds
              ((Database.sortedTexts sourceIds).map fun s => ((incidentId.text, s), ⟨now, w⟩)) :=
            fun k v => by simp [Database.mem_sortedTexts, eq_comm]
          exact .done (mirror.linked clean parsed incident texts links links')
        | none =>
          -- Every source event has its owner already.
          have present : ∀ s ∈ sourceIds, (incidentId.text, s.text) ∈ db.sourceEvents := by
            intro s inside
            cases owners : db.owners s.text with
            | nil =>
              have known := attributed registered ⟨s, inside, owners⟩
              rw [parsed] at known
              cases known
            | cons owner _ =>
              have known : (owner, s.text) ∈ db.sourceEvents := mem_owners.mp (by simp [owners])
              rw [own s inside owner (mirror.mem.mpr known)] at known
              exact known
          rw [addAssociations_present fun s member =>
            mirror.mem.mpr (present s (Memory.mem_sortedSources.mp member)),
            Table.addMissing_of_mem]
          · exact .done mirror
          · intro r member
            obtain ⟨text, listed, rfl⟩ := List.mem_map.mp member
            obtain ⟨s, inside, rfl⟩ := List.mem_map.mp (Database.mem_sortedTexts.mp listed)
            exact present s inside

/-! Reads. -/

theorem appendBounded_alike {R A : Type} {h : Host} {parse : R → Except Fault A} {image : A → Json}
    {rows : List R} {values : List A} (parsed : List.Forall₂ (fun r a => parse r = .ok a) rows values)
    (size : Nat) :
    Alike (Database.appendBounded h parse image size rows) (boundedPage h image size values) := by
  induction parsed generalizing size with
  | nil => exact .ok rfl
  | @cons r a rest values first _ ih =>
    simp only [Database.appendBounded, boundedPage, first]
    refine Lockstep.bind (R := Eq) (assertSafe_sameErrors h _ _).alike fun bytes _ same _ _ => ?_
    cases same
    refine Lockstep.bind (R := fun _ _ => True) (Lockstep.require Iff.rfl rfl) fun _ _ _ _ _ => ?_
    refine Lockstep.bind (R := Eq) (ih _) fun page _ same _ _ => ?_
    cases same
    exact .ok rfl

theorem Mirrors.get (mirrors : Mirrors d m db) {incidentId : String}
    (named : requireNonEmpty "incident_id" incidentId 256 = .ok ()) :
    Alike (db.get d incidentId) (.ok (m.get incidentId)) := by
  unfold Database.get
  rw [lift_ok.mpr named, mirrors.getLocked]
  exact .ok rfl

theorem Mirrors.findByIdempotencyKey (mirrors : Mirrors d m db)
    (incidentId idempotencyKey operation : String) :
    Alike (db.findByIdempotencyKey d incidentId idempotencyKey operation)
      (m.findByIdempotencyKey incidentId idempotencyKey operation) := by
  refine Lockstep.bind (R := Eq) (alike_lift _) fun scope _ same _ _ => ?_
  cases same
  rw [mirrors.idempotency scope]
  cases stored : db.idempotency.lookup scope with
  | none => exact .ok rfl
  | some row =>
    have parsed := parseIncident_ok.mpr ⟨rfl, mirrors.closed.idempotency scope row stored⟩
    simp only [parsed]
    exact .ok rfl

theorem Mirrors.findActive (mirrors : Mirrors d m db) (correlationKey sourceEventId : Option String) :
    Alike (db.findActive d correlationKey sourceEventId)
      (m.findActive correlationKey sourceEventId) :=
  Lockstep.bind (R := Eq) (alike_lift _) fun _ _ _ _ _ =>
    mirrors.findActiveLocked _ (fun _ => Iff.rfl) _ _

theorem Mirrors.history_alike (mirrors : Mirrors d m db) (incidentId : String) (limit : Option Nat)
    (offset : Nat) :
    Alike (db.history d incidentId limit offset)
      (m.historyOf d.toHost incidentId limit offset) := by
  refine Lockstep.bind (R := Eq) (alike_lift _) fun _ _ _ _ _ => ?_
  refine Lockstep.bind (R := Eq) (alike_lift _) fun _ _ _ _ _ => ?_
  refine Lockstep.bind (R := Eq) (alike_lift _) fun _ _ _ _ _ => ?_
  refine Lockstep.bind (R := Eq) (alike_lift _) fun _ _ _ whole _ => ?_
  have rows : ∀ r ∈ db.auditOf incidentId, parseEvent d r.2.payload = .ok r.2.payload := by
    intro r member
    have inside := List.mem_of_mem_filter ((List.mem_insertionSort _).mp member)
    exact parseEvent_ok.mpr ⟨rfl, mirrors.closed.audit r.1 r.2 (Table.mem_rows.mp inside)⟩
  have parsed : ∀ taken : List (String × AuditRow), (∀ r ∈ taken, r ∈ db.auditOf incidentId) →
      List.Forall₂ (fun r a => parseEvent d r.2.payload = .ok a) taken
        (taken.map fun r => r.2.payload) := by
    intro taken inside
    rw [List.forall₂_map_right_iff, List.forall₂_same]
    exact fun r member => rows r (inside r member)
  rw [← mirrors.history incidentId]
  cases limit with
  | none =>
    have start : offset = 0 := (requireValue_ok.mp (lift_ok.mp whole)).resolve_left nofun
    rw [start, List.drop_zero]
    exact appendBounded_alike (parsed _ fun _ member => member) 0
  | some limit =>
    rw [← List.map_drop]
    dsimp only
    rw [← List.map_take]
    exact appendBounded_alike (parsed _ fun _ member => Database.mem_page member) 0

theorem forall₂_of_map_eq {α β γ : Type} {f : α → γ} {g : β → γ} {xs : List α} {ys : List β}
    (same : xs.map f = ys.map g) : List.Forall₂ (fun x y => f x = g y) xs ys := by
  have pairs : List.Forall₂ Eq (xs.map f) (ys.map g) := same ▸ List.forall₂_refl _
  rwa [List.forall₂_map_left_iff, List.forall₂_map_right_iff] at pairs

theorem sourceKeys_sorted {R : Type} (rows : List R) (key : R → String) :
    (rows.insertionSort fun a b => textLe (key a) (key b)).map key =
      (rows.map key).insertionSort fun a b => textLe a b :=
  List.map_insertionSort (fun a b => textLe (key a) (key b)) (fun a b => textLe a b) key rows
    fun _ _ _ _ => Iff.rfl

theorem Mirrors.sources_paired (mirrors : Mirrors d m db) (incidentId : String) :
    List.Forall₂ (fun r a => parseAssociation d r.1.1 r.1.2 r.2 = .ok a)
      ((db.sourceEvents.rows.filter fun r => r.1.1 = incidentId).insertionSort
        fun a b => textLe a.1.2 b.1.2)
      (((m.sourceEvents.rows.filter fun r => r.1.1 = incidentId).map Prod.snd).insertionSort
        fun a b => textLe a.sourceEventId.text b.sourceEventId.text) := by
  have stored : ∀ a ∈ (m.sourceEvents.rows.filter fun r => r.1.1 = incidentId).map Prod.snd,
      m.sourceEvents.lookup (incidentId, a.sourceEventId.text) = some a := by
    intro a member
    obtain ⟨⟨⟨_, s⟩, _⟩, inside, rfl⟩ := List.mem_map.mp member
    obtain ⟨row, own⟩ := List.mem_filter.mp inside
    obtain rfl := of_decide_eq_true own
    have here := Table.mem_rows.mp row
    rcases mirrors.sourceEvents (_, s) with ⟨absent, _⟩ | ⟨b, _, known, _, _, text⟩
    · exact nomatch absent.symm.trans here
    · cases known.symm.trans here
      exact text ▸ here
  have keys : ((m.sourceEvents.rows.filter fun r => r.1.1 = incidentId).map Prod.snd).map
      (fun a => a.sourceEventId.text) = m.associatedSourceIds incidentId := by
    rw [List.map_map]
    refine List.map_congr_left fun r member => ?_
    have here := Table.mem_rows.mp (List.mem_of_mem_filter member)
    rcases mirrors.sourceEvents r.1 with ⟨absent, _⟩ | ⟨b, _, known, _, _, text⟩
    · exact nomatch absent.symm.trans here
    · cases known.symm.trans here
      exact text
  have perm : (db.associatedSourceIds incidentId).Perm (m.associatedSourceIds incidentId) := by
    have nodup : (db.associatedSourceIds incidentId).Nodup :=
      Table.secondKeys_nodup db.sourceEvents incidentId
    refine (List.perm_ext_iff_of_nodup nodup
      (Memory.associatedSourceIds_nodup m incidentId)).mpr fun s => ?_
    rw [mem_associatedSourceIds, Memory.mem_associatedSourceIds, mirrors.sourceEvents.mem]
  have same := Sorting.insertionSort_eq_of_perm textLe_total (fun _ _ _ => textLe_trans)
    (fun _ _ _ _ => textLe_antisymm) perm
  rw [← keys, Database.associatedSourceIds, ← sourceKeys_sorted, ← sourceKeys_sorted] at same
  refine (forall₂_of_map_eq same).imp_mem fun {r a} first second key => ?_
  obtain ⟨row, own⟩ := List.mem_filter.mp ((List.mem_insertionSort _).mp first)
  have here := stored a ((List.mem_insertionSort _).mp second)
  have there := Table.mem_rows.mp row
  have named : r.1 = (incidentId, a.sourceEventId.text) :=
    Prod.ext (of_decide_eq_true own) key
  rw [← named] at here
  rcases mirrors.sourceEvents r.1 with ⟨absent, _⟩ | ⟨b, row', known, known', parsed, _⟩
  · exact nomatch absent.symm.trans here
  · cases known.symm.trans here
    cases known'.symm.trans there
    exact parsed

theorem Mirrors.sourceEventAssociations (mirrors : Mirrors d m db) (incidentId : String)
    (limit offset : Nat) :
    Alike (db.sourceEventAssociations d incidentId limit offset)
      (m.sourceEventAssociations d.toHost incidentId limit offset) := by
  unfold Database.sourceEventAssociations Memory.sourceEventAssociations requirePage
  simp only [bind_assoc]
  refine Lockstep.bind (R := Eq) (alike_lift _) fun _ _ _ _ _ => ?_
  refine Lockstep.bind (R := Eq) (alike_lift _) fun _ _ _ _ _ => ?_
  refine Lockstep.bind (R := Eq) (alike_lift _) fun _ _ _ _ _ => ?_
  refine appendBounded_alike ?_ 0
  exact List.forall₂_take _ (List.forall₂_drop _ (mirrors.sources_paired incidentId))

end

end Local

end NetworkAgent
