import NetworkAgent.Local.Effects

/-! Whether the rows that the DuckDB repository writes pass the parsers that read them. -/
namespace NetworkAgent.Local

/-! The errors of a row that its parser rejects. -/

def IsPersisted : Fault → Prop
  | .persistedSize | .persistedRecord | .persistedAssociation => True
  | _ => False

/-- A parser also raises the policy's own error, as a write does. -/
def IsRejected (e : Fault) : Prop := IsPersisted e ∨ ∃ reason, e = .repository (unsafePayload reason)

def Quiet {α : Type} (x : Except Fault α) : Prop := Checks.FailsWith (fun e => ¬ IsRejected e) x

def Unpersisted {α : Type} (x : Except Fault α) : Prop :=
  Checks.FailsWith (fun e => ¬ IsPersisted e) x

theorem Quiet.unpersisted {α : Type} {x : Except Fault α} (quiet : Quiet x) : Unpersisted x :=
  fun e failed persisted => quiet e failed (.inl persisted)

theorem lift_unpersisted {α : Type} (x : Except RepositoryError α) : Unpersisted (lift x) := by
  cases x with
  | ok a => exact Checks.failsWith_ok a
  | error e => exact Checks.failsWith_error id

theorem not_rejected_repository {e : RepositoryError} (other : ∀ reason, e ≠ unsafePayload reason) :
    ¬ IsRejected (.repository e) := by
  rintro (persisted | ⟨reason, same⟩)
  · exact persisted
  · exact other reason (Fault.repository.inj same)

theorem lift_quiet {α : Type} {x : Except RepositoryError α}
    (other : Checks.FailsWith (fun e => ∀ reason, e ≠ unsafePayload reason) x) : Quiet (lift x) := by
  cases x with
  | ok a => exact Checks.failsWith_ok a
  | error e => exact Checks.failsWith_error (not_rejected_repository (other e rfl))

theorem requireValue_quiet (condition : Prop) [Decidable condition] (text : String) :
    Quiet (lift (requireValue condition text)) :=
  lift_quiet (Checks.failsWith_require fun _ => nofun)

theorem requireNonEmpty_quiet (name value : String) (bound : Nat) :
    Quiet (lift (requireNonEmpty name value bound)) :=
  lift_quiet (Checks.failsWith_bind (Checks.failsWith_require fun _ => nofun)
    fun _ => Checks.failsWith_require fun _ => nofun)

theorem requestScope_quiet (operation incidentId idempotencyKey : String) :
    Quiet (lift (requestScope operation incidentId idempotencyKey)) := by
  have texts : ∀ (name value : String) bound,
      Checks.FailsWith (fun e => ∀ reason, e ≠ unsafePayload reason)
        (requireNonEmpty name value bound) := fun _ _ _ =>
    Checks.failsWith_bind (Checks.failsWith_require fun _ => nofun)
      fun _ => Checks.failsWith_require fun _ => nofun
  exact lift_quiet (Checks.failsWith_bind (texts _ _ _) fun _ =>
    Checks.failsWith_bind (texts _ _ _) fun _ => Checks.failsWith_bind (texts _ _ _) fun _ =>
      Checks.failsWith_ok _)

/-! Rows that pass their parsers. -/

structure ReadableEvent (d : Driver) (e : IncidentAuditEvent) : Prop where
  size : d.textBytes e.toJson ≤ maxContractSerializedBytes
  safe : RepositorySafe d.toHost e.toJson

theorem parseEvent_ok {d : Driver} {payload e : IncidentAuditEvent} :
    parseEvent d payload = .ok e ↔ e = payload ∧ ReadableEvent d payload := by
  simp only [parseEvent, Checks.require_ok, Checks.bind_ok, lift_ok, assertSafe_ok, pure,
    Except.pure, Except.ok.injEq]
  constructor
  · rintro ⟨_, size, _, ⟨safe, _⟩, rfl⟩; exact ⟨rfl, size, safe⟩
  · rintro ⟨rfl, size, safe⟩; exact ⟨(), size, _, ⟨safe, rfl⟩, rfl⟩

structure Closed (d : Driver) (db : Database) : Prop where
  incidents : ∀ k row, db.incidents.lookup k = some row → Readable d row.payload
  sourceEvents : ∀ k row, db.sourceEvents.lookup k = some row →
    ∃ a, parseAssociation d k.1 k.2 row = .ok a ∧ RepositorySafe d.toHost a.toJson
  audit : ∀ k row, db.audit.lookup k = some row → ReadableEvent d row.payload
  idempotency : ∀ scope row, db.idempotency.lookup scope = some row → Readable d row.resultPayload

theorem closed_empty (d : Driver) : Closed d {} := by
  have none : ∀ {K V : Type} [DecidableEq K] {k : K} {v : V},
      (∅ : Table K V).lookup k ≠ some v := by
    intro K V _ k v stored
    rw [AList.lookup_empty] at stored
    cases stored
  exact ⟨fun _ _ stored => absurd stored none, fun _ _ stored => absurd stored none,
    fun _ _ stored => absurd stored none, fun _ _ stored => absurd stored none⟩

namespace Database
variable {d : Driver} {db db' : Database}

/-! What is read from such rows. -/

theorem parse_quiet {i : Incident} (readable : Readable d i) : Quiet (parseIncident d i) := by
  rw [parseIncident_ok.mpr ⟨rfl, readable⟩]
  exact Checks.failsWith_ok i

theorem getLocked_quiet (closed : Closed d db) (incidentId : String) :
    Quiet (db.getLocked d incidentId) := by
  unfold getLocked
  split
  · exact Checks.failsWith_ok _
  · next row stored =>
    rw [parseIncident_ok.mpr ⟨rfl, closed.incidents incidentId row stored⟩]
    exact Checks.failsWith_ok _

theorem requireCurrent_quiet (closed : Closed d db) (incidentId : String) :
    Quiet (db.requireCurrent d incidentId) := by
  refine Checks.failsWith_bind (getLocked_quiet closed incidentId) fun found => ?_
  cases found with
  | none => exact Checks.failsWith_error (not_rejected_repository fun _ => nofun)
  | some current => exact Checks.failsWith_ok current

theorem replay_of_closed (closed : Closed d db) {scope : Scope} {row : IdempotencyRow}
    (stored : db.idempotency.lookup scope = some row) :
    db.replay d scope row.fingerprint = .ok (some row.resultPayload) :=
  replay_ok.mpr (.inr ⟨row, stored, rfl, closed.idempotency scope row stored, rfl⟩)

theorem replay_quiet (closed : Closed d db) (scope : Scope) (fp : Sha256.Digest) :
    Quiet (db.replay d scope fp) := by
  unfold replay
  split
  · exact Checks.failsWith_ok _
  · next row stored =>
    refine Checks.failsWith_bind
      (Checks.failsWith_require (not_rejected_repository fun _ => nofun)) fun _ => ?_
    exact Checks.failsWith_bind (parse_quiet (closed.idempotency scope row stored))
      fun _ => Checks.failsWith_ok _

theorem mapM_parse_quiet {rows : List (String × Incident)}
    (readable : ∀ r ∈ rows, Readable d r.2) : Quiet (rows.mapM fun r => parseIncident d r.2) := by
  induction rows with
  | nil => exact Checks.failsWith_ok _
  | cons r rest ih =>
    rw [List.mapM_cons]
    exact Checks.failsWith_bind (parse_quiet (readable r List.mem_cons_self)) fun _ =>
      Checks.failsWith_bind (ih fun r member => readable r (List.mem_cons_of_mem _ member))
        fun _ => Checks.failsWith_ok _

theorem findActiveLocked_quiet (closed : Closed d db) (correlationKey : Option String)
    (sourceIds : List String) (excluded : Option String) (requestedId : String) :
    Quiet (db.findActiveLocked d correlationKey sourceIds excluded requestedId) := by
  have readable : ∀ r ∈ db.payloads, Readable d r.2 := by
    intro r member
    obtain ⟨row, stored, same⟩ := mem_payloads.mp member
    exact same ▸ closed.incidents r.1 row stored
  refine Checks.failsWith_bind (mapM_parse_quiet fun r member =>
    readable r (List.mem_of_mem_filter member)) fun joined => ?_
  refine Checks.failsWith_bind (mapM_parse_quiet readable) fun all => ?_
  exact Checks.failsWith_bind (Checks.failsWith_require (not_rejected_repository fun _ => nofun))
    fun _ => Checks.failsWith_ok _

theorem appendBounded_quiet {R A : Type} {h : Host} {parse : R → Except Fault A} {image : A → Json}
    {rows : List R} (parses : ∀ row ∈ rows, ∃ a, parse row = .ok a ∧ RepositorySafe h (image a))
    (size : Nat) : Quiet (appendBounded h parse image size rows) := by
  induction rows generalizing size with
  | nil => exact Checks.failsWith_ok _
  | cons row rest ih =>
    obtain ⟨a, parsed, safe⟩ := parses row List.mem_cons_self
    have bounded : lift (assertSafe h (image a)) = .ok (serializedBytes h (image a)) :=
      lift_ok.mpr (assertSafe_ok.mpr ⟨safe, rfl⟩)
    have batch : ¬ IsRejected (.repository (.unsafeWrite "<repository-page>" .batch)) :=
      not_rejected_repository fun reason same => by
        simp [unsafePayload] at same
    simp only [appendBounded, parsed, bounded, Bind.bind, Except.bind]
    exact Checks.failsWith_bind (Checks.failsWith_require batch) fun _ =>
      Checks.failsWith_bind (ih (fun r member => parses r (List.mem_cons_of_mem _ member)) _)
        fun _ => Checks.failsWith_ok _

theorem mem_page {R : Type} {limit : Option Nat} {offset : Nat} {rows : List R} {row : R}
    (member : row ∈ page limit offset rows) : row ∈ rows := by
  cases limit with
  | none => exact member
  | some n => exact List.mem_of_mem_drop (List.mem_of_mem_take member)

theorem history_quiet (closed : Closed d db) (incidentId : String) (limit : Option Nat)
    (offset : Nat) : Quiet (db.history d incidentId limit offset) := by
  refine Checks.failsWith_bind (requireNonEmpty_quiet _ _ _) fun _ => ?_
  refine Checks.failsWith_bind (requireValue_quiet _ _) fun _ => ?_
  refine Checks.failsWith_bind (requireValue_quiet _ _) fun _ => ?_
  refine Checks.failsWith_bind (requireValue_quiet _ _) fun _ => ?_
  refine appendBounded_quiet (fun r member => ?_) 0
  have inside := List.mem_of_mem_filter ((List.mem_insertionSort _).mp (mem_page member))
  have readable := closed.audit r.1 r.2 (Table.mem_rows.mp inside)
  exact ⟨_, parseEvent_ok.mpr ⟨rfl, readable⟩, readable.safe⟩

theorem sourceEventAssociations_quiet (closed : Closed d db) (incidentId : String)
    (limit offset : Nat) : Quiet (db.sourceEventAssociations d incidentId limit offset) := by
  refine Checks.failsWith_bind (requireNonEmpty_quiet _ _ _) fun _ => ?_
  refine Checks.failsWith_bind (requireValue_quiet _ _) fun _ => ?_
  refine Checks.failsWith_bind (requireValue_quiet _ _) fun _ => ?_
  refine appendBounded_quiet (fun r member => ?_) 0
  have inside := List.mem_of_mem_filter ((List.mem_insertionSort _).mp (mem_page member))
  exact closed.sourceEvents r.1 r.2 (Table.mem_rows.mp inside)

theorem read_quiet (closed : Closed d db) (q : Read) : Quiet (db.read d q) := by
  cases q with
  | get incidentId =>
    exact Checks.failsWith_bind (requireNonEmpty_quiet _ _ _) fun _ => getLocked_quiet closed incidentId
  | findByIdempotencyKey incidentId idempotencyKey operation =>
    refine Checks.failsWith_bind (requestScope_quiet _ _ _) fun scope => ?_
    split
    · exact Checks.failsWith_ok _
    · next row stored =>
      exact Checks.failsWith_bind (parse_quiet (closed.idempotency scope row stored))
        fun _ => Checks.failsWith_ok _
  | findActive correlationKey sourceEventId =>
    exact Checks.failsWith_bind (requireValue_quiet _ _) fun _ =>
      findActiveLocked_quiet closed _ _ _ _
  | history incidentId limit offset => exact history_quiet closed incidentId limit offset
  | sourceEventAssociations incidentId limit offset =>
    exact sourceEventAssociations_quiet closed incidentId limit offset

/-! What a write raises over such rows. -/

theorem updateIncident_unpersisted (current successor : Incident) :
    Unpersisted (db.updateIncident current successor) := by
  refine Checks.failsWith_bind (Checks.failsWith_require id) fun _ => ?_
  dsimp only
  split
  · exact Checks.failsWith_error id
  · exact Checks.failsWith_bind (Checks.failsWith_require id) fun _ => Checks.failsWith_ok _

theorem insertSourceEvents_unpersisted (incidentId : Identifier) (sourceIds : List Identifier)
    (registeredAt : Instant) (w : WriteMetadata) :
    Unpersisted (db.insertSourceEvents incidentId sourceIds registeredAt w) :=
  Checks.failsWith_bind (lift_unpersisted _) fun _ =>
    Checks.failsWith_bind (Checks.failsWith_each fun _ _ => Checks.failsWith_each fun _ _ =>
      Checks.failsWith_require id) fun _ => Checks.failsWith_ok _

theorem insertAudit_unpersisted (e : IncidentAuditEvent) : Unpersisted (db.insertAudit e) :=
  Checks.failsWith_bind (Checks.failsWith_require id) fun _ => Checks.failsWith_ok _

theorem insertIdempotency_unpersisted (scope : Scope) (fp : Sha256.Digest) (i : Incident) :
    Unpersisted (db.insertIdempotency scope fp i) :=
  Checks.failsWith_bind (Checks.failsWith_require id) fun _ => Checks.failsWith_ok _

theorem commitCreate_unpersisted (h : Host) (r : Memory.Request) (i : Incident) (now : Instant) :
    Unpersisted (db.commitCreate h r i now) :=
  Checks.failsWith_bind (lift_unpersisted _) fun _ =>
    Checks.failsWith_bind (Checks.failsWith_bind (Checks.failsWith_require id)
      fun _ => Checks.failsWith_ok _) fun _ =>
    Checks.failsWith_bind (insertSourceEvents_unpersisted _ _ _ _) fun _ =>
    Checks.failsWith_bind (insertAudit_unpersisted _) fun _ => insertIdempotency_unpersisted _ _ _

theorem commitTransition_unpersisted (h : Host) (r : Memory.Request) (current successor : Incident)
    (now : Instant) : Unpersisted (db.commitTransition h r current successor now) :=
  Checks.failsWith_bind (lift_unpersisted _) fun _ =>
    Checks.failsWith_bind (updateIncident_unpersisted _ _) fun _ =>
    Checks.failsWith_bind (insertSourceEvents_unpersisted _ _ _ _) fun _ =>
    Checks.failsWith_bind (insertAudit_unpersisted _) fun _ => insertIdempotency_unpersisted _ _ _

theorem commitCorrelation_unpersisted (r : Memory.Request) (existing : Incident)
    (sourceIds : List Identifier) (now : Instant) :
    Unpersisted (db.commitCorrelation r existing sourceIds now) :=
  Checks.failsWith_bind (insertSourceEvents_unpersisted _ _ _ _)
    fun _ => insertIdempotency_unpersisted _ _ _

theorem requireReactivationKeys_unpersisted (closed : Closed d db) (current successor : Incident) :
    Unpersisted (db.requireReactivationKeys d current successor) := by
  unfold requireReactivationKeys
  split
  · exact Checks.failsWith_ok ()
  · refine Checks.failsWith_bind (findActiveLocked_quiet closed _ _ _ _).unpersisted fun found => ?_
    cases found with
    | some active => exact Checks.failsWith_error id
    | none => exact Checks.failsWith_ok ()

theorem createNew_unpersisted (closed : Closed d db) (i : Incident) (w : WriteMetadata)
    (now : Instant) (r : Memory.Request) : Unpersisted (db.createNew d i w now r) := by
  refine Checks.failsWith_bind (getLocked_quiet closed _).unpersisted fun found => ?_
  cases found with
  | some _ => exact Checks.failsWith_error id
  | none =>
    refine Checks.failsWith_bind (lift_unpersisted _) fun committed => ?_
    refine Checks.failsWith_bind (findActiveLocked_quiet closed _ _ _ _).unpersisted fun active => ?_
    cases active with
    | some _ => exact Checks.failsWith_error id
    | none =>
      exact Checks.failsWith_bind (commitCreate_unpersisted _ _ _ _) fun _ => Checks.failsWith_ok _

theorem createOrCorrelateNew_unpersisted (closed : Closed d db) (i : Incident) (w : WriteMetadata)
    (now : Instant) (r : Memory.Request) : Unpersisted (db.createOrCorrelateNew d i w now r) := by
  refine Checks.failsWith_bind (lift_unpersisted _) fun candidate => ?_
  refine Checks.failsWith_bind (findActiveLocked_quiet closed _ _ _ _).unpersisted fun active => ?_
  cases active with
  | some _ =>
    exact Checks.failsWith_bind (commitCorrelation_unpersisted _ _ _ _) fun _ => Checks.failsWith_ok _
  | none =>
    refine Checks.failsWith_bind (getLocked_quiet closed _).unpersisted fun found => ?_
    cases found with
    | some _ => exact Checks.failsWith_error id
    | none =>
      exact Checks.failsWith_bind (commitCreate_unpersisted _ _ _ _) fun _ => Checks.failsWith_ok _

theorem saveNew_unpersisted (closed : Closed d db) (i : Incident) (expected : Int)
    (w : WriteMetadata) (now : Instant) (r : Memory.Request) :
    Unpersisted (db.saveNew d i expected w now r) := by
  refine Checks.failsWith_bind (requireCurrent_quiet closed _).unpersisted fun current => ?_
  refine Checks.failsWith_bind (Checks.failsWith_require id) fun _ => ?_
  refine Checks.failsWith_bind (lift_unpersisted _) fun _ => ?_
  refine Checks.failsWith_bind (lift_unpersisted _) fun _ => ?_
  refine Checks.failsWith_bind (lift_unpersisted _) fun _ => ?_
  refine Checks.failsWith_bind (lift_unpersisted _) fun successor => ?_
  refine Checks.failsWith_bind (Checks.failsWith_require id) fun _ => ?_
  refine Checks.failsWith_bind (lift_unpersisted _) fun _ => ?_
  refine Checks.failsWith_bind (requireReactivationKeys_unpersisted closed _ _) fun _ => ?_
  exact Checks.failsWith_bind (commitTransition_unpersisted _ _ _ _ _) fun _ => Checks.failsWith_ok _

theorem transitionNew_unpersisted (closed : Closed d db) (incidentId : String)
    (target : IncidentStatus) (expected : Int) (w : WriteMetadata) (u : Updates) (now : Instant)
    (r : Memory.Request) :
    Unpersisted (db.transitionNew d incidentId target expected w u now r) := by
  refine Checks.failsWith_bind (requireCurrent_quiet closed _).unpersisted fun current => ?_
  refine Checks.failsWith_bind (Checks.failsWith_require id) fun _ => ?_
  refine Checks.failsWith_bind (lift_unpersisted _) fun _ => ?_
  refine Checks.failsWith_bind (lift_unpersisted _) fun successor => ?_
  refine Checks.failsWith_bind (lift_unpersisted _) fun _ => ?_
  refine Checks.failsWith_bind (requireReactivationKeys_unpersisted closed _ _) fun _ => ?_
  exact Checks.failsWith_bind (commitTransition_unpersisted _ _ _ _ _) fun _ => Checks.failsWith_ok _

theorem perform_unpersisted (closed : Closed d db) (now : Instant) (call : Write) :
    Unpersisted (db.perform d now call) := by
  rw [perform_eq]
  refine Checks.failsWith_bind (lift_unpersisted _) fun r => ?_
  refine Checks.failsWith_bind (replay_quiet closed _ _).unpersisted fun found => ?_
  cases found with
  | some result => exact Checks.failsWith_ok _
  | none =>
    cases call with
    | create i w => exact createNew_unpersisted closed i w now r
    | createOrCorrelate i w => exact createOrCorrelateNew_unpersisted closed i w now r
    | save i expected w => exact saveNew_unpersisted closed i expected w now r
    | transition incidentId target expected w u depth =>
      exact transitionNew_unpersisted closed incidentId target expected w u now r

end Database

/-! What a write leaves. -/

theorem parse_of_requireNonEmpty {name value : String} {bound : Nat} {u : Unit}
    (passed : requireNonEmpty name value bound = .ok u) :
    (Text.Bounded.parse isWhiteSpace bound value).isSome := by
  simp only [requireNonEmpty, Checks.seq_ok, requireValue_ok] at passed
  obtain ⟨filled, short⟩ := passed
  refine Text.Bounded.parse_isSome.mpr
    ⟨fun empty => ?_, Nat.le_trans (Text.trim_length_le _ _) short⟩
  have blank : strip value = "" := Text.trim_eq_empty.mpr fun c member =>
    isSpace_of_isWhiteSpace c (Text.trim_eq_empty.mp empty c member)
  simp [isBlank, blank] at filled

structure Accepted (h : Host) (w : WriteMetadata) : Prop where
  clean : w.Clean h
  attributed : (NonEmptyStr.parse w.reason).isSome → w.attribution.isSome

theorem accepted_of_requireMetadata {h : Host} {w : WriteMetadata} {u : Unit}
    (passed : requireMetadata h w = .ok u) : Accepted h w := by
  obtain ⟨key, passed⟩ := Checks.seq_ok.mp passed
  obtain ⟨actor, passed⟩ := Checks.seq_ok.mp passed
  obtain ⟨reason, passed⟩ := Checks.seq_ok.mp passed
  obtain ⟨trace, passed⟩ := Checks.seq_ok.mp passed
  obtain ⟨_, safe, _⟩ := Checks.bind_ok.mp passed
  have safe := (assertSafe_ok.mp safe).1
  refine ⟨⟨clean_of_safe safe "idempotency_key" (by decide) (by simp),
    clean_of_safe safe "actor" (by decide) (by simp [WriteMetadata.fields]),
    clean_of_safe safe "reason" (by decide) (by simp [WriteMetadata.fields]),
    clean_of_safe safe "trace_id" (by decide) (by simp [WriteMetadata.fields])⟩, ?_⟩
  intro short
  obtain ⟨key, keyed⟩ := Option.isSome_iff_exists.mp (parse_of_requireNonEmpty key)
  obtain ⟨actor, acted⟩ := Option.isSome_iff_exists.mp (parse_of_requireNonEmpty actor)
  obtain ⟨trace, traced⟩ := Option.isSome_iff_exists.mp (parse_of_requireNonEmpty trace)
  obtain ⟨reason, reasoned⟩ := Option.isSome_iff_exists.mp short
  have attributed : w.attribution = some ⟨key, actor, reason, trace⟩ :=
    WriteMetadata.attribution_eq_some.mpr ⟨keyed, acted, reasoned, traced⟩
  rw [attributed]
  rfl

def Write.metadata : Write → WriteMetadata
  | .create _ w | .createOrCorrelate _ w | .save _ _ w | .transition _ _ _ w _ _ => w

theorem metadata_of_request {h : Host} {call : Write} {r : Memory.Request}
    (requested : call.request h = .ok r) : r.metadata = call.metadata ∧ Accepted h r.metadata := by
  cases call with
  | create i w | createOrCorrelate i w =>
    obtain ⟨passed, requested⟩ := Checks.seq_ok.mp requested
    obtain ⟨_, _, requested⟩ := Checks.bind_ok.mp requested
    obtain ⟨_, _, requested⟩ := Checks.bind_ok.mp requested
    cases requested
    exact ⟨rfl, accepted_of_requireMetadata passed⟩
  | save i expected w =>
    obtain ⟨passed, requested⟩ := Checks.seq_ok.mp requested
    obtain ⟨_, _, requested⟩ := Checks.bind_ok.mp requested
    obtain ⟨_, requested⟩ := Checks.seq_ok.mp requested
    obtain ⟨_, _, requested⟩ := Checks.bind_ok.mp requested
    cases requested
    exact ⟨rfl, accepted_of_requireMetadata passed⟩
  | transition incidentId target expected w u depth =>
    obtain ⟨passed, requested⟩ := Checks.seq_ok.mp requested
    obtain ⟨_, _, requested⟩ := Checks.bind_ok.mp requested
    obtain ⟨_, requested⟩ := Checks.seq_ok.mp requested
    obtain ⟨_, requested⟩ := Checks.seq_ok.mp requested
    obtain ⟨_, _, requested⟩ := Checks.bind_ok.mp requested
    cases requested
    exact ⟨rfl, accepted_of_requireMetadata passed⟩

theorem readableEvent_of_safe {d : Driver} {e : IncidentAuditEvent}
    (safe : RepositorySafe d.toHost e.toJson) : ReadableEvent d e := by
  have free : isFloatFree e.toJson = true := by
    cases status : e.fromStatus <;>
      simp [IncidentAuditEvent.toJson, isFloatFree, isFloatFreeFields, optional, dumpId, dumpTime,
        status]
  exact ⟨(d.textBytes_eq _ free).le.trans safe.2.2, safe⟩

theorem parseAssociation_build {d : Driver} {incidentId sourceEventId : Identifier}
    {now : Instant} {w : WriteMetadata} {a : Attribution} (clean : w.Clean d.toHost)
    (parsed : w.attribution = some a)
    (incident : labeledIdentifier d.toHost incidentId.text = false)
    (source : labeledIdentifier d.toHost sourceEventId.text = false) :
    parseAssociation d incidentId.text sourceEventId.text ⟨now, w⟩ =
      .ok (.build incidentId sourceEventId now a) := by
  have safe := association_safe (t := now) clean parsed incident source
  have texts : ∀ id : Identifier, Identifier.parse id.text = some id := Text.Bounded.parse_text
  simp only [parseAssociation, texts, parsed]
  exact Checks.bind_ok.mpr ⟨_, lift_ok.mpr (assertSafe_ok.mpr ⟨safe, rfl⟩), rfl⟩

namespace Database
variable {d : Driver} {db db' : Database}

theorem committed_closed {r : Memory.Request} {i : Incident} {sources : List Identifier}
    {fromStatus : Option (Option IncidentStatus)} {now : Instant} (closed : Closed d db)
    (commit : Committed d.toHost db r i sources fromStatus now db') (readable : Readable d i)
    (accepted : Accepted d.toHost r.metadata)
    (texts : ∀ s ∈ sources, labeledIdentifier d.toHost s.text = false)
    (attributed : (∃ s ∈ sources, db.owners s.text = []) → r.metadata.attribution.isSome) :
    Closed d db' where
  incidents := by
    intro k row stored
    rcases commit.incidents k row stored with before | new
    · exact closed.incidents k row before
    · exact new ▸ readable
  sourceEvents := by
    intro k row stored
    rcases commit.sourceEvents k row stored with before | ⟨owner, member, rfl, unowned⟩
    · exact closed.sourceEvents k row before
    · obtain ⟨s, inside, same⟩ := List.mem_map.mp member
      obtain ⟨a, parsed⟩ := Option.isSome_iff_exists.mp
        (attributed ⟨s, inside, owners_eq_nil.mpr (same ▸ unowned)⟩)
      have incident := (Incident.clean_of_safe readable.safe).1
      rw [owner, ← same]
      exact ⟨_, parseAssociation_build accepted.clean parsed incident (texts s inside),
        association_safe accepted.clean parsed incident (texts s inside)⟩
  audit := by
    intro k row stored
    rcases commit.audit k row stored with before | ⟨f, _, e, made, bounded, same⟩
    · exact closed.audit k row before
    · have revision := (Memory.eventOf_auditEvent made).revision
      rw [same]
      exact readableEvent_of_safe (auditEvent_safe accepted.clean
        (Incident.clean_of_safe readable.safe).1 (revision ▸ bounded) made)
  idempotency := by
    intro scope row stored
    rw [commit.records.stored] at stored
    rcases Table.lookup_insert_iff.mp stored with ⟨_, rfl⟩ | ⟨_, before⟩
    · exact readable
    · exact closed.idempotency scope row before

end Database

/-- The incident that the work of a call would store. -/
inductive Proposed (d : Driver) (db : Database) (now : Instant) : Write → Incident → Prop
  | created (i : Incident) (w : WriteMetadata) :
      Proposed d db now (.create i w) { i with createdAt := now, updatedAt := now }
  | opened (i : Incident) (w : WriteMetadata)
      (alone : db.findActiveLocked d (i.correlationKey.map (·.text))
        (i.sourceEventIds.map (·.text)) none i.incidentId.text = .ok none) :
      Proposed d db now (.createOrCorrelate i w) { i with createdAt := now, updatedAt := now }
  | saved {i current successor : Incident} {expected : Int} (w : WriteMetadata)
      (stored : db.requireCurrent d i.incidentId.text = .ok current)
      (moved : transitionIncident d.toHost current i.status expected (.given now) (.given now)
        (Memory.differences current i) = .ok successor) :
      Proposed d db now (.save i expected w) successor
  | transitioned {incidentId : String} {target : IncidentStatus} {expected : Int}
      {current successor : Incident} {u : Updates} (w : WriteMetadata) (depth : Nat)
      (stored : db.requireCurrent d incidentId = .ok current)
      (moved : transitionIncident d.toHost current target expected (.given now) (.given now) u =
        .ok successor) :
      Proposed d db now (.transition incidentId target expected w u depth) successor

/-- What a call must meet for the rows it writes: the text of the incident it stores is within
the bound; and the reason of a correlating create that gives its incident a source event of its
own fits the record models. -/
structure Admissible (d : Driver) (db : Database) (call : Instant × Write) : Prop where
  fits : ∀ i, Proposed d db call.1 call.2 i → d.textBytes i.toJson ≤ maxContractSerializedBytes
  reason : ∀ i w existing, call.2 = .createOrCorrelate i w →
    db.findActiveLocked d (i.correlationKey.map (·.text)) (i.sourceEventIds.map (·.text)) none
      i.incidentId.text = .ok (some existing) →
    (∃ s ∈ i.sourceEventIds, db.owners s.text = []) → (NonEmptyStr.parse w.reason).isSome

namespace Database
variable {d : Driver} {db db' : Database}

theorem worked_closed {now : Instant} {r : Memory.Request} {call : Write} {result : Incident}
    (closed : Closed d db) (requested : call.request d.toHost = .ok r)
    (admissible : Admissible d db (now, call)) (worked : Worked d db now r call result db') :
    Closed d db' := by
  obtain ⟨metadata, accepted⟩ := metadata_of_request requested
  cases worked with
  | @created i _ w _ valid commit =>
    obtain ⟨rfl, valid, safe⟩ := validateNewIncident_ok valid
    have readable : Readable d _ := ⟨admissible.fits _ (.created i w), valid, safe⟩
    exact committed_closed closed commit readable accepted (Incident.clean_of_safe safe).2
      fun _ => commit.attributed rfl
  | @opened i _ w _ valid looked commit =>
    obtain ⟨rfl, valid, safe⟩ := validateNewIncident_ok valid
    have readable : Readable d _ := ⟨admissible.fits _ (.opened i w looked), valid, safe⟩
    exact committed_closed closed commit readable accepted (Incident.clean_of_safe safe).2
      fun _ => commit.attributed rfl
  | @joined i _ _ w _ valid looked commit =>
    obtain ⟨rfl, _, safe⟩ := validateNewIncident_ok valid
    refine committed_closed closed commit (findActiveLocked_some looked).1 accepted
      (Incident.clean_of_safe safe).2 fun unowned => accepted.attributed ?_
    rw [metadata]
    exact admissible.reason i w result rfl looked unowned
  | saved stored moved safe commit =>
    have readable : Readable d _ := ⟨admissible.fits _ (.saved _ stored moved),
      (transition_of_ok moved).valid, safe⟩
    exact committed_closed closed commit readable accepted (Incident.clean_of_safe safe).2
      fun _ => commit.attributed rfl
  | transitioned stored moved safe commit =>
    have readable : Readable d _ := ⟨admissible.fits _ (.transitioned _ _ stored moved),
      (transition_of_ok moved).valid, safe⟩
    exact committed_closed closed commit readable accepted (Incident.clean_of_safe safe).2
      fun _ => commit.attributed rfl

theorem next_closed (closed : Closed d db) (call : Instant × Write)
    (admissible : (∃ i, (db.step d call.1 call.2).1 = .ok i) → Admissible d db call) :
    Closed d (db.next d call) := by
  refine step_leaves call.1 call.2 closed fun i db' done => ?_
  obtain ⟨r, requested, ⟨_, worked⟩ | ⟨_, _, _, _, _, rfl⟩⟩ := perform_ok done
  · exact worked_closed closed requested (admissible ⟨i, by rw [step_ok.mpr done]⟩) worked
  · exact closed

end Database

/-- What can be read of a database: no read, no replay and no call finds an invalid row. -/
structure ReadsBack (d : Driver) (db : Database) : Prop where
  reads : ∀ q, Quiet (db.read d q)
  replays : ∀ scope row, db.idempotency.lookup scope = some row →
    db.replay d scope row.fingerprint = .ok (some row.resultPayload)
  calls : ∀ now call, Unpersisted (db.perform d now call)

theorem readsBack_of_closed {d : Driver} {db : Database} (closed : Closed d db) : ReadsBack d db where
  reads := Database.read_quiet closed
  replays _ _ stored := Database.replay_of_closed closed stored
  calls := Database.perform_unpersisted closed

/-- While every successful call meets the condition, every row can be read back. -/
theorem rows_read_back (d : Driver) (calls : List (Instant × Write))
    (written : Runs.Along (Database.next d) (fun db call =>
      (∃ i, (db.step d call.1 call.2).1 = .ok i) → Admissible d db call) {} calls) :
    Closed d (Runs.run (Database.next d) {} calls) ∧
      ReadsBack d (Runs.run (Database.next d) {} calls) := by
  have closed := Runs.along_invariant (Database.next d) (P := Closed d)
    (fun _ call closed admissible => Database.next_closed closed call admissible)
    (closed_empty d) calls written
  exact ⟨closed, readsBack_of_closed closed⟩

theorem Database.insertIdempotency_of_fresh {db : Database} {scope : Scope} {fp : Sha256.Digest}
    {i : Incident} (fresh : scope ∉ db.idempotency) : db.insertIdempotency scope fp i =
      .ok { db with idempotency := db.idempotency.insert scope ⟨fp, i⟩ } :=
  Checks.seq_ok.mpr ⟨Checks.require_ok.mpr fresh, rfl⟩

theorem Database.createOrCorrelate_joined {d : Driver} {db db₁ db' : Database}
    {i candidate existing : Incident} {w : WriteMetadata} {now : Instant} {r : Memory.Request}
    (requested : createRequest d.toHost "create_or_correlate" i w = .ok r)
    (absent : db.idempotency.lookup r.scope = none)
    (accepted : validateNewIncident d.toHost i w.traceId now = .ok candidate)
    (looked : db.findActiveLocked d (candidate.correlationKey.map (·.text))
      (candidate.sourceEventIds.map (·.text)) none candidate.incidentId.text = .ok (some existing))
    (registered : db.insertSourceEvents existing.incidentId candidate.sourceEventIds now r.metadata =
      .ok db₁)
    (recorded : db₁.insertIdempotency r.scope r.fingerprint existing = .ok db') :
    db.createOrCorrelate d i w now = .ok (existing, db') := by
  have committed : db.commitCorrelation r existing candidate.sourceEventIds now = .ok db' :=
    Checks.bind_ok.mpr ⟨_, registered, recorded⟩
  have worked : db.createOrCorrelateNew d i w now r = .ok (existing, db') :=
    Checks.bind_ok.mpr ⟨_, lift_ok.mpr accepted, Checks.bind_ok.mpr ⟨_, looked,
      Checks.bind_ok.mpr ⟨_, committed, rfl⟩⟩⟩
  exact Checks.bind_ok.mpr ⟨_, lift_ok.mpr requested, unlessReplayed_ok.mpr (.inl ⟨absent, worked⟩)⟩

/-! A reason of 1025 characters on the call that joins a second source event to an incident. -/

theorem Database.unreadable_source {d : Driver} {db : Database} {incidentId sourceEventId : String}
    {row : SourceRow} (named : requireNonEmpty "incident_id" incidentId 256 = .ok ())
    (few : db.sourceEvents.rows.length ≤ maxRepositoryOffset)
    (stored : db.sourceEvents.lookup (incidentId, sourceEventId) = some row)
    (unattributed : row.metadata.attribution = none) :
    ∃ offset, db.sourceEventAssociations d incidentId 1 offset = .error .persistedAssociation := by
  let rows := (db.sourceEvents.rows.filter fun r => r.1.1 = incidentId).insertionSort
    fun a b => textLe a.1.2 b.1.2
  have member : ((incidentId, sourceEventId), row) ∈ rows :=
    (List.mem_insertionSort _).mpr (List.mem_filter.mpr ⟨Table.mem_rows.mpr stored, by simp⟩)
  obtain ⟨n, inside, here⟩ := List.mem_iff_getElem.mp member
  have short : rows.length ≤ db.sourceEvents.rows.length := by
    rw [List.length_insertionSort]
    exact List.length_filter_le _ _
  have one : page (some 1) n rows = [((incidentId, sourceEventId), row)] := by
    simp only [page]
    rw [List.drop_eq_getElem_cons inside, here]
    rfl
  have refused : parseAssociation d incidentId sourceEventId row = .error .persistedAssociation := by
    unfold parseAssociation
    rw [unattributed]
    split
    · next absent => cases absent
    · rfl
  refine ⟨n, ?_⟩
  have passed : ∀ {condition : Prop} [Decidable condition] {text : String}, condition →
      lift (requireValue condition text) = .ok () := fun holds =>
    lift_ok.mpr (Checks.require_ok.mpr holds)
  unfold sourceEventAssociations
  rw [lift_ok.mpr named, passed (by decide), passed (Nat.le_of_lt (by omega))]
  simp only [Bind.bind, Except.bind]
  rw [show page (some 1) n _ = [((incidentId, sourceEventId), row)] from one]
  simp only [appendBounded, refused, Bind.bind, Except.bind]

namespace Readable.Sample

def incident (incidentId source : Identifier) : Incident where
  incidentId := incidentId
  correlationKey := some (.ofText "k" (by decide))
  sourceEventIds := [source]
  detectedAt := 0
  traceId := .ofText "t" (by decide)
  createdAt := 0
  updatedAt := 0

def first : Incident :=
  incident (.ofText "i1" (by decide)) (.ofText "s1" (by decide))

def second : Incident :=
  incident (.ofText "i2" (by decide)) (.ofText "s2" (by decide))

def metadata (reason : String) : WriteMetadata := ⟨"key", "a", reason, "t"⟩

def opened : Incident := { first with createdAt := 1, updatedAt := 1 }

def database : Database := Database.next .ascii {} (1, .createOrCorrelate first (metadata "r"))

def scope : Scope := ⟨"create_or_correlate", "i2", "key"⟩

/-- What the two calls compute, the reason of the second apart. -/
class Computed : Prop where
  keys : ["idempotency_key", "actor", "reason", "trace_id"].all isCleanKey = true
  clean : ["key", "a", "t"].all (fun s => labelFree (Text.chars s)) = true
  key : requireNonEmpty "idempotency_key" "key" 256 = .ok ()
  actor : requireNonEmpty "actor" "a" 256 = .ok ()
  trace : requireNonEmpty "trace_id" "t" 256 = .ok ()
  named : requireNonEmpty "incident_id" "i1" 256 = .ok ()
  safe : RepositorySafe Host.ascii second.toJson
  addressed : requestScope "create_or_correlate" "i2" "key" = .ok scope
  accepted : validateNewIncident Host.ascii second "t" 2 =
    .ok { second with createdAt := 2, updatedAt := 2 }
  absent : scope ∉ database.idempotency
  matched : database.findActiveLocked .ascii (some "k") ["s2"] none "i2" = .ok (some opened)
  capacity : (database.associatedSourceIds "i1" ++ ["s2"]).dedup.length ≤ maxIncidentSourceEvents
  unowned : database.owners "s2" = []
  one : database.sourceEvents.rows.length = 1
  texts : Database.sortedTexts second.sourceEventIds = ["s2"]
  small : serializedBytes Host.ascii opened.toJson ≤ maxContractSerializedBytes
  unmatched : ({} : Database).findActiveLocked .ascii (some "k") ["s1"] none "i1" = .ok none

theorem database_computed : scope ∉ database.idempotency ∧
    database.findActiveLocked .ascii (some "k") ["s2"] none "i2" = .ok (some opened) ∧
    (database.associatedSourceIds "i1" ++ ["s2"]).dedup.length ≤ maxIncidentSourceEvents ∧
    database.owners "s2" = [] ∧ database.sourceEvents.rows.length = 1 := by decide +kernel

instance computed : Computed where
  keys := by decide +kernel
  clean := by decide +kernel
  key := by decide +kernel
  actor := by decide +kernel
  trace := by decide +kernel
  named := by decide +kernel
  safe := by decide +kernel
  addressed := by decide +kernel
  accepted := by decide +kernel
  absent := database_computed.1
  matched := database_computed.2.1
  capacity := database_computed.2.2.1
  unowned := database_computed.2.2.2.1
  one := database_computed.2.2.2.2
  texts := by decide +kernel
  small := by decide +kernel
  unmatched := by decide +kernel

def reason (n : Nat) : String := String.ofList (List.replicate n 'r')

theorem reason_length (n : Nat) : (reason n).length = n := by
  rw [reason, String.length_ofList, List.length_replicate]

theorem mem_reason {n : Nat} {c : Char} (member : c ∈ (reason n).toList) : c = 'r' := by
  rw [reason, String.toList_ofList] at member
  exact List.eq_of_mem_replicate member

theorem reason_unattributed {n : Nat} (long : 1024 < n) :
    (metadata (reason n)).attribution = none := by
  cases parsed : (metadata (reason n)).attribution with
  | none => rfl
  | some a =>
    have known : NonEmptyStr.parse (reason n) = some a.reason :=
      (WriteMetadata.attribution_eq_some.mp parsed).2.2.1
    have kept : Text.trim isWhiteSpace (reason n) = reason n :=
      Text.trim_fixed fun c member => mem_reason member ▸ by decide
    have short := (Text.Bounded.parse_isSome.mp (Option.isSome_of_mem known)).2
    rw [kept, reason_length] at short
    omega

theorem reason_clean (h : Host) (n : Nat) : labeledIdentifier h (reason n) = false := by
  rw [labeledIdentifier, Text.chars_eq]
  exact searchFrom_of_startsNoLabel fun c member => mem_reason member ▸ by decide

theorem metadata_accepted (h : Host) {n : Nat} (filled : 0 < n) (short : n ≤ 4096) :
    requireMetadata h (metadata (reason n)) = .ok () := by
  have stripped : strip (reason n) = reason n :=
    Text.trim_fixed fun c member => mem_reason member ▸ by decide
  have written : isBlank (reason n) = false := by
    rw [isBlank, stripped, beq_eq_false_iff_ne, ne_eq, ← String.length_eq_zero_iff, reason_length]
    omega
  have flat : RepositorySafe h (.obj (("idempotency_key", .str "key") ::
      (metadata (reason n)).fields)) := by
    apply repositorySafe_flat
    · intro f member
      refine List.all_eq_true.mp computed.keys f.1 ?_
      simp only [WriteMetadata.fields, List.mem_cons, List.not_mem_nil, or_false] at member ⊢
      rcases member with rfl | rfl | rfl | rfl <;> simp
    · intro f member
      simp only [WriteMetadata.fields, List.mem_cons, List.not_mem_nil, or_false] at member
      rcases member with rfl | rfl | rfl | rfl
      · exact searchFrom_of_labelFree (List.all_eq_true.mp computed.clean "key" (by simp))
      · exact searchFrom_of_labelFree (List.all_eq_true.mp computed.clean "a" (by simp))
      · exact reason_clean h n
      · exact searchFrom_of_labelFree (List.all_eq_true.mp computed.clean "t" (by simp))
    · have k := canonicalJson_str_length_le (h := h) (show "key".length ≤ 3 by decide)
      have a := canonicalJson_str_length_le (h := h) (show "a".length ≤ 1 by decide)
      have r := canonicalJson_str_length_le (h := h) (reason_length n).le
      have t := canonicalJson_str_length_le (h := h) (show "t".length ≤ 1 by decide)
      have lengths : "idempotency_key".length = 15 ∧ "actor".length = 5 ∧ "reason".length = 6 ∧
        "trace_id".length = 8 := by decide
      simp only [WriteMetadata.fields, metadata, List.map_cons, List.map_nil, List.sum_cons,
        List.sum_nil]
      omega
  have given : requireNonEmpty "reason" (reason n) 4096 = .ok () :=
    Checks.seq_ok.mpr ⟨requireValue_ok.mpr written,
      requireValue_ok.mpr (by rw [reason_length]; exact short)⟩
  exact Checks.seq_ok.mpr ⟨computed.key, Checks.seq_ok.mpr ⟨computed.actor,
    Checks.seq_ok.mpr ⟨given, Checks.seq_ok.mpr ⟨computed.trace, Checks.bind_ok.mpr ⟨_, assertSafe_ok.mpr ⟨flat, rfl⟩, rfl⟩⟩⟩⟩⟩

theorem second_requested {n : Nat} (filled : 0 < n) (short : n ≤ 4096) :
    ∃ fp, createRequest Host.ascii "create_or_correlate" second (metadata (reason n)) =
      .ok ⟨scope, fp, metadata (reason n)⟩ := by
  have safe : assertSafe Host.ascii second.toJson = .ok (serializedBytes Host.ascii second.toJson) :=
    assertSafe_ok.mpr ⟨computed.safe, rfl⟩
  exact ⟨_, Checks.seq_ok.mpr ⟨metadata_accepted _ filled short,
    Checks.bind_ok.mpr ⟨_, safe, Checks.bind_ok.mpr ⟨scope, computed.addressed, rfl⟩⟩⟩⟩

theorem second_validated (n : Nat) : validateNewIncident Host.ascii second
    (metadata (reason n)).traceId 2 = .ok { second with createdAt := 2, updatedAt := 2 } :=
  computed.accepted

structure Met (db : Database) : Prop where
  absent : scope ∉ db.idempotency
  matched : db.findActiveLocked .ascii (some "k") ["s2"] none "i2" = .ok (some opened)
  capacity : (db.associatedSourceIds "i1" ++ ["s2"]).dedup.length ≤ maxIncidentSourceEvents
  unowned : db.owners "s2" = []
  one : db.sourceEvents.rows.length = 1

theorem database_met : Met database :=
  ⟨computed.absent, computed.matched, computed.capacity, computed.unowned, computed.one⟩

theorem second_registered {db : Database} (met : Met db) (w : WriteMetadata) :
    db.insertSourceEvents opened.incidentId second.sourceEventIds 2 w =
      .ok { db with sourceEvents := db.sourceEvents.insert ("i1", "s2") ⟨2, w⟩ } := by
  refine Checks.seq_ok.mpr ⟨lift_ok.mpr (requireValue_ok.mpr met.capacity),
    Checks.seq_ok.mpr ⟨?_, ?_⟩⟩
  · rw [computed.texts]
    simp [Checks.each, met.unowned, Bind.bind, Except.bind]
  · rw [computed.texts, List.foldl_cons, List.foldl_nil, Database.insertSourceRow, if_pos met.unowned]
    rfl

theorem second_joined {db : Database} (met : Met db) {n : Nat} (filled : 0 < n) (short : n ≤ 4096) :
    ∃ db', db.step .ascii 2 (.createOrCorrelate second (metadata (reason n))) = (.ok opened, db') ∧
      db'.sourceEvents = db.sourceEvents.insert ("i1", "s2") ⟨2, metadata (reason n)⟩ := by
  obtain ⟨fp, requested⟩ := second_requested filled short
  exact ⟨_, Database.step_ok.mpr (Database.createOrCorrelate_joined requested
    (AList.lookup_eq_none.mpr met.absent) (second_validated n) met.matched
    (second_registered met (metadata (reason n)))
    (Database.insertIdempotency_of_fresh met.absent)), rfl⟩

theorem second_not_read_back {db : Database} (met : Met db) {n : Nat} (long : 1024 < n)
    (short : n ≤ 4096) : ¬ ReadsBack .ascii
      (db.next .ascii (2, .createOrCorrelate second (metadata (reason n)))) := by
  intro back
  obtain ⟨db', joined, sources⟩ := second_joined met (Nat.zero_lt_of_lt long) short
  rw [Database.next, joined] at back
  have few : db'.sourceEvents.rows.length ≤ 2 := by
    have grown := Table.length_rows_insert_le db.sourceEvents ("i1", "s2") ⟨2, metadata (reason n)⟩
    rw [met.one] at grown
    rw [sources]
    exact grown
  have stored : db'.sourceEvents.lookup ("i1", "s2") = some ⟨2, metadata (reason n)⟩ := by
    rw [sources, AList.lookup_insert]
  obtain ⟨offset, refused⟩ := Database.unreadable_source (d := .ascii) computed.named
    (Nat.le_trans few (by decide)) stored (reason_unattributed long)
  have rejected : IsRejected .persistedAssociation := .inl trivial
  exact back.reads (.sourceEventAssociations "i1" 1 offset) _ refused rejected

def calls (n : Nat) : List (Instant × Write) :=
  [(1, .createOrCorrelate first (metadata "r")),
    (2, .createOrCorrelate second (metadata (reason n)))]

theorem run_two (d : Driver) (first second : Instant × Write) :
    Runs.run (Database.next d) {} [first, second] =
      Database.next d (Database.next d {} first) second := rfl

theorem first_admissible :
    Admissible .ascii {} (1, .createOrCorrelate first (metadata "r")) where
  fits := by
    intro i proposed
    cases proposed with
    | opened _ _ _ => exact computed.small
  reason := by
    intro i w existing same looked
    cases same
    exact nomatch computed.unmatched.symm.trans looked

end Readable.Sample

theorem rows_read_back_sample :
    Closed .ascii (Runs.run (Database.next .ascii) {}
        [(1, .createOrCorrelate Readable.Sample.first (Readable.Sample.metadata "r"))]) ∧
      ReadsBack .ascii (Runs.run (Database.next .ascii) {}
        [(1, .createOrCorrelate Readable.Sample.first (Readable.Sample.metadata "r"))]) :=
  rows_read_back .ascii _ ⟨fun _ => Readable.Sample.first_admissible, trivial⟩

/-- Two successful calls leave a source event that cannot be read. -/
theorem long_reason_not_read_back :
    ¬ ReadsBack .ascii (Runs.run (Database.next .ascii) {} (Readable.Sample.calls 1025)) := by
  rw [Readable.Sample.calls, Readable.Sample.run_two]
  exact Readable.Sample.second_not_read_back Readable.Sample.database_met (by decide) (by decide)

end NetworkAgent.Local
