import NetworkAgent.Migration.Contents
import NetworkAgent.Migration.Requests

/-! One turn of the import loop is the arrival of the entry's snapshot in what the target holds,
for a target that is reached by calls. -/
namespace NetworkAgent.Migration
open NetworkAgent.Memory

/-! Entries as arrivals. -/

theorem metadata_parses (h : Host) (profile : SourceProfile) (e : MigrationEntry) :
    ∃ a, (e.metadata h profile).attribution = some a := by
  obtain ⟨key, actor, reason⟩ := importMetadata_trimmed h profile e.incident
  have size : (importMetadata h profile e.incident).idempotencyKey.length = 77 := key_length _
  have actorSize : "canonical-migration".length = 19 := by decide
  have reasonSize : "one-time canonical incident import".length = 34 := by decide
  refine ⟨⟨⟨_, key, by rw [size]; decide, by rw [size]; decide⟩,
    ⟨_, actor, by rw [importMetadata, actorSize]; decide, by rw [importMetadata, actorSize]; decide⟩,
    ⟨_, reason, by rw [importMetadata, reasonSize]; decide,
      by rw [importMetadata, reasonSize]; decide⟩, e.incident.traceId⟩, ?_⟩
  exact WriteMetadata.attribution_eq_some.mpr ⟨Text.Bounded.parse_eq_some.mpr key,
    Text.Bounded.parse_eq_some.mpr actor, Text.Bounded.parse_eq_some.mpr reason,
    Text.Bounded.parse_text _⟩

def MigrationEntry.eventAt (h : Host) (profile : SourceProfile) (e : MigrationEntry)
    (now : Instant) : Except RepositoryError IncidentAuditEvent :=
  auditEvent h e.incident none (e.metadata h profile) (e.fingerprint h profile) now

theorem eventAt_ok (h : Host) (profile : SourceProfile) (e : MigrationEntry) (now : Instant) :
    ∃ event, e.eventAt h profile now = .ok event ∧ e.eventAt h profile 0 = .ok (untimed event) := by
  obtain ⟨a, parsed⟩ := metadata_parses h profile e
  obtain ⟨id, name⟩ := eventId_parses (h.sha256 (utf8 e.incident.incidentId.text ++
    0 :: utf8 (e.metadata h profile).idempotencyKey ++ 0 :: utf8 (e.fingerprint h profile).text))
  simp only [MigrationEntry.eventAt, auditEvent, name, parsed, Except.ok.injEq, exists_eq_left']
  rfl

def MigrationEntry.arrival (h : Host) (profile : SourceProfile) (e : MigrationEntry) : Arrival where
  incident := e.incident
  associations := e.associations
  scope := (e.request h profile).scope
  fingerprint := e.fingerprint h profile
  events := (e.eventAt h profile 0).toOption.toList
  ofScope := rfl
  bound := e.bound

/-! What a reachable target holds. -/

theorem contents_sound {h : Host} {m : Memory} (reachable : Reachable h m) :
    (contents m).Sound where
  key := fun _ _ stored => reachable.keyed.key stored
  known := by
    intro k linked
    obtain ⟨l, found⟩ := Option.ne_none_iff_exists'.mp linked
    obtain ⟨i, stored⟩ := mem_iff_lookup.mp (reachable.owned.known k (mem_iff_lookup.mpr ⟨l, found⟩))
    intro absent
    have absent : m.incidents.lookup k.1 = none := absent
    rw [stored] at absent
    cases absent

theorem linked_iff {m : Memory} {k : String × String} :
    (contents m).links k ≠ none ↔ k ∈ m.sourceEvents := by
  rw [Option.ne_none_iff_exists', mem_iff_lookup]
  rfl

section
variable {h : Host} {m : Memory} {e : MigrationEntry} {profile : SourceProfile}

theorem competes_iff {j : Incident} :
    (contents m).Competes (e.arrival h profile) j ↔ j.status.isActive = true ∧
      m.Answers (e.incident.correlationKey.map (·.text))
        (e.associations.map (·.sourceEventId.text)) j := by
  unfold Contents.Competes Memory.Answers
  refine and_congr_right fun _ => or_congr ?_ ?_
  · constructor
    · rintro ⟨key, wanted, has⟩
      exact ⟨key.text, by simp [show e.incident.correlationKey = some key from wanted], by simp [has]⟩
    · rintro ⟨text, wanted, has⟩
      obtain ⟨key, found, rfl⟩ := Option.map_eq_some_iff.mp (Option.mem_def.mp wanted)
      obtain ⟨other, found', same⟩ := Option.map_eq_some_iff.mp has
      exact ⟨key, found, found'.trans (congrArg some (Text.Bounded.ext same))⟩
  · refine exists_congr fun s => and_congr Iff.rfl ?_
    rw [linked_iff, mem_associatedSourceIds]

theorem requireImportable_iff (reachable : Reachable h m) :
    m.requireImportable e.incident e.associations = .ok () ↔
      (contents m).Admits (e.arrival h profile) := by
  have owners : ∀ s, (∀ o ∈ (m.owners s).head?, o = e.id) ↔
      ∀ owner, (contents m).links (owner, s) ≠ none → owner = e.id := by
    intro s
    have listed := sourceEventOwner_ok reachable.owned s
    constructor
    · intro own owner linked
      exact ownedOnlyBy_of_owner listed own owner (linked_iff.mp linked)
    · intro own owner first
      have member := List.mem_of_mem_head? first
      exact own owner (linked_iff.mpr (mem_owners.mp member))
  have sources : ∀ s, s ∈ (e.arrival h profile).sources ↔
      ∃ a ∈ e.associations, a.sourceEventId.text = s := by
    simp [Arrival.sources, MigrationEntry.arrival]
  simp only [requireImportable, Checks.bind_ok, Checks.require_ok, Checks.each_ok,
    sourceEventOwner_ok reachable.owned, Except.ok.injEq, exists_eq_left', exists_const]
  constructor
  · rintro ⟨fresh, owned, active, looked, free⟩
    have alone : active = none := by
      cases active with
      | none => rfl
      | some active => cases free
    rw [alone] at looked
    refine ⟨AList.lookup_eq_none.mpr fresh, fun s claimed => ?_, fun k j stored rival => ?_⟩
    · obtain ⟨a, member, rfl⟩ := (sources s).mp claimed
      exact (owners _).mp (owned a member)
    · obtain ⟨live, answers⟩ := competes_iff.mp rival
      exact noActiveMatch_of_none looked j (Table.mem_values.mpr ⟨k, stored⟩) (by simp) live answers
  · rintro ⟨fresh, owned, alone⟩
    refine ⟨AList.lookup_eq_none.mp fresh, fun a member => ?_, none, ?_, rfl⟩
    · exact (owners _).mpr (owned _ ((sources _).mpr ⟨a, member, rfl⟩))
    · have none_found : m.activeMatches (e.incident.correlationKey.map (·.text))
          (e.associations.map (·.sourceEventId.text)) none = [] := by
        refine List.eq_nil_iff_forall_not_mem.mpr fun j member => ?_
        obtain ⟨stored, _, live, answers⟩ := mem_activeMatches.mp member
        obtain ⟨k, found⟩ := Table.mem_values.mp stored
        exact alone k j found (competes_iff.mpr ⟨live, answers⟩)
      unfold findActiveLocked
      rw [none_found]
      rfl

theorem requireImportable_conflict (reachable : Reachable h m) :
    Checks.FailsWith (fun error => isTargetConflict error = true)
      (m.requireImportable e.incident e.associations) := by
  refine Checks.failsWith_bind (Checks.failsWith_require rfl) fun _ => ?_
  refine Checks.failsWith_bind (Checks.failsWith_each fun a _ => ?_) fun _ => ?_
  · rw [sourceEventOwner_ok reachable.owned]
    exact Checks.failsWith_require rfl
  · refine Checks.failsWith_bind ?_ fun active => ?_
    · exact Checks.failsWith_bind (Checks.failsWith_require rfl) fun _ => Checks.failsWith_ok _
    · cases active with
      | none => exact Checks.failsWith_ok ()
      | some active => exact Checks.failsWith_error rfl

end

/-! Requests with one fingerprint. -/

def importFingerprint (h : Host) (i : Incident) (associations : List SourceEventAssociation)
    (w : WriteMetadata) : Sha256.Digest :=
  fingerprint h importOperation (("incident", i.toJson) ::
    ("associations", .arr (associations.map (·.toJson))) :: w.fields)

/-- Two requests are the same, up to the order of the keys in their mappings. -/
def SameRequest (i : Incident) (associations : List SourceEventAssociation) (w : WriteMetadata)
    (e : MigrationEntry) (v : WriteMetadata) : Prop :=
  PyEq.Same i e.incident ∧ associations = e.associations ∧ w = v

/-- No import among the calls has the fingerprint of another request of the bundle. -/
def CollisionFree (h : Host) (b : MigrationBundle) (calls : List (Instant × Call)) : Prop :=
  ∀ e ∈ b.entries, ∀ i associations w, Requested calls i associations w →
    importFingerprint h i associations w = e.fingerprint h b.sourceProfile →
    SameRequest i associations w e (e.metadata h b.sourceProfile)

/-- The imports that a target can have on record: those of its calls, and those of the bundle. -/
def KnownImport (h : Host) (b : MigrationBundle) (calls : List (Instant × Call)) (i : Incident)
    (associations : List SourceEventAssociation) (w : WriteMetadata) : Prop :=
  Requested calls i associations w ∨ ∃ e ∈ b.entries, i = e.incident ∧
    associations = e.associations ∧ w = e.metadata h b.sourceProfile

theorem fingerprint_of_importRequest {h : Host} {i : Incident}
    {associations : List SourceEventAssociation} {w : WriteMetadata} {r : Request}
    (requested : importRequest h i associations w = .ok r) :
    r.fingerprint = importFingerprint h i associations w := by
  simp only [importRequest, Checks.bind_ok, pure, Except.pure, Except.ok.injEq] at requested
  obtain ⟨_, _, _, _, _, _, _, _, _, _, _, _, _, _, _, _, _, _, _, _, scope, named, rfl⟩ := requested
  rfl

theorem MigrationBundle.entry_ext {b : MigrationBundle} {e f : MigrationEntry} (first : e ∈ b.entries)
    (second : f ∈ b.entries) (same : e.id = f.id) : e = f :=
  List.inj_on_of_nodup_map b.distinct first second same

structure Target (h : Host) (b : MigrationBundle) (calls : List (Instant × Call)) (m : Memory) :
    Prop where
  reachable : Reachable h m
  imports : ImportsKnown h (KnownImport h b calls) m

theorem target_of_run {h : Host} (b : MigrationBundle) (calls : List (Instant × Call)) :
    Target h b calls (run h {} calls) where
  reachable := run_reachable h calls
  imports scope record found operation := by
    obtain ⟨i, associations, w, r, listed, rest⟩ := run_importsKnown h calls scope record found operation
    exact ⟨i, associations, w, r, .inl listed, rest⟩

section
variable {h : Host} {b : MigrationBundle} {calls : List (Instant × Call)} {m : Memory}
  {e : MigrationEntry}

def MigrationEntry.call (h : Host) (profile : SourceProfile) (e : MigrationEntry) : Call :=
  .importDetectedSnapshot e.incident e.associations (e.metadata h profile)

theorem Target.next (target : Target h b calls m) (member : e ∈ b.entries) (now : Instant) :
    Target h b calls (m.next h (now, e.call h b.sourceProfile)) where
  reachable := target.reachable.next _
  imports := target.imports.next target.reachable _ fun i associations w named => by
    cases named
    exact .inr ⟨e, member, rfl, rfl, rfl⟩

theorem Target.recorded (target : Target h b calls m) (separate : CollisionFree h b calls)
    (member : e ∈ b.entries) {record : IdempotencyRecord}
    (found : m.idempotency.lookup (e.request h b.sourceProfile).scope = some record)
    (fingerprint : record.fingerprint = e.fingerprint h b.sourceProfile) :
    PyEq.Same record.result e.incident ∧ record.result.Valid h ∧
      RepositorySafe h record.result.toJson ∧
      Imported h m e.incident e.associations (e.metadata h b.sourceProfile)
        (e.request h b.sourceProfile) record.result := by
  obtain ⟨i, associations, w, r, listed, requested, scope, rfl, imported⟩ :=
    target.imports _ _ found rfl
  have new := (importRequest_ok requested).new
  have hashed : importFingerprint h i associations w = e.fingerprint h b.sourceProfile :=
    (fingerprint_of_importRequest requested).symm.trans fingerprint
  have same : SameRequest i associations w e (e.metadata h b.sourceProfile) := by
    rcases listed with called | ⟨f, other, rfl, rfl, rfl⟩
    · exact separate e member i associations w called hashed
    · have ids : e.id = f.id :=
        congrArg Scope.incidentId (scope.trans (scope_of_importRequest requested))
      have own := b.entry_ext member other ids
      subst own
      exact ⟨.refl _, rfl, rfl⟩
  obtain ⟨equal, rfl, rfl⟩ := same
  have incidentId : i.incidentId = e.incident.incidentId := equal.congr _ fun _ => rfl
  have key : i.correlationKey = e.incident.correlationKey := equal.congr _ fun _ => rfl
  refine ⟨equal, new.valid, new.safe, ?_⟩
  obtain ⟨_, current, links, audit⟩ := imported
  rw [incidentId] at current audit
  rw [key] at current
  exact ⟨⟨_, found, fingerprint, rfl⟩, current, links, audit⟩

/-! The decision of the target. -/

variable (target : Target h b calls m) (separate : CollisionFree h b calls) (member : e ∈ b.entries)
  (accepted : importRequest h e.incident e.associations (e.metadata h b.sourceProfile) =
    .ok (e.request h b.sourceProfile)) (now : Instant)
include target accepted

theorem decideImport_imported
    (outcome : (contents m).outcome (e.arrival h b.sourceProfile) = .imported) :
    ∃ event, e.eventAt h b.sourceProfile now = .ok event ∧
      m.decideImport h e.incident e.associations (e.metadata h b.sourceProfile) now =
        .ok (.proceed (e.request h b.sourceProfile) event) := by
  obtain ⟨absent, admitted⟩ := Contents.outcome_imported.mp outcome
  obtain ⟨event, built, _⟩ := eventAt_ok h b.sourceProfile e now
  refine ⟨event, built, Checks.bind_ok.mpr ⟨_, accepted, Checks.bind_ok.mpr
    ⟨.proceed _ event, unlessReplayed_ok.mpr (.inr ⟨absent, event, ?_, rfl⟩), rfl⟩⟩⟩
  exact Checks.seq_ok.mpr ⟨(requireImportable_iff target.reachable).mpr admitted, built⟩

include separate member in
theorem decideImport_known
    (outcome : (contents m).outcome (e.arrival h b.sourceProfile) = .replayed) :
    ∃ s, m.decideImport h e.incident e.associations (e.metadata h b.sourceProfile) now =
        .ok (.replayed s) ∧ PyEq.Same s e.incident ∧ s.Valid h ∧ RepositorySafe h s.toJson := by
  unfold Contents.outcome at outcome
  split at outcome
  · next record found =>
    split at outcome
    · next fingerprint =>
      obtain ⟨same, valid, safe, imported⟩ := target.recorded separate member found fingerprint
      have passed := (requireReplayedImport_ok target.reachable imported same rfl e.bound).mpr
        (importMetadata_trimmed h b.sourceProfile e.incident)
      exact ⟨record.result, decideImport_replayed.mpr
        ⟨_, record, accepted, found, fingerprint, rfl, passed⟩, same, valid, safe⟩
    · cases outcome
  · split at outcome <;> cases outcome

theorem decideImport_conflict
    (outcome : (contents m).outcome (e.arrival h b.sourceProfile) = .conflict) :
    ∃ error, m.decideImport h e.incident e.associations (e.metadata h b.sourceProfile) now =
        .error error ∧ isTargetConflict error = true := by
  obtain ⟨conclude, request⟩ : ∃ conclude, m.decideImport h e.incident e.associations
      (e.metadata h b.sourceProfile) now = (m.unlessReplayed (e.request h b.sourceProfile) (do
        m.requireImportable e.incident e.associations
        e.eventAt h b.sourceProfile now) >>= conclude) := by
    unfold decideImport
    rw [accepted]
    exact ⟨_, rfl⟩
  unfold Contents.outcome at outcome
  split at outcome
  · next record found =>
    split at outcome
    · cases outcome
    · next other =>
      have found : m.idempotency.lookup (e.request h b.sourceProfile).scope = some record := found
      have other : record.fingerprint ≠ (e.request h b.sourceProfile).fingerprint := other
      refine ⟨.idempotencyConflict (e.metadata h b.sourceProfile).idempotencyKey, ?_, rfl⟩
      rw [request, unlessReplayed, replay, found]
      simp only [Checks.require, other, if_false]
      rfl
  · next absent =>
    have absent : m.idempotency.lookup (e.request h b.sourceProfile).scope = none := absent
    split at outcome
    · cases outcome
    · next refused =>
      have conflicts := requireImportable_conflict (e := e) target.reachable
      cases checked : m.requireImportable e.incident e.associations with
      | ok u => exact absurd ((requireImportable_iff target.reachable).mp checked) refused
      | error error =>
        refine ⟨error, ?_, conflicts error checked⟩
        rw [request, unlessReplayed, replay, absent, checked]
        rfl

end

end NetworkAgent.Migration
