import NetworkAgent.Memory.ImportRecords
import NetworkAgent.Migration.Plan

/-! The import request of an entry that the plan leaves to the target. It passes every check
that does not look at the target. -/
namespace NetworkAgent.Migration
open NetworkAgent.Memory

/-! The idempotency key. -/

theorem labelFree_of_startsNoLabel {cs : List Char} (other : ∀ c ∈ cs, startsNoLabel c = true) :
    labelFree cs = true := by
  induction cs with
  | nil => rfl
  | cons c cs ih =>
    simp only [labelFree, matchesHere_cons (other c List.mem_cons_self), Bool.not_false, Bool.true_and]
    exact ih fun d member => other d (List.mem_cons_of_mem _ member)

section
variable (digest : Sha256.Digest)

theorem key_length : ("migration-v1-" ++ digest.text).length = 77 := by
  have letters : "migration-v1-".length = 13 := by decide
  rw [String.length_append, letters, digest.length]

theorem key_notSpace : ∀ c ∈ ("migration-v1-" ++ digest.text).toList, isSpace c = false := by
  intro c member
  rw [String.toList_append, List.mem_append] at member
  rcases member with letter | hex
  · have letters : "migration-v1-".toList.all (fun c => !isSpace c) = true := by decide
    simpa using List.all_eq_true.mp letters c letter
  · exact isSpace_of_hex (List.all_eq_true.mp digest.hex c hex)

theorem key_notBlank : isBlank ("migration-v1-" ++ digest.text) = false := by
  have kept : strip ("migration-v1-" ++ digest.text) = "migration-v1-" ++ digest.text :=
    Text.trim_fixed (key_notSpace digest)
  have size := key_length digest
  rw [isBlank, kept, beq_eq_false_iff_ne, ne_eq, ← String.length_eq_zero_iff]
  omega

theorem key_clean (h : Host) : labeledIdentifier h ("migration-v1-" ++ digest.text) = false := by
  have tail : labelFree digest.text.toList = true := labelFree_of_startsNoLabel fun c member =>
    startsNoLabel_of_hex (List.all_eq_true.mp digest.hex c member)
  have letters : "migration-v1-".toList =
      ['m', 'i', 'g', 'r', 'a', 't', 'i', 'o', 'n', '-', 'v', '1', '-'] := by decide
  apply searchFrom_of_labelFree
  rw [Text.chars_eq, String.toList_append, letters]
  have head : ∀ c rest, startsNoLabel c = true → labelFree (c :: rest) = labelFree rest := by
    intro c rest other
    simp [labelFree, matchesHere_cons other]
  have m : ∀ rest, matchesHere ('m' :: 'i' :: rest) = false := by
    intro rest
    simp [matchesHere, labels, afterLabel, show foldCase 'm' = 'm' by decide,
      show foldCase 'i' = 'i' by decide]
  have i : ∀ rest, matchesHere ('i' :: 'g' :: rest) = false := by
    intro rest
    simp [matchesHere, labels, afterLabel, show foldCase 'g' = 'g' by decide,
      show foldCase 'i' = 'i' by decide]
  have o : ∀ rest, matchesHere ('i' :: 'o' :: rest) = false := by
    intro rest
    simp [matchesHere, labels, afterLabel, show foldCase 'o' = 'o' by decide,
      show foldCase 'i' = 'i' by decide]
  simp only [List.cons_append, List.nil_append]
  rw [labelFree, m, labelFree, i]
  simp only [Bool.not_false, Bool.true_and]
  rw [head 'g' _ (by decide), head 'r' _ (by decide), head 'a' _ (by decide),
    head 't' _ (by decide), labelFree, o]
  simp only [Bool.not_false, Bool.true_and]
  rw [head 'o' _ (by decide), head 'n' _ (by decide), head '-' _ (by decide),
    head 'v' _ (by decide), head '1' _ (by decide), head '-' _ (by decide)]
  exact tail

end

/-! The metadata. -/

/-- The texts of the incident that `str.strip` must not empty. -/
def Named (i : Incident) : Prop :=
  isBlank i.incidentId.text = false ∧ isBlank i.traceId.text = false

instance (i : Incident) : Decidable (Named i) := inferInstanceAs (Decidable (_ ∧ _))

theorem requireNonEmpty_ok {name value : String} {bound : Nat} {u : Unit} :
    requireNonEmpty name value bound = .ok u ↔ isBlank value = false ∧ value.length ≤ bound := by
  simp only [requireNonEmpty, Checks.seq_ok, requireValue_ok]

set_option maxRecDepth 8000 in
theorem importMetadata_accepted {h : Host} {profile : SourceProfile} {i : Incident}
    (safe : RepositorySafe h i.toJson) (named : Named i) :
    (importMetadata h profile i).require h = .ok () := by
  have trace : labeledIdentifier h i.traceId.text = false :=
    clean_of_safe safe "trace_id" (by decide) (by simp [Incident.fields, dumpId])
  have fixed : isBlank "canonical-migration" = false ∧
      isBlank "one-time canonical incident import" = false ∧
      "canonical-migration".length = 19 ∧
      "one-time canonical incident import".length = 34 := by decide
  have free : labelFree "canonical-migration".toList = true ∧
      labelFree "one-time canonical incident import".toList = true := by decide
  have size := key_length (h.sha256 (utf8 "telco-canonical-import-v1\x00" ++ utf8 profile.text ++
    0 :: h.canonicalJson i.toJson))
  have flat : RepositorySafe h (.obj (("idempotency_key",
      .str (importMetadata h profile i).idempotencyKey) :: (importMetadata h profile i).fields)) := by
    apply repositorySafe_flat
    · intro f member
      have keys : ["idempotency_key", "actor", "reason", "trace_id"].all isCleanKey = true := by
        decide
      refine List.all_eq_true.mp keys f.1 ?_
      simp only [WriteMetadata.fields, List.mem_cons, List.not_mem_nil, or_false] at member ⊢
      rcases member with rfl | rfl | rfl | rfl <;> simp
    · intro f member
      simp only [WriteMetadata.fields, List.mem_cons, List.not_mem_nil, or_false] at member
      rcases member with rfl | rfl | rfl | rfl
      · exact key_clean _ h
      · exact searchFrom_of_labelFree (by rw [Text.chars_eq]; exact free.1)
      · exact searchFrom_of_labelFree (by rw [Text.chars_eq]; exact free.2)
      · exact trace
    · have k := canonicalJson_str_length_le (h := h) size.le
      have a := canonicalJson_str_length_le (h := h) fixed.2.2.1.le
      have r := canonicalJson_str_length_le (h := h) fixed.2.2.2.le
      have t := canonicalJson_str_length_le (h := h) i.traceId.short
      have lengths : "idempotency_key".length = 15 ∧ "actor".length = 5 ∧ "reason".length = 6 ∧
        "trace_id".length = 8 := by decide
      simp only [WriteMetadata.fields, importMetadata, idempotencyKey, List.map_cons, List.map_nil,
        List.sum_cons, List.sum_nil]
      omega
  simp only [WriteMetadata.require, Checks.seq_ok, requireNonEmpty_ok]
  refine ⟨⟨key_notBlank _, by rw [importMetadata, idempotencyKey, size]; decide⟩,
    ⟨fixed.1, by rw [importMetadata, fixed.2.2.1]; decide⟩,
    ⟨fixed.2.1, by rw [importMetadata, fixed.2.2.2]; decide⟩,
    ⟨named.2, i.traceId.short⟩, ?_⟩
  rw [assertSafe_of_safe _ flat]
  rfl

set_option maxRecDepth 8000 in
theorem importMetadata_trimmed (h : Host) (profile : SourceProfile) (i : Incident) :
    Trimmed (importMetadata h profile i) := by
  have letters : ∀ c ∈ ("migration-v1-" ++ (h.sha256 (utf8 "telco-canonical-import-v1\x00" ++
      utf8 profile.text ++ 0 :: h.canonicalJson i.toJson)).text).toList, isWhiteSpace c = false := by
    intro c member
    have space := key_notSpace _ c member
    simp only [isSpace, Bool.or_eq_false_iff] at space
    exact space.1
  have fixed : stripWhitespace "canonical-migration" = "canonical-migration" ∧
      stripWhitespace "one-time canonical incident import" =
        "one-time canonical incident import" := by decide
  exact ⟨Text.trim_fixed letters, fixed⟩

/-! The batch. -/

theorem association_size (h : Host) (a : SourceEventAssociation) :
    serializedBytes h a.toJson ≤ 60000 := by
  have size := Json.bytes_obj_length_le h.floatRepr
    [("schema_version", .str schemaVersion), ("incident_id", dumpId a.incidentId),
     ("source_event_id", dumpId a.sourceEventId), ("registered_at", dumpTime "Z" a.registeredAt),
     ("actor", dumpId a.actor), ("reason", dumpId a.reason),
     ("idempotency_key", dumpId a.idempotencyKey), ("trace_id", dumpId a.traceId)]
  have v := canonicalJson_str_length_le (h := h) (show schemaVersion.length ≤ 3 by decide)
  have i := canonicalJson_str_length_le (h := h) a.incidentId.short
  have s := canonicalJson_str_length_le (h := h) a.sourceEventId.short
  have r := canonicalJson_str_length_le (h := h) (isoText_length a.registeredAt)
  have ac := canonicalJson_str_length_le (h := h) a.actor.short
  have re := canonicalJson_str_length_le (h := h) a.reason.short
  have k := canonicalJson_str_length_le (h := h) a.idempotencyKey.short
  have tr := canonicalJson_str_length_le (h := h) a.traceId.short
  have lengths : "schema_version".length = 14 ∧ "incident_id".length = 11 ∧
    "source_event_id".length = 15 ∧ "registered_at".length = 13 ∧ "actor".length = 5 ∧
    "reason".length = 6 ∧ "idempotency_key".length = 15 ∧ "trace_id".length = 8 := by decide
  simp only [Host.canonicalJson] at v i s r ac re k tr
  simp only [List.map_cons, List.map_nil, List.sum_cons, List.sum_nil, dumpId, dumpTime] at size
  simp only [serializedBytes, Host.canonicalJson, SourceEventAssociation.toJson, dumpId, dumpTime]
  omega

theorem requireBatch_accepts {h : Host} {incidentId : String}
    (associations : List SourceEventAssociation)
    (safe : ∀ a ∈ associations, RepositorySafe h a.toJson) (size : Nat)
    (room : size + 60001 * associations.length ≤ maxRepositoryBatchBytes) :
    requireBatch h incidentId size associations = .ok () := by
  induction associations generalizing size with
  | nil => rfl
  | cons a rest ih =>
    have bytes := association_size h a
    rw [List.length_cons] at room
    have later := ih (fun b member => safe b (List.mem_cons_of_mem _ member))
      (size + serializedBytes h a.toJson + 1) (by omega)
    rw [requireBatch, assertSafe_of_safe _ (safe a List.mem_cons_self)]
    refine Checks.bind_ok.mpr ⟨_, rfl, Checks.seq_ok.mpr ⟨Checks.require_ok.mpr ?_, later⟩⟩
    omega

/-! The request. -/

def MigrationEntry.metadata (h : Host) (profile : SourceProfile) (e : MigrationEntry) :
    WriteMetadata := importMetadata h profile e.incident

def MigrationEntry.fingerprint (h : Host) (profile : SourceProfile) (e : MigrationEntry) :
    Sha256.Digest :=
  NetworkAgent.fingerprint h importOperation (("incident", e.incident.toJson) ::
    ("associations", .arr (e.associations.map (·.toJson))) :: (e.metadata h profile).fields)

def MigrationEntry.request (h : Host) (profile : SourceProfile) (e : MigrationEntry) : Request where
  scope := ⟨importOperation, e.id, (e.metadata h profile).idempotencyKey⟩
  fingerprint := e.fingerprint h profile
  metadata := e.metadata h profile

set_option maxRecDepth 8000 in
theorem importRequest_accepts {h : Host} {profile : SourceProfile} {entries : List MigrationEntry}
    {e : MigrationEntry} (safe : e.Safe h) (eligible : Eligible entries e) (named : Named e.incident) :
    importRequest h e.incident e.associations (e.metadata h profile) =
      .ok (e.request h profile) := by
  obtain ⟨_, _, detected, revision, provenance⟩ := eligible.unquarantined
  have scope : requestScope importOperation e.id (e.metadata h profile).idempotencyKey =
      .ok (e.request h profile).scope := by
    refine requestScope_ok.mpr ⟨?_, ?_, ?_, rfl⟩
    · decide
    · exact requireNonEmpty_ok.mpr ⟨named.1, e.incident.incidentId.short⟩
    · have size : (e.metadata h profile).idempotencyKey.length = 77 := key_length _
      exact requireNonEmpty_ok.mpr ⟨key_notBlank _, by omega⟩
  have batch : requireBatch h e.incident.incidentId.text 0 e.associations = .ok () := by
    refine requireBatch_accepts e.associations safe.associations 0 ?_
    have few := e.bounded
    simp only [maxMigrationIncidents, maxRepositoryBatchBytes] at few ⊢
    omega
  simp only [importRequest, Checks.bind_ok, requireValue_ok, liftValidation_ok, pure, Except.pure,
    Except.ok.injEq]
  exact ⟨(), importMetadata_accepted safe.incident named, (), safe.valid, (),
    ⟨detected, revision⟩, (), rfl, _, assertSafe_of_safe _ safe.incident, (), e.bounded, (), batch,
    (), e.distinct, (), provenance, (), e.bound, _, scope, rfl⟩

end NetworkAgent.Migration
