import NetworkAgent.Library.Sorting
import NetworkAgent.Memory.Importing
import NetworkAgent.Cloud.Closure

/-! When the Spanner repository replays an import: the validation of a replay compares the
current associations of the incident with the imported ones. -/
namespace NetworkAgent.Cloud
open Checks
open Memory (Request Records)

theorem boundedPage_of_parsed {R A : Type} {h : Host} {boundary : String}
    {parse : R → Except IncidentError A} {image : A → Json} {size : Nat} {rows : List R}
    {page : List A} (parsed : List.Forall₂ (fun r a => parse r = .ok a) rows page)
    (fits : size + (page.map fun a => serializedBytes h (image a) + 1).sum ≤
      maxRepositoryBatchBytes) : boundedPage h boundary parse image size rows = .ok page := by
  induction parsed generalizing size with
  | nil => rfl
  | @cons r a rows page first later ih =>
    simp only [List.map_cons, List.sum_cons] at fits
    have here : size + serializedBytes h (image a) + 1 ≤ maxRepositoryBatchBytes := by omega
    simp only [boundedPage, first, Bind.bind, Except.bind, require, if_pos here]
    rw [ih (by omega)]
    rfl

/-! The order of the keys. -/

theorem digest_ext {d e : Sha256.Digest} (same : d.text = e.text) : d = e := by
  cases d; cases e; cases same; rfl

theorem value_injective {a b : ActiveKeyKind} (same : a.value = b.value) : a = b := by
  cases a <;> cases b <;> first | rfl | exact absurd same (by decide)

theorem keyLe_iff {a b : ActiveKey} : keyLe a b = true ↔ textLe a.1.text b.1.text = true ∧
    (a.1 = b.1 → textLe a.2.value b.2.value = true) := by
  simp only [keyLe, Bool.and_eq_true, Bool.or_eq_true, bne_iff_ne, ne_eq, imp_iff_not_or]

theorem keyLe_total (a b : ActiveKey) : keyLe a b = true ∨ keyLe b a = true := by
  simp only [keyLe_iff]
  by_cases same : a.1 = b.1
  · have self : textLe a.1.text a.1.text = true := (textLe_total _ _).elim id id
    rw [← same]
    exact (textLe_total a.2.value b.2.value).imp (fun le => ⟨self, fun _ => le⟩)
      (fun le => ⟨self, fun _ => le⟩)
  · exact (textLe_total a.1.text b.1.text).imp (fun le => ⟨le, fun h => absurd h same⟩)
      (fun le => ⟨le, fun h => absurd h.symm same⟩)

theorem keyLe_trans (a b c : ActiveKey) (first : keyLe a b = true) (second : keyLe b c = true) :
    keyLe a c = true := by
  simp only [keyLe_iff] at *
  refine ⟨textLe_trans first.1 second.1, fun same => ?_⟩
  have ab : a.1 = b.1 := digest_ext (textLe_antisymm first.1 (same ▸ second.1))
  exact textLe_trans (first.2 ab) (second.2 (ab ▸ same))

theorem keyLe_antisymm {a b : ActiveKey} (first : keyLe a b = true) (second : keyLe b a = true) :
    a = b := by
  simp only [keyLe_iff] at *
  have same : a.1 = b.1 := digest_ext (textLe_antisymm first.1 second.1)
  exact Prod.ext same (value_injective (textLe_antisymm (first.2 same) (second.2 same.symm)))

namespace Spanner
variable {h : Host} {s : Spanner} {i : Incident} {associations : List SourceEventAssociation}

/-- No source event but the imported ones is associated with the incident. -/
def OnlyImported (s : Spanner) (i : Incident) (associations : List SourceEventAssociation) : Prop :=
  ∀ row ∈ s.sourceEvents.values, row.columns.incidentId = i.incidentId.text →
    ∃ a ∈ associations, row.columns.sourceEventId = a.sourceEventId.text

def Linked (s : Spanner) (i : Incident) (associations : List SourceEventAssociation) : Prop :=
  ∀ a ∈ associations, s.sourceEvents.lookup (i.incidentId.text, a.sourceEventId.text) =
    some ⟨sourceBinding a, a⟩

theorem values_nodup (keyed : s.Keyed h) : s.sourceEvents.values.Nodup := by
  have keys : (s.sourceEvents.rows.map (·.1)).Nodup := rows_nodup s.sourceEvents
  have same : s.sourceEvents.values = s.sourceEvents.rows.map (·.2) := by
    simp [Table.values, Table.rows, List.map_map, Function.comp_def]
  rw [same]
  have distinct := keys.of_map
  refine (List.nodup_map_iff_inj_on distinct).mpr fun r first r' second equal => ?_
  have key := (keyed.sources r.1 r.2 (Table.mem_rows.mp first)).1
  have key' := (keyed.sources r'.1 r'.2 (Table.mem_rows.mp second)).1
  exact Prod.ext (key.symm.trans (equal ▸ key')) equal

theorem sourceRows_imported (keyed : s.Keyed h) (linked : Linked s i associations)
    (only : OnlyImported s i associations) (unique : (associations.map (·.sourceEventId)).Nodup)
    (bound : ∀ a ∈ associations, a.incidentId = i.incidentId) :
    s.sourceRows i.incidentId.text =
      (sortedAssociations associations).map fun a => ⟨sourceBinding a, a⟩ := by
  have own : ∀ row ∈ s.sourceEvents.values, s.sourceEvents.lookup row.key = some row := by
    intro row member
    obtain ⟨k, stored⟩ := Table.mem_values.mp member
    exact (keyed.sources k row stored).1 ▸ stored
  have perm : (s.sourceEvents.values.filter fun r =>
      r.columns.incidentId = i.incidentId.text).Perm
      (associations.map fun a => ⟨sourceBinding a, a⟩) := by
    refine (List.perm_ext_iff_of_nodup ((values_nodup keyed).filter _) ?_).mpr fun row => ?_
    · exact unique.of_map.map fun a b same => congrArg SourceRow.payload same
    · simp only [List.mem_filter, decide_eq_true_eq, List.mem_map]
      constructor
      · rintro ⟨member, named⟩
        obtain ⟨a, inside, same⟩ := only row member named
        have stored := own row member
        rw [SourceRow.key, named, same, linked a inside] at stored
        exact ⟨a, inside, Option.some.inj stored⟩
      · rintro ⟨a, inside, rfl⟩
        exact ⟨Table.mem_values.mpr ⟨_, linked a inside⟩, congrArg (·.text) (bound a inside)⟩
  have sorted := Sorting.insertionSort_eq_of_perm
    (r := fun a b : SourceRow => textLe a.columns.sourceEventId b.columns.sourceEventId)
    (fun a b => textLe_total _ _) (fun a b c => textLe_trans) (fun a first b second le ge => by
      obtain ⟨first, named⟩ := List.mem_filter.mp first
      obtain ⟨second, named'⟩ := List.mem_filter.mp second
      have key : a.key = b.key := Prod.ext
        ((of_decide_eq_true named).trans (of_decide_eq_true named').symm) (textLe_antisymm le ge)
      exact Option.some.inj ((own a first).symm.trans (key ▸ own b second))) perm
  rw [sourceRows, sorted]
  exact (List.map_insertionSort (fun a b => textLe a.sourceEventId.text b.sourceEventId.text = true)
    (fun a b : SourceRow =>
      textLe a.columns.sourceEventId b.columns.sourceEventId = true)
    (fun a => ⟨sourceBinding a, a⟩) associations fun a _ b _ => Iff.rfl).symm

theorem sourcePage_imported (keyed : s.Keyed h) (linked : Linked s i associations)
    (unique : (associations.map (·.sourceEventId)).Nodup)
    (bound : ∀ a ∈ associations, a.incidentId = i.incidentId ∧ RepositorySafe h a.toJson)
    (few : associations.length ≤ maxIncidentSourceEvents)
    (small : (associations.map fun a => serializedBytes h a.toJson + 1).sum ≤
      maxRepositoryBatchBytes) (boundary : String) :
    s.sourcePage h boundary i.incidentId.text = .ok (sortedAssociations associations) ↔
      OnlyImported s i associations := by
  have size : (sortedAssociations associations).length = associations.length :=
    List.length_insertionSort _ _
  constructor
  · intro read row member named
    have page := pageOf_read read (size ▸ few)
    obtain ⟨built, inside⟩ := page.bound row member named
    exact ⟨row.payload, mem_sortedAssociations.mp inside, by rw [built]; rfl⟩
  · intro only
    have rows := sourceRows_imported keyed linked only unique fun a inside => (bound a inside).1
    have whole : ((sortedAssociations associations).map fun a =>
        (⟨sourceBinding a, a⟩ : SourceRow)).take (maxIncidentSourceEvents + 1) =
        (sortedAssociations associations).map fun a => ⟨sourceBinding a, a⟩ :=
      List.take_of_length_le (by rw [List.length_map, size]; omega)
    rw [sourcePage, rows, whole]
    refine boundedPage_of_parsed ?_ ?_
    · rw [List.forall₂_map_left_iff]
      refine List.forall₂_same.mpr fun a inside => sourceRow_parse_ok.mpr ⟨rfl, ?_, ?_⟩
      · exact congrArg (·.text) (bound a (mem_sortedAssociations.mp inside)).1
      · exact (bound a (mem_sortedAssociations.mp inside)).2
    · have perm := (List.perm_insertionSort (fun a b : SourceEventAssociation =>
        textLe a.sourceEventId.text b.sourceEventId.text) associations).map
          fun a => serializedBytes h a.toJson + 1
      rw [Nat.zero_add, sortedAssociations, perm.sum_nat]
      exact small

def indexKeys (s : Spanner) (incidentId : String) : List ActiveKey :=
  (s.activeKeys.rows.filter fun r => r.2.incidentId = incidentId).map fun r => (r.1, r.2.kind)

theorem indexKeys_nodup (s : Spanner) (incidentId : String) : (s.indexKeys incidentId).Nodup := by
  have keys := (rows_nodup s.activeKeys).sublist ((List.filter_sublist
    (p := fun r : Sha256.Digest × ActiveKeyRow => r.2.incidentId = incidentId)).map (·.1))
  exact List.Nodup.of_map (·.1) (by rw [indexKeys, List.map_map]; exact keys)

theorem mem_indexKeys {incidentId : String} {key : ActiveKey} :
    key ∈ s.indexKeys incidentId ↔
      s.activeKeys.lookup key.1 = some ⟨key.2, incidentId⟩ := by
  simp only [indexKeys, List.mem_map, List.mem_filter, Table.mem_rows, decide_eq_true_eq, Prod.exists]
  constructor
  · rintro ⟨hash, row, ⟨stored, rfl⟩, rfl⟩
    exact stored
  · intro stored
    exact ⟨key.1, _, ⟨stored, rfl⟩, rfl⟩

theorem mem_sortedKeys {keys : List ActiveKey} {key : ActiveKey} :
    key ∈ sortedKeys keys ↔ key ∈ keys := by
  rw [sortedKeys, List.mem_insertionSort, List.mem_dedup]

theorem ownsKey_imported {current : Incident} (lineage : SameLineage current i)
    (linked : Linked s i associations) (only : OnlyImported s i associations)
    (bound : ∀ a ∈ associations, a.incidentId = i.incidentId) {key : ActiveKey} :
    OwnsKey h s current key ↔
      key ∈ correlationKeys h i ++ sourceKeys h (associations.map (·.sourceEventId.text)) := by
  have correlation : correlationKeys h current = correlationKeys h i := by
    rw [correlationKeys, lineage.2.1, correlationKeys]
  rw [OwnsKey, correlation, lineage.1, List.mem_append, mem_sourceKeys_map]
  refine or_congr_right ⟨?_, ?_⟩
  · rintro ⟨row, member, named, rfl⟩
    obtain ⟨a, inside, same⟩ := only row member named
    exact ⟨a, inside, by rw [same]⟩
  · rintro ⟨a, inside, rfl⟩
    exact ⟨_, Table.mem_values.mpr ⟨_, linked a inside⟩, congrArg (·.text) (bound a inside), rfl⟩

theorem mem_migrationActiveKeys
    (listed : ∀ id ∈ i.sourceEventIds, ∃ a ∈ associations, a.sourceEventId = id) {key : ActiveKey} :
    key ∈ migrationActiveKeys h i associations ↔
      key ∈ correlationKeys h i ++ sourceKeys h (associations.map (·.sourceEventId.text)) := by
  simp only [migrationActiveKeys, mem_sortedKeys, candidateActiveKeys, List.mem_append,
    mem_sourceKeys_map, or_assoc]
  refine or_congr_right ⟨?_, .inr⟩
  rintro (⟨id, member, rfl⟩ | found)
  · obtain ⟨a, inside, rfl⟩ := listed id member
    exact ⟨a, inside, rfl⟩
  · exact found

theorem persistedKeys_imported {current : Incident} (indexed : Indexed h s)
    (stored : s.incidents.lookup i.incidentId.text = some (incidentValues current))
    (lineage : SameLineage current i) (linked : Linked s i associations)
    (only : OnlyImported s i associations)
    (bound : ∀ a ∈ associations, a.incidentId = i.incidentId)
    (listed : ∀ id ∈ i.sourceEventIds, ∃ a ∈ associations, a.sourceEventId = id)
    (few : associations.length ≤ maxIncidentSourceEvents) :
    s.persistedKeys i.incidentId.text =
        (if current.status.isSettled then [] else migrationActiveKeys h i associations) ∧
      (s.persistedKeys i.incidentId.text).length ≤ maxIncidentSourceEvents + 1 := by
  have held : ∀ key : ActiveKey, s.activeKeys.lookup key.1 = some ⟨key.2, i.incidentId.text⟩ ↔
      current.status.isActive = true ∧ key ∈ migrationActiveKeys h i associations := by
    intro key
    rw [indexed, mem_migrationActiveKeys listed,
      ← ownsKey_imported (h := h) lineage linked only bound]
    constructor
    · rintro ⟨j, here, active, owns⟩
      rw [stored] at here
      cases congrArg IncidentRow.payload (Option.some.inj here)
      exact ⟨active, owns⟩
    · rintro ⟨active, owns⟩
      exact ⟨current, stored, active, owns⟩
  have members : ∀ key, key ∈ s.indexKeys i.incidentId.text ↔
      current.status.isActive = true ∧ key ∈ migrationActiveKeys h i associations :=
    fun key => mem_indexKeys.trans (held key)
  have small : ((correlationKeys h i ++
      sourceKeys h (associations.map (·.sourceEventId.text))).length) ≤
        maxIncidentSourceEvents + 1 := by
    have one : (correlationKeys h i).length ≤ 1 := by
      rw [correlationKeys, Option.length_toList]
      cases i.correlationKey <;> simp
    simp only [List.length_append, sourceKeys, List.length_map]
    omega
  have few' : (s.indexKeys i.incidentId.text).length ≤ maxIncidentSourceEvents + 1 := by
    refine Nat.le_trans ?_ small
    rw [← List.dedup_eq_self.mpr (indexKeys_nodup s i.incidentId.text)]
    exact Nat.le_trans (List.dedup_length_le_of_subset fun key member =>
      (mem_migrationActiveKeys listed).mp ((members key).mp member).2)
        (List.dedup_sublist _).length_le
  have whole : s.persistedKeys i.incidentId.text =
      (s.indexKeys i.incidentId.text).insertionSort fun a b => keyLe a b := by
    rw [persistedKeys, List.map_take, ← indexKeys, List.take_of_length_le (by omega)]
  rw [whole]
  refine ⟨?_, by rw [List.length_insertionSort]; exact few'⟩
  by_cases settled : current.status.isSettled = true
  · rw [if_pos settled]
    have inactive : ¬ current.status.isActive = true := by simp [IncidentStatus.isActive, settled]
    have none : s.indexKeys i.incidentId.text = [] :=
      List.eq_nil_iff_forall_not_mem.mpr fun key member => inactive ((members key).mp member).1
    rw [none]
    rfl
  · rw [if_neg settled]
    have active : current.status.isActive = true := by simpa [IncidentStatus.isActive] using settled
    refine Sorting.insertionSort_eq_of_perm keyLe_total keyLe_trans
      (fun a _ b _ => keyLe_antisymm) ?_
    refine (List.perm_ext_iff_of_nodup (indexKeys_nodup _ _) (List.nodup_dedup _)).mpr fun key => ?_
    rw [members, migrationActiveKeys, mem_sortedKeys, List.mem_dedup]
    exact and_iff_right active

/-! What an import leaves behind. -/

structure Imported (h : Host) (s : Spanner) (i : Incident)
    (associations : List SourceEventAssociation) (r : Request) (result : Incident) : Prop where
  replayed : s.replay h r.scope r.fingerprint = .ok (some result)
  current : ∃ current, s.incidents.lookup i.incidentId.text = some (incidentValues current) ∧
    SameLineage current i
  linked : Linked s i associations
  event : ∃ e, s.audit.lookup (i.incidentId.text, 0) = some (auditRow e) ∧
    e.incidentId.text = i.incidentId.text ∧ RepositorySafe h e.toJson ∧ e.fromStatus = none ∧
    e.toStatus = .detected ∧ e.revision = 0 ∧ Records r.metadata e

theorem SameLineage.evolved {a b i : Incident} (lineage : SameLineage a i)
    (evolved : Memory.Evolved a b) : SameLineage b i := by
  have same := evolved.identity
  obtain ⟨incidentId, key, technology, trace, detected, created, sources⟩ := lineage
  refine ⟨same.incidentId.trans incidentId, same.correlationKey.trans key,
    same.technology.trans technology, same.traceId.trans trace, same.detectedAt.trans detected,
    same.createdAt.trans created, fun id member => ?_⟩
  obtain ⟨found, inside, equal⟩ := evolved.history.sourceEventIds.mem (sources member)
  have equal : found = id := equal
  exact equal ▸ inside

theorem Imported.kept {s' : Spanner} {r : Request} {result : Incident}
    (imported : Imported h s i associations r result) (keyed : s'.Keyed h) (kept : Kept s s') :
    Imported h s' i associations r result where
  replayed := by
    obtain ⟨stored, valid, safe⟩ := replay_some.mp imported.replayed
    exact replay_some.mpr ⟨kept.idempotency _ _ stored, valid, safe⟩
  current := by
    obtain ⟨current, stored, lineage⟩ := imported.current
    obtain ⟨row, stored', evolved⟩ := kept.incidents _ _ stored
    exact ⟨row.payload, (keyed.incidents _ _ stored').1 ▸ stored', lineage.evolved evolved⟩
  linked a inside := kept.sources _ _ (imported.linked a inside)
  event := by
    obtain ⟨e, stored, rest⟩ := imported.event
    exact ⟨e, kept.audit _ _ stored, rest⟩

structure Replayable (h : Host) (s : Spanner) (i : Incident)
    (associations : List SourceEventAssociation) (w : WriteMetadata) : Prop where
  plain : Plain w
  only : OnlyImported s i associations
  safe : ∀ row, s.incidents.lookup i.incidentId.text = some row → RepositorySafe h row.payload.toJson

theorem importEvent_iff {w : WriteMetadata} {r : Request} {e : IncidentAuditEvent}
    (requested : Requested h w r) (trace : i.traceId.text = w.traceId) (fromStatus : e.fromStatus = none)
    (toStatus : e.toStatus = .detected) (revision : e.revision = 0)
    (records : Records r.metadata e) : ImportEvent r e ↔ Plain w := by
  have key : e.idempotencyKey.text = r.scope.idempotencyKey := by
    rw [records.idempotencyKey, requested.metadata, requested.key, stripWhitespace_strip]
  have traced : e.traceId.text = r.metadata.traceId := by
    rw [records.traceId, requested.trace, ← trace, trimmed_text]
  have actor : r.metadata.actor = w.actor := by rw [requested.metadata]
  have reason : r.metadata.reason = w.reason := by rw [requested.metadata]
  simp only [ImportEvent, Plain, fromStatus, toStatus, revision, key, traced, records.actor,
    records.reason, actor, reason, true_and, and_true]

theorem validateImportReplay_ok {w : WriteMetadata} {r : Request} {result : Incident}
    (keyed : s.Keyed h) (indexed : Indexed h s)
    (imported : Imported h s i associations r result) (same : PyEq.Same result i)
    (request : ImportRequest h i associations w r)
    (small : (associations.map fun a => serializedBytes h a.toJson + 1).sum ≤
      maxRepositoryBatchBytes) :
    s.validateImportReplay h result i associations r = .ok () ↔
      Replayable h s i associations w := by
  obtain ⟨current, stored, lineage⟩ := imported.current
  obtain ⟨e, row, named, passes, fromStatus, toStatus, revision, records⟩ := imported.event
  have page := sourcePage_imported keyed imported.linked request.unique request.bound
    request.bounded small "migration-source-replay"
  have event := importEvent_iff request.requested request.trace fromStatus toStatus revision records
  have parsed : (auditRow e).parse h i.incidentId.text = .ok e :=
    auditRow_parse_ok.mpr ⟨rfl, named, passes⟩
  obtain ⟨_, _, valid⟩ := keyed.incidents _ _ stored
  constructor
  · intro passed
    simp only [validateImportReplay, Checks.bind_ok, requireConsistent_ok] at passed
    obtain ⟨_, _, found, got, passed⟩ := passed
    split at passed
    · cases passed
    · obtain ⟨here, _, _, safe⟩ := get_some.mp got
      simp only [Checks.bind_ok, requireConsistent_ok] at passed
      obtain ⟨_, _, read, known, _, rfl, passed⟩ := passed
      simp only [row, Checks.bind_ok, requireConsistent_ok, parsed, Except.ok.injEq] at passed
      obtain ⟨_, rfl, _, plain, _⟩ := passed
      refine ⟨event.mp plain, page.mp known, fun row' stored' => ?_⟩
      rw [here] at stored'
      exact Option.some.inj stored' ▸ safe
  · intro replayable
    have got : s.get h i.incidentId.text = .ok (some current) :=
      get_some.mpr ⟨stored, congrArg (·.text) lineage.1, valid, replayable.safe _ stored⟩
    have keys := persistedKeys_imported indexed stored lineage imported.linked replayable.only
      (fun a inside => (request.bound a inside).1) request.listed request.bounded
    simp only [validateImportReplay, Checks.bind_ok, requireConsistent_ok]
    refine ⟨(), same, some current, got, ?_⟩
    simp only [Checks.bind_ok, requireConsistent_ok]
    refine ⟨(), lineage, _, page.mpr replayable.only, (), rfl, ?_⟩
    simp only [row, Checks.bind_ok, requireConsistent_ok, parsed, Except.ok.injEq]
    exact ⟨e, rfl, (), event.mpr replayable.plain, (), keys.2, keys.1⟩

theorem importRequest_small {w : WriteMetadata} {r : Request}
    (done : importRequest h i associations w = .ok r) :
    (associations.map fun a => serializedBytes h a.toJson + 1).sum ≤ maxRepositoryBatchBytes := by
  simp only [importRequest, Checks.bind_ok] at done
  obtain ⟨_, _, _, _, _, _, _, _, _, _, _, _, _, policy, _⟩ := done
  have total := (requireAssociations_ok policy).2
  omega

theorem imported_of_accepted {s' : Spanner} {w : WriteMetadata} {now : Instant}
    {answer : Incident × Bool} (keyed : s.Keyed h)
    (accepted : s.importDetectedSnapshot h i associations w now = (.ok answer, s')) :
    ∃ r, importRequest h i associations w = .ok r ∧ PyEq.Same answer.1 i ∧
      Imported h s' i associations r answer.1 := by
  obtain ⟨mutations, done, commits⟩ := execute_ok (congrArg Prod.fst accepted)
  obtain ⟨r, requested, done⟩ := Checks.bind_ok.mp done
  obtain ⟨found, looked, done⟩ := Checks.bind_ok.mp done
  have request := importRequest_ok requested
  have left : (s.importDetectedSnapshot h i associations w now).2 = s' :=
    congrArg Prod.snd accepted
  change commit mutations s = .ok (s.importDetectedSnapshot h i associations w now).2 at commits
  rw [left] at commits
  refine ⟨r, requested, ?_⟩
  cases found with
  | some result =>
    simp only [Checks.bind_ok, pure, Except.pure, Except.ok.injEq, Prod.mk.injEq] at done
    obtain ⟨_, passed, rfl, rfl⟩ := done
    cases commits
    simp only [validateImportReplay, Checks.bind_ok, requireConsistent_ok] at passed
    obtain ⟨_, same, current, got, passed⟩ := passed
    split at passed
    · cases passed
    · simp only [Checks.bind_ok, requireConsistent_ok] at passed
      obtain ⟨_, lineage, page, read, _, rfl, passed⟩ := passed
      split at passed
      · cases passed
      · next row known =>
        simp only [Checks.bind_ok, requireConsistent_ok] at passed
        obtain ⟨e, parsed, _, event, _⟩ := passed
        obtain ⟨rfl, named, safe⟩ := auditRow_parse_ok.mp parsed
        obtain ⟨fromStatus, toStatus, revision, key, actor, reason, trace⟩ := event
        have size : (sortedAssociations associations).length ≤ maxIncidentSourceEvents :=
          (List.length_insertionSort _ _).le.trans request.bounded
        refine ⟨same, looked, ⟨_, (get_some.mp got).1, lineage⟩, fun a inside => ?_, e, known,
          named, safe, fromStatus, toStatus, revision, ?_⟩
        · obtain ⟨member, own, _⟩ :=
            (pageOf_read read size).stored a (mem_sortedAssociations.mpr inside)
          obtain ⟨k, stored⟩ := Table.mem_values.mp member
          have at_key := (keyed.sources k _ stored).1
          rw [← at_key] at stored
          rw [← own]
          exact stored
        · have metadata : r.metadata.idempotencyKey = r.scope.idempotencyKey := by
            rw [request.requested.metadata, request.requested.key]
          exact ⟨by rw [metadata, ← key, trimmed_text], by rw [← actor, trimmed_text],
            by rw [← reason, trimmed_text], by rw [← trace, trimmed_text]⟩
  | none =>
    obtain ⟨rfl, event, opening⟩ := importTx_ok request done commits
    have tables := opening.opened
    have built := auditEvent_of_auditEventOf opening.built
    have of := Memory.eventOf_auditEvent built
    have revision : event.revision = 0 := by rw [of.revision, request.new.revision]
    refine ⟨.refl _, replay_some.mpr ⟨tables.booked.idempotency.lookup.mpr
      (.inl List.mem_cons_self), request.new.valid, request.new.safe⟩,
      ⟨i, tables.incidents.lookup.mpr (.inl List.mem_cons_self), rfl, rfl, rfl, rfl, rfl, rfl,
        fun _ member => member⟩, fun a inside => ?_, event, ?_, congrArg (·.text) of.incidentId,
      auditEvent_safe request.requested.metadata_clean (Incident.clean_of_safe request.new.safe).1
        ?_ built, of.fromStatus, of.toStatus.trans request.new.detected, revision,
      Memory.records_of_auditEvent built⟩
    · refine tables.sources.added.lookup.mpr (.inl ?_)
      rw [List.map_map]
      have own : i.incidentId.text = a.incidentId.text :=
        congrArg (·.text) (request.bound a inside).1.symm
      exact List.mem_map.mpr ⟨a, mem_sortedAssociations.mpr inside, by rw [own]; rfl⟩
    · refine tables.booked.audit.lookup.mpr (.inl (List.mem_singleton.mpr ?_))
      have key : (auditRow event).key = (i.incidentId.text, 0) :=
        Prod.ext (congrArg (·.text) of.incidentId) revision
      rw [key]
    · rw [request.new.revision]
      exact Nat.zero_le _

/-- The import is answered as a replay of this snapshot, and nothing changes. -/
def Replayed (h : Host) (s : Spanner) (i : Incident) (associations : List SourceEventAssociation)
    (w : WriteMetadata) (now : Instant) (result : Incident) : Prop :=
  s.importDetectedSnapshot h i associations w now = (.ok (result, true), s)

/-- After any calls, an accepted import is replayed exactly when its actor and reason are plain,
no other source event is associated with the incident, and its row passes the payload policy. -/
theorem import_replayed_iff {h : Host} {before after : List (Instant × Call)} {i : Incident}
    {associations : List SourceEventAssociation} {w : WriteMetadata} {now later : Instant}
    {answer : Incident × Bool} {s : Spanner}
    (accepted : (run h {} before).importDetectedSnapshot h i associations w now = (.ok answer, s)) :
    Replayed h (run h s after) i associations w later answer.1 ↔
      Replayable h (run h s after) i associations w := by
  obtain ⟨r, requested, same, imported⟩ := imported_of_accepted (run_keyed h before) accepted
  have reached : run h s after =
      run h {} (before ++ (now, .importDetectedSnapshot i associations w) :: after) := by
    have left : next h (run h {} before) (now, .importDetectedSnapshot i associations w) = s :=
      congrArg Prod.snd accepted
    rw [run, run, Runs.run_append, Runs.run]
    exact congrArg (Runs.run (next h) · after) left.symm
  have keyed : (run h s after).Keyed h := reached ▸ run_keyed h _
  have indexed : Indexed h (run h s after) := reached ▸ run_indexed h _
  have now_imported := imported.kept keyed (run_kept h s after)
  have passes := validateImportReplay_ok keyed indexed now_imported same
    (importRequest_ok requested) (importRequest_small requested)
  have answered : Replayed h (run h s after) i associations w later answer.1 ↔
      (run h s after).validateImportReplay h answer.1 i associations r = .ok () := by
    simp only [Replayed, importDetectedSnapshot, requested, now_imported.replayed, Bind.bind,
      Except.bind]
    cases (run h s after).validateImportReplay h answer.1 i associations r with
    | ok u => simp [execute, commit, pure, Except.pure]
    | error e => simp [execute]
  rw [answered, passes]

/-! A snapshot that a source event is correlated to after its import. -/
namespace Correlation

def snapshot : Incident where
  incidentId := .ofText "snapshot" fits_snapshot
  correlationKey := some (.ofText "cell" (by decide +kernel))
  detectedAt := 0
  traceId := .ofText "trace" fits_trace
  createdAt := 0
  updatedAt := 0

def candidate : Incident :=
  { snapshot with
    incidentId := .ofText "candidate" (by decide +kernel)
    sourceEventIds := [.ofText "event" fits_event] }

def operator : WriteMetadata := ⟨"import-1", "operator", "migrate", "trace"⟩

def later : List (Instant × Call) :=
  [(2, .createOrCorrelate candidate ⟨"correlate-1", "operator", "ingest", "trace"⟩)]

def imported : Spanner :=
  ((run Host.ascii {} []).importDetectedSnapshot Host.ascii snapshot [] operator 1).2

/-- What the import and its repetition answer. -/
class Computed : Prop where
  accepted : ((run Host.ascii {} []).importDetectedSnapshot Host.ascii snapshot [] operator 1).1 =
    .ok (snapshot, false)
  refused : ((run Host.ascii imported later).importDetectedSnapshot Host.ascii snapshot [] operator
    3).1 = .error (.inconsistent "persisted migration source provenance is inconsistent")

instance computed : Computed := by
  have both : ((run Host.ascii {} []).importDetectedSnapshot Host.ascii snapshot [] operator 1).1 =
      .ok (snapshot, false) ∧
    ((run Host.ascii imported later).importDetectedSnapshot Host.ascii snapshot [] operator 3).1 =
      .error (.inconsistent "persisted migration source provenance is inconsistent") := by
    decide +kernel
  exact ⟨both.1, both.2⟩

theorem imported_eq : (run Host.ascii {} []).importDetectedSnapshot Host.ascii snapshot [] operator 1 =
    (.ok (snapshot, false), imported) := Memory.eq_of_fst computed.accepted

end Correlation

theorem import_replayed_iff_sample :
    Replayed Host.ascii (run Host.ascii Correlation.imported []) Correlation.snapshot []
        Correlation.operator 2 Correlation.snapshot ↔
      Replayable Host.ascii (run Host.ascii Correlation.imported []) Correlation.snapshot []
        Correlation.operator :=
  @import_replayed_iff _ _ [] _ _ _ _ 2 _ _ Correlation.imported_eq

/-- A source event correlated to the snapshot makes every later replay of its import fail. -/
theorem correlated_import_not_replayed : ¬ ∀ (h : Host) (before after : List (Instant × Call))
    (i : Incident) (associations : List SourceEventAssociation) (w : WriteMetadata)
    (now later : Instant) (answer : Incident × Bool) (s : Spanner),
    (run h {} before).importDetectedSnapshot h i associations w now = (.ok answer, s) →
    Replayed h (run h s after) i associations w later answer.1 := by
  intro claimed
  have replayed := claimed Host.ascii [] Correlation.later Correlation.snapshot []
    Correlation.operator 1 3 _ _ Correlation.imported_eq
  have answer := congrArg Prod.fst replayed
  exact absurd (Correlation.computed.refused.symm.trans answer) (by simp)

end Spanner
end NetworkAgent.Cloud
