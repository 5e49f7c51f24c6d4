import NetworkAgent.Memory.Calls

/-! What one call can do to the repository. Every invariant of the repository is derived
from this, and a failed call does nothing. -/
namespace NetworkAgent

theorem assertSafe_ok {h : Host} {incidentId : String} {value : Json} {n : Nat} :
    assertSafe h incidentId value = .ok n ↔ assertRepositorySafe h value = .ok n := by
  unfold assertSafe
  cases assertRepositorySafe h value <;> simp

theorem assertSafe_of_safe {h : Host} (incidentId : String) {value : Json}
    (safe : RepositorySafe h value) :
    assertSafe h incidentId value = .ok (serializedBytes h value) :=
  assertSafe_ok.mpr (assertRepositorySafe_ok.mpr ⟨safe, rfl⟩)

theorem safe_of_assertSafe {h : Host} {incidentId : String} {value : Json} {n : Nat}
    (safe : assertSafe h incidentId value = .ok n) : RepositorySafe h value :=
  (assertRepositorySafe_ok.mp (assertSafe_ok.mp safe)).1

theorem clean_of_safe {h : Host} {fields : Dict} (safe : RepositorySafe h (.obj fields))
    (key : String) {text : String} (plain : isCleanKey key = true) (member : (key, Json.str text) ∈ fields) :
    labeledIdentifier h text = false := by
  have none := safe.1
  simp only [findSensitivePaths] at none
  clear safe
  induction fields with
  | nil => cases member
  | cons f rest ih =>
    obtain ⟨key', value⟩ := f
    simp only [sensitiveFields, List.append_eq_nil_iff] at none
    rcases List.mem_cons.mp member with same | later
    · cases same
      simp only [isCleanKey, Bool.and_eq_true, Bool.not_eq_true'] at plain
      have free : labeledIdentifier h key = false := searchFrom_of_labelFree plain.1
      have head := none.1
      simp only [free, plain.2, findSensitivePaths] at head
      cases labeled : labeledIdentifier h text with
      | false => rfl
      | true => simp [labeled] at head
    · exact ih later none.2

theorem clean_of_require {h : Host} {w : WriteMetadata} (passed : w.require h = .ok ()) :
    w.Clean h := by
  simp only [WriteMetadata.require, Checks.bind_ok] at passed
  obtain ⟨_, _, _, _, _, _, _, _, _, accepted, _⟩ := passed
  have safe := safe_of_assertSafe accepted
  exact ⟨clean_of_safe safe "idempotency_key" (by decide) (by simp),
    clean_of_safe safe "actor" (by decide) (by simp [WriteMetadata.fields]),
    clean_of_safe safe "reason" (by decide) (by simp [WriteMetadata.fields]),
    clean_of_safe safe "trace_id" (by decide) (by simp [WriteMetadata.fields])⟩

theorem sensitiveItems_eq_nil {h : Host} {path : String} {n : Nat} {items : List Json}
    (none : sensitiveItems h path n items = []) {text : String} (member : Json.str text ∈ items) :
    labeledIdentifier h text = false := by
  induction items generalizing n with
  | nil => cases member
  | cons x rest ih =>
    simp only [sensitiveItems, List.append_eq_nil_iff] at none
    rcases List.mem_cons.mp member with same | later
    · subst same
      have head := none.1
      cases labeled : labeledIdentifier h text with
      | false => rfl
      | true => simp [findSensitivePaths, labeled] at head
    · exact ih none.2 later

theorem Incident.clean_of_safe {h : Host} {i : Incident} (safe : RepositorySafe h i.toJson) :
    labeledIdentifier h i.incidentId.text = false ∧
      ∀ s ∈ i.sourceEventIds, labeledIdentifier h s.text = false := by
  refine ⟨NetworkAgent.clean_of_safe safe "incident_id" (by decide)
    (by simp [Incident.fields, dumpId]), fun s member => ?_⟩
  have none := safe.1
  simp only [Incident.toJson, Incident.fields, findSensitivePaths, sensitiveFields,
    List.append_eq_nil_iff] at none
  have sources := none.2.2.2.1
  have plain : isCleanKey "source_event_ids" = true := by decide
  simp only [isCleanKey, Bool.and_eq_true, Bool.not_eq_true'] at plain
  have free : labeledIdentifier h "source_event_ids" = false := searchFrom_of_labelFree plain.1
  simp only [free, plain.2, dumpList, findSensitivePaths] at sources
  exact sensitiveItems_eq_nil sources (List.mem_map_of_mem member)

/-! An audit event passes the payload policy when its metadata holds no label. -/

theorem natText_length_le {n : Nat} (small : n ≤ 2 ^ 63 - 1) : (toString (n : Int)).length ≤ 19 := by
  have digits : (Nat.repr n).length ≤ 19 :=
    (Nat.length_repr_le_iff (by decide)).mpr (Nat.lt_of_le_of_lt small (by decide))
  exact digits

theorem auditName_clean (h : Host) (d : Sha256.Digest) :
    labeledIdentifier h ("audit-" ++ String.ofList (d.text.toList.take 32)) = false := by
  have rest : ∀ before, searchFrom h before (d.text.toList.take 32) = false := fun before =>
    searchFrom_of_startsNoLabel fun c member =>
      startsNoLabel_of_hex (List.all_eq_true.mp d.hex c (List.mem_of_mem_take member))
  rw [labeledIdentifier, Text.chars_eq, String.toList_append]
  simp only [String.toList_ofList]
  change searchFrom h false (['a', 'u', 'd', 'i', 't', '-'] ++ d.text.toList.take 32) = false
  have none : ∀ cs, matchesHere ('i' :: 't' :: cs) = false := by
    intro cs
    simp [matchesHere, labels, afterLabel, foldCase]
  have others : ∀ c ∈ ['a', 'u', 'd', 't', '-'], ∀ cs, matchesHere (c :: cs) = false := by
    intro c member cs
    have every : ['a', 'u', 'd', 't', '-'].all startsNoLabel = true := by decide
    exact matchesHere_cons (List.all_eq_true.mp every c member) cs
  simp [searchFrom, none, others, rest]

theorem auditEvent_safe {h : Host} {i : Incident} {fromStatus : Option IncidentStatus}
    {w : WriteMetadata} {fp : Sha256.Digest} {t : Instant} {e : IncidentAuditEvent}
    (clean : w.Clean h) (incident : labeledIdentifier h i.incidentId.text = false)
    (fits : i.revision ≤ 2 ^ 63 - 1) (built : auditEvent h i fromStatus w fp t = .ok e) :
    RepositorySafe h e.toJson := by
  have version : labeledIdentifier h schemaVersion = false :=
    searchFrom_of_labelFree (by decide)
  have statuses : ∀ s : IncidentStatus, labeledIdentifier h s.value = false ∧ s.value.length ≤ 17 := by
    intro s
    cases s <;> exact ⟨searchFrom_of_labelFree (by decide), by decide⟩
  unfold auditEvent at built
  generalize h.sha256 _ = d at built
  extract_lets eventId at built
  split at built
  case h_2 => cases built
  case h_1 eventId' a named parsed =>
    cases built
    obtain ⟨key, actor, reason, trace⟩ := WriteMetadata.attribution_eq_some.mp parsed
    have from_clean : IsCleanScalar h (optional (fun s => .str s.value) fromStatus) ∧
        (h.canonicalJson (optional (fun s => .str s.value) fromStatus)).length ≤ 410 := by
      cases fromStatus with
      | none => exact ⟨trivial, by simp [optional, Host.canonicalJson, Json.bytes]; decide⟩
      | some s => exact ⟨(statuses s).1, canonicalJson_str_length_le (statuses s).2⟩
    apply repositorySafe_flat
    · intro f member
      have keys : ["schema_version", "event_id", "incident_id", "from_status", "to_status",
          "revision", "occurred_at", "actor", "reason", "idempotency_key", "trace_id"].all
            isCleanKey = true := by decide
      refine List.all_eq_true.mp keys f.1 ?_
      simp only [List.mem_cons, List.not_mem_nil, or_false] at member ⊢
      rcases member with rfl | rfl | rfl | rfl | rfl | rfl | rfl | rfl | rfl | rfl | rfl <;> simp
    · intro f member
      simp only [List.mem_cons, List.not_mem_nil, or_false] at member
      rcases member with rfl | rfl | rfl | rfl | rfl | rfl | rfl | rfl | rfl | rfl | rfl
      · exact version
      · exact Identifier.parse_clean named (auditName_clean h d)
      · exact incident
      · exact from_clean.1
      · exact (statuses i.status).1
      · trivial
      · exact isoText_clean h t
      · exact Identifier.parse_clean actor clean.actor
      · exact NonEmptyStr.parse_clean reason clean.reason
      · exact Identifier.parse_clean key clean.idempotencyKey
      · exact Identifier.parse_clean trace clean.traceId
    · have v := canonicalJson_str_length_le (h := h) (show schemaVersion.length ≤ 3 by decide)
      have ev := canonicalJson_str_length_le (h := h) eventId'.short
      have ic := canonicalJson_str_length_le (h := h) i.incidentId.short
      have ts := canonicalJson_str_length_le (h := h) (statuses i.status).2
      have oc := canonicalJson_str_length_le (h := h) (isoText_length t)
      have ac := canonicalJson_str_length_le (h := h) a.actor.short
      have re := canonicalJson_str_length_le (h := h) a.reason.short
      have k := canonicalJson_str_length_le (h := h) a.idempotencyKey.short
      have tr := canonicalJson_str_length_le (h := h) a.traceId.short
      have rev : (h.canonicalJson (.int i.revision)).length ≤ 76 := by
        have short := natText_length_le fits
        have encoded := utf8_length_le (toString (i.revision : Int))
        simp only [Host.canonicalJson, Json.bytes]
        omega
      have fr := from_clean.2
      simp only [List.map_cons, List.map_nil, List.sum_cons, List.sum_nil, dumpId, dumpTime]
      have lengths : "schema_version".length = 14 ∧ "event_id".length = 8 ∧
        "incident_id".length = 11 ∧ "from_status".length = 11 ∧ "to_status".length = 9 ∧
        "revision".length = 8 ∧ "occurred_at".length = 11 ∧ "actor".length = 5 ∧
        "reason".length = 6 ∧ "idempotency_key".length = 15 ∧ "trace_id".length = 8 := by decide
      omega

namespace Memory

/-- A table of associations with more source events of one incident in it. -/
structure Linked (t t' : Table (String × String) SourceEventAssociation) (incidentId : String)
    (sources : List String) : Prop where
  kept : ∀ k ∈ t, k ∈ t'
  new : ∀ k ∈ t', k ∈ t ∨ (k.1 = incidentId ∧ k.2 ∈ sources)
  all : ∀ s ∈ sources, (incidentId, s) ∈ t'

theorem Linked.refl (t : Table (String × String) SourceEventAssociation) (incidentId : String) :
    Linked t t incidentId [] :=
  ⟨fun _ member => member, fun _ member => .inl member, by simp⟩

theorem Linked.cons {t t₁ t' : Table (String × String) SourceEventAssociation}
    {incidentId s : String} {sources : List String} (first : (incidentId, s) ∈ t₁)
    (grown : ∀ k, k ∈ t → k ∈ t₁) (added : ∀ k ∈ t₁, k ∈ t ∨ k = (incidentId, s))
    (rest : Linked t₁ t' incidentId sources) : Linked t t' incidentId (s :: sources) where
  kept := fun k member => rest.kept k (grown k member)
  new := by
    intro k member
    rcases rest.new k member with old | ⟨same, source⟩
    · rcases added k old with older | rfl
      · exact .inl older
      · exact .inr ⟨rfl, List.mem_cons_self⟩
    · exact .inr ⟨same, List.mem_cons_of_mem _ source⟩
  all := by
    intro s' member
    rcases List.mem_cons.mp member with rfl | later
    · exact rest.kept _ first
    · exact rest.all s' later

section
variable {h : Host} {incidentId : Identifier} {t : Instant} {w : WriteMetadata}

theorem addAssociations_some {a : Attribution} (clean : w.Clean h) (parsed : w.attribution = some a)
    (incident : labeledIdentifier h incidentId.text = false) {sources : List Identifier}
    (texts : ∀ s ∈ sources, labeledIdentifier h s.text = false) (m : Memory) :
    ∃ table, addAssociations h incidentId t w sources m =
      (.ok (), { m with sourceEvents := table }) ∧
      Linked m.sourceEvents table incidentId.text (sources.map (·.text)) := by
  induction sources generalizing m with
  | nil => exact ⟨m.sourceEvents, rfl, Linked.refl _ _⟩
  | cons s rest ih =>
    have tail := fun m => ih (fun s' member => texts s' (List.mem_cons_of_mem _ member)) m
    by_cases present : (incidentId.text, s.text) ∈ m.sourceEvents
    · obtain ⟨table, passed, linked⟩ := tail m
      exact ⟨table, by simp [addAssociations, present, passed],
        linked.cons present (fun _ k => k) (fun _ k => .inl k)⟩
    · have accepted := assertSafe_of_safe incidentId.text (association_safe (t := t) clean parsed
        incident (texts s List.mem_cons_self))
      obtain ⟨table, passed, linked⟩ :=
        tail (m.associate (SourceEventAssociation.build incidentId s t a))
      refine ⟨table, ?_, linked.cons ?_ ?_ ?_⟩
      · simp only [addAssociations, if_neg present, parsed, accepted, passed]
        rfl
      · simp [associate, SourceEventAssociation.build]
      · intro k member; simp [associate, member]
      · intro k member
        simpa [associate, SourceEventAssociation.build, or_comm] using member

theorem addAssociations_none (unparsed : w.attribution = none) (sources : List Identifier)
    (m : Memory) :
    (∃ e, addAssociations h incidentId t w sources m = (.error e, m)) ∨
      addAssociations h incidentId t w sources m = (.ok (), m) ∧
        Linked m.sourceEvents m.sourceEvents incidentId.text (sources.map (·.text)) := by
  induction sources with
  | nil => exact .inr ⟨rfl, Linked.refl _ _⟩
  | cons s rest ih =>
    by_cases present : (incidentId.text, s.text) ∈ m.sourceEvents
    · simp only [addAssociations, if_pos present]
      rcases ih with failed | ⟨passed, linked⟩
      · exact .inl failed
      · exact .inr ⟨passed, linked.cons present (fun _ k => k) (fun _ k => .inl k)⟩
    · exact .inl ⟨.validation (.message "SourceEventAssociation"),
        by simp only [addAssociations, if_neg present, unparsed]⟩

end

theorem Linked.congr {t t' : Table (String × String) SourceEventAssociation} {incidentId : String}
    {xs ys : List String} (linked : Linked t t' incidentId xs) (same : ∀ s, s ∈ xs ↔ s ∈ ys) :
    Linked t t' incidentId ys where
  kept := linked.kept
  new := fun k member => (linked.new k member).imp_right fun ⟨own, source⟩ =>
    ⟨own, (same k.2).mp source⟩
  all := fun s member => linked.all s ((same s).mpr member)

/-! Owners. -/

theorem mem_iff_lookup {K V : Type} [DecidableEq K] {t : Table K V} {k : K} :
    k ∈ t ↔ ∃ v, t.lookup k = some v := by
  rw [← AList.lookup_isSome, Option.isSome_iff_exists]

theorem mem_associatedSourceIds {m : Memory} {incidentId s : String} :
    s ∈ m.associatedSourceIds incidentId ↔ (incidentId, s) ∈ m.sourceEvents := by
  simp only [associatedSourceIds, List.mem_map, List.mem_filter, Table.mem_rows,
    decide_eq_true_eq, mem_iff_lookup]
  constructor
  · rintro ⟨⟨⟨_, _⟩, v⟩, ⟨known, rfl⟩, rfl⟩; exact ⟨v, known⟩
  · rintro ⟨v, known⟩; exact ⟨⟨(incidentId, s), v⟩, ⟨known, rfl⟩, rfl⟩

theorem mem_owners {m : Memory} {incidentId s : String} :
    incidentId ∈ m.owners s ↔ (incidentId, s) ∈ m.sourceEvents := by
  simp only [owners, List.mem_dedup, List.mem_map, List.mem_filter, Table.mem_rows,
    decide_eq_true_eq, mem_iff_lookup]
  constructor
  · rintro ⟨⟨⟨_, _⟩, v⟩, ⟨known, rfl⟩, rfl⟩; exact ⟨v, known⟩
  · rintro ⟨v, known⟩; exact ⟨⟨(incidentId, s), v⟩, ⟨known, rfl⟩, rfl⟩

def OwnedOnlyBy (m : Memory) (incidentId s : String) : Prop :=
  ∀ a, (a, s) ∈ m.sourceEvents → a = incidentId

theorem ownedOnlyBy_of_owner {m : Memory} {incidentId s : String} {owner : Option String}
    (found : m.sourceEventOwner s = .ok owner) (own : ∀ o ∈ owner, o = incidentId) :
    m.OwnedOnlyBy incidentId s := by
  simp only [sourceEventOwner, Checks.seq_ok, Checks.require_ok, pure, Except.pure,
    Except.ok.injEq] at found
  obtain ⟨single, rfl⟩ := found
  intro a linked
  have member := mem_owners.mpr linked
  generalize m.owners s = found at single own member
  cases found with
  | nil => cases member
  | cons b rest =>
    cases rest with
    | cons c others => simp at single
    | nil =>
      rw [List.mem_singleton.mp member]
      exact own b rfl

structure Registrable (m : Memory) (incidentId : String) (sources : List String) : Prop where
  capacity : (m.associatedSourceIds incidentId ++ sources).dedup.length ≤ maxIncidentSourceEvents
  owned : ∀ s ∈ sources, m.OwnedOnlyBy incidentId s

theorem mem_sortedSources {sources : List Identifier} {s : Identifier} :
    s ∈ sortedSources sources ↔ s ∈ sources := by
  simp [sortedSources]

theorem registrable_of_require {m : Memory} {incidentId : Identifier} {sources : List Identifier}
    (passed : m.requireRegistrable incidentId sources = .ok ()) :
    m.Registrable incidentId.text (sources.map (·.text)) := by
  simp only [requireRegistrable, Checks.seq_ok, requireValue_ok, Checks.each_ok] at passed
  refine ⟨passed.1, fun s member => ?_⟩
  obtain ⟨s, source, rfl⟩ := List.mem_map.mp member
  obtain ⟨owner, found, own⟩ := Checks.bind_ok.mp (passed.2 s (mem_sortedSources.mpr source))
  exact ownedOnlyBy_of_owner found (Checks.require_ok.mp own)

theorem registerSourceEvents_spec {h : Host} {m : Memory} {incidentId : Identifier}
    {sources : List Identifier} {t : Instant} {w : WriteMetadata} (clean : w.Clean h)
    (incident : labeledIdentifier h incidentId.text = false)
    (texts : ∀ s ∈ sources, labeledIdentifier h s.text = false) :
    (∃ e, m.registerSourceEvents h incidentId sources t w = (.error e, m)) ∨
      ∃ table, m.registerSourceEvents h incidentId sources t w =
        (.ok (), { m with sourceEvents := table }) ∧
        Linked m.sourceEvents table incidentId.text (sources.map (·.text)) ∧
        m.Registrable incidentId.text (sources.map (·.text)) := by
  have same : ∀ s, s ∈ (sortedSources sources).map (·.text) ↔ s ∈ sources.map (·.text) := by
    simp [mem_sortedSources]
  unfold registerSourceEvents
  cases checked : m.requireRegistrable incidentId sources with
  | error e => exact .inl ⟨e, rfl⟩
  | ok _ =>
    have registrable := registrable_of_require checked
    cases parsed : w.attribution with
    | some a =>
      obtain ⟨table, passed, linked⟩ := addAssociations_some (t := t) clean parsed incident
        (fun s member => texts s (mem_sortedSources.mp member)) m
      exact .inr ⟨table, passed, linked.congr same, registrable⟩
    | none =>
      rcases addAssociations_none (t := t) parsed (sortedSources sources) m with
        failed | ⟨passed, linked⟩
      · exact .inl failed
      · exact .inr ⟨m.sourceEvents, passed, linked.congr same, registrable⟩

/-! Active matches. -/

def NoActiveMatch (m : Memory) (correlationKey : Option String) (sources : List String)
    (excluded : Option String) : Prop :=
  ∀ j ∈ m.incidents.values, excluded ≠ some j.incidentId.text → j.status.isActive = true →
    ¬ m.Answers correlationKey sources j

theorem mem_activeMatches {m : Memory} {correlationKey : Option String} {sources : List String}
    {excluded : Option String} {j : Incident} :
    j ∈ m.activeMatches correlationKey sources excluded ↔ j ∈ m.incidents.values ∧
      excluded ≠ some j.incidentId.text ∧ j.status.isActive = true ∧
      m.Answers correlationKey sources j := by
  simp [activeMatches]

theorem head?_toList {α : Type} {xs : List α} (single : xs.length ≤ 1) : xs.head?.toList = xs := by
  cases xs with
  | nil => rfl
  | cons x rest =>
    cases rest with
    | nil => rfl
    | cons => simp at single

theorem findActiveLocked_ok {m : Memory} {correlationKey : Option String} {sources : List String}
    {excluded : Option String} {requestedId : String} {found : Option Incident}
    (looked : m.findActiveLocked correlationKey sources excluded requestedId = .ok found) :
    m.activeMatches correlationKey sources excluded = found.toList := by
  obtain ⟨single, answer⟩ := Checks.seq_ok.mp looked
  rw [← Except.ok.inj answer]
  exact (head?_toList (Checks.require_ok.mp single)).symm

theorem noActiveMatch_of_none {m : Memory} {correlationKey : Option String} {sources : List String}
    {excluded : Option String} {requestedId : String}
    (looked : m.findActiveLocked correlationKey sources excluded requestedId = .ok none) :
    m.NoActiveMatch correlationKey sources excluded := by
  intro j stored other active answers
  have member := mem_activeMatches.mpr ⟨stored, other, active, answers⟩
  rw [findActiveLocked_ok looked] at member
  cases member

theorem active_of_some {m : Memory} {correlationKey : Option String} {sources : List String}
    {excluded : Option String} {requestedId : String} {j : Incident}
    (looked : m.findActiveLocked correlationKey sources excluded requestedId = .ok (some j)) :
    j ∈ m.incidents.values ∧ j.status.isActive = true := by
  have member : j ∈ m.activeMatches correlationKey sources excluded := by
    rw [findActiveLocked_ok looked]; simp
  obtain ⟨stored, _, active, _⟩ := mem_activeMatches.mp member
  exact ⟨stored, active⟩

/-! The effect of a call. -/

structure EventOf (e : IncidentAuditEvent) (i : Incident) (fromStatus : Option IncidentStatus) :
    Prop where
  incidentId : e.incidentId = i.incidentId
  fromStatus : e.fromStatus = fromStatus
  toStatus : e.toStatus = i.status
  revision : e.revision = i.revision

theorem eventOf_auditEvent {h : Host} {i : Incident} {fromStatus : Option IncidentStatus}
    {w : WriteMetadata} {fp : Sha256.Digest} {t : Instant} {e : IncidentAuditEvent}
    (built : auditEvent h i fromStatus w fp t = .ok e) : EventOf e i fromStatus := by
  unfold auditEvent at built
  generalize h.sha256 _ = eventDigest at built
  extract_lets eventId at built
  split at built
  · cases built; exact ⟨rfl, rfl, rfl, rfl⟩
  · cases built

structure Opening (h : Host) (m : Memory) (i : Incident) (sources : List String) : Prop where
  fresh : i.incidentId.text ∉ m.incidents
  valid : i.Valid h
  safe : RepositorySafe h i.toJson
  detected : i.status = .detected
  revision : i.revision = 0
  listed : ∀ s ∈ i.sourceEventIds, s.text ∈ sources
  bounded : sources.dedup.length ≤ maxIncidentSourceEvents
  owned : ∀ s ∈ sources, m.OwnedOnlyBy i.incidentId.text s
  alone : m.NoActiveMatch (i.correlationKey.map (·.text)) sources none

/-- An incident that becomes active again is the only active one with its keys. -/
def Reactivated (m : Memory) (current successor : Incident) : Prop :=
  current.status.isActive = true ∨ successor.status.isSettled = true ∨
    m.NoActiveMatch (successor.correlationKey.map (·.text))
      (m.associatedSourceIds successor.incidentId.text) (some successor.incidentId.text)

/-- The answer of a call, and the repository it leaves. -/
inductive Effect (h : Host) (m : Memory) : Except RepositoryError Incident → Memory → Prop
  | failed (e : RepositoryError) : Effect h m (.error e) m
  | replayed {scope : Scope} {record : IdempotencyRecord}
      (stored : m.idempotency.lookup scope = some record) : Effect h m (.ok record.result) m
  | correlated {existing : Incident} {sources : List String} {r : Request}
      {table : Table (String × String) SourceEventAssociation}
      (stored : existing ∈ m.incidents.values) (active : existing.status.isActive = true)
      (registrable : m.Registrable existing.incidentId.text sources)
      (linked : Linked m.sourceEvents table existing.incidentId.text sources) :
      Effect h m (.ok existing) { m with
        sourceEvents := table
        idempotency := m.idempotency.insert r.scope ⟨r.fingerprint, existing⟩ }
  | opened {i : Incident} {sources : List String} {r : Request} {event : IncidentAuditEvent}
      {table : Table (String × String) SourceEventAssociation}
      (opening : Opening h m i sources) (records : EventOf event i none)
      (linked : Linked m.sourceEvents table i.incidentId.text sources) :
      Effect h m (.ok i) ({ m with sourceEvents := table }.writeIncident r i [event])
  | advanced {key : String} {current successor : Incident} {target : IncidentStatus}
      {now : Instant} {r : Request} {event : IncidentAuditEvent}
      {table : Table (String × String) SourceEventAssociation}
      (stored : m.incidents.lookup key = some current)
      (transition : Transition h current target now successor)
      (safe : RepositorySafe h successor.toJson)
      (records : EventOf event successor (some current.status))
      (registrable : m.Registrable successor.incidentId.text
        (successor.sourceEventIds.map (·.text)))
      (linked : Linked m.sourceEvents table successor.incidentId.text
        (successor.sourceEventIds.map (·.text)))
      (reactivated : m.Reactivated current successor) :
      Effect h m (.ok successor) ({ m with sourceEvents := table }.writeIncident r successor
        (((m.history.lookup successor.incidentId.text).getD []) ++ [event]))

theorem unlessReplayed_ok {α : Type} {m : Memory} {request : Request}
    {work : Except RepositoryError α} {d : Decision α} :
    m.unlessReplayed request work = .ok d ↔
      (∃ record, m.idempotency.lookup request.scope = some record ∧
        record.fingerprint = request.fingerprint ∧ d = .replayed record.result) ∨
      (m.idempotency.lookup request.scope = none ∧ ∃ a, work = .ok a ∧ d = .proceed request a) := by
  unfold unlessReplayed replay
  cases m.idempotency.lookup request.scope with
  | none =>
    change (work >>= fun a => .ok (Decision.proceed request a)) = .ok d ↔ _
    simp only [Checks.bind_ok, Except.ok.injEq, true_and, reduceCtorEq, false_and, exists_false,
      false_or]
    exact exists_congr fun a => and_congr_right fun _ => eq_comm
  | some record =>
    simp only [Option.some.injEq, reduceCtorEq, false_and, or_false]
    by_cases same : record.fingerprint = request.fingerprint
    · simp [Checks.require, same, Bind.bind, Except.bind, pure, Except.pure, eq_comm]
    · simp [Checks.require, same, Bind.bind, Except.bind]

theorem settle_effect {α : Type} {h : Host} {m : Memory}
    {decision : Except RepositoryError (Decision α)}
    {commit : Request → α → Except RepositoryError Incident × Memory}
    (replayed : ∀ result, decision = .ok (.replayed result) →
      ∃ scope record, m.idempotency.lookup scope = some record ∧ result = record.result)
    (written : ∀ request work, decision = .ok (.proceed request work) →
      Effect h m (commit request work).1 (commit request work).2) :
    Effect h m (m.settle decision commit).1 (m.settle decision commit).2 := by
  unfold settle
  match decision, replayed, written with
  | .error e, _, _ => exact .failed e
  | .ok (.replayed result), replayed, _ =>
    obtain ⟨scope, record, stored, rfl⟩ := replayed result rfl
    exact .replayed stored
  | .ok (.proceed request work), _, written => exact written request work rfl

theorem settle_unlessReplayed {α : Type} {h : Host} {m : Memory}
    {request : Except RepositoryError Request} {work : Request → Except RepositoryError α}
    {commit : Request → α → Except RepositoryError Incident × Memory}
    (written : ∀ r a, request = .ok r → work r = .ok a →
      Effect h m (commit r a).1 (commit r a).2) :
    Effect h m (m.settle (request >>= fun r => m.unlessReplayed r (work r)) commit).1
      (m.settle (request >>= fun r => m.unlessReplayed r (work r)) commit).2 := by
  apply settle_effect
  · intro result decided
    obtain ⟨r, _, found⟩ := Checks.bind_ok.mp decided
    rcases unlessReplayed_ok.mp found with ⟨record, stored, _, same⟩ | ⟨_, _, _, same⟩
    · cases same; exact ⟨r.scope, record, stored, rfl⟩
    · cases same
  · intro r a decided
    obtain ⟨r', requested, found⟩ := Checks.bind_ok.mp decided
    rcases unlessReplayed_ok.mp found with ⟨_, _, _, same⟩ | ⟨_, _, done, same⟩
    · cases same
    · cases same; exact written _ _ requested done

theorem liftValidation_ok {v : Validation} {u : Unit} : liftValidation v = .ok u ↔ v = .ok () := by
  cases v with
  | ok _ => simp [liftValidation]
  | error e => simp [liftValidation]

theorem liftTransition_ok {α : Type} {x : Except TransitionError α} {a : α} :
    liftTransition x = .ok a ↔ x = .ok a := by
  cases x <;> simp [liftTransition]

structure NewIncident (h : Host) (i : Incident) : Prop where
  valid : i.Valid h
  detected : i.status = .detected
  revision : i.revision = 0
  safe : RepositorySafe h i.toJson

theorem newIncident_of_validate {h : Host} {i committed : Incident} {traceId : String}
    {now : Instant} (validated : validateNewIncident h i traceId now = .ok committed) :
    NewIncident h committed := by
  simp only [validateNewIncident, Checks.bind_ok, requireValue_ok,
    liftValidation_ok, pure, Except.pure, Except.ok.injEq] at validated
  obtain ⟨_, revision, _, detected, _, _, _, valid, _, safe, rfl⟩ := validated
  exact ⟨valid, detected, revision, safe_of_assertSafe safe⟩

theorem metadata_of_createRequest {h : Host} {operation : String} {i : Incident} {w : WriteMetadata}
    {r : Request} (requested : createRequest h operation i w = .ok r) :
    r.metadata = w ∧ w.Clean h := by
  simp only [createRequest, Checks.bind_ok, pure, Except.pure, Except.ok.injEq] at requested
  obtain ⟨_, passed, _, _, _, _, rfl⟩ := requested
  exact ⟨rfl, clean_of_require passed⟩

theorem commitCreate_effect {h : Host} {m : Memory} {r : Request} {i : Incident} {now : Instant}
    (clean : r.metadata.Clean h) (new : NewIncident h i) (fresh : i.incidentId.text ∉ m.incidents)
    (alone : m.NoActiveMatch (i.correlationKey.map (·.text)) (i.sourceEventIds.map (·.text)) none) :
    Effect h m (m.commitCreate h r i now).1 (m.commitCreate h r i now).2 := by
  unfold commitCreate
  split
  · exact .failed _
  · next event built =>
    obtain ⟨incident, texts⟩ := Incident.clean_of_safe new.safe
    rcases registerSourceEvents_spec (m := m) (t := now) clean incident texts with
      ⟨e, failed⟩ | ⟨table, passed, linked, registrable⟩
    · rw [failed]; exact .failed e
    · rw [passed]
      refine .opened ⟨fresh, new.valid, new.safe, new.detected, new.revision, ?_, ?_, registrable.owned,
        alone⟩ (eventOf_auditEvent built) linked
      · intro s member; exact List.mem_map_of_mem member
      · refine le_trans ?_ registrable.capacity
        exact List.dedup_length_le_of_subset (List.subset_append_right _ _)

theorem create_effect (h : Host) (m : Memory) (i : Incident) (w : WriteMetadata) (now : Instant) :
    Effect h m (m.create h i w now).1 (m.create h i w now).2 := by
  refine settle_unlessReplayed fun r committed requested decided => ?_
  obtain ⟨rfl, clean⟩ := metadata_of_createRequest requested
  obtain ⟨_, fresh, decided⟩ := Checks.bind_ok.mp decided
  obtain ⟨new, validated, decided⟩ := Checks.bind_ok.mp decided
  obtain ⟨active, looked, decided⟩ := Checks.bind_ok.mp decided
  cases active with
  | some active => cases decided
  | none =>
    cases decided
    have same : i.incidentId = committed.incidentId := by
      simp only [validateNewIncident, Checks.bind_ok, pure, Except.pure, Except.ok.injEq] at validated
      obtain ⟨_, _, _, _, _, _, _, _, _, _, rfl⟩ := validated
      rfl
    exact commitCreate_effect clean (newIncident_of_validate validated)
      (same ▸ Checks.require_ok.mp fresh) (noActiveMatch_of_none looked)

def AllSafe (h : Host) (m : Memory) : Prop :=
  ∀ i ∈ m.incidents.values, RepositorySafe h i.toJson

theorem createOrCorrelate_effect {h : Host} {m : Memory} (safe : m.AllSafe h) (i : Incident)
    (w : WriteMetadata) (now : Instant) :
    Effect h m (m.createOrCorrelate h i w now).1 (m.createOrCorrelate h i w now).2 := by
  refine settle_unlessReplayed fun r work requested decided => ?_
  obtain ⟨rfl, clean⟩ := metadata_of_createRequest requested
  obtain ⟨candidate, validated, decided⟩ := Checks.bind_ok.mp decided
  obtain ⟨active, looked, decided⟩ := Checks.bind_ok.mp decided
  have new := newIncident_of_validate validated
  cases active with
  | none =>
    obtain ⟨_, fresh, decided⟩ := Checks.bind_ok.mp decided
    cases decided
    exact commitCreate_effect clean new (Checks.require_ok.mp fresh) (noActiveMatch_of_none looked)
  | some existing =>
    cases decided
    obtain ⟨stored, active⟩ := active_of_some looked
    have incident := (Incident.clean_of_safe (safe existing stored)).1
    have texts := (Incident.clean_of_safe new.safe).2
    simp only [commitCorrelation]
    rcases registerSourceEvents_spec (m := m) (t := now) clean incident texts with
      ⟨e, failed⟩ | ⟨table, passed, linked, registrable⟩
    · rw [failed]; exact .failed e
    · rw [passed]; exact .correlated stored active registrable linked

/-! Import. -/

theorem mem_putAssociations {associations : List SourceEventAssociation}
    {t : Table (String × String) SourceEventAssociation} {k : String × String} :
    k ∈ putAssociations associations t ↔
      k ∈ t ∨ ∃ a ∈ associations, k = (a.incidentId.text, a.sourceEventId.text) := by
  unfold putAssociations
  induction associations generalizing t with
  | nil => simp
  | cons a rest ih =>
    simp only [List.foldl_cons, ih, AList.mem_insert, List.mem_cons, exists_eq_or_imp]
    grind

structure ImportRequest (h : Host) (i : Incident) (associations : List SourceEventAssociation)
    (w : WriteMetadata) (r : Request) : Prop where
  clean : w.Clean h
  metadata : r.metadata = w
  new : NewIncident h i
  bounded : associations.length ≤ maxIncidentSourceEvents
  listed : ∀ s ∈ i.sourceEventIds, s ∈ associations.map (·.sourceEventId)
  bound : ∀ a ∈ associations, a.incidentId = i.incidentId

theorem importRequest_ok {h : Host} {i : Incident} {associations : List SourceEventAssociation}
    {w : WriteMetadata} {r : Request} (requested : importRequest h i associations w = .ok r) :
    ImportRequest h i associations w r := by
  simp only [importRequest, Checks.bind_ok, requireValue_ok, liftValidation_ok, pure, Except.pure,
    Except.ok.injEq] at requested
  obtain ⟨_, passed, _, valid, _, ⟨detected, revision⟩, _, _, _, safe, _, bounded, _, _, _, _, _,
    listed, _, bound, _, _, rfl⟩ := requested
  exact {
    clean := clean_of_require passed
    metadata := rfl
    new := ⟨valid, detected, revision, safe_of_assertSafe safe⟩
    bounded := bounded
    listed := fun s member => listed member
    bound := bound }

theorem importDetectedSnapshot_effect (h : Host) (m : Memory) (i : Incident)
    (associations : List SourceEventAssociation) (w : WriteMetadata) (now : Instant) :
    Effect h m (m.importDetectedSnapshot h i associations w now).1
      (m.importDetectedSnapshot h i associations w now).2 := by
  apply settle_effect
  · intro result decided
    obtain ⟨r, _, decided⟩ := Checks.bind_ok.mp decided
    obtain ⟨d, found, decided⟩ := Checks.bind_ok.mp decided
    rcases unlessReplayed_ok.mp found with ⟨record, stored, _, rfl⟩ | ⟨_, _, _, rfl⟩
    · obtain ⟨_, _, decided⟩ := Checks.bind_ok.mp decided
      cases decided
      exact ⟨r.scope, record, stored, rfl⟩
    · cases decided
  · intro r event decided
    obtain ⟨r', requested, decided⟩ := Checks.bind_ok.mp decided
    have admitted := importRequest_ok requested
    obtain ⟨d, found, decided⟩ := Checks.bind_ok.mp decided
    rcases unlessReplayed_ok.mp found with ⟨_, _, _, rfl⟩ | ⟨_, _, work, rfl⟩
    · obtain ⟨_, _, decided⟩ := Checks.bind_ok.mp decided
      cases decided
    · cases decided
      simp only [requireImportable, Checks.bind_ok, Checks.require_ok, Checks.each_ok] at work
      obtain ⟨_, ⟨_, fresh, _, owned, active, looked, free⟩, built⟩ := work
      have alone : active = none := by
        cases active with
        | none => rfl
        | some active => cases free
      rw [alone] at looked
      have texts : ∀ a ∈ associations, a.incidentId.text = i.incidentId.text := fun a member => by
        rw [admitted.bound a member]
      have sources : ∀ s, s ∈ associations.map (·.sourceEventId.text) ↔
          ∃ a ∈ associations, a.sourceEventId.text = s := by simp
      have opening : Opening h m i (associations.map (·.sourceEventId.text)) := by
        refine ⟨fresh, admitted.new.valid, admitted.new.safe, admitted.new.detected,
          admitted.new.revision, ?_, ?_, ?_, noActiveMatch_of_none looked⟩
        · intro s member
          obtain ⟨a, known, rfl⟩ := List.mem_map.mp (admitted.listed s member)
          exact (sources _).mpr ⟨a, known, rfl⟩
        · refine le_trans (List.dedup_sublist _).length_le ?_
          rw [List.length_map]
          exact admitted.bounded
        · intro s member
          obtain ⟨a, known, rfl⟩ := (sources s).mp member
          obtain ⟨_, found, own⟩ := owned a known
          exact ownedOnlyBy_of_owner found own
      refine .opened opening (eventOf_auditEvent built) ⟨?_, ?_, ?_⟩
      · intro k member; exact mem_putAssociations.mpr (.inl member)
      · intro k member
        rcases mem_putAssociations.mp member with old | ⟨a, known, rfl⟩
        · exact .inl old
        · exact .inr ⟨texts a known, (sources _).mpr ⟨a, known, rfl⟩⟩
      · intro s member
        obtain ⟨a, known, rfl⟩ := (sources s).mp member
        exact mem_putAssociations.mpr (.inr ⟨a, known, by rw [texts a known]⟩)

/-! Updates. -/

theorem reactivated_of_require {m : Memory} {current successor : Incident}
    (passed : m.requireReactivationKeys current successor = .ok ()) :
    m.Reactivated current successor := by
  unfold requireReactivationKeys at passed
  split at passed
  · next inactive => exact inactive.imp_right .inl
  · obtain ⟨active, looked, free⟩ := Checks.bind_ok.mp passed
    cases active with
    | some active => cases free
    | none => exact .inr (.inr (noActiveMatch_of_none looked))

theorem commitTransition_effect {h : Host} {m : Memory} {r : Request} {key : String}
    {current successor : Incident} {target : IncidentStatus} {t now : Instant}
    (clean : r.metadata.Clean h) (stored : m.incidents.lookup key = some current)
    (transition : Transition h current target t successor)
    (safe : RepositorySafe h successor.toJson) (reactivated : m.Reactivated current successor) :
    Effect h m (m.commitTransition h r current successor now).1
      (m.commitTransition h r current successor now).2 := by
  unfold commitTransition
  split
  · exact .failed _
  · next event built =>
    obtain ⟨incident, texts⟩ := Incident.clean_of_safe safe
    rcases registerSourceEvents_spec (m := m) (t := now) clean incident texts with
      ⟨e, failed⟩ | ⟨table, passed, linked, registrable⟩
    · rw [failed]; exact .failed e
    · rw [passed]
      exact .advanced stored transition safe (eventOf_auditEvent built) registrable linked reactivated

theorem lookup_of_requireCurrent {m : Memory} {incidentId : String} {current : Incident}
    (found : m.requireCurrent incidentId = .ok current) :
    m.incidents.lookup incidentId = some current := by
  unfold requireCurrent at found
  split at found
  · cases found
  · next stored => cases found; exact stored

structure Admitted (h : Host) (m : Memory) (key : String) (target : IncidentStatus)
    (expected : Int) (traceId : String) (now : Instant) (u : Updates)
    (current successor : Incident) : Prop where
  stored : m.incidents.lookup key = some current
  trace : current.traceId.text = traceId
  accepted : transitionIncident h current target expected (.given now) (.given now) u = .ok successor
  safe : RepositorySafe h successor.toJson
  reactivated : m.requireReactivationKeys current successor = .ok ()

theorem clean_of_transitionRequest {h : Host} {incidentId : String} {target : IncidentStatus}
    {expected : Int} {w : WriteMetadata} {u : Updates} {r : Request}
    (requested : transitionRequest h incidentId target expected w u = .ok r) :
    r.metadata.Clean h := by
  simp only [transitionRequest, Checks.bind_ok, pure, Except.pure, Except.ok.injEq] at requested
  obtain ⟨_, passed, _, _, _, _, _, _, rfl⟩ := requested
  exact clean_of_require passed

theorem clean_of_saveRequest {h : Host} {i : Incident} {expected : Int} {w : WriteMetadata}
    {r : Request} (requested : saveRequest h i expected w = .ok r) : r.metadata.Clean h := by
  simp only [saveRequest, Checks.bind_ok, pure, Except.pure, Except.ok.injEq] at requested
  obtain ⟨_, passed, _, _, _, _, _, _, rfl⟩ := requested
  exact clean_of_require passed

theorem decideTransition_proceed {h : Host} {m : Memory} {incidentId : String}
    {target : IncidentStatus} {expected : Int} {w : WriteMetadata} {u : Updates} {now : Instant}
    {r : Request} {work : Incident × Incident}
    (decided : m.decideTransition h incidentId target expected w u now = .ok (.proceed r work)) :
    transitionRequest h incidentId target expected w u = .ok r ∧
      m.idempotency.lookup r.scope = none ∧
      Admitted h m incidentId target expected w.traceId now u work.1 work.2 := by
  obtain ⟨r', requested, found⟩ := Checks.bind_ok.mp decided
  rcases unlessReplayed_ok.mp found with ⟨_, _, _, same⟩ | ⟨absent, _, done, same⟩
  · cases same
  · cases same
    simp only [requireTrace, Checks.bind_ok, requireValue_ok, liftTransition_ok, pure, Except.pure,
      Except.ok.injEq] at done
    obtain ⟨_, present, _, _, _, trace, _, accepted, _, safe, _, keys, rfl⟩ := done
    exact ⟨requested, absent, lookup_of_requireCurrent present, trace, accepted,
      safe_of_assertSafe safe, keys⟩

theorem decideSave_proceed {h : Host} {m : Memory} {i : Incident} {expected : Int}
    {w : WriteMetadata} {now : Instant} {r : Request} {work : Incident × Incident}
    (decided : m.decideSave h i expected w now = .ok (.proceed r work)) :
    saveRequest h i expected w = .ok r ∧ m.idempotency.lookup r.scope = none ∧
      Admitted h m i.incidentId.text i.status expected w.traceId now (differences work.1 i)
        work.1 work.2 ∧ SameExceptTime work.2 i := by
  obtain ⟨r', requested, found⟩ := Checks.bind_ok.mp decided
  rcases unlessReplayed_ok.mp found with ⟨_, _, _, same⟩ | ⟨absent, _, done, same⟩
  · cases same
  · cases same
    simp only [requireTrace, Checks.bind_ok, requireValue_ok, liftTransition_ok,
      Checks.require_ok, pure, Except.pure, Except.ok.injEq] at done
    obtain ⟨_, present, _, _, _, trace, _, _, _, _, _, accepted, _, same, _, safe, _, keys, rfl⟩ :=
      done
    exact ⟨requested, absent, ⟨lookup_of_requireCurrent present, trace, accepted,
      safe_of_assertSafe safe, keys⟩, same⟩

theorem Admitted.effect {h : Host} {m : Memory} {r : Request} {key traceId : String}
    {target : IncidentStatus} {expected : Int} {now : Instant} {u : Updates}
    {current successor : Incident} (clean : r.metadata.Clean h)
    (admitted : Admitted h m key target expected traceId now u current successor) :
    Effect h m (m.commitTransition h r current successor now).1
      (m.commitTransition h r current successor now).2 :=
  commitTransition_effect clean admitted.stored (transition_of_ok admitted.accepted) admitted.safe
    (reactivated_of_require admitted.reactivated)

theorem replayed_recorded {α : Type} {m : Memory} {request : Except RepositoryError Request}
    {work : Request → Except RepositoryError α} {result : Incident}
    (decided : (request >>= fun r => m.unlessReplayed r (work r)) = .ok (.replayed result)) :
    ∃ scope record, m.idempotency.lookup scope = some record ∧ result = record.result := by
  obtain ⟨r, _, found⟩ := Checks.bind_ok.mp decided
  rcases unlessReplayed_ok.mp found with ⟨record, stored, _, same⟩ | ⟨_, _, _, same⟩
  · cases same; exact ⟨r.scope, record, stored, rfl⟩
  · cases same

theorem transition_effect (h : Host) (m : Memory) (incidentId : String) (target : IncidentStatus)
    (expected : Int) (w : WriteMetadata) (u : Updates) (now : Instant) :
    Effect h m (m.transition h incidentId target expected w u now).1
      (m.transition h incidentId target expected w u now).2 := by
  refine settle_effect (fun _ decided => replayed_recorded decided) fun r work decided => ?_
  obtain ⟨requested, _, admitted⟩ := decideTransition_proceed decided
  exact admitted.effect (clean_of_transitionRequest requested)

theorem save_effect (h : Host) (m : Memory) (i : Incident) (expected : Int) (w : WriteMetadata)
    (now : Instant) :
    Effect h m (m.save h i expected w now).1 (m.save h i expected w now).2 := by
  refine settle_effect (fun _ decided => replayed_recorded decided) fun r work decided => ?_
  obtain ⟨requested, _, admitted, _⟩ := decideSave_proceed decided
  exact admitted.effect (clean_of_saveRequest requested)

theorem step_effect {h : Host} {m : Memory} (safe : m.AllSafe h) (now : Instant) (call : Call) :
    Effect h m (m.step h now call).1 (m.step h now call).2 := by
  cases call with
  | create i w => exact create_effect h m i w now
  | createOrCorrelate i w => exact createOrCorrelate_effect safe i w now
  | importDetectedSnapshot i associations w =>
    exact importDetectedSnapshot_effect h m i associations w now
  | save i expected w => exact save_effect h m i expected w now
  | transition incidentId target expected w u =>
    exact transition_effect h m incidentId target expected w u now

end Memory
end NetworkAgent
