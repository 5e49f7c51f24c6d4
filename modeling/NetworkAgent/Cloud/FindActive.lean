import NetworkAgent.Cloud.Inconsistencies

/-! The lookup of an active incident by one of its keys, and the error that a broken index
would raise. -/
namespace NetworkAgent.Cloud
open Checks
open Memory (Request)

namespace Spanner
variable {h : Host} {s : Spanner}

theorem get_avoids (incidentId : String) : Unreported inconsistentIndex (s.get h incidentId) := by
  unfold get
  split
  · exact avoids_ok _
  · exact avoids_map (avoids_bind (liftValidation_avoids _) fun _ _ =>
      avoids_bind (requireConsistent_avoids (by simp [inconsistentIndex])) fun _ _ =>
        avoids_bind (requireSafe_avoids _ _ _) fun _ _ => avoids_ok _)

theorem replay_avoids (scope : Scope) (fp : Sha256.Digest) :
    Unreported inconsistentIndex (s.replay h scope fp) := by
  unfold replay
  split
  · exact avoids_ok _
  · exact avoids_bind (avoids_require (by simp)) fun _ _ =>
      avoids_bind (liftValidation_avoids _) fun _ _ =>
        avoids_bind (requireConsistent_avoids (by simp [inconsistentIndex])) fun _ _ =>
          avoids_bind (requireSafe_avoids _ _ _) fun _ _ => avoids_ok _

theorem sourcePage_avoids (boundary incidentId : String) :
    Unreported inconsistentIndex (s.sourcePage h boundary incidentId) :=
  boundedPage_avoids fun _ _ => avoids_bind (requireConsistent_avoids (by simp [inconsistentIndex])) fun _ _ =>
    avoids_bind (requireSafe_avoids _ _ _) fun _ _ => avoids_ok _

theorem checkKeyRows_avoids (keys : List ActiveKey) {accept : ActiveKeyRow → Except IncidentError Unit}
    (accepts : ∀ row, Unreported inconsistentIndex (accept row)) :
    Unreported inconsistentIndex (checkKeyRows keys accept [] (s.keyRows keys)) := by
  have asked : ∀ r ∈ s.keyRows keys, (expectedKind keys r.1).isSome = true := fun r member =>
    expectedKind_isSome.mpr (mem_keyRows.mp member).2
  have fresh : ∀ r ∈ s.keyRows keys, r.1 ∉ ([] : List Sha256.Digest) := fun _ _ => List.not_mem_nil
  have unique := keyRows_nodup s keys
  revert asked fresh unique
  generalize s.keyRows keys = rows
  generalize ([] : List Sha256.Digest) = seen
  induction rows generalizing seen with
  | nil => exact fun _ _ _ => avoids_ok ()
  | cons r rest ih =>
    obtain ⟨hash, row⟩ := r
    intro asked fresh unique
    obtain ⟨other, unique⟩ := List.nodup_cons.mp unique
    refine avoids_bind ?_ fun _ _ =>
      avoids_bind (requireConsistent_avoids (by simp [inconsistentIndex])) fun _ _ =>
        avoids_bind (accepts row) fun _ _ => ih (hash :: seen)
          (fun r member => asked r (List.mem_cons_of_mem _ member)) (fun r member => ?_) unique
    · have passes : hash ∉ seen ∧ (expectedKind keys hash).isSome = true :=
        ⟨fresh _ List.mem_cons_self, asked _ List.mem_cons_self⟩
      rw [requireConsistent, require, if_pos passes]
      exact avoids_ok ()
    · rw [List.mem_cons, not_or]
      exact ⟨fun same => other (List.mem_map.mpr ⟨r, member, same⟩),
        fresh r (List.mem_cons_of_mem _ member)⟩

theorem findActiveForKeys_avoids (indexed : Indexed h s) (keys : List ActiveKey)
    (requestedId : String) : Unreported inconsistentIndex (s.findActiveForKeys h keys requestedId) := by
  refine avoids_bind (checkKeyRows_avoids keys fun _ => avoids_ok ()) fun _ _ => ?_
  split
  · exact avoids_ok _
  · next id single =>
    have listed : id ∈ ((s.keyRows keys).map (·.2.incidentId)).dedup := by simp [single]
    obtain ⟨r, member, rfl⟩ := List.mem_map.mp (List.mem_dedup.mp listed)
    obtain ⟨i, stored, active, _⟩ := (indexed r.1 r.2.kind r.2.incidentId).mp (mem_keyRows.mp member).1
    refine avoids_bind (get_avoids _) fun found got => ?_
    cases found with
    | none =>
      rw [get_none.mp got] at stored
      cases stored
    | some j =>
      rw [(get_some.mp got).1] at stored
      have same : j = i := congrArg IncidentRow.payload (Option.some.inj stored)
      refine avoids_bind ?_ fun _ _ => avoids_ok _
      rw [requireConsistent, require, if_pos (same ▸ active)]
      exact avoids_ok ()
  · exact avoids_error (by simp)

theorem quiet_of_indexed (indexed : Indexed h s) : Quiet h s inconsistentIndex where
  get := get_avoids
  replay := replay_avoids
  page := sourcePage_avoids
  event _ _ _ := avoids_bind (requireConsistent_avoids (by simp [inconsistentIndex])) fun _ _ =>
    avoids_bind (requireSafe_avoids _ _ _) fun _ _ => avoids_ok _
  keys keys _ accepts := checkKeyRows_avoids keys accepts
  found := findActiveForKeys_avoids indexed
  own := by simp [ownTexts, inconsistentIndex]

/-! The lookup of an incident by one key. -/

/-- The incident has this key: its correlation key, or a source event associated with it. -/
def HoldsKey (s : Spanner) (i : Incident) : ActiveKeyKind → String → Prop
  | .correlation, value => i.correlationKey.map (·.text) = some value
  | .source, value => ∃ row ∈ s.sourceEvents.values,
      row.columns.incidentId = i.incidentId.text ∧ row.columns.sourceEventId = value

structure IsOwner (s : Spanner) (kind : ActiveKeyKind) (value : String) (i : Incident) : Prop where
  stored : s.incidents.lookup i.incidentId.text = some (incidentValues i)
  active : i.status.isActive = true
  holds : HoldsKey s i kind value

theorem ownsKey_iff {i : Incident} {key : ActiveKey} :
    OwnsKey h s i key ↔ ∃ kind value, HoldsKey s i kind value ∧ key = activeKey h kind value := by
  simp only [OwnsKey, correlationKeys, Option.mem_toList, Option.map_eq_some_iff]
  constructor
  · rintro (⟨text, known, rfl⟩ | ⟨row, member, named, rfl⟩)
    · exact ⟨.correlation, text.text, congrArg (Option.map _) known, rfl⟩
    · exact ⟨.source, _, ⟨row, member, named, rfl⟩, rfl⟩
  · rintro ⟨kind, value, holds, rfl⟩
    cases kind with
    | correlation =>
      obtain ⟨text, known, rfl⟩ := Option.map_eq_some_iff.mp holds
      exact .inl ⟨text, known, rfl⟩
    | source =>
      obtain ⟨row, member, named, rfl⟩ := holds
      exact .inr ⟨row, member, named, rfl⟩

/-- `find_active` with one selector. -/
def findActiveBy (h : Host) (s : Spanner) : ActiveKeyKind → String →
    Except IncidentError (Option Incident)
  | .correlation, value => s.findActive h (some value) none
  | .source, value => s.findActive h none (some value)

/-- No other key of an active incident has the hash of this one. -/
def Distinct (h : Host) (s : Spanner) (kind : ActiveKeyKind) (value : String) : Prop :=
  ∀ kind' value' i, IsOwner s kind' value' i →
    (activeKey h kind' value').1 = (activeKey h kind value).1 → kind' = kind ∧ value' = value

theorem findActiveBy_eq {kind : ActiveKeyKind} {value : String} (some_text : isBlank value = false)
    (short : (strip value).length ≤ 256) :
    s.findActiveBy h kind value = s.findActiveForKeys h [activeKey h kind (strip value)] "<lookup>" := by
  have nonempty : 1 ≤ (strip value).length := by
    rw [isBlank, beq_eq_false_iff_ne, ne_eq, ← String.length_eq_zero_iff] at some_text
    omega
  have parsed : ∀ name, ∃ text : Text.Bounded isSpace 256, text.text = strip value ∧
      requireNonEmpty name value 256 = .ok text := by
    intro name
    have trimmed : Text.trim isSpace (strip value) = strip value := Text.trim_trim isSpace value
    have known : Text.Bounded.parse isSpace 256 value = some ⟨strip value, trimmed, nonempty, short⟩ :=
      Text.Bounded.parse_eq_some.mpr rfl
    refine ⟨⟨strip value, trimmed, nonempty, short⟩, rfl, ?_⟩
    simp [requireNonEmpty, require, some_text, known, Bind.bind, Except.bind, pure, Except.pure]
  cases kind with
  | correlation =>
    obtain ⟨text, same, passed⟩ := parsed "correlation_key"
    simp [findActiveBy, findActive, selectorKey, requireValue, require, passed, same, liftInput,
      Bind.bind, Except.bind, pure, Except.pure]
  | source =>
    obtain ⟨text, same, passed⟩ := parsed "source_event_id"
    simp [findActiveBy, findActive, selectorKey, requireValue, require, passed, same, liftInput,
      Bind.bind, Except.bind, pure, Except.pure]

theorem keyRows_single (s : Spanner) (key : ActiveKey) :
    s.keyRows [key] = ((s.activeKeys.lookup key.1).map fun row => (key.1, row)).toList := by
  have member : ∀ r, r ∈ s.keyRows [key] ↔ s.activeKeys.lookup key.1 = some r.2 ∧ r.1 = key.1 := by
    intro r
    rw [mem_keyRows]
    constructor
    · rintro ⟨stored, other, single, same⟩
      rw [List.mem_singleton.mp single] at same
      exact ⟨same ▸ stored, same.symm⟩
    · rintro ⟨stored, same⟩
      exact ⟨same ▸ stored, key, List.mem_singleton_self key, same.symm⟩
  have unique := keyRows_nodup s [key]
  revert member unique
  generalize s.keyRows [key] = rows
  intro member unique
  cases stored : s.activeKeys.lookup key.1 with
  | none =>
    refine List.eq_nil_iff_forall_not_mem.mpr fun r inside => ?_
    rw [member, stored] at inside
    cases inside.1
  | some row =>
    have every : ∀ r ∈ rows, r = (key.1, row) := by
      intro r inside
      rw [member, stored] at inside
      exact Prod.ext inside.2 (Option.some.inj inside.1).symm
    have here : (key.1, row) ∈ rows := (member _).mpr ⟨stored, rfl⟩
    match rows, here with
    | [r], _ => rw [every r List.mem_cons_self]; rfl
    | r :: r' :: rest, _ =>
      have first := every r List.mem_cons_self
      have second := every r' (List.mem_cons_of_mem _ List.mem_cons_self)
      simp [first, second] at unique

theorem findActiveBy_owner {kind : ActiveKeyKind} {value : String} (keyed : s.Keyed h)
    (indexed : Indexed h s) (some_text : isBlank value = false)
    (short : (strip value).length ≤ 256) (distinct : Distinct h s kind (strip value))
    (readable : ∀ i, IsOwner s kind (strip value) i → RepositorySafe h i.toJson) :
    ∃ found, s.findActiveBy h kind value = .ok found ∧
      ∀ i, found = some i ↔ IsOwner s kind (strip value) i := by
  have held : ∀ i, IsOwner s kind (strip value) i →
      s.activeKeys.lookup (activeKey h kind (strip value)).1 = some ⟨kind, i.incidentId.text⟩ :=
    fun i owner => (indexed _ _ _).mpr ⟨i, owner.stored, owner.active,
      ownsKey_iff.mpr ⟨kind, _, owner.holds, rfl⟩⟩
  rw [findActiveBy_eq some_text short]
  unfold findActiveForKeys
  rw [keyRows_single]
  cases found : s.activeKeys.lookup (activeKey h kind (strip value)).1 with
  | none =>
    refine ⟨none, rfl, fun i => ⟨nofun, fun owner => ?_⟩⟩
    rw [held i owner] at found
    cases found
  | some row =>
    obtain ⟨kind', id⟩ := row
    obtain ⟨i, stored, active, owns⟩ := (indexed _ _ _).mp found
    have named : i.incidentId.text = id := (keyed.incidents id _ stored).2.1
    obtain ⟨kind'', value', holds, same⟩ := ownsKey_iff.mp owns
    obtain ⟨hash, rfl⟩ := Prod.mk.inj same
    have owner' : IsOwner s kind' value' i := ⟨named ▸ stored, active, holds⟩
    obtain ⟨rfl, rfl⟩ := distinct kind' value' i owner' hash.symm
    have got : s.get h id = .ok (some i) :=
      get_some.mpr ⟨stored, named, (keyed.incidents id _ stored).2.2, readable i owner'⟩
    refine ⟨some i, ?_, fun j => ⟨fun same => Option.some.inj same ▸ owner', fun owner => ?_⟩⟩
    · simp [checkKeyRows, expectedKind, activeKey, requireConsistent, require, got, active,
        Bind.bind, Except.bind, pure, Except.pure]
    · have equal := (held j owner).symm.trans found
      have id_eq : j.incidentId.text = id := congrArg ActiveKeyRow.incidentId (Option.some.inj equal)
      have row := owner.stored
      rw [id_eq, stored] at row
      exact congrArg (fun r => some (IncidentRow.payload r)) (Option.some.inj row)

/-! The index over every run. -/

/-- What the index says: a row for every key of every active incident, and no other row. -/
structure IndexHolds (h : Host) (s : Spanner) : Prop where
  correlation : ∀ i, s.incidents.lookup i.incidentId.text = some (incidentValues i) →
    i.status.isActive = true → ∀ key ∈ i.correlationKey,
      s.activeKeys.lookup (activeKey h .correlation key.text).1 =
        some ⟨.correlation, i.incidentId.text⟩
  sources : ∀ i, s.incidents.lookup i.incidentId.text = some (incidentValues i) →
    i.status.isActive = true → ∀ row ∈ s.sourceEvents.values,
      row.columns.incidentId = i.incidentId.text →
        s.activeKeys.lookup (activeKey h .source row.columns.sourceEventId).1 =
          some ⟨.source, i.incidentId.text⟩
  rows : ∀ hash row, s.activeKeys.lookup hash = some row →
    ∃ i, s.incidents.lookup row.incidentId = some (incidentValues i) ∧
      i.status.isActive = true ∧ ∃ value, HoldsKey s i row.kind value ∧
        hash = (activeKey h row.kind value).1

theorem indexHolds_of_indexed (indexed : Indexed h s) : IndexHolds h s where
  correlation i stored active key known := (indexed _ _ _).mpr ⟨i, stored, active,
    ownsKey_iff.mpr ⟨.correlation, key.text, congrArg (Option.map _) known, rfl⟩⟩
  sources i stored active row member named := (indexed _ _ _).mpr ⟨i, stored, active,
    ownsKey_iff.mpr ⟨.source, _, ⟨row, member, named, rfl⟩, rfl⟩⟩
  rows hash row found := by
    obtain ⟨i, stored, active, owns⟩ := (indexed hash row.kind row.incidentId).mp found
    obtain ⟨kind, value, holds, same⟩ := ownsKey_iff.mp owns
    obtain ⟨rfl, rfl⟩ := Prod.mk.inj same
    exact ⟨i, stored, active, value, holds, rfl⟩

/-- A lookup by a stripped selector finds the active incident that owns it, unless its hash
collides or the incident found breaks the payload policy. -/
def FindsOwners (h : Host) (s : Spanner) : Prop :=
  ∀ kind value, isBlank value = false → (strip value).length ≤ 256 →
    Distinct h s kind (strip value) →
    (∀ i, IsOwner s kind (strip value) i → RepositorySafe h i.toJson) →
    ∃ found, s.findActiveBy h kind value = .ok found ∧
      ∀ i, found = some i ↔ IsOwner s kind (strip value) i

theorem findActiveBy_avoids (indexed : Indexed h s) (kind : ActiveKeyKind) (value : String) :
    Unreported inconsistentIndex (s.findActiveBy h kind value) := by
  have selected : ∀ kind name value, Unreported inconsistentIndex (selectorKey h kind name value) := by
    intro kind name value
    cases value with
    | none => exact avoids_ok _
    | some text => exact avoids_bind (liftInput_avoids _) fun _ _ => avoids_ok _
  have either : ∀ correlation source, Unreported inconsistentIndex (s.findActive h correlation source) :=
    fun _ _ => avoids_bind (requireValue_avoids _ _) fun _ _ => avoids_bind (selected _ _ _)
      fun _ _ => avoids_bind (selected _ _ _) fun _ _ => findActiveForKeys_avoids indexed _ _
  cases kind <;> exact either _ _

/-! A correlation key that begins with a separator that only one of the two strips removes. -/
namespace Sample

def separated : Identifier := .ofText "\x1ckey" (by decide +kernel)

def incident : Incident where
  incidentId := .ofText "incident" (by decide +kernel)
  correlationKey := some separated
  detectedAt := 0
  traceId := .ofText "trace" (by decide +kernel)
  createdAt := 0
  updatedAt := 0

def calls : List (Instant × Call) := [(0, .create incident ⟨"key", "actor", "reason", "trace"⟩)]

/-- What the creation stores, and what the lookup by the key answers. -/
class Computed : Prop where
  created : ((run Host.ascii {} calls).incidents.lookup "incident").map (·.payload) = some incident
  missed : (run Host.ascii {} calls).findActive Host.ascii (some separated.text) none = .ok none

instance computed : Computed := by
  have both : ((run Host.ascii {} calls).incidents.lookup "incident").map (·.payload) =
      some incident ∧
    (run Host.ascii {} calls).findActive Host.ascii (some separated.text) none = .ok none := by
    decide +kernel
  exact ⟨both.1, both.2⟩

end Sample

end Spanner
end NetworkAgent.Cloud
