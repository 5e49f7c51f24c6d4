import NetworkAgent.Memory.History

/-! Who owns a source event, and which active incident answers to a key, over every run. -/
namespace NetworkAgent.Memory

structure Owned (m : Memory) : Prop where
  /-- A source event is linked to one incident. -/
  unique : ∀ a b s, (a, s) ∈ m.sourceEvents → (b, s) ∈ m.sourceEvents → a = b
  /-- Only stored incidents are linked. -/
  known : ∀ k ∈ m.sourceEvents, k.1 ∈ m.incidents
  listed : ∀ k i, m.incidents.lookup k = some i →
    ∀ s ∈ i.sourceEventIds, (k, s.text) ∈ m.sourceEvents
  bounded : ∀ k, (m.associatedSourceIds k).length ≤ maxIncidentSourceEvents
  correlated : ∀ k l i j, m.incidents.lookup k = some i → m.incidents.lookup l = some j →
    i.status.isActive = true → j.status.isActive = true →
    i.correlationKey.isSome → i.correlationKey = j.correlationKey → k = l

theorem associatedSourceIds_nodup (m : Memory) (k : String) : (m.associatedSourceIds k).Nodup :=
  Table.secondKeys_nodup m.sourceEvents k

theorem associated_length_le {m : Memory}
    {table : Table (String × String) SourceEventAssociation} {incidentId k : String}
    {sources : List String} (linked : Linked m.sourceEvents table incidentId sources)
    (capacity : (m.associatedSourceIds incidentId ++ sources).dedup.length ≤ maxIncidentSourceEvents)
    (bounded : (m.associatedSourceIds k).length ≤ maxIncidentSourceEvents) :
    ({ m with sourceEvents := table }.associatedSourceIds k).length ≤ maxIncidentSourceEvents := by
  have after := associatedSourceIds_nodup { m with sourceEvents := table } k
  have members : ∀ s ∈ { m with sourceEvents := table }.associatedSourceIds k,
      s ∈ m.associatedSourceIds k ∨ (k = incidentId ∧ s ∈ sources) := by
    intro s member
    rcases linked.new _ (mem_associatedSourceIds.mp member) with old | ⟨own, source⟩
    · exact .inl (mem_associatedSourceIds.mpr old)
    · exact .inr ⟨own, source⟩
  rw [← after.dedup]
  by_cases own : k = incidentId
  · refine (List.dedup_length_le_of_subset fun s member => ?_).trans (own ▸ capacity)
    rcases members s member with old | ⟨_, source⟩
    · exact List.mem_append_left _ old
    · exact List.mem_append_right _ source
  · refine (List.dedup_length_le_of_subset fun s member => ?_).trans
      ((List.dedup_sublist _).length_le.trans bounded)
    rcases members s member with old | ⟨same, _⟩
    · exact old
    · exact absurd same own

theorem linked_unique {t table : Table (String × String) SourceEventAssociation} {incidentId : String}
    {sources : List String} (linked : Linked t table incidentId sources)
    (unique : ∀ a b s, (a, s) ∈ t → (b, s) ∈ t → a = b)
    (owned : ∀ s ∈ sources, ∀ a, (a, s) ∈ t → a = incidentId) :
    ∀ a b s, (a, s) ∈ table → (b, s) ∈ table → a = b := by
  intro a b s first second
  rcases linked.new _ first with old | ⟨own, source⟩ <;>
    rcases linked.new _ second with old' | ⟨own', source'⟩
  · exact unique a b s old old'
  · exact (owned s source' a old).trans own'.symm
  · exact own.trans (owned s source b old').symm
  · exact own.trans own'.symm

theorem linked_known {m : Memory} {table : Table (String × String) SourceEventAssociation}
    {incidentId : String} {sources : List String} {incidents : Table String Incident}
    (linked : Linked m.sourceEvents table incidentId sources)
    (known : ∀ k ∈ m.sourceEvents, k.1 ∈ m.incidents)
    (grown : ∀ k ∈ m.incidents, k ∈ incidents) (stored : incidentId ∈ incidents) :
    ∀ k ∈ table, k.1 ∈ incidents := by
  intro k member
  rcases linked.new k member with old | ⟨own, _⟩
  · exact grown _ (known k old)
  · exact own ▸ stored

theorem owned_empty : ({} : Memory).Owned where
  unique a b s linked := by simp at linked
  known k linked := by simp at linked
  listed k i stored := by simp at stored
  bounded k := by simp [associatedSourceIds, Table.rows]
  correlated k l i j stored := by simp at stored

theorem owned_correlated {m : Memory} (owned : m.Owned) {existing : Incident}
    {sources : List String} {table : Table (String × String) SourceEventAssociation}
    {idempotency : Table Scope IdempotencyRecord} (stored : existing.incidentId.text ∈ m.incidents)
    (registrable : m.Registrable existing.incidentId.text sources)
    (linked : Linked m.sourceEvents table existing.incidentId.text sources) :
    ({ m with sourceEvents := table, idempotency := idempotency }).Owned where
  unique := linked_unique linked owned.unique registrable.owned
  known := linked_known linked owned.known (fun _ member => member) stored
  listed k i found s member := linked.kept _ (owned.listed k i found s member)
  bounded k := associated_length_le linked registrable.capacity (owned.bounded k)
  correlated := owned.correlated

theorem answers_of_key {m : Memory} {i j : Incident} {sources : List String}
    (keyed : i.correlationKey.isSome) (same : i.correlationKey = j.correlationKey) :
    m.Answers (i.correlationKey.map (·.text)) sources j := by
  obtain ⟨key, found⟩ := Option.isSome_iff_exists.mp keyed
  exact .inl ⟨key.text, by simp [found], by simp [← same, found]⟩

theorem owned_opened {h : Host} {m : Memory} (owned : m.Owned) {i : Incident}
    {sources : List String} {r : Request} {events : List IncidentAuditEvent}
    {table : Table (String × String) SourceEventAssociation} (opening : Opening h m i sources)
    (linked : Linked m.sourceEvents table i.incidentId.text sources) :
    ({ m with sourceEvents := table }.writeIncident r i events).Owned where
  unique := linked_unique linked owned.unique opening.owned
  known := linked_known linked owned.known (fun k member => by simp [writeIncident, member])
    (by simp [writeIncident])
  listed k j stored s member := by
    rcases Table.lookup_insert_iff.mp stored with ⟨rfl, rfl⟩ | ⟨_, before⟩
    · exact linked.all _ (opening.listed s member)
    · exact linked.kept _ (owned.listed k j before s member)
  bounded k := by
    have none : m.associatedSourceIds i.incidentId.text = [] := by
      refine List.eq_nil_iff_forall_not_mem.mpr fun s member => ?_
      exact opening.fresh (owned.known _ (mem_associatedSourceIds.mp member))
    refine associated_length_le linked ?_ (owned.bounded k)
    rw [none]
    exact opening.bounded
  correlated k l i' j first second active active' some same := by
    rcases Table.lookup_insert_iff.mp first with ⟨rfl, rfl⟩ | ⟨other, before⟩ <;>
      rcases Table.lookup_insert_iff.mp second with ⟨rfl, rfl⟩ | ⟨other', before'⟩
    · rfl
    · exact absurd (answers_of_key some same)
        (opening.alone j (Table.mem_values.mpr ⟨l, before'⟩) (by simp) active')
    · exact absurd (answers_of_key (same ▸ some) same.symm)
        (opening.alone i' (Table.mem_values.mpr ⟨k, before⟩) (by simp) active)
    · exact owned.correlated k l i' j before before' active active' some same

theorem advanced_alone {h : Host} {m : Memory} (keyed : m.Keyed h) (owned : m.Owned) {k l : String}
    {current successor j : Incident} {target : IncidentStatus} {now : Instant}
    (stored : m.incidents.lookup k = some current)
    (t : Transition h current target now successor) (reactivated : m.Reactivated current successor)
    (other : m.incidents.lookup l = some j) (active : successor.status.isActive = true)
    (active' : j.status.isActive = true) (some : successor.correlationKey.isSome)
    (same : successor.correlationKey = j.correlationKey) : l = k := by
  have key := t.identity.correlationKey
  rcases reactivated with before | settled | none
  · exact (owned.correlated k l current j stored other before active' (key ▸ some)
      (key ▸ same)).symm
  · simp [IncidentStatus.isActive, settled] at active
  · by_contra different
    have own : successor.incidentId.text = k := by rw [t.identity.incidentId, keyed.key stored]
    refine none j (Table.mem_values.mpr ⟨l, other⟩) ?_ active' (answers_of_key some same)
    rw [own, keyed.key other]
    exact fun equal => different (Option.some.inj equal).symm

theorem owned_advanced {h : Host} {m : Memory} (keyed : m.Keyed h) (owned : m.Owned) {k : String}
    {current successor : Incident} {target : IncidentStatus} {now : Instant} {r : Request}
    {events : List IncidentAuditEvent} {table : Table (String × String) SourceEventAssociation}
    (stored : m.incidents.lookup k = some current)
    (t : Transition h current target now successor)
    (registrable : m.Registrable successor.incidentId.text (successor.sourceEventIds.map (·.text)))
    (linked : Linked m.sourceEvents table successor.incidentId.text
      (successor.sourceEventIds.map (·.text))) (reactivated : m.Reactivated current successor) :
    ({ m with sourceEvents := table }.writeIncident r successor events).Owned where
  unique := linked_unique linked owned.unique registrable.owned
  known := linked_known linked owned.known (fun k member => by simp [writeIncident, member])
    (by simp [writeIncident])
  listed l j found s member := by
    rcases Table.lookup_insert_iff.mp found with ⟨rfl, rfl⟩ | ⟨_, before⟩
    · exact linked.all _ (List.mem_map_of_mem member)
    · exact linked.kept _ (owned.listed l j before s member)
  bounded l := associated_length_le linked registrable.capacity (owned.bounded l)
  correlated a b i j first second active active' some same := by
    have own : successor.incidentId.text = k := by rw [t.identity.incidentId, keyed.key stored]
    rcases Table.lookup_insert_iff.mp first with ⟨rfl, rfl⟩ | ⟨_, before⟩ <;>
      rcases Table.lookup_insert_iff.mp second with ⟨rfl, rfl⟩ | ⟨_, before'⟩
    · rfl
    · exact own.trans
        (advanced_alone keyed owned stored t reactivated before' active active' some same).symm
    · exact (advanced_alone keyed owned stored t reactivated before active' active (same ▸ some)
        same.symm).trans own.symm
    · exact owned.correlated a b i j before before' active active' some same

theorem Effect.owned {h : Host} {m m' : Memory} {result : Except RepositoryError Incident}
    (keyed : m.Keyed h) (owned : m.Owned) (effect : Effect h m result m') : m'.Owned := by
  cases effect with
  | failed | replayed => exact owned
  | correlated stored _ registrable linked =>
    exact owned_correlated owned (mem_iff_lookup.mpr ⟨_, keyed.stored stored⟩) registrable linked
  | opened opening _ linked => exact owned_opened owned opening linked
  | advanced stored t _ _ registrable linked reactivated =>
    exact owned_advanced keyed owned stored t registrable linked reactivated

theorem run_owned (h : Host) (calls : List (Instant × Call)) : (run h {} calls).Owned := by
  have both := Runs.run_invariant (next h) (P := fun m => m.Keyed h ∧ m.Owned)
    (fun m call inv => ⟨next_keyed m call inv.1,
      (step_effect inv.1.allSafe call.1 call.2).owned inv.1 inv.2⟩)
    ⟨keyed_empty h, owned_empty⟩ calls
  exact both.2

theorem run_keeps_links {h : Host} {m : Memory} (keyed : m.Keyed h)
    (calls : List (Instant × Call)) : ∀ k ∈ m.sourceEvents, k ∈ (run h m calls).sourceEvents := by
  refine Runs.run_relation (next h) (P := fun m => m.Keyed h)
    (R := fun m m' : Memory => ∀ k ∈ m.sourceEvents, k ∈ m'.sourceEvents)
    (fun m call => next_keyed m call) (fun _ _ member => member)
    (fun first second k member => second k (first k member)) ?_ keyed calls
  intro m call keyed k member
  have effect := step_effect keyed.allSafe call.1 call.2
  unfold next
  generalize (m.step h call.1 call.2).1 = result at effect
  generalize (m.step h call.1 call.2).2 = m' at effect ⊢
  cases effect with
  | failed | replayed => exact member
  | correlated _ _ _ linked => exact linked.kept k member
  | opened _ _ linked => exact linked.kept k member
  | advanced _ _ _ _ _ linked => exact linked.kept k member

/-! What the invariant rules out. -/

theorem sourceEventOwner_ok {m : Memory} (owned : m.Owned) (s : String) :
    m.sourceEventOwner s = .ok (m.owners s).head? := by
  have single : (m.owners s).length ≤ 1 := by
    have nodup : (m.owners s).Nodup := List.nodup_dedup _
    match listed : m.owners s, nodup with
    | [], _ => simp
    | [_], _ => simp
    | a :: b :: rest, nodup =>
      have first : a ∈ m.owners s := by simp [listed]
      have second : b ∈ m.owners s := by simp [listed]
      have same := owned.unique a b s (mem_owners.mp first) (mem_owners.mp second)
      simp [same] at nodup
  exact Checks.seq_ok.mpr ⟨Checks.require_ok.mpr single, rfl⟩

theorem incidentIds_nodup {h : Host} {m : Memory} (keyed : m.Keyed h) :
    (m.incidents.values.map (·.incidentId.text)).Nodup := by
  have same : m.incidents.values.map (·.incidentId.text) = m.incidents.keys := by
    rw [Table.values, AList.keys, List.keys, List.map_map]
    refine List.map_congr_left fun e member => ?_
    exact keyed.key (AList.mem_lookup_iff.mpr member)
  rw [same]
  exact m.incidents.keys_nodup

theorem findActiveLocked_of_unique {h : Host} {m : Memory} (keyed : m.Keyed h)
    {correlationKey : Option String} {sources : List String}
    (unique : ∀ i ∈ m.activeMatches correlationKey sources none,
      ∀ j ∈ m.activeMatches correlationKey sources none, i.incidentId = j.incidentId)
    (requestedId : String) :
    m.findActiveLocked correlationKey sources none requestedId =
      .ok (m.activeMatches correlationKey sources none).head? := by
  have nodup : ((m.activeMatches correlationKey sources none).map (·.incidentId.text)).Nodup := by
    have sorted : (m.incidents.values.insertionSort
        fun a b => textLe a.incidentId.text b.incidentId.text).Perm m.incidents.values :=
      List.perm_insertionSort _ _
    exact ((sorted.map _).nodup_iff.mpr (incidentIds_nodup keyed)).sublist
      (List.filter_sublist.map _)
  have single : (m.activeMatches correlationKey sources none).length ≤ 1 := by
    generalize m.activeMatches correlationKey sources none = found at unique nodup
    match found, unique, nodup with
    | [], _, _ => simp
    | [_], _, _ => simp
    | a :: b :: rest, unique, nodup =>
      have same := unique a (by simp) b (by simp)
      simp [same] at nodup
  exact Checks.seq_ok.mpr ⟨Checks.require_ok.mpr single, rfl⟩

theorem findActive_by_key {h : Host} {m : Memory} (keyed : m.Keyed h) (owned : m.Owned)
    (key : String) : m.findActive (some key) none = .ok (m.activeMatches (some key) [] none).head? := by
  refine Checks.seq_ok.mpr ⟨requireValue_ok.mpr (.inl rfl), ?_⟩
  refine findActiveLocked_of_unique keyed (fun i first j second => ?_) _
  obtain ⟨stored, _, active, answers⟩ := mem_activeMatches.mp first
  obtain ⟨stored', _, active', answers'⟩ := mem_activeMatches.mp second
  simp only [Answers, Option.mem_def, Option.some.injEq, exists_eq_left', Option.toList_none,
    List.not_mem_nil, false_and, exists_false, or_false] at answers answers'
  obtain ⟨k, found, text⟩ := Option.map_eq_some_iff.mp answers
  obtain ⟨k', found', text'⟩ := Option.map_eq_some_iff.mp answers'
  have same : k = k' := Text.Bounded.ext (text.trans text'.symm)
  exact Text.Bounded.ext (owned.correlated _ _ i j (keyed.stored stored) (keyed.stored stored')
    active active' (by simp [found]) (by rw [found, found', same]))

theorem findActive_by_source {h : Host} {m : Memory} (keyed : m.Keyed h) (owned : m.Owned)
    (s : String) : m.findActive none (some s) = .ok (m.activeMatches none [s] none).head? := by
  refine Checks.seq_ok.mpr ⟨requireValue_ok.mpr (.inr rfl), ?_⟩
  refine findActiveLocked_of_unique keyed (fun i first j second => ?_) _
  obtain ⟨_, _, _, answers⟩ := mem_activeMatches.mp first
  obtain ⟨_, _, _, answers'⟩ := mem_activeMatches.mp second
  simp only [Answers, Option.mem_def, reduceCtorEq, false_and, exists_false, false_or,
    Option.toList_some, List.mem_singleton, exists_eq_left, mem_associatedSourceIds] at answers answers'
  exact Text.Bounded.ext (owned.unique _ _ s answers answers')

/-- Ownership in one run of the repository from the empty one. -/
structure RunOwnership (h : Host) (calls : List (Instant × Call)) : Prop where
  owned : (run h {} calls).Owned
  permanent : ∀ before after, calls = before ++ after → ∀ incidentId s,
    (incidentId, s) ∈ (run h {} before).sourceEvents → (run h {} calls).OwnedOnlyBy incidentId s ∧
      (incidentId, s) ∈ (run h {} calls).sourceEvents
  owner : ∀ s, ∃ owner, (run h {} calls).sourceEventOwner s = .ok owner
  byKey : ∀ key, ∃ found, (run h {} calls).findActive (some key) none = .ok found
  bySource : ∀ s, ∃ found, (run h {} calls).findActive none (some s) = .ok found

/-- Event ownership and correlation uniqueness, over every run. -/
theorem ownership_and_correlation_invariant (h : Host) (calls : List (Instant × Call)) :
    RunOwnership h calls where
  owned := run_owned h calls
  permanent before after split incidentId s linked := by
    have both : run h {} calls = run h (run h {} before) after := by
      rw [split]; exact Runs.run_append _ _ _ _
    have kept := run_keeps_links (run_keyed h before) after _ linked
    rw [← both] at kept
    exact ⟨fun a other => (run_owned h calls).unique a incidentId s other kept, kept⟩
  owner s := ⟨_, sourceEventOwner_ok (run_owned h calls) s⟩
  byKey key := ⟨_, findActive_by_key (run_keyed h calls) (run_owned h calls) key⟩
  bySource s := ⟨_, findActive_by_source (run_keyed h calls) (run_owned h calls) s⟩

end NetworkAgent.Memory
