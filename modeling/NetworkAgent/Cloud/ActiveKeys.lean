import NetworkAgent.Cloud.IncidentHistory

/-! The active-key index holds exactly the keys of the active incidents. -/
namespace NetworkAgent.Cloud.Spanner
open Memory (Request)

def OwnsKey (h : Host) (s : Spanner) (i : Incident) (key : ActiveKey) : Prop :=
  key ∈ correlationKeys h i ∨ ∃ row ∈ s.sourceEvents.values,
    row.columns.incidentId = i.incidentId.text ∧
      key = activeKey h .source row.columns.sourceEventId

/-- A row of the index is a key of an active incident, and every such key has its row. -/
def Indexed (h : Host) (s : Spanner) : Prop :=
  ∀ hash kind id, s.activeKeys.lookup hash = some ⟨kind, id⟩ ↔
    ∃ i, s.incidents.lookup id = some (incidentValues i) ∧ i.status.isActive = true ∧
      OwnsKey h s i (hash, kind)

section
variable {h : Host} {s s' : Spanner} {i : Incident} {key : ActiveKey}

theorem ownsKey_added {rows : List SourceRow} (added : SourcesAdded s s' rows) :
    OwnsKey h s' i key ↔ OwnsKey h s i key ∨ ∃ row ∈ rows,
      row.columns.incidentId = i.incidentId.text ∧
        key = activeKey h .source row.columns.sourceEventId := by
  simp only [OwnsKey, added.mem_values]
  constructor
  · rintro (correlation | ⟨row, new | old, own, same⟩)
    · exact .inl (.inl correlation)
    · exact .inr ⟨row, new, own, same⟩
    · exact .inl (.inr ⟨row, old, own, same⟩)
  · rintro ((correlation | ⟨row, old, own, same⟩) | ⟨row, new, own, same⟩)
    · exact .inl correlation
    · exact .inr ⟨row, .inr old, own, same⟩
    · exact .inr ⟨row, .inl new, own, same⟩

theorem ownsKey_other {rows : List SourceRow} (added : SourcesAdded s s' rows) {incidentId : String}
    (own : ∀ row ∈ rows, row.columns.incidentId = incidentId) (other : i.incidentId.text ≠ incidentId) :
    OwnsKey h s' i key ↔ OwnsKey h s i key := by
  rw [ownsKey_added added, or_iff_left]
  rintro ⟨row, member, named, _⟩
  exact other (named.symm.trans (own row member))

theorem OwnsKey.congr {j : Incident} (named : j.incidentId = i.incidentId)
    (correlation : j.correlationKey = i.correlationKey) :
    OwnsKey h s j key ↔ OwnsKey h s i key := by
  simp only [OwnsKey, correlationKeys, named, correlation]

theorem mem_sourceKeys {ids : List String} :
    key ∈ sourceKeys h ids ↔ ∃ id ∈ ids, key = activeKey h .source id := by
  simp only [sourceKeys, List.mem_map, eq_comm]

theorem mem_sourceKeys_map {α : Type} {f : α → String} {xs : List α} :
    key ∈ sourceKeys h (xs.map f) ↔ ∃ x ∈ xs, key = activeKey h .source (f x) := by
  simp only [sourceKeys, List.map_map, List.mem_map, Function.comp_apply, eq_comm]

theorem Registered.ownsKey {ids : List Identifier} {now : Instant} {r : Request}
    {associations : List SourceEventAssociation} {rows : List SourceRow}
    (registered : Registered h s i.incidentId ids now r associations rows)
    (added : SourcesAdded s s' rows) :
    OwnsKey h s' i key ↔ OwnsKey h s i key ∨ key ∈ sourceKeys h (ids.map (·.text)) := by
  rw [ownsKey_added added, mem_sourceKeys]
  constructor
  · rintro (old | ⟨row, member, _, rfl⟩)
    · exact .inl old
    · obtain ⟨id, inside, _, _, rfl, _⟩ := registered.built row member
      exact .inr ⟨id.text, List.mem_map_of_mem inside, rfl⟩
  · rintro (old | ⟨_, inside, rfl⟩)
    · exact .inl old
    · obtain ⟨id, member, rfl⟩ := List.mem_map.mp inside
      obtain ⟨a, listed, rfl⟩ := registered.covered id member
      obtain ⟨named, _, ⟨row, new, rfl⟩ | old⟩ := registered.answered a listed
      · obtain ⟨own, _, source⟩ := registered.own new
        exact .inr ⟨row, new, own, by rw [source]⟩
      · exact .inl (.inr ⟨_, old, congrArg (·.text) named, rfl⟩)

theorem Acquired.lookup {incidentId : String} {keys : List ActiveKey}
    {rows : List (Sha256.Digest × ActiveKeyRow)} {activeKeys : Table Sha256.Digest ActiveKeyRow}
    (acquired : Acquired s incidentId keys rows) (added : s.activeKeys.Added rows activeKeys)
    {hash : Sha256.Digest} {kind : ActiveKeyKind} {id : String} :
    activeKeys.lookup hash = some ⟨kind, id⟩ ↔ s.activeKeys.lookup hash = some ⟨kind, id⟩ ∨
      (s.activeKeys.lookup hash = none ∧ id = incidentId ∧ (hash, kind) ∈ keys) := by
  rw [added.lookup, acquired.rows, or_comm]
  simp only [List.mem_map, List.mem_filter, decide_eq_true_eq, Prod.mk.injEq,
    ActiveKeyRow.mk.injEq, Prod.exists, ← AList.lookup_eq_none]
  constructor
  · rintro (old | ⟨_, _, ⟨member, absent⟩, rfl, rfl, rfl⟩)
    · exact .inl old
    · exact .inr ⟨absent, rfl, member⟩
  · rintro (old | ⟨absent, rfl, member⟩)
    · exact .inl old
    · exact .inr ⟨hash, kind, ⟨member, absent⟩, rfl, rfl, rfl⟩

theorem Sourced.keys {now : Instant} {r : Request} {sources : List SourceRow}
    {keys : List ActiveKey} (sourced : Sourced h s now r i sources keys)
    (unused : ∀ row ∈ s.sourceEvents.values, row.columns.incidentId ≠ i.incidentId.text) :
    key ∈ keys ↔ key ∈ correlationKeys h i ∨
      ∃ row ∈ sources, key = activeKey h .source row.columns.sourceEventId := by
  cases sourced with
  | registered registered =>
    simp only [candidateActiveKeys, sortedKeys, List.mem_insertionSort, List.mem_dedup,
      List.mem_append, mem_sourceKeys_map]
    refine or_congr_right ⟨?_, ?_⟩
    · rintro ⟨id, member, rfl⟩
      obtain ⟨a, listed, rfl⟩ := registered.covered id member
      obtain ⟨named, _, ⟨row, new, rfl⟩ | old⟩ := registered.answered a listed
      · exact ⟨row, new, by rw [(registered.own new).2.2]⟩
      · exact absurd (congrArg (·.text) named) (unused _ old)
    · rintro ⟨row, member, rfl⟩
      obtain ⟨id, inside, _, _, rfl, _⟩ := registered.built row member
      exact ⟨id, inside, rfl⟩
  | @imported associations listed bound =>
    simp only [migrationActiveKeys, candidateActiveKeys, sortedKeys, List.mem_insertionSort,
      List.mem_dedup, List.mem_append, mem_sourceKeys_map]
    constructor
    · rintro ((correlation | ⟨id, member, rfl⟩) | ⟨a, member, rfl⟩)
      · exact .inl correlation
      · obtain ⟨a, inside, rfl⟩ := listed id member
        exact .inr ⟨_, List.mem_map_of_mem (mem_sortedAssociations.mpr inside), rfl⟩
      · exact .inr ⟨_, List.mem_map_of_mem (mem_sortedAssociations.mpr member), rfl⟩
    · rintro (correlation | ⟨_, member, rfl⟩)
      · exact .inl (.inl correlation)
      · obtain ⟨a, inside, rfl⟩ := List.mem_map.mp member
        exact .inr ⟨a, mem_sortedAssociations.mp inside, rfl⟩

end

/-! Each effect keeps the index. -/

theorem indexed_empty (h : Host) : Indexed h {} := by
  intro hash kind id
  simp

theorem Opening.indexed {h : Host} {s s' : Spanner} {now : Instant} {r : Request} {i : Incident}
    {sources : List SourceRow} {keys : List ActiveKey} {event : IncidentAuditEvent}
    (keyed : s.Keyed h) (indexed : Indexed h s)
    (opening : Opening h s s' now r i sources keys event) : Indexed h s' := by
  have tables := opening.opened
  obtain ⟨rows, acquired, added⟩ := tables.activeKeys
  have own : ∀ row ∈ sources, row.columns.incidentId = i.incidentId.text := fun row member =>
    (opening.sourced.own member).1
  have unused : ∀ row ∈ s.sourceEvents.values, row.columns.incidentId ≠ i.incidentId.text := by
    intro row member named
    have stored := keyed.owners row member
    rw [named, opening.absent] at stored
    cases stored
  have active : i.status.isActive = true := by rw [opening.new.detected]; rfl
  have mine : ∀ key, OwnsKey h s' i key ↔ key ∈ keys := by
    intro key
    rw [ownsKey_added tables.sources, opening.sourced.keys unused, OwnsKey]
    constructor
    · rintro ((correlation | ⟨row, member, named, _⟩) | ⟨row, member, _, same⟩)
      · exact .inl correlation
      · exact absurd named (unused row member)
      · exact .inr ⟨row, member, same⟩
    · rintro (correlation | ⟨row, member, same⟩)
      · exact .inl (.inl correlation)
      · exact .inr ⟨row, member, own row member, same⟩
  intro hash kind id
  rw [acquired.lookup added]
  constructor
  · rintro (old | ⟨_, rfl, member⟩)
    · obtain ⟨j, stored, busy, owns⟩ := (indexed hash kind id).mp old
      have named : j.incidentId.text = id := (keyed.incidents id _ stored).2.1
      refine ⟨j, tables.incidents.lookup.mpr (.inr stored), busy,
        (ownsKey_other tables.sources own fun same => ?_).mpr owns⟩
      rw [named.symm.trans same, opening.absent] at stored
      cases stored
    · exact ⟨i, tables.incidents.lookup.mpr (.inl List.mem_cons_self), active,
        (mine _).mpr member⟩
  · rintro ⟨j, stored, busy, owns⟩
    rcases tables.incidents.lookup.mp stored with new | old
    · rw [List.mem_singleton, Prod.mk.injEq] at new
      obtain ⟨rfl, same⟩ := new
      have same : j = i := congrArg IncidentRow.payload same
      rw [same, mine] at owns
      exact .inr ⟨opening.alone _ owns, rfl, owns⟩
    · refine .inl ((indexed hash kind id).mpr ⟨j, old, busy, ?_⟩)
      have named : j.incidentId.text = id := (keyed.incidents id _ old).2.1
      refine (ownsKey_other tables.sources own fun same => ?_).mp owns
      rw [named.symm.trans same, opening.absent] at old
      cases old

theorem indexed_extended {h : Host} {s s' : Spanner} {current successor : Incident}
    {ids : List Identifier} {now : Instant} {r : Request}
    {associations : List SourceEventAssociation} {sources : List SourceRow}
    {rows : List (Sha256.Digest × ActiveKeyRow)} (keyed : s.Keyed h) (indexed : Indexed h s)
    (stored : s.incidents.lookup current.incidentId.text = some (incidentValues current))
    (active : current.status.isActive = true) (still : successor.status.isActive = true)
    (identity : current.SameIdentity successor)
    (incidents : ∀ id row, s'.incidents.lookup id = some row ↔
      (id = current.incidentId.text ∧ row = incidentValues successor) ∨
        (id ≠ current.incidentId.text ∧ s.incidents.lookup id = some row))
    (registered : Registered h s current.incidentId ids now r associations sources)
    (added : SourcesAdded s s' sources)
    (acquired : Acquired s current.incidentId.text (sourceKeys h (ids.map (·.text))) rows)
    (inserted : s.activeKeys.Added rows s'.activeKeys) : Indexed h s' := by
  have own : ∀ row ∈ sources, row.columns.incidentId = current.incidentId.text :=
    fun row member => (registered.own member).1
  have mine : ∀ key, OwnsKey h s' successor key ↔
      OwnsKey h s current key ∨ key ∈ sourceKeys h (ids.map (·.text)) := by
    intro key
    rw [OwnsKey.congr identity.incidentId identity.correlationKey, registered.ownsKey added]
  have kinds : ∀ {hash kind}, (hash, kind) ∈ sourceKeys h (ids.map (·.text)) →
      kind = ActiveKeyKind.source := by
    intro hash kind member
    obtain ⟨_, _, same⟩ := mem_sourceKeys.mp member
    exact congrArg Prod.snd same
  intro hash kind id
  rw [acquired.lookup inserted]
  constructor
  · rintro (old | ⟨_, rfl, member⟩)
    · obtain ⟨j, found, busy, owns⟩ := (indexed hash kind id).mp old
      by_cases same : id = current.incidentId.text
      · refine ⟨successor, (incidents id _).mpr (.inl ⟨same, rfl⟩), still, (mine _).mpr (.inl ?_)⟩
        rw [same, stored] at found
        have equal : current = j := congrArg IncidentRow.payload (Option.some.inj found)
        exact equal ▸ owns
      · refine ⟨j, (incidents id _).mpr (.inr ⟨same, found⟩), busy,
          (ownsKey_other added own fun equal => same ?_).mpr owns⟩
        exact (keyed.incidents id _ found).2.1.symm.trans equal
    · exact ⟨successor, (incidents _ _).mpr (.inl ⟨rfl, rfl⟩), still, (mine _).mpr (.inr member)⟩
  · rintro ⟨j, found, busy, owns⟩
    rcases (incidents id _).mp found with ⟨rfl, same⟩ | ⟨other, before⟩
    · have same : j = successor := congrArg IncidentRow.payload same
      rw [same, mine] at owns
      rcases owns with old | new
      · exact .inl ((indexed _ _ _).mpr ⟨current, stored, active, old⟩)
      · cases taken : s.activeKeys.lookup hash with
        | none => exact .inr ⟨rfl, rfl, new⟩
        | some row =>
          obtain ⟨listed, named⟩ := acquired.own hash row taken ⟨_, new, rfl⟩
          left
          rw [kinds new, ← kinds listed, ← named]
    · refine .inl ((indexed _ _ _).mpr ⟨j, before, busy,
        (ownsKey_other added own fun equal => other ?_).mp owns⟩)
      exact (keyed.incidents id _ before).2.1.symm.trans equal

theorem Advancing.indexed {h : Host} {s s' : Spanner} {now : Instant} {r : Request}
    {target : IncidentStatus} {u : Updates} {current successor : Incident}
    {sources : List SourceRow} {event : IncidentAuditEvent} (keyed : s.Keyed h)
    (indexed : Indexed h s)
    (advancing : Advancing h s s' now r target u current successor sources event) :
    Indexed h s' := by
  have tables := advancing.advanced
  have identity := (identity_of_advancing advancing).identity
  have stored := (get_some.mp advancing.stored).1
  obtain ⟨associations, registered⟩ := advancing.registered
  have incidents : ∀ id row, s'.incidents.lookup id = some row ↔
      (id = current.incidentId.text ∧ row = incidentValues successor) ∨
        (id ≠ current.incidentId.text ∧ s.incidents.lookup id = some row) := by
    intro id row
    rw [tables.incidents, Table.lookup_insert_iff, identity.incidentId]
  rw [identity.incidentId] at registered
  have own : ∀ row ∈ sources, row.columns.incidentId = current.incidentId.text :=
    fun row member => (registered.own member).1
  -- A settled incident has no row, and one that settles has none left.
  have resting : ∀ {hash kind id}, current.status.isSettled = true →
      s.activeKeys.lookup hash = some ⟨kind, id⟩ → id ≠ current.incidentId.text := by
    intro hash kind id settled found same
    obtain ⟨j, known, busy, _⟩ := (indexed hash kind id).mp found
    rw [same, stored] at known
    have equal : current = j := congrArg IncidentRow.payload (Option.some.inj known)
    simp [← equal, IncidentStatus.isActive, settled] at busy
  have others : ∀ {j : Incident} {id : String} {key : ActiveKey}, id ≠ current.incidentId.text →
      s.incidents.lookup id = some (incidentValues j) →
      (OwnsKey h s' j key ↔ OwnsKey h s j key) := by
    intro j id key other found
    exact ownsKey_other tables.sources own fun equal =>
      other ((keyed.incidents id _ found).2.1.symm.trans equal)
  cases tables.activeKeys with
  | extended active still acquired added =>
    rw [identity.incidentId] at acquired
    exact indexed_extended keyed indexed stored active still identity incidents registered
      tables.sources acquired added
  | @reopened ids rows settled active listed acquired added =>
    have mine : ∀ key, OwnsKey h s' successor key ↔
        key ∈ sourceKeys h ids ++ correlationKeys h successor := by
      intro key
      rw [OwnsKey.congr identity.incidentId identity.correlationKey,
        registered.ownsKey tables.sources, List.mem_append, mem_sourceKeys, mem_sourceKeys,
        OwnsKey, or_right_comm]
      simp only [correlationKeys, identity.correlationKey]
      constructor
      · rintro ((correlation | ⟨id, member, rfl⟩) | ⟨row, member, named, rfl⟩)
        · exact .inr correlation
        · exact .inl ⟨id, (listed id).mpr (.inl member), rfl⟩
        · exact .inl ⟨_, (listed _).mpr (.inr ⟨row, member, by rw [named, identity.incidentId], rfl⟩),
            rfl⟩
      · rintro (⟨id, member, rfl⟩ | correlation)
        · rcases (listed id).mp member with new | ⟨row, inside, named, rfl⟩
          · exact .inl (.inr ⟨id, new, rfl⟩)
          · exact .inr ⟨row, inside, by rw [named, identity.incidentId], rfl⟩
        · exact .inl (.inl correlation)
    have free : ∀ {hash kind}, (hash, kind) ∈ sourceKeys h ids ++ correlationKeys h successor →
        s.activeKeys.lookup hash = none := by
      intro hash kind member
      cases found : s.activeKeys.lookup hash with
      | none => rfl
      | some row =>
        have named := (acquired.own hash row found ⟨_, member, rfl⟩).2
        exact absurd (named.trans (congrArg _ identity.incidentId)) (resting settled found)
    intro hash kind id
    rw [acquired.lookup added]
    constructor
    · rintro (old | ⟨_, rfl, member⟩)
      · obtain ⟨j, found, busy, owns⟩ := (indexed hash kind id).mp old
        have other := resting settled old
        exact ⟨j, (incidents id _).mpr (.inr ⟨other, found⟩), busy, (others other found).mpr owns⟩
      · exact ⟨successor, (incidents _ _).mpr (.inl ⟨congrArg _ identity.incidentId, rfl⟩), active,
          (mine _).mpr member⟩
    · rintro ⟨j, found, busy, owns⟩
      rcases (incidents id _).mp found with ⟨rfl, same⟩ | ⟨other, before⟩
      · have same : j = successor := congrArg IncidentRow.payload same
        rw [same, mine] at owns
        exact .inr ⟨free owns, congrArg _ identity.incidentId.symm, owns⟩
      · exact .inl ((indexed _ _ _).mpr ⟨j, before, busy, (others other before).mp owns⟩)
  | released active settled left =>
    intro hash kind id
    rw [left, identity.incidentId]
    constructor
    · rintro ⟨old, other⟩
      obtain ⟨j, found, busy, owns⟩ := (indexed hash kind id).mp old
      exact ⟨j, (incidents id _).mpr (.inr ⟨other, found⟩), busy, (others other found).mpr owns⟩
    · rintro ⟨j, found, busy, owns⟩
      rcases (incidents id _).mp found with ⟨rfl, same⟩ | ⟨other, before⟩
      · have same : j = successor := congrArg IncidentRow.payload same
        simp [same, IncidentStatus.isActive, settled] at busy
      · exact ⟨(indexed _ _ _).mpr ⟨j, before, busy, (others other before).mp owns⟩, other⟩
  | untouched settled still same =>
    intro hash kind id
    rw [same]
    constructor
    · intro old
      obtain ⟨j, found, busy, owns⟩ := (indexed hash kind id).mp old
      have other := resting settled old
      exact ⟨j, (incidents id _).mpr (.inr ⟨other, found⟩), busy, (others other found).mpr owns⟩
    · rintro ⟨j, found, busy, owns⟩
      rcases (incidents id _).mp found with ⟨rfl, equal⟩ | ⟨other, before⟩
      · have equal : j = successor := congrArg IncidentRow.payload equal
        simp [equal, IncidentStatus.isActive, still] at busy
      · exact (indexed _ _ _).mpr ⟨j, before, busy, (others other before).mp owns⟩

theorem Effect.indexed {h : Host} {s s' : Spanner} {now : Instant} {call : Call}
    (keyed : s.Keyed h) (indexed : Indexed h s) (effect : Effect h s now call s') :
    Indexed h s' := by
  cases effect with
  | unchanged => exact indexed
  | opened _ _ _ opening => exact opening.indexed keyed indexed
  | imported _ _ opening => exact opening.indexed keyed indexed
  | advanced _ _ advancing => exact advancing.indexed keyed indexed
  | @joined _ _ _ _ existing _ _ _ _ joining =>
    have tables := joining.joined
    obtain ⟨rows, acquired, added⟩ := tables.activeKeys
    have stored := (get_some.mp joining.answers.stored).1
    refine indexed_extended keyed indexed stored joining.answers.active joining.answers.active
      (.refl existing) (fun id row => ?_) joining.registered tables.sources acquired added
    rw [tables.incidents]
    by_cases same : id = existing.incidentId.text
    · rw [same, stored]
      exact ⟨fun found => .inl ⟨rfl, (Option.some.inj found).symm⟩,
        fun found => by rcases found with ⟨_, rfl⟩ | ⟨other, _⟩; exacts [rfl, absurd rfl other]⟩
    · simp [same]

theorem run_indexed (h : Host) (calls : List (Instant × Call)) : Indexed h (run h {} calls) := by
  have both := Runs.run_invariant (next h) (P := fun s => s.Keyed h ∧ Indexed h s)
    (fun s call inv => ⟨next_keyed s call inv.1,
      (step_effect h s call.1 call.2).indexed inv.1 inv.2⟩)
    ⟨keyed_empty h, indexed_empty h⟩ calls
  exact both.2

end NetworkAgent.Cloud.Spanner
