import NetworkAgent.Cloud.IncidentEffects

/-! What stays true of the tables over every run: rows sit under their own keys, and what was
written is kept. -/
namespace NetworkAgent.Cloud.Spanner
open Memory (Request EventOf Evolved)

/-- Every row sits under its own key, and every source row belongs to a stored incident. -/
structure Keyed (h : Host) (s : Spanner) : Prop where
  incidents : ∀ k row, s.incidents.lookup k = some row →
    row = incidentValues row.payload ∧ row.payload.incidentId.text = k ∧ row.payload.Valid h
  sources : ∀ k row, s.sourceEvents.lookup k = some row → row.key = k ∧
    row.payload.incidentId.text = row.columns.incidentId ∧
    row.payload.sourceEventId.text = row.columns.sourceEventId
  owners : ∀ row ∈ s.sourceEvents.values,
    (s.incidents.lookup row.columns.incidentId).isSome = true

theorem keyed_empty (h : Host) : ({} : Spanner).Keyed h where
  incidents k row stored := by simp at stored
  sources k row stored := by simp at stored
  owners row member := by
    obtain ⟨_, stored⟩ := Table.mem_values.mp member
    simp at stored

theorem identity_of_advancing {h : Host} {s s' : Spanner} {now : Instant} {r : Request}
    {target : IncidentStatus} {u : Updates} {current successor : Incident}
    {sources : List SourceRow} {event : IncidentAuditEvent}
    (advancing : Advancing h s s' now r target u current successor sources event) :
    Transition h current target now successor := by
  obtain ⟨_, accepted⟩ := advancing.accepted
  exact transition_of_ok accepted

theorem Registered.own {h : Host} {s : Spanner} {incidentId : Identifier} {ids : List Identifier}
    {now : Instant} {r : Request} {associations : List SourceEventAssociation}
    {rows : List SourceRow} (registered : Registered h s incidentId ids now r associations rows)
    {row : SourceRow} (member : row ∈ rows) : row.columns.incidentId = incidentId.text ∧
      row.payload.incidentId.text = row.columns.incidentId ∧
      row.payload.sourceEventId.text = row.columns.sourceEventId := by
  obtain ⟨id, _, a, _, rfl, _⟩ := registered.built row member
  exact ⟨rfl, rfl, rfl⟩

theorem mem_sortedAssociations {associations : List SourceEventAssociation}
    {a : SourceEventAssociation} : a ∈ sortedAssociations associations ↔ a ∈ associations :=
  List.mem_insertionSort _

theorem Sourced.own {h : Host} {s : Spanner} {now : Instant} {r : Request} {i : Incident}
    {sources : List SourceRow} {keys : List ActiveKey} (sourced : Sourced h s now r i sources keys)
    {row : SourceRow} (member : row ∈ sources) : row.columns.incidentId = i.incidentId.text ∧
      row.payload.incidentId.text = row.columns.incidentId ∧
      row.payload.sourceEventId.text = row.columns.sourceEventId := by
  cases sourced with
  | registered registered => exact registered.own member
  | imported _ bound =>
    obtain ⟨a, inside, rfl⟩ := List.mem_map.mp member
    exact ⟨congrArg (·.text) (bound a (mem_sortedAssociations.mp inside)).1, rfl, rfl⟩

theorem SourcesAdded.mem_values {s s' : Spanner} {rows : List SourceRow}
    (added : SourcesAdded s s' rows) {row : SourceRow} :
    row ∈ s'.sourceEvents.values ↔ row ∈ rows ∨ row ∈ s.sourceEvents.values := by
  simp only [Table.mem_values, added.added.lookup, List.mem_map, Prod.mk.injEq]
  constructor
  · rintro ⟨k, ⟨row', member, _, rfl⟩ | stored⟩
    · exact .inl member
    · exact .inr ⟨k, stored⟩
  · rintro (member | ⟨k, stored⟩)
    · exact ⟨row.key, .inl ⟨row, member, rfl, rfl⟩⟩
    · exact ⟨k, .inr stored⟩

theorem Keyed.extend {h : Host} {s s' : Spanner} (keyed : s.Keyed h) {incidentId : String}
    {rows : List SourceRow} (added : SourcesAdded s s' rows)
    (own : ∀ row ∈ rows, row.columns.incidentId = incidentId ∧
      row.payload.incidentId.text = row.columns.incidentId ∧
      row.payload.sourceEventId.text = row.columns.sourceEventId)
    (stored : (s'.incidents.lookup incidentId).isSome = true)
    (kept : ∀ k, (s.incidents.lookup k).isSome = true → (s'.incidents.lookup k).isSome = true)
    (incidents : ∀ k row, s'.incidents.lookup k = some row →
      row = incidentValues row.payload ∧ row.payload.incidentId.text = k ∧ row.payload.Valid h) :
    s'.Keyed h where
  incidents := incidents
  sources := by
    intro k row known
    rcases added.added.lookup.mp known with member | before
    · obtain ⟨row', inside, same⟩ := List.mem_map.mp member
      cases same
      exact ⟨rfl, (own row inside).2⟩
    · exact keyed.sources k row before
  owners := by
    intro row member
    rcases added.mem_values.mp member with new | old
    · rw [(own row new).1]; exact stored
    · exact kept _ (keyed.owners row old)

theorem Effect.keyed {h : Host} {s s' : Spanner} {now : Instant} {call : Call} (keyed : s.Keyed h)
    (effect : Effect h s now call s') : s'.Keyed h := by
  have opened : ∀ {r : Request} {i : Incident} {sources : List SourceRow} {keys : List ActiveKey}
      {event : IncidentAuditEvent}, Opening h s s' now r i sources keys event → s'.Keyed h := by
    intro r i sources keys event opening
    have here : s'.incidents.lookup i.incidentId.text = some (incidentValues i) :=
      opening.opened.incidents.lookup.mpr (.inl List.mem_cons_self)
    refine keyed.extend opening.opened.sources (fun row member => opening.sourced.own member)
      (by rw [here]; rfl) (fun k => ?_) fun k row stored => ?_
    · simp only [Option.isSome_iff_exists]
      rintro ⟨row, stored⟩
      exact ⟨row, opening.opened.incidents.lookup.mpr (.inr stored)⟩
    · rcases opening.opened.incidents.lookup.mp stored with new | old
      · cases List.mem_singleton.mp new
        exact ⟨rfl, rfl, opening.new.valid⟩
      · exact keyed.incidents k row old
  cases effect with
  | unchanged => exact keyed
  | opened _ _ _ opening => exact opened opening
  | imported _ _ opening => exact opened opening
  | joined _ _ joining =>
    obtain ⟨here, _⟩ := get_some.mp joining.answers.stored
    refine keyed.extend joining.joined.sources (fun row member => joining.registered.own member)
      ?_ (fun k known => ?_) fun k row stored => ?_
    · rw [joining.joined.incidents, here]; rfl
    · rw [joining.joined.incidents]; exact known
    · rw [joining.joined.incidents] at stored; exact keyed.incidents k row stored
  | @advanced _ s' _ target _ current successor _ _ _ _ advancing =>
    have transition := identity_of_advancing advancing
    obtain ⟨associations, registered⟩ := advancing.registered
    refine keyed.extend advancing.advanced.sources (fun row member => registered.own member)
      ?_ (fun k => ?_) fun k row stored => ?_
    · rw [advancing.advanced.incidents, AList.lookup_insert]; rfl
    · simp only [Option.isSome_iff_exists, advancing.advanced.incidents, Table.lookup_insert_iff]
      rintro ⟨row, stored⟩
      by_cases same : k = successor.incidentId.text
      · exact ⟨_, .inl ⟨same, rfl⟩⟩
      · exact ⟨row, .inr ⟨same, stored⟩⟩
    · rw [advancing.advanced.incidents] at stored
      rcases Table.lookup_insert_iff.mp stored with ⟨rfl, rfl⟩ | ⟨_, before⟩
      · exact ⟨rfl, rfl, transition.valid⟩
      · exact keyed.incidents k row before

theorem next_keyed {h : Host} (s : Spanner) (call : Instant × Call) (keyed : s.Keyed h) :
    (next h s call).Keyed h := (step_effect h s call.1 call.2).keyed keyed

theorem run_keyed (h : Host) (calls : List (Instant × Call)) : (run h {} calls).Keyed h :=
  Runs.run_invariant (next h) (fun s call => next_keyed s call) (keyed_empty h) calls

/-! Nothing that was written is lost. -/

/-- Every row but an incident's stays as it is, and an incident only evolves. -/
structure Kept (s s' : Spanner) : Prop where
  incidents : ∀ k row, s.incidents.lookup k = some row →
    ∃ row', s'.incidents.lookup k = some row' ∧ Evolved row.payload row'.payload
  sources : ∀ k row, s.sourceEvents.lookup k = some row → s'.sourceEvents.lookup k = some row
  audit : ∀ k row, s.audit.lookup k = some row → s'.audit.lookup k = some row
  idempotency : ∀ k row, s.idempotency.lookup k = some row → s'.idempotency.lookup k = some row

theorem Kept.refl (s : Spanner) : Kept s s :=
  ⟨fun _ row stored => ⟨row, stored, .refl _⟩, fun _ _ known => known, fun _ _ known => known,
    fun _ _ known => known⟩

theorem Kept.trans {a b c : Spanner} (first : Kept a b) (second : Kept b c) : Kept a c where
  incidents k row stored := by
    obtain ⟨row', stored', evolved⟩ := first.incidents k row stored
    obtain ⟨row'', stored'', evolved'⟩ := second.incidents k row' stored'
    exact ⟨row'', stored'', evolved.trans evolved'⟩
  sources k row known := second.sources k row (first.sources k row known)
  audit k row known := second.audit k row (first.audit k row known)
  idempotency k row known := second.idempotency k row (first.idempotency k row known)

theorem Effect.kept {h : Host} {s s' : Spanner} {now : Instant} {call : Call}
    (effect : Effect h s now call s') : Kept s s' := by
  have opened : ∀ {r : Request} {i : Incident} {sources : List SourceRow} {keys : List ActiveKey}
      {event : IncidentAuditEvent}, Opening h s s' now r i sources keys event → Kept s s' := by
    intro r i sources keys event opening
    have tables := opening.opened
    exact ⟨fun k row stored => ⟨row, tables.incidents.lookup.mpr (.inr stored), .refl _⟩,
      fun k row known => tables.sources.added.lookup.mpr (.inr known),
      fun k row known => tables.booked.audit.lookup.mpr (.inr known),
      fun k row known => tables.booked.idempotency.lookup.mpr (.inr known)⟩
  cases effect with
  | unchanged => exact .refl s
  | opened _ _ _ opening => exact opened opening
  | imported _ _ opening => exact opened opening
  | joined _ _ joining =>
    have tables := joining.joined
    refine ⟨fun k row stored => ⟨row, by rw [tables.incidents]; exact stored, .refl _⟩,
      fun k row known => tables.sources.added.lookup.mpr (.inr known), fun k row known => ?_,
      fun k row known => tables.idempotency.lookup.mpr (.inr known)⟩
    rw [tables.audit]
    exact known
  | @advanced _ _ _ _ _ current successor _ _ _ _ advancing =>
    have tables := advancing.advanced
    have transition := identity_of_advancing advancing
    refine ⟨fun k row stored => ?_,
      fun k row known => tables.sources.added.lookup.mpr (.inr known),
      fun k row known => tables.booked.audit.lookup.mpr (.inr known),
      fun k row known => tables.booked.idempotency.lookup.mpr (.inr known)⟩
    rw [tables.incidents]
    by_cases same : k = successor.incidentId.text
    · obtain ⟨here, _⟩ := get_some.mp advancing.stored
      rw [same, transition.identity.incidentId, here] at stored
      cases stored
      exact ⟨_, Table.lookup_insert_iff.mpr (.inl ⟨same, rfl⟩), .of_transition transition⟩
    · exact ⟨row, Table.lookup_insert_iff.mpr (.inr ⟨same, stored⟩), .refl _⟩

theorem run_kept (h : Host) (s : Spanner) (calls : List (Instant × Call)) :
    Kept s (run h s calls) :=
  Runs.run_relation (next h) (P := fun _ => True) (R := Kept) (fun _ _ _ => trivial) .refl
    (fun first second => first.trans second)
    (fun s call _ => (step_effect h s call.1 call.2).kept) trivial calls

end NetworkAgent.Cloud.Spanner
