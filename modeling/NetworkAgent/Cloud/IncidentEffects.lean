import NetworkAgent.Memory.History
import NetworkAgent.Cloud.IncidentCalls

/-! What one committed transaction does to the tables. Every invariant of the Spanner
repository is derived from this. -/
namespace NetworkAgent

def Call.metadata : Call → WriteMetadata
  | .create _ w | .createOrCorrelate _ w | .importDetectedSnapshot _ _ w | .save _ _ w
  | .transition _ _ _ w _ => w

/-- The source events that a call associates in its own name; an import brings associations. -/
def Call.sourceIds : Call → List String
  | .create i _ | .createOrCorrelate i _ | .save i _ _ => i.sourceEventIds.map (·.text)
  | .importDetectedSnapshot _ _ _ => []
  | .transition _ _ _ _ u => match u.sourceEventIds with
    | .set ids => ids.map stripWhitespace
    | _ => []

namespace Cloud
open Checks (require forall₂_mem_left forall₂_mem_right)
open Memory (Request EventOf Evolved)

/-! Inversion of the checks. -/

@[simp] theorem liftInput_ok {α : Type} {x : Except InputError α} {a : α} :
    liftInput x = .ok a ↔ x = .ok a := by
  cases x <;> simp [liftInput]

@[simp] theorem liftValidation_ok {v : Validation} {u : Unit} :
    liftValidation v = .ok u ↔ v = .ok () := by
  cases v <;> simp [liftValidation]

@[simp] theorem liftTransition_ok {α : Type} {x : Except TransitionError α} {a : α} :
    liftTransition x = .ok a ↔ x = .ok a := by
  cases x <;> simp [liftTransition]

@[simp] theorem requireSafe_ok {h : Host} {boundary : String} {value : Json} {u : Unit} :
    requireSafe h boundary value = .ok u ↔ RepositorySafe h value := by
  rw [requireSafe, liftInput_ok, assertSafe_ok]

@[simp] theorem requireValue_ok {condition : Prop} [Decidable condition] {text : String} {u : Unit} :
    requireValue condition text = .ok u ↔ condition := Checks.require_ok

@[simp] theorem requireConsistent_ok {condition : Prop} [Decidable condition] {text : String}
    {u : Unit} : requireConsistent condition text = .ok u ↔ condition := Checks.require_ok

theorem inserted_ok {T : Type} {table : String} {x : Option T} {t : T} :
    inserted table x = .ok t ↔ x = some t := by
  cases x <;> simp [inserted]

theorem incidentRow_parse_ok {h : Host} {r : IncidentRow} {incidentId : String} {i : Incident} :
    r.parse h incidentId = .ok i ↔ r = incidentValues i ∧ i.incidentId.text = incidentId ∧
      i.Valid h ∧ RepositorySafe h i.toJson := by
  simp only [IncidentRow.parse, Checks.bind_ok, liftValidation_ok, requireConsistent_ok,
    requireSafe_ok, pure, Except.pure, Except.ok.injEq, exists_const]
  constructor
  · rintro ⟨valid, ⟨columns, named⟩, safe, rfl⟩
    exact ⟨by rw [incidentValues, ← columns], named, valid, safe⟩
  · rintro ⟨rfl, named, valid, safe⟩
    exact ⟨valid, ⟨rfl, named⟩, safe, rfl⟩

theorem sourceRow_parse_ok {h : Host} {r : SourceRow} {incidentId : String}
    {a : SourceEventAssociation} :
    r.parse h incidentId = .ok a ↔ r = ⟨sourceBinding a, a⟩ ∧ a.incidentId.text = incidentId ∧
      RepositorySafe h a.toJson := by
  simp only [SourceRow.parse, Checks.bind_ok, requireConsistent_ok, requireSafe_ok, pure,
    Except.pure, Except.ok.injEq, exists_const]
  constructor
  · rintro ⟨⟨columns, named⟩, safe, rfl⟩
    exact ⟨by rw [← columns], named, safe⟩
  · rintro ⟨rfl, named, safe⟩
    exact ⟨⟨rfl, named⟩, safe, rfl⟩

theorem auditRow_parse_ok {h : Host} {r : AuditRow} {incidentId : String} {e : IncidentAuditEvent} :
    r.parse h incidentId = .ok e ↔ r = Spanner.auditRow e ∧ e.incidentId.text = incidentId ∧
      RepositorySafe h e.toJson := by
  simp only [AuditRow.parse, Checks.bind_ok, requireConsistent_ok, requireSafe_ok, pure,
    Except.pure, Except.ok.injEq, exists_const]
  constructor
  · rintro ⟨⟨columns, named⟩, safe, rfl⟩
    exact ⟨by rw [Spanner.auditRow, ← columns], named, safe⟩
  · rintro ⟨rfl, named, safe⟩
    exact ⟨⟨rfl, named⟩, safe, rfl⟩

theorem boundedPage_ok {R A : Type} {h : Host} {boundary : String} {parse : R → Except IncidentError A}
    {image : A → Json} {size : Nat} {rows : List R} {page : List A}
    (read : boundedPage h boundary parse image size rows = .ok page) :
    List.Forall₂ (fun r a => parse r = .ok a) rows page := by
  induction rows generalizing size page with
  | nil => cases read; exact .nil
  | cons r rest ih =>
    simp only [boundedPage, Checks.bind_ok, Checks.require_ok, pure, Except.pure,
      Except.ok.injEq] at read
    obtain ⟨a, parsed, _, _, tail, later, rfl⟩ := read
    exact .cons parsed (ih later)

namespace Spanner

theorem get_some {h : Host} {s : Spanner} {incidentId : String} {i : Incident} :
    s.get h incidentId = .ok (some i) ↔ s.incidents.lookup incidentId = some (incidentValues i) ∧
      i.incidentId.text = incidentId ∧ i.Valid h ∧ RepositorySafe h i.toJson := by
  unfold get
  cases s.incidents.lookup incidentId with
  | none => simp
  | some row =>
    simp only [Checks.map_ok, Option.some.injEq, exists_eq_right, incidentRow_parse_ok]

theorem get_none {h : Host} {s : Spanner} {incidentId : String} :
    s.get h incidentId = .ok none ↔ s.incidents.lookup incidentId = none := by
  unfold get
  cases s.incidents.lookup incidentId with
  | none => simp
  | some row => simp [Checks.map_ok]

theorem requireCurrent_ok {h : Host} {s : Spanner} {incidentId : String} {i : Incident} :
    s.requireCurrent h incidentId = .ok i ↔ s.get h incidentId = .ok (some i) := by
  unfold requireCurrent
  cases s.get h incidentId with
  | error e => simp [Bind.bind, Except.bind]
  | ok found => cases found <;> simp [Bind.bind, Except.bind, pure, Except.pure]

theorem requireAbsent_ok {h : Host} {s : Spanner} {incidentId : String} {u : Unit} :
    s.requireAbsent h incidentId = .ok u ↔ s.incidents.lookup incidentId = none := by
  unfold requireAbsent
  rw [← get_none (h := h)]
  cases s.get h incidentId with
  | error e => simp [Bind.bind, Except.bind]
  | ok found => cases found <;> simp [Bind.bind, Except.bind, pure, Except.pure]

theorem replay_some {h : Host} {s : Spanner} {scope : Scope} {fp : Sha256.Digest} {i : Incident} :
    s.replay h scope fp = .ok (some i) ↔
      s.idempotency.lookup scope = some ⟨fp, i.incidentId.text, i⟩ ∧ i.Valid h ∧
        RepositorySafe h i.toJson := by
  unfold replay
  cases s.idempotency.lookup scope with
  | none => simp
  | some row =>
    obtain ⟨stored, resultId, payload⟩ := row
    simp only [Checks.bind_ok, Checks.require_ok, liftValidation_ok, requireConsistent_ok,
      requireSafe_ok, pure, Except.pure, Except.ok.injEq, Option.some.injEq, exists_const,
      IdempotencyRow.mk.injEq]
    constructor
    · rintro ⟨rfl, valid, rfl, safe, rfl⟩; exact ⟨⟨rfl, rfl, rfl⟩, valid, safe⟩
    · rintro ⟨⟨rfl, rfl, rfl⟩, valid, safe⟩; exact ⟨rfl, valid, rfl, safe, rfl⟩

theorem replay_none {h : Host} {s : Spanner} {scope : Scope} {fp : Sha256.Digest} :
    s.replay h scope fp = .ok none ↔ s.idempotency.lookup scope = none := by
  unfold replay
  cases s.idempotency.lookup scope with
  | none => simp
  | some row => simp [Checks.bind_ok, Checks.map_ok]

/-! Commits. -/

theorem commit_append (before after : List Mutation) (s : Spanner) :
    commit (before ++ after) s = commit before s >>= commit after := by
  induction before generalizing s with
  | nil => rfl
  | cons m rest ih =>
    simp only [List.cons_append, commit]
    cases s.apply m with
    | error e => rfl
    | ok s' => exact ih s'

theorem commit_one (m : Mutation) (s : Spanner) : commit [m] s = s.apply m := by
  simp only [commit]
  cases s.apply m <;> rfl

theorem commit_cons (m : Mutation) (rest : List Mutation) (s : Spanner) :
    commit (m :: rest) s = s.apply m >>= commit rest := rfl

section
variable {s s' : Spanner}

theorem apply_insertIncident {row : IncidentRow} (done : s.apply (.insertIncident row) = .ok s') :
    ∃ incidents, s.incidents.Added [(row.columns.incidentId, row)] incidents ∧
      row.columns.revision ≤ maxInt64 ∧ s' = { s with incidents } := by
  simp only [apply, Checks.bind_ok, Checks.require_ok, inserted_ok, pure, Except.pure,
    Except.ok.injEq, exists_const] at done
  obtain ⟨fits, incidents, new, rfl⟩ := done
  exact ⟨incidents, Table.insertNew_some new, fits, rfl⟩

theorem apply_updateIncident {row : IncidentRow} (done : s.apply (.updateIncident row) = .ok s') :
    row.columns.revision ≤ maxInt64 ∧
      s' = { s with incidents := s.incidents.insert row.columns.incidentId row } := by
  simp only [apply, Checks.bind_ok, Checks.require_ok, pure, Except.pure, Except.ok.injEq,
    exists_const] at done
  obtain ⟨⟨fits, _⟩, rfl⟩ := done
  exact ⟨fits, rfl⟩

theorem apply_insertSourceEvents {rows : List SourceRow}
    (done : s.apply (.insertSourceEvents rows) = .ok s') :
    ∃ sourceEvents, s.sourceEvents.Added (rows.map fun r => (r.key, r)) sourceEvents ∧
      (sourceEvents.values.map (·.columns.sourceEventId)).Nodup ∧ s' = { s with sourceEvents } := by
  simp only [apply, Checks.bind_ok, Checks.require_ok, inserted_ok, pure, Except.pure,
    Except.ok.injEq, exists_const] at done
  obtain ⟨_, sourceEvents, new, unique, rfl⟩ := done
  exact ⟨sourceEvents, Table.insertRows_some new, unique, rfl⟩

theorem apply_insertActiveKeys {rows : List (Sha256.Digest × ActiveKeyRow)}
    (done : s.apply (.insertActiveKeys rows) = .ok s') :
    ∃ activeKeys, s.activeKeys.Added rows activeKeys ∧ s' = { s with activeKeys } := by
  simp only [apply, Checks.bind_ok, inserted_ok, pure, Except.pure, Except.ok.injEq] at done
  obtain ⟨activeKeys, new, rfl⟩ := done
  exact ⟨activeKeys, Table.insertRows_some new, rfl⟩

theorem apply_insertAudit {row : AuditRow} (done : s.apply (.insertAudit row) = .ok s') :
    ∃ audit, s.audit.Added [(row.key, row)] audit ∧ row.columns.revision ≤ maxInt64 ∧
      s' = { s with audit } := by
  simp only [apply, Checks.bind_ok, Checks.require_ok, inserted_ok, pure, Except.pure,
    Except.ok.injEq, exists_const] at done
  obtain ⟨fits, audit, new, _, rfl⟩ := done
  exact ⟨audit, Table.insertNew_some new, fits, rfl⟩

theorem apply_insertIdempotency {scope : Scope} {row : IdempotencyRow}
    (done : s.apply (.insertIdempotency scope row) = .ok s') :
    ∃ idempotency, s.idempotency.Added [(scope, row)] idempotency ∧ s' = { s with idempotency } := by
  simp only [apply, Checks.bind_ok, inserted_ok, pure, Except.pure, Except.ok.injEq] at done
  obtain ⟨idempotency, new, rfl⟩ := done
  exact ⟨idempotency, Table.insertNew_some new, rfl⟩

end

/-! Source events. -/

theorem mem_sourceRows {s : Spanner} {incidentId : String} {row : SourceRow} :
    row ∈ s.sourceRows incidentId ↔
      row ∈ s.sourceEvents.values ∧ row.columns.incidentId = incidentId := by
  simp [sourceRows, List.mem_insertionSort]

/-- A page below the capacity holds every association of the incident, and each row of the
incident is bound to its payload. -/
structure PageOf (h : Host) (s : Spanner) (incidentId : String)
    (page : List SourceEventAssociation) : Prop where
  bound : ∀ row ∈ s.sourceEvents.values, row.columns.incidentId = incidentId →
    row = ⟨sourceBinding row.payload, row.payload⟩ ∧ row.payload ∈ page
  stored : ∀ a ∈ page, ⟨sourceBinding a, a⟩ ∈ s.sourceEvents.values ∧
    a.incidentId.text = incidentId ∧ RepositorySafe h a.toJson
  rows : (s.sourceRows incidentId).map (·.payload) = page

theorem pageOf_read {h : Host} {s : Spanner} {boundary incidentId : String}
    {page : List SourceEventAssociation} (read : s.sourcePage h boundary incidentId = .ok page)
    (bounded : page.length ≤ maxIncidentSourceEvents) : PageOf h s incidentId page := by
  have pairs := boundedPage_ok read
  have whole : (s.sourceRows incidentId).take (maxIncidentSourceEvents + 1) =
      s.sourceRows incidentId := by
    have lengths := pairs.length_eq
    rw [List.length_take] at lengths
    exact List.take_of_length_le (by omega)
  rw [whole] at pairs
  constructor
  · intro row member named
    have inside := mem_sourceRows.mpr ⟨member, named⟩
    obtain ⟨a, known, parsed⟩ := forall₂_mem_left pairs inside
    obtain ⟨rfl, _⟩ := sourceRow_parse_ok.mp parsed
    exact ⟨rfl, known⟩
  · intro a member
    obtain ⟨row, known, parsed⟩ := forall₂_mem_right pairs member
    obtain ⟨rfl, named, safe⟩ := sourceRow_parse_ok.mp parsed
    exact ⟨(mem_sourceRows.mp known).1, named, safe⟩
  · generalize s.sourceRows incidentId = rows at pairs
    clear whole read bounded
    induction pairs with
    | nil => rfl
    | cons parsed _ ih =>
      obtain ⟨rfl, _⟩ := sourceRow_parse_ok.mp parsed
      rw [List.map_cons, ih]

structure Registered (h : Host) (s : Spanner) (incidentId : Identifier) (ids : List Identifier)
    (now : Instant) (r : Request) (associations : List SourceEventAssociation)
    (rows : List SourceRow) : Prop where
  owned : ∀ row ∈ s.sourceEvents.values, row.columns.sourceEventId ∈ ids.map (·.text) →
    row.columns.incidentId = incidentId.text
  built : ∀ row ∈ rows, ∃ id ∈ ids, ∃ a, r.metadata.attribution = some a ∧
    row = sourceRow (.build incidentId id now a) r ∧
    RepositorySafe h (SourceEventAssociation.build incidentId id now a).toJson
  new : ∀ row ∈ rows, ∀ old ∈ s.sourceEvents.values,
    old.columns.sourceEventId ≠ row.columns.sourceEventId
  answered : ∀ a ∈ associations, a.incidentId = incidentId ∧ a.sourceEventId ∈ ids ∧
    ((∃ row ∈ rows, row.payload = a) ∨ ⟨sourceBinding a, a⟩ ∈ s.sourceEvents.values)
  covered : ∀ id ∈ ids, ∃ a ∈ associations, a.sourceEventId = id

theorem requireSourceEventOwners_ok {s : Spanner} {incidentId : String} {sourceIds : List String}
    {u : Unit} : s.requireSourceEventOwners incidentId sourceIds = .ok u ↔
      ∀ row ∈ s.sourceEvents.values, row.columns.sourceEventId ∈ sourceIds →
        row.columns.incidentId = incidentId := by
  simp [requireSourceEventOwners, Checks.each_ok, List.mem_insertionSort]

/-- The associations of a list of source events: each stored one as it is, each other one built. -/
structure Associated (h : Host) (incidentId : Identifier) (now : Instant) (r : Request)
    (existing : List SourceEventAssociation) (ids : List Identifier)
    (associations : List SourceEventAssociation) (rows : List SourceRow) : Prop where
  built : ∀ row ∈ rows, ∃ id ∈ ids, ∃ a, r.metadata.attribution = some a ∧
    row = sourceRow (.build incidentId id now a) r ∧
    RepositorySafe h (SourceEventAssociation.build incidentId id now a).toJson ∧
    ∀ old ∈ existing, old.sourceEventId ≠ id
  answered : ∀ a ∈ associations, a.sourceEventId ∈ ids ∧
    ((∃ row ∈ rows, row.payload = a) ∨ a ∈ existing)
  covered : ∀ id ∈ ids, ∃ a ∈ associations, a.sourceEventId = id

theorem associate_ok {h : Host} {incidentId : Identifier} {now : Instant} {r : Request}
    {existing : List SourceEventAssociation} {ids : List Identifier}
    {associations : List SourceEventAssociation} {rows : List SourceRow}
    (done : associate h incidentId now r existing ids = .ok (associations, rows)) :
    Associated h incidentId now r existing ids associations rows := by
  induction ids generalizing associations rows with
  | nil => cases done; exact ⟨by simp, by simp, by simp⟩
  | cons id rest ih =>
    unfold associate at done
    split at done
    · next a found =>
      obtain ⟨⟨associations', rows'⟩, tail, same⟩ := Checks.bind_ok.mp done
      cases same
      have known := ih tail
      have own : a.sourceEventId = id := by simpa using List.find?_some found
      refine ⟨fun row member => ?_, fun b member => ?_, fun id' member => ?_⟩
      · obtain ⟨id', inside, facts⟩ := known.built row member
        exact ⟨id', List.mem_cons_of_mem _ inside, facts⟩
      · rcases List.mem_cons.mp member with rfl | later
        · exact ⟨own ▸ List.mem_cons_self, .inr (List.mem_of_find?_eq_some found)⟩
        · obtain ⟨inside, source⟩ := known.answered b later
          exact ⟨List.mem_cons_of_mem _ inside, source⟩
      · rcases List.mem_cons.mp member with rfl | later
        · exact ⟨a, List.mem_cons_self, own⟩
        · obtain ⟨b, inside, named⟩ := known.covered id' later
          exact ⟨b, List.mem_cons_of_mem _ inside, named⟩
    · next missing =>
      split at done
      · cases done
      · next attribution parsed =>
        simp only [Checks.bind_ok, requireSafe_ok, pure, Except.pure, Except.ok.injEq,
          Prod.mk.injEq, Prod.exists, exists_const] at done
        obtain ⟨safe, associations', rows', tail, rfl, rfl⟩ := done
        have known := ih tail
        have absent : ∀ old ∈ existing, old.sourceEventId ≠ id := by
          intro old member
          simpa using List.find?_eq_none.mp missing old member
        refine ⟨fun row member => ?_, fun b member => ?_, fun id' member => ?_⟩
        · rcases List.mem_cons.mp member with rfl | later
          · exact ⟨id, List.mem_cons_self, attribution, parsed, rfl, safe, absent⟩
          · obtain ⟨id', inside, facts⟩ := known.built row later
            exact ⟨id', List.mem_cons_of_mem _ inside, facts⟩
        · rcases List.mem_cons.mp member with rfl | later
          · exact ⟨List.mem_cons_self, .inl ⟨_, List.mem_cons_self, rfl⟩⟩
          · obtain ⟨inside, source⟩ := known.answered b later
            refine ⟨List.mem_cons_of_mem _ inside, source.imp_left ?_⟩
            rintro ⟨row, written, same⟩
            exact ⟨row, List.mem_cons_of_mem _ written, same⟩
        · rcases List.mem_cons.mp member with rfl | later
          · exact ⟨_, List.mem_cons_self, rfl⟩
          · obtain ⟨b, inside, named⟩ := known.covered id' later
            exact ⟨b, List.mem_cons_of_mem _ inside, named⟩

theorem registerSourceEvents_ok {h : Host} {s : Spanner} {incidentId : Identifier}
    {ids : List Identifier} {now : Instant} {r : Request}
    {associations : List SourceEventAssociation} {mutations : List Mutation}
    (done : s.registerSourceEvents h incidentId ids now r = .ok (associations, mutations)) :
    ∃ rows, mutations = [.insertSourceEvents rows] ∧
      Registered h s incidentId ids now r associations rows := by
  simp only [registerSourceEvents, Checks.bind_ok, requireSourceEventOwners_ok,
    requireConsistent_ok, requireValue_ok, pure, Except.pure, Except.ok.injEq, Prod.mk.injEq,
    Prod.exists, exists_const] at done
  obtain ⟨owned, page, read, bounded, _, _, rows, associated, rfl, rfl⟩ := done
  have page := pageOf_read read bounded
  have known := associate_ok associated
  have same : ∀ id, id ∈ Memory.sortedSources ids ↔ id ∈ ids := fun id => by
    simp [Memory.sortedSources, List.mem_insertionSort]
  refine ⟨rows, rfl, owned, fun row member => ?_, fun row member old stored => ?_,
    fun a member => ?_, fun id member => known.covered id ((same id).mpr member)⟩
  · obtain ⟨id, inside, a, parsed, row, safe, _⟩ := known.built row member
    exact ⟨id, (same id).mp inside, a, parsed, row, safe⟩
  · obtain ⟨id, inside, a, _, rfl, _, absent⟩ := known.built row member
    intro taken
    have owner := owned old stored (by
      rw [taken]; exact List.mem_map_of_mem ((same id).mp inside))
    obtain ⟨bound, listed⟩ := page.bound old stored owner
    refine absent old.payload listed (Text.Bounded.ext ?_)
    rw [bound] at taken
    exact taken
  · obtain ⟨inside, source⟩ := known.answered a member
    rcases source with ⟨row, written, rfl⟩ | listed
    · obtain ⟨id, _, _, _, rfl, _⟩ := known.built row written
      exact ⟨rfl, (same _).mp inside, .inl ⟨_, written, rfl⟩⟩
    · obtain ⟨stored, named, _⟩ := page.stored a listed
      exact ⟨Text.Bounded.ext named, (same _).mp inside, .inr stored⟩

/-! Active keys. -/

theorem expectedKind_isSome {keys : List ActiveKey} {hash : Sha256.Digest} :
    (expectedKind keys hash).isSome ↔ ∃ key ∈ keys, key.1 = hash := by
  rw [expectedKind, List.lookup_isSome_iff]
  simp

theorem expectedKind_mem {keys : List ActiveKey} {hash : Sha256.Digest} {kind : ActiveKeyKind}
    (expected : expectedKind keys hash = some kind) : (hash, kind) ∈ keys := by
  obtain ⟨front, back, split, _⟩ := List.lookup_eq_some_iff.mp expected
  rw [← List.mem_reverse, split]
  simp

theorem checkKeyRows_ok {keys : List ActiveKey} {accept : ActiveKeyRow → Except IncidentError Unit}
    {seen : List Sha256.Digest} {rows : List (Sha256.Digest × ActiveKeyRow)} {u : Unit} :
    checkKeyRows keys accept seen rows = .ok u ↔
      (∀ r ∈ rows, r.1 ∉ seen ∧ some r.2.kind = expectedKind keys r.1 ∧ accept r.2 = .ok ()) ∧
        (rows.map (·.1)).Nodup := by
  induction rows generalizing seen with
  | nil => simp [checkKeyRows]
  | cons r rest ih =>
    obtain ⟨hash, row⟩ := r
    simp only [checkKeyRows, Checks.bind_ok, requireConsistent_ok, ih, exists_const,
      forall_eq_or_imp, List.map_cons, List.nodup_cons, List.mem_cons, not_or, List.mem_map,
      not_exists, not_and]
    constructor
    · rintro ⟨⟨fresh, _⟩, kind, _, accepted, later, unique⟩
      refine ⟨⟨⟨fresh, kind, accepted⟩, fun r member => ?_⟩, fun r member same => ?_, unique⟩
      · exact ⟨(later r member).1.2, (later r member).2⟩
      · exact (later r member).1.1 same
    · rintro ⟨⟨⟨fresh, kind, accepted⟩, later⟩, absent, unique⟩
      refine ⟨⟨fresh, by rw [← kind]; rfl⟩, kind, (), accepted, fun r member => ?_, unique⟩
      exact ⟨⟨fun same => absent r member same, (later r member).1⟩, (later r member).2⟩

theorem mem_keyRows {s : Spanner} {keys : List ActiveKey} {r : Sha256.Digest × ActiveKeyRow} :
    r ∈ s.keyRows keys ↔ s.activeKeys.lookup r.1 = some r.2 ∧ ∃ key ∈ keys, key.1 = r.1 := by
  rw [keyRows, List.mem_insertionSort, List.mem_filter, expectedKind_isSome, Table.mem_rows]

theorem rows_nodup {K V : Type} [DecidableEq K] (t : Table K V) : (t.rows.map (·.1)).Nodup := by
  have keys : t.rows.map (·.1) = t.keys := by simp [Table.rows, AList.keys, List.keys]
  rw [keys]
  exact t.keys_nodup

theorem keyRows_nodup (s : Spanner) (keys : List ActiveKey) :
    ((s.keyRows keys).map (·.1)).Nodup := by
  refine ((List.perm_insertionSort _ _).map _).nodup_iff.mpr ?_
  exact (rows_nodup s.activeKeys).sublist (List.filter_sublist.map _)

/-- The rows under some keys are of the kind the keys give, and their incidents accepted. -/
def KeysPass (s : Spanner) (keys : List ActiveKey) (accept : String → Prop) : Prop :=
  ∀ hash row, s.activeKeys.lookup hash = some row → (∃ key ∈ keys, key.1 = hash) →
    (hash, row.kind) ∈ keys ∧ accept row.incidentId

theorem keysPass_of_check {s : Spanner} {keys : List ActiveKey}
    {accept : ActiveKeyRow → Except IncidentError Unit} {accepted : String → Prop} {u : Unit}
    (spec : ∀ row, accept row = .ok () → accepted row.incidentId)
    (checked : checkKeyRows keys accept [] (s.keyRows keys) = .ok u) :
    s.KeysPass keys accepted := by
  intro hash row stored asked
  obtain ⟨_, kind, passed⟩ := (checkKeyRows_ok.mp checked).1 (hash, row)
    (mem_keyRows.mpr ⟨stored, asked⟩)
  exact ⟨expectedKind_mem kind.symm, spec row passed⟩

/-- Keys taken for an incident: none belongs to another one, and each has a row afterwards. -/
structure Acquired (s : Spanner) (incidentId : String) (keys : List ActiveKey)
    (rows : List (Sha256.Digest × ActiveKeyRow)) : Prop where
  own : s.KeysPass keys (· = incidentId)
  rows : rows = (keys.filter fun key => key.1 ∉ s.activeKeys).map fun key =>
    (key.1, ⟨key.2, incidentId⟩)

theorem acquireActiveKeys_ok {s : Spanner} {incidentId : String} {keys : List ActiveKey}
    {u : Unit} {mutations : List Mutation}
    (done : s.acquireActiveKeys incidentId keys = .ok (u, mutations)) :
    ∃ rows, mutations = [.insertActiveKeys rows] ∧ Acquired s incidentId keys rows := by
  simp only [acquireActiveKeys, Checks.bind_ok, pure, Except.pure, Except.ok.injEq,
    Prod.mk.injEq] at done
  obtain ⟨_, checked, _, rfl⟩ := done
  exact ⟨_, rfl, keysPass_of_check (fun row passed => Checks.require_ok.mp passed) checked, rfl⟩

theorem releaseActiveKeys_ok {s : Spanner} {incidentId : String} {u : Unit}
    {mutations : List Mutation} (done : s.releaseActiveKeys incidentId = .ok (u, mutations)) :
    ∃ hashes, mutations = [.deleteActiveKeys hashes] ∧
      ∀ hash, hash ∈ hashes ↔ ∃ row, s.activeKeys.lookup hash = some row ∧
        row.incidentId = incidentId := by
  simp only [releaseActiveKeys, Checks.bind_ok, requireConsistent_ok, pure, Except.pure,
    Except.ok.injEq, Prod.mk.injEq, exists_const] at done
  obtain ⟨bounded, _, rfl⟩ := done
  refine ⟨_, rfl, fun hash => ?_⟩
  have whole : (s.activeKeys.rows.filter fun r => r.2.incidentId = incidentId).take
      (maxIncidentSourceEvents + 2) = s.activeKeys.rows.filter fun r => r.2.incidentId = incidentId := by
    rw [List.length_map, List.length_take] at bounded
    exact List.take_of_length_le (by omega)
  rw [whole]
  simp [Table.mem_rows]

structure Answers (h : Host) (s : Spanner) (keys : List ActiveKey) (i : Incident) : Prop where
  stored : s.get h i.incidentId.text = .ok (some i)
  active : i.status.isActive = true
  own : s.KeysPass keys (· = i.incidentId.text)
  held : ∃ key ∈ keys, s.activeKeys.lookup key.1 = some ⟨key.2, i.incidentId.text⟩

theorem findActiveForKeys_ok {h : Host} {s : Spanner} {keys : List ActiveKey}
    {requestedId : String} {found : Option Incident}
    (done : s.findActiveForKeys h keys requestedId = .ok found) :
    match found with
    | none => ∀ key ∈ keys, s.activeKeys.lookup key.1 = none
    | some i => Answers h s keys i := by
  obtain ⟨_, checked, done⟩ := Checks.bind_ok.mp done
  have pass : s.KeysPass keys fun _ => True := keysPass_of_check (fun _ _ => trivial) checked
  have incidents : ∀ id, id ∈ ((s.keyRows keys).map (·.2.incidentId)).dedup ↔
      ∃ hash row, s.activeKeys.lookup hash = some row ∧ (∃ key ∈ keys, key.1 = hash) ∧
        row.incidentId = id := by
    intro id
    simp only [List.mem_dedup, List.mem_map, mem_keyRows, Prod.exists]
    exact ⟨fun ⟨hash, row, ⟨stored, asked⟩, own⟩ => ⟨hash, row, stored, asked, own⟩,
      fun ⟨hash, row, stored, asked, own⟩ => ⟨hash, row, ⟨stored, asked⟩, own⟩⟩
  split at done
  · next empty =>
    cases done
    intro key member
    rw [empty] at incidents
    rw [Option.eq_none_iff_forall_not_mem]
    intro row stored
    exact absurd ((incidents row.incidentId).mpr ⟨key.1, row, stored, ⟨key, member, rfl⟩, rfl⟩)
      List.not_mem_nil
  · next id single =>
    obtain ⟨found, got, done⟩ := Checks.bind_ok.mp done
    split at done
    · cases done
    · next i =>
      simp only [Checks.bind_ok, requireConsistent_ok, pure, Except.pure, Except.ok.injEq,
        exists_const] at done
      obtain ⟨active, rfl⟩ := done
      obtain ⟨_, named, _⟩ := get_some.mp got
      rw [single] at incidents
      obtain ⟨hash, row, stored, ⟨key, member, rfl⟩, own⟩ :=
        (incidents id).mp List.mem_cons_self
      refine ⟨by rw [named]; exact got, active, fun hash row stored asked => ?_, ?_⟩
      · have listed := (incidents row.incidentId).mpr ⟨hash, row, stored, asked, rfl⟩
        exact ⟨(pass hash row stored asked).1, by rw [named]; exact List.mem_singleton.mp listed⟩
      · have known := (pass key.1 row stored ⟨key, member, rfl⟩).1
        refine ⟨(key.1, row.kind), known, ?_⟩
        rw [stored, named, ← own]
  · cases done

/-! Commits of whole transactions. -/

structure SourcesAdded (s s' : Spanner) (rows : List SourceRow) : Prop where
  added : s.sourceEvents.Added (rows.map fun r => (r.key, r)) s'.sourceEvents
  unique : (s'.sourceEvents.values.map (·.columns.sourceEventId)).Nodup

structure Booked (s s' : Spanner) (r : Request) (i : Incident) (event : IncidentAuditEvent) :
    Prop where
  audit : s.audit.Added [((auditRow event).key, auditRow event)] s'.audit
  fits : event.revision ≤ maxInt64
  idempotency : s.idempotency.Added [(r.scope, ⟨r.fingerprint, i.incidentId.text, i⟩)]
    s'.idempotency

structure Opened (s s' : Spanner) (r : Request) (i : Incident) (sources : List SourceRow)
    (keys : List ActiveKey) (event : IncidentAuditEvent) : Prop where
  incidents : s.incidents.Added [(i.incidentId.text, incidentValues i)] s'.incidents
  sources : SourcesAdded s s' sources
  activeKeys : ∃ rows, Acquired s i.incidentId.text keys rows ∧ s.activeKeys.Added rows s'.activeKeys
  booked : Booked s s' r i event

/-- The index after a change of status. -/
inductive KeysMoved (h : Host) (s : Spanner) (activeKeys : Table Sha256.Digest ActiveKeyRow)
    (current successor : Incident) : Prop
  | reopened {ids : List String} {rows : List (Sha256.Digest × ActiveKeyRow)}
      (settled : current.status.isSettled = true) (active : successor.status.isActive = true)
      (listed : ∀ id, id ∈ ids ↔ id ∈ successor.sourceEventIds.map (·.text) ∨
        ∃ row ∈ s.sourceEvents.values, row.columns.incidentId = successor.incidentId.text ∧
          row.columns.sourceEventId = id)
      (acquired : Acquired s successor.incidentId.text
        (sourceKeys h ids ++ correlationKeys h successor) rows)
      (added : s.activeKeys.Added rows activeKeys)
  | released (active : current.status.isActive = true) (settled : successor.status.isSettled = true)
      (left : ∀ hash row, activeKeys.lookup hash = some row ↔
        s.activeKeys.lookup hash = some row ∧ row.incidentId ≠ successor.incidentId.text)
  | extended {rows : List (Sha256.Digest × ActiveKeyRow)}
      (active : current.status.isActive = true) (still : successor.status.isActive = true)
      (acquired : Acquired s successor.incidentId.text
        (sourceKeys h (successor.sourceEventIds.map (·.text))) rows)
      (added : s.activeKeys.Added rows activeKeys)
  | untouched (settled : current.status.isSettled = true)
      (still : successor.status.isSettled = true) (same : activeKeys = s.activeKeys)

structure Advanced (h : Host) (s s' : Spanner) (r : Request) (current successor : Incident)
    (sources : List SourceRow) (event : IncidentAuditEvent) : Prop where
  incidents : s'.incidents =
    s.incidents.insert successor.incidentId.text (incidentValues successor)
  sources : SourcesAdded s s' sources
  activeKeys : KeysMoved h s s'.activeKeys current successor
  booked : Booked s s' r successor event

structure Joined (h : Host) (s s' : Spanner) (r : Request) (existing : Incident)
    (ids : List Identifier) (sources : List SourceRow) : Prop where
  incidents : s'.incidents = s.incidents
  sources : SourcesAdded s s' sources
  activeKeys : ∃ rows, Acquired s existing.incidentId.text (sourceKeys h (ids.map (·.text))) rows ∧
    s.activeKeys.Added rows s'.activeKeys
  audit : s'.audit = s.audit
  idempotency : s.idempotency.Added [(r.scope, ⟨r.fingerprint, existing.incidentId.text, existing⟩)]
    s'.idempotency

theorem opened_of_commit {s s' : Spanner} {r : Request} {i : Incident} {sources : List SourceRow}
    {keys : List ActiveKey} {rows : List (Sha256.Digest × ActiveKeyRow)}
    {event : IncidentAuditEvent} (acquired : Acquired s i.incidentId.text keys rows)
    (committed : commit [.insertIncident (incidentValues i), .insertSourceEvents sources,
      .insertActiveKeys rows, .insertAudit (auditRow event), recordResult r i] s = .ok s') :
    Opened s s' r i sources keys event := by
  simp only [commit_cons, recordResult, Checks.bind_ok] at committed
  obtain ⟨_, first, _, second, _, third, _, fourth, _, fifth, done⟩ := committed
  obtain ⟨_, incidents, _, rfl⟩ := apply_insertIncident first
  obtain ⟨_, added, unique, rfl⟩ := apply_insertSourceEvents second
  obtain ⟨_, activeKeys, rfl⟩ := apply_insertActiveKeys third
  obtain ⟨_, audit, fits, rfl⟩ := apply_insertAudit fourth
  obtain ⟨_, idempotency, rfl⟩ := apply_insertIdempotency fifth
  cases done
  exact ⟨incidents, ⟨added, unique⟩, ⟨rows, acquired, activeKeys⟩, ⟨audit, fits, idempotency⟩⟩

theorem commitCreate_ok {h : Host} {s s' : Spanner} {r : Request} {i : Incident} {now : Instant}
    {associations : List SourceEventAssociation} {mutations : List Mutation}
    (done : s.commitCreate h r i now = .ok (associations, mutations))
    (committed : commit mutations s = .ok s') :
    ∃ sources event, Registered h s i.incidentId i.sourceEventIds now r associations sources ∧
      auditEventOf h i none r now = .ok event ∧
      Opened s s' r i sources (candidateActiveKeys h i) event := by
  simp only [commitCreate, Checks.bind_ok, Prod.exists, pure, Except.pure, Except.ok.injEq,
    Prod.mk.injEq] at done
  obtain ⟨event, built, _, _, registered, _, _, acquired, rfl, rfl⟩ := done
  obtain ⟨sources, rfl, known⟩ := registerSourceEvents_ok registered
  obtain ⟨rows, rfl, taken⟩ := acquireActiveKeys_ok acquired
  exact ⟨sources, event, known, built, opened_of_commit taken committed⟩

theorem associatedSourceIds_ok {s : Spanner} {incidentId : String} {ids : List String}
    (read : s.associatedSourceIds incidentId = .ok ids) (id : String) :
    id ∈ ids ↔ ∃ row ∈ s.sourceEvents.values, row.columns.incidentId = incidentId ∧
      row.columns.sourceEventId = id := by
  simp only [associatedSourceIds, Checks.bind_ok, requireConsistent_ok, pure, Except.pure,
    Except.ok.injEq, exists_const] at read
  obtain ⟨bounded, rfl⟩ := read
  have whole : (s.sourceRows incidentId).take (maxIncidentSourceEvents + 1) =
      s.sourceRows incidentId := by
    rw [List.length_map, List.length_take] at bounded
    exact List.take_of_length_le (by omega)
  simp only [whole, List.mem_map, mem_sourceRows, and_assoc]

theorem moveActiveKeys_ok {h : Host} {s : Spanner} {current successor : Incident} {u : Unit}
    {mutations : List Mutation}
    (done : s.moveActiveKeys h current successor = .ok (u, mutations)) {a a' : Spanner}
    (before : a.activeKeys = s.activeKeys) (committed : commit mutations a = .ok a') :
    ∃ activeKeys, a' = { a with activeKeys } ∧ KeysMoved h s activeKeys current successor := by
  have insertion : ∀ {keys : List ActiveKey},
      s.acquireActiveKeys successor.incidentId.text keys = .ok (u, mutations) →
      ∃ rows activeKeys, a' = { a with activeKeys } ∧
        Acquired s successor.incidentId.text keys rows ∧ s.activeKeys.Added rows activeKeys := by
    intro keys acquired
    obtain ⟨rows, rfl, taken⟩ := acquireActiveKeys_ok acquired
    rw [commit_one] at committed
    obtain ⟨activeKeys, added, rfl⟩ := apply_insertActiveKeys committed
    exact ⟨rows, activeKeys, rfl, taken, before ▸ added⟩
  unfold moveActiveKeys at done
  extract_lets incidentId sourceIds at done
  split at done
  · next move =>
    obtain ⟨associated, read, found, _, done⟩ := by
      simpa only [Checks.bind_ok] using done
    have listed : ∀ id, id ∈ (associated ++ sourceIds).dedup.insertionSort (fun a b => textLe a b) ↔
        id ∈ sourceIds ∨ ∃ row ∈ s.sourceEvents.values,
          row.columns.incidentId = successor.incidentId.text ∧ row.columns.sourceEventId = id := by
      intro id
      rw [List.mem_insertionSort, List.mem_dedup, List.mem_append, associatedSourceIds_ok read,
        or_comm]
    have acquired : s.acquireActiveKeys incidentId (sourceKeys h
        ((associated ++ sourceIds).dedup.insertionSort fun a b => textLe a b) ++
        correlationKeys h successor) = .ok (u, mutations) := by
      split at done
      · exact (Checks.seq_ok.mp done).2
      · exact done
    obtain ⟨rows, activeKeys, rfl, acquired, added⟩ := insertion acquired
    exact ⟨activeKeys, rfl, .reopened move.1 move.2 listed acquired added⟩
  · next stay =>
    split at done
    · next move =>
      obtain ⟨hashes, rfl, released⟩ := releaseActiveKeys_ok done
      rw [commit_one] at committed
      cases committed
      refine ⟨_, rfl, .released move.1 move.2 fun hash row => ?_⟩
      rw [before, Table.lookup_eraseAll, released]
      constructor
      · rintro ⟨other, stored⟩
        exact ⟨stored, fun own => other ⟨row, stored, own⟩⟩
      · rintro ⟨stored, other⟩
        refine ⟨?_, stored⟩
        rintro ⟨row', stored', own⟩
        apply other
        cases stored.symm.trans stored'
        exact own
    · next keep =>
      have kinds : ∀ status : IncidentStatus, status.isActive = !status.isSettled := fun _ => rfl
      split at done
      · next active =>
        obtain ⟨rows, activeKeys, rfl, acquired, added⟩ := insertion done
        refine ⟨activeKeys, rfl, .extended ?_ active acquired added⟩
        simp only [kinds] at stay active ⊢
        simpa [active] using stay
      · next settled =>
        cases done
        cases committed
        refine ⟨a.activeKeys, rfl, .untouched ?_ ?_ before⟩
        · simp only [kinds] at keep settled
          simp only [Bool.not_eq_true, Bool.not_eq_false'] at settled
          simpa [settled] using keep
        · simpa [kinds] using settled

theorem commitTransition_ok {h : Host} {s s' : Spanner} {r : Request}
    {current successor : Incident} {now : Instant} {u : Unit} {mutations : List Mutation}
    (done : s.commitTransition h r current successor now = .ok (u, mutations))
    (committed : commit mutations s = .ok s') :
    ∃ associations sources event,
      Registered h s successor.incidentId successor.sourceEventIds now r associations sources ∧
      auditEventOf h successor (some current.status) r now = .ok event ∧
      Advanced h s s' r current successor sources event := by
  simp only [commitTransition, Checks.bind_ok, Prod.exists, pure, Except.pure, Except.ok.injEq,
    Prod.mk.injEq] at done
  obtain ⟨associations, _, registered, _, _, moved, event, built, _, rfl⟩ := done
  obtain ⟨sources, rfl, known⟩ := registerSourceEvents_ok registered
  simp only [commit_append, commit_cons, recordResult, Checks.bind_ok] at committed
  obtain ⟨_, ⟨_, ⟨_, first, done⟩, second⟩, _, third, _, fourth, _, fifth, last⟩ := committed
  cases done
  cases last
  obtain ⟨_, added, unique, rfl⟩ := apply_insertSourceEvents first
  obtain ⟨_, rfl, moved⟩ := moveActiveKeys_ok moved (by rfl) second
  obtain ⟨_, rfl⟩ := apply_updateIncident third
  obtain ⟨_, audit, fits, rfl⟩ := apply_insertAudit fourth
  obtain ⟨_, idempotency, rfl⟩ := apply_insertIdempotency fifth
  exact ⟨associations, sources, event, known, built, rfl, ⟨added, unique⟩, moved,
    ⟨audit, fits, idempotency⟩⟩

/-! The effect of a call. -/


structure Requested (h : Host) (w : WriteMetadata) (r : Request) : Prop where
  key : r.scope.idempotencyKey = strip w.idempotencyKey
  metadata : r.metadata = { w with idempotencyKey := strip w.idempotencyKey }
  clean : w.Clean h

theorem Requested.trace {h : Host} {w : WriteMetadata} {r : Request} (requested : Requested h w r) :
    r.metadata.traceId = w.traceId := by rw [requested.metadata]

theorem requestScope_ok {operation incidentId idempotencyKey : String} {scope : Scope}
    (done : requestScope operation incidentId idempotencyKey = .ok scope) :
    scope = ⟨strip operation, strip incidentId, strip idempotencyKey⟩ := by
  simp only [requestScope, Checks.bind_ok, liftInput_ok, pure, Except.pure, Except.ok.injEq] at done
  obtain ⟨a, first, b, second, c, third, rfl⟩ := done
  rw [text_of_requireNonEmpty first, text_of_requireNonEmpty second, text_of_requireNonEmpty third]

set_option maxRecDepth 8000 in
theorem clean_of_requireWriteMetadata {h : Host} {w : WriteMetadata}
    (passed : requireWriteMetadata h w = .ok ()) : w.Clean h := by
  simp only [requireWriteMetadata, Checks.bind_ok, liftInput_ok, requireSafe_ok] at passed
  obtain ⟨_, _, _, _, _, _, _, _, safe⟩ := passed
  exact ⟨clean_of_safe safe "idempotency_key" (by decide) (by simp),
    clean_of_safe safe "actor" (by decide) (by simp [WriteMetadata.fields]),
    clean_of_safe safe "reason" (by decide) (by simp [WriteMetadata.fields]),
    clean_of_safe safe "trace_id" (by decide) (by simp [WriteMetadata.fields])⟩

theorem requested_of_scope {h : Host} {w : WriteMetadata} {operation incidentId : String}
    {scope : Scope} {fp : Sha256.Digest} (passed : requireWriteMetadata h w = .ok ())
    (scopeOk : requestScope operation incidentId w.idempotencyKey = .ok scope) :
    Requested h w (request scope fp w) := by
  cases requestScope_ok scopeOk
  exact ⟨rfl, rfl, clean_of_requireWriteMetadata passed⟩

structure NewIncident (h : Host) (i : Incident) : Prop where
  detected : i.status = .detected
  revision : i.revision = 0
  valid : i.Valid h
  safe : RepositorySafe h i.toJson

theorem validateNewIncident_ok {h : Host} {i committed : Incident} {traceId : String}
    {now : Instant} (passed : validateNewIncident h i traceId now = .ok committed) :
    committed = { i with createdAt := now, updatedAt := now } ∧ i.traceId.text = traceId ∧
      NewIncident h committed := by
  simp only [validateNewIncident, Checks.bind_ok, requireValue_ok, liftValidation_ok,
    requireSafe_ok, pure, Except.pure, Except.ok.injEq, exists_const] at passed
  obtain ⟨revision, detected, trace, valid, safe, rfl⟩ := passed
  exact ⟨rfl, trace, detected, revision, valid, safe⟩

/-- Where the source rows and the keys of a new incident come from. -/
inductive Sourced (h : Host) (s : Spanner) (now : Instant) (r : Request) (i : Incident) :
    List SourceRow → List ActiveKey → Prop
  | registered {associations : List SourceEventAssociation} {sources : List SourceRow}
      (registered : Registered h s i.incidentId i.sourceEventIds now r associations sources) :
      Sourced h s now r i sources (candidateActiveKeys h i)
  | imported {associations : List SourceEventAssociation}
      (listed : ∀ id ∈ i.sourceEventIds, ∃ a ∈ associations, a.sourceEventId = id)
      (bound : ∀ a ∈ associations, a.incidentId = i.incidentId ∧ RepositorySafe h a.toJson) :
      Sourced h s now r i
        ((sortedAssociations associations).map fun a => ⟨sourceBinding a, a⟩)
        (migrationActiveKeys h i associations)

/-- A new incident: not stored before, and no active incident answers to its keys. -/
structure Opening (h : Host) (s s' : Spanner) (now : Instant) (r : Request) (i : Incident)
    (sources : List SourceRow) (keys : List ActiveKey) (event : IncidentAuditEvent) : Prop where
  absent : s.incidents.lookup i.incidentId.text = none
  new : NewIncident h i
  trace : r.metadata.traceId = i.traceId.text
  sourced : Sourced h s now r i sources keys
  alone : ∀ key ∈ keys, s.activeKeys.lookup key.1 = none
  built : auditEventOf h i none r now = .ok event
  opened : Opened s s' r i sources keys event

/-- The source events of a candidate, added to the active incident that answers to its keys. -/
structure Joining (h : Host) (s s' : Spanner) (now : Instant) (r : Request)
    (candidate existing : Incident) (associations : List SourceEventAssociation)
    (sources : List SourceRow) : Prop where
  new : NewIncident h candidate
  trace : r.metadata.traceId = candidate.traceId.text
  answers : Answers h s (candidateActiveKeys h candidate) existing
  registered : Registered h s existing.incidentId candidate.sourceEventIds now r associations sources
  joined : Joined h s s' r existing candidate.sourceEventIds sources

/-- A stored incident and the successor that the state machine made of it. -/
structure Advancing (h : Host) (s s' : Spanner) (now : Instant) (r : Request)
    (target : IncidentStatus) (u : Updates) (current successor : Incident)
    (sources : List SourceRow) (event : IncidentAuditEvent) : Prop where
  stored : s.get h current.incidentId.text = .ok (some current)
  trace : r.metadata.traceId = current.traceId.text
  accepted : ∃ expected,
    transitionIncident h current target expected (.given now) (.given now) u = .ok successor
  registered : ∃ associations,
    Registered h s successor.incidentId successor.sourceEventIds now r associations sources
  built : auditEventOf h successor (some current.status) r now = .ok event
  advanced : Advanced h s s' r current successor sources event

/-- The answer of a correlating transaction. -/
inductive CorrelateEffect (h : Host) (s s' : Spanner) (now : Instant) (r : Request) (i : Incident) :
    Correlated → Prop
  | joined {existing : Incident} {associations : List SourceEventAssociation}
      {sources : List SourceRow}
      (joining : Joining h s s' now r { i with createdAt := now, updatedAt := now } existing
        associations sources) : CorrelateEffect h s s' now r i ⟨existing, false, associations⟩
  | opened {associations : List SourceEventAssociation} {sources : List SourceRow}
      {event : IncidentAuditEvent}
      (registered : Registered h s i.incidentId i.sourceEventIds now r associations sources)
      (opening : Opening h s s' now r { i with createdAt := now, updatedAt := now } sources
        (candidateActiveKeys h i) event) :
      CorrelateEffect h s s' now r i ⟨{ i with createdAt := now, updatedAt := now }, true, associations⟩

/-- How a call makes a successor of a stored incident. -/
inductive Made (h : Host) (now : Instant) : Call → Updates → Incident → Incident → Prop
  | saved {i current successor : Incident} {expected : Int} {w : WriteMetadata}
      (accepted : saveSuccessor h current i expected now = .ok successor)
      (same : Memory.SameExceptTime successor i) :
      Made h now (.save i expected w) (Memory.differences current i) current successor
  | transitioned {incidentId : String} {target : IncidentStatus} {expected : Int}
      {w : WriteMetadata} {u : Updates} {current successor : Incident}
      (safe : RepositorySafe h successor.toJson) :
      Made h now (.transition incidentId target expected w u) u current successor

/-- What a successful call does. -/
inductive Effect (h : Host) (s : Spanner) (now : Instant) : Call → Spanner → Prop
  | unchanged (call : Call) : Effect h s now call s
  | opened {call : Call} {s' : Spanner} {r : Request} {i : Incident}
      {associations : List SourceEventAssociation} {sources : List SourceRow}
      {event : IncidentAuditEvent} (requested : Requested h call.metadata r)
      (asked : i.sourceEventIds.map (·.text) = call.sourceIds)
      (registered : Registered h s i.incidentId i.sourceEventIds now r associations sources)
      (opening : Opening h s s' now r i sources (candidateActiveKeys h i) event) :
      Effect h s now call s'
  | imported {i : Incident} {associations : List SourceEventAssociation} {w : WriteMetadata}
      {s' : Spanner} {r : Request} {event : IncidentAuditEvent}
      (requested : Requested h w r)
      (bound : ∀ a ∈ associations, a.incidentId = i.incidentId ∧ RepositorySafe h a.toJson)
      (opening : Opening h s s' now r i
        ((sortedAssociations associations).map fun a => ⟨sourceBinding a, a⟩)
        (migrationActiveKeys h i associations) event) :
      Effect h s now (.importDetectedSnapshot i associations w) s'
  | joined {call : Call} {s' : Spanner} {r : Request} {candidate existing : Incident}
      {associations : List SourceEventAssociation} {sources : List SourceRow}
      (requested : Requested h call.metadata r)
      (asked : candidate.sourceEventIds.map (·.text) = call.sourceIds)
      (joining : Joining h s s' now r candidate existing associations sources) :
      Effect h s now call s'
  | advanced {call : Call} {s' : Spanner} {r : Request} {target : IncidentStatus} {u : Updates}
      {current successor : Incident} {sources : List SourceRow} {event : IncidentAuditEvent}
      (requested : Requested h call.metadata r) (made : Made h now call u current successor)
      (advancing : Advancing h s s' now r target u current successor sources event) :
      Effect h s now call s'

theorem execute_ok {α : Type} {s : Spanner} {transaction : Except IncidentError (Buffered α)}
    {a : α} (done : (s.execute transaction).1 = .ok a) :
    ∃ mutations, transaction = .ok (a, mutations) ∧
      commit mutations s = .ok (s.execute transaction).2 := by
  unfold execute at done ⊢
  split at done
  · cases done
  · next a' mutations =>
    split at done
    · cases done
    · next s' committed =>
      cases done
      exact ⟨mutations, rfl, by simp [committed]⟩

theorem execute_error {α : Type} {s : Spanner} {transaction : Except IncidentError (Buffered α)}
    {e : IncidentError} (failed : (s.execute transaction).1 = .error e) :
    (s.execute transaction).2 = s := by
  unfold execute at failed ⊢
  split
  · rfl
  · next mutations =>
    dsimp only at failed
    cases committed : commit mutations s with
    | error e => rfl
    | ok s' =>
      rw [committed] at failed
      cases failed

theorem unlessReplayed_ok {h : Host} {s : Spanner} {r : Request}
    {work : Except IncidentError (Buffered Incident)} {i : Incident} {mutations : List Mutation}
    (done : s.unlessReplayed h r work = .ok (i, mutations)) :
    (mutations = [] ∧ s.replay h r.scope r.fingerprint = .ok (some i)) ∨
      (s.replay h r.scope r.fingerprint = .ok none ∧ work = .ok (i, mutations)) := by
  obtain ⟨found, looked, done⟩ := Checks.bind_ok.mp done
  split at done
  · cases done; exact .inl ⟨rfl, looked⟩
  · exact .inr ⟨looked, done⟩

theorem createRequest_ok {h : Host} {operation : String} {i : Incident} {w : WriteMetadata}
    {r : Request} (done : createRequest h operation i w = .ok r) :
    Requested h w r ∧ r = request ⟨strip operation, strip i.incidentId.text, strip w.idempotencyKey⟩
      (fingerprint h operation (("incident", i.toJson) :: w.fields)) w := by
  simp only [createRequest, Checks.bind_ok, pure, Except.pure, Except.ok.injEq] at done
  obtain ⟨_, passed, _, _, scope, scopeOk, rfl⟩ := done
  exact ⟨requested_of_scope passed scopeOk, by rw [requestScope_ok scopeOk]⟩

theorem createTx_ok {h : Host} {s s' : Spanner} {i committed : Incident} {traceId : String}
    {r : Request} {now : Instant} {mutations : List Mutation} (traced : r.metadata.traceId = traceId)
    (done : s.createTx h i traceId r now = .ok (committed, mutations))
    (commits : commit mutations s = .ok s') :
    committed = { i with createdAt := now, updatedAt := now } ∧ ∃ associations sources event,
      Registered h s i.incidentId i.sourceEventIds now r associations sources ∧
      Opening h s s' now r committed sources (candidateActiveKeys h committed) event := by
  simp only [createTx, Checks.bind_ok, requireAbsent_ok] at done
  obtain ⟨_, absent, candidate, validated, _, _, found, looked, done⟩ := done
  obtain ⟨rfl, trace, new⟩ := validateNewIncident_ok validated
  split at done
  · cases done
  · obtain ⟨⟨associations, _⟩, created, same⟩ := Checks.bind_ok.mp done
    cases same
    obtain ⟨sources, event, registered, built, opened⟩ := commitCreate_ok created commits
    exact ⟨rfl, associations, sources, event, registered, absent, new, traced.trans trace.symm,
      .registered registered, findActiveForKeys_ok looked, built, opened⟩

theorem correlateTx_ok {h : Host} {s s' : Spanner} {i : Incident} {traceId : String}
    {r : Request} {now : Instant} {result : Correlated} {mutations : List Mutation}
    (traced : r.metadata.traceId = traceId) (done : s.correlateTx h i traceId r now = .ok (result, mutations))
    (commits : commit mutations s = .ok s') :
    CorrelateEffect h s s' now r i result := by
  obtain ⟨candidate, validated, done⟩ := Checks.bind_ok.mp done
  obtain ⟨rfl, trace, new⟩ := validateNewIncident_ok validated
  obtain ⟨found, looked, done⟩ := Checks.bind_ok.mp done
  split at done
  · next existing =>
    simp only [Checks.bind_ok, Prod.exists, pure, Except.pure, Except.ok.injEq,
      Prod.mk.injEq] at done
    obtain ⟨associations, _, registration, _, _, acquisition, rfl, rfl⟩ := done
    obtain ⟨sources, rfl, registered⟩ := registerSourceEvents_ok registration
    obtain ⟨rows, rfl, acquired⟩ := acquireActiveKeys_ok acquisition
    simp only [commit_append, commit_cons, recordResult, Checks.bind_ok] at commits
    obtain ⟨_, ⟨_, ⟨_, first, done⟩, _, second, rest⟩, _, third, last⟩ := commits
    cases done
    cases rest
    cases last
    obtain ⟨_, added, unique, rfl⟩ := apply_insertSourceEvents first
    obtain ⟨_, activeKeys, rfl⟩ := apply_insertActiveKeys second
    obtain ⟨_, idempotency, rfl⟩ := apply_insertIdempotency third
    exact .joined ⟨new, traced.trans trace.symm, findActiveForKeys_ok looked, registered,
      ⟨rfl, ⟨added, unique⟩, ⟨rows, acquired, activeKeys⟩, rfl, idempotency⟩⟩
  · simp only [Checks.bind_ok, requireAbsent_ok, Prod.exists, pure, Except.pure, Except.ok.injEq,
      Prod.mk.injEq] at done
    obtain ⟨_, absent, associations, _, created, rfl, rfl⟩ := done
    obtain ⟨sources, event, registered, built, opened⟩ := commitCreate_ok created commits
    exact .opened registered ⟨absent, new, traced.trans trace.symm, .registered registered,
      findActiveForKeys_ok looked, built, opened⟩

structure ImportRequest (h : Host) (i : Incident) (associations : List SourceEventAssociation)
    (w : WriteMetadata) (r : Request) : Prop where
  requested : Requested h w r
  new : NewIncident h i
  trace : i.traceId.text = w.traceId
  bounded : associations.length ≤ maxIncidentSourceEvents
  unique : (associations.map (·.sourceEventId)).Nodup
  listed : ∀ id ∈ i.sourceEventIds, ∃ a ∈ associations, a.sourceEventId = id
  bound : ∀ a ∈ associations, a.incidentId = i.incidentId ∧ RepositorySafe h a.toJson

theorem requireAssociations_ok {h : Host} {size : Nat} {associations : List SourceEventAssociation}
    {u : Unit} (passed : requireAssociations h size associations = .ok u) :
    (∀ a ∈ associations, RepositorySafe h a.toJson) ∧
      size + (associations.map fun a => serializedBytes h a.toJson + 1).sum ≤
        max size maxRepositoryBatchBytes := by
  induction associations generalizing size with
  | nil => simp
  | cons a rest ih =>
    simp only [requireAssociations, Checks.bind_ok, requireSafe_ok, Checks.require_ok] at passed
    obtain ⟨_, safe, _, fits, later⟩ := passed
    obtain ⟨others, total⟩ := ih later
    refine ⟨fun b member => ?_, ?_⟩
    · rcases List.mem_cons.mp member with rfl | inside
      · exact safe
      · exact others b inside
    · simp only [List.map_cons, List.sum_cons]
      omega

theorem importRequest_ok {h : Host} {i : Incident} {associations : List SourceEventAssociation}
    {w : WriteMetadata} {r : Request} (done : importRequest h i associations w = .ok r) :
    ImportRequest h i associations w r := by
  simp only [importRequest, Checks.bind_ok, liftValidation_ok, requireValue_ok, requireSafe_ok,
    pure, Except.pure, Except.ok.injEq] at done
  obtain ⟨_, passed, _, valid, _, ⟨detected, revision⟩, _, trace, _, safe, _, bounded, _, policy, _,
    unique, _, complete, _, bound, scope, scopeOk, rfl⟩ := done
  refine ⟨requested_of_scope passed scopeOk, ⟨detected, revision, valid, safe⟩, trace, bounded,
    unique, fun id member => ?_, fun a member =>
      ⟨bound a member, (requireAssociations_ok policy).1 a member⟩⟩
  obtain ⟨a, inside, named⟩ := List.mem_map.mp (complete member)
  exact ⟨a, inside, named⟩

theorem importTx_ok {h : Host} {s s' : Spanner} {i : Incident}
    {associations : List SourceEventAssociation} {w : WriteMetadata} {r : Request} {now : Instant}
    {result : Incident × Bool} {mutations : List Mutation}
    (request : ImportRequest h i associations w r)
    (done : s.importTx h i associations r now = .ok (result, mutations))
    (commits : commit mutations s = .ok s') :
    result = (i, false) ∧ ∃ event, Opening h s s' now r i
      ((sortedAssociations associations).map fun a => ⟨sourceBinding a, a⟩)
      (migrationActiveKeys h i associations) event := by
  simp only [importTx, Checks.bind_ok, requireAbsent_ok] at done
  obtain ⟨_, absent, _, _, found, looked, done⟩ := done
  split at done
  · cases done
  · simp only [Checks.bind_ok, Prod.exists, pure, Except.pure, Except.ok.injEq,
      Prod.mk.injEq] at done
    obtain ⟨event, built, _, _, acquisition, rfl, rfl⟩ := done
    obtain ⟨rows, rfl, acquired⟩ := acquireActiveKeys_ok acquisition
    have trace : r.metadata.traceId = i.traceId.text := by
      rw [request.requested.metadata, request.trace]
    exact ⟨rfl, event, absent, request.new, trace, .imported request.listed request.bound,
      findActiveForKeys_ok looked, built, opened_of_commit acquired commits⟩

theorem saveTx_ok {h : Host} {s s' : Spanner} {i successor : Incident} {expected : Int}
    {w : WriteMetadata} {r : Request} {now : Instant} {mutations : List Mutation}
    (requested : Requested h w r)
    (done : s.saveTx h i expected w.traceId r now = .ok (successor, mutations))
    (commits : commit mutations s = .ok s') :
    ∃ current sources event, Made h now (.save i expected w) (Memory.differences current i) current
      successor ∧ Advancing h s s' now r i.status (Memory.differences current i) current successor
        sources event := by
  simp only [saveTx, requireTrace, Checks.bind_ok, requireCurrent_ok, Checks.require_ok,
    requireValue_ok, liftValidation_ok, requireSafe_ok, liftTransition_ok, Prod.exists, pure,
    Except.pure, Except.ok.injEq, Prod.mk.injEq] at done
  obtain ⟨current, got, _, _, _, trace, _, _, _, _, _, accepted, _, same, _, _, moved, rfl, rfl⟩ :=
    done
  obtain ⟨associations, sources, event, registered, built, advanced⟩ :=
    commitTransition_ok moved commits
  refine ⟨current, sources, event, .saved accepted same, ?_, ?_, ⟨_, accepted⟩,
    ⟨associations, registered⟩, built, advanced⟩
  · rw [(get_some.mp got).2.1]; exact got
  · rw [requested.trace]; exact trace.symm

theorem transitionTx_ok {h : Host} {s s' : Spanner} {incidentId : String}
    {target : IncidentStatus} {expected : Int} {w : WriteMetadata} {u : Updates} {r : Request}
    {now : Instant} {successor : Incident} {mutations : List Mutation}
    (requested : Requested h w r)
    (done : s.transitionTx h incidentId target expected w.traceId u r now =
      .ok (successor, mutations)) (commits : commit mutations s = .ok s') :
    ∃ current sources event, Made h now (.transition incidentId target expected w u) u current
      successor ∧ Advancing h s s' now r target u current successor sources event := by
  simp only [transitionTx, requireTrace, Checks.bind_ok, requireCurrent_ok, Checks.require_ok,
    requireValue_ok, requireSafe_ok, liftTransition_ok, Prod.exists, pure, Except.pure,
    Except.ok.injEq, Prod.mk.injEq] at done
  obtain ⟨current, got, _, _, _, trace, _, accepted, _, safe, _, _, moved, rfl, rfl⟩ := done
  obtain ⟨associations, sources, event, registered, built, advanced⟩ :=
    commitTransition_ok moved commits
  refine ⟨current, sources, event, .transitioned safe, ?_, ?_, ⟨_, accepted⟩,
    ⟨associations, registered⟩, built, advanced⟩
  · rw [(get_some.mp got).2.1]; exact got
  · rw [requested.trace]; exact trace.symm

theorem saveRequest_ok {h : Host} {i : Incident} {expected : Int} {w : WriteMetadata}
    {r : Request} (done : saveRequest h i expected w = .ok r) : Requested h w r := by
  simp only [saveRequest, Checks.bind_ok, pure, Except.pure, Except.ok.injEq] at done
  obtain ⟨_, passed, _, _, _, _, scope, scopeOk, rfl⟩ := done
  exact requested_of_scope passed scopeOk

theorem transitionRequest_ok {h : Host} {incidentId : String} {target : IncidentStatus}
    {expected : Int} {w : WriteMetadata} {u : Updates} {r : Request}
    (done : transitionRequest h incidentId target expected w u = .ok r) : Requested h w r := by
  simp only [transitionRequest, Checks.bind_ok, pure, Except.pure, Except.ok.injEq] at done
  obtain ⟨_, passed, _, _, _, _, _, _, scope, scopeOk, rfl⟩ := done
  exact requested_of_scope passed scopeOk

theorem execute_effect {α : Type} {h : Host} {s : Spanner} {now : Instant} {call : Call}
    {transaction : Except IncidentError (Buffered α)}
    (effect : ∀ a mutations, transaction = .ok (a, mutations) →
      ∀ s', commit mutations s = .ok s' → Effect h s now call s') :
    Effect h s now call (s.execute transaction).2 := by
  cases answer : (s.execute transaction).1 with
  | error e => rw [execute_error answer]; exact .unchanged call
  | ok a =>
    obtain ⟨mutations, done, commits⟩ := execute_ok answer
    exact effect a mutations done _ commits

theorem unchanged_of_nil {h : Host} {s s' : Spanner} {now : Instant} {call : Call}
    (commits : commit [] s = .ok s') : Effect h s now call s' := by
  cases commits
  exact .unchanged call

theorem step_effect (h : Host) (s : Spanner) (now : Instant) (call : Call) :
    Effect h s now call (s.step h now call).2 := by
  cases call with
  | create i w =>
    refine execute_effect fun committed mutations done s' commits => ?_
    obtain ⟨r, requested, done⟩ := Checks.bind_ok.mp done
    rcases unlessReplayed_ok done with ⟨rfl, _⟩ | ⟨_, done⟩
    · exact unchanged_of_nil commits
    · obtain ⟨rfl, associations, sources, event, registered, opening⟩ :=
        createTx_ok (createRequest_ok requested).1.trace done commits
      exact .opened (i := { i with createdAt := now, updatedAt := now })
        (createRequest_ok requested).1 rfl registered opening
  | createOrCorrelate i w =>
    refine execute_effect fun result mutations done s' commits => ?_
    obtain ⟨r, requested, done⟩ := Checks.bind_ok.mp done
    obtain ⟨⟨answer, _⟩, done, same⟩ := Checks.bind_ok.mp done
    cases same
    obtain ⟨found, looked, done⟩ := Checks.bind_ok.mp done
    cases found with
    | some i =>
      cases done
      exact unchanged_of_nil commits
    | none =>
      cases correlateTx_ok (createRequest_ok requested).1.trace done commits with
      | joined joining => exact .joined (createRequest_ok requested).1 (by rfl) joining
      | opened registered opening =>
        exact .opened (i := { i with createdAt := now, updatedAt := now })
          (createRequest_ok requested).1 rfl registered opening
  | importDetectedSnapshot i associations w =>
    change Effect h s now _ (s.importDetectedSnapshot h i associations w now).2
    refine execute_effect fun result mutations done s' commits => ?_
    obtain ⟨r, requested, done⟩ := Checks.bind_ok.mp done
    obtain ⟨found, looked, done⟩ := Checks.bind_ok.mp done
    have request := importRequest_ok requested
    cases found with
    | some i =>
      obtain ⟨_, same⟩ := Checks.seq_ok.mp done
      cases same
      exact unchanged_of_nil commits
    | none =>
      obtain ⟨_, event, opening⟩ := importTx_ok request done commits
      exact .imported request.requested request.bound opening
  | save i expected w =>
    refine execute_effect fun successor mutations done s' commits => ?_
    obtain ⟨r, requested, done⟩ := Checks.bind_ok.mp done
    rcases unlessReplayed_ok done with ⟨rfl, _⟩ | ⟨_, done⟩
    · exact unchanged_of_nil commits
    · obtain ⟨current, sources, event, made, advancing⟩ :=
        saveTx_ok (saveRequest_ok requested) done commits
      exact .advanced (saveRequest_ok requested) made advancing
  | transition incidentId target expected w u =>
    refine execute_effect fun successor mutations done s' commits => ?_
    obtain ⟨r, requested, done⟩ := Checks.bind_ok.mp done
    rcases unlessReplayed_ok done with ⟨rfl, _⟩ | ⟨_, done⟩
    · exact unchanged_of_nil commits
    · obtain ⟨current, sources, event, made, advancing⟩ :=
        transitionTx_ok (transitionRequest_ok requested) done commits
      exact .advanced (transitionRequest_ok requested) made advancing

end Spanner
end Cloud
end NetworkAgent
