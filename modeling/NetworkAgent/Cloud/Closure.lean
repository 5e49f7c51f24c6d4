import NetworkAgent.Memory.Saving
import NetworkAgent.Cloud.Inconsistencies

/-! Whether the rows that the Spanner repository writes can be read back by its own parsers. -/
namespace NetworkAgent.Cloud
open Memory (Request)

/-- The actor and the reason have no blanks around them. -/
def Plain (w : WriteMetadata) : Prop :=
  stripWhitespace w.actor = w.actor ∧ stripWhitespace w.reason = w.reason

instance (w : WriteMetadata) : Decidable (Plain w) := inferInstanceAs (Decidable (_ ∧ _))

namespace Spanner
variable {h : Host} {s s' : Spanner}

structure Readable (h : Host) (s : Spanner) : Prop where
  incidents : ∀ k row, s.incidents.lookup k = some row → ∃ i, row.parse h k = .ok i
  sources : ∀ row ∈ s.sourceEvents.values, ∃ a, row.parse h row.columns.incidentId = .ok a
  audit : ∀ k row, s.audit.lookup k = some row → ∃ e, row.parse h k.1 = .ok e
  idempotency : ∀ scope row, s.idempotency.lookup scope = some row →
    ∃ i, s.replay h scope row.fingerprint = .ok (some i)

def Listed (s : Spanner) : Prop :=
  ∀ k row, s.incidents.lookup k = some row → ∀ id ∈ row.payload.sourceEventIds,
    ∃ source ∈ s.sourceEvents.values, source.columns.sourceEventId = id.text

/-- What a call must meet for the rows it writes: a plain actor and reason when it associates a
source event of its own, and for a save a rebuilt incident within the payload policy. -/
structure WritesReadable (h : Host) (s : Spanner) (now : Instant) (call : Call) : Prop where
  plain : Plain call.metadata ∨
    ∀ id ∈ call.sourceIds, ∃ row ∈ s.sourceEvents.values, row.columns.sourceEventId = id
  saved : ∀ i expected w current, call = .save i expected w →
    s.get h i.incidentId.text = .ok (some current) →
    RepositorySafe h (Memory.rebuilt current i now).toJson

/-! The rows of one effect. -/

theorem replay_of_bound {scope : Scope} {fp : Sha256.Digest} {i : Incident}
    (stored : s.idempotency.lookup scope = some ⟨fp, i.incidentId.text, i⟩) (valid : i.Valid h)
    (safe : RepositorySafe h i.toJson) : s.replay h scope fp = .ok (some i) :=
  replay_some.mpr ⟨stored, valid, safe⟩

theorem trimmed_text {bound : Nat} (t : Text.Bounded isWhiteSpace bound) :
    stripWhitespace t.text = t.text := t.trimmed

theorem sourceRow_parses {w : WriteMetadata} {r : Request} {incidentId id trace : Identifier}
    {now : Instant} {a : Attribution} (requested : Requested h w r)
    (traced : r.metadata.traceId = trace.text) (plain : Plain w)
    (parsed : r.metadata.attribution = some a)
    (safe : RepositorySafe h (SourceEventAssociation.build incidentId id now a).toJson) :
    (sourceRow (.build incidentId id now a) r).parse h incidentId.text =
      .ok (.build incidentId id now a) := by
  refine sourceRow_parse_ok.mpr ⟨?_, rfl, safe⟩
  obtain ⟨key, actor, reason, trace'⟩ := WriteMetadata.attribution_eq_some.mp parsed
  have key := Text.Bounded.parse_eq_some.mp key
  have actor := Text.Bounded.parse_eq_some.mp actor
  have reason := Text.Bounded.parse_eq_some.mp reason
  have trace' := Text.Bounded.parse_eq_some.mp trace'
  simp only [sourceRow, SourceRow.mk.injEq, and_true]
  simp only [sourceBinding, SourceEventAssociation.build, SourceColumns.mk.injEq, true_and]
  refine ⟨?_, ?_, ?_, ?_⟩
  · rw [← actor, requested.metadata]; exact plain.1.symm
  · rw [← reason, requested.metadata]; exact plain.2.symm
  · rw [← key, requested.metadata]; exact (stripWhitespace_strip _).symm
  · rw [← trace', traced]; exact (trimmed_text trace).symm

theorem Registered.parses {w : WriteMetadata} {r : Request} {incidentId trace : Identifier}
    {ids : List Identifier} {now : Instant} {associations : List SourceEventAssociation}
    {rows : List SourceRow} (registered : Registered h s incidentId ids now r associations rows)
    (requested : Requested h w r) (traced : r.metadata.traceId = trace.text)
    (plain : Plain w ∨ ∀ id ∈ ids, ∃ row ∈ s.sourceEvents.values,
      row.columns.sourceEventId = id.text) {row : SourceRow} (member : row ∈ rows) :
    ∃ a, row.parse h row.columns.incidentId = .ok a := by
  obtain ⟨id, inside, a, parsed, rfl, safe⟩ := registered.built row member
  rcases plain with plain | known
  · exact ⟨_, sourceRow_parses requested traced plain parsed safe⟩
  · obtain ⟨old, stored, same⟩ := known id inside
    exact absurd same (registered.new _ member old stored)

theorem readable_added {rows : List SourceRow} (readable : Readable h s)
    (added : SourcesAdded s s' rows)
    (new : ∀ row ∈ rows, ∃ a, row.parse h row.columns.incidentId = .ok a) :
    ∀ row ∈ s'.sourceEvents.values, ∃ a, row.parse h row.columns.incidentId = .ok a := by
  intro row member
  rcases added.mem_values.mp member with fresh | old
  · exact new row fresh
  · exact readable.sources row old

theorem replay_added {scope : Scope} {fp : Sha256.Digest} {i : Incident}
    (readable : Readable h s)
    (added : s.idempotency.Added [(scope, ⟨fp, i.incidentId.text, i⟩)] s'.idempotency)
    (valid : i.Valid h) (safe : RepositorySafe h i.toJson) :
    ∀ scope row, s'.idempotency.lookup scope = some row →
      ∃ i, s'.replay h scope row.fingerprint = .ok (some i) := by
  intro scope' row stored
  rcases added.lookup.mp stored with new | old
  · cases List.mem_singleton.mp new
    exact ⟨i, replay_of_bound stored valid safe⟩
  · obtain ⟨j, replayed⟩ := readable.idempotency scope' row old
    obtain ⟨_, valid, safe⟩ := replay_some.mp replayed
    have row_eq := Option.some.inj (old.symm.trans (replay_some.mp replayed).1)
    exact ⟨j, replay_some.mpr ⟨by rw [stored, row_eq], valid, safe⟩⟩

theorem auditEvent_of_auditEventOf {i : Incident} {fromStatus : Option IncidentStatus} {r : Request}
    {now : Instant} {event : IncidentAuditEvent}
    (built : auditEventOf h i fromStatus r now = .ok event) :
    auditEvent h i fromStatus r.metadata r.fingerprint now = .ok event := by
  unfold auditEventOf at built
  split at built
  · cases built; assumption
  · cases built

theorem Requested.metadata_clean {w : WriteMetadata} {r : Request} (requested : Requested h w r) :
    r.metadata.Clean h := by
  rw [requested.metadata]
  exact ⟨labeledIdentifier_trim (isWord_of_isSpace h) requested.clean.idempotencyKey,
    requested.clean.actor, requested.clean.reason, requested.clean.traceId⟩

theorem audit_added {r : Request} {i : Incident} {fromStatus : Option IncidentStatus}
    {w : WriteMetadata} {now : Instant} {event : IncidentAuditEvent} (readable : Readable h s)
    (requested : Requested h w r) (safe : RepositorySafe h i.toJson)
    (built : auditEventOf h i fromStatus r now = .ok event) (booked : Booked s s' r i event) :
    ∀ k row, s'.audit.lookup k = some row → ∃ e, row.parse h k.1 = .ok e := by
  have built := auditEvent_of_auditEventOf built
  have records := Memory.eventOf_auditEvent built
  intro k row stored
  rcases booked.audit.lookup.mp stored with new | old
  · cases List.mem_singleton.mp new
    exact ⟨event, auditRow_parse_ok.mpr ⟨rfl, rfl, auditEvent_safe requested.metadata_clean
      (Incident.clean_of_safe safe).1 (records.revision ▸ booked.fits) built⟩⟩
  · exact readable.audit k row old

theorem opened_readable {w : WriteMetadata} {now : Instant} {r : Request} {i : Incident}
    {sources : List SourceRow} {keys : List ActiveKey} {event : IncidentAuditEvent}
    (readable : Readable h s) (requested : Requested h w r)
    (opening : Opening h s s' now r i sources keys event)
    (new : ∀ row ∈ sources, ∃ a, row.parse h row.columns.incidentId = .ok a) : Readable h s' where
  incidents := by
    intro k row stored
    rcases opening.opened.incidents.lookup.mp stored with fresh | old
    · cases List.mem_singleton.mp fresh
      exact ⟨i, incidentRow_parse_ok.mpr ⟨rfl, rfl, opening.new.valid, opening.new.safe⟩⟩
    · exact readable.incidents k row old
  sources := readable_added readable opening.opened.sources new
  audit := audit_added readable requested opening.new.safe opening.built opening.opened.booked
  idempotency := replay_added readable opening.opened.booked.idempotency opening.new.valid
    opening.new.safe

theorem saveSuccessor_eq {i current successor : Incident} {expected : Int} {now : Instant}
    (accepted : saveSuccessor h current i expected now = .ok successor) :
    successor = Memory.rebuilt current i now := by
  obtain ⟨_, _, _, _, t, timed, merged, done, rfl, _⟩ := transitionIncident_ok.mp accepted
  have time : now = t := by
    obtain ⟨_, _, same⟩ := Checks.bind_ok.mp timed
    exact Except.ok.inj same
  rw [Memory.merge_differences] at done
  rw [← Except.ok.inj done, ← time]
  rfl

theorem Made.sourceIds {now : Instant} {call : Call} {target : IncidentStatus} {u : Updates}
    {current successor : Incident} {expected : Int} (made : Made h now call u current successor)
    (accepted : transitionIncident h current target expected (.given now) (.given now) u =
      .ok successor) {id : Identifier} (member : id ∈ successor.sourceEventIds) :
    id ∈ current.sourceEventIds ∨ id.text ∈ call.sourceIds := by
  cases made with
  | saved _ same =>
    have ids := congrArg Incident.sourceEventIds same
    exact .inr (List.mem_map_of_mem (ids ▸ member))
  | transitioned =>
    obtain ⟨_, _, _, _, _, _, merged, done, rfl, _⟩ := transitionIncident_ok.mp accepted
    have resolved := merge_sourceEventIds done
    have member : id ∈ merged.sourceEventIds := member
    cases ids : u.sourceEventIds with
    | keep =>
      rw [ids] at resolved
      exact .inl ((Except.ok.inj resolved).symm ▸ member)
    | invalid => rw [ids] at resolved; cases resolved
    | set texts =>
      rw [ids] at resolved
      obtain ⟨text, inside, parsed⟩ := Checks.mapM_source resolved member
      split at parsed
      · next named =>
        cases parsed
        right
        simp only [Call.sourceIds, ids]
        exact List.mem_map.mpr ⟨text, inside, Text.Bounded.parse_eq_some.mp named⟩
      · cases parsed

theorem Effect.listed {now : Instant} {call : Call} (listed : Listed s)
    (effect : Effect h s now call s') : Listed s' := by
  have grown : ∀ {rows : List SourceRow}, SourcesAdded s s' rows → ∀ id,
      (∃ source ∈ s.sourceEvents.values, source.columns.sourceEventId = id) →
        ∃ source ∈ s'.sourceEvents.values, source.columns.sourceEventId = id :=
    fun added id ⟨source, member, same⟩ => ⟨source, added.mem_values.mpr (.inr member), same⟩
  have registered : ∀ {incidentId : Identifier} {ids : List Identifier} {r : Request}
      {associations : List SourceEventAssociation} {rows : List SourceRow},
      Registered h s incidentId ids now r associations rows → SourcesAdded s s' rows →
      ∀ id ∈ ids, ∃ source ∈ s'.sourceEvents.values, source.columns.sourceEventId = id.text := by
    intro incidentId ids r associations rows registered added id member
    obtain ⟨a, inside, rfl⟩ := registered.covered id member
    obtain ⟨_, _, ⟨row, new, rfl⟩ | old⟩ := registered.answered a inside
    · exact ⟨row, added.mem_values.mpr (.inl new), (registered.own new).2.2.symm⟩
    · exact ⟨_, added.mem_values.mpr (.inr old), rfl⟩
  have opened : ∀ {r : Request} {i : Incident} {sources : List SourceRow} {keys : List ActiveKey}
      {event : IncidentAuditEvent}, Opening h s s' now r i sources keys event → Listed s' := by
    intro r i sources keys event opening k row stored id member
    have added := opening.opened.sources
    rcases opening.opened.incidents.lookup.mp stored with fresh | old
    · cases List.mem_singleton.mp fresh
      cases opening.sourced with
      | registered known => exact registered known added id member
      | imported whole =>
        obtain ⟨a, inside, rfl⟩ := whole id member
        exact ⟨_, added.mem_values.mpr (.inl (List.mem_map_of_mem
          (mem_sortedAssociations.mpr inside))), rfl⟩
    · exact grown added id.text (listed k row old id member)
  cases effect with
  | unchanged => exact listed
  | opened _ _ _ opening => exact opened opening
  | imported _ _ opening => exact opened opening
  | joined _ _ joining =>
    intro k row stored id member
    rw [joining.joined.incidents] at stored
    exact grown joining.joined.sources id.text (listed k row stored id member)
  | advanced _ _ advancing =>
    intro k row stored id member
    have added := advancing.advanced.sources
    obtain ⟨associations, known⟩ := advancing.registered
    rw [advancing.advanced.incidents] at stored
    rcases Table.lookup_insert_iff.mp stored with ⟨_, rfl⟩ | ⟨_, old⟩
    · exact registered known added id member
    · exact grown added id.text (listed k row old id member)

theorem Effect.readable {now : Instant} {call : Call} (listed : Listed s)
    (readable : Readable h s) (writes : WritesReadable h s now call)
    (effect : Effect h s now call s') : Readable h s' := by
  -- The source events that are new come from the call.
  have plain : ∀ {ids : List Identifier}, (∀ id ∈ ids, id.text ∈ call.sourceIds ∨
      ∃ row ∈ s.sourceEvents.values, row.columns.sourceEventId = id.text) →
      Plain call.metadata ∨ ∀ id ∈ ids, ∃ row ∈ s.sourceEvents.values,
        row.columns.sourceEventId = id.text := by
    intro ids named
    rcases writes.plain with plain | known
    · exact .inl plain
    · exact .inr fun id member => (named id member).elim (known _) (fun stored => stored)
  have asked : ∀ {i : Incident}, i.sourceEventIds.map (·.text) = call.sourceIds →
      ∀ id ∈ i.sourceEventIds, id.text ∈ call.sourceIds := fun same id member =>
    same ▸ List.mem_map_of_mem member
  cases effect with
  | unchanged => exact readable
  | opened requested same registered opening =>
    exact opened_readable readable requested opening fun row member => registered.parses requested
      opening.trace (plain fun id inside => .inl (asked same id inside)) member
  | imported requested bound opening =>
    refine opened_readable readable requested opening fun row member => ?_
    obtain ⟨a, inside, rfl⟩ := List.mem_map.mp member
    exact ⟨a, sourceRow_parse_ok.mpr ⟨rfl, rfl, (bound a (mem_sortedAssociations.mp inside)).2⟩⟩
  | @joined _ _ _ _ existing _ _ requested same joining =>
    obtain ⟨_, _, valid, safe⟩ := get_some.mp joining.answers.stored
    refine ⟨fun k row stored => ?_, readable_added readable joining.joined.sources
      fun row member => joining.registered.parses requested joining.trace
        (plain fun id inside => .inl (asked same id inside)) member, ?_,
      replay_added readable joining.joined.idempotency valid safe⟩
    · rw [joining.joined.incidents] at stored
      exact readable.incidents k row stored
    · rw [joining.joined.audit]
      exact readable.audit
  | @advanced _ _ r target u current successor _ _ requested made advancing =>
    have tables := advancing.advanced
    have transition := identity_of_advancing advancing
    obtain ⟨expected, accepted⟩ := advancing.accepted
    obtain ⟨associations, registered⟩ := advancing.registered
    have here := (get_some.mp advancing.stored).1
    have safe : RepositorySafe h successor.toJson := by
      cases made with
      | transitioned safe => exact safe
      | @saved i _ _ expected w accepted same =>
        have made : successor = Memory.rebuilt current i now := saveSuccessor_eq accepted
        rw [made]
        refine writes.saved i expected w current rfl ?_
        have named : i.incidentId = successor.incidentId :=
          (congrArg Incident.incidentId same).symm
        rw [named, transition.identity.incidentId]
        exact advancing.stored
    have traced : r.metadata.traceId = successor.traceId.text := by
      rw [advancing.trace, transition.identity.traceId]
    refine ⟨fun k row stored => ?_, readable_added readable tables.sources fun row member =>
      registered.parses requested traced (plain fun id inside => ?_) member,
      audit_added readable requested safe advancing.built tables.booked,
      replay_added readable tables.booked.idempotency transition.valid safe⟩
    · rw [tables.incidents] at stored
      rcases Table.lookup_insert_iff.mp stored with ⟨rfl, rfl⟩ | ⟨_, old⟩
      · exact ⟨successor, incidentRow_parse_ok.mpr ⟨rfl, rfl, transition.valid, safe⟩⟩
      · exact readable.incidents k row old
    · rcases made.sourceIds accepted inside with old | new
      · exact .inr (listed _ _ here id old)
      · exact .inl new
/-! Runs of such calls. -/

def Written (h : Host) (s : Spanner) (call : Instant × Call) : Prop :=
  (∃ i, (s.step h call.1 call.2).1 = .ok i) → WritesReadable h s call.1 call.2

theorem next_of_error {call : Instant × Call} {e : IncidentError}
    (failed : (s.step h call.1 call.2).1 = .error e) : next h s call = s := by
  obtain ⟨now, call⟩ := call
  cases call with
  | create i w => exact execute_error failed
  | createOrCorrelate i w => exact execute_error failed
  | importDetectedSnapshot i associations w =>
    change Prod.fst <$> (s.importDetectedSnapshot h i associations w now).1 = .error e at failed
    cases answer : (s.importDetectedSnapshot h i associations w now).1 with
    | ok a => rw [answer] at failed; cases failed
    | error e => exact execute_error answer
  | save i expected w => exact execute_error failed
  | transition incidentId target expected w u => exact execute_error failed

theorem next_readable (s : Spanner) (call : Instant × Call) (known : Listed s ∧ Readable h s)
    (written : Written h s call) : Listed (next h s call) ∧ Readable h (next h s call) := by
  cases answer : (s.step h call.1 call.2).1 with
  | error e => rwa [next_of_error answer]
  | ok i =>
    have effect := step_effect h s call.1 call.2
    exact ⟨effect.listed known.1, effect.readable known.1 known.2 (written ⟨i, answer⟩)⟩

theorem run_readable (calls : List (Instant × Call))
    (written : Runs.Along (next h) (Written h) {} calls) : Readable h (run h {} calls) := by
  have start : Listed {} ∧ Readable h {} :=
    ⟨fun k row stored => (by cases stored), {
      incidents := fun k row stored => (by cases stored)
      sources := fun row member => (by cases member)
      audit := fun k row stored => (by cases stored)
      idempotency := fun scope row stored => (by cases stored) }⟩
  exact (Runs.along_invariant (next h) next_readable start calls written).2

/-! What can be read back. -/

theorem boundedPage_readable {R A : Type} {boundary : String} {parse : R → Except IncidentError A}
    {image : A → Json} {size : Nat} {rows : List R} (readable : ∀ r ∈ rows, ∃ a, parse r = .ok a) :
    (∃ page, boundedPage h boundary parse image size rows = .ok page) ∨
      boundedPage h boundary parse image size rows = .error (.batch boundary) := by
  induction rows generalizing size with
  | nil => exact .inl ⟨[], rfl⟩
  | cons r rest ih =>
    obtain ⟨a, parsed⟩ := readable r List.mem_cons_self
    have later := fun total => @ih total
      fun r member => readable r (List.mem_cons_of_mem _ member)
    simp only [boundedPage, parsed, Bind.bind, Except.bind, Checks.require]
    by_cases fits : size + serializedBytes h (image a) + 1 ≤ maxRepositoryBatchBytes
    · rw [if_pos fits]
      rcases later (size + serializedBytes h (image a) + 1) with ⟨page, read⟩ | failed
      · exact .inl ⟨a :: page, by rw [read]; rfl⟩
      · exact .inr (by rw [failed])
    · exact .inr (by rw [if_neg fits])

theorem Readable.source (readable : Readable h s) {incidentId : String} {row : SourceRow}
    (member : row ∈ s.sourceRows incidentId) : ∃ a, row.parse h incidentId = .ok a := by
  obtain ⟨inside, named⟩ := mem_sourceRows.mp member
  exact named ▸ readable.sources row inside

structure ReadsBack (h : Host) (s : Spanner) : Prop where
  get : ∀ incidentId, ∃ found, s.get h incidentId = .ok found
  history : ∀ incidentId t, requireNonEmpty "incident_id" incidentId 256 = .ok t →
    (∃ page, s.history h incidentId = .ok page) ∨
      s.history h incidentId = .error (.batch "incident-history")
  associations : ∀ incidentId t limit offset, requireNonEmpty "incident_id" incidentId 256 = .ok t →
    1 ≤ limit ∧ limit ≤ 1000 → offset ≤ 100000 →
    (∃ page, s.sourceEventAssociations h incidentId limit offset = .ok page) ∨
      s.sourceEventAssociations h incidentId limit offset =
        .error (.batch "source-event-associations")
  replay : ∀ scope fp, (∃ found, s.replay h scope fp = .ok found) ∨
    s.replay h scope fp = .error (.idempotencyConflict scope.idempotencyKey)

theorem readsBack_of_readable (readable : Readable h s) : ReadsBack h s where
  get incidentId := by
    unfold get
    cases stored : s.incidents.lookup incidentId with
    | none => exact ⟨none, rfl⟩
    | some row =>
      obtain ⟨i, parsed⟩ := readable.incidents incidentId row stored
      exact ⟨some i, by simp only [parsed]; rfl⟩
  history incidentId t named := by
    simp only [history, named, liftInput, Bind.bind, Except.bind]
    refine boundedPage_readable fun row member => ?_
    obtain ⟨inside, same⟩ := List.mem_filter.mp ((List.mem_insertionSort _).mp member)
    obtain ⟨k, stored⟩ := Table.mem_values.mp inside
    obtain ⟨e, parsed⟩ := readable.audit k row stored
    obtain ⟨rfl, bound, _⟩ := auditRow_parse_ok.mp parsed
    have key : k.1 = incidentId := bound.symm.trans (of_decide_eq_true same)
    exact ⟨e, key ▸ parsed⟩
  associations incidentId t limit offset named sized near := by
    simp only [sourceEventAssociations, named, liftInput, requireValue, Checks.require, sized, near,
      and_self, if_true, Bind.bind, Except.bind]
    exact boundedPage_readable fun row member =>
      readable.source (List.mem_of_mem_drop (List.mem_of_mem_take member))
  replay scope fp := by
    cases stored : s.idempotency.lookup scope with
    | none => exact .inl ⟨none, by simp only [replay, stored]⟩
    | some row =>
      by_cases same : row.fingerprint = fp
      · obtain ⟨i, replayed⟩ := readable.idempotency scope row stored
        exact .inl ⟨some i, same ▸ replayed⟩
      · exact .inr (by simp [replay, stored, Checks.require, same, Bind.bind, Except.bind])

/-- The texts of a row that does not match its payload. -/
def mismatchTexts : List String :=
  ["persisted Incident binding mismatch", "persisted source association binding mismatch",
    "persisted audit binding mismatch", "persisted idempotency result mismatch"]

theorem mismatch_ne {text reported : String} (mismatch : text ∈ mismatchTexts)
    (other : reported ∉ mismatchTexts) : reported ≠ text := fun same => other (same ▸ mismatch)

set_option maxRecDepth 8000 in
theorem quiet_of_readable (readable : Readable h s) {text : String}
    (mismatch : text ∈ mismatchTexts) : Quiet h s text := by
  have got : ∀ incidentId, Unreported text (s.get h incidentId) := fun incidentId => by
    obtain ⟨found, read⟩ := (readsBack_of_readable readable).get incidentId
    exact read ▸ Checks.avoids_ok found
  have keys : ∀ keys accept, (∀ row, Unreported text (accept row)) → ∀ seen rows,
      Unreported text (checkKeyRows keys accept seen rows) := by
    intro keys accept accepts seen rows
    induction rows generalizing seen with
    | nil => exact Checks.avoids_ok ()
    | cons r rest ih =>
      exact Checks.avoids_bind (requireConsistent_avoids
          (mismatch_ne mismatch (by decide))) fun _ _ =>
        Checks.avoids_bind (requireConsistent_avoids
            (mismatch_ne mismatch (by decide))) fun _ _ =>
          Checks.avoids_bind (accepts r.2) fun _ _ => ih (r.1 :: seen)
  refine ⟨got, fun scope fp => ?_, fun boundary incidentId => ?_, fun incidentId row stored => ?_,
    fun ks accept accepts => keys ks accept accepts [] _, fun ks requestedId => ?_,
    fun reported own => mismatch_ne mismatch ?_⟩
  · rcases (readsBack_of_readable readable).replay scope fp with ⟨found, read⟩ | failed
    · exact read ▸ Checks.avoids_ok found
    · exact failed ▸ Checks.avoids_error (by simp)
  · refine boundedPage_avoids fun row member => ?_
    obtain ⟨a, parsed⟩ := readable.source (List.mem_of_mem_take member)
    exact parsed ▸ Checks.avoids_ok a
  · obtain ⟨e, parsed⟩ := readable.audit _ row stored
    exact parsed ▸ Checks.avoids_ok e
  · refine Checks.avoids_bind (keys ks _ (fun _ => Checks.avoids_ok ()) [] _) fun _ _ => ?_
    split
    · exact Checks.avoids_ok _
    · refine Checks.avoids_bind (got _) fun found _ => ?_
      cases found with
      | none =>
        exact Checks.avoids_error fun same => mismatch_ne mismatch
          (by decide) (IncidentError.inconsistent.inj same)
      | some i =>
        exact Checks.avoids_bind (requireConsistent_avoids
          (mismatch_ne mismatch (by decide))) fun _ _ => Checks.avoids_ok _
    · exact Checks.avoids_error (by simp)
  · have every : ∀ t ∈ ownTexts, t ∉ mismatchTexts := by decide
    exact every reported own

/-- While every successful call meets the condition, every row can be read back, and no call
fails because a row does not match its payload. -/
theorem writes_read_back (h : Host) (calls : List (Instant × Call))
    (written : Runs.Along (next h) (Written h) {} calls) :
    Readable h (run h {} calls) ∧ ReadsBack h (run h {} calls) ∧
      ∀ now call, ∀ text ∈ mismatchTexts,
        ((run h {} calls).step h now call).1 ≠ .error (.inconsistent text) :=
  have readable := run_readable calls written
  ⟨readable, readsBack_of_readable readable, fun now call _ mismatch =>
    step_avoids (quiet_of_readable readable mismatch) now call⟩

/-! A source event registered by an actor with a blank before the name. -/
namespace Registered

def incident : Incident where
  incidentId := .ofText "incident" fits_incident
  sourceEventIds := [.ofText "event" fits_event]
  detectedAt := 0
  traceId := .ofText "trace" fits_trace
  createdAt := 0
  updatedAt := 0

def calls (actor : String) : List (Instant × Call) :=
  [(0, .create incident ⟨"key", actor, "reason", "trace"⟩)]

/-- What the two creations answer, and what is trimmed. -/
class Computed : Prop where
  unreadable : (run Host.ascii {} (calls " actor")).sourceEventAssociations Host.ascii
    "incident" 100 0 = .error (.inconsistent "persisted source association binding mismatch")
  accepted : ((Spanner.step Host.ascii {} 0 (.create incident
    ⟨"key", " actor", "reason", "trace"⟩)).1.toOption).isSome = true
  actor : stripWhitespace "actor" = "actor"
  reason : stripWhitespace "reason" = "reason"

set_option maxRecDepth 8000 in
instance computed : Computed := by
  have both : (run Host.ascii {} (calls " actor")).sourceEventAssociations Host.ascii "incident" 100
      0 = .error (.inconsistent "persisted source association binding mismatch") ∧
    ((Spanner.step Host.ascii {} 0 (.create incident
      ⟨"key", " actor", "reason", "trace"⟩)).1.toOption).isSome = true := by decide +kernel
  exact ⟨both.1, both.2, by decide, by decide⟩

theorem accepted : ∃ i, (Spanner.step Host.ascii {} 0 (.create incident
    ⟨"key", " actor", "reason", "trace"⟩)).1 = .ok i := by
  have named := computed.accepted
  revert named
  cases (Spanner.step Host.ascii {} 0 (.create incident ⟨"key", " actor", "reason", "trace"⟩)).1 with
  | ok i => exact fun _ => ⟨i, rfl⟩
  | error e => exact nofun

theorem written {actor : String} (plain : stripWhitespace actor = actor) :
    Runs.Along (next Host.ascii) (Written Host.ascii) {} (calls actor) := by
  refine ⟨fun _ => ⟨.inl ⟨plain, computed.reason⟩, ?_⟩, trivial⟩
  intro i expected w current same
  cases same

end Registered

theorem writes_read_back_plain : Readable Host.ascii (run Host.ascii {} (Registered.calls "actor")) :=
  (writes_read_back Host.ascii (Registered.calls "actor")
    (Registered.written Registered.computed.actor)).1

theorem padded_actor_not_read_back : ¬ ∀ (h : Host) (calls : List (Instant × Call)),
    Runs.Along (next h) (fun s call => ∃ i, (s.step h call.1 call.2).1 = .ok i) {} calls →
    ∀ incidentId, (run h {} calls).sourceEventAssociations h incidentId 100 0 ≠
      .error (.inconsistent "persisted source association binding mismatch") := fun claimed =>
  claimed Host.ascii (Registered.calls " actor") ⟨Registered.accepted, trivial⟩ "incident"
    Registered.computed.unreadable

end Spanner
end NetworkAgent.Cloud
