import NetworkAgent.Memory.Ownership

/-! Replays of an import. What an import leaves behind stays through every later call, so a
second import is answered from the record; the only check that can fail is the comparison of
the stored audit event, which keeps trimmed texts, with the texts of the call. -/
namespace NetworkAgent.Memory

/-! What a registration leaves alone. -/

theorem addAssociations_frame {h : Host} {incidentId : Identifier} {t : Instant} {w : WriteMetadata}
    (sources : List Identifier) (m : Memory) :
    (addAssociations h incidentId t w sources m).2.incidents = m.incidents ∧
      (addAssociations h incidentId t w sources m).2.idempotency = m.idempotency ∧
      (addAssociations h incidentId t w sources m).2.history = m.history ∧
      ∀ k a, m.sourceEvents.lookup k = some a →
        (addAssociations h incidentId t w sources m).2.sourceEvents.lookup k = some a := by
  induction sources generalizing m with
  | nil => exact ⟨rfl, rfl, rfl, fun _ _ known => known⟩
  | cons s rest ih =>
    unfold addAssociations
    split
    · exact ih m
    · next absent =>
      cases w.attribution with
      | none => exact ⟨rfl, rfl, rfl, fun _ _ known => known⟩
      | some attribution =>
        dsimp only
        split
        · exact ⟨rfl, rfl, rfl, fun _ _ known => known⟩
        · obtain ⟨incidents, idempotency, history, links⟩ :=
            ih (m.associate (SourceEventAssociation.build incidentId s t attribution))
          refine ⟨incidents, idempotency, history, fun k a known => links k a ?_⟩
          have other : k ≠ (incidentId.text, s.text) := by
            rintro rfl
            exact absent (mem_iff_lookup.mpr ⟨a, known⟩)
          simpa [associate, SourceEventAssociation.build, AList.lookup_insert_ne other] using known

theorem registerSourceEvents_frame (h : Host) (m : Memory) (incidentId : Identifier)
    (sources : List Identifier) (t : Instant) (w : WriteMetadata) :
    (m.registerSourceEvents h incidentId sources t w).2.incidents = m.incidents ∧
      (m.registerSourceEvents h incidentId sources t w).2.idempotency = m.idempotency ∧
      (m.registerSourceEvents h incidentId sources t w).2.history = m.history ∧
      ∀ k a, m.sourceEvents.lookup k = some a →
        (m.registerSourceEvents h incidentId sources t w).2.sourceEvents.lookup k = some a := by
  unfold registerSourceEvents
  split
  · exact ⟨rfl, rfl, rfl, fun _ _ known => known⟩
  · exact addAssociations_frame _ m

/-! What a call leaves alone. -/

structure Keeps (m m' : Memory) : Prop where
  records : ∀ scope record, m.idempotency.lookup scope = some record →
    m'.idempotency.lookup scope = some record
  links : ∀ k a, m.sourceEvents.lookup k = some a → m'.sourceEvents.lookup k = some a

theorem Keeps.refl (m : Memory) : m.Keeps m := ⟨fun _ _ known => known, fun _ _ known => known⟩

theorem Keeps.trans {a b c : Memory} (h : a.Keeps b) (k : b.Keeps c) : a.Keeps c :=
  ⟨fun scope record known => k.records _ _ (h.records scope record known),
    fun key a known => k.links _ _ (h.links key a known)⟩

theorem keeps_registered {h : Host} {m m₁ : Memory} {r : Request} {incidentId : Identifier}
    {sources : List Identifier} {t : Instant} {w : WriteMetadata} {x : Except RepositoryError Unit}
    (absent : m.idempotency.lookup r.scope = none)
    (registered : m.registerSourceEvents h incidentId sources t w = (x, m₁))
    (record : IdempotencyRecord) {m' : Memory}
    (idempotency : m'.idempotency = m₁.idempotency ∨
      m'.idempotency = m₁.idempotency.insert r.scope record)
    (links : m'.sourceEvents = m₁.sourceEvents) : m.Keeps m' := by
  obtain ⟨_, same, _, kept⟩ := registerSourceEvents_frame h m incidentId sources t w
  rw [registered] at same kept
  refine ⟨fun scope old known => ?_, fun k a known => links ▸ kept k a known⟩
  rcases idempotency with unchanged | inserted
  · rw [unchanged, same]; exact known
  · have other : scope ≠ r.scope := by
      rintro rfl
      rw [absent] at known
      cases known
    rw [inserted, AList.lookup_insert_ne other, same]
    exact known

theorem commitCreate_keeps {h : Host} {m : Memory} {r : Request} {i : Incident} {now : Instant}
    (absent : m.idempotency.lookup r.scope = none) : m.Keeps (m.commitCreate h r i now).2 := by
  unfold commitCreate
  split
  · exact .refl m
  · split
    · next registered => exact keeps_registered absent registered ⟨r.fingerprint, i⟩ (.inl rfl) rfl
    · next registered => exact keeps_registered absent registered ⟨r.fingerprint, i⟩ (.inr rfl) rfl

theorem commitTransition_keeps {h : Host} {m : Memory} {r : Request} {current successor : Incident}
    {now : Instant} (absent : m.idempotency.lookup r.scope = none) :
    m.Keeps (m.commitTransition h r current successor now).2 := by
  unfold commitTransition
  split
  · exact .refl m
  · split
    · next registered =>
      exact keeps_registered absent registered ⟨r.fingerprint, successor⟩ (.inl rfl) rfl
    · next registered =>
      exact keeps_registered absent registered ⟨r.fingerprint, successor⟩ (.inr rfl) rfl

theorem commitCorrelation_keeps {h : Host} {m : Memory} {r : Request} {existing : Incident}
    {sources : List Identifier} {now : Instant} (absent : m.idempotency.lookup r.scope = none) :
    m.Keeps (m.commitCorrelation h r existing sources now).2 := by
  unfold commitCorrelation
  split
  · next registered =>
    exact keeps_registered absent registered ⟨r.fingerprint, existing⟩ (.inl rfl) rfl
  · next registered =>
    exact keeps_registered absent registered ⟨r.fingerprint, existing⟩ (.inr rfl) rfl

theorem settle_keeps {α : Type} {m : Memory} {decision : Except RepositoryError (Decision α)}
    {commit : Request → α → Except RepositoryError Incident × Memory}
    (written : ∀ r work, decision = .ok (.proceed r work) → m.Keeps (commit r work).2) :
    m.Keeps (m.settle decision commit).2 := by
  unfold settle
  match decision, written with
  | .error e, _ => exact .refl m
  | .ok (.replayed result), _ => exact .refl m
  | .ok (.proceed r work), written => exact written r work rfl

theorem unused_of_proceed {α : Type} {m : Memory} {request : Except RepositoryError Request}
    {work : Request → Except RepositoryError α} {r : Request} {a : α}
    (decided : (request >>= fun r => m.unlessReplayed r (work r)) = .ok (.proceed r a)) :
    m.idempotency.lookup r.scope = none := by
  obtain ⟨_, _, found⟩ := Checks.bind_ok.mp decided
  rcases unlessReplayed_ok.mp found with ⟨_, _, _, same⟩ | ⟨absent, _, _, same⟩
  · cases same
  · cases same; exact absent

/-! The import. -/

theorem decideImport_proceed {h : Host} {m : Memory} {i : Incident}
    {associations : List SourceEventAssociation} {w : WriteMetadata} {now : Instant} {r : Request}
    {event : IncidentAuditEvent}
    (decided : m.decideImport h i associations w now = .ok (.proceed r event)) :
    importRequest h i associations w = .ok r ∧ m.idempotency.lookup r.scope = none ∧
      i.incidentId.text ∉ m.incidents ∧ auditEvent h i none w r.fingerprint now = .ok event := by
  obtain ⟨r', requested, decided⟩ := Checks.bind_ok.mp decided
  obtain ⟨d, found, decided⟩ := Checks.bind_ok.mp decided
  rcases unlessReplayed_ok.mp found with ⟨_, _, _, rfl⟩ | ⟨absent, _, work, rfl⟩
  · obtain ⟨_, _, decided⟩ := Checks.bind_ok.mp decided
    cases decided
  · cases decided
    simp only [requireImportable, Checks.bind_ok, Checks.require_ok] at work
    obtain ⟨_, ⟨_, fresh, _⟩, built⟩ := work
    exact ⟨requested, absent, fresh, built⟩

theorem decideImport_replayed {h : Host} {m : Memory} {i s : Incident}
    {associations : List SourceEventAssociation} {w : WriteMetadata} {now : Instant} :
    m.decideImport h i associations w now = .ok (.replayed s) ↔
      ∃ r record, importRequest h i associations w = .ok r ∧
        m.idempotency.lookup r.scope = some record ∧ record.fingerprint = r.fingerprint ∧
        record.result = s ∧ m.requireReplayedImport i associations w s = .ok () := by
  unfold decideImport
  rw [Checks.bind_ok]
  constructor
  · rintro ⟨r, requested, decided⟩
    obtain ⟨d, found, decided⟩ := Checks.bind_ok.mp decided
    rcases unlessReplayed_ok.mp found with ⟨record, stored, fp, rfl⟩ | ⟨_, _, _, rfl⟩
    · obtain ⟨_, passed, decided⟩ := Checks.bind_ok.mp decided
      cases decided
      exact ⟨r, record, requested, stored, fp, rfl, passed⟩
    · cases decided
  · rintro ⟨r, record, requested, stored, fp, rfl, passed⟩
    exact ⟨r, requested, Checks.bind_ok.mpr ⟨_, unlessReplayed_ok.mpr
      (.inl ⟨record, stored, fp, rfl⟩), Checks.bind_ok.mpr ⟨(), passed, rfl⟩⟩⟩

theorem lookup_putAssociations_ne {associations : List SourceEventAssociation}
    {t : Table (String × String) SourceEventAssociation} {k : String × String}
    (other : ∀ a ∈ associations, k ≠ (a.incidentId.text, a.sourceEventId.text)) :
    (putAssociations associations t).lookup k = t.lookup k := by
  unfold putAssociations
  induction associations generalizing t with
  | nil => rfl
  | cons a rest ih =>
    rw [List.foldl_cons, ih fun b member => other b (List.mem_cons_of_mem _ member),
      AList.lookup_insert_ne (other a List.mem_cons_self)]

theorem lookup_putAssociations {associations : List SourceEventAssociation}
    {t : Table (String × String) SourceEventAssociation}
    (distinct : (associations.map (·.sourceEventId)).Nodup) {a : SourceEventAssociation}
    (member : a ∈ associations) :
    (putAssociations associations t).lookup (a.incidentId.text, a.sourceEventId.text) = some a := by
  induction associations generalizing t with
  | nil => cases member
  | cons b rest ih =>
    obtain ⟨apart, distinct⟩ := List.nodup_cons.mp distinct
    rcases List.mem_cons.mp member with rfl | later
    · have others : ∀ b ∈ rest, (a.incidentId.text, a.sourceEventId.text) ≠
          (b.incidentId.text, b.sourceEventId.text) := by
        intro b known same
        exact apart (List.mem_map.mpr ⟨b, known, (Text.Bounded.ext (Prod.mk.inj same).2).symm⟩)
      exact (lookup_putAssociations_ne others).trans (AList.lookup_insert _)
    · exact ih distinct later

theorem importDetectedSnapshot_keeps {h : Host} {m : Memory} (owned : m.Owned) (i : Incident)
    (associations : List SourceEventAssociation) (w : WriteMetadata) (now : Instant) :
    m.Keeps (m.importDetectedSnapshot h i associations w now).2 := by
  refine settle_keeps fun r event decided => ?_
  obtain ⟨requested, absent, fresh, _⟩ := decideImport_proceed decided
  have bound := (importRequest_ok requested).bound
  refine ⟨fun scope record known => ?_, fun k a known => ?_⟩
  · have other : scope ≠ r.scope := by
      rintro rfl
      rw [absent] at known
      cases known
    simpa [writeIncident, AList.lookup_insert_ne other] using known
  · refine (lookup_putAssociations_ne fun b member same => ?_).trans known
    have stored := owned.known k (mem_iff_lookup.mpr ⟨a, known⟩)
    rw [same, bound b member] at stored
    exact fresh stored

theorem step_keeps {h : Host} {m : Memory} (owned : m.Owned) (now : Instant) (call : Call) :
    m.Keeps (m.step h now call).2 := by
  cases call with
  | create i w =>
    exact settle_keeps fun r committed decided => commitCreate_keeps (unused_of_proceed decided)
  | createOrCorrelate i w =>
    refine settle_keeps fun r work decided => ?_
    have absent := unused_of_proceed decided
    match work with
    | (some existing, candidate) => exact commitCorrelation_keeps absent
    | (none, candidate) => exact commitCreate_keeps absent
  | importDetectedSnapshot i associations w =>
    exact importDetectedSnapshot_keeps owned i associations w now
  | save i expected w =>
    exact settle_keeps fun r work decided => commitTransition_keeps (unused_of_proceed decided)
  | transition incidentId target expected w u =>
    exact settle_keeps fun r work decided => commitTransition_keeps (unused_of_proceed decided)

theorem Effect.keeps_history {h : Host} {m m' : Memory} {result : Except RepositoryError Incident}
    (effect : Effect h m result m') {k : String} (stored : k ∈ m.incidents)
    {events : List IncidentAuditEvent} (known : m.history.lookup k = some events) :
    ∃ more, m'.history.lookup k = some (events ++ more) := by
  cases effect with
  | failed | replayed | correlated => exact ⟨[], by simpa using known⟩
  | @opened new _ _ _ _ opening =>
    have other : k ≠ new.incidentId.text := by
      rintro rfl
      exact opening.fresh stored
    exact ⟨[], by simpa [writeIncident, AList.lookup_insert_ne other] using known⟩
  | @advanced _ _ successor _ _ _ event =>
    by_cases same : k = successor.incidentId.text
    · subst same
      exact ⟨[event], by simp [writeIncident, known]⟩
    · exact ⟨[], by simpa [writeIncident, AList.lookup_insert_ne same] using known⟩

/-! Replays. -/

structure Records (w : WriteMetadata) (e : IncidentAuditEvent) : Prop where
  idempotencyKey : e.idempotencyKey.text = stripWhitespace w.idempotencyKey
  actor : e.actor.text = stripWhitespace w.actor
  reason : e.reason.text = stripWhitespace w.reason
  traceId : e.traceId.text = stripWhitespace w.traceId

theorem records_of_auditEvent {h : Host} {i : Incident} {fromStatus : Option IncidentStatus}
    {w : WriteMetadata} {fp : Sha256.Digest} {t : Instant} {e : IncidentAuditEvent}
    (built : auditEvent h i fromStatus w fp t = .ok e) : Records w e := by
  unfold auditEvent at built
  generalize h.sha256 _ = eventDigest at built
  extract_lets eventId at built
  split at built
  · next a _ parsed =>
    cases built
    obtain ⟨key, actor, reason, trace⟩ := WriteMetadata.attribution_eq_some.mp parsed
    exact ⟨(Text.Bounded.parse_eq_some.mp key).symm, (Text.Bounded.parse_eq_some.mp actor).symm,
      (Text.Bounded.parse_eq_some.mp reason).symm, (Text.Bounded.parse_eq_some.mp trace).symm⟩
  · cases built

/-- No text that the audit event keeps has blanks around it. -/
def Trimmed (w : WriteMetadata) : Prop :=
  stripWhitespace w.idempotencyKey = w.idempotencyKey ∧ stripWhitespace w.actor = w.actor ∧
    stripWhitespace w.reason = w.reason

/-- What an accepted import leaves in the repository, and every later call keeps. -/
structure Imported (h : Host) (m : Memory) (i : Incident)
    (associations : List SourceEventAssociation) (w : WriteMetadata) (r : Request) (s : Incident) :
    Prop where
  record : ∃ record, m.idempotency.lookup r.scope = some record ∧
    record.fingerprint = r.fingerprint ∧ record.result = s
  current : ∃ current, m.incidents.lookup i.incidentId.text = some current ∧
    current.correlationKey = i.correlationKey
  links : ∀ a ∈ associations,
    m.sourceEvents.lookup (a.incidentId.text, a.sourceEventId.text) = some a
  audit : ∃ events e, m.history.lookup i.incidentId.text = some events ∧
    (events.find? fun e => e.revision = 0) = some e ∧ e.fromStatus = none ∧
    e.toStatus = .detected ∧ Records w e

theorem Imported.next {h : Host} {m : Memory} {i s : Incident}
    {associations : List SourceEventAssociation} {w : WriteMetadata} {r : Request}
    (keyed : m.Keyed h) (owned : m.Owned) (imported : Imported h m i associations w r s)
    (call : Instant × Call) : Imported h (m.next h call) i associations w r s := by
  have keeps := step_keeps (h := h) owned call.1 call.2
  have effect := step_effect keyed.allSafe call.1 call.2
  obtain ⟨current, stored, key⟩ := imported.current
  constructor
  · obtain ⟨record, known, fp, result⟩ := imported.record
    exact ⟨record, keeps.records _ _ known, fp, result⟩
  · obtain ⟨later, known, advances⟩ := effect.advances keyed stored
    exact ⟨later, known, advances.evolved.identity.correlationKey.trans key⟩
  · exact fun a member => keeps.links _ _ (imported.links a member)
  · obtain ⟨events, e, known, first, opened⟩ := imported.audit
    obtain ⟨more, extended⟩ := effect.keeps_history (mem_iff_lookup.mpr ⟨current, stored⟩) known
    refine ⟨events ++ more, e, extended, ?_, opened⟩
    rw [List.find?_append, first, Option.some_or]

/-- Between calls from the empty repository. -/
structure Reachable (h : Host) (m : Memory) : Prop where
  keyed : m.Keyed h
  owned : m.Owned
  recorded : m.Recorded

theorem Reachable.next {h : Host} {m : Memory} (reachable : Reachable h m) (call : Instant × Call) :
    Reachable h (m.next h call) :=
  have effect := step_effect reachable.keyed.allSafe call.1 call.2
  ⟨next_keyed m call reachable.keyed, effect.owned reachable.keyed reachable.owned,
    effect.recorded reachable.keyed reachable.recorded⟩

theorem run_reachable (h : Host) (calls : List (Instant × Call)) : Reachable h (run h {} calls) :=
  Runs.run_invariant (next h) (fun _ call inv => inv.next call)
    ⟨keyed_empty h, owned_empty, recorded_empty⟩ calls

theorem run_imported {h : Host} {m : Memory} {i s : Incident}
    {associations : List SourceEventAssociation} {w : WriteMetadata} {r : Request}
    (reachable : Reachable h m) (imported : Imported h m i associations w r s)
    (calls : List (Instant × Call)) :
    Reachable h (run h m calls) ∧ Imported h (run h m calls) i associations w r s :=
  Runs.run_invariant (next h)
    (P := fun m => Reachable h m ∧ Imported h m i associations w r s)
    (fun _ call inv => ⟨inv.1.next call, inv.2.next inv.1.keyed inv.1.owned call⟩)
    ⟨reachable, imported⟩ calls

theorem findActive_of_imported {h : Host} {m : Memory} {i s current : Incident}
    {associations : List SourceEventAssociation} {w : WriteMetadata} {r : Request}
    (reachable : Reachable h m) (imported : Imported h m i associations w r s)
    (stored : m.incidents.lookup i.incidentId.text = some current)
    (active : current.status.isActive = true) (bound : ∀ a ∈ associations, a.incidentId = i.incidentId)
    (keys : i.correlationKey.isSome ∨ associations ≠ []) :
    m.findActiveLocked (i.correlationKey.map (·.text)) (associations.map (·.sourceEventId.text))
      none i.incidentId.text = .ok (some current) := by
  obtain ⟨keyed, owned, _⟩ := reachable
  have own : current.incidentId.text = i.incidentId.text := keyed.key stored
  have key : current.correlationKey = i.correlationKey := by
    obtain ⟨current', stored', key⟩ := imported.current
    cases stored.symm.trans stored'
    exact key
  have matched : current ∈ m.activeMatches (i.correlationKey.map (·.text))
      (associations.map (·.sourceEventId.text)) none := by
    refine mem_activeMatches.mpr ⟨Table.mem_values.mpr ⟨_, stored⟩, by simp, active, ?_⟩
    rcases keys with some | linked
    · rw [← key] at some ⊢
      exact answers_of_key some rfl
    · obtain ⟨a, member⟩ := List.exists_mem_of_ne_nil _ linked
      refine .inr ⟨_, List.mem_map_of_mem member, mem_associatedSourceIds.mpr ?_⟩
      rw [own, ← bound a member]
      exact mem_iff_lookup.mpr ⟨a, imported.links a member⟩
  have only : ∀ j ∈ m.activeMatches (i.correlationKey.map (·.text))
      (associations.map (·.sourceEventId.text)) none, j.incidentId = current.incidentId := by
    intro j member
    obtain ⟨known, _, active', answers⟩ := mem_activeMatches.mp member
    rcases answers with ⟨k, wanted, has⟩ | ⟨source, listed, linked⟩
    · obtain ⟨ik, found, rfl⟩ := Option.map_eq_some_iff.mp (Option.mem_def.mp wanted)
      obtain ⟨jk, found', text⟩ := Option.map_eq_some_iff.mp has
      have same : jk = ik := Text.Bounded.ext text
      refine Text.Bounded.ext (owned.correlated _ _ j current (keyed.stored known)
        (own ▸ stored) active' active (by simp [found']) ?_)
      rw [found', same, key, found]
    · obtain ⟨a, member, rfl⟩ := List.mem_map.mp listed
      have mine := mem_iff_lookup.mpr ⟨a, imported.links a member⟩
      rw [bound a member, ← own] at mine
      exact Text.Bounded.ext (owned.unique _ _ _ (mem_associatedSourceIds.mp linked) mine)
  rw [findActiveLocked_of_unique keyed (fun i first j second =>
    (only i first).trans (only j second).symm)]
  cases listed : m.activeMatches (i.correlationKey.map (·.text))
      (associations.map (·.sourceEventId.text)) none with
  | nil => rw [listed] at matched; cases matched
  | cons j rest =>
    have head : j ∈ m.activeMatches (i.correlationKey.map (·.text))
        (associations.map (·.sourceEventId.text)) none := by rw [listed]; exact List.mem_cons_self
    have known := keyed.stored (mem_activeMatches.mp head).1
    rw [only j head, own, stored] at known
    cases known
    rfl

theorem trimmed_text {b : Nat} (t : Text.Bounded isWhiteSpace b) : stripWhitespace t.text = t.text :=
  t.trimmed

theorem requireReplayedImport_ok {h : Host} {m : Memory} {i s : Incident}
    {associations : List SourceEventAssociation} {w : WriteMetadata} {r : Request}
    (reachable : Reachable h m) (imported : Imported h m i associations w r s)
    (same : PyEq.Same s i) (trace : i.traceId.text = w.traceId)
    (bound : ∀ a ∈ associations, a.incidentId = i.incidentId) :
    m.requireReplayedImport i associations w s = .ok () ↔ Trimmed w := by
  obtain ⟨current, stored, key⟩ := imported.current
  obtain ⟨events, e, known, first, fromStatus, toStatus, records⟩ := imported.audit
  have texts : ImportEvent w e ↔ Trimmed w := by
    have traced : e.traceId.text = w.traceId := by
      rw [records.traceId, ← trace, trimmed_text]
    simp only [ImportEvent, Trimmed, fromStatus, toStatus, records.idempotencyKey, records.actor,
      records.reason, traced, true_and, and_true]
  have event : (∃ found ∈ (((m.history.lookup i.incidentId.text).getD []).find? fun e =>
      e.revision = 0), ImportEvent w found) ↔ Trimmed w := by
    rw [known, Option.getD_some, first]
    simp only [Option.mem_def, Option.some.injEq, exists_eq_left', texts]
  have finds := fun active keys =>
    findActive_of_imported reachable imported stored active bound keys
  simp only [requireReplayedImport, Checks.seq_ok, Checks.require_ok, same, true_and, stored, event]
  constructor
  · exact fun passed => passed.2.1
  · intro trimmed
    refine ⟨imported.links, trimmed, ?_⟩
    split
    · next live =>
      refine Checks.bind_ok.mpr ⟨some current, finds live.1 live.2, Checks.require_ok.mpr ?_⟩
      exact ⟨current, rfl, Text.Bounded.ext (reachable.keyed.key stored)⟩
    · rfl

theorem importRequest_trace {h : Host} {i : Incident} {associations : List SourceEventAssociation}
    {w : WriteMetadata} {r : Request} (requested : importRequest h i associations w = .ok r) :
    i.traceId.text = w.traceId ∧ (associations.map (·.sourceEventId)).Nodup := by
  simp only [importRequest, Checks.bind_ok, requireValue_ok, pure, Except.pure,
    Except.ok.injEq] at requested
  obtain ⟨_, _, _, _, _, _, _, trace, _, _, _, _, _, _, _, distinct, _⟩ := requested
  exact ⟨trace, distinct⟩

theorem imported_of_accepted {h : Host} {m m₁ : Memory} {i s : Incident}
    {associations : List SourceEventAssociation} {w : WriteMetadata} {now : Instant}
    (reachable : Reachable h m)
    (accepted : m.importDetectedSnapshot h i associations w now = (.ok s, m₁)) :
    ∃ r, importRequest h i associations w = .ok r ∧ PyEq.Same s i ∧
      Reachable h m₁ ∧ Imported h m₁ i associations w r s := by
  have after : Reachable h (m.next h (now, .importDetectedSnapshot i associations w)) :=
    reachable.next _
  have left : m.next h (now, .importDetectedSnapshot i associations w) = m₁ :=
    congrArg Prod.snd accepted
  rw [left] at after
  unfold importDetectedSnapshot settle at accepted
  split at accepted
  · cases accepted
  · next result decided =>
    cases accepted
    obtain ⟨r, record, requested, known, fp, result, passed⟩ := decideImport_replayed.mp decided
    simp only [requireReplayedImport, Checks.seq_ok, Checks.require_ok] at passed
    obtain ⟨same, passed⟩ := passed
    split at passed
    · cases passed
    · next current stored =>
      simp only [Checks.seq_ok, Checks.require_ok] at passed
      obtain ⟨links, ⟨e, first, event⟩, _⟩ := passed
      have trail : ∃ events, m.history.lookup i.incidentId.text = some events := by
        cases found : m.history.lookup i.incidentId.text with
        | some events => exact ⟨events, rfl⟩
        | none => rw [found] at first; cases first
      obtain ⟨events, found⟩ := trail
      rw [found] at first
      refine ⟨r, requested, same, reachable, ⟨record, known, fp, result⟩, ?_, links, ?_⟩
      · obtain ⟨later, stored', evolved⟩ := reachable.recorded _ _ known
        rw [result] at stored' evolved
        have incidentId : s.incidentId = i.incidentId := same.congr _ fun _ => rfl
        have key : s.correlationKey = i.correlationKey := same.congr _ fun _ => rfl
        exact ⟨later, incidentId ▸ stored', evolved.identity.correlationKey.trans key⟩
      · refine ⟨events, e, found, first, event.1, event.2.1, ?_⟩
        obtain ⟨_, _, key, actor, reason, trace⟩ := event
        exact ⟨by rw [← key, trimmed_text], by rw [← actor, trimmed_text],
          by rw [← reason, trimmed_text], by rw [← trace, trimmed_text]⟩
  · next r event decided =>
    cases accepted
    obtain ⟨requested, absent, fresh, built⟩ := decideImport_proceed decided
    have of := eventOf_auditEvent built
    have new := (importRequest_ok requested).new
    refine ⟨r, requested, .refl _, after, ⟨⟨r.fingerprint, i⟩, by simp [writeIncident], rfl, rfl⟩,
      ⟨i, by simp [writeIncident], rfl⟩, fun a member => ?_, [event], event, by simp [writeIncident],
      ?_, of.fromStatus, of.toStatus.trans new.detected, records_of_auditEvent built⟩
    · exact lookup_putAssociations (importRequest_trace requested).2 member
    · simp [of.revision, new.revision]

/-- The call is answered as a replay with this snapshot, and writes nothing. -/
def Replays (h : Host) (m : Memory) (i : Incident) (associations : List SourceEventAssociation)
    (w : WriteMetadata) (now : Instant) (s : Incident) : Prop :=
  m.decideImport h i associations w now = .ok (.replayed s) ∧
    m.importDetectedSnapshot h i associations w now = (.ok s, m)

/-- After any calls, an accepted import is replayed exactly when its texts are trimmed. -/
theorem import_replays_iff {h : Host} {before after : List (Instant × Call)} {i s : Incident}
    {associations : List SourceEventAssociation} {w : WriteMetadata} {now later : Instant}
    {m : Memory}
    (accepted : (run h {} before).importDetectedSnapshot h i associations w now = (.ok s, m)) :
    Replays h (run h m after) i associations w later s ↔ Trimmed w := by
  obtain ⟨r, requested, same, reachable, imported⟩ :=
    imported_of_accepted (run_reachable h before) accepted
  obtain ⟨reachable, imported⟩ := run_imported reachable imported after
  have passes := requireReplayedImport_ok reachable imported same (importRequest_trace requested).1
    (importRequest_ok requested).bound
  constructor
  · rintro ⟨replayed, _⟩
    obtain ⟨_, _, _, _, _, _, passed⟩ := decideImport_replayed.mp replayed
    exact passes.mp passed
  · intro trimmed
    obtain ⟨record, known, fp, result⟩ := imported.record
    have replayed : (run h m after).decideImport h i associations w later = .ok (.replayed s) :=
      decideImport_replayed.mpr ⟨r, record, requested, known, fp, result, passes.mpr trimmed⟩
    refine ⟨replayed, ?_⟩
    unfold importDetectedSnapshot settle
    rw [replayed]

/-! A snapshot whose import names its actor with a blank in front. -/
namespace Sample

def snapshot : Incident where
  incidentId := .ofText "snapshot" fits_snapshot
  detectedAt := 0
  traceId := .ofText "trace" fits_trace
  createdAt := 0
  updatedAt := 0

def operator (actor : String) : WriteMetadata := ⟨"import-1", actor, "migrate", "trace"⟩

def imported (actor : String) : Memory :=
  (({} : Memory).importDetectedSnapshot Host.ascii snapshot [] (operator actor) 1).2

theorem imported_eq {actor : String} (answer : (({} : Memory).importDetectedSnapshot Host.ascii
    snapshot [] (operator actor) 1).1 = .ok snapshot) :
    (run Host.ascii {} []).importDetectedSnapshot Host.ascii snapshot [] (operator actor) 1 =
      (.ok snapshot, imported actor) := Prod.ext answer rfl

/-- What the imports with the two actors compute. -/
class Imports : Prop where
  accepted : (({} : Memory).importDetectedSnapshot Host.ascii snapshot [] (operator "operator") 1).1 =
    .ok snapshot
  padded : (({} : Memory).importDetectedSnapshot Host.ascii snapshot [] (operator " operator") 1).1 =
    .ok snapshot
  refused : ((imported " operator").importDetectedSnapshot Host.ascii snapshot []
    (operator " operator") 2).1 = .error (.inconsistent "persisted migration audit is inconsistent")

instance imports : Imports := by
  have both : (({} : Memory).importDetectedSnapshot Host.ascii snapshot [] (operator " operator")
      1).1 = .ok snapshot ∧
    ((imported " operator").importDetectedSnapshot Host.ascii snapshot [] (operator " operator")
      2).1 = .error (.inconsistent "persisted migration audit is inconsistent") := by decide +kernel
  exact ⟨by decide +kernel, both.1, both.2⟩

end Sample

theorem import_replays_iff_sample :
    Replays Host.ascii (run Host.ascii (Sample.imported "operator") []) Sample.snapshot []
      (Sample.operator "operator") 2 Sample.snapshot ↔ Trimmed (Sample.operator "operator") :=
  @import_replays_iff _ _ [] _ _ _ _ _ 2 _ (Sample.imported_eq Sample.imports.accepted)

/-- An import whose actor has a blank in front is accepted once and refused from then on. -/
theorem padded_import_not_replayed : ¬ ∀ (h : Host) (before after : List (Instant × Call))
    (i s : Incident) (associations : List SourceEventAssociation) (w : WriteMetadata)
    (now later : Instant) (m : Memory),
    (run h {} before).importDetectedSnapshot h i associations w now = (.ok s, m) →
    Replays h (run h m after) i associations w later s := by
  intro claimed
  have replays := claimed Host.ascii [] [] Sample.snapshot Sample.snapshot []
    (Sample.operator " operator") 1 2 _ (Sample.imported_eq Sample.imports.padded)
  have answer := congrArg Prod.fst replays.2
  rw [run_nil, Sample.imports.refused] at answer
  cases answer

end NetworkAgent.Memory
