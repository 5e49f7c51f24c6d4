import NetworkAgent.Memory.History

/-! What becomes of an incident that was read: the versions of it that come after, whoever makes
the calls in between. -/
namespace NetworkAgent.Memory

def Later (h : Host) (m m' : Memory) : Prop := ∃ calls, m' = run h m calls

theorem Later.refl (h : Host) (m : Memory) : Later h m m := ⟨[], rfl⟩

theorem Later.trans {h : Host} {a b c : Memory} (first : Later h a b) (second : Later h b c) :
    Later h a c := by
  obtain ⟨calls, rfl⟩ := first
  obtain ⟨more, rfl⟩ := second
  exact ⟨calls ++ more, (Runs.run_append _ _ _ _).symm⟩

/-- A later version of an incident: the same one, or one of a higher revision, and the same one
if it had failed. -/
structure Onward (i j : Incident) : Prop where
  revision : i.revision ≤ j.revision
  same : j.revision = i.revision → j = i
  failed : i.status = .failed → j = i

theorem Onward.refl (i : Incident) : Onward i i := ⟨Nat.le_refl _, fun _ => rfl, fun _ => rfl⟩

theorem Onward.trans {a b c : Incident} (first : Onward a b) (second : Onward b c) :
    Onward a c where
  revision := first.revision.trans second.revision
  same equal := by
    have first_le := first.revision
    have second_le := second.revision
    have second_same := second.same (by omega)
    exact second_same.trans (first.same (by rw [← second_same, equal]))
  failed ended := by
    have kept := first.failed ended
    exact (second.failed (kept ▸ ended)).trans kept

theorem Advances.onward {h : Host} {i j : Incident} (advances : Advances h i j) : Onward i j := by
  rcases advances with rfl | ⟨target, now, moved⟩
  · exact .refl _
  · have raised := moved.revision
    refine ⟨by omega, fun equal => by omega, fun ended => ?_⟩
    have edge := moved.edge
    rw [ended] at edge
    cases edge

def Known (m : Memory) (i : Incident) : Prop :=
  ∃ j, m.incidents.lookup i.incidentId.text = some j ∧ Onward i j

theorem Keyed.known {h : Host} {m : Memory} (keyed : m.Keyed h) {k : String} {i : Incident}
    (stored : m.incidents.lookup k = some i) : m.Known i := by
  rw [← keyed.key stored] at stored
  exact ⟨i, stored, .refl i⟩

theorem Known.eq {m : Memory} {i j : Incident} (known : m.Known i)
    (stored : m.incidents.lookup i.incidentId.text = some j) (equal : j.revision = i.revision) :
    j = i := by
  obtain ⟨j', stored', onward⟩ := known
  cases stored.symm.trans stored'
  exact onward.same equal

theorem Effect.known {h : Host} {m m' : Memory} {result : Except RepositoryError Incident}
    (keyed : m.Keyed h) (effect : Effect h m result m') {i : Incident} (known : m.Known i) :
    m'.Known i := by
  obtain ⟨j, stored, onward⟩ := known
  obtain ⟨s, stored', advances⟩ := effect.advances keyed stored
  exact ⟨s, stored', onward.trans advances.onward⟩

/-- Every stored incident passed its checks, and every answer on record is known. -/
structure Sound (h : Host) (m : Memory) : Prop extends m.Keyed h where
  recorded : ∀ scope record, m.idempotency.lookup scope = some record → m.Known record.result

theorem Effect.sound {h : Host} {m m' : Memory} {result : Except RepositoryError Incident}
    (sound : m.Sound h) (effect : Effect h m result m') : m'.Sound h where
  toKeyed := effect.keyed sound.toKeyed
  recorded := by
    intro scope record found
    have older : ∀ old, m.idempotency.lookup scope = some old → m'.Known old.result :=
      fun old before => effect.known sound.toKeyed (sound.recorded scope old before)
    cases effect with
    | failed | replayed => exact older record found
    | correlated stored =>
      rcases Table.lookup_insert_iff.mp found with ⟨_, rfl⟩ | ⟨_, before⟩
      · exact ⟨_, sound.stored stored, .refl _⟩
      · exact older record before
    | opened =>
      rcases Table.lookup_insert_iff.mp found with ⟨_, rfl⟩ | ⟨_, before⟩
      · exact ⟨_, by simp [writeIncident], .refl _⟩
      · exact older record before
    | advanced =>
      rcases Table.lookup_insert_iff.mp found with ⟨_, rfl⟩ | ⟨_, before⟩
      · exact ⟨_, by simp [writeIncident], .refl _⟩
      · exact older record before

section
variable {h : Host} {m m' : Memory}

theorem Sound.next (sound : m.Sound h) (call : Instant × Call) : (m.next h call).Sound h :=
  (step_effect sound.allSafe call.1 call.2).sound sound

theorem Later.sound (later : Later h m m') (sound : m.Sound h) : m'.Sound h := by
  obtain ⟨calls, rfl⟩ := later
  exact Runs.run_invariant _ (fun _ call sound => sound.next call) sound calls

theorem run_sound (h : Host) (calls : List (Instant × Call)) : (run h {} calls).Sound h :=
  Later.sound ⟨calls, rfl⟩ ⟨keyed_empty h, fun _ _ found => by simp at found⟩

theorem Later.onward (later : Later h m m') (sound : m.Sound h) {k : String} {i : Incident}
    (stored : m.incidents.lookup k = some i) :
    ∃ j, m'.incidents.lookup k = some j ∧ Onward i j := by
  obtain ⟨calls, rfl⟩ := later
  have run := Runs.run_relation (Memory.next h) (P := fun m => m.Keyed h)
    (R := fun m m' => ∀ k i, m.incidents.lookup k = some i →
      ∃ j, m'.incidents.lookup k = some j ∧ Onward i j)
    (fun m call => next_keyed m call)
    (fun m k i stored => ⟨i, stored, .refl i⟩)
    (fun first second k i stored => by
      obtain ⟨j, known, moved⟩ := first k i stored
      obtain ⟨j', known', moved'⟩ := second k j known
      exact ⟨j', known', moved.trans moved'⟩)
    (fun m call keyed k i stored => by
      obtain ⟨j, known, advances⟩ :=
        (step_effect keyed.allSafe call.1 call.2).advances keyed stored
      exact ⟨j, known, advances.onward⟩) sound.toKeyed calls
  exact run k i stored

theorem Known.onward {i : Incident} (known : m.Known i) (sound : m.Sound h) (later : Later h m m') :
    m'.Known i := by
  obtain ⟨j, stored, onward⟩ := known
  obtain ⟨j', stored', onward'⟩ := later.onward sound stored
  exact ⟨j', stored', onward.trans onward'⟩

theorem transition_answer_known (sound : m.Sound h) {incidentId : String} {target : IncidentStatus}
    {expected : Int} {w : WriteMetadata} {u : Updates} {now : Instant} {s : Incident}
    (answer : (m.transition h incidentId target expected w u now).1 = .ok s) :
    (m.transition h incidentId target expected w u now).2.Known s := by
  rcases transition_updated answer with ⟨scope, record, found, rfl, same⟩ | ⟨_, _, _, _, stored⟩
  · rw [same]
    exact sound.recorded scope record found
  · exact ⟨s, stored, .refl s⟩

/-! What a transition leaves of one incident. -/

theorem commitTransition_stored {r : Request} {current successor f : Incident} {now : Instant}
    {k : String} (clean : r.metadata.Clean h) (safe : RepositorySafe h successor.toJson)
    (after : (m.commitTransition h r current successor now).2.incidents.lookup k = some f) :
    m.incidents.lookup k = some f ∨ (k = successor.incidentId.text ∧ f = successor) := by
  unfold commitTransition at after
  split at after
  · exact .inl after
  · obtain ⟨incident, texts⟩ := Incident.clean_of_safe safe
    rcases registerSourceEvents_spec (m := m) (t := now) clean incident texts with
      ⟨e, failed⟩ | ⟨table, passed, _⟩
    · rw [failed] at after
      exact .inl after
    · rw [passed] at after
      rcases Table.lookup_insert_iff.mp after with ⟨same, rfl⟩ | ⟨_, before⟩
      · exact .inr ⟨same, rfl⟩
      · exact .inl before

theorem transition_stored (keyed : m.Keyed h) {incidentId k : String} {target : IncidentStatus}
    {expected : Int} {w : WriteMetadata} {u : Updates} {now : Instant} {i f : Incident}
    (before : m.incidents.lookup k = some i)
    (after : (m.transition h incidentId target expected w u now).2.incidents.lookup k = some f) :
    f = i ∨ (k = incidentId ∧
      transitionIncident h i target expected (.given now) (.given now) u = .ok f) := by
  have kept : m.incidents.lookup k = some f → f = i :=
    fun stays => Option.some.inj (stays.symm.trans before)
  unfold Memory.transition at after
  cases decision : m.decideTransition h incidentId target expected w u now with
  | error e =>
    rw [decision] at after
    exact .inl (kept after)
  | ok decided =>
    rw [decision] at after
    cases decided with
    | replayed result => exact .inl (kept after)
    | proceed r work =>
      simp only [settle] at after
      obtain ⟨requested, _, admitted⟩ := decideTransition_proceed decision
      have clean := clean_of_transitionRequest requested
      rcases commitTransition_stored clean admitted.safe after with stays | ⟨own, rfl⟩
      · exact .inl (kept stays)
      · have identity := (transition_of_ok admitted.accepted).identity.incidentId
        rw [identity, keyed.key admitted.stored] at own
        subst own
        cases before.symm.trans admitted.stored
        exact .inr ⟨rfl, admitted.accepted⟩

end

end NetworkAgent.Memory
