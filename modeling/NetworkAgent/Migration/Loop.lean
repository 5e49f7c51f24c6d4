import NetworkAgent.Migration.Refinement

/-! The import loop as a run of arrivals. -/
namespace NetworkAgent.Migration
open NetworkAgent.Memory

/-! The write of a new import. -/

theorem lookup_insert_update {K V : Type} [DecidableEq K] (t : Table K V) (k : K) (v : V) :
    (AList.insert k v t).lookup = Function.update t.lookup k (some v) := by
  funext k'
  by_cases same : k' = k
  · subst same
    rw [AList.lookup_insert, Function.update_self]
  · rw [AList.lookup_insert_ne same, Function.update_of_ne same]

section
variable {h : Host} {b : MigrationBundle} {calls : List (Instant × Call)} {m : Memory}
  {e : MigrationEntry}

theorem lookup_links (t : Table (String × String) SourceEventAssociation) (k : String × String) :
    (putAssociations e.associations t).lookup k =
      ((e.arrival h b.sourceProfile).link k).or (t.lookup k) := by
  cases found : (e.arrival h b.sourceProfile).link k with
  | some l =>
    have key : (l.incidentId.text, l.sourceEventId.text) = k := by
      simpa using List.find?_some found
    have member : l ∈ e.associations := List.mem_of_find?_eq_some found
    rw [← key, lookup_putAssociations e.distinct member]
    rfl
  | none =>
    have other : ∀ l ∈ e.associations, k ≠ (l.incidentId.text, l.sourceEventId.text) := by
      intro l member same
      have missed := List.find?_eq_none.mp found l member
      simp [same] at missed
    rw [lookup_putAssociations_ne other, Option.none_or]

theorem contents_written {event : IncidentAuditEvent} {now : Instant}
    (built : e.eventAt h b.sourceProfile now = .ok event) :
    contents ({ m with sourceEvents := putAssociations e.associations m.sourceEvents }.writeIncident
      (e.request h b.sourceProfile) e.incident [event]) =
      (contents m).put (e.arrival h b.sourceProfile) := by
  obtain ⟨event', built', untimed_built⟩ := eventAt_ok h b.sourceProfile e now
  cases built.symm.trans built'
  have events : (e.arrival h b.sourceProfile).events = [untimed event] := by
    simp [MigrationEntry.arrival, untimed_built, Except.toOption]
  ext1
  · exact lookup_insert_update _ _ _
  · exact lookup_insert_update _ _ _
  · funext k
    simp only [contents, Contents.put, writeIncident, events]
    by_cases own : k = e.incident.incidentId.text
    · have own' : k = (e.arrival h b.sourceProfile).id := own
      rw [own', Function.update_self, ← own', own, AList.lookup_insert]
      rfl
    · have own' : k ≠ (e.arrival h b.sourceProfile).id := own
      rw [AList.lookup_insert_ne own, Function.update_of_ne own']
  · exact funext (lookup_links m.sourceEvents)

/-! One turn. -/

def Tally.settle (t : Tally) (e : MigrationEntry) : Outcome → Tally
  | .imported => { t with imported := t.imported + 1 }
  | .replayed => { t with replayed := t.replayed + 1 }
  | .conflict => { t with quarantine := t.quarantine.insert e.id .targetConflict }

variable (target : Target h b calls m) (separate : CollisionFree h b calls) (member : e ∈ b.entries)
  (safe : e.Safe h) (eligible : Eligible b.entries e) (named : Named e.incident) (now : Instant)
include target separate member safe eligible named

theorem importDetectedSnapshot_refines :
    contents (m.importDetectedSnapshot h e.incident e.associations
      (e.metadata h b.sourceProfile) now).2 = (contents m).step (e.arrival h b.sourceProfile) := by
  have accepted : importRequest h e.incident e.associations (e.metadata h b.sourceProfile) =
      .ok (e.request h b.sourceProfile) := importRequest_accepts safe eligible named
  unfold importDetectedSnapshot settle Contents.step
  cases outcome : (contents m).outcome (e.arrival h b.sourceProfile) with
  | imported =>
    obtain ⟨event, built, decided⟩ := decideImport_imported target accepted now outcome
    rw [decided, if_pos rfl]
    exact contents_written built
  | replayed =>
    obtain ⟨s, decided, _⟩ := decideImport_known target separate member accepted now outcome
    rw [decided, if_neg (by decide)]
  | conflict =>
    obtain ⟨error, decided, _⟩ := decideImport_conflict target accepted now outcome
    rw [decided, if_neg (by decide)]

theorem importEntry_refines (t : Tally) (fresh : e.id ∉ t.quarantine) :
    importEntry h b.sourceProfile now t m e =
      (.ok (t.settle e ((contents m).outcome (e.arrival h b.sourceProfile))),
        m.next h (now, e.call h b.sourceProfile)) := by
  have accepted : importRequest h e.incident e.associations (e.metadata h b.sourceProfile) =
      .ok (e.request h b.sourceProfile) := importRequest_accepts safe eligible named
  have built : candidate h e = .ok e.incident := by
    unfold candidate
    rw [show e.incident.modelValidate h = .ok () from safe.valid]
    exact Checks.seq_ok.mpr ⟨validateCanonicalItem_ok.mpr safe.incident, rfl⟩
  have committed : ∀ s : Incident, s.Valid h → RepositorySafe h s.toJson → PyEq.Same s e.incident →
      requireCommitted h e.incident s = .ok () := by
    intro s valid clean same
    unfold requireCommitted
    rw [show s.modelValidate h = .ok () from valid]
    exact Checks.seq_ok.mpr ⟨validateCanonicalItem_ok.mpr clean, requireBundle_ok.mpr same⟩
  simp only [importEntry, if_neg fresh, built, importResult, Memory.next, Memory.step,
    MigrationEntry.call]
  unfold importDetectedSnapshot settle
  cases outcome : (contents m).outcome (e.arrival h b.sourceProfile) with
  | imported =>
    obtain ⟨event, _, decided⟩ := decideImport_imported target accepted now outcome
    have own := committed e.incident safe.valid safe.incident (.refl _)
    simp only [MigrationEntry.metadata] at decided
    simp only [MigrationEntry.metadata, decided, Except.map, own]
    rfl
  | replayed =>
    obtain ⟨s, decided, same, valid, clean⟩ :=
      decideImport_known target separate member accepted now outcome
    have own := committed s valid clean same
    simp only [MigrationEntry.metadata] at decided
    simp only [MigrationEntry.metadata, decided, Except.map, own]
    rfl
  | conflict =>
    obtain ⟨error, decided, conflict⟩ := decideImport_conflict target accepted now outcome
    simp only [MigrationEntry.metadata] at decided
    simp only [MigrationEntry.metadata, decided, Except.map, Tally.refuse, conflict, if_true]
    rfl

end

/-! The counts. -/

def conflictCode (outcome : MigrationEntry → Outcome) (e : MigrationEntry) :
    Option QuarantineCode :=
  if outcome e = .conflict then some .targetConflict else none

def Tally.settleAll (t : Tally) (outcome : MigrationEntry → Outcome) (entries : List MigrationEntry) :
    Tally :=
  entries.foldl (fun t e => t.settle e (outcome e)) t

section
variable {outcome : MigrationEntry → Outcome}

theorem settleAll_congr {other : MigrationEntry → Outcome} {entries : List MigrationEntry}
    (same : ∀ e ∈ entries, outcome e = other e) (t : Tally) :
    t.settleAll outcome entries = t.settleAll other entries := by
  unfold Tally.settleAll
  induction entries generalizing t with
  | nil => rfl
  | cons e rest ih =>
    rw [List.foldl_cons, List.foldl_cons, same e List.mem_cons_self,
      ih fun f member => same f (List.mem_cons_of_mem _ member)]

theorem settle_quarantine (t : Tally) (e : MigrationEntry) :
    (t.settle e (outcome e)).quarantine = mark (conflictCode outcome) t.quarantine e := by
  unfold Tally.settle mark conflictCode
  cases outcome e <;> rfl

theorem settleAll_quarantine (t : Tally) (entries : List MigrationEntry) :
    (t.settleAll outcome entries).quarantine =
      entries.foldl (mark (conflictCode outcome)) t.quarantine := by
  unfold Tally.settleAll
  induction entries generalizing t with
  | nil => rfl
  | cons e rest ih => rw [List.foldl_cons, List.foldl_cons, ih, settle_quarantine]

variable (outcome) in
theorem settleAll_counts (t : Tally) (entries : List MigrationEntry) :
    (t.settleAll outcome entries).imported =
        t.imported + (entries.filter fun e => outcome e = .imported).length ∧
      (t.settleAll outcome entries).imported + (t.settleAll outcome entries).replayed =
        t.imported + t.replayed +
          (entries.filter fun e => (conflictCode outcome e).isNone).length := by
  unfold Tally.settleAll
  induction entries generalizing t with
  | nil => simp
  | cons e rest ih =>
    obtain ⟨imported, both⟩ := ih (t.settle e (outcome e))
    rw [List.foldl_cons, both, imported]
    clear imported both
    cases found : outcome e <;> grind [Tally.settle, conflictCode]

end

/-! The loop. -/

/-- The entries of a part of the bundle that the plan leaves to the target. -/
def MigrationBundle.eligible (b : MigrationBundle) (part : List MigrationEntry) :
    List MigrationEntry :=
  part.filter fun e => Eligible b.entries e

def MigrationBundle.arrivals (h : Host) (b : MigrationBundle) (part : List MigrationEntry) :
    List Arrival :=
  (b.eligible part).map (MigrationEntry.arrival h b.sourceProfile)

noncomputable def MigrationEntry.outcome (h : Host) (b : MigrationBundle) (c : Contents)
    (e : MigrationEntry) : Outcome :=
  c.outcome (e.arrival h b.sourceProfile)

section
variable {h : Host} {b : MigrationBundle} {calls : List (Instant × Call)}

theorem distinct_arrivals {e f : MigrationEntry} (first : e ∈ b.entries) (second : f ∈ b.entries)
    (one : Eligible b.entries e) (two : Eligible b.entries f) (apart : e.id ≠ f.id) :
    (e.arrival h b.sourceProfile).Distinct (f.arrival h b.sourceProfile) := by
  have mine := one.unquarantined
  have other := two.unquarantined
  have claims : ∀ {g : MigrationEntry} {s : String}, s ∈ (g.arrival h b.sourceProfile).sources →
      s ∈ g.sourceIds := fun listed => List.mem_append_right _ listed
  have keys : ∀ {g : MigrationEntry} {key : Identifier}, Unquarantined b.entries g →
      g.incident.correlationKey = some key → key.text ∈ g.correlationKeys := by
    intro g key plain has
    simp [MigrationEntry.correlationKeys, plain.detected, has, IncidentStatus.isActive,
      IncidentStatus.isSettled, IncidentStatus.isTerminal]
  refine ⟨apart, fun s left right => ?_, fun key left right => ?_⟩
  · exact mine.sources (ambiguous_of_shared first second apart (claims left) (claims right))
  · exact mine.correlation
      (ambiguous_of_shared first second apart (keys mine left) (keys other right))

/-- The loop over a part of the bundle is the run of its arrivals, each counted by what it meets
in the target that the loop starts from. -/
theorem importEntries_refines (valid : b.Valid h)
    (named : ∀ e ∈ b.entries, Eligible b.entries e → Named e.incident)
    (separate : CollisionFree h b calls) (clock : Nat → Instant) (part : List MigrationEntry)
    (listed : part ⊆ b.entries) (distinct : (part.map MigrationEntry.id).Nodup) (index : Nat)
    (t : Tally) (planned : ∀ e ∈ part, e.id ∉ t.quarantine ↔ Eligible b.entries e) (m : Memory)
    (target : Target h b calls m) :
    ∃ m', importEntries h b.sourceProfile clock index t m part =
        (.ok (t.settleAll (MigrationEntry.outcome h b (contents m)) (b.eligible part)), m') ∧
      contents m' = Runs.run Contents.step (contents m) (b.arrivals h part) ∧
      Target h b calls m' := by
  induction part generalizing index t m with
  | nil => exact ⟨m, rfl, rfl, target⟩
  | cons e rest ih =>
    obtain ⟨absent, distinct⟩ := List.nodup_cons.mp distinct
    have member := listed List.mem_cons_self
    have others : rest ⊆ b.entries := fun f later => listed (List.mem_cons_of_mem _ later)
    have kept : ∀ f ∈ rest, f.id ∉ t.quarantine ↔ Eligible b.entries f :=
      fun f later => planned f (List.mem_cons_of_mem _ later)
    by_cases eligible : Eligible b.entries e
    · have fresh := (planned e List.mem_cons_self).mpr eligible
      have turn := importEntry_refines target separate member (valid.safe member) eligible
        (named e member eligible) (clock index) t fresh
      have step := importDetectedSnapshot_refines target separate member (valid.safe member) eligible
        (named e member eligible) (clock index)
      have still : ∀ f ∈ rest, f.id ∉ (t.settle e (e.outcome h b (contents m))).quarantine ↔
          Eligible b.entries f := by
        intro f later
        have apart : f.id ≠ e.id := fun same => absent (same ▸ List.mem_map_of_mem later)
        rw [settle_quarantine, ← AList.lookup_eq_none, lookup_mark apart, AList.lookup_eq_none]
        exact kept f later
      obtain ⟨m', looped, reached, ended⟩ := ih others distinct (index + 1)
        (t.settle e (e.outcome h b (contents m))) still
        (m.next h (clock index, e.call h b.sourceProfile)) (target.next member _)
      have moved : contents (m.next h (clock index, e.call h b.sourceProfile)) =
          (contents m).step (e.arrival h b.sourceProfile) := step
      have blind : ∀ f ∈ b.eligible rest,
          f.outcome h b (contents (m.next h (clock index, e.call h b.sourceProfile))) =
            f.outcome h b (contents m) := by
        intro f later
        obtain ⟨known, free⟩ := List.mem_filter.mp later
        have apart : e.id ≠ f.id := fun same => absent (same ▸ List.mem_map_of_mem known)
        rw [moved]
        exact Contents.outcome_step (contents_sound target.reachable)
          (distinct_arrivals member (others known) eligible (by simpa using free) apart)
      have first : b.eligible (e :: rest) = e :: b.eligible rest :=
        List.filter_cons_of_pos (by simpa using eligible)
      refine ⟨m', ?_, ?_, ended⟩
      · rw [importEntries, turn]
        dsimp only
        rw [first]
        rw [settleAll_congr blind] at looped
        exact looped
      · have split : b.arrivals h (e :: rest) =
            e.arrival h b.sourceProfile :: b.arrivals h rest := by
          rw [MigrationBundle.arrivals, first]
          rfl
        rw [reached, moved, split]
        rfl
    · have skipped : e.id ∈ t.quarantine := by
        by_contra fresh
        exact eligible ((planned e List.mem_cons_self).mp fresh)
      obtain ⟨m', looped, reached, ended⟩ := ih others distinct (index + 1) t kept m target
      have same : b.eligible (e :: rest) = b.eligible rest :=
        List.filter_cons_of_neg (by simpa using eligible)
      refine ⟨m', ?_, ?_, ended⟩
      · rw [importEntries, importEntry, if_pos skipped, same]
        exact looped
      · rw [reached, MigrationBundle.arrivals, MigrationBundle.arrivals, same]

end

end NetworkAgent.Migration
