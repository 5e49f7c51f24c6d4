import NetworkAgent.Migration.Loop

/-! The import of a bundle does not depend on the order of its entries, and may be stopped and
started over. -/
namespace NetworkAgent.Migration
open NetworkAgent.Memory

def afterImport (h : Host) (b : MigrationBundle) (clock : Nat → Instant) (m : Memory) : Memory :=
  (importMigrationBundle h b false clock m).2

def MigrationReport.setAside (r : MigrationReport) : List (String × QuarantineCode) :=
  r.quarantineItems.map fun i => (i.incidentId, i.code)

structure Completes (h : Host) (b : MigrationBundle) (clock : Nat → Instant) (m : Memory)
    (r : MigrationReport) : Prop where
  returned : (importMigrationBundle h b false clock m).1 = .ok r
  counted : r.imported + r.replayed + r.quarantined = b.entries.length

/-! The report. -/

noncomputable def finalCode (h : Host) (b : MigrationBundle) (c : Contents) (e : MigrationEntry) :
    Option QuarantineCode :=
  if Eligible b.entries e then conflictCode (MigrationEntry.outcome h b c) e
  else quarantineCode b.entries e

theorem setAside_eq (dryRun : Bool) (b : MigrationBundle) (t : Tally) :
    (report dryRun b t).setAside =
      b.entries.filterMap fun e => (t.quarantine.lookup e.id).map fun code => (e.id, code) := by
  have whole : ∀ (n : Nat) (entries : List MigrationEntry),
      ((entries.zipIdx n).filterMap fun p => (t.quarantine.lookup p.1.id).map fun code =>
        ({ entryIndex := p.2, incidentId := p.1.id, code } : QuarantineItem)).map
          (fun i => (i.incidentId, i.code)) =
        entries.filterMap fun e => (t.quarantine.lookup e.id).map fun code => (e.id, code) := by
    intro n entries
    induction entries generalizing n with
    | nil => rfl
    | cons e rest ih =>
      rw [List.zipIdx_cons, List.filterMap_cons, List.filterMap_cons]
      cases found : t.quarantine.lookup e.id with
      | none => simpa only [found, Option.map_none] using ih (n + 1)
      | some code =>
        simpa only [found, Option.map_some, List.map_cons] using
          congrArg ((e.id, code) :: ·) (ih (n + 1))
  exact whole 0 b.entries

section
variable {h : Host} {b : MigrationBundle} {calls : List (Instant × Call)} {m : Memory}
  (valid : b.Valid h) (named : ∀ e ∈ b.entries, Eligible b.entries e → Named e.incident)
  (separate : CollisionFree h b calls) (target : Target h b calls m)

theorem eligible_nodup (b : MigrationBundle) : ((b.eligible b.entries).map MigrationEntry.id).Nodup :=
  b.distinct.sublist (List.filter_sublist.map _)

/-- The counts at the end of an import, from what the entries meet in the target. -/
noncomputable def MigrationBundle.tally (h : Host) (b : MigrationBundle) (c : Contents) : Tally :=
  b.start.settleAll (MigrationEntry.outcome h b c) (b.eligible b.entries)

theorem lookup_tally (h : Host) (b : MigrationBundle) (c : Contents) {e : MigrationEntry}
    (member : e ∈ b.entries) : (b.tally h c).quarantine.lookup e.id = finalCode h b c e := by
  have planned : b.start.quarantine.lookup e.id = quarantineCode b.entries e :=
    lookup_plan b.distinct member
  unfold MigrationBundle.tally finalCode
  rw [settleAll_quarantine]
  by_cases eligible : Eligible b.entries e
  · have listed : e ∈ b.eligible b.entries := List.mem_filter.mpr ⟨member, by simpa using eligible⟩
    rw [lookup_marks_of_mem (eligible_nodup b) listed, planned, show quarantineCode b.entries e = none
      from eligible, Option.or_none, if_pos eligible]
  · have absent : ∀ f ∈ b.eligible b.entries, f.id ≠ e.id := by
      intro f listed same
      obtain ⟨known, free⟩ := List.mem_filter.mp listed
      rw [b.entry_ext known member same] at free
      exact eligible (by simpa using free)
    rw [lookup_marks_of_notMem (eligible_nodup b) absent, planned, if_neg eligible]

theorem tally_counted (h : Host) (b : MigrationBundle) (c : Contents) :
    (b.tally h c).imported + (b.tally h c).replayed + (b.tally h c).quarantine.entries.length =
      b.entries.length := by
  have plan : b.start.quarantine.entries.length + (b.eligible b.entries).length =
      b.entries.length := by
    have size := marks_size (quarantineCode b.entries) ∅ b.distinct (by simp)
    have same : (b.entries.filter fun e => (quarantineCode b.entries e).isNone) =
        b.eligible b.entries := by
      refine List.filter_congr fun e _ => ?_
      rw [Bool.eq_iff_iff, Option.isNone_iff_eq_none, decide_eq_true_eq]
      rfl
    have empty : (∅ : Quarantine).entries.length = 0 := rfl
    rw [same, empty, Nat.zero_add] at size
    exact size
  have fresh : ∀ e ∈ b.eligible b.entries, e.id ∉ b.start.quarantine := by
    intro e listed
    obtain ⟨member, eligible⟩ := List.mem_filter.mp listed
    exact (notMem_plan b.distinct member).mpr (by simpa using eligible)
  have marked := marks_size (conflictCode (MigrationEntry.outcome h b c))
    b.start.quarantine (eligible_nodup b) fresh
  have counts := (settleAll_counts (MigrationEntry.outcome h b c) b.start
    (b.eligible b.entries)).2
  rw [← settleAll_quarantine] at marked
  have zero : b.start.imported + b.start.replayed = 0 := rfl
  unfold MigrationBundle.tally
  omega

theorem allApart (h : Host) (b : MigrationBundle) {part : List MigrationEntry}
    (listed : part ⊆ b.entries) :
    Independence.AllApart Contents.step Contents.outcome Contents.Sound (b.arrivals h part) := by
  intro i first j second other
  obtain ⟨e, one, rfl⟩ := List.mem_map.mp first
  obtain ⟨f, two, rfl⟩ := List.mem_map.mp second
  obtain ⟨known, free⟩ := List.mem_filter.mp one
  obtain ⟨known', free'⟩ := List.mem_filter.mp two
  refine Contents.apart_of_distinct (distinct_arrivals (listed known) (listed known')
    (by simpa using free) (by simpa using free') fun same => other ?_)
  rw [b.entry_ext (listed known) (listed known') same]

theorem arrivals_nodup (h : Host) (b : MigrationBundle) : (b.arrivals h b.entries).Nodup := by
  refine List.Nodup.of_map Arrival.id ?_
  rw [MigrationBundle.arrivals, List.map_map]
  exact eligible_nodup b

include valid named separate target

theorem import_runs (clock : Nat → Instant) :
    Completes h b clock m (report false b (b.tally h (contents m))) ∧
      contents (afterImport h b clock m) =
        Runs.run Contents.step (contents m) (b.arrivals h b.entries) ∧
      Target h b calls (afterImport h b clock m) := by
  obtain ⟨m', looped, reached, ended⟩ := importEntries_refines valid named separate clock b.entries
    (fun _ member => member) b.distinct 0 b.start
    (fun e member => notMem_plan b.distinct member) m target
  have whole : importMigrationBundle h b false clock m =
      (.ok (report false b (b.tally h (contents m))), m') := by
    unfold importMigrationBundle
    rw [valid.checks]
    simp only [Bool.false_eq_true, if_false, looped]
    rfl
  have left : afterImport h b clock m = m' := congrArg Prod.snd whole
  rw [left]
  exact ⟨⟨congrArg Prod.fst whole, tally_counted h b (contents m)⟩, reached, ended⟩

theorem interrupted_runs (clock : Nat → Instant) (handled : Nat) :
    contents (interrupted h b handled clock m) =
        Runs.run Contents.step (contents m) (b.arrivals h (b.entries.take handled)) ∧
      Target h b calls (interrupted h b handled clock m) := by
  obtain ⟨m', looped, reached, ended⟩ := importEntries_refines valid named separate clock
    (b.entries.take handled) (List.take_subset _ _)
    (b.distinct.sublist ((List.take_sublist _ _).map _)) 0 b.start
    (fun e member => notMem_plan b.distinct (List.take_subset _ _ member)) m target
  have left : interrupted h b handled clock m = m' := congrArg Prod.snd looped
  rw [left]
  exact ⟨reached, ended⟩

omit valid named separate in
theorem reordered {b' : MigrationBundle} (profile : b'.sourceProfile = b.sourceProfile)
    (perm : b'.entries.Perm b.entries) :
    Runs.run Contents.step (contents m) (b'.arrivals h b'.entries) =
        Runs.run Contents.step (contents m) (b.arrivals h b.entries) ∧
      (report false b' (b'.tally h (contents m))).setAside.Perm
        (report false b (b.tally h (contents m))).setAside := by
  have codes : ∀ e, quarantineCode b'.entries e = quarantineCode b.entries e :=
    quarantineCode_perm perm
  have arrivals : (b'.arrivals h b'.entries).Perm (b.arrivals h b.entries) := by
    have eligible : b'.eligible b'.entries = b.eligible b'.entries := by
      refine List.filter_congr fun e _ => decide_eq_decide.mpr ?_
      rw [Eligible, Eligible, codes]
    rw [MigrationBundle.arrivals, MigrationBundle.arrivals, eligible, profile]
    exact (perm.filter _).map _
  have final : ∀ e, finalCode h b' (contents m) e = finalCode h b (contents m) e := by
    intro e
    have same : Eligible b'.entries e ↔ Eligible b.entries e := by rw [Eligible, Eligible, codes]
    unfold finalCode
    by_cases eligible : Eligible b.entries e
    · rw [if_pos eligible, if_pos (same.mpr eligible), conflictCode, conflictCode,
        MigrationEntry.outcome, MigrationEntry.outcome, profile]
    · rw [if_neg eligible, if_neg fun other => eligible (same.mp other), codes]
  have listed : ∀ c : MigrationBundle, (report false c (c.tally h (contents m))).setAside =
      c.entries.filterMap fun e => (finalCode h c (contents m) e).map fun code => (e.id, code) := by
    intro c
    rw [setAside_eq]
    refine List.filterMap_congr fun e member => ?_
    rw [lookup_tally h c (contents m) member]
  constructor
  · exact Independence.run_perm (fun _ i sound => sound.step i)
      arrivals (arrivals_nodup h b') (allApart h b' fun _ member => member)
      (contents_sound target.reachable)
  · rw [listed, listed]
    simp only [final]
    exact perm.filterMap _

end

/-- The order of the entries does not matter, an import that was stopped may be started over,
importing again imports nothing, and every import counts every entry once. -/
theorem import_order_and_restart (h : Host) (calls : List (Instant × Call)) (b : MigrationBundle)
    (valid : b.Valid h) (named : ∀ e ∈ b.entries, Eligible b.entries e → Named e.incident)
    (separate : CollisionFree h b calls) (clock : Nat → Instant) :
    ∃ r, Completes h b clock (run h {} calls) r ∧
      (∀ (b' : MigrationBundle) (clock' : Nat → Instant), b'.Valid h →
        b'.sourceProfile = b.sourceProfile → b'.entries.Perm b.entries →
        ∃ r', Completes h b' clock' (run h {} calls) r' ∧
          contents (afterImport h b' clock' (run h {} calls)) =
            contents (afterImport h b clock (run h {} calls)) ∧
          r'.setAside.Perm r.setAside) ∧
      (∀ (handled : Nat) (clock' : Nat → Instant),
        ∃ r', Completes h b clock' (interrupted h b handled clock (run h {} calls)) r' ∧
          contents (afterImport h b clock' (interrupted h b handled clock (run h {} calls))) =
            contents (afterImport h b clock (run h {} calls))) ∧
      (∀ clock' : Nat → Instant,
        ∃ r', Completes h b clock' (afterImport h b clock (run h {} calls)) r' ∧
          r'.imported = 0) := by
  classical
  have target := target_of_run (h := h) b calls
  have sound := contents_sound target.reachable
  have keeps := fun (c : Contents) (a : Arrival) (sound : c.Sound) => sound.step a
  have idempotent := fun (c : Contents) (a : Arrival) (_ : c.Sound) => Contents.step_idempotent c a
  have whole : b.entries ⊆ b.entries := fun _ member => member
  obtain ⟨completes, reached, ended⟩ := import_runs valid named separate target clock
  refine ⟨_, completes, fun b' clock' valid' profile perm => ?_, fun handled clock' => ?_,
    fun clock' => ?_⟩
  · have codes := quarantineCode_perm perm
    have named' : ∀ e ∈ b'.entries, Eligible b'.entries e → Named e.incident := by
      intro e member eligible
      refine named e (perm.mem_iff.mp member) ?_
      rw [Eligible, ← codes e]
      exact eligible
    have separate' : CollisionFree h b' calls := by
      intro e member
      rw [profile]
      exact separate e (perm.mem_iff.mp member)
    obtain ⟨completes', reached', _⟩ :=
      import_runs valid' named' separate' (target_of_run b' calls) clock'
    obtain ⟨same, aside⟩ := reordered (h := h) target profile perm
    exact ⟨_, completes', by rw [reached', same, reached], aside⟩
  · obtain ⟨stopped, target'⟩ := interrupted_runs valid named separate target clock handled
    obtain ⟨completes', reached', _⟩ := import_runs valid named separate target' clock'
    refine ⟨_, completes', ?_⟩
    have split : b.arrivals h b.entries =
        b.arrivals h (b.entries.take handled) ++ b.arrivals h (b.entries.drop handled) := by
      rw [MigrationBundle.arrivals, MigrationBundle.arrivals, MigrationBundle.arrivals,
        ← List.map_append, MigrationBundle.eligible, MigrationBundle.eligible,
        MigrationBundle.eligible, ← List.filter_append, List.take_append_drop]
    have distinct := arrivals_nodup h b
    have apart := allApart h b whole
    rw [split] at distinct apart
    rw [reached', stopped, reached, split]
    exact Independence.run_restarted keeps idempotent distinct apart sound
  · obtain ⟨completes', _⟩ := import_runs valid named separate ended clock'
    refine ⟨_, completes', ?_⟩
    have counts := (settleAll_counts
      (MigrationEntry.outcome h b (contents (afterImport h b clock (run h {} calls))))
      b.start (b.eligible b.entries)).1
    have none_imported : ((b.eligible b.entries).filter fun e =>
        MigrationEntry.outcome h b (contents (afterImport h b clock (run h {} calls))) e =
          .imported) = [] := by
      refine List.filter_eq_nil_iff.mpr fun e listed => ?_
      have arrived : e.arrival h b.sourceProfile ∈ b.arrivals h b.entries := List.mem_map_of_mem listed
      have settled := Independence.run_settled keeps arrived (arrivals_nodup h b)
        (allApart h b whole) sound
      have again := Contents.outcome_again (contents (run h {} calls)) (e.arrival h b.sourceProfile)
      simp only [MigrationEntry.outcome, reached, settled, again, decide_eq_true_eq]
      split
      · decide
      · next other => exact other
    rw [none_imported] at counts
    exact counts

/-! A bundle of one incident. -/
namespace Sample

def incident : Incident where
  incidentId := .ofText "snapshot" fits_snapshot
  detectedAt := 0
  traceId := .ofText "trace" fits_trace
  createdAt := 0
  updatedAt := 0

def entry : MigrationEntry where
  incident := incident
  bounded := by decide
  bound := by simp
  distinct := by simp
  sorted := by simp

def profile : SourceProfile := .ofText "laboratory" (by decide +kernel)

def bundle : MigrationBundle where
  sourceProfile := profile
  exportedAt := 0
  entries := [entry]
  checksumSha256 := checksum Host.ascii (unsignedPayload profile 0 [entry])
  bounded := by decide
  distinct := by simp
  exported := by simp [entry, incident]

theorem bundle_checks : (entry.incident.modelValidate Host.ascii = .ok () ∧
    validateMigrationBundle Host.ascii bundle = .ok ()) ∧ Named entry.incident ∧
    (importMigrationBundle Host.ascii bundle true (fun _ => 0) {}).1 =
      .ok (report true bundle bundle.start) ∧
    (report true bundle bundle.start).quarantined = 0 := by decide +kernel

theorem bundle_valid : bundle.Valid Host.ascii where
  models _ member := List.mem_singleton.mp member ▸ bundle_checks.1.1
  checks := bundle_checks.1.2

end Sample

theorem import_order_and_restart_sample :
    ∃ r, Completes Host.ascii Sample.bundle (fun _ => 1) (run Host.ascii {} []) r ∧
      ∃ r', Completes Host.ascii Sample.bundle (fun _ => 2)
          (afterImport Host.ascii Sample.bundle (fun _ => 1) (run Host.ascii {} [])) r' ∧
        r'.imported = 0 := by
  obtain ⟨r, completes, _, _, again⟩ := import_order_and_restart Host.ascii [] Sample.bundle
    Sample.bundle_valid (fun e member _ => List.mem_singleton.mp member ▸ Sample.bundle_checks.2.1)
    (fun _ _ _ _ _ requested => by simp [Requested] at requested) (fun _ => 1)
  exact ⟨r, completes, again fun _ => 2⟩

/-- A dry run counts no entry that a live import would write. -/
theorem dry_run_counts_nothing : ¬ ∀ (h : Host) (calls : List (Instant × Call))
    (b : MigrationBundle) (dryRun : Bool) (clock : Nat → Instant), b.Valid h →
    ∀ r, (importMigrationBundle h b dryRun clock (run h {} calls)).1 = .ok r →
      r.imported + r.replayed + r.quarantined = b.entries.length := by
  intro claimed
  have counted := claimed Host.ascii [] Sample.bundle true (fun _ => 0) Sample.bundle_valid _
    Sample.bundle_checks.2.2.1
  have none_counted : (report true Sample.bundle Sample.bundle.start).imported +
      (report true Sample.bundle Sample.bundle.start).replayed +
      (report true Sample.bundle Sample.bundle.start).quarantined = 0 := by
    rw [Sample.bundle_checks.2.2.2]
    rfl
  rw [none_counted] at counted
  exact absurd counted (by decide)

end NetworkAgent.Migration
