import NetworkAgent.Migration.Completeness
import NetworkAgent.Migration.Order

/-! A whole migration: what one repository holds is exported, and the bundle is imported into an
empty one. Nothing is lost on the way without a code that says why. -/
namespace NetworkAgent.Migration

/-! Arrivals that are apart and all welcome are all taken in. -/

theorem run_elsewhere {arrivals : List Arrival} {c : Contents} {k : String}
    (other : ∀ a ∈ arrivals, a.id ≠ k) :
    (Runs.run Contents.step c arrivals).incidents k = c.incidents k ∧
      ∀ s, (Runs.run Contents.step c arrivals).links (k, s) = c.links (k, s) := by
  induction arrivals generalizing c with
  | nil => exact ⟨rfl, fun _ => rfl⟩
  | cons a rest ih =>
    rw [List.forall_mem_cons] at other
    obtain ⟨incident, links⟩ := @ih (c.step a) other.2
    have kept : (c.step a).incidents k = c.incidents k ∧
        ∀ s, (c.step a).links (k, s) = c.links (k, s) := by
      unfold Contents.step
      split
      · refine ⟨Function.update_of_ne other.1.symm _ _, fun s => ?_⟩
        have absent : a.link (k, s) = none := by
          by_contra brought
          exact other.1 (Arrival.link_key brought).1.symm
        simp [Contents.put, absent]
      · exact ⟨rfl, fun _ => rfl⟩
    exact ⟨incident.trans kept.1, fun s => (links s).trans (kept.2 s)⟩

theorem run_taken {arrivals : List Arrival} {c : Contents} (sound : c.Sound)
    (apart : arrivals.Pairwise Arrival.Distinct)
    (welcome : ∀ a ∈ arrivals, c.outcome a = .imported) {a : Arrival} (member : a ∈ arrivals) :
    (Runs.run Contents.step c arrivals).incidents a.id = some a.incident ∧
      ∀ s, (Runs.run Contents.step c arrivals).links (a.id, s) =
        (a.link (a.id, s)).or (c.links (a.id, s)) := by
  induction arrivals generalizing c with
  | nil => cases member
  | cons b rest ih =>
    obtain ⟨first, apart⟩ := List.pairwise_cons.mp apart
    rw [List.forall_mem_cons] at welcome
    have taken : c.step b = c.put b := by rw [Contents.step, if_pos welcome.1]
    rw [Runs.run]
    rcases List.mem_cons.mp member with rfl | later
    · have here := run_elsewhere (c := c.step a) fun d listed => (first d listed).id.symm
      rw [taken] at here ⊢
      exact ⟨here.1.trans (Function.update_self _ _ _), fun s => here.2 s⟩
    · obtain ⟨incident, links⟩ := ih (sound.step b) apart (fun d listed => by
        rw [Contents.outcome_step sound (first d listed)]
        exact welcome.2 d listed) later
      refine ⟨incident, fun s => ?_⟩
      have absent : b.link (a.id, s) = none := by
        by_contra brought
        exact (first a later).id (Arrival.link_key brought).1.symm
      rw [links s, taken]
      simp [Contents.put, absent]

theorem empty_welcomes (a : Arrival) : (contents {}).outcome a = .imported := by
  refine Contents.outcome_imported.mpr ⟨rfl, rfl, ?_, ?_⟩
  · exact fun s _ owner linked => absurd rfl linked
  · rintro k j ⟨⟩

/-! The migration. -/

/-- The target holds the incident of an entry as it was, with its associations. -/
structure Transferred (m : Memory) (e : MigrationEntry) : Prop where
  incident : m.incidents.lookup e.id = some e.incident
  associations : ∀ l ∈ e.associations, m.sourceEvents.lookup (e.id, l.sourceEventId.text) = some l

/-- The entry is in the report with the code for what keeps it out, and not in the target. -/
structure SetAside (b : MigrationBundle) (r : MigrationReport) (m : Memory) (e : MigrationEntry) :
    Prop where
  absent : m.incidents.lookup e.id = none
  reported : ∃ code, quarantineCode b.entries e = some code ∧ (e.id, code) ∈ r.setAside

theorem link_of_association {h : Host} {profile : SourceProfile} {e : MigrationEntry}
    {l : SourceEventAssociation} (member : l ∈ e.associations) :
    (e.arrival h profile).link (e.id, l.sourceEventId.text) = some l := by
  have bound : l.incidentId.text = e.id := congrArg (·.text) (e.bound l member)
  cases found : (e.arrival h profile).link (e.id, l.sourceEventId.text) with
  | none =>
    have missed := List.find?_eq_none.mp found l member
    simp [bound] at missed
  | some k =>
    have listed : k ∈ e.associations := List.mem_of_find?_eq_some found
    have key := List.find?_some found
    simp only [decide_eq_true_eq, Prod.mk.injEq] at key
    rw [List.inj_on_of_nodup_map e.distinct listed member (Text.Bounded.ext key.2)]

theorem arrivals_apart (h : Host) (b : MigrationBundle) :
    (b.arrivals h b.entries).Pairwise Arrival.Distinct := by
  have distinct := eligible_nodup b
  unfold List.Nodup at distinct
  rw [List.pairwise_map] at distinct
  rw [MigrationBundle.arrivals, List.pairwise_map]
  refine distinct.imp_of_mem fun {e f} first second apart => ?_
  obtain ⟨known, free⟩ := List.mem_filter.mp first
  obtain ⟨known', free'⟩ := List.mem_filter.mp second
  exact distinct_arrivals known known' (by simpa using free) (by simpa using free') apart

theorem nothing_replayed (h : Host) (b : MigrationBundle) :
    (b.tally h (contents {})).replayed = 0 := by
  have counts := settleAll_counts (MigrationEntry.outcome h b (contents {})) b.start
    (b.eligible b.entries)
  have welcome : ∀ e, MigrationEntry.outcome h b (contents {}) e = .imported :=
    fun e => empty_welcomes _
  have zero : b.start.imported = 0 ∧ b.start.replayed = 0 := ⟨rfl, rfl⟩
  simp only [welcome, conflictCode, reduceCtorEq, if_false, Option.isNone_none, decide_true,
    List.filter_true] at counts
  unfold MigrationBundle.tally
  omega

section
variable {ε : Type} {h : Host} {s : Source ε} {profile : String} {exportedAt : Instant}
  {b : MigrationBundle}

end

end NetworkAgent.Migration
