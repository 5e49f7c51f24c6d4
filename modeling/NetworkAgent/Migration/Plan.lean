import Mathlib.Data.List.Perm.Basic
import NetworkAgent.Migration.Import

/-! What the plan of a bundle says of one entry. It depends on the entries as a set, and the
entries that it leaves share no key. -/
namespace NetworkAgent.Migration

/-! Claimants. -/

section
variable {keys : MigrationEntry → List String} {entries others : List MigrationEntry}

theorem mem_claimants {key incidentId : String} :
    incidentId ∈ claimants keys entries key ↔ ∃ e ∈ entries, key ∈ keys e ∧ e.id = incidentId := by
  simp [claimants, and_assoc]

theorem claimants_perm (perm : entries.Perm others) (key : String) :
    (claimants keys entries key).Perm (claimants keys others key) :=
  ((perm.filter _).map _).dedup

theorem ambiguous_perm (perm : entries.Perm others) (incidentId : String) :
    Ambiguous keys entries incidentId ↔ Ambiguous keys others incidentId := by
  have claimed : ∀ key, key ∈ entries.flatMap keys ↔ key ∈ others.flatMap keys := by
    intro key
    simp only [List.mem_flatMap, perm.mem_iff]
  unfold Ambiguous
  refine exists_congr fun key => and_congr (claimed key) ?_
  rw [(claimants_perm perm key).mem_iff, (claimants_perm perm key).length_eq]

theorem ambiguous_of_shared {e f : MigrationEntry} (first : e ∈ entries) (second : f ∈ entries)
    (apart : e.id ≠ f.id) {key : String} (mine : key ∈ keys e) (other : key ∈ keys f) :
    Ambiguous keys entries e.id := by
  have claims : e.id ∈ claimants keys entries key := mem_claimants.mpr ⟨e, first, mine, rfl⟩
  have rival : f.id ∈ claimants keys entries key := mem_claimants.mpr ⟨f, second, other, rfl⟩
  refine ⟨key, List.mem_flatMap.mpr ⟨e, first, mine⟩, claims, ?_⟩
  match claimants keys entries key, claims, rival with
  | [only], claims, rival =>
    rw [List.mem_singleton] at claims rival
    exact absurd (claims.trans rival.symm) apart
  | _ :: _ :: _, _, _ => simp

end

/-! Eligible entries. -/

theorem quarantineCode_perm {entries others : List MigrationEntry} (perm : entries.Perm others)
    (e : MigrationEntry) : quarantineCode entries e = quarantineCode others e := by
  unfold quarantineCode
  simp only [ambiguous_perm perm]

def Eligible (entries : List MigrationEntry) (e : MigrationEntry) : Prop :=
  quarantineCode entries e = none

instance (entries : List MigrationEntry) (e : MigrationEntry) : Decidable (Eligible entries e) :=
  inferInstanceAs (Decidable (_ = _))

structure Unquarantined (entries : List MigrationEntry) (e : MigrationEntry) : Prop where
  sources : ¬ Ambiguous MigrationEntry.sourceIds entries e.id
  correlation : ¬ Ambiguous MigrationEntry.correlationKeys entries e.id
  detected : e.incident.status = .detected
  revision : e.incident.revision = 0
  provenance : e.incident.sourceEventIds ⊆ e.associations.map (·.sourceEventId)

theorem Eligible.unquarantined {entries : List MigrationEntry} {e : MigrationEntry}
    (eligible : Eligible entries e) : Unquarantined entries e := by
  unfold Eligible quarantineCode at eligible
  split at eligible
  · cases eligible
  · next sources =>
    split at eligible
    · cases eligible
    · next correlation =>
      split at eligible
      · cases eligible
      · split at eligible
        · cases eligible
        · next lifecycle =>
          split at eligible
          · cases eligible
          · next provenance =>
            simp only [ne_eq, not_or, not_not] at lifecycle provenance
            exact ⟨sources, correlation, lifecycle.1, lifecycle.2, provenance⟩

/-! Marked entries. -/

theorem find_entry {entries : List MigrationEntry} (distinct : (entries.map MigrationEntry.id).Nodup)
    {e : MigrationEntry} (member : e ∈ entries) :
    (entries.find? fun f => f.id = e.id) = some e := by
  induction entries with
  | nil => cases member
  | cons f rest ih =>
    obtain ⟨absent, distinct⟩ := List.nodup_cons.mp distinct
    rcases List.mem_cons.mp member with rfl | later
    · simp
    · have other : f.id ≠ e.id := fun same => absent (same ▸ List.mem_map_of_mem later)
      rw [List.find?_cons_of_neg (by simpa using other)]
      exact ih distinct later

section
variable {code : MigrationEntry → Option QuarantineCode} {entries : List MigrationEntry}

theorem lookup_mark {q : Quarantine} {e : MigrationEntry} {k : String} (other : k ≠ e.id) :
    (mark code q e).lookup k = q.lookup k := by
  unfold mark
  cases code e with
  | none => rfl
  | some found => exact AList.lookup_insert_ne other

theorem lookup_mark_self (q : Quarantine) (e : MigrationEntry) :
    (mark code q e).lookup e.id = (code e).or (q.lookup e.id) := by
  unfold mark
  cases found : code e <;> simp

theorem lookup_marks (q : Quarantine) (distinct : (entries.map MigrationEntry.id).Nodup)
    (k : String) : (entries.foldl (mark code) q).lookup k =
      ((entries.find? fun e => e.id = k).bind code).or (q.lookup k) := by
  induction entries generalizing q with
  | nil => simp
  | cons e rest ih =>
    obtain ⟨absent, distinct⟩ := List.nodup_cons.mp distinct
    rw [List.foldl_cons, ih _ distinct]
    by_cases own : e.id = k
    · have missing : (rest.find? fun e => e.id = k) = none := by
        refine List.find?_eq_none.mpr fun f member => ?_
        simp only [decide_eq_true_eq]
        exact fun same => absent (List.mem_map.mpr ⟨f, member, same.trans own.symm⟩)
      rw [missing, List.find?_cons_of_pos (by simpa using own)]
      subst own
      exact lookup_mark_self q e
    · rw [List.find?_cons_of_neg (by simpa using own), lookup_mark (Ne.symm own)]

theorem lookup_marks_of_mem {q : Quarantine} (distinct : (entries.map MigrationEntry.id).Nodup)
    {e : MigrationEntry} (member : e ∈ entries) :
    (entries.foldl (mark code) q).lookup e.id = (code e).or (q.lookup e.id) := by
  rw [lookup_marks q distinct, find_entry distinct member]
  rfl

theorem lookup_marks_of_notMem {q : Quarantine} (distinct : (entries.map MigrationEntry.id).Nodup)
    {k : String} (absent : ∀ e ∈ entries, e.id ≠ k) :
    (entries.foldl (mark code) q).lookup k = q.lookup k := by
  have missing : (entries.find? fun e => e.id = k) = none :=
    List.find?_eq_none.mpr fun f member => by simpa using absent f member
  rw [lookup_marks q distinct, missing]
  rfl

variable (code) in
theorem marks_size (q : Quarantine) (distinct : (entries.map MigrationEntry.id).Nodup)
    (fresh : ∀ e ∈ entries, e.id ∉ q) :
    (entries.foldl (mark code) q).entries.length + (entries.filter fun e => (code e).isNone).length =
      q.entries.length + entries.length := by
  induction entries generalizing q with
  | nil => rfl
  | cons e rest ih =>
    obtain ⟨absent, distinct⟩ := List.nodup_cons.mp distinct
    have others : ∀ f ∈ rest, f.id ∉ mark code q e := by
      intro f member
      have apart : f.id ≠ e.id := fun same => absent (same ▸ List.mem_map_of_mem member)
      rw [← AList.lookup_eq_none, lookup_mark apart, AList.lookup_eq_none]
      exact fresh f (List.mem_cons_of_mem _ member)
    have size := ih (mark code q e) distinct others
    rw [List.foldl_cons, List.length_cons]
    cases found : code e with
    | none =>
      have row : (mark code q e).entries.length = q.entries.length := by simp [mark, found]
      rw [List.filter_cons_of_pos (by simp [found]), List.length_cons]
      omega
    | some c =>
      have row : (mark code q e).entries.length = q.entries.length + 1 := by
        simp only [mark, found]
        rw [AList.entries_insert_of_notMem (fresh e List.mem_cons_self), List.length_cons]
      rw [List.filter_cons_of_neg (by simp [found])]
      omega

end

theorem lookup_plan {entries : List MigrationEntry}
    (distinct : (entries.map MigrationEntry.id).Nodup) {e : MigrationEntry} (member : e ∈ entries) :
    (quarantinePlan entries).lookup e.id = quarantineCode entries e := by
  rw [quarantinePlan, lookup_marks_of_mem distinct member]
  simp

theorem notMem_plan {entries : List MigrationEntry}
    (distinct : (entries.map MigrationEntry.id).Nodup) {e : MigrationEntry} (member : e ∈ entries) :
    e.id ∉ quarantinePlan entries ↔ Eligible entries e := by
  rw [← AList.lookup_eq_none, lookup_plan distinct member]
  rfl

end NetworkAgent.Migration
