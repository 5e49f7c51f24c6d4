import Mathlib.Data.Finset.Lattice.Lemmas
import Mathlib.Data.List.Perm.Basic
import NetworkAgent.Library.Checks

/-! Loops over rows that may fail: rows in batches, rows that are read before they count, and rows
that count under a key. -/
namespace Folding
open Checks

variable {ε S R E K V : Type}

theorem foldlM_nil {step : S → R → Except ε S} {s t : S} : [].foldlM step s = .ok t ↔ s = t := by
  simp [pure, Except.pure]

theorem foldlM_cons {step : S → R → Except ε S} {s t : S} {r : R} {rest : List R} :
    (r :: rest).foldlM step s = .ok t ↔ ∃ m, step s r = .ok m ∧ rest.foldlM step m = .ok t := by
  rw [List.foldlM_cons, bind_ok]

theorem foldlM_flatten (step : S → R → Except ε S) (batches : List (List R)) (s : S) :
    batches.foldlM (fun state batch => batch.foldlM step state) s =
      batches.flatten.foldlM step s := by
  induction batches generalizing s with
  | nil => rfl
  | cons batch rest ih =>
    rw [List.foldlM_cons, List.flatten_cons, List.foldlM_append]
    exact congrArg _ (funext ih)

theorem foldlM_read {step : S → R → Except ε S} {read : R → Except ε E}
    {use : S → E → Except ε S}
    (reads : ∀ s r m, step s r = .ok m ↔ ∃ e, read r = .ok e ∧ use s e = .ok m) {rows : List R}
    {s t : S} : rows.foldlM step s = .ok t ↔
      ∃ entries, rows.mapM read = .ok entries ∧ entries.foldlM use s = .ok t := by
  induction rows generalizing s with
  | nil => simp [pure, Except.pure]
  | cons r rest ih =>
    rw [foldlM_cons]
    constructor
    · rintro ⟨m, first, later⟩
      obtain ⟨e, entry, used⟩ := (reads s r m).mp first
      obtain ⟨entries, known, done⟩ := ih.mp later
      exact ⟨e :: entries, mapM_ok.mpr (.cons entry (mapM_ok.mp known)),
        foldlM_cons.mpr ⟨m, used, done⟩⟩
    · rintro ⟨entries, known, done⟩
      cases mapM_ok.mp known with
      | cons entry others =>
        obtain ⟨m, used, later⟩ := foldlM_cons.mp done
        exact ⟨m, (reads s _ m).mpr ⟨_, entry, used⟩, ih.mpr ⟨_, mapM_ok.mpr others, later⟩⟩

theorem mapM_perm {read : R → Except ε E} {xs ys : List R} {entries : List E} (perm : xs.Perm ys)
    (known : xs.mapM read = .ok entries) :
    ∃ others, ys.mapM read = .ok others ∧ others.Perm entries := by
  obtain ⟨others, read', same⟩ := List.perm_comp_forall₂ perm.symm (mapM_ok.mp known)
  exact ⟨others, mapM_ok.mpr read', same⟩

/-! Entries that count under a key. -/

@[ext] structure Buckets (K V : Type) where
  keys : Finset K
  states : K → V

section
variable [DecidableEq K] {key : E → K} {add : V → E → Except ε V} {b c : Buckets K V} {e : E}

def Buckets.set (b : Buckets K V) (k : K) (state : V) : Buckets K V :=
  ⟨insert k b.keys, Function.update b.states k state⟩

@[simp] theorem set_keys (k : K) (state : V) : (b.set k state).keys = insert k b.keys := rfl

@[simp] theorem set_states_self (k : K) (state : V) : (b.set k state).states k = state :=
  Function.update_self ..

theorem set_states_other {k other : K} (state : V) (differ : k ≠ other) :
    (b.set k state).states other = b.states other := Function.update_of_ne (Ne.symm differ) ..

def Buckets.record (key : E → K) (add : V → E → Except ε V) (b : Buckets K V) (e : E) :
    Except ε (Buckets K V) := do
  let state ← add (b.states (key e)) e
  return b.set (key e) state

theorem record_ok : b.record key add e = .ok c ↔
    ∃ state, add (b.states (key e)) e = .ok state ∧ b.set (key e) state = c := by
  simp only [Buckets.record, bind_ok, pure, Except.pure, Except.ok.injEq]

theorem foldlM_record {entries : List E} : entries.foldlM (Buckets.record key add) b = .ok c ↔
    c.keys = b.keys ∪ (entries.map key).toFinset ∧
      ∀ k, (entries.filter (key · = k)).foldlM add (b.states k) = .ok (c.states k) := by
  induction entries generalizing b with
  | nil =>
    rw [foldlM_nil, List.map_nil, List.toFinset_nil, Finset.union_empty]
    constructor
    · rintro rfl
      exact ⟨rfl, fun k => rfl⟩
    · rintro ⟨keys, states⟩
      exact Buckets.ext keys.symm (funext fun k => foldlM_nil.mp (states k))
  | cons e rest ih =>
    rw [foldlM_cons, List.map_cons, List.toFinset_cons]
    constructor
    · rintro ⟨m, first, later⟩
      obtain ⟨state, added, rfl⟩ := record_ok.mp first
      obtain ⟨keys, states⟩ := ih.mp later
      refine ⟨by rw [keys, set_keys, Finset.insert_union_comm], fun k => ?_⟩
      have others := states k
      by_cases same : key e = k
      · subst same
        rw [set_states_self] at others
        rw [List.filter_cons_of_pos (by simp)]
        exact foldlM_cons.mpr ⟨state, added, others⟩
      · rw [set_states_other _ same] at others
        rwa [List.filter_cons_of_neg (by simpa using same)]
    · rintro ⟨keys, states⟩
      have own := states (key e)
      rw [List.filter_cons_of_pos (by simp), foldlM_cons] at own
      obtain ⟨state, added, later⟩ := own
      refine ⟨_, record_ok.mpr ⟨state, added, rfl⟩, ih.mpr ⟨?_, fun k => ?_⟩⟩
      · rw [keys, set_keys, Finset.insert_union_comm]
      · by_cases same : key e = k
        · subst same
          rwa [set_states_self]
        · have others := states k
          rw [List.filter_cons_of_neg (by simpa using same)] at others
          rwa [set_states_other _ same]

end

end Folding
