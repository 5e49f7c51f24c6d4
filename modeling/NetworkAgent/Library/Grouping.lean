import Mathlib.Data.List.Basic
import Mathlib.Data.List.Nodup

/-! Values gathered under keys, in the order in which the keys first appear, and what such a
grouping knows of one key. -/
namespace Grouping
variable {K V α : Type} [DecidableEq K]

def update (key : K) (change : Option V → V) : List (K × V) → List (K × V)
  | [] => [(key, change none)]
  | (k, v) :: rest =>
    if k = key then (k, change (some v)) :: rest else (k, v) :: update key change rest

theorem lookup_pair (other k : K) (v : V) (rest : List (K × V)) :
    ((k, v) :: rest).lookup other = if other = k then some v else rest.lookup other := by
  rw [List.lookup_cons]
  by_cases same : other = k
  · simp [same]
  · have differ : (other == k) = false := by simpa using same
    simp [differ, same]

theorem lookup_update (key other : K) (change : Option V → V) (m : List (K × V)) :
    (update key change m).lookup other =
      if other = key then some (change (m.lookup key)) else m.lookup other := by
  induction m with
  | nil => simp [update, lookup_pair]
  | cons entry rest ih =>
    obtain ⟨k, v⟩ := entry
    by_cases here : k = key
    · subst here
      by_cases same : other = k
      · simp [update, same]
      · simp [update, lookup_pair, same]
    · have away : ¬ key = k := fun same => here same.symm
      by_cases first : other = k
      · simp [update, here, first]
      · simp [update, here, lookup_pair, first, away, ih]

theorem mem_keys_update {key other : K} {change : Option V → V} {m : List (K × V)} :
    other ∈ (update key change m).map Prod.fst ↔ other = key ∨ other ∈ m.map Prod.fst := by
  induction m with
  | nil => simp [update]
  | cons entry rest ih =>
    obtain ⟨k, v⟩ := entry
    by_cases here : k = key
    · simp [update, here]
    · rw [update, if_neg here, List.map_cons, List.mem_cons, ih, List.map_cons, List.mem_cons]
      exact or_left_comm

theorem nodup_update {key : K} {change : Option V → V} {m : List (K × V)}
    (distinct : (m.map Prod.fst).Nodup) : ((update key change m).map Prod.fst).Nodup := by
  induction m with
  | nil => simp [update]
  | cons entry rest ih =>
    obtain ⟨k, v⟩ := entry
    obtain ⟨fresh, later⟩ := List.nodup_cons.mp distinct
    by_cases here : k = key
    · simpa [update, here] using distinct
    · rw [update, if_neg here, List.map_cons, List.nodup_cons]
      refine ⟨fun member => ?_, ih later⟩
      rcases mem_keys_update.mp member with same | old
      · exact here same
      · exact fresh old

def group (key : α → K) (change : α → Option V → V) (xs : List α) : List (K × V) :=
  xs.foldl (fun m x => update (key x) (change x) m) []

section
variable (key : α → K) (change : α → Option V → V) (xs : List α)

theorem lookup_foldl (k : K) (m : List (K × V)) :
    (xs.foldl (fun m x => update (key x) (change x) m) m).lookup k =
      (xs.filter fun x => key x = k).foldl (fun o x => some (change x o)) (m.lookup k) := by
  induction xs generalizing m with
  | nil => rfl
  | cons x xs ih =>
    rw [List.foldl_cons, ih, lookup_update]
    by_cases here : key x = k
    · simp [here]
    · have away : ¬ k = key x := fun same => here same.symm
      simp [here, away]

theorem lookup_group (k : K) : (group key change xs).lookup k =
    (xs.filter fun x => key x = k).foldl (fun o x => some (change x o)) none :=
  lookup_foldl key change xs k []

theorem mem_keys_foldl {k : K} (m : List (K × V)) :
    k ∈ (xs.foldl (fun m x => update (key x) (change x) m) m).map Prod.fst ↔
      k ∈ m.map Prod.fst ∨ k ∈ xs.map key := by
  induction xs generalizing m with
  | nil => simp
  | cons x xs ih =>
    rw [List.foldl_cons, ih, mem_keys_update, List.map_cons, List.mem_cons, or_assoc, or_left_comm]

theorem mem_keys_group {k : K} : k ∈ (group key change xs).map Prod.fst ↔ k ∈ xs.map key := by
  rw [group, mem_keys_foldl]
  simp

theorem nodup_foldl (m : List (K × V)) (distinct : (m.map Prod.fst).Nodup) :
    ((xs.foldl (fun m x => update (key x) (change x) m) m).map Prod.fst).Nodup := by
  induction xs generalizing m with
  | nil => exact distinct
  | cons x xs ih => exact ih _ (nodup_update distinct)

theorem nodup_group : ((group key change xs).map Prod.fst).Nodup :=
  nodup_foldl key change xs [] List.nodup_nil

end

theorem foldl_getD {β : Type} (start : β) (step : α → β → β) (xs : List α) (o : Option β) :
    xs.foldl (fun o x => some (step x (o.getD start))) o =
      if xs = [] then o else some (xs.foldl (fun b x => step x b) (o.getD start)) := by
  induction xs generalizing o with
  | nil => rfl
  | cons x xs ih =>
    rw [List.foldl_cons, ih, if_neg (List.cons_ne_nil x xs)]
    by_cases done : xs = []
    · simp [done]
    · simp [done]

theorem foldl_append {β : Type} (f : α → β) (xs : List α) (ys : List β) :
    xs.foldl (fun b x => b ++ [f x]) ys = ys ++ xs.map f := by
  induction xs generalizing ys with
  | nil => simp
  | cons x xs ih => rw [List.foldl_cons, ih, List.append_assoc, List.map_cons, List.singleton_append]

end Grouping
