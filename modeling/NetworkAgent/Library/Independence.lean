import Mathlib.Data.List.Perm.Basic
import NetworkAgent.Library.Runs

/-! Runs of steps that do not disturb each other. Each step reports an outcome; two steps are
independent when they commute and neither changes the other's outcome, on the states of an
invariant. A run of independent steps depends on the set of its steps only. -/
namespace Independence
variable {S I O : Type} (step : S → I → S) (outcome : S → I → O) (P : S → Prop)

/-- The second step gives the same outcome after the first one, and the same state in either
order. -/
structure Apart (i j : I) : Prop where
  commute : ∀ s, P s → step (step s i) j = step (step s j) i
  blind : ∀ s, P s → outcome (step s i) j = outcome s j

def AllApart (inputs : List I) : Prop :=
  ∀ i ∈ inputs, ∀ j ∈ inputs, i ≠ j → Apart step outcome P i j

theorem AllApart.erase {step : S → I → S} {outcome : S → I → O} {P : S → Prop} [DecidableEq I]
    {inputs : List I} {i : I} (apart : AllApart step outcome P inputs) (member : i ∈ inputs)
    (distinct : inputs.Nodup) :
    ∀ j ∈ inputs.erase i, Apart step outcome P j i := by
  intro j later
  obtain ⟨other, known⟩ := (List.Nodup.mem_erase_iff distinct).mp later
  exact apart j known i member other

section
variable {step outcome P} {inputs others : List I} (keeps : ∀ s i, P s → P (step s i))
include keeps

theorem run_blind {j : I} (apart : ∀ i ∈ inputs, Apart step outcome P i j) {s : S} (start : P s) :
    outcome (Runs.run step s inputs) j = outcome s j := by
  induction inputs generalizing s with
  | nil => rfl
  | cons i rest ih =>
    have later := ih (fun k member => apart k (List.mem_cons_of_mem _ member)) (keeps s i start)
    exact later.trans ((apart i List.mem_cons_self).blind s start)

theorem run_commute {j : I} (apart : ∀ i ∈ inputs, Apart step outcome P i j) {s : S} (start : P s) :
    step (Runs.run step s inputs) j = Runs.run step (step s j) inputs := by
  induction inputs generalizing s with
  | nil => rfl
  | cons i rest ih =>
    have later := ih (fun k member => apart k (List.mem_cons_of_mem _ member)) (keeps s i start)
    rw [Runs.run, later, (apart i List.mem_cons_self).commute s start]
    rfl

theorem run_perm (perm : inputs.Perm others) (distinct : inputs.Nodup)
    (apart : AllApart step outcome P inputs) {s : S} (start : P s) :
    Runs.run step s inputs = Runs.run step s others := by
  induction perm generalizing s with
  | nil => rfl
  | cons i _ ih =>
    refine ih (List.nodup_cons.mp distinct).2 (fun j first k second => ?_) (keeps s i start)
    exact apart j (List.mem_cons_of_mem _ first) k (List.mem_cons_of_mem _ second)
  | swap i j rest =>
    have other : j ≠ i := by
      rintro rfl
      exact (List.nodup_cons.mp distinct).1 List.mem_cons_self
    have commute := (apart j List.mem_cons_self i
      (List.mem_cons_of_mem _ List.mem_cons_self) other).commute s start
    rw [Runs.run, Runs.run, Runs.run, Runs.run, commute]
  | trans first _ ih ih' =>
    have moved : AllApart step outcome P _ := fun i member j member' =>
      apart i (first.mem_iff.mpr member) j (first.mem_iff.mpr member')
    exact (ih distinct apart start).trans (ih' (first.nodup_iff.mp distinct) moved start)

theorem run_first [DecidableEq I] {i : I} (member : i ∈ inputs) (distinct : inputs.Nodup)
    (apart : AllApart step outcome P inputs) {s : S} (start : P s) :
    Runs.run step s inputs = Runs.run step (step s i) (inputs.erase i) :=
  run_perm keeps (List.perm_cons_erase member) distinct apart start

theorem run_settled [DecidableEq I] {i : I} (member : i ∈ inputs) (distinct : inputs.Nodup)
    (apart : AllApart step outcome P inputs) {s : S} (start : P s) :
    outcome (Runs.run step s inputs) i = outcome (step s i) i := by
  rw [run_first keeps member distinct apart start]
  exact run_blind keeps (apart.erase member distinct) (keeps s i start)

variable (idempotent : ∀ s i, P s → step (step s i) i = step s i)
include idempotent

theorem run_stationary [DecidableEq I] {i : I} (member : i ∈ inputs) (distinct : inputs.Nodup)
    (apart : AllApart step outcome P inputs) {s : S} (start : P s) :
    step (Runs.run step s inputs) i = Runs.run step s inputs := by
  rw [run_first keeps member distinct apart start,
    run_commute keeps (apart.erase member distinct) (keeps s i start),
    idempotent s i start]

theorem run_again [DecidableEq I] (distinct : inputs.Nodup)
    (apart : AllApart step outcome P inputs) {s : S} (start : P s) {again : List I}
    (made : again ⊆ inputs) :
    Runs.run step (Runs.run step s inputs) again = Runs.run step s inputs := by
  induction again with
  | nil => rfl
  | cons i rest ih =>
    rw [Runs.run, run_stationary keeps idempotent (made List.mem_cons_self) distinct apart start]
    exact ih fun j member => made (List.mem_cons_of_mem _ member)

theorem run_restarted [DecidableEq I] {before after : List I} (distinct : (before ++ after).Nodup)
    (apart : AllApart step outcome P (before ++ after)) {s : S} (start : P s) :
    Runs.run step (Runs.run step s before) (before ++ after) =
      Runs.run step s (before ++ after) := by
  have inner : AllApart step outcome P before := fun i first j second =>
    apart i (List.mem_append_left _ first) j (List.mem_append_left _ second)
  have repeated : Runs.run step (Runs.run step s before) before = Runs.run step s before :=
    run_again keeps idempotent (List.nodup_append.mp distinct).1 inner start
      fun _ member => member
  rw [Runs.run_append, repeated, ← Runs.run_append]

end
end Independence
