import Mathlib.Algebra.BigOperators.Group.List.Basic
import Mathlib.Algebra.GroupWithZero.Nat
import NetworkAgent.Library.Checks

/-! Adding up amounts, one at a time, until a limit is passed. -/
namespace Budget
open Checks (require)
variable {ε α : Type}

def spend (limit : Nat) (error : ε) (total amount : Nat) : Except ε Nat := do
  require (total + amount ≤ limit) error
  return total + amount

def total (limit : Nat) (error : ε) (amount : α → Except ε Nat) (start : Nat) (xs : List α) :
    Except ε Nat :=
  xs.foldlM (fun spent x => do spend limit error spent (← amount x)) start

theorem total_ok {limit : Nat} {error : ε} {amount : α → Except ε Nat} {xs : List α}
    (value : α → Nat) (known : ∀ x ∈ xs, amount x = .ok (value x)) {start answer : Nat} :
    total limit error amount start xs = .ok answer ↔
      (xs = [] ∨ start + (xs.map value).sum ≤ limit) ∧ answer = start + (xs.map value).sum := by
  induction xs generalizing start with
  | nil => simp [total, pure, Except.pure, eq_comm]
  | cons x rest ih =>
    have step : total limit error amount start (x :: rest) =
        spend limit error start (value x) >>= fun spent => total limit error amount spent rest := by
      rw [total, List.foldlM_cons, known x List.mem_cons_self]
      rfl
    have later := fun y member => known y (List.mem_cons_of_mem _ member)
    rw [step, Checks.bind_ok, List.map_cons, List.sum_cons]
    constructor
    · rintro ⟨spent, paid, done⟩
      obtain ⟨within, same⟩ := Checks.seq_ok.mp paid
      cases same
      obtain ⟨bound, rfl⟩ := (ih later).mp done
      have within := Checks.require_ok.mp within
      refine ⟨.inr ?_, by omega⟩
      rcases bound with rfl | bound
      · simpa using within
      · omega
    · rintro ⟨bound, rfl⟩
      have bound := bound.resolve_left (by simp)
      refine ⟨start + value x, Checks.seq_ok.mpr ⟨Checks.require_ok.mpr (by omega), rfl⟩, ?_⟩
      exact (ih later).mpr ⟨.inr (by omega), by omega⟩

end Budget
