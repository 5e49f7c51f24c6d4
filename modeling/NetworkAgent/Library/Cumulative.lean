import Mathlib.Data.List.Basic
import Mathlib.Order.Bounds.Basic

/-! Cumulative acknowledgement: the highest number up to which everything after a start has been
acknowledged, kept while acknowledgements come repeated and out of order. -/
namespace Cumulative

/-- How far everything is acknowledged, and what is acknowledged ahead of that. -/
structure Window where
  reached : ℕ
  ahead : List ℕ
  deriving DecidableEq

/-- Move over the numbers that follow; each step removes one of those ahead. -/
def Window.advance (w : Window) : ℕ → Window
  | 0 => w
  | fuel + 1 =>
    if w.reached + 1 ∈ w.ahead then
      Window.advance ⟨w.reached + 1, w.ahead.erase (w.reached + 1)⟩ fuel
    else w

/-- A number is acknowledged: it is remembered if it is ahead, and the window moves on. -/
def Window.acknowledge (w : Window) (number : ℕ) : Window :=
  let ahead := if w.reached < number ∧ number ∉ w.ahead then number :: w.ahead else w.ahead
  Window.advance ⟨w.reached, ahead⟩ ahead.length

/-- The window stands for the numbers that were acknowledged after the start. -/
structure Holds (start : ℕ) (acknowledged : List ℕ) (w : Window) : Prop where
  begins : start ≤ w.reached
  covered : ∀ n, start < n → n ≤ w.reached → n ∈ acknowledged
  ahead : ∀ n, n ∈ w.ahead ↔ n ∈ acknowledged ∧ w.reached < n
  nodup : w.ahead.Nodup

structure Settled (start : ℕ) (acknowledged : List ℕ) (w : Window) : Prop
    extends Holds start acknowledged w where
  stops : w.reached + 1 ∉ acknowledged

section
variable {start : ℕ} {acknowledged : List ℕ} {w : Window}

theorem Holds.step (holds : Holds start acknowledged w) (next : w.reached + 1 ∈ w.ahead) :
    Holds start acknowledged ⟨w.reached + 1, w.ahead.erase (w.reached + 1)⟩ where
  begins := Nat.le_succ_of_le holds.begins
  covered n after upTo := by
    rcases Nat.lt_or_eq_of_le upTo with before | rfl
    · exact holds.covered n after (Nat.lt_succ_iff.mp before)
    · exact ((holds.ahead _).mp next).1
  ahead n := by
    rw [holds.nodup.mem_erase_iff, holds.ahead]
    constructor
    · rintro ⟨other, known, later⟩
      exact ⟨known, Nat.lt_of_le_of_ne later (Ne.symm other)⟩
    · rintro ⟨known, later⟩
      exact ⟨Nat.ne_of_gt later, known, Nat.lt_of_succ_lt later⟩
  nodup := holds.nodup.erase _

theorem Holds.advance {fuel : ℕ} (holds : Holds start acknowledged w)
    (enough : w.ahead.length ≤ fuel) : Settled start acknowledged (w.advance fuel) := by
  induction fuel generalizing w with
  | zero =>
    have none : w.ahead = [] := List.length_eq_zero_iff.mp (Nat.le_zero.mp enough)
    refine ⟨holds, fun known => ?_⟩
    have member := (holds.ahead _).mpr ⟨known, Nat.lt_succ_self _⟩
    rw [none] at member
    cases member
  | succ fuel ih =>
    rw [Window.advance]
    split
    · next member =>
      refine ih (holds.step member) ?_
      have shorter := List.length_erase_of_mem member
      dsimp only
      omega
    · next absent =>
      exact ⟨holds, fun known => absent ((holds.ahead _).mpr ⟨known, Nat.lt_succ_self _⟩)⟩

theorem settled_start (start : ℕ) : Settled start [] ⟨start, []⟩ where
  begins := le_refl _
  covered n after upTo := absurd after (Nat.not_lt.mpr upTo)
  ahead n := by simp
  nodup := .nil
  stops := List.not_mem_nil

theorem Settled.acknowledge (settled : Settled start acknowledged w) (number : ℕ) :
    Settled start (acknowledged ++ [number]) (w.acknowledge number) := by
  apply Holds.advance _ (le_refl _)
  refine ⟨settled.begins, fun n after upTo =>
    List.mem_append_left _ (settled.covered n after upTo), fun n => ?_, ?_⟩
  · dsimp only
    split
    · next new =>
      rw [List.mem_cons, settled.ahead, List.mem_append, List.mem_singleton]
      constructor
      · rintro (rfl | ⟨known, later⟩)
        · exact ⟨.inr rfl, new.1⟩
        · exact ⟨.inl known, later⟩
      · rintro ⟨known | rfl, later⟩
        · exact .inr ⟨known, later⟩
        · exact .inl rfl
    · next old =>
      rw [settled.ahead, List.mem_append, List.mem_singleton]
      refine ⟨fun ⟨known, later⟩ => ⟨.inl known, later⟩, ?_⟩
      rintro ⟨known | rfl, later⟩
      · exact ⟨known, later⟩
      · have member := not_not.mp fun absent => old ⟨later, absent⟩
        exact (settled.ahead n).mp member
  · dsimp only
    split
    · next new => exact List.nodup_cons.mpr ⟨new.2, settled.nodup⟩
    · exact settled.nodup

theorem Settled.isGreatest (settled : Settled start acknowledged w) :
    IsGreatest {n | start ≤ n ∧ ∀ s, start < s → s ≤ n → s ∈ acknowledged} w.reached := by
  refine ⟨⟨settled.begins, settled.covered⟩, ?_⟩
  rintro n ⟨_, all⟩
  by_contra beyond
  exact settled.stops (all _ (Nat.lt_succ_of_le settled.begins) (Nat.not_le.mp beyond))

theorem Settled.reached_mem (settled : Settled start acknowledged w) (moved : start < w.reached) :
    w.reached ∈ acknowledged := settled.covered _ moved (le_refl _)

end

end Cumulative
