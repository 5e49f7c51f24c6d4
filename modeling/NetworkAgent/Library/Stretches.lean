import Mathlib.Data.Int.Order.Basic
import Mathlib.Data.Set.Insert

/-! Maximal runs of consecutive integers in a set, and how a new largest element changes them. -/
namespace Stretches

/-- All integers from `a` to `b` are in the set, the next ones on both sides are not. -/
structure Run (s : Set ℤ) (a b : ℤ) : Prop where
  ordered : a ≤ b
  inside : ∀ x, a ≤ x → x ≤ b → x ∈ s
  before : a - 1 ∉ s
  after : b + 1 ∉ s

variable {s : Set ℤ} {a b c d t : ℤ}

theorem Run.first (run : Run s a b) : a ∈ s := run.inside a le_rfl run.ordered

theorem Run.last (run : Run s a b) : b ∈ s := run.inside b run.ordered le_rfl

theorem Run.unique (run : Run s a b) (other : Run s c d) {x : ℤ} (low : a ≤ x) (high : x ≤ b)
    (low' : c ≤ x) (high' : x ≤ d) : a = c ∧ b = d := by
  constructor
  · rcases lt_trichotomy a c with less | same | more
    · exact absurd (run.inside (c - 1) (by omega) (by omega)) other.before
    · exact same
    · exact absurd (other.inside (a - 1) (by omega) (by omega)) run.before
  · rcases lt_trichotomy b d with less | same | more
    · exact absurd (other.inside (b + 1) (by omega) (by omega)) run.after
    · exact same
    · exact absurd (run.inside (d + 1) (by omega) (by omega)) other.after

theorem run_extend (run : Run s a b) (largest : ∀ x ∈ s, x ≤ b) :
    Run (insert (b + 1) s) c d ↔ c = a ∧ d = b + 1 ∨ Run s c d ∧ ¬ (c = a ∧ d = b) := by
  constructor
  · intro longer
    rcases eq_or_lt_of_le (show d ≤ b + 1 by
      rcases Set.mem_insert_iff.mp longer.last with same | old
      · exact same.le
      · have := largest d old
        omega) with same | less
    · left
      refine ⟨?_, same⟩
      have below : a - 1 ∉ insert (b + 1) s := by
        rintro (high | inside)
        · have := run.ordered
          omega
        · exact run.before inside
      rcases lt_trichotomy c a with early | here | late
      · exact absurd (longer.inside (a - 1) (by omega) (by have := run.ordered; omega)) below
      · exact here
      · have inside : c - 1 ∈ s := by
          refine run.inside (c - 1) (by omega) ?_
          have := longer.ordered
          omega
        exact absurd (Set.mem_insert_of_mem _ inside) longer.before
    · right
      have old : Run s c d := by
        refine ⟨longer.ordered, fun x low high => ?_,
          fun member => longer.before (Set.mem_insert_of_mem _ member),
          fun member => longer.after (Set.mem_insert_of_mem _ member)⟩
        rcases Set.mem_insert_iff.mp (longer.inside x low high) with same | inside
        · omega
        · exact inside
      refine ⟨old, fun same => longer.after ?_⟩
      rw [same.2]
      exact Set.mem_insert _ _
  · rintro (⟨rfl, rfl⟩ | ⟨old, other⟩)
    · refine ⟨by have := run.ordered; omega, fun x low high => ?_, ?_, ?_⟩
      · rcases eq_or_lt_of_le high with rfl | less
        · exact Set.mem_insert _ _
        · exact Set.mem_insert_of_mem _ (run.inside x low (by omega))
      · rintro (high | inside)
        · have := run.ordered
          omega
        · exact run.before inside
      · rintro (same | inside)
        · omega
        · have := largest _ inside
          omega
    · have low := largest d old.last
      have short : d ≠ b := by
        rintro rfl
        exact other ⟨(old.unique run old.ordered le_rfl run.ordered le_rfl).1, rfl⟩
      refine ⟨old.ordered, fun x low high => Set.mem_insert_of_mem _ (old.inside x low high), ?_, ?_⟩
      · rintro (high | inside)
        · have := old.ordered
          omega
        · exact old.before inside
      · rintro (high | inside)
        · omega
        · exact old.after inside

theorem run_open (gap : ∀ x ∈ s, x + 1 < t) :
    Run (insert t s) c d ↔ c = t ∧ d = t ∨ Run s c d := by
  have apart : ∀ x ∈ s, x ≠ t ∧ x ≠ t - 1 := fun x member => by
    have := gap x member
    omega
  constructor
  · intro run
    rcases Set.mem_insert_iff.mp run.last with same | old
    · left
      refine ⟨?_, same⟩
      rcases lt_trichotomy c t with early | here | late
      · rcases Set.mem_insert_iff.mp (run.inside (t - 1) (by omega) (by omega)) with here | inside
        · omega
        · exact absurd rfl (apart _ inside).2
      · exact here
      · have := run.ordered
        omega
    · right
      have low := gap d old
      refine ⟨run.ordered, fun x low high => ?_,
        fun member => run.before (Set.mem_insert_of_mem _ member),
        fun member => run.after (Set.mem_insert_of_mem _ member)⟩
      rcases Set.mem_insert_iff.mp (run.inside x low high) with same | inside
      · omega
      · exact inside
  · rintro (⟨rfl, rfl⟩ | run)
    · refine ⟨le_rfl, fun x low high => ?_, ?_, ?_⟩
      · rw [le_antisymm high low]
        exact Set.mem_insert _ _
      · rintro (same | inside)
        · omega
        · exact (apart _ inside).2 rfl
      · rintro (same | inside)
        · omega
        · have := gap _ inside
          omega
    · have low := gap d run.last
      refine ⟨run.ordered, fun x low high => Set.mem_insert_of_mem _ (run.inside x low high), ?_, ?_⟩
      · rintro (same | inside)
        · have := run.ordered
          omega
        · exact run.before inside
      · rintro (same | inside)
        · omega
        · exact run.after inside

end Stretches
