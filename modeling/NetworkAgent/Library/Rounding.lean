import Mathlib.Algebra.Order.Field.Basic
import Mathlib.Algebra.Ring.Int.Parity
import Mathlib.Tactic.Linarith
import Mathlib.Tactic.Ring

/-! The integer nearest to a number, and two roundings one after the other. -/
namespace Rounding
variable {K : Type} [Field K] [LinearOrder K] [IsStrictOrderedRing K]

/-- The integer nearest to a number, and the even one of two. -/
def Nearest (x : K) (n : Int) : Prop := |x - n| ≤ 1 / 2 ∧ (|x - n| = 1 / 2 → Even n)

theorem nearest_self (n : Int) : Nearest (n : K) n := by
  rw [Nearest, sub_self, abs_zero]
  exact ⟨by norm_num, fun half => absurd half (by norm_num)⟩

theorem nearest_unique {x : K} {m n : Int} (first : Nearest x m) (second : Nearest x n) : m = n := by
  have low := abs_le.mp first.1
  have high := abs_le.mp second.1
  have above : (n : K) - m ≤ 1 := by linarith
  have below : (m : K) - n ≤ 1 := by linarith
  norm_cast at above below
  rcases lt_trichotomy m n with less | same | more
  · have step : n = m + 1 := by omega
    subst step
    push_cast at high
    have half : |x - m| = 1 / 2 := abs_eq (by norm_num) |>.mpr (.inl (by linarith))
    have half' : |x - (m + 1 : Int)| = 1 / 2 :=
      abs_eq (by norm_num) |>.mpr (.inr (by push_cast; linarith))
    obtain ⟨a, even⟩ := first.2 half
    obtain ⟨b, even'⟩ := second.2 half'
    omega
  · exact same
  · have step : m = n + 1 := by omega
    subst step
    push_cast at low
    have half : |x - n| = 1 / 2 := abs_eq (by norm_num) |>.mpr (.inl (by linarith))
    have half' : |x - (n + 1 : Int)| = 1 / 2 :=
      abs_eq (by norm_num) |>.mpr (.inr (by push_cast; linarith))
    obtain ⟨a, even⟩ := second.2 half
    obtain ⟨b, even'⟩ := first.2 half'
    omega

/-- A first rounding does not change what the second gives, where it keeps the numbers half way
between integers and moves no other number as far as one of them. -/
theorem nearest_of_nearest {x y : K} {n : Int} (near : Nearest y n)
    (kept : ∀ k : Int, x = k + 1 / 2 → y = x)
    (apart : ∀ k : Int, x ≠ k + 1 / 2 → |x - y| < |x - (k + 1 / 2)|) : Nearest x n := by
  by_cases half : ∃ k : Int, x = k + 1 / 2
  · obtain ⟨k, half⟩ := half
    exact kept k half ▸ near
  · rw [not_exists] at half
    have bounds := abs_le.mp near.1
    have above : x < n + 1 / 2 := by
      refine lt_of_le_of_ne (not_lt.mp fun beyond => ?_) (half n)
      have moved := apart n (half n)
      rw [abs_of_pos (sub_pos.mpr beyond), abs_of_pos (by linarith)] at moved
      linarith
    have below : n - 1 / 2 < x := by
      have other := half (n - 1)
      push_cast at other
      refine lt_of_le_of_ne (not_lt.mp fun beyond => ?_) fun same => other (by linarith)
      have moved := apart (n - 1) (half (n - 1))
      push_cast at moved
      rw [abs_of_neg (by linarith), abs_of_neg (by linarith)] at moved
      linarith
    have inside : |x - n| < 1 / 2 := abs_lt.mpr ⟨by linarith, by linarith⟩
    exact ⟨inside.le, fun same => absurd same inside.ne⟩

theorem half_apart {x : K} {m : Int} {g : Nat} (positive : 1 ≤ g) (fraction : x * 2 ^ g = m)
    {k : Int} (other : x ≠ k + 1 / 2) : 1 ≤ |x - (k + 1 / 2)| * 2 ^ g := by
  obtain ⟨g, rfl⟩ := Nat.exists_eq_add_of_le' positive
  have power : (0 : K) < 2 ^ (g + 1) := by positivity
  have whole : (x - (k + 1 / 2)) * 2 ^ (g + 1) = ((m - (2 * k + 1) * 2 ^ g : Int) : K) := by
    push_cast
    rw [← fraction, pow_succ]
    ring
  have nonzero : m - (2 * k + 1) * 2 ^ g ≠ 0 := by
    intro zero
    rw [zero, Int.cast_zero] at whole
    exact other (sub_eq_zero.mp ((mul_eq_zero.mp whole).resolve_right power.ne'))
  rw [← abs_of_pos power, ← abs_mul, whole]
  exact_mod_cast Int.one_le_abs nonzero

end Rounding
