import NetworkAgent.Library.Rounding
import NetworkAgent.Lab.Telemetry

/-! The scaling of a metric: a product of 28 digits that is then rounded to an integer. -/
namespace NetworkAgent.Lab.Telemetry
open Rounding

theorem nearest_roundHalfEven (x : ℚ) : Nearest x (roundHalfEven x) := by
  have low := Int.floor_le x
  have high := Int.lt_floor_add_one x
  unfold roundHalfEven Nearest
  dsimp only
  split
  · rename_i below
    have size : x - ⌊x⌋ ≤ 1 / 2 := below.elim (fun less => less.le) fun half => half.1.le
    rw [abs_of_nonneg (by linarith)]
    refine ⟨size, fun half => ?_⟩
    rcases below with less | ⟨-, even⟩
    · exact absurd half less.ne
    · exact Int.even_iff.mpr even
  · rename_i above
    rw [not_or, not_lt, not_and] at above
    push_cast
    rw [abs_of_nonpos (by linarith)]
    refine ⟨by linarith, fun half => ?_⟩
    have odd := above.2 (by linarith)
    exact Int.even_iff.mpr (by omega)

theorem roundHalfEven_int (n : Int) : roundHalfEven n = n :=
  nearest_unique (nearest_roundHalfEven n) (nearest_self n)

/-! Rounding to 28 digits. -/

def lastDigit (digits : Nat) (x : ℚ) : ℚ := 10 ^ (Int.log 10 |x| + 1 - digits)

theorem roundSignificant_eq {digits : Nat} {x : ℚ} (nonzero : x ≠ 0) :
    roundSignificant digits x = roundHalfEven (x / lastDigit digits x) * lastDigit digits x :=
  if_neg nonzero

theorem lastDigit_pos (digits : Nat) (x : ℚ) : 0 < lastDigit digits x := zpow_pos (by norm_num) _

theorem lastDigit_le {x : ℚ} (nonzero : x ≠ 0) : lastDigit 28 x * 10 ^ 27 ≤ |x| := by
  have size := Int.zpow_log_le_self (b := 10) (by norm_num) (abs_pos.mpr nonzero)
  have split : lastDigit 28 x * 10 ^ 27 = 10 ^ Int.log 10 |x| := by
    rw [lastDigit, ← zpow_natCast (10 : ℚ) 27, ← zpow_add₀ (by norm_num)]
    congr 1
    push_cast
    ring
  rw [split]
  exact_mod_cast size

theorem roundSignificant_close {x : ℚ} (nonzero : x ≠ 0) :
    |x - roundSignificant 28 x| * (2 * 10 ^ 27) ≤ |x| := by
  have positive := lastDigit_pos 28 x
  have near := (nearest_roundHalfEven (x / lastDigit 28 x)).1
  have moved : |x - roundSignificant 28 x| ≤ 1 / 2 * lastDigit 28 x := by
    have scaled : x - roundSignificant 28 x =
        (x / lastDigit 28 x - roundHalfEven (x / lastDigit 28 x)) * lastDigit 28 x := by
      rw [roundSignificant_eq nonzero, sub_mul, div_mul_cancel₀ x positive.ne']
    rw [scaled, abs_mul, abs_of_pos positive]
    exact mul_le_mul_of_nonneg_right near positive.le
  have size := lastDigit_le nonzero
  linarith

theorem roundSignificant_kept {digits : Nat} {x : ℚ} {n : Int}
    (whole : x = n * lastDigit digits x) : roundSignificant digits x = x := by
  by_cases zero : x = 0
  · rw [roundSignificant, if_pos zero, zero]
  · have positive := lastDigit_pos digits x
    have quotient : x / lastDigit digits x = n := (div_eq_iff positive.ne').mpr whole
    rw [roundSignificant_eq zero, quotient, roundHalfEven_int, ← whole]

/-- Halves below `10 ^ 19` take 20 digits at most. -/
theorem half_kept {x : ℚ} {k : Int} (half : x = k + 1 / 2) (small : |x| < 10 ^ 19) :
    roundSignificant 28 x = x := by
  have nonzero : x ≠ 0 := by
    rintro rfl
    have double : (2 * k + 1 : ℚ) = 0 := by linarith
    norm_cast at double
    omega
  have log : Int.log 10 |x| < 19 := by
    rw [← Int.lt_zpow_iff_log_lt (by norm_num) (abs_pos.mpr nonzero)]
    exact_mod_cast small
  obtain ⟨j, size⟩ : ∃ j : Nat, Int.log 10 |x| = 26 - j := ⟨(26 - Int.log 10 |x|).toNat, by omega⟩
  have unit : lastDigit 28 x * 10 ^ (j + 1) = 1 := by
    rw [lastDigit, size, ← zpow_natCast (10 : ℚ) (j + 1), ← zpow_add₀ (by norm_num)]
    rw [show (26 - (j : Int) + 1 - (28 : Nat) + (j + 1 : Nat)) = 0 by push_cast; ring, zpow_zero]
  have ten : (10 : ℚ) ^ (j + 1) = 10 * 10 ^ j := pow_succ' _ _
  refine roundSignificant_kept (n := (2 * k + 1) * 5 * 10 ^ j) ?_
  calc x = x * (lastDigit 28 x * 10 ^ (j + 1)) := by rw [unit, mul_one]
    _ = ((2 * k + 1) * 5 * 10 ^ j : Int) * lastDigit 28 x := by
      rw [half, ten]
      push_cast
      ring

/-! The scaled value of a float. -/

theorem metricScale_eq : metricScale = 2 ^ 6 * 5 ^ 6 := by norm_num [metricScale]

theorem scaled_fraction (v : Binary64) : ∃ (g : Nat) (m : Int), 1 ≤ g ∧
    v.value * metricScale * 2 ^ g = m ∧ (g = 1 ∨ |v.value * metricScale| * 2 ^ g < 10 ^ 21) := by
  have exponents : v.value * metricScale =
      (v.significand * 5 ^ 6 : Int) * (2 : ℚ) ^ (v.exponent + 6) := by
    rw [Binary64.value, metricScale_eq, zpow_add₀ (by norm_num)]
    push_cast
    norm_cast
    ring
  by_cases fraction : v.exponent + 6 < 0
  · obtain ⟨g, size⟩ : ∃ g : Nat, v.exponent + 6 = -g := ⟨(-(v.exponent + 6)).toNat, by omega⟩
    have cancelled : v.value * metricScale * 2 ^ g = (v.significand * 5 ^ 6 : Int) := by
      rw [exponents, size, zpow_neg, zpow_natCast, mul_assoc, inv_mul_cancel₀ (by positivity),
        mul_one]
    have power : (0 : ℚ) < 2 ^ g := by positivity
    refine ⟨g, _, by omega, cancelled, .inr ?_⟩
    rw [← abs_of_pos power, ← abs_mul, cancelled]
    have bits := v.bits
    have small : |v.significand * 5 ^ 6| < 10 ^ 21 := by
      rw [abs_mul, abs_of_pos (by norm_num : (0 : Int) < 5 ^ 6)]
      omega
    exact_mod_cast small
  · obtain ⟨j, size⟩ : ∃ j : Nat, v.exponent + 6 = j := ⟨(v.exponent + 6).toNat, by omega⟩
    refine ⟨1, v.significand * 5 ^ 6 * 2 ^ j * 2, by omega, ?_, .inl rfl⟩
    rw [exponents, size, zpow_natCast]
    push_cast
    ring

theorem half_beyond {v : Binary64} (small : |v.value * metricScale| < 10 ^ 19) {k : Int}
    (other : v.value * metricScale ≠ k + 1 / 2) :
    |v.value * metricScale - roundSignificant 28 (v.value * metricScale)| <
      |v.value * metricScale - (k + 1 / 2)| := by
  by_cases zero : v.value * metricScale = 0
  · rw [zero] at other ⊢
    rw [roundSignificant, if_pos rfl, sub_zero, abs_zero]
    exact abs_pos.mpr (sub_ne_zero.mpr other)
  · obtain ⟨g, m, positive, fraction, size⟩ := scaled_fraction v
    have step := half_apart positive fraction other
    have close := roundSignificant_close zero
    have power : (0 : ℚ) < 2 ^ g := by positivity
    refine lt_of_mul_lt_mul_right (lt_of_lt_of_le ?_ step) power.le
    have bounded : |v.value * metricScale| * 2 ^ g < 10 ^ 21 := by
      rcases size with rfl | bounded
      · linarith
      · exact bounded
    have scaled := mul_le_mul_of_nonneg_right close power.le
    nlinarith

/-- A metric that is returned is the integer nearest to a million times the exact value. -/
theorem scaled_metric_exact {v : Binary64} {n : Int} (returned : scaledMetric (.finite v) = .ok n)
    (m : Int) : Nearest (v.value * metricScale) m ↔ m = n := by
  obtain ⟨limit, same⟩ := Checks.seq_ok.mp returned
  have result : roundHalfEven (roundSignificant 28 (v.value * metricScale)) = n :=
    Except.ok.inj same
  rw [Checks.require_ok, result] at limit
  have near : Nearest (roundSignificant 28 (v.value * metricScale)) n :=
    result ▸ nearest_roundHalfEven _
  have small : |v.value * metricScale| < 10 ^ 19 := by
    by_cases zero : v.value * metricScale = 0
    · rw [zero, abs_zero]
      norm_num
    · have close := roundSignificant_close zero
      have bound : |(n : ℚ)| ≤ 10 ^ 18 := by exact_mod_cast limit
      have first := abs_sub_abs_le_abs_sub (v.value * metricScale)
        (roundSignificant 28 (v.value * metricScale))
      have second := abs_sub_abs_le_abs_sub (roundSignificant 28 (v.value * metricScale)) n
      have third := near.1
      linarith
  have nearest : Nearest (v.value * metricScale) n :=
    nearest_of_nearest near (fun k half => half_kept half small)
      fun k other => half_beyond small other
  exact ⟨fun other => nearest_unique other nearest, fun same => same ▸ nearest⟩

/-- A tie: one part in 128 is 7812.5 millionths. -/
def part : Binary64 := ⟨1, -7, by decide, by decide⟩

theorem scaled_part : scaledMetric (.finite part) = .ok 7812 := by decide +kernel

theorem scaled_metric_exact_sample : Nearest (part.value * metricScale) 7812 ∧
    ¬Nearest (part.value * metricScale) 7813 :=
  ⟨(scaled_metric_exact scaled_part 7812).mpr rfl, fun other =>
    absurd ((scaled_metric_exact scaled_part 7813).mp other) (by decide)⟩

end NetworkAgent.Lab.Telemetry
