import Mathlib.Algebra.Order.Field.Basic
import Mathlib.Data.List.Basic
import Mathlib.Tactic.Linarith
import Mathlib.Tactic.Positivity
import Mathlib.Tactic.FieldSimp

/-! A token bucket over an ordered field. Tokens flow in at a rate up to a size, and every use
takes one. However the refills and the uses are ordered, an interval of length `t` sees at most
`size + rate * t` uses. -/
namespace TokenBucket
section
variable {F : Type} [LinearOrder F]

def within (first last : F) (times : List F) : Nat :=
  times.countP fun time => decide (first ≤ time ∧ time ≤ last)

theorem within_cons (first last time : F) (times : List F) :
    within first last (time :: times) =
      within first last times + if first ≤ time ∧ time ≤ last then 1 else 0 := by
  simp [within, List.countP_cons]

theorem within_of_past {first last later : F} {times : List F}
    (past : ∀ time ∈ times, time ≤ last) (longer : last ≤ later) :
    within first later times = within first last times := by
  apply List.countP_congr
  intro time member
  simp only [decide_eq_true_eq]
  exact ⟨fun inside => ⟨inside.1, past time member⟩, fun inside => ⟨inside.1, inside.2.trans longer⟩⟩

theorem within_of_later {first last now : F} {times : List F}
    (past : ∀ time ∈ times, time ≤ now) (later : now < first) : within first last times = 0 := by
  apply List.countP_eq_zero.mpr
  intro time member
  simp only [decide_eq_true_eq, not_and]
  exact fun inside => absurd (inside.trans (past time member)) (not_le_of_gt later)

end

variable {F : Type} [Field F] [LinearOrder F] [IsStrictOrderedRing F]

structure Rule (F : Type) [Field F] [LinearOrder F] where
  size : F
  rate : F
  one_le_size : 1 ≤ size
  rate_nonneg : 0 ≤ rate

/-- The tokens at the time of the last refill, and the times of the uses. -/
structure Bucket (F : Type) where
  tokens : F
  refilled : F
  taken : List F

def full (rule : Rule F) (now : F) : Bucket F := ⟨rule.size, now, []⟩

def refill (rule : Rule F) (now : F) (b : Bucket F) : Bucket F where
  tokens := min rule.size (b.tokens + (now - b.refilled) * rule.rate)
  refilled := now
  taken := b.taken

def take (b : Bucket F) : Bucket F where
  tokens := b.tokens - 1
  refilled := b.refilled
  taken := b.refilled :: b.taken

/-- What every bucket satisfies: with the tokens that are left, the uses since any time stay
below what flowed in since. -/
structure Sound (rule : Rule F) (b : Bucket F) : Prop where
  nonneg : 0 ≤ b.tokens
  le_size : b.tokens ≤ rule.size
  past : ∀ time ∈ b.taken, time ≤ b.refilled
  potential : ∀ first ≤ b.refilled, (within first b.refilled b.taken : F) + b.tokens ≤
    rule.size + rule.rate * (b.refilled - first)
  bounded : ∀ first last, first ≤ last →
    (within first last b.taken : F) ≤ rule.size + rule.rate * (last - first)

variable {rule : Rule F} {b : Bucket F}

theorem sound_full (rule : Rule F) (now : F) : Sound rule (full rule now) where
  nonneg := zero_le_one.trans rule.one_le_size
  le_size := le_rfl
  past _ member := nomatch member
  potential first earlier := by
    have flow := mul_nonneg rule.rate_nonneg (sub_nonneg.mpr earlier)
    simpa [full, within] using flow
  bounded first last order := by
    have flow := mul_nonneg rule.rate_nonneg (sub_nonneg.mpr order)
    have size := rule.one_le_size
    simp only [full, within, List.countP_nil, Nat.cast_zero]
    linarith

theorem Sound.refill (sound : Sound rule b) {now : F} (later : b.refilled ≤ now) :
    Sound rule (refill rule now b) := by
  have inflow : 0 ≤ (now - b.refilled) * rule.rate :=
    mul_nonneg (sub_nonneg.mpr later) rule.rate_nonneg
  refine ⟨?_, min_le_left _ _, fun time member => (sound.past time member).trans later, ?_,
    sound.bounded⟩
  · exact le_min (zero_le_one.trans rule.one_le_size) (add_nonneg sound.nonneg inflow)
  · intro first earlier
    change (within first now b.taken : F) + min rule.size _ ≤ _ + rule.rate * (now - first)
    rcases le_or_gt first b.refilled with known | fresh
    · rw [within_of_past sound.past later]
      have before := sound.potential first known
      have capped := min_le_right rule.size (b.tokens + (now - b.refilled) * rule.rate)
      linarith
    · rw [within_of_later sound.past fresh, Nat.cast_zero, zero_add]
      have flow := mul_nonneg rule.rate_nonneg (sub_nonneg.mpr earlier)
      exact (min_le_left _ _).trans (le_add_of_nonneg_right flow)

theorem Sound.take (sound : Sound rule b) (available : 1 ≤ b.tokens) : Sound rule (take b) := by
  have counted : ∀ first ≤ b.refilled,
      (within first b.refilled (b.refilled :: b.taken) : F) =
        within first b.refilled b.taken + 1 := by
    intro first earlier
    rw [within_cons, if_pos ⟨earlier, le_rfl⟩, Nat.cast_add, Nat.cast_one]
  refine ⟨sub_nonneg.mpr available, ?_, ?_, ?_, ?_⟩
  · have size := sound.le_size
    simp only [TokenBucket.take]
    linarith
  · intro time member
    rcases List.mem_cons.mp member with rfl | earlier
    · exact le_rfl
    · exact sound.past time earlier
  · intro first earlier
    have before := sound.potential first earlier
    simp only [TokenBucket.take]
    rw [counted first earlier]
    linarith
  · intro first last order
    simp only [TokenBucket.take]
    by_cases inside : first ≤ b.refilled ∧ b.refilled ≤ last
    · rw [within_cons, if_pos inside, Nat.cast_add, Nat.cast_one,
        within_of_past sound.past inside.2]
      have before := sound.potential first inside.1
      have longer := mul_le_mul_of_nonneg_left (sub_le_sub_right inside.2 first) rule.rate_nonneg
      linarith
    · rw [within_cons, if_neg inside, Nat.add_zero]
      exact sound.bounded first last order

theorem one_le_refill {now : F} (positive : 0 < rule.rate)
    (waited : b.refilled + (1 - b.tokens) / rule.rate ≤ now) : 1 ≤ (refill rule now b).tokens := by
  refine le_min rule.one_le_size ?_
  have rest : (1 - b.tokens) / rule.rate ≤ now - b.refilled := by linarith
  have flow := (div_le_iff₀ positive).mp rest
  linarith

end TokenBucket
