import NetworkAgent.Library.Checks

/-! Two computations side by side: they fail together, with related errors, or answer together,
with related values. -/
namespace Checks

theorem ok_bind {ε α β : Type} (a : α) (f : α → Except ε β) : (.ok a >>= f) = f a := rfl

inductive Lockstep {ε ε' α β : Type} (E : ε → ε' → Prop) (R : α → β → Prop) :
    Except ε α → Except ε' β → Prop
  | ok {a : α} {b : β} (related : R a b) : Lockstep E R (.ok a) (.ok b)
  | error {e : ε} {e' : ε'} (related : E e e') : Lockstep E R (.error e) (.error e')

namespace Lockstep
variable {ε ε' α β α' β' : Type} {E : ε → ε' → Prop} {R : α → β → Prop} {S : α' → β' → Prop}

theorem bind {x : Except ε α} {y : Except ε' β} {f : α → Except ε α'} {g : β → Except ε' β'}
    (first : Lockstep E R x y)
    (later : ∀ a b, R a b → x = .ok a → y = .ok b → Lockstep E S (f a) (g b)) :
    Lockstep E S (x >>= f) (y >>= g) := by
  cases first with
  | ok related => exact later _ _ related rfl rfl
  | error related => exact .error related

theorem require {condition condition' : Prop} [Decidable condition] [Decidable condition'] {e : ε}
    {e' : ε'} (same : condition ↔ condition') (related : E e e') :
    Lockstep E (fun _ _ => True) (Checks.require condition e) (Checks.require condition' e') := by
  by_cases holds : condition
  · rw [Checks.require, Checks.require, if_pos holds, if_pos (same.mp holds)]
    exact .ok trivial
  · rw [Checks.require, Checks.require, if_neg holds, if_neg fun other => holds (same.mpr other)]
    exact .error related

theorem of_ok_iff {x : Except ε α} {y : Except ε' β} {K : ε → Prop} {P : ε' → Prop}
    (forth : ∀ a, x = .ok a → ∃ b, y = .ok b ∧ R a b) (back : ∀ b, y = .ok b → ∃ a, x = .ok a)
    (left : FailsWith K x) (right : FailsWith P y) (related : ∀ e e', K e → P e' → E e e') :
    Lockstep E R x y := by
  cases x with
  | ok a =>
    obtain ⟨b, rfl, pair⟩ := forth a rfl
    exact .ok pair
  | error e =>
    cases y with
    | ok b => exact nomatch back b rfl
    | error e' => exact .error (related e e' (left e rfl) (right e' rfl))

end Lockstep

end Checks
