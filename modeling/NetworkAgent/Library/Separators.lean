import Mathlib.Data.List.Basic

/-! Lists joined by a separator that the parts may themselves contain: two pairs have the same
joined list only when they are the same pair, or one of them moves a separator from one part to
the other. -/
namespace Separators
variable {α : Type} {sep : α}

/-- The second pair is the first with its separator moved to the right, past `middle`. -/
def Moves (sep : α) (a b a' b' : List α) : Prop :=
  ∃ middle, a' = a ++ sep :: middle ∧ b = middle ++ sep :: b'

def Shifted (sep : α) (a b a' b' : List α) : Prop := Moves sep a b a' b' ∨ Moves sep a' b' a b

theorem Moves.join_eq {a b a' b' : List α} (moves : Moves sep a b a' b') :
    a ++ sep :: b = a' ++ sep :: b' := by
  obtain ⟨middle, front, back⟩ := moves
  simp [front, back]

theorem Moves.ne {a b a' b' : List α} (moves : Moves sep a b a' b') : a ≠ a' := by
  obtain ⟨middle, front, -⟩ := moves
  intro same
  have lengths := congrArg List.length front
  simp only [same, List.length_append, List.length_cons] at lengths
  omega

theorem Shifted.join_eq {a b a' b' : List α} (shifted : Shifted sep a b a' b') :
    a ++ sep :: b = a' ++ sep :: b' := by
  rcases shifted with right | left
  · exact right.join_eq
  · exact left.join_eq.symm

theorem Shifted.ne {a b a' b' : List α} (shifted : Shifted sep a b a' b') : a ≠ a' := by
  rcases shifted with right | left
  · exact right.ne
  · exact left.ne.symm

theorem shifted_of_join_eq {a b a' b' : List α} (joined : a ++ sep :: b = a' ++ sep :: b')
    (other : a ≠ a') : Shifted sep a b a' b' := by
  induction a generalizing a' with
  | nil =>
    cases a' with
    | nil => exact absurd rfl other
    | cons x rest =>
      simp only [List.nil_append, List.cons_append, List.cons.injEq] at joined
      exact .inl ⟨rest, by simp [joined.1], joined.2⟩
  | cons x rest ih =>
    cases a' with
    | nil =>
      simp only [List.nil_append, List.cons_append, List.cons.injEq] at joined
      exact .inr ⟨rest, by simp [joined.1], joined.2.symm⟩
    | cons y rest' =>
      simp only [List.cons_append, List.cons.injEq] at joined
      have deeper := ih joined.2 fun same => other (by rw [joined.1, same])
      rcases deeper with ⟨middle, front, back⟩ | ⟨middle, front, back⟩
      · exact .inl ⟨middle, by simp [front, joined.1], back⟩
      · exact .inr ⟨middle, by simp [front, joined.1], back⟩

theorem join_eq_iff {a b a' b' : List α} :
    a ++ sep :: b = a' ++ sep :: b' ↔ (a = a' ∧ b = b') ∨ Shifted sep a b a' b' := by
  constructor
  · intro joined
    by_cases same : a = a'
    · subst same
      exact .inl ⟨rfl, by simpa using joined⟩
    · exact .inr (shifted_of_join_eq joined same)
  · rintro (⟨rfl, rfl⟩ | shifted)
    · rfl
    · exact shifted.join_eq

theorem join_eq_iff_of_not_shifted {a b a' b' : List α} (apart : ¬ Shifted sep a b a' b') :
    a ++ sep :: b = a' ++ sep :: b' ↔ a = a' ∧ b = b' := by
  rw [join_eq_iff, or_iff_left apart]

theorem join_eq_iff_of_not_mem {a b a' b' : List α} (clear : sep ∉ a) (clear' : sep ∉ a') :
    a ++ sep :: b = a' ++ sep :: b' ↔ a = a' ∧ b = b' := by
  apply join_eq_iff_of_not_shifted
  rintro (⟨middle, front, -⟩ | ⟨middle, front, -⟩)
  · exact clear' (by simp [front])
  · exact clear (by simp [front])

end Separators
