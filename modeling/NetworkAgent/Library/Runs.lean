import Mathlib.Logic.Basic
import Mathlib.Data.List.Infix

/-! Runs of a step function, one input at a time. -/
namespace Runs
variable {S I : Type} (step : S → I → S)

def run (s : S) : List I → S
  | [] => s
  | i :: later => run (step s i) later

theorem run_append (s : S) (before after : List I) :
    run step s (before ++ after) = run step (run step s before) after := by
  induction before generalizing s with
  | nil => rfl
  | cons i rest ih => exact ih (step s i)

theorem run_invariant {P : S → Prop} (keeps : ∀ s i, P s → P (step s i)) {s : S} (start : P s)
    (inputs : List I) : P (run step s inputs) := by
  induction inputs generalizing s with
  | nil => exact start
  | cons i rest ih => exact ih (keeps s i start)

/-- A reflexive and transitive relation that every step respects, from states that satisfy
an invariant, relates the two ends of every run. -/
theorem run_relation {P : S → Prop} {R : S → S → Prop} (keeps : ∀ s i, P s → P (step s i))
    (refl : ∀ s, R s s) (trans : ∀ {a b c}, R a b → R b c → R a c)
    (moves : ∀ s i, P s → R s (step s i)) {s : S} (start : P s) (inputs : List I) :
    R s (run step s inputs) := by
  induction inputs generalizing s with
  | nil => exact refl s
  | cons i rest ih => exact trans (moves s i start) (ih (keeps s i start))

/-- Every step of the run meets the condition in the state it starts from. -/
def Along (C : S → I → Prop) (s : S) : List I → Prop
  | [] => True
  | i :: later => C s i ∧ Along C (step s i) later

theorem along_invariant {P : S → Prop} {C : S → I → Prop}
    (keeps : ∀ s i, P s → C s i → P (step s i)) {s : S} (start : P s) (inputs : List I)
    (meets : Along step C s inputs) : P (run step s inputs) := by
  induction inputs generalizing s with
  | nil => exact start
  | cons i rest ih => exact ih (keeps s i start meets.1) meets.2

theorem along_of_invariant {P : S → Prop} {C D : S → I → Prop}
    (keeps : ∀ s i, P s → C s i → P (step s i)) (meets : ∀ s i, P s → C s i → D s i) {s : S}
    (start : P s) (inputs : List I) (along : Along step C s inputs) : Along step D s inputs := by
  induction inputs generalizing s with
  | nil => trivial
  | cons i rest ih =>
    exact ⟨meets s i start along.1, ih (keeps s i start along.1) along.2⟩

theorem along_of_always {P : S → Prop} {D : S → I → Prop} (keeps : ∀ s i, P s → P (step s i))
    (meets : ∀ s i, P s → D s i) {s : S} (start : P s) (inputs : List I) :
    Along step D s inputs := by
  induction inputs generalizing s with
  | nil => trivial
  | cons i rest ih => exact ⟨meets s i start, ih (keeps s i start)⟩

theorem along_append {C : S → I → Prop} (s : S) (before after : List I) :
    Along step C s (before ++ after) ↔
      Along step C s before ∧ Along step C (run step s before) after := by
  induction before generalizing s with
  | nil => simp [Along, run]
  | cons i rest ih => simp [Along, run, ih, and_assoc]

/-- Where each step from a good state keeps it good exactly when it meets the condition, all
steps of a run meet it exactly when all states of the run are good. -/
theorem along_iff_prefixes {P Q : S → Prop} {C : S → I → Prop}
    (keeps : ∀ s i, Q s → Q (step s i)) (moves : ∀ s i, Q s → P s → (P (step s i) ↔ C s i))
    {s : S} (base : Q s) (start : P s) (inputs : List I) :
    Along step C s inputs ↔ ∀ reached, reached <+: inputs → P (run step s reached) := by
  induction inputs generalizing s with
  | nil => simpa [Along, run] using start
  | cons i rest ih =>
    constructor
    · rintro ⟨meets, along⟩ reached earlier
      rcases List.prefix_cons_iff.mp earlier with rfl | ⟨reached, rfl, shorter⟩
      · exact start
      · exact (ih (keeps s i base) ((moves s i base start).mpr meets)).mp along reached shorter
    · intro good
      have next : P (step s i) := good [i] ⟨rest, rfl⟩
      refine ⟨(moves s i base start).mp next, (ih (keeps s i base) next).mpr ?_⟩
      exact fun reached earlier => good (i :: reached) (List.prefix_cons_iff.mpr
        (.inr ⟨reached, rfl, earlier⟩))

instance Along.decidable {C : S → I → Prop} [∀ s i, Decidable (C s i)] :
    (s : S) → (inputs : List I) → Decidable (Along step C s inputs)
  | _, [] => inferInstanceAs (Decidable True)
  | s, i :: later =>
    have : Decidable (Along step C (step s i) later) := Along.decidable (step s i) later
    inferInstanceAs (Decidable (C s i ∧ Along step C (step s i) later))

/-- Some step of the run meets the condition in the state it starts from. -/
def Sometime (C : S → I → Prop) (s : S) : List I → Prop
  | [] => False
  | i :: later => C s i ∨ Sometime C (step s i) later

/-- What is so after a step exactly when it was so before or the step did it is so after a run
exactly when it was so before or some step did it. -/
theorem run_collects {P : S → Prop} {C : S → I → Prop}
    (moves : ∀ s i, P (step s i) ↔ P s ∨ C s i) (s : S) (inputs : List I) :
    P (run step s inputs) ↔ P s ∨ Sometime step C s inputs := by
  induction inputs generalizing s with
  | nil => simp [run, Sometime]
  | cons i rest ih => rw [run, ih, moves, Sometime, or_assoc]

end Runs
