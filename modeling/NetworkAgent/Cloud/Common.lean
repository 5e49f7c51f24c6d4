import NetworkAgent.Domain.Records
import NetworkAgent.Domain.Validation

/-! What the Spanner repositories check before they open a transaction. -/
namespace NetworkAgent.Cloud
open Checks (require)

/-- The printed reasons do not tell a privacy violation from an excessive depth. -/
inductive PolicyReason where
  | policy | size
  deriving DecidableEq

inductive InputError where
  | value (text : String)
  | unsafeWrite (boundary : String) (reason : PolicyReason)
  deriving DecidableEq

/-- `require_non_empty`: the stripped text, of a bounded length. -/
def requireNonEmpty (name value : String) (maxLength : Nat) :
    Except InputError (Text.Bounded isSpace maxLength) := do
  require (isBlank value = false) (.value (name ++ " must be a non-empty string"))
  match Text.Bounded.parse isSpace maxLength value with
  | some text => return text
  | none => .error (.value (name ++ " must be at most " ++ toString maxLength ++ " characters"))

def asIdentifier (text : Text.Bounded isSpace 256) : Identifier where
  text := text.text
  trimmed := by rw [← text.trimmed]; exact stripWhitespace_strip text.text
  nonempty := text.nonempty
  short := text.short

def requireInteger (name : String) (value minimum maximum : Int) : Except InputError Unit :=
  require (minimum ≤ value ∧ value ≤ maximum) (.value (name ++ " must be between " ++
    toString minimum ++ " and " ++ toString maximum))

def assertSafe (h : Host) (boundary : String) (value : Json) : Except InputError Unit :=
  match assertRepositorySafe h value with
  | .ok _ => .ok ()
  | .error .size => .error (.unsafeWrite boundary .size)
  | .error _ => .error (.unsafeWrite boundary .policy)

theorem assertSafe_ok {h : Host} {boundary : String} {value : Json} {u : Unit} :
    assertSafe h boundary value = .ok u ↔ RepositorySafe h value := by
  unfold assertSafe
  cases checked : assertRepositorySafe h value with
  | ok n => simp [(assertRepositorySafe_ok.mp checked).1]
  | error reason =>
    have not : ¬ RepositorySafe h value := fun safe => by
      rw [assertRepositorySafe_ok.mpr ⟨safe, rfl⟩] at checked
      cases checked
    cases reason <;> simp [not]

theorem text_of_requireNonEmpty {name value : String} {maxLength : Nat}
    {text : Text.Bounded isSpace maxLength}
    (passed : requireNonEmpty name value maxLength = .ok text) : text.text = strip value := by
  obtain ⟨_, parsed⟩ := Checks.seq_ok.mp passed
  split at parsed
  · next found => cases parsed; exact (Text.Bounded.parse_eq_some.mp found).symm
  · cases parsed

end NetworkAgent.Cloud
