import NetworkAgent.Domain.Privacy

/-! The checks that every validator of the supervisor's boundary is made of: the fields of an
object, and the shape and the bounds of one value. -/
namespace NetworkAgent.Supervisor

def maxCanonicalBytes : Nat := 256000
def maxCanonicalDepth : Nat := 24
def maxTextChars : Nat := 4096
def maxIdChars : Nat := 256

/-- What a text is read as by `datetime.fromisoformat`: a clock reading, with its distance from
UTC in microseconds where the text names one. -/
structure Moment where
  clock : Instant
  offset : Option Int

/-- What the standard library supplies besides the host: the readers of timestamps and of JSON
texts, the value of a decimal digit, and the text of a value. -/
structure Python extends Host where
  fromisoformat : String → Option Moment
  loads : String → Option Json
  digitValue : Char → Option Nat
  str : Json → String

/-- The library on texts in ASCII; the one timestamp it reads is the start of 2026. -/
def Python.ascii : Python where
  toHost := Host.ascii
  fromisoformat s := if s = "2026-01-01T00:00:00+00:00" then some ⟨1767225600000000, some 0⟩ else none
  loads _ := none
  digitValue c := if c.isDigit then some (c.toNat - '0'.toNat) else none
  str _ := ""

/-- An `A2AContentError`, or the error of looking a container up in a set. -/
inductive ContentError where
  | invalid (message : String)
  | notHashable
  deriving DecidableEq

abbrev Check := Except ContentError

/-- The value of a key, or the default where the key is missing. -/
def fieldOr (fallback : Json) (key : String) (fields : Dict) : Json :=
  (Json.get? key fields).getD fallback

def field (key : String) (fields : Dict) : Json := fieldOr .null key fields

/-! One value. -/

def IsIdentifier : Json → Prop
  | .str s => s ≠ "" ∧ s.length ≤ maxIdChars
  | _ => False

instance : DecidablePred IsIdentifier := fun value => match value with
  | .str _ => inferInstanceAs (Decidable (_ ∧ _))
  | .null | .bool _ | .int _ | .float _ | .arr _ | .obj _ => inferInstanceAs (Decidable False)

def IsTextValue (maximum : Nat) (allowEmpty : Bool) : Json → Prop
  | .str s => s.length ≤ maximum ∧ (allowEmpty = true ∨ s ≠ "")
  | _ => False

instance (maximum : Nat) (allowEmpty : Bool) : DecidablePred (IsTextValue maximum allowEmpty) :=
  fun value => match value with
  | .str _ => inferInstanceAs (Decidable (_ ∧ _))
  | .null | .bool _ | .int _ | .float _ | .arr _ | .obj _ => inferInstanceAs (Decidable False)

def IsInteger (minimum : Int) (maximum : Option Int) : Json → Prop
  | .int n => minimum ≤ n ∧ ∀ top ∈ maximum, n ≤ top
  | _ => False

instance (minimum : Int) (maximum : Option Int) : DecidablePred (IsInteger minimum maximum) :=
  fun value => match value with
  | .int _ => inferInstanceAs (Decidable (_ ∧ _))
  | .null | .bool _ | .str _ | .float _ | .arr _ | .obj _ => inferInstanceAs (Decidable False)

def isNumber : Json → Bool
  | .int _ | .float _ => true
  | _ => false

def isBool : Json → Bool
  | .bool _ => true
  | _ => false

def isObject : Json → Bool
  | .obj _ => true
  | _ => false

def isLowerHex (c : Char) : Bool := "0123456789abcdef".toList.contains c

def IsSha256 : Json → Prop
  | .str s => s.length = 64 ∧ s.toList.all isLowerHex
  | _ => False

instance : DecidablePred IsSha256 := fun value => match value with
  | .str _ => inferInstanceAs (Decidable (_ ∧ _))
  | .null | .bool _ | .int _ | .float _ | .arr _ | .obj _ => inferInstanceAs (Decidable False)

def orInvalid (condition : Prop) [Decidable condition] (label : String) : Check Unit :=
  Checks.require condition (.invalid (label ++ " is invalid"))

def identifier (label : String) (value : Json) : Check Unit := orInvalid (IsIdentifier value) label

def optionalIdentifier (label : String) (value : Json) : Check Unit :=
  orInvalid (value = .null ∨ IsIdentifier value) label

def textValue (label : String) (value : Json) (maximum : Nat := maxTextChars)
    (allowEmpty : Bool := true) : Check Unit :=
  orInvalid (IsTextValue maximum allowEmpty value) label

def optionalText (label : String) (value : Json) (maximum : Nat := maxTextChars) : Check Unit :=
  orInvalid (value = .null ∨ IsTextValue maximum true value) label

def integer (label : String) (value : Json) (minimum : Int) (maximum : Option Int := none) :
    Check Unit := orInvalid (IsInteger minimum maximum value) label

def number (label : String) (value : Json) : Check Unit := orInvalid (isNumber value) label

def sha256Value (label : String) (value : Json) : Check Unit := orInvalid (IsSha256 value) label

def optionalSha256 (label : String) (value : Json) : Check Unit :=
  orInvalid (value = .null ∨ IsSha256 value) label

def jsonMapping (label : String) (value : Json) : Check Unit := orInvalid (isObject value) label

def oneOf (label : String) (allowed : List String) (value : Json) : Check Unit :=
  match value with
  | .str s => orInvalid (s ∈ allowed) label
  | .arr _ | .obj _ => .error .notHashable
  | _ => .error (.invalid (label ++ " is invalid"))

/-! Lists and mappings. -/

def listValue (label : String) (value : Json) (maximum : Option Nat := none) : Check (List Json) :=
  match value with
  | .arr items => do
    Checks.require (∀ top ∈ maximum, items.length ≤ top) (.invalid (label ++ " is invalid"))
    return items
  | _ => .error (.invalid (label ++ " is invalid"))

def listOf (label : String) (check : Json → Check Unit) (value : Json)
    (maximum : Option Nat := none) : Check Unit := do
  let items ← listValue label value maximum
  Checks.each check items

def stringList (label : String) (value : Json) (identifiers : Bool := false)
    (maximum : Option Nat := none) : Check Unit := do
  let items ← listValue label value maximum
  Checks.each (fun item => if identifiers then identifier label item else textValue label item) items
  Checks.require items.Nodup (.invalid (label ++ " contains duplicates"))

def stringMapping (label : String) (value : Json) : Check Unit := match value with
  | .obj fields => Checks.each (fun f => do
      textValue (label ++ " key") (.str f.1) maxIdChars
      textValue (label ++ " value") f.2) fields
  | _ => .error (.invalid (label ++ " is invalid"))

/-! The fields of an object. -/

def keys (fields : Dict) : List String := fields.map Prod.fst

def strictObject (label : String) (expected : List String) (value : Json) : Check Dict :=
  match value with
  | .obj fields => do
    Checks.require (keys fields ⊆ expected ∧ expected ⊆ keys fields)
      (.invalid (label ++ " has invalid fields"))
    return fields
  | _ => .error (.invalid (label ++ " has invalid fields"))

def allowedObject (label : String) (allowed required : List String) (value : Json) : Check Dict :=
  match value with
  | .obj fields => do
    Checks.require (keys fields ⊆ allowed ∧ required ⊆ keys fields)
      (.invalid (label ++ " has invalid fields"))
    return fields
  | _ => .error (.invalid (label ++ " has invalid fields"))

def versionedObject (label : String) (allowed required : List String) (value : Json) :
    Check Dict := do
  let fields ← allowedObject label allowed required value
  Checks.require (fieldOr (.str "1.0") "schema_version" fields = .str "1.0")
    (.invalid (label ++ " has invalid schema_version"))
  return fields

/-! Timestamps. -/

/-- `value.replace("Z", "+00:00")`. -/
def spellZone (s : String) : String :=
  String.ofList (s.toList.flatMap fun c => if c = 'Z' then "+00:00".toList else [c])

/-- `_parse_utc_iso`: a text of bounded length that names a moment in UTC. -/
def parseUtcIso (p : Python) (fieldName : String) (value : Json) : Check Instant :=
  let invalid : Check Instant := .error (.invalid (fieldName ++ " must be a UTC timestamp"))
  match value with
  | .str s =>
    if s ≠ "" ∧ s.length ≤ maxIdChars then
      match p.fromisoformat (spellZone s) with
      | some ⟨clock, some 0⟩ => .ok clock
      | _ => invalid
    else invalid
  | _ => invalid

def optionalUtcIso (p : Python) (fieldName : String) (value : Json) : Check Unit :=
  if value = .null then .ok () else do
    let _ ← parseUtcIso p fieldName value
    return ()

def daysInMicros (days : Nat) : Int := days * 86400000000

/-- `_utc_pair`: both ends or neither, in order, and no further apart than the limit. -/
def utcPair (p : Python) (label : String) (startValue endValue : Json)
    (maximumDays : Option Nat := none) : Check Unit := do
  Checks.require (startValue = .null ↔ endValue = .null)
    (.invalid (label ++ " window must be provided together"))
  if startValue = .null then return ()
  else
    let first ← parseUtcIso p (label ++ "_start") startValue
    let last ← parseUtcIso p (label ++ "_end") endValue
    Checks.require (first ≤ last) (.invalid (label ++ " window has invalid order"))
    Checks.require (∀ days ∈ maximumDays, last - first ≤ daysInMicros days)
      (.invalid (label ++ " window exceeds the limit"))

end NetworkAgent.Supervisor
