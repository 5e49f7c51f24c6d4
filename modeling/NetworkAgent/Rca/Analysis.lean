import NetworkAgent.Rca.Facts
import NetworkAgent.Rca.Scope
import NetworkAgent.Rca.Similarity

/-! What an analysis computes from a snapshot and its facts: identifiers that digest content,
the predicates of a rule, the violation it matches and the severity it gives. -/
namespace NetworkAgent.Rca

def rcaEngineName : String := "deterministic-lte-rca"
def rcaEngineVersion : String := "1.0.0"

inductive AnalysisError where
  | naiveClock
  | privacy
  | repository (name : String)
  | telemetryLimit
  | notTelemetry
  | rules (error : ModelError)
  | evidence (error : RcaError)
  | history (error : SimilarityError)
  | overflow
  | textBudget
  | binding
  | payload (reason : UnsafeReason)
  deriving DecidableEq

/-- The texts that Python's formats give: `:g`, `:.4f`, and `str` of what is not a text. -/
structure Formats where
  general : ℚ → String
  fourDigits : ℚ → String
  str : Json → String

def RuleResolutionStatus.value : RuleResolutionStatus → String
  | .exact => "EXACT"
  | .partialProvenance => "PARTIAL"
  | .legacyUnversioned => "LEGACY_UNVERSIONED"
  | .conflict => "CONFLICT"
  | .notApplicable => "NOT_APPLICABLE"
  | .noViolations => "NO_VIOLATIONS"

def RuleResolutionIssue.toJson (r : RuleResolutionIssue) : Json := .obj
  [("violation_key", .str r.violationKey), ("code", .str r.code.value),
   ("rule_id", optional .str r.ruleId), ("rule_version", optional .str r.ruleVersion)]

/-! Texts and identifiers. -/

def clip (value : String) (limit : Nat) : String :=
  let normalized := joinTexts " " ((runsOf (fun c => !isSpace c) value.toList).map String.ofList)
  if normalized.length ≤ limit then normalized
  else String.ofList ((normalized.toList.take (limit - 1)).rdropWhile isSpace) ++ "…"

example : clip "a  b\nc" 9 = "a b c" ∧ clip "ab cd" 4 = "ab…" := by
  decide +kernel

/-- `_digest(value)[:32]`. -/
def shortDigest (h : Host) (value : Json) : String :=
  String.ofList ((h.stableHash value).text.toList.take 32)

def stableId (h : Host) (name : String) (value : Json) : String :=
  name ++ "-" ++ shortDigest h value

/-- `model_dump` without `collected_at`. -/
def EvidenceReference.contentPayload (e : EvidenceReference) : Json := .obj
  [("schema_version", .str schemaVersion), ("evidence_id", dumpId e.evidenceId),
   ("evidence_type", .str e.evidenceType.value), ("uri", dumpId e.uri),
   ("source", optional dumpId e.source), ("summary", optional .str e.summary),
   ("content_type", optional dumpId e.contentType),
   ("checksum_sha256", optional .str e.checksumSha256), ("attributes", .obj e.attributes)]

def contentDigest (h : Host) (e : EvidenceReference) : Json :=
  .str (h.stableHash (EvidenceReference.contentPayload e)).text

def evidenceContentIdentity (h : Host) (e : EvidenceReference) : Json := .obj
  [("evidence_id", dumpId e.evidenceId), ("content_sha256", contentDigest h e)]

/-! Predicates on facts. -/

/-- `float(n)` is too large for a binary64 number. -/
def Overflows (n : Int) : Prop := 2 ^ 1024 - 2 ^ 970 ≤ n.natAbs

instance (n : Int) : Decidable (Overflows n) := inferInstanceAs (Decidable (_ ≤ _))

/-- A number, and not a flag. -/
def numberOf : Json → Option (Except AnalysisError ℚ)
  | .int n => some (if Overflows n then .error .overflow else .ok n)
  | .float q => some (.ok q)
  | _ => none

def KpiComparator.isOrdering : KpiComparator → Bool
  | .equal | .notEqual => false
  | _ => true

/-- `==` of two values of one type. -/
def sameTyped : Json → Scalar → Option Bool
  | .bool a, .bool b => some (a == b)
  | .int a, .int b => some (a == b)
  | .float a, .float b => some (a == b)
  | .str a, .str b => some (a == b)
  | _, _ => none

def compareValues (left : Json) (c : KpiComparator) (right : Scalar) :
    Except AnalysisError Bool :=
  if KpiComparator.isOrdering c then
    match numberOf left, numberOf right.toJson with
    | some x, some y => do
      let x ← x
      let y ← y
      return compareNumbers c x y
    | _, _ => .ok false
  else .ok ((sameTyped left right).any fun same => same == (c == .equal))

def predicateMatches (facts : Dict) (p : FactPredicate) : Except AnalysisError Bool :=
  match facts.lookup p.fact with
  | some value => compareValues value p.comparator p.value
  | none => .ok false

def predicateGroupMatches (group : PredicateGroup) (facts : Dict) :
    Except AnalysisError Bool := do
  let results ← group.predicates.mapM (predicateMatches facts)
  return match group.operator with
    | .all => results.all id
    | .any => results.any id

def severityOfCases (facts : Dict) (default : IncidentSeverity) :
    List SeverityCase → Except AnalysisError IncidentSeverity
  | [] => .ok default
  | case' :: rest => do
    let applies ← predicateGroupMatches case'.when' facts
    if applies then return case'.severity else severityOfCases facts default rest

def severityForRule (rule : RcaRule) (facts : Dict) : Except AnalysisError IncidentSeverity :=
  severityOfCases facts rule.severity.default rule.severity.cases

def IncidentSeverity.rank : IncidentSeverity → Nat
  | .unknown => 0 | .info => 1 | .low => 2 | .medium => 3 | .high => 4 | .critical => 5

/-- The order of `(observed_value, violation_id or "")`. -/
def observedLe (a b : KpiViolation) : Bool :=
  if a.observedValue ≠ b.observedValue then decide (a.observedValue ≤ b.observedValue)
  else textLe (a.violationId.elim "" (·.text)) (b.violationId.elim "" (·.text))

/-- `_matched_violation`: the most extreme of the violations that the rule detects. -/
def matchedViolation (rule : RcaRule) (i : Incident) : Option KpiViolation :=
  let matching := i.violatedKpis.filter fun v => DetectionMatches rule v
  match rule.detection.comparator with
  | .greaterThan | .greaterThanOrEqual =>
    (matching.insertionSort fun a b => observedLe b a).head?
  | _ => (matching.insertionSort fun a b => observedLe a b).head?

end NetworkAgent.Rca
