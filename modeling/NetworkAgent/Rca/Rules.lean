import NetworkAgent.Domain.Dump

/-! The versioned rules that the detector and the root-cause analysis share. -/
namespace NetworkAgent.Rca

/-- A value of a predicate or a fact. -/
inductive Scalar where
  | bool (b : Bool)
  | int (n : Int)
  | float (q : ℚ)
  | str (s : String)
  deriving DecidableEq

def Scalar.toJson : Scalar → Json
  | .bool b => .bool b
  | .int n => .int n
  | .float q => .float q
  | .str s => .str s

def compareNumbers : KpiComparator → ℚ → ℚ → Bool
  | .lessThan, x, y => decide (x < y)
  | .lessThanOrEqual, x, y => decide (x ≤ y)
  | .greaterThan, x, y => decide (y < x)
  | .greaterThanOrEqual, x, y => decide (y ≤ x)
  | .equal, x, y => decide (x = y)
  | .notEqual, x, y => decide (x ≠ y)

structure RuleDetection where
  kpiName : String
  comparator : KpiComparator
  threshold : ℚ
  unit : Option String := none
  maxGapMinutes : Nat
  deriving DecidableEq

structure FactPredicate where
  fact : String
  comparator : KpiComparator
  value : Scalar
  deriving DecidableEq

inductive Operator where
  | all | any
  deriving DecidableEq

def Operator.value : Operator → String
  | .all => "ALL" | .any => "ANY"

structure PredicateGroup where
  operator : Operator := .all
  predicates : List FactPredicate
  deriving DecidableEq

structure RuleAnalysis where
  evidenceTypes : List EvidenceType
  when' : PredicateGroup
  hypothesisZh : String
  rootCauseZh : String
  deriving DecidableEq

structure SeverityCase where
  when' : PredicateGroup
  severity : IncidentSeverity
  deriving DecidableEq

structure RuleSeverity where
  cases : List SeverityCase := []
  default : IncidentSeverity
  deriving DecidableEq

inductive RuleTechnology where
  | lte | fiveGSa
  deriving DecidableEq

def RuleTechnology.technology : RuleTechnology → Technology
  | .lte => .lte | .fiveGSa => .fiveGSa

structure RcaRule where
  ruleId : String
  version : String
  technology : RuleTechnology
  isCurrent : Bool
  descriptionZh : String
  detection : RuleDetection
  analysis : RuleAnalysis
  severity : RuleSeverity
  deriving DecidableEq

/-! What the validators of a rule accept. -/

def TextWithin (low high : Nat) (s : String) : Prop :=
  stripWhitespace s = s ∧ low ≤ s.length ∧ s.length ≤ high

def isLowerChar (c : Char) : Bool := 'a' ≤ c && c ≤ 'z'
def isDigitChar (c : Char) : Bool := '0' ≤ c && c ≤ '9'
def isNameChar (c : Char) : Bool :=
  isLowerChar c || isDigitChar c || c == '.' || c == '_' || c == '-'

/-- `_RULE_ID`, and `_FACT_NAME` where the first character is a letter. -/
def isName (first : Char → Bool) (s : String) : Bool :=
  match s.toList with
  | [] => false
  | c :: rest => first c && rest.all isNameChar && rest.length ≤ 127

def isRuleId (s : String) : Bool := isName (fun c => isLowerChar c || isDigitChar c) s
def isFactName (s : String) : Bool := isName isLowerChar s

def isVersionNumber (cs : List Char) : Bool :=
  cs == ['0'] || (cs.all isDigitChar && cs.head?.any (· ≠ '0'))

/-- A suffix of a version: at least one of `[0-9A-Za-z.-]` after the mark. -/
def isVersionSuffix : List Char → Bool
  | [] => true
  | _ :: suffix => suffix ≠ [] && suffix.all fun c =>
    isDigitChar c || isLowerChar c || ('A' ≤ c && c ≤ 'Z') || c == '.' || c == '-'

/-- `_SEMVER`: three numbers, then what follows the first hyphen, then the first plus sign. -/
def isSemver (s : String) : Bool :=
  let front := s.toList.takeWhile (· ≠ '+')
  let core := front.takeWhile (· ≠ '-')
  (core.splitOn '.').length = 3 && (core.splitOn '.').all isVersionNumber &&
    isVersionSuffix (front.dropWhile (· ≠ '-')) && isVersionSuffix (s.toList.dropWhile (· ≠ '+'))

set_option maxRecDepth 8000 in
example : isSemver "1.0.0-rc.1+build" = true ∧ isSemver "1.00.0" = false := by decide

def RuleDetection.Valid (d : RuleDetection) : Prop :=
  TextWithin 1 256 d.kpiName ∧ (∀ unit ∈ d.unit, TextWithin 0 128 unit) ∧ d.maxGapMinutes ≤ 10080

def FactPredicate.Valid (p : FactPredicate) : Prop :=
  isFactName p.fact = true ∧ ∀ s, p.value = .str s → stripWhitespace s = s ∧ s ≠ ""

def PredicateGroup.Valid (g : PredicateGroup) : Prop :=
  1 ≤ g.predicates.length ∧ g.predicates.length ≤ 32 ∧ ∀ p ∈ g.predicates, p.Valid

def RuleAnalysis.Valid (a : RuleAnalysis) : Prop :=
  1 ≤ a.evidenceTypes.length ∧ a.evidenceTypes.length ≤ 8 ∧ a.evidenceTypes.Nodup ∧
    (∀ t ∈ a.evidenceTypes, t = .metric ∨ t = .trace) ∧ a.when'.Valid ∧
    TextWithin 1 2048 a.hypothesisZh ∧ TextWithin 1 4096 a.rootCauseZh

def SeverityCase.Valid (c : SeverityCase) : Prop := c.when'.Valid ∧ c.severity ≠ .unknown

def RuleSeverity.Valid (s : RuleSeverity) : Prop :=
  s.cases.length ≤ 32 ∧ (∀ c ∈ s.cases, c.Valid) ∧ s.default ≠ .unknown

structure RcaRule.Valid (r : RcaRule) : Prop where
  ruleId : isRuleId r.ruleId = true
  version : isSemver r.version = true ∧ TextWithin 1 64 r.version
  description : TextWithin 1 4096 r.descriptionZh
  detection : r.detection.Valid
  analysis : r.analysis.Valid
  severity : r.severity.Valid

theorem RcaRule.Valid.ruleId_short {r : RcaRule} (valid : r.Valid) : r.ruleId.length ≤ 128 := by
  have name := valid.ruleId
  simp only [isRuleId, isName] at name
  rw [← String.length_toList]
  split at name
  · cases name
  · next c rest split =>
    simp only [Bool.and_eq_true, decide_eq_true_eq] at name
    rw [split, List.length_cons]
    omega

structure AvailableRule where
  rule : RcaRule
  valid : rule.Valid

/-! Python's `==` on rules: the value of a predicate is compared as a number where it is one. -/

/-- A flag and a whole float are the number they count as. -/
def Scalar.norm : Scalar → Scalar
  | .bool b => .float (if b then 1 else 0)
  | .int n => .float n
  | .float q => .float q
  | .str s => .str s

instance : PyEq FactPredicate where
  norm p := { p with value := p.value.norm }

instance : PyEq PredicateGroup where
  norm g := { g with predicates := g.predicates.map PyEq.norm }

instance : PyEq SeverityCase where
  norm c := { c with when' := PyEq.norm c.when' }

instance : PyEq RcaRule where
  norm r := { r with
    analysis := { r.analysis with when' := PyEq.norm r.analysis.when' }
    severity := { r.severity with cases := r.severity.cases.map PyEq.norm } }

def RuleDetection.toJson (d : RuleDetection) : Json := .obj
  [("kpi_name", .str d.kpiName), ("comparator", .str d.comparator.value),
   ("threshold", .float d.threshold), ("unit", optional .str d.unit),
   ("max_gap_minutes", .int d.maxGapMinutes)]

def FactPredicate.toJson (p : FactPredicate) : Json := .obj
  [("fact", .str p.fact), ("comparator", .str p.comparator.value), ("value", p.value.toJson)]

def PredicateGroup.toJson (g : PredicateGroup) : Json := .obj
  [("operator", .str g.operator.value), ("predicates", dumpList FactPredicate.toJson g.predicates)]

def RuleAnalysis.toJson (a : RuleAnalysis) : Json := .obj
  [("evidence_types", dumpList (fun t : EvidenceType => .str t.value) a.evidenceTypes),
   ("when", a.when'.toJson), ("hypothesis_zh", .str a.hypothesisZh),
   ("root_cause_zh", .str a.rootCauseZh)]

def SeverityCase.toJson (c : SeverityCase) : Json := .obj
  [("when", c.when'.toJson), ("severity", .str c.severity.value)]

def RuleSeverity.toJson (s : RuleSeverity) : Json := .obj
  [("cases", dumpList SeverityCase.toJson s.cases), ("default", .str s.default.value)]

def RcaRule.toJson (r : RcaRule) : Json := .obj
  [("schema_version", .str schemaVersion), ("rule_id", .str r.ruleId),
   ("version", .str r.version), ("technology", .str r.technology.technology.value),
   ("is_current", .bool r.isCurrent), ("description_zh", .str r.descriptionZh),
   ("detection", r.detection.toJson), ("analysis", r.analysis.toJson),
   ("severity", r.severity.toJson)]

/-- `rule_content_sha256`. -/
def RcaRule.contentSha256 (h : Host) (r : RcaRule) : Sha256.Digest :=
  h.sha256 (h.canonicalJson (.arr [.str "rca-rule-content-v1", r.toJson]))

def bubbleranReplayDetectorAlgorithm : String := "deterministic-bubbleran-replay-threshold-v1"
def bubbleranReplayRuleId : String := "5g-sa.bubbleran.persistent-interference.ul-bler"

end NetworkAgent.Rca
