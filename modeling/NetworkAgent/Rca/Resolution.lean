import NetworkAgent.Library.Table
import NetworkAgent.Library.Sorting
import NetworkAgent.Domain.Validation
import NetworkAgent.Rca.Rules

/-! Which of the available rules an incident names. The resolver collects an issue for every
reference it does not trust, and never guesses a rule. -/
namespace NetworkAgent.Rca
open Checks (require)

inductive RuleResolutionStatus where
  | exact | partialProvenance | legacyUnversioned | conflict | notApplicable | noViolations
  deriving DecidableEq

inductive IssueCode where
  | legacyUnversioned | partialProvenance | incidentVersionMissing | incidentVersionConflict
  | ruleVersionNotFound | duplicateRuleVersion | detectorAlgorithmMismatch | kpiMismatch
  | unitMismatch | thresholdMismatch | comparatorMismatch | ruleContentHashMissing
  | ruleContentHashInvalid | ruleContentHashAmbiguous | ruleContentMismatch
  | unreferencedRuleContentHash | observationNotViolation | unreferencedIncidentRule
  deriving DecidableEq

def IssueCode.value : IssueCode → String
  | .legacyUnversioned => "LEGACY_UNVERSIONED"
  | .partialProvenance => "PARTIAL_PROVENANCE"
  | .incidentVersionMissing => "INCIDENT_VERSION_MISSING"
  | .incidentVersionConflict => "INCIDENT_VERSION_CONFLICT"
  | .ruleVersionNotFound => "RULE_VERSION_NOT_FOUND"
  | .duplicateRuleVersion => "DUPLICATE_RULE_VERSION"
  | .detectorAlgorithmMismatch => "DETECTOR_ALGORITHM_MISMATCH"
  | .kpiMismatch => "KPI_MISMATCH"
  | .unitMismatch => "UNIT_MISMATCH"
  | .thresholdMismatch => "THRESHOLD_MISMATCH"
  | .comparatorMismatch => "COMPARATOR_MISMATCH"
  | .ruleContentHashMissing => "RULE_CONTENT_HASH_MISSING"
  | .ruleContentHashInvalid => "RULE_CONTENT_HASH_INVALID"
  | .ruleContentHashAmbiguous => "RULE_CONTENT_HASH_AMBIGUOUS"
  | .ruleContentMismatch => "RULE_CONTENT_MISMATCH"
  | .unreferencedRuleContentHash => "UNREFERENCED_RULE_CONTENT_HASH"
  | .observationNotViolation => "OBSERVATION_NOT_VIOLATION"
  | .unreferencedIncidentRule => "UNREFERENCED_INCIDENT_RULE"

/-! Issues. -/

structure Draft where
  index : Nat
  code : IssueCode
  ruleId : Option String
  ruleVersion : Option String

structure RuleResolutionIssue where
  violationKey : String
  code : IssueCode
  ruleId : Option String
  ruleVersion : Option String
  deriving DecidableEq

def Fits (bound : Nat) (text : Option String) : Prop :=
  ∀ s ∈ text, (stripWhitespace s).length ≤ bound

instance (bound : Nat) (text : Option String) : Decidable (Fits bound text) :=
  inferInstanceAs (Decidable (∀ s ∈ text, _))

/-- The issue as the model builds it: texts are stripped, and then bounded. The key of an
index has far fewer than its 256 characters. -/
def Draft.build (d : Draft) : Except ModelError RuleResolutionIssue := do
  require (Fits 128 d.ruleId) (.message "RuleResolutionIssue.rule_id")
  require (Fits 64 d.ruleVersion) (.message "RuleResolutionIssue.rule_version")
  return {
    violationKey := "violation-index-" ++ toString d.index
    code := d.code
    ruleId := d.ruleId.map stripWhitespace
    ruleVersion := d.ruleVersion.map stripWhitespace }

structure RuleResolution where
  status : RuleResolutionStatus
  rules : List RcaRule := []
  issues : List RuleResolutionIssue := []
  deriving DecidableEq

/-! The available rules by identity. -/

abbrev Identity := String × String

local instance identity_lawful : LawfulBEq Identity := inferInstance

def RcaRule.identity (r : RcaRule) : Identity := (r.ruleId, r.version)

structure RuleIndex where
  byIdentity : Table Identity RcaRule := ∅
  duplicates : List Identity := []

/-- The last of equal rules stands for their identity; a rule that differs from the one on
record makes its identity a duplicate. -/
def RuleIndex.add (x : RuleIndex) (rule : RcaRule) : RuleIndex :=
  match x.byIdentity.lookup rule.identity with
  | some previous =>
    if PyEq.Same previous rule then
      { x with byIdentity := x.byIdentity.insert rule.identity rule }
    else { x with duplicates := rule.identity :: x.duplicates }
  | none => { x with byIdentity := x.byIdentity.insert rule.identity rule }

def applicable (i : Incident) (rules : List RcaRule) : List RcaRule :=
  rules.filter fun r => r.technology.technology = i.technology

def indexRules (i : Incident) (rules : List RcaRule) : RuleIndex :=
  (applicable i rules).foldl RuleIndex.add {}

/-! What the incident claims. -/

/-- `dict.get` of the versions the incident lists. -/
def versionOf (i : Incident) (ruleId : String) : Option String :=
  (i.ruleVersions.find? fun f => f.1 = ruleId).map (·.2)

/-- `dict.get` of a mapping of JSON values, in which null is as good as absent. -/
def getValue (fields : Dict) (key : String) : Option Json :=
  (Json.get? key fields).filter (· ≠ .null)

def rawContentHashes (i : Incident) : Option Json := getValue i.modelMetadata "rule_content_hashes"

def legacyContentDigest (i : Incident) : Option Json :=
  getValue i.modelMetadata "rule_content_sha256"

def DetectedBy (i : Incident) (algorithm : String) : Prop :=
  Json.get? "detector_algorithm" i.modelMetadata = some (.str algorithm)

instance (i : Incident) (algorithm : String) : Decidable (DetectedBy i algorithm) :=
  inferInstanceAs (Decidable (_ = _))

def thresholdEpisodesV3 : String := "deterministic-threshold-episodes-v3"

def referencedRuleIds (i : Incident) : List String :=
  i.violatedKpis.filterMap fun v => v.ruleId.map (·.text)

def claimedRuleIds (i : Incident) : List String :=
  (i.violatedKpis.filterMap fun v =>
    match v.ruleId, v.ruleVersion with
    | some ruleId, some _ => some ruleId.text
    | _, _ => none).dedup

/-- `content_hashes`, or why there are none to trust. -/
def contentHashes (i : Incident) : Except IssueCode Dict :=
  match rawContentHashes i, legacyContentDigest i with
  | some (.obj fields), none => .ok fields
  | some _, _ => .error .ruleContentHashInvalid
  | none, some digest =>
    match claimedRuleIds i with
    | [ruleId] => .ok [(ruleId, digest)]
    | _ => .error .ruleContentHashAmbiguous
  | none, none => .ok []

/-- `str.lower` as far as a digest is concerned: no character outside ASCII lowers to a
hexadecimal digit. -/
def lower (s : String) : String :=
  String.ofList (s.toList.map fun c => if 'A' ≤ c ∧ c ≤ 'Z' then Char.ofNat (c.toNat + 32) else c)

def isSha256 (s : String) : Bool := s.length = 64 && s.toList.all Sha256.isHexDigit

def RequiresContentDigest (i : Incident) (rule : RcaRule) : Prop :=
  DetectedBy i thresholdEpisodesV3 ∨ rule.ruleId = bubbleranReplayRuleId ∨
    rawContentHashes i ≠ none

instance (i : Incident) (rule : RcaRule) : Decidable (RequiresContentDigest i rule) :=
  inferInstanceAs (Decidable (_ ∨ _ ∨ _))

def checkContent (h : Host) (i : Incident) (rule : RcaRule) : Except IssueCode Unit := do
  require (rule.ruleId = bubbleranReplayRuleId → legacyContentDigest i = none)
    .ruleContentHashInvalid
  let hashes ← contentHashes i
  match getValue hashes rule.ruleId with
  | none => require (¬ RequiresContentDigest i rule) .ruleContentHashMissing
  | some (.str claimed) => do
    require (isSha256 (lower claimed)) .ruleContentHashInvalid
    require ((rule.contentSha256 h).text = lower claimed) .ruleContentMismatch
  | some _ => .error .ruleContentHashInvalid

def DetectionMatches (rule : RcaRule) (v : KpiViolation) : Prop :=
  v.ruleId.map (·.text) = some rule.ruleId ∧ v.ruleVersion.map (·.text) = some rule.version ∧
    v.kpiName.text = rule.detection.kpiName ∧ v.unit = rule.detection.unit ∧
    v.thresholdValue = rule.detection.threshold ∧ v.comparator = rule.detection.comparator ∧
    compareNumbers rule.detection.comparator v.observedValue rule.detection.threshold = true

instance (rule : RcaRule) (v : KpiViolation) : Decidable (DetectionMatches rule v) :=
  inferInstanceAs (Decidable (_ ∧ _ ∧ _ ∧ _ ∧ _ ∧ _ ∧ _))

/-- The checks of a violation against the rule on record for its identity. -/
def matchRule (h : Host) (i : Incident) (v : KpiViolation) (rule : RcaRule) :
    Except IssueCode RcaRule := do
  require (v.kpiName.text = rule.detection.kpiName) .kpiMismatch
  require (v.unit = rule.detection.unit) .unitMismatch
  require (v.thresholdValue = rule.detection.threshold) .thresholdMismatch
  require (v.comparator = rule.detection.comparator) .comparatorMismatch
  checkContent h i rule
  require (DetectionMatches rule v) .observationNotViolation
  return rule

def lookupRule (x : RuleIndex) (identity : Identity) : Except IssueCode RcaRule := do
  require (identity ∉ x.duplicates) .duplicateRuleVersion
  match x.byIdentity.lookup identity with
  | none => .error .ruleVersionNotFound
  | some rule => .ok rule

def checkVersion (i : Incident) (ruleId version : String) : Except IssueCode Unit := do
  match versionOf i ruleId with
  | none => .error .incidentVersionMissing
  | some listed => require (listed = version) .incidentVersionConflict

def classify (h : Host) (i : Incident) (x : RuleIndex) (v : KpiViolation) :
    Except IssueCode RcaRule :=
  match v.ruleId, v.ruleVersion with
  | none, none => .error .legacyUnversioned
  | none, some _ | some _, none => .error .partialProvenance
  | some ruleId, some version => do
    checkVersion i ruleId.text version.text
    require (ruleId.text = bubbleranReplayRuleId → DetectedBy i bubbleranReplayDetectorAlgorithm)
      .detectorAlgorithmMismatch
    let rule ← lookupRule x (ruleId.text, version.text)
    matchRule h i v rule

/-! The issues, in the order they are found. -/

def violationDrafts (h : Host) (i : Incident) (x : RuleIndex) : List Draft :=
  i.violatedKpis.zipIdx.filterMap fun (v, index) =>
    match classify h i x v with
    | .ok _ => none
    | .error code => some ⟨index, code, v.ruleId.map (·.text), v.ruleVersion.map (·.text)⟩

def versionDrafts (i : Incident) : List Draft :=
  (i.ruleVersions.insertionSort fun a b => textLe a.1 b.1).zipIdx i.violatedKpis.length
    |>.filterMap fun (f, index) =>
      if f.1 ∈ referencedRuleIds i then none
      else some ⟨index, .unreferencedIncidentRule, some f.1, some f.2⟩

def hashKeys (i : Incident) : List String :=
  match rawContentHashes i with
  | some (.obj fields) => fields.map (·.1)
  | _ => []

def hashDrafts (i : Incident) : List Draft :=
  ((hashKeys i).dedup.filter (· ∉ claimedRuleIds i)).insertionSort (fun a b => textLe a b)
    |>.zipIdx (i.violatedKpis.length + i.ruleVersions.length)
    |>.map fun (ruleId, index) =>
      ⟨index, .unreferencedRuleContentHash, some ruleId, versionOf i ruleId⟩

def drafts (h : Host) (i : Incident) (x : RuleIndex) : List Draft :=
  violationDrafts h i x ++ versionDrafts i ++ hashDrafts i

/-! The resolution. -/

def identityLe (a b : Identity) : Bool :=
  if a.1 ≠ b.1 then textLe a.1 b.1 else textLe a.2 b.2

/-- The order of `(violation_key, code, rule_id or "", rule_version or "")`. -/
def issueLe (a b : RuleResolutionIssue) : Bool :=
  if a.violationKey ≠ b.violationKey then textLe a.violationKey b.violationKey
  else if a.code ≠ b.code then textLe a.code.value b.code.value
  else identityLe (a.ruleId.getD "", a.ruleVersion.getD "")
    (b.ruleId.getD "", b.ruleVersion.getD "")

/-- `resolved`: the rule of every violation that is bound to one. -/
def resolved (h : Host) (i : Incident) (x : RuleIndex) : Table Identity RcaRule :=
  i.violatedKpis.foldl (fun t v =>
    match classify h i x v with
    | .ok rule => t.insert rule.identity rule
    | .error _ => t) ∅

def resolvedRules (h : Host) (i : Incident) (x : RuleIndex) : List RcaRule :=
  (resolved h i x).values.insertionSort fun a b => identityLe a.identity b.identity

def resolutionStatus (i : Incident) (rules : List RcaRule) (issues : List RuleResolutionIssue) :
    RuleResolutionStatus :=
  if issues ≠ [] then
    if rules ≠ [] then .partialProvenance
    else if ∀ issue ∈ issues, issue.code = .legacyUnversioned then .legacyUnversioned
    else .conflict
  else if i.violatedKpis ≠ [] then .exact else .noViolations

def IsApplicable (i : Incident) : Prop := i.technology = .lte ∨ i.technology = .fiveGSa

instance (i : Incident) : Decidable (IsApplicable i) := inferInstanceAs (Decidable (_ ∨ _))

def resolveRulesForIncident (h : Host) (i : Incident) (rules : List RcaRule) :
    Except ModelError RuleResolution :=
  let x := indexRules i rules
  if ¬ IsApplicable i then .ok { status := .notApplicable }
  else do
    let issues ← (drafts h i x).mapM Draft.build
    let rules := resolvedRules h i x
    let stable := issues.insertionSort fun a b => issueLe a b
    return { status := resolutionStatus i rules stable, rules, issues := stable }

end NetworkAgent.Rca
