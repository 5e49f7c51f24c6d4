import Mathlib.Tactic.NormNum
import NetworkAgent.Library.Items
import NetworkAgent.Domain.Contracts
import NetworkAgent.Rca.Analysis

/-! The analysis of one incident snapshot: rules and evidence are gathered from the repositories,
and a proposed report is assembled under an identifier that digests its content. -/
namespace NetworkAgent.Rca
open Checks (require)

/-! The repositories. -/

/-- A repository that resolves the rules itself, or one that gives the rules that match. -/
inductive RuleRepository where
  | typed (resolveTyped : Incident → Except AnalysisError RuleResolution)
  | matching (matchRules : Incident → Except AnalysisError (List RcaRule))

def loadTypedRules (h : Host) (repository : RuleRepository) (i : Incident) :
    Except AnalysisError RuleResolution :=
  match repository with
  | .typed resolveTyped => do
    let resolved ← resolveTyped i
    if ∃ rule ∈ resolved.rules, rule.technology.technology ≠ i.technology then
      (resolveRulesForIncident h i resolved.rules).mapError .rules
    else return resolved
  | .matching matchRules => do
    let rules ← matchRules i
    (resolveRulesForIncident h i
      (rules.filter fun rule => rule.technology.technology = i.technology)).mapError .rules

/-- `DeterministicRcaGateway`: the host, the repositories and the limits, which are in their
ranges. A repository answers with a value or raises. -/
structure RcaGateway where
  host : Host
  builtins : Builtins
  floats : FloatOps
  formats : Formats
  fromisoformat : String → Option Instant
  rules : RuleRepository
  collectEvidence : Incident → Instant → Instant → Nat →
    Except AnalysisError (List EvidenceReference)
  search : Option (String → String → Nat → Except AnalysisError (List Dict)) := none
  listIncidents : Option (Nat → Nat → Except AnalysisError (List Incident)) := none
  evidenceLimit : Nat := 100
  documentLimit : Nat := 3
  historyScanLimit : Nat := 100
  historyMatchLimit : Nat := 3
  historyMinScore : ℚ := 1 / 10
  evidenceLimit_range : 1 ≤ evidenceLimit ∧ evidenceLimit ≤ 1000 := by decide
  documentLimit_range : 1 ≤ documentLimit ∧ documentLimit ≤ 10 := by decide
  historyScanLimit_range : 1 ≤ historyScanLimit ∧ historyScanLimit ≤ 1000 := by decide
  historyMatchLimit_range : 1 ≤ historyMatchLimit ∧ historyMatchLimit ≤ 10 := by decide
  historyMinScore_range : 0 ≤ historyMinScore ∧ historyMinScore ≤ 1 := by norm_num

/-! Telemetry. -/

def evidenceIssue (code key evidenceType : String) (digest : Json) : Json := .obj
  [("code", .str code), ("content_sha256", digest), ("evidence_key", .str key),
   ("evidence_type", .str evidenceType)]

def validTelemetry (g : RcaGateway) (i : Incident) (evidence : List EvidenceReference) :
    List EvidenceReference :=
  evidence.filter fun item => (telemetryScopeIssue g.host g.fromisoformat item i).isNone

/-- `_validate_telemetry_evidence`: the issues; `validTelemetry` is what is left. -/
def telemetryIssues (g : RcaGateway) (i : Incident) (evidence : List EvidenceReference) :
    List Json :=
  evidence.zipIdx.filterMap fun (item, index) =>
    (telemetryScopeIssue g.host g.fromisoformat item i).map fun code =>
      evidenceIssue code.value ("telemetry-index-" ++ toString index) item.evidenceType.value
        (contentDigest g.host item)

/-- The issue with an incident that names no resources or no window. -/
def incidentScopeIssue (h : Host) (i : Incident) : Json :=
  let code := if i.affectedResources = [] then "INCIDENT_RESOURCE_SCOPE_MISSING"
    else "INCIDENT_TIME_SCOPE_MISSING"
  let scope : Json := .obj
    [("resource_scope", resourceScope i),
     ("window_end", optional (dumpTime "+00:00") i.windowEnd),
     ("window_start", optional (dumpTime "+00:00") i.windowStart)]
  evidenceIssue code "incident-analysis-scope" "TELEMETRY" (.str (h.stableHash scope).text)

def IsTelemetry (e : EvidenceReference) : Prop :=
  e.evidenceType = .metric ∨ e.evidenceType = .trace

instance (e : EvidenceReference) : Decidable (IsTelemetry e) := inferInstanceAs (Decidable (_ ∨ _))

def checkTelemetry (h : Host) (item : EvidenceReference) : Except AnalysisError Unit := do
  require (findSensitivePaths h "$" (item.dump "Z") = []) .privacy
  require (IsTelemetry item) .notTelemetry

/-- The telemetry of an LTE incident that is valid, and the issues with the rest. -/
def gatherTelemetry (g : RcaGateway) (i : Incident) :
    Except AnalysisError (List EvidenceReference × List Json) :=
  if i.technology ≠ .lte then .ok ([], [])
  else match i.affectedResources, i.windowStart, i.windowEnd with
    | _ :: _, some start, some stop => do
      let collected ← g.collectEvidence i start stop g.evidenceLimit
      let telemetry ← (deduplicateEvidence collected).mapError .evidence
      require (telemetry.length ≤ g.evidenceLimit) .telemetryLimit
      Checks.each (checkTelemetry g.host) telemetry
      return (validTelemetry g i telemetry, telemetryIssues g i telemetry)
    | _, _, _ => .ok ([], [incidentScopeIssue g.host i])

/-! Rules. -/

def ruleEvidence (h : Host) (rule : RcaRule) (collectedAt : Instant) :
    Except AnalysisError EvidenceReference :=
  let uri := "rule://" ++ quote rule.ruleId ++ "/" ++ quote rule.version
  match Identifier.parse (stableId h "rule" rule.toJson), NonEmptyStr.parse uri with
  | some evidenceId, some uri => .ok {
      evidenceId
      evidenceType := .rule
      uri
      source := some (.ofText "local-json-rule-repository" (by decide))
      summary := some rule.descriptionZh
      collectedAt := some collectedAt
      checksumSha256 := some (h.stableHash rule.toJson).text
      attributes := [("rule_id", .str rule.ruleId), ("rule_version", .str rule.version),
        ("technology", .str rule.technology.technology.value)] }
  | _, _ => .error (.evidence (.validation (.message "EvidenceReference")))

structure Finding where
  rule : RcaRule
  conclusive : Bool
  severity : IncidentSeverity
  evidence : EvidenceReference

/-- Whether the facts of the required types are there and say what the rule concludes from. -/
def concludes (rule : RcaRule) (facts : List EvidenceReference) (analysisFacts : Dict) :
    Except AnalysisError Bool :=
  if ∀ t ∈ rule.analysis.evidenceTypes, t ∈ facts.map (·.evidenceType) then
    predicateGroupMatches rule.analysis.when' analysisFacts
  else .ok false

/-- One turn of the loop: nothing, when the rule matches no violation. -/
def findRule (g : RcaGateway) (i : Incident) (facts : List EvidenceReference) (now : Instant)
    (rule : RcaRule) : Except AnalysisError (Option Finding) :=
  match matchedViolation rule i with
  | none => .ok none
  | some violation => do
    let analysisFacts := mergeFactCandidates g.host g.builtins
      (facts.filter fun item => item.evidenceType ∈ rule.analysis.evidenceTypes)
    let conclusive ← concludes rule facts analysisFacts
    let severity ← severityForRule rule
      (Json.set "kpi_value" (.float violation.observedValue) analysisFacts)
    let evidence ← ruleEvidence g.host rule now
    return some { rule, conclusive, severity, evidence }

/-! Documents. -/

/-- What `or` passes on. -/
def isTruthy : Json → Bool
  | .null => false
  | .bool b => b
  | .int n => n != 0
  | .float q => q != 0
  | .str s => s != ""
  | .arr items => !items.isEmpty
  | .obj fields => !fields.isEmpty

def valueOf (record : Dict) (key : String) : Json := (record.lookup key).getD .null

def Formats.textOf (f : Formats) : Json → String
  | .str s => s
  | value => f.str value

/-- `str(a or b)`, one value after the other. -/
def Formats.firstText (f : Formats) (values : List Json) (default : String) : String :=
  ((values.find? isTruthy).map f.textOf).getD default

/-- `str(record.get(key, ""))`. -/
def sortText (f : Formats) (record : Dict) (key : String) : String :=
  (record.lookup key).elim "" f.textOf

def recordLe (f : Formats) (a b : Dict) : Bool :=
  if sortText f a "uri" ≠ sortText f b "uri" then textLe (sortText f a "uri") (sortText f b "uri")
  else textLe (sortText f a "title") (sortText f b "title")

def nonEmptyText : Json → Option String
  | .str s => nonEmpty s
  | _ => none

def isNumber : Json → Bool
  | .bool _ | .int _ | .float _ => true
  | _ => false

/-- The reference for one record and its line in the report; a record without an address is
passed by. -/
def recordEvidence (g : RcaGateway) (collectedAt : Instant) (record : Dict) :
    Except AnalysisError (Option (EvidenceReference × String)) := do
  require (findSensitivePaths g.host "$" (.obj record) = []) .privacy
  match nonEmptyText (valueOf record "uri") with
  | none => return none
  | some uri =>
    let title := g.formats.firstText [valueOf record "title"] "本地资料"
    let excerpt := g.formats.firstText [valueOf record "excerpt", valueOf record "summary"] ""
    let score := valueOf record "score"
    let safeRecord : Json := .obj
      [("uri", .str uri), ("title", .str title), ("excerpt", .str excerpt), ("score", score)]
    match Identifier.parse (stableId g.host "document" safeRecord), NonEmptyStr.parse uri with
    | some evidenceId, some uri => return some ({
        evidenceId
        evidenceType := .document
        uri
        source := some (.ofText "local-document-repository" (by decide))
        summary := some (clip ((nonEmpty excerpt).getD title) 1024)
        collectedAt := some collectedAt
        checksumSha256 := some (g.host.stableHash safeRecord).text
        attributes := [("title", .str (clip title 256)),
          ("score", if isNumber score then score else .null)] },
        "- " ++ clip title 120 ++ "：" ++ clip excerpt 260)
    | _, _ => .error (.evidence (.validation (.message "EvidenceReference")))

def documentQuery (i : Incident) : String :=
  let query := clip (joinTexts " " ([i.title, i.description] ++
    i.violatedKpis.map (·.kpiName.text))) 2048
  if query = "" then "LTE Incident" else query

def documentEvidence (g : RcaGateway) (i : Incident) (collectedAt : Instant) :
    Except AnalysisError (List EvidenceReference × List String) :=
  match g.search with
  | none => .ok ([], [])
  | some search =>
    if i.technology ≠ .lte then .ok ([], [])
    else do
      let records ← search (documentQuery i) i.technology.value g.documentLimit
      let sorted := (records.take g.documentLimit).insertionSort fun a b => recordLe g.formats a b
      let found ← sorted.mapM (recordEvidence g collectedAt)
      return (found.reduceOption.map (·.1), found.reduceOption.map (·.2))

/-! History. -/

def matchEvidence (h : Host) (collectedAt : Instant) (match' : SimilarIncident) :
    Except AnalysisError EvidenceReference :=
  let uri := "incident://history/" ++ quote match'.incidentId
  let summary := match match'.rootCause.bind nonEmpty with
    | some rootCause => match'.summary ++ "；历史根因：" ++ rootCause
    | none => match'.summary
  match Identifier.parse (stableId h "prior" match'.toJson), NonEmptyStr.parse uri with
  | some evidenceId, some uri => .ok {
      evidenceId
      evidenceType := .priorIncident
      uri
      source := some (.ofText "local-incident-repository" (by decide))
      summary := some (clip summary 1024)
      collectedAt := some collectedAt
      checksumSha256 := some (h.stableHash match'.toJson).text
      attributes := [("similarity", .float match'.similarity)] }
  | _, _ => .error (.evidence (.validation (.message "EvidenceReference")))

def historyEvidence (g : RcaGateway) (i : Incident) (collectedAt : Instant) :
    Except AnalysisError (List EvidenceReference × List SimilarIncident) :=
  match g.listIncidents with
  | none => .ok ([], [])
  | some list =>
    if i.technology ≠ .lte then .ok ([], [])
    else do
      let candidates ← list g.historyScanLimit 0
      let matches' ← (rankSimilarIncidents g.host g.builtins.lower g.floats i candidates
        g.historyMatchLimit g.historyMinScore).mapError .history
      let evidence ← matches'.mapM (matchEvidence g.host collectedAt)
      return (evidence, matches')

/-! The report. -/

def orText (first second : String) : String := if first = "" then second else first

def kpiText (f : Formats) (v : KpiViolation) : String :=
  v.kpiName.text ++ "=" ++ f.general v.observedValue ++
    match v.unit.bind nonEmpty with
    | some unit => " " ++ unit
    | none => ""

def overviewText (f : Formats) (i : Incident) : String :=
  let kpis := orText (joinTexts "；" (i.violatedKpis.map (kpiText f))) "暂无异常 KPI 明细"
  clip ("Incident ID：" ++ i.incidentId.text ++ "。" ++
    orText i.title (orText i.description "暂无补充描述") ++ "。异常 KPI：" ++ kpis ++ "。") 520

def analysisText (rootCause : Option String) (hypotheses : List String) : String :=
  let list := joinTexts "；" hypotheses
  match rootCause with
  | some rootCause =>
    clip ("结论：CONCLUSIVE。Root Cause：" ++ rootCause ++ "。" ++
      if hypotheses = [] then "" else "候选假设：" ++ list ++ "。") 700
  | none =>
    clip ("结论：INCONCLUSIVE。现有规则和聚合证据不足以确定 Root Cause。" ++
      if hypotheses = [] then "未找到适用的 LTE RCA 规则。" else "已检查假设：" ++ list ++ "。") 700

def historyLine (f : Formats) (s : SimilarIncident) : String :=
  "- " ++ s.incidentId ++ "（相似度 " ++ f.fourDigits s.similarity ++ "）：" ++
    clip ((s.rootCause.bind nonEmpty).getD s.summary) 180

def referenceLine (e : EvidenceReference) : String :=
  "- [" ++ e.evidenceType.value ++ "] " ++ e.evidenceId.text ++ "：" ++ e.uri.text

/-- `_render_report`, before its length is checked. -/
def reportText (f : Formats) (i : Incident) (rootCause : Option String) (hypotheses : List String)
    (severity : IncidentSeverity) (similar : List SimilarIncident) (documentLines : List String)
    (evidence : List EvidenceReference) : String :=
  let orNothing (text : String) := orText text "暂无相关信息。"
  let history := orNothing (joinTexts "\n" (similar.map (historyLine f)))
  let internalDocs := orNothing (joinTexts "\n" documentLines)
  let references := orNothing (joinTexts "\n" ((evidence.take 20).map referenceLine))
  let sections := [("1. Incident 概述", overviewText f i),
    ("2. Root Cause Analysis", analysisText rootCause hypotheses),
    ("3. 严重程度", "规则计算结果：" ++ severity.value ++ "。"),
    ("4. 相似历史 Incident", clip history 520),
    ("5. 内部资料", clip internalDocs 520),
    ("6. 外部资料", "Local Profile 默认关闭外部资料检索。"),
    ("7. 建议措施", "P2 只读 RCA 不生成或执行网络变更，暂无 RemediationAction。"),
    ("8. 参考资料", clip references 820)]
  joinTexts "\n\n" (sections.map fun s => "## " ++ s.1 ++ "\n" ++ s.2)

/-! The contract. -/

structure RcaRequest where
  messageId : Identifier
  workflowId : Identifier
  incidentId : Identifier
  traceId : Identifier
  idempotencyKey : Identifier
  sentAt : Instant
  incident : Incident
  basedOnRevision : Nat
  requestedReportVersion : Nat
  sameIncident : incident.incidentId = incidentId
  sameTrace : incident.traceId = traceId
  sameRevision : incident.revision = basedOnRevision
  version_pos : 1 ≤ requestedReportVersion

def RcaRequest.toJson (q : RcaRequest) : Json := .obj
  [("schema_version", .str schemaVersion), ("message_type", .str "rca_request"),
   ("message_id", dumpId q.messageId), ("workflow_id", dumpId q.workflowId),
   ("incident_id", dumpId q.incidentId), ("trace_id", dumpId q.traceId),
   ("idempotency_key", dumpId q.idempotencyKey), ("sent_at", dumpTime "Z" q.sentAt),
   ("incident", q.incident.toJson), ("based_on_revision", .int q.basedOnRevision),
   ("requested_report_version", .int q.requestedReportVersion)]

/-- The report on a request, bound to the revision and the version it asked for. -/
structure RcaResult where
  messageId : Identifier
  workflowId : Identifier
  incidentId : Identifier
  traceId : Identifier
  idempotencyKey : Identifier
  sentAt : Instant
  requestMessageId : Identifier
  report : RcaReport
  basedOnRevision : Nat
  requestedReportVersion : Nat
  summaryZh : String
  sameIncident : report.incidentId = incidentId
  sameVersion : report.version = requestedReportVersion

def RcaResult.toJson (r : RcaResult) : Json := .obj
  [("schema_version", .str schemaVersion), ("message_type", .str "rca_result"),
   ("message_id", dumpId r.messageId), ("workflow_id", dumpId r.workflowId),
   ("incident_id", dumpId r.incidentId), ("trace_id", dumpId r.traceId),
   ("idempotency_key", dumpId r.idempotencyKey), ("sent_at", dumpTime "Z" r.sentAt),
   ("request_message_id", dumpId r.requestMessageId), ("report", r.report.dump "Z"),
   ("based_on_revision", .int r.basedOnRevision),
   ("requested_report_version", .int r.requestedReportVersion), ("summary_zh", .str r.summaryZh)]

/-! The analysis. -/

structure Analysis where
  resolution : RuleResolution
  issues : List Json
  findings : List Finding
  evidence : List EvidenceReference
  documentLines : List String
  similar : List SimilarIncident

def Analysis.hypotheses (a : Analysis) : List String :=
  (a.findings.map (·.rule.analysis.hypothesisZh)).eraseDups

def Analysis.conclusiveFindings (a : Analysis) : List Finding := a.findings.filter (·.conclusive)

/-- `resolution_is_complete`. -/
def Analysis.IsComplete (a : Analysis) : Prop :=
  a.resolution.status = .exact ∧ a.resolution.rules ≠ [] ∧
    (a.conclusiveFindings.map (·.rule.identity)).eraseDups.length = a.resolution.rules.length ∧
    a.issues = []

instance (a : Analysis) : Decidable a.IsComplete := inferInstanceAs (Decidable (_ ∧ _ ∧ _ ∧ _))

def Analysis.rootCause (a : Analysis) : Option String :=
  let causes := (a.conclusiveFindings.map (·.rule.analysis.rootCauseZh)).eraseDups
  if causes ≠ [] ∧ a.IsComplete then some (clip (joinTexts "；" causes) 4096) else none

def Analysis.conclusion (a : Analysis) : RcaConclusion :=
  if a.rootCause.isSome then .conclusive else .inconclusive

def Analysis.severity (a : Analysis) : IncidentSeverity :=
  ((a.findings.map (·.severity)).argmax IncidentSeverity.rank).getD .unknown

def Analysis.evidenceResolution (a : Analysis) : String :=
  if a.issues = [] then "EXACT" else "CONFLICT"

def Analysis.text (f : Formats) (i : Incident) (a : Analysis) : String :=
  reportText f i a.rootCause a.hypotheses a.severity a.similar a.documentLines a.evidence

def reportIdentity (h : Host) (q : RcaRequest) (a : Analysis) : Json := .obj
  [("incident_id", dumpId q.incident.incidentId), ("based_on_revision", .int q.basedOnRevision),
   ("requested_report_version", .int q.requestedReportVersion), ("engine", .str rcaEngineName),
   ("engine_version", .str rcaEngineVersion),
   ("rule_resolution", .str a.resolution.status.value),
   ("rule_resolution_issues", .arr (a.resolution.issues.map (·.toJson))),
   ("evidence_resolution", .str a.evidenceResolution),
   ("evidence_resolution_issues", .arr a.issues),
   ("rules", .arr (a.resolution.rules.map fun rule => .obj
      [("rule_id", .str rule.ruleId), ("version", .str rule.version),
       ("content_sha256", .str (h.stableHash rule.toJson).text)])),
   ("evidence", .arr (a.evidence.map (evidenceContentIdentity h))),
   ("analysis", .obj
      [("conclusion", .str a.conclusion.value), ("root_cause", optional .str a.rootCause),
       ("severity", .str a.severity.value), ("hypotheses", .arr (a.hypotheses.map .str))])]

def Analysis.metadata (q : RcaRequest) (a : Analysis) : Dict :=
  let rules := a.resolution.rules
  [("engine", .str rcaEngineName), ("engine_version", .str rcaEngineVersion),
   ("model_provider", .str "none"), ("severity", .str a.severity.value),
   ("rule_resolution", .str a.resolution.status.value),
   ("rule_resolution_issues", .arr (a.resolution.issues.map (·.toJson))),
   ("evidence_resolution", .str a.evidenceResolution),
   ("evidence_resolution_issues", .arr a.issues),
   ("matched_rule_ids", .arr (rules.map fun rule => .str rule.ruleId)),
   ("rule_versions",
     .obj (Items.setItems [] (rules.map fun rule => (rule.ruleId, .str rule.version)))),
   ("based_on_revision", .int q.basedOnRevision)]

def buildResult (h : Host) (q : RcaRequest) (a : Analysis) (text : String) (now : Instant) :
    Except AnalysisError RcaResult :=
  let identity := reportIdentity h q a
  let i := q.incident
  let requestIdentity : Json := .obj
    [("request_idempotency_key", dumpId q.idempotencyKey), ("report", identity)]
  match Identifier.parse (stableId h "rca" identity),
      Identifier.parse (stableId h "rca-result" identity),
      Identifier.parse (stableId h "rca-result-key" requestIdentity) with
  | some reportId, some messageId, some idempotencyKey => .ok {
      messageId
      workflowId := q.workflowId
      incidentId := q.incidentId
      traceId := q.traceId
      idempotencyKey
      sentAt := now
      requestMessageId := q.messageId
      report := {
        reportId
        incidentId := i.incidentId
        version := q.requestedReportVersion
        status := .proposed
        title := some (clip (orText i.title (orText i.description "LTE Incident") ++ " RCA") 1024)
        summary := stripWhitespace text
        hypotheses := a.hypotheses
        rootCause := a.rootCause
        conclusion := a.conclusion
        confidence := none
        evidenceRefs := a.evidence
        recommendations := []
        generatedBy := some (rcaEngineName ++ "/" ++ rcaEngineVersion)
        modelMetadata := a.metadata q
        createdAt := now }
      basedOnRevision := q.basedOnRevision
      requestedReportVersion := q.requestedReportVersion
      summaryZh := stripWhitespace text
      sameIncident := q.sameIncident
      sameVersion := rfl }
  | _, _, _ => .error (.evidence (.validation (.message "RcaReport")))

/-- The rules of a snapshot; none apply to another technology. -/
def resolveRules (g : RcaGateway) (i : Incident) : Except AnalysisError RuleResolution :=
  if IsApplicable i then loadTypedRules g.host g.rules i else .ok { status := .notApplicable }

/-- What an analysis starts from: the rules, the issues with the telemetry, and the facts. -/
def gatherFacts (g : RcaGateway) (i : Incident) :
    Except AnalysisError (RuleResolution × List Json × List EvidenceReference) := do
  let resolution ← resolveRules g i
  let (telemetry, issues) ← gatherTelemetry g i
  let base ← (violationEvidence g.host g.formats.general i).mapError .evidence
  let facts ← (deduplicateEvidence (base ++ telemetry)).mapError .evidence
  return (resolution, issues, facts)

def analyzeFacts (g : RcaGateway) (i : Incident) (now : Instant) (resolution : RuleResolution)
    (issues : List Json) (facts : List EvidenceReference) : Except AnalysisError Analysis := do
  let found ← resolution.rules.mapM (findRule g i facts now)
  let findings := found.reduceOption
  let (documents, documentLines) ← documentEvidence g i now
  let (history, similar) ← historyEvidence g i now
  let evidence ← (deduplicateEvidence
    (facts ++ findings.map (·.evidence) ++ documents ++ history)).mapError .evidence
  return { resolution, issues, findings, evidence, documentLines, similar }

/-- Everything between the reading of the clock and the checks on the result. -/
def assemble (g : RcaGateway) (q : RcaRequest) (now : Instant) :
    Except AnalysisError RcaResult := do
  let (resolution, issues, facts) ← gatherFacts g q.incident
  let a ← analyzeFacts g q.incident now resolution issues facts
  let text := a.text g.formats q.incident
  require (text.length ≤ 4096) .textBudget
  buildResult g.host q a text now

/-- `to_data_part`: the payload in its budget and without raw identifiers. -/
def toDataPart (h : Host) (payload : Json) : Except AnalysisError Unit := do
  require (payload.depth ≤ maxContractDepth) (.payload .depth)
  require (serializedBytes h payload ≤ maxContractSerializedBytes) (.payload .size)
  require (findSensitivePaths h "$" payload = []) (.payload .privacy)

/-- `analyze`; a reading of the clock without a time zone is none. -/
def analyze (g : RcaGateway) (q : RcaRequest) (clock : Option Instant) :
    Except AnalysisError RcaResult := do
  require (findSensitivePaths g.host "$" q.toJson = []) .privacy
  match clock with
  | none => .error .naiveClock
  | some now => do
    let result ← assemble g q now
    require (findSensitivePaths g.host "$" result.toJson = []) .privacy
    toDataPart g.host result.toJson
    return result

end NetworkAgent.Rca
