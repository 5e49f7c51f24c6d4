import NetworkAgent.Local.Calls
import NetworkAgent.Rca.Rules

/-! The detector's scan: the violating observations of each rule are grouped into episodes,
and every episode becomes one candidate incident that nothing has committed yet. -/
namespace NetworkAgent.Local
open Checks (require)
open Rca (RcaRule compareNumbers)

inductive DetectorError where
  | value (text : String)
  | sensitive (boundary : String)
  | capacity (text : String)
  | validation (error : ModelError)
  | port (text : String)
  | repository (fault : Fault)
  deriving DecidableEq

def requireScan (condition : Prop) [Decidable condition] (text : String) :
    Except DetectorError Unit := require condition (.value text)

def requireCapacity (condition : Prop) [Decidable condition] (text : String) :
    Except DetectorError Unit := require condition (.capacity text)

def assertPrivacySafe (h : Host) (value : Json) (boundary : String) : Except DetectorError Unit :=
  require (findSensitivePaths h "$" value = []) (.sensitive boundary)

/-- A field of a model that is built; a text that does not fit refuses the model. -/
def field {α : Type} (model : String) : Option α → Except DetectorError α
  | some a => .ok a
  | none => .error (.validation (.message model))

@[simp] theorem field_ok {α : Type} {model : String} {x : Option α} {a : α} :
    field model x = .ok a ↔ x = some a := by
  cases x <;> simp [field]

def validated : Validation → Except DetectorError Unit
  | .ok () => .ok ()
  | .error e => .error (.validation e)

@[simp] theorem validated_ok {v : Validation} {u : Unit} :
    validated v = .ok u ↔ v = .ok () := by
  cases v <;> simp [validated]

structure KpiObservation where
  observationId : Identifier
  kpiName : NonEmptyStr
  observedValue : ℚ
  observedAt : Instant
  resources : List ResourceReference
  unit : Option NonEmptyStr := none
  qualityFlags : List NonEmptyStr := []
  deriving DecidableEq

/-- The ports of the detector, and the arithmetic mean of binary64 numbers. -/
structure Ports where
  rules : Except DetectorError (List RcaRule)
  queryKpis : List String → Option (Instant × Instant) → List String →
    Except DetectorError (List KpiObservation)
  collectEvidence : Incident → Except DetectorError (List EvidenceReference)
  mean : List ℚ → ℚ

def maxCurrentRules : Nat := 32
def maxEpisodeSamples : Nat := 1000
def maxScanCandidates : Nat := 100
def maxScanResourceIds : Nat := 100
def maxQueryObservations : Nat := 50000
def maxScanWindow : Int := 31 * 86400000000

def stableDigest (h : Host) (parts : List Json) : String := (h.stableHash (.arr parts)).text

/-- `_require_identifier` and `_require_text`, which differ in the bound. -/
def requireBounded (h : Host) (maxLength : Nat) (name value : String) :
    Except DetectorError String := do
  let normalized := strip value
  requireScan (normalized ≠ "") (name ++ " is required")
  requireScan (normalized.length ≤ maxLength)
    (name ++ " exceeds " ++ toString maxLength ++ " characters")
  assertPrivacySafe h (.str normalized) name
  return normalized

theorem requireBounded_ok {h : Host} {maxLength : Nat} {name value normalized : String}
    (accepted : requireBounded h maxLength name value = .ok normalized) :
    normalized = strip value := by
  obtain ⟨_, accepted⟩ := Checks.seq_ok.mp accepted
  obtain ⟨_, accepted⟩ := Checks.seq_ok.mp accepted
  obtain ⟨_, same⟩ := Checks.seq_ok.mp accepted
  exact (Except.ok.inj same).symm

def requireIdentifier (h : Host) (name value : String) : Except DetectorError String :=
  requireBounded h 256 name value

def requireText (h : Host) (name value : String) : Except DetectorError String :=
  requireBounded h 4096 name value

/-! Resource selectors. -/

def lteIdentifierMax : Nat := 268435455

def parseDecimal (digits : List Char) : Nat :=
  digits.foldl (fun n c => 10 * n + (c.toNat - '0'.toNat)) 0

def normalizeLteIdentifier (component value : String) : Except DetectorError String := do
  let raw := (strip value).toList
  requireScan (1 ≤ raw.length ∧ raw.length ≤ 9 ∧ raw.all Char.isDigit = true)
    ("invalid LTE " ++ component ++ " identifier")
  requireScan (parseDecimal raw ≤ lteIdentifierMax) ("invalid LTE " ++ component ++ " identifier")
  return toString (parseDecimal raw)

/-- `canonical_lte_resource_id` of what `parse_lte_resource_id` reads. -/
def canonicalLteResourceId (value : String) : Except DetectorError String :=
  match (strip value).splitOn ":" with
  | ["lte", "enodeb", enodeb] => do
    return "lte:enodeb:" ++ (← normalizeLteIdentifier "eNodeB" enodeb)
  | ["lte", "enodeb", enodeb, "cell", cell] => do
    let enodeb ← normalizeLteIdentifier "eNodeB" enodeb
    let cell ← normalizeLteIdentifier "Cell" cell
    return "lte:enodeb:" ++ enodeb ++ ":cell:" ++ cell
  | _ => .error (.value "invalid canonical LTE resource identifier")

structure ScanScope where
  windowStart : Option Instant := none
  windowEnd : Option Instant := none
  resourceIds : List String := []
  deriving DecidableEq

/-- `_validated_scan_scope`; the instants of the model are in UTC already. -/
def validatedScanScope (h : Host) (s : ScanScope) :
    Except DetectorError (Option (Instant × Instant) × List String) := do
  requireScan (s.windowStart.isNone = s.windowEnd.isNone)
    "window_start and window_end must be provided together"
  let window := match s.windowStart, s.windowEnd with
    | some start, some «end» => some (start, «end»)
    | _, _ => none
  requireScan (∀ w ∈ window, w.1 ≤ w.2) "window_end must not be earlier than window_start"
  requireScan (∀ w ∈ window, w.2 - w.1 ≤ maxScanWindow) "scan window must not exceed 31 days"
  requireScan (s.resourceIds.length ≤ maxScanResourceIds)
    "resource_ids must contain at most 100 items"
  assertPrivacySafe h (.arr (s.resourceIds.map .str)) "resource_ids"
  let normalized ← s.resourceIds.mapM canonicalLteResourceId
  return (window, normalized.dedup.insertionSort fun a b => textLe a b)

/-! Observations. -/

def validateRuleObservation (rule : RcaRule) (o : KpiObservation) : Except DetectorError Bool := do
  if o.kpiName.text ≠ rule.detection.kpiName then return false
  else do
    requireScan (o.unit.map (·.text) = rule.detection.unit)
      ("KPI unit mismatch for rule '" ++ rule.ruleId ++ "'")
    return o.qualityFlags.all (·.text = "SOURCE_TIMEZONE_ASSUMED_UTC") &&
      compareNumbers rule.detection.comparator o.observedValue rule.detection.threshold

def matching (rule : RcaRule) : List KpiObservation → Except DetectorError (List KpiObservation)
  | [] => .ok []
  | o :: rest => do
    let kept ← validateRuleObservation rule o
    let tail ← matching rule rest
    return if kept then o :: tail else tail

abbrev ResourceIdentity := List (String × String)

def resourceIdentity (resources : List ResourceReference) : ResourceIdentity :=
  resources.map fun r => (r.resourceType.value, r.resourceId.text)

def pairLe (a b : String × String) : Bool :=
  (a.1 == b.1 && textLe a.2 b.2) || (a.1 != b.1 && textLe a.1 b.1)

def identityLe : ResourceIdentity → ResourceIdentity → Bool
  | [], _ => true
  | _ :: _, [] => false
  | a :: as, b :: bs => (a == b && identityLe as bs) || (a != b && pairLe a b)

def deduplicateResources : List ResourceReference → List (String × String) →
    List ResourceReference
  | [], _ => []
  | r :: rest, seen =>
    let identity := (r.resourceType.value, r.resourceId.text)
    if identity ∈ seen then deduplicateResources rest seen
    else r :: deduplicateResources rest (identity :: seen)

def observationLe (a b : KpiObservation) : Bool :=
  decide (a.observedAt < b.observedAt) ||
    (a.observedAt == b.observedAt && textLe a.observationId.text b.observationId.text)

/-- Split an ordered list where the gap to the previous observation is too long. -/
def splitEpisodes (maxGap : Int) (current : List KpiObservation) (previous : KpiObservation) :
    List KpiObservation → List (List KpiObservation)
  | [] => [current]
  | o :: rest =>
    if maxGap < o.observedAt - previous.observedAt then
      current :: splitEpisodes maxGap [o] o rest
    else splitEpisodes maxGap (current ++ [o]) o rest

def episodes (observations : List KpiObservation) (maxGapMinutes : Nat) :
    List (List KpiObservation) :=
  match observations.insertionSort fun a b => observationLe a b with
  | [] => []
  | o :: rest => splitEpisodes (60000000 * maxGapMinutes) [o] o rest

def ruleEpisodes (rule : RcaRule) (matched : List KpiObservation) : List (List KpiObservation) :=
  let identities := (matched.map fun o => resourceIdentity o.resources).dedup.insertionSort
    fun a b => identityLe a b
  identities.flatMap fun identity =>
    episodes (matched.filter fun o => resourceIdentity o.resources = identity)
      rule.detection.maxGapMinutes

abbrev EpisodeSpec := RcaRule × List KpiObservation

def addEpisodes (rule : RcaRule) : List (List KpiObservation) → List EpisodeSpec →
    Except DetectorError (List EpisodeSpec)
  | [], specs => .ok specs
  | episode :: rest, specs => do
    requireCapacity (episode.length ≤ maxEpisodeSamples)
      "detector episode capacity exceeded 1000 samples; narrow the telemetry time window"
    let specs := specs ++ [(rule, episode)]
    requireCapacity (specs.length ≤ maxScanCandidates)
      "detector candidate capacity exceeded 100; narrow the telemetry time window"
    addEpisodes rule rest specs

def episodeSpecs (observations : List KpiObservation) : List RcaRule → List EpisodeSpec →
    Except DetectorError (List EpisodeSpec)
  | [], specs => .ok specs
  | rule :: rest, specs => do
    let matched ← matching rule observations
    let specs ← addEpisodes rule (ruleEpisodes rule matched) specs
    episodeSpecs observations rest specs

def isoformat (t : Instant) : Json := dumpTime "+00:00" t

def detectionSnapshot (h : Host) (rule : RcaRule) (resources : List ResourceReference)
    (start «end» : Instant) (episode : List KpiObservation) : Json := .obj
  [("rule", .obj
    [("rule_id", .str rule.ruleId), ("version", .str rule.version),
     ("content_sha256", dumpDigest (rule.contentSha256 h)), ("kpi_name", .str rule.detection.kpiName),
     ("comparator", .str rule.detection.comparator.value),
     ("threshold", .float rule.detection.threshold), ("unit", optional .str rule.detection.unit),
     ("max_gap_minutes", .int rule.detection.maxGapMinutes)]),
   ("resources", dumpList ResourceReference.stableIdentity resources),
   ("window_start", isoformat start), ("window_end", isoformat «end»),
   ("observations", dumpList (fun o : KpiObservation => .obj
    [("observation_id", dumpId o.observationId), ("observed_at", isoformat o.observedAt),
     ("observed_value", .float o.observedValue),
     ("quality_flags", dumpList dumpId o.qualityFlags)]) episode),
   ("source_event_ids", dumpList (fun o : KpiObservation => dumpId o.observationId) episode)]

/-- What travels with a candidate; the random identifiers of the envelope are left out. -/
structure IncidentTrigger where
  workflowId : String
  incident : Incident
  summaryZh : String

def IncidentTrigger.toJson (t : IncidentTrigger) : Json := .obj
  [("message_type", .str "incident_trigger"), ("workflow_id", .str t.workflowId),
   ("incident_id", dumpId t.incident.incidentId), ("trace_id", dumpId t.incident.traceId),
   ("incident", t.incident.toJson), ("summary_zh", .str t.summaryZh)]

def evidenceLe (a b : EvidenceReference) : Bool :=
  pairLe (a.evidenceType.value, a.evidenceId.text) (b.evidenceType.value, b.evidenceId.text) &&
    ((a.evidenceType.value, a.evidenceId.text) != (b.evidenceType.value, b.evidenceId.text) ||
      textLe a.uri.text b.uri.text)

def episodeFlags (episode : List KpiObservation) : List String :=
  ((episode.flatMap (·.qualityFlags)).map (·.text)).dedup.insertionSort fun a b => textLe a b

def episodeViolation (h : Host) (ports : Ports) (rule : RcaRule)
    (resources : List ResourceReference) (start «end» : Instant) (episode : List KpiObservation) :
    Except DetectorError KpiViolation := do
  let observed := ports.mean (episode.map (·.observedValue))
  let digest := stableDigest h [.str "kpi-violation-v2", .obj
    [("rule_id", .str rule.ruleId), ("rule_version", .str rule.version),
     ("kpi_name", .str rule.detection.kpiName),
     ("comparator", .str rule.detection.comparator.value),
     ("threshold", .float rule.detection.threshold), ("unit", optional .str rule.detection.unit),
     ("window_start", isoformat start), ("window_end", isoformat «end»),
     ("source_event_ids", dumpList (fun o : KpiObservation => dumpId o.observationId) episode),
     ("observed_value", .float observed),
     ("resource_ids", dumpList (fun r : ResourceReference => dumpId r.resourceId) resources),
     ("aggregation", .str "arithmetic_mean_of_violating_samples"),
     ("max_gap_minutes", .int rule.detection.maxGapMinutes),
     ("quality_flags", dumpList .str (episodeFlags episode)), ("sample_count", .int episode.length)]]
  let violation : KpiViolation := {
    violationId := some (← field "KpiViolation" (Identifier.parse ("violation-" ++ digest)))
    kpiName := ← field "KpiViolation" (NonEmptyStr.parse rule.detection.kpiName)
    observedValue := observed
    thresholdValue := rule.detection.threshold
    comparator := rule.detection.comparator
    unit := rule.detection.unit
    windowStart := some start
    windowEnd := some «end»
    ruleId := some (← field "KpiViolation" (Identifier.parse rule.ruleId))
    ruleVersion := some (← field "KpiViolation" (NonEmptyStr.parse rule.version))
    resourceIds := resources.map (·.resourceId)
    dimensions := [
      ("aggregation", "arithmetic_mean_of_violating_samples"),
      ("max_gap_minutes", toString rule.detection.maxGapMinutes),
      ("quality_flags", ",".intercalate (episodeFlags episode)),
      ("sample_count", toString episode.length)] }
  validated violation.validate
  return violation

def episodeIncident (h : Host) (rule : RcaRule) (resources : List ResourceReference)
    (start «end» : Instant) (episode : List KpiObservation) (violation : KpiViolation)
    (traceId : Identifier) (incidentId : String) (evidence : List EvidenceReference) :
    Except DetectorError Incident := do
  let digest := stableDigest h [.str "detector-episode-v1", .str rule.ruleId, .str rule.version,
    .arr ((resourceIdentity resources).map fun r => .arr [.str r.1, .str r.2]), isoformat start]
  let incident : Incident := {
    incidentId := ← field "Incident" (Identifier.parse incidentId)
    correlationKey := some (← field "Incident" (Identifier.parse ("correlation-" ++ digest)))
    sourceEventIds := episode.map (·.observationId)
    technology := .lte
    title := rule.detection.kpiName ++ " KPI 异常"
    description := rule.descriptionZh
    affectedResources := resources
    detectedAt := «end»
    windowStart := some start
    windowEnd := some «end»
    violatedKpis := [violation]
    evidenceRefs := evidence
    ruleVersions := [(rule.ruleId, rule.version)]
    traceId := traceId
    createdAt := «end»
    updatedAt := «end»
    modelMetadata := [
      ("detector_algorithm", .str "deterministic-threshold-episodes-v3"),
      ("rule_content_hashes", .obj [(rule.ruleId, dumpDigest (rule.contentSha256 h))])] }
  validated (incident.modelValidate h)
  return incident

/-- `_trigger_for_episode`. The candidate is named after its snapshot and its evidence. -/
def triggerForEpisode (h : Host) (ports : Ports) (rule : RcaRule) (episode : List KpiObservation)
    (first last : KpiObservation) (traceId : Identifier) (workflowId : String) :
    Except DetectorError IncidentTrigger := do
  let resources := deduplicateResources first.resources []
  let start := first.observedAt
  let «end» := last.observedAt
  let violation ← episodeViolation h ports rule resources start «end» episode
  let snapshot := detectionSnapshot h rule resources start «end» episode
  let preview ← episodeIncident h rule resources start «end» episode violation traceId
    ("preview-" ++ stableDigest h [.str "detector-evidence-scope-v3", snapshot]) []
  let evidence := (← ports.collectEvidence preview).insertionSort fun a b => evidenceLe a b
  let digest := stableDigest h [.str "detector-candidate-v3", snapshot,
    .obj [("evidence_refs", dumpList (EvidenceReference.dump "Z") evidence)]]
  let incident ← episodeIncident h rule resources start «end» episode violation traceId
    ("incident-" ++ digest) evidence
  let summary := "发现 " ++ rule.detection.kpiName ++ " 异常：" ++ isoText "+00:00" start ++ " 至 " ++
    isoText "+00:00" «end» ++ "，共 " ++ toString episode.length ++ " 个违规采样。"
  require (summary.length ≤ 4096) (.validation (.message "IncidentTrigger"))
  return { workflowId, incident, summaryZh := summary }

def triggerLe (a b : IncidentTrigger) : Bool :=
  let start (t : IncidentTrigger) := t.incident.windowStart.getD 0
  let «end» (t : IncidentTrigger) := t.incident.windowEnd.getD 0
  decide (start a < start b) || (start a == start b && (decide («end» a < «end» b) ||
    («end» a == «end» b && textLe a.incident.incidentId.text b.incident.incidentId.text)))

/-- One candidate for each episode; an episode holds at least one observation. -/
def triggers (h : Host) (ports : Ports) (traceId : Identifier) (workflowId : String) :
    List EpisodeSpec → Except DetectorError (List IncidentTrigger)
  | [] => .ok []
  | (rule, episode) :: rest =>
    match episode.head?, episode.getLast? with
    | some first, some last => do
      let trigger ← triggerForEpisode h ports rule episode first last traceId workflowId
      return trigger :: (← triggers h ports traceId workflowId rest)
    | _, _ => triggers h ports traceId workflowId rest

/-- `scan` under a new workflow identifier. -/
def scan (h : Host) (ports : Ports) (traceId workflowId : String) (scope : ScanScope) :
    Except DetectorError (List IncidentTrigger) := do
  let traceId ← requireIdentifier h "trace_id" traceId
  requireScan (workflowId ≠ traceId) "workflow_id and trace_id must be independent"
  let (window, resourceIds) ← validatedScanScope h scope
  let rules := (← ports.rules).filter fun r => r.technology = .lte
  requireCapacity (rules.length ≤ maxCurrentRules) "detector rule capacity exceeded 32"
  if rules = [] then return []
  else do
    let kpiNames := (rules.map (·.detection.kpiName)).dedup.insertionSort fun a b => textLe a b
    let observations ← ports.queryKpis kpiNames window resourceIds
    requireCapacity (observations.length ≠ maxQueryObservations)
      ("detector observation capacity reached 50000; the scan may be incomplete, so use a " ++
        "bounded time window or paginated scan")
    let specs ← episodeSpecs observations rules []
    let trace ← field "Incident" (Identifier.parse traceId)
    let found ← triggers h ports trace workflowId specs
    let result := found.insertionSort fun a b => triggerLe a b
    assertPrivacySafe h (.arr (result.map (·.toJson))) "detector result"
    return result

/-! The incidents of a scan. -/

structure IsFresh (i : Incident) : Prop where
  status : i.status = .detected
  revision : i.revision = 0
  windowEnd : i.windowEnd = some i.detectedAt
  createdAt : i.createdAt = i.detectedAt
  updatedAt : i.updatedAt = i.detectedAt

theorem episodeIncident_fresh {h : Host} {rule : RcaRule} {resources : List ResourceReference}
    {start stop : Instant} {episode : List KpiObservation} {violation : KpiViolation}
    {traceId : Identifier} {incidentId : String} {evidence : List EvidenceReference} {i : Incident}
    (made : episodeIncident h rule resources start stop episode violation traceId incidentId
      evidence = .ok i) : IsFresh i := by
  obtain ⟨_, _, made⟩ := Checks.bind_ok.mp made
  obtain ⟨_, _, made⟩ := Checks.bind_ok.mp made
  obtain ⟨_, same⟩ := Checks.seq_ok.mp made
  cases same
  exact ⟨rfl, rfl, rfl, rfl, rfl⟩

def IncidentTrigger.under (t : IncidentTrigger) (workflowId : String) : IncidentTrigger :=
  { t with workflowId := workflowId }

section
variable {h : Host} {ports : Ports} {rule : RcaRule} {episode : List KpiObservation}
  {first last : KpiObservation} {traceId : Identifier} {workflowId : String}

theorem triggerForEpisode_fresh {t : IncidentTrigger}
    (made : triggerForEpisode h ports rule episode first last traceId workflowId = .ok t) :
    IsFresh t.incident := by
  obtain ⟨_, _, made⟩ := Checks.bind_ok.mp made
  obtain ⟨_, _, made⟩ := Checks.bind_ok.mp made
  obtain ⟨_, _, made⟩ := Checks.bind_ok.mp made
  obtain ⟨incident, built, made⟩ := Checks.bind_ok.mp made
  obtain ⟨_, same⟩ := Checks.seq_ok.mp made
  cases same
  exact episodeIncident_fresh built

theorem triggerForEpisode_under {t : IncidentTrigger} (other : String)
    (made : triggerForEpisode h ports rule episode first last traceId workflowId = .ok t) :
    triggerForEpisode h ports rule episode first last traceId other = .ok (t.under other) := by
  simp only [triggerForEpisode, Checks.bind_ok, pure, Except.pure, Except.ok.injEq] at made ⊢
  obtain ⟨violation, violated, preview, previewed, evidence, collected, incident, built, _, short,
    rfl⟩ := made
  exact ⟨violation, violated, preview, previewed, evidence, collected, incident, built, (), short,
    rfl⟩

theorem triggers_cons_ok {specs : List EpisodeSpec} {found : List IncidentTrigger}
    (ends : episode.head? = some first ∧ episode.getLast? = some last) :
    triggers h ports traceId workflowId ((rule, episode) :: specs) = .ok found ↔
      ∃ t, triggerForEpisode h ports rule episode first last traceId workflowId = .ok t ∧
        ∃ rest, triggers h ports traceId workflowId specs = .ok rest ∧ t :: rest = found := by
  simp only [triggers, ends.1, ends.2, Checks.bind_ok, pure, Except.pure, Except.ok.injEq]

theorem triggers_fresh {specs : List EpisodeSpec} {found : List IncidentTrigger}
    (made : triggers h ports traceId workflowId specs = .ok found) :
    ∀ t ∈ found, IsFresh t.incident := by
  induction specs generalizing found with
  | nil => cases made; simp
  | cons spec specs ih =>
    obtain ⟨rule, episode⟩ := spec
    cases head : episode.head? with
    | none => simp only [triggers, head] at made; exact ih made
    | some first =>
      cases final : episode.getLast? with
      | none => simp only [triggers, head, final] at made; exact ih made
      | some last =>
        obtain ⟨t, trigger, rest, more, rfl⟩ := (triggers_cons_ok ⟨head, final⟩).mp made
        intro t' member
        rcases List.mem_cons.mp member with rfl | later
        · exact triggerForEpisode_fresh trigger
        · exact ih more t' later

theorem triggers_under {specs : List EpisodeSpec} {found : List IncidentTrigger} (other : String)
    (made : triggers h ports traceId workflowId specs = .ok found) :
    triggers h ports traceId other specs = .ok (found.map (·.under other)) := by
  induction specs generalizing found with
  | nil => cases made; rfl
  | cons spec specs ih =>
    obtain ⟨rule, episode⟩ := spec
    cases head : episode.head? with
    | none => simp only [triggers, head] at made ⊢; exact ih made
    | some first =>
      cases final : episode.getLast? with
      | none => simp only [triggers, head, final] at made ⊢; exact ih made
      | some last =>
        obtain ⟨t, trigger, rest, more, rfl⟩ := (triggers_cons_ok ⟨head, final⟩).mp made
        exact (triggers_cons_ok ⟨head, final⟩).mpr
          ⟨t.under other, triggerForEpisode_under other trigger, rest.map (·.under other), ih more,
            rfl⟩

end

/-- An identifier of `uuid4`: hexadecimal digits and dashes, and not one the caller chose. -/
structure IsNewUuid (traceId workflowId : String) : Prop where
  characters : ∀ c ∈ workflowId.toList, Sha256.isHexDigit c = true ∨ c = '-'
  fresh : workflowId ≠ traceId

theorem IsNewUuid.clean {h : Host} {traceId workflowId : String}
    (new : IsNewUuid traceId workflowId) : labeledIdentifier h workflowId = false := by
  rw [labeledIdentifier, Text.chars_eq]
  apply searchFrom_of_startsNoLabel
  intro c member
  rcases new.characters c member with hex | rfl
  · exact startsNoLabel_of_hex hex
  · decide

set_option maxRecDepth 8000 in
theorem triggerPaths_under {h : Host} {t : IncidentTrigger} {path : String} {workflowId : String}
    (clean : labeledIdentifier h workflowId = false)
    (safe : findSensitivePaths h path t.toJson = []) :
    findSensitivePaths h path (t.under workflowId).toJson = [] := by
  simp only [findSensitivePaths, IncidentTrigger.toJson, IncidentTrigger.under, sensitiveFields,
    List.append_eq_nil_iff] at safe ⊢
  obtain ⟨kind, workflow, rest⟩ := safe
  refine ⟨kind, ?_, rest⟩
  have key : isSensitiveKey "workflow_id" = false := by decide
  rw [key, Bool.false_and, if_neg Bool.false_ne_true] at workflow ⊢
  split at workflow
  · cases workflow
  · next unlabelled => rw [if_neg unlabelled, clean, if_neg Bool.false_ne_true]

theorem triggerItems_under {h : Host} {ts : List IncidentTrigger} {path : String} {index : Nat}
    {workflowId : String} (clean : labeledIdentifier h workflowId = false)
    (safe : sensitiveItems h path index (ts.map (·.toJson)) = []) :
    sensitiveItems h path index ((ts.map (·.under workflowId)).map (·.toJson)) = [] := by
  induction ts generalizing index with
  | nil => rfl
  | cons t rest ih =>
    simp only [List.map_cons, sensitiveItems, List.append_eq_nil_iff] at safe ⊢
    exact ⟨triggerPaths_under clean safe.1, ih safe.2⟩

theorem scan_under {h : Host} {ports : Ports} {traceId workflowId other : String}
    {scope : ScanScope} {found : List IncidentTrigger} (new : IsNewUuid (strip traceId) other)
    (scanned : scan h ports traceId workflowId scope = .ok found) :
    scan h ports traceId other scope = .ok (found.map (·.under other)) := by
  unfold scan at scanned ⊢
  obtain ⟨trace, normal, scanned⟩ := Checks.bind_ok.mp scanned
  obtain ⟨_, scanned⟩ := Checks.seq_ok.mp scanned
  have same : trace = strip traceId := requireBounded_ok normal
  have independent : other ≠ trace := same ▸ new.fresh
  refine Checks.bind_ok.mpr ⟨trace, normal, Checks.seq_ok.mpr ⟨Checks.require_ok.mpr independent, ?_⟩⟩
  obtain ⟨⟨window, resourceIds⟩, bounded, scanned⟩ := Checks.bind_ok.mp scanned
  refine Checks.bind_ok.mpr ⟨(window, resourceIds), bounded, ?_⟩
  obtain ⟨rules, loaded, scanned⟩ := Checks.bind_ok.mp scanned
  refine Checks.bind_ok.mpr ⟨rules, loaded, ?_⟩
  obtain ⟨few, scanned⟩ := Checks.seq_ok.mp scanned
  refine Checks.seq_ok.mpr ⟨few, ?_⟩
  dsimp only at scanned ⊢
  split at scanned
  · next empty => rw [if_pos empty]; cases scanned; rfl
  · next some' =>
    rw [if_neg some']
    obtain ⟨observations, queried, scanned⟩ := Checks.bind_ok.mp scanned
    obtain ⟨complete, scanned⟩ := Checks.seq_ok.mp scanned
    obtain ⟨specs, collected, scanned⟩ := Checks.bind_ok.mp scanned
    obtain ⟨trace', parsed, scanned⟩ := Checks.bind_ok.mp scanned
    obtain ⟨ts, made, scanned⟩ := Checks.bind_ok.mp scanned
    obtain ⟨safe, answer⟩ := Checks.seq_ok.mp scanned
    refine Checks.bind_ok.mpr ⟨observations, queried, Checks.seq_ok.mpr ⟨complete, ?_⟩⟩
    refine Checks.bind_ok.mpr ⟨specs, collected, Checks.bind_ok.mpr ⟨trace', parsed, ?_⟩⟩
    refine Checks.bind_ok.mpr ⟨_, triggers_under other made, ?_⟩
    have sorted : (ts.map (·.under other)).insertionSort (fun a b => triggerLe a b) =
        (ts.insertionSort fun a b => triggerLe a b).map (·.under other) :=
      (List.map_insertionSort (fun a b => triggerLe a b = true) (fun a b => triggerLe a b = true)
        (fun t => t.under other) ts fun _ _ _ _ => Iff.rfl).symm
    rw [sorted, ← Except.ok.inj answer]
    refine Checks.seq_ok.mpr ⟨Checks.require_ok.mpr ?_, rfl⟩
    have safe := Checks.require_ok.mp safe
    simp only [findSensitivePaths] at safe ⊢
    exact triggerItems_under new.clean safe

theorem scan_fresh {h : Host} {ports : Ports} {traceId workflowId : String} {scope : ScanScope}
    {found : List IncidentTrigger} (scanned : scan h ports traceId workflowId scope = .ok found) :
    ∀ t ∈ found, IsFresh t.incident := by
  obtain ⟨trace, _, scanned⟩ := Checks.bind_ok.mp scanned
  obtain ⟨_, scanned⟩ := Checks.seq_ok.mp scanned
  obtain ⟨_, _, scanned⟩ := Checks.bind_ok.mp scanned
  obtain ⟨_, _, scanned⟩ := Checks.bind_ok.mp scanned
  obtain ⟨_, scanned⟩ := Checks.seq_ok.mp scanned
  split at scanned
  · cases scanned; simp
  · obtain ⟨_, _, scanned⟩ := Checks.bind_ok.mp scanned
    obtain ⟨_, scanned⟩ := Checks.seq_ok.mp scanned
    obtain ⟨_, _, scanned⟩ := Checks.bind_ok.mp scanned
    obtain ⟨_, _, scanned⟩ := Checks.bind_ok.mp scanned
    obtain ⟨ts, made, scanned⟩ := Checks.bind_ok.mp scanned
    obtain ⟨_, answer⟩ := Checks.seq_ok.mp scanned
    intro t member
    rw [← Except.ok.inj answer, List.mem_insertionSort] at member
    exact triggers_fresh made t member

end NetworkAgent.Local
