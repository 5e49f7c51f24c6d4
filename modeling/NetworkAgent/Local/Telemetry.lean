import Mathlib.Algebra.Order.Ring.Unbundled.Rat
import Mathlib.Algebra.Ring.Rat
import NetworkAgent.Library.Items
import NetworkAgent.Local.Scan

/-! The telemetry adapter: its KPI queries, and the evidence it collects for an incident. Each
reference carries the normalised resources of the incident and the window that was read. -/
namespace NetworkAgent.Local
open Items (setItem setItems)

def parseLteResourceId (value : String) : Except DetectorError (String × Option String) :=
  match ((Text.chars (strip value)).splitOn ':').map String.ofList with
  | ["lte", "enodeb", enodeb] => do
    return (← normalizeLteIdentifier "eNodeB" enodeb, none)
  | ["lte", "enodeb", enodeb, "cell", cell] => do
    let enodeb ← normalizeLteIdentifier "eNodeB" enodeb
    return (enodeb, some (← normalizeLteIdentifier "Cell" cell))
  | _ => .error (.value "invalid canonical LTE resource identifier")

/-- `canonical_lte_resource_id`. -/
def canonicalResourceId (enodeb : String) (cell : Option String) : Except DetectorError String := do
  let enodeb ← normalizeLteIdentifier "eNodeB" enodeb
  match cell with
  | none => return "lte:enodeb:" ++ enodeb
  | some cell => return "lte:enodeb:" ++ enodeb ++ ":cell:" ++ (← normalizeLteIdentifier "Cell" cell)

/-! Resources. -/

/-- `_resources`. -/
def observedResources (enodeb cell : String) : Except DetectorError (List ResourceReference) := do
  let enodeb ← normalizeLteIdentifier "eNodeB" enodeb
  let cell ← normalizeLteIdentifier "Cell" cell
  let enodebId ← field "ResourceReference" (Identifier.parse (← canonicalResourceId enodeb none))
  let cellId ←
    field "ResourceReference" (Identifier.parse (← canonicalResourceId enodeb (some cell)))
  return [
    { resourceId := enodebId, resourceType := .enodeb, technology := some .lte,
      externalIds := [("enodeb_id", enodeb)] },
    { resourceId := cellId, resourceType := .cell, technology := some .lte,
      parentResourceId := some enodebId,
      externalIds := [("enodeb_id", enodeb), ("cell_id", cell)] }]

def checkExternal (component key expected : String) (externalIds : List (String × String)) :
    Except DetectorError Unit :=
  match externalIds.lookup key with
  | none => .ok ()
  | some raw => do
    let external ← normalizeLteIdentifier component raw
    requireScan (external = expected) ("inconsistent LTE " ++ component ++ " resource identity")

def checkParent (enodeb : String) : Option Identifier → Except DetectorError Unit
  | none => .ok ()
  | some parent => do
    let (parentEnodeb, parentCell) ← parseLteResourceId parent.text
    requireScan (parentCell = none ∧ parentEnodeb = enodeb) "invalid canonical LTE Cell parent"

def normalizedEnodeb (r : ResourceReference) (enodeb : String) (cell : Option String) :
    Except DetectorError ResourceReference := do
  requireScan (cell = none ∧ r.parentResourceId = none) "invalid canonical LTE eNodeB resource"
  let canonicalId ← canonicalResourceId enodeb none
  checkExternal "eNodeB" "enodeb_id" enodeb r.externalIds
  requireScan (r.externalIds.lookup "cell_id" = none) "invalid LTE eNodeB external identifiers"
  let resourceId ← field "ResourceReference" (Identifier.parse canonicalId)
  return { r with
    resourceId
    parentResourceId := none
    externalIds := setItem r.externalIds "enodeb_id" enodeb }

def normalizedCell (r : ResourceReference) (enodeb cell : String) :
    Except DetectorError ResourceReference := do
  let canonicalId ← canonicalResourceId enodeb (some cell)
  let canonicalParent ← canonicalResourceId enodeb none
  checkParent enodeb r.parentResourceId
  checkExternal "eNodeB" "enodeb_id" enodeb r.externalIds
  checkExternal "Cell" "cell_id" cell r.externalIds
  let resourceId ← field "ResourceReference" (Identifier.parse canonicalId)
  let parentResourceId ← field "ResourceReference" (Identifier.parse canonicalParent)
  return { r with
    resourceId
    parentResourceId := some parentResourceId
    externalIds := setItem (setItem r.externalIds "enodeb_id" enodeb) "cell_id" cell }

def normalizedLteResource (r : ResourceReference) : Except DetectorError ResourceReference := do
  requireScan (r.technology = some .lte) "Local Profile resources must use LTE technology"
  requireScan (r.resourceType = .enodeb ∨ r.resourceType = .cell)
    "Local Profile supports only LTE eNodeB/Cell resources"
  let (enodeb, cell) ← parseLteResourceId r.resourceId.text
  if r.resourceType = .enodeb then normalizedEnodeb r enodeb cell
  else match cell with
    | some cell => normalizedCell r enodeb cell
    | none => .error (.value "invalid canonical LTE Cell resource")

abbrev CellPair := String × String

def cellPairs : List ResourceReference → Except DetectorError (List CellPair)
  | [] => .ok []
  | r :: rest => do
    let normalized ← normalizedLteResource r
    if normalized.resourceType ≠ .cell then cellPairs rest
    else do
      let (enodeb, cell) ← parseLteResourceId normalized.resourceId.text
      let pairs ← cellPairs rest
      return match cell with
        | some cell => (enodeb, cell) :: pairs
        | none => pairs

def cellScope (resources : List ResourceReference) : Except DetectorError (List CellPair) := do
  let pairs ← cellPairs resources
  return pairs.dedup.insertionSort fun a b => pairLe a b

def evidenceResourceScope (resources : List ResourceReference) :
    Except DetectorError (List Json) := do
  let normalized ← resources.mapM normalizedLteResource
  requireScan (normalized.map (·.resourceId)).Nodup "duplicate canonical LTE resource identities"
  return (normalized.insertionSort fun a b => textLe a.resourceId.text b.resourceId.text).map
    (·.stableIdentity)

/-! The telemetry store. A reading that is null or not finite is `none`. -/

inductive TraceOutcome where
  | success | failure | failedSecuritySetup | other
  deriving DecidableEq

def TraceOutcome.value : TraceOutcome → String
  | .success => "SUCCESS" | .failure => "FAILURE"
  | .failedSecuritySetup => "FAILED_SECURITY_SETUP" | .other => "OTHER"

structure KpiRow where
  enodeb : String
  cell : String
  measurementEnd : Instant
  sourceRowId : Int
  kpiName : String
  value : Option ℚ
  deriving DecidableEq

structure KpiQuery where
  kpiNames : List String
  windowStart : Option Instant
  windowEnd : Option Instant
  enodebs : List String
  cells : List CellPair
  limit : Nat
  deriving DecidableEq

/-- The queries of the adapter, and the arithmetic of binary64 numbers. -/
structure Telemetry where
  performanceKpi : KpiQuery → Except DetectorError (List KpiRow)
  uplinkRssi : List CellPair → Instant → Instant → Except DetectorError (Option ℚ)
  cellTraces : List CellPair → Instant → Instant → Except DetectorError (List (TraceOutcome × Nat))
  mean : List ℚ → ℚ
  ratio : Nat → Nat → ℚ

def maxKpiSelectors : Nat := 16
def maxResourceSelectors : Nat := 1000

def kpiUnits : List (String × String) :=
  [("erab_success_rate", "%"), ("retainability", "releases/hour"), ("uplink_rssi_avg", "dBm")]

def qualityFlags (kpiName : String) (value : ℚ) : List String :=
  let flags := if kpiName = "erab_success_rate" then
      (if 100 < value then ["ERAB_SUCCESS_RATE_ABOVE_100_PERCENT"] else []) ++
        if value < 0 then ["ERAB_SUCCESS_RATE_BELOW_ZERO_PERCENT"] else []
    else if kpiName = "retainability" ∧ value < 0 then ["RETAINABILITY_BELOW_ZERO"]
    else []
  flags ++ ["SOURCE_TIMEZONE_ASSUMED_UTC"]

def resourceSelector (raw : String) : Except DetectorError (String × Option String) := do
  let resourceId := strip raw
  requireScan (resourceId ≠ "" ∧ resourceId.length ≤ 256)
    "resource_ids contain an invalid identifier"
  parseLteResourceId resourceId

def effectiveEnodebs (selectors : List (String × Option String)) : List String :=
  let enodebs := (selectors.filter (·.2.isNone)).map (·.1)
  let withCells := (selectors.filter (·.2.isSome)).map (·.1)
  (enodebs.filter fun e => e ∉ withCells).dedup.insertionSort fun a b => textLe a b

def selectedCells (selectors : List (String × Option String)) : List CellPair :=
  (selectors.filterMap fun s => s.2.map fun cell => (s.1, cell)).dedup.insertionSort
    fun a b => pairLe a b

/-- The observation of a row; a row without a finite value has none. -/
def observationOf (h : Host) (row : KpiRow) : Except DetectorError (Option KpiObservation) := do
  assertPrivacySafe h (.obj [("enodeb_id", .str row.enodeb), ("cell_id", .str row.cell)])
    "telemetry resource"
  let enodeb ← normalizeLteIdentifier "eNodeB" row.enodeb
  let cell ← normalizeLteIdentifier "Cell" row.cell
  let resources ← observedResources enodeb cell
  match row.value with
  | none => return none
  | some value => do
    let digest := stableDigest h [.str "kpi-observation-v1", .str row.kpiName, .str enodeb,
      .str cell, isoformat row.measurementEnd, .int row.sourceRowId]
    return some {
      observationId := ← field "KpiObservation" (Identifier.parse ("observation-" ++ digest))
      kpiName := ← field "KpiObservation" (NonEmptyStr.parse row.kpiName)
      observedValue := value
      observedAt := row.measurementEnd
      resources
      unit := some (← field "KpiObservation" ((kpiUnits.lookup row.kpiName).bind NonEmptyStr.parse))
      qualityFlags := ← (qualityFlags row.kpiName value).mapM fun flag =>
        field "KpiObservation" (NonEmptyStr.parse flag) }

def queryKpis (h : Host) (t : Telemetry) (kpiNames : List String) (technology : Technology)
    (windowStart windowEnd : Option Instant) (resourceIds : List String) (limit : Nat) :
    Except DetectorError (List KpiObservation) := do
  requireScan (1 ≤ limit ∧ limit ≤ maxQueryObservations) "limit must be between 1 and 50000"
  if technology ≠ .lte then return []
  else do
    requireScan (kpiNames.length ≤ maxKpiSelectors) "kpi_names must contain at most 16 items"
    requireScan (resourceIds.length ≤ maxResourceSelectors)
      "resource_ids must contain at most 1000 items"
    assertPrivacySafe h (.obj [("kpi_names", .arr (kpiNames.map .str)),
      ("resource_ids", .arr (resourceIds.map .str))]) "telemetry query"
    let requested := (kpiNames.map strip).dedup.insertionSort fun a b => textLe a b
    requireScan ("" ∉ requested) "kpi_names must not contain empty values"
    requireScan (∀ name ∈ requested, name ∈ kpiUnits.map Prod.fst) "unsupported KPI name"
    if requested = [] then return []
    else do
      requireScan (∀ start ∈ windowStart, ∀ stop ∈ windowEnd, start ≤ stop)
        "window_end must not be earlier than window_start"
      let selectors ← resourceIds.mapM resourceSelector
      let rows ← t.performanceKpi {
        kpiNames := requested
        windowStart
        windowEnd
        enodebs := effectiveEnodebs selectors
        cells := selectedCells selectors
        limit }
      let observations ← rows.mapM (observationOf h)
      let result := observations.filterMap id
      assertPrivacySafe h (.arr (result.map fun o => .obj
        [("observation_id", dumpId o.observationId), ("kpi_name", dumpId o.kpiName),
         ("resources", dumpList ResourceReference.toJson o.resources),
         ("unit", optional dumpId o.unit), ("quality_flags", dumpList dumpId o.qualityFlags)]))
        "telemetry result"
      return result

/-! The evidence. -/

def effectiveWindow (i : Incident) (windowStart windowEnd : Option Instant) :
    Except DetectorError (Instant × Instant) :=
  match windowStart.or i.windowStart, windowEnd.or i.windowEnd with
  | some start, some stop => do
    requireScan (start ≤ stop) "window_end must not be earlier than window_start"
    requireScan (∀ bound ∈ i.windowStart, bound ≤ start)
      "evidence window must not expand the Incident window"
    requireScan (∀ bound ∈ i.windowEnd, stop ≤ bound)
      "evidence window must not expand the Incident window"
    return (start, stop)
  | _, _ => .error (.value "a bounded evidence window is required")

def telemetryReference (digest table kind : String) (evidenceType : EvidenceType) (summary : String)
    (collectedAt : Instant) (attributes : Dict) : Except DetectorError EvidenceReference := do
  return {
    evidenceId := ← field "EvidenceReference" (Identifier.parse ("evidence-" ++ digest))
    evidenceType
    uri := ← field "EvidenceReference"
      (NonEmptyStr.parse ("duckdb://" ++ table ++ "/aggregate/" ++ digest))
    source := some (← field "EvidenceReference" (NonEmptyStr.parse "local-duckdb"))
    summary := some summary
    collectedAt := some collectedAt
    contentType := some (← field "EvidenceReference"
      (NonEmptyStr.parse ("application/vnd.telco." ++ kind ++ "-summary+json")))
    checksumSha256 := some digest
    attributes }

def validSamples (samples : List KpiObservation) : List KpiObservation :=
  samples.filter fun o => o.qualityFlags.all (·.text = "SOURCE_TIMEZONE_ASSUMED_UTC")

def extreme (pick : ℚ → ℚ → ℚ) : List ℚ → Json
  | [] => .null
  | x :: xs => .float (xs.foldl pick x)

def metricAttributes (t : Telemetry) (kpiName : String) (samples : List KpiObservation)
    (uplink : Option ℚ) (scope : List Json) (truncated : Bool) (start stop : Instant) : Dict :=
  let valid := validSamples samples
  let values := valid.map (·.observedValue)
  [("aggregation", .str "arithmetic_mean"),
   ("data_quality_only", .bool valid.isEmpty),
   ("facts", .obj (setItems []
     ((if values = [] then [] else [("kpi." ++ kpiName, .float (t.mean values))]) ++
       match uplink with
       | some value => [("uplink_rssi_avg", .float value)]
       | none => []))),
   ("kpi_name", .str kpiName),
   ("maximum", extreme max values), ("minimum", extreme min values),
   ("quality_flags", .arr ((episodeFlags samples).map .str)),
   ("resource_scope", .arr scope),
   ("sample_count", .int valid.length), ("total_sample_count", .int samples.length),
   ("valid_sample_count", .int valid.length),
   ("invalid_sample_count", .int (samples.length - valid.length)),
   ("truncated", .bool truncated),
   ("window_end", isoformat stop), ("window_start", isoformat start)]

/-- The reference of one KPI; a KPI without samples has none. -/
def metricEvidence (h : Host) (t : Telemetry) (selected : List KpiObservation)
    (uplink : Option ℚ) (scope : List Json) (truncated : Bool) (start stop : Instant)
    (kpiName : String) : Except DetectorError (Option EvidenceReference) :=
  match selected.filter (·.kpiName.text = kpiName) with
  | [] => .ok none
  | sample :: samples => do
    let attributes :=
      metricAttributes t kpiName (sample :: samples) uplink scope truncated start stop
    let digest := stableDigest h [.str "metric-evidence-v1", .str kpiName,
      .arr ((sample :: samples).map fun o => dumpId o.observationId), .obj attributes]
    return some (← telemetryReference digest "performance_kpi" "metric" .metric
      (kpiName ++ " 的 LTE Cell 时间窗聚合统计。") stop attributes)

def TraceOutcome.isFailure : TraceOutcome → Bool
  | .failure | .failedSecuritySetup => true
  | .success | .other => false

def traceAttributes (t : Telemetry) (rows : List (TraceOutcome × Nat)) (scope : List Json)
    (start stop : Instant) : Dict :=
  let failures : Nat := ((rows.filter (·.1.isFailure)).map (·.2)).sum
  let security : Nat := (rows.lookup .failedSecuritySetup).getD 0
  [("facts", .obj
     [("failed_security_setup_count", .int security), ("failure_count", .int failures),
      ("failed_security_setup_ratio",
        .float (if failures = 0 then 0 else t.ratio security failures))]),
   ("outcome_counts", .obj (rows.map fun r => (r.1.value, .int r.2))),
   ("resource_scope", .arr scope),
   ("sample_count", .int ((rows.map (·.2)).sum : Nat)),
   ("window_end", isoformat stop), ("window_start", isoformat start)]

def traceEvidence (h : Host) (t : Telemetry) (pairs : List CellPair) (scope : List Json)
    (start stop : Instant) : Except DetectorError (Option EvidenceReference) :=
  if pairs = [] then .ok none
  else do
    let rows ← t.cellTraces pairs start stop
    if rows = [] then return none
    else do
      let attributes := traceAttributes t rows scope start stop
      let digest := stableDigest h [.str "trace-evidence-v1",
        .arr (pairs.map fun p => .arr [.str p.1, .str p.2]), isoformat start, isoformat stop,
        .obj attributes]
      return some (← telemetryReference digest "cell_traces" "trace" .trace
        "同一 LTE Cell 与时间窗内的安全 Trace 聚合统计。" stop attributes)

def uplinkRssiAverage (t : Telemetry) (pairs : List CellPair) (start stop : Instant) :
    Except DetectorError (Option ℚ) :=
  if pairs = [] then .ok none else t.uplinkRssi pairs start stop

def violatedKpiNames (i : Incident) : List String :=
  (i.violatedKpis.map (·.kpiName.text)).dedup.insertionSort fun a b => textLe a b

/-- The observations of the violated KPIs; one more than the limit tells that some are left. -/
def incidentObservations (h : Host) (t : Telemetry) (names resourceIds : List String)
    (start stop : Instant) (limit : Nat) : Except DetectorError (List KpiObservation) :=
  if names = [] then .ok []
  else queryKpis h t names .lte (some start) (some stop) resourceIds
    (min (limit + 1) maxQueryObservations)

def collectEvidence (h : Host) (t : Telemetry) (i : Incident)
    (windowStart windowEnd : Option Instant) (limit : Nat) :
    Except DetectorError (List EvidenceReference) := do
  requireScan (1 ≤ limit ∧ limit ≤ 1000) "limit must be between 1 and 1000"
  assertPrivacySafe h i.toJson "evidence request"
  if i.technology ≠ .lte then return []
  else do
    let (start, stop) ← effectiveWindow i windowStart windowEnd
    let pairs ← cellScope i.affectedResources
    let scope ← evidenceResourceScope i.affectedResources
    let normalized ← i.affectedResources.mapM normalizedLteResource
    let names := violatedKpiNames i
    let resourceIds := normalized.map (·.resourceId.text)
    let observations ← incidentObservations h t names resourceIds start stop limit
    let selected := observations.take limit
    let uplink ← uplinkRssiAverage t pairs start stop
    let metrics ← names.mapM (metricEvidence h t selected uplink scope
      (decide (limit < observations.length)) start stop)
    let trace ← traceEvidence h t pairs scope start stop
    let result := (metrics.filterMap id ++ trace.toList).take limit
    assertPrivacySafe h (dumpList (EvidenceReference.dump "Z") result) "evidence result"
    return result

end NetworkAgent.Local
