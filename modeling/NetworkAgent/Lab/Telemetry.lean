import Mathlib.Data.Finset.Sort
import Mathlib.Data.Int.Log
import Mathlib.Data.String.Basic
import NetworkAgent.Library.Folding
import NetworkAgent.Lab.CaseIndex
import NetworkAgent.Lab.Evaluation

/-! The aggregation of the telemetry of one opaque slot into the features of a ranking. -/
namespace NetworkAgent.Lab.Telemetry
open Checks (require each)
open Folding (Buckets)

def maxTime : Int := 10 ^ 18
def metricSeconds : Int := 1441
def microsecondsPerSecond : Int := 1000000
def metricScale : ℚ := 1000000

def logColumns : List String := ["timestamp", "container_name"]
def traceColumns : List String :=
  ["startTime", "startTimeMillis", "duration", "statusCode", "serviceName"]
def metricSignals : List String :=
  ["cpu", "mem", "diskio", "socket", "workload", "error", "latency-50", "latency-90"]

/-! The case. -/

structure CaseTiming where
  opaqueSlot : String
  injectTime : Int
  timeStart : Int
  timeEnd : Int

def CaseTiming.Valid (t : CaseTiming) : Prop :=
  isSlot t.opaqueSlot ∧ (0 ≤ t.timeStart ∧ t.timeStart ≤ maxTime) ∧
    (0 ≤ t.injectTime ∧ t.injectTime ≤ maxTime) ∧ (0 ≤ t.timeEnd ∧ t.timeEnd ≤ maxTime) ∧
    t.timeStart < t.injectTime ∧ t.injectTime ≤ t.timeEnd

instance (t : CaseTiming) : Decidable t.Valid := inferInstanceAs (Decidable (_ ∧ _))

inductive ColumnType where
  | int64 | float64 | largeString | other
  deriving DecidableEq

/-- What the aggregation reads of the contract of a parquet artifact, which names no column
twice. -/
structure ParquetContract where
  expectedSchema : List (String × ColumnType)
  projectedColumns : List String
  expectedRows : Int
  distinct : (expectedSchema.map Prod.fst).Nodup

/-- A finite float of 64 bits: a significand of 53 bits and an exponent of two. -/
structure Binary64 where
  significand : Int
  exponent : Int
  bits : |significand| < 2 ^ 53
  range : -1074 ≤ exponent ∧ exponent ≤ 971

def Binary64.value (v : Binary64) : ℚ := v.significand * 2 ^ v.exponent

inductive Float64 where
  | finite (v : Binary64)
  | notFinite

/-- A row of the metrics has a value, or none, in each column after the first. -/
structure MetricRow (columns : Nat) where
  time : Option Int
  values : List (Option Float64)
  length : values.length = columns

structure LogRow where
  timestamp : Option Int
  containerName : Option String

structure TraceRow where
  startTime : Option Int
  startTimeMillis : Option Int
  duration : Option Int
  statusCode : Option Int
  serviceName : Option String

abbrev Reading (Row : Type) := Except AdapterError (List (List Row))

/-- A case without its handles. -/
structure CaseHead where
  opaqueSlot : String
  timing : CaseTiming
  metrics : ParquetContract
  logs : ParquetContract
  traces : ParquetContract

def CaseHead.columns (c : CaseHead) : Nat := c.metrics.projectedColumns.length - 1

structure Streams (columns : Nat) where
  metrics : Reading (MetricRow columns)
  logs : Reading LogRow
  traces : Reading TraceRow

def normalizedCase (c : CaseHead) : Except AdapterError Unit := do
  require c.timing.Valid .invalidInput
  require (isSlot c.opaqueSlot ∧ c.timing.opaqueSlot = c.opaqueSlot) .invalidInput

/-! The schema. -/

def field (contract : ParquetContract) (name : String) : Except AdapterError ColumnType :=
  match contract.expectedSchema.lookup name with
  | some type => .ok type
  | none => .error .unsafeField

/-- The pattern of a metric column: the name of a service and a signal, with one underscore. -/
def parseMetricColumn (name : String) : Option (String × String) :=
  match name.toList.splitOn '_' with
  | [service, signal] =>
    if isCandidateName (String.ofList service) ∧ String.ofList signal ∈ metricSignals then
      some (String.ofList service, String.ofList signal)
    else none
  | _ => none

def parsedMetric (contract : ParquetContract) (name : String) :
    Except AdapterError (String × String) :=
  match parseMetricColumn name with
  | none => .error .unsafeField
  | some (service, signal) => do
    let type ← field contract name
    require (type = .float64) .unsafeField
    let candidate ← normalizeCandidate (some service)
    return (candidate, signal)

def requireTypes (contract : ParquetContract) (types : List (String × ColumnType)) :
    Except AdapterError Unit :=
  each (fun column => do
    let type ← field contract column.1
    require (type = column.2) .unsafeField) types

/-- `_require_schema`: the candidate and the signal of each metric column. -/
def requireSchema (c : CaseHead) : Except AdapterError (List (String × String)) := do
  require (c.timing.timeEnd - c.timing.timeStart + 1 = metricSeconds) .invalidInput
  let names := c.metrics.expectedSchema.map Prod.fst
  let timeType ← field c.metrics "time"
  require (c.metrics.expectedRows = metricSeconds ∧ names.head? = some "time" ∧
    c.metrics.projectedColumns = names ∧ timeType = .int64) .invalidInput
  let parsed ← names.tail.mapM (parsedMetric c.metrics)
  require (parsed ≠ []) .invalidInput
  require parsed.Nodup .unsafeField
  require (c.logs.projectedColumns = logColumns) .unsafeField
  requireTypes c.logs [("timestamp", .int64), ("container_name", .largeString)]
  require (c.traces.projectedColumns = traceColumns) .unsafeField
  requireTypes c.traces [("startTime", .int64), ("startTimeMillis", .int64), ("duration", .int64),
    ("statusCode", .int64), ("serviceName", .largeString)]
  return parsed

/-! Numbers. -/

/-- A decimal number of so many digits, the nearest to `q`. -/
def roundSignificant (digits : Nat) (q : ℚ) : ℚ :=
  if q = 0 then 0
  else
    let unit : ℚ := 10 ^ (Int.log 10 |q| + 1 - digits)
    roundHalfEven (q / unit) * unit

/-- `_scaled_metric`; a product of decimals has 28 digits. -/
def scaledMetric : Float64 → Except AdapterError Int
  | .notFinite => .error .invalidInput
  | .finite v => do
    let scaled := roundHalfEven (roundSignificant 28 (v.value * metricScale))
    require (|scaled| ≤ maxTotalAbsolute) .limitExceeded
    return scaled

def boundedAdd (left right : Int) : Except AdapterError Int := do
  require (|left + right| ≤ maxTotalAbsolute) .limitExceeded
  return left + right

/-! Evidence. -/

structure Cell where
  baselineTotal : Int := 0
  baselineCount : Int := 0
  observedTotal : Int := 0
  observedCount : Int := 0
  deriving DecidableEq

def evidenceId (h : Host) (candidateId modality signal : String) (cell : Cell) : String :=
  let values := [candidateId, modality, signal, cell.baselineTotal.repr, cell.baselineCount.repr,
    cell.observedTotal.repr, cell.observedCount.repr]
  "rcaevidence-" ++ (h.sha256 (utf8 "networkagent-rcaeval-evidence-v1" ++
    0 :: [0].intercalate (values.map utf8))).text

def evidence (h : Host) (candidateId : String) (modality : Modality) (signal : String)
    (cell : Cell) : EvidenceAggregate where
  evidenceId := evidenceId h candidateId modality.value signal cell
  candidateId := candidateId
  modality := modality
  baselineTotal := cell.baselineTotal
  baselineCount := cell.baselineCount
  observedTotal := cell.observedTotal
  observedCount := cell.observedCount

def aggregate (h : Host) (candidateId : String) (modality : Modality) (signal : String)
    (cell : Cell) : Except AdapterError EvidenceAggregate := do
  require (1 ≤ cell.baselineCount ∧ 1 ≤ cell.observedCount) .invalidInput
  require ((evidence h candidateId modality signal cell).Valid h) .limitExceeded
  return evidence h candidateId modality signal cell

def foldBatches {Row S : Type} (step : S → Row → Except AdapterError S) (state : S)
    (reading : Reading Row) : Except AdapterError S := do
  let batches ← reading
  batches.foldlM (fun state batch => batch.foldlM step state) state

/-! Metrics. -/

def Cell.record (baseline : Bool) (cell : Cell) : Option Int → Cell
  | none => cell
  | some value =>
    if baseline then { cell with
      baselineTotal := cell.baselineTotal + value, baselineCount := cell.baselineCount + 1 }
    else { cell with
      observedTotal := cell.observedTotal + value, observedCount := cell.observedCount + 1 }

structure MetricState where
  seenTimes : Finset Int := ∅
  states : Nat → Cell := fun _ => {}

def scaledValue : Option Float64 → Except AdapterError (Option Int)
  | none => .ok none
  | some value => some <$> scaledMetric value

def metricRow {columns : Nat} (t : CaseTiming) (state : MetricState) (row : MetricRow columns) :
    Except AdapterError MetricState :=
  match row.time with
  | none => .error .invalidInput
  | some time => do
    require (t.timeStart ≤ time ∧ time ≤ t.timeEnd ∧ time ∉ state.seenTimes) .invalidInput
    let scaled ← row.values.mapM scaledValue
    return ⟨insert time state.seenTimes,
      fun j => (state.states j).record (time < t.injectTime) (scaled[j]?.join)⟩

def metricAggregate (h : Host) (column : (String × String) × Cell) :
    Except AdapterError EvidenceAggregate := do
  let baselineTotal ← boundedAdd 0 column.2.baselineTotal
  let observedTotal ← boundedAdd 0 column.2.observedTotal
  aggregate h column.1.1 .metric column.1.2 { column.2 with baselineTotal, observedTotal }

def range (start stop : Int) : List Int :=
  (List.range (stop - start).toNat).map fun k : Nat => start + k

def metricAggregates {columns : Nat} (h : Host) (t : CaseTiming) (parsed : List (String × String))
    (rows : Reading (MetricRow columns)) : Except AdapterError (List EvidenceAggregate) := do
  let state ← foldBatches (metricRow t) {} rows
  require (state.seenTimes = (range t.timeStart (t.timeEnd + 1)).toFinset) .invalidInput
  (parsed.zipIdx.map fun column => (column.1, state.states column.2)).mapM (metricAggregate h)

/-! Logs. -/

/-- A line of a log counts for its candidate, before the fault or from it on. -/
structure Line where
  candidate : String
  baseline : Bool
  deriving DecidableEq

def readLine (t : CaseTiming) (row : LogRow) : Except AdapterError Line :=
  match row.timestamp with
  | none => .error .invalidInput
  | some time => do
    require (t.timeStart ≤ time ∧ time ≤ t.timeEnd) .invalidInput
    let candidate ← normalizeCandidate row.containerName
    return ⟨candidate, time < t.injectTime⟩

def addLine (totals : Int × Int) (line : Line) : Except AdapterError (Int × Int) :=
  .ok (if line.baseline then (totals.1 + 1, totals.2) else (totals.1, totals.2 + 1))

def logRow (t : CaseTiming) (totals : Buckets String (Int × Int)) (row : LogRow) :
    Except AdapterError (Buckets String (Int × Int)) := do
  let line ← readLine t row
  totals.record Line.candidate addLine line

def logCell (t : CaseTiming) (totals : Int × Int) : Cell where
  baselineTotal := totals.1
  baselineCount := t.injectTime - t.timeStart
  observedTotal := totals.2
  observedCount := t.timeEnd - t.injectTime + 1

def logAggregates (h : Host) (t : CaseTiming) (rows : Reading LogRow) :
    Except AdapterError (List EvidenceAggregate) := do
  let totals ← foldBatches (logRow t) ⟨∅, fun _ => (0, 0)⟩ rows
  totals.keys.sort.mapM fun candidate =>
    aggregate h candidate .log "event-rate" (logCell t (totals.states candidate))

/-! Traces. -/

def traceStartUs (start startMillis : Option Int) : Except AdapterError Int :=
  match start, startMillis with
  | some start, some startMillis => do
    require (0 ≤ start ∧ 0 ≤ startMillis) .invalidInput
    require (start / 1000 = startMillis) .invalidInput
    return start
  | _, _ => .error .invalidInput

structure Span where
  candidate : String
  baseline : Bool
  duration : Int
  deriving DecidableEq

def readSpan (t : CaseTiming) (row : TraceRow) : Except AdapterError Span := do
  let startUs ← traceStartUs row.startTime row.startTimeMillis
  match row.duration with
  | none => .error .invalidInput
  | some duration =>
    require (0 < duration) .invalidInput
    let endUs := startUs + duration
    require (t.timeStart * microsecondsPerSecond ≤ startUs ∧
      endUs < (t.timeEnd + 1) * microsecondsPerSecond) .invalidInput
    require (row.statusCode = none ∨ row.statusCode = some 0) .invalidInput
    let candidate ← normalizeCandidate row.serviceName
    return ⟨candidate, endUs < t.injectTime * microsecondsPerSecond, duration⟩

def addSpan (cell : Cell) (span : Span) : Except AdapterError Cell :=
  if span.baseline then do
    let baselineTotal ← boundedAdd cell.baselineTotal span.duration
    return { cell with baselineTotal, baselineCount := cell.baselineCount + 1 }
  else do
    let observedTotal ← boundedAdd cell.observedTotal span.duration
    return { cell with observedTotal, observedCount := cell.observedCount + 1 }

def traceRow (t : CaseTiming) (totals : Buckets String Cell) (row : TraceRow) :
    Except AdapterError (Buckets String Cell) := do
  let span ← readSpan t row
  totals.record Span.candidate addSpan span

def Cell.Compared (cell : Cell) : Prop := 1 ≤ cell.baselineCount ∧ 1 ≤ cell.observedCount

instance (cell : Cell) : Decidable cell.Compared := inferInstanceAs (Decidable (_ ∧ _))

/-- A candidate without a span on one of the sides is passed over. -/
def traceAggregates (h : Host) (t : CaseTiming) (rows : Reading TraceRow) :
    Except AdapterError (List EvidenceAggregate) := do
  let totals ← foldBatches (traceRow t) ⟨∅, fun _ => {}⟩ rows
  (totals.keys.sort.filter fun candidate => (totals.states candidate).Compared).mapM
    fun candidate => aggregate h candidate .trace "duration-us" (totals.states candidate)

/-! The case. -/

def aggregateLe : EvidenceAggregate → EvidenceAggregate → Bool :=
  Sorting.byKey textLe (·.candidateId) (Sorting.byKey textLe (·.modality.value)
    fun a b => textLe a.evidenceId b.evidenceId)

def adaptRcaevalCase (h : Host) (c : CaseHead) (s : Streams c.columns) :
    Except AdapterError (String × RcaFeatureSet) := do
  normalizedCase c
  let parsed ← requireSchema c
  let metrics ← metricAggregates h c.timing parsed s.metrics
  let logs ← logAggregates h c.timing s.logs
  let traces ← traceAggregates h c.timing s.traces
  let features : RcaFeatureSet :=
    { aggregates := (metrics ++ logs ++ traces).insertionSort fun a b => aggregateLe a b }
  require (features.Valid h) .limitExceeded
  return (c.opaqueSlot, features)

end NetworkAgent.Lab.Telemetry
