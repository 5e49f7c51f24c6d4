import NetworkAgent.Lab.TelemetryLayout

/-! The evidence of a case: one for each column of the metrics, each candidate of the log and each
candidate with spans on both sides, over what the rows give. -/
namespace NetworkAgent.Lab.Telemetry
open Checks (bind_ok require_ok mapM_ok)

def Reads {Row E : Type} (read : Row → Except AdapterError E) (reading : Reading Row)
    (entries : List E) : Prop :=
  ∃ batches, reading = .ok batches ∧ batches.flatten.mapM read = .ok entries

def columnCell (t : CaseTiming) (seconds : List Second) (j : Nat) : Cell :=
  Cell.of (columnValues t seconds j true) (columnValues t seconds j false)

def metricEvidence (h : Host) (t : CaseTiming) (parsed : List (String × String))
    (seconds : List Second) : List EvidenceAggregate :=
  parsed.zipIdx.map fun column =>
    evidence h column.1.1 .metric column.1.2 (columnCell t seconds column.2)

local instance texts_trans : IsTrans String (· ≤ ·) := inferInstance

local instance texts_antisymm : Std.Antisymm (α := String) (· ≤ ·) := inferInstance

def logEvidence (h : Host) (t : CaseTiming) (lines : List Line) : List EvidenceAggregate :=
  (lines.map Line.candidate).toFinset.sort.map fun candidate =>
    evidence h candidate .log "event-rate" (logCell t (lineTotals lines candidate))

def traceEvidence (h : Host) (spans : List Span) : List EvidenceAggregate :=
  ((spans.map Span.candidate).toFinset.sort.filter
    fun candidate => (traceCell spans candidate).Compared).map
      fun candidate => evidence h candidate .trace "duration-us" (traceCell spans candidate)

theorem aggregate_ok {h : Host} {candidateId signal : String} {modality : Modality} {cell : Cell}
    {a : EvidenceAggregate} : aggregate h candidateId modality signal cell = .ok a ↔
      (1 ≤ cell.baselineCount ∧ 1 ≤ cell.observedCount) ∧
        (evidence h candidateId modality signal cell).Valid h ∧
        evidence h candidateId modality signal cell = a := by
  simp [aggregate, bind_ok, pure, Except.pure]

theorem metricAggregate_ok {h : Host} {column : (String × String) × Cell} {a : EvidenceAggregate}
    (done : metricAggregate h column = .ok a) :
    a = evidence h column.1.1 .metric column.1.2 column.2 := by
  simp only [metricAggregate, bind_ok, boundedAdd_ok, zero_add] at done
  obtain ⟨_, ⟨-, rfl⟩, _, ⟨-, rfl⟩, done⟩ := done
  exact (aggregate_ok.mp done).2.2.symm

theorem aggregates_made {K : Type} {make : K → Except AdapterError EvidenceAggregate}
    {made : K → EvidenceAggregate} (own : ∀ k a, make k = .ok a → a = made k) {keys : List K}
    {out : List EvidenceAggregate} (done : keys.mapM make = .ok out) : out = keys.map made := by
  rw [← Checks.mapM_map own done, List.map_id']

theorem metricAggregates_ok {columns : Nat} {h : Host} {t : CaseTiming}
    {parsed : List (String × String)} {reading : Reading (MetricRow columns)}
    {out : List EvidenceAggregate} (done : metricAggregates h t parsed reading = .ok out) :
    ∃ seconds, Reads (readSecond t) reading seconds ∧ (seconds.map Prod.fst).Nodup ∧
      out = metricEvidence h t parsed seconds := by
  obtain ⟨state, folded, rest⟩ := bind_ok.mp done
  obtain ⟨_, _, made⟩ := bind_ok.mp rest
  obtain ⟨batches, read, folded⟩ := foldBatches_ok.mp folded
  obtain ⟨seconds, known, distinct, rfl⟩ := metrics_fold.mp folded
  refine ⟨seconds, ⟨batches, read, known⟩, distinct, ?_⟩
  rw [aggregates_made (fun column a => metricAggregate_ok) made, List.map_map]
  rfl

theorem logAggregates_ok {h : Host} {t : CaseTiming} {reading : Reading LogRow}
    {out : List EvidenceAggregate} (done : logAggregates h t reading = .ok out) :
    ∃ lines, Reads (readLine t) reading lines ∧ out = logEvidence h t lines := by
  obtain ⟨totals, folded, made⟩ := bind_ok.mp done
  obtain ⟨batches, read, folded⟩ := foldBatches_ok.mp folded
  obtain ⟨lines, known, rfl⟩ := logs_fold.mp folded
  refine ⟨lines, ⟨batches, read, known⟩, ?_⟩
  exact aggregates_made (fun k a made => (aggregate_ok.mp made).2.2.symm) made

theorem traceAggregates_ok {h : Host} {t : CaseTiming} {reading : Reading TraceRow}
    {out : List EvidenceAggregate} (done : traceAggregates h t reading = .ok out) :
    ∃ spans, Reads (readSpan t) reading spans ∧ out = traceEvidence h spans := by
  obtain ⟨totals, folded, made⟩ := bind_ok.mp done
  obtain ⟨batches, read, folded⟩ := foldBatches_ok.mp folded
  obtain ⟨spans, known, rfl, -⟩ := traces_fold.mp folded
  refine ⟨spans, ⟨batches, read, known⟩, ?_⟩
  exact aggregates_made (fun k a made => (aggregate_ok.mp made).2.2.symm) made

/-- What the evidence of a case counts: each value of a column on one side, each line and each
duration on one side for its candidate. A candidate with spans on one side only has no trace. -/
structure Counted (h : Host) (t : CaseTiming) (parsed : List (String × String))
    (seconds : List Second) (lines : List Line) (spans : List Span)
    (aggregates : List EvidenceAggregate) : Prop where
  made : aggregates.Perm
    (metricEvidence h t parsed seconds ++ logEvidence h t lines ++ traceEvidence h spans)
  values : ∀ j, (columnValues t seconds j true ++ columnValues t seconds j false).Perm
    (seconds.filterMap fun e => e.2[j]?.join)
  sides : ∀ candidate, (lineTotals lines candidate).1 + (lineTotals lines candidate).2 =
    lines.countP (·.candidate = candidate)
  line : ∀ line ∈ lines, ∃! a, a ∈ aggregates ∧ a.modality = .log ∧ a.candidateId = line.candidate
  durations : ∀ own, (sideDurations own true ++ sideDurations own false).Perm
    (own.map Span.duration)
  span : ∀ span ∈ spans, (traceCell spans span.candidate).Compared →
    ∃! a, a ∈ aggregates ∧ a.modality = .trace ∧ a.candidateId = span.candidate

theorem filter_sides {E : Type} (side : E → Bool) (entries : List E) :
    (entries.filter (fun e => side e = true) ++ entries.filter fun e => side e = false).Perm
      entries := by
  have split := List.filter_append_perm side entries
  simpa using split

theorem columnValues_sides (t : CaseTiming) (seconds : List Second) (j : Nat) :
    (columnValues t seconds j true ++ columnValues t seconds j false).Perm
      (seconds.filterMap fun e => e.2[j]?.join) := by
  have split := (filter_sides (Second.baseline t) seconds).filterMap fun e => e.2[j]?.join
  rwa [List.filterMap_append] at split

theorem sideDurations_sides (spans : List Span) :
    (sideDurations spans true ++ sideDurations spans false).Perm (spans.map Span.duration) := by
  have split := (filter_sides Span.baseline spans).map Span.duration
  rwa [List.map_append] at split

theorem lineTotals_sides (lines : List Line) (candidate : String) :
    (lineTotals lines candidate).1 + (lineTotals lines candidate).2 =
      lines.countP (·.candidate = candidate) := by
  have split := List.length_eq_countP_add_countP (·.baseline)
    (l := lines.filter (·.candidate = candidate))
  rw [List.countP_eq_length_filter, split]
  simp [lineTotals]

theorem log_unique {h : Host} {t : CaseTiming} {lines : List Line} {line : Line}
    (member : line ∈ lines) : ∃! a, a ∈ logEvidence h t lines ∧ a.candidateId = line.candidate := by
  refine ⟨_, ⟨List.mem_map.mpr ⟨line.candidate, ?_, rfl⟩, rfl⟩, ?_⟩
  · rw [Finset.mem_sort, List.mem_toFinset]
    exact List.mem_map_of_mem member
  · rintro a ⟨inside, same⟩
    obtain ⟨candidate, -, rfl⟩ := List.mem_map.mp inside
    cases same
    rfl

theorem trace_unique {h : Host} {spans : List Span} {span : Span} (member : span ∈ spans)
    (compared : (traceCell spans span.candidate).Compared) :
    ∃! a, a ∈ traceEvidence h spans ∧ a.candidateId = span.candidate := by
  refine ⟨_, ⟨List.mem_map.mpr ⟨span.candidate, ?_, rfl⟩, rfl⟩, ?_⟩
  · rw [List.mem_filter, Finset.mem_sort, List.mem_toFinset]
    exact ⟨List.mem_map_of_mem member, decide_eq_true compared⟩
  · rintro a ⟨inside, same⟩
    obtain ⟨candidate, -, rfl⟩ := List.mem_map.mp inside
    cases same
    rfl

theorem metric_modality {h : Host} {t : CaseTiming} {parsed : List (String × String)}
    {seconds : List Second} {a : EvidenceAggregate}
    (member : a ∈ metricEvidence h t parsed seconds) :
    a.modality = .metric := by
  obtain ⟨column, -, rfl⟩ := List.mem_map.mp member
  rfl

theorem log_modality {h : Host} {t : CaseTiming} {lines : List Line} {a : EvidenceAggregate}
    (member : a ∈ logEvidence h t lines) : a.modality = .log := by
  obtain ⟨candidate, -, rfl⟩ := List.mem_map.mp member
  rfl

theorem trace_modality {h : Host} {spans : List Span} {a : EvidenceAggregate}
    (member : a ∈ traceEvidence h spans) : a.modality = .trace := by
  obtain ⟨candidate, -, rfl⟩ := List.mem_map.mp member
  rfl

theorem counted {h : Host} {t : CaseTiming} {parsed : List (String × String)}
    {seconds : List Second} {lines : List Line} {spans : List Span}
    {aggregates : List EvidenceAggregate} (made : aggregates.Perm
      (metricEvidence h t parsed seconds ++ logEvidence h t lines ++ traceEvidence h spans)) :
    Counted h t parsed seconds lines spans aggregates := by
  have logs : ∀ a, a ∈ aggregates ∧ a.modality = .log ↔ a ∈ logEvidence h t lines := fun a => by
    rw [made.mem_iff, List.mem_append, List.mem_append]
    constructor
    · rintro ⟨(metric | log) | trace, kind⟩
      · cases (metric_modality metric).symm.trans kind
      · exact log
      · cases (trace_modality trace).symm.trans kind
    · exact fun log => ⟨.inl (.inr log), log_modality log⟩
  have traces : ∀ a, a ∈ aggregates ∧ a.modality = .trace ↔ a ∈ traceEvidence h spans := fun a => by
    rw [made.mem_iff, List.mem_append, List.mem_append]
    constructor
    · rintro ⟨(metric | log) | trace, kind⟩
      · cases (metric_modality metric).symm.trans kind
      · cases (log_modality log).symm.trans kind
      · exact trace
    · exact fun trace => ⟨.inr trace, trace_modality trace⟩
  refine ⟨made, columnValues_sides t seconds, lineTotals_sides lines, fun line member => ?_,
    sideDurations_sides, fun span member compared => ?_⟩
  · simp only [← and_assoc, logs]
    exact log_unique member
  · simp only [← and_assoc, traces]
    exact trace_unique member compared

/-- A case that is adapted has the same features in every layout; its evidence is named once, and
counts each row on one side. -/
theorem adapted_in_every_layout {h : Host} {c : CaseHead} {s : Streams c.columns} {slot : String}
    {features : RcaFeatureSet} (adapted : adaptRcaevalCase h c s = .ok (slot, features)) :
    (∀ r, Relaid s r → adaptRcaevalCase h c r = .ok (slot, features)) ∧
      (features.aggregates.map (·.evidenceId)).Nodup ∧
      ∃ parsed seconds lines spans, requireSchema c = .ok parsed ∧
        Reads (readSecond c.timing) s.metrics seconds ∧ Reads (readLine c.timing) s.logs lines ∧
        Reads (readSpan c.timing) s.traces spans ∧
        Counted h c.timing parsed seconds lines spans features.aggregates := by
  refine ⟨fun r relaid => adapt_relaid relaid adapted, ?_⟩
  obtain ⟨_, -, adapted⟩ := bind_ok.mp adapted
  obtain ⟨parsed, schema, adapted⟩ := bind_ok.mp adapted
  obtain ⟨metrics, first, adapted⟩ := bind_ok.mp adapted
  obtain ⟨logs, second, adapted⟩ := bind_ok.mp adapted
  obtain ⟨traces, third, adapted⟩ := bind_ok.mp adapted
  obtain ⟨_, valid, same⟩ := bind_ok.mp adapted
  cases same
  have distinct := (require_ok.mp valid).2.2.2.2.1
  obtain ⟨seconds, read, -, rfl⟩ := metricAggregates_ok first
  obtain ⟨lines, read', rfl⟩ := logAggregates_ok second
  obtain ⟨spans, read'', rfl⟩ := traceAggregates_ok third
  exact ⟨distinct, parsed, seconds, lines, spans, schema, read, read', read'',
    counted (List.perm_insertionSort _ _)⟩

/-! A case of two services: a value of both in every second, one line and one span of the first,
whose span has no other side. -/
namespace Sample

def slot : String := "rcaslot-" ++ String.ofList (List.replicate 64 '0')

def timing : CaseTiming := ⟨slot, 1, 0, 1440⟩

def metrics : ParquetContract where
  expectedSchema := [("time", .int64), ("a_cpu", .float64), ("b_cpu", .float64)]
  projectedColumns := ["time", "a_cpu", "b_cpu"]
  expectedRows := metricSeconds
  distinct := by decide

def logs : ParquetContract where
  expectedSchema := [("timestamp", .int64), ("container_name", .largeString)]
  projectedColumns := logColumns
  expectedRows := 1
  distinct := by decide

def traces : ParquetContract where
  expectedSchema := [("startTime", .int64), ("startTimeMillis", .int64), ("duration", .int64),
    ("statusCode", .int64), ("serviceName", .largeString)]
  projectedColumns := traceColumns
  expectedRows := 1
  distinct := by decide

def case : CaseHead := ⟨slot, timing, metrics, logs, traces⟩

def zero : Float64 := .finite ⟨0, 0, by decide, by decide⟩

def row (time : Int) : MetricRow case.columns := ⟨some time, [some zero, some zero], rfl⟩

def streams : Streams case.columns where
  metrics := .ok [(range 0 1441).map row]
  logs := .ok [[⟨some 0, some "a"⟩]]
  traces := .ok [[⟨some 0, some 0, some 1, some 0, some "a"⟩]]

def parsed : List (String × String) := [("a", "cpu"), ("b", "cpu")]

def cell : Cell := ⟨0, 1, 0, 1440⟩

def metricsOut : List EvidenceAggregate :=
  parsed.map fun column => evidence Host.ascii column.1 .metric column.2 cell

def logsOut : List EvidenceAggregate :=
  [evidence Host.ascii "a" .log "event-rate" ⟨1, 1, 0, 1440⟩]

def features : RcaFeatureSet where
  aggregates := (metricsOut ++ logsOut ++ []).insertionSort fun a b => aggregateLe a b

def seconds : List Second := (range 0 1441).map fun time => (time, [some 0, some 0])

class Computed : Prop where
  scaled : [some zero, some zero].mapM scaledValue = .ok [some 0, some 0]
  first : Cell.of (columnValues timing seconds 0 true) (columnValues timing seconds 0 false) = cell
  second : Cell.of (columnValues timing seconds 1 true) (columnValues timing seconds 1 false) = cell
  metrics : [(("a", "cpu"), cell), (("b", "cpu"), cell)].mapM (metricAggregate Host.ascii) =
    .ok metricsOut
  logs : ["a"].mapM (fun candidate => aggregate Host.ascii candidate .log "event-rate"
    (logCell timing (lineTotals [⟨"a", true⟩] candidate))) = .ok logsOut
  valid : features.Valid Host.ascii

instance computed : Computed where
  scaled := by decide +kernel
  first := by decide +kernel
  second := by decide +kernel
  metrics := by decide +kernel
  logs := by decide +kernel
  valid := by decide +kernel

theorem seconds_read : ((range 0 1441).map row).mapM (readSecond timing) = .ok seconds := by
  refine mapM_ok.mpr (List.forall₂_map_left_iff.mpr (List.forall₂_map_right_iff.mpr ?_))
  refine List.forall₂_same.mpr fun time member => ?_
  have inside : 0 ≤ time ∧ time ≤ 1440 := by
    obtain ⟨k, small, rfl⟩ := List.mem_map.mp member
    have := List.mem_range.mp small
    omega
  exact bind_ok.mpr ⟨(), require_ok.mpr inside, bind_ok.mpr ⟨_, computed.scaled, rfl⟩⟩

theorem seconds_distinct : (seconds.map Prod.fst).Nodup := by
  rw [seconds, List.map_map]
  refine List.Nodup.map (fun a b same => same)
    (List.Nodup.map (fun a b same => ?_) List.nodup_range)
  simpa using same

theorem seconds_state : metricState timing seconds =
    ⟨(range 0 1441).toFinset, fun j => Cell.of (columnValues timing seconds j true)
      (columnValues timing seconds j false)⟩ := by
  have times : seconds.map Prod.fst = range 0 1441 := by
    rw [seconds, List.map_map]
    exact List.map_id _
  rw [metricState, MetricState.extend, Finset.empty_union, times]
  rfl

theorem metrics_made :
    metricAggregates Host.ascii timing parsed streams.metrics = .ok metricsOut := by
  have read : [(range 0 1441).map row].flatten.mapM (readSecond timing) = .ok seconds := by
    rw [List.flatten_singleton]
    exact seconds_read
  have folded := foldBatches_ok.mpr
    ⟨_, rfl, metrics_fold.mpr ⟨seconds, read, seconds_distinct, seconds_state⟩⟩
  refine bind_ok.mpr ⟨_, folded, bind_ok.mpr ⟨(), require_ok.mpr rfl, ?_⟩⟩
  simp only [parsed, List.zipIdx_cons, List.zipIdx_nil, List.map_cons, List.map_nil, zero_add,
    computed.first, computed.second]
  exact computed.metrics

theorem logs_made : logAggregates Host.ascii timing streams.logs = .ok logsOut := by
  have read : [[(⟨some 0, some "a"⟩ : LogRow)]].flatten.mapM (readLine timing) =
      .ok [⟨"a", true⟩] := by decide
  have folded := foldBatches_ok.mpr ⟨_, rfl, logs_fold.mpr ⟨_, read, rfl⟩⟩
  refine bind_ok.mpr ⟨_, folded, ?_⟩
  simp only [logState, List.map_cons, List.map_nil, List.toFinset_cons, List.toFinset_nil,
    insert_empty_eq, Finset.sort_singleton]
  exact computed.logs

theorem traces_made : traceAggregates Host.ascii timing streams.traces = .ok [] := by
  have read : [[(⟨some 0, some 0, some 1, some 0, some "a"⟩ : TraceRow)]].flatten.mapM
      (readSpan timing) = .ok [⟨"a", true, 1⟩] := by decide
  have limit : ∀ k, ((traceState [⟨"a", true, 1⟩]).states k).Bounded := fun k => by
    by_cases same : "a" = k <;> simp [traceState, traceCell, same, sideDurations, Cell.of,
      Cell.extend, Cell.Bounded, maxTotalAbsolute]
  have folded := foldBatches_ok.mpr ⟨_, rfl, traces_fold.mpr ⟨_, read, rfl, limit⟩⟩
  refine bind_ok.mpr ⟨_, folded, ?_⟩
  simp only [traceState, List.map_cons, List.map_nil, List.toFinset_cons, List.toFinset_nil,
    insert_empty_eq, Finset.sort_singleton]
  decide

theorem schema_parsed : requireSchema case = .ok parsed := by decide

theorem adapted : adaptRcaevalCase Host.ascii case streams = .ok (slot, features) := by
  have normal : normalizedCase case = .ok () := by decide
  exact bind_ok.mpr ⟨_, normal, bind_ok.mpr ⟨_, schema_parsed, bind_ok.mpr ⟨_, metrics_made,
    bind_ok.mpr ⟨_, logs_made, bind_ok.mpr ⟨_, traces_made,
      bind_ok.mpr ⟨(), require_ok.mpr computed.valid, rfl⟩⟩⟩⟩⟩⟩

end Sample

theorem adapted_in_every_layout_sample :
    (∀ r, Relaid Sample.streams r →
      adaptRcaevalCase Host.ascii Sample.case r = .ok (Sample.slot, Sample.features)) ∧
      (Sample.features.aggregates.map (·.evidenceId)).Nodup ∧
      ∃ parsed seconds lines spans, requireSchema Sample.case = .ok parsed ∧
        Reads (readSecond Sample.timing) Sample.streams.metrics seconds ∧
        Reads (readLine Sample.timing) Sample.streams.logs lines ∧
        Reads (readSpan Sample.timing) Sample.streams.traces spans ∧
        Counted Host.ascii Sample.timing parsed seconds lines spans Sample.features.aggregates :=
  adapted_in_every_layout Sample.adapted

def rowCandidates {columns : Nat} (parsed : List (String × String)) (row : MetricRow columns) :
    List String :=
  (parsed.zip row.values).filterMap fun column => column.2.map fun _ => column.1.1

/-- A row of the metrics counts for the candidate of every column it has a value in. -/
theorem second_counts_twice : ¬∀ (h : Host) (c : CaseHead) (s : Streams c.columns)
    (out : String × RcaFeatureSet), adaptRcaevalCase h c s = .ok out →
      ∀ parsed, requireSchema c = .ok parsed → ∀ batches, s.metrics = .ok batches →
        ∀ row ∈ batches.flatten, ∃! candidate, candidate ∈ rowCandidates parsed row := by
  intro single
  have member : Sample.row 0 ∈ [(range 0 1441).map Sample.row].flatten := by
    rw [List.flatten_singleton]
    exact List.mem_map_of_mem (List.mem_map.mpr ⟨0, List.mem_range.mpr (by decide), rfl⟩)
  have only := single Host.ascii Sample.case Sample.streams _ Sample.adapted _ Sample.schema_parsed _
    rfl _ member
  have both : "a" = "b" := only.unique (.head _) (.tail _ (.head _))
  exact absurd both (by decide)

end NetworkAgent.Lab.Telemetry
