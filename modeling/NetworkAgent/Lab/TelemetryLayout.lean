import Mathlib.Algebra.Order.BigOperators.Group.List
import NetworkAgent.Lab.Telemetry

/-! The features of a case do not depend on the order of its rows or on its batches: each stream is
read into entries, and its evidence is a function of the entries it holds. -/
namespace NetworkAgent.Lab.Telemetry
open Checks (require bind_ok require_ok mapM_ok)
open Folding (Buckets foldlM_cons foldlM_nil foldlM_read foldlM_record mapM_perm)

theorem foldBatches_ok {Row S : Type} {step : S → Row → Except AdapterError S} {state out : S}
    {reading : Reading Row} : foldBatches step state reading = .ok out ↔
      ∃ batches, reading = .ok batches ∧ batches.flatten.foldlM step state = .ok out := by
  simp only [foldBatches, bind_ok, Folding.foldlM_flatten]

/-! Values on the two sides. -/

def Cell.extend (cell : Cell) (baseline observed : List Int) : Cell where
  baselineTotal := cell.baselineTotal + baseline.sum
  baselineCount := cell.baselineCount + baseline.length
  observedTotal := cell.observedTotal + observed.sum
  observedCount := cell.observedCount + observed.length

def Cell.of (baseline observed : List Int) : Cell := Cell.extend {} baseline observed

theorem extend_nil (cell : Cell) : cell.extend [] [] = cell := by simp [Cell.extend]

theorem extend_baseline (cell : Cell) (value : Int) (baseline observed : List Int) :
    (cell.record true (some value)).extend baseline observed =
      cell.extend (value :: baseline) observed := by
  simp only [Cell.record, Cell.extend, if_true, List.sum_cons, List.length_cons, Cell.mk.injEq]
  push_cast
  exact ⟨by omega, by omega, trivial, trivial⟩

theorem extend_observed (cell : Cell) (value : Int) (baseline observed : List Int) :
    (cell.record false (some value)).extend baseline observed =
      cell.extend baseline (value :: observed) := by
  simp only [Cell.record, Cell.extend, if_false, Bool.false_eq_true, List.sum_cons,
    List.length_cons, Cell.mk.injEq]
  push_cast
  exact ⟨trivial, trivial, by omega, by omega⟩

theorem extend_perm (cell : Cell) {a b c d : List Int} (first : a.Perm b) (second : c.Perm d) :
    cell.extend a c = cell.extend b d := by
  rw [Cell.extend, first.sum_eq, second.sum_eq, first.length_eq, second.length_eq]
  rfl

/-! Metrics. -/

/-- What a row of the metrics gives: its second, and the scaled value of each column. -/
abbrev Second := Int × List (Option Int)

def readSecond {columns : Nat} (t : CaseTiming) (row : MetricRow columns) :
    Except AdapterError Second :=
  match row.time with
  | none => .error .invalidInput
  | some time => do
    require (t.timeStart ≤ time ∧ time ≤ t.timeEnd) .invalidInput
    let scaled ← row.values.mapM scaledValue
    return (time, scaled)

def Second.baseline (t : CaseTiming) (e : Second) : Bool := decide (e.1 < t.injectTime)

def addSecond (t : CaseTiming) (state : MetricState) (e : Second) :
    Except AdapterError MetricState := do
  require (e.1 ∉ state.seenTimes) .invalidInput
  return ⟨insert e.1 state.seenTimes,
    fun j => (state.states j).record (Second.baseline t e) (e.2[j]?.join)⟩

theorem metricRow_reads {columns : Nat} (t : CaseTiming) (state : MetricState)
    (row : MetricRow columns) (m : MetricState) : metricRow t state row = .ok m ↔
      ∃ e, readSecond t row = .ok e ∧ addSecond t state e = .ok m := by
  unfold metricRow readSecond
  cases row.time with
  | none => simp
  | some time =>
    simp only [bind_ok, require_ok, addSecond, pure, Except.pure, Except.ok.injEq]
    constructor
    · rintro ⟨_, ⟨low, high, fresh⟩, scaled, known, rfl⟩
      exact ⟨(time, scaled), ⟨(), ⟨low, high⟩, scaled, known, rfl⟩, (), fresh, rfl⟩
    · rintro ⟨_, ⟨_, ⟨low, high⟩, scaled, known, rfl⟩, _, fresh, rfl⟩
      exact ⟨(), ⟨low, high, fresh⟩, scaled, known, rfl⟩

def columnValues (t : CaseTiming) (seconds : List Second) (j : Nat) (baseline : Bool) : List Int :=
  (seconds.filter fun e => Second.baseline t e = baseline).filterMap fun e => e.2[j]?.join

def MetricState.extend (t : CaseTiming) (state : MetricState) (seconds : List Second) :
    MetricState :=
  ⟨state.seenTimes ∪ (seconds.map Prod.fst).toFinset,
    fun j => (state.states j).extend (columnValues t seconds j true) (columnValues t seconds j false)⟩

theorem extend_second (t : CaseTiming) (cell : Cell) (e : Second) (rest : List Second) (j : Nat) :
    (cell.record (Second.baseline t e) (e.2[j]?.join)).extend (columnValues t rest j true)
        (columnValues t rest j false) =
      cell.extend (columnValues t (e :: rest) j true) (columnValues t (e :: rest) j false) := by
  cases value : e.2[j]?.join with
  | none =>
    cases side : Second.baseline t e <;> simp [columnValues, side, value, Cell.record]
  | some value' =>
    cases side : Second.baseline t e with
    | true => simp [columnValues, side, value, extend_baseline]
    | false => simp [columnValues, side, value, extend_observed]

theorem foldlM_addSecond {t : CaseTiming} {seconds : List Second} {state m : MetricState} :
    seconds.foldlM (addSecond t) state = .ok m ↔
      ((seconds.map Prod.fst).Nodup ∧ ∀ e ∈ seconds, e.1 ∉ state.seenTimes) ∧
        state.extend t seconds = m := by
  induction seconds generalizing state with
  | nil =>
    rw [foldlM_nil]
    simp [MetricState.extend, columnValues, extend_nil]
  | cons e rest ih =>
    have moved : ∀ n, addSecond t state e = .ok n ↔ e.1 ∉ state.seenTimes ∧
        (⟨insert e.1 state.seenTimes, fun j => (state.states j).record (Second.baseline t e)
          (e.2[j]?.join)⟩ : MetricState) = n := fun n => by
      simp [addSecond, bind_ok, pure, Except.pure]
    have grown : MetricState.extend t ⟨insert e.1 state.seenTimes, fun j =>
        (state.states j).record (Second.baseline t e) (e.2[j]?.join)⟩ rest =
          state.extend t (e :: rest) := by
      simp only [MetricState.extend, extend_second, List.map_cons, List.toFinset_cons,
        Finset.insert_union_comm]
    simp only [foldlM_cons, moved, List.map_cons, List.nodup_cons, List.forall_mem_cons]
    constructor
    · rintro ⟨_, ⟨fresh, rfl⟩, later⟩
      obtain ⟨⟨distinct, others⟩, result⟩ := ih.mp later
      refine ⟨⟨⟨fun member => ?_, distinct⟩, fresh, fun other inside seen => ?_⟩, grown ▸ result⟩
      · obtain ⟨other, inside, same⟩ := List.mem_map.mp member
        exact others other inside (same ▸ Finset.mem_insert_self _ _)
      · exact others other inside (Finset.mem_insert_of_mem seen)
    · rintro ⟨⟨⟨once, distinct⟩, fresh, others⟩, result⟩
      refine ⟨_, ⟨fresh, rfl⟩, ih.mpr ⟨⟨distinct, fun other inside seen => ?_⟩, grown ▸ result⟩⟩
      rcases Finset.mem_insert.mp seen with same | old
      · exact once (List.mem_map.mpr ⟨other, inside, same⟩)
      · exact others other inside old

def metricState (t : CaseTiming) (seconds : List Second) : MetricState :=
  MetricState.extend t {} seconds

theorem metrics_fold {columns : Nat} {t : CaseTiming} {rows : List (MetricRow columns)}
    {m : MetricState} : rows.foldlM (metricRow t) {} = .ok m ↔
      ∃ seconds, rows.mapM (readSecond t) = .ok seconds ∧ (seconds.map Prod.fst).Nodup ∧
        metricState t seconds = m := by
  rw [foldlM_read (metricRow_reads t)]
  simp [foldlM_addSecond, metricState]

theorem metricState_perm {t : CaseTiming} {a b : List Second} (perm : a.Perm b) :
    metricState t a = metricState t b := by
  have values : ∀ j baseline, (columnValues t a j baseline).Perm (columnValues t b j baseline) :=
    fun j baseline => (perm.filter _).filterMap _
  have times : (a.map Prod.fst).toFinset = (b.map Prod.fst).toFinset :=
    List.toFinset_eq_of_perm _ _ (perm.map Prod.fst)
  rw [metricState, MetricState.extend, times]
  exact congrArg _ (funext fun j => extend_perm _ (values j true) (values j false))

/-! Logs. -/

def lineTotals (lines : List Line) (candidate : String) : Int × Int :=
  ((lines.filter (·.candidate = candidate)).countP (·.baseline),
    (lines.filter (·.candidate = candidate)).countP (!·.baseline))

def logState (lines : List Line) : Buckets String (Int × Int) :=
  ⟨(lines.map Line.candidate).toFinset, lineTotals lines⟩

theorem foldlM_addLine {lines : List Line} {totals out : Int × Int} :
    lines.foldlM addLine totals = .ok out ↔
      (totals.1 + lines.countP (·.baseline), totals.2 + lines.countP (!·.baseline)) = out := by
  induction lines generalizing totals with
  | nil =>
    rw [foldlM_nil]
    simp
  | cons line rest ih =>
    rw [foldlM_cons]
    simp only [addLine, Except.ok.injEq, exists_eq_left', ih]
    cases side : line.baseline <;> simp [side, add_assoc, add_comm]

theorem logRow_reads (t : CaseTiming) (totals : Buckets String (Int × Int)) (row : LogRow)
    (m : Buckets String (Int × Int)) : logRow t totals row = .ok m ↔
      ∃ line, readLine t row = .ok line ∧ totals.record Line.candidate addLine line = .ok m :=
  bind_ok

theorem logs_fold {t : CaseTiming} {rows : List LogRow} {totals : Buckets String (Int × Int)} :
    rows.foldlM (logRow t) ⟨∅, fun _ => (0, 0)⟩ = .ok totals ↔
      ∃ lines, rows.mapM (readLine t) = .ok lines ∧ logState lines = totals := by
  rw [foldlM_read (logRow_reads t)]
  simp only [foldlM_record, Finset.empty_union, foldlM_addLine, zero_add, logState]
  constructor
  · rintro ⟨lines, known, keys, states⟩
    exact ⟨lines, known, Folding.Buckets.ext keys.symm (funext states)⟩
  · rintro ⟨lines, known, rfl⟩
    exact ⟨lines, known, rfl, fun k => rfl⟩

theorem logState_perm {a b : List Line} (perm : a.Perm b) : logState a = logState b := by
  refine Folding.Buckets.ext (List.toFinset_eq_of_perm _ _ (perm.map _)) (funext fun k => ?_)
  have own := perm.filter fun line => line.candidate = k
  exact Prod.ext (congrArg Nat.cast (own.countP_eq _)) (congrArg Nat.cast (own.countP_eq _))

/-! Traces. -/

def sideDurations (spans : List Span) (baseline : Bool) : List Int :=
  (spans.filter (·.baseline = baseline)).map Span.duration

def traceCell (spans : List Span) (candidate : String) : Cell :=
  Cell.of (sideDurations (spans.filter (·.candidate = candidate)) true)
    (sideDurations (spans.filter (·.candidate = candidate)) false)

def traceState (spans : List Span) : Buckets String Cell :=
  ⟨(spans.map Span.candidate).toFinset, traceCell spans⟩

/-- Totals that durations reach without passing the limit. -/
def Cell.Bounded (cell : Cell) : Prop :=
  (0 ≤ cell.baselineTotal ∧ cell.baselineTotal ≤ maxTotalAbsolute) ∧
    0 ≤ cell.observedTotal ∧ cell.observedTotal ≤ maxTotalAbsolute

theorem boundedAdd_ok {left right total : Int} :
    boundedAdd left right = .ok total ↔ |left + right| ≤ maxTotalAbsolute ∧ left + right = total := by
  simp [boundedAdd, bind_ok, pure, Except.pure]

theorem addSpan_ok {cell m : Cell} {span : Span} (bounded : cell.Bounded)
    (positive : 0 < span.duration) : addSpan cell span = .ok m ↔
      cell.record span.baseline (some span.duration) = m ∧ m.Bounded := by
  obtain ⟨⟨low, high⟩, low', high'⟩ := bounded
  unfold addSpan Cell.record
  cases span.baseline with
  | true =>
    simp only [if_true, bind_ok, boundedAdd_ok, pure, Except.pure, Except.ok.injEq]
    rw [abs_of_nonneg (by omega)]
    constructor
    · rintro ⟨_, ⟨limit, rfl⟩, rfl⟩
      exact ⟨rfl, ⟨by dsimp only; omega, limit⟩, low', high'⟩
    · rintro ⟨rfl, ⟨-, limit⟩, -⟩
      exact ⟨_, ⟨limit, rfl⟩, rfl⟩
  | false =>
    simp only [Bool.false_eq_true, if_false, bind_ok, boundedAdd_ok, pure, Except.pure,
      Except.ok.injEq]
    rw [abs_of_nonneg (by omega)]
    constructor
    · rintro ⟨_, ⟨limit, rfl⟩, rfl⟩
      exact ⟨rfl, ⟨low, high⟩, by dsimp only; omega, limit⟩
    · rintro ⟨rfl, -, -, limit⟩
      exact ⟨_, ⟨limit, rfl⟩, rfl⟩

theorem sum_durations_nonneg {spans : List Span} (positive : ∀ span ∈ spans, 0 < span.duration)
    (baseline : Bool) : 0 ≤ (sideDurations spans baseline).sum := by
  refine List.sum_nonneg fun value member => ?_
  obtain ⟨span, inside, rfl⟩ := List.mem_map.mp member
  exact le_of_lt (positive span (List.mem_of_mem_filter inside))

theorem extend_span (cell : Cell) (span : Span) (rest : List Span) :
    (cell.record span.baseline (some span.duration)).extend (sideDurations rest true)
        (sideDurations rest false) =
      cell.extend (sideDurations (span :: rest) true) (sideDurations (span :: rest) false) := by
  cases side : span.baseline with
  | true => simp [sideDurations, side, extend_baseline]
  | false => simp [sideDurations, side, extend_observed]

theorem foldlM_addSpan {spans : List Span} {cell out : Cell} (bounded : cell.Bounded)
    (positive : ∀ span ∈ spans, 0 < span.duration) : spans.foldlM addSpan cell = .ok out ↔
      cell.extend (sideDurations spans true) (sideDurations spans false) = out ∧ out.Bounded := by
  induction spans generalizing cell with
  | nil =>
    rw [foldlM_nil]
    simp only [sideDurations, List.filter_nil, List.map_nil, extend_nil]
    exact ⟨fun same => ⟨same, same ▸ bounded⟩, And.left⟩
  | cons span rest ih =>
    obtain ⟨first, others⟩ := List.forall_mem_cons.mp positive
    rw [foldlM_cons, ← extend_span]
    constructor
    · rintro ⟨m, added, later⟩
      obtain ⟨rfl, inside⟩ := (addSpan_ok bounded first).mp added
      exact (ih inside others).mp later
    · rintro ⟨rfl, limit⟩
      have baseline := sum_durations_nonneg others true
      have observed := sum_durations_nonneg others false
      have inside : (cell.record span.baseline (some span.duration)).Bounded := by
        obtain ⟨⟨low, high⟩, low', high'⟩ := bounded
        obtain ⟨⟨-, limit⟩, -, limit'⟩ := limit
        simp only [Cell.extend] at limit limit'
        have grows : cell.baselineTotal ≤
              (cell.record span.baseline (some span.duration)).baselineTotal ∧
            cell.observedTotal ≤
              (cell.record span.baseline (some span.duration)).observedTotal := by
          cases span.baseline <;> simp [Cell.record] <;> omega
        exact ⟨⟨by omega, by omega⟩, by omega, by omega⟩
      exact ⟨_, (addSpan_ok bounded first).mpr ⟨rfl, inside⟩, (ih inside others).mpr ⟨rfl, limit⟩⟩

theorem readSpan_positive {t : CaseTiming} {row : TraceRow} {span : Span}
    (read : readSpan t row = .ok span) : 0 < span.duration := by
  obtain ⟨_, _, read⟩ := bind_ok.mp read
  cases known : row.duration with
  | none =>
    rw [known] at read
    cases read
  | some duration =>
    rw [known] at read
    obtain ⟨_, positive, read⟩ := bind_ok.mp read
    obtain ⟨_, _, read⟩ := bind_ok.mp read
    obtain ⟨_, _, read⟩ := bind_ok.mp read
    obtain ⟨_, _, read⟩ := bind_ok.mp read
    cases read
    exact require_ok.mp positive

theorem traceRow_reads (t : CaseTiming) (totals : Buckets String Cell) (row : TraceRow)
    (m : Buckets String Cell) : traceRow t totals row = .ok m ↔
      ∃ span, readSpan t row = .ok span ∧ totals.record Span.candidate addSpan span = .ok m :=
  bind_ok

theorem bounded_empty : Cell.Bounded {} := by
  unfold Cell.Bounded maxTotalAbsolute
  decide

theorem traces_fold {t : CaseTiming} {rows : List TraceRow} {totals : Buckets String Cell} :
    rows.foldlM (traceRow t) ⟨∅, fun _ => {}⟩ = .ok totals ↔
      ∃ spans, rows.mapM (readSpan t) = .ok spans ∧ traceState spans = totals ∧
        ∀ k, (totals.states k).Bounded := by
  rw [foldlM_read (traceRow_reads t)]
  have positive : ∀ {spans : List Span}, rows.mapM (readSpan t) = .ok spans →
      ∀ k, ∀ span ∈ spans.filter (·.candidate = k), 0 < span.duration :=
    fun known k span member => by
      obtain ⟨row, -, read⟩ := Checks.mapM_source known (List.mem_of_mem_filter member)
      exact readSpan_positive read
  constructor
  · rintro ⟨spans, known, done⟩
    obtain ⟨keys, states⟩ := foldlM_record.mp done
    have own := fun k => (foldlM_addSpan bounded_empty (positive known k)).mp (states k)
    rw [Finset.empty_union] at keys
    exact ⟨spans, known, Folding.Buckets.ext keys.symm (funext fun k => (own k).1),
      fun k => (own k).2⟩
  · rintro ⟨spans, known, rfl, limit⟩
    refine ⟨spans, known, foldlM_record.mpr ⟨by rw [Finset.empty_union]; rfl, fun k => ?_⟩⟩
    exact (foldlM_addSpan bounded_empty (positive known k)).mpr ⟨rfl, limit k⟩

theorem traceState_perm {a b : List Span} (perm : a.Perm b) : traceState a = traceState b := by
  refine Folding.Buckets.ext (List.toFinset_eq_of_perm _ _ (perm.map _)) (funext fun k => ?_)
  have own := perm.filter fun span => span.candidate = k
  exact extend_perm _ ((own.filter _).map _) ((own.filter _).map _)

/-! Another layout. -/

def SameRows {Row : Type} (a b : Reading Row) : Prop :=
  ∃ xs ys, a = .ok xs ∧ b = .ok ys ∧ xs.flatten.Perm ys.flatten

structure Relaid {columns : Nat} (s r : Streams columns) : Prop where
  metrics : SameRows s.metrics r.metrics
  logs : SameRows s.logs r.logs
  traces : SameRows s.traces r.traces

/-- A loop whose end is a function of the entries it reads, in any order, does not depend on the
layout of the rows. -/
theorem fold_relaid {Row S E : Type} {step : S → Row → Except AdapterError S} {init out : S}
    {read : Row → Except AdapterError E} {Ends : List E → S → Prop}
    (ends : ∀ (rows : List Row) out, rows.foldlM step init = .ok out ↔
      ∃ entries, rows.mapM read = .ok entries ∧ Ends entries out)
    (same : ∀ {a b : List E}, a.Perm b → ∀ {out}, Ends a out → Ends b out) {a b : Reading Row}
    (relaid : SameRows a b) (done : foldBatches step init a = .ok out) :
    foldBatches step init b = .ok out := by
  obtain ⟨xs, ys, rfl, rfl, perm⟩ := relaid
  obtain ⟨_, own, folded⟩ := foldBatches_ok.mp done
  cases own
  obtain ⟨entries, known, last⟩ := (ends _ _).mp folded
  obtain ⟨others, known', perm'⟩ := mapM_perm perm known
  exact foldBatches_ok.mpr ⟨ys, rfl, (ends _ _).mpr ⟨others, known', same perm'.symm last⟩⟩

theorem metricAggregates_relaid {columns : Nat} {h : Host} {t : CaseTiming}
    {parsed : List (String × String)} {a b : Reading (MetricRow columns)}
    {out : List EvidenceAggregate} (relaid : SameRows a b)
    (done : metricAggregates h t parsed a = .ok out) : metricAggregates h t parsed b = .ok out := by
  obtain ⟨state, folded, rest⟩ := bind_ok.mp done
  refine bind_ok.mpr ⟨state, fold_relaid (fun rows out => metrics_fold) ?_ relaid folded, rest⟩
  rintro a b perm out ⟨distinct, rfl⟩
  exact ⟨(perm.map _).nodup_iff.mp distinct, (metricState_perm perm).symm⟩

theorem logAggregates_relaid {h : Host} {t : CaseTiming} {a b : Reading LogRow}
    {out : List EvidenceAggregate} (relaid : SameRows a b)
    (done : logAggregates h t a = .ok out) : logAggregates h t b = .ok out := by
  obtain ⟨totals, folded, rest⟩ := bind_ok.mp done
  refine bind_ok.mpr ⟨totals, fold_relaid (fun rows out => logs_fold) ?_ relaid folded, rest⟩
  rintro a b perm out rfl
  exact (logState_perm perm).symm

theorem traceAggregates_relaid {h : Host} {t : CaseTiming} {a b : Reading TraceRow}
    {out : List EvidenceAggregate} (relaid : SameRows a b)
    (done : traceAggregates h t a = .ok out) : traceAggregates h t b = .ok out := by
  obtain ⟨totals, folded, rest⟩ := bind_ok.mp done
  refine bind_ok.mpr ⟨totals, fold_relaid (fun rows out => traces_fold) ?_ relaid folded, rest⟩
  rintro a b perm out ⟨rfl, limit⟩
  exact ⟨(traceState_perm perm).symm, limit⟩

theorem adapt_relaid {h : Host} {c : CaseHead} {s r : Streams c.columns}
    {out : String × RcaFeatureSet} (relaid : Relaid s r)
    (adapted : adaptRcaevalCase h c s = .ok out) : adaptRcaevalCase h c r = .ok out := by
  unfold adaptRcaevalCase at adapted ⊢
  obtain ⟨_, normal, adapted⟩ := bind_ok.mp adapted
  obtain ⟨parsed, schema, adapted⟩ := bind_ok.mp adapted
  obtain ⟨metrics, first, adapted⟩ := bind_ok.mp adapted
  obtain ⟨logs, second, adapted⟩ := bind_ok.mp adapted
  obtain ⟨traces, third, adapted⟩ := bind_ok.mp adapted
  exact bind_ok.mpr ⟨_, normal, bind_ok.mpr ⟨parsed, schema,
    bind_ok.mpr ⟨metrics, metricAggregates_relaid relaid.metrics first,
      bind_ok.mpr ⟨logs, logAggregates_relaid relaid.logs second,
        bind_ok.mpr ⟨traces, traceAggregates_relaid relaid.traces third, adapted⟩⟩⟩⟩⟩

end NetworkAgent.Lab.Telemetry
