import NetworkAgent.Domain.Models
import NetworkAgent.Library.Polling
import NetworkAgent.Library.Runs

/-! The listener that polls the table of traces. Rows come in the order of their timestamps and
identifiers, and the cursor is the timestamp of the last row. -/
namespace NetworkAgent.Supervisor.Traces
open Polling

def pageLimit : Nat := 1000
def lookback : Int := 30 * 1000000

structure AgentTrace where
  id : String
  eventType : String
  traceId : String
  spanId : String
  parentSpanId : Option String := none
  operationName : String
  timestamp : Instant
  details : Option Json := none
  deriving DecidableEq

structure TraceEvent where
  id : String
  eventType : String
  traceId : String
  spanId : String
  parentSpanId : Option String
  operationName : String
  timestamp : String
  details : Option Json
  deriving DecidableEq

/-- The texts of instants: `isoformat` of a column, `utcnow().isoformat()`, and the instant that a
query takes a text for. -/
structure Texts where
  isoformat : Instant → String
  utcIsoformat : Instant → String
  read : String → Instant
  read_isoformat : ∀ t, read (isoformat t) = t

structure Listener where
  lastSeenId : Option String := none
  lastSeenTimestamp : Option String := none
  resetTimestamp : Option String := none
  deriving DecidableEq

def Listener.resetCursor (l : Listener) (timestamp : Option String) : Listener :=
  { l with lastSeenId := none, resetTimestamp := timestamp }

variable (w : Texts)

def traceEvent (row : AgentTrace) : TraceEvent where
  id := row.id
  eventType := row.eventType
  traceId := row.traceId
  spanId := row.spanId
  parentSpanId := row.parentSpanId
  operationName := row.operationName
  timestamp := w.isoformat row.timestamp
  details := row.details

/-- `ORDER BY timestamp ASC, id ASC`. -/
def rowLe (a b : AgentTrace) : Bool :=
  decide (a.timestamp < b.timestamp) || (a.timestamp == b.timestamp && textLe a.id b.id)

def Listener.reset (l : Listener) : Option String := l.resetTimestamp.filter (· ≠ "")

def startTime (l : Listener) (now : Instant) : String :=
  l.reset.getD (w.utcIsoformat (now - lookback))

def query (l : Listener) (now : Instant) (table : List AgentTrace) : List AgentTrace :=
  let selected := match l.lastSeenId with
    | none => table.filter fun row => w.read (startTime w l now) ≤ row.timestamp
    | some _ => match l.lastSeenTimestamp with
      | some last => table.filter fun row => w.read last < row.timestamp
      | none => []
  (inOrder rowLe selected).take pageLimit

def Skips (l : Listener) (row : AgentTrace) : Prop :=
  ∃ text ∈ l.reset, textLe text (w.isoformat row.timestamp) = false

instance (l : Listener) (row : AgentTrace) : Decidable (Skips w l row) :=
  match reset : l.reset with
  | none => isFalse (by simp [Skips, reset])
  | some text => decidable_of_iff (textLe text (w.isoformat row.timestamp) = false)
      (by simp [Skips, reset])

def Listener.see (l : Listener) (row : AgentTrace) : Listener :=
  { l with lastSeenId := some row.id, lastSeenTimestamp := some (w.isoformat row.timestamp) }

def processRow (state : Listener × List TraceEvent) (row : AgentTrace) :
    Listener × List TraceEvent :=
  (state.1.see w row,
    if Skips w state.1 row then state.2 else state.2 ++ [traceEvent w row])

/-! The listener beside the table. -/

structure System where
  table : List AgentTrace := []
  listener : Listener := {}
  emitted : List TraceEvent := []
  deriving DecidableEq

inductive Input where
  | insert (row : AgentTrace)
  | poll (now : Instant)

def step (s : System) : Input → System
  | .insert row => { s with table := s.table ++ [row] }
  | .poll now =>
    let (listener, emitted) := (query w s.listener now s.table).foldl (processRow w)
      (s.listener, s.emitted)
    { s with listener, emitted }

/-- The listener starts, or starts again after a reset, before the rows that count are there. -/
def initial (reset : Option String) : System :=
  { listener := Listener.resetCursor {} reset }

def fromStart (start : Instant) (table : List AgentTrace) : List AgentTrace :=
  pending rowLe AgentTrace.timestamp (.since start) table

/-! The order of the rows. -/

theorem rowLe_iff {a b : AgentTrace} : rowLe a b = true ↔
    a.timestamp < b.timestamp ∨ a.timestamp = b.timestamp ∧ textLe a.id b.id = true := by
  simp [rowLe]

theorem rows_follow : Follows rowLe AgentTrace.timestamp where
  total a b := by
    rw [rowLe_iff, rowLe_iff]
    rcases lt_trichotomy a.timestamp b.timestamp with less | same | more
    · exact .inl (.inl less)
    · exact (textLe_total a.id b.id).imp (fun le => .inr ⟨same, le⟩) (fun le => .inr ⟨same.symm, le⟩)
    · exact .inr (.inl more)
  trans a b c first second := by
    rw [rowLe_iff] at *
    rcases first with less | ⟨same, le⟩
    · rcases second with less' | ⟨same', -⟩
      · exact .inl (less.trans less')
      · exact .inl (same' ▸ less)
    · rcases second with less' | ⟨same', le'⟩
      · exact .inl (same ▸ less')
      · exact .inr ⟨same.trans same', textLe_trans le le'⟩
  key_le a b le := by
    rw [rowLe_iff] at le
    exact le.elim le_of_lt fun same => le_of_eq same.1

theorem apart_of_ids {table : List AgentTrace} (distinct : (table.map (·.id)).Nodup) :
    Apart rowLe table := by
  intro a first b second le le'
  rw [rowLe_iff] at le le'
  refine List.inj_on_of_nodup_map distinct first second ?_
  rcases le with less | ⟨same, le⟩
  · rcases le' with less' | ⟨same', -⟩
    · exact absurd less (lt_asymm less')
    · exact absurd less (not_lt.mpr same'.le)
  · rcases le' with less' | ⟨-, le'⟩
    · exact absurd less' (not_lt.mpr same.le)
    · exact textLe_antisymm le le'

/-! One poll. -/

variable {w}

/-- Where the next query starts, when the first one starts at `start`. -/
def bound (w : Texts) (start : Instant) (l : Listener) : Bound Instant :=
  match l.lastSeenId, l.lastSeenTimestamp with
  | some _, some last => .after (w.read last)
  | _, _ => .since start

theorem foldl_processRow {l : Listener} {rows : List AgentTrace} (emitted : List TraceEvent)
    (kept : ∀ row ∈ rows, ¬ Skips w l row) : rows.foldl (processRow w) (l, emitted) =
      ((rows.getLast?.elim l (l.see w)), emitted ++ rows.map (traceEvent w)) := by
  induction rows generalizing l emitted with
  | nil => simp
  | cons row rest ih =>
    obtain ⟨first, others⟩ := List.forall_mem_cons.mp kept
    have next : processRow w (l, emitted) row = (l.see w row, emitted ++ [traceEvent w row]) := by
      rw [processRow, if_neg first]
    rw [List.foldl_cons, next, ih (l := l.see w row) _ others, List.map_cons, List.append_assoc,
      List.singleton_append]
    cases rest with
    | nil => rfl
    | cons other rest =>
      rw [List.getLast?_cons_cons]
      cases ends : (other :: rest).getLast? with
      | none => exact absurd (List.getLast?_eq_none_iff.mp ends) (by simp)
      | some last => rfl

def Listener.Tracks (l : Listener) : Prop := l.lastSeenId ≠ none → l.lastSeenTimestamp ≠ none

theorem bound_see {start : Instant} {l : Listener} {page : List AgentTrace} :
    bound w start (page.getLast?.elim l (l.see w)) =
      (bound w start l).next AgentTrace.timestamp page := by
  unfold Bound.next
  cases page.getLast? with
  | none => rfl
  | some last => simp [bound, Listener.see, w.read_isoformat]

theorem query_eq {start : Instant} {l : Listener} {now : Instant} {table : List AgentTrace}
    (tracks : l.Tracks) (first : l.lastSeenId = none → ∀ row ∈ table,
      w.read (startTime w l now) ≤ row.timestamp ↔ start ≤ row.timestamp) :
    query w l now table =
      (pending rowLe AgentTrace.timestamp (bound w start l) table).take pageLimit := by
  unfold query pending bound
  cases seen : l.lastSeenId with
  | none =>
    have same : table.filter (fun row => w.read (startTime w l now) ≤ row.timestamp) =
        table.filter fun row => (Bound.since start).Admits row.timestamp :=
      List.filter_congr fun row member => decide_eq_decide.mpr (first seen row member)
    dsimp only
    rw [same]
  | some id =>
    cases last : l.lastSeenTimestamp with
    | none => exact absurd last (tracks (by rw [seen]; simp))
    | some last => rfl

/-! Runs. -/

/-- What the database sees to: fresh identifiers, and timestamps in the order of the commits. -/
def Commits (s : System) : Input → Prop
  | .insert row => row.id ∉ s.table.map (·.id) ∧ ∀ other ∈ s.table, other.timestamp ≤ row.timestamp
  | .poll _ => True

instance (s : System) : DecidablePred (Commits s) := fun i => match i with
  | .insert _ => inferInstanceAs (Decidable (_ ∧ _))
  | .poll _ => inferInstanceAs (Decidable True)

/-- A row that counts comes after the cursor, its text not before the reset text; while nothing is
seen a query asks for the rows that count, and no page ends between rows of one timestamp. -/
def Keeps (w : Texts) (start : Instant) (s : System) : Input → Prop
  | .insert row => start ≤ row.timestamp →
      (bound w start s.listener).Admits row.timestamp ∧ ¬ Skips w s.listener row
  | .poll now =>
    (s.listener.lastSeenId = none → ∀ row ∈ s.table,
      w.read (startTime w s.listener now) ≤ row.timestamp ↔ start ≤ row.timestamp) ∧
    Uncut AgentTrace.timestamp pageLimit
      (pending rowLe AgentTrace.timestamp (bound w start s.listener) s.table)

instance (start : Instant) (s : System) : DecidablePred (Keeps w start s) := fun i => match i with
  | .insert _ => inferInstanceAs (Decidable (_ → _ ∧ _))
  | .poll _ => inferInstanceAs (Decidable (_ ∧ _))

def Meets (w : Texts) (start : Instant) (s : System) (i : Input) : Prop :=
  Commits s i ∧ Keeps w start s i

instance (start : Instant) (s : System) (i : Input) : Decidable (Meets w start s i) :=
  inferInstanceAs (Decidable (_ ∧ _))

/-- The rows sent are the first of those that count, and the cursor stands behind them. -/
structure Inv (w : Texts) (start : Instant) (s : System) (sent : List AgentTrace) : Prop where
  feed : Sent rowLe AgentTrace.timestamp (.since start) (bound w start s.listener) s.table sent
  emitted : s.emitted = sent.map (traceEvent w)
  distinct : (s.table.map (·.id)).Nodup
  shown : ∀ row ∈ s.table, start ≤ row.timestamp → ¬ Skips w s.listener row
  tracks : s.listener.Tracks

def waiting (w : Texts) (start : Instant) (s : System) : List AgentTrace :=
  pending rowLe AgentTrace.timestamp (bound w start s.listener) s.table

theorem inv_initial (start : Instant) (reset : Option String) : Inv w start (initial reset) [] where
  feed := sent_nothing
  emitted := rfl
  distinct := List.nodup_nil
  shown := nofun
  tracks := fun seen => absurd rfl seen

theorem inv_insert {start : Instant} {s : System} {sent : List AgentTrace}
    (inv : Inv w start s sent) {row : AgentTrace} (meets : Meets w start s (.insert row)) :
    Inv w start (step w s (.insert row)) sent := by
  obtain ⟨⟨fresh, -⟩, keeps⟩ := meets
  have distinct : ((s.table ++ [row]).map (·.id)).Nodup := by
    rw [List.map_append, List.map_singleton]
    exact List.nodup_append.mpr ⟨inv.distinct, List.nodup_singleton _, fun a old b new same =>
      fresh (List.mem_singleton.mp new ▸ same ▸ old)⟩
  refine ⟨inv.feed.insert rows_follow (apart_of_ids distinct) fun counts => (keeps counts).1,
    inv.emitted, distinct, fun other member counts => ?_, inv.tracks⟩
  rcases List.mem_append.mp member with old | new
  · exact inv.shown other old counts
  · rw [List.mem_singleton.mp new] at counts ⊢
    exact (keeps counts).2

theorem step_poll {start : Instant} {s : System} {sent : List AgentTrace}
    (inv : Inv w start s sent) {now : Instant} (keeps : Keeps w start s (.poll now)) :
    step w s (.poll now) = { s with
      listener := ((waiting w start s).take pageLimit).getLast?.elim s.listener (s.listener.see w)
      emitted := s.emitted ++ ((waiting w start s).take pageLimit).map (traceEvent w) } := by
  have page : query w s.listener now s.table = (waiting w start s).take pageLimit :=
    query_eq inv.tracks keeps.1
  have shown : ∀ row ∈ (waiting w start s).take pageLimit, ¬ Skips w s.listener row :=
    fun row member => by
      obtain ⟨known, admitted⟩ := mem_pending.mp (List.mem_of_mem_take member)
      exact inv.shown row known (inv.feed.later _ admitted)
  rw [step, page, foldl_processRow _ shown]

theorem inv_poll {start : Instant} {s : System} {sent : List AgentTrace}
    (inv : Inv w start s sent) {now : Instant} (keeps : Keeps w start s (.poll now)) :
    Inv w start (step w s (.poll now)) (sent ++ (waiting w start s).take pageLimit) ∧
      waiting w start (step w s (.poll now)) = (waiting w start s).drop pageLimit := by
  obtain ⟨done, left⟩ := inv.feed.page rows_follow (apart_of_ids inv.distinct) keeps.2
  rw [step_poll inv keeps]
  rw [← waiting, ← bound_see] at done left
  refine ⟨⟨done, ?_, inv.distinct, fun row member counts => ?_, ?_⟩, left⟩
  · rw [inv.emitted, List.map_append]
  · have shown := inv.shown row member counts
    dsimp only
    cases ((waiting w start s).take pageLimit).getLast? with
    | none => exact shown
    | some last => exact shown
  · dsimp only
    cases ((waiting w start s).take pageLimit).getLast? with
    | none => exact inv.tracks
    | some last => exact fun _ => by simp [Listener.see]

theorem inv_step {start : Instant} {s : System} (inv : ∃ sent, Inv w start s sent) {i : Input}
    (meets : Meets w start s i) : ∃ sent, Inv w start (step w s i) sent := by
  obtain ⟨sent, inv⟩ := inv
  cases i with
  | insert row => exact ⟨sent, inv_insert inv meets⟩
  | poll now => exact ⟨_, (inv_poll inv meets.2).1⟩

theorem polls_finish {start : Instant} {nows : List Instant} {s : System} {sent : List AgentTrace}
    (inv : Inv w start s sent) (enough : (waiting w start s).length ≤ nows.length)
    (meets : Runs.Along (step w) (Meets w start) s (nows.map .poll)) :
    (Runs.run (step w) s (nows.map .poll)).emitted =
      (fromStart start s.table).map (traceEvent w) := by
  induction nows generalizing s sent with
  | nil =>
    have none := List.length_eq_zero_iff.mp (Nat.le_zero.mp enough)
    rw [fromStart, inv.feed.whole, ← waiting, none, List.append_nil]
    exact inv.emitted
  | cons now rest ih =>
    obtain ⟨next, left⟩ := inv_poll inv meets.1.2
    have size : (waiting w start (step w s (.poll now))).length ≤ rest.length := by
      rw [left, List.length_drop]
      rw [List.length_cons] at enough
      unfold pageLimit
      omega
    have table : (step w s (.poll now)).table = s.table := rfl
    rw [List.map_cons, Runs.run, ih next size meets.2, table]

/-- In a run whose steps all keep the condition, what was sent are the first of the rows that
count, in order and each once, and enough further polls send all of them. -/
theorem polling_complete {start : Instant} {reset : Option String} {inputs : List Input}
    (meets : Runs.Along (step w) (Meets w start) (initial reset) inputs) :
    (Runs.run (step w) (initial reset) inputs).emitted <+:
      (fromStart start (Runs.run (step w) (initial reset) inputs).table).map (traceEvent w) ∧
    ∀ nows : List Instant,
      (Runs.run (step w) (initial reset) inputs).table.length ≤ nows.length →
      Runs.Along (step w) (Meets w start) (Runs.run (step w) (initial reset) inputs)
        (nows.map .poll) →
      (Runs.run (step w) (Runs.run (step w) (initial reset) inputs) (nows.map .poll)).emitted =
        (fromStart start (Runs.run (step w) (initial reset) inputs).table).map (traceEvent w) := by
  obtain ⟨sent, inv⟩ := Runs.along_invariant (step w) (P := fun s => ∃ sent, Inv w start s sent)
    (fun s i inv meets => inv_step inv meets) ⟨[], inv_initial start reset⟩ inputs meets
  generalize Runs.run (step w) (initial reset) inputs = s at inv
  refine ⟨?_, fun nows enough further => polls_finish inv ?_ further⟩
  · rw [inv.emitted, fromStart, inv.feed.whole, List.map_append]
    exact List.prefix_append _ _
  · have size : (waiting w start s).length ≤ s.table.length := by
      rw [waiting, pending, (perm_inOrder _).length_eq]
      exact List.length_filter_le _ _
    exact size.trans enough

/-! A table on which a run keeps the condition, and one on which it does not. -/
namespace Sample

def isoformat (t : Instant) : String :=
  if t = 0 then "1970-01-01T00:00:00+00:00"
  else if t = 1000000 then "1970-01-01T00:00:01+00:00"
  else String.ofList (List.replicate t.natAbs (if 0 < t then 'p' else 'm'))

def read (text : String) : Instant :=
  if text = "1970-01-01T00:00:00+00:00" then 0
  else if text = "1970-01-01T00:00:01+00:00" then 1000000
  else if text.toList.head? = some 'p' then text.length else -text.length

theorem read_isoformat (t : Int) : read (isoformat t) = t := by
  unfold isoformat
  split
  · rename_i zero
    rw [zero]
    rfl
  · split
    · rename_i second
      rw [second]
      rfl
    · rename_i zero _
      have nonzero : (t : Int) ≠ 0 := zero
      obtain ⟨n, size⟩ : ∃ n, t.natAbs = n + 1 := ⟨t.natAbs - 1, by omega⟩
      have strokes : ∀ c, c = 'p' ∨ c = 'm' → read (String.ofList (List.replicate (n + 1) c)) =
          if c = 'p' then (n + 1 : Int) else -(n + 1 : Int) := fun c kind => by
        have other : ∀ text : String, text.toList.head? = some '1' →
            String.ofList (List.replicate (n + 1) c) ≠ text := by
          rintro text first rfl
          rw [String.toList_ofList, List.replicate_succ, List.head?_cons] at first
          rcases kind with rfl | rfl <;> simp at first
        rw [read, if_neg (other _ (by decide)), if_neg (other _ (by decide)), String.toList_ofList,
          List.replicate_succ, List.head?_cons, String.length_ofList]
        rcases kind with rfl | rfl <;> simp
      rw [size]
      split
      · rename_i positive
        have above : (0 : Int) < t := positive
        rw [strokes 'p' (.inl rfl), if_pos rfl]
        exact (by omega : (n + 1 : Int) = t)
      · rename_i negative
        have below : ¬ (0 : Int) < t := negative
        rw [strokes 'm' (.inr rfl), if_neg (by decide)]
        exact (by omega : -(n + 1 : Int) = t)

def texts : Texts := ⟨isoformat, isoformat, read, read_isoformat⟩

def row (id : String) (timestamp : Instant) : AgentTrace where
  id := id
  eventType := "TOOL_START"
  traceId := "trace"
  spanId := id
  operationName := "scan"
  timestamp := timestamp

def reset : Option String := some "1970-01-01T00:00:00+00:00"

def kept : List Input := [.insert (row "a" 0), .poll 0, .insert (row "b" 1000000), .poll 1000000]

/-- The second row is committed at the timestamp of the first, which was already sent. -/
def late : List Input := [.insert (row "a" 0), .poll 0, .insert (row "b" 0), .poll 1000000]

def stuck : System where
  table := [row "a" 0, row "b" 0]
  listener := { lastSeenId := some "a", lastSeenTimestamp := reset, resetTimestamp := reset }
  emitted := [traceEvent texts (row "a" 0)]

theorem run_late : Runs.run (step texts) (initial reset) late = stuck := by decide +kernel

theorem poll_stuck (now : Instant) : step texts stuck (.poll now) = stuck := by
  have nothing : query texts stuck.listener now stuck.table = [] := rfl
  rw [step, nothing]
  rfl

theorem polls_stuck (nows : List Instant) :
    Runs.run (step texts) stuck (nows.map .poll) = stuck := by
  induction nows with
  | nil => rfl
  | cons now rest ih => rw [List.map_cons, Runs.run, poll_stuck, ih]

theorem kept_meets : Runs.Along (step texts) (Meets texts 0) (initial reset) kept := by
  decide +kernel

end Sample

theorem polling_complete_sample :
    (Runs.run (step Sample.texts) (initial Sample.reset) Sample.kept).emitted <+:
      (fromStart 0 (Runs.run (step Sample.texts) (initial Sample.reset) Sample.kept).table).map
        (traceEvent Sample.texts) :=
  (polling_complete Sample.kept_meets).1

/-- A row that comes at the timestamp of the last one sent is never sent. -/
theorem late_row_never_sent :
    Runs.Along (step Sample.texts) Commits (initial Sample.reset) Sample.late ∧
      Sample.row "b" 0 ∈ fromStart 0
        (Runs.run (step Sample.texts) (initial Sample.reset) Sample.late).table ∧
      ∀ nows : List Instant, traceEvent Sample.texts (Sample.row "b" 0) ∉
        (Runs.run (step Sample.texts) (initial Sample.reset)
          (Sample.late ++ nows.map .poll)).emitted := by
  refine ⟨?_, ?_, fun nows => ?_⟩
  · decide +kernel
  · rw [Sample.run_late, fromStart, mem_pending]
    decide +kernel
  · rw [Runs.run_append, Sample.run_late, Sample.polls_stuck]
    decide +kernel

end NetworkAgent.Supervisor.Traces
