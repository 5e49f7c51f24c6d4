import Mathlib.Data.Finset.Card
import Mathlib.Data.Finset.Image
import Mathlib.Logic.Function.Basic
import NetworkAgent.Library.Table
import NetworkAgent.Library.Runs

/-! The executions of an agent: admission, background tasks and cleanup of any number of runs.
A run is switched only where it awaits; its phases are these points. -/
namespace NetworkAgent.Middleware

/-- How a background task ended. It catches every error of its own. -/
inductive TaskEnd where
  | returned | cancelled
  deriving DecidableEq

structure ExecutionState where
  /-- The run that started it. -/
  run : Nat
  threadId : String
  startTime : Nat
  isComplete : Bool := false
  task : Option TaskEnd := none
  deriving DecidableEq

inductive Phase where
  | absent
  /-- `RUN_STARTED` is out; the lock is next. -/
  | entering
  /-- In `_cleanup_stale_executions`, with the lock: what is left, and what it waits for. -/
  | sweeping (stale : List String) (awaited : Option Nat)
  /-- Past the check, with the execution found under the thread. -/
  | admitted (existing : Option Nat)
  | waiting (existing : Nat)
  /-- The background task exists; the lock is next. -/
  | started (execution : Nat)
  | streaming (execution : Nat)
  /-- Past the stream, up to the end of the `try`. -/
  | finishing
  /-- In the `finally`; the lock is next. -/
  | closing
  /-- In the `finally`, with the lock, while the pending calls are read. -/
  | cleaning (execution : Nat)
  | ended
  deriving DecidableEq

inductive Standing where
  | underWay | refused | failed
  deriving DecidableEq

structure Run where
  threadId : String := ""
  phase : Phase := .absent
  standing : Standing := .underWay
  deriving DecidableEq

inductive Stage where
  | admission | cleanup
  deriving DecidableEq

structure Touch where
  run : Nat
  stage : Stage
  execution : Nat
  deriving DecidableEq

structure Settings where
  maxConcurrent : Nat
  executionTimeout : Nat

structure State where
  now : Nat := 0
  created : Nat := 0
  executions : Nat → ExecutionState := fun _ => ⟨0, "", 0, false, none⟩
  active : Table String Nat := ∅
  lock : Option Nat := none
  begun : Nat := 0
  runs : Nat → Run := fun _ => {}
  touches : List Touch := []

namespace State

def setRun (s : State) (r : Nat) (run : Run) : State :=
  { s with runs := Function.update s.runs r run }

def setPhase (s : State) (r : Nat) (phase : Phase) : State := s.setRun r { s.runs r with phase }

/-- The run goes to its `finally`. -/
def close (s : State) (r : Nat) (standing : Standing) : State :=
  s.setRun r { s.runs r with phase := .closing, standing }

def setExecution (s : State) (e : Nat) (execution : ExecutionState) : State :=
  { s with executions := Function.update s.executions e execution }

def markComplete (s : State) (e : Nat) : State :=
  s.setExecution e { s.executions e with isComplete := true }

def touch (s : State) (r : Nat) (stage : Stage) (e : Nat) : State :=
  { s with touches := ⟨r, stage, e⟩ :: s.touches }

def isStale (s : State) (c : Settings) (e : Nat) : Bool :=
  c.executionTimeout < s.now - (s.executions e).startTime

def staleThreads (s : State) (c : Settings) : List String :=
  (s.active.rows.filter fun row => s.isStale c row.2).map (·.1)

def full (s : State) (c : Settings) : Bool := c.maxConcurrent ≤ s.active.keys.length

def admitRun (s : State) (r : Nat) : State :=
  s.setPhase r (.admitted (s.active.lookup (s.runs r).threadId))

def enter (s : State) (c : Settings) (r : Nat) : State :=
  if s.lock = none then
    if s.full c then { s.setPhase r (.sweeping (s.staleThreads c) none) with lock := some r }
    else s.admitRun r
  else s

/-- `_cleanup_stale_executions`, from one await to the next, and the second check. -/
def sweep (s : State) (c : Settings) (r : Nat) : List String → Option Nat → State
  | stale, some e =>
    if (s.executions e).task = none then s
    else (s.markComplete e).setPhase r (.sweeping stale none)
  | [], none =>
    if s.full c then { s.close r .refused with lock := none }
    else { s.admitRun r with lock := none }
  | threadId :: stale, none =>
    match s.active.lookup threadId with
    | none => s.setPhase r (.sweeping stale none)
    | some e => ({ s with active := s.active.erase threadId }.touch r .admission e).setPhase r
        (.sweeping stale (some e))

/-- `_start_background_execution`. -/
def start (s : State) (r : Nat) : State :=
  let execution := { run := r, threadId := (s.runs r).threadId, startTime := s.now }
  { (s.setExecution s.created execution).setPhase r (.started s.created) with
    created := s.created + 1 }

def store (s : State) (r e : Nat) : State :=
  if s.lock = none then
    { s.setPhase r (.streaming e) with active := s.active.insert (s.runs r).threadId e }
  else s

/-- The end of `_stream_events`. A cancelled task ends the run with its error. -/
def endStream (s : State) (r e : Nat) : State :=
  match (s.executions e).task with
  | none => s
  | some .returned => (s.markComplete e).setPhase r .finishing
  | some .cancelled => (s.markComplete e).close r .failed

/-- The `finally`, up to the reading of the pending calls. -/
def cleanup (s : State) (r : Nat) : State :=
  if s.lock = none then
    match s.active.lookup (s.runs r).threadId with
    | none => s.setPhase r .ended
    | some e => { ((s.markComplete e).touch r .cleanup e).setPhase r (.cleaning e) with
        lock := some r }
  else s

/-- The rest of the `finally`. -/
def finishCleanup (s : State) (r e : Nat) (hasPending : Bool) : State :=
  if hasPending then { s.setPhase r .ended with lock := none }
  else { (s.touch r .cleanup e).setPhase r .ended with
    active := s.active.erase (s.runs r).threadId, lock := none }

/-- A run goes on to its next await. What the session says about pending calls comes from
outside. -/
def advance (s : State) (c : Settings) (r : Nat) (hasPending : Bool) : State :=
  match (s.runs r).phase with
  | .absent | .ended => s
  | .entering => s.enter c r
  | .sweeping stale awaited => s.sweep c r stale awaited
  | .admitted none => s.start r
  | .admitted (some e) =>
    if (s.executions e).isComplete then s.start r else s.setPhase r (.waiting e)
  | .waiting e => match (s.executions e).task with
    | none => s
    | some .returned => s.start r
    | some .cancelled => s.close r .failed
  | .started e => s.store r e
  | .streaming e => s.endStream r e
  | .finishing => s.close r (s.runs r).standing
  | .closing => s.cleanup r
  | .cleaning e => s.finishCleanup r e hasPending

/-- The client goes away or an await raises. The wait for a swept task swallows that. -/
def fail (s : State) (r : Nat) : State :=
  match (s.runs r).phase with
  | .absent | .sweeping _ _ | .ended => s
  | .closing => s.setPhase r .ended
  | .cleaning _ => { s.setPhase r .ended with lock := none }
  | _ => s.close r .failed

/-- `_stream_events` gives up on a stale execution; its task goes on. -/
def timeOut (s : State) (c : Settings) (r : Nat) : State :=
  match (s.runs r).phase with
  | .streaming e =>
    if s.isStale c e then
      s.setRun r { s.runs r with phase := .finishing, standing := .failed }
    else s
  | _ => s

def finish (s : State) (e : Nat) (how : TaskEnd) : State :=
  if e < s.created ∧ (s.executions e).task = none then
    s.setExecution e { s.executions e with task := some how }
  else s

def begin (s : State) (threadId : String) : State :=
  { s.setRun s.begun { threadId, phase := .entering } with begun := s.begun + 1 }

end State

inductive Move where
  | tick
  | begin (threadId : String)
  | advance (run : Nat) (hasPending : Bool)
  | fail (run : Nat)
  | timeOut (run : Nat)
  | finish (execution : Nat) (how : TaskEnd)
  deriving DecidableEq

def Move.apply (c : Settings) (s : State) : Move → State
  | .tick => { s with now := s.now + 1 }
  | .begin threadId => s.begin threadId
  | .advance r hasPending => s.advance c r hasPending
  | .fail r => s.fail r
  | .timeOut r => s.timeOut c r
  | .finish e how => s.finish e how

end NetworkAgent.Middleware
