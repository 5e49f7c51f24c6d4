import NetworkAgent.Lab.Replay

/-! The paced runner and the store of its checkpoint. A run reads from outside: the clocks,
how each sleep, emission and write of the checkpoint ends. -/
namespace NetworkAgent.Lab

/-- The arithmetic and the comparisons of binary64 numbers. -/
class PyFloat (F : Type) where
  add : F → F → F
  sub : F → F → F
  div : F → F → F
  lt : F → F → Bool
  le : F → F → Bool
  isFinite : F → Bool
  ofRat : ℚ → F
  negInf : F

namespace PyFloat
variable {F : Type} [PyFloat F]

/-- `max` and `min` keep the first of their arguments unless a later one is beyond it. -/
def max (a b : F) : F := if lt a b then b else a
def min (a b : F) : F := if lt b a then b else a

end PyFloat

open PyFloat

def minPacedReplayDeadlineSeconds : ℚ := 1 / 1000
def maxPacedReplayDeadlineSeconds : ℚ := 24 * 60 * 60
def clockToleranceSeconds : ℚ := 1 / 1000000000

def isTransient (code : DeliveryCode) : Bool := code = .network || code = .timeout

inductive ReplayRetryPolicy where
  | none | transientOnce | transientTwice
  deriving DecidableEq

def ReplayRetryPolicy.backoffs : ReplayRetryPolicy → List ℚ
  | .none => []
  | .transientOnce => [1 / 4]
  | .transientTwice => [1 / 4, 1]

/-! The clock. -/

/-- What `monotonic()` answers; there is no number when it raises or answers something else. -/
abbrev Reading (F : Type) := Option F

def safeNumber {F : Type} [PyFloat F] (value : Reading F) (code : DeliveryCode) :
    Except DeliveryCode F :=
  match value with
  | some x => if isFinite x then .ok x else .error code
  | none => .error code

structure CheckedClock (F : Type) where
  last : Option F := none

/-- How the sleep of a clock ends. -/
inductive Sleep where
  | completed | timedOut | cancelled | failed (code : DeliveryCode)
  deriving DecidableEq

namespace CheckedClock
variable {F : Type} [PyFloat F]

def now (clock : CheckedClock F) (raw : Reading F) : Except DeliveryCode (F × CheckedClock F) := do
  let current ← safeNumber raw .pacingClockInvalid
  match clock.last with
  | none => return (current, ⟨some current⟩)
  | some last =>
    Checks.require (lt (add current (ofRat clockToleranceSeconds)) last = false) .pacingClockInvalid
    return (max current last, ⟨some (max current last)⟩)

/-- The answer says whether the sleep was completed, `none` stands for a cancellation. -/
def sleep (clock : CheckedClock F) (seconds : F) (before : Reading F) (ends : Sleep)
    (after : Reading F) : Except DeliveryCode (Option Bool × CheckedClock F) := do
  let (start, clock) ← clock.now before
  match ends with
  | .cancelled => return (none, clock)
  | .timedOut => return (some false, clock)
  | .failed code => .error code
  | .completed => do
    let (stop, clock) ← clock.now after
    Checks.require (lt (add stop (ofRat clockToleranceSeconds)) (add start seconds) = false)
      .pacingClockInvalid
    return (some true, clock)

end CheckedClock

/-! What a run reports, and what it leaves behind. -/

structure PacedReplayResult (F : Type) where
  checkpoint : ReplayDeliveryCheckpoint
  selectedCount : Nat
  attemptedCount : Nat
  deliveredCount : Nat
  retryCount : Nat
  failedSequenceNumber : Option Nat
  errorCode : Option DeliveryCode
  deadlineExceeded : Bool
  uncertainSequenceNumber : Option Nat
  planComplete : Bool
  elapsedSeconds : F

structure PacedReplayCancelled where
  checkpoint : ReplayDeliveryCheckpoint
  attemptedCount : Nat
  deliveredCount : Nat
  retryCount : Nat
  uncertainSequenceNumber : Option Nat

/-- How a run ends: it returns a result, is cancelled, raises one of the errors, or stops
with its process. -/
inductive End (F : Type) where
  | returned (result : PacedReplayResult F)
  | cancelled (evidence : PacedReplayCancelled)
  | delivery (code : DeliveryCode)
  | checkpoint (code : CheckpointCode)
  | raised
  | crashed

/-- How the emission of an event ends for the runner. -/
inductive Emission where
  | receipt (receipt : ReplayDeliveryReceipt)
  | cancelled
  | timedOut
  | refused (code : DeliveryCode)
  | raised
  | crashed
  deriving DecidableEq

/-- An event given to the sink with the end of that attempt, or a checkpoint that the next
run will read. -/
inductive Entry where
  | attempt (event : ReplayEvent) (emission : Emission)
  | durable (checkpoint : ReplayDeliveryCheckpoint)
  deriving DecidableEq

/-! The store. Its file holds one checkpoint, as it was serialized. -/

abbrev File := Option ReplayDeliveryCheckpoint

/-- How the write of a checkpoint ends: the file cannot be read first, or the write succeeds,
raises or stops with its process, before or after the file was replaced. -/
inductive Write where
  | unreadable (code : CheckpointCode)
  | written
  | failed (code : CheckpointCode) (replaced : Bool)
  | crashed (replaced : Bool)
  deriving DecidableEq

section Store
variable {F : Type} {h : Host} (plan : ReplayPlan h)

/-- `_canonical_checkpoint` of the store. -/
def storedCheckpoint (value : Option ReplayDeliveryCheckpoint) :
    Except CheckpointCode ReplayDeliveryCheckpoint :=
  match plan.validatedCheckpoint value with
  | .ok c => .ok c
  | .error _ => .error .invalid

def readLocked (file : File) : Except CheckpointCode ReplayDeliveryCheckpoint :=
  storedCheckpoint plan file

/-- `_write_locked`: the file after it, and why the run ends there. -/
def writeLocked (file : File) (candidate : ReplayDeliveryCheckpoint) :
    Write → Except (End F) Unit × File
  | .unreadable code => (.error (.checkpoint code), file)
  | .written => (.ok (), some candidate)
  | .failed code replaced => (.error (.checkpoint code), if replaced then some candidate else file)
  | .crashed replaced => (.error .crashed, if replaced then some candidate else file)

def saveLocked (file : File) (candidate : ReplayDeliveryCheckpoint) (write : Write) :
    Except (End F) Unit × File :=
  match storedCheckpoint plan (some candidate), readLocked plan file with
  | .error code, _ => (.error (.checkpoint code), file)
  | .ok _, .error code => (.error (.checkpoint code), file)
  | .ok candidate, .ok current =>
    if candidate.sequenceNumber < current.sequenceNumber then
      (.error (.checkpoint .regression), file)
    else if candidate = current then (.ok (), file)
    else writeLocked file candidate write

end Store

def ReplayDeliveryReceipt.Confirms (r : ReplayDeliveryReceipt) (e : ReplayEvent) : Prop :=
  r.sequenceNumber = e.sequenceNumber ∧ r.sourceEventId = e.sourceEventId ∧
    (r.statusCode = 202 ∨ r.statusCode = 204)

instance (r : ReplayDeliveryReceipt) (e : ReplayEvent) : Decidable (r.Confirms e) :=
  inferInstanceAs (Decidable (_ ∧ _ ∧ _))

/-! The loop over the selected events. -/

/-- What one round of the loop reads from outside, in the order it reads it. -/
structure Round (F : Type) where
  now : Reading F
  realNow : F
  before : Reading F := none
  sleep : Sleep := .completed
  after : Reading F := none
  started : Reading F := none
  realStarted : F
  emission : Emission := .crashed
  retried : Reading F := none
  write : Write := .written
  elapsed : Reading F := none

structure Schedule (F : Type) (h : Host) where
  plan : ReplayPlan h
  selectedCount : Nat
  startedAt : F
  deadlineAt : F
  realDeadlineAt : F
  scheduleOrigin : F
  backoffs : List ℚ
  minimumAttemptInterval : F

/-- The variables of the loop. The current event is the first one pending. -/
structure Loop (F : Type) where
  clock : CheckedClock F
  file : File
  checkpointSequence : Nat
  pending : List ReplayEvent
  retryIndex : Nat := 0
  retryNotBefore : F
  eventOutcomeUncertain : Bool := false
  lastAttemptAt : Option F := none
  attemptedCount : Nat := 0
  deliveredCount : Nat := 0
  retryCount : Nat := 0

namespace Schedule
variable {F : Type} [PyFloat F] {h : Host} (c : Schedule F h)

def elapsed (clock : CheckedClock F) (raw : Reading F) : Except DeliveryCode F := do
  let (now, _) ← clock.now raw
  let elapsed := sub now c.startedAt
  Checks.require (isFinite elapsed ∧ lt elapsed (ofRat (-clockToleranceSeconds)) = false)
    .pacingClockInvalid
  return max (ofRat 0) elapsed

def result (s : Loop F) (raw : Reading F) (failed : Option Nat) (errorCode : Option DeliveryCode)
    (deadlineExceeded : Bool) (uncertain : Option Nat) : End F :=
  match c.plan.checkpointForSequence s.checkpointSequence, c.elapsed s.clock raw with
  | .error code, _ => .delivery code
  | .ok _, .error code => .delivery code
  | .ok checkpoint, .ok elapsed => .returned {
      checkpoint := checkpoint
      selectedCount := c.selectedCount
      attemptedCount := s.attemptedCount
      deliveredCount := s.deliveredCount
      retryCount := s.retryCount
      failedSequenceNumber := failed
      errorCode := errorCode
      deadlineExceeded := deadlineExceeded
      uncertainSequenceNumber := uncertain
      planComplete := checkpoint.sequenceNumber = c.plan.events.length
      elapsedSeconds := elapsed }

def cancelled (s : Loop F) (uncertain : Option Nat) : End F :=
  match c.plan.checkpointForSequence s.checkpointSequence with
  | .error code => .delivery code
  | .ok checkpoint => .cancelled {
      checkpoint := checkpoint
      attemptedCount := s.attemptedCount
      deliveredCount := s.deliveredCount
      retryCount := s.retryCount
      uncertainSequenceNumber := uncertain }

def uncertainEvent (event : ReplayEvent) (uncertain : Bool) : Option Nat :=
  if uncertain then some event.sequenceNumber else none

def deadlineResult (s : Loop F) (round : Round F) (event : ReplayEvent) (uncertain : Bool) : End F :=
  c.result s round.elapsed (some event.sequenceNumber) (some .pacingDeadlineExceeded) true
    (uncertainEvent event uncertain)

def dueAt (s : Loop F) (event : ReplayEvent) : F :=
  let planDue := add c.scheduleOrigin (ofRat event.scheduledOffsetSeconds)
  let rateDue := match s.lastAttemptAt with
    | none => negInf
    | some last => add last c.minimumAttemptInterval
  max (max planDue rateDue) s.retryNotBefore

/-- Waiting for the current event: the clock after it, or how the run ends there. -/
def await (s : Loop F) (round : Round F) (event : ReplayEvent) : Except (End F) (CheckedClock F) :=
  match s.clock.now round.now with
  | .error code => .error (.delivery code)
  | .ok (now, clock) =>
    let s := { s with clock := clock }
    let dueAt := c.dueAt s event
    let logicalRemaining := sub c.deadlineAt now
    let realRemaining := sub c.realDeadlineAt round.realNow
    if le logicalRemaining (ofRat 0) || le realRemaining (ofRat 0) || le c.deadlineAt dueAt ||
        le realRemaining (sub dueAt now) then
      .error (c.deadlineResult s round event s.eventOutcomeUncertain)
    else if lt (ofRat clockToleranceSeconds) (sub dueAt now) then
      match clock.sleep (sub dueAt now) round.before round.sleep round.after with
      | .error code => .error (.delivery code)
      | .ok (none, clock) =>
        .error (c.cancelled { s with clock := clock } (uncertainEvent event s.eventOutcomeUncertain))
      | .ok (some false, clock) =>
        .error (c.deadlineResult { s with clock := clock } round event s.eventOutcomeUncertain)
      | .ok (some true, clock) => .ok clock
    else .ok clock

def start (s : Loop F) (round : Round F) (event : ReplayEvent) :
    Except (End F) (F × CheckedClock F) :=
  match s.clock.now round.started with
  | .error code => .error (.delivery code)
  | .ok (startedAt, clock) =>
    let realRemaining := sub c.realDeadlineAt round.realStarted
    let logicalRemaining := sub c.deadlineAt startedAt
    if le (min realRemaining logicalRemaining) (ofRat 0) then
      .error (c.deadlineResult { s with clock := clock } round event s.eventOutcomeUncertain)
    else .ok (startedAt, clock)

def attempted (s : Loop F) (startedAt : F) (clock : CheckedClock F) : Loop F :=
  { s with
    clock := clock
    lastAttemptAt := some startedAt
    attemptedCount := s.attemptedCount + 1
    retryCount := if 0 < s.retryIndex then s.retryCount + 1 else s.retryCount }

def refused (s : Loop F) (round : Round F) (event : ReplayEvent) (code : DeliveryCode) :
    Except (End F) (Loop F) :=
  let transient := isTransient code
  let s := { s with eventOutcomeUncertain := s.eventOutcomeUncertain || transient }
  let ends := c.result s round.elapsed (some event.sequenceNumber) (some code) false
    (uncertainEvent event s.eventOutcomeUncertain)
  match transient, c.backoffs[s.retryIndex]? with
  | true, some backoff =>
    match s.clock.now round.retried with
    | .error code => .error (.delivery code)
    | .ok (now, clock) =>
      let retryNotBefore := add now (ofRat backoff)
      if isFinite retryNotBefore then
        .ok { s with clock := clock, retryNotBefore := retryNotBefore, retryIndex := s.retryIndex + 1 }
      else .error (.delivery .pacingClockInvalid)
  | _, _ => .error ends

def delivered (s : Loop F) (event : ReplayEvent) (rest : List ReplayEvent) (file : File) : Loop F :=
  { s with
    file := file
    checkpointSequence := event.sequenceNumber
    deliveredCount := s.deliveredCount + 1
    pending := rest
    retryIndex := 0
    retryNotBefore := negInf
    eventOutcomeUncertain := false }

/-- The entries that one round adds, the file after it, and what follows. -/
structure Turn (F : Type) where
  entries : List Entry
  file : File
  next : Except (End F) (Loop F)

def replaced (before after : File) : List Entry :=
  if before = after then [] else after.toList.map .durable

/-- An accepted receipt: its checkpoint is committed before the event counts as delivered. -/
def commit (s : Loop F) (round : Round F) (event : ReplayEvent) (rest : List ReplayEvent) : Turn F :=
  match c.plan.checkpointForSequence event.sequenceNumber with
  | .error code => ⟨[], s.file, .error (.delivery code)⟩
  | .ok candidate =>
    match saveLocked c.plan s.file candidate round.write with
    | (.error ends, file) => ⟨replaced s.file file, file, .error ends⟩
    | (.ok (), file) => ⟨replaced s.file file, file, .ok (delivered s event rest file)⟩

def emit (s : Loop F) (round : Round F) (event : ReplayEvent) (rest : List ReplayEvent) : Turn F :=
  match round.emission with
  | .cancelled => ⟨[], s.file, .error (c.cancelled s (some event.sequenceNumber))⟩
  | .timedOut => ⟨[], s.file, .error (c.deadlineResult s round event true)⟩
  | .refused code => ⟨[], s.file, c.refused s round event code⟩
  | .raised => ⟨[], s.file, .error .raised⟩
  | .crashed => ⟨[], s.file, .error .crashed⟩
  | .receipt receipt =>
    if receipt.Confirms event then c.commit s round event rest
    else ⟨[], s.file, .error (c.result s round.elapsed (some event.sequenceNumber)
      (some .transportInvalid) false (uncertainEvent event s.eventOutcomeUncertain))⟩

def turn (s : Loop F) (round : Round F) (event : ReplayEvent) (rest : List ReplayEvent) : Turn F :=
  match c.await s round event with
  | .error ends => ⟨[], s.file, .error ends⟩
  | .ok clock =>
    match c.start { s with clock := clock } round event with
    | .error ends => ⟨[], s.file, .error ends⟩
    | .ok (startedAt, clock) =>
      let t := c.emit (attempted s startedAt clock) round event rest
      { t with entries := .attempt event round.emission :: t.entries }

end Schedule

structure Ran (F : Type) where
  entries : List Entry
  file : File
  ends : End F

namespace Schedule
variable {F : Type} [PyFloat F] {h : Host} (c : Schedule F h)

/-- The loop. A process that stops between two rounds has no further one. -/
def loop (finish : Reading F) (s : Loop F) : List (Round F) → Ran F
  | [] => match s.pending with
    | [] => ⟨[], s.file, c.result s finish none none false none⟩
    | _ :: _ => ⟨[], s.file, .crashed⟩
  | round :: rounds => match s.pending with
    | [] => ⟨[], s.file, c.result s finish none none false none⟩
    | event :: rest =>
      let t := c.turn s round event rest
      match t.next with
      | .error ends => ⟨t.entries, t.file, ends⟩
      | .ok s' =>
        let later := loop finish s' rounds
        { later with entries := t.entries ++ later.entries }

end Schedule

structure RunInput (F : Type) where
  opening : Option CheckpointCode := none
  sinkPolicy : ReplayPolicy
  retryPolicy : ReplayRetryPolicy := .none
  deadlineSeconds : Option (Reading F) := none
  started : Reading F
  realStarted : F
  rounds : List (Round F)
  finish : Reading F := none

section Run
variable {F : Type} [PyFloat F] {h : Host} (plan : ReplayPlan h)

def validatedDeadline (value : Option (Reading F)) : Except DeliveryCode F :=
  match value with
  | none => .ok (ofRat plan.policy.maxDurationSeconds)
  | some value => do
    let normalized ← safeNumber value .pacingArgumentsInvalid
    Checks.require (le (ofRat minPacedReplayDeadlineSeconds) normalized ∧
      le normalized (min (ofRat plan.policy.maxDurationSeconds)
        (ofRat maxPacedReplayDeadlineSeconds))) .pacingArgumentsInvalid
    return normalized

/-- What `_run_paced_replay` sets up before its loop. -/
def prepare (checkpoint : ReplayDeliveryCheckpoint) (file : File) (input : RunInput F) :
    Except DeliveryCode (Schedule F h × Loop F) := do
  Checks.require (h.canonicalJson input.sinkPolicy.toJson = h.canonicalJson plan.policy.toJson)
    .planInvalid
  let checkpoint ← plan.validatedCheckpoint (some checkpoint)
  let deadline ← validatedDeadline plan input.deadlineSeconds
  let (startedAt, clock) ← CheckedClock.now {} input.started
  let deadlineAt := add startedAt deadline
  let realDeadlineAt := add input.realStarted deadline
  Checks.require (isFinite deadlineAt ∧ isFinite realDeadlineAt) .pacingClockInvalid
  let selected ← plan.resumeAfter checkpoint.sequenceNumber
  let offset := match checkpoint.sequenceNumber with
    | 0 => ofRat 0
    | n + 1 => ((plan.events[n]?).map fun e => ofRat e.scheduledOffsetSeconds).getD (ofRat 0)
  return (⟨plan, selected.length, startedAt, deadlineAt, realDeadlineAt, sub startedAt offset,
    input.retryPolicy.backoffs, div (ofRat 1) (ofRat plan.policy.maxRatePerSecond)⟩,
    { clock := clock, file := file, checkpointSequence := checkpoint.sequenceNumber,
      pending := selected, retryNotBefore := negInf })

def runPersistentPacedReplay (file : File) (input : RunInput F) : Ran F :=
  match input.opening with
  | some code => ⟨[], file, .checkpoint code⟩
  | none =>
    match readLocked plan file with
    | .error code => ⟨[], file, .checkpoint code⟩
    | .ok checkpoint =>
      match prepare plan checkpoint file input with
      | .error code => ⟨[], file, .delivery code⟩
      | .ok (c, s) => c.loop input.finish s input.rounds

/-- The file of the store, and all that the runs so far added to the trace. -/
structure Replay where
  file : File := none
  trace : List Entry := []

def Replay.next (r : Replay) (input : RunInput F) : Replay :=
  let ran := runPersistentPacedReplay plan r.file input
  ⟨ran.file, r.trace ++ ran.entries⟩

end Run

end NetworkAgent.Lab
