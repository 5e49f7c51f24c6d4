import Mathlib.Logic.Function.Basic
import NetworkAgent.Library.Runs

/-! The boundary of the local business operations: one worker thread with one event loop, and one
operation in flight. The callers, the closers, the worker threads and the completion callbacks
take their steps in any order; every section under the state lock is one step. -/
namespace NetworkAgent.Assurance.BusinessBoundary

/-- Where a call of `run` is. From the check on it holds the start lock, until it has its loop or
is answered. -/
inductive Phase where
  | idle
  | deciding (loop thread : Option Nat)
  | creating
  | starting (thread : Nat)
  | awaiting
  | verifying (loop thread : Option Nat)
  | submitting (loop : Nat)
  | attaching
  | waiting
  | returned (ok : Bool)
  | timedOut
  | cancelled
  | busy
  | broken
  deriving DecidableEq

/-- An operation, on the event loop of the worker of this number. One that ended by an exception
which ends the event loop as well never completes its future. -/
inductive Operation where
  | absent
  | scheduled (worker : Nat)
  | running (worker : Nat)
  | done (ok : Bool)
  | crashed
  deriving DecidableEq

def Operation.isDone : Operation → Bool
  | .done _ => true
  | _ => false

/-- The future of the operation was made and is not done. -/
def Operation.Unfinished : Operation → Prop
  | .scheduled _ | .running _ | .crashed => True
  | .absent | .done _ => False

/-- The callback of a future, from where it is attached to its last step. -/
inductive Callback where
  | absent
  | attached
  | due
  | stopping (loop : Nat)
  | finished
  deriving DecidableEq

structure Call where
  phase : Phase := .idle
  operation : Operation := .absent
  callback : Callback := .absent
  invoked : Nat := 0

/-- A worker thread; it is alive from its start to its end. -/
inductive Worker where
  | absent
  | created
  | starting
  | published (stopRequested : Bool)
  | running (stopRequested : Bool)
  | stopped
  | closed
  | ended
  deriving DecidableEq

def Worker.alive : Worker → Bool
  | .starting | .published _ | .running _ | .stopped | .closed => true
  | .absent | .created | .ended => false

def Worker.isOpen : Worker → Bool
  | .closed | .ended => false
  | _ => true

/-- A call of `close`. -/
inductive Closing where
  | idle
  | stopping (loop : Nat) (thread : Option Nat)
  | joining (thread : Option Nat)
  | returned (stopped : Bool)
  | raised
  deriving DecidableEq

structure State where
  shut : Bool := false
  loop : Option Nat := none
  thread : Option Nat := none
  inflight : Option Nat := none
  startLock : Option Nat := none
  ready : Bool := false
  idle : Bool := true
  stopped : Bool := true
  fresh : Nat := 0
  worker : Nat → Worker := fun _ => .absent
  call : Nat → Call := fun _ => {}
  closing : Nat → Closing := fun _ => .idle

def State.setCall (s : State) (i : Nat) (call : Call) : State :=
  { s with call := Function.update s.call i call }

def State.goto (s : State) (i : Nat) (phase : Phase) : State :=
  s.setCall i { s.call i with phase }

def State.setWorker (s : State) (w : Nat) (worker : Worker) : State :=
  { s with worker := Function.update s.worker w worker }

def State.setClosing (s : State) (k : Nat) (closing : Closing) : State :=
  { s with closing := Function.update s.closing k closing }

def State.operation (s : State) (i : Nat) : Operation := (s.call i).operation

def State.alive (s : State) (thread : Option Nat) : Bool := thread.any fun w => (s.worker w).alive

/-- `inflight is None or inflight.done()`. -/
def State.free (s : State) : Bool := s.inflight.all fun i => (s.operation i).isDone

def State.isAcceptingWork (s : State) : Bool := !s.shut && s.free

/-- `call_soon_threadsafe(loop.stop)`, on a loop that is open: the worker stops once it runs. -/
def Worker.requestStop : Worker → Worker
  | .published _ => .published true
  | .running _ => .running true
  | worker => worker

def State.requestStop (s : State) (w : Nat) : State := s.setWorker w (s.worker w).requestStop

/-- One step of `_ensure_worker`, of `_submit` and of `run`. -/
def callerStep (s : State) (i : Nat) : State :=
  match (s.call i).phase with
  | .idle =>
    if s.startLock.isSome then s
    else if s.shut then s.goto i .busy
    else { s with startLock := some i }.goto i (.deciding s.loop s.thread)
  | .deciding loop thread =>
    if loop.isNone || !s.alive thread then
      { s with ready := false, stopped := false }.goto i .creating
    else s.goto i .awaiting
  | .creating =>
    ({ s with thread := some s.fresh, loop := none, fresh := s.fresh + 1 }.setWorker s.fresh
      .created).goto i (.starting s.fresh)
  | .starting thread => (s.setWorker thread .starting).goto i .awaiting
  | .awaiting => if s.ready then s.goto i (.verifying s.loop s.thread) else s
  | .verifying loop thread =>
    match loop with
    | some loop =>
      if s.alive thread then { s with startLock := none }.goto i (.submitting loop)
      else { s with startLock := none }.goto i .busy
    | none => { s with startLock := none }.goto i .busy
  | .submitting loop =>
    if s.shut || !s.free then s.goto i .busy
    else if (s.worker loop).isOpen then
      { s with idle := false, inflight := some i }.setCall i
        { s.call i with phase := .attaching, operation := .scheduled loop }
    else { s with idle := true, inflight := none }.goto i .broken
  | .attaching =>
    s.setCall i { s.call i with
      phase := .waiting
      callback := if (s.operation i).isDone then .due else .attached }
  | .waiting =>
    match s.operation i with
    | .done ok => s.goto i (.returned ok)
    | _ => s
  | _ => s

/-- `_clear_inflight`. -/
def callbackStep (s : State) (i : Nat) : State :=
  match (s.call i).callback with
  | .due =>
    let finished := s.setCall i { s.call i with callback := .finished }
    if s.inflight = some i then
      match s.shut, s.loop with
      | true, some loop =>
        { s with inflight := none, idle := true }.setCall i
          { s.call i with callback := .stopping loop }
      | _, _ => { finished with inflight := none, idle := true }
    else finished
  | .stopping loop => (s.requestStop loop).setCall i { s.call i with callback := .finished }
  | _ => s

/-- One step of `_worker_main`. -/
def workerStep (s : State) (w : Nat) : State :=
  match s.worker w with
  | .starting => { s with loop := some w }.setWorker w (.published false)
  | .published stop => { s with ready := true }.setWorker w (.running stop)
  | .running true => s.setWorker w .stopped
  | .stopped => s.setWorker w .closed
  | .closed =>
    { s with
      loop := if s.loop = some w then none else s.loop
      ready := false
      stopped := true }.setWorker w .ended
  | _ => s

/-- One step of `close`. -/
def closeStep (s : State) (k : Nat) : State :=
  match s.closing k with
  | .idle =>
    match s.loop, s.free with
    | some loop, true => { s with shut := true }.setClosing k (.stopping loop s.thread)
    | _, _ => { s with shut := true }.setClosing k (.joining s.thread)
  | .stopping loop thread =>
    if (s.worker loop).isOpen then (s.requestStop loop).setClosing k (.joining thread)
    else s.setClosing k .raised
  | .joining none => s.setClosing k (.returned true)
  | .joining (some thread) =>
    if s.worker thread = .created then s.setClosing k .raised
    else s.setClosing k (.returned !(s.worker thread).alive)
  | _ => s

/-- Whose step is next, and what the environment does. -/
inductive Input where
  | caller (i : Nat)
  | startTimeout (i : Nat)
  | deadline (i : Nat)
  | cancel (i : Nat)
  | begins (i : Nat)
  | finishes (i : Nat) (ok : Bool)
  | crashes (i : Nat)
  | callback (i : Nat)
  | worker (w : Nat)
  | closer (k : Nat)

def State.runsOn (s : State) (w : Nat) : Bool :=
  match s.worker w with
  | .running _ => true
  | _ => false

def step (s : State) : Input → State
  | .caller i => callerStep s i
  | .startTimeout i =>
    if (s.call i).phase = .awaiting then { s with startLock := none }.goto i .busy else s
  | .deadline i => if (s.call i).phase = .waiting then s.goto i .timedOut else s
  | .cancel i => if (s.call i).phase = .waiting then s.goto i .cancelled else s
  | .begins i =>
    match s.operation i with
    | .scheduled w =>
      if s.runsOn w then
        s.setCall i { s.call i with operation := .running w, invoked := (s.call i).invoked + 1 }
      else s
    | _ => s
  | .finishes i ok =>
    match s.operation i with
    | .running w =>
      if s.runsOn w then
        s.setCall i { s.call i with
          operation := .done ok
          callback := if (s.call i).callback = .attached then .due else (s.call i).callback }
      else s
    | _ => s
  | .crashes i =>
    match s.operation i with
    | .running w =>
      if s.runsOn w then
        (s.setWorker w .stopped).setCall i { s.call i with operation := .crashed }
      else s
    | _ => s
  | .callback i => callbackStep s i
  | .worker w => workerStep s w
  | .closer k => closeStep s k

def run (inputs : List Input) : State := Runs.run step {} inputs

/-- A call of `run` that has not begun, waits for its operation or has its answer. -/
def Phase.Settled : Phase → Prop
  | .idle | .waiting | .returned _ | .timedOut | .cancelled | .busy | .broken => True
  | _ => False

def Callback.Settled : Callback → Prop
  | .absent | .attached | .finished => True
  | .due | .stopping _ => False

def Worker.Settled : Worker → Prop
  | .absent | .running false | .ended => True
  | _ => False

def Closing.Settled : Closing → Prop
  | .stopping .. => False
  | _ => True

/-- Every operation has ended, and nothing that was begun is left to be done. -/
structure Settled (s : State) : Prop where
  finished : ∀ i, ¬ (s.operation i).Unfinished
  calls : ∀ i, (s.call i).phase.Settled
  callbacks : ∀ i, (s.call i).callback.Settled
  workers : ∀ w, (s.worker w).Settled
  closers : ∀ k, (s.closing k).Settled

structure Rests (s : State) : Prop where
  inflight : s.inflight = none
  idle : s.idle = true
  accepting : s.isAcceptingWork = !s.shut
  stopped : s.shut = true → s.stopped = true ∧ ∀ w, (s.worker w).alive = false

/-- A worker is being started: a caller has found that it may need one, or the new worker has not
yet published its loop. -/
def State.isStarting (s : State) : Bool :=
  (s.startLock.any fun i =>
    match (s.call i).phase with
    | .deciding .. | .creating | .starting _ => true
    | _ => false) ||
  s.thread.any fun w => decide (s.worker w = .created ∨ s.worker w = .starting)

/-- What leads to a worker that nobody stops: closing begins while a worker is being started, a
second worker is made while the first is alive, or an exception ends an event loop. -/
def Disturbs (s : State) : Input → Prop
  | .closer k => s.closing k = .idle ∧ s.isStarting = true
  | .caller i => (s.call i).phase = .creating ∧
      s.thread.any (fun w => decide (s.worker w ≠ .ended)) = true
  | .crashes _ => True
  | _ => False

instance (s : State) (input : Input) : Decidable (Disturbs s input) :=
  match input with
  | .closer _ => inferInstanceAs (Decidable (_ ∧ _))
  | .caller _ => inferInstanceAs (Decidable (_ ∧ _))
  | .crashes _ => isTrue trivial
  | .startTimeout _ | .deadline _ | .cancel _ | .begins _ | .finishes .. | .callback _ | .worker _ =>
    isFalse id

/-! Every run. -/

/-- How far the call of an operation has come. -/
inductive Stage where
  | early
  | attaching
  | submitted
  deriving DecidableEq

def Phase.stage : Phase → Stage
  | .attaching => .attaching
  | .waiting | .returned _ | .timedOut | .cancelled => .submitted
  | _ => .early

def Operation.invocations : Operation → Nat
  | .absent | .scheduled _ => 0
  | .running _ | .done _ | .crashed => 1

/-- The operation of a call and its callback fit to the stage of the call. -/
structure Call.Fits (c : Call) : Prop where
  early : c.phase.stage = .early → c.operation = .absent
  attached : c.phase.stage = .submitted ↔ c.callback ≠ .absent
  awaited : c.callback = .attached → c.operation.isDone = false
  ended : c.callback ≠ .absent → c.callback ≠ .attached → c.operation.isDone = true
  invoked : c.invoked = c.operation.invocations

structure Sound (s : State) : Prop where
  fits : ∀ i, (s.call i).Fits
  idle : s.idle = true ↔ s.inflight = none
  single : ∀ i, (s.operation i).Unfinished → s.inflight = some i
  pending : ∀ i, s.inflight = some i → s.operation i ≠ .absent ∧
    ((s.call i).callback = .absent ∨ (s.call i).callback = .attached ∨ (s.call i).callback = .due)

section
variable {s : State} {i : Nat}

@[simp] theorem setWorker_worker (worker : Worker) (v w : Nat) :
    (s.setWorker v worker).worker w = if w = v then worker else s.worker w := by
  simp [State.setWorker, Function.update_apply]

@[simp] theorem setClosing_closing (closing : Closing) (j k : Nat) :
    (s.setClosing j closing).closing k = if k = j then closing else s.closing k := by
  simp [State.setClosing, Function.update_apply]

@[simp] theorem setCall_call (c : Call) (j : Nat) :
    (s.setCall i c).call j = if j = i then c else s.call j := by
  simp [State.setCall, Function.update_apply]

@[simp] theorem setCall_operation (c : Call) (j : Nat) :
    (s.setCall i c).operation j = if j = i then c.operation else s.operation j := by
  unfold State.operation
  rw [setCall_call]
  split <;> rfl

theorem Sound.setCall (sound : Sound s) {c : Call} (fits : c.Fits)
    (single : c.operation.Unfinished → s.inflight = some i)
    (pending : s.inflight = some i → c.operation ≠ .absent ∧
      (c.callback = .absent ∨ c.callback = .attached ∨ c.callback = .due)) :
    Sound (s.setCall i c) := by
  refine ⟨fun j => ?_, sound.idle, fun j unfinished => ?_, fun j marked => ?_⟩
  · rw [setCall_call]
    split
    · exact fits
    · exact sound.fits j
  · rw [setCall_operation] at unfinished
    split at unfinished
    · rename_i own
      exact own ▸ single unfinished
    · exact sound.single j unfinished
  · rw [setCall_operation, setCall_call]
    split
    · rename_i own
      exact pending (own ▸ marked)
    · exact sound.pending j marked

theorem Sound.goto (sound : Sound s) {phase : Phase} (same : phase.stage = (s.call i).phase.stage) :
    Sound (s.goto i phase) := by
  obtain ⟨early, attached, unfinished, ended, invoked⟩ := sound.fits i
  exact sound.setCall ⟨same ▸ early, same ▸ attached, unfinished, ended, invoked⟩ (sound.single i)
    (sound.pending i)

theorem Sound.transfer (sound : Sound s) {t : State} (call : t.call = s.call)
    (inflight : t.inflight = s.inflight) (idle : t.idle = s.idle) : Sound t where
  fits := call ▸ sound.fits
  idle := by
    rw [idle, inflight]
    exact sound.idle
  single j := by
    rw [inflight, State.operation, call]
    exact sound.single j
  pending j := by
    rw [inflight, State.operation, call]
    exact sound.pending j

theorem free_iff : s.free = true ↔ ∀ i, s.inflight = some i → (s.operation i).isDone = true := by
  unfold State.free
  cases s.inflight <;> simp

theorem Operation.not_unfinished_of_done {operation : Operation}
    (done : operation.isDone = true) : ¬ operation.Unfinished := by
  cases operation <;> simp_all [Operation.isDone, Operation.Unfinished]

theorem Sound.finished_of_free (sound : Sound s) (free : s.free = true) (j : Nat) :
    ¬ (s.operation j).Unfinished := fun unfinished =>
  Operation.not_unfinished_of_done (free_iff.mp free j (sound.single j unfinished)) unfinished

theorem Sound.submit (sound : Sound s) (free : s.free = true) (loop : Nat)
    (early : (s.call i).phase.stage = .early) :
    Sound ({ s with idle := false, inflight := some i }.setCall i
      { s.call i with phase := .attaching, operation := .scheduled loop }) := by
  obtain ⟨absent, attached, -, -, invoked⟩ := sound.fits i
  have silent : (s.call i).callback = .absent := by
    by_contra other
    rw [early] at attached
    cases attached.mpr other
  refine ⟨fun j => ?_, by simp [State.setCall], fun j unfinished => ?_, fun j marked => ?_⟩
  · rw [setCall_call]
    split
    · refine ⟨nofun, ?_, ?_, ?_, ?_⟩
      · simp [Phase.stage, silent]
      · simp [silent]
      · simp [silent]
      · rw [invoked, absent early]
        rfl
    · exact sound.fits j
  · rw [setCall_operation] at unfinished
    split at unfinished
    · rename_i own
      exact own ▸ rfl
    · exact absurd unfinished (sound.finished_of_free free j)
  · cases marked
    simp [silent]

theorem Sound.clear (sound : Sound s) (free : s.free = true) :
    Sound { s with idle := true, inflight := none } where
  fits := sound.fits
  idle := by simp
  single j unfinished := absurd unfinished (sound.finished_of_free free j)
  pending j := nofun

theorem Sound.callerStep (sound : Sound s) (i : Nat) : Sound (callerStep s i) := by
  unfold BusinessBoundary.callerStep
  split <;> rename_i phase
  case h_7 loop =>
    split
    · exact sound.goto (congrArg Phase.stage phase).symm
    · rename_i admitted
      simp only [Bool.or_eq_true, Bool.not_eq_true', not_or, Bool.not_eq_false] at admitted
      split
      · exact sound.submit admitted.2 loop (congrArg Phase.stage phase)
      · exact Sound.goto (sound.clear admitted.2) (congrArg Phase.stage phase).symm
  case h_8 =>
    obtain ⟨absent, attached, -, -, invoked⟩ := sound.fits i
    have silent : (s.call i).callback = .absent := by
      by_contra other
      have stage := attached.mpr other
      rw [phase] at stage
      cases stage
    refine sound.setCall ⟨nofun, ?_, ?_, ?_, invoked⟩ (sound.single i) fun marked => ?_
    · simp only [Phase.stage, true_iff]
      split <;> simp
    · split <;> simp_all [State.operation]
    · split <;> simp_all [State.operation]
    · refine ⟨(sound.pending i marked).1, ?_⟩
      split <;> simp
  all_goals
    repeat' split
    all_goals first
      | exact sound
      | refine Sound.goto (sound.transfer ?_ ?_ ?_) ?_
        exacts [rfl, rfl, rfl, (congrArg Phase.stage phase).symm]

theorem Sound.live (sound : Sound s) (unfinished : (s.operation i).Unfinished) :
    s.inflight = some i ∧ (s.call i).phase.stage ≠ .early ∧
      ((s.call i).callback = .absent ∨ (s.call i).callback = .attached) := by
  refine ⟨sound.single i unfinished, fun early => ?_, ?_⟩
  · have absent := (sound.fits i).early early
    rw [State.operation, absent] at unfinished
    exact unfinished
  · by_contra other
    obtain ⟨present, detached⟩ := not_or.mp other
    exact Operation.not_unfinished_of_done ((sound.fits i).ended present detached) unfinished

theorem Sound.proceed (sound : Sound s) {operation : Operation} {invoked : Nat}
    (before : (s.operation i).Unfinished) (after : operation.Unfinished)
    (counted : invoked = operation.invocations) :
    Sound (s.setCall i { s.call i with operation, invoked }) := by
  obtain ⟨marked, late, waiting⟩ := sound.live before
  have pending : operation.isDone = false := by
    cases operation <;> simp_all [Operation.isDone, Operation.Unfinished]
  refine sound.setCall ⟨fun early => absurd early late, (sound.fits i).attached, fun _ => pending,
    fun present detached => ?_, counted⟩ (fun _ => marked) fun _ => ⟨?_, ?_⟩
  · exact absurd waiting (not_or.mpr ⟨present, detached⟩)
  · rintro rfl
    exact after
  · exact (sound.pending i marked).2

theorem Sound.finish (sound : Sound s) {ok : Bool} {w : Nat} (running : s.operation i = .running w) :
    Sound (s.setCall i { s.call i with
      operation := .done ok
      callback := if (s.call i).callback = .attached then .due else (s.call i).callback }) := by
  obtain ⟨marked, late, waiting⟩ := sound.live (i := i) (by rw [running]; trivial)
  have fits := sound.fits i
  have invoked : (s.call i).invoked = 1 := by
    rw [fits.invoked, show (s.call i).operation = .running w from running]
    rfl
  refine sound.setCall ⟨fun early => absurd early late, ?_, ?_, fun _ _ => rfl, invoked⟩ nofun
    fun _ => ⟨nofun, ?_⟩
  · rw [fits.attached]
    rcases waiting with absent | attached
    · simp [absent]
    · simp [attached]
  · rcases waiting with absent | attached
    · simp [absent]
    · simp [attached]
  · rcases waiting with absent | attached
    · simp [absent]
    · simp [attached]

theorem Sound.callbackStep (sound : Sound s) (i : Nat) : Sound (callbackStep s i) := by
  have fits := sound.fits i
  have after : ∀ {before after}, (s.call i).callback = before →
      before ≠ .absent ∧ before ≠ .attached → after ≠ .absent ∧ after ≠ .attached →
        Call.Fits { s.call i with callback := after } := fun own old new =>
    ⟨fits.early, ⟨fun _ => new.1, fun _ => fits.attached.mpr (own ▸ old.1)⟩,
      fun attached => absurd attached new.2, fun _ _ => fits.ended (own ▸ old.1) (own ▸ old.2),
      fits.invoked⟩
  unfold BusinessBoundary.callbackStep
  dsimp only
  split
  · rename_i due
    have done : (s.operation i).isDone = true :=
      fits.ended (by rw [due]; exact nofun) (by rw [due]; exact nofun)
    have ended := Operation.not_unfinished_of_done done
    split
    · rename_i marked
      have cleared : Sound { s with inflight := none, idle := true } := by
        refine sound.clear (free_iff.mpr fun j own => ?_)
        cases marked.symm.trans own
        exact done
      split
      · exact cleared.setCall (after due ⟨nofun, nofun⟩ ⟨nofun, nofun⟩)
          (fun unfinished => absurd unfinished ended) nofun
      · have fit : Call.Fits { s.call i with callback := .finished } :=
          after due ⟨nofun, nofun⟩ ⟨nofun, nofun⟩
        exact Sound.transfer (cleared.setCall fit (fun unfinished => absurd unfinished ended) nofun)
          rfl rfl rfl
    · rename_i unmarked
      exact sound.setCall (after due ⟨nofun, nofun⟩ ⟨nofun, nofun⟩)
        (fun unfinished => absurd unfinished ended) fun marked => absurd marked unmarked
  · rename_i loop stopping
    have done : (s.operation i).isDone = true :=
      fits.ended (by rw [stopping]; exact nofun) (by rw [stopping]; exact nofun)
    have stopped : Sound (s.setCall i { s.call i with callback := .finished }) := by
      refine sound.setCall (after stopping ⟨nofun, nofun⟩ ⟨nofun, nofun⟩)
        (fun unfinished => absurd unfinished (Operation.not_unfinished_of_done done))
        fun marked => absurd (sound.pending i marked).2 ?_
      rw [stopping]
      exact nofun
    exact stopped.transfer rfl rfl rfl
  · exact sound

theorem Sound.step (sound : Sound s) (input : Input) : Sound (step s input) := by
  cases input with
  | caller i => exact sound.callerStep i
  | startTimeout i | deadline i | cancel i =>
    unfold BusinessBoundary.step
    dsimp only
    split
    · rename_i phase
      refine Sound.goto (sound.transfer ?_ ?_ ?_) ?_
      exacts [rfl, rfl, rfl, (congrArg Phase.stage phase).symm]
    · exact sound
  | begins i =>
    unfold BusinessBoundary.step
    dsimp only
    split
    · rename_i w scheduled
      split
      · refine sound.proceed (by rw [scheduled]; trivial) trivial ?_
        rw [(sound.fits i).invoked, show (s.call i).operation = .scheduled w from scheduled]
        rfl
      · exact sound
    · exact sound
  | finishes i ok =>
    unfold BusinessBoundary.step
    dsimp only
    split
    · rename_i running
      split
      · exact sound.finish running
      · exact sound
    · exact sound
  | crashes i =>
    unfold BusinessBoundary.step
    dsimp only
    split
    · rename_i w running
      split
      · have invoked := (sound.fits i).invoked
        rw [show (s.call i).operation = .running w from running] at invoked
        have unfinished : (s.operation i).Unfinished := by rw [running]; trivial
        have crashed : Operation.crashed.Unfinished := trivial
        exact Sound.transfer (sound.proceed unfinished crashed invoked) rfl rfl rfl
      · exact sound
    · exact sound
  | callback i => exact sound.callbackStep i
  | worker w =>
    refine sound.transfer ?_ ?_ ?_ <;>
    · simp only [BusinessBoundary.step]
      unfold workerStep
      split <;> rfl
  | closer k =>
    refine sound.transfer ?_ ?_ ?_ <;>
    · simp only [BusinessBoundary.step]
      unfold closeStep
      repeat' split
      all_goals rfl

@[simp] theorem goto_operation (phase : Phase) (j : Nat) :
    (s.goto i phase).operation j = s.operation j := by
  unfold State.goto
  rw [setCall_operation]
  split
  · rename_i own
    exact own ▸ rfl
  · rfl

/-- An operation is submitted while the boundary is open and free, and changes only where it runs
and ends. -/
theorem step_operation (s : State) (input : Input) (i : Nat) :
    (step s input).operation i = s.operation i ∨
    (input = .caller i ∧ s.shut = false ∧ s.free = true) ∨
    s.operation i ≠ .absent ∧
      (input = .begins i ∨ (∃ ok, input = .finishes i ok) ∨ input = .crashes i) := by
  have changed : ∀ {j : Nat} {c : Call}, c.operation = s.operation j →
      ∀ t : State, t.call = s.call → (t.setCall j c).operation i = s.operation i := by
    intro j c same t calls
    rw [setCall_operation]
    split
    · rename_i own
      rw [same, own]
    · rw [State.operation, calls, State.operation]
  cases input with
  | caller j =>
    unfold BusinessBoundary.step callerStep
    dsimp only
    split
    case h_7 =>
      split
      · exact .inl (goto_operation ..)
      · rename_i admitted
        simp only [Bool.or_eq_true, Bool.not_eq_true', not_or, Bool.not_eq_false,
          Bool.not_eq_true] at admitted
        by_cases own : j = i
        · exact .inr (.inl ⟨own ▸ rfl, admitted⟩)
        · left
          split
          · rw [setCall_operation, if_neg (Ne.symm own)]
            rfl
          · exact goto_operation ..
    all_goals
      left
      repeat' split
      all_goals first
        | rfl
        | exact goto_operation ..
        | refine changed ?_ _ ?_ <;> rfl
  | startTimeout j | deadline j | cancel j =>
    unfold BusinessBoundary.step
    dsimp only
    left
    split
    · exact goto_operation ..
    · rfl
  | begins j | finishes j ok | crashes j =>
    by_cases own : j = i
    · subst own
      cases there : s.operation j with
      | absent => simp [BusinessBoundary.step, there]
      | _ => simp
    · left
      unfold BusinessBoundary.step
      dsimp only
      repeat' split
      all_goals first
        | rfl
        | exact (setCall_operation ..).trans (if_neg (Ne.symm own))
  | callback j =>
    unfold BusinessBoundary.step callbackStep
    dsimp only
    left
    repeat' split
    all_goals first
      | rfl
      | refine changed ?_ _ ?_ <;> rfl
  | worker w =>
    unfold BusinessBoundary.step workerStep
    dsimp only
    left
    split <;> rfl
  | closer k =>
    unfold BusinessBoundary.step closeStep
    dsimp only
    left
    repeat' split
    all_goals rfl

theorem step_shut (shut : s.shut = true) (input : Input) : (step s input).shut = true := by
  cases input with
  | caller i =>
    unfold BusinessBoundary.step callerStep
    dsimp only
    repeat' split
    all_goals exact shut
  | callback i =>
    unfold BusinessBoundary.step callbackStep
    dsimp only
    repeat' split
    all_goals exact shut
  | worker w =>
    unfold BusinessBoundary.step workerStep
    dsimp only
    split <;> exact shut
  | closer k =>
    unfold BusinessBoundary.step closeStep
    dsimp only
    repeat' split
    all_goals first | exact shut | rfl
  | _ =>
    unfold BusinessBoundary.step
    dsimp only
    repeat' split
    all_goals exact shut

/-! Runs that nothing disturbs. -/

def Phase.starts : Phase → Bool
  | .deciding .. | .creating | .starting _ => true
  | _ => false

def Phase.holdsLock : Phase → Bool
  | .deciding .. | .creating | .starting _ | .awaiting | .verifying .. => true
  | _ => false

/-- The worker has published its loop and has not ended. -/
def Worker.hasLoop : Worker → Bool
  | .published _ | .running _ | .stopped | .closed => true
  | _ => false

/-- The worker is about to run, or runs, and nobody has asked it to stop. -/
def Worker.Unasked (worker : Worker) : Prop := worker = .published false ∨ worker = .running false

structure Calm (s : State) : Prop where
  held : ∀ i, (s.call i).phase.holdsLock = true → s.startLock = some i
  fresh : ∀ w, s.fresh ≤ w → s.worker w = .absent
  only : ∀ w, s.worker w ≠ .absent → s.worker w ≠ .ended → s.thread = some w
  published : ∀ w, (s.worker w).hasLoop = true → s.loop = some w
  created : ∀ w, s.worker w = .created ↔ ∃ i, (s.call i).phase = .starting w
  noStart : s.shut = true → ∀ i, (s.call i).phase.starts = false
  noWorker : s.shut = true → ∀ w, s.worker w ≠ .created ∧ s.worker w ≠ .starting
  stopping : s.shut = true → ∀ w, (s.worker w).Unasked →
    (∃ k thread, s.closing k = .stopping w thread) ∨ (∃ i, (s.call i).callback = .stopping w) ∨
      s.inflight ≠ none
  flag : s.stopped = true ∨ (∃ i, (s.call i).phase = .creating) ∨
    ∃ w, s.worker w ≠ .absent ∧ s.worker w ≠ .ended

/-- A phase between which a call may go without a word about the workers. -/
def Phase.plain : Phase → Bool
  | .creating | .starting _ => false
  | _ => true

theorem Calm.goto (calm : Calm s) {before after : Phase} (phase : (s.call i).phase = before)
    (plain : before.plain = true ∧ after.plain = true)
    (holds : after.holdsLock = true → s.startLock = some i)
    (starts : after.starts = true → s.shut = false) : Calm (s.goto i after) := by
  obtain ⟨held, fresh, only, published, created, noStart, noWorker, stopping, flag⟩ := calm
  refine ⟨?_, fresh, only, published, ?_, ?_, noWorker, ?_, ?_⟩ <;>
    simp only [State.goto, State.setCall, Function.update_apply] <;> grind [Phase.plain]

theorem Calm.release (calm : Calm s) {before after : Phase} (phase : (s.call i).phase = before)
    (plain : before.plain = true ∧ after.plain = true) (holds : before.holdsLock = true)
    (free : after.holdsLock = false) (starts : after.starts = false) :
    Calm ({ s with startLock := none }.goto i after) := by
  obtain ⟨held, fresh, only, published, created, noStart, noWorker, stopping, flag⟩ := calm
  refine ⟨?_, fresh, only, published, ?_, ?_, noWorker, ?_, ?_⟩ <;>
    simp only [State.goto, State.setCall, Function.update_apply] <;> grind [Phase.plain]

theorem Calm.setCall (calm : Calm s) {c : Call} {inflight : Option Nat} {idle : Bool}
    (plain : (s.call i).phase.plain = true ∧ c.phase.plain = true)
    (holds : c.phase.holdsLock = true → (s.call i).phase.holdsLock = true)
    (starts : c.phase.starts = true → (s.call i).phase.starts = true)
    (callback : ∀ w, (s.worker w).Unasked → (s.call i).callback = .stopping w →
      c.callback = .stopping w)
    (marked : s.shut = true → ∀ w, (s.worker w).Unasked → s.inflight ≠ none →
      inflight ≠ none ∨ c.callback = .stopping w) :
    Calm ({ s with inflight, idle }.setCall i c) := by
  obtain ⟨held, fresh, only, published, created, noStart, noWorker, stopping, flag⟩ := calm
  refine ⟨?_, fresh, only, published, ?_, ?_, noWorker, ?_, ?_⟩ <;>
    simp only [State.setCall, Function.update_apply] <;> grind [Phase.plain]

theorem Calm.callerStep (calm : Calm s) (sound : Sound s)
    (quiet : ¬ Disturbs s (.caller i)) : Calm (callerStep s i) := by
  have silent := (sound.fits i).attached
  unfold BusinessBoundary.callerStep
  split <;> rename_i phase
  case h_1 =>
    split
    · exact calm
    · rename_i free
      split
      · exact calm.goto phase ⟨rfl, rfl⟩ nofun nofun
      · rename_i opened
        obtain ⟨held, fresh, only, published, created, noStart, noWorker, stopping, flag⟩ := calm
        refine ⟨?_, fresh, only, published, ?_, ?_, noWorker, ?_, ?_⟩ <;>
          simp only [State.goto, State.setCall, Function.update_apply] <;> grind
  case h_2 =>
    have holds := calm.held i (by rw [phase]; rfl)
    have opened : s.shut = false := by
      by_contra shut
      have none := calm.noStart (by simpa using shut) i
      rw [phase] at none
      cases none
    split
    · obtain ⟨held, fresh, only, published, created, noStart, noWorker, stopping, flag⟩ := calm
      refine ⟨?_, fresh, only, published, ?_, ?_, noWorker, ?_, ?_⟩ <;>
        simp only [State.goto, State.setCall, Function.update_apply] <;> grind
    · exact calm.goto phase ⟨rfl, rfl⟩ (fun _ => holds) nofun
  case h_3 =>
    have gone : ∀ w, s.worker w = .absent ∨ s.worker w = .ended := by
      intro w
      by_contra alive
      obtain ⟨present, alive⟩ := not_or.mp alive
      exact quiet ⟨phase, by simp [calm.only w present alive, alive]⟩
    obtain ⟨held, fresh, only, published, created, noStart, noWorker, stopping, flag⟩ := calm
    refine ⟨?_, ?_, ?_, ?_, ?_, ?_, ?_, ?_, .inr (.inr ⟨s.fresh, ?_⟩)⟩ <;>
      simp only [State.goto, State.setCall, State.setWorker, Function.update_apply] <;>
      grind [Phase.holdsLock, Phase.starts, Worker.Unasked, Worker.hasLoop]
  case h_4 w =>
    obtain ⟨held, fresh, only, published, created, noStart, noWorker, stopping, flag⟩ := calm
    refine ⟨?_, ?_, ?_, ?_, ?_, ?_, ?_, ?_, .inr (.inr ⟨w, ?_⟩)⟩ <;>
      simp only [State.goto, State.setCall, State.setWorker, Function.update_apply] <;>
      grind [Phase.holdsLock, Phase.starts, Worker.Unasked, Worker.hasLoop]
  case h_5 =>
    split
    · exact calm.goto phase ⟨rfl, rfl⟩ (fun _ => calm.held i (by rw [phase]; rfl)) nofun
    · exact calm
  case h_6 =>
    repeat' split
    all_goals exact calm.release phase ⟨rfl, rfl⟩ rfl rfl rfl
  case h_7 loop =>
    split
    · exact calm.goto phase ⟨rfl, rfl⟩ nofun nofun
    · rename_i admitted
      simp only [Bool.or_eq_true, Bool.not_eq_true', not_or, Bool.not_eq_false] at admitted
      split
      · exact calm.setCall (by rw [phase]; exact ⟨rfl, rfl⟩) nofun nofun (fun _ _ same => same)
          fun shut => absurd shut admitted.1
      · exact calm.setCall (by rw [phase]; exact ⟨rfl, rfl⟩) nofun nofun (fun _ _ same => same)
          fun shut => absurd shut admitted.1
  case h_8 =>
    refine calm.setCall (by rw [phase]; exact ⟨rfl, rfl⟩) nofun nofun (fun w _ same => ?_)
      fun _ _ _ marked => .inl marked
    rw [phase, same] at silent
    exact absurd (silent.mpr nofun) nofun
  case h_9 =>
    split
    · exact calm.goto phase ⟨rfl, rfl⟩ nofun nofun
    · exact calm
  case h_10 => exact calm

theorem Calm.others (calm : Calm s) {w : Nat}
    (present : s.worker w ≠ .absent ∧ s.worker w ≠ .ended) (v : Nat) (other : v ≠ w) :
    s.worker v = .absent ∨ s.worker v = .ended := by
  by_contra alive
  obtain ⟨there, running⟩ := not_or.mp alive
  have same := (calm.only v there running).symm.trans (calm.only w present.1 present.2)
  exact other (Option.some.inj same)

theorem Calm.moveWorker (calm : Calm s) {w : Nat} {worker : Worker} {loop : Option Nat}
    {ready : Bool} (present : s.worker w ≠ .absent ∧ s.worker w ≠ .ended ∧ s.worker w ≠ .created)
    (moves : worker ≠ .absent ∧ worker ≠ .ended ∧ worker ≠ .created ∧ worker ≠ .starting)
    (serves : loop = some w) (asked : s.shut = true → worker.Unasked → (s.worker w).Unasked) :
    Calm ({ s with loop, ready }.setWorker w worker) := by
  have alone := calm.others ⟨present.1, present.2.1⟩
  obtain ⟨held, fresh, only, published, created, noStart, noWorker, stopping, flag⟩ := calm
  refine ⟨held, fun v later => ?_, fun v there running => ?_, fun v has => ?_, fun v => ?_, noStart,
    fun shut v => ?_, fun shut v unasked => ?_, ?_⟩
  · rw [setWorker_worker]
    split
    · rename_i same
      exact absurd (fresh v later) (same ▸ present.1)
    · exact fresh v later
  · by_cases same : v = w
    · exact same ▸ only w present.1 present.2.1
    · rw [setWorker_worker, if_neg same] at there running
      exact only v there running
  · by_cases same : v = w
    · exact same ▸ serves
    · rw [setWorker_worker, if_neg same] at has
      rcases alone v same with none | none <;> (change s.worker v = _ at none) <;>
        simp [none, Worker.hasLoop] at has
  · refine Iff.trans ?_ (created v)
    rw [setWorker_worker]
    split
    · rename_i same
      exact ⟨fun now => absurd now moves.2.2.1, fun was => absurd was (same ▸ present.2.2)⟩
    · exact Iff.rfl
  · rw [setWorker_worker]
    split
    · exact moves.2.2
    · exact noWorker shut v
  · refine stopping shut v ?_
    rw [setWorker_worker] at unasked
    split at unasked
    · rename_i same
      exact same ▸ asked shut unasked
    · exact unasked
  · refine .inr (.inr ⟨w, ?_⟩)
    rw [setWorker_worker, if_pos rfl]
    exact ⟨moves.1, moves.2.1⟩

theorem Calm.endWorker (calm : Calm s) {w : Nat} (closed : s.worker w = .closed) :
    Calm ({ s with
      loop := if s.loop = some w then none else s.loop
      ready := false
      stopped := true }.setWorker w .ended) := by
  have alone := calm.others (by rw [closed]; exact ⟨nofun, nofun⟩)
  obtain ⟨held, fresh, only, published, created, noStart, noWorker, stopping, flag⟩ := calm
  constructor <;> simp only [State.setWorker, Function.update_apply] <;>
    grind [Worker.Unasked, Worker.hasLoop]

theorem Calm.workerStep (calm : Calm s) (w : Nat) : Calm (workerStep s w) := by
  have serving : (s.worker w).hasLoop = true → s.loop = some w := calm.published w
  unfold BusinessBoundary.workerStep
  split <;> rename_i worker
  case h_1 =>
    refine calm.moveWorker (by simp [worker]) (by simp) rfl fun shut _ => ?_
    exact absurd worker (calm.noWorker shut w).2
  case h_2 stop =>
    refine calm.moveWorker (by simp [worker]) (by simp) (serving (by rw [worker]; rfl))
      fun _ unasked => ?_
    rw [worker]
    cases stop
    · exact .inl rfl
    · rcases unasked with other | other <;> cases other
  case h_3 =>
    exact calm.moveWorker (by simp [worker]) (by simp) (serving (by rw [worker]; rfl))
      fun _ unasked => by rcases unasked with other | other <;> cases other
  case h_4 =>
    exact calm.moveWorker (by simp [worker]) (by simp) (serving (by rw [worker]; rfl))
      fun _ unasked => by rcases unasked with other | other <;> cases other
  case h_5 => exact calm.endWorker worker
  case h_6 => exact calm

theorem Worker.requestStop_keeps (worker : Worker) :
    (worker.requestStop = .absent ↔ worker = .absent) ∧
    (worker.requestStop = .created ↔ worker = .created) ∧
    (worker.requestStop = .starting ↔ worker = .starting) ∧
    (worker.requestStop = .ended ↔ worker = .ended) ∧
    worker.requestStop.hasLoop = worker.hasLoop ∧ ¬ worker.requestStop.Unasked := by
  cases worker <;> simp [requestStop, hasLoop, Unasked]

theorem Calm.requestStop (calm : Calm s) (w : Nat) : Calm (s.requestStop w) := by
  have keeps := Worker.requestStop_keeps (s.worker w)
  obtain ⟨held, fresh, only, published, created, noStart, noWorker, stopping, flag⟩ := calm
  constructor <;> simp only [State.requestStop, State.setWorker, Function.update_apply] <;> grind

theorem plain_of_late {phase : Phase} (late : phase.stage ≠ .early) : phase.plain = true := by
  cases phase <;> first | rfl | exact absurd rfl late

theorem requestStop_unasked {w v : Nat} (unasked : ((s.requestStop w).worker v).Unasked) :
    v ≠ w := by
  rintro rfl
  rw [State.requestStop, setWorker_worker, if_pos rfl] at unasked
  exact (Worker.requestStop_keeps (s.worker v)).2.2.2.2.2 unasked

theorem unasked_hasLoop {worker : Worker} (unasked : worker.Unasked) : worker.hasLoop = true := by
  rcases unasked with rfl | rfl <;> rfl

theorem Calm.setClosing (calm : Calm s) {k : Nat} {closing : Closing}
    (kept : ∀ w thread, (s.worker w).Unasked → s.closing k = .stopping w thread →
      closing = .stopping w thread) : Calm (s.setClosing k closing) := by
  obtain ⟨held, fresh, only, published, created, noStart, noWorker, stopping, flag⟩ := calm
  refine ⟨held, fresh, only, published, created, noStart, noWorker, fun shut w unasked => ?_, flag⟩
  rcases stopping shut w unasked with ⟨j, thread, asks⟩ | other
  · by_cases own : j = k
    · subst own
      refine .inl ⟨j, thread, ?_⟩
      rw [setClosing_closing, if_pos rfl]
      exact kept w thread unasked asks
    · refine .inl ⟨j, thread, ?_⟩
      rw [setClosing_closing, if_neg own]
      exact asks
  · exact .inr other

theorem Calm.callbackStep (calm : Calm s) (sound : Sound s) (i : Nat) :
    Calm (callbackStep s i) := by
  have plain : (s.call i).callback ≠ .absent → (s.call i).phase.plain = true := by
    intro present
    exact plain_of_late (by rw [(sound.fits i).attached.mpr present]; exact nofun)
  unfold BusinessBoundary.callbackStep
  dsimp only
  split
  · rename_i due
    have plain := plain (by rw [due]; exact nofun)
    have unrelated : ∀ (callback : Callback) w, (s.worker w).Unasked → (s.call i).callback = .stopping w →
        callback = .stopping w := fun _ _ _ other => nomatch due.symm.trans other
    split
    · split
      · rename_i loop shut known
        refine calm.setCall ⟨plain, plain⟩ id id (unrelated _) fun _ w unasked _ => .inr ?_
        cases known.symm.trans (calm.published w (unasked_hasLoop unasked))
        rfl
      · rename_i unknown
        refine calm.setCall (c := { s.call i with callback := .finished }) ⟨plain, plain⟩ id id
          (unrelated _) fun shut w unasked _ => ?_
        exact absurd (calm.published w (unasked_hasLoop unasked)) (unknown w shut)
    · exact calm.setCall ⟨plain, plain⟩ id id (unrelated _) fun _ _ _ marked => .inl marked
  · rename_i loop stopping
    have plain := plain (by rw [stopping]; exact nofun)
    refine (calm.requestStop loop).setCall ⟨plain, plain⟩ id id (fun w unasked same => ?_)
      fun _ _ _ marked => .inl marked
    cases stopping.symm.trans same
    exact absurd rfl (requestStop_unasked unasked)
  · exact calm

theorem Calm.shut (calm : Calm s) (settled : s.isStarting = false) {k : Nat} {closing : Closing}
    (asks : ∀ w, (s.worker w).Unasked → s.inflight = none → ∃ thread, closing = .stopping w thread) :
    Calm ({ s with shut := true }.setClosing k closing) := by
  obtain ⟨noStarter, noWorker⟩ := Bool.or_eq_false_iff.mp settled
  refine ⟨calm.held, calm.fresh, calm.only, calm.published, calm.created, fun _ i => ?_,
    fun _ w => ?_, fun _ w unasked => ?_, calm.flag⟩
  · by_contra starts
    have holds : (s.call i).phase.holdsLock = true := by
      cases phase : (s.call i).phase <;> simp_all [State.setClosing, Phase.starts, Phase.holdsLock]
    rw [calm.held i holds, Option.any_some] at noStarter
    cases phase : (s.call i).phase <;> simp_all [State.setClosing, Phase.starts]
  · by_contra either
    have new : s.worker w = .created ∨ s.worker w = .starting := by
      by_contra neither
      exact either (not_or.mp neither)
    rw [calm.only w (by rcases new with new | new <;> rw [new] <;> exact nofun)
      (by rcases new with new | new <;> rw [new] <;> exact nofun)] at noWorker
    simp only [Option.any_some, decide_eq_false_iff_not] at noWorker
    exact noWorker new
  · by_cases none : s.inflight = none
    · obtain ⟨thread, asks⟩ := asks w unasked none
      exact .inl ⟨k, thread, by rw [setClosing_closing, if_pos rfl, asks]⟩
    · exact .inr (.inr none)

theorem Calm.closeStep (calm : Calm s) {k : Nat} (quiet : ¬ Disturbs s (.closer k)) :
    Calm (closeStep s k) := by
  unfold BusinessBoundary.closeStep
  split <;> rename_i phase
  · have settled : s.isStarting = false := by
      by_contra starting
      exact quiet ⟨phase, by simpa using starting⟩
    split
    · rename_i loop known free
      refine calm.shut settled fun w unasked _ => ⟨s.thread, ?_⟩
      cases known.symm.trans (calm.published w (unasked_hasLoop unasked))
      rfl
    · rename_i busy
      refine calm.shut settled fun w unasked none => ?_
      refine absurd ?_ (busy w (calm.published w (unasked_hasLoop unasked)))
      simp [State.free, none]
  · rename_i loop thread
    split
    · refine (calm.requestStop loop).setClosing fun w other unasked same => ?_
      cases phase.symm.trans same
      exact absurd rfl (requestStop_unasked unasked)
    · rename_i closed
      refine calm.setClosing fun w other unasked same => ?_
      cases phase.symm.trans same
      refine absurd ?_ closed
      rcases unasked with worker | worker <;> rw [worker] <;> rfl
  · exact calm.setClosing fun _ _ _ other => nomatch phase.symm.trans other
  · split <;> exact calm.setClosing fun _ _ _ other => nomatch phase.symm.trans other
  · exact calm

theorem Calm.step (calm : Calm s) (sound : Sound s) {input : Input}
    (quiet : ¬ Disturbs s input) : Calm (step s input) := by
  cases input with
  | caller i => exact calm.callerStep sound quiet
  | startTimeout i =>
    unfold BusinessBoundary.step
    dsimp only
    split
    · rename_i phase
      exact calm.release phase ⟨rfl, rfl⟩ rfl rfl rfl
    · exact calm
  | deadline i | cancel i =>
    unfold BusinessBoundary.step
    dsimp only
    split
    · rename_i phase
      exact calm.goto phase ⟨rfl, rfl⟩ nofun nofun
    · exact calm
  | begins i =>
    unfold BusinessBoundary.step
    dsimp only
    split
    · rename_i scheduled
      split
      · have plain := plain_of_late (sound.live (i := i) (by rw [scheduled]; trivial)).2.1
        exact calm.setCall ⟨plain, plain⟩ id id (fun _ _ same => same) fun _ _ _ marked => .inl marked
      · exact calm
    · exact calm
  | finishes i ok =>
    unfold BusinessBoundary.step
    dsimp only
    split
    · rename_i running
      split
      · obtain ⟨-, late, waiting⟩ := sound.live (i := i) (by rw [running]; trivial)
        have plain := plain_of_late late
        refine calm.setCall ⟨plain, plain⟩ id id (fun w _ same => ?_) fun _ _ _ marked => .inl marked
        rw [same] at waiting
        exact absurd waiting (by simp)
      · exact calm
    · exact calm
  | crashes i => exact absurd trivial quiet
  | callback i => exact calm.callbackStep sound i
  | worker w => exact calm.workerStep w
  | closer k => exact calm.closeStep quiet

theorem Calm.rests (calm : Calm s) (sound : Sound s) (settled : Settled s) : Rests s := by
  have free : s.inflight = none := by
    cases marked : s.inflight with
    | none => rfl
    | some i =>
      obtain ⟨present, callback⟩ := sound.pending i marked
      rcases callback with absent | attached | due
      · have late : (s.call i).phase.stage ≠ .early := fun early =>
          present ((sound.fits i).early early)
        have unsubmitted : (s.call i).phase.stage ≠ .submitted := fun submitted =>
          (sound.fits i).attached.mp submitted absent
        have phase := settled.calls i
        cases known : (s.call i).phase <;> rw [known] at late unsubmitted phase <;>
          simp_all [Phase.stage, Phase.Settled]
      · have pending := (sound.fits i).awaited attached
        have finished := settled.finished i
        unfold State.operation at finished present
        cases known : (s.call i).operation <;> simp_all [Operation.isDone, Operation.Unfinished]
      · exact absurd (settled.callbacks i) (by rw [due]; exact id)
  have ended : s.shut = true → ∀ w, s.worker w = .absent ∨ s.worker w = .ended := by
    intro shut w
    have quiet := settled.workers w
    cases worker : s.worker w with
    | absent => exact .inl rfl
    | ended => exact .inr rfl
    | running asked =>
      cases asked with
      | true =>
        rw [worker] at quiet
        exact absurd quiet id
      | false =>
        rcases calm.stopping shut w (.inr worker) with ⟨k, thread, asks⟩ | ⟨i, asks⟩ | marked
        · exact absurd (settled.closers k) (by rw [asks]; exact id)
        · exact absurd (settled.callbacks i) (by rw [asks]; exact id)
        · exact absurd free marked
    | _ =>
      rw [worker] at quiet
      exact absurd quiet id
  refine ⟨free, sound.idle.mpr free, ?_, fun shut => ⟨?_, fun w => ?_⟩⟩
  · simp [State.isAcceptingWork, State.free, free]
  · rcases calm.flag with stopped | ⟨i, creating⟩ | ⟨w, present, alive⟩
    · exact stopped
    · exact absurd (settled.calls i) (by rw [creating]; exact id)
    · exact absurd (ended shut w) (not_or.mpr ⟨present, alive⟩)
  · rcases ended shut w with worker | worker <;> rw [worker] <;> rfl

end

theorem sound_start : Sound {} := by
  refine ⟨fun i => ⟨fun _ => rfl, ?_, nofun, fun present => absurd rfl present, rfl⟩, by simp,
    nofun, nofun⟩
  simp [Phase.stage]

theorem calm_start : Calm {} := by
  refine ⟨nofun, fun _ _ => rfl, fun _ present => absurd rfl present, nofun, fun w => ?_, nofun,
    nofun, nofun, .inl rfl⟩
  simp

/-- In every run, at most one operation is unfinished; a call that is answered busy never runs its
operation, and no operation runs twice; none is submitted once closing began; a deadline, a
cancellation or a closing leaves the operations as they are; and where nothing has disturbed the
workers and nothing is left to be done, the boundary is idle, or has stopped. -/
theorem single_flight (inputs : List Input) :
    (∀ i j, ((run inputs).operation i).Unfinished → ((run inputs).operation j).Unfinished → i = j) ∧
    (∀ i, ((run inputs).call i).phase = .busy →
      (run inputs).operation i = .absent ∧ ((run inputs).call i).invoked = 0) ∧
    (∀ i, ((run inputs).call i).invoked ≤ 1) ∧
    ((run inputs).shut = true → ∀ input, (step (run inputs) input).shut = true ∧
      ∀ i, (run inputs).operation i = .absent → (step (run inputs) input).operation i = .absent) ∧
    (∀ i j input, input = .deadline j ∨ input = .cancel j ∨ input = .closer j →
      (step (run inputs) input).operation i = (run inputs).operation i) ∧
    (Runs.Along step (fun s input => ¬ Disturbs s input) {} inputs →
      Settled (run inputs) → Rests (run inputs)) := by
  have sound : Sound (run inputs) :=
    Runs.run_invariant step (fun _ input kept => kept.step input) sound_start inputs
  refine ⟨fun i j first second => ?_, fun i busy => ?_, fun i => ?_, fun shut input => ?_, ?_, ?_⟩
  · exact Option.some.inj ((sound.single i first).symm.trans (sound.single j second))
  · have absent := (sound.fits i).early (by rw [busy]; rfl)
    refine ⟨absent, ?_⟩
    rw [(sound.fits i).invoked, absent]
    rfl
  · rw [(sound.fits i).invoked]
    cases ((run inputs).call i).operation <;> simp [Operation.invocations]
  · refine ⟨step_shut shut input, fun i absent => ?_⟩
    rcases step_operation (run inputs) input i with same | ⟨-, opened, -⟩ | ⟨present, -⟩
    · exact same.trans absent
    · cases shut.symm.trans opened
    · exact absurd absent present
  · rintro i j input (rfl | rfl | rfl) <;>
      rcases step_operation (run inputs) _ i with same | ⟨other, -⟩ | ⟨-, other | ⟨ok, other⟩ | other⟩ <;>
      first | exact same | cases other
  · intro quiet settled
    have calm : Sound (run inputs) ∧ Calm (run inputs) :=
      Runs.along_invariant step (P := fun s => Sound s ∧ Calm s)
        (fun _ input both calm => ⟨both.1.step input, both.2.step both.1 calm⟩)
        ⟨sound_start, calm_start⟩ inputs quiet
    exact calm.2.rests calm.1 settled

/-- The first call starts the worker, `close` looks for its loop too early, and the call is then
answered busy. -/
def closedAtStart : List Input :=
  [.caller 0, .caller 0, .caller 0, .caller 0, .closer 0, .worker 0, .worker 0, .caller 0, .caller 0,
    .caller 0, .closer 0]

/-- Nothing is left to be done, and the worker of the closed boundary runs on. -/
theorem worker_left_running : ¬ (Settled (run closedAtStart) → Rests (run closedAtStart)) := by
  intro rests
  have settled : Settled (run closedAtStart) := by
    refine ⟨fun i => ?_, fun i => ?_, fun i => ?_, fun w => ?_, fun k => ?_⟩
    · exact match i with | 0 => id | _ + 1 => id
    · exact match i with | 0 => trivial | _ + 1 => trivial
    · exact match i with | 0 => trivial | _ + 1 => trivial
    · exact match w with | 0 => trivial | _ + 1 => trivial
    · exact match k with | 0 => trivial | _ + 1 => trivial
  exact absurd ((rests settled).stopped rfl).1 (by decide)

/-- A call whose operation runs past the deadline, a second call meanwhile, and a closing. -/
def closedInFlight : List Input :=
  [.caller 0, .caller 0, .caller 0, .caller 0, .worker 0, .worker 0, .caller 0, .caller 0, .caller 0,
    .caller 0, .begins 0, .deadline 0, .caller 1, .caller 1, .caller 1, .caller 1, .caller 1,
    .closer 0, .finishes 0 true, .callback 0, .callback 0, .closer 0, .worker 0, .worker 0, .worker 0]

theorem closed_in_flight_rests : Rests (run closedInFlight) := by
  refine (single_flight closedInFlight).2.2.2.2.2 (by decide)
    ⟨fun i => ?_, fun i => ?_, fun i => ?_, fun w => ?_, fun k => ?_⟩
  · exact match i with | 0 => id | 1 => id | _ + 2 => id
  · exact match i with | 0 => trivial | 1 => trivial | _ + 2 => trivial
  · exact match i with | 0 => trivial | 1 => trivial | _ + 2 => trivial
  · exact match w with | 0 => trivial | _ + 1 => trivial
  · exact match k with | 0 => trivial | _ + 1 => trivial

end NetworkAgent.Assurance.BusinessBoundary
