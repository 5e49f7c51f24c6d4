import NetworkAgent.Library.Runs
import NetworkAgent.Supervisor.Ownership
import NetworkAgent.Supervisor.Approvals

/-! Tool results of many threads at once. A result enters its critical section under the lock
of its thread; the lock is made when it is first asked for, and dropped when the socket that
owns the thread disconnects. A call is switched only where it awaits. -/
namespace NetworkAgent.Supervisor

namespace ToolResults

/-- `asyncio.Lock`: a waiter that finds the lock free at the head of the queue was woken. -/
structure Lock where
  holder : Option Nat := none
  waiters : List Nat := []
  deriving DecidableEq

def Lock.Free (l : Lock) : Prop := l.holder = none ∧ l.waiters = []

instance (l : Lock) : Decidable l.Free := inferInstanceAs (Decidable (_ ∧ _))

inductive Phase where
  | absent
  /-- In the queue of the lock. -/
  | waiting (lock : Nat)
  /-- In the critical section, with the socket that owned the thread on entry. -/
  | inside (lock : Nat) (owner : Option String)
  | ended
  deriving DecidableEq

/-- A call of `handleToolResult`. -/
structure Submission where
  sid : String := ""
  sessionId : String := ""
  toolCallId : String := ""
  phase : Phase := .absent
  deriving DecidableEq

def Submission.lock (call : Submission) : Option Nat := match call.phase with
  | .waiting l | .inside l _ => some l
  | .absent | .ended => none

structure State where
  /-- `sio_sessions`, each with the identity of its server object. -/
  sockets : Table String Nat := ∅
  ownership : Ownership := {}
  /-- `_tool_result_locks`. -/
  resultLocks : Table String Nat := ∅
  created : Nat := 0
  locks : Nat → Lock := fun _ => {}
  begun : Nat := 0
  calls : Nat → Submission := fun _ => {}

namespace State

def setLock (s : State) (l : Nat) (lock : Lock) : State :=
  { s with locks := Function.update s.locks l lock }

def setCall (s : State) (n : Nat) (call : Submission) : State :=
  { s with calls := Function.update s.calls n call }

def setPhase (s : State) (n : Nat) (phase : Phase) : State :=
  s.setCall n { s.calls n with phase }

variable (s : State) (n m l k : Nat) (lock : Lock) (call : Submission)

@[simp] theorem setLock_calls : (s.setLock l lock).calls = s.calls := rfl
@[simp] theorem setLock_ownership : (s.setLock l lock).ownership = s.ownership := rfl
@[simp] theorem setLock_resultLocks : (s.setLock l lock).resultLocks = s.resultLocks := rfl
@[simp] theorem setCall_locks : (s.setCall n call).locks = s.locks := rfl
@[simp] theorem setCall_ownership : (s.setCall n call).ownership = s.ownership := rfl
@[simp] theorem setCall_resultLocks : (s.setCall n call).resultLocks = s.resultLocks := rfl
@[simp] theorem setCall_self : (s.setCall n call).calls n = call := by simp [setCall]
@[simp] theorem setLock_self : (s.setLock l lock).locks l = lock := by simp [setLock]

theorem setCall_other (other : m ≠ n) : (s.setCall n call).calls m = s.calls m := by
  simp [setCall, other]

theorem setLock_other (other : k ≠ l) : (s.setLock l lock).locks k = s.locks k := by
  simp [setLock, other]

def registerSocket (s : State) (sid : String) (sio : Nat) : State :=
  if sid = "" then s else { s with sockets := s.sockets.insert sid sio }

def bindUiThread (s : State) (threadId sid : String) (sio : Nat) : State :=
  if s.sockets.lookup sid = some sio then
    match s.ownership.bind threadId sid with
    | .ok ownership => { s with ownership }
    | .error _ => s
  else s

def removeSocket (s : State) (sid : String) : State :=
  match s.ownership.removeSid sid with
  | .ok (threads, ownership) =>
    { s with
      ownership
      resultLocks := Table.eraseAll threads s.resultLocks
      sockets := s.sockets.erase sid }
  | .error _ => s

def mayEnter (s : State) (n : Nat) : Hosted Unit := do
  s.ownership.requireOwner (s.calls n).sessionId (s.calls n).sid
  toolCallThreadId (s.calls n).toolCallId (s.calls n).sessionId

/-- The call takes the lock, which nobody holds; a call that fails the first checks gives it
back at once. -/
def enter (s : State) (n l : Nat) : State :=
  match s.mayEnter n with
  | .ok () =>
    (s.setLock l { s.locks l with holder := some n }).setPhase n
      (.inside l (s.ownership.threadToSid.lookup (s.calls n).sessionId))
  | .error _ => s.setPhase n .ended

/-- `_tool_result_locks.setdefault(session_id, asyncio.Lock())`. -/
def lockFor (s : State) (sessionId : String) : Nat × State :=
  match s.resultLocks.lookup sessionId with
  | some l => (l, s)
  | none => (s.created, { s with
      resultLocks := s.resultLocks.insert sessionId s.created
      created := s.created + 1 })

def ask (s : State) (call : Submission) (l : Nat) : State :=
  let n := s.begun
  let s := { s with begun := n + 1 }.setCall n call
  if (s.locks l).Free then s.enter n l
  else (s.setLock l { s.locks l with waiters := (s.locks l).waiters ++ [n] }).setPhase n (.waiting l)

/-- `handleToolResult`, up to its first await. -/
def submit (s : State) (sid sessionId toolCallId : String) : State :=
  let (l, s) := s.lockFor sessionId
  s.ask { sid, sessionId, toolCallId } l

def resume (s : State) (n : Nat) : State :=
  match (s.calls n).phase with
  | .waiting l =>
    match s.locks l with
    | ⟨none, first :: rest⟩ =>
      if first = n then (s.setLock l ⟨none, rest⟩).enter n l else s
    | _ => s
  | _ => s

/-- The call leaves its critical section, at the end, by an error or cancelled. -/
def leave (s : State) (n : Nat) : State :=
  match (s.calls n).phase with
  | .inside l _ => (s.setLock l { s.locks l with holder := none }).setPhase n .ended
  | _ => s

def cancel (s : State) (n : Nat) : State :=
  match (s.calls n).phase with
  | .waiting l =>
    (s.setLock l { s.locks l with waiters := (s.locks l).waiters.erase n }).setPhase n .ended
  | _ => s

end State

inductive Action where
  | connect (sid : String) (sio : Nat)
  | startRun (threadId sid : String) (sio : Nat)
  | disconnect (sid : String)
  | submit (sid sessionId toolCallId : String)
  | resume (call : Nat)
  | leave (call : Nat)
  | cancel (call : Nat)
  deriving DecidableEq

def State.apply (s : State) : Action → State
  | .connect sid sio => s.registerSocket sid sio
  | .startRun threadId sid sio => s.bindUiThread threadId sid sio
  | .disconnect sid => s.removeSocket sid
  | .submit sid sessionId toolCallId => s.submit sid sessionId toolCallId
  | .resume n => s.resume n
  | .leave n => s.leave n
  | .cancel n => s.cancel n

def run (s : State) (actions : List Action) : State := Runs.run State.apply s actions

/-! What holds of the threads. -/

/-- The call has entered its critical section and not left it. -/
def Inside (s : State) (n : Nat) (threadId : String) : Prop :=
  (s.calls n).sessionId = threadId ∧ ∃ l owner, (s.calls n).phase = .inside l owner

structure Owned (s : State) : Prop where
  single : ∀ threadId a b, threadId ∈ s.ownership.threadsOf a →
    threadId ∈ s.ownership.threadsOf b → a = b
  inverse : s.ownership.Inverse
  submitted : ∀ n l owner, (s.calls n).phase = .inside l owner → owner = some (s.calls n).sid

/-- At most one result of a thread is between entering and leaving its critical section. -/
structure Exclusive (s : State) : Prop extends Owned s where
  alone : ∀ threadId m n, Inside s m threadId → Inside s n threadId → m = n

/-! A call that is inside holds its lock. -/

structure Inv (s : State) : Prop where
  inverse : s.ownership.Inverse
  holds : ∀ n l owner, (s.calls n).phase = .inside l owner →
    (s.locks l).holder = some n ∧ owner = some (s.calls n).sid

/-- Nothing changes but the call `n` and what it does with a lock. -/
structure Frame (n : Nat) (s s' : State) : Prop where
  ownership : s'.ownership = s.ownership
  resultLocks : s'.resultLocks = s.resultLocks
  calls : ∀ m, m ≠ n → s'.calls m = s.calls m
  holders : ∀ l m, m ≠ n → (s.locks l).holder = some m → (s'.locks l).holder = some m

theorem Frame.trans {n : Nat} {a b c : State} (first : Frame n a b) (second : Frame n b c) :
    Frame n a c where
  ownership := second.ownership.trans first.ownership
  resultLocks := second.resultLocks.trans first.resultLocks
  calls m other := (second.calls m other).trans (first.calls m other)
  holders l m other held := second.holders l m other (first.holders l m other held)

/-- A call that is inside holds the lock, and was submitted by the owner. -/
def Entered (n : Nat) (s : State) : Prop := ∀ l owner, (s.calls n).phase = .inside l owner →
  (s.locks l).holder = some n ∧ owner = some (s.calls n).sid

theorem Inv.frame {n : Nat} {s s' : State} (inv : Inv s) (frame : Frame n s s')
    (entered : Entered n s') : Inv s' where
  inverse := frame.ownership ▸ inv.inverse
  holds m l owner inside := by
    by_cases same : m = n
    · subst same
      exact entered l owner inside
    · rw [frame.calls m same] at inside ⊢
      obtain ⟨held, submitted⟩ := inv.holds m l owner inside
      exact ⟨frame.holders l m same held, submitted⟩

theorem Frame.setCall (n : Nat) (s : State) (call : Submission) : Frame n s (s.setCall n call) where
  ownership := rfl
  resultLocks := rfl
  calls m other := s.setCall_other n m call other
  holders _ _ _ held := held

theorem Frame.setLock {n : Nat} {s : State} {l : Nat} (lock : Lock)
    (holders : ∀ m, m ≠ n → (s.locks l).holder = some m → lock.holder = some m) :
    Frame n s (s.setLock l lock) where
  ownership := rfl
  resultLocks := rfl
  calls _ _ := rfl
  holders k m other held := by
    by_cases same : k = l
    · subst same
      simpa using holders m other held
    · rwa [s.setLock_other l k lock same]

theorem frame_waiters {n : Nat} {s : State} {l : Nat} (waiters : List Nat) :
    Frame n s (s.setLock l { s.locks l with waiters }) := Frame.setLock _ fun _ _ held => held

theorem mayEnter_owner {s : State} {n : Nat} (passed : s.mayEnter n = .ok ()) :
    s.ownership.threadToSid.lookup (s.calls n).sessionId = some (s.calls n).sid := by
  obtain ⟨owned, _⟩ := Checks.seq_ok.mp passed
  exact Ownership.requireOwner_ok owned

section Enter
variable {s : State} {n l : Nat}

theorem frame_enter (free : (s.locks l).holder = none) : Frame n s (s.enter n l) := by
  unfold State.enter
  split
  · refine (Frame.setLock _ ?_).trans (Frame.setCall n _ _)
    intro m _ held
    simp [free] at held
  · exact Frame.setCall n s _

theorem entered_enter : Entered n (s.enter n l) := by
  intro k owner inside
  unfold State.enter at inside ⊢
  split at inside
  · next passed =>
    simp only [State.setPhase, State.setCall_self, Phase.inside.injEq] at inside
    obtain ⟨rfl, rfl⟩ := inside
    simp [State.setPhase, mayEnter_owner passed]
  · simp [State.setPhase] at inside

theorem enter_call : ((s.enter n l).calls n).sessionId = (s.calls n).sessionId ∧
    (((s.enter n l).calls n).lock = some l ∨ ((s.enter n l).calls n).lock = none) := by
  unfold State.enter
  split <;> simp [State.setPhase, Submission.lock]

end Enter

section Ask
variable {s : State} {call : Submission} {l : Nat}

theorem frame_ask : Frame s.begun s (s.ask call l) := by
  have begun : Frame s.begun s ({ s with begun := s.begun + 1 }.setCall s.begun call) :=
    ⟨rfl, rfl, fun m other => State.setCall_other _ _ m call other, fun _ _ _ held => held⟩
  unfold State.ask
  extract_lets n s'
  split
  · next free => exact begun.trans (frame_enter free.1)
  · exact begun.trans ((frame_waiters _).trans (Frame.setCall _ _ _))

theorem entered_ask : Entered s.begun (s.ask call l) := by
  unfold State.ask
  extract_lets n s'
  split
  · exact entered_enter
  · intro k owner inside
    simp [n, State.setPhase] at inside

theorem ask_call : ((s.ask call l).calls s.begun).sessionId = call.sessionId ∧
    (((s.ask call l).calls s.begun).lock = some l ∨
      ((s.ask call l).calls s.begun).lock = none) := by
  unfold State.ask
  extract_lets n s'
  split
  · obtain ⟨thread, taken⟩ := enter_call (s := s') (n := n) (l := l)
    exact ⟨by simpa [s', n] using thread, taken⟩
  · simp [n, s', State.setPhase, Submission.lock]

end Ask

theorem Inv.ownership {s s' : State} (inv : Inv s) (inverse : s'.ownership.Inverse)
    (calls : s'.calls = s.calls) (locks : s'.locks = s.locks) : Inv s' :=
  ⟨inverse, by rw [calls, locks]; exact inv.holds⟩

theorem Inv.apply {s : State} (inv : Inv s) (action : Action) : Inv (s.apply action) := by
  cases action with
  | connect sid sio =>
    change Inv (s.registerSocket sid sio)
    unfold State.registerSocket
    split
    · exact inv
    · exact inv.ownership inv.inverse rfl rfl
  | startRun threadId sid sio =>
    change Inv (s.bindUiThread threadId sid sio)
    unfold State.bindUiThread
    split
    · split
      · next bound => exact inv.ownership (inv.inverse.bind bound) rfl rfl
      · exact inv
    · exact inv
  | disconnect sid =>
    change Inv (s.removeSocket sid)
    unfold State.removeSocket
    split
    · next removed => exact inv.ownership (inv.inverse.removeSid removed) rfl rfl
    · exact inv
  | submit sid sessionId toolCallId =>
    have kept : Inv (s.lockFor sessionId).2 := by
      unfold State.lockFor
      split
      · exact inv
      · exact inv.ownership inv.inverse rfl rfl
    exact kept.frame frame_ask entered_ask
  | resume n =>
    change Inv (s.resume n)
    unfold State.resume
    split
    · next l waits =>
      split
      · next first rest free =>
        split
        · have unlocked : Frame n s (s.setLock l ⟨none, rest⟩) :=
            Frame.setLock _ fun _ _ held => by simp [free] at held
          exact inv.frame (unlocked.trans (frame_enter (by simp))) entered_enter
        · exact inv
      · exact inv
    · exact inv
  | leave n =>
    change Inv (s.leave n)
    unfold State.leave
    split
    · next l owner inside =>
      refine inv.frame ((Frame.setLock _ ?_).trans (Frame.setCall n _ _)) ?_
      · intro m other held
        exact absurd (Option.some.inj (held.symm.trans (inv.holds n l owner inside).1)) other
      · intro k owner inside
        simp [State.setPhase] at inside
    · exact inv
  | cancel n =>
    change Inv (s.cancel n)
    unfold State.cancel
    split
    · refine inv.frame ((frame_waiters _).trans (Frame.setCall n _ _)) ?_
      intro k owner inside
      simp [State.setPhase] at inside
    · exact inv

theorem Inv.owned {s : State} (inv : Inv s) : Owned s where
  single _ _ _ := inv.inverse.single
  inverse := inv.inverse
  submitted n l owner inside := (inv.holds n l owner inside).2

theorem inv_start : Inv {} := ⟨Ownership.inverse_empty, nofun⟩

/-- Whatever becomes of the locks, every thread has one owner, and a call that is inside was
submitted by the owner of its thread. -/
theorem owners_in_every_run (actions : List Action) : Owned (run {} actions) :=
  (Runs.run_invariant State.apply (fun _ action inv => inv.apply action) inv_start actions).owned

/-! The calls of a thread share one lock as long as none is made while one is in use. -/

structure Shared (s : State) : Prop where
  calls : ∀ m n l k, (s.calls m).lock = some l → (s.calls n).lock = some k →
    (s.calls m).sessionId = (s.calls n).sessionId → l = k
  kept : ∀ n l k, (s.calls n).lock = some l →
    s.resultLocks.lookup (s.calls n).sessionId = some k → l = k

/-- No call asks for a lock of its own thread when none is kept and an earlier call still uses
one that was dropped. -/
def NoSecondLock (s : State) : Action → Prop
  | .submit _ sessionId _ => s.resultLocks.lookup sessionId = none →
      ∀ n, (s.calls n).sessionId = sessionId → (s.calls n).lock = none
  | _ => True

theorem Shared.fewer {s s' : State} (shared : Shared s)
    (calls : ∀ n, (s'.calls n).lock = none ∨ (s'.calls n).lock = (s.calls n).lock ∧
      (s'.calls n).sessionId = (s.calls n).sessionId)
    (kept : ∀ threadId l, s'.resultLocks.lookup threadId = some l →
      s.resultLocks.lookup threadId = some l) : Shared s' where
  calls m n l k first second thread := by
    obtain none | ⟨lock, session⟩ := calls m
    · simp [none] at first
    obtain none | ⟨lock', session'⟩ := calls n
    · simp [none] at second
    exact shared.calls m n l k (lock ▸ first) (lock' ▸ second) (by rw [← session, ← session', thread])
  kept n l k used found := by
    obtain none | ⟨lock, session⟩ := calls n
    · simp [none] at used
    exact shared.kept n l k (lock ▸ used) (session ▸ kept _ _ found)

theorem Shared.frame {n : Nat} {s s' : State} (shared : Shared s) (frame : Frame n s s')
    (moved : (s'.calls n).lock = none ∨ (s'.calls n).lock = (s.calls n).lock ∧
      (s'.calls n).sessionId = (s.calls n).sessionId) : Shared s' := by
  refine shared.fewer (fun m => ?_) fun _ _ found => frame.resultLocks ▸ found
  by_cases same : m = n
  · exact same ▸ moved
  · exact .inr (by simp [frame.calls m same])

theorem lockFor_kept (s : State) (sessionId : String) :
    (s.lockFor sessionId).2.resultLocks.lookup sessionId = some (s.lockFor sessionId).1 := by
  unfold State.lockFor
  split
  · next found => exact found
  · simp

theorem Shared.lockFor {s : State} (shared : Shared s) {sid sessionId toolCallId : String}
    (single : NoSecondLock s (.submit sid sessionId toolCallId)) :
    Shared (s.lockFor sessionId).2 := by
  unfold State.lockFor
  split
  · exact shared
  · next missing =>
    refine ⟨shared.calls, fun n l k used found => ?_⟩
    by_cases thread : (s.calls n).sessionId = sessionId
    · exact absurd used (by simp [single missing n thread])
    · exact shared.kept n l k used (by simpa [thread] using found)

theorem Shared.ask {s : State} (shared : Shared s) {call : Submission} {l : Nat}
    (kept : s.resultLocks.lookup call.sessionId = some l) : Shared (s.ask call l) := by
  have thread : ((s.ask call l).calls s.begun).sessionId = call.sessionId := ask_call.1
  have frame : Frame s.begun s (s.ask call l) := frame_ask
  have own : ∀ k, ((s.ask call l).calls s.begun).lock = some k → k = l := by
    intro k used
    rcases ask_call.2 with taken | taken
    · exact Option.some.inj (used.symm.trans taken)
    · exact nomatch used.symm.trans taken
  have earlier : ∀ m k, m ≠ s.begun → ((s.ask call l).calls m).lock = some k →
      ((s.ask call l).calls m).sessionId = call.sessionId → k = l := by
    intro m k other used session
    rw [frame.calls m other] at used session
    exact shared.kept m k l used (session ▸ kept)
  constructor
  · intro m n j k first second session
    by_cases new : m = s.begun
    · subst new
      by_cases same : n = s.begun
      · subst same
        exact (own j first).trans (own k second).symm
      · exact (own j first).trans (earlier n k same second (session ▸ thread)).symm
    · by_cases same : n = s.begun
      · subst same
        exact (earlier m j new first (session.trans thread)).trans (own k second).symm
      · rw [frame.calls m new] at first session
        rw [frame.calls n same] at second session
        exact shared.calls m n j k first second session
  · intro n j k used found
    rw [frame.resultLocks] at found
    by_cases new : n = s.begun
    · subst new
      rw [thread, kept] at found
      exact (own j used).trans (Option.some.inj found)
    · rw [frame.calls n new] at used found
      exact shared.kept n j k used found

theorem Shared.apply {s : State} (shared : Shared s) (action : Action)
    (single : NoSecondLock s action) : Shared (s.apply action) := by
  cases action with
  | connect sid sio =>
    change Shared (s.registerSocket sid sio)
    unfold State.registerSocket
    split
    · exact shared
    · exact shared.fewer (fun _ => .inr ⟨rfl, rfl⟩) fun _ _ found => found
  | startRun threadId sid sio =>
    change Shared (s.bindUiThread threadId sid sio)
    unfold State.bindUiThread
    split
    · split
      · exact shared.fewer (fun _ => .inr ⟨rfl, rfl⟩) fun _ _ found => found
      · exact shared
    · exact shared
  | disconnect sid =>
    change Shared (s.removeSocket sid)
    unfold State.removeSocket
    split
    · refine shared.fewer (fun _ => .inr ⟨rfl, rfl⟩) fun threadId l found => ?_
      exact (Table.lookup_eraseAll.mp found).2
    · exact shared
  | submit sid sessionId toolCallId =>
    exact (shared.lockFor single).ask (lockFor_kept s sessionId)
  | resume n =>
    change Shared (s.resume n)
    unfold State.resume
    split
    · next l waits =>
      have used : (s.calls n).lock = some l := by simp [Submission.lock, waits]
      split
      · next first rest free =>
        split
        · have unlocked : Frame n s (s.setLock l ⟨none, rest⟩) :=
            Frame.setLock _ fun _ _ held => by simp [free] at held
          refine shared.frame (unlocked.trans (frame_enter (by simp))) ?_
          obtain ⟨session, taken | none⟩ :=
            enter_call (s := s.setLock l ⟨none, rest⟩) (n := n) (l := l)
          · exact .inr ⟨taken.trans used.symm, session⟩
          · exact .inl none
        · exact shared
      · exact shared
    · exact shared
  | leave n =>
    change Shared (s.leave n)
    unfold State.leave
    split
    · exact shared.fewer (fun m => by
        by_cases same : m = n <;> simp [State.setPhase, State.setCall, Submission.lock, same])
        fun _ _ found => found
    · exact shared
  | cancel n =>
    change Shared (s.cancel n)
    unfold State.cancel
    split
    · refine shared.frame ((frame_waiters _).trans (Frame.setCall n _ _)) ?_
      exact .inl (by simp [State.setPhase, Submission.lock])
    · exact shared

theorem Inv.exclusive {s : State} (inv : Inv s) (shared : Shared s) : Exclusive s where
  toOwned := inv.owned
  alone threadId m n := by
    rintro ⟨first, l, owner, inside⟩ ⟨second, k, owner', inside'⟩
    have same : l = k := shared.calls m n l k (by simp [Submission.lock, inside])
      (by simp [Submission.lock, inside']) (first.trans second.symm)
    subst same
    have held := (inv.holds m l owner inside).1
    exact Option.some.inj (held.symm.trans (inv.holds n l owner' inside').1)

theorem shared_start : Shared {} := ⟨nofun, nofun⟩

/-- As long as no second lock is made for a thread while the first is in use, each thread has
one owner and at most one result inside, after every step of the run. -/
theorem one_result_per_thread (actions : List Action)
    (single : Runs.Along State.apply NoSecondLock {} actions) (reached : List Action)
    (earlier : reached <+: actions) : Exclusive (run {} reached) := by
  obtain ⟨later, rfl⟩ := earlier
  have along := ((Runs.along_append State.apply {} reached later).mp single).1
  obtain ⟨inv, shared⟩ := Runs.along_invariant State.apply (P := fun s => Inv s ∧ Shared s)
    (fun s action good single => ⟨good.1.apply action, good.2.apply action single⟩)
    ⟨inv_start, shared_start⟩ reached along
  exact inv.exclusive shared

def oneSocket : List Action :=
  [.connect "a" 0, .startRun "t" "a" 0, .submit "a" "t" "c::t", .submit "a" "t" "d::t", .leave 0,
    .resume 1, .leave 1, .disconnect "a"]

theorem one_result_per_thread_sample : Exclusive (run {} oneSocket) := by
  refine one_result_per_thread oneSocket ?_ oneSocket (List.prefix_refl _)
  refine ⟨trivial, trivial, ?_, ?_, trivial, trivial, trivial, trivial, trivial⟩
  · exact fun _ n _ => rfl
  · intro missing
    exact absurd missing (by decide)

/-- Two sockets, one after the other, each with a result for the same thread. -/
def handedOver : List Action :=
  [.connect "a" 0, .startRun "t" "a" 0, .submit "a" "t" "c::t", .disconnect "a",
    .connect "b" 1, .startRun "t" "b" 1, .submit "b" "t" "d::t"]

/-- The first result still streams when its lock is dropped, and the second gets another. -/
theorem two_results_inside : ¬ ∀ actions, Exclusive (run {} actions) := by
  intro exclusive
  have inside : ((run {} handedOver).calls 0).phase = .inside 0 (some "a") ∧
      ((run {} handedOver).calls 1).phase = .inside 1 (some "b") ∧
      ((run {} handedOver).calls 0).sessionId = "t" ∧
      ((run {} handedOver).calls 1).sessionId = "t" := by decide
  obtain ⟨first, second, session, session'⟩ := inside
  exact absurd ((exclusive handedOver).alone "t" 0 1 ⟨session, _, _, first⟩
    ⟨session', _, _, second⟩) (by decide)

end ToolResults

end NetworkAgent.Supervisor
