import Mathlib.Algebra.Order.Floor.Ring
import Mathlib.Data.Finset.Card
import Mathlib.Data.Rat.Floor
import NetworkAgent.Library.Runs
import NetworkAgent.Library.TokenBucket

/-! The request throttler: a semaphore around every attempt of a call, a token bucket under a
lock, and retries with a growing pause. Between two awaits a call runs alone, so a step takes one
call from one await to the next. -/
namespace NetworkAgent.Operator.Throttler

structure Config where
  rateLimit : ℚ
  maxConcurrent : Nat
  initialDelay : ℚ
  maxDelay : ℚ
  backoffFactor : ℚ
  maxRetries : Int
  rate_nonneg : 0 ≤ rateLimit

/-- The attribute `status` of an exception, which need not be a number. -/
inductive Status where
  | code (value : Int)
  | other

structure Failure where
  status : Option Status
  text : String

/-- `str.lower`, as far as a text in ASCII can be found in it: besides the letters of ASCII, two
characters have one of them in their lower case. -/
def lower (text : String) : String :=
  String.ofList (text.toList.flatMap fun c =>
    if c = Char.ofNat 0x212A then ['k']
    else if c = Char.ofNat 0x130 then ['i', Char.ofNat 0x307]
    else [c.toLower])

def retryablePatterns : List String :=
  ["timeout", "connection", "network", "temporary", "rate limit", "too many requests",
    "service unavailable"]

/-- `_is_retryable_error`. The comparison of a status that is no number raises. -/
def isRetryableError (error : Failure) : Option Bool :=
  match error.status with
  | some (.code status) => some (decide (status = 429 ∨ 500 ≤ status ∧ status < 600))
  | some .other => none
  | none => some (retryablePatterns.any fun pattern =>
      decide (pattern.toList <:+: (lower error.text).toList))

def calculateBackoffDelay (c : Config) (attempt : Nat) : ℚ :=
  min (c.initialDelay * c.backoffFactor ^ attempt) c.maxDelay

structure Adaptive where
  consecutiveFailures : Nat := 0
  lastFailureTime : ℚ := 0
  adaptiveDelay : ℚ := 0

/-- `_update_adaptive_delay`, after a failure and after a success. -/
def Adaptive.failed (c : Config) (now : ℚ) (a : Adaptive) : Adaptive where
  consecutiveFailures := a.consecutiveFailures + 1
  lastFailureTime := now
  adaptiveDelay :=
    if 2 < a.consecutiveFailures + 1 then
      min (a.adaptiveDelay + 1 / 2 * (a.consecutiveFailures + 1)) (c.maxDelay / 4)
    else a.adaptiveDelay

def Adaptive.succeeded (now : ℚ) (a : Adaptive) : Adaptive where
  consecutiveFailures := a.consecutiveFailures - 1
  lastFailureTime := a.lastFailureTime
  adaptiveDelay :=
    if 0 < a.adaptiveDelay ∧ 10 < now - a.lastFailureTime then max 0 (a.adaptiveDelay - 1 / 10)
    else a.adaptiveDelay

/-- `bucket_size`, and the rate at which the tokens flow in. -/
def Config.bucketSize (c : Config) : Int := max 1 ⌊c.rateLimit⌋

def Config.rule (c : Config) : TokenBucket.Rule ℚ where
  size := c.bucketSize
  rate := c.rateLimit
  one_le_size := by exact_mod_cast le_max_left 1 ⌊c.rateLimit⌋
  rate_nonneg := c.rate_nonneg

/-- Where a call is between two steps. -/
inductive Phase where
  | idle
  | entering (attempt : Nat)
  | admitted (attempt : Nat)
  | waiting (attempt : Nat) (wake : ℚ)
  | delaying (attempt : Nat) (wake : ℚ)
  | executing (attempt : Nat)
  | backingOff (attempt : Nat) (wake : ℚ)
  | returned
  | raised

/-- How an attempt ended. An abandoned one was cancelled, or its call let through what is no
`Exception`. -/
inductive Result where
  | returned
  | failed (error : Failure)
  | abandoned

structure Shared where
  clock : ℚ
  permits : Nat
  lock : Option Nat
  bucket : TokenBucket.Bucket ℚ
  adaptive : Adaptive

/-- What one step of a call leaves, and the end of an attempt where it is one. -/
structure Turn where
  shared : Shared
  phase : Phase
  ended : Option Result := none

def fail (c : Config) (shared : Shared) (attempt : Nat) (error : Failure) : Turn :=
  let shared := {
    shared with
    permits := shared.permits + 1
    adaptive := shared.adaptive.failed c shared.clock }
  if attempt < c.maxRetries ∧ isRetryableError error = some true then
    ⟨shared, .backingOff attempt (shared.clock + calculateBackoffDelay c attempt),
      some (.failed error)⟩
  else ⟨shared, .raised, some (.failed error)⟩

/-- The end of `_acquire_token`, and the adaptive pause. -/
def consume (shared : Shared) (attempt : Nat) : Turn :=
  let shared := { shared with lock := none, bucket := TokenBucket.take shared.bucket }
  if 0 < shared.adaptive.adaptiveDelay then
    ⟨shared, .delaying attempt (shared.clock + shared.adaptive.adaptiveDelay), none⟩
  else ⟨shared, .executing attempt, none⟩

def divisionByZero : Failure := ⟨none, "float division by zero"⟩

/-- `_acquire_token`, once it has the lock. -/
def acquireToken (c : Config) (shared : Shared) (task attempt : Nat) : Turn :=
  let bucket := TokenBucket.refill c.rule shared.clock shared.bucket
  let shared := { shared with bucket }
  if bucket.tokens < 1 then
    if c.rateLimit = 0 then fail c shared attempt divisionByZero
    else
      ⟨{ shared with lock := some task },
        .waiting attempt (shared.clock + (1 - bucket.tokens) / c.rateLimit), none⟩
  else consume shared attempt

/-- An exception that is no `Exception` leaves the call from where it waits. -/
def abandon (shared : Shared) : Phase → Turn
  | .entering _ => ⟨shared, .raised, some .abandoned⟩
  | .admitted _ | .delaying .. | .executing _ =>
    ⟨{ shared with permits := shared.permits + 1 }, .raised, some .abandoned⟩
  | .waiting .. =>
    ⟨{ shared with permits := shared.permits + 1, lock := none }, .raised, some .abandoned⟩
  | .idle | .backingOff .. => ⟨shared, .raised, none⟩
  | phase => ⟨shared, phase, none⟩

/-- What the scheduler does to a call: it lets it go on, its wrapped call returns or raises, or
it is cancelled. -/
inductive Event where
  | proceed
  | returns
  | raises (error : Failure)
  | cancel

/-- `execute_with_throttling`, from one await to the next. -/
def advance (c : Config) (shared : Shared) (task : Nat) : Event → Phase → Turn
  | .cancel, phase => abandon shared phase
  | .proceed, .idle =>
    if 0 ≤ c.maxRetries then ⟨shared, .entering 0, none⟩ else ⟨shared, .raised, none⟩
  | .proceed, .entering attempt =>
    if shared.permits = 0 then ⟨shared, .entering attempt, none⟩
    else ⟨{ shared with permits := shared.permits - 1 }, .admitted attempt, none⟩
  | .proceed, .admitted attempt =>
    if shared.lock = none then acquireToken c shared task attempt
    else ⟨shared, .admitted attempt, none⟩
  | .proceed, .waiting attempt wake =>
    if shared.clock < wake then ⟨shared, .waiting attempt wake, none⟩
    else
      consume { shared with bucket := TokenBucket.refill c.rule shared.clock shared.bucket } attempt
  | .proceed, .delaying attempt wake =>
    if shared.clock < wake then ⟨shared, .delaying attempt wake, none⟩
    else ⟨shared, .executing attempt, none⟩
  | .returns, .executing _ =>
    ⟨{ shared with
        permits := shared.permits + 1
        adaptive := shared.adaptive.succeeded shared.clock },
      .returned, some .returned⟩
  | .raises error, .executing attempt => fail c shared attempt error
  | .proceed, .backingOff attempt wake =>
    if shared.clock < wake then ⟨shared, .backingOff attempt wake, none⟩
    else ⟨shared, .entering (attempt + 1), none⟩
  | _, phase => ⟨shared, phase, none⟩

/-- The calls are numbered; every call has its phase and the attempts that have ended. -/
structure State where
  shared : Shared
  phase : Nat → Phase
  ended : Nat → List Result

structure Input where
  task : Nat
  now : ℚ
  event : Event

/-- One step of a call at a reading of the clock, which never goes back. -/
def step (c : Config) (s : State) (i : Input) : State :=
  if i.now < s.shared.clock then s
  else
    let turn := advance c { s.shared with clock := i.now } i.task i.event (s.phase i.task)
    { shared := turn.shared
      phase := fun j => if j = i.task then turn.phase else s.phase j
      ended := fun j => if j = i.task then s.ended j ++ turn.ended.toList else s.ended j }

def start (c : Config) (now : ℚ) : State where
  shared := {
    clock := now
    permits := c.maxConcurrent
    lock := none
    bucket := TokenBucket.full c.rule now
    adaptive := {} }
  phase _ := .idle
  ended _ := []

def run (c : Config) (now : ℚ) (inputs : List Input) : State :=
  Runs.run (step c) (start c now) inputs

def Phase.holds : Phase → Nat
  | .admitted _ | .waiting .. | .delaying .. | .executing _ => 1
  | .idle | .entering _ | .backingOff .. | .returned | .raised => 0

def Phase.attempting : Phase → Nat
  | .entering _ | .admitted _ | .waiting .. | .delaying .. | .executing _ => 1
  | .idle | .backingOff .. | .returned | .raised => 0

def State.attempts (s : State) (task : Nat) : Nat :=
  (s.ended task).length + (s.phase task).attempting

def Result.Retryable (result : Result) : Prop :=
  ∃ error, result = .failed error ∧ isRetryableError error = some true

def Counted (c : Config) (ended : List Result) : Phase → Prop
  | .idle => ended = []
  | .entering n | .admitted n | .waiting n _ | .delaying n _ | .executing n =>
    ended.length = n ∧ n ≤ c.maxRetries ∧ ∀ result ∈ ended, result.Retryable
  | .backingOff n _ =>
    ended.length = n + 1 ∧ n < c.maxRetries ∧ ∀ result ∈ ended, result.Retryable
  | .returned | .raised =>
    ended.length ≤ (c.maxRetries + 1).toNat ∧ ∀ result ∈ ended.dropLast, result.Retryable

structure Filled (c : Config) (shared : Shared) : Prop where
  sound : TokenBucket.Sound c.rule shared.bucket
  past : shared.bucket.refilled ≤ shared.clock

/-- A call that waits for a token has the lock, and sleeps until a token has flowed in. -/
def Waits (c : Config) (shared : Shared) (task : Nat) (phase : Phase) : Prop :=
  ∀ attempt wake, phase = .waiting attempt wake → shared.lock = some task ∧ 0 < c.rateLimit ∧
    shared.bucket.refilled + (1 - shared.bucket.tokens) / c.rateLimit ≤ wake

section
variable {c : Config} {shared : Shared} {task : Nat}

theorem fail_cases (c : Config) (shared : Shared) (n : Nat) (error : Failure) :
    (n < c.maxRetries ∧ isRetryableError error = some true ∧ ∃ wake,
      (fail c shared n error).phase = .backingOff n wake) ∨
    (fail c shared n error).phase = .raised := by
  unfold fail
  dsimp only
  split
  · rename_i retried
    exact .inl ⟨retried.1, retried.2, _, rfl⟩
  · exact .inr rfl

@[simp] theorem fail_ended (n : Nat) (error : Failure) :
    (fail c shared n error).ended = some (.failed error) := by
  unfold fail
  dsimp only
  split <;> rfl

@[simp] theorem fail_shared (n : Nat) (error : Failure) :
    (fail c shared n error).shared = {
      shared with
      permits := shared.permits + 1
      adaptive := shared.adaptive.failed c shared.clock } := by
  unfold fail
  dsimp only
  split <;> rfl

@[simp] theorem fail_holds (n : Nat) (error : Failure) :
    (fail c shared n error).phase.holds = 0 := by
  rcases fail_cases c shared n error with ⟨-, -, wake, phase⟩ | phase <;> rw [phase] <;> rfl

theorem consume_phase (shared : Shared) (n : Nat) :
    (∃ wake, (consume shared n).phase = .delaying n wake) ∨
      (consume shared n).phase = .executing n := by
  unfold consume
  dsimp only
  split
  · exact .inl ⟨_, rfl⟩
  · exact .inr rfl

@[simp] theorem consume_ended (n : Nat) : (consume shared n).ended = none := by
  unfold consume
  dsimp only
  split <;> rfl

@[simp] theorem consume_shared (n : Nat) : (consume shared n).shared =
    { shared with lock := none, bucket := TokenBucket.take shared.bucket } := by
  unfold consume
  dsimp only
  split <;> rfl

@[simp] theorem consume_holds (n : Nat) : (consume shared n).phase.holds = 1 := by
  rcases consume_phase shared n with ⟨wake, phase⟩ | phase <;> rw [phase] <;> rfl

theorem acquireToken_cases (c : Config) (shared : Shared) (task n : Nat) :
    let refilled := {
      shared with
      bucket := TokenBucket.refill c.rule shared.clock shared.bucket }
    (acquireToken c shared task n = fail c refilled n divisionByZero) ∨
    (c.rateLimit ≠ 0 ∧ acquireToken c shared task n = {
      shared := { refilled with lock := some task }
      phase := .waiting n (shared.clock + (1 - refilled.bucket.tokens) / c.rateLimit) }) ∨
    (1 ≤ refilled.bucket.tokens ∧ acquireToken c shared task n = consume refilled n) := by
  unfold acquireToken
  dsimp only
  split
  · split
    · exact .inl rfl
    · rename_i moving
      exact .inr (.inl ⟨moving, rfl⟩)
  · rename_i available
    exact .inr (.inr ⟨not_lt.mp available, rfl⟩)

theorem advance_permits (c : Config) (shared : Shared) (task : Nat) (event : Event)
    (phase : Phase) :
    (advance c shared task event phase).shared.permits +
      (advance c shared task event phase).phase.holds = shared.permits + phase.holds := by
  fun_cases advance c shared task event phase
  case case1 => cases phase <;> simp [abandon, Phase.holds]
  case case5 attempt free =>
    simp only [Phase.holds]
    omega
  case case6 attempt free =>
    rcases acquireToken_cases c shared task attempt with turn | ⟨-, turn⟩ | ⟨-, turn⟩
    · rw [turn, fail_holds, fail_shared]
      rfl
    · rw [turn]
      rfl
    · rw [turn, consume_holds, consume_shared]
      rfl
  case case9 =>
    rw [consume_holds, consume_shared]
    rfl
  case case13 =>
    rw [fail_holds, fail_shared]
    rfl
  all_goals rfl

theorem Counted.attempts {ended : List Result} {phase : Phase} (counted : Counted c ended phase) :
    ended.length + phase.attempting ≤ (c.maxRetries + 1).toNat ∧
      ∀ k result, ended[k]? = some result → k + 1 < ended.length + phase.attempting →
        result.Retryable := by
  have under : ∀ {n}, ended.length = n ∧ n ≤ c.maxRetries ∧ (∀ result ∈ ended, result.Retryable) →
      ended.length + 1 ≤ (c.maxRetries + 1).toNat ∧
        ∀ k result, ended[k]? = some result → k + 1 < ended.length + 1 → result.Retryable := by
    rintro n ⟨length, bound, retried⟩
    exact ⟨by omega, fun k result known _ => retried result (List.mem_of_getElem? known)⟩
  cases phase
  case idle => simp [show ended = [] from counted, Phase.attempting]
  case backingOff =>
    obtain ⟨length, bound, retried⟩ := counted
    exact ⟨by simp only [Phase.attempting]; omega,
      fun k result known _ => retried result (List.mem_of_getElem? known)⟩
  case returned | raised =>
    refine ⟨counted.1, fun k result known earlier => counted.2 result ?_⟩
    have shorter : k < ended.length - 1 := by
      simp only [Phase.attempting] at earlier
      omega
    have kept : ended.dropLast[k]? = some result := by
      rw [List.getElem?_dropLast, if_pos shorter]
      exact known
    exact List.mem_of_getElem? kept
  all_goals exact under counted

theorem counted_raised {ended : List Result} {n : Nat} {last : Result} (length : ended.length = n)
    (bound : n ≤ c.maxRetries) (retried : ∀ result ∈ ended, result.Retryable) :
    Counted c (ended ++ [last]) .raised := by
  refine ⟨?_, ?_⟩
  · rw [List.length_append, List.length_singleton]
    omega
  · rw [List.dropLast_concat]
    exact retried

theorem counted_fail {ended : List Result} {n : Nat} {error : Failure} (length : ended.length = n)
    (bound : n ≤ c.maxRetries) (retried : ∀ result ∈ ended, result.Retryable) :
    Counted c (ended ++ [.failed error]) (fail c shared n error).phase := by
  rcases fail_cases c shared n error with ⟨more, retryable, wake, phase⟩ | phase
  · rw [phase]
    refine ⟨by simp [length], more, fun result member => ?_⟩
    rcases List.mem_append.mp member with earlier | last
    · exact retried result earlier
    · exact ⟨error, List.mem_singleton.mp last, retryable⟩
  · rw [phase]
    exact counted_raised length bound retried

theorem counted_consume {ended : List Result} {n : Nat}
    (counted : Counted c ended (.executing n)) :
    Counted c (ended ++ (consume shared n).ended.toList) (consume shared n).phase := by
  rw [consume_ended, Option.toList_none, List.append_nil]
  rcases consume_phase shared n with ⟨wake, phase⟩ | phase <;> rw [phase] <;> exact counted

theorem Counted.advance {ended : List Result} {event : Event} {phase : Phase}
    (counted : Counted c ended phase) :
    Counted c (ended ++ (advance c shared task event phase).ended.toList)
      (advance c shared task event phase).phase := by
  fun_cases Throttler.advance c shared task event phase
  case case1 =>
    cases phase
    case idle =>
      cases counted
      exact ⟨Nat.zero_le _, nofun⟩
    case backingOff =>
      obtain ⟨length, bound, retried⟩ := counted
      simp only [abandon, Option.toList_none, List.append_nil]
      exact ⟨by omega, fun result member => retried result (List.mem_of_mem_dropLast member)⟩
    case returned | raised => simpa [abandon] using counted
    all_goals exact counted_raised counted.1 counted.2.1 counted.2.2
  case case2 allowed =>
    cases counted
    exact ⟨rfl, allowed, nofun⟩
  case case3 =>
    cases counted
    exact ⟨Nat.zero_le _, nofun⟩
  case case6 attempt free =>
    rcases acquireToken_cases c shared task attempt with turn | ⟨-, turn⟩ | ⟨-, turn⟩
    · rw [turn, fail_ended]
      exact counted_fail counted.1 counted.2.1 counted.2.2
    · rw [turn, Option.toList_none, List.append_nil]
      exact counted
    · rw [turn]
      exact counted_consume counted
  case case9 => exact counted_consume counted
  case case12 =>
    exact counted_raised counted.1 counted.2.1 counted.2.2
  case case13 =>
    rw [fail_ended]
    exact counted_fail counted.1 counted.2.1 counted.2.2
  case case15 =>
    rw [Option.toList_none, List.append_nil]
    obtain ⟨length, bound, retried⟩ := counted
    exact ⟨length, by omega, retried⟩
  all_goals
    rw [Option.toList_none, List.append_nil]
    exact counted

theorem fail_waits (other : Shared) (n : Nat) (error : Failure) :
    Waits c other task (fail c shared n error).phase := by
  intro attempt wake waiting
  rcases fail_cases c shared n error with ⟨-, -, wake', phase⟩ | phase <;>
    cases phase.symm.trans waiting

theorem consume_waits (other : Shared) (n : Nat) :
    Waits c other task (consume shared n).phase := by
  intro attempt wake waiting
  rcases consume_phase shared n with ⟨wake', phase⟩ | phase <;> cases phase.symm.trans waiting

theorem acquireToken_filled (filled : Filled c shared) (task n : Nat) :
    Filled c (acquireToken c shared task n).shared ∧
      Waits c (acquireToken c shared task n).shared task (acquireToken c shared task n).phase := by
  have refilled := filled.sound.refill filled.past
  rcases acquireToken_cases c shared task n with turn | ⟨moving, turn⟩ | ⟨available, turn⟩
  · rw [turn, fail_shared]
    exact ⟨⟨refilled, le_rfl⟩, fail_waits _ n _⟩
  · rw [turn]
    refine ⟨⟨refilled, le_rfl⟩, fun attempt wake waiting => ?_⟩
    cases waiting
    exact ⟨rfl, lt_of_le_of_ne c.rate_nonneg moving.symm, le_rfl⟩
  · rw [turn, consume_shared]
    exact ⟨⟨refilled.take available, le_rfl⟩, consume_waits _ n⟩

/-- The bucket stays sound, a waiting call keeps what it waits for, and only the call that has
the lock touches the bucket. -/
theorem advance_filled (event : Event) {phase : Phase} (filled : Filled c shared)
    (waits : Waits c shared task phase) :
    Filled c (advance c shared task event phase).shared ∧
    Waits c (advance c shared task event phase).shared task
      (advance c shared task event phase).phase ∧
    ((advance c shared task event phase).shared.bucket = shared.bucket ∧
        (advance c shared task event phase).shared.lock = shared.lock ∨
      shared.lock = none ∨ shared.lock = some task) := by
  fun_cases Throttler.advance c shared task event phase
  case case1 =>
    cases phase
    case waiting attempt wake =>
      exact ⟨⟨filled.sound, filled.past⟩, nofun, .inr (.inr (waits attempt wake rfl).1)⟩
    all_goals exact ⟨⟨filled.sound, filled.past⟩, nofun, .inl ⟨rfl, rfl⟩⟩
  case case6 attempt free =>
    obtain ⟨kept, wait⟩ := acquireToken_filled filled task attempt
    exact ⟨kept, wait, .inr (.inl free)⟩
  case case8 => exact ⟨filled, waits, .inl ⟨rfl, rfl⟩⟩
  case case9 attempt wake awake =>
    obtain ⟨held, positive, bound⟩ := waits attempt wake rfl
    have available : 1 ≤ (TokenBucket.refill c.rule shared.clock shared.bucket).tokens :=
      TokenBucket.one_le_refill positive (bound.trans (not_lt.mp awake))
    rw [consume_shared]
    exact ⟨⟨(filled.sound.refill filled.past).take available, le_rfl⟩, consume_waits _ attempt,
      .inr (.inr held)⟩
  case case13 =>
    rw [fail_shared]
    exact ⟨⟨filled.sound, filled.past⟩, fail_waits _ _ _, .inl ⟨rfl, rfl⟩⟩
  case case16 => exact ⟨filled, waits, .inl ⟨rfl, rfl⟩⟩
  all_goals exact ⟨⟨filled.sound, filled.past⟩, nofun, .inl ⟨rfl, rfl⟩⟩

end

theorem holds_zero_or_one (phase : Phase) : phase.holds = 0 ∨ phase.holds = 1 := by
  cases phase <;> simp [Phase.holds]

structure Sound (c : Config) (s : State) : Prop where
  filled : Filled c s.shared
  waits : ∀ task, Waits c s.shared task (s.phase task)
  admitted : ∃ inside : Finset Nat, (∀ task, task ∈ inside ↔ (s.phase task).holds = 1) ∧
    inside.card + s.shared.permits = c.maxConcurrent
  counted : ∀ task, Counted c (s.ended task) (s.phase task)

theorem sound_start (c : Config) (now : ℚ) : Sound c (start c now) where
  filled := ⟨TokenBucket.sound_full c.rule now, le_rfl⟩
  waits _ := nofun
  admitted := ⟨∅, by simp [start, Phase.holds]⟩
  counted _ := rfl

theorem inside_update {phases : Nat → Phase} {inside : Finset Nat} {before after task : Nat}
    (phase : Phase) (members : ∀ task, task ∈ inside ↔ (phases task).holds = 1)
    (balance : after + phase.holds = before + (phases task).holds) :
    ∃ updated : Finset Nat,
      (∀ j, j ∈ updated ↔ (if j = task then phase else phases j).holds = 1) ∧
        updated.card + after = inside.card + before := by
  rcases holds_zero_or_one phase with outside | held
  · refine ⟨inside.erase task, fun j => ?_, ?_⟩
    · rw [Finset.mem_erase, members j]
      split <;> simp_all
    · rcases holds_zero_or_one (phases task) with absent | present
      · rw [Finset.erase_eq_of_notMem (by rw [members, absent]; exact zero_ne_one)]
        omega
      · have counted := Finset.card_erase_add_one ((members task).mpr present)
        omega
  · refine ⟨insert task inside, fun j => ?_, ?_⟩
    · rw [Finset.mem_insert, members j]
      split <;> simp_all
    · rcases holds_zero_or_one (phases task) with absent | present
      · rw [Finset.card_insert_of_notMem (by rw [members, absent]; exact zero_ne_one)]
        omega
      · rw [Finset.insert_eq_of_mem ((members task).mpr present)]
        omega

theorem Sound.step {c : Config} {s : State} (sound : Sound c s) (i : Input) :
    Sound c (step c s i) := by
  unfold Throttler.step
  split
  · exact sound
  · rename_i later
    have filled : Filled c { s.shared with clock := i.now } :=
      ⟨sound.filled.sound, sound.filled.past.trans (not_lt.mp later)⟩
    obtain ⟨kept, own, untouched⟩ :=
      advance_filled i.event filled (sound.waits i.task)
    refine ⟨kept, fun j => ?_, ?_, fun j => ?_⟩
    · dsimp only
      split
      · rename_i same
        exact same ▸ own
      · rename_i other
        intro attempt wake waiting
        obtain ⟨held, positive, bound⟩ := sound.waits j attempt wake waiting
        rcases untouched with ⟨bucket, lock⟩ | free | mine
        · rw [bucket, lock]
          exact ⟨held, positive, bound⟩
        · cases held.symm.trans free
        · cases held.symm.trans mine
          exact absurd rfl other
    · obtain ⟨inside, members, full⟩ := sound.admitted
      obtain ⟨updated, members', card⟩ := inside_update _ members
        (advance_permits c { s.shared with clock := i.now } i.task i.event (s.phase i.task))
      exact ⟨updated, members', card.trans full⟩
    · dsimp only
      split
      · rename_i same
        exact same ▸ (sound.counted i.task).advance
      · exact sound.counted j

/-- The tokens stay within the bucket; no interval sees more acquisitions than the bucket and
the rate allow; at most `max_concurrent` wrapped calls run at once; and a call makes at most
`max_retries + 1` attempts, each after a retryable failure of the one before. -/
theorem run_throttled (c : Config) (now : ℚ) (inputs : List Input) :
    (0 ≤ (run c now inputs).shared.bucket.tokens ∧
      (run c now inputs).shared.bucket.tokens ≤ c.bucketSize) ∧
    (∀ first last, first ≤ last →
      (TokenBucket.within first last (run c now inputs).shared.bucket.taken : ℚ) ≤
        c.bucketSize + c.rateLimit * (last - first)) ∧
    (∀ running : Finset Nat,
      (∀ task ∈ running, ∃ attempt, (run c now inputs).phase task = .executing attempt) →
        running.card ≤ c.maxConcurrent) ∧
    ∀ task, (run c now inputs).attempts task ≤ (c.maxRetries + 1).toNat ∧
      ∀ k result, ((run c now inputs).ended task)[k]? = some result →
        k + 1 < (run c now inputs).attempts task → result.Retryable := by
  have sound : Sound c (run c now inputs) :=
    Runs.run_invariant (step c) (fun _ i kept => kept.step i) (sound_start c now) inputs
  refine ⟨⟨sound.filled.sound.nonneg, sound.filled.sound.le_size⟩, sound.filled.sound.bounded,
    fun running executing => ?_, fun task => ?_⟩
  · obtain ⟨inside, members, full⟩ := sound.admitted
    have included : running ⊆ inside := by
      intro task member
      obtain ⟨attempt, phase⟩ := executing task member
      rw [members, phase]
      rfl
    have fewer := Finset.card_le_card included
    omega
  · exact (sound.counted task).attempts

end NetworkAgent.Operator.Throttler
