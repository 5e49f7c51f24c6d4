import NetworkAgent.Library.Runs
import NetworkAgent.Lab.Delivery

/-! Runs against one store: every event is delivered in order, and none again once its
checkpoint is durable. -/
namespace NetworkAgent.Lab
open PyFloat

section Run
variable {F : Type} [PyFloat F] {h : Host} {plan : ReplayPlan h}

theorem prepare_progress {checkpoint : ReplayDeliveryCheckpoint} {file : File} {input : RunInput F}
    {c : Schedule F h} {s : Loop F} (stored : readLocked plan file = .ok checkpoint)
    (ready : prepare plan checkpoint file input = .ok (c, s)) :
    c.plan = plan ∧ c.backoffs = input.retryPolicy.backoffs ∧
      c.selectedCount = plan.events.length - checkpoint.sequenceNumber ∧
      Progress c checkpoint.sequenceNumber [] s := by
  have own := plan.validatedCheckpoint_ok (checkpoint_of_readLocked stored)
  simp only [prepare, own, Checks.bind_ok, Checks.require_ok, Except.ok.injEq, pure, Except.pure,
    Prod.mk.injEq, Prod.exists] at ready
  obtain ⟨_, _, _, rfl, _, _, _, _, _, _, _, selected, resumed, rfl, rfl⟩ := ready
  unfold ReplayPlan.resumeAfter at resumed
  split at resumed
  · next bound =>
    cases resumed
    refine ⟨rfl, rfl, List.length_drop, ⟨.nil _, rfl, ⟨checkpoint, stored, rfl⟩, rfl, rfl, ?_,
      Nat.zero_le _, fun _ => ⟨rfl, rfl⟩, ?_⟩⟩
    · dsimp only
      rw [List.length_drop]
      omega
    · constructor
      · intro marked
        cases marked
      · rintro ⟨_, _, member, _⟩
        cases member
  · cases resumed

/-- What a run that starts at the checkpoint `n` sends, leaves and reports. `seen` are the
attempts that its mark of an uncertain event speaks about. -/
structure Delivered (plan : ReplayPlan h) (input : RunInput F) (n m : Nat) (seen : List Entry)
    (ran : Ran F) : Prop where
  attempts : attempts ran.entries ≤
    (plan.events.length - n) * (1 + input.retryPolicy.backoffs.length)
  selected : ∀ r, ran.ends = .returned r → r.selectedCount = plan.events.length - n
  attempted : ∀ e, ran.ends.evidence = some e → e.attemptedCount = Lab.attempts ran.entries
  delivered : ∀ e, ran.ends.evidence = some e →
    n + e.deliveredCount = m ∧ plan.checkpointForSequence m = .ok e.checkpoint
  uncertain : ∀ e, ran.ends.evidence = some e → ∀ k,
    e.uncertainSequenceNumber = some k ↔ k = m + 1 ∧ Unanswered k seen

theorem run_delivered {file : File} {checkpoint : ReplayDeliveryCheckpoint} (input : RunInput F)
    (stored : readLocked plan file = .ok checkpoint) :
    ∃ current, readLocked plan (runPersistentPacedReplay plan file input).file = .ok current ∧
      Paced plan checkpoint.sequenceNumber (runPersistentPacedReplay plan file input).entries
        current.sequenceNumber ∧
      Delivered plan input checkpoint.sequenceNumber current.sequenceNumber
        (runPersistentPacedReplay plan file input).entries
        (runPersistentPacedReplay plan file input) := by
  have early (ends : End F) (silent : ends.evidence = none) :
      ∃ current, readLocked plan file = .ok current ∧
        Paced plan checkpoint.sequenceNumber [] current.sequenceNumber ∧
        Delivered plan input checkpoint.sequenceNumber current.sequenceNumber [] ⟨[], file, ends⟩ := by
    refine ⟨checkpoint, stored, .nil _, Nat.zero_le _, fun r returned => ?_, fun e known => ?_,
      fun e known => ?_, fun e known => ?_⟩
    · rw [show ends = .returned r from returned] at silent
      cases silent
    all_goals
      rw [silent] at known
      cases known
  unfold runPersistentPacedReplay
  split
  · exact early _ rfl
  · rw [stored]
    dsimp only
    split
    · exact early _ rfl
    · next c s ready =>
      obtain ⟨rfl, backoffs, selected, progress⟩ := prepare_progress stored ready
      have finished := loop_finished input.finish input.rounds progress
      obtain ⟨current, held, paced⟩ := finished.stored
      have reached : ∀ e, (c.loop input.finish s input.rounds).ends.evidence = some e →
          current = e.checkpoint := fun e known =>
        Except.ok.inj (held.symm.trans (finished.delivered e known).2)
      refine ⟨current, held, paced, ⟨backoffs ▸ finished.budget, fun r returned => ?_,
        finished.attempted, fun e known => ?_, fun e known k => ?_⟩⟩
      · rw [finished.selected r returned, selected]
      · rw [reached e known]
        exact ⟨(finished.delivered e known).1,
          checkpoint_of_readLocked (finished.delivered e known).2⟩
      · rw [reached e known]
        exact finished.uncertain e known k

/-! Sequences of runs. -/

structure Recorded (plan : ReplayPlan h) (r : Replay) : Prop where
  paced : Paced plan 0 r.trace (checkpointAfter 0 r.trace)
  stored : ∃ current, readLocked plan r.file = .ok current ∧
    current.sequenceNumber = checkpointAfter 0 r.trace

theorem next_recorded (r : Replay) (input : RunInput F) (recorded : Recorded plan r) :
    Recorded plan (r.next plan input) := by
  obtain ⟨paced, checkpoint, stored, reached⟩ := recorded
  obtain ⟨current, held, moved, _⟩ := run_delivered input stored
  rw [reached] at moved
  have whole := paced.append moved
  have position := whole.checkpointAfter_eq
  exact ⟨position.symm ▸ whole, current, held, position.symm⟩

theorem run_recorded (inputs : List (RunInput F)) :
    Recorded plan (Runs.run (Replay.next plan) {} inputs) :=
  Runs.run_invariant (Replay.next plan) next_recorded
    ⟨.nil 0, _, rfl, rfl⟩ inputs

/-- The store and the trace after a sequence of runs that found no checkpoint file. -/
def replay (plan : ReplayPlan h) (inputs : List (RunInput F)) : Replay :=
  Runs.run (Replay.next plan) {} inputs

/-- The durable sequence number after a sequence of runs. -/
def durable (plan : ReplayPlan h) (inputs : List (RunInput F)) : Nat :=
  checkpointAfter 0 (replay plan inputs).trace

/-- Delivery in order, at most once past the checkpoint, and reports that match the store. -/
structure ExactlyOnce (plan : ReplayPlan h) (inputs : List (RunInput F)) : Prop where
  order : ∀ before e o after, (replay plan inputs).trace = before ++ .attempt e o :: after →
    plan.events[checkpointAfter 0 before]? = some e ∧
      e.sequenceNumber = checkpointAfter 0 before + 1
  advance : ∀ before c after, (replay plan inputs).trace = before ++ .durable c :: after →
    c.sequenceNumber = checkpointAfter 0 before + 1 ∧
      plan.checkpointForSequence c.sequenceNumber = .ok c
  stored : ∃ c, readLocked plan (replay plan inputs).file = .ok c ∧
    c.sequenceNumber = durable plan inputs
  confirmed : ∀ before after, (replay plan inputs).trace = before ++ after → ∀ e ∈ plan.events,
    e.sequenceNumber ≤ checkpointAfter 0 before → ∃ r, .attempt e (.receipt r) ∈ before ∧
      r.Confirms e ∧ r.sourceEventId = e.expectedSourceEvent h
  once : ∀ before after, (replay plan inputs).trace = before ++ after →
    ∀ e o, .attempt e o ∈ after → checkpointAfter 0 before < e.sequenceNumber
  runs : ∀ earlier input later, inputs = earlier ++ input :: later →
    Delivered plan input (durable plan earlier) (durable plan (earlier ++ [input]))
      (runPersistentPacedReplay plan (replay plan earlier).file input).entries
      (runPersistentPacedReplay plan (replay plan earlier).file input)

theorem replay_snoc (earlier : List (RunInput F)) (input : RunInput F) :
    replay plan (earlier ++ [input]) = (replay plan earlier).next plan input := by
  rw [replay, Runs.run_append]
  rfl

theorem replay_delivered (earlier : List (RunInput F)) (input : RunInput F) :
    Delivered plan input (durable plan earlier) (durable plan (earlier ++ [input]))
      (runPersistentPacedReplay plan (replay plan earlier).file input).entries
      (runPersistentPacedReplay plan (replay plan earlier).file input) := by
  have recorded : Recorded plan (replay plan earlier) := run_recorded earlier
  obtain ⟨paced, checkpoint, stored, reached⟩ := recorded
  obtain ⟨current, _, moved, delivered⟩ := run_delivered input stored
  rw [reached] at moved delivered
  have position : durable plan (earlier ++ [input]) = current.sequenceNumber := by
    rw [durable, replay_snoc]
    exact (paced.append moved).checkpointAfter_eq
  rw [position]
  exact delivered

/-- Exactly-once delivery of the paced replay, with a mark for the attempts of the run itself. -/
theorem paced_replay_exactly_once (F : Type) [PyFloat F] (h : Host) (plan : ReplayPlan h)
    (inputs : List (RunInput F)) : ExactlyOnce plan inputs := by
  have recorded : Recorded plan (replay plan inputs) := run_recorded inputs
  obtain ⟨paced, checkpoint, stored, reached⟩ := recorded
  refine ⟨fun before e o after split => ?_, fun before c after split => ?_,
    ⟨checkpoint, stored, reached⟩, fun before after split e member below => ?_,
    fun before after split e o member => paced.not_resent split member,
    fun earlier input later _ => replay_delivered earlier input⟩
  · have following := paced.attempted split
    exact ⟨following, plan.sequenceNumber_of_get following⟩
  · have built := paced.advanced split
    have number := plan.checkpointForSequence_sequence built
    exact ⟨number, number.symm ▸ built⟩
  · obtain ⟨i, found⟩ := List.mem_iff_getElem?.mp member
    have number := plan.sequenceNumber_of_get found
    obtain ⟨r, sent, confirms⟩ := paced.confirmed split found (Nat.zero_le i) (by omega)
    exact ⟨r, sent, confirms, confirms.2.1.trans (plan.identified e member).sourceEvent⟩

end Run

/-! An attempt that an earlier run left without an answer. -/
namespace Unmarked

/-- Exact numbers, and the negative infinity. -/
inductive Exact where
  | negInf
  | fin (q : ℚ)

namespace Exact

def add : Exact → Exact → Exact
  | .fin a, .fin b => .fin (a + b)
  | _, _ => .negInf

def sub : Exact → Exact → Exact
  | .fin a, .fin b => .fin (a - b)
  | _, _ => .negInf

def div : Exact → Exact → Exact
  | .fin a, .fin b => .fin (a / b)
  | _, _ => .negInf

def lt : Exact → Exact → Bool
  | .fin a, .fin b => decide (a < b)
  | .negInf, .fin _ => true
  | _, .negInf => false

def le (a b : Exact) : Bool := !lt b a

def isFinite : Exact → Bool
  | .negInf => false
  | .fin _ => true

instance : PyFloat Exact where
  add := add
  sub := sub
  div := div
  lt := lt
  le := le
  isFinite := isFinite
  ofRat := .fin
  negInf := .negInf

end Exact

def unidentified : ReplayEvent where
  sequenceNumber := 1
  sourceEventId := ""
  idempotencyKey := ""
  datasetId := "dataset"
  datasetVersion := "1"
  scenario := "scenario"
  lockId := "lock"
  sourceObservationId := "observation"
  replayObservedAt := 0
  scheduledOffsetSeconds := 0
  resourceId := "cell"
  technology := .fiveGSa
  metrics := [("sinr", 1)]
  units := [("sinr", "dB")]
  qualityFlags := []
  payloadSha256 := ""

def identify (h : Host) (e : ReplayEvent) : ReplayEvent :=
  let sourced := { e with
    payloadSha256 := e.expectedPayload h
    sourceEventId := e.expectedSourceEvent h }
  { sourced with idempotencyKey := sourced.expectedIdempotency h }

theorem identify_identified (h : Host) (e : ReplayEvent) : (identify h e).Identified h :=
  ⟨rfl, rfl, rfl⟩

def event : ReplayEvent := identify Host.ascii unidentified

def plan : ReplayPlan Host.ascii where
  planId := "plan"
  policy := { endpoint := "http://localhost:8080/", actionMode := .simulate }
  events := [event]
  nonempty := by simp
  contiguous := rfl
  identified e member := by
    cases List.mem_singleton.mp member
    exact identify_identified _ _

def first : RunInput Exact where
  sinkPolicy := plan.policy
  started := some (.fin 0)
  realStarted := .fin 0
  rounds := [{
    now := some (.fin 0)
    realNow := .fin 0
    started := some (.fin 0)
    realStarted := .fin 0
    emission := .cancelled }]

def second : RunInput Exact where
  sinkPolicy := plan.policy
  deadlineSeconds := some (some (.fin 1))
  started := some (.fin 0)
  realStarted := .fin 0
  rounds := [{
    now := some (.fin 2)
    realNow := .fin 2
    realStarted := .fin 2
    elapsed := some (.fin 2) }]

def attempted : Bool := match (replay plan [first]).trace with
  | [.attempt e .cancelled] => e.sequenceNumber = 1
  | _ => false

def unmarked : Bool :=
  match (runPersistentPacedReplay plan (replay plan [first]).file second).ends.evidence with
  | some e => e.uncertainSequenceNumber.isNone && decide (e.checkpoint.sequenceNumber = 0)
  | none => false

theorem runs_unmarked : attempted = true ∧ unmarked = true := by decide +kernel

theorem unanswered : Unanswered 1 (replay plan ([first] ++ [second])).trace := by
  have sent := runs_unmarked.1
  unfold attempted at sent
  split at sent
  · next e trace =>
    refine ⟨e, .cancelled, ?_, of_decide_eq_true sent, rfl⟩
    rw [replay_snoc, Replay.next, trace]
    exact List.mem_cons_self
  · cases sent

end Unmarked

/-- The report of a run says nothing of an unanswered attempt of an earlier run. -/
theorem earlier_attempt_not_marked : ¬ ∀ (F : Type) [PyFloat F] (h : Host) (plan : ReplayPlan h)
    (earlier : List (RunInput F)) (input : RunInput F),
    Delivered plan input (durable plan earlier) (durable plan (earlier ++ [input]))
      (replay plan (earlier ++ [input])).trace
      (runPersistentPacedReplay plan (replay plan earlier).file input) := by
  intro claimed
  have delivered := claimed Unmarked.Exact Host.ascii Unmarked.plan [Unmarked.first] Unmarked.second
  have unmarked := Unmarked.runs_unmarked.2
  unfold Unmarked.unmarked at unmarked
  split at unmarked
  · next e reported =>
    obtain ⟨none, start⟩ := Bool.and_eq_true_iff.mp unmarked
    have built := (delivered.delivered e reported).2
    have position := Unmarked.plan.checkpointForSequence_sequence built
    rw [of_decide_eq_true start] at position
    have marked := (delivered.uncertain e reported 1).mpr
      ⟨by rw [← position], Unmarked.unanswered⟩
    rw [marked] at none
    cases none
  · cases unmarked

end NetworkAgent.Lab
