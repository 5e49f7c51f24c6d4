import NetworkAgent.Library.Cumulative
import NetworkAgent.Lab.PacedRunner
import NetworkAgent.Lab.Wire

/-! The immediate delivery of a finite selection of a plan to the loopback sink. The checkpoint
that is returned moves over what was acknowledged without a gap. -/
namespace NetworkAgent.Lab.Loopback
open Checks (require)
open Cumulative (Window Settled)

/-! The selection. -/

/-- `ReplayWirePayload.from_event`, for an event of the bundle. -/
def wire (bundleId : String) (e : ReplayEvent) : ReplayWirePayload := {
  sourceEventId := e.sourceEventId
  idempotencyKey := e.idempotencyKey
  payloadSha256 := e.payloadSha256
  lockId := e.lockId
  bundleId := bundleId
  sourceObservationId := e.sourceObservationId
  datasetId := e.datasetId
  datasetVersion := e.datasetVersion
  scenario := e.scenario
  replayObservedAt := e.replayObservedAt
  resourceId := e.resourceId
  technology := e.technology
  metrics := e.metrics
  units := e.units
  qualityFlags := e.qualityFlags }

instance (w : ReplayWirePayload) : Decidable w.Typed :=
  decidable_of_iff ((w.payloadSha256.length = 64 ∧ w.payloadSha256.toList.all Sha256.isHexDigit) ∧
      isSafeName w.datasetId ∧ isSafeName w.datasetVersion ∧ isSafeName w.scenario ∧
      (isFrozen w.metrics ∧ ∀ m ∈ w.metrics, isMetricName m.1) ∧
      (isFrozen w.units ∧ ∀ u ∈ w.units, isMetricName u.1 ∧ isMetricUnit u.2) ∧
      ∀ flag ∈ w.qualityFlags, isSafeName flag)
    ⟨fun ⟨p, d, v, s, m, u, q⟩ => ⟨p, d, v, s, m, u, q⟩,
      fun ⟨p, d, v, s, m, u, q⟩ => ⟨p, d, v, s, m, u, q⟩⟩

instance (h : Host) (w : ReplayWirePayload) : Decidable (w.Valid h) :=
  decidable_of_iff (w.Typed ∧ w.validateWireIdentity h = .ok ())
    ⟨fun ⟨t, i⟩ => ⟨t, i⟩, fun ⟨t, i⟩ => ⟨t, i⟩⟩

/-- The loop over the selected events that bounds their payloads together. -/
def boundPayloads (h : Host) (bundleId : String) (limit : Nat) : List ReplayEvent → Nat →
    Except DeliveryCode Unit
  | [], _ => .ok ()
  | e :: rest, total => do
    require ((wire bundleId e).Valid h) .sequenceInvalid
    let total := total + (h.canonicalJson (wire bundleId e).toSinkPayload).length
    require (total ≤ limit) .sequenceInvalid
    boundPayloads h bundleId limit rest total

section
variable {h : Host}

/-- `delivery_order`; every error of it is one code for the caller. -/
def deliveryOrder (plan : ReplayPlan h) (bundleId : String) (requested : List Int) :
    Except DeliveryCode (List ReplayEvent) := do
  require (1 ≤ requested.length ∧ requested.length ≤ plan.policy.maxEvents) .sequenceInvalid
  require (∀ n ∈ requested, 1 ≤ n ∧ n ≤ plan.events.length) .sequenceInvalid
  let selected := requested.filterMap fun n => plan.events[(n - 1).toNat]?
  boundPayloads h bundleId plan.policy.maxTotalPayloadBytes selected 0
  return selected

/-! The delivery. -/

structure ReplayDeliveryResult where
  checkpoint : ReplayDeliveryCheckpoint
  selectedCount : Nat
  attemptedCount : Nat
  deliveredCount : Nat
  failedSequenceNumber : Option Nat
  errorCode : Option DeliveryCode
  selectionComplete : Bool
  planComplete : Bool
  deriving DecidableEq

/-- How a call ends: it returns, it raises one of its errors, or the end of an emission that is
not an acknowledgement or such an error passes through it. -/
inductive Ending where
  | returned (result : ReplayDeliveryResult)
  | raised (code : DeliveryCode)
  | interrupted (emission : Emission)
  deriving DecidableEq

def stopAt (plan : ReplayPlan h) (selected : List ReplayEvent) (w : Window)
    (attempted delivered : Nat) (failure : Option (Nat × DeliveryCode)) : Ending :=
  match plan.checkpointForSequence w.reached with
  | .error code => .raised code
  | .ok checkpoint => .returned {
      checkpoint
      selectedCount := selected.length
      attemptedCount := attempted
      deliveredCount := delivered
      failedSequenceNumber := failure.map (·.1)
      errorCode := failure.map (·.2)
      selectionComplete := failure.isNone
      planComplete := w.reached = plan.events.length }

/-- The loop over the selected events; `emit` says how the attempts end, in their order. -/
def deliverLoop (plan : ReplayPlan h) (selected : List ReplayEvent) (emit : Nat → Emission) :
    List ReplayEvent → Window → Nat → Nat → Ending
  | [], w, attempted, delivered => stopAt plan selected w attempted delivered none
  | event :: rest, w, attempted, delivered =>
    match emit attempted with
    | .receipt _ =>
      deliverLoop plan selected emit rest (w.acknowledge event.sequenceNumber) (attempted + 1)
        (delivered + 1)
    | .refused code =>
      stopAt plan selected w (attempted + 1) delivered (some (event.sequenceNumber, code))
    | emission => .interrupted emission

structure Sink where
  policy : ReplayPolicy
  emit : Nat → Emission

/-- The events of a call: those after the checkpoint, or the requested ones. -/
def selection (plan : ReplayPlan h) (bundleId : String) (checkpoint : Nat) :
    Option (List Int) → Except DeliveryCode (List ReplayEvent)
  | none => plan.resumeAfter checkpoint
  | some requested => deliveryOrder plan bundleId requested

def admitted (plan : ReplayPlan h) (bundleId : String) (policy : ReplayPolicy)
    (checkpoint : Option ReplayDeliveryCheckpoint) (requested : Option (List Int)) :
    Except DeliveryCode (Nat × List ReplayEvent) := do
  require (h.canonicalJson policy.toJson = h.canonicalJson plan.policy.toJson) .planInvalid
  let checkpoint ← plan.validatedCheckpoint checkpoint
  let selected ← selection plan bundleId checkpoint.sequenceNumber requested
  return (checkpoint.sequenceNumber, selected)

def deliverReplayPlan (plan : ReplayPlan h) (bundleId : String) (sink : Sink)
    (checkpoint : Option ReplayDeliveryCheckpoint) (requested : Option (List Int)) : Ending :=
  match admitted plan bundleId sink.policy checkpoint requested with
  | .error code => .raised code
  | .ok (start, selected) => deliverLoop plan selected sink.emit selected ⟨start, []⟩ 0 0

/-! What the loop maintains. -/

/-- The sequence numbers of the events that were acknowledged, in order. -/
def acknowledged (emit : Nat → Emission) : List ReplayEvent → Nat → List Nat
  | [], _ => []
  | event :: rest, attempt => match emit attempt with
    | .receipt _ => event.sequenceNumber :: acknowledged emit rest (attempt + 1)
    | _ => []

structure Reports (plan : ReplayPlan h) (start : Nat) (selected : List ReplayEvent)
    (emit : Nat → Emission) (r : ReplayDeliveryResult) : Prop where
  checkpoint : plan.checkpointForSequence r.checkpoint.sequenceNumber = .ok r.checkpoint
  greatest : IsGreatest {n | start ≤ n ∧ ∀ s, start < s → s ≤ n →
    s ∈ acknowledged emit selected 0} r.checkpoint.sequenceNumber
  selectedCount : r.selectedCount = selected.length
  delivered : r.deliveredCount = (acknowledged emit selected 0).length
  ends : (r.attemptedCount = selected.length ∧ r.deliveredCount = selected.length ∧
      r.failedSequenceNumber = none ∧ r.errorCode = none ∧ r.selectionComplete = true) ∨
    ∃ event code, selected[r.deliveredCount]? = some event ∧
      emit r.deliveredCount = .refused code ∧ r.attemptedCount = r.deliveredCount + 1 ∧
      r.failedSequenceNumber = some event.sequenceNumber ∧ r.errorCode = some code ∧
      r.selectionComplete = false
  planComplete : r.planComplete = decide (r.checkpoint.sequenceNumber = plan.events.length)

section
variable {plan : ReplayPlan h} {emit : Nat → Emission} {start : Nat} {w : Window}

theorem stopAt_returned {selected : List ReplayEvent} {attempted delivered : Nat}
    {failure : Option (Nat × DeliveryCode)} {r : ReplayDeliveryResult}
    (stopped : stopAt plan selected w attempted delivered failure = .returned r) :
    plan.checkpointForSequence w.reached = .ok r.checkpoint ∧
      r.checkpoint.sequenceNumber = w.reached ∧ r.selectedCount = selected.length ∧
      r.attemptedCount = attempted ∧ r.deliveredCount = delivered ∧
      r.failedSequenceNumber = failure.map (·.1) ∧ r.errorCode = failure.map (·.2) ∧
      r.selectionComplete = failure.isNone ∧
      r.planComplete = decide (w.reached = plan.events.length) := by
  unfold stopAt at stopped
  split at stopped
  · cases stopped
  · next built =>
    cases stopped
    exact ⟨built, plan.checkpointForSequence_sequence built, rfl, rfl, rfl, rfl, rfl, rfl, rfl⟩

theorem stopAt_total (bound : w.reached ≤ plan.events.length) (selected : List ReplayEvent)
    (attempted delivered : Nat) (failure : Option (Nat × DeliveryCode)) :
    ∃ r, stopAt plan selected w attempted delivered failure = .returned r := by
  obtain ⟨c, built⟩ := plan.checkpointForSequence_ok bound
  unfold stopAt
  rw [built]
  exact ⟨_, rfl⟩

theorem deliverLoop_reports {done rest : List ReplayEvent} {r : ReplayDeliveryResult}
    (settled : Settled start (done.map (·.sequenceNumber)) w)
    (prior : acknowledged emit (done ++ rest) 0 =
      done.map (·.sequenceNumber) ++ acknowledged emit rest done.length)
    (delivered : deliverLoop plan (done ++ rest) emit rest w done.length done.length =
      .returned r) : Reports plan start (done ++ rest) emit r := by
  induction rest generalizing done w with
  | nil =>
    obtain ⟨built, same, selected, attempted, count, failed, code, complete, planComplete⟩ :=
      stopAt_returned delivered
    refine ⟨same ▸ built, ?_, selected, ?_, .inl ⟨?_, ?_, failed, code, complete⟩, same ▸ planComplete⟩
    · rw [same, prior, acknowledged, List.append_nil]
      exact settled.isGreatest
    · rw [count, prior]
      simp [acknowledged]
    · rw [attempted, List.append_nil]
    · rw [count, List.append_nil]
  | cons event rest ih =>
    rw [deliverLoop] at delivered
    cases outcome : emit done.length with
    | receipt receipt =>
      rw [outcome] at delivered
      have again : done ++ event :: rest = (done ++ [event]) ++ rest := by simp
      rw [again] at prior delivered ⊢
      have next := settled.acknowledge event.sequenceNumber
      refine ih (by simpa using next) ?_ (by simpa using delivered)
      rw [prior, acknowledged, outcome]
      simp
    | refused code' =>
      rw [outcome] at delivered
      obtain ⟨built, same, selected, attempted, count, failed, code, complete, planComplete⟩ :=
        stopAt_returned delivered
      have none : acknowledged emit (event :: rest) done.length = [] := by
        rw [acknowledged, outcome]
      rw [none, List.append_nil] at prior
      refine ⟨same ▸ built, ?_, selected, ?_, .inr ⟨event, code', ?_, ?_, ?_, failed, code,
        complete⟩, same ▸ planComplete⟩
      · rw [same, prior]
        exact settled.isGreatest
      · rw [count, prior, List.length_map]
      · rw [count]
        simp
      · rw [count]
        exact outcome
      · rw [attempted, count]
    | cancelled => rw [outcome] at delivered; cases delivered
    | timedOut => rw [outcome] at delivered; cases delivered
    | raised => rw [outcome] at delivered; cases delivered
    | crashed => rw [outcome] at delivered; cases delivered

theorem reached_le {done : List ReplayEvent} (settled : Settled start (done.map (·.sequenceNumber)) w)
    (bound : start ≤ plan.events.length) (own : ∀ e ∈ done, e ∈ plan.events) :
    w.reached ≤ plan.events.length := by
  rcases Nat.lt_or_ge start w.reached with moved | still
  · obtain ⟨e, member, same⟩ := List.mem_map.mp (settled.reached_mem moved)
    obtain ⟨n, found⟩ := List.mem_iff_getElem?.mp (own e member)
    have inside := (List.getElem?_eq_some_iff.mp found).1
    rw [← same, plan.sequenceNumber_of_get found]
    omega
  · omega

/-- An attempt that ends for the helper: it is acknowledged, or fails with one of the codes. -/
def Answered (emission : Emission) : Prop :=
  (∃ receipt, emission = .receipt receipt) ∨ ∃ code, emission = .refused code

theorem deliverLoop_total (answered : ∀ n, Answered (emit n)) {selected done rest : List ReplayEvent}
    (settled : Settled start (done.map (·.sequenceNumber)) w) (bound : start ≤ plan.events.length)
    (own : ∀ e ∈ done ++ rest, e ∈ plan.events) (attempted delivered : Nat) :
    ∃ r, deliverLoop plan selected emit rest w attempted delivered = .returned r := by
  induction rest generalizing done w attempted delivered with
  | nil =>
    rw [List.append_nil] at own
    exact stopAt_total (reached_le settled bound own) _ _ _ _
  | cons event rest ih =>
    rw [deliverLoop]
    rcases answered attempted with ⟨receipt, outcome⟩ | ⟨code, outcome⟩
    · rw [outcome]
      have again : done ++ event :: rest = (done ++ [event]) ++ rest := by simp
      have next : Settled start ((done ++ [event]).map (·.sequenceNumber))
          (w.acknowledge event.sequenceNumber) := by
        simpa using settled.acknowledge event.sequenceNumber
      exact ih next (again ▸ own) _ _
    · rw [outcome]
      exact stopAt_total (reached_le settled bound fun e member =>
        own e (List.mem_append_left _ member)) _ _ _ _

end

/-! Calls. -/

section
variable {plan : ReplayPlan h} {bundleId : String} {policy : ReplayPolicy} {start : Nat}
  {checkpoint : Option ReplayDeliveryCheckpoint} {requested : Option (List Int)}
  {selected : List ReplayEvent}

theorem selection_own (chosen : selection plan bundleId start requested = .ok selected) :
    ∀ e ∈ selected, e ∈ plan.events := by
  intro e member
  cases requested with
  | none =>
    unfold selection ReplayPlan.resumeAfter at chosen
    dsimp only at chosen
    split at chosen
    · cases chosen
      exact List.mem_of_mem_drop member
    · cases chosen
  | some numbers =>
    obtain ⟨_, chosen⟩ := Checks.seq_ok.mp chosen
    obtain ⟨_, chosen⟩ := Checks.seq_ok.mp chosen
    obtain ⟨_, same⟩ := Checks.seq_ok.mp chosen
    cases same
    obtain ⟨n, _, found⟩ := List.mem_filterMap.mp member
    exact List.mem_of_getElem? found

theorem admitted_ok (passed : admitted plan bundleId policy checkpoint requested =
    .ok (start, selected)) :
    start ≤ plan.events.length ∧ (∀ e ∈ selected, e ∈ plan.events) ∧
      ∃ c, plan.validatedCheckpoint checkpoint = .ok c ∧ c.sequenceNumber = start := by
  obtain ⟨_, passed⟩ := Checks.seq_ok.mp passed
  obtain ⟨c, valid, passed⟩ := Checks.bind_ok.mp passed
  obtain ⟨chosen, found, same⟩ := Checks.bind_ok.mp passed
  cases same
  refine ⟨?_, selection_own found, c, valid, rfl⟩
  have built := plan.validatedCheckpoint_built valid
  unfold ReplayPlan.checkpointForSequence at built
  split at built
  · next zero => rw [zero]; exact Nat.zero_le _
  · next n next =>
    rw [next]
    split at built
    · next found => exact (List.getElem?_eq_some_iff.mp found).1
    · cases built

theorem deliverReplayPlan_eq {sink : Sink}
    (passed : admitted plan bundleId sink.policy checkpoint requested = .ok (start, selected)) :
    deliverReplayPlan plan bundleId sink checkpoint requested =
      deliverLoop plan selected sink.emit selected ⟨start, []⟩ 0 0 := by
  unfold deliverReplayPlan
  generalize admitted plan bundleId sink.policy checkpoint requested = outcome at passed
  subst passed
  rfl

theorem deliverReplayPlan_reports {sink : Sink} {r : ReplayDeliveryResult}
    (passed : admitted plan bundleId sink.policy checkpoint requested = .ok (start, selected))
    (returned : deliverReplayPlan plan bundleId sink checkpoint requested = .returned r) :
    Reports plan start selected sink.emit r := by
  rw [deliverReplayPlan_eq passed] at returned
  have fresh : Settled start (([] : List ReplayEvent).map (·.sequenceNumber)) _ :=
    Cumulative.settled_start start
  exact deliverLoop_reports fresh rfl returned

theorem deliverReplayPlan_total {sink : Sink}
    (passed : admitted plan bundleId sink.policy checkpoint requested = .ok (start, selected))
    (answered : ∀ n, Answered (sink.emit n)) :
    ∃ r, deliverReplayPlan plan bundleId sink checkpoint requested = .returned r := by
  obtain ⟨bound, own, _⟩ := admitted_ok passed
  rw [deliverReplayPlan_eq passed]
  have fresh : Settled start (([] : List ReplayEvent).map (·.sequenceNumber)) _ :=
    Cumulative.settled_start start
  exact deliverLoop_total answered fresh bound own 0 0

end

/-- Calls one after another, each from the checkpoint that the one before it returned, with the
sequence numbers that they acknowledged. -/
inductive Chain (plan : ReplayPlan h) (bundleId : String) (start : Nat) :
    ReplayDeliveryCheckpoint → List Nat → Prop where
  | start {c : ReplayDeliveryCheckpoint} (built : plan.checkpointForSequence start = .ok c) :
      Chain plan bundleId start c []
  | call {c : ReplayDeliveryCheckpoint} {acked : List Nat} {sink : Sink}
      {requested : Option (List Int)} {selected : List ReplayEvent} {r : ReplayDeliveryResult}
      (before : Chain plan bundleId start c acked)
      (passed : admitted plan bundleId sink.policy (some c) requested =
        .ok (c.sequenceNumber, selected))
      (returned : deliverReplayPlan plan bundleId sink (some c) requested = .returned r) :
      Chain plan bundleId start r.checkpoint (acked ++ acknowledged sink.emit selected 0)

theorem Chain.acknowledged {plan : ReplayPlan h} {bundleId : String} {start : Nat}
    {c : ReplayDeliveryCheckpoint} {acked : List Nat} (chain : Chain plan bundleId start c acked) :
    ∀ s, start < s → s ≤ c.sequenceNumber → s ∈ acked := by
  induction chain with
  | start built =>
    intro s after upTo
    rw [plan.checkpointForSequence_sequence built] at upTo
    omega
  | call before passed returned ih =>
    intro s after upTo
    have reports := deliverReplayPlan_reports passed returned
    rcases Nat.lt_or_ge _ s with later | earlier
    · exact List.mem_append_right _ (reports.greatest.1.2 s later upTo)
    · exact List.mem_append_left _ (ih s after earlier)

/-- A call that is admitted reports the greatest number up to which it acknowledged everything
after its start, with exact counts; a chain of calls acknowledges all up to its checkpoint. -/
theorem delivery_checkpoint_is_greatest (plan : ReplayPlan h) (bundleId : String) :
    (∀ (sink : Sink) (checkpoint : Option ReplayDeliveryCheckpoint)
      (requested : Option (List Int)) (start : Nat) (selected : List ReplayEvent),
      admitted plan bundleId sink.policy checkpoint requested = .ok (start, selected) →
      (∀ r, deliverReplayPlan plan bundleId sink checkpoint requested = .returned r →
        Reports plan start selected sink.emit r) ∧
      ((∀ n, Answered (sink.emit n)) →
        ∃ r, deliverReplayPlan plan bundleId sink checkpoint requested = .returned r)) ∧
    ∀ (start : Nat) (c : ReplayDeliveryCheckpoint) (acked : List Nat),
      Chain plan bundleId start c acked → ∀ s, start < s → s ≤ c.sequenceNumber → s ∈ acked :=
  ⟨fun _ _ _ _ _ passed => ⟨fun _ => deliverReplayPlan_reports passed,
    deliverReplayPlan_total passed⟩, fun _ _ _ chain => chain.acknowledged⟩

end

/-! A plan of two events, of which the second fails. -/
namespace Interrupted

def hex (c : Char) : String := String.ofList (List.replicate 64 c)

def identify (e : ReplayEvent) : ReplayEvent :=
  let payload := e.expectedPayload Host.ascii
  let source := e.expectedSourceEvent Host.ascii
  { e with
    payloadSha256 := payload
    sourceEventId := source
    idempotencyKey := ({ e with sourceEventId := source }).expectedIdempotency Host.ascii }

theorem identify_identified (e : ReplayEvent) : (identify e).Identified Host.ascii := ⟨rfl, rfl, rfl⟩

def event (number : Nat) : ReplayEvent := identify {
  sequenceNumber := number
  sourceEventId := ""
  idempotencyKey := ""
  datasetId := "d"
  datasetVersion := "1"
  scenario := "s"
  lockId := "lablock-" ++ hex 'a'
  sourceObservationId := "labobs-" ++ hex 'b'
  replayObservedAt := 1000000 * number
  scheduledOffsetSeconds := 0
  resourceId := "r"
  technology := .lte
  metrics := [("ran.mac.dl_mcs", number)]
  units := [("ran.mac.dl_mcs", "index")]
  qualityFlags := []
  payloadSha256 := "" }

def plan : ReplayPlan Host.ascii where
  planId := "labplan"
  policy := { endpoint := "http://127.0.0.1:1/", actionMode := .disabled }
  events := [event 1, event 2]
  nonempty := by simp
  contiguous := rfl
  identified e member := by
    rcases List.mem_cons.mp member with rfl | later
    · exact identify_identified _
    · cases List.mem_singleton.mp later
      exact identify_identified _

def bundleId : String := "labbundle-" ++ hex 'c'

def sink : Sink where
  policy := plan.policy
  emit
    | 0 => .receipt ⟨1, "labevent", 202, 0⟩
    | _ => .refused .timeout

theorem passed : admitted plan bundleId sink.policy none none = .ok (0, [event 1, event 2]) :=
  Checks.seq_ok.mpr ⟨Checks.require_ok.mpr rfl, rfl⟩

theorem answered (n : Nat) : Answered (sink.emit n) := by
  cases n with
  | zero => exact .inl ⟨_, rfl⟩
  | succ n => exact .inr ⟨_, rfl⟩

end Interrupted

theorem delivery_checkpoint_is_greatest_interrupted : ∃ r,
    deliverReplayPlan Interrupted.plan Interrupted.bundleId Interrupted.sink none none =
      .returned r ∧ r.checkpoint.sequenceNumber = 1 ∧ r.deliveredCount = 1 ∧
      r.attemptedCount = 2 ∧ r.failedSequenceNumber = some 2 := by
  obtain ⟨reports, total⟩ := (delivery_checkpoint_is_greatest Interrupted.plan
    Interrupted.bundleId).1 Interrupted.sink none none 0 _ Interrupted.passed
  obtain ⟨r, returned⟩ := total Interrupted.answered
  have report := reports r returned
  have acked : acknowledged Interrupted.sink.emit [Interrupted.event 1, Interrupted.event 2] 0 =
    [1] := rfl
  have delivered : r.deliveredCount = 1 := by rw [report.delivered, acked]; rfl
  have greatest := report.greatest
  rw [acked] at greatest
  refine ⟨r, returned, le_antisymm ?_ ?_, delivered, ?_⟩
  · by_contra moved
    have second := greatest.1.2 2 (by decide) (by omega)
    simp at second
  · exact greatest.2 ⟨Nat.zero_le 1, fun s after upTo => by simp; omega⟩
  · rcases report.ends with ⟨_, all, _⟩ | ⟨event, code, found, _, attempted, failed, _⟩
    · rw [delivered] at all
      cases all
    · rw [delivered] at found attempted
      cases found
      exact ⟨attempted, failed⟩

end NetworkAgent.Lab.Loopback
