import NetworkAgent.Lab.PacedRunner

/-! What the rounds of a run send and commit, and what the run then reports. -/
namespace NetworkAgent.Lab
open PyFloat

def Emission.unknown : Emission → Bool
  | .receipt _ => false
  | .refused code => isTransient code
  | .cancelled | .timedOut | .raised | .crashed => true

def End.evidence {F : Type} : End F → Option PacedReplayCancelled
  | .returned r => some ⟨r.checkpoint, r.attemptedCount, r.deliveredCount, r.retryCount,
      r.uncertainSequenceNumber⟩
  | .cancelled e => some e
  | .delivery _ | .checkpoint _ | .raised | .crashed => none

def attempts : List Entry → Nat
  | [] => 0
  | .attempt _ _ :: rest => attempts rest + 1
  | .durable _ :: rest => attempts rest

theorem attempts_append (before after : List Entry) :
    attempts (before ++ after) = attempts before + attempts after := by
  induction before with
  | nil => simp [attempts]
  | cons x rest ih =>
    cases x with
    | attempt e o => simp only [List.cons_append, attempts, ih]; omega
    | durable c => simp only [List.cons_append, attempts, ih]

/-- The last durable sequence number, from the one at the start. -/
def checkpointAfter (n : Nat) : List Entry → Nat
  | [] => n
  | .attempt _ _ :: rest => checkpointAfter n rest
  | .durable c :: rest => checkpointAfter c.sequenceNumber rest

/-- Every attempt is of the event after the checkpoint, and every durable checkpoint is the
one of an event whose attempt just before it was confirmed. -/
inductive Paced {h : Host} (plan : ReplayPlan h) : Nat → List Entry → Nat → Prop
  | nil (n : Nat) : Paced plan n [] n
  | attempt {n m : Nat} {e : ReplayEvent} (emission : Emission) {rest : List Entry}
      (following : plan.events[n]? = some e) (later : Paced plan n rest m) :
      Paced plan n (.attempt e emission :: rest) m
  | durable {n m : Nat} {e : ReplayEvent} {r : ReplayDeliveryReceipt}
      {c : ReplayDeliveryCheckpoint} {rest : List Entry} (following : plan.events[n]? = some e)
      (confirmed : r.Confirms e) (built : plan.checkpointForSequence (n + 1) = .ok c)
      (later : Paced plan (n + 1) rest m) :
      Paced plan n (.attempt e (.receipt r) :: .durable c :: rest) m

namespace Paced
variable {h : Host} {plan : ReplayPlan h} {n m k : Nat} {before after entries : List Entry}

theorem append (first : Paced plan n before m) (second : Paced plan m after k) :
    Paced plan n (before ++ after) k := by
  induction first with
  | nil n => exact second
  | attempt emission following _ ih => exact .attempt emission following (ih second)
  | durable following confirmed built _ ih => exact .durable following confirmed built (ih second)

theorem checkpointAfter_eq (paced : Paced plan n entries m) : checkpointAfter n entries = m := by
  induction paced with
  | nil n => rfl
  | attempt emission following _ ih => exact ih
  | durable following confirmed built _ ih =>
    rw [checkpointAfter, checkpointAfter, plan.checkpointForSequence_sequence built]
    exact ih

theorem attempted (paced : Paced plan n entries m) {e : ReplayEvent} {o : Emission}
    (split : entries = before ++ .attempt e o :: after) :
    plan.events[checkpointAfter n before]? = some e := by
  induction paced generalizing before with
  | nil n => simp at split
  | attempt emission following _ ih =>
    cases before with
    | nil =>
      cases split
      exact following
    | cons x before =>
      cases split
      rw [checkpointAfter]
      exact ih rfl
  | durable following confirmed built _ ih =>
    match before with
    | [] =>
      cases split
      exact following
    | [x] => cases split
    | x :: y :: before =>
      cases split
      rw [checkpointAfter, checkpointAfter, plan.checkpointForSequence_sequence built]
      exact ih rfl

theorem advanced (paced : Paced plan n entries m) {c : ReplayDeliveryCheckpoint}
    (split : entries = before ++ .durable c :: after) :
    plan.checkpointForSequence (checkpointAfter n before + 1) = .ok c := by
  induction paced generalizing before with
  | nil n => simp at split
  | attempt emission following _ ih =>
    cases before with
    | nil => cases split
    | cons x before =>
      cases split
      rw [checkpointAfter]
      exact ih rfl
  | durable following confirmed built _ ih =>
    match before with
    | [] => cases split
    | [x] =>
      cases split
      exact built
    | x :: y :: before =>
      cases split
      rw [checkpointAfter, checkpointAfter, plan.checkpointForSequence_sequence built]
      exact ih rfl

theorem confirmed (paced : Paced plan n entries m) (split : entries = before ++ after) {i : Nat}
    {e : ReplayEvent} (found : plan.events[i]? = some e) (beyond : n ≤ i)
    (reached : i < checkpointAfter n before) :
    ∃ r, .attempt e (.receipt r) ∈ before ∧ r.Confirms e := by
  induction paced generalizing before with
  | nil n =>
    obtain ⟨rfl, rfl⟩ := List.append_eq_nil_iff.mp split.symm
    exact absurd reached (Nat.not_lt.mpr beyond)
  | attempt emission following _ ih =>
    cases before with
    | nil => exact absurd reached (Nat.not_lt.mpr beyond)
    | cons x before =>
      cases split
      obtain ⟨r, member, confirms⟩ := ih rfl beyond reached
      exact ⟨r, List.mem_cons_of_mem _ member, confirms⟩
  | @durable n m e' r c rest following confirms built _ ih =>
    match before with
    | [] => exact absurd reached (Nat.not_lt.mpr beyond)
    | [x] =>
      cases split
      exact absurd reached (Nat.not_lt.mpr beyond)
    | x :: y :: before =>
      cases split
      rw [checkpointAfter, checkpointAfter, plan.checkpointForSequence_sequence built] at reached
      rcases Nat.eq_or_lt_of_le beyond with same | later
      · rw [← same, following] at found
        cases found
        exact ⟨r, List.mem_cons_self, confirms⟩
      · obtain ⟨r, member, confirms⟩ := ih rfl later reached
        exact ⟨r, List.mem_cons_of_mem _ (List.mem_cons_of_mem _ member), confirms⟩

theorem le (paced : Paced plan n entries m) : n ≤ m := by
  induction paced with
  | nil n => exact le_rfl
  | attempt emission following _ ih => exact ih
  | durable following confirmed built _ ih => omega

theorem sequence_le (paced : Paced plan n entries m) {e : ReplayEvent} {o : Emission}
    (member : .attempt e o ∈ entries) : e.sequenceNumber ≤ m + 1 := by
  induction paced with
  | nil n => cases member
  | attempt emission following later ih =>
    have bound := later.le
    have number := plan.sequenceNumber_of_get following
    rcases List.mem_cons.mp member with same | member
    · cases same
      omega
    · exact ih member
  | durable following confirmed built later ih =>
    have bound := later.le
    have number := plan.sequenceNumber_of_get following
    rcases List.mem_cons.mp member with same | member
    · cases same
      omega
    · rcases List.mem_cons.mp member with same | member
      · cases same
      · exact ih member

theorem lt_sequence (paced : Paced plan n entries m) {e : ReplayEvent} {o : Emission}
    (member : .attempt e o ∈ entries) : n < e.sequenceNumber := by
  induction paced with
  | nil n => cases member
  | attempt emission following later ih =>
    have number := plan.sequenceNumber_of_get following
    rcases List.mem_cons.mp member with same | member
    · cases same
      omega
    · exact ih member
  | durable following confirmed built later ih =>
    have number := plan.sequenceNumber_of_get following
    rcases List.mem_cons.mp member with same | member
    · cases same
      omega
    · rcases List.mem_cons.mp member with same | member
      · cases same
      · have beyond := ih member
        omega

theorem not_resent (paced : Paced plan n entries m) (split : entries = before ++ after)
    {e : ReplayEvent} {o : Emission} (member : .attempt e o ∈ after) :
    checkpointAfter n before < e.sequenceNumber := by
  have whole := paced
  induction paced generalizing before with
  | nil n =>
    obtain ⟨rfl, rfl⟩ := List.append_eq_nil_iff.mp split.symm
    cases member
  | attempt emission following later ih =>
    cases before with
    | nil =>
      cases split
      exact whole.lt_sequence member
    | cons x before =>
      cases split
      rw [checkpointAfter]
      exact ih rfl later
  | durable following confirmed built later ih =>
    match before with
    | [] =>
      cases split
      exact whole.lt_sequence member
    | [x] =>
      cases split
      exact whole.lt_sequence (List.mem_cons_of_mem _ member)
    | x :: y :: before =>
      cases split
      rw [checkpointAfter, checkpointAfter, plan.checkpointForSequence_sequence built]
      exact ih rfl later

end Paced

/-! What one round does. -/

structure Evidence {F : Type} {h : Host} (plan : ReplayPlan h) (s : Loop F)
    (uncertain : Option Nat) (e : PacedReplayCancelled) : Prop where
  checkpoint : plan.checkpointForSequence s.checkpointSequence = .ok e.checkpoint
  attempted : e.attemptedCount = s.attemptedCount
  delivered : e.deliveredCount = s.deliveredCount
  uncertain : e.uncertainSequenceNumber = uncertain

namespace Schedule
section Reports
variable {F : Type} {h : Host} {c : Schedule F h} {s s' : Loop F} {ends : End F}
  {uncertain : Option Nat}

structure Reports (c : Schedule F h) (s : Loop F) (uncertain : Option Nat) (ends : End F) : Prop where
  selected : ∀ r, ends = .returned r → r.selectedCount = c.selectedCount
  evidence : ∀ e, ends.evidence = some e → Evidence c.plan s uncertain e

theorem Reports.same (told : c.Reports s' uncertain ends)
    (checkpoint : s'.checkpointSequence = s.checkpointSequence)
    (attempted : s'.attemptedCount = s.attemptedCount)
    (delivered : s'.deliveredCount = s.deliveredCount) : c.Reports s uncertain ends where
  selected := told.selected
  evidence e known := by
    obtain ⟨built, counted, confirmed, marked⟩ := told.evidence e known
    rw [checkpoint] at built
    exact ⟨built, counted.trans attempted, confirmed.trans delivered, marked⟩

theorem reports_of_silent (silent : ends.evidence = none) : c.Reports s uncertain ends where
  selected r returned := by
    rw [returned] at silent
    cases silent
  evidence e known := by
    rw [silent] at known
    cases known

theorem reports_cancelled : c.Reports s uncertain (c.cancelled s uncertain) := by
  unfold cancelled
  split
  · exact reports_of_silent rfl
  · next checkpoint built =>
    refine ⟨fun r returned => ?_, fun e known => ?_⟩
    · cases returned
    · cases known
      exact ⟨built, rfl, rfl, rfl⟩

end Reports

section Rounds
variable {F : Type} [PyFloat F] {h : Host} {c : Schedule F h} {s s' : Loop F} {round : Round F}
  {event : ReplayEvent} {rest : List ReplayEvent} {ends : End F} {uncertain : Option Nat}

theorem reports_result (raw : Reading F) (failed : Option Nat) (code : Option DeliveryCode)
    (deadline : Bool) : c.Reports s uncertain (c.result s raw failed code deadline uncertain) := by
  unfold result
  split
  · exact reports_of_silent rfl
  · exact reports_of_silent rfl
  · next checkpoint elapsed built _ =>
    refine ⟨fun r returned => ?_, fun e known => ?_⟩
    · cases returned
      rfl
    · cases known
      exact ⟨built, rfl, rfl, rfl⟩

theorem reports_deadline (flag : Bool) :
    c.Reports s (uncertainEvent event flag) (c.deadlineResult s round event flag) :=
  reports_result _ _ _ _

theorem await_reports (stopped : c.await s round event = .error ends) :
    c.Reports s (uncertainEvent event s.eventOutcomeUncertain) ends := by
  unfold await at stopped
  split at stopped
  · cases stopped
    exact reports_of_silent rfl
  · dsimp only at stopped
    split at stopped
    · cases stopped
      exact (reports_deadline _).same rfl rfl rfl
    · split at stopped
      · split at stopped
        · cases stopped
          exact reports_of_silent rfl
        · cases stopped
          exact reports_cancelled.same rfl rfl rfl
        · cases stopped
          exact (reports_deadline _).same rfl rfl rfl
        · cases stopped
      · cases stopped

theorem start_reports (stopped : c.start s round event = .error ends) :
    c.Reports s (uncertainEvent event s.eventOutcomeUncertain) ends := by
  unfold start at stopped
  split at stopped
  · cases stopped
    exact reports_of_silent rfl
  · dsimp only at stopped
    split at stopped
    · cases stopped
      exact (reports_deadline _).same rfl rfl rfl
    · cases stopped

/-! What one round sends and commits. -/

/-- An attempt was counted; the file and the position in the plan are as before. -/
structure Counted (s s' : Loop F) : Prop where
  file : s'.file = s.file
  checkpoint : s'.checkpointSequence = s.checkpointSequence
  pending : s'.pending = s.pending
  attempted : s'.attemptedCount = s.attemptedCount + 1
  delivered : s'.deliveredCount = s.deliveredCount

/-- The commit of a confirmed event leaves the file as it was, or the next checkpoint in it. -/
inductive Committed (c : Schedule F h) (s : Loop F) (event : ReplayEvent)
    (rest : List ReplayEvent) : Turn F → Prop
  | kept {ends : End F} (silent : ends.evidence = none) :
      Committed c s event rest ⟨[], s.file, .error ends⟩
  | replaced {ends : End F} {candidate : ReplayDeliveryCheckpoint}
      (built : c.plan.checkpointForSequence event.sequenceNumber = .ok candidate)
      (silent : ends.evidence = none) :
      Committed c s event rest ⟨[.durable candidate], some candidate, .error ends⟩
  | advanced {candidate : ReplayDeliveryCheckpoint}
      (built : c.plan.checkpointForSequence event.sequenceNumber = .ok candidate) :
      Committed c s event rest
        ⟨[.durable candidate], some candidate, .ok (delivered s event rest (some candidate))⟩

/-- Everything that a round can do. -/
inductive Turned (c : Schedule F h) (s : Loop F) (event : ReplayEvent)
    (rest : List ReplayEvent) : Turn F → Prop
  | waited {ends : End F}
      (reports : c.Reports s (uncertainEvent event s.eventOutcomeUncertain) ends) :
      Turned c s event rest ⟨[], s.file, .error ends⟩
  | failed {ends : End F} {s' : Loop F} {o : Emission} (counted : Counted s s')
      (reports : c.Reports s' (uncertainEvent event (s.eventOutcomeUncertain || o.unknown)) ends) :
      Turned c s event rest ⟨[.attempt event o], s.file, .error ends⟩
  | retried {s' : Loop F} {code : DeliveryCode} (counted : Counted s s')
      (transient : isTransient code = true) (index : s'.retryIndex = s.retryIndex + 1)
      (allowed : s.retryIndex < c.backoffs.length) (marked : s'.eventOutcomeUncertain = true) :
      Turned c s event rest ⟨[.attempt event (.refused code)], s.file, .ok s'⟩
  | accepted {s' : Loop F} {r : ReplayDeliveryReceipt} {t : Turn F} (counted : Counted s s')
      (confirmed : r.Confirms event) (committed : Committed c s' event rest t) :
      Turned c s event rest { t with entries := .attempt event (.receipt r) :: t.entries }

theorem commit_committed {n : Nat} {current : ReplayDeliveryCheckpoint}
    (stored : readLocked c.plan s.file = .ok current) (reached : current.sequenceNumber = n)
    (following : c.plan.events[n]? = some event) :
    Committed c s event rest (c.commit s round event rest) := by
  have number := c.plan.sequenceNumber_of_get following
  have inside := (List.getElem?_eq_some_iff.mp following).1
  obtain ⟨candidate, built⟩ := c.plan.checkpointForSequence_ok (n := n + 1) inside
  have canonical : storedCheckpoint c.plan (some candidate) = .ok candidate := by
    rw [storedCheckpoint, c.plan.validatedCheckpoint_ok built]
  have beyond := c.plan.checkpointForSequence_sequence built
  have other : candidate ≠ current := fun same => by rw [same] at beyond; omega
  have fresh : s.file ≠ some candidate := fun same => by
    rw [same, readLocked, canonical] at stored
    exact other (Except.ok.inj stored)
  rw [← number] at built
  have saved : saveLocked (F := F) c.plan s.file candidate round.write =
      writeLocked s.file candidate round.write := by
    rw [saveLocked, canonical, stored]
    dsimp only
    rw [if_neg (by omega), if_neg other]
  rw [commit, built]
  dsimp only
  rw [saved]
  cases round.write with
  | unreadable code =>
    simp only [writeLocked, replaced, if_true]
    exact .kept rfl
  | written =>
    simp only [writeLocked, replaced, if_neg fresh, Option.toList, List.map]
    exact .advanced built
  | failed code moved =>
    cases moved with
    | false =>
      simp only [writeLocked, replaced, if_true, Bool.false_eq_true, if_false]
      exact .kept rfl
    | true =>
      simp only [writeLocked, replaced, if_true, if_neg fresh, Option.toList, List.map]
      exact .replaced built rfl
  | crashed moved =>
    cases moved with
    | false =>
      simp only [writeLocked, replaced, if_true, Bool.false_eq_true, if_false]
      exact .kept rfl
    | true =>
      simp only [writeLocked, replaced, if_true, if_neg fresh, Option.toList, List.map]
      exact .replaced built rfl

theorem refused_ok {code : DeliveryCode} (again : c.refused s round event code = .ok s') :
    isTransient code = true ∧ s.retryIndex < c.backoffs.length ∧
      s'.retryIndex = s.retryIndex + 1 ∧ s'.eventOutcomeUncertain = true ∧ s'.file = s.file ∧
      s'.checkpointSequence = s.checkpointSequence ∧ s'.pending = s.pending ∧
      s'.attemptedCount = s.attemptedCount ∧ s'.deliveredCount = s.deliveredCount := by
  unfold refused at again
  dsimp only at again
  split at again
  · next transient backoff =>
    have allowed := (List.getElem?_eq_some_iff.mp backoff).1
    split at again
    · cases again
    · split at again
      · cases again
        exact ⟨transient, allowed, rfl, by rw [transient, Bool.or_true], rfl, rfl, rfl, rfl, rfl⟩
      · cases again
  · cases again

theorem refused_reports {code : DeliveryCode} (stopped : c.refused s round event code = .error ends) :
    c.Reports s (uncertainEvent event (s.eventOutcomeUncertain || isTransient code)) ends := by
  unfold refused at stopped
  dsimp only at stopped
  split at stopped
  · split at stopped
    · cases stopped
      exact reports_of_silent rfl
    · split at stopped
      · cases stopped
      · cases stopped
        exact reports_of_silent rfl
  · cases stopped
    exact (reports_result _ _ _ _).same rfl rfl rfl

theorem turn_turned {n : Nat} {current : ReplayDeliveryCheckpoint}
    (stored : readLocked c.plan s.file = .ok current) (reached : current.sequenceNumber = n)
    (following : c.plan.events[n]? = some event) :
    Turned c s event rest (c.turn s round event rest) := by
  unfold turn
  split
  · next stopped => exact .waited (await_reports stopped)
  · split
    · next stopped => exact .waited ((start_reports stopped).same rfl rfl rfl)
    · next startedAt clock _ =>
      dsimp only
      have counted : Counted s (attempted s startedAt clock) := ⟨rfl, rfl, rfl, rfl, rfl⟩
      unfold emit
      cases round.emission with
      | cancelled =>
        refine .failed counted ?_
        simp only [Emission.unknown, Bool.or_true, uncertainEvent, if_true]
        exact reports_cancelled
      | timedOut =>
        refine .failed counted ?_
        rw [Emission.unknown, Bool.or_true]
        exact reports_deadline true
      | raised => exact .failed counted (reports_of_silent rfl)
      | crashed => exact .failed counted (reports_of_silent rfl)
      | refused code =>
        dsimp only
        cases tried : c.refused (attempted s startedAt clock) round event code with
        | error ends => exact .failed counted (refused_reports tried)
        | ok s' =>
          obtain ⟨transient, allowed, index, marked, file, checkpoint, pending, counts, delivers⟩ :=
            refused_ok tried
          exact .retried ⟨file, checkpoint, pending, counts, delivers⟩ transient index allowed marked
      | receipt r =>
        dsimp only
        split
        · next confirms => exact .accepted counted confirms (commit_committed stored reached following)
        · refine .failed counted ?_
          rw [Emission.unknown, Bool.or_false]
          exact reports_result _ _ _ _

end Rounds
end Schedule

/-! A whole run. -/

/-- An attempt of the event with this sequence number stayed without an answer. -/
def Unanswered (sequenceNumber : Nat) (entries : List Entry) : Prop :=
  ∃ e o, .attempt e o ∈ entries ∧ e.sequenceNumber = sequenceNumber ∧ o.unknown = true

/-- Between two rounds: where the run is in the plan and in the store, and its counters. -/
structure Progress {F : Type} {h : Host} (c : Schedule F h) (n : Nat) (entries : List Entry)
    (s : Loop F) : Prop where
  paced : Paced c.plan n entries s.checkpointSequence
  pending : s.pending = c.plan.events.drop s.checkpointSequence
  stored : ∃ current, readLocked c.plan s.file = .ok current ∧
    current.sequenceNumber = s.checkpointSequence
  delivered : n + s.deliveredCount = s.checkpointSequence
  attempted : s.attemptedCount = attempts entries
  budget : s.attemptedCount + s.pending.length * (1 + c.backoffs.length) ≤
    (c.plan.events.length - n) * (1 + c.backoffs.length) + s.retryIndex
  index : s.retryIndex ≤ c.backoffs.length
  idle : s.pending = [] → s.retryIndex = 0 ∧ s.eventOutcomeUncertain = false
  uncertain : s.eventOutcomeUncertain = true ↔ Unanswered (s.checkpointSequence + 1) entries

/-- What a run that started at the checkpoint `n` leaves and reports. -/
structure Finished {F : Type} {h : Host} (c : Schedule F h) (n : Nat) (ran : Ran F) : Prop where
  stored : ∃ current, readLocked c.plan ran.file = .ok current ∧
    Paced c.plan n ran.entries current.sequenceNumber
  budget : attempts ran.entries ≤ (c.plan.events.length - n) * (1 + c.backoffs.length)
  selected : ∀ r, ran.ends = .returned r → r.selectedCount = c.selectedCount
  attempted : ∀ e, ran.ends.evidence = some e → e.attemptedCount = attempts ran.entries
  delivered : ∀ e, ran.ends.evidence = some e →
    n + e.deliveredCount = e.checkpoint.sequenceNumber ∧
      readLocked c.plan ran.file = .ok e.checkpoint
  uncertain : ∀ e, ran.ends.evidence = some e → ∀ k, e.uncertainSequenceNumber = some k ↔
    k = e.checkpoint.sequenceNumber + 1 ∧ Unanswered k ran.entries

theorem unanswered_attempt {k : Nat} {entries : List Entry} {e : ReplayEvent} {o : Emission}
    (number : e.sequenceNumber = k) :
    Unanswered k (entries ++ [.attempt e o]) ↔ Unanswered k entries ∨ o.unknown = true := by
  constructor
  · rintro ⟨e', o', member, same, unknown⟩
    rcases List.mem_append.mp member with earlier | last
    · exact .inl ⟨e', o', earlier, same, unknown⟩
    · cases List.mem_singleton.mp last
      exact .inr unknown
  · rintro (⟨e', o', member, same, unknown⟩ | unknown)
    · exact ⟨e', o', List.mem_append_left _ member, same, unknown⟩
    · exact ⟨e, o, List.mem_append_right _ List.mem_cons_self, number, unknown⟩

theorem uncertainEvent_eq {event : ReplayEvent} {flag : Bool} {k : Nat} :
    Schedule.uncertainEvent event flag = some k ↔ k = event.sequenceNumber ∧ flag = true := by
  unfold Schedule.uncertainEvent
  cases flag with
  | false => simp
  | true => simp [eq_comm]

section Run
variable {F : Type} {h : Host} {c : Schedule F h} {n m : Nat} {entries : List Entry} {file : File}
  {ends : End F} {current : ReplayDeliveryCheckpoint}

theorem checkpoint_of_readLocked {plan : ReplayPlan h} (stored : readLocked plan file = .ok current) :
    plan.checkpointForSequence current.sequenceNumber = .ok current := by
  unfold readLocked storedCheckpoint at stored
  split at stored
  · next validated =>
    cases stored
    exact plan.validatedCheckpoint_built validated
  · cases stored

theorem finished_silent (paced : Paced c.plan n entries current.sequenceNumber)
    (stored : readLocked c.plan file = .ok current)
    (budget : attempts entries ≤ (c.plan.events.length - n) * (1 + c.backoffs.length))
    (silent : ends.evidence = none) : Finished c n ⟨entries, file, ends⟩ where
  stored := ⟨current, stored, paced⟩
  budget := budget
  selected r returned := by
    rw [show ends = .returned r from returned] at silent
    cases silent
  attempted e known := by rw [silent] at known; cases known
  delivered e known := by rw [silent] at known; cases known
  uncertain e known := by rw [silent] at known; cases known

theorem finished_reports {s : Loop F} {u : Option Nat}
    (paced : Paced c.plan n entries s.checkpointSequence)
    (stored : readLocked c.plan file = .ok current)
    (reached : current.sequenceNumber = s.checkpointSequence)
    (budget : attempts entries ≤ (c.plan.events.length - n) * (1 + c.backoffs.length))
    (attempted : s.attemptedCount = attempts entries)
    (delivered : n + s.deliveredCount = s.checkpointSequence)
    (uncertain : ∀ k, u = some k ↔ k = s.checkpointSequence + 1 ∧ Unanswered k entries)
    (reports : c.Reports s u ends) : Finished c n ⟨entries, file, ends⟩ where
  stored := ⟨current, stored, reached ▸ paced⟩
  budget := budget
  selected := reports.selected
  attempted e known := (reports.evidence e known).attempted.trans attempted
  delivered e known := by
    have told := reports.evidence e known
    have same := checkpoint_of_readLocked stored
    rw [reached, told.checkpoint, Except.ok.injEq] at same
    rw [told.delivered, delivered, same, reached]
    exact ⟨rfl, stored⟩
  uncertain e known k := by
    have told := reports.evidence e known
    rw [told.uncertain, c.plan.checkpointForSequence_sequence told.checkpoint]
    exact uncertain k

theorem Progress.room {s : Loop F} (progress : Progress c n entries s) {event : ReplayEvent}
    {rest : List ReplayEvent} (pending : s.pending = event :: rest) :
    s.attemptedCount + 1 + rest.length * (1 + c.backoffs.length) ≤
      (c.plan.events.length - n) * (1 + c.backoffs.length) := by
  have budget := progress.budget
  have index := progress.index
  rw [pending, List.length_cons, Nat.add_one_mul] at budget
  omega

theorem Progress.following {s : Loop F} (progress : Progress c n entries s) {event : ReplayEvent}
    {rest : List ReplayEvent} (pending : s.pending = event :: rest) :
    c.plan.events[s.checkpointSequence]? = some event ∧
      rest = c.plan.events.drop (s.checkpointSequence + 1) := by
  have split := progress.pending
  rw [pending] at split
  constructor
  · rw [← List.head?_drop, ← split, List.head?_cons]
  · rw [← List.tail_drop, ← split, List.tail_cons]

theorem Progress.last {s : Loop F} (progress : Progress c n entries s) {event : ReplayEvent}
    {rest : List ReplayEvent} (pending : s.pending = event :: rest) (o : Emission) :
    attempts (entries ++ [.attempt event o]) ≤
      (c.plan.events.length - n) * (1 + c.backoffs.length) := by
  have room := progress.room pending
  have counted := progress.attempted
  rw [attempts_append, attempts, attempts]
  omega

theorem Progress.attempt {s : Loop F} (progress : Progress c n entries s) {event : ReplayEvent}
    {rest : List ReplayEvent} (pending : s.pending = event :: rest) (o : Emission) :
    Paced c.plan n (entries ++ [.attempt event o]) s.checkpointSequence :=
  progress.paced.append (.attempt o (progress.following pending).1 (.nil _))

theorem Progress.retried {s s' : Loop F} (progress : Progress c n entries s) {event : ReplayEvent}
    {rest : List ReplayEvent} (pending : s.pending = event :: rest) {code : DeliveryCode}
    (counted : Schedule.Counted s s') (transient : isTransient code = true)
    (index : s'.retryIndex = s.retryIndex + 1) (allowed : s.retryIndex < c.backoffs.length)
    (marked : s'.eventOutcomeUncertain = true) :
    Progress c n (entries ++ [.attempt event (.refused code)]) s' where
  paced := counted.checkpoint ▸ progress.attempt pending _
  pending := by rw [counted.pending, counted.checkpoint, progress.pending]
  stored := by rw [counted.file, counted.checkpoint]; exact progress.stored
  delivered := by rw [counted.delivered, counted.checkpoint, progress.delivered]
  attempted := by
    rw [counted.attempted, progress.attempted, attempts_append]
    rfl
  budget := by
    have budget := progress.budget
    rw [counted.attempted, counted.pending, index]
    omega
  index := by omega
  idle empty := by
    rw [counted.pending, pending] at empty
    cases empty
  uncertain := by
    have number := c.plan.sequenceNumber_of_get (progress.following pending).1
    rw [counted.checkpoint, unanswered_attempt number]
    exact ⟨fun _ => .inr transient, fun _ => marked⟩

theorem Progress.advanced {s s' : Loop F} (progress : Progress c n entries s) {event : ReplayEvent}
    {rest : List ReplayEvent} (pending : s.pending = event :: rest) {r : ReplayDeliveryReceipt}
    {candidate : ReplayDeliveryCheckpoint} (counted : Schedule.Counted s s')
    (confirmed : r.Confirms event)
    (built : c.plan.checkpointForSequence event.sequenceNumber = .ok candidate) [PyFloat F] :
    Progress c n (entries ++ [.attempt event (.receipt r), .durable candidate])
      (Schedule.delivered s' event rest (some candidate)) := by
  obtain ⟨following, remains⟩ := progress.following pending
  have number := c.plan.sequenceNumber_of_get following
  have position : (Schedule.delivered s' event rest (some candidate)).checkpointSequence =
      s.checkpointSequence + 1 := number
  rw [number] at built
  have paced : Paced c.plan n (entries ++ [.attempt event (.receipt r), .durable candidate])
      (s.checkpointSequence + 1) :=
    progress.paced.append (.durable following confirmed built (.nil _))
  have total : attempts (entries ++ [.attempt event (.receipt r), .durable candidate]) =
      s.attemptedCount + 1 := by
    rw [attempts_append, progress.attempted]
    rfl
  constructor
  · rw [position]
    exact paced
  · rw [position]
    exact remains
  · refine ⟨candidate, ?_, ?_⟩
    · unfold readLocked storedCheckpoint
      rw [show (Schedule.delivered s' event rest (some candidate)).file = some candidate from rfl,
        c.plan.validatedCheckpoint_ok built]
    · rw [position, c.plan.checkpointForSequence_sequence built]
  · rw [position, ← progress.delivered, Nat.add_assoc, ← counted.delivered]
    rfl
  · rw [total, ← counted.attempted]
    rfl
  · have room := progress.room pending
    change s'.attemptedCount + rest.length * _ ≤ _ + 0
    rw [counted.attempted]
    omega
  · exact Nat.zero_le _
  · exact fun _ => ⟨rfl, rfl⟩
  · rw [position]
    constructor
    · intro marked
      cases marked
    · rintro ⟨e, o, member, same, unknown⟩
      rcases List.mem_append.mp member with earlier | new
      · have bound := progress.paced.sequence_le earlier
        omega
      · rcases List.mem_cons.mp new with now | later
        · cases now
          cases unknown
        · cases List.mem_singleton.mp later

theorem Progress.complete [PyFloat F] {s : Loop F} (progress : Progress c n entries s)
    (idle : s.pending = []) (finish : Reading F) :
    Finished c n ⟨entries ++ [], s.file, c.result s finish none none false none⟩ := by
  obtain ⟨current, stored, reached⟩ := progress.stored
  obtain ⟨index, unmarked⟩ := progress.idle idle
  rw [List.append_nil]
  refine finished_reports progress.paced stored reached ?_ progress.attempted progress.delivered
    (fun k => ?_) (Schedule.reports_result _ _ _ _)
  · have budget := progress.budget
    rw [← progress.attempted]
    rw [idle, index, List.length_nil, Nat.zero_mul] at budget
    exact budget
  · constructor
    · intro none
      cases none
    · rintro ⟨rfl, unanswered⟩
      rw [progress.uncertain.mpr unanswered] at unmarked
      cases unmarked

theorem loop_finished [PyFloat F] (finish : Reading F) (rounds : List (Round F)) {s : Loop F}
    (progress : Progress c n entries s) :
    Finished c n { c.loop finish s rounds with
      entries := entries ++ (c.loop finish s rounds).entries } := by
  induction rounds generalizing s entries with
  | nil =>
    rw [Schedule.loop]
    split
    · next idle => exact progress.complete idle finish
    · next event rest pending =>
      obtain ⟨current, stored, reached⟩ := progress.stored
      have room := progress.room pending
      refine finished_silent ?_ stored ?_ rfl
      · rw [List.append_nil, reached]
        exact progress.paced
      · rw [List.append_nil, ← progress.attempted]
        omega
  | cons round rounds ih =>
    rw [Schedule.loop]
    split
    · next idle => exact progress.complete idle finish
    · next event rest pending =>
      obtain ⟨current, stored, reached⟩ := progress.stored
      have following := (progress.following pending).1
      have number := c.plan.sequenceNumber_of_get following
      have room := progress.room pending
      have turned : Schedule.Turned c s event rest (c.turn s round event rest) :=
        Schedule.turn_turned stored reached following
      generalize c.turn s round event rest = t at turned
      cases turned with
      | waited reports =>
        dsimp only
        rw [List.append_nil]
        refine finished_reports progress.paced stored reached ?_ progress.attempted
          progress.delivered (fun k => ?_) reports
        · rw [← progress.attempted]
          omega
        · rw [uncertainEvent_eq, number, progress.uncertain]
          exact and_congr_right fun same => same ▸ Iff.rfl
      | @failed ends s' o counted reports =>
        dsimp only
        refine finished_reports (counted.checkpoint ▸ progress.attempt pending o) stored
          (reached.trans counted.checkpoint.symm) (progress.last pending o) ?_ ?_ (fun k => ?_) reports
        · rw [counted.attempted, progress.attempted, attempts_append]
          rfl
        · rw [counted.delivered, counted.checkpoint, progress.delivered]
        · rw [uncertainEvent_eq, counted.checkpoint, ← number]
          refine and_congr_right fun same => ?_
          rw [unanswered_attempt same.symm, Bool.or_eq_true, progress.uncertain, same, number]
      | retried counted transient index allowed marked =>
        have later := ih (progress.retried pending counted transient index allowed marked)
        rw [List.append_assoc] at later
        exact later
      | @accepted s' r t counted confirmed committed =>
        have sent := progress.attempt pending (.receipt r)
        have budget := progress.last pending (.receipt r)
        cases committed with
        | kept silent =>
          dsimp only
          rw [counted.file]
          exact finished_silent (reached.symm ▸ sent) stored budget silent
        | @replaced ends candidate built silent =>
          have moved := progress.advanced pending counted confirmed built
          obtain ⟨next, held, beyond⟩ := moved.stored
          refine finished_silent (beyond ▸ moved.paced) held ?_ silent
          rw [attempts_append] at budget ⊢
          exact budget
        | @advanced candidate built =>
          have later := ih (progress.advanced pending counted confirmed built)
          rw [List.append_assoc] at later
          exact later

end Run

end NetworkAgent.Lab
