import NetworkAgent.Middleware.PendingCalls
import Mathlib.Data.List.Perm.Basic

/-! When the pending calls of a thread are consumed once and none is lost. -/
namespace NetworkAgent.Middleware

def Op.Honest : Op → Prop
  | .get => True
  | .append delta .other => delta.pendingToolCalls = none
  | .append delta (.add basis x) => delta.pendingToolCalls = some (basis ++ [x])
  | .append delta (.remove basis x) =>
    x ∈ basis ∧ delta.pendingToolCalls = some (basis.erase x)

def Op.basis : Op → Option (List String)
  | .append _ (.add basis _) | .append _ (.remove basis _) => some basis
  | _ => none

/-- The pending calls are those there were at first and those added, less those removed. -/
def Balanced (start : SessionState) (s : Session) : Prop :=
  ∀ x, s.state.pendingToolCalls.count x + s.removed.count x =
    start.pendingToolCalls.count x + s.added.count x

theorem balanced_exec {start : SessionState} {s : Session} (balanced : Balanced start s)
    (fails : Bool) {op : Op} (honest : op.Honest) :
    Balanced start (s.exec fails op).2 ↔
      (fails = false → ∀ basis ∈ op.basis, basis.Perm s.state.pendingToolCalls) := by
  cases op with
  | get => simpa [Session.exec, Op.basis] using balanced
  | append delta purpose =>
    cases fails with
    | true => simpa [Session.exec] using balanced
    | false =>
      cases purpose with
      | other =>
        have same : delta.pendingToolCalls = none := honest
        simpa [Session.exec, Session.record, SessionState.apply, Op.basis, same, Balanced]
          using balanced
      | add basis x =>
        have written : delta.pendingToolCalls = some (basis ++ [x]) := honest
        simp only [Session.exec, Session.record, SessionState.apply, Op.basis, written, Balanced,
          Option.getD_some, Option.mem_def, Option.some.injEq, forall_eq', List.perm_iff_count,
          List.count_append, Bool.false_eq_true, if_false, forall_const]
        refine forall_congr' fun y => ?_
        have before := balanced y
        rw [List.count_singleton, List.count_cons]
        omega
      | remove basis x =>
        obtain ⟨member, written⟩ : x ∈ basis ∧ delta.pendingToolCalls = some (basis.erase x) :=
          honest
        simp only [Session.exec, Session.record, SessionState.apply, Op.basis, written, Balanced,
          Option.getD_some, Option.mem_def, Option.some.injEq, forall_eq', List.perm_iff_count,
          Bool.false_eq_true, if_false, forall_const]
        refine forall_congr' fun y => ?_
        have before := balanced y
        have there : y = x → 0 < basis.count y := by
          rintro rfl
          exact List.count_pos_iff.mpr member
        rw [List.count_cons, List.count_erase]
        by_cases same : y = x
        · subst same
          have := there rfl
          simp only [beq_self_eq_true, if_true]
          omega
        · simp only [beq_iff_eq, Ne.symm same, if_false]
          omega

/-! What the callers do. -/

/-- A caller writes what it says, and takes only the call it is about from the pending ones. -/
def Op.For (takes : String → Prop) (op : Op) : Prop :=
  op.Honest ∧ ∀ delta basis x, op = .append delta (.remove basis x) → takes x

section
variable {takes : String → Prop}

theorem getSession_makes : Program.Makes (Op.For takes) getSession :=
  ⟨⟨trivial, nofun⟩, fun _ => trivial⟩

theorem updateSessionState_makes {delta : StateDelta} {purpose : Purpose}
    (honest : Op.For takes (.append delta purpose)) :
    Program.Makes (Op.For takes) (updateSessionState delta purpose) := by
  apply Program.Makes.andThen getSession_makes
  intro _
  split
  · trivial
  · exact ⟨honest, fun _ => trivial⟩

theorem other_makes (delta : StateDelta) (same : delta.pendingToolCalls = none) :
    Program.Makes (Op.For takes) (updateSessionState delta .other) :=
  updateSessionState_makes ⟨same, nofun⟩

theorem nameToolCall_makes (x : String) (name : Option String) :
    Program.Makes (Op.For takes) (nameToolCall x name) := by
  unfold nameToolCall
  split
  · trivial
  · split
    · trivial
    · apply Program.Makes.andThen getSession_makes
      intro _
      exact Program.Makes.andThen (other_makes _ rfl) fun _ => trivial

theorem addPendingToolCall_makes (x : String) (name : Option String) :
    Program.Makes (Op.For takes) (addPendingToolCall x name) := by
  apply Program.Makes.andThen getSession_makes
  intro s
  dsimp only
  split
  · exact nameToolCall_makes x name
  · apply Program.Makes.andThen
    · exact updateSessionState_makes ⟨rfl, nofun⟩
    · exact fun _ => nameToolCall_makes x name

theorem addPendingToolCalls_makes (calls : List (String × Option String)) :
    Program.Makes (Op.For takes) (addPendingToolCalls calls) := by
  induction calls with
  | nil => trivial
  | cons call rest ih => exact Program.Makes.andThen (addPendingToolCall_makes _ _) fun _ => ih

theorem forgetName_makes (x : String) : Program.Makes (Op.For takes) (forgetName x) := by
  apply Program.Makes.andThen getSession_makes
  intro s
  dsimp only
  split
  · exact Program.Makes.andThen (other_makes _ rfl) fun _ => trivial
  · trivial

theorem removePendingToolCall_makes {x : String} (mine : takes x) :
    Program.Makes (Op.For takes) (removePendingToolCall x) := by
  apply Program.Makes.andThen getSession_makes
  intro s
  dsimp only
  split
  · next member =>
    apply Program.Makes.andThen
    · refine updateSessionState_makes ⟨⟨member, rfl⟩, ?_⟩
      rintro _ _ _ ⟨⟩
      exact mine
    · intro success
      split
      · exact forgetName_makes x
      · trivial
  · trivial

theorem handleToolResult_makes (sessionId : String) {x : String} (content : String) (mine : takes x) :
    Program.Makes (Op.For takes) (handleToolResult sessionId x content) := by
  apply Program.Makes.andThen (by exact trivial)
  intro original
  apply Program.Makes.andThen getSession_makes
  intro s
  split
  · apply Program.Makes.andThen getSession_makes
    intro s
    apply Program.Makes.andThen (by exact trivial)
    intro name
    apply Program.Makes.andThen (removePendingToolCall_makes mine)
    intro removed
    split <;> trivial
  · trivial

end

def Caller.takes : Caller → String → Prop
  | .toolResult _ x _, y => y = x
  | _, _ => False

theorem Caller.code_makes (caller : Caller) : caller.code.Makes (Op.For caller.takes) := by
  cases caller with
  | toolResult sessionId x content =>
    exact Program.Makes.andThen (handleToolResult_makes sessionId content rfl) fun _ => trivial
  | run calls => exact Program.Makes.andThen (addPendingToolCalls_makes calls) fun _ => trivial
  | read => exact Program.Makes.andThen getSession_makes fun _ => trivial
  | update other => exact Program.Makes.andThen (other_makes _ rfl) fun _ => trivial

/-! A continuation is paid for by a removal. -/

theorem attempt_owes {α : Type} {pays : (op : Op) → op.Answer → Prop} (a : Except String α) :
    Program.Owes pays (fun _ => False) (Program.attempt a : Awaiting α) := not_false

def Op.Takes (x : String) : (op : Op) → op.Answer → Prop
  | .append _ (.remove _ y), answer => y = x ∧ answer = true
  | _, _ => False

section
variable {x : String}

theorem getSession_owes {due : Except String SessionState → Prop} (never : ∀ s, ¬ due s) :
    Program.Owes (Op.Takes x) due getSession := fun s => .inr (never (.ok s))

theorem removal_owes (delta : StateDelta) (basis : List String) :
    Program.Owes (Op.Takes x) (· = .ok true) (updateSessionState delta (.remove basis x)) := by
  apply Program.Owes.andThen (getSession_owes fun _ => not_false) nofun
  intro s _
  split
  · exact fun same => by cases same
  · intro answer
    cases answer with
    | true => exact .inl ⟨rfl, rfl⟩
    | false => exact .inr fun same => by cases same

theorem removePendingToolCall_owes :
    Program.Owes (Op.Takes x) (· = .ok true) (removePendingToolCall x) := by
  apply Program.Owes.andThen (getSession_owes fun _ => not_false) nofun
  intro s _
  dsimp only
  split
  · apply Program.Owes.andThen (removal_owes _ _) nofun
    intro success failed
    cases success with
    | true => exact absurd rfl failed
    | false => exact fun same => by cases same
  · exact fun same => by cases same

theorem handleToolResult_owes (sessionId content : String) :
    Program.Owes (Op.Takes x) (fun r => ∃ k, r = .ok k) (handleToolResult sessionId x content) := by
  have fails : ∀ e : String, ¬ ∃ k : Continuation, Except.error e = .ok k := nofun
  apply Program.Owes.andThen (attempt_owes _) fails
  intro original _
  apply Program.Owes.andThen (getSession_owes fun _ => not_false) fails
  intro s _
  split
  · apply Program.Owes.andThen (getSession_owes fun _ => not_false) fails
    intro s _
    apply Program.Owes.andThen (attempt_owes _) fails
    intro name _
    apply Program.Owes.andThen removePendingToolCall_owes fails
    intro removed failed
    cases removed with
    | true => exact absurd rfl failed
    | false => exact fails _
  · exact fails _

theorem toolResult_owes (sessionId content : String) :
    (Caller.code (.toolResult sessionId x content)).Owes (Op.Takes x)
      (fun r => ∃ k, r = .ok (some k)) := by
  apply Program.Owes.andThen (handleToolResult_owes sessionId content) nofun
  intro k unpaid
  exact absurd ⟨k, rfl⟩ unpaid

end

namespace Thread

def continued (t : Thread) (x : String) : Nat :=
  t.tasks.countP fun task => match task with
    | (.toolResult _ y _, .done (.ok (some _))) => y = x
    | _ => false

/-- No addition and no removal is lost, and every continuation took its call from the pending
ones, each time another one. -/
structure Consumes (start : SessionState) (t : Thread) : Prop where
  balanced : Balanced start t.shared
  once : ∀ x, t.continued x ≤ t.shared.removed.count x

def Current (t : Thread) : ThreadMove → Prop
  | .step task false => match t.tasks[task]? with
    | some (_, .call op _) => ∀ basis ∈ op.basis, basis.Perm t.shared.state.pendingToolCalls
    | _ => True
  | _ => True

theorem continued_le (start : SessionState) (moves : List ThreadMove) (x : String) :
    (Thread.run start moves).continued x ≤ (Thread.run start moves).shared.removed.count x := by
  let ledger : Session → Nat := fun s => s.removed.count x
  have settled : (Thread.run start moves).settled
      (fun caller => ∃ sessionId content, caller = .toolResult sessionId x content) (Op.Takes x)
      (fun r => ∃ k, r = .ok (some k)) ≤ ledger (Thread.run start moves).shared := by
    apply Program.System.run_settled _ _ _ _ (Nat.zero_le _) moves
    · intro s fails op
      cases op with
      | get => exact le_refl _
      | append delta purpose =>
        cases fails <;> cases purpose <;>
          simp [ledger, Session.exec, Session.record, List.count_cons]
    · intro s fails op took
      cases op with
      | get => exact took.elim
      | append delta purpose =>
        cases purpose with
        | other => exact took.elim
        | add basis y => exact took.elim
        | remove basis y =>
          obtain ⟨rfl, wrote⟩ := took
          cases fails with
          | true => cases wrote
          | false => simp [ledger, Session.exec, Session.record]
    · rintro _ ⟨sessionId, content, rfl⟩
      exact toolResult_owes sessionId content
  refine le_trans ?_ settled
  classical
  refine List.countP_mono_left fun task _ done => ?_
  obtain ⟨caller, program⟩ := task
  split at done
  · next sessionId y content k same =>
    cases same
    simp only [decide_eq_true_eq] at done
    subst done
    simp only [decide_eq_true_eq]
    exact ⟨⟨sessionId, content, rfl⟩, fun owes => owes ⟨k, rfl⟩⟩
  · cases done

theorem balanced_move {start : SessionState} {t : Thread}
    (makes : ∀ task ∈ t.tasks, task.2.Makes (Op.For task.1.takes))
    (balanced : Balanced start t.shared) (move : ThreadMove) :
    Balanced start (t.move Session.exec Caller.code move).shared ↔ t.Current move := by
  cases move with
  | start caller => exact iff_of_true balanced trivial
  | step task fails =>
    have moved : (t.step Session.exec task fails).shared = match t.tasks[task]? with
        | some (_, .call op _) => (t.shared.exec fails op).2
        | _ => t.shared := by
      unfold Program.System.step
      split <;> simp_all
    rw [Program.System.move, moved]
    cases found : t.tasks[task]? with
    | none => cases fails <;> simpa [Current, found] using balanced
    | some entry =>
      obtain ⟨caller, program⟩ := entry
      cases program with
      | done result => cases fails <;> simpa [Current, found] using balanced
      | call op next =>
        have honest := ((makes _ (List.mem_of_getElem? found)).1).1
        refine (balanced_exec balanced fails honest).trans ?_
        cases fails <;> simp [Current, found]

/-- Every state of a run has all pending calls, each consumed at most once, exactly when every
write of the pending calls finds them as its task has read them. -/
theorem consumes_iff_current (start : SessionState) (moves : List ThreadMove) :
    (∀ reached, reached <+: moves → (Thread.run start reached).Consumes start) ↔
      Runs.Along (Program.System.move Session.exec Caller.code) Current
        ⟨{ state := start }, []⟩ moves := by
  have along := Runs.along_iff_prefixes (Program.System.move Session.exec Caller.code)
    (P := fun t : Thread => Balanced start t.shared) (C := Current)
    (Q := fun t : Thread => ∀ task ∈ t.tasks, task.2.Makes (Op.For task.1.takes))
    (fun t move makes => Program.System.run_makes Caller.code_makes makes [move])
    (fun t move makes balanced => balanced_move makes balanced move)
    (s := ⟨{ state := start }, []⟩) nofun (fun x => rfl) moves
  refine Iff.trans ?_ along.symm
  constructor
  · exact fun consumes reached earlier => (consumes reached earlier).balanced
  · exact fun balanced reached earlier =>
      ⟨balanced reached earlier, continued_le start reached⟩

def twoResults : List ThreadMove :=
  [.start (.toolResult "t" "a::t" "{}"), .start (.toolResult "t" "a::t" "{}"),
    .step 0 false, .step 0 false, .step 0 false, .step 1 false, .step 1 false, .step 1 false,
    .step 0 false, .step 0 false, .step 0 false, .step 0 false, .step 0 false,
    .step 1 false, .step 1 false, .step 1 false, .step 1 false, .step 1 false]

def oneApproval : SessionState where
  pendingToolCalls := ["a::t"]
  pendingToolCallNames := AList.insert "a::t" "requestTaskApproval" ∅

theorem pending_call_consumed_twice :
    ¬ (Thread.run oneApproval twoResults).Consumes oneApproval ∧
      oneApproval.pendingToolCalls.count "a::t" = 1 ∧
      (Thread.run oneApproval twoResults).shared.added = [] ∧
      (Thread.run oneApproval twoResults).continued "a::t" = 2 := by
  refine ⟨fun consumes => ?_, by decide, by decide, by decide⟩
  have balanced := consumes.balanced "a::t"
  revert balanced
  decide

end Thread
end NetworkAgent.Middleware
