import NetworkAgent.Middleware.ToolCalls

/-! Which tool calls a run leaves pending, and when these are the unanswered ones. -/
namespace NetworkAgent.Middleware
open Program (alone)

/-! The calls that are added. -/

theorem getSession_alone (s : Session) :
    alone Session.exec false getSession s = (.ok s.state, s) := rfl

theorem updateSessionState_alone {delta : StateDelta} (writes : delta ≠ {}) (purpose : Purpose)
    (s : Session) : alone Session.exec false (updateSessionState delta purpose) s =
      (.ok true, { s with state := s.state.apply delta }.record purpose) := by
  unfold updateSessionState
  rw [Program.alone_andThen _ (getSession_alone s), if_neg writes]
  rfl

theorem nameToolCall_alone (x : String) (name : Option String) (s : Session) :
    ∃ s', alone Session.exec false (nameToolCall x name) s = (.ok (), s') ∧
      s'.state.pendingToolCalls = s.state.pendingToolCalls := by
  cases name with
  | none => exact ⟨s, rfl, rfl⟩
  | some name =>
    unfold nameToolCall
    dsimp only
    split
    · exact ⟨s, rfl, rfl⟩
    · rw [Program.alone_andThen _ (getSession_alone s)]
      rw [Program.alone_andThen _ (updateSessionState_alone (by simp) _ s)]
      exact ⟨_, rfl, rfl⟩

theorem addPendingToolCall_alone (x : String) (name : Option String) (s : Session) :
    ∃ s', alone Session.exec false (addPendingToolCall x name) s = (.ok (), s') ∧
      ∀ y, y ∈ s'.state.pendingToolCalls ↔ y ∈ s.state.pendingToolCalls ∨ y = x := by
  unfold addPendingToolCall
  rw [Program.alone_andThen _ (getSession_alone s)]
  dsimp only
  split
  · next present =>
    obtain ⟨s', done, same⟩ := nameToolCall_alone x name s
    refine ⟨s', done, fun y => ?_⟩
    rw [same]
    constructor
    · exact .inl
    · rintro (before | rfl)
      · exact before
      · exact present
  · rw [Program.alone_andThen _ (updateSessionState_alone (by simp) _ s)]
    obtain ⟨s', done, same⟩ := nameToolCall_alone x name _
    refine ⟨s', done, fun y => ?_⟩
    rw [same]
    simp [Session.record, SessionState.apply]

theorem addPendingToolCalls_alone (calls : List (String × Option String)) (s : Session) :
    ∃ s', alone Session.exec false (addPendingToolCalls calls) s = (.ok (), s') ∧
      ∀ y, y ∈ s'.state.pendingToolCalls ↔
        y ∈ s.state.pendingToolCalls ∨ y ∈ calls.map (·.1) := by
  induction calls generalizing s with
  | nil => exact ⟨s, rfl, by simp⟩
  | cons call rest ih =>
    obtain ⟨s₁, first, one⟩ := addPendingToolCall_alone call.1 call.2 s
    obtain ⟨s₂, second, more⟩ := ih s₁
    refine ⟨s₂, ?_, fun y => ?_⟩
    · unfold addPendingToolCalls
      rw [Program.alone_andThen _ first, second]
    · rw [more, one, List.map_cons, List.mem_cons, or_assoc]

/-! The tracker. -/

namespace ToolEvent

def finishes (x : String) : ToolEvent → Bool
  | .finish id _ => id = x
  | _ => false

def resolves (x : String) : ToolEvent → Bool
  | .result id _ => id = x
  | _ => false

end ToolEvent

/-- Some of the ends of `x` are not taken back by later results that carry `x` itself. -/
def Outlasts (x : String) (events : List ToolEvent) : Prop :=
  ∃ later, later <:+ events ∧
    later.countP (·.resolves x) < later.countP (·.finishes x)

theorem count_track (x : String) (ids : List String) (e : ToolEvent) :
    (track ids e).count x =
      ids.count x + (if e.finishes x then 1 else 0) - (if e.resolves x then 1 else 0) := by
  cases e with
  | finish id call => simp [track, ToolEvent.finishes, ToolEvent.resolves, List.count_singleton]
  | result id content =>
    simp [track, ToolEvent.finishes, ToolEvent.resolves, List.count_erase]
  | start id name => simp [track, ToolEvent.finishes, ToolEvent.resolves]
  | args id delta => simp [track, ToolEvent.finishes, ToolEvent.resolves]

theorem count_tracked (x : String) (events : List ToolEvent) :
    (∀ later, later <:+ events → later.countP (·.finishes x) ≤
      (events.foldl track []).count x + later.countP (·.resolves x)) ∧
    ∃ later, later <:+ events ∧ later.countP (·.finishes x) =
      (events.foldl track []).count x + later.countP (·.resolves x) := by
  induction events using List.reverseRecOn with
  | nil => simp
  | append_singleton front e ih =>
    obtain ⟨most, ⟨later, suffix, exactly⟩⟩ := ih
    have step := count_track x (front.foldl track []) e
    rw [List.foldl_append, List.foldl_cons, List.foldl_nil]
    have one : e.finishes x = true → e.resolves x = false := by
      cases e <;> simp [ToolEvent.finishes, ToolEvent.resolves]
    constructor
    · intro l before
      rcases List.suffix_concat_iff.mp before with rfl | ⟨l', rfl, shorter⟩
      · simp
      · have bound := most l' shorter
        simp only [List.countP_append, List.countP_singleton, step]
        split
        · next ends =>
          rw [one ends]
          simp only [Bool.false_eq_true, if_false]
          omega
        · split <;> omega
    · by_cases spent : e.resolves x = true ∧ (front.foldl track []).count x = 0
      · refine ⟨[], List.nil_suffix, ?_⟩
        have none : e.finishes x = false := by
          cases ends : e.finishes x
          · rfl
          · simp [one ends] at spent
        simp [step, spent, none]
      · refine ⟨later ++ [e], ?_, ?_⟩
        · exact List.suffix_concat_iff.mpr (.inr ⟨later, rfl, suffix⟩)
        · simp only [List.countP_append, List.countP_singleton, step]
          split
          · next ends =>
            rw [one ends]
            simp only [Bool.false_eq_true, if_false]
            omega
          · split
            · next takes =>
              have left : (front.foldl track []).count x ≠ 0 := fun none => spent ⟨takes, none⟩
              omega
            · omega

theorem mem_tracked_iff (x : String) (events : List ToolEvent) :
    x ∈ events.foldl track [] ↔ Outlasts x events := by
  obtain ⟨most, later, suffix, exactly⟩ := count_tracked x events
  rw [← List.count_pos_iff]
  constructor
  · intro left
    exact ⟨later, suffix, by omega⟩
  · rintro ⟨l, before, more⟩
    have bound := most l before
    omega

/-! Exactly the unanswered calls. -/

def emittedCalls (events : List ToolEvent) : List String :=
  events.filterMap fun e => match e with | .finish _ call => some call | _ => none

def responses (steps : List RunnerStep) : List String :=
  steps.flatMap fun step => match step with
    | .event e => e.functionResponses.map (·.id)
    | .clientTool _ _ _ => []

/-- Besides what was pending before, exactly the unanswered calls are pending. -/
def Exact (threadId : String) (before after : List String) (events : List ToolEvent)
    (steps : List RunnerStep) : Prop :=
  ∀ x, x ∈ after ↔ x ∈ before ∨
    ∃ call ∈ emittedCalls events, call ∉ responses steps ∧ x = encodeToolCall threadId call

/-- What the tracker relies on, of the ids that were not pending before: an answered call is
taken back by results under its encoded id, an unanswered one is not, and nothing else lasts. -/
structure Tracked (threadId : String) (before : List String) (events : List ToolEvent)
    (steps : List RunnerStep) : Prop where
  answered : ∀ call ∈ emittedCalls events, encodeToolCall threadId call ∉ before →
    call ∈ responses steps → ¬ Outlasts (encodeToolCall threadId call) events
  unanswered : ∀ call ∈ emittedCalls events, encodeToolCall threadId call ∉ before →
    call ∉ responses steps → Outlasts (encodeToolCall threadId call) events
  others : ∀ x ∉ before, (∀ call ∈ emittedCalls events, x ≠ encodeToolCall threadId call) →
    ¬ Outlasts x events

theorem encodeToolCall_injective (threadId : String) :
    Function.Injective (encodeToolCall threadId) := by
  intro a b same
  unfold encodeToolCall at same
  have lists : a.toList ++ ("::" ++ threadId).toList = b.toList ++ ("::" ++ threadId).toList := by
    simpa [String.toList_append] using congrArg String.toList same
  exact String.toList_inj.mp (List.append_cancel_right lists)

theorem mem_runAgent (threadId : String) (s : SessionState) (steps : List RunnerStep) (x : String) :
    x ∈ (runAgent threadId s steps).pendingToolCalls ↔ x ∈ s.pendingToolCalls ∨
      Outlasts x (runInBackground threadId [] steps).1 := by
  obtain ⟨s', done, members⟩ := addPendingToolCalls_alone
    (leftPending (runInBackground threadId [] steps).1) { state := s }
  have ids : (leftPending (runInBackground threadId [] steps).1).map (·.1) =
      (runInBackground threadId [] steps).1.foldl track [] := by
    simp [leftPending, Function.comp_def]
  rw [runAgent, done]
  rw [members, ids, mem_tracked_iff]

def backendCall : List RunnerStep :=
  [.event { author := "host", isFinalResponse := false, usageMetadata := true,
            parts := [.functionCall { id := "c1", name := "send_task" }] },
    .event { author := "host", isFinalResponse := false, usageMetadata := false,
             parts := [.functionResponse { id := "c1", name := "send_task" }] }]

end NetworkAgent.Middleware
