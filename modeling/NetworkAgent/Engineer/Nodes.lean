import NetworkAgent.Engineer.Graph

/-! What the nodes of the graph come to, one by one, and what a run of them is once a plan is
confirmed. -/
namespace NetworkAgent.Engineer

variable {a : Agent} {t : Turn} {s : Channels}

theorem go_goto {fuel k : Nat} {answer : Option String} {node next : Node} {after : Channels}
    {events : List Event} (leads : runNode a t k answer s node = ⟨after, events, .goto next⟩) :
    (go a t (fuel + 1) k answer node s).log = events ++ (go a t fuel (k + 1) none next after).log := by
  rw [go]
  dsimp only
  rw [leads]

theorem go_raise {fuel k : Nat} {answer : Option String} {node : Node}
    (fails : (runNode a t k answer s node).next = .raise) :
    .raised ∈ (go a t (fuel + 1) k answer node s).log := by
  rw [go]
  dsimp only
  rw [fails]
  simp

/-! Building a plan. -/

theorem runNode_buildPlan (k : Nat) (answer : Option String) :
    runNode a t k answer s .buildPlan = ⟨s, [], .raise⟩ ∨ ∃ after : Channels,
      runNode a t k answer s .buildPlan = ⟨after, [], .goto .confirmPlan⟩ ∧
      after.preapproved = s.preapproved ∧ after.completed = s.completed := by
  unfold runNode buildPlan
  dsimp only
  split
  · split
    · exact .inl rfl
    · exact .inr ⟨_, rfl, rfl, rfl⟩
    · exact .inr ⟨_, rfl, rfl, rfl⟩
  · exact .inl rfl

theorem go_buildPlan {fuel k : Nat} {answer : Option String} {e : Event}
    (seen : e ∈ (go a t fuel k answer .buildPlan s).log) (other : e ≠ .raised ∧ e ≠ .outOfSteps)
    (quiet : .raised ∉ (go a t fuel k answer .buildPlan s).log) :
    ∃ (later : Nat) (after : Channels), fuel = later + 1 ∧ after.preapproved = s.preapproved ∧
      after.completed = s.completed ∧
      (go a t fuel k answer .buildPlan s).log = (go a t later (k + 1) none .confirmPlan after).log := by
  cases fuel with
  | zero => exact absurd (List.mem_singleton.mp seen) other.2
  | succ fuel =>
    rcases runNode_buildPlan (a := a) (t := t) (s := s) k answer with
      node | ⟨after, node, preapproved, completed⟩
    · exact absurd (go_raise (by rw [node])) quiet
    · exact ⟨fuel, after, rfl, preapproved, completed, go_goto node⟩

/-! The answer to a plan. -/

theorem decision_yes (loads : String → Option Json) (reading : Option String) :
    decision loads "yes" reading = some .executeStep := by
  have plain : widgetApproval loads "yes" = none := if_neg (by decide)
  unfold decision
  rw [plain]
  exact if_pos (by decide)

theorem decision_cases {loads : String → Option Json} {message : String} {reading : Option String}
    {node : Node} (leads : decision loads message reading = some node) :
    node = .executeStep ∨ node = .responseSummary ∨ node = .buildPlan := by
  unfold decision at leads
  split at leads
  · cases leads
    split <;> simp
  · dsimp only at leads
    split at leads
    · cases leads
      simp
    · split at leads
      · cases leads
        simp
      · obtain ⟨answer, -, rfl⟩ := Option.map_eq_some_iff.mp leads
        split <;> [simp; split <;> [simp; split <;> simp]]

theorem confirmPlan_preapproved {k : Nat} {answer : Option String} {plan : List String}
    (preapproved : s.preapproved = true) (steps : s.steps = some plan) :
    runNode a t k answer s .confirmPlan =
      ⟨{ s with context := s.context ++ [.human "yes"] }, [.confirmed plan], .goto .executeStep⟩ := by
  simp [runNode, confirmPlan, preapproved, leaveConfirm, planCompleteDecision, steps, Message.content,
    decision_yes]

theorem confirmPlan_stepless {k : Nat} {answer : Option String} (steps : s.steps = none) :
    ∃ context, runNode a t k answer s .confirmPlan =
      ⟨{ s with context := context }, [], .goto .responseSummary⟩ := by
  obtain ⟨objective, preapproved, context, held, pastSteps, response⟩ := s
  cases (steps : held = none)
  cases preapproved
  · exact ⟨context, rfl⟩
  · exact ⟨context ++ [.human "yes"], rfl⟩

theorem confirmPlan_asks {k : Nat} {plan : List String} (asked : s.preapproved = false)
    (steps : s.steps = some plan) :
    runNode a t k none s .confirmPlan = ⟨s, [.shown plan], .interrupt⟩ := by
  simp [runNode, confirmPlan, asked, steps]

theorem confirmPlan_answered {k : Nat} {text : String} {plan : List String}
    (asked : s.preapproved = false) (steps : s.steps = some plan) :
    runNode a t k (some text) s .confirmPlan = match decision a.loads text (t.reading k) with
      | none => ⟨s, [.answered text (t.reading k)], .raise⟩
      | some node => ⟨{ s with context := s.context ++ [.human text] },
          [.answered text (t.reading k)] ++ if node = .executeStep then [.confirmed plan] else [],
          .goto node⟩ := by
  obtain ⟨objective, preapproved, context, held, pastSteps, response⟩ := s
  cases (steps : held = some plan)
  cases (asked : preapproved = false)
  have last : (context ++ [Message.human text]).getLast? = some (.human text) :=
    List.getLast?_concat
  simp only [runNode, confirmPlan, leaveConfirm, planCompleteDecision, last]
  rfl

/-! Working on a plan. -/

/-- What there is to see of the work on a plan: only tools of the agent are run, and only for it. -/
def Event.IsWork (a : Agent) (plan : List String) : Event → Prop
  | .ran worked tool => worked = plan ∧ tool ∈ a.tools
  | .submitted _ _ | .finished | .raised | .outOfSteps => True
  | .started _ | .shown _ | .answered _ _ | .confirmed _ => False

def Node.IsWork : Node → Prop
  | .executeStep | .runStepTool | .responseSummary => True
  | .buildPlan | .confirmPlan => False

theorem callTools_mem (result : Nat → Option Json) (calls : List ToolCall) (i : Nat)
    (outputs : List Message) (toolResult : Json) :
    ∀ tool ∈ (callTools a result calls i outputs toolResult).1, tool ∈ a.tools := by
  induction calls generalizing i outputs toolResult with
  | nil => exact nofun
  | cons call rest ih =>
    unfold callTools
    split
    · exact nofun
    · rename_i known
      have known := not_not.mp known
      split
      · intro tool member
        exact List.mem_singleton.mp member ▸ known
      · intro tool member
        rcases List.mem_cons.mp member with rfl | member
        · exact known
        · exact ih _ _ _ tool member

theorem runNode_work {k : Nat} {answer : Option String} {node : Node} (works : node.IsWork) :
    (∀ e ∈ (runNode a t k answer s node).events, e.IsWork a (s.steps.getD [])) ∧
      (runNode a t k answer s node).channels.steps = s.steps ∧
      (runNode a t k answer s node).next ≠ .interrupt ∧
      ∀ next, (runNode a t k answer s node).next = .goto next → next.IsWork := by
  cases node with
  | buildPlan | confirmPlan => exact works.elim
  | executeStep =>
    have edge : ∀ s, (shouldRunTool s).IsWork := fun s => by
      unfold shouldRunTool
      split <;> trivial
    unfold runNode executeStep
    cases steps : s.steps with
    | none => exact ⟨nofun, steps, nofun, nofun⟩
    | some plan =>
      dsimp only
      split
      · exact ⟨nofun, rfl, nofun, fun next same => by cases same; exact edge _⟩
      · split
        · exact ⟨nofun, steps, nofun, nofun⟩
        · have shown : ∀ e ∈ [Event.submitted ‹String› (plan.idxOf ‹String›)],
              e.IsWork a ((some plan).getD []) := by
            intro e member
            rw [List.mem_singleton.mp member]
            trivial
          split
          · exact ⟨shown, steps, nofun, nofun⟩
          · exact ⟨shown, rfl, nofun, fun next same => by cases same; exact edge _⟩
  | runStepTool =>
    have ran : ∀ e ∈ (callTools a (t.result k) (s.context.getLast?.elim [] Message.toolCalls) 0 []
        (.obj [])).1.map (Event.ran (s.steps.getD [])), e.IsWork a (s.steps.getD []) := by
      intro e member
      obtain ⟨tool, called, rfl⟩ := List.mem_map.mp member
      exact ⟨rfl, callTools_mem _ _ _ _ _ tool called⟩
    unfold runNode toolNode
    dsimp only
    split
    · exact ⟨ran, rfl, nofun, nofun⟩
    · refine ⟨ran, rfl, nofun, fun next same => ?_⟩
      cases same
      unfold shouldEnd
      split <;> trivial
  | responseSummary =>
    unfold runNode responseSummary
    dsimp only
    split <;> exact ⟨nofun, rfl, nofun, nofun⟩

theorem go_work {fuel k : Nat} {answer : Option String} {node : Node} (works : node.IsWork) :
    (∀ e ∈ (go a t fuel k answer node s).log, e.IsWork a (s.steps.getD [])) ∧
      (go a t fuel k answer node s).asking = false := by
  induction fuel generalizing k answer node s with
  | zero =>
    refine ⟨fun e member => ?_, rfl⟩
    rw [List.mem_singleton.mp member]
    trivial
  | succ fuel ih =>
    obtain ⟨events, steps, open', edge⟩ := @runNode_work a t s k answer node works
    rw [go]
    dsimp only
    split
    · rename_i next leads
      obtain ⟨later, asking⟩ := @ih (runNode a t k answer s node).channels (k + 1) none next
        (edge next leads)
      rw [steps] at later
      refine ⟨fun e member => ?_, asking⟩
      rcases List.mem_append.mp member with member | member
      · exact events e member
      · exact later e member
    · rename_i stops
      exact absurd stops open'
    · refine ⟨fun e member => ?_, rfl⟩
      rcases List.mem_append.mp member with member | member
      · exact events e member
      · rw [List.mem_singleton.mp member]
        trivial
    · refine ⟨fun e member => ?_, ?_⟩
      · rcases List.mem_append.mp member with member | member
        · exact events e member
        · rw [List.mem_singleton.mp member]
          trivial
      · cases node <;> first | exact works.elim | exact Bool.and_false _

end NetworkAgent.Engineer
