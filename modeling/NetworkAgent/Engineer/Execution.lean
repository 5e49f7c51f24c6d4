import NetworkAgent.Engineer.Nodes

/-! How far a confirmed plan is executed: which steps are submitted to the model, and when these
are the steps of the plan one after the other. -/
namespace NetworkAgent.Engineer

def submissions (events : List Event) : List (String × Nat) :=
  events.filterMap fun
    | .submitted step position => some (step, position)
    | _ => none

def Turn.CallsTool (t : Turn) (k : Nat) : Prop := (t.reply k).elim [] Prod.snd ≠ []

/-- The condition to get through the steps from superstep `k` on, with room for so many nodes: no
text comes twice or is completed, and the model calls a tool on each but the last. -/
structure Straight (t : Turn) (steps completed : List String) (k room : Nat) : Prop where
  fresh : ∀ step ∈ steps, step ∉ completed
  distinct : steps.Nodup
  called : ∀ i, i + 1 < steps.length → t.CallsTool (k + 2 * i)
  room : ∀ i < steps.length, 2 * i < room

variable {a : Agent} {t : Turn} {s : Channels}

theorem straight_nil {completed : List String} {k room : Nat} : Straight t [] completed k room :=
  ⟨nofun, .nil, nofun, nofun⟩

theorem straight_cons {x : String} {rest completed : List String} {k room : Nat} :
    Straight t (x :: rest) completed k room ↔ x ∉ completed ∧ 0 < room ∧
      (rest ≠ [] → t.CallsTool k) ∧ Straight t rest (completed ++ [x]) (k + 2) (room - 2) := by
  constructor
  · rintro ⟨fresh, distinct, called, enough⟩
    obtain ⟨alone, distinct⟩ := List.nodup_cons.mp distinct
    refine ⟨fresh x List.mem_cons_self, enough 0 (by simp), fun more => called 0 ?_,
      fun y member => ?_, distinct, fun i within => ?_, fun i within => ?_⟩
    · have := List.length_pos_iff.mpr more
      simpa using this
    · have before := fresh y (List.mem_cons_of_mem x member)
      have other : y ≠ x := fun same => alone (same ▸ member)
      simp [before, other]
    · have later := called (i + 1) (by simpa using within)
      rwa [show k + 2 + 2 * i = k + 2 * (i + 1) by omega]
    · have later := enough (i + 1) (by simpa using within)
      omega
  · rintro ⟨fresh, enough, called, later⟩
    refine ⟨fun y member => ?_, ?_, fun i within => ?_, fun i within => ?_⟩
    · rcases List.mem_cons.mp member with rfl | member
      · exact fresh
      · exact fun completed => later.fresh y member (List.mem_append_left _ completed)
    · refine List.nodup_cons.mpr ⟨fun member => ?_, later.distinct⟩
      exact later.fresh x member (List.mem_append_right _ (List.mem_singleton.mpr rfl))
    · cases i with
      | zero =>
        refine called fun none => ?_
        rw [none] at within
        simp at within
      | succ i =>
        have := later.called i (by simpa using within)
        rwa [show k + 2 + 2 * i = k + 2 * (i + 1) by omega] at this
    · cases i with
      | zero => simpa using enough
      | succ i =>
        have := later.room i (by simpa using within)
        omega

/-! One superstep. -/

@[simp] theorem submissions_append (before after : List Event) :
    submissions (before ++ after) = submissions before ++ submissions after := by
  simp [submissions]

@[simp] theorem submissions_submitted (x : String) (i : Nat) (later : List Event) :
    submissions (.submitted x i :: later) = (x, i) :: submissions later := rfl

theorem submissions_ran (plan tools : List String) :
    submissions (tools.map (Event.ran plan)) = [] := by
  induction tools with
  | nil => rfl
  | cons tool rest ih => exact ih

theorem submissions_summary (fuel k : Nat) (answer : Option String) :
    submissions (go a t fuel k answer .responseSummary s).log = [] := by
  cases fuel with
  | zero => rfl
  | succ fuel =>
    unfold go runNode responseSummary
    dsimp only
    cases t.summary k <;> rfl

theorem submissions_completed {plan : List String} (steps : s.steps = some plan)
    (completed : incompleteSteps plan s.completed = []) (fuel k : Nat) (answer : Option String) :
    submissions (go a t fuel k answer .executeStep s).log = [] := by
  cases fuel with
  | zero => rfl
  | succ fuel =>
    have node : ∃ after, runNode a t k answer s .executeStep =
        ⟨after, [], .goto .responseSummary⟩ := by
      simp [runNode, executeStep, steps, completed, shouldRunTool, Message.toolCalls]
    obtain ⟨after, node⟩ := node
    rw [go_goto node, submissions_append, submissions_summary]
    rfl

theorem go_executeStep {plan rest : List String} {x : String} (steps : s.steps = some plan)
    (next : incompleteSteps plan s.completed = x :: rest) {fuel k : Nat} {answer : Option String}
    (quiet : .raised ∉ (go a t (fuel + 1) k answer .executeStep s).log) :
    ∃ after : Channels, (go a t (fuel + 1) k answer .executeStep s).log =
        .submitted x (plan.idxOf x) :: (go a t fuel (k + 1) none (shouldRunTool after) after).log ∧
      after.steps = some plan ∧ after.completed = s.completed ∧
      (shouldRunTool after = .runStepTool ∧ t.CallsTool k ∨
        shouldRunTool after = .responseSummary ∧ ¬ t.CallsTool k) := by
  have node : (runNode a t k answer s .executeStep).next = .raise ∨ ∃ after : Channels,
      runNode a t k answer s .executeStep =
        ⟨after, [.submitted x (plan.idxOf x)], .goto (shouldRunTool after)⟩ ∧
      after.steps = some plan ∧ after.completed = s.completed ∧
      (shouldRunTool after = .runStepTool ∧ t.CallsTool k ∨
        shouldRunTool after = .responseSummary ∧ ¬ t.CallsTool k) := by
    unfold runNode executeStep
    rw [steps]
    dsimp only
    rw [next]
    dsimp only
    split
    · exact .inl rfl
    · cases reply : t.reply k with
      | none => exact .inl rfl
      | some answered =>
        obtain ⟨content, toolCalls⟩ := answered
        refine .inr ⟨_, rfl, rfl, rfl, ?_⟩
        cases toolCalls with
        | nil =>
          exact .inr ⟨by simp [shouldRunTool, Message.toolCalls], by simp [Turn.CallsTool, reply]⟩
        | cons call calls =>
          exact .inl ⟨by simp [shouldRunTool, Message.toolCalls], by simp [Turn.CallsTool, reply]⟩
  rcases node with fails | ⟨after, node, kept⟩
  · exact absurd (go_raise fails) quiet
  · exact ⟨after, go_goto node, kept⟩

theorem go_runStepTool {plan rest : List String} {x : String} (steps : s.steps = some plan)
    (next : incompleteSteps plan s.completed = x :: rest) {fuel k : Nat} {answer : Option String}
    (quiet : .raised ∉ (go a t (fuel + 1) k answer .runStepTool s).log) :
    ∃ (after : Channels) (tools : List String), (go a t (fuel + 1) k answer .runStepTool s).log =
        tools.map (Event.ran plan) ++ (go a t fuel (k + 1) none (shouldEnd after) after).log ∧
      after.steps = some plan ∧ after.completed = s.completed ++ [x] := by
  have done : runStep s = x := by simp [runStep, steps, next]
  have node : (runNode a t k answer s .runStepTool).next = .raise ∨
      ∃ (after : Channels) (tools : List String), runNode a t k answer s .runStepTool =
        ⟨after, tools.map (Event.ran plan), .goto (shouldEnd after)⟩ ∧
      after.steps = some plan ∧ after.completed = s.completed ++ [x] := by
    unfold runNode toolNode
    rw [done, steps]
    dsimp only
    split
    · exact .inl rfl
    · exact .inr ⟨_, _, rfl, rfl, by simp [Channels.completed]⟩
  rcases node with fails | ⟨after, tools, node, kept⟩
  · exact absurd (go_raise fails) quiet
  · exact ⟨after, tools, go_goto node, kept⟩

/-! A whole plan. -/

theorem idxOf_of_done {done rest completed : List String} {x : String}
    (before : ∀ y ∈ done, y ∈ completed) (fresh : x ∉ completed) :
    (done ++ x :: rest).idxOf x = done.length := by
  rw [List.idxOf_append_of_notMem fun member => fresh (before x member)]
  simp

theorem incompleteSteps_of_done {done rest completed : List String}
    (before : ∀ y ∈ done, y ∈ completed) :
    incompleteSteps (done ++ rest) completed = incompleteSteps rest completed := by
  simpa [incompleteSteps] using before

theorem notMem_of_next {plan others completed : List String} {y : String}
    (next : incompleteSteps plan completed = y :: others) : y ∉ completed := by
  have member : y ∈ incompleteSteps plan completed := next ▸ List.mem_cons_self
  simpa using (List.mem_filter.mp member).2

theorem nothing_submitted_iff {rest completed : List String} {n k room : Nat} {C : Prop}
    (blocked : rest ≠ [] → C → ¬ Straight t rest completed k room) :
    [] = rest.zipIdx n ↔ (rest ≠ [] → C) ∧ Straight t rest completed k room := by
  rw [eq_comm, List.zipIdx_eq_nil_iff]
  constructor
  · rintro rfl
    exact ⟨fun more => absurd rfl more, straight_nil⟩
  · rintro ⟨called, straight⟩
    by_contra more
    exact blocked more (called more) straight

/-- From `execute_step` on, the rest of a plan is submitted step by step exactly when it can be got
through; the induction is on that rest. -/
theorem submissions_go (rest : List String) : ∀ {done : List String} {fuel k : Nat} {s : Channels},
    s.steps = some (done ++ rest) → (∀ step ∈ done, step ∈ s.completed) →
    .raised ∉ (go a t fuel k none .executeStep s).log →
    (submissions (go a t fuel k none .executeStep s).log = rest.zipIdx done.length ↔
      Straight t rest s.completed k fuel) := by
  induction rest with
  | nil =>
    intro done fuel k s steps before quiet
    rw [submissions_completed steps (incompleteSteps_of_done before)]
    exact ⟨fun _ => straight_nil, fun _ => rfl⟩
  | cons x rest ih =>
    intro done fuel k s steps before quiet
    rw [straight_cons, List.zipIdx_cons]
    cases fuel with
    | zero =>
      refine ⟨fun same => ?_, fun straight => absurd straight.2.1 (lt_irrefl 0)⟩
      cases same
    | succ fuel =>
      by_cases fresh : x ∈ s.completed
      · -- whatever is submitted first is another text
        refine ⟨fun same => ?_, fun straight => absurd fresh straight.1⟩
        cases next : incompleteSteps (done ++ x :: rest) s.completed with
        | nil =>
          rw [submissions_completed steps next] at same
          cases same
        | cons y others =>
          obtain ⟨after, log, -⟩ := go_executeStep steps next quiet
          rw [log] at same
          have first : y = x := congrArg Prod.fst (List.cons.inj same).1
          exact absurd fresh (first ▸ notMem_of_next next)
      · have next : incompleteSteps (done ++ x :: rest) s.completed =
            x :: incompleteSteps rest s.completed := by
          rw [incompleteSteps_of_done before]
          simp [incompleteSteps, fresh]
        obtain ⟨after, log, steps', completed', leads⟩ := go_executeStep steps next quiet
        rw [log] at quiet ⊢
        rw [idxOf_of_done before fresh, submissions_submitted, List.cons.injEq]
        have quiet := fun raised => quiet (List.mem_cons_of_mem _ raised)
        refine (and_iff_right rfl).trans (Iff.trans ?_ ((and_iff_right fresh).trans
          (and_iff_right fuel.succ_pos)).symm)
        rcases leads with ⟨leads, calls⟩ | ⟨leads, silent⟩
        · rw [leads] at quiet ⊢
          cases fuel with
          | zero =>
            refine nothing_submitted_iff fun more _ straight => ?_
            have room := straight.room 0 (List.length_pos_iff.mpr more)
            omega
          | succ fuel =>
            obtain ⟨after', tools, log, steps'', completed''⟩ :=
              go_runStepTool steps' (completed' ▸ next) quiet
            rw [log] at quiet ⊢
            rw [submissions_append, submissions_ran, List.nil_append]
            have quiet := fun raised => quiet (List.mem_append_right _ raised)
            rw [completed'] at completed''
            unfold shouldEnd at quiet ⊢
            rw [steps'', Option.getD_some] at quiet ⊢
            have split : done ++ x :: rest = (done ++ [x]) ++ rest := by simp
            have before' : ∀ step ∈ done ++ [x], step ∈ after'.completed := by
              rw [completed'']
              intro step member
              rcases List.mem_append.mp member with member | member
              · exact List.mem_append_left _ (before step member)
              · exact List.mem_append_right _ member
            rw [split, incompleteSteps_of_done before'] at quiet ⊢
            split at quiet
            · rename_i ended
              rw [if_pos ended, submissions_summary]
              refine nothing_submitted_iff fun more _ straight => ?_
              obtain ⟨y, others, rfl⟩ := List.exists_cons_of_ne_nil more
              have left := straight.fresh y List.mem_cons_self
              have there := List.filter_eq_nil_iff.mp (List.isEmpty_iff.mp ended) y List.mem_cons_self
              exact there (by simpa [completed''] using left)
            · rename_i left
              rw [if_neg left, ← completed'']
              have later := ih (split ▸ steps'') before' quiet
              rw [List.length_append] at later
              exact later.trans (and_iff_right fun _ => calls).symm
        · rw [leads, submissions_summary]
          exact nothing_submitted_iff fun _ called _ => silent called

/-! A turn. -/

theorem confirmed_notMem_work {plan : List String} {fuel k : Nat} {answer : Option String}
    {node : Node} (works : node.IsWork) : .confirmed plan ∉ (go a t fuel k answer node s).log :=
  fun seen => (go_work works).1 _ seen

theorem confirmed_notMem_unanswered (asked : s.preapproved = false) (plan : List String)
    (fuel k : Nat) : .confirmed plan ∉ (go a t fuel k none .confirmPlan s).log := by
  cases fuel with
  | zero => simp [go]
  | succ fuel =>
    cases steps : s.steps with
    | none =>
      obtain ⟨context, node⟩ := @confirmPlan_stepless a t s k none steps
      rw [go_goto node]
      exact confirmed_notMem_work trivial
    | some shown =>
      rw [go, confirmPlan_asks asked steps]
      simp

theorem go_confirmPlan {plan : List String} {fuel k : Nat} {answer : Option String}
    (seen : .confirmed plan ∈ (go a t fuel k answer .confirmPlan s).log)
    (quiet : .raised ∉ (go a t fuel k answer .confirmPlan s).log) :
    ∃ (later : Nat) (after : Channels) (events : List Event), fuel = later + 1 ∧
      after.steps = some plan ∧ after.completed = s.completed ∧ submissions events = [] ∧
      (go a t fuel k answer .confirmPlan s).log =
        events ++ (go a t later (k + 1) none .executeStep after).log := by
  cases fuel with
  | zero => simp [go] at seen
  | succ fuel =>
    have only : ∀ {after : Channels} {events : List Event} {shown : List String},
        runNode a t k answer s .confirmPlan =
          ⟨after, events ++ [.confirmed shown], .goto .executeStep⟩ →
        .confirmed plan ∉ events → after.steps = some shown → after.steps = some plan := by
      intro after events shown node other steps
      rw [go_goto node] at seen
      rcases List.mem_append.mp seen with first | work
      · rcases List.mem_append.mp first with before | here
        · exact absurd before other
        · cases List.mem_singleton.mp here
          exact steps
      · exact absurd work (confirmed_notMem_work trivial)
    cases steps : s.steps with
    | none =>
      obtain ⟨context, node⟩ := @confirmPlan_stepless a t s k answer steps
      rw [go_goto node] at seen
      exact absurd seen (confirmed_notMem_work trivial)
    | some shown =>
      cases asked : s.preapproved with
      | true =>
        have node := @confirmPlan_preapproved a t s k answer shown asked steps
        exact ⟨fuel, _, _, rfl, @only _ [] _ node (by simp) steps, rfl, rfl, go_goto node⟩
      | false =>
        cases answer with
        | none => exact absurd seen (confirmed_notMem_unanswered asked plan _ _)
        | some text =>
          have node := @confirmPlan_answered a t s k text shown asked steps
          cases leads : decision a.loads text (t.reading k) with
          | none =>
            rw [leads] at node
            exact absurd (go_raise (by rw [node])) quiet
          | some next =>
            rw [leads] at node
            dsimp only at node
            rcases decision_cases leads with rfl | rfl | rfl
            · rw [if_pos rfl] at node
              exact ⟨fuel, _, _, rfl, only node (by simp) steps, rfl, rfl, go_goto node⟩
            · rw [go_goto node] at seen
              rcases List.mem_append.mp seen with first | work
              · simp at first
              · exact absurd work (confirmed_notMem_work trivial)
            · rw [go_goto node] at seen quiet
              rcases List.mem_append.mp seen with first | later
              · simp at first
              · obtain ⟨_, after, -, same, -, log⟩ := go_buildPlan later (by simp)
                  fun raised => quiet (List.mem_append_right _ raised)
                rw [log] at later
                exact absurd later (confirmed_notMem_unanswered (same.trans asked) plan _ _)

/-- The superstep that `execute_step` comes at in a turn whose plan is confirmed. -/
def Thread.first (th : Thread) : Nat := if th.asking then 1 else 2

theorem turn_submits_iff (th : Thread) {plan : List String}
    (confirmed : .confirmed plan ∈ (turn a th t).log) (quiet : .raised ∉ (turn a th t).log) :
    submissions (turn a th t).log = plan.zipIdx ↔
      Straight t plan th.channels.completed th.first
        (a.nodes th.asking recursionLimit - th.first) := by
  have whole : ∀ {k later : Nat} {after : Channels} {before events : List Event},
      after.steps = some plan → after.completed = th.channels.completed →
      submissions before = [] → submissions events = [] →
      (turn a th t).log = before ++ (events ++ (go a t later k none .executeStep after).log) →
      (submissions (turn a th t).log = plan.zipIdx ↔
        Straight t plan th.channels.completed k later) := by
    intro k later after before events steps completed silent silent' log
    have calm : .raised ∉ (go a t later k none .executeStep after).log := fun raised =>
      quiet (log ▸ List.mem_append_right _ (List.mem_append_right _ raised))
    rw [log, submissions_append, submissions_append, silent, silent', ← completed]
    exact @submissions_go a t plan [] later k after steps nofun calm
  unfold Thread.first
  cases asking : th.asking with
  | true =>
    have run : turn a th t = go a t (a.nodes true recursionLimit) 0 (some t.query) .confirmPlan
        th.channels := if_pos asking
    rw [run] at confirmed quiet
    obtain ⟨later, after, events, room, steps, completed, silent, log⟩ :=
      go_confirmPlan confirmed quiet
    rw [room]
    exact @whole 1 later after [] events steps completed rfl silent (run ▸ log)
  | false =>
    have run : (turn a th t).log = .started t.preapproved ::
        (go a t (a.nodes false recursionLimit) 0 none .buildPlan { th.channels with
          objective := t.query, preapproved := t.preapproved }).log := by
      unfold turn
      rw [asking]
      rfl
    rw [run] at confirmed quiet
    have confirmed := (List.mem_cons.mp confirmed).resolve_left nofun
    have quiet := fun raised => quiet (List.mem_cons_of_mem _ raised)
    obtain ⟨built, made, nodes, -, unchanged, log⟩ := go_buildPlan confirmed ⟨nofun, nofun⟩ quiet
    rw [log] at confirmed quiet run
    obtain ⟨later, after, events, room, steps, completed, silent, log⟩ :=
      go_confirmPlan confirmed quiet
    rw [nodes, room]
    exact @whole 2 later after [.started t.preapproved] events steps (completed.trans unchanged) rfl
      silent (run.trans (congrArg _ log))

/-- On a thread with any history, a confirmed plan is submitted as a whole, each step once and in
order, exactly when no text comes twice in it or was completed on the thread before, the model
calls a tool on every step but the last, and the run has nodes enough. -/
theorem confirmed_plan_submitted_iff (a : Agent) (before : List Turn) (t : Turn) (plan : List String)
    (confirmed : .confirmed plan ∈ (turn a (session a before) t).log)
    (quiet : .raised ∉ (turn a (session a before) t).log) :
    submissions (turn a (session a before) t).log = plan.zipIdx ↔
      Straight t plan (session a before).channels.completed (session a before).first
        (a.nodes (session a before).asking recursionLimit - (session a before).first) :=
  turn_submits_iff _ confirmed quiet

namespace Sample

/-- An agent with the tools that its server has, as far as they matter here. -/
def agent : Agent where
  loads _ := none
  dumps _ := ""
  tools := ["getNetworkDesign", "getLocations", "getServices", "createLocation", "deleteTest"]
  nodes _ limit := limit
  limit_le_nodes _ _ := le_rfl
  keepsInterrupt := true

/-- A preapproved objective, with the plan for it and the tool the model calls on every step. -/
def objective (plan : List String) (tool : String) : Turn where
  query := "build a site"
  preapproved := true
  plan _ := some (some plan)
  reading _ := none
  reply _ := some ("", [⟨tool, .obj [], "call-1"⟩])
  result _ _ := some (.str "done")
  summary _ := some "all done"

def earlier : Turn := objective ["list the locations"] "getLocations"

def twoSteps : List String := ["create a location", "list the services"]

def twice : List String := ["create a location", "create a location"]

end Sample

open Sample in
theorem two_steps_submitted :
    submissions (turn agent (session agent [earlier]) (objective twoSteps "createLocation")).log =
      twoSteps.zipIdx := by
  have completed : (session agent [earlier]).channels.completed = ["list the locations"] := by decide
  have first : (session agent [earlier]).first = 2 := by decide
  refine (confirmed_plan_submitted_iff agent [earlier] _ twoSteps (by decide) (by decide)).mpr
    ⟨?_, by decide, fun i _ => ?_, fun i within => ?_⟩
  · rw [completed]
    decide
  · simp [Turn.CallsTool, objective]
  · have few : i < 2 := within
    rw [first]
    show 2 * i < 50 - 2
    omega

open Sample in
/-- The second of two equal steps is left out. -/
theorem second_step_left_out :
    .confirmed twice ∈ (turn agent (session agent []) (objective twice "createLocation")).log ∧
      .raised ∉ (turn agent (session agent []) (objective twice "createLocation")).log ∧
      submissions (turn agent (session agent []) (objective twice "createLocation")).log ≠
        twice.zipIdx := by
  decide

end NetworkAgent.Engineer
