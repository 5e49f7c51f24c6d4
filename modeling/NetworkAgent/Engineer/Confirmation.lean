import NetworkAgent.Engineer.Execution

/-! Which tools are run, and for which plans: what stands confirmed is read off what was seen of
the thread, and the runs of the graph keep to it. -/
namespace NetworkAgent.Engineer

inductive Verdict where
  | confirm | decline | unread
  deriving DecidableEq

/-- What an answer to a plan means, as the widget, the word or the model's reading has it. -/
def verdict (loads : String → Option Json) (text : String) (reading : Option String) : Verdict :=
  match widgetApproval loads text with
  | some approved => if approved then .confirm else .decline
  | none =>
    if lower (strip text) ∈ confirmWords then .confirm
    else if lower (strip text) ∈ cancelWords then .decline
    else reading.elim .unread fun read => if read = "confirmed" then .confirm else .decline

/-- The plan that may be worked on: any plan of a preapproved objective, or the one confirmed by
the answer after it was shown. -/
inductive Standing where
  | nothing
  | preapproved
  | shown (plan : List String)
  | confirmed (plan : List String)

def Standing.after (loads : String → Option Json) : Standing → Event → Standing
  | _, .started approved => if approved then .preapproved else .nothing
  | _, .shown plan => .shown plan
  | .shown plan, .answered text reading =>
    match verdict loads text reading with
    | .confirm => .confirmed plan
    | .decline => .nothing
    | .unread => .shown plan
  | _, .answered _ _ => .nothing
  | standing, .confirmed _ | standing, .submitted _ _ | standing, .ran _ _ | standing, .finished
  | standing, .raised | standing, .outOfSteps => standing

abbrev standing (loads : String → Option Json) (seen : List Event) : Standing :=
  Runs.run (Standing.after loads) .nothing seen

def Standing.Permits : Standing → List String → Prop
  | .preapproved, _ => True
  | .confirmed plan, worked => worked = plan
  | .nothing, _ | .shown _, _ => False

def Granted (tools : List String) (standing : Standing) (e : Event) : Prop :=
  ∀ worked tool, e = .ran worked tool → standing.Permits worked ∧ tool ∈ tools

variable {a : Agent} {t : Turn} {s : Channels} {σ : Standing}

theorem decision_of_verdict {loads : String → Option Json} {text : String}
    {reading : Option String} : match verdict loads text reading with
      | .confirm => decision loads text reading = some .executeStep
      | .decline => decision loads text reading = some .responseSummary ∨
          decision loads text reading = some .buildPlan
      | .unread => decision loads text reading = none := by
  unfold verdict decision
  cases widgetApproval loads text with
  | some approved =>
    cases approved
    · exact .inl rfl
    · rfl
  | none =>
    dsimp only
    generalize lower (strip text) = word
    by_cases yes : word ∈ confirmWords
    · rw [if_pos yes, if_pos yes]
    · by_cases no : word ∈ cancelWords
      · rw [if_neg yes, if_pos no, if_neg yes, if_pos no]
        exact .inl rfl
      · rw [if_neg yes, if_neg no, if_neg yes, if_neg no]
        cases reading with
        | none => rfl
        | some read =>
          dsimp only [Option.elim_some, Option.map_some]
          by_cases confirmed : read = "confirmed"
          · rw [if_pos confirmed, if_pos confirmed]
          · rw [if_neg confirmed, if_neg confirmed]
            by_cases cancelled : read = "cancelled"
            · exact .inl (by rw [if_pos cancelled])
            · by_cases amend : read = "amend"
              · exact .inr (by rw [if_neg cancelled, if_pos amend])
              · exact .inl (by rw [if_neg cancelled, if_neg amend])

/-! Runs of the graph. -/

/-- From what stands, a run goes on as granted, and what it asks at the end is what stands then. -/
def Thread.Keeps (a : Agent) (σ : Standing) (th : Thread) : Prop :=
  Runs.Along (Standing.after a.loads) (Granted a.tools) σ th.log ∧
    (th.asking = true → th.channels.preapproved = false ∧ ∃ plan, th.channels.steps = some plan ∧
      Runs.run (Standing.after a.loads) σ th.log = .shown plan)

theorem along_work {events : List Event} {plan : List String} (permits : σ.Permits plan)
    (works : ∀ e ∈ events, e.IsWork a plan) :
    Runs.Along (Standing.after a.loads) (Granted a.tools) σ events := by
  induction events with
  | nil => trivial
  | cons e rest ih =>
    have work := works e List.mem_cons_self
    have same : Standing.after a.loads σ e = σ := by
      cases e with
      | started | shown | answered | confirmed => exact work.elim
      | submitted | ran | finished | raised | outOfSteps => cases σ <;> rfl
    refine ⟨?_, same.symm ▸ ih fun e member => works e (List.mem_cons_of_mem _ member)⟩
    rintro worked tool rfl
    exact ⟨work.1 ▸ permits, work.2⟩

theorem keeps_work {fuel k : Nat} {answer : Option String} {node : Node} (works : node.IsWork)
    {plan : List String} (steps : s.steps = some plan) (permits : σ.Permits plan) :
    (go a t fuel k answer node s).Keeps a σ := by
  obtain ⟨work, idle⟩ := @go_work a t s fuel k answer node works
  rw [steps] at work
  exact ⟨along_work permits work, fun asking => by rw [idle] at asking; cases asking⟩

theorem keeps_summary (fuel k : Nat) (answer : Option String) :
    (go a t fuel k answer .responseSummary s).Keeps a σ := by
  cases fuel with
  | zero => exact ⟨⟨by rintro _ _ ⟨⟩, trivial⟩, by rintro ⟨⟩⟩
  | succ fuel =>
    unfold go runNode responseSummary
    dsimp only
    cases t.summary k with
    | none =>
      refine ⟨⟨by rintro _ _ ⟨⟩, trivial⟩, fun asking => ?_⟩
      rw [show (a.keepsInterrupt && decide (Node.responseSummary = .confirmPlan)) = false from
        Bool.and_false _] at asking
      cases asking
    | some content => exact ⟨⟨by rintro _ _ ⟨⟩, trivial⟩, by rintro ⟨⟩⟩

theorem keeps_goto {fuel k : Nat} {answer : Option String} {node next : Node} {after : Channels}
    {events : List Event} (leads : runNode a t k answer s node = ⟨after, events, .goto next⟩)
    (granted : Runs.Along (Standing.after a.loads) (Granted a.tools) σ events)
    (later : (go a t fuel (k + 1) none next after).Keeps a
      (Runs.run (Standing.after a.loads) σ events)) :
    (go a t (fuel + 1) k answer node s).Keeps a σ := by
  have asking : (go a t (fuel + 1) k answer node s).asking =
      (go a t fuel (k + 1) none next after).asking ∧
      (go a t (fuel + 1) k answer node s).channels =
      (go a t fuel (k + 1) none next after).channels := by
    rw [go]
    dsimp only
    rw [leads]
    exact ⟨rfl, rfl⟩
  unfold Thread.Keeps
  rw [go_goto leads, Runs.along_append, Runs.run_append, asking.1, asking.2]
  exact ⟨⟨granted, later.1⟩, later.2⟩

theorem keeps_unanswered {fuel k : Nat} (approved : s.preapproved = true → σ = .preapproved) :
    (go a t fuel k none .confirmPlan s).Keeps a σ := by
  cases fuel with
  | zero => exact ⟨⟨by rintro _ _ ⟨⟩, trivial⟩, by rintro ⟨⟩⟩
  | succ fuel =>
    cases steps : s.steps with
    | none =>
      obtain ⟨context, node⟩ := @confirmPlan_stepless a t s k none steps
      exact keeps_goto node trivial (keeps_summary _ _ _)
    | some plan =>
      cases asked : s.preapproved with
      | true =>
        have same := approved asked
        subst same
        exact keeps_goto (confirmPlan_preapproved asked steps) ⟨by rintro _ _ ⟨⟩, trivial⟩ (keeps_work trivial steps trivial)
      | false =>
        rw [go, confirmPlan_asks asked steps]
        exact ⟨⟨by rintro _ _ ⟨⟩, trivial⟩, fun _ => ⟨asked, plan, steps, by cases σ <;> rfl⟩⟩

theorem keeps_build {fuel k : Nat} {answer : Option String}
    (approved : s.preapproved = true → σ = .preapproved) :
    (go a t fuel k answer .buildPlan s).Keeps a σ := by
  cases fuel with
  | zero => exact ⟨⟨by rintro _ _ ⟨⟩, trivial⟩, by rintro ⟨⟩⟩
  | succ fuel =>
    rcases runNode_buildPlan (a := a) (t := t) (s := s) k answer with node | ⟨after, node, same, -⟩
    · rw [go, node]
      exact ⟨⟨by rintro _ _ ⟨⟩, trivial⟩, fun asking => by simp at asking⟩
    · exact keeps_goto node trivial (keeps_unanswered fun preapproved => approved (same ▸ preapproved))

theorem keeps_answered {fuel k : Nat} {text : String} {plan : List String}
    (asked : s.preapproved = false) (steps : s.steps = some plan) :
    (go a t fuel k (some text) .confirmPlan s).Keeps a (.shown plan) := by
  cases fuel with
  | zero => exact ⟨⟨by rintro _ _ ⟨⟩, trivial⟩, by rintro ⟨⟩⟩
  | succ fuel =>
    have node := @confirmPlan_answered a t s k text plan asked steps
    have routed := @decision_of_verdict a.loads text (t.reading k)
    have next : Standing.after a.loads (.shown plan) (.answered text (t.reading k)) =
        match verdict a.loads text (t.reading k) with
        | .confirm => .confirmed plan
        | .decline => .nothing
        | .unread => .shown plan := rfl
    cases said : verdict a.loads text (t.reading k) with
    | confirm =>
      rw [said] at routed next
      rw [routed] at node
      refine keeps_goto node ⟨by rintro _ _ ⟨⟩, by rintro _ _ ⟨⟩, trivial⟩ ?_
      rw [Runs.run_append]
      exact keeps_work trivial steps (show (Standing.after a.loads (Standing.after a.loads
        (.shown plan) (.answered text (t.reading k))) (.confirmed plan)).Permits plan from
          next.symm ▸ rfl)
    | decline =>
      rw [said] at routed next
      rcases routed with routed | routed
      · rw [routed] at node
        exact keeps_goto node ⟨by rintro _ _ ⟨⟩, trivial⟩ (keeps_summary _ _ _)
      · rw [routed] at node
        refine keeps_goto node ⟨by rintro _ _ ⟨⟩, trivial⟩ (keeps_build fun approved => ?_)
        rw [show s.preapproved = true from approved] at asked
        cases asked
    | unread =>
      rw [said] at routed next
      rw [routed] at node
      rw [go, node]
      refine ⟨⟨by rintro _ _ ⟨⟩, by rintro _ _ ⟨⟩, trivial⟩, fun _ => ⟨asked, plan, steps, ?_⟩⟩
      show Standing.after a.loads (Standing.after a.loads (.shown plan)
        (.answered text (t.reading k))) .raised = .shown plan
      rw [next]
      rfl

theorem keeps_turn (th : Thread) (keeps : th.Keeps a .nothing) :
    (turn a th t).Keeps a (standing a.loads th.log) := by
  unfold turn
  split
  · rename_i asking
    obtain ⟨asked, plan, steps, shown⟩ := keeps.2 asking
    rw [standing, shown]
    exact keeps_answered asked steps
  · have started : Standing.after a.loads (standing a.loads th.log) (.started t.preapproved) =
        if t.preapproved then .preapproved else .nothing := by
      cases standing a.loads th.log <;> rfl
    have run := @keeps_build a t { th.channels with objective := t.query, preapproved := t.preapproved }
      (Standing.after a.loads (standing a.loads th.log) (.started t.preapproved))
      (a.nodes false recursionLimit) 0 none fun approved => by
        rw [started]
        exact if_pos approved
    exact ⟨⟨nofun, run.1⟩, run.2⟩

theorem keeps_stream (th : Thread) (t : Turn) (keeps : th.Keeps a .nothing) :
    (stream a th t).Keeps a .nothing := by
  obtain ⟨granted, asks⟩ := keeps_turn (t := t) th keeps
  refine ⟨(Runs.along_append _ _ _ _).mpr ⟨keeps.1, granted⟩, fun asking => ?_⟩
  obtain ⟨asked, plan, steps, shown⟩ := asks asking
  exact ⟨asked, plan, steps, (Runs.run_append _ _ _ _).trans shown⟩

theorem session_keeps (a : Agent) (turns : List Turn) : (session a turns).Keeps a .nothing :=
  Runs.run_invariant (stream a) keeps_stream (s := .new) ⟨trivial, nofun⟩ turns

theorem session_granted (a : Agent) (turns : List Turn) {before after : List Event}
    {worked : List String} {tool : String}
    (seen : (session a turns).log = before ++ .ran worked tool :: after) :
    (standing a.loads before).Permits worked ∧ tool ∈ a.tools := by
  have granted := (session_keeps a turns).1
  rw [seen, Runs.along_append] at granted
  exact granted.2.1 worked tool rfl

/-! Which tools these are. -/

/-- Without the tools that `build_plan` looks up no plan is ever built. -/
theorem nothing_ran (lacks : ¬ discoveryTools ⊆ a.tools) (turns : List Turn) :
    (session a turns).asking = false ∧
      ∀ e ∈ (session a turns).log, ∀ worked tool, e ≠ .ran worked tool := by
  refine Runs.run_invariant (stream a) (P := fun th => th.asking = false ∧
    ∀ e ∈ th.log, ∀ worked tool, e ≠ .ran worked tool) ?_ (s := .new) ⟨rfl, by rintro _ ⟨⟩⟩ turns
  rintro th t ⟨idle, quiet⟩
  have fails : ∀ s : Channels, (go a t (a.nodes false recursionLimit) 0 none .buildPlan s).asking =
      false ∧ ∀ e ∈ (go a t (a.nodes false recursionLimit) 0 none .buildPlan s).log,
        ∀ worked tool, e ≠ .ran worked tool := by
    intro s
    cases a.nodes false recursionLimit with
    | zero => simp [go]
    | succ fuel => simp [go, runNode, buildPlan, lacks]
  obtain ⟨asking, log⟩ := fails { th.channels with objective := t.query, preapproved := t.preapproved }
  unfold stream turn
  rw [idle]
  refine ⟨asking, fun e member => ?_⟩
  rcases List.mem_append.mp member with before | now
  · exact quiet e before
  · rcases List.mem_cons.mp now with rfl | now
    · rintro _ _ ⟨⟩
    · exact log e now

theorem tool_ran {tool : String} (known : tool ∈ a.tools) (discovers : discoveryTools ⊆ a.tools) :
    .ran ["do it"] tool ∈ (session a [Sample.objective ["do it"] tool]).log := by
  obtain ⟨more, room⟩ := Nat.exists_eq_add_of_le' (show 4 ≤ a.nodes false recursionLimit from
    le_trans (by decide) (a.limit_le_nodes false recursionLimit))
  have visible : isSpace 'd' = false := by decide
  have yes := decision_yes a.loads none
  simp only [session, Runs.run, stream, turn, Thread.new, room]
  simp [go, runNode, buildPlan, discovers, Sample.objective, confirmPlan, leaveConfirm,
    planCompleteDecision, Message.content, yes, executeStep, incompleteSteps, Channels.completed,
    shouldRunTool, Message.toolCalls, toolNode, callTools, known,
    visible]

/-- Every tool that is run is run for a plan that stands confirmed, and is a tool of the agent. It
is on the list of allowed tools exactly when all the tools are, or no plan can be built. -/
theorem tools_confirmed_and_allowed_iff (a : Agent) :
    (∀ turns before worked tool after, (session a turns).log = before ++ .ran worked tool :: after →
      (standing a.loads before).Permits worked ∧ tool ∈ allowedTools) ↔
    a.tools ⊆ allowedTools ∨ ¬ discoveryTools ⊆ a.tools := by
  constructor
  · intro always
    by_contra other
    obtain ⟨more, discovers⟩ := not_or.mp other
    refine more fun tool known => ?_
    obtain ⟨before, after, seen⟩ := List.append_of_mem (tool_ran known (not_not.mp discovers))
    exact (always _ before _ tool after seen).2
  · rintro allowed turns before worked tool after seen
    obtain ⟨permits, known⟩ := session_granted a turns seen
    refine ⟨permits, ?_⟩
    rcases allowed with allowed | lacks
    · exact allowed known
    · have ran : .ran worked tool ∈ (session a turns).log := by
        rw [seen]
        simp
      exact absurd rfl ((nothing_ran lacks turns).2 _ ran worked tool)

namespace Sample

/-- An objective that waits for an answer to its plan, and the answer to it. -/
def asked : Turn := { objective ["remove the test"] "deleteTest" with preapproved := false }
def yes : Turn := { asked with query := "yes" }

end Sample

open Sample in
/-- The agent runs a tool of its server that is not on the list. -/
theorem unlisted_tool_ran : .ran ["remove the test"] "deleteTest" ∈ (session agent [asked, yes]).log ∧
    "deleteTest" ∉ allowedTools := by
  decide

end NetworkAgent.Engineer
