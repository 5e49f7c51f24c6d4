import NetworkAgent.Supervisor.Tracking

/-! Which sequences of events the machine of a stream carries to an outcome, and what the
outcome holds. -/
namespace NetworkAgent.Supervisor

/-- An event as the machine is fed it. -/
inductive Observation where
  | task (taskId contextId : String) (state : TaskState)
  | artifact (taskId contextId : String) (content : Option CanonicalContent)
  | status (taskId contextId : String) (state : TaskState) (final : Bool)
      (content : Option CanonicalContent)

namespace Observation

def taskId : Observation → String
  | .task id _ _ | .artifact id _ _ | .status id _ _ _ _ => id

def contextId : Observation → String
  | .task _ id _ | .artifact _ id _ | .status _ id _ _ _ => id

def content : Observation → Option CanonicalContent
  | .task _ _ _ => none
  | .artifact _ _ content | .status _ _ _ _ content => content

/-! The parts a stream is made of. -/

def IsSubmitted : Observation → Prop
  | .task _ _ state => state = .submitted
  | .artifact _ _ _ | .status _ _ _ _ _ => False

def IsWorking : Observation → Prop
  | .status _ _ state final _ => state = .working ∧ final = false
  | .task _ _ _ | .artifact _ _ _ => False

def IsArtifact : Observation → Prop
  | .artifact _ _ _ => True
  | .task _ _ _ | .status _ _ _ _ _ => False

def IsClosing : Observation → Prop
  | .status _ _ state final _ => state.terminal = true ∧ final = true
  | .task _ _ _ | .artifact _ _ _ => False

end Observation

namespace Machine

def observe (m : Machine) : Observation → Tracked Machine
  | .task taskId contextId state => m.observeTask taskId contextId state
  | .artifact taskId contextId content => m.observeArtifact taskId contextId content
  | .status taskId contextId state final content =>
    m.observeStatus taskId contextId state final content

/-- The events one after the other; the first that is refused ends the stream. -/
def feed (m : Machine) : List Observation → Tracked Machine
  | [] => .ok m
  | event :: rest => do
    let m ← m.observe event
    m.feed rest

end Machine

/-- A stream from its first event to the call of `finish`. -/
def trackStream (expectedTaskId expectedContextId : Option String) (startingState : Option TaskState)
    (events : List Observation) (text : Option String) : Tracked RemoteStreamOutcome := do
  let m ← Machine.create expectedTaskId expectedContextId startingState
  let m ← m.feed events
  m.finish text

/-! The grammar. -/

/-- Working updates and artifacts; until the task is under way an update comes first. -/
structure IsBody (underWay : Prop) (body : List Observation) : Prop where
  each : ∀ e ∈ body, e.IsWorking ∨ e.IsArtifact
  opens : underWay ∨ ∀ e ∈ body.head?, e.IsWorking

def TaskState.Open (s : TaskState) : Prop := s = .submitted ∨ s = .working ∨ s = .inputRequired

/-- A new task is submitted first; a task that is known goes on from an open state. Then come
working updates and artifacts, and exactly one closing status at the end. -/
def IsStream (startingState : Option TaskState) (events : List Observation) : Prop :=
  match startingState with
  | none => ∃ first body last, events = first :: (body ++ [last]) ∧ first.IsSubmitted ∧
      IsBody False body ∧ last.IsClosing
  | some state => ∃ body last, events = body ++ [last] ∧ state.Open ∧
      IsBody (state ≠ .submitted) body ∧ last.IsClosing

/-- All events name one task in one context, with identifiers of the right form that are the
expected ones where these are given. -/
def OneTask (expectedTaskId expectedContextId : Option String) (events : List Observation) : Prop :=
  ∃ taskId contextId, (IsStreamId taskId ∧ IsStreamId contextId) ∧
    (Agrees expectedTaskId (some taskId) ∧ Agrees expectedContextId (some contextId)) ∧
    ∀ e ∈ events, e.taskId = taskId ∧ e.contextId = contextId

def lastContent (events : List Observation) : Option CanonicalContent :=
  (events.filterMap Observation.content).getLast?

/-! One event. -/

namespace Machine

def Admits (m : Machine) (taskId contextId : String) : Prop :=
  (IsStreamId taskId ∧ IsStreamId contextId) ∧
    (Agrees m.taskId (some taskId) ∧ Agrees m.contextId (some contextId))

theorem normalizedState_ok {state normalized : TaskState} :
    normalizedState state = .ok normalized ↔ state.known = true ∧ state = normalized := by
  simp [normalizedState, Checks.seq_ok, pure, Except.pure]

theorem observe_task {m after : Machine} {taskId contextId : String} {state : TaskState} :
    m.observe (.task taskId contextId state) = .ok after ↔
      m.finished = false ∧ m.state = none ∧ m.Admits taskId contextId ∧ state = .submitted ∧
      after = { m with
        taskId := some taskId, contextId := some contextId, state := some .submitted } := by
  simp only [observe, observeTask, Checks.bind_ok, Checks.require_ok, bind_ok, normalizedState_ok,
    Admits]
  constructor
  · rintro ⟨_, ⟨running, fresh⟩, _, ⟨task, context, sameTask, sameContext, rfl⟩, _, ⟨_, rfl⟩, _,
      rfl, same⟩
    cases same
    exact ⟨running, fresh, ⟨⟨task, context⟩, sameTask, sameContext⟩, rfl, rfl⟩
  · rintro ⟨running, fresh, ⟨⟨task, context⟩, sameTask, sameContext⟩, rfl, rfl⟩
    exact ⟨(), ⟨running, fresh⟩, _, ⟨task, context, sameTask, sameContext, rfl⟩, _, ⟨rfl, rfl⟩, (),
      rfl, rfl⟩

theorem observe_artifact {m after : Machine} {taskId contextId : String}
    {content : Option CanonicalContent} :
    m.observe (.artifact taskId contextId content) = .ok after ↔
      m.finished = false ∧ m.Admits taskId contextId ∧
      (m.state = some .working ∨ m.state = some .inputRequired) ∧
      after = { m with
        taskId := some taskId, contextId := some contextId, content := content <|> m.content } := by
  simp only [observe, observeArtifact, Checks.bind_ok, Checks.require_ok, bind_ok, Admits]
  constructor
  · rintro ⟨_, ⟨running, _⟩, _, ⟨task, context, sameTask, sameContext, rfl⟩, _, going, same⟩
    cases same
    exact ⟨running, ⟨⟨task, context⟩, sameTask, sameContext⟩, going, rfl⟩
  · rintro ⟨running, ⟨⟨task, context⟩, sameTask, sameContext⟩, going, rfl⟩
    have known : m.state ≠ none := by rcases going with h | h <;> simp [h]
    exact ⟨(), ⟨running, known⟩, _, ⟨task, context, sameTask, sameContext, rfl⟩, (), going, rfl⟩

theorem observe_status {m after : Machine} {taskId contextId : String} {state : TaskState}
    {final : Bool} {content : Option CanonicalContent} :
    m.observe (.status taskId contextId state final content) = .ok after ↔
      m.finished = false ∧ m.Admits taskId contextId ∧ m.Active ∧
      ((state = .working ∧ final = false) ∨ (state.terminal = true ∧ final = true)) ∧
      after = { m with
        taskId := some taskId, contextId := some contextId, content := content <|> m.content,
        state := some state, finished := state.terminal } := by
  simp only [observe, observeStatus, Checks.bind_ok, Checks.require_ok, bind_ok, normalizedState_ok,
    Admits]
  constructor
  · rintro ⟨_, ⟨running, _⟩, _, ⟨task, context, sameTask, sameContext, rfl⟩, _, ⟨known, rfl⟩, _,
      later, moved⟩
    refine ⟨running, ⟨⟨task, context⟩, sameTask, sameContext⟩, ?_⟩
    by_cases working : state = .working
    · subst working
      rw [if_pos rfl, Checks.seq_ok, Checks.require_ok] at moved
      obtain ⟨⟨open', active⟩, same⟩ := moved
      cases same
      exact ⟨active, .inl ⟨rfl, open'⟩, by simp [running, TaskState.terminal]⟩
    · rw [if_neg working, Checks.seq_ok, Checks.require_ok, Checks.seq_ok, Checks.require_ok] at moved
      obtain ⟨closed, active, same⟩ := moved
      cases same
      have last : state.terminal = true := by
        cases state <;> simp_all [TaskState.known, TaskState.terminal]
      exact ⟨active, .inr ⟨last, closed⟩, by rw [last]⟩
  · rintro ⟨running, ⟨⟨task, context⟩, sameTask, sameContext⟩, active, kind, rfl⟩
    have known : m.state ≠ none := by rcases active with h | h | h <;> simp [h]
    refine ⟨(), ⟨running, known⟩, _, ⟨task, context, sameTask, sameContext, rfl⟩, _,
      ⟨?_, rfl⟩, (), ?_, ?_⟩
    · rcases kind with ⟨rfl, _⟩ | ⟨last, _⟩
      · rfl
      · simp [TaskState.known, last]
    · rcases kind with ⟨rfl, _⟩ | ⟨last, _⟩
      · decide
      · rintro rfl
        cases last
    · rcases kind with ⟨rfl, rfl⟩ | ⟨last, rfl⟩
      · rw [if_pos rfl, Checks.seq_ok, Checks.require_ok]
        exact ⟨⟨rfl, active⟩, by simp [running, TaskState.terminal, pure, Except.pure]⟩
      · have other : state ≠ .working := by
          rintro rfl
          cases last
        rw [if_neg other, Checks.seq_ok, Checks.require_ok, Checks.seq_ok, Checks.require_ok]
        exact ⟨rfl, active, by rw [last]; rfl⟩

theorem observe_leaves {m after : Machine} {e : Observation} (observed : m.observe e = .ok after) :
    m.Admits e.taskId e.contextId ∧ m.finished = false ∧ after.taskId = some e.taskId ∧
      after.contextId = some e.contextId ∧ after.content = (e.content <|> m.content) ∧
      (after.finished = true → ∃ state ∈ after.state, state.terminal = true) := by
  cases e with
  | task taskId contextId state =>
    obtain ⟨running, _, admits, _, rfl⟩ := observe_task.mp observed
    exact ⟨admits, running, rfl, rfl, rfl, by simp [running]⟩
  | artifact taskId contextId content =>
    obtain ⟨running, admits, _, rfl⟩ := observe_artifact.mp observed
    exact ⟨admits, running, rfl, rfl, rfl, by simp [running]⟩
  | status taskId contextId state final content =>
    obtain ⟨running, admits, _, _, rfl⟩ := observe_status.mp observed
    exact ⟨admits, running, rfl, rfl, rfl, fun last => ⟨state, rfl, last⟩⟩

/-! A run of events. -/

def Done (m : Machine) : Prop :=
  m.finished = true ∧ (∃ state ∈ m.state, state.terminal = true) ∧ m.taskId ≠ none ∧
    m.contextId ≠ none

theorem finish_done {m : Machine} {text : Option String} :
    (∃ outcome, m.finish text = .ok outcome) ↔ m.Done := by
  unfold finish Done
  constructor
  · rintro ⟨outcome, done⟩
    split at done
    · rename_i state taskId contextId finished known task context
      split at done
      · rename_i last
        exact ⟨finished, ⟨state, known, last⟩, by simp [task], by simp [context]⟩
      · cases done
    · cases done
  · rintro ⟨finished, ⟨state, known, last⟩, task, context⟩
    obtain ⟨taskId, named⟩ := Option.ne_none_iff_exists'.mp task
    obtain ⟨contextId, placed⟩ := Option.ne_none_iff_exists'.mp context
    rw [Option.mem_def] at known
    simp [finished, known, named, placed, last]

theorem finish_content {m : Machine} {text : Option String} {outcome : RemoteStreamOutcome}
    (done : m.finish text = .ok outcome) : outcome.content = m.content := by
  unfold finish at done
  split at done
  · split at done
    · cases done
      rfl
    · cases done
  · cases done

theorem feed_cons {m after : Machine} {e : Observation} {rest : List Observation} :
    m.feed (e :: rest) = .ok after ↔ ∃ mid, m.observe e = .ok mid ∧ mid.feed rest = .ok after := by
  rw [feed, Checks.bind_ok]

theorem feed_finished {m after : Machine} {events : List Observation} (finished : m.finished = true)
    (fed : m.feed events = .ok after) : events = [] ∧ after = m := by
  cases events with
  | nil =>
    cases fed
    exact ⟨rfl, rfl⟩
  | cons e rest =>
    obtain ⟨mid, observed, _⟩ := feed_cons.mp fed
    rw [(observe_leaves observed).2.1] at finished
    cases finished

theorem feed_append {m after : Machine} {before later : List Observation} :
    m.feed (before ++ later) = .ok after ↔
      ∃ mid, m.feed before = .ok mid ∧ mid.feed later = .ok after := by
  induction before generalizing m with
  | nil => simp [feed]
  | cons e rest ih =>
    simp only [List.cons_append, feed_cons, ih]
    constructor
    · rintro ⟨first, observed, mid, fed, finished⟩
      exact ⟨mid, ⟨first, observed, fed⟩, finished⟩
    · rintro ⟨mid, ⟨first, observed, fed⟩, finished⟩
      exact ⟨first, observed, mid, fed, finished⟩

theorem feed_leaves {m after : Machine} {events : List Observation}
    (fed : m.feed events = .ok after) (running : m.finished = false) :
    after.content = (lastContent events <|> m.content) ∧ (after.finished = true → after.Done) := by
  induction events generalizing m with
  | nil =>
    cases fed
    exact ⟨by simp [lastContent], by simp [running]⟩
  | cons e rest ih =>
    obtain ⟨mid, observed, later⟩ := feed_cons.mp fed
    obtain ⟨_, _, task, context, content, terminal⟩ := observe_leaves observed
    cases finished : mid.finished with
    | true =>
      obtain ⟨rfl, rfl⟩ := feed_finished finished later
      refine ⟨?_, fun _ => ⟨finished, terminal finished, by simp [task], by simp [context]⟩⟩
      rw [content]
      cases held : e.content <;> simp [lastContent, held]
    | false =>
      obtain ⟨kept, done⟩ := ih later finished
      refine ⟨?_, done⟩
      rw [kept, content]
      cases held : e.content with
      | none => simp [lastContent, held]
      | some c =>
        cases rest : (List.filterMap Observation.content rest).getLast? <;>
          simp [lastContent, held, List.getLast?_cons, rest]

/-! The identifiers of a run. -/

/-- All events name one task and one context that the machine binds itself to. -/
def Names (m : Machine) (events : List Observation) : Prop :=
  ∃ taskId contextId, m.Admits taskId contextId ∧
    ∀ e ∈ events, e.taskId = taskId ∧ e.contextId = contextId

theorem names_cons {m : Machine} {e : Observation} {rest : List Observation} :
    m.Names (e :: rest) ↔ m.Admits e.taskId e.contextId ∧
      ∀ later ∈ rest, later.taskId = e.taskId ∧ later.contextId = e.contextId := by
  constructor
  · rintro ⟨taskId, contextId, admits, every⟩
    obtain ⟨rfl, rfl⟩ := every e List.mem_cons_self
    exact ⟨admits, fun later member => every later (List.mem_cons_of_mem e member)⟩
  · rintro ⟨admits, every⟩
    exact ⟨_, _, admits, List.forall_mem_cons.mpr ⟨⟨rfl, rfl⟩, every⟩⟩

theorem names_bound {m mid : Machine} {e : Observation} {rest : List Observation}
    (observed : m.observe e = .ok mid) :
    mid.Names rest ↔ ∀ later ∈ rest, later.taskId = e.taskId ∧ later.contextId = e.contextId := by
  obtain ⟨⟨valid, _⟩, _, task, context, _, _⟩ := observe_leaves observed
  constructor
  · rintro ⟨taskId, contextId, ⟨_, sameTask, sameContext⟩, every⟩
    obtain rfl : e.taskId = taskId := sameTask _ task _ rfl
    obtain rfl : e.contextId = contextId := sameContext _ context _ rfl
    exact every
  · intro every
    refine ⟨_, _, ⟨valid, ?_, ?_⟩, every⟩
    · simp [Agrees, task]
    · simp [Agrees, context]

end Machine

/-! The grammar, event by event. -/

theorem isStream_nil {s : TaskState} : ¬ IsStream (some s) [] := by
  rintro ⟨body, last, same, _⟩
  cases body <;> cases same

theorem isStream_cons {s : TaskState} {e : Observation} {rest : List Observation} :
    IsStream (some s) (e :: rest) ↔ s.Open ∧
      (e.IsClosing ∧ rest = [] ∨ e.IsWorking ∧ IsStream (some .working) rest ∨
        e.IsArtifact ∧ s ≠ .submitted ∧ IsStream (some s) rest) := by
  constructor
  · rintro ⟨body, last, same, opened, ⟨each, opens⟩, closing⟩
    refine ⟨opened, ?_⟩
    cases body with
    | nil =>
      obtain ⟨rfl, rfl⟩ := List.cons.inj same
      exact .inl ⟨closing, rfl⟩
    | cons first body =>
      obtain ⟨rfl, rfl⟩ := List.cons.inj same
      obtain ⟨head, later⟩ := List.forall_mem_cons.mp each
      rcases head with working | artifact
      · exact .inr (.inl ⟨working, body, last, rfl, .inr (.inl rfl), ⟨later, .inl (by simp)⟩, closing⟩)
      · have underWay : s ≠ .submitted := by
          rcases opens with going | first
          · exact going
          · cases e <;> simp_all [Observation.IsWorking, Observation.IsArtifact]
        exact .inr (.inr ⟨artifact, underWay, body, last, rfl, opened, ⟨later, .inl underWay⟩,
          closing⟩)
  · rintro ⟨opened, ⟨closing, rfl⟩ | ⟨working, body, last, rfl, _, ⟨each, _⟩, closing⟩ |
      ⟨artifact, underWay, body, last, rfl, _, ⟨each, _⟩, closing⟩⟩
    · exact ⟨[], e, rfl, opened, ⟨nofun, .inr nofun⟩, closing⟩
    · exact ⟨e :: body, last, rfl, opened, ⟨List.forall_mem_cons.mpr ⟨.inl working, each⟩,
        .inr (by simpa using working)⟩, closing⟩
    · exact ⟨e :: body, last, rfl, opened, ⟨List.forall_mem_cons.mpr ⟨.inr artifact, each⟩,
        .inl underWay⟩, closing⟩

theorem isStream_none {events : List Observation} :
    IsStream none events ↔ ∃ first rest, events = first :: rest ∧ first.IsSubmitted ∧
      IsStream (some .submitted) rest := by
  constructor
  · rintro ⟨first, body, last, rfl, submitted, ⟨each, opens⟩, closing⟩
    exact ⟨first, _, rfl, submitted, body, last, rfl, .inl rfl, ⟨each, opens.imp False.elim id⟩,
      closing⟩
  · rintro ⟨first, _, rfl, submitted, body, last, rfl, _, ⟨each, opens⟩, closing⟩
    exact ⟨first, body, last, rfl, submitted, ⟨each, opens.imp (fun h => h rfl) id⟩, closing⟩

namespace Machine

theorem active_iff {m : Machine} {s : TaskState} (state : m.state = some s) :
    m.Active ↔ s.Open := by
  simp [Active, TaskState.Open, state]

/-- From a state on, a run finishes exactly on what the grammar has there. The induction follows
the events; the machine after each of them stands where the grammar does. -/
theorem feed_finishes {m : Machine} {s : TaskState} {events : List Observation}
    (running : m.finished = false) (state : m.state = some s) :
    (∃ after, m.feed events = .ok after ∧ after.finished = true) ↔
      m.Names events ∧ IsStream (some s) events := by
  induction events generalizing m s with
  | nil => simp [feed, running, isStream_nil]
  | cons e rest ih =>
    rw [names_cons, isStream_cons]
    constructor
    · rintro ⟨after, fed, finished⟩
      obtain ⟨mid, observed, later⟩ := feed_cons.mp fed
      have admits := (observe_leaves observed).1
      have named := @names_bound _ _ _ rest observed
      cases e with
      | task taskId contextId given =>
        obtain ⟨_, fresh, _⟩ := observe_task.mp observed
        rw [state] at fresh
        cases fresh
      | artifact taskId contextId content =>
        obtain ⟨_, _, going, same⟩ := observe_artifact.mp observed
        have running' : mid.finished = false := by rw [same]; exact running
        have state' : mid.state = some s := by rw [same]; exact state
        obtain ⟨names, shape⟩ := (ih running' state').mp ⟨after, later, finished⟩
        rw [state] at going
        refine ⟨⟨admits, named.mp names⟩, ?_, .inr (.inr ⟨trivial, ?_, shape⟩)⟩
        · rcases going with same | same
          · exact .inr (.inl (Option.some.inj same))
          · exact .inr (.inr (Option.some.inj same))
        · rintro rfl
          simp at going
      | status taskId contextId given final content =>
        obtain ⟨_, _, active, kind, rfl⟩ := observe_status.mp observed
        rcases kind with ⟨rfl, open'⟩ | ⟨last, closed⟩
        · obtain ⟨names, shape⟩ := (ih rfl rfl).mp ⟨after, later, finished⟩
          exact ⟨⟨admits, named.mp names⟩, (active_iff state).mp active,
            .inr (.inl ⟨⟨rfl, open'⟩, shape⟩)⟩
        · obtain ⟨rfl, _⟩ := feed_finished last later
          exact ⟨⟨admits, nofun⟩, (active_iff state).mp active, .inl ⟨⟨last, closed⟩, rfl⟩⟩
    · rintro ⟨⟨admits, every⟩, opened, ⟨closing, rfl⟩ | ⟨working, shape⟩ |
        ⟨artifact, underWay, shape⟩⟩
      · cases e with
        | task | artifact => cases closing
        | status taskId contextId given final content =>
          have observed : m.observe (.status taskId contextId given final content) = .ok _ :=
            observe_status.mpr ⟨running, admits, (active_iff state).mpr opened, .inr closing, rfl⟩
          exact ⟨_, feed_cons.mpr ⟨_, observed, rfl⟩, closing.1⟩
      · cases e with
        | task | artifact => cases working
        | status taskId contextId given final content =>
          obtain ⟨rfl, rfl⟩ := working
          have observed : m.observe (.status taskId contextId .working false content) = .ok _ :=
            observe_status.mpr
              ⟨running, admits, (active_iff state).mpr opened, .inl ⟨rfl, rfl⟩, rfl⟩
          obtain ⟨after, fed, finished⟩ := (ih rfl rfl).mpr ⟨(names_bound observed).mpr every, shape⟩
          exact ⟨after, feed_cons.mpr ⟨_, observed, fed⟩, finished⟩
      · cases e with
        | task | status => cases artifact
        | artifact taskId contextId content =>
          have going : m.state = some .working ∨ m.state = some .inputRequired := by
            rw [state]
            rcases opened with same | same | same
            · exact absurd same underWay
            · exact .inl (congrArg some same)
            · exact .inr (congrArg some same)
          obtain ⟨mid, same⟩ : ∃ mid, mid = { m with
              taskId := some taskId, contextId := some contextId,
              content := content <|> m.content } := ⟨_, rfl⟩
          have observed : m.observe (.artifact taskId contextId content) = .ok mid :=
            observe_artifact.mpr ⟨running, admits, going, same⟩
          have running' : mid.finished = false := by rw [same]; exact running
          have state' : mid.state = some s := by rw [same]; exact state
          obtain ⟨after, fed, finished⟩ :=
            (ih running' state').mpr ⟨(names_bound observed).mpr every, shape⟩
          exact ⟨after, feed_cons.mpr ⟨_, observed, fed⟩, finished⟩

theorem mapM_streamId {name : String} {given answer : Option String} :
    given.mapM (streamId name) = .ok answer ↔ (∀ s ∈ given, IsStreamId s) ∧ given = answer := by
  cases given with
  | none => simp [pure, Except.pure]
  | some s => simp [Checks.map_ok, streamId_ok]

theorem create_ok {expectedTaskId expectedContextId : Option String}
    {startingState : Option TaskState} {m : Machine} :
    create expectedTaskId expectedContextId startingState = .ok m ↔
      (∀ s ∈ expectedTaskId, IsStreamId s) ∧ (∀ s ∈ expectedContextId, IsStreamId s) ∧
      (∀ s ∈ startingState, s.known = true) ∧
      m = ⟨expectedTaskId, expectedContextId, startingState, none, false⟩ := by
  simp only [create, Checks.bind_ok, mapM_streamId]
  constructor
  · rintro ⟨_, ⟨task, rfl⟩, _, ⟨context, rfl⟩, state, normal, same⟩
    cases same
    cases startingState with
    | none =>
      cases normal
      exact ⟨task, context, by simp, rfl⟩
    | some s =>
      simp only [Option.mapM_some, Checks.map_ok, normalizedState_ok] at normal
      obtain ⟨_, ⟨known, rfl⟩, rfl⟩ := normal
      exact ⟨task, context, by simpa using known, rfl⟩
  · rintro ⟨task, context, known, rfl⟩
    refine ⟨_, ⟨task, rfl⟩, _, ⟨context, rfl⟩, startingState, ?_, rfl⟩
    cases startingState with
    | none => rfl
    | some s =>
      simp only [Option.mapM_some, Checks.map_ok, normalizedState_ok]
      exact ⟨s, ⟨known s rfl, rfl⟩, rfl⟩

end Machine

/-! The whole stream. -/

/-- What a call of the machine tracks to an outcome: one task, in the shape of the grammar. -/
def Tracks (expectedTaskId expectedContextId : Option String) (startingState : Option TaskState)
    (events : List Observation) : Prop :=
  OneTask expectedTaskId expectedContextId events ∧ IsStream startingState events

theorem isStream_known {startingState : Option TaskState} {events : List Observation}
    (shape : IsStream startingState events) : ∀ s ∈ startingState, s.known = true := by
  rintro s rfl
  obtain ⟨_, _, _, opened, _⟩ := shape
  rcases opened with rfl | rfl | rfl <;> rfl

theorem OneTask.expected {expectedTaskId expectedContextId : Option String}
    {events : List Observation} (one : OneTask expectedTaskId expectedContextId events) :
    (∀ s ∈ expectedTaskId, IsStreamId s) ∧ ∀ s ∈ expectedContextId, IsStreamId s := by
  obtain ⟨taskId, contextId, ⟨task, context⟩, ⟨sameTask, sameContext⟩, _⟩ := one
  exact ⟨fun s given => sameTask s given _ rfl ▸ task, fun s given => sameContext s given _ rfl ▸ context⟩

theorem oneTask_iff {m : Machine} {events : List Observation} :
    OneTask m.taskId m.contextId events ↔ m.Names events := by
  unfold OneTask Machine.Names Machine.Admits
  simp only [and_assoc]

theorem feed_created {m : Machine} {expectedTaskId expectedContextId : Option String}
    {startingState : Option TaskState} {events : List Observation}
    (created : Machine.create expectedTaskId expectedContextId startingState = .ok m) :
    (∃ after, m.feed events = .ok after ∧ after.finished = true) ↔
      Tracks expectedTaskId expectedContextId startingState events := by
  obtain ⟨_, _, _, rfl⟩ := Machine.create_ok.mp created
  cases startingState with
  | some s => exact (Machine.feed_finishes rfl rfl).trans (and_congr_left fun _ => oneTask_iff.symm)
  | none =>
    let m : Machine := ⟨expectedTaskId, expectedContextId, none, none, false⟩
    have names : OneTask expectedTaskId expectedContextId events ↔ m.Names events :=
      oneTask_iff (m := m)
    rw [Tracks, isStream_none, names]
    constructor
    · rintro ⟨after, fed, finished⟩
      cases events with
      | nil =>
        cases fed
        cases finished
      | cons e rest =>
        obtain ⟨mid, observed, later⟩ := Machine.feed_cons.mp fed
        cases e with
        | task taskId contextId given =>
          obtain ⟨_, _, admits, rfl, rfl⟩ := Machine.observe_task.mp observed
          obtain ⟨named, shape⟩ := (Machine.feed_finishes rfl rfl).mp ⟨after, later, finished⟩
          exact ⟨Machine.names_cons.mpr ⟨admits, (Machine.names_bound observed).mp named⟩,
            _, rest, rfl, rfl, shape⟩
        | artifact taskId contextId content =>
          obtain ⟨_, _, going, _⟩ := Machine.observe_artifact.mp observed
          simp at going
        | status taskId contextId given final content =>
          obtain ⟨_, _, active, _⟩ := Machine.observe_status.mp observed
          simp [Machine.Active] at active
    · rintro ⟨named, first, rest, rfl, submitted, shape⟩
      obtain ⟨admits, every⟩ := Machine.names_cons.mp named
      cases first with
      | artifact | status => cases submitted
      | task taskId contextId given =>
        have observed : m.observe (.task taskId contextId given) = .ok _ :=
          Machine.observe_task.mpr ⟨rfl, rfl, admits, submitted, rfl⟩
        obtain ⟨after, fed, finished⟩ :=
          (Machine.feed_finishes rfl rfl).mpr ⟨(Machine.names_bound observed).mpr every, shape⟩
        exact ⟨after, Machine.feed_cons.mpr ⟨_, observed, fed⟩, finished⟩

/-- A stream has an outcome exactly when it tracks one task in the shape of the grammar; then
nothing is accepted behind it, and the outcome carries the last content that is not null. -/
theorem trackStream_iff (expectedTaskId expectedContextId : Option String)
    (startingState : Option TaskState) (events : List Observation) (text : Option String) :
    ((∃ outcome, trackStream expectedTaskId expectedContextId startingState events text =
        .ok outcome) ↔ Tracks expectedTaskId expectedContextId startingState events) ∧
    (∀ outcome, trackStream expectedTaskId expectedContextId startingState events text =
        .ok outcome → outcome.content = lastContent events) ∧
    (Tracks expectedTaskId expectedContextId startingState events → ∀ later ≠ [], ∃ e,
      trackStream expectedTaskId expectedContextId startingState (events ++ later) text =
        .error e) := by
  have finishes : ∀ outcome, trackStream expectedTaskId expectedContextId startingState events text =
      .ok outcome ↔ ∃ m, Machine.create expectedTaskId expectedContextId startingState = .ok m ∧
        ∃ after, m.feed events = .ok after ∧ after.finish text = .ok outcome := by
    intro outcome
    simp only [trackStream, Checks.bind_ok]
  refine ⟨⟨?_, ?_⟩, ?_, ?_⟩
  · rintro ⟨outcome, done⟩
    obtain ⟨m, created, after, fed, given⟩ := (finishes outcome).mp done
    exact (feed_created created).mp ⟨after, fed, (Machine.finish_done.mp ⟨outcome, given⟩).1⟩
  · intro tracks
    have created := Machine.create_ok.mpr
      ⟨tracks.1.expected.1, tracks.1.expected.2, isStream_known tracks.2, rfl⟩
    obtain ⟨after, fed, finished⟩ := (feed_created created).mpr tracks
    obtain ⟨outcome, given⟩ := Machine.finish_done.mpr ((Machine.feed_leaves fed rfl).2 finished)
    exact ⟨outcome, (finishes outcome).mpr ⟨_, created, after, fed, given⟩⟩
  · intro outcome done
    obtain ⟨m, created, after, fed, given⟩ := (finishes outcome).mp done
    obtain ⟨_, _, _, rfl⟩ := Machine.create_ok.mp created
    rw [Machine.finish_content given, (Machine.feed_leaves fed rfl).1]
    cases lastContent events <;> rfl
  · intro tracks later some
    cases done : trackStream expectedTaskId expectedContextId startingState (events ++ later) text with
    | error e => exact ⟨e, rfl⟩
    | ok outcome =>
      simp only [trackStream, Checks.bind_ok, Machine.feed_append] at done
      obtain ⟨m, created, after, ⟨mid, fed, rest⟩, _⟩ := done
      obtain ⟨mid', fed', finished⟩ := (feed_created created).mpr tracks
      rw [fed] at fed'
      cases fed'
      exact absurd (Machine.feed_finished finished rest).1 some

/-- An artifact that comes before the first update is refused, and so is the whole stream. -/
theorem early_artifact_refused : ∃ taskId contextId first body last,
    IsStreamId taskId ∧ IsStreamId contextId ∧
    (∀ e ∈ first :: (body ++ [last]), e.taskId = taskId ∧ e.contextId = contextId) ∧
    first.IsSubmitted ∧ (∀ e ∈ body, e.IsWorking ∨ e.IsArtifact) ∧ last.IsClosing ∧
    ∃ e, trackStream none none none (first :: (body ++ [last])) none = .error e := by
  refine ⟨"task", "context", .task "task" "context" .submitted,
    [.artifact "task" "context" none], .status "task" "context" .completed true none,
    ⟨by decide, by decide⟩, ⟨by decide, by decide⟩, ?_, rfl, ?_, ⟨rfl, rfl⟩, ?_⟩
  · simp [Observation.taskId, Observation.contextId]
  · simp [Observation.IsArtifact]
  · exact ⟨.protocol "artifact arrived in an invalid task state", by rfl⟩

end NetworkAgent.Supervisor
