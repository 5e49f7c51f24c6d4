import NetworkAgent.Supervisor.SendTask

/-! What a stream can do to the task it tracks: the identifiers stay well formed, and a machine
that no event brought to life has no outcome. -/
namespace NetworkAgent.Supervisor

def IsStreamId (s : String) : Prop := s ≠ "" ∧ s.length ≤ maxIdChars

theorem streamId_ok {name value a : String} :
    streamId name value = .ok a ↔ IsStreamId value ∧ value = a := by
  simp [streamId, Checks.bind_ok, IsStreamId, pure, Except.pure]

namespace Machine

theorem bind_ok {m after : Machine} {taskId contextId : String} :
    m.bind taskId contextId = .ok after ↔
      IsStreamId taskId ∧ IsStreamId contextId ∧ Agrees m.taskId (some taskId) ∧
      Agrees m.contextId (some contextId) ∧
      after = { m with taskId := some taskId, contextId := some contextId } := by
  simp only [Machine.bind, Checks.bind_ok, streamId_ok, Checks.require_ok]
  constructor
  · rintro ⟨_, ⟨task, rfl⟩, _, ⟨context, rfl⟩, _, sameTask, _, sameContext, same⟩
    cases same
    exact ⟨task, context, sameTask, sameContext, rfl⟩
  · rintro ⟨task, context, sameTask, sameContext, rfl⟩
    exact ⟨_, ⟨task, rfl⟩, _, ⟨context, rfl⟩, (), sameTask, (), sameContext, rfl⟩

/-- What a machine becomes when it accepts an event: the identifiers are those of the event. -/
structure Bound (m after : Machine) (taskId contextId : String) : Prop where
  context : IsStreamId contextId
  taskId : after.taskId = some taskId
  contextId : after.contextId = some contextId

theorem observeTask_ok {m after : Machine} {id contextId : String} {state : TaskState}
    (observed : m.observeTask id contextId state = .ok after) : Bound m after id contextId := by
  simp only [observeTask, Checks.bind_ok, bind_ok] at observed
  obtain ⟨_, _, m', ⟨_, context, _, _, rfl⟩, normalized, _, _, _, same⟩ := observed
  cases same
  exact ⟨context, rfl, rfl⟩

theorem observeArtifact_ok {m after : Machine} {id contextId : String}
    {content : Option CanonicalContent}
    (observed : m.observeArtifact id contextId content = .ok after) :
    m.state ≠ none ∧ Bound m after id contextId := by
  simp only [observeArtifact, Checks.bind_ok, bind_ok, Checks.require_ok] at observed
  obtain ⟨_, active, m', ⟨_, context, _, _, rfl⟩, _, _, same⟩ := observed
  cases same
  exact ⟨active.2, context, rfl, rfl⟩

theorem observeStatus_ok {m after : Machine} {id contextId : String} {state : TaskState}
    {final : Bool} {content : Option CanonicalContent}
    (observed : m.observeStatus id contextId state final content = .ok after) :
    m.state ≠ none ∧ Bound m after id contextId := by
  simp only [observeStatus, Checks.bind_ok, bind_ok, Checks.require_ok] at observed
  obtain ⟨_, active, m', ⟨_, context, _, _, rfl⟩, normalized, _, _, _, observed⟩ := observed
  refine ⟨active.2, ?_⟩
  split at observed
  · obtain ⟨_, _, same⟩ := Checks.bind_ok.mp observed
    cases same
    exact ⟨context, rfl, rfl⟩
  · simp only [Checks.bind_ok, Checks.require_ok] at observed
    obtain ⟨_, _, _, _, same⟩ := observed
    cases same
    exact ⟨context, rfl, rfl⟩

theorem finish_ok {m : Machine} {text : Option String} {outcome : RemoteStreamOutcome}
    (finished : m.finish text = .ok outcome) : m.contextId = some outcome.contextId := by
  unfold finish at finished
  split at finished
  · split at finished
    · cases finished; assumption
    · cases finished
  · cases finished

end Machine

namespace Stream

structure Valid (s : Stream) : Prop where
  expected : ∀ c ∈ s.expectedContextId, IsStreamId c
  machine : ∀ c ∈ s.machine.contextId, IsStreamId c

structure Keeps (s : Stream) (reaction : Reaction) : Prop where
  valid : s.Valid → reaction.stream.Valid
  task : s.Valid → ∀ task ∈ reaction.observedTask, IsStreamId task.2
  outcome : s.Valid → ∀ outcome ∈ reaction.outcome, IsStreamId outcome.contextId
  expected : reaction.stream.expectedTaskId = s.expectedTaskId
  untracked : s.expectedTaskId ≠ none → s.machine.state = none →
    reaction.stream.machine.state = none ∧ reaction.outcome = none

theorem onTask_keeps {s : Stream} {id contextId : String} {state : TaskState} {reaction : Reaction}
    (met : s.onTask id contextId state = .ok reaction) : s.Keeps reaction := by
  simp only [onTask, Checks.bind_ok] at met
  obtain ⟨m, tracked, same⟩ := met
  cases same
  unfold trackTask at tracked
  split at tracked
  · rename_i new
    have bound := Machine.observeTask_ok tracked
    refine ⟨fun valid => ⟨valid.expected, ?_⟩, ?_, ?_, rfl, fun continued => absurd new continued⟩
    · intro c member
      simp only [bound.contextId, Option.mem_def, Option.some.injEq] at member
      exact member ▸ bound.context
    · intro _ task member
      simp only [Option.mem_def, Option.some.injEq] at member
      exact member ▸ bound.context
    · intro _ outcome member
      cases member
  · simp only [Checks.bind_ok, Checks.require_ok] at tracked
    obtain ⟨_, _, _, context, same⟩ := tracked
    cases same
    refine ⟨fun valid => ⟨valid.expected, valid.machine⟩, ?_, ?_, rfl, fun _ none => ⟨none, rfl⟩⟩
    · intro valid task member
      simp only [Option.mem_def, Option.some.injEq] at member
      exact valid.expected task.2 (by rw [context, ← member]; rfl)
    · intro _ outcome member
      cases member

theorem onArtifact_keeps {p : Python} {s : Stream} {taskId contextId : String} {artifact : Content}
    {reaction : Reaction} (met : s.onArtifact p taskId contextId artifact = .ok reaction) :
    s.Keeps reaction := by
  simp only [onArtifact, Checks.bind_ok] at met
  obtain ⟨content, _, m, observed, same⟩ := met
  cases same
  obtain ⟨active, bound⟩ := Machine.observeArtifact_ok observed
  refine ⟨fun valid => ⟨valid.expected, ?_⟩, ?_, ?_, rfl, fun _ none => absurd none active⟩
  · intro c member
    simp only [bound.contextId, Option.mem_def, Option.some.injEq] at member
    exact member ▸ bound.context
  · intro _ task member
    cases member
  · intro _ outcome member
    cases member

theorem onStatus_keeps {p : Python} {s : Stream} {taskId contextId : String} {state : TaskState}
    {final : Bool} {message : Option Content} {reaction : Reaction}
    (met : s.onStatus p taskId contextId state final message = .ok reaction) : s.Keeps reaction := by
  simp only [onStatus, Checks.bind_ok] at met
  obtain ⟨⟨text, content⟩, _, m, observed, met⟩ := met
  obtain ⟨active, bound⟩ := Machine.observeStatus_ok observed
  have known : ∀ c ∈ m.contextId, IsStreamId c := by
    intro c member
    simp only [bound.contextId, Option.mem_def, Option.some.injEq] at member
    exact member ▸ bound.context
  split at met
  · obtain ⟨outcome, finished, same⟩ := Checks.bind_ok.mp met
    cases same
    refine ⟨fun valid => ⟨valid.expected, known⟩, ?_, ?_, rfl, fun _ none => absurd none active⟩
    · intro _ task member
      cases member
    · intro _ other member
      simp only [Option.mem_def, Option.some.injEq] at member
      exact known _ (member ▸ Machine.finish_ok finished)
  · cases met
    refine ⟨fun valid => ⟨valid.expected, known⟩, ?_, ?_, rfl, fun _ none => absurd none active⟩
    · intro _ task member
      cases member
    · intro _ outcome member
      cases member

theorem observe_keeps {p : Python} {s : Stream} {event : StreamEvent} {reaction : Reaction}
    (met : s.observe p event = .ok reaction) : s.Keeps reaction := by
  simp only [observe, Checks.bind_ok] at met
  obtain ⟨_, _, met⟩ := met
  -- the count of the events is no part of what is kept
  have same : ∀ {reaction}, Keeps { s with eventCount := s.eventCount + 1 } reaction →
      s.Keeps reaction := fun keeps =>
    ⟨fun valid => keeps.valid ⟨valid.expected, valid.machine⟩,
      fun valid => keeps.task ⟨valid.expected, valid.machine⟩,
      fun valid => keeps.outcome ⟨valid.expected, valid.machine⟩, keeps.expected, keeps.untracked⟩
  cases event with
  | task id contextId state => exact same (onTask_keeps met)
  | artifact taskId contextId artifact => exact same (onArtifact_keeps met)
  | status taskId contextId state final message => exact same (onStatus_keeps met)
  | other message => cases met

theorem follow_valid {p : Python} {s : Stream} (valid : s.Valid) (events : List StreamEvent) :
    (∀ task ∈ (s.follow p events).tasks, IsStreamId task.2) ∧
      ∀ outcome ∈ (s.follow p events).outcome, IsStreamId outcome.contextId := by
  induction events generalizing s with
  | nil => simp [follow]
  | cons event later ih =>
    cases met : s.observe p event with
    | error e => simp [follow, met]
    | ok reaction =>
      have keeps := observe_keeps met
      have rest := ih (keeps.valid valid)
      cases task : reaction.observedTask with
      | some observed =>
        have head := keeps.task valid observed task
        simp only [follow, met, task, List.mem_cons, forall_eq_or_imp]
        exact ⟨⟨head, rest.1⟩, rest.2⟩
      | none =>
        cases isOver : reaction.outcome with
        | none => simpa [follow, met, task, isOver] using rest
        | some outcome =>
          simpa [follow, met, task, isOver] using keeps.outcome valid outcome isOver

theorem follow_untracked {p : Python} {s : Stream} (continued : s.expectedTaskId ≠ none)
    (untracked : s.machine.state = none) (events : List StreamEvent) :
    (s.follow p events).outcome = none := by
  induction events generalizing s with
  | nil => rfl
  | cons event later ih =>
    cases met : s.observe p event with
    | error e => simp [follow, met]
    | ok reaction =>
      have keeps := observe_keeps met
      obtain ⟨still, silent⟩ := keeps.untracked continued untracked
      have rest := ih (keeps.expected ▸ continued) still
      cases task : reaction.observedTask with
      | some observed => simpa [follow, met, task] using rest
      | none => simpa [follow, met, task, silent] using rest

end Stream

end NetworkAgent.Supervisor
