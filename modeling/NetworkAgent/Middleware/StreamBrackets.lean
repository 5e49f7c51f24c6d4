import NetworkAgent.Middleware.EventStream

/-! When the events of a run are a well-formed stream. A reader follows the stream event by
event; between two steps of the background task it stands where the translator says, and a step
that leaves a call open is never made good. -/
namespace NetworkAgent.Middleware

/-- Where a reader of a stream stands: the open message, with whether it has contents yet, and
the calls that have not ended. -/
inductive Reading where
  | before
  | during (message : Option (String × Bool)) (calls : List String)
  | ended
  deriving DecidableEq

namespace Reading

def readTool (message : Option (String × Bool)) (calls : List String) : ToolEvent → Option Reading
  | .start id _ => if message = none then some (during none (id :: calls)) else none
  | .args id _ => if id ∈ calls then some (during message calls) else none
  | .finish id _ => if id ∈ calls then some (during message (calls.erase id)) else none
  | .result _ _ => some (during message calls)

def accept : Reading → AgUiEvent → Option Reading
  | before, .runStarted _ _ => some (during none [])
  | before, _ => none
  | ended, _ => none
  | during message calls, e => match e with
    | .runStarted _ _ => none
    | .runFinished _ _ | .runError _ _ => if message = none ∧ calls = [] then some ended else none
    | .textMessageStart id => if message = none then some (during (some (id, false)) calls) else none
    | .textMessageContent id _ =>
      if message.map Prod.fst = some id then some (during (some (id, true)) calls) else none
    | .textMessageEnd id => if message = some (id, true) then some (during none calls) else none
    | .toolCall event => readTool message calls event
    | .stateDelta _ | .stateSnapshot _ | .custom _ _ => some (during message calls)

def readAll (r : Reading) (events : List AgUiEvent) : Option Reading := events.foldlM accept r

theorem readAll_append (r : Reading) (first second : List AgUiEvent) :
    r.readAll (first ++ second) = (r.readAll first).bind fun r => r.readAll second :=
  List.foldlM_append

theorem readAll_after {r r' : Reading} {first : List AgUiEvent} (reads : r.readAll first = some r')
    (second : List AgUiEvent) : r.readAll (first ++ second) = r'.readAll second := by
  rw [readAll_append, reads, Option.bind_some]

theorem readAll_stuck {r : Reading} {first : List AgUiEvent} (stuck : r.readAll first = none)
    (second : List AgUiEvent) : r.readAll (first ++ second) = none := by
  rw [readAll_append, stuck, Option.bind_none]

end Reading

/-- The stream begins with `RUN_STARTED` and ends with the one event that ends the run; a message
has contents and ends before another message or a call starts; and every call ends. -/
def WellFormed (events : List AgUiEvent) : Prop := Reading.before.readAll events = some .ended

instance (events : List AgUiEvent) : Decidable (WellFormed events) :=
  inferInstanceAs (Decidable (_ = _))

/-! What the tool events of a step do to the reader. -/

open Reading

/-- The call is shown to the client, and its arguments cannot be written. -/
def FunctionCall.Fails (call : FunctionCall) : Prop :=
  call.name ∉ internalSupervisorTools ∧ call.args = .unserializable

theorem read_emitCall (threadId : String) (call : FunctionCall) (calls : List String) :
    (during none calls).readAll ((emitCall threadId call).events.map .toolCall) =
      some (during none (if (emitCall threadId call).raised then
        encodeToolCall threadId call.id :: calls else calls)) := by
  unfold emitCall
  cases call.args <;> simp [readAll, accept, readTool]

theorem emitCall_raised (threadId : String) (call : FunctionCall) :
    (emitCall threadId call).raised = true ↔ call.args = .unserializable := by
  unfold emitCall
  cases call.args <;> simp

theorem read_translateFunctionCalls (threadId : String) (called : List FunctionCall)
    (calls : List String) :
    ((∀ call ∈ called, ¬ call.Fails) →
      (translateFunctionCalls threadId called).raised = false ∧
      (during none calls).readAll ((translateFunctionCalls threadId called).events.map .toolCall) =
        some (during none calls)) ∧
    (¬ (∀ call ∈ called, ¬ call.Fails) →
      (translateFunctionCalls threadId called).raised = true ∧
      ∃ id, (during none calls).readAll
        ((translateFunctionCalls threadId called).events.map .toolCall) =
          some (during none (id :: calls))) := by
  induction called with
  | nil => simp [translateFunctionCalls, readAll]
  | cons call rest ih =>
    have reads := read_emitCall threadId call calls
    have raised := emitCall_raised threadId call
    by_cases internal : call.name ∈ internalSupervisorTools
    · simpa [translateFunctionCalls, internal, FunctionCall.Fails] using ih
    · by_cases fails : call.args = .unserializable
      · rw [raised.mpr fails] at reads
        simp only [translateFunctionCalls, internal, if_false, Emitted.andThen, raised.mpr fails,
          if_true]
        refine ⟨fun none => absurd ⟨internal, fails⟩ (none call List.mem_cons_self), fun _ => ?_⟩
        exact ⟨trivial, _, reads⟩
      · have fine : (emitCall threadId call).raised = false := by
          simpa using mt raised.mp fails
        rw [fine] at reads
        simp only [translateFunctionCalls, internal, if_false, Emitted.andThen, fine,
          Bool.false_eq_true, List.map_append, readAll_after reads, List.forall_mem_cons]
        simpa [FunctionCall.Fails, fails] using ih

theorem read_translateFunctionResponse (longRunning : List String)
    (responses : List FunctionResponse) (message : Option (String × Bool)) (calls : List String) :
    (during message calls).readAll
      ((translateFunctionResponse longRunning responses).events.map .toolCall) =
        some (during message calls) := by
  induction responses with
  | nil => rfl
  | cons r rest ih =>
    unfold translateFunctionResponse
    split
    · exact ih
    · split
      · rfl
      · exact ih

theorem read_changes (e : StreamedEvent) (message : Option (String × Bool)) (calls : List String) :
    (during message calls).readAll e.changes = some (during message calls) := by
  unfold StreamedEvent.changes createStateDeltaEvent
  cases e.customData <;> split <;> rfl

/-! What the text of a step does to the reader, which stands where the translator says. -/

namespace Translator

def message (t : Translator) : Option (String × Bool) := t.streamingMessageId.map (·, true)

theorem forceClose_closed (t : Translator) : t.forceClose.2.streamingMessageId = none := by
  unfold forceClose
  split
  · rfl
  · next closed => exact closed

theorem read_forceClose (t : Translator) (calls : List String) :
    (during t.message calls).readAll t.forceClose.1 = some (during none calls) := by
  unfold forceClose message
  cases t.streamingMessageId <;> simp [readAll, accept]

theorem combinedText_ne {e : StreamedEvent} (texts : e.textParts ≠ []) :
    String.join e.textParts ≠ "" := by
  obtain ⟨text, rest, parts⟩ := List.exists_cons_of_ne_nil texts
  have member : text ∈ e.textParts := by simp [parts]
  obtain ⟨part, _, found⟩ := List.mem_filterMap.mp member
  have nonempty : text ≠ "" := by
    rintro rfl
    cases part <;> simp at found
  rw [parts]
  simp [nonempty]

theorem read_wholeMessage (t : Translator) (e : StreamedEvent) (calls : List String) :
    (during t.message calls).readAll (t.wholeMessage e) = some (during t.message calls) := by
  unfold wholeMessage
  split
  · next whole => simp [message, whole.1, readAll, accept]
  · rfl

theorem read_translateTextContent (newId : Nat → String) (t : Translator) (e : StreamedEvent)
    (calls : List String) :
    (during t.message calls).readAll (t.translateTextContent newId e).1 =
      some (during (t.translateTextContent newId e).2.message calls) := by
  unfold translateTextContent
  split
  · rfl
  · next texts =>
    split
    · rw [readAll_after (t.read_wholeMessage e calls), t.read_forceClose calls]
      simp [message, forceClose_closed]
    · have contents := combinedText_ne texts
      unfold beginMessage
      cases streaming : t.streamingMessageId <;>
        simp [streaming, contents, message, readAll, accept]

def Bracketed (t : Translator) : StreamStep → Prop
  | .clientTool _ _ args => t.streamingMessageId = none ∧ args ≠ none
  | .event e =>
    if e.translated then e.author = "user" ∨ ∀ call ∈ e.functionCalls, ¬ call.Fails
    else ∀ call ∈ longRunningCall e.toAdkEvent,
      t.streamingMessageId = none ∧ call.args ≠ .unserializable

structure Follows (t t' : Translator) (events : List AgUiEvent) (good : Prop) : Prop where
  clean : good → ∀ calls, (during t.message calls).readAll events = some (during t'.message calls)
  broken : ¬ good → ∀ calls, (during t.message calls).readAll events = none ∨
    ∃ id, (during t.message calls).readAll events = some (during t'.message (id :: calls))

theorem read_tools (threadId : String) (longRunning : List String) (e : AdkEvent)
    (message : Option (String × Bool)) (closed : e.functionCalls = [] ∨ message = none)
    (calls : List String) :
    let tools := (translateFunctionCalls threadId e.functionCalls).andThen
      (translateFunctionResponse longRunning e.functionResponses)
    ((∀ call ∈ e.functionCalls, ¬ call.Fails) →
      (during message calls).readAll (tools.events.map .toolCall) = some (during message calls)) ∧
    (¬ (∀ call ∈ e.functionCalls, ¬ call.Fails) → ∃ id,
      (during message calls).readAll (tools.events.map .toolCall) =
        some (during message (id :: calls))) := by
  have responses := read_translateFunctionResponse longRunning e.functionResponses message calls
  rcases closed with none | rfl
  · simpa [none, translateFunctionCalls, Emitted.andThen] using responses
  · obtain ⟨fine, failing⟩ := read_translateFunctionCalls threadId e.functionCalls calls
    constructor
    · intro all
      obtain ⟨raised, reads⟩ := fine all
      simp only [Emitted.andThen, raised, Bool.false_eq_true, if_false, List.map_append]
      rw [readAll_after reads, responses]
    · intro some
      obtain ⟨raised, id, reads⟩ := failing some
      exact ⟨id, by simpa only [Emitted.andThen, raised, if_true] using reads⟩

theorem read_closeForCalls (t : Translator) (e : StreamedEvent) (calls : List String) :
    (during t.message calls).readAll (t.closeForCalls e).1 =
      some (during (t.closeForCalls e).2.message calls) := by
  unfold closeForCalls
  split
  · rfl
  · rw [t.read_forceClose calls]
    simp [message, forceClose_closed]

theorem closeForCalls_closed (t : Translator) (e : StreamedEvent) :
    e.functionCalls = [] ∨ (t.closeForCalls e).2.message = none := by
  unfold closeForCalls
  split
  · next none => exact .inl none
  · exact .inr (by simp [message, forceClose_closed])

theorem follows_translate (newId : Nat → String) (threadId : String) (t : Translator)
    (e : StreamedEvent) : Follows t (t.translate newId threadId e).2
      (t.translate newId threadId e).1
      (e.author = "user" ∨ ∀ call ∈ e.functionCalls, ¬ call.Fails) := by
  by_cases user : e.author = "user"
  · simp only [translate, user, if_true]
    exact ⟨fun _ _ => rfl, fun bad => absurd (.inl trivial) bad⟩
  have tools := read_tools threadId t.longRunningToolIds e.toAdkEvent _
    ((t.translateTextContent newId e).2.closeForCalls_closed e)
  have changed : ∀ (raised : Bool) message calls, (during message calls).readAll
      (if raised then [] else e.changes) = some (during message calls) := by
    intro raised message calls
    cases raised
    · exact read_changes e message calls
    · rfl
  simp only [translate, user, if_false, false_or]
  constructor
  · intro good calls
    rw [List.append_assoc, List.append_assoc,
      readAll_after (t.read_translateTextContent newId e calls),
      readAll_after (read_closeForCalls _ e calls), readAll_after ((tools calls).1 good), changed]
  · intro bad calls
    obtain ⟨id, shown⟩ := (tools calls).2 bad
    refine .inr ⟨id, ?_⟩
    rw [List.append_assoc, List.append_assoc,
      readAll_after (t.read_translateTextContent newId e calls),
      readAll_after (read_closeForCalls _ e calls), readAll_after shown, changed]

theorem read_start_inside {t : Translator} (streaming : t.streamingMessageId ≠ none) (id name : String)
    (later : List AgUiEvent) (calls : List String) :
    (during t.message calls).readAll (.toolCall (.start id name) :: later) = none := by
  obtain ⟨open', streaming⟩ := Option.ne_none_iff_exists'.mp streaming
  simp [readAll, accept, readTool, message, streaming]

theorem emitCall_starts (threadId : String) (call : FunctionCall) : ∃ later,
    (emitCall threadId call).events =
      .start (encodeToolCall threadId call.id) call.name :: later := by
  unfold emitCall
  cases call.args <;> exact ⟨_, rfl⟩

theorem follows_translateLro (threadId : String) (t : Translator) (call : FunctionCall) :
    Follows t (t.translateLro threadId call).2.1 (t.translateLro threadId call).1
      (t.streamingMessageId = none ∧ call.args ≠ .unserializable) := by
  unfold translateLro
  by_cases streaming : t.streamingMessageId = none
  · have silent : t.message = none := by simp [message, streaming]
    have reads := read_emitCall threadId call
    constructor
    · rintro ⟨_, fine⟩ calls
      have raised : (emitCall threadId call).raised = false := by
        simpa using mt (emitCall_raised threadId call).mp fine
      simpa [message, streaming, raised] using reads calls
    · intro bad calls
      have fails : call.args = .unserializable := by simpa [streaming] using bad
      have raised := (emitCall_raised threadId call).mpr fails
      exact .inr ⟨_, by simpa [message, streaming, raised] using reads calls⟩
  · refine ⟨fun good => absurd good.1 streaming, fun _ calls => .inl ?_⟩
    obtain ⟨later, starts⟩ := emitCall_starts threadId call
    simp only [starts, List.map_cons]
    exact read_start_inside streaming _ _ _ calls

theorem follows_background (newId : Nat → String) (threadId : String) (t : Translator)
    (step : StreamStep) : Follows t (t.background newId threadId step).2.1
      (t.background newId threadId step).1 (t.Bracketed step) := by
  cases step with
  | event e =>
    by_cases translated : e.translated
    · simpa [background, Bracketed, translated] using follows_translate newId threadId t e
    · cases found : longRunningCall e.toAdkEvent with
      | none =>
        simp only [background, Bracketed, translated, found]
        exact ⟨fun _ _ => rfl, fun bad => absurd (by simp) bad⟩
      | some call =>
        simpa [background, Bracketed, translated, found] using follows_translateLro threadId t call
  | clientTool id name args =>
    by_cases streaming : t.streamingMessageId = none
    · cases args with
      | none =>
        refine ⟨fun good => absurd rfl good.2, fun _ calls => .inr ⟨id, ?_⟩⟩
        simp [background, message, streaming, readAll, accept, readTool]
      | some args =>
        refine ⟨fun _ calls => ?_, fun bad => absurd ⟨streaming, by simp⟩ bad⟩
        simp [background, message, streaming, readAll, accept, readTool]
    · refine ⟨fun good => absurd good.1 streaming, fun _ calls => .inl ?_⟩
      cases args <;> exact read_start_inside streaming _ _ _ calls

end Translator

/-! The run. -/

/-- Nothing ends the run but its runner, or a long-running call before the execution has timed
out, and every step on the way is bracketed. -/
def Clean (newId : Nat → String) (threadId : String) (stale : Bool) :
    Translator → List StreamStep → Ending → Prop
  | _, [], ending => ∃ sessionState, ending = .finished sessionState
  | t, step :: rest, ending => t.Bracketed step ∧
    match t.background newId threadId step with
    | (_, t, .goesOn) => Clean newId threadId stale t rest ending
    | _ => stale = false

theorem read_runFinished (message : Option (String × Bool)) (calls : List String)
    (threadId runId : String) :
    (during message calls).readAll [.runFinished threadId runId] = some .ended ↔
      message = none ∧ calls = [] := by
  simp only [readAll, List.foldlM_cons, accept, List.foldlM_nil]
  split <;> simp_all

theorem read_runError (r : Reading) (message code : String) (later : AgUiEvent)
    (rest : List AgUiEvent) : r.readAll (.runError message code :: later :: rest) = none := by
  cases r with
  | during open' calls =>
    by_cases settled : open' = none ∧ calls = [] <;> simp [readAll, accept, settled]
  | _ => rfl

theorem read_until_error (r : Reading) (events : List AgUiEvent) (message code : String)
    (later : AgUiEvent) :
    r.readAll (events ++ [.runError message code] ++ [later]) = none := by
  rw [List.append_assoc, readAll_append]
  cases r.readAll events with
  | none => rfl
  | some r => exact read_runError r message code later []

namespace Translator
variable {newId : Nat → String} {threadId : String} {t : Translator} {step : StreamStep}

theorem stopped_silent (stopped : (t.background newId threadId step).2.2 = .stopped)
    (good : t.Bracketed step) : (t.background newId threadId step).2.1.message = none := by
  cases step with
  | clientTool id name args => cases args <;> simp [background] at stopped
  | event e =>
    by_cases translated : e.translated
    · simp [background, translated] at stopped
    · cases found : longRunningCall e.toAdkEvent with
      | none => simp [background, translated, found] at stopped
      | some call =>
        have silent : t.streamingMessageId = none := by
          simp only [Bracketed, translated, found, Bool.false_eq_true, if_false] at good
          exact (good call rfl).1
        simp [background, translated, found, translateLro, message, silent]

theorem raised_broken (raised : (t.background newId threadId step).2.2 = .raised) :
    ¬ t.Bracketed step := by
  cases step with
  | clientTool id name args => cases args <;> simp_all [background, Bracketed]
  | event e =>
    by_cases translated : e.translated
    · simp [background, translated] at raised
    · cases found : longRunningCall e.toAdkEvent with
      | none => simp [background, translated, found] at raised
      | some call =>
        have fails : (emitCall threadId call).raised = true := by
          by_contra fine
          simp [background, translated, found, translateLro, fine] at raised
        simp [Bracketed, translated, found, (emitCall_raised threadId call).mp fails]

end Translator

theorem streamEvents_append (stale : Bool) (events : List AgUiEvent)
    (queue : List AgUiEvent × Completion) :
    streamEvents stale (events ++ queue.1, queue.2) = events ++ streamEvents stale queue := by
  obtain ⟨later, completion⟩ := queue
  cases completion <;> simp [streamEvents]

theorem read_finish (stale : Bool) (t : Translator) (calls : List String) (ending : Ending)
    (threadId runId : String) :
    (during t.message calls).readAll
      (streamEvents stale (t.finish ending) ++ [.runFinished threadId runId]) = some .ended ↔
        calls = [] ∧ ∃ sessionState, ending = .finished sessionState := by
  cases ending with
  | finished sessionState =>
    have snapshot : (during none calls).readAll
        (if sessionState = [] then [] else [.stateSnapshot sessionState]) =
          some (during none calls) := by
      split <;> rfl
    rw [Translator.finish, streamEvents, List.append_assoc, readAll_after (t.read_forceClose calls),
      readAll_after snapshot, read_runFinished]
    simp
  | raised runnerEnded =>
    rw [Translator.finish, streamEvents, backgroundError, read_until_error]
    simp
  | stalled runnerEnded =>
    rw [Translator.finish, streamEvents, timeoutError, read_until_error]
    simp

/-- The run lemma, by induction on the steps: a reader that stands where the translator says
comes to the end exactly when no call is open and the rest of the run is clean. -/
theorem read_run (newId : Nat → String) (threadId runId : String) (stale : Bool)
    (steps : List StreamStep) (ending : Ending) (t : Translator) (calls : List String) :
    (during t.message calls).readAll
      (streamEvents stale (t.runAdkInBackground newId threadId steps ending) ++
        [.runFinished threadId runId]) = some .ended ↔
      calls = [] ∧ Clean newId threadId stale t steps ending := by
  induction steps generalizing t calls with
  | nil => exact read_finish stale t calls ending threadId runId
  | cons step rest ih =>
    have follows := t.follows_background newId threadId step
    have silent := @Translator.stopped_silent newId threadId t step
    have broken := @Translator.raised_broken newId threadId t step
    rcases moved : t.background newId threadId step with ⟨events, t', course⟩
    simp only [Translator.runAdkInBackground, Clean, moved]
    rw [moved] at follows silent broken
    cases course with
    | goesOn =>
      simp only [streamEvents_append, List.append_assoc]
      by_cases good : t.Bracketed step
      · rw [readAll_after (follows.clean good calls), ih t' calls]
        simp [good]
      · rcases follows.broken good calls with stuck | ⟨id, left⟩
        · simp [readAll_stuck stuck, good]
        · rw [readAll_after left, ih t' (id :: calls)]
          simp [good]
    | stopped =>
      cases stale with
      | true =>
        simp only [streamEvents, if_true, timeoutError, read_until_error]
        simp
      | false =>
        simp only [streamEvents, Bool.false_eq_true, if_false, List.append_nil]
        by_cases good : t.Bracketed step
        · rw [readAll_after (follows.clean good calls), silent rfl good, read_runFinished]
          simp [good]
        · rcases follows.broken good calls with stuck | ⟨id, left⟩
          · simp [readAll_stuck stuck, good]
          · rw [readAll_after left, read_runFinished]
            simp [good]
    | raised =>
      simp only [streamEvents, backgroundError, read_until_error]
      simp [broken rfl]

def AgentRun.Clean (r : AgentRun) : Prop :=
  Middleware.Clean r.newId r.threadId r.stale {} r.steps r.ending

/-- A run yields a well-formed stream exactly when its execution fails to start or is clean. -/
theorem well_formed_iff_clean (r : AgentRun) :
    WellFormed r.events ↔ r.started = false ∨ r.Clean := by
  cases started : r.started with
  | false => simp [WellFormed, AgentRun.events, started, readAll, accept]
  | true =>
    have run := read_run r.newId r.threadId r.runId r.stale r.steps r.ending {} []
    simpa [WellFormed, AgentRun.events, started, readAll, accept, AgentRun.Clean,
      Translator.message] using run

def asksWhileSpeaking : AgentRun where
  threadId := "t"
  runId := "r"
  newId n := "m" ++ toString n
  steps := [
    .event { author := "agent", isFinalResponse := false, usageMetadata := false, isPartial := true,
             parts := [.text "Approve?"] },
    .event { author := "agent", isFinalResponse := true, usageMetadata := true,
             longRunningToolIds := ["c"],
             parts := [.functionCall { id := "c", name := "approve_user_action" }] }]

/-- The call starts while the message is open, and the run ends before the message does. -/
theorem message_left_open : ¬ ∀ r : AgentRun, WellFormed r.events := by
  intro all
  exact absurd (all asksWhileSpeaking) (by decide)

end NetworkAgent.Middleware
