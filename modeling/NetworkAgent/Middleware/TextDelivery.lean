import NetworkAgent.Middleware.StreamBrackets

/-! The text that a run sends, against the text of the model's turns: every turn is a row of
partial events closed by an event that repeats their text, or a single event. -/
namespace NetworkAgent.Middleware

def AgUiEvent.delta? : AgUiEvent → Option String
  | .textMessageContent _ delta => some delta
  | _ => none

def deltas (events : List AgUiEvent) : String := String.join (events.filterMap AgUiEvent.delta?)

namespace StreamedEvent

def text (e : StreamedEvent) : String := String.join e.textParts

/-- The event ends a message: it is a final response, or waits for input. -/
def ends (e : StreamedEvent) : Bool := e.isFinalResponse || e.inputRequired

structure IsChunk (e : StreamedEvent) : Prop where
  model : e.author ≠ "user"
  part : e.isPartial = true
  open_ : e.ends = false
  spoken : e.text ≠ ""
  calls : e.functionCalls = []

end StreamedEvent

structure Turn where
  chunks : List StreamedEvent
  closing : StreamedEvent
  partials : ∀ c ∈ chunks, c.IsChunk
  model : closing.author ≠ "user"
  whole : closing.isPartial = false
  repeats : chunks ≠ [] → closing.text = String.join (chunks.map StreamedEvent.text)

namespace Turn

def events (turn : Turn) : List StreamedEvent := turn.chunks ++ [turn.closing]

def text (turn : Turn) : String := turn.closing.text

/-- The turn's text is sent once, given whether a message is open before it. -/
def Delivers (isOpen : Bool) (turn : Turn) : Prop :=
  (turn.chunks ≠ [] → turn.closing.ends = true) ∧
    (turn.chunks = [] → turn.text ≠ "" → turn.closing.ends = true →
      isOpen = false ∧ turn.closing.usageMetadata = false)

def leavesOpen (isOpen : Bool) (turn : Turn) : Bool :=
  if turn.closing.translated = false then isOpen || !turn.chunks.isEmpty
  else if turn.closing.functionCalls ≠ [] then false
  else if turn.text = "" then isOpen
  else !turn.closing.ends

def stops (turn : Turn) : Bool :=
  !turn.closing.translated && (longRunningCall turn.closing.toAdkEvent).isSome

theorem spoken_of_streamed {turn : Turn} (streamed : turn.chunks ≠ []) : turn.text ≠ "" := by
  obtain ⟨c, rest, known⟩ := List.exists_cons_of_ne_nil streamed
  have spoken := (turn.partials c (by simp [known])).spoken
  rw [text, turn.repeats streamed, known, List.map_cons, String.join_cons]
  exact fun empty => spoken (String.append_eq_empty_iff.mp empty).1

end Turn

def AllDelivered : Bool → List Turn → Prop
  | _, [] => True
  | isOpen, turn :: rest =>
    turn.Delivers isOpen ∧ (turn.stops = false → AllDelivered (turn.leavesOpen isOpen) rest)

namespace Translator

def readEvents (newId : Nat → String) (threadId : String) :
    Translator → List StreamedEvent → List AgUiEvent × Translator × Course
  | t, [] => ([], t, .goesOn)
  | t, e :: rest =>
    match t.background newId threadId (.event e) with
    | (events, t, .goesOn) =>
      let (later, t, course) := readEvents newId threadId t rest
      (events ++ later, t, course)
    | (events, t, course) => (events, t, course)

def readTurns (newId : Nat → String) (threadId : String) :
    Translator → List Turn → List (Turn × List AgUiEvent)
  | _, [] => []
  | t, turn :: rest =>
    match t.readEvents newId threadId turn.events with
    | (events, t, .goesOn) => (turn, events) :: readTurns newId threadId t rest
    | (events, _, _) => [(turn, events)]

def isOpen (t : Translator) : Bool := t.streamingMessageId.isSome

end Translator

/-! What one event sends. -/

@[simp] theorem deltas_nil : deltas [] = "" := rfl

@[simp] theorem deltas_cons (e : AgUiEvent) (events : List AgUiEvent) :
    deltas (e :: events) = (e.delta?.getD "") ++ deltas events := by
  cases kind : e.delta? <;> simp [deltas, kind]

theorem deltas_append (first second : List AgUiEvent) :
    deltas (first ++ second) = deltas first ++ deltas second := by
  rw [deltas, List.filterMap_append, String.join_append, deltas, deltas]

theorem deltas_tools (events : List ToolEvent) : deltas (events.map .toolCall) = "" := by
  have none : (events.map AgUiEvent.toolCall).filterMap AgUiEvent.delta? = [] := by
    simp [List.filterMap_map, Function.comp_def, AgUiEvent.delta?]
  rw [deltas, none, String.join_nil]

theorem deltas_changes (e : StreamedEvent) : deltas e.changes = "" := by
  have none : e.changes.filterMap AgUiEvent.delta? = [] := by
    unfold StreamedEvent.changes createStateDeltaEvent
    cases e.customData <;> split <;> rfl
  rw [deltas, none, String.join_nil]

theorem text_eq_empty {e : StreamedEvent} : e.text = "" ↔ e.textParts = [] := by
  constructor
  · intro empty
    by_contra texts
    exact Translator.combinedText_ne texts empty
  · intro none
    rw [StreamedEvent.text, none, String.join_nil]

namespace Translator
variable (newId : Nat → String) (threadId : String) (t : Translator)

theorem deltas_forceClose : deltas t.forceClose.1 = "" := by
  unfold forceClose
  split <;> simp [AgUiEvent.delta?]

theorem isOpen_forceClose : t.forceClose.2.isOpen = false := by
  rw [isOpen, forceClose_closed]
  rfl

theorem isOpen_closeForCalls (e : StreamedEvent) : (t.closeForCalls e).2.isOpen =
    if e.functionCalls = [] then t.isOpen else false := by
  unfold closeForCalls
  split
  · rfl
  · exact t.isOpen_forceClose

theorem deltas_closeForCalls (e : StreamedEvent) : deltas (t.closeForCalls e).1 = "" := by
  unfold closeForCalls
  split
  · rfl
  · exact t.deltas_forceClose

theorem deltas_wholeMessage (e : StreamedEvent) : deltas (t.wholeMessage e) =
    if t.isOpen = false ∧ e.usageMetadata = false ∧ e.isPartial = false then e.text else "" := by
  unfold wholeMessage isOpen
  cases t.streamingMessageId with
  | none => split <;> simp_all [AgUiEvent.delta?, StreamedEvent.text]
  | some id => simp

theorem text_translateTextContent (e : StreamedEvent) :
    deltas (t.translateTextContent newId e).1 = (if e.ends = true then
        if t.isOpen = false ∧ e.usageMetadata = false ∧ e.isPartial = false then e.text else ""
      else e.text) ∧
    (t.translateTextContent newId e).2.isOpen = if e.text = "" then t.isOpen else !e.ends := by
  unfold translateTextContent
  by_cases none : e.textParts = []
  · have empty : e.text = "" := text_eq_empty.mpr none
    simp [none, empty]
  · have spoken : e.text ≠ "" := fun empty => none (text_eq_empty.mp empty)
    rw [if_neg none, if_neg spoken]
    by_cases ends : e.ends = true
    · have final : (e.isFinalResponse || e.inputRequired) = true := ends
      rw [if_pos final, if_pos ends, deltas_append, deltas_wholeMessage, deltas_forceClose,
        isOpen_forceClose, ends, String.append_empty]
      exact ⟨rfl, rfl⟩
    · have goesOn : ¬ (e.isFinalResponse || e.inputRequired) = true := ends
      have joined : ¬ String.join e.textParts = "" := spoken
      rw [if_neg goesOn, if_neg ends]
      unfold beginMessage
      cases known : t.streamingMessageId <;>
        simp [known, joined, ends, isOpen, AgUiEvent.delta?, StreamedEvent.text]

theorem text_translate {e : StreamedEvent} (model : e.author ≠ "user") :
    deltas (t.translate newId threadId e).1 = (if e.ends = true then
        if t.isOpen = false ∧ e.usageMetadata = false ∧ e.isPartial = false then e.text else ""
      else e.text) ∧
    (t.translate newId threadId e).2.isOpen = if e.functionCalls ≠ [] then false
      else if e.text = "" then t.isOpen else !e.ends := by
  obtain ⟨said, opened⟩ := t.text_translateTextContent newId e
  have rest : ∀ raised : Bool, deltas (if raised then [] else e.changes) = "" := by
    intro raised
    cases raised
    · exact deltas_changes e
    · rfl
  unfold translate
  rw [if_neg model]
  refine ⟨?_, ?_⟩
  · simp only [deltas_append, said, deltas_closeForCalls, deltas_tools, rest, String.append_empty]
  · simp only [isOpen_closeForCalls, opened, ne_eq, ite_not]

theorem text_background {e : StreamedEvent} (model : e.author ≠ "user") :
    deltas (t.background newId threadId (.event e)).1 = (if e.translated = true then
        if e.ends = true then
          if t.isOpen = false ∧ e.usageMetadata = false ∧ e.isPartial = false then e.text else ""
        else e.text
      else "") ∧
    ((t.background newId threadId (.event e)).2.2 = .goesOn ↔
      e.translated = true ∨ longRunningCall e.toAdkEvent = none) ∧
    (t.background newId threadId (.event e)).2.1.isOpen = (if e.translated = true then
        if e.functionCalls ≠ [] then false else if e.text = "" then t.isOpen else !e.ends
      else t.isOpen) := by
  obtain ⟨said, opened⟩ := t.text_translate newId threadId model
  by_cases given : e.translated = true
  · simp only [background, given, if_true, said, opened, true_or, and_self]
  · simp only [background, given, if_false, Bool.false_eq_true, false_or]
    cases longRunningCall e.toAdkEvent with
    | none => simp
    | some call =>
      refine ⟨deltas_tools _, ?_, rfl⟩
      by_cases raised : (emitCall threadId call).raised = true <;> simp [translateLro, raised]

theorem readEvents_cons {e : StreamedEvent} {rest : List StreamedEvent} {events : List AgUiEvent}
    {t' : Translator} (moved : t.background newId threadId (.event e) = (events, t', .goesOn)) :
    t.readEvents newId threadId (e :: rest) =
      (events ++ (t'.readEvents newId threadId rest).1, (t'.readEvents newId threadId rest).2) := by
  simp only [readEvents, moved]

theorem text_chunk {e : StreamedEvent} (chunk : e.IsChunk) :
    ∃ (events : List AgUiEvent) (t' : Translator),
    t.background newId threadId (.event e) = (events, t', .goesOn) ∧ deltas events = e.text ∧
      t'.isOpen = true := by
  have final : e.isFinalResponse = false := by
    have open_ := chunk.open_
    simp only [StreamedEvent.ends, Bool.or_eq_false_iff] at open_
    exact open_.1
  have given : e.translated = true := by simp [StreamedEvent.translated, final]
  obtain ⟨said, course, opened⟩ := t.text_background newId threadId chunk.model
  simp only [given, chunk.open_, chunk.calls, chunk.spoken, if_true, Bool.false_eq_true, if_false,
    true_or, iff_true, ne_eq, not_true_eq_false, Bool.not_false] at said course opened
  exact ⟨_, _, Prod.ext rfl (Prod.ext rfl course), said, opened⟩

theorem text_chunks (chunks : List StreamedEvent) (partials : ∀ c ∈ chunks, c.IsChunk)
    (closing : StreamedEvent) (t : Translator) : ∃ (events : List AgUiEvent) (t' : Translator),
    t.readEvents newId threadId (chunks ++ [closing]) =
        (events ++ (t'.readEvents newId threadId [closing]).1,
          (t'.readEvents newId threadId [closing]).2) ∧
      deltas events = String.join (chunks.map StreamedEvent.text) ∧
      t'.isOpen = (t.isOpen || !chunks.isEmpty) := by
  induction chunks generalizing t with
  | nil => exact ⟨[], t, by simp, rfl, by simp⟩
  | cons c rest ih =>
    obtain ⟨events, t', moved, said, opened⟩ :=
      t.text_chunk newId threadId (partials c List.mem_cons_self)
    obtain ⟨later, t'', run, spoken, open_⟩ :=
      ih (fun d member => partials d (List.mem_cons_of_mem c member)) t'
    refine ⟨events ++ later, t'', ?_, ?_, ?_⟩
    · rw [List.cons_append, readEvents_cons newId threadId t moved, run, List.append_assoc]
    · rw [deltas_append, said, spoken, List.map_cons, String.join_cons]
    · rw [open_, opened]
      simp

theorem readEvents_last (e : StreamedEvent) :
    t.readEvents newId threadId [e] = t.background newId threadId (.event e) := by
  rcases moved : t.background newId threadId (.event e) with ⟨events, t', course⟩
  cases course <;> simp [readEvents, moved]

theorem text_turn (turn : Turn) :
    (deltas (t.readEvents newId threadId turn.events).1 = turn.text ↔ turn.Delivers t.isOpen) ∧
    ((t.readEvents newId threadId turn.events).2.2 = .goesOn ↔ turn.stops = false) ∧
    (t.readEvents newId threadId turn.events).2.1.isOpen = turn.leavesOpen t.isOpen := by
  obtain ⟨events, t', run, said, opened⟩ :=
    text_chunks newId threadId turn.chunks turn.partials turn.closing t
  obtain ⟨last, course, open_⟩ := t'.text_background newId threadId turn.model
  have final : turn.closing.translated = false → turn.closing.ends = true := by
    intro skipped
    have both := (Bool.or_eq_false_iff.mp skipped).1
    simp_all [StreamedEvent.ends]
  rw [Turn.events, run, readEvents_last, deltas_append, said, last]
  refine ⟨?_, ?_, ?_⟩
  · by_cases streamed : turn.chunks = []
    · -- a single event
      have same : t'.isOpen = t.isOpen := by simpa [streamed] using opened
      simp only [streamed, List.map_nil, String.join_nil, String.empty_append, same, turn.whole,
        Turn.Delivers, ne_eq, not_true_eq_false, false_imp_iff, true_imp_iff, true_and, and_true]
      by_cases empty : turn.text = ""
      · have none : turn.closing.text = "" := empty
        simp [none, empty]
      · have apart : ¬ "" = turn.text := fun same => empty same.symm
        cases given : turn.closing.translated with
        | false =>
          have parts : turn.closing.parts ≠ [] := by
            intro none
            exact empty (text_eq_empty.mpr (by simp [StreamedEvent.textParts, none]))
          have used : turn.closing.usageMetadata = true := by
            have both := (Bool.or_eq_false_iff.mp given).2
            simpa [parts] using both
          simp [final given, used, apart, empty]
        | true =>
          cases turn.closing.ends with
          | false => simp [Turn.text]
          | true =>
            by_cases free : t.isOpen = false ∧ turn.closing.usageMetadata = false
            · simp [free, Turn.text]
            · simp [free, apart, empty]
    · -- what is repeated must not be sent
      have spoken := Turn.spoken_of_streamed streamed
      have open' : t'.isOpen = true := by simp [opened, streamed]
      have repeated : String.join (turn.chunks.map StreamedEvent.text) = turn.text :=
        (turn.repeats streamed).symm
      have text : turn.closing.text ≠ "" := spoken
      rw [repeated, String.append_eq_left_iff]
      cases given : turn.closing.translated with
      | false => simp [Turn.Delivers, streamed, final given]
      | true => cases ends : turn.closing.ends <;> simp [Turn.Delivers, streamed, ends, open', text]
  · rw [course]
    cases given : turn.closing.translated <;> simp [Turn.stops, given]
  · rw [open_, opened]
    cases given : turn.closing.translated with
    | false => simp [Turn.leavesOpen, given]
    | true =>
      by_cases empty : turn.text = ""
      · have single : turn.chunks = [] := by
          by_contra streamed
          exact Turn.spoken_of_streamed streamed empty
        have none : turn.closing.text = "" := empty
        simp [Turn.leavesOpen, given, single, none, empty]
      · have spoken : turn.closing.text ≠ "" := empty
        simp [Turn.leavesOpen, given, spoken, empty]

/-! Whole runs. -/

theorem run_events (events : List StreamedEvent) (later : List StreamStep) (ending : Ending)
    (t : Translator) :
    deltas (t.runAdkInBackground newId threadId (events.map .event ++ later) ending).1 =
      deltas (t.readEvents newId threadId events).1 ++
        if (t.readEvents newId threadId events).2.2 = .goesOn then
          deltas ((t.readEvents newId threadId events).2.1.runAdkInBackground newId threadId later
            ending).1
        else "" := by
  induction events generalizing t with
  | nil => simp [readEvents]
  | cons e rest ih =>
    rcases moved : t.background newId threadId (.event e) with ⟨events, t', course⟩
    cases course with
    | goesOn =>
      simp only [List.map_cons, List.cons_append, runAdkInBackground, readEvents, moved,
        deltas_append, ih t', String.append_assoc]
    | stopped => simp [runAdkInBackground, readEvents, moved]
    | raised =>
      simp [runAdkInBackground, readEvents, moved, deltas_append, backgroundError, AgUiEvent.delta?]

theorem deltas_finish (ending : Ending) : deltas (t.finish ending).1 = "" := by
  cases ending with
  | finished sessionState =>
    simp only [finish, deltas_append, deltas_forceClose]
    split <;> simp [AgUiEvent.delta?]
  | raised runnerEnded =>
    cases runnerEnded <;>
      simp [finish, deltas_append, deltas_forceClose, backgroundError, AgUiEvent.delta?]
  | stalled runnerEnded => cases runnerEnded <;> simp [finish, deltas_forceClose]

theorem run_turns (turns : List Turn) (ending : Ending) (t : Translator) :
    deltas (t.runAdkInBackground newId threadId ((turns.flatMap Turn.events).map .event) ending).1 =
      String.join ((t.readTurns newId threadId turns).map fun p => deltas p.2) := by
  induction turns generalizing t with
  | nil => exact t.deltas_finish ending
  | cons turn rest ih =>
    rw [List.flatMap_cons, List.map_append, run_events]
    rcases read : t.readEvents newId threadId turn.events with ⟨events, t', course⟩
    cases course <;> simp [readTurns, read, ih t']

theorem turns_delivered (turns : List Turn) (t : Translator) :
    (∀ p ∈ t.readTurns newId threadId turns, deltas p.2 = p.1.text) ↔
      AllDelivered t.isOpen turns := by
  induction turns generalizing t with
  | nil => simp [readTurns, AllDelivered]
  | cons turn rest ih =>
    obtain ⟨once, goesOn, opened⟩ := t.text_turn newId threadId turn
    rcases read : t.readEvents newId threadId turn.events with ⟨events, t', course⟩
    rw [read] at once goesOn opened
    rw [AllDelivered, ← once, ← goesOn]
    cases course with
    | goesOn =>
      simp only [readTurns, read, List.forall_mem_cons, ih t', opened, true_imp_iff]
    | stopped => simp [readTurns, read]
    | raised => simp [readTurns, read]

end Translator

/-- Every turn of a run is sent once exactly when it delivers, and then the text of the run is the
text of its turns. -/
theorem text_delivered_iff (newId : Nat → String) (threadId : String) (turns : List Turn)
    (ending : Ending) :
    let read := ({} : Translator).readTurns newId threadId turns
    let sent := deltas (({} : Translator).runAdkInBackground newId threadId
      ((turns.flatMap Turn.events).map .event) ending).1
    sent = String.join (read.map fun p => deltas p.2) ∧
      ((∀ p ∈ read, deltas p.2 = p.1.text) ↔ AllDelivered false turns) ∧
      (AllDelivered false turns → sent = String.join (read.map fun p => p.1.text)) := by
  intro read sent
  have whole : sent = String.join (read.map fun p => deltas p.2) :=
    Translator.run_turns newId threadId turns ending {}
  have each := Translator.turns_delivered newId threadId turns {}
  refine ⟨whole, each, fun delivered => ?_⟩
  rw [whole]
  exact congrArg String.join (List.map_congr_left (each.mpr delivered))

def hi : StreamedEvent where
  author := "model"
  isFinalResponse := false
  usageMetadata := false
  parts := [.text "Hi"]
  isPartial := true

def hiAgain : StreamedEvent where
  author := "model"
  isFinalResponse := false
  usageMetadata := true
  parts := [.text "Hi", .functionCall { id := "c1", name := "lookup" }]

def speaksAndCalls : Turn where
  chunks := [hi]
  closing := hiAgain
  partials c member := by
    cases List.mem_singleton.mp member
    exact ⟨by decide, rfl, rfl, by decide, rfl⟩
  model := by decide
  whole := rfl
  repeats _ := by decide

/-- The text before the call reaches the client twice. -/
theorem text_repeated : ¬ ∀ (newId : Nat → String) (threadId : String) (turns : List Turn)
    (ending : Ending), deltas (({} : Translator).runAdkInBackground newId threadId
      ((turns.flatMap Turn.events).map .event) ending).1 = String.join (turns.map Turn.text) := by
  intro claim
  have run := claim (fun _ => "m") "thread" [speaksAndCalls] (.finished [])
  revert run
  decide

end NetworkAgent.Middleware
