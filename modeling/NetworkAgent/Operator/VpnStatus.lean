import Mathlib.Data.List.Basic
import NetworkAgent.Library.Runs

/-! The status of a VPN service. Every event of a WireGuard appliance is handled by reading the
whole service, recording the status of the appliance's edge and writing everything back; a write
of an outdated read is refused, and the handler tries once more. -/
namespace NetworkAgent.Operator.Vpn

structure Edge where
  name : String
  status : String
  deriving DecidableEq

/-- What the handlers read and write of a service. The edges are missing until the service has
a status of its kind. -/
structure Service where
  version : Nat
  edges : Option (List Edge)
  kindStatus : Option String
  currentStatus : Option String
  deriving DecidableEq

def running : String := "Running"

/-- An event of an appliance: its type, and the status that the appliance reports. -/
structure Event where
  type : String
  name : String
  applianceStatus : Option String

def Event.Reports (event : Event) : Prop :=
  event.type = "MODIFIED" ∧ event.applianceStatus = some running

instance (event : Event) : Decidable event.Reports := inferInstanceAs (Decidable (_ ∧ _))

def recordRunning (name : String) : List Edge → List Edge
  | [] => []
  | edge :: rest =>
    if edge.name = name then { edge with status := running } :: rest
    else edge :: recordRunning name rest

def AllRunning (edges : List Edge) : Prop := ∀ edge ∈ edges, edge.status = running

instance (edges : List Edge) : Decidable (AllRunning edges) :=
  inferInstanceAs (Decidable (∀ edge ∈ edges, _))

def Event.apply (event : Event) (edges : List Edge) : List Edge :=
  if event.Reports then recordRunning event.name edges else edges

def Event.body (event : Event) (read : Service) (edges : List Edge) : Service :=
  let edges := event.apply edges
  if AllRunning edges then
    { read with edges := some edges, kindStatus := some running, currentStatus := some running }
  else { read with edges := some edges, currentStatus := some "Starting" }

/-- A handler between two calls to the API server. -/
inductive Phase where
  | reading (retry : Bool)
  | patching (retry : Bool) (read : Service) (edges : List Edge)
  | finished
  | raised

structure State where
  service : Service
  phase : Nat → Phase

def State.goto (s : State) (i : Nat) (phase : Phase) : State :=
  { s with phase := fun j => if j = i then phase else s.phase j }

/-- The API server applies a patch of the current version. Whether a patch that changes nothing
gets a new version is open. -/
def patched (renews : Bool) (current body : Service) : Service :=
  if renews || decide (body ≠ current) then { body with version := current.version + 1 }
  else current

def step (renews : Bool) (events : List Event) (s : State) (i : Nat) : State :=
  match events[i]?, s.phase i with
  | some _, .reading retry => match s.service.edges with
    | none => s.goto i .finished
    | some edges => s.goto i (.patching retry s.service edges)
  | some event, .patching retry read edges =>
    if read.version = s.service.version then
      { s with service := patched renews s.service (event.body read edges) }.goto i .finished
    else if retry then s.goto i .raised
    else s.goto i (.reading true)
  | _, _ => s

def start (service : Service) : State where
  service := service
  phase _ := .reading false

def run (renews : Bool) (events : List Event) (service : Service) (order : List Nat) : State :=
  Runs.run (step renews events) (start service) order

def ConflictsAgain (s : State) (i : Nat) : Prop :=
  ∃ read edges, s.phase i = .patching true read edges ∧ read.version ≠ s.service.version

instance (s : State) (i : Nat) : Decidable (ConflictsAgain s i) :=
  match phase : s.phase i with
  | .patching true read edges =>
    decidable_of_iff (read.version ≠ s.service.version)
      ⟨fun stale => ⟨read, edges, phase, stale⟩, fun ⟨_, _, other, stale⟩ => by
        cases phase.symm.trans other
        exact stale⟩
  | .patching false .. | .reading _ | .finished | .raised =>
    isFalse fun ⟨_, _, other, _⟩ => nomatch phase.symm.trans other

def Phase.IsOver : Phase → Prop
  | .finished | .raised => True
  | _ => False

instance : DecidablePred Phase.IsOver
  | .finished | .raised => isTrue trivial
  | .reading _ | .patching .. => isFalse id

/-- Once all handlers are done, and where some event reported every edge, every edge and the
service are running. -/
def Converges (renews : Bool) (events : List Event) (service : Service) (edges : List Edge)
    (order : List Nat) : Prop :=
  (∀ i < events.length, ((run renews events service order).phase i).IsOver) →
  (∀ edge ∈ edges, ∃ event ∈ events, event.name = edge.name ∧ event.Reports) →
  ∃ final, (run renews events service order).service.edges = some final ∧
    final.map Edge.name = edges.map Edge.name ∧ AllRunning final ∧
    (run renews events service order).service.currentStatus = some running

/-- The step changes the recorded status of an edge that is not the handler's own. -/
def Overwrites (renews : Bool) (events : List Event) (s : State) (i : Nat) : Prop :=
  ∃ before after, s.service.edges = some before ∧
    (step renews events s i).service.edges = some after ∧
    ∃ edge ∈ before, edge ∉ after ∧ ∀ event, events[i]? = some event → event.name ≠ edge.name

/-! One step. -/

section
variable {renews : Bool} {events : List Event} {s : State} {i : Nat}

@[simp] theorem goto_service (phase : Phase) : (s.goto i phase).service = s.service := rfl

@[simp] theorem goto_phase (phase : Phase) (j : Nat) :
    (s.goto i phase).phase j = if j = i then phase else s.phase j := rfl

theorem step_cases (renews : Bool) (events : List Event) (s : State) (i : Nat) :
    step renews events s i = s ∨
    (∃ retry, s.phase i = .reading retry ∧ s.service.edges = none ∧
      step renews events s i = s.goto i .finished) ∨
    (∃ retry edges, s.phase i = .reading retry ∧ s.service.edges = some edges ∧
      step renews events s i = s.goto i (.patching retry s.service edges)) ∨
    (∃ event retry read edges, events[i]? = some event ∧ s.phase i = .patching retry read edges ∧
      read.version = s.service.version ∧ step renews events s i =
        { s with service := patched renews s.service (event.body read edges) }.goto i .finished) ∨
    ∃ retry read edges, s.phase i = .patching retry read edges ∧
      read.version ≠ s.service.version ∧
      step renews events s i = s.goto i (if retry then .raised else .reading true) := by
  unfold step
  split
  · rename_i retry _ phase
    cases known : s.service.edges with
    | none => exact .inr (.inl ⟨retry, phase, rfl, rfl⟩)
    | some edges => exact .inr (.inr (.inl ⟨retry, edges, phase, rfl, rfl⟩))
  · rename_i event retry read edges handled phase
    by_cases fresh : read.version = s.service.version
    · rw [if_pos fresh]
      exact .inr (.inr (.inr (.inl ⟨event, retry, read, edges, handled, phase, fresh, rfl⟩)))
    · rw [if_neg fresh]
      refine .inr (.inr (.inr (.inr ⟨retry, read, edges, phase, fresh, ?_⟩)))
      cases retry <;> rfl
  · exact .inl rfl

end

/-! The edges that a handler writes back. -/

theorem recordRunning_names (name : String) (edges : List Edge) :
    (recordRunning name edges).map Edge.name = edges.map Edge.name := by
  induction edges with
  | nil => rfl
  | cons edge rest ih =>
    rw [recordRunning]
    split
    · rfl
    · rw [List.map_cons, ih, List.map_cons]

theorem mem_recordRunning_of_other {name : String} {edges : List Edge} {edge : Edge}
    (member : edge ∈ edges) (other : edge.name ≠ name) : edge ∈ recordRunning name edges := by
  induction edges with
  | nil => cases member
  | cons first rest ih =>
    rw [recordRunning]
    rcases List.mem_cons.mp member with rfl | later
    · rw [if_neg other]
      exact List.mem_cons_self
    · split
      · exact List.mem_cons_of_mem _ later
      · exact List.mem_cons_of_mem _ (ih later)

theorem running_or_mem {name : String} {edges : List Edge} {edge : Edge}
    (member : edge ∈ recordRunning name edges) : edge.status = running ∨ edge ∈ edges := by
  induction edges with
  | nil => cases member
  | cons first rest ih =>
    rw [recordRunning] at member
    split at member
    · rcases List.mem_cons.mp member with rfl | later
      · exact .inl rfl
      · exact .inr (List.mem_cons_of_mem _ later)
    · rcases List.mem_cons.mp member with rfl | later
      · exact .inr List.mem_cons_self
      · exact (ih later).imp id (List.mem_cons_of_mem _)

theorem running_of_recordRunning {name : String} {edges : List Edge}
    (distinct : (edges.map Edge.name).Nodup) {edge : Edge}
    (member : edge ∈ recordRunning name edges) (own : edge.name = name) :
    edge.status = running := by
  induction edges with
  | nil => cases member
  | cons first rest ih =>
    obtain ⟨fresh, distinct⟩ := List.nodup_cons.mp distinct
    rw [recordRunning] at member
    split at member
    · rename_i here
      rcases List.mem_cons.mp member with rfl | later
      · rfl
      · refine absurd ?_ fresh
        rw [here, ← own]
        exact List.mem_map_of_mem later
    · rename_i other
      rcases List.mem_cons.mp member with rfl | later
      · exact absurd own other
      · exact ih distinct later

section
variable {event : Event} {edges : List Edge} {read : Service}

theorem apply_names : (event.apply edges).map Edge.name = edges.map Edge.name := by
  unfold Event.apply
  split
  · exact recordRunning_names _ _
  · rfl

theorem body_edges : (event.body read edges).edges = some (event.apply edges) := by
  unfold Event.body
  dsimp only
  split <;> rfl

theorem body_currentStatus (all : AllRunning (event.apply edges)) :
    (event.body read edges).currentStatus = some running := by
  unfold Event.body
  dsimp only
  rw [if_pos all]

end

theorem patched_contents (renews : Bool) (current body : Service) :
    (patched renews current body).edges = body.edges ∧
      (patched renews current body).currentStatus = body.currentStatus := by
  unfold patched
  split
  · exact ⟨rfl, rfl⟩
  · rename_i same
    simp only [Bool.or_eq_true, decide_eq_true_eq, not_or, ne_eq, not_not] at same
    rw [same.2]
    exact ⟨rfl, rfl⟩

theorem patched_version (renews : Bool) (current body : Service) :
    patched renews current body = current ∨
      (patched renews current body).version = current.version + 1 := by
  unfold patched
  split
  · exact .inr rfl
  · exact .inl rfl

/-! A run. -/

/-- What holds in every reachable state of a service with edges of these names. -/
structure Tracks (events : List Event) (names : List String) (s : State) : Prop where
  listed : ∃ edges, s.service.edges = some edges ∧ edges.map Edge.name = names
  reads : ∀ i retry read edges, s.phase i = .patching retry read edges →
    read.edges = some edges ∧ read.version ≤ s.service.version ∧
      (read.version = s.service.version → read = s.service)
  recorded : ∀ i event edges, s.phase i = .finished → events[i]? = some event → event.Reports →
    s.service.edges = some edges → ∀ edge ∈ edges, edge.name = event.name → edge.status = running
  current : ∀ i edges, s.phase i = .finished → s.service.edges = some edges → AllRunning edges →
    s.service.currentStatus = some running

section
variable {renews : Bool} {events : List Event} {names : List String} {s : State} {i : Nat}

theorem Tracks.goto (tracks : Tracks events names s) {phase : Phase} (unfinished : phase ≠ .finished)
    (reads : ∀ retry read edges, phase = .patching retry read edges →
      read = s.service ∧ s.service.edges = some edges) : Tracks events names (s.goto i phase) where
  listed := tracks.listed
  reads j retry read edges at' := by
    simp only [goto_phase, goto_service] at at' ⊢
    split at at'
    · obtain ⟨rfl, known⟩ := reads retry read edges at'
      exact ⟨known, le_rfl, fun _ => rfl⟩
    · exact tracks.reads j retry read edges at'
  recorded j event edges at' := by
    simp only [goto_phase, goto_service] at at' ⊢
    split at at'
    · exact absurd at' unfinished
    · exact tracks.recorded j event edges at'
  current j edges at' := by
    simp only [goto_phase, goto_service] at at' ⊢
    split at at'
    · exact absurd at' unfinished
    · exact tracks.current j edges at'

theorem Tracks.patch (distinct : names.Nodup) (tracks : Tracks events names s) {event : Event}
    {retry : Bool} {read : Service} {edges : List Edge} (handled : events[i]? = some event)
    (phase : s.phase i = .patching retry read edges) (fresh : read.version = s.service.version) :
    Tracks events names
      ({ s with service := patched renews s.service (event.body read edges) }.goto i .finished) := by
  obtain ⟨known, -, same⟩ := tracks.reads i retry read edges phase
  have same := same fresh
  subst same
  obtain ⟨stored, status⟩ := patched_contents renews s.service (event.body s.service edges)
  rw [body_edges] at stored
  obtain ⟨edges', known', named⟩ := tracks.listed
  cases known.symm.trans known'
  have kept : ∀ edge ∈ event.apply edges, edge.status = running ∨ edge ∈ edges := by
    intro edge member
    unfold Event.apply at member
    split at member
    · exact running_or_mem member
    · exact .inr member
  refine ⟨⟨_, stored, apply_names.trans named⟩, ?_, ?_, ?_⟩
  · intro j retry' read' edges'' at'
    simp only [goto_phase, goto_service] at at' ⊢
    split at at'
    · cases at'
    · obtain ⟨listed, older, current⟩ := tracks.reads j retry' read' edges'' at'
      refine ⟨listed, ?_⟩
      rcases patched_version renews s.service (event.body s.service edges) with unchanged | later
      · rw [unchanged]
        exact ⟨older, current⟩
      · rw [later]
        exact ⟨by omega, fun equal => by omega⟩
  · intro j event' edges'' at' handled' reports stored' edge member own
    simp only [goto_phase, goto_service] at at' stored'
    cases stored.symm.trans stored'
    rcases kept edge member with done | old
    · exact done
    · by_cases mine : j = i
      · subst mine
        cases handled.symm.trans handled'
        rw [Event.apply, if_pos reports] at member
        exact running_of_recordRunning (named ▸ distinct) member own
      · rw [if_neg mine] at at'
        exact tracks.recorded j event' edges at' handled' reports known edge old own
  · intro j edges'' _ stored' all
    cases stored.symm.trans stored'
    rw [goto_service, status]
    exact body_currentStatus all

theorem Tracks.step (distinct : names.Nodup) (tracks : Tracks events names s) (i : Nat) :
    Tracks events names (step renews events s i) := by
  rcases step_cases renews events s i with same | ⟨retry, phase, missing, moved⟩ |
    ⟨retry, edges, phase, known, moved⟩ | ⟨event, retry, read, edges, handled, phase, fresh, moved⟩ |
    ⟨retry, read, edges, phase, stale, moved⟩
  · rw [same]
    exact tracks
  · obtain ⟨edges, known, -⟩ := tracks.listed
    cases known.symm.trans missing
  · rw [moved]
    refine tracks.goto (by simp) fun retry' read' edges' same => ?_
    cases same
    exact ⟨rfl, known⟩
  · rw [moved]
    exact tracks.patch distinct handled phase fresh
  · rw [moved]
    refine tracks.goto (by cases retry <;> simp) fun retry' read' edges' same => ?_
    cases retry <;> cases same

theorem Tracks.keeps_others (tracks : Tracks events names s) (i : Nat) :
    ¬ Overwrites renews events s i := by
  rintro ⟨before, after, known, later, edge, member, gone, other⟩
  rcases step_cases renews events s i with same | ⟨retry, phase, missing, moved⟩ |
    ⟨retry, edges, phase, -, moved⟩ | ⟨event, retry, read, edges, handled, phase, fresh, moved⟩ |
    ⟨retry, read, edges, phase, stale, moved⟩
  · rw [same, known] at later
    cases later
    exact gone member
  · rw [moved, goto_service, known] at later
    cases later
    exact gone member
  · rw [moved, goto_service, known] at later
    cases later
    exact gone member
  · obtain ⟨listed, -, same⟩ := tracks.reads i retry read edges phase
    rw [same fresh, known] at listed
    cases listed
    rw [moved, goto_service, (patched_contents _ _ _).1, body_edges] at later
    cases later
    apply gone
    unfold Event.apply
    split
    · exact mem_recordRunning_of_other member fun own => other event handled own.symm
    · exact member
  · rw [moved, goto_service, known] at later
    cases later
    exact gone member

theorem step_not_raised (fresh : ¬ ConflictsAgain s i) (sound : ∀ j, s.phase j ≠ .raised) (j : Nat) :
    (step renews events s i).phase j ≠ .raised := by
  rcases step_cases renews events s i with same | ⟨retry, phase, missing, moved⟩ |
    ⟨retry, edges, phase, -, moved⟩ | ⟨event, retry, read, edges, handled, phase, -, moved⟩ |
    ⟨retry, read, edges, phase, stale, moved⟩
  · rw [same]
    exact sound j
  all_goals
    rw [moved, goto_phase]
    split
    case isFalse => exact sound j
  · simp
  · simp
  · simp
  · cases retry with
    | false => simp
    | true => exact absurd ⟨read, edges, phase, stale⟩ fresh

end

theorem tracks_start (events : List Event) {service : Service} {edges : List Edge}
    (known : service.edges = some edges) : Tracks events (edges.map Edge.name) (start service) where
  listed := ⟨edges, known, rfl⟩
  reads i retry read edges phase := absurd phase (by simp [start])
  recorded i event edges phase := absurd phase (by simp [start])
  current i edges phase := absurd phase (by simp [start])

/-- Where no handler meets a second conflict, the handlers of the events that report every edge
leave every edge and the service running. No handler ever overwrites another edge. -/
theorem statuses_converge (renews : Bool) (events : List Event) (service : Service)
    (edges : List Edge) (known : service.edges = some edges) (nonempty : edges ≠ [])
    (distinct : (edges.map Edge.name).Nodup) (order : List Nat) :
    (Runs.Along (step renews events) (fun s i => ¬ ConflictsAgain s i) (start service) order →
      Converges renews events service edges order) ∧
    Runs.Along (step renews events) (fun s i => ¬ Overwrites renews events s i) (start service)
      order := by
  have base := tracks_start events known
  have always : ∀ order, Tracks events (edges.map Edge.name) (run renews events service order) :=
    fun order => Runs.run_invariant (step renews events) (fun _ i tracks => tracks.step distinct i)
      base order
  constructor
  · intro calm done reported
    have tracks := always order
    have sound : ∀ j, (run renews events service order).phase j ≠ .raised :=
      Runs.along_invariant (step renews events) (P := fun s => ∀ j, s.phase j ≠ .raised)
        (fun _ _ sound fresh => step_not_raised fresh sound)
        (fun i raised => absurd raised (by simp [start])) order calm
    have finished : ∀ i < events.length, (run renews events service order).phase i = .finished := by
      intro i bound
      have ended := done i bound
      cases phase : (run renews events service order).phase i with
      | finished => rfl
      | raised => exact absurd phase (sound i)
      | reading | patching =>
        rw [phase] at ended
        exact absurd ended id
    obtain ⟨final, stored, named⟩ := tracks.listed
    have all : AllRunning final := by
      intro edge member
      obtain ⟨first, original, same⟩ := List.mem_map.mp
        (named ▸ List.mem_map_of_mem (f := Edge.name) member)
      obtain ⟨event, handled, own, reports⟩ := reported first original
      obtain ⟨i, bound, here⟩ := List.getElem_of_mem handled
      exact tracks.recorded i event final (finished i bound)
        (here ▸ List.getElem?_eq_getElem bound) reports stored edge member (own.trans same).symm
    refine ⟨final, stored, named, all, ?_⟩
    obtain ⟨first, rest, rfl⟩ := List.exists_cons_of_ne_nil nonempty
    obtain ⟨event, handled, -⟩ := reported first List.mem_cons_self
    obtain ⟨i, bound, -⟩ := List.getElem_of_mem handled
    exact tracks.current i final (finished i bound) stored all
  · exact Runs.along_of_always (step renews events) (fun _ i tracks => tracks.step distinct i)
      (fun _ i tracks => tracks.keeps_others i) base order

/-- A service with edges of these names, none of them running yet. -/
def starting (names : List String) : Service where
  version := 1
  edges := some (names.map fun name => ⟨name, "Starting"⟩)
  kindStatus := none
  currentStatus := some "Starting"

def reports (names : List String) : List Event :=
  names.map fun name => ⟨"MODIFIED", name, some running⟩

/-- The third handler reads before each of the other two writes, and its event is lost. -/
theorem third_event_lost :
    ¬ Converges false (reports ["a", "b", "c"]) (starting ["a", "b", "c"])
      [⟨"a", "Starting"⟩, ⟨"b", "Starting"⟩, ⟨"c", "Starting"⟩] [0, 1, 2, 0, 1, 2, 1, 2, 1, 2] := by
  intro converges
  obtain ⟨final, stored, -, all, -⟩ := converges (by decide) (by decide)
  have left : (run false (reports ["a", "b", "c"]) (starting ["a", "b", "c"])
      [0, 1, 2, 0, 1, 2, 1, 2, 1, 2]).service.edges =
        some [⟨"a", running⟩, ⟨"b", running⟩, ⟨"c", "Starting"⟩] := by rfl
  cases left.symm.trans stored
  exact absurd (all ⟨"c", "Starting"⟩ (by simp)) (by decide)

theorem two_events_converge :
    Converges false (reports ["a", "b"]) (starting ["a", "b"])
      [⟨"a", "Starting"⟩, ⟨"b", "Starting"⟩] [0, 1, 0, 1, 1, 1] :=
  (statuses_converge false (reports ["a", "b"]) (starting ["a", "b"]) _ rfl (by decide) (by decide)
    _).1 (by decide)

end NetworkAgent.Operator.Vpn
