import NetworkAgent.FaultService.Correlation

/-! What the fault service keeps where reads and writes succeed and the values of an event are those
that the database gives back. -/
namespace NetworkAgent.FaultService

variable (p : Platform)

/-! What is promised. -/

/-- What is promised of one step from a state: no two open incidents of one identity, no request to
the resolver for an identity while the incident of an earlier one is open, and for each event that
is answered now an open incident, or the one that the event has made and that was resolved since. -/
structure Deduplicated (s next : State) : Prop where
  oneOpen : ∀ i, next.incidents.countP (openFor p i) ≤ 1
  askedOnce : next.asks = s.asks ∨ ∃ ask, next.asks = s.asks ++ [ask] ∧
    ∀ earlier ∈ s.asks, earlier.identity = ask.identity →
      ∀ x ∈ s.incidents, x.id = earlier.incident → x.resolved = true
  answeredOpen : ∀ t task, next.tasks t = some task → task.phase = .answered →
    s.tasks t = some task ∨ ∃ before x, s.tasks t = some before ∧ x ∈ next.incidents ∧
      concerns p task.identity x.issue = true ∧
      (x.resolved = true → before.phase = .awaiting x.id)

/-! When it is kept. -/

def Plain (s : String) : Prop := ∀ c ∈ s.toList, c ∉ ['\'', '\\', '\n', '\r']

/-- The two values are plain, and the database gives them back for the issue as they are formatted,
whatever identifier it gets, and no two of the other kind. -/
structure Faithful (payload : Fields) (own : Identity) : Prop where
  plain : Plain own.value
  plain2 : Plain own.value2
  stores : ∀ n, ∃ issue, stored p (Json.set "incident_id" (.str (p.newId n)) payload) = some issue ∧
    ∀ i, concerns p i issue = true ↔ i = own

def State.HasOpen (s : State) (i : Identity) : Prop := ∃ x ∈ s.incidents, openFor p i x = true

def Meets (s : State) : Action → Prop
  | .arrive _ logEntry => ∀ c, correlated logEntry = some c → Faithful p c.payload (c.identity p)
  | .lookup t connects reads => ∀ task, s.tasks t = some task → task.phase = .locked →
      if (s.connectDatabase connects).1 = true then
        (reads = true ∧ (s.connectDatabase connects).2 = some true) ∨ ¬ s.HasOpen p task.identity
      else s.HasOpen p task.identity
  | .created t succeeds => ∀ task, s.tasks t = some task → task.phase = .connecting →
      succeeds = true
  | .send t connects applied => ∀ task, s.tasks t = some task → task.phase = .writing →
      (s.connectDatabase connects).1 = true ∧ (s.connectDatabase connects).2 = some true ∧
        applied = true
  | _ => True

/-- What the platform is relied on for: identifiers are not made twice, and the query finds the
open incidents that have two plain values. -/
structure Documented : Prop where
  newId : Function.Injective p.newId
  select : ∀ i, Plain i.value → Plain i.value2 → ∀ incidents,
    p.select (issueQuery i.kind.key i.value i.kind.key2 i.value2) incidents =
      some (incidents.filter (openFor p i))

/-! The invariant. -/

def Phase.Inside : Phase → Prop
  | .arrived | .waiting | .answered => False
  | _ => True

def Phase.Clear : Phase → Prop
  | .calling | .connecting | .writing => True
  | _ => False

structure Placed (s : State) (t : Nat) (task : Task) : Prop where
  faithful : Faithful p task.payload task.identity
  holds : task.phase.Inside → s.locks task.identity.correlationKey = some (some t)
  clear : task.phase.Clear → ¬ s.HasOpen p task.identity
  made : ∀ id, task.phase = .awaiting id →
    ∃ x ∈ s.incidents, x.id = id ∧ concerns p task.identity x.issue = true

structure Inv (s : State) : Prop where
  oneOpen : ∀ i, s.incidents.countP (openFor p i) ≤ 1
  placed : ∀ t task, s.tasks t = some task → Placed p s t task
  fresh : ∀ x ∈ s.incidents, ∀ n, s.made ≤ n → x.id ≠ p.newId n
  asked : ∀ ask ∈ s.asks, ∀ x ∈ s.incidents, x.id = ask.incident →
    concerns p ask.identity x.issue = true
  askedFresh : ∀ ask ∈ s.asks, ∀ n, s.made ≤ n → ask.incident ≠ p.newId n

def Keeps (s next : State) : Prop := Inv p next ∧ Deduplicated p s next

/-- There is an incident of the identity, open unless a task in the phase made it. -/
def Backed (s : State) (i : Identity) (phase : Phase) : Prop :=
  ∃ x ∈ s.incidents, concerns p i x.issue = true ∧ (x.resolved = true → phase = .awaiting x.id)

variable {p} {s next : State} {t : Nat} {task : Task}

theorem inside_of_clear {phase : Phase} (clear : phase.Clear) : phase.Inside := by
  cases phase <;> trivial

/-- A task gets a phase, and nothing else changes but the lock of its key, which no other held. -/
structure Moved (s next : State) (t : Nat) (task : Task) (phase : Phase) : Prop where
  tasks : next.tasks = Function.update s.tasks t (some { task with phase })
  incidents : next.incidents = s.incidents
  asks : next.asks = s.asks
  made : next.made = s.made
  locks : ∀ key, next.locks key = s.locks key ∨
    (key = task.identity.correlationKey ∧ ∀ u, u ≠ t → s.locks key ≠ some (some u))

variable {phase : Phase}

theorem Moved.inv (moved : Moved s next t task phase) (inv : Inv p s)
    (faithful : Faithful p task.payload task.identity)
    (holds : phase.Inside → next.locks task.identity.correlationKey = some (some t))
    (clear : phase.Clear → ¬ s.HasOpen p task.identity)
    (made : ∀ id, phase = .awaiting id →
      ∃ x ∈ s.incidents, x.id = id ∧ concerns p task.identity x.issue = true) : Inv p next := by
  obtain ⟨tasks, incidents, asks, count, locks⟩ := moved
  have same : ∀ i, next.HasOpen p i ↔ s.HasOpen p i := fun i => by
    unfold State.HasOpen
    rw [incidents]
  refine ⟨incidents ▸ inv.oneOpen, ?_, ?_, ?_, ?_⟩
  · intro u other there
    rw [tasks] at there
    by_cases own : u = t
    · subst own
      rw [Function.update_self] at there
      cases there
      exact ⟨faithful, holds, fun state => (same _).not.mpr (clear state),
        fun id state => incidents ▸ made id state⟩
    · rw [Function.update_of_ne own] at there
      obtain ⟨theirs, lock, nothing, row⟩ := inv.placed u other there
      refine ⟨theirs, fun state => ?_, fun state => (same _).not.mpr (nothing state),
        fun id state => incidents ▸ row id state⟩
      rcases locks other.identity.correlationKey with kept | ⟨-, free⟩
      · rw [kept, lock state]
      · exact absurd (lock state) (free u own)
  · rw [incidents, count]
    exact inv.fresh
  · rw [incidents, asks]
    exact inv.asked
  · rw [asks, count]
    exact inv.askedFresh

theorem Moved.deduplicated (moved : Moved s next t task phase) (inv : Inv p next)
    (answered : phase = .answered →
      s.tasks t = some task ∧ Backed p s task.identity task.phase) : Deduplicated p s next := by
  refine ⟨inv.oneOpen, .inl moved.asks, fun u other there state => ?_⟩
  rw [moved.tasks] at there
  by_cases own : u = t
  · subst own
    rw [Function.update_self] at there
    cases there
    obtain ⟨known, x, member, concerned, resolved⟩ := answered state
    exact .inr ⟨task, x, known, moved.incidents ▸ member, concerned, resolved⟩
  · rw [Function.update_of_ne own] at there
    exact .inl there

structure Alike (s middle : State) : Prop where
  tasks : middle.tasks = s.tasks
  locks : middle.locks = s.locks
  incidents : middle.incidents = s.incidents
  asks : middle.asks = s.asks
  made : middle.made = s.made

variable {middle : State}

theorem answer_keeps (inv : Inv p s) (alike : Alike s middle) (known : s.tasks t = some task)
    (inside : task.phase.Inside) (backed : Backed p s task.identity task.phase) :
    Keeps p s (middle.answer t task) := by
  have placed := inv.placed t task known
  have moved : Moved s (middle.answer t task) t task .answered := by
    refine ⟨by rw [← alike.tasks]; rfl, alike.incidents, alike.asks, alike.made, fun key => ?_⟩
    by_cases own : key = task.identity.correlationKey
    · refine .inr ⟨own, fun u other held => other ?_⟩
      rw [own, placed.holds inside] at held
      exact (Option.some.inj (Option.some.inj held)).symm
    · exact .inl ((Function.update_of_ne own _ _).trans (congrFun alike.locks key))
  have after := moved.inv inv placed.faithful False.elim False.elim (fun id state => nomatch state)
  exact ⟨after, moved.deduplicated after fun _ => ⟨known, backed⟩⟩

theorem goes_keeps (inv : Inv p s) (alike : Alike s middle) (known : s.tasks t = some task)
    (inside : task.phase.Inside) (clear : phase.Clear) (nothing : ¬ s.HasOpen p task.identity) :
    Keeps p s (middle.setPhase t task phase) := by
  have placed := inv.placed t task known
  have moved : Moved s (middle.setPhase t task phase) t task phase :=
    ⟨by rw [← alike.tasks]; rfl, alike.incidents, alike.asks, alike.made,
      fun key => .inl (congrFun alike.locks key)⟩
  have other : phase ≠ .answered ∧ ∀ id, phase ≠ .awaiting id := by
    cases phase <;> first | exact clear.elim | exact ⟨nofun, nofun⟩
  have after := moved.inv inv placed.faithful
    (fun _ => (congrFun alike.locks _).trans (placed.holds inside)) (fun _ => nothing)
    (fun id state => absurd state (other.2 id))
  exact ⟨after, moved.deduplicated after fun state => absurd state other.1⟩

theorem idle_keeps (inv : Inv p s) : Keeps p s s :=
  ⟨inv, inv.oneOpen, .inl rfl, fun _ _ there _ => .inl there⟩

theorem move_keeps {next : Task → State} (inv : Inv p s)
    (taken : ∀ task, s.tasks t = some task → task.phase = phase → Keeps p s (next task)) :
    Keeps p s (move t phase next s) := by
  unfold move
  cases known : s.tasks t with
  | none => exact idle_keeps inv
  | some task =>
    dsimp only
    split
    next state => exact taken task known state
    next => exact idle_keeps inv

/-! The steps, one by one. -/

theorem arrive_keeps {logEntry : Fields} (inv : Inv p s) (meets : Meets p s (.arrive t logEntry)) :
    Keeps p s (step p s (.arrive t logEntry)) := by
  simp only [step]
  split
  next c known told =>
    let task : Task := ⟨c.payload, c.identity p, .arrived⟩
    have moved : Moved s { s with tasks := Function.update s.tasks t (some task) } t task
        .arrived := ⟨rfl, rfl, rfl, rfl, fun key => .inl rfl⟩
    have after := moved.inv inv (meets c told) False.elim False.elim (fun id state => nomatch state)
    exact ⟨after, moved.deduplicated after fun state => nomatch state⟩
  next => exact idle_keeps inv

theorem getLock_keeps (inv : Inv p s) : Keeps p s (step p s (.getLock t)) := by
  refine move_keeps inv fun task known state => ?_
  have moved : Moved s ((if s.locks task.identity.correlationKey = none then
      s.setLock task.identity.correlationKey none else s).setPhase t task .waiting) t task
      .waiting := by
    split
    next absent =>
      refine ⟨rfl, rfl, rfl, rfl, fun key => ?_⟩
      by_cases own : key = task.identity.correlationKey
      · exact .inr ⟨own, fun u _ held => by simp [own, absent] at held⟩
      · exact .inl (Function.update_of_ne own _ _)
    next => exact ⟨rfl, rfl, rfl, rfl, fun key => .inl rfl⟩
  have after := moved.inv inv (inv.placed t task known).faithful False.elim False.elim
    (fun id state => nomatch state)
  exact ⟨after, moved.deduplicated after fun state => nomatch state⟩

theorem enter_keeps (inv : Inv p s) : Keeps p s (step p s (.enter t)) := by
  refine move_keeps inv fun task known state => ?_
  split
  next free =>
    have moved : Moved s ((s.setLock task.identity.correlationKey (some t)).setPhase t task .locked)
        t task .locked := by
      refine ⟨rfl, rfl, rfl, rfl, fun key => ?_⟩
      by_cases own : key = task.identity.correlationKey
      · exact .inr ⟨own, fun u _ held => by simp [own, free] at held⟩
      · exact .inl (Function.update_of_ne own _ _)
    have after := moved.inv inv (inv.placed t task known).faithful
      (fun _ => Function.update_self _ _ _) False.elim (fun id state => nomatch state)
    exact ⟨after, moved.deduplicated after fun state => nomatch state⟩
  next => exact idle_keeps inv

/-- The query says whether an incident is open, where it does not fail, and an error is right where
none is open. -/
theorem getIncidentByIssue_iff (documented : Documented p) {i : Identity} (plain : Plain i.value)
    (plain2 : Plain i.value2) {reads : Bool} (right : reads = true ∨ ¬ s.HasOpen p i) :
    getIncidentByIssue p reads i s.incidents = true ↔ s.HasOpen p i := by
  have found : (!(s.incidents.filter (openFor p i)).isEmpty) = true ↔ s.HasOpen p i := by
    simp [State.HasOpen]
  unfold getIncidentByIssue
  rw [documented.select i plain plain2]
  rcases right with rfl | none
  · exact found
  · cases reads with
    | true => exact found
    | false => simp [none]

theorem backed_of_open {i : Identity} (isOpen : s.HasOpen p i) (phase : Phase) :
    Backed p s i phase := by
  obtain ⟨x, member, opened⟩ := isOpen
  simp only [openFor, Bool.and_eq_true, Bool.not_eq_true'] at opened
  exact ⟨x, member, opened.2, fun resolved => by simp [resolved] at opened⟩

theorem lookup_keeps (documented : Documented p) {connects reads : Bool} (inv : Inv p s)
    (meets : Meets p s (.lookup t connects reads)) :
    Keeps p s (step p s (.lookup t connects reads)) := by
  refine move_keeps inv fun task known state => ?_
  have placed := inv.placed t task known
  have inside : task.phase.Inside := state ▸ trivial
  have asked := meets task known state
  have alike : Alike s { s with database := (s.connectDatabase connects).2 } :=
    ⟨rfl, rfl, rfl, rfl, rfl⟩
  unfold lookupIncident
  dsimp only
  by_cases returns : (s.connectDatabase connects).1 = true
  · rw [if_pos returns] at asked ⊢
    have right : (reads && (s.connectDatabase connects).2 = some true) = true ∨
        ¬ s.HasOpen p task.identity := by
      rcases asked with ⟨reads, database⟩ | none
      · exact .inl (by simp [reads, database])
      · exact .inr none
    have answer := getIncidentByIssue_iff documented placed.faithful.plain
      placed.faithful.plain2 right
    split
    next found =>
      exact answer_keeps inv alike known inside (backed_of_open (answer.mp found) task.phase)
    next missing => exact goes_keeps inv alike known inside trivial (mt answer.mpr missing)
  · rw [if_neg returns] at asked ⊢
    exact answer_keeps inv alike known inside (backed_of_open asked task.phase)

theorem getClient_keeps (inv : Inv p s) : Keeps p s (step p s (.getClient t)) := by
  refine move_keeps inv fun task known state => ?_
  have nothing := (inv.placed t task known).clear (state ▸ trivial)
  have inside : task.phase.Inside := state ▸ trivial
  unfold getClient
  split
  · exact goes_keeps inv ⟨rfl, rfl, rfl, rfl, rfl⟩ known inside trivial nothing
  · exact goes_keeps inv ⟨rfl, rfl, rfl, rfl, rfl⟩ known inside trivial nothing

theorem created_keeps {succeeds : Bool} (inv : Inv p s) (meets : Meets p s (.created t succeeds)) :
    Keeps p s (step p s (.created t succeeds)) := by
  refine move_keeps inv fun task known state => ?_
  have nothing := (inv.placed t task known).clear (state ▸ trivial)
  rw [if_pos (meets task known state)]
  exact goes_keeps inv ⟨rfl, rfl, rfl, rfl, rfl⟩ known (state ▸ trivial) trivial nothing

theorem response_keeps (inv : Inv p s) : Keeps p s (step p s (.response t)) := by
  simp only [step]
  cases known : s.tasks t with
  | none => exact idle_keeps inv
  | some task =>
    dsimp only
    split
    next id state =>
      obtain ⟨x, member, same, concerned⟩ := (inv.placed t task known).made id state
      exact answer_keeps inv ⟨rfl, rfl, rfl, rfl, rfl⟩ known (state ▸ trivial)
        ⟨x, member, concerned, fun _ => state.trans (congrArg Phase.awaiting same.symm)⟩
    next => exact idle_keeps inv

theorem resolve_keeps {id : String} (inv : Inv p s) : Keeps p s (step p s (.resolve id)) := by
  let resolve : Incident → Incident := fun x => if x.id = id then { x with resolved := true } else x
  have kept : ∀ x, (resolve x).id = x.id ∧ (resolve x).issue = x.issue := fun x => by
    unfold resolve
    split <;> exact ⟨rfl, rfl⟩
  have closes : ∀ i x, openFor p i (resolve x) = true → openFor p i x = true := fun i x => by
    unfold resolve
    split
    · simp [openFor]
    · exact fun opened => opened
  have origin : ∀ x ∈ s.incidents.map resolve,
      ∃ y ∈ s.incidents, x.id = y.id ∧ x.issue = y.issue := by
    intro x member
    obtain ⟨y, there, rfl⟩ := List.mem_map.mp member
    exact ⟨y, there, kept y⟩
  have after : Inv p (step p s (.resolve id)) := by
    refine ⟨fun i => ?_, fun t task known => ?_, ?_, ?_, inv.askedFresh⟩
    · show (s.incidents.map resolve).countP (openFor p i) ≤ 1
      rw [List.countP_map]
      exact Nat.le_trans (List.countP_mono_left fun x _ => closes i x) (inv.oneOpen i)
    · obtain ⟨faithful, holds, clear, made⟩ := inv.placed t task known
      refine ⟨faithful, holds, fun state isOpen => clear state ?_, fun other state => ?_⟩
      · obtain ⟨x, member, opened⟩ := isOpen
        obtain ⟨y, there, rfl⟩ := List.mem_map.mp member
        exact ⟨y, there, closes _ y opened⟩
      · obtain ⟨x, member, same, concerned⟩ := made other state
        exact ⟨resolve x, List.mem_map_of_mem member, (kept x).1.trans same,
          (kept x).2 ▸ concerned⟩
    · intro x member n later
      obtain ⟨y, there, same, -⟩ := origin x member
      exact same ▸ inv.fresh y there n later
    · intro ask listed x member same
      obtain ⟨y, there, ids, issues⟩ := origin x member
      exact issues ▸ inv.asked ask listed y there (ids ▸ same)
  exact ⟨after, after.oneOpen, .inl rfl, fun _ _ there _ => .inl there⟩

/-! The insert. -/

variable (p) in
/-- A task has put an incident into the database that concerns its identity and no other. -/
structure Inserted (s next : State) (t : Nat) (task : Task) (phase : Phase) (x : Incident) :
    Prop where
  tasks : next.tasks = Function.update s.tasks t (some { task with phase })
  incidents : next.incidents = s.incidents ++ [x]
  made : next.made = s.made + 1
  own : ∀ i, concerns p i x.issue = true ↔ i = task.identity
  id : x.id = p.newId s.made
  isOpen : x.resolved = false
  asks : next.asks = s.asks ∨ next.asks = s.asks ++ [⟨task.identity, x.id⟩]
  locks : ∀ key, next.locks key = s.locks key ∨
    (key = task.identity.correlationKey ∧ ∀ u, u ≠ t → s.locks key ≠ some (some u))
  phases : phase = .answered ∨
    phase = .awaiting x.id ∧ next.locks task.identity.correlationKey = some (some t)

variable {x : Incident}

theorem Inserted.openFor (inserted : Inserted p s next t task phase x) (i : Identity) :
    openFor p i x = true ↔ i = task.identity := by
  rw [← inserted.own i]
  simp [FaultService.openFor, inserted.isOpen]

theorem Inserted.oneOpen (inserted : Inserted p s next t task phase x) (inv : Inv p s)
    (nothing : ¬ s.HasOpen p task.identity) (i : Identity) :
    next.incidents.countP (FaultService.openFor p i) ≤ 1 := by
  rw [inserted.incidents, List.countP_append]
  by_cases same : i = task.identity
  · have none : s.incidents.countP (FaultService.openFor p i) = 0 :=
      List.countP_eq_zero.mpr fun y member opened => nothing (same ▸ ⟨y, member, opened⟩)
    rw [none, Nat.zero_add]
    exact List.countP_le_length
  · have other : [x].countP (FaultService.openFor p i) = 0 :=
      List.countP_eq_zero.mpr fun y member => by
        rw [List.mem_singleton.mp member, inserted.openFor]
        exact same
    rw [other]
    exact inv.oneOpen i

theorem Inserted.placed (inserted : Inserted p s next t task phase x) (inv : Inv p s)
    (known : s.tasks t = some task) (inside : task.phase.Inside) (u : Nat) (other : Task)
    (there : next.tasks u = some other) : Placed p next u other := by
  have stays : ∀ y ∈ s.incidents, y ∈ next.incidents := fun y member => by
    rw [inserted.incidents]
    exact List.mem_append_left _ member
  have lock := (inv.placed t task known).holds inside
  rw [inserted.tasks] at there
  by_cases same : u = t
  · subst same
    rw [Function.update_self] at there
    cases there
    have own := inserted.own task.identity
    refine ⟨(inv.placed u task known).faithful, fun state => ?_, fun state => ?_,
      fun id state => ?_⟩
    · rcases inserted.phases with answered | awaiting
      · exact (answered ▸ state : Phase.Inside .answered).elim
      · exact awaiting.2
    · rcases inserted.phases with answered | awaiting
      · exact (answered ▸ state : Phase.Clear .answered).elim
      · exact (awaiting.1 ▸ state : Phase.Clear (.awaiting x.id)).elim
    · refine ⟨x, inserted.incidents ▸ List.mem_append_right _ List.mem_cons_self, ?_, own.mpr rfl⟩
      rcases inserted.phases with answered | awaiting
      · cases answered.symm.trans state
      · exact Phase.awaiting.inj (awaiting.1.symm.trans state)
  · rw [Function.update_of_ne same] at there
    obtain ⟨faithful, holds, clear, made⟩ := inv.placed u other there
    have apart : other.phase.Inside → other.identity ≠ task.identity := by
      intro state equal
      have held := holds state
      rw [equal, lock] at held
      exact same (Option.some.inj (Option.some.inj held)).symm
    refine ⟨faithful, fun state => ?_, fun state isOpen => ?_, fun id state => ?_⟩
    · rcases inserted.locks other.identity.correlationKey with kept | ⟨-, free⟩
      · rw [kept, holds state]
      · exact absurd (holds state) (free u same)
    · obtain ⟨y, member, opened⟩ := isOpen
      rw [inserted.incidents] at member
      rcases List.mem_append.mp member with before | new
      · exact clear state ⟨y, before, opened⟩
      · rw [List.mem_singleton.mp new, inserted.openFor] at opened
        exact apart (inside_of_clear state) opened
    · obtain ⟨y, member, equal, concerned⟩ := made id state
      exact ⟨y, stays y member, equal, concerned⟩

theorem Inserted.inv (inserted : Inserted p s next t task phase x) (documented : Documented p)
    (inv : Inv p s) (known : s.tasks t = some task) (inside : task.phase.Inside)
    (nothing : ¬ s.HasOpen p task.identity) : Inv p next := by
  have new : ∀ n, next.made ≤ n → p.newId s.made ≠ p.newId n := by
    intro n later same
    have equal := documented.newId same
    rw [inserted.made] at later
    omega
  have asked : ∀ ask ∈ next.asks, ask ∈ s.asks ∨ ask = ⟨task.identity, x.id⟩ := by
    intro ask member
    rcases inserted.asks with same | more
    · exact .inl (same ▸ member)
    · rw [more] at member
      exact (List.mem_append.mp member).imp_right List.mem_singleton.mp
  refine ⟨inserted.oneOpen inv nothing, inserted.placed inv known inside, ?_, ?_, ?_⟩
  · intro y member n later
    rw [inserted.incidents] at member
    rw [inserted.made] at later
    rcases List.mem_append.mp member with before | own
    · exact inv.fresh y before n (by omega)
    · rw [List.mem_singleton.mp own, inserted.id]
      exact new n (inserted.made ▸ later)
  · intro ask member y there same
    rw [inserted.incidents] at there
    rcases asked ask member with earlier | own <;>
      rcases List.mem_append.mp there with before | added
    · exact inv.asked ask earlier y before same
    · rw [List.mem_singleton.mp added, inserted.id] at same
      exact absurd same.symm (inv.askedFresh ask earlier s.made (Nat.le_refl _))
    · rw [own, inserted.id] at same
      exact absurd same (inv.fresh y before s.made (Nat.le_refl _))
    · rw [List.mem_singleton.mp added, own]
      exact (inserted.own _).mpr rfl
  · intro ask member n later
    rcases asked ask member with earlier | own
    · rw [inserted.made] at later
      exact inv.askedFresh ask earlier n (by omega)
    · rw [own, inserted.id]
      exact new n later

theorem Inserted.deduplicated (inserted : Inserted p s next t task phase x)
    (after : Inv p next) (inv : Inv p s) (known : s.tasks t = some task)
    (nothing : ¬ s.HasOpen p task.identity) : Deduplicated p s next := by
  refine ⟨after.oneOpen, inserted.asks.imp_right fun more => ⟨_, more, ?_⟩, ?_⟩
  · intro earlier listed same y member equal
    have concerned := inv.asked earlier listed y member equal
    rw [same] at concerned
    by_contra unresolved
    have opened : FaultService.openFor p task.identity y = true := by
      simp only [FaultService.openFor, Bool.and_eq_true, Bool.not_eq_true']
      exact ⟨Bool.eq_false_iff.mpr unresolved, concerned⟩
    exact nothing ⟨y, member, opened⟩
  · intro u other there state
    rw [inserted.tasks] at there
    by_cases own : u = t
    · subst own
      rw [Function.update_self] at there
      cases there
      exact .inr ⟨task, x, known, inserted.incidents ▸ List.mem_append_right _ List.mem_cons_self,
        (inserted.own _).mpr rfl, fun resolved => by simp [inserted.isOpen] at resolved⟩
    · rw [Function.update_of_ne own] at there
      exact .inl there

theorem upsert_fresh {id : String} {issue : Json} {incidents : List Incident}
    (fresh : ∀ y ∈ incidents, y.id ≠ id) :
    upsert id issue incidents = incidents ++ [⟨id, issue, false⟩] := by
  unfold upsert
  rw [if_neg]
  simpa using fresh

theorem send_keeps (documented : Documented p) {connects applied : Bool} (inv : Inv p s)
    (meets : Meets p s (.send t connects applied)) :
    Keeps p s (step p s (.send t connects applied)) := by
  refine move_keeps inv fun task known state => ?_
  have placed := inv.placed t task known
  have inside : task.phase.Inside := state ▸ trivial
  have nothing := placed.clear (state ▸ trivial)
  obtain ⟨returns, database, rfl⟩ := meets task known state
  obtain ⟨issue, known', own⟩ := placed.faithful.stores s.made
  have incidents : createIncident p (true && (s.connectDatabase connects).2 = some true)
      (Json.set "incident_id" (.str (p.newId s.made)) task.payload) (p.newId s.made) s.incidents =
      s.incidents ++ [⟨p.newId s.made, issue, false⟩] := by
    have fresh : ∀ y ∈ s.incidents, y.id ≠ p.newId s.made :=
      fun y member => inv.fresh y member s.made (Nat.le_refl _)
    rw [createIncident, database, known']
    exact upsert_fresh fresh
  unfold sendIncident
  dsimp only
  rw [if_pos returns, incidents]
  have keeps : ∀ phase {next : State},
      Inserted p s next t task phase ⟨p.newId s.made, issue, false⟩ → Keeps p s next := by
    intro phase next inserted
    have after := inserted.inv documented inv known inside nothing
    exact ⟨after, inserted.deduplicated after inv known nothing⟩
  split
  · exact keeps (.awaiting (p.newId s.made))
      ⟨rfl, rfl, rfl, own, rfl, rfl, .inr rfl, fun key => .inl rfl, .inr ⟨rfl, placed.holds inside⟩⟩
  · refine keeps .answered
      ⟨rfl, rfl, rfl, own, rfl, rfl, .inl rfl, fun key => ?_, .inl rfl⟩
    by_cases same : key = task.identity.correlationKey
    · refine .inr ⟨same, fun u other held => other ?_⟩
      rw [same, placed.holds inside] at held
      exact (Option.some.inj (Option.some.inj held)).symm
    · exact .inl (Function.update_of_ne same _ _)

theorem step_keeps (documented : Documented p) (action : Action) (inv : Inv p s)
    (meets : Meets p s action) : Keeps p s (step p s action) := by
  cases action with
  | arrive t logEntry => exact arrive_keeps inv meets
  | getLock t => exact getLock_keeps inv
  | enter t => exact enter_keeps inv
  | lookup t connects reads => exact lookup_keeps documented inv meets
  | getClient t => exact getClient_keeps inv
  | created t succeeds => exact created_keeps inv meets
  | send t connects applied => exact send_keeps documented inv meets
  | response t => exact response_keeps inv
  | resolve id => exact resolve_keeps inv

theorem inv_start {incidents : List Incident} {made : Nat}
    (oneOpen : ∀ i, incidents.countP (openFor p i) ≤ 1)
    (fresh : ∀ x ∈ incidents, ∀ n, made ≤ n → x.id ≠ p.newId n) : Inv p (start incidents made) :=
  ⟨oneOpen, nofun, fresh, nofun, nofun⟩

end NetworkAgent.FaultService
