import NetworkAgent.Middleware.Executions

/-! What the admission of runs is for, and when it is met. -/
namespace NetworkAgent.Middleware
open Function

def Phase.inFlight : Phase → Bool
  | .admitted _ | .waiting _ | .started _ => true
  | _ => false

namespace State

def running (s : State) : Finset Nat :=
  (Finset.range s.created).filter fun e => (s.executions e).task = none

def inFlight (s : State) : Finset String :=
  ((Finset.range s.begun).filter fun r => (s.runs r).phase.inFlight).image
    fun r => (s.runs r).threadId

def claimed (s : State) : Finset String := s.active.keys.toFinset ∪ s.inFlight

/-- At most the limit run, one on a thread, and no run that is refused or fails touches the
execution of another in its cleanup, nor one that is refused in its admission. -/
structure Admits (c : Settings) (s : State) : Prop where
  bounded : s.running.card ≤ c.maxConcurrent
  single : ∀ d ∈ s.running, ∀ e ∈ s.running,
    (s.executions d).threadId = (s.executions e).threadId → d = e
  undisturbed : ∀ t ∈ s.touches, (s.executions t.execution).run ≠ t.run →
    (s.runs t.run).standing ≠ .refused ∧
      ((s.runs t.run).standing = .failed → t.stage = .admission)

/-- There is room for one more run on the thread, those on their way counted. -/
def Room (c : Settings) (s : State) (threadId : String) : Prop :=
  threadId ∉ s.inFlight ∧ (insert threadId s.claimed).card ≤ c.maxConcurrent

instance (c : Settings) (s : State) (threadId : String) : Decidable (s.Room c threadId) :=
  inferInstanceAs (Decidable (_ ∧ _))

def Ready (c : Settings) (s : State) (r : Nat) : Phase → Prop
  | .entering => s.lock = none → s.full c = false → s.Room c (s.runs r).threadId
  | .sweeping [] none => s.full c = false → s.Room c (s.runs r).threadId
  | .closing => s.lock = none → ∀ e ∈ s.active.lookup (s.runs r).threadId,
      (s.executions e).run = r ∧ (s.executions e).task ≠ none
  | _ => True

instance (c : Settings) (s : State) (r : Nat) : (phase : Phase) → Decidable (s.Ready c r phase)
  | .entering | .sweeping [] none => inferInstanceAs (Decidable (_ → _))
  | .closing => inferInstanceAs (Decidable (_ → ∀ e ∈ s.active.lookup (s.runs r).threadId,
      (s.executions e).run = r ∧ (s.executions e).task ≠ none))
  | .absent | .sweeping (_ :: _) _ | .sweeping [] (some _) | .admitted _ | .waiting _ | .started _
  | .streaming _ | .finishing | .cleaning _ | .ended => inferInstanceAs (Decidable True)

def Losable (s : State) : Phase → Prop
  | .started e => (s.executions e).task ≠ none
  | _ => True

instance (s : State) : (phase : Phase) → Decidable (s.Losable phase)
  | .started _ => inferInstanceAs (Decidable (_ ≠ _))
  | .absent | .entering | .sweeping _ _ | .admitted _ | .waiting _ | .streaming _ | .finishing
  | .closing | .cleaning _ | .ended => inferInstanceAs (Decidable True)

/-- A run passes the check only with room for its thread, is lost only with its task in the
table or over, and finds only its own execution, and that one over, in its cleanup. -/
def Orderly (c : Settings) (s : State) : Move → Prop
  | .advance r _ => s.Ready c r (s.runs r).phase
  | .fail r => s.Losable (s.runs r).phase
  | _ => True

instance (c : Settings) (s : State) : (m : Move) → Decidable (s.Orderly c m)
  | .advance r _ => inferInstanceAs (Decidable (s.Ready c r (s.runs r).phase))
  | .fail r => inferInstanceAs (Decidable (s.Losable (s.runs r).phase))
  | .tick | .begin _ | .timeOut _ | .finish _ _ => inferInstanceAs (Decidable True)

/-- An execution that has not finished is in the table, on its way there or being cancelled. -/
def Covered (s : State) (e : Nat) : Prop :=
  s.active.lookup (s.executions e).threadId = some e ∨ (∃ r, (s.runs r).phase = .started e) ∨
    ∃ r stale, (s.runs r).phase = .sweeping stale (some e)

/-- Of the executions on a thread only this one may still run. -/
def Only (s : State) (threadId : String) (x : Option Nat) : Prop :=
  ∀ e < s.created, (s.executions e).task = none → (s.executions e).threadId = threadId → x = some e

def Fits (s : State) (r : Nat) (run : Run) : Prop :=
  match run.phase with
  | .admitted x => s.Only run.threadId x
  | .waiting y => s.Only run.threadId (some y)
  | .started y => y < s.created ∧ (s.executions y).threadId = run.threadId ∧
      s.Only run.threadId (some y)
  | .streaming y => y < s.created
  | .entering => run.standing ≠ .refused
  | .sweeping _ awaited => run.standing ≠ .refused ∧ s.lock = some r ∧
      ∀ e, awaited = some e → e < s.created ∧
        ∀ d, s.active.lookup (s.executions e).threadId = some d → d = e
  | .cleaning e => s.lock = some r ∧ e < s.created ∧
      s.active.lookup run.threadId = some e ∧ (s.executions e).task ≠ none ∧
      (s.executions e).run = r
  | _ => True

structure Counts (s : State) (threads : Finset String) : Prop where
  active : ∀ t ∈ s.active, t ∈ threads
  flying : ∀ r, (s.runs r).phase.inFlight = true → (s.runs r).threadId ∈ threads
  sweeping : ∀ r stale e, (s.runs r).phase = .sweeping stale (some e) →
    (s.executions e).threadId ∈ threads

structure Inv (c : Settings) (s : State) : Prop where
  begun : ∀ r, (s.runs r).phase ≠ .absent → r < s.begun
  entry : ∀ t e, s.active.lookup t = some e → e < s.created ∧ (s.executions e).threadId = t
  covered : ∀ e < s.created, (s.executions e).task = none → s.Covered e
  complete : ∀ e, (s.executions e).isComplete = true → (s.executions e).task ≠ none
  fits : ∀ r, s.Fits r (s.runs r)
  alone : ∀ r r', (s.runs r).phase.inFlight = true → (s.runs r').phase.inFlight = true →
    (s.runs r).threadId = (s.runs r').threadId → r = r'
  room : ∃ threads : Finset String, threads.card ≤ c.maxConcurrent ∧ s.Counts threads
  spare : ∀ t ∈ s.touches, ∀ stale x, (s.runs t.run).phase = .sweeping stale x →
    s.active.keys.length < c.maxConcurrent
  young : ∀ t ∈ s.touches, (s.runs t.run).phase ≠ .absent ∧ (s.runs t.run).phase ≠ .entering
  ours : ∀ t ∈ s.touches, t.execution < s.created ∧
    ((s.executions t.execution).run ≠ t.run →
      t.stage = .admission ∧ (s.runs t.run).standing ≠ .refused)

/-! What the invariant says about the executions that run. -/

theorem mem_running {s : State} {e : Nat} :
    e ∈ s.running ↔ e < s.created ∧ (s.executions e).task = none := by
  simp [running]

variable {c : Settings} {s : State}

theorem Inv.started (inv : s.Inv c) {r e : Nat} (phase : (s.runs r).phase = .started e) :
    e < s.created ∧ (s.executions e).threadId = (s.runs r).threadId ∧
      s.Only (s.runs r).threadId (some e) := by
  have fits := inv.fits r
  rwa [Fits, phase] at fits

theorem Inv.sweeping (inv : s.Inv c) {r : Nat} {stale : List String} {awaited : Option Nat}
    (phase : (s.runs r).phase = .sweeping stale awaited) :
    (s.runs r).standing ≠ .refused ∧ s.lock = some r ∧ ∀ e, awaited = some e → e < s.created ∧
      ∀ d, s.active.lookup (s.executions e).threadId = some d → d = e := by
  have fits := inv.fits r
  rwa [Fits, phase] at fits

theorem Inv.cleaning (inv : s.Inv c) {r e : Nat} (phase : (s.runs r).phase = .cleaning e) :
    s.lock = some r ∧ e < s.created ∧ s.active.lookup (s.runs r).threadId = some e ∧
      (s.executions e).task ≠ none ∧ (s.executions e).run = r := by
  have fits := inv.fits r
  rwa [Fits, phase] at fits

theorem Inv.no_sweep (inv : s.Inv c) (free : s.lock = none) (r : Nat) (stale : List String)
    (awaited : Option Nat) : (s.runs r).phase ≠ .sweeping stale awaited := by
  intro phase
  have held := (inv.sweeping phase).2.1
  rw [free] at held
  cases held

theorem Inv.no_cleaning (inv : s.Inv c) (free : s.lock = none) (r e : Nat) :
    (s.runs r).phase ≠ .cleaning e := by
  intro phase
  have held := (inv.cleaning phase).1
  rw [free] at held
  cases held

theorem Inv.standing (inv : s.Inv c) {r : Nat} (t : Touch) (member : t ∈ s.touches)
    (same : t.run = r) (other : (s.executions t.execution).run ≠ r) :
    (s.runs r).standing ≠ .refused := by
  subst same
  exact ((inv.ours t member).2 other).2

theorem Inv.few (inv : s.Inv c) : s.active.keys.length ≤ c.maxConcurrent := by
  obtain ⟨threads, bound, counts⟩ := inv.room
  rw [← List.toFinset_card_of_nodup s.active.keys_nodup]
  refine le_trans (Finset.card_le_card fun t member => ?_) bound
  exact counts.active t (AList.mem_keys.mpr (List.mem_toFinset.mp member))

theorem Inv.single (inv : s.Inv c) {d e : Nat} (first : d ∈ s.running) (second : e ∈ s.running)
    (same : (s.executions d).threadId = (s.executions e).threadId) : d = e := by
  obtain ⟨old, undone⟩ := mem_running.mp first
  obtain ⟨old', undone'⟩ := mem_running.mp second
  rcases inv.covered d old undone with found | ⟨r, going⟩ | ⟨r, stale, sweeping⟩
  · rcases inv.covered e old' undone' with found' | ⟨r', going'⟩ | ⟨r', stale', sweeping'⟩
    · rw [same, found'] at found
      exact (Option.some.inj found).symm
    · obtain ⟨_, thread, only⟩ := inv.started going'
      exact (Option.some.inj (only d old undone (same.trans thread))).symm
    · exact ((inv.sweeping sweeping').2.2 e rfl).2 d (same ▸ found)
  · obtain ⟨_, thread, only⟩ := inv.started going
    exact Option.some.inj (only e old' undone' (same.symm.trans thread))
  · rcases inv.covered e old' undone' with found' | ⟨r', going'⟩ | ⟨r', stale', sweeping'⟩
    · exact (((inv.sweeping sweeping).2.2 d rfl).2 e (same ▸ found')).symm
    · obtain ⟨_, thread, only⟩ := inv.started going'
      exact (Option.some.inj (only d old undone (same.trans thread))).symm
    · have here := (inv.sweeping sweeping).2.1
      have there := (inv.sweeping sweeping').2.1
      rw [here] at there
      cases there
      rw [sweeping] at sweeping'
      cases sweeping'
      rfl

theorem Inv.bounded (inv : s.Inv c) : s.running.card ≤ c.maxConcurrent := by
  obtain ⟨threads, few, counts⟩ := inv.room
  refine le_trans (Finset.card_le_card_of_injOn (fun e => (s.executions e).threadId) ?_ ?_) few
  · intro e member
    obtain ⟨old, undone⟩ := mem_running.mp member
    rcases inv.covered e old undone with found | ⟨r, going⟩ | ⟨r, stale, swept⟩
    · apply counts.active
      rw [← AList.lookup_isSome, found]
      rfl
    · have flying := counts.flying r (by rw [going]; rfl)
      rwa [← (inv.started going).2.1] at flying
    · exact counts.sweeping r stale e swept
  · intro d first e second same
    exact inv.single first second same

theorem Inv.admits (inv : s.Inv c) : s.Admits c where
  bounded := inv.bounded
  single := fun _ first _ second same => inv.single first second same
  undisturbed := fun t member other =>
    have ⟨stage, standing⟩ := (inv.ours t member).2 other
    ⟨standing, fun _ => stage⟩

/-! The parts of a step. -/

@[simp] theorem runs_setRun (r : Nat) (run : Run) :
    (s.setRun r run).runs = update s.runs r run := rfl

theorem update_forall {P : Nat → Run → Prop} {r : Nat} {run : Run} (mine : P r run)
    (others : ∀ q, q ≠ r → P q (s.runs q)) (q : Nat) : P q (update s.runs r run q) := by
  by_cases same : q = r
  · subst same
    simpa using mine
  · simpa [same] using others q same

theorem Fits.relock {r : Nat} {run : Run} {l : Option Nat} (fits : s.Fits r run)
    (other : s.lock = some r → l = some r) : ({ s with lock := l } : State).Fits r run := by
  obtain ⟨threadId, phase, standing⟩ := run
  cases phase with
  | sweeping stale awaited => exact ⟨fits.1, other fits.2.1, fits.2.2⟩
  | cleaning e => exact ⟨other fits.1, fits.2⟩
  | _ => exact fits

theorem Inv.setRun (inv : s.Inv c) {r : Nat} {run : Run} {l : Option Nat}
    (here : r < s.begun) (phase : run.phase ≠ .absent ∧ run.phase ≠ .entering)
    (mine : s.lock = l ∨ s.lock = none ∨ s.lock = some r)
    (fits : ({ s with lock := l } : State).Fits r run)
    (leaves : ∀ e < s.created, (s.executions e).task = none →
      s.active.lookup (s.executions e).threadId = some e ∨
        ((s.runs r).phase = .started e → run.phase = .started e) ∧
        ∀ stale, (s.runs r).phase = .sweeping stale (some e) →
          ∃ stale, run.phase = .sweeping stale (some e))
    (alone : run.phase.inFlight = true → ∀ q, q ≠ r → (s.runs q).phase.inFlight = true →
      (s.runs q).threadId ≠ run.threadId)
    (room : ∃ threads, threads.card ≤ c.maxConcurrent ∧ (s.setRun r run).Counts threads)
    (spare : ∀ t ∈ s.touches, t.run = r → ∀ stale x, run.phase = .sweeping stale x →
      s.active.keys.length < c.maxConcurrent)
    (standing : ∀ t ∈ s.touches, t.run = r → (s.executions t.execution).run ≠ r →
      run.standing ≠ .refused) :
    ({ s.setRun r run with lock := l } : State).Inv c where
  begun q := update_forall (P := fun q run => run.phase ≠ .absent → q < s.begun) (fun _ => here)
    (fun q _ => inv.begun q) q
  entry := inv.entry
  covered e old undone := by
    rcases leaves e old undone with found | ⟨starts, sweeps⟩
    · exact .inl found
    rcases inv.covered e old undone with found | ⟨q, going⟩ | ⟨q, stale, sweeping⟩
    · exact .inl found
    · refine .inr (.inl ⟨q, ?_⟩)
      by_cases same : q = r
      · subst same
        simpa using starts going
      · simpa [same] using going
    · by_cases same : q = r
      · subst same
        obtain ⟨stale', kept⟩ := sweeps stale sweeping
        exact .inr (.inr ⟨q, stale', by simpa using kept⟩)
      · exact .inr (.inr ⟨q, stale, by simpa [same] using sweeping⟩)
  complete := inv.complete
  fits q := by
    refine update_forall (P := fun q run => ({ s.setRun r run with lock := l } : State).Fits q run)
      fits (fun q other => ?_) q
    refine (inv.fits q).relock fun held => ?_
    rcases mine with same | free | mine
    · exact same ▸ held
    · rw [free] at held
      cases held
    · rw [mine] at held
      cases held
      exact absurd rfl other
  alone p q := by
    by_cases first : p = r <;> by_cases second : q = r
    · intro _ _ _
      exact first.trans second.symm
    · subst first
      intro flying flying' same
      exact absurd (by simpa [second] using same.symm)
        (alone (by simpa using flying) q second (by simpa [second] using flying'))
    · subst second
      intro flying flying' same
      exact absurd (by simpa [first] using same)
        (alone (by simpa using flying') p first (by simpa [first] using flying))
    · simpa [first, second] using inv.alone p q
  room := by
    obtain ⟨threads, few, counts⟩ := room
    exact ⟨threads, few, counts.active, counts.flying, counts.sweeping⟩
  spare t member := by
    refine update_forall (P := fun q run => t.run = q → ∀ stale x, run.phase = .sweeping stale x →
      s.active.keys.length < c.maxConcurrent) (spare t member) (fun q _ same => ?_) t.run rfl
    exact same ▸ inv.spare t member
  young t member := by
    refine update_forall (P := fun q run => t.run = q → run.phase ≠ .absent ∧
      run.phase ≠ .entering) (fun _ => phase) (fun q _ same => ?_) t.run rfl
    exact same ▸ inv.young t member
  ours t member := by
    refine ⟨(inv.ours t member).1, fun other => ⟨((inv.ours t member).2 other).1, ?_⟩⟩
    refine update_forall (P := fun q run => t.run = q → run.standing ≠ .refused)
      (fun same => standing t member same (same ▸ other)) (fun q _ same => ?_) t.run rfl
    exact same ▸ ((inv.ours t member).2 other).2

theorem Counts.setRun {threads : Finset String} (counts : s.Counts threads) {r : Nat} {run : Run}
    (flying : run.phase.inFlight = true → run.threadId ∈ threads)
    (sweeping : ∀ stale e, run.phase = .sweeping stale (some e) →
      (s.executions e).threadId ∈ threads) : (s.setRun r run).Counts threads where
  active := counts.active
  flying := update_forall (P := fun _ run => run.phase.inFlight = true → run.threadId ∈ threads)
    flying fun q _ => counts.flying q
  sweeping := update_forall (P := fun _ run => ∀ stale e, run.phase = .sweeping stale (some e) →
    (s.executions e).threadId ∈ threads) sweeping fun q _ => counts.sweeping q

theorem Inv.rest (inv : s.Inv c) {r e : Nat} {run : Run} {l : Option Nat} (here : r < s.begun)
    (phase : run.phase = .streaming e ∧ e < s.created ∨ run.phase = .finishing ∨
      run.phase = .closing ∨ run.phase = .ended)
    (mine : s.lock = l ∨ s.lock = none ∨ s.lock = some r)
    (leaves : ∀ e < s.created, (s.executions e).task = none →
      s.active.lookup (s.executions e).threadId = some e ∨
        (s.runs r).phase ≠ .started e ∧ ∀ stale, (s.runs r).phase ≠ .sweeping stale (some e))
    (standing : ∀ t ∈ s.touches, t.run = r → (s.executions t.execution).run ≠ r →
      run.standing ≠ .refused) :
    ({ s.setRun r run with lock := l } : State).Inv c := by
  obtain ⟨threads, few, counts⟩ := inv.room
  obtain ⟨threadId, phase', standing'⟩ := run
  have away : phase'.inFlight = false ∧ (∀ stale x, phase' ≠ .sweeping stale x) := by
    rcases phase with ⟨rfl, _⟩ | rfl | rfl | rfl <;> exact ⟨rfl, fun _ _ => nofun⟩
  apply inv.setRun here
  · rcases phase with ⟨rfl, _⟩ | rfl | rfl | rfl <;> exact ⟨nofun, nofun⟩
  · exact mine
  · rcases phase with ⟨rfl, old⟩ | rfl | rfl | rfl
    · exact old
    all_goals trivial
  · intro e old undone
    rcases leaves e old undone with found | ⟨first, second⟩
    · exact .inl found
    · exact .inr ⟨fun going => absurd going first, fun stale going => absurd going (second stale)⟩
  · intro flying
    simp [away.1] at flying
  · refine ⟨threads, few, counts.setRun (fun flying => ?_) fun stale e going => ?_⟩
    · simp [away.1] at flying
    · exact absurd going (away.2 stale _)
  · intro t _ _ stale x going
    exact absurd going (away.2 stale x)
  · exact standing

theorem Inv.ended (inv : s.Inv c) {r : Nat} {l : Option Nat} (here : r < s.begun)
    (mine : s.lock = l ∨ s.lock = none ∨ s.lock = some r)
    (leaves : ∀ e, (s.runs r).phase ≠ .started e ∧
      ∀ stale, (s.runs r).phase ≠ .sweeping stale (some e)) :
    ({ s.setPhase r .ended with lock := l } : State).Inv c :=
  inv.rest (e := 0) here (.inr (.inr (.inr rfl))) mine (fun e _ _ => .inr (leaves e)) inv.standing

theorem Inv.erase (inv : s.Inv c) {t : String}
    (isOver : ∀ e, s.active.lookup t = some e → (s.executions e).task = none →
      ∃ r stale, (s.runs r).phase = .sweeping stale (some e))
    (unread : ∀ q e, (s.runs q).phase = .cleaning e → (s.runs q).threadId ≠ t) :
    ({ s with active := s.active.erase t } : State).Inv c := by
  have kept : ∀ {t' e}, (s.active.erase t).lookup t' = some e →
      t' ≠ t ∧ s.active.lookup t' = some e := by
    intro t' e found
    by_cases same : t' = t
    · subst same
      simp at found
    · exact ⟨same, by rwa [AList.lookup_erase_ne same] at found⟩
  have few : (s.active.erase t).keys.length ≤ s.active.keys.length := by
    rw [AList.keys_erase]
    exact List.length_erase_le
  refine { inv with
    entry := fun t' e found => inv.entry t' e (kept found).2
    covered := fun e old undone => ?_
    fits := fun q => ?_
    room := ?_
    spare := fun touch member stale x going => few.trans_lt (inv.spare touch member stale x going) }
  · rcases inv.covered e old undone with found | elsewhere
    · by_cases same : (s.executions e).threadId = t
      · exact .inr (.inr (isOver e (same ▸ found) undone))
      · exact .inl (by simpa [AList.lookup_erase_ne same] using found)
    · exact .inr elsewhere
  · have fits := inv.fits q
    have other := unread q
    show ({ s with active := s.active.erase t } : State).Fits q (s.runs q)
    generalize s.runs q = run at fits other
    obtain ⟨threadId, phase, standing⟩ := run
    cases phase with
    | sweeping stale awaited =>
      refine ⟨fits.1, fits.2.1, fun e awaits => ⟨(fits.2.2 e awaits).1, fun d found => ?_⟩⟩
      exact (fits.2.2 e awaits).2 d (kept found).2
    | cleaning e =>
      obtain ⟨held, old, found, rest⟩ := fits
      exact ⟨held, old, by rwa [AList.lookup_erase_ne (other e rfl)], rest⟩
    | _ => exact fits
  · obtain ⟨threads, bound, counts⟩ := inv.room
    refine ⟨threads, bound, fun t' member => counts.active t' ?_, counts.flying, counts.sweeping⟩
    exact (AList.mem_erase.mp member).2

theorem Inv.setExecution (inv : s.Inv c) {e : Nat} {x : ExecutionState}
    (run : x.run = (s.executions e).run) (thread : x.threadId = (s.executions e).threadId)
    (task : x.task = none → (s.executions e).task = none)
    (complete : x.isComplete = true → x.task ≠ none) : (s.setExecution e x).Inv c := by
  have threads : ∀ d, ((s.setExecution e x).executions d).threadId = (s.executions d).threadId := by
    intro d
    by_cases same : d = e
    · subst same
      simpa [State.setExecution] using thread
    · simp [State.setExecution, same]
  have runs : ∀ d, ((s.setExecution e x).executions d).run = (s.executions d).run := by
    intro d
    by_cases same : d = e
    · subst same
      simpa [State.setExecution] using run
    · simp [State.setExecution, same]
  have undone : ∀ d, ((s.setExecution e x).executions d).task = none →
      (s.executions d).task = none := by
    intro d none
    by_cases same : d = e
    · subst same
      exact task (by simpa [State.setExecution] using none)
    · simpa [State.setExecution, same] using none
  have only : ∀ {t x'}, s.Only t x' → (s.setExecution e x).Only t x' := fun only d old none same =>
    only d old (undone d none) (by rwa [threads] at same)
  obtain ⟨set, bound, counts⟩ := inv.room
  refine ⟨inv.begun, fun t d found => ?_, fun d old none => ?_, fun d marked => ?_, fun q => ?_,
    inv.alone, ⟨set, bound, counts.active, counts.flying, fun r stale d going => ?_⟩, inv.spare,
    inv.young, fun t member => ?_⟩
  · rw [threads]
    exact inv.entry t d found
  · rw [Covered, threads]
    exact inv.covered d old (undone d none)
  · by_cases same : d = e
    · subst same
      simp only [State.setExecution, update_self] at marked ⊢
      exact complete marked
    · simp only [State.setExecution, update_of_ne same] at marked ⊢
      exact inv.complete d marked
  · have fits := inv.fits q
    show (s.setExecution e x).Fits q (s.runs q)
    generalize s.runs q = run at fits
    obtain ⟨threadId, phase, standing⟩ := run
    cases phase with
    | admitted y => exact only fits
    | waiting y => exact only fits
    | started y => exact ⟨fits.1, (threads y).trans fits.2.1, only fits.2.2⟩
    | sweeping stale awaited =>
      refine ⟨fits.1, fits.2.1, fun d awaits => ?_⟩
      rw [threads]
      exact fits.2.2 d awaits
    | cleaning d =>
      obtain ⟨held, old, found, done, own⟩ := fits
      exact ⟨held, old, found, fun none => done (undone d none), (runs d).trans own⟩
    | _ => exact fits
  · rw [threads]
    exact counts.sweeping r stale d going
  · rw [runs]
    exact inv.ours t member

theorem Inv.touch (inv : s.Inv c) {r e : Nat} (stage : Stage) (old : e < s.created)
    (young : (s.runs r).phase ≠ .absent ∧ (s.runs r).phase ≠ .entering)
    (spare : ∀ stale x, (s.runs r).phase = .sweeping stale x →
      s.active.keys.length < c.maxConcurrent)
    (ours : (s.executions e).run ≠ r → stage = .admission ∧ (s.runs r).standing ≠ .refused) :
    (s.touch r stage e).Inv c := by
  obtain ⟨set, bound, counts⟩ := inv.room
  refine ⟨inv.begun, inv.entry, inv.covered, inv.complete, inv.fits, inv.alone,
    ⟨set, bound, counts.active, counts.flying, counts.sweeping⟩, fun t member => ?_,
    fun t member => ?_, fun t member => ?_⟩
  · rcases List.mem_cons.mp member with rfl | before
    · exact spare
    · exact inv.spare t before
  · rcases List.mem_cons.mp member with rfl | before
    · exact young
    · exact inv.young t before
  · rcases List.mem_cons.mp member with rfl | before
    · exact ⟨old, ours⟩
    · exact inv.ours t before

theorem Inv.addEntry (inv : s.Inv c) {r e : Nat} (free : s.lock = none)
    (phase : (s.runs r).phase = .started e) :
    ({ s with active := s.active.insert (s.runs r).threadId e } : State).Inv c := by
  obtain ⟨old, thread, only⟩ := inv.started phase
  obtain ⟨set, bound, counts⟩ := inv.room
  refine ⟨inv.begun, fun t d found => ?_, fun d old' undone => ?_, inv.complete, fun q => ?_,
    inv.alone, ⟨set, bound, fun t member => ?_, counts.flying, counts.sweeping⟩,
    fun t _ stale x going => absurd going (inv.no_sweep free _ _ _), inv.young, inv.ours⟩
  · rcases Table.lookup_insert_iff.mp found with ⟨rfl, rfl⟩ | ⟨_, before⟩
    · exact ⟨old, thread⟩
    · exact inv.entry t d before
  · by_cases same : (s.executions d).threadId = (s.runs r).threadId
    · cases only d old' undone same
      exact .inl (Table.lookup_insert_iff.mpr (.inl ⟨same, rfl⟩))
    · rcases inv.covered d old' undone with found | elsewhere
      · exact .inl (Table.lookup_insert_iff.mpr (.inr ⟨same, found⟩))
      · exact .inr elsewhere
  · have fits := inv.fits q
    have unswept := inv.no_sweep free q
    have uncleaned := inv.no_cleaning free q
    show ({ s with active := s.active.insert (s.runs r).threadId e } : State).Fits q (s.runs q)
    generalize s.runs q = run at fits unswept uncleaned
    obtain ⟨threadId, phase, standing⟩ := run
    cases phase with
    | sweeping stale awaited => exact absurd rfl (unswept stale awaited)
    | cleaning d => exact absurd rfl (uncleaned d)
    | _ => exact fits
  · rcases (AList.mem_insert _).mp member with rfl | before
    · exact counts.flying r (by rw [phase]; rfl)
    · exact counts.active t before

theorem Inv.begin (inv : s.Inv c) (threadId : String) : (s.begin threadId).Inv c := by
  have new : (s.runs s.begun).phase = .absent := by
    by_contra present
    exact absurd (inv.begun _ present) (Nat.lt_irrefl _)
  obtain ⟨set, bound, counts⟩ := inv.room
  have counted : (s.setRun s.begun { threadId, phase := .entering }).Counts set :=
    counts.setRun (by simp [Phase.inFlight]) (by simp)
  refine ⟨?_, inv.entry, fun e old undone => ?_, inv.complete, ?_, fun p q => ?_,
    ⟨set, bound, counted.active, counted.flying, counted.sweeping⟩, fun t member => ?_,
    fun t member => ?_, fun t member => ?_⟩
  · exact update_forall (P := fun q run => run.phase ≠ .absent → q < s.begun + 1)
      (fun _ => Nat.lt_succ_self _) fun q _ present => Nat.lt_succ_of_lt (inv.begun q present)
  · rcases inv.covered e old undone with found | ⟨q, going⟩ | ⟨q, stale, going⟩
    · exact .inl found
    all_goals
      have other : q ≠ s.begun := by
        rintro rfl
        rw [new] at going
        cases going
    · exact .inr (.inl ⟨q, by simpa [State.begin, other] using going⟩)
    · exact .inr (.inr ⟨q, stale, by simpa [State.begin, other] using going⟩)
  · exact update_forall (P := fun q run => s.Fits q run) (by simp [Fits]) fun q _ => inv.fits q
  · by_cases first : p = s.begun
    · simp [State.begin, first, Phase.inFlight]
    · by_cases second : q = s.begun
      · simp [State.begin, second, Phase.inFlight]
      · simpa [State.begin, first, second] using inv.alone p q
  all_goals
    have other : t.run ≠ s.begun := fun same => (inv.young t member).1 (same ▸ new)
  · simpa [State.begin, State.setRun, other] using inv.spare t member
  · simpa [State.begin, State.setRun, other] using inv.young t member
  · simpa [State.begin, State.setRun, other] using inv.ours t member

theorem Inv.start (inv : s.Inv c) {r : Nat} (flying : (s.runs r).phase.inFlight = true)
    (unstarted : ∀ e, (s.runs r).phase ≠ .started e)
    (only : s.Only (s.runs r).threadId none) : (s.start r).Inv c := by
  have unswept : ∀ stale x, (s.runs r).phase ≠ .sweeping stale x := by
    intro stale x phase
    rw [phase] at flying
    cases flying
  have same : ∀ {e}, e < s.created → (s.start r).executions e = s.executions e := fun old =>
    update_of_ne (Nat.ne_of_lt old) _ _
  have newest : (s.start r).executions s.created =
      { run := r, threadId := (s.runs r).threadId, startTime := s.now } := update_self _ _ _
  have phases : ∀ q, q ≠ r → (s.start r).runs q = s.runs q := fun q other =>
    update_of_ne other _ _
  have flight : ∀ q, ((s.start r).runs q).phase.inFlight = (s.runs q).phase.inFlight ∧
      ((s.start r).runs q).threadId = (s.runs q).threadId := by
    intro q
    by_cases mine : q = r
    · subst mine
      rw [flying]
      simp [State.start, setPhase, Phase.inFlight, State.setExecution]
    · rw [phases q mine]
      exact ⟨rfl, rfl⟩
  obtain ⟨set, bound, counts⟩ := inv.room
  refine ⟨?_, fun t e found => ?_, fun e old undone => ?_, fun e => ?_, fun q => ?_,
    fun p q => ?_, ⟨set, bound, counts.active, fun q => ?_, fun q stale e => ?_⟩,
    fun t member => ?_, fun t member => ?_, fun t member => ?_⟩
  · refine update_forall (P := fun q run => run.phase ≠ .absent → q < s.begun)
      (fun _ => inv.begun r ?_) fun q _ => inv.begun q
    intro absent
    rw [absent] at flying
    cases flying
  · obtain ⟨old, thread⟩ := inv.entry t e found
    rw [same old]
    exact ⟨Nat.lt_succ_of_lt old, thread⟩
  · rcases Nat.lt_succ_iff_lt_or_eq.mp old with older | rfl
    · rw [same older] at undone
      rw [Covered, same older]
      rcases inv.covered e older undone with found | ⟨q, going⟩ | ⟨q, stale, going⟩
      · exact .inl found
      · have other : q ≠ r := fun mine => unstarted e (mine ▸ going)
        exact .inr (.inl ⟨q, by rw [phases q other]; exact going⟩)
      · have other : q ≠ r := fun mine => unswept stale _ (mine ▸ going)
        exact .inr (.inr ⟨q, stale, by rw [phases q other]; exact going⟩)
    · exact .inr (.inl ⟨r, by simp [State.start, setPhase]⟩)
  · by_cases new : e = s.created
    · subst new
      simp [newest]
    · have unchanged : (s.start r).executions e = s.executions e := update_of_ne new _ _
      rw [unchanged]
      exact inv.complete e
  · have others : ∀ {t x}, t ≠ (s.runs r).threadId → s.Only t x → (s.start r).Only t x := by
      intro t x other before e old undone thread
      rcases Nat.lt_succ_iff_lt_or_eq.mp old with older | rfl
      · rw [same older] at undone thread
        exact before e older undone thread
      · rw [newest] at thread
        exact absurd thread.symm other
    by_cases mine : q = r
    · subst mine
      have run : (s.start q).runs q = { s.runs q with phase := .started s.created } :=
        update_self _ _ _
      rw [run]
      refine ⟨Nat.lt_succ_self _, by rw [newest], fun e old undone thread => ?_⟩
      rcases Nat.lt_succ_iff_lt_or_eq.mp old with older | rfl
      · rw [same older] at undone thread
        cases only e older undone thread
      · rfl
    · rw [phases q mine]
      have fits := inv.fits q
      have apart := inv.alone q r
      generalize s.runs q = run at fits apart
      obtain ⟨threadId, phase, standing⟩ := run
      have distinct : phase.inFlight = true → threadId ≠ (s.runs r).threadId :=
        fun going thread => mine (apart going flying thread)
      cases phase with
      | admitted x => exact others (distinct rfl) fits
      | waiting y => exact others (distinct rfl) fits
      | started y =>
        refine ⟨Nat.lt_succ_of_lt fits.1, ?_, others (distinct rfl) fits.2.2⟩
        rw [same fits.1]
        exact fits.2.1
      | streaming y => exact Nat.lt_succ_of_lt fits
      | sweeping stale awaited =>
        refine ⟨fits.1, fits.2.1, fun e awaits => ?_⟩
        obtain ⟨old, unique⟩ := fits.2.2 e awaits
        rw [same old]
        exact ⟨Nat.lt_succ_of_lt old, unique⟩
      | cleaning e =>
        obtain ⟨held, old, rest⟩ := fits
        refine ⟨held, Nat.lt_succ_of_lt old, ?_⟩
        rw [same old]
        exact rest
      | _ => exact fits
  · rw [(flight p).1, (flight p).2, (flight q).1, (flight q).2]
    exact inv.alone p q
  · rw [(flight q).1, (flight q).2]
    exact counts.flying q
  · intro going
    have other : q ≠ r := by
      rintro rfl
      simp [State.start, setPhase] at going
    rw [phases q other] at going
    rw [same ((inv.sweeping going).2.2 e rfl).1]
    exact counts.sweeping q stale e going
  · refine update_forall (P := fun q run => t.run = q → ∀ stale x, run.phase = .sweeping stale x →
      s.active.keys.length < c.maxConcurrent) (fun _ _ _ => by simp) (fun q _ mine => ?_) t.run rfl
    exact mine ▸ inv.spare t member
  · refine update_forall (P := fun q run => t.run = q → run.phase ≠ .absent ∧
      run.phase ≠ .entering) (fun _ => by simp) (fun q _ mine => ?_) t.run rfl
    exact mine ▸ inv.young t member
  · obtain ⟨old, ours⟩ := inv.ours t member
    rw [same old]
    refine ⟨Nat.lt_succ_of_lt old, fun other => ⟨(ours other).1, ?_⟩⟩
    by_cases mine : t.run = r
    · rw [mine]
      simpa [State.start, setPhase, State.setExecution] using
        inv.standing t member mine (mine ▸ other)
    · rw [phases t.run mine]
      exact (ours other).2

end State
end NetworkAgent.Middleware
