import NetworkAgent.Middleware.Admission

/-! Every step of a run keeps the invariant of the admission, as long as the run is orderly. -/
namespace NetworkAgent.Middleware
open Function

namespace State
variable {c : Settings} {s : State}

theorem Inv.admitRun (inv : s.Inv c) {r : Nat} {l : Option Nat} (here : r < s.begun)
    (mine : s.lock = l ∨ s.lock = none ∨ s.lock = some r)
    (unswept : ∀ q stale e, (s.runs q).phase ≠ .sweeping stale (some e))
    (grounded : (s.runs r).phase.inFlight = false) (room : s.Room c (s.runs r).threadId) :
    ({ s.admitRun r with lock := l } : State).Inv c := by
  obtain ⟨unclaimed, few⟩ := room
  have apart : ∀ q, (s.runs q).phase.inFlight = true →
      (s.runs q).threadId ≠ (s.runs r).threadId := by
    intro q flying same
    have present : (s.runs q).phase ≠ .absent := by
      intro absent
      rw [absent] at flying
      cases flying
    apply unclaimed
    rw [inFlight, Finset.mem_image]
    exact ⟨q, by simp [inv.begun q present, flying], same⟩
  apply inv.setRun here (by simp) mine
  · intro e old undone thread
    rcases inv.covered e old undone with found | ⟨q, going⟩ | ⟨q, stale, sweeping⟩
    · exact thread ▸ found
    · have same := (inv.started going).2.1
      exact absurd (same.symm.trans thread) (apart q (by rw [going]; rfl))
    · exact absurd sweeping (unswept q stale e)
  · intro e _ _
    refine .inr ⟨fun going => ?_, fun stale going => absurd going (unswept r stale e)⟩
    rw [going] at grounded
    cases grounded
  · exact fun _ q _ => apart q
  · have counts : s.Counts (insert (s.runs r).threadId s.claimed) := by
      refine ⟨fun t member => ?_, fun q flying => ?_, fun q stale e going =>
        absurd going (unswept q stale e)⟩
      · simp [claimed, AList.mem_keys.mp, member]
      · have present : (s.runs q).phase ≠ .absent := by
          intro absent
          rw [absent] at flying
          cases flying
        refine Finset.mem_insert_of_mem (Finset.mem_union_right _ ?_)
        rw [inFlight, Finset.mem_image]
        exact ⟨q, by simp [inv.begun q present, flying], rfl⟩
    exact ⟨_, few, counts.setRun (fun _ => Finset.mem_insert_self _ _) (by simp)⟩
  · intro t _ _ stale x going
    cases going
  · exact inv.standing

theorem Inv.enter (inv : s.Inv c) {r : Nat} (phase : (s.runs r).phase = .entering)
    (room : s.lock = none → s.full c = false → s.Room c (s.runs r).threadId) :
    (s.enter c r).Inv c := by
  have here : r < s.begun := inv.begun r (by simp [phase])
  unfold State.enter
  split
  · next free =>
    split
    · have fresh : ∀ t ∈ s.touches, t.run ≠ r := fun t member same =>
        (inv.young t member).2 (same ▸ phase)
      have standing : (s.runs r).standing ≠ .refused := by
        have fits := inv.fits r
        rwa [Fits, phase] at fits
      obtain ⟨set, bound, counts⟩ := inv.room
      apply inv.setRun here (by simp) (.inr (.inl free))
      · exact ⟨standing, rfl, by rintro _ ⟨⟩⟩
      · intro e _ _
        rw [phase]
        exact .inr ⟨by simp, by simp⟩
      · rintro ⟨⟩
      · exact ⟨set, bound, counts.setRun (by simp [Phase.inFlight]) (by simp)⟩
      · exact fun t member same => absurd same (fresh t member)
      · exact fun t member same => absurd same (fresh t member)
    · next notFull =>
      have entered := inv.admitRun (l := s.lock) here (.inl rfl)
        (fun q stale e => inv.no_sweep free q stale _) (by rw [phase]; rfl)
        (room free (by simpa using notFull))
      exact entered
  · exact inv

theorem Inv.sweep (inv : s.Inv c) {r : Nat} {stale : List String} {awaited : Option Nat}
    (phase : (s.runs r).phase = .sweeping stale awaited)
    (room : stale = [] → awaited = none → s.full c = false → s.Room c (s.runs r).threadId) :
    (s.sweep c r stale awaited).Inv c := by
  have here : r < s.begun := inv.begun r (by simp [phase])
  obtain ⟨standing, held, awaits⟩ := inv.sweeping phase
  have spare : ∀ t ∈ s.touches, t.run = r → s.active.keys.length < c.maxConcurrent := by
    intro t member same
    exact inv.spare t member stale awaited (same ▸ phase)
  have alone : ∀ q stale' e, (s.runs q).phase = .sweeping stale' (some e) → awaited = some e := by
    intro q stale' e going
    have holds := (inv.sweeping going).2.1
    rw [held] at holds
    cases holds
    rw [phase] at going
    cases going
    rfl
  cases awaited with
  | some e =>
    rw [State.sweep]
    split
    · exact inv
    · next isOver =>
      have marked := inv.setExecution (e := e) (x := { s.executions e with isComplete := true })
        rfl rfl id fun _ => isOver
      obtain ⟨set, bound, counts⟩ := marked.room
      apply marked.setRun (l := s.lock) here (by simp) (.inl rfl)
      · exact ⟨standing, held, by rintro _ ⟨⟩⟩
      · intro d _ undone
        refine .inr ⟨fun going => ?_, fun stale' going => ?_⟩
        · have was : (s.runs r).phase = .started d := going
          rw [phase] at was
          cases was
        · cases alone r stale' d going
          simp [State.setExecution] at undone
          exact absurd undone isOver
      · rintro ⟨⟩
      · exact ⟨set, bound, counts.setRun (by simp [Phase.inFlight]) (by simp)⟩
      · exact fun t member same _ _ _ => spare t member same
      · intro t member same other
        exact standing
  | none =>
    cases stale with
    | nil =>
      rw [State.sweep]
      split
      · next full =>
        apply inv.rest (e := 0) here (.inr (.inr (.inl rfl))) (.inr (.inr held))
        · intro e _ _
          rw [phase]
          exact .inr ⟨by simp, by simp⟩
        · intro t member same _
          have bound := spare t member same
          simp [State.full] at full
          omega
      · next notFull =>
        exact inv.admitRun here (.inr (.inr held))
          (fun q stale' e going => by cases alone q stale' e going) (by rw [phase]; rfl)
          (room rfl rfl (by simpa using notFull))
    | cons threadId rest =>
      rw [State.sweep]
      split
      · obtain ⟨set, bound, counts⟩ := inv.room
        apply inv.setRun (l := s.lock) here (by simp) (.inl rfl)
        · exact ⟨standing, held, by rintro _ ⟨⟩⟩
        · intro e _ _
          rw [phase]
          exact .inr ⟨by simp, by simp⟩
        · rintro ⟨⟩
        · exact ⟨set, bound, counts.setRun (by simp [Phase.inFlight]) (by simp)⟩
        · exact fun t member same _ _ _ => spare t member same
        · exact fun _ _ _ _ => standing
      · next e found =>
        obtain ⟨old, thread⟩ := inv.entry threadId e found
        have member : threadId ∈ s.active := by
          rw [← AList.lookup_isSome, found]
          rfl
        have awaiting : (s.setPhase r (.sweeping rest (some e))).Inv c := by
          obtain ⟨set, bound, counts⟩ := inv.room
          apply inv.setRun (l := s.lock) here (by simp) (.inl rfl)
          · refine ⟨standing, held, fun d awaits => ?_⟩
            cases awaits
            refine ⟨old, fun d there => ?_⟩
            have there : s.active.lookup (s.executions e).threadId = some d := there
            rw [thread, found] at there
            exact (Option.some.inj there).symm
          · intro d _ _
            rw [phase]
            exact .inr ⟨by simp, by simp⟩
          · rintro ⟨⟩
          · refine ⟨set, bound, counts.setRun (by simp [Phase.inFlight]) fun _ d going => ?_⟩
            cases going
            rw [thread]
            exact counts.active threadId member
          · exact fun t member same _ _ _ => spare t member same
          · exact fun _ _ _ _ => standing
        have swept : ((s.setPhase r (.sweeping rest (some e))).runs r).phase =
            .sweeping rest (some e) := by simp [setPhase]
        have erased := awaiting.erase (t := threadId)
          (fun d there _ => ⟨r, rest, by rw [swept]; rw [← there]; exact congrArg _ found.symm⟩)
          (fun q d going => by
            have holds := (awaiting.cleaning going).1
            have holds : s.lock = some q := holds
            rw [held] at holds
            cases holds
            rw [swept] at going
            cases going)
        refine erased.touch _ old ⟨?_, ?_⟩ ?_ ?_
        · rw [swept]
          simp
        · rw [swept]
          simp
        · intro _ _ _
          have few := inv.few
          have shorter : (s.active.erase threadId).keys.length + 1 = s.active.keys.length := by
            rw [AList.keys_erase, List.length_erase_of_mem (AList.mem_keys.mpr member)]
            have := List.length_pos_of_mem (AList.mem_keys.mpr member)
            omega
          show (s.active.erase threadId).keys.length < c.maxConcurrent
          omega
        · intro _
          refine ⟨rfl, ?_⟩
          simpa [setPhase] using standing

theorem Inv.store (inv : s.Inv c) {r e : Nat} (phase : (s.runs r).phase = .started e) :
    (s.store r e).Inv c := by
  have here : r < s.begun := inv.begun r (by rw [phase]; exact nofun)
  obtain ⟨old, thread, only⟩ := inv.started phase
  unfold State.store
  split
  · next free =>
    have added := inv.addEntry free phase
    refine added.rest (l := s.lock) here (.inl ⟨rfl, old⟩) (.inl rfl) (fun d _ _ => ?_)
      inv.standing
    by_cases same : d = e
    · subst same
      exact .inl (Table.lookup_insert_iff.mpr (.inl ⟨thread, rfl⟩))
    · refine .inr ?_
      show (s.runs r).phase ≠ .started d ∧ ∀ stale, (s.runs r).phase ≠ .sweeping stale (some d)
      rw [phase]
      exact ⟨fun other => same (Phase.started.inj other).symm, nofun⟩
  · exact inv

theorem Inv.endStream (inv : s.Inv c) {r e : Nat} (phase : (s.runs r).phase = .streaming e) :
    (s.endStream r e).Inv c := by
  have here : r < s.begun := inv.begun r (by rw [phase]; exact nofun)
  have marked : (s.executions e).task ≠ none → (s.markComplete e).Inv c := fun isOver =>
    inv.setExecution rfl rfl id fun _ => isOver
  have leaves : ∀ d, (s.runs r).phase ≠ .started d ∧
      ∀ stale, (s.runs r).phase ≠ .sweeping stale (some d) := by
    intro d
    rw [phase]
    exact ⟨nofun, nofun⟩
  unfold State.endStream
  split
  · exact inv
  · next done =>
    have inv' := marked (by rw [done]; exact nofun)
    exact inv'.rest (e := 0) (l := s.lock) here (.inr (.inl rfl)) (.inl rfl)
      (fun d _ _ => .inr (leaves d)) inv'.standing
  · next done =>
    have inv' := marked (by rw [done]; exact nofun)
    exact inv'.rest (e := 0) (l := s.lock) here (.inr (.inr (.inl rfl))) (.inl rfl)
      (fun d _ _ => .inr (leaves d)) fun _ _ _ _ => nofun

theorem Inv.cleanup (inv : s.Inv c) {r : Nat} (phase : (s.runs r).phase = .closing)
    (own : s.lock = none → ∀ e, s.active.lookup (s.runs r).threadId = some e →
      (s.executions e).run = r ∧ (s.executions e).task ≠ none) : (s.cleanup r).Inv c := by
  have here : r < s.begun := inv.begun r (by rw [phase]; exact nofun)
  have leaves : ∀ d, (s.runs r).phase ≠ .started d ∧
      ∀ stale, (s.runs r).phase ≠ .sweeping stale (some d) := by
    intro d
    rw [phase]
    exact ⟨nofun, nofun⟩
  unfold State.cleanup
  split
  · next free =>
    split
    · exact inv.ended (l := s.lock) here (.inl rfl) leaves
    · next e found =>
      obtain ⟨mine, isOver⟩ := own free e found
      obtain ⟨old, _⟩ := inv.entry _ e found
      have marked : (s.markComplete e).Inv c := inv.setExecution rfl rfl id fun _ => isOver
      have touched : ((s.markComplete e).touch r .cleanup e).Inv c := by
        apply marked.touch _ old
        · exact ⟨by rw [show ((s.markComplete e).runs r).phase = .closing from phase]; exact nofun,
            by rw [show ((s.markComplete e).runs r).phase = .closing from phase]; exact nofun⟩
        · intro stale x going
          have going : (s.runs r).phase = .sweeping stale x := going
          rw [phase] at going
          cases going
        · intro other
          simp [markComplete, State.setExecution, mine] at other
      obtain ⟨set, bound, counts⟩ := touched.room
      apply touched.setRun here (by simp) (.inr (.inl free))
      · refine ⟨rfl, old, found, ?_, ?_⟩
        · simpa [State.touch, markComplete, State.setExecution] using isOver
        · simpa [State.touch, markComplete, State.setExecution] using mine
      · intro d _ _
        exact .inr ⟨fun going => absurd going (leaves d).1,
          fun stale going => absurd going ((leaves d).2 stale)⟩
      · simp [Phase.inFlight]
      · exact ⟨set, bound, counts.setRun (by simp [Phase.inFlight]) (by simp)⟩
      · simp
      · exact touched.standing
  · exact inv

theorem Inv.finishCleanup (inv : s.Inv c) {r e : Nat} (phase : (s.runs r).phase = .cleaning e)
    (hasPending : Bool) : (s.finishCleanup r e hasPending).Inv c := by
  have here : r < s.begun := inv.begun r (by rw [phase]; exact nofun)
  obtain ⟨held, old, found, isOver, own⟩ := inv.cleaning phase
  have ended : ({ s.setPhase r .ended with lock := none } : State).Inv c := by
    apply inv.ended here (.inr (.inr held))
    rw [phase]
    exact fun _ => ⟨nofun, nofun⟩
  unfold State.finishCleanup
  split
  · exact ended
  · have touched := ended.touch (r := r) (e := e) .cleanup old (by simp [setPhase])
      (by simp [setPhase]) fun other => absurd own other
    refine touched.erase (t := (s.runs r).threadId) (fun d there undone => ?_) fun q d going => ?_
    · have there : s.active.lookup (s.runs r).threadId = some d := there
      rw [found] at there
      cases there
      exact absurd undone isOver
    · exact absurd going (ended.no_cleaning rfl q d)

theorem Inv.fail (inv : s.Inv c) {r : Nat}
    (isOver : ∀ e, (s.runs r).phase = .started e → (s.executions e).task ≠ none) :
    (s.fail r).Inv c := by
  have close : (s.runs r).phase ≠ .absent → (∀ stale x, (s.runs r).phase ≠ .sweeping stale x) →
      (s.close r .failed).Inv c := by
    intro present unswept
    apply inv.rest (e := 0) (l := s.lock) (inv.begun r present) (.inr (.inr (.inl rfl)))
      (.inl rfl)
    · intro d _ undone
      exact .inr ⟨fun going => absurd undone (isOver d going), fun stale => unswept stale _⟩
    · exact fun _ _ _ _ => nofun
  unfold State.fail
  split
  · exact inv
  · exact inv
  · exact inv
  · next phase =>
    apply inv.ended (l := s.lock) (inv.begun r (by rw [phase]; exact nofun)) (.inl rfl)
    rw [phase]
    exact fun _ => ⟨nofun, nofun⟩
  · next e phase =>
    apply inv.ended (inv.begun r (by rw [phase]; exact nofun)) (.inr (.inr (inv.cleaning phase).1))
    rw [phase]
    exact fun _ => ⟨nofun, nofun⟩
  · next absent unswept _ _ _ => exact close absent unswept

theorem Inv.timeOut (inv : s.Inv c) (r : Nat) : (s.timeOut c r).Inv c := by
  unfold State.timeOut
  split
  · next e phase =>
    split
    · apply inv.rest (e := 0) (l := s.lock) (inv.begun r (by rw [phase]; exact nofun))
        (.inr (.inl rfl)) (.inl rfl)
      · intro d _ _
        rw [phase]
        exact .inr ⟨nofun, nofun⟩
      · exact fun _ _ _ _ => nofun
    · exact inv
  · exact inv

theorem Inv.finish (inv : s.Inv c) (e : Nat) (how : TaskEnd) : (s.finish e how).Inv c := by
  unfold State.finish
  split
  · exact inv.setExecution rfl rfl nofun fun _ => nofun
  · exact inv

theorem Inv.advance (inv : s.Inv c) {r : Nat} {hasPending : Bool}
    (orderly : s.Orderly c (.advance r hasPending)) : (s.advance c r hasPending).Inv c := by
  unfold State.advance
  rw [Orderly] at orderly
  have close : ∀ standing, (∀ t ∈ s.touches, t.run = r → (s.executions t.execution).run ≠ r →
      standing ≠ .refused) → r < s.begun → (∀ e, (s.runs r).phase ≠ .started e ∧
        ∀ stale, (s.runs r).phase ≠ .sweeping stale (some e)) → (s.close r standing).Inv c :=
    fun standing allowed here leaves => inv.rest (e := 0) (l := s.lock) here
      (.inr (.inr (.inl rfl))) (.inl rfl) (fun e _ _ => .inr (leaves e)) allowed
  have present : (s.runs r).phase ≠ .absent → r < s.begun := inv.begun r
  cases phase : (s.runs r).phase with
  | absent => exact inv
  | ended => exact inv
  | entering =>
    rw [phase] at orderly
    exact inv.enter phase orderly
  | sweeping stale awaited =>
    apply inv.sweep phase
    rintro rfl rfl
    rw [phase] at orderly
    exact orderly
  | admitted existing =>
    have fits := inv.fits r
    rw [Fits, phase] at fits
    cases existing with
    | none => exact inv.start (by rw [phase]; rfl) (by simp [phase]) fits
    | some e =>
      dsimp only
      split
      · next complete =>
        apply inv.start (by rw [phase]; rfl) (by simp [phase])
        intro d old undone thread
        cases fits d old undone thread
        exact absurd undone (inv.complete e complete)
      · obtain ⟨set, bound, counts⟩ := inv.room
        have flying : (s.runs r).phase.inFlight = true := by rw [phase]; rfl
        apply inv.setRun (l := s.lock) (present (by simp [phase])) (by simp) (.inl rfl)
        · exact fits
        · intro d _ _
          rw [phase]
          exact .inr ⟨by simp, by simp⟩
        · exact fun _ q other going same => other (inv.alone q r going flying same)
        · exact ⟨set, bound, counts.setRun (fun _ => counts.flying r flying) (by simp)⟩
        · simp
        · exact inv.standing
  | waiting e =>
    have fits := inv.fits r
    rw [Fits, phase] at fits
    dsimp only
    split
    · exact inv
    · next done =>
      apply inv.start (by rw [phase]; rfl) (by simp [phase])
      intro d old undone thread
      cases fits d old undone thread
      rw [done] at undone
      cases undone
    · apply close .failed (by simp) (present (by simp [phase]))
      rw [phase]
      exact fun _ => ⟨by simp, by simp⟩
  | started e => exact inv.store phase
  | streaming e => exact inv.endStream phase
  | finishing =>
    apply close _ inv.standing (present (by simp [phase]))
    rw [phase]
    exact fun _ => ⟨by simp, by simp⟩
  | closing =>
    rw [phase] at orderly
    exact inv.cleanup phase orderly
  | cleaning e => exact inv.finishCleanup phase hasPending

theorem Inv.apply (inv : s.Inv c) {m : Move} (orderly : s.Orderly c m) : (m.apply c s).Inv c := by
  cases m with
  | tick =>
    obtain ⟨set, bound, counts⟩ := inv.room
    exact { inv with room := ⟨set, bound, counts.active, counts.flying, counts.sweeping⟩ }
  | begin threadId => exact inv.begin threadId
  | advance r hasPending => exact inv.advance orderly
  | fail r =>
    apply inv.fail
    intro e phase
    rw [Orderly, phase] at orderly
    exact orderly
  | timeOut r => exact inv.timeOut r
  | finish e how => exact inv.finish e how

theorem inv_initial (c : Settings) : ({} : State).Inv c where
  begun _ present := absurd rfl present
  entry _ _ found := by cases found
  covered _ old := absurd old (Nat.not_lt_zero _)
  complete _ marked := by cases marked
  fits _ := trivial
  alone _ _ flying := by cases flying
  room := ⟨∅, Nat.zero_le _, fun _ member => absurd member (AList.notMem_empty _), nofun, nofun⟩
  spare _ member := absurd member List.not_mem_nil
  young _ member := absurd member List.not_mem_nil
  ours _ member := absurd member List.not_mem_nil

end State

def agent (c : Settings) (moves : List Move) : State := Runs.run (Move.apply c) {} moves

/-- In an orderly run of any number of concurrent runs, every state that is reached keeps to the
limit, to one execution on a thread, and no run touches the execution of another. -/
theorem orderly_runs_admit (c : Settings) (moves : List Move)
    (orderly : Runs.Along (Move.apply c) (State.Orderly c) {} moves)
    (reached : List Move) (earlier : reached <+: moves) : (agent c reached).Admits c := by
  obtain ⟨later, rfl⟩ := earlier
  have front := ((Runs.along_append (Move.apply c) _ reached later).mp orderly).1
  have inv := Runs.along_invariant (P := State.Inv c) _ (fun s m inv orderly => inv.apply orderly)
    (State.inv_initial c) reached front
  exact inv.admits

def aloneOn (threadId : String) : List Move :=
  [.begin threadId, .advance 0 false, .advance 0 false, .advance 0 false, .finish 0 .returned,
    .advance 0 false, .advance 0 false, .advance 0 false, .advance 0 false]

theorem orderly_runs_admit_alone : (agent ⟨1, 60⟩ (aloneOn "t")).Admits ⟨1, 60⟩ :=
  orderly_runs_admit ⟨1, 60⟩ (aloneOn "t") (by decide) _ List.prefix_rfl

/-- A second run on a busy thread is refused, removes the execution of the first in its cleanup,
and lets a third one start beside it. -/
def refusedOn (threadId : String) : List Move :=
  [.begin threadId, .advance 0 false, .advance 0 false, .advance 0 false,
    .begin threadId, .advance 1 false, .advance 1 false, .advance 1 false, .advance 1 false,
    .begin threadId, .advance 2 false, .advance 2 false]

theorem refused_run_removes_execution :
    ¬ (agent ⟨1, 60⟩ (refusedOn "t")).Admits ⟨1, 60⟩ ∧
      (agent ⟨1, 60⟩ (refusedOn "t")).running = {0, 1} ∧
      ((agent ⟨1, 60⟩ (refusedOn "t")).runs 1).standing = .refused ∧
      ⟨1, .cleanup, 0⟩ ∈ (agent ⟨1, 60⟩ (refusedOn "t")).touches := by
  refine ⟨fun admits => ?_, by decide, by decide, by decide⟩
  have bounded := admits.bounded
  revert bounded
  decide

end NetworkAgent.Middleware
