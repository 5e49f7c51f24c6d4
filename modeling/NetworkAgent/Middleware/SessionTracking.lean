import NetworkAgent.Middleware.SessionManager

/-! What the tracking of sessions keeps, over every run of orderly moves. -/
namespace NetworkAgent.Sessions

/-! Sets of keys. -/

theorem lookup_cons (v w : String) (keys : Finset SessionKey)
    (rest : List (String × Finset SessionKey)) :
    List.lookup v ((w, keys) :: rest) = if v = w then some keys else rest.lookup v := by
  by_cases same : v = w
  · simp [same]
  · simp [List.lookup_cons, same, beq_false_of_ne same]

theorem lookup_setUser (u v : String) (keys : Finset SessionKey)
    (entries : List (String × Finset SessionKey)) :
    (setUser u keys entries).lookup v = if v = u then some keys else entries.lookup v := by
  induction entries with
  | nil => rw [setUser, lookup_cons]
  | cons entry rest ih =>
    obtain ⟨w, old⟩ := entry
    by_cases here : w = u
    · rw [setUser, if_pos here, lookup_cons, lookup_cons, here]
      split <;> rfl
    · rw [setUser, if_neg here, lookup_cons, lookup_cons, ih]
      by_cases same : v = w
      · rw [if_pos same, if_pos same, if_neg (same ▸ here)]
      · rw [if_neg same, if_neg same]

theorem lookup_filter (u v : String) (entries : List (String × Finset SessionKey)) :
    (entries.filter (·.1 ≠ u)).lookup v = if v = u then none else entries.lookup v := by
  induction entries with
  | nil => simp
  | cons entry rest ih =>
    obtain ⟨w, old⟩ := entry
    by_cases here : w = u
    · rw [List.filter_cons_of_neg (by simp [here]), ih, lookup_cons, here]
      split <;> rfl
    · rw [List.filter_cons_of_pos (by simp [here]), lookup_cons, lookup_cons, ih]
      by_cases same : v = w
      · rw [if_pos same, if_pos same, if_neg (same ▸ here)]
      · rw [if_neg same, if_neg same]

namespace State
variable {s : State}

theorem tracked_track (key : SessionKey) (u v : String) :
    (s.trackSession key u).tracked v =
      if v = u then insert key (s.tracked u) else s.tracked v := by
  by_cases same : v = u
  · simp [trackSession, tracked, lookup_setUser, same]
  · simp [trackSession, tracked, lookup_setUser, same]

theorem tracked_untrack (key : SessionKey) (u v : String) :
    (s.untrackSession key u).tracked v =
      if v = u then (s.tracked u).erase key else s.tracked v := by
  unfold untrackSession tracked
  cases known : s.userSessions.lookup u with
  | none =>
    by_cases same : v = u
    · simp [same, known]
    · simp [same]
  | some keys =>
    dsimp only
    by_cases empty : keys.erase key = ∅
    · rw [if_pos empty, lookup_filter]
      by_cases same : v = u
      · simp [same, empty]
      · simp [same]
    · rw [if_neg empty, lookup_setUser]
      by_cases same : v = u
      · simp [same]
      · simp [same]

theorem tracked_untrack_subset (key : SessionKey) (u v : String) :
    (s.untrackSession key u).tracked v ⊆ s.tracked v := by
  rw [tracked_untrack]
  split
  · next same => exact same ▸ Finset.erase_subset _ _
  · exact Finset.Subset.refl _

theorem tracked_of_owner {key : SessionKey} {u : String} (found : s.owner key = some u) :
    key ∈ s.tracked u := by
  simpa using List.find?_some found

end State

/-! What is claimed of the session manager. -/

structure Keeps (c : Config) (s : State) : Prop where
  union : ∀ key, key ∈ s.sessionKeys ↔ ∃ u, key ∈ s.tracked u
  limited : ∀ limit, c.limit = some limit → ∀ u, (s.tracked u).card ≤ limit
  spared : ∀ session ∈ s.deleted, session.data.pendingToolCalls = []

/-! When it is so. -/

def Work.call : Work → Option Call
  | .scanning call _ _ _ _ | .evicting call _ _ | .fetching call | .creating call => some call
  | .checking _ _ _ _ | .expiring _ _ _ _ => none

def Work.claims : Work → List (SessionKey × String)
  | .scanning call _ _ oldest key =>
    (call.ref.key, call.ref.userId) :: (key, call.ref.userId) ::
      oldest.toList.map fun best => (best.2.ref.key, best.2.ref.userId)
  | .evicting call session _ =>
    [(call.ref.key, call.ref.userId), (session.ref.key, session.ref.userId)]
  | .fetching call | .creating call => [(call.ref.key, call.ref.userId)]
  | .checking _ _ key userId => [(key, userId)]
  | .expiring _ _ session _ => [(session.ref.key, session.ref.userId)]

def answered : Option Answer → List Session
  | some (.session (some found)) => [found]
  | some (.session none) | some .raised | some .done | none => []

def Task.read (task : Task) : List Session :=
  match task.work with
  | .scanning _ _ _ oldest _ => oldest.toList.map (·.2) ++ answered task.answer
  | .checking _ _ _ _ => answered task.answer
  | .evicting _ session _ | .expiring _ _ session _ => [session]
  | .fetching _ | .creating _ => []

namespace State

def Claims (s : State) (key : SessionKey) (u : String) : Prop :=
  key ∈ s.tracked u ∨ ∃ t task, s.tasks t = some task ∧ (key, u) ∈ task.work.claims

def Calling (s : State) (t : Nat) (u : String) : Prop :=
  ∃ task, s.tasks t = some task ∧ ∃ call ∈ task.work.call, call.ref.userId = u

def Read (s : State) (ref : SessionRef) : Prop :=
  ∃ t task, s.tasks t = some task ∧ ∃ session ∈ task.read, session.ref = ref

end State

/-- A call starts while no other user claims its key and no other call of its user is under way;
an eviction that comes to the end of its search has found a session, one without pending calls;
and a session gets no pending calls while a task that has read it may delete it. -/
def Orderly (s : State) : Move → Prop
  | .getOrCreate _ call _ =>
    (∀ u, s.Claims call.ref.key u → u = call.ref.userId) ∧ ∀ t, ¬ s.Calling t call.ref.userId
  | .resume t none => ∀ call started visited oldest key answer,
    s.tasks t = some ⟨.scanning call started visited oldest key, some answer⟩ →
      ∃ best ∈ State.older oldest answer, best.2.data.pendingToolCalls = []
  | .serve t false _ => ∀ work ref pending, s.tasks t = some ⟨work, none⟩ →
    work.request = .createSession ref pending → pending = [] ∨ ¬ s.Read ref
  | .store ref data => data.pendingToolCalls = [] ∨ ¬ s.Read ref
  | .resume _ (some _) | .serve _ true _ | .cleanup _ _ _ | .cancel _ | .disappear _ => True

/-! The invariant. -/

def Fresh (s : State) (session : Session) : Prop :=
  session.data.pendingToolCalls = [] →
    ∀ data, s.service session.ref = some data → data.pendingToolCalls = []

/-- The call's key fits into the set of keys without exceeding the limit. -/
def Room (c : Config) (keys : Finset SessionKey) (key : SessionKey) : Prop :=
  ∀ limit, c.limit = some limit → (insert key keys).card ≤ limit

def Work.Fits (c : Config) (s : State) : Work → Prop
  | .scanning call started _ oldest key =>
    s.tracked call.ref.userId ⊆ started ∧ key ∈ started ∧
      ∀ best ∈ oldest, best.2.ref.key ∈ started ∧ best.2.ref.userId = call.ref.userId
  | .evicting call session _ =>
    session.ref.userId = call.ref.userId ∧ session.data.pendingToolCalls = [] ∧
      Room c ((s.tracked call.ref.userId).erase session.ref.key) call.ref.key
  | .fetching call | .creating call => Room c (s.tracked call.ref.userId) call.ref.key
  | .checking _ _ _ _ => True
  | .expiring _ _ session _ => session.data.pendingToolCalls = []

def Work.Answers : Work → Session → Prop
  | .scanning call _ _ _ key, session => session.ref = SessionKey.ref key call.ref.userId
  | .checking _ _ key userId, session => session.ref = SessionKey.ref key userId
  | .evicting _ _ _, _ | .fetching _, _ | .creating _, _ | .expiring _ _ _ _, _ => True

structure Task.Fits (c : Config) (s : State) (task : Task) : Prop where
  work : task.work.Fits c s
  fresh : ∀ session ∈ task.read, Fresh s session
  answer : ∀ session ∈ answered task.answer, task.work.Answers session

structure Inv (c : Config) (s : State) : Prop extends Keeps c s where
  exclusive : ∀ key u v, s.Claims key u → s.Claims key v → u = v
  single : ∀ t t' u, s.Calling t u → s.Calling t' u → t = t'
  fits : ∀ t task, s.tasks t = some task → task.Fits c s

theorem Room.mono {c : Config} {keys fewer : Finset SessionKey} {key : SessionKey}
    (room : Room c keys key) (subset : fewer ⊆ keys) : Room c fewer key := fun limit known =>
  (Finset.card_le_card (Finset.insert_subset_insert key subset)).trans (room limit known)

section
variable {c : Config} {s s' : State}

theorem Task.Fits.frame {task : Task} (fits : task.Fits c s)
    (shrinks : ∀ call ∈ task.work.call, s'.tracked call.ref.userId ⊆ s.tracked call.ref.userId)
    (calm : ∀ session ∈ task.read, Fresh s session → Fresh s' session) : task.Fits c s' := by
  refine ⟨?_, fun session member => calm session member (fits.fresh session member), fits.answer⟩
  obtain ⟨work, answer⟩ := task
  have before := fits.work
  cases work with
  | scanning call started visited oldest key =>
    exact ⟨(shrinks call rfl).trans before.1, before.2⟩
  | evicting call session remembered =>
    exact ⟨before.1, before.2.1, before.2.2.mono (Finset.erase_subset_erase _ (shrinks call rfl))⟩
  | fetching call => exact Room.mono before (shrinks call rfl)
  | creating call => exact Room.mono before (shrinks call rfl)
  | checking now rest key userId => trivial
  | expiring now rest session remembered => exact before

/-! Tasks. -/

@[simp] theorem tracked_setTask (t : Nat) (next : Option Task) (u : String) :
    (s.setTask t next).tracked u = s.tracked u := rfl

theorem tasks_setTask {t t' : Nat} {next : Option Task} {task : Task} :
    (s.setTask t next).tasks t' = some task ↔
      t' = t ∧ next = some task ∨ t' ≠ t ∧ s.tasks t' = some task := by
  by_cases same : t' = t
  · subst same
    simp [State.setTask]
  · simp [State.setTask, same]

theorem claims_setTask {t : Nat} {next : Option Task} {key : SessionKey} {u : String}
    (claims : (s.setTask t next).Claims key u) :
    s.Claims key u ∨ ∃ task ∈ next, (key, u) ∈ task.work.claims := by
  rcases claims with tracked | ⟨t', task, known, claimed⟩
  · exact .inl (.inl tracked)
  · rcases tasks_setTask.mp known with ⟨_, rfl⟩ | ⟨_, before⟩
    · exact .inr ⟨task, rfl, claimed⟩
    · exact .inl (.inr ⟨t', task, before, claimed⟩)

theorem calling_setTask {t t' : Nat} {next : Option Task} {u : String}
    (calling : (s.setTask t next).Calling t' u) :
    t' ≠ t ∧ s.Calling t' u ∨
      t' = t ∧ ∃ task ∈ next, ∃ call ∈ task.work.call, call.ref.userId = u := by
  obtain ⟨task, known, call, mine, same⟩ := calling
  rcases tasks_setTask.mp known with ⟨here, rfl⟩ | ⟨other, before⟩
  · exact .inr ⟨here, task, rfl, call, mine, same⟩
  · exact .inl ⟨other, task, before, call, mine, same⟩

/-- A task goes over to another one, whose claims no other user has and whose user no other task
is calling for. -/
theorem Inv.setTask (inv : Inv c s) {t : Nat} {next : Option Task}
    (claims : ∀ task ∈ next, ∀ claim ∈ task.work.claims,
      (∀ v, s.Claims claim.1 v → v = claim.2) ∧
        ∀ other ∈ task.work.claims, other.1 = claim.1 → other.2 = claim.2)
    (calls : ∀ task ∈ next, ∀ call ∈ task.work.call, ∀ t', s.Calling t' call.ref.userId → t' = t)
    (fits : ∀ task ∈ next, task.Fits c s) : Inv c (s.setTask t next) where
  union := inv.union
  limited := inv.limited
  spared := inv.spared
  exclusive key u v first second := by
    rcases claims_setTask first with first | ⟨task, known, first⟩
    · rcases claims_setTask second with second | ⟨task, known, second⟩
      · exact inv.exclusive key u v first second
      · exact (claims task known _ second).1 u first
    · rcases claims_setTask second with second | ⟨task', known', second⟩
      · exact ((claims task known _ first).1 v second).symm
      · cases Option.mem_unique known known'
        exact (claims task known _ second).2 _ first rfl
  single t₁ t₂ u first second := by
    rcases calling_setTask first with ⟨_, first⟩ | ⟨here, task, known, call, mine, same⟩
    · rcases calling_setTask second with ⟨_, second⟩ | ⟨here, task, known, call, mine, same⟩
      · exact inv.single t₁ t₂ u first second
      · rw [here]
        exact calls task known call mine t₁ (same ▸ first)
    · rcases calling_setTask second with ⟨_, second⟩ | ⟨there, _⟩
      · rw [here]
        exact (calls task known call mine t₂ (same ▸ second)).symm
      · rw [here, there]
  fits t' task known := by
    rcases tasks_setTask.mp known with ⟨_, rfl⟩ | ⟨_, before⟩
    · exact (fits task rfl).frame (fun _ _ => Finset.Subset.refl _) fun _ _ fresh => fresh
    · exact (inv.fits t' task before).frame (fun _ _ => Finset.Subset.refl _) fun _ _ fresh => fresh

theorem Inv.finish (inv : Inv c s) (t : Nat) : Inv c (s.finish t) :=
  have none : ∀ task : Task, task ∉ (none : Option Task) := fun _ member => by cases member
  inv.setTask (fun task known => absurd known (none task)) (fun task known => absurd known (none task))
    fun task known => absurd known (none task)

theorem Inv.goOn (inv : Inv c s) {t : Nat} {old next : Task} (known : s.tasks t = some old)
    (claims : ∀ claim ∈ next.work.claims, s.Claims claim.1 claim.2)
    (call : ∀ call ∈ next.work.call, call ∈ old.work.call) (fits : next.Fits c s) :
    Inv c (s.setTask t (some next)) := by
  refine inv.setTask ?_ ?_ ?_
  · rintro _ ⟨⟩ claim member
    refine ⟨fun v other => inv.exclusive _ _ _ other (claims claim member),
      fun other inside same => inv.exclusive claim.1 _ _ ?_ (claims claim member)⟩
    exact same ▸ claims other inside
  · rintro _ ⟨⟩ mine member t' calling
    exact inv.single t' t _ calling ⟨old, known, mine, call mine member, rfl⟩
  · rintro _ ⟨⟩
    exact fits

/-! Tracking. -/

theorem claims_of_task {t : Nat} {task : Task} (known : s.tasks t = some task)
    {claim : SessionKey × String} (member : claim ∈ task.work.claims) :
    s.Claims claim.1 claim.2 := .inr ⟨t, task, known, member⟩

theorem Inv.untrack (inv : Inv c s) {key : SessionKey} {u : String} (claimed : s.Claims key u) :
    Inv c (s.untrackSession key u) := by
  have fewer : ∀ k v, (s.untrackSession key u).Claims k v → s.Claims k v := by
    rintro k v (tracked | ⟨t, task, known, member⟩)
    · exact .inl (State.tracked_untrack_subset key u v tracked)
    · exact .inr ⟨t, task, known, member⟩
  constructor
  · constructor
    · intro k
      have erased : k ∈ (s.untrackSession key u).sessionKeys ↔ k ≠ key ∧ k ∈ s.sessionKeys :=
        Finset.mem_erase
      rw [erased, inv.union k]
      constructor
      · rintro ⟨other, v, tracked⟩
        refine ⟨v, ?_⟩
        rw [State.tracked_untrack]
        split
        · next same => exact Finset.mem_erase.mpr ⟨other, same ▸ tracked⟩
        · exact tracked
      · rintro ⟨v, tracked⟩
        have before := State.tracked_untrack_subset key u v tracked
        refine ⟨?_, v, before⟩
        rintro rfl
        have same := inv.exclusive k v u (.inl before) claimed
        rw [State.tracked_untrack, if_pos same] at tracked
        exact (Finset.mem_erase.mp tracked).1 rfl
    · intro limit known v
      exact (Finset.card_le_card (State.tracked_untrack_subset key u v)).trans
        (inv.limited limit known v)
    · exact inv.spared
  · exact fun k v w first second => inv.exclusive k v w (fewer k v first) (fewer k w second)
  · exact inv.single
  · intro t task known
    exact (inv.fits t task known).frame
      (fun call _ => State.tracked_untrack_subset key u call.ref.userId) fun _ _ fresh => fresh

theorem Inv.track (inv : Inv c s) {t : Nat} {task : Task} {call : Call}
    (known : s.tasks t = some task) (mine : call ∈ task.work.call)
    (claim : (call.ref.key, call.ref.userId) ∈ task.work.claims)
    (room : Room c (s.tracked call.ref.userId) call.ref.key) :
    Inv c ((s.trackSession call.ref.key call.ref.userId).finish t) := by
  have done := inv.finish t
  have claimed : s.Claims call.ref.key call.ref.userId := claims_of_task known claim
  have before : ∀ k v, ((s.trackSession call.ref.key call.ref.userId).finish t).Claims k v →
      s.Claims k v := by
    rintro k v (tracked | ⟨t', other, there, member⟩)
    · rw [State.finish, tracked_setTask, State.tracked_track] at tracked
      split at tracked
      · next same =>
        rcases Finset.mem_insert.mp tracked with rfl | old
        · exact same ▸ claimed
        · exact .inl (same ▸ old)
      · exact .inl tracked
    · rcases tasks_setTask.mp there with ⟨_, none⟩ | ⟨_, there⟩
      · cases none
      · exact .inr ⟨t', other, there, member⟩
  constructor
  · constructor
    · intro k
      have inserted : k ∈ (s.trackSession call.ref.key call.ref.userId).sessionKeys ↔
          k = call.ref.key ∨ k ∈ s.sessionKeys := Finset.mem_insert
      refine inserted.trans ?_
      simp only [State.finish, tracked_setTask, State.tracked_track]
      constructor
      · rintro (rfl | old)
        · exact ⟨call.ref.userId, by simp⟩
        · obtain ⟨v, tracked⟩ := (inv.union k).mp old
          refine ⟨v, ?_⟩
          split
          · next same => exact Finset.mem_insert_of_mem (same ▸ tracked)
          · exact tracked
      · rintro ⟨v, tracked⟩
        split at tracked
        · rcases Finset.mem_insert.mp tracked with same | old
          · exact .inl same
          · exact .inr ((inv.union k).mpr ⟨_, old⟩)
        · exact .inr ((inv.union k).mpr ⟨v, tracked⟩)
    · intro limit bound v
      rw [State.finish, tracked_setTask, State.tracked_track]
      split
      · exact room limit bound
      · exact inv.limited limit bound v
    · exact inv.spared
  · exact fun k v w first second => inv.exclusive k v w (before k v first) (before k w second)
  · exact done.single
  · intro t' other there
    rcases tasks_setTask.mp there with ⟨_, none⟩ | ⟨apart, there⟩
    · cases none
    · refine (inv.fits t' other there).frame (fun call' theirs => ?_) fun _ _ fresh => fresh
      rw [State.finish, tracked_setTask, State.tracked_track]
      have differ : call'.ref.userId ≠ call.ref.userId := fun same =>
        apart (inv.single t' t call.ref.userId ⟨other, there, call', theirs, same⟩
          ⟨task, known, call, mine, rfl⟩)
      rw [if_neg differ]

/-! The service. -/

theorem Inv.setSession (inv : Inv c s) {ref : SessionRef} {data : Option SessionData}
    (calm : (∀ d ∈ data, d.pendingToolCalls = []) ∨ ¬ s.Read ref) :
    Inv c (s.setSession ref data) where
  union := inv.union
  limited := inv.limited
  spared := inv.spared
  exclusive := inv.exclusive
  single := inv.single
  fits t task known := by
    refine (inv.fits t task known).frame (fun _ _ => Finset.Subset.refl _) ?_
    intro session member fresh empty d stored
    by_cases same : session.ref = ref
    · have here : data = some d := by simpa [State.setSession, same] using stored
      rcases calm with calm | unread
      · exact calm d here
      · exact absurd ⟨t, task, known, session, member, same⟩ unread
    · exact fresh empty d (by simpa [State.setSession, same] using stored)

/-! The parts of a task. -/

theorem Inv.sweep (inv : Inv c s) (t : Nat) (now : ℚ) (keys : List SessionKey) :
    Inv c (s.sweep t now keys) := by
  induction keys with
  | nil => exact inv.finish t
  | cons key rest ih =>
    rw [State.sweep]
    split
    · next userId found =>
      split
      · exact ih
      · apply inv.setTask
        · rintro _ ⟨⟩ claim member
          cases List.mem_singleton.mp member
          refine ⟨fun v other => inv.exclusive _ _ _ other
            (.inl (State.tracked_of_owner found)), fun other member _ => ?_⟩
          rw [List.mem_singleton.mp member]
        · rintro _ ⟨⟩ call ⟨⟩
        · rintro _ ⟨⟩
          exact ⟨trivial, nofun, nofun⟩
    · exact ih

theorem Inv.setCall (inv : Inv c s) {t : Nat} {u : String} {next : Task}
    (claims : ∀ claim ∈ next.work.claims, claim.2 = u ∧ ∀ v, s.Claims claim.1 v → v = u)
    (calls : ∀ call ∈ next.work.call, call.ref.userId = u) (alone : ∀ t', s.Calling t' u → t' = t)
    (fits : next.Fits c s) : Inv c (s.setTask t (some next)) := by
  apply inv.setTask
  · rintro _ ⟨⟩ claim member
    obtain ⟨mine, own⟩ := claims claim member
    refine ⟨fun v other => (own v other).trans mine.symm, fun other inside _ => ?_⟩
    exact (claims other inside).1.trans mine.symm
  · rintro _ ⟨⟩ call member t' calling
    exact alone t' (calls call member ▸ calling)
  · rintro _ ⟨⟩
    exact fits

structure Candidate (s : State) (started : Finset SessionKey) (u : String) (session : Session) :
    Prop where
  key : session.ref.key ∈ started
  user : session.ref.userId = u
  claimed : s.Claims session.ref.key u
  fresh : Fresh s session

theorem Inv.scan (inv : Inv c s) {t : Nat} {call : Call} {started visited : Finset SessionKey}
    {oldest : Option (ℚ × Session)} {next : Option SessionKey}
    (own : ∀ v, s.Claims call.ref.key v → v = call.ref.userId)
    (alone : ∀ t', s.Calling t' call.ref.userId → t' = t)
    (within : s.tracked call.ref.userId ⊆ started)
    (candidates : ∀ best ∈ oldest, Candidate s started call.ref.userId best.2)
    (found : next = none → s.tracked call.ref.userId = started → started ⊆ visited →
      ∃ best ∈ oldest, best.2.data.pendingToolCalls = []) :
    Inv c (s.scan c t call started visited oldest next) := by
  unfold State.scan
  dsimp only
  split
  · exact inv.finish t
  · next size =>
    have same : s.tracked call.ref.userId = started :=
      Finset.eq_of_subset_of_card_le within (not_not.mp size).ge
    cases next with
    | some key =>
      dsimp only
      split
      · next inside =>
        have tracked : s.Claims key call.ref.userId := .inl inside.1
        refine inv.setCall ?_ (by rintro _ ⟨⟩; rfl) alone ⟨⟨within, same ▸ inside.1, fun best member =>
          ⟨(candidates best member).key, (candidates best member).user⟩⟩, ?_,
          by rintro _ ⟨⟩⟩
        · intro claim member
          simp only [Work.claims, List.mem_cons, List.mem_map, Option.mem_toList] at member
          rcases member with rfl | rfl | ⟨best, member, rfl⟩
          · exact ⟨rfl, own⟩
          · exact ⟨rfl, fun v other => inv.exclusive _ _ _ other tracked⟩
          · have candidate := candidates best member
            exact ⟨candidate.user, fun v other => inv.exclusive _ _ _ other candidate.claimed⟩
        · intro session member
          simp only [Task.read, answered, List.append_nil, List.mem_map, Option.mem_toList] at member
          obtain ⟨best, member, rfl⟩ := member
          exact (candidates best member).fresh
      · exact inv
    | none =>
      dsimp only
      split
      · next visits =>
        obtain ⟨⟨time, session⟩, rfl, empty⟩ := found rfl same
          (visits.resolve_right (not_not.mpr same))
        have candidate := candidates _ rfl
        have inside : session.ref.key ∈ s.tracked call.ref.userId := same ▸ candidate.key
        refine inv.setCall ?_ (by rintro _ ⟨⟩; rfl) alone
          ⟨⟨candidate.user, empty, fun limit known => ?_⟩, ?_,
          by rintro _ ⟨⟩⟩
        · intro claim member
          simp only [Work.claims, List.mem_cons, List.not_mem_nil, or_false] at member
          rcases member with rfl | rfl
          · exact ⟨rfl, own⟩
          · exact ⟨candidate.user, fun v other => inv.exclusive _ _ _ other candidate.claimed⟩
        · have bound := inv.limited limit known call.ref.userId
          have fewer := Finset.card_erase_add_one inside
          have more := Finset.card_insert_le call.ref.key
            ((s.tracked call.ref.userId).erase session.ref.key)
          omega
        · intro other member
          cases List.mem_singleton.mp member
          exact candidate.fresh
      · exact inv

theorem Inv.begin (inv : Inv c s) {t : Nat} {call : Call} {next : Option SessionKey}
    (own : ∀ v, s.Claims call.ref.key v → v = call.ref.userId)
    (alone : ∀ t, ¬ s.Calling t call.ref.userId) : Inv c (s.begin c t call next) := by
  have fetches (room : Room c (s.tracked call.ref.userId) call.ref.key) :
      Inv c (s.await t (.fetching call)) := by
    refine inv.setCall ?_ (by rintro _ ⟨⟩; rfl) (fun t' calling => absurd calling (alone t'))
      ⟨room, nofun, nofun⟩
    intro claim member
    cases List.mem_singleton.mp member
    exact ⟨rfl, own⟩
  unfold State.begin
  split
  · next limit known =>
    have positive : limit ≠ 0 := by
      simp only [Config.limit, Option.filter_eq_some_iff, decide_eq_true_eq] at known
      exact known.2
    split
    · next full =>
      refine inv.scan own (fun t' calling => absurd calling (alone t')) (Finset.Subset.refl _)
        nofun ?_
      intro _ _ nothing
      have empty := Finset.card_eq_zero.mpr (Finset.subset_empty.mp nothing)
      omega
    · next fits =>
      apply fetches
      intro bound same
      cases known.symm.trans same
      by_cases kept : call.ref.key ∈ s.sessionKeys
      · obtain ⟨v, tracked⟩ := (inv.union _).mp kept
        have mine := own v (.inl tracked)
        rw [Finset.insert_eq_of_mem (mine ▸ tracked)]
        exact inv.limited limit known _
      · have free : (s.tracked call.ref.userId).card < limit := by
          by_contra full
          exact fits ⟨kept, not_lt.mp full⟩
        exact (Finset.card_insert_le _ _).trans free
  · next unlimited =>
    apply fetches
    intro bound same
    rw [unlimited] at same
    cases same

theorem older_cases {oldest : Option (ℚ × Session)} {answer : Answer} {best : ℚ × Session}
    (member : best ∈ State.older oldest answer) :
    best ∈ oldest ∨ best.2 ∈ answered (some answer) := by
  cases answer with
  | raised => exact .inl member
  | done => exact .inl member
  | session found =>
    cases found with
    | none => exact .inl member
    | some session =>
      simp only [State.older] at member
      split at member
      · split at member
        · cases member
          exact .inr List.mem_cons_self
        · exact .inl member
      · exact .inl member

theorem Inv.resume_scan (inv : Inv c s) {t : Nat} {call : Call}
    {started visited : Finset SessionKey} {oldest : Option (ℚ × Session)} {key : SessionKey}
    {answer : Answer} {next : Option SessionKey}
    (known : s.tasks t = some ⟨.scanning call started visited oldest key, some answer⟩)
    (found : next = none → ∃ best ∈ State.older oldest answer,
      best.2.data.pendingToolCalls = []) :
    Inv c (s.scan c t call started (insert key visited) (State.older oldest answer) next) := by
  have fits := inv.fits t _ known
  obtain ⟨within, inside, before⟩ := fits.work
  have claims := @claims_of_task s t _ known
  refine inv.scan (fun v other => inv.exclusive _ _ _ other (claims List.mem_cons_self))
    (fun t' calling => inv.single t' t _ calling ⟨_, known, call, rfl, rfl⟩) within
    (fun best member => ?_) fun last _ _ => found last
  rcases older_cases member with old | new
  · obtain ⟨held, user⟩ := before best old
    have claimed := @claims (best.2.ref.key, best.2.ref.userId) (by
      simp only [Work.claims, List.mem_cons, List.mem_map, Option.mem_toList]
      exact .inr (.inr ⟨best, old, rfl⟩))
    refine ⟨held, user, user ▸ claimed, fits.fresh best.2 ?_⟩
    simp only [Task.read, List.mem_append, List.mem_map, Option.mem_toList]
    exact .inl ⟨best, old, rfl⟩
  · have asked : best.2.ref = SessionKey.ref key call.ref.userId := fits.answer best.2 new
    have claimed := @claims (key, call.ref.userId) (by simp [Work.claims])
    have same : best.2.ref.key = key := by rw [asked, SessionKey.ref_key]
    refine ⟨same ▸ inside, by rw [asked]; rfl, same.symm ▸ claimed, fits.fresh best.2 ?_⟩
    simp only [Task.read, List.mem_append]
    exact .inr new

theorem Inv.resume (inv : Inv c s) {t : Nat} {work : Work} {answer : Answer}
    {next : Option SessionKey} (known : s.tasks t = some ⟨work, some answer⟩)
    (found : ∀ call started visited oldest key, work = .scanning call started visited oldest key →
      next = none → ∃ best ∈ State.older oldest answer, best.2.data.pendingToolCalls = []) :
    Inv c (s.resume c t work answer next) := by
  have fits := inv.fits t _ known
  have claims := @claims_of_task s t _ known
  cases work with
  | scanning call started visited oldest key =>
    exact inv.resume_scan known (found call started visited oldest key rfl)
  | evicting call session remembered =>
    obtain ⟨user, empty, room⟩ := fits.work
    cases remembered with
    | false =>
      exact inv.goOn known (fun claim member => claims member) (fun _ member => member)
        ⟨⟨user, empty, room⟩, fits.fresh, by rintro _ ⟨⟩⟩
    | true =>
      have untracked := inv.untrack (@claims (session.ref.key, session.ref.userId) (by
        simp [Work.claims]))
      refine untracked.goOn (show _ = some ⟨.evicting call session true, some answer⟩ from known) ?_
        (fun _ member => member) ⟨?_, by rintro _ ⟨⟩, by rintro _ ⟨⟩⟩
      · intro claim member
        cases List.mem_singleton.mp member
        exact claims_of_task (s := s.untrackSession session.ref.key session.ref.userId) known
          List.mem_cons_self
      · show Room c ((s.untrackSession session.ref.key session.ref.userId).tracked call.ref.userId)
          call.ref.key
        rw [State.tracked_untrack, if_pos user.symm, user]
        exact room
  | fetching call =>
    cases answer with
    | raised => exact inv.finish t
    | done => exact inv.finish t
    | session answer =>
      cases answer with
      | none =>
        exact inv.goOn known (fun claim member => claims member) (fun _ member => member)
          ⟨fits.work, by rintro _ ⟨⟩, by rintro _ ⟨⟩⟩
      | some session => exact inv.track known rfl List.mem_cons_self fits.work
  | creating call =>
    cases answer with
    | raised => exact inv.finish t
    | done => exact inv.finish t
    | session answer => exact inv.track known rfl List.mem_cons_self fits.work
  | checking now rest key userId =>
    cases answer with
    | raised => exact inv.sweep t now rest
    | done => exact inv.sweep t now rest
    | session answer =>
      cases answer with
      | none => exact (inv.untrack (@claims (key, userId) List.mem_cons_self)).sweep t now rest
      | some session =>
        simp only [State.resume]
        split
        · split
          · next expired =>
            have asked : session.ref = SessionKey.ref key userId :=
              fits.answer session List.mem_cons_self
            refine inv.goOn known ?_ (by rintro _ ⟨⟩) ⟨expired.2, fits.fresh, by rintro _ ⟨⟩⟩
            intro claim member
            cases List.mem_singleton.mp member
            rw [asked, SessionKey.ref_key]
            exact claims List.mem_cons_self
          · exact inv.sweep t now rest
        · exact inv.sweep t now rest
  | expiring now rest session remembered =>
    cases remembered with
    | false =>
      exact inv.goOn known (fun claim member => claims member) (by rintro _ ⟨⟩)
        ⟨fits.work, fits.fresh, by rintro _ ⟨⟩⟩
    | true =>
      exact (inv.untrack (@claims (session.ref.key, session.ref.userId)
        List.mem_cons_self)).sweep t now rest

/-! The answers of the service. -/

theorem Inv.answer (inv : Inv c s) {t : Nat} {work : Work} {answer : Answer}
    (known : s.tasks t = some ⟨work, none⟩)
    (sessions : ∀ session ∈ answered (some answer), work.Answers session ∧ Fresh s session) :
    Inv c (s.setTask t (some ⟨work, some answer⟩)) := by
  have fits := inv.fits t _ known
  refine inv.goOn known (fun claim member => claims_of_task known member) (fun _ member => member)
    ⟨fits.work, fun session member => ?_, fun session member => (sessions session member).1⟩
  have before := fits.fresh session
  cases work with
  | scanning call started visited oldest key =>
    rcases List.mem_append.mp member with old | new
    · exact before (List.mem_append_left _ old)
    · exact (sessions session new).2
  | checking now rest key userId => exact (sessions session member).2
  | evicting call held remembered => exact before member
  | expiring now rest held remembered => exact before member
  | fetching call => cases member
  | creating call => cases member

theorem fresh_of_stored {session : Session} (stored : s.service session.ref = some session.data) :
    Fresh s session := by
  intro empty data known
  cases stored.symm.trans known
  exact empty

theorem Inv.deletes (inv : Inv c s) {t : Nat} {work : Work} {ref : SessionRef} {data : SessionData}
    (known : s.tasks t = some ⟨work, none⟩) (request : work.request = .deleteSession ref)
    (stored : s.service ref = some data) : data.pendingToolCalls = [] := by
  have fits := inv.fits t _ known
  cases work with
  | scanning call started visited oldest key => cases request
  | fetching call => cases request
  | creating call => cases request
  | checking now rest key userId => cases request
  | evicting call session remembered =>
    cases remembered with
    | false => cases request
    | true =>
      cases request
      exact fits.fresh session List.mem_cons_self fits.work.2.1 data stored
  | expiring now rest session remembered =>
    cases remembered with
    | false => cases request
    | true =>
      cases request
      exact fits.fresh session List.mem_cons_self fits.work data stored

theorem Inv.serve (inv : Inv c s) {t : Nat} {work : Work} {raises : Bool} {now : ℚ}
    (known : s.tasks t = some ⟨work, none⟩)
    (calm : raises = false → ∀ ref pending, work.request = .createSession ref pending →
      pending = [] ∨ ¬ s.Read ref) : Inv c (s.serve t work raises now) := by
  unfold State.serve
  dsimp only
  split
  · exact inv.answer known nofun
  · next acts =>
    cases request : work.request with
    | getSession ref =>
      refine inv.answer known fun session member => ?_
      cases stored : s.service ref with
      | none => rw [stored] at member; cases member
      | some data =>
        rw [stored] at member
        cases List.mem_singleton.mp member
        refine ⟨?_, fresh_of_stored stored⟩
        cases work with
        | scanning call started visited oldest key => cases request; rfl
        | checking now rest key userId => cases request; rfl
        | evicting call session remembered => trivial
        | fetching call => trivial
        | creating call => trivial
        | expiring now rest session remembered => trivial
    | createSession ref pending =>
      have stored : Inv c (s.setSession ref (some ⟨some now, pending⟩)) := by
        refine inv.setSession ?_
        rcases calm (by simpa using acts) ref pending request with empty | unread
        · left
          rintro _ ⟨⟩
          exact empty
        · exact .inr unread
      refine stored.answer known fun session member => ?_
      cases List.mem_singleton.mp member
      refine ⟨?_, fresh_of_stored (by simp [State.setSession])⟩
      cases work with
      | creating call => trivial
      | scanning call started visited oldest key => cases request
      | fetching call => cases request
      | checking now rest key userId => cases request
      | evicting call session remembered => trivial
      | expiring now rest session remembered => trivial
    | addSessionToMemory => exact inv.answer known nofun
    | deleteSession ref =>
      dsimp only
      split
      · next data stored =>
        have empty := inv.deletes known request stored
        have logged : Inv c { s with deleted := ⟨ref, data⟩ :: s.deleted } := by
          refine ⟨⟨inv.union, inv.limited, ?_⟩, inv.exclusive, inv.single, fun t' task there =>
            (inv.fits t' task there).frame (fun _ _ => Finset.Subset.refl _) fun _ _ fresh => fresh⟩
          intro session member
          rcases List.mem_cons.mp member with rfl | before
          · exact empty
          · exact inv.spared session before
        have gone : Inv c (State.setSession _ ref none) := logged.setSession (.inl nofun)
        exact gone.answer known nofun
      · exact inv.answer known nofun

/-! Runs. -/

theorem Inv.step (inv : Inv c s) {move : Move} (orderly : Orderly s move) :
    Inv c (step c s move) := by
  cases move with
  | getOrCreate t call next =>
    simp only [Sessions.step]
    split
    · exact inv.begin orderly.1 orderly.2
    · exact inv
  | cleanup t now keys =>
    simp only [Sessions.step]
    split
    · exact inv.sweep t now keys
    · exact inv
  | serve t raises now =>
    simp only [Sessions.step]
    split
    · next work known =>
      refine inv.serve known fun acts ref pending request => ?_
      subst acts
      exact orderly work ref pending known request
    · exact inv
    · exact inv
  | resume t next =>
    simp only [Sessions.step]
    split
    · next work answer known =>
      refine inv.resume known ?_
      rintro call started visited oldest key rfl rfl
      exact orderly call started visited oldest key answer known
    · exact inv
    · exact inv
  | cancel t => exact inv.finish t
  | store ref data =>
    refine inv.setSession ?_
    rcases orderly with empty | unread
    · left
      rintro _ ⟨⟩
      exact empty
    · exact .inr unread
  | disappear ref => exact inv.setSession (.inl nofun)

end

/-- A manager that tracks nothing yet, beside whatever the service holds. -/
def State.initial (service : SessionRef → Option SessionData) : State := { service }

theorem inv_initial (c : Config) (service : SessionRef → Option SessionData) :
    Inv c (State.initial service) where
  union key := by simp [State.initial, State.tracked]
  limited limit _ u := by simp [State.initial, State.tracked]
  spared := nofun
  exclusive key u v first := by
    rcases first with tracked | ⟨t, task, known, _⟩
    · simp [State.initial, State.tracked] at tracked
    · cases known
  single t t' u := by
    rintro ⟨task, known, _⟩
    cases known
  fits t task := nofun

/-- After a run of orderly moves the key set is the union of the users' sets, every limit is kept,
and no session was deleted that had pending calls. -/
theorem tracking_kept (c : Config) (service : SessionRef → Option SessionData) (moves : List Move)
    (orderly : Runs.Along (step c) Orderly (State.initial service) moves) :
    (∀ key, key ∈ (run c (State.initial service) moves).sessionKeys ↔
      ∃ u, key ∈ (run c (State.initial service) moves).tracked u) ∧
    (∀ limit, c.limit = some limit → ∀ u,
      ((run c (State.initial service) moves).tracked u).card ≤ limit) ∧
    ∀ session ∈ (run c (State.initial service) moves).deleted,
      session.data.pendingToolCalls = [] := by
  have inv : Inv c (run c (State.initial service) moves) :=
    Runs.along_invariant (step c) (fun _ _ inv orderly => inv.step orderly)
      (inv_initial c service) moves orderly
  exact ⟨inv.union, inv.limited, inv.spared⟩

namespace Sample

def config : Config := { maxSessionsPerUser := some 1 }

def first : Call := { ref := ⟨"app", "first", "user"⟩ }

def second : Call := { ref := ⟨"app", "second", "user"⟩ }

def creation : List Move :=
  [.getOrCreate 0 first none, .serve 0 false 0, .resume 0 none, .serve 0 false 0, .resume 0 none]

/-- The session gets a pending call, and its user asks for another session. -/
def eviction : List Move :=
  [.store first.ref ⟨some 0, ["approval"]⟩, .getOrCreate 1 second (some first.ref.key),
   .serve 1 false 0, .resume 1 none, .serve 1 false 0]

end Sample

/-- A first session within a limit of one. -/
theorem tracking_kept_creation :
    (∀ key, key ∈ (run Sample.config (State.initial fun _ => none) Sample.creation).sessionKeys ↔
      ∃ u, key ∈ (run Sample.config (State.initial fun _ => none) Sample.creation).tracked u) ∧
    (∀ limit, Sample.config.limit = some limit → ∀ u,
      ((run Sample.config (State.initial fun _ => none) Sample.creation).tracked u).card ≤ limit) ∧
    ∀ session ∈ (run Sample.config (State.initial fun _ => none) Sample.creation).deleted,
      session.data.pendingToolCalls = [] := by
  apply tracking_kept
  refine ⟨⟨fun u claims => ?_, fun t calling => ?_⟩, ?_, ?_, ?_, ?_, trivial⟩
  · rcases claims with tracked | ⟨t, task, known, _⟩
    · simp [State.initial, State.tracked] at tracked
    · cases known
  · obtain ⟨task, known, _⟩ := calling
    cases known
  · rintro work ref pending known request
    cases known
    cases request
  · rintro call started visited oldest key answer known
    cases known
  · rintro work ref pending known request
    cases known
    cases request
    exact .inl rfl
  · rintro call started visited oldest key answer known
    cases known

/-- The eviction deletes a session with a pending call, which the cleanup would have kept. -/
theorem pending_session_evicted :
    ¬ ((∀ key, key ∈ (run Sample.config (State.initial fun _ => none)
        (Sample.creation ++ Sample.eviction)).sessionKeys ↔
      ∃ u, key ∈ (run Sample.config (State.initial fun _ => none)
        (Sample.creation ++ Sample.eviction)).tracked u) ∧
    (∀ limit, Sample.config.limit = some limit → ∀ u,
      ((run Sample.config (State.initial fun _ => none)
        (Sample.creation ++ Sample.eviction)).tracked u).card ≤ limit) ∧
    ∀ session ∈ (run Sample.config (State.initial fun _ => none)
      (Sample.creation ++ Sample.eviction)).deleted, session.data.pendingToolCalls = []) := by
  rintro ⟨_, _, spared⟩
  have deleted : (run Sample.config (State.initial fun _ => none)
      (Sample.creation ++ Sample.eviction)).deleted =
        [⟨Sample.first.ref, ⟨some 0, ["approval"]⟩⟩] := by decide
  rw [deleted] at spared
  cases spared _ List.mem_cons_self

end NetworkAgent.Sessions
