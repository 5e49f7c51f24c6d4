import NetworkAgent.Governance.Expired

/-! Any number of calls of the engine at once on one repository. Between two operations of a call
the others may do whatever they do, and a call may stop there for good. -/
namespace NetworkAgent.Governance

abbrev Calls : Type := Program.System Memory Task Op Op.Answer
  (Except GovernanceError GovernanceResult)

/-- A call starts, or one that was started makes its next operation at a reading of the clock. -/
abbrev Turn : Type := Program.Move Task Instant

def Engine.together (g : Engine) (start : Memory) (turns : List Turn) : Calls :=
  Program.System.run g.exec (Task.code g) { shared := start } turns

def readingOf : Turn → Option Instant
  | .start _ => none
  | .step _ now => some now

def Steady (turns : List Turn) : Prop := (turns.filterMap readingOf).Pairwise (· ≤ ·)

/-- What a call may have read of the clock by then, the latest first. -/
structure Seen (turns : List Turn) (past : List Instant) : Prop where
  read : past ⊆ turns.filterMap readingOf
  ordered : Steady turns → past.Pairwise (· ≥ ·)

theorem Seen.onward {turns : List Turn} {past : List Instant} (seen : Seen turns past)
    (turn : Turn) : Seen (turns ++ [turn]) past where
  read t member := by
    rw [List.filterMap_append]
    exact List.mem_append_left _ (seen.read member)
  ordered steady := by
    rw [Steady, List.filterMap_append] at steady
    exact seen.ordered (List.pairwise_append.mp steady).1

theorem Seen.reads {turns : List Turn} {past : List Instant} (seen : Seen turns past) (n : Nat)
    (now : Instant) : Seen (turns ++ [.step n now]) (now :: past) where
  read := by
    intro t member
    rw [List.filterMap_append]
    rcases List.mem_cons.mp member with rfl | before
    · exact List.mem_append_right _ (by simp [readingOf])
    · exact List.mem_append_left _ (seen.read before)
  ordered steady := by
    rw [Steady, List.filterMap_append] at steady
    obtain ⟨first, _, apart⟩ := List.pairwise_append.mp steady
    refine List.pairwise_cons.mpr ⟨?_, seen.ordered first⟩
    intro t member
    exact apart t (seen.read member) now (by simp [readingOf])

section
variable {g : Engine} {start : Memory}

theorem together_append (turns : List Turn) (turn : Turn) :
    g.together start (turns ++ [turn]) =
      (g.together start turns).move g.exec (Task.code g) turn := by
  rw [Engine.together, Program.System.run, Runs.run_append]
  rfl

/-- Every call keeps to what it may do, whatever the others do. -/
theorem together_kept (sound : start.Sound g.toHost) (turns : List Turn) :
    (g.together start turns).Kept g.exec logReading (fun m => m.Sound g.toHost)
      (Memory.Later g.toHost) (Allowed g) (Seen turns) := by
  induction turns using List.reverseRecOn with
  | nil => exact ⟨sound, by simp [Engine.together, Program.System.run, Runs.run]⟩
  | append_singleton turns turn ih =>
    rw [together_append]
    apply ih.move (Memory.Later.refl g.toHost) (fun _ _ _ => .trans)
    · exact fun m now op sound => ⟨exec_sound g m now op sound, exec_later g m now op⟩
    · intro task m _
      exact ⟨[], ⟨by simp, by simp⟩, guarded_task g task [] m⟩
    · exact fun past seen => seen.onward turn
    · rintro n now rfl past op seen
      cases op with
      | now => exact seen.reads n now
      | analyze | repository => exact seen.onward _

/-- What a turn makes of a stored incident: what one call writes about it, or nothing. -/
theorem turn_writes (sound : start.Sound g.toHost) {turns : List Turn} {turn : Turn}
    {i f : Incident} (before : (g.together start turns).shared.incidents.lookup
      f.incidentId.text = some i)
    (after : (g.together start (turns ++ [turn])).shared.incidents.lookup f.incidentId.text =
      some f) :
    f = i ∨ ∃ n now task op next past target w u, turn = .step n now ∧
      (g.together start turns).tasks[n]? = some (task, .call op next) ∧ Seen turns past ∧
      Writes g task past i target w u ∧ transitionIncident g.toHost i target i.revision
        (.given now) (.given now) u = .ok f := by
  have kept := together_kept (g := g) sound turns
  rw [together_append] at after
  have unmoved : (g.together start turns).shared.incidents.lookup f.incidentId.text = some f →
      f = i := fun stored => Option.some.inj (stored.symm.trans before)
  cases turn with
  | start task => exact .inl (unmoved after)
  | step n now =>
    rw [Program.System.move] at after
    rcases kept.step_cases (Memory.Later.refl g.toHost) n now with
      same | ⟨task, op, next, past, found, seen, allowed, moved⟩
    · rw [same] at after
      exact .inl (unmoved after)
    · rw [moved] at after
      rcases exec_writes kept.holds allowed before after with same | ⟨target, w, u, writes, ok⟩
      · exact .inl same
      · exact .inr ⟨n, now, task, op, next, past, target, w, u, rfl, found, seen, writes, ok⟩

end

/-! How far an incident has come, and the runs that it then holds. -/

/-- The transitions that lead to a status, and the runs and verifications on file there. -/
def progress : IncidentStatus → Option (Nat × Nat × Nat)
  | .detected => some (0, 0, 0)
  | .triaged => some (1, 0, 0)
  | .investigating => some (2, 0, 0)
  | .rcaComplete => some (3, 0, 0)
  | .awaitingApproval => some (4, 0, 0)
  | .remediating | .rejected => some (5, 0, 0)
  | .failed => some (6, 0, 0)
  | .verifying => some (6, 1, 0)
  | .resolved | .reopened => some (7, 1, 1)
  | .closed | .duplicate | .cancelled => none

theorem progress_bounds {s : IncidentStatus} {n a v : Nat} (reached : progress s = some (n, a, v)) :
    n ≤ 7 ∧ a ≤ 1 ∧ v ≤ 1 := by
  cases s <;> simp only [progress, Option.some.injEq, Prod.mk.injEq, reduceCtorEq] at reached <;>
    omega

/-- Where the calls have taken an incident that was fresh at a revision. -/
structure Stage (first : Nat) (i : Incident) : Prop where
  reached : progress i.status =
    some (i.revision - first, i.actionRuns.length, i.verificationRuns.length)
  after : first ≤ i.revision

/-- What is detected has no runs yet. -/
structure Fresh (i : Incident) : Prop where
  detected : i.status = .detected
  actionRuns : i.actionRuns = []
  verificationRuns : i.verificationRuns = []

theorem Fresh.stage {i : Incident} (fresh : Fresh i) : Stage i.revision i where
  reached := by simp [fresh.detected, fresh.actionRuns, fresh.verificationRuns, progress]
  after := Nat.le_refl _

theorem progress_next {i : Incident} {s t : IncidentStatus} {n a v : Nat} (added : Nat × Nat)
    (here : i.status = s) (reached : progress i.status = some (n, a, v))
    (edge : progress t = (progress s).map fun p => (p.1 + 1, p.2.1 + added.1, p.2.2 + added.2)) :
    progress t = some (n + 1, a + added.1, v + added.2) := by
  rw [edge, ← here, reached]
  rfl

theorem Stage.writes {g : Engine} {task : Task} {past : List Instant} {first : Nat} {i f : Incident}
    {target : IncidentStatus} {w : WriteMetadata} {u : Updates} {now : Instant}
    (stage : Stage first i) (writes : Writes g task past i target w u)
    (accepted : transitionIncident g.toHost i target i.revision (.given now) (.given now) u =
      .ok f) : Stage first f := by
  obtain ⟨actions, verifications⟩ := accepted_runs accepted
  have moved := transition_of_ok accepted
  have raised := moved.revision
  have after := stage.after
  have counted : i.revision + 1 - first = i.revision - first + 1 := by omega
  have kept : KeepsRuns u → f.actionRuns = i.actionRuns ∧
      f.verificationRuns = i.verificationRuns := by
    intro keeps
    rw [keeps.actions] at actions
    rw [keeps.verifications] at verifications
    exact ⟨resolveAll_keep actions, resolveAll_keep verifications⟩
  have reached := stage.reached
  refine ⟨?_, by omega⟩
  rw [moved.status, raised, counted]
  cases writes with
  | prepares edge keeps =>
    obtain ⟨runs, checks⟩ := kept keeps
    rw [runs, checks]
    simp only [List.mem_cons, Prod.mk.injEq, List.not_mem_nil, or_false] at edge
    rcases edge with ⟨here, rfl⟩ | ⟨here, rfl⟩ | ⟨here, rfl⟩ | ⟨here, rfl⟩ <;>
      exact progress_next (0, 0) here reached rfl
  | approves approve awaiting revision latest only hash keeps =>
    obtain ⟨runs, checks⟩ := kept keeps
    rw [runs, checks]
    exact progress_next (0, 0) awaiting reached rfl
  | rejects awaiting keeps =>
    obtain ⟨runs, checks⟩ := kept keeps
    rw [runs, checks]
    exact progress_next (0, 0) awaiting reached rfl
  | fails frozen authorized =>
    obtain ⟨runs, checks⟩ := kept ⟨rfl, rfl⟩
    rw [runs, checks]
    exact progress_next (0, 0) frozen.remediating reached rfl
  | runs frozen authorized effective seen stamped added keeps =>
    rw [added] at actions
    rw [keeps] at verifications
    rw [resolveAll_set actions, resolveAll_keep verifications, List.length_append]
    exact progress_next (1, 0) frozen.remediating reached rfl
  | verifies verifying ends added keeps =>
    rw [keeps] at actions
    rw [added] at verifications
    rw [resolveAll_keep actions, resolveAll_set verifications, List.length_append]
    rcases ends with rfl | rfl <;>
      exact progress_next (0, 1) verifying reached rfl

/-! Decisions that approve. -/

def written : (op : Op) → op.Answer → Option Incident
  | .repository (.write _), answer => Except.toOption answer
  | _, _ => none

theorem transition_closes {current : Incident} {target : IncidentStatus}
    {idempotencyKey actor reason : String} {u : Updates} :
    Program.Closes written (fun s result => result = .ok s)
      (transition current target idempotencyKey actor reason u) := by
  apply Program.Closes.last
  intro answer s settles
  cases answer with
  | error e => cases settles
  | ok i =>
    cases settles
    rfl

theorem decideApproval_closes (h : Host) (a : DecideArguments) :
    Program.Closes written (fun s result => result = .ok s) (decideApproval h a) := by
  apply Program.Closes.attempt
  intro hash _
  apply Program.Closes.attempt
  intro _ _
  apply Program.Closes.ask fun _ => rfl
  intro trustedNow
  apply Program.Closes.attempt
  intro r _
  apply Program.Closes.ask fun _ => rfl
  intro found
  cases found with
  | none => exact Program.Closes.finish
  | some current =>
    change Program.Closes _ _ (decideRead h a r trustedNow current)
    unfold decideRead
    split
    · exact Program.Closes.attempt fun _ _ => Program.Closes.finish
    · apply Program.Closes.attempt
      intro pending _
      apply Program.Closes.attempt
      intro terminal _
      exact transition_closes

/-- The write of a decision is its last operation, and it returns what was written. -/
theorem decide_closes (g : Engine) (a : DecideArguments) :
    Program.Closes written (fun s result => ∃ replayed, result = .ok ⟨s, replayed⟩)
      (Governance.decide g a) := by
  unfold Governance.decide
  rw [getIncident_bind]
  apply Program.Closes.attempt
  intro id _
  apply Program.Closes.ask fun _ => rfl
  intro found
  cases found with
  | none => exact Program.Closes.finish
  | some before =>
    apply Program.Closes.attempt
    intro key _
    apply Program.Closes.bind (decideApproval_closes g.toHost a)
    intro result
    cases result with
    | error e => exact ⟨.error e, rfl, by simp⟩
    | ok committed =>
      refine ⟨.ok ⟨committed, _⟩, rfl, ?_⟩
      rintro s same
      cases same
      exact ⟨_, rfl⟩

def Closing : Task → Program Op Op.Answer (Except GovernanceError GovernanceResult) → Prop
  | .decide _, p => Program.Closes written (fun s result => ∃ replayed, result = .ok ⟨s, replayed⟩) p
  | _, _ => True

theorem Closing.next {task : Task} {op : Op}
    {next : op.Answer → Program Op Op.Answer (Except GovernanceError GovernanceResult)}
    (closing : Closing task (.call op next)) (answer : op.Answer) : Closing task (next answer) := by
  cases task with
  | decide a => exact (Program.Closes.next closing answer).1
  | prepare | execute => trivial

theorem closing_start (g : Engine) (task : Task) : Closing task (task.code g) := by
  cases task with
  | decide a => exact decide_closes g a
  | prepare | execute => trivial

/-- A write that changes a stored incident answers with what it stores. -/
theorem Effect.answers {h : Host} {m m' : Memory} {result : Except RepositoryError Incident}
    (effect : Memory.Effect h m result m') {k : String} {i f : Incident}
    (before : m.incidents.lookup k = some i) (after : m'.incidents.lookup k = some f)
    (changed : f ≠ i) : result = .ok f := by
  have unmoved : m.incidents.lookup k = some f → result = .ok f :=
    fun stays => absurd (Option.some.inj (stays.symm.trans before)) changed
  cases effect with
  | failed | replayed | correlated => exact unmoved after
  | opened opening =>
    rcases Table.lookup_insert_iff.mp after with ⟨rfl, rfl⟩ | ⟨_, stays⟩
    · rfl
    · exact unmoved stays
  | advanced =>
    rcases Table.lookup_insert_iff.mp after with ⟨rfl, rfl⟩ | ⟨_, stays⟩
    · rfl
    · exact unmoved stays

theorem exec_answers {g : Engine} {m : Memory} {now : Instant} {op : Op} {k : String}
    {i f : Incident} (sound : m.Sound g.toHost) (before : m.incidents.lookup k = some i)
    (after : (g.exec m now op).2.incidents.lookup k = some f) (changed : f ≠ i) :
    written op (g.exec m now op).1 = some f := by
  have unmoved : m.incidents.lookup k ≠ some f :=
    fun stays => changed (Option.some.inj (stays.symm.trans before))
  cases op with
  | now | analyze => exact absurd after unmoved
  | repository access =>
    cases access with
    | get | sourceEventAssociations | history => exact absurd after unmoved
    | write call =>
      have effect := Memory.step_effect sound.allSafe now call
      have answer : (m.step g.toHost now call).1 = .ok f :=
        Effect.answers effect before after changed
      exact congrArg Except.toOption answer

/-- The decision approves the one recommended action of the incident, at its revision. -/
structure Confirms (g : Engine) (a : DecideArguments) (i : Incident) : Prop where
  approve : a.approve = true
  awaiting : i.status = .awaitingApproval
  revision : (i.revision : Int) = a.expectedRevision
  hash : ∃ report action, i.latestReport = some report ∧ report.recommendations = [action] ∧
    (action.actionHash g.toHost).text = a.expectedActionHash

/-- At this turn a call of `decide` confirms what is stored, takes it to REMEDIATING, and
returns it. -/
def Approves (g : Engine) (start : Memory) (earlier : List Turn) (turn : Turn) (key : String) :
    Prop :=
  ∃ n now a p i f replayed, turn = .step n now ∧
    (g.together start earlier).tasks[n]? = some (.decide a, p) ∧
    (g.together start earlier).shared.incidents.lookup key = some i ∧ Confirms g a i ∧
    (g.together start (earlier ++ [turn])).shared.incidents.lookup key = some f ∧
    f.status = .remediating ∧
    (g.together start (earlier ++ [turn])).tasks[n]? = some (.decide a, .done (.ok ⟨f, replayed⟩))

def Approved (g : Engine) (start : Memory) (turns : List Turn) (key : String) : Prop :=
  ∃ earlier turn later, turns = earlier ++ turn :: later ∧ Approves g start earlier turn key

theorem Approved.onward {g : Engine} {start : Memory} {turns : List Turn} {key : String}
    (approved : Approved g start turns key) (turn : Turn) :
    Approved g start (turns ++ [turn]) key := by
  obtain ⟨earlier, at', later, rfl, approves⟩ := approved
  exact ⟨earlier, at', later ++ [turn], by simp, approves⟩

def isApproved : IncidentStatus → Bool
  | .remediating | .failed | .verifying | .resolved | .reopened => true
  | _ => false

section
variable {g : Engine} {start : Memory}

theorem together_closing (g : Engine) (start : Memory) (turns : List Turn) :
    ∀ t ∈ (g.together start turns).tasks, Closing t.1 t.2 := by
  induction turns using List.reverseRecOn with
  | nil => simp [Engine.together, Program.System.run, Runs.run]
  | append_singleton turns turn ih =>
    rw [together_append]
    apply Program.System.move_tasks (closing_start g)
    · exact fun task op next answer closing => closing.next answer
    · exact ih

/-- A decision that writes has then returned with what it wrote. -/
theorem decide_returned {turns : List Turn} {n : Nat} {now : Instant} {a : DecideArguments} {op : Op}
    {next : op.Answer → Program Op Op.Answer (Except GovernanceError GovernanceResult)}
    {f : Incident} (found : (g.together start turns).tasks[n]? = some (.decide a, .call op next))
    (answer : written op (g.exec (g.together start turns).shared now op).1 = some f) :
    ∃ replayed, (g.together start (turns ++ [.step n now])).tasks[n]? =
      some (.decide a, .done (.ok ⟨f, replayed⟩)) := by
  have closes := together_closing g start turns _ (List.mem_of_getElem? found)
  obtain ⟨result, ended, replayed, rfl⟩ := (Program.Closes.next closes _).2 f answer
  refine ⟨replayed, ?_⟩
  obtain ⟨bound, _⟩ := List.getElem?_eq_some_iff.mp found
  rw [together_append, Program.System.move, Program.System.step, found]
  simp only [ended]
  exact List.getElem?_set_self bound

theorem turn_later (sound : start.Sound g.toHost) (turns : List Turn) (turn : Turn) :
    (g.together start turns).shared.Later g.toHost
      (g.together start (turns ++ [turn])).shared := by
  have kept := together_kept (g := g) sound turns
  rw [together_append]
  cases turn with
  | start task => exact .refl _ _
  | step n now =>
    rw [Program.System.move]
    rcases kept.step_cases (Memory.Later.refl g.toHost) n now with
      same | ⟨task, op, next, past, found, seen, allowed, moved⟩
    · rw [same]
      exact .refl _ _
    · rw [moved]
      exact exec_later g _ now op

theorem together_later (sound : start.Sound g.toHost) (turns : List Turn) :
    start.Later g.toHost (g.together start turns).shared := by
  induction turns using List.reverseRecOn with
  | nil => exact .refl _ _
  | append_singleton turns turn ih => exact ih.trans (turn_later sound turns turn)

/-- What the turns have made of an incident that was fresh. -/
structure Followed (g : Engine) (start : Memory) (turns : List Turn) (i₀ i : Incident) : Prop where
  stored : (g.together start turns).shared.incidents.lookup i₀.incidentId.text = some i
  stage : Stage i₀.revision i
  approved : isApproved i.status = true → Approved g start turns i₀.incidentId.text

theorem Followed.turn {turns : List Turn} {i₀ i : Incident} (sound : start.Sound g.toHost)
    (followed : Followed g start turns i₀ i) (turn : Turn) :
    ∃ f, Followed g start (turns ++ [turn]) i₀ f := by
  have kept := together_kept (g := g) sound turns
  have later := turn_later sound turns turn
  obtain ⟨f, stored, _⟩ := later.onward kept.holds followed.stored
  have named := (later.sound kept.holds).key stored
  have before := followed.stored
  rw [← named] at before stored
  refine ⟨f, ?_⟩
  rcases turn_writes sound before stored with rfl |
    ⟨n, now, task, op, next, past, target, w, u, rfl, found, seen, writes, accepted⟩
  · exact ⟨named ▸ stored, followed.stage, fun status => (followed.approved status).onward turn⟩
  · refine ⟨named ▸ stored, followed.stage.writes writes accepted, fun status => ?_⟩
    have moved := transition_of_ok accepted
    have earlier : isApproved i.status = true →
        Approved g start (turns ++ [.step n now]) i₀.incidentId.text :=
      fun status => (followed.approved status).onward _
    cases writes with
    | prepares edge keeps =>
      rw [moved.status] at status
      simp only [List.mem_cons, Prod.mk.injEq, List.not_mem_nil, or_false] at edge
      rcases edge with ⟨_, rfl⟩ | ⟨_, rfl⟩ | ⟨_, rfl⟩ | ⟨_, rfl⟩ <;> cases status
    | rejects awaiting keeps =>
      rw [moved.status] at status
      cases status
    | @approves a _ _ report action _ _ approve awaiting revision latest only hash keeps =>
      have changed : f ≠ i := by
        intro same
        have raised := moved.revision
        rw [same] at raised
        omega
      have ended : (g.exec (g.together start turns).shared now op).2.incidents.lookup
          f.incidentId.text = some f := by
        rw [together_append, Program.System.move, Program.System.step, found] at stored
        exact stored
      obtain ⟨replayed, returned⟩ :=
        decide_returned found (exec_answers kept.holds before ended changed)
      exact ⟨turns, _, [], rfl, n, now, a, _, i, f, replayed, rfl, found, followed.stored,
        ⟨approve, awaiting, revision, report, action, latest, only, hash⟩, named ▸ stored,
        moved.status, returned⟩
    | fails frozen authorized => exact earlier (by rw [frozen.remediating]; rfl)
    | runs frozen authorized effective seen stamped added keeps =>
      exact earlier (by rw [frozen.remediating]; rfl)
    | verifies verifying ends added keeps => exact earlier (by rw [verifying]; rfl)

theorem follows {i₀ : Incident} (sound : start.Sound g.toHost) (fresh : Fresh i₀)
    (stored : start.incidents.lookup i₀.incidentId.text = some i₀) (turns : List Turn) :
    ∃ i, Followed g start turns i₀ i := by
  induction turns using List.reverseRecOn with
  | nil =>
    refine ⟨i₀, stored, fresh.stage, ?_⟩
    intro status
    rw [fresh.detected] at status
    cases status
  | append_singleton turns turn ih =>
    obtain ⟨i, followed⟩ := ih
    exact followed.turn sound turn

/-! The runs of an incident, and the approvals that they were made under. -/

/-- An approval of the one recommended action was effective when the call looked, and the run
started no earlier. -/
def Permitted (g : Engine) (i : Incident) (run : ActionRun) : Prop :=
  ∃ report action approval looked started, i.latestReport = some report ∧
    report.recommendations = [action] ∧ latestApproval i = some approval ∧
    approval.status = .approved ∧ approval.CoversAction g.toHost action i.incidentId report ∧
    approval.IsEffective looked ∧ looked ≤ started ∧ run.startedAt = some started

/-- A write leaves the runs as they are, or an execution adds one that was permitted. -/
theorem Writes.adds {task : Task} {past : List Instant} {i f : Incident} {target : IncidentStatus}
    {w : WriteMetadata} {u : Updates} {now : Instant} (writes : Writes g task past i target w u)
    (ordered : past.Pairwise (· ≥ ·))
    (accepted : transitionIncident g.toHost i target i.revision (.given now) (.given now) u =
      .ok f) : f.actionRuns = i.actionRuns ∨
        ∃ a run, task = .execute a ∧ f.actionRuns = i.actionRuns ++ [run] ∧ Permitted g i run := by
  obtain ⟨actions, _⟩ := accepted_runs accepted
  have kept : u.actionRuns = .keep → f.actionRuns = i.actionRuns := by
    intro keeps
    rw [keeps] at actions
    exact resolveAll_keep actions
  cases writes with
  | prepares edge keeps => exact .inl (kept keeps.actions)
  | approves approve awaiting revision latest only hash keeps => exact .inl (kept keeps.actions)
  | rejects awaiting keeps => exact .inl (kept keeps.actions)
  | fails frozen authorized => exact .inl (kept rfl)
  | verifies verifying ends added keeps => exact .inl (kept keeps)
  | runs frozen authorized effective seen stamped added keeps =>
    rw [added] at actions
    refine .inr ⟨_, _, rfl, resolveAll_set actions, ?_⟩
    obtain ⟨report, action, latest, only, taken⟩ := freeze_ok.mp frozen.frozen
    rw [taken] at authorized
    unfold authorizedApproval at authorized
    split at authorized
    · cases authorized
    · next found =>
      obtain ⟨passed, same⟩ := Checks.seq_ok.mp authorized
      cases same
      obtain ⟨approved, covers⟩ := Checks.require_ok.mp passed
      exact ⟨report, action, _, _, _, latest, only, found, approved, covers, effective,
        (List.pairwise_cons.mp ordered).1 _ seen, stamped⟩

/-- At one of the turns a call of `execute` added the run to what was stored, and was permitted. -/
def Ran (g : Engine) (start : Memory) (turns : List Turn) (key : String) (run : ActionRun) :
    Prop :=
  ∃ earlier n now later a p i f, turns = earlier ++ .step n now :: later ∧
    (g.together start earlier).tasks[n]? = some (.execute a, p) ∧
    (g.together start earlier).shared.incidents.lookup key = some i ∧
    (g.together start (earlier ++ [.step n now])).shared.incidents.lookup key = some f ∧
    f.actionRuns = i.actionRuns ++ [run] ∧ Permitted g i run

theorem Ran.onward {turns : List Turn} {key : String} {run : ActionRun}
    (ran : Ran g start turns key run) (turn : Turn) : Ran g start (turns ++ [turn]) key run := by
  obtain ⟨earlier, n, now, later, a, p, i, f, rfl, known⟩ := ran
  exact ⟨earlier, n, now, later ++ [turn], a, p, i, f, by simp, known⟩

theorem runs_ran {i₀ i : Incident} (sound : start.Sound g.toHost) (fresh : Fresh i₀)
    (stored : start.incidents.lookup i₀.incidentId.text = some i₀) (turns : List Turn)
    (steady : Steady turns) (reached : (g.together start turns).shared.incidents.lookup
      i₀.incidentId.text = some i) :
    ∀ run ∈ i.actionRuns, Ran g start turns i₀.incidentId.text run := by
  induction turns using List.reverseRecOn generalizing i with
  | nil =>
    cases stored.symm.trans reached
    simp [fresh.actionRuns]
  | append_singleton turns turn ih =>
    have shorter : Steady turns := by
      rw [Steady, List.filterMap_append] at steady
      exact (List.pairwise_append.mp steady).1
    obtain ⟨before, followed⟩ := follows (g := g) sound fresh stored turns
    have earlier := ih shorter followed.stored
    have kept := together_kept (g := g) sound turns
    have named := ((turn_later sound turns turn).sound kept.holds).key reached
    rcases turn_writes sound (named ▸ followed.stored) (named ▸ reached) with rfl |
      ⟨n, now, task, op, next, past, target, w, u, rfl, found, seen, writes, accepted⟩
    · exact fun run member => (earlier run member).onward turn
    · intro run member
      rcases writes.adds (seen.ordered shorter) accepted with
        same | ⟨a, added, rfl, runs, permitted⟩
      · exact (earlier run (same ▸ member)).onward _
      · rw [runs] at member
        rcases List.mem_append.mp member with older | new
        · exact (earlier run older).onward _
        · cases List.mem_singleton.mp new
          exact ⟨turns, n, now, [], a, _, before, i, rfl, found, followed.stored, reached, runs,
            permitted⟩

end

/-! The whole runs. -/

/-! A detected incident, and an execution that has been started. -/
namespace Started
open Sample (detected)

def calls : List (Instant × Call) := [(0, .create detected (Foreign.metadata "k0"))]

def turns : List Turn := [.start (.execute Foreign.arguments)]

theorem fresh : Fresh detected := ⟨rfl, rfl, rfl⟩

theorem stored : (Memory.run Foreign.engine.toHost {} calls).incidents.lookup
    detected.incidentId.text = some detected := by
  rw [show Foreign.engine.toHost = Host.ascii from rfl, calls, Memory.run_cons, Memory.run_nil]
  exact Foreign.detected_created.stored

end Started

/-- However the calls interleave and wherever they stop, an incident gets at most one run and one
verification, and none before a decision has approved it. -/
theorem governance_safety (g : Engine) (calls : List (Instant × Call)) (i₀ : Incident)
    (fresh : Fresh i₀)
    (stored : (Memory.run g.toHost {} calls).incidents.lookup i₀.incidentId.text = some i₀)
    (turns : List Turn) :
    ∃ i, (g.together (Memory.run g.toHost {} calls) turns).shared.incidents.lookup
        i₀.incidentId.text = some i ∧
      i.actionRuns.length ≤ 1 ∧ i.verificationRuns.length ≤ 1 ∧
      (isApproved i.status = true →
        Approved g (Memory.run g.toHost {} calls) turns i₀.incidentId.text) := by
  obtain ⟨i, followed⟩ := follows (g := g) (Memory.run_sound g.toHost calls) fresh stored turns
  have bounds := progress_bounds followed.stage.reached
  exact ⟨i, followed.stored, bounds.2.1, bounds.2.2, followed.approved⟩

theorem governance_safety_started :
    ∃ i, (Foreign.engine.together (Memory.run Foreign.engine.toHost {} Started.calls)
        Started.turns).shared.incidents.lookup Sample.detected.incidentId.text = some i ∧
      i.actionRuns.length ≤ 1 ∧ i.verificationRuns.length ≤ 1 ∧
      (isApproved i.status = true → Approved Foreign.engine
        (Memory.run Foreign.engine.toHost {} Started.calls) Started.turns
          Sample.detected.incidentId.text) :=
  governance_safety Foreign.engine Started.calls _ Started.fresh Started.stored Started.turns

/-- However many calls are made, at most seven writes reach an incident, and its status tells how
many did. -/
theorem governance_bounded (g : Engine) (calls : List (Instant × Call)) (i₀ : Incident)
    (fresh : Fresh i₀)
    (stored : (Memory.run g.toHost {} calls).incidents.lookup i₀.incidentId.text = some i₀)
    (turns : List Turn) :
    ∃ i events writes, (g.together (Memory.run g.toHost {} calls) turns).shared.incidents.lookup
        i₀.incidentId.text = some i ∧
      (g.together (Memory.run g.toHost {} calls) turns).shared.history.lookup
        i₀.incidentId.text = some events ∧
      events.length = i₀.revision + 1 + writes ∧ writes ≤ 7 ∧
      progress i.status = some (writes, i.actionRuns.length, i.verificationRuns.length) := by
  have sound := Memory.run_sound g.toHost calls
  obtain ⟨i, followed⟩ := follows (g := g) sound fresh stored turns
  obtain ⟨more, reached⟩ := together_later (g := g) sound turns
  have whole : (g.together (Memory.run g.toHost {} calls) turns).shared =
      Memory.run g.toHost {} (calls ++ more) := by
    rw [reached, Memory.run, Memory.run, Memory.run, Runs.run_append]
  have trail := Memory.run_audited g.toHost (calls ++ more)
  rw [← whole] at trail
  obtain ⟨events, known, audited⟩ := trail _ i followed.stored
  have counted : events.length = i.revision + 1 := by
    simpa using congrArg List.length audited.revisions
  have after := followed.stage.after
  exact ⟨i, events, _, followed.stored, known, by omega,
    (progress_bounds followed.stage.reached).1, followed.stage.reached⟩

theorem governance_bounded_started :
    ∃ i events writes, (Foreign.engine.together (Memory.run Foreign.engine.toHost {} Started.calls)
        Started.turns).shared.incidents.lookup Sample.detected.incidentId.text = some i ∧
      (Foreign.engine.together (Memory.run Foreign.engine.toHost {} Started.calls)
        Started.turns).shared.history.lookup Sample.detected.incidentId.text = some events ∧
      events.length = 0 + 1 + writes ∧ writes ≤ 7 ∧
      progress i.status = some (writes, i.actionRuns.length, i.verificationRuns.length) :=
  governance_bounded Foreign.engine Started.calls _ Started.fresh Started.stored Started.turns

end NetworkAgent.Governance
