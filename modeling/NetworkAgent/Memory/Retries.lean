import NetworkAgent.Memory.ImportRecords

/-! A write that fails, and a write that is made again: the first leaves the repository as it
was, the second finds the answer on record before it reads anything else. -/
namespace NetworkAgent.Memory

theorem Effect.unchanged {h : Host} {m m' : Memory} {e : RepositoryError}
    (effect : Effect h m (.error e) m') : m' = m := by
  cases effect
  rfl

/-- A write that raises leaves the incidents, the history, the associations and the answers on
record as they were. -/
theorem failed_write_unchanged (h : Host) (calls : List (Instant × Call)) (now : Instant)
    (call : Call) (e : RepositoryError) (failed : ((run h {} calls).step h now call).1 = .error e) :
    ((run h {} calls).step h now call).2 = run h {} calls := by
  have effect := step_effect (run_keyed h calls).allSafe now call
  rw [failed] at effect
  exact effect.unchanged

theorem second_create_refused : ((run Host.ascii {} Sample.calls).step Host.ascii 1
    (.create Sample.incident (Sample.metadata "k1"))).1 = .error (.alreadyExists "i") := by
  decide +kernel

theorem failed_write_unchanged_sample : ((run Host.ascii {} Sample.calls).step Host.ascii 1
    (.create Sample.incident (Sample.metadata "k1"))).2 = run Host.ascii {} Sample.calls :=
  failed_write_unchanged Host.ascii Sample.calls 1 _ _ second_create_refused

end Memory

/-! What a call is known by. -/
namespace Call

/-- The checks a call makes on its arguments, before it looks for an earlier answer. -/
def request (h : Host) : Call → Except RepositoryError Memory.Request
  | create i w => Memory.createRequest h "create" i w
  | createOrCorrelate i w => Memory.createRequest h "create_or_correlate" i w
  | importDetectedSnapshot i associations w => Memory.importRequest h i associations w
  | save i expected w => Memory.saveRequest h i expected w
  | transition incidentId target expected w u =>
    Memory.transitionRequest h incidentId target expected w u

def scope : Call → Scope
  | create i w => ⟨"create", i.incidentId.text, w.idempotencyKey⟩
  | createOrCorrelate i w => ⟨"create_or_correlate", i.incidentId.text, w.idempotencyKey⟩
  | importDetectedSnapshot i _ w => ⟨"import_detected_snapshot", i.incidentId.text, w.idempotencyKey⟩
  | save i _ w => ⟨"save", i.incidentId.text, w.idempotencyKey⟩
  | transition incidentId _ _ w _ => ⟨"transition", incidentId, w.idempotencyKey⟩

def payload : Call → Dict
  | create i w | createOrCorrelate i w => ("incident", i.toJson) :: w.fields
  | importDetectedSnapshot i associations w =>
    ("incident", i.toJson) :: ("associations", .arr (associations.map (·.toJson))) :: w.fields
  | save i expected w => ("incident", i.toJson) :: ("expected_revision", .int expected) :: w.fields
  | transition _ target expected w u => ("target_status", .str target.value) ::
    ("expected_revision", .int expected) :: ("updates", .obj u.image) :: w.fields

def canonicalText (h : Host) (call : Call) : List Nat :=
  h.canonicalJson (.obj [("operation", .str call.scope.operation), ("payload", .obj call.payload)])

/-- An import looks at the current state again before it answers from the record. -/
def isImport : Call → Bool
  | importDetectedSnapshot _ _ _ => true
  | _ => false

end Call

namespace Memory

theorem createRequest_known {h : Host} {operation : String} {i : Incident} {w : WriteMetadata}
    {r : Request} (requested : createRequest h operation i w = .ok r) :
    r.scope = ⟨operation, i.incidentId.text, w.idempotencyKey⟩ ∧
      r.fingerprint = fingerprint h operation (("incident", i.toJson) :: w.fields) := by
  simp only [createRequest, Checks.bind_ok, pure, Except.pure, Except.ok.injEq] at requested
  obtain ⟨_, _, _, _, scope, named, rfl⟩ := requested
  obtain ⟨_, _, _, rfl⟩ := requestScope_ok.mp named
  exact ⟨rfl, rfl⟩

theorem request_known {h : Host} {call : Call} {r : Request} (requested : call.request h = .ok r) :
    r.scope = call.scope ∧ r.fingerprint = h.sha256 (call.canonicalText h) := by
  cases call with
  | create i w => exact createRequest_known requested
  | createOrCorrelate i w => exact createRequest_known requested
  | importDetectedSnapshot i associations w =>
    refine ⟨scope_of_importRequest requested, ?_⟩
    simp only [Call.request, importRequest, Checks.bind_ok, pure, Except.pure,
      Except.ok.injEq] at requested
    obtain ⟨_, _, _, _, _, _, _, _, _, _, _, _, _, _, _, _, _, _, _, _, _, _, rfl⟩ := requested
    rfl
  | save i expected w =>
    obtain ⟨_, _, _, named, same⟩ := saveRequest_ok.mp requested
    obtain ⟨_, _, _, scope⟩ := requestScope_ok.mp named
    exact ⟨scope, by rw [same]; rfl⟩
  | transition incidentId target expected w u =>
    simp only [Call.request, transitionRequest, Checks.bind_ok, pure, Except.pure,
      Except.ok.injEq] at requested
    obtain ⟨_, _, _, _, _, _, _, named, rfl⟩ := requested
    obtain ⟨_, _, _, rfl⟩ := requestScope_ok.mp named
    exact ⟨rfl, rfl⟩

/-! A call that finds its scope used. -/

section
variable {α : Type} {m : Memory} {r : Request} {record : IdempotencyRecord}
  (stored : m.idempotency.lookup r.scope = some record)
include stored

theorem unlessReplayed_conflict (other : record.fingerprint ≠ r.fingerprint)
    (work : Except RepositoryError α) :
    m.unlessReplayed r work = .error (.idempotencyConflict r.scope.idempotencyKey) := by
  simp [unlessReplayed, replay, stored, Checks.require, other, Bind.bind, Except.bind]

theorem unlessReplayed_known (same : record.fingerprint = r.fingerprint)
    (work : Except RepositoryError α) :
    m.unlessReplayed r work = .ok (.replayed record.result) :=
  unlessReplayed_ok.mpr (.inl ⟨record, stored, same, rfl⟩)

theorem settle_conflict {request : Except RepositoryError Request}
    (requested : request = .ok r) (other : record.fingerprint ≠ r.fingerprint)
    (work : Request → Except RepositoryError α)
    (commit : Request → α → Except RepositoryError Incident × Memory) :
    m.settle (request >>= fun r => m.unlessReplayed r (work r)) commit =
      (.error (.idempotencyConflict r.scope.idempotencyKey), m) := by
  have refused := unlessReplayed_conflict stored other (work r)
  simp only [requested, Bind.bind, Except.bind, refused, settle]

theorem settle_known {request : Except RepositoryError Request}
    (requested : request = .ok r) (same : record.fingerprint = r.fingerprint)
    (work : Request → Except RepositoryError α)
    (commit : Request → α → Except RepositoryError Incident × Memory) :
    m.settle (request >>= fun r => m.unlessReplayed r (work r)) commit =
      (.ok record.result, m) := by
  have found := unlessReplayed_known stored same (work r)
  simp only [requested, Bind.bind, Except.bind, found, settle]

end

section
variable {h : Host} {m : Memory} {call : Call} {r : Request} {record : IdempotencyRecord}
  (requested : call.request h = .ok r) (stored : m.idempotency.lookup r.scope = some record)
include requested stored

theorem step_conflict (other : record.fingerprint ≠ r.fingerprint) (now : Instant) :
    m.step h now call = (.error (.idempotencyConflict r.scope.idempotencyKey), m) := by
  cases call with
  | create | createOrCorrelate | save | transition =>
    exact settle_conflict stored requested other _ _
  | importDetectedSnapshot i associations w =>
    have asked : importRequest h i associations w = .ok r := requested
    have refused := fun work => unlessReplayed_conflict (α := IncidentAuditEvent) stored other work
    simp only [step, importDetectedSnapshot, decideImport, asked, Bind.bind, Except.bind, refused,
      settle]

theorem step_known (plain : call.isImport = false) (same : record.fingerprint = r.fingerprint)
    (now : Instant) : m.step h now call = (.ok record.result, m) := by
  cases call with
  | create | createOrCorrelate | save | transition => exact settle_known stored requested same _ _
  | importDetectedSnapshot => cases plain

end

/-! A call that succeeds leaves its answer on record. -/

theorem commitCreate_answers {h : Host} {m m' : Memory} {r : Request} {i answer : Incident}
    {now : Instant} (committed : m.commitCreate h r i now = (.ok answer, m')) :
    m'.idempotency.lookup r.scope = some ⟨r.fingerprint, answer⟩ := by
  unfold commitCreate at committed
  split at committed
  · cases committed
  · split at committed
    · cases committed
    · cases committed
      simp [writeIncident]

theorem commitTransition_answers {h : Host} {m m' : Memory} {r : Request}
    {current successor answer : Incident} {now : Instant}
    (committed : m.commitTransition h r current successor now = (.ok answer, m')) :
    m'.idempotency.lookup r.scope = some ⟨r.fingerprint, answer⟩ := by
  unfold commitTransition at committed
  split at committed
  · cases committed
  · split at committed
    · cases committed
    · cases committed
      simp [writeIncident]

theorem commitCorrelation_answers {h : Host} {m m' : Memory} {r : Request}
    {existing answer : Incident} {sources : List Identifier} {now : Instant}
    (committed : m.commitCorrelation h r existing sources now = (.ok answer, m')) :
    m'.idempotency.lookup r.scope = some ⟨r.fingerprint, answer⟩ := by
  unfold commitCorrelation at committed
  split at committed
  · cases committed
  · cases committed
    simp

def Answered (m : Memory) (request : Except RepositoryError Request) (answer : Incident) : Prop :=
  ∃ r, request = .ok r ∧ m.idempotency.lookup r.scope = some ⟨r.fingerprint, answer⟩

theorem settle_answered {α : Type} {m m' : Memory} {answer : Incident}
    {request : Except RepositoryError Request} {work : Request → Except RepositoryError α}
    {commit : Request → α → Except RepositoryError Incident × Memory}
    (commits : ∀ r a, commit r a = (.ok answer, m') →
      m'.idempotency.lookup r.scope = some ⟨r.fingerprint, answer⟩)
    (answered : m.settle (request >>= fun r => m.unlessReplayed r (work r)) commit =
      (.ok answer, m')) : m'.Answered request answer := by
  unfold settle at answered
  split at answered
  · cases answered
  · next result decided =>
    cases answered
    obtain ⟨r, requested, found⟩ := Checks.bind_ok.mp decided
    rcases unlessReplayed_ok.mp found with ⟨record, stored, same, own⟩ | ⟨_, _, _, own⟩
    · cases own
      exact ⟨r, requested, same ▸ stored⟩
    · cases own
  · next r a decided => exact ⟨r, request_of_proceed decided, commits r a answered⟩

theorem importDetectedSnapshot_answered {h : Host} {m m' : Memory} {i answer : Incident}
    {associations : List SourceEventAssociation} {w : WriteMetadata} {now : Instant}
    (answered : m.importDetectedSnapshot h i associations w now = (.ok answer, m')) :
    m'.Answered (importRequest h i associations w) answer := by
  unfold importDetectedSnapshot settle at answered
  split at answered
  · cases answered
  · next result decided =>
    cases answered
    obtain ⟨r, record, requested, stored, same, own, _⟩ := decideImport_replayed.mp decided
    exact ⟨r, requested, by rw [stored, ← same, ← own]⟩
  · next r event decided =>
    cases answered
    exact ⟨r, (decideImport_proceed decided).1, by simp [writeIncident]⟩

theorem step_answered {h : Host} {m m' : Memory} {now : Instant} {call : Call} {answer : Incident}
    (answered : m.step h now call = (.ok answer, m')) : m'.Answered (call.request h) answer := by
  cases call with
  | create i w => exact settle_answered (fun _ _ => commitCreate_answers) answered
  | createOrCorrelate i w =>
    refine settle_answered (fun r work => ?_) answered
    match work with
    | (some existing, candidate) => exact commitCorrelation_answers
    | (none, candidate) => exact commitCreate_answers
  | save i expected w => exact settle_answered (fun _ _ => commitTransition_answers) answered
  | transition incidentId target expected w u =>
    exact settle_answered (fun _ _ => commitTransition_answers) answered
  | importDetectedSnapshot i associations w =>
    exact importDetectedSnapshot_answered answered

theorem run_answered {h : Host} {m : Memory} {request : Except RepositoryError Request}
    {answer : Incident} (reachable : Reachable h m) (answered : m.Answered request answer)
    (calls : List (Instant × Call)) : (run h m calls).Answered request answer := by
  obtain ⟨r, requested, stored⟩ := answered
  have kept := Runs.run_relation (next h) (P := Reachable h) (R := Keeps)
    (fun _ call inv => inv.next call) Keeps.refl Keeps.trans
    (fun _ call inv => step_keeps inv.owned call.1 call.2) reachable calls
  exact ⟨r, requested, kept.records _ _ stored⟩

theorem answered_after {h : Host} {before : List (Instant × Call)} {first : Instant}
    {call : Call} {answer : Incident}
    (succeeded : ((run h {} before).step h first call).1 = .ok answer)
    (after : List (Instant × Call)) :
    (run h {} (before ++ (first, call) :: after)).Answered (call.request h) answer := by
  have answered : ((run h {} before).next h (first, call)).Answered (call.request h) answer :=
    step_answered (Prod.ext succeeded rfl)
  have reachable := (run_reachable h before).next (first, call)
  unfold run at answered reachable ⊢
  rw [Runs.run_append]
  exact run_answered reachable answered after

/-- The call is refused because its key belongs to another request, and writes nothing. -/
def Conflicts (h : Host) (m : Memory) (now : Instant) (call : Call) : Prop :=
  m.step h now call = (.error (.idempotencyConflict call.scope.idempotencyKey), m)

/-- After any calls, a write that succeeded answers the same again, and the key of any call
that succeeded is refused to another request. -/
theorem retries_answer_alike {h : Host} {before : List (Instant × Call)} {first : Instant}
    {call : Call} {answer : Incident}
    (succeeded : ((run h {} before).step h first call).1 = .ok answer)
    (after : List (Instant × Call)) (later : Instant) :
    (call.isImport = false → (run h {} (before ++ (first, call) :: after)).step h later call =
      (.ok answer, run h {} (before ++ (first, call) :: after))) ∧
    ∀ other : Call, (other.request h).isOk = true → other.scope = call.scope →
      other.canonicalText h ≠ call.canonicalText h →
      (h.sha256 (other.canonicalText h) = h.sha256 (call.canonicalText h) →
        other.canonicalText h = call.canonicalText h) →
      Conflicts h (run h {} (before ++ (first, call) :: after)) later other := by
  obtain ⟨r, requested, stored⟩ := answered_after succeeded after
  obtain ⟨scope, fingerprint⟩ := request_known requested
  refine ⟨fun plain => step_known requested stored plain rfl later, ?_⟩
  intro other passes shared differs collisionFree
  obtain ⟨r', asked⟩ : ∃ r', other.request h = .ok r' := by
    cases found : other.request h with
    | ok r' => exact ⟨r', rfl⟩
    | error e => rw [found] at passes; cases passes
  obtain ⟨scope', fingerprint'⟩ := request_known asked
  have same : r'.scope = r.scope := by rw [scope', scope, shared]
  have fp : r.fingerprint ≠ r'.fingerprint := by
    rw [fingerprint, fingerprint']
    exact fun digests => differs (collisionFree digests.symm)
  rw [Conflicts, ← scope']
  exact step_conflict asked (same ▸ stored) fp later

theorem sample_succeeded : ((run Host.ascii {} []).step Host.ascii 0
    (.create Sample.incident (Sample.metadata "k0"))).1 = .ok Sample.incident := by decide +kernel

theorem retries_answer_alike_sample :
    (run Host.ascii {} ([] ++ (0, .create Sample.incident (Sample.metadata "k0")) :: [])).step
      Host.ascii 7 (.create Sample.incident (Sample.metadata "k0")) =
      (.ok Sample.incident,
        run Host.ascii {} ([] ++ (0, .create Sample.incident (Sample.metadata "k0")) :: [])) :=
  (retries_answer_alike sample_succeeded [] 7).1 rfl

/-! The same key with another request that does not pass its own checks. -/
namespace Sample

def unreasoned : WriteMetadata := { metadata "k0" with reason := "" }

theorem unreasoned_refused (m : Memory) (now : Instant) :
    (m.step Host.ascii now (.create incident unreasoned)).1 =
      .error (.value "reason must be a non-empty string") := by
  have refused : unreasoned.require Host.ascii =
      .error (.value "reason must be a non-empty string") := by rfl
  simp only [step, create, decideCreate, createRequest, refused, Bind.bind, Except.bind, settle]

theorem unreasoned_digest :
    Host.ascii.sha256 ((Call.create incident unreasoned).canonicalText Host.ascii) ≠
      Host.ascii.sha256 ((Call.create incident (metadata "k0")).canonicalText Host.ascii) := by
  decide +kernel

end Sample

/-- A request that reuses a key and fails its own checks is refused for those. -/
theorem unreasoned_request_no_conflict : ¬ ∀ (h : Host) (before after : List (Instant × Call))
    (first later : Instant) (call other : Call) (answer : Incident),
    ((run h {} before).step h first call).1 = .ok answer → other.scope = call.scope →
    other.canonicalText h ≠ call.canonicalText h →
    (h.sha256 (other.canonicalText h) = h.sha256 (call.canonicalText h) →
      other.canonicalText h = call.canonicalText h) →
    Conflicts h (run h {} (before ++ (first, call) :: after)) later other := by
  intro claimed
  have conflict := claimed Host.ascii [] [] 0 7 _ (.create Sample.incident Sample.unreasoned) _
    sample_succeeded rfl (fun same => Sample.unreasoned_digest (congrArg _ same)) fun same =>
      absurd same Sample.unreasoned_digest
  have answer := congrArg Prod.fst conflict
  rw [Sample.unreasoned_refused] at answer
  cases answer

end Memory
end NetworkAgent

