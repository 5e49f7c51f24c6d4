import NetworkAgent.Memory.Importing
import NetworkAgent.Memory.Saving

/-! The answers on record for imports. Only an import writes one, and what it left behind is
still there after any later call. -/
namespace NetworkAgent.Memory

def importOperation : String := "import_detected_snapshot"

theorem settle_record {α : Type} {m : Memory} {decision : Except RepositoryError (Decision α)}
    {commit : Request → α → Except RepositoryError Incident × Memory} {scope : Scope}
    {record : IdempotencyRecord} (absent : m.idempotency.lookup scope = none)
    (found : (m.settle decision commit).2.idempotency.lookup scope = some record) :
    ∃ r work, decision = .ok (.proceed r work) ∧
      (commit r work).2.idempotency.lookup scope = some record := by
  unfold settle at found
  match decision, found with
  | .error e, found => rw [absent] at found; cases found
  | .ok (.replayed result), found => rw [absent] at found; cases found
  | .ok (.proceed r work), found => exact ⟨r, work, rfl, found⟩

theorem scope_of_registered {h : Host} {m m₁ m' : Memory} {r : Request} {incidentId : Identifier}
    {sources : List Identifier} {t : Instant} {w : WriteMetadata} {x : Except RepositoryError Unit}
    {scope : Scope} {record : IdempotencyRecord} (written : IdempotencyRecord)
    (absent : m.idempotency.lookup scope = none)
    (registered : m.registerSourceEvents h incidentId sources t w = (x, m₁))
    (idempotency : m'.idempotency = m₁.idempotency ∨
      m'.idempotency = m₁.idempotency.insert r.scope written)
    (found : m'.idempotency.lookup scope = some record) : scope = r.scope := by
  have same : m₁.idempotency = m.idempotency := by
    have frame := (registerSourceEvents_frame h m incidentId sources t w).2.1
    rw [registered] at frame
    exact frame
  by_contra other
  rcases idempotency with unchanged | inserted
  · rw [unchanged, same, absent] at found
    cases found
  · rw [inserted, AList.lookup_insert_ne other, same, absent] at found
    cases found

section
variable {h : Host} {m : Memory} {r : Request} {scope : Scope} {record : IdempotencyRecord}
  {now : Instant} (absent : m.idempotency.lookup scope = none)
include absent

theorem commitCreate_record {i : Incident}
    (found : (m.commitCreate h r i now).2.idempotency.lookup scope = some record) :
    scope = r.scope := by
  unfold commitCreate at found
  split at found
  · rw [absent] at found; cases found
  · split at found
    · next registered =>
      exact scope_of_registered ⟨r.fingerprint, i⟩ absent registered (.inl rfl) found
    · next registered => exact scope_of_registered _ absent registered (.inr rfl) found

theorem commitTransition_record {current successor : Incident}
    (found : (m.commitTransition h r current successor now).2.idempotency.lookup scope =
      some record) : scope = r.scope := by
  unfold commitTransition at found
  split at found
  · rw [absent] at found; cases found
  · split at found
    · next registered =>
      exact scope_of_registered ⟨r.fingerprint, successor⟩ absent registered
        (.inl rfl) found
    · next registered => exact scope_of_registered _ absent registered (.inr rfl) found

theorem commitCorrelation_record {existing : Incident} {sources : List Identifier}
    (found : (m.commitCorrelation h r existing sources now).2.idempotency.lookup scope =
      some record) : scope = r.scope := by
  unfold commitCorrelation at found
  split at found
  · next registered =>
    exact scope_of_registered ⟨r.fingerprint, existing⟩ absent registered (.inl rfl)
      found
  · next registered => exact scope_of_registered _ absent registered (.inr rfl) found

end

theorem request_of_proceed {α : Type} {m : Memory} {request : Except RepositoryError Request}
    {work : Request → Except RepositoryError α} {r : Request} {a : α}
    (decided : (request >>= fun r => m.unlessReplayed r (work r)) = .ok (.proceed r a)) :
    request = .ok r := by
  obtain ⟨r', requested, found⟩ := Checks.bind_ok.mp decided
  rcases unlessReplayed_ok.mp found with ⟨_, _, _, same⟩ | ⟨_, _, _, same⟩
  · cases same
  · cases same; exact requested

theorem operation_of_createRequest {h : Host} {operation : String} {i : Incident}
    {w : WriteMetadata} {r : Request} (requested : createRequest h operation i w = .ok r) :
    r.scope.operation = operation := by
  simp only [createRequest, Checks.bind_ok, pure, Except.pure, Except.ok.injEq] at requested
  obtain ⟨_, _, _, _, scope, named, rfl⟩ := requested
  obtain ⟨_, _, _, rfl⟩ := requestScope_ok.mp named
  rfl

theorem operation_of_transitionRequest {h : Host} {incidentId : String} {target : IncidentStatus}
    {expected : Int} {w : WriteMetadata} {u : Updates} {r : Request}
    (requested : transitionRequest h incidentId target expected w u = .ok r) :
    r.scope.operation = "transition" := by
  simp only [transitionRequest, Checks.bind_ok, pure, Except.pure, Except.ok.injEq] at requested
  obtain ⟨_, _, _, _, _, _, scope, named, rfl⟩ := requested
  obtain ⟨_, _, _, rfl⟩ := requestScope_ok.mp named
  rfl

theorem operation_of_saveRequest {h : Host} {i : Incident} {expected : Int} {w : WriteMetadata}
    {r : Request} (requested : saveRequest h i expected w = .ok r) :
    r.scope.operation = "save" := by
  obtain ⟨_, _, _, named, _⟩ := saveRequest_ok.mp requested
  obtain ⟨_, _, _, same⟩ := requestScope_ok.mp named
  rw [same]

theorem scope_of_importRequest {h : Host} {i : Incident} {associations : List SourceEventAssociation}
    {w : WriteMetadata} {r : Request} (requested : importRequest h i associations w = .ok r) :
    r.scope = ⟨importOperation, i.incidentId.text, w.idempotencyKey⟩ := by
  simp only [importRequest, Checks.bind_ok, pure, Except.pure, Except.ok.injEq] at requested
  obtain ⟨_, _, _, _, _, _, _, _, _, _, _, _, _, _, _, _, _, _, _, _, scope, named, rfl⟩ := requested
  obtain ⟨_, _, _, rfl⟩ := requestScope_ok.mp named
  rfl

theorem imports_only {h : Host} {m : Memory} {call : Instant × Call} {scope : Scope}
    {record : IdempotencyRecord} (operation : scope.operation = importOperation)
    (absent : m.idempotency.lookup scope = none)
    (found : (m.next h call).idempotency.lookup scope = some record) :
    ∃ i associations w r, call.2 = .importDetectedSnapshot i associations w ∧
      importRequest h i associations w = .ok r ∧ scope = r.scope ∧
      record = ⟨r.fingerprint, i⟩ ∧
      m.importDetectedSnapshot h i associations w call.1 = (.ok i, m.next h call) := by
  obtain ⟨now, call⟩ := call
  have wrong : ∀ {text : String}, scope.operation = text → text ≠ importOperation → False :=
    fun named other => other (named ▸ operation)
  cases call with
  | create i w =>
    simp only [next, step, create] at found
    obtain ⟨r, work, decided, found⟩ := settle_record absent found
    have scope := commitCreate_record absent found
    exact (wrong (scope ▸ operation_of_createRequest (request_of_proceed decided))
      (by decide)).elim
  | createOrCorrelate i w =>
    simp only [next, step, createOrCorrelate] at found
    obtain ⟨r, work, decided, found⟩ := settle_record absent found
    obtain ⟨existing, candidate⟩ := work
    have scope : scope = r.scope := by
      cases existing with
      | some existing =>
        dsimp only at found
        exact commitCorrelation_record absent found
      | none =>
        dsimp only at found
        exact commitCreate_record absent found
    exact (wrong (scope ▸ operation_of_createRequest (request_of_proceed decided))
      (by decide)).elim
  | save i expected w =>
    simp only [next, step, save] at found
    obtain ⟨r, work, decided, found⟩ := settle_record absent found
    have scope := commitTransition_record absent found
    exact (wrong (scope ▸ operation_of_saveRequest (request_of_proceed decided)) (by decide)).elim
  | transition incidentId target expected w u =>
    simp only [next, step, transition] at found
    obtain ⟨r, work, decided, found⟩ := settle_record absent found
    have scope := commitTransition_record absent found
    exact (wrong (scope ▸ operation_of_transitionRequest (request_of_proceed decided))
      (by decide)).elim
  | importDetectedSnapshot i associations w =>
    simp only [next, step, importDetectedSnapshot] at found
    obtain ⟨r, event, decided, found⟩ := settle_record absent found
    have requested := (decideImport_proceed decided).1
    have named : scope = r.scope := by
      by_contra other
      simp only [writeIncident, AList.lookup_insert_ne other, absent] at found
      cases found
    refine ⟨i, associations, w, r, rfl, requested, named, ?_, ?_⟩
    · rw [named] at found
      simpa [writeIncident] using found.symm
    · simp only [next, step, importDetectedSnapshot, settle, decided]

/-- Every answer on record for an import is that of a known import, whose traces are there. -/
def ImportsKnown (h : Host) (known : Incident → List SourceEventAssociation → WriteMetadata → Prop)
    (m : Memory) : Prop :=
  ∀ scope record, m.idempotency.lookup scope = some record → scope.operation = importOperation →
    ∃ i associations w r, known i associations w ∧ importRequest h i associations w = .ok r ∧
      scope = r.scope ∧ record = ⟨r.fingerprint, i⟩ ∧ Imported h m i associations w r i

theorem ImportsKnown.next {h : Host}
    {known : Incident → List SourceEventAssociation → WriteMetadata → Prop} {m : Memory}
    (reachable : Reachable h m) (imports : ImportsKnown h known m) (call : Instant × Call)
    (listed : ∀ i associations w, call.2 = .importDetectedSnapshot i associations w →
      known i associations w) : ImportsKnown h known (m.next h call) := by
  intro scope record found operation
  cases before : m.idempotency.lookup scope with
  | some old =>
    have kept := (step_keeps (h := h) reachable.owned call.1 call.2).records _ _ before
    cases found.symm.trans kept
    obtain ⟨i, associations, w, r, member, requested, scope, rfl, imported⟩ :=
      imports scope record before operation
    exact ⟨i, associations, w, r, member, requested, scope, rfl,
      imported.next reachable.keyed reachable.owned call⟩
  | none =>
    obtain ⟨i, associations, w, r, named, requested, scope, rfl, accepted⟩ :=
      imports_only operation before found
    obtain ⟨r', requested', _, _, imported⟩ := imported_of_accepted reachable accepted
    cases requested.symm.trans requested'
    exact ⟨i, associations, w, r, listed i associations w named, requested, scope, rfl, imported⟩

def Requested (calls : List (Instant × Call)) (i : Incident)
    (associations : List SourceEventAssociation) (w : WriteMetadata) : Prop :=
  ∃ call ∈ calls, call.2 = .importDetectedSnapshot i associations w

theorem run_importsKnown (h : Host) (calls : List (Instant × Call)) :
    ImportsKnown h (Requested calls) (run h {} calls) := by
  have whole : ∀ (later : List (Instant × Call)) (m : Memory), later ⊆ calls → Reachable h m →
      ImportsKnown h (Requested calls) m → ImportsKnown h (Requested calls) (run h m later) := by
    intro later
    induction later with
    | nil => exact fun _ _ _ imports => imports
    | cons call rest ih =>
      intro m part reachable imports
      refine ih (m.next h call) (fun c member => part (List.mem_cons_of_mem _ member))
        (reachable.next call) (imports.next reachable call fun i associations w named => ?_)
      exact ⟨call, part List.mem_cons_self, named⟩
  refine whole calls {} (fun _ member => member) (run_reachable h []) fun _ _ found => ?_
  simp at found

end NetworkAgent.Memory
