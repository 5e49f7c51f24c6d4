import NetworkAgent.Cloud.ActiveKeys

/-! The inconsistencies that a call can report: those that its reads report, and its own. -/
namespace NetworkAgent.Cloud
open Checks
open Memory (Request)

abbrev Unreported {α : Type} (text : String) (x : Except IncidentError α) : Prop :=
  Avoids (.inconsistent text) x

section
variable {α : Type} {text : String}

theorem liftInput_avoids (x : Except InputError α) : Unreported text (liftInput x) := by
  cases x with
  | ok a => exact avoids_ok a
  | error e => exact avoids_error (by simp)

theorem liftValidation_avoids (v : Validation) : Unreported text (liftValidation v) := by
  cases v with
  | ok a => exact avoids_ok ()
  | error e => exact avoids_error (by simp)

theorem liftTransition_avoids (x : Except TransitionError α) :
    Unreported text (liftTransition x) := by
  cases x with
  | ok a => exact avoids_ok a
  | error e => exact avoids_error (by simp)

theorem requireSafe_avoids (h : Host) (boundary : String) (value : Json) :
    Unreported text (requireSafe h boundary value) := liftInput_avoids _

theorem requireValue_avoids (condition : Prop) [Decidable condition] (value : String) :
    Unreported text (requireValue condition value) := avoids_require (by simp)

theorem requireConsistent_avoids {condition : Prop} [Decidable condition] {reported : String}
    (other : reported ≠ text) : Unreported text (requireConsistent condition reported) :=
  avoids_require fun same => other (IncidentError.inconsistent.inj same)

theorem inserted_avoids (table : String) (x : Option α) :
    Unreported text (inserted table x) := by
  cases x with
  | some a => exact avoids_ok a
  | none => exact avoids_error (by simp)

theorem boundedPage_avoids {R A : Type} {h : Host} {boundary : String}
    {parse : R → Except IncidentError A} {image : A → Json} {size : Nat} {rows : List R}
    (each : ∀ r ∈ rows, Unreported text (parse r)) :
    Unreported text (boundedPage h boundary parse image size rows) := by
  induction rows generalizing size with
  | nil => exact avoids_ok _
  | cons r rest ih =>
    exact avoids_bind (each r List.mem_cons_self) fun a _ =>
      avoids_bind (avoids_require (by simp)) fun _ _ =>
        avoids_bind (ih fun r member => each r (List.mem_cons_of_mem _ member)) fun _ _ =>
          avoids_ok _

theorem requestScope_avoids (operation incidentId idempotencyKey : String) :
    Unreported text (requestScope operation incidentId idempotencyKey) :=
  avoids_bind (liftInput_avoids _) fun _ _ => avoids_bind (liftInput_avoids _) fun _ _ =>
    avoids_bind (liftInput_avoids _) fun _ _ => avoids_ok _

theorem requireWriteMetadata_avoids (h : Host) (w : WriteMetadata) :
    Unreported text (requireWriteMetadata h w) :=
  avoids_bind (liftInput_avoids _) fun _ _ => avoids_bind (liftInput_avoids _) fun _ _ =>
    avoids_bind (liftInput_avoids _) fun _ _ => avoids_bind (liftInput_avoids _) fun _ _ =>
      requireSafe_avoids _ _ _

end

namespace Spanner

def ownTexts : List String :=
  ["persisted source association capacity exceeded", "persisted active-key capacity exceeded",
    "persisted migration replay snapshot is inconsistent",
    "persisted migration Incident is missing",
    "persisted migration Incident lineage is inconsistent",
    "persisted migration source provenance is inconsistent",
    "persisted migration audit is missing", "persisted migration audit is inconsistent",
    "persisted migration active-key capacity exceeded",
    "persisted migration active key is inconsistent"]

/-- Neither the reads of the state nor the calls themselves report the text. -/
structure Quiet (h : Host) (s : Spanner) (text : String) : Prop where
  get : ∀ incidentId, Unreported text (s.get h incidentId)
  replay : ∀ scope fp, Unreported text (s.replay h scope fp)
  page : ∀ boundary incidentId, Unreported text (s.sourcePage h boundary incidentId)
  event : ∀ incidentId row, s.audit.lookup (incidentId, 0) = some row →
    Unreported text (row.parse h incidentId)
  keys : ∀ keys accept, (∀ row, Unreported text (accept row)) →
    Unreported text (checkKeyRows keys accept [] (s.keyRows keys))
  found : ∀ keys requestedId,
    Unreported text (s.findActiveForKeys h keys requestedId)
  own : ∀ reported ∈ ownTexts, reported ≠ text

variable {h : Host} {s : Spanner} {text : String}

theorem apply_avoids (m : Mutation) : Unreported text (s.apply m) := by
  have refused : ∀ table, IncidentError.constraint table ≠ .inconsistent text := by simp
  cases m with
  | insertIncident row =>
    exact avoids_bind (avoids_require (refused _)) fun _ _ =>
      avoids_bind (inserted_avoids _ _) fun _ _ => avoids_ok _
  | updateIncident row => exact avoids_bind (avoids_require (refused _)) fun _ _ => avoids_ok _
  | insertSourceEvents rows =>
    exact avoids_bind (avoids_require (refused _)) fun _ _ =>
      avoids_bind (inserted_avoids _ _) fun _ _ =>
        avoids_bind (avoids_require (refused _)) fun _ _ => avoids_ok _
  | insertActiveKeys rows => exact avoids_bind (inserted_avoids _ _) fun _ _ => avoids_ok _
  | deleteActiveKeys hashes => exact avoids_ok _
  | insertAudit row =>
    exact avoids_bind (avoids_require (refused _)) fun _ _ =>
      avoids_bind (inserted_avoids _ _) fun _ _ =>
        avoids_bind (avoids_require (refused _)) fun _ _ => avoids_ok _
  | insertIdempotency scope row => exact avoids_bind (inserted_avoids _ _) fun _ _ => avoids_ok _

theorem commit_avoids (mutations : List Mutation) (s : Spanner) :
    Unreported text (commit mutations s) := by
  induction mutations generalizing s with
  | nil => exact avoids_ok s
  | cons m rest ih => exact avoids_bind (apply_avoids m) fun s' _ => ih s'

theorem execute_avoids {α : Type} {transaction : Except IncidentError (Buffered α)}
    (callback : Unreported text transaction) : Unreported text (s.execute transaction).1 := by
  unfold execute
  split
  · exact fun same => callback (congrArg Except.error (Except.error.inj same))
  · next a mutations =>
    have commits : Unreported text (commit mutations s) := commit_avoids mutations s
    revert commits
    cases commit mutations s with
    | error e => exact fun commits same => commits (congrArg Except.error (Except.error.inj same))
    | ok s' => exact fun _ => avoids_ok a

theorem requireSourceEventOwners_avoids (incidentId : String) (ids : List String) :
    Unreported text (s.requireSourceEventOwners incidentId ids) :=
  avoids_each fun _ _ => avoids_require (by simp)

theorem associate_avoids (incidentId : Identifier) (now : Instant) (r : Request)
    (existing : List SourceEventAssociation) (ids : List Identifier) :
    Unreported text (associate h incidentId now r existing ids) := by
  induction ids with
  | nil => exact avoids_ok _
  | cons id rest ih =>
    unfold associate
    split
    · exact avoids_bind ih fun _ _ => avoids_ok _
    · split
      · exact avoids_error (by simp)
      · exact avoids_bind (requireSafe_avoids _ _ _) fun _ _ => avoids_bind ih fun _ _ => avoids_ok _

theorem auditEventOf_avoids (i : Incident) (fromStatus : Option IncidentStatus) (r : Request)
    (now : Instant) : Unreported text (auditEventOf h i fromStatus r now) := by
  unfold auditEventOf
  split
  · exact avoids_ok _
  · exact avoids_error (by simp)

theorem validateNewIncident_avoids (i : Incident) (traceId : String) (now : Instant) :
    Unreported text (validateNewIncident h i traceId now) :=
  avoids_bind (requireValue_avoids _ _) fun _ _ => avoids_bind (requireValue_avoids _ _) fun _ _ =>
    avoids_bind (requireValue_avoids _ _) fun _ _ =>
      avoids_bind (liftValidation_avoids _) fun _ _ =>
        avoids_bind (requireSafe_avoids _ _ _) fun _ _ => avoids_ok _

theorem requireAssociations_avoids (size : Nat) (associations : List SourceEventAssociation) :
    Unreported text (requireAssociations h size associations) := by
  induction associations generalizing size with
  | nil => exact avoids_ok ()
  | cons a rest ih =>
    exact avoids_bind (requireSafe_avoids _ _ _) fun _ _ =>
      avoids_bind (avoids_require (by simp)) fun _ _ => ih _

section
variable (quiet : Quiet h s text)
include quiet

theorem Quiet.other {reported : String} (mine : reported ∈ ownTexts) :
    IncidentError.inconsistent reported ≠ .inconsistent text := fun same =>
  quiet.own reported mine (IncidentError.inconsistent.inj same)

theorem Quiet.consistent {condition : Prop} [Decidable condition] {reported : String}
    (mine : reported ∈ ownTexts) : Unreported text (requireConsistent condition reported) :=
  requireConsistent_avoids (quiet.own reported mine)

theorem requireCurrent_avoids (incidentId : String) :
    Unreported text (s.requireCurrent h incidentId) := by
  refine avoids_bind (quiet.get incidentId) fun found _ => ?_
  cases found with
  | none => exact avoids_error (by simp)
  | some i => exact avoids_ok i

theorem requireAbsent_avoids (incidentId : String) :
    Unreported text (s.requireAbsent h incidentId) := by
  refine avoids_bind (quiet.get incidentId) fun found _ => ?_
  cases found with
  | none => exact avoids_ok ()
  | some i => exact avoids_error (by simp)

theorem unlessReplayed_avoids (r : Request) {work : Except IncidentError (Buffered Incident)}
    (works : Unreported text work) : Unreported text (s.unlessReplayed h r work) := by
  refine avoids_bind (quiet.replay _ _) fun found _ => ?_
  cases found with
  | some i => exact avoids_ok _
  | none => exact works

theorem registerSourceEvents_avoids (incidentId : Identifier) (ids : List Identifier)
    (now : Instant) (r : Request) :
    Unreported text (s.registerSourceEvents h incidentId ids now r) :=
  avoids_bind (requireSourceEventOwners_avoids _ _) fun _ _ =>
    avoids_bind (quiet.page _ _) fun _ _ =>
      avoids_bind (quiet.consistent (by simp [ownTexts])) fun _ _ =>
        avoids_bind (requireValue_avoids _ _) fun _ _ =>
          avoids_bind (associate_avoids _ _ _ _ _) fun _ _ => avoids_ok _

theorem acquireActiveKeys_avoids (incidentId : String) (keys : List ActiveKey) :
    Unreported text (s.acquireActiveKeys incidentId keys) :=
  avoids_bind (quiet.keys _ _ fun _ => avoids_require (by simp)) fun _ _ =>
    avoids_ok _

theorem commitCreate_avoids (r : Request) (i : Incident) (now : Instant) :
    Unreported text (s.commitCreate h r i now) :=
  avoids_bind (auditEventOf_avoids _ _ _ _) fun _ _ =>
    avoids_bind (registerSourceEvents_avoids quiet _ _ _ _) fun _ _ =>
      avoids_bind (acquireActiveKeys_avoids quiet _ _) fun _ _ => avoids_ok _

theorem moveActiveKeys_avoids (current successor : Incident) :
    Unreported text (s.moveActiveKeys h current successor) := by
  unfold moveActiveKeys
  extract_lets
  split
  · refine avoids_bind (avoids_bind (quiet.consistent (by simp [ownTexts])) fun _ _ =>
      avoids_ok _) fun _ _ => avoids_bind (quiet.found _ _) fun found _ => ?_
    split
    · exact avoids_bind (avoids_require (by simp)) fun _ _ =>
        acquireActiveKeys_avoids quiet _ _
    · exact acquireActiveKeys_avoids quiet _ _
  · split
    · exact avoids_bind (quiet.consistent (by simp [ownTexts])) fun _ _ => avoids_ok _
    · split
      · exact acquireActiveKeys_avoids quiet _ _
      · exact avoids_ok _

theorem commitTransition_avoids (r : Request) (current successor : Incident) (now : Instant) :
    Unreported text (s.commitTransition h r current successor now) :=
  avoids_bind (registerSourceEvents_avoids quiet _ _ _ _) fun _ _ =>
    avoids_bind (moveActiveKeys_avoids quiet _ _) fun _ _ =>
      avoids_bind (auditEventOf_avoids _ _ _ _) fun _ _ => avoids_ok _

theorem validateImportReplay_avoids (replayed i : Incident)
    (associations : List SourceEventAssociation) (r : Request) :
    Unreported text (s.validateImportReplay h replayed i associations r) := by
  refine avoids_bind (quiet.consistent (by simp [ownTexts])) fun _ _ =>
    avoids_bind (quiet.get _) fun found _ => ?_
  split
  · exact avoids_error (quiet.other (by simp [ownTexts]))
  · refine avoids_bind (quiet.consistent (by simp [ownTexts])) fun _ _ =>
      avoids_bind (quiet.page _ _) fun _ _ =>
        avoids_bind (quiet.consistent (by simp [ownTexts])) fun _ _ => ?_
    split
    · exact avoids_error (quiet.other (by simp [ownTexts]))
    · next row stored =>
      exact avoids_bind (quiet.event _ row stored) fun _ _ =>
        avoids_bind (quiet.consistent (by simp [ownTexts])) fun _ _ =>
          avoids_bind (quiet.consistent (by simp [ownTexts])) fun _ _ =>
            quiet.consistent (by simp [ownTexts])

theorem correlateTx_avoids (i : Incident)
    (traceId : String) (r : Request) (now : Instant) :
    Unreported text (s.correlateTx h i traceId r now) := by
  refine avoids_bind (validateNewIncident_avoids _ _ _) fun _ _ =>
    avoids_bind (quiet.found _ _) fun found _ => ?_
  split
  · exact avoids_bind (registerSourceEvents_avoids quiet _ _ _ _) fun _ _ =>
      avoids_bind (acquireActiveKeys_avoids quiet _ _) fun _ _ => avoids_ok _
  · exact avoids_bind (requireAbsent_avoids quiet _) fun _ _ =>
      avoids_bind (commitCreate_avoids quiet _ _ _) fun _ _ => avoids_ok _

theorem step_avoids (now : Instant) (call : Call) :
    Unreported text (s.step h now call).1 := by
  have created : ∀ operation i w, Unreported text (createRequest h operation i w) := fun _ _ _ =>
    avoids_bind (requireWriteMetadata_avoids _ _) fun _ _ =>
      avoids_bind (requireSafe_avoids _ _ _) fun _ _ =>
        avoids_bind (requestScope_avoids _ _ _) fun _ _ => avoids_ok _
  cases call with
  | create i w =>
    refine execute_avoids (avoids_bind (created _ _ _) fun r _ => unlessReplayed_avoids quiet r ?_)
    refine avoids_bind (requireAbsent_avoids quiet _) fun _ _ =>
      avoids_bind (validateNewIncident_avoids _ _ _) fun _ _ =>
        avoids_bind (requireSourceEventOwners_avoids _ _) fun _ _ =>
          avoids_bind (quiet.found _ _) fun found _ => ?_
    split
    · exact avoids_error (by simp)
    · exact avoids_bind (commitCreate_avoids quiet _ _ _) fun _ _ => avoids_ok _
  | createOrCorrelate i w =>
    refine execute_avoids (avoids_bind (created _ _ _) fun r _ =>
      avoids_bind (avoids_bind (quiet.replay _ _) fun found _ => ?_) fun _ _ => avoids_ok _)
    cases found with
    | some i => exact avoids_ok _
    | none => exact correlateTx_avoids quiet _ _ _ _
  | importDetectedSnapshot i associations w =>
    change Unreported text (Prod.fst <$> (s.importDetectedSnapshot h i associations w now).1)
    refine avoids_map (execute_avoids (avoids_bind ?_ fun r _ =>
      avoids_bind (quiet.replay _ _) fun found _ => ?_))
    · exact avoids_bind (requireWriteMetadata_avoids _ _) fun _ _ =>
        avoids_bind (liftValidation_avoids _) fun _ _ =>
        avoids_bind (requireValue_avoids _ _) fun _ _ =>
        avoids_bind (requireValue_avoids _ _) fun _ _ =>
        avoids_bind (requireSafe_avoids _ _ _) fun _ _ =>
        avoids_bind (requireValue_avoids _ _) fun _ _ =>
        avoids_bind (requireAssociations_avoids _ _) fun _ _ =>
        avoids_bind (requireValue_avoids _ _) fun _ _ =>
        avoids_bind (requireValue_avoids _ _) fun _ _ =>
        avoids_bind (requireValue_avoids _ _) fun _ _ =>
        avoids_bind (requestScope_avoids _ _ _) fun _ _ => avoids_ok _
    · cases found with
      | some result =>
        exact avoids_bind (validateImportReplay_avoids quiet _ _ _ _) fun _ _ => avoids_ok _
      | none =>
        refine avoids_bind (requireAbsent_avoids quiet _) fun _ _ =>
          avoids_bind (requireSourceEventOwners_avoids _ _) fun _ _ =>
            avoids_bind (quiet.found _ _) fun found _ => ?_
        split
        · exact avoids_error (by simp)
        · exact avoids_bind (auditEventOf_avoids _ _ _ _) fun _ _ =>
            avoids_bind (acquireActiveKeys_avoids quiet _ _) fun _ _ => avoids_ok _
  | save i expected w =>
    refine execute_avoids (avoids_bind ?_ fun r _ => unlessReplayed_avoids quiet r ?_)
    · exact avoids_bind (requireWriteMetadata_avoids _ _) fun _ _ =>
        avoids_bind (requireSafe_avoids _ _ _) fun _ _ =>
        avoids_bind (requireValue_avoids _ _) fun _ _ =>
        avoids_bind (requestScope_avoids _ _ _) fun _ _ => avoids_ok _
    · exact avoids_bind (requireCurrent_avoids quiet _) fun _ _ =>
        avoids_bind (avoids_require (by simp)) fun _ _ =>
        avoids_bind (requireValue_avoids _ _) fun _ _ =>
        avoids_bind (liftValidation_avoids _) fun _ _ =>
        avoids_bind (requireSafe_avoids _ _ _) fun _ _ =>
        avoids_bind (liftTransition_avoids _) fun _ _ =>
        avoids_bind (avoids_require (by simp)) fun _ _ =>
        avoids_bind (commitTransition_avoids quiet _ _ _ _) fun _ _ => avoids_ok _
  | transition incidentId target expected w u =>
    refine execute_avoids (avoids_bind ?_ fun r _ => unlessReplayed_avoids quiet r ?_)
    · exact avoids_bind (requireWriteMetadata_avoids _ _) fun _ _ =>
        avoids_bind (liftInput_avoids _) fun _ _ =>
        avoids_bind (requireValue_avoids _ _) fun _ _ =>
        avoids_bind (requireSafe_avoids _ _ _) fun _ _ =>
        avoids_bind (requestScope_avoids _ _ _) fun _ _ => avoids_ok _
    · exact avoids_bind (requireCurrent_avoids quiet _) fun _ _ =>
        avoids_bind (avoids_require (by simp)) fun _ _ =>
        avoids_bind (requireValue_avoids _ _) fun _ _ =>
        avoids_bind (liftTransition_avoids _) fun _ _ =>
        avoids_bind (requireSafe_avoids _ _ _) fun _ _ =>
        avoids_bind (commitTransition_avoids quiet _ _ _ _) fun _ _ => avoids_ok _

end

end Spanner
end NetworkAgent.Cloud
