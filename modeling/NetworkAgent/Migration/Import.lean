import NetworkAgent.Memory.Calls
import NetworkAgent.Migration.Bundle

/-! The import of a bundle: entries that need an operator are set aside before the target is
asked, the others are written one after the other, and an entry that the target refuses for
its keys is set aside as well. An interrupted import has handled a prefix of the entries. -/
namespace NetworkAgent

/-- `IncidentSnapshotImportResult`. -/
structure ImportResult where
  incident : Incident
  replayed : Bool

namespace Memory

def Decision.isReplayed {α : Type} : Decision α → Bool
  | .replayed _ => true
  | .proceed _ _ => false

/-- `import_detected_snapshot` with its whole answer. -/
def importResult (h : Host) (m : Memory) (i : Incident) (associations : List SourceEventAssociation)
    (w : WriteMetadata) (now : Instant) : Except RepositoryError ImportResult × Memory :=
  let decided := m.decideImport h i associations w now
  let answer := m.importDetectedSnapshot h i associations w now
  (answer.1.map fun s => ⟨s, decided.toOption.any Decision.isReplayed⟩, answer.2)

end Memory

namespace Migration
open Checks (each)

inductive QuarantineCode where
  | unsupportedLifecycle | legacyRequiresMapping | ambiguousSourceOwnership
  | ambiguousCorrelationOwnership | missingSourceProvenance | targetConflict
  deriving DecidableEq

def QuarantineCode.value : QuarantineCode → String
  | .unsupportedLifecycle => "UNSUPPORTED_LIFECYCLE"
  | .legacyRequiresMapping => "LEGACY_REQUIRES_MAPPING"
  | .ambiguousSourceOwnership => "AMBIGUOUS_SOURCE_OWNERSHIP"
  | .ambiguousCorrelationOwnership => "AMBIGUOUS_CORRELATION_OWNERSHIP"
  | .missingSourceProvenance => "MISSING_SOURCE_PROVENANCE"
  | .targetConflict => "TARGET_CONFLICT"

/-! The plan. -/

def MigrationEntry.sourceIds (e : MigrationEntry) : List String :=
  e.incident.sourceEventIds.map (·.text) ++ e.associations.map (·.sourceEventId.text)

def MigrationEntry.correlationKeys (e : MigrationEntry) : List String :=
  if e.incident.status.isActive then (e.incident.correlationKey.map (·.text)).toList else []

def claimants (keys : MigrationEntry → List String) (entries : List MigrationEntry) (key : String) :
    List String :=
  ((entries.filter fun e => key ∈ keys e).map MigrationEntry.id).dedup

def Ambiguous (keys : MigrationEntry → List String) (entries : List MigrationEntry)
    (incidentId : String) : Prop :=
  ∃ key ∈ entries.flatMap keys,
    incidentId ∈ claimants keys entries key ∧ 1 < (claimants keys entries key).length

instance (keys : MigrationEntry → List String) (entries : List MigrationEntry)
    (incidentId : String) : Decidable (Ambiguous keys entries incidentId) :=
  inferInstanceAs (Decidable (∃ _ ∈ _, _))

def legacyMarker (i : Incident) : Bool :=
  ["legacy_source", "legacy_id"].any fun key => i.modelMetadata.any fun f => f.1 == key

def quarantineCode (entries : List MigrationEntry) (e : MigrationEntry) : Option QuarantineCode :=
  if Ambiguous MigrationEntry.sourceIds entries e.id then some .ambiguousSourceOwnership
  else if Ambiguous MigrationEntry.correlationKeys entries e.id then
    some .ambiguousCorrelationOwnership
  else if legacyMarker e.incident then some .legacyRequiresMapping
  else if e.incident.status ≠ .detected ∨ e.incident.revision ≠ 0 then some .unsupportedLifecycle
  else if ¬ e.incident.sourceEventIds ⊆ e.associations.map (·.sourceEventId) then
    some .missingSourceProvenance
  else none

abbrev Quarantine := Table String QuarantineCode

def mark (code : MigrationEntry → Option QuarantineCode) (q : Quarantine) (e : MigrationEntry) :
    Quarantine :=
  match code e with
  | some c => q.insert e.id c
  | none => q

def quarantinePlan (entries : List MigrationEntry) : Quarantine :=
  entries.foldl (mark (quarantineCode entries)) ∅

/-! The loop. -/

def candidate (h : Host) (e : MigrationEntry) : Except MigrationError Incident :=
  match e.incident.modelValidate h with
  | .error error => .error (.validation error)
  | .ok () => do
    validateCanonicalItem h e.incident.toJson
    return e.incident

def idempotencyKey (h : Host) (sourceProfile : SourceProfile) (i : Incident) : String :=
  "migration-v1-" ++ (h.sha256 (utf8 "telco-canonical-import-v1\x00" ++ utf8 sourceProfile.text ++
    0 :: h.canonicalJson i.toJson)).text

def importMetadata (h : Host) (sourceProfile : SourceProfile) (i : Incident) : WriteMetadata where
  idempotencyKey := idempotencyKey h sourceProfile i
  actor := "canonical-migration"
  reason := "one-time canonical incident import"
  traceId := i.traceId.text

def isTargetConflict : RepositoryError → Bool
  | .activeConflict _ _ | .idempotencyConflict _ | .alreadyExists _ | .correlationConflict _ _
  | .ownershipConflict _ _ _ => true
  | _ => false

def requireCommitted (h : Host) (candidate committed : Incident) : Except MigrationError Unit :=
  match committed.modelValidate h with
  | .error _ => bundleError "migration target outcome is invalid"
  | .ok () => do
    validateCanonicalItem h committed.toJson
    requireBundle (PyEq.Same committed candidate) "migration target snapshot mismatch"

structure Tally where
  imported : Nat := 0
  replayed : Nat := 0
  quarantine : Quarantine

def Tally.count (t : Tally) (replayed : Bool) : Tally :=
  if replayed then { t with replayed := t.replayed + 1 } else { t with imported := t.imported + 1 }

def Tally.refuse (t : Tally) (incidentId : String) (error : RepositoryError) :
    Except MigrationError Tally :=
  if isTargetConflict error then
    .ok { t with quarantine := t.quarantine.insert incidentId .targetConflict }
  else match error with
    | .unsafeWrite _ _ => bundleError "migration target rejected canonical safety boundary"
    | _ => .error (.dependency "migration target dependency failed")

def importEntry (h : Host) (sourceProfile : SourceProfile) (now : Instant) (t : Tally) (m : Memory)
    (e : MigrationEntry) : Except MigrationError Tally × Memory :=
  if e.id ∈ t.quarantine then (.ok t, m)
  else match candidate h e with
    | .error error => (.error error, m)
    | .ok candidate =>
      let answer := m.importResult h candidate e.associations
        (importMetadata h sourceProfile candidate) now
      match answer.1 with
      | .ok outcome => (do
          requireCommitted h candidate outcome.incident
          return t.count outcome.replayed, answer.2)
      | .error error => (t.refuse e.id error, answer.2)

def importEntries (h : Host) (sourceProfile : SourceProfile) (clock : Nat → Instant) (index : Nat)
    (t : Tally) (m : Memory) : List MigrationEntry → Except MigrationError Tally × Memory
  | [] => (.ok t, m)
  | e :: rest =>
    match importEntry h sourceProfile (clock index) t m e with
    | (.error error, m) => (.error error, m)
    | (.ok t, m) => importEntries h sourceProfile clock (index + 1) t m rest

/-! The report. -/

structure QuarantineItem where
  entryIndex : Nat
  incidentId : String
  code : QuarantineCode
  deriving DecidableEq

structure MigrationReport where
  dryRun : Bool
  total : Nat
  eligible : Nat
  imported : Nat
  replayed : Nat
  quarantined : Nat
  quarantineCounts : List (String × Nat)
  quarantineItems : List QuarantineItem
  deriving DecidableEq

def quarantineItems (q : Quarantine) (entries : List MigrationEntry) : List QuarantineItem :=
  entries.zipIdx.filterMap fun (e, index) =>
    (q.lookup e.id).map fun code => { entryIndex := index, incidentId := e.id, code }

/-- How often each code occurs, in the order of the codes. -/
def quarantineCounts (items : List QuarantineItem) : List (String × Nat) :=
  let codes := items.map (·.code.value)
  (codes.dedup.insertionSort fun a b => textLe a b).map fun code => (code, codes.count code)

def report (dryRun : Bool) (b : MigrationBundle) (t : Tally) : MigrationReport where
  dryRun := dryRun
  total := b.entries.length
  eligible := b.entries.length - t.quarantine.entries.length
  imported := t.imported
  replayed := t.replayed
  quarantined := t.quarantine.entries.length
  quarantineCounts := quarantineCounts (quarantineItems t.quarantine b.entries)
  quarantineItems := quarantineItems t.quarantine b.entries

def MigrationBundle.start (b : MigrationBundle) : Tally :=
  { quarantine := quarantinePlan b.entries }

def checkCandidates (h : Host) (q : Quarantine) (entries : List MigrationEntry) :
    Except MigrationError Unit :=
  each (fun e => if e.id ∈ q then .ok () else (fun _ => ()) <$> candidate h e) entries

def importMigrationBundle (h : Host) (b : MigrationBundle) (dryRun : Bool) (clock : Nat → Instant)
    (m : Memory) : Except MigrationError MigrationReport × Memory :=
  match validateMigrationBundle h b with
  | .error error => (.error error, m)
  | .ok () =>
    if dryRun then
      ((fun _ => report true b b.start) <$> checkCandidates h b.start.quarantine b.entries, m)
    else
      let done := importEntries h b.sourceProfile clock 0 b.start m b.entries
      (report false b <$> done.1, done.2)

/-- The target after an import that was stopped when it had handled some of the entries. -/
def interrupted (h : Host) (b : MigrationBundle) (handled : Nat) (clock : Nat → Instant)
    (m : Memory) : Memory :=
  (importEntries h b.sourceProfile clock 0 b.start m (b.entries.take handled)).2

end Migration
end NetworkAgent
