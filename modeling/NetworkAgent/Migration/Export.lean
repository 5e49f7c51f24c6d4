import NetworkAgent.Library.Paging
import NetworkAgent.Migration.Bundle

/-! The export of a repository into a bundle, and the two ends of a bundle's file. -/
namespace NetworkAgent.Migration
open Checks (require each)

def associationPageSize : Nat := 25

/-- The reads of a repository that an export makes: a page of the incidents, and a page of the
associations of one. -/
structure Reads (ε : Type) where
  list : Nat → Nat → Except ε (List Incident)
  sourceEventAssociations : String → Nat → Nat → Except ε (List SourceEventAssociation)

/-- An export fails by itself, or with what the repository raises. -/
inductive ExportFault (ε : Type) where
  | migration (error : MigrationError)
  | source (error : ε)

def liftMigration {ε α : Type} : Except MigrationError α → Except (ExportFault ε) α
  | .ok a => .ok a
  | .error e => .error (.migration e)

@[simp] theorem liftMigration_ok {ε α : Type} {x : Except MigrationError α} {a : α} :
    (liftMigration x : Except (ExportFault ε) α) = .ok a ↔ x = .ok a := by
  cases x <;> simp [liftMigration]

def liftSource {ε α : Type} : Except ε α → Except (ExportFault ε) α
  | .ok a => .ok a
  | .error e => .error (.source e)

@[simp] theorem liftSource_ok {ε α : Type} {x : Except ε α} {a : α} :
    liftSource x = .ok a ↔ x = .ok a := by
  cases x <;> simp [liftSource]

/-! The models of a bundle. -/

/-- What `validate_associations` finds first. -/
def bindingProblem (incidentId : Identifier) :
    List Identifier → List SourceEventAssociation → Option String
  | _, [] => none
  | seen, a :: rest =>
    if a.incidentId ≠ incidentId then some "association incident binding mismatch"
    else if a.sourceEventId ∈ seen then some "duplicate source association"
    else bindingProblem incidentId (a.sourceEventId :: seen) rest

def Attached (i : Incident) (associations : List SourceEventAssociation) : Prop :=
  associations.length ≤ maxMigrationIncidents ∧ (∀ a ∈ associations, a.incidentId = i.incidentId) ∧
    (associations.map (·.sourceEventId)).Nodup ∧
    associations.Pairwise fun a b => textLe a.sourceEventId.text b.sourceEventId.text = true

instance (i : Incident) (associations : List SourceEventAssociation) :
    Decidable (Attached i associations) := inferInstanceAs (Decidable (_ ∧ _ ∧ _ ∧ _))

/-- `MigrationEntry`. -/
def MigrationEntry.make (h : Host) (i : Incident) (associations : List SourceEventAssociation) :
    Except MigrationError MigrationEntry :=
  match i.modelValidate h with
  | .error e => .error (.validation e)
  | .ok () =>
    if attached : Attached i associations then
      .ok ⟨i, associations, attached.1, attached.2.1, attached.2.2.1, attached.2.2.2⟩
    else if maxMigrationIncidents < associations.length then
      .error (.validation (.message "associations must have at most 1000 items"))
    else .error (.validation (.message ((bindingProblem i.incidentId [] associations).getD
      "source associations must be sorted by source_event_id")))

def Exportable (exportedAt : Instant) (entries : List MigrationEntry) : Prop :=
  entries.length ≤ maxMigrationIncidents ∧ (entries.map MigrationEntry.id).Nodup ∧
    ∀ e ∈ entries, e.incident.updatedAt ≤ exportedAt ∧
      ∀ a ∈ e.associations, a.registeredAt ≤ exportedAt

instance (exportedAt : Instant) (entries : List MigrationEntry) :
    Decidable (Exportable exportedAt entries) := inferInstanceAs (Decidable (_ ∧ _ ∧ _))

def invalidBundle : String := "migration bundle is invalid or unsafe"

/-- `MigrationBundle`. -/
def MigrationBundle.make (profile : String) (exportedAt : Instant) (entries : List MigrationEntry)
    (checksumSha256 : Sha256.Digest) : Except MigrationError MigrationBundle :=
  match Text.Bounded.parse isSpace 128 profile with
  | none => bundleError invalidBundle
  | some sourceProfile =>
    if passed : Exportable exportedAt entries then
      .ok ⟨sourceProfile, exportedAt, entries, checksumSha256, passed.1, passed.2.1, passed.2.2⟩
    else bundleError invalidBundle

/-! `create_migration_bundle`. -/

/-- `_unsigned_payload` for a profile as it was given. -/
def unsignedOf (profile : String) (exportedAt : Instant) (entries : List MigrationEntry) : Json :=
  .obj [("schema_version", .str migrationSchemaVersion), ("source_profile", .str profile),
    ("exported_at", dumpTime "+00:00" exportedAt),
    ("entries", dumpList MigrationEntry.toJson entries)]

def checkEntries (h : Host) : Nat → List MigrationEntry → Except MigrationError Unit
  | _, [] => .ok ()
  | size, e :: rest => do
    requireBundle (e.incident.modelValidate h = .ok ()) invalidBundle
    validateCanonicalItem h e.incident.toJson
    each (fun a => validateCanonicalItem h a.toJson) e.associations
    requireBundle (size + serializedBytes h e.toJson + 1 ≤ maxMigrationBundleBytes)
      "migration bundle exceeds 16 MiB"
    checkEntries h (size + serializedBytes h e.toJson + 1) rest

def createMigrationBundle (h : Host) (sourceProfile : String) (exportedAt : Instant)
    (entries : List MigrationEntry) : Except MigrationError MigrationBundle := do
  requireBundle (isBlank sourceProfile = false) "source_profile must not be blank"
  requireBundle (entries.length ≤ maxMigrationIncidents) "migration bundle exceeds 1000 incidents"
  checkEntries h 0 entries
  let payload := unsignedOf (strip sourceProfile) exportedAt entries
  requireBundle (findSensitivePaths h "$" payload = []) invalidBundle
  requireBundle (payload.depth ≤ maxMigrationDepth) "migration bundle exceeds depth limit"
  let bundle ← MigrationBundle.make (strip sourceProfile) exportedAt entries (checksum h payload)
  requireBundle (serializedBytes h bundle.toJson + 1 ≤ maxMigrationBundleBytes)
    "migration bundle exceeds 16 MiB"
  return bundle

/-! `export_migration_bundle`. -/

def exportTooLarge : String := "migration export exceeds 16 MiB"

/-- The associations of an entry so far, and the size of the entry with them. -/
structure Collected where
  associations : List SourceEventAssociation := []
  entryBytes : Nat

/-- One association of a page; the size comes on top of what the bundle has already. -/
def collect (h : Host) (before : Nat) (c : Collected) (a : SourceEventAssociation) :
    Except MigrationError Collected := do
  validateCanonicalItem h a.toJson
  requireBundle (a.sourceEventId ∉ c.associations.map (·.sourceEventId))
    "migration source returned duplicate association"
  requireBundle (∀ last ∈ c.associations.getLast?,
      textLe a.sourceEventId.text last.sourceEventId.text = false)
    "migration source returned unordered associations"
  let entryBytes := c.entryBytes + serializedBytes h a.toJson +
    if c.associations = [] then 0 else 1
  requireBundle (before + entryBytes ≤ maxMigrationBundleBytes) exportTooLarge
  return ⟨c.associations ++ [a], entryBytes⟩

section
variable {ε : Type}

/-- The pages of associations, from an offset on; every page moves the offset, so that the fuel
that the offset falls short of 1000 is enough. -/
def collectPages (h : Host) (s : Reads ε) (incidentId : String) (before : Nat) :
    Nat → Nat → Collected → Except (ExportFault ε) (Nat × Collected)
  | 0, offset, c => .ok (offset, c)
  | fuel + 1, offset, c =>
    if maxMigrationIncidents ≤ offset then .ok (offset, c)
    else do
      let limit := min associationPageSize (maxMigrationIncidents - offset)
      let page ← liftSource (s.sourceEventAssociations incidentId limit offset)
      liftMigration (requireBundle (page.length ≤ limit)
        "migration source violated association page limit")
      if page = [] then return (offset, c)
      else do
        let c ← liftMigration (page.foldlM (collect h before) c)
        if page.length < limit then return (offset + page.length, c)
        else collectPages h s incidentId before fuel (offset + page.length) c

def requireNoMore (s : Reads ε) (incidentId : String) (offset : Nat) :
    Except (ExportFault ε) Unit :=
  if offset = maxMigrationIncidents then do
    let extra ← liftSource (s.sourceEventAssociations incidentId 1 maxMigrationIncidents)
    liftMigration (requireBundle (extra = []) "migration export exceeds 1000 source associations")
  else .ok ()

def exportEntry (h : Host) (s : Reads ε) (runningBytes : Nat) (entries : List MigrationEntry)
    (i : Incident) : Except (ExportFault ε) (Nat × MigrationEntry) := do
  liftMigration (validateCanonicalItem h i.toJson)
  let emptyEntry ← liftMigration (MigrationEntry.make h i [])
  let before := runningBytes + if entries = [] then 0 else 1
  liftMigration (requireBundle
    (before + serializedBytes h emptyEntry.toJson ≤ maxMigrationBundleBytes) exportTooLarge)
  let (offset, c) ← collectPages h s i.incidentId.text before maxMigrationIncidents 0
    { entryBytes := serializedBytes h emptyEntry.toJson }
  requireNoMore s i.incidentId.text offset
  let entry ← liftMigration (MigrationEntry.make h i c.associations)
  liftMigration (requireBundle
    (before + serializedBytes h entry.toJson ≤ maxMigrationBundleBytes) exportTooLarge)
  return (before + serializedBytes h entry.toJson, entry)

/-- The incidents one by one, from an offset on, for as many as a bundle still takes. -/
def exportEntries (h : Host) (s : Reads ε) :
    Nat → Nat → Nat → List MigrationEntry → Except (ExportFault ε) (List MigrationEntry)
  | 0, _, _, entries => .ok entries
  | left + 1, offset, runningBytes, entries => do
    match ← liftSource (s.list 1 offset) with
    | [] => return entries
    | [i] => do
      let (runningBytes, entry) ← exportEntry h s runningBytes entries i
      exportEntries h s left (offset + 1) runningBytes (entries ++ [entry])
    | _ => liftMigration (bundleError "migration source violated page limit")

/-- The bundle before its entries are known, with a checksum of the right length. -/
def emptyBundlePayload (profile : String) (exportedAt : Instant) : Json :=
  .obj [("schema_version", .str migrationSchemaVersion), ("source_profile", .str profile),
    ("exported_at", dumpTime "+00:00" exportedAt), ("entries", .arr []),
    ("checksum_sha256", .str (String.ofList (List.replicate 64 '0')))]

def requireNoMoreIncidents (s : Reads ε) (entries : List MigrationEntry) :
    Except (ExportFault ε) Unit :=
  if entries.length = maxMigrationIncidents then do
    let extra ← liftSource (s.list 1 maxMigrationIncidents)
    liftMigration (requireBundle (extra = []) "migration export exceeds 1000 incidents")
  else .ok ()

def exportMigrationBundle (h : Host) (s : Reads ε) (sourceProfile : String)
    (exportedAt : Instant) : Except (ExportFault ε) MigrationBundle := do
  liftMigration (requireBundle (isBlank sourceProfile = false) "source_profile must not be blank")
  let profile := strip sourceProfile
  let entries ← exportEntries h s maxMigrationIncidents 0
    (serializedBytes h (emptyBundlePayload profile exportedAt) + 1) []
  requireNoMoreIncidents s entries
  liftMigration (createMigrationBundle h profile exportedAt entries)

end

/-! The file of a bundle. -/

def dumpMigrationBundle (h : Host) (b : MigrationBundle) : Except MigrationError (List Nat) := do
  validateMigrationBundle h b
  return dumpBundle h b

/-- What reads a file: `json.loads` with the hooks of the module, and the model of a bundle. -/
structure Decoder where
  payload : List Nat → Option Json
  bundle : Json → Option MigrationBundle

def loadMigrationBundle (h : Host) (decoder : Decoder) (data : List Nat) :
    Except MigrationError MigrationBundle := do
  requireBundle (data.length ≤ maxMigrationBundleBytes) "migration bundle exceeds 16 MiB"
  match decoder.payload data with
  | none => bundleError invalidBundle
  | some payload => do
    requireBundle (payload.depth ≤ maxMigrationDepth) "migration bundle exceeds depth limit"
    requireBundle (findSensitivePaths h "$" payload = []) invalidBundle
    match decoder.bundle payload with
    | none => bundleError invalidBundle
    | some b => do
      validateMigrationBundle h b
      return b

end NetworkAgent.Migration
