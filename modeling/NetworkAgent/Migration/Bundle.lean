import NetworkAgent.Domain.Validation

/-! The checksummed snapshot of one repository that a migration carries to another. -/
namespace NetworkAgent.Migration
open Checks (require each)

inductive MigrationError where
  | bundle (text : String)
  | dependency (text : String)
  | validation (error : ModelError)
  deriving DecidableEq

def maxMigrationIncidents : Nat := 1000
def maxMigrationBundleBytes : Nat := 16 * 1024 * 1024
def maxMigrationDepth : Nat := maxContractDepth + 6

structure MigrationEntry where
  incident : Incident
  associations : List SourceEventAssociation := []
  bounded : associations.length ≤ maxMigrationIncidents
  bound : ∀ a ∈ associations, a.incidentId = incident.incidentId
  distinct : (associations.map (·.sourceEventId)).Nodup
  sorted : associations.Pairwise fun a b => textLe a.sourceEventId.text b.sourceEventId.text = true
  deriving DecidableEq

def MigrationEntry.id (e : MigrationEntry) : String := e.incident.incidentId.text

def MigrationEntry.toJson (e : MigrationEntry) : Json := .obj
  [("incident", e.incident.toJson),
   ("associations", dumpList SourceEventAssociation.toJson e.associations)]

abbrev SourceProfile := Text.Bounded isSpace 128

structure MigrationBundle where
  sourceProfile : SourceProfile
  exportedAt : Instant
  entries : List MigrationEntry
  checksumSha256 : Sha256.Digest
  bounded : entries.length ≤ maxMigrationIncidents
  distinct : (entries.map MigrationEntry.id).Nodup
  exported : ∀ e ∈ entries, e.incident.updatedAt ≤ exportedAt ∧
    ∀ a ∈ e.associations, a.registeredAt ≤ exportedAt
  deriving DecidableEq

def migrationSchemaVersion : String := "1.0"

def MigrationBundle.toJson (b : MigrationBundle) : Json := .obj
  [("schema_version", .str migrationSchemaVersion), ("source_profile", dumpId b.sourceProfile),
   ("exported_at", dumpTime "Z" b.exportedAt),
   ("entries", dumpList MigrationEntry.toJson b.entries),
   ("checksum_sha256", dumpDigest b.checksumSha256)]

def bundleError {α : Type} (text : String) : Except MigrationError α := .error (.bundle text)

def requireBundle (condition : Prop) [Decidable condition] (text : String) :
    Except MigrationError Unit := require condition (.bundle text)

@[simp] theorem requireBundle_ok {condition : Prop} [Decidable condition] {text : String}
    {u : Unit} : requireBundle condition text = .ok u ↔ condition := Checks.require_ok

/-- `_validate_canonical_item` of a dumped model. -/
def validateCanonicalItem (h : Host) (payload : Json) : Except MigrationError Unit := do
  requireBundle (findSensitivePaths h "$" payload = []) "migration entry is invalid or unsafe"
  requireBundle (payload.depth ≤ maxContractDepth) "migration entry exceeds canonical depth"
  requireBundle (serializedBytes h payload ≤ maxContractSerializedBytes)
    "migration entry exceeds canonical size"

theorem validateCanonicalItem_ok {h : Host} {payload : Json} {u : Unit} :
    validateCanonicalItem h payload = .ok u ↔ RepositorySafe h payload := by
  simp only [validateCanonicalItem, Checks.seq_ok, requireBundle_ok]
  rfl

def unsignedPayload (sourceProfile : SourceProfile) (exportedAt : Instant)
    (entries : List MigrationEntry) : Json := .obj
  [("schema_version", .str migrationSchemaVersion), ("source_profile", dumpId sourceProfile),
   ("exported_at", dumpTime "+00:00" exportedAt),
   ("entries", dumpList MigrationEntry.toJson entries)]

def checksum (h : Host) (payload : Json) : Sha256.Digest :=
  h.sha256 (utf8 "telco-canonical-migration-v1\x00" ++ h.canonicalJson payload)

def MigrationBundle.unsigned (b : MigrationBundle) : Json :=
  unsignedPayload b.sourceProfile b.exportedAt b.entries

/-- `dump_migration_bundle` without its validation. -/
def dumpBundle (h : Host) (b : MigrationBundle) : List Nat := h.canonicalJson b.toJson ++ [10]

/-- Every incident and every association, in the order of the bundle. -/
def validateEntries (h : Host) (entries : List MigrationEntry) : Except MigrationError Unit :=
  each (fun e => do
    validateCanonicalItem h e.incident.toJson
    each (fun a => validateCanonicalItem h a.toJson) e.associations) entries

def validateMigrationBundle (h : Host) (b : MigrationBundle) : Except MigrationError Unit := do
  validateEntries h b.entries
  requireBundle (findSensitivePaths h "$" b.unsigned = []) "migration bundle is invalid or unsafe"
  requireBundle (b.unsigned.depth ≤ maxMigrationDepth) "migration bundle exceeds depth limit"
  requireBundle (checksum h b.unsigned = b.checksumSha256) "migration bundle checksum mismatch"
  requireBundle ((dumpBundle h b).length ≤ maxMigrationBundleBytes)
    "migration bundle exceeds 16 MiB"

structure MigrationBundle.Valid (h : Host) (b : MigrationBundle) : Prop where
  models : ∀ e ∈ b.entries, e.incident.Valid h
  checks : validateMigrationBundle h b = .ok ()

structure MigrationEntry.Safe (h : Host) (e : MigrationEntry) : Prop where
  valid : e.incident.Valid h
  incident : RepositorySafe h e.incident.toJson
  associations : ∀ a ∈ e.associations, RepositorySafe h a.toJson

theorem MigrationBundle.Valid.safe {h : Host} {b : MigrationBundle} (valid : b.Valid h)
    {e : MigrationEntry} (member : e ∈ b.entries) : e.Safe h := by
  have checks := valid.checks
  simp only [validateMigrationBundle, validateEntries, Checks.seq_ok, Checks.each_ok,
    validateCanonicalItem_ok] at checks
  obtain ⟨incident, associations⟩ := checks.1 e member
  exact ⟨valid.models e member, incident, associations⟩

end NetworkAgent.Migration
