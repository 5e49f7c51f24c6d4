import NetworkAgent.FaultIngress.Normalizer
import NetworkAgent.Library.Separators
import NetworkAgent.Library.Sorting

/-! When the identities of two accepted entries tell them apart. Two entries share an identity
exactly when a separator that stands inside a name moves from one name to the next. -/
namespace NetworkAgent.FaultIngress
open Cloud (SourceEventEnvelope)
open Separators

/-! What an identity hashes. -/

@[simp] theorem material_toList (text value : String) (rest : List String) :
    (material text (value :: rest)).toList = text.toList ++ nul :: (material value rest).toList := by
  simp [material]

theorem derivedId_eq_iff {h : Host} {n : Namespace} {values values' : List String}
    (free : h.sha256 (hashed n values) = h.sha256 (hashed n values') →
      hashed n values = hashed n values') :
    derivedId h n values = derivedId h n values' ↔
      material n.value values = material n.value values' := by
  constructor
  · intro same
    have texts := congrArg Text.Bounded.text same
    simp only [derivedId, Text.Bounded.ofText, ← String.toList_inj, String.toList_append,
      List.append_cancel_left_eq] at texts
    have digests := Sha256.Digest.ext (String.toList_inj.mp texts)
    exact utf8_injective (free digests)
  · intro same
    simp only [derivedId, hashed, same]

theorem material_head {text value value' : String} {rest rest' : List String} :
    material text (value :: rest) = material text (value' :: rest') ↔
      material value rest = material value' rest' := by
  simp [← String.toList_inj]

theorem material_inj {text value text' value' : String} :
    material text [value] = material text' [value'] ↔ (text = text' ∧ value = value') ∨
      Shifted nul text.toList value.toList text'.toList value'.toList := by
  rw [← String.toList_inj, material_toList, material_toList, join_eq_iff]
  simp [material, String.toList_inj]

/-! Texts without the separator. -/

theorem eventType_clear (f : Fault) : nul ∉ f.eventType.toList := by
  cases f <;> simp only [Fault.eventType] <;> decide

theorem digest_clear (d : Sha256.Digest) : nul ∉ d.text.toList := by
  intro member
  have hex := List.all_eq_true.mp d.hex nul member
  revert hex
  decide

theorem isoText_clear (t : Instant) : nul ∉ (isoText "+00:00" t).toList := by
  obtain ⟨cs, text, -, shape⟩ := isoText_eq "+00:00" t
  intro member
  rw [text, String.toList_append, String.toList_ofList] at member
  rcases List.mem_append.mp member with date | zone
  · have written := shape nul date
    revert written
    decide
  · revert zone
    decide

/-! Faults. -/

/-- The two names of a process fault joined differently to the same text. -/
def SharedName : Fault → Fault → Prop
  | .ueransimHealth hostname processName, .ueransimHealth hostname' processName' =>
    Shifted ':' hostname.toList processName.toList hostname'.toList processName'.toList
  | _, _ => False

theorem SharedName.ne {f f' : Fault} (shared : SharedName f f') : f ≠ f' := by
  rintro rfl
  cases f with
  | ueransimHealth hostname processName => exact Shifted.ne shared rfl
  | criticalServiceError node => exact shared

theorem semantic_eq_iff {f f' : Fault} :
    f.eventType = f'.eventType ∧ f.semanticResource = f'.semanticResource ↔
      f = f' ∨ SharedName f f' := by
  have colon : ":".toList = [':'] := by decide
  cases f with
  | ueransimHealth hostname processName =>
    cases f' with
    | ueransimHealth hostname' processName' =>
      simp only [Fault.eventType, true_and, Fault.semanticResource, Fault.ueransimHealth.injEq,
        SharedName, ← String.toList_inj, String.toList_append, colon, List.append_assoc,
        List.singleton_append, join_eq_iff]
    | criticalServiceError node => simp [Fault.eventType, SharedName]
  | criticalServiceError node =>
    cases f' with
    | ueransimHealth hostname processName => simp [Fault.eventType, SharedName]
    | criticalServiceError node' => simp [Fault.eventType, Fault.semanticResource, SharedName]

theorem semanticValues_eq_iff {e e' : LogEntry} {n : Namespace} :
    material n.value e.semanticValues = material n.value e'.semanticValues ↔
      e.fault = e'.fault ∨ SharedName e.fault e'.fault := by
  rw [← semantic_eq_iff]
  simp only [LogEntry.semanticValues, material_head]
  rw [← String.toList_inj, material_toList, material_toList,
    join_eq_iff_of_not_mem (eventType_clear _) (eventType_clear _)]
  simp [material, String.toList_inj]

/-! Source events. -/

/-- The log name and the insertion of an entry that spell what the entry without an insertion
is hashed from: its event type, time and payload digest, split at one of the separators. -/
def Forges (logName insertId : String) (e : LogEntry) : Prop :=
  (logName = e.fault.eventType ∧
      insertId = material (isoText "+00:00" e.occurredAt) [e.payloadSha256.text]) ∨
    (logName = material e.fault.eventType [isoText "+00:00" e.occurredAt] ∧
      insertId = e.payloadSha256.text)

def SharedEvent (e e' : LogEntry) : Prop := match e.insertId, e'.insertId with
  | some insertId, some insertId' =>
    Shifted nul e.logName.toList insertId.toList e'.logName.toList insertId'.toList
  | some insertId, none => Forges e.logName insertId e'
  | none, some insertId' => Forges e'.logName insertId' e
  | none, none => False

theorem seed_forged_iff {logName insertId : String} {e : LogEntry} :
    material logName [insertId] =
        material e.fault.eventType [isoText "+00:00" e.occurredAt, e.payloadSha256.text] ↔
      Forges logName insertId e := by
  constructor
  · intro same
    rw [← String.toList_inj, material_toList, material_toList, join_eq_iff] at same
    rcases same with ⟨front, back⟩ | ⟨middle, front, -⟩ | ⟨middle, front, back⟩
    · exact .inl ⟨String.toList_inj.mp front, String.toList_inj.mp back⟩
    · exact absurd (by simp [front]) (eventType_clear e.fault)
    · simp only [material] at back
      rw [String.toList_append, String.toList_append, String.toList_singleton,
        List.singleton_append, join_eq_iff] at back
      rcases back with ⟨time, digest⟩ | ⟨_, _, inside⟩ | ⟨_, inside, _⟩
      · refine .inr ⟨?_, (String.toList_inj.mp digest).symm⟩
        rw [← String.toList_inj, front, ← time, material_toList, material]
      · exact absurd (by simp [inside]) (digest_clear e.payloadSha256)
      · exact absurd (by simp [inside]) (isoText_clear e.occurredAt)
  · rintro (⟨rfl, rfl⟩ | ⟨rfl, rfl⟩)
    · rfl
    · rw [← String.toList_inj]
      simp [material]

theorem digest_of_seed {e e' : LogEntry} (none : e.insertId = none) (none' : e'.insertId = .none)
    (same : e.sourceSeed = e'.sourceSeed) : e.payloadSha256 = e'.payloadSha256 := by
  simp only [LogEntry.sourceSeed, none, none', ← String.toList_inj, material_toList] at same
  rw [join_eq_iff_of_not_mem (eventType_clear _) (eventType_clear _),
    join_eq_iff_of_not_mem (isoText_clear _) (isoText_clear _)] at same
  exact Sha256.Digest.ext (String.toList_inj.mp same.2.2)

/-! Two accepted entries. -/

/-- A message that the normalizer accepted: its bytes, what was read of it, and the envelope. -/
structure Accepted (h : Host) (loads : List Nat → Option Dict)
    (fromisoformat : String → Option Instant) where
  decoded : List Nat
  limits : Limits
  settings : Settings
  receivedAt : Instant
  push : ParsedPubSubPush
  entry : LogEntry
  envelope : SourceEventEnvelope
  parsed : parseData h loads limits decoded = .ok push
  read : readEntry fromisoformat settings receivedAt push = .ok entry
  accepted : normalizeFaultEvent h fromisoformat settings receivedAt push = .ok envelope

def resourceIds (envelope : SourceEventEnvelope) : List Identifier :=
  (envelope.incident.elim [] (·.affectedResources)).map (·.resourceId)

def correlationKey (envelope : SourceEventEnvelope) : Option Identifier :=
  envelope.incident.bind (·.correlationKey)

section
variable {h : Host} {loads : List Nat → Option Dict} {fromisoformat : String → Option Instant}

namespace Accepted

theorem envelope_eq (a : Accepted h loads fromisoformat) :
    a.envelope = a.entry.envelope h a.receivedAt := by
  obtain ⟨entry, read, -, -, same⟩ := normalizeFaultEvent_ok.mp a.accepted
  rw [a.read] at read
  cases read
  exact same.symm

theorem push_eq (a : Accepted h loads fromisoformat) :
    loads a.decoded = some a.push.payload ∧ a.push.payloadSha256 = h.sha256 a.decoded := by
  have parsed := a.parsed
  rw [parseData, Checks.seq_ok] at parsed
  cases loaded : loads a.decoded with
  | none => simp [loaded] at parsed
  | some payload =>
    simp only [loaded, Checks.seq_ok, pure, Except.pure, Except.ok.injEq] at parsed
    rw [← parsed.2.2]
    exact ⟨rfl, rfl⟩

def messages (a : Accepted h loads fromisoformat) : List (List Nat) :=
  [a.decoded, hashed .resource a.entry.semanticValues, hashed .correlation a.entry.semanticValues,
    hashed .event [a.entry.sourceSeed]]

end Accepted

/-- Nothing that is hashed for the one entry collides with what is hashed for the other. -/
def CollisionFree (a b : Accepted h loads fromisoformat) : Prop :=
  ∀ m ∈ a.messages, ∀ m' ∈ b.messages, h.sha256 m = h.sha256 m' → m = m'

instance (a b : Accepted h loads fromisoformat) : Decidable (CollisionFree a b) :=
  inferInstanceAs (Decidable (∀ m ∈ _, ∀ m' ∈ _, _ → _))

/-- Entries about different names have different resources and correlation keys, entries of
different insertions different source events. -/
structure Separates (a b : Accepted h loads fromisoformat) : Prop where
  resource : a.entry.fault ≠ b.entry.fault →
    resourceIds a.envelope ≠ resourceIds b.envelope ∧
      correlationKey a.envelope ≠ correlationKey b.envelope
  sourceEvent : a.entry.logName ≠ b.entry.logName ∨ a.entry.insertId ≠ b.entry.insertId →
    a.envelope.sourceEventId ≠ b.envelope.sourceEventId

/-- No separator inside a name makes two names, or two insertions, read the same. -/
def Unambiguous (e e' : LogEntry) : Prop := ¬ SharedName e.fault e'.fault ∧ ¬ SharedEvent e e'

theorem resourceIds_eq_iff {a b : Accepted h loads fromisoformat} (free : CollisionFree a b) :
    resourceIds a.envelope = resourceIds b.envelope ↔
      a.entry.fault = b.entry.fault ∨ SharedName a.entry.fault b.entry.fault := by
  rw [a.envelope_eq, b.envelope_eq, ← semanticValues_eq_iff (n := .resource),
    ← derivedId_eq_iff (free _ (by simp [Accepted.messages]) _ (by simp [Accepted.messages]))]
  simp [resourceIds, LogEntry.envelope, LogEntry.incident, LogEntry.resourceId]

theorem correlationKey_eq_iff {a b : Accepted h loads fromisoformat} (free : CollisionFree a b) :
    correlationKey a.envelope = correlationKey b.envelope ↔
      a.entry.fault = b.entry.fault ∨ SharedName a.entry.fault b.entry.fault := by
  rw [a.envelope_eq, b.envelope_eq, ← semanticValues_eq_iff (n := .correlation),
    ← derivedId_eq_iff (free _ (by simp [Accepted.messages]) _ (by simp [Accepted.messages]))]
  simp [correlationKey, LogEntry.envelope, LogEntry.incident, LogEntry.correlationKey]

theorem sourceEventId_eq_iff {a b : Accepted h loads fromisoformat} (free : CollisionFree a b) :
    a.envelope.sourceEventId = b.envelope.sourceEventId ↔
      a.entry.sourceSeed = b.entry.sourceSeed := by
  rw [a.envelope_eq, b.envelope_eq]
  simp only [LogEntry.envelope, LogEntry.sourceEventId]
  rw [derivedId_eq_iff (free _ (by simp [Accepted.messages]) _ (by simp [Accepted.messages])),
    material_head]
  rfl

theorem payload_of_seed {a b : Accepted h loads fromisoformat} (free : CollisionFree a b)
    (none : a.entry.insertId = none) (none' : b.entry.insertId = .none)
    (same : a.entry.sourceSeed = b.entry.sourceSeed) : a.push.payload = b.push.payload := by
  have digest := digest_of_seed none none' same
  rw [(readEntry_ok a.read).2.2, (readEntry_ok b.read).2.2, a.push_eq.2, b.push_eq.2] at digest
  have bytes := free _ (by simp [Accepted.messages]) _ (by simp [Accepted.messages]) digest
  have loaded := a.push_eq.1
  rw [bytes, b.push_eq.1] at loaded
  exact (Option.some.inj loaded).symm

theorem sourceEvent_iff {a b : Accepted h loads fromisoformat} (free : CollisionFree a b) :
    (a.entry.logName ≠ b.entry.logName ∨ a.entry.insertId ≠ b.entry.insertId →
      a.envelope.sourceEventId ≠ b.envelope.sourceEventId) ↔ ¬ SharedEvent a.entry b.entry := by
  simp only [ne_eq, sourceEventId_eq_iff free]
  cases first : a.entry.insertId with
  | none =>
    cases second : b.entry.insertId with
    | none =>
      simp only [SharedEvent, first, second, not_false_eq_true, iff_true]
      rintro (other | other) same
      · have payload := payload_of_seed free first second same
        exact other (by rw [(readEntry_ok a.read).2.1, (readEntry_ok b.read).2.1, payload])
      · exact other trivial
    | some insertId =>
      simp only [SharedEvent, first, second, LogEntry.sourceSeed, ← seed_forged_iff]
      simp [eq_comm]
  | some insertId =>
    cases second : b.entry.insertId with
    | none =>
      simp only [SharedEvent, first, second, LogEntry.sourceSeed, ← seed_forged_iff]
      simp
    | some insertId' =>
      simp only [SharedEvent, first, second, LogEntry.sourceSeed, material_inj]
      constructor
      · intro apart shifted
        exact apart (.inl fun same => shifted.ne (congrArg String.toList same)) (.inr shifted)
      · rintro clear (other | other) (⟨names, insertions⟩ | shifted)
        · exact other names
        · exact clear shifted
        · exact other (congrArg some insertions)
        · exact clear shifted

/-- Hashes that do not collide tell two entries apart exactly when their names are unambiguous. -/
theorem separates_iff_unambiguous (a b : Accepted h loads fromisoformat)
    (free : CollisionFree a b) : Separates a b ↔ Unambiguous a.entry b.entry := by
  constructor
  · intro separates
    refine ⟨fun shared => ?_, (sourceEvent_iff free).mp separates.sourceEvent⟩
    exact (separates.resource shared.ne).1 ((resourceIds_eq_iff free).mpr (.inr shared))
  · rintro ⟨named, inserted⟩
    refine ⟨fun other => ?_, (sourceEvent_iff free).mpr inserted⟩
    have apart : ¬ (a.entry.fault = b.entry.fault ∨ SharedName a.entry.fault b.entry.fault) :=
      fun same => same.elim other named
    exact ⟨fun same => apart ((resourceIds_eq_iff free).mp same),
      fun same => apart ((correlationKey_eq_iff free).mp same)⟩

end

/-! Health events of three processes. -/

def healthPayload (insertId hostname processName : String) : Dict :=
  [("labels", .obj [("python_logger", .str "UERANSIMHEALTH")]),
   ("timestamp", .str "2024-02-29T12:34:56Z"), ("insertId", .str insertId),
   ("logName", .str "faults"),
   ("jsonPayload", .obj [("hostname", .str hostname), ("process_name", .str processName)])]

def healthPayloads : List Dict :=
  [healthPayload "1" "a:b" "c", healthPayload "2" "a" "b:c", healthPayload "3" "upf" "nr-gnb"]

def healthBytes (payload : Dict) : List Nat := Host.ascii.canonicalJson (.obj payload)

def healthLoads (bytes : List Nat) : Option Dict :=
  healthPayloads.find? fun payload => healthBytes payload = bytes

def healthTime (text : String) : Option Instant :=
  if text = "2024-02-29T12:34:56+00:00" then some 1709210096000000 else none

def healthEntry (insertId hostname processName : String) : LogEntry where
  fault := .ueransimHealth hostname processName
  occurredAt := 1709210096000000
  insertId := some insertId
  logName := "faults"
  payloadSha256 := Host.ascii.sha256 (healthBytes (healthPayload insertId hostname processName))

def healthPush (insertId hostname processName : String) : ParsedPubSubPush where
  payload := healthPayload insertId hostname processName
  payloadSha256 := Host.ascii.sha256 (healthBytes (healthPayload insertId hostname processName))

def healthAccepted (insertId hostname processName : String)
    (parsed : parseData Host.ascii healthLoads {}
      (healthBytes (healthPayload insertId hostname processName)) =
        .ok (healthPush insertId hostname processName))
    (read : readEntry healthTime {} 1709210097000000 (healthPush insertId hostname processName) =
      .ok (healthEntry insertId hostname processName))
    (incident : Cloud.validateIncident Host.ascii
      ((healthEntry insertId hostname processName).incident Host.ascii) = .ok ())
    (envelope : ((healthEntry insertId hostname processName).envelope Host.ascii
      1709210097000000).validate Host.ascii = .ok ()) :
    Accepted Host.ascii healthLoads healthTime where
  decoded := healthBytes (healthPayload insertId hostname processName)
  limits := {}
  settings := {}
  receivedAt := 1709210097000000
  push := healthPush insertId hostname processName
  entry := healthEntry insertId hostname processName
  envelope := (healthEntry insertId hostname processName).envelope Host.ascii 1709210097000000
  parsed := parsed
  read := read
  accepted := normalizeFaultEvent_ok.mpr ⟨_, read, incident, envelope, rfl⟩

def colonHost : Accepted Host.ascii healthLoads healthTime :=
  healthAccepted "1" "a:b" "c" (by decide +kernel) (by decide +kernel) (by decide)
    (by decide +kernel)

def colonProcess : Accepted Host.ascii healthLoads healthTime :=
  healthAccepted "2" "a" "b:c" (by decide +kernel) (by decide +kernel) (by decide)
    (by decide +kernel)

def plainNames : Accepted Host.ascii healthLoads healthTime :=
  healthAccepted "3" "upf" "nr-gnb" (by decide +kernel) (by decide +kernel) (by decide)
    (by decide +kernel)

theorem separates_plain_names :
    Separates colonHost plainNames ↔ Unambiguous colonHost.entry plainNames.entry :=
  separates_iff_unambiguous colonHost plainNames (by decide +kernel)

/-- The process `c` of the host `a:b` and the process `b:c` of the host `a` are merged. -/
theorem colon_merges_processes : ¬ ∀ a b : Accepted Host.ascii healthLoads healthTime,
    CollisionFree a b → Separates a b := by
  intro separated
  have other : colonHost.entry.fault ≠ colonProcess.entry.fault := by decide +kernel
  have same : resourceIds colonHost.envelope = resourceIds colonProcess.envelope := by
    decide +kernel
  exact ((separated colonHost colonProcess (by decide +kernel)).resource other).1 same

end NetworkAgent.FaultIngress
