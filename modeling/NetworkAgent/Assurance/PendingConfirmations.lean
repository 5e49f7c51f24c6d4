import NetworkAgent.Library.Runs
import NetworkAgent.Domain.Dump

/-! The durable store of previews that wait for a confirmation: what a claim, a finish, a
cancellation, the expiry and the eviction do to its rows, and that a preview is decided once. -/
namespace NetworkAgent.Assurance.Confirmations
open Checks (require)

abbrev RecordText := Text.Bounded (fun _ => false) 256

/-- What the server binds a preview to; no call changes it. -/
structure Preview where
  previewMessageId : RecordText
  requestMessageId : RecordText
  taskId : RecordText
  contextId : RecordText
  workflowId : RecordText
  traceId : RecordText
  challengeSha256 : Sha256.Digest
  snapshotSha256 : Sha256.Digest
  candidateIds : List String
  candidatesBounded : candidateIds ≠ [] ∧ candidateIds.length ≤ 20
  effectiveWindowStart : Instant
  effectiveWindowEnd : Instant
  resourceIds : List String
  resourcesBounded : resourceIds.length ≤ 100
  createdAt : Instant
  expiresAt : Instant
  deriving DecidableEq

inductive Decision where
  | confirm | reject
  deriving DecidableEq

def Decision.value : Decision → String
  | .confirm => "CONFIRM"
  | .reject => "REJECT"

structure Confirmation where
  fingerprint : String
  candidateId : String
  idempotencyKey : String
  decision : Decision
  deriving DecidableEq

inductive FinalState where
  | completed | rejected
  deriving DecidableEq

/-- `state` with the columns that each state has. A preview that expires keeps its claim. -/
inductive Standing where
  | pending
  | processing (claim : Confirmation)
  | finished (claim : Confirmation) (state : FinalState) (resultPayload : Dict)
  | cancelled
  | expired (claim : Option Confirmation)
  deriving DecidableEq

namespace Standing

def confirmation : Standing → Option Confirmation
  | .pending | .cancelled => none
  | .processing claim | .finished claim _ _ => some claim
  | .expired claim => claim

def isOpen : Standing → Bool
  | .pending | .processing _ => true
  | .finished _ _ _ | .cancelled | .expired _ => false

def isGone : Standing → Bool
  | .cancelled | .expired _ => true
  | .pending | .processing _ | .finished _ _ _ => false

def resultPayload : Standing → Option Dict
  | .finished _ _ result => some result
  | _ => none

/-- What may become of a standing. -/
inductive Onward : Standing → Standing → Prop
  | same (s : Standing) : Onward s s
  | opened (s : Standing) : Onward .pending s
  | finished (claim : Confirmation) (state : FinalState) (result : Dict) :
      Onward (.processing claim) (.finished claim state result)
  | lapsed (claim : Confirmation) : Onward (.processing claim) (.expired (some claim))

theorem Onward.trans {a b c : Standing} (first : Onward a b) (second : Onward b c) :
    Onward a c := by
  cases first with
  | same => exact second
  | opened => exact .opened c
  | finished claim state result =>
    cases second with
    | same => exact .finished claim state result
  | lapsed claim =>
    cases second with
    | same => exact .lapsed claim

theorem Onward.confirmation {a b : Standing} {claim : Confirmation} (moved : Onward a b)
    (claimed : a.confirmation = some claim) : b.confirmation = some claim := by
  cases moved with
  | same => exact claimed
  | opened => cases claimed
  | finished | lapsed => exact claimed

theorem Onward.settled {a b : Standing} (moved : Onward a b) (settled : a.isOpen = false) :
    b = a := by
  cases moved with
  | same => rfl
  | opened | finished | lapsed => cases settled

end Standing

structure PendingConfirmationRecord extends Preview where
  standing : Standing := .pending
  updatedAt : Instant
  deriving DecidableEq

namespace PendingConfirmationRecord

def id (r : PendingConfirmationRecord) : String := r.previewMessageId.text

/-- The texts of a new record; a time is never sensitive. -/
def texts (r : PendingConfirmationRecord) : Json := .obj
  [("preview_message_id", dumpId r.previewMessageId),
   ("request_message_id", dumpId r.requestMessageId), ("task_id", dumpId r.taskId),
   ("context_id", dumpId r.contextId), ("workflow_id", dumpId r.workflowId),
   ("trace_id", dumpId r.traceId), ("challenge_sha256", dumpDigest r.challengeSha256),
   ("snapshot_sha256", dumpDigest r.snapshotSha256),
   ("candidate_ids", dumpList Json.str r.candidateIds),
   ("resource_ids", dumpList Json.str r.resourceIds),
   ("result_payload", optional Json.obj r.standing.resultPayload)]

/-- The row with other cells, written at a time. -/
def write (r : PendingConfirmationRecord) (standing : Standing) (now : Instant) :
    PendingConfirmationRecord := { r with standing, updatedAt := now }

@[simp] theorem write_id (r : PendingConfirmationRecord) (standing : Standing) (now : Instant) :
    (r.write standing now).id = r.id := rfl

end PendingConfirmationRecord

inductive StoreError where
  | value (text : String)
  | refused (text : String)
  | notFound
  | conflict (text : String)
  | expired
  | capacity
  deriving DecidableEq

def processingRecoveryRetention : Int := 15 * 60 * 1000000

/-- The rows of `canonical_incident_idempotency` that come from `create_or_correlate`: the
requested incident and the key. Where the table is missing there are none. -/
abbrev Durable := List (String × String)

def Recoverable (durable : Durable) (claim : Confirmation) : Prop :=
  claim.decision = .confirm ∧ (claim.candidateId, claim.idempotencyKey) ∈ durable

instance (durable : Durable) (claim : Confirmation) : Decidable (Recoverable durable claim) :=
  inferInstanceAs (Decidable (_ ∧ _))

/-- `_reconcile_expired_confirmations` on one row. -/
def reconciled (durable : Durable) (now : Instant) (r : PendingConfirmationRecord) :
    PendingConfirmationRecord :=
  match r.standing with
  | .pending => if r.expiresAt ≤ now then r.write (.expired none) now else r
  | .processing claim =>
    if r.expiresAt ≤ now ∧ ¬ Recoverable durable claim ∨
        r.expiresAt ≤ now - processingRecoveryRetention then
      r.write (.expired (some claim)) now
    else r
  | _ => r

/-- The table. No two rows have one preview, and there are never more than its capacity. -/
structure Store where
  capacity : Nat
  rows : List PendingConfirmationRecord
  distinct : (rows.map (·.id)).Nodup
  bounded : rows.length ≤ capacity

theorem mapped_distinct {f : PendingConfirmationRecord → PendingConfirmationRecord}
    (fixed : ∀ r, (f r).id = r.id) {rows : List PendingConfirmationRecord}
    (distinct : (rows.map (·.id)).Nodup) : ((rows.map f).map (·.id)).Nodup := by
  have same : (rows.map f).map (·.id) = rows.map (·.id) := by
    rw [List.map_map]
    exact List.map_congr_left fun r _ => fixed r
  rwa [same]

theorem mapped_bounded (f : PendingConfirmationRecord → PendingConfirmationRecord)
    {rows : List PendingConfirmationRecord} {n : Nat} (bounded : rows.length ≤ n) :
    (rows.map f).length ≤ n := by
  rwa [List.length_map]

theorem kept_distinct (keep : PendingConfirmationRecord → Bool)
    {rows : List PendingConfirmationRecord} (distinct : (rows.map (·.id)).Nodup) :
    ((rows.filter keep).map (·.id)).Nodup :=
  distinct.sublist (List.filter_sublist.map _)

theorem kept_bounded (keep : PendingConfirmationRecord → Bool)
    {rows : List PendingConfirmationRecord} {n : Nat} (bounded : rows.length ≤ n) :
    (rows.filter keep).length ≤ n := (List.length_filter_le _ _).trans bounded

theorem added_distinct {r : PendingConfirmationRecord} {rows : List PendingConfirmationRecord}
    (distinct : (rows.map (·.id)).Nodup) (fresh : r.id ∉ rows.map (·.id)) :
    ((rows ++ [r]).map (·.id)).Nodup := by
  rw [List.map_append, List.map_singleton]
  exact List.nodup_append.mpr ⟨distinct, List.nodup_singleton _, by
    rintro a member b own rfl
    exact fresh (List.mem_singleton.mp own ▸ member)⟩

theorem added_bounded {r : PendingConfirmationRecord} {rows : List PendingConfirmationRecord}
    {n : Nat} (room : rows.length < n) : (rows ++ [r]).length ≤ n := by
  rw [List.length_append, List.length_singleton]
  exact room

theorem reconciled_id (durable : Durable) (now : Instant) (r : PendingConfirmationRecord) :
    (reconciled durable now r).id = r.id := by
  unfold reconciled
  split <;> try split
  all_goals rfl

namespace Store

def select (s : Store) (id : String) : Option PendingConfirmationRecord :=
  s.rows.find? fun r => r.id = id

/-- An update of the table, row by row. -/
def update (s : Store) (f : PendingConfirmationRecord → PendingConfirmationRecord)
    (fixed : ∀ r, (f r).id = r.id) : Store where
  capacity := s.capacity
  rows := s.rows.map f
  distinct := mapped_distinct fixed s.distinct
  bounded := mapped_bounded f s.bounded

def reconcile (s : Store) (durable : Durable) (now : Instant) : Store :=
  s.update (reconciled durable now) (reconciled_id durable now)

/-- The settled rows that make room, the oldest first. -/
def oldest (s : Store) (n : Nat) : List String :=
  (((s.rows.filter fun r => !r.standing.isOpen).insertionSort
    fun a b => a.updatedAt ≤ b.updatedAt).take n).map (·.id)

def evict (s : Store) (n : Nat) : Store where
  capacity := s.capacity
  rows := s.rows.filter fun r => decide (r.id ∉ s.oldest n)
  distinct := kept_distinct _ s.distinct
  bounded := kept_bounded _ s.bounded

def insert (s : Store) (r : PendingConfirmationRecord) (room : s.rows.length < s.capacity)
    (fresh : r.id ∉ s.rows.map (·.id)) : Store where
  capacity := s.capacity
  rows := s.rows ++ [r]
  distinct := added_distinct s.distinct fresh
  bounded := added_bounded room

def rewritten (id : String) (standing : Standing) (now : Instant) (r : PendingConfirmationRecord) :
    PendingConfirmationRecord := if r.id = id then r.write standing now else r

theorem rewritten_id (id : String) (standing : Standing) (now : Instant)
    (r : PendingConfirmationRecord) : (rewritten id standing now r).id = r.id := by
  unfold rewritten
  split <;> rfl

def put (s : Store) (id : String) (standing : Standing) (now : Instant) : Store :=
  s.update (rewritten id standing now) (rewritten_id id standing now)

def makeRoom (s : Store) : Store :=
  if s.capacity ≤ s.rows.length then s.evict (s.rows.length - s.capacity + 1) else s

/-- A failed `create` rolls back, the expired rows included. -/
def create (h : Host) (s : Store) (durable : Durable) (record : PendingConfirmationRecord) :
    Except StoreError Store := do
  require (record.standing = .pending)
    (.value "new confirmation records must be pending and unclaimed")
  require (record.createdAt < record.expiresAt) (.value "confirmation expiry must follow creation")
  require (findSensitivePaths h "$" record.texts = []) (.refused "pending confirmation rejected")
  let s := (s.reconcile durable record.createdAt).makeRoom
  if room : s.rows.length < s.capacity then
    if fresh : record.id ∉ s.rows.map (·.id) then
      return s.insert record room fresh
    else .error (.conflict "preview confirmation already exists")
  else .error .capacity

def isLowerHex (c : Char) : Bool := "0123456789abcdef".toList.contains c

def IsMetadata (text : String) : Prop := text ≠ "" ∧ text.length ≤ 256

instance (text : String) : Decidable (IsMetadata text) := inferInstanceAs (Decidable (_ ∧ _))

def checkClaim (h : Host) (claim : Confirmation) : Except StoreError Unit := do
  require (claim.fingerprint.length = 64 ∧ claim.fingerprint.toList.all isLowerHex = true)
    (.value "confirmation_fingerprint must be lowercase SHA-256")
  require (IsMetadata claim.candidateId ∧ IsMetadata claim.idempotencyKey)
    (.value "confirmation claim metadata is invalid")
  require (findSensitivePaths h "$" (.obj [("candidate_id", .str claim.candidateId),
    ("idempotency_key", .str claim.idempotencyKey),
    ("decision", .str claim.decision.value)]) = [])
    (.refused "confirmation claim rejected")

/-- Too late for a claim, unless it resumes one whose incident is already written. -/
def TooLate (r : PendingConfirmationRecord) (now : Instant) (allowExpiredProcessing : Bool) :
    Prop :=
  r.expiresAt ≤ now ∧ r.standing.isOpen = true ∧
    ¬ (r.standing ≠ .pending ∧ allowExpiredProcessing = true)

instance (r : PendingConfirmationRecord) (now : Instant) (allowExpiredProcessing : Bool) :
    Decidable (TooLate r now allowExpiredProcessing) := inferInstanceAs (Decidable (_ ∧ _ ∧ _))

/-- The claim of a row that was found. A row that has expired is stored so. -/
def claimRow (s : Store) (record : PendingConfirmationRecord) (claim : Confirmation)
    (now : Instant) (allowExpiredProcessing : Bool) :
    Except StoreError PendingConfirmationRecord × Store :=
  if claim.candidateId ∉ record.candidateIds then
    (.error (.conflict "confirmation candidate does not match"), s)
  else if TooLate record now allowExpiredProcessing then
    (.error .expired, s.put record.id (.expired record.standing.confirmation) now)
  else if record.standing = .pending then
    (.ok (record.write (.processing claim) now), s.put record.id (.processing claim) now)
  else if record.standing.confirmation ≠ some claim then
    (.error (.conflict "confirmation has already been decided"), s)
  else if record.standing.isGone then
    (.error (.conflict "confirmation is no longer available"), s)
  else (.ok record, s)

def claim (h : Host) (s : Store) (id : String) (claim : Confirmation) (now : Instant)
    (allowExpiredProcessing : Bool) : Except StoreError PendingConfirmationRecord × Store :=
  match checkClaim h claim with
  | .error e => (.error e, s)
  | .ok () => match s.select id with
    | none => (.error .notFound, s)
    | some record => s.claimRow record claim now allowExpiredProcessing

def finish (h : Host) (s : Store) (id fingerprint : String) (state : FinalState) (result : Dict)
    (now : Instant) : Except StoreError PendingConfirmationRecord × Store :=
  if findSensitivePaths h "$" (.obj result) ≠ [] then
    (.error (.refused "confirmation result rejected"), s)
  else match s.select id with
    | none => (.error .notFound, s)
    | some current =>
      if (current.standing.confirmation.map (·.fingerprint)).getD "" ≠ fingerprint then
        (.error (.conflict "confirmation claim does not match"), s)
      else match current.standing with
        | .finished _ _ _ => (.ok current, s)
        | .processing c => (.ok (current.write (.finished c state result) now),
            s.put id (.finished c state result) now)
        | _ => (.error (.conflict "confirmation is not being processed"), s)

def Cancels (taskId contextId : String) (r : PendingConfirmationRecord) : Prop :=
  r.taskId.text = taskId ∧ r.contextId.text = contextId ∧ r.standing = .pending

instance (taskId contextId : String) (r : PendingConfirmationRecord) :
    Decidable (Cancels taskId contextId r) := inferInstanceAs (Decidable (_ ∧ _ ∧ _))

def cancelled (taskId contextId : String) (now : Instant) (r : PendingConfirmationRecord) :
    PendingConfirmationRecord := if Cancels taskId contextId r then r.write .cancelled now else r

theorem cancelled_id (taskId contextId : String) (now : Instant) (r : PendingConfirmationRecord) :
    (cancelled taskId contextId now r).id = r.id := by
  unfold cancelled
  split <;> rfl

def cancel (s : Store) (taskId contextId : String) (now : Instant) : Store :=
  s.update (cancelled taskId contextId now) (cancelled_id taskId contextId now)

end Store

/-! Runs. -/

inductive StoreCall where
  | create (durable : Durable) (record : PendingConfirmationRecord)
  | claim (id : String) (claim : Confirmation) (now : Instant) (allowExpiredProcessing : Bool)
  | finish (id fingerprint : String) (state : FinalState) (result : Dict) (now : Instant)
  | cancel (taskId contextId : String) (now : Instant)
  /-- The task store saves a task, and reconciles first. -/
  | saveTask (durable : Durable) (now : Instant)

namespace StoreCall

def creates : StoreCall → Option String
  | .create _ record => some record.id
  | _ => none

/-- An answered record is the one that the call names, with the call's own decision. -/
def Names (r : PendingConfirmationRecord) : StoreCall → Prop
  | .claim id c now allowExpiredProcessing => r.id = id ∧
      r.standing.confirmation = some c ∧ c.candidateId ∈ r.candidateIds ∧
      (r.standing.isOpen = true → now < r.expiresAt ∨ allowExpiredProcessing = true)
  | .finish id fingerprint _ _ _ => r.id = id ∧ r.standing.resultPayload.isSome = true ∧
      r.standing.confirmation.map (·.fingerprint) = some fingerprint
  | _ => False

end StoreCall

namespace Store

/-- What a call answers, and the table that it leaves. -/
def step (h : Host) (s : Store) : StoreCall → Option PendingConfirmationRecord × Store
  | .create durable record => match s.create h durable record with
    | .ok s' => (none, s')
    | .error _ => (none, s)
  | .claim id c now allowExpiredProcessing =>
    ((s.claim h id c now allowExpiredProcessing).1.toOption,
      (s.claim h id c now allowExpiredProcessing).2)
  | .finish id fingerprint state result now =>
    ((s.finish h id fingerprint state result now).1.toOption,
      (s.finish h id fingerprint state result now).2)
  | .cancel taskId contextId now => (none, s.cancel taskId contextId now)
  | .saveTask durable now => (none, s.reconcile durable now)

def next (h : Host) (s : Store) (call : StoreCall) : Store := (s.step h call).2

def run (h : Host) (s : Store) (calls : List StoreCall) : Store := Runs.run (next h) s calls

/-! What a call does to one row. -/

/-- The preview is the same, and the row has gone on; a settled row stays as it is. -/
structure Evolves (r r' : PendingConfirmationRecord) : Prop where
  preview : r'.toPreview = r.toPreview
  standing : r.standing.Onward r'.standing
  settled : r.standing.isOpen = false → r' = r

theorem Evolves.refl (r : PendingConfirmationRecord) : Evolves r r :=
  ⟨rfl, .same _, fun _ => rfl⟩

theorem Evolves.trans {a b c : PendingConfirmationRecord} (first : Evolves a b)
    (second : Evolves b c) : Evolves a c where
  preview := second.preview.trans first.preview
  standing := first.standing.trans second.standing
  settled closed := by
    have same := first.settled closed
    subst same
    exact second.settled closed

theorem Evolves.id {r r' : PendingConfirmationRecord} (evolves : Evolves r r') : r'.id = r.id :=
  congrArg (fun p : Preview => p.previewMessageId.text) evolves.preview

theorem evolves_write {r : PendingConfirmationRecord} {was standing : Standing} (now : Instant)
    (here : r.standing = was) (onward : was.Onward standing) (isOpen : was.isOpen = true) :
    Evolves r (r.write standing now) := by
  subst here
  exact ⟨rfl, onward, fun closed => absurd (closed.symm.trans isOpen) Bool.false_ne_true⟩

theorem evolves_reconciled (durable : Durable) (now : Instant) (r : PendingConfirmationRecord) :
    Evolves r (reconciled durable now r) := by
  unfold reconciled
  split
  · next pending =>
    split
    · exact evolves_write now pending (.opened _) rfl
    · exact .refl r
  · next claim processing =>
    split
    · exact evolves_write now processing (.lapsed claim) rfl
    · exact .refl r
  · exact .refl r

theorem evolves_cancelled (taskId contextId : String) (now : Instant)
    (r : PendingConfirmationRecord) : Evolves r (cancelled taskId contextId now r) := by
  unfold cancelled
  split
  · next cancels => exact evolves_write now cancels.2.2 (.opened _) rfl
  · exact .refl r

/-- Every row of the second table has come from a row of the first. -/
def Descends (s s' : Store) : Prop := ∀ r' ∈ s'.rows, ∃ r ∈ s.rows, Evolves r r'

theorem Descends.refl (s : Store) : s.Descends s := fun r' member => ⟨r', member, .refl r'⟩

theorem Descends.trans {a b c : Store} (first : a.Descends b) (second : b.Descends c) :
    a.Descends c := by
  intro r' member
  obtain ⟨r, before, later⟩ := second r' member
  obtain ⟨r₀, start, earlier⟩ := first r before
  exact ⟨r₀, start, earlier.trans later⟩

theorem unique {s : Store} {a b : PendingConfirmationRecord} (first : a ∈ s.rows)
    (second : b ∈ s.rows) (same : a.id = b.id) : a = b :=
  List.inj_on_of_nodup_map s.distinct first second same

theorem select_some {s : Store} {id : String} {r : PendingConfirmationRecord}
    (found : s.select id = some r) : r ∈ s.rows ∧ r.id = id := by
  unfold select at found
  exact ⟨List.mem_of_find?_eq_some found, by simpa using List.find?_some found⟩

theorem descends_update {s : Store} {f : PendingConfirmationRecord → PendingConfirmationRecord}
    (fixed : ∀ r, (f r).id = r.id) (evolves : ∀ r ∈ s.rows, Evolves r (f r)) :
    s.Descends (s.update f fixed) := by
  intro r' member
  obtain ⟨r, before, rfl⟩ := List.mem_map.mp member
  exact ⟨r, before, evolves r before⟩

theorem descends_reconcile (s : Store) (durable : Durable) (now : Instant) :
    s.Descends (s.reconcile durable now) :=
  descends_update _ fun r _ => evolves_reconciled durable now r

theorem descends_cancel (s : Store) (taskId contextId : String) (now : Instant) :
    s.Descends (s.cancel taskId contextId now) :=
  descends_update _ fun r _ => evolves_cancelled taskId contextId now r

theorem descends_makeRoom (s : Store) : s.Descends s.makeRoom := by
  unfold makeRoom
  split
  · exact fun r' member => ⟨r', (List.mem_filter.mp member).1, .refl r'⟩
  · exact .refl s

/-- A row is written over by one that it may become. -/
theorem descends_put {s : Store} {r : PendingConfirmationRecord} {standing : Standing}
    {now : Instant} (stored : r ∈ s.rows) (evolves : Evolves r (r.write standing now)) :
    s.Descends (s.put r.id standing now) ∧
      r.write standing now ∈ (s.put r.id standing now).rows := by
  constructor
  · apply descends_update
    intro r₀ before
    unfold rewritten
    split
    · next own =>
      rw [unique before stored own]
      exact evolves
    · exact .refl r₀
  · exact List.mem_map.mpr ⟨r, stored, if_pos rfl⟩

/-- What a call leaves and answers: an answered record is in the table, and the call names it. -/
structure Answered (call : StoreCall) (s : Store)
    (out : Except StoreError PendingConfirmationRecord × Store) : Prop where
  descends : s.Descends out.2
  stored : ∀ r, out.1 = .ok r → r ∈ out.2.rows ∧ call.Names r

theorem Answered.refused {call : StoreCall} {s s' : Store} {e : StoreError}
    (descends : s.Descends s') : Answered call s (.error e, s') := ⟨descends, by simp⟩

theorem Answered.found {call : StoreCall} {s s' : Store} {r : PendingConfirmationRecord}
    (descends : s.Descends s') (stored : r ∈ s'.rows) (named : call.Names r) :
    Answered call s (.ok r, s') where
  descends := descends
  stored r' same := by
    cases same
    exact ⟨stored, named⟩

theorem claimRow_answered {s : Store} {record : PendingConfirmationRecord}
    (stored : record ∈ s.rows) (c : Confirmation) (now : Instant) (allow : Bool) :
    Answered (.claim record.id c now allow) s (s.claimRow record c now allow) := by
  unfold claimRow
  split
  · exact .refused (.refl s)
  next listed =>
  have candidate : c.candidateId ∈ record.candidateIds := not_not.mp listed
  split
  · next late =>
    refine .refused (descends_put stored ?_).1
    cases here : record.standing with
    | pending => exact evolves_write now here (.opened _) rfl
    | processing claim => exact evolves_write now here (.lapsed claim) rfl
    | finished | cancelled | expired => simp [TooLate, here, Standing.isOpen] at late
  next early =>
  have intime : record.standing.isOpen = true → now < record.expiresAt ∨ allow = true := by
    intro isOpen
    by_contra neither
    obtain ⟨late, refused⟩ := not_or.mp neither
    exact early ⟨not_lt.mp late, isOpen, fun allowed => refused allowed.2⟩
  split
  · next pending =>
    have written := descends_put stored
      (evolves_write now pending (.opened (.processing c)) rfl)
    exact .found written.1 written.2
      ⟨rfl, rfl, candidate, fun _ => intime (by rw [pending]; rfl)⟩
  split
  · exact .refused (.refl s)
  next claimed =>
  split
  · exact .refused (.refl s)
  · exact .found (.refl s) stored ⟨rfl, not_not.mp claimed, candidate, intime⟩

theorem claim_answered (h : Host) (s : Store) (id : String) (c : Confirmation) (now : Instant)
    (allow : Bool) : Answered (.claim id c now allow) s (s.claim h id c now allow) := by
  unfold claim
  split
  · exact .refused (.refl s)
  split
  · exact .refused (.refl s)
  · next record found =>
    obtain ⟨stored, rfl⟩ := select_some found
    exact claimRow_answered stored c now allow

theorem finish_answered (h : Host) (s : Store) (id fingerprint : String) (state : FinalState)
    (result : Dict) (now : Instant) :
    Answered (.finish id fingerprint state result now) s
      (s.finish h id fingerprint state result now) := by
  unfold finish
  split
  · exact .refused (.refl s)
  split
  · exact .refused (.refl s)
  next current found =>
  obtain ⟨stored, rfl⟩ := select_some found
  split
  · exact .refused (.refl s)
  next matching =>
  have matching := not_not.mp matching
  split
  · next claim state' payload finished =>
    rw [finished] at matching
    exact .found (.refl s) stored
      ⟨rfl, by rw [finished]; rfl, by rw [finished]; exact congrArg some matching⟩
  · next claim processing =>
    rw [processing] at matching
    have written := descends_put stored
      (evolves_write now processing (.finished claim state result) rfl)
    exact .found written.1 written.2 ⟨rfl, rfl, congrArg some matching⟩
  · exact .refused (.refl s)

theorem create_rows {h : Host} {s s' : Store} {durable : Durable}
    {record : PendingConfirmationRecord} (created : s.create h durable record = .ok s') :
    ∀ r' ∈ s'.rows, (∃ r ∈ s.rows, Evolves r r') ∨ r'.id = record.id := by
  simp only [create, Checks.seq_ok, Checks.require_ok] at created
  obtain ⟨_, _, _, created⟩ := created
  split at created
  · next room =>
    split at created
    · next fresh =>
      cases created
      intro r' member
      rcases List.mem_append.mp member with before | new
      · exact .inl (((descends_reconcile s durable record.createdAt).trans
          (descends_makeRoom _)) r' before)
      · exact .inr (congrArg PendingConfirmationRecord.id (List.mem_singleton.mp new))
    · cases created
  · cases created

/-- A row after a call has come from a row before it, or the call has created it. -/
theorem step_rows (h : Host) (s : Store) (call : StoreCall) :
    ∀ r' ∈ (s.next h call).rows,
      (∃ r ∈ s.rows, Evolves r r') ∨ call.creates = some r'.id := by
  intro r' member
  cases call with
  | create durable record =>
    rw [next, step] at member
    split at member
    · next created =>
      exact (create_rows created r' member).imp_right fun own => congrArg some own.symm
    · exact .inl ⟨r', member, .refl r'⟩
  | claim id c now allow => exact .inl ((claim_answered h s id c now allow).descends r' member)
  | finish id fingerprint state result now =>
    exact .inl ((finish_answered h s id fingerprint state result now).descends r' member)
  | cancel taskId contextId now => exact .inl (descends_cancel s taskId contextId now r' member)
  | saveTask durable now => exact .inl (descends_reconcile s durable now r' member)

theorem ok_of_toOption {x : Except StoreError PendingConfirmationRecord}
    {r : PendingConfirmationRecord} (known : x.toOption = some r) : x = .ok r := by
  cases x with
  | error e => cases known
  | ok a =>
    cases known
    rfl

theorem step_answered {h : Host} {s : Store} {call : StoreCall} {r : PendingConfirmationRecord}
    (answered : (s.step h call).1 = some r) : r ∈ (s.next h call).rows ∧ call.Names r := by
  cases call with
  | create durable record =>
    rw [step] at answered
    split at answered <;> cases answered
  | claim id c now allow =>
    exact (claim_answered h s id c now allow).stored r (ok_of_toOption answered)
  | finish id fingerprint state result now =>
    exact (finish_answered h s id fingerprint state result now).stored r (ok_of_toOption answered)
  | cancel | saveTask => cases answered

/-- The same over a run. -/
theorem run_rows (h : Host) (s : Store) (calls : List StoreCall) :
    ∀ r' ∈ (s.run h calls).rows,
      (∃ r ∈ s.rows, Evolves r r') ∨ ∃ call ∈ calls, call.creates = some r'.id := by
  induction calls generalizing s with
  | nil => exact fun r' member => .inl ⟨r', member, .refl r'⟩
  | cons call rest ih =>
    intro r' member
    rcases ih (s.next h call) r' member with ⟨r, before, later⟩ | ⟨other, listed, created⟩
    · rcases step_rows h s call r before with ⟨r₀, start, earlier⟩ | created
      · exact .inl ⟨r₀, start, earlier.trans later⟩
      · exact .inr ⟨call, List.mem_cons_self, created.trans (congrArg some later.id.symm)⟩
    · exact .inr ⟨other, List.mem_cons_of_mem _ listed, created⟩

end Store

/-! A preview that is claimed and finished, with a task saved in between. -/
namespace Sample

theorem fits : Text.trim (fun _ => false) "preview" = "preview" ∧ 1 ≤ "preview".length ∧
    "preview".length ≤ 256 := by decide

theorem candidates : ["incident-1"] ≠ [] ∧ ["incident-1"].length ≤ 20 := by decide

theorem resources : ([] : List String).length ≤ 100 := by decide

def hex : String := "e3b0c44298fc1c149afbf4c8996fb92427ae41e4649b934ca495991b7852b855"

def text : RecordText := .ofText "preview" fits

def digest : Sha256.Digest := ⟨hex, by decide +kernel, by decide +kernel⟩

def record : PendingConfirmationRecord where
  previewMessageId := text
  requestMessageId := text
  taskId := text
  contextId := text
  workflowId := text
  traceId := text
  challengeSha256 := digest
  snapshotSha256 := digest
  candidateIds := ["incident-1"]
  candidatesBounded := candidates
  effectiveWindowStart := 0
  effectiveWindowEnd := 0
  resourceIds := []
  resourcesBounded := resources
  createdAt := 0
  expiresAt := 10
  updatedAt := 0

def claim : Confirmation := ⟨hex, "incident-1", "key-1", .confirm⟩

theorem empty_distinct : (([] : List PendingConfirmationRecord).map (·.id)).Nodup := List.nodup_nil

def empty : Store := ⟨1, [], empty_distinct, Nat.zero_le _⟩

def claims : StoreCall := .claim "preview" claim 1 false

def finishes : StoreCall := .finish "preview" hex .completed [] 2

theorem claimed : ((empty.run Host.ascii [.create [] record]).step Host.ascii claims).1 =
    some (record.write (.processing claim) 1) := by decide +kernel

theorem finished : ((empty.run Host.ascii ([.create [] record] ++ claims :: [.saveTask [] 1])).step
    Host.ascii finishes).1 = some (record.write (.finished claim .completed []) 2) := by
  decide +kernel

end Sample

/-! The whole runs. -/

open Store in
/-- Whatever calls are made and in whatever order, a preview is decided once: once a claim or a
finish has been answered with its record, every later answer about it has the same claim. -/
theorem decided_once (h : Host) (s : Store) (earlier later : List StoreCall)
    (call call' : StoreCall) (r r' : PendingConfirmationRecord)
    (answered : ((s.run h earlier).step h call).1 = some r)
    (answered' : ((s.run h (earlier ++ call :: later)).step h call').1 = some r')
    (same : r'.id = r.id) (once : ∀ c ∈ later, c.creates ≠ some r.id) :
    call.Names r ∧ call'.Names r' ∧ Evolves r r' ∧
      r'.standing.confirmation = r.standing.confirmation := by
  obtain ⟨stored, named⟩ := step_answered answered
  obtain ⟨stored', named'⟩ := step_answered answered'
  have reached : (s.run h (earlier ++ call :: later)).next h call' =
      ((s.run h earlier).next h call).run h (later ++ [call']) := by
    simp only [run, Runs.run_append, Runs.run]
  rw [reached] at stored'
  have evolves : Evolves r r' := by
    rcases run_rows h _ _ r' stored' with ⟨r₀, start, evolves⟩ | ⟨c, listed, created⟩
    · rw [← unique start stored (evolves.id.symm.trans same)]
      exact evolves
    · rw [same] at created
      rcases List.mem_append.mp listed with before | last
      · exact absurd created (once c before)
      · rw [List.mem_singleton.mp last] at created
        cases call' with
        | create => exact named'.elim
        | claim | finish | cancel | saveTask => cases created
  have claimed : ∃ c, r.standing.confirmation = some c := by
    cases call with
    | claim id c now allow => exact ⟨c, named.2.1⟩
    | finish id fingerprint state result now =>
      exact Option.map_eq_some_iff.mp named.2.2 |>.imp fun _ known => known.1
    | create | cancel | saveTask => exact named.elim
  obtain ⟨c, known⟩ := claimed
  exact ⟨named, named', evolves, (evolves.standing.confirmation known).trans known.symm⟩

theorem decided_once_sample :
    Sample.claims.Names (Sample.record.write (.processing Sample.claim) 1) ∧
      Sample.finishes.Names (Sample.record.write (.finished Sample.claim .completed []) 2) ∧
      Store.Evolves (Sample.record.write (.processing Sample.claim) 1)
        (Sample.record.write (.finished Sample.claim .completed []) 2) ∧
      (Sample.record.write (.finished Sample.claim .completed []) 2).standing.confirmation =
        (Sample.record.write (.processing Sample.claim) 1).standing.confirmation :=
  decided_once Host.ascii Sample.empty [.create [] Sample.record] [.saveTask [] 1] Sample.claims
    Sample.finishes _ _ Sample.claimed Sample.finished rfl (by simp [StoreCall.creates])

end NetworkAgent.Assurance.Confirmations
