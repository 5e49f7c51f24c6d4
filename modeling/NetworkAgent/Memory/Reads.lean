import NetworkAgent.Memory.Calls

/-! The reads of the in-memory repository, and every access a program can make to it. -/
namespace NetworkAgent

def maxRepositoryPageSize : Nat := 1000
def maxRepositoryOffset : Nat := 100000

/-- `_bounded_page`: the policy on every value, and the running size of the page. -/
def boundedPage {α : Type} (h : Host) (toJson : α → Json) :
    Nat → List α → Except RepositoryError (List α)
  | _, [] => .ok []
  | size, a :: rest => do
    let bytes ← assertSafe h "<repository-page>" (toJson a)
    Checks.require (size + bytes ≤ maxRepositoryBatchBytes)
      (.unsafeWrite "<repository-page>" .batch)
    let rest ← boundedPage h toJson (size + bytes) rest
    return a :: rest

theorem boundedPage_ok {α : Type} {h : Host} {toJson : α → Json} {size : Nat} {values page : List α}
    (read : boundedPage h toJson size values = .ok page) : page = values := by
  induction values generalizing size page with
  | nil => cases read; rfl
  | cons a rest ih =>
    simp only [boundedPage, Checks.bind_ok, pure, Except.pure, Except.ok.injEq] at read
    obtain ⟨_, _, _, _, tail, more, rfl⟩ := read
    rw [ih more]

def requirePage (limit offset : Nat) : Except RepositoryError Unit := do
  requireValue (1 ≤ limit ∧ limit ≤ maxRepositoryPageSize) "limit must be between 1 and 1000"
  requireValue (offset ≤ maxRepositoryOffset) "offset must be between 0 and 100000"

namespace Memory

def get (m : Memory) (incidentId : String) : Option Incident := m.incidents.lookup incidentId

def sourceEventAssociations (h : Host) (m : Memory) (incidentId : String) (limit offset : Nat) :
    Except RepositoryError (List SourceEventAssociation) := do
  requireNonEmpty "incident_id" incidentId 256
  requirePage limit offset
  let owned := (m.sourceEvents.rows.filter fun r => r.1.1 = incidentId).map Prod.snd
  let matching := owned.insertionSort fun a b => textLe a.sourceEventId.text b.sourceEventId.text
  boundedPage h (·.toJson) 0 ((matching.drop offset).take limit)

/-- `history` with a limit. -/
def historyPage (h : Host) (m : Memory) (incidentId : String) (limit offset : Nat) :
    Except RepositoryError (List IncidentAuditEvent) := do
  requireNonEmpty "incident_id" incidentId 256
  requirePage limit offset
  let events := (m.history.lookup incidentId).getD []
  boundedPage h (·.toJson) 0 ((events.drop offset).take limit)

end Memory

/-- One access to the repository; each runs under its lock. -/
inductive Access where
  | write (call : Call)
  | get (incidentId : String)
  | sourceEventAssociations (incidentId : String) (limit offset : Nat)
  | history (incidentId : String) (limit offset : Nat)

def Access.Answer : Access → Type
  | .write _ => Except RepositoryError Incident
  | .get _ => Option Incident
  | .sourceEventAssociations _ _ _ => Except RepositoryError (List SourceEventAssociation)
  | .history _ _ _ => Except RepositoryError (List IncidentAuditEvent)

/-- The answer to an access at a clock reading, and the repository it leaves. -/
def Memory.access (h : Host) (m : Memory) (now : Instant) : (a : Access) → a.Answer × Memory
  | .write call => m.step h now call
  | .get incidentId => (m.get incidentId, m)
  | .sourceEventAssociations incidentId limit offset =>
    (m.sourceEventAssociations h incidentId limit offset, m)
  | .history incidentId limit offset => (m.historyPage h incidentId limit offset, m)

end NetworkAgent
