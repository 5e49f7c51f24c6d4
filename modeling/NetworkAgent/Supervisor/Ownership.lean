import NetworkAgent.Library.Table
import NetworkAgent.Library.Sorting
import NetworkAgent.Supervisor.Session

/-! Which socket owns a thread of the user interface. The owner of a thread and the threads of
a socket are kept in two maps, and each is read on its own. -/
namespace NetworkAgent.Supervisor

/-- `UiThreadOwnership`. -/
structure Ownership where
  threadToSid : Table String String := ∅
  sidToThreads : Table String (List String) := ∅

namespace Ownership

def threadsOf (o : Ownership) (sid : String) : List String := (o.sidToThreads.lookup sid).getD []

def bind (o : Ownership) (threadId sid : String) : Hosted Ownership := do
  permit (isSocketId threadId) "invalid thread_id"
  permit (isSocketId sid) "invalid socket session"
  permit (∀ owner ∈ o.threadToSid.lookup threadId, owner = sid)
    "thread is owned by another socket session"
  return {
    threadToSid := o.threadToSid.insert threadId sid
    sidToThreads := o.sidToThreads.insert sid ((o.threadsOf sid).insert threadId) }

def requireOwner (o : Ownership) (threadId sid : String) : Hosted Unit := do
  permit (isSocketId threadId) "invalid thread_id"
  permit (isSocketId sid) "invalid socket session"
  permit (o.threadToSid.lookup threadId = some sid) "socket session does not own the thread"

def dropOwned (sid : String) (threads : List String) (t : Table String String) :
    Table String String :=
  threads.foldl (fun t thread => if t.lookup thread = some sid then t.erase thread else t) t

/-- `remove_sid`: the threads the socket gives up, and what is left. -/
def removeSid (o : Ownership) (sid : String) : Hosted (List String × Ownership) := do
  permit (isSocketId sid) "invalid socket session"
  let threads := (o.threadsOf sid).insertionSort fun a b => textLe a b
  return (threads, {
    threadToSid := dropOwned sid threads o.threadToSid
    sidToThreads := o.sidToThreads.erase sid })

def Inverse (o : Ownership) : Prop :=
  ∀ threadId sid, o.threadToSid.lookup threadId = some sid ↔ threadId ∈ o.threadsOf sid

theorem inverse_empty : Inverse {} := by
  intro threadId sid
  exact iff_of_false nofun nofun

theorem Inverse.single {o : Ownership} (inverse : o.Inverse) {threadId a b : String}
    (first : threadId ∈ o.threadsOf a) (second : threadId ∈ o.threadsOf b) : a = b :=
  Option.some.inj (((inverse threadId a).mpr first).symm.trans ((inverse threadId b).mpr second))

theorem Inverse.bind {o o' : Ownership} (inverse : o.Inverse) {threadId sid : String}
    (bound : o.bind threadId sid = .ok o') : o'.Inverse := by
  simp only [Ownership.bind, Checks.seq_ok, permit_ok, pure, Except.pure, Except.ok.injEq] at bound
  obtain ⟨_, _, unowned, rfl⟩ := bound
  intro t s
  have owned : o.threadToSid.lookup threadId = some s → s = sid := fun found => unowned s found
  simp only [threadsOf, Table.lookup_insert_iff]
  by_cases socket : s = sid
  · subst socket
    rw [AList.lookup_insert, Option.getD_some, List.mem_insert_iff, inverse t s, threadsOf]
    by_cases thread : t = threadId
    · simp [thread]
    · simp [thread]
  · rw [AList.lookup_insert_ne socket, inverse t s, threadsOf]
    by_cases thread : t = threadId
    · subst thread
      have free : t ∉ o.threadsOf s := fun member => socket (owned ((inverse t s).mpr member))
      simpa [socket, threadsOf] using free
    · simp [thread]

theorem lookup_dropOwned (sid : String) (threads : List String) (t : Table String String)
    (threadId owner : String) : (dropOwned sid threads t).lookup threadId = some owner ↔
      t.lookup threadId = some owner ∧ ¬ (threadId ∈ threads ∧ owner = sid) := by
  induction threads generalizing t with
  | nil => simp [dropOwned]
  | cons thread rest ih =>
    rw [dropOwned, List.foldl_cons, ← dropOwned, ih]
    split
    · next owned =>
      by_cases same : threadId = thread
      · subst same
        rw [AList.lookup_erase, owned]
        simp [eq_comm]
      · simp [AList.lookup_erase_ne same, same]
    · next other =>
      by_cases same : threadId = thread
      · subst same
        refine and_congr_right fun found => ?_
        have different : owner ≠ sid := fun equal => other (equal ▸ found)
        simp [different]
      · simp [same]

theorem Inverse.removeSid {o o' : Ownership} (inverse : o.Inverse) {sid : String}
    {threads : List String} (removed : o.removeSid sid = .ok (threads, o')) : o'.Inverse := by
  simp only [Ownership.removeSid, Checks.seq_ok, permit_ok, pure, Except.pure, Except.ok.injEq,
    Prod.mk.injEq] at removed
  obtain ⟨_, rfl, rfl⟩ := removed
  intro t s
  rw [lookup_dropOwned, inverse t s, List.mem_insertionSort]
  by_cases same : s = sid
  · subst same
    simp [threadsOf]
  · simp [threadsOf, same]

theorem requireOwner_ok {o : Ownership} {threadId sid : String} {u : Unit}
    (passed : o.requireOwner threadId sid = .ok u) : o.threadToSid.lookup threadId = some sid := by
  simp only [requireOwner, Checks.seq_ok, permit_ok] at passed
  exact passed.2.2

end Ownership

end NetworkAgent.Supervisor
