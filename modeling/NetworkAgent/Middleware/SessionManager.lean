import Mathlib.Data.Finset.Card
import Mathlib.Data.Finset.Insert
import Mathlib.Data.Rat.Defs
import Mathlib.Algebra.Order.Ring.Rat
import NetworkAgent.Library.Runs

/-! The session manager: a set of keys and the keys of each user, beside a session service that
holds the sessions. Every call runs from one await to the next; between two of them the service
acts on the call, and any other call, the cleanup or the owner of a session may run. -/
namespace NetworkAgent.Sessions

/-- The text of an application's name and a session's id with a colon between. -/
abbrev SessionKey := { text : String // ':' ∈ text.toList }

structure SessionRef where
  appName : String
  sessionId : String
  userId : String
  deriving DecidableEq

def SessionRef.key (ref : SessionRef) : SessionKey :=
  ⟨ref.appName ++ ":" ++ ref.sessionId, by simp⟩

/-- `session_key.split(":", 1)`, for one of the users who track it. -/
def SessionKey.ref (key : SessionKey) (userId : String) : SessionRef where
  appName := String.ofList (key.val.toList.takeWhile (· ≠ ':'))
  sessionId := String.ofList ((key.val.toList.dropWhile (· ≠ ':')).drop 1)
  userId := userId

theorem split_join {cs : List Char} (colon : ':' ∈ cs) :
    cs.takeWhile (· ≠ ':') ++ ':' :: (cs.dropWhile (· ≠ ':')).drop 1 = cs := by
  induction cs with
  | nil => cases colon
  | cons c rest ih =>
    by_cases here : c = ':'
    · simp [here]
    · have later : ':' ∈ rest := by simpa [Ne.symm here] using colon
      simpa [here] using ih later

theorem SessionKey.ref_key (key : SessionKey) (userId : String) :
    (SessionKey.ref key userId).key = key := by
  apply Subtype.ext
  apply String.toList_injective
  simpa [SessionRef.key, SessionKey.ref] using split_join key.property

structure SessionData where
  lastUpdateTime : Option ℚ
  pendingToolCalls : List String
  deriving DecidableEq

structure Session where
  ref : SessionRef
  data : SessionData
  deriving DecidableEq

structure Config where
  memoryService : Bool := false
  timeout : ℚ := 1200
  maxSessionsPerUser : Option Nat := none

/-- A maximum of zero counts as none. -/
def Config.limit (c : Config) : Option Nat := c.maxSessionsPerUser.filter (· ≠ 0)

/-- The arguments of `get_or_create_session`. -/
structure Call where
  ref : SessionRef
  initialPending : List String := []
  deriving DecidableEq

/-- Where a task waits for a service. -/
inductive Work where
  | scanning (call : Call) (started visited : Finset SessionKey) (oldest : Option (ℚ × Session))
      (key : SessionKey)
  | evicting (call : Call) (session : Session) (remembered : Bool)
  | fetching (call : Call)
  | creating (call : Call)
  | checking (now : ℚ) (rest : List SessionKey) (key : SessionKey) (userId : String)
  | expiring (now : ℚ) (rest : List SessionKey) (session : Session) (remembered : Bool)

/-- What a task asks of the services. -/
inductive Request where
  | getSession (ref : SessionRef)
  | createSession (ref : SessionRef) (pending : List String)
  | addSessionToMemory
  | deleteSession (ref : SessionRef)

def Work.request : Work → Request
  | .scanning call _ _ _ key => .getSession (SessionKey.ref key call.ref.userId)
  | .evicting _ session remembered | .expiring _ _ session remembered =>
    if remembered then .deleteSession session.ref else .addSessionToMemory
  | .fetching call => .getSession call.ref
  | .creating call => .createSession call.ref call.initialPending
  | .checking _ _ key userId => .getSession (SessionKey.ref key userId)

inductive Answer where
  | raised
  | session (found : Option Session)
  | done

structure Task where
  work : Work
  answer : Option Answer := none

structure State where
  service : SessionRef → Option SessionData := fun _ => none
  sessionKeys : Finset SessionKey := ∅
  userSessions : List (String × Finset SessionKey) := []
  tasks : Nat → Option Task := fun _ => none
  deleted : List Session := []

/-- The keys of one user in a dictionary, which keeps the order of its insertions. -/
def setUser (userId : String) (keys : Finset SessionKey) :
    List (String × Finset SessionKey) → List (String × Finset SessionKey)
  | [] => [(userId, keys)]
  | (u, old) :: rest => if u = userId then (u, keys) :: rest else (u, old) :: setUser userId keys rest

namespace State

/-- `_user_sessions.get(user_id, set())`. -/
def tracked (s : State) (userId : String) : Finset SessionKey :=
  (s.userSessions.lookup userId).getD ∅

def trackSession (s : State) (key : SessionKey) (userId : String) : State :=
  { s with
    sessionKeys := insert key s.sessionKeys
    userSessions := setUser userId (insert key (s.tracked userId)) s.userSessions }

def untrackSession (s : State) (key : SessionKey) (userId : String) : State :=
  { s with
    sessionKeys := s.sessionKeys.erase key
    userSessions := match s.userSessions.lookup userId with
      | none => s.userSessions
      | some keys =>
        if keys.erase key = ∅ then s.userSessions.filter (·.1 ≠ userId)
        else setUser userId (keys.erase key) s.userSessions }

def setTask (s : State) (t : Nat) (task : Option Task) : State :=
  { s with tasks := Function.update s.tasks t task }

def finish (s : State) (t : Nat) : State := s.setTask t none

def await (s : State) (t : Nat) (work : Work) : State := s.setTask t (some { work })

/-- The head of the loop over the set of a user's keys, and what follows the loop. A set of
another size stops the iteration with an error. `next` is the key that the iteration comes to;
all keys of a set that stays as it is are visited once. -/
def scan (c : Config) (s : State) (t : Nat) (call : Call) (started visited : Finset SessionKey)
    (oldest : Option (ℚ × Session)) (next : Option SessionKey) : State :=
  let keys := s.tracked call.ref.userId
  if keys.card ≠ started.card then s.finish t
  else match next with
    | some key =>
      if key ∈ keys ∧ (key ∉ visited ∨ keys ≠ started) then
        s.await t (.scanning call started visited oldest key)
      else s
    | none =>
      if started ⊆ visited ∨ keys ≠ started then
        match oldest with
        | some (_, session) => s.await t (.evicting call session (!c.memoryService))
        | none => s.await t (.fetching call)
      else s

/-- `get_or_create_session` up to its first request. -/
def begin (c : Config) (s : State) (t : Nat) (call : Call) (next : Option SessionKey) : State :=
  match c.limit with
  | some limit =>
    if call.ref.key ∉ s.sessionKeys ∧ limit ≤ (s.tracked call.ref.userId).card then
      s.scan c t call (s.tracked call.ref.userId) ∅ none next
    else s.await t (.fetching call)
  | none => s.await t (.fetching call)

/-- The first user, in the order of the dictionary, who tracks the key. -/
def owner (s : State) (key : SessionKey) : Option String :=
  (s.userSessions.map Prod.fst).find? fun u => key ∈ s.tracked u

/-- The loop of `_cleanup_expired_sessions` up to its next request. -/
def sweep (s : State) (t : Nat) (now : ℚ) : List SessionKey → State
  | [] => s.finish t
  | key :: rest => match s.owner key with
    | some userId =>
      if userId = "" then s.sweep t now rest else s.await t (.checking now rest key userId)
    | none => s.sweep t now rest

def older (oldest : Option (ℚ × Session)) : Answer → Option (ℚ × Session)
  | .session (some session) => match session.data.lastUpdateTime with
    | some time =>
      if ∀ best ∈ oldest, time < best.1 then some (time, session) else oldest
    | none => oldest
  | .session none | .raised | .done => oldest

def resume (c : Config) (s : State) (t : Nat) (work : Work) (answer : Answer)
    (next : Option SessionKey) : State :=
  match work with
  | .scanning call started visited oldest key =>
    s.scan c t call started (insert key visited) (older oldest answer) next
  | .evicting call session false => s.await t (.evicting call session true)
  | .evicting call session true =>
    (s.untrackSession session.ref.key session.ref.userId).await t (.fetching call)
  | .fetching call => match answer with
    | .session none => s.await t (.creating call)
    | .session (some _) => (s.trackSession call.ref.key call.ref.userId).finish t
    | .raised | .done => s.finish t
  | .creating call => match answer with
    | .session _ => (s.trackSession call.ref.key call.ref.userId).finish t
    | .raised | .done => s.finish t
  | .checking now rest key userId => match answer with
    | .session (some session) => match session.data.lastUpdateTime with
      | some time =>
        if c.timeout < now - time ∧ session.data.pendingToolCalls = [] then
          s.await t (.expiring now rest session (!c.memoryService))
        else s.sweep t now rest
      | none => s.sweep t now rest
    | .session none => (s.untrackSession key userId).sweep t now rest
    | .raised | .done => s.sweep t now rest
  | .expiring now rest session false => s.await t (.expiring now rest session true)
  | .expiring now rest session true =>
    (s.untrackSession session.ref.key session.ref.userId).sweep t now rest

def setSession (s : State) (ref : SessionRef) (data : Option SessionData) : State :=
  { s with service := Function.update s.service ref data }

/-- The service acts on a request at the time `now`, or raises. -/
def serve (s : State) (t : Nat) (work : Work) (raises : Bool) (now : ℚ) : State :=
  let answered (s : State) (answer : Answer) := s.setTask t (some ⟨work, some answer⟩)
  if raises then answered s .raised
  else match work.request with
    | .getSession ref => answered s (.session ((s.service ref).map fun data => ⟨ref, data⟩))
    | .createSession ref pending =>
      let data : SessionData := ⟨some now, pending⟩
      answered (s.setSession ref (some data)) (.session (some ⟨ref, data⟩))
    | .addSessionToMemory => answered s .done
    | .deleteSession ref => match s.service ref with
      | some data =>
        answered ({ s with deleted := ⟨ref, data⟩ :: s.deleted }.setSession ref none) .done
      | none => answered s .done

end State

/-! Runs. -/

inductive Move where
  | getOrCreate (t : Nat) (call : Call) (next : Option SessionKey)
  | cleanup (t : Nat) (now : ℚ) (keys : List SessionKey)
  | serve (t : Nat) (raises : Bool) (now : ℚ)
  | resume (t : Nat) (next : Option SessionKey)
  | cancel (t : Nat)
  /-- The owner of a session stores it or changes it. -/
  | store (ref : SessionRef) (data : SessionData)
  | disappear (ref : SessionRef)

/-- A move that is not possible changes nothing. -/
def step (c : Config) (s : State) : Move → State
  | .getOrCreate t call next => match s.tasks t with
    | none => s.begin c t call next
    | some _ => s
  | .cleanup t now keys =>
    if s.tasks t = none ∧ keys.Nodup ∧ keys.toFinset = s.sessionKeys then s.sweep t now keys else s
  | .serve t raises now => match s.tasks t with
    | some ⟨work, none⟩ => s.serve t work raises now
    | some ⟨_, some _⟩ | none => s
  | .resume t next => match s.tasks t with
    | some ⟨work, some answer⟩ => s.resume c t work answer next
    | some ⟨_, none⟩ | none => s
  | .cancel t => s.finish t
  | .store ref data => s.setSession ref (some data)
  | .disappear ref => s.setSession ref none

def run (c : Config) (s : State) (moves : List Move) : State := Runs.run (step c) s moves

end NetworkAgent.Sessions
