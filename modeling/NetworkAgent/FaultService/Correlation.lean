import NetworkAgent.Operator.BodyReturn
import NetworkAgent.Library.Runs

/-! The fault service: events of one process, the lock of each correlation key, the incidents in
the database and the requests to the resolver. -/
namespace NetworkAgent.FaultService
open Operator.JsonLiteral (dumps bodySqlJsonDump)

abbrev Fields := List (String × Json)

/-! Events. -/

def truthy : Json → Bool
  | .null => false
  | .bool b => b
  | .int n => n != 0
  | .float q => q != 0
  | .str s => s != ""
  | .arr items => !items.isEmpty
  | .obj fields => !fields.isEmpty

/-- The loggers whose events are correlated. -/
inductive Kind where
  | ueransimHealth | criticalServiceError
  deriving DecidableEq

namespace Kind

def logger : Kind → String
  | .ueransimHealth => "UERANSIMHEALTH"
  | .criticalServiceError => "CRITICALSERVICEERROR"

def key : Kind → String
  | .ueransimHealth => "process_name"
  | .criticalServiceError => "node"

def key2 : Kind → String
  | .ueransimHealth => "hostname"
  | .criticalServiceError => "userid"

end Kind

def dictionary : Json → Option Fields
  | .obj fields => some fields
  | _ => none

/-- `entry.get(name, {})`, from which further fields are read. -/
def getDict (name : String) (entry : Fields) : Option Fields :=
  dictionary ((Json.get? name entry).getD (.obj []))

def kindOf (pythonLogger : Option Json) : Option Kind :=
  if pythonLogger = some (.str Kind.ueransimHealth.logger) then some .ueransimHealth
  else if pythonLogger = some (.str Kind.criticalServiceError.logger) then
    some .criticalServiceError
  else none

/-- What the events of a kind are correlated by, where both values are there. -/
structure Correlated where
  payload : Fields
  kind : Kind
  value : Json
  value2 : Json

def correlated (logEntry : Fields) : Option Correlated := do
  let payload ← getDict "jsonPayload" logEntry
  let labels ← getDict "labels" logEntry
  let kind ← kindOf (Json.get? "python_logger" labels)
  let value := (Json.get? kind.key payload).getD .null
  let value2 := (Json.get? kind.key2 payload).getD .null
  if truthy value && truthy value2 then some ⟨payload, kind, value, value2⟩ else none

structure Identity where
  kind : Kind
  value : String
  value2 : String
  deriving DecidableEq

def Identity.correlationKey (i : Identity) : String :=
  i.kind.logger ++ ":" ++ i.value ++ ":" ++ i.value2

/-! The database. -/

structure Incident where
  id : String
  issue : Json
  resolved : Bool

/-- The language and the database: how a value is formatted, how floats print, the identifiers in
the order in which they are made, the rows of a query, the reader of JSON literals, and the text of
a scalar that `JSON_VALUE` returns. -/
structure Platform where
  str : Json → String
  floatRepr : ℚ → String
  newId : Nat → String
  select : String → List Incident → Option (List Incident)
  parseJson : List Char → Option Json
  jsonValue : Json → Option String

variable (p : Platform)

def Correlated.identity (c : Correlated) : Identity := ⟨c.kind, p.str c.value, p.str c.value2⟩

/-- `JSON_VALUE(issue, '$.name')`. -/
def memberText (name : String) (issue : Json) : Option String :=
  (dictionary issue).bind fun fields => (Json.get? name fields).bind p.jsonValue

def concerns (i : Identity) (issue : Json) : Bool :=
  memberText p i.kind.key issue = some i.value && memberText p i.kind.key2 issue = some i.value2

def openFor (i : Identity) (x : Incident) : Bool := !x.resolved && concerns p i x.issue

/-- The query of `get_incident_by_issue`. -/
def issueQuery (key value key2 value2 : String) : String :=
  "SELECT * FROM Incident WHERE JSON_VALUE(issue, '$." ++ key ++ "') = '" ++ value ++
    "' AND JSON_VALUE(issue, '$." ++ key2 ++ "') = '" ++ value2 ++ "' AND resolvedTimestamp IS NULL"

/-- The incident is found; an error of the database counts as none found. -/
def getIncidentByIssue (reads : Bool) (i : Identity) (incidents : List Incident) : Bool :=
  if reads then
    match p.select (issueQuery i.kind.key i.value i.kind.key2 i.value2) incidents with
    | some rows => !rows.isEmpty
    | none => false
  else false

/-- `INSERT OR UPDATE`. -/
def upsert (id : String) (issue : Json) (incidents : List Incident) : List Incident :=
  if incidents.any (·.id == id) then
    incidents.map fun x => if x.id = id then { x with issue } else x
  else incidents ++ [⟨id, issue, false⟩]

def stored (incidentData : Fields) : Option Json :=
  (SqlLiteral.denotes (bodySqlJsonDump (dumps p.floatRepr (.obj incidentData)))).bind p.parseJson

def createIncident (applied : Bool) (incidentData : Fields) (id : String)
    (incidents : List Incident) : List Incident :=
  if applied then
    match stored p incidentData with
    | some issue => upsert id issue incidents
    | none => incidents
  else incidents

/-! The process. -/

inductive Phase where
  | arrived
  | waiting                          -- for the lock of its key
  | locked                           -- before the lookup
  | calling                          -- nothing was found; before `FaultClient.get_instance`
  | connecting                       -- inside `create_client`
  | writing                          -- before `send_incident_to_resolver`
  | awaiting (incident : String)     -- the resolver's response
  | answered
  deriving DecidableEq

structure Task where
  payload : Fields
  identity : Identity
  phase : Phase

structure Ask where
  identity : Identity
  incident : String
  deriving DecidableEq

/-- The lock of a key, once made, is free or held by a task. Of the two singletons, `none` is one
not made yet, and `some false` one that is there without its connection. -/
structure State where
  tasks : Nat → Option Task
  locks : String → Option (Option Nat)
  database : Option Bool
  client : Option Bool
  incidents : List Incident
  asks : List Ask
  made : Nat

def start (incidents : List Incident) (made : Nat) : State :=
  ⟨fun _ => none, fun _ => none, none, none, incidents, [], made⟩

namespace State

def setPhase (t : Nat) (task : Task) (phase : Phase) (s : State) : State :=
  { s with tasks := Function.update s.tasks t (some { task with phase }) }

def setLock (key : String) (owner : Option Nat) (s : State) : State :=
  { s with locks := Function.update s.locks key (some owner) }

/-- The task leaves the lock, and its event is answered with success, whatever happened. -/
def answer (t : Nat) (task : Task) (s : State) : State :=
  (s.setLock task.identity.correlationKey none).setPhase t task .answered

/-- `IncidentDB.get_instance`: whether it returns, and the singleton it leaves. -/
def connectDatabase (connects : Bool) (s : State) : Bool × Option Bool :=
  match s.database with
  | none => (connects, some connects)
  | some ready => (true, some ready)

end State

/-- The steps of the tasks and, at the end, of others on the database. The flags say how a call to
the database or to the resolver's host ends. -/
inductive Action where
  | arrive (t : Nat) (logEntry : Fields)
  | getLock (t : Nat)
  | enter (t : Nat)
  | lookup (t : Nat) (connects reads : Bool)
  | getClient (t : Nat)
  | created (t : Nat) (succeeds : Bool)
  | send (t : Nat) (connects applied : Bool)
  | response (t : Nat)
  | resolve (id : String)

/-- `correlate_incident` under the lock. -/
def lookupIncident (t : Nat) (task : Task) (connects reads : Bool) (s : State) : State :=
  let (returns, database) := s.connectDatabase connects
  let s := { s with database }
  if returns then
    -- an instance without its connection raises inside the `try` of the query
    if getIncidentByIssue p (reads && database = some true) task.identity s.incidents then
      s.answer t task
    else s.setPhase t task .calling
  else s.answer t task

/-- `FaultClient.get_instance`: the first caller connects, and the others do not wait for it. -/
def getClient (t : Nat) (task : Task) (s : State) : State :=
  match s.client with
  | none => { s with client := some false }.setPhase t task .connecting
  | some _ => s.setPhase t task .writing

/-- `send_incident_to_resolver` up to the response. A client without its connection raises inside
the `try` of the request. -/
def sendIncident (t : Nat) (task : Task) (connects applied : Bool) (s : State) : State :=
  let id := p.newId s.made
  let (returns, database) := s.connectDatabase connects
  let s := { s with database, made := s.made + 1 }
  if returns then
    let incidentData := Json.set "incident_id" (.str id) task.payload
    let s := { s with
      incidents := createIncident p (applied && database = some true) incidentData id s.incidents }
    if s.client = some true then
      { s with asks := s.asks ++ [Ask.mk task.identity id] }.setPhase t task (.awaiting id)
    else s.answer t task
  else s.answer t task

def move (t : Nat) (phase : Phase) (next : Task → State) (s : State) : State :=
  match s.tasks t with
  | some task => if task.phase = phase then next task else s
  | none => s

/-- A step that cannot be taken leaves the state. An event without a key is none of these. -/
def step (s : State) : Action → State
  | .arrive t logEntry =>
    match s.tasks t, correlated logEntry with
    | none, some c => { s with
        tasks := Function.update s.tasks t (some ⟨c.payload, c.identity p, .arrived⟩) }
    | _, _ => s
  | .getLock t => move t .arrived (fun task =>
      (if s.locks task.identity.correlationKey = none then
        s.setLock task.identity.correlationKey none else s).setPhase t task .waiting) s
  | .enter t => move t .waiting (fun task =>
      if s.locks task.identity.correlationKey = some none then
        (s.setLock task.identity.correlationKey (some t)).setPhase t task .locked
      else s) s
  | .lookup t connects reads =>
    move t .locked (fun task => lookupIncident p t task connects reads s) s
  | .getClient t => move t .calling (fun task => getClient t task s) s
  | .created t succeeds => move t .connecting (fun task =>
      if succeeds then { s with client := some true }.setPhase t task .writing
      else s.answer t task) s
  | .send t connects applied =>
    move t .writing (fun task => sendIncident p t task connects applied s) s
  | .response t =>
    match s.tasks t with
    | some task => match task.phase with
      | .awaiting _ => s.answer t task
      | _ => s
    | none => s
  | .resolve id => { s with
      incidents := s.incidents.map fun x => if x.id = id then { x with resolved := true } else x }

end NetworkAgent.FaultService
