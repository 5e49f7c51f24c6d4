import NetworkAgent.Assurance.FaultReceiver
import NetworkAgent.Memory.Correlating

/-! Any number of ingests over one repository, while the lifecycle of its incidents goes on. -/
namespace NetworkAgent.Assurance
open Lab
open Program (ask attempt)
open Memory (correlateOperation)

def ingestScope (h : Host) (w : ReplayWirePayload) : Scope where
  operation := correlateOperation
  incidentId := stripWhitespace (stableId h "local-replay-incident" w.sourceEventId)
  idempotencyKey := w.idempotencyKey

theorem ingestScope_eq {h : Host} {a b : ValidWirePayload h}
    (same : a.payload.sourceEventId = b.payload.sourceEventId) :
    ingestScope h a.payload = ingestScope h b.payload := by
  unfold ingestScope
  rw [a.valid.idempotencyKey, b.valid.idempotencyKey, same]

theorem strip_sourceEventId {h : Host} {w : ReplayWirePayload} (valid : w.Valid h) :
    stripWhitespace w.sourceEventId = w.sourceEventId := by
  have shape := valid.sourceEventId
  simp only [isHexId, Bool.and_eq_true, beq_iff_eq, List.all_eq_true] at shape
  obtain ⟨⟨start, _⟩, hex⟩ := shape
  refine Text.trim_fixed fun c member => ?_
  rw [← List.take_append_drop "labevent-".length w.sourceEventId.toList, start] at member
  rcases List.mem_append.mp member with front | back
  · have plain : ("labevent-".toList.all fun c => !isWhiteSpace c) = true := by decide
    simpa using List.all_eq_true.mp plain c front
  · exact isWhiteSpace_of_hex (hex c back)

structure CandidateOf (h : Host) (w : ReplayWirePayload) (c : Incident) : Prop where
  incidentId : c.incidentId.text = (ingestScope h w).incidentId
  sourceEventIds : c.sourceEventIds.map (·.text) = [w.sourceEventId]

theorem candidateOf {h : Host} {rules : RuleVersions} {w : ReplayWirePayload} {c : Incident}
    (valid : w.Valid h) (built : candidate h rules w = .ok c) : CandidateOf h w c := by
  simp only [candidate, Checks.bind_ok, field_ok, Identifier.parse, pure, Except.pure,
    Except.ok.injEq, Text.Bounded.parse_eq_some] at built
  obtain ⟨_, _, _, _, _, _, _, named, _, _, _, source, _, _, _, _, _, _, rfl⟩ := built
  refine ⟨named.symm, ?_⟩
  simp only [List.map_cons, List.map_nil, List.cons.injEq, and_true]
  exact source.symm.trans (strip_sourceEventId valid)


/-! What the repository holds between two accesses. -/
section
variable {h : Host}

structure Opened (w : ReplayWirePayload) (incidentId : String) (result : Incident) : Prop where
  incidentId : result.incidentId.text = incidentId
  sourceEventIds : result.sourceEventIds.map (·.text) = [w.sourceEventId]
  status : result.status = .detected
  revision : result.revision = 0

/-- Every incident is one that an ingest of a given payload opened, and an answer on record for
an ingest that names its source event is that of an opened incident. -/
structure Ingested (h : Host) (given : ValidWirePayload h → Prop) (m : Memory) : Prop where
  reachable : Memory.Reachable h m
  origin : ∀ k i, m.incidents.lookup k = some i → ∃ w : ValidWirePayload h, given w ∧
    ∃ record, m.idempotency.lookup (ingestScope h w.payload) = some record ∧
      Opened w.payload k record.result
  answers : ∀ (w : ValidWirePayload h) record,
    m.idempotency.lookup (ingestScope h w.payload) = some record →
      record.result.sourceEventIds.map (·.text) = [w.payload.sourceEventId] →
      Opened w.payload (ingestScope h w.payload).incidentId record.result

theorem ingested_empty (given : ValidWirePayload h → Prop) : Ingested h given {} where
  reachable := Memory.run_reachable h []
  origin k i stored := by simp at stored
  answers w record stored := by simp at stored

variable {given : ValidWirePayload h → Prop} {m : Memory}

theorem head_of_extends {before after : List Identifier} {s : String}
    (extended : PyEq.Extends before after) (single : before.map (·.text) = [s]) :
    (after.map (·.text)).head? = some s := by
  obtain ⟨more, split⟩ := PyEq.extends_iff.mp extended
  have ids : ∀ xs : List Identifier, xs.map PyEq.norm = xs := fun xs => List.map_id xs
  rw [ids, ids] at split
  rw [← split, List.map_append, single]
  rfl

theorem Ingested.head (ingested : Ingested h given m) {k : String} {i : Incident}
    (stored : m.incidents.lookup k = some i) : ∃ w : ValidWirePayload h, given w ∧
      (∃ record, m.idempotency.lookup (ingestScope h w.payload) = some record) ∧
      (i.sourceEventIds.map (·.text)).head? = some w.payload.sourceEventId := by
  obtain ⟨w, known, record, found, opened⟩ := ingested.origin k i stored
  obtain ⟨s, stored', evolved⟩ := ingested.reachable.recorded _ _ found
  rw [opened.incidentId, stored] at stored'
  cases stored'
  exact ⟨w, known, ⟨record, found⟩,
    head_of_extends evolved.history.sourceEventIds opened.sourceEventIds⟩

theorem Ingested.correlated (ingested : Ingested h given m) {w : ValidWirePayload h}
    (known : given w) {c : Incident} (keys : CandidateOf h w.payload c) {now : Instant}
    {result : Except RepositoryError Incident} {m' : Memory}
    (outcome : Memory.Correlated m c (ingestScope h w.payload) now result m')
    (reachable : Memory.Reachable h m') : Ingested h given m' := by
  have older : ∀ {scope : Scope} {record : IdempotencyRecord},
      m.idempotency.lookup (ingestScope h w.payload) = none →
      m.idempotency.lookup scope = some record → scope ≠ ingestScope h w.payload := by
    rintro scope record absent found rfl
    rw [absent] at found
    cases found
  cases outcome with
  | failed | replayed => exact ingested
  | @joined existing fp table absent stored =>
    refine ⟨reachable, fun k i before => ?_, fun w' record found own => ?_⟩
    · obtain ⟨w', known', record, found, opened⟩ := ingested.origin k i before
      refine ⟨w', known', record, ?_, opened⟩
      exact (AList.lookup_insert_ne (older absent found)).trans found
    · rcases Table.lookup_insert_iff.mp found with ⟨same, rfl⟩ | ⟨_, before⟩
      · obtain ⟨other, _, ⟨record, found'⟩, head⟩ :=
          ingested.head (ingested.reachable.keyed.stored stored)
        rw [own, List.head?_cons, Option.some.injEq] at head
        exact absurd ((ingestScope_eq head.symm).trans same) (older absent found')
      · exact ingested.answers w' record before own
  | @opened fp metadata events table absent fresh detected revision linked =>
    have opened : Opened w.payload c.incidentId.text { c with createdAt := now, updatedAt := now } :=
      ⟨rfl, keys.sourceEventIds, detected, revision⟩
    refine ⟨reachable, fun k i stored => ?_, fun w' record found own => ?_⟩
    · rcases Table.lookup_insert_iff.mp stored with ⟨rfl, rfl⟩ | ⟨_, before⟩
      · exact ⟨w, known, _, AList.lookup_insert _, opened⟩
      · obtain ⟨w', known', record, found, opened⟩ := ingested.origin k i before
        refine ⟨w', known', record, ?_, opened⟩
        exact (AList.lookup_insert_ne (older absent found)).trans found
    · rcases Table.lookup_insert_iff.mp found with ⟨same, rfl⟩ | ⟨_, before⟩
      · refine ⟨?_, own, detected, revision⟩
        rw [same]
        exact keys.incidentId
      · exact ingested.answers w' record before own

theorem Ingested.transition (ingested : Ingested h given m) {incidentId : String}
    {target : IncidentStatus} {expected : Int} {w : WriteMetadata} {u : Updates} {now : Instant} :
    Ingested h given (m.transition h incidentId target expected w u now).2 := by
  have keyed := ingested.reachable.keyed
  have keeps := Memory.step_keeps (h := h) ingested.reachable.owned now
    (.transition incidentId target expected w u)
  refine ⟨ingested.reachable.next (now, .transition incidentId target expected w u),
    fun k i stored => ?_, fun w' record found => ?_⟩
  · obtain ⟨before, known⟩ := Memory.mem_iff_lookup.mp
      (Memory.transition_known keyed (Memory.mem_iff_lookup.mpr ⟨i, stored⟩))
    obtain ⟨w', given, record, found, opened⟩ := ingested.origin k before known
    exact ⟨w', given, record, keeps.records _ _ found, opened⟩
  · exact ingested.answers w' record (Memory.transition_records rfl found)

theorem recorded_of_correlated {c i : Incident} {scope : Scope} {now : Instant} {m' : Memory}
    (outcome : Memory.Correlated m c scope now (.ok i) m') :
    ∃ record, m'.idempotency.lookup scope = some record ∧ record.result = i := by
  cases outcome with
  | replayed stored => exact ⟨_, stored, rfl⟩
  | joined => exact ⟨_, AList.lookup_insert _, rfl⟩
  | opened => exact ⟨_, AList.lookup_insert _, rfl⟩

end


/-! The receiver at work, among the transitions of the incidents. -/

inductive Request (h : Host) where
  | ingest (rules : RuleVersions) (wire : ValidWirePayload h)
  | transition (incidentId : String) (target : IncidentStatus) (expected : Int)
      (w : WriteMetadata) (u : Updates)

inductive Outcome where
  | ingested (result : Except FaultFailure FaultReceiptView)
  | moved (result : Except RepositoryError Incident)

def code (h : Host) (actor : String) : Request h → Program Access Access.Answer Outcome
  | .ingest rules wire =>
    Program.bind (ingest h rules actor wire.payload) fun result => .done (.ingested result)
  | .transition incidentId target expected w u =>
    .call (.write (.transition incidentId target expected w u)) fun result => .done (.moved result)

abbrev Receiver (h : Host) := Program.System Memory (Request h) Access Access.Answer Outcome

/-- The receiver and its repository after any moves, from the empty repository. -/
def work (h : Host) (actor : String) (moves : List (Program.Move (Request h) Instant)) :
    Receiver h :=
  Program.System.run (Memory.access h) (code h actor) ⟨{}, []⟩ moves

/-- A receipt speaks of the answer on record, which is that of an opened incident. -/
def Acknowledged (h : Host) (w : ReplayWirePayload) (r : FaultReceiptView) (m : Memory) : Prop :=
  ∃ record, m.idempotency.lookup (ingestScope h w) = some record ∧
    Opened w (ingestScope h w).incidentId record.result ∧ receipt h record.result w = .ok r

section
variable {h : Host} {given : ValidWirePayload h → Prop}

theorem leads_read {ε α : Type} {post : Except ε α → Memory → Prop} {m : Memory} {a : Access}
    {f : a.Answer → ExceptT ε (Program Access Access.Answer) α}
    (read : ∀ m now, (Memory.access h m now a).2 = m)
    (goes : ∀ m', m.Keeps m' → ∀ now,
      Program.Leads (Memory.access h) (Ingested h given) Memory.Keeps post
        (f (Memory.access h m' now a).1) m') :
    Program.Leads (Memory.access h) (Ingested h given) Memory.Keeps post
      (ask a >>= f : ExceptT ε (Program Access Access.Answer) α) m := by
  refine Program.Leads.ask fun m' holds moved now => ?_
  rw [read]
  exact ⟨holds, .refl m', goes m' moved now⟩

theorem ingest_leads {rules : RuleVersions} {actor : String} {wire : ValidWirePayload h}
    (known : given wire) (m : Memory) :
    Program.Leads (Memory.access h) (Ingested h given) Memory.Keeps
      (fun result m => ∀ r, result = .ok r → Acknowledged h wire.payload r m)
      (ingest h rules actor wire.payload) m := by
  have fails : ∀ (e : FaultFailure) (m : Memory) (r : FaultReceiptView),
      Except.error e = .ok r → Acknowledged h wire.payload r m := fun _ _ _ same => nomatch same
  refine Program.Leads.attempt fails fun c built => ?_
  have keys := candidateOf wire.valid built
  refine Program.Leads.ask fun m' holds moved now => ?_
  have outcome := Memory.createOrCorrelate_correlated holds.reachable.keyed.allSafe c
    ⟨wire.payload.idempotencyKey, actor, ingestReason, c.traceId.text⟩ now
  have scope : (⟨correlateOperation, c.incidentId.text, wire.payload.idempotencyKey⟩ : Scope) =
      ingestScope h wire.payload := by
    rw [keys.incidentId]
    rfl
  rw [scope] at outcome
  have kept := holds.correlated known keys outcome (holds.reachable.next (now, .createOrCorrelate c
    ⟨wire.payload.idempotencyKey, actor, ingestReason, c.traceId.text⟩))
  refine ⟨kept, Memory.step_keeps holds.reachable.owned now _, ?_⟩
  refine Program.Leads.attempt fails fun incident answered => ?_
  refine Program.Leads.attempt fails fun _ matched => ?_
  obtain ⟨record, found, result⟩ : ∃ record, (m'.createOrCorrelate h c
      ⟨wire.payload.idempotencyKey, actor, ingestReason, c.traceId.text⟩ now).2.idempotency.lookup
      (ingestScope h wire.payload) = some record ∧ record.result = incident := by
    have answer : (m'.createOrCorrelate h c
      ⟨wire.payload.idempotencyKey, actor, ingestReason, c.traceId.text⟩ now).1 = .ok incident :=
      fromRepository_ok.mp answered
    rw [answer] at outcome
    exact recorded_of_correlated outcome
  have own : record.result.sourceEventIds.map (·.text) = [wire.payload.sourceEventId] := by
    have facts := (requireAvailable_ok.mp matched).1
    rw [result, facts.2.2.1]
    exact keys.sourceEventIds
  have opened := kept.answers wire record found own
  refine leads_read (fun _ _ => rfl) fun m₁ first _ => ?_
  refine Program.Leads.attempt fails fun _ _ => ?_
  refine leads_read (fun _ _ => rfl) fun m₂ second _ => ?_
  refine Program.Leads.attempt fails fun _ _ => ?_
  refine Program.Leads.attempt fails fun _ _ => ?_
  refine leads_read (fun _ _ => rfl) fun m₃ third _ => ?_
  refine Program.Leads.attempt fails fun _ _ => ?_
  refine Program.Leads.attempt fails fun _ _ => ?_
  intro m₄ _ fourth r received
  have keeps := ((first.trans second).trans third).trans fourth
  exact ⟨record, keeps.records _ _ found, opened, result ▸ received⟩

theorem Acknowledged.keeps {w : ReplayWirePayload} {r : FaultReceiptView} {m m' : Memory}
    (acknowledged : Acknowledged h w r m) (keeps : m.Keeps m') : Acknowledged h w r m' := by
  obtain ⟨record, found, opened, received⟩ := acknowledged
  exact ⟨record, keeps.records _ _ found, opened, received⟩

def Returns (h : Host) : Request h → Outcome → Memory → Prop
  | .ingest _ wire, .ingested (.ok r), m => Acknowledged h wire.payload r m
  | _, _, _ => True

def Given (given : ValidWirePayload h → Prop) : Request h → Prop
  | .ingest _ wire => given wire
  | .transition _ _ _ _ _ => True

theorem code_leads {actor : String} (request : Request h) (known : Given given request) (m : Memory)
    (holds : Ingested h given m) :
    Program.Leads (Memory.access h) (Ingested h given) Memory.Keeps (Returns h request)
      (code h actor request) m := by
  cases request with
  | ingest rules wire =>
    refine Program.Leads.bind Memory.Keeps.refl holds
      ((ingest_leads known m).weaken fun result m done => ?_)
    intro m' _ keeps
    cases result with
    | error e => exact trivial
    | ok r => exact (done r rfl).keeps keeps
  | transition incidentId target expected w u =>
    intro m' holds' _ now
    refine ⟨holds'.transition, Memory.step_keeps holds'.reachable.owned now _, ?_⟩
    exact fun _ _ _ => trivial

/-! What a receiver may still do. -/

/-- The accesses of an ingest: reads, and the create under the scope of its payload. -/
def IngestAccess (h : Host) (w : ReplayWirePayload) : Access → Prop
  | .write (.createOrCorrelate c metadata) =>
    (⟨correlateOperation, c.incidentId.text, metadata.idempotencyKey⟩ : Scope) = ingestScope h w
  | .write _ => False
  | _ => True

def RequestAccess (h : Host) : Request h → Access → Prop
  | .ingest _ wire, access => IngestAccess h wire.payload access
  | .transition _ _ _ _ _, access => ∃ call, access = .write call

theorem makes_attempt {ε α β : Type} {kind : Access → Prop} {x : Except ε α}
    {f : α → ExceptT ε (Program Access Access.Answer) β}
    (goes : ∀ a, x = .ok a → Program.Makes kind (f a)) :
    Program.Makes kind (attempt x >>= f : ExceptT ε (Program Access Access.Answer) β) := by
  cases x with
  | error e => exact trivial
  | ok a => exact goes a rfl

theorem makes_ask {ε β : Type} {kind : Access → Prop} {a : Access}
    {f : a.Answer → ExceptT ε (Program Access Access.Answer) β} (made : kind a)
    (goes : ∀ answer, Program.Makes kind (f answer)) :
    Program.Makes kind (ask a >>= f : ExceptT ε (Program Access Access.Answer) β) :=
  ⟨made, goes⟩

theorem ingest_makes {rules : RuleVersions} {actor : String} (wire : ValidWirePayload h) :
    Program.Makes (IngestAccess h wire.payload) (ingest h rules actor wire.payload) := by
  refine makes_attempt fun c built => ?_
  have keys := candidateOf wire.valid built
  refine makes_ask ?_ fun _ => ?_
  · show (⟨_, c.incidentId.text, _⟩ : Scope) = _
    rw [keys.incidentId]
    rfl
  refine makes_attempt fun _ _ => makes_attempt fun _ _ => ?_
  refine makes_ask trivial fun _ => makes_attempt fun _ _ => ?_
  refine makes_ask trivial fun _ => makes_attempt fun _ _ => makes_attempt fun _ _ => ?_
  refine makes_ask trivial fun _ => makes_attempt fun _ _ => makes_attempt fun _ _ => ?_
  exact trivial

theorem code_makes {actor : String} (request : Request h) :
    (code h actor request).Makes (RequestAccess h request) := by
  cases request with
  | ingest rules wire => exact (ingest_makes wire).bind fun _ => trivial
  | transition => exact ⟨⟨_, rfl⟩, fun _ => trivial⟩

theorem access_unchanged {m : Memory} (holds : Ingested h given m) {w : ReplayWirePayload}
    {record : IdempotencyRecord} (found : m.idempotency.lookup (ingestScope h w) = some record)
    {access : Access} (kind : IngestAccess h w access) (now : Instant) :
    (m.access h now access).2 = m := by
  cases access with
  | get | sourceEventAssociations | history => rfl
  | write call =>
    cases call with
    | create | importDetectedSnapshot | save | transition => exact kind.elim
    | createOrCorrelate c metadata =>
      have outcome :=
        Memory.createOrCorrelate_correlated holds.reachable.keyed.allSafe c metadata now
      rw [show (⟨correlateOperation, c.incidentId.text, metadata.idempotencyKey⟩ : Scope) = _
        from kind] at outcome
      show (m.createOrCorrelate h c metadata now).2 = m
      generalize (m.createOrCorrelate h c metadata now).1 = result at outcome
      generalize (m.createOrCorrelate h c metadata now).2 = m' at outcome
      cases outcome with
      | failed | replayed => rfl
      | joined absent => rw [absent] at found; cases found
      | opened absent => rw [absent] at found; cases found

end


/-! Exactly once. -/
section
variable {h : Host} {actor : String}

def GivenIn (moves : List (Program.Move (Request h) Instant)) (wire : ValidWirePayload h) : Prop :=
  ∃ rules, .start (.ingest rules wire) ∈ moves

def Received (s : Receiver h) (wire : ValidWirePayload h) (r : FaultReceiptView) : Prop :=
  ∃ rules, s.Returned (.ingest rules wire) (.ingested (.ok r))

theorem work_onTrack (actor : String) (moves : List (Program.Move (Request h) Instant)) :
    (work h actor moves).OnTrack (Memory.access h) (Ingested h (GivenIn moves)) Memory.Keeps
      (Returns h) := by
  have start : (⟨{}, []⟩ : Receiver h).OnTrack (Memory.access h) (Ingested h (GivenIn moves))
      Memory.Keeps (Returns h) := ⟨ingested_empty _, fun _ member => nomatch member⟩
  have starts : ∀ label, .start label ∈ moves → Given (GivenIn moves) label := by
    intro label member
    cases label with
    | ingest rules wire => exact ⟨rules, member⟩
    | transition => exact trivial
  exact (start.run Memory.Keeps.refl (fun _ _ _ => Memory.Keeps.trans) code_leads moves starts).1

theorem Received.acknowledged {moves : List (Program.Move (Request h) Instant)}
    {wire : ValidWirePayload h} {r : FaultReceiptView}
    (received : Received (work h actor moves) wire r) :
    Acknowledged h wire.payload r (work h actor moves).shared := by
  obtain ⟨rules, returned⟩ := received
  exact (work_onTrack actor moves).returned Memory.Keeps.refl returned

structure Binds (h : Host) (w : ReplayWirePayload) (r : FaultReceiptView) : Prop where
  sourceEventId : r.sourceEventId = w.sourceEventId
  payloadSha256 : r.payloadSha256 = w.payloadSha256
  incidentId : r.incidentId = (ingestScope h w).incidentId
  status : r.status = IncidentStatus.detected.value
  revision : r.revision = 0

theorem Acknowledged.binds {w : ReplayWirePayload} {r : FaultReceiptView} {m : Memory}
    (acknowledged : Acknowledged h w r m) : Binds h w r := by
  obtain ⟨record, _, opened, received⟩ := acknowledged
  simp only [receipt, Checks.bind_ok, pure, Except.pure, Except.ok.injEq] at received
  obtain ⟨_, _, _, _, rfl⟩ := received
  exact ⟨rfl, rfl, opened.incidentId, congrArg IncidentStatus.value opened.status, opened.revision⟩

theorem Acknowledged.stored {w : ReplayWirePayload} {r : FaultReceiptView} {m : Memory}
    (reachable : Memory.Reachable h m) (acknowledged : Acknowledged h w r m) :
    ∃ i, m.incidents.lookup r.incidentId = some i ∧
      (i.sourceEventIds.map (·.text)).head? = some w.sourceEventId := by
  have named := acknowledged.binds.incidentId
  obtain ⟨record, found, opened, _⟩ := acknowledged
  obtain ⟨i, stored, evolved⟩ := reachable.recorded _ _ found
  rw [opened.incidentId, ← named] at stored
  exact ⟨i, stored, head_of_extends evolved.history.sourceEventIds opened.sourceEventIds⟩

structure ExactlyOnce (h : Host) (actor : String)
    (moves : List (Program.Move (Request h) Instant)) : Prop where
  incident : ∀ wire r, Received (work h actor moves) wire r →
    ∃ i, (work h actor moves).shared.incidents.lookup r.incidentId = some i ∧
      wire.payload.sourceEventId ∈ i.sourceEventIds.map (·.text) ∧
      ∀ k j, (work h actor moves).shared.incidents.lookup k = some j →
        wire.payload.sourceEventId ∈ j.sourceEventIds.map (·.text) → k = r.incidentId
  distinct : ∀ wire r wire' r', Received (work h actor moves) wire r →
    Received (work h actor moves) wire' r' →
      (r.incidentId = r'.incidentId ↔ wire.payload.sourceEventId = wire'.payload.sourceEventId)
  /-- There is no incident but those of the payloads given. -/
  origin : ∀ k i, (work h actor moves).shared.incidents.lookup k = some i →
    ∃ wire, GivenIn moves wire ∧ wire.payload.sourceEventId ∈ i.sourceEventIds.map (·.text) ∧
      k = (ingestScope h wire.payload).incidentId
  receipt : ∀ wire r, Received (work h actor moves) wire r → Binds h wire.payload r
  repeated : ∀ wire r r', Received (work h actor moves) wire r →
    Received (work h actor moves) wire r' → r = r'
  /-- No access of an ingest changes anything once its source event is acknowledged. -/
  unchanged : ∀ before task now after, moves = before ++ .step task now :: after →
    ∀ wire r rules again p, Received (work h actor before) wire r →
      (work h actor before).tasks[task]? = some (.ingest rules again, p) →
      again.payload.sourceEventId = wire.payload.sourceEventId →
      (work h actor (before ++ [.step task now])).shared = (work h actor before).shared

theorem exactly_once_incident {moves : List (Program.Move (Request h) Instant)}
    {wire : ValidWirePayload h} {r : FaultReceiptView}
    (received : Received (work h actor moves) wire r) :
    ∃ i, (work h actor moves).shared.incidents.lookup r.incidentId = some i ∧
      wire.payload.sourceEventId ∈ i.sourceEventIds.map (·.text) ∧
      ∀ k j, (work h actor moves).shared.incidents.lookup k = some j →
        wire.payload.sourceEventId ∈ j.sourceEventIds.map (·.text) → k = r.incidentId := by
  have reachable := (work_onTrack actor moves).holds.reachable
  obtain ⟨i, stored, head⟩ := received.acknowledged.stored reachable
  have listed := List.mem_of_head? head
  refine ⟨i, stored, listed, fun k j stored' listed' => ?_⟩
  have linked : ∀ {k : String} {j : Incident},
      (work h actor moves).shared.incidents.lookup k = some j →
      wire.payload.sourceEventId ∈ j.sourceEventIds.map (·.text) →
      (k, wire.payload.sourceEventId) ∈ (work h actor moves).shared.sourceEvents := by
    intro k j stored listed
    obtain ⟨s, member, text⟩ := List.mem_map.mp listed
    exact text ▸ reachable.owned.listed k j stored s member
  exact reachable.owned.unique _ _ _ (linked stored' listed') (linked stored listed)

theorem exactly_once_distinct {moves : List (Program.Move (Request h) Instant)}
    {wire wire' : ValidWirePayload h} {r r' : FaultReceiptView}
    (received : Received (work h actor moves) wire r)
    (received' : Received (work h actor moves) wire' r') :
    r.incidentId = r'.incidentId ↔ wire.payload.sourceEventId = wire'.payload.sourceEventId := by
  have reachable := (work_onTrack actor moves).holds.reachable
  constructor
  · intro same
    obtain ⟨i, stored, head⟩ := received.acknowledged.stored reachable
    obtain ⟨j, stored', head'⟩ := received'.acknowledged.stored reachable
    rw [← same, stored] at stored'
    cases stored'
    exact Option.some.inj (head.symm.trans head')
  · intro same
    rw [received.acknowledged.binds.incidentId, received'.acknowledged.binds.incidentId,
      ingestScope_eq same]

theorem exactly_once_unchanged {before : List (Program.Move (Request h) Instant)} {task : Nat}
    {now : Instant} {wire again : ValidWirePayload h} {r : FaultReceiptView} {rules : RuleVersions}
    {p : Program Access Access.Answer Outcome} (received : Received (work h actor before) wire r)
    (found : (work h actor before).tasks[task]? = some (.ingest rules again, p))
    (same : again.payload.sourceEventId = wire.payload.sourceEventId) :
    (work h actor (before ++ [.step task now])).shared = (work h actor before).shared := by
  have split : work h actor (before ++ [.step task now]) =
      (work h actor before).step (Memory.access h) task now := by
    rw [work, Program.System.run, Runs.run_append]
    rfl
  have every : ∀ t ∈ (work h actor before).tasks, t.2.Makes (RequestAccess h t.1) :=
    Program.System.run_makes code_makes (by intro t member; cases member) before
  have makes := every _ (List.mem_of_getElem? found)
  obtain ⟨record, recorded, _⟩ := received.acknowledged
  rw [← ingestScope_eq same] at recorded
  rw [split, Program.System.step, found]
  cases p with
  | done => rfl
  | call access next =>
    exact access_unchanged (work_onTrack actor before).holds recorded makes.1 now

/-- Ingest is exactly once, however the ingests and the transitions are interleaved. -/
theorem ingest_exactly_once (h : Host) (actor : String)
    (moves : List (Program.Move (Request h) Instant)) : ExactlyOnce h actor moves where
  incident wire r received := exactly_once_incident received
  distinct wire r wire' r' received received' := exactly_once_distinct received received'
  origin k i stored := by
    obtain ⟨wire, given, record, found, opened⟩ :=
      (work_onTrack actor moves).holds.origin k i stored
    obtain ⟨i', stored', evolved⟩ :=
      (work_onTrack actor moves).holds.reachable.recorded _ _ found
    rw [opened.incidentId, stored] at stored'
    cases stored'
    have head := head_of_extends evolved.history.sourceEventIds opened.sourceEventIds
    have own := (work_onTrack actor moves).holds.answers wire record found
      opened.sourceEventIds
    exact ⟨wire, given, List.mem_of_head? head, opened.incidentId.symm.trans own.incidentId⟩
  receipt wire r received := received.acknowledged.binds
  repeated wire r r' received received' := by
    obtain ⟨record, found, _, first⟩ := received.acknowledged
    obtain ⟨record', found', _, second⟩ := received'.acknowledged
    cases found.symm.trans found'
    exact Except.ok.inj (first.symm.trans second)
  unchanged before task now after _ wire r rules again p received found same :=
    exactly_once_unchanged received found same

end

end NetworkAgent.Assurance
