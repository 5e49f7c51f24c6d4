import NetworkAgent.FaultService.Invariant

/-! One open incident for each identity, over every run in which the calls that matter succeed; and
a name with a quote, for which lookup and insert do not agree. -/
namespace NetworkAgent.FaultService
open Runs Operator.JsonLiteral

variable {p : Platform} {s : State} {t : Nat} {phase : Phase}

/-! Runs in which nothing fails. -/

def Succeeds (p : Platform) : Action → Prop
  | .arrive _ logEntry => ∀ c, correlated logEntry = some c → Faithful p c.payload (c.identity p)
  | .lookup _ connects reads => connects = true ∧ reads = true
  | .created _ succeeds => succeeds = true
  | .send _ connects applied => connects = true ∧ applied = true
  | _ => True

theorem connectDatabase_of_ready (ready : s.database ≠ some false) :
    s.connectDatabase true = (true, some true) := by
  unfold State.connectDatabase
  cases known : s.database with
  | none => rfl
  | some there =>
    cases there with
    | true => rfl
    | false => exact absurd known ready

theorem meets_of_succeeds {action : Action} (ready : s.database ≠ some false)
    (succeeds : Succeeds p action) : Meets p s action := by
  have connect := connectDatabase_of_ready ready
  cases action with
  | arrive t logEntry => exact succeeds
  | lookup t connects reads =>
    obtain ⟨rfl, rfl⟩ := succeeds
    intro task _ _
    rw [connect]
    exact .inl ⟨rfl, rfl⟩
  | created t answer => exact fun _ _ _ => succeeds
  | send t connects applied =>
    obtain ⟨rfl, rfl⟩ := succeeds
    intro task _ _
    rw [connect]
    exact ⟨rfl, rfl, rfl⟩
  | getLock t => trivial
  | enter t => trivial
  | getClient t => trivial
  | response t => trivial
  | resolve id => trivial

theorem move_database {next : Task → State} (ready : s.database ≠ some false)
    (stays : ∀ task, (next task).database ≠ some false) :
    (move t phase next s).database ≠ some false := by
  unfold move
  cases s.tasks t with
  | none => exact ready
  | some task =>
    dsimp only
    split
    · exact stays task
    · exact ready

theorem step_database {action : Action} (ready : s.database ≠ some false)
    (succeeds : Succeeds p action) : (step p s action).database ≠ some false := by
  cases action with
  | arrive t logEntry =>
    simp only [step]
    split <;> exact ready
  | getLock t =>
    refine move_database ready fun task => ?_
    show (if _ then _ else _ : State).database ≠ _
    split <;> exact ready
  | enter t =>
    refine move_database ready fun task => ?_
    split <;> exact ready
  | lookup t connects reads =>
    obtain ⟨rfl, rfl⟩ := succeeds
    refine move_database ready fun task => ?_
    unfold lookupIncident
    rw [connectDatabase_of_ready ready]
    dsimp only
    rw [if_pos rfl]
    have connected : (some true : Option Bool) ≠ some false := by decide
    split <;> exact connected
  | getClient t =>
    refine move_database ready fun task => ?_
    unfold getClient
    split <;> exact ready
  | created t answer =>
    refine move_database ready fun task => ?_
    split <;> exact ready
  | send t connects applied =>
    obtain ⟨rfl, rfl⟩ := succeeds
    refine move_database ready fun task => ?_
    unfold sendIncident
    rw [connectDatabase_of_ready ready]
    dsimp only
    rw [if_pos rfl]
    have connected : (some true : Option Bool) ≠ some false := by decide
    split <;> exact connected
  | response t =>
    simp only [step]
    split
    · split <;> exact ready
    · exact ready
  | resolve id => exact ready

theorem along_of_succeeds {actions : List Action} (ready : s.database ≠ some false)
    (all : ∀ action ∈ actions, Succeeds p action) : Along (step p) (Meets p) s actions := by
  induction actions generalizing s with
  | nil => trivial
  | cons action rest ih =>
    have own := all action List.mem_cons_self
    exact ⟨meets_of_succeeds ready own, ih (step_database ready own)
      fun other member => all other (List.mem_cons_of_mem action member)⟩

/-! A platform for events with texts only. -/

/-- The values between marks, each up to the character that starts the next mark. -/
def unformat (stop : Char) : List (List Char) → List Char → Option (List String)
  | [], _ => none
  | [mark], text => if text = mark then some [] else none
  | mark :: marks, text =>
    if mark <+: text then
      let body := text.drop mark.length
      let value := body.takeWhile (· ≠ stop)
      (String.ofList value :: ·) <$> unformat stop marks (body.drop value.length)
    else none

def format (first : List Char) : List (List Char × String) → List Char
  | [] => first
  | (next, value) :: rest => first ++ (value.toList ++ format next rest)

theorem unformat_format {stop : Char} {parts : List (List Char × String)} (first : List Char)
    (stops : ∀ part ∈ parts, part.1.head? = some stop ∧ stop ∉ part.2.toList) :
    unformat stop (first :: parts.map Prod.fst) (format first parts) =
      some (parts.map Prod.snd) := by
  induction parts generalizing first with
  | nil => simp [unformat, format]
  | cons part rest ih =>
    obtain ⟨next, value⟩ := part
    obtain ⟨head, free⟩ := stops (next, value) List.mem_cons_self
    have later := ih next fun other member => stops other (List.mem_cons_of_mem _ member)
    have starts : ∃ tail, format next rest = stop :: tail := by
      cases next with
      | nil => cases head
      | cons c next =>
        cases head
        cases rest with
        | nil => exact ⟨next, rfl⟩
        | cons part rest => exact ⟨_, rfl⟩
    obtain ⟨tail, same⟩ := starts
    have taken : (value.toList ++ format next rest).takeWhile (· ≠ stop) = value.toList := by
      rw [List.takeWhile_append_of_pos fun c member => by
        simpa using fun equal : c = stop => free (equal ▸ member), same]
      simp
    show unformat stop (first :: next :: rest.map Prod.fst)
      (first ++ (value.toList ++ format next rest)) = some (value :: rest.map Prod.snd)
    rw [unformat, if_pos (List.prefix_append _ _)]
    · dsimp only
      rw [List.drop_left, taken, List.drop_left, later, String.ofList_toList]
      rfl
    · simp

/-- A formatted text, an incident with two values and an identifier, and `JSON_VALUE`. -/
def sampleStr : Json → String
  | .str s => s
  | _ => ""

def sampleValue : Json → Option String
  | .str s => some s
  | _ => none

def queryStart : List Char := "SELECT * FROM Incident WHERE JSON_VALUE(issue, '$.".toList

def queryParts (i : Identity) : List (List Char × String) :=
  [("') = '".toList, i.kind.key), ("' AND JSON_VALUE(issue, '$.".toList, i.value),
    ("') = '".toList, i.kind.key2), ("' AND resolvedTimestamp IS NULL".toList, i.value2)]

def queryMarks : List (List Char) :=
  queryStart :: (queryParts ⟨.ueransimHealth, "", ""⟩).map Prod.fst

def sampleMember (key : String) (issue : Json) : Option String :=
  (dictionary issue).bind fun fields => (Json.get? key fields).bind sampleValue

/-- Where the statement is not the query with four values, the database raises. -/
def sampleSelect (sql : String) (incidents : List Incident) : Option (List Incident) :=
  match unformat '\'' queryMarks sql.toList with
  | some [key, value, key2, value2] => some (incidents.filter fun x => !x.resolved &&
      (sampleMember key x.issue = some value && sampleMember key2 x.issue = some value2))
  | _ => none

def issueStart : List Char := "\x7b\"process_name\": \"gnb\", \"hostname\": \"".toList

def issueParts (hostname id : String) : List (List Char × String) :=
  [("\", \"incident_id\": \"".toList, hostname), ("\"\x7d".toList, id)]

def sampleIssue (hostname id : String) : Json :=
  .obj [("process_name", .str "gnb"), ("hostname", .str hostname), ("incident_id", .str id)]

def sampleParse (text : List Char) : Option Json :=
  match unformat '"' (issueStart :: (issueParts "" "").map Prod.fst) text with
  | some [hostname, id] => some (sampleIssue hostname id)
  | _ => none

def samplePlatform : Platform where
  str := sampleStr
  floatRepr _ := "0.0"
  newId n := (n : Int).repr
  select := sampleSelect
  parseJson := sampleParse
  jsonValue := sampleValue

theorem toList_format (a b c d e v v2 k k2 : String) :
    (a ++ k ++ b ++ v ++ c ++ k2 ++ d ++ v2 ++ e).toList =
      format a.toList [(b.toList, k), (c.toList, v), (d.toList, k2), (e.toList, v2)] := by
  simp only [format, String.toList_append, List.append_assoc]

theorem issueQuery_format (i : Identity) :
    (issueQuery i.kind.key i.value i.kind.key2 i.value2).toList =
      format queryStart (queryParts i) :=
  toList_format _ _ _ _ _ _ _ _ _

theorem sample_documented : Documented samplePlatform where
  newId m n same := Int.ofNat.inj (Json.int_text_inj same)
  select i plain plain2 incidents := by
    have free : ∀ {s : String}, Plain s → '\'' ∉ s.toList := fun plain member =>
      plain '\'' member List.mem_cons_self
    have parts : ∀ part ∈ queryParts i, part.1.head? = some '\'' ∧ '\'' ∉ part.2.toList := by
      have keys : '\'' ∉ i.kind.key.toList ∧ '\'' ∉ i.kind.key2.toList := by
        cases i.kind <;> decide
      simp only [queryParts, List.forall_mem_cons]
      exact ⟨⟨by decide, keys.1⟩, ⟨by decide, free plain⟩, ⟨by decide, keys.2⟩,
        ⟨by decide, free plain2⟩, by simp⟩
    have read := unformat_format queryStart parts
    have marks : queryMarks = queryStart :: (queryParts i).map Prod.fst := by
      simp only [queryMarks, queryParts, List.map_cons, List.map_nil]
    have own : samplePlatform.select = sampleSelect := rfl
    rw [own, sampleSelect, issueQuery_format, marks, read]
    simp only [queryParts, List.map_cons, List.map_nil]
    rfl

/-! An event and its issue. -/

def Printable (s : String) : Prop :=
  ∀ c ∈ s.toList, 0x20 ≤ c.toNat ∧ c.toNat < 0x7F ∧ c ≠ '"' ∧ c ≠ '\\'

theorem printable_of_all {s : String}
    (all : (s.toList.all fun c => 0x20 ≤ c.toNat && c.toNat < 0x7F && c ≠ '"' && c ≠ '\\') = true) :
    Printable s := by
  intro c member
  have own := List.all_eq_true.mp all c member
  simp only [Bool.and_eq_true, decide_eq_true_eq] at own
  exact ⟨own.1.1.1, own.1.1.2, own.1.2, own.2⟩

theorem plain_of_all {s : String}
    (all : (s.toList.all fun c => c ∉ ['\'', '\\', '\n', '\r']) = true) : Plain s := by
  intro c member
  exact of_decide_eq_true (List.all_eq_true.mp all c member)

theorem printable_id (n : Nat) : Printable (n : Int).repr := by
  intro c member
  have digit := repr_chars n c member
  obtain ⟨-, slash, low, high⟩ := numberChar_spec digit
  refine ⟨low, high, ?_, slash⟩
  rintro rfl
  exact absurd digit (by decide)

theorem sample_reads {hostname id : String} (printable : Printable hostname)
    (digits : Printable id) : Reads (tokens samplePlatform.floatRepr (sampleIssue hostname id))
      (format issueStart (issueParts hostname id)) := by
  have name : ∀ s : String, Printable s → Reads (encodeString s)
      ("\"".toList ++ (s.toList ++ "\"".toList)) := fun _ known => reads_printable known
  have field : ∀ s w : String, Printable s → Printable w →
      Reads (encodeString s ++ (plain ": " ++ encodeString w))
        (("\"".toList ++ (s.toList ++ "\"".toList)) ++ (": ".toList ++
          ("\"".toList ++ (w.toList ++ "\"".toList)))) :=
    fun s w known text => (name s known).append ((reads_plain ": ").append (name w text))
  have first := field "process_name" "gnb" (printable_of_all (by decide))
    (printable_of_all (by decide))
  have second := field "hostname" hostname (printable_of_all (by decide)) printable
  have third := field "incident_id" id (printable_of_all (by decide)) digits
  have whole := (reads_plain "\x7b").append (first.append ((reads_plain ", ").append
    (second.append ((reads_plain ", ").append (third.append (reads_plain "\x7d"))))))
  have start : "\x7b".toList ++ ("\"".toList ++ ("process_name".toList ++ ("\"".toList ++
      (": ".toList ++ ("\"".toList ++ ("gnb".toList ++ ("\"".toList ++ (", ".toList ++
        ("\"".toList ++ ("hostname".toList ++ ("\"".toList ++ (": ".toList ++
          "\"".toList)))))))))))) = issueStart := by
    decide
  have middle : "\"".toList ++ (", ".toList ++ ("\"".toList ++ ("incident_id".toList ++
      ("\"".toList ++ (": ".toList ++ "\"".toList))))) = "\", \"incident_id\": \"".toList := by
    decide
  have last : "\"".toList ++ "\x7d".toList = "\"\x7d".toList := by decide
  have written : tokens samplePlatform.floatRepr (sampleIssue hostname id) =
      plain "\x7b" ++ (encodeString "process_name" ++ (plain ": " ++ (encodeString "gnb" ++
        (plain ", " ++ (encodeString "hostname" ++ (plain ": " ++ (encodeString hostname ++
          (plain ", " ++ (encodeString "incident_id" ++ (plain ": " ++ (encodeString id ++
            plain "\x7d"))))))))))) := by
    simp only [sampleIssue, tokens, fieldTokens, List.append_assoc]
  rw [written]
  simp only [issueParts, format]
  rw [← start, ← middle, ← last]
  simpa only [List.append_assoc] using whole

theorem sample_stored {hostname id : String} (printable : Printable hostname)
    (digits : Printable id) : (SqlLiteral.denotes (bodySqlJsonDump
      (dumps samplePlatform.floatRepr (sampleIssue hostname id)))).bind sampleParse =
        some (sampleIssue hostname id) := by
  have floats : FloatsRead samplePlatform.floatRepr (fun _ => none) (sampleIssue hostname id) := by
    intro q member
    simp [sampleIssue, atoms, fieldAtoms] at member
  have written := tokens_written floats
  have free : ∀ {s : String}, Printable s → '"' ∉ s.toList :=
    fun known member => (known '"' member).2.2.1 rfl
  have parts : ∀ part ∈ issueParts hostname id,
      part.1.head? = some '"' ∧ '"' ∉ part.2.toList := by
    simp only [issueParts, List.forall_mem_cons]
    exact ⟨⟨by decide, free printable⟩, ⟨by decide, free digits⟩, by simp⟩
  have marks : (issueParts hostname id).map Prod.fst = (issueParts "" "").map Prod.fst := by
    simp only [issueParts, List.map_cons, List.map_nil]
  rw [denotes_of_reads written (sample_reads printable digits), Option.bind_some, sampleParse,
    ← marks, unformat_format issueStart parts]
  simp only [issueParts, List.map_cons, List.map_nil]

def sampleEvent (hostname : String) : Fields :=
  [("labels", .obj [("python_logger", .str "UERANSIMHEALTH")]),
    ("jsonPayload", .obj [("process_name", .str "gnb"), ("hostname", .str hostname)])]

def sampleIdentity (hostname : String) : Identity := ⟨.ueransimHealth, "gnb", hostname⟩

theorem sample_correlated {hostname : String} (given : hostname ≠ "") :
    correlated (sampleEvent hostname) = some
      ⟨[("process_name", .str "gnb"), ("hostname", .str hostname)], .ueransimHealth, .str "gnb",
        .str hostname⟩ := by
  simp [correlated, sampleEvent, getDict, dictionary, Json.get?, kindOf, Kind.logger, Kind.key,
    Kind.key2, truthy, given]

theorem sample_concerns {hostname id : String} (i : Identity) :
    concerns samplePlatform i (sampleIssue hostname id) = true ↔ i = sampleIdentity hostname := by
  obtain ⟨kind, value, value2⟩ := i
  cases kind with
  | ueransimHealth =>
    have values : concerns samplePlatform ⟨.ueransimHealth, value, value2⟩
        (sampleIssue hostname id) =
        (decide (some "gnb" = some value) && decide (some hostname = some value2)) := rfl
    rw [values]
    simp only [Bool.and_eq_true, decide_eq_true_eq, Option.some.injEq, sampleIdentity,
      Identity.mk.injEq, true_and]
    exact and_congr eq_comm eq_comm
  | criticalServiceError =>
    simp [concerns, memberText, sampleIssue, dictionary, Json.get?, Kind.key, sampleIdentity]

theorem sample_stores {hostname : String} (printable : Printable hostname) (n : Nat) :
    stored samplePlatform (Json.set "incident_id" (.str (samplePlatform.newId n))
      [("process_name", .str "gnb"), ("hostname", .str hostname)]) =
      some (sampleIssue hostname (n : Int).repr) :=
  sample_stored printable (printable_id n)

theorem sample_faithful {hostname : String} (given : hostname ≠ "") (printable : Printable hostname)
    (plain : Plain hostname) : ∀ c, correlated (sampleEvent hostname) = some c →
      Faithful samplePlatform c.payload (c.identity samplePlatform) := by
  intro c known
  rw [sample_correlated given] at known
  cases known
  exact ⟨plain_of_all (s := "gnb") (by decide), plain,
    fun n => ⟨_, sample_stores printable n, sample_concerns⟩⟩

/-! The promise. -/

/-- Where no lookup fails while an incident of the identity is open, every insert is applied, the
clients connect, and the values of each event are plain and are those that the database gives back,
every step of every run keeps what is promised. -/
theorem deduplicated_along (p : Platform) (documented : Documented p) (incidents : List Incident)
    (made : Nat) (oneOpen : ∀ i, incidents.countP (openFor p i) ≤ 1)
    (fresh : ∀ x ∈ incidents, ∀ n, made ≤ n → x.id ≠ p.newId n) (actions : List Action)
    (meets : Along (step p) (Meets p) (start incidents made) actions) :
    Along (step p) (fun s action => Deduplicated p s (step p s action)) (start incidents made)
      actions :=
  along_of_invariant (P := Inv p) (C := Meets p) (step p)
    (fun _ action inv meets => (step_keeps documented action inv meets).1)
    (fun _ action inv meets => (step_keeps documented action inv meets).2)
    (inv_start oneOpen fresh) actions meets

/-- Two events of one identity at a time, of which the second waits for the lock. -/
def sampleRun : List Action :=
  [.arrive 0 (sampleEvent "ran-1"), .arrive 1 (sampleEvent "ran-1"), .getLock 0, .getLock 1,
    .enter 0, .lookup 0 true true, .getClient 0, .created 0 true, .send 0 true true, .response 0,
    .enter 1, .lookup 1 true true]

theorem deduplicated_along_sample : Along (step samplePlatform)
    (fun s action => Deduplicated samplePlatform s (step samplePlatform s action)) (start [] 0)
    sampleRun :=
  deduplicated_along samplePlatform sample_documented [] 0 (by simp) (by simp) sampleRun
    (along_of_succeeds (by simp [start]) (by
      have given : "ran-1" ≠ "" := by decide
      have faithful := sample_faithful given (printable_of_all (by decide))
        (plain_of_all (by decide))
      simp only [sampleRun, List.forall_mem_cons]
      exact ⟨faithful, faithful, trivial, trivial, trivial, ⟨rfl, rfl⟩, trivial, rfl,
        ⟨rfl, rfl⟩, trivial, trivial, ⟨rfl, rfl⟩, by simp⟩))

/-! A quote in a name. -/

def quoteRun : List Action :=
  [.arrive 0 (sampleEvent "o'brien"), .getLock 0, .enter 0, .lookup 0 true true, .getClient 0,
    .created 0 true, .send 0 true true, .response 0, .arrive 1 (sampleEvent "o'brien"), .getLock 1,
    .enter 1, .lookup 1 true true, .getClient 1, .send 1 true true, .response 1]

/-- The quote ends the literal of the query, which is no statement then. Two incidents are open,
though no call failed otherwise, and the resolver was asked for both. -/
theorem quote_opens_two :
    (run (step samplePlatform) (start [] 0) quoteRun).incidents.countP
      (openFor samplePlatform (sampleIdentity "o'brien")) = 2 ∧
    (run (step samplePlatform) (start [] 0) quoteRun).asks.map Ask.identity =
      [sampleIdentity "o'brien", sampleIdentity "o'brien"] := by
  decide +kernel

end NetworkAgent.FaultService
