import NetworkAgent.Supervisor.Parts

/-! What a payload is that the supervisor accepts, one fact for each check. -/
namespace NetworkAgent.Supervisor

structure IsCanonical (p : Python) (type : MessageType) (d : Dict) : Prop where
  depth : (Json.obj d).depth ≤ maxCanonicalDepth
  size : (p.canonicalJson (.obj d)).length ≤ maxCanonicalBytes
  kind : field "message_type" d = .str type.value
  known : keys d ⊆ type.fields
  complete : type.fields ⊆ keys d
  bounded : boundedStrings (.obj d) = true
  clean : findSensitivePaths p.toHost "$" (.obj d) = []
  error : type = .error → validateError d = .ok ()
  required : ∀ name ∈ requiredFields type, requiredText name (field name d) = .ok ()
  version : field "schema_version" d = .str "1.0"
  sentAt : ∃ t, parseUtcIso p "sent_at" (field "sent_at" d) = .ok t
  independent : type ≠ .error → (["message_id", "workflow_id", "trace_id", "idempotency_key"].map
    fun name => field name d).Nodup
  valid : type ≠ .error → validateAssurancePayload p type d = .ok ()

theorem messageTypeOf_ok {d : Dict} {type : MessageType} :
    messageTypeOf d = .ok type ↔ field "message_type" d = .str type.value := by
  unfold messageTypeOf
  constructor
  · intro parsed
    split at parsed
    · rename_i s given
      split at parsed
      · rename_i found
        cases parsed
        rw [given, MessageType.value_of_parse found]
      · cases parsed
    all_goals cases parsed
  · intro given
    simp [given]

theorem strictObject_ok {label : String} {expected : List String} {value : Json} {d : Dict} :
    strictObject label expected value = .ok d ↔
      value = .obj d ∧ keys d ⊆ expected ∧ expected ⊆ keys d := by
  cases value with
  | obj fields =>
    simp only [strictObject, Checks.bind_ok, Checks.require_ok, Json.obj.injEq]
    constructor
    · rintro ⟨_, fits, same⟩
      cases same
      exact ⟨rfl, fits⟩
    · rintro ⟨rfl, fits⟩
      exact ⟨(), fits, rfl⟩
  | null | bool | int | float | str | arr => simp [strictObject]

theorem rejectSensitive_ok {p : Python} {value : Json} {u : Unit} :
    rejectSensitiveOrOversizedStrings p value = .ok u ↔
      boundedStrings value = true ∧ findSensitivePaths p.toHost "$" value = [] := by
  simp only [rejectSensitiveOrOversizedStrings, Checks.seq_ok, Checks.require_ok]

/-- `_canonical_data` accepts exactly the objects that pass every check of their type. -/
theorem canonicalData_ok {p : Python} {value : Json} {d : Dict} :
    canonicalData p value = .ok d ↔ value = .obj d ∧ ∃ type, IsCanonical p type d := by
  cases value with
  | obj decoded =>
    simp only [canonicalData, Checks.bind_ok, Checks.require_ok, messageTypeOf_ok, strictObject_ok,
      rejectSensitive_ok, Json.obj.injEq]
    constructor
    · rintro ⟨_, depth, _, size, type, kind, _, ⟨rfl, known, complete⟩, _, ⟨bounded, clean⟩, rest⟩
      by_cases error : type = .error
      · simp only [error, ne_eq, not_true_eq_false, if_true, if_false, Checks.bind_ok,
          Checks.each_ok, Checks.require_ok] at rest
        obtain ⟨_, valid, _, required, _, version, t, sentAt, same⟩ := rest
        cases same
        exact ⟨rfl, type, depth, size, kind, known, complete, bounded, clean, fun _ => valid,
          error ▸ required, version, ⟨t, sentAt⟩, fun other => absurd error other,
          fun other => absurd error other⟩
      · simp only [error, ne_eq, not_false_eq_true, if_true, if_false, Checks.bind_ok,
          Checks.each_ok, Checks.require_ok] at rest
        obtain ⟨_, required, _, version, t, sentAt, _, independent, _, valid, same⟩ := rest
        cases same
        exact ⟨rfl, type, depth, size, kind, known, complete, bounded, clean,
          fun wrong => absurd wrong error, required, version, ⟨t, sentAt⟩, fun _ => independent,
          fun _ => valid⟩
    · rintro ⟨rfl, type, c⟩
      obtain ⟨t, sentAt⟩ := c.sentAt
      refine ⟨(), c.depth, (), c.size, type, c.kind, _, ⟨rfl, c.known, c.complete⟩, (),
        ⟨c.bounded, c.clean⟩, ?_⟩
      by_cases error : type = .error
      · simp only [error, ne_eq, not_true_eq_false, if_true, if_false, Checks.bind_ok,
          Checks.each_ok, Checks.require_ok]
        exact ⟨(), c.error error, (), error ▸ c.required, (), c.version, t, sentAt, rfl⟩
      · simp only [error, ne_eq, not_false_eq_true, if_true, if_false, Checks.bind_ok,
          Checks.each_ok, Checks.require_ok]
        exact ⟨(), c.required, (), c.version, t, sentAt, (), c.independent error, (),
          c.valid error, rfl⟩
  | null | bool | int | float | str | arr => simp [canonicalData]

/-! Messages and artifacts. -/

theorem boundedText_ok {p : Python} {text t : String} :
    boundedText p text = .ok t ↔ text ≠ "" ∧ text.length ≤ maxTextChars ∧
      labeledIdentifier p.toHost text = false ∧ t = text := by
  simp only [boundedText, Checks.bind_ok, Checks.require_ok, rejectSensitive_ok, boundedStrings,
    findSensitivePaths]
  constructor
  · rintro ⟨_, ⟨some', short⟩, _, ⟨_, clean⟩, same⟩
    cases same
    refine ⟨some', short, ?_, rfl⟩
    simpa using clean
  · rintro ⟨some', short, clean, rfl⟩
    exact ⟨(), ⟨some', short⟩, (), ⟨decide_eq_true short, by simp [clean]⟩, rfl⟩

def IsOptionalId (value : Option String) : Prop := ∀ s ∈ value, s ≠ "" ∧ s.length ≤ maxIdChars

theorem optionalString_ok {name : String} {value given : Option String} :
    optionalString name value = .ok given ↔ IsOptionalId value ∧ given = value := by
  simp only [optionalString, Checks.bind_ok, Checks.require_ok]
  constructor
  · rintro ⟨_, short, same⟩
    cases same
    exact ⟨short, rfl⟩
  · rintro ⟨short, rfl⟩
    exact ⟨(), short, rfl⟩

theorem assertTransport_ok {content : Content} {task context : Option String} {u : Unit} :
    assertTransport content task context = .ok u ↔
      IsOptionalId content.taskId ∧ Agrees task content.taskId ∧
      IsOptionalId content.contextId ∧ Agrees context content.contextId := by
  simp only [assertTransport, Checks.bind_ok, Checks.require_ok, optionalString_ok]
  constructor
  · rintro ⟨_, ⟨shortTask, rfl⟩, _, sameTask, _, ⟨shortContext, rfl⟩, sameContext⟩
    exact ⟨shortTask, sameTask, shortContext, sameContext⟩
  · rintro ⟨shortTask, sameTask, shortContext, sameContext⟩
    exact ⟨_, ⟨shortTask, rfl⟩, (), sameTask, _, ⟨shortContext, rfl⟩, sameContext⟩

theorem assertContainerIds_ok {content : Content} {id : String} {task context : Option String}
    {u : Unit} : assertContainerIds content id task context = .ok u ↔
      IsOptionalId content.messageId ∧ Agrees content.messageId (some id) ∧
      assertTransport content task context = .ok u := by
  simp only [assertContainerIds, Checks.bind_ok, Checks.require_ok, optionalString_ok]
  constructor
  · rintro ⟨_, ⟨short, rfl⟩, _, same, rest⟩
    exact ⟨short, same, rest⟩
  · rintro ⟨short, same, rest⟩
    exact ⟨_, ⟨short, rfl⟩, (), same, rest⟩

theorem decodeCanonicalParts_pair {p : Python} {d : Dict} {text : String}
    {messageId taskId contextId task context : Option String}
    (canonical : canonicalData p (.obj d) = .ok d) (shown : boundedText p text = .ok text)
    (ids : assertContainerIds
      { parts := [.data (.obj d), .text text], messageId, taskId, contextId }
      (messageIdOf d) task context = .ok ()) :
    decodeCanonicalParts p { parts := [.data (.obj d), .text text], messageId, taskId, contextId }
      task context = .ok ⟨d, some text, messageIdOf d⟩ := by
  refine Checks.seq_ok.mpr ⟨Checks.require_ok.mpr (by simp), ?_⟩
  refine Checks.bind_ok.mpr ⟨([.obj d], [text]), ?_, ?_⟩
  · simp only [splitParts, Checks.bind_ok]
    exact ⟨_, ⟨text, shown, _, rfl, rfl⟩, rfl⟩
  · exact Checks.bind_ok.mpr ⟨d, canonical, Checks.seq_ok.mpr ⟨ids, rfl⟩⟩

theorem decodeCanonicalParts_single {p : Python} {d : Dict}
    (canonical : canonicalData p (.obj d) = .ok d) :
    decodeCanonicalParts p { parts := [.data (.obj d)] } = .ok ⟨d, none, messageIdOf d⟩ := by
  refine Checks.seq_ok.mpr ⟨Checks.require_ok.mpr (by simp), ?_⟩
  refine Checks.bind_ok.mpr ⟨([.obj d], []), by simp only [splitParts, Checks.bind_ok]; exact ⟨_, rfl, rfl⟩, ?_⟩
  refine Checks.bind_ok.mpr ⟨d, canonical, Checks.seq_ok.mpr ⟨?_, rfl⟩⟩
  have free : ∀ {P : String → Prop}, ∀ s ∈ (none : Option String), P s := by simp
  exact assertContainerIds_ok.mpr ⟨free, free, assertTransport_ok.mpr ⟨free, free, free, free⟩⟩

end NetworkAgent.Supervisor
