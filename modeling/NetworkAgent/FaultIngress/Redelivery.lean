import NetworkAgent.FaultIngress.Boundary

/-! Which requests are answered so that their message is delivered again. -/
namespace NetworkAgent.FaultIngress
open Cloud (SourceEventEnvelope IngestResult IngestCall IngestError)
open Checks

/-! Failures that reject a message for good. -/

def Final (failure : IngressFailure) : Prop := ∃ code, refused failure = .error code

def Invalid (error : IngestError) : Prop := isInvalid error = true

theorem final_permanent (code : String) : Final (.permanent code) := ⟨code, rfl⟩

theorem final_value (text : String) : Final (.value text) := ⟨_, rfl⟩

theorem final_model {error : IngestError} (invalid : Invalid error) : Final (.model error) :=
  ⟨"FAULT_CANONICAL_INVALID", by simp [refused, failed, Invalid.eq_1 error ▸ invalid]⟩

theorem not_final_overflow : ¬ Final .overflow := by
  rintro ⟨code, rejected⟩
  cases rejected

section
variable {h : Host}

theorem fails_built {α : Type} {x : Except IngestError α} (fails : FailsWith Invalid x) :
    FailsWith Final (built x) := by
  cases x with
  | ok a => exact failsWith_ok a
  | error e => exact failsWith_error (final_model (fails e rfl))

theorem fails_validateIncident (i : Incident) : FailsWith Invalid (Cloud.validateIncident h i) := by
  unfold Cloud.validateIncident
  cases i.modelValidate h with
  | ok u => exact failsWith_ok _
  | error e => exact failsWith_error rfl

theorem fails_envelope (e : SourceEventEnvelope) : FailsWith Invalid (e.validate h) := by
  apply failsWith_bind
  · cases e.incident with
    | none => exact failsWith_ok ()
    | some i => exact fails_validateIncident i
  · intro _
    refine failsWith_bind (failsWith_require (show Invalid (.validation _) from rfl)) fun _ => ?_
    refine failsWith_bind (failsWith_require (show Invalid (.validation _) from rfl)) fun _ => ?_
    cases Cloud.assertSafe h "source-event-envelope" e.toJson with
    | ok u => exact failsWith_ok u
    | error e => exact failsWith_error rfl

theorem fails_buildIncidentTrigger (e : SourceEventEnvelope) :
    FailsWith Final (buildIncidentTrigger h e) := by
  unfold buildIncidentTrigger
  cases e.incident with
  | none => exact failsWith_error (final_permanent _)
  | some i =>
    apply failsWith_bind
    · apply fails_built
      unfold Cloud.validateTrigger
      split
      · exact failsWith_ok ()
      · exact failsWith_error rfl
    · exact fun _ => failsWith_ok _

theorem fails_toDataPart (t : IncidentTrigger) : FailsWith Invalid (Cloud.toDataPart h t) := by
  unfold Cloud.toDataPart
  split
  · exact failsWith_ok ()
  · exact failsWith_error rfl

end

/-! Times that leave the calendar. -/

theorem calendar_error {t : Instant} {e : IngressFailure} :
    calendar t = .error e ↔ ¬ representable t ∧ e = .overflow := by
  simp only [calendar, bind_error, require_error, pure, Except.pure, reduceCtorEq, and_false,
    exists_false, or_false]
  exact ⟨fun ⟨outside, same⟩ => ⟨outside, same.symm⟩, fun ⟨outside, same⟩ => ⟨outside, same.symm⟩⟩

theorem calendar_ok {t u : Instant} : calendar t = .ok u ↔ representable t ∧ t = u := by
  simp [calendar, bind_ok, pure, Except.pure]

def readTimestamp (r : Readers) (payload : Dict) : Option Instant :=
  (boundedText 64 (payload.lookup "timestamp")).bind fun raw => r.fromisoformat (withOffset raw)

def latest (config : IngressConfig) (receivedAt : Instant) : Instant :=
  receivedAt + config.settings.maxFutureSkewSeconds * 1000000

def earliest (config : IngressConfig) (receivedAt : Instant) : Instant :=
  receivedAt - config.settings.maxEventAgeSeconds * 1000000

/-- The event is of an allowed type, and its time or a bound it is compared with is outside the
calendar in UTC. -/
def EventTimeOverflows (r : Readers) (service : IngressService) (payload : Dict) : Prop :=
  (∃ eventType, readEventType payload = .ok eventType) ∧
    ∃ t, readTimestamp r payload = some t ∧
      (¬ representable t ∨ ¬ representable (latest service.config service.receivedAt) ∨
        t ≤ latest service.config service.receivedAt ∧
          ¬ representable (earliest service.config service.receivedAt))

/-- The request carries a push with such a time. Only two of the modes read the event. -/
def Overflows (h : Host) (r : Readers) (service : IngressService) (request : Request) : Prop :=
  ∃ body push parsed, readBody service.config request = .ok body ∧
    readPush h r service.config body = .ok (push, parsed) ∧
      (¬ representable push.message.publishTime ∨
        (service.config.mode = .shadow ∨ service.config.mode = .canonical) ∧
          EventTimeOverflows r service parsed.payload)

section
variable {h : Host} {r : Readers} {service : IngressService}

theorem fails_readEventType (payload : Dict) : FailsWith Final (readEventType payload) := by
  unfold readEventType
  split
  · exact failsWith_bind (failsWith_require (final_permanent _)) fun _ => failsWith_ok _
  · exact failsWith_error (final_permanent _)

theorem fails_faultIdentity (payload : Dict) (eventType : String) :
    FailsWith Final (faultIdentity payload eventType) := by
  unfold faultIdentity
  split
  · dsimp only
    split
    · exact failsWith_ok _
    · exact failsWith_error (final_permanent _)
  · dsimp only
    split
    · exact failsWith_ok _
    · exact failsWith_error (final_permanent _)

theorem eventTimestamp_eq (payload : Dict) : eventTimestamp r.fromisoformat payload =
    match readTimestamp r payload with
    | some parsed => calendar parsed
    | none => .error (.permanent "FAULT_TIMESTAMP_INVALID") := rfl

theorem checkTimes_error {occurredAt : Instant} {e : IngressFailure}
    (failure : checkTimes service.config.settings occurredAt service.receivedAt = .error e) :
    Final e ∨ e = .overflow ∧ (¬ representable (latest service.config service.receivedAt) ∨
      occurredAt ≤ latest service.config service.receivedAt ∧
        ¬ representable (earliest service.config service.receivedAt)) := by
  simp only [checkTimes, bind_error, require_error, calendar_error, calendar_ok, require_ok] at failure
  rcases failure with ⟨_, rfl⟩ | ⟨_, _, ⟨_, rfl⟩ | ⟨_, _, failure⟩⟩
  · exact .inl (final_value _)
  · exact .inl (final_value _)
  · rcases failure with ⟨outside, rfl⟩ | ⟨_, ⟨_, rfl⟩, ⟨_, rfl⟩ | ⟨_, before, failure⟩⟩
    · exact .inr ⟨rfl, .inl outside⟩
    · exact .inl (final_permanent _)
    · rcases failure with ⟨outside, rfl⟩ | ⟨_, ⟨_, rfl⟩, _, rfl⟩
      · exact .inr ⟨rfl, .inr ⟨before, outside⟩⟩
      · exact .inl (final_permanent _)

theorem checkTimes_overflow {occurredAt : Instant}
    (outside : ¬ representable (latest service.config service.receivedAt) ∨
      occurredAt ≤ latest service.config service.receivedAt ∧
        ¬ representable (earliest service.config service.receivedAt)) :
    checkTimes service.config.settings occurredAt service.receivedAt = .error .overflow := by
  simp only [checkTimes, bind_error, require_error, calendar_error, calendar_ok, require_ok]
  refine .inr ⟨(), service.config.eventAge, .inr ⟨(), service.config.futureSkew, ?_⟩⟩
  rcases Decidable.em (representable (latest service.config service.receivedAt)) with inside | out
  · obtain ⟨before, out⟩ := outside.resolve_left fun none => none inside
    exact .inr ⟨_, ⟨inside, rfl⟩, .inr ⟨(), before, .inl ⟨out, trivial⟩⟩⟩
  · exact .inl ⟨out, trivial⟩

theorem readEntry_error {push : ParsedPubSubPush} {e : IngressFailure}
    (failure : readEntry r.fromisoformat service.config.settings service.receivedAt push =
      .error e) : Final e ∨ e = .overflow ∧ EventTimeOverflows r service push.payload := by
  simp only [readEntry, bind_error] at failure
  rcases failure with typed | ⟨eventType, typed, failure⟩
  · exact .inl (fails_readEventType _ _ typed)
  rw [eventTimestamp_eq] at failure
  cases read : readTimestamp r push.payload with
  | none =>
    simp only [read, Except.error.injEq, reduceCtorEq, false_and, exists_false, or_false] at failure
    exact .inl (failure ▸ final_permanent _)
  | some t =>
    simp only [read, calendar_error, calendar_ok] at failure
    rcases failure with ⟨outside, rfl⟩ | ⟨_, ⟨_, rfl⟩, late | ⟨_, _, failure⟩⟩
    · exact .inr ⟨rfl, ⟨eventType, typed⟩, t, read, .inl outside⟩
    · rcases checkTimes_error late with final | ⟨rfl, outside⟩
      · exact .inl final
      · exact .inr ⟨rfl, ⟨eventType, typed⟩, t, read, .inr outside⟩
    · rcases failure with unnamed | ⟨_, _, impossible⟩
      · exact .inl (fails_faultIdentity _ _ _ unnamed)
      · cases impossible

theorem readEntry_overflow {push : ParsedPubSubPush}
    (overflows : EventTimeOverflows r service push.payload) :
    readEntry r.fromisoformat service.config.settings service.receivedAt push =
      .error .overflow := by
  obtain ⟨⟨eventType, typed⟩, t, read, outside⟩ := overflows
  simp only [readEntry, bind_error]
  refine .inr ⟨eventType, typed, ?_⟩
  rw [eventTimestamp_eq, read]
  simp only [calendar_error, calendar_ok]
  rcases Decidable.em (representable t) with inside | out
  · exact .inr ⟨t, ⟨inside, rfl⟩,
      .inl (checkTimes_overflow (outside.resolve_left fun none => none inside))⟩
  · exact .inl ⟨out, trivial⟩

theorem prepare_error {push : ParsedPubSubPush} {e : IngressFailure}
    (failure : prepare h r.fromisoformat service.config.toFaultIngressConfig service.receivedAt
      push = .error e) : Final e ∨ e = .overflow ∧ EventTimeOverflows r service push.payload := by
  simp only [prepare, normalizeFaultEvent, bind_error] at failure
  rcases failure with (unread | ⟨entry, _, failure⟩) | ⟨envelope, _, failure⟩
  · exact readEntry_error unread
  · rcases failure with refusal | ⟨_, _, refusal | ⟨_, _, impossible⟩⟩
    · exact .inl (fails_built (fails_validateIncident _) _ refusal)
    · exact .inl (fails_built (fails_envelope _) _ refusal)
    · cases impossible
  · rcases failure with unbuilt | ⟨trigger, _, undumped | ⟨_, _, impossible⟩⟩
    · exact .inl (fails_buildIncidentTrigger _ _ unbuilt)
    · refine .inl (fails_built ?_ _ undumped)
      split
      · exact failsWith_ok ()
      · exact fails_toDataPart trigger
    · cases impossible

theorem prepare_overflow {push : ParsedPubSubPush}
    (overflows : EventTimeOverflows r service push.payload) :
    prepare h r.fromisoformat service.config.toFaultIngressConfig service.receivedAt push =
      .error .overflow := by
  simp only [prepare, normalizeFaultEvent, readEntry_overflow overflows, bind_error]
  exact .inl (.inl trivial)

end

/-! Failures of what the service depends on. -/

def LegacyFailed (service : IngressService) (push : TransportPush) : Prop :=
  ∀ handler ∈ service.legacyHandler, handler push = .failed ∨ handler push = .returned true

/-- The repository failed, otherwise than by refusing the event, or answered with a result that is
invalid or is not that of the event. -/
def RepositoryFailed (h : Host) (r : Readers) (service : IngressService) (push : TransportPush) :
    Prop :=
  ∃ p, prepare h r.fromisoformat service.config.toFaultIngressConfig service.receivedAt
      push.toParsedPubSubPush = .ok p ∧
    ((∃ error, service.ingest (p.call service.config.toFaultIngressConfig) = .error error ∧
        ¬ Invalid error) ∨
      ∃ result, service.ingest (p.call service.config.toFaultIngressConfig) = .ok result ∧
        ¬ ∃ validated, result.validate h = .ok validated ∧
          ResultMatchesMode validated p.envelope service.config.mode service.config.actor.text
            p.trigger.idempotencyKey.text)

def DependencyFailed (h : Host) (r : Readers) (service : IngressService) (request : Request) :
    Prop :=
  ∃ body push, readBody service.config request = .ok body ∧
    parsePubsubPush h r service.config body = .ok push ∧
      ((service.config.mode = .legacy ∧ LegacyFailed service push) ∨
        ((service.config.mode = .shadow ∨ service.config.mode = .canonical) ∧
          RepositoryFailed h r service push))

/-- A response that is final, or asks for a redelivery because of a dependency. -/
def Classified (h : Host) (r : Readers) (service : IngressService) (request : Request) : Prop :=
  (receive h r service request).status = 204 ∨ (receive h r service request).status = 400 ∨
    (receive h r service request).status = 503 ∧ DependencyFailed h r service request

section
variable {h : Host} {r : Readers} {service : IngressService}

theorem fails_orReject {α : Type} (code : String) (x : Option α) :
    FailsWith (∃ code, · = .permanent code) (orReject code x) := by
  cases x with
  | none => exact failsWith_error ⟨code, rfl⟩
  | some a => exact failsWith_ok a

theorem fails_parseData (decoded : List Nat) : FailsWith (∃ code, · = .permanent code)
    (parseData h (jsonObject r) service.config.limits decoded) := by
  refine failsWith_bind (failsWith_require ⟨_, rfl⟩) fun _ => ?_
  split
  · exact failsWith_error ⟨_, rfl⟩
  · exact failsWith_bind (failsWith_require ⟨_, rfl⟩) fun _ => failsWith_ok _

theorem fails_readPush (body : List Nat) :
    FailsWith (∃ code, · = .permanent code) (readPush h r service.config body) := by
  refine failsWith_bind (failsWith_require ⟨_, rfl⟩) fun _ => ?_
  refine failsWith_bind (fails_orReject _ _) fun outer => ?_
  refine failsWith_bind (failsWith_require ⟨_, rfl⟩) fun _ => ?_
  refine failsWith_bind (fails_orReject _ _) fun push => ?_
  refine failsWith_bind (failsWith_require ⟨_, rfl⟩) fun _ => ?_
  refine failsWith_bind (fails_orReject _ _) fun decoded => ?_
  exact failsWith_bind (fails_parseData decoded) fun _ => failsWith_ok _

theorem parsePubsubPush_error {body : List Nat} {e : IngressFailure} :
    parsePubsubPush h r service.config body = .error e ↔
      readPush h r service.config body = .error e ∨
        ∃ push parsed, readPush h r service.config body = .ok (push, parsed) ∧
          ¬ representable push.message.publishTime ∧ e = .overflow := by
  simp only [parsePubsubPush, bind_error, Prod.exists, calendar_error, pure, Except.pure,
    reduceCtorEq, and_false, exists_false, or_false]

theorem parsePubsubPush_ok {body : List Nat} {push : TransportPush} :
    parsePubsubPush h r service.config body = .ok push ↔
      ∃ outer parsed, readPush h r service.config body = .ok (outer, parsed) ∧
        representable outer.message.publishTime ∧
          push = { parsed with
            subscription := outer.subscription
            messageId := outer.message.messageId
            publishTime := outer.message.publishTime
            deliveryAttempt := outer.deliveryAttempt } := by
  simp only [parsePubsubPush, bind_ok, Prod.exists, calendar_ok, pure, Except.pure,
    Except.ok.injEq, and_assoc, exists_and_left, exists_eq_left']
  simp only [eq_comm]

/-! The answer to a parsed push. -/

theorem respond_of_final {failure : IngressFailure} (final : Final failure) :
    (respond (refused failure)).status = 400 := by
  obtain ⟨code, rejected⟩ := final
  rw [rejected]
  rfl

theorem legacy_answer (push : TransportPush) :
    (respond (.ok (legacyDecision (service.legacyHandler.map fun handler _ => handler push)
      push.toParsedPubSubPush))).status = 204 ∨
    (respond (.ok (legacyDecision (service.legacyHandler.map fun handler _ => handler push)
      push.toParsedPubSubPush))).status = 503 ∧ LegacyFailed service push := by
  unfold LegacyFailed
  cases service.legacyHandler with
  | none => exact .inr ⟨rfl, nofun⟩
  | some handler =>
    simp only [legacyDecision, Option.map_some, Option.mem_some_iff, forall_eq']
    cases handler push with
    | failed => exact .inr ⟨rfl, .inl rfl⟩
    | returned isFalse =>
      cases isFalse with
      | false => exact .inl rfl
      | true => exact .inr ⟨rfl, .inr rfl⟩

theorem repository_answer {push : TransportPush}
    (inside : ¬ EventTimeOverflows r service push.payload) :
    (respond (service.ingestPush h r push)).status = 204 ∨
      (respond (service.ingestPush h r push)).status = 400 ∨
        (respond (service.ingestPush h r push)).status = 503 ∧ RepositoryFailed h r service push := by
  unfold IngressService.ingestPush
  cases prepared : prepare h r.fromisoformat service.config.toFaultIngressConfig service.receivedAt
      push.toParsedPubSubPush with
  | error failure =>
    rcases prepare_error prepared with final | ⟨_, overflows⟩
    · exact .inr (.inl (respond_of_final final))
    · exact absurd overflows inside
  | ok p =>
    dsimp only
    cases answered : service.ingest (p.call service.config.toFaultIngressConfig) with
    | error error =>
      by_cases invalid : isInvalid error = true
      · exact .inr (.inl (by simp [failed, invalid, respond, errorResponse]))
      · exact .inr (.inr ⟨by simp [failed, invalid, respond, errorResponse],
          p, prepared, .inl ⟨error, answered, invalid⟩⟩)
    | ok result =>
      dsimp only [acknowledge]
      cases valid : result.validate h with
      | error error => exact .inr (.inr ⟨rfl, p, prepared, .inr ⟨result, answered, by simp [valid]⟩⟩)
      | ok validated =>
        by_cases matching : ResultMatchesMode validated p.envelope service.config.mode
            service.config.actor.text p.trigger.idempotencyKey.text
        · exact .inl (by simp [respond, matching])
        · refine .inr (.inr ⟨by simp [respond, matching, errorResponse],
            p, prepared, .inr ⟨result, answered, ?_⟩⟩)
          rintro ⟨other, same, bound⟩
          cases valid.symm.trans same
          exact matching bound

/-! The answer to a request. -/

theorem receive_of_parsed {request : Request} {body : List Nat} {push : TransportPush}
    (admitted : readBody service.config request = .ok body)
    (parsed : parsePubsubPush h r service.config body = .ok push) :
    receive h r service request = respond (service.process h r push) := by
  simp only [receive, admitted, parsed]

theorem receive_of_overflows {request : Request} (overflows : Overflows h r service request) :
    (receive h r service request).status = 503 ∧ ¬ DependencyFailed h r service request := by
  obtain ⟨body, outer, entry, admitted, read, outside⟩ := overflows
  by_cases published : representable outer.message.publishTime
  · obtain ⟨mode, early⟩ := outside.resolve_left fun none => none published
    have parsed := parsePubsubPush_ok.mpr ⟨outer, entry, read, published, rfl⟩
    have stopped := prepare_overflow (h := h) early
    constructor
    · rw [receive_of_parsed admitted parsed]
      rcases mode with shadow | canonical
      · simp [IngressService.process, shadow, IngressService.ingestPush, stopped, refused, respond,
          errorResponse]
      · simp [IngressService.process, canonical, IngressService.ingestPush, stopped, refused, respond,
          errorResponse]
    · rintro ⟨other, push, admits, parses, failure⟩
      cases admitted.symm.trans admits
      cases parsed.symm.trans parses
      rcases failure with ⟨legacy, _⟩ | ⟨_, p, prepared, _⟩
      · rcases mode with shadow | canonical
        · rw [shadow] at legacy; cases legacy
        · rw [canonical] at legacy; cases legacy
      · rw [stopped] at prepared; cases prepared
  · have refusal := parsePubsubPush_error.mpr (.inr ⟨outer, entry, read, published, rfl⟩)
    constructor
    · simp only [receive, admitted, refusal]
      rfl
    · rintro ⟨other, push, admits, parses, _⟩
      cases admitted.symm.trans admits
      rw [refusal] at parses
      cases parses

theorem classified_of_parsed (running : service.config.mode ≠ .paused) {request : Request}
    {body : List Nat} {push : TransportPush}
    (admitted : readBody service.config request = .ok body)
    (parsed : parsePubsubPush h r service.config body = .ok push)
    (inside : (service.config.mode = .shadow ∨ service.config.mode = .canonical) →
      ¬ EventTimeOverflows r service push.payload) :
    Classified h r service request := by
  unfold Classified
  rw [receive_of_parsed admitted parsed]
  unfold IngressService.process
  cases mode : service.config.mode with
  | paused => exact absurd mode running
  | legacy =>
    rcases legacy_answer push with accepted | ⟨retried, failure⟩
    · exact .inl accepted
    · exact .inr (.inr ⟨retried, body, push, admitted, parsed, .inl ⟨mode, failure⟩⟩)
  | shadow =>
    rcases repository_answer (inside (.inl mode)) with accepted | rejected | ⟨retried, failure⟩
    · exact .inl accepted
    · exact .inr (.inl rejected)
    · exact .inr (.inr ⟨retried, body, push, admitted, parsed, .inr ⟨.inl mode, failure⟩⟩)
  | canonical =>
    rcases repository_answer (inside (.inr mode)) with accepted | rejected | ⟨retried, failure⟩
    · exact .inl accepted
    · exact .inr (.inl rejected)
    · exact .inr (.inr ⟨retried, body, push, admitted, parsed, .inr ⟨.inr mode, failure⟩⟩)

theorem classified_of_inside (running : service.config.mode ≠ .paused) {request : Request}
    (inside : ¬ Overflows h r service request) : Classified h r service request := by
  cases admitted : readBody service.config request with
  | error code => exact .inr (.inl (by simp only [receive, admitted]; rfl))
  | ok body =>
    cases parsed : parsePubsubPush h r service.config body with
    | error failure =>
      rcases parsePubsubPush_error.mp parsed with refusal | ⟨outer, entry, read, outside, _⟩
      · obtain ⟨code, rfl⟩ := fails_readPush body failure refusal
        exact .inr (.inl (by simp only [receive, admitted, parsed]; rfl))
      · exact absurd ⟨body, outer, entry, admitted, read, .inl outside⟩ inside
    | ok push =>
      obtain ⟨outer, entry, read, _, rfl⟩ := parsePubsubPush_ok.mp parsed
      exact classified_of_parsed running admitted parsed fun mode early =>
        inside ⟨body, outer, entry, admitted, read, .inr ⟨mode, early⟩⟩

end

/-- Exactly the pushes with a time outside the calendar are delivered again without a failure of
a dependency. -/
theorem receive_classified_iff (h : Host) (r : Readers) (service : IngressService)
    (running : service.config.mode ≠ .paused) (request : Request) :
    ((receive h r service request).status = 204 ∨ (receive h r service request).status = 400 ∨
      (receive h r service request).status = 503 ∧ DependencyFailed h r service request) ↔
    ¬ Overflows h r service request := by
  refine ⟨fun classified overflows => ?_, classified_of_inside running⟩
  obtain ⟨retried, intact⟩ := receive_of_overflows overflows
  rw [retried] at classified
  rcases classified with accepted | rejected | ⟨_, failure⟩
  · cases accepted
  · cases rejected
  · exact intact failure

/-! A fault of the first day of the calendar, east of Greenwich. -/
namespace Sample

def entry : String := "\x7b\"labels\":\x7b\"python_logger\":\"UERANSIMHEALTH\"\x7d," ++
  "\"timestamp\":\"0001-01-01T00:00:00+01:00\"\x7d"

def payload : Dict := [("labels", .obj [("python_logger", .str "UERANSIMHEALTH")]),
  ("timestamp", .str "0001-01-01T00:00:00+01:00")]

def data : String := "eyJsYWJlbHMiOnsicHl0aG9uX2xvZ2dlciI6IlVFUkFOU0lNSEVBTFRIIn0s" ++
  "InRpbWVzdGFtcCI6IjAwMDEtMDEtMDFUMDA6MDA6MDArMDE6MDAifQ=="

def body : String := "\x7b\"message\":\x7b\"data\":\"" ++ data ++ "\",\"messageId\":\"1\"," ++
  "\"publishTime\":\"2026-01-01T00:00:00Z\"\x7d,\"subscription\":\"faults\"\x7d"

def outer : Dict := [("message", .obj [("data", .str data), ("messageId", .str "1"),
  ("publishTime", .str "2026-01-01T00:00:00Z")]), ("subscription", .str "faults")]

def early : Instant := -62135596800000000 - 3600000000

def published : Instant := 1767225600000000

def readers : Readers where
  loads bytes :=
    if bytes = utf8 body then .value (.obj outer)
    else if bytes = utf8 entry then .value (.obj payload)
    else .raised .jsonDecode
  awareDatetime value := if value = .str "2026-01-01T00:00:00Z" then some published else none
  integer _ := none
  b64decode chars := if chars = data.toList then some (utf8 entry) else none
  fromisoformat text := if text = "0001-01-01T00:00:00+01:00" then some early else none

def service (mode : FaultPipelineMode) : IngressService where
  config := {
    mode
    actor := Text.Bounded.ofText "fault-ingress" ⟨by decide, by decide, by decide⟩
    allowedSubscriptions := ["faults"] }
  ingest _ := .error .contract
  legacyHandler := some fun _ => .returned false
  receivedAt := published

def request : Request := ⟨"application/json", some 216, some (utf8 body)⟩

def push : PubSubPush := ⟨⟨data, "1", published, ""⟩, "faults", none⟩

theorem read (h : Host) (mode : FaultPipelineMode) :
    readPush h readers (service mode).config (utf8 body) =
      .ok (push, ⟨payload, h.sha256 (utf8 entry)⟩) := by
  have other : utf8 entry ≠ utf8 body := by decide +kernel
  have outside : jsonObject readers (utf8 body) = some outer := by simp [jsonObject, readers]
  have inside : jsonObject readers (utf8 entry) = some payload := by
    simp [jsonObject, readers, other]
  have size : utf8 body ≠ [] ∧ (utf8 body).length ≤ 262144 := by decide +kernel
  have entrySize : utf8 entry ≠ [] ∧ (utf8 entry).length ≤ 262144 := by decide +kernel
  have nested : (Json.obj outer).depth ≤ 16 := by decide +kernel
  have modelled : PubSubPush.modelValidate readers outer = some push := by decide +kernel
  have decoded : decodeData readers data = some (utf8 entry) := by
    have ascii : (data.toList.all fun c => decide (c.toNat < 128)) = true := by decide +kernel
    simp [decodeData, ascii, readers]
  have parsed : parseData h (jsonObject readers) {} (utf8 entry) =
      .ok ⟨payload, h.sha256 (utf8 entry)⟩ := by
    have depth : (Json.obj payload).depth ≤ 16 := by decide +kernel
    rw [parseData, bind_ok]
    refine ⟨(), require_ok.mpr entrySize, ?_⟩
    rw [inside]
    exact bind_ok.mpr ⟨(), require_ok.mpr depth, rfl⟩
  refine bind_ok.mpr ⟨(), require_ok.mpr size, ?_⟩
  rw [outside]
  refine bind_ok.mpr ⟨outer, rfl, bind_ok.mpr ⟨(), require_ok.mpr nested, ?_⟩⟩
  rw [modelled]
  refine bind_ok.mpr ⟨push, rfl, bind_ok.mpr ⟨(), require_ok.mpr (by simp [push, service]), ?_⟩⟩
  refine bind_ok.mpr ⟨utf8 entry, ?_, bind_ok.mpr ⟨_, parsed, rfl⟩⟩
  show orReject _ (decodeData readers data) = _
  rw [decoded]
  rfl

theorem admitted (mode : FaultPipelineMode) :
    readBody (service mode).config request = .ok (utf8 body) := by
  refine bind_ok.mpr ⟨(), require_ok.mpr rfl, bind_ok.mpr ⟨(), require_ok.mpr ?_, rfl⟩⟩
  simp [request, service]

theorem overflows : Overflows Host.ascii readers (service .shadow) request := by
  refine ⟨_, push, _, admitted .shadow, read Host.ascii .shadow,
    .inr ⟨.inl rfl, ⟨"UERANSIMHEALTH", by decide⟩, early, by decide, .inl ?_⟩⟩
  decide

end Sample

/-- The handler of the legacy mode reads no time of the event and takes the same message. -/
theorem receive_classified_legacy :
    (receive Host.ascii Sample.readers (Sample.service .legacy) Sample.request).status = 204 ∨
    (receive Host.ascii Sample.readers (Sample.service .legacy) Sample.request).status = 400 ∨
    (receive Host.ascii Sample.readers (Sample.service .legacy) Sample.request).status = 503 ∧
      DependencyFailed Host.ascii Sample.readers (Sample.service .legacy) Sample.request := by
  refine (receive_classified_iff Host.ascii Sample.readers (Sample.service .legacy)
    (by decide) Sample.request).mpr ?_
  rintro ⟨body, push, parsed, admitted, read, outside⟩
  cases (Sample.admitted .legacy).symm.trans admitted
  cases (Sample.read Host.ascii .legacy).symm.trans read
  rcases outside with outside | ⟨shadow | canonical, _⟩
  · exact outside (by decide)
  · cases shadow
  · cases canonical

/-- Nothing failed, yet the event is delivered again. -/
theorem early_event_redelivered :
    ¬ ((receive Host.ascii Sample.readers (Sample.service .shadow) Sample.request).status = 204 ∨
      (receive Host.ascii Sample.readers (Sample.service .shadow) Sample.request).status = 400 ∨
      (receive Host.ascii Sample.readers (Sample.service .shadow) Sample.request).status = 503 ∧
        DependencyFailed Host.ascii Sample.readers (Sample.service .shadow) Sample.request) := by
  obtain ⟨retried, intact⟩ := receive_of_overflows Sample.overflows
  rw [retried]
  rintro (accepted | rejected | ⟨_, failure⟩)
  · cases accepted
  · cases rejected
  · exact intact failure

end NetworkAgent.FaultIngress
