import NetworkAgent.Domain.Dump

/-! The audit event and the source association a write leaves behind, built from its
metadata. Both pass the payload policy whenever the texts they are built from do. -/
namespace NetworkAgent

/-! A text without a label keeps none when it is trimmed. -/

theorem isWord_of_isSpace (h : Host) (c : Char) (space : isSpace c = true) : isWord h c = false := by
  have underscore : (c == '_') = false := by
    by_contra other
    rw [Bool.not_eq_false, beq_iff_eq] at other
    rw [other] at space
    exact absurd space (by decide)
  simp [isWord, h.isAlnum_of_isSpace c space, underscore]

theorem isWord_of_isWhiteSpace (h : Host) (c : Char) (space : isWhiteSpace c = true) :
    isWord h c = false := isWord_of_isSpace h c (isSpace_of_isWhiteSpace c space)

theorem afterLabel_append {label cs rest : List Char} (post : List Char)
    (found : afterLabel label cs = some rest) :
    afterLabel label (cs ++ post) = some (rest ++ post) := by
  induction label generalizing cs with
  | nil => cases found; rfl
  | cons l label ih =>
    cases cs with
    | nil => cases found
    | cons c cs =>
      simp only [afterLabel, List.cons_append] at found ⊢
      split at found
      · next same => rw [if_pos same]; exact ih found
      · cases found

theorem startsValue_append {cs : List Char} (post : List Char) (starts : startsValue cs = true) :
    startsValue (cs ++ post) = true := by
  simp only [startsValue, decide_eq_true_eq, List.takeWhile_append] at starts ⊢
  split
  · next full => simp only [List.length_append]; omega
  · exact starts

theorem startsSeparatorValue_append {cs : List Char} (post : List Char)
    (starts : startsSeparatorValue cs = true) : startsSeparatorValue (cs ++ post) = true := by
  unfold startsSeparatorValue at starts ⊢
  have nonempty : cs.dropWhile isSpace ≠ [] := by
    intro empty
    simp [empty, startsValue] at starts
  have dropped : (cs ++ post).dropWhile isSpace = cs.dropWhile isSpace ++ post := by
    rw [List.dropWhile_append, if_neg (by simpa using nonempty)]
  rw [dropped]
  simp only [Bool.or_eq_true, Bool.and_eq_true, decide_eq_true_eq] at starts ⊢
  rcases starts with ⟨blanks, value⟩ | separator
  · exact .inl ⟨by simp only [List.length_append]; omega, startsValue_append post value⟩
  · right
    cases split : cs.dropWhile isSpace with
    | nil => exact absurd split nonempty
    | cons c tail =>
      simp only [split, List.cons_append, Bool.and_eq_true] at separator ⊢
      refine ⟨separator.1, ?_⟩
      have value := separator.2
      have kept : tail.dropWhile isSpace ≠ [] := by
        intro empty
        simp [empty, startsValue] at value
      rw [List.dropWhile_append, if_neg (by simpa using kept)]
      exact startsValue_append post value

theorem matchesHere_append {cs : List Char} (post : List Char) (found : matchesHere cs = true) :
    matchesHere (cs ++ post) = true := by
  simp only [matchesHere, List.any_eq_true] at found ⊢
  obtain ⟨label, known, here⟩ := found
  refine ⟨label, known, ?_⟩
  split at here
  · next rest after =>
    rw [afterLabel_append post after]
    exact startsSeparatorValue_append post here
  · cases here

theorem searchFrom_append {h : Host} {before : Bool} {cs : List Char} (post : List Char)
    (found : searchFrom h before cs = true) : searchFrom h before (cs ++ post) = true := by
  induction cs generalizing before with
  | nil => cases found
  | cons c cs ih =>
    simp only [searchFrom, List.cons_append, Bool.or_eq_true, Bool.and_eq_true] at found ⊢
    rcases found with ⟨boundary, here⟩ | later
    · exact .inl ⟨boundary, matchesHere_append post here⟩
    · exact .inr (ih later)

theorem searchFrom_prepend {h : Host} (pre : List Char) {cs : List Char} (blank : ∀ c ∈ pre, isWord h c = false)
    (found : searchFrom h false cs = true) : searchFrom h false (pre ++ cs) = true := by
  induction pre with
  | nil => exact found
  | cons c pre ih =>
    simp only [searchFrom, List.cons_append, blank c List.mem_cons_self, Bool.or_eq_true]
    exact .inr (ih fun d member => blank d (List.mem_cons_of_mem _ member))

theorem labeledIdentifier_trim {h : Host} {p : Char → Bool} (blank : ∀ c, p c → isWord h c = false)
    {s : String} (clean : labeledIdentifier h s = false) :
    labeledIdentifier h (Text.trim p s) = false := by
  cases found : labeledIdentifier h (Text.trim p s) with
  | false => rfl
  | true =>
    simp only [labeledIdentifier, Text.chars_eq] at clean found
    rw [Text.trim, Text.chars_eq, String.toList_ofList] at found
    obtain ⟨back, split⟩ := List.rdropWhile_prefix (p := p) (l := s.toList.dropWhile p)
    have whole := searchFrom_append back found
    rw [split] at whole
    have front := searchFrom_prepend (s.toList.takeWhile p)
      (fun c member => blank c (List.mem_takeWhile_imp member)) whole
    rw [List.takeWhile_append_dropWhile, clean] at front
    exact front.symm

theorem Identifier.parse_clean {h : Host} {s : String} {b : Identifier}
    (parsed : Identifier.parse s = some b) (clean : labeledIdentifier h s = false) :
    labeledIdentifier h b.text = false := by
  rw [← Text.Bounded.parse_eq_some.mp parsed]
  exact labeledIdentifier_trim (isWord_of_isWhiteSpace h) clean

theorem NonEmptyStr.parse_clean {h : Host} {s : String} {b : NonEmptyStr}
    (parsed : NonEmptyStr.parse s = some b) (clean : labeledIdentifier h s = false) :
    labeledIdentifier h b.text = false := by
  rw [← Text.Bounded.parse_eq_some.mp parsed]
  exact labeledIdentifier_trim (isWord_of_isWhiteSpace h) clean

/-! Texts in which no label can start. -/

def startsNoLabel (c : Char) : Bool :=
  let f := foldCase c
  f != 'i' && f != 'm' && f != 's'

theorem matchesHere_cons {c : Char} (other : startsNoLabel c = true) (cs : List Char) :
    matchesHere (c :: cs) = false := by
  simp only [startsNoLabel, Bool.and_eq_true, bne_iff_ne, ne_eq] at other
  simp [matchesHere, labels, afterLabel, other]

theorem searchFrom_of_startsNoLabel {h : Host} {before : Bool} {cs : List Char}
    (other : ∀ c ∈ cs, startsNoLabel c = true) : searchFrom h before cs = false := by
  induction cs generalizing before with
  | nil => rfl
  | cons c cs ih =>
    simp only [searchFrom, matchesHere_cons (other c List.mem_cons_self), Bool.and_false,
      Bool.false_or]
    exact ih fun d member => other d (List.mem_cons_of_mem _ member)

theorem digits_length (width n : Nat) : (digits width n).length = width := by
  induction width generalizing n with
  | zero => rfl
  | succ width ih => simp [digits, ih]

/-- The characters of an instant's text, without its zone. -/
def isTimeChar (c : Char) : Bool :=
  c.isDigit || c == '-' || c == ':' || c == '.' || c == 'T'

theorem startsNoLabel_of_ascii {p : Char → Bool} {c : Char} (small : c.toNat < 128)
    (every : ∀ n : Fin 128, p (Char.ofNat n) = true → startsNoLabel (Char.ofNat n) = true)
    (holds : p c = true) : startsNoLabel c = true := by
  have found := every ⟨c.toNat, small⟩
  simp only [Char.ofNat_toNat] at found
  exact found holds

theorem startsNoLabel_of_isTimeChar {c : Char} (written : isTimeChar c = true) :
    startsNoLabel c = true := by
  have small : c.toNat < 128 := by
    simp only [isTimeChar, Char.isDigit, Bool.or_eq_true, Bool.and_eq_true, decide_eq_true_eq,
      beq_iff_eq] at written
    rcases written with (((⟨_, high⟩ | rfl) | rfl) | rfl) | rfl
    · exact Nat.lt_of_le_of_lt (show c.toNat ≤ '9'.toNat from high) (by decide)
    all_goals decide
  exact startsNoLabel_of_ascii small (by decide) written

theorem startsNoLabel_of_hex {c : Char} (hex : Sha256.isHexDigit c = true) :
    startsNoLabel c = true := by
  have small : c.toNat < 128 := by
    simp only [Sha256.isHexDigit, Bool.or_eq_true, Bool.and_eq_true, decide_eq_true_eq] at hex
    rcases hex with ⟨_, high⟩ | ⟨_, high⟩
    · exact Nat.lt_of_le_of_lt (show c.toNat ≤ '9'.toNat from high) (by decide)
    · exact Nat.lt_of_le_of_lt (show c.toNat ≤ 'f'.toNat from high) (by decide)
  exact startsNoLabel_of_ascii small (by decide) hex

theorem digits_isTimeChar (width n : Nat) : ∀ c ∈ digits width n, isTimeChar c = true := by
  induction width generalizing n with
  | zero => simp [digits]
  | succ width ih =>
    intro c member
    simp only [digits, List.mem_append, List.mem_singleton] at member
    rcases member with earlier | rfl
    · exact ih _ c earlier
    · have every : ∀ k : Fin 10, isTimeChar (Nat.digitChar k) = true := by decide
      exact every ⟨n % 10, Nat.mod_lt _ (by decide)⟩

theorem dateChars_length (year month day : Nat) : (dateChars year month day).length = 10 := by
  simp [dateChars, digits_length]

theorem timeChars_length_le (seconds micros : Nat) : (timeChars seconds micros).length ≤ 15 := by
  have fraction : (fractionChars micros).length ≤ 7 := by
    unfold fractionChars
    split <;> simp [digits_length]
  simp only [timeChars, List.length_append, List.length_cons, digits_length]
  omega

theorem dateChars_isTimeChar (year month day : Nat) :
    ∀ c ∈ dateChars year month day, isTimeChar c = true := by
  have dash : isTimeChar '-' = true := by decide
  intro c member
  have written := fun width n => digits_isTimeChar width n c
  simp only [dateChars, List.mem_append, List.mem_cons] at member
  grind

theorem timeChars_isTimeChar (seconds micros : Nat) :
    ∀ c ∈ timeChars seconds micros, isTimeChar c = true := by
  have marks : isTimeChar ':' = true ∧ isTimeChar '.' = true := by decide
  intro c member
  have written := fun width n => digits_isTimeChar width n c
  simp only [timeChars, fractionChars, List.mem_append, List.mem_cons] at member
  grind

theorem isoText_eq (zone : String) (t : Instant) : ∃ cs, isoText zone t = String.ofList cs ++ zone ∧
    cs.length ≤ 26 ∧ ∀ c ∈ cs, isTimeChar c = true := by
  refine ⟨_, rfl, ?_, ?_⟩
  · have time := timeChars_length_le ((t.fmod 86400000000).toNat / 1000000)
      ((t.fmod 86400000000).toNat % 1000000)
    simp only [List.length_append, dateChars_length, List.length_cons]
    omega
  · have mark : isTimeChar 'T' = true := by decide
    intro c member
    simp only [List.mem_append, List.mem_cons] at member
    rcases member with date | rfl | time
    · exact dateChars_isTimeChar _ _ _ c date
    · exact mark
    · exact timeChars_isTimeChar _ _ c time

/-- A replacement of `Z` leaves such a text as it is. -/
theorem flatMap_isTimeChar (zone : List Char) {cs : List Char}
    (written : ∀ c ∈ cs, isTimeChar c = true) :
    (cs.flatMap fun c => if c = 'Z' then zone else [c]) = cs := by
  induction cs with
  | nil => rfl
  | cons c rest ih =>
    have other : c ≠ 'Z' := by
      rintro rfl
      exact absurd (written _ List.mem_cons_self) (by decide)
    rw [List.flatMap_cons, if_neg other, ih fun d member => written d (List.mem_cons_of_mem _ member)]
    rfl

theorem isoText_clean (h : Host) (t : Instant) : labeledIdentifier h (isoText "Z" t) = false := by
  obtain ⟨cs, text, _, other⟩ := isoText_eq "Z" t
  have zone : startsNoLabel 'Z' = true := by decide
  rw [text, labeledIdentifier]
  apply searchFrom_of_startsNoLabel
  intro c member
  simp only [Text.chars_eq, String.toList_append, String.toList_ofList, List.mem_append] at member
  rcases member with inside | last
  · exact startsNoLabel_of_isTimeChar (other c inside)
  · simp at last
    rw [last]; exact zone

theorem isoText_length (t : Instant) : (isoText "Z" t).length ≤ 27 := by
  obtain ⟨cs, text, size, _⟩ := isoText_eq "Z" t
  have zone : "Z".length = 1 := by decide
  rw [text, String.length_append, String.length_ofList, zone]
  omega

/-! The records. -/

structure WriteMetadata where
  idempotencyKey : String
  actor : String
  reason : String
  traceId : String

structure Attribution where
  idempotencyKey : Identifier
  actor : Identifier
  reason : NonEmptyStr
  traceId : Identifier

def WriteMetadata.attribution (w : WriteMetadata) : Option Attribution := do
  let idempotencyKey ← Identifier.parse w.idempotencyKey
  let actor ← Identifier.parse w.actor
  let reason ← NonEmptyStr.parse w.reason
  let traceId ← Identifier.parse w.traceId
  return { idempotencyKey, actor, reason, traceId }

def SourceEventAssociation.build (incidentId sourceEventId : Identifier) (registeredAt : Instant)
    (a : Attribution) : SourceEventAssociation where
  incidentId := incidentId
  sourceEventId := sourceEventId
  registeredAt := registeredAt
  actor := a.actor
  reason := a.reason
  idempotencyKey := a.idempotencyKey
  traceId := a.traceId

/-- No text of the metadata holds a labelled identifier. -/
structure WriteMetadata.Clean (h : Host) (w : WriteMetadata) : Prop where
  idempotencyKey : labeledIdentifier h w.idempotencyKey = false
  actor : labeledIdentifier h w.actor = false
  reason : labeledIdentifier h w.reason = false
  traceId : labeledIdentifier h w.traceId = false

theorem WriteMetadata.attribution_eq_some {w : WriteMetadata} {a : Attribution} :
    w.attribution = some a ↔ Identifier.parse w.idempotencyKey = some a.idempotencyKey ∧
      Identifier.parse w.actor = some a.actor ∧ NonEmptyStr.parse w.reason = some a.reason ∧
      Identifier.parse w.traceId = some a.traceId := by
  simp only [attribution, Option.bind_eq_bind, Option.bind_eq_some_iff, pure, Option.some.injEq]
  constructor
  · rintro ⟨_, key, _, actor, _, reason, _, trace, rfl⟩; exact ⟨key, actor, reason, trace⟩
  · rintro ⟨key, actor, reason, trace⟩; exact ⟨_, key, _, actor, _, reason, _, trace, rfl⟩

def labelFree : List Char → Bool
  | [] => true
  | c :: cs => !matchesHere (c :: cs) && labelFree cs

theorem searchFrom_of_labelFree {h : Host} {before : Bool} {cs : List Char}
    (free : labelFree cs = true) : searchFrom h before cs = false := by
  induction cs generalizing before with
  | nil => rfl
  | cons c cs ih =>
    simp only [labelFree, Bool.and_eq_true, Bool.not_eq_true'] at free
    simp only [searchFrom, free.1, Bool.and_false, Bool.false_or]
    exact ih free.2

def IsCleanScalar (h : Host) : Json → Prop
  | .str s => labeledIdentifier h s = false
  | .arr _ | .obj _ => False
  | _ => True

def isCleanKey (key : String) : Bool := labelFree (Text.chars key) && !isSensitiveKey key

section
variable {h : Host} {fields : Dict}

theorem sensitiveFields_eq_nil (path : String) (keys : ∀ f ∈ fields, isCleanKey f.1 = true)
    (values : ∀ f ∈ fields, IsCleanScalar h f.2) : sensitiveFields h path fields = [] := by
  induction fields with
  | nil => rfl
  | cons f rest ih =>
    obtain ⟨key, value⟩ := f
    have clean := keys _ List.mem_cons_self
    have scalar := values _ List.mem_cons_self
    simp only [isCleanKey, Bool.and_eq_true, Bool.not_eq_true'] at clean
    have free : labeledIdentifier h key = false := searchFrom_of_labelFree clean.1
    have tail := ih (fun g member => keys g (List.mem_cons_of_mem _ member))
      (fun g member => values g (List.mem_cons_of_mem _ member))
    have head : ∀ at', findSensitivePaths h at' value = [] := by
      intro at'
      cases value with
      | str s =>
        have clean : labeledIdentifier h s = false := scalar
        simp [findSensitivePaths, clean]
      | arr | obj => exact absurd scalar id
      | _ => rfl
    simp [sensitiveFields, free, clean.2, head, tail]

theorem depthFields_le_one (values : ∀ f ∈ fields, IsCleanScalar h f.2) :
    Json.depthFields fields ≤ 1 := by
  induction fields with
  | nil => simp [Json.depthFields]
  | cons f rest ih =>
    have scalar := values _ List.mem_cons_self
    have tail := ih fun g member => values g (List.mem_cons_of_mem _ member)
    have head : f.2.depth ≤ 1 := by
      cases value : f.2 with
      | arr | obj => rw [value] at scalar; exact absurd scalar id
      | _ => simp [Json.depth]
    simp only [Json.depthFields]
    omega

theorem repositorySafe_flat (keys : ∀ f ∈ fields, isCleanKey f.1 = true)
    (values : ∀ f ∈ fields, IsCleanScalar h f.2)
    (small : (fields.map fun f => 24 * f.1.length + (h.canonicalJson f.2).length + 4).sum ≤ 250000) :
    RepositorySafe h (.obj fields) := by
  have depth := depthFields_le_one values
  have size := Json.bytes_obj_length_le h.floatRepr fields
  refine ⟨sensitiveFields_eq_nil "$" keys values, ?_, ?_⟩
  · simp only [Json.depth, maxContractDepth]; omega
  · simp only [serializedBytes, Host.canonicalJson, maxContractSerializedBytes] at small ⊢
    omega

theorem canonicalJson_str_length_le {s : String} {n : Nat} (short : s.length ≤ n) :
    (h.canonicalJson (.str s)).length ≤ 24 * n + 2 := by
  have quoted := Json.quote_length_le s
  simp only [Host.canonicalJson, Json.bytes]
  omega

end

theorem association_safe {h : Host} {incidentId sourceEventId : Identifier} {t : Instant}
    {w : WriteMetadata} {a : Attribution} (clean : w.Clean h) (parsed : w.attribution = some a)
    (incident : labeledIdentifier h incidentId.text = false)
    (source : labeledIdentifier h sourceEventId.text = false) :
    RepositorySafe h (SourceEventAssociation.build incidentId sourceEventId t a).toJson := by
  obtain ⟨key, actor, reason, trace⟩ := WriteMetadata.attribution_eq_some.mp parsed
  have version : labeledIdentifier h schemaVersion = false :=
    searchFrom_of_labelFree (by decide)
  apply repositorySafe_flat
  · intro f member
    have keys : ["schema_version", "incident_id", "source_event_id", "registered_at", "actor",
        "reason", "idempotency_key", "trace_id"].all isCleanKey = true := by decide
    refine List.all_eq_true.mp keys f.1 ?_
    simp only [List.mem_cons, List.not_mem_nil, or_false] at member ⊢
    rcases member with rfl | rfl | rfl | rfl | rfl | rfl | rfl | rfl <;> simp
  · intro f member
    simp only [List.mem_cons, List.not_mem_nil, or_false] at member
    rcases member with rfl | rfl | rfl | rfl | rfl | rfl | rfl | rfl
    · exact version
    · exact incident
    · exact source
    · exact isoText_clean h t
    · exact Identifier.parse_clean actor clean.actor
    · exact NonEmptyStr.parse_clean reason clean.reason
    · exact Identifier.parse_clean key clean.idempotencyKey
    · exact Identifier.parse_clean trace clean.traceId
  · have v := canonicalJson_str_length_le (h := h) (show schemaVersion.length ≤ 3 by decide)
    have i := canonicalJson_str_length_le (h := h) incidentId.short
    have s := canonicalJson_str_length_le (h := h) sourceEventId.short
    have r := canonicalJson_str_length_le (h := h) (isoText_length t)
    have ac := canonicalJson_str_length_le (h := h) a.actor.short
    have re := canonicalJson_str_length_le (h := h) a.reason.short
    have k := canonicalJson_str_length_le (h := h) a.idempotencyKey.short
    have tr := canonicalJson_str_length_le (h := h) a.traceId.short
    simp only [SourceEventAssociation.build, List.map_cons, List.map_nil, List.sum_cons,
      List.sum_nil, dumpId, dumpTime]
    have lengths : "schema_version".length = 14 ∧ "incident_id".length = 11 ∧
      "source_event_id".length = 15 ∧ "registered_at".length = 13 ∧ "actor".length = 5 ∧
      "reason".length = 6 ∧ "idempotency_key".length = 15 ∧ "trace_id".length = 8 := by decide
    omega

end NetworkAgent
