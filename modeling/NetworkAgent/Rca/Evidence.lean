import NetworkAgent.Library.Table
import NetworkAgent.Library.JsonText
import NetworkAgent.Domain.Validation

/-! The evidence that a root-cause analysis reads off the incident itself: one reference for
each violated KPI. A reference is named by the digest of its violation, while its address
carries the position of the violation in the sorted list. -/
namespace NetworkAgent.Rca
open Checks (require)

inductive RcaError where
  | validation (error : ModelError)
  | conflictingEvidence
  deriving DecidableEq

/-! Percent-encoding. -/

/-- What `quote` leaves as it is: the letters, the digits and `_.-~`. -/
def isAlwaysSafe (b : Nat) : Bool :=
  (48 ≤ b && b ≤ 57) || (65 ≤ b && b ≤ 90) || (97 ≤ b && b ≤ 122) ||
    b == 95 || b == 46 || b == 45 || b == 126

def upperHexChar (n : Nat) : Char := "0123456789ABCDEF".toList.getD n '0'

def quoteByte (b : Nat) : List Char :=
  if isAlwaysSafe b then [Char.ofNat b] else ['%', upperHexChar (b / 16), upperHexChar (b % 16)]

/-- `urllib.parse.quote` with `safe=''`. -/
def quote (s : String) : String := String.ofList ((utf8 s).flatMap quoteByte)

example : quote "a/b 中" = "a%2Fb%20%E4%B8%AD" := by decide

/-! The evidence of the violations. -/

/-- The order of `(kpi_name, observed_value, violation_id or "")`. -/
def violationLe (a b : KpiViolation) : Bool :=
  if a.kpiName ≠ b.kpiName then textLe a.kpiName.text b.kpiName.text
  else if a.observedValue ≠ b.observedValue then decide (a.observedValue ≤ b.observedValue)
  else textLe (a.violationId.elim "" (·.text)) (b.violationId.elim "" (·.text))

def sortedViolations (i : Incident) : List KpiViolation :=
  i.violatedKpis.insertionSort fun a b => violationLe a b

/-- `_digest` of a violation. -/
def violationDigest (h : Host) (v : KpiViolation) : Sha256.Digest := h.stableHash (v.dump "Z")

/-- `evidence_id`: the first 32 digits of the digest. -/
def metricId (digest : Sha256.Digest) : String :=
  "metric-" ++ String.ofList (digest.text.toList.take 32)

def violationUri (i : Incident) (index : Nat) (v : KpiViolation) : String :=
  "incident://" ++ quote i.incidentId.text ++ "/violations/" ++ quote v.kpiName.text ++ "/" ++
    toString index

/-- `summary`; `formatG` is the format `:g`. -/
def violationSummary (formatG : ℚ → String) (v : KpiViolation) : String :=
  let unit := match v.unit with
    | none | some "" => ""
    | some unit => " " ++ unit
  "KPI " ++ v.kpiName.text ++ " 的观测值为 " ++ formatG v.observedValue ++ unit ++ "，规则阈值为 " ++
    v.comparator.value ++ " " ++ formatG v.thresholdValue ++ unit ++ "。"

def resourceScope (i : Incident) : Json :=
  .arr ((i.affectedResources.insertionSort fun a b =>
    textLe a.resourceId.text b.resourceId.text).map (·.stableIdentity))

def violationAttributes (i : Incident) (v : KpiViolation) : Dict :=
  [("fact_schema", .str "canonical-kpi-violation/1.0"),
   ("facts", .obj [("kpi." ++ v.kpiName.text, .float v.observedValue)]),
   ("kpi_name", .str v.kpiName.text),
   ("resource_scope", resourceScope i),
   ("window_end", dumpTime "+00:00" ((v.windowEnd.or i.windowEnd).getD i.detectedAt)),
   ("window_start", dumpTime "+00:00" ((v.windowStart.or i.windowStart).getD i.detectedAt))]

def violationReference (h : Host) (formatG : ℚ → String) (i : Incident) (index : Nat)
    (v : KpiViolation) : Except RcaError EvidenceReference :=
  let digest := violationDigest h v
  match Identifier.parse (metricId digest), NonEmptyStr.parse (violationUri i index v) with
  | some evidenceId, some uri => .ok {
      evidenceId
      evidenceType := .metric
      uri
      source := some (.ofText "canonical-incident" (by decide))
      summary := some (violationSummary formatG v)
      collectedAt := some (v.windowEnd.getD i.detectedAt)
      checksumSha256 := some digest.text
      attributes := violationAttributes i v }
  | _, _ => .error (.validation (.message "EvidenceReference"))

def violationEvidence (h : Host) (formatG : ℚ → String) (i : Incident) :
    Except RcaError (List EvidenceReference) :=
  (sortedViolations i).zipIdx.mapM fun p => violationReference h formatG i p.2 p.1

/-! Deduplication by identifier. -/

def addEvidence (byId : Table String EvidenceReference) (item : EvidenceReference) :
    Except RcaError (Table String EvidenceReference) := do
  require (∀ previous ∈ byId.lookup item.evidenceId.text, PyEq.Same previous item)
    .conflictingEvidence
  return byId.insert item.evidenceId.text item

/-- The order of `(evidence_type, evidence_id, uri)`. -/
def evidenceLe (a b : EvidenceReference) : Bool :=
  if a.evidenceType ≠ b.evidenceType then textLe a.evidenceType.value b.evidenceType.value
  else if a.evidenceId ≠ b.evidenceId then textLe a.evidenceId.text b.evidenceId.text
  else textLe a.uri.text b.uri.text

def deduplicateEvidence (evidence : List EvidenceReference) :
    Except RcaError (List EvidenceReference) := do
  let byId ← evidence.foldlM addEvidence ∅
  return byId.values.insertionSort fun a b => evidenceLe a b

def baseEvidence (h : Host) (formatG : ℚ → String) (i : Incident) :
    Except RcaError (List EvidenceReference) := do
  let evidence ← violationEvidence h formatG i
  deduplicateEvidence evidence

/-! The address of a violation ends in its position. -/

theorem quoteByte_plain (b : Nat) : ∀ c ∈ quoteByte b, isWhiteSpace c = false ∧ c ≠ '/' := by
  intro c member
  unfold quoteByte at member
  split at member
  · next safe =>
    rw [List.mem_singleton] at member
    have small : b < 128 := by
      simp only [isAlwaysSafe, Bool.or_eq_true, Bool.and_eq_true, decide_eq_true_eq,
        beq_iff_eq] at safe
      omega
    have every : (List.range 128).all (fun b => !isAlwaysSafe b ||
      (!isWhiteSpace (Char.ofNat b) && Char.ofNat b != '/')) = true := by decide
    have here := List.all_eq_true.mp every b (List.mem_range.mpr small)
    rw [member]
    simpa [safe] using here
  · have hex : ∀ n, isWhiteSpace (upperHexChar n) = false ∧ upperHexChar n ≠ '/' := by
      intro n
      have every : ('0' :: "0123456789ABCDEF".toList).all
        (fun c => !isWhiteSpace c && c != '/') = true := by decide
      have known : upperHexChar n ∈ '0' :: "0123456789ABCDEF".toList := by
        unfold upperHexChar
        rw [List.getD_eq_getElem?_getD]
        cases found : "0123456789ABCDEF".toList[n]? with
        | none => exact List.mem_cons_self
        | some d => exact List.mem_cons_of_mem _ (List.mem_of_getElem? found)
      simpa using List.all_eq_true.mp every _ known
    simp only [List.mem_cons, List.not_mem_nil, or_false] at member
    rcases member with rfl | rfl | rfl
    · decide
    · exact hex _
    · exact hex _

theorem quote_plain {s : String} {c : Char} (member : c ∈ (quote s).toList) :
    isWhiteSpace c = false ∧ c ≠ '/' := by
  rw [quote, String.toList_ofList] at member
  obtain ⟨b, _, inside⟩ := List.mem_flatMap.mp member
  exact quoteByte_plain b c inside

theorem digit_plain {n : Nat} {c : Char} (member : c ∈ (toString n).toList) :
    isWhiteSpace c = false ∧ c ≠ '/' := by
  have digit : c.isDigit = true := by
    have digits : (toString n).toList = Nat.toDigits 10 n := by
      simp [toString, Nat.repr]
    rw [digits] at member
    exact Nat.isDigit_of_mem_toDigits (by decide) (by decide) member
  simp only [Char.isDigit, Bool.and_eq_true, decide_eq_true_eq, ge_iff_le,
    UInt32.le_iff_toNat_le] at digit
  have bound : c.val.toNat = c.toNat := rfl
  have bounds : 48 ≤ c.toNat ∧ c.toNat ≤ 57 := by simpa [bound] using digit
  refine ⟨?_, ?_⟩
  · simp only [isWhiteSpace, Bool.or_eq_false_iff, Bool.and_eq_false_iff,
      decide_eq_false_iff_not, beq_eq_false_iff_ne]
    omega
  · rintro rfl
    exact absurd bounds (by decide)

theorem violationUri_position {i : Incident} {m n : Nat} {v w : KpiViolation}
    (same : violationUri i m v = violationUri i n w) : m = n := by
  have lists := congrArg (fun s : String => s.toList.reverse) same
  simp only [violationUri, String.toList_append, List.reverse_append, List.append_assoc] at lists
  have cut := @List.append_cut_of_plain _ (· = '/') _ _ _ _
    (fun c member => (digit_plain (List.mem_reverse.mp member)).2)
    (fun c member => (digit_plain (List.mem_reverse.mp member)).2)
    (by simp) (by simp) lists
  have texts : (toString m).toList = (toString n).toList := List.reverse_injective cut.1
  have reprs : m.repr = n.repr := String.toList_inj.mp texts
  exact Int.ofNat.inj (Json.int_text_inj (show (Int.ofNat m).repr = (Int.ofNat n).repr from reprs))

theorem violationUri_trimmed (i : Incident) (index : Nat) (v : KpiViolation) :
    Text.trim isWhiteSpace (violationUri i index v) = violationUri i index v := by
  have letter : ∀ {s : String} {c : Char}, s.toList.all (fun c => !isWhiteSpace c) = true →
      c ∈ s.toList → isWhiteSpace c = false := fun fixed member => by
    simpa using List.all_eq_true.mp fixed _ member
  refine Text.trim_fixed fun c member => ?_
  simp only [violationUri, String.toList_append, List.mem_append] at member
  rcases member with ((((scheme | name) | path) | kpi) | slash) | position
  · exact letter (by decide) scheme
  · exact (quote_plain name).1
  · exact letter (by decide) path
  · exact (quote_plain kpi).1
  · exact letter (by decide) slash
  · exact (digit_plain position).1

theorem violationUri_parse {i : Incident} {index : Nat} {v : KpiViolation} :
    (∃ uri, NonEmptyStr.parse (violationUri i index v) = some uri) ↔
      (violationUri i index v).length ≤ 1024 := by
  have filled : violationUri i index v ≠ "" := by
    intro empty
    have size := congrArg String.length empty
    have scheme : "incident://".length = 11 := by decide
    have none : "".length = 0 := by decide
    simp only [violationUri, String.length_append, scheme, none] at size
    omega
  rw [← Option.isSome_iff_exists, NonEmptyStr.parse, Text.Bounded.parse_isSome,
    violationUri_trimmed]
  exact and_iff_right filled

theorem metricId_parse (digest : Sha256.Digest) :
    ∃ id, Identifier.parse (metricId digest) = some id ∧ id.text = metricId digest := by
  have fixed : Text.trim isWhiteSpace (metricId digest) = metricId digest := by
    refine Text.trim_fixed fun c member => ?_
    simp only [metricId, String.toList_append, String.toList_ofList, List.mem_append] at member
    rcases member with letter | hex
    · have letters : "metric-".toList.all (fun c => !isWhiteSpace c) = true := by decide
      simpa using List.all_eq_true.mp letters c letter
    · exact isWhiteSpace_of_hex (List.all_eq_true.mp digest.hex c (List.mem_of_mem_take hex))
  have size : (metricId digest).length = 39 := by
    have letters : "metric-".length = 7 := by decide
    rw [metricId, String.length_append, letters, String.length_ofList, List.length_take,
      String.length_toList, digest.length]
    rfl
  exact ⟨⟨_, fixed, by omega, by omega⟩, Text.Bounded.parse_eq_some.mpr fixed, rfl⟩

theorem violationReference_ok {h : Host} {formatG : ℚ → String} {i : Incident} {index : Nat}
    {v : KpiViolation} {e : EvidenceReference}
    (built : violationReference h formatG i index v = .ok e) :
    e.evidenceId.text = metricId (violationDigest h v) ∧ e.uri.text = violationUri i index v := by
  obtain ⟨id, named, text⟩ := metricId_parse (violationDigest h v)
  simp only [violationReference, named] at built
  split at built
  · next evidenceId uri same found =>
    cases built
    cases same
    exact ⟨text, (Text.Bounded.parse_eq_some.mp found).symm.trans (violationUri_trimmed i index v)⟩
  · cases built

theorem violationReference_isOk {h : Host} {formatG : ℚ → String} {i : Incident} {index : Nat}
    {v : KpiViolation} : (∃ e, violationReference h formatG i index v = .ok e) ↔
      (violationUri i index v).length ≤ 1024 := by
  obtain ⟨id, named, _⟩ := metricId_parse (violationDigest h v)
  rw [← violationUri_parse]
  simp only [violationReference, named]
  cases NonEmptyStr.parse (violationUri i index v) with
  | none => simp
  | some uri => simp

/-! What makes two references conflict. -/

theorem addEvidence_ok {byId t : Table String EvidenceReference} {item : EvidenceReference} :
    addEvidence byId item = .ok t ↔
      (∀ previous ∈ byId.lookup item.evidenceId.text, PyEq.Same previous item) ∧
        t = byId.insert item.evidenceId.text item := by
  simp only [addEvidence, Checks.seq_ok, Checks.require_ok, pure, Except.pure, Except.ok.injEq]
  rw [eq_comm (a := t)]

def Agrees (a b : EvidenceReference) : Prop := a.evidenceId.text = b.evidenceId.text → PyEq.Same a b

theorem foldlM_addEvidence_ok {evidence : List EvidenceReference}
    {byId : Table String EvidenceReference} :
    (∃ t, evidence.foldlM addEvidence byId = .ok t) ↔
      (∀ e ∈ evidence, ∀ previous ∈ byId.lookup e.evidenceId.text, PyEq.Same previous e) ∧
        evidence.Pairwise Agrees := by
  induction evidence generalizing byId with
  | nil => simp [pure, Except.pure]
  | cons item rest ih =>
    simp only [List.foldlM_cons, Checks.bind_ok, addEvidence_ok]
    constructor
    · rintro ⟨t, _, ⟨first, rfl⟩, later⟩
      obtain ⟨known, apart⟩ := ih.mp ⟨t, later⟩
      have agrees : ∀ e ∈ rest, Agrees item e := fun e member name =>
        known e member item (by rw [← name]; simp)
      refine ⟨?_, List.pairwise_cons.mpr ⟨agrees, apart⟩⟩
      intro e member previous stored
      rcases List.mem_cons.mp member with rfl | member
      · exact first previous stored
      · by_cases name : item.evidenceId.text = e.evidenceId.text
        · exact (first previous (name ▸ stored)).trans (agrees e member name)
        · exact known e member previous (by simpa [AList.lookup_insert_ne (Ne.symm name)] using stored)
    · rintro ⟨known, apart⟩
      obtain ⟨agrees, apart⟩ := List.pairwise_cons.mp apart
      have recorded : ∀ e ∈ rest,
          ∀ previous ∈ (byId.insert item.evidenceId.text item).lookup e.evidenceId.text,
            PyEq.Same previous e := by
        intro e member previous stored
        rcases Table.lookup_insert_iff.mp stored with ⟨name, rfl⟩ | ⟨_, before⟩
        · exact agrees e member name.symm
        · exact known e (List.mem_cons_of_mem _ member) previous before
      obtain ⟨t, later⟩ := ih.mpr ⟨recorded, apart⟩
      exact ⟨t, _, ⟨known item List.mem_cons_self, rfl⟩, later⟩

theorem deduplicateEvidence_ok {evidence : List EvidenceReference} :
    (∃ kept, deduplicateEvidence evidence = .ok kept) ↔ evidence.Pairwise Agrees := by
  have passes := @foldlM_addEvidence_ok evidence ∅
  simp only [deduplicateEvidence, Checks.bind_ok, pure, Except.pure, Except.ok.injEq]
  rw [exists_comm]
  simpa using passes

theorem deduplicateEvidence_error {evidence : List EvidenceReference} {e : RcaError}
    (failed : deduplicateEvidence evidence = .error e) : e = .conflictingEvidence := by
  have step : ∀ byId item, Checks.FailsWith (· = RcaError.conflictingEvidence)
      (addEvidence byId item) := fun byId item =>
    Checks.failsWith_bind (Checks.failsWith_require rfl) fun _ => Checks.failsWith_ok _
  have fold : ∀ (evidence : List EvidenceReference) byId,
      Checks.FailsWith (· = RcaError.conflictingEvidence) (evidence.foldlM addEvidence byId) := by
    intro evidence
    induction evidence with
    | nil => exact fun byId => Checks.failsWith_ok byId
    | cons item rest ih => exact fun byId => Checks.failsWith_bind (step byId item) ih
  exact Checks.failsWith_bind (fold evidence ∅) (fun _ => Checks.failsWith_ok _) e failed

/-! The base evidence. -/

def positions (i : Incident) : List (KpiViolation × Nat) := (sortedViolations i).zipIdx

theorem positions_nodup (i : Incident) : ((positions i).map (·.2)).Nodup := by
  rw [positions, List.zipIdx_map_snd]
  exact List.nodup_range'

def ShortAddresses (i : Incident) : Prop :=
  ∀ p ∈ positions i, (violationUri i p.2 p.1).length ≤ 1024

theorem violationEvidence_isOk {h : Host} {formatG : ℚ → String} {i : Incident} :
    (∃ evidence, violationEvidence h formatG i = .ok evidence) ↔ ShortAddresses i := by
  rw [violationEvidence, Checks.mapM_isOk]
  exact forall₂_congr fun _ _ => violationReference_isOk

theorem violationEvidence_avoids (h : Host) (formatG : ℚ → String) (i : Incident) :
    Checks.Avoids .conflictingEvidence (violationEvidence h formatG i) := by
  refine Checks.avoids_mapM fun p _ => ?_
  unfold violationReference
  extract_lets digest
  split
  · exact Checks.avoids_ok _
  · exact Checks.avoids_error nofun

theorem violationEvidence_names {h : Host} {formatG : ℚ → String} {i : Incident}
    {evidence : List EvidenceReference} (built : violationEvidence h formatG i = .ok evidence) :
    evidence.map (·.evidenceId.text) = (sortedViolations i).map fun v =>
      metricId (violationDigest h v) := by
  have names : evidence.map (·.evidenceId.text) =
      (positions i).map fun p => metricId (violationDigest h p.1) :=
    Checks.mapM_map (fun _ _ made => (violationReference_ok made).1) built
  rw [names]
  conv_rhs => rw [← List.zipIdx_map_fst 0 (sortedViolations i), List.map_map]
  rfl

theorem violationEvidence_addresses {h : Host} {formatG : ℚ → String} {i : Incident}
    {evidence : List EvidenceReference} (built : violationEvidence h formatG i = .ok evidence) :
    (evidence.map (·.uri.text)).Nodup := by
  have addresses : evidence.map (·.uri.text) =
      (positions i).map fun p => violationUri i p.2 p.1 :=
    Checks.mapM_map (fun _ _ made => (violationReference_ok made).2) built
  rw [addresses]
  refine List.Nodup.map_on (fun p first q second same => ?_) (positions_nodup i).of_map
  exact List.inj_on_of_nodup_map (positions_nodup i) first second (violationUri_position same)

theorem pairwise_agrees_iff {evidence : List EvidenceReference}
    (addresses : (evidence.map (·.uri.text)).Nodup) :
    evidence.Pairwise Agrees ↔ (evidence.map (·.evidenceId.text)).Nodup := by
  unfold List.Nodup at addresses ⊢
  rw [List.pairwise_map] at addresses ⊢
  constructor
  · refine fun agree => (agree.and addresses).imp fun {a b} both name => both.2 ?_
    exact congrArg (·.text) ((both.1 name).congr EvidenceReference.uri fun _ => rfl)
  · exact fun apart => apart.imp fun different name => absurd name different

theorem metricId_injective {d e : Sha256.Digest} :
    metricId d = metricId e ↔ d.text.toList.take 32 = e.text.toList.take 32 := by
  rw [metricId, metricId, ← String.toList_inj]
  simp

/-- The first half of the digests of the violations, as the names of their references. -/
def digestHalves (h : Host) (i : Incident) : List (List Char) :=
  i.violatedKpis.map fun v => (violationDigest h v).text.toList.take 32

theorem names_nodup {h : Host} {i : Incident} :
    ((sortedViolations i).map fun v => metricId (violationDigest h v)).Nodup ↔
      (digestHalves h i).Nodup := by
  have sorted : ((sortedViolations i).map fun v => metricId (violationDigest h v)).Perm
      (i.violatedKpis.map fun v => metricId (violationDigest h v)) :=
    (List.perm_insertionSort _ _).map _
  rw [sorted.nodup_iff, digestHalves]
  unfold List.Nodup
  rw [List.pairwise_map, List.pairwise_map]
  simp only [ne_eq, metricId_injective]

/-- Collecting the base evidence meets no conflict exactly when an address is too long, which
is refused before, or when no two violations share the first half of their digest. -/
theorem base_evidence_consistent_iff (h : Host) (formatG : ℚ → String) (i : Incident) :
    baseEvidence h formatG i ≠ .error .conflictingEvidence ↔
      ¬ ShortAddresses i ∨ (digestHalves h i).Nodup := by
  unfold baseEvidence
  cases built : violationEvidence h formatG i with
  | error e =>
    have long : ¬ ShortAddresses i := by
      rw [← @violationEvidence_isOk h formatG, built]
      simp
    have other := violationEvidence_avoids h formatG i
    rw [built] at other
    simpa [long, Bind.bind, Except.bind, Checks.Avoids] using other
  | ok evidence =>
    have short : ShortAddresses i := violationEvidence_isOk.mp ⟨evidence, built⟩
    have agree := pairwise_agrees_iff (violationEvidence_addresses built)
    rw [violationEvidence_names built, names_nodup, ← deduplicateEvidence_ok] at agree
    rw [← agree]
    change deduplicateEvidence evidence ≠ _ ↔ _
    cases kept : deduplicateEvidence evidence with
    | ok result => simp
    | error e =>
      rw [deduplicateEvidence_error kept]
      simp [short]

/-! An incident with one violation listed twice. -/
namespace Sample

def violation : KpiViolation where
  kpiName := .ofText "rrc" (by decide)
  observedValue := 90
  thresholdValue := 95
  comparator := .lessThan

def twice : Incident where
  incidentId := .ofText "i" fits_i
  violatedKpis := [violation, violation]
  detectedAt := 0
  traceId := .ofText "t" fits_t
  createdAt := 0
  updatedAt := 0

end Sample

/-- Two equal violations make the base evidence of a valid incident conflict. -/
theorem equal_violations_conflict : ¬ ∀ (h : Host) (formatG : ℚ → String) (i : Incident),
    i.Valid h → baseEvidence h formatG i ≠ .error .conflictingEvidence := by
  intro claimed
  have consistent := (base_evidence_consistent_iff Host.ascii (fun _ => "") Sample.twice).mp
    (claimed _ _ _ (by decide))
  rcases consistent with long | apart
  · exact long (by unfold ShortAddresses; decide)
  · simp [digestHalves, Sample.twice] at apart

end NetworkAgent.Rca
