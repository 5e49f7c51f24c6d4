import NetworkAgent.Supervisor.Canonical
import NetworkAgent.Supervisor.HostAgent

/-! Payloads without nested data: the scan that the supervisor builds, and the page without
candidates that answers it, pass the supervisor's own checks. -/
namespace NetworkAgent.Supervisor

/-! A flat payload passes the checks that all payloads share. -/

/-- A value without members, small and without a labelled identifier. -/
def IsLeaf (h : Host) : Json → Prop
  | .str s => s.length ≤ 64 ∧ labeledIdentifier h s = false
  | .int n => n = 0 ∨ n = 1
  | .arr items => items = []
  | .null | .bool _ => True
  | .float _ | .obj _ => False

def isLeafKey (key : String) : Bool := isCleanKey key && decide (key.length ≤ 64)

section
variable {h : Host} {fields : Dict}

theorem sensitive_leaf {value : Json} (leaf : IsLeaf h value) (path : String) :
    findSensitivePaths h path value = [] := by
  cases value with
  | str s => simp [findSensitivePaths, leaf.2]
  | arr items => rw [show items = [] from leaf]; rfl
  | float | obj => exact absurd leaf id
  | null | bool | int => rfl

theorem sensitiveFields_leaves (path : String) (named : ∀ f ∈ fields, isLeafKey f.1 = true)
    (leaves : ∀ f ∈ fields, IsLeaf h f.2) : sensitiveFields h path fields = [] := by
  induction fields with
  | nil => rfl
  | cons f rest ih =>
    have clean := named f List.mem_cons_self
    simp only [isLeafKey, isCleanKey, Bool.and_eq_true, Bool.not_eq_true'] at clean
    have free : labeledIdentifier h f.1 = false := searchFrom_of_labelFree clean.1.1
    have tail := ih (fun g member => named g (List.mem_cons_of_mem _ member))
      (fun g member => leaves g (List.mem_cons_of_mem _ member))
    simp [sensitiveFields, free, clean.1.2, sensitive_leaf (leaves f List.mem_cons_self), tail]

theorem bounded_leaves (named : ∀ f ∈ fields, isLeafKey f.1 = true)
    (leaves : ∀ f ∈ fields, IsLeaf h f.2) : boundedFields fields = true := by
  induction fields with
  | nil => rfl
  | cons f rest ih =>
    have short := named f List.mem_cons_self
    have leaf := leaves f List.mem_cons_self
    have tail := ih (fun g member => named g (List.mem_cons_of_mem _ member))
      (fun g member => leaves g (List.mem_cons_of_mem _ member))
    simp only [isLeafKey, Bool.and_eq_true, decide_eq_true_eq] at short
    have head : boundedStrings f.2 = true := by
      cases value : f.2 with
      | str s =>
        rw [value] at leaf
        exact decide_eq_true (Nat.le_trans leaf.1 (by decide))
      | arr items => rw [value] at leaf; rw [show items = [] from leaf]; rfl
      | float | obj => rw [value] at leaf; exact absurd leaf id
      | null | bool | int => rfl
    have key : decide (f.1.length ≤ maxIdChars) = true :=
      decide_eq_true (Nat.le_trans short.2 (by decide))
    simp only [boundedFields, head, tail, key, Bool.and_true]

theorem depth_leaves (leaves : ∀ f ∈ fields, IsLeaf h f.2) : Json.depthFields fields ≤ 1 := by
  induction fields with
  | nil => simp [Json.depthFields]
  | cons f rest ih =>
    have leaf := leaves f List.mem_cons_self
    have tail := ih fun g member => leaves g (List.mem_cons_of_mem _ member)
    have head : f.2.depth ≤ 1 := by
      cases value : f.2 with
      | arr items => rw [value] at leaf; rw [show items = [] from leaf]; rfl
      | obj => rw [value] at leaf; exact absurd leaf id
      | _ => simp [Json.depth]
    simp only [Json.depthFields]
    omega

theorem canonicalJson_leaf_length_le {value : Json} (leaf : IsLeaf h value) :
    (h.canonicalJson value).length ≤ 1538 := by
  cases value with
  | str s => exact canonicalJson_str_length_le leaf.1
  | int n =>
    rcases leaf with rfl | rfl
    · have written : (h.canonicalJson (.int 0)).length = 1 := by rfl
      omega
    · have written : (h.canonicalJson (.int 1)).length = 1 := by rfl
      omega
  | arr items =>
    rw [show items = [] from leaf]
    have written : (h.canonicalJson (.arr [])).length = 2 := by rfl
    omega
  | float | obj => exact absurd leaf id
  | null =>
    have written : (h.canonicalJson .null).length = 4 := by rfl
    omega
  | bool b =>
    have written : (h.canonicalJson (.bool b)).length ≤ 5 := by
      cases b with
      | false => exact Nat.le_of_eq (by rfl)
      | true => exact Nat.le_of_lt (Nat.lt_of_le_of_lt (Nat.le_of_eq (by rfl : _ = 4)) (by decide))
    omega

theorem leaves_size_le (named : ∀ f ∈ fields, isLeafKey f.1 = true)
    (leaves : ∀ f ∈ fields, IsLeaf h f.2) :
    (fields.map fun f => 24 * f.1.length + (Json.bytes h.floatRepr f.2).length + 4).sum ≤
      3078 * fields.length := by
  induction fields with
  | nil => simp
  | cons f rest ih =>
    have short := named f List.mem_cons_self
    have small := canonicalJson_leaf_length_le (leaves f List.mem_cons_self)
    have tail := ih (fun g member => named g (List.mem_cons_of_mem _ member))
      (fun g member => leaves g (List.mem_cons_of_mem _ member))
    simp only [isLeafKey, Bool.and_eq_true, decide_eq_true_eq] at short
    simp only [Host.canonicalJson] at small
    simp only [List.map_cons, List.sum_cons, List.length_cons]
    omega

theorem canonicalJson_leaves_length_le (named : ∀ f ∈ fields, isLeafKey f.1 = true)
    (leaves : ∀ f ∈ fields, IsLeaf h f.2) (few : fields.length ≤ 24) :
    (h.canonicalJson (.obj fields)).length ≤ maxCanonicalBytes := by
  have whole := Json.bytes_obj_length_le h.floatRepr fields
  have sum := leaves_size_le named leaves
  simp only [Host.canonicalJson, maxCanonicalBytes]
  omega

end

/-- A flat payload of a type passes every check when the fields that all payloads share and the
rules of its type are met. -/
theorem isCanonical_flat {p : Python} {type : MessageType} {d : Dict} (other : type ≠ .error)
    (named : ∀ f ∈ d, isLeafKey f.1 = true) (leaves : ∀ f ∈ d, IsLeaf p.toHost f.2)
    (few : d.length ≤ 24) (kind : field "message_type" d = .str type.value)
    (fits : keys d ⊆ type.fields ∧ type.fields ⊆ keys d)
    (required : ∀ name ∈ requiredFields type, requiredText name (field name d) = .ok ())
    (version : field "schema_version" d = .str "1.0")
    (sentAt : ∃ t, parseUtcIso p "sent_at" (field "sent_at" d) = .ok t)
    (independent : (["message_id", "workflow_id", "trace_id", "idempotency_key"].map
      fun name => field name d).Nodup)
    (valid : validateAssurancePayload p type d = .ok ()) : IsCanonical p type d where
  depth := by
    have shallow := depth_leaves leaves
    simp only [Json.depth, maxCanonicalDepth]
    omega
  size := canonicalJson_leaves_length_le named leaves few
  kind := kind
  known := fits.1
  complete := fits.2
  bounded := bounded_leaves named leaves
  clean := sensitiveFields_leaves "$" named leaves
  error := fun wrong => absurd wrong other
  required := required
  version := version
  sentAt := sentAt
  independent := fun _ => independent
  valid := fun _ => valid

/-! What a call draws. -/

/-- What `fromisoformat` makes of a timestamp of the supervisor. -/
def Python.ReadsBack (p : Python) (t : Instant) : Prop :=
  p.fromisoformat (isoText "+00:00" t) = some ⟨t, some 0⟩

theorem spellZone_isoText (t : Instant) : spellZone (isoText "Z" t) = isoText "+00:00" t := by
  obtain ⟨cs, same, written⟩ : ∃ cs, (∀ zone, isoText zone t = String.ofList cs ++ zone) ∧
      ∀ c ∈ cs, isTimeChar c = true := by
    obtain ⟨cs, text, _, written⟩ := isoText_eq "" t
    refine ⟨cs, fun zone => ?_, written⟩
    rw [String.append_empty] at text
    rw [← text]
    simp [isoText]
  have zone : "Z".toList = ['Z'] := by decide
  have text : (String.ofList cs).toList = cs := String.toList_ofList
  rw [same, same, spellZone, String.toList_append, text, zone, List.flatMap_append,
    flatMap_isTimeChar _ written, String.ofList_append]
  rfl

theorem parseUtcIso_utcText {p : Python} {t : Instant} (reads : p.ReadsBack t) (name : String) :
    parseUtcIso p name (utcText t) = .ok t := by
  have short := isoText_length t
  have some' : isoText "Z" t ≠ "" := by
    intro empty
    have last : (isoText "Z" t).toList ≠ [] := by simp [isoText]
    exact last (by rw [empty]; rfl)
  have bounded : (isoText "Z" t).length ≤ maxIdChars := Nat.le_trans short (by decide)
  simp only [parseUtcIso, utcText, spellZone_isoText]
  rw [if_pos ⟨some', bounded⟩, show p.fromisoformat _ = _ from reads]
  rfl

theorem newId_toList (start : String) (uuid : Uuid) :
    (newId start uuid).toList = start.toList ++ '-' :: uuid.hex.toList := by
  simp [newId]

theorem newId_length (start : String) (uuid : Uuid) :
    (newId start uuid).length = start.length + 33 := by
  have dash : "-".length = 1 := by decide
  simp only [newId, String.length_append, uuid.length, dash]

def labelFreeStart : List Char → Bool
  | [] => true
  | c :: cs => (labels.all fun label => missesLabel label.toList (c :: cs)) && labelFreeStart cs
where
  missesLabel : List Char → List Char → Bool
    | l :: label, c :: cs => if foldCase c = l then missesLabel label cs else true
    | _, _ => false

theorem afterLabel_of_misses {label cs : List Char} (rest : List Char)
    (misses : labelFreeStart.missesLabel label cs = true) : afterLabel label (cs ++ rest) = none := by
  induction label generalizing cs with
  | nil => cases cs <;> cases misses
  | cons l label ih =>
    cases cs with
    | nil => cases misses
    | cons c cs =>
      simp only [labelFreeStart.missesLabel] at misses
      simp only [List.cons_append, afterLabel]
      split
      · rename_i same
        rw [if_pos same] at misses
        exact ih misses
      · rfl

theorem labelFree_append {cs rest : List Char} (start : labelFreeStart cs = true)
    (free : labelFree rest = true) : labelFree (cs ++ rest) = true := by
  induction cs with
  | nil => exact free
  | cons c cs ih =>
    simp only [labelFreeStart, Bool.and_eq_true, List.all_eq_true] at start
    have here : matchesHere (c :: cs ++ rest) = false := by
      simp only [matchesHere, List.any_eq_false]
      intro label member
      rw [afterLabel_of_misses rest (start.1 label member)]
      decide
    simp only [List.cons_append] at here ⊢
    simp [labelFree, here, ih start.2]

theorem labelFree_hex (uuid : Uuid) : labelFree uuid.hex.toList = true := by
  have digits := List.all_eq_true.mp uuid.digits
  generalize uuid.hex.toList = cs at digits
  induction cs with
  | nil => rfl
  | cons c rest ih =>
    have other := startsNoLabel_of_hex (digits c List.mem_cons_self)
    simp [labelFree, matchesHere_cons other, ih fun d member => digits d (List.mem_cons_of_mem _ member)]

theorem newId_clean (h : Host) {start : String} (uuid : Uuid)
    (free : labelFreeStart (start.toList ++ ['-']) = true) :
    labeledIdentifier h (newId start uuid) = false := by
  rw [labeledIdentifier, Text.chars_eq, newId_toList]
  apply searchFrom_of_labelFree
  rw [List.append_cons]
  exact labelFree_append free (labelFree_hex uuid)

theorem newId_ne {first other : String} {a b : Uuid} (heads : first.toList.head? ≠ other.toList.head?)
    (some' : first.toList ≠ [] ∧ other.toList ≠ []) : newId first a ≠ newId other b := by
  intro same
  have heads' := congrArg (fun s => s.toList.head?) same
  simp only [newId_toList, List.head?_append] at heads'
  cases one : first.toList with
  | nil => exact some'.1 one
  | cons c cs =>
    cases two : other.toList with
    | nil => exact some'.2 two
    | cons d ds =>
      simp only [one, two, List.head?_cons, Option.or_some, Option.some.injEq] at heads' heads
      exact heads (by simpa using heads')

theorem leaf_newId (h : Host) {start : String} (uuid : Uuid) (short : start.length ≤ 31)
    (free : labelFreeStart (start.toList ++ ['-']) = true) : IsLeaf h (.str (newId start uuid)) := by
  refine ⟨?_, newId_clean h uuid free⟩
  rw [newId_length]
  omega

theorem leaf_utcText (h : Host) (t : Instant) : IsLeaf h (utcText t) :=
  ⟨Nat.le_trans (isoText_length t) (by decide), isoText_clean h t⟩

theorem leaf_text (h : Host) {s : String} (short : s.length ≤ 64)
    (free : labelFree s.toList = true) : IsLeaf h (.str s) := by
  refine ⟨short, ?_⟩
  rw [labeledIdentifier, Text.chars_eq]
  exact searchFrom_of_labelFree free

theorem requiredText_id {name s : String} (some' : s ≠ "") (short : s.length ≤ 64) :
    requiredText name (.str s) = .ok () := by
  have bound : s.length ≤ if name = "sent_at" then maxTextChars else maxIdChars := by
    split
    · exact Nat.le_trans short (by decide)
    · exact Nat.le_trans short (by decide)
  simp [requiredText, Checks.require, some', bound, Bind.bind, Except.bind]

theorem newId_ne_empty (start : String) (uuid : Uuid) : newId start uuid ≠ "" := by
  intro empty
  have size := newId_length start uuid
  rw [empty] at size
  simp at size

theorem requiredText_newId (name : String) {start : String} (uuid : Uuid)
    (short : start.length ≤ 31) : requiredText name (.str (newId start uuid)) = .ok () := by
  apply requiredText_id (newId_ne_empty start uuid)
  rw [newId_length]
  omega

theorem requiredText_utcText (name : String) (t : Instant) :
    requiredText name (utcText t) = .ok () := by
  refine requiredText_id ?_ (Nat.le_trans (isoText_length t) (by decide))
  intro empty
  have last : (isoText "Z" t).toList ≠ [] := by simp [isoText]
  exact last (by rw [empty]; rfl)

/-! The scan. -/

theorem scan_canonical {p : Python} (fresh : Fresh) (reads : p.ReadsBack fresh.now) :
    IsCanonical p .scanRequest (buildAssuranceScanRequest fresh).data := by
  apply isCanonical_flat (by decide)
  · have names : MessageType.scanRequest.fields.all isLeafKey = true := by decide
    exact fun f member => List.all_eq_true.mp names f.1
      (show f.1 ∈ keys (buildAssuranceScanRequest fresh).data from List.mem_map_of_mem member)
  · simp only [buildAssuranceScanRequest, List.forall_mem_cons]
    refine ⟨leaf_text _ (by decide) (by decide), leaf_text _ (by decide) (by decide),
      leaf_newId _ _ (by decide) (by decide), leaf_newId _ _ (by decide) (by decide),
      leaf_newId _ _ (by decide) (by decide), leaf_newId _ _ (by decide) (by decide),
      leaf_utcText _ _, trivial, trivial, rfl, .inr rfl, .inl rfl, ?_⟩
    intro f member
    cases member
  · exact Nat.le_of_lt (by rw [show (buildAssuranceScanRequest fresh).data.length = 12 from rfl]; decide)
  · rfl
  · rw [show keys (buildAssuranceScanRequest fresh).data = MessageType.scanRequest.fields from rfl]
    exact ⟨fun _ member => member, fun _ member => member⟩
  · simp only [requiredFields, commonFields, List.forall_mem_cons]
    refine ⟨requiredText_id (by decide) (by decide), requiredText_id (by decide) (by decide),
      requiredText_newId _ _ (by decide), requiredText_newId _ _ (by decide),
      requiredText_newId _ _ (by decide), requiredText_newId _ _ (by decide),
      requiredText_utcText _ _, ?_⟩
    intro name member
    cases member
  · rfl
  · exact ⟨_, parseUtcIso_utcText reads "sent_at"⟩
  · have ids : ["message_id", "workflow_id", "trace_id", "idempotency_key"].map
        (fun name => field name (buildAssuranceScanRequest fresh).data) =
        [.str (newId "message" fresh.message), .str (newId "workflow" fresh.workflow),
          .str (newId "trace" fresh.trace), .str (newId "scan" fresh.key)] := rfl
    rw [ids]
    simp only [List.nodup_cons, List.mem_cons, Json.str.injEq, List.not_mem_nil, or_false, not_or,
      List.nodup_nil, not_false_eq_true, and_true]
    exact ⟨⟨newId_ne (by decide) (by decide), newId_ne (by decide) (by decide),
      newId_ne (by decide) (by decide)⟩, ⟨newId_ne (by decide) (by decide),
      newId_ne (by decide) (by decide)⟩, newId_ne (by decide) (by decide)⟩
  · rfl

theorem isOptionalId_newId {start : String} (uuid : Uuid) (short : start.length ≤ 31) :
    IsOptionalId (some (newId start uuid)) := by
  intro s member
  obtain rfl := Option.some.inj member
  refine ⟨newId_ne_empty start uuid, ?_⟩
  rw [newId_length]
  exact Nat.le_trans (Nat.add_le_add_right short 33) (by decide)

theorem agrees_self (value : Option String) : Agrees value value := by
  intro a first b other
  exact Option.some.inj (first.symm.trans other)

def scanContent (fresh : Fresh) : Content where
  parts := [.data (.obj (buildAssuranceScanRequest fresh).data),
    .text "开始检查已批准导入的本地网络数据。"]
  messageId := some (newId "message" fresh.message)
  contextId := some (newId "context" fresh.context)

theorem prepareScan_ok {p : Python} (call : Call) (reads : p.ReadsBack call.fresh.now) :
    prepareScan p call =
      .ok (preparedScan call (buildAssuranceScanRequest call.fresh) (scanContent call.fresh)) := by
  have canonical : canonicalData p (.obj (buildAssuranceScanRequest call.fresh).data) =
      .ok (buildAssuranceScanRequest call.fresh).data :=
    canonicalData_ok.mpr ⟨rfl, _, scan_canonical call.fresh reads⟩
  have shown : boundedText p "开始检查已批准导入的本地网络数据。" =
      .ok "开始检查已批准导入的本地网络数据。" :=
    boundedText_ok.mpr ⟨by decide, by decide,
      (leaf_text p.toHost (by decide) (by decide)).2, rfl⟩
  have created : createDataMessagePayload p (buildAssuranceScanRequest call.fresh).data none
      (some (buildAssuranceScanRequest call.fresh).a2aContextId) "开始检查已批准导入的本地网络数据。" =
      .ok (scanContent call.fresh) := by
    refine Checks.seq_ok.mpr ⟨Checks.require_ok.mpr (newId_ne_empty "message" _), ?_⟩
    refine Checks.bind_ok.mpr ⟨_, decodeCanonicalParts_pair canonical shown ?_, rfl⟩
    refine assertContainerIds_ok.mpr ⟨isOptionalId_newId _ (by decide), agrees_self _, ?_⟩
    exact assertTransport_ok.mpr ⟨nofun, nofun, isOptionalId_newId _ (by decide), agrees_self _⟩
  exact Checks.bind_ok.mpr ⟨scanContent call.fresh, hosted_ok.mpr created, rfl⟩

/-! The answer to a scan that found nothing. -/

def zeroSha256 : String := "0000000000000000000000000000000000000000000000000000000000000000"

def emptyPage (fresh : Fresh) : Dict :=
  [("schema_version", .str "1.0"), ("message_type", .str "assurance_candidate_page"),
   ("message_id", .str "page-1"), ("workflow_id", .str (newId "workflow" fresh.workflow)),
   ("trace_id", .str (newId "trace" fresh.trace)), ("idempotency_key", .str "key-1"),
   ("sent_at", utcText fresh.now),
   ("request_message_id", .str (newId "message" fresh.message)), ("candidates", .arr []),
   ("page_size", .int 1), ("page_offset", .int 0), ("total_candidates", .int 0),
   ("has_more", .bool false), ("challenge_id", .null), ("snapshot_sha256", .str zeroSha256),
   ("challenge_expires_at", .null), ("effective_window_start", utcText fresh.now),
   ("effective_window_end", utcText fresh.now), ("summary_zh", .str "")]

theorem isIdentifier_newId {start : String} (uuid : Uuid) (short : start.length ≤ 31) :
    IsIdentifier (.str (newId start uuid)) := isOptionalId_newId uuid short _ rfl

theorem isSha256_zero : IsSha256 (.str zeroSha256) := by decide +kernel

theorem sha256Value_zero (label : String) : sha256Value label (.str zeroSha256) = .ok () := by
  rw [sha256Value, orInvalid, Checks.require_ok]
  exact isSha256_zero

theorem daysInMicros_nonneg (days : Nat) : 0 ≤ daysInMicros days := by
  simp only [daysInMicros]
  omega

theorem utcPair_same {p : Python} {t : Instant} (reads : p.ReadsBack t) (label : String)
    (days : Nat) : utcPair p label (utcText t) (utcText t) (some days) = .ok () := by
  refine Checks.seq_ok.mpr ⟨Checks.require_ok.mpr Iff.rfl, ?_⟩
  rw [if_neg (by simp [utcText])]
  refine Checks.bind_ok.mpr ⟨t, parseUtcIso_utcText reads _, Checks.bind_ok.mpr
    ⟨t, parseUtcIso_utcText reads _, Checks.seq_ok.mpr ⟨Checks.require_ok.mpr (le_refl t), ?_⟩⟩⟩
  refine Checks.require_ok.mpr fun limit known => ?_
  rw [Int.sub_self]
  exact daysInMicros_nonneg limit

theorem validateCandidatePage_empty {p : Python} (fresh : Fresh) (reads : p.ReadsBack fresh.now) :
    validateCandidatePage p (emptyPage fresh) = .ok () := by
  refine Checks.seq_ok.mpr ⟨Checks.require_ok.mpr (isIdentifier_newId _ (by decide)), ?_⟩
  refine Checks.bind_ok.mpr ⟨[], rfl, ?_⟩
  refine Checks.seq_ok.mpr ⟨rfl, Checks.seq_ok.mpr ⟨rfl, Checks.seq_ok.mpr ⟨rfl,
    Checks.seq_ok.mpr ⟨rfl, Checks.seq_ok.mpr ⟨rfl, Checks.seq_ok.mpr ⟨rfl, ?_⟩⟩⟩⟩⟩⟩
  refine Checks.seq_ok.mpr ⟨sha256Value_zero _, Checks.seq_ok.mpr ⟨rfl,
    Checks.seq_ok.mpr ⟨Checks.require_ok.mpr ?_, ?_⟩⟩⟩
  · exact ⟨⟨fun wrong => absurd rfl wrong, nofun⟩, ⟨fun wrong => absurd rfl wrong, nofun⟩⟩
  · exact Checks.seq_ok.mpr ⟨utcPair_same reads _ 31, rfl⟩

theorem emptyPage_canonical {p : Python} (fresh : Fresh) (reads : p.ReadsBack fresh.now) :
    IsCanonical p .candidatePage (emptyPage fresh) := by
  apply isCanonical_flat (by decide)
  · have names : MessageType.candidatePage.fields.all isLeafKey = true := by decide
    exact fun f member => List.all_eq_true.mp names f.1
      (show f.1 ∈ keys (emptyPage fresh) from List.mem_map_of_mem member)
  · simp only [emptyPage, List.forall_mem_cons]
    refine ⟨leaf_text _ (by decide) (by decide), leaf_text _ (by decide) (by decide),
      leaf_text _ (by decide) (by decide), leaf_newId _ _ (by decide) (by decide),
      leaf_newId _ _ (by decide) (by decide), leaf_text _ (by decide) (by decide),
      leaf_utcText _ _, leaf_newId _ _ (by decide) (by decide), rfl, .inr rfl, .inl rfl,
      .inl rfl, trivial, trivial, leaf_text _ (by decide) (by decide), trivial,
      leaf_utcText _ _, leaf_utcText _ _, leaf_text _ (by decide) (by decide), ?_⟩
    intro f member
    cases member
  · exact Nat.le_of_lt (by rw [show (emptyPage fresh).length = 19 from rfl]; decide)
  · rfl
  · rw [show keys (emptyPage fresh) = MessageType.candidatePage.fields from rfl]
    exact ⟨fun _ member => member, fun _ member => member⟩
  · simp only [requiredFields, commonFields, List.forall_mem_cons]
    refine ⟨requiredText_id (by decide) (by decide), requiredText_id (by decide) (by decide),
      requiredText_id (by decide) (by decide), requiredText_newId _ _ (by decide),
      requiredText_newId _ _ (by decide), requiredText_id (by decide) (by decide),
      requiredText_utcText _ _, ?_⟩
    intro name member
    cases member
  · rfl
  · exact ⟨_, parseUtcIso_utcText reads "sent_at"⟩
  · have ids : ["message_id", "workflow_id", "trace_id", "idempotency_key"].map
        (fun name => field name (emptyPage fresh)) =
        [.str "page-1", .str (newId "workflow" fresh.workflow),
          .str (newId "trace" fresh.trace), .str "key-1"] := rfl
    have head : ∀ {s start : String} (uuid : Uuid), s.toList.head? ≠ start.toList.head? →
        start.toList ≠ [] → s ≠ newId start uuid := by
      intro s start uuid heads some' same
      have heads' := congrArg (fun s => s.toList.head?) same
      simp only [newId_toList, List.head?_append] at heads'
      cases named : start.toList with
      | nil => exact some' named
      | cons c cs => simp [named] at heads heads'; exact heads heads'
    rw [ids]
    simp only [List.nodup_cons, List.mem_cons, Json.str.injEq, List.not_mem_nil, or_false, not_or,
      List.nodup_nil, not_false_eq_true, and_true]
    exact ⟨⟨head _ (by decide) (by decide), head _ (by decide) (by decide), by decide⟩,
      ⟨newId_ne (by decide) (by decide), fun same => head _ (by decide) (by decide) same.symm⟩,
      fun same => head _ (by decide) (by decide) same.symm⟩
  · exact validateCandidatePage_empty fresh reads

theorem validateEmpty_emptyPage {p : Python} (fresh : Fresh) (reads : p.ReadsBack fresh.now) :
    validateEmptyAssuranceCandidatePage p (emptyPage fresh) = .ok (emptyPage fresh) := by
  refine Checks.bind_ok.mpr ⟨_, canonicalData_ok.mpr ⟨rfl, _, emptyPage_canonical fresh reads⟩, ?_⟩
  refine Checks.seq_ok.mpr ⟨rfl, Checks.seq_ok.mpr
    ⟨Checks.require_ok.mpr (isIdentifier_newId _ (by decide)), Checks.seq_ok.mpr ⟨rfl,
    Checks.seq_ok.mpr ⟨rfl, Checks.seq_ok.mpr ⟨Checks.require_ok.mpr isSha256_zero, ?_⟩⟩⟩⟩⟩
  refine Checks.seq_ok.mpr ⟨?_, rfl⟩
  refine Checks.bind_ok.mpr ⟨_, parseUtcIso_utcText reads _, Checks.bind_ok.mpr
    ⟨_, parseUtcIso_utcText reads _, Checks.seq_ok.mpr ⟨Checks.require_ok.mpr (le_refl _),
    Checks.require_ok.mpr ?_⟩⟩⟩
  rw [Int.sub_self]
  exact daysInMicros_nonneg 31

theorem checkEmptyScan_emptyPage {p : Python} (call : Call) (reads : p.ReadsBack call.fresh.now)
    (request : Content) (text : Option String) :
    checkEmptyScan p (preparedScan call (buildAssuranceScanRequest call.fresh) request)
      (some ⟨emptyPage call.fresh, text, "page-1"⟩) = .ok () := by
  refine Checks.bind_ok.mpr ⟨_, hosted_ok.mpr (validateEmpty_emptyPage call.fresh reads), ?_⟩
  exact Checks.require_ok.mpr ⟨rfl, rfl, rfl⟩

end NetworkAgent.Supervisor
