import NetworkAgent.Local.Telemetry
import NetworkAgent.Rca.Scope

/-! The evidence that the telemetry adapter collects against the scope check of the analysis. The
adapter names the normalised resources, the check the resources as the incident spells them. -/
namespace NetworkAgent.Local
open Items (setItem setItem_same lookup_setItem)
open Rca (telemetryScopeIssue resourceScopeIssue timeScopeIssue expectedResourceScope
  violationWindows overlapsViolation getValue)

/-! Normalised identifiers. -/

/-- The decimal text of a component, without leading zeros. -/
def IsComponent (s : String) : Prop := ∃ n ≤ lteIdentifierMax, s = toString n

theorem toString_toList (n : Nat) : (toString n).toList = Nat.toDigits 10 n := Nat.toList_repr

theorem strip_toString (n : Nat) : strip (toString n) = toString n := by
  apply Text.trim_fixed
  intro c inside
  rw [toString_toList] at inside
  have digit := Nat.isDigit_of_mem_toDigits (by decide) (by decide) inside
  simp only [Char.isDigit, Bool.and_eq_true, decide_eq_true_eq, ge_iff_le,
    UInt32.le_iff_toNat_le] at digit
  have bounds : 48 ≤ c.toNat ∧ c.toNat ≤ 57 := digit
  simp only [isSpace, isWhiteSpace, Bool.or_eq_false_iff, Bool.and_eq_false_iff,
    decide_eq_false_iff_not, beq_eq_false_iff_ne]
  omega

theorem normalize_component {component s : String} (normal : IsComponent s) :
    normalizeLteIdentifier component s = .ok s := by
  obtain ⟨n, bound, rfl⟩ := normal
  have size : (Nat.toDigits 10 n).length ≤ 9 :=
    (Nat.length_toDigits_le_iff (by decide) (by decide)).mpr
      (Nat.lt_of_le_of_lt bound (by decide))
  have some : 1 ≤ (Nat.toDigits 10 n).length := Nat.length_toDigits_pos
  have every : (Nat.toDigits 10 n).all Char.isDigit = true :=
    List.all_eq_true.mpr fun c inside => Nat.isDigit_of_mem_toDigits (by decide) (by decide) inside
  have value : parseDecimal (Nat.toDigits 10 n) = n := Nat.ofDigitChars_ten_toDigits
  simp only [normalizeLteIdentifier, strip_toString, toString_toList, value]
  rw [requireScan, Checks.require, if_pos ⟨some, size, every⟩, requireScan, Checks.require,
    if_pos bound]
  rfl

theorem component_of_normalize {component value s : String}
    (read : normalizeLteIdentifier component value = .ok s) : IsComponent s := by
  obtain ⟨_, read⟩ := Checks.seq_ok.mp read
  obtain ⟨bound, read⟩ := Checks.seq_ok.mp read
  exact ⟨_, Checks.require_ok.mp bound, (Except.ok.inj read).symm⟩

def lteText (enodeb : String) : Option String → String
  | none => "lte:enodeb:" ++ enodeb
  | some cell => "lte:enodeb:" ++ enodeb ++ ":cell:" ++ cell

theorem canonicalResourceId_eq {enodeb : String} {cell : Option String}
    (first : IsComponent enodeb) (second : ∀ c ∈ cell, IsComponent c) :
    canonicalResourceId enodeb cell = .ok (lteText enodeb cell) := by
  rw [canonicalResourceId, normalize_component first]
  cases cell with
  | none => rfl
  | some cell =>
    have normal : normalizeLteIdentifier "Cell" cell = .ok cell :=
      normalize_component (second cell rfl)
    simp only [bind, Except.bind, normal]
    rfl

theorem component_plain {s : String} (normal : IsComponent s) :
    ∀ c ∈ s.toList, (c == ':') = false ∧ isSpace c = false := by
  obtain ⟨n, -, rfl⟩ := normal
  intro c inside
  rw [toString_toList] at inside
  have digit := Nat.isDigit_of_mem_toDigits (by decide) (by decide) inside
  simp only [Char.isDigit, Bool.and_eq_true, decide_eq_true_eq, ge_iff_le,
    UInt32.le_iff_toNat_le] at digit
  have bounds : 48 ≤ c.toNat ∧ c.toNat ≤ 57 := digit
  constructor
  · rw [beq_eq_false_iff_ne]
    rintro rfl
    revert bounds
    decide
  · simp only [isSpace, isWhiteSpace, Bool.or_eq_false_iff, Bool.and_eq_false_iff,
      decide_eq_false_iff_not, beq_eq_false_iff_ne]
    omega

theorem lteText_toList (enodeb : String) (cell : Option String) :
    (lteText enodeb cell).toList = "lte".toList ++ ':' :: ("enodeb".toList ++ ':' ::
      (enodeb.toList ++ match cell with
        | none => []
        | some cell => ':' :: ("cell".toList ++ ':' :: cell.toList))) := by
  have front : "lte:enodeb:".toList = "lte".toList ++ ':' :: ("enodeb".toList ++ [':']) := by decide
  have middle : ":cell:".toList = ':' :: ("cell".toList ++ [':']) := by decide
  cases cell with
  | none => rw [lteText, String.toList_append, front]; simp
  | some cell =>
    rw [lteText, String.toList_append, String.toList_append, String.toList_append, front, middle]
    simp

theorem strip_lteText {enodeb : String} {cell : Option String} (first : IsComponent enodeb)
    (second : ∀ c ∈ cell, IsComponent c) : strip (lteText enodeb cell) = lteText enodeb cell := by
  have plain : ∀ s : String, s.toList.all (fun c => !isSpace c) = true →
      ∀ c ∈ s.toList, isSpace c = false := by
    intro s every c member
    simpa using List.all_eq_true.mp every c member
  have lte := plain "lte" (by decide)
  have node := plain "enodeb" (by decide)
  have word := plain "cell" (by decide)
  have colon : ∀ c, c = ':' → isSpace c = false := by rintro c rfl; decide
  apply Text.trim_fixed
  intro c inside
  rw [lteText_toList] at inside
  simp only [List.mem_append, List.mem_cons] at inside
  rcases inside with here | here | here | here | digit | rest
  · exact lte c here
  · exact colon c here
  · exact node c here
  · exact colon c here
  · exact (component_plain first c digit).2
  · cases cell with
    | none => cases rest
    | some cell =>
      simp only [List.mem_append, List.mem_cons] at rest
      rcases rest with here | here | here | digit
      · exact colon c here
      · exact word c here
      · exact colon c here
      · exact (component_plain (second cell rfl) c digit).2

theorem parse_lteText {enodeb : String} {cell : Option String} (first : IsComponent enodeb)
    (second : ∀ c ∈ cell, IsComponent c) :
    parseLteResourceId (lteText enodeb cell) = .ok (enodeb, cell) := by
  have apart : ∀ {s : String}, IsComponent s → ':' ∉ s.toList := fun normal inside => by
    simpa using (component_plain normal _ inside).1
  have lte : ':' ∉ "lte".toList := by decide
  have node : ':' ∉ "enodeb".toList := by decide
  have word : ':' ∉ "cell".toList := by decide
  rw [parseLteResourceId, strip_lteText first second, Text.chars_eq, lteText_toList,
    List.splitOn_append_cons_self_of_not_mem lte, List.splitOn_append_cons_self_of_not_mem node]
  cases cell with
  | none =>
    rw [List.append_nil, List.splitOn_eq_singleton (apart first)]
    simp only [List.map_cons, List.map_nil, String.ofList_toList, normalize_component first]
    rfl
  | some cell =>
    rw [List.splitOn_append_cons_self_of_not_mem (apart first),
      List.splitOn_append_cons_self_of_not_mem word,
      List.splitOn_eq_singleton (apart (second cell rfl))]
    simp only [List.map_cons, List.map_nil, String.ofList_toList, normalize_component first,
      normalize_component (second cell rfl)]
    rfl

theorem component_of_parse {value enodeb : String} {cell : Option String}
    (read : parseLteResourceId value = .ok (enodeb, cell)) :
    IsComponent enodeb ∧ ∀ c ∈ cell, IsComponent c := by
  unfold parseLteResourceId at read
  split at read
  · obtain ⟨first, normal, read⟩ := Checks.bind_ok.mp read
    cases read
    exact ⟨component_of_normalize normal, by simp⟩
  · obtain ⟨first, normal, read⟩ := Checks.bind_ok.mp read
    obtain ⟨second, normal', read⟩ := Checks.bind_ok.mp read
    cases read
    exact ⟨component_of_normalize normal, by simpa using component_of_normalize normal'⟩
  · cases read

/-! Resources in their canonical spelling. -/

structure SpelledBy (r : ResourceReference) (enodeb : String) (cell : Option String) : Prop where
  parsed : parseLteResourceId r.resourceId.text = .ok (enodeb, cell)
  resourceId : r.resourceId.text = lteText enodeb cell
  parent : r.parentResourceId.map (·.text) = cell.map fun _ => lteText enodeb none
  enodebId : r.externalIds.lookup "enodeb_id" = some enodeb
  cellId : ∀ c ∈ cell, r.externalIds.lookup "cell_id" = some c

def SpelledCanonically (r : ResourceReference) : Prop := ∃ enodeb cell, SpelledBy r enodeb cell

theorem parsed_text {s : String} {id : Identifier} (kept : strip s = s)
    (parsed : Identifier.parse s = some id) : id.text = s := by
  have trimmed := Text.Bounded.parse_eq_some.mp parsed
  have white := stripWhitespace_strip s
  rw [kept] at white
  exact trimmed.symm.trans white

theorem normalizedEnodeb_spelled {r n : ResourceReference} {enodeb : String} {cell : Option String}
    (first : IsComponent enodeb) (normalized : normalizedEnodeb r enodeb cell = .ok n) :
    SpelledBy n enodeb none ∧ (SpelledCanonically r →
      parseLteResourceId r.resourceId.text = .ok (enodeb, cell) → n = r) := by
  have none' : ∀ c ∈ (none : Option String), IsComponent c := by simp
  obtain ⟨alone, tail⟩ := Checks.seq_ok.mp normalized
  obtain ⟨rfl, orphan⟩ := Checks.require_ok.mp alone
  clear normalized
  rename' tail => normalized
  obtain ⟨id, canonical, normalized⟩ := Checks.bind_ok.mp normalized
  rw [canonicalResourceId_eq first none'] at canonical
  obtain rfl := Except.ok.inj canonical
  obtain ⟨-, normalized⟩ := Checks.seq_ok.mp normalized
  obtain ⟨-, normalized⟩ := Checks.seq_ok.mp normalized
  obtain ⟨resourceId, parsed, normalized⟩ := Checks.bind_ok.mp normalized
  have text := parsed_text (strip_lteText first none') (field_ok.mp parsed)
  obtain rfl := Except.ok.inj normalized
  constructor
  · refine ⟨?_, text, rfl, ?_, by simp⟩
    · rw [text, parse_lteText first none']
    · rw [lookup_setItem, if_pos rfl]
  · rintro ⟨enodeb', cell', spelled⟩ read
    rw [spelled.parsed] at read
    obtain ⟨rfl, rfl⟩ := Prod.mk.inj (Except.ok.inj read)
    have same : resourceId = r.resourceId := Text.Bounded.ext (text.trans spelled.resourceId.symm)
    rw [same, setItem_same spelled.enodebId, ← orphan]

theorem normalizedCell_spelled {r n : ResourceReference} {enodeb cell : String}
    (first : IsComponent enodeb) (second : IsComponent cell)
    (normalized : normalizedCell r enodeb cell = .ok n) :
    SpelledBy n enodeb (some cell) ∧ (SpelledCanonically r →
      parseLteResourceId r.resourceId.text = .ok (enodeb, some cell) → n = r) := by
  have none' : ∀ c ∈ (none : Option String), IsComponent c := by simp
  have some' : ∀ c ∈ some cell, IsComponent c := by simpa using second
  obtain ⟨id, canonical, normalized⟩ := Checks.bind_ok.mp normalized
  rw [canonicalResourceId_eq first some'] at canonical
  obtain rfl := Except.ok.inj canonical
  obtain ⟨parent, canonical, normalized⟩ := Checks.bind_ok.mp normalized
  rw [canonicalResourceId_eq first none'] at canonical
  obtain rfl := Except.ok.inj canonical
  obtain ⟨-, normalized⟩ := Checks.seq_ok.mp normalized
  obtain ⟨-, normalized⟩ := Checks.seq_ok.mp normalized
  obtain ⟨-, normalized⟩ := Checks.seq_ok.mp normalized
  obtain ⟨resourceId, parsed, normalized⟩ := Checks.bind_ok.mp normalized
  have text := parsed_text (strip_lteText first some') (field_ok.mp parsed)
  obtain ⟨parentId, parsed', normalized⟩ := Checks.bind_ok.mp normalized
  have parentText := parsed_text (strip_lteText first none') (field_ok.mp parsed')
  obtain rfl := Except.ok.inj normalized
  constructor
  · refine ⟨?_, text, ?_, ?_, ?_⟩
    · rw [text, parse_lteText first some']
    · simp [parentText]
    · rw [lookup_setItem, if_neg (by decide), lookup_setItem, if_pos rfl]
    · intro c inside
      obtain rfl := Option.some.inj inside
      rw [lookup_setItem, if_pos rfl]
  · rintro ⟨enodeb', cell', spelled⟩ read
    rw [spelled.parsed] at read
    obtain ⟨rfl, rfl⟩ := Prod.mk.inj (Except.ok.inj read)
    have same : resourceId = r.resourceId := Text.Bounded.ext (text.trans spelled.resourceId.symm)
    have above : some parentId = r.parentResourceId := by
      have told := spelled.parent
      cases held : r.parentResourceId with
      | none => simp [held] at told
      | some other =>
        rw [held] at told
        exact congrArg some (Text.Bounded.ext (parentText.trans (Option.some.inj told).symm))
    rw [same, above, setItem_same spelled.enodebId, setItem_same (spelled.cellId cell rfl)]

theorem normalized_spelled {r n : ResourceReference} (normalized : normalizedLteResource r = .ok n) :
    SpelledCanonically n ∧ (SpelledCanonically r → n = r) := by
  obtain ⟨-, normalized⟩ := Checks.seq_ok.mp normalized
  obtain ⟨-, normalized⟩ := Checks.seq_ok.mp normalized
  obtain ⟨⟨enodeb, cell⟩, read, normalized⟩ := Checks.bind_ok.mp normalized
  obtain ⟨first, second⟩ := component_of_parse read
  dsimp only at normalized
  split at normalized
  · obtain ⟨spelled, fixed⟩ := normalizedEnodeb_spelled first normalized
    exact ⟨⟨_, _, spelled⟩, fun canonical => fixed canonical read⟩
  · cases cell with
    | none => cases normalized
    | some cell =>
      obtain ⟨spelled, fixed⟩ := normalizedCell_spelled first (second cell rfl) normalized
      exact ⟨⟨_, _, spelled⟩, fun canonical => fixed canonical read⟩

theorem optional_exact {α : Type} {dump : α → Json} (each : ∀ a, Json.isExact (dump a) = true) :
    ∀ x : Option α, Json.isExact (optional dump x) = true
  | none => rfl
  | some a => each a

theorem stableIdentity_exact (r : ResourceReference) :
    Json.isExact r.stableIdentity = true := by
  have texts : Json.isExactFields (r.externalIds.map fun f => (f.1, Json.str f.2)) = true := by
    rw [Json.isExactFields_iff]
    rintro f inside
    obtain ⟨_, -, rfl⟩ := List.mem_map.mp inside
    rfl
  have technology := @optional_exact Technology (fun t => .str t.value) (fun _ => rfl) r.technology
  simp [ResourceReference.stableIdentity, Json.isExact, Json.isExactFields, dumpStrings, texts,
    optional_exact, dumpId, technology]

def identityFields (r : ResourceReference) : Dict :=
  [("resource_id", .str r.resourceId.text), ("resource_type", .str r.resourceType.value),
   ("technology", Json.canon (optional (fun t => .str t.value) r.technology)),
   ("vendor_profile", Json.canon (optional dumpId r.vendorProfile)),
   ("location_id", Json.canon (optional dumpId r.locationId)),
   ("parent_resource_id", Json.canon (optional dumpId r.parentResourceId)),
   ("external_ids", Json.canon (dumpStrings r.externalIds))]

theorem canon_dumpStrings (fields : List (String × String)) :
    Json.canon (dumpStrings fields) =
      .obj ((Json.sortFields fields).map fun f => (f.1, .str f.2)) := by
  rw [dumpStrings, Json.canon, Json.canonFields_eq, List.map_map, ← Json.sortFields_map]
  rfl

theorem identity_fields {h : Host} {a b : ResourceReference}
    (same : canonicalResourceIdentity h a = canonicalResourceIdentity h b) :
    a.resourceId = b.resourceId ∧ a.parentResourceId = b.parentResourceId ∧
      ∀ key, a.externalIds.lookup key = b.externalIds.lookup key := by
  have values := Json.canon_eq_of_bytes_eq (stableIdentity_exact a) (stableIdentity_exact b) same
  have sorted : Json.sortFields (identityFields a) = Json.sortFields (identityFields b) :=
    Json.obj.inj values
  have once : ((identityFields a).map Prod.fst).Nodup := by simp [identityFields]
  have keys : (identityFields a).map Prod.fst = (identityFields b).map Prod.fst := rfl
  have fields := Json.eq_of_sortFields_eq once keys sorted
  simp only [identityFields, List.cons.injEq, Prod.mk.injEq, true_and, and_true] at fields
  obtain ⟨id, -, -, -, -, parent, external⟩ := fields
  refine ⟨Text.Bounded.ext (Json.str.inj id), ?_, fun key => ?_⟩
  · cases first : a.parentResourceId with
    | none => cases second : b.parentResourceId with
      | none => rfl
      | some q => rw [first, second] at parent; cases parent
    | some p => cases second : b.parentResourceId with
      | none => rw [first, second] at parent; cases parent
      | some q =>
        rw [first, second] at parent
        exact congrArg some (Text.Bounded.ext (Json.str.inj parent))
  · rw [canon_dumpStrings, canon_dumpStrings] at external
    have found := congrArg (List.lookup key) (Json.obj.inj external)
    rw [Items.lookup_map, Items.lookup_map, Items.lookup_sortFields, Items.lookup_sortFields] at found
    exact Option.map_injective (fun _ _ => Json.str.inj) found

theorem spelled_of_identity {h : Host} {a b : ResourceReference}
    (same : canonicalResourceIdentity h a = canonicalResourceIdentity h b)
    (spelled : SpelledCanonically a) : SpelledCanonically b := by
  obtain ⟨enodeb, cell, spelled⟩ := spelled
  obtain ⟨id, parent, external⟩ := identity_fields same
  refine ⟨enodeb, cell, ?_, ?_, ?_, ?_, ?_⟩
  · rw [← id]; exact spelled.parsed
  · rw [← id]; exact spelled.resourceId
  · rw [← parent]; exact spelled.parent
  · rw [← external]; exact spelled.enodebId
  · intro c inside
    rw [← external]; exact spelled.cellId c inside

/-- The scope that a reference names is the one the check expects exactly when the incident
spells its resources canonically. -/
theorem scope_matches_iff {h : Host} {i : Incident} {scope : List Json}
    (named : evidenceResourceScope i.affectedResources = .ok scope) :
    scope.map h.canonicalJson = expectedResourceScope h i ↔
      ∀ r ∈ i.affectedResources, SpelledCanonically r := by
  obtain ⟨normalized, every, named⟩ := Checks.bind_ok.mp named
  obtain ⟨-, named⟩ := Checks.seq_ok.mp named
  obtain rfl := Except.ok.inj named
  constructor
  · intro same r inside
    have sorted : r ∈ i.affectedResources.insertionSort
        fun a b => textLe a.resourceId.text b.resourceId.text := (List.mem_insertionSort _).mpr inside
    have member : canonicalResourceIdentity h r ∈ expectedResourceScope h i :=
      List.mem_map_of_mem sorted
    rw [← same, List.map_map] at member
    obtain ⟨n, here, identity⟩ := List.mem_map.mp member
    obtain ⟨source, -, read⟩ := Checks.mapM_source every ((List.mem_insertionSort _).mp here)
    exact spelled_of_identity identity (normalized_spelled read).1
  · intro spelled
    have fixed : normalized = i.affectedResources := by
      have pairs := (Checks.mapM_ok.mp every).imp_mem fun {r n} inside _ read =>
        (normalized_spelled read).2 (spelled r inside)
      have equal : List.Forall₂ Eq normalized i.affectedResources := pairs.flip
      rwa [List.forall₂_eq_eq_eq] at equal
    rw [fixed, List.map_map]
    rfl

/-! The references. -/

structure Scoped (scope : List Json) (start stop : Instant) (e : EvidenceReference) : Prop where
  resources : getValue e.attributes "resource_scope" = some (.arr scope)
  windowStart : getValue e.attributes "window_start" = some (isoformat start)
  windowEnd : getValue e.attributes "window_end" = some (isoformat stop)
  collectedAt : e.collectedAt = some stop

theorem telemetryReference_ok {digest table kind summary : String} {evidenceType : EvidenceType}
    {collectedAt : Instant} {attributes : Dict} {e : EvidenceReference}
    (built : telemetryReference digest table kind evidenceType summary collectedAt attributes =
      .ok e) : e.attributes = attributes ∧ e.collectedAt = some collectedAt := by
  obtain ⟨_, -, built⟩ := Checks.bind_ok.mp built
  obtain ⟨_, -, built⟩ := Checks.bind_ok.mp built
  obtain ⟨_, -, built⟩ := Checks.bind_ok.mp built
  obtain ⟨_, -, built⟩ := Checks.bind_ok.mp built
  obtain rfl := Except.ok.inj built
  exact ⟨rfl, rfl⟩

theorem metricEvidence_scoped {h : Host} {t : Telemetry} {selected : List KpiObservation}
    {uplink : Option ℚ} {scope : List Json} {truncated : Bool} {start stop : Instant}
    {kpiName : String} {e : EvidenceReference}
    (built : metricEvidence h t selected uplink scope truncated start stop kpiName = .ok (some e)) :
    Scoped scope start stop e := by
  unfold metricEvidence at built
  split at built
  · cases built
  · obtain ⟨reference, made, built⟩ := Checks.bind_ok.mp built
    obtain rfl := Option.some.inj (Except.ok.inj built)
    obtain ⟨attributes, collected⟩ := telemetryReference_ok made
    refine ⟨?_, ?_, ?_, collected⟩ <;> rw [attributes] <;> rfl

theorem metricEvidence_none {h : Host} {t : Telemetry} {selected : List KpiObservation}
    {uplink : Option ℚ} {scope : List Json} {truncated : Bool} {start stop : Instant}
    {kpiName : String} {answer : Option EvidenceReference}
    (built : metricEvidence h t selected uplink scope truncated start stop kpiName = .ok answer) :
    answer = none ↔ ∀ o ∈ selected, o.kpiName.text ≠ kpiName := by
  unfold metricEvidence at built
  split at built
  · rename_i empty
    obtain rfl := Except.ok.inj built
    simpa using empty
  · rename_i sample samples found
    obtain ⟨reference, -, built⟩ := Checks.bind_ok.mp built
    obtain rfl := Except.ok.inj built
    have member : sample ∈ selected.filter (·.kpiName.text = kpiName) := by simp [found]
    obtain ⟨inside, same⟩ := List.mem_filter.mp member
    constructor
    · intro absent
      cases absent
    · intro others
      exact absurd (of_decide_eq_true same) (others sample inside)

theorem traceEvidence_scoped {h : Host} {t : Telemetry} {pairs : List CellPair} {scope : List Json}
    {start stop : Instant} {e : EvidenceReference}
    (built : traceEvidence h t pairs scope start stop = .ok (some e)) :
    Scoped scope start stop e := by
  unfold traceEvidence at built
  split at built
  · cases built
  · obtain ⟨rows, -, built⟩ := Checks.bind_ok.mp built
    split at built
    · cases built
    · obtain ⟨reference, made, built⟩ := Checks.bind_ok.mp built
      obtain rfl := Option.some.inj (Except.ok.inj built)
      obtain ⟨attributes, collected⟩ := telemetryReference_ok made
      refine ⟨?_, ?_, ?_, collected⟩ <;> rw [attributes] <;> rfl

theorem traceEvidence_none {h : Host} {t : Telemetry} {pairs : List CellPair} {scope : List Json}
    {start stop : Instant} {answer : Option EvidenceReference}
    (built : traceEvidence h t pairs scope start stop = .ok answer) :
    answer = none ↔ pairs = [] ∨ t.cellTraces pairs start stop = .ok [] := by
  unfold traceEvidence at built
  split at built
  · rename_i empty
    obtain rfl := Except.ok.inj built
    simp [empty]
  · rename_i some
    obtain ⟨rows, read, built⟩ := Checks.bind_ok.mp built
    split at built
    · rename_i empty
      obtain rfl := Except.ok.inj built
      simp [read, empty]
    · rename_i full
      obtain ⟨reference, -, built⟩ := Checks.bind_ok.mp built
      obtain rfl := Except.ok.inj built
      simp [read, some, full]

/-! The check of a collected reference. -/

/-- The incident names its resources in canonical spelling and has a window, and the window that
was read touches one of its violations, if they state any window at all. -/
structure Usable (i : Incident) (start stop : Instant) : Prop where
  named : i.affectedResources ≠ []
  spelled : ∀ r ∈ i.affectedResources, SpelledCanonically r
  window : i.windowStart.isSome = true ∧ i.windowEnd.isSome = true
  overlap : overlapsViolation i start stop = true

theorem scope_shape {resources : List ResourceReference} {scope : List Json}
    (named : evidenceResourceScope resources = .ok scope) :
    scope.length = resources.length ∧ ∀ entry ∈ scope, Rca.isMapping entry = true := by
  obtain ⟨normalized, every, named⟩ := Checks.bind_ok.mp named
  obtain ⟨-, named⟩ := Checks.seq_ok.mp named
  obtain rfl := Except.ok.inj named
  constructor
  · rw [List.length_map, List.length_insertionSort, (Checks.mapM_ok.mp every).length_eq]
  · intro entry inside
    obtain ⟨r, -, rfl⟩ := List.mem_map.mp inside
    rfl

theorem resourceScopeIssue_none {h : Host} {i : Incident} {scope : List Json} {start stop : Instant}
    {e : EvidenceReference} (confined : Scoped scope start stop e)
    (named : evidenceResourceScope i.affectedResources = .ok scope) :
    resourceScopeIssue h e.attributes i = none ↔
      i.affectedResources ≠ [] ∧ ∀ r ∈ i.affectedResources, SpelledCanonically r := by
  obtain ⟨size, mappings⟩ := scope_shape named
  rw [resourceScopeIssue, confined.resources, ← scope_matches_iff named (h := h)]
  dsimp only
  cases resources : i.affectedResources with
  | nil =>
    rw [resources, List.length_nil, List.length_eq_zero_iff] at size
    simp [size]
  | cons r rest =>
    have some : scope ≠ [] := by
      rintro rfl
      simp [resources] at size
    have expected : expectedResourceScope h i ≠ [] := by
      intro empty
      have length := congrArg List.length empty
      rw [expectedResourceScope, List.length_map, List.length_insertionSort, resources] at length
      simp at length
    have plain : scope.any (fun entry => !Rca.isMapping entry) = false := by
      rw [List.any_eq_false]
      intro entry inside
      simp [mappings entry inside]
    rw [if_neg (by simp [some, plain])]
    by_cases same : scope.map h.canonicalJson = expectedResourceScope h i
    · simp [expected, same]
    · simp [same]

theorem effectiveWindow_ok {i : Incident} {windowStart windowEnd : Option Instant}
    {start stop : Instant} (window : effectiveWindow i windowStart windowEnd = .ok (start, stop)) :
    start ≤ stop ∧ (∀ bound ∈ i.windowStart, bound ≤ start) ∧
      ∀ bound ∈ i.windowEnd, stop ≤ bound := by
  unfold effectiveWindow at window
  split at window
  · obtain ⟨order, window⟩ := Checks.seq_ok.mp window
    obtain ⟨lower, window⟩ := Checks.seq_ok.mp window
    obtain ⟨upper, window⟩ := Checks.seq_ok.mp window
    obtain ⟨rfl, rfl⟩ := Prod.mk.inj (Except.ok.inj window)
    exact ⟨Checks.require_ok.mp order, Checks.require_ok.mp lower, Checks.require_ok.mp upper⟩
  · cases window

theorem timeScopeIssue_none {i : Incident} {scope : List Json} {start stop : Instant}
    {e : EvidenceReference} (confined : Scoped scope start stop e) (order : start ≤ stop)
    (lower : ∀ bound ∈ i.windowStart, bound ≤ start) (upper : ∀ bound ∈ i.windowEnd, stop ≤ bound) :
    timeScopeIssue e i start stop = none ↔
      (i.windowStart.isSome = true ∧ i.windowEnd.isSome = true) ∧
        overlapsViolation i start stop = true := by
  unfold timeScopeIssue
  cases first : i.windowStart with
  | none => simp
  | some low =>
    cases second : i.windowEnd with
    | none => simp
    | some high =>
      have inside : ¬(start < low ∨ high < stop) := by
        rintro (early | late)
        · exact absurd (lower low first) (not_le_of_gt early)
        · exact absurd (upper high second) (not_le_of_gt late)
      have collected : ∀ t ∈ e.collectedAt, start ≤ t ∧ t ≤ stop := by
        rw [confined.collectedAt]
        rintro t here
        obtain rfl := Option.some.inj here
        exact ⟨order, le_refl _⟩
      dsimp only
      rw [if_neg inside, if_pos collected]
      cases overlapsViolation i start stop <;> simp

theorem scopeIssue_none {h : Host} {fromisoformat : String → Option Instant} {i : Incident}
    {scope : List Json} {windowStart windowEnd : Option Instant} {start stop : Instant}
    {e : EvidenceReference} (confined : Scoped scope start stop e)
    (named : evidenceResourceScope i.affectedResources = .ok scope)
    (window : effectiveWindow i windowStart windowEnd = .ok (start, stop))
    (readsStart : fromisoformat (isoText "+00:00" start) = some start)
    (readsStop : fromisoformat (isoText "+00:00" stop) = some stop) :
    telemetryScopeIssue h fromisoformat e i = none ↔ Usable i start stop := by
  obtain ⟨order, lower, upper⟩ := effectiveWindow_ok window
  have first := Rca.parseEvidenceTime_dumpTime readsStart
  have second := Rca.parseEvidenceTime_dumpTime readsStop
  rw [telemetryScopeIssue, Option.or_eq_none_iff, resourceScopeIssue_none confined named,
    confined.windowStart, confined.windowEnd]
  simp only [isoformat, first, second]
  rw [if_neg (not_lt_of_ge order), timeScopeIssue_none confined order lower upper]
  constructor
  · rintro ⟨⟨some, spelled⟩, present, overlap⟩
    exact ⟨some, spelled, present, overlap⟩
  · intro usable
    exact ⟨⟨usable.named, usable.spelled⟩, usable.window, usable.overlap⟩

/-- The telemetry has no sample of a violated KPI and no trace in the window. -/
structure Silent (h : Host) (t : Telemetry) (i : Incident) (start stop : Instant) (limit : Nat) :
    Prop where
  samples : ∀ normalized observations,
    i.affectedResources.mapM normalizedLteResource = .ok normalized →
    incidentObservations h t (violatedKpiNames i) (normalized.map (·.resourceId.text)) start stop
      limit = .ok observations →
    ∀ o ∈ observations.take limit, o.kpiName.text ∉ violatedKpiNames i
  traces : ∀ pairs, cellScope i.affectedResources = .ok pairs →
    pairs = [] ∨ t.cellTraces pairs start stop = .ok []

theorem collectEvidence_ok {h : Host} {t : Telemetry} {i : Incident}
    {windowStart windowEnd : Option Instant} {limit : Nat} {start stop : Instant}
    {evidence : List EvidenceReference} (lte : i.technology = .lte)
    (window : effectiveWindow i windowStart windowEnd = .ok (start, stop))
    (collected : collectEvidence h t i windowStart windowEnd limit = .ok evidence) :
    ∃ scope, evidenceResourceScope i.affectedResources = .ok scope ∧
      (∀ e ∈ evidence, Scoped scope start stop e) ∧
      (evidence = [] ↔ Silent h t i start stop limit) := by
  obtain ⟨bounds, collected⟩ := Checks.seq_ok.mp collected
  obtain ⟨-, collected⟩ := Checks.seq_ok.mp collected
  rw [if_neg (by simp [lte]), window] at collected
  obtain ⟨_, same, collected⟩ := Checks.bind_ok.mp collected
  obtain rfl := Except.ok.inj same
  obtain ⟨pairs, cells, collected⟩ := Checks.bind_ok.mp collected
  obtain ⟨scope, named, collected⟩ := Checks.bind_ok.mp collected
  obtain ⟨normalized, every, collected⟩ := Checks.bind_ok.mp collected
  obtain ⟨observations, queried, collected⟩ := Checks.bind_ok.mp collected
  obtain ⟨uplink, -, collected⟩ := Checks.bind_ok.mp collected
  obtain ⟨metrics, measured, collected⟩ := Checks.bind_ok.mp collected
  obtain ⟨trace, traced, collected⟩ := Checks.bind_ok.mp collected
  obtain ⟨-, collected⟩ := Checks.seq_ok.mp collected
  obtain rfl := Except.ok.inj collected
  have positive : limit ≠ 0 := by
    have low := (Checks.require_ok.mp bounds).1
    omega
  refine ⟨scope, named, ?_, ?_⟩
  · intro e inside
    rcases List.mem_append.mp (List.mem_of_mem_take inside) with metric | last
    · obtain ⟨answer, member, rfl⟩ := List.mem_filterMap.mp metric
      obtain ⟨name, -, built⟩ := Checks.mapM_source measured member
      exact metricEvidence_scoped built
    · rw [Option.mem_toList] at last
      rw [last] at traced
      exact traceEvidence_scoped traced
  · have silent : (∀ answer ∈ metrics, answer = none) ↔
        ∀ name ∈ violatedKpiNames i, ∀ o ∈ observations.take limit, o.kpiName.text ≠ name := by
      constructor
      · intro nothing name inside
        obtain ⟨answer, member, built⟩ := Checks.mapM_mem measured inside
        exact (metricEvidence_none built).mp (nothing answer member)
      · intro absent answer member
        obtain ⟨name, inside, built⟩ := Checks.mapM_source measured member
        exact (metricEvidence_none built).mpr (absent name inside)
    have empty : (metrics.filterMap id ++ trace.toList).take limit = [] ↔
        (∀ answer ∈ metrics, answer = none) ∧ trace = none := by
      rw [List.take_eq_nil_iff, or_iff_right positive, List.append_eq_nil_iff,
        List.filterMap_eq_nil_iff]
      simp
    rw [empty, silent, traceEvidence_none traced]
    constructor
    · rintro ⟨absent, quiet⟩
      refine ⟨fun normalized' observations' every' read o inside named => ?_,
        fun pairs' cells' => ?_⟩
      · rw [every] at every'
        obtain rfl := Except.ok.inj every'
        rw [read] at queried
        obtain rfl := Except.ok.inj queried
        exact absent _ named o inside rfl
      · rw [cells] at cells'
        obtain rfl := Except.ok.inj cells'
        exact quiet
    · intro quiet
      refine ⟨fun name inside o member same => ?_, quiet.traces pairs cells⟩
      exact quiet.samples normalized observations every queried o member (same ▸ inside)

/-- The scope check passes every reference of a collection exactly when there was nothing to
collect or the incident is usable. -/
theorem collected_usable_iff (h : Host) (t : Telemetry) (fromisoformat : String → Option Instant)
    (i : Incident) (windowStart windowEnd : Option Instant) (limit : Nat)
    (evidence : List EvidenceReference) (start stop : Instant) (lte : i.technology = .lte)
    (window : effectiveWindow i windowStart windowEnd = .ok (start, stop))
    (collected : collectEvidence h t i windowStart windowEnd limit = .ok evidence)
    (readsStart : fromisoformat (isoText "+00:00" start) = some start)
    (readsStop : fromisoformat (isoText "+00:00" stop) = some stop) :
    (∀ e ∈ evidence, telemetryScopeIssue h fromisoformat e i = none) ↔
      Silent h t i start stop limit ∨ Usable i start stop := by
  obtain ⟨scope, named, made, empty⟩ := collectEvidence_ok lte window collected
  have each : ∀ e ∈ evidence, (telemetryScopeIssue h fromisoformat e i = none ↔
      Usable i start stop) :=
    fun e inside => scopeIssue_none (made e inside) named window readsStart readsStop
  rw [← empty]
  constructor
  · intro passes
    cases evidence with
    | nil => exact .inl rfl
    | cons e rest =>
      exact .inr ((each e List.mem_cons_self).mp (passes e List.mem_cons_self))
  · rintro (rfl | usable) e inside
    · cases inside
    · exact (each e inside).mpr usable

namespace Collected

def paddedCell : ResourceReference where
  resourceId := .ofText "lte:enodeb:001:cell:02" (by decide)
  resourceType := .cell
  technology := some .lte

def incident : Incident where
  incidentId := .ofText "incident-1" fits_incident1
  technology := .lte
  affectedResources := [paddedCell]
  detectedAt := 0
  windowStart := some 0
  windowEnd := some 0
  traceId := .ofText "trace-1" fits_trace1
  createdAt := 0
  updatedAt := 0

/-- One trace with a successful setup, and no KPI. -/
def telemetry : Telemetry where
  performanceKpi _ := .ok []
  uplinkRssi _ _ _ := .ok none
  cellTraces _ _ _ := .ok [(.success, 1)]
  mean _ := 0
  ratio _ _ := 0

def fromisoformat (s : String) : Option Instant :=
  if s = "1970-01-01T00:00:00+00:00" then some 0 else none

theorem reads : fromisoformat (isoText "+00:00" 0) = some 0 := by decide

theorem issues : (collectEvidence Host.ascii telemetry incident none none 10).toOption.map
      (fun evidence => evidence.map fun e => telemetryScopeIssue Host.ascii fromisoformat e incident) =
    some [some .resourceScopeMismatch] := by decide +kernel

theorem toOption_map_some {ε α β : Type} {x : Except ε α} {f : α → β} {b : β}
    (answer : x.toOption.map f = some b) : ∃ a, x = .ok a ∧ f a = b := by
  cases x with
  | error _ => cases answer
  | ok a => exact ⟨a, rfl, Option.some.inj answer⟩

theorem collects : ∃ evidence,
    collectEvidence Host.ascii telemetry incident none none 10 = .ok evidence ∧
      (evidence.map fun e => telemetryScopeIssue Host.ascii fromisoformat e incident) =
        [some .resourceScopeMismatch] := toOption_map_some issues

end Collected

open Collected in
theorem collected_usable_iff_padded : ∃ evidence,
    collectEvidence Host.ascii telemetry incident none none 10 = .ok evidence ∧
      ((∀ e ∈ evidence, telemetryScopeIssue Host.ascii fromisoformat e incident = none) ↔
        Silent Host.ascii telemetry incident 0 0 10 ∨ Usable incident 0 0) := by
  obtain ⟨evidence, collected, -⟩ := collects
  exact ⟨evidence, collected, collected_usable_iff Host.ascii telemetry fromisoformat incident none
    none 10 evidence 0 0 rfl rfl collected reads reads⟩

open Collected in
theorem collected_evidence_refused : ∃ evidence,
    collectEvidence Host.ascii telemetry incident none none 10 = .ok evidence ∧
      ¬∀ e ∈ evidence, telemetryScopeIssue Host.ascii fromisoformat e incident = none := by
  obtain ⟨evidence, collected, found⟩ := collects
  refine ⟨evidence, collected, fun passes => ?_⟩
  have none' : (evidence.map fun e => telemetryScopeIssue Host.ascii fromisoformat e incident) =
      evidence.map fun _ => none := List.map_congr_left passes
  rw [none'] at found
  cases evidence with
  | nil => cases found
  | cons e rest => cases found

end NetworkAgent.Local
