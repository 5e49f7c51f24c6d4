import NetworkAgent.Library.Scalars
import NetworkAgent.Library.Table
import NetworkAgent.Domain.Dump

/-! The facts that a root-cause analysis reads off its evidence: every reference proposes values
for named facts, and a name keeps the value on which its candidates agree. -/
namespace NetworkAgent.Rca

/-- Lower case, and the quotient of two counts as a binary64 number. -/
structure Builtins where
  lower : String → String
  divide : Int → Int → ℚ

abbrev Candidates := Table String (Table (List Nat) Json)

/-- `add`: the values of a name, by their canonical text. -/
def addCandidate (h : Host) (candidates : Candidates) (candidate : String × Json) : Candidates :=
  if candidate.2.isScalar then
    candidates.insert candidate.1 (((candidates.lookup candidate.1).getD ∅).insert
      (h.canonicalJson candidate.2) candidate.2)
  else candidates

def statedFacts (attributes : Dict) : List (String × Json) :=
  match attributes.lookup "facts" with
  | some (.obj facts) => facts
  | _ => []

def outcomeCounts (attributes : Dict) : Option Dict :=
  match attributes.lookup "outcome_counts" with
  | some (.obj counts) => some counts
  | _ => match attributes.lookup "connection_outcomes" with
    | some (.obj counts) => some counts
    | _ => none

/-- A count is a whole number, and not a flag. -/
def normalizedCounts (counts : Dict) : List (String × Int) :=
  counts.filterMap fun
    | (name, .int count) => if 0 ≤ count then some (name, count) else none
    | _ => none

def countOf (counts : List (String × Int)) (name : String) : Int := (counts.lookup name).getD 0

def countedFacts (b : Builtins) (counts : List (String × Int)) : List (String × Json) :=
  let securityFailures := countOf counts "FAILED_SECURITY_SETUP"
  let failureCount := securityFailures + countOf counts "FAILURE"
  counts.map (fun c => ("outcome_count." ++ b.lower c.1, .int c.2)) ++
    [("failed_security_setup_count", .int securityFailures), ("failure_count", .int failureCount)] ++
      if failureCount ≠ 0 then
        [("failed_security_setup_ratio", .float (b.divide securityFailures failureCount))]
      else []

/-- What one reference proposes, in the order in which it is added. -/
def proposedFacts (b : Builtins) (item : EvidenceReference) : List (String × Json) :=
  statedFacts item.attributes ++ match outcomeCounts item.attributes with
    | some counts => countedFacts b (normalizedCounts counts)
    | none => []

/-- The order of `(evidence_type, evidence_id)`. -/
def factLe (x y : EvidenceReference) : Bool :=
  if x.evidenceType ≠ y.evidenceType then textLe x.evidenceType.value y.evidenceType.value
  else textLe x.evidenceId.text y.evidenceId.text

def factCandidates (h : Host) (b : Builtins) (evidence : List EvidenceReference) : Candidates :=
  ((evidence.insertionSort fun x y => factLe x y).flatMap (proposedFacts b)).foldl
    (addCandidate h) ∅

def agreedValue (values : Table (List Nat) Json) : Option Json :=
  match values.values with
  | [value] => some value
  | _ => none

def mergeFactCandidates (h : Host) (b : Builtins) (evidence : List EvidenceReference) :
    List (String × Json) :=
  (factCandidates h b evidence).rows.filterMap fun r => (agreedValue r.2).map fun v => (r.1, v)

/-! What the candidates hold. -/

/-- The candidates hold what was proposed: each scalar under its name and its text, and nothing
else. -/
structure Gathers (h : Host) (added : List (String × Json)) (candidates : Candidates) : Prop where
  proposed : ∀ name values text value, candidates.lookup name = some values →
    values.lookup text = some value →
      (name, value) ∈ added ∧ value.isScalar = true ∧ h.canonicalJson value = text
  held : ∀ name value, (name, value) ∈ added → value.isScalar = true →
    ∃ values, candidates.lookup name = some values ∧ h.canonicalJson value ∈ values
  filled : ∀ name values, candidates.lookup name = some values → values.values ≠ []

section
variable {h : Host} {added : List (String × Json)} {candidates : Candidates}

theorem gathers_nil : Gathers h [] ∅ where
  proposed name values text value known := by simp at known
  held name value member := by simp at member
  filled name values known := by simp at known

theorem Gathers.add (gathers : Gathers h added candidates) (candidate : String × Json) :
    Gathers h (added ++ [candidate]) (addCandidate h candidates candidate) := by
  obtain ⟨own, new⟩ := candidate
  by_cases scalar : new.isScalar = true
  · have stored : addCandidate h candidates (own, new) = candidates.insert own
        (((candidates.lookup own).getD ∅).insert (h.canonicalJson new) new) := if_pos scalar
    rw [stored]
    refine ⟨fun name values text value known found => ?_, fun name value member kept => ?_,
      fun name values known => ?_⟩
    · rcases Table.lookup_insert_iff.mp known with ⟨rfl, rfl⟩ | ⟨_, before⟩
      · rcases Table.lookup_insert_iff.mp found with ⟨rfl, rfl⟩ | ⟨_, older⟩
        · exact ⟨List.mem_append_right _ (List.mem_singleton.mpr rfl), scalar, rfl⟩
        · cases held : candidates.lookup name with
          | none => simp [held] at older
          | some old =>
            rw [held] at older
            obtain ⟨member, rest⟩ := gathers.proposed name old text value held older
            exact ⟨List.mem_append_left _ member, rest⟩
      · obtain ⟨member, rest⟩ := gathers.proposed name values text value before found
        exact ⟨List.mem_append_left _ member, rest⟩
    · by_cases same : name = own
      · subst same
        refine ⟨_, AList.lookup_insert _, (AList.mem_insert _).mpr ?_⟩
        rcases List.mem_append.mp member with older | last
        · obtain ⟨values, known, inside⟩ := gathers.held name value older kept
          exact .inr (by simpa [known] using inside)
        · obtain ⟨_, rfl⟩ := Prod.mk.inj (List.mem_singleton.mp last)
          exact .inl rfl
      · rw [AList.lookup_insert_ne same]
        rcases List.mem_append.mp member with older | last
        · exact gathers.held name value older kept
        · exact absurd (Prod.mk.inj (List.mem_singleton.mp last)).1 same
    · rcases Table.lookup_insert_iff.mp known with ⟨rfl, rfl⟩ | ⟨_, before⟩
      · have inside : new ∈ Table.values (((candidates.lookup name).getD ∅).insert
            (h.canonicalJson new) new) :=
          Table.mem_values.mpr ⟨h.canonicalJson new, AList.lookup_insert _⟩
        exact List.ne_nil_of_mem inside
      · exact gathers.filled name values before
  · have skipped : addCandidate h candidates (own, new) = candidates := if_neg scalar
    rw [skipped]
    refine ⟨fun name values text value known found => ?_, fun name value member kept => ?_,
      gathers.filled⟩
    · obtain ⟨member, rest⟩ := gathers.proposed name values text value known found
      exact ⟨List.mem_append_left _ member, rest⟩
    · rcases List.mem_append.mp member with older | last
      · exact gathers.held name value older kept
      · obtain ⟨_, rfl⟩ := Prod.mk.inj (List.mem_singleton.mp last)
        exact absurd kept scalar

theorem gathers_foldl (more : List (String × Json)) (gathers : Gathers h added candidates) :
    Gathers h (added ++ more) (more.foldl (addCandidate h) candidates) := by
  induction more generalizing added candidates with
  | nil => simpa using gathers
  | cons candidate rest ih => simpa using ih (gathers.add candidate)

theorem agreedValue_eq_some {values : Table (List Nat) Json} {value : Json}
    (own : ∀ text v, values.lookup text = some v → h.canonicalJson v = text)
    (filled : values.values ≠ []) :
    agreedValue values = some value ↔ ∀ text v, values.lookup text = some v → v = value := by
  constructor
  · intro agreed text v known
    have inside : v ∈ values.values := Table.mem_values.mpr ⟨text, known⟩
    unfold agreedValue at agreed
    split at agreed
    · next single =>
      rw [single] at inside
      cases agreed
      exact List.mem_singleton.mp inside
    · cases agreed
  · intro same
    have keys : ∀ k ∈ values.keys, k = h.canonicalJson value := by
      intro k member
      obtain ⟨v, known⟩ := Option.isSome_iff_exists.mp
        (AList.lookup_isSome.mpr (AList.mem_keys.mpr member))
      rw [← own k v known, same k v known]
    have few : values.values.length ≤ 1 := by
      have once : values.keys.length ≤ 1 := by
        have nodup := values.keys_nodup
        match listed : values.keys with
        | [] => simp
        | [_] => simp
        | k :: k' :: rest =>
          rw [listed] at keys nodup
          have equal := (keys k (by simp)).trans (keys k' (by simp)).symm
          simp [equal] at nodup
      simpa [Table.values, AList.keys, List.keys] using once
    obtain ⟨v, rest, listed⟩ := List.exists_cons_of_ne_nil filled
    have none : rest = [] := by
      rw [listed, List.length_cons] at few
      exact List.length_eq_zero_iff.mp (by omega)
    subst none
    obtain ⟨text, known⟩ := Table.mem_values.mp (listed ▸ List.mem_singleton.mpr rfl)
    unfold agreedValue
    rw [listed, same text v known]

end

def Proposes (b : Builtins) (item : EvidenceReference) (name : String) (value : Json) : Prop :=
  (name, value) ∈ proposedFacts b item ∧ value.isScalar = true

section
variable {h : Host} {b : Builtins} {evidence : List EvidenceReference}

theorem factCandidates_gathers : Gathers h ((evidence.insertionSort fun x y => factLe x y).flatMap
    (proposedFacts b)) (factCandidates h b evidence) := by
  have gathers := gathers_foldl ((evidence.insertionSort fun x y => factLe x y).flatMap
    (proposedFacts b)) (gathers_nil (h := h))
  rwa [List.nil_append] at gathers

theorem proposes_iff {name : String} {value : Json} :
    ((name, value) ∈ (evidence.insertionSort fun x y => factLe x y).flatMap (proposedFacts b) ∧
      value.isScalar = true) ↔ ∃ item ∈ evidence, Proposes b item name value := by
  simp only [List.mem_flatMap, List.mem_insertionSort, Proposes]
  constructor
  · rintro ⟨⟨item, member, proposed⟩, scalar⟩
    exact ⟨item, member, proposed, scalar⟩
  · rintro ⟨item, member, proposed, scalar⟩
    exact ⟨⟨item, member, proposed⟩, scalar⟩

theorem mem_mergeFactCandidates {name : String} {value : Json} :
    (name, value) ∈ mergeFactCandidates h b evidence ↔
      ∃ values, (factCandidates h b evidence).lookup name = some values ∧
        agreedValue values = some value := by
  simp only [mergeFactCandidates, List.mem_filterMap, Option.map_eq_some_iff, Prod.mk.injEq]
  constructor
  · rintro ⟨⟨own, values⟩, row, v, agreed, rfl, rfl⟩
    exact ⟨values, Table.mem_rows.mp row, agreed⟩
  · rintro ⟨values, known, agreed⟩
    exact ⟨(name, values), Table.mem_rows.mpr known, value, agreed, rfl, rfl⟩

theorem mergeFactCandidates_iff (texts : Json.FloatTexts h.floatRepr) {name : String}
    {value : Json} : (name, value) ∈ mergeFactCandidates h b evidence ↔
      (∃ item ∈ evidence, Proposes b item name value) ∧
        ∀ item ∈ evidence, ∀ other, Proposes b item name other → other = value := by
  have gathers : Gathers h _ (factCandidates h b evidence) := factCandidates_gathers
  rw [mem_mergeFactCandidates]
  constructor
  · rintro ⟨values, known, agreed⟩
    have own := fun text v found => (gathers.proposed name values text v known found).2.2
    have same := (agreedValue_eq_some own (gathers.filled name values known)).mp agreed
    constructor
    · obtain ⟨v, inside⟩ := List.exists_mem_of_ne_nil _ (gathers.filled name values known)
      obtain ⟨text, found⟩ := Table.mem_values.mp inside
      obtain ⟨proposed, scalar, _⟩ := gathers.proposed name values text v known found
      rw [same text v found] at proposed scalar
      exact proposes_iff.mp ⟨proposed, scalar⟩
    · intro item member other proposes
      obtain ⟨proposed, scalar⟩ := proposes_iff.mpr ⟨item, member, proposes⟩
      obtain ⟨values', known', inside⟩ := gathers.held name other proposed scalar
      cases known.symm.trans known'
      obtain ⟨w, found⟩ := Option.isSome_iff_exists.mp (AList.lookup_isSome.mpr inside)
      obtain ⟨_, scalar', text⟩ := gathers.proposed name values _ w known found
      rw [← Json.scalar_eq_of_bytes texts scalar' scalar text]
      exact same _ w found
  · rintro ⟨⟨item, member, proposes⟩, same⟩
    obtain ⟨proposed, scalar⟩ := proposes_iff.mpr ⟨item, member, proposes⟩
    obtain ⟨values, known, _⟩ := gathers.held name value proposed scalar
    refine ⟨values, known, (agreedValue_eq_some
      (fun text v found => (gathers.proposed name values text v known found).2.2)
      (gathers.filled name values known)).mpr fun text v found => ?_⟩
    obtain ⟨proposed', scalar', _⟩ := gathers.proposed name values text v known found
    obtain ⟨other, member', proposes'⟩ := proposes_iff.mp ⟨proposed', scalar'⟩
    exact same other member' v proposes'

theorem mergeFactCandidates_nodup : ((mergeFactCandidates h b evidence).map Prod.fst).Nodup := by
  have keys : ((factCandidates h b evidence).rows.map Prod.fst).Nodup := by
    rw [Table.rows, List.map_map]
    exact (factCandidates h b evidence).keys_nodup
  refine List.Nodup.sublist ?_ keys
  unfold mergeFactCandidates
  induction (factCandidates h b evidence).rows with
  | nil => exact List.Sublist.slnil
  | cons r rest ih =>
    cases agreed : agreedValue r.2 with
    | none => simpa [agreed] using ih.cons r.1
    | some v => simpa [agreed] using ih.cons_cons r.1

theorem mergeFactCandidates_perm (texts : Json.FloatTexts h.floatRepr)
    {other : List EvidenceReference} (perm : evidence.Perm other) :
    (mergeFactCandidates h b evidence).Perm (mergeFactCandidates h b other) := by
  refine (List.perm_ext_iff_of_nodup (List.Nodup.of_map _ mergeFactCandidates_nodup)
    (List.Nodup.of_map _ mergeFactCandidates_nodup)).mpr fun fact => ?_
  rw [mergeFactCandidates_iff texts, mergeFactCandidates_iff texts]
  simp only [perm.mem_iff]

end

def Disagrees (b : Builtins) (evidence : List EvidenceReference) (name : String) : Prop :=
  ∃ item ∈ evidence, ∃ item' ∈ evidence, ∃ value value', Proposes b item name value ∧
    Proposes b item' name value' ∧ value ≠ value'

structure MergesFacts (h : Host) (b : Builtins) (evidence : List EvidenceReference) : Prop where
  order : ∀ other, evidence.Perm other →
    (mergeFactCandidates h b evidence).Perm (mergeFactCandidates h b other)
  once : ((mergeFactCandidates h b evidence).map Prod.fst).Nodup
  supported : ∀ fact ∈ mergeFactCandidates h b evidence,
    ∃ item ∈ evidence, Proposes b item fact.1 fact.2
  uncontradicted : ∀ fact ∈ mergeFactCandidates h b evidence, ∀ item ∈ evidence, ∀ value,
    Proposes b item fact.1 value → value = fact.2
  omitted : ∀ name, Disagrees b evidence name →
    name ∉ (mergeFactCandidates h b evidence).map Prod.fst
  kept : ∀ item ∈ evidence, ∀ name value, Proposes b item name value →
    ¬ Disagrees b evidence name → (name, value) ∈ mergeFactCandidates h b evidence

theorem merges_facts (h : Host) (b : Builtins) (texts : Json.FloatTexts h.floatRepr)
    (evidence : List EvidenceReference) : MergesFacts h b evidence where
  order _ perm := mergeFactCandidates_perm texts perm
  once := mergeFactCandidates_nodup
  supported _ member := ((mergeFactCandidates_iff texts).mp member).1
  uncontradicted _ member := ((mergeFactCandidates_iff texts).mp member).2
  omitted name := by
    rintro ⟨item, known, item', known', value, value', proposes, proposes', differ⟩ listed
    obtain ⟨fact, member, rfl⟩ := List.mem_map.mp listed
    have same := ((mergeFactCandidates_iff texts).mp member).2
    exact differ ((same item known value proposes).trans (same item' known' value' proposes').symm)
  kept item known name value proposes agree := by
    refine (mergeFactCandidates_iff texts).mpr ⟨⟨item, known, proposes⟩, ?_⟩
    intro item' known' other proposes'
    by_contra differ
    exact agree ⟨item', known', item, known, other, value, proposes', proposes, differ⟩

namespace Conflicting

def host : Host := { Host.ascii with floatRepr := Json.decimalText }

def builtins : Builtins where
  lower s := s.map Char.toLower
  divide a b := a / b

def reference (id : Identifier) (value : Int) : EvidenceReference where
  evidenceId := id
  evidenceType := .metric
  uri := .ofText "urn:evidence" (by decide)
  attributes := [("facts", .obj [("kpi", .int value)])]

def evidence : List EvidenceReference :=
  [reference (.ofText "evidence-1" fits_evidence1) 1,
    reference (.ofText "evidence-2" (by decide)) 2]

theorem disagrees : Disagrees builtins evidence "kpi" := by
  refine ⟨_, List.mem_cons_self, _, List.mem_cons_of_mem _ List.mem_cons_self, .int 1, .int 2, ?_, ?_,
    by decide⟩
  · exact ⟨by simp [proposedFacts, statedFacts, reference], rfl⟩
  · exact ⟨by simp [proposedFacts, statedFacts, reference], rfl⟩

end Conflicting

theorem merges_facts_conflicting :
    MergesFacts Conflicting.host Conflicting.builtins Conflicting.evidence :=
  merges_facts Conflicting.host Conflicting.builtins Json.decimalText_texts Conflicting.evidence

/-- Nothing in the merged facts tells a conflict from a fact that no reference proposes. -/
theorem conflict_not_reported : ¬ ∃ reported : List (String × Json) → List String,
    ∀ evidence name, name ∈ reported (mergeFactCandidates Conflicting.host Conflicting.builtins
      evidence) ↔ Disagrees Conflicting.builtins evidence name := by
  rintro ⟨reported, reports⟩
  have nothing : mergeFactCandidates Conflicting.host Conflicting.builtins Conflicting.evidence =
      mergeFactCandidates Conflicting.host Conflicting.builtins [] := by
    decide
  have listed := (reports Conflicting.evidence "kpi").mpr Conflicting.disagrees
  rw [nothing] at listed
  obtain ⟨_, none, _⟩ := (reports [] "kpi").mp listed
  cases none

end NetworkAgent.Rca
