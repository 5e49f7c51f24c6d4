import NetworkAgent.Local.Usable
import NetworkAgent.Supervisor.Parts

/-! The supervisor's own test of the resources of a scan against the canonical identifiers of the
local profile. The supervisor takes every character for a digit that the runtime can read as one. -/
namespace NetworkAgent.Supervisor
open Local (IsComponent lteText parseLteResourceId canonicalResourceId lteIdentifierMax)

/-- Parsing succeeds, and the canonical form of what was read is the text itself. -/
def IsCanonicalLte (s : String) : Prop :=
  ∃ enodeb cell, parseLteResourceId s = .ok (enodeb, cell) ∧ canonicalResourceId enodeb cell = .ok s

theorem isCanonicalLte_iff {s : String} : IsCanonicalLte s ↔
    ∃ enodeb cell, (IsComponent enodeb ∧ ∀ c ∈ cell, IsComponent c) ∧ s = lteText enodeb cell := by
  constructor
  · rintro ⟨enodeb, cell, read, canonical⟩
    have normal := Local.component_of_parse read
    rw [Local.canonicalResourceId_eq normal.1 normal.2] at canonical
    exact ⟨enodeb, cell, normal, (Except.ok.inj canonical).symm⟩
  · rintro ⟨enodeb, cell, ⟨first, second⟩, rfl⟩
    exact ⟨enodeb, cell, Local.parse_lteText first second, Local.canonicalResourceId_eq first second⟩

/-! Decimal texts without leading zeros. -/

theorem isDigit_bounds {c : Char} (digit : c.isDigit = true) : 48 ≤ c.toNat ∧ c.toNat ≤ 57 := by
  simp only [Char.isDigit, Bool.and_eq_true, decide_eq_true_eq, ge_iff_le,
    UInt32.le_iff_toNat_le] at digit
  exact digit

theorem digit_eq {c : Char} (digit : c.isDigit = true) :
    c.toNat - '0'.toNat < 10 ∧ Nat.digitChar (c.toNat - '0'.toNat) = c := by
  have bounds := isDigit_bounds digit
  have zero : '0'.toNat = 48 := rfl
  have every : ∀ d < 10, Nat.digitChar d = Char.ofNat (48 + d) := by decide
  refine ⟨by omega, ?_⟩
  obtain ⟨d, small, value⟩ : ∃ d, d < 10 ∧ c.toNat = 48 + d := ⟨c.toNat - 48, by omega, by omega⟩
  have same : c = Char.ofNat (48 + d) := by rw [← value, Char.ofNat_toNat]
  rw [value, zero, Nat.add_sub_cancel_left, same]
  exact every d small

theorem toDigits_append_digits {cs : List Char} (digits : ∀ c ∈ cs, c.isDigit = true) {n : Nat}
    (positive : 0 < n) : Nat.toDigits 10 n ++ cs = Nat.toDigits 10 (Nat.ofDigitChars 10 cs n) := by
  induction cs generalizing n with
  | nil => rw [List.append_nil, Nat.ofDigitChars_nil]
  | cons c cs ih =>
    obtain ⟨digit, later⟩ := List.forall_mem_cons.mp digits
    obtain ⟨small, same⟩ := digit_eq digit
    have step : Nat.toDigits 10 n ++ [c] = Nat.toDigits 10 (10 * n + (c.toNat - '0'.toNat)) := by
      rw [← Nat.toDigits_append_toDigits (by decide) positive small,
        Nat.toDigits_of_lt_base small, same]
    rw [List.append_cons, step, ih later (by omega), Nat.ofDigitChars_cons]

theorem toDigits_ofDigitChars {cs : List Char} (present : cs ≠ []) (digits : ∀ c ∈ cs, c.isDigit = true)
    (canonical : cs.length ≤ 1 ∨ cs.head? ≠ some '0') :
    Nat.toDigits 10 (Nat.ofDigitChars 10 cs 0) = cs := by
  cases cs with
  | nil => exact absurd rfl present
  | cons c cs =>
    obtain ⟨digit, later⟩ := List.forall_mem_cons.mp digits
    obtain ⟨small, same⟩ := digit_eq digit
    rw [Nat.ofDigitChars_cons, Nat.mul_zero, Nat.zero_add]
    rcases canonical with short | leading
    · have single : cs = [] := List.length_eq_zero_iff.mp (by simpa using short)
      rw [single, Nat.ofDigitChars_nil, Nat.toDigits_of_lt_base small, same]
    · have positive : 0 < c.toNat - '0'.toNat := by
        refine Nat.pos_of_ne_zero fun zero => leading ?_
        rw [List.head?_cons, ← same, zero]
        rfl
      rw [← toDigits_append_digits later positive, Nat.toDigits_of_lt_base small, same,
        List.singleton_append]

/-! The supervisor's test. -/

/-- What the runtime reads as digits: in ASCII, the ten digits and nothing else. -/
structure Python.ReadsDigits (p : Python) : Prop where
  digit : ∀ c, c.isDigit = true → p.digitValue c = some (c.toNat - '0'.toNat)
  other : ∀ c, c.toNat < 128 → c.isDigit = false → p.digitValue c = none

def decimalValue (p : Python) (component : List Char) : Nat :=
  component.foldl (fun n c => 10 * n + (p.digitValue c).getD 0) 0

/-- A text of decimal digits, in any script, within the bound and without a leading `0`. -/
def IsDecimal (p : Python) (component : List Char) : Prop :=
  (component ≠ [] ∧ ∀ c ∈ component, (p.digitValue c).isSome = true) ∧
    (component.length ≤ 1 ∨ component.head? ≠ some '0') ∧ decimalValue p component ≤ lteIdentifierMax

theorem isCanonicalComponent_iff {p : Python} {component : List Char} :
    isCanonicalComponent p component = true ↔ IsDecimal p component := by
  simp [isCanonicalComponent, IsDecimal, decimalValue, lteIdentifierMax, and_assoc]

def spelled (node : List Char) : Option (List Char) → List Char
  | none => "lte".toList ++ ':' :: ("enodeb".toList ++ ':' :: node)
  | some cell =>
    "lte".toList ++ ':' :: ("enodeb".toList ++ ':' :: (node ++ ':' :: ("cell".toList ++ ':' :: cell)))

def IsSpelled (holds : List Char → Prop) (s : String) : Prop :=
  ∃ node cell, (holds node ∧ ∀ c ∈ cell, holds c) ∧ s.toList = spelled node cell

theorem colon_foreign {p : Python} (reads : p.ReadsDigits) {component : List Char}
    (decimal : IsDecimal p component) : ':' ∉ component := by
  intro inside
  have digit := decimal.1.2 ':' inside
  rw [reads.other ':' (by decide) (by decide)] at digit
  cases digit

theorem isCanonicalResource_iff {p : Python} (reads : p.ReadsDigits) {s : String} :
    isCanonicalResource p s = true ↔ IsSpelled (IsDecimal p) s := by
  have joined : s.toList = [':'].intercalate (s.toList.splitOn ':') :=
    (List.intercalate_splitOn ':').symm
  constructor
  · intro accepted
    unfold isCanonicalResource at accepted
    split at accepted
    · rename_i net kind node parts
      simp only [Bool.and_eq_true, beq_iff_eq, isCanonicalComponent_iff] at accepted
      obtain ⟨⟨rfl, rfl⟩, decimal⟩ := accepted
      refine ⟨node, none, ⟨decimal, nofun⟩, ?_⟩
      rw [joined, parts]
      simp [List.intercalate, spelled]
    · rename_i net kind node part cell parts
      simp only [Bool.and_eq_true, beq_iff_eq, isCanonicalComponent_iff] at accepted
      obtain ⟨⟨⟨⟨rfl, rfl⟩, rfl⟩, decimal⟩, decimal'⟩ := accepted
      refine ⟨node, some cell, ⟨decimal, by simpa using decimal'⟩, ?_⟩
      rw [joined, parts]
      simp [List.intercalate, spelled]
    · cases accepted
  · rintro ⟨node, cell, ⟨decimal, second⟩, same⟩
    have lte : ':' ∉ "lte".toList := by decide
    have kind : ':' ∉ "enodeb".toList := by decide
    have word : ':' ∉ "cell".toList := by decide
    have apart := colon_foreign reads decimal
    cases cell with
    | none =>
      have parts : s.toList.splitOn ':' = ["lte".toList, "enodeb".toList, node] := by
        rw [same, spelled, List.splitOn_append_cons_self_of_not_mem lte,
          List.splitOn_append_cons_self_of_not_mem kind, List.splitOn_eq_singleton apart]
      simp [isCanonicalResource, parts, isCanonicalComponent_iff, decimal]
    | some cell =>
      have decimal' : IsDecimal p cell := second cell rfl
      have parts : s.toList.splitOn ':' =
          ["lte".toList, "enodeb".toList, node, "cell".toList, cell] := by
        rw [same, spelled, List.splitOn_append_cons_self_of_not_mem lte,
          List.splitOn_append_cons_self_of_not_mem kind,
          List.splitOn_append_cons_self_of_not_mem apart,
          List.splitOn_append_cons_self_of_not_mem word,
          List.splitOn_eq_singleton (colon_foreign reads decimal')]
      simp [isCanonicalResource, parts, isCanonicalComponent_iff, decimal, decimal']

/-! The components in ASCII are those of the local profile. -/

theorem decimalValue_ascii {p : Python} (reads : p.ReadsDigits) {component : List Char}
    (ascii : ∀ c ∈ component, c.isDigit = true) :
    decimalValue p component = Nat.ofDigitChars 10 component 0 := by
  unfold decimalValue Nat.ofDigitChars
  apply List.foldl_ext
  intro n c member
  rw [reads.digit c (ascii c member), Option.getD_some]

theorem isDigit_of_read {p : Python} (reads : p.ReadsDigits) {c : Char} (ascii : c.toNat < 128)
    (read : (p.digitValue c).isSome = true) : c.isDigit = true := by
  cases digit : c.isDigit with
  | true => rfl
  | false =>
    rw [reads.other c ascii digit] at read
    cases read

theorem component_of_decimal {p : Python} (reads : p.ReadsDigits) {component : List Char}
    (decimal : IsDecimal p component) (ascii : ∀ c ∈ component, c.toNat < 128) :
    IsComponent (String.ofList component) := by
  obtain ⟨⟨present, read⟩, canonical, bound⟩ := decimal
  have digits : ∀ c ∈ component, c.isDigit = true := fun c member =>
    isDigit_of_read reads (ascii c member) (read c member)
  rw [decimalValue_ascii reads digits] at bound
  refine ⟨_, bound, String.toList_injective ?_⟩
  rw [String.toList_ofList, Local.toString_toList, toDigits_ofDigitChars present digits canonical]

theorem decimal_of_component {p : Python} (reads : p.ReadsDigits) {s : String}
    (normal : IsComponent s) : IsDecimal p s.toList ∧ ∀ c ∈ s.toList, c.toNat < 128 := by
  obtain ⟨n, bound, rfl⟩ := normal
  rw [Local.toString_toList]
  have digits : ∀ c ∈ Nat.toDigits 10 n, c.isDigit = true := fun c member =>
    Nat.isDigit_of_mem_toDigits (by decide) (by decide) member
  refine ⟨⟨⟨Nat.toDigits_ne_nil, fun c member => ?_⟩, ?_, ?_⟩, fun c member => ?_⟩
  · rw [reads.digit c (digits c member), Option.isSome_some]
  · by_cases small : n < 10
    · exact .inl (by rw [Nat.toDigits_of_lt_base small, List.length_singleton])
    · exact .inr (Json.toDigits_head (by omega))
  · rw [decimalValue_ascii reads digits, Nat.ofDigitChars_ten_toDigits]
    exact bound
  · have bounds := isDigit_bounds (digits c member)
    omega

theorem spelled_eq (enodeb : String) (cell : Option String) :
    (lteText enodeb cell).toList = spelled enodeb.toList (cell.map String.toList) := by
  rw [Local.lteText_toList]
  cases cell <;> simp [spelled]

theorem mem_spelled {node : List Char} {cell : Option (List Char)} :
    (∀ c ∈ node, c ∈ spelled node cell) ∧ ∀ digits ∈ cell, ∀ c ∈ digits, c ∈ spelled node cell := by
  cases cell <;> simp +contextual [spelled]

theorem ascii_spelled {node : List Char} {cell : Option (List Char)}
    (first : ∀ c ∈ node, c.toNat < 128) (second : ∀ digits ∈ cell, ∀ c ∈ digits, c.toNat < 128) :
    ∀ c ∈ spelled node cell, c.toNat < 128 := by
  have words : (':' :: ("lte".toList ++ "enodeb".toList ++ "cell".toList)).all
      (fun c => c.toNat < 128) = true := by decide
  have plain := fun c member => of_decide_eq_true (List.all_eq_true.mp words c member)
  intro c member
  cases cell with
  | none =>
    simp only [spelled, List.mem_append, List.mem_cons] at member plain
    rcases member with here | here | here | here | digit
    iterate 4 exact plain c (by simp only [here, true_or, or_true])
    exact first c digit
  | some cell =>
    simp only [spelled, List.mem_append, List.mem_cons] at member plain
    rcases member with here | here | here | here | digit | here | here | here | digit
    iterate 4 exact plain c (by simp only [here, true_or, or_true])
    · exact first c digit
    iterate 3 exact plain c (by simp only [here, true_or, or_true])
    · exact second cell rfl c digit

/-- An identifier spelled with digits that are not ASCII. -/
def Lookalike (p : Python) (s : String) : Prop :=
  IsSpelled (IsDecimal p) s ∧ ∃ c ∈ s.toList, 128 ≤ c.toNat

theorem isCanonicalLte_ascii {p : Python} (reads : p.ReadsDigits) {s : String} :
    IsCanonicalLte s ↔ IsSpelled (IsDecimal p) s ∧ ∀ c ∈ s.toList, c.toNat < 128 := by
  rw [isCanonicalLte_iff]
  constructor
  · rintro ⟨enodeb, cell, ⟨first, second⟩, rfl⟩
    obtain ⟨decimal, ascii⟩ := decimal_of_component reads first
    refine ⟨⟨enodeb.toList, cell.map String.toList, ⟨decimal, ?_⟩, spelled_eq enodeb cell⟩, ?_⟩
    · intro digits member
      obtain ⟨c, given, rfl⟩ := Option.mem_map.mp member
      exact (decimal_of_component reads (second c given)).1
    · rw [spelled_eq]
      refine ascii_spelled ascii fun digits member => ?_
      obtain ⟨c, given, rfl⟩ := Option.mem_map.mp member
      exact (decimal_of_component reads (second c given)).2
  · rintro ⟨⟨node, cell, ⟨decimal, second⟩, same⟩, ascii⟩
    rw [same] at ascii
    have inside := @mem_spelled node cell
    refine ⟨String.ofList node, cell.map String.ofList,
      ⟨component_of_decimal reads decimal fun c member => ascii c (inside.1 c member), ?_⟩, ?_⟩
    · intro text member
      obtain ⟨digits, given, rfl⟩ := Option.mem_map.mp member
      exact component_of_decimal reads (second digits given) fun c member =>
        ascii c (inside.2 digits given c member)
    · apply String.toList_injective
      rw [same, spelled_eq, String.toList_ofList, Option.map_map]
      cases cell <;> simp

/-- The library on texts in ASCII and on the ten digits of Arabic script. -/
def Python.arabic : Python where
  toHost := Host.ascii
  fromisoformat _ := none
  loads _ := none
  digitValue c :=
    if c.isDigit then some (c.toNat - '0'.toNat)
    else if 0x660 ≤ c.toNat ∧ c.toNat ≤ 0x669 then some (c.toNat - 0x660)
    else none
  str _ := ""

theorem arabic_reads : Python.arabic.ReadsDigits where
  digit c digit := by simp [Python.arabic, digit]
  other c ascii digit := by
    have outside : ¬ (0x660 ≤ c.toNat ∧ c.toNat ≤ 0x669) := by omega
    simp [Python.arabic, digit, outside]

end NetworkAgent.Supervisor
