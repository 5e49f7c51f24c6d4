import NetworkAgent.Local.Usable

/-! The spellings of an identifier and the numbers they name: decimal digits with leading zeros,
and white space around the digits and around the whole. -/
namespace NetworkAgent.Local

def IsPadding (cs : List Char) : Prop := ∀ c ∈ cs, isSpace c = true

/-- At most nine digits with white space around them, whose value is `n`. -/
def Spells (n : Nat) (cs : List Char) : Prop :=
  ∃ front digits back, cs = front ++ (digits ++ back) ∧ IsPadding front ∧ IsPadding back ∧
    (1 ≤ digits.length ∧ digits.length ≤ 9 ∧ digits.all Char.isDigit = true) ∧
    parseDecimal digits = n

def Denotes (s : String) (enodeb : Nat) (cell : Option Nat) : Prop :=
  ∃ front node, s.toList = front ++ ("lte:enodeb:".toList ++ node) ∧ IsPadding front ∧
    match cell with
    | none => Spells enodeb node
    | some cell => ∃ first second, node = first ++ (":cell:".toList ++ second) ∧
        Spells enodeb first ∧ Spells cell second

/-! One component. -/

theorem digits_plain {digits : List Char} (every : digits.all Char.isDigit = true) :
    ∀ c ∈ digits, isSpace c = false ∧ c ≠ ':' := by
  intro c inside
  have digit := List.all_eq_true.mp every c inside
  simp only [Char.isDigit, Bool.and_eq_true, decide_eq_true_eq, ge_iff_le,
    UInt32.le_iff_toNat_le] at digit
  have bounds : 48 ≤ c.toNat ∧ c.toNat ≤ 57 := digit
  constructor
  · simp only [isSpace, isWhiteSpace, Bool.or_eq_false_iff, Bool.and_eq_false_iff,
      decide_eq_false_iff_not, beq_eq_false_iff_ne]
    omega
  · rintro rfl
    revert bounds
    decide

theorem strip_spelling {s : String} {front digits back : List Char}
    (spelled : s.toList = front ++ (digits ++ back)) (before : IsPadding front)
    (after : IsPadding back) (every : digits.all Char.isDigit = true) :
    (strip s).toList = digits := by
  have plain := digits_plain every
  rw [strip, Text.trim_padded spelled before after, String.toList_ofList]
  · exact fun c first => (plain c (List.mem_of_mem_head? first)).1
  · exact fun c last => (plain c (List.mem_of_mem_getLast? last)).1

theorem normalize_iff {component s text : String} :
    normalizeLteIdentifier component s = .ok text ↔
      ∃ n, Spells n s.toList ∧ n ≤ lteIdentifierMax ∧ text = toString n := by
  constructor
  · intro read
    obtain ⟨_, shape, read⟩ := Checks.bind_ok.mp read
    obtain ⟨_, bound, read⟩ := Checks.bind_ok.mp read
    obtain ⟨front, back, split, before, after⟩ := Text.trim_between isSpace s
    exact ⟨_, ⟨front, _, back, split, before, after, Checks.require_ok.mp shape, rfl⟩,
      Checks.require_ok.mp bound, (Except.ok.inj read).symm⟩
  · rintro ⟨n, ⟨front, digits, back, spelled, before, after, shape, rfl⟩, bound, rfl⟩
    simp only [normalizeLteIdentifier, strip_spelling spelled before after shape.2.2]
    rw [requireScan, Checks.require, if_pos shape, requireScan, Checks.require, if_pos bound]
    rfl

theorem spells_unique {m n : Nat} {cs : List Char} (first : Spells m cs) (second : Spells n cs) :
    m = n := by
  obtain ⟨front, digits, back, spelled, before, after, shape, value⟩ := first
  obtain ⟨front', digits', back', spelled', before', after', shape', value'⟩ := second
  have same := String.toList_ofList (l := cs)
  have left := strip_spelling (same.trans spelled) before after shape.2.2
  have right := strip_spelling (same.trans spelled') before' after' shape'.2.2
  rw [← value, ← value', ← left, ← right]

theorem toString_injective {m n : Nat} (same : toString m = toString n) : m = n := by
  have digits : Nat.toDigits 10 m = Nat.toDigits 10 n := by
    rw [← toString_toList, ← toString_toList, same]
  rw [← Nat.ofDigitChars_ten_toDigits (n := m), digits, Nat.ofDigitChars_ten_toDigits]

/-! A whole identifier. -/

theorem Spells.padded {n : Nat} {cs back : List Char} (spells : Spells n cs)
    (after : IsPadding back) : Spells n (cs ++ back) := by
  obtain ⟨front, digits, rest, rfl, before, behind, shape, value⟩ := spells
  refine ⟨front, digits, rest ++ back, by simp, before, fun c member => ?_, shape, value⟩
  exact (List.mem_append.mp member).elim (behind c) (after c)

theorem Spells.apart {n : Nat} {cs : List Char} (spells : Spells n cs) : ':' ∉ cs := by
  obtain ⟨front, digits, back, rfl, before, after, shape, -⟩ := spells
  have padding : ∀ {cs : List Char}, IsPadding cs → ':' ∉ cs := fun plain inside => by
    have space := plain ':' inside
    revert space
    decide
  intro inside
  rcases List.mem_append.mp inside with here | rest
  · exact padding before here
  · rcases List.mem_append.mp rest with here | here
    · exact (digits_plain shape.2.2 ':' here).2 rfl
    · exact padding after here

theorem Spells.trimmed {n : Nat} {cs : List Char} (spells : Spells n cs) :
    ∃ body back, cs = body ++ back ∧ IsPadding back ∧ Spells n body ∧
      ∀ start, ∀ c ∈ (start ++ body).getLast?, isSpace c = false := by
  obtain ⟨front, digits, back, rfl, before, after, shape, value⟩ := spells
  refine ⟨front ++ digits, back, by simp, after,
    ⟨front, digits, [], by simp, before, nofun, shape, value⟩, fun start c last => ?_⟩
  have present : digits ≠ [] := List.ne_nil_of_length_pos shape.1
  rw [← List.append_assoc, List.getLast?_append_of_ne_nil _ present] at last
  exact (digits_plain shape.2.2 c (List.mem_of_mem_getLast? last)).1

/-- The parts of a text that ends in a spelling, after `strip`. -/
theorem split_resource {s : String} {front back tail : List Char}
    (spelled : s.toList = front ++ ("lte:enodeb:".toList ++ (tail ++ back)))
    (before : IsPadding front) (after : IsPadding back)
    (last : ∀ start, ∀ c ∈ (start ++ tail).getLast?, isSpace c = false) :
    (Text.chars (strip s)).splitOn ':' = "lte".toList :: "enodeb".toList :: tail.splitOn ':' := by
  have words : "lte:enodeb:".toList = "lte".toList ++ ':' :: ("enodeb".toList ++ [':']) := by decide
  have lte : ':' ∉ "lte".toList := by decide
  have node : ':' ∉ "enodeb".toList := by decide
  have head : ∀ c ∈ ("lte:enodeb:".toList ++ tail).head?, isSpace c = false := by
    rw [words]
    rintro c ⟨⟩
    decide
  rw [← List.append_assoc "lte:enodeb:".toList] at spelled
  rw [strip, Text.trim_padded spelled before after head (last _), Text.chars_eq,
    String.toList_ofList, words]
  simp only [List.append_assoc, List.cons_append, List.nil_append]
  rw [List.splitOn_append_cons_self_of_not_mem lte, List.splitOn_append_cons_self_of_not_mem node]

theorem texts_of_parts {parts : List (List Char)} {texts : List String}
    (same : parts.map String.ofList = texts) : parts = texts.map String.toList := by
  have inverse : String.toList ∘ String.ofList = id := funext fun _ => String.toList_ofList
  rw [← same, List.map_map, inverse, List.map_id]

theorem denotes_of_parse {s enodeb : String} {cell : Option String}
    (read : parseLteResourceId s = .ok (enodeb, cell)) :
    ∃ node part, Denotes s node part ∧ enodeb = toString node ∧ cell = part.map toString := by
  obtain ⟨front, back, split, before, after⟩ := Text.trim_between isSpace s
  have joined : (strip s).toList = [':'].intercalate ((Text.chars (strip s)).splitOn ':') := by
    rw [List.intercalate_splitOn, Text.chars_eq]
  have words : "lte:enodeb:".toList = "lte".toList ++ ':' :: ("enodeb".toList ++ [':']) := by decide
  have word : ":cell:".toList = ':' :: ("cell".toList ++ [':']) := by decide
  rw [← strip, joined] at split
  unfold parseLteResourceId at read
  split at read
  · rename_i first parts
    rw [texts_of_parts parts] at split
    obtain ⟨text, normal, read⟩ := Checks.bind_ok.mp read
    cases read
    obtain ⟨node, spells, -, rfl⟩ := normalize_iff.mp normal
    refine ⟨node, none, ⟨front, first.toList ++ back, ?_, before, spells.padded after⟩, rfl, rfl⟩
    rw [split, words]
    simp [List.intercalate]
  · rename_i first second parts
    rw [texts_of_parts parts] at split
    obtain ⟨text, normal, read⟩ := Checks.bind_ok.mp read
    obtain ⟨text', normal', read⟩ := Checks.bind_ok.mp read
    cases read
    obtain ⟨node, spells, -, rfl⟩ := normalize_iff.mp normal
    obtain ⟨part, spells', -, rfl⟩ := normalize_iff.mp normal'
    refine ⟨node, some part, ⟨front, first.toList ++ (":cell:".toList ++ (second.toList ++ back)),
      ?_, before, first.toList, second.toList ++ back, rfl, spells, spells'.padded after⟩, rfl, rfl⟩
    rw [split, words, word]
    simp [List.intercalate]
  · cases read

theorem parse_of_denotes {s : String} {node : Nat} {part : Option Nat} {v : String × Option String}
    (denotes : Denotes s node part) (read : parseLteResourceId s = .ok v) :
    v = (toString node, part.map toString) := by
  obtain ⟨front, whole, spelled, before, numbers⟩ := denotes
  have word : ":cell:".toList = ':' :: ("cell".toList ++ [':']) := by decide
  have cell : ':' ∉ "cell".toList := by decide
  unfold parseLteResourceId at read
  cases part with
  | none =>
    obtain ⟨body, back, rfl, after, spells, last⟩ := numbers.trimmed
    rw [split_resource spelled before after last, List.splitOn_eq_singleton spells.apart] at read
    simp only [List.map_cons, List.map_nil, String.ofList_toList] at read
    obtain ⟨text, normal, read⟩ := Checks.bind_ok.mp read
    obtain ⟨n, own, -, rfl⟩ := normalize_iff.mp normal
    rw [String.toList_ofList] at own
    rw [spells_unique spells own]
    exact (Except.ok.inj read).symm
  | some part =>
    obtain ⟨first, second, rfl, spells, numbers⟩ := numbers
    obtain ⟨body, back, rfl, after, spells', last⟩ := numbers.trimmed
    have tail : first ++ (":cell:".toList ++ (body ++ back)) =
        first ++ (":cell:".toList ++ body) ++ back := by simp
    have ends : ∀ start, ∀ c ∈ (start ++ (first ++ (":cell:".toList ++ body))).getLast?,
        isSpace c = false := fun start => by
      have := last (start ++ (first ++ ":cell:".toList))
      simpa using this
    rw [tail] at spelled
    rw [split_resource spelled before after ends, word,
      List.cons_append, List.splitOn_append_cons_self_of_not_mem spells.apart,
      List.append_assoc, List.singleton_append, List.splitOn_append_cons_self_of_not_mem cell,
      List.splitOn_eq_singleton spells'.apart] at read
    simp only [List.map_cons, List.map_nil, String.ofList_toList] at read
    obtain ⟨text, normal, read⟩ := Checks.bind_ok.mp read
    obtain ⟨text', normal', read⟩ := Checks.bind_ok.mp read
    obtain ⟨n, own, -, rfl⟩ := normalize_iff.mp normal
    obtain ⟨n', own', -, rfl⟩ := normalize_iff.mp normal'
    rw [String.toList_ofList] at own own'
    rw [spells_unique spells own, spells_unique spells' own']
    exact (Except.ok.inj read).symm

/-- Normalising is idempotent, the canonical form reads back, and two accepted texts have one
canonical form just when they name the same numbers. -/
theorem lte_identifiers_canonical :
    (∀ component s t n m, normalizeLteIdentifier component s = .ok n →
      normalizeLteIdentifier component t = .ok m →
      normalizeLteIdentifier component n = .ok n ∧
        (n = m ↔ ∃ value, Spells value s.toList ∧ Spells value t.toList)) ∧
    ∀ s t v w, parseLteResourceId s = .ok v → parseLteResourceId t = .ok w →
      ∃ a b, canonicalResourceId v.1 v.2 = .ok a ∧ canonicalResourceId w.1 w.2 = .ok b ∧
        parseLteResourceId a = .ok v ∧
        (a = b ↔ ∃ enodeb cell, Denotes s enodeb cell ∧ Denotes t enodeb cell) := by
  constructor
  · intro component s t n m read read'
    refine ⟨normalize_component (component_of_normalize read), ?_⟩
    obtain ⟨value, spells, -, rfl⟩ := normalize_iff.mp read
    obtain ⟨other, spells', -, rfl⟩ := normalize_iff.mp read'
    constructor
    · intro same
      exact ⟨value, spells, toString_injective same ▸ spells'⟩
    · rintro ⟨number, left, right⟩
      rw [spells_unique spells left, spells_unique spells' right]
  · rintro s t ⟨enodeb, cell⟩ ⟨enodeb', cell'⟩ read read'
    have normal := component_of_parse read
    have normal' := component_of_parse read'
    refine ⟨_, _, canonicalResourceId_eq normal.1 normal.2,
      canonicalResourceId_eq normal'.1 normal'.2, parse_lteText normal.1 normal.2, ?_⟩
    constructor
    · intro same
      have read'' := parse_lteText normal'.1 normal'.2
      rw [← same, parse_lteText normal.1 normal.2] at read''
      obtain ⟨node, part, denotes, rfl, rfl⟩ := denotes_of_parse read
      obtain ⟨node', part', denotes', nodes, parts⟩ := denotes_of_parse read'
      obtain ⟨first, second⟩ := Prod.mk.inj (Except.ok.inj read'')
      rw [nodes] at first
      rw [parts] at second
      cases toString_injective first
      cases Option.map_injective (fun _ _ => toString_injective) second
      exact ⟨node, part, denotes, denotes'⟩
    · rintro ⟨node, part, denotes, denotes'⟩
      obtain ⟨rfl, rfl⟩ := Prod.mk.inj (parse_of_denotes denotes read)
      obtain ⟨rfl, rfl⟩ := Prod.mk.inj (parse_of_denotes denotes' read')
      rfl

theorem lte_identifiers_sample :
    (normalizeLteIdentifier "Cell" "3" = .ok "3" ∧
      ("3" = "3" ↔ ∃ value, Spells value " 003".toList ∧ Spells value "3\t".toList)) ∧
    ∃ a b, canonicalResourceId "7" (some "3") = .ok a ∧ canonicalResourceId "7" none = .ok b ∧
      parseLteResourceId a = .ok ("7", some "3") ∧
      (a = b ↔ ∃ enodeb cell, Denotes " lte:enodeb: 007:cell:3 " enodeb cell ∧
        Denotes "lte:enodeb:07" enodeb cell) :=
  ⟨lte_identifiers_canonical.1 "Cell" " 003" "3\t" "3" "3" (by decide +kernel) (by decide +kernel),
    lte_identifiers_canonical.2 " lte:enodeb: 007:cell:3 " "lte:enodeb:07" ("7", some "3")
      ("7", none) (by decide +kernel) (by decide +kernel)⟩

end NetworkAgent.Local
