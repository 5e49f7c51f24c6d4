import NetworkAgent.Operator.JsonLiteral

/-! The bodies that a SQL statement stores as they are; and what SQL takes away from the others, so
that no JSON text of the body is left. -/
namespace NetworkAgent.Operator.JsonLiteral
open JsonSyntax

/-! Which bodies come back. -/

mutual
/-- The values inside that hold no others, the keys among them. -/
def atoms : Json → List Json
  | .arr items => itemAtoms items
  | .obj fields => fieldAtoms fields
  | v => [v]
def itemAtoms : List Json → List Json
  | [] => []
  | v :: rest => atoms v ++ itemAtoms rest
def fieldAtoms : List (String × Json) → List Json
  | [] => []
  | (key, v) :: rest => .str key :: (atoms v ++ fieldAtoms rest)
end

/-- No backslash, no control character but the end of a line, nothing outside the first plane. -/
def StorableChar (c : Char) : Prop :=
  c ≠ '\\' ∧ (c = '\n' ∨ 0x20 ≤ c.toNat) ∧ c.toNat < 0x10000

instance (c : Char) : Decidable (StorableChar c) := inferInstanceAs (Decidable (_ ∧ _))

def Storable (v : Json) : Prop := ∀ s, .str s ∈ atoms v → ∀ c ∈ s.toList, StorableChar c

def FloatsRead (floatRepr : ℚ → String) (readFloat : List Char → Option ℚ) (v : Json) : Prop :=
  ∀ q, .float q ∈ atoms v →
    ∃ x : FloatText, x.text = (floatRepr q).toList ∧ readFloat x.text = some q

/-- The text between the quotes is one whole literal, and what it denotes is a JSON text of the
body. -/
def ComesBack (floatRepr : ℚ → String) (readFloat : List Char → Option ℚ) (v : Json) : Prop :=
  ∃ text : JsonSyntax.Text, text.doc.Denotes readFloat v ∧
    SqlLiteral.denotes (bodySqlJsonDump (dumps floatRepr v)) = some text.chars

section
variable {floatRepr : ℚ → String} {readFloat : List Char → Option ℚ}

/-! The texts of numbers. -/

theorem digits_char {digits : Digits} {c : Char} (member : c ∈ digits.val) : c.isDigit = true :=
  List.all_eq_true.mp digits.2.2 c member

def isNumberChar (c : Char) : Bool := c.isDigit || c ∈ ['-', '+', '.', 'e', 'E']

theorem intText_chars (n : IntText) : ∀ c ∈ n.text, isNumberChar c = true := by
  intro c member
  rcases List.mem_append.mp member with sign | digit
  · split at sign
    · rw [List.mem_singleton.mp sign]
      decide
    · cases sign
  · simp [isNumberChar, digits_char digit]

theorem exponent_chars (e : Exponent) : ∀ c ∈ e.text, isNumberChar c = true := by
  intro c member
  rcases List.mem_cons.mp member with rfl | member
  · cases e.upper <;> decide
  · rcases List.mem_append.mp member with sign | digit
    · cases mark : e.sign with
      | none => simp [mark] at sign
      | some minus =>
        rw [mark] at sign
        rw [List.mem_singleton.mp sign]
        cases minus <;> decide
    · simp [isNumberChar, digits_char digit]

theorem floatText_chars (x : FloatText) : ∀ c ∈ x.text, isNumberChar c = true := by
  intro c member
  rcases List.mem_append.mp member with whole | rest
  · exact intText_chars x.whole c whole
  rcases List.mem_append.mp rest with fraction | exponent
  · cases point : x.fraction with
    | none => simp [point] at fraction
    | some digits =>
      rw [point] at fraction
      rcases List.mem_cons.mp fraction with rfl | digit
      · decide
      · simp [isNumberChar, digits_char digit]
  · cases power : x.exponent with
    | none => simp [power] at exponent
    | some e =>
      rw [power] at exponent
      exact exponent_chars e c exponent

theorem repr_chars (n : Int) : ∀ c ∈ n.repr.toList, isNumberChar c = true := by
  intro c member
  rcases (Json.int_text n).2 c member with rfl | digit
  · decide
  · simp [isNumberChar, digit]

/-- A number has neither a backslash nor the letter `u`, and is printable. -/
theorem numberChar_spec {c : Char} (number : isNumberChar c = true) :
    c ≠ 'u' ∧ c ≠ '\\' ∧ 0x20 ≤ c.toNat ∧ c.toNat < 0x7F := by
  simp only [isNumberChar, Bool.or_eq_true, decide_eq_true_eq] at number
  rcases number with digit | mark
  · have bounds : 48 ≤ c.toNat ∧ c.toNat ≤ 57 := by
      simp only [Char.isDigit, Bool.and_eq_true, decide_eq_true_eq] at digit
      exact digit
    refine ⟨?_, ?_, by omega, by omega⟩ <;> rintro rfl <;> exact absurd bounds.2 (by decide)
  · simp only [List.mem_cons, List.not_mem_nil, or_false] at mark
    rcases mark with rfl | rfl | rfl | rfl | rfl <;> decide

end


/-! The letters `u` and the backslashes. SQL takes away those that JSON needs to write a backslash
or a control character. -/

/-- How many of `u` and of backslashes a text has. -/
def weight (cs : List Char) : Nat := cs.countP fun c => c = 'u' ∨ c = '\\'

theorem weight_cons (c : Char) (cs : List Char) : weight (c :: cs) = weight [c] + weight cs := by
  unfold weight
  rw [List.countP_cons, List.countP_cons, List.countP_nil]
  omega

theorem weight_append (a b : List Char) : weight (a ++ b) = weight a + weight b :=
  List.countP_append

theorem weight_zero {cs : List Char} (other : ∀ c ∈ cs, c ≠ 'u' ∧ c ≠ '\\') : weight cs = 0 := by
  refine List.countP_eq_zero.mpr fun c member => ?_
  simpa using other c member

def Token.weight : Token → Nat
  | .char c => JsonLiteral.weight [c]
  | .escape c => if c ∈ ['\\', '"', 'n'] then 1 else 0
  | .unicode unit => JsonLiteral.weight [Char.ofNat unit]

def tokensWeight (ts : List Token) : Nat := (ts.map Token.weight).sum

theorem tokensWeight_append (a b : List Token) :
    tokensWeight (a ++ b) = tokensWeight a + tokensWeight b := by
  simp [tokensWeight]

theorem tokensWeight_plain (s : String) : tokensWeight (plain s) = weight s.toList := by
  unfold tokensWeight plain
  induction s.toList with
  | nil => rfl
  | cons c rest ih =>
    rw [weight_cons, ← ih]
    rfl

theorem weight_readTokens {ts : List Token} (written : ∀ token ∈ ts, token.Written)
    {after : Bool} {text : List Char} (read : readTokens after ts = some text) :
    weight text = tokensWeight ts := by
  induction ts generalizing after text with
  | nil =>
    cases after <;> cases read <;> rfl
  | cons token rest ih =>
    have later : ∀ {after : Bool} {tail : List Char}, readTokens after rest = some tail →
        weight tail = tokensWeight rest :=
      ih fun token member => written token (List.mem_cons_of_mem _ member)
    have own := written token List.mem_cons_self
    show weight text = token.weight + tokensWeight rest
    cases token with
    | char c =>
      rw [readTokens_cons] at read
      obtain ⟨tail, known, rfl⟩ := Option.map_eq_some_iff.mp read
      rw [weight_cons, later known]
      split
      next ended => rw [ended.2]; rfl
      next => rfl
    | escape c =>
      simp only [Token.Written, List.mem_cons, List.not_mem_nil, or_false] at own
      rw [readTokens] at read
      by_cases body : c = '\\'
      · subst body
        rw [if_pos rfl] at read
        obtain ⟨tail, known, rfl⟩ := Option.map_eq_some_iff.mp read
        rw [weight_cons, later known]
        rfl
      · rw [if_neg body] at read
        by_cases doubled : c = 'n' ∨ c = '"'
        · rw [if_pos doubled] at read
          obtain ⟨tail, known, rfl⟩ := Option.map_eq_some_iff.mp read
          rw [weight_append, later known]
          rcases doubled with rfl | rfl <;> rfl
        · rw [if_neg doubled] at read
          obtain ⟨d, name, more⟩ := Option.bind_eq_some_iff.mp read
          obtain ⟨tail, known, rfl⟩ := Option.map_eq_some_iff.mp more
          rw [weight_cons, later known]
          congr 1
          rcases own with rfl | rfl | rfl | rfl | rfl | rfl | rfl
          · exact absurd (.inr rfl) doubled
          · exact absurd rfl body
          · exact absurd (.inl rfl) doubled
          all_goals
            cases name
            decide
    | unicode unit =>
      obtain ⟨c, character, more⟩ := Option.bind_eq_some_iff.mp read
      obtain ⟨tail, known, rfl⟩ := Option.map_eq_some_iff.mp more
      rw [weight_cons, later known]
      unfold SqlLiteral.character at character
      split at character
      · cases character
        rfl
      · cases character

/-! What a body needs of them. -/

def need (unit : Nat) : Nat :=
  if unit = 92 then 2 else if unit = 34 ∨ unit = 117 ∨ unit < 32 then 1 else 0

def needs (units : List Nat) : Nat := (units.map need).sum

theorem needs_single (unit : Nat) : needs [unit] = need unit := by simp [needs]

theorem needs_append (a b : List Nat) : needs (a ++ b) = needs a + needs b := by simp [needs]

/-- The least that a JSON text of a value without members has. -/
def atomNeed : Json → Nat
  | .null => 1
  | .bool true => 1
  | .str s => needs (Utf16.units s.toList)
  | _ => 0

def total (measure : Json → Nat) (values : List Json) : Nat := (values.map measure).sum

@[simp] theorem total_nil (measure : Json → Nat) : total measure [] = 0 := rfl

@[simp] theorem total_cons (measure : Json → Nat) (v : Json) (values : List Json) :
    total measure (v :: values) = measure v + total measure values := by
  simp [total]

@[simp] theorem total_append (measure : Json → Nat) (a b : List Json) :
    total measure (a ++ b) = total measure a + total measure b := by
  simp [total]

def required (v : Json) : Nat := total atomNeed (atoms v)

theorem char_small (c : Char) : c.toNat < 0x110000 := by
  have bounds := Utf16.char_bounds c
  omega

theorem pointUnits_plane {p : Nat} (plane : p < 0x10000) : Utf16.pointUnits p = [p] := by
  unfold Utf16.pointUnits
  rw [if_pos plane]

theorem needs_pair {high low : Nat} (h : Utf16.isHigh high = true) (l : Utf16.isLow low = true) :
    needs [high, low] = 0 := by
  simp only [Utf16.isHigh, Utf16.isLow, decide_eq_true_eq] at h l
  have none : ∀ unit : Nat, 0xD800 ≤ unit → need unit = 0 := by
    intro unit large
    unfold need
    rw [if_neg (by omega), if_neg (by omega)]
  simp [needs, none high h.1, none low (by omega)]

theorem need_plain {c : Char} (stands : isPlain c = true) :
    needs (Utf16.pointUnits c.toNat) ≤ weight [c] := by
  simp only [isPlain, Bool.and_eq_true, decide_eq_true_eq, bne_iff_ne] at stands
  obtain ⟨⟨printable, quote⟩, backslash⟩ := stands
  have units : needs (Utf16.pointUnits c.toNat) = need c.toNat := by
    by_cases plane : c.toNat < 0x10000
    · rw [pointUnits_plane plane, needs_single]
    · obtain ⟨high, low, same, h, l, -⟩ := Utf16.combine_pointUnits plane (char_small c)
      have far : need c.toNat = 0 := by
        unfold need
        rw [if_neg (by omega), if_neg (by omega)]
      rw [same, far, needs_pair h l]
  rw [units]
  by_cases letter : c = 'u'
  · subst letter
    decide
  · have toNat : ∀ d : Char, c ≠ d → c.toNat ≠ d.toNat := fun d differs same =>
      differs (Char.toNat_inj.mp same)
    have first : c.toNat ≠ 92 := toNat '\\' backslash
    have second : c.toNat ≠ 34 := toNat '"' quote
    have third : c.toNat ≠ 117 := toNat 'u' letter
    have none : need c.toNat = 0 := by
      unfold need
      rw [if_neg first, if_neg]
      rintro (same | same | control)
      · exact second same
      · exact third same
      · omega
    omega

theorem need_short {c : Char} {point : Nat} (known : shortEscape c = some point) :
    need point ≤ weight ['\\', c] := by
  unfold shortEscape at known
  split_ifs at known <;> cases known
  all_goals
    rename_i same
    subst same
    decide

theorem need_piece (piece : Piece) : needs piece.units ≤ weight piece.text := by
  cases piece with
  | plain c stands => exact need_plain stands
  | short c point known => simpa [needs, Piece.units, Piece.text] using need_short known
  | unicode a b c d =>
    have two : 2 ≤ weight (Piece.unicode a b c d).text := by
      show 2 ≤ weight (['\\', 'u'] ++ [a.char, b.char, c.char, d.char])
      rw [weight_append]
      exact Nat.le_add_right 2 _
    have most : needs (Piece.unicode a b c d).units ≤ 2 := by
      simp only [needs, Piece.units, List.map_cons, List.map_nil, List.sum_cons, List.sum_nil, need]
      split_ifs <;> omega
    exact Nat.le_trans most two

theorem needs_quoted {pieces : List Piece} {s : String} (spells : Spells pieces s) :
    needs (Utf16.units s.toList) ≤ weight (quoted pieces) := by
  have inner : needs (piecesUnits pieces) ≤ weight (piecesText pieces) := by
    clear spells
    induction pieces with
    | nil => exact Nat.le_refl 0
    | cons piece rest ih =>
      show needs (piece.units ++ piecesUnits rest) ≤ weight (piece.text ++ piecesText rest)
      rw [needs_append, weight_append]
      exact Nat.add_le_add (need_piece piece) ih
  rw [← spells]
  unfold quoted
  rw [weight_cons, weight_append]
  omega

mutual
theorem required_doc {readFloat : List Char → Option ℚ} (d : Doc) {v : Json}
    (denotes : d.Denotes readFloat v) : required v ≤ weight d.text := by
  cases d with
  | null =>
    cases denotes
    decide
  | bool b =>
    cases denotes
    cases b <;> decide
  | constant c => exact denotes.elim
  | int n =>
    cases denotes
    exact Nat.zero_le _
  | float x =>
    obtain ⟨q, -, rfl⟩ := denotes
    exact Nat.zero_le _
  | str pieces =>
    obtain ⟨s, spells, rfl⟩ := denotes
    exact needs_quoted spells
  | emptyArr inside =>
    cases denotes
    exact Nat.zero_le _
  | emptyObj inside =>
    cases denotes
    exact Nat.zero_le _
  | arr members =>
    obtain ⟨items, denotes, rfl⟩ := denotes
    have inner := required_members members denotes
    show total atomNeed (itemAtoms items) ≤ weight ('[' :: (members.text ++ [']']))
    rw [weight_cons, weight_append]
    omega
  | obj fields =>
    obtain ⟨items, denotes, rfl⟩ := denotes
    have inner := required_fields fields denotes
    show total atomNeed (fieldAtoms items) ≤ weight ('\x7b' :: (fields.text ++ ['\x7d']))
    rw [weight_cons, weight_append]
    omega
theorem required_members {readFloat : List Char → Option ℚ} (members : Members) {items : List Json}
    (denotes : members.Denotes readFloat items) :
    total atomNeed (itemAtoms items) ≤ weight members.text := by
  cases members with
  | last before value after =>
    obtain ⟨v, denotes, rfl⟩ := denotes
    have inner : total atomNeed (atoms v) ≤ _ := required_doc value denotes
    simp only [Members.text, itemAtoms, total_append, total_nil, weight_append]
    omega
  | more before value after rest =>
    obtain ⟨v, vs, denotes, others, rfl⟩ := denotes
    have inner : total atomNeed (atoms v) ≤ _ := required_doc value denotes
    have later := required_members rest others
    simp only [Members.text, itemAtoms, total_append, weight_append]
    rw [weight_cons]
    omega
theorem required_fields {readFloat : List Char → Option ℚ} (fields : Fields)
    {items : List (String × Json)} (denotes : fields.Denotes readFloat items) :
    total atomNeed (fieldAtoms items) ≤ weight fields.text := by
  cases fields with
  | last front key middle before value after =>
    obtain ⟨s, v, spells, denotes, rfl⟩ := denotes
    have inner : total atomNeed (atoms v) ≤ _ := required_doc value denotes
    have name : atomNeed (.str s) ≤ _ := needs_quoted spells
    simp only [Fields.text, fieldText, fieldAtoms, total_cons, total_append, total_nil,
      weight_append]
    rw [weight_cons ':', weight_append, weight_append]
    omega
  | more front key middle before value after rest =>
    obtain ⟨s, v, vs, spells, denotes, others, rfl⟩ := denotes
    have inner : total atomNeed (atoms v) ≤ _ := required_doc value denotes
    have name : atomNeed (.str s) ≤ _ := needs_quoted spells
    have later := required_fields rest others
    simp only [Fields.text, fieldText, fieldAtoms, total_cons, total_append, weight_append]
    rw [weight_cons ':', weight_cons ',', weight_append, weight_append]
    omega
end

/-! What the encoder writes of them. -/

def excess (c : Char) : Nat := if c = '\\' ∨ (c.toNat < 32 ∧ c ≠ '\n') then 1 else 0

theorem unit_small (c : Char) : ∀ unit ∈ Utf16.pointUnits c.toNat, unit < 0x10000 := by
  intro unit member
  by_cases plane : c.toNat < 0x10000
  · rw [pointUnits_plane plane] at member
    rwa [List.mem_singleton.mp member]
  · obtain ⟨high, low, same, h, l, -⟩ := Utf16.combine_pointUnits plane (char_small c)
    simp only [Utf16.isHigh, Utf16.isLow, decide_eq_true_eq] at h l
    rw [same] at member
    rcases List.mem_cons.mp member with first | rest
    · omega
    · have second := List.mem_singleton.mp rest
      omega

theorem escapeChar_written (c : Char) : ∀ token ∈ escapeChar c, token.Written := by
  unfold escapeChar
  split
  next name short =>
    intro token member
    rw [List.mem_singleton.mp member]
    unfold shortName at short
    split_ifs at short with first
    · cases short
      rcases first with rfl | rfl <;> simp [Token.Written]
    all_goals
      cases short
      simp [Token.Written]
  next short =>
    split
    next printable =>
      intro token member
      rw [List.mem_singleton.mp member]
      refine ⟨printable.1, printable.2, ?_⟩
      rintro rfl
      simp [shortName] at short
    next =>
      intro token member
      obtain ⟨unit, inside, rfl⟩ := List.mem_map.mp member
      exact unit_small c unit inside

theorem escapeChar_weight {c : Char} (plane : c.toNat < 0x10000) :
    tokensWeight (escapeChar c) + excess c = needs (Utf16.pointUnits c.toNat) := by
  have same : ∀ d : Char, c.toNat = d.toNat → c = d := fun d equal => Char.toNat_inj.mp equal
  rw [pointUnits_plane plane]
  rw [needs_single]
  unfold escapeChar
  cases short : shortName c with
  | some name =>
    unfold shortName at short
    split_ifs at short with first newline ending tab form back
    · cases short
      rcases first with rfl | rfl <;> decide
    · cases short
      subst newline
      decide
    · cases short
      subst ending
      decide
    · cases short
      subst tab
      decide
    · cases short
      obtain rfl := same (Char.ofNat 12) form
      decide
    · cases short
      obtain rfl := same (Char.ofNat 8) back
      decide
  | none =>
    unfold shortName at short
    split_ifs at short with first newline ending tab form back
    obtain ⟨quote, backslash⟩ := not_or.mp first
    have quoted : c.toNat ≠ 34 := fun equal => quote (same '"' equal)
    have slashed : c.toNat ≠ 92 := fun equal => backslash (same '\\' equal)
    dsimp only
    split
    next printable =>
      have plain : excess c = 0 := if_neg (by
        rintro (slash | control)
        · exact backslash slash
        · omega)
      rw [plain]
      show weight [c] + 0 + 0 = need c.toNat
      by_cases letter : c = 'u'
      · subst letter
        decide
      · have other : c.toNat ≠ 117 := fun equal => letter (same 'u' equal)
        have light : weight [c] = 0 := weight_zero fun d member => by
          rw [List.mem_singleton.mp member]
          exact ⟨letter, backslash⟩
        unfold need
        rw [light, if_neg slashed, if_neg (by omega)]
    next unprintable =>
      rw [pointUnits_plane plane]
      show weight [Char.ofNat c.toNat] + 0 + excess c = need c.toNat
      rw [Char.ofNat_toNat]
      have light : weight [c] = 0 := weight_zero fun d member => by
        rw [List.mem_singleton.mp member]
        refine ⟨?_, backslash⟩
        rintro rfl
        exact unprintable (by decide)
      rw [light]
      unfold excess need
      rw [if_neg slashed]
      by_cases control : c.toNat < 32
      · rw [if_pos (.inr ⟨control, newline⟩), if_pos (.inr (.inr control))]
      · have letter : c.toNat ≠ 117 := fun equal => unprintable (by omega)
        rw [if_neg (by
          rintro (slash | low)
          · exact backslash slash
          · exact control low.1), if_neg (by omega)]

/-! From the values without members to the whole body. -/

section
variable (floatRepr : ℚ → String)

theorem plain_all {P : Token → Prop} {s : String} (each : ∀ c ∈ s.toList, P (.char c)) :
    ∀ token ∈ plain s, P token := by
  intro token member
  obtain ⟨c, inside, rfl⟩ := List.mem_map.mp member
  exact each c inside

def marks : List Char := "[]\x7b\x7d,: ".toList

section
variable {P : Token → Prop} (punctuation : ∀ c ∈ marks, P (.char c))
include punctuation

theorem marks_all {s : String} (inside : s.toList ⊆ marks) : ∀ token ∈ plain s, P token :=
  plain_all fun c member => punctuation c (inside member)

mutual
theorem tokens_all : ∀ v, (∀ token ∈ tokens floatRepr v, P token) ↔
    ∀ a ∈ atoms v, ∀ token ∈ tokens floatRepr a, P token
  | .null => by simp [atoms]
  | .bool _ => by simp [atoms]
  | .int _ => by simp [atoms]
  | .float _ => by simp [atoms]
  | .str _ => by simp [atoms]
  | .arr items => by
    have left := marks_all punctuation (s := "[") (by decide)
    have right := marks_all punctuation (s := "]") (by decide)
    rw [tokens, atoms, ← itemTokens_all items]
    simp only [List.forall_mem_append]
    exact ⟨fun whole => whole.2.1, fun inner => ⟨left, inner, right⟩⟩
  | .obj fields => by
    have left := marks_all punctuation (s := "\x7b") (by decide)
    have right := marks_all punctuation (s := "\x7d") (by decide)
    rw [tokens, atoms, ← fieldTokens_all fields]
    simp only [List.forall_mem_append]
    exact ⟨fun whole => whole.2.1, fun inner => ⟨left, inner, right⟩⟩
theorem itemTokens_all : ∀ items, (∀ token ∈ itemTokens floatRepr items, P token) ↔
    ∀ a ∈ itemAtoms items, ∀ token ∈ tokens floatRepr a, P token
  | [] => by simp [itemTokens, itemAtoms]
  | [v] => by
    rw [itemTokens, itemAtoms, itemAtoms, List.append_nil]
    exact tokens_all v
  | v :: w :: rest => by
    have comma := marks_all punctuation (s := ", ") (by decide)
    rw [itemTokens, itemAtoms]
    simp only [List.forall_mem_append]
    rw [tokens_all v, itemTokens_all (w :: rest)]
    exact ⟨fun whole => ⟨whole.1, whole.2.2⟩, fun parts => ⟨parts.1, comma, parts.2⟩⟩
theorem fieldTokens_all : ∀ fields, (∀ token ∈ fieldTokens floatRepr fields, P token) ↔
    ∀ a ∈ fieldAtoms fields, ∀ token ∈ tokens floatRepr a, P token
  | [] => by simp [fieldTokens, fieldAtoms]
  | [(key, v)] => by
    have colon := marks_all punctuation (s := ": ") (by decide)
    rw [fieldTokens, fieldAtoms, fieldAtoms, List.append_nil]
    simp only [List.forall_mem_append, List.forall_mem_cons]
    rw [tokens_all v, tokens]
    exact ⟨fun whole => ⟨whole.1, whole.2.2⟩, fun parts => ⟨parts.1, colon, parts.2⟩⟩
  | (key, v) :: f :: rest => by
    have colon := marks_all punctuation (s := ": ") (by decide)
    have comma := marks_all punctuation (s := ", ") (by decide)
    rw [fieldTokens, fieldAtoms]
    simp only [List.forall_mem_append, List.forall_mem_cons]
    rw [tokens_all v, fieldTokens_all (f :: rest), tokens]
    exact ⟨fun whole => ⟨whole.1, whole.2.2.1, whole.2.2.2.2⟩,
      fun parts => ⟨parts.1, colon, parts.2.1, comma, parts.2.2⟩⟩
end

end

theorem marks_weight {s : String} (inside : s.toList ⊆ marks) : tokensWeight (plain s) = 0 := by
  rw [tokensWeight_plain]
  have other : (marks.all fun c => c ≠ 'u' && c ≠ '\\') = true := by decide
  refine weight_zero fun c member => ?_
  simpa using List.all_eq_true.mp other c (inside member)

def atomWeight (a : Json) : Nat := tokensWeight (tokens floatRepr a)

mutual
theorem tokens_weight : ∀ v,
    tokensWeight (tokens floatRepr v) = total (atomWeight floatRepr) (atoms v)
  | .null => by simp [atoms, atomWeight]
  | .bool _ => by simp [atoms, atomWeight]
  | .int _ => by simp [atoms, atomWeight]
  | .float _ => by simp [atoms, atomWeight]
  | .str _ => by simp [atoms, atomWeight]
  | .arr items => by
    rw [tokens, atoms, tokensWeight_append, tokensWeight_append, marks_weight (by decide),
      marks_weight (by decide), itemTokens_weight items]
    simp
  | .obj fields => by
    rw [tokens, atoms, tokensWeight_append, tokensWeight_append, marks_weight (by decide),
      marks_weight (by decide), fieldTokens_weight fields]
    simp
theorem itemTokens_weight : ∀ items,
    tokensWeight (itemTokens floatRepr items) = total (atomWeight floatRepr) (itemAtoms items)
  | [] => rfl
  | [v] => by
    rw [itemTokens, itemAtoms, itemAtoms, List.append_nil]
    exact tokens_weight v
  | v :: w :: rest => by
    rw [itemTokens, itemAtoms, tokensWeight_append, tokensWeight_append, tokens_weight v,
      marks_weight (by decide), itemTokens_weight (w :: rest), total_append, Nat.zero_add]
theorem fieldTokens_weight : ∀ fields,
    tokensWeight (fieldTokens floatRepr fields) = total (atomWeight floatRepr) (fieldAtoms fields)
  | [] => rfl
  | [(key, v)] => by
    rw [fieldTokens, fieldAtoms, fieldAtoms, List.append_nil, tokensWeight_append,
      tokensWeight_append, marks_weight (by decide), tokens_weight v, total_cons, Nat.zero_add]
    rfl
  | (key, v) :: f :: rest => by
    rw [fieldTokens, fieldAtoms, tokensWeight_append, tokensWeight_append, tokensWeight_append,
      tokensWeight_append, marks_weight (by decide), marks_weight (by decide), tokens_weight v,
      fieldTokens_weight (f :: rest), total_cons, total_append, Nat.zero_add, Nat.zero_add]
    rfl
end

end

/-! A string that SQL changes. -/

mutual
theorem atoms_kind : ∀ v, ∀ a ∈ atoms v, Json.kind a < 4
  | .null => by simp [atoms, Json.kind]
  | .bool _ => by simp [atoms, Json.kind]
  | .int _ => by simp [atoms, Json.kind]
  | .float _ => by simp [atoms, Json.kind]
  | .str _ => by simp [atoms, Json.kind]
  | .arr items => itemAtoms_kind items
  | .obj fields => fieldAtoms_kind fields
theorem itemAtoms_kind : ∀ items, ∀ a ∈ itemAtoms items, Json.kind a < 4
  | [] => by simp [itemAtoms]
  | v :: rest => by
    rw [itemAtoms, List.forall_mem_append]
    exact ⟨atoms_kind v, itemAtoms_kind rest⟩
theorem fieldAtoms_kind : ∀ fields, ∀ a ∈ fieldAtoms fields, Json.kind a < 4
  | [] => by simp [fieldAtoms]
  | (key, v) :: rest => by
    rw [fieldAtoms, List.forall_mem_cons, List.forall_mem_append]
    exact ⟨by simp [Json.kind], atoms_kind v, fieldAtoms_kind rest⟩
end

def atomExcess : Json → Nat
  | .str s => (s.toList.map excess).sum
  | _ => 0

section
variable {floatRepr : ℚ → String} {readFloat : List Char → Option ℚ}

theorem total_eq {f g h : Json → Nat} {values : List Json} (each : ∀ a ∈ values, f a + g a = h a) :
    total f values + total g values = total h values := by
  induction values with
  | nil => rfl
  | cons a rest ih =>
    have own := each a List.mem_cons_self
    have later := ih fun b member => each b (List.mem_cons_of_mem a member)
    rw [total_cons, total_cons, total_cons]
    omega

theorem encodeString_weight {s : String} (planes : ∀ c ∈ s.toList, c.toNat < 0x10000) :
    tokensWeight (encodeString s) + (s.toList.map excess).sum = needs (Utf16.units s.toList) := by
  have quote : tokensWeight (plain "\"") = 0 := by decide
  unfold encodeString
  rw [tokensWeight_append, tokensWeight_append, quote, Nat.zero_add, Nat.add_zero]
  revert planes
  induction s.toList with
  | nil => exact fun _ => rfl
  | cons c rest ih =>
    intro planes
    have own := escapeChar_weight (planes c List.mem_cons_self)
    have later := ih fun d member => planes d (List.mem_cons_of_mem c member)
    rw [List.flatMap_cons, tokensWeight_append, List.map_cons, List.sum_cons, Utf16.units_cons,
      needs_append]
    omega

theorem numbers_weight {s : String} (numbers : ∀ c ∈ s.toList, isNumberChar c = true) :
    tokensWeight (plain s) = 0 := by
  rw [tokensWeight_plain]
  refine weight_zero fun c member => ?_
  have number := numberChar_spec (numbers c member)
  exact ⟨number.1, number.2.1⟩

theorem numbers_written {s : String} (numbers : ∀ c ∈ s.toList, isNumberChar c = true) :
    ∀ token ∈ plain s, token.Written :=
  plain_all fun c member => by
    obtain ⟨-, slash, low, high⟩ := numberChar_spec (numbers c member)
    exact ⟨low, high, slash⟩

theorem letters_written {s : String}
    (letters : (s.toList.all fun c => 0x20 ≤ c.toNat && c.toNat < 0x7F && c ≠ '\\') = true) :
    ∀ token ∈ plain s, token.Written :=
  plain_all fun c member => by
    have letter := List.all_eq_true.mp letters c member
    simp only [Bool.and_eq_true, decide_eq_true_eq] at letter
    exact ⟨letter.1.1, letter.1.2, letter.2⟩

theorem float_chars {v : Json} (floats : FloatsRead floatRepr readFloat v) {q : ℚ}
    (member : .float q ∈ atoms v) : ∀ c ∈ (floatRepr q).toList, isNumberChar c = true := by
  obtain ⟨x, text, -⟩ := floats q member
  exact text ▸ floatText_chars x

theorem atom_written {v a : Json} (floats : FloatsRead floatRepr readFloat v)
    (member : a ∈ atoms v) : ∀ token ∈ tokens floatRepr a, token.Written := by
  have atom := atoms_kind v a member
  cases a with
  | null => exact letters_written (s := "null") (by decide)
  | bool b =>
    cases b with
    | true => exact letters_written (s := "true") (by decide)
    | false => exact letters_written (s := "false") (by decide)
  | int n => exact numbers_written (repr_chars n)
  | float q => exact numbers_written (float_chars floats member)
  | str s =>
    have quote := letters_written (s := "\"") (by decide)
    rw [tokens, encodeString, List.forall_mem_append, List.forall_mem_append]
    refine ⟨quote, fun token inside => ?_, quote⟩
    obtain ⟨c, -, own⟩ := List.mem_flatMap.mp inside
    exact escapeChar_written c token own
  | arr items => exact absurd atom (by simp [Json.kind])
  | obj fields => exact absurd atom (by simp [Json.kind])

theorem tokens_written {v : Json} (floats : FloatsRead floatRepr readFloat v) :
    ∀ token ∈ tokens floatRepr v, token.Written := by
  have punctuation : ∀ c ∈ marks, (Token.char c).Written := by
    have each : (marks.all fun c => 0x20 ≤ c.toNat && c.toNat < 0x7F && c ≠ '\\') = true := by
      decide
    intro c member
    have mark := List.all_eq_true.mp each c member
    simp only [Bool.and_eq_true, decide_eq_true_eq] at mark
    exact ⟨mark.1.1, mark.1.2, mark.2⟩
  exact (tokens_all floatRepr punctuation v).mpr fun a member => atom_written floats member

theorem atom_weight {v a : Json} (floats : FloatsRead floatRepr readFloat v) (member : a ∈ atoms v)
    (planes : ∀ s, .str s ∈ atoms v → ∀ c ∈ s.toList, c.toNat < 0x10000) :
    atomWeight floatRepr a + atomExcess a = atomNeed a := by
  have atom := atoms_kind v a member
  cases a with
  | null =>
    show tokensWeight (plain "null") + 0 = 1
    decide
  | bool b => cases b <;> rfl
  | int n => exact numbers_weight (repr_chars n)
  | float q => exact numbers_weight (float_chars floats member)
  | str s => exact encodeString_weight (planes s member)
  | arr items => exact absurd atom (by simp [Json.kind])
  | obj fields => exact absurd atom (by simp [Json.kind])

theorem units_read {ts : List Token} {after : Bool} {text : List Char}
    (read : readTokens after ts = some text) :
    ∀ unit, .unicode unit ∈ ts → unit.isValidChar := by
  induction ts generalizing after text with
  | nil => simp
  | cons token rest ih =>
    have later : ∀ {after : Bool} {tail : List Char}, readTokens after rest = some tail →
        ∀ unit, .unicode unit ∈ rest → unit.isValidChar := ih
    intro unit member
    cases token with
    | char c =>
      rw [readTokens_cons] at read
      obtain ⟨tail, known, -⟩ := Option.map_eq_some_iff.mp read
      exact later known unit (by simpa using member)
    | escape c =>
      have inside : Token.unicode unit ∈ rest := by simpa using member
      rw [readTokens] at read
      split_ifs at read
      · obtain ⟨tail, known, -⟩ := Option.map_eq_some_iff.mp read
        exact later known unit inside
      · obtain ⟨tail, known, -⟩ := Option.map_eq_some_iff.mp read
        exact later known unit inside
      · obtain ⟨d, -, more⟩ := Option.bind_eq_some_iff.mp read
        obtain ⟨tail, known, -⟩ := Option.map_eq_some_iff.mp more
        exact later known unit inside
    | unicode other =>
      obtain ⟨c, character, more⟩ := Option.bind_eq_some_iff.mp read
      obtain ⟨tail, known, -⟩ := Option.map_eq_some_iff.mp more
      rcases List.mem_cons.mp member with same | inside
      · cases same
        unfold SqlLiteral.character at character
        split at character
        · assumption
        · cases character
      · exact later known unit inside

theorem shortName_printable {c : Char} (low : 0x20 ≤ c.toNat) (quote : c ≠ '"') (slash : c ≠ '\\') :
    shortName c = none := by
  have differs : ∀ d : Char, d.toNat < 0x20 → c ≠ d := by
    rintro d small rfl
    omega
  unfold shortName
  rw [if_neg (not_or.mpr ⟨quote, slash⟩), if_neg (differs '\n' (by decide)),
    if_neg (differs '\r' (by decide)), if_neg (differs '\t' (by decide)), if_neg (by omega),
    if_neg (by omega)]

theorem escapeChar_surrogate {c : Char} (astral : ¬ c.toNat < 0x10000) :
    ∃ unit, .unicode unit ∈ escapeChar c ∧ ¬ unit.isValidChar := by
  obtain ⟨high, low, same, h, -⟩ := Utf16.combine_pointUnits astral (char_small c)
  refine ⟨high, ?_, ?_⟩
  · have differs : ∀ d : Char, d.toNat < 0x80 → c ≠ d := by
      rintro d small rfl
      omega
    have other : shortName c = none :=
      shortName_printable (by omega) (differs '"' (by decide)) (differs '\\' (by decide))
    unfold escapeChar
    rw [other]
    dsimp only
    rw [if_neg (by omega), same]
    exact List.mem_cons_self
  · simp only [Utf16.isHigh, decide_eq_true_eq] at h
    simp only [Nat.isValidChar]
    omega

theorem storable_of_comesBack {v : Json} (floats : FloatsRead floatRepr readFloat v)
    (back : ComesBack floatRepr readFloat v) : Storable v := by
  obtain ⟨text, denotes, known⟩ := back
  have written := tokens_written floats
  have read : readTokens false (tokens floatRepr v) = some text.chars := by
    rw [← (unescape_tokens _ written).1, ← known, SqlLiteral.denotes, bodySqlJsonDump_eq]
    rfl
  have planes : ∀ s, .str s ∈ atoms v → ∀ c ∈ s.toList, c.toNat < 0x10000 := by
    intro s member c inside
    by_contra astral
    obtain ⟨unit, own, surrogate⟩ := escapeChar_surrogate astral
    have valid := (tokens_all floatRepr (P := fun token => ∀ unit, token = .unicode unit →
      unit.isValidChar) (by simp) v).mp fun token listed unit same =>
        units_read read unit (same ▸ listed)
    refine surrogate (valid (.str s) member (.unicode unit) ?_ unit rfl)
    rw [tokens, encodeString]
    exact List.mem_append_right _ (List.mem_append_left _ (List.mem_flatMap.mpr ⟨c, inside, own⟩))
  have balance : total (atomWeight floatRepr) (atoms v) + total atomExcess (atoms v) =
      total atomNeed (atoms v) :=
    total_eq fun a member => atom_weight floats member planes
  rw [← tokens_weight, ← weight_readTokens written read] at balance
  have least : total atomNeed (atoms v) ≤ weight text.doc.text := required_doc text.doc denotes
  have most : weight text.doc.text ≤ weight text.chars := by
    rw [JsonSyntax.Text.chars, weight_append, weight_append]
    omega
  have lost : total atomExcess (atoms v) = 0 := by omega
  intro s member c inside
  have own : atomExcess (.str s) = 0 :=
    List.sum_eq_zero_iff_forall_eq_nat.mp lost _ (List.mem_map_of_mem member)
  have kept : excess c = 0 :=
    List.sum_eq_zero_iff_forall_eq_nat.mp own _ (List.mem_map_of_mem inside)
  unfold excess at kept
  split at kept
  · cases kept
  next harmless =>
    refine ⟨fun slash => harmless (.inl slash), ?_, planes s member c inside⟩
    by_cases newline : c = '\n'
    · exact .inl newline
    · exact .inr (Nat.le_of_not_lt fun control => harmless (.inr ⟨control, newline⟩))

end

end NetworkAgent.Operator.JsonLiteral
