import NetworkAgent.Operator.LostEscapes

/-! Exactly the storable bodies are read back from the literals that are written for them. -/
namespace NetworkAgent.Operator.JsonLiteral
open JsonSyntax
open Json (toDigits_head)

/-! What is storable comes back. -/

def Reads (ts : List Token) (text : List Char) : Prop :=
  ∀ more, readTokens false (ts ++ more) = (text ++ ·) <$> readTokens false more

theorem Reads.append {a b : List Token} {x y : List Char} (first : Reads a x) (second : Reads b y) :
    Reads (a ++ b) (x ++ y) := by
  intro more
  rw [List.append_assoc, first, second]
  cases readTokens false more with
  | none => rfl
  | some rest => exact congrArg some (List.append_assoc x y rest).symm

theorem reads_nil : Reads [] [] := fun more => by
  cases h : readTokens false more <;> simp [h]

theorem reads_char (c : Char) : Reads [.char c] [c] := fun _ => rfl

theorem reads_plain (s : String) : Reads (plain s) s.toList := by
  unfold plain
  induction s.toList with
  | nil => exact reads_nil
  | cons c rest ih => exact (reads_char c).append ih

theorem readTokens_of_reads {ts : List Token} {text : List Char} (reads : Reads ts text) :
    readTokens false ts = some text := by
  have whole := reads []
  rw [List.append_nil] at whole
  rw [whole]
  exact congrArg some (List.append_nil text)

theorem reads_escapeChar {c : Char} (storable : StorableChar c) :
    ∃ piece : Piece, piece.units = Utf16.pointUnits c.toNat ∧ Reads (escapeChar c) piece.text := by
  obtain ⟨slash, printable, plane⟩ := storable
  by_cases quote : c = '"'
  · subst quote
    exact ⟨.short '"' 34 (by decide), by decide, fun _ => rfl⟩
  by_cases newline : c = '\n'
  · subst newline
    exact ⟨.short 'n' 10 (by decide), by decide, fun _ => rfl⟩
  have low := printable.resolve_left newline
  have stands : isPlain c = true := by simp [isPlain, low, quote, slash]
  refine ⟨.plain c stands, rfl, ?_⟩
  have other : shortName c = none := shortName_printable low quote slash
  unfold escapeChar
  rw [other]
  dsimp only
  split
  · exact reads_char c
  · rw [pointUnits_plane plane]
    have valid : c.toNat.isValidChar := c.valid
    intro more
    show (SqlLiteral.character c.toNat).bind _ = _
    rw [SqlLiteral.character, if_pos valid, Char.ofNat_toNat]
    rfl

theorem reads_encodeString {s : String} (storable : ∀ c ∈ s.toList, StorableChar c) :
    ∃ pieces, Spells pieces s ∧ Reads (encodeString s) (quoted pieces) := by
  obtain ⟨pieces, spells, inner⟩ : ∃ pieces, piecesUnits pieces = Utf16.units s.toList ∧
      Reads (s.toList.flatMap escapeChar) (piecesText pieces) := by
    revert storable
    induction s.toList with
    | nil => exact fun _ => ⟨[], rfl, reads_nil⟩
    | cons c rest ih =>
      intro storable
      obtain ⟨piece, units, reads⟩ := reads_escapeChar (storable c List.mem_cons_self)
      obtain ⟨pieces, spells, inner⟩ :=
        ih fun d member => storable d (List.mem_cons_of_mem c member)
      refine ⟨piece :: pieces, ?_, reads.append inner⟩
      show piece.units ++ piecesUnits pieces = _
      rw [units, spells, Utf16.units_cons]
  exact ⟨pieces, spells, (reads_plain "\"").append (inner.append (reads_plain "\""))⟩

theorem reads_printable {s : String}
    (printable : ∀ c ∈ s.toList, 0x20 ≤ c.toNat ∧ c.toNat < 0x7F ∧ c ≠ '"' ∧ c ≠ '\\') :
    Reads (encodeString s) ("\"".toList ++ (s.toList ++ "\"".toList)) := by
  have same : s.toList.flatMap escapeChar = plain s := by
    unfold plain
    revert printable
    induction s.toList with
    | nil => exact fun _ => rfl
    | cons c rest ih =>
      intro printable
      obtain ⟨low, high, quote, slash⟩ := printable c List.mem_cons_self
      have other : shortName c = none := shortName_printable low quote slash
      have own : escapeChar c = [.char c] := by
        unfold escapeChar
        rw [other]
        exact if_pos ⟨low, high⟩
      rw [List.flatMap_cons, List.map_cons, own,
        ih fun d member => printable d (List.mem_cons_of_mem c member)]
      rfl
  rw [encodeString, same]
  exact (reads_plain "\"").append ((reads_plain s).append (reads_plain "\""))

theorem intText_repr (n : Int) : ∃ text : IntText, text.text = n.repr.toList ∧ text.value = n := by
  let digits : Digits := ⟨Nat.toDigits 10 n.natAbs, Nat.toDigits_ne_nil, List.all_eq_true.mpr
    fun c member => Nat.isDigit_of_mem_toDigits (by decide) (by decide) member⟩
  have canonical : digits.val.length = 1 ∨ digits.val.head? ≠ some '0' := by
    by_cases zero : n.natAbs = 0
    · left
      show (Nat.toDigits 10 n.natAbs).length = 1
      rw [zero]
      rfl
    · exact .inr (toDigits_head (Nat.pos_of_ne_zero zero))
  have value : Nat.ofDigitChars 10 digits.val 0 = n.natAbs := Nat.ofDigitChars_ten_toDigits
  refine ⟨⟨decide (n < 0), digits, canonical⟩, ?_, ?_⟩
  · show (if decide (n < 0) = true then ['-'] else []) ++ Nat.toDigits 10 n.natAbs = n.repr.toList
    rw [Int.repr_eq_if]
    by_cases negative : n < 0
    · have absolute : (-n).toNat = n.natAbs := by omega
      rw [if_pos (decide_eq_true negative), if_neg (Int.not_le.mpr negative), absolute,
        String.toList_append, Nat.toList_repr]
      rfl
    · have absolute : n.toNat = n.natAbs := by omega
      rw [if_neg (by simp [negative]), if_pos (Int.not_lt.mp negative), absolute, Nat.toList_repr]
      rfl
  · simp only [IntText.value, decide_eq_true_eq, value]
    split <;> omega

section
variable (floatRepr : ℚ → String) (readFloat : List Char → Option ℚ)

/-- Values without members that come back: storable strings, and numbers that are read. -/
structure Fit (values : List Json) : Prop where
  strings : ∀ s, .str s ∈ values → ∀ c ∈ s.toList, StorableChar c
  floats : ∀ q, .float q ∈ values →
    ∃ x : FloatText, x.text = (floatRepr q).toList ∧ readFloat x.text = some q

variable {floatRepr readFloat}

theorem Fit.mono {a b : List Json} (fit : Fit floatRepr readFloat b) (inside : a ⊆ b) :
    Fit floatRepr readFloat a :=
  ⟨fun s member => fit.strings s (inside member), fun q member => fit.floats q (inside member)⟩

theorem Fit.left {a b : List Json} (fit : Fit floatRepr readFloat (a ++ b)) :
    Fit floatRepr readFloat a := fit.mono (List.subset_append_left a b)

theorem Fit.right {a b : List Json} (fit : Fit floatRepr readFloat (a ++ b)) :
    Fit floatRepr readFloat b := fit.mono (List.subset_append_right a b)

def blank : Blanks := ⟨[' '], by decide⟩

theorem noBlanks_blank : ([] : List Char).all JsonSyntax.isBlank = true := rfl

def noBlanks : Blanks := ⟨[], noBlanks_blank⟩

mutual
theorem value_reads : ∀ v, Fit floatRepr readFloat (atoms v) →
    ∃ d : Doc, d.Denotes readFloat v ∧ Reads (tokens floatRepr v) d.text
  | .null, _ => ⟨.null, rfl, reads_plain "null"⟩
  | .bool b, _ => ⟨.bool b, rfl, by cases b <;> exact reads_plain _⟩
  | .int n, _ => by
    obtain ⟨text, written, value⟩ := intText_repr n
    refine ⟨.int text, by rw [← value]; rfl, ?_⟩
    show Reads (plain n.repr) text.text
    rw [written]
    exact reads_plain n.repr
  | .float q, fit => by
    obtain ⟨x, written, value⟩ := fit.floats q List.mem_cons_self
    refine ⟨.float x, ⟨q, value, rfl⟩, ?_⟩
    show Reads (plain (floatRepr q)) x.text
    rw [written]
    exact reads_plain (floatRepr q)
  | .str s, fit => by
    obtain ⟨pieces, spells, reads⟩ := reads_encodeString (fit.strings s List.mem_cons_self)
    exact ⟨.str pieces, ⟨s, spells, rfl⟩, reads⟩
  | .arr [], _ => ⟨.emptyArr noBlanks, rfl, reads_plain "[]"⟩
  | .arr (v :: rest), fit => by
    obtain ⟨text, inner, every⟩ := items_read (v :: rest) (List.cons_ne_nil v rest) fit
    obtain ⟨members, denotes, same⟩ := every noBlanks
    refine ⟨.arr members, ⟨_, denotes, rfl⟩, ?_⟩
    rw [Doc.text, same]
    exact (reads_plain "[").append (inner.append (reads_plain "]"))
  | .obj [], _ => ⟨.emptyObj noBlanks, rfl, reads_plain "\x7b\x7d"⟩
  | .obj ((key, v) :: rest), fit => by
    obtain ⟨text, inner, every⟩ := fields_read ((key, v) :: rest) (List.cons_ne_nil _ rest) fit
    obtain ⟨fields, denotes, same⟩ := every noBlanks
    refine ⟨.obj fields, ⟨_, denotes, rfl⟩, ?_⟩
    rw [Doc.text, same]
    exact (reads_plain "\x7b").append (inner.append (reads_plain "\x7d"))
theorem items_read : ∀ items, items ≠ [] → Fit floatRepr readFloat (itemAtoms items) →
    ∃ text, Reads (itemTokens floatRepr items) text ∧ ∀ front : Blanks,
      ∃ members : Members, members.Denotes readFloat items ∧ members.text = front.val ++ text
  | [], given, _ => absurd rfl given
  | [v], _, fit => by
    obtain ⟨d, denotes, reads⟩ := value_reads v fit.left
    refine ⟨d.text, reads, fun front => ⟨.last front d noBlanks, ⟨v, denotes, rfl⟩, ?_⟩⟩
    rw [Members.text, noBlanks, List.append_nil]
  | v :: w :: rest, _, fit => by
    obtain ⟨d, denotes, reads⟩ := value_reads v fit.left
    obtain ⟨text, later, every⟩ := items_read (w :: rest) (List.cons_ne_nil w rest) fit.right
    obtain ⟨members, others, same⟩ := every blank
    refine ⟨_, reads.append ((reads_plain ", ").append later), fun front =>
      ⟨.more front d noBlanks members, ⟨v, _, denotes, others, rfl⟩, ?_⟩⟩
    rw [Members.text, same]
    rfl
theorem fields_read : ∀ items, items ≠ [] → Fit floatRepr readFloat (fieldAtoms items) →
    ∃ text, Reads (fieldTokens floatRepr items) text ∧ ∀ front : Blanks,
      ∃ fields : Fields, fields.Denotes readFloat items ∧ fields.text = front.val ++ text
  | [], given, _ => absurd rfl given
  | [(key, v)], _, fit => by
    obtain ⟨pieces, spells, name⟩ := reads_encodeString (fit.strings key List.mem_cons_self)
    obtain ⟨d, denotes, reads⟩ := value_reads v (fit.mono (List.subset_cons_self _ _)).left
    refine ⟨_, name.append ((reads_plain ": ").append reads), fun front =>
      ⟨.last front pieces noBlanks blank d noBlanks, ⟨key, v, spells, denotes, rfl⟩, ?_⟩⟩
    simp [Fields.text, fieldText, noBlanks, blank]
  | (key, v) :: f :: rest, _, fit => by
    obtain ⟨pieces, spells, name⟩ := reads_encodeString (fit.strings key List.mem_cons_self)
    have inner := fit.mono (List.subset_cons_self _ _)
    obtain ⟨d, denotes, reads⟩ := value_reads v inner.left
    obtain ⟨text, later, every⟩ := fields_read (f :: rest) (List.cons_ne_nil f rest) inner.right
    obtain ⟨fields, others, same⟩ := every blank
    refine ⟨_, name.append ((reads_plain ": ").append (reads.append
      ((reads_plain ", ").append later))), fun front =>
      ⟨.more front pieces noBlanks blank d noBlanks fields,
        ⟨key, v, _, spells, denotes, others, rfl⟩, ?_⟩⟩
    rw [Fields.text, same]
    simp [fieldText, noBlanks, blank]
end

end

theorem denotes_of_reads {floatRepr : ℚ → String} {v : Json} {text : List Char}
    (written : ∀ token ∈ tokens floatRepr v, token.Written)
    (reads : Reads (tokens floatRepr v) text) :
    SqlLiteral.denotes (bodySqlJsonDump (dumps floatRepr v)) = some text := by
  rw [SqlLiteral.denotes, bodySqlJsonDump_eq]
  exact (unescape_tokens _ written).1.trans (readTokens_of_reads reads)

theorem comesBack_of_storable {floatRepr : ℚ → String} {readFloat : List Char → Option ℚ} {v : Json}
    (floats : FloatsRead floatRepr readFloat v) (storable : Storable v) :
    ComesBack floatRepr readFloat v := by
  obtain ⟨d, denotes, reads⟩ := value_reads v ⟨storable, floats⟩
  refine ⟨⟨noBlanks, d, noBlanks⟩, denotes, ?_⟩
  rw [denotes_of_reads (tokens_written floats) reads]
  exact congrArg some (List.append_nil d.text).symm

/-- A body comes back exactly when none of its strings and keys has a backslash, a control character
other than the end of a line, or a character outside the first plane. -/
theorem body_comes_back_iff (floatRepr : ℚ → String) (readFloat : List Char → Option ℚ) (v : Json)
    (floats : FloatsRead floatRepr readFloat v) :
    ComesBack floatRepr readFloat v ↔ Storable v :=
  ⟨storable_of_comesBack floats, comesBack_of_storable floats⟩

/-- An incident with a number, quotes of both kinds and two lines. -/
def sampleBody : Json :=
  .obj [("severity", .float (3 / 2)), ("message", .str "link 'a' is \"down\"\nsince noon")]

def sampleRepr (_ : ℚ) : String := "1.5"

def sampleRead (text : List Char) : Option ℚ := if text = "1.5".toList then some (3 / 2) else none

theorem sampleBody_atoms : atoms sampleBody = [.str "severity", .float (3 / 2), .str "message",
    .str "link 'a' is \"down\"\nsince noon"] := rfl

theorem sampleBody_floats : FloatsRead sampleRepr sampleRead sampleBody := by
  intro q member
  have value : q = 3 / 2 := by simpa [sampleBody_atoms] using member
  let one : IntText := ⟨false, ⟨['1'], by decide⟩, .inl rfl⟩
  refine ⟨⟨one, some ⟨['5'], by decide⟩, none, .inl (by simp)⟩, ?_, ?_⟩
  · show ['1', '.', '5'] = "1.5".toList
    decide
  · rw [value]
    show sampleRead ['1', '.', '5'] = some (3 / 2)
    exact if_pos (by decide)

theorem body_comes_back_sample : ComesBack sampleRepr sampleRead sampleBody :=
  (body_comes_back_iff sampleRepr sampleRead sampleBody sampleBody_floats).mpr (by
    have each : (["severity", "message", "link 'a' is \"down\"\nsince noon"].all fun s =>
        s.toList.all fun c => decide (StorableChar c)) = true := by decide
    intro s member c inside
    have own := List.all_eq_true.mp each s (by simpa [sampleBody_atoms] using member)
    exact of_decide_eq_true (List.all_eq_true.mp own c inside))

/-- A backslash before `t` is stored as a tab, as the path of a file on another system shows. -/
theorem path_stored_with_tab :
    SqlLiteral.denotes (bodySqlJsonDump (dumps sampleRepr (.obj [("path", .str "C:\\temp")]))) =
      some "\x7b\"path\": \"C:\\temp\"\x7d".toList ∧
    ¬ ComesBack sampleRepr sampleRead (.obj [("path", .str "C:\\temp")]) := by
  refine ⟨by decide, fun back => ?_⟩
  have floats : FloatsRead sampleRepr sampleRead (.obj [("path", .str "C:\\temp")]) := by
    intro q member
    simp [atoms, fieldAtoms] at member
  have plain := storable_of_comesBack floats back "C:\\temp" (by simp [atoms, fieldAtoms]) '\\'
    (by decide)
  exact plain.1 rfl
end NetworkAgent.Operator.JsonLiteral
