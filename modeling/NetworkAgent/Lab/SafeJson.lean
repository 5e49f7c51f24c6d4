import NetworkAgent.Library.Checks
import NetworkAgent.Library.JsonSyntax

/-! Budgeted JSON decoding: the size and the nesting are bounded before the text is parsed,
repeated keys, large integers and numbers that are not finite are refused by the hooks of the
parser, and lone surrogates afterwards. -/
namespace NetworkAgent.SafeJson
open Checks JsonSyntax

inductive StrictJsonError where
  | invalid
  deriving DecidableEq

/-- A document arrives as bytes, or as a text whose code points may be surrogates. -/
inductive Source where
  | bytes (bytes : ByteArray)
  | text (points : List Nat)

def encodeStrict : List Nat → Option (List Char)
  | [] => some []
  | p :: rest =>
    if p < 0xD800 ∨ 0xDFFF < p ∧ p < 0x110000 then (Char.ofNat p :: ·) <$> encodeStrict rest
    else none

def decodeSource (source : Source) (maxBytes : Int) : Except StrictJsonError (List Char) := do
  require (1 ≤ maxBytes) .invalid
  match source with
  | .bytes bytes =>
    require (bytes.size ≤ maxBytes) .invalid
    match String.fromUTF8? bytes with
    | some s => .ok s.toList
    | none => .error .invalid
  | .text points =>
    match encodeStrict points with
    | none => .error .invalid
    | some chars =>
      require ((String.ofList chars).utf8ByteSize ≤ maxBytes) .invalid
      .ok chars

def scanDepth (maxDepth : Int) : Int → Bool → Bool → List Char → Except StrictJsonError Unit
  | _, _, _, [] => .ok ()
  | depth, inString, escaped, character :: rest =>
    if inString then
      if escaped then scanDepth maxDepth depth true false rest
      else if character = '\\' then scanDepth maxDepth depth true true rest
      else if character = '"' then scanDepth maxDepth depth false false rest
      else scanDepth maxDepth depth true false rest
    else if character = '"' then scanDepth maxDepth depth true false rest
    else if character = '[' ∨ character = '\x7b' then
      if depth + 1 > maxDepth then .error .invalid
      else scanDepth maxDepth (depth + 1) false false rest
    else if character = ']' ∨ character = '\x7d' then
      if depth - 1 < 0 then .error .invalid
      else scanDepth maxDepth (depth - 1) false false rest
    else scanDepth maxDepth depth false false rest

def checkDepth (source : List Char) (maxDepth : Int) : Except StrictJsonError Unit := do
  require (1 ≤ maxDepth) .invalid
  scanDepth maxDepth 0 false false source

/-! What the parser hands over. Its strings are lists of code points. -/

inductive Parsed where
  | null
  | bool (b : Bool)
  | int (n : Int)
  | float (q : ℚ)
  | str (points : List Nat)
  | arr (items : List Parsed)
  | obj (fields : List (List Nat × Parsed))

/-- The code points of a string's pieces. Two escapes in a row that are a surrogate pair are
read as one code point. -/
def scanString : List Piece → List Nat
  | [] => []
  | .plain c _ :: rest => c.toNat :: scanString rest
  | .short _ point _ :: rest => point :: scanString rest
  | [.unicode a b c d] => [Piece.number a b c d]
  | .unicode a b c d :: .unicode e f g h :: rest =>
    if Utf16.isHigh (Piece.number a b c d) && Utf16.isLow (Piece.number e f g h) then
      Utf16.combine (Piece.number a b c d) (Piece.number e f g h) :: scanString rest
    else Piece.number a b c d :: scanString (.unicode e f g h :: rest)
  | .unicode a b c d :: next :: rest => Piece.number a b c d :: scanString (next :: rest)

def pairsWithoutDuplicates (result : List (List Nat × Parsed)) :
    List (List Nat × Parsed) → Except StrictJsonError (List (List Nat × Parsed))
  | [] => .ok result
  | (key, value) :: rest =>
    if key ∈ result.map Prod.fst then .error .invalid
    else pairsWithoutDuplicates (result ++ [(key, value)]) rest

def rejectConstant (_ : Constant) : Except StrictJsonError Parsed := .error .invalid

/-- `float` answers no number when the text's number is read as an infinite one. -/
def finiteFloat (float : List Char → Option ℚ) (value : List Char) :
    Except StrictJsonError Parsed :=
  match float value with
  | some q => .ok (.float q)
  | none => .error .invalid

def boundedInt (value : IntText) : Except StrictJsonError Parsed := do
  require (value.digits.val.length ≤ 20) .invalid
  .ok (.int value.value)

section
variable (float : List Char → Option ℚ)

mutual
def Doc.loads : Doc → Except StrictJsonError Parsed
  | .null => .ok .null
  | .bool b => .ok (.bool b)
  | .constant c => rejectConstant c
  | .int n => boundedInt n
  | .float x => finiteFloat float x.text
  | .str pieces => .ok (.str (scanString pieces))
  | .emptyArr _ => .ok (.arr [])
  | .emptyObj _ => .obj <$> pairsWithoutDuplicates [] []
  | .arr members => .arr <$> Members.loads members
  | .obj fields => do .obj <$> pairsWithoutDuplicates [] (← Fields.loads fields)
def Members.loads : Members → Except StrictJsonError (List Parsed)
  | .last _ value _ => do .ok [← Doc.loads value]
  | .more _ value _ rest => do
    let item ← Doc.loads value
    .ok (item :: (← Members.loads rest))
def Fields.loads : Fields → Except StrictJsonError (List (List Nat × Parsed))
  | .last _ key _ _ value _ => do .ok [(scanString key, ← Doc.loads value)]
  | .more _ key _ _ value _ rest => do
    let item ← Doc.loads value
    .ok ((scanString key, item) :: (← Fields.loads rest))
end

end

/-! Strings afterwards. -/

def normalizeString (value : List Nat) : Except StrictJsonError String :=
  match Utf16.decode (Utf16.encode value) with
  | some chars => .ok (String.ofList chars)
  | none => .error .invalid

mutual
def normalizeStrings : Parsed → Except StrictJsonError Json
  | .null => .ok .null
  | .bool b => .ok (.bool b)
  | .int n => .ok (.int n)
  | .float q => .ok (.float q)
  | .str points => Json.str <$> normalizeString points
  | .arr items => Json.arr <$> normalizeItems items
  | .obj fields => Json.obj <$> normalizeFields [] fields
def normalizeItems : List Parsed → Except StrictJsonError (List Json)
  | [] => .ok []
  | item :: rest => do
    let value ← normalizeStrings item
    .ok (value :: (← normalizeItems rest))
def normalizeFields (normalized : List (String × Json)) :
    List (List Nat × Parsed) → Except StrictJsonError (List (String × Json))
  | [] => .ok normalized
  | (rawKey, rawValue) :: rest => do
    let key ← normalizeString rawKey
    require (key ∉ normalized.map Prod.fst) .invalid
    let value ← normalizeStrings rawValue
    normalizeFields (normalized ++ [(key, value)]) rest
end

/-- `parse` reads a text by the grammar, `float` the number of a float's text. -/
def loadStrictJson (parse : List Char → Option Text) (float : List Char → Option ℚ)
    (source : Source) (maxBytes maxDepth : Int) : Except StrictJsonError Json := do
  let text ← decodeSource source maxBytes
  checkDepth text maxDepth
  match parse text with
  | none => .error .invalid
  | some t =>
    let parsed ← Doc.loads float t.doc
    normalizeStrings parsed

/-! The depth scan follows the nesting of the document. -/

def Neutral (c : Char) : Prop := c ∉ ['"', '[', ']', '\x7b', '\x7d']

instance (c : Char) : Decidable (Neutral c) := inferInstanceAs (Decidable (c ∉ _))

theorem neutral_of_all {cs : List Char} (all : (cs.all fun c => decide (Neutral c)) = true) :
    ∀ c ∈ cs, Neutral c :=
  fun c member => of_decide_eq_true (List.all_eq_true.mp all c member)

section
variable {maxDepth depth : Int} {rest : List Char}

theorem scan_char {c : Char} (neutral : Neutral c) :
    scanDepth maxDepth depth false false (c :: rest) =
      scanDepth maxDepth depth false false rest := by
  simp only [Neutral, List.mem_cons, List.not_mem_nil, or_false, not_or] at neutral
  obtain ⟨quote, opens, closes, brace, unbrace⟩ := neutral
  rw [scanDepth]
  simp only [Bool.false_eq_true, if_false, quote, opens, closes, brace, unbrace, or_self]

theorem scan_neutral {cs : List Char} (neutral : ∀ c ∈ cs, Neutral c) :
    scanDepth maxDepth depth false false (cs ++ rest) =
      scanDepth maxDepth depth false false rest := by
  induction cs with
  | nil => rfl
  | cons c cs ih =>
    rw [List.cons_append, scan_char (neutral c List.mem_cons_self)]
    exact ih fun x member => neutral x (List.mem_cons_of_mem c member)

theorem neutral_of_blank {c : Char} (blank : JsonSyntax.isBlank c = true) : Neutral c := by
  simp only [JsonSyntax.isBlank, Bool.or_eq_true, beq_iff_eq] at blank
  rcases blank with ((rfl | rfl) | rfl) | rfl <;> decide

theorem neutral_of_digit {c : Char} (digit : c.isDigit = true) : Neutral c := by
  simp only [Neutral, List.mem_cons, List.not_mem_nil, or_false, not_or]
  refine ⟨?_, ?_, ?_, ?_, ?_⟩ <;> rintro rfl <;> simp [Char.isDigit] at digit

@[simp] theorem scan_blanks (blanks : Blanks) :
    scanDepth maxDepth depth false false (blanks.val ++ rest) =
      scanDepth maxDepth depth false false rest :=
  scan_neutral fun c member => neutral_of_blank (List.all_eq_true.mp blanks.2 c member)

theorem digits_neutral (digits : Digits) : ∀ c ∈ digits.val, Neutral c := fun c member =>
  neutral_of_digit (List.all_eq_true.mp digits.2.2 c member)

theorem int_neutral (n : IntText) : ∀ c ∈ n.text, Neutral c := by
  intro c member
  rcases List.mem_append.mp member with sign | digit
  · split at sign
    · cases List.mem_singleton.mp sign
      decide
    · cases sign
  · exact digits_neutral n.digits c digit

theorem exponent_neutral (e : Exponent) : ∀ c ∈ e.text, Neutral c := by
  intro c member
  rcases List.mem_cons.mp member with rfl | later
  · split <;> decide
  · rcases List.mem_append.mp later with sign | digit
    · cases known : e.sign with
      | none => simp [known] at sign
      | some minus =>
        rw [known] at sign
        cases List.mem_singleton.mp sign
        cases minus <;> decide
    · exact digits_neutral e.digits c digit

theorem float_neutral (x : FloatText) : ∀ c ∈ x.text, Neutral c := by
  intro c member
  rcases List.mem_append.mp member with whole | later
  · exact int_neutral x.whole c whole
  · rcases List.mem_append.mp later with fraction | exponent
    · cases known : x.fraction with
      | none => simp [known] at fraction
      | some digits =>
        rw [known] at fraction
        rcases List.mem_cons.mp fraction with rfl | digit
        · decide
        · exact digits_neutral digits c digit
    · cases known : x.exponent with
      | none => simp [known] at exponent
      | some e =>
        rw [known] at exponent
        exact exponent_neutral e c exponent

theorem constant_neutral (x : Constant) : ∀ c ∈ x.text, Neutral c := by
  cases x <;> exact neutral_of_all (by decide)

/-! Inside a string the scan only looks for the closing quote. -/

theorem scan_plain {c : Char} (stands : isPlain c = true) :
    scanDepth maxDepth depth true false (c :: rest) =
      scanDepth maxDepth depth true false rest := by
  simp only [isPlain, Bool.and_eq_true, bne_iff_ne, ne_eq] at stands
  simp [scanDepth, stands.1.2, stands.2]

theorem plain_of_hex (h : Hex) : isPlain h.char = true := by
  have reads := h.reads
  unfold hexValue at reads
  simp only [Char.le_def, UInt32.le_iff_toNat_le] at reads
  have size : h.char.toNat = h.char.val.toNat := rfl
  have bounds : '0'.val.toNat = 48 ∧ 'a'.val.toNat = 97 ∧ 'A'.val.toNat = 65 := ⟨rfl, rfl, rfl⟩
  simp only [isPlain, Bool.and_eq_true, decide_eq_true_eq, bne_iff_ne, ne_eq]
  refine ⟨⟨?_, ?_⟩, ?_⟩
  · split_ifs at reads <;> omega
  · intro same
    simp [same] at reads
  · intro same
    simp [same] at reads

theorem scan_escaped {c : Char} :
    scanDepth maxDepth depth true false ('\\' :: c :: rest) =
      scanDepth maxDepth depth true false rest := by
  simp [scanDepth]

theorem scan_piece (p : Piece) :
    scanDepth maxDepth depth true false (p.text ++ rest) =
      scanDepth maxDepth depth true false rest := by
  cases p with
  | plain c stands => exact scan_plain stands
  | short c point known => exact scan_escaped
  | unicode a b c d =>
    simp only [Piece.text, List.cons_append, List.nil_append]
    rw [scan_escaped, scan_plain (plain_of_hex a), scan_plain (plain_of_hex b),
      scan_plain (plain_of_hex c), scan_plain (plain_of_hex d)]

theorem scan_pieces (pieces : List Piece) :
    scanDepth maxDepth depth true false (piecesText pieces ++ rest) =
      scanDepth maxDepth depth true false rest := by
  induction pieces with
  | nil => rfl
  | cons p pieces ih =>
    rw [piecesText, List.flatMap_cons, List.append_assoc, scan_piece]
    exact ih

@[simp] theorem scan_quoted (pieces : List Piece) :
    scanDepth maxDepth depth false false (quoted pieces ++ rest) =
      scanDepth maxDepth depth false false rest := by
  have opened : scanDepth maxDepth depth false false (quoted pieces ++ rest) =
      scanDepth maxDepth depth true false (piecesText pieces ++ '"' :: rest) := by
    simp [quoted, scanDepth]
  rw [opened, scan_pieces]
  simp [scanDepth]

/-! Brackets. -/

theorem scan_open {c : Char} (opens : c = '[' ∨ c = '\x7b') :
    scanDepth maxDepth depth false false (c :: rest) = .ok () ↔
      depth + 1 ≤ maxDepth ∧ scanDepth maxDepth (depth + 1) false false rest = .ok () := by
  have noQuote : c ≠ '"' := by rcases opens with rfl | rfl <;> decide
  rw [scanDepth]
  simp only [Bool.false_eq_true, if_false, noQuote, opens, if_true]
  by_cases deep : depth + 1 > maxDepth
  · simp only [deep, if_true, reduceCtorEq, false_iff]
    omega
  · simp only [deep, if_false]
    exact ⟨fun done => ⟨by omega, done⟩, fun both => both.2⟩

theorem scan_close {c : Char} (closes : c = ']' ∨ c = '\x7d') (inside : 0 ≤ depth) :
    scanDepth maxDepth (depth + 1) false false (c :: rest) =
      scanDepth maxDepth depth false false rest := by
  have others : c ≠ '"' ∧ ¬ (c = '[' ∨ c = '\x7b') := by rcases closes with rfl | rfl <;> decide
  rw [scanDepth]
  simp only [Bool.false_eq_true, if_false, others, closes, if_true]
  rw [if_neg (by omega)]
  simp

end

/-- Brackets around what goes `inner` deep. -/
theorem scan_brackets {maxDepth depth : Int} {opening closing : Char} {inner : Nat}
    {body rest : List Char} (opens : opening = '[' ∨ opening = '\x7b')
    (closes : closing = ']' ∨ closing = '\x7d') (inside : 0 ≤ depth)
    (within : depth + 1 ≤ maxDepth →
      (scanDepth maxDepth (depth + 1) false false (body ++ closing :: rest) = .ok () ↔
        depth + 1 + inner ≤ maxDepth ∧
          scanDepth maxDepth (depth + 1) false false (closing :: rest) = .ok ())) :
    scanDepth maxDepth depth false false (opening :: (body ++ closing :: rest)) = .ok () ↔
      depth + (inner + 1 : Nat) ≤ maxDepth ∧
        scanDepth maxDepth depth false false rest = .ok () := by
  rw [scan_open opens]
  rw [scan_close closes inside] at within
  push_cast
  constructor
  · rintro ⟨room, done⟩
    obtain ⟨fits, later⟩ := (within room).mp done
    exact ⟨by omega, later⟩
  · rintro ⟨fits, later⟩
    have room : depth + 1 ≤ maxDepth := by omega
    exact ⟨room, (within room).mpr ⟨by omega, later⟩⟩

section
variable {maxDepth : Int}

mutual
theorem scan_doc (d : Doc) {depth : Int} {rest : List Char} (inside : 0 ≤ depth)
    (within : depth ≤ maxDepth) :
    scanDepth maxDepth depth false false (d.text ++ rest) = .ok () ↔
      depth + d.depth ≤ maxDepth ∧ scanDepth maxDepth depth false false rest = .ok () := by
  have scalar : ∀ cs : List Char, (∀ c ∈ cs, Neutral c) →
      (scanDepth maxDepth depth false false (cs ++ rest) = .ok () ↔
        depth + (0 : Nat) ≤ maxDepth ∧ scanDepth maxDepth depth false false rest = .ok ()) := by
    intro cs neutral
    rw [scan_neutral neutral]
    simp [within]
  cases d with
  | null => exact scalar "null".toList (neutral_of_all (by decide))
  | bool b => exact scalar _ (neutral_of_all (by cases b <;> decide))
  | constant c => exact scalar _ (constant_neutral c)
  | int n => exact scalar _ (int_neutral n)
  | float x => exact scalar _ (float_neutral x)
  | str pieces => simp [Doc.text, Doc.depth, within]
  | emptyArr blanks =>
    simp only [Doc.text, List.cons_append, List.append_assoc, List.nil_append]
    refine scan_brackets (.inl rfl) (.inl rfl) inside fun room => ?_
    simpa using fun _ => room
  | emptyObj blanks =>
    simp only [Doc.text, List.cons_append, List.append_assoc, List.nil_append]
    refine scan_brackets (.inr rfl) (.inr rfl) inside fun room => ?_
    simpa using fun _ => room
  | arr members =>
    simp only [Doc.text, List.cons_append, List.append_assoc, List.nil_append]
    exact scan_brackets (.inl rfl) (.inl rfl) inside (scan_members members (by omega))
  | obj fields =>
    simp only [Doc.text, List.cons_append, List.append_assoc, List.nil_append]
    exact scan_brackets (.inr rfl) (.inr rfl) inside (scan_fields fields (by omega))
theorem scan_members (m : Members) {depth : Int} {rest : List Char} (inside : 0 ≤ depth)
    (within : depth ≤ maxDepth) :
    scanDepth maxDepth depth false false (m.text ++ rest) = .ok () ↔
      depth + m.depth ≤ maxDepth ∧ scanDepth maxDepth depth false false rest = .ok () := by
  cases m with
  | last before value after =>
    simp only [Members.text, Members.depth, List.append_assoc, scan_blanks]
    rw [scan_doc value inside within, scan_blanks]
  | more before value after others =>
    simp only [Members.text, Members.depth, List.append_assoc, List.cons_append, scan_blanks]
    rw [scan_doc value inside within, scan_blanks, scan_char (by decide),
      scan_members others inside within, ← and_assoc]
    refine and_congr_left fun _ => ?_
    omega
theorem scan_fields (f : Fields) {depth : Int} {rest : List Char} (inside : 0 ≤ depth)
    (within : depth ≤ maxDepth) :
    scanDepth maxDepth depth false false (f.text ++ rest) = .ok () ↔
      depth + f.depth ≤ maxDepth ∧ scanDepth maxDepth depth false false rest = .ok () := by
  cases f with
  | last front key middle before value after =>
    simp only [Fields.text, fieldText, Fields.depth, List.append_assoc, List.cons_append,
      scan_blanks, scan_quoted]
    rw [scan_char (by decide), scan_blanks, scan_doc value inside within, scan_blanks]
  | more front key middle before value after others =>
    simp only [Fields.text, fieldText, Fields.depth, List.append_assoc, List.cons_append,
      scan_blanks, scan_quoted]
    rw [scan_char (by decide), scan_blanks, scan_doc value inside within, scan_blanks,
      scan_char (by decide), scan_fields others inside within, ← and_assoc]
    refine and_congr_left fun _ => ?_
    omega
end

theorem checkDepth_ok (t : Text) :
    checkDepth t.chars maxDepth = .ok () ↔ 1 ≤ maxDepth ∧ (t.doc.depth : Int) ≤ maxDepth := by
  rw [checkDepth, seq_ok, require_ok]
  refine and_congr_right fun positive => ?_
  have ended : scanDepth maxDepth 0 false false t.after.val = .ok () := by
    rw [← List.append_nil t.after.val, scan_blanks]
    rfl
  rw [JsonSyntax.Text.chars, scan_blanks, scan_doc t.doc (le_refl 0) (by omega), Int.zero_add]
  exact and_iff_left ended

end

/-! Strings: the parser joins the pairs, and the second decoding finds what is left over. -/

theorem number_lt (a b c d : Hex) : Piece.number a b c d < 0x10000 := by
  have bounds := And.intro a.value.isLt (And.intro b.value.isLt
    (And.intro c.value.isLt d.value.isLt))
  unfold Piece.number
  omega

theorem shortEscape_lt {c : Char} {point : Nat} (known : shortEscape c = some point) :
    point < 0x80 := by
  unfold shortEscape at known
  split_ifs at known <;> simp only [Option.some.injEq] at known <;> omega

theorem units_lt (p : Piece) : ∀ u ∈ p.units, u < 0x10000 := by
  cases p with
  | plain c stands =>
    have bound := Utf16.char_bounds c
    simp only [Piece.units, Utf16.pointUnits]
    split <;> simp <;> omega
  | short c point known =>
    have bound := shortEscape_lt known
    simp only [Piece.units, List.mem_singleton, forall_eq]
    omega
  | unicode a b c d => simpa [Piece.units] using number_lt a b c d

theorem piecesUnits_lt (pieces : List Piece) : ∀ u ∈ piecesUnits pieces, u < 0x10000 := by
  intro u member
  obtain ⟨p, _, inside⟩ := List.mem_flatMap.mp member
  exact units_lt p u inside

theorem encode_cons (p : Nat) (points : List Nat) :
    Utf16.encode (p :: points) = Utf16.pointUnits p ++ Utf16.encode points := by
  simp [Utf16.encode]

theorem piecesUnits_cons (p : Piece) (pieces : List Piece) :
    piecesUnits (p :: pieces) = p.units ++ piecesUnits pieces := by
  simp [piecesUnits]

theorem encode_scanString (pieces : List Piece) :
    Utf16.encode (scanString pieces) = piecesUnits pieces := by
  have small : ∀ {p : Nat}, p < 0x10000 → Utf16.pointUnits p = [p] := fun bound => by
    rw [Utf16.pointUnits, if_pos bound]
  induction pieces using scanString.induct with
  | case1 => rfl
  | case2 c stands rest ih => rw [scanString, encode_cons, ih, piecesUnits_cons, Piece.units]
  | case3 c point known rest ih =>
    have bound := shortEscape_lt known
    rw [scanString, encode_cons, ih, piecesUnits_cons, Piece.units, small (by omega)]
  | case4 a b c d =>
    rw [scanString, encode_cons, small (number_lt a b c d)]
    rfl
  | case5 a b c d e f g h rest pair ih =>
    rw [Bool.and_eq_true] at pair
    rw [scanString, if_pos (by simp [pair]), encode_cons, ih, Utf16.pointUnits_combine pair.1 pair.2]
    rfl
  | case6 a b c d e f g h rest pair ih =>
    rw [scanString, if_neg pair, encode_cons, ih, small (number_lt a b c d)]
    rfl
  | case7 a b c d next rest other ih =>
    rw [scanString, encode_cons, ih, small (number_lt a b c d)]
    · rfl
    · exact other

theorem normalizeString_ok {pieces : List Piece} {s : String} :
    normalizeString (scanString pieces) = .ok s ↔ Spells pieces s := by
  rw [normalizeString, encode_scanString, Spells, ← Utf16.decode_eq_some (piecesUnits_lt pieces)]
  cases Utf16.decode (piecesUnits pieces) with
  | none => simp
  | some chars =>
    simp only [Except.ok.injEq, Option.some.injEq]
    exact ⟨fun same => by simp [← same], fun same => by simp [same]⟩

section
variable {K V : Type} {acc : List (K × V)} {key : K} {value : V}

theorem nodup_longer (distinct : (acc.map Prod.fst).Nodup) (fresh : key ∉ acc.map Prod.fst) :
    ((acc ++ [(key, value)]).map Prod.fst).Nodup := by
  rw [List.map_append, List.nodup_append]
  refine ⟨distinct, by simp, ?_⟩
  rintro k member l last rfl
  simp only [List.map_cons, List.map_nil, List.mem_singleton] at last
  exact fresh (last ▸ member)

theorem fresh_of_nodup {rest : List (K × V)}
    (distinct : ((acc ++ (key, value) :: rest).map Prod.fst).Nodup) : key ∉ acc.map Prod.fst := by
  rw [List.map_append, List.nodup_append] at distinct
  exact fun member => distinct.2.2 key member key (by simp) rfl

end

theorem pairsWithoutDuplicates_ok {pairs result out : List (List Nat × Parsed)} :
    (result.map Prod.fst).Nodup → (pairsWithoutDuplicates result pairs = .ok out ↔
      ((result ++ pairs).map Prod.fst).Nodup ∧ out = result ++ pairs) := by
  induction pairs generalizing result with
  | nil =>
    intro distinct
    simp [pairsWithoutDuplicates, distinct, eq_comm]
  | cons pair rest ih =>
    intro distinct
    obtain ⟨key, value⟩ := pair
    rw [pairsWithoutDuplicates]
    by_cases known : key ∈ result.map Prod.fst
    · rw [if_pos known]
      simp only [reduceCtorEq, false_iff]
      exact fun both => fresh_of_nodup both.1 known
    · rw [if_neg known, ih (nodup_longer distinct known), List.append_assoc]
      rfl

/-! What the hooks check on one document inside the text, beyond its having a meaning. -/

def Kept : Doc → Prop
  | .int n => n.digits.val.length ≤ 20
  | .obj fields => (fields.keys.map piecesUnits).Nodup
  | _ => True

section
variable {float : List Char → Option ℚ}

theorem loads_keys (f : Fields) {pairs : List (List Nat × Parsed)}
    (loaded : Fields.loads float f = .ok pairs) :
    pairs.map Prod.fst = f.keys.map scanString := by
  cases f with
  | last front key middle before value after =>
    simp only [Fields.loads, bind_ok, Except.ok.injEq] at loaded
    obtain ⟨item, _, rfl⟩ := loaded
    rfl
  | more front key middle before value after others =>
    simp only [Fields.loads, bind_ok, Except.ok.injEq] at loaded
    obtain ⟨item, _, rest, later, rfl⟩ := loaded
    rw [List.map_cons, loads_keys others later]
    rfl

theorem denotes_keys (f : Fields) {items : List (String × Json)}
    (means : f.Denotes float items) : List.Forall₂ Spells f.keys (items.map Prod.fst) := by
  cases f with
  | last front key middle before value after =>
    obtain ⟨s, v, spells, _, rfl⟩ := means
    exact .cons spells .nil
  | more front key middle before value after others =>
    obtain ⟨s, v, vs, spells, _, later, rfl⟩ := means
    exact .cons spells (denotes_keys others later)

theorem nodup_spelled {keys : List (List Piece)} {names : List String}
    (spelled : List.Forall₂ Spells keys names) :
    (keys.map piecesUnits).Nodup ↔ names.Nodup := by
  have same : keys.map piecesUnits = names.map fun s => Utf16.units s.toList := by
    induction spelled with
    | nil => rfl
    | cons head _ ih =>
      rw [List.map_cons, List.map_cons, ih]
      exact congrArg (· :: _) head
  rw [same]
  exact List.nodup_map_iff fun a b units => String.toList_injective (Utf16.units_injective units)

theorem nodup_scanned {keys : List (List Piece)} (distinct : (keys.map piecesUnits).Nodup) :
    (keys.map scanString).Nodup := by
  have same : keys.map piecesUnits = (keys.map scanString).map Utf16.encode := by
    simp [encode_scanString]
  exact List.Nodup.of_map _ (same ▸ distinct)

theorem normalizeFields_cons {acc out : List (String × Json)} {rawKey : List Nat}
    {rawValue : Parsed} {rest : List (List Nat × Parsed)} :
    normalizeFields acc ((rawKey, rawValue) :: rest) = .ok out ↔
      ∃ key, normalizeString rawKey = .ok key ∧ key ∉ acc.map Prod.fst ∧
        ∃ value, normalizeStrings rawValue = .ok value ∧
          normalizeFields (acc ++ [(key, value)]) rest = .ok out := by
  rw [normalizeFields, bind_ok]
  refine exists_congr fun key => and_congr_right fun _ => ?_
  rw [seq_ok, require_ok, bind_ok]

mutual
theorem loads_doc (d : Doc) {v : Json} :
    (∃ p, Doc.loads float d = .ok p ∧ normalizeStrings p = .ok v) ↔
      (∀ x ∈ d.parts, Kept x) ∧ d.Denotes float v := by
  cases d with
  | null => simp [Doc.loads, normalizeStrings, Doc.parts, Kept, Doc.Denotes, eq_comm]
  | bool b => simp [Doc.loads, normalizeStrings, Doc.parts, Kept, Doc.Denotes, eq_comm]
  | constant c => simp [Doc.loads, rejectConstant, Doc.Denotes]
  | int n =>
    simp only [Doc.loads, boundedInt, seq_ok, require_ok, Doc.parts, List.mem_singleton, forall_eq,
      Kept, Doc.Denotes, Except.ok.injEq]
    constructor
    · rintro ⟨p, ⟨short, rfl⟩, done⟩
      simp only [normalizeStrings, Except.ok.injEq] at done
      exact ⟨short, done.symm⟩
    · rintro ⟨short, rfl⟩
      exact ⟨_, ⟨short, rfl⟩, rfl⟩
  | float x =>
    simp only [Doc.loads, finiteFloat, Doc.parts, List.mem_singleton, forall_eq, Kept, Doc.Denotes,
      true_and]
    cases float x.text with
    | none => simp
    | some q => simp [normalizeStrings, eq_comm]
  | str pieces =>
    simp only [Doc.loads, Except.ok.injEq, exists_eq_left', normalizeStrings, map_ok,
      normalizeString_ok, Doc.parts, List.mem_singleton, forall_eq, Kept, true_and, Doc.Denotes]
    exact exists_congr fun s => and_congr_right fun _ => eq_comm
  | emptyArr inside =>
    simp [Doc.loads, normalizeStrings, normalizeItems, Doc.parts, Kept, Doc.Denotes, eq_comm]
  | emptyObj inside =>
    simp [Doc.loads, pairsWithoutDuplicates, normalizeStrings, normalizeFields, Doc.parts,
      Kept, Doc.Denotes, eq_comm]
  | arr members =>
    have inner (items : List Json) :
        (∃ ps, Members.loads float members = .ok ps ∧ normalizeItems ps = .ok items) ↔
          (∀ x ∈ members.parts, Kept x) ∧ members.Denotes float items := loads_members members
    simp only [Doc.loads, map_ok, Doc.parts, List.mem_cons, forall_eq_or_imp, Kept, true_and,
      Doc.Denotes]
    constructor
    · rintro ⟨p, ⟨ps, loaded, rfl⟩, done⟩
      simp only [normalizeStrings, map_ok] at done
      obtain ⟨items, normal, rfl⟩ := done
      obtain ⟨kept, means⟩ := (inner items).mp ⟨ps, loaded, normal⟩
      exact ⟨kept, items, means, rfl⟩
    · rintro ⟨kept, items, means, rfl⟩
      obtain ⟨ps, loaded, normal⟩ := (inner items).mpr ⟨kept, means⟩
      exact ⟨_, ⟨ps, loaded, rfl⟩, by simp [normalizeStrings, normal]⟩
  | obj fields =>
    have inner (out : List (String × Json)) :
        (∃ ps, Fields.loads float fields = .ok ps ∧ normalizeFields [] ps = .ok out) ↔
          (∀ x ∈ fields.parts, Kept x) ∧ ∃ items, fields.Denotes float items ∧
            out = [] ++ items ∧ (out.map Prod.fst).Nodup := loads_fields fields List.nodup_nil
    have checked := fun pairs out => @pairsWithoutDuplicates_ok pairs [] out List.nodup_nil
    simp only [Doc.loads, bind_ok, map_ok, Doc.parts, List.mem_cons, forall_eq_or_imp, Kept,
      Doc.Denotes, checked, List.nil_append]
    constructor
    · rintro ⟨p, ⟨_, loaded, pairs, ⟨_, rfl⟩, rfl⟩, done⟩
      simp only [normalizeStrings, map_ok] at done
      obtain ⟨out, normal, rfl⟩ := done
      obtain ⟨kept, _, means, rfl, distinct⟩ := (inner out).mp ⟨pairs, loaded, normal⟩
      exact ⟨⟨(nodup_spelled (denotes_keys fields means)).mpr distinct, kept⟩, out, means, rfl⟩
    · rintro ⟨⟨distinct, kept⟩, items, means, rfl⟩
      obtain ⟨pairs, loaded, normal⟩ := (inner items).mpr
        ⟨kept, items, means, rfl, (nodup_spelled (denotes_keys fields means)).mp distinct⟩
      have raw := loads_keys fields loaded
      exact ⟨_, ⟨pairs, loaded, pairs, ⟨raw ▸ nodup_scanned distinct, rfl⟩, rfl⟩,
        by simp [normalizeStrings, normal]⟩
theorem loads_members (m : Members) {items : List Json} :
    (∃ ps, Members.loads float m = .ok ps ∧ normalizeItems ps = .ok items) ↔
      (∀ x ∈ m.parts, Kept x) ∧ m.Denotes float items := by
  cases m with
  | last before value after =>
    have first := fun v => loads_doc value (v := v)
    simp only [Members.loads, bind_ok, Except.ok.injEq, Members.parts, Members.Denotes]
    constructor
    · rintro ⟨ps, ⟨p, loaded, rfl⟩, done⟩
      simp only [normalizeItems, bind_ok, Except.ok.injEq, exists_eq_left'] at done
      obtain ⟨v, normal, rfl⟩ := done
      obtain ⟨kept, means⟩ := (first v).mp ⟨p, loaded, normal⟩
      exact ⟨kept, v, means, rfl⟩
    · rintro ⟨kept, v, means, rfl⟩
      obtain ⟨p, loaded, normal⟩ := (first v).mpr ⟨kept, means⟩
      exact ⟨_, ⟨p, loaded, rfl⟩, by simp [normalizeItems, normal, Bind.bind, Except.bind]⟩
  | more before value after others =>
    have first := fun v => loads_doc value (v := v)
    have rest (vs : List Json) :
        (∃ ps, Members.loads float others = .ok ps ∧ normalizeItems ps = .ok vs) ↔
          (∀ x ∈ others.parts, Kept x) ∧ others.Denotes float vs := loads_members others
    simp only [Members.loads, bind_ok, Except.ok.injEq, Members.parts, List.mem_append, or_imp,
      forall_and, Members.Denotes]
    constructor
    · rintro ⟨ps, ⟨p, loaded, later, loadedRest, rfl⟩, done⟩
      simp only [normalizeItems, bind_ok, Except.ok.injEq] at done
      obtain ⟨v, normal, vs, normalRest, rfl⟩ := done
      obtain ⟨kept, means⟩ := (first v).mp ⟨p, loaded, normal⟩
      obtain ⟨keptRest, meansRest⟩ := (rest vs).mp ⟨later, loadedRest, normalRest⟩
      exact ⟨⟨kept, keptRest⟩, v, vs, means, meansRest, rfl⟩
    · rintro ⟨⟨kept, keptRest⟩, v, vs, means, meansRest, rfl⟩
      obtain ⟨p, loaded, normal⟩ := (first v).mpr ⟨kept, means⟩
      obtain ⟨later, loadedRest, normalRest⟩ := (rest vs).mpr ⟨keptRest, meansRest⟩
      exact ⟨_, ⟨p, loaded, later, loadedRest, rfl⟩,
        by simp [normalizeItems, normal, normalRest, Bind.bind, Except.bind]⟩
theorem loads_fields (f : Fields) {acc out : List (String × Json)}
    (distinct : (acc.map Prod.fst).Nodup) :
    (∃ ps, Fields.loads float f = .ok ps ∧ normalizeFields acc ps = .ok out) ↔
      (∀ x ∈ f.parts, Kept x) ∧ ∃ items, f.Denotes float items ∧ out = acc ++ items ∧
        (out.map Prod.fst).Nodup := by
  cases f with
  | last front key middle before value after =>
    have first := fun v => loads_doc value (v := v)
    simp only [Fields.loads, bind_ok, Except.ok.injEq, Fields.parts, Fields.Denotes]
    constructor
    · rintro ⟨ps, ⟨p, loaded, rfl⟩, done⟩
      rw [normalizeFields_cons] at done
      simp only [normalizeFields, Except.ok.injEq] at done
      obtain ⟨s, spells, fresh, v, normal, rfl⟩ := done
      obtain ⟨kept, means⟩ := (first v).mp ⟨p, loaded, normal⟩
      exact ⟨kept, _, ⟨s, v, normalizeString_ok.mp spells, means, rfl⟩, rfl,
        nodup_longer distinct fresh⟩
    · rintro ⟨kept, items, ⟨s, v, spells, means, rfl⟩, rfl, apart⟩
      obtain ⟨p, loaded, normal⟩ := (first v).mpr ⟨kept, means⟩
      refine ⟨_, ⟨p, loaded, rfl⟩, ?_⟩
      rw [normalizeFields_cons]
      simp only [normalizeFields, Except.ok.injEq]
      exact ⟨s, normalizeString_ok.mpr spells, fresh_of_nodup apart, v, normal, rfl⟩
  | more front key middle before value after others =>
    have first := fun v => loads_doc value (v := v)
    simp only [Fields.loads, bind_ok, Except.ok.injEq, Fields.parts, List.mem_append, or_imp,
      forall_and, Fields.Denotes]
    constructor
    · rintro ⟨ps, ⟨p, loaded, later, loadedRest, rfl⟩, done⟩
      rw [normalizeFields_cons] at done
      obtain ⟨s, spells, fresh, v, normal, normalRest⟩ := done
      obtain ⟨kept, means⟩ := (first v).mp ⟨p, loaded, normal⟩
      obtain ⟨keptRest, vs, meansRest, rfl, apart⟩ :=
        (loads_fields others (nodup_longer distinct fresh)).mp ⟨later, loadedRest, normalRest⟩
      exact ⟨⟨kept, keptRest⟩, _, ⟨s, v, vs, normalizeString_ok.mp spells, means, meansRest, rfl⟩,
        by simp, apart⟩
    · rintro ⟨⟨kept, keptRest⟩, items, ⟨s, v, vs, spells, means, meansRest, rfl⟩, rfl, apart⟩
      obtain ⟨p, loaded, normal⟩ := (first v).mpr ⟨kept, means⟩
      have fresh := fresh_of_nodup apart
      obtain ⟨later, loadedRest, normalRest⟩ :=
        (loads_fields others (nodup_longer distinct fresh)).mpr
          ⟨keptRest, vs, meansRest, (List.append_cons acc (s, v) vs), apart⟩
      refine ⟨_, ⟨p, loaded, later, loadedRest, rfl⟩, ?_⟩
      rw [normalizeFields_cons]
      exact ⟨s, normalizeString_ok.mpr spells, fresh, v, normal, normalRest⟩
end

end

theorem kept_iff (d : Doc) :
    (∀ x ∈ d.parts, Kept x) ↔ d.DistinctKeys ∧ d.ShortIntegers 20 := by
  constructor
  · exact fun kept => ⟨fun fields member => kept _ member, fun n member => kept _ member⟩
  · rintro ⟨distinct, short⟩ x member
    cases x with
    | int n => exact short n member
    | obj fields => exact distinct fields member
    | _ => trivial

theorem decodeSource_ok {bytes : ByteArray} {text : List Char} {maxBytes : Int}
    (spelled : String.fromUTF8? bytes = some (String.ofList text)) (given : text ≠ [])
    {chars : List Char} : decodeSource (.bytes bytes) maxBytes = .ok chars ↔
      (bytes.size : Int) ≤ maxBytes ∧ chars = text := by
  have nonempty : 0 < bytes.size := by
    rw [String.fromUTF8?] at spelled
    split at spelled
    · have same := congrArg String.utf8ByteSize (Option.some.inj spelled)
      have size : (String.ofList text).utf8ByteSize ≠ 0 := fun zero =>
        given (String.ofList_eq_empty_iff.mp (String.utf8ByteSize_eq_zero_iff.mp zero))
      exact Nat.pos_of_ne_zero fun zero => size (same ▸ zero)
    · cases spelled
  rw [decodeSource, seq_ok, require_ok]
  simp only [spelled, String.toList_ofList]
  rw [seq_ok, require_ok, Except.ok.injEq]
  constructor
  · rintro ⟨_, size, rfl⟩
    exact ⟨size, rfl⟩
  · rintro ⟨size, rfl⟩
    exact ⟨by omega, size, rfl⟩

theorem chars_ne_nil (t : Text) : t.chars ≠ [] := by
  have number : ∀ n : IntText, n.text ≠ [] := fun n => by simp [IntText.text, n.digits.2.1]
  have inner : t.doc.text ≠ [] := by
    cases t.doc with
    | bool b => cases b <;> decide
    | constant c => cases c <;> decide
    | int n => exact number n
    | float x => exact fun empty => number x.whole (List.append_eq_nil_iff.mp empty).1
    | null => decide
    | str pieces => simp [Doc.text, quoted]
    | emptyArr inside => simp [Doc.text]
    | emptyObj inside => simp [Doc.text]
    | arr members => simp [Doc.text]
    | obj fields => simp [Doc.text]
  simp [JsonSyntax.Text.chars, inner]

section
variable {parse : List Char → Option Text} {float : List Char → Option ℚ} {t : Text}
  {bytes : ByteArray} {maxBytes maxDepth : Int}

theorem loadStrictJson_ok (spelled : String.fromUTF8? bytes = some (String.ofList t.chars))
    (reads : parse t.chars = some t) {v : Json} :
    loadStrictJson parse float (.bytes bytes) maxBytes maxDepth = .ok v ↔
      (bytes.size : Int) ≤ maxBytes ∧ (1 ≤ maxDepth ∧ (t.doc.depth : Int) ≤ maxDepth) ∧
        (t.doc.DistinctKeys ∧ t.doc.ShortIntegers 20) ∧ t.doc.Denotes float v := by
  rw [loadStrictJson, bind_ok]
  simp only [decodeSource_ok spelled (chars_ne_nil t), and_assoc, exists_and_left, exists_eq_left]
  refine and_congr_right fun _ => ?_
  rw [seq_ok, checkDepth_ok, and_assoc]
  refine and_congr_right fun _ => and_congr_right fun _ => ?_
  simp only [reads]
  rw [bind_ok, loads_doc, kept_iff, and_assoc]

theorem loadStrictJson_isOk (spelled : String.fromUTF8? bytes = some (String.ofList t.chars))
    (reads : parse t.chars = some t) :
    (∃ v, loadStrictJson parse float (.bytes bytes) maxBytes maxDepth = .ok v) ↔
      1 ≤ maxDepth ∧ (bytes.size : Int) ≤ maxBytes ∧ (t.doc.depth : Int) ≤ maxDepth ∧
        t.doc.DistinctKeys ∧ t.doc.FiniteNumbers float ∧ t.doc.ShortIntegers 20 ∧
        t.doc.PairedSurrogates := by
  simp only [loadStrictJson_ok spelled reads, exists_and_left, denotes_iff]
  tauto

end

theorem fromUTF8_toByteArray (s : String) : String.fromUTF8? s.toByteArray = some s := by
  simp [String.fromUTF8?, s.isValidUTF8, String.fromUTF8]

/-- What the strict loader accepts of the texts the grammar reads, and what it answers. -/
theorem load_strict_json_iff (parse : List Char → Option Text) (float : List Char → Option ℚ)
    (t : Text) (bytes : ByteArray) (maxBytes maxDepth : Int)
    (spelled : String.fromUTF8? bytes = some (String.ofList t.chars))
    (reads : parse t.chars = some t) :
    ((∃ v, loadStrictJson parse float (.bytes bytes) maxBytes maxDepth = .ok v) ↔
      1 ≤ maxDepth ∧ (bytes.size : Int) ≤ maxBytes ∧ (t.doc.depth : Int) ≤ maxDepth ∧
        t.doc.DistinctKeys ∧ t.doc.FiniteNumbers float ∧ t.doc.ShortIntegers 20 ∧
        t.doc.PairedSurrogates) ∧
    ((∃ v, loadStrictJson parse float (.bytes bytes) maxBytes maxDepth = .ok v) →
      ∀ v, loadStrictJson parse float (.bytes bytes) maxBytes maxDepth = .ok v ↔
        t.doc.Denotes float v) ∧
    (checkDepth t.chars maxDepth = .ok () ↔ 1 ≤ maxDepth ∧ (t.doc.depth : Int) ≤ maxDepth) := by
  refine ⟨loadStrictJson_isOk spelled reads, ?_, checkDepth_ok t⟩
  rintro ⟨w, done⟩ v
  obtain ⟨size, depth, checked, _⟩ := (loadStrictJson_ok spelled reads).mp done
  rw [loadStrictJson_ok spelled reads]
  exact ⟨fun all => all.2.2.2, fun means => ⟨size, depth, checked, means⟩⟩

namespace Sample

def blank : Blanks := ⟨[], rfl⟩

def bracket : Text where
  before := ⟨[' '], rfl⟩
  doc := .arr (.last blank (.str [.plain '[' rfl, .short '"' 34 rfl]) blank)
  after := blank

def zero : Text where
  before := blank
  doc := .int ⟨false, ⟨['0'], by decide⟩, .inl rfl⟩
  after := blank

end Sample

theorem load_strict_json_bracket :
    ∃ v, loadStrictJson (fun _ => some Sample.bracket) (fun _ => none)
      (.bytes (String.ofList Sample.bracket.chars).toByteArray) 8 1 = .ok v := by
  refine (load_strict_json_iff _ _ Sample.bracket _ 8 1 (fromUTF8_toByteArray _) rfl).1.mpr
    ⟨by decide, by decide, by decide, ?_, ?_, ?_, ?_⟩
  · intro fields member
    simp [Sample.bracket, Doc.parts, Members.parts] at member
  · simp [Doc.FiniteNumbers, Sample.bracket, Doc.parts, Members.parts]
  · intro n member
    simp [Sample.bracket, Doc.parts, Members.parts] at member
  · simp only [Doc.PairedSurrogates, Sample.bracket, Doc.parts, Members.parts]
    refine ⟨fun pieces member => ⟨"[\"", ?_⟩, fun fields member => by simp at member⟩
    simp only [List.mem_cons, reduceCtorEq, Doc.str.injEq, List.not_mem_nil, or_false,
      false_or] at member
    rw [member]
    rfl

/-- With a maximum of zero even a text without brackets is refused. -/
theorem scalar_refused : ¬ ∀ (parse : List Char → Option Text) (float : List Char → Option ℚ)
    (t : Text) (bytes : ByteArray) (maxBytes maxDepth : Int),
    String.fromUTF8? bytes = some (String.ofList t.chars) → parse t.chars = some t →
    ((∃ v, loadStrictJson parse float (.bytes bytes) maxBytes maxDepth = .ok v) ↔
      (bytes.size : Int) ≤ maxBytes ∧ (t.doc.depth : Int) ≤ maxDepth ∧
        t.doc.DistinctKeys ∧ t.doc.FiniteNumbers float ∧ t.doc.ShortIntegers 20 ∧
        t.doc.PairedSurrogates) := by
  intro claim
  have read := fromUTF8_toByteArray (String.ofList Sample.zero.chars)
  have loaded := (claim (fun _ => some Sample.zero) (fun _ => none) Sample.zero _ 1 0 read rfl).mpr
    ⟨by decide, by decide, fun fields member => by simp [Sample.zero, Doc.parts] at member,
      by simp [Doc.FiniteNumbers, Sample.zero, Doc.parts],
      fun n member => by
        simp only [Sample.zero, Doc.parts, List.mem_singleton, Doc.int.injEq] at member
        rw [member]
        decide,
      by simp [Doc.PairedSurrogates, Sample.zero, Doc.parts]⟩
  have positive := ((loadStrictJson_isOk read rfl).mp loaded).1
  exact absurd positive (by decide)

end NetworkAgent.SafeJson
