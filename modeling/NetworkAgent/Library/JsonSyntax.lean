import NetworkAgent.Library.Json
import NetworkAgent.Library.Utf16

/-! The concrete syntax of a JSON text: every blank, escape and spelling of a number, and the
value that the text denotes. The three names of numbers that are not finite belong to it, as
readers in use accept them. -/
namespace JsonSyntax

def isBlank (c : Char) : Bool := c == ' ' || c == '\t' || c == '\n' || c == '\r'

abbrev Blanks := { cs : List Char // cs.all isBlank = true }

/-! Strings. -/

def isPlain (c : Char) : Bool := decide (0x20 ≤ c.toNat) && c != '"' && c != '\\'

def shortEscape (c : Char) : Option Nat :=
  if c = '"' then some 34 else if c = '\\' then some 92 else if c = '/' then some 47
  else if c = 'b' then some 8 else if c = 'f' then some 12 else if c = 'n' then some 10
  else if c = 'r' then some 13 else if c = 't' then some 9 else none

def hexValue (c : Char) : Option Nat :=
  if '0' ≤ c ∧ c ≤ '9' then some (c.toNat - 48)
  else if 'a' ≤ c ∧ c ≤ 'f' then some (c.toNat - 87)
  else if 'A' ≤ c ∧ c ≤ 'F' then some (c.toNat - 55)
  else none

/-- A hexadecimal digit, in either case. -/
structure Hex where
  char : Char
  value : Fin 16
  reads : hexValue char = some value.val

inductive Piece where
  | plain (c : Char) (stands : isPlain c = true)
  | short (c : Char) (point : Nat) (known : shortEscape c = some point)
  | unicode (a b c d : Hex)

namespace Piece

def text : Piece → List Char
  | .plain c _ => [c]
  | .short c _ _ => ['\\', c]
  | .unicode a b c d => ['\\', 'u', a.char, b.char, c.char, d.char]

def number (a b c d : Hex) : Nat := a.value * 4096 + b.value * 256 + c.value * 16 + d.value

def units : Piece → List Nat
  | .plain c _ => Utf16.pointUnits c.toNat
  | .short _ point _ => [point]
  | .unicode a b c d => [number a b c d]

end Piece

def piecesText (pieces : List Piece) : List Char := pieces.flatMap Piece.text

def piecesUnits (pieces : List Piece) : List Nat := pieces.flatMap Piece.units

/-- A string denotes the text of its code units. With a lone surrogate it denotes none. -/
def Spells (pieces : List Piece) (s : String) : Prop := piecesUnits pieces = Utf16.units s.toList

def quoted (pieces : List Piece) : List Char := '"' :: (piecesText pieces ++ ['"'])

/-! Numbers. -/

abbrev Digits := { cs : List Char // cs ≠ [] ∧ cs.all Char.isDigit = true }

/-- An integer, without leading zeros. -/
structure IntText where
  negative : Bool
  digits : Digits
  canonical : digits.val.length = 1 ∨ digits.val.head? ≠ some '0'

namespace IntText

def text (n : IntText) : List Char := (if n.negative then ['-'] else []) ++ n.digits.val

def value (n : IntText) : Int :=
  if n.negative then -(Nat.ofDigitChars 10 n.digits.val 0 : Int)
  else Nat.ofDigitChars 10 n.digits.val 0

end IntText

structure Exponent where
  upper : Bool
  sign : Option Bool
  digits : Digits

def Exponent.text (e : Exponent) : List Char :=
  (if e.upper then 'E' else 'e') ::
    ((match e.sign with
      | none => []
      | some minus => [if minus then '-' else '+']) ++ e.digits.val)

/-- A number with a fraction or an exponent. -/
structure FloatText where
  whole : IntText
  fraction : Option Digits
  exponent : Option Exponent
  given : fraction ≠ none ∨ exponent ≠ none

def FloatText.text (x : FloatText) : List Char :=
  x.whole.text ++ ((match x.fraction with
    | none => []
    | some digits => '.' :: digits.val) ++ match x.exponent with
    | none => []
    | some e => e.text)

/-- The numbers outside the grammar that readers accept all the same. -/
inductive Constant where
  | nan | infinity | negInfinity
  deriving DecidableEq

def Constant.text : Constant → List Char
  | .nan => "NaN".toList
  | .infinity => "Infinity".toList
  | .negInfinity => "-Infinity".toList

/-! Documents. -/

mutual
inductive Doc where
  | null
  | bool (b : Bool)
  | constant (c : Constant)
  | int (n : IntText)
  | float (x : FloatText)
  | str (pieces : List Piece)
  | emptyArr (inside : Blanks)
  | emptyObj (inside : Blanks)
  | arr (members : Members)
  | obj (fields : Fields)
/-- One member or more, with the blanks around each. -/
inductive Members where
  | last (before : Blanks) (value : Doc) (after : Blanks)
  | more (before : Blanks) (value : Doc) (after : Blanks) (rest : Members)
/-- One field or more, with the blanks around each key and each value. -/
inductive Fields where
  | last (front : Blanks) (key : List Piece) (middle before : Blanks) (value : Doc) (after : Blanks)
  | more (front : Blanks) (key : List Piece) (middle before : Blanks) (value : Doc) (after : Blanks)
      (rest : Fields)
end

def fieldText (front : Blanks) (key : List Piece) (middle before : Blanks) (value : List Char)
    (after : Blanks) : List Char :=
  front.val ++ (quoted key ++ (middle.val ++ ':' :: (before.val ++ (value ++ after.val))))

mutual
def Doc.text : Doc → List Char
  | .null => "null".toList
  | .bool b => if b then "true".toList else "false".toList
  | .constant c => c.text
  | .int n => n.text
  | .float x => x.text
  | .str pieces => quoted pieces
  | .emptyArr inside => '[' :: (inside.val ++ [']'])
  | .emptyObj inside => '\x7b' :: (inside.val ++ ['\x7d'])
  | .arr members => '[' :: (members.text ++ [']'])
  | .obj fields => '\x7b' :: (fields.text ++ ['\x7d'])
def Members.text : Members → List Char
  | .last before value after => before.val ++ (value.text ++ after.val)
  | .more before value after rest => before.val ++ (value.text ++ (after.val ++ ',' :: rest.text))
def Fields.text : Fields → List Char
  | .last front key middle before value after => fieldText front key middle before value.text after
  | .more front key middle before value after rest =>
    fieldText front key middle before value.text after ++ ',' :: rest.text
end

mutual
def Doc.depth : Doc → Nat
  | .null | .bool _ | .constant _ | .int _ | .float _ | .str _ => 0
  | .emptyArr _ | .emptyObj _ => 1
  | .arr members => members.depth + 1
  | .obj fields => fields.depth + 1
def Members.depth : Members → Nat
  | .last _ value _ => value.depth
  | .more _ value _ rest => max value.depth rest.depth
def Fields.depth : Fields → Nat
  | .last _ _ _ _ value _ => value.depth
  | .more _ _ _ _ value _ rest => max value.depth rest.depth
end

def Fields.keys : Fields → List (List Piece)
  | .last _ key _ _ _ _ => [key]
  | .more _ key _ _ _ _ rest => key :: rest.keys

mutual
def Doc.parts : Doc → List Doc
  | .arr members => .arr members :: members.parts
  | .obj fields => .obj fields :: fields.parts
  | doc => [doc]
def Members.parts : Members → List Doc
  | .last _ value _ => value.parts
  | .more _ value _ rest => value.parts ++ rest.parts
def Fields.parts : Fields → List Doc
  | .last _ _ _ _ value _ => value.parts
  | .more _ _ _ _ value _ rest => value.parts ++ rest.parts
end

/-! What a document denotes. `readFloat` gives the number that the text of a float is read as,
unless that is infinite. -/

section
variable (readFloat : List Char → Option ℚ)

mutual
def Doc.Denotes : Doc → Json → Prop
  | .null, v => v = .null
  | .bool b, v => v = .bool b
  | .constant _, _ => False
  | .int n, v => v = .int n.value
  | .float x, v => ∃ q, readFloat x.text = some q ∧ v = .float q
  | .str pieces, v => ∃ s, Spells pieces s ∧ v = .str s
  | .emptyArr _, v => v = .arr []
  | .emptyObj _, v => v = .obj []
  | .arr members, v => ∃ items, members.Denotes items ∧ v = .arr items
  | .obj fields, v => ∃ items, fields.Denotes items ∧ v = .obj items
def Members.Denotes : Members → List Json → Prop
  | .last _ value _, items => ∃ v, value.Denotes v ∧ items = [v]
  | .more _ value _ rest, items => ∃ v vs, value.Denotes v ∧ rest.Denotes vs ∧ items = v :: vs
def Fields.Denotes : Fields → List (String × Json) → Prop
  | .last _ key _ _ value _, items => ∃ s v, Spells key s ∧ value.Denotes v ∧ items = [(s, v)]
  | .more _ key _ _ value _ rest, items =>
    ∃ s v vs, Spells key s ∧ value.Denotes v ∧ rest.Denotes vs ∧ items = (s, v) :: vs
end

end

/-! The conditions on a document that no grammar expresses. -/
namespace Doc

/-- No object repeats a key. Keys are the same when their code units are. -/
def DistinctKeys (d : Doc) : Prop :=
  ∀ fields, .obj fields ∈ d.parts → (fields.keys.map piecesUnits).Nodup

/-- No number is named or read as one that is not finite. -/
def FiniteNumbers (readFloat : List Char → Option ℚ) (d : Doc) : Prop :=
  (∀ c, .constant c ∉ d.parts) ∧ ∀ x, .float x ∈ d.parts → (readFloat x.text).isSome = true

def ShortIntegers (maximum : Nat) (d : Doc) : Prop :=
  ∀ n, .int n ∈ d.parts → n.digits.val.length ≤ maximum

/-- No string, be it a key or a value, has a lone surrogate. -/
def PairedSurrogates (d : Doc) : Prop :=
  (∀ pieces, .str pieces ∈ d.parts → ∃ s, Spells pieces s) ∧
    ∀ fields, .obj fields ∈ d.parts → ∀ key ∈ fields.keys, ∃ s, Spells key s

end Doc

/-! A document has a meaning unless a number in it is not finite or a surrogate is alone. -/

section
variable {readFloat : List Char → Option ℚ}

def Meant (readFloat : List Char → Option ℚ) : Doc → Prop
  | .constant _ => False
  | .float x => (readFloat x.text).isSome = true
  | .str pieces => ∃ s, Spells pieces s
  | .obj fields => ∀ key ∈ fields.keys, ∃ s, Spells key s
  | _ => True

mutual
theorem doc_denotes (d : Doc) : (∃ v, d.Denotes readFloat v) ↔ ∀ x ∈ d.parts, Meant readFloat x := by
  cases d with
  | null => simp [Doc.Denotes, Doc.parts, Meant]
  | bool b => simp [Doc.Denotes, Doc.parts, Meant]
  | constant c => simp [Doc.Denotes, Doc.parts, Meant]
  | int n => simp [Doc.Denotes, Doc.parts, Meant]
  | float x => simp [Doc.Denotes, Doc.parts, Meant, Option.isSome_iff_exists]
  | str pieces =>
    simp only [Doc.Denotes, Doc.parts, List.mem_singleton, forall_eq, Meant]
    exact ⟨fun ⟨_, s, spells, _⟩ => ⟨s, spells⟩, fun ⟨s, spells⟩ => ⟨_, s, spells, rfl⟩⟩
  | emptyArr inside => simp [Doc.Denotes, Doc.parts, Meant]
  | emptyObj inside => simp [Doc.Denotes, Doc.parts, Meant]
  | arr members =>
    have own : Meant readFloat (.arr members) := trivial
    simp only [Doc.Denotes, Doc.parts, List.mem_cons, forall_eq_or_imp, own, true_and]
    rw [← members_denote members]
    exact ⟨fun ⟨_, items, means, _⟩ => ⟨items, means⟩, fun ⟨items, means⟩ => ⟨_, items, means, rfl⟩⟩
  | obj fields =>
    have own : Meant readFloat (.obj fields) ↔ ∀ key ∈ fields.keys, ∃ s, Spells key s := Iff.rfl
    simp only [Doc.Denotes, Doc.parts, List.mem_cons, forall_eq_or_imp, own]
    rw [← fields_denote fields]
    exact ⟨fun ⟨_, items, means, _⟩ => ⟨items, means⟩, fun ⟨items, means⟩ => ⟨_, items, means, rfl⟩⟩
theorem members_denote (m : Members) :
    (∃ items, m.Denotes readFloat items) ↔ ∀ x ∈ m.parts, Meant readFloat x := by
  cases m with
  | last before value after =>
    simp only [Members.Denotes, Members.parts]
    rw [← doc_denotes value]
    exact ⟨fun ⟨_, v, means, _⟩ => ⟨v, means⟩, fun ⟨v, means⟩ => ⟨_, v, means, rfl⟩⟩
  | more before value after rest =>
    simp only [Members.Denotes, Members.parts, List.mem_append, or_imp, forall_and]
    rw [← doc_denotes value, ← members_denote rest]
    exact ⟨fun ⟨_, v, vs, first, later, _⟩ => ⟨⟨v, first⟩, vs, later⟩,
      fun ⟨⟨v, first⟩, vs, later⟩ => ⟨_, v, vs, first, later, rfl⟩⟩
theorem fields_denote (f : Fields) : (∃ items, f.Denotes readFloat items) ↔
    (∀ key ∈ f.keys, ∃ s, Spells key s) ∧ ∀ x ∈ f.parts, Meant readFloat x := by
  cases f with
  | last front key middle before value after =>
    simp only [Fields.Denotes, Fields.parts, Fields.keys, List.mem_singleton, forall_eq]
    rw [← doc_denotes value]
    exact ⟨fun ⟨_, s, v, spells, means, _⟩ => ⟨⟨s, spells⟩, v, means⟩,
      fun ⟨⟨s, spells⟩, v, means⟩ => ⟨_, s, v, spells, means, rfl⟩⟩
  | more front key middle before value after rest =>
    simp only [Fields.Denotes, Fields.parts, Fields.keys, List.mem_cons, List.mem_append, or_imp,
      forall_and, forall_eq]
    rw [← doc_denotes value]
    have others := fields_denote rest
    constructor
    · rintro ⟨_, s, v, vs, spells, first, later, _⟩
      obtain ⟨keys, parts⟩ := others.mp ⟨vs, later⟩
      exact ⟨⟨⟨s, spells⟩, keys⟩, ⟨v, first⟩, parts⟩
    · rintro ⟨⟨⟨s, spells⟩, keys⟩, ⟨v, first⟩, parts⟩
      obtain ⟨vs, later⟩ := others.mpr ⟨keys, parts⟩
      exact ⟨_, s, v, vs, spells, first, later, rfl⟩
end

theorem denotes_iff (d : Doc) :
    (∃ v, d.Denotes readFloat v) ↔ d.FiniteNumbers readFloat ∧ d.PairedSurrogates := by
  rw [doc_denotes]
  constructor
  · intro meant
    exact ⟨⟨fun c member => meant _ member, fun x member => meant _ member⟩,
      fun pieces member => meant _ member, fun fields member => meant _ member⟩
  · rintro ⟨⟨constants, floats⟩, strings, keys⟩ x member
    cases x with
    | constant c => exact constants c member
    | float x => exact floats x member
    | str pieces => exact strings pieces member
    | obj fields => exact keys fields member
    | _ => trivial

end

structure Text where
  before : Blanks
  doc : Doc
  after : Blanks

def Text.chars (t : Text) : List Char := t.before.val ++ (t.doc.text ++ t.after.val)

end JsonSyntax
