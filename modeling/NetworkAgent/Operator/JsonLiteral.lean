import NetworkAgent.Library.SqlLiteral
import NetworkAgent.Library.JsonText

/-! The JSON bodies that the operator and the fault service put between the quotes of a SQL
statement: what the literal denotes, and for which bodies that is the body again. -/
namespace NetworkAgent.Operator.JsonLiteral
open Replace JsonSyntax

/-! `json.dumps` with `ensure_ascii`. -/

/-- A piece of the text that the encoder writes at a time. -/
inductive Token where
  | char (c : Char)
  | escape (c : Char)
  | unicode (unit : Nat)

def hex4 (n : Nat) : List Char :=
  [n / 4096 % 16, n / 256 % 16, n / 16 % 16, n % 16].map Nat.digitChar

def Token.text : Token → List Char
  | .char c => [c]
  | .escape c => ['\\', c]
  | .unicode unit => '\\' :: 'u' :: hex4 unit

/-- The escape of a character that has a short one, in `ESCAPE_DCT`. -/
def shortName (c : Char) : Option Char :=
  if c = '"' ∨ c = '\\' then some c else if c = '\n' then some 'n' else if c = '\r' then some 'r'
  else if c = '\t' then some 't' else if c.toNat = 12 then some 'f'
  else if c.toNat = 8 then some 'b' else none

def escapeChar (c : Char) : List Token :=
  match shortName c with
  | some name => [.escape name]
  | none =>
    if 0x20 ≤ c.toNat ∧ c.toNat < 0x7F then [.char c]
    else (Utf16.pointUnits c.toNat).map .unicode

def plain (s : String) : List Token := s.toList.map .char

def encodeString (s : String) : List Token :=
  plain "\"" ++ (s.toList.flatMap escapeChar ++ plain "\"")

section
variable (floatRepr : ℚ → String)

mutual
def tokens : Json → List Token
  | .null => plain "null"
  | .bool b => plain (if b then "true" else "false")
  | .int n => plain n.repr
  | .float q => plain (floatRepr q)
  | .str s => encodeString s
  | .arr items => plain "[" ++ (itemTokens items ++ plain "]")
  | .obj fields => plain "\x7b" ++ (fieldTokens fields ++ plain "\x7d")
def itemTokens : List Json → List Token
  | [] => []
  | [v] => tokens v
  | v :: w :: rest => tokens v ++ (plain ", " ++ itemTokens (w :: rest))
def fieldTokens : List (String × Json) → List Token
  | [] => []
  | [(key, v)] => encodeString key ++ (plain ": " ++ tokens v)
  | (key, v) :: f :: rest =>
    encodeString key ++ (plain ": " ++ (tokens v ++ (plain ", " ++ fieldTokens (f :: rest))))
end

def dumps (v : Json) : List Char := (tokens floatRepr v).flatMap Token.text

end

def bodySqlJsonDump (stringDump : List Char) : List Char :=
  replace ['\''] ['\\', '\'']
    (replace ['\\', '"'] ['\\', '\\', '"'] (replace ['\\', 'n'] ['\\', '\\', 'n'] stringDump))

/-! The three replacements in one pass. -/

/-- A backslash before `n` or a quote is doubled, and a single quote gets a backslash. -/
def escapeBody : List Char → List Char
  | [] => []
  | c :: rest =>
    (if c = '\\' ∧ (rest.head? = some 'n' ∨ rest.head? = some '"') then ['\\', '\\']
      else if c = '\'' then ['\\', '\''] else [c]) ++ escapeBody rest

theorem bodySqlJsonDump_eq (text : List Char) : bodySqlJsonDump text = escapeBody text := by
  induction text with
  | nil => rfl
  | cons c rest ih =>
    unfold bodySqlJsonDump at ih ⊢
    rw [replace_doubling (by decide), escapeBody, ← ih]
    have head := head_replace_pair (a := '\\') (b := 'n') ['\\', 'n'] rest
    by_cases newline : c = '\\' ∧ rest.head? = some 'n'
    · rw [if_pos newline, if_pos ⟨newline.1, .inl newline.2⟩]
      have first : ∀ more : List Char, more.head? ≠ some '"' →
          replace ['\\', '"'] ['\\', '\\', '"'] ('\\' :: more) =
            '\\' :: replace ['\\', '"'] ['\\', '\\', '"'] more :=
        fun more other => replace_pair_cons (.inr other)
      rw [List.cons_append, List.cons_append, List.nil_append, first _ (by simp),
        first _ (by rw [head, newline.2]; decide), replace_single, if_neg (by decide),
        replace_single, if_neg (by decide)]
      rfl
    · rw [if_neg newline, List.singleton_append, replace_doubling (by decide), head]
      by_cases quote : c = '\\' ∧ rest.head? = some '"'
      · rw [if_pos quote, if_pos ⟨quote.1, .inr quote.2⟩, List.cons_append, List.singleton_append,
          replace_single, if_neg (by decide), replace_single, if_neg (by decide)]
        rfl
      · have neither : ¬ (c = '\\' ∧ (rest.head? = some 'n' ∨ rest.head? = some '"')) := by
          rintro ⟨same, next | next⟩
          · exact newline ⟨same, next⟩
          · exact quote ⟨same, next⟩
        rw [if_neg quote, if_neg neither, List.singleton_append, replace_single]

/-! What the literal denotes, token by token. -/

/-- A token of the encoder's: printable ASCII, one of its escapes, or a code unit. -/
def Token.Written : Token → Prop
  | .char c => 0x20 ≤ c.toNat ∧ c.toNat < 0x7F ∧ c ≠ '\\'
  | .escape c => c ∈ ['"', '\\', 'n', 'r', 't', 'f', 'b']
  | .unicode unit => unit < 0x10000

/-- What the literal denotes for tokens. Right after a backslash of the body, which SQL halves, the
letter `n` is read as the end of a line. -/
def readTokens : Bool → List Token → Option (List Char)
  | _, [] => some []
  | after, .char c :: rest =>
    ((if after = true ∧ c = 'n' then '\n' else c) :: ·) <$> readTokens false rest
  | _, .escape c :: rest =>
    if c = '\\' then ('\\' :: ·) <$> readTokens true rest
    else if c = 'n' ∨ c = '"' then (['\\', c] ++ ·) <$> readTokens false rest
    else (SqlLiteral.simpleEscape c).bind fun d => (d :: ·) <$> readTokens false rest
  | _, .unicode unit :: rest =>
    (SqlLiteral.character unit).bind fun c => (c :: ·) <$> readTokens false rest


section
open SqlLiteral

theorem hex4_spec : ∀ n < 0x10000, (hex4 n).length = 4 ∧
    (∀ c ∈ hex4 n, c ∉ ['\\', '\'', 'n', '"']) ∧ ∀ rest, number 16 4 (hex4 n ++ rest) = some n := by
  intro n small
  have digit : ∀ d < 16, hexValue (Nat.digitChar d) = some d ∧
      Nat.digitChar d ∉ ['\\', '\'', 'n', '"'] := by decide
  have a := digit (n / 4096 % 16) (Nat.mod_lt _ (by decide))
  have b := digit (n / 256 % 16) (Nat.mod_lt _ (by decide))
  have c := digit (n / 16 % 16) (Nat.mod_lt _ (by decide))
  have d := digit (n % 16) (Nat.mod_lt _ (by decide))
  refine ⟨rfl, ?_, fun rest => ?_⟩
  · intro x member
    simp only [hex4, List.map_cons, List.map_nil, List.mem_cons, List.not_mem_nil,
      or_false] at member
    rcases member with rfl | rfl | rfl | rfl
    exacts [a.2, b.2, c.2, d.2]
  · have within : ∀ m, ¬ 16 ≤ m % 16 := fun m => Nat.not_le.mpr (Nat.mod_lt _ (by decide))
    have long : ¬ (hex4 n ++ rest).length < 4 := by simp [hex4]
    have front : (hex4 n ++ rest).take 4 = hex4 n := by simp [hex4]
    unfold number
    rw [front]
    simp only [hex4, List.map_cons, List.map_nil, a.1, b.1, c.1, d.1]
    rw [if_neg]
    · simp only [List.foldl_cons, List.foldl_nil, Option.bind_eq_bind, Option.bind_some,
        Option.pure_def, Option.some.injEq]
      omega
    · simp [hex4] at long ⊢
      omega

theorem unescape_unicode {unit : Nat} (small : unit < 0x10000) (rest : List Char) :
    unescape 0 ('\\' :: 'u' :: (hex4 unit ++ rest)) =
      (character unit).bind fun c => (c :: ·) <$> unescape 0 rest := by
  obtain ⟨length, -, value⟩ := hex4_spec unit small
  have skip : unescape 5 ('u' :: (hex4 unit ++ rest)) = unescape 0 rest :=
    unescape_skip ('u' :: hex4 unit) rest
  have name : simpleEscape 'u' = none := by decide
  rw [unescape, if_pos rfl, escape, name]
  dsimp only
  rw [if_neg (by decide), if_pos rfl, value rest, Option.bind_some]
  cases character unit with
  | none => rfl
  | some c =>
    simp only [Option.map_some, Option.bind_some]
    rw [skip]

theorem escapeBody_ordinary {text rest : List Char} (ordinary : ∀ c ∈ text, c ∉ ['\\', '\'']) :
    escapeBody (text ++ rest) = text ++ escapeBody rest := by
  induction text with
  | nil => rfl
  | cons c text ih =>
    have own := ordinary c List.mem_cons_self
    simp only [List.mem_cons, List.not_mem_nil, or_false, not_or] at own
    rw [List.cons_append, escapeBody, if_neg fun doubled => own.1 doubled.1, if_neg own.2,
      ih fun x member => ordinary x (List.mem_cons_of_mem c member)]
    rfl

/-- A backslash before anything else but `n` and the quote stays alone. -/
theorem escapeBody_backslash {rest : List Char} (n : rest.head? ≠ some 'n')
    (quote : rest.head? ≠ some '"') : escapeBody ('\\' :: rest) = '\\' :: escapeBody rest := by
  rw [escapeBody, if_neg (by simp [n, quote]), if_neg (by decide)]
  rfl

theorem escapeBody_doubled {c : Char} {rest : List Char} (own : c = 'n' ∨ c = '"') :
    escapeBody ('\\' :: c :: rest) = '\\' :: '\\' :: c :: escapeBody rest := by
  have ordinary : escapeBody (c :: rest) = c :: escapeBody rest := by
    have plain : ∀ x ∈ [c], x ∉ ['\\', '\''] := by
      intro x member
      rw [List.mem_singleton.mp member]
      rcases own with rfl | rfl <;> decide
    exact escapeBody_ordinary plain
  rw [escapeBody, if_pos ⟨rfl, by rcases own with rfl | rfl <;> simp⟩, ordinary]
  rfl

end


section
open SqlLiteral

def tokensText (ts : List Token) : List Char := ts.flatMap Token.text

theorem tokensText_cons (token : Token) (ts : List Token) :
    tokensText (token :: ts) = token.text ++ tokensText ts := List.flatMap_cons

theorem readTokens_cons (c : Char) (after : Bool) (ts : List Token) :
    readTokens after (.char c :: ts) =
      ((if after = true ∧ c = 'n' then '\n' else c) :: ·) <$> readTokens false ts := rfl

/-- Only the letter `n` is read differently after a backslash of the body. -/
theorem readTokens_after {ts : List Token} (other : ∀ rest, ts ≠ .char 'n' :: rest) :
    readTokens true ts = readTokens false ts := by
  cases ts with
  | nil => rfl
  | cons token rest =>
    cases token with
    | char c =>
      have differs : c ≠ 'n' := fun same => other rest (same ▸ rfl)
      simp [readTokens, differs]
    | escape c => rfl
    | unicode unit => rfl

theorem simpleEscape_backslash : simpleEscape '\\' = some '\\' := by decide

theorem unescape_written {c : Char} {rest : List Char} (written : (Token.char c).Written) :
    unescape 0 (escapeBody (c :: rest)) = (c :: ·) <$> unescape 0 (escapeBody rest) := by
  obtain ⟨printable, -, other⟩ := written
  by_cases quote : c = '\''
  · subst quote
    have name : simpleEscape '\'' = some '\'' := by decide
    rw [escapeBody, if_neg (by simp), if_pos rfl]
    exact unescape_simple name
  · have whole : escapeBody (c :: rest) = c :: escapeBody rest := by
      rw [escapeBody, if_neg fun doubled => other doubled.1, if_neg quote]
      rfl
    rw [whole]
    refine unescape_char ?_
    simp only [List.mem_cons, List.not_mem_nil, or_false, not_or]
    refine ⟨other, quote, ?_, ?_⟩
    · rintro rfl
      exact absurd printable (by decide)
    · rintro rfl
      exact absurd printable (by decide)

theorem head_tokensText {ts : List Token} {c : Char} (head : (tokensText ts).head? = some c)
    (other : c ≠ '\\') : ∃ rest, ts = .char c :: rest := by
  cases ts with
  | nil => cases head
  | cons token rest =>
    rw [tokensText_cons] at head
    cases token with
    | char d =>
      cases head
      exact ⟨rest, rfl⟩
    | escape d => exact absurd (Option.some.inj head).symm other
    | unicode unit => exact absurd (Option.some.inj head).symm other

/-- The literal denotes what its tokens are read as; the second part is about the text after a
backslash that was itself written as two. -/
theorem unescape_tokens (ts : List Token) (written : ∀ token ∈ ts, token.Written) :
    unescape 0 (escapeBody (tokensText ts)) = readTokens false ts ∧
    unescape 0 ('\\' :: escapeBody ('\\' :: tokensText ts)) =
      ('\\' :: ·) <$> readTokens true ts := by
  induction ts with
  | nil => exact ⟨rfl, rfl⟩
  | cons token rest ih =>
    obtain ⟨here, inside⟩ := ih fun token member => written token (List.mem_cons_of_mem _ member)
    have own := written token List.mem_cons_self
    have first : unescape 0 (escapeBody (tokensText (token :: rest))) =
        readTokens false (token :: rest) := by
      rw [tokensText_cons]
      cases token with
      | char c => exact (unescape_written own).trans (here ▸ rfl)
      | escape c =>
        simp only [Token.Written, List.mem_cons, List.not_mem_nil, or_false] at own
        by_cases body : c = '\\'
        · subst body
          exact (congrArg _ (escapeBody_backslash (by simp) (by simp))).trans inside
        · by_cases doubled : c = 'n' ∨ c = '"'
          · have ordinary : c ∉ ['\\', '\'', '\n', '\r'] := by
              rcases doubled with rfl | rfl <;> decide
            show unescape 0 (escapeBody ('\\' :: c :: tokensText rest)) = _
            rw [escapeBody_doubled doubled, unescape_simple simpleEscape_backslash,
              unescape_char ordinary, here, readTokens, if_neg body, if_pos doubled]
            cases readTokens false rest <;> rfl
          · have kept : escapeBody ('\\' :: c :: tokensText rest) =
                '\\' :: c :: escapeBody (tokensText rest) := by
              rw [escapeBody_backslash (by simpa using (not_or.mp doubled).1)
                (by simpa using (not_or.mp doubled).2)]
              have plain : ∀ x ∈ [c], x ∉ ['\\', '\''] := by
                intro x member
                rw [List.mem_singleton.mp member]
                rcases own with rfl | rfl | rfl | rfl | rfl | rfl | rfl <;> simp_all
              exact congrArg _ (escapeBody_ordinary plain)
            show unescape 0 (escapeBody ('\\' :: c :: tokensText rest)) = _
            rw [kept, readTokens, if_neg body, if_neg doubled]
            cases name : simpleEscape c with
            | some d => exact (unescape_simple name).trans (here ▸ rfl)
            | none =>
              rcases own with rfl | rfl | rfl | rfl | rfl | rfl | rfl <;>
                simp [simpleEscape] at name
      | unicode unit =>
        have letters : ∀ c ∈ 'u' :: hex4 unit, c ∉ ['\\', '\''] := by
          intro c member
          rcases List.mem_cons.mp member with rfl | digit
          · decide
          · have := (hex4_spec unit own).2.1 c digit
            simp_all
        have kept : escapeBody ('\\' :: ('u' :: hex4 unit ++ tokensText rest)) =
            '\\' :: 'u' :: (hex4 unit ++ escapeBody (tokensText rest)) := by
          rw [escapeBody_backslash (by simp) (by simp)]
          exact congrArg _ (escapeBody_ordinary letters)
        exact (congrArg _ kept).trans ((unescape_unicode own _).trans (here ▸ rfl))
    refine ⟨first, ?_⟩
    by_cases special : (tokensText (token :: rest)).head? = some 'n' ∨
        (tokensText (token :: rest)).head? = some '"'
    · clear own
      obtain ⟨c, last, own, same⟩ :
          ∃ c last, (c = 'n' ∨ c = '"') ∧ token :: rest = .char c :: last := by
        rcases special with head | head
        · obtain ⟨last, same⟩ := head_tokensText head (by decide)
          exact ⟨_, last, .inl rfl, same⟩
        · obtain ⟨last, same⟩ := head_tokensText head (by decide)
          exact ⟨_, last, .inr rfl, same⟩
      obtain ⟨rfl, rfl⟩ := List.cons.inj same
      rw [tokensText_cons]
      show unescape 0 ('\\' :: escapeBody ('\\' :: c :: tokensText rest)) = _
      have letter : simpleEscape c = some (if c = 'n' then '\n' else c) := by
        rcases own with rfl | rfl <;> decide
      rw [escapeBody_doubled own, unescape_simple simpleEscape_backslash, unescape_simple letter,
        here, readTokens_cons]
      simp
    · obtain ⟨n, quote⟩ := not_or.mp special
      rw [escapeBody_backslash n quote, unescape_simple simpleEscape_backslash, first,
        readTokens_after]
      rintro last same
      rw [same] at n
      exact n rfl

end

end NetworkAgent.Operator.JsonLiteral
