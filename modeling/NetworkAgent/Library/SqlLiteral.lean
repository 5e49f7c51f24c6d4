import NetworkAgent.Library.JsonSyntax

/-! Quoted literals of GoogleSQL, and `str.replace`, with which programs write them. -/

namespace Replace
variable {α : Type} [DecidableEq α]

/-- Replaces the occurrences of `old` from left to right; the first `skip` elements belong to the
last one found. -/
def replaceFrom (old new : List α) : Nat → List α → List α
  | _, [] => []
  | skip + 1, _ :: rest => replaceFrom old new skip rest
  | 0, x :: rest =>
    if old <+: x :: rest then new ++ replaceFrom old new (old.length - 1) rest
    else x :: replaceFrom old new 0 rest

def replace (old new text : List α) : List α := replaceFrom old new 0 text

variable {a b x : α} {new rest : List α}

@[simp] theorem replace_nil (old : List α) : replace old new [] = [] := rfl

theorem replace_cons {old : List α} (other : ¬ old <+: x :: rest) :
    replace old new (x :: rest) = x :: replace old new rest := by
  simp [replace, replaceFrom, other]

theorem replace_single (y : α) : replace [a] new (y :: rest) =
    (if y = a then new else [y]) ++ replace [a] new rest := by
  by_cases same : y = a
  · simp [replace, replaceFrom, same]
  · have other : ¬ [a] <+: y :: rest := by simp [Ne.symm same]
    rw [replace_cons other, if_neg same]
    rfl

theorem replace_pair : replace [a, b] new (a :: b :: rest) = new ++ replace [a, b] new rest := by
  simp [replace, replaceFrom]

theorem replace_pair_cons (other : x ≠ a ∨ rest.head? ≠ some b) :
    replace [a, b] new (x :: rest) = x :: replace [a, b] new rest := by
  refine replace_cons fun found => ?_
  cases rest with
  | nil => simp at found
  | cons y rest => simp_all [List.cons_prefix_cons]

/-- Doubling `a` before every `b`, one element at a time. -/
theorem replace_doubling (different : a ≠ b) : replace [a, b] [a, a, b] (x :: rest) =
    (if x = a ∧ rest.head? = some b then [a, a] else [x]) ++ replace [a, b] [a, a, b] rest := by
  by_cases found : x = a ∧ rest.head? = some b
  · obtain ⟨rfl, next⟩ := found
    cases rest with
    | nil => cases next
    | cons y rest =>
      cases next
      have own : replace [x, b] [x, x, b] (b :: rest) = b :: replace [x, b] [x, x, b] rest :=
        replace_pair_cons (.inl (Ne.symm different))
      rw [replace_pair, own]
      simp
  · rw [replace_pair_cons (not_and_or.mp found), if_neg found]
    rfl

theorem head_replace_pair (tail text : List α) :
    (replace [a, b] (a :: tail) text).head? = text.head? := by
  cases text with
  | nil => rfl
  | cons x rest =>
    by_cases found : x = a ∧ rest.head? = some b
    · obtain ⟨rfl, next⟩ := found
      cases rest with
      | nil => cases next
      | cons y rest =>
        cases next
        rw [replace_pair]
        rfl
    · rw [replace_pair_cons (not_and_or.mp found)]
      rfl

end Replace

namespace SqlLiteral

def simpleEscape (c : Char) : Option Char :=
  if c = 'a' then some (Char.ofNat 7) else if c = 'b' then some (Char.ofNat 8)
  else if c = 'f' then some (Char.ofNat 12) else if c = 'n' then some '\n'
  else if c = 'r' then some '\r' else if c = 't' then some '\t'
  else if c = 'v' then some (Char.ofNat 11)
  else if c ∈ ['\\', '?', '"', '\''] ∨ c.toNat = 96 then some c
  else none

/-- The number that exactly so many digits at the front write. -/
def number (base count : Nat) (text : List Char) : Option Nat :=
  let digits := (text.take count).map JsonSyntax.hexValue
  if text.length < count ∨ ∃ d ∈ digits, ∀ v ∈ d, base ≤ v then none
  else digits.foldl (fun value digit => do return (← value) * base + (← digit)) (some 0)

def character (n : Nat) : Option Char := if n.isValidChar then some (Char.ofNat n) else none

/-- What follows a backslash stands for: the character, and how much of the text it takes. -/
def escape : List Char → Option (Char × Nat)
  | [] => none
  | e :: rest =>
    match simpleEscape e with
    | some c => some (c, 1)
    | none =>
      if e = 'x' ∨ e = 'X' then ((number 16 2 rest).bind character).map (·, 3)
      else if e = 'u' then ((number 16 4 rest).bind character).map (·, 5)
      else if e = 'U' then ((number 16 8 rest).bind character).map (·, 9)
      else if e ∈ ['0', '1', '2', '3'] then ((number 8 3 (e :: rest)).bind character).map (·, 3)
      else none

/-- The text that a literal between single quotes denotes; `none` where the quote comes too early,
an escape is none, or the line ends. -/
def unescape : Nat → List Char → Option (List Char)
  | _, [] => some []
  | skip + 1, _ :: rest => unescape skip rest
  | 0, c :: rest =>
    if c = '\\' then (escape rest).bind fun taken => (taken.1 :: ·) <$> unescape taken.2 rest
    else if c ∈ ['\'', '\n', '\r'] then none
    else (c :: ·) <$> unescape 0 rest

def denotes (body : List Char) : Option (List Char) := unescape 0 body

theorem unescape_skip (taken rest : List Char) :
    unescape taken.length (taken ++ rest) = unescape 0 rest := by
  induction taken with
  | nil => rfl
  | cons c taken ih => exact ih

theorem unescape_char {c : Char} {rest : List Char} (ordinary : c ∉ ['\\', '\'', '\n', '\r']) :
    unescape 0 (c :: rest) = (c :: ·) <$> unescape 0 rest := by
  have first : c ≠ '\\' := fun same => ordinary (same ▸ List.mem_cons_self)
  have others : c ∉ ['\'', '\n', '\r'] := fun member => ordinary (List.mem_cons_of_mem _ member)
  rw [unescape, if_neg first, if_neg others]

theorem unescape_simple {e c : Char} {rest : List Char} (known : simpleEscape e = some c) :
    unescape 0 ('\\' :: e :: rest) = (c :: ·) <$> unescape 0 rest := by
  rw [unescape, if_pos rfl, escape, known]
  rfl

end SqlLiteral
