import NetworkAgent.Domain.Records

/-! Labelled identifiers inside a text, and their replacement by a mark that no further match
can reach into. -/
namespace NetworkAgent

def redacted : String := "[REDACTED]"

/-- The class `[-:=]`. -/
def isMark (c : Char) : Bool := c == '-' || c == ':' || c == '='

/-- The text at the value of a match, after the separator; the separator with a mark is tried
before the one of blanks only. -/
def valueAfter (rest : List Char) : Option (List Char) :=
  match rest.dropWhile isSpace with
  | [] => none
  | c :: tail =>
    if isMark c && startsValue (tail.dropWhile isSpace) then
      some (tail.dropWhile isSpace)
    else if decide ((c :: tail).length < rest.length) && startsValue (c :: tail) then
      some (c :: tail)
    else none

def valueHere (cs : List Char) : Option (List Char) :=
  labels.findSome? fun label => (afterLabel label.toList cs).bind valueAfter

/-- `_LABELED_IDENTIFIER.sub`, from a position on: the label and the separator stay, the value
is replaced, and the characters of the match that are still ahead are skipped. -/
def substitute (h : Host) (before : Bool) : Nat → List Char → List Char
  | _, [] => []
  | skip + 1, c :: cs => substitute h (isWord h c) skip cs
  | 0, c :: cs =>
    match if before then none else valueHere (c :: cs) with
    | none => c :: substitute h (isWord h c) 0 cs
    | some value =>
      (c :: cs).take ((c :: cs).length - value.length) ++ Text.chars redacted ++
        substitute h (isWord h c)
          (cs.length - (value.dropWhile isValueChar).length) cs

def redactText (h : Host) (s : String) : String :=
  String.ofList (substitute h false 0 (Text.chars s))

set_option maxRecDepth 8000 in
example : redactText Host.ascii "supi-imsi-2089300001, IMEI = 123456" =
    "supi-[REDACTED], IMEI = [REDACTED]" := by decide

/-! A match ends where its value does, and the mark that replaces the value starts with a
character that no label, separator or value has. -/

theorem afterLabel_some {label : List Char} {cs rest : List Char}
    (found : afterLabel label cs = some rest) :
    ∃ word, cs = word ++ rest ∧ word.map foldCase = label := by
  induction label generalizing cs with
  | nil => exact ⟨[], by simpa [afterLabel] using found, rfl⟩
  | cons l label ih =>
    cases cs with
    | nil => cases found
    | cons c cs =>
      by_cases same : foldCase c = l
      · rw [afterLabel, if_pos same] at found
        obtain ⟨word, rfl, rfl⟩ := ih found
        exact ⟨c :: word, rfl, by rw [List.map_cons, same]⟩
      · rw [afterLabel, if_neg same] at found
        cases found

theorem afterLabel_word (word rest : List Char) :
    afterLabel (word.map foldCase) (word ++ rest) = some rest := by
  induction word with
  | nil => rfl
  | cons c word ih => simp [afterLabel, ih]

theorem labels_lower : ∀ label ∈ labels, ∀ c ∈ label.toList, 'a' ≤ c ∧ c ≤ 'z' := by
  have every : labels.all (fun label => label.toList.all fun c => 'a' ≤ c && c ≤ 'z') = true := by
    decide
  intro label known c inside
  simpa using List.all_eq_true.mp (List.all_eq_true.mp every label known) c inside

def Letter (c : Char) : Prop := 'a' ≤ foldCase c ∧ foldCase c ≤ 'z'

theorem Letter.code {c : Char} (letter : Letter c) :
    (65 ≤ c.toNat ∧ c.toNat ≤ 90) ∨ (97 ≤ c.toNat ∧ c.toNat ≤ 122) ∨ c.toNat = 0x130 ∨
      c.toNat = 0x131 ∨ c.toNat = 0x17F ∨ c.toNat = 0x212A := by
  obtain ⟨low, high⟩ := letter
  unfold foldCase at low high
  split at low
  · rename_i upper
    exact .inl upper
  · rename_i notUpper
    rw [if_neg notUpper] at high
    by_cases dotted : c.toNat = 0x130 ∨ c.toNat = 0x131
    · rcases dotted with code | code <;> simp [code]
    · by_cases long : c.toNat = 0x17F
      · simp [long]
      · by_cases kelvin : c.toNat = 0x212A
        · simp [kelvin]
        · rw [if_neg dotted, if_neg long, if_neg kelvin] at low high
          exact .inr (.inl ⟨low, high⟩)

theorem Letter.isValueChar {c : Char} (letter : Letter c) : isValueChar c = true := by
  simp [NetworkAgent.isValueChar, isLowerOrDigit, letter.1, letter.2]

theorem Letter.not_isSpace {c : Char} (letter : Letter c) : isSpace c = false := by
  have code := letter.code
  simp only [isSpace, isWhiteSpace, Bool.or_eq_false_iff, Bool.and_eq_false_iff,
    decide_eq_false_iff_not, beq_eq_false_iff_ne]
  omega

theorem Letter.not_isMark {c : Char} (letter : Letter c) : isMark c = false := by
  have code := letter.code
  simp only [isMark, Bool.or_eq_false_iff, beq_eq_false_iff_ne]
  refine ⟨⟨?_, ?_⟩, ?_⟩ <;> rintro rfl <;> simp at code

theorem letters_of_label {label : String} (member : label ∈ labels) {word : List Char}
    (same : word.map foldCase = label.toList) : ∀ c ∈ word, Letter c := by
  intro c inside
  apply labels_lower label member
  rw [← same]
  exact List.mem_map_of_mem inside

theorem isSpace_of_isMark {c : Char} (mark : isMark c = true) : isSpace c = false := by
  simp only [isMark, Bool.or_eq_true, beq_iff_eq] at mark
  rcases mark with (rfl | rfl) | rfl <;> decide

theorem isSpace_of_isValueChar {c : Char} (inside : isValueChar c = true) : isSpace c = false := by
  cases blank : isSpace c with
  | false => rfl
  | true =>
    have code : c.toNat ∉ [43, 45, 95, 0x130, 0x131, 0x17F, 0x212A] ∧
        ¬(65 ≤ c.toNat ∧ c.toNat ≤ 90) ∧ ¬(97 ≤ c.toNat ∧ c.toNat ≤ 122) ∧
        ¬(48 ≤ c.toNat ∧ c.toNat ≤ 57) := by
      simp only [isSpace, isWhiteSpace, Bool.or_eq_true, Bool.and_eq_true, decide_eq_true_eq,
        beq_iff_eq] at blank
      simp only [List.mem_cons, List.not_mem_nil, or_false]
      omega
    obtain ⟨special, upper, lower, digit⟩ := code
    simp only [List.mem_cons, List.not_mem_nil, or_false, not_or] at special
    obtain ⟨plus, minus, under, dotted, dotless, long, kelvin⟩ := special
    have plain : foldCase c = c := by
      have notUpper : ¬('A' ≤ c ∧ c ≤ 'Z') := upper
      simp [foldCase, notUpper, dotted, dotless, long, kelvin]
    have notLower : ¬('a' ≤ c ∧ c ≤ 'z') := lower
    have notDigit : ¬('0' ≤ c ∧ c ≤ '9') := digit
    simp only [isValueChar, plain, isLowerOrDigit, Bool.or_eq_true, Bool.and_eq_true,
      decide_eq_true_eq, notLower, notDigit, beq_iff_eq, false_or] at inside
    rcases inside with (rfl | rfl) | rfl
    · exact absurd rfl plus
    · exact absurd rfl under
    · exact absurd rfl minus

/-- What the separator group of the pattern matches. -/
inductive Separator : List Char → Prop where
  | marked (a b : List Char) (m : Char) (before : ∀ c ∈ a, isSpace c = true)
      (mark : isMark m = true) (after : ∀ c ∈ b, isSpace c = true) : Separator (a ++ m :: b)
  | blanks (a : List Char) (some : a ≠ []) (blank : ∀ c ∈ a, isSpace c = true) : Separator a

theorem Separator.head {sep : List Char} (separator : Separator sep) :
    ∃ c rest, sep = c :: rest ∧ ¬Letter c := by
  cases separator with
  | marked a b m before mark _ =>
    cases a with
    | nil => exact ⟨m, b, rfl, fun letter => by simp [letter.not_isMark] at mark⟩
    | cons c a =>
      refine ⟨c, a ++ m :: b, rfl, fun letter => ?_⟩
      simpa [letter.not_isSpace] using before c List.mem_cons_self
  | blanks a some blank =>
    cases sep with
    | nil => exact absurd rfl some
    | cons c rest =>
      refine ⟨c, rest, rfl, fun letter => ?_⟩
      simpa [letter.not_isSpace] using blank c List.mem_cons_self

theorem countP_blanks {a : List Char} (blank : ∀ c ∈ a, isSpace c = true) :
    a.countP isValueChar = 0 := by
  rw [List.countP_eq_zero]
  intro c inside value
  exact absurd (isSpace_of_isValueChar value) (by simp [blank c inside])

theorem Separator.countP_le {sep : List Char} (separator : Separator sep) :
    sep.countP isValueChar ≤ 1 := by
  cases separator with
  | marked a b m before _ after =>
    rw [List.countP_append, List.countP_cons, countP_blanks before, countP_blanks after]
    split <;> omega
  | blanks a _ blank => rw [countP_blanks blank]; omega

theorem labels_ne_nil : ∀ label ∈ labels, label.toList ≠ [] := by decide

theorem dropWhile_startsValue {value : List Char} (starts : startsValue value = true)
    {b : List Char} (blank : ∀ c ∈ b, isSpace c = true) :
    (b ++ value).dropWhile isSpace = value := by
  rw [List.dropWhile_append_of_pos blank]
  cases value with
  | nil => rfl
  | cons c value =>
    by_cases inside : isValueChar c = true
    · exact List.dropWhile_cons_of_neg (by simp [isSpace_of_isValueChar inside])
    · simp [startsValue, inside] at starts

theorem startsValue_takeWhile {value : List Char} (starts : startsValue value = true) :
    startsValue (value.takeWhile isValueChar) = true := by
  rw [startsValue, List.takeWhile_idem]
  exact starts

theorem startsSeparatorValue_iff {rest : List Char} :
    startsSeparatorValue rest = true ↔
      ∃ sep value, rest = sep ++ value ∧ Separator sep ∧ startsValue value = true := by
  have blank : ∀ text : List Char, ∀ c ∈ text.takeWhile isSpace, isSpace c = true :=
    fun text c inside => List.mem_takeWhile_imp inside
  constructor
  · intro found
    unfold startsSeparatorValue at found
    dsimp only at found
    rcases Bool.or_eq_true_iff.mp found with blanks | marked
    · obtain ⟨shorter, starts⟩ := Bool.and_eq_true_iff.mp blanks
      refine ⟨rest.takeWhile isSpace, rest.dropWhile isSpace,
        List.takeWhile_append_dropWhile.symm, .blanks _ ?_ (blank rest), starts⟩
      intro none
      have whole := congrArg List.length (List.takeWhile_append_dropWhile (p := isSpace) (l := rest))
      rw [none, List.nil_append] at whole
      simp only [decide_eq_true_eq] at shorter
      omega
    · cases dropped : rest.dropWhile isSpace with
      | nil => simp [dropped] at marked
      | cons c tail =>
        simp only [dropped, Bool.and_eq_true] at marked
        refine ⟨rest.takeWhile isSpace ++ c :: tail.takeWhile isSpace, tail.dropWhile isSpace, ?_,
          .marked _ _ c (blank rest) marked.1 (blank tail), marked.2⟩
        rw [List.append_assoc, List.cons_append, List.takeWhile_append_dropWhile, ← dropped,
          List.takeWhile_append_dropWhile]
  · rintro ⟨sep, value, rfl, separator, starts⟩
    unfold startsSeparatorValue
    dsimp only
    cases separator with
    | marked a b m before mark after =>
      have dropped : (a ++ m :: b ++ value).dropWhile isSpace = m :: (b ++ value) := by
        rw [List.append_assoc, List.dropWhile_append_of_pos before, List.cons_append,
          List.dropWhile_cons_of_neg (by simp [isSpace_of_isMark mark])]
      rw [dropped, Bool.or_eq_true]
      right
      simpa [isMark, dropWhile_startsValue starts after] using And.intro mark starts
    | blanks a some blank =>
      rw [dropWhile_startsValue starts blank, Bool.or_eq_true]
      left
      have shorter : 0 < sep.length := List.length_pos_iff.mpr some
      simp only [Bool.and_eq_true, decide_eq_true_eq, List.length_append]
      exact ⟨by omega, starts⟩

structure IsMatch (cs word sep value : List Char) : Prop where
  split : cs = word ++ sep ++ value
  label : ∃ label ∈ labels, word.map foldCase = label.toList
  separator : Separator sep
  starts : startsValue value = true

theorem matchesHere_iff {cs : List Char} :
    matchesHere cs = true ↔ ∃ word sep value, IsMatch cs word sep value := by
  constructor
  · intro found
    obtain ⟨label, member, here⟩ := List.any_eq_true.mp found
    cases after : afterLabel label.toList cs with
    | none => simp [after] at here
    | some rest =>
      rw [after] at here
      obtain ⟨word, rfl, same⟩ := afterLabel_some after
      obtain ⟨sep, value, rfl, separator, starts⟩ := startsSeparatorValue_iff.mp here
      exact ⟨word, sep, value, (List.append_assoc _ _ _).symm, ⟨label, member, same⟩, separator,
        starts⟩
  · rintro ⟨word, sep, value, rfl, ⟨label, member, same⟩, separator, starts⟩
    refine List.any_eq_true.mpr ⟨label, member, ?_⟩
    rw [← same, List.append_assoc, afterLabel_word]
    exact startsSeparatorValue_iff.mpr ⟨sep, value, rfl, separator, starts⟩

theorem IsMatch.letters {cs word sep value : List Char} (found : IsMatch cs word sep value) :
    ∀ c ∈ word, Letter c := by
  obtain ⟨label, member, same⟩ := found.label
  exact letters_of_label member same

theorem labels_head : ∀ label ∈ labels, label.toList.head? ∈ [some 'i', some 'm', some 's'] := by
  decide

theorem head_of_matchesHere {c : Char} {cs : List Char} (found : matchesHere (c :: cs) = true) :
    Letter c ∧ foldCase c ∈ ['i', 'm', 's'] := by
  obtain ⟨word, sep, value, found⟩ := matchesHere_iff.mp found
  obtain ⟨label, member, same⟩ := found.label
  have first := labels_head label member
  rw [← same] at first
  have split := found.split
  cases word with
  | nil => simp at first
  | cons d word =>
    obtain ⟨rfl, -⟩ := List.cons.inj split
    exact ⟨found.letters c List.mem_cons_self, by simpa using first⟩

theorem split_at_bracket {text tail front back : List Char} (outside : '[' ∉ front)
    (same : text ++ '[' :: tail = front ++ back) : ∃ rest, text = front ++ rest := by
  rcases List.append_eq_append_iff.mp same with ⟨rest, rfl, cut⟩ | ⟨rest, rfl, -⟩
  · cases rest with
    | nil => exact ⟨[], by simp⟩
    | cons c rest =>
      obtain ⟨rfl, -⟩ := List.cons.inj cut
      simp at outside
  · exact ⟨rest, rfl⟩

theorem Separator.bracket {sep : List Char} (separator : Separator sep) : '[' ∉ sep := by
  have blank : isSpace '[' = false := by decide
  have mark : isMark '[' = false := by decide
  intro inside
  cases separator with
  | marked a b m before marked after =>
    rcases List.mem_append.mp inside with front | back
    · simpa [blank] using before _ front
    · rcases List.mem_cons.mp back with rfl | back
      · simp [mark] at marked
      · simpa [blank] using after _ back
  | blanks a _ blanks => simpa [blank] using blanks _ inside

theorem IsMatch.before_bracket {text tail word sep value : List Char}
    (found : IsMatch (text ++ '[' :: tail) word sep value) :
    ∃ value', IsMatch text word sep value' := by
  have letter : ¬Letter '[' := by unfold Letter; decide
  have char : isValueChar '[' = false := by decide
  have outside : '[' ∉ word ++ sep ++ value.takeWhile isValueChar := by
    intro inside
    rcases List.mem_append.mp inside with front | back
    · rcases List.mem_append.mp front with front | middle
      · exact letter (found.letters _ front)
      · exact found.separator.bracket middle
    · simpa [char] using List.mem_takeWhile_imp back
  have whole : text ++ '[' :: tail =
      word ++ sep ++ value.takeWhile isValueChar ++ value.dropWhile isValueChar := by
    rw [List.append_assoc _ (value.takeWhile isValueChar), List.takeWhile_append_dropWhile]
    exact found.split
  obtain ⟨rest, rfl⟩ := split_at_bracket outside whole
  exact ⟨value.takeWhile isValueChar ++ rest, List.append_assoc _ _ _, found.label,
    found.separator, startsValue_append rest (startsValue_takeWhile found.starts)⟩

theorem IsMatch.append {text word sep value : List Char} (found : IsMatch text word sep value)
    (rest : List Char) : IsMatch (text ++ rest) word sep (value ++ rest) :=
  ⟨by rw [found.split, List.append_assoc], found.label, found.separator,
    startsValue_append rest found.starts⟩

theorem matchesHere_of_bracket {text tail : List Char}
    (found : matchesHere (text ++ '[' :: tail) = true) (rest : List Char) :
    matchesHere (text ++ rest) = true := by
  obtain ⟨word, sep, value, found⟩ := matchesHere_iff.mp found
  obtain ⟨value', inside⟩ := found.before_bracket
  exact matchesHere_iff.mpr ⟨word, sep, value' ++ rest, inside.append rest⟩

theorem six_le_countP {value : List Char} (starts : startsValue value = true) :
    6 ≤ value.countP isValueChar := by
  have all : (value.takeWhile isValueChar).countP isValueChar =
      (value.takeWhile isValueChar).length :=
    List.countP_eq_length.mpr fun c inside => List.mem_takeWhile_imp inside
  have part := (List.takeWhile_sublist (l := value) isValueChar).countP_le (p := isValueChar)
  simp only [startsValue, decide_eq_true_eq] at starts
  omega

/-- Nothing that starts inside a label or the separator after it matches in front of the mark:
the six characters of a value would have to stand in the separator. -/
theorem not_matchesHere_kept {word sep part tail : List Char} (letters : ∀ c ∈ word, Letter c)
    (separator : Separator sep) (inside : part <:+ word ++ sep) :
    matchesHere (part ++ '[' :: tail) = false := by
  rw [Bool.eq_false_iff]
  intro found
  obtain ⟨word', sep', value, found⟩ := matchesHere_iff.mp found
  obtain ⟨value', here⟩ := found.before_bracket
  obtain ⟨front, whole⟩ := inside
  rw [here.split, List.append_assoc, ← List.append_assoc] at whole
  have counted : value'.countP isValueChar ≤ sep.countP isValueChar := by
    rcases List.append_eq_append_iff.mp whole with ⟨rest, split, tail⟩ | ⟨rest, -, tail⟩
    · cases rest with
      | nil =>
        rw [List.nil_append] at tail
        exact (tail ▸ List.sublist_append_right sep' value').countP_le
      | cons c rest =>
        obtain ⟨d, _, rfl, notLetter⟩ := here.separator.head
        obtain ⟨rfl, -⟩ := List.cons.inj tail
        exact absurd (letters d (by simp [split])) notLetter
    · rw [tail]
      exact ((List.sublist_append_right sep' value').trans
        (List.sublist_append_right rest _)).countP_le
  have many := six_le_countP here.starts
  have few := separator.countP_le
  omega

theorem searchFrom_quiet (h : Host) {text tail : List Char}
    (quiet : ∀ part, part ≠ [] → part <:+ text → matchesHere (part ++ tail) = false)
    (clean : ∀ before, searchFrom h before tail = false) (before : Bool) :
    searchFrom h before (text ++ tail) = false := by
  induction text generalizing before with
  | nil => exact clean before
  | cons c text ih =>
    have first := quiet (c :: text) (List.cons_ne_nil _ _) List.suffix_rfl
    rw [List.cons_append] at first ⊢
    rw [searchFrom, first, Bool.and_false, Bool.false_or]
    exact ih (fun part some inside => quiet part some (inside.trans (List.suffix_cons c text))) _

theorem valueAfter_isSome (rest : List Char) :
    (valueAfter rest).isSome = startsSeparatorValue rest := by
  unfold valueAfter startsSeparatorValue
  dsimp only
  cases dropped : rest.dropWhile isSpace with
  | nil => simp [startsValue]
  | cons c tail =>
    dsimp only
    rw [Bool.or_comm]
    change _ = ((isMark c && _) || _)
    split
    · rename_i marked
      rw [marked, Bool.true_or, Option.isSome_some]
    · rename_i unmarked
      rw [Bool.eq_false_iff.mpr unmarked, Bool.false_or]
      split
      · rename_i blanks
        rw [blanks, Option.isSome_some]
      · rename_i none
        rw [Bool.eq_false_iff.mpr none, Option.isSome_none]

theorem valueAfter_some {rest value : List Char} (found : valueAfter rest = some value) :
    ∃ sep, rest = sep ++ value ∧ Separator sep ∧ startsValue value = true := by
  have blank : ∀ text : List Char, ∀ c ∈ text.takeWhile isSpace, isSpace c = true :=
    fun text c inside => List.mem_takeWhile_imp inside
  unfold valueAfter at found
  cases dropped : rest.dropWhile isSpace with
  | nil => simp [dropped] at found
  | cons c tail =>
    have whole : rest = rest.takeWhile isSpace ++ c :: tail := by
      rw [← dropped, List.takeWhile_append_dropWhile]
    rw [dropped] at found
    dsimp only at found
    split at found
    · rename_i marked
      obtain ⟨mark, starts⟩ := Bool.and_eq_true_iff.mp marked
      obtain rfl := Option.some.inj found
      refine ⟨rest.takeWhile isSpace ++ c :: tail.takeWhile isSpace, ?_,
        .marked _ _ c (blank rest) mark (blank tail), starts⟩
      rw [List.append_assoc, List.cons_append, List.takeWhile_append_dropWhile]
      exact whole
    · split at found
      · rename_i blanks
        obtain ⟨shorter, starts⟩ := Bool.and_eq_true_iff.mp blanks
        obtain rfl := Option.some.inj found
        refine ⟨rest.takeWhile isSpace, whole, .blanks _ ?_ (blank rest), starts⟩
        intro none
        rw [none, List.nil_append] at whole
        rw [whole] at shorter
        simp at shorter
      · cases found

theorem valueHere_some {cs value : List Char} (found : valueHere cs = some value) :
    ∃ word sep, IsMatch cs word sep value := by
  obtain ⟨label, member, found⟩ := List.exists_of_findSome?_eq_some found
  obtain ⟨rest, after, here⟩ := Option.bind_eq_some_iff.mp found
  obtain ⟨word, rfl, same⟩ := afterLabel_some after
  obtain ⟨sep, rfl, separator, starts⟩ := valueAfter_some here
  exact ⟨word, sep, (List.append_assoc _ _ _).symm, ⟨label, member, same⟩, separator, starts⟩

theorem valueHere_none {cs : List Char} : valueHere cs = none ↔ matchesHere cs = false := by
  rw [valueHere, List.findSome?_eq_none_iff, Bool.eq_false_iff, matchesHere, Ne,
    List.any_eq_true]
  constructor
  · rintro none ⟨label, member, found⟩
    have absent := none label member
    cases after : afterLabel label.toList cs with
    | none => simp [after] at found
    | some rest =>
      rw [after] at absent found
      have here : (valueAfter rest).isSome = true := (valueAfter_isSome rest).trans found
      rw [Option.bind_some] at absent
      simp [absent] at here
  · intro none label member
    cases after : afterLabel label.toList cs with
    | none => rfl
    | some rest =>
      rw [Option.bind_some]
      have here := valueAfter_isSome rest
      cases found : valueAfter rest with
      | none => rfl
      | some value =>
        rw [found, Option.isSome_some] at here
        exact absurd ⟨label, member, by rw [after]; exact here.symm⟩ none

theorem substitute_quiet (h : Host) (before : Bool) (cs : List Char)
    (quiet : searchFrom h before cs = false) : substitute h before 0 cs = cs := by
  induction cs generalizing before with
  | nil => rfl
  | cons c cs ih =>
    obtain ⟨here, later⟩ := Bool.or_eq_false_iff.mp quiet
    have none : (if before then none else valueHere (c :: cs)) = none := by
      cases before with
      | true => rfl
      | false => exact valueHere_none.mpr (by simpa using here)
    rw [substitute, none]
    exact congrArg (c :: ·) (ih _ later)

theorem substitute_skip (h : Host) (before : Bool) (skip : Nat) (cs : List Char) :
    ∃ b, substitute h before skip cs = substitute h b 0 (cs.drop skip) := by
  induction cs generalizing before skip with
  | nil => exact ⟨before, by cases skip <;> rfl⟩
  | cons c cs ih =>
    cases skip with
    | zero => exact ⟨before, rfl⟩
    | succ skip => exact ih _ skip

theorem redacted_chars : Text.chars redacted = '[' :: "REDACTED]".toList := by decide

theorem substitute_cons (h : Host) (before : Bool) (c : Char) (cs : List Char) :
    ((before = true ∨ matchesHere (c :: cs) = false) ∧
        substitute h before 0 (c :: cs) = c :: substitute h (isWord h c) 0 cs) ∨
      ∃ word sep value b, IsMatch (c :: cs) word sep value ∧
        substitute h before 0 (c :: cs) = word ++ sep ++ Text.chars redacted ++
          substitute h b 0 (value.dropWhile isValueChar) := by
  cases found : (if before then none else valueHere (c :: cs)) with
  | none =>
    left
    constructor
    · cases before with
      | true => exact .inl rfl
      | false => exact .inr (valueHere_none.mp found)
    · rw [substitute, found]
  | some value =>
    right
    cases before with
    | true => cases found
    | false =>
      obtain ⟨word, sep, here⟩ := valueHere_some found
      have kept : (c :: cs).take ((c :: cs).length - value.length) = word ++ sep := by
        rw [here.split, List.length_append, Nat.add_sub_cancel, List.take_left]
      have rest : value.dropWhile isValueChar <:+ cs := by
        obtain ⟨d, word', rfl⟩ : ∃ d word', word = d :: word' := by
          obtain ⟨label, member, same⟩ := here.label
          cases word with
          | nil =>
            have first := labels_head label member
            rw [← same] at first
            simp at first
          | cons d word' => exact ⟨d, word', rfl⟩
        obtain ⟨-, tail⟩ := List.cons.inj here.split
        rw [tail]
        exact (List.dropWhile_suffix _).trans (List.suffix_append _ _)
      obtain ⟨b, skipped⟩ := substitute_skip h (isWord h c)
        (cs.length - (value.dropWhile isValueChar).length) cs
      refine ⟨word, sep, value, b, here, ?_⟩
      rw [substitute, found]
      dsimp only
      rw [kept, skipped, ← List.suffix_iff_eq_drop.mp rest]

theorem substitute_front (h : Host) (before : Bool) (cs : List Char) :
    substitute h before 0 cs = cs ∨
      ∃ front tail rest, substitute h before 0 cs = front ++ '[' :: tail ∧ cs = front ++ rest := by
  induction cs generalizing before with
  | nil => exact .inl rfl
  | cons c cs ih =>
    rcases substitute_cons h before c cs with ⟨-, kept⟩ | ⟨word, sep, value, b, here, replaced⟩
    · rcases ih (isWord h c) with same | ⟨front, tail, rest, out, rfl⟩
      · exact .inl (by rw [kept, same])
      · exact .inr ⟨c :: front, tail, rest, by rw [kept, out, List.cons_append], rfl⟩
    · rw [redacted_chars, List.append_assoc _ ('[' :: _), List.cons_append] at replaced
      exact .inr ⟨word ++ sep, _, value, replaced, here.split⟩

theorem quiet_mark {part rest : List Char} (some : part ≠ [])
    (inside : part <:+ Text.chars redacted) : matchesHere (part ++ rest) = false := by
  have every : (Text.chars redacted).all (fun c => foldCase c ∉ ['i', 'm', 's']) = true := by
    decide
  have first : ∀ c ∈ Text.chars redacted, foldCase c ∉ ['i', 'm', 's'] := fun c member =>
    of_decide_eq_true (List.all_eq_true.mp every c member)
  cases part with
  | nil => exact absurd rfl some
  | cons c part =>
    rw [Bool.eq_false_iff]
    intro found
    exact first c (inside.subset List.mem_cons_self) (head_of_matchesHere found).2

theorem searchFrom_substitute (h : Host) (n : Nat) (cs : List Char) (bound : cs.length ≤ n)
    (before : Bool) : searchFrom h before (substitute h before 0 cs) = false := by
  induction n generalizing cs before with
  | zero =>
    rw [List.length_eq_zero_iff.mp (Nat.le_zero.mp bound)]
    rfl
  | succ n ih =>
    cases cs with
    | nil => rfl
    | cons c cs =>
      rw [List.length_cons] at bound
      rcases substitute_cons h before c cs with ⟨quiet, kept⟩ | ⟨word, sep, value, b, here, replaced⟩
      · rw [kept, searchFrom, ih cs (by omega), Bool.or_false]
        rcases quiet with rfl | quiet
        · rfl
        · rw [Bool.and_eq_false_iff]
          right
          rcases substitute_front h (isWord h c) cs with same | ⟨front, tail, rest, out, rfl⟩
          · rw [same]
            exact quiet
          · rw [out, Bool.eq_false_iff]
            intro found
            have old := @matchesHere_of_bracket (c :: front) _ found rest
            rw [List.cons_append, quiet] at old
            cases old
      · rw [replaced, List.append_assoc]
        apply searchFrom_quiet
        · intro part some inside
          rw [redacted_chars, List.cons_append]
          exact not_matchesHere_kept here.letters here.separator inside
        · apply searchFrom_quiet h fun part some inside => quiet_mark some inside
          intro b'
          have shorter : (value.dropWhile isValueChar).length ≤ n := by
            have whole := congrArg List.length here.split
            have drop := (List.dropWhile_suffix (l := value) isValueChar).length_le
            obtain ⟨m, rest, rfl, -⟩ := here.separator.head
            simp only [List.length_cons, List.length_append] at whole
            omega
          cases left : value.dropWhile isValueChar with
          | nil => rfl
          | cons d rest =>
            have stop : isValueChar d = false := by
              have first := List.head?_dropWhile_not isValueChar value
              rw [left] at first
              exact first
            have letter : ¬Letter d := fun letter => by simp [letter.isValueChar] at stop
            rw [left, List.length_cons] at shorter
            rcases substitute_cons h b d rest with ⟨-, kept⟩ | ⟨_, _, _, _, match', -⟩
            · rw [kept, searchFrom, ih rest (by omega), Bool.or_false, Bool.and_eq_false_iff]
              exact .inr (Bool.eq_false_iff.mpr fun found => letter (head_of_matchesHere found).1)
            · exact absurd (head_of_matchesHere (matchesHere_iff.mpr ⟨_, _, _, match'⟩)).1 letter

theorem labeledIdentifier_redactText (h : Host) (s : String) :
    labeledIdentifier h (redactText h s) = false := by
  rw [labeledIdentifier, redactText, Text.chars_eq (String.ofList _), String.toList_ofList]
  exact searchFrom_substitute h _ _ (Nat.le_refl _) false

theorem redactText_of_quiet {h : Host} {s : String} (quiet : labeledIdentifier h s = false) :
    redactText h s = s := by
  rw [redactText, substitute_quiet h false _ quiet, Text.chars_eq, String.ofList_toList]

end NetworkAgent
