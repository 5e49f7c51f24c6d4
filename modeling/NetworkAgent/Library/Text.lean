import Mathlib.Data.List.DropRight

/-! Texts as characters and as UTF-8 bytes, trimming by a predicate on characters, and texts
that are already trimmed and of bounded length. Two trims compose when one predicate covers
the other. -/

def utf8 (s : String) : List Nat := s.toByteArray.data.toList.map UInt8.toNat

theorem utf8_eq (s : String) :
    utf8 s = s.toList.flatMap fun c => (String.utf8EncodeChar c).map UInt8.toNat := by
  have encoded : s.toByteArray.data.toList = s.toList.flatMap String.utf8EncodeChar := by
    rw [← String.utf8Encode_toList, List.utf8Encode, List.toList_data_toByteArray]
  rw [utf8, encoded, List.map_flatMap]

theorem utf8_length_le (s : String) : (utf8 s).length ≤ 4 * s.length := by
  rw [utf8_eq, ← String.length_toList]
  induction s.toList with
  | nil => simp
  | cons c rest ih =>
    have size := c.utf8Size_le_four
    simp only [List.flatMap_cons, List.length_append, List.length_map,
      String.length_utf8EncodeChar, List.length_cons]
    omega

namespace Text

def decode : List Nat → List Char
  | [] => []
  | a :: rest =>
    if a < 0x80 then Char.ofNat a :: decode rest
    else match rest with
      | [] => []
      | b :: rest =>
        if a < 0xE0 then Char.ofNat (a % 0x20 * 0x40 + b % 0x40) :: decode rest
        else match rest with
          | [] => []
          | c :: rest =>
            if a < 0xF0 then
              Char.ofNat ((a % 0x10 * 0x40 + b % 0x40) * 0x40 + c % 0x40) :: decode rest
            else match rest with
              | [] => []
              | d :: rest =>
                Char.ofNat (((a % 8 * 0x40 + b % 0x40) * 0x40 + c % 0x40) * 0x40 + d % 0x40) ::
                  decode rest

theorem decode_encode (c : Char) (rest : List Nat) :
    decode ((String.utf8EncodeChar c).map UInt8.toNat ++ rest) = c :: decode rest := by
  have bound : c.toNat < 0x110000 := by
    rcases c.valid with low | ⟨_, high⟩
    · exact Nat.lt_trans low (by decide)
    · exact high
  have char : ∀ n, n = c.toNat → Char.ofNat n = c := fun n same => by
    rw [same, Char.ofNat_toNat]
  have val : c.val.toNat = c.toNat := rfl
  unfold String.utf8EncodeChar
  simp only [val]
  split_ifs
  all_goals
    simp only [List.map_cons, List.map_nil, UInt8.toNat_ofNat', List.cons_append, List.nil_append]
    conv_lhs => rw [decode.eq_def]
    dsimp only
  · rw [if_pos (by omega), char _ (by omega)]
  · rw [if_neg (by omega), if_pos (by omega), char _ (by omega)]
  · rw [if_neg (by omega), if_neg (by omega), if_pos (by omega), char _ (by omega)]
  · rw [if_neg (by omega), if_neg (by omega), if_neg (by omega), char _ (by omega)]

def chars (s : String) : List Char := decode (utf8 s)

@[simp] theorem chars_eq (s : String) : chars s = s.toList := by
  rw [chars, utf8_eq]
  induction s.toList with
  | nil => rfl
  | cons c rest ih => rw [List.flatMap_cons, decode_encode, ih]

/-! A bound on a length is decided on the decoded characters, which the kernel evaluates
faster than the length of the text. -/

theorem chars_length (s : String) : (chars s).length = s.length := by
  rw [chars_eq, String.length_toList]

theorem chars_length_le {s : String} {n : Nat} : (chars s).length ≤ n ↔ s.length ≤ n := by
  rw [chars_length]

theorem le_chars_length {s : String} {n : Nat} : n ≤ (chars s).length ↔ n ≤ s.length := by
  rw [chars_length]

instance decidableLengthLe (s : String) (n : Nat) : Decidable (s.length ≤ n) :=
  decidable_of_iff _ chars_length_le

instance decidableLeLength (s : String) (n : Nat) : Decidable (n ≤ s.length) :=
  decidable_of_iff _ le_chars_length

/-- Remove the leading and trailing characters that satisfy the predicate. -/
def trim (p : Char → Bool) (s : String) : String :=
  String.ofList (((chars s).dropWhile p).rdropWhile p)

theorem dropWhile_fixed {p : Char → Bool} {cs : List Char}
    (head : ∀ c rest, cs = c :: rest → p c = false) : cs.dropWhile p = cs := by
  cases cs with
  | nil => rfl
  | cons c rest => simp [head c rest rfl]

theorem dropWhile_head {p : Char → Bool} {cs : List Char} {c : Char} {rest : List Char}
    (h : cs.dropWhile p = c :: rest) : p c = false := by
  simpa [h] using List.head?_dropWhile_not p cs

theorem dropWhile_covered {p q : Char → Bool} (cover : ∀ c, p c = true → q c = true)
    (cs : List Char) : (cs.dropWhile q).dropWhile p = cs.dropWhile q := by
  apply dropWhile_fixed
  intro c rest h
  have kept := dropWhile_head h
  cases hp : p c with
  | false => rfl
  | true => rw [cover c hp] at kept; cases kept

theorem rdropWhile_covered {p q : Char → Bool} (cover : ∀ c, p c = true → q c = true)
    (cs : List Char) : (cs.rdropWhile q).rdropWhile p = cs.rdropWhile q := by
  simp [List.rdropWhile, dropWhile_covered cover]

theorem dropWhile_rdropWhile {p q : Char → Bool} (cover : ∀ c, p c = true → q c = true)
    (cs : List Char) :
    ((cs.dropWhile q).rdropWhile q).dropWhile p = (cs.dropWhile q).rdropWhile q := by
  apply dropWhile_fixed
  intro c rest h
  obtain ⟨back, split⟩ := List.rdropWhile_prefix (p := q) (l := cs.dropWhile q)
  rw [h] at split
  have kept := dropWhile_head split.symm
  cases hp : p c with
  | false => rfl
  | true => rw [cover c hp] at kept; cases kept

theorem trim_trim_of_imp {p q : Char → Bool} (cover : ∀ c, p c = true → q c = true) (s : String) :
    trim p (trim q s) = trim q s := by
  simp only [trim, chars_eq, String.toList_ofList, dropWhile_rdropWhile cover, rdropWhile_covered cover]

@[simp] theorem trim_trim (p : Char → Bool) (s : String) : trim p (trim p s) = trim p s :=
  trim_trim_of_imp (fun _ h => h) s

theorem trim_fixed {p : Char → Bool} {s : String} (kept : ∀ c ∈ s.toList, p c = false) :
    trim p s = s := by
  have front : s.toList.dropWhile p = s.toList := dropWhile_fixed fun c rest split =>
    kept c (by simp [split])
  have back : s.toList.rdropWhile p = s.toList := by
    rw [List.rdropWhile, dropWhile_fixed fun c rest split => kept c ?_, List.reverse_reverse]
    exact List.mem_reverse.mp (by simp [split])
  rw [trim, chars_eq, front, back, String.ofList_toList]

theorem trim_eq_empty {p : Char → Bool} {s : String} :
    trim p s = "" ↔ ∀ c ∈ s.toList, p c = true := by
  rw [trim, chars_eq, ← String.toList_inj, String.toList_ofList]
  change List.rdropWhile p (s.toList.dropWhile p) = [] ↔ _
  rw [List.rdropWhile_eq_nil_iff]
  constructor
  · intro covered c member
    rw [← List.takeWhile_append_dropWhile (p := p) (l := s.toList)] at member
    rcases List.mem_append.mp member with front | back
    · exact List.mem_takeWhile_imp front
    · exact covered c back
  · exact fun covered c member => covered c ((List.dropWhile_sublist p).mem member)

theorem trim_length_le (p : Char → Bool) (s : String) : (trim p s).length ≤ s.length := by
  have front := (List.dropWhile_sublist p (l := s.toList)).length_le
  have back := (List.rdropWhile_prefix p (l := s.toList.dropWhile p)).length_le
  rw [trim, chars_eq, String.length_ofList]
  exact Nat.le_trans back (Nat.le_trans front (Nat.le_of_eq String.length_toList))

theorem trim_between (p : Char → Bool) (s : String) : ∃ front back,
    s.toList = front ++ ((trim p s).toList ++ back) ∧
      (∀ c ∈ front, p c = true) ∧ ∀ c ∈ back, p c = true := by
  refine ⟨s.toList.takeWhile p, (s.toList.dropWhile p).rtakeWhile p, ?_,
    fun c member => List.mem_takeWhile_imp member, fun c member => List.mem_rtakeWhile_imp member⟩
  rw [trim, chars_eq, String.toList_ofList, List.rdropWhile_append_rtakeWhile,
    List.takeWhile_append_dropWhile]

theorem trim_padded {p : Char → Bool} {s : String} {front middle back : List Char}
    (padded : s.toList = front ++ (middle ++ back)) (before : ∀ c ∈ front, p c = true)
    (after : ∀ c ∈ back, p c = true) (head : ∀ c ∈ middle.head?, p c = false)
    (last : ∀ c ∈ middle.getLast?, p c = false) : trim p s = String.ofList middle := by
  cases middle with
  | nil =>
    refine trim_eq_empty.mpr fun c member => ?_
    rw [padded] at member
    rcases List.mem_append.mp member with here | here
    · exact before c here
    · exact after c here
  | cons c rest =>
    have start : p c = false := head c rfl
    have drop : s.toList.dropWhile p = c :: rest ++ back := by
      rw [padded, List.dropWhile_append_of_pos before]
      exact List.dropWhile_cons_of_neg (by simp [start])
    have final : ((c :: rest).reverse).dropWhile p = (c :: rest).reverse := by
      apply dropWhile_fixed
      intro d others split
      refine last d ?_
      rw [← List.head?_reverse, split]
      rfl
    rw [trim, chars_eq, drop, List.rdropWhile, List.reverse_append,
      List.dropWhile_append_of_pos fun c member => after c (List.mem_reverse.mp member), final,
      List.reverse_reverse]

/-- A trimmed, non-empty text of at most `bound` characters. -/
structure Bounded (p : Char → Bool) (bound : Nat) where
  text : String
  trimmed : trim p text = text
  nonempty : 1 ≤ text.length
  short : text.length ≤ bound
  deriving DecidableEq

namespace Bounded
variable {p : Char → Bool} {bound : Nat}

def parse (p : Char → Bool) (bound : Nat) (s : String) : Option (Bounded p bound) :=
  if h : 1 ≤ (trim p s).length ∧ (trim p s).length ≤ bound then
    some ⟨trim p s, trim_trim p s, h.1, h.2⟩
  else none

def ofText (s : String) (ok : trim p s = s ∧ 1 ≤ s.length ∧ s.length ≤ bound) : Bounded p bound :=
  ⟨s, ok.1, ok.2.1, ok.2.2⟩

@[ext] theorem ext {a b : Bounded p bound} (h : a.text = b.text) : a = b := by
  cases a; cases b; cases h; rfl

theorem parse_eq_some {s : String} {b : Bounded p bound} :
    parse p bound s = some b ↔ trim p s = b.text := by
  constructor
  · intro h
    unfold parse at h
    split at h
    · cases h; rfl
    · cases h
  · intro h
    have bounds : 1 ≤ (trim p s).length ∧ (trim p s).length ≤ bound := by
      rw [h]; exact ⟨b.nonempty, b.short⟩
    simp only [parse, dif_pos bounds, Option.some.injEq]
    exact Bounded.ext h

theorem parse_isSome {s : String} :
    (parse p bound s).isSome ↔ trim p s ≠ "" ∧ (trim p s).length ≤ bound := by
  have filled : 1 ≤ (trim p s).length ↔ trim p s ≠ "" := by
    rw [Nat.one_le_iff_ne_zero, ne_eq, String.length_eq_zero_iff]
  unfold parse
  split
  · next inside => simpa [filled] using inside
  · next outside => simpa [filled] using outside

@[simp] theorem parse_text (b : Bounded p bound) : parse p bound b.text = some b :=
  parse_eq_some.mpr b.trimmed

end Bounded

end Text
