import Mathlib.Data.List.Basic

/-! UTF-16 code units of a text, and the strict decoder of such units. -/
namespace Utf16

def isHigh (u : Nat) : Bool := decide (0xD800 ≤ u ∧ u ≤ 0xDBFF)

def isLow (u : Nat) : Bool := decide (0xDC00 ≤ u ∧ u ≤ 0xDFFF)

def combine (high low : Nat) : Nat := 0x10000 + (high - 0xD800) * 1024 + (low - 0xDC00)

/-- The units of a code point; that of a surrogate is the surrogate itself. -/
def pointUnits (p : Nat) : List Nat :=
  if p < 0x10000 then [p]
  else [0xD800 + (p - 0x10000) / 1024, 0xDC00 + (p - 0x10000) % 1024]

def encode (points : List Nat) : List Nat := points.flatMap pointUnits

def units (cs : List Char) : List Nat := encode (cs.map Char.toNat)

/-- The strict decoder: a pair becomes one character, an unpaired surrogate is an error. -/
def decode : List Nat → Option (List Char)
  | [] => some []
  | [u] => if isHigh u || isLow u then none else some [Char.ofNat u]
  | u :: v :: rest =>
    if isHigh u then
      if isLow v then (Char.ofNat (combine u v) :: ·) <$> decode rest else none
    else if isLow u then none
    else (Char.ofNat u :: ·) <$> decode (v :: rest)

/-! Characters are no surrogates. -/

theorem char_bounds (c : Char) : c.toNat < 0xD800 ∨ 0xDFFF < c.toNat ∧ c.toNat < 0x110000 :=
  c.valid

theorem isHigh_char (c : Char) : isHigh c.toNat = false := by
  have bounds := char_bounds c
  simp only [isHigh, decide_eq_false_iff_not]
  omega

theorem isLow_char (c : Char) : isLow c.toNat = false := by
  have bounds := char_bounds c
  simp only [isLow, decide_eq_false_iff_not]
  omega

theorem toNat_ofNat {n : Nat} (valid : n < 0xD800 ∨ 0xDFFF < n ∧ n < 0x110000) :
    (Char.ofNat n).toNat = n := by
  have known : n.isValidChar := valid
  rw [Char.ofNat, dif_pos known]
  rfl

theorem pointUnits_combine {high low : Nat} (h : isHigh high = true) (l : isLow low = true) :
    pointUnits (combine high low) = [high, low] := by
  simp only [isHigh, isLow, decide_eq_true_eq] at h l
  have large : ¬ combine high low < 0x10000 := by
    unfold combine
    omega
  have first : 0xD800 + (combine high low - 0x10000) / 1024 = high := by
    unfold combine
    omega
  have second : 0xDC00 + (combine high low - 0x10000) % 1024 = low := by
    unfold combine
    omega
  rw [pointUnits, if_neg large, first, second]

theorem combine_pointUnits {p : Nat} (large : ¬ p < 0x10000) (bound : p < 0x110000) :
    ∃ high low, pointUnits p = [high, low] ∧ isHigh high = true ∧ isLow low = true ∧
      combine high low = p := by
  refine ⟨_, _, by rw [pointUnits, if_neg large], ?_, ?_, ?_⟩
  · simp only [isHigh, decide_eq_true_eq]
    omega
  · simp only [isLow, decide_eq_true_eq]
    omega
  · unfold combine
    omega

theorem combine_valid {high low : Nat} (h : isHigh high = true) (l : isLow low = true) :
    0xDFFF < combine high low ∧ combine high low < 0x110000 := by
  simp only [isHigh, isLow, decide_eq_true_eq] at h l
  unfold combine
  omega

/-! The decoder inverts the encoder. -/

theorem decode_plain {u : Nat} {rest : List Nat} (high : isHigh u = false) (low : isLow u = false) :
    decode (u :: rest) = (Char.ofNat u :: ·) <$> decode rest := by
  cases rest with
  | nil => simp [decode, high, low]
  | cons v rest => simp [decode, high, low]

theorem units_cons (c : Char) (cs : List Char) :
    units (c :: cs) = pointUnits c.toNat ++ units cs := by
  simp [units, encode]

theorem decode_units (cs : List Char) : decode (units cs) = some cs := by
  induction cs with
  | nil => rfl
  | cons c cs ih =>
    rw [units_cons]
    by_cases small : c.toNat < 0x10000
    · rw [pointUnits, if_pos small, List.singleton_append,
        decode_plain (isHigh_char c) (isLow_char c), ih, Char.ofNat_toNat]
      rfl
    · have bounds := char_bounds c
      obtain ⟨high, low, same, h, l, whole⟩ := combine_pointUnits small (by omega)
      rw [same]
      simp only [List.cons_append, List.nil_append, decode, h, l, if_true, ih, whole,
        Char.ofNat_toNat]
      rfl

theorem units_of_decode {us : List Nat} {cs : List Char} (small : ∀ u ∈ us, u < 0x10000)
    (decoded : decode us = some cs) : us = units cs := by
  induction us using decode.induct generalizing cs with
  | case1 =>
    cases decoded
    rfl
  | case2 u bad => simp [decode, bad] at decoded
  | case3 u fine =>
    have plain : isHigh u = false ∧ isLow u = false := by simpa using fine
    have bound := small u List.mem_cons_self
    simp only [decode, plain, Bool.or_self, Bool.false_eq_true, if_false, Option.some.injEq] at decoded
    subst decoded
    simp only [isHigh, isLow, decide_eq_false_iff_not] at plain
    rw [units_cons, toNat_ofNat (by omega), pointUnits, if_pos bound]
    rfl
  | case4 u v rest high low ih =>
    simp only [decode, high, low, if_true, Option.map_eq_map, Option.map_eq_some_iff] at decoded
    obtain ⟨tail, later, rfl⟩ := decoded
    have bounds := combine_valid high low
    rw [units_cons, toNat_ofNat (by omega), pointUnits_combine high low,
      ih (fun w member => small w (by simp [member])) later]
    rfl
  | case5 u v rest high low => simp [decode, high, low] at decoded
  | case6 u v rest high low => simp [decode, high, low] at decoded
  | case7 u v rest high low ih =>
    have plain : isHigh u = false ∧ isLow u = false := by simpa using And.intro high low
    have bound := small u List.mem_cons_self
    rw [decode_plain plain.1 plain.2] at decoded
    simp only [Option.map_eq_map, Option.map_eq_some_iff] at decoded
    obtain ⟨tail, later, rfl⟩ := decoded
    simp only [isHigh, isLow, decide_eq_false_iff_not] at plain
    rw [units_cons, toNat_ofNat (by omega), pointUnits, if_pos bound,
      ih (fun w member => small w (List.mem_cons_of_mem u member)) later]
    rfl

theorem decode_eq_some {us : List Nat} {cs : List Char} (small : ∀ u ∈ us, u < 0x10000) :
    decode us = some cs ↔ us = units cs :=
  ⟨units_of_decode small, fun same => same ▸ decode_units cs⟩

theorem units_injective : Function.Injective units := by
  intro a b same
  have both := decode_units a
  rw [same, decode_units b] at both
  exact (Option.some.inj both).symm

end Utf16
