import NetworkAgent.Library.JsonText

/-! Scalars, which their canonical text tells apart. -/

namespace Json

/-- A number prints as digits with a point or an exponent, and no two numbers print alike. -/
structure FloatTexts (floatRepr : ℚ → String) : Prop where
  distinct : ∀ p q, floatRepr p = floatRepr q → p = q
  characters : ∀ q, ∀ c ∈ (floatRepr q).toList,
    c.isDigit = true ∨ c = '-' ∨ c = '+' ∨ c = '.' ∨ c = 'e'
  marked : ∀ q, '.' ∈ (floatRepr q).toList ∨ 'e' ∈ (floatRepr q).toList

/-- `_is_scalar`; the numbers of the model are finite. -/
def isScalar : Json → Bool
  | .bool _ | .int _ | .float _ | .str _ => true
  | .null | .arr _ | .obj _ => false

section
variable {floatRepr : ℚ → String}

theorem FloatTexts.ne_int (texts : FloatTexts floatRepr) (q : ℚ) (n : Int) :
    floatRepr q ≠ toString n := by
  intro same
  have plain : ∀ c ∈ (floatRepr q).toList, c = '-' ∨ c.isDigit = true := by
    rw [same, Int.toString_eq_repr]
    exact (int_text n).2
  rcases texts.marked q with mark | mark
  · rcases plain _ mark with other | digit
    · cases other
    · exact absurd digit (by decide)
  · rcases plain _ mark with other | digit
    · cases other
    · exact absurd digit (by decide)

theorem FloatTexts.ne_bool (texts : FloatTexts floatRepr) (q : ℚ) (b : Bool) :
    floatRepr q ≠ if b then "true" else "false" := by
  intro same
  have letter : (if b then 'r' else 's') ∈ (floatRepr q).toList := by
    rw [same]
    cases b <;> decide
  have plain := texts.characters q _ letter
  cases b <;> exact absurd plain (by decide)

theorem quote_ne_ascii {s t : String} (ascii : ∀ c ∈ t.toList, c.toNat < 128 ∧ c ≠ '"') :
    quote s ≠ utf8 t := by
  intro same
  have bytes : utf8 t = t.toList.map Char.toNat := by
    conv_lhs => rw [← String.ofList_toList (s := t)]
    exact utf8_ofList_ascii _ fun c member => (ascii c member).1
  have head : 34 ∈ t.toList.map Char.toNat := by
    rw [← bytes, ← same, quote]
    exact List.mem_cons_self
  obtain ⟨c, member, code⟩ := List.mem_map.mp head
  have quoted : c = '"' := by
    rw [← Char.ofNat_toNat c, code]
  exact (ascii c member).2 quoted

theorem FloatTexts.ne_quote (texts : FloatTexts floatRepr) (q : ℚ) (s : String) :
    quote s ≠ utf8 (floatRepr q) := by
  refine quote_ne_ascii fun c member => ?_
  rcases texts.characters q c member with digit | rfl | rfl | rfl | rfl
  · have bounds : c.toNat < 58 := by
      simp only [Char.isDigit, Bool.and_eq_true, decide_eq_true_eq, ge_iff_le,
        UInt32.le_iff_toNat_le] at digit
      have bound : c.val.toNat = c.toNat := rfl
      have upper : c.val.toNat ≤ 57 := by simpa using digit.2
      omega
    refine ⟨by omega, ?_⟩
    rintro rfl
    exact absurd digit (by decide)
  all_goals decide

theorem int_ne_quote (n : Int) (s : String) : quote s ≠ utf8 (toString n) := by
  intro same
  have inside : 34 ∈ utf8 (toString n) := by
    rw [← same, quote]
    exact List.mem_cons_self
  have digit := (int_bytes n).2 34 inside
  omega

theorem bool_ne_quote (b : Bool) (s : String) :
    quote s ≠ utf8 (if b then "true" else "false") := by
  refine quote_ne_ascii fun c member => ?_
  cases b
  all_goals
    simp only [Bool.false_eq_true, if_true, if_false, String.reduceToList, List.mem_cons,
      List.not_mem_nil, or_false] at member
    rcases member with rfl | rfl | rfl | rfl | rfl <;> decide

theorem bool_ne_int (b : Bool) (n : Int) :
    utf8 (if b then "true" else "false") ≠ utf8 (toString n) := by
  intro same
  have digits := (int_bytes n).2
  rw [← same] at digits
  cases b <;> exact absurd digits (by decide)

theorem scalar_cases {v : Json} (scalar : isScalar v = true) :
    (∃ b, v = .bool b) ∨ (∃ n, v = .int n) ∨ (∃ q, v = .float q) ∨ ∃ s, v = .str s := by
  cases v with
  | bool b => exact .inl ⟨b, rfl⟩
  | int n => exact .inr (.inl ⟨n, rfl⟩)
  | float q => exact .inr (.inr (.inl ⟨q, rfl⟩))
  | str s => exact .inr (.inr (.inr ⟨s, rfl⟩))
  | null | arr _ | obj _ => cases scalar

theorem scalar_eq_of_bytes (texts : FloatTexts floatRepr) {v w : Json} (scalar : isScalar v = true)
    (scalar' : isScalar w = true) (same : bytes floatRepr v = bytes floatRepr w) : v = w := by
  rcases scalar_cases scalar with ⟨b, rfl⟩ | ⟨m, rfl⟩ | ⟨p, rfl⟩ | ⟨s, rfl⟩ <;>
    rcases scalar_cases scalar' with ⟨c, rfl⟩ | ⟨n, rfl⟩ | ⟨q, rfl⟩ | ⟨t, rfl⟩ <;>
    simp only [bytes] at same
  · cases b <;> cases c <;> first | rfl | exact absurd same (by decide)
  · exact (bool_ne_int b n same).elim
  · exact (texts.ne_bool q b (utf8_injective same).symm).elim
  · exact (bool_ne_quote b t same.symm).elim
  · exact (bool_ne_int c m same.symm).elim
  · rw [int_text_inj (utf8_injective same)]
  · exact (texts.ne_int q m (utf8_injective same).symm).elim
  · exact (int_ne_quote m t same.symm).elim
  · exact (texts.ne_bool p c (utf8_injective same)).elim
  · exact (texts.ne_int p n (utf8_injective same)).elim
  · rw [texts.distinct p q (utf8_injective same)]
  · exact (texts.ne_quote p t same.symm).elim
  · exact (bool_ne_quote c s same).elim
  · exact (int_ne_quote n s same).elim
  · exact (texts.ne_quote q s same).elim
  · have equal : s = t := (@quote_cut s t [] [] (by rw [same])).1
    rw [equal]

end

/-- A text for every rational: integral numbers print as Python prints them. -/
def decimalText (q : ℚ) : String :=
  toString q.num ++ if q.den = 1 then ".0" else "e" ++ toString q.den

theorem decimalText_texts : FloatTexts decimalText where
  distinct p q same := by
    have lists := congrArg String.toList same
    simp only [decimalText, String.toList_append] at lists
    have plain : ∀ n : Int, ∀ c ∈ (toString n).toList, ¬ (c = '.' ∨ c = 'e') := by
      intro n c member
      rw [Int.toString_eq_repr] at member
      rcases (int_text n).2 c member with rfl | digit
      · decide
      · rintro (rfl | rfl) <;> exact absurd digit (by decide)
    have marked : ∀ d : Nat, ∀ c ∈ (if d = 1 then ".0" else "e" ++ toString d).toList.head?,
        c = '.' ∨ c = 'e' := by
      intro d c head
      split at head
      · exact .inl (by simpa [eq_comm] using head)
      · exact .inr (by simpa [eq_comm] using head)
    obtain ⟨nums, dens⟩ := List.append_cut_of_plain (plain p.num) (plain q.num) (marked p.den)
      (marked q.den) lists
    have num : p.num = q.num := int_text_inj (String.toList_inj.mp (by simpa using nums))
    have den : p.den = q.den := by
      split at dens <;> split at dens
      · omega
      · exact absurd dens (by simp)
      · exact absurd dens (by simp)
      · have reprs : p.den.repr = q.den.repr := by
          simp only [String.toList_append, List.append_cancel_left_eq] at dens
          exact String.toList_inj.mp dens
        exact Int.ofNat.inj (int_text_inj (show (Int.ofNat _).repr = (Int.ofNat _).repr from reprs))
    exact Rat.ext num den
  characters q c member := by
    rw [decimalText, String.toList_append, List.mem_append, Int.toString_eq_repr] at member
    rcases member with number | mark
    · rcases (int_text q.num).2 c number with rfl | digit
      · exact .inr (.inl rfl)
      · exact .inl digit
    · split at mark
      · have cases' : c = '.' ∨ c = '0' := by simpa using mark
        rcases cases' with rfl | rfl
        · exact .inr (.inr (.inr (.inl rfl)))
        · exact .inl (by decide)
      · rw [String.toList_append, List.mem_append] at mark
        rcases mark with letter | number
        · exact .inr (.inr (.inr (.inr (by simpa using letter))))
        · refine .inl (Nat.isDigit_of_mem_toDigits (b := 10) (n := q.den) (by decide) (by decide) ?_)
          simpa [toString, Nat.repr] using number
  marked q := by
    simp only [decimalText, String.toList_append, List.mem_append]
    split
    · exact .inl (.inr (by decide))
    · exact .inr (.inr (by simp))

end Json
