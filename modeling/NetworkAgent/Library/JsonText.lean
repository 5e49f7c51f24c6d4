import NetworkAgent.Library.Sorting

/-! The canonical text of a value determines the value up to the order of the fields of its
objects, as long as it holds no float. A text is cut where a comma or a closing bracket ends
the value before it. -/

theorem List.append_cut_of_plain {α : Type} {stop : α → Prop} {xs ys s t : List α}
    (plainX : ∀ a ∈ xs, ¬ stop a) (plainY : ∀ a ∈ ys, ¬ stop a)
    (endS : ∀ a ∈ s.head?, stop a) (endT : ∀ a ∈ t.head?, stop a) (same : xs ++ s = ys ++ t) :
    xs = ys ∧ s = t := by
  induction xs generalizing ys with
  | nil =>
    cases ys with
    | nil => exact ⟨rfl, same⟩
    | cons y ys =>
      have head : y ∈ s.head? := by simp_all
      exact absurd (endS y head) (plainY y List.mem_cons_self)
  | cons x xs ih =>
    cases ys with
    | nil =>
      have head : x ∈ t.head? := by simp_all [eq_comm]
      exact absurd (endT x head) (plainX x List.mem_cons_self)
    | cons y ys =>
      simp only [List.cons_append, List.cons.injEq] at same
      have rest := ih (fun a member => plainX a (List.mem_cons_of_mem _ member))
        (fun a member => plainY a (List.mem_cons_of_mem _ member)) same.2
      exact ⟨by rw [same.1, rest.1], rest.2⟩

namespace Json

mutual
/-- The value with the fields of every object in the order of their keys. -/
def canon : Json → Json
  | .arr items => .arr (canonItems items)
  | .obj fields => .obj (sortFields (canonFields fields))
  | value => value
def canonItems : List Json → List Json
  | [] => []
  | x :: xs => canon x :: canonItems xs
def canonFields : List (String × Json) → List (String × Json)
  | [] => []
  | (k, x) :: xs => (k, canon x) :: canonFields xs
end

mutual
/-- The value holds no float. -/
def isExact : Json → Bool
  | .float _ => false
  | .arr items => isExactItems items
  | .obj fields => isExactFields fields
  | _ => true
def isExactItems : List Json → Bool
  | [] => true
  | x :: xs => isExact x && isExactItems xs
def isExactFields : List (String × Json) → Bool
  | [] => true
  | (_, x) :: xs => isExact x && isExactFields xs
end

theorem canonItems_eq (items : List Json) : canonItems items = items.map canon := by
  induction items with
  | nil => rfl
  | cons x xs ih => rw [canonItems, ih, List.map_cons]

theorem canonFields_eq (fields : List (String × Json)) :
    canonFields fields = fields.map fun f => (f.1, canon f.2) := by
  induction fields with
  | nil => rfl
  | cons f rest ih => rw [canonFields, ih, List.map_cons]

theorem isExactItems_iff (items : List Json) :
    isExactItems items = true ↔ ∀ x ∈ items, isExact x = true := by
  induction items with
  | nil => simp [isExactItems]
  | cons x xs ih => simp [isExactItems, ih]

theorem isExactFields_iff (fields : List (String × Json)) :
    isExactFields fields = true ↔ ∀ f ∈ fields, isExact f.2 = true := by
  induction fields with
  | nil => simp [isExactFields]
  | cons f rest ih => simp [isExactFields, ih]

theorem bytesItems_eq (floatRepr : ℚ → String) (items : List Json) :
    bytesItems floatRepr items = items.map (bytes floatRepr) := by
  induction items with
  | nil => rfl
  | cons x xs ih => rw [bytesItems, ih, List.map_cons]

theorem bytesFields_eq (floatRepr : ℚ → String) (fields : List (String × Json)) :
    bytesFields floatRepr fields = fields.map fun f => (f.1, bytes floatRepr f.2) := by
  induction fields with
  | nil => rfl
  | cons f rest ih => rw [bytesFields, ih, List.map_cons]

/-! Sorting the fields of an object looks at their keys only. -/

theorem sortFields_map {V W : Type} (g : V → W) (fields : List (String × V)) :
    sortFields (fields.map fun f => (f.1, g f.2)) =
      (sortFields fields).map fun f => (f.1, g f.2) :=
  (List.map_insertionSort (fun a b : String × V => textLe a.1 b.1 = true)
    (fun a b : String × W => textLe a.1 b.1 = true) (fun f => (f.1, g f.2)) fields
    (fun _ _ _ _ => Iff.rfl)).symm

theorem mem_sortFields {V : Type} {fields : List (String × V)} {f : String × V} :
    f ∈ sortFields fields ↔ f ∈ fields := List.mem_insertionSort _

theorem eq_of_sortFields_eq {V : Type} {xs ys : List (String × V)} (once : (xs.map Prod.fst).Nodup)
    (keys : xs.map Prod.fst = ys.map Prod.fst) (same : sortFields xs = sortFields ys) :
    xs = ys := by
  have sorted : ∀ zs : List (String × V), (sortFields zs).Perm zs :=
    fun zs => List.perm_insertionSort _ zs
  have perm : xs.Perm ys := (sorted xs).symm.trans (same ▸ sorted ys)
  clear same sorted
  induction xs generalizing ys with
  | nil => simpa using perm.symm
  | cons x xs ih =>
    cases ys with
    | nil => simp at keys
    | cons y ys =>
      simp only [List.map_cons, List.cons.injEq, List.nodup_cons] at once keys
      have head : x = y := by
        rcases List.mem_cons.mp (perm.subset List.mem_cons_self) with same | later
        · exact same
        · exact absurd (keys.2 ▸ List.mem_map_of_mem later) once.1
      subst head
      rw [ih once.2 keys.2 (List.Perm.cons_inv perm)]

/-! Texts: an escaped byte is never the quote, and no escape begins another one. -/

theorem hexDigit_inj {m n : Nat} (small : m < 16) (small' : n < 16)
    (same : hexDigit m = hexDigit n) : m = n := by
  unfold hexDigit at same
  split_ifs at same <;> omega

/-- What an escape starts with: the byte itself, or the backslash and a second byte that is
the last letter of a short escape or begins the four digits of a long one. -/
theorem escape_cases (b : Nat) :
    (b ≠ 34 ∧ b ≠ 92 ∧ 32 ≤ b ∧ escape b = [b]) ∨
    (∃ c, escape b = [92, c] ∧ c ≠ 117 ∧
      b = if c = 110 then 10 else if c = 114 then 13 else if c = 116 then 9
        else if c = 98 then 8 else if c = 102 then 12 else c) ∨
    (b < 32 ∧ escape b = [92, 117, 48, 48, hexDigit (b / 16), hexDigit (b % 16)]) := by
  unfold escape
  split_ifs with special newline ret tab back form small
  · rcases special with rfl | rfl <;> simp
  all_goals simp_all

theorem escape_cut {a b : Nat} {s t : List Nat} (same : escape a ++ s = escape b ++ t) :
    a = b ∧ s = t := by
  rcases escape_cases a with ⟨_, plain, _, ea⟩ | ⟨c, ea, other, short⟩ | ⟨small, ea⟩ <;>
    rcases escape_cases b with ⟨_, plain', _, eb⟩ | ⟨c', eb, other', short'⟩ | ⟨small', eb⟩ <;>
      rw [ea, eb] at same <;> simp only [List.cons_append, List.nil_append, List.cons.injEq] at same
  · exact same
  · exact absurd same.1 plain
  · exact absurd same.1 plain
  · exact absurd same.1.symm plain'
  · obtain ⟨-, rfl, rest⟩ := same
    exact ⟨short.trans short'.symm, rest⟩
  · exact absurd same.2.1 other
  · exact absurd same.1.symm plain'
  · exact absurd same.2.1.symm other'
  · obtain ⟨-, -, -, -, high, low, rest⟩ := same
    have quotient := hexDigit_inj (by omega) (by omega) high
    have remainder := hexDigit_inj (by omega) (by omega) low
    exact ⟨by omega, rest⟩

theorem escape_ne_quote (b : Nat) (s t : List Nat) : escape b ++ s ≠ 34 :: t := by
  rcases escape_cases b with ⟨plain, _, _, eb⟩ | ⟨c, eb, _, _⟩ | ⟨_, eb⟩ <;> simp [eb]
  intro same
  exact absurd same plain

theorem quote_cut {a b : String} {s t : List Nat} (same : quote a ++ s = quote b ++ t) :
    a = b ∧ s = t := by
  have cut : ∀ xs ys : List Nat, xs.flatMap escape ++ 34 :: s = ys.flatMap escape ++ 34 :: t →
      xs = ys ∧ s = t := by
    intro xs
    induction xs with
    | nil =>
      intro ys same
      cases ys with
      | nil => simpa using same
      | cons y ys =>
        rw [List.flatMap_cons, List.append_assoc] at same
        exact absurd same.symm (escape_ne_quote y _ _)
    | cons x xs ih =>
      intro ys same
      cases ys with
      | nil =>
        rw [List.flatMap_cons, List.append_assoc] at same
        exact absurd same (escape_ne_quote x _ _)
      | cons y ys =>
        simp only [List.flatMap_cons, List.append_assoc] at same
        obtain ⟨rfl, later⟩ := escape_cut same
        obtain ⟨rfl, rest⟩ := ih ys later
        exact ⟨rfl, rest⟩
  simp only [quote, List.cons_append, List.append_assoc, List.nil_append, List.cons.injEq,
    true_and] at same
  exact (cut _ _ same).imp_left utf8_injective

/-! Atoms: a literal or a number, which no separator interrupts. -/

def IsStop (b : Nat) : Prop := b = 44 ∨ b = 93 ∨ b = 125

def Ends (s : List Nat) : Prop := ∀ b ∈ s.head?, IsStop b

@[simp] theorem ends_nil : Ends [] := by simp [Ends]

@[simp] theorem ends_cons {b : Nat} {s : List Nat} : Ends (b :: s) ↔ IsStop b := by
  simp [Ends]

def kind : Json → Nat
  | .null => 0
  | .bool _ => 1
  | .int _ | .float _ => 2
  | .str _ => 3
  | .arr _ => 4
  | .obj _ => 5

def kindOf (b : Nat) : Nat :=
  if b = 110 then 0 else if b = 116 ∨ b = 102 then 1 else if b = 34 then 3
  else if b = 91 then 4 else if b = 123 then 5 else 2

theorem utf8_ofList_ascii (cs : List Char) (ascii : ∀ c ∈ cs, c.toNat < 128) :
    utf8 (String.ofList cs) = cs.map Char.toNat := by
  rw [utf8_eq, String.toList_ofList]
  induction cs with
  | nil => rfl
  | cons c rest ih =>
    have small := ascii c List.mem_cons_self
    have val : c.val.toNat = c.toNat := rfl
    rw [List.flatMap_cons, ih fun d member => ascii d (List.mem_cons_of_mem _ member),
      List.map_cons]
    have single : (String.utf8EncodeChar c).map UInt8.toNat = [c.toNat] := by
      unfold String.utf8EncodeChar
      simp only [val]
      rw [if_pos (by omega)]
      simp only [List.map_cons, List.map_nil, UInt8.toNat_ofNat']
      rw [Nat.mod_eq_of_lt (by omega)]
    rw [single, List.singleton_append]

theorem int_text (n : Int) :
    n.repr.toList ≠ [] ∧ ∀ c ∈ n.repr.toList, c = '-' ∨ c.isDigit = true := by
  have digits : ∀ m : Nat, ∀ c ∈ m.repr.toList, c.isDigit = true := by
    intro m c member
    rw [Nat.toList_repr] at member
    exact Nat.isDigit_of_mem_toDigits (by decide) (by decide) member
  rw [Int.repr_eq_if]
  split
  · refine ⟨by simp [Nat.toDigits_ne_nil], fun c member => .inr (digits _ c member)⟩
  · rw [String.toList_append]
    refine ⟨by simp, fun c member => ?_⟩
    rcases List.mem_append.mp member with sign | digit
    · exact .inl (by simpa using sign)
    · exact .inr (digits _ c digit)

theorem toDigits_head {n : Nat} (positive : 0 < n) : (Nat.toDigits 10 n).head? ≠ some '0' := by
  induction n using Nat.strongRecOn with
  | ind n ih =>
    by_cases small : n < 10
    · rw [Nat.toDigits_of_lt_base small, List.head?_cons]
      intro zero
      have value := Nat.digitChar_eq_zero.mp (Option.some.inj zero)
      omega
    · rw [Nat.toDigits_of_base_le (by decide) (by omega),
        List.head?_append_of_ne_nil _ Nat.toDigits_ne_nil]
      exact ih (n / 10) (by omega) (by omega)

theorem int_text_inj {m n : Int} (same : m.repr = n.repr) : m = n := by
  have nat : ∀ {a b : Nat}, a.repr = b.repr → a = b := by
    intro a b texts
    have digits := congrArg String.toList texts
    rw [Nat.toList_repr, Nat.toList_repr] at digits
    rw [← Nat.ofDigitChars_ten_toDigits (n := a), digits, Nat.ofDigitChars_ten_toDigits]
  have unsigned : ∀ (a : Nat) (rest : String), a.repr ≠ "-" ++ rest := by
    intro a rest texts
    have sign : '-' ∈ a.repr.toList := by simp [texts]
    rw [Nat.toList_repr] at sign
    exact absurd (Nat.isDigit_of_mem_toDigits (by decide) (by decide) sign) (by decide)
  rw [Int.repr_eq_if, Int.repr_eq_if] at same
  split_ifs at same
  · have := nat same
    omega
  · exact absurd same (unsigned _ _)
  · exact absurd same.symm (unsigned _ _)
  · have := nat ((String.append_right_inj _).mp same)
    omega

theorem int_bytes (n : Int) : utf8 (toString n) ≠ [] ∧
    ∀ b ∈ utf8 (toString n), b = 45 ∨ (48 ≤ b ∧ b ≤ 57) := by
  obtain ⟨some, chars⟩ := int_text n
  have each : ∀ c ∈ n.repr.toList, c.toNat = 45 ∨ (48 ≤ c.toNat ∧ c.toNat ≤ 57) := by
    intro c member
    rcases chars c member with rfl | digit
    · exact .inl rfl
    · simp only [Char.isDigit, Bool.and_eq_true, decide_eq_true_eq, ge_iff_le,
        UInt32.le_iff_toNat_le] at digit
      exact .inr digit
  have bytes : utf8 (toString n) = n.repr.toList.map Char.toNat := by
    rw [Int.toString_eq_repr]
    conv_lhs => rw [← String.ofList_toList (s := n.repr)]
    apply utf8_ofList_ascii
    intro c member
    rcases each c member with sign | digit <;> omega
  rw [bytes]
  refine ⟨by simpa using some, fun b member => ?_⟩
  obtain ⟨c, inside, rfl⟩ := List.mem_map.mp member
  exact each c inside

theorem bytes_head (floatRepr : ℚ → String) {v : Json} (exact : isExact v = true) :
    ∃ b rest, bytes floatRepr v = b :: rest ∧ kindOf b = kind v ∧ ¬ IsStop b := by
  cases v with
  | null => exact ⟨110, [117, 108, 108], by rw [bytes]; decide, by decide, by simp [IsStop]⟩
  | bool b =>
    cases b with
    | true => exact ⟨116, [114, 117, 101], by rw [bytes]; decide, by decide, by simp [IsStop]⟩
    | false => exact ⟨102, [97, 108, 115, 101], by rw [bytes]; decide, by decide, by simp [IsStop]⟩
  | int n =>
    obtain ⟨some, digits⟩ := int_bytes n
    obtain ⟨b, rest, whole⟩ := List.exists_cons_of_ne_nil some
    have digit := digits b (whole ▸ List.mem_cons_self)
    refine ⟨b, rest, whole, ?_, ?_⟩
    · simp only [kindOf, kind]
      split_ifs <;> omega
    · simp only [IsStop]
      omega
  | float q => simp [isExact] at exact
  | str s => exact ⟨34, _, rfl, rfl, by simp [IsStop]⟩
  | arr items => exact ⟨91, _, rfl, rfl, by simp [IsStop]⟩
  | obj fields => exact ⟨123, _, rfl, rfl, by simp [IsStop]⟩

theorem kind_eq_of_bytes_eq {floatRepr : ℚ → String} {v w : Json} {s t : List Nat}
    (exact : isExact v = true) (exact' : isExact w = true)
    (same : bytes floatRepr v ++ s = bytes floatRepr w ++ t) : kind v = kind w := by
  obtain ⟨b, rest, whole, known, -⟩ := bytes_head floatRepr exact
  obtain ⟨c, rest', whole', known', -⟩ := bytes_head floatRepr exact'
  rw [whole, whole', List.cons_append, List.cons_append] at same
  rw [← known, ← known', (List.cons.inj same).1]

/-! Lists of parts between brackets. -/

section
variable {α β : Type} (enc : α → List Nat) (rep : α → β)

/-- The encodings of two elements, up to the end of each, are the same only when the elements
stand for the same value. -/
def Cuts (x y : α) : Prop :=
  ∀ s t, Ends s → Ends t → enc x ++ s = enc y ++ t → rep x = rep y ∧ s = t

def Starts (x : α) : Prop := ∀ s, ¬ Ends (enc x ++ s)

theorem commaSep_cons (p : List Nat) (parts : List (List Nat)) :
    commaSep (p :: parts) = p ++ parts.flatMap (44 :: ·) := by
  induction parts generalizing p with
  | nil => simp [commaSep]
  | cons q rest ih => simp [commaSep, ih]

variable {enc rep}

theorem tail_cut {close : Nat} (closing : close = 93 ∨ close = 125) {xs ys : List α}
    (cuts : ∀ x ∈ xs, ∀ y ∈ ys, Cuts enc rep x y) {s t : List Nat}
    (same : (xs.map enc).flatMap (44 :: ·) ++ close :: s =
      (ys.map enc).flatMap (44 :: ·) ++ close :: t) : xs.map rep = ys.map rep ∧ s = t := by
  have ends : ∀ (zs : List α) (u : List Nat), Ends ((zs.map enc).flatMap (44 :: ·) ++ close :: u) := by
    intro zs u
    cases zs with
    | nil => rcases closing with rfl | rfl <;> simp [IsStop]
    | cons z rest => simp [IsStop]
  induction xs generalizing ys with
  | nil =>
    cases ys with
    | nil => exact ⟨rfl, by simpa using same⟩
    | cons y ys =>
      simp only [List.map_nil, List.flatMap_nil, List.nil_append, List.map_cons,
        List.flatMap_cons, List.cons_append, List.cons.injEq] at same
      omega
  | cons x xs ih =>
    cases ys with
    | nil =>
      simp only [List.map_nil, List.flatMap_nil, List.nil_append, List.map_cons,
        List.flatMap_cons, List.cons_append, List.cons.injEq] at same
      omega
    | cons y ys =>
      simp only [List.map_cons, List.flatMap_cons, List.cons_append, List.append_assoc,
        List.cons.injEq, true_and] at same
      obtain ⟨head, later⟩ := cuts x List.mem_cons_self y List.mem_cons_self _ _
        (ends xs s) (ends ys t) same
      obtain ⟨rest, tails⟩ := ih (fun a left b right => cuts a (List.mem_cons_of_mem _ left) b
        (List.mem_cons_of_mem _ right)) later
      exact ⟨by rw [List.map_cons, List.map_cons, head, rest], tails⟩

theorem commaSep_cut {close : Nat} (closing : close = 93 ∨ close = 125) {xs ys : List α}
    (startsX : ∀ x ∈ xs, Starts enc x) (startsY : ∀ y ∈ ys, Starts enc y)
    (cuts : ∀ x ∈ xs, ∀ y ∈ ys, Cuts enc rep x y) {s t : List Nat}
    (same : commaSep (xs.map enc) ++ close :: s = commaSep (ys.map enc) ++ close :: t) :
    xs.map rep = ys.map rep ∧ s = t := by
  have closes : ∀ u, Ends (close :: u) := by
    intro u
    rcases closing with rfl | rfl <;> simp [IsStop]
  cases xs with
  | nil =>
    cases ys with
    | nil => exact ⟨rfl, by simpa [commaSep] using same⟩
    | cons y ys =>
      have ended : Ends (commaSep ((y :: ys).map enc) ++ close :: t) := same ▸ closes s
      rw [List.map_cons, commaSep_cons, List.append_assoc] at ended
      exact absurd ended (startsY y List.mem_cons_self _)
  | cons x xs =>
    cases ys with
    | nil =>
      have ended : Ends (commaSep ((x :: xs).map enc) ++ close :: s) := same.symm ▸ closes t
      rw [List.map_cons, commaSep_cons, List.append_assoc] at ended
      exact absurd ended (startsX x List.mem_cons_self _)
    | cons y ys =>
      -- a comma before the first part makes every part one of the tail
      refine tail_cut closing cuts ?_
      simpa [commaSep_cons] using same

end

mutual
theorem recOnMembers {P : Json → Prop} (atom : ∀ v, kind v < 4 → P v)
    (arr : ∀ items, (∀ x ∈ items, P x) → P (.arr items))
    (obj : ∀ fields : List (String × Json), (∀ f ∈ fields, P f.2) → P (.obj fields)) :
    ∀ v, P v
  | .null => atom _ (by decide)
  | .bool b => atom (.bool b) (by simp [kind])
  | .int n => atom (.int n) (by simp [kind])
  | .float q => atom (.float q) (by simp [kind])
  | .str s => atom (.str s) (by simp [kind])
  | .arr items => arr items (recOnItems atom arr obj items)
  | .obj fields => obj fields (recOnFields atom arr obj fields)
theorem recOnItems {P : Json → Prop} (atom : ∀ v, kind v < 4 → P v)
    (arr : ∀ items, (∀ x ∈ items, P x) → P (.arr items))
    (obj : ∀ fields : List (String × Json), (∀ f ∈ fields, P f.2) → P (.obj fields)) :
    ∀ items : List Json, ∀ x ∈ items, P x
  | [], _, member => nomatch member
  | y :: ys, x, member => (List.mem_cons.mp member).elim
      (fun same => same ▸ recOnMembers atom arr obj y)
      (fun later => recOnItems atom arr obj ys x later)
theorem recOnFields {P : Json → Prop} (atom : ∀ v, kind v < 4 → P v)
    (arr : ∀ items, (∀ x ∈ items, P x) → P (.arr items))
    (obj : ∀ fields : List (String × Json), (∀ f ∈ fields, P f.2) → P (.obj fields)) :
    ∀ fields : List (String × Json), ∀ f ∈ fields, P f.2
  | [], _, member => nomatch member
  | (_, y) :: ys, f, member => (List.mem_cons.mp member).elim
      (fun same => same ▸ recOnMembers atom arr obj y)
      (fun later => recOnFields atom arr obj ys f later)
end

theorem atom_cut (floatRepr : ℚ → String) {v w : Json} (atom : kind v < 4) (exact : isExact v = true)
    (exact' : isExact w = true) : Cuts (bytes floatRepr) canon v w := by
  intro s t endS endT same
  have kinds := kind_eq_of_bytes_eq exact exact' same
  have plain : ∀ {xs ys : List Nat}, (∀ b ∈ xs, ¬ IsStop b) → (∀ b ∈ ys, ¬ IsStop b) →
      xs ++ s = ys ++ t → xs = ys ∧ s = t :=
    fun plainX plainY joined => List.append_cut_of_plain plainX plainY endS endT joined
  have digits : ∀ n : Int, ∀ b ∈ utf8 (toString n), ¬ IsStop b := by
    intro n b member
    have digit := (int_bytes n).2 b member
    simp only [IsStop]
    omega
  cases v <;> cases w <;> simp only [kind] at kinds atom <;> try omega
  case null.null => simpa [bytes, canon] using same
  case bool.bool b c =>
    have yes : utf8 "true" = [116, 114, 117, 101] := by decide
    have no : utf8 "false" = [102, 97, 108, 115, 101] := by decide
    cases b <;> cases c <;> simp [bytes, canon, yes, no] at same ⊢ <;> exact same
  case int.int m n =>
    obtain ⟨texts, rest⟩ := plain (digits m) (digits n) same
    have numbers : m = n := int_text_inj (by simpa using utf8_injective texts)
    exact ⟨by rw [numbers], rest⟩
  case str.str a b =>
    obtain ⟨rfl, rest⟩ := quote_cut same
    exact ⟨rfl, rest⟩
  all_goals simp [isExact] at exact exact'

def fieldBytes (floatRepr : ℚ → String) (f : String × Json) : List Nat :=
  quote f.1 ++ 58 :: bytes floatRepr f.2

theorem field_cut (floatRepr : ℚ → String) {f g : String × Json}
    (values : Cuts (bytes floatRepr) canon f.2 g.2) :
    Cuts (fieldBytes floatRepr) (fun f => (f.1, canon f.2)) f g := by
  intro s t endS endT same
  simp only [fieldBytes, List.append_assoc] at same
  obtain ⟨keys, later⟩ := quote_cut same
  simp only [List.cons_append, List.cons.injEq, true_and] at later
  obtain ⟨value, rest⟩ := values s t endS endT later
  exact ⟨Prod.ext keys value, rest⟩

theorem field_starts (floatRepr : ℚ → String) (f : String × Json) :
    Starts (fieldBytes floatRepr) f := by
  intro tail
  simp [fieldBytes, quote, IsStop]

theorem bytes_cut (floatRepr : ℚ → String) (v : Json) : ∀ w, isExact v = true → isExact w = true →
    Cuts (bytes floatRepr) canon v w := by
  induction v using recOnMembers with
  | atom v small => exact fun w exact exact' => atom_cut floatRepr small exact exact'
  | arr items ih =>
    intro w exact exact' s t _ _ same
    have kinds := kind_eq_of_bytes_eq exact exact' same
    cases w <;> simp only [kind] at kinds <;> try omega
    case arr others =>
      rw [isExact, isExactItems_iff] at exact exact'
      simp only [bytes, bytesItems_eq, List.cons_append, List.append_assoc, List.nil_append,
        List.cons.injEq, true_and] at same
      have starts : ∀ u : Json, isExact u = true → Starts (bytes floatRepr) u := by
        intro u known tail
        obtain ⟨b, rest, whole, -, other⟩ := bytes_head floatRepr known
        rw [whole]
        simpa using other
      have cut := commaSep_cut (.inl rfl) (fun x member => starts x (exact x member))
        (fun y member => starts y (exact' y member))
        (fun x left y right => ih x left y (exact x left) (exact' y right)) same
      exact ⟨by rw [canon, canon, canonItems_eq, canonItems_eq, cut.1], cut.2⟩
  | obj fields ih =>
    intro w exact exact' s t _ _ same
    have kinds := kind_eq_of_bytes_eq exact exact' same
    cases w <;> simp only [kind] at kinds <;> try omega
    case obj others =>
      rw [isExact, isExactFields_iff] at exact exact'
      have member : ∀ {zs : List (String × Json)} {f}, f ∈ sortFields zs → f ∈ zs :=
        mem_sortFields.mp
      have text : ∀ zs : List (String × Json), bytes floatRepr (.obj zs) =
          123 :: commaSep ((sortFields zs).map (fieldBytes floatRepr)) ++ [125] := by
        intro zs
        rw [bytes, bytesFields_eq, sortFields_map, List.map_map]
        rfl
      simp only [text, List.cons_append, List.append_assoc, List.nil_append, List.cons.injEq,
        true_and] at same
      have cut := commaSep_cut (.inr rfl) (fun x _ => field_starts floatRepr x)
        (fun y _ => field_starts floatRepr y) (fun x left y right => field_cut floatRepr
          (ih x (member left) y.2 (exact x (member left)) (exact' y (member right)))) same
      refine ⟨?_, cut.2⟩
      simp only [canon, canonFields_eq, sortFields_map]
      rw [cut.1]

theorem canon_eq_of_bytes_eq {floatRepr : ℚ → String} {v w : Json} (exact : isExact v = true)
    (exact' : isExact w = true) (same : bytes floatRepr v = bytes floatRepr w) :
    canon v = canon w :=
  (bytes_cut floatRepr v w exact exact' [] [] ends_nil ends_nil (by rw [same])).1

end Json
