import NetworkAgent.Library.Json

/-! The orders of byte strings and texts, and sorting by a key. -/

theorem bytesLe_total (as bs : List Nat) : bytesLe as bs = true ∨ bytesLe bs as = true := by
  induction as generalizing bs with
  | nil => exact .inl rfl
  | cons a as ih =>
    cases bs with
    | nil => exact .inr rfl
    | cons b bs =>
      simp only [bytesLe, Bool.or_eq_true, Bool.and_eq_true, decide_eq_true_eq, beq_iff_eq]
      rcases Nat.lt_trichotomy a b with less | same | more
      · exact .inl (.inl less)
      · exact (ih bs).imp (fun le => .inr ⟨same, le⟩) (fun le => .inr ⟨same.symm, le⟩)
      · exact .inr (.inl more)

theorem bytesLe_trans {as bs cs : List Nat} (first : bytesLe as bs = true)
    (second : bytesLe bs cs = true) : bytesLe as cs = true := by
  induction as generalizing bs cs with
  | nil => rfl
  | cons a as ih =>
    cases bs with
    | nil => cases first
    | cons b bs =>
      cases cs with
      | nil => cases second
      | cons c cs =>
        simp only [bytesLe, Bool.or_eq_true, Bool.and_eq_true, decide_eq_true_eq,
          beq_iff_eq] at first second ⊢
        rcases first with less | ⟨rfl, le⟩
        · rcases second with less' | ⟨rfl, _⟩
          · exact .inl (Nat.lt_trans less less')
          · exact .inl less
        · rcases second with less | ⟨rfl, le'⟩
          · exact .inl less
          · exact .inr ⟨rfl, ih le le'⟩

theorem bytesLe_antisymm {as bs : List Nat} (first : bytesLe as bs = true)
    (second : bytesLe bs as = true) : as = bs := by
  induction as generalizing bs with
  | nil =>
    cases bs with
    | nil => rfl
    | cons b bs => cases second
  | cons a as ih =>
    cases bs with
    | nil => cases first
    | cons b bs =>
      simp only [bytesLe, Bool.or_eq_true, Bool.and_eq_true, decide_eq_true_eq,
        beq_iff_eq] at first second
      rcases first with less | ⟨rfl, le⟩
      · rcases second with less' | ⟨rfl, _⟩
        · omega
        · omega
      · rcases second with less | ⟨_, le'⟩
        · omega
        · rw [ih le le']

theorem utf8_injective {a b : String} (same : utf8 a = utf8 b) : a = b := by
  have bytes : a.toByteArray.data.toList = b.toByteArray.data.toList :=
    List.map_injective_iff.mpr (fun _ _ => UInt8.toNat.inj) same
  have arrays : a.toByteArray.data = b.toByteArray.data := Array.toList_inj.mp bytes
  exact String.toByteArray_inj.mp (ByteArray.ext arrays)

theorem textLe_total (a b : String) : textLe a b = true ∨ textLe b a = true :=
  bytesLe_total _ _

theorem textLe_trans {a b c : String} (first : textLe a b = true) (second : textLe b c = true) :
    textLe a c = true := bytesLe_trans first second

theorem textLe_antisymm {a b : String} (first : textLe a b = true) (second : textLe b a = true) :
    a = b := utf8_injective (bytesLe_antisymm first second)

namespace Sorting
variable {α : Type} {r : α → α → Bool}

theorem insertionSort_eq_of_perm (total : ∀ a b, r a b = true ∨ r b a = true)
    (trans : ∀ a b c, r a b = true → r b c = true → r a c = true) {xs ys : List α}
    (apart : ∀ a ∈ xs, ∀ b ∈ xs, r a b = true → r b a = true → a = b) (perm : xs.Perm ys) :
    xs.insertionSort (fun a b => r a b) = ys.insertionSort (fun a b => r a b) := by
  have : Std.Total (fun a b => r a b = true) := ⟨total⟩
  have : IsTrans α (fun a b => r a b = true) := ⟨trans⟩
  have sorted := fun zs : List α => List.pairwise_insertionSort (fun a b => r a b = true) zs
  have same : (xs.insertionSort fun a b => r a b).Perm (ys.insertionSort fun a b => r a b) :=
    (List.perm_insertionSort _ xs).trans (perm.trans (List.perm_insertionSort _ ys).symm)
  refine same.eq_of_pairwise (fun a b first second => ?_) (sorted xs) (sorted ys)
  have inside := fun c => (List.mem_insertionSort (r := fun a b => r a b = true) (x := c) (l := xs))
  exact apart a ((inside a).mp first) b (perm.mem_iff.mpr ((List.mem_insertionSort _).mp second))

theorem pairwise_sorted_by (key : α → String) (xs : List α) :
    (xs.insertionSort fun a b => textLe (key a) (key b)).Pairwise fun a b =>
      textLe (key a) (key b) = true := by
  have : Std.Total (fun a b : α => textLe (key a) (key b) = true) := ⟨fun a b => textLe_total _ _⟩
  have : IsTrans α (fun a b => textLe (key a) (key b) = true) := ⟨fun _ _ _ => textLe_trans⟩
  exact List.pairwise_insertionSort (fun a b => textLe (key a) (key b) = true) xs

theorem sorted_by_of_perm (key : α → String) {xs ys : List α} (distinct : (xs.map key).Nodup)
    (perm : xs.Perm ys) : (xs.insertionSort fun a b => textLe (key a) (key b)) =
      ys.insertionSort fun a b => textLe (key a) (key b) :=
  insertionSort_eq_of_perm (r := fun a b => textLe (key a) (key b)) (fun _ _ => textLe_total _ _)
    (fun _ _ _ => textLe_trans) (fun _ first _ second le le' =>
      List.inj_on_of_nodup_map distinct first second (textLe_antisymm le le')) perm

/-- An order in which two elements that precede each other are one. -/
structure IsOrder (r : α → α → Bool) : Prop where
  total : ∀ a b, r a b = true ∨ r b a = true
  trans : ∀ a b c, r a b = true → r b c = true → r a c = true
  antisymm : ∀ a b, r a b = true → r b a = true → a = b

theorem isOrder_text : IsOrder textLe :=
  ⟨textLe_total, fun _ _ _ => textLe_trans, fun _ _ => textLe_antisymm⟩

/-- The order by `key` first and then by `rest`. -/
def byKey {κ : Type} [DecidableEq κ] (r : κ → κ → Bool) (key : α → κ) (rest : α → α → Bool)
    (a b : α) : Bool :=
  if key a = key b then rest a b else r (key a) (key b)

section
variable {κ : Type} [DecidableEq κ] {s : κ → κ → Bool} {key : α → κ} {rest : α → α → Bool}

theorem byKey_iff {a b : α} : byKey s key rest a b = true ↔
    key a = key b ∧ rest a b = true ∨ key a ≠ key b ∧ s (key a) (key b) = true := by
  by_cases same : key a = key b <;> simp [byKey, same]

theorem byKey_total (order : IsOrder s) (total : ∀ a b, rest a b = true ∨ rest b a = true)
    (a b : α) : byKey s key rest a b = true ∨ byKey s key rest b a = true := by
  simp only [byKey_iff]
  by_cases same : key a = key b
  · exact (total a b).imp (fun le => .inl ⟨same, le⟩) (fun le => .inl ⟨same.symm, le⟩)
  · exact (order.total (key a) (key b)).imp (fun le => .inr ⟨same, le⟩)
      (fun le => .inr ⟨Ne.symm same, le⟩)

theorem byKey_trans (order : IsOrder s)
    (trans : ∀ a b c, rest a b = true → rest b c = true → rest a c = true) (a b c : α)
    (first : byKey s key rest a b = true) (second : byKey s key rest b c = true) :
    byKey s key rest a c = true := by
  simp only [byKey_iff] at first second ⊢
  rcases first with ⟨same, le⟩ | ⟨differ, le⟩
  · rcases second with ⟨same', le'⟩ | ⟨differ', le'⟩
    · exact .inl ⟨same.trans same', trans a b c le le'⟩
    · exact .inr ⟨same ▸ differ', same ▸ le'⟩
  · rcases second with ⟨same', _⟩ | ⟨_, le'⟩
    · exact .inr ⟨same' ▸ differ, same' ▸ le⟩
    · refine .inr ⟨fun same => ?_, order.trans _ _ _ le le'⟩
      exact differ (order.antisymm _ _ le (same ▸ le'))

theorem byKey_antisymm (order : IsOrder s) {a b : α} (first : byKey s key rest a b = true)
    (second : byKey s key rest b a = true) :
    key a = key b ∧ rest a b = true ∧ rest b a = true := by
  simp only [byKey_iff] at first second
  rcases first with ⟨same, le⟩ | ⟨differ, le⟩
  · rcases second with ⟨_, le'⟩ | ⟨differ, _⟩
    · exact ⟨same, le, le'⟩
    · exact absurd same.symm differ
  · rcases second with ⟨same, _⟩ | ⟨_, le'⟩
    · exact absurd same.symm differ
    · exact absurd (order.antisymm _ _ le le') differ

end

theorem IsOrder.pair {κ : Type} [DecidableEq κ] {s : κ → κ → Bool} (order : IsOrder s)
    (inner : IsOrder r) : IsOrder (byKey s (fun p : κ × α => p.1) fun a b => r a.2 b.2) where
  total := byKey_total order fun a b => inner.total a.2 b.2
  trans := byKey_trans order fun a b c => inner.trans a.2 b.2 c.2
  antisymm a b first second := by
    obtain ⟨same, le, le'⟩ := byKey_antisymm order first second
    exact Prod.ext same (inner.antisymm _ _ le le')

def textPairLe : String × String → String × String → Bool :=
  byKey textLe (·.1) fun a b => textLe a.2 b.2

theorem isOrder_textPair : IsOrder textPairLe := isOrder_text.pair isOrder_text

/-- The order of lists that the order of their elements gives. -/
def listLe [DecidableEq α] (r : α → α → Bool) : List α → List α → Bool
  | [], _ => true
  | _ :: _, [] => false
  | a :: as, b :: bs => if a = b then listLe r as bs else r a b

theorem listLe_cons [DecidableEq α] {a b : α} {as bs : List α} :
    listLe r (a :: as) (b :: bs) = true ↔ a = b ∧ listLe r as bs = true ∨ a ≠ b ∧ r a b = true := by
  by_cases same : a = b <;> simp [listLe, same]

theorem IsOrder.list [DecidableEq α] (order : IsOrder r) : IsOrder (listLe r) where
  total as bs := by
    induction as generalizing bs with
    | nil => exact .inl rfl
    | cons a as ih =>
      cases bs with
      | nil => exact .inr rfl
      | cons b bs =>
        simp only [listLe_cons]
        by_cases same : a = b
        · exact (ih bs).imp (fun le => .inl ⟨same, le⟩) (fun le => .inl ⟨same.symm, le⟩)
        · exact (order.total a b).imp (fun le => .inr ⟨same, le⟩)
            (fun le => .inr ⟨Ne.symm same, le⟩)
  trans as bs cs first second := by
    induction as generalizing bs cs with
    | nil => rfl
    | cons a as ih =>
      cases bs with
      | nil => cases first
      | cons b bs =>
        cases cs with
        | nil => cases second
        | cons c cs =>
          simp only [listLe_cons] at first second ⊢
          rcases first with ⟨rfl, le⟩ | ⟨differ, le⟩
          · exact second.imp (fun ⟨same, le'⟩ => ⟨same, ih bs cs le le'⟩) id
          · rcases second with ⟨rfl, _⟩ | ⟨_, le'⟩
            · exact .inr ⟨differ, le⟩
            · refine .inr ⟨?_, order.trans _ _ _ le le'⟩
              rintro rfl
              exact differ (order.antisymm _ _ le le')
  antisymm as bs first second := by
    induction as generalizing bs with
    | nil =>
      cases bs with
      | nil => rfl
      | cons b bs => cases second
    | cons a as ih =>
      cases bs with
      | nil => cases first
      | cons b bs =>
        simp only [listLe_cons] at first second
        rcases first with ⟨rfl, le⟩ | ⟨differ, le⟩
        · rcases second with ⟨_, le'⟩ | ⟨differ, _⟩
          · rw [ih bs le le']
          · exact absurd rfl differ
        · rcases second with ⟨same, _⟩ | ⟨_, le'⟩
          · exact absurd same.symm differ
          · exact absurd (order.antisymm _ _ le le') differ

end Sorting
