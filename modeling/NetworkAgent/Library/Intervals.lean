import Mathlib.Algebra.BigOperators.Group.Finset.Basic
import Mathlib.Algebra.GroupWithZero.Nat
import Mathlib.Data.List.Sort
import Mathlib.Order.Interval.Finset.Basic

/-! Half-open intervals of a linear order: what a list of them covers, joining those that touch,
and the overlap of two lists that are walked side by side. -/
namespace Intervals
variable {α : Type} [LinearOrder α]

/-- Join the intervals that touch the current one; the starts are in order. -/
def joinFrom (current : α × α) : List (α × α) → List (α × α)
  | [] => [current]
  | i :: rest =>
    if current.2 < i.1 then current :: joinFrom i rest
    else joinFrom (current.1, max current.2 i.2) rest

def join : List (α × α) → List (α × α)
  | [] => []
  | i :: rest => joinFrom i rest

section
variable {β : Type} [AddMonoid β]

/-- Walk past the intervals that end before the first of the other list does. -/
def advance (measure : α → α → β) (i : α × α) (next : List (α × α) → β) : List (α × α) → β
  | [] => 0
  | j :: js => measure (max i.1 j.1) (min i.2 j.2) +
      if i.2 ≤ j.2 then next (j :: js) else advance measure i next js

def overlap (measure : α → α → β) : List (α × α) → List (α × α) → β
  | [], _ => 0
  | i :: is, js => advance measure i (overlap measure is) js

theorem overlap_nil_right (measure : α → α → β) (is : List (α × α)) : overlap measure is [] = 0 := by
  cases is with
  | nil => rfl
  | cons i is => rfl

theorem overlap_cons_cons (measure : α → α → β) (i j : α × α) (is js : List (α × α)) :
    overlap measure (i :: is) (j :: js) = measure (max i.1 j.1) (min i.2 j.2) +
      if i.2 ≤ j.2 then overlap measure is (j :: js) else overlap measure (i :: is) js := rfl

theorem map_overlap {γ : Type} [AddMonoid γ] (f : β →+ γ) (measure : α → α → β)
    (is js : List (α × α)) :
    f (overlap measure is js) = overlap (fun a b => f (measure a b)) is js := by
  induction is generalizing js with
  | nil => exact f.map_zero
  | cons i is ih =>
    induction js with
    | nil => exact f.map_zero
    | cons j js ih' =>
      rw [overlap_cons_cons, overlap_cons_cons, f.map_add]
      split
      · rw [ih]
      · rw [ih']

end

/-- Ordered intervals that do not touch. -/
structure Separated (is : List (α × α)) : Prop where
  ordered : ∀ i ∈ is, i.1 ≤ i.2
  apart : is.Pairwise fun i j => i.2 < j.1

theorem Separated.tail {i : α × α} {is : List (α × α)} (separated : Separated (i :: is)) :
    Separated is :=
  ⟨fun j member => separated.ordered j (List.mem_cons_of_mem i member),
    (List.pairwise_cons.mp separated.apart).2⟩

abbrev Started (is : List (α × α)) : Prop := is.Pairwise fun i j => i.1 ≤ j.1

theorem Started.joined {current i : α × α} {rest : List (α × α)} (end' : α)
    (started : Started (current :: i :: rest)) : Started ((current.1, end') :: rest) := by
  obtain ⟨first, later⟩ := List.pairwise_cons.mp started
  exact .cons (fun j member => first j (List.mem_cons_of_mem i member))
    (List.pairwise_cons.mp later).2

theorem joinFrom_starts {current : α × α} {is : List (α × α)} (started : Started (current :: is)) :
    ∀ i ∈ joinFrom current is, current.1 ≤ i.1 := by
  induction is generalizing current with
  | nil => simp [joinFrom]
  | cons i rest ih =>
    obtain ⟨first, later⟩ := List.pairwise_cons.mp started
    rw [joinFrom]
    split
    · rw [List.forall_mem_cons]
      exact ⟨le_refl _, fun j member => le_trans (first i (.head rest)) (ih later j member)⟩
    · exact ih (started.joined _)

theorem joinFrom_separated {current : α × α} {is : List (α × α)}
    (started : Started (current :: is)) (ordered : ∀ i ∈ current :: is, i.1 ≤ i.2) :
    Separated (joinFrom current is) := by
  induction is generalizing current with
  | nil => exact ⟨ordered, List.pairwise_singleton _ _⟩
  | cons i rest ih =>
    obtain ⟨current_ordered, ordered⟩ := List.forall_mem_cons.mp ordered
    obtain ⟨first, later⟩ := List.pairwise_cons.mp started
    rw [joinFrom]
    split
    · next gap =>
      have separated := ih later ordered
      refine ⟨List.forall_mem_cons.mpr ⟨current_ordered, separated.ordered⟩, ?_⟩
      exact .cons (fun j member => lt_of_lt_of_le gap (joinFrom_starts later j member))
        separated.apart
    · apply ih (started.joined _)
      rw [List.forall_mem_cons]
      refine ⟨le_trans current_ordered (le_max_left _ _), ?_⟩
      exact fun j member => ordered j (List.mem_cons_of_mem i member)

theorem join_separated {is : List (α × α)} (started : Started is)
    (ordered : ∀ i ∈ is, i.1 ≤ i.2) : Separated (join is) := by
  cases is with
  | nil => exact ⟨fun _ member => absurd member (List.not_mem_nil), .nil⟩
  | cons i rest => exact joinFrom_separated started ordered

/-! What is covered. -/

/-- Where only `J` of `C` meets `I`, the part of `I` can be counted by itself. -/
theorem card_inter_split {I A C J : Finset α} (apart : Disjoint I A) (only : I ∩ C = I ∩ J) :
    ((I ∪ A) ∩ C).card = (I ∩ J).card + (A ∩ C).card := by
  rw [Finset.union_inter_distrib_right, Finset.card_union_of_disjoint, only]
  exact apart.mono Finset.inter_subset_left Finset.inter_subset_left

section
variable [LocallyFiniteOrder α]

def covered (is : List (α × α)) : Finset α := is.foldr (fun i s => Finset.Ico i.1 i.2 ∪ s) ∅

@[simp] theorem covered_nil : covered ([] : List (α × α)) = ∅ := rfl

@[simp] theorem covered_cons (i : α × α) (is : List (α × α)) :
    covered (i :: is) = Finset.Ico i.1 i.2 ∪ covered is := rfl

theorem mem_covered {is : List (α × α)} {x : α} :
    x ∈ covered is ↔ ∃ i ∈ is, i.1 ≤ x ∧ x < i.2 := by
  induction is with
  | nil => simp
  | cons i rest ih => simp [ih]

theorem covered_perm {is js : List (α × α)} (perm : is.Perm js) : covered is = covered js := by
  ext x
  simp only [mem_covered, perm.mem_iff]

theorem Ico_joined {a b c d : α} (starts : a ≤ c) (touch : c ≤ b) :
    Finset.Ico a b ∪ Finset.Ico c d = Finset.Ico a (max b d) := by
  ext x
  simp only [Finset.mem_union, Finset.mem_Ico, lt_max_iff]
  constructor
  · rintro (⟨after, before⟩ | ⟨after, before⟩)
    · exact ⟨after, .inl before⟩
    · exact ⟨le_trans starts after, .inr before⟩
  · rintro ⟨after, before⟩
    rcases lt_or_ge x b with inside | outside
    · exact .inl ⟨after, inside⟩
    · exact .inr ⟨le_trans touch outside, before.resolve_left (not_lt_of_ge outside)⟩

theorem covered_joinFrom {current : α × α} {is : List (α × α)}
    (started : Started (current :: is)) : covered (joinFrom current is) = covered (current :: is) := by
  induction is generalizing current with
  | nil => rfl
  | cons i rest ih =>
    obtain ⟨first, later⟩ := List.pairwise_cons.mp started
    rw [joinFrom]
    split
    · rw [covered_cons, covered_cons, ih later]
    · next touch =>
      rw [ih (started.joined _), covered_cons, covered_cons, covered_cons, ← Finset.union_assoc,
        Ico_joined (first i (.head rest)) (le_of_not_gt touch)]

theorem covered_join {is : List (α × α)} (started : Started is) : covered (join is) = covered is := by
  cases is with
  | nil => rfl
  | cons i rest => exact covered_joinFrom started

theorem Separated.disjoint {i : α × α} {is : List (α × α)} (separated : Separated (i :: is))
    {x : α} (inside : x < i.2) : x ∉ covered is := by
  intro member
  obtain ⟨j, later, after, _⟩ := mem_covered.mp member
  have gap := (List.pairwise_cons.mp separated.apart).1 j later
  exact lt_asymm inside (lt_of_lt_of_le gap after)

theorem Separated.ico_disjoint {i : α × α} {is : List (α × α)} (separated : Separated (i :: is))
    {a b : α} (before : b ≤ i.2) : Disjoint (Finset.Ico a b) (covered is) :=
  Finset.disjoint_left.mpr fun _ inside =>
    separated.disjoint (lt_of_lt_of_le (Finset.mem_Ico.mp inside).2 before)

theorem Separated.only_first {i : α × α} {is : List (α × α)} (separated : Separated (i :: is))
    {a b : α} (before : b ≤ i.2) :
    Finset.Ico a b ∩ covered (i :: is) = Finset.Ico a b ∩ Finset.Ico i.1 i.2 := by
  have rest := Finset.disjoint_iff_inter_eq_empty.mp (separated.ico_disjoint (a := a) before)
  rw [covered_cons, Finset.inter_union_distrib_left, rest, Finset.union_empty]

theorem Separated.card_covered {is : List (α × α)} (separated : Separated is) :
    (covered is).card = (is.map fun i => (Finset.Ico i.1 i.2).card).sum := by
  induction is with
  | nil => rfl
  | cons i rest ih =>
    rw [covered_cons, Finset.card_union_of_disjoint (separated.ico_disjoint (le_refl _)),
      ih separated.tail, List.map_cons, List.sum_cons]

theorem overlap_eq_card {is js : List (α × α)} (left : Separated is) (right : Separated js) :
    overlap (fun a b => (Finset.Ico a b).card) is js = (covered is ∩ covered js).card := by
  induction is generalizing js with
  | nil => simp [overlap]
  | cons i is ih =>
    induction js with
    | nil => simp [overlap_nil_right]
    | cons j js ih' =>
      have common : Finset.Ico (max i.1 j.1) (min i.2 j.2) =
          Finset.Ico i.1 i.2 ∩ Finset.Ico j.1 j.2 := Finset.Ico_inter_Ico.symm
      rw [overlap_cons_cons, common]
      split
      · next first =>
        rw [ih left.tail right, covered_cons i is]
        exact (card_inter_split (left.ico_disjoint (le_refl _)) (right.only_first first)).symm
      · next second =>
        rw [ih' right.tail, covered_cons j js, Finset.inter_comm (Finset.Ico i.1 i.2),
          Finset.inter_comm (covered (i :: is)), Finset.inter_comm (covered (i :: is))]
        exact (card_inter_split (right.ico_disjoint (le_refl _))
          (left.only_first (le_of_not_ge second))).symm

end

end Intervals
