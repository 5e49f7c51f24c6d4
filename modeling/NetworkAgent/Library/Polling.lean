import Mathlib.Order.Defs.LinearOrder
import NetworkAgent.Library.Sorting

/-! A table that is read page by page from a cursor while rows are added. The rows have an order,
and the cursor is a key of the rows that the order follows but that several rows may share. -/
namespace Polling
variable {α K : Type} [LinearOrder K]

/-- Where a page starts. -/
inductive Bound (K : Type) where
  | since (k : K)
  | after (k : K)

def Bound.Admits (bound : Bound K) (x : K) : Prop := match bound with
  | .since k => k ≤ x
  | .after k => k < x

instance (bound : Bound K) (x : K) : Decidable (bound.Admits x) := match bound with
  | .since k => inferInstanceAs (Decidable (k ≤ x))
  | .after k => inferInstanceAs (Decidable (k < x))

theorem Bound.lt_of_admits {bound : Bound K} {x y : K} (out : ¬ bound.Admits x)
    (inside : bound.Admits y) : x < y := by
  cases bound with
  | since k => exact lt_of_lt_of_le (not_le.mp out) inside
  | after k => exact lt_of_le_of_lt (not_lt.mp out) inside

theorem Bound.admits_of_le {bound : Bound K} {x y : K} (inside : bound.Admits x) (le : x ≤ y) :
    bound.Admits y := by
  cases bound with
  | since k => exact le_trans inside le
  | after k => exact lt_of_lt_of_le inside le

/-- The order of rows, which follows their keys. -/
structure Follows (le : α → α → Bool) (key : α → K) : Prop where
  total : ∀ a b, le a b = true ∨ le b a = true
  trans : ∀ a b c, le a b = true → le b c = true → le a c = true
  key_le : ∀ a b, le a b = true → key a ≤ key b

def Apart (le : α → α → Bool) (rows : List α) : Prop :=
  ∀ a ∈ rows, ∀ b ∈ rows, le a b = true → le b a = true → a = b

def inOrder (le : α → α → Bool) (rows : List α) : List α := rows.insertionSort fun a b => le a b

def pending (le : α → α → Bool) (key : α → K) (bound : Bound K) (rows : List α) : List α :=
  inOrder le (rows.filter fun r => bound.Admits (key r))

def Bound.next (bound : Bound K) (key : α → K) (page : List α) : Bound K :=
  match page.getLast? with
  | none => bound
  | some r => .after (key r)

section
variable {le : α → α → Bool} {key : α → K}

theorem Follows.lt (follows : Follows le key) {a b : α} (less : key a < key b) : le a b = true :=
  (follows.total a b).resolve_right fun back => absurd (follows.key_le b a back) (not_le.mpr less)

theorem Follows.sorted (follows : Follows le key) (rows : List α) :
    (inOrder le rows).Pairwise fun a b => le a b = true := by
  have : Std.Total (fun a b => le a b = true) := ⟨follows.total⟩
  have : IsTrans α (fun a b => le a b = true) := ⟨follows.trans⟩
  exact List.pairwise_insertionSort (fun a b => le a b = true) rows

theorem perm_inOrder (rows : List α) : (inOrder le rows).Perm rows :=
  List.perm_insertionSort (fun a b => le a b = true) rows

theorem Apart.filter {rows : List α} (apart : Apart le rows) (p : α → Bool) :
    Apart le (rows.filter p) := fun a first b second =>
  apart a (List.mem_of_mem_filter first) b (List.mem_of_mem_filter second)

theorem Follows.inOrder_eq (follows : Follows le key) {rows xs : List α} (apart : Apart le rows)
    (sorted : xs.Pairwise fun a b => le a b = true) (perm : xs.Perm rows) :
    inOrder le rows = xs := by
  rw [inOrder, Sorting.insertionSort_eq_of_perm follows.total follows.trans apart perm.symm]
  exact List.Pairwise.insertionSort_eq sorted

theorem mem_pending {bound : Bound K} {rows : List α} {r : α} :
    r ∈ pending le key bound rows ↔ r ∈ rows ∧ bound.Admits (key r) := by
  rw [pending, (perm_inOrder _).mem_iff, List.mem_filter, decide_eq_true_eq]

/-! What has been sent. -/

/-- The rows from the start on are what has been sent and then what the cursor admits. -/
structure Sent (le : α → α → Bool) (key : α → K) (start bound : Bound K) (rows sent : List α) :
    Prop where
  whole : pending le key start rows = sent ++ pending le key bound rows
  passed : ∀ a ∈ sent, ¬ bound.Admits (key a)
  later : ∀ k, bound.Admits k → start.Admits k

variable {start bound : Bound K} {rows sent : List α}

theorem sent_nothing : Sent le key start start rows [] := ⟨rfl, nofun, fun _ inside => inside⟩

theorem Sent.insert (follows : Follows le key) (done : Sent le key start bound rows sent) {r : α}
    (apart : Apart le (rows ++ [r])) (ahead : start.Admits (key r) → bound.Admits (key r)) :
    Sent le key start bound (rows ++ [r]) sent := by
  refine ⟨?_, done.passed, done.later⟩
  by_cases inside : bound.Admits (key r)
  · have first := follows.sorted (rows.filter fun r => start.Admits (key r))
    rw [← pending, done.whole, List.pairwise_append] at first
    refine follows.inOrder_eq (apart.filter _) (List.pairwise_append.mpr
      ⟨first.1, follows.sorted _, fun a old b new => follows.lt ?_⟩) ?_
    · exact Bound.lt_of_admits (done.passed a old) (mem_pending.mp new).2
    · have own : [r].filter (fun r => start.Admits (key r)) = [r] := by
        simp [done.later _ inside]
      have own' : [r].filter (fun r => bound.Admits (key r)) = [r] := by simp [inside]
      rw [pending, List.filter_append, List.filter_append, own, own']
      calc (sent ++ inOrder le (rows.filter (fun r => bound.Admits (key r)) ++ [r])).Perm
            (sent ++ (rows.filter (fun r => bound.Admits (key r)) ++ [r])) :=
          (perm_inOrder _).append_left sent
        _ |>.Perm (sent ++ (pending le key bound rows ++ [r])) :=
          ((perm_inOrder _).symm.append_right [r]).append_left sent
        _ = pending le key start rows ++ [r] := by rw [done.whole, List.append_assoc]
        _ |>.Perm (rows.filter (fun r => start.Admits (key r)) ++ [r]) :=
          (perm_inOrder _).append_right [r]
  · have out : ¬ start.Admits (key r) := fun from' => inside (ahead from')
    have same : ∀ b : Bound K, ¬ b.Admits (key r) →
        pending le key b (rows ++ [r]) = pending le key b rows := fun b away => by
      rw [pending, List.filter_append]
      simp [away, pending]
    rw [same start out, same bound inside]
    exact done.whole

/-! A page. -/

def Uncut (key : α → K) (limit : Nat) (waiting : List α) : Prop :=
  ∀ a ∈ waiting.take limit, ∀ b ∈ waiting.drop limit, key a < key b

instance (limit : Nat) (waiting : List α) : Decidable (Uncut key limit waiting) :=
  inferInstanceAs (Decidable (∀ _ ∈ _, ∀ _ ∈ _, _))

theorem Follows.key_le_last (follows : Follows le key) {page : List α}
    (sorted : page.Pairwise fun a b => le a b = true) {last : α} (ends : page.getLast? = some last) :
    ∀ a ∈ page, key a ≤ key last := by
  obtain ⟨front, rfl⟩ := List.getLast?_eq_some_iff.mp ends
  intro a member
  rcases List.mem_append.mp member with earlier | same
  · exact follows.key_le a last ((List.pairwise_append.mp sorted).2.2 a earlier last (by simp))
  · rw [List.mem_singleton.mp same]

theorem pending_later (follows : Follows le key) (apart : Apart le rows) {later : Bound K}
    {front rest : List α} (split : pending le key bound rows = front ++ rest)
    (within : ∀ k, later.Admits k → bound.Admits k) (out : ∀ a ∈ front, ¬ later.Admits (key a))
    (behind : ∀ b ∈ rest, later.Admits (key b)) : pending le key later rows = rest := by
  have sorted := follows.sorted (rows.filter fun r => bound.Admits (key r))
  rw [← pending, split] at sorted
  refine follows.inOrder_eq (apart.filter _) (List.pairwise_append.mp sorted).2.1 ?_
  have none : front.filter (fun r => later.Admits (key r)) = [] :=
    List.filter_eq_nil_iff.mpr fun a inside => by simpa using out a inside
  have all : rest.filter (fun r => later.Admits (key r)) = rest :=
    List.filter_eq_self.mpr fun b inside => decide_eq_true (behind b inside)
  have twice : (rows.filter fun r => bound.Admits (key r)).filter (fun r => later.Admits (key r)) =
      rows.filter fun r => later.Admits (key r) := by
    rw [List.filter_filter]
    refine List.filter_congr fun r _ => ?_
    by_cases inside : later.Admits (key r)
    · simp [inside, within _ inside]
    · simp [inside]
  have whole : (pending le key bound rows).Perm (rows.filter fun r => bound.Admits (key r)) :=
    perm_inOrder _
  have perm := whole.filter fun r => later.Admits (key r)
  rwa [split, List.filter_append, none, all, List.nil_append, twice] at perm

theorem Sent.page (follows : Follows le key) (done : Sent le key start bound rows sent)
    (apart : Apart le rows) {limit : Nat} (uncut : Uncut key limit (pending le key bound rows)) :
    Sent le key start (bound.next key ((pending le key bound rows).take limit)) rows
      (sent ++ (pending le key bound rows).take limit) ∧
    pending le key (bound.next key ((pending le key bound rows).take limit)) rows =
      (pending le key bound rows).drop limit := by
  have sorted := follows.sorted (rows.filter fun r => bound.Admits (key r))
  have split := (List.take_append_drop limit (pending le key bound rows)).symm
  unfold Uncut at uncut
  rw [← pending, split, List.pairwise_append] at sorted
  cases ends : ((pending le key bound rows).take limit).getLast? with
  | none =>
    have empty := List.getLast?_eq_none_iff.mp ends
    rw [empty, List.nil_append] at split
    rw [empty, List.append_nil, ← split]
    exact ⟨done, rfl⟩
  | some last =>
    have member := List.mem_of_mem_getLast? ends
    have before := follows.key_le_last sorted.1 ends
    have inside := (mem_pending.mp (List.mem_of_mem_take member)).2
    have within : ∀ k, (Bound.after (key last)).Admits k → bound.Admits k := fun k above =>
      Bound.admits_of_le inside (le_of_lt above)
    have left : pending le key (.after (key last)) rows =
        (pending le key bound rows).drop limit :=
      pending_later follows apart split within (fun a here => not_lt.mpr (before a here))
        fun b here => uncut last member b here
    have moved : bound.next key ((pending le key bound rows).take limit) = .after (key last) := by
      rw [Bound.next, ends]
    rw [moved]
    refine ⟨⟨?_, fun a here => ?_, fun k above => done.later k (within k above)⟩, left⟩
    · rw [left, List.append_assoc, ← split]
      exact done.whole
    · rcases List.mem_append.mp here with old | new
      · exact fun above => done.passed a old (within _ above)
      · exact not_lt.mpr (before a new)

end

end Polling
