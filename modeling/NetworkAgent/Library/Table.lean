import Mathlib.Data.List.AList
import Mathlib.Data.List.Dedup

/-! Tables: finite maps with one row for each key. -/

abbrev Table (K V : Type) := AList fun _ : K => V

namespace Table
variable {K V : Type} [DecidableEq K]

def rows (t : Table K V) : List (K × V) := t.entries.map fun e => (e.1, e.2)
def values (t : Table K V) : List V := t.entries.map (·.2)

theorem mem_rows {t : Table K V} {r : K × V} : r ∈ t.rows ↔ t.lookup r.1 = some r.2 := by
  have known : r ∈ t.rows ↔ (⟨r.1, r.2⟩ : (_ : K) × V) ∈ t.entries := by
    simp only [rows, List.mem_map]
    exact ⟨fun ⟨_, member, same⟩ => same ▸ member, fun member => ⟨_, member, rfl⟩⟩
  rw [known, ← AList.mem_lookup_iff, Option.mem_def]

theorem mem_values {t : Table K V} {v : V} : v ∈ t.values ↔ ∃ k, t.lookup k = some v := by
  simp only [values, List.mem_map]
  constructor
  · rintro ⟨e, member, rfl⟩
    exact ⟨e.1, AList.mem_lookup_iff.mpr member⟩
  · rintro ⟨k, known⟩
    exact ⟨⟨k, v⟩, AList.mem_lookup_iff.mp known, rfl⟩

theorem secondKeys_nodup {A B : Type} [DecidableEq A] [DecidableEq B] (t : Table (A × B) V) (a : A) :
    ((rows t |>.filter fun r => r.1.1 = a).map fun r => r.1.2).Nodup := by
  have keys : (t.entries.map (·.1)).Nodup := t.keys_nodup
  unfold rows
  rw [List.filter_map, List.map_map]
  have sub : ((t.entries.filter ((fun r : (A × B) × V => decide (r.1.1 = a)) ∘
      fun e => (e.1, e.2))).map (·.1)).Nodup := keys.sublist (List.filter_sublist.map _)
  refine List.Nodup.map_on ?_ (List.Nodup.of_map _ sub)
  intro x hx y hy same
  simp only [List.mem_filter, Function.comp_apply, decide_eq_true_eq] at hx hy same
  have key : x.1 = y.1 := Prod.ext (hx.2.trans hy.2.symm) same
  exact List.inj_on_of_nodup_map sub (by simpa using hx) (by simpa using hy) key

theorem rows_insert {t : Table K V} {k : K} {v : V} (absent : k ∉ t) :
    rows (t.insert k v) = (k, v) :: t.rows := by
  have entries : (t.insert k v).entries = ⟨k, v⟩ :: t.entries.kerase k := rfl
  rw [rows, entries, List.kerase_of_notMem_keys absent]
  rfl

theorem length_rows_insert_le (t : Table K V) (k : K) (v : V) :
    (rows (t.insert k v)).length ≤ t.rows.length + 1 := by
  have kept := (List.kerase_sublist k t.entries).length_le
  have entries : (t.insert k v).entries = ⟨k, v⟩ :: t.entries.kerase k := rfl
  rw [rows, rows, entries, List.length_map, List.length_map, List.length_cons]
  omega

theorem lookup_insert_iff {t : Table K V} {k k' : K} {v v' : V} :
    (AList.insert k v t).lookup k' = some v' ↔
      (k' = k ∧ v' = v) ∨ (k' ≠ k ∧ t.lookup k' = some v') := by
  by_cases same : k' = k
  · subst same
    simp [AList.lookup_insert, eq_comm]
  · simp [AList.lookup_insert_ne same, same]

/-! Rows that a store inserts must be new; rows that it deletes may be absent. -/

def insertNew (t : Table K V) (k : K) (v : V) : Option (Table K V) :=
  if k ∈ t then none else some (AList.insert k v t)

def insertRows : List (K × V) → Table K V → Option (Table K V)
  | [], t => some t
  | (k, v) :: rest, t => (t.insertNew k v).bind (insertRows rest)

def eraseAll (keys : List K) (t : Table K V) : Table K V := keys.foldl (fun t k => t.erase k) t

structure Added (t : Table K V) (rows : List (K × V)) (t' : Table K V) : Prop where
  fresh : ∀ r ∈ rows, t.lookup r.1 = none
  lookup : ∀ {k : K} {v : V}, t'.lookup k = some v ↔ (k, v) ∈ rows ∨ t.lookup k = some v

theorem lookup_eq_none_of_notMem {t : Table K V} {k : K} (absent : k ∉ t) : t.lookup k = none :=
  AList.lookup_eq_none.mpr absent

theorem insertNew_some {t t' : Table K V} {k : K} {v : V} (done : t.insertNew k v = some t') :
    t.Added [(k, v)] t' := by
  unfold insertNew at done
  split at done
  · cases done
  · next absent =>
    cases done
    have none_before := lookup_eq_none_of_notMem absent
    refine ⟨fun r member => by rw [List.mem_singleton.mp member]; exact none_before, ?_⟩
    intro k' v'
    rw [lookup_insert_iff, List.mem_singleton, Prod.mk.injEq]
    constructor
    · rintro (same | ⟨_, before⟩)
      · exact .inl same
      · exact .inr before
    · rintro (same | before)
      · exact .inl same
      · refine .inr ⟨fun same => ?_, before⟩
        rw [same, none_before] at before
        cases before

theorem Added.nil (t : Table K V) : t.Added [] t := ⟨by simp, by simp⟩

theorem Added.trans {a b c : Table K V} {rows more : List (K × V)} (first : a.Added rows b)
    (second : b.Added more c) : a.Added (rows ++ more) c where
  fresh r member := by
    rcases List.mem_append.mp member with early | late
    · exact first.fresh r early
    · have absent := second.fresh r late
      rw [Option.eq_none_iff_forall_not_mem] at absent ⊢
      exact fun v stored => absent v (first.lookup.mpr (.inr stored))
  lookup := by
    intro k v
    rw [second.lookup, first.lookup, List.mem_append]
    tauto

theorem insertRows_some {rows : List (K × V)} {t t' : Table K V}
    (done : insertRows rows t = some t') : t.Added rows t' := by
  induction rows generalizing t with
  | nil => cases done; exact .nil _
  | cons row rest ih =>
    obtain ⟨middle, head, tail⟩ := Option.bind_eq_some_iff.mp done
    exact (insertNew_some head).trans (ih tail)

theorem lookup_eraseAll {keys : List K} {t : Table K V} {k : K} {v : V} :
    (eraseAll keys t).lookup k = some v ↔ k ∉ keys ∧ t.lookup k = some v := by
  induction keys generalizing t with
  | nil => simp [eraseAll]
  | cons key rest ih =>
    have step : (t.erase key).lookup k = some v ↔ k ≠ key ∧ t.lookup k = some v := by
      by_cases same : k = key
      · rw [same, AList.lookup_erase]
        simp
      · simp [AList.lookup_erase_ne same, same]
    rw [eraseAll, List.foldl_cons, ← eraseAll, ih, step, List.mem_cons, not_or]
    tauto

/-! Rows that a store adds unless their key is taken. -/

def addMissing (t : Table K V) (rows : List (K × V)) : Table K V :=
  rows.foldl (fun t r => if r.1 ∈ t then t else t.insert r.1 r.2) t

theorem addMissing_of_mem {t : Table K V} {rows : List (K × V)} (taken : ∀ r ∈ rows, r.1 ∈ t) :
    t.addMissing rows = t := by
  induction rows with
  | nil => rfl
  | cons r rest ih =>
    rw [addMissing, List.foldl_cons, if_pos (taken r List.mem_cons_self)]
    exact ih fun r member => taken r (List.mem_cons_of_mem _ member)

theorem lookup_addMissing {t : Table K V} {rows : List (K × V)}
    (functional : ∀ r ∈ rows, ∀ r' ∈ rows, r.1 = r'.1 → r = r') {k : K} {v : V} :
    (t.addMissing rows).lookup k = some v ↔ t.lookup k = some v ∨ (k ∉ t ∧ (k, v) ∈ rows) := by
  induction rows generalizing t with
  | nil => simp [addMissing]
  | cons r rest ih =>
    have later := fun t => @ih t fun a first b second =>
      functional a (List.mem_cons_of_mem _ first) b (List.mem_cons_of_mem _ second)
    rw [addMissing, List.foldl_cons, ← addMissing, later, List.mem_cons]
    split
    · next taken =>
      refine or_congr_right (and_congr_right fun absent => ?_)
      refine ⟨.inr, fun member => member.elim (fun same => ?_) id⟩
      exact absurd taken (same ▸ absent)
    · next free =>
      have same_row : k = r.1 → (k, v) ∈ rest → v = r.2 := fun same member =>
        congrArg Prod.snd (functional _ (List.mem_cons_of_mem _ member) _ List.mem_cons_self same)
      have absent : k ∉ AList.insert r.1 r.2 t ↔ k ≠ r.1 ∧ k ∉ t := by
        rw [AList.mem_insert, not_or]
      have here : (k, v) = r ↔ k = r.1 ∧ v = r.2 := Prod.ext_iff
      have stored : t.lookup r.1 = none := lookup_eq_none_of_notMem free
      rw [lookup_insert_iff, absent, here]
      by_cases same : k = r.1
      · subst same
        simp [stored, free]
        exact same_row rfl
      · simp [same]

/-! Tables with the same keys. -/

variable {W : Type}

/-- A table whose values are the images of those of another, in the same order. -/
def Mapped (f : V → W) (t : Table K V) (t' : Table K W) : Prop :=
  t'.entries = t.entries.map fun e => ⟨e.1, f e.2⟩

omit [DecidableEq K] in
theorem Mapped.values {f : V → W} {t : Table K V} {t' : Table K W} (mapped : Mapped f t t') :
    t'.values = t.values.map f := by
  rw [Table.values, mapped, Table.values, List.map_map, List.map_map]
  rfl

theorem Mapped.lookup {f : V → W} {t : Table K V} {t' : Table K W} (mapped : Mapped f t t')
    (k : K) : t'.lookup k = (t.lookup k).map f := by
  rw [AList.lookup, AList.lookup, mapped]
  induction t.entries with
  | nil => rfl
  | cons e rest ih =>
    obtain ⟨key, value⟩ := e
    rw [List.map_cons]
    by_cases same : k = key
    · subst same
      rw [List.dlookup_cons_eq, List.dlookup_cons_eq, Option.map_some]
    · have image : List.dlookup k ((⟨key, f value⟩ : Sigma fun _ : K => W) ::
          rest.map fun e => ⟨e.1, f e.2⟩) = _ := List.dlookup_cons_ne _ _ same
      exact image.trans (ih.trans (congrArg _ (List.dlookup_cons_ne rest ⟨key, value⟩ same).symm))

theorem Mapped.insert {f : V → W} {t : Table K V} {t' : Table K W} (mapped : Mapped f t t')
    (k : K) (v : V) : Mapped f (t.insert k v) (t'.insert k (f v)) := by
  have erased : ∀ es : List (Sigma fun _ : K => V),
      (es.map fun e => (⟨e.1, f e.2⟩ : Sigma fun _ : K => W)).kerase k =
        (es.kerase k).map fun e => ⟨e.1, f e.2⟩ := by
    intro es
    induction es with
    | nil => rfl
    | cons e rest ih =>
      obtain ⟨key, value⟩ := e
      rw [List.map_cons]
      by_cases same : k = key
      · rw [List.kerase_cons_eq same, List.kerase_cons_eq same]
      · have other : (List.kerase k (⟨key, f value⟩ :: rest.map fun e => ⟨e.1, f e.2⟩) :
            List (Sigma fun _ : K => W)) = _ := List.kerase_cons_ne same
        rw [other, List.kerase_cons_ne same, List.map_cons, ih]
  rw [Mapped, AList.entries_insert, AList.entries_insert, mapped, erased, List.map_cons]

end Table

theorem List.dedup_length_le_of_subset {α : Type} [DecidableEq α] {xs ys : List α} (h : xs ⊆ ys) :
    xs.dedup.length ≤ ys.dedup.length :=
  (List.subperm_of_subset (List.nodup_dedup xs) fun _ member =>
    List.mem_dedup.mpr (h (List.mem_dedup.mp member))).length_le
