import NetworkAgent.Library.Sorting

/-! Mappings as lists of items: an assignment keeps the place of a key and replaces its value,
so the last assignment to a key counts. -/
namespace Items

variable {V : Type}

/-- `d[key] = value`: a key keeps its place, its value is replaced. -/
def setItem (items : List (String × V)) (key : String) (x : V) : List (String × V) :=
  match items with
  | [] => [(key, x)]
  | (k, y) :: rest => if k = key then (k, x) :: rest else (k, y) :: setItem rest key x

def lastItems : List (String × V) → List (String × V)
  | [] => []
  | f :: rest => if rest.any (fun g => g.1 == f.1) then lastItems rest else f :: lastItems rest

theorem setItem_fresh {items : List (String × V)} {key : String} (fresh : key ∉ items.map Prod.fst)
    (x : V) : setItem items key x = items ++ [(key, x)] := by
  induction items with
  | nil => rfl
  | cons f rest ih =>
    rw [List.map_cons, List.mem_cons, not_or] at fresh
    rw [setItem, if_neg (Ne.symm fresh.1), ih fresh.2, List.cons_append]

theorem setItem_keys (items : List (String × V)) (key : String) (x : V) :
    (setItem items key x).map Prod.fst =
      if key ∈ items.map Prod.fst then items.map Prod.fst else items.map Prod.fst ++ [key] := by
  induction items with
  | nil => simp [setItem]
  | cons f rest ih =>
    by_cases same : f.1 = key
    · simp [setItem, same]
    · rw [setItem, if_neg same, List.map_cons, ih]
      simp only [List.map_cons, List.mem_cons, Ne.symm same, false_or]
      split <;> simp

theorem setItem_nodup {items : List (String × V)} (distinct : (items.map Prod.fst).Nodup)
    (key : String) (x : V) : ((setItem items key x).map Prod.fst).Nodup := by
  rw [setItem_keys]
  split
  · exact distinct
  · rename_i fresh
    exact List.nodup_append.mpr ⟨distinct, List.nodup_singleton key, by
      rintro k old _ new rfl
      rw [List.mem_singleton.mp new] at old
      exact fresh old⟩

theorem mem_setItem {items : List (String × V)} (distinct : (items.map Prod.fst).Nodup)
    {key : String} {x : V} {f : String × V} :
    f ∈ setItem items key x ↔ f = (key, x) ∨ f ∈ items ∧ f.1 ≠ key := by
  induction items with
  | nil => simp [setItem]
  | cons g rest ih =>
    obtain ⟨absent, others⟩ := List.nodup_cons.mp distinct
    by_cases same : g.1 = key
    · have outside : f ∈ rest → f.1 ≠ key := by
        rintro inside rfl
        exact absent (same ▸ List.mem_map_of_mem inside)
      rw [setItem, if_pos same, same, List.mem_cons, List.mem_cons]
      constructor
      · rintro (rfl | inside)
        · exact .inl rfl
        · exact .inr ⟨.inr inside, outside inside⟩
      · rintro (rfl | ⟨rfl | inside, other⟩)
        · exact .inl rfl
        · exact absurd same other
        · exact .inr inside
    · rw [setItem, if_neg same, List.mem_cons, ih others, List.mem_cons]
      constructor
      · rintro (rfl | rfl | ⟨inside, other⟩)
        · exact .inr ⟨.inl rfl, same⟩
        · exact .inl rfl
        · exact .inr ⟨.inr inside, other⟩
      · rintro (rfl | ⟨rfl | inside, other⟩)
        · exact .inr (.inl rfl)
        · exact .inl rfl
        · exact .inr (.inr ⟨inside, other⟩)

def setItems (done items : List (String × V)) : List (String × V) :=
  items.foldl (fun d f => setItem d f.1 f.2) done

theorem setItems_nodup {done : List (String × V)} (distinct : (done.map Prod.fst).Nodup)
    (items : List (String × V)) : ((setItems done items).map Prod.fst).Nodup := by
  induction items generalizing done with
  | nil => exact distinct
  | cons f rest ih => exact ih (setItem_nodup distinct f.1 f.2)

theorem setItems_fresh {done items : List (String × V)}
    (distinct : ((done ++ items).map Prod.fst).Nodup) : setItems done items = done ++ items := by
  induction items generalizing done with
  | nil => exact (List.append_nil done).symm
  | cons f rest ih =>
    have fresh : f.1 ∉ done.map Prod.fst := by
      rw [List.map_append, List.nodup_append] at distinct
      intro old
      exact distinct.2.2 f.1 old f.1 (by simp) rfl
    have shifted : done ++ f :: rest = done ++ [f] ++ rest := by simp
    rw [setItems, List.foldl_cons, setItem_fresh fresh, shifted]
    exact ih (shifted ▸ distinct)

theorem mem_setItems {done : List (String × V)} (distinct : (done.map Prod.fst).Nodup)
    (items : List (String × V)) (f : String × V) :
    f ∈ setItems done items ↔
      f ∈ done ∧ items.any (fun g => g.1 == f.1) = false ∨ f ∈ lastItems items := by
  induction items generalizing done with
  | nil => simp [setItems, lastItems]
  | cons g rest ih =>
    rw [setItems, List.foldl_cons, ← setItems, ih (setItem_nodup distinct g.1 g.2),
      mem_setItem distinct, lastItems, List.any_cons, Bool.or_eq_false_iff, beq_eq_false_iff_ne]
    have self : (g.1, g.2) = g := rfl
    rw [self]
    cases later : rest.any (fun e => e.1 == g.1) with
    | true =>
      rw [if_pos rfl]
      constructor
      · rintro (⟨rfl | ⟨old, other⟩, absent⟩ | last)
        · rw [later] at absent
          cases absent
        · exact .inl ⟨old, other.symm, absent⟩
        · exact .inr last
      · rintro (⟨old, other, absent⟩ | last)
        · exact .inl ⟨.inr ⟨old, other.symm⟩, absent⟩
        · exact .inr last
    | false =>
      rw [if_neg Bool.false_ne_true, List.mem_cons]
      constructor
      · rintro (⟨rfl | ⟨old, other⟩, absent⟩ | last)
        · exact .inr (.inl rfl)
        · exact .inl ⟨old, other.symm, absent⟩
        · exact .inr (.inr last)
      · rintro (⟨old, other, absent⟩ | rfl | last)
        · exact .inl ⟨.inr ⟨old, other.symm⟩, absent⟩
        · exact .inl ⟨.inl rfl, later⟩
        · exact .inr last

theorem lastItems_subset (items : List (String × V)) : lastItems items ⊆ items := by
  induction items with
  | nil => exact List.Subset.refl []
  | cons f rest ih =>
    rw [lastItems]
    split
    · exact List.subset_cons_of_subset f ih
    · exact List.cons_subset_cons f ih

theorem lookup_item (f : String × V) (rest : List (String × V)) (key : String) :
    (f :: rest).lookup key = if key = f.1 then some f.2 else rest.lookup key := by
  obtain ⟨k, x⟩ := f
  by_cases here : key = k
  · simp [here]
  · have apart : (key == k) = false := beq_eq_false_iff_ne.mpr here
    simp [List.lookup_cons, here, apart]

theorem lookup_setItem (items : List (String × V)) (key other : String) (x : V) :
    (setItem items key x).lookup other = if other = key then some x else items.lookup other := by
  induction items with
  | nil => exact lookup_item (key, x) [] other
  | cons f rest ih =>
    by_cases same : f.1 = key
    · rw [setItem, if_pos same, lookup_item, lookup_item, same]
      split <;> rfl
    · rw [setItem, if_neg same, lookup_item, ih, lookup_item]
      by_cases here : other = f.1
      · simp [here, same]
      · simp [here]

theorem setItem_same {items : List (String × V)} {key : String} {x : V}
    (held : items.lookup key = some x) : setItem items key x = items := by
  induction items with
  | nil => cases held
  | cons f rest ih =>
    rw [lookup_item] at held
    by_cases same : f.1 = key
    · rw [if_pos same.symm] at held
      rw [setItem, if_pos same, ← Option.some.inj held]
    · rw [if_neg (Ne.symm same)] at held
      rw [setItem, if_neg same, ih held]

theorem lookup_insert (f : String × V) (items : List (String × V)) (key : String) :
    (items.orderedInsert (fun a b => textLe a.1 b.1) f).lookup key =
      if key = f.1 then some f.2 else items.lookup key := by
  induction items with
  | nil => exact lookup_item f [] key
  | cons g rest ih =>
    rw [List.orderedInsert]
    split
    · exact lookup_item f (g :: rest) key
    · rename_i later
      have other : f.1 ≠ g.1 := fun same => later (by simpa [same] using textLe_total g.1 g.1)
      rw [lookup_item, ih, lookup_item]
      by_cases here : key = g.1
      · simp [here, other.symm]
      · simp [here]

theorem lookup_sortFields (items : List (String × V)) (key : String) :
    (Json.sortFields items).lookup key = items.lookup key := by
  induction items with
  | nil => rfl
  | cons f rest ih =>
    have step : Json.sortFields (f :: rest) =
      (Json.sortFields rest).orderedInsert (fun a b => textLe a.1 b.1) f := rfl
    rw [step, lookup_insert, ih, lookup_item]

theorem lookup_map {W : Type} (g : V → W) (items : List (String × V)) (key : String) :
    (items.map fun f => (f.1, g f.2)).lookup key = (items.lookup key).map g := by
  induction items with
  | nil => rfl
  | cons f rest ih =>
    rw [List.map_cons, lookup_item, lookup_item, ih]
    split <;> rfl

end Items
