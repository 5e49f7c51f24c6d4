import Mathlib.Data.List.Basic

/-! A list read page by page. -/
namespace Paging
variable {α : Type} (xs : List α) (limit offset : Nat)

def page : List α := (xs.drop offset).take limit

theorem length_page : (page xs limit offset).length = min limit (xs.length - offset) := by
  simp [page]

theorem page_map {β : Type} (f : α → β) :
    page (xs.map f) limit offset = (page xs limit offset).map f := by
  simp [page, List.map_take, List.map_drop]

theorem take_append_page :
    xs.take offset ++ page xs limit offset = xs.take (offset + (page xs limit offset).length) := by
  have whole : xs.take (offset + limit) = xs.take offset ++ page xs limit offset := List.take_add
  rw [← whole, length_page]
  rcases Nat.le_total xs.length (offset + limit) with short | long
  · rw [List.take_of_length_le short, List.take_of_length_le (by omega)]
  · congr 1
    omega

theorem take_of_short (short : (page xs limit offset).length < limit) :
    xs.take (offset + (page xs limit offset).length) = xs := by
  rw [length_page] at short ⊢
  exact List.take_of_length_le (by omega)

end Paging
