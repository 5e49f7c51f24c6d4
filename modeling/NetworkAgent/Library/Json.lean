import Mathlib.Algebra.GroupWithZero.Nat
import Mathlib.Data.List.Forall2
import Mathlib.Data.List.Sort
import Mathlib.Data.Rat.Defs
import NetworkAgent.Library.Text

/-! JSON values as a program holds them, the equality `==` puts on them, their nesting
depth, and the UTF-8 bytes of their canonical text. Numbers keep the constructor they were
written with: the text tells `true`, `1` and `1.0` apart, the equality does not. -/

/-- The order of two byte strings; on UTF-8 it is the order of the code points. -/
def bytesLe : List Nat → List Nat → Bool
  | [], _ => true
  | _ :: _, [] => false
  | a :: as, b :: bs => a < b || (a == b && bytesLe as bs)

def textLe (a b : String) : Bool := bytesLe (utf8 a) (utf8 b)

inductive Json where
  | null
  | bool (b : Bool)
  | int (n : Int)
  | float (q : ℚ)
  | str (s : String)
  | arr (items : List Json)
  | obj (fields : List (String × Json))

namespace Json

mutual
def decEq : (a b : Json) → Decidable (a = b)
  | .null, b => match b with
    | .null => isTrue rfl
    | .bool _ | .int _ | .float _ | .str _ | .arr _ | .obj _ => isFalse nofun
  | .bool x, b => match b with
    | .bool y => decidable_of_iff (x = y) (by simp)
    | .null | .int _ | .float _ | .str _ | .arr _ | .obj _ => isFalse nofun
  | .int x, b => match b with
    | .int y => decidable_of_iff (x = y) (by simp)
    | .null | .bool _ | .float _ | .str _ | .arr _ | .obj _ => isFalse nofun
  | .float x, b => match b with
    | .float y => decidable_of_iff (x = y) (by simp)
    | .null | .bool _ | .int _ | .str _ | .arr _ | .obj _ => isFalse nofun
  | .str x, b => match b with
    | .str y => decidable_of_iff (x = y) (by simp)
    | .null | .bool _ | .int _ | .float _ | .arr _ | .obj _ => isFalse nofun
  | .arr xs, b => match b with
    | .arr ys => @decidable_of_iff _ (xs = ys) (by simp) (decEqItems xs ys)
    | .null | .bool _ | .int _ | .float _ | .str _ | .obj _ => isFalse nofun
  | .obj xs, b => match b with
    | .obj ys => @decidable_of_iff _ (xs = ys) (by simp) (decEqFields xs ys)
    | .null | .bool _ | .int _ | .float _ | .str _ | .arr _ => isFalse nofun
def decEqItems : (xs ys : List Json) → Decidable (xs = ys)
  | [], ys => match ys with
    | [] => isTrue rfl
    | _ :: _ => isFalse nofun
  | x :: xs, ys => match ys with
    | [] => isFalse nofun
    | y :: ys =>
      @decidable_of_iff _ (x = y ∧ xs = ys) (by simp)
        (@instDecidableAnd _ _ (decEq x y) (decEqItems xs ys))
def decEqFields : (xs ys : List (String × Json)) → Decidable (xs = ys)
  | [], ys => match ys with
    | [] => isTrue rfl
    | _ :: _ => isFalse nofun
  | (k, x) :: xs, ys => match ys with
    | [] => isFalse nofun
    | (l, y) :: ys =>
      @decidable_of_iff _ (k = l ∧ x = y ∧ xs = ys) (by simp [and_assoc])
        (@instDecidableAnd _ _ _ (@instDecidableAnd _ _ (decEq x y) (decEqFields xs ys)))
end

instance : DecidableEq Json := decEq

/-- Fields in the order of their keys; equal keys keep their order. -/
def sortFields {V : Type} (fields : List (String × V)) : List (String × V) :=
  fields.insertionSort fun a b => textLe a.1 b.1

mutual
/-- The representative of a value's class under `==`: a flag is the number it counts as,
an integral float is that integer, and the order of an object's keys does not matter. -/
def norm : Json → Json
  | .null => .null
  | .bool b => .int (if b then 1 else 0)
  | .int n => .int n
  | .float q => if q.den = 1 then .int q.num else .float q
  | .str s => .str s
  | .arr items => .arr (normItems items)
  | .obj fields => .obj (sortFields (normFields fields))
def normItems : List Json → List Json
  | [] => []
  | x :: xs => norm x :: normItems xs
def normFields : List (String × Json) → List (String × Json)
  | [] => []
  | (k, x) :: xs => (k, norm x) :: normFields xs
end

mutual
/-- Nesting depth: a scalar is at depth one, a container one above its deepest member. -/
def depth : Json → Nat
  | .arr items => depthItems items + 1
  | .obj fields => depthFields fields + 1
  | _ => 1
def depthItems : List Json → Nat
  | [] => 0
  | x :: xs => max (depth x) (depthItems xs)
def depthFields : List (String × Json) → Nat
  | [] => 0
  | (_, x) :: xs => max (depth x) (depthFields xs)
end

/-! Canonical text: keys sorted, no blanks, only what JSON requires escaped. Every escaped
character is a single byte. -/

def hexDigit (n : Nat) : Nat := if n < 10 then 48 + n else 87 + n

def escape (byte : Nat) : List Nat :=
  if byte = 34 ∨ byte = 92 then [92, byte]
  else if byte = 10 then [92, 110]
  else if byte = 13 then [92, 114]
  else if byte = 9 then [92, 116]
  else if byte = 8 then [92, 98]
  else if byte = 12 then [92, 102]
  else if byte < 32 then [92, 117, 48, 48, hexDigit (byte / 16), hexDigit (byte % 16)]
  else [byte]

def quote (s : String) : List Nat := 34 :: (utf8 s).flatMap escape ++ [34]

theorem escape_length_le (byte : Nat) : (escape byte).length ≤ 6 := by
  unfold escape
  repeat' split
  all_goals simp

theorem quote_length_le (s : String) : (quote s).length ≤ 24 * s.length + 2 := by
  have escaped : ∀ bytes : List Nat, (bytes.flatMap escape).length ≤ 6 * bytes.length := by
    intro bytes
    induction bytes with
    | nil => simp
    | cons b rest ih =>
      have head := escape_length_le b
      simp only [List.flatMap_cons, List.length_append, List.length_cons]
      omega
  have encoded := utf8_length_le s
  have whole := escaped (utf8 s)
  simp only [quote, List.cons_append, List.length_cons, List.length_append, List.length_nil]
  omega

def commaSep : List (List Nat) → List Nat
  | [] => []
  | [s] => s
  | s :: rest => s ++ 44 :: commaSep rest

mutual
def bytes (floatRepr : ℚ → String) : Json → List Nat
  | .null => utf8 "null"
  | .bool b => utf8 (if b then "true" else "false")
  | .int n => utf8 (toString n)
  | .float q => utf8 (floatRepr q)
  | .str s => quote s
  | .arr items => 91 :: commaSep (bytesItems floatRepr items) ++ [93]
  | .obj fields =>
    123 :: commaSep ((sortFields (bytesFields floatRepr fields)).map
      fun f => quote f.1 ++ 58 :: f.2) ++ [125]
def bytesItems (floatRepr : ℚ → String) : List Json → List (List Nat)
  | [] => []
  | x :: xs => bytes floatRepr x :: bytesItems floatRepr xs
def bytesFields (floatRepr : ℚ → String) : List (String × Json) → List (String × List Nat)
  | [] => []
  | (k, x) :: xs => (k, bytes floatRepr x) :: bytesFields floatRepr xs
end

/-! The number of bytes of the canonical text, counted without writing or sorting it. -/

def escapeSize (byte : Nat) : Nat := if 92 < byte then 1 else (escape byte).length

def quoteSize (s : String) : Nat := (utf8 s).foldr (fun byte n => escapeSize byte + n) 2

mutual
def size (floatRepr : ℚ → String) : Json → Nat
  | .null => 4
  | .bool b => if b then 4 else 5
  | .int n => (utf8 (toString n)).length
  | .float q => (utf8 (floatRepr q)).length
  | .str s => quoteSize s
  | .arr items => sizeItems floatRepr items - 1 + 2
  | .obj fields => sizeFields floatRepr fields - 1 + 2
/-- The values, each with a comma. -/
def sizeItems (floatRepr : ℚ → String) : List Json → Nat
  | [] => 0
  | x :: xs => size floatRepr x + 1 + sizeItems floatRepr xs
def sizeFields (floatRepr : ℚ → String) : List (String × Json) → Nat
  | [] => 0
  | (k, x) :: xs => quoteSize k + 1 + size floatRepr x + 1 + sizeFields floatRepr xs
end

theorem escape_length (byte : Nat) : (escape byte).length = escapeSize byte := by
  unfold escapeSize
  split
  · unfold escape
    repeat' split
    all_goals first | omega | rfl
  · rfl

theorem quote_length (s : String) : (quote s).length = quoteSize s := by
  have escaped : ∀ bytes : List Nat, (bytes.flatMap escape).length + 2 =
      bytes.foldr (fun byte n => escapeSize byte + n) 2 := by
    intro bytes
    induction bytes with
    | nil => rfl
    | cons b rest ih =>
      rw [List.flatMap_cons, List.length_append, List.foldr_cons, ← ih, escape_length]
      omega
  rw [quoteSize, ← escaped]
  simp [quote]

theorem commaSep_length (parts : List (List Nat)) :
    (commaSep parts).length = (parts.map fun p => p.length + 1).sum - 1 := by
  induction parts with
  | nil => rfl
  | cons p rest ih =>
    cases rest with
    | nil => simp [commaSep]
    | cons q rest =>
      simp only [commaSep, List.length_append, List.length_cons, List.map_cons, List.sum_cons] at ih ⊢
      omega

mutual
theorem bytes_length (floatRepr : ℚ → String) : (x : Json) →
    (bytes floatRepr x).length = size floatRepr x
  | .null => rfl
  | .bool b => by cases b <;> rfl
  | .int n => rfl
  | .float q => rfl
  | .str s => quote_length s
  | .arr items => by
    have joined := commaSep_length (bytesItems floatRepr items)
    rw [bytesItems_length floatRepr items] at joined
    simp only [bytes, size, List.cons_append, List.length_cons, List.length_append, joined,
      List.length_nil]
  | .obj fields => by
    have sorted : (sortFields (bytesFields floatRepr fields)).Perm (bytesFields floatRepr fields) :=
      List.perm_insertionSort _ _
    have joined := commaSep_length ((sortFields (bytesFields floatRepr fields)).map
      fun f => quote f.1 ++ 58 :: f.2)
    rw [List.map_map, (sorted.map _).sum_nat] at joined
    rw [show (fun p : List Nat => p.length + 1) ∘ (fun f : String × List Nat =>
      quote f.1 ++ 58 :: f.2) = fun f => (quote f.1 ++ 58 :: f.2).length + 1 from rfl,
      bytesFields_length floatRepr fields] at joined
    simp only [bytes, size, List.cons_append, List.length_cons, List.length_append, joined,
      List.length_nil]
theorem bytesItems_length (floatRepr : ℚ → String) : (items : List Json) →
    ((bytesItems floatRepr items).map fun p => p.length + 1).sum = sizeItems floatRepr items
  | [] => rfl
  | x :: xs => by
    rw [bytesItems, List.map_cons, List.sum_cons, bytes_length floatRepr x,
      bytesItems_length floatRepr xs, sizeItems]
theorem bytesFields_length (floatRepr : ℚ → String) : (fields : List (String × Json)) →
    ((bytesFields floatRepr fields).map fun f => (quote f.1 ++ 58 :: f.2).length + 1).sum =
      sizeFields floatRepr fields
  | [] => rfl
  | (k, x) :: xs => by
    rw [bytesFields, List.map_cons, List.sum_cons, bytesFields_length floatRepr xs, sizeFields,
      List.length_append, List.length_cons, bytes_length floatRepr x, quote_length]
    dsimp only
    omega
end

theorem commaSep_length_le (parts : List (List Nat)) :
    (commaSep parts).length ≤ (parts.map fun p => p.length + 1).sum :=
  (commaSep_length parts).trans_le (Nat.sub_le _ _)

theorem bytes_obj_length_le (floatRepr : ℚ → String) (fields : List (String × Json)) :
    (bytes floatRepr (.obj fields)).length ≤
      (fields.map fun f => 24 * f.1.length + (bytes floatRepr f.2).length + 4).sum + 2 := by
  have each : sizeFields floatRepr fields ≤
      (fields.map fun f => 24 * f.1.length + (bytes floatRepr f.2).length + 4).sum := by
    induction fields with
    | nil => rfl
    | cons f rest ih =>
      have quoted := quote_length_le f.1
      rw [quote_length] at quoted
      simp only [sizeFields, List.map_cons, List.sum_cons, bytes_length]
      simp only [bytes_length] at ih
      omega
  rw [bytes_length, size]
  omega

theorem size_le_iff {floatRepr : ℚ → String} {x : Json} {n : Nat} :
    size floatRepr x ≤ n ↔ (bytes floatRepr x).length ≤ n := by
  rw [bytes_length]

example : bytes (fun _ => "0.5") (.obj [("b", .arr [.int 1, .float (1/2)]), ("a", .str "x\n")]) =
    utf8 "\x7b\"a\":\"x\\n\",\"b\":[1,0.5]\x7d" := by decide

/-! Objects as the program reads and updates them. -/

def get? (key : String) : List (String × Json) → Option Json
  | [] => none
  | (k, v) :: rest => if k = key then some v else get? key rest

def set (key : String) (value : Json) : List (String × Json) → List (String × Json)
  | [] => [(key, value)]
  | (k, v) :: rest => if k = key then (k, value) :: rest else (k, v) :: set key value rest

@[simp] theorem get?_set (key : String) (value : Json) (fields : List (String × Json)) :
    get? key (set key value fields) = some value := by
  induction fields with
  | nil => simp [set, get?]
  | cons f rest ih =>
    by_cases h : f.1 = key
    · simp [set, get?, h]
    · simp [set, get?, h, ih]

end Json

theorem List.Forall₂.imp_mem {α β : Type} {R S : α → β → Prop} {xs : List α} {ys : List β}
    (related : List.Forall₂ R xs ys) (each : ∀ {a b}, a ∈ xs → b ∈ ys → R a b → S a b) :
    List.Forall₂ S xs ys := by
  refine List.forall₂_iff_zip.mpr ⟨related.length_eq, fun {a b} pair => ?_⟩
  obtain ⟨left, right⟩ := List.of_mem_zip pair
  exact each left right (List.forall₂_zip related pair)

/-- Values compared by `==`: two are equal when their representatives are the same. -/
class PyEq (α : Type) where
  norm : α → α

namespace PyEq

def Same {α : Type} [PyEq α] (a b : α) : Prop := norm a = norm b

instance {α : Type} [PyEq α] [DecidableEq α] (a b : α) : Decidable (Same a b) :=
  inferInstanceAs (Decidable (norm a = norm b))

instance {α : Type} [PyEq α] : PyEq (List α) := ⟨List.map norm⟩
instance {α : Type} [PyEq α] : PyEq (Option α) := ⟨Option.map norm⟩

section
variable {α : Type} [PyEq α]

@[refl] theorem Same.refl (a : α) : Same a a := rfl
theorem Same.symm {a b : α} (h : Same a b) : Same b a := Eq.symm h
theorem Same.trans {a b c : α} (h : Same a b) (k : Same b c) : Same a c := Eq.trans h k

theorem Same.congr {β : Type} {a b : α} (h : Same a b) (f : α → β)
    (kept : ∀ x, f (norm x) = f x) : f a = f b := by
  rw [← kept a, ← kept b, show norm a = norm b from h]

theorem same_iff_forall₂ {xs ys : List α} : Same xs ys ↔ List.Forall₂ Same xs ys := by
  have maps : Same xs ys ↔ List.Forall₂ (· = ·) (xs.map norm) (ys.map norm) := by
    rw [List.forall₂_eq_eq_eq]; rfl
  rw [maps, List.forall₂_map_left_iff, List.forall₂_map_right_iff]
  rfl

/-- `after[: len(before)] == before`: the later history begins with the earlier one. -/
def Extends (before after : List α) : Prop := Same (after.take before.length) before

instance [DecidableEq α] (before after : List α) : Decidable (Extends before after) :=
  inferInstanceAs (Decidable (Same _ _))

theorem extends_iff {before after : List α} :
    Extends before after ↔ before.map norm <+: after.map norm := by
  have size : (before.map (norm (α := α))).length = before.length := List.length_map _
  constructor
  · intro h
    have cut : (after.map norm).take before.length = before.map norm := by
      rw [← List.map_take]; exact h
    exact cut ▸ List.take_prefix _ _
  · intro h
    have cut := (List.prefix_iff_eq_take.mp h).symm
    rw [size] at cut
    rw [← List.map_take] at cut
    exact cut

theorem extends_refl (xs : List α) : Extends xs xs := by
  simp [Extends, Same]

theorem extends_trans {xs ys zs : List α} (h : Extends xs ys) (k : Extends ys zs) :
    Extends xs zs :=
  extends_iff.mpr ((extends_iff.mp h).trans (extends_iff.mp k))

theorem extends_append (xs ys : List α) : Extends xs (xs ++ ys) := by
  simp [Extends, Same]

theorem Extends.length {xs ys : List α} (h : Extends xs ys) : xs.length ≤ ys.length := by
  simpa using (extends_iff.mp h).length_le

theorem Extends.same {xs ys : List α} (h : Extends xs ys) (size : ys.length = xs.length) :
    Same ys xs := by
  unfold Extends at h
  rwa [← size, List.take_length] at h

theorem Extends.mem {xs ys : List α} (h : Extends xs ys) {x : α} (member : x ∈ xs) :
    ∃ y ∈ ys, Same y x := by
  have kept : norm x ∈ ys.map norm := (extends_iff.mp h).subset (List.mem_map_of_mem member)
  obtain ⟨y, hy, same⟩ := List.mem_map.mp kept
  exact ⟨y, hy, same⟩

end
end PyEq
