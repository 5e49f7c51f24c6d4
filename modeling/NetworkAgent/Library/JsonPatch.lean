import NetworkAgent.Library.Items

/-! Patches of a JSON document by the operation `add`, whose places are JSON pointers. A pointer is
a `/` before each of its tokens; in a token `~1` stands for `/` and `~0` for `~`. -/
namespace JsonPatch
open Items (setItem setItem_keys)

def unescape : List Char → Option (List Char)
  | [] => some []
  | '~' :: '0' :: rest => ('~' :: ·) <$> unescape rest
  | '~' :: '1' :: rest => ('/' :: ·) <$> unescape rest
  | '~' :: _ => none
  | c :: rest => (c :: ·) <$> unescape rest

/-- The tokens of a pointer; the whole document has none. -/
def pointer (path : String) : Option (List String) :=
  match path.toList with
  | [] => some []
  | '/' :: rest => ((rest.splitOn '/').mapM unescape).map fun tokens => tokens.map String.ofList
  | _ => none

/-- A place in an array: decimal digits without a leading zero. -/
def arrayIndex (token : String) : Option Nat :=
  let digits := token.toList
  if digits ≠ [] ∧ digits.all Char.isDigit = true ∧
      (digits.length = 1 ∨ digits.head? ≠ some '0') then
    some (Nat.ofDigitChars 10 digits 0)
  else none

/-- Place the value in a container: a member is added or replaced, an element is inserted. -/
def place (token : String) (value : Json) : Json → Option Json
  | .obj fields => some (.obj (setItem fields token value))
  | .arr items =>
    if token = "-" then some (.arr (items ++ [value]))
    else match arrayIndex token with
      | some i => if i ≤ items.length then some (.arr (items.insertIdx i value)) else none
      | none => none
  | _ => none

def add (value : Json) : List String → Json → Option Json
  | [], _ => some value
  | [token], document => place token value document
  | token :: rest, .obj fields => do
    let child ← fields.lookup token
    let child ← add value rest child
    return .obj (setItem fields token child)
  | token :: rest, .arr items => do
    let i ← arrayIndex token
    let child ← items[i]?
    let child ← add value rest child
    return .arr (items.set i child)
  | _, _ => none

/-- One operation; operations other than `add` are not read. -/
def applyOperation (document operation : Json) : Option Json :=
  match operation with
  | .obj fields =>
    match fields.lookup "op", fields.lookup "path", fields.lookup "value" with
    | some (.str "add"), some (.str path), some value => do add value (← pointer path) document
    | _, _, _ => none
  | _ => none

/-- The operations in order; one that fails fails the patch. -/
def apply (patch : List Json) (document : Json) : Option Json :=
  patch.foldlM applyOperation document

/-! A token that stands for itself. -/

def Plain (key : String) : Prop := '/' ∉ key.toList ∧ '~' ∉ key.toList

instance (key : String) : Decidable (Plain key) := inferInstanceAs (Decidable (_ ∧ _))

theorem unescape_cons {c : Char} {rest : List Char} (plain : c ≠ '~') :
    unescape (c :: rest) = (c :: ·) <$> unescape rest := by
  rw [unescape.eq_def]
  split <;> simp_all

theorem unescape_plain {cs : List Char} (plain : '~' ∉ cs) : unescape cs = some cs := by
  induction cs with
  | nil => rfl
  | cons c rest ih =>
    rw [List.mem_cons, not_or] at plain
    rw [unescape_cons (Ne.symm plain.1), ih plain.2]
    rfl

theorem unescape_length {cs token : List Char} (read : unescape cs = some token) :
    token.length + cs.count '~' = cs.length := by
  fun_induction unescape cs generalizing token with
  | case1 =>
    cases read
    rfl
  | case2 rest ih =>
    obtain ⟨tail, known, rfl⟩ := Option.map_eq_some_iff.mp read
    have size := ih known
    simp
    omega
  | case3 rest ih =>
    obtain ⟨tail, known, rfl⟩ := Option.map_eq_some_iff.mp read
    have size := ih known
    simp
    omega
  | case4 => cases read
  | case5 c rest _ _ plain ih =>
    obtain ⟨tail, known, rfl⟩ := Option.map_eq_some_iff.mp read
    have size := ih known
    have other : c ≠ '~' := by
      rintro rfl
      exact plain rfl
    rw [List.count_cons_of_ne other, List.length_cons, List.length_cons]
    omega

theorem pointer_key (key : String) : pointer ("/" ++ key) =
    ((key.toList.splitOn '/').mapM unescape).map fun tokens => tokens.map String.ofList := by
  have start : ("/" ++ key).toList = '/' :: key.toList := String.toList_append
  rw [pointer, start]
  rfl

theorem pointer_ne_nil (key : String) : pointer ("/" ++ key) ≠ some [] := by
  rw [pointer_key]
  intro read
  obtain ⟨tokens, known, same⟩ := Option.map_eq_some_iff.mp read
  rw [List.map_eq_nil_iff.mp same] at known
  cases parts : key.toList.splitOn '/' with
  | nil => exact List.splitOn_ne_nil _ _ parts
  | cons a others =>
    rw [parts, List.mapM_cons] at known
    simp only [Option.pure_def, Option.bind_eq_bind, Option.bind_eq_some_iff] at known
    obtain ⟨x, -, xs, -, none⟩ := known
    cases none

theorem pointer_plain {key : String} (plain : Plain key) : pointer ("/" ++ key) = some [key] := by
  rw [pointer_key, List.splitOn_eq_singleton plain.1, List.mapM_cons, unescape_plain plain.2]
  simp

/-- A pointer of one token is a key without `/`, its escapes read. -/
theorem pointer_single {key token : String} (read : pointer ("/" ++ key) = some [token]) :
    '/' ∉ key.toList ∧ unescape key.toList = some token.toList := by
  rw [pointer_key] at read
  obtain ⟨tokens, known, same⟩ := Option.map_eq_some_iff.mp read
  have whole : '/' ∉ key.toList := by
    intro inside
    obtain ⟨front, back, split, fresh⟩ := List.eq_append_cons_of_mem inside
    rw [split, List.splitOn_append_cons_self_of_not_mem fresh] at known
    cases parts : back.splitOn '/' with
    | nil => exact List.splitOn_ne_nil _ _ parts
    | cons a others =>
      rw [parts] at known
      simp only [List.mapM_cons, Option.pure_def, Option.bind_eq_bind, Option.bind_eq_some_iff,
        Option.some.injEq] at known
      obtain ⟨x, _, _, ⟨y, _, zs, _, rfl⟩, rfl⟩ := known
      simp at same
  refine ⟨whole, ?_⟩
  rw [List.splitOn_eq_singleton whole] at known
  simp only [List.mapM_cons, List.mapM_nil, Option.pure_def, Option.bind_eq_bind,
    Option.bind_eq_some_iff, Option.some.injEq] at known
  obtain ⟨x, own, _, rfl, rfl⟩ := known
  rw [own]
  simp only [List.map_cons, List.map_nil, List.cons.injEq, and_true] at same
  rw [← same, String.toList_ofList]

/-! The members of an object. -/

theorem apply_cons {operation : Json} {rest : List Json} {document result : Json} :
    apply (operation :: rest) document = some result ↔
      ∃ next, applyOperation document operation = some next ∧ apply rest next = some result := by
  rw [apply, List.foldlM_cons, Option.bind_eq_bind, Option.bind_eq_some_iff]
  rfl

theorem add_members {value result : Json} {token : String} {rest : List String}
    {fields : List (String × Json)} (added : add value (token :: rest) (.obj fields) = some result) :
    ∃ members, result = .obj members ∧
      ∀ k ∈ members.map Prod.fst, k ∈ fields.map Prod.fst ∨ rest = [] ∧ k = token := by
  have keys : ∀ v, ∀ k ∈ (setItem fields token v).map Prod.fst,
      k ∈ fields.map Prod.fst ∨ k = token := fun v k member => by
    rw [setItem_keys] at member
    split at member
    · exact .inl member
    · exact (List.mem_append.mp member).imp_right List.mem_singleton.mp
  cases rest with
  | nil =>
    cases added
    exact ⟨_, rfl, fun k member => (keys value k member).imp_right fun same => ⟨rfl, same⟩⟩
  | cons next rest =>
    simp only [add, Option.bind_eq_bind, Option.bind_eq_some_iff, Option.pure_def,
      Option.some.injEq] at added
    obtain ⟨child, known, child', -, rfl⟩ := added
    refine ⟨_, rfl, fun k member => .inl ?_⟩
    rcases keys child' k member with old | rfl
    · exact old
    · obtain ⟨front, back, split, -⟩ := List.lookup_eq_some_iff.mp known
      rw [split]
      simp

end JsonPatch
