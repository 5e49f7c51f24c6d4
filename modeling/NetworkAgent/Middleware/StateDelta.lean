import Mathlib.Algebra.Order.BigOperators.Group.List
import Mathlib.Algebra.Order.Group.Nat
import NetworkAgent.Library.JsonPatch
import NetworkAgent.Middleware.EventStream

/-! The patch of a state delta, applied to the state of a client. The keys of the delta are written
into pointers as they are. -/
namespace NetworkAgent.Middleware
open JsonPatch (Plain pointer add apply applyOperation)
open Items (setItem setItems lookup_item lookup_setItem)

def AgUiEvent.patch : AgUiEvent → List Json
  | .stateDelta delta => delta
  | _ => []

def deltaPatch (delta : List (String × Json)) : List Json := (createStateDeltaEvent delta).patch

/-- The members of the state, those that the delta names with its values. -/
def Updated (state delta members : List (String × Json)) : Prop :=
  ∀ key, members.lookup key = (delta.lookup key).or (state.lookup key)

def Updates (delta : List (String × Json)) : Prop :=
  ∀ state, ∃ members, apply (deltaPatch delta) (.obj state) = some (.obj members) ∧
    Updated state delta members

theorem deltaPatch_cons (key : String) (value : Json) (rest : List (String × Json)) :
    deltaPatch ((key, value) :: rest) =
      .obj [("op", .str "add"), ("path", .str ("/" ++ key)), ("value", value)] ::
        deltaPatch rest := rfl

theorem applyOperation_add (document value : Json) (path : String) :
    applyOperation document (.obj [("op", .str "add"), ("path", .str path), ("value", value)]) =
      (pointer path).bind fun tokens => add value tokens document := rfl

theorem lookup_eq_none {members : List (String × Json)} {key : String} :
    members.lookup key = none ↔ key ∉ members.map Prod.fst := by
  simp only [List.lookup_eq_none_iff, bne_iff_ne, ne_eq, List.mem_map, not_exists, not_and]
  exact ⟨fun differ entry member same => differ entry member same.symm,
    fun absent entry member same => absent entry member same.symm⟩

/-! Keys without `/` and `~`. -/

theorem apply_plain {delta : List (String × Json)} (plain : ∀ entry ∈ delta, Plain entry.1)
    (state : List (String × Json)) :
    apply (deltaPatch delta) (.obj state) = some (.obj (setItems state delta)) := by
  induction delta generalizing state with
  | nil => rfl
  | cons entry rest ih =>
    obtain ⟨first, others⟩ := List.forall_mem_cons.mp plain
    rw [deltaPatch_cons, JsonPatch.apply_cons]
    refine ⟨.obj (setItem state entry.1 entry.2), ?_, ih others _⟩
    rw [applyOperation_add, JsonPatch.pointer_plain first]
    rfl

theorem updated_setItems {delta : List (String × Json)} (distinct : (delta.map Prod.fst).Nodup)
    (state : List (String × Json)) : Updated state delta (setItems state delta) := by
  induction delta generalizing state with
  | nil => exact fun key => rfl
  | cons entry rest ih =>
    obtain ⟨fresh, later⟩ := List.nodup_cons.mp distinct
    intro key
    rw [setItems, List.foldl_cons, ← setItems, ih later, lookup_setItem, lookup_item]
    by_cases same : key = entry.1
    · subst same
      simp [lookup_eq_none.mpr fresh]
    · simp [same]

/-! Keys that address another place. -/

theorem members_of_apply {delta : List (String × Json)} {state : List (String × Json)}
    {result : Json} (applied : apply (deltaPatch delta) (.obj state) = some result) :
    ∃ members, result = .obj members ∧ ∀ k ∈ members.map Prod.fst, k ∈ state.map Prod.fst ∨
      ∃ entry ∈ delta, pointer ("/" ++ entry.1) = some [k] := by
  induction delta generalizing state with
  | nil =>
    cases applied
    exact ⟨state, rfl, fun k member => .inl member⟩
  | cons entry rest ih =>
    rw [deltaPatch_cons, JsonPatch.apply_cons] at applied
    obtain ⟨next, first, later⟩ := applied
    rw [applyOperation_add, Option.bind_eq_some_iff] at first
    obtain ⟨tokens, read, added⟩ := first
    cases tokens with
    | nil => exact absurd read (JsonPatch.pointer_ne_nil entry.1)
    | cons token others =>
      obtain ⟨fields, rfl, keys⟩ := JsonPatch.add_members added
      obtain ⟨members, rfl, known⟩ := ih later
      refine ⟨members, rfl, fun k member => ?_⟩
      rcases known k member with old | ⟨other, inside, single⟩
      · refine (keys k old).imp_right ?_
        rintro ⟨rfl, rfl⟩
        exact ⟨entry, List.mem_cons_self, read⟩
      · exact .inr ⟨other, List.mem_cons_of_mem entry inside, single⟩

/-- Where the patch updates the empty state, a key that is not plain is what a longer key, not
plain either, stands for. -/
theorem longer_key {delta : List (String × Json)} (updates : Updates delta)
    {entry : String × Json} (member : entry ∈ delta) (special : ¬ Plain entry.1) :
    ∃ other ∈ delta, ¬ Plain other.1 ∧ entry.1.length < other.1.length := by
  obtain ⟨members, applied, updated⟩ := updates []
  obtain ⟨members', same, known⟩ := members_of_apply applied
  cases same
  have present : entry.1 ∈ members.map Prod.fst := by
    have value := updated entry.1
    rw [List.lookup_nil, Option.or_none] at value
    by_contra absent
    rw [lookup_eq_none.mpr absent] at value
    exact lookup_eq_none.mp value.symm (List.mem_map_of_mem member)
  obtain ⟨other, inside, single⟩ := (known _ present).resolve_left (by simp)
  obtain ⟨whole, read⟩ := JsonPatch.pointer_single single
  have size := JsonPatch.unescape_length read
  have escaped : '~' ∈ other.1.toList := by
    by_contra free
    rw [JsonPatch.unescape_plain free] at read
    exact special (String.toList_inj.mp (Option.some.inj read) ▸ ⟨whole, free⟩)
  have some := List.count_pos_iff.mpr escaped
  rw [String.length_toList, String.length_toList] at size
  exact ⟨other, inside, fun plain => plain.2 escaped, by omega⟩

theorem plain_of_updates {delta : List (String × Json)} (updates : Updates delta) :
    ∀ entry ∈ delta, Plain entry.1 := by
  intro entry member
  by_contra special
  have long : ∀ n, ∃ other ∈ delta, ¬ Plain other.1 ∧ n ≤ other.1.length := by
    intro n
    induction n with
    | zero => exact ⟨entry, member, special, Nat.zero_le _⟩
    | succ n ih =>
      obtain ⟨other, inside, special', size⟩ := ih
      obtain ⟨next, inside', special'', longer⟩ := longer_key updates inside special'
      exact ⟨next, inside', special'', by omega⟩
  obtain ⟨other, inside, -, size⟩ := long ((delta.map fun e => e.1.length).sum + 1)
  have bound : other.1.length ≤ (delta.map fun e => e.1.length).sum :=
    List.le_sum_of_mem (List.mem_map.mpr ⟨other, inside, rfl⟩)
  omega

/-- The patch updates every state just when no key of the delta holds `/` or `~`. -/
theorem state_delta_updates_iff {delta : List (String × Json)}
    (distinct : (delta.map Prod.fst).Nodup) :
    Updates delta ↔ ∀ entry ∈ delta, Plain entry.1 :=
  ⟨plain_of_updates, fun plain state =>
    ⟨_, apply_plain plain state, updated_setItems distinct state⟩⟩

theorem state_delta_updates_sample :
    Updates [("mood", .str "calm"), ("", .int 1)] ↔
      ∀ entry ∈ [("mood", Json.str "calm"), ("", .int 1)], Plain entry.1 :=
  state_delta_updates_iff (by decide)

/-- A key with `/` addresses a member of a member that is not there. -/
theorem slash_addresses_elsewhere :
    apply (deltaPatch [("user/name", .str "Ada")]) (.obj []) = none ∧
    ¬ Updates [("user/name", .str "Ada")] := by
  have fails : apply (deltaPatch [("user/name", .str "Ada")]) (.obj []) = none := by decide +kernel
  refine ⟨fails, fun updates => ?_⟩
  obtain ⟨members, applied, -⟩ := updates []
  rw [fails] at applied
  cases applied

end NetworkAgent.Middleware
