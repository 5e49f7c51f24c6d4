import NetworkAgent.Domain.Redaction
import NetworkAgent.Supervisor.Canonical

/-! The supervisor's own detector of subscriber identifiers, a loop over a stack of values that
still have to be looked at. It raises exactly where the domain's detector reports a path. -/
namespace NetworkAgent.Supervisor

def sensitiveKeyNames : List String :=
  ["imsi", "msisdn", "imei", "imeisv", "supi", "suci", "subscriberid", "subscriberidentity",
    "subscriberpermanentidentifier", "subscriptionconcealedidentifier"]

def labeledSubscriberId (p : Python) (s : String) : Bool := labeledIdentifier p.toHost s

def tellsIdentity (key : String) (nested : Json) : Bool :=
  sensitiveKeyNames.contains (normalizedKey key) && !isEmptyValue nested

/-- The names of an object are checked in the order of its items; its values go onto the stack. -/
def pushFields (p : Python) : List (String × Json) → List Json → Check (List Json)
  | [], stack => .ok stack
  | (key, nested) :: rest, stack => do
    Checks.require (key.length ≤ maxIdChars) (.invalid "canonical payload has invalid field name")
    Checks.require (labeledSubscriberId p key = false ∧ tellsIdentity key nested = false)
      (.invalid "sensitive subscriber data is not allowed")
    pushFields p rest (nested :: stack)

/-- One turn of the loop: from the value taken off the stack to the stack it leaves. -/
def inspect (p : Python) (current : Json) (stack : List Json) : Check (List Json) :=
  match current with
  | .obj fields => pushFields p fields stack
  | .arr items => .ok (items.reverse ++ stack)
  | .str s => do
    Checks.require (s.length ≤ maxTextChars) (.invalid "canonical string exceeds the limit")
    Checks.require (labeledSubscriberId p s = false)
      (.invalid "sensitive subscriber data is not allowed")
    return stack
  | .null | .bool _ | .int _ | .float _ => .ok stack

/-! Each turn leaves less to look at. -/

noncomputable def weight (stack : List Json) : Nat := (stack.map sizeOf).sum

theorem weight_items (items : List Json) : weight items < sizeOf items := by
  induction items with
  | nil => simp [weight]
  | cons x rest ih =>
    simp only [weight, List.map_cons, List.sum_cons, List.cons.sizeOf_spec] at ih ⊢
    omega

theorem weight_append (first second : List Json) :
    weight (first ++ second) = weight first + weight second := by
  simp [weight]

theorem weight_reverse (items : List Json) : weight items.reverse = weight items := by
  simp [weight]

theorem weight_pushFields {p : Python} {fields : List (String × Json)} {stack rest : List Json}
    (pushed : pushFields p fields stack = .ok rest) : weight rest < sizeOf fields + weight stack := by
  induction fields generalizing stack with
  | nil =>
    cases pushed
    simp
  | cons f fields ih =>
    obtain ⟨key, nested⟩ := f
    simp only [pushFields, Checks.seq_ok] at pushed
    have later := ih pushed.2.2
    simp only [weight, List.map_cons, List.sum_cons, List.cons.sizeOf_spec,
      Prod.mk.sizeOf_spec] at later ⊢
    omega

theorem weight_inspect {p : Python} {current : Json} {stack rest : List Json}
    (turn : inspect p current stack = .ok rest) : weight rest < weight (current :: stack) := by
  have whole : weight (current :: stack) = sizeOf current + weight stack := by simp [weight]
  rw [whole]
  cases current with
  | obj fields =>
    have pushed := weight_pushFields turn
    simp only [Json.obj.sizeOf_spec]
    omega
  | arr items =>
    cases turn
    have inside := weight_items items
    simp only [weight_append, weight_reverse, Json.arr.sizeOf_spec]
    omega
  | str s =>
    simp only [inspect, Checks.seq_ok] at turn
    cases turn.2.2
    simp only [Json.str.sizeOf_spec]
    omega
  | null | bool | int | float =>
    cases turn
    simp only [Json.null.sizeOf_spec, Json.bool.sizeOf_spec, Json.int.sizeOf_spec,
      Json.float.sizeOf_spec]
    omega

/-- `_reject_sensitive_or_oversized_strings`, from any stack on. -/
def drain (p : Python) : List Json → Check Unit
  | [] => .ok ()
  | current :: stack =>
    match _turn : inspect p current stack with
    | .error e => .error e
    | .ok rest => drain p rest
termination_by stack => weight stack
decreasing_by exact weight_inspect _turn

def rejectStacked (p : Python) (value : Json) : Check Unit := drain p [value]

/-! What a turn takes off the stack passes together with what it leaves there. -/

def Passes (p : Python) (value : Json) : Prop :=
  boundedStrings value = true ∧ findSensitivePaths p.toHost "$" value = []

theorem quiet_iff {h : Host} {path other : String} {v : Json} :
    findSensitivePaths h path v = [] ↔ findSensitivePaths h other v = [] :=
  ⟨quiet_path h path other v, quiet_path h other path v⟩

theorem tellsIdentity_eq (key : String) (nested : Json) :
    tellsIdentity key nested = (isSensitiveKey key && !isEmptyValue nested) := rfl

theorem passes_str {p : Python} {s : String} :
    Passes p (.str s) ↔ s.length ≤ maxTextChars ∧ labeledSubscriberId p s = false := by
  simp [Passes, boundedStrings, findSensitivePaths, labeledSubscriberId]

theorem quietItems_iff {h : Host} {path : String} {n : Nat} {items : List Json} :
    sensitiveItems h path n items = [] ↔ ∀ x ∈ items, findSensitivePaths h "$" x = [] := by
  induction items generalizing n with
  | nil => simp [sensitiveItems]
  | cons x rest ih =>
    simp only [sensitiveItems, List.append_eq_nil_iff, ih, List.forall_mem_cons]
    rw [quiet_iff]

theorem boundedItems_iff {items : List Json} :
    boundedItems items = true ↔ ∀ x ∈ items, boundedStrings x = true := by
  induction items with
  | nil => simp [boundedItems]
  | cons x rest ih => simp [boundedItems, ih]

theorem passes_arr {p : Python} {items : List Json} :
    Passes p (.arr items) ↔ ∀ x ∈ items, Passes p x := by
  simp only [Passes, boundedStrings, findSensitivePaths, boundedItems_iff, quietItems_iff]
  exact forall₂_and.symm

theorem passes_obj_nil {p : Python} : Passes p (.obj []) := by
  simp [Passes, boundedStrings, boundedFields, findSensitivePaths, sensitiveFields]

theorem passes_obj_cons {p : Python} {key : String} {nested : Json}
    {rest : List (String × Json)} :
    Passes p (.obj ((key, nested) :: rest)) ↔
      key.length ≤ maxIdChars ∧
        (labeledSubscriberId p key = false ∧ tellsIdentity key nested = false) ∧
        Passes p nested ∧ Passes p (.obj rest) := by
  have silent : ∀ path, (if labeledIdentifier p.toHost key then [path ++ ".<sensitive-key>"]
      else if isSensitiveKey key && !isEmptyValue nested then [path ++ "." ++ key]
      else findSensitivePaths p.toHost (path ++ "." ++ key) nested) = [] ↔
      (labeledSubscriberId p key = false ∧ tellsIdentity key nested = false) ∧
        findSensitivePaths p.toHost "$" nested = [] := by
    intro path
    rw [tellsIdentity_eq, labeledSubscriberId, @quiet_iff _ _ (path ++ "." ++ key)]
    cases labeledIdentifier p.toHost key <;> cases isSensitiveKey key && !isEmptyValue nested <;>
      simp
  have quiet : sensitiveFields p.toHost "$" ((key, nested) :: rest) = [] ↔
      ((labeledSubscriberId p key = false ∧ tellsIdentity key nested = false) ∧
        findSensitivePaths p.toHost "$" nested = []) ∧ sensitiveFields p.toHost "$" rest = [] := by
    rw [sensitiveFields, List.append_eq_nil_iff, silent]
  simp only [Passes, boundedStrings, boundedFields, findSensitivePaths, quiet, Bool.and_eq_true,
    decide_eq_true_eq]
  tauto

theorem pushFields_ok {p : Python} {fields : List (String × Json)} {stack rest : List Json}
    (pushed : pushFields p fields stack = .ok rest) :
    (∀ x ∈ rest, Passes p x) ↔ Passes p (.obj fields) ∧ ∀ x ∈ stack, Passes p x := by
  induction fields generalizing stack with
  | nil =>
    cases pushed
    simp [passes_obj_nil]
  | cons f fields ih =>
    obtain ⟨key, nested⟩ := f
    simp only [pushFields, Checks.seq_ok, Checks.require_ok] at pushed
    obtain ⟨short, quiet, later⟩ := pushed
    rw [ih later, passes_obj_cons, List.forall_mem_cons]
    tauto

theorem pushFields_error {p : Python} {fields : List (String × Json)} {stack : List Json}
    {e : ContentError} (raised : pushFields p fields stack = .error e) :
    ¬ Passes p (.obj fields) := by
  induction fields generalizing stack with
  | nil => cases raised
  | cons f fields ih =>
    obtain ⟨key, nested⟩ := f
    rw [passes_obj_cons]
    rintro ⟨short, quiet, _, later⟩
    simp only [pushFields, Checks.require, short, quiet, and_self, if_true] at raised
    exact ih raised later

theorem inspect_ok {p : Python} {current : Json} {stack rest : List Json}
    (turn : inspect p current stack = .ok rest) :
    (∀ x ∈ rest, Passes p x) ↔ ∀ x ∈ current :: stack, Passes p x := by
  rw [List.forall_mem_cons]
  cases current with
  | obj fields => exact pushFields_ok turn
  | arr items =>
    cases turn
    simp only [List.forall_mem_append, List.mem_reverse, passes_arr]
  | str s =>
    simp only [inspect, Checks.seq_ok, Checks.require_ok] at turn
    obtain ⟨short, quiet, same⟩ := turn
    cases same
    exact ⟨fun every => ⟨passes_str.mpr ⟨short, quiet⟩, every⟩, And.right⟩
  | null | bool | int | float =>
    cases turn
    simp [Passes, boundedStrings, findSensitivePaths]

theorem inspect_error {p : Python} {current : Json} {stack : List Json} {e : ContentError}
    (raised : inspect p current stack = .error e) : ¬ Passes p current := by
  cases current with
  | obj fields => exact pushFields_error raised
  | str s =>
    intro passes
    obtain ⟨short, quiet⟩ := passes_str.mp passes
    simp [inspect, Checks.require, short, quiet, Bind.bind, Except.bind, pure, Except.pure] at raised
  | arr items => cases raised
  | null | bool | int | float => cases raised

theorem drain_ok {p : Python} {stack : List Json} :
    drain p stack = .ok () ↔ ∀ x ∈ stack, Passes p x := by
  induction stack using drain.induct p with
  | case1 => simp [drain]
  | case2 current stack e raised =>
    have refused := inspect_error raised
    rw [drain]
    split
    · simp [refused]
    · rename_i rest turn
      rw [raised] at turn
      cases turn
  | case3 current stack rest turn ih =>
    rw [← inspect_ok turn, ← ih, drain]
    split
    · rename_i e raised
      rw [raised] at turn
      cases turn
    · rename_i other again
      rw [turn] at again
      cases again
      rfl

theorem rejectStacked_ok {p : Python} {value : Json} :
    rejectStacked p value = .ok () ↔ rejectSensitiveOrOversizedStrings p value = .ok () := by
  rw [rejectStacked, drain_ok, rejectSensitive_ok, List.forall_mem_singleton, Passes]

/-- Within the limits on texts and names, the loop raises exactly where a path is reported. -/
theorem detectors_agree (p : Python) (value : Json) (bounded : boundedStrings value = true) :
    (∃ e, rejectStacked p value = .error e) ↔ findSensitivePaths p.toHost "$" value ≠ [] := by
  have accepted : rejectStacked p value = .ok () ↔ findSensitivePaths p.toHost "$" value = [] := by
    rw [rejectStacked_ok, rejectSensitive_ok]
    exact and_iff_right bounded
  rw [ne_eq, ← accepted]
  cases rejectStacked p value <;> simp

theorem detectors_agree_nested :
    ∃ e, rejectStacked Python.ascii (.obj [("kpis", .arr [.obj [("IM-SI", .int 7)]])]) = .error e :=
  (detectors_agree _ _ (by decide)).mpr (by decide)

end NetworkAgent.Supervisor
