import NetworkAgent.Library.Items
import NetworkAgent.Library.JsonText
import NetworkAgent.Domain.Identifiers

/-! The redacted copy of a value, against the paths that the detector reports. -/
namespace NetworkAgent
open Items (setItem setItems lastItems setItems_nodup setItems_fresh mem_setItems lastItems_subset)

def redactedKey (h : Host) (key : String) : String :=
  if labeledIdentifier h key then redacted else key

mutual
def redactSensitiveData (h : Host) : Json → Json
  | .str s => .str (redactText h s)
  | .arr items => .arr (redactItems h items)
  | .obj fields => .obj (redactFields h [] fields)
  | v => v
def redactItems (h : Host) : List Json → List Json
  | [] => []
  | x :: xs => redactSensitiveData h x :: redactItems h xs
def redactFields (h : Host) (done : List (String × Json)) :
    List (String × Json) → List (String × Json)
  | [] => done
  | (key, x) :: xs =>
    redactFields h
      (setItem done (redactedKey h key)
        (if isSensitiveKey key && !isEmptyValue x then .str redacted
         else redactSensitiveData h x)) xs
end

mutual
def DistinctKeys : Json → Prop
  | .arr items => DistinctItems items
  | .obj fields => (fields.map Prod.fst).Nodup ∧ DistinctFields fields
  | _ => True
def DistinctItems : List Json → Prop
  | [] => True
  | x :: xs => DistinctKeys x ∧ DistinctItems xs
def DistinctFields : List (String × Json) → Prop
  | [] => True
  | (_, x) :: xs => DistinctKeys x ∧ DistinctFields xs
end

/-- The values inside a value, itself among them. -/
inductive Subtree : Json → Json → Prop where
  | self (v : Json) : Subtree v v
  | item {w x : Json} {items : List Json} (inside : x ∈ items) (sub : Subtree w x) :
      Subtree w (.arr items)
  | field {w : Json} {f : String × Json} {fields : List (String × Json)} (inside : f ∈ fields)
      (sub : Subtree w f.2) : Subtree w (.obj fields)

mutual
/-- A sensitive key that is no labelled identifier itself keeps its name beside the mark. Of the
items whose keys are replaced the last one stays. -/
def exposed (h : Host) : Json → Bool
  | .arr items => exposedItems h items
  | .obj fields => exposedFields h fields
  | _ => false
def exposedItems (h : Host) : List Json → Bool
  | [] => false
  | x :: xs => exposed h x || exposedItems h xs
def exposedFields (h : Host) : List (String × Json) → Bool
  | [] => false
  | (key, x) :: xs =>
    (!(xs.any fun f => redactedKey h f.1 == redactedKey h key) &&
        if isSensitiveKey key && !isEmptyValue x then !labeledIdentifier h key
        else exposed h x) ||
      exposedFields h xs
end

/-! Member by member. -/

theorem distinctItems_iff {items : List Json} : DistinctItems items ↔ ∀ x ∈ items, DistinctKeys x := by
  induction items with
  | nil => simp [DistinctItems]
  | cons x xs ih => simp [DistinctItems, ih]

theorem distinctFields_iff {fields : List (String × Json)} :
    DistinctFields fields ↔ ∀ f ∈ fields, DistinctKeys f.2 := by
  induction fields with
  | nil => simp [DistinctFields]
  | cons f fields ih => simp only [DistinctFields, ih, List.forall_mem_cons]

theorem DistinctKeys.subtree {v w : Json} (distinct : DistinctKeys v) (sub : Subtree w v) :
    DistinctKeys w := by
  induction sub with
  | self => exact distinct
  | item inside _ ih => exact ih (distinctItems_iff.mp distinct _ inside)
  | field inside _ ih => exact ih (distinctFields_iff.mp distinct.2 _ inside)

theorem exposedItems_eq (h : Host) (items : List Json) :
    exposedItems h items = items.any (exposed h) := by
  induction items with
  | nil => rfl
  | cons x xs ih => rw [exposedItems, ih, List.any_cons]

theorem redactItems_eq (h : Host) (items : List Json) :
    redactItems h items = items.map (redactSensitiveData h) := by
  induction items with
  | nil => rfl
  | cons x xs ih => rw [redactItems, ih, List.map_cons]

def redactedItem (h : Host) (f : String × Json) : String × Json :=
  (redactedKey h f.1,
    if isSensitiveKey f.1 && !isEmptyValue f.2 then .str redacted else redactSensitiveData h f.2)

theorem redactFields_eq (h : Host) (done fields : List (String × Json)) :
    redactFields h done fields = setItems done (fields.map (redactedItem h)) := by
  induction fields generalizing done with
  | nil => rfl
  | cons f fields ih => exact ih _

mutual
theorem quiet_path (h : Host) (path other : String) : ∀ v, findSensitivePaths h path v = [] →
    findSensitivePaths h other v = []
  | .null, _ | .bool _, _ | .int _, _ | .float _, _ => rfl
  | .str s, quiet => by
    unfold findSensitivePaths at quiet ⊢
    split at quiet <;> simp_all
  | .arr items, quiet => quiet_items h path other 0 0 items quiet
  | .obj fields, quiet => quiet_fields h path other fields quiet
theorem quiet_items (h : Host) (path other : String) (i j : Nat) : ∀ items,
    sensitiveItems h path i items = [] → sensitiveItems h other j items = []
  | [], _ => rfl
  | x :: xs, quiet => by
    obtain ⟨first, rest⟩ := List.append_eq_nil_iff.mp quiet
    exact List.append_eq_nil_iff.mpr ⟨quiet_path h _ _ x first, quiet_items h path other _ _ xs rest⟩
theorem quiet_fields (h : Host) (path other : String) : ∀ fields,
    sensitiveFields h path fields = [] → sensitiveFields h other fields = []
  | [], _ => rfl
  | (key, x) :: xs, quiet => by
    obtain ⟨first, rest⟩ := List.append_eq_nil_iff.mp quiet
    refine List.append_eq_nil_iff.mpr ⟨?_, quiet_fields h path other xs rest⟩
    split at first
    · cases first
    · rename_i unlabelled
      rw [if_neg unlabelled]
      split at first
      · cases first
      · rename_i plain
        rw [if_neg plain]
        exact quiet_path h _ _ x first
end

theorem quiet_arr {h : Host} {items : List Json} :
    findSensitivePaths h "$" (.arr items) = [] ↔
      ∀ x ∈ items, findSensitivePaths h "$" x = [] := by
  rw [findSensitivePaths]
  generalize 0 = index
  induction items generalizing index with
  | nil => simp [sensitiveItems]
  | cons x xs ih =>
    rw [sensitiveItems, List.append_eq_nil_iff, ih, List.forall_mem_cons]
    exact and_congr_left fun _ => ⟨quiet_path h _ _ x, quiet_path h _ _ x⟩

def QuietField (h : Host) (f : String × Json) : Prop :=
  labeledIdentifier h f.1 = false ∧ (isSensitiveKey f.1 && !isEmptyValue f.2) = false ∧
    findSensitivePaths h "$" f.2 = []

theorem quiet_obj {h : Host} {fields : List (String × Json)} :
    findSensitivePaths h "$" (.obj fields) = [] ↔ ∀ f ∈ fields, QuietField h f := by
  rw [findSensitivePaths]
  induction fields with
  | nil => simp [sensitiveFields]
  | cons f fields ih =>
    rw [sensitiveFields, List.append_eq_nil_iff, ih, List.forall_mem_cons]
    refine and_congr_left fun _ => ?_
    unfold QuietField
    cases labeledIdentifier h f.1 with
    | true => simp
    | false =>
      cases isSensitiveKey f.1 && !isEmptyValue f.2 with
      | true => simp
      | false =>
        simp only [Bool.false_eq_true, if_false, true_and]
        exact ⟨quiet_path h _ _ f.2, quiet_path h _ _ f.2⟩

/-! The redacted copy: what it holds, what it leaves alone, and what the detector says of it. -/

theorem redact_fields (h : Host) (fields : List (String × Json)) :
    redactSensitiveData h (.obj fields) = .obj (setItems [] (fields.map (redactedItem h))) := by
  rw [redactSensitiveData, redactFields_eq]

theorem distinct_redact (h : Host) (v : Json) : DistinctKeys (redactSensitiveData h v) := by
  induction v using Json.recOnMembers with
  | atom v scalar => cases v <;> trivial
  | arr items ih =>
    rw [redactSensitiveData, redactItems_eq]
    refine distinctItems_iff.mpr fun x inside => ?_
    obtain ⟨y, member, rfl⟩ := List.mem_map.mp inside
    exact ih y member
  | obj fields ih =>
    rw [redact_fields]
    refine ⟨setItems_nodup (by simp) _, distinctFields_iff.mpr fun g inside => ?_⟩
    rcases (mem_setItems (by simp) _ g).mp inside with ⟨old, -⟩ | last
    · cases old
    · obtain ⟨f, member, rfl⟩ := List.mem_map.mp (lastItems_subset _ last)
      unfold redactedItem
      dsimp only
      split
      · trivial
      · exact ih f member

theorem redact_quiet (h : Host) (v : Json) (distinct : DistinctKeys v)
    (quiet : findSensitivePaths h "$" v = []) : redactSensitiveData h v = v := by
  induction v using Json.recOnMembers with
  | atom v scalar =>
    cases v with
    | str s =>
      rw [redactSensitiveData, redactText_of_quiet]
      by_contra found
      rw [Bool.not_eq_false] at found
      simp [findSensitivePaths, found] at quiet
    | null | bool _ | int _ | float _ => rfl
    | arr _ | obj _ => exact absurd scalar (by simp [Json.kind])
  | arr items ih =>
    have same : items.map (redactSensitiveData h) = items.map id :=
      List.map_congr_left fun x inside =>
        ih x inside (distinctItems_iff.mp distinct x inside) (quiet_arr.mp quiet x inside)
    rw [redactSensitiveData, redactItems_eq, same, List.map_id]
  | obj fields ih =>
    have same : fields.map (redactedItem h) = fields.map id :=
      List.map_congr_left fun f inside => by
        obtain ⟨unlabelled, plain, below⟩ := quiet_obj.mp quiet f inside
        rw [redactedItem, redactedKey, unlabelled, plain,
          ih f inside (distinctFields_iff.mp distinct.2 f inside) below]
        rfl
    rw [redact_fields, same, List.map_id, setItems_fresh (by exact distinct.1), List.nil_append]

theorem redact_empty (h : Host) {v : Json} (empty : isEmptyValue v = true) :
    redactSensitiveData h v = v := by
  cases v with
  | null => rfl
  | str s =>
    rw [isEmptyValue, beq_iff_eq] at empty
    subst empty
    exact congrArg Json.str (redactText_of_quiet (h := h) rfl)
  | arr items =>
    rw [isEmptyValue, List.isEmpty_iff] at empty
    subst empty
    rfl
  | obj fields =>
    rw [isEmptyValue, List.isEmpty_iff] at empty
    subst empty
    rfl
  | bool _ | int _ | float _ => cases empty

theorem labeledIdentifier_redacted (h : Host) : labeledIdentifier h redacted = false := by
  rw [labeledIdentifier]
  rw [← List.append_nil (Text.chars redacted)]
  exact searchFrom_quiet h (fun part some inside => quiet_mark some inside) (fun _ => rfl) false

theorem labeledIdentifier_redactedKey (h : Host) (key : String) :
    labeledIdentifier h (redactedKey h key) = false := by
  unfold redactedKey
  split
  · exact labeledIdentifier_redacted h
  · rename_i quiet
    exact Bool.eq_false_iff.mpr quiet

theorem isSensitiveKey_redacted : isSensitiveKey redacted = false := by decide

theorem quiet_redactedItem {h : Host} {f : String × Json}
    (below : findSensitivePaths h "$" (redactSensitiveData h f.2) = [] ↔ exposed h f.2 = false) :
    QuietField h (redactedItem h f) ↔
      (if isSensitiveKey f.1 && !isEmptyValue f.2 then !labeledIdentifier h f.1
        else exposed h f.2) = false := by
  have mark : findSensitivePaths h "$" (.str redacted) = [] := by
    rw [findSensitivePaths, labeledIdentifier_redacted]
    rfl
  unfold QuietField
  have key : labeledIdentifier h (redactedItem h f).1 = false := labeledIdentifier_redactedKey h f.1
  rw [key, redactedItem, redactedKey]
  cases labelled : labeledIdentifier h f.1 with
  | true =>
    cases isSensitiveKey f.1 && !isEmptyValue f.2 with
    | true => simp [isSensitiveKey_redacted, mark]
    | false => simp [isSensitiveKey_redacted, below]
  | false =>
    cases whole : isSensitiveKey f.1 && !isEmptyValue f.2 with
    | true =>
      have sensitive := (Bool.and_eq_true_iff.mp whole).1
      simp [sensitive, isEmptyValue, redacted]
    | false =>
      have still : (isSensitiveKey f.1 && !isEmptyValue (redactSensitiveData h f.2)) = false := by
        cases empty : isEmptyValue f.2 with
        | true => rw [redact_empty h empty, empty, Bool.not_true, Bool.and_false]
        | false =>
          rw [empty, Bool.not_false, Bool.and_true] at whole
          rw [whole, Bool.false_and]
      simp only [Bool.false_eq_true, if_false, still, below, true_and]

theorem exposedFields_iff {h : Host} {fields : List (String × Json)}
    (below : ∀ f ∈ fields,
      (findSensitivePaths h "$" (redactSensitiveData h f.2) = [] ↔ exposed h f.2 = false)) :
    (∀ g ∈ lastItems (fields.map (redactedItem h)), QuietField h g) ↔
      exposedFields h fields = false := by
  induction fields with
  | nil => simp [lastItems, exposedFields]
  | cons f fields ih =>
    obtain ⟨first, others⟩ := List.forall_mem_cons.mp below
    have replaced : ((fields.map (redactedItem h)).any fun g => g.1 == (redactedItem h f).1) =
        fields.any fun g => redactedKey h g.1 == redactedKey h f.1 := by
      rw [List.any_map]
      rfl
    rw [List.map_cons, lastItems, replaced, exposedFields, Bool.or_eq_false_iff, ← ih others]
    cases fields.any fun g => redactedKey h g.1 == redactedKey h f.1 with
    | true => simp
    | false =>
      rw [if_neg Bool.false_ne_true, List.forall_mem_cons, quiet_redactedItem first]
      simp only [Bool.not_false, Bool.true_and]

theorem quiet_redact (h : Host) (v : Json) :
    findSensitivePaths h "$" (redactSensitiveData h v) = [] ↔ exposed h v = false := by
  induction v using Json.recOnMembers with
  | atom v scalar =>
    cases v with
    | str s => simp [redactSensitiveData, findSensitivePaths, labeledIdentifier_redactText, exposed]
    | null | bool _ | int _ | float _ => exact ⟨fun _ => rfl, fun _ => rfl⟩
    | arr _ | obj _ => exact absurd scalar (by simp [Json.kind])
  | arr items ih =>
    rw [redactSensitiveData, redactItems_eq, quiet_arr, exposed, exposedItems_eq]
    simp only [List.forall_mem_map, List.any_eq_false, Bool.not_eq_true]
    exact forall₂_congr ih
  | obj fields ih =>
    rw [redact_fields, quiet_obj, exposed, ← exposedFields_iff ih]
    refine forall_congr' fun g => imp_congr_left ?_
    rw [mem_setItems (by simp)]
    simp

/-- What the redaction is for: the detector finds nothing in the copy, a second redaction
changes nothing, and the parts in which the detector finds nothing stay. -/
structure RedactionLaw (h : Host) (v : Json) : Prop where
  clean : findSensitivePaths h "$" (redactSensitiveData h v) = []
  settled : redactSensitiveData h (redactSensitiveData h v) = redactSensitiveData h v
  kept : ∀ w, Subtree w v → findSensitivePaths h "$" w = [] → redactSensitiveData h w = w

theorem redaction_law_iff (h : Host) (v : Json) (distinct : DistinctKeys v) :
    RedactionLaw h v ↔ exposed h v = false := by
  constructor
  · intro law
    exact (quiet_redact h v).mp law.clean
  · intro covered
    have clean := (quiet_redact h v).mpr covered
    exact ⟨clean, redact_quiet h _ (distinct_redact h v) clean,
      fun w sub quiet => redact_quiet h w (distinct.subtree sub) quiet⟩

theorem redaction_law_note : let v := Json.obj [("note", .str "IMSI: 208930000000001")]
    DistinctKeys v ∧ (RedactionLaw Host.ascii v ↔ exposed Host.ascii v = false) := by
  have distinct : DistinctKeys (.obj [("note", .str "IMSI: 208930000000001")]) :=
    ⟨by decide, trivial, trivial⟩
  exact ⟨distinct, redaction_law_iff Host.ascii _ distinct⟩

theorem redaction_law_fails : let v := Json.obj [("imsi", .str "208930000000001")]
    DistinctKeys v ∧ ¬RedactionLaw Host.ascii v := by
  refine ⟨⟨by decide, trivial, trivial⟩, fun law => ?_⟩
  have flagged : findSensitivePaths Host.ascii "$" (redactSensitiveData Host.ascii
      (.obj [("imsi", .str "208930000000001")])) = ["$.imsi"] := by decide
  have clean := law.clean
  rw [flagged] at clean
  cases clean

end NetworkAgent
