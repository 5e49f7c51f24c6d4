import Mathlib.Data.List.Forall2

/-! Checks that either pass or stop with an error, in the order they are made. -/
namespace Checks

/-- One check: the condition, and the error raised when it does not hold. -/
def require {ε : Type} (condition : Prop) [Decidable condition] (error : ε) : Except ε Unit :=
  if condition then .ok () else .error error

@[simp] theorem require_ok {ε : Type} {condition : Prop} [Decidable condition] {error : ε}
    {u : Unit} : require condition error = .ok u ↔ condition := by
  unfold require
  split <;> simp_all

theorem require_error {ε : Type} {condition : Prop} [Decidable condition] {error e : ε} :
    require condition error = .error e ↔ ¬ condition ∧ error = e := by
  unfold require
  split <;> simp_all

theorem bind_ok {ε α β : Type} {x : Except ε α} {f : α → Except ε β} {b : β} :
    (x >>= f) = .ok b ↔ ∃ a, x = .ok a ∧ f a = .ok b := by
  cases x with
  | ok a => simp [Bind.bind, Except.bind]
  | error e => simp [Bind.bind, Except.bind]

theorem bind_error {ε α β : Type} {x : Except ε α} {f : α → Except ε β} {e : ε} :
    (x >>= f) = .error e ↔ x = .error e ∨ ∃ a, x = .ok a ∧ f a = .error e := by
  cases x with
  | ok a => simp [Bind.bind, Except.bind]
  | error e => simp [Bind.bind, Except.bind]

theorem seq_ok {ε β : Type} {x : Except ε Unit} {f : Unit → Except ε β} {b : β} :
    (x >>= f) = .ok b ↔ x = .ok () ∧ f () = .ok b := by
  rw [bind_ok]
  exact ⟨fun ⟨_, h, k⟩ => ⟨h, k⟩, fun ⟨h, k⟩ => ⟨(), h, k⟩⟩

theorem of_bind {ε α β : Type} {P : β → Prop} {x : Except ε α} {f : α → Except ε β} {b : β}
    (each : ∀ a, f a = .ok b → P b) (h : (x >>= f) = .ok b) : P b := by
  obtain ⟨a, _, ha⟩ := bind_ok.mp h
  exact each a ha

theorem map_ok {ε α β : Type} {x : Except ε α} {f : α → β} {b : β} :
    (f <$> x) = .ok b ↔ ∃ a, x = .ok a ∧ f a = b := by
  cases x <;> simp [Functor.map, Except.map]

/-- A list of elements is checked from the front; the first failure is the answer. -/
def each {ε α : Type} (check : α → Except ε Unit) : List α → Except ε Unit
  | [] => .ok ()
  | a :: rest => check a >>= fun _ => each check rest

theorem each_ok {ε α : Type} {check : α → Except ε Unit} {xs : List α} {u : Unit} :
    each check xs = .ok u ↔ ∀ a ∈ xs, check a = .ok () := by
  induction xs with
  | nil => simp [each]
  | cons a rest ih =>
    simp only [each, bind_ok, ih, List.mem_cons, forall_eq_or_imp]
    constructor
    · rintro ⟨_, h, rest⟩; exact ⟨h, rest⟩
    · rintro ⟨h, rest⟩; exact ⟨(), h, rest⟩

theorem mapM_ok {ε α β : Type} {f : α → Except ε β} {xs : List α} {ys : List β} :
    xs.mapM f = .ok ys ↔ List.Forall₂ (fun x y => f x = .ok y) xs ys := by
  induction xs generalizing ys with
  | nil => simp [pure, Except.pure, eq_comm]
  | cons x rest ih =>
    simp only [List.mapM_cons, bind_ok, List.forall₂_cons_left_iff, ih]
    constructor
    · rintro ⟨y, hy, tail, htail, h⟩
      cases h
      exact ⟨y, tail, hy, htail, rfl⟩
    · rintro ⟨y, tail, hy, htail, rfl⟩
      exact ⟨y, hy, tail, htail, rfl⟩

theorem forall₂_mem_left {α β : Type} {R : α → β → Prop} {xs : List α} {ys : List β}
    (pairs : List.Forall₂ R xs ys) {x : α} (member : x ∈ xs) : ∃ y ∈ ys, R x y := by
  induction pairs with
  | nil => cases member
  | cons head _ ih =>
    rcases List.mem_cons.mp member with rfl | later
    · exact ⟨_, List.mem_cons_self, head⟩
    · obtain ⟨y, known, related⟩ := ih later
      exact ⟨y, List.mem_cons_of_mem _ known, related⟩

theorem forall₂_mem_right {α β : Type} {R : α → β → Prop} {xs : List α} {ys : List β}
    (pairs : List.Forall₂ R xs ys) {y : β} (member : y ∈ ys) : ∃ x ∈ xs, R x y :=
  forall₂_mem_left pairs.flip member

theorem mapM_mem {ε α β : Type} {f : α → Except ε β} {xs : List α} {ys : List β}
    (h : xs.mapM f = .ok ys) {x : α} (member : x ∈ xs) : ∃ y ∈ ys, f x = .ok y :=
  forall₂_mem_left (mapM_ok.mp h) member

theorem mapM_source {ε α β : Type} {f : α → Except ε β} {xs : List α} {ys : List β}
    (h : xs.mapM f = .ok ys) {y : β} (member : y ∈ ys) : ∃ x ∈ xs, f x = .ok y :=
  forall₂_mem_right (mapM_ok.mp h) member

theorem mapM_isOk {ε α β : Type} {f : α → Except ε β} {xs : List α} :
    (∃ ys, xs.mapM f = .ok ys) ↔ ∀ x ∈ xs, ∃ y, f x = .ok y := by
  constructor
  · rintro ⟨ys, done⟩ x member
    obtain ⟨y, _, made⟩ := mapM_mem done member
    exact ⟨y, made⟩
  · intro every
    induction xs with
    | nil => exact ⟨[], rfl⟩
    | cons x rest ih =>
      obtain ⟨y, made⟩ := every x List.mem_cons_self
      obtain ⟨ys, done⟩ := ih fun x member => every x (List.mem_cons_of_mem _ member)
      exact ⟨y :: ys, by simp [made, done, Bind.bind, Except.bind, pure, Except.pure]⟩

theorem mapM_map {ε α β γ : Type} {f : α → Except ε β} {before : α → γ} {after : β → γ}
    (kept : ∀ x y, f x = .ok y → after y = before x) {xs : List α} {ys : List β}
    (h : xs.mapM f = .ok ys) : ys.map after = xs.map before := by
  have pairs := mapM_ok.mp h
  clear h
  induction pairs with
  | nil => rfl
  | cons head _ ih => rw [List.map_cons, List.map_cons, kept _ _ head, ih]

theorem mapM_image {ε α β γ : Type} {f : α → Except ε β} {g : α → Except ε γ} {image : β → γ}
    (every : ∀ x, g x = image <$> f x) (xs : List α) :
    xs.mapM g = List.map image <$> xs.mapM f := by
  induction xs with
  | nil => rfl
  | cons x rest ih =>
    rw [List.mapM_cons, List.mapM_cons, every, ih]
    cases f x with
    | error e => rfl
    | ok y => cases rest.mapM f <;> rfl

/-! Errors that a computation never raises. -/

def Avoids {ε α : Type} (bad : ε) (x : Except ε α) : Prop := x ≠ .error bad

section
variable {ε α β : Type} {bad : ε}

theorem avoids_ok (a : α) : Avoids bad (.ok a : Except ε α) := by
  simp [Avoids]

theorem avoids_error {error : ε} (other : error ≠ bad) :
    Avoids bad (.error error : Except ε α) := by
  simpa [Avoids] using other

theorem avoids_require {condition : Prop} [Decidable condition] {error : ε} (other : error ≠ bad) :
    Avoids bad (require condition error) := by
  unfold require
  split
  · exact avoids_ok ()
  · exact avoids_error other

theorem avoids_bind {x : Except ε α} {f : α → Except ε β} (first : Avoids bad x)
    (later : ∀ a, x = .ok a → Avoids bad (f a)) : Avoids bad (x >>= f) := by
  cases x with
  | ok a => exact later a rfl
  | error e => exact avoids_error fun same => first (congrArg _ same)

theorem avoids_map {x : Except ε α} {f : α → β} (first : Avoids bad x) : Avoids bad (f <$> x) := by
  cases x with
  | ok a => exact avoids_ok (f a)
  | error e => exact avoids_error fun same => first (congrArg _ same)

theorem avoids_each {check : α → Except ε Unit} {xs : List α}
    (every : ∀ a ∈ xs, Avoids bad (check a)) : Avoids bad (each check xs) := by
  induction xs with
  | nil => exact avoids_ok ()
  | cons a rest ih =>
    exact avoids_bind (every a List.mem_cons_self) fun _ _ =>
      ih fun b member => every b (List.mem_cons_of_mem _ member)

theorem avoids_mapM {f : α → Except ε β} {xs : List α} (every : ∀ a ∈ xs, Avoids bad (f a)) :
    Avoids bad (xs.mapM f) := by
  induction xs with
  | nil => exact avoids_ok []
  | cons a rest ih =>
    rw [List.mapM_cons]
    exact avoids_bind (every a List.mem_cons_self) fun _ _ => avoids_bind
      (ih fun b member => every b (List.mem_cons_of_mem _ member)) fun _ _ => avoids_ok _

end

/-! Computations that fail with errors of one kind only. -/

def FailsWith {ε α : Type} (kind : ε → Prop) (x : Except ε α) : Prop := ∀ e, x = .error e → kind e

section
variable {ε α β : Type} {kind : ε → Prop}

theorem failsWith_ok (a : α) : FailsWith kind (.ok a : Except ε α) := nofun

theorem failsWith_error {e : ε} (known : kind e) : FailsWith kind (.error e : Except ε α) := by
  rintro _ ⟨⟩
  exact known

theorem failsWith_require {condition : Prop} [Decidable condition] {e : ε} (known : kind e) :
    FailsWith kind (require condition e) := by
  unfold require
  split
  · exact failsWith_ok ()
  · exact failsWith_error known

theorem failsWith_bind {x : Except ε α} {f : α → Except ε β} (first : FailsWith kind x)
    (later : ∀ a, FailsWith kind (f a)) : FailsWith kind (x >>= f) := by
  cases x with
  | ok a => exact later a
  | error e => exact failsWith_error (first e rfl)

theorem failsWith_each {check : α → Except ε Unit} {xs : List α}
    (every : ∀ a ∈ xs, FailsWith kind (check a)) : FailsWith kind (each check xs) := by
  induction xs with
  | nil => exact failsWith_ok ()
  | cons a rest ih =>
    exact failsWith_bind (every a List.mem_cons_self)
      fun _ => ih fun b member => every b (List.mem_cons_of_mem _ member)

end

end Checks
