import NetworkAgent.Library.Runs

/-! Programs that reach a shared state through single operations, and systems in which any
number of them run at once. An operation is one step; between two operations of a program the
others may do whatever they do, and a program may also stop for good. -/

/-- A program returns, or makes an operation and goes on with its answer. -/
inductive Program (Op : Type) (Answer : Op → Type) (α : Type) : Type where
  | done (a : α)
  | call (op : Op) (next : Answer op → Program Op Answer α)

namespace Program
variable {Op : Type} {Answer : Op → Type} {α β ε : Type}

def bind : Program Op Answer α → (α → Program Op Answer β) → Program Op Answer β
  | .done a, f => f a
  | .call op next, f => .call op fun answer => (next answer).bind f

instance : Monad (Program Op Answer) where
  pure := .done
  bind := bind

def ask (op : Op) : ExceptT ε (Program Op Answer) (Answer op) :=
  ExceptT.mk (.call op fun answer => .done (.ok answer))

def attempt (x : Except ε α) : ExceptT ε (Program Op Answer) α := ExceptT.mk (.done x)

theorem attempt_ok (a : α) (f : α → ExceptT ε (Program Op Answer) β) :
    (attempt (.ok a) >>= f) = f a := rfl

/-- Run the steps of a program that may fail, and go on with either outcome. -/
def caught (m : ExceptT ε (Program Op Answer) α) : ExceptT ε (Program Op Answer) (Except ε α) :=
  ExceptT.mk (Program.bind m fun result => .done (.ok result))

def Makes (kind : Op → Prop) : Program Op Answer α → Prop
  | .done _ => True
  | .call op next => kind op ∧ ∀ answer, (next answer).Makes kind

theorem Makes.bind {kind : Op → Prop} {p : Program Op Answer α} {f : α → Program Op Answer β}
    (first : p.Makes kind) (second : ∀ a, (f a).Makes kind) : (p.bind f).Makes kind := by
  induction p with
  | done a => exact second a
  | call op next ih => exact ⟨first.1, fun answer => ih answer (first.2 answer)⟩

theorem Makes.andThen {kind : Op → Prop} {m : ExceptT ε (Program Op Answer) α}
    {f : α → ExceptT ε (Program Op Answer) β} (first : Program.Makes kind m)
    (second : ∀ a, Program.Makes kind (f a)) :
    Program.Makes kind (m >>= f : ExceptT ε (Program Op Answer) β) := by
  apply Makes.bind first
  intro result
  cases result with
  | error e => trivial
  | ok a => exact second a

def Owes (pays : (op : Op) → Answer op → Prop) (due : α → Prop) : Program Op Answer α → Prop
  | .done a => ¬ due a
  | .call op next => ∀ answer, pays op answer ∨ (next answer).Owes pays due

theorem Owes.bind {pays : (op : Op) → Answer op → Prop} {due : β → Prop} {paid : α → Prop}
    {p : Program Op Answer α} {f : α → Program Op Answer β} (first : p.Owes pays paid)
    (second : ∀ a, ¬ paid a → (f a).Owes pays due) : (p.bind f).Owes pays due := by
  induction p with
  | done a => exact second a first
  | call op next ih =>
    intro answer
    rcases first answer with pays | owes
    · exact .inl pays
    · exact .inr (ih answer owes)

theorem Owes.andThen {pays : (op : Op) → Answer op → Prop} {due : Except ε β → Prop}
    {paid : Except ε α → Prop} {m : ExceptT ε (Program Op Answer) α}
    {f : α → ExceptT ε (Program Op Answer) β} (first : Program.Owes pays paid m)
    (fails : ∀ e, ¬ due (.error e))
    (second : ∀ a, ¬ paid (.ok a) → Program.Owes pays due (f a)) :
    Program.Owes pays due (m >>= f : ExceptT ε (Program Op Answer) β) := by
  apply Owes.bind first
  intro result unpaid
  cases result with
  | error e => exact fails e
  | ok a => exact second a unpaid

section
variable {S E L : Type} (exec : S → E → (op : Op) → Answer op × S)

/-- The program with nobody else around, every operation given the same input. -/
def alone (e : E) : Program Op Answer α → S → α × S
  | .done a, s => (a, s)
  | .call op next, s => (next (exec s e op).1).alone e (exec s e op).2

theorem alone_andThen {e : E} {m : ExceptT ε (Program Op Answer) α}
    {f : α → ExceptT ε (Program Op Answer) β} {s s' : S} {a : α}
    (first : alone exec e m s = (.ok a, s')) :
    alone exec e (m >>= f : ExceptT ε (Program Op Answer) β) s = alone exec e (f a) s' := by
  have general : ∀ (p : Program Op Answer (Except ε α)) (s : S), p.alone exec e s = (.ok a, s') →
      alone exec e (p.bind (ExceptT.bindCont f)) s = alone exec e (f a) s' := by
    intro p
    induction p with
    | done result =>
      intro s ended
      cases ended
      rfl
    | call op next ih =>
      intro s ended
      exact ih _ _ ended
  exact general m s first

section
variable (inv : S → Prop) (later : S → S → Prop)

/-- From the state on, whatever the others do in between: every operation of the program keeps
the invariant and only moves on, and the program returns with the postcondition, which then
holds for good. -/
def Leads (post : α → S → Prop) : Program Op Answer α → S → Prop
  | .done a, s => ∀ s', inv s' → later s s' → post a s'
  | .call op next, s => ∀ s', inv s' → later s s' → ∀ e,
      inv (exec s' e op).2 ∧ later s' (exec s' e op).2 ∧
        Leads post (next (exec s' e op).1) (exec s' e op).2

variable {exec inv later} {post : α → S → Prop}

theorem Leads.onward (trans : ∀ a b c, later a b → later b c → later a c)
    {p : Program Op Answer α} {s s' : S} (leads : p.Leads exec inv later post s)
    (moved : later s s') : p.Leads exec inv later post s' := by
  cases p with
  | done a => exact fun _ holds more => leads _ holds (trans _ _ _ moved more)
  | call op next => exact fun _ holds more => leads _ holds (trans _ _ _ moved more)

theorem Leads.weaken {post' : α → S → Prop} (weaker : ∀ a s, post a s → post' a s)
    {p : Program Op Answer α} {s : S} (leads : p.Leads exec inv later post s) :
    p.Leads exec inv later post' s := by
  induction p generalizing s with
  | done a => exact fun s' holds moved => weaker a s' (leads s' holds moved)
  | call op next ih =>
    intro s' holds moved e
    obtain ⟨kept, onwards, rest⟩ := leads s' holds moved e
    exact ⟨kept, onwards, ih _ rest⟩

theorem Leads.attempt {post : Except ε β → S → Prop} {x : Except ε α}
    {f : α → ExceptT ε (Program Op Answer) β} {s : S} (fails : ∀ e s, post (.error e) s)
    (goes : ∀ a, x = .ok a → Leads exec inv later post (f a) s) :
    Leads exec inv later post (attempt x >>= f : ExceptT ε (Program Op Answer) β) s := by
  cases x with
  | error e => exact fun s' _ _ => fails e s'
  | ok a => exact goes a rfl

theorem Leads.ask {post : Except ε β → S → Prop} {op : Op}
    {f : Answer op → ExceptT ε (Program Op Answer) β} {s : S}
    (goes : ∀ s', inv s' → later s s' → ∀ e,
      inv (exec s' e op).2 ∧ later s' (exec s' e op).2 ∧
        Leads exec inv later post (f (exec s' e op).1) (exec s' e op).2) :
    Leads exec inv later post (ask op >>= f : ExceptT ε (Program Op Answer) β) s := goes

theorem Leads.bind (refl : ∀ s, later s s) {p : Program Op Answer β}
    {f : β → Program Op Answer α} {s : S} (holds : inv s)
    (leads : p.Leads exec inv later (fun b s => (f b).Leads exec inv later post s) s) :
    (p.bind f).Leads exec inv later post s := by
  induction p generalizing s with
  | done b => exact leads s holds (refl s)
  | call op next ih =>
    intro s' holds' moved e
    obtain ⟨kept, onwards, rest⟩ := leads s' holds' moved e
    exact ⟨kept, onwards, ih _ kept rest⟩

end

/-! Systems. -/

/-- The shared state, and every program that was started with what it was started for. -/
structure System (S L Op : Type) (Answer : Op → Type) (R : Type) where
  shared : S
  tasks : List (L × Program Op Answer R) := []

/-- A program starts, or one that was started makes its next operation. -/
inductive Move (L E : Type) where
  | start (label : L)
  | step (task : Nat) (input : E)

variable {R : Type} (code : L → Program Op Answer R)

def System.start (s : System S L Op Answer R) (label : L) : System S L Op Answer R :=
  { s with tasks := s.tasks ++ [(label, code label)] }

def System.step (s : System S L Op Answer R) (task : Nat) (e : E) : System S L Op Answer R :=
  match s.tasks[task]? with
  | some (label, .call op next) =>
    { shared := (exec s.shared e op).2
      tasks := s.tasks.set task (label, next (exec s.shared e op).1) }
  | _ => s

def System.move (s : System S L Op Answer R) : Move L E → System S L Op Answer R
  | .start label => s.start code label
  | .step task e => s.step exec task e

def System.run (s : System S L Op Answer R) (moves : List (Move L E)) : System S L Op Answer R :=
  Runs.run (System.move exec code) s moves

def System.Returned (s : System S L Op Answer R) (label : L) (result : R) : Prop :=
  (label, .done result) ∈ s.tasks

variable {exec code}

theorem System.step_cases (s : System S L Op Answer R) (task : Nat) (e : E) :
    s.step exec task e = s ∨ ∃ label op next, (label, .call op next) ∈ s.tasks ∧
      s.step exec task e = ⟨(exec s.shared e op).2,
        s.tasks.set task (label, next (exec s.shared e op).1)⟩ := by
  unfold System.step
  split
  · next label op next found => exact .inr ⟨label, op, next, List.mem_of_getElem? found, rfl⟩
  · exact .inl rfl

theorem System.mem_start {s : System S L Op Answer R} {label : L}
    {t : L × Program Op Answer R} (member : t ∈ (s.start code label).tasks) :
    t ∈ s.tasks ∨ t = (label, code label) := by
  rcases List.mem_append.mp member with before | new
  · exact .inl before
  · exact .inr (List.mem_singleton.mp new)

theorem System.move_tasks {keeps : L → Program Op Answer R → Prop}
    (starts : ∀ label, keeps label (code label))
    (answered : ∀ label op next answer, keeps label (.call op next) → keeps label (next answer))
    {s : System S L Op Answer R} (kept : ∀ t ∈ s.tasks, keeps t.1 t.2) (move : Move L E) :
    ∀ t ∈ (s.move exec code move).tasks, keeps t.1 t.2 := by
  cases move with
  | start label =>
    intro t member
    rcases System.mem_start member with before | rfl
    · exact kept t before
    · exact starts label
  | step task e =>
    rcases s.step_cases task e with same | ⟨label, op, next, found, moved⟩
    · rw [System.move, same]
      exact kept
    · intro t member
      rw [System.move, moved] at member
      rcases List.mem_or_eq_of_mem_set member with before | rfl
      · exact kept t before
      · exact answered label op next _ (kept _ found)

theorem System.run_makes {kind : L → Op → Prop} (makes : ∀ label, (code label).Makes (kind label))
    {s : System S L Op Answer R} (start : ∀ t ∈ s.tasks, t.2.Makes (kind t.1))
    (moves : List (Move L E)) : ∀ t ∈ (s.run exec code moves).tasks, t.2.Makes (kind t.1) :=
  Runs.run_invariant (P := fun s : System S L Op Answer R =>
      ∀ t ∈ s.tasks, t.2.Makes (kind t.1)) _
    (fun _ move kept => System.move_tasks makes (fun _ _ _ answer kept => kept.2 answer) kept move)
    start moves

section
variable {pays : (op : Op) → Answer op → Prop} {due : R → Prop} (mine : L → Prop)

open Classical in
noncomputable def System.settled (pays : (op : Op) → Answer op → Prop) (due : R → Prop)
    (s : System S L Op Answer R) : Nat :=
  s.tasks.countP fun t => mine t.1 ∧ ¬ t.2.Owes pays due

variable {ledger : S → Nat} (grows : ∀ s e op, ledger s ≤ ledger (exec s e op).2)
  (enters : ∀ s e op, pays op (exec s e op).1 → ledger s + 1 ≤ ledger (exec s e op).2)
  (owes : ∀ label, mine label → (code label).Owes pays due)
include grows enters owes

open Classical in
theorem System.run_settled {s : System S L Op Answer R}
    (start : s.settled mine pays due ≤ ledger s.shared) (moves : List (Move L E)) :
    (s.run exec code moves).settled mine pays due ≤ ledger (s.run exec code moves).shared := by
  refine Runs.run_invariant (P := fun s : System S L Op Answer R =>
    s.settled mine pays due ≤ ledger s.shared) _ (fun s move kept => ?_) start moves
  cases move with
  | start label =>
    have unpaid : ¬ (mine label ∧ ¬ (code label).Owes pays due) :=
      fun ⟨own, free⟩ => free (owes label own)
    have same : System.settled mine pays due (s.start code label) = s.settled mine pays due := by
      simp only [System.settled, System.start, List.countP_append, List.countP_singleton,
        decide_eq_true_eq, if_neg unpaid, Nat.add_zero]
    rw [System.move, same]
    exact kept
  | step task e =>
    rw [System.move, System.step]
    split
    · next label op next found =>
      obtain ⟨bound, at_task⟩ := List.getElem?_eq_some_iff.mp found
      have more := grows s.shared e op
      simp only [System.settled] at kept ⊢
      rw [List.countP_set bound, at_task]
      by_cases pay : pays op (exec s.shared e op).1
      · have entered := enters s.shared e op pay
        split <;> split <;> omega
      · have stays : ¬ (next (exec s.shared e op).1).Owes pays due →
            ¬ Owes pays due (.call op next) :=
          fun free owes => (owes _).elim pay free
        split
        · next free =>
          have some : 0 < s.tasks.countP fun t => mine t.1 ∧ ¬ t.2.Owes pays due := by
            rw [List.countP_pos_iff]
            exact ⟨_, List.mem_of_getElem? found, free⟩
          split <;> omega
        · next owed =>
          rw [if_neg ?_]
          · omega
          · simp only [decide_eq_true_eq] at owed ⊢
            exact fun ⟨own, free⟩ => owed ⟨own, stays free⟩
    · exact kept

end

section
variable {inv : S → Prop} {later : S → S → Prop} {post : L → R → S → Prop}

structure System.OnTrack (exec : S → E → (op : Op) → Answer op × S) (inv : S → Prop)
    (later : S → S → Prop) (post : L → R → S → Prop) (s : System S L Op Answer R) : Prop where
  holds : inv s.shared
  leads : ∀ t ∈ s.tasks, t.2.Leads exec inv later (post t.1) s.shared

variable {allowed : L → Prop} (refl : ∀ s, later s s)
  (trans : ∀ a b c, later a b → later b c → later a c)
  (leads : ∀ label, allowed label → ∀ s, inv s → (code label).Leads exec inv later (post label) s)
include refl trans leads

theorem System.OnTrack.move {s : System S L Op Answer R}
    (track : s.OnTrack exec inv later post) (move : Move L E)
    (starts : ∀ label, move = .start label → allowed label) :
    (s.move exec code move).OnTrack exec inv later post ∧
      later s.shared (s.move exec code move).shared := by
  cases move with
  | start label =>
    refine ⟨⟨track.holds, fun t member => ?_⟩, refl _⟩
    rcases System.mem_start member with before | rfl
    · exact track.leads t before
    · exact leads label (starts label rfl) _ track.holds
  | step task e =>
    rw [System.move]
    rcases s.step_cases task e with same | ⟨label, op, next, found, moved⟩
    · rw [same]
      exact ⟨track, refl _⟩
    · rw [moved]
      obtain ⟨kept, onwards, rest⟩ := track.leads _ found s.shared track.holds (refl _) e
      refine ⟨⟨kept, fun t member => ?_⟩, onwards⟩
      rcases List.mem_or_eq_of_mem_set member with before | rfl
      · exact (track.leads t before).onward trans onwards
      · exact rest

theorem System.OnTrack.run {s : System S L Op Answer R}
    (track : s.OnTrack exec inv later post) (moves : List (Move L E))
    (starts : ∀ label, .start label ∈ moves → allowed label) :
    (s.run exec code moves).OnTrack exec inv later post ∧
      later s.shared (s.run exec code moves).shared := by
  induction moves generalizing s with
  | nil => exact ⟨track, refl _⟩
  | cons move rest ih =>
    obtain ⟨moved, first⟩ := track.move refl trans leads move fun label same =>
      starts label (same ▸ List.mem_cons_self)
    obtain ⟨ended, second⟩ := ih moved fun label member =>
      starts label (List.mem_cons_of_mem _ member)
    exact ⟨ended, trans _ _ _ first second⟩

omit trans leads in
theorem System.OnTrack.returned {s : System S L Op Answer R}
    (track : s.OnTrack exec inv later post) {label : L} {result : R}
    (returned : s.Returned label result) : post label result s.shared :=
  track.leads _ returned s.shared track.holds (refl _)

end
end

section
variable {γ : Type} (settled : (op : Op) → Answer op → Option γ)

/-- An answer that settles the program is the last that it asks for, and its result is made of it. -/
def Closes (result : γ → α → Prop) : Program Op Answer α → Prop
  | .done _ => True
  | .call op next => ∀ answer, (next answer).Closes result ∧
      ∀ c, settled op answer = some c → ∃ a, next answer = .done a ∧ result c a

variable {settled} {result : γ → α → Prop} {result' : γ → β → Prop}

theorem Closes.bind {p : Program Op Answer α} {f : α → Program Op Answer β}
    (first : p.Closes settled result)
    (ends : ∀ a, ∃ b, f a = .done b ∧ ∀ c, result c a → result' c b) :
    (p.bind f).Closes settled result' := by
  induction p with
  | done a =>
    obtain ⟨b, same, _⟩ := ends a
    rw [Program.bind, same]
    trivial
  | call op next ih =>
    intro answer
    refine ⟨ih answer (first answer).1, fun c settles => ?_⟩
    obtain ⟨a, same, made⟩ := (first answer).2 c settles
    obtain ⟨b, same', made'⟩ := ends a
    exact ⟨b, by change (next answer).bind f = _; rw [same]; exact same', made' c made⟩

theorem Closes.next {op : Op} {next : Answer op → Program Op Answer α}
    (closes : (Program.call op next).Closes settled result) (answer : Answer op) :
    (next answer).Closes settled result ∧
      ∀ c, settled op answer = some c → ∃ a, next answer = .done a ∧ result c a := closes answer

theorem Closes.finish {x : Except ε α} {result : γ → Except ε α → Prop} :
    Closes settled result (Program.attempt x : ExceptT ε (Program Op Answer) α) := trivial

theorem Closes.last {op : Op} {f : Answer op → Except ε α} {result : γ → Except ε α → Prop}
    (settles : ∀ answer c, settled op answer = some c → result c (f answer)) :
    Closes settled result
      (Program.ask op >>= fun answer => Program.attempt (f answer) :
        ExceptT ε (Program Op Answer) α) :=
  fun answer => ⟨trivial, fun c settled => ⟨f answer, rfl, settles answer c settled⟩⟩

theorem Closes.ask {op : Op} {f : Answer op → ExceptT ε (Program Op Answer) β}
    {result : γ → Except ε β → Prop} (open' : ∀ answer, settled op answer = none)
    (goes : ∀ answer, Closes settled result (f answer)) :
    Closes settled result (Program.ask op >>= f : ExceptT ε (Program Op Answer) β) := by
  refine fun answer => ⟨goes answer, fun c settles => ?_⟩
  rw [open' answer] at settles
  cases settles

theorem Closes.attempt {x : Except ε α} {f : α → ExceptT ε (Program Op Answer) β}
    {result : γ → Except ε β → Prop} (goes : ∀ a, x = .ok a → Closes settled result (f a)) :
    Closes settled result (Program.attempt x >>= f : ExceptT ε (Program Op Answer) β) := by
  cases x with
  | error e => trivial
  | ok a => exact goes a rfl

end

section
variable {S E P : Type} (exec : S → E → (op : Op) → Answer op × S)

variable (log : P → E → Op → P) (inv : S → Prop) (later : S → S → Prop)
  (allowed : P → S → Op → Prop)

/-- Whatever the others do in between, every operation of the program is allowed in the state in
which it is made and after what the program has seen so far, and a result has the postcondition. -/
def Guarded (post : α → P → S → Prop) : Program Op Answer α → P → S → Prop
  | .done a, past, s => post a past s
  | .call op next, past, s => ∀ s', inv s' → later s s' → allowed past s' op ∧
      ∀ e, Guarded post (next (exec s' e op).1) (log past e op) (exec s' e op).2

variable {exec log inv later allowed} {post : α → P → S → Prop} {p : Program Op Answer α}
  {past : P} {s s' : S}

theorem Guarded.next {op : Op} {next : Answer op → Program Op Answer α}
    (guarded : (Program.call op next).Guarded exec log inv later allowed post past s) (s' : S)
    (holds : inv s') (moved : later s s') : allowed past s' op ∧ ∀ e,
      (next (exec s' e op).1).Guarded exec log inv later allowed post (log past e op)
        (exec s' e op).2 := guarded s' holds moved

theorem Guarded.onward (trans : ∀ a b c, later a b → later b c → later a c)
    (stable : ∀ a past s s', later s s' → post a past s → post a past s')
    (guarded : p.Guarded exec log inv later allowed post past s) (moved : later s s') :
    p.Guarded exec log inv later allowed post past s' := by
  cases p with
  | done a => exact stable a past s s' moved guarded
  | call op next => exact fun _ holds more => guarded _ holds (trans _ _ _ moved more)

theorem Guarded.finish {x : Except ε α} {post : Except ε α → P → S → Prop} (ends : post x past s) :
    Guarded exec log inv later allowed post
      (Program.attempt x : ExceptT ε (Program Op Answer) α) past s := ends

theorem Guarded.ask {op : Op} {f : Answer op → ExceptT ε (Program Op Answer) β}
    {post : Except ε β → P → S → Prop}
    (goes : ∀ s', inv s' → later s s' → allowed past s' op ∧ ∀ e,
      Guarded exec log inv later allowed post (f (exec s' e op).1) (log past e op)
        (exec s' e op).2) :
    Guarded exec log inv later allowed post
      (Program.ask op >>= f : ExceptT ε (Program Op Answer) β) past s := goes

theorem Guarded.attempt {x : Except ε α} {f : α → ExceptT ε (Program Op Answer) β}
    {post : Except ε β → P → S → Prop} (fails : ∀ e, x = .error e → post (.error e) past s)
    (goes : ∀ a, x = .ok a → Guarded exec log inv later allowed post (f a) past s) :
    Guarded exec log inv later allowed post
      (Program.attempt x >>= f : ExceptT ε (Program Op Answer) β) past s := by
  cases x with
  | error e => exact fails e rfl
  | ok a => exact goes a rfl

section
variable (keeps : ∀ s e op, inv s → inv (exec s e op).2)
include keeps

theorem Guarded.bind {f : α → Program Op Answer β} {post' : β → P → S → Prop} (holds : inv s)
    (first : p.Guarded exec log inv later allowed post past s)
    (second : ∀ a past' s', inv s' → post a past' s' →
      (f a).Guarded exec log inv later allowed post' past' s') :
    (p.bind f).Guarded exec log inv later allowed post' past s := by
  induction p generalizing past s with
  | done a => exact second a past s holds first
  | call op next ih =>
    intro s' holds' moved
    obtain ⟨allowedHere, rest⟩ := first s' holds' moved
    exact ⟨allowedHere, fun e => ih _ (keeps s' e op holds') (rest e)⟩

theorem Guarded.andThen {m : ExceptT ε (Program Op Answer) α}
    {f : α → ExceptT ε (Program Op Answer) β} {post : Except ε α → P → S → Prop}
    {post' : Except ε β → P → S → Prop} (holds : inv s)
    (first : Guarded exec log inv later allowed post m past s)
    (fails : ∀ e past' s', post (.error e) past' s' → post' (.error e) past' s')
    (second : ∀ a past' s', inv s' → post (.ok a) past' s' →
      Guarded exec log inv later allowed post' (f a) past' s') :
    Guarded exec log inv later allowed post'
      (m >>= f : ExceptT ε (Program Op Answer) β) past s := by
  apply Guarded.bind keeps holds first
  intro result past' s' holds' after
  cases result with
  | error e => exact fails e past' s' after
  | ok a => exact second a past' s' holds' after

theorem Guarded.caught {m : ExceptT ε (Program Op Answer) α} {post : Except ε α → P → S → Prop}
    (holds : inv s) (first : Guarded exec log inv later allowed post m past s) :
    Guarded exec log inv later allowed
      (fun (result : Except ε (Except ε α)) past s => ∀ r, result = .ok r → post r past s)
      (Program.caught m) past s := by
  refine Guarded.bind keeps holds first fun r past' s' _ after => ?_
  rintro _ ⟨⟩
  exact after

end

/-! Systems of guarded programs. -/

section
variable {L R : Type} {code : L → Program Op Answer R} {allowed : L → P → S → Op → Prop}

/-- Every program of the system is guarded from the shared state on, after a past that fits. -/
structure System.Kept (exec : S → E → (op : Op) → Answer op × S) (log : P → E → Op → P)
    (inv : S → Prop) (later : S → S → Prop) (allowed : L → P → S → Op → Prop) (fits : P → Prop)
    (s : System S L Op Answer R) : Prop where
  holds : inv s.shared
  guarded : ∀ t ∈ s.tasks, ∃ past, fits past ∧
    t.2.Guarded exec log inv later (allowed t.1) (fun _ _ _ => True) past s.shared

variable {fits fits' : P → Prop}

/-- A step of a guarded system is an allowed operation of one program, or nothing. -/
theorem System.Kept.step_cases {s : System S L Op Answer R}
    (kept : s.Kept exec log inv later allowed fits) (refl : ∀ s, later s s) (task : Nat) (e : E) :
    s.step exec task e = s ∨ ∃ label op next past, s.tasks[task]? = some (label, .call op next) ∧
      fits past ∧ allowed label past s.shared op ∧ s.step exec task e =
        ⟨(exec s.shared e op).2, s.tasks.set task (label, next (exec s.shared e op).1)⟩ := by
  unfold System.step
  split
  · next label op next found =>
    obtain ⟨past, fit, guarded⟩ := kept.guarded _ (List.mem_of_getElem? found)
    exact .inr ⟨label, op, next, past, found, fit, (guarded _ kept.holds (refl _)).1, rfl⟩
  · exact .inl rfl

variable (refl : ∀ s, later s s) (trans : ∀ a b c, later a b → later b c → later a c)
  (keeps : ∀ s e op, inv s → inv (exec s e op).2 ∧ later s (exec s e op).2)
  (starts : ∀ label s, inv s → ∃ past, fits' past ∧
    (code label).Guarded exec log inv later (allowed label) (fun _ _ _ => True) past s)
include refl trans keeps starts

theorem System.Kept.move {s : System S L Op Answer R}
    (kept : s.Kept exec log inv later allowed fits) (move : Move L E)
    (stays : ∀ past, fits past → fits' past)
    (logged : ∀ task e, move = .step task e → ∀ past op, fits past → fits' (log past e op)) :
    (s.move exec code move).Kept exec log inv later allowed fits' := by
  have others : ∀ t ∈ s.tasks, ∀ s', later s.shared s' → ∃ past, fits' past ∧
      t.2.Guarded exec log inv later (allowed t.1) (fun _ _ _ => True) past s' := by
    intro t member s' onwards
    obtain ⟨past, fit, guarded⟩ := kept.guarded t member
    exact ⟨past, stays past fit, guarded.onward trans (fun _ _ _ _ _ h => h) onwards⟩
  cases move with
  | start label =>
    refine ⟨kept.holds, fun t member => ?_⟩
    rcases System.mem_start member with before | rfl
    · exact others t before _ (refl _)
    · exact starts label _ kept.holds
  | step task e =>
    rw [System.move]
    rcases s.step_cases task e with same | ⟨label, op, next, found, moved⟩
    · rw [same]
      exact ⟨kept.holds, fun t member => others t member _ (refl _)⟩
    · rw [moved]
      obtain ⟨stays', onwards⟩ := keeps s.shared e op kept.holds
      refine ⟨stays', fun t member => ?_⟩
      rcases List.mem_or_eq_of_mem_set member with before | rfl
      · exact others t before _ onwards
      · obtain ⟨past, fit, guarded⟩ := kept.guarded _ found
        exact ⟨_, logged task e rfl past op fit, (guarded _ kept.holds (refl _)).2 e⟩

end
end

-- Programs are taken apart by the lemmas alone, never by running them.
attribute [irreducible] Guarded Closes

end Program
