import Mathlib.Data.List.Basic

/-! The network connections of a resource: a row from the resource to every (sub)network it
resolves, and for a route to every subnet with its destination range. A row is inserted when the
lookup does not find it, and a failing lookup counts as one that finds nothing. -/
namespace NetworkAgent.Operator

/-- A row of the table `NetworkConnection`. -/
structure Connection where
  id : String
  toId : String
  deriving DecidableEq

abbrev Connections := List Connection

/-- What a transaction that inserts a row does: it commits, it raises and leaves the table as it
was, or it raises after it has committed. -/
inductive Insertion where
  | committed | lost | unconfirmed
  deriving DecidableEq

/-- How the database answers one lookup and the insertion that may follow it. -/
structure Fault where
  lookupRaises : Bool
  insertion : Insertion

def existNetworkConnection (fault : Fault) (rows : Connections) (parentUid uid : String) : Bool :=
  !fault.lookupRaises && decide (⟨parentUid, uid⟩ ∈ rows)

/-- `INSERT OR IGNORE`. -/
def insertOrIgnore (rows : Connections) (row : Connection) : Connections :=
  if row ∈ rows then rows else rows ++ [row]

def createNetworkConnection (fault : Fault) (rows : Connections) (parentUid uid : String) :
    Bool × Connections :=
  match fault.insertion with
  | .committed => (true, insertOrIgnore rows ⟨parentUid, uid⟩)
  | .lost => (false, rows)
  | .unconfirmed => (false, insertOrIgnore rows ⟨parentUid, uid⟩)

/-- What the function reads of a resource; an interface is a part of a spec that may name a
(sub)network. -/
structure Resource (Interface : Type) where
  kind : String
  networkInterface : Option (List Interface)
  spec : Interface
  destRange : String

structure Cluster (Interface : Type) where
  findNetworkReference : Interface → Option String
  findDestinationSubnets : String → List String

/-- A target that the resource is to be connected to, and how the result of its creation is
combined with the results before it. -/
inductive Target where
  | network (uid : String)
  | destination (uid : String)
  deriving DecidableEq

def Target.uid : Target → String
  | .network uid => uid
  | .destination uid => uid

def Target.combine : Target → Bool → Bool → Bool
  | .network _, success, created => success && created
  | .destination _, success, created => success || created

variable {Interface : Type}

def Resource.specs (r : Resource Interface) : List Interface :=
  if r.kind = "ComputeInstance" then r.networkInterface.getD [] else [r.spec]

/-- The targets of one spec, in the order in which the loops reach them. -/
def targetsOf (c : Cluster Interface) (r : Resource Interface) (s : Interface) : List Target :=
  (c.findNetworkReference s).toList.map .network ++
    if r.kind = "ComputeRoute" then (c.findDestinationSubnets r.destRange).map .destination else []

def targets (c : Cluster Interface) (r : Resource Interface) : List Target :=
  r.specs.flatMap (targetsOf c r)

/-- The table, the accumulated result, and how many targets were handled. -/
structure Progress where
  rows : Connections
  success : Bool := true
  handled : Nat := 0

def connect (faults : Nat → Fault) (uid : String) (p : Progress) (t : Target) : Progress :=
  let fault := faults p.handled
  if existNetworkConnection fault p.rows uid t.uid then { p with handled := p.handled + 1 }
  else
    let (created, rows) := createNetworkConnection fault p.rows uid t.uid
    { rows, success := t.combine p.success created, handled := p.handled + 1 }

/-- `create_or_update_network_connections`: its result and the table it leaves. -/
def createOrUpdateNetworkConnections (c : Cluster Interface) (faults : Nat → Fault)
    (rows : Connections) (r : Resource Interface) (uid : String) : Bool × Connections :=
  let p := (targets c r).foldl (connect faults uid) { rows }
  (p.success, p.rows)

def Truthful (c : Cluster Interface) (faults : Nat → Fault) (rows : Connections)
    (r : Resource Interface) (uid : String) : Prop :=
  (createOrUpdateNetworkConnections c faults rows r uid).1 = true →
    ∀ t ∈ targets c r, ⟨uid, t.uid⟩ ∈ (createOrUpdateNetworkConnections c faults rows r uid).2

/-! The creations that a run of the loops attempts, and how the database answers each. -/

def creationsFrom (faults : Nat → Fault) (uid : String) :
    Progress → List Target → List (Target × Insertion)
  | _, [] => []
  | p, t :: rest =>
    (if existNetworkConnection (faults p.handled) p.rows uid t.uid then []
      else [(t, (faults p.handled).insertion)]) ++
      creationsFrom faults uid (connect faults uid p t) rest

def creations (c : Cluster Interface) (faults : Nat → Fault) (rows : Connections)
    (r : Resource Interface) (uid : String) : List (Target × Insertion) :=
  creationsFrom faults uid { rows } (targets c r)

section
variable {faults : Nat → Fault} {uid : String}

theorem mem_insertOrIgnore {rows : Connections} {row other : Connection} :
    other ∈ insertOrIgnore rows row ↔ other ∈ rows ∨ other = row := by
  unfold insertOrIgnore
  split
  · rename_i known
    exact ⟨.inl, fun either => either.elim id fun same => same ▸ known⟩
  · simp

theorem connect_cases (p : Progress) (t : Target) :
    (existNetworkConnection (faults p.handled) p.rows uid t.uid = true ∧
      connect faults uid p t = { p with handled := p.handled + 1 }) ∨
    (existNetworkConnection (faults p.handled) p.rows uid t.uid = false ∧
      connect faults uid p t = {
        rows := if (faults p.handled).insertion = .lost then p.rows
          else insertOrIgnore p.rows ⟨uid, t.uid⟩
        success := t.combine p.success (decide ((faults p.handled).insertion = .committed))
        handled := p.handled + 1 }) := by
  unfold connect
  dsimp only
  cases found : existNetworkConnection (faults p.handled) p.rows uid t.uid with
  | true => exact .inl ⟨rfl, if_pos rfl⟩
  | false =>
    refine .inr ⟨rfl, (if_neg (by decide)).trans ?_⟩
    unfold createNetworkConnection
    cases (faults p.handled).insertion <;> rfl

theorem mem_foldl_connect (row : Connection) (p : Progress) (ts : List Target) :
    row ∈ (ts.foldl (connect faults uid) p).rows ↔
      row ∈ p.rows ∨ ∃ a ∈ creationsFrom faults uid p ts, a.2 ≠ .lost ∧ row = ⟨uid, a.1.uid⟩ := by
  induction ts generalizing p with
  | nil => simp [creationsFrom]
  | cons t rest ih =>
    rw [List.foldl_cons, ih, creationsFrom]
    rcases connect_cases p t with ⟨found, turn⟩ | ⟨missing, turn⟩
    · rw [turn, if_pos found]
      rfl
    · rw [turn]
      simp only [missing, Bool.false_eq_true, if_false, List.singleton_append]
      by_cases lost : (faults p.handled).insertion = .lost
      · simp [lost]
      · simp [lost, mem_insertOrIgnore, or_assoc]

theorem mem_or_lost {t : Target} (p : Progress) {ts : List Target} (member : t ∈ ts) :
    (⟨uid, t.uid⟩ : Connection) ∈ (ts.foldl (connect faults uid) p).rows ∨
      (t, .lost) ∈ creationsFrom faults uid p ts := by
  induction ts generalizing p with
  | nil => cases member
  | cons u rest ih =>
    rw [List.foldl_cons, creationsFrom]
    rcases List.mem_cons.mp member with rfl | later
    · rcases connect_cases p t with ⟨found, turn⟩ | ⟨missing, turn⟩
      · left
        simp only [existNetworkConnection, Bool.and_eq_true, decide_eq_true_eq] at found
        rw [turn]
        exact (mem_foldl_connect _ _ _).mpr (.inl found.2)
      · by_cases lost : (faults p.handled).insertion = .lost
        · right
          simp only [missing, Bool.false_eq_true, if_false, lost]
          exact List.mem_append_left _ (List.mem_singleton_self _)
        · left
          refine (mem_foldl_connect _ _ _).mpr (.inl ?_)
          rw [turn]
          simp only [lost, if_false]
          exact mem_insertOrIgnore.mpr (.inr rfl)
    · exact (ih _ later).imp id (List.mem_append_right _)

theorem success_foldl_connect (p : Progress) (ts : List Target) :
    (ts.foldl (connect faults uid) p).success =
      (creationsFrom faults uid p ts).foldl
        (fun success a => a.1.combine success (decide (a.2 = .committed))) p.success := by
  induction ts generalizing p with
  | nil => rfl
  | cons t rest ih =>
    rw [List.foldl_cons, ih, creationsFrom]
    rcases connect_cases p t with ⟨found, turn⟩ | ⟨missing, turn⟩
    · rw [turn, if_pos found]
      rfl
    · rw [turn]
      simp only [missing, Bool.false_eq_true, if_false, List.singleton_append, List.foldl_cons]

theorem creationsFrom_append (p : Progress) (xs ys : List Target) :
    creationsFrom faults uid p (xs ++ ys) = creationsFrom faults uid p xs ++
      creationsFrom faults uid (xs.foldl (connect faults uid) p) ys := by
  induction xs generalizing p with
  | nil => rfl
  | cons t rest ih => simp only [List.cons_append, creationsFrom, ih, List.append_assoc, List.foldl_cons]

theorem mem_of_creation {a : Target × Insertion} (p : Progress) {ts : List Target}
    (member : a ∈ creationsFrom faults uid p ts) : a.1 ∈ ts := by
  induction ts generalizing p with
  | nil => cases member
  | cons t rest ih =>
    rw [creationsFrom] at member
    rcases List.mem_append.mp member with here | later
    · split at here
      · cases here
      · cases List.mem_singleton.mp here
        exact List.mem_cons_self
    · exact List.mem_cons_of_mem _ (ih _ later)

end

def Target.IsNetwork : Target → Prop
  | .network _ => True
  | .destination _ => False

instance : DecidablePred Target.IsNetwork
  | .network _ => isTrue trivial
  | .destination _ => isFalse id

theorem foldl_networks {as : List (Target × Insertion)} (networks : ∀ a ∈ as, a.1.IsNetwork)
    (success : Bool) : as.foldl (fun success a => a.1.combine success
      (decide (a.2 = .committed))) success = true ↔ success = true ∧ ∀ a ∈ as, a.2 = .committed := by
  induction as generalizing success with
  | nil => simp
  | cons a rest ih =>
    obtain ⟨t, insertion⟩ := a
    have network := networks _ List.mem_cons_self
    cases t with
    | network uid =>
      rw [List.foldl_cons, ih fun b later => networks b (List.mem_cons_of_mem _ later)]
      simp [Target.combine, and_assoc]
    | destination uid => exact absurd network id

theorem foldl_destinations {as : List (Target × Insertion)}
    (destinations : ∀ a ∈ as, ¬ a.1.IsNetwork) (success : Bool) :
    as.foldl (fun success a => a.1.combine success (decide (a.2 = .committed))) success = true ↔
      success = true ∨ ∃ a ∈ as, a.2 = .committed := by
  induction as generalizing success with
  | nil => simp
  | cons a rest ih =>
    obtain ⟨t, insertion⟩ := a
    have destination := destinations _ List.mem_cons_self
    cases t with
    | network uid => exact absurd trivial destination
    | destination uid =>
      rw [List.foldl_cons, ih fun b later => destinations b (List.mem_cons_of_mem _ later)]
      simp [Target.combine, or_assoc]

/-- For a route: every row was there or its creation was not lost; or nothing reports success, as
the creation for the network is not confirmed and neither is any for a destination. -/
def Unmasked (c : Cluster Interface) (faults : Nat → Fault) (rows : Connections)
    (r : Resource Interface) (uid : String) : Prop :=
  r.kind = "ComputeRoute" →
    (∀ t ∈ targets c r, ⟨uid, t.uid⟩ ∈ rows ∨
      ∃ a ∈ creations c faults rows r uid, a.1.uid = t.uid ∧ a.2 ≠ .lost) ∨
    (∃ a ∈ creations c faults rows r uid, a.1.IsNetwork ∧ a.2 ≠ .committed) ∧
      ∀ a ∈ creations c faults rows r uid, ¬ a.1.IsNetwork → a.2 ≠ .committed

section
variable {c : Cluster Interface} {faults : Nat → Fault} {rows : Connections}
  {r : Resource Interface} {uid : String}

theorem networks_of_other (other : r.kind ≠ "ComputeRoute") :
    ∀ t ∈ targets c r, t.IsNetwork := by
  intro t member
  obtain ⟨s, -, inside⟩ := List.mem_flatMap.mp member
  rw [targetsOf, if_neg other, List.append_nil] at inside
  obtain ⟨uid, -, rfl⟩ := List.mem_map.mp inside
  trivial

theorem targets_route (route : r.kind = "ComputeRoute") :
    targets c r = (c.findNetworkReference r.spec).toList.map .network ++
      (c.findDestinationSubnets r.destRange).map .destination := by
  have other : "ComputeRoute" ≠ "ComputeInstance" := by decide
  simp [targets, Resource.specs, targetsOf, route, other]

theorem success_route (route : r.kind = "ComputeRoute") :
    (createOrUpdateNetworkConnections c faults rows r uid).1 = true ↔
      (∀ a ∈ creations c faults rows r uid, a.1.IsNetwork → a.2 = .committed) ∨
        ∃ a ∈ creations c faults rows r uid, ¬ a.1.IsNetwork ∧ a.2 = .committed := by
  have split := targets_route (c := c) route
  simp only [createOrUpdateNetworkConnections, creations]
  rw [success_foldl_connect, split, creationsFrom_append, List.foldl_append]
  have networks : ∀ a ∈ creationsFrom faults uid { rows }
      ((c.findNetworkReference r.spec).toList.map .network), a.1.IsNetwork := fun a member => by
    obtain ⟨_, -, same⟩ := List.mem_map.mp (mem_of_creation _ member)
    rw [← same]
    trivial
  generalize creationsFrom faults uid { rows } _ = before at networks ⊢
  have destinations : ∀ p, ∀ a ∈ creationsFrom faults uid p
      ((c.findDestinationSubnets r.destRange).map .destination), ¬ a.1.IsNetwork :=
    fun p a member => by
      obtain ⟨_, -, same⟩ := List.mem_map.mp (mem_of_creation _ member)
      rw [← same]
      exact id
  generalize (List.foldl _ _ _ : Progress) = p
  have last := destinations p
  generalize creationsFrom faults uid p _ = after at last ⊢
  rw [foldl_destinations last, foldl_networks networks]
  simp only [List.mem_append, or_imp, forall_and, true_and, or_and_right, exists_or]
  constructor
  · rintro (all | ⟨a, member, done⟩)
    · exact .inl ⟨fun a member _ => all a member, fun a member network =>
        absurd network (last a member)⟩
    · exact .inr (.inr ⟨a, member, last a member, done⟩)
  · rintro (⟨all, -⟩ | ⟨a, member, other, -⟩ | ⟨a, member, -, done⟩)
    · exact .inl fun a member => all a member (networks a member)
    · exact absurd (networks a member) other
    · exact .inr ⟨a, member, done⟩

theorem rows_after (t : Target) :
    (⟨uid, t.uid⟩ : Connection) ∈ (createOrUpdateNetworkConnections c faults rows r uid).2 ↔
      ⟨uid, t.uid⟩ ∈ rows ∨ ∃ a ∈ creations c faults rows r uid, a.1.uid = t.uid ∧ a.2 ≠ .lost := by
  refine (mem_foldl_connect _ _ _).trans (or_congr Iff.rfl ?_)
  constructor
  · rintro ⟨a, member, kept, same⟩
    exact ⟨a, member, (congrArg Connection.toId same).symm, kept⟩
  · rintro ⟨a, member, same, kept⟩
    exact ⟨a, member, kept, by rw [same]⟩

end

/-- The result is truthful exactly when no route masks a lost creation. -/
theorem result_truthful_iff (c : Cluster Interface) (faults : Nat → Fault) (rows : Connections)
    (r : Resource Interface) (uid : String) :
    Truthful c faults rows r uid ↔ Unmasked c faults rows r uid := by
  by_cases route : r.kind = "ComputeRoute"
  · simp only [Truthful, Unmasked, route, true_implies, success_route route, rows_after]
    constructor
    · intro truthful
      by_cases reported : (∀ a ∈ creations c faults rows r uid, a.1.IsNetwork → a.2 = .committed) ∨
          ∃ a ∈ creations c faults rows r uid, ¬ a.1.IsNetwork ∧ a.2 = .committed
      · exact .inl (truthful reported)
      · obtain ⟨network, destinations⟩ := not_or.mp reported
        push Not at network destinations
        exact .inr ⟨network, destinations⟩
    · rintro (every | ⟨⟨a, member, network, failed⟩, silent⟩) reported
      · exact every
      · rcases reported with all | ⟨b, known, destination, done⟩
        · exact absurd (all a member network) failed
        · exact absurd done (silent b known destination)
  · refine iff_of_true (fun success t member => ?_) fun same => absurd same route
    have committed : ∀ a ∈ creations c faults rows r uid, a.2 = .committed := by
      simp only [createOrUpdateNetworkConnections] at success
      rw [success_foldl_connect] at success
      refine ((foldl_networks (fun a known => ?_) _).mp success).2
      exact networks_of_other route a.1 (mem_of_creation _ known)
    rcases mem_or_lost { rows } member with present | lost
    · exact present
    · cases committed _ lost

/-- A route to one subnet whose row is lost, with no network of its own. -/
theorem lost_destination_masked : ¬ ∀ (c : Cluster Unit) (faults : Nat → Fault)
    (rows : Connections) (r : Resource Unit) (uid : String), Truthful c faults rows r uid := by
  intro claimed
  have present := claimed ⟨fun _ => none, fun _ => ["subnet"]⟩ (fun _ => ⟨false, .lost⟩) []
    ⟨"ComputeRoute", none, (), "10.0.0.0/24"⟩ "route" (by decide) (.destination "subnet") (by decide)
  exact absurd present (by decide)

end NetworkAgent.Operator
