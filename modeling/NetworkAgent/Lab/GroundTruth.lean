import Mathlib.Data.Int.Interval
import NetworkAgent.Lab.InterferenceCsv
import NetworkAgent.Library.Folding
import NetworkAgent.Library.Stretches

/-! The ground truth of an interference file: the episodes of its bundle are the maximal runs of the
anomalous seconds of each resource. -/
namespace NetworkAgent.Adapters
open Checks (bind_ok require_ok)
open Lab (ModelSafe)
open NetworkAgent.Bundle
open Stretches (Run)

structure Labelled where
  observation : LabObservation
  anomalous : Bool

namespace Labelled

def time (row : Labelled) : Instant := row.observation.observedAt
def resource (row : Labelled) : String := row.observation.resourceId

end Labelled

def second (x : ℤ) : Instant := 1000000 * x

theorem second_lt {x y : ℤ} : second x < second y ↔ x < y := by
  change (1000000 * x : ℤ) < 1000000 * y ↔ x < y
  omega

theorem second_le {x y : ℤ} : second x ≤ second y ↔ x ≤ y := by
  change (1000000 * x : ℤ) ≤ 1000000 * y ↔ x ≤ y
  omega

theorem second_injective {x y : ℤ} (same : second x = second y) : x = y := by
  change (1000000 * x : ℤ) = 1000000 * y at same
  omega

def anomalies (rows : List Labelled) : Set ℤ :=
  {x | ∃ row ∈ rows, row.anomalous = true ∧ row.time = second x}

def own (rows : List Labelled) (k : String) : List Labelled := rows.filter (·.resource = k)

/-- An episode of the seconds from `a` to `b`, which are a maximal run of anomalous ones. -/
structure Covers (rows : List Labelled) (e : OpenEpisode) (a b : ℤ) : Prop where
  run : Run (anomalies rows) a b
  start : e.windowStart = second a
  stop : e.windowEnd = second b
  count : (e.sampleCount : ℤ) = b - a + 1
  first : ∃ row ∈ rows, row.time = e.windowStart ∧
    row.observation.observationId = e.firstObservationId
  last : ∃ row ∈ rows, row.time = e.windowEnd ∧
    row.observation.observationId = e.lastObservationId

/-! One resource. -/

/-- What has been read of one resource: its rows, the episodes that are closed, the one that is
open, and the time of the last row. -/
structure Track (rows : List Labelled) (closed : List OpenEpisode) (current : Option OpenEpisode)
    (previous : Option Instant) : Prop where
  whole : ∀ row ∈ rows, ∃ x, row.time = second x
  ordered : rows.Pairwise fun a b => a.time < b.time
  latest : ∀ row ∈ rows, ∃ t, previous = some t ∧ row.time ≤ t
  reached : ∀ t, previous = some t → ∃ row ∈ rows, row.time = t
  covers : ∀ e ∈ closed ++ current.toList, ∃ a b, Covers rows e a b
  counted : ∀ row ∈ rows, row.anomalous = true →
    ∃ e ∈ closed ++ current.toList, e.windowStart ≤ row.time ∧ row.time ≤ e.windowEnd
  apart : (closed ++ current.toList).Pairwise fun a b => a.windowEnd < b.windowStart
  running : ∀ e, current = some e → previous = some e.windowEnd
  shut : current = none → ∀ row ∈ rows, row.anomalous = true → ∃ t, previous = some t ∧ row.time < t

theorem track_nil : Track [] [] none none := by
  constructor <;> simp

section
variable {rows : List Labelled} {closed : List OpenEpisode} {current : Option OpenEpisode}
  {previous : Option Instant} {row : Labelled} {x : ℤ}

theorem anomalies_quiet (quiet : row.anomalous = false) :
    anomalies (rows ++ [row]) = anomalies rows := by
  ext y
  simp [anomalies, quiet]

theorem anomalies_loud (loud : row.anomalous = true) (time : row.time = second x) :
    anomalies (rows ++ [row]) = insert x (anomalies rows) := by
  ext y
  have same : row.time = second y ↔ y = x := by
    rw [time]
    exact ⟨fun same => (second_injective same).symm, fun same => same ▸ rfl⟩
  simp only [anomalies, List.mem_append, List.mem_singleton, or_and_right, exists_or,
    exists_eq_left, loud, true_and, same, Set.mem_ofPred_eq, Set.mem_insert_iff]
  exact or_comm

theorem Covers.append {e : OpenEpisode} {a b : ℤ} (covers : Covers rows e a b) (row : Labelled)
    (run : Run (anomalies (rows ++ [row])) a b) : Covers (rows ++ [row]) e a b where
  run := run
  start := covers.start
  stop := covers.stop
  count := covers.count
  first := by
    obtain ⟨row, member, first⟩ := covers.first
    exact ⟨row, List.mem_append_left _ member, first⟩
  last := by
    obtain ⟨row, member, last⟩ := covers.last
    exact ⟨row, List.mem_append_left _ member, last⟩

theorem Track.later (track : Track rows closed current previous)
    (later : ∀ t, previous = some t → t < row.time) {old : Labelled} (member : old ∈ rows) :
    old.time < row.time := by
  obtain ⟨t, known, low⟩ := track.latest old member
  exact lt_of_le_of_lt low (later t known)

theorem Track.ordered_append (track : Track rows closed current previous)
    (later : ∀ t, previous = some t → t < row.time) :
    (rows ++ [row]).Pairwise fun a b => a.time < b.time := by
  refine List.pairwise_append.mpr ⟨track.ordered, List.pairwise_singleton _ _, ?_⟩
  intro old member other single
  rw [List.mem_singleton.mp single]
  exact track.later later member

theorem Track.whole_append (track : Track rows closed current previous)
    (time : row.time = second x) :
    ∀ row' ∈ rows ++ [row], ∃ x, row'.time = second x := by
  intro row' member
  rcases List.mem_append.mp member with old | single
  · exact track.whole row' old
  · exact ⟨x, List.mem_singleton.mp single ▸ time⟩

theorem Track.latest_append (track : Track rows closed current previous)
    (later : ∀ t, previous = some t → t < row.time) :
    ∀ row' ∈ rows ++ [row], ∃ t, some row.time = some t ∧ row'.time ≤ t := by
  intro row' member
  refine ⟨row.time, rfl, ?_⟩
  rcases List.mem_append.mp member with old | single
  · exact (track.later later old).le
  · exact (List.mem_singleton.mp single ▸ le_rfl)

theorem reached_append : ∀ t, some row.time = some t → ∃ row' ∈ rows ++ [row], row'.time = t := by
  intro t same
  cases same
  exact ⟨row, by simp, rfl⟩

theorem Track.quiet (track : Track rows closed current previous)
    (later : ∀ t, previous = some t → t < row.time) (time : row.time = second x)
    (quiet : row.anomalous = false) :
    Track (rows ++ [row]) (closed ++ current.toList) none (some row.time) where
  whole := track.whole_append time
  ordered := track.ordered_append later
  latest := track.latest_append later
  reached := reached_append
  covers e member := by
    rw [Option.toList_none, List.append_nil] at member
    obtain ⟨a, b, covers⟩ := track.covers e member
    refine ⟨a, b, covers.append row ?_⟩
    rw [anomalies_quiet quiet]
    exact covers.run
  counted row' member anomalous := by
    rw [Option.toList_none, List.append_nil]
    rcases List.mem_append.mp member with old | single
    · exact track.counted row' old anomalous
    · rw [List.mem_singleton.mp single, quiet] at anomalous
      cases anomalous
  apart := by
    rw [Option.toList_none, List.append_nil]
    exact track.apart
  running e same := by cases same
  shut _ row' member anomalous := by
    refine ⟨row.time, rfl, ?_⟩
    rcases List.mem_append.mp member with old | single
    · exact track.later later old
    · rw [List.mem_singleton.mp single, quiet] at anomalous
      cases anomalous

theorem covers_start (loud : row.anomalous = true) (time : row.time = second x)
    (gap : ∀ y ∈ anomalies rows, y + 1 < x) :
    Covers (rows ++ [row]) (startEpisode row.observation) x x where
  run := by
    rw [anomalies_loud loud time]
    exact (Stretches.run_open gap).mpr (.inl ⟨rfl, rfl⟩)
  start := time
  stop := time
  count := by simp [startEpisode]
  first := ⟨row, by simp, rfl, rfl⟩
  last := ⟨row, by simp, rfl, rfl⟩

theorem Track.start (track : Track rows closed current previous)
    (later : ∀ t, previous = some t → t < row.time) (time : row.time = second x)
    (loud : row.anomalous = true) (gap : ∀ y ∈ anomalies rows, y + 1 < x) :
    Track (rows ++ [row]) (closed ++ current.toList) (some (startEpisode row.observation))
      (some row.time) where
  whole := track.whole_append time
  ordered := track.ordered_append later
  latest := track.latest_append later
  reached := reached_append
  covers e member := by
    rcases List.mem_append.mp member with old | new
    · obtain ⟨a, b, covers⟩ := track.covers e old
      refine ⟨a, b, covers.append row ?_⟩
      rw [anomalies_loud loud time]
      exact (Stretches.run_open gap).mpr (.inr covers.run)
    · rw [Option.toList_some, List.mem_singleton] at new
      rw [new]
      exact ⟨x, x, covers_start loud time gap⟩
  counted row' member anomalous := by
    rcases List.mem_append.mp member with old | single
    · obtain ⟨e, member, inside⟩ := track.counted row' old anomalous
      exact ⟨e, List.mem_append_left _ member, inside⟩
    · rw [List.mem_singleton.mp single]
      exact ⟨startEpisode row.observation, by simp, le_rfl, le_rfl⟩
  apart := by
    refine List.pairwise_append.mpr ⟨track.apart, List.pairwise_singleton _ _, ?_⟩
    intro e member other single
    obtain ⟨a, b, covers⟩ := track.covers e member
    have below := gap b covers.run.last
    have start : (startEpisode row.observation).windowStart = second x := time
    rw [Option.toList_some, List.mem_singleton] at single
    rw [single, covers.stop, start]
    exact second_lt.mpr (by omega)
  running e same := by
    cases same
    rfl
  shut same := by cases same

theorem Track.extend {e : OpenEpisode} (track : Track rows closed (some e) previous)
    (loud : row.anomalous = true) (next : row.time = e.windowEnd + 1000000) :
    Track (rows ++ [row]) closed (some (extendEpisode e row.observation)) (some row.time) := by
  obtain ⟨a, b, own⟩ := track.covers e (by simp)
  have last := track.running e rfl
  have later : ∀ t, previous = some t → t < row.time := by
    intro t known
    rw [last] at known
    cases known
    rw [next]
    exact lt_add_of_pos_right _ (by decide)
  have time : row.time = second (b + 1) := by
    rw [next, own.stop]
    change (1000000 * b + 1000000 : ℤ) = 1000000 * (b + 1)
    omega
  have largest : ∀ y ∈ anomalies rows, y ≤ b := by
    rintro y ⟨old, member, -, same⟩
    obtain ⟨t, known, low⟩ := track.latest old member
    rw [last] at known
    cases known
    rw [same, own.stop] at low
    exact second_le.mp low
  have run := fun c d => Stretches.run_extend (c := c) (d := d) own.run largest
  have longer : Covers (rows ++ [row]) (extendEpisode e row.observation) a (b + 1) := by
    refine ⟨?_, own.start, time, ?_, ?_, ⟨row, by simp, rfl, rfl⟩⟩
    · rw [anomalies_loud loud time]
      exact (run a (b + 1)).mpr (.inl ⟨rfl, rfl⟩)
    · have count := own.count
      simp only [extendEpisode]
      push_cast
      omega
    · obtain ⟨first, member, same⟩ := own.first
      exact ⟨first, List.mem_append_left _ member, same⟩
  obtain ⟨closedApart, -, before⟩ := List.pairwise_append.mp track.apart
  refine ⟨track.whole_append time, track.ordered_append later, track.latest_append later,
    reached_append, ?_, ?_, ?_, ?_, fun same => by cases same⟩
  · intro f member
    rcases List.mem_append.mp member with old | new
    · obtain ⟨c, d, covers⟩ := track.covers f (List.mem_append_left _ old)
      refine ⟨c, d, covers.append row ?_⟩
      rw [anomalies_loud loud time]
      refine (run c d).mpr (.inr ⟨covers.run, fun same => ?_⟩)
      have earlier := before f old e (by simp)
      rw [covers.stop, own.start, second_lt] at earlier
      have := own.run.ordered
      omega
    · rw [Option.toList_some, List.mem_singleton] at new
      rw [new]
      exact ⟨a, b + 1, longer⟩
  · intro row' member anomalous
    rcases List.mem_append.mp member with old | single
    · obtain ⟨f, member, low, high⟩ := track.counted row' old anomalous
      rcases List.mem_append.mp member with closed | new
      · exact ⟨f, List.mem_append_left _ closed, low, high⟩
      · rw [Option.toList_some, List.mem_singleton] at new
        rw [new] at low
        exact ⟨_, List.mem_append_right _ (List.mem_singleton_self _), low,
          (track.later later old).le⟩
    · rw [List.mem_singleton.mp single]
      refine ⟨_, List.mem_append_right _ (List.mem_singleton_self _), ?_, le_rfl⟩
      have low : second a ≤ second (b + 1) := second_le.mpr (by have := own.run.ordered; omega)
      exact (longer.start ▸ time ▸ low)
  · refine List.pairwise_append.mpr ⟨closedApart, List.pairwise_singleton _ _, ?_⟩
    intro f member other single
    rw [Option.toList_some, List.mem_singleton] at single
    rw [single]
    exact before f member e (by simp)
  · intro f same
    cases same
    rfl

/-- What the label of an observation does: the episode that is open before, the ones it closes and
the one that is open after it. -/
inductive Step (o : LabObservation) :
    Bool → Option OpenEpisode → List OpenEpisode → Option OpenEpisode → Prop where
  | extend {e : OpenEpisode} (next : o.observedAt = e.windowEnd + 1000000) :
      Step o true (some e) [] (some (extendEpisode e o))
  | start {current : Option OpenEpisode}
      (gap : ∀ e, current = some e → o.observedAt ≠ e.windowEnd + 1000000) :
      Step o true current current.toList (some (startEpisode o))
  | quiet {current : Option OpenEpisode} : Step o false current current.toList none

theorem Track.gap (track : Track rows closed current previous)
    (later : ∀ t, previous = some t → t < row.time) (time : row.time = second x)
    (apart : ∀ e, current = some e → row.time ≠ e.windowEnd + 1000000) :
    ∀ y ∈ anomalies rows, y + 1 < x := by
  rintro y ⟨old, member, anomalous, same⟩
  cases opened : current with
  | none =>
    obtain ⟨t, known, before⟩ := track.shut opened old member anomalous
    obtain ⟨last, inside, rfl⟩ := track.reached t known
    obtain ⟨z, whole⟩ := track.whole last inside
    have after := later _ known
    rw [same, whole, second_lt] at before
    rw [time, whole, second_lt] at after
    omega
  | some e =>
    have known := track.running e opened
    obtain ⟨t, known', low⟩ := track.latest old member
    rw [known] at known'
    cases known'
    obtain ⟨a, b, own⟩ := track.covers e (by simp [opened])
    have after := later _ known
    have ne := apart e opened
    rw [same, own.stop, second_le] at low
    rw [time, own.stop, second_lt] at after
    rw [time, own.stop] at ne
    have different : x ≠ b + 1 := by
      rintro rfl
      refine ne ?_
      change (1000000 * (b + 1) : ℤ) = 1000000 * b + 1000000
      omega
    omega

theorem Track.step {ended : List OpenEpisode} {next : Option OpenEpisode}
    (track : Track rows closed current previous)
    (later : ∀ t, previous = some t → t < row.time) (time : row.time = second x)
    (step : Step row.observation row.anomalous current ended next) :
    Track (rows ++ [row]) (closed ++ ended) next (some row.time) := by
  generalize label : row.anomalous = anomalous at step
  cases step with
  | extend follows =>
    rw [List.append_nil]
    exact track.extend label follows
  | start apart => exact track.start later time label (track.gap later time apart)
  | quiet => exact track.quiet later time label

end

/-! One record. -/

def stateOf (e : LabEpisode) : OpenEpisode where
  resourceId := e.resourceId
  windowStart := e.windowStart
  windowEnd := e.windowEnd
  sampleCount := e.sampleCount
  firstObservationId := e.firstObservationId
  lastObservationId := e.lastObservationId

structure ReadAs (h : Host) (r : Readers) (p : Provenance) (headers : List String)
    (record : List String × Nat) (row : Labelled) : Prop where
  number : row.observation.sourceRowNumber = record.2
  time : parseCsvTime r (cell headers record.1 "timestamp")
    (cell headers record.1 "timestamp_iso") = .ok row.time
  resource : safeResourceId h p (cell headers record.1 "e2node_nb_id") = .ok row.resource
  label : parseLabel r (cell headers record.1 "persistent_anomaly") = .ok row.anomalous

section
variable {h : Host} {r : Readers} {p : Provenance} {limits : Limits} {headers : List String}

theorem episode_validated {e out : LabEpisode} :
    LabEpisode.modelValidate h e = some out ↔ e.stripped.Valid h ∧ e.stripped = out := by
  rw [LabEpisode.modelValidate, Option.ite_none_right_eq_some, Option.some.injEq]

theorem observation_validated {o out : LabObservation} :
    LabObservation.modelValidate h o = some out ↔ o.stripped.Valid h ∧ o.stripped = out := by
  rw [LabObservation.modelValidate, Option.ite_none_right_eq_some, Option.some.injEq]

theorem closeEpisode_state {state : OpenEpisode} {e : LabEpisode}
    (closed : closeEpisode h p state = some e) : stateOf e = state := by
  obtain ⟨-, rfl⟩ := episode_validated.mp closed
  rfl

theorem buildObservation_fields {number : Nat} {sample : Sample} {o : LabObservation}
    (built : buildObservation h p number sample = some o) :
    o.sourceRowNumber = number ∧ o.observedAt = sample.observedAt ∧
      o.resourceId = sample.resourceId := by
  obtain ⟨-, rfl⟩ := observation_validated.mp built
  exact ⟨rfl, rfl, rfl⟩

theorem parseCsvTime_second {unix iso : String} {t : Instant}
    (read : parseCsvTime r unix iso = .ok t) : ∃ x, t = second x := by
  obtain ⟨_, -, read⟩ := bind_ok.mp read
  obtain ⟨_, -, read⟩ := bind_ok.mp read
  obtain ⟨_, -, read⟩ := bind_ok.mp read
  obtain ⟨_, -, read⟩ := bind_ok.mp read
  cases read
  exact ⟨_, rfl⟩

theorem appendEpisode_ok {s m : Reading} {state : OpenEpisode}
    (done : appendEpisode h p limits s state = .ok m) : ∃ e outputBytes, stateOf e = state ∧
      m = { s with episodes := s.episodes ++ [e], outputBytes } := by
  obtain ⟨_, -, done⟩ := bind_ok.mp done
  cases closed : closeEpisode h p state with
  | none =>
    rw [closed] at done
    cases done
  | some e =>
    rw [closed] at done
    obtain ⟨_, -, done⟩ := bind_ok.mp done
    cases done
    exact ⟨e, _, closeEpisode_state closed, rfl⟩

theorem readRow_ok {s out : Reading} {record : List String × Nat}
    (done : readRow h r p limits headers s record = .ok out) : ∃ row : Labelled,
      ReadAs h r p headers record row ∧
      (∀ t, s.previousTime.lookup row.resource = some t → t < row.time) ∧
      ∃ outputBytes m, trackLabel h p limits
          { s with observations := s.observations ++ [row.observation], outputBytes }
          row.observation row.anomalous = .ok m ∧
        out = { m with previousTime := m.previousTime.insert row.resource row.time } := by
  obtain ⟨_, -, done⟩ := bind_ok.mp done
  obtain ⟨_, -, done⟩ := bind_ok.mp done
  obtain ⟨sample, read, done⟩ := bind_ok.mp done
  obtain ⟨observedAt, time, read⟩ := bind_ok.mp read
  obtain ⟨resourceId, resource, read⟩ := bind_ok.mp read
  obtain ⟨_, later, read⟩ := bind_ok.mp read
  obtain ⟨_, -, read⟩ := bind_ok.mp read
  obtain ⟨_, -, read⟩ := bind_ok.mp read
  cases read
  cases built : buildObservation h p record.2 _ with
  | none =>
    rw [built] at done
    cases done
  | some observation =>
    rw [built] at done
    obtain ⟨_, -, done⟩ := bind_ok.mp done
    obtain ⟨anomalous, label, done⟩ := bind_ok.mp done
    obtain ⟨m, tracked, done⟩ := bind_ok.mp done
    obtain ⟨number, same, same'⟩ := buildObservation_fields built
    cases done
    refine ⟨⟨observation, anomalous⟩, ⟨number, ?_, ?_, label⟩, ?_, _, m, tracked, ?_⟩
    · rw [time]
      exact congrArg _ same.symm
    · rw [resource]
      exact congrArg _ same'.symm
    · intro t known
      change s.previousTime.lookup observation.resourceId = some t at known
      change t < observation.observedAt
      rw [same'] at known
      rw [same]
      exact require_ok.mp later t known
    · change _ = { m with
        previousTime := m.previousTime.insert observation.resourceId observation.observedAt }
      rw [same, same']

theorem trackLabel_ok {s m : Reading} {o : LabObservation} {anomalous : Bool}
    (done : trackLabel h p limits s o anomalous = .ok m)
    (keyed : ∀ e, s.openEpisodes.lookup o.resourceId = some e → e.resourceId = o.resourceId) :
    (m.observations = s.observations ∧ m.previousTime = s.previousTime) ∧
      ∃ (ended : List LabEpisode) (next : Option OpenEpisode),
        m.episodes = s.episodes ++ ended ∧
        (∀ k, m.openEpisodes.lookup k =
          if k = o.resourceId then next else s.openEpisodes.lookup k) ∧
        (∀ e ∈ ended, e.resourceId = o.resourceId) ∧
        Step o anomalous (s.openEpisodes.lookup o.resourceId) (ended.map stateOf) next := by
  have inserted : ∀ (t : Table String OpenEpisode) (e : OpenEpisode) (k : String),
      (t.insert o.resourceId e).lookup k = if k = o.resourceId then some e else t.lookup k := by
    intro t e k
    by_cases same : k = o.resourceId
    · rw [same, AList.lookup_insert, if_pos rfl]
    · rw [AList.lookup_insert_ne same, if_neg same]
  have erased : ∀ (t : Table String OpenEpisode) (k : String),
      (t.erase o.resourceId).lookup k = if k = o.resourceId then none else t.lookup k := by
    intro t k
    by_cases same : k = o.resourceId
    · rw [same, AList.lookup_erase, if_pos rfl]
    · rw [AList.lookup_erase_ne same, if_neg same]
  unfold trackLabel at done
  dsimp only at done
  cases opened : s.openEpisodes.lookup o.resourceId with
  | none =>
    rw [opened] at done
    cases anomalous with
    | true =>
      cases done
      exact ⟨⟨rfl, rfl⟩, [], _, (List.append_nil _).symm, inserted _ _, by simp,
        .start (by simp)⟩
    | false =>
      cases done
      refine ⟨⟨rfl, rfl⟩, [], none, (List.append_nil _).symm, fun k => ?_, by simp, .quiet⟩
      split
      · next same => rw [same, opened]
      · rfl
  | some current =>
    rw [opened] at done
    cases anomalous with
    | true =>
      dsimp only at done
      split at done
      · next follows =>
        cases done
        exact ⟨⟨rfl, rfl⟩, [], _, (List.append_nil _).symm, inserted _ _, by simp,
          .extend follows⟩
      · next apart =>
        obtain ⟨m, closed, done⟩ := bind_ok.mp done
        obtain ⟨e, _, same, rfl⟩ := appendEpisode_ok closed
        cases done
        refine ⟨⟨rfl, rfl⟩, [e], _, rfl, inserted _ _, ?_, ?_⟩
        · simpa [← same, stateOf] using keyed current opened
        · rw [List.map_singleton, same]
          exact .start fun _ same => by cases same; exact apart
    | false =>
      obtain ⟨m, closed, done⟩ := bind_ok.mp done
      obtain ⟨e, _, same, rfl⟩ := appendEpisode_ok closed
      cases done
      refine ⟨⟨rfl, rfl⟩, [e], none, rfl, erased _, ?_, ?_⟩
      · simpa [← same, stateOf] using keyed current opened
      · rw [List.map_singleton, same]
        exact .quiet

theorem Step.keyed {o : LabObservation} {anomalous : Bool} {current next : Option OpenEpisode}
    {ended : List OpenEpisode} (step : Step o anomalous current ended next)
    (keyed : ∀ e, current = some e → e.resourceId = o.resourceId) :
    ∀ e, next = some e → e.resourceId = o.resourceId := by
  intro e same
  cases step with
  | extend follows =>
    cases same
    have own := keyed _ rfl
    exact own
  | start apart =>
    cases same
    rfl
  | quiet => cases same

/-! The file. -/

def ownEpisodes (episodes : List LabEpisode) (k : String) : List OpenEpisode :=
  (episodes.filter (·.resourceId = k)).map stateOf

structure Tracks (rows : List Labelled) (s : Reading) : Prop where
  observations : s.observations = rows.map (·.observation)
  keyed : ∀ k e, s.openEpisodes.lookup k = some e → e.resourceId = k
  track : ∀ k, Track (own rows k) (ownEpisodes s.episodes k) (s.openEpisodes.lookup k)
    (s.previousTime.lookup k)

theorem tracks_nil : Tracks [] {} := ⟨rfl, (fun k e same => by cases same), fun k => track_nil⟩

theorem tracks_step {rows : List Labelled} {s out : Reading} {record : List String × Nat}
    (tracks : Tracks rows s) (done : readRow h r p limits headers s record = .ok out) :
    ∃ row, ReadAs h r p headers record row ∧ Tracks (rows ++ [row]) out := by
  obtain ⟨row, read, later, _, m, labelled, rfl⟩ := readRow_ok done
  have moved := trackLabel_ok labelled (tracks.keyed _)
  dsimp only at moved
  obtain ⟨⟨observations, previous⟩, ended, next, episodes, opened, resource, step⟩ := moved
  obtain ⟨x, time⟩ := parseCsvTime_second read.time
  refine ⟨row, read, ?_, fun k e same => ?_, fun k => ?_⟩
  · rw [List.map_append, ← tracks.observations]
    exact observations
  · change m.openEpisodes.lookup k = some e at same
    rw [opened] at same
    split at same
    · next here =>
      rw [here]
      exact step.keyed (tracks.keyed _) e same
    · exact tracks.keyed k e same
  · change Track _ (ownEpisodes m.episodes k) (m.openEpisodes.lookup k)
      ((m.previousTime.insert row.resource row.time).lookup k)
    have opened : m.openEpisodes.lookup k = if k = row.resource then next else _ := opened k
    rw [opened, episodes, ownEpisodes, own, List.filter_append, List.filter_append]
    by_cases here : row.resource = k
    · have all : ended.filter (fun e => e.resourceId = k) = ended :=
        List.filter_eq_self.mpr fun e member => decide_eq_true ((resource e member).trans here)
      rw [if_pos here.symm, all, List.map_append, List.filter_cons_of_pos (by simpa using here),
        List.filter_nil, ← here, AList.lookup_insert]
      exact (tracks.track _).step later time step
    · have none : ended.filter (fun e => e.resourceId = k) = [] :=
        List.filter_eq_nil_iff.mpr fun e member same =>
          here ((resource e member).symm.trans (of_decide_eq_true same))
      rw [if_neg fun same => here same.symm, none, List.append_nil,
        List.filter_cons_of_neg (by simpa using here), List.filter_nil, List.append_nil,
        AList.lookup_insert_ne fun same => here same.symm, previous]
      exact tracks.track k

theorem tracks_run {records : List (List String × Nat)} {rows : List Labelled} {s out : Reading}
    (tracks : Tracks rows s)
    (done : records.foldlM (readRow h r p limits headers) s = .ok out) :
    ∃ more, List.Forall₂ (ReadAs h r p headers) records more ∧ Tracks (rows ++ more) out := by
  induction records generalizing rows s with
  | nil =>
    cases Folding.foldlM_nil.mp done
    exact ⟨[], .nil, by rwa [List.append_nil]⟩
  | cons record rest ih =>
    obtain ⟨m, first, later⟩ := Folding.foldlM_cons.mp done
    obtain ⟨row, read, tracks⟩ := tracks_step tracks first
    obtain ⟨more, reads, tracks⟩ := ih tracks later
    exact ⟨row :: more, .cons read reads, by rwa [List.append_assoc] at tracks⟩

/-! The end of the file. -/

theorem appendAll_ok {states : List OpenEpisode} {s m : Reading}
    (done : states.foldlM (appendEpisode h p limits) s = .ok m) : ∃ ended,
      ended.map stateOf = states ∧ m.episodes = s.episodes ++ ended ∧
        m.observations = s.observations := by
  induction states generalizing s with
  | nil =>
    cases Folding.foldlM_nil.mp done
    exact ⟨[], rfl, (List.append_nil _).symm, rfl⟩
  | cons state rest ih =>
    obtain ⟨n, first, later⟩ := Folding.foldlM_cons.mp done
    obtain ⟨e, _, same, rfl⟩ := appendEpisode_ok first
    obtain ⟨ended, states, episodes, observations⟩ := ih later
    refine ⟨e :: ended, ?_, ?_, observations⟩
    · rw [List.map_cons, same, states]
    · rw [episodes, List.append_assoc]
      rfl

theorem opened_own {t : Table String OpenEpisode}
    (keyed : ∀ k e, t.lookup k = some e → e.resourceId = k) (k : String) {keys : List String}
    (distinct : keys.Nodup) :
    (keys.filterMap fun k => t.lookup k).filter (·.resourceId = k) =
      if k ∈ keys then (t.lookup k).toList else [] := by
  induction keys with
  | nil => rfl
  | cons first rest ih =>
    obtain ⟨once, distinct⟩ := List.nodup_cons.mp distinct
    have later := ih distinct
    cases known : t.lookup first with
    | none =>
      have skipped : (first :: rest).filterMap (fun k => t.lookup k) =
          rest.filterMap fun k => t.lookup k := List.filterMap_cons_none known
      rw [skipped, later]
      by_cases same : k = first
      · rw [same, if_neg once, known, if_pos List.mem_cons_self]
        rfl
      · simp [same]
    | some e =>
      have kept : (first :: rest).filterMap (fun k => t.lookup k) =
          e :: rest.filterMap fun k => t.lookup k := List.filterMap_cons_some known
      rw [kept, List.filter_cons, later]
      have resource := keyed first e known
      by_cases same : k = first
      · rw [same, if_neg once, known, if_pos List.mem_cons_self, if_pos (by simpa using resource)]
        rfl
      · have other : first ≠ k := fun equal => same equal.symm
        simp [same, resource, other]

theorem flush_own {rows : List Labelled} {s m : Reading} (tracks : Tracks rows s)
    (done : flush h p limits s = .ok m) : m.observations = s.observations ∧
      ∀ k, ownEpisodes m.episodes k =
        ownEpisodes s.episodes k ++ (s.openEpisodes.lookup k).toList := by
  obtain ⟨ended, states, episodes, observations⟩ := appendAll_ok done
  refine ⟨observations, fun k => ?_⟩
  have perm := List.perm_insertionSort (fun a b => textLe a b = true) s.openEpisodes.keys
  have opened := opened_own tracks.keyed k (perm.nodup_iff.mpr s.openEpisodes.keys_nodup)
  have split : (ended.filter (·.resourceId = k)).map stateOf =
      (ended.map stateOf).filter (·.resourceId = k) := by
    rw [List.filter_map]
    rfl
  rw [ownEpisodes, ownEpisodes, episodes, List.filter_append, List.map_append, split, states,
    opened]
  split
  · rfl
  · next absent =>
    have none := AList.lookup_eq_none.mpr fun member => absent (perm.mem_iff.mpr member)
    rw [none]
    rfl

/-! The bundle. -/

/-- The episodes of a bundle are the maximal runs of the anomalous rows of each resource; every
anomalous row is in one of them, and an episode has as many samples as there are rows in it. -/
structure GroundTruth (rows : List Labelled) (b : LabBundle) : Prop where
  observations : b.observations = rows.map (·.observation)
  runs : ∀ k start stop, Run (anomalies (own rows k)) start stop ↔ ∃ e ∈ b.groundTruthEpisodes,
    e.resourceId = k ∧ e.windowStart = second start ∧ e.windowEnd = second stop
  covers : ∀ e ∈ b.groundTruthEpisodes,
    ∃ start stop, Covers (own rows e.resourceId) (stateOf e) start stop
  once : ∀ row ∈ rows, row.anomalous = true → ∃! e, e ∈ b.groundTruthEpisodes ∧
    e.resourceId = row.resource ∧ e.windowStart ≤ row.time ∧ row.time ≤ e.windowEnd
  counted : ∀ e ∈ b.groundTruthEpisodes, (own rows e.resourceId).countP (fun row =>
    row.anomalous = true ∧ e.windowStart ≤ row.time ∧ row.time ≤ e.windowEnd) = e.sampleCount

theorem mem_own {rows : List Labelled} {row : Labelled} {k : String} :
    row ∈ own rows k ↔ row ∈ rows ∧ row.resource = k := by
  rw [own, List.mem_filter, decide_eq_true_eq]

theorem mem_ownEpisodes {episodes : List LabEpisode} {state : OpenEpisode} {k : String} :
    state ∈ ownEpisodes episodes k ↔ ∃ e ∈ episodes, e.resourceId = k ∧ stateOf e = state := by
  simp only [ownEpisodes, List.mem_map, List.mem_filter, decide_eq_true_eq, and_assoc]

def Apart (a b : LabEpisode) : Prop := a.windowEnd < b.windowStart ∨ b.windowEnd < a.windowStart

instance : Std.Symm Apart := ⟨fun _ _ => Or.symm⟩

theorem count_run {rows : List Labelled} {e : OpenEpisode} {a b : ℤ} (covers : Covers rows e a b)
    (whole : ∀ row ∈ rows, ∃ x, row.time = second x)
    (ordered : rows.Pairwise fun a b => a.time < b.time) :
    rows.countP (fun row => row.anomalous = true ∧ e.windowStart ≤ row.time ∧
      row.time ≤ e.windowEnd) = e.sampleCount := by
  let seconds := (rows.filter fun row => row.anomalous = true ∧ e.windowStart ≤ row.time ∧
    row.time ≤ e.windowEnd).map fun row => row.time / 1000000
  have exact : ∀ {row : Labelled} {x : ℤ}, row.time = second x → row.time / 1000000 = x := by
    intro row x same
    rw [same]
    exact Int.mul_ediv_cancel_left x (by decide)
  have distinct : seconds.Nodup := by
    refine List.pairwise_map.mpr ((ordered.filter _).imp_of_mem fun first second less same => ?_)
    obtain ⟨x, time⟩ := whole _ (List.mem_of_mem_filter first)
    obtain ⟨y, time'⟩ := whole _ (List.mem_of_mem_filter second)
    rw [exact time, exact time'] at same
    rw [time, time', same] at less
    exact lt_irrefl _ less
  have members : seconds.toFinset = Finset.Icc a b := by
    ext x
    rw [List.mem_toFinset, Finset.mem_Icc, List.mem_map]
    constructor
    · rintro ⟨row, member, rfl⟩
      obtain ⟨inside, kept⟩ := List.mem_filter.mp member
      obtain ⟨-, low, high⟩ := of_decide_eq_true kept
      obtain ⟨x, time⟩ := whole row inside
      rw [time, covers.start, second_le] at low
      rw [time, covers.stop, second_le] at high
      rw [exact time]
      exact ⟨low, high⟩
    · rintro ⟨low, high⟩
      obtain ⟨row, inside, anomalous, time⟩ := covers.run.inside x low high
      refine ⟨row, List.mem_filter.mpr ⟨inside, decide_eq_true ⟨anomalous, ?_, ?_⟩⟩, exact time⟩
      · rw [time, covers.start]
        exact second_le.mpr low
      · rw [time, covers.stop]
        exact second_le.mpr high
  have size : seconds.length = (b + 1 - a).toNat := by
    rw [← List.toFinset_card_of_nodup distinct, members, Int.card_Icc]
  have count := covers.count
  rw [List.countP_eq_length_filter]
  rw [List.length_map] at size
  omega

theorem ground_truth {rows : List Labelled} {s m : Reading} {b : LabBundle} (tracks : Tracks rows s)
    (observations : b.observations = s.observations)
    (episodes : ∀ k, ownEpisodes m.episodes k =
      ownEpisodes s.episodes k ++ (s.openEpisodes.lookup k).toList)
    (perm : b.groundTruthEpisodes.Perm m.episodes) : GroundTruth rows b := by
  have covers : ∀ e ∈ b.groundTruthEpisodes,
      ∃ start stop, Covers (own rows e.resourceId) (stateOf e) start stop := by
    intro e member
    refine (tracks.track e.resourceId).covers (stateOf e) ?_
    rw [← episodes]
    exact mem_ownEpisodes.mpr ⟨e, perm.mem_iff.mp member, rfl, rfl⟩
  have counted : ∀ row ∈ rows, row.anomalous = true → ∃ e ∈ b.groundTruthEpisodes,
      e.resourceId = row.resource ∧ e.windowStart ≤ row.time ∧ row.time ≤ e.windowEnd := by
    intro row member anomalous
    obtain ⟨state, inside, window⟩ :=
      (tracks.track row.resource).counted row (mem_own.mpr ⟨member, rfl⟩) anomalous
    rw [← episodes] at inside
    obtain ⟨e, emitted, resource, rfl⟩ := mem_ownEpisodes.mp inside
    exact ⟨e, perm.mem_iff.mpr emitted, resource, window⟩
  refine ⟨observations.trans tracks.observations, fun k start stop => ⟨fun run => ?_, ?_⟩, covers,
    fun row member anomalous => ?_, fun e member => ?_⟩
  · obtain ⟨row, member, anomalous, time⟩ := run.first
    obtain ⟨inside, resource⟩ := mem_own.mp member
    obtain ⟨e, member, same, low, high⟩ := counted row inside anomalous
    obtain ⟨a, c, own⟩ := covers e member
    have resource : e.resourceId = k := same.trans resource
    rw [resource] at own
    have starts : e.windowStart = second a := own.start
    have stops : e.windowEnd = second c := own.stop
    rw [time, starts, second_le] at low
    rw [time, stops, second_le] at high
    obtain ⟨rfl, rfl⟩ := run.unique own.run le_rfl run.ordered low high
    exact ⟨e, member, resource, starts, stops⟩
  · rintro ⟨e, member, rfl, starts, stops⟩
    obtain ⟨a, c, own⟩ := covers e member
    cases second_injective (starts.symm.trans own.start)
    cases second_injective (stops.symm.trans own.stop)
    exact own.run
  · obtain ⟨e, found, same, low, high⟩ := counted row member anomalous
    refine ⟨e, ⟨found, same, low, high⟩, ?_⟩
    rintro other ⟨found', same', low', high'⟩
    have apart := (tracks.track row.resource).apart
    rw [← episodes, ownEpisodes, List.pairwise_map] at apart
    have either : (m.episodes.filter (·.resourceId = row.resource)).Pairwise Apart :=
      apart.imp Or.inl
    by_contra different
    rcases either.forall (List.mem_filter.mpr ⟨perm.mem_iff.mp found', decide_eq_true same'⟩)
      (List.mem_filter.mpr ⟨perm.mem_iff.mp found, decide_eq_true same⟩) different with less | less
    · exact absurd (lt_of_lt_of_le less low) (not_lt.mpr high')
    · exact absurd (lt_of_lt_of_le less low') (not_lt.mpr high)
  · obtain ⟨a, c, own⟩ := covers e member
    have track := tracks.track e.resourceId
    exact count_run own track.whole track.ordered

section
variable {h : Host} {r : Readers} {a : Arguments}

theorem assemble_ok {p : Provenance} {limits : Limits} {s : Reading} {b : LabBundle}
    (done : assemble h p limits s = .ok b) : b.Valid h ∧ b.observations = s.observations ∧
      b.groundTruthEpisodes = orderedEpisodes s := by
  obtain ⟨_, -, done⟩ := bind_ok.mp done
  cases manifest : LabBundleManifest.modelValidate h (buildManifest h p s) with
  | none =>
    rw [manifest] at done
    cases done
  | some manifest' =>
    rw [manifest] at done
    dsimp only at done
    unfold LabBundle.modelValidate at done
    split at done
    · cases done
    · next bundle validated =>
      obtain ⟨valid, same⟩ := Option.ite_none_right_eq_some.mp validated
      cases same
      obtain ⟨_, -, done⟩ := bind_ok.mp done
      cases done
      exact ⟨valid, rfl, rfl⟩

def builtBundle (h : Host) (p : Provenance) (s : Reading) : LabBundle :=
  ⟨buildManifest h p s, s.observations, orderedEpisodes s⟩

theorem mem_orderedEpisodes {s : Reading} {e : LabEpisode} :
    e ∈ orderedEpisodes s ↔ e ∈ s.episodes := (List.perm_insertionSort _ _).mem_iff

theorem built_valid {p : Provenance} {s : Reading} (manifest : (buildManifest h p s).Valid h)
    (count : 1 ≤ s.observations.length ∧ s.observations.length ≤ maxBundleObservations)
    (observations : ∀ o ∈ s.observations, o.Valid h)
    (count' : s.episodes.length ≤ maxBundleEpisodes) (episodes : ∀ e ∈ s.episodes, e.Valid h)
    (safe : ModelSafe h (builtBundle h p s).dump)
    (observationIds : (s.observations.map (·.observationId)).Nodup)
    (episodeIds : (s.episodes.map (·.episodeId)).Nodup)
    (observationScope : ∀ o ∈ s.observations, o.datasetId = p.datasetId ∧
      o.datasetVersion = p.datasetVersion ∧ o.sourceArtifactSha256 = p.sourceSha256)
    (episodeScope : ∀ e ∈ s.episodes, e.datasetId = p.datasetId ∧
      e.datasetVersion = p.datasetVersion ∧ e.sourceArtifactSha256 = p.sourceSha256)
    (separated : ((orderedEpisodes s).insertionSort fun a b =>
      LabBundle.episodeLe a b).IsChain LabBundle.Separated)
    (size : serializedBytes h (buildManifest h p s).dump +
      (s.observations.map fun o => serializedBytes h o.dump).sum +
        (s.episodes.map fun e => serializedBytes h e.dump).sum ≤ maxBundleSerializedBytes) :
    (builtBundle h p s).Valid h where
  manifest := manifest
  observations := ⟨count, observations⟩
  groundTruthEpisodes := by
    refine ⟨?_, fun e member => episodes e (mem_orderedEpisodes.mp member)⟩
    rw [builtBundle, orderedEpisodes, List.length_insertionSort]
    exact count'
  safe := safe
  observationCount := rfl
  episodeCount := (List.length_insertionSort _ _).symm
  observationIds := observationIds
  episodeIds := ((List.perm_insertionSort _ _).map _).nodup_iff.mpr episodeIds
  observationScope := observationScope
  episodeScope e member := episodeScope e (mem_orderedEpisodes.mp member)
  resources := rfl
  metrics := rfl
  start := by
    cases known : s.observations with
    | nil => simp [known] at count
    | cons o rest => simp [builtBundle, buildManifest, known]
  stop := by
    cases known : s.observations with
    | nil => simp [known] at count
    | cons o rest => simp [builtBundle, buildManifest, known]
  content := rfl
  identified := rfl
  separated := separated
  size := by
    have sum := ((List.perm_insertionSort (fun a b => episodeOrder a b = true) s.episodes).map
      fun e => serializedBytes h e.dump).sum_eq
    change _ + _ + ((orderedEpisodes s).map fun e => serializedBytes h e.dump).sum ≤ _
    rw [orderedEpisodes, sum]
    exact size

/-! A file that is accepted, step by step. -/

theorem trackLabel_of {p : Provenance} {limits : Limits} {s : Reading} {o : LabObservation}
    (closed : s.openEpisodes.lookup o.resourceId = none) : trackLabel h p limits s o true =
      .ok { s with openEpisodes := s.openEpisodes.insert o.resourceId (startEpisode o) } := by
  unfold trackLabel
  dsimp only
  rw [closed]
  rfl

theorem readRow_of {p : Provenance} {limits : Limits} {headers row : List String} {s m : Reading}
    {number outputBytes : Nat} {sample : Sample} {observation : LabObservation} {anomalous : Bool}
    (room : s.observations.length < limits.observations) (checked : checkRow r headers row = .ok ())
    (sampled : readSample h r p headers s row = .ok sample)
    (observed : buildObservation h p number sample = some observation)
    (written : s.outputBytes + serializedBytes h observation.dump = outputBytes)
    (small : outputBytes ≤ limits.outputBytes)
    (labelled : parseLabel r (cell headers row "persistent_anomaly") = .ok anomalous)
    (tracked : trackLabel h p limits
      { s with observations := s.observations ++ [observation], outputBytes } observation
      anomalous = .ok m) :
    readRow h r p limits headers s (row, number) = .ok { m with
      previousTime := m.previousTime.insert sample.resourceId sample.observedAt } := by
  refine Checks.seq_ok.mpr ⟨require_ok.mpr room, Checks.seq_ok.mpr ⟨checked,
    bind_ok.mpr ⟨sample, sampled, ?_⟩⟩⟩
  rw [observed]
  dsimp only
  rw [written]
  exact Checks.seq_ok.mpr ⟨require_ok.mpr small, bind_ok.mpr ⟨anomalous, labelled,
    bind_ok.mpr ⟨m, tracked, rfl⟩⟩⟩

theorem appendEpisode_of {p : Provenance} {limits : Limits} {s : Reading} {state : OpenEpisode}
    {e : LabEpisode} {outputBytes : Nat} (room : s.episodes.length < limits.episodes)
    (closed : closeEpisode h p state = some e)
    (grown : s.outputBytes + serializedBytes h e.dump = outputBytes)
    (small : outputBytes ≤ limits.outputBytes) : appendEpisode h p limits s state =
      .ok { s with episodes := s.episodes ++ [e], outputBytes } := by
  refine Checks.seq_ok.mpr ⟨require_ok.mpr room, ?_⟩
  rw [closed]
  dsimp only
  rw [grown]
  exact Checks.seq_ok.mpr ⟨require_ok.mpr small, rfl⟩

theorem assemble_of {p : Provenance} {limits : Limits} {s : Reading} (some : s.observations ≠ [])
    (stripped : (buildManifest h p s).stripped = buildManifest h p s)
    (manifest : (buildManifest h p s).Valid h) (bundle : (builtBundle h p s).Valid h)
    (small : s.outputBytes + serializedBytes h (buildManifest h p s).dump ≤ limits.outputBytes) :
    assemble h p limits s = .ok (builtBundle h p s) := by
  refine Checks.seq_ok.mpr ⟨require_ok.mpr some, ?_⟩
  have kept : LabBundleManifest.modelValidate h (buildManifest h p s) =
      .some (buildManifest h p s) := by
    rw [LabBundleManifest.modelValidate, stripped, if_pos manifest]
  have whole : LabBundle.modelValidate h ⟨buildManifest h p s, s.observations, orderedEpisodes s⟩ =
      .some (builtBundle h p s) := if_pos bundle
  rw [kept]
  dsimp only
  rw [whole]
  exact Checks.seq_ok.mpr ⟨require_ok.mpr small, rfl⟩

theorem caught_ok {α : Type} {result : Except Failure α} {out : α}
    (done : caught result = .ok out) : result = .ok out := by
  cases result with
  | error error => cases error <;> cases done
  | ok value => exact done

theorem readHeaders_ok {rawHeaders headers : List String}
    (done : readHeaders r rawHeaders = .ok headers) : headers = rawHeaders.map strip := by
  obtain ⟨_, -, done⟩ := bind_ok.mp done
  obtain ⟨_, -, done⟩ := bind_ok.mp done
  obtain ⟨_, -, done⟩ := bind_ok.mp done
  split at done
  · cases done
    rfl
  · split at done <;> cases done

theorem readRecords_ok {p : Provenance} {limits : Limits} {stream : Csv.Stream (List String)}
    {s : Reading} (done : readRecords h r p limits stream = .ok s) : ∃ rawHeaders records,
      stream = ⟨rawHeaders :: records, none⟩ ∧
        (records.zipIdx 2).foldlM (readRow h r p limits (rawHeaders.map strip)) {} = .ok s := by
  obtain ⟨items, error⟩ := stream
  cases items with
  | nil => cases done
  | cons rawHeaders records =>
    obtain ⟨headers, named, done⟩ := bind_ok.mp done
    obtain ⟨s', folded, done⟩ := bind_ok.mp done
    obtain ⟨_, ended, done⟩ := bind_ok.mp done
    cases done
    cases require_ok.mp ended
    cases readHeaders_ok named
    exact ⟨rawHeaders, records, rfl, folded⟩

def provenance (h : Host) (a : Arguments) (content : List Nat) : Provenance :=
  ⟨a.datasetId, a.datasetVersion, h.sha256 content⟩

/-- A bundle that is emitted passes its checks, and its episodes are the maximal runs of anomalous
seconds of each resource in the records of the file. -/
theorem interference_ground_truth {content : List Nat} {b : LabBundle}
    (accepted : adaptCsv h r a content = .ok b) : b.Valid h ∧
      ∃ rawHeaders records rows, csvReader r content = ⟨rawHeaders :: records, none⟩ ∧
        List.Forall₂ (ReadAs h r (provenance h a content) (rawHeaders.map strip))
          (records.zipIdx 2) rows ∧ GroundTruth rows b := by
  obtain ⟨limits, -, accepted⟩ := bind_ok.mp accepted
  obtain ⟨sha, hashed, accepted⟩ := bind_ok.mp accepted
  obtain ⟨s, read, accepted⟩ := bind_ok.mp accepted
  obtain ⟨m, flushed, accepted⟩ := bind_ok.mp accepted
  obtain ⟨_, -, hashed⟩ := bind_ok.mp hashed
  obtain ⟨_, -, hashed⟩ := bind_ok.mp hashed
  cases hashed
  obtain ⟨valid, observations, episodes⟩ := assemble_ok accepted
  refine ⟨valid, ?_⟩
  obtain ⟨rawHeaders, records, stream, folded⟩ := readRecords_ok (caught_ok read)
  obtain ⟨rows, reads, tracks⟩ := tracks_run tracks_nil folded
  obtain ⟨kept, own⟩ := flush_own tracks flushed
  refine ⟨rawHeaders, records, rows, stream, reads, ?_⟩
  exact ground_truth tracks (observations.trans kept) own
    (episodes ▸ List.perm_insertionSort _ _)

end

end

/-! A file with one anomalous row. -/
namespace CsvSample

def lines : List Char → List (List Char)
  | [] => []
  | c :: rest =>
    if c = '\n' then [c] :: lines rest
    else match lines rest with
      | [] => [[c]]
      | line :: later => (c :: line) :: later

/-- What is read of this file, which is in lower case. -/
def readers : Readers where
  openText bytes := ⟨lines (bytes.map Char.ofNat), none⟩
  float s := if isDigits 15 s then some (intOf s) else none
  fromisoformat s := if s = "2000-01-01T00:00:00+00:00" then
    some ⟨946684800000000, some 0, by decide⟩ else none
  casefold := id

def row : List String :=
  ["946684800", "2000-01-01T00:00:00Z", "1", "1", "1"] ++ columnMap.map fun column =>
    if column.1 = "mac_bsr" then "7" else ""

def content : List Nat :=
  utf8 (",".intercalate requiredColumns) ++ 10 :: (utf8 (",".intercalate row) ++ [10])

def limits : Limits := ⟨maxBundleObservations, maxBundleEpisodes, maxBundleSerializedBytes⟩

def source : Provenance where
  datasetId := "bubbleran-persistent-interference"
  datasetVersion := "fa4e3333855d64474e710bc5bebf11a9ec075e0b"
  sourceSha256 := ⟨"f83e136ca4306ffefc8f84fd33e0c6a5477602c4417c9fff470ddd0c6aafb79a",
    by decide +kernel, by decide +kernel⟩

def sample : Sample where
  observedAt := 946684800000000
  resourceId := "lab:5g-sa:gnb:8a9f93dd594f804a91605ea6"
  metrics := [("ran.mac.buffer_status_report", 7)]
  units := [("ran.mac.buffer_status_report", "count")]
  qualityFlags := ["MISSING_METRIC_VALUES"]

def observation : LabObservation where
  observationId := "labobs-6523aa52396e436beef995da8a14888d452abc290f14267ec1b494fa7cdb41be"
  datasetId := source.datasetId
  datasetVersion := source.datasetVersion
  sourceArtifactSha256 := source.sourceSha256
  sourceRowNumber := 2
  observedAt := sample.observedAt
  resourceId := sample.resourceId
  technology := .fiveGSa
  metrics := sample.metrics
  units := sample.units
  qualityFlags := sample.qualityFlags

def episode : LabEpisode where
  episodeId := "labtruth-861e7870f1c30d42bf307070835a9b854d913a8449e868c1ebda3421b22c3672"
  datasetId := source.datasetId
  datasetVersion := source.datasetVersion
  sourceArtifactSha256 := source.sourceSha256
  resourceId := sample.resourceId
  windowStart := sample.observedAt
  windowEnd := sample.observedAt
  sampleCount := 1
  firstObservationId := observation.observationId
  lastObservationId := observation.observationId

def reading : Reading where
  observations := [observation]
  openEpisodes := AList.insert sample.resourceId (startEpisode observation) ∅
  previousTime := AList.insert sample.resourceId sample.observedAt ∅
  outputBytes := 595

def ended : Reading := { reading with episodes := [episode], outputBytes := 1317 }

def bundle : LabBundle := builtBundle Host.ascii source ended

/-- What the adapter computes, step by step. -/
class Computed : Prop where
  hashed : Host.ascii.sha256 content = source.sourceSha256
  records : csvReader readers content = ⟨[requiredColumns, row], none⟩
  headers : readHeaders readers requiredColumns = .ok requiredColumns
  checked : checkRow readers requiredColumns row = .ok ()
  sampled : readSample Host.ascii readers source requiredColumns {} row = .ok sample
  observed : buildObservation Host.ascii source 2 sample = some observation
  written : ({} : Reading).outputBytes + serializedBytes Host.ascii observation.dump =
    reading.outputBytes
  labelled : parseLabel readers (cell requiredColumns row "persistent_anomaly") = .ok true
  closed : closeEpisode Host.ascii source (startEpisode observation) = some episode
  grown : reading.outputBytes + serializedBytes Host.ascii episode.dump = ended.outputBytes
  bundled : (buildManifest Host.ascii source ended).Valid Host.ascii ∧
    ModelSafe Host.ascii bundle.dump ∧
    serializedBytes Host.ascii (buildManifest Host.ascii source ended).dump ≤ 2000

instance computed : Computed where
  hashed := by decide +kernel
  records := by decide +kernel
  headers := by decide +kernel
  checked := by decide +kernel
  sampled := by decide +kernel
  observed := by decide +kernel
  written := by decide +kernel
  labelled := by decide +kernel
  closed := by decide +kernel
  grown := by decide +kernel
  bundled := by decide +kernel

theorem bundle_valid : bundle.Valid Host.ascii := by
  obtain ⟨observed, same⟩ := observation_validated.mp computed.observed
  obtain ⟨closed, same'⟩ := episode_validated.mp computed.closed
  have ordered : orderedEpisodes ended = [episode] := rfl
  refine built_valid computed.bundled.1 (by decide) ?_ (by decide) ?_
    computed.bundled.2.1 (List.nodup_singleton _) (List.nodup_singleton _) ?_ ?_ ?_ ?_
  · exact fun o member => List.mem_singleton.mp member ▸ same ▸ observed
  · exact fun e member => List.mem_singleton.mp member ▸ same' ▸ closed
  · exact fun o member => List.mem_singleton.mp member ▸ ⟨rfl, rfl, rfl⟩
  · exact fun e member => List.mem_singleton.mp member ▸ ⟨rfl, rfl, rfl⟩
  · rw [ordered]
    exact List.isChain_singleton _
  · have written := computed.written
    have grown := computed.grown
    have small := computed.bundled.2.2
    have observations : ended.observations = [observation] := rfl
    have episodes : ended.episodes = [episode] := rfl
    have limit : maxBundleSerializedBytes = 67108864 := by decide
    have bytes : reading.outputBytes = 595 := rfl
    have bytes' : ended.outputBytes = 1317 := rfl
    rw [observations, episodes, limit, List.map_singleton, List.map_singleton, List.sum_singleton,
      List.sum_singleton]
    omega

theorem row_read : readRow Host.ascii readers source limits requiredColumns {} (row, 2) =
    .ok reading := by
  have room : ({} : Reading).observations.length < limits.observations := by decide
  have small : reading.outputBytes ≤ limits.outputBytes := by decide
  exact readRow_of room computed.checked computed.sampled computed.observed computed.written small
    computed.labelled (trackLabel_of (AList.lookup_empty _))

theorem flushed : flush Host.ascii source limits reading = .ok ended := by
  have opened : (reading.openEpisodes.keys.insertionSort fun a b => textLe a b).filterMap
      (fun resourceId => reading.openEpisodes.lookup resourceId) = [startEpisode observation] := by
    have keys : (reading.openEpisodes.keys.insertionSort fun a b => textLe a b) =
        [sample.resourceId] := rfl
    have known : reading.openEpisodes.lookup sample.resourceId = some (startEpisode observation) :=
      AList.lookup_insert _
    rw [keys, List.filterMap_cons, known]
    rfl
  have closed : appendEpisode Host.ascii source limits reading (startEpisode observation) =
      .ok ended :=
    appendEpisode_of (by decide) computed.closed computed.grown (by decide)
  rw [flush, opened]
  exact Folding.foldlM_cons.mpr ⟨ended, closed, Folding.foldlM_nil.mpr rfl⟩

theorem stripped : bundle.manifest.stripped = bundle.manifest := by
  have names : stripWhitespace source.datasetId = source.datasetId ∧
      stripWhitespace source.datasetVersion = source.datasetVersion := by decide
  change { buildManifest Host.ascii source ended with
    datasetId := stripWhitespace source.datasetId
    datasetVersion := stripWhitespace source.datasetVersion } =
      buildManifest Host.ascii source ended
  rw [names.1, names.2]
  rfl

theorem assembled : assemble Host.ascii source limits ended = .ok bundle :=
  have small := computed.bundled.2.2
  have limit : ended.outputBytes + 2000 ≤ limits.outputBytes := by decide
  assemble_of (List.cons_ne_nil _ _) stripped computed.bundled.1 bundle_valid
    ((Nat.add_le_add_left small _).trans limit)

theorem accepted : adaptCsv Host.ascii readers {} content = .ok bundle := by
  have digest : streamSha256 Host.ascii maxInputCsvBytes content = .ok source.sourceSha256 := by
    refine Checks.seq_ok.mpr ⟨require_ok.mpr (by decide +kernel),
      Checks.seq_ok.mpr ⟨require_ok.mpr (by decide +kernel), ?_⟩⟩
    exact congrArg Except.ok computed.hashed
  have read : readRecords Host.ascii readers source limits ⟨[requiredColumns, row], none⟩ =
      .ok reading :=
    bind_ok.mpr ⟨requiredColumns, computed.headers, bind_ok.mpr ⟨reading,
      Folding.foldlM_cons.mpr ⟨reading, row_read, rfl⟩, rfl⟩⟩
  refine bind_ok.mpr ⟨limits, rfl, bind_ok.mpr ⟨source.sourceSha256, digest, ?_⟩⟩
  rw [computed.records]
  refine bind_ok.mpr ⟨reading, ?_, bind_ok.mpr ⟨ended, flushed, assembled⟩⟩
  exact congrArg caught read

end CsvSample

theorem interference_ground_truth_sample : CsvSample.bundle.Valid Host.ascii ∧
    ∃ rawHeaders records rows,
      csvReader CsvSample.readers CsvSample.content = ⟨rawHeaders :: records, none⟩ ∧
      List.Forall₂ (ReadAs Host.ascii CsvSample.readers
        (provenance Host.ascii {} CsvSample.content) (rawHeaders.map strip))
        (records.zipIdx 2) rows ∧ GroundTruth rows CsvSample.bundle :=
  interference_ground_truth CsvSample.accepted

end NetworkAgent.Adapters
