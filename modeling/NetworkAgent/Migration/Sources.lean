import Mathlib.Data.List.ReduceOption
import NetworkAgent.Cloud.IncidentEffects
import NetworkAgent.Local.Agreement
import NetworkAgent.Migration.Export

/-! The three repositories that a migration may export, as sources at rest. -/
namespace NetworkAgent

/-! `list`, without a status. -/

def Memory.list (h : Host) (m : Memory) (limit offset : Nat) :
    Except RepositoryError (List Incident) := do
  requirePage limit offset
  let incidents := m.incidents.values.insertionSort fun i j =>
    textLe i.incidentId.text j.incidentId.text
  boundedPage h (·.toJson) 0 ((incidents.drop offset).take limit)

def Local.Database.list (d : Local.Driver) (db : Local.Database) (limit offset : Nat) :
    Except Local.Fault (List Incident) := do
  Local.lift (requirePage limit offset)
  Local.Database.appendBounded d.toHost (fun r => Local.parseIncident d r.2) (·.toJson) 0
    (Local.Database.page (some limit) offset db.payloads)

namespace Cloud.Spanner

def incidentRows (s : Spanner) : List IncidentRow :=
  s.incidents.values.insertionSort fun r r' => textLe r.columns.incidentId r'.columns.incidentId

/-- A row is asked for no incident here, so it is bound to its own. -/
def list (h : Host) (s : Spanner) (limit offset : Nat) : Except IncidentError (List Incident) := do
  requireValue (1 ≤ limit ∧ limit ≤ 1000) "limit must be between 1 and 1000"
  requireValue (offset ≤ 100000) "offset must be between 0 and 100000"
  boundedPage h "incident-list" (fun r => r.parse h r.columns.incidentId) Incident.toJson 0
    ((s.incidentRows.drop offset).take limit)

end Cloud.Spanner

namespace Migration

/-- A repository at rest. Its rows stand in a fixed order, each reads as a value or fails, and a
page is answered when all its rows read. -/
structure Source (ε : Type) extends Reads ε where
  incidents : List (Option Incident)
  associations : String → List (Option SourceEventAssociation)
  listed : ∀ {limit offset page}, list limit offset = .ok page →
    page.map some = Paging.page incidents limit offset
  associated : ∀ {incidentId limit offset page},
    sourceEventAssociations incidentId limit offset = .ok page →
      page.map some = Paging.page (associations incidentId) limit offset
  ascending : incidents.reduceOption.Pairwise fun i j =>
    textLe i.incidentId.text j.incidentId.text = true

/-! What the rows of a page are read as. -/

section
variable {R A ε : Type} {parse : R → Except ε A} {rows : List R} {page : List A}

theorem read_rows (pairs : List.Forall₂ (fun r a => parse r = .ok a) rows page) :
    page.map some = rows.map fun r => (parse r).toOption := by
  induction pairs with
  | nil => rfl
  | cons first _ ih => simp [first, ih, Except.toOption]

theorem read_page {limit offset : Nat}
    (pairs : List.Forall₂ (fun r a => parse r = .ok a) (Paging.page rows limit offset) page) :
    page.map some = Paging.page (rows.map fun r => (parse r).toOption) limit offset := by
  rw [Paging.page_map, read_rows pairs]

theorem read_ascending {key : R → String} {id : A → String}
    (named : ∀ r ∈ rows, ∀ a, parse r = .ok a → id a = key r)
    (sorted : rows.Pairwise fun r r' => textLe (key r) (key r') = true) :
    (rows.map fun r => (parse r).toOption).reduceOption.Pairwise fun a b =>
      textLe (id a) (id b) = true := by
  have parsed : ∀ {r a}, (parse r).toOption = some a → parse r = .ok a := by
    intro r a known
    cases read : parse r <;> simp_all [Except.toOption]
  rw [List.reduceOption, List.filterMap_map, List.pairwise_filterMap]
  refine sorted.imp_of_mem fun {r r'} member member' le a read b read' => ?_
  rw [named r member a (parsed read), named r' member' b (parsed read')]
  exact le

end

theorem reduceOption_some {A : Type} (values : List A) : (values.map some).reduceOption = values := by
  simp [List.reduceOption]

/-! The repositories. -/

theorem memory_list_ok {h : Host} {m : Memory} {limit offset : Nat} {page : List Incident}
    (read : m.list h limit offset = .ok page) :
    page = Paging.page (m.incidents.values.insertionSort fun i j =>
      textLe i.incidentId.text j.incidentId.text) limit offset := by
  simp only [Memory.list, Checks.seq_ok] at read
  exact boundedPage_ok read.2

theorem memory_associations_ok {h : Host} {m : Memory} {incidentId : String} {limit offset : Nat}
    {page : List SourceEventAssociation}
    (read : m.sourceEventAssociations h incidentId limit offset = .ok page) :
    page = Paging.page (((m.sourceEvents.rows.filter fun r => r.1.1 = incidentId).map
      Prod.snd).insertionSort fun a b => textLe a.sourceEventId.text b.sourceEventId.text)
        limit offset := by
  simp only [Memory.sourceEventAssociations, Checks.bind_ok] at read
  obtain ⟨_, _, _, _, read⟩ := read
  exact boundedPage_ok read

def memorySource (h : Host) (m : Memory) : Source RepositoryError where
  list := m.list h
  sourceEventAssociations := m.sourceEventAssociations h
  incidents := (m.incidents.values.insertionSort fun i j =>
    textLe i.incidentId.text j.incidentId.text).map some
  associations incidentId := (((m.sourceEvents.rows.filter fun r => r.1.1 = incidentId).map
    Prod.snd).insertionSort fun a b => textLe a.sourceEventId.text b.sourceEventId.text).map some
  listed read := by rw [memory_list_ok read, Paging.page_map]
  associated read := by rw [memory_associations_ok read, Paging.page_map]
  ascending := by
    rw [reduceOption_some]
    exact Sorting.pairwise_sorted_by (fun i : Incident => i.incidentId.text) _

theorem spanner_list_ok {h : Host} {s : Cloud.Spanner} {limit offset : Nat} {page : List Incident}
    (read : s.list h limit offset = .ok page) : List.Forall₂
      (fun r a => Cloud.IncidentRow.parse h r r.columns.incidentId = .ok a)
      (Paging.page s.incidentRows limit offset) page := by
  simp only [Cloud.Spanner.list, Checks.seq_ok] at read
  exact Cloud.boundedPage_ok read.2.2

theorem spanner_associations_ok {h : Host} {s : Cloud.Spanner} {incidentId : String}
    {limit offset : Nat} {page : List SourceEventAssociation}
    (read : s.sourceEventAssociations h incidentId limit offset = .ok page) : List.Forall₂
      (fun r a => Cloud.SourceRow.parse h r incidentId = .ok a)
      (Paging.page (s.sourceRows incidentId) limit offset) page := by
  simp only [Cloud.Spanner.sourceEventAssociations, Checks.bind_ok] at read
  obtain ⟨_, _, _, _, _, _, read⟩ := read
  exact Cloud.boundedPage_ok read

def spannerSource (h : Host) (s : Cloud.Spanner) : Source Cloud.IncidentError where
  list := s.list h
  sourceEventAssociations := s.sourceEventAssociations h
  incidents := s.incidentRows.map fun r => (r.parse h r.columns.incidentId).toOption
  associations incidentId := (s.sourceRows incidentId).map fun r => (r.parse h incidentId).toOption
  listed read := read_page (spanner_list_ok read)
  associated read := read_page (spanner_associations_ok read)
  ascending := by
    have named : ∀ r ∈ s.incidentRows, ∀ i, r.parse h r.columns.incidentId = .ok i →
        i.incidentId.text = r.columns.incidentId :=
      fun r _ i read => (Cloud.incidentRow_parse_ok.mp read).2.1
    have sorted : s.incidentRows.Pairwise fun r r' =>
        textLe r.columns.incidentId r'.columns.incidentId = true :=
      Sorting.pairwise_sorted_by (fun r : Cloud.IncidentRow => r.columns.incidentId) _
    exact read_ascending named sorted

theorem appendBounded_ok {R A : Type} {h : Host} {parse : R → Except Local.Fault A}
    {image : A → Json} {size : Nat} {rows : List R} {page : List A}
    (read : Local.Database.appendBounded h parse image size rows = .ok page) :
    List.Forall₂ (fun r a => parse r = .ok a) rows page := by
  induction rows generalizing size page with
  | nil =>
    cases read
    exact .nil
  | cons r rest ih =>
    simp only [Local.Database.appendBounded, Checks.bind_ok, pure, Except.pure,
      Except.ok.injEq] at read
    obtain ⟨a, parsed, _, _, _, _, tail, later, rfl⟩ := read
    exact .cons parsed (ih later)

theorem database_list_ok {d : Local.Driver} {db : Local.Database} {limit offset : Nat}
    {page : List Incident} (read : db.list d limit offset = .ok page) : List.Forall₂
      (fun r a => Local.parseIncident d r.2 = .ok a) (Paging.page db.payloads limit offset) page := by
  simp only [Local.Database.list, Checks.seq_ok] at read
  exact appendBounded_ok read.2

def associationRows (db : Local.Database) (incidentId : String) :
    List ((String × String) × Local.SourceRow) :=
  (db.sourceEvents.rows.filter fun r => r.1.1 = incidentId).insertionSort
    fun a b => textLe a.1.2 b.1.2

theorem database_associations_ok {d : Local.Driver} {db : Local.Database} {incidentId : String}
    {limit offset : Nat} {page : List SourceEventAssociation}
    (read : db.sourceEventAssociations d incidentId limit offset = .ok page) : List.Forall₂
      (fun r a => Local.parseAssociation d r.1.1 r.1.2 r.2 = .ok a)
      (Paging.page (associationRows db incidentId) limit offset) page := by
  simp only [Local.Database.sourceEventAssociations, Checks.bind_ok] at read
  obtain ⟨_, _, _, _, _, _, read⟩ := read
  exact appendBounded_ok read

/-- The key of a row of the database is the incident that it holds, as every repository keeps
it that mirrors an in-memory one. -/
def databaseSource (d : Local.Driver) {m : Memory} {db : Local.Database}
    (mirrors : Local.Mirrors d m db) : Source Local.Fault where
  list := db.list d
  sourceEventAssociations := db.sourceEventAssociations d
  incidents := db.payloads.map fun r => (Local.parseIncident d r.2).toOption
  associations incidentId := (associationRows db incidentId).map fun r =>
    (Local.parseAssociation d r.1.1 r.1.2 r.2).toOption
  listed read := read_page (database_list_ok read)
  associated read := by
    have pairs := database_associations_ok read
    exact read_page pairs
  ascending := by
    have named : ∀ r ∈ db.payloads, ∀ i, Local.parseIncident d r.2 = .ok i →
        i.incidentId.text = r.1 := by
      intro r member i read
      obtain ⟨row, stored, same⟩ := Local.Database.mem_payloads.mp member
      have here : m.incidents.lookup r.1 = some i := by
        rw [mirrors.incidents, stored, (Local.parseIncident_ok.mp read).1, ← same]
        rfl
      exact mirrors.keyed.key here
    have sorted : db.payloads.Pairwise fun r r' => textLe r.1 r'.1 = true :=
      Sorting.pairwise_sorted_by (fun r : String × Incident => r.1) _
    exact read_ascending named sorted

end Migration
end NetworkAgent
