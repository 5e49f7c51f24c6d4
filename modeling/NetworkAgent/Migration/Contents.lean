import Mathlib.Logic.Function.Basic
import NetworkAgent.Library.Independence
import NetworkAgent.Memory.Repository

/-! What a repository holds, as functions of its keys and without the times of its commits, and
what the arrival of a snapshot makes of it. Arrivals that share no key are independent. -/
namespace NetworkAgent.Migration
open Classical

def untimed (e : IncidentAuditEvent) : IncidentAuditEvent := { e with occurredAt := 0 }

@[ext] structure Contents where
  incidents : String → Option Incident
  records : Scope → Option IdempotencyRecord
  history : String → Option (List IncidentAuditEvent)
  links : String × String → Option SourceEventAssociation

def contents (m : Memory) : Contents where
  incidents := m.incidents.lookup
  records := m.idempotency.lookup
  history k := (m.history.lookup k).map (·.map untimed)
  links := m.sourceEvents.lookup

structure Arrival where
  incident : Incident
  associations : List SourceEventAssociation
  scope : Scope
  fingerprint : Sha256.Digest
  events : List IncidentAuditEvent
  ofScope : scope.incidentId = incident.incidentId.text
  bound : ∀ l ∈ associations, l.incidentId = incident.incidentId

namespace Arrival

def id (a : Arrival) : String := a.incident.incidentId.text
def sources (a : Arrival) : List String := a.associations.map (·.sourceEventId.text)
def record (a : Arrival) : IdempotencyRecord := ⟨a.fingerprint, a.incident⟩

def link (a : Arrival) (k : String × String) : Option SourceEventAssociation :=
  a.associations.find? fun l => (l.incidentId.text, l.sourceEventId.text) = k

/-- No key of the one is a key of the other. -/
structure Distinct (a b : Arrival) : Prop where
  id : a.id ≠ b.id
  sources : ∀ s ∈ a.sources, s ∉ b.sources
  correlation : ∀ key, a.incident.correlationKey = some key → b.incident.correlationKey ≠ some key

theorem Distinct.symm {a b : Arrival} (apart : Distinct a b) : Distinct b a :=
  ⟨apart.id.symm, fun s mine other => apart.sources s other mine,
    fun key mine other => apart.correlation key other mine⟩

theorem Distinct.scope {a b : Arrival} (apart : Distinct a b) : a.scope ≠ b.scope := by
  intro same
  exact apart.id (a.ofScope.symm.trans (same ▸ b.ofScope))

theorem link_key {a : Arrival} {k : String × String} (brought : a.link k ≠ none) :
    k.1 = a.id ∧ k.2 ∈ a.sources := by
  obtain ⟨l, found⟩ := Option.ne_none_iff_exists'.mp brought
  have key := List.find?_some found
  have member := List.mem_of_find?_eq_some found
  simp only [decide_eq_true_eq] at key
  subst key
  exact ⟨congrArg (·.text) (a.bound l member), List.mem_map_of_mem member⟩

theorem link_eq_none {a : Arrival} {k : String × String} (other : k.2 ∉ a.sources) :
    a.link k = none := by
  by_contra brought
  exact other (link_key brought).2

end Arrival

inductive Outcome where
  | imported | replayed | conflict
  deriving DecidableEq

namespace Contents

def Competes (c : Contents) (a : Arrival) (j : Incident) : Prop :=
  j.status.isActive = true ∧
    ((∃ key, a.incident.correlationKey = some key ∧ j.correlationKey = some key) ∨
      ∃ s ∈ a.sources, c.links (j.incidentId.text, s) ≠ none)

structure Admits (c : Contents) (a : Arrival) : Prop where
  fresh : c.incidents a.id = none
  owned : ∀ s ∈ a.sources, ∀ owner, c.links (owner, s) ≠ none → owner = a.id
  alone : ∀ k j, c.incidents k = some j → ¬ c.Competes a j

noncomputable def outcome (c : Contents) (a : Arrival) : Outcome :=
  match c.records a.scope with
  | some record => if record.fingerprint = a.fingerprint then .replayed else .conflict
  | none => if c.Admits a then .imported else .conflict

noncomputable def put (c : Contents) (a : Arrival) : Contents where
  incidents := Function.update c.incidents a.id (some a.incident)
  records := Function.update c.records a.scope (some a.record)
  history := Function.update c.history a.id (some a.events)
  links k := (a.link k).or (c.links k)

noncomputable def step (c : Contents) (a : Arrival) : Contents :=
  if c.outcome a = .imported then c.put a else c

/-- Incidents are kept under their own names, and only stored incidents are linked. -/
structure Sound (c : Contents) : Prop where
  key : ∀ k j, c.incidents k = some j → j.incidentId.text = k
  known : ∀ k, c.links k ≠ none → c.incidents k.1 ≠ none

theorem outcome_imported {c : Contents} {a : Arrival} :
    c.outcome a = .imported ↔ c.records a.scope = none ∧ c.Admits a := by
  unfold outcome
  split
  · next found => split <;> simp [found]
  · next found => split <;> simp_all

theorem Sound.put {c : Contents} (sound : c.Sound) (a : Arrival) : (c.put a).Sound where
  key := by
    intro k j stored
    by_cases own : k = a.id
    · rw [own] at stored ⊢
      simp only [Contents.put, Function.update_self, Option.some.injEq] at stored
      exact stored ▸ rfl
    · simp only [Contents.put, Function.update_of_ne own] at stored
      exact sound.key k j stored
  known := by
    intro k linked
    by_cases own : k.1 = a.id
    · simp [Contents.put, own]
    · have absent : a.link k = none := by
        by_contra brought
        exact own (Arrival.link_key brought).1
      simp only [Contents.put, absent, Option.none_or] at linked
      simp only [Contents.put, Function.update_of_ne own]
      exact sound.known k linked

theorem Sound.step {c : Contents} (sound : c.Sound) (a : Arrival) : (c.step a).Sound := by
  unfold Contents.step
  split
  · exact sound.put a
  · exact sound

theorem admits_put {c : Contents} (sound : c.Sound) {a b : Arrival} (apart : a.Distinct b)
    (admitted : c.Admits a) : (c.put a).Admits b ↔ c.Admits b := by
  have links : ∀ owner, ∀ s ∈ b.sources, (c.put a).links (owner, s) = c.links (owner, s) := by
    intro owner s claimed
    have absent : a.link (owner, s) = none :=
      Arrival.link_eq_none fun mine => apart.sources s mine claimed
    simp only [put, absent, Option.none_or]
  have competes : ∀ j, (c.put a).Competes b j ↔ c.Competes b j := by
    intro j
    unfold Competes
    refine and_congr_right fun _ => or_congr_right (exists_congr fun s => and_congr_right fun claimed => ?_)
    rw [links _ s claimed]
  have others : ∀ k, k ≠ a.id → (c.put a).incidents k = c.incidents k := fun k other =>
    Function.update_of_ne other _ _
  constructor
  · rintro ⟨fresh, owned, alone⟩
    refine ⟨others _ apart.id.symm ▸ fresh, fun s claimed owner linked => ?_, fun k j stored => ?_⟩
    · exact owned s claimed owner (links owner s claimed ▸ linked)
    · have other : k ≠ a.id := by
        rintro rfl
        rw [admitted.fresh] at stored
        cases stored
      exact fun rival => alone k j ((others k other).trans stored) ((competes j).mpr rival)
  · rintro ⟨fresh, owned, alone⟩
    refine ⟨(others _ apart.id.symm).trans fresh, fun s claimed owner linked => ?_,
      fun k j stored rival => ?_⟩
    · exact owned s claimed owner (links owner s claimed ▸ linked)
    · have rival := (competes j).mp rival
      by_cases own : k = a.id
      · -- the arrival itself shares no key, and none of its links was there before
        have arrived : j = a.incident := by
          rw [own] at stored
          simpa [put] using stored.symm
        subst arrived
        rcases rival.2 with ⟨key, wanted, has⟩ | ⟨s, _, linked⟩
        · exact apart.correlation key has wanted
        · exact sound.known _ linked admitted.fresh
      · exact alone k j ((others k own).symm.trans stored) rival

theorem outcome_step {c : Contents} (sound : c.Sound) {a b : Arrival} (apart : a.Distinct b) :
    (c.step a).outcome b = c.outcome b := by
  unfold step
  split
  · next imported =>
    have admitted := (outcome_imported.mp imported).2
    have records : (c.put a).records b.scope = c.records b.scope :=
      Function.update_of_ne apart.scope.symm _ _
    unfold outcome
    rw [records]
    simp only [admits_put sound apart admitted]
  · rfl

theorem put_comm (c : Contents) {a b : Arrival} (apart : a.Distinct b) :
    (c.put a).put b = (c.put b).put a := by
  have links : ∀ k, (b.link k).or ((a.link k).or (c.links k)) =
      (a.link k).or ((b.link k).or (c.links k)) := by
    intro k
    by_cases mine : a.link k = none
    · simp [mine]
    · have absent : b.link k = none :=
        Arrival.link_eq_none (apart.sources _ (Arrival.link_key mine).2)
      simp [absent]
  ext1
  · exact Function.update_comm apart.id _ _ _
  · exact Function.update_comm apart.scope _ _ _
  · exact Function.update_comm apart.id _ _ _
  · exact funext links

theorem step_comm {c : Contents} (sound : c.Sound) {a b : Arrival} (apart : a.Distinct b) :
    (c.step a).step b = (c.step b).step a := by
  have second := outcome_step sound apart
  have first := outcome_step sound apart.symm
  unfold step at first second ⊢
  by_cases one : c.outcome a = .imported <;> by_cases two : c.outcome b = .imported
  · simp only [one, two, if_true] at first second
    simp only [one, two, if_true, first, second]
    exact put_comm c apart
  · simp only [one, if_true] at second
    simp only [one, two, if_true, if_false, second]
  · simp only [two, if_true] at first
    simp only [one, two, if_true, if_false, first]
  · simp only [one, two, if_false]

theorem outcome_put (c : Contents) (a : Arrival) : (c.put a).outcome a = .replayed := by
  simp [outcome, put, Arrival.record]

theorem step_idempotent (c : Contents) (a : Arrival) : (c.step a).step a = c.step a := by
  by_cases imported : c.outcome a = .imported
  · have known := outcome_put c a
    simp [step, imported, known]
  · simp [step, imported]

theorem outcome_again (c : Contents) (a : Arrival) :
    (c.step a).outcome a = if c.outcome a = .imported then .replayed else c.outcome a := by
  unfold step
  split
  · exact outcome_put c a
  · rfl

theorem apart_of_distinct {a b : Arrival} (apart : a.Distinct b) :
    Independence.Apart step outcome Sound a b :=
  ⟨fun _ sound => step_comm sound apart, fun _ sound => outcome_step sound apart⟩

end Contents
end NetworkAgent.Migration
