import NetworkAgent.Lab.Durations

/-! The sweep over the ends and starts of episodes meets each overlapping pair once, and the
greedy choice among the candidates is a maximal matching. -/
namespace NetworkAgent.Lab
open Checks (require)

/-! What is active. -/

theorem eventLe_iff {a b : SweepEvent} : eventLe a b = true ↔ a.instant < b.instant ∨
    a.instant = b.instant ∧ (a.phase < b.phase ∨
      a.phase = b.phase ∧ textLe a.itemId b.itemId = true) := by
  simp [eventLe]

theorem instant_le {a b : SweepEvent} (le : eventLe a b = true) : a.instant ≤ b.instant :=
  (eventLe_iff.mp le).elim le_of_lt fun both => le_of_eq both.1

theorem instant_lt {a b : SweepEvent} (le : eventLe a b = true) (phase : b.phase < a.phase) :
    a.instant < b.instant := by
  rcases eventLe_iff.mp le with less | ⟨_, less | ⟨same, _⟩⟩
  · exact less
  · omega
  · omega

section
variable {γ : Type} {name : γ → String} {start stop : γ → SweepEvent} {done : List SweepEvent}
  {active : List γ}

/-- The list holds what has started and not ended. -/
structure Tracks (start stop : γ → SweepEvent) (done : List SweepEvent) (active : List γ) :
    Prop where
  mem : ∀ x, x ∈ active ↔ start x ∈ done ∧ stop x ∉ done
  nodup : active.Nodup

theorem Tracks.other (tracks : Tracks start stop done active) {e : SweepEvent}
    (noStart : ∀ x, start x ≠ e) (noStop : ∀ x, stop x ≠ e) :
    Tracks start stop (done ++ [e]) active where
  mem x := by simp [tracks.mem, noStart, noStop]
  nodup := tracks.nodup

theorem Tracks.ended (tracks : Tracks start stop done active) {x : γ}
    (noStart : ∀ y, start y ≠ stop x) (stops : Function.Injective stop)
    (named : ∀ y, start y ∈ done → name y = name x → y = x) :
    Tracks start stop (done ++ [stop x]) (active.filter fun y => name y ≠ name x) where
  mem y := by
    simp only [List.mem_filter, tracks.mem, ne_eq, decide_not, Bool.not_eq_true',
      decide_eq_false_iff_not, List.mem_append, List.mem_singleton, noStart, or_false,
      stops.eq_iff, not_or]
    constructor
    · rintro ⟨⟨begun, running⟩, other⟩
      exact ⟨begun, running, fun same => other (congrArg name same)⟩
    · rintro ⟨begun, running, other⟩
      exact ⟨⟨begun, running⟩, fun same => other (named y begun same)⟩
  nodup := tracks.nodup.filter _

theorem Tracks.started (tracks : Tracks start stop done active) {x : γ}
    (noStop : ∀ y, stop y ≠ start x) (starts : Function.Injective start)
    (fresh : start x ∉ done) (running : stop x ∉ done)
    (named : ∀ y, start y ∈ done → name y = name x → y = x) :
    Tracks start stop (done ++ [start x]) (active.filter (fun y => name y ≠ name x) ++ [x]) where
  mem y := by
    simp only [List.mem_append, List.mem_filter, tracks.mem, ne_eq, decide_not, Bool.not_eq_true',
      decide_eq_false_iff_not, List.mem_singleton, noStop, or_false, starts.eq_iff]
    constructor
    · rintro (⟨⟨begun, open'⟩, _⟩ | rfl)
      · exact ⟨.inl begun, open'⟩
      · exact ⟨.inr rfl, running⟩
    · rintro ⟨begun | rfl, open'⟩
      · refine .inl ⟨⟨begun, open'⟩, fun same => fresh ?_⟩
        rwa [named y begun same] at begun
      · exact .inr rfl
  nodup := by
    refine List.nodup_append.mpr ⟨tracks.nodup.filter _, List.nodup_singleton x, ?_⟩
    intro y member z single same
    cases List.mem_singleton.mp single
    have kept := (List.mem_filter.mp member).2
    simp [same] at kept

end

/-! One event. -/

theorem truthStart_injective : Function.Injective truthStart := fun _ _ same =>
  SweepItem.truth.inj (congrArg SweepEvent.item same)

theorem truthEnd_injective : Function.Injective truthEnd := fun _ _ same =>
  SweepItem.truth.inj (congrArg SweepEvent.item same)

theorem predictionStart_injective : Function.Injective predictionStart := fun _ _ same =>
  SweepItem.prediction.inj (congrArg SweepEvent.item same)

theorem predictionEnd_injective : Function.Injective predictionEnd := fun _ _ same =>
  SweepItem.prediction.inj (congrArg SweepEvent.item same)

section
variable (t t' : LabEpisode) (p p' : PredictedEpisode)

theorem truthStart_ne_truthEnd : truthStart t ≠ truthEnd t' := by simp [truthStart, truthEnd]

theorem truthStart_ne_predictionEnd : truthStart t ≠ predictionEnd p := by
  simp [truthStart, predictionEnd]

theorem truthStart_ne_predictionStart : truthStart t ≠ predictionStart p := by
  simp [truthStart, predictionStart]

theorem predictionStart_ne_truthEnd : predictionStart p ≠ truthEnd t := by
  simp [predictionStart, truthEnd]

theorem predictionStart_ne_predictionEnd : predictionStart p ≠ predictionEnd p' := by
  simp [predictionStart, predictionEnd]

theorem truthEnd_ne_predictionEnd : truthEnd t ≠ predictionEnd p := by
  simp [truthEnd, predictionEnd]

end

theorem interval_lt (e : EpisodeWindow) : e.interval.1 < e.interval.2 :=
  lt_of_le_of_lt e.ordered (Int.lt_add_of_pos_right _ (by decide))

def Overlaps (t : LabEpisode) (p : PredictedEpisode) : Prop :=
  t.interval.1 < p.interval.2 ∧ p.interval.1 < t.interval.2

structure Agenda (done todo : List SweepEvent) : Prop where
  sorted : (done ++ todo).Pairwise fun a b => eventLe a b = true
  nodup : (done ++ todo).Nodup
  truthEnds : ∀ t, truthStart t ∈ done ++ todo → truthEnd t ∈ done ++ todo
  predictionEnds : ∀ p, predictionStart p ∈ done ++ todo → predictionEnd p ∈ done ++ todo
  truthNames : ∀ t t', truthStart t ∈ done ++ todo → truthStart t' ∈ done ++ todo ∨
    truthEnd t' ∈ done ++ todo → t.episodeId = t'.episodeId → t = t'
  predictionNames : ∀ p p', predictionStart p ∈ done ++ todo → predictionStart p' ∈ done ++ todo ∨
    predictionEnd p' ∈ done ++ todo → p.predictionId = p'.predictionId → p = p'

/-- The pairs so far are those that overlap among the episodes that have started. -/
structure Swept (done : List SweepEvent) (a : Active)
    (pairs : List (LabEpisode × PredictedEpisode)) : Prop where
  truth : Tracks truthStart truthEnd done a.truth
  predictions : Tracks predictionStart predictionEnd done a.predictions
  mem : ∀ t p, (t, p) ∈ pairs ↔ truthStart t ∈ done ∧ predictionStart p ∈ done ∧ Overlaps t p
  nodup : pairs.Nodup

section
variable {done todo : List SweepEvent} {e : SweepEvent} {a : Active}
  {pairs : List (LabEpisode × PredictedEpisode)} {t : LabEpisode} {p : PredictedEpisode}

theorem Agenda.before (agenda : Agenda done (e :: todo)) {b : SweepEvent} (earlier : b ∈ done) :
    eventLe b e = true :=
  (List.pairwise_append.mp agenda.sorted).2.2 b earlier e (.head todo)

theorem Agenda.after (agenda : Agenda done (e :: todo)) {b : SweepEvent}
    (listed : b ∈ done ++ e :: todo) (later : b ∉ done) (other : b ≠ e) : eventLe e b = true := by
  have rest := (List.mem_append.mp listed).resolve_left later
  have member := (List.mem_cons.mp rest).resolve_left other
  exact List.rel_of_pairwise_cons (List.pairwise_append.mp agenda.sorted).2.1 member

theorem Agenda.fresh (agenda : Agenda done (e :: todo)) : e ∉ done := fun earlier =>
  (List.nodup_append.mp agenda.nodup).2.2 e earlier e (.head todo) rfl

theorem Agenda.next (agenda : Agenda done (e :: todo)) : Agenda (done ++ [e]) todo := by
  have same : done ++ [e] ++ todo = done ++ e :: todo := by simp
  exact ⟨same ▸ agenda.sorted, same ▸ agenda.nodup, same ▸ agenda.truthEnds,
    same ▸ agenda.predictionEnds, same ▸ agenda.truthNames, same ▸ agenda.predictionNames⟩

theorem Swept.truthEnded (agenda : Agenda done (truthEnd t :: todo)) (swept : Swept done a pairs) :
    Swept (done ++ [truthEnd t])
      { a with truth := a.truth.filter fun o => o.episodeId ≠ t.episodeId } pairs where
  truth := swept.truth.ended (fun o => truthStart_ne_truthEnd o t) truthEnd_injective
    fun o begun => agenda.truthNames o t (List.mem_append_left _ begun) (.inr (by simp))
  predictions := swept.predictions.other (predictionStart_ne_truthEnd t)
    (fun q => (truthEnd_ne_predictionEnd t q).symm)
  mem o q := by
    simp [swept.mem, truthStart_ne_truthEnd, predictionStart_ne_truthEnd]
  nodup := swept.nodup

theorem Swept.predictionEnded (agenda : Agenda done (predictionEnd p :: todo))
    (swept : Swept done a pairs) : Swept (done ++ [predictionEnd p])
      { a with predictions := a.predictions.filter fun o => o.predictionId ≠ p.predictionId }
      pairs where
  truth := swept.truth.other (fun o => truthStart_ne_predictionEnd o p)
    (fun o => truthEnd_ne_predictionEnd o p)
  predictions := swept.predictions.ended (fun q => predictionStart_ne_predictionEnd q p)
    predictionEnd_injective fun q begun => agenda.predictionNames q p
      (List.mem_append_left _ begun) (.inr (by simp))
  mem o q := by
    simp [swept.mem, truthStart_ne_predictionEnd, predictionStart_ne_predictionEnd]
  nodup := swept.nodup

theorem Agenda.active_prediction (agenda : Agenda done (truthStart t :: todo))
    (begun : predictionStart p ∈ done) : predictionEnd p ∉ done ↔ Overlaps t p := by
  have earlier := instant_le (agenda.before begun)
  constructor
  · intro running
    have listed := agenda.predictionEnds p (List.mem_append_left _ begun)
    have later := agenda.after listed running (truthStart_ne_predictionEnd t p).symm
    exact ⟨instant_lt later Nat.one_pos, lt_of_le_of_lt earlier (interval_lt _)⟩
  · rintro ⟨overlap, _⟩ ended
    exact absurd (instant_le (agenda.before ended)) (not_le_of_gt overlap)

theorem Agenda.active_truth (agenda : Agenda done (predictionStart p :: todo))
    (begun : truthStart t ∈ done) : truthEnd t ∉ done ↔ Overlaps t p := by
  have earlier := instant_le (agenda.before begun)
  constructor
  · intro running
    have listed := agenda.truthEnds t (List.mem_append_left _ begun)
    have later := agenda.after listed running (predictionStart_ne_truthEnd t p).symm
    exact ⟨lt_of_le_of_lt earlier (interval_lt _), instant_lt later Nat.two_pos⟩
  · rintro ⟨_, overlap⟩ ended
    exact absurd (instant_le (agenda.before ended)) (not_le_of_gt overlap)

theorem Swept.truthStarted (agenda : Agenda done (truthStart t :: todo))
    (swept : Swept done a pairs) : Swept (done ++ [truthStart t]) (a.addTruth t)
      (pairs ++ (sortedPredictions a.predictions).map (t, ·)) where
  truth := by
    refine swept.truth.started (fun o => (truthStart_ne_truthEnd t o).symm) truthStart_injective
      agenda.fresh (fun ended => ?_) fun o begun => agenda.truthNames o t
        (List.mem_append_left _ begun) (.inl (by simp))
    exact absurd (instant_le (agenda.before ended)) (not_le_of_gt (interval_lt _))
  predictions := swept.predictions.other
    (fun q => (truthStart_ne_predictionStart t q).symm)
    (fun q => (truthStart_ne_predictionEnd t q).symm)
  mem o q := by
    have active : q ∈ sortedPredictions a.predictions ↔
        predictionStart q ∈ done ∧ predictionEnd q ∉ done := by
      rw [← swept.predictions.mem]
      exact List.mem_insertionSort _
    simp only [List.mem_append, swept.mem, List.mem_map, Prod.mk.injEq, List.mem_singleton,
      truthStart_injective.eq_iff, (truthStart_ne_predictionStart t q).symm, or_false,
      exists_eq_right_right, active]
    constructor
    · rintro (⟨begun, begun', overlap⟩ | ⟨⟨begun, running⟩, rfl⟩)
      · exact ⟨.inl begun, begun', overlap⟩
      · exact ⟨.inr rfl, begun, (agenda.active_prediction begun).mp running⟩
    · rintro ⟨begun | rfl, begun', overlap⟩
      · exact .inl ⟨begun, begun', overlap⟩
      · exact .inr ⟨⟨begun', (agenda.active_prediction begun').mpr overlap⟩, rfl⟩
  nodup := by
    have sorted : (sortedPredictions a.predictions).Nodup :=
      (List.perm_insertionSort _ _).nodup_iff.mpr swept.predictions.nodup
    refine List.nodup_append.mpr
      ⟨swept.nodup, sorted.map (Prod.mk_right_injective t), ?_⟩
    rintro ⟨o, q⟩ old ⟨o', q'⟩ new same
    obtain ⟨_, _, here⟩ := List.mem_map.mp new
    cases here
    cases same
    exact agenda.fresh ((swept.mem _ _).mp old).1

theorem Swept.predictionStarted (agenda : Agenda done (predictionStart p :: todo))
    (swept : Swept done a pairs) : Swept (done ++ [predictionStart p]) (a.addPrediction p)
      (pairs ++ (sortedTruth a.truth).map (·, p)) where
  truth := swept.truth.other (fun o => truthStart_ne_predictionStart o p)
    (fun o => (predictionStart_ne_truthEnd o p).symm)
  predictions := by
    refine swept.predictions.started (fun q => (predictionStart_ne_predictionEnd p q).symm)
      predictionStart_injective agenda.fresh (fun ended => ?_) fun q begun =>
        agenda.predictionNames q p (List.mem_append_left _ begun) (.inl (by simp))
    exact absurd (instant_le (agenda.before ended)) (not_le_of_gt (interval_lt _))
  mem o q := by
    have active : o ∈ sortedTruth a.truth ↔ truthStart o ∈ done ∧ truthEnd o ∉ done := by
      rw [← swept.truth.mem]
      exact List.mem_insertionSort _
    simp only [List.mem_append, swept.mem, List.mem_map, Prod.mk.injEq, List.mem_singleton,
      predictionStart_injective.eq_iff, truthStart_ne_predictionStart o p, or_false]
    constructor
    · rintro (⟨begun, begun', overlap⟩ | ⟨_, member, rfl, rfl⟩)
      · exact ⟨begun, .inl begun', overlap⟩
      · obtain ⟨begun, running⟩ := active.mp member
        exact ⟨begun, .inr rfl, (agenda.active_truth begun).mp running⟩
    · rintro ⟨begun, begun' | rfl, overlap⟩
      · exact .inl ⟨begun, begun', overlap⟩
      · exact .inr ⟨o, active.mpr ⟨begun, (agenda.active_truth begun).mpr overlap⟩, rfl, rfl⟩
  nodup := by
    have sorted : (sortedTruth a.truth).Nodup :=
      (List.perm_insertionSort _ _).nodup_iff.mpr swept.truth.nodup
    refine List.nodup_append.mpr
      ⟨swept.nodup, sorted.map (Prod.mk_left_injective p), ?_⟩
    rintro ⟨o, q⟩ old ⟨o', q'⟩ new same
    obtain ⟨_, _, here⟩ := List.mem_map.mp new
    cases here
    cases same
    exact agenda.fresh ((swept.mem _ _).mp old).2.1

end

/-! Considering the pairs that are met. -/

def reaching (threshold : ℚ) (pairs : List (LabEpisode × PredictedEpisode)) : List Candidate :=
  (pairs.filter fun p => threshold ≤ temporalIou p.1 p.2).map fun p =>
    ⟨temporalIou p.1 p.2, p.1, p.2⟩

section
variable {threshold : ℚ} {pairs : List (LabEpisode × PredictedEpisode)} {c c' : Considered}
  {error : EvaluationError}

theorem considerEach_append (more : List (LabEpisode × PredictedEpisode)) :
    considerEach threshold (pairs ++ more) c =
      (considerEach threshold pairs c).bind (considerEach threshold more) := by
  induction pairs generalizing c with
  | nil => rfl
  | cons p rest ih =>
    obtain ⟨t, p⟩ := p
    simp only [List.cons_append, considerEach]
    cases consider threshold c t p with
    | error e => rfl
    | ok next => exact ih

theorem considerEach_ok (considered : considerEach threshold pairs c = .ok c') :
    c'.candidates = c.candidates ++ reaching threshold pairs := by
  induction pairs generalizing c with
  | nil => cases considered; simp [reaching]
  | cons p rest ih =>
    obtain ⟨next, first, considered⟩ := Checks.bind_ok.mp considered
    obtain ⟨_, same⟩ := Checks.seq_ok.mp first
    cases same
    rw [ih considered]
    by_cases reaches : threshold ≤ temporalIou p.1 p.2 <;> simp [reaching, reaches]

theorem considerEach_error (refused : considerEach threshold pairs c = .error error) :
    error = .limitExceeded := by
  induction pairs generalizing c with
  | nil => cases refused
  | cons p rest ih =>
    obtain ⟨t, p⟩ := p
    rw [considerEach] at refused
    cases first : consider threshold c t p with
    | error e =>
      rw [first] at refused
      cases refused
      unfold consider require at first
      split at first
      · cases first
      · cases first; rfl
    | ok next =>
      rw [first] at refused
      exact ih refused

end

/-! The whole sweep. -/

section
variable {threshold : ℚ} {done todo : List SweepEvent} {e : SweepEvent} {a : Active}
  {pairs : List (LabEpisode × PredictedEpisode)} {c : Considered}

def IsEpisodeEvent (e : SweepEvent) : Prop :=
  (∃ t, e = truthEnd t ∨ e = truthStart t) ∨ ∃ p, e = predictionEnd p ∨ e = predictionStart p

theorem sweepEvent_met (agenda : Agenda done (e :: todo)) (event : IsEpisodeEvent e)
    (swept : Swept done a pairs) : ∃ a' met, Swept (done ++ [e]) a' (pairs ++ met) ∧
      ∀ c, sweepEvent threshold a c e = (considerEach threshold met c).map (a', ·) := by
  rcases event with ⟨t, rfl | rfl⟩ | ⟨p, rfl | rfl⟩
  · exact ⟨_, [], (List.append_nil pairs).symm ▸ swept.truthEnded agenda, fun _ => rfl⟩
  · exact ⟨_, _, swept.truthStarted agenda, fun _ => rfl⟩
  · exact ⟨_, [], (List.append_nil pairs).symm ▸ swept.predictionEnded agenda, fun _ => rfl⟩
  · exact ⟨_, _, swept.predictionStarted agenda, fun _ => rfl⟩

theorem sweep_met (agenda : Agenda done todo) (events : ∀ e ∈ todo, IsEpisodeEvent e)
    (swept : Swept done a pairs) : ∃ a' met, Swept (done ++ todo) a' (pairs ++ met) ∧
      ∀ c, sweep threshold todo a c = considerEach threshold met c := by
  induction todo generalizing done a pairs with
  | nil => exact ⟨a, [], by simpa using swept, fun _ => rfl⟩
  | cons e todo ih =>
    rw [List.forall_mem_cons] at events
    obtain ⟨a', met, swept', (stepped : ∀ c, sweepEvent threshold a c e = _)⟩ :=
      sweepEvent_met agenda events.1 swept
    obtain ⟨a'', more, swept'', rest⟩ := ih agenda.next events.2 swept'
    refine ⟨a'', met ++ more, by simpa using swept'', fun c => ?_⟩
    rw [considerEach_append, sweep, stepped]
    cases considerEach threshold met c with
    | error e => rfl
    | ok c' => exact rest c'

end

/-! The events of a group. -/

theorem eventLe_total (a b : SweepEvent) : eventLe a b = true ∨ eventLe b a = true := by
  simp only [eventLe_iff]
  rcases lt_trichotomy a.instant b.instant with less | same | more
  · exact .inl (.inl less)
  · rcases Nat.lt_trichotomy a.phase b.phase with less | phase | more
    · exact .inl (.inr ⟨same, .inl less⟩)
    · exact (textLe_total a.itemId b.itemId).imp (fun le => .inr ⟨same, .inr ⟨phase, le⟩⟩)
        (fun le => .inr ⟨same.symm, .inr ⟨phase.symm, le⟩⟩)
    · exact .inr (.inr ⟨same.symm, .inl more⟩)
  · exact .inr (.inl more)

theorem eventLe_trans (a b c : SweepEvent) (first : eventLe a b = true)
    (second : eventLe b c = true) : eventLe a c = true := by
  simp only [eventLe_iff] at first second ⊢
  rcases first with less | ⟨same, inner⟩
  · exact .inl (lt_of_lt_of_le less (second.elim le_of_lt fun both => le_of_eq both.1))
  · rcases second with less | ⟨same', inner'⟩
    · exact .inl (lt_of_eq_of_lt same less)
    · refine .inr ⟨same.trans same', ?_⟩
      rcases inner with less | ⟨phase, le⟩
      · left; omega
      · rcases inner' with less | ⟨phase', le'⟩
        · left; omega
        · exact .inr ⟨phase.trans phase', textLe_trans le le'⟩

section
variable {truth : List LabEpisode} {predictions : List PredictedEpisode}

theorem mem_groupEvents {e : SweepEvent} : e ∈ groupEvents truth predictions ↔
    (∃ t ∈ truth, e = truthEnd t ∨ e = truthStart t) ∨
      ∃ p ∈ predictions, e = predictionEnd p ∨ e = predictionStart p := by
  rw [groupEvents, List.mem_insertionSort]
  simp

theorem truthStart_listed {t : LabEpisode} :
    truthStart t ∈ groupEvents truth predictions ↔ t ∈ truth := by
  simp [mem_groupEvents, truthStart_ne_truthEnd, truthStart_ne_predictionEnd,
    truthStart_ne_predictionStart, truthStart_injective.eq_iff]

theorem predictionStart_listed {p : PredictedEpisode} :
    predictionStart p ∈ groupEvents truth predictions ↔ p ∈ predictions := by
  simp [mem_groupEvents, predictionStart_ne_truthEnd, predictionStart_ne_predictionEnd,
    (truthStart_ne_predictionStart _ _).symm, predictionStart_injective.eq_iff]

theorem truthEnd_listed {t : LabEpisode} :
    truthEnd t ∈ groupEvents truth predictions ↔ t ∈ truth := by
  simp [mem_groupEvents, (truthStart_ne_truthEnd _ _).symm, truthEnd_ne_predictionEnd,
    (predictionStart_ne_truthEnd _ _).symm, truthEnd_injective.eq_iff]

theorem predictionEnd_listed {p : PredictedEpisode} :
    predictionEnd p ∈ groupEvents truth predictions ↔ p ∈ predictions := by
  simp [mem_groupEvents, (truthStart_ne_predictionEnd _ _).symm,
    (predictionStart_ne_predictionEnd _ _).symm, (truthEnd_ne_predictionEnd _ _).symm,
    predictionEnd_injective.eq_iff]

theorem groupEvents_agenda (truthIds : (truth.map (·.episodeId)).Nodup)
    (predictionIds : (predictions.map (·.predictionId)).Nodup) :
    Agenda [] (groupEvents truth predictions) := by
  have total : Std.Total (fun a b => eventLe a b = true) := ⟨eventLe_total⟩
  have trans : IsTrans SweepEvent (fun a b => eventLe a b = true) := ⟨eventLe_trans⟩
  refine ⟨List.pairwise_insertionSort _ _, ?_, fun t => ?_, fun p => ?_, fun t t' => ?_,
    fun p p' => ?_⟩
  · rw [List.nil_append, groupEvents, (List.perm_insertionSort _ _).nodup_iff, List.nodup_append]
    refine ⟨List.nodup_flatMap.mpr ⟨?_, ?_⟩, List.nodup_flatMap.mpr ⟨?_, ?_⟩, ?_⟩
    · intro t _
      simp [(truthStart_ne_truthEnd t t).symm]
    · refine (List.Nodup.of_map _ truthIds).imp fun differ => ?_
      simp [Function.onFun, truthEnd_injective.eq_iff, truthStart_injective.eq_iff,
        truthStart_ne_truthEnd, (truthStart_ne_truthEnd _ _).symm, Ne.symm differ]
    · intro p _
      simp [(predictionStart_ne_predictionEnd p p).symm]
    · refine (List.Nodup.of_map _ predictionIds).imp fun differ => ?_
      simp [Function.onFun, predictionEnd_injective.eq_iff, predictionStart_injective.eq_iff,
        predictionStart_ne_predictionEnd, (predictionStart_ne_predictionEnd _ _).symm,
        Ne.symm differ]
    · simp only [List.mem_flatMap, List.mem_cons, List.not_mem_nil, or_false]
      rintro _ ⟨t, _, rfl | rfl⟩ _ ⟨p, _, rfl | rfl⟩
      · exact truthEnd_ne_predictionEnd t p
      · exact (predictionStart_ne_truthEnd t p).symm
      · exact truthStart_ne_predictionEnd t p
      · exact truthStart_ne_predictionStart t p
  · simp only [List.nil_append, truthStart_listed, truthEnd_listed, imp_self]
  · simp only [List.nil_append, predictionStart_listed, predictionEnd_listed, imp_self]
  · simp only [List.nil_append, truthStart_listed, truthEnd_listed, or_self]
    exact fun first second same => List.inj_on_of_nodup_map truthIds first second same
  · simp only [List.nil_append, predictionStart_listed, predictionEnd_listed, or_self]
    exact fun first second same => List.inj_on_of_nodup_map predictionIds first second same

theorem group_met (truthIds : (truth.map (·.episodeId)).Nodup)
    (predictionIds : (predictions.map (·.predictionId)).Nodup) (threshold : ℚ) :
    ∃ met : List (LabEpisode × PredictedEpisode), met.Nodup ∧
      (∀ t p, (t, p) ∈ met ↔ t ∈ truth ∧ p ∈ predictions ∧ Overlaps t p) ∧
      ∀ c, sweep threshold (groupEvents truth predictions) {} c = considerEach threshold met c := by
  have agenda := groupEvents_agenda truthIds predictionIds
  have start : Swept [] {} [] := ⟨⟨by simp, .nil⟩, ⟨by simp, .nil⟩, by simp, .nil⟩
  have events : ∀ e ∈ groupEvents truth predictions, IsEpisodeEvent e := fun e member =>
    (mem_groupEvents.mp member).imp (fun ⟨t, _, shape⟩ => ⟨t, shape⟩)
      (fun ⟨p, _, shape⟩ => ⟨p, shape⟩)
  obtain ⟨_, met, swept, considered⟩ := sweep_met agenda events start
  refine ⟨met, swept.nodup, fun t p => ?_, considered⟩
  have members := swept.mem t p
  simpa only [List.nil_append, truthStart_listed, predictionStart_listed] using members

theorem groups_met (truthIds : (truth.map (·.episodeId)).Nodup)
    (predictionIds : (predictions.map (·.predictionId)).Nodup) (threshold : ℚ)
    {groups : List Group} (apart : groups.Nodup) :
    ∃ met : List (LabEpisode × PredictedEpisode), met.Nodup ∧
      (∀ t p, (t, p) ∈ met ↔ t.group ∈ groups ∧ t ∈ truth ∧ p ∈ predictions ∧
        t.group = p.group ∧ Overlaps t p) ∧
      ∀ c, sweepGroups threshold truth predictions groups c = considerEach threshold met c := by
  induction groups with
  | nil => exact ⟨[], .nil, by simp, fun _ => rfl⟩
  | cons g rest ih =>
    obtain ⟨outside, apart⟩ := List.nodup_cons.mp apart
    obtain ⟨more, nodup', mem', considered'⟩ := ih apart
    obtain ⟨met, nodup, mem, considered⟩ := group_met
      (truthIds.sublist ((List.filter_sublist (p := fun t => t.group = g)).map _))
      (predictionIds.sublist ((List.filter_sublist (p := fun p => p.group = g)).map _)) threshold
    refine ⟨met ++ more, ?_, fun t p => ?_, fun c => ?_⟩
    · refine List.nodup_append.mpr ⟨nodup, nodup', ?_⟩
      rintro ⟨t, p⟩ first _ second rfl
      have here := of_decide_eq_true (List.mem_filter.mp ((mem t p).mp first).1).2
      exact outside (here ▸ ((mem' t p).mp second).1)
    · rw [List.mem_append, mem, mem', List.mem_cons, List.mem_filter, List.mem_filter,
        decide_eq_true_eq, decide_eq_true_eq]
      constructor
      · rintro (⟨⟨known, here⟩, ⟨known', here'⟩, overlap⟩ | ⟨member, others⟩)
        · exact ⟨.inl here, known, known', here.trans here'.symm, overlap⟩
        · exact ⟨.inr member, others⟩
      · rintro ⟨here | member, known, known', same, overlap⟩
        · exact .inl ⟨⟨known, here⟩, ⟨known', same ▸ here⟩, overlap⟩
        · exact .inr ⟨member, known, known', same, overlap⟩
    · rw [considerEach_append, sweepGroups, considered]
      cases considerEach threshold met c with
      | error e => rfl
      | ok c' => exact considered' c'

/-! The candidates. -/

/-- Episodes of one group whose intersection over union reaches the threshold. -/
structure IsCandidate (truth : List LabEpisode) (predictions : List PredictedEpisode)
    (threshold : ℚ) (c : Candidate) : Prop where
  truth : c.truth ∈ truth
  prediction : c.prediction ∈ predictions
  group : c.truth.group = c.prediction.group
  overlap : c.overlap = temporalIou c.truth c.prediction
  reaches : threshold ≤ c.overlap

theorem temporalIou_pos {t : LabEpisode} {p : PredictedEpisode} (positive : temporalIou t p ≠ 0) :
    t.group = p.group ∧ Overlaps t p := by
  unfold temporalIou at positive
  split at positive
  · exact absurd rfl positive
  · next same =>
    refine ⟨not_not.mp same, ?_⟩
    dsimp only at positive
    split at positive
    · exact absurd rfl positive
    · next some' =>
      have length : max t.interval.1 p.interval.1 < min t.interval.2 p.interval.2 := by
        by_contra empty
        refine some' (max_eq_left ?_)
        have negative := Int.sub_nonpos_of_le (le_of_not_gt empty)
        exact div_nonpos_of_nonpos_of_nonneg (Int.cast_nonpos.mpr negative) (by norm_num)
      exact ⟨lt_of_le_of_lt (le_max_left _ _) (lt_of_lt_of_le length (min_le_right _ _)),
        lt_of_le_of_lt (le_max_right _ _) (lt_of_lt_of_le length (min_le_left _ _))⟩

theorem mem_reaching {threshold : ℚ} {pairs : List (LabEpisode × PredictedEpisode)}
    {c : Candidate} : c ∈ reaching threshold pairs ↔ (c.truth, c.prediction) ∈ pairs ∧
      c.overlap = temporalIou c.truth c.prediction ∧ threshold ≤ c.overlap := by
  obtain ⟨overlap, t, p⟩ := c
  simp only [reaching, List.mem_map, List.mem_filter, decide_eq_true_eq, Candidate.mk.injEq]
  constructor
  · rintro ⟨⟨t', p'⟩, ⟨member, reaches⟩, rfl, rfl, rfl⟩
    exact ⟨member, rfl, reaches⟩
  · rintro ⟨member, rfl, reaches⟩
    exact ⟨(t, p), ⟨member, reaches⟩, rfl, rfl, rfl⟩

theorem reaching_nodup {threshold : ℚ} {pairs : List (LabEpisode × PredictedEpisode)}
    (nodup : pairs.Nodup) : (reaching threshold pairs).Nodup := by
  refine (nodup.filter _).map fun x y same => ?_
  obtain ⟨_, truth, prediction⟩ := Candidate.mk.inj same
  exact Prod.ext truth prediction

theorem candidateMatches_met (truthIds : (truth.map (·.episodeId)).Nodup)
    (predictionIds : (predictions.map (·.predictionId)).Nodup) (threshold : ℚ) :
    ∃ met : List (LabEpisode × PredictedEpisode), met.Nodup ∧
      (∀ t p, (t, p) ∈ met ↔ t ∈ truth ∧ p ∈ predictions ∧ t.group = p.group ∧ Overlaps t p) ∧
      candidateMatches truth predictions threshold =
        (considerEach threshold met {}).map (·.candidates) := by
  have apart : ((truth.map (·.group) ++ predictions.map (·.group)).dedup.insertionSort
      fun a b => groupLe a b).Nodup :=
    (List.perm_insertionSort _ _).nodup_iff.mpr (List.nodup_dedup _)
  obtain ⟨met, nodup, mem, considered⟩ := groups_met truthIds predictionIds threshold apart
  refine ⟨met, nodup, fun t p => ?_, ?_⟩
  · rw [mem, List.mem_insertionSort, List.mem_dedup, List.mem_append]
    exact and_iff_right_of_imp fun others => .inl (List.mem_map_of_mem others.1)
  · rw [candidateMatches, considered]
    rfl

theorem candidateMatches_ok (truthIds : (truth.map (·.episodeId)).Nodup)
    (predictionIds : (predictions.map (·.predictionId)).Nodup) {threshold : ℚ}
    (positive : 0 < threshold) {candidates : List Candidate}
    (enumerated : candidateMatches truth predictions threshold = .ok candidates) :
    candidates.Nodup ∧ ∀ c, c ∈ candidates ↔ IsCandidate truth predictions threshold c := by
  obtain ⟨met, nodup, mem, same⟩ := candidateMatches_met truthIds predictionIds threshold
  rw [same] at enumerated
  obtain ⟨considered, swept, rfl⟩ := Checks.map_ok.mp enumerated
  rw [considerEach_ok swept, List.nil_append]
  refine ⟨reaching_nodup nodup, fun c => ?_⟩
  rw [mem_reaching, mem]
  constructor
  · rintro ⟨⟨known, known', group, _⟩, overlap, reaches⟩
    exact ⟨known, known', group, overlap, reaches⟩
  · rintro ⟨known, known', group, overlap, reaches⟩
    have some' : temporalIou c.truth c.prediction ≠ 0 :=
      ne_of_gt (lt_of_lt_of_le positive (overlap ▸ reaches))
    exact ⟨⟨known, known', group, (temporalIou_pos some').2⟩, overlap, reaches⟩

theorem candidateMatches_error (truthIds : (truth.map (·.episodeId)).Nodup)
    (predictionIds : (predictions.map (·.predictionId)).Nodup) {threshold : ℚ}
    {error : EvaluationError}
    (refused : candidateMatches truth predictions threshold = .error error) :
    error = .limitExceeded := by
  obtain ⟨met, _, _, same⟩ := candidateMatches_met truthIds predictionIds threshold
  rw [same] at refused
  cases outcome : considerEach threshold met {} with
  | error e =>
    rw [outcome] at refused
    cases refused
    exact considerEach_error outcome
  | ok c => rw [outcome] at refused; cases refused

end

/-! The greedy choice. -/

/-- A choice of candidates in which no episode is matched twice and none can be added. -/
structure IsMatching (candidates chosen : List Candidate) : Prop where
  listed : chosen ⊆ candidates
  truthOnce : (chosen.map (·.truth.episodeId)).Nodup
  predictionOnce : (chosen.map (·.prediction.predictionId)).Nodup
  maximal : ∀ c ∈ candidates, c.truth.episodeId ∈ chosen.map (·.truth.episodeId) ∨
    c.prediction.predictionId ∈ chosen.map (·.prediction.predictionId)

/-- The part of a matching that the rest of the loop makes, around what is matched already. -/
structure Extends (matchedTruth matchedPredictions : List String)
    (candidates chosen : List Candidate) : Prop where
  listed : chosen ⊆ candidates
  truthOnce : (chosen.map (·.truth.episodeId)).Nodup
  predictionOnce : (chosen.map (·.prediction.predictionId)).Nodup
  truthFree : ∀ c ∈ chosen, c.truth.episodeId ∉ matchedTruth
  predictionFree : ∀ c ∈ chosen, c.prediction.predictionId ∉ matchedPredictions
  maximal : ∀ c ∈ candidates,
    c.truth.episodeId ∈ matchedTruth ++ chosen.map (·.truth.episodeId) ∨
    c.prediction.predictionId ∈ matchedPredictions ++ chosen.map (·.prediction.predictionId)

theorem greedy_extends (candidates : List Candidate) (matchedTruth matchedPredictions : List String) :
    Extends matchedTruth matchedPredictions candidates
      (greedy candidates matchedTruth matchedPredictions) := by
  induction candidates generalizing matchedTruth matchedPredictions with
  | nil => exact ⟨List.Subset.refl _, .nil, .nil, by simp [greedy], by simp [greedy], by simp⟩
  | cons c rest ih =>
    rw [greedy]
    split
    · next taken =>
      have inner := ih matchedTruth matchedPredictions
      refine ⟨List.subset_cons_of_subset c inner.listed, inner.truthOnce, inner.predictionOnce,
        inner.truthFree, inner.predictionFree, ?_⟩
      rw [List.forall_mem_cons]
      exact ⟨taken.imp (List.mem_append_left _) (List.mem_append_left _), inner.maximal⟩
    · next free =>
      obtain ⟨freeTruth, freePrediction⟩ := not_or.mp free
      have inner := ih (c.truth.episodeId :: matchedTruth)
        (c.prediction.predictionId :: matchedPredictions)
      have outside : ∀ d ∈ greedy rest (c.truth.episodeId :: matchedTruth)
          (c.prediction.predictionId :: matchedPredictions),
          d.truth.episodeId ≠ c.truth.episodeId ∧ d.truth.episodeId ∉ matchedTruth :=
        fun d member => not_or.mp (List.mem_cons.not.mp (inner.truthFree d member))
      have outside' : ∀ d ∈ greedy rest (c.truth.episodeId :: matchedTruth)
          (c.prediction.predictionId :: matchedPredictions),
          d.prediction.predictionId ≠ c.prediction.predictionId ∧
            d.prediction.predictionId ∉ matchedPredictions :=
        fun d member => not_or.mp (List.mem_cons.not.mp (inner.predictionFree d member))
      refine ⟨List.cons_subset_cons c inner.listed, ?_, ?_, ?_, ?_, ?_⟩
      · rw [List.map_cons, List.nodup_cons]
        refine ⟨fun member => ?_, inner.truthOnce⟩
        obtain ⟨d, chosen, same⟩ := List.mem_map.mp member
        exact (outside d chosen).1 same
      · rw [List.map_cons, List.nodup_cons]
        refine ⟨fun member => ?_, inner.predictionOnce⟩
        obtain ⟨d, chosen, same⟩ := List.mem_map.mp member
        exact (outside' d chosen).1 same
      · exact List.forall_mem_cons.mpr ⟨freeTruth, fun d member => (outside d member).2⟩
      · exact List.forall_mem_cons.mpr ⟨freePrediction, fun d member => (outside' d member).2⟩
      · rw [List.forall_mem_cons]
        refine ⟨.inl (by simp), fun d member => ?_⟩
        refine (inner.maximal d member).imp (fun matched => ?_) (fun matched => ?_)
        · rw [List.map_cons]
          exact List.perm_middle.symm.subset matched
        · rw [List.map_cons]
          exact List.perm_middle.symm.subset matched

/-- The candidates that the report matches, before they are ordered by identifier. -/
def chosenCandidates (candidates : List Candidate) : List Candidate :=
  greedy (candidates.insertionSort fun a b => candidateLe a b) [] []

theorem chosenCandidates_matching (candidates : List Candidate) :
    IsMatching candidates (chosenCandidates candidates) := by
  have made := greedy_extends (candidates.insertionSort fun a b => candidateLe a b) [] []
  have perm := List.perm_insertionSort (fun a b : Candidate => candidateLe a b = true) candidates
  refine ⟨fun c member => perm.subset (made.listed member), made.truthOnce, made.predictionOnce,
    fun c member => ?_⟩
  exact made.maximal c (perm.symm.subset member)

/-! The order of the episodes. -/

section
variable {truth truth' : List LabEpisode} {predictions predictions' : List PredictedEpisode}

theorem sortedTruth_perm (truthIds : (truth.map (·.episodeId)).Nodup) (perm : truth.Perm truth') :
    sortedTruth truth = sortedTruth truth' := Sorting.sorted_by_of_perm _ truthIds perm

theorem sortedPredictions_perm (predictionIds : (predictions.map (·.predictionId)).Nodup)
    (perm : predictions.Perm predictions') :
    sortedPredictions predictions = sortedPredictions predictions' :=
  Sorting.sorted_by_of_perm _ predictionIds perm

theorem sortedTexts_perm {xs ys : List String} (perm : xs.Perm ys) :
    xs.insertionSort (fun a b => textLe a b) = ys.insertionSort fun a b => textLe a b :=
  Sorting.insertionSort_eq_of_perm textLe_total (fun _ _ _ => textLe_trans)
    (fun _ _ _ _ => textLe_antisymm) perm

theorem evaluationReport_perm (h : Host) (truths : truth.Perm truth')
    (predicted : predictions.Perm predictions') (threshold : ℚ) (found : List EpisodeMatch) :
    evaluationReport h truth' predictions' threshold found =
      evaluationReport h truth predictions threshold found := by
  obtain ⟨precision, recalled⟩ := durations_rearranged
    (.perm (truths.map (·.toEpisodeWindow))) (.perm (predicted.map (·.toEpisodeWindow)))
  dsimp only [evaluationReport]
  rw [← precision, ← recalled, truths.length_eq, predicted.length_eq, truths.isEmpty_eq,
    predicted.isEmpty_eq, sortedTexts_perm (truths.map (·.episodeId)),
    sortedTexts_perm (predicted.map (·.predictionId))]

theorem evaluateEpisodes_perm (h : Host) (truths : truth.Perm truth')
    (predicted : predictions.Perm predictions') (threshold : ℚ) :
    evaluateEpisodes h truth' predictions' threshold =
      evaluateEpisodes h truth predictions threshold := by
  unfold evaluateEpisodes
  have checked : require ((truth'.map (·.episodeId)).Nodup ∧
      (predictions'.map (·.predictionId)).Nodup) EvaluationError.invalidInput =
      require ((truth.map (·.episodeId)).Nodup ∧ (predictions.map (·.predictionId)).Nodup)
        .invalidInput :=
    if_congr (and_congr (truths.map _).nodup_iff (predicted.map _).nodup_iff).symm rfl rfl
  rw [← truths.length_eq, ← predicted.length_eq, checked]
  refine bind_congr fun _ => bind_congr fun _ => bind_congr fun _ => ?_
  by_cases ids : (truth.map (·.episodeId)).Nodup ∧ (predictions.map (·.predictionId)).Nodup
  · rw [← sortedTruth_perm ids.1 truths, ← sortedPredictions_perm ids.2 predicted]
    refine bind_congr fun _ => bind_congr fun candidates => ?_
    rw [evaluationReport_perm h truths predicted]
  · have refused : require ((truth.map (·.episodeId)).Nodup ∧
        (predictions.map (·.predictionId)).Nodup) EvaluationError.invalidInput =
        .error .invalidInput := if_neg ids
    rw [refused]
    change Except.error EvaluationError.invalidInput = Except.error EvaluationError.invalidInput
    rfl

end

theorem evaluateEpisodes_checked {h : Host} {truth : List LabEpisode}
    {predictions : List PredictedEpisode} {threshold : ℚ} {r : EpisodeEvaluation}
    (evaluated : evaluateEpisodes h truth predictions threshold = .ok r) :
    0 < threshold ∧ (truth.map (·.episodeId)).Nodup ∧
      (predictions.map (·.predictionId)).Nodup := by
  obtain ⟨admitted, evaluated⟩ := Checks.seq_ok.mp evaluated
  obtain ⟨_, evaluated⟩ := Checks.seq_ok.mp evaluated
  obtain ⟨_, evaluated⟩ := Checks.seq_ok.mp evaluated
  obtain ⟨distinct, _⟩ := Checks.seq_ok.mp evaluated
  exact ⟨(Checks.require_ok.mp admitted).1, Checks.require_ok.mp distinct⟩

theorem isCandidate_perm {truth truth' : List LabEpisode}
    {predictions predictions' : List PredictedEpisode} (truths : truth.Perm truth')
    (predicted : predictions.Perm predictions') (threshold : ℚ) (c : Candidate) :
    IsCandidate truth predictions threshold c ↔ IsCandidate truth' predictions' threshold c :=
  ⟨fun c => ⟨truths.subset c.truth, predicted.subset c.prediction, c.group, c.overlap, c.reaches⟩,
    fun c => ⟨truths.symm.subset c.truth, predicted.symm.subset c.prediction, c.group, c.overlap,
      c.reaches⟩⟩

structure Matches (truth : List LabEpisode) (predictions : List PredictedEpisode) (threshold : ℚ)
    (r : EpisodeEvaluation) (candidates chosen : List Candidate) : Prop where
  enumerated : candidateMatches (sortedTruth truth) (sortedPredictions predictions) threshold =
    .ok candidates
  nodup : candidates.Nodup
  exact : ∀ c, c ∈ candidates ↔ IsCandidate truth predictions threshold c
  matching : IsMatching candidates chosen
  reported : r.matches'.Perm (chosen.map (·.toMatch))
  truePositives : r.truePositives = chosen.length
  falsePositives : r.falsePositives = predictions.length - chosen.length
  falseNegatives : r.falseNegatives = truth.length - chosen.length

theorem evaluateEpisodes_matches {h : Host} {truth : List LabEpisode}
    {predictions : List PredictedEpisode} {threshold : ℚ} {r : EpisodeEvaluation}
    (evaluated : evaluateEpisodes h truth predictions threshold = .ok r) :
    ∃ candidates, Matches truth predictions threshold r candidates
      (chosenCandidates candidates) := by
  obtain ⟨positive, truthIds, predictionIds⟩ := evaluateEpisodes_checked evaluated
  obtain ⟨candidates, enumerated, rfl⟩ := evaluateEpisodes_ok evaluated
  have truths : (sortedTruth truth).Perm truth := List.perm_insertionSort _ _
  have predicted : (sortedPredictions predictions).Perm predictions := List.perm_insertionSort _ _
  obtain ⟨nodup, mem⟩ := candidateMatches_ok ((truths.map _).nodup_iff.mpr truthIds)
    ((predicted.map _).nodup_iff.mpr predictionIds) positive enumerated
  have reported : (episodeMatches candidates).Perm
      ((chosenCandidates candidates).map (·.toMatch)) := List.perm_insertionSort _ _
  have count : (episodeMatches candidates).length = (chosenCandidates candidates).length := by
    rw [reported.length_eq, List.length_map]
  exact ⟨candidates, {
    enumerated, nodup, reported
    exact := fun c => (mem c).trans (isCandidate_perm truths predicted threshold c)
    matching := chosenCandidates_matching candidates
    truePositives := count
    falsePositives := congrArg (fun n : ℕ => (predictions.length - n : Int)) count
    falseNegatives := congrArg (fun n : ℕ => (truth.length - n : Int)) count }⟩

end NetworkAgent.Lab
