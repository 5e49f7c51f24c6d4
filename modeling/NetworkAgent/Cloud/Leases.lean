import NetworkAgent.Cloud.Outbox

/-! Leases of the outbox: what one call does to each row, and what holds over every run. -/
namespace NetworkAgent.Cloud

theorem checkInput_ok {α : Type} {x : Except InputError α} {a : α} :
    checkInput x = .ok a ↔ x = .ok a := by
  cases x <;> simp [checkInput]

namespace OutboxRecord

theorem parseRow_ok {h : Host} {r : OutboxRecord} {u : Unit} :
    r.parseRow h = .ok u ↔ r.Valid h := by
  unfold parseRow Valid
  cases r.payload.validate h with
  | error e => simp
  | ok _ =>
    cases r.validate h with
    | ok _ => simp
    | error e =>
      simp only [reduceCtorEq, and_false, iff_false]
      split <;> simp_all

def IsSettled (r : OutboxRecord) : Prop := r.status = .delivered ∨ r.status = .dead

theorem not_claimable_of_settled {r : OutboxRecord} (settled : r.IsSettled) (now : Instant) :
    ¬ r.Claimable now := by
  rintro (⟨pending, _⟩ | ⟨leased, _⟩)
  · rcases settled with status | status <;> rw [status] at pending <;> cases pending
  · rcases settled with status | status <;> rw [status] at leased <;> cases leased

end OutboxRecord

namespace Outbox

/-! What a call does to one row. -/

structure Claimed (now : Instant) (leaseOwner : String) (maxAttempts : Int)
    (r r' : OutboxRecord) : Prop where
  claimable : r.Claimable now
  status : r'.status = .leased
  owner : r'.leaseOwner.map (·.text) = some (strip leaseOwner)
  attempts : r'.attempts = r.attempts + 1
  bounded : r'.attempts ≤ maxAttempts

structure Exhausted (now : Instant) (maxAttempts : Int) (r r' : OutboxRecord) : Prop where
  claimable : r.Claimable now
  status : r'.status = .dead
  attempts : r'.attempts = r.attempts
  reached : maxAttempts ≤ r.attempts

structure Finished (now : Instant) (eventId leaseOwner : String) (expectedAttempt : Int)
    (r r' : OutboxRecord) : Prop where
  event : r.eventId.text = strip eventId
  held : HeldBy r (strip leaseOwner) expectedAttempt now
  status : r'.status ≠ .leased
  attempts : r'.attempts = r.attempts

/-- The event, the worker and the attempt that a finishing call names. -/
inductive Finishes : OutboxCall → String → String → Int → Prop
  | markDelivered (eventId leaseOwner : String) (expectedAttempt : Int) :
      Finishes (.markDelivered eventId leaseOwner expectedAttempt) eventId leaseOwner
        expectedAttempt
  | retry (eventId leaseOwner : String) (expectedAttempt delaySeconds : Int)
      (errorCode : String) :
      Finishes (.retry eventId leaseOwner expectedAttempt delaySeconds errorCode) eventId
        leaseOwner expectedAttempt
  | markDead (eventId leaseOwner : String) (expectedAttempt : Int) (errorCode : String) :
      Finishes (.markDead eventId leaseOwner expectedAttempt errorCode) eventId leaseOwner
        expectedAttempt

inductive Move (now : Instant) : OutboxCall → OutboxRecord → OutboxRecord → Prop
  | claimed {leaseOwner : String} {limit leaseSeconds maxAttempts : Int} {r r' : OutboxRecord}
      (claimed : Claimed now leaseOwner maxAttempts r r') :
      Move now (.claim leaseOwner limit leaseSeconds maxAttempts) r r'
  | exhausted {leaseOwner : String} {limit leaseSeconds maxAttempts : Int} {r r' : OutboxRecord}
      (exhausted : Exhausted now maxAttempts r r') :
      Move now (.claim leaseOwner limit leaseSeconds maxAttempts) r r'
  | finished {call : OutboxCall} {eventId leaseOwner : String} {expectedAttempt : Int}
      {r r' : OutboxRecord} (names : Finishes call eventId leaseOwner expectedAttempt)
      (finished : Finished now eventId leaseOwner expectedAttempt r r') : Move now call r r'

/-- A call leaves a row as it is, or moves it to a valid record of the same event. -/
def Steps (h : Host) (now : Instant) (call : OutboxCall) (r r' : OutboxRecord) : Prop :=
  r' = r ∨ (Move now call r r' ∧ r'.Valid h)

theorem claimRow_ok {h : Host} {now : Instant} {owner : Text.Bounded isSpace 256}
    {leaseOwner : String} (stripped : owner.text = strip leaseOwner) {expiry : Instant}
    {maxAttempts : Int} {r r' : OutboxRecord}
    (taken : claimRow h now (asIdentifier owner) expiry maxAttempts r = .ok r') :
    r'.eventId = r.eventId ∧ r'.Valid h ∧
      (Claimed now leaseOwner maxAttempts r r' ∨ Exhausted now maxAttempts r r') := by
  simp only [claimRow, Checks.bind_ok, OutboxRecord.parseRow_ok, Checks.require_ok] at taken
  obtain ⟨_, valid, _, claimable, taken⟩ := taken
  split at taken
  · next reached =>
    obtain ⟨passed, same⟩ := Checks.seq_ok.mp taken
    cases same
    exact ⟨rfl, ⟨valid.1, passed⟩, .inr ⟨claimable, rfl, rfl, reached⟩⟩
  · next below =>
    obtain ⟨passed, same⟩ := Checks.seq_ok.mp taken
    cases same
    exact ⟨rfl, ⟨valid.1, passed⟩, .inl ⟨claimable, rfl, congrArg some stripped, rfl,
      by dsimp only; omega⟩⟩

/-! The writes of a claim. -/

theorem lookup_put (o : Outbox) (r : OutboxRecord) (k : String) :
    (o.put r).rows.lookup k = if k = r.eventId.text then some r else o.rows.lookup k := by
  split
  · next same => rw [same]; exact AList.lookup_insert _
  · next other => exact AList.lookup_insert_ne other

theorem lookup_foldl_put (updated : List OutboxRecord) (o : Outbox) (k : String) :
    (∃ r ∈ updated, r.eventId.text = k ∧ (updated.foldl put o).rows.lookup k = some r) ∨
      ((∀ r ∈ updated, r.eventId.text ≠ k) ∧
        (updated.foldl put o).rows.lookup k = o.rows.lookup k) := by
  induction updated generalizing o with
  | nil => exact .inr ⟨by simp, rfl⟩
  | cons r rest ih =>
    rcases ih (o.put r) with ⟨r', member, own, stored⟩ | ⟨others, stored⟩
    · exact .inl ⟨r', List.mem_cons_of_mem _ member, own, stored⟩
    · rw [lookup_put] at stored
      by_cases own : k = r.eventId.text
      · rw [if_pos own] at stored
        exact .inl ⟨r, List.mem_cons_self, own.symm, stored⟩
      · rw [if_neg own] at stored
        refine .inr ⟨fun r' member => ?_, stored⟩
        rcases List.mem_cons.mp member with rfl | later
        · exact fun same => own same.symm
        · exact others r' later

theorem mem_claimable {o : Outbox} {now : Instant} {limit : Nat} {r : OutboxRecord}
    (member : r ∈ o.claimable now limit) : o.rows.lookup r.eventId.text = some r := by
  have selected := List.mem_of_mem_take member
  rw [List.mem_insertionSort] at selected
  obtain ⟨k, stored⟩ := Table.mem_values.mp (List.mem_filter.mp selected).1
  rw [o.keyed k r stored]
  exact stored

theorem claimable_nodup (o : Outbox) (now : Instant) (limit : Nat) :
    ((o.claimable now limit).map (·.eventId)).Nodup := by
  have ids : (o.rows.values.map (·.eventId.text)).Nodup := by
    have same : o.rows.values.map (·.eventId.text) = o.rows.keys := by
      rw [Table.values, AList.keys, List.keys, List.map_map]
      exact List.map_congr_left fun e member => o.keyed _ _ (AList.mem_lookup_iff.mpr member)
    rw [same]
    exact o.rows.keys_nodup
  have texts : ((o.claimable now limit).map (·.eventId.text)).Nodup := by
    refine List.Nodup.sublist ((List.take_sublist _ _).map _) ?_
    refine ((List.perm_insertionSort _ _).map _).nodup_iff.mpr ?_
    exact ids.sublist (List.filter_sublist.map _)
  refine List.Nodup.of_map (fun id : Identifier => id.text) ?_
  rw [List.map_map]
  exact texts

structure StepSpec (h : Host) (o : Outbox) (now : Instant) (call : OutboxCall)
    (answer : List OutboxRecord) (o' : Outbox) : Prop where
  none : ∀ k, o.rows.lookup k = none → o'.rows.lookup k = none
  rows : ∀ k r, o.rows.lookup k = some r →
    ∃ r', o'.rows.lookup k = some r' ∧ Steps h now call r r'
  answers : ∀ r' ∈ answer, ∃ r, o.rows.lookup r'.eventId.text = some r ∧
    o'.rows.lookup r'.eventId.text = some r' ∧ Move now call r r'
  leased : ∀ {leaseOwner limit leaseSeconds maxAttempts},
    call = .claim leaseOwner limit leaseSeconds maxAttempts → ∀ r' ∈ answer, r'.status = .leased
  finished : ∀ {eventId leaseOwner expectedAttempt},
    Finishes call eventId leaseOwner expectedAttempt →
    ∃ r r', o.rows.lookup (strip eventId) = some r ∧ o'.rows.lookup (strip eventId) = some r' ∧
      Finished now eventId leaseOwner expectedAttempt r r'

theorem claim_spec {h : Host} {o o' : Outbox} {leaseOwner : String}
    {limit leaseSeconds maxAttempts : Int} {now : Instant} {answer : List OutboxRecord}
    (claimed : o.claim h leaseOwner limit leaseSeconds maxAttempts now = .ok (answer, o')) :
    StepSpec h o now (.claim leaseOwner limit leaseSeconds maxAttempts) answer o' := by
  simp only [claim, Checks.bind_ok, checkInput_ok, pure, Except.pure, Except.ok.injEq,
    Prod.mk.injEq] at claimed
  obtain ⟨owner, named, _, _, _, _, _, _, _, _, updated, taken, rfl, rfl⟩ := claimed
  have stripped := text_of_requireNonEmpty named
  have nodup : (updated.map (·.eventId)).Nodup := by
    rw [Checks.mapM_map (fun _ _ ok => (claimRow_ok stripped ok).1) taken]
    exact claimable_nodup o now limit.toNat
  have source : ∀ r' ∈ updated, ∃ r, o.rows.lookup r'.eventId.text = some r ∧ r'.Valid h ∧
      (Claimed now leaseOwner maxAttempts r r' ∨ Exhausted now maxAttempts r r') := by
    intro r' member
    obtain ⟨r, known, ok⟩ := Checks.mapM_source taken member
    obtain ⟨same, valid, moved⟩ := claimRow_ok stripped ok
    exact ⟨r, by rw [same]; exact mem_claimable known, valid, moved⟩
  have written := fun k => lookup_foldl_put updated o k
  refine ⟨fun k absent => ?_, fun k r stored => ?_, fun r' member => ?_, fun _ r' member => ?_,
    fun names => by cases names⟩
  · rcases written k with ⟨r', member, own, _⟩ | ⟨_, same⟩
    · obtain ⟨r, known, _⟩ := source r' member
      rw [own, absent] at known
      cases known
    · rw [same, absent]
  · rcases written k with ⟨r', member, own, known⟩ | ⟨_, same⟩
    · obtain ⟨r₀, before, valid, moved⟩ := source r' member
      rw [own, stored] at before
      cases before
      exact ⟨r', known, .inr ⟨moved.elim .claimed .exhausted, valid⟩⟩
    · exact ⟨r, same.trans stored, .inl rfl⟩
  · obtain ⟨member, leased⟩ := List.mem_filter.mp member
    obtain ⟨r, before, _, moved⟩ := source r' member
    refine ⟨r, before, ?_, moved.elim .claimed .exhausted⟩
    rcases written r'.eventId.text with ⟨r'', member', own, known⟩ | ⟨others, _⟩
    · rw [known, List.inj_on_of_nodup_map nodup member' member (Text.Bounded.ext own)]
    · exact absurd rfl (others r' member)
  · simpa using (List.mem_filter.mp member).2

theorem get_ok {h : Host} {o : Outbox} {eventId : String} {r : OutboxRecord}
    (found : o.get h eventId = .ok (some r)) : o.rows.lookup eventId = some r ∧ r.Valid h := by
  unfold get at found
  split at found
  · cases found
  · next stored =>
    simp only [Checks.seq_ok, OutboxRecord.parseRow_ok, pure, Except.pure, Except.ok.injEq,
      Option.some.injEq] at found
    obtain ⟨valid, _, rfl⟩ := found
    exact ⟨stored, valid⟩

theorem apply_status (finish : Finish) (now : Instant) (r : OutboxRecord) :
    (finish.apply now r).status ≠ .leased := by
  cases finish <;> simp [Finish.apply]

theorem apply_kept (finish : Finish) (now : Instant) (r : OutboxRecord) :
    (finish.apply now r).eventId = r.eventId ∧ (finish.apply now r).payload = r.payload ∧
      (finish.apply now r).attempts = r.attempts := by
  cases finish <;> exact ⟨rfl, rfl, rfl⟩

theorem finishes_unique {call : OutboxCall} {e e' w w' : String} {n n' : Int}
    (first : Finishes call e w n) (second : Finishes call e' w' n') : e' = e ∧ w' = w ∧ n' = n := by
  cases first <;> cases second <;> exact ⟨rfl, rfl, rfl⟩

theorem finishLease_spec {h : Host} {o o' : Outbox} {call : OutboxCall}
    {eventId leaseOwner : String} {expectedAttempt : Int} {finish : Finish} {now : Instant}
    {answer : List OutboxRecord} (names : Finishes call eventId leaseOwner expectedAttempt)
    (finished : o.finishLease h eventId leaseOwner expectedAttempt finish now = .ok (answer, o')) :
    StepSpec h o now call answer o' := by
  simp only [finishLease, Checks.bind_ok, checkInput_ok] at finished
  obtain ⟨event, eventNamed, owner, ownerNamed, _, _, _, _, current, found, finished⟩ := finished
  cases current with
  | none => cases finished
  | some r =>
    simp only [Checks.seq_ok, Checks.require_ok, pure, Except.pure, Except.ok.injEq,
      Prod.mk.injEq] at finished
    obtain ⟨held, passed, rfl, rfl⟩ := finished
    obtain ⟨stored, valid⟩ := get_ok found
    obtain ⟨sameEvent, samePayload, sameAttempts⟩ := apply_kept finish now r
    rw [text_of_requireNonEmpty eventNamed] at stored
    rw [text_of_requireNonEmpty ownerNamed] at held
    have own : r.eventId.text = strip eventId := o.keyed _ _ stored
    have done : Finished now eventId leaseOwner expectedAttempt r (finish.apply now r) :=
      ⟨own, held, apply_status finish now r, sameAttempts⟩
    have written := fun k => lookup_put o (finish.apply now r) k
    simp only [sameEvent, own] at written
    refine ⟨fun k absent => ?_, fun k r' known => ?_, fun r' member => ?_,
      fun same => (by subst same; cases names), fun names' => ?_⟩
    · rw [written, if_neg, absent]
      rintro rfl
      rw [stored] at absent
      cases absent
    · by_cases same : k = strip eventId
      · subst same
        cases stored.symm.trans known
        exact ⟨_, by rw [written, if_pos rfl], .inr ⟨.finished names done, ⟨samePayload ▸ valid.1,
          passed⟩⟩⟩
      · exact ⟨r', by rw [written, if_neg same, known], .inl rfl⟩
    · cases List.mem_singleton.mp member
      rw [sameEvent, own]
      exact ⟨r, stored, by rw [written, if_pos rfl], .finished names done⟩
    · obtain ⟨rfl, rfl, rfl⟩ := finishes_unique names names'
      exact ⟨r, _, stored, by rw [written, if_pos rfl], done⟩

theorem step_spec {h : Host} {o o' : Outbox} {now : Instant} {call : OutboxCall}
    {answer : List OutboxRecord} (done : o.step h now call = .ok (answer, o')) :
    StepSpec h o now call answer o' := by
  cases call with
  | claim leaseOwner limit leaseSeconds maxAttempts => exact claim_spec done
  | markDelivered eventId leaseOwner expectedAttempt =>
    exact finishLease_spec (.markDelivered ..) done
  | retry eventId leaseOwner expectedAttempt delaySeconds errorCode =>
    obtain ⟨_, _, done⟩ := Checks.bind_ok.mp done
    obtain ⟨_, _, done⟩ := Checks.bind_ok.mp done
    exact finishLease_spec (.retry ..) done
  | markDead eventId leaseOwner expectedAttempt errorCode =>
    obtain ⟨_, _, done⟩ := Checks.bind_ok.mp done
    exact finishLease_spec (.markDead ..) done

/-! Runs. -/

theorem run_append (h : Host) (o : Outbox) (before after : List (Instant × OutboxCall)) :
    run h o (before ++ after) = run h (run h o before) after :=
  Runs.run_append _ _ _ _

theorem next_of_ok {h : Host} {o o' : Outbox} {now : Instant} {call : OutboxCall}
    {answer : List OutboxRecord} (done : o.step h now call = .ok (answer, o')) :
    o.next h (now, call) = o' := by
  simp [next, done]

theorem next_rows (h : Host) (o : Outbox) (call : Instant × OutboxCall) {k : String}
    {r : OutboxRecord} (stored : o.rows.lookup k = some r) :
    ∃ r', (o.next h call).rows.lookup k = some r' ∧ Steps h call.1 call.2 r r' := by
  unfold next
  split
  · next answer o' done => exact (step_spec done).rows k r stored
  · exact ⟨r, stored, .inl rfl⟩

theorem next_none (h : Host) (o : Outbox) (call : Instant × OutboxCall) {k : String}
    (absent : o.rows.lookup k = none) : (o.next h call).rows.lookup k = none := by
  unfold next
  split
  · next answer o' done => exact (step_spec done).none k absent
  · exact absent

theorem next_source {h : Host} {o : Outbox} {call : Instant × OutboxCall} {k : String}
    {r' : OutboxRecord} (stored : (o.next h call).rows.lookup k = some r') :
    ∃ r, o.rows.lookup k = some r ∧ Steps h call.1 call.2 r r' := by
  cases before : o.rows.lookup k with
  | none =>
    rw [next_none h o call before] at stored
    cases stored
  | some r =>
    obtain ⟨_, known, steps⟩ := next_rows h o call before
    cases stored.symm.trans known
    exact ⟨r, rfl, steps⟩

structure Advances (r r' : OutboxRecord) : Prop where
  attempts : r.attempts ≤ r'.attempts
  renewed : r.status ≠ .leased → r'.status = .leased → r.attempts < r'.attempts
  settled : r.IsSettled → r' = r

theorem Advances.refl (r : OutboxRecord) : Advances r r :=
  ⟨le_refl _, fun free leased => absurd leased free, fun _ => rfl⟩

theorem Advances.trans {a b c : OutboxRecord} (first : Advances a b) (second : Advances b c) :
    Advances a c where
  attempts := first.attempts.trans second.attempts
  renewed free leased := by
    by_cases held : b.status = .leased
    · exact lt_of_lt_of_le (first.renewed free held) second.attempts
    · exact lt_of_le_of_lt first.attempts (second.renewed held leased)
  settled fixed := by
    have same := first.settled fixed
    rw [second.settled (same ▸ fixed), same]

theorem advances_of_move {now : Instant} {call : OutboxCall} {r r' : OutboxRecord}
    (move : Move now call r r') : Advances r r' := by
  cases move with
  | claimed claimed =>
    have more := claimed.attempts
    exact ⟨by omega, fun _ _ => by omega, fun settled =>
      absurd claimed.claimable (r.not_claimable_of_settled settled now)⟩
  | exhausted exhausted =>
    refine ⟨exhausted.attempts.ge, fun _ leased => ?_, fun settled =>
      absurd exhausted.claimable (r.not_claimable_of_settled settled now)⟩
    rw [exhausted.status] at leased
    cases leased
  | finished _ finished =>
    refine ⟨finished.attempts.ge, fun _ leased => absurd leased finished.status, fun settled => ?_⟩
    have leased := finished.held.1
    rcases settled with status | status <;> rw [status] at leased <;> cases leased

theorem advances_of_steps {h : Host} {now : Instant} {call : OutboxCall} {r r' : OutboxRecord}
    (steps : Steps h now call r r') : Advances r r' := by
  rcases steps with rfl | ⟨move, _⟩
  · exact .refl r'
  · exact advances_of_move move

/-- Every row of the earlier table is in the later one, as a later version. -/
def Grows (o o' : Outbox) : Prop :=
  ∀ k r, o.rows.lookup k = some r → ∃ r', o'.rows.lookup k = some r' ∧ Advances r r'

theorem run_grows (h : Host) (o : Outbox) (calls : List (Instant × OutboxCall)) :
    o.Grows (run h o calls) := by
  refine Runs.run_relation (next h) (P := fun _ => True) (R := Grows) (fun _ _ _ => trivial)
    (fun o k r stored => ⟨r, stored, .refl r⟩) ?_ ?_ trivial calls
  · intro a b c first second k r stored
    obtain ⟨r', known, advances⟩ := first k r stored
    obtain ⟨r'', known', advances'⟩ := second k r' known
    exact ⟨r'', known', advances.trans advances'⟩
  · intro o call _ k r stored
    obtain ⟨r', known, steps⟩ := next_rows h o call stored
    exact ⟨r', known, advances_of_steps steps⟩

theorem run_written (h : Host) (o : Outbox) (calls : List (Instant × OutboxCall)) {k : String}
    {r : OutboxRecord} (stored : (run h o calls).rows.lookup k = some r) :
    o.rows.lookup k = some r ∨ r.Valid h := by
  refine Runs.run_invariant (next h) (P := fun o' => ∀ k r, o'.rows.lookup k = some r →
    o.rows.lookup k = some r ∨ r.Valid h) ?_ (fun _ _ => .inl) calls k r stored
  intro o' call written k r' stored
  obtain ⟨r, before, steps⟩ := next_source stored
  rcases steps with rfl | ⟨_, valid⟩
  · exact written k r' before
  · exact .inr valid

theorem run_bounded (h : Host) (bound : Int) (calls : List (Instant × OutboxCall))
    (respected : ∀ call ∈ calls, ∀ leaseOwner limit leaseSeconds maxAttempts,
      call.2 = .claim leaseOwner limit leaseSeconds maxAttempts → maxAttempts ≤ bound)
    (o : Outbox) (start : ∀ k r, o.rows.lookup k = some r → r.attempts ≤ bound) :
    ∀ k r, (run h o calls).rows.lookup k = some r → r.attempts ≤ bound := by
  induction calls generalizing o with
  | nil => exact start
  | cons call later ih =>
    refine ih (fun c member => respected c (List.mem_cons_of_mem _ member)) _ ?_
    intro k r' stored
    obtain ⟨r, before, steps⟩ := next_source stored
    have earlier := start k r before
    rcases steps with rfl | ⟨move, _⟩
    · exact earlier
    · have claims := respected call List.mem_cons_self
      obtain ⟨now, call⟩ := call
      cases move with
      | claimed claimed => exact claimed.bounded.trans (claims _ _ _ _ rfl)
      | exhausted exhausted => rw [exhausted.attempts]; exact earlier
      | finished _ finished => rw [finished.attempts]; exact earlier

theorem stale_refused {h : Host} {o : Outbox} {now : Instant} {call : OutboxCall}
    {eventId leaseOwner : String} {attempt : Int}
    (names : Finishes call eventId leaseOwner attempt)
    (left : ∀ r, o.rows.lookup (strip eventId) = some r → r.status = .leased →
      attempt < r.attempts) : ∃ e, o.step h now call = .error e := by
  cases done : o.step h now call with
  | error e => exact ⟨e, rfl⟩
  | ok result =>
    obtain ⟨r, _, stored, _, finished⟩ := (step_spec done).finished names
    have later := left r stored finished.held.1
    rw [finished.held.2.2.1] at later
    exact absurd later (lt_irrefl _)

structure LeaseSafety (h : Host) (o : Outbox) (calls : List (Instant × OutboxCall)) : Prop where
  absorbing : ∀ before after, calls = before ++ after → ∀ k r,
    (run h o before).rows.lookup k = some r → r.IsSettled →
    (run h o calls).rows.lookup k = some r
  /-- A record that a claim hands out has one attempt more than before, within the maximum. -/
  claims : ∀ before now leaseOwner limit leaseSeconds maxAttempts after answer o',
    calls = before ++ (now, .claim leaseOwner limit leaseSeconds maxAttempts) :: after →
    (run h o before).step h now (.claim leaseOwner limit leaseSeconds maxAttempts) =
      .ok (answer, o') →
    ∀ r' ∈ answer, ∃ r, (run h o before).rows.lookup r'.eventId.text = some r ∧
      o'.rows.lookup r'.eventId.text = some r' ∧ Claimed now leaseOwner maxAttempts r r'
  maximum : ∀ bound, (∀ call ∈ calls, ∀ leaseOwner limit leaseSeconds maxAttempts,
      call.2 = .claim leaseOwner limit leaseSeconds maxAttempts → maxAttempts ≤ bound) →
    (∀ k r, o.rows.lookup k = some r → r.attempts ≤ bound) →
    ∀ k r, (run h o calls).rows.lookup k = some r → r.attempts ≤ bound
  versions : ∀ before after, calls = before ++ after → (run h o before).Grows (run h o calls)
  finishes : ∀ before now call after eventId leaseOwner attempt answer o',
    calls = before ++ (now, call) :: after → Finishes call eventId leaseOwner attempt →
    (run h o before).step h now call = .ok (answer, o') →
    ∃ r r', (run h o before).rows.lookup (strip eventId) = some r ∧
      o'.rows.lookup (strip eventId) = some r' ∧ Finished now eventId leaseOwner attempt r r'
  /-- Two finishing calls of one event and attempt do not both succeed. -/
  once : ∀ before now call between now' call' after eventId eventId' leaseOwner leaseOwner' attempt
    answer o', calls = before ++ (now, call) :: (between ++ (now', call') :: after) →
    Finishes call eventId leaseOwner attempt → Finishes call' eventId' leaseOwner' attempt →
    strip eventId = strip eventId' → (run h o before).step h now call = .ok (answer, o') →
    ∃ e, (run h o (before ++ (now, call) :: between)).step h now' call' = .error e
  /-- Once a record has been claimed again, no call for an earlier attempt changes it. -/
  stale : ∀ before between now call after eventId leaseOwner attempt r,
    calls = before ++ (between ++ (now, call) :: after) →
    Finishes call eventId leaseOwner attempt →
    (run h o before).rows.lookup (strip eventId) = some r → attempt < r.attempts →
    ∃ e, (run h o (before ++ between)).step h now call = .error e
  written : ∀ k r, (run h o calls).rows.lookup k = some r →
    o.rows.lookup k = some r ∨ r.Valid h

/-- Lease safety of the outbox, for any workers in any order with any clocks. -/
theorem lease_safety (h : Host) (o : Outbox) (calls : List (Instant × OutboxCall)) :
    LeaseSafety h o calls where
  absorbing before after split k r stored settled := by
    obtain ⟨r', known, advances⟩ := run_grows h (run h o before) after k r stored
    rw [split, run_append]
    rw [advances.settled settled] at known
    exact known
  claims before now leaseOwner limit leaseSeconds maxAttempts after answer o' _ done r' member := by
    obtain ⟨r, stored, known, move⟩ := (step_spec done).answers r' member
    have leased := (step_spec done).leased rfl r' member
    refine ⟨r, stored, known, ?_⟩
    cases move with
    | claimed claimed => exact claimed
    | exhausted exhausted => rw [exhausted.status] at leased; cases leased
    | finished names => cases names
  maximum bound respected start := run_bounded h bound calls respected o start
  versions before after split := by
    rw [split, run_append]
    exact run_grows h (run h o before) after
  finishes _ _ _ _ _ _ _ _ _ _ names done := (step_spec done).finished names
  once before now call between now' call' after eventId eventId' leaseOwner leaseOwner' attempt
      answer o' _ names names' same done := by
    obtain ⟨r, r', _, known, finished⟩ := (step_spec done).finished names
    refine stale_refused names' fun r'' stored leased => ?_
    have split : run h o (before ++ (now, call) :: between) = run h o' between := by
      rw [run_append, ← next_of_ok done]
      rfl
    obtain ⟨_, later, advances⟩ := run_grows h o' between _ r' known
    rw [split, ← same] at stored
    cases stored.symm.trans later
    have renewed := advances.renewed finished.status leased
    rw [finished.attempts, finished.held.2.2.1] at renewed
    exact renewed
  stale before between now call after eventId leaseOwner attempt r _ names stored left := by
    refine stale_refused names fun r' known _ => ?_
    obtain ⟨_, later, advances⟩ := run_grows h (run h o before) between _ r stored
    rw [run_append] at known
    cases known.symm.trans later
    exact lt_of_lt_of_le left advances.attempts
  written _ _ stored := run_written h o calls stored

end Outbox
end NetworkAgent.Cloud
