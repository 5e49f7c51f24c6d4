import NetworkAgent.Lab.Commitment

/-! What a commitment binds: a batch is committed to by the entries its mappings list in the
order of the slots, so the order of a mapping does not matter, and entries with the same
digests are the same entries as long as no two hashed texts collide. -/
namespace NetworkAgent.Lab

namespace RankingBatch

/-- The same three mappings, each in an order of its own. -/
def Reordered (a b : RankingBatch) : Prop :=
  a.caseKeySha256BySlot.Perm b.caseKeySha256BySlot ∧ a.featuresBySlot.Perm b.featuresBySlot ∧
    a.sealedRankings.Perm b.sealedRankings

def messages (h : Host) (b : RankingBatch) : List (List Nat) :=
  b.featuresBySlot.map (fun f => f.2.canonicalBytes h) ++
    b.sealedRankings.map fun s => s.2.ranking.canonicalBytes h

/-- Nothing that is hashed for the one batch collides with what is hashed for the other. -/
def CollisionFree (h : Host) (a b : RankingBatch) : Prop :=
  ∀ m ∈ a.messages h, ∀ m' ∈ b.messages h, h.sha256 m = h.sha256 m' → m = m'

instance (h : Host) (a b : RankingBatch) : Decidable (CollisionFree h a b) :=
  inferInstanceAs (Decidable (∀ m ∈ _, ∀ m' ∈ _, _ → _))

end RankingBatch

/-! Copying a mapping. -/

section
variable {V : Type} {v w items : List (String × V)}

theorem copiedMappingItems_ok : copiedMappingItems v = .ok items ↔
    (v.length = rcaRankingBatchSize ∧ (∀ item ∈ v, isSlot item.1) ∧ (v.map Prod.fst).Nodup) ∧
      Json.sortFields v = items := by
  simp only [copiedMappingItems, Checks.seq_ok, Checks.require_ok, pure, Except.pure,
    Except.ok.injEq]
  constructor
  · rintro ⟨_, size, slots, once, same⟩
    exact ⟨⟨size, slots, once⟩, same⟩
  · rintro ⟨⟨size, slots, once⟩, same⟩
    exact ⟨size.le, size, slots, once, same⟩

theorem sortFields_eq_of_perm (once : (v.map Prod.fst).Nodup) (perm : v.Perm w) :
    Json.sortFields v = Json.sortFields w := by
  apply Sorting.insertionSort_eq_of_perm (r := fun a b : String × V => textLe a.1 b.1)
    (fun a b => textLe_total a.1 b.1) (fun a b c => textLe_trans) _ perm
  intro a left b right first second
  exact List.inj_on_of_nodup_map once left right (textLe_antisymm first second)

theorem copiedMappingItems_perm (ok : copiedMappingItems v = .ok items) (perm : v.Perm w) :
    copiedMappingItems w = .ok items := by
  rw [copiedMappingItems_ok] at ok ⊢
  obtain ⟨⟨size, slots, once⟩, sorted⟩ := ok
  refine ⟨⟨perm.length_eq ▸ size, fun item member => slots item (perm.mem_iff.mpr member),
    (perm.map Prod.fst).nodup_iff.mp once⟩, ?_⟩
  rw [← sortFields_eq_of_perm once perm, sorted]

theorem perm_of_sortFields_eq (same : Json.sortFields v = Json.sortFields w) : v.Perm w := by
  have sorted : ∀ zs : List (String × V), (Json.sortFields zs).Perm zs :=
    fun zs => List.perm_insertionSort _ zs
  exact (sorted v).symm.trans (same ▸ sorted w)

end

/-! The entries of a batch. -/

/-- The feature set and the ranking of an entry are valid, and its seal ties them together. -/
structure BatchEntry.Valid (h : Host) (e : BatchEntry) : Prop where
  feature : e.feature.Valid h
  sealed : e.rankingSeal.Valid h
  tied : e.rankingSeal.featureSha256 = featureSha256 h e.feature

/-- The entries are what the three mappings hold, in the order of the slots. -/
structure RankingBatch.Reads (h : Host) (b : RankingBatch) (batch : List BatchEntry) : Prop where
  cases : Json.sortFields b.caseKeySha256BySlot = batch.map fun e => (e.slot, e.caseKeyDigest)
  features : Json.sortFields b.featuresBySlot = batch.map fun e => (e.slot, e.feature)
  seals : Json.sortFields b.sealedRankings = batch.map fun e => (e.slot, e.rankingSeal)
  valid : ∀ e ∈ batch, e.Valid h

theorem validatedFeature_ok {h : Host} {value f : RcaFeatureSet}
    (ok : validatedFeature h value = .ok f) : value = f ∧ f.Valid h := by
  simp only [validatedFeature, Checks.seq_ok, Checks.require_ok, pure, Except.pure,
    Except.ok.injEq] at ok
  obtain ⟨_, valid, rfl⟩ := ok
  exact ⟨rfl, valid⟩

theorem validatedSeal_ok {h : Host} {value s : RcaRankingSeal}
    (ok : validatedSeal h value = .ok s) : value = s ∧ s.Valid h := by
  simp only [validatedSeal, Checks.seq_ok, Checks.require_ok, pure, Except.pure,
    Except.ok.injEq] at ok
  obtain ⟨_, _, valid, rfl⟩ := ok
  exact ⟨rfl, valid⟩

theorem validatedEntry_ok {h : Host} {slot digest : String} {feature : RcaFeatureSet}
    {value : RcaRankingSeal} {e : BatchEntry}
    (ok : validatedEntry h slot digest feature value = .ok e) :
    e = ⟨slot, digest, feature, value⟩ ∧ e.Valid h := by
  simp only [validatedEntry, Checks.bind_ok, Checks.require_ok, pure, Except.pure,
    Except.ok.injEq] at ok
  obtain ⟨f, featured, s, sealed, _, tied, rfl⟩ := ok
  obtain ⟨rfl, known⟩ := validatedFeature_ok featured
  obtain ⟨rfl, known'⟩ := validatedSeal_ok sealed
  exact ⟨rfl, known, known', tied⟩

theorem columns_of_entries {h : Host} {cases : List (String × String)}
    {features : List (String × RcaFeatureSet)} {seals : List (String × RcaRankingSeal)}
    {batch : List BatchEntry} (slots : cases.map Prod.fst = features.map Prod.fst)
    (slots' : features.map Prod.fst = seals.map Prod.fst)
    (built : (cases.zip (features.zip seals)).mapM (fun item =>
      validatedEntry h item.1.1 item.1.2 item.2.1.2 item.2.2.2) = .ok batch) :
    cases = batch.map (fun e => (e.slot, e.caseKeyDigest)) ∧
      features = batch.map (fun e => (e.slot, e.feature)) ∧
      seals = batch.map (fun e => (e.slot, e.rankingSeal)) ∧ ∀ e ∈ batch, e.Valid h := by
  induction cases generalizing features seals batch with
  | nil =>
    simp only [List.map_nil, List.nil_eq, List.map_eq_nil_iff] at slots
    simp only [slots, List.map_nil, List.nil_eq, List.map_eq_nil_iff] at slots'
    simp only [List.zip_nil_left, List.mapM_nil, pure, Except.pure, Except.ok.injEq] at built
    simp [slots, slots', ← built]
  | cons c cases ih =>
    obtain ⟨f, features, rfl⟩ := List.exists_cons_of_ne_nil (l := features) (by rintro rfl; simp at slots)
    obtain ⟨s, seals, rfl⟩ := List.exists_cons_of_ne_nil (l := seals) (by rintro rfl; simp at slots')
    simp only [List.map_cons, List.cons.injEq] at slots slots'
    simp only [List.zip_cons_cons, List.mapM_cons, Checks.bind_ok, pure, Except.pure,
      Except.ok.injEq] at built
    obtain ⟨e, entry, rest, later, rfl⟩ := built
    obtain ⟨same, valid⟩ := validatedEntry_ok entry
    obtain ⟨cs, fs, ss, valids⟩ := ih slots.2 slots'.2 later
    subst same
    simp only [List.map_cons, List.mem_cons, forall_eq_or_imp, ← cs, ← fs, ← ss]
    refine ⟨trivial, ?_, ?_, valid, valids⟩
    · rw [slots.1]
    · rw [slots.1, slots'.1]

theorem validatedBatch_reads {h : Host} {b : RankingBatch} {batch : List BatchEntry}
    (ok : validatedBatch h b = .ok batch) : b.Reads h batch := by
  simp only [validatedBatch, Checks.bind_ok, Checks.require_ok] at ok
  obtain ⟨caseItems, copied, featureItems, copied', sealItems, copied'', -, slots, -, -, -, -,
    built⟩ := ok
  obtain ⟨cs, fs, ss, valid⟩ := columns_of_entries slots.1 slots.2 built
  exact ⟨(copiedMappingItems_ok.mp copied).2.trans cs, (copiedMappingItems_ok.mp copied').2.trans fs,
    (copiedMappingItems_ok.mp copied'').2.trans ss, valid⟩

theorem validatedBatch_reordered {h : Host} {a b : RankingBatch} {batch : List BatchEntry}
    (ok : validatedBatch h a = .ok batch) (reordered : a.Reordered b) :
    validatedBatch h b = .ok batch := by
  simp only [validatedBatch, Checks.bind_ok] at ok ⊢
  obtain ⟨caseItems, copied, featureItems, copied', sealItems, copied'', rest⟩ := ok
  exact ⟨caseItems, copiedMappingItems_perm copied reordered.1, featureItems,
    copiedMappingItems_perm copied' reordered.2.1, sealItems,
    copiedMappingItems_perm copied'' reordered.2.2, rest⟩

/-! Creating and verifying. -/

section
variable {h : Host} {context : CommitmentContext} {a b : RankingBatch}
  {c d : RcaRankingBatchCommitment}

theorem create_ok (created : createRankingBatchCommitment h context a = .ok c) :
    ∃ batch digest, validatedBatch h a = .ok batch ∧ c = body h context batch digest ∧
      c.Valid h := by
  simp only [createRankingBatchCommitment, Checks.bind_ok, Checks.require_ok, pure, Except.pure,
    Except.ok.injEq] at created
  obtain ⟨batch, ok, _, valid, same⟩ := created
  exact ⟨batch, _, ok, same.symm, same ▸ valid⟩

theorem create_reordered (created : createRankingBatchCommitment h context a = .ok c)
    (reordered : a.Reordered b) : createRankingBatchCommitment h context b = .ok c := by
  simp only [createRankingBatchCommitment, Checks.bind_ok] at created ⊢
  obtain ⟨batch, ok, rest⟩ := created
  exact ⟨batch, validatedBatch_reordered ok reordered, rest⟩

theorem validatedCommitment_ok :
    validatedCommitment h c = .ok d ↔ c.Valid h ∧ c = d := by
  simp only [validatedCommitment, Checks.seq_ok, Checks.require_ok, pure, Except.pure,
    Except.ok.injEq]
  constructor
  · rintro ⟨_, _, valid, same⟩
    exact ⟨valid, same⟩
  · rintro ⟨valid, same⟩
    obtain ⟨-, -, -, -, -, -, -, -, -, size, -⟩ := id valid
    exact ⟨size.le, size, valid, same⟩

theorem verify_ok : verifyRankingBatchCommitment h c b = .ok d ↔
    c = d ∧ c.Valid h ∧ ∃ e, createRankingBatchCommitment h c.toCommitmentContext b = .ok e ∧
      h.canonicalJson e.dump = h.canonicalJson c.dump := by
  simp only [verifyRankingBatchCommitment, Checks.bind_ok, validatedCommitment_ok,
    Checks.require_ok, pure, Except.pure, Except.ok.injEq]
  constructor
  · rintro ⟨_, ⟨valid, rfl⟩, e, created, _, same, rfl⟩
    exact ⟨rfl, valid, e, created, same⟩
  · rintro ⟨rfl, valid, e, created, same⟩
    exact ⟨c, ⟨valid, rfl⟩, e, created, (), same, rfl⟩

theorem verify_reordered (created : createRankingBatchCommitment h context a = .ok c)
    (reordered : a.Reordered b) : verifyRankingBatchCommitment h c b = .ok c := by
  obtain ⟨batch, digest, -, same, valid⟩ := create_ok created
  have named : c.toCommitmentContext = context := by rw [same]; rfl
  exact verify_ok.mpr ⟨rfl, valid, c, named ▸ create_reordered created reordered, rfl⟩

end

/-! The canonical text of a commitment covers each of its items. -/

section
open Json

theorem RcaRankingBatchCommitmentItem.canon_dump_injective :
    Function.Injective fun i : RcaRankingBatchCommitmentItem => canon i.dump := by
  intro a b same
  simp only [dump] at same
  have fields := fields_eq_of_canon_eq same rfl (by simp)
  simp only [canonFields, canon, List.cons.injEq, Prod.mk.injEq, true_and, and_true,
    Json.str.injEq] at fields
  obtain ⟨slot, digest, feature, ranking⟩ := fields
  cases a
  cases b
  simp_all

theorem RcaRankingBatchCommitment.isExact_dump (c : RcaRankingBatchCommitment) :
    isExact c.dump = true := by
  have items : isExact (dumpList RcaRankingBatchCommitmentItem.dump c.items) = true :=
    isExact_list (fun i => by
      simp [RcaRankingBatchCommitmentItem.dump, isExact, isExactFields]) c.items
  simp [dump, bodyFields, isExact, isExactFields, items]

theorem items_eq_of_canonicalJson_eq {h : Host} {c d : RcaRankingBatchCommitment}
    (same : h.canonicalJson c.dump = h.canonicalJson d.dump) : c.items = d.items := by
  have values := canon_eq_of_bytes_eq c.isExact_dump d.isExact_dump same
  simp only [RcaRankingBatchCommitment.dump, RcaRankingBatchCommitment.bodyFields,
    List.cons_append, List.nil_append] at values
  have fields := fields_eq_of_canon_eq values rfl (by simp)
  simp only [canonFields, List.cons.injEq, Prod.mk.injEq, true_and, and_true] at fields
  obtain ⟨-, -, -, -, -, -, -, -, -, items, -⟩ := fields
  exact items_eq_of_canon_eq RcaRankingBatchCommitmentItem.canon_dump_injective items

end

/-! Equal digests, equal entries. -/

section
variable {h : Host} {a b : RankingBatch} {batch batch' : List BatchEntry}

theorem RankingBatch.Reads.feature_mem (reads : a.Reads h batch) {e : BatchEntry}
    (member : e ∈ batch) : e.feature.canonicalBytes h ∈ a.messages h := by
  have listed : (e.slot, e.feature) ∈ Json.sortFields a.featuresBySlot := by
    rw [reads.features]
    exact List.mem_map_of_mem member
  exact List.mem_append_left _
    (List.mem_map_of_mem (f := fun f => f.2.canonicalBytes h) (Json.mem_sortFields.mp listed))

theorem RankingBatch.Reads.ranking_mem (reads : a.Reads h batch) {e : BatchEntry}
    (member : e ∈ batch) : e.rankingSeal.ranking.canonicalBytes h ∈ a.messages h := by
  have listed : (e.slot, e.rankingSeal) ∈ Json.sortFields a.sealedRankings := by
    rw [reads.seals]
    exact List.mem_map_of_mem member
  exact List.mem_append_right _ (List.mem_map_of_mem
    (f := fun s => s.2.ranking.canonicalBytes h) (Json.mem_sortFields.mp listed))

theorem entry_eq_of_item_eq {e e' : BatchEntry} (valid : e.Valid h) (valid' : e'.Valid h)
    (free : h.sha256 (e.feature.canonicalBytes h) = h.sha256 (e'.feature.canonicalBytes h) →
      e.feature.canonicalBytes h = e'.feature.canonicalBytes h)
    (free' : h.sha256 (e.rankingSeal.ranking.canonicalBytes h) =
        h.sha256 (e'.rankingSeal.ranking.canonicalBytes h) →
      e.rankingSeal.ranking.canonicalBytes h = e'.rankingSeal.ranking.canonicalBytes h)
    (slot : e.slot = e'.slot) (digest : e.caseKeyDigest = e'.caseKeyDigest)
    (feature : featureSha256 h e.feature = featureSha256 h e'.feature)
    (ranking : e.rankingSeal.rankingSha256 = e'.rankingSeal.rankingSha256) : e = e' := by
  have features : e.feature = e'.feature :=
    RcaFeatureSet.canonicalBytes_injective h (free (Sha256.Digest.ext feature))
  obtain ⟨version, -, -, -, -, hashed⟩ := valid.sealed
  obtain ⟨version', -, -, -, -, hashed'⟩ := valid'.sealed
  have rankings : e.rankingSeal.ranking = e'.rankingSeal.ranking :=
    RcaRanking.canonicalBytes_injective h
      (free' (Sha256.Digest.ext (hashed.symm.trans (ranking.trans hashed'))))
  have tied : e.rankingSeal.featureSha256 = e'.rankingSeal.featureSha256 := by
    rw [valid.tied, valid'.tied, feature]
  obtain ⟨_, _, _, ⟨_, _, _, _⟩⟩ := e
  obtain ⟨_, _, _, ⟨_, _, _, _⟩⟩ := e'
  simp_all

theorem entries_eq_of_items_eq {context context' : CommitmentContext} {digest digest' : String}
    (free : RankingBatch.CollisionFree h a b) (reads : a.Reads h batch) (reads' : b.Reads h batch')
    (items : (body h context batch digest).items = (body h context' batch' digest').items) :
    batch = batch' := by
  have pairs : List.Forall₂ (fun e e' : BatchEntry => e = e') batch batch' := by
    have related := List.forall₂_eq_eq_eq ▸ items
    simp only [body, List.forall₂_map_left_iff, List.forall₂_map_right_iff] at related
    refine related.imp_mem fun {e e'} left right same => ?_
    simp only [RcaRankingBatchCommitmentItem.mk.injEq] at same
    exact entry_eq_of_item_eq (reads.valid e left) (reads'.valid e' right)
      (free _ (reads.feature_mem left) _ (reads'.feature_mem right))
      (free _ (reads.ranking_mem left) _ (reads'.ranking_mem right)) same.1 same.2.1 same.2.2.1
      same.2.2.2
  exact List.forall₂_eq_eq_eq ▸ pairs

theorem reordered_of_reads (reads : a.Reads h batch) (reads' : b.Reads h batch) :
    a.Reordered b :=
  ⟨perm_of_sortFields_eq (reads.cases.trans reads'.cases.symm),
    perm_of_sortFields_eq (reads.features.trans reads'.features.symm),
    perm_of_sortFields_eq (reads.seals.trans reads'.seals.symm)⟩

theorem reordered_of_verify {context : CommitmentContext} {c d : RcaRankingBatchCommitment}
    (free : RankingBatch.CollisionFree h a b)
    (created : createRankingBatchCommitment h context a = .ok c)
    (verified : verifyRankingBatchCommitment h c b = .ok d) : a.Reordered b := by
  obtain ⟨batch, digest, ok, same, -⟩ := create_ok created
  obtain ⟨-, -, e, created', texts⟩ := verify_ok.mp verified
  obtain ⟨batch', digest', ok', same', -⟩ := create_ok created'
  have items := items_eq_of_canonicalJson_eq texts
  rw [same, same'] at items
  have reads := validatedBatch_reads ok
  have reads' := validatedBatch_reads ok'
  have entries := entries_eq_of_items_eq free reads reads' items.symm
  exact reordered_of_reads reads (entries ▸ reads')

end

end NetworkAgent.Lab
