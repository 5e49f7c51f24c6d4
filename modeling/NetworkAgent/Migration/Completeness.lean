import NetworkAgent.Migration.Sources

/-! An export that returns has read everything: the pages of a repository at rest are those of
one list, and every row of it that an export passes has been read. -/
namespace NetworkAgent.Migration

/-! What the models and the checks let through. -/

section
variable {h : Host} {i : Incident} {associations : List SourceEventAssociation}
  {e : MigrationEntry}

theorem entry_make_ok (made : MigrationEntry.make h i associations = .ok e) :
    e.incident = i ∧ e.associations = associations ∧ i.Valid h := by
  unfold MigrationEntry.make at made
  split at made
  · contradiction
  · next valid =>
    split at made
    · cases made
      exact ⟨rfl, rfl, valid⟩
    · split at made <;> contradiction

theorem bundle_make_ok {profile : String} {exportedAt : Instant} {entries : List MigrationEntry}
    {digest : Sha256.Digest} {b : MigrationBundle}
    (made : MigrationBundle.make profile exportedAt entries digest = .ok b) :
    b.entries = entries ∧ b.checksumSha256 = digest ∧
      b.unsigned = unsignedOf (strip profile) exportedAt entries := by
  unfold MigrationBundle.make at made
  split at made
  · contradiction
  · next sourceProfile parsed =>
    split at made
    · cases made
      refine ⟨rfl, rfl, ?_⟩
      have text : strip profile = sourceProfile.text := Text.Bounded.parse_eq_some.mp parsed
      simp only [MigrationBundle.unsigned, unsignedPayload, unsignedOf, text]
      rfl
    · contradiction

theorem checkEntries_ok {entries : List MigrationEntry} {size : Nat} {u : Unit}
    (passed : checkEntries h size entries = .ok u) : validateEntries h entries = .ok () ∧
      ∀ e ∈ entries, e.incident.Valid h := by
  induction entries generalizing size with
  | nil => simp [validateEntries, Checks.each]
  | cons e rest ih =>
    simp only [checkEntries, Checks.seq_ok, requireBundle_ok] at passed
    obtain ⟨valid, incident, associations, _, passed⟩ := passed
    obtain ⟨checked, models⟩ := ih passed
    refine ⟨?_, List.forall_mem_cons.mpr ⟨valid, models⟩⟩
    simp only [validateEntries, Checks.each, Checks.seq_ok] at checked ⊢
    exact ⟨⟨incident, associations⟩, checked⟩

theorem createMigrationBundle_ok {profile : String} {exportedAt : Instant}
    {entries : List MigrationEntry} {b : MigrationBundle}
    (created : createMigrationBundle h profile exportedAt entries = .ok b) :
    b.entries = entries ∧ b.Valid h ∧ (dumpBundle h b).length ≤ maxMigrationBundleBytes := by
  simp only [createMigrationBundle, Checks.seq_ok, requireBundle_ok] at created
  obtain ⟨_, _, passed, safe, depth, created⟩ := created
  obtain ⟨made, accepted, created⟩ := Checks.bind_ok.mp created
  simp only [Checks.seq_ok, requireBundle_ok, pure, Except.pure, Except.ok.injEq] at created
  obtain ⟨size, rfl⟩ := created
  obtain ⟨rfl, digest, payload⟩ := bundle_make_ok accepted
  obtain ⟨checked, models⟩ := checkEntries_ok passed
  rw [show strip (strip profile) = strip profile from Text.trim_trim _ _] at payload
  have bytes : (dumpBundle h made).length ≤ maxMigrationBundleBytes := by
    simpa [dumpBundle, serializedBytes] using size
  refine ⟨rfl, ⟨models, ?_⟩, bytes⟩
  simp only [validateMigrationBundle, Checks.seq_ok, requireBundle_ok, payload]
  exact ⟨checked, safe, depth, digest.symm, bytes⟩

end

/-! What is read. -/

theorem collect_ok {h : Host} {before : Nat} {c d : Collected} {a : SourceEventAssociation}
    (collected : collect h before c a = .ok d) : d.associations = c.associations ++ [a] := by
  simp only [collect, Checks.seq_ok, pure, Except.pure, Except.ok.injEq] at collected
  obtain ⟨_, _, _, _, rfl⟩ := collected
  rfl

theorem collect_page_ok {h : Host} {before : Nat} {page : List SourceEventAssociation}
    {c d : Collected} (collected : page.foldlM (collect h before) c = .ok d) :
    d.associations = c.associations ++ page := by
  induction page generalizing c with
  | nil =>
    cases collected
    simp
  | cons a rest ih =>
    rw [List.foldlM_cons] at collected
    obtain ⟨next, first, later⟩ := Checks.bind_ok.mp collected
    rw [ih later, collect_ok first]
    simp

/-- Everything there was up to the offset has been read, and below a thousand that is all. -/
structure ReadTo {α : Type} (rows : List (Option α)) (offset : Nat) (values : List α) : Prop where
  bounded : offset ≤ maxMigrationIncidents
  known : values.map some = rows.take offset
  whole : offset < maxMigrationIncidents → values.map some = rows

section
variable {ε : Type} {h : Host} {s : Source ε}

theorem page_read {α : Type} {rows : List (Option α)} {limit offset : Nat} {values page : List α}
    (known : values.map some = rows.take offset)
    (read : page.map some = Paging.page rows limit offset) :
    (values ++ page).map some = rows.take (offset + page.length) ∧
      (page.length < limit → (values ++ page).map some = rows) := by
  have length : page.length = (Paging.page rows limit offset).length := by
    rw [← read, List.length_map]
  have grown : (values ++ page).map some = rows.take (offset + page.length) := by
    rw [List.map_append, known, read, length, Paging.take_append_page]
  refine ⟨grown, fun short => ?_⟩
  rw [grown, length]
  exact Paging.take_of_short _ _ _ (by omega)

theorem collectPages_ok {incidentId : String} {before fuel offset reached : Nat} {c d : Collected}
    (known : c.associations.map some = (s.associations incidentId).take offset)
    (bounded : offset ≤ maxMigrationIncidents)
    (enough : maxMigrationIncidents ≤ fuel + offset)
    (collected : collectPages h s.toReads incidentId before fuel offset c = .ok (reached, d)) :
    ReadTo (s.associations incidentId) reached d.associations := by
  induction fuel generalizing offset c with
  | zero =>
    cases collected
    exact ⟨bounded, known, fun below => by omega⟩
  | succ fuel ih =>
    simp only [collectPages] at collected
    split at collected
    · cases collected
      exact ⟨bounded, known, fun below => by omega⟩
    · next below =>
      obtain ⟨page, read, collected⟩ := Checks.bind_ok.mp collected
      have pageRead := page_read known (s.associated (liftSource_ok.mp read))
      obtain ⟨fits, collected⟩ := Checks.seq_ok.mp collected
      rw [liftMigration_ok, requireBundle_ok] at fits
      split at collected
      · next empty =>
        cases collected
        subst empty
        refine ⟨bounded, known, fun _ => ?_⟩
        have all := pageRead.2 (by simp [associationPageSize]; omega)
        simpa using all
      · next nonempty =>
        obtain ⟨next, folded, collected⟩ := Checks.bind_ok.mp collected
        rw [← collect_page_ok (liftMigration_ok.mp folded)] at pageRead
        split at collected
        · next short =>
          cases collected
          exact ⟨by omega, pageRead.1, fun _ => pageRead.2 short⟩
        · have moved : 0 < page.length := List.length_pos_iff.mpr nonempty
          exact ih pageRead.1 (by omega) (by omega) collected

theorem take_all {α : Type} {rows : List α} {offset : Nat} (rest : rows.drop offset = []) :
    rows.take offset = rows := List.take_of_length_le (List.drop_eq_nil_iff.mp rest)

theorem nothing_after {α : Type} {rows : List (Option α)} {offset : Nat}
    (read : ([] : List α).map some = Paging.page rows 1 offset) : rows.drop offset = [] := by
  simpa [Paging.page] using read.symm

theorem requireNoMore_ok {incidentId : String} {reached : Nat} {u : Unit}
    {values : List SourceEventAssociation} (read : ReadTo (s.associations incidentId) reached values)
    (passed : requireNoMore s.toReads incidentId reached = .ok u) :
    values.map some = s.associations incidentId := by
  unfold requireNoMore at passed
  split at passed
  · next full =>
    obtain ⟨extra, answered, passed⟩ := Checks.bind_ok.mp passed
    rw [liftMigration_ok, requireBundle_ok] at passed
    subst passed
    rw [read.known, full]
    exact take_all (nothing_after (s.associated (liftSource_ok.mp answered)))
  · next partly => exact read.whole (Nat.lt_of_le_of_ne read.bounded partly)

theorem exportEntry_ok {runningBytes size : Nat} {entries : List MigrationEntry} {i : Incident}
    {e : MigrationEntry}
    (exported : exportEntry h s.toReads runningBytes entries i = .ok (size, e)) :
    e.incident = i ∧ e.associations.map some = s.associations i.incidentId.text := by
  simp only [exportEntry] at exported
  obtain ⟨-, exported⟩ := Checks.seq_ok.mp exported
  obtain ⟨_, _, exported⟩ := Checks.bind_ok.mp exported
  obtain ⟨-, exported⟩ := Checks.seq_ok.mp exported
  obtain ⟨⟨reached, c⟩, collected, exported⟩ := Checks.bind_ok.mp exported
  obtain ⟨checked, exported⟩ := Checks.seq_ok.mp exported
  obtain ⟨entry, made, exported⟩ := Checks.bind_ok.mp exported
  obtain ⟨-, exported⟩ := Checks.seq_ok.mp exported
  cases exported
  obtain ⟨incident, associations, _⟩ := entry_make_ok (liftMigration_ok.mp made)
  have read : ReadTo (s.associations i.incidentId.text) reached c.associations :=
    collectPages_ok rfl (by simp) (by simp) collected
  exact ⟨incident, associations ▸ requireNoMore_ok read checked⟩

def Whole (s : Source ε) (e : MigrationEntry) : Prop :=
  e.associations.map some = s.associations e.incident.incidentId.text

theorem exportEntries_ok {left offset runningBytes : Nat} {entries made : List MigrationEntry}
    (known : (entries.map (·.incident)).map some = s.incidents.take offset)
    (counted : entries.length = offset) (enough : left + offset = maxMigrationIncidents)
    (whole : ∀ e ∈ entries, Whole s e)
    (exported : exportEntries h s.toReads left offset runningBytes entries = .ok made) :
    ReadTo s.incidents made.length (made.map (·.incident)) ∧ ∀ e ∈ made, Whole s e := by
  induction left generalizing offset runningBytes entries with
  | zero =>
    cases exported
    exact ⟨⟨by omega, counted ▸ known, fun below => by omega⟩, whole⟩
  | succ left ih =>
    simp only [exportEntries] at exported
    obtain ⟨page, read, exported⟩ := Checks.bind_ok.mp exported
    have listed := s.listed (liftSource_ok.mp read)
    split at exported
    · cases exported
      have all := take_all (nothing_after listed)
      exact ⟨⟨by omega, counted ▸ known, fun _ => known.trans all⟩, whole⟩
    · next i =>
      obtain ⟨⟨size, e⟩, entry, exported⟩ := Checks.bind_ok.mp exported
      obtain ⟨incident, associations⟩ := exportEntry_ok entry
      have grown := (page_read known listed).1
      refine ih ?_ (by simp [counted]) (by omega) ?_ exported
      · simpa [incident] using grown
      · intro e' member
        rcases List.mem_append.mp member with old | new
        · exact whole e' old
        · cases List.mem_singleton.mp new
          simpa [Whole, incident] using associations
    · contradiction

theorem requireNoMoreIncidents_ok {entries : List MigrationEntry} {u : Unit}
    (read : ReadTo s.incidents entries.length (entries.map (·.incident)))
    (passed : requireNoMoreIncidents s.toReads entries = .ok u) :
    (entries.map (·.incident)).map some = s.incidents := by
  unfold requireNoMoreIncidents at passed
  split at passed
  · next full =>
    obtain ⟨extra, answered, passed⟩ := Checks.bind_ok.mp passed
    rw [liftMigration_ok, requireBundle_ok] at passed
    subst passed
    rw [read.known, full]
    exact take_all (nothing_after (s.listed (liftSource_ok.mp answered)))
  · next partly => exact read.whole (Nat.lt_of_le_of_ne read.bounded partly)

theorem exportMigrationBundle_ok {profile : String} {exportedAt : Instant} {b : MigrationBundle}
    (exported : exportMigrationBundle h s.toReads profile exportedAt = .ok b) :
    (b.entries.map (·.incident)).map some = s.incidents ∧ (∀ e ∈ b.entries, Whole s e) ∧
      b.Valid h ∧ (dumpBundle h b).length ≤ maxMigrationBundleBytes := by
  simp only [exportMigrationBundle] at exported
  obtain ⟨-, exported⟩ := Checks.seq_ok.mp exported
  obtain ⟨entries, made, exported⟩ := Checks.bind_ok.mp exported
  obtain ⟨checked, exported⟩ := Checks.seq_ok.mp exported
  obtain ⟨same, valid, size⟩ := createMigrationBundle_ok (liftMigration_ok.mp exported)
  have none_read : (([] : List MigrationEntry).map (·.incident)).map some = s.incidents.take 0 := rfl
  obtain ⟨read, whole⟩ := exportEntries_ok none_read rfl rfl (by simp) made
  exact ⟨same ▸ requireNoMoreIncidents_ok read checked, same ▸ whole, valid, size⟩

end

/-! The file. -/

theorem dumpMigrationBundle_valid {h : Host} {b : MigrationBundle} (valid : b.Valid h) :
    dumpMigrationBundle h b = .ok (dumpBundle h b) := by
  simp [dumpMigrationBundle, valid.checks, Bind.bind, Except.bind, pure, Except.pure]

theorem loadMigrationBundle_fits {h : Host} {decoder : Decoder} {b : MigrationBundle}
    (valid : b.Valid h) (size : (dumpBundle h b).length ≤ maxMigrationBundleBytes)
    (roundTrip : ∀ payload b', decoder.payload (dumpBundle h b) = some payload →
      decoder.bundle payload = some b' → b' = b) :
    loadMigrationBundle h decoder (dumpBundle h b) ≠
      .error (.bundle "migration bundle exceeds 16 MiB") := by
  have fits : requireBundle ((dumpBundle h b).length ≤ maxMigrationBundleBytes)
      "migration bundle exceeds 16 MiB" = .ok () := requireBundle_ok.mpr size
  have other : ∀ {condition : Prop} [Decidable condition] {text : String},
      text ≠ "migration bundle exceeds 16 MiB" → Checks.Avoids
        (.bundle "migration bundle exceeds 16 MiB") (requireBundle condition text) :=
    fun different => Checks.avoids_require (by simpa using different)
  unfold loadMigrationBundle
  rw [fits]
  change Checks.Avoids _ _
  split
  · exact Checks.avoids_error (by decide)
  · next payload read =>
    apply Checks.avoids_bind (other (by decide)) fun _ _ => ?_
    apply Checks.avoids_bind (other (by decide)) fun _ _ => ?_
    split
    · exact Checks.avoids_error (by decide)
    · next b' restored =>
      rw [roundTrip payload b' read restored, valid.checks]
      exact Checks.avoids_ok b

/-- An export that returns has every incident of the repository at rest, in order and once, each
with its associations, and a size that neither end of its file refuses. -/
theorem export_complete {ε : Type} (h : Host) (s : Source ε) (profile : String)
    (exportedAt : Instant) (b : MigrationBundle) (decoder : Decoder)
    (roundTrip : ∀ payload b', decoder.payload (dumpBundle h b) = some payload →
      decoder.bundle payload = some b' → b' = b)
    (exported : exportMigrationBundle h s.toReads profile exportedAt = .ok b) :
    (b.entries.map (·.incident)).map some = s.incidents ∧
      (b.entries.map MigrationEntry.id).Nodup ∧
      (b.entries.map MigrationEntry.id).Pairwise (fun id id' => textLe id id' = true) ∧
      (∀ e ∈ b.entries, e.associations.map some = s.associations e.incident.incidentId.text) ∧
      dumpMigrationBundle h b = .ok (dumpBundle h b) ∧
      loadMigrationBundle h decoder (dumpBundle h b) ≠
        .error (.bundle "migration bundle exceeds 16 MiB") := by
  obtain ⟨incidents, whole, valid, size⟩ := exportMigrationBundle_ok exported
  refine ⟨incidents, b.distinct, ?_, whole, dumpMigrationBundle_valid valid,
    loadMigrationBundle_fits valid size roundTrip⟩
  have ascending := s.ascending
  rw [← incidents, reduceOption_some, List.pairwise_map] at ascending
  exact List.pairwise_map.mpr ascending

/-! A repository of two incidents, one of them with an association. -/
theorem ok_of_isOk {ε α : Type} {x : Except ε α} (ok : x.isOk = true) : ∃ a, x = .ok a := by
  cases x with
  | error e => simp [Except.isOk, Except.toBool] at ok
  | ok a => exact ⟨a, rfl⟩

namespace ExportSample

def incident (id : Identifier) : Incident where
  incidentId := id
  detectedAt := 0
  traceId := .ofText "trace" fits_trace
  createdAt := 0
  updatedAt := 0

def first : Identifier := .ofText "first" (by decide +kernel)
def second : Identifier := .ofText "second" (by decide +kernel)

def association : SourceEventAssociation where
  incidentId := first
  sourceEventId := .ofText "event" fits_event
  registeredAt := 0
  actor := .ofText "detector" (by decide +kernel)
  reason := .ofText "detected" (by decide +kernel)
  idempotencyKey := .ofText "key" (by decide +kernel)
  traceId := .ofText "trace" fits_trace

def repository : Memory where
  incidents := ((∅ : Table String Incident).insert "second" (incident second)).insert "first"
    (incident first)
  sourceEvents := (∅ : Table (String × String) SourceEventAssociation).insert ("first", "event")
    association

theorem exports : (exportMigrationBundle Host.ascii (memorySource Host.ascii repository).toReads
    "laboratory" 0).isOk = true := by decide +kernel

theorem rows : (memorySource Host.ascii repository).incidents =
    [incident first, incident second].map some := by decide

end ExportSample

theorem export_complete_sample : ∃ b, exportMigrationBundle Host.ascii
    (memorySource Host.ascii ExportSample.repository).toReads "laboratory" 0 = .ok b ∧
      b.entries.map (·.incident) =
        [ExportSample.incident ExportSample.first, ExportSample.incident ExportSample.second] := by
  obtain ⟨b, exported⟩ := ok_of_isOk ExportSample.exports
  have all := (export_complete Host.ascii (memorySource Host.ascii ExportSample.repository)
    "laboratory" 0 b ⟨fun _ => some b.toJson, fun _ => some b⟩ (by simp) exported).1
  rw [ExportSample.rows] at all
  exact ⟨b, exported, List.map_injective_iff.mpr (Option.some_injective _) all⟩

end NetworkAgent.Migration
