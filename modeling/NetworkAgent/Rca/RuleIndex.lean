import NetworkAgent.Rca.Resolution

/-! The rules by identity, and what binds a violation to one of them: the index answers with a
rule only where no other available rule has its identity. -/
namespace NetworkAgent.Rca
open Checks (require)

def Separated (rules : List RcaRule) : Prop :=
  ∀ a ∈ rules, ∀ b ∈ rules, a.identity = b.identity → PyEq.Same a b → a = b

def Only (rules : List RcaRule) (rule : RcaRule) : Prop :=
  rule ∈ rules ∧ ∀ other ∈ rules, other.identity = rule.identity → other = rule

structure RuleIndex.Knows (x : RuleIndex) (rules : List RcaRule) : Prop where
  stored : ∀ {identity rule}, x.byIdentity.lookup identity = some rule →
    rule ∈ rules ∧ rule.identity = identity
  present : ∀ rule ∈ rules, ∃ known, x.byIdentity.lookup rule.identity = some known
  duplicate : ∀ {identity rule}, x.byIdentity.lookup identity = some rule →
    (identity ∈ x.duplicates ↔ ∃ other ∈ rules, other.identity = identity ∧ other ≠ rule)
  recorded : ∀ identity ∈ x.duplicates, ∃ known, x.byIdentity.lookup identity = some known

theorem knows_empty : RuleIndex.Knows {} [] where
  stored found := by simp at found
  present _ member := absurd member List.not_mem_nil
  duplicate found := by simp at found
  recorded _ member := by cases member

section
variable {x : RuleIndex} {before : List RcaRule} {rule : RcaRule}

theorem RuleIndex.Knows.insert_new (knows : x.Knows before)
    (fresh : x.byIdentity.lookup rule.identity = none) :
    RuleIndex.Knows { x with byIdentity := x.byIdentity.insert rule.identity rule }
      (before ++ [rule]) := by
  have apart : ∀ other ∈ before, other.identity ≠ rule.identity := by
    intro other member same
    obtain ⟨known, found⟩ := knows.present other member
    rw [same, fresh] at found
    cases found
  have unlisted : rule.identity ∉ x.duplicates := by
    intro listed
    obtain ⟨known, found⟩ := knows.recorded _ listed
    rw [fresh] at found
    cases found
  refine ⟨?_, ?_, ?_, ?_⟩
  · intro identity found stored
    rcases Table.lookup_insert_iff.mp stored with ⟨rfl, rfl⟩ | ⟨_, earlier⟩
    · exact ⟨by simp, rfl⟩
    · obtain ⟨member, own⟩ := knows.stored earlier
      exact ⟨List.mem_append_left _ member, own⟩
  · intro other member
    rcases List.mem_append.mp member with earlier | here
    · obtain ⟨known, found⟩ := knows.present other earlier
      exact ⟨known, Table.lookup_insert_iff.mpr (.inr ⟨apart other earlier, found⟩)⟩
    · rw [List.mem_singleton.mp here]
      exact ⟨rule, Table.lookup_insert_iff.mpr (.inl ⟨rfl, rfl⟩)⟩
  · intro identity found stored
    rcases Table.lookup_insert_iff.mp stored with ⟨rfl, rfl⟩ | ⟨other, earlier⟩
    · refine iff_of_false unlisted ?_
      rintro ⟨other, member, own, different⟩
      rcases List.mem_append.mp member with earlier | here
      · exact apart other earlier own
      · exact different (List.mem_singleton.mp here)
    · refine (knows.duplicate earlier).trans ?_
      simp [or_and_right, exists_or, Ne.symm other]
  · intro identity listed
    obtain ⟨known, found⟩ := knows.recorded identity listed
    have other : identity ≠ rule.identity := fun same => unlisted (same ▸ listed)
    exact ⟨known, Table.lookup_insert_iff.mpr (.inr ⟨other, found⟩)⟩

theorem RuleIndex.Knows.insert_same (knows : x.Knows before)
    (found : x.byIdentity.lookup rule.identity = some rule) :
    RuleIndex.Knows { x with byIdentity := x.byIdentity.insert rule.identity rule }
      (before ++ [rule]) := by
  have lookup : ∀ identity, (x.byIdentity.insert rule.identity rule).lookup identity =
      x.byIdentity.lookup identity := by
    intro identity
    by_cases same : identity = rule.identity
    · rw [same, AList.lookup_insert, found]
    · rw [AList.lookup_insert_ne same]
  have member := (knows.stored found).1
  have members : ∀ other, other ∈ before ++ [rule] ↔ other ∈ before := by
    intro other
    rw [List.mem_append, List.mem_singleton]
    exact or_iff_left_of_imp fun same => same ▸ member
  refine ⟨?_, ?_, ?_, ?_⟩
  · intro identity known stored
    rw [lookup] at stored
    rw [members]
    exact knows.stored stored
  · intro other inside
    rw [lookup]
    exact knows.present other ((members other).mp inside)
  · intro identity known stored
    rw [lookup] at stored
    simp only [members]
    exact knows.duplicate stored
  · intro identity listed
    rw [lookup]
    exact knows.recorded identity listed

theorem RuleIndex.Knows.add_duplicate (knows : x.Knows before) {previous : RcaRule}
    (found : x.byIdentity.lookup rule.identity = some previous) (other : rule ≠ previous) :
    RuleIndex.Knows { x with duplicates := rule.identity :: x.duplicates } (before ++ [rule]) := by
  refine ⟨?_, ?_, ?_, ?_⟩
  · intro identity known stored
    obtain ⟨member, own⟩ := knows.stored stored
    exact ⟨List.mem_append_left _ member, own⟩
  · intro r member
    rcases List.mem_append.mp member with earlier | here
    · exact knows.present r earlier
    · rw [List.mem_singleton.mp here]
      exact ⟨previous, found⟩
  · intro identity known stored
    by_cases same : identity = rule.identity
    · subst same
      cases found.symm.trans stored
      exact iff_of_true List.mem_cons_self ⟨rule, by simp, rfl, other⟩
    · simp [same, knows.duplicate stored, or_and_right, exists_or, Ne.symm same]
  · intro identity listed
    rcases List.mem_cons.mp listed with rfl | earlier
    · exact ⟨previous, found⟩
    · exact knows.recorded identity earlier

theorem RuleIndex.Knows.add (knows : x.Knows before) (separated : Separated (before ++ [rule])) :
    (x.add rule).Knows (before ++ [rule]) := by
  unfold RuleIndex.add
  cases found : x.byIdentity.lookup rule.identity with
  | none => exact knows.insert_new found
  | some previous =>
    obtain ⟨member, own⟩ := knows.stored found
    dsimp only
    split
    · next same =>
      have equal : previous = rule := separated previous (List.mem_append_left _ member) rule
        (by simp) own same
      exact knows.insert_same (equal ▸ found)
    · next different =>
      refine knows.add_duplicate found ?_
      rintro rfl
      exact different (.refl _)

end

theorem Separated.append_left {before after : List RcaRule} (h : Separated (before ++ after)) :
    Separated before := fun a first b second =>
  h a (List.mem_append_left _ first) b (List.mem_append_left _ second)

theorem knows_foldl {rules : List RcaRule} (separated : Separated rules) :
    (rules.foldl RuleIndex.add {}).Knows rules := by
  induction rules using List.reverseRecOn with
  | nil => exact knows_empty
  | append_singleton before rule ih =>
    rw [List.foldl_append]
    exact (ih separated.append_left).add separated

theorem Separated.applicable {i : Incident} {rules : List RcaRule} (h : Separated rules) :
    Separated (applicable i rules) := fun a first b second =>
  h a (List.mem_of_mem_filter first) b (List.mem_of_mem_filter second)

theorem knows_indexRules {i : Incident} {rules : List RcaRule} (separated : Separated rules) :
    (indexRules i rules).Knows (applicable i rules) := knows_foldl separated.applicable

theorem lookupRule_ok {x : RuleIndex} {rules : List RcaRule} (knows : x.Knows rules)
    {identity : Identity} {rule : RcaRule} :
    lookupRule x identity = .ok rule ↔ Only rules rule ∧ rule.identity = identity := by
  simp only [lookupRule, Checks.seq_ok, Checks.require_ok]
  constructor
  · rintro ⟨unlisted, found⟩
    split at found
    · cases found
    · next known stored =>
      cases found
      obtain ⟨member, own⟩ := knows.stored stored
      refine ⟨⟨member, fun other inside same => ?_⟩, own⟩
      by_contra different
      exact unlisted ((knows.duplicate stored).mpr ⟨other, inside, same.trans own, different⟩)
  · rintro ⟨⟨member, only⟩, rfl⟩
    obtain ⟨known, stored⟩ := knows.present rule member
    obtain ⟨inside, own⟩ := knows.stored stored
    cases only known inside own
    refine ⟨fun listed => ?_, by rw [stored]⟩
    obtain ⟨other, inside, same, different⟩ := (knows.duplicate stored).mp listed
    exact different (only other inside same)

theorem RuleIndex.Knows.duplicates_subset {x y : RuleIndex} {rules rules' : List RcaRule}
    (knows : x.Knows rules) (knows' : y.Knows rules') (members : ∀ r ∈ rules, r ∈ rules')
    {identity : Identity} (listed : identity ∈ x.duplicates) : identity ∈ y.duplicates := by
  obtain ⟨rule, stored⟩ := knows.recorded identity listed
  obtain ⟨other, inside, own, different⟩ := (knows.duplicate stored).mp listed
  obtain ⟨member, same⟩ := knows.stored stored
  obtain ⟨known, stored'⟩ := knows'.present rule (members rule member)
  rw [same] at stored'
  refine (knows'.duplicate stored').mpr ?_
  by_cases equal : rule = known
  · exact ⟨other, members other inside, own, equal ▸ different⟩
  · exact ⟨rule, members rule member, same, equal⟩

theorem lookupRule_error {x : RuleIndex} {identity : Identity} {code : IssueCode}
    (unlisted : identity ∉ x.duplicates) (answer : lookupRule x identity = .error code) :
    code = .ruleVersionNotFound := by
  unfold lookupRule at answer
  rw [Checks.require, if_pos unlisted] at answer
  simp only [Bind.bind, Except.bind] at answer
  split at answer
  · exact (Except.error.inj answer).symm
  · cases answer

theorem lookupRule_congr {x y : RuleIndex} {rules rules' : List RcaRule} (knows : x.Knows rules)
    (knows' : y.Knows rules') (members : ∀ r, r ∈ rules ↔ r ∈ rules') (identity : Identity) :
    lookupRule x identity = lookupRule y identity := by
  have only : ∀ r, Only rules r ↔ Only rules' r := fun r => by simp only [Only, members]
  cases answer : lookupRule x identity with
  | ok rule =>
    obtain ⟨single, own⟩ := (lookupRule_ok knows).mp answer
    exact ((lookupRule_ok knows').mpr ⟨(only rule).mp single, own⟩).symm
  | error code =>
    cases answer' : lookupRule y identity with
    | ok rule =>
      obtain ⟨single, own⟩ := (lookupRule_ok knows').mp answer'
      rw [(lookupRule_ok knows).mpr ⟨(only rule).mpr single, own⟩] at answer
      cases answer
    | error code' =>
      have listed : identity ∈ x.duplicates ↔ identity ∈ y.duplicates :=
        ⟨knows.duplicates_subset knows' fun r => (members r).mp,
          knows'.duplicates_subset knows fun r => (members r).mpr⟩
      by_cases double : identity ∈ x.duplicates
      · rw [← answer, ← answer']
        simp [lookupRule, Checks.require, double, listed.mp double, Bind.bind, Except.bind]
      · rw [lookupRule_error double answer,
          lookupRule_error (fun again => double (listed.mpr again)) answer']

/-! What a violation is bound to. -/

/-- The claim of the incident on the content of a rule, where it makes one or has to. -/
def ContentClaimed (h : Host) (i : Incident) (rule : RcaRule) : Prop :=
  ∃ hashes, contentHashes i = .ok hashes ∧
    match getValue hashes rule.ruleId with
    | none => ¬ RequiresContentDigest i rule
    | some claimed => ∃ text, claimed = .str text ∧ lower text = (rule.contentSha256 h).text

structure Bound (h : Host) (i : Incident) (rules : List RcaRule) (v : KpiViolation)
    (rule : RcaRule) : Prop where
  only : Only (applicable i rules) rule
  detection : DetectionMatches rule v
  listed : versionOf i rule.ruleId = some rule.version
  replay : rule.ruleId = bubbleranReplayRuleId →
    DetectedBy i bubbleranReplayDetectorAlgorithm ∧ legacyContentDigest i = none
  content : ContentClaimed h i rule

theorem isSha256_digest (d : Sha256.Digest) : isSha256 d.text = true := by
  have size : d.text.length = 64 := d.length
  simp [isSha256, size, d.hex]

theorem checkContent_ok {h : Host} {i : Incident} {rule : RcaRule} :
    checkContent h i rule = .ok () ↔
      (rule.ruleId = bubbleranReplayRuleId → legacyContentDigest i = none) ∧
        ContentClaimed h i rule := by
  rw [checkContent, Checks.seq_ok, Checks.require_ok, Checks.bind_ok, ContentClaimed]
  refine and_congr_right fun _ => exists_congr fun hashes => and_congr_right fun _ => ?_
  cases getValue hashes rule.ruleId with
  | none => simp
  | some claimed =>
    cases claimed with
    | str text =>
      simp only [Checks.seq_ok, Checks.require_ok, Json.str.injEq, exists_eq_left']
      constructor
      · exact fun both => both.2.symm
      · exact fun same => ⟨by rw [same]; exact isSha256_digest _, same.symm⟩
    | _ => simp

theorem checkVersion_ok {i : Incident} {ruleId version : String} :
    checkVersion i ruleId version = .ok () ↔ versionOf i ruleId = some version := by
  unfold checkVersion
  cases versionOf i ruleId with
  | none => simp
  | some listed => simp

theorem matchRule_ok {h : Host} {i : Incident} {v : KpiViolation} {rule rule' : RcaRule} :
    matchRule h i v rule = .ok rule' ↔
      checkContent h i rule = .ok () ∧ DetectionMatches rule v ∧ rule = rule' := by
  simp only [matchRule, Checks.seq_ok, Checks.require_ok, pure, Except.pure, Except.ok.injEq]
  constructor
  · rintro ⟨_, _, _, _, content, detection, same⟩
    exact ⟨content, detection, same⟩
  · rintro ⟨content, detection, same⟩
    obtain ⟨_, _, kpi, unit, threshold, comparator, _⟩ := id detection
    exact ⟨kpi, unit, threshold, comparator, content, detection, same⟩

theorem classify_ok {h : Host} {i : Incident} {rules : List RcaRule} {x : RuleIndex}
    (knows : x.Knows (applicable i rules)) {v : KpiViolation} {rule : RcaRule} :
    classify h i x v = .ok rule ↔ Bound h i rules v rule := by
  constructor
  · intro bound
    unfold classify at bound
    split at bound
    · cases bound
    · cases bound
    · cases bound
    · next ruleId version named versioned =>
      obtain ⟨listed, bound⟩ := Checks.seq_ok.mp bound
      obtain ⟨replay, bound⟩ := Checks.seq_ok.mp bound
      obtain ⟨found, lookup, matched⟩ := Checks.bind_ok.mp bound
      obtain ⟨content, detection, rfl⟩ := matchRule_ok.mp matched
      obtain ⟨only, own⟩ := (lookupRule_ok knows).mp lookup
      obtain ⟨legacy, content⟩ := checkContent_ok.mp content
      have id : ruleId.text = found.ruleId := (congrArg Prod.fst own).symm
      have number : version.text = found.version := (congrArg Prod.snd own).symm
      have listed := checkVersion_ok.mp listed
      rw [number, id] at listed
      rw [Checks.require_ok, id] at replay
      exact ⟨only, detection, listed, fun same => ⟨replay same, legacy same⟩, content⟩
  · rintro ⟨only, detection, listed, replay, content⟩
    have ⟨named, versioned, _⟩ := detection
    unfold classify
    split
    · next none _ => rw [none] at named; cases named
    · next none _ => rw [none] at named; cases named
    · next _ none => rw [none] at versioned; cases versioned
    · next ruleId version id same =>
      have name : ruleId.text = rule.ruleId := by simpa [id] using named
      have number : version.text = rule.version := by simpa [same] using versioned
      rw [name, number]
      exact Checks.seq_ok.mpr ⟨checkVersion_ok.mpr listed, Checks.seq_ok.mpr
        ⟨Checks.require_ok.mpr fun same => (replay same).1, Checks.bind_ok.mpr
          ⟨rule, (lookupRule_ok knows).mpr ⟨only, rfl⟩, matchRule_ok.mpr
            ⟨checkContent_ok.mpr ⟨fun same => (replay same).2, content⟩, detection, rfl⟩⟩⟩⟩

theorem stored_of_foldl {rules : List RcaRule} {identity : Identity} {rule : RcaRule}
    (found : (rules.foldl RuleIndex.add {}).byIdentity.lookup identity = some rule) :
    rule ∈ rules := by
  induction rules using List.reverseRecOn with
  | nil => cases found
  | append_singleton before last ih =>
    rw [List.foldl_append, List.foldl_cons, List.foldl_nil] at found
    generalize before.foldl RuleIndex.add {} = x at found ih
    have here : (x.byIdentity.insert last.identity last).lookup identity = some rule →
        rule ∈ before ++ [last] := by
      intro stored
      rcases Table.lookup_insert_iff.mp stored with ⟨_, rfl⟩ | ⟨_, earlier⟩
      · simp
      · exact List.mem_append_left _ (ih earlier)
    unfold RuleIndex.add at found
    split at found
    · split at found
      · exact here found
      · exact List.mem_append_left _ (ih found)
    · exact here found

theorem classify_sound {h : Host} {i : Incident} {rules : List RcaRule} {v : KpiViolation}
    {rule : RcaRule} (bound : classify h i (indexRules i rules) v = .ok rule) :
    rule ∈ rules ∧ DetectionMatches rule v := by
  unfold classify at bound
  split at bound
  · cases bound
  · cases bound
  · cases bound
  · obtain ⟨_, bound⟩ := Checks.seq_ok.mp bound
    obtain ⟨_, bound⟩ := Checks.seq_ok.mp bound
    obtain ⟨found, lookup, matched⟩ := Checks.bind_ok.mp bound
    obtain ⟨_, detection, rfl⟩ := matchRule_ok.mp matched
    obtain ⟨_, lookup⟩ := Checks.seq_ok.mp lookup
    split at lookup
    · cases lookup
    · next stored =>
      cases lookup
      exact ⟨List.mem_of_mem_filter (stored_of_foldl stored), detection⟩

end NetworkAgent.Rca
