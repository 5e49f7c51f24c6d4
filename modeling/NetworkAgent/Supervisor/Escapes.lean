import NetworkAgent.Supervisor.Canonical

/-! The errors of the decode boundary. The message type, the decisions and outcomes of a
confirmation, the comparator of a violation and the risk level of an action are looked up in
sets of texts, and a list or an object cannot be looked up. A payload gets past the boundary's
own error exactly when such a value stands in a field whose turn to be looked up comes. -/
namespace NetworkAgent.Supervisor

def isContainer : Json → Bool
  | .arr _ | .obj _ => true
  | .null | .bool _ | .int _ | .float _ | .str _ => false

def Hashes {α : Type} (x : Check α) : Prop := Checks.Avoids ContentError.notHashable x

section
variable {α β : Type}

theorem hashes_bind {x : Check α} {f : α → Check β} (first : Hashes x)
    (later : ∀ a, Hashes (f a)) : Hashes (x >>= f) :=
  Checks.avoids_bind first fun a _ => later a

theorem bind_stuck {x : Check α} {f : α → Check β} (first : Hashes x) :
    (x >>= f) = .error .notHashable ↔ ∃ a, x = .ok a ∧ f a = .error .notHashable := by
  cases x with
  | ok a => simp [Bind.bind, Except.bind]
  | error e =>
    have other : e ≠ .notHashable := by simpa [Hashes, Checks.Avoids] using first
    simp [Bind.bind, Except.bind, other]

theorem seq_stuck {x : Check Unit} {f : Unit → Check β} (first : Hashes x) :
    (x >>= f) = .error .notHashable ↔ x = .ok () ∧ f () = .error .notHashable := by
  rw [bind_stuck first]
  exact ⟨fun ⟨_, h, k⟩ => ⟨h, k⟩, fun ⟨h, k⟩ => ⟨(), h, k⟩⟩

theorem stuck_before {x : Check α} {f : α → Check β} (later : ∀ a, Hashes (f a)) :
    (x >>= f) = .error .notHashable ↔ x = .error .notHashable := by
  cases x with
  | ok a =>
    have other : f a ≠ .error .notHashable := later a
    simp [Bind.bind, Except.bind, other]
  | error e => simp [Bind.bind, Except.bind]

theorem bind_stuck_or {x : Check α} {f : α → Check β} :
    (x >>= f) = .error .notHashable ↔
      x = .error .notHashable ∨ ∃ a, x = .ok a ∧ f a = .error .notHashable := by
  cases x <;> simp [Bind.bind, Except.bind]

theorem seq_stuck_or {x : Check Unit} {f : Unit → Check β} :
    (x >>= f) = .error .notHashable ↔
      x = .error .notHashable ∨ x = .ok () ∧ f () = .error .notHashable := by
  cases x <;> simp [Bind.bind, Except.bind]

end

/-! The checks of one value that look nothing up. -/

@[simp] theorem hashes_ok {α : Type} (a : α) : Hashes (.ok a : Check α) := Checks.avoids_ok a

@[simp] theorem hashes_pure {α : Type} (a : α) : Hashes (pure a : Check α) := hashes_ok a

@[simp] theorem hashes_invalid {α : Type} (message : String) :
    Hashes (.error (.invalid message) : Check α) := Checks.avoids_error nofun

@[simp] theorem hashes_require (condition : Prop) [Decidable condition] (message : String) :
    Hashes (Checks.require condition (.invalid message)) := Checks.avoids_require nofun

@[simp] theorem hashes_orInvalid (condition : Prop) [Decidable condition] (label : String) :
    Hashes (orInvalid condition label) := Checks.avoids_require nofun

@[simp] theorem hashes_identifier (label : String) (value : Json) :
    Hashes (identifier label value) := hashes_orInvalid _ _

@[simp] theorem hashes_optionalIdentifier (label : String) (value : Json) :
    Hashes (optionalIdentifier label value) := hashes_orInvalid _ _

@[simp] theorem hashes_textValue (label : String) (value : Json) (maximum : Nat)
    (allowEmpty : Bool) : Hashes (textValue label value maximum allowEmpty) := hashes_orInvalid _ _

@[simp] theorem hashes_optionalText (label : String) (value : Json) (maximum : Nat) :
    Hashes (optionalText label value maximum) := hashes_orInvalid _ _

@[simp] theorem hashes_integer (label : String) (value : Json) (minimum : Int)
    (maximum : Option Int) : Hashes (integer label value minimum maximum) := hashes_orInvalid _ _

@[simp] theorem hashes_number (label : String) (value : Json) : Hashes (number label value) :=
  hashes_orInvalid _ _

@[simp] theorem hashes_sha256Value (label : String) (value : Json) :
    Hashes (sha256Value label value) := hashes_orInvalid _ _

@[simp] theorem hashes_optionalSha256 (label : String) (value : Json) :
    Hashes (optionalSha256 label value) := hashes_orInvalid _ _

@[simp] theorem hashes_jsonMapping (label : String) (value : Json) :
    Hashes (jsonMapping label value) := hashes_orInvalid _ _

@[simp] theorem hashes_each {α : Type} {check : α → Check Unit} {xs : List α}
    (every : ∀ a, Hashes (check a)) : Hashes (Checks.each check xs) :=
  Checks.avoids_each fun a _ => every a

@[simp] theorem hashes_listValue (label : String) (value : Json) (maximum : Option Nat) :
    Hashes (listValue label value maximum) := by
  cases value with
  | arr items => exact hashes_bind (hashes_require _ _) fun _ => hashes_ok _
  | null | bool | int | float | str | obj => exact hashes_invalid _

@[simp] theorem hashes_listOf {label : String} {check : Json → Check Unit} {value : Json}
    {maximum : Option Nat} (every : ∀ a, Hashes (check a)) :
    Hashes (listOf label check value maximum) :=
  hashes_bind (hashes_listValue _ _ _) fun _ => hashes_each every

@[simp] theorem hashes_stringList (label : String) (value : Json) (identifiers : Bool)
    (maximum : Option Nat) : Hashes (stringList label value identifiers maximum) := by
  apply hashes_bind (hashes_listValue _ _ _)
  intro items
  apply hashes_bind
  · apply hashes_each
    intro item
    cases identifiers <;> exact hashes_orInvalid _ _
  · intro _
    exact hashes_require _ _

@[simp] theorem hashes_stringMapping (label : String) (value : Json) :
    Hashes (stringMapping label value) := by
  cases value with
  | obj fields =>
    exact hashes_each fun _ => hashes_bind (hashes_orInvalid _ _) fun _ => hashes_orInvalid _ _
  | null | bool | int | float | str | arr => exact hashes_invalid _

@[simp] theorem hashes_allowedObject (label : String) (allowed required : List String)
    (value : Json) : Hashes (allowedObject label allowed required value) := by
  cases value with
  | obj fields => exact hashes_bind (hashes_require _ _) fun _ => hashes_ok _
  | null | bool | int | float | str | arr => exact hashes_invalid _

@[simp] theorem hashes_strictObject (label : String) (expected : List String) (value : Json) :
    Hashes (strictObject label expected value) := by
  cases value with
  | obj fields => exact hashes_bind (hashes_require _ _) fun _ => hashes_ok _
  | null | bool | int | float | str | arr => exact hashes_invalid _

@[simp] theorem hashes_versionedObject (label : String) (allowed required : List String)
    (value : Json) : Hashes (versionedObject label allowed required value) :=
  hashes_bind (hashes_allowedObject _ _ _ _) fun _ =>
    hashes_bind (hashes_require _ _) fun _ => hashes_ok _

@[simp] theorem hashes_parseUtcIso (p : Python) (fieldName : String) (value : Json) :
    Hashes (parseUtcIso p fieldName value) := by
  cases value with
  | str s =>
    simp only [parseUtcIso]
    split
    · split
      · exact hashes_ok _
      · exact hashes_invalid _
    · exact hashes_invalid _
  | null | bool | int | float | arr | obj => exact hashes_invalid _

@[simp] theorem hashes_optionalUtcIso (p : Python) (fieldName : String) (value : Json) :
    Hashes (optionalUtcIso p fieldName value) := by
  unfold optionalUtcIso
  split
  · exact hashes_ok ()
  · exact hashes_bind (hashes_parseUtcIso _ _ _) fun _ => hashes_ok ()

@[simp] theorem hashes_presentUtcIso (p : Python) (fieldName key : String) (fields : Dict) :
    Hashes (presentUtcIso p fieldName key fields) := by
  unfold presentUtcIso
  split
  · exact hashes_ok none
  · exact Checks.avoids_map (hashes_parseUtcIso _ _ _)

@[simp] theorem hashes_utcPair (p : Python) (label : String) (startValue endValue : Json)
    (maximumDays : Option Nat) : Hashes (utcPair p label startValue endValue maximumDays) := by
  apply hashes_bind (hashes_require _ _)
  intro _
  split
  · exact hashes_ok ()
  · exact hashes_bind (hashes_parseUtcIso _ _ _) fun _ =>
      hashes_bind (hashes_parseUtcIso _ _ _) fun _ =>
        hashes_bind (hashes_require _ _) fun _ => hashes_require _ _

theorem oneOf_stuck {label : String} {allowed : List String} {value : Json} :
    oneOf label allowed value = .error .notHashable ↔ isContainer value = true := by
  cases value with
  | str s =>
    have fine : orInvalid (s ∈ allowed) label ≠ .error .notHashable := hashes_orInvalid _ _
    simp [oneOf, isContainer, fine]
  | null | bool | int | float => simp [oneOf, isContainer]
  | arr | obj => simp [oneOf, isContainer]

/-! The first member of a list at which a lookup fails. -/

/-- The members before one of them pass, and that one does not get past a lookup. -/
def FirstStuck (check : Json → Check Unit) (stuck : Json → Prop) : List Json → Prop
  | [] => False
  | x :: rest => stuck x ∨ check x = .ok () ∧ FirstStuck check stuck rest

def ListStuck (check : Json → Check Unit) (stuck : Json → Prop) : Json → Prop
  | .arr items => FirstStuck check stuck items
  | .null | .bool _ | .int _ | .float _ | .str _ | .obj _ => False

section
variable {check : Json → Check Unit} {stuck : Json → Prop}

theorem each_stuck (member : ∀ x, check x = .error .notHashable ↔ stuck x) {items : List Json} :
    Checks.each check items = .error .notHashable ↔ FirstStuck check stuck items := by
  induction items with
  | nil => simp [Checks.each, FirstStuck]
  | cons x rest ih => rw [Checks.each, seq_stuck_or, ih, member, FirstStuck]

theorem listOf_stuck {label : String} {value : Json}
    (member : ∀ x, check x = .error .notHashable ↔ stuck x) :
    listOf label check value = .error .notHashable ↔ ListStuck check stuck value := by
  rw [listOf, bind_stuck (hashes_listValue _ _ _)]
  cases value with
  | arr items => simp [listValue, Checks.seq_ok, pure, Except.pure, each_stuck member, ListStuck]
  | null | bool | int | float | str | obj => simp [listValue, ListStuck]

end

/-! The validators that look nothing up. -/

@[simp] theorem hashes_validateCandidateResource (value : Json) :
    Hashes (validateCandidateResource value) := by
  unfold validateCandidateResource
  repeat refine hashes_bind (by simp) fun _ => ?_
  split <;> simp

@[simp] theorem hashes_validateCandidateKpi (value : Json) :
    Hashes (validateCandidateKpi value) := by
  unfold validateCandidateKpi
  repeat refine hashes_bind (by simp) fun _ => ?_
  simp

@[simp] theorem hashes_validateCandidate (p : Python) (value : Json) :
    Hashes (validateCandidate p value) := by
  unfold validateCandidate
  repeat refine hashes_bind (by simp) fun _ => ?_
  simp

@[simp] theorem hashes_validateResourceReference (value : Json) :
    Hashes (validateResourceReference value) := by
  unfold validateResourceReference
  repeat refine hashes_bind (by simp) fun _ => ?_
  simp

@[simp] theorem hashes_validateEvidenceReference (p : Python) (value : Json) :
    Hashes (validateEvidenceReference p value) := by
  unfold validateEvidenceReference
  repeat refine hashes_bind (by simp) fun _ => ?_
  simp

@[simp] theorem hashes_validateApproval (p : Python) (value : Json) :
    Hashes (validateApproval p value) := by
  unfold validateApproval
  repeat refine hashes_bind (by simp) fun _ => ?_
  simp

@[simp] theorem hashes_validateActionRun (p : Python) (value : Json) :
    Hashes (validateActionRun p value) := by
  unfold validateActionRun
  repeat refine hashes_bind (by simp) fun _ => ?_
  simp

/-! The validators that look a field up. -/

/-- `_validate_kpi_violation` reaches the comparator, and a container stands there. -/
def ViolationStuck (value : Json) : Prop :=
  ∃ kpi, versionedObject "KPI violation" kpiViolationFields
      ["kpi_name", "observed_value", "threshold_value", "comparator"] value = .ok kpi ∧
    optionalIdentifier "violation_id" (field "violation_id" kpi) = .ok () ∧
    textValue "KPI name" (field "kpi_name" kpi) 1024 false = .ok () ∧
    number "KPI observed_value" (field "observed_value" kpi) = .ok () ∧
    number "KPI threshold_value" (field "threshold_value" kpi) = .ok () ∧
    isContainer (field "comparator" kpi) = true

theorem validateKpiViolation_stuck {p : Python} {value : Json} :
    validateKpiViolation p value = .error .notHashable ↔ ViolationStuck value := by
  unfold validateKpiViolation
  rw [bind_stuck (hashes_versionedObject _ _ _ _)]
  refine exists_congr fun kpi => and_congr_right fun _ => ?_
  rw [seq_stuck (hashes_optionalIdentifier _ _), seq_stuck (hashes_textValue _ _ _ _),
    seq_stuck (hashes_number _ _), seq_stuck (hashes_number _ _), stuck_before, oneOf_stuck]
  intro _
  repeat refine hashes_bind (by simp) fun _ => ?_
  simp

/-- `_validate_remediation` reaches the risk level, and a container stands there. -/
def RemediationStuck (value : Json) : Prop :=
  ∃ action, versionedObject "remediation" remediationFields
      ["action_id", "target_resources"] value = .ok action ∧
    identifier "remediation action_id" (field "action_id" action) = .ok () ∧
    textValue "remediation action_type" (fieldOr (.str "CUSTOM") "action_type" action) 1024 false =
      .ok () ∧
    Checks.each (fun name => optionalText ("remediation " ++ name) (field name action))
      ["description", "rollback_plan", "expected_outcome"] = .ok () ∧
    ∃ targets, listValue "remediation targets" (field "target_resources" action) = .ok targets ∧
      targets ≠ [] ∧ Checks.each validateResourceReference targets = .ok () ∧
      jsonMapping "remediation parameters" (fieldOr (.obj []) "parameters" action) = .ok () ∧
      isContainer (fieldOr (.str "MEDIUM") "risk_level" action) = true

theorem validateRemediation_stuck {p : Python} {value : Json} :
    validateRemediation p value = .error .notHashable ↔ RemediationStuck value := by
  unfold validateRemediation
  rw [bind_stuck (by simp)]
  refine exists_congr fun action => and_congr_right fun _ => ?_
  rw [seq_stuck (by simp), seq_stuck (by simp), seq_stuck (by simp)]
  refine and_congr_right fun _ => and_congr_right fun _ => and_congr_right fun _ => ?_
  rw [bind_stuck (by simp)]
  refine exists_congr fun targets => and_congr_right fun _ => ?_
  rw [seq_stuck (by simp), Checks.require_ok, seq_stuck (by simp), seq_stuck (by simp),
    stuck_before, oneOf_stuck]
  intro _
  repeat refine hashes_bind (by simp) fun _ => ?_
  simp

/-- `_validate_rca_report` reaches the recommendations, and one of them is stuck. -/
def ReportStuck (p : Python) (value : Json) : Prop :=
  ∃ report, versionedObject "RCA report" rcaReportFields ["report_id", "incident_id"] value =
      .ok report ∧
    identifier "RCA report_id" (field "report_id" report) = .ok () ∧
    identifier "RCA incident_id" (field "incident_id" report) = .ok () ∧
    integer "RCA version" (fieldOr (.int 1) "version" report) 1 = .ok () ∧
    textValue "RCA status" (fieldOr (.str "DRAFT") "status" report) 64 = .ok () ∧
    optionalText "RCA title" (field "title" report) = .ok () ∧
    textValue "RCA summary" (fieldOr (.str "") "summary" report) = .ok () ∧
    stringList "RCA hypotheses" (fieldOr (.arr []) "hypotheses" report) = .ok () ∧
    optionalText "RCA root_cause" (field "root_cause" report) = .ok () ∧
    textValue "RCA conclusion" (fieldOr (.str "CONCLUSIVE") "conclusion" report) 64 = .ok () ∧
    orInvalid (field "confidence" report = .null ∨ IsConfidence (field "confidence" report))
      "RCA confidence" = .ok () ∧
    listOf "RCA evidence_refs" (validateEvidenceReference p)
      (fieldOr (.arr []) "evidence_refs" report) = .ok () ∧
    ListStuck (validateRemediation p) RemediationStuck
      (fieldOr (.arr []) "recommendations" report)

theorem validateRcaReport_stuck {p : Python} {value : Json} :
    validateRcaReport p value = .error .notHashable ↔ ReportStuck p value := by
  unfold validateRcaReport
  rw [bind_stuck (by simp)]
  refine exists_congr fun report => and_congr_right fun _ => ?_
  iterate 11 rw [seq_stuck (by simp)]
  rw [stuck_before, listOf_stuck fun _ => validateRemediation_stuck]
  intro _
  repeat refine hashes_bind (by simp) fun _ => ?_
  simp

/-- `_validate_verification_run` reaches the observed violations, and one of them is stuck. -/
def VerificationStuck (p : Python) (value : Json) : Prop :=
  ∃ run, versionedObject "verification run" verificationRunFields ["verification_id"] value =
      .ok run ∧
    identifier "verification_id" (field "verification_id" run) = .ok () ∧
    optionalIdentifier "verification incident_id" (field "incident_id" run) = .ok () ∧
    stringList "verification action_run_ids" (fieldOr (.arr []) "action_run_ids" run) true = .ok () ∧
    textValue "verification status" (fieldOr (.str "PENDING") "status" run) 64 = .ok () ∧
    stringList "verification checks" (fieldOr (.arr []) "checks" run) = .ok () ∧
    ListStuck (validateKpiViolation p) ViolationStuck (fieldOr (.arr []) "observed_kpis" run)

theorem validateVerificationRun_stuck {p : Python} {value : Json} :
    validateVerificationRun p value = .error .notHashable ↔ VerificationStuck p value := by
  unfold validateVerificationRun
  rw [bind_stuck (by simp)]
  refine exists_congr fun run => and_congr_right fun _ => ?_
  iterate 5 rw [seq_stuck (by simp)]
  rw [stuck_before, listOf_stuck fun _ => validateKpiViolation_stuck]
  intro _
  repeat refine hashes_bind (by simp) fun _ => ?_
  simp

/-! The incident, where four of its lists hold values that are looked up. -/

def incidentHead (p : Python) (value : Json) : Check Dict := do
  let incident ← versionedObject "incident" incidentFields ["incident_id", "trace_id"] value
  identifier "incident_id" (field "incident_id" incident)
  optionalIdentifier "incident correlation_key" (field "correlation_key" incident)
  stringList "incident source_event_ids" (fieldOr (.arr []) "source_event_ids" incident) true
  textValue "incident technology" (fieldOr (.str "UNKNOWN") "technology" incident) 64
  optionalText "incident vendor_profile" (field "vendor_profile" incident) 1024
  textValue "incident status" (fieldOr (.str "DETECTED") "status" incident) 64
  textValue "incident severity" (fieldOr (.str "UNKNOWN") "severity" incident) 64
  textValue "incident title" (fieldOr (.str "") "title" incident)
  textValue "incident description" (fieldOr (.str "") "description" incident)
  listOf "incident resources" validateResourceReference
    (fieldOr (.arr []) "affected_resources" incident)
  let detectedAt ← presentUtcIso p "incident detected_at" "detected_at" incident
  utcPair p "incident" (field "window_start" incident) (field "window_end" incident)
  if detectedAt ≠ none ∧ field "window_end" incident ≠ .null then do
    let windowEnd ← parseUtcIso p "incident window_end" (field "window_end" incident)
    orInvalid (InOrder (some windowEnd) detectedAt) "incident window_end"
  return incident

def incidentTail (p : Python) (incident : Dict) : Check Unit := do
  listOf "incident violated_kpis" (validateKpiViolation p)
    (fieldOr (.arr []) "violated_kpis" incident)
  listOf "incident evidence_refs" (validateEvidenceReference p)
    (fieldOr (.arr []) "evidence_refs" incident)
  stringList "incident hypotheses" (fieldOr (.arr []) "hypotheses" incident)
  optionalText "incident root_cause" (field "root_cause" incident)
  listOf "incident rca_reports" (validateRcaReport p) (fieldOr (.arr []) "rca_reports" incident)
  listOf "incident recommendations" (validateRemediation p)
    (fieldOr (.arr []) "recommendations" incident)
  listOf "incident approvals" (validateApproval p) (fieldOr (.arr []) "approvals" incident)
  listOf "incident action_runs" (validateActionRun p) (fieldOr (.arr []) "action_runs" incident)
  listOf "incident verification_runs" (validateVerificationRun p)
    (fieldOr (.arr []) "verification_runs" incident)
  jsonMapping "incident model_metadata" (fieldOr (.obj []) "model_metadata" incident)
  stringMapping "incident rule_versions" (fieldOr (.obj []) "rule_versions" incident)
  identifier "incident trace_id" (field "trace_id" incident)
  optionalIdentifier "incident duplicate_of" (field "duplicate_of" incident)
  let createdAt ← presentUtcIso p "incident created_at" "created_at" incident
  let updatedAt ← presentUtcIso p "incident updated_at" "updated_at" incident
  Checks.require (InOrder createdAt updatedAt) (.invalid "incident timeline is invalid")
  integer "incident revision" (fieldOr (.int 0) "revision" incident) 0

theorem validateIncident_eq (p : Python) (value : Json) :
    validateIncident p value = incidentHead p value >>= incidentTail p := by
  unfold validateIncident incidentHead
  simp only [bind_assoc]
  iterate 13 refine bind_congr fun _ => ?_
  split
  · simp only [bind_assoc, pure_bind]
    rfl
  · simp only [pure_bind]
    rfl

theorem hashes_incidentHead (p : Python) (value : Json) : Hashes (incidentHead p value) := by
  unfold incidentHead
  iterate 13 refine hashes_bind (by simp) fun _ => ?_
  split
  · exact hashes_bind (hashes_parseUtcIso _ _ _) fun _ =>
      hashes_bind (hashes_orInvalid _ _) fun _ => hashes_pure _
  · exact hashes_pure _

def BeforeReports (p : Python) (incident : Dict) : Prop :=
  listOf "incident evidence_refs" (validateEvidenceReference p)
      (fieldOr (.arr []) "evidence_refs" incident) = .ok () ∧
    stringList "incident hypotheses" (fieldOr (.arr []) "hypotheses" incident) = .ok () ∧
    optionalText "incident root_cause" (field "root_cause" incident) = .ok ()

/-- The checks after the recommendations and before the verifications pass. -/
def BeforeVerifications (p : Python) (incident : Dict) : Prop :=
  listOf "incident approvals" (validateApproval p) (fieldOr (.arr []) "approvals" incident) =
      .ok () ∧
    listOf "incident action_runs" (validateActionRun p)
      (fieldOr (.arr []) "action_runs" incident) = .ok ()

/-- `_validate_incident` reaches the first of the four lists with a stuck member. -/
def IncidentStuck (p : Python) (value : Json) : Prop :=
  ∃ incident, incidentHead p value = .ok incident ∧
    (ListStuck (validateKpiViolation p) ViolationStuck
        (fieldOr (.arr []) "violated_kpis" incident) ∨
      listOf "incident violated_kpis" (validateKpiViolation p)
        (fieldOr (.arr []) "violated_kpis" incident) = .ok () ∧ BeforeReports p incident ∧
      (ListStuck (validateRcaReport p) (ReportStuck p) (fieldOr (.arr []) "rca_reports" incident) ∨
        listOf "incident rca_reports" (validateRcaReport p)
          (fieldOr (.arr []) "rca_reports" incident) = .ok () ∧
        (ListStuck (validateRemediation p) RemediationStuck
            (fieldOr (.arr []) "recommendations" incident) ∨
          listOf "incident recommendations" (validateRemediation p)
            (fieldOr (.arr []) "recommendations" incident) = .ok () ∧
          BeforeVerifications p incident ∧
          ListStuck (validateVerificationRun p) (VerificationStuck p)
            (fieldOr (.arr []) "verification_runs" incident))))

theorem validateIncident_stuck {p : Python} {value : Json} :
    validateIncident p value = .error .notHashable ↔ IncidentStuck p value := by
  rw [validateIncident_eq, bind_stuck (hashes_incidentHead p value)]
  refine exists_congr fun incident => and_congr_right fun _ => ?_
  unfold incidentTail
  rw [seq_stuck_or, listOf_stuck fun _ => validateKpiViolation_stuck]
  refine or_congr_right (and_congr_right fun _ => ?_)
  rw [seq_stuck (by simp), seq_stuck (by simp), seq_stuck (by simp), BeforeReports, and_assoc,
    and_assoc]
  refine and_congr_right fun _ => and_congr_right fun _ => and_congr_right fun _ => ?_
  rw [seq_stuck_or, listOf_stuck fun _ => validateRcaReport_stuck]
  refine or_congr_right (and_congr_right fun _ => ?_)
  rw [seq_stuck_or, listOf_stuck fun _ => validateRemediation_stuck]
  refine or_congr_right (and_congr_right fun _ => ?_)
  rw [seq_stuck (by simp), seq_stuck (by simp), BeforeVerifications, and_assoc]
  refine and_congr_right fun _ => and_congr_right fun _ => ?_
  rw [stuck_before, listOf_stuck fun _ => validateVerificationRun_stuck]
  intro _
  repeat refine hashes_bind (by simp) fun _ => ?_
  simp

/-! The messages, where only confirmations have fields to look up. -/

/-- The decision of a confirmation request is reached, and it is a container. -/
def ConfirmationRequestStuck (decoded : Dict) : Prop :=
  identifier "preview_message_id" (field "preview_message_id" decoded) = .ok () ∧
    identifier "candidate_id" (field "candidate_id" decoded) = .ok () ∧
    identifier "challenge_id" (field "challenge_id" decoded) = .ok () ∧
    sha256Value "snapshot_sha256" (field "snapshot_sha256" decoded) = .ok () ∧
    (["preview_message_id", "candidate_id", "challenge_id", "snapshot_sha256", "message_id",
      "workflow_id", "trace_id", "idempotency_key"].map fun name => field name decoded).Nodup ∧
    isContainer (field "decision" decoded) = true

theorem validateConfirmationRequest_stuck {decoded : Dict} :
    validateConfirmationRequest decoded = .error .notHashable ↔
      ConfirmationRequestStuck decoded := by
  unfold validateConfirmationRequest
  rw [seq_stuck (by simp), seq_stuck (by simp), seq_stuck (by simp), seq_stuck (by simp),
    seq_stuck (by simp), Checks.require_ok, stuck_before (by simp), oneOf_stuck]
  rfl

/-- The decision or the outcome of a confirmation result is reached and is a container, or the
incident of a confirmed result is stuck. -/
def ConfirmationResultStuck (p : Python) (decoded : Dict) : Prop :=
  Checks.each (fun name => identifier ("confirmation result " ++ name) (field name decoded))
      ["request_message_id", "preview_message_id", "candidate_id", "actor"] = .ok () ∧
    (isContainer (field "decision" decoded) = true ∨
      oneOf "confirmation result outcome" ["CONFIRM", "REJECT"] (field "decision" decoded) = .ok () ∧
      (isContainer (field "outcome" decoded) = true ∨
        oneOf "confirmation result outcome" ["created", "correlated", "replayed", "rejected"]
          (field "outcome" decoded) = .ok () ∧
        field "decision" decoded ≠ .str "REJECT" ∧ field "outcome" decoded ≠ .str "rejected" ∧
        field "incident" decoded ≠ .null ∧ IncidentStuck p (field "incident" decoded)))

theorem validateConfirmationResult_stuck {p : Python} {decoded : Dict} :
    validateConfirmationResult p decoded = .error .notHashable ↔
      ConfirmationResultStuck p decoded := by
  unfold validateConfirmationResult
  rw [seq_stuck (by simp), seq_stuck_or, oneOf_stuck, seq_stuck_or, oneOf_stuck]
  refine and_congr_right fun _ => or_congr_right (and_congr_right fun _ =>
    or_congr_right (and_congr_right fun _ => ?_))
  by_cases refused : field "decision" decoded = .str "REJECT"
  · simp only [refused, if_true, ne_eq, not_true, false_and, iff_false]
    exact hashes_bind (hashes_require _ _) fun _ => hashes_textValue _ _ _ _
  · rw [if_neg refused, seq_stuck (by simp), Checks.require_ok, stuck_before (by simp),
      validateIncident_stuck]
    simp only [refused, ne_eq, not_false_iff, true_and, and_assoc]

def PayloadStuck (p : Python) (type : MessageType) (decoded : Dict) : Prop :=
  match type with
  | .confirmationRequest => ConfirmationRequestStuck decoded
  | .confirmationResult => ConfirmationResultStuck p decoded
  | .scanRequest | .candidatePage | .analyzeRequest | .error => False

@[simp] theorem hashes_canonicalResource (p : Python) (value : Json) :
    Hashes (canonicalResource p value) := by
  cases value with
  | str s => exact hashes_require _ _
  | null | bool | int | float | arr | obj => exact hashes_invalid _

theorem validateAssurancePayload_stuck {p : Python} {type : MessageType} {decoded : Dict} :
    validateAssurancePayload p type decoded = .error .notHashable ↔
      PayloadStuck p type decoded := by
  cases type with
  | confirmationRequest => exact validateConfirmationRequest_stuck
  | confirmationResult => exact validateConfirmationResult_stuck
  | scanRequest =>
    refine iff_false_intro (show Hashes (validateScanRequest p decoded) from ?_)
    unfold validateScanRequest
    repeat refine hashes_bind (by simp) fun _ => ?_
    simp
  | candidatePage =>
    refine iff_false_intro (show Hashes (validateCandidatePage p decoded) from ?_)
    unfold validateCandidatePage
    repeat refine hashes_bind (by simp) fun _ => ?_
    simp
  | analyzeRequest =>
    refine iff_false_intro (show Hashes (validateAnalyzeRequest decoded) from ?_)
    exact hashes_bind (hashes_identifier _ _) fun _ => hashes_integer _ _ _ _
  | error => exact iff_false_intro (hashes_ok ())

/-! The payload and the parts around it. -/

def commonChecks (p : Python) (type : MessageType) (decoded : Dict) : Check Unit := do
  let _ ← strictObject type.value type.fields (.obj decoded)
  rejectSensitiveOrOversizedStrings p (.obj decoded)
  Checks.each (fun name => requiredText name (field name decoded)) (requiredFields type)
  Checks.require (field "schema_version" decoded = .str "1.0")
    (.invalid "unsupported schema_version")
  let _ ← parseUtcIso p "sent_at" (field "sent_at" decoded)
  Checks.require (["message_id", "workflow_id", "trace_id", "idempotency_key"].map fun name =>
    field name decoded).Nodup
    (.invalid "canonical correlation identifiers must remain independent")

/-- `_canonical_data` reaches the message type and finds a container, or it reaches the fields of
a confirmation and the message is stuck there. -/
def DataStuck (p : Python) (value : Json) : Prop :=
  ∃ decoded, value = .obj decoded ∧ value.depth ≤ maxCanonicalDepth ∧
    (p.canonicalJson value).length ≤ maxCanonicalBytes ∧
    (isContainer (field "message_type" decoded) = true ∨
      ∃ type, messageTypeOf decoded = .ok type ∧ commonChecks p type decoded = .ok () ∧
        PayloadStuck p type decoded)

theorem messageTypeOf_stuck {decoded : Dict} :
    messageTypeOf decoded = .error .notHashable ↔
      isContainer (field "message_type" decoded) = true := by
  unfold messageTypeOf
  cases field "message_type" decoded with
  | str s => cases parsed : MessageType.parse s <;> simp [isContainer, parsed]
  | null | bool | int | float | arr | obj => simp [isContainer]

theorem commonChecks_ok {p : Python} {type : MessageType} {decoded : Dict} :
    commonChecks p type decoded = .ok () ↔
      ∃ fields, strictObject type.value type.fields (.obj decoded) = .ok fields ∧
        rejectSensitiveOrOversizedStrings p (.obj decoded) = .ok () ∧
        Checks.each (fun name => requiredText name (field name decoded)) (requiredFields type) =
          .ok () ∧
        field "schema_version" decoded = .str "1.0" ∧
        ∃ moment, parseUtcIso p "sent_at" (field "sent_at" decoded) = .ok moment ∧
          (["message_id", "workflow_id", "trace_id", "idempotency_key"].map fun name =>
            field name decoded).Nodup := by
  rw [commonChecks, Checks.bind_ok]
  refine exists_congr fun fields => and_congr_right fun _ => ?_
  rw [Checks.seq_ok, Checks.seq_ok, Checks.seq_ok, Checks.require_ok, Checks.bind_ok]
  simp only [Checks.require_ok]

def typedData (p : Python) (decoded : Dict) (type : MessageType) : Check Dict := do
  let _ ← strictObject type.value type.fields (.obj decoded)
  rejectSensitiveOrOversizedStrings p (.obj decoded)
  if type = .error then validateError decoded
  Checks.each (fun name => requiredText name (field name decoded)) (requiredFields type)
  Checks.require (field "schema_version" decoded = .str "1.0")
    (.invalid "unsupported schema_version")
  let _ ← parseUtcIso p "sent_at" (field "sent_at" decoded)
  if type ≠ .error then
    Checks.require (["message_id", "workflow_id", "trace_id", "idempotency_key"].map fun name =>
      field name decoded).Nodup
      (.invalid "canonical correlation identifiers must remain independent")
    validateAssurancePayload p type decoded
  return decoded

@[simp] theorem hashes_rejectSensitive (p : Python) (value : Json) :
    Hashes (rejectSensitiveOrOversizedStrings p value) :=
  hashes_bind (hashes_require _ _) fun _ => hashes_require _ _

@[simp] theorem hashes_requiredText (name : String) (value : Json) :
    Hashes (requiredText name value) := by
  cases value with
  | str s => exact hashes_bind (hashes_require _ _) fun _ => hashes_require _ _
  | null | bool | int | float | arr | obj => exact hashes_invalid _

theorem typedData_stuck {p : Python} {decoded : Dict} {type : MessageType} :
    typedData p decoded type = .error .notHashable ↔
      commonChecks p type decoded = .ok () ∧ PayloadStuck p type decoded := by
  by_cases error : type = .error
  · subst error
    refine iff_of_false (show Hashes (typedData p decoded .error) from ?_) And.right
    simp only [typedData, if_true, ne_eq, not_true, if_false]
    refine hashes_bind (by simp) fun _ => hashes_bind (by simp) fun _ => hashes_bind ?_ fun _ => ?_
    · exact hashes_bind (hashes_require _ _) fun _ => hashes_textValue _ _ _ _
    · repeat refine hashes_bind (by simp) fun _ => ?_
      exact hashes_pure _
  · rw [commonChecks_ok]
    simp only [typedData, error, if_false, ne_eq, not_false_iff, if_true]
    rw [bind_stuck (by simp)]
    constructor
    · rintro ⟨fields, strict, stuck⟩
      rw [seq_stuck (by simp), seq_stuck (by simp), seq_stuck (by simp), bind_stuck (by simp)] at stuck
      obtain ⟨quiet, required, version, moment, sent, stuck⟩ := stuck
      rw [seq_stuck (by simp), stuck_before fun _ => hashes_pure _,
        validateAssurancePayload_stuck] at stuck
      exact ⟨⟨fields, strict, quiet, required, Checks.require_ok.mp version, moment, sent,
        Checks.require_ok.mp stuck.1⟩, stuck.2⟩
    · rintro ⟨⟨fields, strict, quiet, required, version, moment, sent, independent⟩, stuck⟩
      refine ⟨fields, strict, ?_⟩
      rw [seq_stuck (by simp), seq_stuck (by simp), seq_stuck (by simp), bind_stuck (by simp)]
      refine ⟨quiet, required, Checks.require_ok.mpr version, moment, sent, ?_⟩
      rw [seq_stuck (by simp), stuck_before fun _ => hashes_pure _, validateAssurancePayload_stuck]
      exact ⟨Checks.require_ok.mpr independent, stuck⟩

theorem canonicalData_stuck {p : Python} {value : Json} :
    canonicalData p value = .error .notHashable ↔ DataStuck p value := by
  cases value with
  | obj decoded =>
    have unfolded : canonicalData p (.obj decoded) = (do
        Checks.require ((Json.obj decoded).depth ≤ maxCanonicalDepth)
          (.invalid "canonical payload depth exceeds the limit")
        Checks.require ((p.canonicalJson (.obj decoded)).length ≤ maxCanonicalBytes)
          (.invalid "canonical payload size exceeds the limit")
        let type ← messageTypeOf decoded
        typedData p decoded type) := rfl
    rw [unfolded, seq_stuck (by simp), Checks.require_ok, seq_stuck (by simp), Checks.require_ok,
      bind_stuck_or, messageTypeOf_stuck]
    simp only [typedData_stuck, DataStuck, Json.obj.injEq, exists_eq_left']
  | null | bool | int | float | str | arr => simp [canonicalData, DataStuck]

/-- Within the limits on parts, exactly one of them holds data, and the data is stuck. -/
def ContentStuck (p : Python) (content : Content) : Prop :=
  (1 ≤ content.parts.length ∧ content.parts.length ≤ 2) ∧
    ∃ value texts, splitParts p content.parts = .ok ([value], texts) ∧ texts.length ≤ 1 ∧
      DataStuck p value

theorem hashes_splitParts (p : Python) (parts : List Part) : Hashes (splitParts p parts) := by
  induction parts with
  | nil => exact hashes_ok _
  | cons part rest ih =>
    cases part with
    | data value => exact hashes_bind ih fun _ => hashes_pure _
    | text text =>
      refine hashes_bind ?_ fun _ => hashes_bind ih fun _ => hashes_pure _
      exact hashes_bind (hashes_require _ _) fun _ =>
        hashes_bind (hashes_rejectSensitive _ _) fun _ => hashes_pure _
    | other kind => exact hashes_invalid _

theorem hashes_assertContainerIds (content : Content) (dataMessageId : String)
    (expectedTaskId expectedContextId : Option String) :
    Hashes (assertContainerIds content dataMessageId expectedTaskId expectedContextId) := by
  unfold assertContainerIds assertTransport optionalString
  simp only [bind_assoc, pure_bind]
  repeat refine hashes_bind (by simp) fun _ => ?_
  simp

theorem decode_stuck {p : Python} {content : Content}
    {expectedTaskId expectedContextId : Option String} :
    decodeCanonicalParts p content expectedTaskId expectedContextId = .error .notHashable ↔
      ContentStuck p content := by
  have authoritative : ∀ (value : Json) (text : Option String), (do
      let data ← canonicalData p value
      assertContainerIds content (messageIdOf data) expectedTaskId expectedContextId
      return ⟨data, text, messageIdOf data⟩ : Check CanonicalContent) = .error .notHashable ↔
        DataStuck p value := by
    intro value text
    rw [stuck_before, canonicalData_stuck]
    exact fun data => hashes_bind (hashes_assertContainerIds _ _ _ _) fun _ => hashes_pure _
  unfold decodeCanonicalParts ContentStuck
  rw [seq_stuck (by simp), Checks.require_ok, bind_stuck (hashes_splitParts p _)]
  refine and_congr_right fun _ => ?_
  constructor
  · rintro ⟨⟨values, texts⟩, split, stuck⟩
    match values, texts with
    | [value], [] => exact ⟨value, [], split, by simp, (authoritative value _).mp stuck⟩
    | [value], [text] => exact ⟨value, [text], split, by simp, (authoritative value _).mp stuck⟩
    | [], _ => cases stuck
    | _ :: _ :: _, _ => cases stuck
    | [_], _ :: _ :: _ => cases stuck
  · rintro ⟨value, texts, split, few, stuck⟩
    refine ⟨⟨[value], texts⟩, split, ?_⟩
    match texts, few with
    | [], _ => exact (authoritative value _).mpr stuck
    | [text], _ => exact (authoritative value _).mpr stuck

/-- The decoder answers with content or with its own error, unless the data is stuck. -/
theorem decode_closed_iff (p : Python) (content : Content)
    (expectedTaskId expectedContextId : Option String) :
    ((∃ canonical, decodeCanonicalParts p content expectedTaskId expectedContextId =
        .ok canonical) ∨
      ∃ message, decodeCanonicalParts p content expectedTaskId expectedContextId =
        .error (.invalid message)) ↔ ¬ ContentStuck p content := by
  rw [← @decode_stuck p content expectedTaskId expectedContextId]
  cases decodeCanonicalParts p content expectedTaskId expectedContextId with
  | ok canonical => simp
  | error e => cases e <;> simp

/-- A list in place of the message type raises what the decoder does not promise. -/
theorem decode_message_type_list : ¬ ∀ (p : Python) (content : Content),
    (∃ canonical, decodeCanonicalParts p content = .ok canonical) ∨
      ∃ message, decodeCanonicalParts p content = .error (.invalid message) := by
  intro closed
  have stuck : DataStuck Python.ascii (.obj [("message_type", .arr [])]) :=
    ⟨_, rfl, by decide, by decide, .inl rfl⟩
  have raised : decodeCanonicalParts Python.ascii
      ⟨[.data (.obj [("message_type", .arr [])])], none, none, none⟩ = .error .notHashable :=
    decode_stuck.mpr ⟨by simp, _, [], rfl, by simp, stuck⟩
  rcases closed Python.ascii ⟨[.data (.obj [("message_type", .arr [])])], none, none, none⟩ with
    ⟨canonical, done⟩ | ⟨message, done⟩
  · rw [raised] at done
    cases done
  · rw [raised] at done
    cases done

end NetworkAgent.Supervisor
