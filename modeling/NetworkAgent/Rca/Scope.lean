import NetworkAgent.Domain.Records
import NetworkAgent.Rca.Evidence
import NetworkAgent.Rca.Resolution

/-! The scope check of a collected reference: it has to name exactly the resources of the
incident and a window inside the one of the incident. -/
namespace NetworkAgent.Rca

inductive ScopeIssue where
  | missingResourceScope | invalidResourceScope | resourceScopeMismatch
  | missingTimeScope | invalidTimeScope | incidentTimeScopeMissing | timeScopeMismatch
  | collectedAtOutsideTimeScope
  deriving DecidableEq

def ScopeIssue.value : ScopeIssue → String
  | .missingResourceScope => "MISSING_RESOURCE_SCOPE"
  | .invalidResourceScope => "INVALID_RESOURCE_SCOPE"
  | .resourceScopeMismatch => "RESOURCE_SCOPE_MISMATCH"
  | .missingTimeScope => "MISSING_TIME_SCOPE"
  | .invalidTimeScope => "INVALID_TIME_SCOPE"
  | .incidentTimeScopeMissing => "INCIDENT_TIME_SCOPE_MISSING"
  | .timeScopeMismatch => "TIME_SCOPE_MISMATCH"
  | .collectedAtOutsideTimeScope => "COLLECTED_AT_OUTSIDE_TIME_SCOPE"

/-- `value.replace("Z", "+00:00")`. -/
def zoneSpelled (value : String) : String :=
  String.ofList ((Text.chars value).flatMap fun c => if c = 'Z' then "+00:00".toList else [c])

/-- `_parse_evidence_time`; `fromisoformat` gives the instant of a text with an offset. -/
def parseEvidenceTime (fromisoformat : String → Option Instant) : Json → Option Instant
  | .str value => if value = "" then none else fromisoformat (zoneSpelled value)
  | _ => none

def expectedResourceScope (h : Host) (i : Incident) : List (List Nat) :=
  (i.affectedResources.insertionSort fun a b => textLe a.resourceId.text b.resourceId.text).map
    (canonicalResourceIdentity h)

def isMapping : Json → Bool
  | .obj _ => true
  | _ => false

def resourceScopeIssue (h : Host) (attributes : Dict) (i : Incident) : Option ScopeIssue :=
  match getValue attributes "resource_scope" with
  | none => some .missingResourceScope
  | some (.arr entries) =>
    if entries = [] ∨ entries.any (fun entry => !isMapping entry) then some .invalidResourceScope
    else if expectedResourceScope h i = [] ∨
        entries.map h.canonicalJson ≠ expectedResourceScope h i then
      some .resourceScopeMismatch
    else none
  | some _ => some .invalidResourceScope

def violationWindows (i : Incident) : List (Instant × Instant) :=
  i.violatedKpis.filterMap fun v => match v.windowStart, v.windowEnd with
    | some start, some stop => some (start, stop)
    | _, _ => none

def overlapsViolation (i : Incident) (start stop : Instant) : Bool :=
  (violationWindows i).isEmpty ||
    (violationWindows i).any fun w => decide (start ≤ w.2) && decide (w.1 ≤ stop)

def timeScopeIssue (item : EvidenceReference) (i : Incident) (start stop : Instant) :
    Option ScopeIssue :=
  match i.windowStart, i.windowEnd with
  | some lower, some upper =>
    if start < lower ∨ upper < stop then some .timeScopeMismatch
    else if !overlapsViolation i start stop then some .timeScopeMismatch
    else if ∀ t ∈ item.collectedAt, start ≤ t ∧ t ≤ stop then none
    else some .collectedAtOutsideTimeScope
  | _, _ => some .incidentTimeScopeMissing

def telemetryScopeIssue (h : Host) (fromisoformat : String → Option Instant)
    (item : EvidenceReference) (i : Incident) : Option ScopeIssue :=
  (resourceScopeIssue h item.attributes i).or
    (match getValue item.attributes "window_start", getValue item.attributes "window_end" with
    | some rawStart, some rawEnd =>
      match parseEvidenceTime fromisoformat rawStart, parseEvidenceTime fromisoformat rawEnd with
      | some start, some stop =>
        if stop < start then some .invalidTimeScope else timeScopeIssue item i start stop
      | _, _ => some .invalidTimeScope
    | _, _ => some .missingTimeScope)

theorem zoneSpelled_isoText (t : Instant) :
    zoneSpelled (isoText "+00:00" t) = isoText "+00:00" t := by
  obtain ⟨cs, text, -, written⟩ := isoText_eq "+00:00" t
  have zone : "+00:00".toList.flatMap (fun c => if c = 'Z' then "+00:00".toList else [c]) =
      "+00:00".toList := by decide
  have front : (String.ofList cs).toList = cs := String.toList_ofList
  have back : String.ofList "+00:00".toList = "+00:00" := String.ofList_toList
  rw [text, zoneSpelled, Text.chars_eq, String.toList_append, front, List.flatMap_append,
    flatMap_isTimeChar _ written, zone, String.ofList_append, back]

theorem parseEvidenceTime_dumpTime {fromisoformat : String → Option Instant} {t : Instant}
    (reads : fromisoformat (isoText "+00:00" t) = some t) :
    parseEvidenceTime fromisoformat (dumpTime "+00:00" t) = some t := by
  have written : isoText "+00:00" t ≠ "" := by
    intro empty
    have last : (isoText "+00:00" t).toList ≠ [] := by simp [isoText]
    exact last (by rw [empty]; rfl)
  rw [dumpTime, parseEvidenceTime, if_neg written, zoneSpelled_isoText, reads]

end NetworkAgent.Rca
