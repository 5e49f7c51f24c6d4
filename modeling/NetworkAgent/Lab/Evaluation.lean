import Mathlib.Data.Rat.Floor
import NetworkAgent.Library.Intervals
import NetworkAgent.Library.Sorting
import NetworkAgent.Lab.Replay

/-! The evaluation of predicted episodes against the ground truth. Durations are counted in
microseconds, and seconds and ratios are exact rationals. -/
namespace NetworkAgent.Lab
open Checks (require)

def labSchemaVersion : String := "1.0"
def maxBundleEpisodes : Nat := 10000
def maxEvaluationCandidates : Nat := 100000

/-- The codes of `EvaluationError`; inputs of the wrong type are not values of the model. -/
inductive EvaluationError where
  | invalidInput
  | limitExceeded
  deriving DecidableEq

inductive EpisodeLabel where
  | persistentInterference
  deriving DecidableEq

def EpisodeLabel.value : EpisodeLabel → String
  | .persistentInterference => "persistent_interference"

structure EpisodeWindow where
  resourceId : String
  label : EpisodeLabel := .persistentInterference
  windowStart : Instant
  windowEnd : Instant
  ordered : windowStart ≤ windowEnd
  deriving DecidableEq

structure LabEpisode extends EpisodeWindow where
  episodeId : String
  deriving DecidableEq

structure PredictedEpisode extends EpisodeWindow where
  predictionId : String
  deriving DecidableEq

abbrev Interval := Instant × Instant
abbrev Group := String × EpisodeLabel

def EpisodeWindow.group (e : EpisodeWindow) : Group := (e.resourceId, e.label)

/-- `_inclusive_interval`. -/
def EpisodeWindow.interval (e : EpisodeWindow) : Interval := (e.windowStart, e.windowEnd + 1000000)

def totalSeconds (duration : Int) : ℚ := duration / 1000000

def temporalIou (truth : LabEpisode) (prediction : PredictedEpisode) : ℚ :=
  if truth.group ≠ prediction.group then 0
  else
    let (truthStart, truthEnd) := truth.interval
    let (predictionStart, predictionEnd) := prediction.interval
    let intersectionSeconds :=
      max 0 (totalSeconds (min truthEnd predictionEnd - max truthStart predictionStart))
    if intersectionSeconds = 0 then 0
    else
      intersectionSeconds /
        totalSeconds (max truthEnd predictionEnd - min truthStart predictionStart)

def metric (numerator denominator : ℚ) (bothEmpty : Bool) : ℚ :=
  if denominator = 0 then if bothEmpty then 1 else 0 else numerator / denominator

def f1 (precision recalled : ℚ) : ℚ :=
  if precision + recalled = 0 then 0 else 2 * precision * recalled / (precision + recalled)

def roundHalfEven (x : ℚ) : Int :=
  let rest := x - ⌊x⌋
  if rest < 1 / 2 ∨ rest = 1 / 2 ∧ ⌊x⌋ % 2 = 0 then ⌊x⌋ else ⌊x⌋ + 1

def rounded (value : ℚ) : ℚ := roundHalfEven (value * 10 ^ 12) / 10 ^ 12

/-! Durations. -/

def intervalLe (a b : Interval) : Bool := decide (a.1 < b.1) || (a.1 == b.1 && decide (a.2 ≤ b.2))

def groupLe (a b : Group) : Bool := Sorting.textPairLe (a.1, a.2.value) (b.1, b.2.value)

/-- The keys of a dictionary that the episodes fill, in the order of their first episodes. -/
def groupsOf (episodes : List EpisodeWindow) : List Group :=
  (episodes.map (·.group)).reverse.dedup.reverse

def intervalsOf (group : Group) (episodes : List EpisodeWindow) : List Interval :=
  (episodes.filter fun e => e.group = group).map (·.interval)

def mergedIntervals (episodes : List EpisodeWindow) : List (Group × List Interval) :=
  (groupsOf episodes).map fun group =>
    (group, Intervals.join ((intervalsOf group episodes).insertionSort fun a b => intervalLe a b))

/-- `_total_seconds`. -/
def sumSeconds (groups : List (Group × List Interval)) : ℚ :=
  ((groups.flatMap (·.2)).map fun i => totalSeconds (i.2 - i.1)).sum

def commonSeconds (start «end» : Instant) : ℚ := max 0 (totalSeconds («end» - start))

def intersectionSeconds (truth predictions : List (Group × List Interval)) : ℚ :=
  let keys := ((truth.map (·.1)).filter fun key => key ∈ predictions.map (·.1)).insertionSort
    fun a b => groupLe a b
  (keys.map fun key => Intervals.overlap commonSeconds ((truth.lookup key).getD [])
    ((predictions.lookup key).getD [])).sum

/-! Candidate matches. -/

/-- A tuple of a candidate; the identifiers in it are those of its episodes. -/
structure Candidate where
  overlap : ℚ
  truth : LabEpisode
  prediction : PredictedEpisode
  deriving DecidableEq

inductive SweepItem where
  | truth (episode : LabEpisode)
  | prediction (episode : PredictedEpisode)
  deriving DecidableEq

structure SweepEvent where
  instant : Instant
  phase : Nat
  itemId : String
  item : SweepItem
  deriving DecidableEq

def eventLe (a b : SweepEvent) : Bool :=
  decide (a.instant < b.instant) || (a.instant == b.instant && (decide (a.phase < b.phase) ||
    (a.phase == b.phase && textLe a.itemId b.itemId)))

/-! The events of an episode; an end sorts before the starts at its instant. -/

def truthEnd (t : LabEpisode) : SweepEvent := ⟨t.interval.2, 0, t.episodeId, .truth t⟩

def truthStart (t : LabEpisode) : SweepEvent := ⟨t.interval.1, 1, t.episodeId, .truth t⟩

def predictionEnd (p : PredictedEpisode) : SweepEvent :=
  ⟨p.interval.2, 0, p.predictionId, .prediction p⟩

def predictionStart (p : PredictedEpisode) : SweepEvent :=
  ⟨p.interval.1, 2, p.predictionId, .prediction p⟩

def groupEvents (truth : List LabEpisode) (predictions : List PredictedEpisode) : List SweepEvent :=
  (truth.flatMap (fun t => [truthEnd t, truthStart t]) ++
    predictions.flatMap (fun p => [predictionEnd p, predictionStart p])).insertionSort
      fun a b => eventLe a b

structure Considered where
  evaluatedPairs : Nat := 0
  candidates : List Candidate := []
  deriving DecidableEq

/-- The episodes that have begun and not ended. -/
structure Active where
  truth : List LabEpisode := []
  predictions : List PredictedEpisode := []

def consider (threshold : ℚ) (c : Considered) (truth : LabEpisode)
    (prediction : PredictedEpisode) : Except EvaluationError Considered := do
  require (c.evaluatedPairs < maxEvaluationCandidates) .limitExceeded
  let overlap := temporalIou truth prediction
  let candidates := if threshold ≤ overlap then c.candidates ++ [⟨overlap, truth, prediction⟩]
    else c.candidates
  return ⟨c.evaluatedPairs + 1, candidates⟩

def considerEach (threshold : ℚ) : List (LabEpisode × PredictedEpisode) → Considered →
    Except EvaluationError Considered
  | [], c => .ok c
  | (truth, prediction) :: rest, c => do
    considerEach threshold rest (← consider threshold c truth prediction)

def sortedTruth (episodes : List LabEpisode) : List LabEpisode :=
  episodes.insertionSort fun a b => textLe a.episodeId b.episodeId

def sortedPredictions (episodes : List PredictedEpisode) : List PredictedEpisode :=
  episodes.insertionSort fun a b => textLe a.predictionId b.predictionId

def Active.addTruth (a : Active) (t : LabEpisode) : Active :=
  { a with truth := a.truth.filter (fun o => o.episodeId ≠ t.episodeId) ++ [t] }

def Active.addPrediction (a : Active) (p : PredictedEpisode) : Active :=
  { a with predictions := a.predictions.filter (fun o => o.predictionId ≠ p.predictionId) ++ [p] }

/-- One event: an end drops its episode, and a start meets what is active on the other side. -/
def sweepEvent (threshold : ℚ) (a : Active) (c : Considered) (e : SweepEvent) :
    Except EvaluationError (Active × Considered) :=
  match e.phase, e.item with
  | 0, .truth _ => .ok ({ a with truth := a.truth.filter fun o => o.episodeId ≠ e.itemId }, c)
  | 0, .prediction _ =>
    .ok ({ a with predictions := a.predictions.filter fun o => o.predictionId ≠ e.itemId }, c)
  | 1, .truth t => do
    let c ← considerEach threshold ((sortedPredictions a.predictions).map (t, ·)) c
    return (a.addTruth t, c)
  | 1, .prediction _ => .error .invalidInput
  | _, .prediction p => do
    let c ← considerEach threshold ((sortedTruth a.truth).map (·, p)) c
    return (a.addPrediction p, c)
  | _, .truth _ => .error .invalidInput

def sweep (threshold : ℚ) : List SweepEvent → Active → Considered →
    Except EvaluationError Considered
  | [], _, c => .ok c
  | e :: rest, a, c => do
    let (a, c) ← sweepEvent threshold a c e
    sweep threshold rest a c

def sweepGroups (threshold : ℚ) (truth : List LabEpisode) (predictions : List PredictedEpisode) :
    List Group → Considered → Except EvaluationError Considered
  | [], c => .ok c
  | group :: rest, c => do
    let c ← sweep threshold (groupEvents (truth.filter fun t => t.group = group)
      (predictions.filter fun p => p.group = group)) {} c
    sweepGroups threshold truth predictions rest c

def candidateMatches (truth : List LabEpisode) (predictions : List PredictedEpisode)
    (threshold : ℚ) : Except EvaluationError (List Candidate) := do
  let groups := (truth.map (·.group) ++ predictions.map (·.group)).dedup.insertionSort
    fun a b => groupLe a b
  return (← sweepGroups threshold truth predictions groups {}).candidates

/-! The report. -/

def candidateLe (a b : Candidate) : Bool :=
  decide (b.overlap < a.overlap) || (a.overlap == b.overlap &&
    Sorting.textPairLe (a.truth.episodeId, a.prediction.predictionId)
      (b.truth.episodeId, b.prediction.predictionId))

/-- The loop over the sorted candidates: each is taken unless one of its sides is matched. -/
def greedy : List Candidate → List String → List String → List Candidate
  | [], _, _ => []
  | c :: rest, matchedTruth, matchedPredictions =>
    if c.truth.episodeId ∈ matchedTruth ∨ c.prediction.predictionId ∈ matchedPredictions then
      greedy rest matchedTruth matchedPredictions
    else c :: greedy rest (c.truth.episodeId :: matchedTruth)
      (c.prediction.predictionId :: matchedPredictions)

structure EpisodeMatch where
  groundTruthEpisodeId : String
  predictionId : String
  temporalIou : ℚ
  deriving DecidableEq

def EpisodeMatch.dump (m : EpisodeMatch) : Json := .obj
  [("schema_version", .str labSchemaVersion),
   ("ground_truth_episode_id", .str m.groundTruthEpisodeId),
   ("prediction_id", .str m.predictionId), ("temporal_iou", .float m.temporalIou)]

def Candidate.toMatch (c : Candidate) : EpisodeMatch :=
  ⟨c.truth.episodeId, c.prediction.predictionId, rounded c.overlap⟩

def episodeMatches (candidates : List Candidate) : List EpisodeMatch :=
  ((greedy (candidates.insertionSort fun a b => candidateLe a b) [] []).map
    (·.toMatch)).insertionSort fun a b =>
      Sorting.textPairLe (a.groundTruthEpisodeId, a.predictionId)
        (b.groundTruthEpisodeId, b.predictionId)

structure EpisodeEvaluation where
  evaluationId : String
  overlapThreshold : ℚ
  groundTruthCount : Nat
  predictionCount : Nat
  truePositives : Nat
  falsePositives : Int
  falseNegatives : Int
  precision : ℚ
  recall' : ℚ
  f1 : ℚ
  durationPrecision : ℚ
  durationRecall : ℚ
  durationF1 : ℚ
  meanMatchedIou : ℚ
  matches' : List EpisodeMatch
  deriving DecidableEq

def stableContentId (h : Host) (kind : String) (value : Json) : String :=
  "lab" ++ kind ++ "-" ++ domainDigest h ("telco-lab:" ++ labSchemaVersion ++ ":" ++ kind) value

/-- What the identifier of a report is taken over, besides its own fields. -/
def EpisodeEvaluation.identity (r : EpisodeEvaluation) (truthIds predictionIds : List String) :
    Json := .obj
  [("algorithm", .str "temporal-iou-one-to-one-v1"), ("overlap_threshold", .float r.overlapThreshold),
   ("ground_truth_count", .int r.groundTruthCount), ("prediction_count", .int r.predictionCount),
   ("true_positives", .int r.truePositives), ("false_positives", .int r.falsePositives),
   ("false_negatives", .int r.falseNegatives), ("precision", .float r.precision),
   ("recall", .float r.recall'), ("f1", .float r.f1),
   ("duration_precision", .float r.durationPrecision), ("duration_recall", .float r.durationRecall),
   ("duration_f1", .float r.durationF1), ("mean_matched_iou", .float r.meanMatchedIou),
   ("matches", .arr (r.matches'.map (·.dump))),
   ("ground_truth_ids", .arr (truthIds.map .str)), ("prediction_ids", .arr (predictionIds.map .str))]

def durationPrecision (truth predictions : List EpisodeWindow) : ℚ :=
  metric (intersectionSeconds (mergedIntervals truth) (mergedIntervals predictions))
    (sumSeconds (mergedIntervals predictions)) (truth.isEmpty && predictions.isEmpty)

def durationRecall (truth predictions : List EpisodeWindow) : ℚ :=
  metric (intersectionSeconds (mergedIntervals truth) (mergedIntervals predictions))
    (sumSeconds (mergedIntervals truth)) (truth.isEmpty && predictions.isEmpty)

def evaluationReport (h : Host) (truth : List LabEpisode) (predictions : List PredictedEpisode)
    (threshold : ℚ) (found : List EpisodeMatch) : EpisodeEvaluation :=
  let truePositives := found.length
  let falsePositives : Int := predictions.length - truePositives
  let falseNegatives : Int := truth.length - truePositives
  let bothEmpty := truth.isEmpty && predictions.isEmpty
  let precision := metric truePositives (truePositives + falsePositives) bothEmpty
  let recall' := metric truePositives (truePositives + falseNegatives) bothEmpty
  let truthWindows := truth.map (·.toEpisodeWindow)
  let predictionWindows := predictions.map (·.toEpisodeWindow)
  let durationPrecision := durationPrecision truthWindows predictionWindows
  let durationRecall := durationRecall truthWindows predictionWindows
  let meanIou := if found = [] then if bothEmpty then 1 else 0
    else (found.map (·.temporalIou)).sum / found.length
  let report : EpisodeEvaluation := {
    evaluationId := ""
    overlapThreshold := rounded threshold
    groundTruthCount := truth.length
    predictionCount := predictions.length
    truePositives, falsePositives, falseNegatives
    precision := rounded precision
    recall' := rounded recall'
    f1 := rounded (Lab.f1 precision recall')
    durationPrecision := rounded durationPrecision
    durationRecall := rounded durationRecall
    durationF1 := rounded (Lab.f1 durationPrecision durationRecall)
    meanMatchedIou := rounded meanIou
    matches' := found }
  { report with
    evaluationId := stableContentId h "eval" (report.identity
      ((truth.map (·.episodeId)).insertionSort fun a b => textLe a b)
      ((predictions.map (·.predictionId)).insertionSort fun a b => textLe a b)) }

def evaluateEpisodes (h : Host) (truth : List LabEpisode) (predictions : List PredictedEpisode)
    (threshold : ℚ) : Except EvaluationError EpisodeEvaluation := do
  require (0 < threshold ∧ threshold ≤ 1) .invalidInput
  require (truth.length ≤ maxBundleEpisodes) .limitExceeded
  require (predictions.length ≤ maxBundleEpisodes) .limitExceeded
  require ((truth.map (·.episodeId)).Nodup ∧ (predictions.map (·.predictionId)).Nodup) .invalidInput
  let candidates ← candidateMatches (sortedTruth truth) (sortedPredictions predictions) threshold
  return evaluationReport h truth predictions threshold (episodeMatches candidates)

end NetworkAgent.Lab
