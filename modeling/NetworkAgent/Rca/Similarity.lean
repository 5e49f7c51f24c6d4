import Mathlib.Algebra.Order.Ring.Unbundled.Rat
import Mathlib.Data.List.Dedup
import NetworkAgent.Domain.StateMachine

/-! The lexical similarity of incidents. Texts are compared as bags of tokens; the square root,
the arithmetic on binary64 numbers and the rounding are those of the host. -/
namespace NetworkAgent.Rca
open Checks (require)

structure FloatOps where
  sqrt : Nat → ℚ
  times : ℚ → ℚ → ℚ
  divide : Nat → ℚ → ℚ
  round6 : ℚ → ℚ

/-! Tokens. -/

def runsOf (p : Char → Bool) (cs : List Char) : List (List Char) :=
  (cs.splitOnP fun c => !p c).filter (· ≠ [])

def isLatin (c : Char) : Bool := isLowerOrDigit c || c == '_'

def isChinese (c : Char) : Bool := decide (0x4e00 ≤ c.toNat) && decide (c.toNat ≤ 0x9fff)

def bigrams (run : List Char) : List (List Char) :=
  if run.length = 1 then [run] else List.zipWith (fun a b => [a, b]) run run.tail

def tokenize (lower : String → String) (text : String) : List (List Char) :=
  let normalized := Text.chars (lower text)
  runsOf isLatin normalized ++ (runsOf isChinese normalized).flatMap bigrams

set_option maxRecDepth 8000 in
example : tokenize id "enb_1 下行吞吐 x" =
    ["enb_1".toList, "x".toList, "下行".toList, "行吞".toList, "吞吐".toList] := by decide

def sumOfSquares (tokens : List (List Char)) : Nat :=
  (tokens.dedup.map fun t => tokens.count t * tokens.count t).sum

def cosineSimilarity (lower : String → String) (f : FloatOps) (left right : String) : ℚ :=
  let leftTokens := tokenize lower left
  let rightTokens := tokenize lower right
  if leftTokens = [] ∨ rightTokens = [] then 0
  else
    let dot := (leftTokens.dedup.map fun t => leftTokens.count t * rightTokens.count t).sum
    let leftNorm := f.sqrt (sumOfSquares leftTokens)
    let rightNorm := f.sqrt (sumOfSquares rightTokens)
    if leftNorm = 0 ∨ rightNorm = 0 then 0
    else max 0 (min 1 (f.divide dot (f.times leftNorm rightNorm)))

/-- `sep.join`. -/
def joinTexts (sep : String) (texts : List String) : String := sep.intercalate texts

def incidentText (i : Incident) : String :=
  let parts := [i.title, i.description, i.rootCause.getD "", joinTexts " " i.hypotheses,
    joinTexts " " (i.violatedKpis.map (·.kpiName.text))] ++
      match i.latestReport with
      | some report => [report.title.getD "", report.summary, report.rootCause.getD "",
          joinTexts " " report.hypotheses]
      | none => []
  joinTexts "\n" (parts.filter (· ≠ ""))

/-! The matches. -/

structure SimilarIncident where
  incidentId : String
  similarity : ℚ
  summary : String
  rootCause : Option String
  deriving DecidableEq

def SimilarIncident.toJson (s : SimilarIncident) : Json := .obj
  [("incident_id", .str s.incidentId), ("similarity", .float s.similarity),
   ("summary", .str s.summary), ("root_cause", optional .str s.rootCause)]

inductive SimilarityError where
  | limit
  | minScore
  | unsafe'
  | validation
  deriving DecidableEq

def clipped (n : Nat) (s : String) : String := String.ofList (s.toList.take n)

def nonEmpty (s : String) : Option String := if s = "" then none else some s

/-- The match as its model builds it: texts are stripped, and a root cause has to be left. -/
def SimilarIncident.build (f : FloatOps) (candidate : Incident) (score : ℚ) :
    Except SimilarityError SimilarIncident := do
  let rootCause := (candidate.rootCause.bind nonEmpty).or
    (candidate.latestReport.bind (·.rootCause))
  let match' : SimilarIncident := {
    incidentId := candidate.incidentId.text
    similarity := f.round6 score
    summary := stripWhitespace (clipped 1024
      ((nonEmpty candidate.description).getD candidate.title))
    rootCause := (nonEmpty (clipped 1024 (rootCause.getD ""))).map stripWhitespace }
  require (0 ≤ match'.similarity ∧ match'.similarity ≤ 1 ∧ match'.rootCause ≠ some "") .validation
  return match'

/-- Whether a candidate is history that has been analysed, and not the incident itself. -/
def IsHistory (i candidate : Incident) : Prop :=
  candidate.incidentId ≠ i.incidentId ∧ candidate.technology = i.technology ∧
    (candidate.rootCause.bind nonEmpty ≠ none ∨ candidate.rcaReports ≠ [])

instance (i candidate : Incident) : Decidable (IsHistory i candidate) :=
  inferInstanceAs (Decidable (_ ∧ _ ∧ _))

def scoreCandidate (h : Host) (lower : String → String) (f : FloatOps) (i : Incident)
    (minScore : ℚ) (candidate : Incident) : Except SimilarityError (Option SimilarIncident) :=
  if IsHistory i candidate then do
    require (findSensitivePaths h "$" candidate.toJson = []) .unsafe'
    let score := cosineSimilarity lower f (incidentText i) (incidentText candidate)
    if score < minScore then return none
    let match' ← SimilarIncident.build f candidate score
    return some match'
  else return none

/-- The order of `(-similarity, incident_id)`. -/
def similarLe (a b : SimilarIncident) : Bool :=
  if a.similarity ≠ b.similarity then decide (b.similarity ≤ a.similarity)
  else textLe a.incidentId b.incidentId

def rankSimilarIncidents (h : Host) (lower : String → String) (f : FloatOps) (i : Incident)
    (candidates : List Incident) (limit : Nat) (minScore : ℚ) :
    Except SimilarityError (List SimilarIncident) := do
  require (1 ≤ limit ∧ limit ≤ 100) .limit
  require (0 ≤ minScore ∧ minScore ≤ 1) .minScore
  require (findSensitivePaths h "$" i.toJson = []) .unsafe'
  let scored ← candidates.mapM (scoreCandidate h lower f i minScore)
  let result := (scored.reduceOption.insertionSort fun a b => similarLe a b).take limit
  require (findSensitivePaths h "$" (.arr (result.map (·.toJson))) = []) .unsafe'
  return result

end NetworkAgent.Rca
