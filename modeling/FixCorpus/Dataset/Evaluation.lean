import FixCorpus.AnnotatedDiff
import FixCorpus.Dataset.Basic

/-! Scoring predictions against the targets that were expected. Line by line, a
report shows what each of the two does to the file context of the source. -/

namespace FixCorpus.Dataset

structure EvaluatePaths where
  source : String
  expected : String
  predictions : String
  output : String
deriving DecidableEq, Repr

structure EvaluationCounts where
  total : Nat
  correct : Nat
  undecodable : Nat
deriving DecidableEq, Repr

structure Prediction where
  source : String
  expected : String
  predicted : String
deriving DecidableEq, Repr

namespace Prediction

/-- The lines of the same number; there are as many as the shortest text has. -/
def ofTexts (source expected predicted : String) : List Prediction :=
  ((Text.readLines source).zip ((Text.readLines expected).zip (Text.readLines predicted))).map
    fun (s, e, p) => ⟨s, e, p⟩

def isCorrect (p : Prediction) : Bool :=
  Flattened.predictionMatches p.expected p.predicted

def isUndecodable (p : Prediction) : Bool :=
  match AnnotatedDiff.renderPrediction p.source p.predicted with
  | .ok _ => false
  | .error _ => true

/-- The difference that a target makes, or a note of why it makes none. -/
def renderOrNote (source target : String) : String :=
  match AnnotatedDiff.renderPrediction source target with
  | .ok text => text
  | .error cause => "<<<< UNDECODABLE: " ++ cause.message ++ " >>>>\n"

def report (p : Prediction) : String :=
  "### expected\n" ++ renderOrNote p.source p.expected ++
    "### predicted\n" ++ renderOrNote p.source p.predicted

end Prediction

def EvaluationCounts.ofPredictions (predictions : List Prediction) : EvaluationCounts where
  total := predictions.length
  correct := predictions.countP (·.isCorrect)
  undecodable := predictions.countP (·.isUndecodable)

def reportName (n : Nat) : String :=
  let digits := toString n
  String.ofList (List.replicate (6 - digits.length) '0') ++ digits ++ ".diff"

section

variable {m : Type → Type} [Monad m] [Storage m]

def evaluate (paths : EvaluatePaths) : ExceptT Failure m EvaluationCounts := do
  let source ← readText paths.source
  let expected ← readText paths.expected
  let predicted ← readText paths.predictions
  let predictions := Prediction.ofTexts source expected predicted
  makeDirectory paths.output
  predictions.zipIdx.forM fun (p, n) =>
    writeText (Path.join paths.output (reportName n)) p.report
  return EvaluationCounts.ofPredictions predictions

end

end FixCorpus.Dataset
