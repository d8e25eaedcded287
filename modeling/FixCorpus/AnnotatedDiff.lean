import FixCorpus.Flattened.Decoder
import FixCorpus.LineDiff

/-! Differences that a person can read. Each diagnostic stands on a line of its
own in front of the source line it is about. -/

namespace FixCorpus.AnnotatedDiff

open Flattened

def annotationLine (a : Annotation) : String :=
  "<<<< DIAGNOSTIC: " ++ a.message ++ " >>>>\n"

def annotationsAt (annotations : List Annotation) (line : DiffLine) : List Annotation :=
  match line.sourceIndex? with
  | some i => annotations.filter fun a => a.line - 1 = i
  | none => []

def renderLine (annotations : List Annotation) (line : DiffLine) : String :=
  String.join ((annotationsAt annotations line).map annotationLine) ++ line.render ++ "\n"

/-- The difference that an edit makes. Lines count from 1; an annotation of a line that is not
there is left out. -/
def render (lines : List String) (edit : Edit) (annotations : List Annotation) :
    Except ApplyError String := do
  let edited ← edit.apply lines
  return String.join ((LineDiff.ofLines lines edited).map (renderLine annotations))

/-- The difference that a target line makes in the file context of a source line. The lines of
both count from 0 and are counted from 1 here. -/
def renderPrediction (source target : String) : Except DecodeError String := do
  let decoded ← decodeSource source
  let edit ← Flattened.edit target
  let annotations := decoded.annotations.map fun a => { a with line := a.line + 1 }
  match render decoded.lines (edit.shift (-1)) annotations with
  | .ok text => return text
  | .error cause => throw (.apply cause)

end FixCorpus.AnnotatedDiff
