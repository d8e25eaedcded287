import FixCorpus.Datapoint.Basic
import FixCorpus.Text.Lines

/-! Datapoints as two lines of words. The source line holds the diagnostics and
the file context, the target line the edit. Reserved words mark the parts:

`(LINE n MESSAGE tokens)* FILE_CONTENT tokens`

`ADD PREVIOUS_SOURCE_LOCATION n TARGET_LINES tokens`,
`REPLACE SOURCE_LOCATION n ... TARGET_LINES tokens` or
`REMOVE SOURCE_LOCATION_START n SOURCE_LOCATION_END n` -/

namespace FixCorpus.Flattened

open Text

def occurrenceWords (o : TokenizedOccurrence) : List String :=
  "LINE" :: toString o.line :: "MESSAGE" :: o.tokenizedMessage

def sourceWords (d : TokenizedDatapoint .window) : List String :=
  d.occurrences.flatMap occurrenceWords ++ "FILE_CONTENT" :: d.tokenizedFileContext

def targetWords (d : TokenizedDatapoint .window) : List String :=
  d.edit.actionName :: match d.edit with
    | .insert i =>
      "PREVIOUS_SOURCE_LOCATION" :: toString i.previousLine :: "TARGET_LINES" ::
        d.tokenizedTargetLines
    | .replace r =>
      "SOURCE_LOCATION" :: (r.sourceLines.map toString ++ "TARGET_LINES" :: d.tokenizedTargetLines)
    | .delete e =>
      ["SOURCE_LOCATION_START", toString e.firstLine, "SOURCE_LOCATION_END", toString e.lastLine]

def source (d : TokenizedDatapoint .window) : String :=
  joinWords (sourceWords d) ++ "\n"

def target (d : TokenizedDatapoint .window) : String :=
  joinWords (targetWords d) ++ "\n"

end FixCorpus.Flattened
