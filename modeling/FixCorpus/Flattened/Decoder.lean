import FixCorpus.Edit
import FixCorpus.Text.Blank
import FixCorpus.Text.Decimal
import FixCorpus.Text.Lines
import FixCorpus.Token.Basic

/-! Reading flattened datapoints, which may be what a model has written. Only the
words of a text matter, not the blanks between them. Line numbers count from the
first line of the window, which is line 0. The numbers that are read fit 64 bits,
but the place of an insertion is counted on from one of them without a bound;
`Writable` asks that 64 bits hold it. -/

namespace FixCorpus.Flattened

open Text

inductive DecodeError where
  | empty
  | missingMarker (marker : String)
  | unknownAction (word : String)
  | missingLineNumber (after : String)
  | invalidNumber (word : String)
  | apply (cause : ApplyError)
deriving DecidableEq, Repr

def DecodeError.message : DecodeError → String
  | .empty => "empty input"
  | .missingMarker marker => "missing " ++ marker ++ " marker"
  | .unknownAction word => "unknown action \x60" ++ word ++ "\x60"
  | .missingLineNumber after => "missing line number after " ++ after
  | .invalidNumber word => "\x60" ++ word ++ "\x60 is not a line number"
  | .apply cause => "decoded edit does not fit the file context: " ++ cause.message

def code (text : String) : String :=
  restoreTexts (words text)

def expect (marker : String) : List String → Except DecodeError (List String)
  | w :: ws => if w = marker then .ok ws else .error (.missingMarker marker)
  | [] => .error (.missingMarker marker)

def lineNumber (word : String) : Except DecodeError Int :=
  match integer? word.toList with
  | some n => .ok n
  | none => .error (.invalidNumber word)

def takeNumber (after : String) : List String → Except DecodeError (Int × List String)
  | w :: ws => do return (← lineNumber w, ws)
  | [] => .error (.missingLineNumber after)

/-- The lines of the code that the words stand for; there are none if there are no words. -/
def targetLines (words : List String) : List String :=
  let text := (restoreTexts words).toList
  if text.isEmpty then [] else splitLines (String.ofList (dropFinalNewline text))

def takeSourceLines : List String → Except DecodeError (List Int × List String)
  | [] => .error (.missingLineNumber "SOURCE_LOCATION")
  | w :: ws =>
    if w = "TARGET_LINES" then .ok ([], w :: ws)
    else do
      let n ← lineNumber w
      let (lines, rest) ← takeSourceLines ws
      return (n :: lines, rest)

def insertion (ws : List String) : Except DecodeError Edit := do
  let ws ← expect "PREVIOUS_SOURCE_LOCATION" ws
  let (previous, ws) ← takeNumber "PREVIOUS_SOURCE_LOCATION" ws
  let ws ← expect "TARGET_LINES" ws
  return .insert ⟨previous, previous + 1, targetLines ws⟩

/-- A replacement, or the deletion of all from its first to its last line if nothing comes in. -/
def replacement (ws : List String) : Except DecodeError Edit := do
  let ws ← expect "SOURCE_LOCATION" ws
  let (lines, ws) ← takeSourceLines ws
  match lines with
  | [] => .error (.missingLineNumber "SOURCE_LOCATION")
  | first :: others =>
    let ws ← expect "TARGET_LINES" ws
    match targetLines ws with
    | [] => return .delete ⟨first, others.getLastD first⟩
    | target => return .replace ⟨first :: others, target⟩

/-- A deletion; words behind it do not matter. -/
def deletion (ws : List String) : Except DecodeError Edit := do
  let ws ← expect "SOURCE_LOCATION_START" ws
  let (first, ws) ← takeNumber "SOURCE_LOCATION_START" ws
  let ws ← expect "SOURCE_LOCATION_END" ws
  let (last, _) ← takeNumber "SOURCE_LOCATION_END" ws
  return .delete ⟨first, last⟩

def edit (target : String) : Except DecodeError Edit :=
  match words target with
  | [] => .error .empty
  | "ADD" :: ws => insertion ws
  | "REPLACE" :: ws => replacement ws
  | "REMOVE" :: ws => deletion ws
  | word :: _ => .error (.unknownAction word)

structure Annotation where
  line : Int
  message : String
deriving DecidableEq, Repr

structure DecodedSource where
  annotations : List Annotation
  fileContext : String
deriving DecidableEq, Repr

/-- The lines of the file context; a newline at its end begins none. -/
def DecodedSource.lines (s : DecodedSource) : List String :=
  splitLines (String.ofList (dropFinalNewline s.fileContext.toList))

def endsMessage (word : String) : Bool :=
  word = "LINE" || word = "FILE_CONTENT"

def annotations (ws : List String) : Except DecodeError (List Annotation × List String) :=
  match ws with
  | ["LINE"] => .error (.missingLineNumber "LINE")
  | "LINE" :: n :: ws => do
    let line ← lineNumber n
    match ws with
    | "MESSAGE" :: ws =>
      let message := restoreTexts (ws.takeWhile (!endsMessage ·))
      let (others, rest) ← annotations (ws.dropWhile (!endsMessage ·))
      return (⟨line, message⟩ :: others, rest)
    | _ => .error (.missingMarker "MESSAGE")
  | ws => .ok ([], ws)
termination_by ws.length
decreasing_by
  have := (List.dropWhile_suffix (l := ws) (!endsMessage ·)).length_le
  simp only [List.length_cons]
  omega

def decodeSource (source : String) : Except DecodeError DecodedSource :=
  match words source with
  | [] => .error .empty
  | ws => do
    let (annotations, ws) ← annotations ws
    let ws ← expect "FILE_CONTENT" ws
    return ⟨annotations, restoreTexts ws⟩

/-- The predicted target line decodes to the same edit as the expected one. -/
def predictionMatches (expected predicted : String) : Bool :=
  match edit expected, edit predicted with
  | .ok a, .ok b => a = b
  | _, _ => false

end FixCorpus.Flattened
