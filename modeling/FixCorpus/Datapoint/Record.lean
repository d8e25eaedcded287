import FixCorpus.Datapoint.Basic
import FixCorpus.Json.Record

/-! How edits and datapoints are stored as JSON. The list of occurrences is
written under a misspelt name and read under that and the right one. -/

namespace FixCorpus

open Json

namespace Edit

def toJson : Edit → Json
  | .insert i => .obj [("ActionType", .str "ADD"), ("Action", .obj
      [("PreviousSourceLocation", .int i.previousLine), ("TargetStartLocation", .int i.targetStart),
       ("TargetLines", strings i.targetLines)])]
  | .delete d => .obj [("ActionType", .str "REMOVE"), ("Action", .obj
      [("SourceLocationStart", .int d.firstLine), ("SourceLocationEnd", .int d.lastLine)])]
  | .replace r => .obj [("ActionType", .str "REPLACE"), ("Action", .obj
      [("SourceLocations", ints r.sourceLines), ("TargetLines", strings r.targetLines)])]

def action? (edit : Json) : Json → Option String
  | .str name => some name
  | .obj [(name, .null)] => match edit with
    | .obj _ => some name
    | _ => none
  | _ => none

/-- The edit is an object in which the content stands before the kind. -/
def contentFirst : Json → Bool
  | .obj members => match members.find? fun m => m.1 = "ActionType" ∨ m.1 = "Action" with
    | some m => m.1 = "Action"
    | none => false
  | _ => false

/-- The content of an edit. Before the kind is known it cannot be read and has to be kept; the
datapoint and the edit are two of the levels around it. -/
def content? (edit content : Json) : Option Json :=
  if contentFirst edit && !content.fits (maxLevels - 2) then none else some content

def insertion? (v : Json) : Option Edit := do
  match ← slots? [["PreviousSourceLocation"], ["TargetStartLocation"], ["TargetLines"]] v with
  | [previous, start, target] =>
    return .insert ⟨← previous.required toInt?, ← start.required toInt?,
      ← target.required (toList? toText?)⟩
  | _ => none

def deletion? (v : Json) : Option Edit := do
  match ← slots? [["SourceLocationStart"], ["SourceLocationEnd"]] v with
  | [first, last] => return .delete ⟨← first.required toInt?, ← last.required toInt?⟩
  | _ => none

def replacement? (v : Json) : Option Edit := do
  match ← slots? [["SourceLocations"], ["TargetLines"]] v with
  | [source, target] =>
    return .replace ⟨← source.required (toList? toInt?), ← target.required (toList? toText?)⟩
  | _ => none

def ofJson? (v : Json) : Option Edit := do
  match ← slots? [["ActionType"], ["Action"]] v with
  | [kind, content] =>
    let content ← content.required (content? v)
    match ← kind.required (action? v) with
    | "ADD" => insertion? content
    | "REMOVE" => deletion? content
    | "REPLACE" => replacement? content
    | _ => none
  | _ => none

end Edit

def occurrencesNames : List String :=
  ["DiagnosticOccurances", "DiagnosticOccurrences"]

namespace Occurrence

def toJson (o : Occurrence) : Json :=
  .obj [("Message", .str o.message), ("Line", .int o.line), ("Character", .int o.character)]

def ofJson? (v : Json) : Option Occurrence := do
  match ← slots? [["Message"], ["Line"], ["Character"]] v with
  | [message, line, character] =>
    return ⟨← message.required toText?, ← line.required toInt?, ← character.required toInt?⟩
  | _ => none

end Occurrence

namespace UnifiedDatapoint

def toJson (d : UnifiedDatapoint) : Json :=
  .obj (
    [("Repo", .str d.repo)] ++
    optionalMember "RepoURL" d.repoUrl ++
    [("SolutionFile", .str d.solutionFile), ("FilePath", .str d.filePath),
     ("NumberFileLines", .int d.numberFileLines), ("Commit", .str d.commit)] ++
    optionalMember "FileURL" d.fileUrl ++
    [("DiagnosticID", .str d.diagnosticId), ("AnalyzerNuGet", .str d.analyzerNuGet),
     ("Severity", .str d.severity), ("RequiredLinesStart", .int d.requiredLinesStart),
     ("RequiredLinesEnd", .int d.requiredLinesEnd),
     ("DiagnosticOccurances", .arr (d.occurrences.map Occurrence.toJson)),
     ("ParsedDiff", d.edit.toJson), ("FileContextStart", .int d.fileContextStart),
     ("FileContext", strings d.fileContext)])

def layout : List (List String) :=
  [["Repo"], ["RepoURL"], ["SolutionFile"], ["FilePath"], ["NumberFileLines"], ["Commit"],
   ["FileURL"], ["DiagnosticID"], ["AnalyzerNuGet"], ["Severity"], ["RequiredLinesStart"],
   ["RequiredLinesEnd"], occurrencesNames, ["ParsedDiff"], ["FileContextStart"], ["FileContext"]]

def ofJson? (v : Json) : Option UnifiedDatapoint := do
  match ← slots? layout v with
  | [repo, repoUrl, solution, path, lines, commit, fileUrl, diagnostic, analyzer, severity, first,
      last, occurrences, edit, start, context] =>
    return {
      repo := ← repo.required toText?
      repoUrl := ← repoUrl.optional toText?
      solutionFile := ← solution.orElse "" toText?
      filePath := ← path.required toText?
      numberFileLines := ← lines.orElse 0 toNat?
      commit := ← commit.orElse "" toText?
      fileUrl := ← fileUrl.optional toText?
      diagnosticId := ← diagnostic.required toText?
      analyzerNuGet := ← analyzer.orElse "" toText?
      severity := ← severity.orElse "" toText?
      requiredLinesStart := ← first.required toInt?
      requiredLinesEnd := ← last.required toInt?
      occurrences := ← occurrences.required (toList? Occurrence.ofJson?)
      edit := ← edit.required Edit.ofJson?
      fileContextStart := ← start.required toInt?
      fileContext := ← context.orElse [] (toList? toText?) }
  | _ => none

end UnifiedDatapoint

namespace TokenizedOccurrence

def toJson (o : TokenizedOccurrence) : Json :=
  .obj [("Message", .str o.message), ("Line", .int o.line), ("Character", .int o.character),
    ("TokenizedMessage", strings o.tokenizedMessage)]

def ofJson? (v : Json) : Option TokenizedOccurrence := do
  match ← slots? [["Message"], ["Line"], ["Character"], ["TokenizedMessage"]] v with
  | [message, line, character, tokens] =>
    return ⟨← message.required toText?, ← line.required toInt?, ← character.required toInt?,
      ← tokens.required (toList? toText?)⟩
  | _ => none

end TokenizedOccurrence

namespace TokenizedDatapoint

def toJson {base : LineBase} (d : TokenizedDatapoint base) : Json :=
  .obj (
    [("Repo", .str d.repo)] ++
    optionalMember "FileURL" d.fileUrl ++
    [("DiagnosticID", .str d.diagnosticId), ("AnalyzerNuGet", .str d.analyzerNuGet),
     ("Severity", .str d.severity), ("NumberFileLines", .int d.numberFileLines),
     ("RequiredLinesStart", .int d.requiredLinesStart),
     ("RequiredLinesEnd", .int d.requiredLinesEnd),
     ("DiagnosticOccurances", .arr (d.occurrences.map TokenizedOccurrence.toJson)),
     ("ParsedDiff", d.edit.toJson), ("TokenizedTargetLines", strings d.tokenizedTargetLines),
     ("FileContextStart", .int d.fileContextStart), ("FileContext", strings d.fileContext),
     ("TokenizedFileContext", strings d.tokenizedFileContext),
     ("TokenizedFileContextStart", .int d.tokenizedFileContextStart)])

def layout : List (List String) :=
  [["Repo"], ["FileURL"], ["DiagnosticID"], ["AnalyzerNuGet"], ["Severity"], ["NumberFileLines"],
   ["RequiredLinesStart"], ["RequiredLinesEnd"], occurrencesNames, ["ParsedDiff"],
   ["TokenizedTargetLines"], ["FileContextStart"], ["FileContext"], ["TokenizedFileContext"],
   ["TokenizedFileContextStart"]]

/-- A datapoint is stored only after its lines have been moved to the window. -/
def ofJson? (v : Json) : Option (TokenizedDatapoint .window) := do
  match ← slots? layout v with
  | [repo, fileUrl, diagnostic, analyzer, severity, lines, first, last, occurrences, edit, target,
      start, context, tokens, tokensStart] =>
    return {
      repo := ← repo.required toText?
      fileUrl := ← fileUrl.optional toText?
      diagnosticId := ← diagnostic.required toText?
      analyzerNuGet := ← analyzer.orElse "" toText?
      severity := ← severity.orElse "" toText?
      numberFileLines := ← lines.orElse 0 toNat?
      requiredLinesStart := ← first.required toInt?
      requiredLinesEnd := ← last.required toInt?
      occurrences := ← occurrences.required (toList? TokenizedOccurrence.ofJson?)
      edit := ← edit.required Edit.ofJson?
      tokenizedTargetLines := ← target.orElse [] (toList? toText?)
      fileContextStart := ← start.required toInt?
      fileContext := ← context.orElse [] (toList? toText?)
      tokenizedFileContext := ← tokens.required (toList? toText?)
      tokenizedFileContextStart := ← tokensStart.orElse 0 toInt? }
  | _ => none

end TokenizedDatapoint

end FixCorpus
