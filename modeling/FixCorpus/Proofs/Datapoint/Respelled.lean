import FixCorpus.Proofs.Datapoint.Record
import FixCorpus.Proofs.Json.Respelling

/-! Datapoints and diagnostics are read from every spelling of what was stored: with the list of
occurrences under either of its names, and without those fields that hold what a missing one stands
for: `records_read_from_any_spelling`. -/

namespace FixCorpus

open Json

namespace UnifiedDatapoint

/-- The fields that need not be there, with what they hold then. -/
def defaults : List (String × Json) :=
  [("SolutionFile", .str ""), ("NumberFileLines", .int 0), ("Commit", .str ""),
   ("AnalyzerNuGet", .str ""), ("Severity", .str ""), ("FileContext", strings [])]

theorem ofJson?_respelled {d : UnifiedDatapoint} {v : Json}
    (h : Respelling defaults occurrencesNames d.toJson v) : ofJson? v = ofJson? d.toJson := by
  obtain ⟨slots, found, alike⟩ := h.slots? (by decide) (slots?_toJson d)
  -- one field of the layout after the other
  obtain _ | ⟨repo, _ | ⟨repoUrl, _ | ⟨solution, _ | ⟨path, _ | ⟨lines, _ | ⟨commit, _ | ⟨fileUrl,
    _ | ⟨diagnostic, _ | ⟨analyzer, _ | ⟨severity, _ | ⟨first, _ | ⟨last, _ | ⟨occurrences,
    _ | ⟨edit, _ | ⟨start, _ | ⟨context, _ | _⟩⟩⟩⟩⟩⟩⟩⟩⟩⟩⟩⟩⟩⟩⟩⟩ := alike
  rw [ofJson?, ofJson?, found, slots?_toJson, Option.bind_eq_bind, Option.bind_some,
    Option.bind_some]
  dsimp only
  rw [repo.eq (by decide), repoUrl.eq (by decide), solution.orElse toText? "" (by decide),
    path.eq (by decide), lines.orElse toNat? 0 (by decide), commit.orElse toText? "" (by decide),
    fileUrl.eq (by decide), diagnostic.eq (by decide), analyzer.orElse toText? "" (by decide),
    severity.orElse toText? "" (by decide), first.eq (by decide), last.eq (by decide),
    occurrences.eq (by decide), edit.eq (by decide), start.eq (by decide),
    context.orElse (toList? toText?) [] (by decide)]

theorem parse?_respelled {d : UnifiedDatapoint} (storable : d.Storable) {v : Json}
    (h : Respelling defaults occurrencesNames d.toJson v) :
    (Json.parse? v.render).bind ofJson? = some d :=
  (h.parse?_render (plain_toJson storable) (ofJson?_respelled h)).trans (ofJson?_toJson storable)

end UnifiedDatapoint

namespace TokenizedDatapoint

def defaults : List (String × Json) :=
  [("AnalyzerNuGet", .str ""), ("Severity", .str ""), ("NumberFileLines", .int 0),
   ("TokenizedTargetLines", strings []), ("FileContext", strings []),
   ("TokenizedFileContextStart", .int 0)]

theorem ofJson?_respelled {d : TokenizedDatapoint .window} {v : Json}
    (h : Respelling defaults occurrencesNames d.toJson v) : ofJson? v = ofJson? d.toJson := by
  obtain ⟨slots, found, alike⟩ := h.slots? (by decide) (slots?_toJson d)
  obtain _ | ⟨repo, _ | ⟨fileUrl, _ | ⟨diagnostic, _ | ⟨analyzer, _ | ⟨severity, _ | ⟨lines,
    _ | ⟨first, _ | ⟨last, _ | ⟨occurrences, _ | ⟨edit, _ | ⟨target, _ | ⟨start, _ | ⟨context,
    _ | ⟨tokens, _ | ⟨tokensStart, _ | _⟩⟩⟩⟩⟩⟩⟩⟩⟩⟩⟩⟩⟩⟩⟩ := alike
  rw [ofJson?, ofJson?, found, slots?_toJson, Option.bind_eq_bind, Option.bind_some,
    Option.bind_some]
  dsimp only
  rw [repo.eq (by decide), fileUrl.eq (by decide), diagnostic.eq (by decide),
    analyzer.orElse toText? "" (by decide), severity.orElse toText? "" (by decide),
    lines.orElse toNat? 0 (by decide), first.eq (by decide), last.eq (by decide),
    occurrences.eq (by decide), edit.eq (by decide),
    target.orElse (toList? toText?) [] (by decide), start.eq (by decide),
    context.orElse (toList? toText?) [] (by decide), tokens.eq (by decide),
    tokensStart.orElse toInt? 0 (by decide)]

theorem parse?_respelled {d : TokenizedDatapoint .window} (storable : d.Storable) {v : Json}
    (h : Respelling defaults occurrencesNames d.toJson v) :
    (Json.parse? v.render).bind ofJson? = some d :=
  (h.parse?_render (plain_toJson storable) (ofJson?_respelled h)).trans (ofJson?_toJson storable)

end TokenizedDatapoint

namespace DiagnosticRecord

def defaults : List (String × Json) :=
  [("Severity", .str "")]

theorem ofJson?_respelled {d : DiagnosticRecord} {v : Json}
    (h : Respelling defaults [] d.toJson v) : ofJson? v = ofJson? d.toJson := by
  obtain ⟨slots, found, alike⟩ := h.slots? (by simp) (slots?_toJson d)
  obtain _ | ⟨repo, _ | ⟨diagnostic, _ | ⟨path, _ | ⟨message, _ | ⟨line, _ | ⟨character,
    _ | ⟨severity, _ | _⟩⟩⟩⟩⟩⟩⟩ := alike
  rw [ofJson?, ofJson?, found, slots?_toJson, Option.bind_eq_bind, Option.bind_some,
    Option.bind_some]
  dsimp only
  rw [repo.eq (by decide), diagnostic.eq (by decide), path.eq (by decide), message.eq (by decide),
    line.eq (by decide), character.eq (by decide), severity.orElse toText? "" (by decide)]

theorem parse?_respelled {d : DiagnosticRecord} (storable : d.Storable) {v : Json}
    (h : Respelling defaults [] d.toJson v) :
    (Json.parse? v.render).bind ofJson? = some d :=
  (h.parse?_render (plain_toJson storable) (ofJson?_respelled h)).trans (ofJson?_toJson storable)

end DiagnosticRecord

/-- A record is read from what was stored as it was, and also with the occurrences under the other
one of their names and without any of the fields that hold their default. -/
theorem records_read_from_any_spelling :
    (∀ d : UnifiedDatapoint, d.Storable →
      (Json.parse? d.toJson.render).bind UnifiedDatapoint.ofJson? = some d ∧
      ∀ v, Respelling UnifiedDatapoint.defaults occurrencesNames d.toJson v →
        (Json.parse? v.render).bind UnifiedDatapoint.ofJson? = some d) ∧
    (∀ d : TokenizedDatapoint .window, d.Storable →
      (Json.parse? d.toJson.render).bind TokenizedDatapoint.ofJson? = some d ∧
      ∀ v, Respelling TokenizedDatapoint.defaults occurrencesNames d.toJson v →
        (Json.parse? v.render).bind TokenizedDatapoint.ofJson? = some d) ∧
    (∀ d : DiagnosticRecord, d.Storable →
      (Json.parse? d.toJson.render).bind DiagnosticRecord.ofJson? = some d ∧
      ∀ v, Respelling DiagnosticRecord.defaults [] d.toJson v →
        (Json.parse? v.render).bind DiagnosticRecord.ofJson? = some d) := by
  refine ⟨fun d storable => ⟨UnifiedDatapoint.parse?_render storable, fun v => ?unified⟩,
    fun d storable => ⟨TokenizedDatapoint.parse?_render storable, fun v => ?tokenized⟩,
    fun d storable => ⟨DiagnosticRecord.parse?_respelled storable (.obj (.refl _)),
      fun v => ?diagnostic⟩⟩
  case unified => exact UnifiedDatapoint.parse?_respelled storable
  case tokenized => exact TokenizedDatapoint.parse?_respelled storable
  case diagnostic => exact DiagnosticRecord.parse?_respelled storable

def plainUnified : UnifiedDatapoint :=
  { repo := "r", repoUrl := none, solutionFile := "", filePath := "Ä.cs", numberFileLines := 0
    commit := "", fileUrl := some "http://r", diagnosticId := "CA1", analyzerNuGet := ""
    severity := "", requiredLinesStart := 1, requiredLinesEnd := 2
    occurrences := [⟨"unused", 1, 5⟩], edit := .insert ⟨1, 2, ["a;"]⟩, fileContextStart := 1
    fileContext := [] }

def plainTokenized : TokenizedDatapoint .window :=
  { repo := "r", fileUrl := none, diagnosticId := "CA1", analyzerNuGet := "", severity := ""
    numberFileLines := 0, requiredLinesStart := 1, requiredLinesEnd := 2
    occurrences := [⟨"unused", 1, 5, ["unused"]⟩], edit := .replace ⟨[1, 2], ["a;"]⟩
    tokenizedTargetLines := [], fileContextStart := 1, fileContext := []
    tokenizedFileContext := ["a", ";"], tokenizedFileContextStart := 0 }

def plainDiagnostic : DiagnosticRecord :=
  ⟨"r", "CA1", "Ä.cs", "unused", 1, 5, ""⟩

/-- The occurrences have their right name, and no field is there that holds its default. -/
def shortUnified : Json :=
  .obj [("Repo", .str "r"), ("FilePath", .str "Ä.cs"), ("FileURL", .str "http://r"),
    ("DiagnosticID", .str "CA1"), ("RequiredLinesStart", .int 1), ("RequiredLinesEnd", .int 2),
    ("DiagnosticOccurrences", .arr (plainUnified.occurrences.map Occurrence.toJson)),
    ("ParsedDiff", plainUnified.edit.toJson), ("FileContextStart", .int 1)]

def shortTokenized : Json :=
  .obj [("Repo", .str "r"), ("DiagnosticID", .str "CA1"), ("RequiredLinesStart", .int 1),
    ("RequiredLinesEnd", .int 2),
    ("DiagnosticOccurrences", .arr (plainTokenized.occurrences.map TokenizedOccurrence.toJson)),
    ("ParsedDiff", plainTokenized.edit.toJson), ("FileContextStart", .int 1),
    ("TokenizedFileContext", strings ["a", ";"])]

def shortDiagnostic : Json :=
  .obj [("Repo", .str "r"), ("Id", .str "CA1"), ("FilePath", .str "Ä.cs"),
    ("Message", .str "unused"), ("Line", .int 1), ("Character", .int 5)]

theorem storable_plainUnified : plainUnified.Storable where
  numberFileLines := by decide
  requiredLinesStart := by decide
  requiredLinesEnd := by decide
  occurrences := List.forall_mem_singleton.2 ⟨by decide, by decide⟩
  edit := ⟨by decide, by decide⟩
  fileContextStart := by decide

theorem storable_plainTokenized : plainTokenized.Storable where
  numberFileLines := by decide
  requiredLinesStart := by decide
  requiredLinesEnd := by decide
  occurrences := List.forall_mem_singleton.2 ⟨by decide, by decide⟩
  edit := by simp only [plainTokenized, Edit.Storable]; decide
  fileContextStart := by decide
  tokenizedFileContextStart := by decide

theorem respelling_shortUnified :
    Respelling UnifiedDatapoint.defaults occurrencesNames plainUnified.toJson shortUnified := by
  refine .obj <| .same _ <| .missing ?solution <| .same _ <| .missing ?lines <|
    .missing ?commit <| .same _ <| .same _ <| .missing ?analyzer <| .missing ?severity <|
    .same _ <| .same _ <| .renamed _ (by decide) (by decide) <| .same _ <| .same _ <|
    .missing ?context .nil
  all_goals simp [UnifiedDatapoint.defaults, plainUnified]

theorem respelling_shortTokenized :
    Respelling TokenizedDatapoint.defaults occurrencesNames plainTokenized.toJson
      shortTokenized := by
  refine .obj <| .same _ <| .same _ <| .missing ?analyzer <| .missing ?severity <|
    .missing ?lines <| .same _ <| .same _ <| .renamed _ (by decide) (by decide) <| .same _ <|
    .missing ?target <| .same _ <| .missing ?context <| .same _ <| .missing ?start .nil
  all_goals simp [TokenizedDatapoint.defaults, plainTokenized]

theorem respelling_shortDiagnostic :
    Respelling DiagnosticRecord.defaults [] plainDiagnostic.toJson shortDiagnostic :=
  .obj <| .same _ <| .same _ <| .same _ <| .same _ <| .same _ <| .same _ <|
    .missing List.mem_cons_self .nil

theorem records_read_from_any_spelling_of_short :
    (plainUnified.Storable ∧
      Respelling UnifiedDatapoint.defaults occurrencesNames plainUnified.toJson shortUnified ∧
      (Json.parse? shortUnified.render).bind UnifiedDatapoint.ofJson? = some plainUnified) ∧
    (plainTokenized.Storable ∧
      Respelling TokenizedDatapoint.defaults occurrencesNames plainTokenized.toJson
        shortTokenized ∧
      (Json.parse? shortTokenized.render).bind TokenizedDatapoint.ofJson? = some plainTokenized) ∧
    plainDiagnostic.Storable ∧
      Respelling DiagnosticRecord.defaults [] plainDiagnostic.toJson shortDiagnostic ∧
      (Json.parse? shortDiagnostic.render).bind DiagnosticRecord.ofJson? =
        some plainDiagnostic := by
  obtain ⟨unified, tokenized, diagnostic⟩ := records_read_from_any_spelling
  have diagnostic_storable : plainDiagnostic.Storable := ⟨by decide, by decide⟩
  exact ⟨⟨storable_plainUnified, respelling_shortUnified,
      (unified _ storable_plainUnified).2 _ respelling_shortUnified⟩,
    ⟨storable_plainTokenized, respelling_shortTokenized,
      (tokenized _ storable_plainTokenized).2 _ respelling_shortTokenized⟩,
    diagnostic_storable, respelling_shortDiagnostic,
    (diagnostic _ diagnostic_storable).2 _ respelling_shortDiagnostic⟩

end FixCorpus
