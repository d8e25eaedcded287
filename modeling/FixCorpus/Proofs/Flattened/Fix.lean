import FixCorpus.AnnotatedDiff
import FixCorpus.Proofs.Flattened.Context
import FixCorpus.Proofs.Flattened.Target
import FixCorpus.Proofs.Tokenization.EditedWindow
import FixCorpus.Proofs.Unification

/-! A fix from its patch to the lines of words and back. Main statement: what is
decoded is the edit that was matched, in the lines of the window, and it does to
the decoded file context what the patch does to the file. -/

namespace FixCorpus

open Text

namespace Flattened

open Tokenization AnnotatedDiff

theorem renderPrediction_eq_ok {source target : String} {decoded : DecodedSource} {e : Edit}
    {edited : List String} (read : decodeSource source = .ok decoded)
    (read_edit : edit target = .ok e) (applied : (e.shift (-1)).apply decoded.lines = .ok edited) :
    renderPrediction source target = .ok (String.join ((LineDiff.ofLines decoded.lines edited).map
      (renderLine (decoded.annotations.map fun a => { a with line := a.line + 1 })))) := by
  rw [renderPrediction, read, read_edit]
  simp only [bind, Except.bind, render, applied]
  rfl

theorem linesOfWords_of_target {e : Edit} {start count : Nat} {source : String}
    {style : Lexer.Style} {tokens : List Token} {ls : List String}
    (splices : e.Splices start count e.targetLines) (nonempty : e.targetLines ≠ [])
    (free : ∀ t ∈ e.targetLines, '\n' ∉ t.toList) (parted : splitLines source = ls ++ [""])
    (ls_free : ∀ l ∈ ls, '\n' ∉ l.toList) (inside : start + count ≤ ls.length)
    (found : Tokenization.target e source style = .ok tokens)
    (clean : ∀ edited, e.apply (splitLines source) = .ok edited →
      ∀ t ∈ Lexer.tokenize style (joinLines edited), t.Clean) :
    linesOfWords ((tokenTexts tokens).flatMap words) = e.targetLines := by
  obtain ⟨edited, applied, first, last, before, after, -, -, range⟩ :=
    target_eq_ok found (splices.requiredTargetLines?_eq nonempty)
  have member : ∀ t ∈ tokens, t ∈ Lexer.tokenize style (joinLines edited) := fun t shown => by
    rw [range.parts]
    exact List.mem_append_left _ (List.mem_append_right _ shown)
  have restored := toList_restoreTexts_tokenTexts
    (fun t shown => Lexer.lexical_tokenize (member t shown))
    fun t shown => clean edited applied t (member t shown)
  have lines_eq := lines_target splices nonempty free parted ls_free inside found
  rw [linesOfWords, restored, lines_eq, map_ofList_map_toList]

theorem fitsInt_of_near {line startLine : Int} {length start count : Nat}
    (small : length ≤ greatestInt) (inside : start + count ≤ length)
    (near : start ≤ line ∧ line ≤ start + count + 1)
    (bounds : 1 ≤ startLine ∧ startLine ≤ start + 1) : FitsInt (line - startLine) := by
  unfold FitsInt leastInt
  unfold greatestInt at small ⊢
  omega

section

variable {d : UnifiedDatapoint} {source : String} {style : Lexer.Style}
  {length first last start count : Nat}

theorem startLine_bounds (excerpt : Excerpt (Lexer.tokenize style source) first last)
    (placed : d.Placed length start count) (first_eq : d.requiredLinesStart = first + 1) :
    1 ≤ excerpt.startLine ∧ excerpt.startLine ≤ start + 1 := by
  have cut := excerpt.count_before_add_length fun t => Lexer.lexical_tokenize
  have shown := placed.shown_start
  unfold Excerpt.startLine
  omega

theorem fits_attach (excerpt : Excerpt (Lexer.tokenize style source) first last)
    (target : List Token) (small : length ≤ greatestInt) (placed : d.Placed length start count)
    (first_eq : d.requiredLinesStart = first + 1) :
    ∀ o ∈ ((excerptStreams d style excerpt target).attach d).occurrences, FitsInt o.line := by
  intro o member
  rw [Streams.occurrences_attach] at member
  obtain ⟨whole, occurrence, rfl⟩ := List.mem_map.1 member
  exact fitsInt_of_near small placed.inside (placed.near whole occurrence)
    (startLine_bounds excerpt placed first_eq)

theorem edit_attach (excerpt : Excerpt (Lexer.tokenize style source) first last)
    {target : List Token} (small : length ≤ greatestInt) (placed : d.Placed length start count)
    (first_eq : d.requiredLinesStart = first + 1)
    (restored : d.edit.targetLines ≠ [] →
      linesOfWords ((tokenTexts target).flatMap words) = d.edit.targetLines) :
    ∃ e, edit (Flattened.target ((excerptStreams d style excerpt target).attach d)) = .ok e ∧
      e.Splices (start - excerpt.startLine) count d.edit.targetLines ∧
      e.actionName = d.edit.actionName ∧
      e.sourceLines.map (· + excerpt.startLine) = d.edit.sourceLines := by
  have fits : ∀ n ∈ (d.edit.shift excerpt.startLine).sourceLines, FitsInt n := by
    intro n member
    rw [Edit.sourceLines_shift] at member
    obtain ⟨line, source_line, rfl⟩ := List.mem_map.1 member
    have near := placed.splices.bounds_of_mem_sourceLines source_line
    exact fitsInt_of_near small placed.inside (by omega) (startLine_bounds excerpt placed first_eq)
  obtain ⟨e, read, splices, kind, lines⟩ := edit_target
    (d := (excerptStreams d style excerpt target).attach d)
    (placed.splices.shift excerpt.startLine) fits restored
  refine ⟨e, read, splices, kind.trans (Edit.actionName_shift _ _), ?_⟩
  rw [lines, Streams.edit_attach, Edit.sourceLines_shift, List.map_map]
  have same : ((· + excerpt.startLine) ∘ (· - excerpt.startLine) : Int → Int) = id :=
    funext fun n => Int.sub_add_cancel n _
  exact (congrArg (fun f => d.edit.sourceLines.map f) same).trans (List.map_id _)

theorem apply_window (excerpt : Excerpt (Lexer.tokenize style source) first last)
    (complete : Complete source.toList) (no_return : '\r' ∉ source.toList)
    (placed : d.Placed (readLines source).length start count)
    (first_eq : d.requiredLinesStart = first + 1) (last_eq : d.requiredLinesEnd = last + 1)
    {edited : List String} (applied : d.edit.apply (readLines source ++ [""]) = .ok edited)
    (edited_no_return : '\r' ∉ (joinLines edited).toList) {e : Edit}
    (splices : e.Splices (start - excerpt.startLine) count d.edit.targetLines)
    {decoded : DecodedSource} (context_eq : decoded.fileContext.toList = spell excerpt.window) :
    ∃ context,
      (joinLines edited).toList = spell excerpt.before ++ context ++ spell excerpt.after ∧
      (e.shift (-1)).apply decoded.lines = .ok (readLines (String.ofList context)) := by
  have lexical : ∀ t ∈ Lexer.tokenize style source, t.Lexical := fun t => Lexer.lexical_tokenize
  have spelled := Lexer.spell_tokenize style source
  have file_lines := readLines_eq no_return
  rw [placed.splices.apply_append_empty placed.free placed.inside] at applied
  cases applied
  have shown_start := placed.shown_start
  have shown_stop := placed.shown_stop
  have in_file := placed.inside
  rw [file_lines, ← spelled, List.length_map] at in_file
  obtain ⟨cut_le, in_window, context, file_eq, window_eq⟩ :=
    excerpt.splice_window lexical (spelled ▸ complete) placed.free (by omega) (by omega) in_file
  rw [spelled, ← file_lines, ← toList_joinLines_append_empty] at file_eq
  refine ⟨context, file_eq, ?_⟩
  have context_lines : readLines (String.ofList context) =
      (Text.lines context).map String.ofList := by
    rw [file_eq] at edited_no_return
    simp only [List.mem_append, not_or] at edited_no_return
    rw [readLines_eq (by simpa using edited_no_return.1.2), String.toList_ofList]
  have decoded_lines := lines_of_excerpt excerpt lexical context_eq
  -- lines count from 1 in the window of the file and from 0 in the decoded text
  have from_window : (start : Int) - excerpt.startLine - -1 =
      (start - newlineCount excerpt.before : Nat) := by
    unfold Excerpt.startLine
    omega
  have in_context : start - newlineCount excerpt.before + count ≤ decoded.lines.length := by
    rw [decoded_lines, List.length_map]
    exact in_window
  have shifted := from_window ▸ splices.shift (-1)
  rw [shifted.apply_eq placed.free decoded.lines in_context, decoded_lines, window_eq,
    context_lines]

end

theorem fix_survives {patchText source : String} {patches : List FilePatch} {p : FilePatch}
    {o : Origin} {diagnostics : List DiagnosticRecord} {d : UnifiedDatapoint}
    {settings : Settings} {dp : TokenizedDatapoint .window}
    (ended : source.toList.getLast? = some '\n') (small : source.length ≤ greatestInt)
    (read : Patch.read patchText = .ok patches) (patch : p ∈ patches)
    (applies : p.AppliesTo (readLines source))
    (unified : d ∈ unifyFilePatch o p diagnostics source)
    (plain : settings.mode ≠ .zeroIndexVars)
    (tokenized : tokenizeDatapoint d source settings = .ok dp)
    (clean : ∀ t ∈ Lexer.tokenize settings.mode.style source, t.Clean)
    (clean_edited : ∀ edited, d.edit.apply (splitLines source) = .ok edited →
      ∀ t ∈ Lexer.tokenize settings.mode.style (joinLines edited), t.Clean)
    (inside : ∀ o ∈ dp.occurrences, ∀ w ∈ o.tokenizedMessage, endsMessage w = false) :
    ∃ (e : Edit) (decoded : DecodedSource),
      edit (Flattened.target dp) = .ok e ∧ decodeSource (Flattened.source dp) = .ok decoded ∧
      e.actionName = d.edit.actionName ∧ e.targetLines = d.edit.targetLines ∧
      e.sourceLines.map (· + dp.tokenizedFileContextStart) = d.edit.sourceLines ∧
      ∃ (edited : List String) (before context after : List Char),
        d.edit.apply (splitLines source) = .ok edited ∧
        source.toList = before ++ decoded.fileContext.toList ++ after ∧
        (joinLines edited).toList = before ++ context ++ after ∧
        (e.shift (-1)).apply decoded.lines = .ok (readLines (String.ofList context)) ∧
        renderPrediction (Flattened.source dp) (Flattened.target dp) = .ok (String.join
          ((LineDiff.ofLines decoded.lines (readLines (String.ofList context))).map
            (renderLine (decoded.annotations.map fun a => { a with line := a.line + 1 })))) := by
  obtain ⟨start, count, placed⟩ := placed_of_patch read patch applies unified
  obtain ⟨first, last, excerpt, target, first_eq, last_eq, found, rfl⟩ :=
    tokenizeDatapoint_eq_ok tokenized plain
  have complete : Complete source.toList := by simp [Complete, ended]
  have no_return := return_not_mem_of_clean clean
  have parted := splitLines_eq complete no_return
  have few_lines : (readLines source).length ≤ greatestInt := by
    have bounded := length_readLines_le complete no_return
    omega
  have applied := placed.splices.apply_append_empty placed.free placed.inside
  rw [parted] at clean_edited ⊢
  obtain ⟨e, read_edit, splices, kind, source_lines⟩ :=
    edit_attach excerpt few_lines placed first_eq fun brings_in =>
      linesOfWords_of_target placed.splices brings_in placed.free parted
        (fun _ => newline_not_mem_of_mem_readLines) placed.inside found (parted ▸ clean_edited)
  obtain ⟨decoded, read_source, context_eq, -⟩ := decodeSource_attach excerpt target clean
    (fits_attach excerpt target few_lines placed first_eq) inside
  obtain ⟨context, file_eq, edited_window⟩ := apply_window excerpt complete no_return placed
    first_eq last_eq applied (return_not_mem_of_clean (clean_edited _ applied)) splices context_eq
  refine ⟨e, decoded, read_edit, read_source, kind, splices.targetLines_eq, source_lines,
    _, spell excerpt.before, context, spell excerpt.after, applied, ?_, file_eq, edited_window,
    renderPrediction_eq_ok read_source read_edit edited_window⟩
  rw [context_eq, ← Lexer.spell_tokenize settings.mode.style source]
  exact excerpt.spell_parts

/-- A line makes place for two, of which the second one is blank, in a window that parts a line. -/
theorem fix_survives_with_blank_line :
    let p : FilePatch := ⟨"a/Cart.cs", "b/Cart.cs", [⟨1, 3, 1, 4, "", [
      ⟨.context, "ab;", some 1, some 1⟩, ⟨.removed, "b;", some 2, none⟩,
      ⟨.added, "x;", none, some 2⟩, ⟨.added, "", none, some 3⟩,
      ⟨.context, "c;", some 3, some 4⟩]⟩]⟩
    let o : Origin := ⟨"fix", "shop", "Shop.sln", "c1", "", "SA1028", none⟩
    let diagnostics : List DiagnosticRecord :=
      [⟨"shop", "SA1028", "Cart.cs", "Drop 'b'", 2, 1, "Warning"⟩]
    let d : UnifiedDatapoint := {
      repo := "shop", repoUrl := none, solutionFile := "Shop.sln", filePath := "Cart.cs"
      numberFileLines := 3, commit := "c1", fileUrl := none, diagnosticId := "SA1028"
      analyzerNuGet := "", severity := "Warning", requiredLinesStart := 2, requiredLinesEnd := 2
      occurrences := [⟨"Drop 'b'", 2, 1⟩], edit := .replace ⟨[2], ["x;", ""]⟩
      fileContextStart := 1, fileContext := ["ab;", "b;", "c;"] }
    let dp : TokenizedDatapoint .window := {
      repo := "shop", fileUrl := none, diagnosticId := "SA1028", analyzerNuGet := ""
      severity := "Warning", numberFileLines := 3, requiredLinesStart := 2, requiredLinesEnd := 2
      occurrences := [⟨"Drop 'b'", 1, 1, ["drop", "WHITESPACE", "'", "b", "'"]⟩]
      edit := .replace ⟨[1], ["x;", ""]⟩
      tokenizedTargetLines := ["x", ";", "NEWLINE", "NEWLINE"]
      fileContextStart := 1, fileContext := ["ab;", "b;", "c;"]
      tokenizedFileContext := [";", "NEWLINE", "b", ";", "NEWLINE", "c", ";"]
      tokenizedFileContextStart := 1 }
    d ∈ unifyFilePatch o p diagnostics "ab;\nb;\nc;\n" ∧
      tokenizeDatapoint d "ab;\nb;\nc;\n" ⟨7, .standard⟩ = .ok dp ∧
      ∃ e decoded, edit (Flattened.target dp) = .ok e ∧
        decodeSource (Flattened.source dp) = .ok decoded ∧
        e.actionName = "REPLACE" ∧ e.targetLines = ["x;", ""] ∧ e.sourceLines.map (· + 1) = [2] ∧
        ∃ context, (e.shift (-1)).apply decoded.lines = .ok (readLines context) := by
  intro p o diagnostics d dp
  have read : Patch.read "--- a/Cart.cs\n+++ b/Cart.cs\n@@ -1,3 +1,4 @@\n ab;\n-b;\n+x;\n+\n c;\n" =
      .ok [p] := by
    decide +kernel
  have applies : p.AppliesTo (readLines "ab;\nb;\nc;\n") :=
    ⟨by decide +kernel, by decide +kernel⟩
  have unified : d ∈ unifyFilePatch o p diagnostics "ab;\nb;\nc;\n" := by
    decide +kernel
  have tokenized : tokenizeDatapoint d "ab;\nb;\nc;\n" ⟨7, .standard⟩ = .ok dp := by
    decide +kernel
  have edited : d.edit.apply (splitLines "ab;\nb;\nc;\n") = .ok ["ab;", "x;", "", "c;", ""] := by
    decide +kernel
  have clean_edited : ∀ t ∈ Lexer.tokenize .whole (joinLines ["ab;", "x;", "", "c;", ""]),
      t.Clean := by
    decide +kernel
  obtain ⟨e, decoded, read_edit, read_source, kind, brought, lines, _, _, _, _, -, -, -, same, -⟩ :=
    fix_survives (by decide) (by decide) read List.mem_cons_self applies unified (by decide)
      tokenized (by decide +kernel)
      (fun other applied => by
        rw [edited] at applied
        cases applied
        exact clean_edited)
      (by decide)
  exact ⟨unified, tokenized, e, decoded, read_edit, read_source, kind, brought, lines, _, same⟩

end Flattened

end FixCorpus
