import FixCorpus.Proofs.Flattened.Source
import FixCorpus.Proofs.Lexer.Code
import FixCorpus.Proofs.Tokenization.Stages

/-! The line numbers of a flattened datapoint. Main statement: counted from the
line on which the window starts, a required line of the source is a whole line
of the decoded file context, and so are the lines of the diagnostics. -/

namespace FixCorpus

open Text

theorem Token.Lexical.blank_of_clean {t : Token} (h : t.Lexical) (clean : t.Clean) {c : Char}
    (inside : c ∈ t.spelling) (blank : isBlank c = true) : c = ' ' ∨ c = '\n' ∨ c = '\t' := by
  have free : c ∉ t.text.toList := fun member => not_clean_of_blank member blank clean
  by_cases kind : t.kind = .whitespace
  · obtain ⟨d, -, rfl⟩ := h.eq_blank kind
    rw [spelling_blank, List.mem_singleton] at inside
    subst inside
    by_cases common : c = ' ' ∨ c = '\n' ∨ c = '\t'
    · exact common
    · simp only [not_or] at common
      simp [Token.blank, blankText, common] at free
  · rw [spelling_of_kind_ne kind] at inside
    exact absurd inside free

namespace Flattened

open Tokenization

theorem return_not_mem_of_clean {style : Lexer.Style} {source : String}
    (clean : ∀ t ∈ Lexer.tokenize style source, t.Clean) : '\r' ∉ source.toList := by
  intro member
  rw [← Lexer.spell_tokenize style source] at member
  obtain ⟨t, token, inside⟩ := List.mem_flatMap.1 member
  have common := (Lexer.lexical_tokenize token).blank_of_clean (clean t token) inside (by decide)
  revert common
  decide

theorem lines_of_excerpt {tokens : List Token} {first last : Nat} (e : Excerpt tokens first last)
    (lexical : ∀ t ∈ tokens, t.Lexical) {decoded : DecodedSource}
    (context : decoded.fileContext.toList = spell e.window) :
    decoded.lines = (Text.lines (spell e.window)).map String.ofList := by
  have nonempty := e.spell_window_ne_nil lexical
  rw [← context] at nonempty ⊢
  rw [DecodedSource.lines, splitLines, String.toList_ofList, lines_of_ne_nil nonempty]

theorem readable_of_tokens {o : TokenizedOccurrence} {tokens : List Token}
    (texts : o.tokenizedMessage = tokenTexts tokens) (plain : ∀ t ∈ tokens, t.Plain)
    (fits : FitsInt o.line) (inside : ∀ w ∈ o.tokenizedMessage, endsMessage w = false) :
    Readable o := by
  refine ⟨fits, fun w member => ?_⟩
  rw [texts, tokenTexts, List.flatMap_map] at member
  obtain ⟨t, token, member⟩ := List.mem_flatMap.1 member
  rw [eq_text_of_mem_words (plain t token) member]
  exact inside t.text (texts ▸ List.mem_map_of_mem token)

section

variable {d : UnifiedDatapoint} {source : String} {settings : Settings}
  {dp : TokenizedDatapoint .window}

theorem decodeSource_attach {style : Lexer.Style} {first last : Nat}
    (e : Excerpt (Lexer.tokenize style source) first last) (target : List Token)
    (clean : ∀ t ∈ Lexer.tokenize style source, t.Clean)
    (fits : ∀ o ∈ ((excerptStreams d style e target).attach d).occurrences, FitsInt o.line)
    (inside : ∀ o ∈ ((excerptStreams d style e target).attach d).occurrences,
      ∀ w ∈ o.tokenizedMessage, endsMessage w = false) :
    ∃ decoded, decodeSource (Flattened.source ((excerptStreams d style e target).attach d)) =
        .ok decoded ∧
      decoded.fileContext.toList = spell e.window ∧
      decoded.annotations.map (·.line) = d.occurrences.map (·.line - e.startLine) := by
  have readable : ∀ o ∈ ((excerptStreams d style e target).attach d).occurrences, Readable o := by
    intro o member
    have from_message := member
    rw [Streams.occurrences_attach] at from_message
    obtain ⟨whole, -, rfl⟩ := List.mem_map.1 from_message
    have faithful := Lexer.Prose.faithful_tokenize style (Message.prepare whole.message)
    exact readable_of_tokens rfl faithful.2 (fits _ member) (inside _ member)
  refine ⟨_, decodeSource_source readable, ?_, ?_⟩
  · exact toList_restoreTexts_tokenTexts
      (fun t member => Lexer.lexical_tokenize (e.mem_of_mem_window member))
      fun t member => clean t (e.mem_of_mem_window member)
  · rw [Streams.occurrences_attach, List.map_map, List.map_map]
    rfl

theorem decoded_lines_eq_source_lines (plain : settings.mode ≠ .zeroIndexVars)
    (clean : ∀ t ∈ Lexer.tokenize settings.mode.style source, t.Clean)
    (tokenized : tokenizeDatapoint d source settings = .ok dp)
    (fits : ∀ o ∈ dp.occurrences, FitsInt o.line)
    (inside : ∀ o ∈ dp.occurrences, ∀ w ∈ o.tokenizedMessage, endsMessage w = false) :
    ∃ decoded, decodeSource (Flattened.source dp) = .ok decoded ∧
      decoded.fileContext.toList <:+: source.toList ∧
      decoded.annotations.map (·.line) =
        d.occurrences.map (·.line - dp.tokenizedFileContextStart) ∧
      ∀ line : Int, d.requiredLinesStart ≤ line → line ≤ d.requiredLinesEnd → 1 ≤ line →
        line ≤ (readLines source).length →
        dp.tokenizedFileContextStart ≤ line ∧
          decoded.lines[(line - dp.tokenizedFileContextStart).toNat]? =
            (readLines source)[(line - 1).toNat]? := by
  obtain ⟨first, last, e, target, first_eq, last_eq, -, rfl⟩ :=
    tokenizeDatapoint_eq_ok tokenized plain
  obtain ⟨decoded, read, context, lines⟩ := decodeSource_attach e target clean fits inside
  have start_eq : e.startLine = newlineCount e.before + 1 := rfl
  have lexical : ∀ t ∈ Lexer.tokenize settings.mode.style source, t.Lexical :=
    fun t => Lexer.lexical_tokenize
  have spelled := Lexer.spell_tokenize settings.mode.style source
  refine ⟨decoded, read, ?_, lines, fun line first_le le_last positive le_length => ?_⟩
  · rw [context, ← spelled]
    exact ⟨spell e.before, spell e.after, e.spell_parts.symm⟩
  · rw [readLines_eq (return_not_mem_of_clean clean), ← spelled] at le_length ⊢
    rw [List.length_map] at le_length
    have same := e.getElem?_lines_window lexical (i := (line - 1).toNat) (by omega) (by omega)
      (by omega)
    have position : (line - e.startLine).toNat =
        (line - 1).toNat - newlineCount e.before := by omega
    refine ⟨by show e.startLine ≤ line; omega, ?_⟩
    rw [lines_of_excerpt e lexical context,
      Streams.tokenizedFileContextStart_attach, excerptStreams, position,
      List.getElem?_map, List.getElem?_map, same.2]

end

/-- A window that begins and ends inside a line. -/
theorem decoded_lines_eq_source_lines_of_parted_window :
    let d : UnifiedDatapoint := {
      repo := "shop", repoUrl := none, solutionFile := "Shop.sln", filePath := "Cart.cs"
      numberFileLines := 3, commit := "c1", fileUrl := none, diagnosticId := "SA1028"
      analyzerNuGet := "", severity := "Warning", requiredLinesStart := 2, requiredLinesEnd := 2
      occurrences := [⟨"Drop 'b'", 2, 1⟩], edit := .delete ⟨2, 2⟩
      fileContextStart := 1, fileContext := ["ab;", "b;", "c;"] }
    let dp : TokenizedDatapoint .window := {
      repo := "shop", fileUrl := none, diagnosticId := "SA1028", analyzerNuGet := ""
      severity := "Warning", numberFileLines := 3, requiredLinesStart := 2, requiredLinesEnd := 2
      occurrences := [⟨"Drop 'b'", 1, 1, ["drop", "WHITESPACE", "'", "b", "'"]⟩]
      edit := .delete ⟨1, 1⟩, tokenizedTargetLines := [], fileContextStart := 1
      fileContext := ["ab;", "b;", "c;"]
      tokenizedFileContext := ["NEWLINE", "b", ";", "NEWLINE", "c"]
      tokenizedFileContextStart := 1 }
    tokenizeDatapoint d "ab;\nb;\nc;\n" ⟨5, .standard⟩ = .ok dp ∧
      ∃ decoded, decodeSource (Flattened.source dp) = .ok decoded ∧
        decoded.annotations.map (·.line) = [1] ∧ decoded.lines[1]? = some "b;" := by
  intro d dp
  have tokenized : tokenizeDatapoint d "ab;\nb;\nc;\n" ⟨5, .standard⟩ = .ok dp := by
    decide +kernel
  obtain ⟨decoded, read, -, annotated, same⟩ := decoded_lines_eq_source_lines (by decide)
    (by decide +kernel) tokenized (by decide) (by decide)
  have line := (same 2 (by decide) (by decide) (by decide) (by decide)).2
  exact ⟨tokenized, decoded, read, annotated, line⟩

end Flattened

end FixCorpus
