import FixCorpus.Proofs.Datapoint.Record
import FixCorpus.Proofs.Flattened.Target

/-! Datapoints that are written and read again. Main statement: if all tokens are
words, the diagnostics, the file context and the edit come back, whatever
markers there are among the tokens. Only in a message two of them matter, those
that a message ends at. -/

namespace FixCorpus.Flattened

open Text

/-- The tokens of the datapoint are words, its line numbers and the one behind the place of an
insertion can be written and read, and a replacement names a line. -/
structure Writable (d : TokenizedDatapoint .window) : Prop where
  messageTokens : ∀ o ∈ d.occurrences, ∀ w ∈ o.tokenizedMessage, w ≠ "" ∧ Solid w.toList
  contextTokens : ∀ w ∈ d.tokenizedFileContext, w ≠ "" ∧ Solid w.toList
  targetTokens : ∀ w ∈ d.tokenizedTargetLines, w ≠ "" ∧ Solid w.toList
  lines : ∀ o ∈ d.occurrences, FitsInt o.line
  editLines : ∀ n ∈ d.edit.sourceLines, FitsInt n
  nextLine : ∀ i, d.edit = .insert i → FitsInt (i.previousLine + 1)
  names : d.edit.sourceLines ≠ []

theorem storable_readEdit {e : Edit} (lines : ∀ n ∈ e.sourceLines, FitsInt n)
    (next : ∀ i, e = .insert i → FitsInt (i.previousLine + 1)) (names : e.sourceLines ≠ [])
    (ws : List String) : (readEdit e ws).Storable := by
  cases e with
  | insert i => exact ⟨lines _ List.mem_cons_self, next i rfl⟩
  | delete d => exact ⟨lines _ List.mem_cons_self, lines _ (List.mem_cons_of_mem _ (by simp))⟩
  | replace r =>
    obtain ⟨_ | ⟨first, others⟩, targets⟩ := r
    · exact absurd rfl names
    · have last : (first :: others).getLastD 0 ∈ first :: others := by
        rw [List.getLastD_cons]
        exact List.getLastD_mem_cons
      rw [readEdit]
      split
      · exact ⟨lines _ List.mem_cons_self, lines _ last⟩
      · exact lines

section

variable {d : TokenizedDatapoint .window} (h : Writable d)
include h

theorem Writable.annotation_eq {o : TokenizedOccurrence} (member : o ∈ d.occurrences) :
    annotation o = ⟨o.line, restoreTexts o.tokenizedMessage⟩ := by
  unfold annotation
  rw [flatMap_words_of_solid _ (h.messageTokens o member)]

theorem Writable.readable
    (inside : ∀ o ∈ d.occurrences, ∀ w ∈ o.tokenizedMessage, w ≠ "LINE" ∧ w ≠ "FILE_CONTENT") :
    ∀ o ∈ d.occurrences, Readable o := by
  refine fun o member => ⟨h.lines o member, fun w word => ?_⟩
  rw [flatMap_words_of_solid _ (h.messageTokens o member)] at word
  simpa [endsMessage] using inside o member w word

theorem decode_flattened :
    ((∀ o ∈ d.occurrences, ∀ w ∈ o.tokenizedMessage, w ≠ "LINE" ∧ w ≠ "FILE_CONTENT") →
      decodeSource (source d) =
        .ok ⟨d.occurrences.map fun o => ⟨o.line, restoreTexts o.tokenizedMessage⟩,
          restoreTexts d.tokenizedFileContext⟩) ∧
    edit (target d) = .ok (readEdit d.edit d.tokenizedTargetLines) ∧
    (readEdit d.edit d.tokenizedTargetLines).Storable := by
  refine ⟨fun inside => ?_, ?_, storable_readEdit h.editLines h.nextLine h.names _⟩
  · rw [decodeSource_source (h.readable inside), flatMap_words_of_solid _ h.contextTokens,
      List.map_congr_left fun o => h.annotation_eq]
  · rw [edit_target_eq h.names h.editLines, flatMap_words_of_solid _ h.targetTokens]

end

/-- Markers stand where tokens do, and the lines that go out are in no order. -/
theorem decode_flattened_of_markers :
    let d : TokenizedDatapoint .window := {
      repo := "shop", fileUrl := none, diagnosticId := "SA1028", analyzerNuGet := ""
      severity := "Warning", numberFileLines := 9, requiredLinesStart := 2, requiredLinesEnd := 7
      occurrences := [⟨"Drop MESSAGE", 1, 1, ["MESSAGE", "WHITESPACE", "TARGET_LINES"]⟩,
        ⟨"", -1, 1, []⟩]
      edit := .replace ⟨[6, -2, 3], ["ADD REPLACE", ""]⟩
      tokenizedTargetLines := ["ADD", "WHITESPACE", "TARGET_LINES", "NEWLINE", "NEWLINE"]
      fileContextStart := 1, fileContext := []
      tokenizedFileContext := ["LINE", "NEWLINE", "FILE_CONTENT", "TAB", "1"]
      tokenizedFileContextStart := 3 }
    let inserted := { d with edit := .insert ⟨9223372036854775806, 4, ["ADD REPLACE", ""]⟩ }
    decodeSource (source d) =
        .ok ⟨[⟨1, "MESSAGE TARGET_LINES"⟩, ⟨-1, ""⟩], "LINE\nFILE_CONTENT\t1"⟩ ∧
      edit (target d) = .ok (.replace ⟨[6, -2, 3], ["ADD TARGET_LINES", ""]⟩) ∧
      edit (target inserted) = .ok
        (.insert ⟨9223372036854775806, 9223372036854775807, ["ADD TARGET_LINES", ""]⟩) := by
  intro d inserted
  have writable : Writable d := by
    constructor
    case nextLine => exact nofun
    all_goals decide +kernel
  have writable_inserted : Writable inserted := by
    constructor
    case nextLine =>
      rintro i ⟨⟩
      decide
    all_goals decide +kernel
  have read_as : readEdit d.edit d.tokenizedTargetLines =
      .replace ⟨[6, -2, 3], ["ADD TARGET_LINES", ""]⟩ := by
    decide +kernel
  have inserted_as : readEdit inserted.edit inserted.tokenizedTargetLines =
      .insert ⟨9223372036854775806, 9223372036854775807, ["ADD TARGET_LINES", ""]⟩ := by
    decide +kernel
  obtain ⟨read, read_edit, -⟩ := decode_flattened writable
  obtain ⟨-, read_insertion, -⟩ := decode_flattened writable_inserted
  exact ⟨read (by decide), read_as ▸ read_edit, inserted_as ▸ read_insertion⟩

end FixCorpus.Flattened
