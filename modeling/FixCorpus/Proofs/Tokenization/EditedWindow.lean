import FixCorpus.Proofs.Token.Excerpt
import FixCorpus.Proofs.Tokenization.Target

/-! An edit of a file and of a window of it. If the block that the edit replaces
is among the lines the window shows, both edits put the same lines in, and the
text around the window stays as it is. -/

namespace FixCorpus

open Text

theorem newline_not_mem_of_mem_map_lines {text : List Char} {line : String}
    (member : line ∈ (lines text).map String.ofList) : '\n' ∉ line.toList := by
  obtain ⟨l, inside, rfl⟩ := List.mem_map.1 member
  rw [String.toList_ofList]
  exact newline_not_mem_of_mem_lines inside

namespace Excerpt

variable {tokens : List Token} {first last start count : Nat} {target : List String}

theorem splice_window (e : Excerpt tokens first last) (lexical : ∀ t ∈ tokens, t.Lexical)
    (complete : Complete (spell tokens)) (free : ∀ t ∈ target, '\n' ∉ t.toList)
    (first_le : first ≤ start) (le_last : start + count ≤ last + 1)
    (inside : start + count ≤ (lines (spell tokens)).length) :
    newlineCount e.before ≤ start ∧
      start - newlineCount e.before + count ≤ (lines (spell e.window)).length ∧
      ∃ context : List Char,
        endLines ((splice ((lines (spell tokens)).map String.ofList) start count target).map
          String.toList) = spell e.before ++ context ++ spell e.after ∧
        splice ((lines (spell e.window)).map String.ofList) (start - newlineCount e.before) count
          target = (lines context).map String.ofList := by
  have cut := e.count_before_add_length lexical
  have length_before := e.range.length_lines_before lexical
  have shown_length := e.range.le_length lexical le_last inside
  have file := e.range.lines_spell lexical
  have window := e.lines_window lexical
  have window_length := congrArg List.length window
  simp only [List.length_append] at window_length
  refine ⟨by omega, by omega, ?_⟩
  -- both edits replace the same block of the lines that the window shows
  let block := splice ((lines (spell e.shown)).map String.ofList) (start - first) count target
  have block_free : ∀ l ∈ block.map String.toList, '\n' ∉ l := by
    intro l member
    obtain ⟨line, spliced, rfl⟩ := List.mem_map.1 member
    exact (mem_splice spliced).elim newline_not_mem_of_mem_map_lines (free line)
  have edited_file := @splice_append ((lines (spell (e.before ++ e.lead))).map String.ofList)
    ((lines (spell e.shown)).map String.ofList)
    ((lines (spell (e.trail ++ e.after))).map String.ofList) target start count
    (by rw [List.length_map]; omega) (by rw [List.length_map, List.length_map]; omega)
  have edited_window := @splice_append ((lines (spell e.lead)).map String.ofList)
    ((lines (spell e.shown)).map String.ofList) ((lines (spell e.trail)).map String.ofList) target
    (start - newlineCount e.before) count
    (by rw [List.length_map]; omega) (by rw [List.length_map, List.length_map]; omega)
  rw [List.length_map, length_before, ← List.map_append, ← List.map_append, ← file] at edited_file
  rw [List.length_map, show start - newlineCount e.before - (lines (spell e.lead)).length =
    start - first by omega, ← List.map_append, ← List.map_append, ← window] at edited_window
  refine ⟨spell e.lead ++ (endLines (block.map String.toList) ++ spell e.trail), ?_, ?_⟩
  · have complete_after : Complete (spell (e.trail ++ e.after)) := by
      rw [e.range.parts, spell_append] at complete
      exact complete.of_append
    rw [edited_file, List.map_append, List.map_append, map_toList_map_ofList,
      map_toList_map_ofList, endLines_append, endLines_append,
      endLines_lines (e.range.complete_before lexical), endLines_lines complete_after,
      spell_append, spell_append]
    simp only [List.append_assoc]
    rfl
  · rw [edited_window, lines_append (e.complete_lead lexical),
      lines_append (complete_endLines _), lines_endLines block_free, List.map_append,
      List.map_append, map_ofList_map_toList]

end Excerpt

end FixCorpus
