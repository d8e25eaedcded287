import FixCorpus.Proofs.Edit
import FixCorpus.Proofs.Flattened.Language

/-! Reading the target line of a datapoint again. The edit comes back with its
kind and its line numbers, and with the target lines that the words of their
tokens restore. Only a replacement that nothing comes in for is read as
something else, a deletion. -/

namespace FixCorpus.Flattened

open Text

theorem spells_toString {n : Int} (fits : FitsInt n) : Spells (toString n) n :=
  lineNumber_eq_ok.1 (lineNumber_toString fits)

theorem spells_map_toString {ns : List Int} (fits : ∀ n ∈ ns, FitsInt n) :
    List.Forall₂ Spells (ns.map toString) ns :=
  List.forall₂_map_left_iff.2 (List.forall₂_same.2 fun n member => spells_toString (fits n member))

theorem word_toString (n : Int) : toString n ≠ "" ∧ Solid (toString n).toList :=
  ⟨toString_ne_empty n, solid_toString n⟩

/-- The edit that comes back if it is written with these words for its target lines. -/
def readEdit (e : Edit) (ws : List String) : Edit :=
  match e with
  | .insert i => .insert ⟨i.previousLine, i.previousLine + 1, linesOfWords ws⟩
  | .delete d => .delete d
  | .replace r =>
    if ws = [] then .delete ⟨r.sourceLines.headD 0, r.sourceLines.getLastD 0⟩
    else .replace ⟨r.sourceLines, linesOfWords ws⟩

theorem words_target (d : TokenizedDatapoint .window) :
    words (target d) = (targetWords d).flatMap words := by
  rw [target, words_append_newline, words_joinWords]

theorem flatMap_words_append (front : List String)
    (solid : ∀ text ∈ front, text ≠ "" ∧ Solid text.toList)
    (tokens : List String) : (front ++ tokens).flatMap words = front ++ tokens.flatMap words := by
  rw [List.flatMap_append, flatMap_words_of_solid front solid]

theorem edit_target_eq {d : TokenizedDatapoint .window} (names : d.edit.sourceLines ≠ [])
    (fits : ∀ n ∈ d.edit.sourceLines, FitsInt n) :
    edit (target d) = .ok (readEdit d.edit (d.tokenizedTargetLines.flatMap words)) := by
  have nonempty : ∀ w ∈ d.tokenizedTargetLines.flatMap words, w ≠ "" := fun w member => by
    obtain ⟨token, -, inside⟩ := List.mem_flatMap.1 member
    exact ne_empty_of_mem_words inside
  have as_written := words_target d
  rw [targetWords] at as_written
  -- Each kind has its own words, and they are read in the order in which they were written.
  cases kind : d.edit with
  | insert i =>
    rw [kind] at as_written fits
    have read := as_written.trans (flatMap_words_append
      ["ADD", "PREVIOUS_SOURCE_LOCATION", toString i.previousLine, "TARGET_LINES"]
      (by
        simp only [List.forall_mem_cons]
        exact ⟨by decide, by decide, word_toString _, by decide, by simp⟩) _)
    rw [edit_of_add read]
    exact insertion_eq_ok.2 ⟨_, _, _, spells_toString (fits _ List.mem_cons_self), rfl, rfl⟩
  | delete e =>
    rw [kind] at as_written fits
    have read := as_written.trans (flatMap_words_of_solid
      ["REMOVE", "SOURCE_LOCATION_START", toString e.firstLine, "SOURCE_LOCATION_END",
        toString e.lastLine]
      (by
        simp only [List.forall_mem_cons]
        exact ⟨by decide, by decide, word_toString _, by decide, word_toString _, by simp⟩))
    have first_fits := fits _ List.mem_cons_self
    have last_fits := fits _ (List.mem_cons_of_mem _ List.mem_cons_self)
    rw [edit_of_remove read]
    exact deletion_eq_ok.2 ⟨_, _, _, _, [], spells_toString first_fits, spells_toString last_fits,
      rfl, rfl⟩
  | replace r =>
    rw [kind] at as_written fits names
    have front := flatMap_words_append
      ("REPLACE" :: "SOURCE_LOCATION" :: (r.sourceLines.map toString ++ ["TARGET_LINES"]))
      (by
        simp only [List.forall_mem_cons, List.forall_mem_append]
        refine ⟨by decide, by decide, fun text member => ?_, by decide, by simp⟩
        obtain ⟨n, -, rfl⟩ := List.mem_map.1 member
        exact word_toString n) d.tokenizedTargetLines
    simp only [List.cons_append, List.append_assoc] at front
    rw [edit_of_replace (as_written.trans front)]
    exact replacement_eq_ok.2 ⟨_, _, _, spells_map_toString fits, names, rfl,
      (replaced_of_words _ nonempty).symm⟩

theorem edit_target {d : TokenizedDatapoint .window} {start : Int} {count : Nat}
    {lines : List String} (splices : d.edit.Splices start count lines)
    (fits : ∀ n ∈ d.edit.sourceLines, FitsInt n)
    (restored : lines ≠ [] → linesOfWords (d.tokenizedTargetLines.flatMap words) = lines) :
    ∃ e, edit (target d) = .ok e ∧ e.Splices start count lines ∧
      e.actionName = d.edit.actionName ∧ e.sourceLines = d.edit.sourceLines := by
  have names : d.edit.sourceLines ≠ [] := fun none => by
    have last := splices.getLast?_sourceLines
    rw [none] at last
    cases last
  refine ⟨_, edit_target_eq names fits, ?_⟩
  generalize d.edit = written at splices
  cases splices with
  | insert targetStart nonempty =>
    rw [readEdit, restored nonempty]
    exact ⟨.insert _ nonempty, rfl, rfl⟩
  | delete more => exact ⟨.delete more, rfl, rfl⟩
  | replace more nonempty =>
    have some_word : d.tokenizedTargetLines.flatMap words ≠ [] := fun none => by
      rw [none] at restored
      exact nonempty (restored nonempty).symm
    rw [readEdit, if_neg some_word, restored nonempty]
    exact ⟨.replace more nonempty, rfl, rfl⟩

end FixCorpus.Flattened
