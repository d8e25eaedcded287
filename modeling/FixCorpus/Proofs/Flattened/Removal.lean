import FixCorpus.Proofs.Edit.Removal
import FixCorpus.Proofs.Flattened.Language
import FixCorpus.Proofs.Tokenization.EditedWindow

/-! What a decoded replacement takes out: `apply_decoded_replacement`. With target words it
takes out the lines that it names. Without any it takes out all lines from the
first to the last one named, which are the same if the numbers are just those. -/

namespace FixCorpus.Flattened

open Text

theorem edit_of_replacement {text : String} {ns : List Int} {numerals tokens : List String}
    (numbers : List.Forall₂ Spells numerals ns) (names : ns ≠ [])
    (written : words text =
      "REPLACE" :: "SOURCE_LOCATION" :: (numerals ++ "TARGET_LINES" :: tokens)) :
    edit text = .ok (if tokens = [] then .delete ⟨ns.headD 0, ns.getLastD 0⟩
      else .replace ⟨ns, linesOfWords tokens⟩) := by
  have nonempty : ∀ w ∈ tokens, w ≠ "" := fun w member =>
    @ne_empty_of_mem_words text w (by simp [written, member])
  rw [edit_of_replace written, ← replaced_of_words ns nonempty]
  exact replacement_eq_ok.2 ⟨_, _, _, numbers, names, rfl, rfl⟩

theorem apply_decoded_replacement {lines : List String} {text : String} {ns : List Int}
    {numerals tokens : List String} (numbers : List.Forall₂ Spells numerals ns) (names : ns ≠ [])
    (inside : ∀ n ∈ ns, 1 ≤ n ∧ n ≤ lines.length)
    (written : words text =
      "REPLACE" :: "SOURCE_LOCATION" :: (numerals ++ "TARGET_LINES" :: tokens)) :
    ∃ e edited, edit text = .ok e ∧ e.apply lines = .ok edited ∧
      (tokens ≠ [] ∨ NamesRange ns → ∃ place, edited = (unnamed ns lines).take place ++
        linesOfWords tokens ++ (unnamed ns lines).drop place) ∧
      (tokens = [] → edited = outside (ns.headD 0) (ns.getLastD 0) lines ∧
        (lines.Nodup → (edited = unnamed ns lines ↔ NamesRange ns))) := by
  have read := edit_of_replacement numbers names written
  by_cases none_in : tokens = []
  · subst none_in
    rw [if_pos rfl] at read
    have first_named : ns.headD 0 ∈ ns := by cases ns <;> simp_all
    have last_named : ns.getLastD 0 ∈ ns := by
      rw [List.getLastD_eq_getLast?, List.getLast?_eq_some_getLast names]
      exact List.getLast_mem names
    refine ⟨_, _, read, Edit.apply_delete_of_inside inside first_named last_named, ?_,
      fun _ => ⟨rfl, outside_eq_unnamed_iff inside names⟩⟩
    rintro (some_in | range)
    · exact absurd rfl some_in
    · exact ⟨0, by simpa [linesOfWords, restoreTexts] using outside_eq_unnamed range⟩
  · rw [if_neg none_in] at read
    refine ⟨_, _, read, Edit.apply_replace_of_inside inside names _,
      fun _ => ⟨(ns.headD 0 - 1).toNat, ?_⟩, fun none_there => absurd none_there none_in⟩
    have free : ∀ t ∈ linesOfWords tokens, '\n' ∉ t.toList := fun t member =>
      newline_not_mem_of_mem_map_lines member
    rw [map_stripNewlines free]

/-- The lines are named out of order and not next to each other, and one of the target lines is
blank. -/
theorem apply_decoded_replacement_of_scattered_lines :
    ∃ e edited, edit "REPLACE SOURCE_LOCATION 4 +2 TARGET_LINES x NEWLINE NEWLINE" = .ok e ∧
      e.apply ["a", "b", "c", "d", "e"] = .ok edited ∧ ∃ place,
        edited = (unnamed [4, 2] ["a", "b", "c", "d", "e"]).take place ++ ["x", ""] ++
          (unnamed [4, 2] ["a", "b", "c", "d", "e"]).drop place := by
  have numbers : List.Forall₂ Spells ["4", "+2"] [4, 2] :=
    .cons (integer?_eq_some.1 (by decide)) (.cons (integer?_eq_some.1 (by decide)) .nil)
  have written : words "REPLACE SOURCE_LOCATION 4 +2 TARGET_LINES x NEWLINE NEWLINE" =
      "REPLACE" :: "SOURCE_LOCATION" :: (["4", "+2"] ++ "TARGET_LINES" :: ["x", "NEWLINE",
        "NEWLINE"]) := by
    decide +kernel
  obtain ⟨e, edited, read, applied, removes, -⟩ :=
    @apply_decoded_replacement ["a", "b", "c", "d", "e"] _ _ _ _ numbers (by simp) (by decide)
      written
  have target : linesOfWords ["x", "NEWLINE", "NEWLINE"] = ["x", ""] := by decide +kernel
  exact ⟨e, edited, read, applied, target ▸ removes (.inl (by simp))⟩

/-- Without target words the line between the two that are named goes out with them, and nothing
goes out if the first one comes last. -/
theorem apply_of_scattered_lines_without_target :
    (edit "REPLACE SOURCE_LOCATION 1 3 TARGET_LINES" >>= fun e =>
        (e.apply ["a", "b", "c"]).mapError .apply) = .ok [] ∧
      (edit "REPLACE SOURCE_LOCATION 3 1 TARGET_LINES" >>= fun e =>
        (e.apply ["a", "b", "c"]).mapError .apply) = .ok ["a", "b", "c"] ∧
      unnamed [1, 3] ["a", "b", "c"] = ["b"] ∧ unnamed [3, 1] ["a", "b", "c"] = ["b"] := by
  decide +kernel

end FixCorpus.Flattened
