import FixCorpus.Proofs.Edit
import FixCorpus.Proofs.Lexer.Code
import FixCorpus.Proofs.Tokenization.Stages

/-! The target tokens of a datapoint. They are found by their lines in the
edited file, and they stand for the target lines of the edit. -/

namespace FixCorpus

open Text

variable {e : Edit} {start count : Nat} {target ls : List String}

theorem Edit.Splices.apply_append_empty (splices : e.Splices start count target)
    (free : ∀ t ∈ target, '\n' ∉ t.toList) (inside : start + count ≤ ls.length) :
    e.apply (ls ++ [""]) = .ok (splice ls start count target ++ [""]) := by
  have longer : start + count ≤ (ls ++ [""]).length := by
    rw [List.length_append]
    omega
  have behind := splice_append [] ls [""] target (Nat.zero_le start) (by simpa using inside)
  rw [splices.apply_eq free _ longer]
  exact congrArg Except.ok behind

theorem length_splice (target : List String) (inside : start + count ≤ ls.length) :
    (splice ls start count target).length + count = ls.length + target.length := by
  simp only [splice, List.length_append, List.length_take, List.length_drop]
  omega

theorem mem_splice {line : String} (member : line ∈ splice ls start count target) :
    line ∈ ls ∨ line ∈ target := by
  rcases List.mem_append.1 member with front | back
  · rcases List.mem_append.1 front with before | inside
    · exact Or.inl (List.mem_of_mem_take before)
    · exact Or.inr inside
  · exact Or.inl (List.mem_of_mem_drop back)

theorem lines_joinLines_splice (free : ∀ t ∈ target, '\n' ∉ t.toList)
    (ls_free : ∀ l ∈ ls, '\n' ∉ l.toList) :
    lines (joinLines (splice ls start count target ++ [""])).toList =
      (splice ls start count target).map String.toList := by
  rw [toList_joinLines_append_empty, lines_endLines]
  intro l member
  obtain ⟨line, spliced, rfl⟩ := List.mem_map.1 member
  exact (mem_splice spliced).elim (ls_free line) (free line)

namespace Tokenization

theorem lines_target {source : String} {style : Lexer.Style} {tokens : List Token}
    (splices : e.Splices start count target) (nonempty : target ≠ [])
    (free : ∀ t ∈ target, '\n' ∉ t.toList) (parted : splitLines source = ls ++ [""])
    (ls_free : ∀ l ∈ ls, '\n' ∉ l.toList) (inside : start + count ≤ ls.length)
    (found : Tokenization.target e source style = .ok tokens) :
    lines (spell tokens) = target.map String.toList := by
  obtain ⟨edited, applied, first, last, before, after, first_eq, last_eq, range⟩ :=
    target_eq_ok found (splices.requiredTargetLines?_eq nonempty)
  rw [parted, splices.apply_append_empty free inside] at applied
  cases applied
  have first_eq : start = first := by omega
  subst first_eq
  have some_target := List.length_pos_iff.2 nonempty
  have last_eq : last + 1 = start + target.length := by omega
  have lexical : ∀ t ∈ Lexer.tokenize style (joinLines (splice ls start count target ++ [""])),
      t.Lexical := fun t => Lexer.lexical_tokenize
  have spelled := Lexer.spell_tokenize style (joinLines (splice ls start count target ++ [""]))
  have parts := range.lines_spell lexical
  have length_before := range.length_lines_before lexical
  rw [spelled, lines_joinLines_splice free ls_free, splice, List.map_append, List.map_append,
    List.append_assoc] at parts
  have length_front : ((ls.take start).map String.toList).length = start := by
    rw [List.length_map, List.length_take]
    omega
  have shown := (List.append_inj parts (by rw [length_front, length_before])).2
  -- As many lines are shown as come in, so that they are these.
  have length_shown : (lines (spell tokens)).length = target.length := by
    rcases range.ends_shown with ⟨ends, count⟩ | ⟨-, count_all⟩
    · have length := range.length_lines_shown lexical ends count
      omega
    · have complete : Complete (joinLines (splice ls start count target ++ [""])).toList := by
        rw [toList_joinLines_append_empty]
        exact complete_endLines _
      have total := length_lines complete
      rw [lines_joinLines_splice free ls_free, List.length_map, ← spelled,
        ← newlineCount_eq lexical, count_all] at total
      have length := length_splice target inside
      omega
  exact (List.append_inj shown (by rw [List.length_map, length_shown])).1.symm

end Tokenization

end FixCorpus
