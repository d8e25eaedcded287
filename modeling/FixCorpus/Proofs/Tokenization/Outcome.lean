import FixCorpus.Dataset.Tokenized
import FixCorpus.Proofs.Tokenization.Target
import FixCorpus.Proofs.Unification

/-! How the tokenization of a matched edit ends. The lines to be shown are lines
of the file, and the edit fits the file, so that only the budget can be too
small, with one exception: a single blank line that comes in at the end of a
file without a final newline has no token, and its line is not found. Main
statement: `outcome_of_patch`. -/

namespace FixCorpus

open Text
open Lexer (newlineCount_tokenize)

namespace Tokenization

theorem checkedLine_natCast (n : Nat) : checkedLine n = .ok n := by
  rw [checkedLine, if_pos (Int.natCast_nonneg n), Int.toNat_natCast]

theorem tokenRange_natCast (tokens : List Token) {first last : Nat} (ordered : first ≤ last)
    (inside : last ≤ newlineCount tokens) :
    (¬ (first = newlineCount tokens ∧ EndsLine tokens) ∧ ∃ range, tokenRange tokens first last =
      .ok range ∧ (LineIndex.ofTokens tokens).tokenRange? first last = some range) ∨
    ((first = newlineCount tokens ∧ EndsLine tokens) ∧
      tokenRange tokens first last = .error (.lineOutOfRange (last + 1))) := by
  have nothing := LineIndex.tokenRange?_eq_none_iff ordered inside
  cases found : (LineIndex.ofTokens tokens).tokenRange? first last with
  | none =>
    refine Or.inr ⟨nothing.1 found, ?_⟩
    simp only [tokenRange, checkedLine_natCast, bind, Except.bind, found]
  | some range =>
    refine Or.inl ⟨fun blank => ?_, range, ?_, rfl⟩
    · rw [nothing.2 blank] at found
      cases found
    · simp only [tokenRange, checkedLine_natCast, bind, Except.bind, found]
      rfl

theorem context_of_lines {d : UnifiedDatapoint} {source : String}
    (no_return : '\r' ∉ source.toList) (positive : 1 ≤ d.requiredLinesStart)
    (ordered : d.requiredLinesStart ≤ d.requiredLinesEnd)
    (inside : d.requiredLinesEnd ≤ (readLines source).length) (budget : Nat)
    (style : Lexer.Style) :
    (∃ shown, context d source budget style = .ok shown) ∨ ∃ required, budget < required ∧
      context d source budget style = .error (.window (.contextOverflow required budget)) := by
  have seen := length_splitLines source
  rw [← newlineCount_tokenize style] at seen
  have few := length_readLines_le_splitLines no_return
  obtain ⟨first, first_eq⟩ := Int.eq_ofNat_of_zero_le (Int.sub_nonneg.2 positive)
  obtain ⟨last, last_eq⟩ : ∃ last : Nat, d.requiredLinesEnd - 1 = last :=
    Int.eq_ofNat_of_zero_le (by omega)
  have in_order : first ≤ last := by omega
  rcases tokenRange_natCast (Lexer.tokenize style source) in_order (by omega) with
    ⟨-, ⟨a, b⟩, range, found⟩ | ⟨⟨at_end, ends⟩, -⟩
  · have bounds := LineIndex.bounds_of_tokenRange? found
    cases selected : Window.select (Lexer.tokenize style source) a b budget with
    | ok w =>
      refine Or.inl ⟨(w.items, startLine (Lexer.tokenize style source) w.start), ?_⟩
      simp only [context, checkedTokens_eq, first_eq, last_eq, bind, Except.bind, range, selected]
      rfl
    | error cause =>
      obtain ⟨exceeds, rfl⟩ := Window.select_eq_error bounds.1 bounds.2 selected
      refine Or.inr ⟨b - a + 1, exceeds, ?_⟩
      simp only [context, checkedTokens_eq, first_eq, last_eq, bind, Except.bind, range, selected]
  · rw [endsLine_iff_complete fun t => Lexer.lexical_tokenize, Lexer.spell_tokenize] at ends
    have fewer := length_readLines_lt_splitLines ends no_return
    omega

section

variable {ls target : List String} {start count : Nat}

theorem newlineCount_splice (nonempty : target ≠ []) (free : ∀ t ∈ target, '\n' ∉ t.toList)
    (ls_free : ∀ l ∈ ls, '\n' ∉ l.toList) (inside : start + count ≤ ls.length)
    (style : Lexer.Style) :
    newlineCount (Lexer.tokenize style (joinLines (splice ls start count target))) + 1 + count =
      ls.length + target.length := by
  have length := length_splice target inside
  have some_target := List.length_pos_iff.2 nonempty
  have some_line : splice ls start count target ≠ [] := List.ne_nil_of_length_pos (by omega)
  have seen := length_splitLines (joinLines (splice ls start count target))
  rw [splitLines_joinLines some_line fun l member =>
    (mem_splice member).elim (ls_free l) (free l)] at seen
  rw [newlineCount_tokenize, ← seen, length]

theorem blank_end_iff (nonempty : target ≠ []) (free : ∀ t ∈ target, '\n' ∉ t.toList)
    (ls_free : ∀ l ∈ ls, '\n' ∉ l.toList) (inside : start + count ≤ ls.length)
    (style : Lexer.Style) :
    (start = newlineCount (Lexer.tokenize style (joinLines (splice ls start count target))) ∧
      EndsLine (Lexer.tokenize style (joinLines (splice ls start count target)))) ↔
    target = [""] ∧ start + count = ls.length := by
  have newlines := newlineCount_splice nonempty free ls_free inside style
  have some_target := List.length_pos_iff.2 nonempty
  have single : ∀ t, target = [t] → start + count = ls.length →
      (Complete (joinLines (splice ls start count target)).toList ↔ t = "") := by
    rintro t rfl at_end
    rw [splice, at_end, List.drop_length, List.append_nil,
      complete_joinLines_append_singleton_iff _ (free t List.mem_cons_self)]
  rw [endsLine_iff_complete fun t => Lexer.lexical_tokenize, Lexer.spell_tokenize]
  constructor
  · rintro ⟨last, complete⟩
    obtain ⟨t, rfl⟩ : ∃ t, target = [t] := List.length_eq_one_iff.1 (by omega)
    have at_end : start + count = ls.length := by
      rw [List.length_singleton] at newlines
      omega
    exact ⟨congrArg (fun t => [t]) ((single t rfl at_end).1 complete), at_end⟩
  · rintro ⟨rfl, at_end⟩
    rw [List.length_singleton] at newlines
    exact ⟨by omega, (single "" rfl at_end).2 rfl⟩

end

theorem target_of_removal {e : Edit} {start : Int} {count : Nat} (splices : e.Splices start count [])
    (source : String) (style : Lexer.Style) : Tokenization.target e source style = .ok [] := by
  simp only [Tokenization.target, splices.requiredTargetLines?_eq_none]

theorem target_of_splices {e : Edit} {start count : Nat} {source : String}
    (splices : e.Splices start count e.targetLines)
    (free : ∀ t ∈ e.targetLines, '\n' ∉ t.toList) (nonempty : e.targetLines ≠ [])
    (inside : start + count ≤ (splitLines source).length) (style : Lexer.Style) :
    (¬ (e.targetLines = [""] ∧ start + count = (splitLines source).length) ∧
      ∃ tokens, Tokenization.target e source style = .ok tokens) ∨
    ((e.targetLines = [""] ∧ start + count = (splitLines source).length) ∧
      Tokenization.target e source style = .error (.lineOutOfRange (start + 1))) := by
  have ls_free : ∀ l ∈ splitLines source, '\n' ∉ l.toList := fun l =>
    newline_not_mem_of_mem_splitLines
  have some_target := List.length_pos_iff.2 nonempty
  have applied := splices.apply_eq free (splitLines source) inside
  have newlines := newlineCount_splice nonempty free ls_free inside style
  have last : (start + e.targetLines.length - 1 : Int) =
      (start + (e.targetLines.length - 1) : Nat) := by
    omega
  have range := splices.requiredTargetLines?_eq nonempty
  rw [last] at range
  have iff := blank_end_iff nonempty free ls_free inside style
  rcases tokenRange_natCast
      (Lexer.tokenize style (joinLines (splice (splitLines source) start count e.targetLines)))
      (Nat.le_add_right start (e.targetLines.length - 1)) (by omega) with
    ⟨not_blank, ⟨a, b⟩, found, -⟩ | ⟨blank, failed⟩
  · refine Or.inl ⟨fun blank => not_blank (iff.2 blank), ?_⟩
    simp only [Tokenization.target, range, applied, checkedTokens_eq, bind, Except.bind, found]
    exact ⟨_, rfl⟩
  · have single : e.targetLines.length - 1 = 0 := by
      rw [(iff.1 blank).1]
      rfl
    refine Or.inr ⟨iff.1 blank, ?_⟩
    simp only [Tokenization.target, range, applied, checkedTokens_eq, bind, Except.bind, failed]
    rw [single, Nat.add_zero]

end Tokenization

/-- The edit brings in one line, which is blank, at the end of a source that no newline ends. -/
def UnifiedDatapoint.LeavesBlankEnd (d : UnifiedDatapoint) (source : String) : Prop :=
  ¬ Complete source.toList ∧ d.edit.targetLines = [""] ∧
    d.edit.sourceLines.getLast? = some ((readLines source).length : Int)

theorem UnifiedDatapoint.Placed.leavesBlankEnd_iff {d : UnifiedDatapoint} {source : String}
    {start count : Nat} (placed : d.Placed (readLines source).length start count)
    (no_return : '\r' ∉ source.toList) :
    d.LeavesBlankEnd source ↔
      d.edit.targetLines = [""] ∧ start + count = (splitLines source).length := by
  have inside := placed.inside
  rw [LeavesBlankEnd, placed.splices.getLast?_sourceLines, Option.some.injEq]
  by_cases complete : Complete source.toList
  · simp only [splitLines_eq complete no_return, complete, not_true_eq_false, false_and,
      List.length_append, List.length_singleton, false_iff, not_and]
    intro _
    omega
  · simp only [splitLines_eq_readLines complete no_return, complete, not_false_eq_true, true_and]
    refine and_congr_right fun _ => ?_
    omega

namespace Tokenization

theorem outcome_of_patch {source : String} (no_return : '\r' ∉ source.toList) {text : String}
    {patches : List FilePatch} (read : Patch.read text = .ok patches) {p : FilePatch}
    (patch : p ∈ patches) (applies : p.AppliesTo (readLines source))
    {diagnostics : List DiagnosticRecord}
    (on_lines : ∀ x ∈ diagnostics, 1 ≤ x.line ∧ x.line ≤ (readLines source).length)
    {o : Origin} {d : UnifiedDatapoint} (unified : d ∈ unifyFilePatch o p diagnostics source)
    (settings : Settings) :
    (∃ required, settings.budget < required ∧ tokenizeDatapoint d source settings =
      .error (.window (.contextOverflow required settings.budget))) ∨
    (¬ d.LeavesBlankEnd source ∧ ∃ dp, tokenizeDatapoint d source settings = .ok dp) ∨
    (d.LeavesBlankEnd source ∧ ∃ line, d.edit.requiredTargetLines? = some (line - 1, line - 1) ∧
      tokenizeDatapoint d source settings = .error (.lineOutOfRange line)) := by
  obtain ⟨start, count, placed⟩ := placed_of_patch read patch applies unified
  obtain ⟨positive, ordered, inside⟩ := required_of_mem_unifyFilePatch unified placed on_lines
  have seen : start + count ≤ (splitLines source).length :=
    Nat.le_trans placed.inside (length_readLines_le_splitLines no_return)
  rcases context_of_lines no_return positive ordered inside settings.budget settings.mode.style with
    ⟨⟨window, first⟩, shown⟩ | ⟨required, exceeds, refused⟩
  · have built : ∀ tokens, target d.edit source settings.mode.style = .ok tokens →
        ∃ dp, tokenizeDatapoint d source settings = .ok dp := by
      intro tokens found
      simp only [tokenizeDatapoint, streams, shown, found, bind, Except.bind]
      exact ⟨_, rfl⟩
    rw [placed.leavesBlankEnd_iff no_return]
    by_cases empty : d.edit.targetLines = []
    · have removal := target_of_removal (empty ▸ placed.splices) source settings.mode.style
      exact Or.inr (Or.inl ⟨by simp [empty], built [] removal⟩)
    · rcases target_of_splices placed.splices placed.free empty seen settings.mode.style with
        ⟨not_blank, tokens, found⟩ | ⟨blank, failed⟩
      · exact Or.inr (Or.inl ⟨not_blank, built tokens found⟩)
      · refine Or.inr (Or.inr ⟨blank, start + 1, ?_, ?_⟩)
        · rw [placed.splices.requiredTargetLines?_eq empty, blank.1]
          simp
        · simp only [tokenizeDatapoint, streams, shown, failed, bind, Except.bind]
  · refine Or.inl ⟨required, exceeds, ?_⟩
    simp only [tokenizeDatapoint, streams, refused, bind, Except.bind]

theorem outcome_of_patch_at_open_end :
    let source := "a;\n "
    let p : FilePatch := ⟨"a/Cart.cs", "b/Cart.cs", [⟨1, 2, 1, 2, "", [
      ⟨.context, "a;", some 1, some 1⟩, ⟨.removed, " ", some 2, none⟩,
      ⟨.added, "b;", none, some 2⟩]⟩]⟩
    let o : Origin := ⟨"fix", "shop", "Shop.sln", "c1", "", "SA1028", none⟩
    let diagnostics : List DiagnosticRecord :=
      [⟨"shop", "SA1028", "Cart.cs", "Drop 'b'", 2, 1, "Warning"⟩]
    let d : UnifiedDatapoint := {
      repo := "shop", repoUrl := none, solutionFile := "Shop.sln", filePath := "Cart.cs"
      numberFileLines := 2, commit := "c1", fileUrl := none, diagnosticId := "SA1028"
      analyzerNuGet := "", severity := "Warning", requiredLinesStart := 2, requiredLinesEnd := 2
      occurrences := [⟨"Drop 'b'", 2, 1⟩], edit := .replace ⟨[2], ["b;"]⟩
      fileContextStart := 1, fileContext := ["a;", " "] }
    d ∈ unifyFilePatch o p diagnostics source ∧
      ∃ dp, tokenizeDatapoint d source .default = .ok dp := by
  intro source p o diagnostics d
  have read : Patch.read "--- a/Cart.cs\n+++ b/Cart.cs\n@@ -1,2 +1,2 @@\n a;\n- \n+b;\n" =
      .ok [p] := by
    decide +kernel
  have applies : p.AppliesTo (readLines source) := ⟨by decide +kernel, by decide +kernel⟩
  have unified : d ∈ unifyFilePatch o p diagnostics source := by
    decide +kernel
  have fits : (tokenizeDatapoint d source .default).toBool = true := by
    decide +kernel
  refine ⟨unified, ?_⟩
  rcases outcome_of_patch (by decide) read List.mem_cons_self applies (by decide +kernel) unified
    .default with ⟨_, -, refused⟩ | ⟨-, made⟩ | ⟨⟨-, blank, -⟩, -⟩
  · rw [refused] at fits
    cases fits
  · exact made
  · exact absurd blank (by decide)

/-- A blank line in place of the last one, where no newline ends the source. -/
theorem blank_end_refused :
    let source := "a;\n "
    let p : FilePatch := ⟨"a/Cart.cs", "b/Cart.cs", [⟨1, 2, 1, 2, "", [
      ⟨.context, "a;", some 1, some 1⟩, ⟨.removed, " ", some 2, none⟩,
      ⟨.added, "", none, some 2⟩]⟩]⟩
    let o : Origin := ⟨"fix", "shop", "Shop.sln", "c1", "", "SA1028", none⟩
    let diagnostics : List DiagnosticRecord :=
      [⟨"shop", "SA1028", "Cart.cs", "Drop 'b'", 2, 1, "Warning"⟩]
    let d : UnifiedDatapoint := {
      repo := "shop", repoUrl := none, solutionFile := "Shop.sln", filePath := "Cart.cs"
      numberFileLines := 2, commit := "c1", fileUrl := none, diagnosticId := "SA1028"
      analyzerNuGet := "", severity := "Warning", requiredLinesStart := 2, requiredLinesEnd := 2
      occurrences := [⟨"Drop 'b'", 2, 1⟩], edit := .replace ⟨[2], [""]⟩
      fileContextStart := 1, fileContext := ["a;", " "] }
    normalizeLineEndings source = source ∧ Dataset.sourceDefect? source = none ∧
    Patch.read "--- a/Cart.cs\n+++ b/Cart.cs\n@@ -1,2 +1,2 @@\n a;\n- \n+\n" = .ok [p] ∧
    p.AppliesTo (readLines source) ∧ d ∈ unifyFilePatch o p diagnostics source ∧
    tokenizeDatapoint d source .default = .error (.lineOutOfRange 2) := by
  exact ⟨by decide, by decide, by decide +kernel, ⟨by decide +kernel, by decide +kernel⟩,
    by decide +kernel, by decide +kernel⟩

end Tokenization

end FixCorpus
