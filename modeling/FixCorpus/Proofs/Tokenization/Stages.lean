import FixCorpus.Proofs.Except
import FixCorpus.Proofs.Lexer.Code
import FixCorpus.Proofs.Token.Excerpt
import FixCorpus.Proofs.Window
import FixCorpus.Tokenization

/-! What the stages of a tokenization have done if they did not fail. The window
is a piece of the tokens of the source around the required lines, and the target
is a piece of the tokens of the edited file. -/

namespace FixCorpus

namespace Tokenization

open Lexer (newlineCount_tokenize)

theorem checkedTokens_eq (style : Lexer.Style) (text : String) :
    checkedTokens style text = .ok (Lexer.tokenize style text) := by
  have free : (Lexer.tokenize style text).find? (fun t => t.text.toList.contains '\n') = none := by
    refine List.find?_eq_none.2 fun t member => ?_
    have no_newline := (Lexer.lexical_tokenize member).newline_not_mem_text
    simpa using no_newline
  simp only [checkedTokens, free, newlineCount_tokenize, if_pos]

theorem checkedLine_eq_ok {line : Int} {n : Nat} (checked : checkedLine line = .ok n) :
    line = n := by
  unfold checkedLine at checked
  split at checked
  · have := Except.ok.inj checked
    omega
  · cases checked

theorem tokenRange_eq_ok {tokens : List Token} {first last : Int} {a b : Nat}
    (found : tokenRange tokens first last = .ok (a, b)) :
    ∃ m n : Nat, first = m ∧ last = n ∧
      (LineIndex.ofTokens tokens).tokenRange? m n = some (a, b) := by
  simp only [tokenRange, except_bind_eq_ok] at found
  obtain ⟨m, at_first, n, at_last, found⟩ := found
  refine ⟨m, n, checkedLine_eq_ok at_first, checkedLine_eq_ok at_last, ?_⟩
  split at found
  · rename_i range applies
    rw [applies, Except.ok.inj found]
  · cases found

theorem context_eq_ok {d : UnifiedDatapoint} {source : String} {budget : Nat}
    {style : Lexer.Style} {window : List Token} {start : Int}
    (found : context d source budget style = .ok (window, start)) :
    ∃ (first last : Nat) (e : Excerpt (Lexer.tokenize style source) first last),
      d.requiredLinesStart = first + 1 ∧ d.requiredLinesEnd = last + 1 ∧
        window = e.window ∧ start = e.startLine := by
  simp only [context, except_bind_eq_ok, checkedTokens_eq, Except.ok.injEq] at found
  obtain ⟨_, rfl, ⟨a, b⟩, range, found⟩ := found
  obtain ⟨first, last, first_eq, last_eq, range⟩ := tokenRange_eq_ok range
  split at found
  · rename_i w selected
    cases found
    obtain ⟨front, shown, rest, lines, length_front, length_shown⟩ :=
      LineIndex.lineRange_of_tokenRange? range
    obtain ⟨before, after, parted, length_before, start_le, lt_stop⟩ :=
      Window.select_eq_ok selected
    -- The required lines and the window around them are two cuts of the same tokens.
    have same : before ++ (w.items ++ after) = front ++ (shown ++ rest) := by
      rw [← List.append_assoc, ← parted, lines.parts, List.append_assoc]
    obtain ⟨lead, rfl, behind⟩ := append_of_length_le same (by omega)
    have same_stop : (lead ++ shown) ++ rest = w.items ++ after := by
      rw [behind, List.append_assoc]
    obtain ⟨trail, items, rfl⟩ := append_of_length_le same_stop (by
      simp only [Window.stop, List.length_append] at *
      omega)
    have cut_off : (Lexer.tokenize style source).take w.start = before := by
      rw [parted, ← length_before, List.append_assoc, List.take_left]
    refine ⟨first, last, ⟨before, lead, shown, trail, after, lines⟩, by omega, by omega, items, ?_⟩
    rw [startLine, cut_off]
    rfl
  · cases found

theorem target_eq_ok {edit : Edit} {source : String} {style : Lexer.Style} {target : List Token}
    (found : Tokenization.target edit source style = .ok target) {first last : Int}
    (range : edit.requiredTargetLines? = some (first, last)) :
    ∃ edited, edit.apply (Text.splitLines source) = .ok edited ∧
      ∃ (m n : Nat) (before after : List Token), first = m ∧ last = n ∧
        LineRange (Lexer.tokenize style (Text.joinLines edited)) m n before target after := by
  unfold Tokenization.target at found
  rw [range] at found
  dsimp only at found
  split at found
  · cases found
  · rename_i edited applied
    refine ⟨edited, applied, ?_⟩
    simp only [except_bind_eq_ok, checkedTokens_eq, Except.ok.injEq] at found
    obtain ⟨_, rfl, ⟨a, b⟩, range, found⟩ := found
    obtain ⟨m, n, first_eq, last_eq, range⟩ := tokenRange_eq_ok range
    obtain ⟨before, shown, after, lines, rfl, length_shown⟩ :=
      LineIndex.lineRange_of_tokenRange? range
    have shown_eq : target = shown := by
      rw [← Except.ok.inj found, ← length_shown, lines.parts, List.take_left, List.drop_left]
    exact ⟨m, n, before, after, first_eq, last_eq, shown_eq ▸ lines⟩

/-- The streams of a datapoint without aliases, the context of which is an excerpt of its file. -/
def excerptStreams (d : UnifiedDatapoint) (style : Lexer.Style) {tokens : List Token}
    {first last : Nat} (e : Excerpt tokens first last) (target : List Token) : Streams :=
  ⟨e.startLine, e.window, target,
    d.occurrences.map fun o => Message.tokenize style o.message⟩

theorem streams_eq_ok {d : UnifiedDatapoint} {source : String} {budget : Nat}
    {style : Lexer.Style} {s : Streams} (found : streams d source budget style = .ok s) :
    ∃ (first last : Nat) (e : Excerpt (Lexer.tokenize style source) first last)
      (target : List Token), d.requiredLinesStart = first + 1 ∧ d.requiredLinesEnd = last + 1 ∧
        Tokenization.target d.edit source style = .ok target ∧
        s = excerptStreams d style e target := by
  simp only [streams, except_bind_eq_ok] at found
  obtain ⟨⟨window, start⟩, shown, target, brought, made⟩ := found
  obtain ⟨first, last, e, first_eq, last_eq, rfl, rfl⟩ := context_eq_ok shown
  exact ⟨first, last, e, target, first_eq, last_eq, brought, (Except.ok.inj made).symm⟩

theorem tokenizeDatapoint_eq_ok {d : UnifiedDatapoint} {source : String} {settings : Settings}
    {dp : TokenizedDatapoint .window} (tokenized : tokenizeDatapoint d source settings = .ok dp)
    (plain : settings.mode ≠ .zeroIndexVars) :
    ∃ (first last : Nat) (e : Excerpt (Lexer.tokenize settings.mode.style source) first last)
      (target : List Token), d.requiredLinesStart = first + 1 ∧ d.requiredLinesEnd = last + 1 ∧
        Tokenization.target d.edit source settings.mode.style = .ok target ∧
        dp = (excerptStreams d settings.mode.style e target).attach d := by
  have no_aliases : settings.mode.usesAliases = false := by
    cases mode : settings.mode with
    | zeroIndexVars => exact absurd mode plain
    | _ => rfl
  simp only [tokenizeDatapoint, except_bind_eq_ok, no_aliases] at tokenized
  obtain ⟨s, found, attached⟩ := tokenized
  obtain ⟨first, last, e, target, first_eq, last_eq, brought, rfl⟩ := streams_eq_ok found
  exact ⟨first, last, e, target, first_eq, last_eq, brought, (Except.ok.inj attached).symm⟩

namespace Streams

@[simp] theorem tokenizedFileContextStart_attach (s : Streams) (d : UnifiedDatapoint) :
    (s.attach d).tokenizedFileContextStart = s.startLine := rfl

@[simp] theorem edit_attach (s : Streams) (d : UnifiedDatapoint) :
    (s.attach d).edit = d.edit.shift s.startLine := rfl

theorem occurrences_attach (d : UnifiedDatapoint) (style : Lexer.Style) {tokens : List Token}
    {first last : Nat} (e : Excerpt tokens first last) (target : List Token) :
    ((excerptStreams d style e target).attach d).occurrences = d.occurrences.map fun o =>
      ⟨o.message, o.line - e.startLine, o.character,
        tokenTexts (Message.tokenize style o.message)⟩ := by
  simp only [attach, excerptStreams, TokenizedDatapoint.rebase, UnifiedDatapoint.withTokens]
  induction d.occurrences with
  | nil => rfl
  | cons o occurrences ih =>
    rw [List.map_cons, List.map_cons, List.zipWith_cons_cons, List.map_cons, ih]
    rfl

end Streams

end Tokenization

end FixCorpus
