import FixCorpus.Proofs.Lexer.Code
import FixCorpus.Proofs.Token.Restoration

/-! The lexers part a text and lose nothing of it. Main statement: the tokens of
code and those of prose stand for the text they were cut from, a token of the
kind of blanks for a single character, and restoring the token texts gives the
text back exactly if no other token has a reserved text. -/

namespace FixCorpus.Lexer

open Text

def BlanksAreSingle (tokens : List Token) : Prop :=
  ∀ t ∈ tokens, t.kind = .whitespace →
    ∃ c, isBlank c = true ∧ t = Token.blank c ∧ t.spelling = [c]

theorem Faithful.blanksAreSingle {form : Token → Prop} (weaker : ∀ t, form t → t.Lexical)
    {text rest : List Char} {tokens : List Token} (h : Faithful form text tokens rest) :
    BlanksAreSingle tokens := by
  intro t member kind
  obtain ⟨c, blank, rfl⟩ := (weaker t (h.2 t member)).eq_blank kind
  exact ⟨c, blank, rfl, Token.spelling_blank c⟩

theorem tokens_stand_for_text (style : Style) (text : String) :
    (spell (lex style text) = text.toList ++ ['\n'] ∧ BlanksAreSingle (lex style text)) ∧
    (spell (tokenize style text) = text.toList ∧ BlanksAreSingle (tokenize style text)) ∧
    (spell (Prose.tokenize style text) = text.toList ∧
      BlanksAreSingle (Prose.tokenize style text)) ∧
    (spell (Prose.lexFragment style text.toList) = text.toList ∧
      BlanksAreSingle (Prose.lexFragment style text.toList)) ∧
    (detokenize (tokenize style text) = text ↔
      ∀ t ∈ tokenize style text, t.kind ≠ .whitespace → t.text ∉ reservedTexts) ∧
    (detokenize (Prose.tokenize style text) = text ↔
      ∀ t ∈ Prose.tokenize style text, t.kind ≠ .whitespace → t.text ∉ reservedTexts) := by
  have lexed := faithful_lex style text
  have code := faithful_tokenize style text
  have prose := Prose.faithful_tokenize style text
  have fragment := Prose.faithful_lexFragment style text.toList
  have spelled := spell_tokenize style text
  have prose_spelled : spell (Prose.tokenize style text) = text.toList := by
    simpa using prose.1
  refine ⟨⟨by simpa using lexed.1, lexed.blanksAreSingle fun _ => id⟩,
    ⟨spelled, code.blanksAreSingle fun _ => id⟩,
    ⟨prose_spelled, prose.blanksAreSingle fun _ => .plain⟩,
    ⟨by simpa using fragment.1, fragment.blanksAreSingle fun _ => .plain⟩, ?_, ?_⟩
  · exact detokenize_eq_iff spelled
  · exact detokenize_eq_iff prose_spelled

end FixCorpus.Lexer
