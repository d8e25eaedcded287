import FixCorpus.Proofs.Flattened.Code

/-! The tokens of a source as the words of a line. Main statement: each token of an
accepted source is one word of the joined texts, with a single exception, the
character literal of a backslash and a blank, whose text has the blank in it. -/

namespace FixCorpus.Flattened

open Text Lexer

theorem words_of_tokens_eq_texts_iff (style : Style) (text : String)
    (accepted : Dataset.sourceDefect? (normalizeLineEndings text) = none) :
    (∀ t ∈ tokenize style (normalizeLineEndings text), t.text ≠ "" ∧
      (Solid t.text.toList ↔ t ≠ Token.escapedBlank ' ' ∧ t ≠ Token.escapedBlank '\t')) ∧
    (words (joinWords (tokenTexts (tokenize style (normalizeLineEndings text)))) =
        tokenTexts (tokenize style (normalizeLineEndings text)) ↔
      ∀ t ∈ tokenize style (normalizeLineEndings text),
        t ≠ Token.escapedBlank ' ' ∧ t ≠ Token.escapedBlank '\t') := by
  have nonempty : ∀ t ∈ tokenize style (normalizeLineEndings text), t.text ≠ "" :=
    fun t member => (lexical_tokenize member).text_ne_empty
  have solid_iff : ∀ t ∈ tokenize style (normalizeLineEndings text),
      (Solid t.text.toList ↔ t ≠ Token.escapedBlank ' ' ∧ t ≠ Token.escapedBlank '\t') :=
    fun t member => solid_text_iff (lexical_tokenize member) fun c inside blank =>
      blank_of_accepted accepted (mem_of_mem_spelling member inside) blank
  refine ⟨fun t member => ⟨nonempty t member, solid_iff t member⟩, ?_⟩
  rw [tokenTexts, words_joinWords_eq_iff (List.forall_mem_map.2 nonempty), List.forall_mem_map]
  exact forall_congr' fun t => forall_congr' fun member => solid_iff t member

/-- Blanks in single quotes, in a string over two lines and in a comment are tokens of their own. -/
theorem words_of_tokens_eq_texts_of_quoted_blanks :
    Dataset.sourceDefect? (normalizeLineEndings "f(' ', @\"a\r\n\tb\", '\\''); // c d") = none ∧
    words (joinWords (tokenTexts (tokenize .camelCase "f(' ', @\"a\n\tb\", '\\''); // c d"))) =
      tokenTexts (tokenize .camelCase "f(' ', @\"a\n\tb\", '\\''); // c d") := by
  have accepted :
      Dataset.sourceDefect? (normalizeLineEndings "f(' ', @\"a\r\n\tb\", '\\''); // c d") =
        none := by
    decide +kernel
  exact ⟨accepted, (words_of_tokens_eq_texts_iff .camelCase _ accepted).2.2 (by decide +kernel)⟩

/-- The token of an escaped space is read as two words. -/
theorem words_of_escaped_space_ne :
    Dataset.sourceDefect? (normalizeLineEndings "'\\ '") = none ∧
    tokenTexts (tokenize .whole (normalizeLineEndings "'\\ '")) = ["'\\ '"] ∧
    ¬ Solid "'\\ '".toList ∧
    words (joinWords (tokenTexts (tokenize .whole (normalizeLineEndings "'\\ '")))) =
      ["'\\", "'"] := by
  decide +kernel

end FixCorpus.Flattened
