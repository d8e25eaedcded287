import FixCorpus.Dataset.Tokenized
import FixCorpus.Flattened.Decoder
import FixCorpus.Proofs.Lexer.Code
import FixCorpus.Proofs.Token.Restoration

/-! Code that is read back from the words of its tokens. Main statement: of an
accepted source all comes back exactly if no name is a reserved text and no
character literal holds an escaped blank. -/

namespace FixCorpus.Flattened

open Text Lexer

theorem return_not_mem_normalizeLineEndings (text : String) :
    '\r' ∉ (normalizeLineEndings text).toList := by
  have free : ∀ cs : List Char, '\r' ∉ (cs.foldr unifyEnding ([], false)).1 := by
    intro cs
    induction cs with
    | nil => simp
    | cons c cs ih =>
      rw [List.foldr_cons, unifyEnding]
      split
      · dsimp only
        split
        · exact ih
        · simpa using ih
      · rename_i ne_return
        simpa [eq_comm] using ⟨ne_return, ih⟩
  simpa [normalizeLineEndings] using free text.toList

theorem blank_of_accepted {text : String}
    (accepted : Dataset.sourceDefect? (normalizeLineEndings text) = none) {c : Char}
    (member : c ∈ (normalizeLineEndings text).toList) (blank : isBlank c = true) :
    c = ' ' ∨ c = '\n' ∨ c = '\t' := by
  have no_return := return_not_mem_normalizeLineEndings text
  generalize (normalizeLineEndings text) = source at *
  unfold Dataset.sourceDefect? at accepted
  split at accepted
  · cases accepted
  · rename_i ascii
    split at accepted
    · cases accepted
    · rename_i breaks
      simp only [Dataset.isAscii, Bool.not_eq_true', Bool.not_eq_false, List.all_eq_true,
        decide_eq_true_eq] at ascii
      simp only [List.any_eq_true, Bool.or_eq_true, decide_eq_true_eq, not_exists, not_and,
        not_or] at breaks
      rcases blank_of_lt blank (ascii c member) with h | h | h | h | h | h
      · exact Or.inl h
      · exact Or.inr (Or.inl h)
      · exact Or.inr (Or.inr h)
      · exact absurd (h ▸ member) no_return
      · exact absurd h (breaks c member).1
      · exact absurd h (breaks c member).2

theorem mem_of_mem_spelling {style : Style} {source : String} {t : Token}
    (member : t ∈ tokenize style source) {c : Char} (inside : c ∈ t.spelling) :
    c ∈ source.toList := by
  rw [← spell_tokenize style source]
  exact List.mem_flatMap.2 ⟨t, member, inside⟩

theorem solid_text_iff {t : Token} (h : t.Lexical)
    (blanks : ∀ c ∈ t.spelling, isBlank c = true → c = ' ' ∨ c = '\n' ∨ c = '\t') :
    Solid t.text.toList ↔ t ≠ Token.escapedBlank ' ' ∧ t ≠ Token.escapedBlank '\t' := by
  constructor
  · intro solid
    constructor
    · rintro rfl
      exact absurd solid (by decide)
    · rintro rfl
      exact absurd solid (by decide)
  · rintro ⟨no_space, no_tab⟩
    cases h with
    | plain h =>
      cases h with
      | @blank c blank =>
        rcases blanks c (by simp) blank with rfl | rfl | rfl <;> decide
      | solid kind_ne nonempty solid => simpa using solid
    | @escaped c blank ne_newline =>
      rcases blanks c (by simp [Token.spelling_escapedBlank]) blank with rfl | rfl | rfl
      · exact absurd rfl no_space
      · exact absurd rfl ne_newline
      · exact absurd rfl no_tab

theorem clean_iff {t : Token} (h : t.Lexical)
    (blanks : ∀ c ∈ t.spelling, isBlank c = true → c = ' ' ∨ c = '\n' ∨ c = '\t') :
    t.Clean ↔ (t.kind ≠ .whitespace → t.text ∉ reservedTexts) ∧
      t ≠ Token.escapedBlank ' ' ∧ t ≠ Token.escapedBlank '\t' :=
  and_congr_right fun _ => solid_text_iff h blanks

theorem code_of_tokens_eq_source_iff (style : Style) (text : String)
    (accepted : Dataset.sourceDefect? (normalizeLineEndings text) = none) :
    code (joinWords (tokenTexts (tokenize style (normalizeLineEndings text)))) =
        normalizeLineEndings text ↔
      ∀ t ∈ tokenize style (normalizeLineEndings text),
        (t.kind ≠ .whitespace → t.text ∉ reservedTexts) ∧
          t ≠ Token.escapedBlank ' ' ∧ t ≠ Token.escapedBlank '\t' := by
  rw [code, restoreTexts_words_eq_iff (fun t => lexical_tokenize) (spell_tokenize style _)]
  refine forall_congr' fun t => forall_congr' fun member => ?_
  exact clean_iff (lexical_tokenize member) fun c inside blank =>
    blank_of_accepted accepted (mem_of_mem_spelling member inside) blank

theorem code_of_tokens_eq_source_iff_tabbed_call :
    Dataset.sourceDefect? (normalizeLineEndings "a\t= f( 1 );\r\n") = none ∧
    code (joinWords (tokenTexts (tokenize .whole "a\t= f( 1 );\n"))) = "a\t= f( 1 );\n" := by
  have accepted : Dataset.sourceDefect? (normalizeLineEndings "a\t= f( 1 );\r\n") = none := by
    decide
  exact ⟨accepted,
    (code_of_tokens_eq_source_iff .whole "a\t= f( 1 );\r\n" accepted).2 (by decide +kernel)⟩

/-- An accepted source that does not come back. -/
theorem code_of_escaped_space_ne :
    Dataset.sourceDefect? (normalizeLineEndings "'\\ '") = none ∧
    code (joinWords (tokenTexts (tokenize .whole (normalizeLineEndings "'\\ '")))) = "'\\'" ∧
    code (joinWords (tokenTexts (tokenize .whole (normalizeLineEndings "'\\ '")))) ≠
      normalizeLineEndings "'\\ '" := by
  decide +kernel

end FixCorpus.Flattened
