import FixCorpus.Lexer.Prose
import FixCorpus.Proofs.Lexer.Rule

/-! The lexer of prose loses nothing: its tokens stand for the text, and each of
them is a blank or a piece without a blank. -/

namespace FixCorpus.Lexer

open Text

theorem solid_takeCamelPiece (text : List Char) : Solid (text.take (camelPieceLength text)) := by
  have upper := List.prefix_iff_eq_take.1 (List.takeWhile_prefix (l := text) Char.isUpper)
  have lower := List.prefix_iff_eq_take.1 (List.takeWhile_prefix
    (l := text.drop (text.takeWhile Char.isUpper).length) Char.isLower)
  have shorter : camelPieceLength text ≤ (text.takeWhile Char.isUpper).length +
      ((text.drop (text.takeWhile Char.isUpper).length).takeWhile Char.isLower).length := by
    unfold camelPieceLength
    dsimp only
    split
    · omega
    · split
      · omega
      · split <;> omega
  intro c inside
  have member := List.take_subset_take_left text shorter inside
  rw [List.take_add, ← upper, ← lower, List.mem_append] at member
  rcases member with upper | lower
  · exact isBlank_of_isAlpha (Bool.or_eq_true_iff.2 (.inl (List.mem_takeWhile_imp upper)))
  · exact isBlank_of_isAlpha (Bool.or_eq_true_iff.2 (.inr (List.mem_takeWhile_imp lower)))

theorem faithful_takeCamelPiece {kind : TokenKind} (kind_ne : kind ≠ .whitespace)
    {text : List Char} (positive : 0 < camelPieceLength text) :
    Faithful Token.Plain text [Token.ofChars kind (text.take (camelPieceLength text))]
      (text.drop (camelPieceLength text)) := by
  have bounded := camelPieceLength_le text
  have nonempty : text.take (camelPieceLength text) ≠ [] := by
    rw [← List.length_pos_iff, List.length_take]
    omega
  have faithful := faithful_ofChars kind_ne nonempty (solid_takeCamelPiece text)
    (text.drop (camelPieceLength text))
  rwa [List.take_append_drop] at faithful

namespace Prose

theorem spelling_quote : quote.spelling = ['\''] := rfl

theorem faithful_quotedName (afterBlank : Bool) :
    (quotedName afterBlank).Faithful Token.Plain := by
  intro c text tokens rest solid applies
  unfold quotedName at applies
  split at applies
  · rename_i body eq
    cases eq
    dsimp only at applies
    split at applies
    · rename_i next rest' behind
      split at applies
      · rename_i condition
        simp only [Option.some.injEq, Prod.mk.injEq] at applies
        obtain ⟨rfl, rfl⟩ := applies
        have whole : text.takeWhile isQuotable ++ '\'' :: next :: rest' = text := by
          rw [← behind, List.takeWhile_append_dropWhile]
        have nonempty : text.takeWhile isQuotable ≠ [] := by
          intro empty
          simp [empty] at condition
        have inner : Solid (text.takeWhile isQuotable) := by
          refine solid_takeWhile (fun quotable => ?_) text
          rw [isQuotable, Bool.and_eq_true, Bool.not_eq_true'] at quotable
          exact quotable.2
        have quotes : quote.Plain :=
          plain_mark .punctuation "'" (by decide) (by decide) (by decide)
        refine ⟨?_, ?_⟩
        · rw [spell_cons, spell_cons, spell_cons, spelling_quote,
            Token.spelling_ofChars (by decide)]
          simpa using whole
        · simp only [List.mem_cons, List.not_mem_nil, or_false, forall_eq_or_imp, forall_eq]
          exact ⟨quotes, .solid (by decide) nonempty inner, quotes⟩
      · cases applies
    · cases applies
  · cases applies

theorem wordEnding_append (text : List Char) :
    (wordEnding text).1 ++ (wordEnding text).2 = text := by
  unfold wordEnding
  split
  · rename_i text
    have whole := List.takeWhile_append_dropWhile (p := isWordChar) (l := text)
    split
    · rfl
    · simp [whole]
  · rfl

theorem solid_wordEnding (text : List Char) : Solid (wordEnding text).1 := by
  unfold wordEnding
  split
  · split
    · exact solid_nil
    · exact solid_cons.2 ⟨by decide, solid_takeWhile isBlank_of_isWordChar _⟩
  · exact solid_nil

theorem faithful_word : Rule.Faithful Token.Plain word := by
  intro c text tokens rest solid applies
  simp only [word] at applies
  split at applies
  · cases applies
  · rename_i nonempty
    simp only [Option.some.injEq, Prod.mk.injEq] at applies
    obtain ⟨rfl, rfl⟩ := applies
    have whole : (c :: text).takeWhile isWordChar ++
        (wordEnding ((c :: text).dropWhile isWordChar)).1 ++
        (wordEnding ((c :: text).dropWhile isWordChar)).2 = c :: text := by
      rw [List.append_assoc, wordEnding_append, List.takeWhile_append_dropWhile]
    have faithful := faithful_ofChars (show TokenKind.code ≠ .whitespace by decide)
      (List.append_ne_nil_of_left_ne_nil nonempty (wordEnding ((c :: text).dropWhile isWordChar)).1)
      (solid_append.2 ⟨solid_takeWhile isBlank_of_isWordChar _, solid_wordEnding _⟩)
      (wordEnding ((c :: text).dropWhile isWordChar)).2
    rwa [whole] at faithful

theorem faithful_camelPiece : Rule.Faithful Token.Plain camelPiece := by
  intro c text tokens rest solid applies
  simp only [camelPiece] at applies
  split at applies
  · rename_i positive
    simp only [Option.some.injEq, Prod.mk.injEq] at applies
    obtain ⟨rfl, rfl⟩ := applies
    exact faithful_takeCamelPiece (by decide) positive
  · cases applies

theorem faithful_apostrophe : Rule.Faithful Token.Plain apostrophe := by
  intro c text tokens rest solid applies
  unfold apostrophe at applies
  split at applies
  · rename_i eq
    cases eq
    cases applies
    exact faithful_ofChars (by decide) (List.cons_ne_nil _ _) (by decide) _
  · cases applies

theorem faithful_digit : Rule.Faithful Token.Plain digit := by
  intro c text tokens rest solid applies
  simp only [digit] at applies
  split at applies
  · cases applies
    exact faithful_ofChars (by decide) (List.cons_ne_nil _ _) (by simpa using solid) _
  · cases applies

theorem faithful_rules (style : Style) {afterBlank : Bool} {text rest : List Char}
    {tokens : List Token} (found : Rule.first (rules style afterBlank) text = some (tokens, rest)) :
    Faithful Token.Plain text tokens rest := by
  refine faithful_first_blank (Rule.faithful_first fun rule member => ?_)
    (fun c blank => .blank blank) (shrinks_rules style afterBlank) found
  cases style <;>
    simp only [List.mem_cons, List.not_mem_nil, or_false] at member <;>
    rcases member with rfl | rfl | rfl | rfl
  all_goals first
    | exact faithful_quotedName afterBlank
    | exact faithful_word
    | exact faithful_camelPiece
    | exact faithful_digit
    | exact faithful_apostrophe
    | exact faithful_symbol punctuation

theorem symbol_mem_rules (style : Style) (afterBlank : Bool) :
    symbol punctuation ∈ rules style afterBlank := by
  cases style <;> simp [rules]

theorem lexFrom_induction {style : Style} {motive : List Char → List Token → Prop}
    (nothing : motive [] [])
    (step : ∀ {afterBlank text tokens rest others},
      Rule.first (rules style afterBlank) text = some (tokens, rest) → motive rest others →
        motive text (tokens ++ others))
    (afterBlank : Bool) (text : List Char) : motive text (lexFrom style afterBlank text) := by
  induction length : text.length using Nat.strongRecOn generalizing afterBlank text with
  | ind n ih =>
    rw [lexFrom_eq]
    cases found : Rule.first (rules style afterBlank) text with
    | none =>
      rw [eq_nil_of_first_eq_none punctuation (symbol_mem_rules style afterBlank) found]
      exact nothing
    | some cut =>
      obtain ⟨tokens, rest⟩ := cut
      have shorter := shrinks_rules style afterBlank found
      exact step found (ih rest.length (length ▸ shorter) (text.head?.any isBlank) rest rfl)

theorem faithful_lexFrom (style : Style) (afterBlank : Bool) (text : List Char) :
    Faithful Token.Plain text (lexFrom style afterBlank text) [] := by
  -- Each step takes a piece of the text, so the tokens of all steps stand for all of it.
  refine lexFrom_induction (motive := fun text tokens => Faithful Token.Plain text tokens [])
    ⟨rfl, by simp⟩ (fun found others => ?_) afterBlank text
  exact (faithful_rules style found).append others

theorem faithful_lexFragment (style : Style) (text : List Char) :
    Faithful Token.Plain text (lexFragment style text) [] :=
  faithful_lexFrom style false text

theorem faithful_tokenize (style : Style) (text : String) :
    Faithful Token.Plain text.toList (tokenize style text) [] :=
  faithful_dropFinalNewline (fun _ => .plain) (faithful_lexFragment style _)

end Prose

end FixCorpus.Lexer
