import FixCorpus.Lexer.Rule
import FixCorpus.Proofs.Text.Blank
import FixCorpus.Proofs.Token.Spelling

/-! Rules that lose nothing. A rule is faithful if its tokens stand for the piece
that it takes, and if each of them has a certain form. Blanks are left to the
rule for blanks, which comes first in every lexer, so that the other rules are
looked at only where no blank comes next. -/

namespace FixCorpus.Lexer

open Text

/-- The tokens stand for what was taken from the front of the text, and each has the form. -/
def Faithful (form : Token → Prop) (text : List Char) (tokens : List Token) (rest : List Char) :
    Prop :=
  spell tokens ++ rest = text ∧ ∀ t ∈ tokens, form t

def Rule.Faithful (form : Token → Prop) (rule : Rule) : Prop :=
  ∀ ⦃c text tokens rest⦄, isBlank c = false → rule (c :: text) = some (tokens, rest) →
    Lexer.Faithful form (c :: text) tokens rest

variable {form : Token → Prop}

theorem Faithful.mono {other : Token → Prop} (weaker : ∀ t, form t → other t)
    {text rest : List Char} {tokens : List Token} (h : Faithful form text tokens rest) :
    Faithful other text tokens rest :=
  ⟨h.1, fun t member => weaker t (h.2 t member)⟩

theorem Rule.Faithful.mono {other : Token → Prop} (weaker : ∀ t, form t → other t) {rule : Rule}
    (h : rule.Faithful form) : rule.Faithful other :=
  fun _ _ _ _ solid applies => (h solid applies).mono weaker

theorem Rule.faithful_first {rules : List Rule} (h : ∀ rule ∈ rules, rule.Faithful form) :
    (Rule.first rules).Faithful form := by
  intro c text tokens rest solid found
  obtain ⟨rule, member, applies⟩ := List.exists_of_findSome?_eq_some found
  exact h rule member solid applies

theorem first_blank_cons (others : List Rule) (c : Char) (text : List Char) :
    Rule.first (blank isBlank :: others) (c :: text) =
      if isBlank c then some ([Token.blank c], text) else Rule.first others (c :: text) := by
  cases blankness : isBlank c <;> simp [Rule.first, blank, blankness]

theorem faithful_first_blank {others : List Rule} (faithful : (Rule.first others).Faithful form)
    (blanks : ∀ c, isBlank c = true → form (Token.blank c))
    (shrinks : (Rule.first (blank isBlank :: others)).Shrinks)
    {text rest : List Char} {tokens : List Token}
    (found : Rule.first (blank isBlank :: others) text = some (tokens, rest)) :
    Faithful form text tokens rest := by
  cases text with
  | nil => exact absurd (shrinks found) (Nat.not_lt_zero _)
  | cons c text =>
    rw [first_blank_cons] at found
    cases blankness : isBlank c with
    | false =>
      rw [blankness, if_neg Bool.false_ne_true] at found
      exact faithful blankness found
    | true =>
      rw [blankness, if_pos rfl] at found
      cases found
      exact ⟨by simp, by simpa using blanks c blankness⟩

theorem faithful_ofChars {kind : TokenKind} (kind_ne : kind ≠ .whitespace) {piece : List Char}
    (nonempty : piece ≠ []) (solid : Solid piece) (rest : List Char) :
    Faithful Token.Plain (piece ++ rest) [Token.ofChars kind piece] rest := by
  refine ⟨by simp [Token.spelling_ofChars kind_ne], fun t member => ?_⟩
  rw [List.mem_singleton.1 member]
  exact .solid kind_ne nonempty solid

theorem plain_mark (kind : TokenKind) (mark : String) (kind_ne : kind ≠ .whitespace)
    (nonempty : mark.toList ≠ []) (solid : Solid mark.toList) :
    (⟨kind, mark⟩ : Token).Plain := by
  have plain := Token.Plain.solid kind_ne nonempty solid
  rwa [Token.ofChars, String.ofList_toList] at plain

theorem faithful_symbol (marks : String) : (symbol marks).Faithful Token.Plain := by
  intro c text tokens rest solid applies
  simp only [symbol, Option.some.injEq, Prod.mk.injEq] at applies
  obtain ⟨rfl, rfl⟩ := applies
  refine faithful_ofChars ?_ (List.cons_ne_nil _ _) (by simpa using solid) text
  split <;> decide

theorem eq_nil_of_first_eq_none {rules : List Rule} (marks : String)
    (member : symbol marks ∈ rules) {text : List Char} (h : Rule.first rules text = none) :
    text = [] := by
  cases text with
  | nil => rfl
  | cons c text =>
    have refused := List.findSome?_eq_none_iff.1 h (symbol marks) member
    obtain ⟨t, applies⟩ := symbol_cons marks c text
    rw [applies] at refused
    cases refused

theorem Faithful.append {text middle rest : List Char} {tokens others : List Token}
    (h : Faithful form text tokens middle) (next : Faithful form middle others rest) :
    Faithful form text (tokens ++ others) rest := by
  refine ⟨by rw [spell_append, List.append_assoc, next.1, h.1], fun t member => ?_⟩
  rcases List.mem_append.1 member with here | there
  · exact h.2 t here
  · exact next.2 t there

theorem faithful_dropFinalNewline {tokens : List Token} {text : List Char}
    (weaker : ∀ t, form t → t.Lexical)
    (h : Faithful form (text ++ ['\n']) tokens []) :
    Faithful form text (dropFinalNewline tokens) [] := by
  have spelled : spell tokens = text ++ ['\n'] := by simpa using h.1
  rcases List.eq_nil_or_concat tokens with rfl | ⟨front, last, rfl⟩
  · simp at spelled
  · rw [List.concat_eq_append, spell_append, spell_cons, spell_nil, List.append_nil] at spelled
    have lexical := weaker last (h.2 last (by simp))
    obtain ⟨init, final, ends⟩ :=
      (List.eq_nil_or_concat last.spelling).resolve_left lexical.spelling_ne_nil
    rw [ends, List.concat_eq_append, ← List.append_assoc] at spelled
    have newline : final = '\n' := by
      simpa using (List.append_inj_right' spelled rfl)
    have isNewline := lexical.isNewline_of_mem (by simp [ends, newline])
    rw [lexical.spelling_of_isNewline isNewline] at ends
    have alone : init = [] := by
      have := congrArg List.length ends
      simpa using this
    refine ⟨?_, fun t member => h.2 t ?_⟩
    · have kept := List.append_inj_left' spelled rfl
      simpa [dropFinalNewline, isNewline, alone] using kept
    · have member : t ∈ front := by simpa [dropFinalNewline, isNewline] using member
      simp [member]

end FixCorpus.Lexer
