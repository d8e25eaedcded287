import FixCorpus.Proofs.Lexer.Code
import FixCorpus.Proofs.Token.Alias

/-! No token but a name reads like an alias. An alias begins with a letter and
has a hyphen; the other tokens that have a hyphen are operators, numbers and
literals, which begin with no letter. Each rule is looked at once, and a run
has no other tokens than those that its rules make. -/

namespace FixCorpus

/-- The token is a name, or it has no hyphen, or it does not begin as aliases do. -/
def Token.Apart (t : Token) : Prop :=
  t.kind.isIdentifier = true ∨ '-' ∉ t.text.toList ∨ t.text.toList.head? ≠ some 'V'

namespace Token.Apart

theorem text_ne {t : Token} (h : t.Apart) (other : t.kind.isIdentifier = false) (n : Nat) :
    t.text ≠ numberedAlias n := by
  intro same
  rcases h with name | no_hyphen | no_letter
  · rw [other] at name
    cases name
  · exact no_hyphen (by simp [same, numberedAlias])
  · exact no_letter (by simp [same, numberedAlias])

theorem of_free {kind : TokenKind} {text : List Char} (free : '-' ∉ text) :
    (Token.ofChars kind text).Apart :=
  Or.inr (Or.inl (by simpa using free))

theorem of_head {kind : TokenKind} {text : List Char} (other : text.head? ≠ some 'V') :
    (Token.ofChars kind text).Apart :=
  Or.inr (Or.inr (by simpa using other))

theorem mark (kind : TokenKind) (mark : String) (free : '-' ∉ mark.toList) :
    (⟨kind, mark⟩ : Token).Apart :=
  Or.inr (Or.inl free)

theorem singleton (kind : TokenKind) (c : Char) : (Token.ofChars kind [c]).Apart := by
  by_cases letter : c = 'V'
  · exact of_free (by simp [letter])
  · exact of_head (by simpa using letter)

theorem blank (c : Char) : (Token.blank c).Apart := by
  unfold Token.blank Token.blankText
  split
  · exact .mark .whitespace "WHITESPACE" (by decide)
  · split
    · exact .mark .whitespace "NEWLINE" (by decide)
    · split
      · exact .mark .whitespace "TAB" (by decide)
      · exact singleton .whitespace c

end Token.Apart

namespace Lexer

open Text

def Rule.Apart (rule : Rule) : Prop :=
  ∀ ⦃text tokens rest⦄, rule text = some (tokens, rest) → ∀ t ∈ tokens, t.Apart

theorem hyphen_not_mem_takeWhile {p : Char → Bool} (none : p '-' = false) (text : List Char) :
    '-' ∉ text.takeWhile p := by
  intro member
  have holds := List.mem_takeWhile_imp member
  rw [none] at holds
  cases holds

theorem apart_blank : (blank isBlank).Apart := by
  intro text tokens rest applies t member
  cases text with
  | nil => cases applies
  | cons c text =>
    simp only [blank] at applies
    split at applies
    · cases applies
      rw [List.mem_singleton.1 member]
      exact .blank c
    · cases applies

theorem apart_symbol (marks : String) : (symbol marks).Apart := by
  intro text tokens rest applies t member
  cases text with
  | nil => cases applies
  | cons c text =>
    cases applies
    rw [List.mem_singleton.1 member]
    exact .singleton _ c

namespace Prose

theorem apart_quotedName (afterBlank : Bool) : (quotedName afterBlank).Apart := by
  intro text tokens rest applies
  unfold quotedName at applies
  split at applies
  · dsimp only at applies
    split at applies
    · split at applies
      · cases applies
        have quotes : quote.Apart := .mark .punctuation "'" (by decide)
        simp only [List.mem_cons, List.not_mem_nil, or_false, forall_eq_or_imp, forall_eq]
        exact ⟨quotes, Or.inl rfl, quotes⟩
      · cases applies
    · cases applies
  · cases applies

theorem hyphen_not_mem_wordEnding (text : List Char) : '-' ∉ (wordEnding text).1 := by
  unfold wordEnding
  split
  · split
    · simp
    · simpa using hyphen_not_mem_takeWhile (p := isWordChar) (by decide +kernel) _
  · simp

theorem apart_word : Rule.Apart word := by
  intro text tokens rest applies t member
  simp only [word] at applies
  split at applies
  · cases applies
  · cases applies
    rw [List.mem_singleton.1 member]
    refine .of_free fun hyphen => ?_
    rcases List.mem_append.1 hyphen with run | ending
    · exact hyphen_not_mem_takeWhile (by decide +kernel) _ run
    · exact hyphen_not_mem_wordEnding _ ending

theorem apart_camelPiece : Rule.Apart camelPiece := by
  intro text tokens rest applies t member
  simp only [camelPiece] at applies
  split at applies
  · cases applies
    rw [List.mem_singleton.1 member]
    exact Or.inl rfl
  · cases applies

theorem apart_apostrophe : Rule.Apart apostrophe := by
  intro text tokens rest applies t member
  unfold apostrophe at applies
  split at applies
  · cases applies
    rw [List.mem_singleton.1 member]
    exact .singleton .punctuation '\''
  · cases applies

theorem apart_digit : Rule.Apart digit := by
  intro text tokens rest applies t member
  unfold digit at applies
  split at applies
  · split at applies
    · cases applies
      rw [List.mem_singleton.1 member]
      exact .singleton .number _
    · cases applies
  · cases applies

theorem apart_rules (style : Style) (afterBlank : Bool) :
    ∀ rule ∈ rules style afterBlank, rule.Apart := by
  cases style with
  | whole =>
    simp only [rules, List.mem_cons, List.not_mem_nil, or_false, forall_eq_or_imp, forall_eq]
    exact ⟨apart_blank, apart_quotedName afterBlank, apart_word, apart_symbol punctuation⟩
  | camelCase =>
    simp only [rules, List.mem_cons, List.not_mem_nil, or_false, forall_eq_or_imp, forall_eq]
    exact ⟨apart_blank, apart_camelPiece, apart_digit, apart_apostrophe,
      apart_symbol punctuation⟩

theorem apart_lexFrom (style : Style) (afterBlank : Bool) (text : List Char) :
    ∀ t ∈ lexFrom style afterBlank text, t.Apart := by
  refine lexFrom_induction (motive := fun _ tokens => ∀ t ∈ tokens, t.Apart) (by simp)
    (fun found others => ?_) afterBlank text
  obtain ⟨rule, listed, applies⟩ := List.exists_of_findSome?_eq_some found
  exact List.forall_mem_append.2 ⟨apart_rules style _ rule listed applies, others⟩

end Prose

theorem apart_proseBetween (style : Style) {opener closer : Token} (opens : opener.Apart)
    (closes : closer.Apart) (body rest : List Char) :
    ∀ t ∈ (proseBetween style opener body closer rest).1, t.Apart := by
  have inside := Prose.apart_lexFrom style false body
  unfold proseBetween
  split
  · exact List.forall_mem_append.2 ⟨List.forall_mem_cons.2 ⟨opens, inside⟩, by simpa using closes⟩
  · exact List.forall_mem_cons.2 ⟨opens, inside⟩

theorem apart_lineComment (style : Style) : (lineComment style).Apart := by
  intro text tokens rest applies
  unfold lineComment at applies
  split at applies
  · cases applies
    exact List.forall_mem_cons.2
      ⟨.mark .commentSingle "//" (by decide), Prose.apart_lexFrom style false _⟩
  · cases applies

theorem apart_blockComment (style : Style) : (blockComment style).Apart := by
  intro text tokens rest applies
  unfold blockComment at applies
  split at applies
  · rename_i body
    have between := apart_proseBetween style (.mark .commentMultiline "/*" (by decide))
      (.mark .commentMultiline "*/" (by decide)) (blockBody body).1 (blockBody body).2
    rwa [Option.some.inj applies] at between
  · cases applies

theorem apart_verbatimString (style : Style) : (verbatimString style).Apart := by
  intro text tokens rest applies
  unfold verbatimString at applies
  split at applies
  · rename_i body
    have between := apart_proseBetween style (.mark .string "@\"" (by decide))
      (.mark .string "\"" (by decide)) (verbatimBody body).1 (verbatimBody body).2
    rwa [Option.some.inj applies] at between
  · cases applies

theorem apart_quotedString (style : Style) : (quotedString style).Apart := by
  intro text tokens rest applies
  unfold quotedString at applies
  split at applies
  · rename_i body
    have quote := Token.Apart.mark .string "\"" (by decide)
    have between := apart_proseBetween style quote quote (quotedBody body).1 (quotedBody body).2
    rwa [Option.some.inj applies] at between
  · cases applies

theorem apart_charLiteral : Rule.Apart charLiteral := by
  intro text tokens rest applies
  unfold charLiteral at applies
  split at applies
  · split at applies
    · cases applies
    · cases applies
      exact List.forall_mem_singleton.2 (.of_head (by simp))
  · split at applies
    · cases applies
    · split at applies
      · cases applies
        have quote := Token.Apart.mark .stringChar "'" (by decide)
        exact List.forall_mem_cons.2 ⟨quote, List.forall_mem_cons.2
          ⟨.blank _, List.forall_mem_singleton.2 quote⟩⟩
      · cases applies
        exact List.forall_mem_singleton.2 (.of_head (by simp))
  · cases applies

theorem apart_lexeme {kind : TokenKind} {cut : List Char → List Char × List Char}
    (piece : ∀ text, (Token.ofChars kind (cut text).1).Apart) : (lexeme kind cut).Apart := by
  intro text tokens rest applies
  have apart := piece text
  unfold lexeme at applies
  split at applies
  · cases applies
  · rename_i eq
    cases applies
    rw [eq] at apart
    exact List.forall_mem_singleton.2 apart

theorem head?_number_ne (text : List Char) : (number text).1.head? ≠ some 'V' := by
  unfold number
  split
  · split
    · rename_i digit
      rintro ⟨⟩
      cases digit
    · simp
  · simp

theorem head?_directive_ne (text : List Char) : (directive text).1.head? ≠ some 'V' := by
  unfold directive
  split
  · split
    · simp
    · simp
  · simp

theorem head?_operator_ne (text : List Char) : (operator text).1.head? ≠ some 'V' := by
  rcases operator_cases text with nothing | ⟨w, listed, taken⟩
  · simp [nothing]
  · have heads : ∀ w ∈ operators, w.toList.head? ≠ some 'V' := by decide +kernel
    rw [taken]
    exact heads w listed

theorem apart_typeName (style : Style) (text : List Char) :
    ∀ t ∈ (typeName style text).1, t.Apart := by
  have gap : ∀ blanks : List Char, ∀ t ∈ blanks.map Token.blank, t.Apart := by
    intro blanks t member
    obtain ⟨c, -, rfl⟩ := List.mem_map.1 member
    exact .blank c
  unfold typeName
  dsimp only
  split
  · split
    · rename_i found
      exact List.forall_mem_append.2 ⟨gap _, apart_lexeme (fun _ => Or.inl rfl) found⟩
    · exact gap _
  · refine List.forall_mem_append.2 ⟨gap _, fun t member => ?_⟩
    obtain ⟨piece, -, rfl⟩ := List.mem_map.1 member
    exact Or.inl rfl

theorem apart_reservedWord (style : Style) : (reservedWord style).Apart := by
  intro text tokens rest applies
  have free : '-' ∉ text.takeWhile isIdentifierChar := hyphen_not_mem_takeWhile (by decide) text
  unfold reservedWord at applies
  dsimp only at applies
  split at applies
  · cases applies
    exact List.forall_mem_cons.2 ⟨.of_free free, apart_typeName style _⟩
  · split at applies
    · cases applies
      exact List.forall_mem_singleton.2 (.of_free free)
    · split at applies
      · split at applies
        · cases applies
          exact List.forall_mem_singleton.2 (.of_free (by simpa using free))
        · cases applies
          exact List.forall_mem_singleton.2 (.of_free free)
      · cases applies

theorem isIdentifier_nameKind (style : Style) (line : LineContext) (rest : List Char) :
    (nameKind style line rest).isIdentifier = true := by
  unfold nameKind
  split
  · rfl
  · split <;> rfl

theorem apart_name (style : Style) (line : LineContext) : (name style line).Apart := by
  intro text tokens rest applies
  unfold name at applies
  exact apart_lexeme (fun _ => Or.inl (isIdentifier_nameKind style line _)) applies

theorem apart_rules (style : Style) (line : LineContext) :
    ∀ rule ∈ rules style line, rule.Apart := by
  simp only [rules, List.mem_cons, List.not_mem_nil, or_false, forall_eq_or_imp, forall_eq]
  exact ⟨apart_blank, apart_lineComment style, apart_blockComment style,
    apart_verbatimString style, apart_quotedString style, apart_charLiteral,
    apart_lexeme fun text => .of_head (head?_number_ne text),
    apart_lexeme fun text => .of_head (head?_directive_ne text), apart_reservedWord style,
    apart_name style line, apart_lexeme fun text => .of_head (head?_operator_ne text),
    apart_symbol codePunctuation⟩

theorem apart_lexFrom (style : Style) (line : LineContext) (text : List Char) :
    ∀ t ∈ lexFrom style line text, t.Apart := by
  refine lexFrom_induction (motive := fun _ tokens => ∀ t ∈ tokens, t.Apart) (by simp)
    (fun found others => ?_) line text
  obtain ⟨rule, listed, applies⟩ := List.exists_of_findSome?_eq_some found
  exact List.forall_mem_append.2 ⟨apart_rules style _ rule listed applies, others⟩

theorem dropFinalNewline_subset (tokens : List Token) : dropFinalNewline tokens ⊆ tokens := by
  unfold dropFinalNewline
  split
  · exact (List.dropLast_sublist tokens).subset
  · exact List.Subset.refl tokens

theorem apart_tokenize (style : Style) (source : String) :
    ∀ t ∈ tokenize style source, t.Apart := fun t member =>
  apart_lexFrom style .lineStart _ t (dropFinalNewline_subset _ member)

theorem Prose.apart_tokenize (style : Style) (text : String) :
    ∀ t ∈ Prose.tokenize style text, t.Apart := fun t member =>
  apart_lexFrom style false _ t (dropFinalNewline_subset _ member)

end Lexer

end FixCorpus
