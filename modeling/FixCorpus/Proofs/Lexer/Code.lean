import FixCorpus.Lexer.Code
import FixCorpus.Proofs.Lexer.Prose

/-! The lexer of code loses nothing: its tokens stand for the text. A token is a
blank or a piece without a blank, with one exception: a blank that is escaped in
a character literal stays inside the literal. -/

namespace FixCorpus.Lexer

open Text

theorem faithful_proseBetween (style : Style) {opener closer : Token} (opens : opener.Plain)
    (closes : closer.Plain) (opener_kind : opener.kind ≠ .whitespace)
    (closer_kind : closer.kind ≠ .whitespace) {cut : List Char → List Char × List Char}
    (append : ∀ text, (cut text).1 ++ (cut text).2 = text) (text : List Char) :
    Faithful Token.Plain (opener.text.toList ++ text)
      (proseBetween style opener (cut text).1 closer (cut text).2).1
      (proseBetween style opener (cut text).1 closer (cut text).2).2 := by
  have prose := Prose.faithful_lexFragment style (cut text).1
  have spelled : spell (Prose.lexFragment style (cut text).1) = (cut text).1 := by
    simpa using prose.1
  have whole := append text
  unfold proseBetween
  split
  · rename_i behind found
    rw [stripFront?_eq_some_iff] at found
    rw [found] at whole
    refine ⟨?_, fun t member => ?_⟩
    · simp [Token.spelling_of_kind_ne opener_kind, Token.spelling_of_kind_ne closer_kind,
        spelled, whole]
    · simp only [List.mem_append, List.mem_cons, List.not_mem_nil, or_false] at member
      rcases member with (rfl | inside) | rfl
      · exact opens
      · exact prose.2 t inside
      · exact closes
  · refine ⟨?_, fun t member => ?_⟩
    · simp [Token.spelling_of_kind_ne opener_kind, spelled, whole]
    · rcases List.mem_cons.1 member with rfl | inside
      · exact opens
      · exact prose.2 t inside

theorem faithful_lineComment (style : Style) : (lineComment style).Faithful Token.Plain := by
  intro c text tokens rest solid applies
  unfold lineComment at applies
  split at applies
  · rename_i body eq
    cases eq
    have opener := plain_mark .commentSingle "//" (by decide) (by decide)
      (by decide)
    have prose := Prose.faithful_lexFragment style (lineBody body).1
    have spelled : spell (Prose.lexFragment style (lineBody body).1) = (lineBody body).1 := by
      simpa using prose.1
    have whole := lineBody_append body
    dsimp only at applies
    rw [Option.some.injEq, Prod.mk.injEq] at applies
    obtain ⟨rfl, rfl⟩ := applies
    refine ⟨?_, fun t member => ?_⟩
    · rw [spell_cons, spelled, List.append_assoc, whole]
      rfl
    · rcases List.mem_cons.1 member with rfl | inside
      · exact opener
      · exact prose.2 t inside
  · cases applies

theorem faithful_blockComment (style : Style) : (blockComment style).Faithful Token.Plain := by
  intro c text tokens rest solid applies
  unfold blockComment at applies
  split at applies
  · rename_i body eq
    cases eq
    have faithful := faithful_proseBetween style
      (plain_mark .commentMultiline "/*" (by decide) (by decide) (by decide))
      (plain_mark .commentMultiline "*/" (by decide) (by decide) (by decide))
      (by decide) (by decide) blockBody_append body
    rwa [Option.some.inj applies] at faithful
  · cases applies

theorem faithful_verbatimString (style : Style) :
    (verbatimString style).Faithful Token.Plain := by
  intro c text tokens rest solid applies
  unfold verbatimString at applies
  split at applies
  · rename_i body eq
    cases eq
    have faithful := faithful_proseBetween style
      (plain_mark .string "@\"" (by decide) (by decide) (by decide))
      (plain_mark .string "\"" (by decide) (by decide) (by decide))
      (by decide) (by decide) verbatimBody_append body
    rwa [Option.some.inj applies] at faithful
  · cases applies

theorem faithful_quotedString (style : Style) : (quotedString style).Faithful Token.Plain := by
  intro c text tokens rest solid applies
  unfold quotedString at applies
  split at applies
  · rename_i body eq
    rw [eq]
    have mark := plain_mark .string "\"" (by decide) (by decide) (by decide)
    have faithful := faithful_proseBetween style mark mark (by decide) (by decide)
      quotedBody_append body
    rwa [Option.some.inj applies] at faithful
  · cases applies

theorem faithful_charLiteral : Rule.Faithful Token.Lexical charLiteral := by
  -- The only rule by which a blank gets into a token with other characters.
  intro c text tokens rest solid applies
  unfold charLiteral at applies
  split at applies
  · rename_i escaped behind eq
    cases eq
    split at applies
    · cases applies
    · rename_i ne_newline
      cases applies
      cases blankness : isBlank escaped with
      | true =>
        refine ⟨by simp [Token.spelling_ofChars], fun t member => ?_⟩
        rw [List.mem_singleton.1 member]
        exact .escaped blankness (by simpa using ne_newline)
      | false =>
        have inside : Solid ['\'', '\\', escaped, '\''] := by
          simp only [solid_cons]
          exact ⟨by decide, by decide, blankness, by decide⟩
        exact (faithful_ofChars (by decide) (List.cons_ne_nil _ _) inside rest).mono fun _ => .plain
  · rename_i inner behind _ eq
    cases eq
    split at applies
    · cases applies
    · split at applies
      · rename_i blankness
        cases applies
        have quote : (⟨.stringChar, "'"⟩ : Token).Plain :=
          plain_mark .stringChar "'" (by decide) (by decide) (by decide)
        refine ⟨?_, ?_⟩
        · rw [spell_cons, spell_cons, spell_cons, Token.spelling_blank]
          rfl
        · simp only [List.mem_cons, List.not_mem_nil, or_false, forall_eq_or_imp, forall_eq]
          exact ⟨.plain quote, .plain (.blank blankness), .plain quote⟩
      · rename_i blankness
        cases applies
        have inside : Solid ['\'', inner, '\''] := by
          simp only [solid_cons]
          exact ⟨by decide, by simpa using blankness, by decide⟩
        exact (faithful_ofChars (by decide) (List.cons_ne_nil _ _) inside rest).mono fun _ => .plain
  · cases applies

theorem faithful_lexeme {kind : TokenKind} (kind_ne : kind ≠ .whitespace)
    {cut : List Char → List Char × List Char}
    (append : ∀ text, (cut text).1 ++ (cut text).2 = text)
    (solid : ∀ text, Solid (cut text).1) {text rest : List Char}
    {tokens : List Token} (applies : lexeme kind cut text = some (tokens, rest)) :
    Faithful Token.Plain text tokens rest := by
  have whole := append text
  have inside := solid text
  unfold lexeme at applies
  split at applies
  · cases applies
  · rename_i c piece behind eq
    cases applies
    rw [eq] at whole inside
    have faithful := faithful_ofChars kind_ne (List.cons_ne_nil c piece) inside rest
    rwa [whole] at faithful

theorem solid_fraction (text : List Char) : Solid (fraction text).1 := by
  unfold fraction
  split
  · exact solid_cons.2 ⟨by decide, solid_takeWhile isBlank_of_isDigit _⟩
  · exact solid_nil

theorem solid_exponent (text : List Char) : Solid (exponent text).1 := by
  unfold exponent
  split
  · split
    · rename_i marks
      simp only [Bool.and_eq_true, Bool.or_eq_true, beq_iff_eq] at marks
      have digits := solid_takeWhile isBlank_of_isDigit
      refine solid_cons.2 ⟨?_, solid_cons.2 ⟨?_, digits _⟩⟩
      · rcases marks.1.1 with rfl | rfl <;> decide
      · rcases marks.1.2 with rfl | rfl <;> decide
    · exact solid_nil
  · exact solid_nil

theorem solid_numberSuffix (text : List Char) : Solid (numberSuffix text).1 := by
  unfold numberSuffix
  split
  · split
    · rename_i suffix
      have letters : Solid "flFLdD".toList := by decide
      exact solid_cons.2 ⟨letters _ (List.contains_iff_mem.1 suffix), solid_nil⟩
    · exact solid_nil
  · exact solid_nil

theorem solid_number (text : List Char) : Solid (number text).1 := by
  unfold number
  split
  · split
    · rename_i digit
      simp only [solid_cons, solid_append]
      exact ⟨isBlank_of_isDigit digit, ⟨solid_fraction _, solid_exponent _⟩, solid_numberSuffix _⟩
    · exact solid_nil
  · exact solid_nil

theorem solid_identifier (text : List Char) : Solid (identifier text).1 := by
  unfold identifier
  split
  rename_i sign name eq
  have front : Solid sign := by
    split at eq <;> cases eq
    · decide
    · exact solid_nil
  split
  · exact solid_append.2 ⟨front, solid_takeWhile isBlank_of_isIdentifierChar _⟩
  · exact solid_nil

theorem solid_take {words : List String} (solid : ∀ w ∈ words, Solid w.toList)
    {w : String} (member : w ∈ words) {text : List Char} (front : w.toList <+: text) :
    Solid (text.take w.length) := by
  rw [← String.length_toList, ← List.prefix_iff_eq_take.1 front]
  exact solid w member

theorem solid_directive (text : List Char) : Solid (directive text).1 := by
  unfold directive
  split
  · rename_i text
    split
    · rename_i w found
      have applies := List.find?_some found
      obtain ⟨behind, front⟩ : ∃ behind, text = w.toList ++ behind := by
        cases stripped : stripFront? w.toList text with
        | none => simp [stripped] at applies
        | some behind => exact ⟨behind, stripFront?_eq_some_iff.1 stripped⟩
      have words : ∀ w ∈ directiveWords, Solid w.toList := by decide +kernel
      exact solid_cons.2 ⟨by decide,
        solid_take words (List.mem_of_find?_eq_some found) ⟨behind, front.symm⟩⟩
    · exact solid_nil
  · exact solid_nil

theorem operator_cases (text : List Char) :
    (operator text).1 = [] ∨ ∃ w ∈ operators, (operator text).1 = w.toList := by
  unfold operator
  split
  · rename_i w found
    have applies := List.find?_some found
    have front := List.isPrefixOf_iff_prefix.1 applies
    refine .inr ⟨w, List.mem_of_find?_eq_some found, ?_⟩
    rw [← String.length_toList, ← List.prefix_iff_eq_take.1 front]
  · exact .inl rfl

theorem solid_operator (text : List Char) : Solid (operator text).1 := by
  rcases operator_cases text with nothing | ⟨w, listed, taken⟩
  · rw [nothing]
    exact solid_nil
  · have words : ∀ w ∈ operators, Solid w.toList := by decide +kernel
    rw [taken]
    exact words w listed

theorem faithful_camelPieces {kind : TokenKind} (kind_ne : kind ≠ .whitespace)
    (text : List Char) :
    Faithful Token.Plain text ((camelPieces text).1.map (Token.ofChars kind))
      (camelPieces text).2 := by
  fun_induction camelPieces text with
  | case1 text n positive pieces rest eq ih =>
    rw [eq] at ih
    exact (faithful_takeCamelPiece kind_ne positive).append ih
  | case2 text => exact ⟨rfl, by simp⟩

theorem faithful_typeName (style : Style) (text : List Char) :
    Faithful Token.Plain text (typeName style text).1 (typeName style text).2 := by
  have gap : Faithful Token.Plain text
      ((text.takeWhile fun c => isBlank c && c != '\n').map Token.blank)
      (text.dropWhile fun c => isBlank c && c != '\n') := by
    refine ⟨by rw [spell_map_blank, List.takeWhile_append_dropWhile], fun t member => ?_⟩
    obtain ⟨c, inside, rfl⟩ := List.mem_map.1 member
    have blank := List.mem_takeWhile_imp inside
    rw [Bool.and_eq_true] at blank
    exact .blank blank.1
  unfold typeName
  dsimp only
  split
  · split
    · rename_i found
      exact gap.append (faithful_lexeme (by decide) identifier_append
        solid_identifier found)
    · exact gap
  · exact gap.append (faithful_camelPieces (by decide) _)

theorem faithful_reservedWord (style : Style) : (reservedWord style).Faithful Token.Plain := by
  intro c text tokens rest solid applies
  have whole : (c :: text).takeWhile isIdentifierChar ++ (c :: text).dropWhile isIdentifierChar =
      c :: text := List.takeWhile_append_dropWhile
  have run : ∀ {kind : TokenKind}, kind ≠ .whitespace →
      (c :: text).takeWhile isIdentifierChar ≠ [] → Faithful Token.Plain (c :: text)
        [Token.ofChars kind ((c :: text).takeWhile isIdentifierChar)]
        ((c :: text).dropWhile isIdentifierChar) := by
    intro kind kind_ne nonempty
    have faithful := faithful_ofChars kind_ne nonempty
      (solid_takeWhile isBlank_of_isIdentifierChar _) ((c :: text).dropWhile isIdentifierChar)
    rwa [whole] at faithful
  unfold reservedWord at applies
  dsimp only at applies
  split at applies
  · rename_i declares
    cases applies
    exact (run (by decide) declares.1).append (faithful_typeName style _)
  · split at applies
    · rename_i isKeyword
      cases applies
      exact run (by decide) isKeyword.1
    · split at applies
      · rename_i namesType
        -- The question mark behind a word that names a type belongs to the token.
        split at applies
        · rename_i behind eq
          cases applies
          have inside : Solid ((c :: text).takeWhile isIdentifierChar ++ ['?']) :=
            solid_append.2 ⟨solid_takeWhile isBlank_of_isIdentifierChar _, by decide⟩
          have faithful := faithful_ofChars (show TokenKind.keywordType ≠ .whitespace by decide)
            (List.append_ne_nil_of_left_ne_nil namesType.1 ['?']) inside rest
          rw [List.append_assoc, List.singleton_append, ← eq, whole] at faithful
          exact faithful
        · cases applies
          exact run (by decide) namesType.1
      · cases applies

theorem nameKind_ne (style : Style) (line : LineContext) (rest : List Char) :
    nameKind style line rest ≠ .whitespace := by
  unfold nameKind
  split
  · decide
  · split <;> decide

theorem faithful_name (style : Style) (line : LineContext) :
    (name style line).Faithful Token.Plain := by
  intro c text tokens rest solid applies
  unfold name at applies
  cases style with
  | whole =>
    exact faithful_lexeme (nameKind_ne _ _ _) identifier_append solid_identifier applies
  | camelCase =>
    refine faithful_lexeme (nameKind_ne _ _ _) (fun text => by simp [List.splitAt_eq])
      (fun text => ?_) applies
    simp only [List.splitAt_eq]
    exact solid_takeCamelPiece text

theorem faithful_rules (style : Style) (line : LineContext) {text rest : List Char}
    {tokens : List Token} (found : Rule.first (rules style line) text = some (tokens, rest)) :
    Faithful Token.Lexical text tokens rest := by
  refine faithful_first_blank (Rule.faithful_first fun rule member => ?_)
    (fun c blank => .plain (.blank blank)) (shrinks_rules style line) found
  have plain : ∀ {rule : Rule}, rule.Faithful Token.Plain → rule.Faithful Token.Lexical :=
    Rule.Faithful.mono fun _ => .plain
  simp only [List.mem_cons, List.not_mem_nil, or_false] at member
  rcases member with rfl | rfl | rfl | rfl | rfl | rfl | rfl | rfl | rfl | rfl | rfl
  · exact plain (faithful_lineComment style)
  · exact plain (faithful_blockComment style)
  · exact plain (faithful_verbatimString style)
  · exact plain (faithful_quotedString style)
  · exact faithful_charLiteral
  · exact plain fun _ _ _ _ _ => faithful_lexeme (by decide) number_append solid_number
  · exact plain fun _ _ _ _ _ => faithful_lexeme (by decide) directive_append solid_directive
  · exact plain (faithful_reservedWord style)
  · exact plain (faithful_name style line)
  · exact plain fun _ _ _ _ _ => faithful_lexeme (by decide) operator_append solid_operator
  · exact plain (faithful_symbol codePunctuation)

theorem lexFrom_induction {style : Style} {motive : List Char → List Token → Prop}
    (nothing : motive [] [])
    (step : ∀ {line text tokens rest others},
      Rule.first (rules style line) text = some (tokens, rest) → motive rest others →
        motive text (tokens ++ others))
    (line : LineContext) (text : List Char) : motive text (lexFrom style line text) := by
  induction length : text.length using Nat.strongRecOn generalizing line text with
  | ind n ih =>
    rw [lexFrom_eq]
    cases found : Rule.first (rules style line) text with
    | none =>
      rw [eq_nil_of_first_eq_none codePunctuation (by simp [rules]) found]
      exact nothing
    | some cut =>
      obtain ⟨tokens, rest⟩ := cut
      have shorter := shrinks_rules style line found
      exact step found (ih rest.length (length ▸ shorter) (line.observeAll tokens) rest rfl)

theorem faithful_lexFrom (style : Style) (line : LineContext) (text : List Char) :
    Faithful Token.Lexical text (lexFrom style line text) [] := by
  -- Each step takes a piece of the text, so the tokens of all steps stand for all of it.
  refine lexFrom_induction (motive := fun text tokens => Faithful Token.Lexical text tokens [])
    ⟨rfl, by simp⟩ (fun found others => ?_) line text
  exact (faithful_rules style _ found).append others

theorem faithful_lex (style : Style) (source : String) :
    Faithful Token.Lexical (source.toList ++ ['\n']) (lex style source) [] :=
  faithful_lexFrom style .lineStart _

theorem faithful_tokenize (style : Style) (source : String) :
    Faithful Token.Lexical source.toList (tokenize style source) [] :=
  faithful_dropFinalNewline (fun _ => id) (faithful_lex style source)

@[simp] theorem spell_tokenize (style : Style) (source : String) :
    spell (tokenize style source) = source.toList := by
  simpa using (faithful_tokenize style source).1

theorem lexical_tokenize {style : Style} {source : String} {t : Token}
    (member : t ∈ tokenize style source) : t.Lexical :=
  (faithful_tokenize style source).2 t member

theorem newlineCount_tokenize (style : Style) (source : String) :
    newlineCount (tokenize style source) = countNewlines source := by
  rw [newlineCount_eq fun t => lexical_tokenize, spell_tokenize]
  rfl

end FixCorpus.Lexer
