import FixCorpus.Proofs.Lexer.Cut
import FixCorpus.Proofs.Token.LineRange

/-! Later lines never change the tokens of earlier ones, be it inside a comment
or a string that nothing closes. Main statement: `lex_of_later_lines`. -/

namespace FixCorpus.Lexer

open Text

theorem reads_lexeme (kind : TokenKind) {cut : List Char → List Char × List Char}
    (stops : StopsAtNewline cut) (a : List Char) : (lexeme kind cut).Reads a :=
  Rule.reads_of_map (lexeme kind cut a) (lexeme_append_newline kind stops a)

theorem reads_name (style : Style) (line : LineContext) (a : List Char) :
    (name style line).Reads a := by
  have kind : ∀ rest b, nameKind style line (rest ++ '\n' :: b) = nameKind style line rest :=
    fun rest b => by rw [nameKind, nameKind, callFollows_append_newline]
  refine Rule.reads_of_map (name style line a) fun b => ?_
  cases style with
  | whole =>
    simp only [name, stopsAtNewline_identifier a b, kind]
    exact lexeme_append_newline _ stopsAtNewline_identifier a b
  | camelCase =>
    simp only [name, stopsAtNewline_camelPiece a b, kind]
    exact lexeme_append_newline _ stopsAtNewline_camelPiece a b

theorem reads_reservedWord (style : Style) (a : List Char) : (reservedWord style).Reads a := by
  refine Rule.reads_of_map (reservedWord style a) fun b => ?_
  simp only [reservedWord, takeWhile_append_newline isIdentifierChar_newline,
    dropWhile_append_newline isIdentifierChar_newline, stopsAtNewline_typeName style _ b]
  split
  · rfl
  · split
    · rfl
    · split
      · rcases a.dropWhile isIdentifierChar with _ | ⟨c, rest⟩
        · rfl
        · by_cases mark : c = '?'
          · subst mark
            rfl
          · simp [mark]
      · rfl

theorem charLiteral_escaped (c : Char) (text : List Char) :
    charLiteral ('\'' :: '\\' :: c :: text) = if c == '\n' then none else
      (stripFront? ['\''] text).map fun rest =>
        ([Token.ofChars .stringChar ['\'', '\\', c, '\'']], rest) := by
  have closed := @stripFront?_eq_some_iff ['\''] text
  unfold charLiteral
  split
  · simp_all [stripFront?]
  · -- the quote behind the backslash is the escaped character
    rename_i inner rest unclosed eq
    obtain ⟨rfl, rfl, rfl⟩ : '\\' = inner ∧ c = '\'' ∧ text = rest := by simpa using eq
    cases stripped : stripFront? ['\''] text with
    | none => rfl
    | some rest => exact absurd (closed.1 stripped) (unclosed rest rfl)
  · cases stripped : stripFront? ['\''] text with
    | none => simp
    | some rest => simp_all

theorem charLiteral_of_ne {c : Char} (no_escape : c ≠ '\\') (text : List Char) :
    charLiteral ('\'' :: c :: text) = if c == '\n' then none else
      (stripFront? ['\''] text).map fun rest =>
        (if isBlank c then [⟨.stringChar, "'"⟩, Token.blank c, ⟨.stringChar, "'"⟩]
          else [Token.ofChars .stringChar ['\'', c, '\'']], rest) := by
  have closed := @stripFront?_eq_some_iff ['\''] text
  unfold charLiteral
  split
  · simp_all
  · rename_i inner rest _ eq
    obtain ⟨rfl, rfl⟩ : c = inner ∧ text = '\'' :: rest := by simpa using eq
    simp only [beq_eq_false_iff_ne.2 no_escape, Bool.false_or, closed.2 rfl, Option.map_some]
    split
    · rfl
    · split <;> rfl
  · cases stripped : stripFront? ['\''] text with
    | none => simp
    | some rest => simp_all

theorem reads_charLiteral (a : List Char) : Rule.Reads charLiteral a := by
  refine Rule.reads_behind_mark ['\''] (by decide) (fun text => charLiteral ('\'' :: text))
    (fun _ => rfl) (fun no_mark => ?_) (fun a => ?_) a
  · unfold charLiteral
    split
    · exact absurd rfl (no_mark _)
    · exact absurd rfl (no_mark _)
    · rfl
  · refine Rule.reads_of_map (charLiteral ('\'' :: a)) fun b => ?_
    have no_newline : '\n' ∉ ['\''] := by decide
    have closes := stripFront?_append_newline no_newline
    rcases a with _ | ⟨c, a⟩
    · exact charLiteral_of_ne (by decide) b
    · by_cases escape : c = '\\'
      · subst escape
        rcases a with _ | ⟨d, a⟩
        · exact charLiteral_escaped '\n' b
        · simp only [List.cons_append, charLiteral_escaped, closes]
          split
          · rfl
          · cases stripFront? ['\''] a <;> rfl
      · simp only [List.cons_append, charLiteral_of_ne escape, closes]
        split
        · rfl
        · cases stripFront? ['\''] a <;> rfl

theorem proseBetween_append_newline (style : Style) (opener : Token) (body : List Char)
    {closer : Token} (free : '\n' ∉ closer.text.toList) (rest b : List Char) :
    proseBetween style opener body closer (rest ++ '\n' :: b) =
      ((proseBetween style opener body closer rest).1,
        (proseBetween style opener body closer rest).2 ++ '\n' :: b) := by
  rw [proseBetween, proseBetween, stripFront?_append_newline free]
  cases stripFront? closer.text.toList rest <;> rfl

theorem reads_proseBetween (style : Style) (opener : Token) {closer : Token}
    (free : '\n' ∉ closer.text.toList) (nonempty : closer.text.toList ≠ [])
    {cut : List Char → List Char × List Char} (runs : RunsOverLines cut) (a : List Char) :
    Rule.Reads (fun text => some (proseBetween style opener (cut text).1 closer (cut text).2))
      a := by
  by_cases all : (cut a).2 = []
  · have no_closer : stripFront? closer.text.toList [] = none := by
      cases front : closer.text.toList with
      | nil => exact absurd front nonempty
      | cons c front => rfl
    refine .runsOn (opener :: Prose.lexFragment style (a ++ ['\n'])) ?_ fun b => ?_
    · rw [runs.2, if_pos all, runs.1, proseBetween, no_closer]
    · obtain ⟨others, same⟩ : Prose.lexFragment style (a ++ ['\n']) <+:
          Prose.lexFragment style (a ++ '\n' :: (cut b).1) := Prose.lexFrom_prefix style false a _
      rw [runs.2, if_pos all, proseBetween]
      dsimp only
      rw [← same]
      split
      · exact ⟨others ++ [closer], _, by rw [List.cons_append, List.cons_append, List.append_assoc]⟩
      · exact ⟨others, _, rfl⟩
  · refine Rule.reads_of_map (some (proseBetween style opener (cut a).1 closer (cut a).2))
      fun b => ?_
    rw [runs.2, if_neg all]
    exact congrArg some (proseBetween_append_newline style opener _ free _ b)

theorem reads_lineComment (style : Style) (a : List Char) : (lineComment style).Reads a := by
  refine Rule.reads_behind_mark ['/', '/'] (by decide) _ (fun _ => rfl) (fun no_mark => ?_)
    (fun a => ?_) a
  · unfold lineComment
    split
    · exact absurd rfl (no_mark _)
    · rfl
  · exact Rule.reads_of_map (some (⟨.commentSingle, "//"⟩ ::
      Prose.lexFragment style (lineBody a).1, (lineBody a).2)) fun b => by
        simp only [List.cons_append, List.nil_append, lineComment, stopsAtNewline_lineBody a b,
          Option.map_some]

theorem reads_blockComment (style : Style) (a : List Char) : (blockComment style).Reads a := by
  refine Rule.reads_behind_mark ['/', '*'] (by decide) _ (fun _ => rfl) (fun no_mark => ?_)
    (reads_proseBetween style _ (by decide) (by decide) runsOverLines_blockBody) a
  unfold blockComment
  split
  · exact absurd rfl (no_mark _)
  · rfl

theorem reads_verbatimString (style : Style) (a : List Char) : (verbatimString style).Reads a := by
  refine Rule.reads_behind_mark ['@', '"'] (by decide) _ (fun _ => rfl) (fun no_mark => ?_)
    (reads_proseBetween style _ (by decide) (by decide) runsOverLines_verbatimBody) a
  unfold verbatimString
  split
  · exact absurd rfl (no_mark _)
  · rfl

theorem reads_quotedString (style : Style) (a : List Char) : (quotedString style).Reads a := by
  refine Rule.reads_behind_mark ['"'] (by decide) _ (fun _ => rfl) (fun no_mark => ?_)
    (fun a => ?_) a
  · unfold quotedString
    split
    · exact absurd rfl (no_mark _)
    · rfl
  · exact Rule.reads_of_map (some (proseBetween style ⟨.string, "\""⟩ (quotedBody a).1
      ⟨.string, "\""⟩ (quotedBody a).2)) fun b => by
        simp only [List.cons_append, List.nil_append, quotedString, stopsAtNewline_quotedBody a b,
          Option.map_some]
        exact congrArg some (proseBetween_append_newline _ _ _ (by decide) _ b)

theorem reads_rules (style : Style) (line : LineContext) (c : Char) (a : List Char) :
    (Rule.first (rules style line)).Reads (c :: a) := by
  refine Rule.reads_first fun rule member => ?_
  simp only [rules, List.mem_cons, List.not_mem_nil, or_false] at member
  rcases member with rfl | rfl | rfl | rfl | rfl | rfl | rfl | rfl | rfl | rfl | rfl | rfl
  · exact reads_blank c a
  · exact reads_lineComment style _
  · exact reads_blockComment style _
  · exact reads_verbatimString style _
  · exact reads_quotedString style _
  · exact reads_charLiteral _
  · exact reads_lexeme _ stopsAtNewline_number _
  · exact reads_lexeme _ stopsAtNewline_directive _
  · exact reads_reservedWord style _
  · exact reads_name style line _
  · exact reads_lexeme _ stopsAtNewline_operator _
  · exact reads_symbol codePunctuation c a

theorem lexFrom_prefix (style : Style) (line : LineContext) (a b : List Char) :
    lexFrom style line (a ++ ['\n']) <+: lexFrom style line (a ++ '\n' :: b) :=
  prefix_of_reads (fun line => Rule.first (rules style line))
    (fun line _ tokens => line.observeAll tokens)
    (fun found => by rw [lexFrom_eq, found]) (fun found => by rw [lexFrom_eq, found])
    (shrinks_rules style) (fun _ b => first_blank_cons _ '\n' b) (reads_rules style) line a b

theorem lexFrom_nil (style : Style) (line : LineContext) : lexFrom style line [] = [] := by
  rw [lexFrom_eq]
  cases found : Rule.first (rules style line) [] with
  | none => rfl
  | some cut => exact absurd (shrinks_rules style line found) (Nat.not_lt_zero _)

theorem lexFrom_prefix_of_complete (style : Style) (line : LineContext) {a : List Char}
    (complete : Complete a) (b : List Char) :
    lexFrom style line a <+: lexFrom style line (a ++ b) := by
  rcases complete.eq_nil_or with rfl | ⟨front, rfl⟩
  · rw [lexFrom_nil]
    exact List.nil_prefix
  · rw [List.append_assoc]
    exact lexFrom_prefix style line front b

/-- The tokens of the first `k` lines. -/
def firstLines (k : Nat) (tokens : List Token) : List Token :=
  tokens.take ((LineIndex.ofTokens tokens).starts.getD k tokens.length)

theorem firstLines_of_lt {k : Nat} {tokens : List Token} (few : newlineCount tokens < k) :
    firstLines k tokens = tokens := by
  have no_start : (LineIndex.ofTokens tokens).starts[k]? = none := by
    rw [List.getElem?_eq_none_iff, LineIndex.length_starts]
    omega
  rw [firstLines, List.getD_eq_getElem?_getD, no_start, Option.getD_none, List.take_length]

theorem length_le_of_newlineCount_eq {a b c d : List Token} (same : a ++ b = c ++ d)
    (ends : EndsLine a) (count : newlineCount a = newlineCount c) : a.length ≤ c.length := by
  refine Nat.le_of_not_lt fun longer => ?_
  obtain ⟨m, rfl, -⟩ := append_of_length_le same.symm (Nat.le_of_lt longer)
  have some_m : m ≠ [] := fun none => by simp [none] at longer
  have more := ends.of_append.newlineCount_pos some_m
  rw [newlineCount_append] at count
  omega

theorem firstLines_append {a : List Token} (ends : EndsLine a) (b : List Token) :
    firstLines (newlineCount a) (a ++ b) = a := by
  have le : newlineCount a ≤ newlineCount (a ++ b) := by
    rw [newlineCount_append]
    exact Nat.le_add_right _ _
  obtain ⟨before, after, parted, start, ends_before, count⟩ := LineIndex.exists_start le
  have length : before.length = a.length := Nat.le_antisymm
    (length_le_of_newlineCount_eq parted.symm ends_before count)
    (length_le_of_newlineCount_eq parted ends count.symm)
  rw [firstLines, List.getD_eq_getElem?_getD, start, Option.getD_some, length, List.take_left]

theorem endsLine_lexFrom (style : Style) (line : LineContext) {text : List Char}
    (complete : Complete text) : EndsLine (lexFrom style line text) := by
  have faithful := faithful_lexFrom style line text
  rw [endsLine_iff_complete faithful.2]
  have spelled : spell (lexFrom style line text) = text := by simpa using faithful.1
  rwa [spelled]

theorem newlineCount_lexFrom_endLines (style : Style) (line : LineContext)
    {ls : List (List Char)} (free : ∀ l ∈ ls, '\n' ∉ l) :
    newlineCount (lexFrom style line (endLines ls)) = ls.length := by
  have faithful := faithful_lexFrom style line (endLines ls)
  have spelled : spell (lexFrom style line (endLines ls)) = endLines ls := by
    simpa using faithful.1
  rw [newlineCount_eq faithful.2, spelled, ← length_lines (complete_endLines ls),
    lines_endLines free]

theorem firstLines_lex (style : Style) (source : String) (k : Nat) :
    firstLines k (lex style source) =
      lexFrom style .lineStart (endLines (((splitLines source).take k).map String.toList)) := by
  have free : ∀ l ∈ source.toList.splitOn '\n', '\n' ∉ l := fun l member newline =>
    (mem_of_mem_splitOn member newline).2 rfl
  have whole : lex style source =
      lexFrom style .lineStart (endLines (source.toList.splitOn '\n')) := by
    rw [lex, endLines_eq_intercalate (List.splitOn_ne_nil _ _), List.intercalate_splitOn]
  have count := fun {ls} => @newlineCount_lexFrom_endLines style .lineStart ls
  rw [whole, splitLines, ← List.map_take, map_toList_map_ofList]
  generalize source.toList.splitOn '\n' = ls at free
  by_cases few : ls.length < k
  · rw [firstLines_of_lt (by rwa [count free]), List.take_of_length_le (Nat.le_of_lt few)]
  · have front_free : ∀ l ∈ ls.take k, '\n' ∉ l := fun l member =>
      free l (List.mem_of_mem_take member)
    have complete := complete_endLines (ls.take k)
    obtain ⟨others, same⟩ :=
      lexFrom_prefix_of_complete style .lineStart complete (endLines (ls.drop k))
    rw [← endLines_append, List.take_append_drop] at same
    have count_front := count front_free
    rw [List.length_take_of_le (Nat.le_of_not_lt few)] at count_front
    have front := firstLines_append (endsLine_lexFrom style .lineStart complete) others
    rwa [count_front, same] at front

theorem lex_of_later_lines (style : Style) :
    (∀ p q : String, lex style p <+: lex style (p ++ "\n" ++ q)) ∧
    ∀ (s t : String) (k : Nat), (splitLines s).take k = (splitLines t).take k →
      firstLines k (lex style s) = firstLines k (lex style t) := by
  refine ⟨fun p q => ?_, fun s t k same => ?_⟩
  · have longer := lexFrom_prefix style .lineStart p.toList (q.toList ++ ['\n'])
    rwa [lex, lex, String.toList_append, String.toList_append, List.append_assoc, List.append_assoc]
  · rw [firstLines_lex, firstLines_lex, same]

/-- A comment, and a verbatim string, that only the one of two sources closes. -/
theorem lex_of_later_lines_unclosed :
    lex .whole "a /* b" <+: lex .whole ("a /* b" ++ "\n" ++ "c */ d") ∧
      firstLines 2 (lex .camelCase "e\nf @\"g\nh") =
        firstLines 2 (lex .camelCase "e\nf @\"g\n\"; h") :=
  ⟨(lex_of_later_lines .whole).1 _ _, (lex_of_later_lines .camelCase).2 _ _ 2 (by decide)⟩

end FixCorpus.Lexer
