import FixCorpus.Proofs.Lexer.CamelCase
import FixCorpus.Tokenization

/-! Hexadecimal literals. The rule for numbers takes the zero in front and stops, so
that what stands behind it is read as a name: `tokenize_hexLiteral` says this of
every such literal, and that the name is one that gets an alias. -/

namespace FixCorpus.Lexer

open Text

def isHexDigit (c : Char) : Bool :=
  "0123456789abcdefABCDEF".toList.contains c

/-- A zero and an `x`, hexadecimal digits, and perhaps a letter that makes the number long. -/
inductive HexLiteral : List Char → Prop where
  | mk {mark : Char} {digits suffix : List Char} (marked : mark = 'x' ∨ mark = 'X')
      (nonempty : digits ≠ []) (hexadecimal : ∀ c ∈ digits, isHexDigit c = true)
      (long : suffix = [] ∨ suffix = ['L'] ∨ suffix = ['l']) :
      HexLiteral ('0' :: mark :: (digits ++ suffix))

theorem isIdentifierChar_of_isHexDigit {c : Char} (hex : isHexDigit c = true) :
    isIdentifierChar c = true := by
  have all : ∀ c ∈ "0123456789abcdefABCDEF".toList, isIdentifierChar c = true :=
    List.all_eq_true.1 (by decide +kernel)
  exact all c (List.contains_iff_mem.1 hex)

theorem HexLiteral.exists_word {literal : List Char} (h : HexLiteral literal) :
    ∃ mark word, literal = '0' :: mark :: word ∧ (mark = 'x' ∨ mark = 'X') ∧
      ∀ c ∈ word, isIdentifierChar c = true := by
  obtain ⟨marked, -, hexadecimal, long⟩ := h
  refine ⟨_, _, rfl, marked, fun c member => ?_⟩
  rcases List.mem_append.1 member with digit | suffix
  · exact isIdentifierChar_of_isHexDigit (hexadecimal c digit)
  · rcases long with rfl | rfl | rfl
    · cases suffix
    · rw [List.mem_singleton.1 suffix]
      rfl
    · rw [List.mem_singleton.1 suffix]
      rfl

theorem number_of_mark {mark : Char} (marked : mark = 'x' ∨ mark = 'X') (text : List Char) :
    number ('0' :: mark :: text) = (['0'], mark :: text) := by
  rcases marked with rfl | rfl <;> cases text <;> rfl

theorem reservedWord_of_mark {mark : Char} (marked : mark = 'x' ∨ mark = 'X') (style : Style)
    (text : List Char) : reservedWord style (mark :: text) = none := by
  have heads : ∀ w ∈ declarationKeywords ++ keywords ++ typeKeywords,
      w.toList.head? ≠ some 'x' ∧ w.toList.head? ≠ some 'X' := by decide +kernel
  have inside : isIdentifierChar mark = true := by
    rcases marked with rfl | rfl <;> rfl
  have outside : String.ofList (mark :: text.takeWhile isIdentifierChar) ∉
      declarationKeywords ++ keywords ++ typeKeywords := by
    intro member
    have head := heads _ member
    rcases marked with rfl | rfl <;> simp at head
  simp only [List.mem_append, not_or] at outside
  simp only [reservedWord, List.takeWhile_cons_of_pos inside, outside.1.1, outside.1.2, outside.2,
    and_false, if_false]

theorem name_of_word {c : Char} (letter : c.isAlpha = true) {word behind : List Char}
    (inside : ∀ d ∈ word, isIdentifierChar d = true)
    (ends : behind.head?.any isIdentifierChar = false) (style : Style) (line : LineContext)
    (outside : line.inAttribute = false) (shape : line.shape = .other) :
    ∃ piece rest, c :: word = piece ++ rest ∧ piece ≠ [] ∧ (style = .whole → rest = []) ∧
      name style line (c :: (word ++ behind)) =
        some ([Token.ofChars .name piece], rest ++ behind) := by
  have kind : ∀ text, nameKind style line text = .name := fun text => by
    simp [nameKind, outside, shape]
  have word_inside : ∀ d ∈ c :: word, isIdentifierChar d = true :=
    List.forall_mem_cons.2 ⟨by simp [isIdentifierChar, letter], inside⟩
  cases style with
  | whole =>
    have no_sign : c ≠ '@' := ne_of_isIdentifierChar (word_inside c List.mem_cons_self) rfl
    have cut : identifier (c :: (word ++ behind)) = (c :: word, behind) := by
      rw [identifier_cons_of_ne no_sign, if_pos (by simp [isIdentifierChar, letter,
        isDigit_of_isAlpha letter]), ← List.cons_append, takeWhile_append_of_stop word_inside ends,
        dropWhile_append_of_stop word_inside ends]
    refine ⟨c :: word, [], by simp, List.cons_ne_nil _ _, fun _ => rfl, ?_⟩
    simp only [name, lexeme, cut, kind, List.nil_append]
  | camelCase =>
    obtain ⟨piece, others, same, cut⟩ := exists_camelPiece letter (word ++ behind)
    -- the piece is made of letters, so it does not reach behind the word
    obtain ⟨rest, parted, rfl⟩ : ∃ rest, c :: word = piece ++ rest ∧ others = rest ++ behind := by
      rw [← List.cons_append] at same
      rcases List.append_eq_append_iff.1 same with ⟨more, longer, here⟩ | ⟨rest, parted, left⟩
      · cases more with
        | nil => exact ⟨[], by simpa using longer.symm, by simpa using here.symm⟩
        | cons d more =>
          have alpha := cut.isAlpha d (by simp [longer])
          rw [here] at ends
          simp [isIdentifierChar, alpha] at ends
      · exact ⟨rest, parted, left⟩
    obtain ⟨first, front, rfl⟩ := List.exists_cons_of_ne_nil cut.ne_nil
    refine ⟨first :: front, rest, parted, List.cons_ne_nil _ _,
      fun whole => absurd whole (by decide), ?_⟩
    simp only [name, lexeme, same, List.splitAt_eq, cut.length_eq, List.take_left, List.drop_left,
      kind]

theorem dropFinalNewline_cons {t : Token} (inside : t.isNewline = false) (tokens : List Token) :
    dropFinalNewline (t :: tokens) = t :: dropFinalNewline tokens := by
  cases tokens with
  | nil => simp [dropFinalNewline, inside]
  | cons u tokens =>
    simp only [dropFinalNewline, List.getLast?_cons_cons, List.dropLast_cons_cons]
    split <;> rfl

theorem first_rules_of_zero {mark : Char} (marked : mark = 'x' ∨ mark = 'X') (style : Style)
    (line : LineContext) (text : List Char) :
    Rule.first (rules style line) ('0' :: mark :: text) =
      some ([⟨.number, "0"⟩], mark :: text) := by
  rw [first_rules_of_identifierChar rfl, Rule.first, List.findSome?_cons, lexeme,
    number_of_mark marked]
  rfl

theorem first_rules_of_mark {mark : Char} (marked : mark = 'x' ∨ mark = 'X') (style : Style)
    (line : LineContext) {text : List Char} {cut : List Token × List Char}
    (named : name style line (mark :: text) = some cut) :
    Rule.first (rules style line) (mark :: text) = some cut := by
  have inside : isIdentifierChar mark = true ∧ mark.isDigit = false := by
    rcases marked with rfl | rfl <;> decide
  have no_number : lexeme .number number (mark :: text) = none := by
    rw [lexeme, number, if_neg (Bool.eq_false_iff.1 inside.2)]
  rw [first_rules_of_identifierChar inside.1, Rule.first, List.findSome?_cons, no_number,
    List.findSome?_cons, reservedWord_of_mark marked, List.findSome?_cons, named]

theorem exists_lex_hexLiteral {literal behind : String} (hex : HexLiteral literal.toList)
    (ends : behind.toList.head?.any isIdentifierChar = false) (style : Style) :
    ∃ piece rest tokens, literal.toList.tail = piece ++ rest ∧ piece ≠ [] ∧
      (style = .whole → rest = []) ∧ lex style (literal ++ behind) =
        ⟨.number, "0"⟩ :: Token.ofChars .name piece :: tokens := by
  obtain ⟨mark, word, spelled, marked, inside⟩ := hex.exists_word
  have letter : mark.isAlpha = true := by
    rcases marked with rfl | rfl <;> rfl
  have stops : (behind.toList ++ ['\n']).head?.any isIdentifierChar = false := by
    cases chars : behind.toList with
    | nil => rfl
    | cons c others => simpa [chars] using ends
  -- Behind the zero the line reads like no declaration and is outside attributes.
  have line : (LineContext.lineStart.observeAll [⟨.number, "0"⟩]) = ⟨.other, false⟩ := rfl
  obtain ⟨piece, rest, parted, nonempty, whole, named⟩ :=
    name_of_word letter inside stops style ⟨.other, false⟩ rfl rfl
  have text : (literal ++ behind).toList ++ ['\n'] =
      '0' :: mark :: (word ++ (behind.toList ++ ['\n'])) := by
    simp [spelled]
  have tail : literal.toList.tail = piece ++ rest := by
    rw [spelled]
    exact parted
  have run : lex style (literal ++ behind) = ⟨.number, "0"⟩ :: Token.ofChars .name piece ::
      lexFrom style (LineContext.observeAll ⟨.other, false⟩ [Token.ofChars .name piece])
        (rest ++ (behind.toList ++ ['\n'])) := by
    rw [lex, text, lexFrom_eq, first_rules_of_zero marked]
    dsimp only
    rw [line, lexFrom_eq, first_rules_of_mark marked style _ named]
    rfl
  exact ⟨piece, rest, _, tail, nonempty, whole, run⟩

/-- A hexadecimal literal is never one token. The zero is a number, what stands behind it begins
with a name, which is all the rest if names are kept whole, and an alias takes the place of the
name. -/
theorem tokenize_hexLiteral {literal behind : String} (hex : HexLiteral literal.toList)
    (ends : behind.toList.head?.any isIdentifierChar = false) (style : Style) :
    (tokenize style (literal ++ behind)).head? ≠ some ⟨.number, literal⟩ ∧
      ∃ piece rest tokens, literal.toList.tail = piece ++ rest ∧ piece ≠ [] ∧
        (style = .whole → rest = []) ∧
        tokenize style (literal ++ behind) =
          ⟨.number, "0"⟩ :: Token.ofChars .name piece :: tokens ∧
        ∀ a : Aliases, ∃ others, (a.apply (tokenize style (literal ++ behind))).2 =
          ⟨.number, "0"⟩ :: ⟨.name, a.aliasOf (String.ofList piece)⟩ :: others := by
  obtain ⟨piece, rest, tokens, parted, nonempty, whole, lexed⟩ :=
    exists_lex_hexLiteral hex ends style
  have run : tokenize style (literal ++ behind) =
      ⟨.number, "0"⟩ :: Token.ofChars .name piece :: dropFinalNewline tokens := by
    rw [tokenize, lexed, dropFinalNewline_cons rfl, dropFinalNewline_cons rfl]
  refine ⟨fun alone => ?_, piece, rest, _, parted, nonempty, whole, run, fun a => ?_⟩
  · rw [run, List.head?_cons, Option.some.injEq, Token.mk.injEq] at alone
    rw [← alone.2] at parted
    exact nonempty (List.append_eq_nil_iff.1 parted.symm).1
  · rw [run]
    exact ⟨_, rfl⟩

/-- Capitals and small letters among the digits, the suffix, and a call of a method behind it. -/
theorem tokenize_hexLiteral_of_long :
    let literal := "0XfF0L"
    let behind := ".x()"
    HexLiteral literal.toList ∧ behind.toList.head?.any isIdentifierChar = false ∧
      (tokenize .whole (literal ++ behind)).head? ≠ some ⟨.number, literal⟩ ∧
      (tokenize .camelCase (literal ++ behind)).head? ≠ some ⟨.number, literal⟩ := by
  intro literal behind
  have spelled : literal.toList = '0' :: 'X' :: (['f', 'F', '0'] ++ ['L']) := by decide +kernel
  have hexadecimal : ∀ c ∈ ['f', 'F', '0'], isHexDigit c = true := List.all_eq_true.1 (by decide)
  have hex : HexLiteral literal.toList :=
    spelled ▸ .mk (Or.inr rfl) (by decide) hexadecimal (Or.inr (Or.inl rfl))
  have ends : behind.toList.head?.any isIdentifierChar = false := by decide
  exact ⟨hex, ends, (tokenize_hexLiteral hex ends .whole).1,
    (tokenize_hexLiteral hex ends .camelCase).1⟩

/-- A literal that is no token of its own, and of which a part gets an alias. -/
theorem tokenize_hexLiteral_ne :
    let literal := "0x1F"
    HexLiteral literal.toList ∧
      tokenize .whole literal = [⟨.number, "0"⟩, ⟨.name, "x1F"⟩] ∧
      tokenize .camelCase literal = [⟨.number, "0"⟩, ⟨.name, "x"⟩, ⟨.number, "1F"⟩] ∧
      tokenize .whole literal ≠ [⟨.number, literal⟩] ∧
      tokenize .camelCase literal ≠ [⟨.number, literal⟩] ∧
      (Aliases.empty.apply (tokenize Mode.zeroIndexVars.style literal)).2 =
        [⟨.number, "0"⟩, ⟨.name, "VAR-0"⟩] := by
  intro literal
  have spelled : literal.toList = '0' :: 'x' :: (['1', 'F'] ++ []) := by decide +kernel
  have hexadecimal : ∀ c ∈ ['1', 'F'], isHexDigit c = true := List.all_eq_true.1 (by decide)
  have hex : HexLiteral literal.toList :=
    spelled ▸ .mk (Or.inl rfl) (by decide) hexadecimal (Or.inl rfl)
  exact ⟨hex, by decide +kernel, by decide +kernel, by decide +kernel, by decide +kernel,
    by decide +kernel⟩

end FixCorpus.Lexer
