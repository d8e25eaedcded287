import FixCorpus.Lexer.Keyword
import FixCorpus.Lexer.LineShape
import FixCorpus.Lexer.Literal
import FixCorpus.Lexer.Prose
import FixCorpus.Text.Strip

/-! The lexer of source code in the manner of C#. It loses nothing: each blank is a
token, and comments and strings are cut into the tokens of their prose. The
rules below are tried in the order in which `rules` lists them. -/

namespace FixCorpus.Lexer

open Text

def proseBetween (style : Style) (opener : Token) (body : List Char) (closer : Token)
    (rest : List Char) : List Token × List Char :=
  match stripFront? closer.text.toList rest with
  | some rest => (opener :: Prose.lexFragment style body ++ [closer], rest)
  | none => (opener :: Prose.lexFragment style body, rest)

def lineComment (style : Style) : Rule
  | '/' :: '/' :: text =>
    let (body, rest) := lineBody text
    some (⟨.commentSingle, "//"⟩ :: Prose.lexFragment style body, rest)
  | _ => none

def blockComment (style : Style) : Rule
  | '/' :: '*' :: text =>
    let (body, rest) := blockBody text
    some (proseBetween style ⟨.commentMultiline, "/*"⟩ body ⟨.commentMultiline, "*/"⟩ rest)
  | _ => none

def verbatimString (style : Style) : Rule
  | '@' :: '"' :: text =>
    let (body, rest) := verbatimBody text
    some (proseBetween style ⟨.string, "@\""⟩ body ⟨.string, "\""⟩ rest)
  | _ => none

def quotedString (style : Style) : Rule
  | '"' :: text =>
    let (body, rest) := quotedBody text
    some (proseBetween style ⟨.string, "\""⟩ body ⟨.string, "\""⟩ rest)
  | _ => none

/-- A character in single quotes, or an escaped one. A blank between the quotes is a token of
its own, as everywhere. -/
def charLiteral : Rule
  | '\'' :: '\\' :: c :: '\'' :: rest =>
    if c == '\n' then none else some ([Token.ofChars .stringChar ['\'', '\\', c, '\'']], rest)
  | '\'' :: c :: '\'' :: rest =>
    if c == '\\' || c == '\n' then none
    else if isBlank c then
      some ([⟨.stringChar, "'"⟩, Token.blank c, ⟨.stringChar, "'"⟩], rest)
    else some ([Token.ofChars .stringChar ['\'', c, '\'']], rest)
  | _ => none

def lexeme (kind : TokenKind) (cut : List Char → List Char × List Char) : Rule := fun text =>
  match cut text with
  | ([], _) => none
  | (c :: piece, rest) => some ([Token.ofChars kind (c :: piece)], rest)

/-- A directive's word, if no further character of a word stands behind it. -/
def directive : List Char → List Char × List Char
  | '#' :: text =>
    match directiveWords.find? (fun w =>
      (stripFront? w.toList text).any (fun rest => !rest.head?.any isWordChar)) with
    | some w => ('#' :: text.take w.length, text.drop w.length)
    | none => ([], '#' :: text)
  | text => ([], text)

def operator (text : List Char) : List Char × List Char :=
  match operators.find? (fun w => w.toList.isPrefixOf text) with
  | some w => (text.take w.length, text.drop w.length)
  | none => ([], text)

def typeName (style : Style) (text : List Char) : List Token × List Char :=
  let isGap := fun c => isBlank c && c != '\n'
  let gap := (text.takeWhile isGap).map Token.blank
  let text := text.dropWhile isGap
  match style with
  | .whole =>
    match lexeme .nameClass identifier text with
    | some (name, rest) => (gap ++ name, rest)
    | none => (gap, text)
  | .camelCase =>
    let (pieces, rest) := camelPieces text
    (gap ++ pieces.map (Token.ofChars .nameClass), rest)

/-- A reserved word. One that names a type takes a question mark with it, and one that declares a
type takes the type's name. -/
def reservedWord (style : Style) : Rule := fun text =>
  let run := text.takeWhile isIdentifierChar
  let rest := text.dropWhile isIdentifierChar
  let isIn := fun list : List String => run ≠ [] ∧ String.ofList run ∈ list
  if isIn declarationKeywords then
    let (name, rest) := typeName style rest
    some (Token.ofChars .keyword run :: name, rest)
  else if isIn keywords then some ([Token.ofChars .keyword run], rest)
  else if isIn typeKeywords then
    match rest with
    | '?' :: rest => some ([Token.ofChars .keywordType (run ++ ['?'])], rest)
    | rest => some ([Token.ofChars .keywordType run], rest)
  else none

def callFollows (text : List Char) : Bool :=
  (text.dropWhile (fun c => c == ' ' || c == '\t')).head? = some '('

/-- The kind of a name: that of a function where the line so far reads like the head of its
declaration. -/
def nameKind (style : Style) (line : LineContext) (rest : List Char) : TokenKind :=
  if line.inAttribute then .nameAttribute
  else if style = .whole ∧ line.shape = .wordThenSpace ∧ callFollows rest then .nameFunction
  else .name

def name (style : Style) (line : LineContext) : Rule := fun text =>
  let cut := match style with
    | .whole => identifier
    | .camelCase => fun text => text.splitAt (camelPieceLength text)
  lexeme (nameKind style line (cut text).2) cut text

def rules (style : Style) (line : LineContext) : List Rule :=
  [blank isBlank, lineComment style, blockComment style, verbatimString style,
   quotedString style, charLiteral, lexeme .number number, lexeme .preprocessorDirective directive,
   reservedWord style, name style line, lexeme .operator operator, symbol codePunctuation]

theorem length_proseBetween_le (style : Style) (opener : Token) (body : List Char)
    (closer : Token) (rest : List Char) :
    (proseBetween style opener body closer rest).2.length ≤ rest.length := by
  unfold proseBetween
  split
  · rename_i found
    rw [stripFront?_eq_some_iff] at found
    simp [found]
  · simp

theorem shrinks_lineComment (style : Style) : (lineComment style).Shrinks := by
  intro text tokens rest h
  unfold lineComment at h
  split at h
  · rename_i text
    simp only [Option.some.injEq, Prod.mk.injEq] at h
    have := length_rest_le lineBody_append text
    rw [← h.2]
    simp only [List.length_cons]
    omega
  · simp at h

theorem shrinks_blockComment (style : Style) : (blockComment style).Shrinks := by
  intro text tokens rest h
  unfold blockComment at h
  split at h
  · rename_i text
    simp only [Option.some.injEq] at h
    have := length_rest_le blockBody_append text
    have := length_proseBetween_le style ⟨.commentMultiline, "/*"⟩ (blockBody text).1
      ⟨.commentMultiline, "*/"⟩ (blockBody text).2
    simp only [h] at this
    simp only [List.length_cons]
    omega
  · simp at h

theorem shrinks_verbatimString (style : Style) : (verbatimString style).Shrinks := by
  intro text tokens rest h
  unfold verbatimString at h
  split at h
  · rename_i text
    simp only [Option.some.injEq] at h
    have := length_rest_le verbatimBody_append text
    have := length_proseBetween_le style ⟨.string, "@\""⟩ (verbatimBody text).1
      ⟨.string, "\""⟩ (verbatimBody text).2
    simp only [h] at this
    simp only [List.length_cons]
    omega
  · simp at h

theorem shrinks_quotedString (style : Style) : (quotedString style).Shrinks := by
  intro text tokens rest h
  unfold quotedString at h
  split at h
  · rename_i text
    simp only [Option.some.injEq] at h
    have := length_rest_le quotedBody_append text
    have := length_proseBetween_le style ⟨.string, "\""⟩ (quotedBody text).1
      ⟨.string, "\""⟩ (quotedBody text).2
    simp only [h] at this
    simp only [List.length_cons]
    omega
  · simp at h

theorem shrinks_charLiteral : Rule.Shrinks charLiteral := by
  intro text tokens rest h
  unfold charLiteral at h
  split at h
  · split at h
    · simp at h
    · simp only [Option.some.injEq, Prod.mk.injEq] at h
      simp only [← h.2, List.length_cons]
      omega
  · split at h
    · simp at h
    · split at h <;>
      · simp only [Option.some.injEq, Prod.mk.injEq] at h
        simp only [← h.2, List.length_cons]
        omega
  · simp at h

theorem shrinks_lexeme (kind : TokenKind) {cut : List Char → List Char × List Char}
    (append : ∀ text, (cut text).1 ++ (cut text).2 = text) : (lexeme kind cut).Shrinks := by
  intro text tokens rest h
  unfold lexeme at h
  split at h
  · simp at h
  · rename_i c piece rest' eq
    have := congrArg List.length (append text)
    rw [eq] at this
    simp only [Option.some.injEq, Prod.mk.injEq] at h
    rw [← h.2]
    simp only [List.length_append, List.length_cons] at this
    omega

theorem directive_append (text : List Char) :
    (directive text).1 ++ (directive text).2 = text := by
  unfold directive
  split
  · split <;> simp
  · simp

theorem operator_append (text : List Char) : (operator text).1 ++ (operator text).2 = text := by
  unfold operator
  split <;> simp

theorem length_typeName_le (style : Style) (text : List Char) :
    (typeName style text).2.length ≤ text.length := by
  have gap := length_dropWhile_le (fun c => isBlank c && c != '\n') text
  unfold typeName
  dsimp only
  split
  · split
    · rename_i found
      have := shrinks_lexeme .nameClass identifier_append found
      dsimp only
      omega
    · exact gap
  · exact Nat.le_trans (length_camelPieces_le _) gap

theorem shrinks_reservedWord (style : Style) : (reservedWord style).Shrinks := by
  intro text tokens rest h
  have split_run : text.takeWhile isIdentifierChar ++ text.dropWhile isIdentifierChar = text :=
    List.takeWhile_append_dropWhile
  have shorter : text.takeWhile isIdentifierChar ≠ [] →
      (text.dropWhile isIdentifierChar).length < text.length := by
    intro nonempty
    have := List.length_pos_iff.2 nonempty
    have := congrArg List.length split_run
    simp only [List.length_append] at this
    omega
  unfold reservedWord at h
  dsimp only at h
  split at h
  · rename_i found
    simp only [Option.some.injEq, Prod.mk.injEq] at h
    have := length_typeName_le style (text.dropWhile isIdentifierChar)
    have := shorter found.1
    rw [← h.2]
    omega
  · split at h
    · rename_i found
      simp only [Option.some.injEq, Prod.mk.injEq] at h
      exact h.2 ▸ shorter found.1
    · split at h
      · rename_i found
        have := shorter found.1
        split at h
        · rename_i eq
          simp only [Option.some.injEq, Prod.mk.injEq] at h
          rw [eq, h.2, List.length_cons] at this
          omega
        · simp only [Option.some.injEq, Prod.mk.injEq] at h
          exact h.2 ▸ this
      · simp at h

theorem shrinks_name (style : Style) (line : LineContext) : (name style line).Shrinks := by
  intro text tokens rest h
  unfold name at h
  cases style
  · exact shrinks_lexeme _ identifier_append h
  · exact shrinks_lexeme _ (fun text => by simp [List.splitAt_eq]) h

theorem shrinks_rules (style : Style) (line : LineContext) :
    (Rule.first (rules style line)).Shrinks := by
  refine Rule.shrinks_first fun rule member => ?_
  simp only [rules, List.mem_cons, List.not_mem_nil, or_false] at member
  rcases member with rfl | rfl | rfl | rfl | rfl | rfl | rfl | rfl | rfl | rfl | rfl | rfl
  · exact shrinks_blank isBlank
  · exact shrinks_lineComment style
  · exact shrinks_blockComment style
  · exact shrinks_verbatimString style
  · exact shrinks_quotedString style
  · exact shrinks_charLiteral
  · exact shrinks_lexeme _ number_append
  · exact shrinks_lexeme _ directive_append
  · exact shrinks_reservedWord style
  · exact shrinks_name style line
  · exact shrinks_lexeme _ operator_append
  · exact shrinks_symbol codePunctuation

/-- The tokens of `done`, which is backwards, and of a text that stands behind the given part of
its line. -/
def lexOnto (style : Style) (line : LineContext) (text : List Char) (done : List Token) :
    List Token :=
  match _found : Rule.first (rules style line) text with
  | none => done.reverse
  | some (tokens, rest) => lexOnto style (line.observeAll tokens) rest (tokens.reverseAux done)
termination_by text.length
decreasing_by exact shrinks_rules style line _found

def lexFrom (style : Style) (line : LineContext) (text : List Char) : List Token :=
  lexOnto style line text []

theorem lexOnto_none {style : Style} {line : LineContext} {text : List Char}
    (h : Rule.first (rules style line) text = none) (done : List Token) :
    lexOnto style line text done = done.reverse := by
  rw [lexOnto]
  split <;> simp_all

theorem lexOnto_some {style : Style} {line : LineContext} {text rest : List Char}
    {tokens : List Token} (h : Rule.first (rules style line) text = some (tokens, rest))
    (done : List Token) :
    lexOnto style line text done =
      lexOnto style (line.observeAll tokens) rest (tokens.reverseAux done) := by
  rw [lexOnto]
  split <;> simp_all

theorem lexOnto_eq (style : Style) (line : LineContext) (text : List Char)
    (done : List Token) :
    lexOnto style line text done = done.reverse ++ lexFrom style line text := by
  unfold lexFrom
  induction length : text.length using Nat.strongRecOn generalizing line text done with
  | ind n ih =>
    cases found : Rule.first (rules style line) text with
    | none => simp [lexOnto_none found]
    | some cut =>
      obtain ⟨tokens, rest⟩ := cut
      have shorter := shrinks_rules style line found
      rw [lexOnto_some found, lexOnto_some found, ih rest.length (by omega) _ _ _ rfl,
        ih rest.length (by omega) _ _ (tokens.reverseAux []) rfl]
      simp [List.reverseAux_eq]

theorem lexFrom_eq (style : Style) (line : LineContext) (text : List Char) :
    lexFrom style line text = match Rule.first (rules style line) text with
      | none => []
      | some (tokens, rest) => tokens ++ lexFrom style (line.observeAll tokens) rest := by
  cases found : Rule.first (rules style line) text with
  | none => simp [lexFrom, lexOnto_none found]
  | some cut => rw [lexFrom, lexOnto_some found, lexOnto_eq]; simp [List.reverseAux_eq]

/-- The tokens of a source text and of a newline put behind it. -/
def lex (style : Style) (source : String) : List Token :=
  lexFrom style .lineStart (source.toList ++ ['\n'])

def tokenize (style : Style) (source : String) : List Token :=
  dropFinalNewline (lex style source)

end FixCorpus.Lexer
