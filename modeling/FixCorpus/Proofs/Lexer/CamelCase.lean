import FixCorpus.Proofs.Lexer.CamelPiece
import FixCorpus.Proofs.Lexer.Cut

/-! Identifiers in mixed case. They are to be split into the pieces of their runs
of letters, single digits and low lines, and the lexer does so with two
exceptions: a digit takes a letter with it that could give a number its type,
and a reserved word at the end of the identifier is not seen as a part of it. -/

namespace FixCorpus.Lexer

open Text

def reservedKind? (text : List Char) : Option TokenKind :=
  if String.ofList text ∈ declarationKeywords ∨ String.ofList text ∈ keywords then some .keyword
  else if String.ofList text ∈ typeKeywords then some .keywordType
  else none

def isNumberSuffix (c : Char) : Bool :=
  "flFLdD".toList.contains c

def beginsSuffixed : List Char → Bool
  | d :: s :: _ => d.isDigit && isNumberSuffix s
  | _ => false

/-- How the front of an identifier is to be split off: the token, and what stands behind it. -/
inductive Splits : List Char → Token → List Char → Prop where
  | letters {piece rest : List Char} (cut : CamelPiece piece rest) :
      Splits (piece ++ rest) (Token.ofChars .name piece) rest
  | digit {d : Char} {rest : List Char} (digit : d.isDigit = true) :
      Splits (d :: rest) (Token.ofChars .number [d]) rest
  | lowLine {rest : List Char} : Splits ('_' :: rest) (Token.ofChars .code ['_']) rest

theorem Splits.text_eq {text rest : List Char} {t : Token} (h : Splits text t rest) :
    text = t.text.toList ++ rest := by
  cases h <;> simp

theorem Splits.subset {text rest : List Char} {t : Token} (h : Splits text t rest) :
    rest ⊆ text := by
  rw [h.text_eq]
  exact List.subset_append_right _ _

theorem Splits.length_lt {text rest : List Char} {t : Token} (h : Splits text t rest) :
    rest.length < text.length := by
  cases h with
  | letters cut => simpa using List.length_pos_iff.2 cut.ne_nil
  | digit => exact Nat.lt_succ_self _
  | lowLine => exact Nat.lt_succ_self _

/-- How the lexer takes the front of an identifier off. -/
inductive Cuts : List Char → Token → List Char → Prop where
  | plain {text rest : List Char} {t : Token} (unsuffixed : beginsSuffixed text = false)
      (unreserved : reservedKind? text = none) (split : Splits text t rest) : Cuts text t rest
  | suffixed {d s : Char} {rest : List Char} (digit : d.isDigit = true)
      (suffix : isNumberSuffix s = true) : Cuts (d :: s :: rest) (Token.ofChars .number [d, s]) rest
  | reserved {text : List Char} {kind : TokenKind} (found : reservedKind? text = some kind) :
      Cuts text (Token.ofChars kind text) []

inductive Pieces (step : List Char → Token → List Char → Prop) : List Char → List Token → Prop where
  | nil : Pieces step [] []
  | cons {text rest : List Char} {t : Token} {tokens : List Token} (first : step text t rest)
      (others : Pieces step rest tokens) : Pieces step text (t :: tokens)

/-- Nowhere in the text is a digit in front of a letter that it takes with it, and no reserved word
stands at its end right behind a digit or a low line. -/
def undisturbed : List Char → Bool
  | [] => true
  | c :: text => !beginsSuffixed (c :: text) &&
      !((c.isDigit || c == '_') && (reservedKind? text).isSome) && undisturbed text

theorem reservedKind?_of_head {text : List Char} (front : text.head?.any Char.isLower = false) :
    reservedKind? text = none := by
  have small : ∀ w ∈ declarationKeywords ++ keywords ++ typeKeywords,
      w.toList.head?.any Char.isLower = true := by decide +kernel
  have outside : String.ofList text ∉ declarationKeywords ++ keywords ++ typeKeywords := by
    intro member
    have begins := small _ member
    rw [String.toList_ofList, front] at begins
    cases begins
  simp only [List.mem_append, not_or] at outside
  rw [reservedKind?, if_neg (not_or.2 outside.1), if_neg outside.2]

theorem head?_of_reserved {text : List Char} {kind : TokenKind}
    (found : reservedKind? text = some kind) : text.head?.any Char.isLower = true := by
  cases small : text.head?.any Char.isLower with
  | true => rfl
  | false =>
    rw [reservedKind?_of_head small] at found
    cases found

theorem kind_of_reserved {text : List Char} {kind : TokenKind}
    (found : reservedKind? text = some kind) : kind = .keyword ∨ kind = .keywordType := by
  unfold reservedKind? at found
  split at found
  · exact Or.inl (Option.some.inj found).symm
  · split at found
    · exact Or.inr (Option.some.inj found).symm
    · cases found

theorem reservedWord_of_word {text : List Char} (nonempty : text ≠ [])
    (word : ∀ c ∈ text, isIdentifierChar c = true) :
    reservedWord .camelCase (text ++ ['\n']) =
      (reservedKind? text).map fun kind => ([Token.ofChars kind text], ['\n']) := by
  have run : (text ++ ['\n']).takeWhile isIdentifierChar = text :=
    takeWhile_append_of_stop word rfl
  have rest : (text ++ ['\n']).dropWhile isIdentifierChar = ['\n'] := by
    rw [List.dropWhile_append_of_pos word]
    rfl
  have no_name : typeName .camelCase ['\n'] = ([], ['\n']) := by
    rw [show ['\n'] = [] ++ '\n' :: [] from rfl, stopsAtNewline_typeName .camelCase [] []]
    simp [typeName, camelPieces, camelPieceLength]
  unfold reservedWord reservedKind?
  simp only [run, rest, no_name, ne_eq, nonempty, not_false_eq_true, true_and]
  by_cases declares : String.ofList text ∈ declarationKeywords
  · simp [declares]
  · by_cases isKeyword : String.ofList text ∈ keywords
    · simp [declares, isKeyword]
    · by_cases namesType : String.ofList text ∈ typeKeywords <;>
        simp [declares, isKeyword, namesType]

theorem ne_of_isIdentifierChar {c mark : Char} (h : isIdentifierChar c = true)
    (outside : isIdentifierChar mark = false) : c ≠ mark := fun same => by
  rw [same, outside] at h
  cases h

theorem number_of_word {d : Char} (digit : d.isDigit = true) {text : List Char}
    (word : ∀ c ∈ text, isIdentifierChar c = true) :
    number (d :: text) = (d :: (numberSuffix text).1, (numberSuffix text).2) := by
  -- In an identifier no point and no exponent stands behind a digit.
  have no_fraction : fraction text = ([], text) := by
    unfold fraction
    split
    · exact absurd rfl (ne_of_isIdentifierChar (word '.' List.mem_cons_self) rfl)
    · rfl
  have no_exponent : exponent text = ([], text) := by
    unfold exponent
    split
    · rename_i e sign text
      have inside := word sign (List.mem_cons_of_mem e List.mem_cons_self)
      have plus : sign ≠ '+' := ne_of_isIdentifierChar inside rfl
      have minus : sign ≠ '-' := ne_of_isIdentifierChar inside rfl
      simp [plus, minus]
    · rfl
  simp only [number, digit, if_pos, no_fraction, no_exponent, List.nil_append]

theorem first_rules_of_identifierChar {c : Char} (h : isIdentifierChar c = true) (style : Style)
    (line : LineContext) (text : List Char) :
    Rule.first (rules style line) (c :: text) =
      Rule.first [lexeme .number number, reservedWord style, name style line,
        lexeme .operator operator, symbol codePunctuation] (c :: text) := by
  have slash : c ≠ '/' := ne_of_isIdentifierChar h rfl
  have sign : c ≠ '@' := ne_of_isIdentifierChar h rfl
  have quote : c ≠ '"' := ne_of_isIdentifierChar h rfl
  have apostrophe : c ≠ '\'' := ne_of_isIdentifierChar h rfl
  have hash : c ≠ '#' := ne_of_isIdentifierChar h rfl
  have no_directive : lexeme .preprocessorDirective directive (c :: text) = none := by
    simp [lexeme, directive, hash]
  rw [rules, first_blank_cons, isBlank_of_isIdentifierChar h]
  simp [Rule.first, List.findSome?_cons, lineComment, blockComment, verbatimString, quotedString,
    charLiteral, slash, sign, quote, apostrophe, no_directive]

theorem operator_of_lowLine (text : List Char) : operator ('_' :: text) = ([], '_' :: text) := by
  have parted := operator_append ('_' :: text)
  rcases operator_cases ('_' :: text) with nothing | ⟨w, listed, taken⟩
  · rw [nothing, List.nil_append] at parted
    exact Prod.ext nothing parted
  · have heads : ∀ w ∈ operators, w.toList ≠ [] ∧ w.toList.head? ≠ some '_' := by decide +kernel
    obtain ⟨nonempty, other⟩ := heads w listed
    obtain ⟨c, others, chars⟩ := List.exists_cons_of_ne_nil nonempty
    rw [taken, chars, List.cons_append] at parted
    rw [chars] at other
    exact absurd (congrArg some (List.cons.inj parted).1) other

section

variable {line : LineContext}

theorem first_rules_of_digit {d : Char} (digit : d.isDigit = true) {text : List Char}
    (word : ∀ c ∈ d :: text, isIdentifierChar c = true) :
    Rule.first (rules .camelCase line) (d :: text ++ ['\n']) =
      some ([Token.ofChars .number (d :: (numberSuffix text).1)],
        (numberSuffix text).2 ++ ['\n']) := by
  obtain ⟨first, others⟩ := List.forall_mem_cons.1 word
  have number_eq := stopsAtNewline_number (d :: text) []
  rw [number_of_word digit others] at number_eq
  rw [List.cons_append, first_rules_of_identifierChar first, Rule.first, List.findSome?_cons,
    lexeme, ← List.cons_append, number_eq]

theorem first_rules_of_no_digit {c : Char} (no_digit : c.isDigit = false) {text : List Char}
    (word : ∀ x ∈ c :: text, isIdentifierChar x = true) :
    Rule.first (rules .camelCase line) (c :: text ++ ['\n']) =
      match reservedKind? (c :: text) with
      | some kind => some ([Token.ofChars kind (c :: text)], ['\n'])
      | none => Rule.first [name .camelCase line, lexeme .operator operator,
          symbol codePunctuation] (c :: text ++ ['\n']) := by
  obtain ⟨first, others⟩ := List.forall_mem_cons.1 word
  have no_number : lexeme .number number (c :: (text ++ ['\n'])) = none := by
    rw [lexeme, number, if_neg (Bool.eq_false_iff.1 no_digit)]
  have reserved := reservedWord_of_word (List.cons_ne_nil c text) word
  rw [List.cons_append] at reserved ⊢
  rw [first_rules_of_identifierChar first, Rule.first, List.findSome?_cons, no_number,
    List.findSome?_cons, reserved]
  cases reservedKind? (c :: text) <;> rfl

theorem name_of_camelPiece (outside : line.inAttribute = false) {piece rest : List Char}
    (cut : CamelPiece piece rest) : name .camelCase line (piece ++ rest ++ ['\n']) =
      some ([Token.ofChars .name piece], rest ++ ['\n']) := by
  have stops := stopsAtNewline_camelPiece (piece ++ rest) []
  have kind : ∀ rest, nameKind .camelCase line rest = .name := fun rest => by
    simp [nameKind, outside]
  obtain ⟨first, others, rfl⟩ := List.exists_cons_of_ne_nil cut.ne_nil
  simp only [name, kind, lexeme, stops, List.splitAt_eq, cut.length_eq, List.take_left,
    List.drop_left]

theorem Cuts.first_rules {text rest : List Char} {t : Token} (h : Cuts text t rest)
    (outside : line.inAttribute = false) (word : ∀ c ∈ text, isIdentifierChar c = true) :
    Rule.first (rules .camelCase line) (text ++ ['\n']) = some ([t], rest ++ ['\n']) := by
  cases h with
  | plain unsuffixed unreserved split =>
    cases split with
    | @letters piece rest cut =>
      have named := name_of_camelPiece outside cut
      obtain ⟨first, others, rfl⟩ := List.exists_cons_of_ne_nil cut.ne_nil
      have no_digit := isDigit_of_isAlpha (cut.isAlpha first List.mem_cons_self)
      rw [List.cons_append] at word unreserved named ⊢
      rw [first_rules_of_no_digit no_digit word, unreserved]
      dsimp only
      rw [Rule.first, List.findSome?_cons, named]
    | @digit d rest digit =>
      -- No letter behind the digit is a suffix, so the digit stands alone.
      have alone : numberSuffix rest = ([], rest) := by
        cases rest with
        | nil => rfl
        | cons s rest =>
          rw [beginsSuffixed, digit, Bool.true_and] at unsuffixed
          exact if_neg (Bool.eq_false_iff.1 unsuffixed)
      rw [first_rules_of_digit digit word, alone]
    | @lowLine rest =>
      have no_name : name .camelCase line ('_' :: rest ++ ['\n']) = none := by
        simp [name, lexeme, camelPieceLength]
      have no_operator : lexeme .operator operator ('_' :: rest ++ ['\n']) = none := by
        rw [lexeme, List.cons_append, operator_of_lowLine]
      rw [first_rules_of_no_digit rfl word, unreserved]
      dsimp only
      rw [Rule.first, List.findSome?_cons, no_name, List.findSome?_cons, no_operator]
      rfl
  | @suffixed d s rest digit suffix =>
    have taken : numberSuffix (s :: rest) = ([s], rest) := if_pos suffix
    rw [first_rules_of_digit digit word, taken]
  | @reserved _ kind found =>
    have small := head?_of_reserved found
    cases text with
    | nil => cases small
    | cons c text =>
      have no_digit := isDigit_of_isAlpha (isAlpha_of_isLower small)
      rw [first_rules_of_no_digit no_digit word, found]
      rfl

end

theorem exists_splits {text : List Char} (nonempty : text ≠ [])
    (word : ∀ c ∈ text, isIdentifierChar c = true) : ∃ t rest, Splits text t rest := by
  obtain ⟨c, text, rfl⟩ := List.exists_cons_of_ne_nil nonempty
  by_cases letter : c.isAlpha = true
  · obtain ⟨piece, rest, same, cut⟩ := exists_camelPiece letter text
    rw [same]
    exact ⟨_, rest, .letters cut⟩
  by_cases digit : c.isDigit = true
  · exact ⟨_, text, .digit digit⟩
  have lowLine : c = '_' := by
    simpa [isIdentifierChar, letter, digit] using word c List.mem_cons_self
  subst lowLine
  exact ⟨_, text, .lowLine⟩

theorem exists_cuts {text : List Char} (nonempty : text ≠ [])
    (word : ∀ c ∈ text, isIdentifierChar c = true) : ∃ t rest, Cuts text t rest := by
  cases found : reservedKind? text with
  | some kind => exact ⟨_, [], .reserved found⟩
  | none =>
    cases begins : beginsSuffixed text with
    | false =>
      obtain ⟨t, rest, split⟩ := exists_splits nonempty word
      exact ⟨t, rest, .plain begins found split⟩
    | true =>
      obtain _ | ⟨d, _ | ⟨s, rest⟩⟩ := text
      · cases begins
      · cases begins
      · rw [beginsSuffixed, Bool.and_eq_true] at begins
        exact ⟨_, rest, .suffixed begins.1 begins.2⟩

theorem Cuts.observe_inAttribute {text rest : List Char} {t : Token} (h : Cuts text t rest)
    (line : LineContext) : (line.observe t).inAttribute = line.inAttribute := by
  have by_kind : ∀ kind ∈ [TokenKind.name, .number, .code, .keyword, .keywordType], ∀ chars,
      (line.observe (Token.ofChars kind chars)).inAttribute = line.inAttribute := by
    intro kind listed chars
    simp only [List.mem_cons, List.not_mem_nil, or_false] at listed
    rcases listed with rfl | rfl | rfl | rfl | rfl <;> rfl
  cases h with
  | plain unsuffixed unreserved split => cases split <;> exact by_kind _ (by decide) _
  | suffixed => exact by_kind _ (by decide) _
  | reserved found => rcases kind_of_reserved found with rfl | rfl <;> exact by_kind _ (by decide) _

theorem Cuts.subset {text rest : List Char} {t : Token} (h : Cuts text t rest) : rest ⊆ text := by
  cases h with
  | plain unsuffixed unreserved split => exact split.subset
  | suffixed => exact List.subset_cons_of_subset _ (List.subset_cons_self _ _)
  | reserved => exact List.nil_subset _

theorem pieces_lexFrom {line : LineContext} (outside : line.inAttribute = false) {text : List Char}
    (word : ∀ c ∈ text, isIdentifierChar c = true) :
    ∃ tokens, lexFrom .camelCase line (text ++ ['\n']) = tokens ++ [Token.blank '\n'] ∧
      Pieces Cuts text tokens := by
  -- Each step takes a token off, so a whole identifier becomes the tokens of all steps.
  induction length : text.length using Nat.strongRecOn generalizing line text with
  | ind n ih =>
    by_cases empty : text = []
    · subst empty
      have newline : Rule.first (rules .camelCase line) ['\n'] = some ([Token.blank '\n'], []) :=
        rfl
      refine ⟨[], ?_, .nil⟩
      rw [List.nil_append, lexFrom_eq, newline]
      dsimp only
      rw [lexFrom_eq]
      rfl
    · obtain ⟨t, rest, cut⟩ := exists_cuts empty word
      have taken := cut.first_rules outside word
      have shorter := shrinks_rules .camelCase line taken
      rw [List.length_append, List.length_append] at shorter
      obtain ⟨tokens, run, pieces⟩ := ih rest.length (by omega)
        ((cut.observe_inAttribute line).trans outside)
        (fun c member => word c (cut.subset member)) rfl
      refine ⟨t :: tokens, ?_, .cons cut pieces⟩
      rw [lexFrom_eq, taken]
      exact congrArg (t :: ·) run

theorem pieces_tokenize {w : String} (word : ∀ c ∈ w.toList, isIdentifierChar c = true) :
    Pieces Cuts w.toList (tokenize .camelCase w) := by
  obtain ⟨tokens, run, pieces⟩ := @pieces_lexFrom .lineStart rfl w.toList word
  have same : tokenize .camelCase w = tokens := by
    rw [tokenize, lex, run]
    simp [dropFinalNewline]
  rwa [same]

def frontToken (text : List Char) : Token :=
  if text.head?.any Char.isAlpha then
    Token.ofChars .name (text.take (camelPieceLength text))
  else Token.ofChars (if text.head?.any Char.isDigit then .number else .code) (text.take 1)

theorem Splits.eq_frontToken {text rest : List Char} {t : Token} (h : Splits text t rest) :
    t = frontToken text := by
  cases h with
  | @letters piece rest cut =>
    obtain ⟨first, others, rfl⟩ := List.exists_cons_of_ne_nil cut.ne_nil
    have letter : ((first :: others ++ rest).head?.any Char.isAlpha) = true :=
      cut.isAlpha first List.mem_cons_self
    rw [frontToken, if_pos letter, cut.length_eq, List.take_left]
  | @digit d rest digit =>
    have no_letter : d.isAlpha = false := by
      cases letter : d.isAlpha with
      | false => rfl
      | true => exact absurd digit (Bool.eq_false_iff.1 (isDigit_of_isAlpha letter))
    simp [frontToken, no_letter, digit]
  | lowLine => rfl

theorem Splits.unique {text rest other : List Char} {t u : Token} (h : Splits text t rest)
    (h' : Splits text u other) : t = u ∧ rest = other := by
  obtain rfl : t = u := h.eq_frontToken.trans h'.eq_frontToken.symm
  exact ⟨rfl, List.append_cancel_left (h.text_eq.symm.trans h'.text_eq)⟩

theorem Pieces.unique {text : List Char} {tokens others : List Token}
    (h : Pieces Splits text tokens) (h' : Pieces Splits text others) : tokens = others := by
  induction h generalizing others with
  | nil =>
    cases h' with
    | nil => rfl
    | cons first => exact absurd first.length_lt (Nat.not_lt_zero _)
  | cons first _ ih =>
    cases h' with
    | nil => exact absurd first.length_lt (Nat.not_lt_zero _)
    | cons first' others' =>
      obtain ⟨rfl, rfl⟩ := first.unique first'
      rw [ih others']

theorem exists_pieces {text : List Char} (word : ∀ c ∈ text, isIdentifierChar c = true) :
    ∃ tokens, Pieces Splits text tokens := by
  induction length : text.length using Nat.strongRecOn generalizing text with
  | ind n ih =>
    by_cases empty : text = []
    · exact ⟨[], empty ▸ .nil⟩
    · obtain ⟨t, rest, split⟩ := exists_splits empty word
      obtain ⟨tokens, others⟩ := ih rest.length (length ▸ split.length_lt)
        (fun c member => word c (split.subset member)) rfl
      exact ⟨t :: tokens, .cons split others⟩

theorem Splits.not_suffixed {d s : Char} {text rest : List Char} :
    ¬ Splits text (Token.ofChars .number [d, s]) rest := by
  intro h
  generalize same : Token.ofChars .number [d, s] = t at h
  cases h with
  | letters => cases congrArg Token.kind same
  | digit => simpa using congrArg (fun t : Token => t.text.toList.length) same
  | lowLine => cases congrArg Token.kind same

theorem Splits.not_reserved {word text rest : List Char} {kind : TokenKind}
    (found : reservedKind? word = some kind) : ¬ Splits text (Token.ofChars kind word) rest := by
  intro h
  generalize same : Token.ofChars kind word = t at h
  rcases kind_of_reserved found with rfl | rfl <;> cases h <;> cases congrArg Token.kind same

theorem undisturbed_append {letters rest : List Char} (alpha : ∀ c ∈ letters, c.isAlpha = true) :
    undisturbed (letters ++ rest) = undisturbed rest := by
  induction letters with
  | nil => rfl
  | cons c letters ih =>
    obtain ⟨letter, others⟩ := List.forall_mem_cons.1 alpha
    have no_digit := isDigit_of_isAlpha letter
    have no_lowLine : c ≠ '_' := fun same => by
      rw [same] at letter
      cases letter
    have unsuffixed : beginsSuffixed (c :: (letters ++ rest)) = false := by
      cases letters ++ rest <;> simp [beginsSuffixed, no_digit]
    simp [undisturbed, unsuffixed, no_digit, no_lowLine, ih others]

theorem Splits.undisturbed_iff {text rest : List Char} {t : Token} (h : Splits text t rest)
    (unsuffixed : beginsSuffixed text = false) :
    undisturbed text = true ↔ reservedKind? rest = none ∧ undisturbed rest = true := by
  -- What a step takes off is not looked at again.
  cases h with
  | letters cut =>
    rw [undisturbed_append cut.isAlpha]
    exact (and_iff_right (reservedKind?_of_head cut.head?_rest)).symm
  | digit digit => simp [undisturbed, unsuffixed, digit]
  | lowLine => simp [undisturbed, unsuffixed]

theorem Pieces.splits_iff {text : List Char} {tokens : List Token} (h : Pieces Cuts text tokens) :
    Pieces Splits text tokens ↔ reservedKind? text = none ∧ undisturbed text = true := by
  induction h with
  | nil => exact ⟨fun _ => ⟨reservedKind?_of_head rfl, rfl⟩, fun _ => .nil⟩
  | cons first others ih =>
    cases first with
    | plain unsuffixed unreserved split =>
      rw [split.undisturbed_iff unsuffixed, ← ih]
      constructor
      · rintro (_ | ⟨split', others'⟩)
        have same := List.append_cancel_left (split'.text_eq.symm.trans split.text_eq)
        exact ⟨unreserved, same ▸ others'⟩
      · exact fun pieces => .cons split pieces.2
    | suffixed digit suffix =>
      -- An identifier is split in one way only, and this one begins otherwise than it should.
      constructor
      · rintro (_ | ⟨split, -⟩)
        exact absurd split Splits.not_suffixed
      · rintro ⟨-, undisturbed_text⟩
        simp [undisturbed, beginsSuffixed, digit, suffix] at undisturbed_text
    | reserved found =>
      constructor
      · rintro (_ | ⟨split, -⟩)
        exact absurd split (Splits.not_reserved found)
      · rintro ⟨unreserved, -⟩
        rw [found] at unreserved
        cases unreserved

/-- An identifier can be split in one way only. The lexer does it unless a digit takes a letter
with it or a reserved word is at the end, and all that it does then is in `Cuts`. -/
theorem tokenize_identifier_eq_iff {w : String} (word : ∀ c ∈ w.toList, isIdentifierChar c = true) :
    Pieces Cuts w.toList (tokenize .camelCase w) ∧
      ∃ tokens, (∀ others, Pieces Splits w.toList others ↔ others = tokens) ∧
        (tokenize .camelCase w = tokens ↔
          reservedKind? w.toList = none ∧ undisturbed w.toList = true) := by
  have cuts := pieces_tokenize word
  obtain ⟨tokens, pieces⟩ := exists_pieces word
  have only : ∀ others, Pieces Splits w.toList others ↔ others = tokens := fun others =>
    ⟨fun other => other.unique pieces, fun same => same ▸ pieces⟩
  exact ⟨cuts, tokens, only, (only _).symm.trans cuts.splits_iff⟩

theorem tokenize_identifier_eq_of_mixed_case :
    let w := "eclipseRCPExt2_x"
    let tokens : List Token := [⟨.name, "eclipse"⟩, ⟨.name, "RCP"⟩, ⟨.name, "Ext"⟩, ⟨.number, "2"⟩,
      ⟨.code, "_"⟩, ⟨.name, "x"⟩]
    (∀ c ∈ w.toList, isIdentifierChar c = true) ∧ tokenize .camelCase w = tokens ∧
      ∀ others, Pieces Splits w.toList others ↔ others = tokens := by
  intro w tokens
  -- `decide` would go through all characters if it were asked about them with the quantifier
  have word : ∀ c ∈ w.toList, isIdentifierChar c = true :=
    List.all_eq_true.1 (by decide +kernel)
  have run : tokenize .camelCase w = tokens := by decide +kernel
  obtain ⟨-, split, only, same⟩ := tokenize_identifier_eq_iff word
  obtain rfl : tokens = split := run.symm.trans (same.2 ⟨by decide +kernel, by decide +kernel⟩)
  exact ⟨word, run, only⟩

/-- A digit with the letter behind it, and a reserved word behind a low line. -/
theorem tokenize_identifier_ne :
    let suffixed := "a1f"
    let reserved := "_value"
    (∀ c ∈ suffixed.toList, isIdentifierChar c = true) ∧ reservedKind? suffixed.toList = none ∧
    tokenize .camelCase suffixed = [⟨.name, "a"⟩, ⟨.number, "1f"⟩] ∧
    ¬ Pieces Splits suffixed.toList (tokenize .camelCase suffixed) ∧
    (∀ c ∈ reserved.toList, isIdentifierChar c = true) ∧ reservedKind? reserved.toList = none ∧
    tokenize .camelCase reserved = [⟨.code, "_"⟩, ⟨.keyword, "value"⟩] ∧
    ¬ Pieces Splits reserved.toList (tokenize .camelCase reserved) := by
  intro suffixed reserved
  have differs : ∀ w : String, (∀ c ∈ w.toList, isIdentifierChar c = true) →
      undisturbed w.toList = false → ¬ Pieces Splits w.toList (tokenize .camelCase w) := by
    intro w word disturbed split
    have quiet := ((pieces_tokenize word).splits_iff.1 split).2
    rw [disturbed] at quiet
    cases quiet
  have word : ∀ c ∈ suffixed.toList, isIdentifierChar c = true :=
    List.all_eq_true.1 (by decide +kernel)
  have word' : ∀ c ∈ reserved.toList, isIdentifierChar c = true :=
    List.all_eq_true.1 (by decide +kernel)
  exact ⟨word, by decide +kernel, by decide +kernel, differs suffixed word (by decide +kernel),
    word', by decide +kernel, by decide +kernel, differs reserved word' (by decide +kernel)⟩

end FixCorpus.Lexer
