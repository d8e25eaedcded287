import FixCorpus.Lexer.CamelCase
import FixCorpus.Lexer.Rule
import FixCorpus.Text.Blank
import FixCorpus.Text.Word

/-! The lexer of prose: of comments, of the insides of strings and of
diagnostic messages. Words stay whole, and a name in single quotes is told from
an apostrophe; or, in the camel-case style, words are cut into pieces. -/

namespace FixCorpus.Lexer.Prose

open Text

def punctuation : String := "~!%^&*()+=|[]:;,.<>/?-"

def quote : Token :=
  ⟨.punctuation, "'"⟩

def isQuotable (c : Char) : Bool :=
  c != '\'' && !isBlank c

/-- A name between single quotes. The quotes stand behind a blank and before something that
continues no word, so that an apostrophe is none of them. -/
def quotedName (afterBlank : Bool) : Rule
  | '\'' :: text =>
    let inner := text.takeWhile isQuotable
    match text.dropWhile isQuotable with
    | '\'' :: next :: rest =>
      if afterBlank && !inner.isEmpty && !(isAlphanumeric next || next == '_') then
        some ([quote, Token.ofChars .name inner, quote], next :: rest)
      else none
    | _ => none
  | _ => none

def wordEnding : List Char → List Char × List Char
  | '\'' :: text =>
    match text.takeWhile isWordChar with
    | [] => ([], '\'' :: text)
    | run => ('\'' :: run, text.dropWhile isWordChar)
  | text => ([], text)

def word : Rule := fun text =>
  match text.takeWhile isWordChar with
  | [] => none
  | run =>
    let (ending, rest) := wordEnding (text.dropWhile isWordChar)
    some ([Token.ofChars .code (run ++ ending)], rest)

def camelPiece : Rule := fun text =>
  let n := camelPieceLength text
  if 0 < n then some ([Token.ofChars .name (text.take n)], text.drop n)
  else none

def apostrophe : Rule
  | '\'' :: rest => some ([quote], rest)
  | _ => none

def digit : Rule
  | c :: rest => if c.isDigit then some ([Token.ofChars .number [c]], rest) else none
  | [] => none

/-- The rules in order; `afterBlank` says that a blank stands directly before the text. -/
def rules (style : Style) (afterBlank : Bool) : List Rule :=
  blank isBlank ::
    match style with
    | .whole => [quotedName afterBlank, word, symbol punctuation]
    | .camelCase => [camelPiece, digit, apostrophe, symbol punctuation]

theorem shrinks_quotedName (afterBlank : Bool) : (quotedName afterBlank).Shrinks := by
  intro text tokens rest h
  unfold quotedName at h
  split at h
  · rename_i text
    dsimp only at h
    split at h
    · rename_i behind
      split at h
      · have := length_dropWhile_le isQuotable text
        rw [behind] at this
        simp only [Option.some.injEq, Prod.mk.injEq] at h
        rw [← h.2]
        simp only [List.length_cons] at this ⊢
        omega
      · simp at h
    · simp at h
  · simp at h

theorem length_wordEnding_le (text : List Char) : (wordEnding text).2.length ≤ text.length := by
  unfold wordEnding
  split
  · rename_i text
    split
    · simp
    · have := length_dropWhile_le isWordChar text
      simp only [List.length_cons]
      omega
  · simp

theorem shrinks_word : Rule.Shrinks word := by
  intro text tokens rest h
  simp only [word] at h
  split at h
  · simp at h
  · rename_i nonempty
    simp only [Option.some.injEq, Prod.mk.injEq] at h
    rw [← h.2]
    have bound := length_wordEnding_le (text.dropWhile isWordChar)
    cases text with
    | nil => simp at nonempty
    | cons c text =>
      by_cases hc : isWordChar c
      · have := length_dropWhile_le isWordChar text
        simp only [List.dropWhile_cons, hc, if_true, List.length_cons] at bound ⊢
        omega
      · simp [hc] at nonempty

theorem shrinks_camelPiece : Rule.Shrinks camelPiece := by
  intro text tokens rest h
  simp only [camelPiece] at h
  have := camelPieceLength_le text
  split at h
  · simp only [Option.some.injEq, Prod.mk.injEq] at h
    rw [← h.2, List.length_drop]
    omega
  · simp at h

theorem shrinks_apostrophe : Rule.Shrinks apostrophe := by
  intro text tokens rest h
  unfold apostrophe at h
  split at h <;> simp_all

theorem shrinks_digit : Rule.Shrinks digit := by
  intro text tokens rest h
  unfold digit at h
  split at h
  · split at h <;> simp_all
  · simp at h

theorem shrinks_rules (style : Style) (afterBlank : Bool) :
    (Rule.first (rules style afterBlank)).Shrinks := by
  refine Rule.shrinks_first fun rule member => ?_
  cases style <;>
    simp only [rules, List.mem_cons, List.not_mem_nil, or_false] at member <;>
    rcases member with rfl | rfl | rfl | rfl | rfl
  all_goals first
    | exact shrinks_blank isBlank
    | exact shrinks_quotedName afterBlank
    | exact shrinks_word
    | exact shrinks_camelPiece
    | exact shrinks_digit
    | exact shrinks_apostrophe
    | exact shrinks_symbol punctuation

/-- The tokens of `done`, which is backwards, and of a text; `afterBlank` says that a blank stands
directly before the text. -/
def lexOnto (style : Style) (afterBlank : Bool) (text : List Char) (done : List Token) :
    List Token :=
  match _found : Rule.first (rules style afterBlank) text with
  | none => done.reverse
  | some (tokens, rest) =>
    lexOnto style (text.head?.any isBlank) rest (tokens.reverseAux done)
termination_by text.length
decreasing_by exact shrinks_rules style afterBlank _found

def lexFrom (style : Style) (afterBlank : Bool) (text : List Char) : List Token :=
  lexOnto style afterBlank text []

theorem lexOnto_none {style : Style} {afterBlank : Bool} {text : List Char}
    (h : Rule.first (rules style afterBlank) text = none) (done : List Token) :
    lexOnto style afterBlank text done = done.reverse := by
  rw [lexOnto]
  split <;> simp_all

theorem lexOnto_some {style : Style} {afterBlank : Bool} {text rest : List Char}
    {tokens : List Token} (h : Rule.first (rules style afterBlank) text = some (tokens, rest))
    (done : List Token) :
    lexOnto style afterBlank text done =
      lexOnto style (text.head?.any isBlank) rest (tokens.reverseAux done) := by
  rw [lexOnto]
  split <;> simp_all

theorem lexOnto_eq (style : Style) (afterBlank : Bool) (text : List Char)
    (done : List Token) :
    lexOnto style afterBlank text done = done.reverse ++ lexFrom style afterBlank text := by
  unfold lexFrom
  induction length : text.length using Nat.strongRecOn generalizing afterBlank text done with
  | ind n ih =>
    cases found : Rule.first (rules style afterBlank) text with
    | none => simp [lexOnto_none found]
    | some cut =>
      obtain ⟨tokens, rest⟩ := cut
      have shorter := shrinks_rules style afterBlank found
      rw [lexOnto_some found, lexOnto_some found, ih rest.length (by omega) _ _ _ rfl,
        ih rest.length (by omega) _ _ (tokens.reverseAux []) rfl]
      simp [List.reverseAux_eq]

theorem lexFrom_eq (style : Style) (afterBlank : Bool) (text : List Char) :
    lexFrom style afterBlank text = match Rule.first (rules style afterBlank) text with
      | none => []
      | some (tokens, rest) => tokens ++ lexFrom style (text.head?.any isBlank) rest := by
  cases found : Rule.first (rules style afterBlank) text with
  | none => simp [lexFrom, lexOnto_none found]
  | some cut => rw [lexFrom, lexOnto_some found, lexOnto_eq]; simp [List.reverseAux_eq]

def lexFragment (style : Style) (text : List Char) : List Token :=
  lexFrom style false text

/-- The tokens of a text that ends where its last line does. A newline is put behind it for the
rules that look ahead, and its token is dropped. -/
def tokenize (style : Style) (text : String) : List Token :=
  dropFinalNewline (lexFragment style (text.toList ++ ['\n']))

end FixCorpus.Lexer.Prose
