import FixCorpus.Token.Basic

/-! What the tokens of the current line have been so far. Names in an attribute
list have a kind of their own, and a name before an opening parenthesis names a
function only if the line up to it reads like the head of a declaration. -/

namespace FixCorpus.Lexer

inductive LineShape where
  | start
  | word
  | wordThenSpace
  | other
deriving DecidableEq, Repr

structure LineContext where
  shape : LineShape
  inAttribute : Bool
deriving DecidableEq, Repr

namespace LineContext

def lineStart : LineContext :=
  ⟨.start, false⟩

def afterWord : LineShape → LineShape
  | .other => .other
  | _ => .word

/-- The shape of a line after a bracket, which a word just before it outlasts. -/
def afterBracket : LineShape → LineShape
  | .word => .word
  | _ => .other

def observe (line : LineContext) (t : Token) : LineContext :=
  if t.isNewline then lineStart
  else match t.kind with
    | .whitespace => { line with shape := if line.shape = .word then .wordThenSpace else line.shape }
    | .keyword | .keywordType | .name | .nameClass => { line with shape := afterWord line.shape }
    | .punctuation =>
      if t.text = "[" then ⟨afterBracket line.shape, line.inAttribute || line.shape = .start⟩
      else if t.text = "]" then ⟨afterBracket line.shape, false⟩
      else { line with shape := .other }
    | _ => { line with shape := .other }

def observeAll (line : LineContext) (tokens : List Token) : LineContext :=
  tokens.foldl observe line

end LineContext

end FixCorpus.Lexer
