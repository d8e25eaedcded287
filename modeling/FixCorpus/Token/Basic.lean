/-! Tokens of source code and of prose. A space, a newline and a tab are tokens
of their own whose texts are words, so that the texts of a token list can be
written with spaces between them and read again. -/

namespace FixCorpus

/-- What a token is. Words of prose and all that has no better name are `code`. -/
inductive TokenKind where
  | code
  | name
  | nameClass
  | nameFunction
  | nameAttribute
  | keyword
  | keywordType
  | string
  | stringChar
  | number
  | operator
  | punctuation
  | commentSingle
  | commentMultiline
  | preprocessorDirective
  | whitespace
deriving DecidableEq, Repr

def TokenKind.isIdentifier : TokenKind → Bool
  | .name | .nameClass | .nameFunction | .nameAttribute => true
  | _ => false

structure Token where
  kind : TokenKind
  text : String
deriving DecidableEq, Repr

namespace Token

/-- The token text of one blank character: a word for each of the three common ones. -/
def blankText (c : Char) : String :=
  if c = ' ' then "WHITESPACE"
  else if c = '\n' then "NEWLINE"
  else if c = '\t' then "TAB"
  else String.ofList [c]

def restore (text : String) : String :=
  if text = "WHITESPACE" then " "
  else if text = "NEWLINE" then "\n"
  else if text = "TAB" then "\t"
  else text

def blank (c : Char) : Token :=
  ⟨.whitespace, blankText c⟩

/-- The token of the given kind for characters that stand for themselves. -/
def ofChars (kind : TokenKind) (text : List Char) : Token :=
  ⟨kind, String.ofList text⟩

def isNewline (t : Token) : Bool :=
  t.kind = .whitespace && t.text = "NEWLINE"

@[simp] theorem isNewline_blank_newline : (blank '\n').isNewline = true := rfl

@[simp] theorem text_ofChars (kind : TokenKind) (text : List Char) :
    (ofChars kind text).text = String.ofList text := rfl

end Token

def tokenTexts (tokens : List Token) : List String :=
  tokens.map (·.text)

def restoreTexts (texts : List String) : String :=
  String.join (texts.map Token.restore)

def detokenize (tokens : List Token) : String :=
  restoreTexts (tokenTexts tokens)

def newlineCount (tokens : List Token) : Nat :=
  tokens.countP (·.isNewline)

end FixCorpus
