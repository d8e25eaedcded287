import FixCorpus.Lexer.Prose
import FixCorpus.Text.Lowercase

/-! Diagnostic messages. They are put into lower case before they are cut into
tokens, except the words that a single quote opens, which name code. -/

namespace FixCorpus.Message

open Text

/-- The word in lower case, unless a single quote opens it. -/
def prepareWord (word : List Char) : List Char :=
  if word.head? = some '\'' then word else lowercase word

def prepare (message : String) : String :=
  String.ofList ([' '].intercalate ((message.toList.splitOn ' ').map prepareWord))

def tokenize (style : Lexer.Style) (message : String) : List Token :=
  Lexer.Prose.tokenize style (prepare message)

end FixCorpus.Message
