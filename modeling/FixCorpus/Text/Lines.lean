/-! Lines of text. An editor's view counts a line before the first newline, one
after each newline, possibly empty, and so gives the text back when joined. A
reader's view drops an empty last line and the carriage return that a line of
some systems ends in. -/

namespace FixCorpus.Text

def splitLines (text : String) : List String :=
  (text.toList.splitOn '\n').map String.ofList

def joinLines (lines : List String) : String :=
  String.ofList (['\n'].intercalate (lines.map String.toList))

def joinWords (words : List String) : String :=
  String.ofList ([' '].intercalate (words.map String.toList))

def dropReturn (line : List Char) : List Char :=
  if line.getLast? = some '\r' then line.dropLast else line

/-- The pieces that newlines end, and the last piece if it holds anything. -/
def terminatedLines : List (List Char) → List (List Char)
  | [] => []
  | [last] => if last.isEmpty then [] else [last]
  | line :: next :: rest => dropReturn line :: terminatedLines (next :: rest)

/-- The lines a reader sees: a newline, or a carriage return and a newline, ends a line. -/
def readLines (text : String) : List String :=
  (terminatedLines (text.toList.splitOn '\n')).map String.ofList

def dropFinalNewline (text : List Char) : List Char :=
  if text.getLast? = some '\n' then text.dropLast else text

/-- Puts a character in front of a text whose line endings are newlines; the flag says whether
the text began with a newline from the start. A carriage return stands for a newline, except
directly before one. -/
def unifyEnding (c : Char) (text : List Char × Bool) : List Char × Bool :=
  if c = '\r' then (if text.2 then text.1 else '\n' :: text.1, false)
  else (c :: text.1, c = '\n')

def normalizeLineEndings (text : String) : String :=
  String.ofList (text.toList.foldr unifyEnding ([], false)).1

def countNewlines (text : String) : Nat :=
  text.toList.count '\n'

end FixCorpus.Text
