import FixCorpus.Json.Value
import FixCorpus.Text.Hex

/-! Writing JSON with two spaces of indentation for each level, one item or
member on a line. Only quotes, backslashes and control characters are escaped. -/

namespace FixCorpus.Json

open Text

def escapeChar (c : Char) : List Char :=
  if c = '"' then ['\\', '"']
  else if c = '\\' then ['\\', '\\']
  else if c = '\x08' then ['\\', 'b']
  else if c = '\x0C' then ['\\', 'f']
  else if c = '\n' then ['\\', 'n']
  else if c = '\r' then ['\\', 'r']
  else if c = '\t' then ['\\', 't']
  else if c.toNat < 0x20 then
    ['\\', 'u', '0', '0', hexDigit (c.toNat / 16), hexDigit (c.toNat % 16)]
  else [c]

def quote (s : String) : String :=
  String.ofList ('"' :: (s.toList.flatMap escapeChar ++ ['"']))

def newLine (level : Nat) : String :=
  "\n" ++ String.ofList (List.replicate (2 * level) ' ')

mutual

/-- The text of a value whose first line is indented already. -/
def write (level : Nat) : Json → String
  | .null => "null"
  | .bool b => if b then "true" else "false"
  | .int n => toString n
  | .real literal => literal
  | .str s => quote s
  | .unreadable => "null"
  | .arr [] => "[]"
  | .arr (v :: items) =>
    "[" ++ newLine (level + 1) ++ write (level + 1) v ++ writeItems (level + 1) items ++
      newLine level ++ "]"
  | .obj [] => "\x7b\x7d"
  | .obj ((k, v) :: members) =>
    "\x7b" ++ newLine (level + 1) ++ quote k ++ ": " ++ write (level + 1) v ++
      writeMembers (level + 1) members ++ newLine level ++ "\x7d"

def writeItems (level : Nat) : List Json → String
  | [] => ""
  | v :: items => "," ++ newLine level ++ write level v ++ writeItems level items

def writeMembers (level : Nat) : List (String × Json) → String
  | [] => ""
  | (k, v) :: members =>
    "," ++ newLine level ++ quote k ++ ": " ++ write level v ++ writeMembers level members

end

/-- The text of a value as a file of its own, without a newline at its end. -/
def render (v : Json) : String :=
  v.write 0

end FixCorpus.Json
