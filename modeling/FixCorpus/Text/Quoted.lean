import FixCorpus.Text.Extender
import FixCorpus.Text.Hex
import FixCorpus.Text.Invisible

/-! Texts in double quotes, as they are shown to a reader of messages. Each character
can be seen and stands for itself: one that cannot be seen, or that would change how the
one before it looks, is shown by its number. -/

namespace FixCorpus.Text

def shortHex (n : Nat) : List Char :=
  match (hexDigits 6 n).dropWhile (· == '0') with
  | [] => ['0']
  | digits => digits

def quotedChar (c : Char) : List Char :=
  if c = '"' then ['\\', '"']
  else if c = '\\' then ['\\', '\\']
  else if c = '\n' then ['\\', 'n']
  else if c = '\r' then ['\\', 'r']
  else if c = '\t' then ['\\', 't']
  else if c = '\x00' then ['\\', '0']
  else if isExtender c || isInvisible c then
    ['\\', 'u', '\x7b'] ++ shortHex c.toNat ++ ['\x7d']
  else [c]

def quoted (text : String) : String :=
  String.ofList ('"' :: (text.toList.flatMap quotedChar ++ ['"']))

end FixCorpus.Text
