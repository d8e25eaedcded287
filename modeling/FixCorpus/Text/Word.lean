import FixCorpus.Text.Alphabetic
import FixCorpus.Text.Mark
import FixCorpus.Text.Number

/-! Which characters make up words of prose. Two classes are needed: the one a
word runs over, and the wider notion of letter or number that decides whether
something stands directly behind a closing quote. -/

namespace FixCorpus.Text

/-- Code points whose general category is Pc: the low line and its relatives. -/
def connectorRanges : List Range :=
  [(0x5F, 0x5F), (0x203F, 0x2040), (0x2054, 0x2054), (0xFE33, 0xFE34), (0xFE4D, 0xFE4F),
   (0xFF3F, 0xFF3F)]

def joinerRanges : List Range :=
  [(0x200C, 0x200D)]

/-- The letters, marks and digits that came with version 17.0 of the standard. -/
def recentRanges : List Range :=
  [(0x88F, 0x88F), (0xC5C, 0xC5C), (0xCDC, 0xCDC), (0x1ACF, 0x1ADD), (0x1AE0, 0x1AEB),
   (0xA7CE, 0xA7CF), (0xA7D2, 0xA7D2), (0xA7D4, 0xA7D4), (0xA7F1, 0xA7F1), (0x10940, 0x10959),
   (0x10EC5, 0x10EC7), (0x10EFA, 0x10EFB), (0x11B60, 0x11B67), (0x11DB0, 0x11DDB),
   (0x11DE0, 0x11DE9), (0x16EA0, 0x16EB8), (0x16EBB, 0x16ED3), (0x16FF2, 0x16FF6),
   (0x187F8, 0x187FF), (0x18D09, 0x18D1E), (0x18D80, 0x18DF2), (0x1E6C0, 0x1E6DE),
   (0x1E6E0, 0x1E6F5), (0x1E6FE, 0x1E6FF), (0x2B73A, 0x2B73F), (0x2CEA2, 0x2CEAD),
   (0x323B0, 0x33479)]

/-- A character of a word: alphabetic, a mark, a decimal digit, a connector or a joiner. Words are
those of version 16.0 of the standard, which leaves out what is more recent. -/
def isWordChar (c : Char) : Bool :=
  (isAlphabetic c || isDecimalDigit c || inRanges connectorRanges c || isMark c ||
    inRanges joinerRanges c) && !inRanges recentRanges c

def isAlphanumeric (c : Char) : Bool :=
  isAlphabetic c || isDecimalDigit c || isOtherNumber c

/-- A character of an identifier: a basic letter, a digit or the low line. -/
def isIdentifierChar (c : Char) : Bool :=
  c.isAlpha || c.isDigit || c == '_'

@[simp] theorem isWordChar_newline : isWordChar '\n' = false := rfl

@[simp] theorem isIdentifierChar_newline : isIdentifierChar '\n' = false := rfl

end FixCorpus.Text
