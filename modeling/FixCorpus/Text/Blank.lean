import FixCorpus.Text.Range

/-! White space: the Unicode property White_Space, the words between blanks,
and trimming at the right end. -/

namespace FixCorpus.Text

/-- Code points with the property White_Space, in increasing order. -/
def blankRanges : List Range :=
  [(0x9, 0xD), (0x20, 0x20), (0x85, 0x85), (0xA0, 0xA0), (0x1680, 0x1680), (0x2000, 0x200A),
   (0x2028, 0x2029), (0x202F, 0x202F), (0x205F, 0x205F), (0x3000, 0x3000)]

def isBlank (c : Char) : Bool :=
  inRanges blankRanges c

@[simp] theorem isBlank_space : isBlank ' ' = true := rfl

@[simp] theorem isBlank_newline : isBlank '\n' = true := rfl

/-- The maximal blank-free pieces of a text, in order. -/
def words (text : String) : List String :=
  ((text.toList.splitOnP isBlank).filter (!·.isEmpty)).map String.ofList

def trimRight (text : List Char) : List Char :=
  (text.reverse.dropWhile isBlank).reverse

end FixCorpus.Text
