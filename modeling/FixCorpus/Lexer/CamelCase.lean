/-! Pieces of a name in mixed case. The first piece of `EclipseRCPExt` is
`Eclipse`, that of `RCPExt` is `RCP`, that of `Ext` is the whole of it. -/

namespace FixCorpus.Lexer

/-- The length of the piece a text begins with: capitals up to the one that begins a capitalised
word, or a capitalised word, or small letters, or capitals. It is 0 if the text begins with no
basic letter. -/
def camelPieceLength (text : List Char) : Nat :=
  let upper := (text.takeWhile Char.isUpper).length
  let lower := ((text.drop upper).takeWhile Char.isLower).length
  if upper = 0 then lower
  else if lower = 0 then upper
  else if upper = 1 then 1 + lower
  else upper - 1

theorem camelPieceLength_le (text : List Char) : camelPieceLength text ≤ text.length := by
  have upper : (text.takeWhile Char.isUpper).length ≤ text.length :=
    (List.takeWhile_prefix _).length_le
  have lower : ((text.drop (text.takeWhile Char.isUpper).length).takeWhile Char.isLower).length ≤
      text.length - (text.takeWhile Char.isUpper).length := by
    rw [← List.length_drop]
    exact (List.takeWhile_prefix _).length_le
  unfold camelPieceLength
  dsimp only
  split
  · omega
  · split
    · omega
    · split <;> omega

def camelPieces (text : List Char) : List (List Char) × List Char :=
  let n := camelPieceLength text
  if 0 < n then
    let (pieces, rest) := camelPieces (text.drop n)
    (text.take n :: pieces, rest)
  else ([], text)
termination_by text.length
decreasing_by
  have := camelPieceLength_le text
  simp only [List.length_drop]
  omega

theorem length_camelPieces_le (text : List Char) :
    (camelPieces text).2.length ≤ text.length := by
  fun_induction camelPieces text with
  | case1 text n h pieces rest eq ih =>
    rw [eq] at ih
    simp only [List.length_drop] at ih
    dsimp only
    omega
  | case2 text => simp

end FixCorpus.Lexer
