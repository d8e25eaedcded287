/-! Taking a known piece off the front or the end of a text. -/

namespace FixCorpus.Text

def stripFront? : (front text : List Char) → Option (List Char)
  | [], text => some text
  | f :: front, c :: text => if f = c then stripFront? front text else none
  | _ :: _, [] => none

theorem stripFront?_eq_some_iff {front text rest : List Char} :
    stripFront? front text = some rest ↔ text = front ++ rest := by
  fun_induction stripFront? front text <;> simp_all [eq_comm]

def stripEnd? (tail text : List Char) : Option (List Char) :=
  (stripFront? tail.reverse text.reverse).map List.reverse

end FixCorpus.Text
