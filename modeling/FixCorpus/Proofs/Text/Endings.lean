import FixCorpus.Proofs.Text.Lines
import Mathlib.Data.List.Forall2

/-! Lines that are ended in one way or the other. A reader takes the endings off,
and with them carriage returns that a line itself ends in. -/

namespace FixCorpus.Text

/-- The text holds the lines, each behind a newline or behind a carriage return and a newline; a
last line that holds anything may go without. -/
inductive Ended : List (List Char) → List Char → Prop
  | nil : Ended [] []
  | last {line : List Char} (nonempty : line ≠ []) (free : '\n' ∉ line) : Ended [line] line
  | newline {line : List Char} {lines : List (List Char)} {text : List Char} (free : '\n' ∉ line)
      (others : Ended lines text) : Ended (line :: lines) (line ++ '\n' :: text)
  | returnNewline {line : List Char} {lines : List (List Char)} {text : List Char}
      (free : '\n' ∉ line) (others : Ended lines text) :
      Ended (line :: lines) (line ++ '\r' :: '\n' :: text)

/-- The second line is the first one without carriage returns that it ends in, of which some may
be left. -/
def Trims (line trimmed : List Char) : Prop :=
  trimmed = dropReturn line ∨ trimmed = dropReturn (dropReturn line)

theorem Trims.keep {P : List Char → Prop} (keeps : ∀ line, P line → P (dropReturn line))
    {line trimmed : List Char} (h : Trims line trimmed) (holds : P line) : P trimmed := by
  rcases h with rfl | rfl
  · exact keeps line holds
  · exact keeps _ (keeps line holds)

@[simp] theorem dropReturn_append_return (line : List Char) :
    dropReturn (line ++ ['\r']) = line := by
  simp [dropReturn]

theorem dropReturn_eq_self {line : List Char} (no_return : line.getLast? ≠ some '\r') :
    dropReturn line = line :=
  if_neg no_return

theorem Trims.eq_self {line trimmed : List Char} (h : Trims line trimmed)
    (no_return : line.getLast? ≠ some '\r') : trimmed = line := by
  have same := dropReturn_eq_self no_return
  rcases h with rfl | rfl
  · exact same
  · rw [same, same]

theorem dropReturn_cases (line : List Char) :
    line = dropReturn line ++ ['\r'] ∨ dropReturn line = line := by
  by_cases last : line.getLast? = some '\r'
  · obtain ⟨front, rfl⟩ := List.getLast?_eq_some_iff.1 last
    exact Or.inl (by rw [dropReturn_append_return])
  · exact Or.inr (dropReturn_eq_self last)

theorem terminatedLines_cons {line : List Char} (free : '\n' ∉ line) (text : List Char) :
    terminatedLines ((line ++ '\n' :: text).splitOn '\n') =
      dropReturn line :: terminatedLines (text.splitOn '\n') := by
  rw [splitOn_append_newline, splitOn_of_free free]
  obtain ⟨next, rest, pieces⟩ := List.exists_cons_of_ne_nil (List.splitOn_ne_nil '\n' text)
  rw [pieces, List.singleton_append, terminatedLines]

theorem Ended.trims {lines : List (List Char)} {text : List Char} (h : Ended lines text) :
    List.Forall₂ Trims lines ((terminatedLines (text.splitOn '\n')).map dropReturn) := by
  induction h with
  | nil => exact .nil
  | last nonempty free =>
    rw [splitOn_of_free free, terminatedLines, if_neg (by simpa using nonempty)]
    exact .cons (Or.inl rfl) .nil
  | newline free others ih =>
    rw [terminatedLines_cons free]
    exact .cons (Or.inr rfl) ih
  | @returnNewline line lines text free others ih =>
    have longer_free : '\n' ∉ line ++ ['\r'] := by simpa using free
    rw [List.append_cons, terminatedLines_cons longer_free, dropReturn_append_return]
    exact .cons (Or.inl rfl) ih

end FixCorpus.Text
