import FixCorpus.Patch.Basic
import FixCorpus.Text.Blank
import FixCorpus.Text.Decimal
import FixCorpus.Text.Lines

/-! Reading unified diffs. A file begins with its source name and its target
name on two lines; then come its hunks, each a header and as many lines as the
header says. Everything between files that looks like none of these is passed
over. 64 bits hold the numbers of a header, but lines are numbered on from them
without a bound; `Hunk.LinesFit` says that 64 bits hold these too. -/

namespace FixCorpus.Patch

open Text

def startsWith (front : String) (line : List Char) : Bool :=
  front.toList.isPrefixOf line

/-- The file name behind the mark of a side. A tab parts it from a time of day. -/
def headerPath (line : List Char) : String :=
  String.ofList (trimRight ((line.drop 4).takeWhile (· != '\t')))

def number? (text : List Char) : Option (Int × List Char) :=
  match text.takeWhile Char.isDigit with
  | [] => none
  | run =>
    if (digitsValue run : Int) ≤ greatestInt then
      some (digitsValue run, text.dropWhile Char.isDigit)
    else none

/-- The start and the length of one side of a hunk; a length of 1 may be left out. -/
def side? (text : List Char) : Option (Int × Int × List Char) := do
  let (start, rest) ← number? text
  match rest with
  | ',' :: rest => do
    let (length, rest) ← number? rest
    return (start, length, rest)
  | rest => return (start, 1, rest)

/-- The hunk that a header announces, still without its lines. -/
def header? (line : List Char) : Option Hunk := do
  let rest ← stripFront? "@@ -".toList line
  let (sourceStart, sourceLength, rest) ← side? rest
  let rest ← stripFront? " +".toList rest
  let (targetStart, targetLength, rest) ← side? rest
  let rest ← stripFront? " @@".toList rest
  let title := match rest with
    | ' ' :: rest => rest
    | rest => rest
  return ⟨sourceStart, sourceLength, targetStart, targetLength, String.ofList title, []⟩

/-- The kind of a line of a hunk and its text. An empty line stands for an empty line that
stays. -/
def lineKind? : List Char → Option (LineKind × List Char)
  | [] => some (.context, [])
  | '+' :: text => some (.added, text)
  | '-' :: text => some (.removed, text)
  | ' ' :: text => some (.context, text)
  | _ => none

/-- Where a hunk stands on both sides, and how many lines are still to come on each. -/
structure Cursor where
  sourceLine : Int
  targetLine : Int
  sourceLeft : Int
  targetLeft : Int

namespace Cursor

def ofHunk (h : Hunk) : Cursor :=
  ⟨h.sourceStart, h.targetStart, h.sourceLength, h.targetLength⟩

def isDone (c : Cursor) : Bool :=
  c.sourceLeft ≤ 0 && c.targetLeft ≤ 0

def advance (c : Cursor) : LineKind → Cursor
  | .context => ⟨c.sourceLine + 1, c.targetLine + 1, c.sourceLeft - 1, c.targetLeft - 1⟩
  | .removed => { c with sourceLine := c.sourceLine + 1, sourceLeft := c.sourceLeft - 1 }
  | .added => { c with targetLine := c.targetLine + 1, targetLeft := c.targetLeft - 1 }

def line (c : Cursor) (kind : LineKind) (text : List Char) : HunkLine :=
  ⟨kind, String.ofList text, if kind = .added then none else some c.sourceLine,
    if kind = .removed then none else some c.targetLine⟩

end Cursor

/-- The lines of a hunk, and the lines behind it. Remarks, which a backslash begins, count on
neither side. The result is nothing if the lines do not fill the hunk exactly. -/
def body? (c : Cursor) : List (List Char) → Option (List HunkLine × List (List Char))
  | [] => if c.isDone then some ([], []) else none
  | line :: rest =>
    if c.isDone then some ([], line :: rest)
    else if startsWith "\\" line then body? c rest
    else do
      let (kind, text) ← lineKind? line
      let next := c.advance kind
      if next.sourceLeft < 0 ∨ next.targetLeft < 0 then none
      else do
        let (lines, rest) ← body? next rest
        return (c.line kind text :: lines, rest)

theorem length_body?_le {c : Cursor} {lines rest : List (List Char)} {read : List HunkLine}
    (h : body? c lines = some (read, rest)) : rest.length ≤ lines.length := by
  induction lines generalizing c read with
  | nil =>
    simp only [body?] at h
    split at h <;> simp_all
  | cons line lines ih =>
    simp only [body?] at h
    split at h
    · simp_all
    · split at h
      · exact Nat.le_succ_of_le (ih h)
      · simp only [Option.bind_eq_bind, Option.bind_eq_some_iff] at h
        obtain ⟨⟨kind, text⟩, _, h⟩ := h
        dsimp only at h
        split at h
        · simp at h
        · simp only [Option.bind_eq_some_iff] at h
          obtain ⟨⟨read', rest'⟩, found, eq⟩ := h
          cases eq
          exact Nat.le_succ_of_le (ih found)

def hunk (header : List Char) (lines : List (List Char)) :
    Except PatchError (Hunk × List (List Char)) :=
  match header? header with
  | none => .error (.badHunkHeader (String.ofList header))
  | some h =>
    match body? (.ofHunk h) lines with
    | none => .error (.truncatedHunk h.sourceStart)
    | some (read, rest) => .ok ({ h with lines := read }, rest.dropWhile (startsWith "\\"))

theorem length_hunk_le {header : List Char} {lines rest : List (List Char)} {h : Hunk}
    (read : hunk header lines = .ok (h, rest)) : rest.length ≤ lines.length := by
  unfold hunk at read
  split at read
  · simp at read
  · split at read
    · simp at read
    · rename_i found
      simp only [Except.ok.injEq, Prod.mk.injEq] at read
      rw [← read.2]
      exact Nat.le_trans (List.dropWhile_suffix _).length_le (length_body?_le found)

/-- The patches of `done`, which is backwards, with a hunk more for the file read last. -/
def addHunk (h : Hunk) : (done : List FilePatch) → Except PatchError (List FilePatch)
  | [] => .error .hunkWithoutFile
  | p :: done => .ok ({ p with hunks := p.hunks ++ [h] } :: done)

def beginFile (line next : List Char) : Bool :=
  startsWith "--- " line && startsWith "+++ " next

def readOnto (lines : List (List Char)) (done : List FilePatch) :
    Except PatchError (List FilePatch) :=
  match lines with
  | [] => .ok done.reverse
  | line :: rest =>
    if rest.head?.any (beginFile line) then
      readOnto rest.tail (⟨headerPath line, headerPath (rest.headD []), []⟩ :: done)
    else if startsWith "@@" line then
      match _found : hunk line rest with
      | .error e => .error e
      | .ok (h, rest) =>
        match addHunk h done with
        | .error e => .error e
        | .ok done => readOnto rest done
    else readOnto rest done
termination_by lines.length
decreasing_by
  · simp only [List.length_tail, List.length_cons]
    omega
  · have := length_hunk_le _found
    simp only [List.length_cons]
    omega
  · simp

def read (text : String) : Except PatchError (List FilePatch) :=
  readOnto ((readLines text).map fun line => dropReturn line.toList) []

end FixCorpus.Patch
