import Mathlib.Data.List.Find
import FixCorpus.Proofs.Lexer.Code
import FixCorpus.Proofs.Lexer.Newline

/-! Where the literals, names and marks of code end. Each of them ends at the next
newline or before it, whatever is behind the newline; only the inside of a block
comment and that of a verbatim string run on, to their end or over all lines. -/

namespace FixCorpus.Lexer

open Text

theorem stopsAtNewline_fraction : StopsAtNewline fraction := by
  intro a b
  cases a with
  | nil => rfl
  | cons c a =>
    by_cases point : c = '.'
    · subst point
      simp only [List.cons_append, fraction, takeWhile_append_newline (p := Char.isDigit) rfl,
        dropWhile_append_newline (p := Char.isDigit) rfl]
    · simp [fraction, point]

theorem head?_append_newline_any {p : Char → Bool} (stop : p '\n' = false) (a b : List Char) :
    (a ++ '\n' :: b).head?.any p = a.head?.any p := by
  cases a with
  | nil => exact stop
  | cons c a => rfl

theorem stopsAtNewline_exponent : StopsAtNewline exponent := by
  intro a b
  rcases a with _ | ⟨e, _ | ⟨sign, a⟩⟩
  · cases b <;> simp [exponent]
  · simp [exponent]
  · simp only [List.cons_append, exponent, head?_append_newline_any (p := Char.isDigit) rfl,
      takeWhile_append_newline (p := Char.isDigit) rfl,
      dropWhile_append_newline (p := Char.isDigit) rfl]
    split <;> rfl

theorem stopsAtNewline_numberSuffix : StopsAtNewline numberSuffix := by
  intro a b
  cases a with
  | nil => rfl
  | cons c a =>
    simp only [List.cons_append, numberSuffix]
    split <;> rfl

theorem stopsAtNewline_number : StopsAtNewline number := by
  intro a b
  cases a with
  | nil => rfl
  | cons d a =>
    simp only [List.cons_append, number, stopsAtNewline_fraction a b,
      stopsAtNewline_exponent (fraction a).2 b, stopsAtNewline_numberSuffix _ b]
    split <;> rfl

theorem identifier_cons_of_ne {c : Char} (no_sign : c ≠ '@') (text : List Char) :
    identifier (c :: text) = if isIdentifierChar c && !c.isDigit then
      ((c :: text).takeWhile isIdentifierChar, (c :: text).dropWhile isIdentifierChar)
    else ([], c :: text) := by
  unfold identifier
  split
  rename_i eq
  split at eq
  · rename_i same
    exact absurd (List.cons.inj same).1 no_sign
  · cases eq
    rfl

theorem stopsAtNewline_identifier : StopsAtNewline identifier := by
  intro a b
  cases a with
  | nil => rfl
  | cons c a =>
    by_cases sign : c = '@'
    · subst sign
      simp only [List.cons_append, identifier,
        head?_append_newline_any (p := fun c => isIdentifierChar c && !c.isDigit) rfl,
        takeWhile_append_newline isIdentifierChar_newline,
        dropWhile_append_newline isIdentifierChar_newline]
      split <;> rfl
    · have taken := takeWhile_append_newline isIdentifierChar_newline (c :: a) b
      have left := dropWhile_append_newline isIdentifierChar_newline (c :: a) b
      rw [List.cons_append] at taken left ⊢
      rw [identifier_cons_of_ne sign, identifier_cons_of_ne sign, taken, left]
      split <;> rfl

theorem quotedBody_cons_of_ne {c : Char} (no_escape : c ≠ '\\') (text : List Char) :
    quotedBody (c :: text) = if c == '"' || c == '\n' then ([], c :: text)
      else (c :: (quotedBody text).1, (quotedBody text).2) := by
  rw [quotedBody] <;> simp_all

theorem stopsAtNewline_quotedBody : StopsAtNewline quotedBody := by
  intro a b
  fun_induction quotedBody a with
  | case1 => rfl
  | case2 => rfl
  | case3 c text newline => simp_all [quotedBody]
  | case4 c text ne body rest eq ih => simp_all [quotedBody]
  | case5 c text alone pair ends =>
    have no_escape : c ≠ '\\' := fun escape => by cases text <;> simp_all
    rw [List.cons_append, quotedBody_cons_of_ne no_escape, if_pos ends]
  | case6 c text alone pair more body rest eq ih =>
    have no_escape : c ≠ '\\' := fun escape => by cases text <;> simp_all
    rw [List.cons_append, quotedBody_cons_of_ne no_escape, if_neg more, ih, eq]

theorem stopsAtNewline_lineBody : StopsAtNewline lineBody := by
  intro a b
  simp only [lineBody, takeWhile_append_newline (p := (· != '\n')) rfl,
    dropWhile_append_newline (p := (· != '\n')) rfl]

theorem stopsAtNewline_directive : StopsAtNewline directive := by
  intro a b
  cases a with
  | nil => rfl
  | cons c a =>
    by_cases mark : c = '#'
    · subst mark
      have free : ∀ w ∈ directiveWords, '\n' ∉ w.toList := by decide +kernel
      have same : ∀ w ∈ directiveWords,
          ((stripFront? w.toList (a ++ '\n' :: b)).any fun rest => !rest.head?.any isWordChar) =
            (stripFront? w.toList a).any fun rest => !rest.head?.any isWordChar := by
        intro w member
        rw [stripFront?_append_newline (free w member)]
        cases stripFront? w.toList a with
        | none => rfl
        | some rest =>
          exact congrArg (!·) (head?_append_newline_any isWordChar_newline rest b)
      simp only [List.cons_append, directive, List.find?_congr same]
      cases found : directiveWords.find? fun w =>
          (stripFront? w.toList a).any fun rest => !rest.head?.any isWordChar with
      | none => rfl
      | some w =>
        have applies := List.find?_some found
        obtain ⟨rest, stripped, -⟩ := (Option.any_eq_true _ _).1 applies
        have within : w.length ≤ a.length := by
          rw [stripFront?_eq_some_iff.1 stripped, List.length_append, String.length_toList]
          exact Nat.le_add_right _ _
        simp only [List.take_append_of_le_length within, List.drop_append_of_le_length within]
    · simp [directive, mark]

theorem isPrefixOf_append_newline {front : List Char} (free : '\n' ∉ front) (a b : List Char) :
    front.isPrefixOf (a ++ '\n' :: b) = front.isPrefixOf a := by
  induction front generalizing a with
  | nil => rfl
  | cons f front ih =>
    obtain ⟨f_ne, free⟩ := List.ne_and_not_mem_of_not_mem_cons free
    cases a with
    | nil => simp [List.isPrefixOf, Ne.symm f_ne]
    | cons c a => simp only [List.cons_append, List.isPrefixOf, ih free]

theorem stopsAtNewline_operator : StopsAtNewline operator := by
  intro a b
  have free : ∀ w ∈ operators, '\n' ∉ w.toList := by decide +kernel
  have same : ∀ w ∈ operators,
      w.toList.isPrefixOf (a ++ '\n' :: b) = w.toList.isPrefixOf a := fun w member =>
    isPrefixOf_append_newline (free w member) a b
  simp only [operator, List.find?_congr same]
  cases found : operators.find? fun w => w.toList.isPrefixOf a with
  | none => rfl
  | some w =>
    have applies := List.find?_some found
    have front := List.isPrefixOf_iff_prefix.1 applies
    have within : w.length ≤ a.length := String.length_toList ▸ front.length_le
    simp only [List.take_append_of_le_length within, List.drop_append_of_le_length within]

theorem stopsAtNewline_camelPiece :
    StopsAtNewline fun text => text.splitAt (camelPieceLength text) := by
  intro a b
  have within := camelPieceLength_le a
  simp only [List.splitAt_eq, camelPieceLength_append_newline, List.take_append_of_le_length within,
    List.drop_append_of_le_length within]

theorem stopsAtNewline_camelPieces : StopsAtNewline camelPieces := by
  have read : ∀ a b, camelPieces (a ++ '\n' :: b) = if 0 < camelPieceLength a then
      (a.take (camelPieceLength a) :: (camelPieces (a.drop (camelPieceLength a) ++ '\n' :: b)).1,
        (camelPieces (a.drop (camelPieceLength a) ++ '\n' :: b)).2)
      else ([], a ++ '\n' :: b) := fun a b => by
    have within := camelPieceLength_le a
    rw [camelPieces, camelPieceLength_append_newline, List.take_append_of_le_length within,
      List.drop_append_of_le_length within]
  intro a b
  fun_induction camelPieces a with
  | case1 a n positive pieces rest eq ih => rw [read, if_pos positive, ih, eq]
  | case2 a n nothing => rw [read, if_neg nothing]

theorem lexeme_append_newline (kind : TokenKind) {cut : List Char → List Char × List Char}
    (stops : StopsAtNewline cut) (a b : List Char) :
    lexeme kind cut (a ++ '\n' :: b) =
      (lexeme kind cut a).map fun cut => (cut.1, cut.2 ++ '\n' :: b) := by
  rw [lexeme, lexeme, stops a b]
  rcases cut a with ⟨_ | ⟨c, piece⟩, rest⟩ <;> rfl

theorem stopsAtNewline_typeName (style : Style) : StopsAtNewline (typeName style) := by
  intro a b
  have gap := takeWhile_append_newline (p := fun c => isBlank c && c != '\n') rfl a b
  have behind := dropWhile_append_newline (p := fun c => isBlank c && c != '\n') rfl a b
  simp only [typeName, gap, behind]
  cases style with
  | whole =>
    dsimp only
    rw [lexeme_append_newline .nameClass stopsAtNewline_identifier]
    cases lexeme .nameClass identifier (a.dropWhile fun c => isBlank c && c != '\n') <;> rfl
  | camelCase =>
    dsimp only
    rw [stopsAtNewline_camelPieces _ b]

theorem callFollows_append_newline (a b : List Char) :
    callFollows (a ++ '\n' :: b) = callFollows a := by
  rw [callFollows, callFollows,
    dropWhile_append_newline (p := fun c => c == ' ' || c == '\t') rfl]
  cases a.dropWhile fun c => c == ' ' || c == '\t' <;> rfl

def RunsOverLines (cut : List Char → List Char × List Char) : Prop :=
  cut [] = ([], []) ∧ ∀ a b, cut (a ++ '\n' :: b) =
    if (cut a).2 = [] then (a ++ '\n' :: (cut b).1, (cut b).2)
    else ((cut a).1, (cut a).2 ++ '\n' :: b)

theorem runsOverLines_blockBody : RunsOverLines blockBody := by
  refine ⟨rfl, fun a b => ?_⟩
  fun_induction blockBody a with
  | case1 => simp [blockBody]
  | case2 text => simp [blockBody]
  | case3 c text open_ body rest eq ih =>
    have step : blockBody (c :: (text ++ '\n' :: b)) =
        (c :: (blockBody (text ++ '\n' :: b)).1, (blockBody (text ++ '\n' :: b)).2) := by
      rw [blockBody]
      intro behind star slash
      cases text <;> simp_all
    rw [List.cons_append, step, ih, eq]
    split <;> rfl

theorem runsOverLines_verbatimBody : RunsOverLines verbatimBody := by
  refine ⟨rfl, fun a b => ?_⟩
  fun_induction verbatimBody a with
  | case1 => simp [verbatimBody]
  | case2 text body rest eq ih =>
    simp only [List.cons_append, verbatimBody, ih, eq]
    split <;> rfl
  | case3 c text single ends =>
    have quote : c = '"' := by simpa using ends
    subst quote
    rw [List.cons_append, verbatimBody]
    · rfl
    · intro behind _ next
      cases text <;> simp_all
  | case4 c text single more body rest eq ih =>
    rw [List.cons_append, verbatimBody]
    · simp only [if_neg more, ih, eq]
      split <;> rfl
    · intro behind quote _
      simp_all

end FixCorpus.Lexer
