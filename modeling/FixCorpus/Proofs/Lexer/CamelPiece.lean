import FixCorpus.Lexer.CamelCase
import FixCorpus.Proofs.Text.Blank

/-! The shapes of the pieces that a run of letters is cut into. The lengths that
the lexers compare come down to them: wherever a letter stands, just one such
piece begins, and it is the one that is cut off. -/

namespace FixCorpus.Lexer

open Text

/-- A piece of a run of letters and what stands behind it: capitals in front of a capitalised
word, a capitalised word, small letters, or capitals. No two of these fit the same text, so it
does not matter which is looked for first. -/
inductive CamelPiece : List Char → List Char → Prop where
  | capitalsBeforeWord {piece rest : List Char} {first second : Char} (nonempty : piece ≠ [])
      (upper : ∀ c ∈ piece, c.isUpper = true) (capital : first.isUpper = true)
      (small : second.isLower = true) : CamelPiece piece (first :: second :: rest)
  | capitalised {first : Char} {others rest : List Char} (capital : first.isUpper = true)
      (nonempty : others ≠ []) (lower : ∀ c ∈ others, c.isLower = true)
      (ends : rest.head?.any Char.isLower = false) : CamelPiece (first :: others) rest
  | small {piece rest : List Char} (nonempty : piece ≠ [])
      (lower : ∀ c ∈ piece, c.isLower = true) (ends : rest.head?.any Char.isLower = false) :
      CamelPiece piece rest
  | capitals {piece rest : List Char} (nonempty : piece ≠ [])
      (upper : ∀ c ∈ piece, c.isUpper = true) (ends : rest.head?.any Char.isAlpha = false) :
      CamelPiece piece rest

theorem isLower_of_lt {c : Char} (below : c.val < 'a'.val) : c.isLower = false :=
  Bool.and_eq_false_iff.2 (Or.inl (decide_eq_false (UInt32.not_le.2 below)))

theorem isLower_of_isUpper {c : Char} (upper : c.isUpper = true) : c.isLower = false :=
  isLower_of_lt (UInt32.lt_of_le_of_lt (of_decide_eq_true upper).2 (by decide))

theorem isUpper_of_isLower {c : Char} (lower : c.isLower = true) : c.isUpper = false := by
  cases upper : c.isUpper with
  | false => rfl
  | true => exact absurd lower (Bool.eq_false_iff.1 (isLower_of_isUpper upper))

theorem isLower_of_isDigit {c : Char} (digit : c.isDigit = true) : c.isLower = false := by
  have below : c.val ≤ '9'.val := of_decide_eq_true (Bool.and_eq_true_iff.1 digit).2
  exact isLower_of_lt (UInt32.lt_of_le_of_lt below (by decide))

theorem isAlpha_of_isUpper {c : Char} (upper : c.isUpper = true) : c.isAlpha = true :=
  Bool.or_eq_true_iff.2 (Or.inl upper)

theorem isAlpha_of_isLower {c : Char} (lower : c.isLower = true) : c.isAlpha = true :=
  Bool.or_eq_true_iff.2 (Or.inr lower)

theorem isDigit_of_isAlpha {c : Char} (letter : c.isAlpha = true) : c.isDigit = false := by
  cases digit : c.isDigit with
  | false => rfl
  | true =>
    have below : c.val ≤ '9'.val := of_decide_eq_true (Bool.and_eq_true_iff.1 digit).2
    rcases Bool.or_eq_true_iff.1 letter with upper | lower
    · have between : 'A'.val ≤ '9'.val := UInt32.le_trans (of_decide_eq_true upper).1 below
      exact absurd between (by decide)
    · exact absurd lower (Bool.eq_false_iff.1 (isLower_of_isDigit digit))

theorem CamelPiece.isAlpha {piece rest : List Char} (h : CamelPiece piece rest) :
    ∀ c ∈ piece, c.isAlpha = true := by
  cases h with
  | capitalsBeforeWord nonempty upper => exact fun c member => isAlpha_of_isUpper (upper c member)
  | capitalised capital nonempty lower =>
    exact List.forall_mem_cons.2
      ⟨isAlpha_of_isUpper capital, fun c member => isAlpha_of_isLower (lower c member)⟩
  | small nonempty lower => exact fun c member => isAlpha_of_isLower (lower c member)
  | capitals nonempty upper => exact fun c member => isAlpha_of_isUpper (upper c member)

theorem CamelPiece.ne_nil {piece rest : List Char} (h : CamelPiece piece rest) : piece ≠ [] := by
  cases h with
  | capitalised => exact List.cons_ne_nil _ _
  | capitalsBeforeWord nonempty | small nonempty | capitals nonempty => exact nonempty

theorem CamelPiece.head?_rest {piece rest : List Char} (h : CamelPiece piece rest) :
    rest.head?.any Char.isLower = false := by
  cases h with
  | capitalsBeforeWord nonempty upper capital => exact isLower_of_isUpper capital
  | capitalised capital nonempty lower ends => exact ends
  | small nonempty lower ends => exact ends
  | capitals nonempty upper ends =>
    cases rest with
    | nil => rfl
    | cons c rest => exact (Bool.or_eq_false_iff.1 ends).2

theorem head?_dropWhile_any (p : Char → Bool) (text : List Char) :
    (text.dropWhile p).head?.any p = false := by
  have stops := List.head?_dropWhile_not p text
  cases front : (text.dropWhile p).head? with
  | none => rfl
  | some c => simpa [front] using stops

theorem takeWhile_append_of_stop {p : Char → Bool} {front behind : List Char}
    (all : ∀ c ∈ front, p c = true) (stop : behind.head?.any p = false) :
    (front ++ behind).takeWhile p = front := by
  have nothing : behind.takeWhile p = [] := by
    cases behind with
    | nil => rfl
    | cons c behind => exact List.takeWhile_cons_of_neg (Bool.eq_false_iff.1 stop)
  rw [List.takeWhile_append_of_pos all, nothing, List.append_nil]

theorem dropWhile_append_of_stop {p : Char → Bool} {front behind : List Char}
    (all : ∀ c ∈ front, p c = true) (stop : behind.head?.any p = false) :
    (front ++ behind).dropWhile p = behind := by
  rw [List.dropWhile_append_of_pos all]
  cases behind with
  | nil => rfl
  | cons c behind => exact List.dropWhile_cons_of_neg (Bool.eq_false_iff.1 stop)

theorem camelPieceLength_append {upper lower rest : List Char}
    (capitals : ∀ c ∈ upper, c.isUpper = true) (smalls : ∀ c ∈ lower, c.isLower = true)
    (no_capital : (lower ++ rest).head?.any Char.isUpper = false)
    (no_small : rest.head?.any Char.isLower = false) :
    camelPieceLength (upper ++ (lower ++ rest)) =
      if upper.length = 0 then lower.length else if lower.length = 0 then upper.length
      else if upper.length = 1 then 1 + lower.length else upper.length - 1 := by
  simp only [camelPieceLength, takeWhile_append_of_stop capitals no_capital, List.drop_left,
    takeWhile_append_of_stop smalls no_small]

theorem CamelPiece.length_eq {piece rest : List Char} (h : CamelPiece piece rest) :
    camelPieceLength (piece ++ rest) = piece.length := by
  cases h with
  | @capitalsBeforeWord _ rest first second nonempty upper capital small =>
    -- The run of capitals has one more than the piece: the last one begins the next word.
    have capitals : ∀ c ∈ piece ++ [first], c.isUpper = true :=
      List.forall_mem_append.2 ⟨upper, List.forall_mem_singleton.2 capital⟩
    have smalls : ∀ c ∈ second :: rest.takeWhile Char.isLower, c.isLower = true :=
      List.forall_mem_cons.2 ⟨small, fun _ => List.mem_takeWhile_imp⟩
    have length := camelPieceLength_append capitals smalls (isUpper_of_isLower small)
      (head?_dropWhile_any Char.isLower rest)
    rw [List.cons_append, List.takeWhile_append_dropWhile, List.append_assoc] at length
    simpa [nonempty] using length
  | @capitalised first others _ capital nonempty lower ends =>
    obtain ⟨second, others, rfl⟩ := List.exists_cons_of_ne_nil nonempty
    have small := isUpper_of_isLower (lower second List.mem_cons_self)
    have length := camelPieceLength_append (List.forall_mem_singleton.2 capital) lower small ends
    exact length.trans (Nat.add_comm 1 _)
  | small nonempty lower ends =>
    obtain ⟨first, others, rfl⟩ := List.exists_cons_of_ne_nil nonempty
    have small := isUpper_of_isLower (lower first List.mem_cons_self)
    exact camelPieceLength_append (List.forall_mem_nil _) lower small ends
  | capitals nonempty upper ends =>
    have no_small := CamelPiece.head?_rest (.capitals nonempty upper ends)
    have no_capital : rest.head?.any Char.isUpper = false := by
      cases rest with
      | nil => rfl
      | cons c rest => exact (Bool.or_eq_false_iff.1 ends).1
    have length := camelPieceLength_append upper (List.forall_mem_nil _) no_capital no_small
    simpa [nonempty] using length

theorem exists_camelPiece_append {upper lower rest : List Char}
    (capitals : ∀ c ∈ upper, c.isUpper = true) (smalls : ∀ c ∈ lower, c.isLower = true)
    (no_capital : (lower ++ rest).head?.any Char.isUpper = false)
    (no_small : rest.head?.any Char.isLower = false) (letters : upper ++ lower ≠ []) :
    ∃ piece behind, upper ++ (lower ++ rest) = piece ++ behind ∧ CamelPiece piece behind := by
  -- The lengths of the run of capitals and of the small letters behind it tell four cases apart.
  rcases List.eq_nil_or_concat upper with rfl | ⟨front, last, rfl⟩
  · exact ⟨lower, rest, rfl, .small letters smalls no_small⟩
  rw [List.concat_eq_append] at capitals ⊢
  have capital : last.isUpper = true := capitals last List.mem_concat_self
  rcases lower with _ | ⟨small, lower⟩
  · refine ⟨front ++ [last], rest, rfl, .capitals (List.concat_ne_nil _ _) capitals ?_⟩
    cases rest with
    | nil => rfl
    | cons c rest => exact Bool.or_eq_false_iff.2 ⟨no_capital, no_small⟩
  rcases front with _ | ⟨first, front⟩
  · exact ⟨last :: small :: lower, rest, rfl,
      .capitalised capital (List.cons_ne_nil _ _) smalls no_small⟩
  · exact ⟨first :: front, last :: small :: (lower ++ rest), by simp,
      .capitalsBeforeWord (List.cons_ne_nil _ _)
        (fun c member => capitals c (List.mem_append_left _ member)) capital
        (smalls small List.mem_cons_self)⟩

theorem exists_camelPiece {c : Char} (letter : c.isAlpha = true) (text : List Char) :
    ∃ piece behind, c :: text = piece ++ behind ∧ CamelPiece piece behind := by
  have no_capital := head?_dropWhile_any Char.isUpper (c :: text)
  rw [← List.takeWhile_append_dropWhile (p := Char.isLower)
    (l := (c :: text).dropWhile Char.isUpper)] at no_capital
  have letters : (c :: text).takeWhile Char.isUpper ++
      ((c :: text).dropWhile Char.isUpper).takeWhile Char.isLower ≠ [] := by
    cases upper : c.isUpper with
    | true => simp [upper]
    | false =>
      have lower : c.isLower = true :=
        (Bool.or_eq_true_iff.1 letter).resolve_left (Bool.eq_false_iff.1 upper)
      simp [upper, lower]
  have found := exists_camelPiece_append (fun _ => List.mem_takeWhile_imp)
    (fun _ => List.mem_takeWhile_imp) no_capital (head?_dropWhile_any _ _) letters
  rwa [List.takeWhile_append_dropWhile, List.takeWhile_append_dropWhile] at found

end FixCorpus.Lexer
