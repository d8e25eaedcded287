import FixCorpus.Proofs.Json.Lexeme

/-! What is written as JSON is read as it was: `parse?_render`. The text of a value
is cut into the lexemes that it was put together from, and these drive the machine
from where a value is expected to where it is complete. -/

namespace FixCorpus.Json

open State

inductive Plain : Json → Prop where
  | null : Plain .null
  | bool (b : Bool) : Plain (.bool b)
  | int {n : Int} (fits : FitsJson n) : Plain (.int n)
  | str (s : String) : Plain (.str s)
  | arr {items : List Json} (plain : ∀ v ∈ items, Plain v) : Plain (.arr items)
  | obj {members : List (String × Json)} (plain : ∀ m ∈ members, Plain m.2) : Plain (.obj members)

/-- The text is cut into the lexemes, whatever spaces stand in front of it. -/
def Lexes (text : List Char) (ls : List Lexeme) : Prop :=
  ∀ spaces rest done, (∀ c ∈ spaces, isSpace c = true) → EndsNumber rest →
    lexemesOnto (spaces ++ text ++ rest) done = lexemesOnto rest (ls.reverse ++ done)

section

variable {text more : List Char} {ls ms : List Lexeme}

theorem Lexes.append (first : Lexes text ls) (second : Lexes more ms) (ends : EndsNumber more) :
    Lexes (text ++ more) (ls ++ ms) := by
  intro spaces rest done blank ends_rest
  have parted : spaces ++ (text ++ more) ++ rest = spaces ++ text ++ (more ++ rest) := by simp
  have behind := second [] rest (ls.reverse ++ done) (by simp) ends_rest
  rw [parted, first spaces _ done blank (ends.append ends_rest), ← List.nil_append (more ++ rest),
    ← List.append_assoc, behind, List.reverse_append, List.append_assoc]

theorem Lexes.behind_spaces (h : Lexes text ls) (spaces : List Char)
    (blank : ∀ c ∈ spaces, isSpace c = true) : Lexes (spaces ++ text) ls := by
  intro before rest done blank_before ends
  rw [← List.append_assoc]
  exact h (before ++ spaces) rest done (List.forall_mem_append.2 ⟨blank_before, blank⟩) ends

theorem lexes_of_lexeme {c : Char} {l : Lexeme} (front : isSpace c = false)
    (read : ∀ rest, EndsNumber rest → lexeme (c :: text ++ rest) = some (l, rest)) :
    Lexes (c :: text) [l] := by
  intro spaces rest done blank ends
  have start : (spaces ++ c :: text ++ rest).dropWhile isSpace = c :: text ++ rest := by
    rw [List.append_assoc, List.dropWhile_append_of_pos blank, List.cons_append,
      List.dropWhile_cons_of_neg (by simp [front])]
  have shorter : rest.length < (spaces ++ c :: text ++ rest).length := by simp; omega
  rw [lexemesOnto, start]
  simp only [List.cons_append] at read ⊢
  rw [read rest ends]
  simp only [if_pos shorter]
  rfl

theorem lexes_quote (s : String) : Lexes (quote s).toList [.string (some s)] := by
  rw [quote, String.toList_ofList]
  refine lexes_of_lexeme rfl fun rest _ => ?_
  have read := stringParts_quoted s.toList rest
  simp only [List.cons_append, List.append_assoc, List.nil_append, lexeme, string, read,
    joinParts_map_part, Option.bind_eq_bind, Option.bind_some, Option.pure_def, Option.map_some,
    String.ofList_toList]

theorem lexeme_of_number {c : Char} (starts : c.isDigit = true ∨ c = '-') :
    lexeme (c :: text) = (number (c :: text)).map fun r => (.scalar r.1, r.2) := by
  unfold lexeme
  split
  any_goals
    rename_i same
    cases same
    exact absurd starts (by decide)
  rfl

theorem lexes_int {n : Int} (fits : FitsJson n) : Lexes (toString n).toList [.scalar (.int n)] := by
  have starts : ∃ c text, (toString n).toList = c :: text ∧ (c.isDigit = true ∨ c = '-') := by
    rw [Text.toList_toString]
    split
    · cases run : Nat.toDigits 10 n.toNat with
      | nil => exact absurd run Nat.toDigits_ne_nil
      | cons c text =>
        exact ⟨c, text, rfl, .inl (Text.isDigit_of_mem_toDigits (n := n.toNat) (by simp [run]))⟩
    · exact ⟨_, _, rfl, .inr rfl⟩
  obtain ⟨c, text, written, starts⟩ := starts
  have front : isSpace c = false := by
    rcases starts with digit | rfl
    · simp only [isSpace, Bool.or_eq_false_iff, beq_eq_false_iff_ne]
      refine ⟨⟨⟨?_, ?_⟩, ?_⟩, ?_⟩ <;> (rintro rfl; cases digit)
    · rfl
  rw [written]
  refine lexes_of_lexeme front fun rest ends => ?_
  have read := number_toString fits ends
  rw [written] at read
  rw [List.cons_append] at read ⊢
  rw [lexeme_of_number starts, read]
  rfl

theorem isSpace_newLine (level : Nat) : ∀ c ∈ (newLine level).toList, isSpace c = true := by
  intro c member
  simp only [newLine, String.toList_append, String.toList_ofList, List.mem_append] at member
  rcases member with front | indented
  · rw [List.mem_singleton.1 front]
    rfl
  · rw [List.eq_of_mem_replicate indented]
    rfl

theorem endsNumber_cons {c : Char} (other : c.isDigit = false ∧ c ∉ ['.', 'e', 'E']) :
    EndsNumber (c :: text) := by
  rintro _ ⟨⟩
  exact other

theorem endsNumber_newLine (level : Nat) : EndsNumber ((newLine level).toList ++ text) := by
  rw [newLine, String.toList_append]
  exact endsNumber_cons (by decide)

theorem Lexes.on_new_line (h : Lexes text ls) (level : Nat) :
    Lexes ((newLine level).toList ++ text) ls :=
  h.behind_spaces _ (isSpace_newLine level)

end

/-- The text is cut into lexemes that complete the value where one is expected. -/
def Spells (text : List Char) (v : Json) : Prop :=
  ∃ ls, Lexes text ls ∧ ∀ stack,
    ls.foldlM step ⟨stack, .value⟩ = complete v stack ∧
      ls.foldlM step ⟨stack, .firstItem⟩ = complete v stack

section

variable {text : List Char}

/-- Texts that go on with an array or an object, whose frame holds some items or members. -/
def GoesOn (text : List Char) (frame : Frame) (v : Json) : Prop :=
  ∃ ls, Lexes text ls ∧ EndsNumber text ∧
    ∀ stack, ls.foldlM step ⟨frame :: stack, .separator⟩ = complete v stack

theorem lexes_mark {c : Char} {l : Lexeme} (front : isSpace c = false)
    (read : ∀ rest, lexeme (c :: rest) = some (l, rest)) : Lexes [c] [l] :=
  lexes_of_lexeme front fun rest _ => read rest

theorem GoesOn.behind_value {more : List Char} {taken : Frame} {v whole : Json}
    (rest : GoesOn more taken whole) (frame : Frame) (value : Spells text v)
    (takes : ∀ stack, complete v (frame :: stack) = some ⟨taken :: stack, .separator⟩) :
    ∃ ls, Lexes (text ++ more) ls ∧ ∀ stack,
      ls.foldlM step ⟨frame :: stack, .value⟩ = complete whole stack ∧
        ls.foldlM step ⟨frame :: stack, .firstItem⟩ = complete whole stack := by
  obtain ⟨ls, lexes, completes⟩ := value
  obtain ⟨ms, lexes_rest, ends, goes_on⟩ := rest
  refine ⟨ls ++ ms, lexes.append lexes_rest ends, fun stack => ⟨?_, ?_⟩⟩
  · rw [List.foldlM_append, (completes _).1, takes]
    exact goes_on stack
  · rw [List.foldlM_append, (completes _).2, takes]
    exact goes_on stack

theorem GoesOn.behind_member {more : List Char} {members : List Member} {k : String}
    {v whole : Json} (rest : GoesOn more (.object ((some k, v) :: members)) whole)
    (value : Spells text v) :
    ∃ ls, Lexes ((quote k).toList ++ ([':'] ++ ([' '] ++ (text ++ more))))
        (.string (some k) :: .colon :: ls) ∧
      ∀ stack, ls.foldlM step ⟨.member members (some k) :: stack, .value⟩ =
        complete whole stack := by
  obtain ⟨ls, lexes, completes⟩ :=
    rest.behind_value (.member members (some k)) value fun stack => rfl
  have colon : Lexes [':'] [.colon] := lexes_mark rfl fun _ => rfl
  have on_the_line := lexes.behind_spaces [' '] (List.forall_mem_singleton.2 rfl)
  have member := (lexes_quote k).append (colon.append on_the_line (endsNumber_cons (by decide)))
    (endsNumber_cons (by decide))
  exact ⟨ls, member, fun stack => (completes stack).1⟩

theorem goesOn_items {items : List Json}
    (spelled : ∀ v ∈ items, ∀ level, Spells (v.write level).toList v) (outer inner : Nat)
    (done : List Json) :
    GoesOn ((writeItems inner items).toList ++ ((newLine outer).toList ++ [']'])) (.array done)
      (.arr (done.reverse ++ items)) := by
  induction items generalizing done with
  | nil =>
    have mark : Lexes [']'] [.closeArray] := lexes_mark rfl fun _ => rfl
    refine ⟨_, mark.on_new_line outer, endsNumber_newLine outer, fun stack => ?_⟩
    rw [List.append_nil, List.foldlM_cons]
    exact bind_pure _
  | cons v items ih =>
    rw [List.forall_mem_cons] at spelled
    obtain ⟨ls, lexes, completes⟩ :=
      (ih spelled.2 (v :: done)).behind_value (.array done) (spelled.1 inner) fun _ => rfl
    have comma : Lexes [','] [.comma] := lexes_mark rfl fun _ => rfl
    have all := comma.append (lexes.on_new_line inner) (endsNumber_newLine inner)
    have written : (writeItems inner (v :: items)).toList ++ ((newLine outer).toList ++ [']']) =
        [','] ++ ((newLine inner).toList ++ ((v.write inner).toList ++
          ((writeItems inner items).toList ++ ((newLine outer).toList ++ [']'])))) := by
      simp [writeItems]
    rw [written]
    refine ⟨_, all, endsNumber_cons (by decide), fun stack => ?_⟩
    -- the comma makes the array expect a value
    show ls.foldlM step ⟨.array done :: stack, .value⟩ = _
    rw [(completes stack).1, List.reverse_cons, List.append_assoc, List.singleton_append]

theorem object_of_keys (members : List (String × Json)) :
    State.object (members.map fun m => (some m.1, m.2)) = .obj members := by
  have named : (members.map fun m => (some m.1, m.2)).mapM
      (fun m : Member => m.1.map (·, m.2)) = some members := by
    induction members with
    | nil => rfl
    | cons m members ih => simp [List.mapM_cons, ih]
  rw [State.object, named]

theorem goesOn_members {members : List (String × Json)}
    (spelled : ∀ m ∈ members, ∀ level, Spells (m.2.write level).toList m.2) (outer inner : Nat)
    (done : List (String × Json)) :
    GoesOn ((writeMembers inner members).toList ++ ((newLine outer).toList ++ ['\x7d']))
      (.object (done.map fun m => (some m.1, m.2))) (.obj (done.reverse ++ members)) := by
  induction members generalizing done with
  | nil =>
    have mark : Lexes ['\x7d'] [.closeObject] := lexes_mark rfl fun _ => rfl
    refine ⟨_, mark.on_new_line outer, endsNumber_newLine outer, fun stack => ?_⟩
    rw [List.append_nil, List.foldlM_cons]
    show (complete (State.object (done.map fun m => (some m.1, m.2)).reverse) stack >>= pure) = _
    rw [← List.map_reverse, object_of_keys]
    exact bind_pure _
  | cons m members ih =>
    obtain ⟨k, v⟩ := m
    rw [List.forall_mem_cons] at spelled
    obtain ⟨ls, lexes, completes⟩ :=
      GoesOn.behind_member (ih spelled.2 ((k, v) :: done)) (spelled.1 inner)
    have comma : Lexes [','] [.comma] := lexes_mark rfl fun _ => rfl
    have all := comma.append (lexes.on_new_line inner) (endsNumber_newLine inner)
    have written : (writeMembers inner ((k, v) :: members)).toList ++
        ((newLine outer).toList ++ ['\x7d']) =
        [','] ++ ((newLine inner).toList ++ ((quote k).toList ++ ([':'] ++ ([' '] ++
          ((v.write inner).toList ++ ((writeMembers inner members).toList ++
            ((newLine outer).toList ++ ['\x7d']))))))) := by
      simp [writeMembers]
    rw [written]
    refine ⟨_, all, endsNumber_cons (by decide), fun stack => ?_⟩
    -- the comma makes the object expect a key
    show ls.foldlM step ⟨.member _ (some k) :: stack, .value⟩ = _
    rw [completes, List.reverse_cons, List.append_assoc, List.singleton_append]

theorem spells_of_lexes {l : Lexeme} {v : Json} (lexes : Lexes text [l])
    (value : ∀ stack, step ⟨stack, .value⟩ l = complete v stack)
    (item : ∀ stack, step ⟨stack, .firstItem⟩ l = complete v stack) : Spells text v := by
  refine ⟨_, lexes, fun stack => ⟨?_, ?_⟩⟩
  · rw [List.foldlM_cons, value]
    exact bind_pure _
  · rw [List.foldlM_cons, item]
    exact bind_pure _

end

theorem spells_array {items : List Json}
    (spelled : ∀ v ∈ items, ∀ level, Spells (v.write level).toList v) (level : Nat) :
    Spells ((arr items).write level).toList (.arr items) := by
  have mark : Lexes ['['] [.openArray] := lexes_mark rfl fun _ => rfl
  cases items with
  | nil =>
    have close : Lexes [']'] [.closeArray] := lexes_mark rfl fun _ => rfl
    rw [write]
    have run : ∀ stack, (complete (.arr []) stack >>= pure) = complete (.arr []) stack :=
      fun stack => bind_pure _
    exact ⟨_, mark.append close (endsNumber_cons (by decide)), fun stack => ⟨run stack, run stack⟩⟩
  | cons v items =>
    rw [List.forall_mem_cons] at spelled
    obtain ⟨ls, lexes, completes⟩ := (goesOn_items spelled.2 level (level + 1) [v]).behind_value
      (.array []) (spelled.1 (level + 1)) fun _ => rfl
    have all := mark.append (lexes.on_new_line (level + 1)) (endsNumber_newLine (level + 1))
    have written : ((arr (v :: items)).write level).toList =
        ['['] ++ ((newLine (level + 1)).toList ++ ((v.write (level + 1)).toList ++
          ((writeItems (level + 1) items).toList ++ ((newLine level).toList ++ [']'])))) := by
      simp [write]
    rw [written]
    exact ⟨_, all, fun stack => ⟨(completes stack).2, (completes stack).2⟩⟩

theorem spells_object {members : List (String × Json)}
    (spelled : ∀ m ∈ members, ∀ level, Spells (m.2.write level).toList m.2) (level : Nat) :
    Spells ((obj members).write level).toList (.obj members) := by
  have mark : Lexes ['\x7b'] [.openObject] := lexes_mark rfl fun _ => rfl
  cases members with
  | nil =>
    have close : Lexes ['\x7d'] [.closeObject] := lexes_mark rfl fun _ => rfl
    rw [write]
    have run : ∀ stack, (complete (.obj []) stack >>= pure) = complete (.obj []) stack :=
      fun stack => bind_pure _
    exact ⟨_, mark.append close (endsNumber_cons (by decide)), fun stack => ⟨run stack, run stack⟩⟩
  | cons m members =>
    obtain ⟨k, v⟩ := m
    rw [List.forall_mem_cons] at spelled
    obtain ⟨ls, lexes, completes⟩ := GoesOn.behind_member
      (goesOn_members spelled.2 level (level + 1) [(k, v)]) (spelled.1 (level + 1))
    have all := mark.append (lexes.on_new_line (level + 1)) (endsNumber_newLine (level + 1))
    have written : ((obj ((k, v) :: members)).write level).toList =
        ['\x7b'] ++ ((newLine (level + 1)).toList ++ ((quote k).toList ++ ([':'] ++ ([' '] ++
          ((v.write (level + 1)).toList ++ ((writeMembers (level + 1) members).toList ++
            ((newLine level).toList ++ ['\x7d']))))))) := by
      simp [write]
    rw [written]
    exact ⟨_, all, fun stack => ⟨completes stack, completes stack⟩⟩

theorem spells_write {v : Json} (plain : Plain v) (level : Nat) :
    Spells (v.write level).toList v := by
  induction plain generalizing level with
  | null =>
    have word : Lexes ['n', 'u', 'l', 'l'] [.scalar .null] :=
      lexes_of_lexeme rfl fun rest _ => rfl
    rw [write]
    exact spells_of_lexes word (fun _ => rfl) fun _ => rfl
  | bool b =>
    rw [write]
    cases b with
    | false =>
      have word : Lexes ['f', 'a', 'l', 's', 'e'] [.scalar (.bool false)] :=
        lexes_of_lexeme rfl fun rest _ => rfl
      exact spells_of_lexes word (fun _ => rfl) fun _ => rfl
    | true =>
      have word : Lexes ['t', 'r', 'u', 'e'] [.scalar (.bool true)] :=
        lexes_of_lexeme rfl fun rest _ => rfl
      exact spells_of_lexes word (fun _ => rfl) fun _ => rfl
  | int fits =>
    rw [write]
    exact spells_of_lexes (lexes_int fits) (fun _ => rfl) fun _ => rfl
  | str s =>
    rw [write]
    exact spells_of_lexes (lexes_quote s) (fun _ => rfl) fun _ => rfl
  | arr _ ih => exact spells_array ih level
  | obj _ ih => exact spells_object ih level

theorem parse?_render {v : Json} (plain : Plain v) : parse? v.render = some v := by
  obtain ⟨ls, lexes, completes⟩ := spells_write plain 0
  have cut : lexemesOnto (v.write 0).toList [] = some ls := by
    have all := lexes [] [] [] (by simp) (fun c first => by cases first)
    rw [List.nil_append, List.append_nil, List.append_nil] at all
    rw [all, lexemesOnto]
    simp
  have ended : ls.foldlM step .start = some ⟨[], .nothing v⟩ := (completes []).1
  simp [parse?, render, cut, ended, result?]

end FixCorpus.Json
