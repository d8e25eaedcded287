import FixCorpus.FileTree
import FixCorpus.Proofs.Except
import FixCorpus.Proofs.Path
import Mathlib.Data.List.Induction
import Mathlib.Tactic.SplitIfs

/-! Where paths lead. A path depends on the directories of a tree only, and keeps
its end when there are more of them. The path of a name in a directory leads one
step further than that of the directory. -/

namespace FixCorpus.FileTree

/-- A file of the name can lie in a directory of the path. -/
def accepts (directory name : String) : Bool :=
  isName name && isPath (Path.join directory name)

section

variable {t u : FileTree} {k l : Location} {ps : List String}

theorem isDirectory_iff : t.isDirectory l = true ↔ t.get? l = some .directory := by
  unfold isDirectory
  split <;> simp_all

@[simp] theorem isDirectory_root (t : FileTree) : t.isDirectory [] = true := rfl

theorem follow_append (t : FileTree) (l : Location) (ps qs : List String) :
    t.follow l (ps ++ qs) = t.follow l ps >>= fun k => t.follow k qs := by
  induction ps generalizing l with
  | nil => rfl
  | cons p ps ih =>
    simp only [List.cons_append, follow, ih]
    repeat' split
    all_goals rfl

theorem follow_append_eq_ok {j : Location} {qs : List String} :
    t.follow j (ps ++ qs) = .ok l ↔ ∃ k, t.follow j ps = .ok k ∧ t.follow k qs = .ok l := by
  rw [follow_append, except_bind_eq_ok]

theorem isDirectory_of_follow {p : String} (found : t.follow l (p :: ps) = .ok k) :
    t.isDirectory l = true := by
  unfold follow at found
  split at found
  · cases found
  · cases found
  · exact isDirectory_iff.2 ‹_›

theorem follow_blank {p : String} (blank : p = "" ∨ p = ".") (directory : t.isDirectory l = true)
    (ps : List String) : t.follow l (p :: ps) = t.follow l ps := by
  simp only [follow, isDirectory_iff.1 directory, if_pos blank]

theorem follow_append_blank {j : Location} :
    t.follow j (ps ++ [""]) = .ok l ↔ t.follow j ps = .ok l ∧ t.isDirectory l = true := by
  rw [follow_append_eq_ok]
  constructor
  · rintro ⟨k, led, ends⟩
    have there := isDirectory_of_follow ends
    obtain rfl : k = l := Except.ok.inj ((follow_blank (.inl rfl) there []).symm.trans ends)
    exact ⟨led, there⟩
  · rintro ⟨led, there⟩
    exact ⟨l, led, follow_blank (.inl rfl) there []⟩

theorem follow_singleton {name : String} (h : Path.PlainName name)
    (directory : t.isDirectory l = true) :
    t.follow l [name] = if isName name then .ok (l ++ [name]) else .error .blocked := by
  simp only [follow, isDirectory_iff.1 directory]
  rw [if_neg (by simp [h.nonempty, h.not_here]), if_neg h.not_back]

theorem follow_mono (more : ∀ k, t.isDirectory k = true → u.isDirectory k = true)
    (found : t.follow l ps = .ok k) : u.follow l ps = .ok k := by
  induction ps generalizing l with
  | nil => exact found
  | cons p ps ih =>
    have here := isDirectory_of_follow found
    simp only [follow, isDirectory_iff.1 here, isDirectory_iff.1 (more l here)] at found ⊢
    split_ifs at found ⊢
    · exact ih found
    · exact ih found
    · exact ih found

theorem locate?_eq_some {path : String} :
    t.locate? path = some l ↔ isPath path = true ∧ t.follow [] (Path.pieces path) = .ok l := by
  unfold locate?
  split
  · rename_i valid
    cases led : t.follow [] (Path.pieces path) <;> simp [valid, Except.toOption]
  · rename_i invalid
    simp [invalid]

theorem locate?_mono (more : ∀ k, t.isDirectory k = true → u.isDirectory k = true) {path : String}
    (found : t.locate? path = some l) : u.locate? path = some l := by
  rw [locate?_eq_some] at found ⊢
  exact ⟨found.1, follow_mono more found.2⟩

theorem locate?_congr (same : ∀ k, u.isDirectory k = t.isDirectory k) (path : String) :
    u.locate? path = t.locate? path :=
  Option.ext fun _ => ⟨locate?_mono fun k there => same k ▸ there,
    locate?_mono fun k there => same k ▸ there⟩

theorem ne_empty_of_locate? {path : String} (found : t.locate? path = some l) : path ≠ "" := by
  rintro rfl
  exact absurd (locate?_eq_some.1 found).1 (by decide)

end

section

variable {t : FileTree} {l : Location} {directory name : String}

theorem follow_join (found : t.locate? directory = some l) (h : Path.PlainName name) :
    t.follow [] (Path.pieces (Path.join directory name)) = t.follow l [name] := by
  obtain ⟨-, led⟩ := locate?_eq_some.1 found
  rcases h.join_cases directory with ⟨empty, -⟩ | ⟨front, written, -, joined⟩
  · exact absurd empty (ne_empty_of_locate? found)
  · rw [joined, Path.pieces_append_slash, h.pieces_eq, follow_append]
    rcases written with rfl | rfl
    · rw [led]
      rfl
    · -- the slash at the end of the directory makes a piece of its own, which leads nowhere
      have cut : Path.pieces (front ++ "/") = Path.pieces front ++ [""] := by
        simpa using Path.pieces_append_slash front ""
      rw [cut, follow_append_blank] at led
      rw [led.1]
      rfl

theorem locate?_join (found : t.locate? directory = some l) (there : t.isDirectory l = true)
    (h : Path.PlainName name) :
    t.locate? (Path.join directory name) =
      if accepts directory name then some (l ++ [name]) else none := by
  unfold locate?
  rw [follow_join found h, follow_singleton h there, accepts]
  cases isName name <;> cases isPath (Path.join directory name) <;> rfl

end

section

variable {t : FileTree} {k l : Location} {ps : List String} {name : String}

theorem last_piece_of_follow (led : t.follow l ps = .ok (k ++ [name])) :
    match (ps.filter fun c => c ≠ "" && c ≠ ".").getLast? with
    | none => l = k ++ [name]
    | some last => last = ".." ∨ last = name := by
  induction ps using List.reverseRecOn with
  | nil => exact Except.ok.inj led
  | append_singleton ps p ih =>
    obtain ⟨j, front, led⟩ := follow_append_eq_ok.1 led
    have here := isDirectory_of_follow led
    by_cases blank : p = "" ∨ p = "."
    · rw [follow_blank blank here] at led
      obtain rfl : j = k ++ [name] := Except.ok.inj led
      have dropped : (decide (p ≠ "") && decide (p ≠ ".")) = false := by
        rcases blank with rfl | rfl <;> rfl
      rw [List.filter_append, List.filter_cons, dropped]
      simpa using ih front
    · have kept : (decide (p ≠ "") && decide (p ≠ ".")) = true := by simpa [not_or] using blank
      rw [List.filter_append, List.filter_cons, kept]
      simp only [if_true, List.filter_nil, List.getLast?_append, List.getLast?_singleton,
        Option.some_or]
      simp only [follow, isDirectory_iff.1 here, if_neg blank] at led
      split_ifs at led with back
      · exact .inl back
      · obtain ⟨-, same⟩ := List.append_inj' (Except.ok.inj led) rfl
        exact .inr (List.singleton_inj.1 same)

theorem fileName?_of_locate? {path : String} (found : t.locate? path = some (k ++ [name])) :
    Path.fileName? path = none ∨ Path.fileName? path = some name := by
  have last := last_piece_of_follow (locate?_eq_some.1 found).2
  rw [Path.fileName?, Path.components]
  split at last
  · simp at last
  · rename_i last_eq
    rw [last_eq]
    rcases last with rfl | rfl
    · exact .inl rfl
    · split
      · exact .inl rfl
      · exact .inr rfl

end

section

/-- The path with steps in front of it that lead nowhere. -/
def detour : (steps : Nat) → (path : String) → String
  | 0, path => path
  | steps + 1, path => "." ++ "/" ++ detour steps path

variable {path : String} (n : Nat)

theorem utf8ByteSize_detour : (detour n path).utf8ByteSize = 2 * n + path.utf8ByteSize := by
  induction n with
  | zero => simp [detour]
  | succ n ih =>
    have dot : ".".utf8ByteSize = 1 := rfl
    have slash : "/".utf8ByteSize = 1 := rfl
    rw [detour, String.utf8ByteSize_append, String.utf8ByteSize_append, ih, dot, slash]
    omega

theorem follow_detour (t : FileTree) :
    t.follow [] (Path.pieces (detour n path)) = t.follow [] (Path.pieces path) := by
  induction n with
  | zero => rfl
  | succ n ih =>
    rw [detour, Path.pieces_append_slash]
    exact (follow_blank (.inr rfl) (isDirectory_root t) _).trans ih

theorem isPath_detour (valid : isPath path = true) :
    isPath (detour n path) = decide (2 * n + path.utf8ByteSize < 4096) := by
  have spelled : detour n path ≠ "" ∧ (detour n path).toList.head? ≠ some '/' ∧
      '\x00' ∉ (detour n path).toList := by
    induction n with
    | zero =>
      simp only [isPath, Bool.and_eq_true, decide_eq_true_eq, Bool.not_eq_true',
        List.contains_eq_mem, decide_eq_false_iff_not] at valid
      exact ⟨valid.1.1.1, valid.1.1.2, valid.1.2⟩
    | succ n ih =>
      refine ⟨fun same => ?_, ?_, ?_⟩
      · simpa [detour] using congrArg String.toList same
      · simp [detour]
      · simpa [detour] using ih.2.2
  simp [isPath, spelled, utf8ByteSize_detour]

theorem locate?_detour (valid : isPath path = true) (short : 2 * n + path.utf8ByteSize < 4096)
    (t : FileTree) : t.locate? (detour n path) = t.locate? path := by
  have still_valid : isPath (detour n path) = true := by simpa [isPath_detour n valid] using short
  rw [locate?, locate?, if_pos still_valid, if_pos valid, follow_detour]

theorem detour_eq_append : detour n path = detour n "" ++ path := by
  induction n with
  | zero => rw [detour, detour, String.empty_append]
  | succ n ih =>
    rw [detour, detour, ih, String.append_assoc, String.append_assoc, String.append_assoc]

theorem getLast?_detour (named : path ≠ "") :
    (detour n path).toList.getLast? = path.toList.getLast? := by
  have inner : path.toList ≠ [] := by simpa using named
  rw [detour_eq_append, String.toList_append, List.getLast?_append,
    List.getLast?_eq_some_getLast inner, Option.some_or]

theorem join_detour {directory name : String} (named : directory ≠ "")
    (relative : name.toList.head? ≠ some '/') :
    Path.join (detour n directory) name = detour n (Path.join directory name) := by
  have front := fun rest => @detour_eq_append rest n
  have last := getLast?_detour n named
  have nonempty : detour n directory ≠ "" := by
    rw [front]
    simp [named]
  rw [Path.join, Path.join, if_neg relative, if_neg relative, last]
  by_cases slash : directory.toList.getLast? = some '/'
  · rw [if_pos (.inr slash), if_pos (.inr slash), front directory, front (directory ++ name),
      String.append_assoc]
  · rw [if_neg (by simp [nonempty, slash]), if_neg (by simp [named, slash]), front directory,
      front (directory ++ "/" ++ name), String.append_assoc, String.append_assoc,
      String.append_assoc]

end

end FixCorpus.FileTree
