import FixCorpus.Proofs.FileTree.Contents

/-! Making directories. A tree gains entries where there were none, all of them
directories, and if a directory could be made, its path leads to it. Where it is
there already, nothing happens. -/

namespace FixCorpus.FileTree

section

variable {t u v : FileTree} {k l : Location}

/-- The second tree has some directories more. -/
def Gains (t u : FileTree) : Prop :=
  ∃ made : List Location,
    u.entries = made.map (fun k => (k, Entry.directory)) ++ t.entries ∧ ∀ k ∈ made, t.get? k = none

theorem ne_nil_of_get?_eq_none (missing : t.get? l = none) : l ≠ [] := by
  rintro rfl
  cases missing

theorem set_of_get?_eq_none (missing : t.get? l = none) (e : Entry) :
    (t.set l e).entries = (l, e) :: t.entries := by
  have absent : ∀ f ∈ t.entries, f.1 ≠ l := fun f member same =>
    (get?_ne_none_iff (ne_nil_of_get?_eq_none missing)).2 ⟨f, member, same⟩ missing
  rw [set, List.filter_eq_self.2 fun f member => by simpa using absent f member]

namespace Gains

theorem refl (t : FileTree) : Gains t t :=
  ⟨[], rfl, nofun⟩

theorem get?_eq (h : Gains t u) {e : Entry} (found : t.get? l = some e) : u.get? l = some e := by
  obtain ⟨made, entries, new⟩ := h
  have other : ∀ p ∈ made.map fun k => (k, Entry.directory), (l == p.1) = false := by
    intro p member
    obtain ⟨k, made_here, rfl⟩ := List.mem_map.1 member
    have different : l ≠ k := by
      rintro rfl
      exact absurd (new l made_here) (by simp [found])
    simpa using different
  unfold get? at found ⊢
  split
  · rename_i root
    rwa [if_pos root] at found
  · rename_i inner
    rw [if_neg inner] at found
    rw [entries, List.lookup_append, List.lookup_eq_none_iff.2 (by simpa using other),
      Option.none_or, found]

theorem isDirectory (h : Gains t u) (k : Location) (there : t.isDirectory k = true) :
    u.isDirectory k = true :=
  isDirectory_iff.2 (h.get?_eq (isDirectory_iff.1 there))

theorem read?_eq (h : Gains t u) {path : String} {content : ByteArray}
    (found : t.read? path = some content) : u.read? path = some content := by
  cases led : t.locate? path with
  | none => simp [read?, led] at found
  | some l =>
    rw [read?_of_locate? led] at found
    rw [read?_of_locate? (locate?_mono h.isDirectory led)]
    cases held : t.get? l with
    | none => simp [held] at found
    | some e => rwa [h.get?_eq held, ← held]

theorem trans (h : Gains t u) (more : Gains u v) : Gains t v := by
  obtain ⟨first, entries, new⟩ := h
  obtain ⟨second, more_entries, more_new⟩ := more
  refine ⟨second ++ first, ?_, List.forall_mem_append.2 ⟨fun k member => ?_, new⟩⟩
  · rw [more_entries, entries, List.map_append, List.append_assoc]
  · cases found : t.get? k with
    | none => rfl
    | some e =>
      have kept := get?_eq ⟨first, entries, new⟩ found
      rw [more_new k member] at kept
      cases kept

theorem make (h : Gains t u) (missing : u.get? l = none) : Gains t (u.set l .directory) := by
  have before : t.get? l = none := by
    cases found : t.get? l with
    | none => rfl
    | some e => rw [h.get?_eq found] at missing; cases missing
  obtain ⟨made, entries, new⟩ := h
  refine ⟨l :: made, ?_, List.forall_mem_cons.2 ⟨before, new⟩⟩
  rw [set_of_get?_eq_none missing, entries]
  rfl

end Gains

theorem follow_blanks {ps : List String} (blank : ∀ p ∈ ps, p = "")
    (there : t.isDirectory l = true) : t.follow l ps = .ok l := by
  induction ps with
  | nil => rfl
  | cons p ps ih =>
    rw [follow_blank (.inl (blank p List.mem_cons_self)) there]
    exact ih fun q member => blank q (List.mem_cons_of_mem p member)

theorem pieces_eq_of_dropWhile {path name : String} {above : List String}
    (ends : (Path.pieces path).reverse.dropWhile (· = "") = name :: above) :
    name ≠ "" ∧ ∃ blanks, (∀ p ∈ blanks, p = "") ∧
      Path.pieces path = above.reverse ++ name :: blanks := by
  have nonempty : name ≠ "" := by
    have kept := List.head?_dropWhile_not (fun piece => decide (piece = ""))
      (Path.pieces path).reverse
    simpa [ends] using kept
  refine ⟨nonempty, ((Path.pieces path).reverse.takeWhile (· = "")).reverse, fun p member => ?_, ?_⟩
  · have all_blank : ((Path.pieces path).reverse.takeWhile (· = "")).all (· = "") = true :=
      List.all_takeWhile
    simpa using List.all_eq_true.1 all_blank p (List.mem_reverse.1 member)
  · have parted := List.takeWhile_append_dropWhile (p := (· = "")) (l := (Path.pieces path).reverse)
    rw [ends] at parted
    simpa using (congrArg List.reverse parted).symm

theorem makeIn_eq_ok {pieces : List String} {name : String} :
    t.makeIn pieces name = .ok u ↔ ∃ l, t.follow [] (pieces ++ [""]) = .ok l ∧
      (name ≠ "." ∧ name ≠ ".." ∧ isName name = true) ∧ t.get? (l ++ [name]) = none ∧
      t.set (l ++ [name]) .directory = u := by
  unfold makeIn
  cases t.follow [] (pieces ++ [""]) with
  | error o => simp [bind, Except.bind]
  | ok l =>
    simp only [bind, Except.bind, Except.ok.injEq, exists_eq_left']
    split
    · rename_i unusable
      simp only [Bool.not_eq_eq_eq_not, Bool.not_true] at unusable
      simp only [throw, throwThe, MonadExceptOf.throw, reduceCtorEq, false_iff]
      grind
    · rename_i usable
      simp only [not_or, Bool.not_eq_eq_eq_not, Bool.not_true, Bool.not_eq_false] at usable
      cases t.get? (l ++ [name]) <;>
        simp [usable, pure, Except.pure, throw, throwThe, MonadExceptOf.throw]

theorem make_eq_ok {path : String} (made : t.make path = .ok u) :
    ∃ l name, t.isDirectory l = true ∧ t.get? (l ++ [name]) = none ∧
      u = t.set (l ++ [name]) .directory ∧ u.locate? path = some (l ++ [name]) := by
  unfold make at made
  split at made
  · rename_i name above valid ends
    obtain ⟨l, led, ⟨not_here, not_back, short⟩, missing, rfl⟩ := makeIn_eq_ok.1 made
    obtain ⟨nonempty, blanks, blank, pieces_eq⟩ := pieces_eq_of_dropWhile ends
    obtain ⟨led, parent⟩ := follow_append_blank.1 led
    have more := ((Gains.refl t).make missing).isDirectory
    have new : (t.set (l ++ [name]) .directory).isDirectory (l ++ [name]) = true :=
      isDirectory_iff.2 (get?_set _ _ (by simp))
    refine ⟨l, name, parent, missing, rfl, locate?_eq_some.2 ⟨valid, ?_⟩⟩
    rw [pieces_eq, follow_append, follow_mono more led]
    show FileTree.follow _ l (name :: blanks) = _
    simp only [follow, isDirectory_iff.1 (more l parent)]
    rw [if_neg (by simp [nonempty, not_here]), if_neg not_back, if_pos short,
      follow_blanks blank new]
  · cases made

theorem make_of_isDirectory {path : String} (found : t.locate? path = some l)
    (there : t.isDirectory l = true) : t.make path = .error .blocked := by
  unfold make
  split
  · rename_i name above valid ends
    obtain ⟨nonempty, blanks, blank, pieces_eq⟩ := pieces_eq_of_dropWhile ends
    obtain ⟨-, led⟩ := locate?_eq_some.1 found
    rw [pieces_eq] at led
    obtain ⟨k, front, led⟩ := follow_append_eq_ok.1 led
    have parent := isDirectory_of_follow led
    simp only [makeIn, follow_append_blank.2 ⟨front, parent⟩, bind, Except.bind]
    split
    · rfl
    · rename_i usable
      simp only [not_or, Bool.not_eq_eq_eq_not, Bool.not_true, Bool.not_eq_false] at usable
      simp only [follow, isDirectory_iff.1 parent] at led
      rw [if_neg (by simp [nonempty, usable.1]), if_neg usable.2.1, if_pos usable.2.2] at led
      have present : t.get? (k ++ [name]) = some .directory := by
        cases blanks with
        | nil => exact isDirectory_iff.1 ((Except.ok.inj led).symm ▸ there)
        | cons p blanks => exact isDirectory_iff.1 (isDirectory_of_follow led)
      rw [present]
      rfl
  · rfl

theorem run_makeWithin_cons (path : String) (above : List String) (t : FileTree) :
    (Storage.makeWithin (path :: above) : StateM FileTree Bool).run t =
      match t.make path with
      | .ok u => (true, u)
      | .error .blocked => ((t.locate? path).any t.isDirectory, t)
      | .error .missing =>
        match (Storage.makeWithin above : StateM FileTree Bool).run t with
        | (true, u) =>
          match u.make path with
          | .ok v => (true, v)
          | .error _ => ((u.locate? path).any u.isDirectory, u)
        | (false, u) => (false, u) := by
  rw [Storage.makeWithin, run_bind, run_make]
  cases t.make path with
  | ok u => rfl
  | error o =>
    cases o with
    | blocked => rfl
    | missing =>
      simp only [outcome]
      rw [run_bind]
      obtain ⟨b, u⟩ := (Storage.makeWithin above : StateM FileTree Bool).run t
      cases b with
      | false => rfl
      | true =>
        simp only [if_true]
        rw [run_bind, run_make]
        cases u.make path <;> rfl

theorem makeWithin_preserves {P : FileTree → Prop}
    (step : ∀ t u path, P t → t.make path = .ok u → P u) (paths : List String) (start : P t) :
    P ((Storage.makeWithin paths : StateM FileTree Bool).run t).2 := by
  induction paths with
  | nil => exact start
  | cons path above ih =>
    rw [run_makeWithin_cons]
    cases made : t.make path with
    | ok u => exact step t u path start made
    | error o =>
      cases o with
      | blocked => exact start
      | missing =>
        dsimp only
        generalize (Storage.makeWithin above : StateM FileTree Bool).run t = r at ih ⊢
        match r, ih with
        | (false, u), ih => exact ih
        | (true, u), ih =>
          dsimp only at ih ⊢
          cases made : u.make path with
          | ok v => exact step u v path ih made
          | error o => exact ih

theorem isDirectory_of_makeWithin {path : String} {above : List String}
    (made : (Storage.makeWithin (path :: above) : StateM FileTree Bool).run t = (true, u)) :
    ∃ l, u.locate? path = some l ∧ u.isDirectory l = true := by
  have of_make : ∀ {t u : FileTree}, t.make path = .ok u →
      ∃ l, u.locate? path = some l ∧ u.isDirectory l = true := fun made => by
    obtain ⟨l, name, -, -, rfl, found⟩ := make_eq_ok made
    exact ⟨_, found, isDirectory_iff.2 (get?_set _ _ (by simp))⟩
  have of_any : ∀ {t : FileTree}, (t.locate? path).any t.isDirectory = true →
      ∃ l, t.locate? path = some l ∧ t.isDirectory l = true := fun there => by
    simpa [Option.any_eq_true] using there
  rw [run_makeWithin_cons] at made
  cases first : t.make path with
  | ok v =>
    rw [first] at made
    cases made
    exact of_make first
  | error o =>
    rw [first] at made
    cases o with
    | blocked =>
      obtain ⟨there, rfl⟩ := Prod.mk.inj made
      exact of_any there
    | missing =>
      -- The directories above it are made, and then it is tried once more.
      dsimp only at made
      match (Storage.makeWithin above : StateM FileTree Bool).run t, made with
      | (true, v), made =>
        dsimp only at made
        cases second : v.make path with
        | ok w =>
          rw [second] at made
          cases made
          exact of_make second
        | error o =>
          rw [second] at made
          obtain ⟨there, rfl⟩ := Prod.mk.inj made
          exact of_any there

theorem ancestors_of_ne_empty {path : String} (named : path ≠ "") :
    ∃ above, Path.ancestors path = path :: above :=
  ⟨_, if_neg named⟩

section

variable {path : String} {b : Bool}

theorem gains_makeDirectory
    (made : (Storage.makeDirectory path : StateM FileTree Bool).run t = (b, u)) : Gains t u := by
  have gained := makeWithin_preserves (t := t) (P := Gains t)
    (fun v w _ gained made => by
      obtain ⟨l, name, -, missing, rfl, -⟩ := make_eq_ok made
      exact gained.make missing)
    (Path.ancestors path) (.refl t)
  rw [Storage.makeDirectory] at made
  rwa [made] at gained

theorem isDirectory_of_makeDirectory (named : path ≠ "")
    (made : (Storage.makeDirectory path : StateM FileTree Bool).run t = (true, u)) :
    ∃ l, u.locate? path = some l ∧ u.isDirectory l = true := by
  obtain ⟨above, all⟩ := ancestors_of_ne_empty named
  rw [Storage.makeDirectory, all] at made
  exact isDirectory_of_makeWithin made

theorem makeDirectory_of_isDirectory (found : t.locate? path = some l)
    (there : t.isDirectory l = true) :
    (Storage.makeDirectory path : StateM FileTree Bool).run t = (true, t) := by
  obtain ⟨above, all⟩ := ancestors_of_ne_empty (ne_empty_of_locate? found)
  rw [Storage.makeDirectory, all, run_makeWithin_cons, make_of_isDirectory found there]
  simp [found, there]

def withDirectory (t : FileTree) (path : String) : FileTree :=
  ((Storage.makeDirectory path : StateM FileTree Bool).run t).2

theorem gains_withDirectory (t : FileTree) (path : String) : Gains t (t.withDirectory path) :=
  gains_makeDirectory rfl

theorem withDirectory_of_isDirectory (found : t.locate? path = some l)
    (there : t.isDirectory l = true) : t.withDirectory path = t := by
  rw [withDirectory, makeDirectory_of_isDirectory found there]

end

end

end FixCorpus.FileTree
