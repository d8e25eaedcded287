import FixCorpus.Proofs.FileTree.Following
import Mathlib.Data.List.Induction

/-! Files that are put into one directory. They leave every path where it leads to
and every other file as it is, and of two files of one name the later one stays. -/

namespace FixCorpus.FileTree

/-- The files, put into the directory at a location one after the other. -/
def putAll (t : FileTree) (l : Location) (files : List (String × ByteArray)) : FileTree :=
  files.foldl (fun t f => t.set (l ++ [f.1]) (.file f.2)) t

section

variable {t u : FileTree} {k l : Location}

theorem get?_putAll (t : FileTree) (l k : Location) (files : List (String × ByteArray)) :
    (t.putAll l files).get? k =
      match files.reverse.find? fun f => decide (k = l ++ [f.1]) with
      | some f => some (.file f.2)
      | none => t.get? k := by
  induction files using List.reverseRecOn with
  | nil => rfl
  | append_singleton files f ih =>
    have last : t.putAll l (files ++ [f]) = (t.putAll l files).set (l ++ [f.1]) (.file f.2) := by
      simp [putAll]
    rw [last, List.reverse_append, List.reverse_singleton, List.singleton_append, List.find?_cons]
    by_cases same : k = l ++ [f.1]
    · simp only [same, decide_true]
      exact get?_set _ _ (by simp)
    · simp only [same, decide_false]
      rw [get?_set_of_ne _ _ same, ih]

theorem putAll_append (t : FileTree) (l : Location) (files more : List (String × ByteArray)) :
    t.putAll l (files ++ more) = (t.putAll l files).putAll l more :=
  List.foldl_append

theorem get?_putAll_of_ne {files : List (String × ByteArray)}
    (other : ∀ f ∈ files, k ≠ l ++ [f.1]) : (t.putAll l files).get? k = t.get? k := by
  have none_found : files.reverse.find? (fun f => decide (k = l ++ [f.1])) = none := by
    simpa using other
  rw [get?_putAll, none_found]

theorem exists_get?_putAll {files : List (String × ByteArray)} {f : String × ByteArray}
    (member : f ∈ files) :
    ∃ g ∈ files, g.1 = f.1 ∧ (t.putAll l files).get? (l ++ [f.1]) = some (.file g.2) := by
  rw [get?_putAll]
  split
  · rename_i g found
    have named : f.1 = g.1 := by simpa using List.find?_some found
    exact ⟨g, List.mem_reverse.1 (List.mem_of_find?_eq_some found), named.symm, rfl⟩
  · rename_i none_found
    have unfound := List.find?_eq_none.1 none_found f (List.mem_reverse.2 member)
    simp at unfound

theorem get?_putAll_of_mem {files : List (String × ByteArray)} {f : String × ByteArray}
    (member : f ∈ files) (same : ∀ g ∈ files, g.1 = f.1 → g.2 = f.2) :
    (t.putAll l files).get? (l ++ [f.1]) = some (.file f.2) := by
  obtain ⟨g, listed, named, there⟩ := exists_get?_putAll member
  rw [there, same g listed named]

theorem get?_putAll_ne_none {files : List (String × ByteArray)} {f : String × ByteArray}
    (member : f ∈ files) : (t.putAll l files).get? (l ++ [f.1]) ≠ none := by
  obtain ⟨g, -, -, there⟩ := exists_get?_putAll member
  rw [there]
  exact Option.some_ne_none _

theorem get?_putAll_ne_none_of_old (files : List (String × ByteArray)) (old : t.get? k ≠ none) :
    (t.putAll l files).get? k ≠ none := by
  rw [get?_putAll]
  split
  · simp
  · exact old

theorem isDirectory_of_get?_eq_none (nothing : t.get? l = none) : t.isDirectory l = false := by
  rw [isDirectory, nothing]

theorem isDirectory_set_file {l : Location} (free : t.isDirectory l = false)
    (content : ByteArray) (k : Location) :
    (t.set l (.file content)).isDirectory k = t.isDirectory k := by
  have inner : l ≠ [] := by
    rintro rfl
    cases free
  by_cases same : k = l
  · subst same
    rw [free, isDirectory, get?_set _ _ inner]
  · simp only [isDirectory, get?_set_of_ne _ _ same]

theorem locate?_set_file (free : t.isDirectory l = false) (content : ByteArray) (path : String) :
    (t.set l (.file content)).locate? path = t.locate? path :=
  locate?_congr (isDirectory_set_file free content) path

theorem write?_eq_some {path : String} {content : ByteArray} :
    t.write? path content = some u ↔ ∃ l, t.locate? path = some l ∧ t.isDirectory l = false ∧
      u = t.set l (.file content) := by
  unfold write?
  cases t.locate? path with
  | none => simp
  | some l => cases t.isDirectory l <;> simp [@eq_comm _ u]

/-- The second tree has the directories of the first one, and other files at most in the directory
at the location. -/
structure AgreesOutside (t u : FileTree) (l : Location) : Prop where
  isDirectory_eq : ∀ k, u.isDirectory k = t.isDirectory k
  get?_eq : ∀ k, (∀ name, k ≠ l ++ [name]) → u.get? k = t.get? k

namespace AgreesOutside

theorem refl (t : FileTree) (l : Location) : AgreesOutside t t l :=
  ⟨fun _ => rfl, fun _ _ => rfl⟩

theorem set (h : AgreesOutside t u l) {name : String} (free : t.isDirectory (l ++ [name]) = false)
    (content : ByteArray) : AgreesOutside t (u.set (l ++ [name]) (.file content)) l where
  isDirectory_eq k := by
    rw [isDirectory_set_file (by rw [h.isDirectory_eq, free]), h.isDirectory_eq]
  get?_eq k other := by
    rw [get?_set_of_ne _ _ (other name), h.get?_eq k other]

theorem putAll (h : AgreesOutside t u l) (files : List (String × ByteArray))
    (free : ∀ f ∈ files, t.isDirectory (l ++ [f.1]) = false) :
    AgreesOutside t (u.putAll l files) l := by
  induction files generalizing u with
  | nil => exact h
  | cons f files ih =>
    rw [List.forall_mem_cons] at free
    exact ih (h.set free.1 f.2) free.2

theorem locate?_eq (h : AgreesOutside t u l) (path : String) : u.locate? path = t.locate? path :=
  locate?_congr h.isDirectory_eq path

theorem read?_eq (h : AgreesOutside t u l) {path : String}
    (apart : ∀ name, t.locate? path ≠ some (l ++ [name])) : u.read? path = t.read? path := by
  unfold read?
  rw [h.locate?_eq]
  cases found : t.locate? path with
  | none => rfl
  | some k =>
    simp only [Option.bind_some, h.get?_eq k fun name same => apart name (same ▸ found)]

end AgreesOutside

/-- The output directory is there, and none of the files that are read lies in it. -/
structure WritesApart (t : FileTree) (output : String) (reads : List String) (l : Location) :
    Prop where
  place : t.locate? output = some l
  there : t.isDirectory l = true
  apart : ∀ path ∈ reads, ∀ name, t.locate? path ≠ some (l ++ [name])

theorem run_bind {α β : Type} (x : StateM FileTree α) (f : α → StateM FileTree β) (t : FileTree) :
    (x >>= f).run t = (f (x.run t).1).run (x.run t).2 := rfl

theorem run_pure {α : Type} (a : α) (t : FileTree) : (pure a : StateM FileTree α).run t = (a, t) :=
  rfl

theorem run_mapM_of_agrees {α β : Type} {step : α → StateM FileTree β} {result : α → β}
    {files : α → List (String × ByteArray)} {xs : List α}
    (runs : ∀ x ∈ xs, ∀ u, AgreesOutside t u l →
      (step x).run u = (result x, u.putAll l (files x)))
    (free : ∀ x ∈ xs, ∀ f ∈ files x, t.isDirectory (l ++ [f.1]) = false)
    (agrees : AgreesOutside t u l) :
    (xs.mapM step : StateM FileTree _).run u = (xs.map result, u.putAll l (xs.flatMap files)) := by
  induction xs generalizing u with
  | nil => rfl
  | cons x xs ih =>
    rw [List.forall_mem_cons] at runs free
    rw [List.mapM_cons, run_bind, runs.1 u agrees, run_bind,
      ih runs.2 free.2 (agrees.putAll _ free.1), run_pure, ← putAll_append]
    rfl

theorem write?_join {directory name : String} (found : t.locate? directory = some l)
    (there : t.isDirectory l = true) (h : Path.PlainName name)
    (free : t.isDirectory (l ++ [name]) = false) (content : ByteArray) :
    t.write? (Path.join directory name) content =
      if accepts directory name then some (t.set (l ++ [name]) (.file content)) else none := by
  unfold write?
  rw [locate?_join found there h]
  split <;> simp_all

theorem read?_of_locate? {path : String} (found : t.locate? path = some l) :
    t.read? path = match t.get? l with
      | some (.file content) => some content
      | _ => none := by
  unfold read?
  rw [found]
  rfl

theorem set_of_write?_join {directory name : String} (found : t.locate? directory = some l)
    (there : t.isDirectory l = true) (h : Path.PlainName name) {content : ByteArray}
    (wrote : t.write? (Path.join directory name) content = some u) :
    t.locate? (Path.join directory name) = some (l ++ [name]) ∧
      t.isDirectory (l ++ [name]) = false ∧ u = t.set (l ++ [name]) (.file content) := by
  obtain ⟨k, led, free, rfl⟩ := write?_eq_some.1 wrote
  have place := led
  rw [locate?_join found there h, Option.ite_none_right_eq_some, Option.some.injEq] at place
  obtain rfl := place.2
  exact ⟨led, free, rfl⟩

theorem read?_set_file (free : t.isDirectory l = false) (content : ByteArray) (path : String) :
    (t.set l (.file content)).read? path =
      if t.locate? path = some l then some content else t.read? path := by
  have inner : l ≠ [] := by
    rintro rfl
    cases free
  unfold read?
  rw [locate?_set_file free]
  cases found : t.locate? path with
  | none => simp
  | some k =>
    by_cases same : k = l
    · simp [same, get?_set t (.file content) inner]
    · simp [same, get?_set_of_ne t (.file content) same]

end

section

variable {t : FileTree}

theorem nameIn?_eq_some {l k : Location} {name : String} :
    nameIn? l k = some name ↔ k = l ++ [name] := by
  induction l generalizing k with
  | nil =>
    match k with
    | [] => simp [nameIn?]
    | [other] => simp [nameIn?]
    | _ :: _ :: _ => simp [nameIn?]
  | cons a l ih =>
    match k with
    | [] => simp [nameIn?]
    | b :: k =>
      by_cases same : a = b
      · simp [nameIn?, same, ih]
      · simp [nameIn?, same, Ne.symm same]

theorem get?_ne_none_iff {l : Location} (inner : l ≠ []) :
    t.get? l ≠ none ↔ ∃ e ∈ t.entries, e.1 = l := by
  rw [get?, if_neg inner, ← Option.isSome_iff_ne_none, List.lookup_isSome_iff]
  exact exists_congr fun e => and_congr_right fun _ => beq_iff_eq.trans eq_comm

theorem mem_names_iff {directory name : String} {l : Location}
    (found : t.locate? directory = some l) :
    name ∈ t.names directory ↔ t.get? (l ++ [name]) ≠ none := by
  have listed : t.names directory = t.entries.filterMap fun e => nameIn? l e.1 := by
    rw [names, found]
  rw [get?_ne_none_iff (by simp), listed, List.mem_filterMap]
  exact exists_congr fun e => and_congr_right fun _ => nameIn?_eq_some

theorem mem_names_putAll {directory name : String} {l : Location}
    (found : t.locate? directory = some l) {files : List (String × ByteArray)}
    (free : ∀ f ∈ files, t.isDirectory (l ++ [f.1]) = false) :
    name ∈ (t.putAll l files).names directory ↔
      name ∈ t.names directory ∨ ∃ f ∈ files, f.1 = name := by
  have place := ((AgreesOutside.refl t l).putAll files free).locate?_eq directory
  rw [mem_names_iff (place.trans found), mem_names_iff found]
  constructor
  · intro there
    by_contra none_there
    rw [not_or, not_not] at none_there
    refine there ((get?_putAll_of_ne fun f member same => ?_).trans none_there.1)
    exact none_there.2 ⟨f, member, by simpa using same.symm⟩
  · rintro (old | ⟨f, member, rfl⟩)
    · exact get?_putAll_ne_none_of_old _ old
    · exact get?_putAll_ne_none member

instance (t : FileTree) (path : String) (l : Location) :
    Decidable (∀ name, t.locate? path ≠ some (l ++ [name])) :=
  decidable_of_iff ((t.locate? path).bind (nameIn? l) = none) (by
    cases t.locate? path with
    | none => simp
    | some k => simp [Option.eq_none_iff_forall_ne_some, nameIn?_eq_some])

end

end FixCorpus.FileTree
