import FixCorpus.Proofs.Dataset.Reading

/-! Writing texts where it is possible. A path can be written if it leads to no
directory, and that stays so whatever is written, so that many texts can be
written one after the other. -/

namespace FixCorpus.Dataset

open FileTree

/-- The path leads to a place in a directory that is there, and to no directory. -/
def Writable (t : FileTree) (path : String) : Prop :=
  ∃ l, t.locate? path = some l ∧ t.isDirectory l = false

/-- The directory can be made, and then files of the names can be written there. -/
structure CanWrite (t : FileTree) (directory : String) (names : List String) : Prop where
  made : ((Storage.makeDirectory directory : StateM FileTree Bool).run t).1 = true
  free : ∀ name ∈ names, Writable (t.withDirectory directory) (Path.join directory name)

section

variable {t u : FileTree} {path directory : String} {l : Location}

theorem Writable.congr (h : Writable t path) (same : ∀ k, u.isDirectory k = t.isDirectory k) :
    Writable u path := by
  obtain ⟨l, found, free⟩ := h
  exact ⟨l, (locate?_congr same path).trans found, (same l).trans free⟩

theorem canWrite_of_isDirectory (found : t.locate? directory = some l)
    (there : t.isDirectory l = true) {names : List String}
    (free : ∀ name ∈ names, Writable t (Path.join directory name)) :
    CanWrite t directory names where
  made := by rw [makeDirectory_of_isDirectory found there]
  free := by
    rw [withDirectory_of_isDirectory found there]
    exact free

theorem CanWrite.run_makeDirectory {names : List String} (h : CanWrite t directory names) :
    (makeDirectory directory : Action _).run.run t = (.ok (), t.withDirectory directory) := by
  have made := h.made
  rw [FileTree.run_makeDirectory, withDirectory]
  generalize (Storage.makeDirectory directory : StateM FileTree Bool).run t = result at made ⊢
  obtain ⟨done, u⟩ := result
  obtain rfl : done = true := made
  rfl

theorem run_writeText_of_free (same : ∀ k, u.isDirectory k = t.isDirectory k)
    (found : t.locate? path = some l) (free : t.isDirectory l = false) (text : String) :
    ∃ v, (writeText path text : Action _).run.run u = (.ok (), v) ∧
      (∀ k, v.isDirectory k = t.isDirectory k) ∧
      ∀ other, v.read? other =
        if t.locate? other = some l then some text.toUTF8 else u.read? other := by
  have free_here : u.isDirectory l = false := (same l).trans free
  refine ⟨u.set l (.file text.toUTF8), ?_, fun k => ?_, fun other => ?_⟩
  · rw [run_writeText, write?_eq_some.2 ⟨l, (locate?_congr same path).trans found, free_here, rfl⟩]
  · rw [isDirectory_set_file free_here, same]
  · rw [read?_set_file free_here, locate?_congr same]

theorem run_forM_of_writable {α : Type} (place text : α → String) {xs : List α}
    (same : ∀ k, u.isDirectory k = t.isDirectory k) (writable : ∀ x ∈ xs, Writable t (place x)) :
    ∃ v, (xs.forM fun x => (writeText (place x) (text x) : Action _)).run.run u = (.ok (), v) := by
  -- The texts that are written leave the paths of the others free.
  induction xs generalizing u with
  | nil => exact ⟨u, rfl⟩
  | cons x xs ih =>
    rw [List.forall_mem_cons] at writable
    obtain ⟨l, found, free⟩ := writable.1
    obtain ⟨v, wrote, same_still, -⟩ := run_writeText_of_free same found free (text x)
    obtain ⟨w, ran⟩ := ih same_still writable.2
    exact ⟨w, (run_bind_ok wrote).trans ran⟩

theorem locate?_join_ne {a b : String} (plain : Path.PlainName a) (also : Path.PlainName b)
    (differ : a ≠ b) (found : t.locate? (Path.join directory a) = some l)
    (free : t.isDirectory l = false) : t.locate? (Path.join directory b) ≠ some l := by
  intro same
  rcases List.eq_nil_or_concat l with rfl | ⟨front, name, rfl⟩
  · cases free
  · rw [List.concat_eq_append] at found same
    have first := fileName?_of_locate? found
    have second := fileName?_of_locate? same
    rw [plain.fileName?_join, or_iff_right nofun, Option.some.injEq] at first
    rw [also.fileName?_join, or_iff_right nofun, Option.some.injEq] at second
    exact differ (first.trans second.symm)

end

end FixCorpus.Dataset
