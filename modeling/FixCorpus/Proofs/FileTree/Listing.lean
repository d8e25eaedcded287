import FixCorpus.Dataset.Basic
import FixCorpus.Proofs.FileTree.Directories
import Mathlib.Data.List.Dedup

/-! Lists of files. New directories do not show in them, and a new file shows only
in those of the directories it lies below. -/

namespace FixCorpus.FileTree

def fileBelow? (l : Location) : Location × Entry → Option Location
  | (k, .file _) => if l.isPrefixOf k then some (k.drop l.length) else none
  | (_, .directory) => none

def below (t : FileTree) (l : Location) : List Location :=
  t.entries.filterMap (fileBelow? l)

section

variable {t u : FileTree} {k l r : Location}

theorem fileBelow?_eq_some {e : Entry} :
    fileBelow? l (k, e) = some r ↔ k = l ++ r ∧ ∃ content, e = .file content := by
  cases e with
  | directory => simp [fileBelow?]
  | file content =>
    simp only [fileBelow?, List.isPrefixOf_iff_prefix, Entry.file.injEq, exists_eq', and_true]
    constructor
    · intro found
      split at found
      · rename_i inside
        obtain ⟨rest, rfl⟩ := inside
        rw [← Option.some.inj found, List.drop_left]
      · cases found
    · rintro rfl
      simp

theorem files_eq {path : String} (found : t.locate? path = some l) :
    t.files path = (t.below l).map (extend path) := by
  rw [files, found, below, List.map_filterMap]
  refine congrArg (fun f => t.entries.filterMap f) (funext fun e => ?_)
  obtain ⟨k, e⟩ := e
  cases e with
  | directory => rfl
  | file content =>
    by_cases inside : l.isPrefixOf k <;> simp [fileBelow?, inside]

theorem Gains.below_eq (h : Gains t u) (l : Location) : u.below l = t.below l := by
  obtain ⟨made, entries, -⟩ := h
  have none_shows : ∀ e ∈ made.map fun k => (k, Entry.directory), fileBelow? l e = none := by
    intro e member
    obtain ⟨k, -, rfl⟩ := List.mem_map.1 member
    rfl
  rw [below, entries, List.filterMap_append, List.filterMap_eq_nil_iff.2 none_shows]
  rfl

theorem Gains.files_eq (h : Gains t u) {path : String} (found : t.locate? path = some l) :
    u.files path = t.files path := by
  rw [FileTree.files_eq found, FileTree.files_eq (locate?_mono h.isDirectory found), h.below_eq]

theorem filterMap_fileBelow?_filter (entries : List (Location × Entry)) :
    (entries.filter (·.1 ≠ k)).filterMap (fileBelow? l) =
      (entries.filterMap (fileBelow? l)).filter fun r => decide (l ++ r ≠ k) := by
  rw [List.filterMap_filter, List.filter_filterMap]
  refine congrArg (fun f => entries.filterMap f) (funext fun e => ?_)
  obtain ⟨j, e⟩ := e
  cases shown : fileBelow? l (j, e) with
  | none => simp
  | some r =>
    obtain ⟨rfl, -⟩ := fileBelow?_eq_some.1 shown
    simp [Option.filter]

theorem below_set_file (t : FileTree) (k l : Location) (content : ByteArray) :
    (t.set k (.file content)).below l =
      (if l.isPrefixOf k then [k.drop l.length] else []) ++
        (t.below l).filter fun r => decide (l ++ r ≠ k) := by
  rw [below, set, List.filterMap_cons, filterMap_fileBelow?_filter]
  by_cases inside : l.isPrefixOf k <;> simp [fileBelow?, inside, below]

theorem filter_files_set_file {path : String} (found : t.locate? path = some l)
    (free : t.isDirectory k = false) (content : ByteArray) {q : String → Bool}
    (other : ∀ r, l ++ r = k → q (extend path r) = false) :
    ((t.set k (.file content)).files path).filter q = (t.files path).filter q := by
  have same_place := locate?_congr (isDirectory_set_file free content) path
  rw [files_eq found, files_eq (same_place.trans found), below_set_file, List.map_append,
    List.filter_append]
  have no_new : ((if l.isPrefixOf k then [k.drop l.length] else []).map (extend path)).filter q =
      [] := by
    split
    · rename_i inside
      obtain ⟨r, rfl⟩ := List.isPrefixOf_iff_prefix.1 inside
      simpa using other r rfl
    · rfl
  have all_old : ∀ r ∈ t.below l,
      (decide (l ++ r ≠ k) && q (extend path r)) = q (extend path r) := by
    intro r _
    by_cases same : l ++ r = k <;> simp [same, other r]
  rw [no_new, List.nil_append, List.filter_map, List.filter_map, List.filter_filter]
  refine congrArg (List.map (extend path)) (List.filter_congr fun r member => ?_)
  rw [Function.comp_apply, Bool.and_comm]
  exact all_old r member

theorem filter_files_putAll {path : String} (found : t.locate? path = some r)
    {files : List (String × ByteArray)}
    (free : ∀ f ∈ files, t.isDirectory (l ++ [f.1]) = false) {q : String → Bool}
    (other : ∀ f ∈ files, ∀ k, r ++ k = l ++ [f.1] → q (extend path k) = false) :
    ((t.putAll l files).files path).filter q = (t.files path).filter q := by
  induction files generalizing t with
  | nil => rfl
  | cons f files ih =>
    rw [List.forall_mem_cons] at free other
    have same := isDirectory_set_file free.1 f.2
    have rest := ih ((locate?_congr same path).trans found)
      (fun g member => (same _).trans (free.2 g member)) other.2
    exact rest.trans (filter_files_set_file found free.1 f.2 other.1)

theorem extend_append_singleton (path : String) (r : Location) (name : String) :
    extend path (r ++ [name]) = Path.join (extend path r) name := by
  simp [extend]

end

section

open Dataset

variable {t u : FileTree} {k l r : Location} {directory : String}

theorem run_discover (directory extension : String) (t : FileTree) :
    (discover directory extension : StateM FileTree _).run t =
      (((t.files directory).filter fun f => Path.extension? f = some extension).mergeSort Path.le,
        t) := rfl

def records (t : FileTree) (directory : String) : List String :=
  ((discoverRecords directory : StateM FileTree _).run t).1

def namesRecord (path : String) : Bool :=
  Path.extension? path = some "json" && Path.fileName? path ≠ some metadataName

theorem records_eq (t : FileTree) (directory : String) :
    t.records directory =
      (((t.files directory).filter fun f => Path.extension? f = some "json").mergeSort
        Path.le).filter fun f => Path.fileName? f ≠ some metadataName := rfl

theorem records_of_sorted
    (sorted : ((t.files directory).filter fun f => Path.extension? f = some "json").Pairwise
      fun a b => Path.le a b = true) :
    t.records directory =
      ((t.files directory).filter fun f => Path.extension? f = some "json").filter
        fun f => Path.fileName? f ≠ some metadataName := by
  rw [records_eq, List.mergeSort_of_pairwise sorted]

theorem perm_records (found : t.locate? directory = some l) :
    (t.records directory).Perm
      (((t.below l).filter fun r => namesRecord (extend directory r)).map (extend directory)) := by
  rw [records_eq, files_eq found]
  refine ((List.mergeSort_perm _ _).filter _).trans ?_
  rw [List.filter_filter, List.filter_map]
  refine .of_eq (congrArg (List.map _) (List.filter_congr fun r _ => ?_))
  simp [namesRecord, Bool.and_comm]

theorem mem_records_iff (found : t.locate? directory = some l) {path : String} :
    path ∈ t.records directory ↔
      ∃ r ∈ t.below l, namesRecord path = true ∧ extend directory r = path := by
  rw [(perm_records found).mem_iff, List.mem_map]
  simp only [List.mem_filter, and_assoc]
  exact exists_congr fun r => and_congr_right fun _ =>
    ⟨fun h => ⟨h.2 ▸ h.1, h.2⟩, fun h => ⟨h.2 ▸ h.1, h.2⟩⟩

theorem mem_records_of_set_file (found : t.locate? directory = some l) {name : String}
    (free : t.isDirectory (l ++ [name]) = false) {content : ByteArray} {path : String}
    (listed : path ∈ (t.set (l ++ [name]) (.file content)).records directory) :
    namesRecord path = true ∧ (path = Path.join directory name ∨ path ∈ t.records directory) := by
  obtain ⟨r, member, named, rfl⟩ :=
    (mem_records_iff ((locate?_set_file free content directory).trans found)).1 listed
  refine ⟨named, ?_⟩
  rw [below_set_file, if_pos (List.isPrefixOf_iff_prefix.2 (List.prefix_append _ _)),
    List.drop_left, List.singleton_append, List.mem_cons] at member
  rcases member with rfl | old
  · exact .inl rfl
  · exact .inr ((mem_records_iff found).2 ⟨r, (List.mem_filter.1 old).1, named, rfl⟩)

theorem records_of_locate?_none (missing : t.locate? directory = none) :
    t.records directory = [] := by
  have none_there : t.files directory = [] := by rw [files, missing]
  simp [records_eq, none_there]

theorem Gains.records_eq (h : Gains t u) (found : t.locate? directory = some l) :
    u.records directory = t.records directory := by
  rw [FileTree.records_eq, FileTree.records_eq, h.files_eq found]

def recordsBelow (t : FileTree) (directory : String) (l : Location) : List Location :=
  (t.below l).filter fun r => namesRecord (extend directory r)

theorem recordsBelow_set_file {name : String}
    (named : namesRecord (Path.join directory name) = true) (content : ByteArray) :
    (t.set (l ++ [name]) (.file content)).recordsBelow directory l =
      [name] :: (t.recordsBelow directory l).filter fun r => decide (r ≠ [name]) := by
  have self : namesRecord (extend directory [name]) = true := named
  rw [recordsBelow, recordsBelow, below_set_file,
    if_pos (List.isPrefixOf_iff_prefix.2 (List.prefix_append _ _)), List.drop_left,
    List.filter_append, List.filter_cons, if_pos self, List.filter_filter, List.filter_filter]
  simp only [List.filter_nil, List.singleton_append, Bool.and_comm, ne_eq,
    List.append_cancel_left_eq]

theorem mem_recordsBelow_putAll (empty : t.recordsBelow directory l = [])
    {files : List (String × ByteArray)}
    (named : ∀ f ∈ files, namesRecord (Path.join directory f.1) = true) :
    ((t.putAll l files).recordsBelow directory l).Nodup ∧
      ∀ r, r ∈ (t.putAll l files).recordsBelow directory l ↔ ∃ f ∈ files, r = [f.1] := by
  induction files using List.reverseRecOn with
  | nil => simp [putAll, empty]
  | append_singleton files f ih =>
    simp only [List.forall_mem_append, List.forall_mem_singleton] at named
    obtain ⟨distinct, members⟩ := ih named.1
    have step : (t.putAll l (files ++ [f])).recordsBelow directory l = _ :=
      (congrArg (fun u => recordsBelow u directory l) (putAll_append t l files [f])).trans
        (recordsBelow_set_file (t := t.putAll l files) named.2 f.2)
    rw [step]
    refine ⟨List.nodup_cons.2 ⟨by simp, distinct.filter _⟩, fun r => ?_⟩
    rw [List.mem_cons, List.mem_filter, members]
    simp only [List.mem_append, List.mem_singleton, or_and_right, exists_or, exists_eq_left,
      decide_eq_true_eq]
    by_cases last : r = [f.1] <;> simp [last]

theorem length_records_putAll (found : t.locate? directory = some l)
    (empty : t.records directory = []) {files : List (String × ByteArray)}
    (free : ∀ f ∈ files, t.isDirectory (l ++ [f.1]) = false)
    (named : ∀ f ∈ files, namesRecord (Path.join directory f.1) = true) :
    ((t.putAll l files).records directory).length = (files.map (·.1)).dedup.length := by
  have place := ((AgreesOutside.refl t l).putAll files free).locate?_eq directory
  have none_below : t.recordsBelow directory l = [] := by
    have same := perm_records found
    rwa [empty, List.nil_perm, List.map_eq_nil_iff] at same
  obtain ⟨distinct, members⟩ := mem_recordsBelow_putAll none_below named
  have one_each : ((t.putAll l files).recordsBelow directory l).Perm
      ((files.map (·.1)).dedup.map fun name => [name]) := by
    refine (List.perm_ext_iff_of_nodup distinct ?_).2 fun r => ?_
    · exact (List.nodup_dedup _).map fun a b same => List.singleton_inj.1 same
    · rw [members]
      simp [eq_comm]
  rw [(perm_records (place.trans found)).length_eq, List.length_map, ← recordsBelow,
    one_each.length_eq, List.length_map]

theorem records_putAll {files : List (String × ByteArray)}
    (free : ∀ f ∈ files, t.isDirectory (l ++ [f.1]) = false)
    (outside : ∀ k, t.locate? directory = some k → ∀ f ∈ files, ¬ k <+: l ++ [f.1]) :
    (t.putAll l files).records directory = t.records directory := by
  cases found : t.locate? directory with
  | none =>
    have agrees := (AgreesOutside.refl t l).putAll files free
    rw [records_of_locate?_none found,
      records_of_locate?_none ((agrees.locate?_eq directory).trans found)]
  | some k =>
    rw [records_eq, records_eq, filter_files_putAll found free fun f member r placed =>
      absurd ⟨r, placed⟩ (outside k found f member)]

/-- No directory that could be made lets the path lead to a record. -/
def HoldsNoRecord (t : FileTree) (directory : String) : Prop :=
  ∀ u, Gains t u → u.records directory = []

theorem holdsNoRecord_of_locate? (found : t.locate? directory = some l)
    (empty : t.records directory = []) : t.HoldsNoRecord directory :=
  fun _ more => (more.records_eq found).trans empty

theorem HoldsNoRecord.gains (h : t.HoldsNoRecord directory) (more : Gains t u) :
    u.HoldsNoRecord directory :=
  fun v also => h v (more.trans also)

end

end FixCorpus.FileTree
