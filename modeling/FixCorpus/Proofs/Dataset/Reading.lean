import FixCorpus.Dataset.Tokenized
import FixCorpus.Proofs.Datapoint.Record
import FixCorpus.Proofs.FileTree.Listing

/-! What actions give on a tree of files. Readers leave the tree as it is, and what
they give depends on nothing but the files that they read. A writer changes the
tree if it does not fail. -/

namespace FixCorpus

open Dataset

abbrev Action (α : Type) : Type :=
  ExceptT Failure (StateM FileTree) α

namespace FileTree

variable {α β : Type} {t u : FileTree} {x : Action α} {f : α → Action β}

def value (t : FileTree) (x : Action α) : Except Failure α :=
  (x.run.run t).1

theorem run_bind_ok {a : α} (first : x.run.run t = (.ok a, u)) :
    (x >>= f).run.run t = (f a).run.run u := by
  rw [ExceptT.run_bind, run_bind, first]

theorem run_bind_error {e : Failure} (first : x.run.run t = (.error e, u)) :
    (x >>= f).run.run t = (.error e, u) := by
  rw [ExceptT.run_bind, run_bind, first]
  rfl

def ReadsOnly (x : Action α) : Prop :=
  ∀ t : FileTree, x.run.run t = (t.value x, t)

theorem ReadsOnly.run_bind (reads : ReadsOnly x) (t : FileTree) :
    (x >>= f).run.run t =
      match t.value x with
      | .ok a => (f a).run.run t
      | .error e => (.error e, t) := by
  cases first : t.value x with
  | ok a => exact run_bind_ok (first ▸ reads t)
  | error e => exact run_bind_error (first ▸ reads t)

theorem value_bind (reads : ReadsOnly x) (t : FileTree) :
    t.value (x >>= f) = t.value x >>= fun a => t.value (f a) := by
  rw [value, reads.run_bind]
  cases t.value x <;> rfl

theorem run_bind_eq_ok {b : β} {v : FileTree} : (x >>= f).run.run t = (.ok b, v) ↔
    ∃ a u, x.run.run t = (.ok a, u) ∧ (f a).run.run u = (.ok b, v) := by
  constructor
  · intro ran
    match first : x.run.run t with
    | (.ok a, u) => exact ⟨a, u, rfl, (run_bind_ok first).symm.trans ran⟩
    | (.error e, u) => cases (run_bind_error first).symm.trans ran
  · rintro ⟨a, u, first, second⟩
    rw [run_bind_ok first, second]

theorem ReadsOnly.run_bind_eq_ok (reads : ReadsOnly x) {b : β} {v : FileTree} :
    (x >>= f).run.run t = (.ok b, v) ↔ ∃ a, t.value x = .ok a ∧ (f a).run.run t = (.ok b, v) := by
  rw [FileTree.run_bind_eq_ok, reads t]
  constructor
  · rintro ⟨a, u, first, second⟩
    obtain ⟨held, rfl⟩ := Prod.mk.inj first
    exact ⟨a, held, second⟩
  · rintro ⟨a, first, second⟩
    exact ⟨a, t, by rw [first], second⟩

theorem ReadsOnly.bind (reads : ReadsOnly x) (then_reads : ∀ a, ReadsOnly (f a)) :
    ReadsOnly (x >>= f) := by
  intro t
  rw [reads.run_bind, value_bind reads]
  cases t.value x with
  | ok a => exact then_reads a t
  | error e => rfl

theorem readsOnly_pure (a : α) : ReadsOnly (pure a) :=
  fun _ => rfl

theorem readsOnly_lift (r : Except Failure α) : ReadsOnly (liftM r) :=
  fun _ => rfl

@[simp] theorem value_lift (t : FileTree) (r : Except Failure α) : t.value (liftM r) = r := rfl

theorem run_lift (y : StateM FileTree α) (t : FileTree) :
    (liftM y : Action α).run.run t = (.ok (y.run t).1, (y.run t).2) := rfl

theorem run_discoverRecords (directory : String) (t : FileTree) :
    (liftM (discoverRecords directory : StateM FileTree _) : Action _).run.run t =
      (.ok (t.records directory), t) := rfl

theorem run_orNoInputs {files : List String} (some_file : files ≠ [])
    (directory extension : String) (t : FileTree) :
    (liftM (orNoInputs directory extension files) : Action _).run.run t = (.ok files, t) := by
  rw [orNoInputs, if_neg (by simpa using some_file)]
  rfl

theorem run_mapM_lift {γ : Type} (step : γ → StateM FileTree α) (xs : List γ) (t : FileTree) :
    (xs.mapM fun x => (ExceptT.lift (step x) : Action α)).run.run t =
      (.ok ((xs.mapM step : StateM FileTree _).run t).1,
        ((xs.mapM step : StateM FileTree _).run t).2) := by
  induction xs generalizing t with
  | nil => rfl
  | cons x xs ih =>
    have first : (ExceptT.lift (step x) : Action α).run.run t =
        (.ok ((step x).run t).1, ((step x).run t).2) := run_lift (step x) t
    rw [List.mapM_cons, List.mapM_cons, run_bind_ok first, run_bind_ok (ih _)]
    rfl

theorem run_readBytes (path : String) (t : FileTree) :
    (readBytes path : Action _).run.run t =
      (match t.read? path with
        | some content => .ok content
        | none => .error (.io path), t) := by
  rw [readBytes, run_bind_ok (run_lift _ t), run_read]
  cases t.read? path <;> rfl

theorem run_writeText (path text : String) (t : FileTree) :
    (writeText path text : Action _).run.run t =
      match t.write? path text.toUTF8 with
      | some u => (.ok (), u)
      | none => (.error (.io path), t) := by
  rw [writeText, run_bind_ok (run_lift _ t), run_write]
  cases t.write? path text.toUTF8 <;> rfl

theorem run_makeDirectory (path : String) (t : FileTree) :
    (makeDirectory path : Action _).run.run t =
      match (Storage.makeDirectory path : StateM FileTree Bool).run t with
      | (true, u) => (.ok (), u)
      | (false, u) => (.error (.io path), u) := by
  rw [makeDirectory, run_bind_ok (run_lift _ t)]
  match (Storage.makeDirectory path : StateM FileTree Bool).run t with
  | (true, u) => rfl
  | (false, u) => rfl

theorem readsOnly_readBytes (path : String) : ReadsOnly (readBytes path) := fun t => by
  rw [value, run_readBytes]

def textOf (path : String) (content : ByteArray) : Except Failure String :=
  match String.fromUTF8? content with
  | some text => .ok text
  | none => .error (.io path)

theorem readText_eq (path : String) :
    (readText path : Action _) = readBytes path >>= fun content => liftM (textOf path content) := by
  refine congrArg (readBytes path >>= ·) (funext fun content => ?_)
  unfold textOf
  cases String.fromUTF8? content <;> rfl

theorem readsOnly_readText (path : String) : ReadsOnly (readText path) := by
  rw [readText_eq]
  exact (readsOnly_readBytes path).bind fun _ => readsOnly_lift _

theorem value_readText (path : String) (t : FileTree) :
    t.value (readText path) = t.value (readBytes path) >>= textOf path := by
  rw [readText_eq, value_bind (readsOnly_readBytes path)]
  rfl

theorem value_readBytes_congr {path : String} (same : u.read? path = t.read? path) :
    u.value (readBytes path) = t.value (readBytes path) := by
  rw [value, value, run_readBytes, run_readBytes, same]

theorem value_readText_congr {path : String} (same : u.read? path = t.read? path) :
    u.value (readText path) = t.value (readText path) := by
  rw [value_readText, value_readText, value_readBytes_congr same]

theorem Gains.value_readText_eq (h : Gains t u) {path text : String}
    (read : t.value (readText path) = .ok text) : u.value (readText path) = .ok text := by
  rw [value_readText, value, run_readBytes] at read ⊢
  cases found : t.read? path with
  | none => rw [found] at read; cases read
  | some content =>
    rw [found] at read
    rw [h.read?_eq found]
    exact read

theorem fromUTF8?_toUTF8 (text : String) : String.fromUTF8? text.toUTF8 = some text := by
  rw [String.fromUTF8?, String.toUTF8_eq_toByteArray, dif_pos text.isValidUTF8]
  rfl

theorem value_readText_of_stored {path text : String} {t : FileTree}
    (found : t.read? path = some text.toUTF8) : t.value (readText path) = .ok text := by
  rw [value_readText, value, run_readBytes, found]
  show textOf path text.toUTF8 = _
  rw [textOf, fromUTF8?_toUTF8]

theorem value_readRecord (read : Json → Option α) (path : String) (t : FileTree) :
    t.value (readRecord read path) = t.value (readText path) >>= parseRecord read path :=
  value_bind (readsOnly_readText path) t

theorem readsOnly_readRecord (read : Json → Option α) (path : String) :
    ReadsOnly (readRecord read path) :=
  (readsOnly_readText path).bind fun _ => readsOnly_lift _

theorem value_readRecord_congr {read : Json → Option α} {path : String}
    (same : u.read? path = t.read? path) :
    u.value (readRecord read path) = t.value (readRecord read path) := by
  rw [value_readRecord, value_readRecord, value_readText_congr same]

theorem value_readRecord_of_gains (h : Gains t u) {read : Json → Option α} {path : String} {a : α}
    (held : t.value (readRecord read path) = .ok a) : u.value (readRecord read path) = .ok a := by
  rw [value_readRecord, except_bind_eq_ok] at held ⊢
  obtain ⟨text, found, parsed⟩ := held
  exact ⟨text, h.value_readText_eq found, parsed⟩

theorem value_readRecord_of_stored {read : Json → Option α} {path text : String} {a : α}
    (held : t.read? path = some text.toUTF8) (parsed : (Json.parse? text).bind read = some a) :
    t.value (readRecord read path) = .ok a := by
  rw [value_readRecord, value_readText_of_stored held]
  change parseRecord read path text = .ok a
  rw [parseRecord, parsed]

theorem readsOnly_readUnified (path : String) : ReadsOnly (readUnified path) :=
  (readsOnly_readText path).bind fun _ => (readsOnly_lift _).bind fun _ => readsOnly_pure _

theorem value_readUnified (path : String) (t : FileTree) :
    t.value (readUnified path) = t.value (readText path) >>= fun text =>
      unifiedOfText path text >>= fun d => .ok (text, d) := by
  rw [readUnified, value_bind (readsOnly_readText path)]
  refine congrArg _ (funext fun text => ?_)
  rw [value_bind (readsOnly_lift _)]
  rfl

theorem unifiedOfText_eq_ok {path text : String} {d : UnifiedDatapoint} :
    unifiedOfText path text = .ok d ↔
      isAscii text = true ∧ (Json.parse? text).bind UnifiedDatapoint.ofJson? = some d := by
  unfold unifiedOfText parseRecord
  split
  · rename_i ascii
    cases (Json.parse? text).bind UnifiedDatapoint.ofJson? <;> simp [ascii]
  · rename_i not_ascii
    simp [not_ascii]

theorem value_readUnified_eq_ok {path text : String} {d : UnifiedDatapoint} {t : FileTree} :
    t.value (readUnified path) = .ok (text, d) ↔
      t.value (readText path) = .ok text ∧ unifiedOfText path text = .ok d := by
  simp only [value_readUnified, except_bind_eq_ok]
  constructor
  · rintro ⟨_, read, _, held, same⟩
    cases same
    exact ⟨read, held⟩
  · rintro ⟨read, held⟩
    exact ⟨text, read, d, held, rfl⟩

section

open Json

theorem isAscii_iff {text : String} :
    isAscii text = true ↔ ∀ c ∈ text.toList, c.toNat < 128 := by
  simp [isAscii]

theorem isAscii_append (a b : String) : isAscii (a ++ b) = (isAscii a && isAscii b) := by
  rw [isAscii, String.toList_append, List.all_append, isAscii, isAscii]

theorem isAscii_newLine (level : Nat) : isAscii (newLine level) = true := by
  refine isAscii_iff.2 fun c member => ?_
  simp only [newLine, String.toList_append, String.toList_ofList, List.mem_append] at member
  rcases member with newline | indent
  · exact isAscii_iff.1 (by decide : isAscii "\n" = true) c newline
  · rw [List.eq_of_mem_replicate indent]
    decide

theorem lt_of_mem_escapeChar {c : Char} (ascii : c.toNat < 128) :
    ∀ d ∈ escapeChar c, d.toNat < 128 := by
  have digit : ∀ n < 16, (Text.hexDigit n).toNat < 128 := by decide
  unfold escapeChar
  repeat' split
  iterate 7 exact List.forall_mem_cons.2 ⟨by decide, List.forall_mem_singleton.2 (by decide)⟩
  · simp only [List.forall_mem_cons]
    exact ⟨by decide, by decide, by decide, by decide, digit _ (by omega), digit _ (by omega),
      List.forall_mem_nil _⟩
  · exact List.forall_mem_singleton.2 ascii

theorem isAscii_quote {text : String} (ascii : isAscii text = true) :
    isAscii (quote text) = true := by
  refine isAscii_iff.2 fun d member => ?_
  simp only [quote, String.toList_ofList, List.mem_cons, List.mem_append, List.mem_flatMap,
    List.not_mem_nil, or_false] at member
  rcases member with rfl | ⟨c, inside, piece⟩ | rfl
  · decide
  · exact lt_of_mem_escapeChar (isAscii_iff.1 ascii c inside) d piece
  · decide

end

theorem value_readUnified_of_stored {path : String} {d : UnifiedDatapoint} {t : FileTree}
    (h : d.Storable) (ascii : isAscii d.toJson.render = true)
    (found : t.read? path = some d.toJson.render.toUTF8) :
    t.value (readUnified path) = .ok (d.toJson.render, d) :=
  value_readUnified_eq_ok.2 ⟨value_readText_of_stored found,
    unifiedOfText_eq_ok.2 ⟨ascii, UnifiedDatapoint.parse?_render h⟩⟩

def sourcePath (checkouts : String) (d : UnifiedDatapoint) : String :=
  Path.join (Path.join checkouts d.repo) d.filePath

theorem readsOnly_readSource (checkouts : String) (d : UnifiedDatapoint) :
    ReadsOnly (readSource checkouts d) :=
  (readsOnly_readBytes _).bind fun _ => readsOnly_lift _

theorem value_readSource (checkouts : String) (d : UnifiedDatapoint) (t : FileTree) :
    t.value (readSource checkouts d) =
      t.value (readBytes (sourcePath checkouts d)) >>= sourceText (sourcePath checkouts d) :=
  value_bind (readsOnly_readBytes _) t

theorem value_tokenizedDatapoint (path checkouts : String) (settings : Settings) (t : FileTree) :
    t.value (tokenizedDatapoint path checkouts settings) =
      t.value (readUnified path) >>= fun r => t.value (readSource checkouts r.2) >>= fun source =>
        tokenizeSource r.2 source settings := by
  rw [tokenizedDatapoint, value_bind (readsOnly_readUnified path)]
  refine congrArg _ (funext fun r => ?_)
  rw [value_bind (readsOnly_readSource checkouts r.2)]
  rfl

theorem value_tokenizedDatapoint_of_ok {path checkouts text : String} {d : UnifiedDatapoint}
    (found : t.value (readUnified path) = .ok (text, d)) (settings : Settings) :
    t.value (tokenizedDatapoint path checkouts settings) =
      t.value (readSource checkouts d) >>= fun source => tokenizeSource d source settings := by
  rw [value_tokenizedDatapoint, found]
  rfl

section

variable {path checkouts : String}

theorem value_readUnified_congr (same : u.read? path = t.read? path) :
    u.value (readUnified path) = t.value (readUnified path) := by
  rw [value_readUnified, value_readUnified, value_readText_congr same]

theorem value_tokenizedDatapoint_congr (settings : Settings) (same : u.read? path = t.read? path)
    (same_source : ∀ text d, t.value (readUnified path) = .ok (text, d) →
      u.read? (sourcePath checkouts d) = t.read? (sourcePath checkouts d)) :
    u.value (tokenizedDatapoint path checkouts settings) =
      t.value (tokenizedDatapoint path checkouts settings) := by
  have same_read := value_readUnified_congr same
  cases found : t.value (readUnified path) with
  | error e =>
    rw [value_tokenizedDatapoint, value_tokenizedDatapoint, same_read, found]
    rfl
  | ok r =>
    obtain ⟨text, d⟩ := r
    rw [value_tokenizedDatapoint_of_ok (same_read.trans found),
      value_tokenizedDatapoint_of_ok found, value_readSource, value_readSource,
      value_readBytes_congr (same_source text d found)]

end

end FileTree

end FixCorpus
