import FixCorpus.Json.Record
import FixCorpus.Proofs.Json.RoundTrip

/-! An object is respelled by leaving out members that hold the default of their field and by
writing a field under another of its names. What a layout finds in the object stays, but for the
fields that were left out: `Respelling.slots?`. -/

namespace FixCorpus.Json

/-- Members that are in the table of defaults may be missing, and a member with one of the aliases
may have another of them. -/
inductive Respells (defaults : List (String × Json)) (aliases : List String) :
    List (String × Json) → List (String × Json) → Prop
  | nil : Respells defaults aliases [] []
  | same {ms others : List (String × Json)} (m : String × Json)
      (rest : Respells defaults aliases ms others) :
      Respells defaults aliases (m :: ms) (m :: others)
  | missing {ms others : List (String × Json)} {m : String × Json} (default : m ∈ defaults)
      (rest : Respells defaults aliases ms others) :
      Respells defaults aliases (m :: ms) others
  | renamed {ms others : List (String × Json)} {name other : String} (v : Json)
      (named : name ∈ aliases) (renamed : other ∈ aliases)
      (rest : Respells defaults aliases ms others) :
      Respells defaults aliases ((name, v) :: ms) ((other, v) :: others)

inductive Respelling (defaults : List (String × Json)) (aliases : List String) :
    Json → Json → Prop
  | obj {ms others : List (String × Json)} (members : Respells defaults aliases ms others) :
      Respelling defaults aliases (.obj ms) (.obj others)

inductive Slot.Respells (defaults : List (String × Json)) (names : List String) :
    Slot → Slot → Prop
  | same (s : Slot) : Respells defaults names s s
  | missing {m : String × Json} (default : m ∈ defaults) (named : m.1 ∈ names) :
      Respells defaults names (.given m.2) .absent

inductive SlotsRespell (defaults : List (String × Json)) :
    List (List String) → List Slot → List Slot → Prop
  | nil : SlotsRespell defaults [] [] []
  | cons {names : List String} {layout : List (List String)} {s other : Slot}
      {slots others : List Slot} (first : s.Respells defaults names other)
      (rest : SlotsRespell defaults layout slots others) :
      SlotsRespell defaults (names :: layout) (s :: slots) (other :: others)

variable {defaults : List (String × Json)} {aliases names : List String}
  {ms others : List (String × Json)}

namespace Respells

theorem refl (ms : List (String × Json)) : Respells defaults aliases ms ms := by
  induction ms with
  | nil => exact .nil
  | cons m ms ih => exact .same m ih

theorem forall_plain (h : Respells defaults aliases ms others) (plain : ∀ m ∈ ms, Plain m.2) :
    ∀ m ∈ others, Plain m.2 := by
  induction h with
  | nil => exact nofun
  | same m _ ih | renamed v _ _ _ ih =>
    rw [List.forall_mem_cons] at plain ⊢
    exact ⟨plain.1, ih plain.2⟩
  | missing _ _ ih => exact ih (List.forall_mem_cons.1 plain).2

theorem filter (h : Respells defaults aliases ms others)
    (together : ∀ a ∈ aliases, ∀ b ∈ aliases, a ∈ names → b ∈ names) :
    Respells defaults aliases (ms.filter fun m => m.1 ∈ names)
      (others.filter fun m => m.1 ∈ names) := by
  induction h with
  | nil => exact .nil
  | same m _ ih =>
    by_cases named : m.1 ∈ names
    · simpa [named] using ih.same m
    · simpa [named] using ih
  | @missing _ _ m default _ ih =>
    by_cases named : m.1 ∈ names
    · simpa [named] using ih.missing default
    · simpa [named] using ih
  | @renamed _ _ name other v listed renamed _ ih =>
    have both : name ∈ names ↔ other ∈ names :=
      ⟨together name listed other renamed, together other renamed name listed⟩
    by_cases named : other ∈ names
    · simpa [named, both] using ih.renamed v listed renamed
    · simpa [named, both] using ih

theorem memberSlot {s : Slot} (h : Respells defaults aliases ms others)
    (together : ∀ a ∈ aliases, ∀ b ∈ aliases, a ∈ names → b ∈ names)
    (found : memberSlot ms names = some s) :
    ∃ other, Json.memberSlot others names = some other ∧ s.Respells defaults names other := by
  have of_names : ∀ m ∈ ms.filter (fun m => m.1 ∈ names), m.1 ∈ names := fun m member =>
    of_decide_eq_true (List.mem_filter.1 member).2
  have filtered := h.filter together
  simp only [Json.memberSlot] at found ⊢
  generalize ms.filter (fun m => m.1 ∈ names) = kept at found filtered of_names
  generalize others.filter (fun m => m.1 ∈ names) = keptOthers at filtered
  match kept, found with
  | [], found =>
    cases filtered
    exact ⟨s, found, .same s⟩
  | [m], found =>
    cases found
    cases filtered with
    | same _ rest | renamed _ _ _ rest =>
      cases rest
      exact ⟨_, rfl, .same _⟩
    | missing default rest =>
      cases rest
      exact ⟨.absent, rfl, .missing default (of_names m List.mem_cons_self)⟩

end Respells

namespace Respelling

variable {v w : Json}

theorem plain (h : Respelling defaults aliases v w) (plain : Plain v) : Plain w := by
  obtain ⟨members⟩ := h
  cases plain with
  | obj plain => exact .obj (members.forall_plain plain)

theorem parse?_render {α : Type} {read : Json → Option α} (h : Respelling defaults aliases v w)
    (plain : Plain v) (alike : read w = read v) : (parse? w.render).bind read = read v := by
  rw [Json.parse?_render (h.plain plain), Option.bind_some, alike]

theorem slots? {layout : List (List String)} {slots : List Slot}
    (h : Respelling defaults aliases v w)
    (together : ∀ names ∈ layout, ∀ a ∈ aliases, ∀ b ∈ aliases, a ∈ names → b ∈ names)
    (found : slots? layout v = some slots) :
    ∃ others, Json.slots? layout w = some others ∧ SlotsRespell defaults layout slots others := by
  obtain ⟨members⟩ := h
  simp only [Json.slots?] at found ⊢
  induction layout generalizing slots with
  | nil =>
    cases found
    exact ⟨[], rfl, .nil⟩
  | cons names layout ih =>
    rw [List.forall_mem_cons] at together
    simp only [List.mapM_cons, Option.bind_eq_bind, Option.bind_eq_some_iff] at found
    obtain ⟨s, first, slots, rest, same⟩ := found
    cases same
    obtain ⟨other, firstOther, same⟩ := members.memberSlot together.1 first
    obtain ⟨others, restOthers, alike⟩ := ih together.2 rest
    refine ⟨other :: others, ?_, .cons same alike⟩
    rw [List.mapM_cons, firstOther, restOthers]
    rfl

end Respelling

namespace Slot.Respells

variable {s other : Slot}

theorem eq (h : s.Respells defaults names other) (apart : ∀ m ∈ defaults, m.1 ∉ names) :
    other = s := by
  cases h with
  | same => rfl
  | missing default named => exact absurd named (apart _ default)

theorem orElse {α : Type} (h : s.Respells defaults names other) (read : Json → Option α)
    (default : α) (agree : ∀ m ∈ defaults, m.1 ∈ names → read m.2 = some default) :
    other.orElse default read = s.orElse default read := by
  cases h with
  | same => rfl
  | missing listed named => exact (agree _ listed named).symm

end Slot.Respells

end FixCorpus.Json
