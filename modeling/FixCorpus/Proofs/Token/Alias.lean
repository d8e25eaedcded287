import FixCorpus.Proofs.Text.Decimal
import FixCorpus.Token.Alias

/-! Aliases as a renaming. A name keeps its alias when more names are seen, so
that the aliases in force at the end rename all the token lists, the first ones
too. They are numbered without a gap and are different for different names. -/

namespace FixCorpus

def nameTexts (tokens : List Token) : List String :=
  (tokens.filter (·.kind.isIdentifier)).map (·.text)

def Token.rename (f : String → String) (t : Token) : Token :=
  if t.kind.isIdentifier then { t with text := f t.text } else t

def numberedAlias (n : Nat) : String :=
  "VAR-" ++ toString n

theorem numberedAlias_injective {m n : Nat} (same : numberedAlias m = numberedAlias n) : m = n :=
  Text.toString_injective ((String.append_right_inj "VAR-").1 same)

namespace Aliases

variable {a b : Aliases} {tokens : List Token}

theorem prefix_names_see (a : Aliases) (name : String) : a.names <+: (a.see name).names := by
  unfold see
  split
  · exact List.prefix_refl _
  · exact List.prefix_append _ _

theorem prefix_names_apply (a : Aliases) (tokens : List Token) :
    a.names <+: (a.apply tokens).1.names := by
  induction tokens generalizing a with
  | nil => exact List.prefix_refl _
  | cons t tokens ih =>
    rw [apply]
    split
    · exact (prefix_names_see a t.text).trans (ih (a.see t.text))
    · exact ih a

theorem apply_append (a : Aliases) (tokens others : List Token) :
    (a.apply (tokens ++ others)).1 = ((a.apply tokens).1.apply others).1 := by
  induction tokens generalizing a with
  | nil => rfl
  | cons t tokens ih =>
    rw [List.cons_append, apply, apply]
    split
    · exact ih (a.see t.text)
    · exact ih a

theorem aliasOf_eq_of_prefix (more : a.names <+: b.names) {name : String}
    (known : name ∈ a.names) : b.aliasOf name = a.aliasOf name := by
  obtain ⟨others, parts⟩ := more
  rw [aliasOf, aliasOf, ← parts, List.idxOf_append, if_pos known]

theorem apply_eq_map (more : (a.apply tokens).1.names <+: b.names) :
    (a.apply tokens).2 = tokens.map (Token.rename b.aliasOf) := by
  induction tokens generalizing a with
  | nil => rfl
  | cons t tokens ih =>
    rw [apply] at more ⊢
    rw [List.map_cons, Token.rename]
    split at more
    · rename_i name
      have seen : b.aliasOf t.text = a.aliasOf t.text := by
        rw [← aliasOf_see a]
        exact aliasOf_eq_of_prefix ((prefix_names_apply _ tokens).trans more) (mem_names_see a t.text)
      rw [if_pos name, if_pos name, seen, ← ih more]
    · rename_i other
      rw [if_neg other, if_neg other, ← ih more]

theorem names_see_eq {names : List String} (h : a.names = names.eraseDups) (name : String) :
    (a.see name).names = (names ++ [name]).eraseDups := by
  rw [List.eraseDups_append, see, h]
  by_cases known : name ∈ names
  · simp [known, h, List.removeAll]
  · simp [known, List.removeAll, List.eraseDups_cons]

theorem names_apply_eq {names : List String} (h : a.names = names.eraseDups) :
    (a.apply tokens).1.names = (names ++ nameTexts tokens).eraseDups := by
  induction tokens generalizing a names with
  | nil => simpa [apply, nameTexts] using h
  | cons t tokens ih =>
    rw [apply]
    split
    · rename_i name
      rw [ih (names_see_eq h t.text)]
      simp [nameTexts, name]
    · rename_i other
      rw [ih h]
      simp [nameTexts, other]

theorem names_nodup_apply (h : a.names.Nodup) : (a.apply tokens).1.names.Nodup := by
  induction tokens generalizing a with
  | nil => exact h
  | cons t tokens ih =>
    rw [apply]
    split
    · exact ih (nodup_names_see h t.text)
    · exact ih h

theorem map_aliasOf_names (h : a.names.Nodup) :
    a.names.map a.aliasOf = (List.range a.names.length).map numberedAlias := by
  refine List.ext_getElem (by simp) fun i bound _ => ?_
  rw [List.getElem_map, List.getElem_map, List.getElem_range, aliasOf, h.idxOf_getElem]
  rfl

theorem aliasOf_injective_on {name other : String} (known : name ∈ a.names)
    (same : a.aliasOf name = a.aliasOf other) : name = other := by
  have index : a.names.idxOf name = a.names.idxOf other := numberedAlias_injective same
  have bound := List.idxOf_lt_length_iff.2 known
  rw [← List.getElem_idxOf bound]
  simp only [index]
  exact List.getElem_idxOf (index ▸ bound)

end Aliases

end FixCorpus
