import FixCorpus.Token.Basic

/-! Aliases for names. The first name that is seen becomes `VAR-0`, the next new
one `VAR-1`, and a name keeps its alias in all the token lists of a datapoint. -/

namespace FixCorpus

/-- The names that have an alias, in the order in which they were first seen. -/
structure Aliases where
  names : List String
deriving Repr

namespace Aliases

def empty : Aliases :=
  ⟨[]⟩

def size (a : Aliases) : Nat :=
  a.names.length

def see (a : Aliases) (name : String) : Aliases :=
  if name ∈ a.names then a else ⟨a.names ++ [name]⟩

/-- The alias that a name has, or that it gets when it is seen next. -/
def aliasOf (a : Aliases) (name : String) : String :=
  "VAR-" ++ toString (a.names.idxOf name)

def apply (a : Aliases) : List Token → Aliases × List Token
  | [] => (a, [])
  | t :: tokens =>
    if t.kind.isIdentifier then
      let (b, rest) := apply (a.see t.text) tokens
      (b, { t with text := a.aliasOf t.text } :: rest)
    else
      let (b, rest) := apply a tokens
      (b, t :: rest)

@[simp] theorem names_empty : empty.names = [] := rfl

theorem mem_names_see (a : Aliases) (name : String) : name ∈ (a.see name).names := by
  unfold see
  split <;> simp_all

theorem nodup_names_see {a : Aliases} (h : a.names.Nodup) (name : String) :
    (a.see name).names.Nodup := by
  unfold see
  split
  · exact h
  · rename_i new
    exact List.nodup_append.2 ⟨h, by simp, by rintro x hx y hy rfl; simp_all⟩

theorem aliasOf_see (a : Aliases) (name : String) : (a.see name).aliasOf name = a.aliasOf name := by
  unfold see
  split
  · rfl
  · rename_i new
    have := List.idxOf_eq_length new
    simp_all [aliasOf, List.idxOf_append]

end Aliases

end FixCorpus
