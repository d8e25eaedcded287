import FixCorpus.Path

/-! Paths of names in directories. A plain name holds no slash and leads neither
nowhere nor back, so that it is the last piece of its path, whatever slashes the
directory ends in. -/

namespace FixCorpus.Path

/-- A name that leads to one entry of a directory. -/
structure PlainName (name : String) : Prop where
  nonempty : name ≠ ""
  not_here : name ≠ "."
  not_back : name ≠ ".."
  no_slash : '/' ∉ name.toList

theorem pieces_append_slash (a b : String) : pieces (a ++ "/" ++ b) = pieces a ++ pieces b := by
  have parted : (a ++ "/" ++ b).toList = a.toList ++ '/' :: b.toList := by simp
  have cut : (a.toList ++ '/' :: b.toList).splitOn '/' =
      a.toList.splitOn '/' ++ b.toList.splitOn '/' :=
    List.splitOnP_append_cons _ _ (by simp)
  rw [pieces, parted, cut, List.map_append]
  rfl

@[simp] theorem pieces_empty : pieces "" = [""] := rfl

section

variable {name : String} (plain : PlainName name)
include plain

theorem PlainName.pieces_eq : pieces name = [name] := by
  have whole : name.toList.splitOn '/' = [name.toList] :=
    List.splitOnP_eq_singleton fun c member => by
      simpa using fun same : c = '/' => plain.no_slash (same ▸ member)
  rw [pieces, whole, List.map_singleton, String.ofList_toList]

theorem PlainName.head?_ne : name.toList.head? ≠ some '/' :=
  fun slash => plain.no_slash (List.mem_of_head? slash)

theorem PlainName.join_cases (directory : String) :
    (directory = "" ∧ join directory name = name) ∨
      ∃ front, (directory = front ∨ directory = front ++ "/") ∧ directory ≠ "" ∧
        join directory name = front ++ "/" ++ name := by
  by_cases empty : directory = ""
  · exact .inl ⟨empty, by simp [join, plain.head?_ne, empty]⟩
  · refine .inr ?_
    by_cases slash : directory.toList.getLast? = some '/'
    · obtain ⟨front, ends⟩ := List.getLast?_eq_some_iff.1 slash
      have parted : directory = String.ofList front ++ "/" := String.toList_inj.1 (by simp [ends])
      refine ⟨String.ofList front, .inr parted, empty, ?_⟩
      rw [join, if_neg plain.head?_ne, if_pos (.inr slash), ← parted]
    · refine ⟨directory, .inl rfl, empty, ?_⟩
      rw [join, if_neg plain.head?_ne, if_neg (by simp [empty, slash])]

theorem PlainName.components_join (directory : String) :
    components (join directory name) = components directory ++ [name] := by
  rcases plain.join_cases directory with ⟨rfl, joined⟩ | ⟨front, written, -, joined⟩
  · rw [joined]
    simp [components, plain.pieces_eq, plain.nonempty, plain.not_here]
  · have same : components directory = components front := by
      rcases written with rfl | rfl
      · rfl
      · have cut : pieces (front ++ "/") = pieces front ++ [""] := by
          simpa using pieces_append_slash front ""
        simp [components, cut]
    rw [same, joined]
    simp [components, pieces_append_slash, plain.pieces_eq, plain.nonempty, plain.not_here]

theorem PlainName.fileName?_join (directory : String) :
    fileName? (join directory name) = some name := by
  rw [fileName?, plain.components_join, List.getLast?_append, List.getLast?_singleton]
  split
  · rename_i back
    exact absurd (Option.some.inj back) plain.not_back
  · rfl

end

end FixCorpus.Path
