import FixCorpus.Json.Value

/-! Records in JSON. A record is an object whose members have the names of its
fields, or an array of the fields in their order. Members with other names do
not matter; a field that is there twice makes the object no record. -/

namespace FixCorpus.Json

/-- What a value holds for a field. -/
inductive Slot where
  | given (v : Json)
  | absent
  /-- The array ends before the field. -/
  | beyond

namespace Slot

def required {α : Type} (read : Json → Option α) : Slot → Option α
  | given v => read v
  | _ => none

def orElse {α : Type} (default : α) (read : Json → Option α) : Slot → Option α
  | given v => read v
  | _ => some default

/-- A field that need not be there, and that `null` leaves empty. -/
def optional {α : Type} (read : Json → Option α) : Slot → Option (Option α)
  | given .null => some none
  | given v => (read v).map some
  | _ => some none

@[simp] theorem required_given {α : Type} (read : Json → Option α) (v : Json) :
    (given v).required read = read v := rfl

@[simp] theorem orElse_given {α : Type} (default : α) (read : Json → Option α) (v : Json) :
    (given v).orElse default read = read v := rfl

@[simp] theorem orElse_absent {α : Type} (default : α) (read : Json → Option α) :
    absent.orElse default read = some default := rfl

@[simp] theorem optional_absent {α : Type} (read : Json → Option α) :
    absent.optional read = some none := rfl

end Slot

def memberSlot (members : List (String × Json)) (names : List String) : Option Slot :=
  match members.filter fun m => m.1 ∈ names with
  | [] => some .absent
  | [m] => some (.given m.2)
  | _ => none

/-- What a value holds for each field of a layout, which lists the names of each field. -/
def slots? (layout : List (List String)) : Json → Option (List Slot)
  | .obj members => layout.mapM (memberSlot members)
  | .arr items =>
    if items.length ≤ layout.length then
      some (items.map .given ++ List.replicate (layout.length - items.length) .beyond)
    else none
  | _ => none

def optionalMember (name : String) : Option String → List (String × Json)
  | some s => [(name, .str s)]
  | none => []

def strings (texts : List String) : Json :=
  .arr (texts.map .str)

def ints (numbers : List Int) : Json :=
  .arr (numbers.map .int)

end FixCorpus.Json
