import FixCorpus.Json.Lexeme

/-! Reading JSON. The lexemes of a text drive a machine whose stack holds the
arrays and objects that are open; the text is read if the machine ends with a
value and an empty stack. -/

namespace FixCorpus.Json

/-- The lexemes of `done`, which is backwards, and of a text. Each takes some of the text. -/
def lexemesOnto (text : List Char) (done : List Lexeme) : Option (List Lexeme) :=
  match text.dropWhile isSpace with
  | [] => some done.reverse
  | front =>
    match lexeme front with
    | some (l, rest) =>
      if rest.length < text.length then lexemesOnto rest (l :: done) else none
    | none => none
termination_by text.length

/-- A key and its value. The key of an unreadable object need not be a text. -/
abbrev Member := Option String × Json

/-- An array or an object that is open. Its items are backwards; an object may wait for the value
of a key. -/
inductive Frame where
  | array (items : List Json)
  | object (members : List Member)
  | member (members : List Member) (key : Option String)

inductive Expected where
  | value
  | firstItem
  | firstKey
  | key
  | colon
  | separator
  | nothing (v : Json)

structure State where
  stack : List Frame
  expected : Expected

namespace State

def start : State :=
  ⟨[], .value⟩

/-- A value is complete and goes to what is open, if anything is. -/
def complete (v : Json) : List Frame → Option State
  | [] => some ⟨[], .nothing v⟩
  | .array items :: stack => some ⟨.array (v :: items) :: stack, .separator⟩
  | .member members key :: stack => some ⟨.object ((key, v) :: members) :: stack, .separator⟩
  | .object _ :: _ => none

def object (members : List Member) : Json :=
  match members.mapM fun m => m.1.map (·, m.2) with
  | some members => .obj members
  | none => .unreadable

def close : Lexeme → List Frame → Option State
  | .closeArray, .array items :: stack => complete (.arr items.reverse) stack
  | .closeObject, .object members :: stack => complete (object members.reverse) stack
  | _, _ => none

def begin? : Lexeme → List Frame → Option State
  | .string s, stack => complete (s.elim .unreadable .str) stack
  | .scalar v, stack => complete v stack
  | .openArray, stack => some ⟨.array [] :: stack, .firstItem⟩
  | .openObject, stack => some ⟨.object [] :: stack, .firstKey⟩
  | _, _ => none

def key? : Lexeme → List Frame → Option State
  | .string key, .object members :: stack => some ⟨.member members key :: stack, .colon⟩
  | _, _ => none

def step (s : State) (l : Lexeme) : Option State :=
  match s.expected, l with
  | .value, l => begin? l s.stack
  | .firstItem, .closeArray => close .closeArray s.stack
  | .firstItem, l => begin? l s.stack
  | .firstKey, .closeObject => close .closeObject s.stack
  | .firstKey, l => key? l s.stack
  | .key, l => key? l s.stack
  | .colon, .colon => some ⟨s.stack, .value⟩
  | .colon, _ => none
  | .separator, .comma =>
    match s.stack with
    | .array _ :: _ => some ⟨s.stack, .value⟩
    | .object _ :: _ => some ⟨s.stack, .key⟩
    | _ => none
  | .separator, l => close l s.stack
  | .nothing _, _ => none

def result? (s : State) : Option Json :=
  match s.expected with
  | .nothing v => some v
  | _ => none

end State

def parse? (text : String) : Option Json := do
  let lexemes ← lexemesOnto text.toList []
  let final ← lexemes.foldlM State.step .start
  final.result?

end FixCorpus.Json
