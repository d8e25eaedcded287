import FixCorpus.CommandLine.Command

/-! Reading arguments, from the first to the last. The first one that asks for
help, or that cannot be used, ends the reading. -/

namespace FixCorpus.CommandLine

inductive Request where
  | version
  | help (command : Option CommandSpec)
  | run (command : Command)

inductive Argument where
  | long (name : String) (value : Option String)
  | short (letter : Char)
  | separator
  | word (text : String)
deriving DecidableEq, Repr

def Argument.ofText (text : String) : Argument :=
  match text.toList with
  | ['-', '-'] => .separator
  | '-' :: '-' :: rest =>
    let name := String.ofList (rest.takeWhile (· ≠ '='))
    match rest.dropWhile (· ≠ '=') with
    | [] => .long name none
    | _ :: value => .long name (some (String.ofList value))
  | '-' :: letter :: _ => .short letter
  | _ => .word text

def Argument.isHelp : Argument → Bool
  | .long name value => name = "help" && value.isNone
  | .short letter => letter = 'h'
  | _ => false

def Argument.isVersion : Argument → Bool
  | .long name value => name = "version" && value.isNone
  | .short letter => letter = 'V'
  | _ => false

/-- The values with one more, which its option has to accept and must not have already. -/
def give? (options : List OptionSpec) (values : Values) (name value : String) : Option Values := do
  let spec ← options.find? (·.name = name)
  if (values.lookup name).isSome || !spec.kind.accepts value then none
  else some (values ++ [(name, value)])

inductive Reading where
  | help
  | values (values : Values)
deriving DecidableEq, Repr

/-- The values of a command's arguments. The value of an option stands behind an equals sign or is
the next argument, which cannot begin with a hyphen then, unless it is nothing else; `pending`
is the option whose value is next. -/
def readValues? (options : List OptionSpec) (values : Values) (pending : Option String) :
    List String → Option Reading
  | [] => if pending.isNone then some (.values values) else none
  | text :: rest =>
    match pending, Argument.ofText text with
    | some name, .word value => do
      let values ← give? options values name value
      readValues? options values none rest
    | some _, _ => none
    | none, argument =>
      if argument.isHelp then some .help
      else match argument with
        | .long name none => readValues? options values (some name) rest
        | .long name (some value) => do
          let values ← give? options values name value
          readValues? options values none rest
        | .separator => if rest.isEmpty then some (.values values) else none
        | _ => none

def readCommand? (spec : CommandSpec) (arguments : List String) : Option Request := do
  match ← readValues? spec.options [] none arguments with
  | .help => return .help (some spec)
  | .values values => return .run (← spec.command? values)

def readHelp? : List String → Option Request
  | [] => some (.help none)
  | [name] => (findSpec? name).map fun spec => .help (some spec)
  | _ => none

def readArguments? : List String → Option Request
  | [] => none
  | first :: rest =>
    let argument := Argument.ofText first
    if argument.isHelp then some (.help none)
    else if argument.isVersion then some .version
    else if first = "help" then readHelp? rest
    else do readCommand? (← findSpec? first) rest

end FixCorpus.CommandLine
