import FixCorpus.CommandLine.Command

/-! The help texts. Descriptions stand in a column of their own, or on lines of
their own where the column would leave too little room for one of them. -/

namespace FixCorpus.CommandLine

def programName : String := "neural-fix-serialize"

def versionText : String := programName ++ " 0.1.0\n"

def spaces (n : Nat) : String :=
  String.ofList (List.replicate n ' ')

def padTo (width : Nat) (text : String) : String :=
  text ++ spaces (width - text.length)

def valueName (name : String) : String :=
  String.ofList (name.toList.map fun c => if c = '-' then '_' else c.toUpper)

def OptionSpec.usage (o : OptionSpec) : String :=
  "--" ++ o.name ++ " <" ++ valueName o.name ++ ">"

def OptionSpec.description (o : OptionSpec) : String :=
  let default := match o.presence with
    | .default value => " [default: " ++ value ++ "]"
    | _ => ""
  let values := match o.kind with
    | .mode => " [possible values: " ++ ", ".intercalate (modeNames.map (·.1)) ++ "]"
    | _ => ""
  o.about ++ default ++ values

structure HelpRow where
  letter : String
  long : String
  description : String

def lineWidth : Nat := 100

/-- The descriptions need lines of their own: the rest of a row takes more than two fifths of a
line, and one of the descriptions does not fit behind it. -/
def isWide (rows : List HelpRow) (column : Nat) : Bool :=
  let taken := column + 8
  decide (2 * lineWidth < 5 * taken) &&
    rows.any fun r => decide (lineWidth < r.description.length + taken)

def renderRows (rows : List HelpRow) : String :=
  let column := (rows.map (·.long.length)).foldl max 0
  String.join (rows.map fun r =>
    if isWide rows column then
      "  " ++ r.letter ++ r.long ++ "\n" ++ spaces 10 ++ r.description ++ "\n"
    else "  " ++ r.letter ++ padTo column r.long ++ "  " ++ r.description ++ "\n")

def helpRow : HelpRow :=
  ⟨"-h, ", "--help", "Print help"⟩

def versionRow : HelpRow :=
  ⟨"-V, ", "--version", "Print version"⟩

def CommandSpec.usage (c : CommandSpec) : String :=
  let required := c.options.filter (·.presence = .required)
  let others := if required.length < c.options.length then " [OPTIONS]" else ""
  programName ++ " " ++ c.name ++ others ++ String.join (required.map fun o => " " ++ o.usage)

def CommandSpec.help (c : CommandSpec) : String :=
  c.about ++ "\n\nUsage: " ++ c.usage ++ "\n\nOptions:\n" ++
    renderRows (c.options.map (fun o => ⟨spaces 4, o.usage, o.description⟩) ++ [helpRow])

def programHelp : String :=
  let commands := commandSpecs.map (fun c => (c.name, c.about)) ++
    [("help", "Print this message or the help of the given subcommand(s)")]
  let column := (commands.map (·.1.length)).foldl max 0
  "Serialize static-analysis fixes into model training data\n\nUsage: " ++ programName ++
    " <COMMAND>\n\nCommands:\n" ++
    String.join (commands.map fun (name, about) =>
      "  " ++ padTo column name ++ "  " ++ about ++ "\n") ++
    "\nOptions:\n" ++ renderRows [helpRow, versionRow]

end FixCorpus.CommandLine
