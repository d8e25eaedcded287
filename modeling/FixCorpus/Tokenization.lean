import FixCorpus.Datapoint.Basic
import FixCorpus.Digest.ContentHash
import FixCorpus.Lexer.Code
import FixCorpus.Message
import FixCorpus.Text.Lines
import FixCorpus.Text.Quoted
import FixCorpus.Token.Alias
import FixCorpus.Token.LineIndex
import FixCorpus.Window

/-! From a datapoint and its source file to tokens. The file context becomes a
window of tokens around the lines that have to be shown, the target lines and
the messages become tokens too, and all lines are counted from the window. -/

namespace FixCorpus

inductive Mode where
  | standard
  | camelcase
  | zeroIndexVars
deriving DecidableEq, Repr

namespace Mode

def name : Mode → String
  | .standard => "standard"
  | .camelcase => "camelcase"
  | .zeroIndexVars => "zero_index_vars"

def style : Mode → Lexer.Style
  | .camelcase => .camelCase
  | _ => .whole

def usesAliases : Mode → Bool
  | .zeroIndexVars => true
  | _ => false

def ofName? (name : String) : Option Mode :=
  [standard, camelcase, zeroIndexVars].find? (·.name = name)

end Mode

structure Settings where
  budget : Nat
  mode : Mode
deriving DecidableEq, Repr

def Settings.default : Settings :=
  ⟨100, .standard⟩

inductive TokenizeError where
  | lineCountMismatch (newlines expected : Nat)
  | tokenizationFault (text : String)
  | lineOutOfRange (line : Int)
  | window (cause : WindowError)
  | apply (cause : ApplyError)
deriving DecidableEq, Repr

def TokenizeError.message : TokenizeError → String
  | .lineCountMismatch newlines expected =>
    "lexer produced " ++ toString newlines ++ " NEWLINE tokens for " ++ toString expected ++
      " lines"
  | .tokenizationFault text =>
    "lexer emitted token " ++ Text.quoted text ++ " containing a raw newline"
  | .lineOutOfRange line => "line " ++ toString line ++ " is outside the tokenized file"
  | .window cause => cause.message
  | .apply cause => cause.message

namespace Tokenization

open Text

def checkedTokens (style : Lexer.Style) (text : String) : Except TokenizeError (List Token) :=
  let tokens := Lexer.tokenize style text
  match tokens.find? fun t => t.text.toList.contains '\n' with
  | some t => .error (.tokenizationFault t.text)
  | none =>
    if newlineCount tokens = countNewlines text then .ok tokens
    else .error (.lineCountMismatch (newlineCount tokens) (countNewlines text))

/-- A line, counted from 0, that may be less than 0. -/
def checkedLine (line : Int) : Except TokenizeError Nat :=
  if 0 ≤ line then .ok line.toNat else .error (.lineOutOfRange line)

def tokenRange (tokens : List Token) (first last : Int) : Except TokenizeError (Nat × Nat) := do
  let first ← checkedLine first
  let last ← checkedLine last
  match (LineIndex.ofTokens tokens).tokenRange? first last with
  | some range => return range
  | none => .error (.lineOutOfRange (last + 1))

/-- The window of a file's tokens around the lines that a datapoint has to show, and the line on
which the window starts. -/
def context (d : UnifiedDatapoint) (source : String) (budget : Nat) (style : Lexer.Style) :
    Except TokenizeError (List Token × Int) := do
  let tokens ← checkedTokens style source
  let (first, last) ← tokenRange tokens (d.requiredLinesStart - 1) (d.requiredLinesEnd - 1)
  match Window.select tokens first last budget with
  | .ok w => return (w.items, startLine tokens w.start)
  | .error cause => .error (.window cause)

def target (edit : Edit) (source : String) (style : Lexer.Style) :
    Except TokenizeError (List Token) :=
  match edit.requiredTargetLines? with
  | none => .ok []
  | some (first, last) =>
    match edit.apply (splitLines source) with
    | .error cause => .error (.apply cause)
    | .ok edited => do
      let tokens ← checkedTokens style (joinLines edited)
      let (first, last) ← tokenRange tokens first last
      return (tokens.take (last + 1)).drop first

/-- The tokens of a datapoint: those of its context, of its target lines and of each of its
messages, and the line on which the context starts. -/
structure Streams where
  startLine : Int
  context : List Token
  target : List Token
  messages : List (List Token)
deriving DecidableEq, Repr

def streams (d : UnifiedDatapoint) (source : String) (budget : Nat) (style : Lexer.Style) :
    Except TokenizeError Streams := do
  let (context, start) ← context d source budget style
  let target ← target d.edit source style
  return ⟨start, context, target, d.occurrences.map fun o => Message.tokenize style o.message⟩

def applyAliases (a : Aliases) : List (List Token) → List (List Token)
  | [] => []
  | tokens :: rest =>
    let (b, renamed) := a.apply tokens
    renamed :: applyAliases b rest

/-- Aliases are numbered in the context first, then in the target lines and the messages. -/
def Streams.withAliases (s : Streams) : Streams :=
  let (a, context) := Aliases.empty.apply s.context
  let (b, target) := a.apply s.target
  ⟨s.startLine, context, target, applyAliases b s.messages⟩

def Streams.attach (s : Streams) (d : UnifiedDatapoint) : TokenizedDatapoint .window :=
  let occurrences := d.occurrences.zipWith (fun o tokens => o.withTokens (tokenTexts tokens)) s.messages
  (d.withTokens (tokenTexts s.context) (tokenTexts s.target) occurrences).rebase s.startLine

end Tokenization

open Tokenization in
/-- The tokenized form of a datapoint of a source text whose line endings are newlines. -/
def tokenizeDatapoint (d : UnifiedDatapoint) (source : String) (settings : Settings) :
    Except TokenizeError (TokenizedDatapoint .window) := do
  let s ← streams d source settings.budget settings.mode.style
  return (if settings.mode.usesAliases then s.withAliases else s).attach d

/-- The name of the file that holds the tokenized form of a datapoint. It depends on the text of
the datapoint and on the settings. -/
def outputFileName (input : String) (settings : Settings) : String :=
  ContentHash.ofParts [ContentHash.bytes input, ContentHash.bytes (toString settings.budget),
    ContentHash.bytes settings.mode.name] ++ ".json"

end FixCorpus
