import FixCorpus.Datapoint.Record
import FixCorpus.Dataset.Basic

/-! The dataset of tokenized datapoints, made from one of unified datapoints. The
name of an output file depends on the text of its input and on the settings, so
that an input whose output is there already is left out. -/

namespace FixCorpus.Dataset

structure TokenizePaths where
  input : String
  checkouts : String
  output : String
deriving DecidableEq, Repr

inductive TokenizeOutcome where
  | written
  | duplicate
  | failed (cause : Failure)
deriving DecidableEq, Repr

namespace TokenizeOutcome

def isWritten : TokenizeOutcome → Bool
  | .written => true
  | _ => false

def isDuplicate : TokenizeOutcome → Bool
  | .duplicate => true
  | _ => false

def isMalformed : TokenizeOutcome → Bool
  | .failed (.malformedSource _ _) => true
  | _ => false

def isContextOverflow : TokenizeOutcome → Bool
  | .failed (.tokenize (.window (.contextOverflow _ _))) => true
  | _ => false

def isLexerFault : TokenizeOutcome → Bool
  | .failed (.tokenize (.lineCountMismatch _ _)) => true
  | .failed (.tokenize (.tokenizationFault _)) => true
  | _ => false

end TokenizeOutcome

structure TokenizeCounts where
  total : Nat
  written : Nat
  duplicates : Nat
  malformed : Nat
  contextOverflow : Nat
  lexerFaults : Nat
  otherFailures : Nat
deriving DecidableEq, Repr

/-- What is left of the total is other failures. -/
def TokenizeCounts.ofOutcomes (outcomes : List TokenizeOutcome) : TokenizeCounts :=
  let isOther := fun (o : TokenizeOutcome) => !(o.isWritten || o.isDuplicate || o.isMalformed ||
    o.isContextOverflow || o.isLexerFault)
  { total := outcomes.length
    written := outcomes.countP (·.isWritten)
    duplicates := outcomes.countP (·.isDuplicate)
    malformed := outcomes.countP (·.isMalformed)
    contextOverflow := outcomes.countP (·.isContextOverflow)
    lexerFaults := outcomes.countP (·.isLexerFault)
    otherFailures := outcomes.countP isOther }

/-- Why a source text cannot be tokenized reliably, if it cannot. Vertical tabs and form feeds end
lines in some programs and in others not. -/
def sourceDefect? (text : String) : Option String :=
  if !isAscii text then some "non-ASCII content"
  else if text.toList.any fun c => c = '\x0B' || c = '\x0C' then
    some "vertical tab or form feed"
  else none

def sourceText (path : String) (content : ByteArray) : Except Failure String :=
  match String.fromUTF8? content with
  | none => .error (.malformedSource path "not UTF-8")
  | some text =>
    let text := Text.normalizeLineEndings text
    match sourceDefect? text with
    | some reason => .error (.malformedSource path reason)
    | none => .ok text

/-- The datapoint that a text holds, which has to be in ASCII. -/
def unifiedOfText (path text : String) : Except Failure UnifiedDatapoint :=
  if isAscii text then parseRecord UnifiedDatapoint.ofJson? path text
  else .error (.malformedSource path "non-ASCII datapoint")

def tokenizeSource (d : UnifiedDatapoint) (source : String) (settings : Settings) :
    Except Failure (TokenizedDatapoint .window) :=
  match tokenizeDatapoint d source settings with
  | .ok d => .ok d
  | .error cause => .error (.tokenize cause)

section

variable {m : Type → Type} [Monad m] [Storage m]

def readUnified (path : String) : ExceptT Failure m (String × UnifiedDatapoint) := do
  let text ← readText path
  let d ← unifiedOfText path text
  return (text, d)

def readSource (checkouts : String) (d : UnifiedDatapoint) : ExceptT Failure m String := do
  let path := Path.join (Path.join checkouts d.repo) d.filePath
  let content ← readBytes path
  sourceText path content

def tokenizedDatapoint (path checkouts : String) (settings : Settings) :
    ExceptT Failure m (TokenizedDatapoint .window) := do
  let (_, d) ← readUnified path
  let source ← readSource checkouts d
  tokenizeSource d source settings

/-- Tokenizes the datapoint of a file, unless its output is among the existing names. -/
def tokenizeFile (checkouts output : String) (settings : Settings) (existing : List String)
    (path : String) : ExceptT Failure m TokenizeOutcome := do
  let (text, d) ← readUnified path
  let name := outputFileName text settings
  if name ∈ existing then return .duplicate
  let source ← readSource checkouts d
  let tokenized ← tokenizeSource d source settings
  writeText (Path.join output name) tokenized.toJson.render
  return .written

def tokenizeFileOutcome (checkouts output : String) (settings : Settings) (existing : List String)
    (path : String) : m TokenizeOutcome := do
  match ← (tokenizeFile checkouts output settings existing path).run with
  | .ok outcome => return outcome
  | .error cause => return .failed cause

def tokenize (paths : TokenizePaths) (settings : Settings) : ExceptT Failure m TokenizeCounts := do
  let inputs ← orNoInputs paths.input "json" (← (discoverRecords paths.input : m _))
  makeDirectory paths.output
  let existing ← (Storage.names paths.output : m _)
  let outcomes ← inputs.mapM fun path =>
    ExceptT.lift (tokenizeFileOutcome paths.checkouts paths.output settings existing path)
  return TokenizeCounts.ofOutcomes outcomes

end

end FixCorpus.Dataset
