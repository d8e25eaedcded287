import FixCorpus.AnnotatedDiff
import FixCorpus.Binary64
import FixCorpus.CommandLine.Arguments
import FixCorpus.CommandLine.Command
import FixCorpus.CommandLine.Help
import FixCorpus.CommandLine.Report
import FixCorpus.CommandLine.Run
import FixCorpus.Datapoint.Basic
import FixCorpus.Datapoint.Record
import FixCorpus.Dataset.Basic
import FixCorpus.Dataset.Evaluation
import FixCorpus.Dataset.Flattened
import FixCorpus.Dataset.Tokenized
import FixCorpus.Dataset.Unified
import FixCorpus.Digest.ContentHash
import FixCorpus.Digest.Sha256
import FixCorpus.Edit
import FixCorpus.FileTree
import FixCorpus.Flattened.Decoder
import FixCorpus.Flattened.Writer
import FixCorpus.Json.Lexeme
import FixCorpus.Json.Numeral
import FixCorpus.Json.Parser
import FixCorpus.Json.Printer
import FixCorpus.Json.Record
import FixCorpus.Json.Value
import FixCorpus.Lexer.CamelCase
import FixCorpus.Lexer.Code
import FixCorpus.Lexer.Keyword
import FixCorpus.Lexer.LineShape
import FixCorpus.Lexer.Literal
import FixCorpus.Lexer.Prose
import FixCorpus.Lexer.Rule
import FixCorpus.LineDiff
import FixCorpus.Main
import FixCorpus.Message
import FixCorpus.Origin
import FixCorpus.Patch.Basic
import FixCorpus.Patch.Edits
import FixCorpus.Patch.Reader
import FixCorpus.Path
import FixCorpus.Proofs.AnnotatedDiff
import FixCorpus.Proofs.Datapoint.Parsed
import FixCorpus.Proofs.Datapoint.Record
import FixCorpus.Proofs.Datapoint.Respelled
import FixCorpus.Proofs.Dataset.AnyOrder
import FixCorpus.Proofs.Dataset.Chain
import FixCorpus.Proofs.Dataset.Filled
import FixCorpus.Proofs.Dataset.Names
import FixCorpus.Proofs.Dataset.Overwriting
import FixCorpus.Proofs.Dataset.Reading
import FixCorpus.Proofs.Dataset.Rerun
import FixCorpus.Proofs.Dataset.Scores
import FixCorpus.Proofs.Dataset.Tokenized
import FixCorpus.Proofs.Dataset.Unified
import FixCorpus.Proofs.Dataset.UnifyRun
import FixCorpus.Proofs.Dataset.Writing
import FixCorpus.Proofs.Digest.ContentHash
import FixCorpus.Proofs.Edit
import FixCorpus.Proofs.Edit.Landing
import FixCorpus.Proofs.Edit.Removal
import FixCorpus.Proofs.Except
import FixCorpus.Proofs.FileTree.Contents
import FixCorpus.Proofs.FileTree.Directories
import FixCorpus.Proofs.FileTree.Following
import FixCorpus.Proofs.FileTree.Listing
import FixCorpus.Proofs.Flattened.Code
import FixCorpus.Proofs.Flattened.Context
import FixCorpus.Proofs.Flattened.Fix
import FixCorpus.Proofs.Flattened.Language
import FixCorpus.Proofs.Flattened.OneLine
import FixCorpus.Proofs.Flattened.Removal
import FixCorpus.Proofs.Flattened.RoundTrip
import FixCorpus.Proofs.Flattened.Source
import FixCorpus.Proofs.Flattened.Target
import FixCorpus.Proofs.Flattened.TokenWords
import FixCorpus.Proofs.Json.Lexeme
import FixCorpus.Proofs.Json.Respelling
import FixCorpus.Proofs.Json.RoundTrip
import FixCorpus.Proofs.Lexer.Alias
import FixCorpus.Proofs.Lexer.CamelCase
import FixCorpus.Proofs.Lexer.CamelPiece
import FixCorpus.Proofs.Lexer.Code
import FixCorpus.Proofs.Lexer.Cut
import FixCorpus.Proofs.Lexer.Hexadecimal
import FixCorpus.Proofs.Lexer.LaterLines
import FixCorpus.Proofs.Lexer.Newline
import FixCorpus.Proofs.Lexer.Partition
import FixCorpus.Proofs.Lexer.Prose
import FixCorpus.Proofs.Lexer.Rule
import FixCorpus.Proofs.Lexer.SourceLines
import FixCorpus.Proofs.LineDiff.Block
import FixCorpus.Proofs.LineDiff.First
import FixCorpus.Proofs.LineDiff.Longest
import FixCorpus.Proofs.LineDiff.Opcodes
import FixCorpus.Proofs.LineDiff.Recovery
import FixCorpus.Proofs.LineDiff.Sides
import FixCorpus.Proofs.LineDiff.Within
import FixCorpus.Proofs.Patch.Edits
import FixCorpus.Proofs.Patch.Effect
import FixCorpus.Proofs.Patch.Layout
import FixCorpus.Proofs.Patch.NamedLines
import FixCorpus.Proofs.Patch.Numbering
import FixCorpus.Proofs.Patch.Reading
import FixCorpus.Proofs.Path
import FixCorpus.Proofs.Text.Blank
import FixCorpus.Proofs.Text.Decimal
import FixCorpus.Proofs.Text.Endings
import FixCorpus.Proofs.Text.Lines
import FixCorpus.Proofs.Text.Numeral
import FixCorpus.Proofs.Text.Words
import FixCorpus.Proofs.Token.Alias
import FixCorpus.Proofs.Token.Excerpt
import FixCorpus.Proofs.Token.LineRange
import FixCorpus.Proofs.Token.Restoration
import FixCorpus.Proofs.Token.Spelling
import FixCorpus.Proofs.Tokenization.EditedWindow
import FixCorpus.Proofs.Tokenization.Failure
import FixCorpus.Proofs.Tokenization.Outcome
import FixCorpus.Proofs.Tokenization.OutputName
import FixCorpus.Proofs.Tokenization.Renaming
import FixCorpus.Proofs.Tokenization.Stages
import FixCorpus.Proofs.Tokenization.Target
import FixCorpus.Proofs.Unification
import FixCorpus.Proofs.Unification.Bounds
import FixCorpus.Proofs.Unification.Grouping
import FixCorpus.Proofs.Unification.Matching
import FixCorpus.Proofs.Unification.RequiredLines
import FixCorpus.Proofs.Window
import FixCorpus.Proofs.Window.Cadence
import FixCorpus.Proportion
import FixCorpus.Storage
import FixCorpus.Text.Alphabetic
import FixCorpus.Text.Blank
import FixCorpus.Text.Case
import FixCorpus.Text.Decimal
import FixCorpus.Text.Extender
import FixCorpus.Text.Hex
import FixCorpus.Text.Invisible
import FixCorpus.Text.Lines
import FixCorpus.Text.Lowercase
import FixCorpus.Text.Mark
import FixCorpus.Text.Number
import FixCorpus.Text.Quoted
import FixCorpus.Text.Range
import FixCorpus.Text.Strip
import FixCorpus.Text.Word
import FixCorpus.Token.Alias
import FixCorpus.Token.Basic
import FixCorpus.Token.LineIndex
import FixCorpus.Tokenization
import FixCorpus.Unification
import FixCorpus.Window
