import GoogIndex.Cache.Entry
import GoogIndex.Cache.SourceCache
import GoogIndex.Cache.Table
import GoogIndex.Command.Dispatch
import GoogIndex.Command.Options
import GoogIndex.Command.Program
import GoogIndex.Command.Reach
import GoogIndex.Command.Session
import GoogIndex.Decimal.Binary64
import GoogIndex.Decimal.Shortest
import GoogIndex.Declaration.Extraction
import GoogIndex.Declaration.Marker
import GoogIndex.Declaration.Record
import GoogIndex.Declaration.Window
import GoogIndex.Event
import GoogIndex.Ignore.Compile
import GoogIndex.Ignore.Nested
import GoogIndex.Ignore.Pattern
import GoogIndex.Ignore.Project
import GoogIndex.Json.Fault
import GoogIndex.Json.Reader
import GoogIndex.Json.Value
import GoogIndex.Json.Writer
import GoogIndex.Regex.GroupName
import GoogIndex.Regex.Syntax
import GoogIndex.Scan.Batch
import GoogIndex.Scan.Discovery
import GoogIndex.Scan.Project
import GoogIndex.Scan.Settings
import GoogIndex.Script.Character
import GoogIndex.Script.CodeText
import GoogIndex.Script.Grammar
import GoogIndex.Script.Grammar.Class
import GoogIndex.Script.Grammar.Expression
import GoogIndex.Script.Grammar.Fault
import GoogIndex.Script.Grammar.Function
import GoogIndex.Script.Grammar.Pattern
import GoogIndex.Script.Grammar.Reader
import GoogIndex.Script.Grammar.Shape
import GoogIndex.Script.Grammar.Statement
import GoogIndex.Script.IdentifierTable
import GoogIndex.Script.Lexeme
import GoogIndex.Script.Lexeme.Escape
import GoogIndex.Script.Lexeme.Fault
import GoogIndex.Script.Lexeme.Number
import GoogIndex.Script.Lexeme.Pattern
import GoogIndex.Script.Lexeme.Punctuator
import GoogIndex.Script.Lexeme.Quote
import GoogIndex.Script.Lexeme.Template
import GoogIndex.Script.Lexeme.Word
import GoogIndex.Script.SlashContext
import GoogIndex.Script.Source
import GoogIndex.Script.SyntaxTree
import GoogIndex.Script.Token
import GoogIndex.Script.Trivia
import GoogIndex.Storage.Access
import GoogIndex.Storage.AtomicWrite
import GoogIndex.Storage.Edit
import GoogIndex.Storage.Fault
import GoogIndex.Storage.Folder
import GoogIndex.Storage.PathName
import GoogIndex.Storage.Tree
import GoogIndex.Text.Blank
import GoogIndex.Text.CaseTable
import GoogIndex.Text.CharacterName
import GoogIndex.Text.CharacterName.Alias
import GoogIndex.Text.CharacterName.From0020
import GoogIndex.Text.CharacterName.From0B2A
import GoogIndex.Text.CharacterName.From101D0
import GoogIndex.Text.CharacterName.From12400
import GoogIndex.Text.CharacterName.From1CF50
import GoogIndex.Text.CharacterName.From1D00
import GoogIndex.Text.CharacterName.From1F100
import GoogIndex.Text.CharacterName.From1FB94
import GoogIndex.Text.CharacterName.From2460
import GoogIndex.Text.CharacterName.From2B76
import GoogIndex.Text.CharacterName.FromA700
import GoogIndex.Text.CharacterName.Row
import GoogIndex.Text.DigitTable
import GoogIndex.Text.LowerCase
import GoogIndex.Text.Quoted
import GoogIndex.Text.Ranges
import GoogIndex.Text.UnprintableTable
import GoogIndex.Text.Utf8
import GoogIndex.Main
import GoogIndex.Proofs.Cache.History
import GoogIndex.Proofs.Json.Printable
import GoogIndex.Proofs.Json.RoundTrip
import GoogIndex.Proofs.Cache.Keys
import GoogIndex.Proofs.Cache.Reload
import GoogIndex.Proofs.Ignore.Project
import GoogIndex.Proofs.Scan.Batch
import GoogIndex.Proofs.Scan.Discovery
import GoogIndex.Proofs.Scan.Project
import GoogIndex.Proofs.Scan.Transparency
import GoogIndex.Proofs.Scan.History
import GoogIndex.Proofs.Script.Rendering
import GoogIndex.Proofs.Declaration.Recovery
import GoogIndex.Proofs.Json.Limits
import GoogIndex.Proofs.Command.Session
import GoogIndex.Proofs.Scan.Rescan
import GoogIndex.Proofs.Scan.Tolerance
import GoogIndex.Proofs.Scan.Selection
import GoogIndex.Proofs.Storage.Atomicity
import GoogIndex.Proofs.Ignore.Matching
import GoogIndex.Proofs.Ignore.Compilation
import GoogIndex.Proofs.Ignore.Lines
import GoogIndex.Proofs.Ignore.Rerooting
import GoogIndex.Proofs.Ignore.Portability
import GoogIndex.Proofs.Scan.Aborted
import GoogIndex.Proofs.Json.Steps
import GoogIndex.Proofs.Json.Front
import GoogIndex.Proofs.Json.Members
import GoogIndex.Proofs.Command.Agreement
import GoogIndex.Proofs.Cache.Loading
import GoogIndex.Proofs.Scan.Interleaving
import GoogIndex.Proofs.Scan.Accounting
import GoogIndex.Proofs.Scan.Skipping
import GoogIndex.Proofs.Scan.Reordering
import GoogIndex.Proofs.Scan.Sources
import GoogIndex.Proofs.Scan.Order
import GoogIndex.Proofs.Script.Literals
import GoogIndex.Proofs.Script.Cutting
import GoogIndex.Proofs.Declaration.Slices
import GoogIndex.Proofs.Declaration.Marking
import GoogIndex.Proofs.Cache.Normalising
import GoogIndex.Proofs.Declaration.Consuming
import GoogIndex.Proofs.Ignore.Nesting
import GoogIndex.Proofs.Command.Single
import GoogIndex.Proofs.Cache.Reporting
