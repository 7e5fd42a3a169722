import Highlighter.State
import Highlighter.Unicode.Classes
import Highlighter.Unicode.Cased
import Highlighter.Unicode.Lowercase
import Highlighter.Unicode.Visible
import Highlighter.Text.Utf8
import Highlighter.Text.Basic
import Highlighter.Text.Excerpt
import Highlighter.Markup
import Highlighter.Keyword.WordSet
import Highlighter.Keyword.Overlay
import Highlighter.Processor
import Highlighter.Grammar.Transitions
import Highlighter.Grammar.Basic
import Highlighter.Grammar.Layout
import Highlighter.Scan
import Highlighter.Grammar.Defect
import Highlighter.Grammar.Builder
import Highlighter.Language.Words
import Highlighter.Language.Construct
import Highlighter.Language.Recipe
import Highlighter.Language.Basic
import Highlighter.Json.Basic
import Highlighter.Json.Number
import Highlighter.Json.Reader
import Highlighter.Document.Basic
import Highlighter.Document.Printer
import Highlighter.Document.Reader
import Highlighter.PartialMap
import Highlighter.File.Path
import Highlighter.File.Tree
import Highlighter.File.System
import Highlighter.Registry.Basic
import Highlighter.Registry.Folder
import Highlighter.Settings
import Highlighter.Random.Source
import Highlighter.Sample.Flavor
import Highlighter.Sample.Text
import Highlighter.Check
import Highlighter.Program.Host
import Highlighter.Program.World
import Highlighter.Program.Highlight
import Highlighter.Program.Tables
import Highlighter.Program.Fuzz
import Highlighter.Main
import Highlighter.Proofs.Markup.Page
import Highlighter.Proofs.Markup.Reader
import Highlighter.Proofs.Markup.Escaping
import Highlighter.Proofs.Keyword.Marking
import Highlighter.Proofs.Grammar.Ledger
import Highlighter.Proofs.Scan.Tracking
import Highlighter.Proofs.Grammar.Derivation
import Highlighter.Proofs.Grammar.Soundness
import Highlighter.Proofs.Language.Ledgers
import Highlighter.Proofs.Registry.ByName
import Highlighter.Proofs.Language.Content
import Highlighter.Proofs.Language.Nesting
import Highlighter.Proofs.Keyword.Cutting
import Highlighter.Proofs.Keyword.Keys
import Highlighter.Proofs.Scan.Step
import Highlighter.Proofs.Json.Reading
import Highlighter.Proofs.Document.Reading
import Highlighter.Proofs.Document.Tables
import Highlighter.Proofs.Document.RoundTrip
import Highlighter.Proofs.Lexeme.Basic
import Highlighter.Proofs.Lexeme.Rendering
import Highlighter.Proofs.Lexeme.Roles
import Highlighter.Proofs.Lexeme.Simulation
import Highlighter.Proofs.Lexeme.Check
import Highlighter.Proofs.Language.Lookahead
import Highlighter.Proofs.Language.Lexemes
import Highlighter.Proofs.Language.Tokens
import Highlighter.Proofs.Grammar.Reach
import Highlighter.Proofs.Language.Pieces
import Highlighter.Proofs.Keyword.WholeWords
import Highlighter.Proofs.Grammar.Seamless
import Highlighter.Proofs.Scan.WholeWords
import Highlighter.Proofs.Language.WholeWords
import Highlighter.Proofs.Registry.Records
import Highlighter.Proofs.Registry.Registrations
import Highlighter.Proofs.Registry.Filing
import Highlighter.Proofs.Program.Loading
import Highlighter.Proofs.File.Path
import Highlighter.Proofs.File.Tree
import Highlighter.Proofs.File.System
import Highlighter.Proofs.Program.Saving
import Highlighter.Proofs.Keyword.Spelling
import Highlighter.Proofs.Random.Always
import Highlighter.Proofs.Sample.Tagless
import Highlighter.Proofs.Markup.Unwrapping
import Highlighter.Proofs.Lexeme.Pages
import Highlighter.Proofs.Language.Derived
import Highlighter.Proofs.Grammar.Rows
import Highlighter.Proofs.Grammar.Reopening
import Highlighter.Proofs.Scan.Reopening
import Highlighter.Proofs.Keyword.Runs
import Highlighter.Proofs.Scan.Discarding
import Highlighter.Proofs.Language.Repeats
import Highlighter.Proofs.Grammar.Cells
import Highlighter.Proofs.Grammar.Building
import Highlighter.Proofs.Keyword.History
import Highlighter.Proofs.Document.Order
import Highlighter.Proofs.Ordered
import Highlighter.Proofs.Document.Listing
import Highlighter.Proofs.Scan.Ending
import Highlighter.Proofs.Grammar.Search
import Highlighter.Proofs.Text.Boundary
import Highlighter.Proofs.Text.Excerpt
import Highlighter.Proofs.Program.Seeds
