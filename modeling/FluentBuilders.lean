import FluentBuilders.BuilderText
import FluentBuilders.CommandLine
import FluentBuilders.Declaration
import FluentBuilders.Digest
import FluentBuilders.Discovery
import FluentBuilders.Enumeration
import FluentBuilders.Failure
import FluentBuilders.FileTree
import FluentBuilders.FileTree.AtomicWrite
import FluentBuilders.FileTree.Fault
import FluentBuilders.FileTree.FilePath
import FluentBuilders.Gate
import FluentBuilders.Generation
import FluentBuilders.Grammar
import FluentBuilders.Grammar.Cursor
import FluentBuilders.Grammar.Expression
import FluentBuilders.Grammar.Node
import FluentBuilders.Grammar.Reader
import FluentBuilders.Grammar.Statement
import FluentBuilders.Json
import FluentBuilders.Json.Printer
import FluentBuilders.Json.Reader
import FluentBuilders.Main
import FluentBuilders.Manifest
import FluentBuilders.Naming
import FluentBuilders.Profile
import FluentBuilders.Proofs.BuilderText
import FluentBuilders.Proofs.BuilderText.Binding
import FluentBuilders.Proofs.BuilderText.Decoding
import FluentBuilders.Proofs.BuilderText.Lines
import FluentBuilders.Proofs.BuilderText.Modules
import FluentBuilders.Proofs.BuilderText.Reading
import FluentBuilders.Proofs.BuilderText.Types
import FluentBuilders.Proofs.Discovery
import FluentBuilders.Proofs.Discovery.Packages
import FluentBuilders.Proofs.Enumeration
import FluentBuilders.Proofs.Enumeration.Rendering
import FluentBuilders.Proofs.FileTree
import FluentBuilders.Proofs.FileTree.AtomicWrite
import FluentBuilders.Proofs.FileTree.Atomicity
import FluentBuilders.Proofs.Generation.Checking
import FluentBuilders.Proofs.Generation.Conclusion
import FluentBuilders.Proofs.Generation.Ending
import FluentBuilders.Proofs.Generation.History
import FluentBuilders.Proofs.Generation.Idempotence
import FluentBuilders.Proofs.Generation.Isolation
import FluentBuilders.Proofs.Generation.Orphans
import FluentBuilders.Proofs.Generation.Publishing
import FluentBuilders.Proofs.Generation.Rereading
import FluentBuilders.Proofs.Generation.Sparing
import FluentBuilders.Proofs.Generation.Standing
import FluentBuilders.Proofs.Grammar.Echo
import FluentBuilders.Proofs.Grammar.Echo.Displays
import FluentBuilders.Proofs.Grammar.Echo.Fields
import FluentBuilders.Proofs.Grammar.Echo.Operators
import FluentBuilders.Proofs.Grammar.Echo.Strings
import FluentBuilders.Proofs.Grammar.Execution
import FluentBuilders.Proofs.Grammar.Execution.Expressions
import FluentBuilders.Proofs.Grammar.Execution.Statements
import FluentBuilders.Proofs.Grammar.Expressions
import FluentBuilders.Proofs.Grammar.Lexing
import FluentBuilders.Proofs.Grammar.Mirror
import FluentBuilders.Proofs.Grammar.Passage
import FluentBuilders.Proofs.Grammar.Reading
import FluentBuilders.Proofs.Grammar.Rereading
import FluentBuilders.Proofs.Grammar.Sight
import FluentBuilders.Proofs.Grammar.Spelling
import FluentBuilders.Proofs.Grammar.Statements
import FluentBuilders.Proofs.Json.RoundTrip
import FluentBuilders.Proofs.Json.Text
import FluentBuilders.Proofs.Manifest
import FluentBuilders.Proofs.Naming
import FluentBuilders.Proofs.Naming.Words
import FluentBuilders.Proofs.Placement
import FluentBuilders.Proofs.Publication
import FluentBuilders.Proofs.Publication.Exactness
import FluentBuilders.Proofs.Publication.Refusals
import FluentBuilders.Proofs.Publication.Steps
import FluentBuilders.Proofs.Registry
import FluentBuilders.Proofs.Registry.Binding
import FluentBuilders.Proofs.Registry.Calls
import FluentBuilders.Proofs.Registry.Following
import FluentBuilders.Proofs.Registry.Marking
import FluentBuilders.Proofs.Registry.Order
import FluentBuilders.Proofs.Registry.Overriding
import FluentBuilders.Proofs.Registry.Properties
import FluentBuilders.Proofs.Registry.Readiness
import FluentBuilders.Proofs.Registry.Relaying
import FluentBuilders.Proofs.Registry.Widening
import FluentBuilders.Proofs.Rounds.Collision
import FluentBuilders.Proofs.Rounds.Completion
import FluentBuilders.Proofs.Rounds.Concurrency
import FluentBuilders.Proofs.Rounds.Conservation
import FluentBuilders.Proofs.Rounds.FixedPoint
import FluentBuilders.Proofs.Rounds.Foremost
import FluentBuilders.Proofs.Rounds.Interleaving
import FluentBuilders.Proofs.Rounds.Keeping
import FluentBuilders.Proofs.Rounds.Likeness
import FluentBuilders.Proofs.Rounds.OneWay
import FluentBuilders.Proofs.Rounds.Order
import FluentBuilders.Proofs.Rounds.Pool
import FluentBuilders.Proofs.Rounds.Progress
import FluentBuilders.Proofs.Rounds.Sending
import FluentBuilders.Proofs.Rounds.Serving
import FluentBuilders.Proofs.Rounds.Settlement
import FluentBuilders.Proofs.Scan
import FluentBuilders.Proofs.Scan.Host
import FluentBuilders.Proofs.Scan.Isolation
import FluentBuilders.Proofs.Scan.Order
import FluentBuilders.Proofs.Service
import FluentBuilders.Proofs.SymbolTable
import FluentBuilders.Proofs.SymbolTable.Annotations
import FluentBuilders.Proofs.SymbolTable.Decorated
import FluentBuilders.Proofs.SymbolTable.Findings
import FluentBuilders.Proofs.SymbolTable.Relative
import FluentBuilders.Proofs.Table
import FluentBuilders.Proofs.Text.Blank
import FluentBuilders.Proofs.Text.Dotted
import FluentBuilders.Proofs.Text.Identifier
import FluentBuilders.Proofs.Text.LowerCase
import FluentBuilders.Proofs.Text.LowerCase.Idempotence
import FluentBuilders.Proofs.Text.Normalization
import FluentBuilders.Proofs.Text.Utf8
import FluentBuilders.Provenance
import FluentBuilders.Publication
import FluentBuilders.Registry
import FluentBuilders.Registry.Readiness
import FluentBuilders.Report
import FluentBuilders.Resolver
import FluentBuilders.Rounds
import FluentBuilders.Scan
import FluentBuilders.Service
import FluentBuilders.Sorting
import FluentBuilders.SymbolTable
import FluentBuilders.SymbolTable.OfTree
import FluentBuilders.Table
import FluentBuilders.Text.Blank
import FluentBuilders.Text.CharSet
import FluentBuilders.Text.Identifier
import FluentBuilders.Text.Identifier.Table
import FluentBuilders.Text.Integer
import FluentBuilders.Text.LowerCase
import FluentBuilders.Text.LowerCase.Table
import FluentBuilders.Text.Normalization
import FluentBuilders.Text.Normalization.Table
import FluentBuilders.Text.Quoted
import FluentBuilders.Text.Quoted.Table
import FluentBuilders.Text.Timestamp
import FluentBuilders.Text.Utf8
import FluentBuilders.Text.Word
import FluentBuilders.Text.Word.Table
import FluentBuilders.Validation
