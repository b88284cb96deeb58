import NamingLint.Analysis.Basic
import NamingLint.Analysis.Batch
import NamingLint.Analysis.Run
import NamingLint.Binary64
import NamingLint.Calendar
import NamingLint.CommandLine.Argument
import NamingLint.CommandLine.Help
import NamingLint.CommandLine.Invocation
import NamingLint.CommandLine.Log
import NamingLint.CommandLine.Run
import NamingLint.Config.Basic
import NamingLint.Config.Builder
import NamingLint.Config.File
import NamingLint.Config.Fingerprint
import NamingLint.Config.Format
import NamingLint.Config.RuleMap
import NamingLint.Config.Validation
import NamingLint.Diagnostic
import NamingLint.Digest.Sha256
import NamingLint.Document
import NamingLint.Failure
import NamingLint.FileTree
import NamingLint.Filter
import NamingLint.Glob
import NamingLint.Instant
import NamingLint.Journal
import NamingLint.Json.Reader
import NamingLint.Json.Value
import NamingLint.Location
import NamingLint.Main
import NamingLint.Naming.Casing
import NamingLint.Naming.Declaration
import NamingLint.Naming.Rule
import NamingLint.Naming.RuleTable
import NamingLint.Path
import NamingLint.Product
import NamingLint.Proofs.Analysis.Agreement
import NamingLint.Proofs.Analysis.Arguments
import NamingLint.Proofs.Analysis.Completion
import NamingLint.Proofs.Analysis.Construction
import NamingLint.Proofs.Analysis.Exemption
import NamingLint.Proofs.Analysis.Findings
import NamingLint.Proofs.Analysis.Selection
import NamingLint.Proofs.Analysis.SingleFile
import NamingLint.Proofs.Analysis.Unreadable
import NamingLint.Proofs.CommandLine.Enabling
import NamingLint.Proofs.CommandLine.ExitCode
import NamingLint.Proofs.Config.Building
import NamingLint.Proofs.Config.Collision
import NamingLint.Proofs.Config.Encoding
import NamingLint.Proofs.Config.RoundTrip
import NamingLint.Proofs.Config.Validity
import NamingLint.Proofs.FileTree.Below
import NamingLint.Proofs.FileTree.Follow
import NamingLint.Proofs.FileTree.Rearranged
import NamingLint.Proofs.FileTree.Rewritten
import NamingLint.Proofs.Filter.Cascade
import NamingLint.Proofs.Filter.Extension
import NamingLint.Proofs.Filter.InPlace
import NamingLint.Proofs.Filter.Noise
import NamingLint.Proofs.Filter.Reading
import NamingLint.Proofs.Filter.Spelling
import NamingLint.Proofs.Filter.Walk
import NamingLint.Proofs.Glob.Floating
import NamingLint.Proofs.Json.Fields
import NamingLint.Proofs.Naming.Dispatch
import NamingLint.Proofs.Naming.Observers
import NamingLint.Proofs.Naming.Registration
import NamingLint.Proofs.Naming.Renaming
import NamingLint.Proofs.Naming.Verdict
import NamingLint.Proofs.Order.Ascending
import NamingLint.Proofs.Order.Diagnostic
import NamingLint.Proofs.Path.Ancestors
import NamingLint.Proofs.Path.Dotted
import NamingLint.Proofs.Path.Join
import NamingLint.Proofs.Report.Annotation
import NamingLint.Proofs.Report.Colors
import NamingLint.Proofs.Report.Groups
import NamingLint.Proofs.Report.Headline
import NamingLint.Proofs.Report.Storage
import NamingLint.Proofs.Report.StyleNames
import NamingLint.Proofs.Report.Styles
import NamingLint.Proofs.Report.Tally
import NamingLint.Proofs.Report.Uncolored
import NamingLint.Proofs.Source.Composition
import NamingLint.Proofs.Source.Declarations
import NamingLint.Proofs.Source.Exemption
import NamingLint.Proofs.Source.Generated
import NamingLint.Proofs.Source.Order.Expression
import NamingLint.Proofs.Source.Order.File
import NamingLint.Proofs.Source.Order.Holding
import NamingLint.Proofs.Source.Order.Item
import NamingLint.Proofs.Source.Order.Lexing
import NamingLint.Proofs.Source.Order.Names
import NamingLint.Proofs.Source.Order.Path
import NamingLint.Proofs.Source.Order.Reading
import NamingLint.Proofs.Source.Place
import NamingLint.Proofs.Source.SelfType
import NamingLint.Proofs.Text.Lines
import NamingLint.Proofs.Unicode.Lookup
import NamingLint.Proofs.Unicode.Lowering
import NamingLint.Regex.Expr
import NamingLint.Regex.Fault
import NamingLint.Regex.Pattern
import NamingLint.Regex.Property
import NamingLint.Regex.Reader
import NamingLint.Report.Annotation
import NamingLint.Report.Basic
import NamingLint.Report.Format
import NamingLint.Report.Human
import NamingLint.Report.Json
import NamingLint.Report.Render
import NamingLint.Report.Sarif
import NamingLint.Report.Selection
import NamingLint.Severity
import NamingLint.Source.Collector
import NamingLint.Source.Generated
import NamingLint.Source.Grammar
import NamingLint.Source.Grammar.Expression
import NamingLint.Source.Grammar.Item
import NamingLint.Source.Grammar.Knot
import NamingLint.Source.Grammar.Member
import NamingLint.Source.Grammar.Path
import NamingLint.Source.Grammar.Pattern
import NamingLint.Source.Grammar.Signature
import NamingLint.Source.Grammar.Statement
import NamingLint.Source.Grammar.Type
import NamingLint.Source.Lexer
import NamingLint.Source.Outline
import NamingLint.Source.Parse
import NamingLint.Source.Token
import NamingLint.Text.Lines
import NamingLint.Timestamp
import NamingLint.Unicode.Alphabetic
import NamingLint.Unicode.Blank
import NamingLint.Unicode.CaseFold
import NamingLint.Unicode.Category
import NamingLint.Unicode.CategoryRuns
import NamingLint.Unicode.Escape
import NamingLint.Unicode.Identifier
import NamingLint.Unicode.LetterCase
import NamingLint.Unicode.Lookup
import NamingLint.Unicode.Script
import NamingLint.Unicode.TextCase
import NamingLint.Yaml.Node
import NamingLint.Yaml.Number
import NamingLint.Yaml.Printer
import NamingLint.Yaml.ScalarText
import NamingLint.Yaml.Scan
import NamingLint.Yaml.Token
