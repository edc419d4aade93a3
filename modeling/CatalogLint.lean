import CatalogLint.Catalog.Check
import CatalogLint.Catalog.Coherence
import CatalogLint.Catalog.KeyOrder
import CatalogLint.Catalog.Line
import CatalogLint.Catalog.Parsed
import CatalogLint.CommandLine.Arguments
import CatalogLint.CommandLine.Execution
import CatalogLint.Discovery
import CatalogLint.Document
import CatalogLint.Failure
import CatalogLint.FileSystem
import CatalogLint.FileTree
import CatalogLint.Finding
import CatalogLint.Instant
import CatalogLint.Json.Reader
import CatalogLint.Json.Value
import CatalogLint.Json.Writer
import CatalogLint.KeyStore
import CatalogLint.KnownKeys
import CatalogLint.Main
import CatalogLint.Markup
import CatalogLint.Options
import CatalogLint.Options.Document
import CatalogLint.Options.Load
import CatalogLint.Path
import CatalogLint.Pattern.Expr
import CatalogLint.Pattern.Reader
import CatalogLint.Proofs.Catalog.Insertion
import CatalogLint.Proofs.Catalog.KeyOrder
import CatalogLint.Proofs.Catalog.Keys
import CatalogLint.Proofs.Catalog.Line
import CatalogLint.Proofs.Catalog.LineEnds
import CatalogLint.Proofs.Catalog.Lines
import CatalogLint.Proofs.Catalog.Order
import CatalogLint.Proofs.Catalog.Pairs
import CatalogLint.Proofs.Catalog.Written
import CatalogLint.Proofs.Coherence
import CatalogLint.Proofs.Coherence.Directories
import CatalogLint.Proofs.Coherence.Reports
import CatalogLint.Proofs.DirectoryGroups
import CatalogLint.Proofs.Discovery.Files
import CatalogLint.Proofs.Discovery.Patterns
import CatalogLint.Proofs.FileTree
import CatalogLint.Proofs.FirstOccurrences
import CatalogLint.Proofs.Json.ReadBack
import CatalogLint.Proofs.KeyStore
import CatalogLint.Proofs.KnownKeys
import CatalogLint.Proofs.Markup.Balance
import CatalogLint.Proofs.Markup.Bounds
import CatalogLint.Proofs.Markup.Comparison
import CatalogLint.Proofs.Markup.OpeningTags
import CatalogLint.Proofs.Markup.Splicing
import CatalogLint.Proofs.Markup.Written
import CatalogLint.Proofs.Options
import CatalogLint.Proofs.Path
import CatalogLint.Proofs.Report.ReadBack
import CatalogLint.Proofs.Report.Sarif
import CatalogLint.Proofs.Report.Summary
import CatalogLint.Proofs.Reporter
import CatalogLint.Proofs.Rules
import CatalogLint.Proofs.Run.Exclusions
import CatalogLint.Proofs.Run.ForbiddenPatterns
import CatalogLint.Proofs.Run.Languages
import CatalogLint.Proofs.Run.Locations
import CatalogLint.Proofs.Run.Order
import CatalogLint.Proofs.Run.Phases
import CatalogLint.Proofs.Run.SingleFile
import CatalogLint.Proofs.Run.Switches
import CatalogLint.Proofs.Severities
import CatalogLint.Proofs.Template.Cleaning
import CatalogLint.Proofs.Template.CommentLayout
import CatalogLint.Proofs.Template.Comments
import CatalogLint.Proofs.Template.Exclusions
import CatalogLint.Proofs.Template.FilterTails
import CatalogLint.Proofs.Template.Interpolations
import CatalogLint.Proofs.Template.Keys
import CatalogLint.Proofs.Template.MixedValues
import CatalogLint.Proofs.Template.Spacing
import CatalogLint.Proofs.Template.TextNodes
import CatalogLint.Proofs.Template.Written
import CatalogLint.Proofs.Text.ByteOrder
import CatalogLint.Proofs.Text.Marks
import CatalogLint.Proofs.Text.Places
import CatalogLint.Proofs.Text.Sweep
import CatalogLint.Report.Basic
import CatalogLint.Report.Format
import CatalogLint.Report.Sarif
import CatalogLint.Report.Summary
import CatalogLint.Reporter
import CatalogLint.Run
import CatalogLint.Sorted
import CatalogLint.Template.Check
import CatalogLint.Template.Comment
import CatalogLint.Template.Literal
import CatalogLint.Template.Reference
import CatalogLint.Text.Encoding
import CatalogLint.Text.Quoted
import CatalogLint.Text.Sweep
import CatalogLint.Unicode.BinaryProperty
import CatalogLint.Unicode.Blank
import CatalogLint.Unicode.CaseMap
import CatalogLint.Unicode.CharClass
import CatalogLint.Unicode.GeneralCategory
import CatalogLint.Unicode.Property
import CatalogLint.Unicode.Ranges
import CatalogLint.Unicode.Script
import CatalogLint.Unicode.ScriptExtension
import CatalogLint.Unicode.Segmentation
import CatalogLint.Unicode.Word
import CatalogLint.Yaml.Cell
import CatalogLint.Yaml.Node
import CatalogLint.Yaml.Quoted
import CatalogLint.Yaml.Scalar
import CatalogLint.Yaml.Tag
import CatalogLint.Yaml.Token
import CatalogLint.Yaml.Unquoted
import CatalogLint.Yaml.Writer
