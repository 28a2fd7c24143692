import DoxTriage.Text.Basic
import DoxTriage.Text.CharSet
import DoxTriage.Text.Blank
import DoxTriage.Text.Digit
import DoxTriage.Text.Casing
import DoxTriage.Text.LowerCase
import DoxTriage.Text.Printable
import DoxTriage.Text.Quoted
import DoxTriage.Path
import DoxTriage.Disk
import DoxTriage.SourceName
import DoxTriage.Ascending
import DoxTriage.Halving
import DoxTriage.Warning.Basic
import DoxTriage.Warning.Log
import DoxTriage.Warning.EmptyBlock
import DoxTriage.Warning.Record
import DoxTriage.Warning.Ledger
import DoxTriage.Xml.Fault
import DoxTriage.Xml.Entity
import DoxTriage.Xml.Event
import DoxTriage.Xml.Attribute
import DoxTriage.Declaration
import DoxTriage.Declaration.Members
import DoxTriage.ClassDocuments
import DoxTriage.Failure
import DoxTriage.ParameterCommand
import DoxTriage.ParameterList
import DoxTriage.SymbolIndex
import DoxTriage.Rule
import DoxTriage.Toml.Value
import DoxTriage.Toml.Reading
import DoxTriage.Toml.Quotation
import DoxTriage.Toml.Number
import DoxTriage.Toml.Moment
import DoxTriage.Toml.Document
import DoxTriage.Settings
import DoxTriage.Workspace
import DoxTriage.Summary
import DoxTriage.Report
import DoxTriage.Json
import DoxTriage.Triage
import DoxTriage.CommandLine
import DoxTriage.Program
import DoxTriage.Main
import DoxTriage.Proofs.Text.Span
import DoxTriage.Proofs.Text.Cut
import DoxTriage.Proofs.Text.Rows
import DoxTriage.Proofs.Path
import DoxTriage.Proofs.Disk
import DoxTriage.Proofs.SymbolIndex.Question
import DoxTriage.Proofs.SymbolIndex.History
import DoxTriage.Proofs.Rule.MissingArgument
import DoxTriage.Proofs.Ascending
import DoxTriage.Proofs.Warning.Ledger
import DoxTriage.Proofs.Warning.Log
import DoxTriage.Proofs.Warning.EmptyBlock
import DoxTriage.Proofs.FirstFailure
import DoxTriage.Proofs.Rule.Retain
import DoxTriage.Proofs.Rule.Shape
import DoxTriage.Proofs.Triage.Accounting
import DoxTriage.Proofs.Triage.Failing
import DoxTriage.Proofs.Triage.Run
import DoxTriage.Proofs.Xml.Entity
import DoxTriage.Proofs.Xml.Content
import DoxTriage.Proofs.Xml.Attribute
import DoxTriage.Proofs.Xml.Markup
import DoxTriage.Proofs.Xml.Reading
import DoxTriage.Proofs.Declaration.Members
import DoxTriage.Proofs.Warning.Calls
import DoxTriage.Proofs.Rule.EmptyBlock
import DoxTriage.Proofs.Rule.Sifting
import DoxTriage.Proofs.Triage.Consulted
import DoxTriage.Proofs.SourceName
import DoxTriage.Proofs.Report
import DoxTriage.Proofs.Triage.Rows
import DoxTriage.Proofs.Json
import DoxTriage.Proofs.Program
import DoxTriage.Proofs.Agreement
import DoxTriage.Proofs.Xml.Respelling
import DoxTriage.Proofs.Declaration.Respelling
import DoxTriage.Proofs.SymbolIndex.Respelling
import DoxTriage.Proofs.Triage.Respelling
import DoxTriage.Proofs.ParameterList
import DoxTriage.Proofs.Warning.LogPrinting
import DoxTriage.Proofs.Text.Number
import DoxTriage.Proofs.Warning.Listing
import DoxTriage.Proofs.Warning.ListingPrinting
import DoxTriage.Proofs.ParameterList.Plain
import DoxTriage.Proofs.ClassDocuments
import DoxTriage.Proofs.ClassDocuments.Rearranged
import DoxTriage.Proofs.Disk.Spelling
import DoxTriage.Proofs.Declaration.Nearest
import DoxTriage.Proofs.SymbolIndex.Nearest
import DoxTriage.Proofs.Rule.AnyDocument
import DoxTriage.Proofs.Report.Collapse
import DoxTriage.Proofs.Report.Groups
import DoxTriage.Proofs.Rule.FixedShape
import DoxTriage.Proofs.Xml.Written
import DoxTriage.Proofs.Declaration.Truncated
import DoxTriage.Proofs.Json.Records
import DoxTriage.Proofs.Text.LineEnds
import DoxTriage.Proofs.Disk.LineEnds
import DoxTriage.Proofs.Triage.LineEnds
