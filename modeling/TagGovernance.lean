import TagGovernance.Batch.Actions
import TagGovernance.Batch.Print
import TagGovernance.Batch.Report
import TagGovernance.Calendar.Date
import TagGovernance.Calendar.Due
import TagGovernance.Calendar.Instant
import TagGovernance.CommandLine.Arguments
import TagGovernance.CommandLine.Run
import TagGovernance.CommandLine.Value
import TagGovernance.Decimal.Binary64
import TagGovernance.Decimal.Reading
import TagGovernance.Decimal.Shortest
import TagGovernance.Failure
import TagGovernance.Graph.Order
import TagGovernance.Json.Printer
import TagGovernance.Json.Reader
import TagGovernance.Json.Token
import TagGovernance.Json.Value
import TagGovernance.Json.Written
import TagGovernance.Keyed
import TagGovernance.Main
import TagGovernance.Pattern.Bracket
import TagGovernance.Pattern.Class
import TagGovernance.Pattern.Escape
import TagGovernance.Pattern.Node
import TagGovernance.Pattern.Reader
import TagGovernance.Policy.CrossAccount
import TagGovernance.Policy.Error
import TagGovernance.Policy.ListItem
import TagGovernance.Policy.Mark
import TagGovernance.Policy.Select
import TagGovernance.Policy.TagFilter
import TagGovernance.Provider.Calls
import TagGovernance.Provider.Error
import TagGovernance.Provider.Flight
import TagGovernance.Provider.State
import TagGovernance.Replay.Request
import TagGovernance.Replay.Run
import TagGovernance.Resource.Aws
import TagGovernance.Resource.Catalog
import TagGovernance.Resource.Describe
import TagGovernance.Resource.Error
import TagGovernance.Resource.Kind
import TagGovernance.Resource.Operation
import TagGovernance.Resource.Recording
import TagGovernance.Resource.Ref
import TagGovernance.Resource.Reshape
import TagGovernance.Settings.Basic
import TagGovernance.Settings.File
import TagGovernance.Tag.Edit
import TagGovernance.Tag.Ingest
import TagGovernance.Tag.Payload
import TagGovernance.Tag.Reconcile
import TagGovernance.Tag.Set
import TagGovernance.Tag.Shape
import TagGovernance.Text.Blank
import TagGovernance.Text.Numeral
import TagGovernance.Text.Quoted
import TagGovernance.Text.Split
import TagGovernance.Unicode.CaseFolding
import TagGovernance.Unicode.Category
import TagGovernance.Unicode.NamedProperty
import TagGovernance.Unicode.Property
import TagGovernance.Unicode.Ranges
import TagGovernance.Unicode.Script
import TagGovernance.Yaml.Cursor
import TagGovernance.Yaml.Document
import TagGovernance.Yaml.Scalar
import TagGovernance.Yaml.Tag
import TagGovernance.Yaml.Token
import TagGovernance.Proofs.Fallible
import TagGovernance.Proofs.Keyed
import TagGovernance.Proofs.Tag.Payload
import TagGovernance.Proofs.Provider.Answered
import TagGovernance.Proofs.Provider.ClientCall
import TagGovernance.Proofs.Provider.ShapeChange
import TagGovernance.Proofs.Provider.Effect
import TagGovernance.Proofs.Batch.Work
import TagGovernance.Proofs.Replay.Actions
import TagGovernance.Proofs.Replay.Refusal
import TagGovernance.Proofs.Provider.Enumeration
import TagGovernance.Proofs.Replay.Frame
import TagGovernance.Proofs.Batch.Readable
import TagGovernance.Proofs.Replay.EmptyMark
import TagGovernance.Proofs.Calendar.Date
import TagGovernance.Proofs.Calendar.Due
import TagGovernance.Proofs.Policy.Skew
import TagGovernance.Proofs.Policy.Stamp
import TagGovernance.Proofs.Provider.Named
import TagGovernance.Proofs.Tag.Reconcile
import TagGovernance.Proofs.Provider.Reached
import TagGovernance.Proofs.Batch.Tagging
import TagGovernance.Proofs.Batch.Shown
import TagGovernance.Proofs.Replay.Selection
import TagGovernance.Proofs.Replay.Outcome
import TagGovernance.Proofs.Batch.Interleaving
import TagGovernance.Proofs.Provider.Faithful
import TagGovernance.Proofs.Provider.History
import TagGovernance.Proofs.Policy.Exclusion
import TagGovernance.Proofs.Graph.Order
import TagGovernance.Proofs.Batch.Deletion
import TagGovernance.Proofs.Batch.Issued
import TagGovernance.Proofs.Replay.Gating
import TagGovernance.Proofs.Provider.TagReads
import TagGovernance.Proofs.Batch.Agreement
import TagGovernance.Proofs.Batch.Repetition
import TagGovernance.Proofs.Replay.TagView
import TagGovernance.Proofs.Resource.Lookup
import TagGovernance.Proofs.Batch.Window
import TagGovernance.Proofs.Graph.Cycle
import TagGovernance.Proofs.Policy.Verdict
import TagGovernance.Proofs.Batch.Tally
import TagGovernance.Proofs.CommandLine.Ending
import TagGovernance.Proofs.Tag.Grammar
import TagGovernance.Proofs.FirstFault
import TagGovernance.Proofs.Tag.Reconciled
import TagGovernance.Proofs.Provider.Sources
import TagGovernance.Proofs.Resource.Validity
import TagGovernance.Proofs.Policy.Selection
import TagGovernance.Proofs.Resource.Description
import TagGovernance.Proofs.CommandLine.Value
import TagGovernance.Proofs.Replay.Sessions
import TagGovernance.Proofs.Tag.Edits
import TagGovernance.Proofs.Tag.Request
