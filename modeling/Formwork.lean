import Formwork.Application.Grouping
import Formwork.Application.Metadata
import Formwork.Application.SubTabs
import Formwork.Application.Tree
import Formwork.Artifact
import Formwork.Artifact.Description
import Formwork.Artifact.Record
import Formwork.Classes
import Formwork.Command.Argument
import Formwork.Command.Basic
import Formwork.Command.Run
import Formwork.Decimal.Double
import Formwork.Decimal.Numeral
import Formwork.Decimal.Shortest
import Formwork.Diagram.Basic
import Formwork.Diagram.Derive
import Formwork.Diagram.Layered
import Formwork.Diagram.Layout
import Formwork.Diagram.Mermaid
import Formwork.Diagram.Record
import Formwork.Error
import Formwork.Folder
import Formwork.Form.Attribute
import Formwork.Form.Basic
import Formwork.Form.Conversion
import Formwork.Form.Membership
import Formwork.Form.Reader
import Formwork.Form.Record
import Formwork.Form.Tag
import Formwork.IdSource
import Formwork.Ingest
import Formwork.Json.Printer
import Formwork.Json.Reader
import Formwork.Main
import Formwork.Markup.Element
import Formwork.Markup.Printer
import Formwork.Page.Control
import Formwork.Page.Dialog
import Formwork.Page.Document
import Formwork.Page.Section
import Formwork.Page.Table
import Formwork.Resource.Definition
import Formwork.Resource.Script
import Formwork.Row.Basic
import Formwork.Row.Check
import Formwork.Row.File
import Formwork.Row.Name
import Formwork.Row.Order
import Formwork.Row.Problem
import Formwork.Row.Record
import Formwork.Row.Vocabulary
import Formwork.Row.Worksheet
import Formwork.Schema.Column
import Formwork.Schema.Coverage
import Formwork.Schema.Script
import Formwork.Schema.Statement
import Formwork.Service
import Formwork.Settings
import Formwork.Settings.File
import Formwork.Spec.Basic
import Formwork.Spec.Markdown
import Formwork.Spec.Record
import Formwork.Table
import Formwork.Text.Alphanumeric
import Formwork.Text.Blank
import Formwork.Text.Case
import Formwork.Text.CaseTable
import Formwork.Text.Digit
import Formwork.Text.Match
import Formwork.Text.Part
import Formwork.Text.Printable
import Formwork.Text.Quoted
import Formwork.Text.Ranges
import Formwork.Text.Reference
import Formwork.Text.ReferenceNames
import Formwork.Text.Run
import Formwork.Text.Utf8
import Formwork.Trigger.Analysis
import Formwork.Trigger.Event
import Formwork.Trigger.Rule
import Formwork.Trigger.Statement
import Formwork.Value
import Formwork.Value.Coerce
import Formwork.Value.Display
import Formwork.Yaml.Reader
import Formwork.Yaml.Scalar
import Formwork.Yaml.Writer
import Formwork.Proofs.Application.Placement
import Formwork.Proofs.Application.Regrouping
import Formwork.Proofs.Application.Buckets
import Formwork.Proofs.Layered.Search
import Formwork.Proofs.Layered.Layers
import Formwork.Proofs.Layered.Place
import Formwork.Proofs.Diagram.Readable
import Formwork.Proofs.Text.Upper
import Formwork.Proofs.Row.Sound
import Formwork.Proofs.Schema.Coverage
import Formwork.Proofs.Resource.Attributes
import Formwork.Proofs.Schema.ReadBack
import Formwork.Proofs.Schema.Lexical
import Formwork.Proofs.Form.Scan
import Formwork.Proofs.Form.Site
import Formwork.Proofs.Form.Span
import Formwork.Proofs.Trigger.Numbering
import Formwork.Proofs.Trigger.Attribution
import Formwork.Proofs.Diagram.Derivation
import Formwork.Proofs.Row.Report
import Formwork.Proofs.Artifact.Complete
import Formwork.Proofs.Artifact.Naming
import Formwork.Proofs.Text.Run
import Formwork.Proofs.Row.Name
import Formwork.Proofs.Row.Nameless
import Formwork.Proofs.IdSource
import Formwork.Proofs.IdSource.Calls
import Formwork.Proofs.Markup.Attribute
import Formwork.Proofs.Page.Columns
import Formwork.Proofs.Page.Placement
import Formwork.Proofs.Page.Control
import Formwork.Proofs.Page.Marks
import Formwork.Proofs.Page.Fields
import Formwork.Proofs.Decimal.Head
import Formwork.Proofs.Page.Ids
import Formwork.Proofs.Application.OrderGroups
import Formwork.Proofs.Resource.Unique
import Formwork.Proofs.Form.Conversion
import Formwork.Proofs.Ingest
import Formwork.Proofs.Layered.Path
import Formwork.Proofs.Layered.Walk
import Formwork.Proofs.Layered.LongestPath
import Formwork.Proofs.Row.Reading
import Formwork.Proofs.Text.Blank
import Formwork.Proofs.Row.Vocabulary
import Formwork.Proofs.Row.RoundTrip
import Formwork.Proofs.Layered.Queue
import Formwork.Proofs.Row.Move
import Formwork.Proofs.Diagram.Edges
import Formwork.Proofs.Diagram.Downwards
import Formwork.Proofs.Diagram.Mermaid
import Formwork.Proofs.Row.Display
import Formwork.Proofs.Row.Normal
import Formwork.Proofs.Trigger.Program
import Formwork.Proofs.Form.TabPage
import Formwork.Proofs.Form.Content
import Formwork.Proofs.Form.Lov
import Formwork.Proofs.Trigger.Simple
import Formwork.Proofs.Trigger.Summary
import Formwork.Proofs.Trigger.Decoding
import Formwork.Proofs.Schema.Collected
import Formwork.Proofs.Artifact.Storage
import Formwork.Proofs.Resource.Agreement
import Formwork.Proofs.Resource.Joins
import Formwork.Proofs.Spec.Tables
import Formwork.Proofs.Form.Membership
import Formwork.Proofs.Form.Lookup
