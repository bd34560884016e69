import Critique.Catalog
import Critique.Client
import Critique.Display
import Critique.Entries
import Critique.Finding
import Critique.Grouping
import Critique.Http.Message
import Critique.Http.Target
import Critique.Insight
import Critique.Json.Access
import Critique.Json.Encoding
import Critique.Json.Export
import Critique.Json.Reader
import Critique.Json.Value
import Critique.Json.Writer
import Critique.Language
import Critique.Number.Binary64
import Critique.Number.Shortest
import Critique.Page
import Critique.Page.Drawing
import Critique.Page.Element
import Critique.Page.Result
import Critique.Record
import Critique.Report
import Critique.Rewrite
import Critique.Rule
import Critique.Scan
import Critique.Schema
import Critique.Service
import Critique.Session
import Critique.Settings
import Critique.Store
import Critique.Store.Address
import Critique.Store.Basic
import Critique.Store.Host
import Critique.Store.Memory
import Critique.Store.Remote
import Critique.Store.Server
import Critique.Text.Case
import Critique.Text.CaseTable
import Critique.Text.Digit
import Critique.Text.Numeral
import Critique.Text.Quoted
import Critique.Text.Search
import Critique.Text.Space
import Critique.Text.UnprintableTable
import Critique.Text.Utf8
import Critique.Time.Calendar
import Critique.Time.Stamp
import Critique.Wire
import Critique.Proofs.Json.Text
import Critique.Proofs.Text.Numeral
import Critique.Proofs.Text.Lines
import Critique.Proofs.Text.Replacing
import Critique.Proofs.Text.Places
import Critique.Proofs.Rewrite.Scanner
import Critique.Proofs.Rewrite.Substitutions
import Critique.Proofs.Json.RoundTrip
import Critique.Proofs.Time.Calendar
import Critique.Proofs.Time.Stamp
import Critique.Proofs.RecordCodec
import Critique.Proofs.Store.Ledger
import Critique.Proofs.Store.Commands
import Critique.Proofs.Store.Run
import Critique.Proofs.Store.Serving
import Critique.Proofs.Store.Agreement
import Critique.Proofs.Store.History
import Critique.Proofs.Store.Recency
import Critique.Proofs.Store.Integrity
import Critique.Proofs.Grouping
import Critique.Proofs.Grouping.Refusal
import Critique.Proofs.Report.LineCheck
import Critique.Proofs.Report.Findings
import Critique.Proofs.Report.Note
import Critique.Proofs.Report.Regrouping
import Critique.Proofs.Report.Score
import Critique.Proofs.Report.Numbers
import Critique.Proofs.Store.Keeping
import Critique.Proofs.Service.Run
import Critique.Proofs.Service.Traces
import Critique.Proofs.Service.RoundTrip
import Critique.Proofs.Page.Steps
import Critique.Proofs.Page.Result
import Critique.Proofs.Page.Answers
import Critique.Proofs.Page.Editor
import Critique.Proofs.Page.Panels
import Critique.Proofs.Page.Turns
import Critique.Proofs.Page.Shared
import Critique.Proofs.Page.Notes
import Critique.Proofs.Page.Saving
import Critique.Proofs.Report.Cleared
import Critique.Proofs.Rewrite.Calls
import Critique.Proofs.Rewrite.Balance
import Critique.Proofs.Rewrite.Lines
import Critique.Proofs.Text.Returns
import Critique.Proofs.Report.Returns
import Critique.Proofs.Grouping.Entries
import Critique.Proofs.Time.Reading
import Critique.Proofs.Wire.Normal
import Critique.Proofs.Store.Making
import Critique.Proofs.Page.Outcome
import Critique.Proofs.Page.Loading
import Critique.Proofs.Grouping.Settling
import Critique.Proofs.Grouping.Order
import Critique.Proofs.Report.Counts
import Critique.Proofs.Report.Offer
import Critique.Proofs.Report.Joining
import Critique.Proofs.Text.Leading
import Critique.Proofs.Json.Encoding
import Critique.Proofs.Service.Reading
import Critique.Proofs.Service.Recent
import Critique.Proofs.Service.Submissions
import Critique.Proofs.Rewrite.Fixed
import Critique.Proofs.Client
import Critique.Proofs.Store.Stock
import Critique.Proofs.Json.Indented
import Critique.Proofs.Json.Export
import Critique.Proofs.Report.Words
import Critique.Proofs.Text.Seams
import Critique.Proofs.Insight
