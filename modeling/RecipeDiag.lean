import RecipeDiag.Binary64.Basic
import RecipeDiag.Binary64.Shortest
import RecipeDiag.Channels
import RecipeDiag.Configuration
import RecipeDiag.Diagnostic.Basic
import RecipeDiag.Diagnostic.Code
import RecipeDiag.Fault
import RecipeDiag.FileTree
import RecipeDiag.ImportNote
import RecipeDiag.Inquiry
import RecipeDiag.Json.Basic
import RecipeDiag.Json.Numeral
import RecipeDiag.Json.Reader
import RecipeDiag.Json.Token
import RecipeDiag.Json.Writer
import RecipeDiag.Language
import RecipeDiag.Location
import RecipeDiag.Main
import RecipeDiag.Proofs.ImportNote.Rewriting
import RecipeDiag.Proofs.ImportNote.Threshold
import RecipeDiag.Proofs.Inquiry
import RecipeDiag.Proofs.Json.RoundTrip
import RecipeDiag.Proofs.Reconciler.Accounting
import RecipeDiag.Proofs.Reconciler.Clearing
import RecipeDiag.Proofs.Reconciler.CutOff
import RecipeDiag.Proofs.Reconciler.Disabling
import RecipeDiag.Proofs.Reconciler.Failure
import RecipeDiag.Proofs.Reconciler.Image
import RecipeDiag.Proofs.Reconciler.Interleaving
import RecipeDiag.Proofs.Reconciler.Judgement
import RecipeDiag.Proofs.Reconciler.Knowledge
import RecipeDiag.Proofs.Reconciler.Locality
import RecipeDiag.Proofs.Reconciler.Operation
import RecipeDiag.Proofs.Reconciler.Outcome
import RecipeDiag.Proofs.Reconciler.Presentation
import RecipeDiag.Proofs.Reconciler.Recency
import RecipeDiag.Proofs.Reconciler.Reflection
import RecipeDiag.Proofs.Reconciler.Renewal
import RecipeDiag.Proofs.Reconciler.ReviewOrder
import RecipeDiag.Proofs.Reconciler.Settled
import RecipeDiag.Proofs.Reconciler.Tally
import RecipeDiag.Proofs.Reconciler.Transition
import RecipeDiag.Proofs.Registry.History
import RecipeDiag.Proofs.Registry.OwnText
import RecipeDiag.Proofs.Registry.Resolution
import RecipeDiag.Proofs.Rule.Chain
import RecipeDiag.Proofs.Rule.Exclusion
import RecipeDiag.Proofs.Rule.NameEnd
import RecipeDiag.Proofs.Rule.Overflow
import RecipeDiag.Proofs.Server.Agreement
import RecipeDiag.Proofs.Server.Arrival
import RecipeDiag.Proofs.Server.Attendance
import RecipeDiag.Proofs.Server.Debounce
import RecipeDiag.Proofs.Server.Delay
import RecipeDiag.Proofs.Server.Demand
import RecipeDiag.Proofs.Server.Run
import RecipeDiag.Proofs.Server.Succession
import RecipeDiag.Proofs.Server.Superseded
import RecipeDiag.Proofs.Server.Switching
import RecipeDiag.Proofs.Server.Trace
import RecipeDiag.Proofs.Snapshot.Report
import RecipeDiag.Proofs.Statistics.Collection
import RecipeDiag.Proofs.Statistics.Order
import RecipeDiag.Proofs.Statistics.Report
import RecipeDiag.Proofs.Text.Copy
import RecipeDiag.Proofs.Text.Offset
import RecipeDiag.Proofs.Text.Order
import RecipeDiag.Proofs.Text.RoundTrip
import RecipeDiag.Proofs.Text.Slicing
import RecipeDiag.Proofs.Wire.Finding
import RecipeDiag.Proofs.Wire.Record
import RecipeDiag.Reconciler.Basic
import RecipeDiag.Reconciler.Concurrent
import RecipeDiag.Reconciler.Course
import RecipeDiag.Reconciler.Edit
import RecipeDiag.Reconciler.Review
import RecipeDiag.Reconciler.Stage
import RecipeDiag.Reconciler.Update
import RecipeDiag.Reconciler.Verdict
import RecipeDiag.Reckoned
import RecipeDiag.Registry
import RecipeDiag.Rule.Basic
import RecipeDiag.Rule.CommonDirectory
import RecipeDiag.Rule.ShellVariable
import RecipeDiag.Server.Basic
import RecipeDiag.Server.Capability
import RecipeDiag.Server.Client
import RecipeDiag.Server.Commands
import RecipeDiag.Server.Debounce
import RecipeDiag.Server.Method
import RecipeDiag.Server.Params
import RecipeDiag.Server.Session
import RecipeDiag.Server.StandardRequest
import RecipeDiag.Snapshot.Basic
import RecipeDiag.Snapshot.Report
import RecipeDiag.Statistics.Basic
import RecipeDiag.Statistics.Report
import RecipeDiag.Table
import RecipeDiag.Text.Bidi
import RecipeDiag.Text.Blank
import RecipeDiag.Text.CharTable
import RecipeDiag.Text.CombiningClass
import RecipeDiag.Text.Composed
import RecipeDiag.Text.Decomposition
import RecipeDiag.Text.Digit
import RecipeDiag.Text.Hex
import RecipeDiag.Text.Joining
import RecipeDiag.Text.Mark
import RecipeDiag.Text.Origin
import RecipeDiag.Text.Position
import RecipeDiag.Text.Printable
import RecipeDiag.Text.Quoted
import RecipeDiag.Text.Search
import RecipeDiag.Text.Split
import RecipeDiag.Uri.Basic
import RecipeDiag.Uri.Domain.Basic
import RecipeDiag.Uri.Domain.Label
import RecipeDiag.Uri.Domain.Mapping
import RecipeDiag.Uri.File
import RecipeDiag.Uri.Host
import RecipeDiag.Uri.Parse
import RecipeDiag.Uri.Path
import RecipeDiag.Uri.Percent
import RecipeDiag.Uri.Punycode
import RecipeDiag.Wire.Basic
import RecipeDiag.Wire.Decode
import RecipeDiag.Wire.Diagnostic
import RecipeDiag.Wire.Document
import RecipeDiag.Wire.Schema
