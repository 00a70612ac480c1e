import AuditTrail.Binary64
import AuditTrail.Binary64.Shortest
import AuditTrail.Buffer.Basic
import AuditTrail.Buffer.Session
import AuditTrail.CommandLine
import AuditTrail.Config
import AuditTrail.Delivery
import AuditTrail.Duration
import AuditTrail.Entry.Basic
import AuditTrail.Entry.Body
import AuditTrail.Entry.Record
import AuditTrail.Entry.Redaction
import AuditTrail.Environment
import AuditTrail.Failure
import AuditTrail.Http.Capture
import AuditTrail.Http.Message
import AuditTrail.Http.Routes
import AuditTrail.Http.Stream
import AuditTrail.Json.Basic
import AuditTrail.Json.Literal
import AuditTrail.Json.Numeral
import AuditTrail.Json.Reader
import AuditTrail.Json.Writer
import AuditTrail.Log.Directive
import AuditTrail.Log.Event
import AuditTrail.Log.Filter
import AuditTrail.Log.Pattern
import AuditTrail.Main
import AuditTrail.Net.Address
import AuditTrail.Net.Client
import AuditTrail.Pipeline.State
import AuditTrail.Pipeline.Step
import AuditTrail.Pipeline.Timed
import AuditTrail.Proofs.AcceptanceOrder
import AuditTrail.Proofs.Balance
import AuditTrail.Proofs.BoundedCapture
import AuditTrail.Proofs.Bounds
import AuditTrail.Proofs.BufferLaw
import AuditTrail.Proofs.Calendar
import AuditTrail.Proofs.CapturedEntries
import AuditTrail.Proofs.ClientAddresses
import AuditTrail.Proofs.Confidentiality
import AuditTrail.Proofs.Conservation
import AuditTrail.Proofs.Contents
import AuditTrail.Proofs.CutTexts
import AuditTrail.Proofs.Decimals
import AuditTrail.Proofs.Deliveries
import AuditTrail.Proofs.Drains
import AuditTrail.Proofs.FailedFlusher
import AuditTrail.Proofs.FileSink
import AuditTrail.Proofs.Generations
import AuditTrail.Proofs.Handoffs
import AuditTrail.Proofs.History
import AuditTrail.Proofs.Holders
import AuditTrail.Proofs.Instants
import AuditTrail.Proofs.Ledger
import AuditTrail.Proofs.LineScan
import AuditTrail.Proofs.Lines
import AuditTrail.Proofs.Literals
import AuditTrail.Proofs.Locks
import AuditTrail.Proofs.Numerals
import AuditTrail.Proofs.OversizedBodies
import AuditTrail.Proofs.Paging
import AuditTrail.Proofs.Progress
import AuditTrail.Proofs.PushOrder
import AuditTrail.Proofs.QueryWindows
import AuditTrail.Proofs.ReadValues
import AuditTrail.Proofs.Records
import AuditTrail.Proofs.Relabel
import AuditTrail.Proofs.RemainingWork
import AuditTrail.Proofs.Rendezvous
import AuditTrail.Proofs.Retries
import AuditTrail.Proofs.Rounding
import AuditTrail.Proofs.Schedule
import AuditTrail.Proofs.ShutdownOrder
import AuditTrail.Proofs.SinkAgreement
import AuditTrail.Proofs.StrictTimes
import AuditTrail.Proofs.Takeover
import AuditTrail.Proofs.Tickets
import AuditTrail.Proofs.TornWrites
import AuditTrail.Proofs.Transition
import AuditTrail.Proofs.Transparency
import AuditTrail.Proofs.Utf8
import AuditTrail.Proofs.Values
import AuditTrail.Proofs.WakeUps
import AuditTrail.Proofs.WrittenNumbers
import AuditTrail.Query.Form
import AuditTrail.Query.Parameters
import AuditTrail.Server
import AuditTrail.Service
import AuditTrail.Sink.File
import AuditTrail.Sink.Memory
import AuditTrail.Sink.Page
import AuditTrail.Sink.Scripted
import AuditTrail.Sink.Store
import AuditTrail.StopSignal
import AuditTrail.Text.Alphanumeric
import AuditTrail.Text.Blank
import AuditTrail.Text.Numeral
import AuditTrail.Text.Utf8
import AuditTrail.Time.Calendar
import AuditTrail.Time.Instant
import AuditTrail.Time.Reader
import AuditTrail.Word
