import JobWatch.Action
import JobWatch.Client.Request
import JobWatch.Client.Response
import JobWatch.Completion
import JobWatch.Config.Basic
import JobWatch.Config.SocketAddress
import JobWatch.Engine
import JobWatch.Event
import JobWatch.Http.Body
import JobWatch.Http.ContentType
import JobWatch.Http.Response
import JobWatch.Http.Router
import JobWatch.Invalidation
import JobWatch.Job.Kind
import JobWatch.Job.Record
import JobWatch.Job.Status
import JobWatch.Json.Basic
import JobWatch.Json.Fault
import JobWatch.Json.Printer
import JobWatch.Json.Reader
import JobWatch.Json.Scan
import JobWatch.Json.Skim
import JobWatch.Number.Binary64
import JobWatch.Number.Shortest
import JobWatch.Polling.Cadence
import JobWatch.Polling.Poller
import JobWatch.Proofs.Coherence
import JobWatch.Proofs.Current
import JobWatch.Proofs.Effect
import JobWatch.Proofs.Polling
import JobWatch.Proofs.Run
import JobWatch.Proofs.Sessions
import JobWatch.ResultBoard
import JobWatch.Retry
import JobWatch.Simulation.Agenda
import JobWatch.Simulation.Clock
import JobWatch.Simulation.EngineBench
import JobWatch.Simulation.Listing
import JobWatch.Simulation.PollBench
import JobWatch.Simulation.PollLoop
import JobWatch.Simulation.ResultBench
import JobWatch.Simulation.Server
import JobWatch.Store
import JobWatch.Stream.Channel
import JobWatch.Stream.EventStream
import JobWatch.Text.Blank
import JobWatch.Text.Graphic
import JobWatch.Text.Hex
import JobWatch.Text.Numeral
import JobWatch.Text.Percent
import JobWatch.Text.Quoted
import JobWatch.Text.Utf8
import JobWatch.Time.Calendar
import JobWatch.Time.Timestamp
import JobWatch.Transport.Error
import JobWatch.Uuid
import JobWatch.Wire.Codec
import JobWatch.Wire.Raw
import JobWatch.Wire.Reading
import JobWatch.Proofs.Lifecycle
import JobWatch.Proofs.Isolation
import JobWatch.Proofs.Frame
import JobWatch.Proofs.Ending
import JobWatch.Proofs.Dialogue
import JobWatch.Proofs.Refresh
import JobWatch.Proofs.Overlap
import JobWatch.Proofs.Account
import JobWatch.Proofs.Requests
import JobWatch.Proofs.LiveResult
import JobWatch.Proofs.Projection
import JobWatch.Proofs.Views
import JobWatch.Proofs.Kinds
import JobWatch.Proofs.Guards
import JobWatch.Proofs.StoreHistory
import JobWatch.Proofs.Refusals
import JobWatch.Proofs.PollAnswer
import JobWatch.Proofs.Calendar
import JobWatch.Proofs.TimestampText
import JobWatch.Proofs.UuidText
import JobWatch.Proofs.WireReading
import JobWatch.Proofs.WireRoundTrip
import JobWatch.Proofs.BlankText
import JobWatch.Proofs.Evidence
import JobWatch.Proofs.AnswerFields
import JobWatch.Proofs.FailureText
import JobWatch.Proofs.StatusTrailer
import JobWatch.Proofs.Urls
import JobWatch.Proofs.FormFields
import JobWatch.Proofs.PollCadence
import JobWatch.Proofs.Freshness
import JobWatch.Proofs.Broadcast
import JobWatch.Proofs.BusHistory
import JobWatch.Proofs.Configuration
