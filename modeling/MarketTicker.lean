import MarketTicker.Calendar.Date
import MarketTicker.Calendar.Instant
import MarketTicker.Calendar.Scan
import MarketTicker.Calendar.Stamp
import MarketTicker.Feed.Bytes
import MarketTicker.Feed.Frame
import MarketTicker.Feed.Packet
import MarketTicker.Json.Fault
import MarketTicker.Json.Number
import MarketTicker.Json.Reader
import MarketTicker.Json.Record
import MarketTicker.Json.Scalar
import MarketTicker.Json.Skip
import MarketTicker.Json.Text
import MarketTicker.Json.Typed
import MarketTicker.Json.Value
import MarketTicker.Liveness.Countdown
import MarketTicker.Liveness.Link
import MarketTicker.Liveness.Retry
import MarketTicker.Main
import MarketTicker.Market.Mode
import MarketTicker.Market.Order
import MarketTicker.Market.Price
import MarketTicker.Market.Segment
import MarketTicker.Market.Tick
import MarketTicker.Message.Control
import MarketTicker.Message.Envelope
import MarketTicker.Message.Order
import MarketTicker.Message.Tick
import MarketTicker.Number.Binary64
import MarketTicker.Number.Decimal
import MarketTicker.Number.Quotient
import MarketTicker.Number.Shortest
import MarketTicker.Number.Spelling
import MarketTicker.Program.Dotenv
import MarketTicker.Program.Environment
import MarketTicker.Program.LogFilter
import MarketTicker.Program.Run
import MarketTicker.Program.Settings
import MarketTicker.Program.Telemetry
import MarketTicker.Proofs.Calendar.Epoch
import MarketTicker.Proofs.Feed.Bytes
import MarketTicker.Proofs.Feed.Frame
import MarketTicker.Proofs.Feed.Packet
import MarketTicker.Proofs.Liveness.Act
import MarketTicker.Proofs.Liveness.Backoff
import MarketTicker.Proofs.Liveness.Link
import MarketTicker.Proofs.Liveness.Retries
import MarketTicker.Proofs.Liveness.Watch
import MarketTicker.Proofs.Market.Price
import MarketTicker.Proofs.Number.Quotient
import MarketTicker.Proofs.Session.Acts
import MarketTicker.Proofs.Session.Attempt
import MarketTicker.Proofs.Session.Backoff
import MarketTicker.Proofs.Session.Callers
import MarketTicker.Proofs.Session.Calls
import MarketTicker.Proofs.Session.Cancellation
import MarketTicker.Proofs.Session.Coherence
import MarketTicker.Proofs.Session.Convergence
import MarketTicker.Proofs.Session.Course
import MarketTicker.Proofs.Session.Dispatch
import MarketTicker.Proofs.Session.Finality
import MarketTicker.Proofs.Session.Grammar
import MarketTicker.Proofs.Session.Helm
import MarketTicker.Proofs.Session.Inbound
import MarketTicker.Proofs.Session.Interleaving
import MarketTicker.Proofs.Session.Ledger
import MarketTicker.Proofs.Session.Messages
import MarketTicker.Proofs.Session.Pause
import MarketTicker.Proofs.Session.Scenario
import MarketTicker.Proofs.Session.Service
import MarketTicker.Proofs.Session.Sessions
import MarketTicker.Proofs.Session.Speech
import MarketTicker.Proofs.Session.Step
import MarketTicker.Proofs.Session.Timed
import MarketTicker.Proofs.Session.Wires
import MarketTicker.Proofs.Subscription.Server
import MarketTicker.Proofs.Subscription.Watchlist
import MarketTicker.Session.Address
import MarketTicker.Session.Calls
import MarketTicker.Session.Clock
import MarketTicker.Session.Driver
import MarketTicker.Session.Event
import MarketTicker.Session.Log
import MarketTicker.Session.Metric
import MarketTicker.Session.Net
import MarketTicker.Session.Refusal
import MarketTicker.Session.Scenario
import MarketTicker.Session.State
import MarketTicker.Session.Transport
import MarketTicker.Span
import MarketTicker.Subscription.Control
import MarketTicker.Subscription.Watchlist
import MarketTicker.Text.Alphanumeric
import MarketTicker.Text.Blank
import MarketTicker.Text.Bytes
import MarketTicker.Text.Glyph
import MarketTicker.Text.LetterCase
import MarketTicker.Text.Numeral
import MarketTicker.Text.Pieces
import MarketTicker.Text.Quoted
import MarketTicker.Proofs.Subscription.Restore
import MarketTicker.Proofs.Session.Contest
import MarketTicker.Proofs.Json.Reading
import MarketTicker.Proofs.Json.Text
import MarketTicker.Proofs.Session.Secrecy
import MarketTicker.Proofs.Text.Numeral
import MarketTicker.Proofs.Json.Number
import MarketTicker.Proofs.Calendar.Stamp
import MarketTicker.Proofs.Number.Spelling
import MarketTicker.Proofs.Json.Shape
import MarketTicker.Proofs.Json.Record
import MarketTicker.Proofs.Json.Document
import MarketTicker.Proofs.Message.Order
import MarketTicker.Proofs.Feed.Cut
import MarketTicker.Proofs.Liveness.Silence
import MarketTicker.Proofs.Session.Silence
import MarketTicker.Proofs.Session.Outcomes
import MarketTicker.Proofs.Json.Layout
import MarketTicker.Proofs.Subscription.Machines
import MarketTicker.Proofs.Json.Keeping
import MarketTicker.Proofs.Json.Skipping
import MarketTicker.Proofs.Message.Envelope
import MarketTicker.Proofs.Calendar.Instant
import MarketTicker.Proofs.Message.Tick
import MarketTicker.Proofs.Message.Control
import MarketTicker.Proofs.Session.Counters
import MarketTicker.Proofs.Session.Gauge
import MarketTicker.Proofs.Program.Settings
import MarketTicker.Proofs.Session.Query
