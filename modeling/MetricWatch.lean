import MetricWatch.Bridge.Basic
import MetricWatch.Bridge.Source
import MetricWatch.Config.Json
import MetricWatch.Config.Validation
import MetricWatch.Dashboard
import MetricWatch.Poll.Handle
import MetricWatch.Poll.Timeline
import MetricWatch.Registry.Hub
import MetricWatch.Registry.Receiver
import MetricWatch.Proofs.Poll.Ledger
import MetricWatch.Proofs.Poll.Poller
import MetricWatch.Proofs.Poll.Step
import MetricWatch.Proofs.Poll.Run
import MetricWatch.Proofs.Poll.Table
import MetricWatch.Proofs.Poll.Ended
import MetricWatch.Proofs.Poll.Tasks
import MetricWatch.Proofs.Poll.SingleFlight
import MetricWatch.Proofs.Poll.Origin
import MetricWatch.Proofs.Poll.Delivery
import MetricWatch.Proofs.Poll.Samples
import MetricWatch.Proofs.Poll.Stream
import MetricWatch.Proofs.Poll.Agreement
import MetricWatch.Proofs.Poll.Ticks
import MetricWatch.Proofs.Poll.Registrations
import MetricWatch.Proofs.Poll.Coherence
import MetricWatch.Proofs.Poll.Arrivals
import MetricWatch.Proofs.Poll.Outline
import MetricWatch.Proofs.Poll.Lifecycle
import MetricWatch.Proofs.Poll.Refusals
import MetricWatch.Proofs.Timeline.Metronome
import MetricWatch.Proofs.Timeline.Keeping
import MetricWatch.Proofs.Timeline.Beats
import MetricWatch.Proofs.Timeline.Unswayed
import MetricWatch.Proofs.Registry.Run
import MetricWatch.Proofs.Registry.Subscription
import MetricWatch.Proofs.Registry.Told
import MetricWatch.Proofs.Registry.Stream
import MetricWatch.Proofs.Registry.Replay
import MetricWatch.Proofs.Registry.Cache
import MetricWatch.Proofs.Registry.Receiver
import MetricWatch.Proofs.Registry.Channel
import MetricWatch.Proofs.Bridge.Reply
import MetricWatch.Proofs.Decimal.Rounding
import MetricWatch.Proofs.Decimal.Shortest
import MetricWatch.Proofs.Decimal.Rereading
import MetricWatch.Proofs.Decimal.Unpacked
import MetricWatch.Proofs.Decimal.Doubles
import MetricWatch.Proofs.Json.Spelling
import MetricWatch.Proofs.Json.Numerals
import MetricWatch.Proofs.Json.Containers
import MetricWatch.Proofs.Json.Skip
import MetricWatch.Proofs.Json.Records
import MetricWatch.Proofs.Json.Layout
import MetricWatch.Proofs.Json.Doubles
import MetricWatch.Proofs.Config.Expansion
import MetricWatch.Proofs.Config.Construction
import MetricWatch.Proofs.Config.Titles
import MetricWatch.Proofs.Config.Format
import MetricWatch.Proofs.Metric.Format
import MetricWatch.Proofs.History
import MetricWatch.Proofs.Poll.Calls
import MetricWatch.Proofs.Poll.Failures
import MetricWatch.Proofs.Poll.Generations
import MetricWatch.Proofs.Bridge.Numbers
import MetricWatch.Proofs.Bridge.Request
import MetricWatch.Proofs.Config.Endpoint
