import ChangeFeed.Batch
import ChangeFeed.Config.Reader
import ChangeFeed.Doubles
import ChangeFeed.Feed
import ChangeFeed.Hub
import ChangeFeed.Hub.Measure
import ChangeFeed.Json.Outline
import ChangeFeed.Offsets.Store
import ChangeFeed.Reader.Host
import ChangeFeed.Reader.Thread
import ChangeFeed.Registry
import ChangeFeed.Proofs.Hub.Path
import ChangeFeed.Proofs.Config.Numeral
import ChangeFeed.Proofs.Config.Grammar
import ChangeFeed.Proofs.Config.Precedence
import ChangeFeed.Proofs.Text.Utf8
import ChangeFeed.Proofs.Json.Scalar
import ChangeFeed.Proofs.Json.RoundTrip
import ChangeFeed.Proofs.Json.Reading
import ChangeFeed.Proofs.Json.Envelope
import ChangeFeed.Proofs.Batch.Path
import ChangeFeed.Proofs.Feed.Path
import ChangeFeed.Proofs.Hub.Custody
import ChangeFeed.Proofs.Hub.Report
import ChangeFeed.Proofs.Hub.Queue
import ChangeFeed.Proofs.Feed.World
import ChangeFeed.Proofs.Feed.Release
import ChangeFeed.Proofs.Batch.Stream
import ChangeFeed.Proofs.Offsets.Codec
import ChangeFeed.Proofs.Offsets.Store
import ChangeFeed.Proofs.Offsets.Language
import ChangeFeed.Proofs.Offsets.Resume
import ChangeFeed.Proofs.Batch.Fault
import ChangeFeed.Proofs.Batch.Report
import ChangeFeed.Proofs.Batch.Trace
import ChangeFeed.Proofs.Offsets.Isolation
import ChangeFeed.Proofs.Offsets.Lookup
import ChangeFeed.Proofs.Batch.Bounds
import ChangeFeed.Proofs.Feed.Startup
import ChangeFeed.Proofs.Feed.Trace
import ChangeFeed.Proofs.Feed.Report
import ChangeFeed.Proofs.Feed.Stage
import ChangeFeed.Proofs.Feed.Lifecycle
import ChangeFeed.Proofs.Feed.Unusable
import ChangeFeed.Proofs.Batch.Acknowledge
import ChangeFeed.Proofs.Feed.Acknowledge
import ChangeFeed.Proofs.Feed.Host
import ChangeFeed.Bridge.Wiring
import ChangeFeed.Proofs.Bridge.Wiring
import ChangeFeed.Proofs.Bridge.Crossing
import ChangeFeed.Proofs.Bridge.Mirror
import ChangeFeed.Proofs.Bridge.Contest
import ChangeFeed.Proofs.Batch.Halt
import ChangeFeed.Proofs.Batch.HandOff
import ChangeFeed.Proofs.Feed.Signal
import ChangeFeed.Proofs.Batch.ClosedForm
import ChangeFeed.Proofs.Feed.Stop
import ChangeFeed.Proofs.Feed.Start
import ChangeFeed.Proofs.Hub.Twin
import ChangeFeed.Proofs.Batch.Twin
import ChangeFeed.Proofs.Feed.Twin
import ChangeFeed.Proofs.Feed.Join
import ChangeFeed.Proofs.Feed.Redaction
import ChangeFeed.Proofs.Reader.Join
