import EngineClient.Batch.Answer
import EngineClient.Batch.Outcome
import EngineClient.Batch.Plan
import EngineClient.Call.Attempts
import EngineClient.Call.Basic
import EngineClient.Call.Error
import EngineClient.Call.Policy
import EngineClient.Client.Basic
import EngineClient.Client.Command
import EngineClient.Client.Setup
import EngineClient.Cluster.Basic
import EngineClient.Cluster.Options
import EngineClient.Cluster.Resolve
import EngineClient.Configuration.Basic
import EngineClient.Configuration.Environment
import EngineClient.Configuration.File
import EngineClient.Configuration.Setting
import EngineClient.Counters
import EngineClient.Document.Basic
import EngineClient.Document.FetchStyle
import EngineClient.DomainName.Ascii
import EngineClient.DomainName.Composition
import EngineClient.DomainName.Direction
import EngineClient.DomainName.Joining
import EngineClient.DomainName.Letters
import EngineClient.DomainName.Mapping
import EngineClient.DomainName.Marks
import EngineClient.DomainName.Punycode
import EngineClient.DomainName.Words
import EngineClient.Duration
import EngineClient.Endpoint.Basic
import EngineClient.Endpoint.Documents
import EngineClient.Endpoint.Indexes
import EngineClient.Json.Basic
import EngineClient.Json.Decode
import EngineClient.Json.Printer
import EngineClient.Json.Reader
import EngineClient.Numeric.Binary64
import EngineClient.Numeric.Decimal
import EngineClient.Numeric.Rounding
import EngineClient.Numeric.Scaling
import EngineClient.Proofs.Batch.Encoding
import EngineClient.Proofs.Batch.Framing
import EngineClient.Proofs.Batch.Reconciliation
import EngineClient.Proofs.Batch.Slots
import EngineClient.Proofs.Call.Backoff
import EngineClient.Proofs.Call.Numbering
import EngineClient.Proofs.Call.Reporting
import EngineClient.Proofs.Call.Retrying
import EngineClient.Proofs.Call.Running
import EngineClient.Proofs.Call.Transparency
import EngineClient.Proofs.Client.Acceptance
import EngineClient.Proofs.Client.Concurrency
import EngineClient.Proofs.Client.Converting
import EngineClient.Proofs.Client.Counting
import EngineClient.Proofs.Client.IndexDeletion
import EngineClient.Proofs.Client.Listing
import EngineClient.Proofs.Client.Plans
import EngineClient.Proofs.Client.Reachability
import EngineClient.Proofs.Client.ReadBack
import EngineClient.Proofs.Client.Totals
import EngineClient.Proofs.Client.WriteBack
import EngineClient.Proofs.Cluster.Resolution
import EngineClient.Proofs.Cluster.Rotation
import EngineClient.Proofs.Configuration.Environment
import EngineClient.Proofs.Endpoint.Addressing
import EngineClient.Proofs.Endpoint.Asking
import EngineClient.Proofs.Endpoint.Judging
import EngineClient.Proofs.Fallible
import EngineClient.Proofs.Json.Embedding
import EngineClient.Proofs.Json.Surroundings
import EngineClient.Proofs.Record.Recoding
import EngineClient.Proofs.Record.Stamping
import EngineClient.Proofs.Search.Dispatch
import EngineClient.Proofs.Search.Hydration
import EngineClient.Proofs.Search.Page
import EngineClient.Proofs.Search.Totals
import EngineClient.Proofs.Url.Bases
import EngineClient.Proofs.Url.Percent
import EngineClient.Proofs.Url.Rooted
import EngineClient.Proofs.Url.Segments
import EngineClient.Record.Codec
import EngineClient.Record.Telemetry
import EngineClient.RoundTrip.Error
import EngineClient.RoundTrip.Request
import EngineClient.RoundTrip.Response
import EngineClient.RoundTrip.StatusClass
import EngineClient.Search.HitTotal
import EngineClient.Search.Hits
import EngineClient.Search.Result
import EngineClient.Text.Base64
import EngineClient.Text.Blank
import EngineClient.Text.Invisible
import EngineClient.Text.Marks
import EngineClient.Text.Quoted
import EngineClient.Text.Ranges
import EngineClient.Text.Unassigned
import EngineClient.Text.Uppercase
import EngineClient.Text.Utf8
import EngineClient.Toml.Quoted
import EngineClient.Toml.Reader
import EngineClient.Toml.Scalar
import EngineClient.Toml.Value
import EngineClient.Url.Basic
import EngineClient.Url.Extend
import EngineClient.Url.Form
import EngineClient.Url.Host
import EngineClient.Url.Path
import EngineClient.Url.Percent
import EngineClient.Url.Reader
import EngineClient.Url.Scheme
