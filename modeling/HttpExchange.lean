import HttpExchange.Download
import HttpExchange.File.Disk
import HttpExchange.File.Memory
import HttpExchange.Fixture
import HttpExchange.Http.MediaType
import HttpExchange.Query.Canonical
import HttpExchange.Query.Reader
import HttpExchange.Query.Typed
import HttpExchange.Query.Url
import HttpExchange.Proofs.Percent.Pieces
import HttpExchange.Proofs.Percent.Component
import HttpExchange.Proofs.Query.Tokens
import HttpExchange.Proofs.Percent.Meaning
import HttpExchange.Proofs.Query.Reading
import HttpExchange.Proofs.Percent.Data
import HttpExchange.Proofs.Percent.SinglePass
import HttpExchange.Proofs.Percent.Spelling
import HttpExchange.Proofs.Percent.Stability
import HttpExchange.Proofs.Charset.Ascii
import HttpExchange.Proofs.Query.Parameters
import HttpExchange.Proofs.Query.Canonical
import HttpExchange.Proofs.Query.Merging
import HttpExchange.Proofs.Query.Incremental
import HttpExchange.Proofs.Query.NothingAdded
import HttpExchange.Proofs.Query.Rendered
import HttpExchange.Proofs.Query.Renormalizing
import HttpExchange.Proofs.Percent.Broken
import HttpExchange.Proofs.Query.Strictness
import HttpExchange.Proofs.Query.Views
import HttpExchange.Proofs.Form.Reading
import HttpExchange.Proofs.Form.Writing
import HttpExchange.Proofs.Io.Wrapping
import HttpExchange.Proofs.Body.Delivery
import HttpExchange.Proofs.Body.ClosedForm
import HttpExchange.Proofs.Body.Outcome
import HttpExchange.Proofs.Body.Progress
import HttpExchange.Proofs.Body.EarlyEnd
import HttpExchange.Proofs.Body.SinkFaults
import HttpExchange.Proofs.Body.Faultless
import HttpExchange.Proofs.Download.Ways
import HttpExchange.Proofs.Download.Execution
import HttpExchange.Proofs.Download.Protocol
import HttpExchange.Proofs.File.Path
import HttpExchange.Proofs.File.View
import HttpExchange.Proofs.File.Disk
import HttpExchange.Proofs.Download.CrashSafety
import HttpExchange.Proofs.File.Inside
import HttpExchange.Proofs.File.Components
import HttpExchange.Proofs.Download.Temporary
import HttpExchange.Proofs.Text.Search
import HttpExchange.Proofs.Http.Disposition
import HttpExchange.Proofs.Http.Quoted
import HttpExchange.Proofs.Http.Lookup
import HttpExchange.Proofs.Http.Extended
import HttpExchange.Proofs.Download.Confinement
import HttpExchange.Proofs.Download.Agreement
