import NodeClient.Address.Socket
import NodeClient.Address.V4
import NodeClient.Address.V6
import NodeClient.Client.Config
import NodeClient.Client.Error
import NodeClient.Client.Log
import NodeClient.Client.Method
import NodeClient.Client.Metrics
import NodeClient.Client.Operation
import NodeClient.Client.Points
import NodeClient.Client.Service
import NodeClient.Client.Tracker
import NodeClient.Codec.Basic
import NodeClient.Codec.Record
import NodeClient.Decimal.Binary
import NodeClient.Decimal.Digits
import NodeClient.Decimal.Nearest
import NodeClient.Decimal.Shortest
import NodeClient.Hex.Decode
import NodeClient.Hex.Digits
import NodeClient.Hex.Encode
import NodeClient.Hex.Error
import NodeClient.Http.Outcome
import NodeClient.Http.Status
import NodeClient.Http.Transport
import NodeClient.Json.Mismatch
import NodeClient.Json.Outline
import NodeClient.Json.Reader
import NodeClient.Json.Real
import NodeClient.Json.Text
import NodeClient.Json.Value
import NodeClient.Main
import NodeClient.Probe.Arguments
import NodeClient.Probe.Head
import NodeClient.Probe.Report
import NodeClient.Rehearsal.Actor
import NodeClient.Rehearsal.Listener
import NodeClient.Rehearsal.Play
import NodeClient.Rehearsal.Probe
import NodeClient.Rehearsal.Refresh
import NodeClient.Rehearsal.Script
import NodeClient.Reply.Basic
import NodeClient.Reply.Block
import NodeClient.Reply.Receipt
import NodeClient.Reply.SyncState
import NodeClient.Request.Basic
import NodeClient.Request.BlockId
import NodeClient.Scalar.BlockNumber
import NodeClient.Scalar.Data
import NodeClient.Scalar.Order
import NodeClient.Scalar.Quantity
import NodeClient.Scalar.Word
import NodeClient.Text.Ascii
import NodeClient.Text.Base64
import NodeClient.Text.Blank
import NodeClient.Text.Padding
import NodeClient.Text.Quoted
import NodeClient.Text.Ranges
import NodeClient.Text.Split
import NodeClient.Text.Unprintable
import NodeClient.Text.Utf8
import NodeClient.Token.Status
import NodeClient.Token.Vocabulary
import NodeClient.Transaction.Basic
import NodeClient.Transaction.Payload
import NodeClient.Transaction.Version
import NodeClient.Url.Basic
import NodeClient.Url.Domain
import NodeClient.Url.Error
import NodeClient.Url.Escape
import NodeClient.Url.Folding
import NodeClient.Url.Host
import NodeClient.Url.Path
import NodeClient.Url.Punycode
import NodeClient.Proofs.Codec.Reading
import NodeClient.Proofs.Codec.RoundTrip
import NodeClient.Proofs.Codec.Yield
import NodeClient.Proofs.Codec.Restore
import NodeClient.Proofs.Token.Vocabulary
import NodeClient.Proofs.Hex.Pairs
import NodeClient.Proofs.Hex.Canonical
import NodeClient.Proofs.Hex.Value
import NodeClient.Proofs.Hex.Numeral
import NodeClient.Proofs.Hex.Literal
import NodeClient.Proofs.Json.PlainText
import NodeClient.Proofs.Scalar.RoundTrip
import NodeClient.Proofs.Scalar.Data
import NodeClient.Proofs.Scalar.Canonical
import NodeClient.Proofs.Transaction.RoundTrip
import NodeClient.Proofs.Transaction.Acceptance
import NodeClient.Proofs.Transaction.Edits
import NodeClient.Proofs.Request.EstimateFee
import NodeClient.Proofs.Request.SubmitTransaction
import NodeClient.Proofs.Http.Outcome
import NodeClient.Proofs.Client.Steps
import NodeClient.Proofs.Client.Throng
import NodeClient.Proofs.Client.Points
import NodeClient.Proofs.Reply.SyncState
import NodeClient.Proofs.Client.ProbeAnswer
import NodeClient.Proofs.Client.CallProtocol
import NodeClient.Proofs.Client.Refreshes
import NodeClient.Proofs.Client.Crowd
import NodeClient.Proofs.Client.Cancellation
import NodeClient.Proofs.Client.Polls
import NodeClient.Proofs.Client.Counts
import NodeClient.Proofs.Probe.Heads
import NodeClient.Proofs.Probe.Played
import NodeClient.Proofs.Probe.Reports
import NodeClient.Proofs.Reply.RoundTrip
import NodeClient.Proofs.Client.Replies
import NodeClient.Proofs.Result
import NodeClient.Proofs.Text.Split
import NodeClient.Proofs.Url.Reading
import NodeClient.Proofs.Url.Masking
import NodeClient.Proofs.Client.Config
import NodeClient.Proofs.Client.Gauges
import NodeClient.Proofs.Reply.Passes
import NodeClient.Proofs.Codec.Apart
import NodeClient.Proofs.Transaction.Apart
import NodeClient.Proofs.Request.Params
import NodeClient.Proofs.Transaction.Classification
import NodeClient.Proofs.Text.Token
import NodeClient.Proofs.Token.Enumeration
import NodeClient.Proofs.Decimal.Digits
import NodeClient.Proofs.Decimal.Nearest
import NodeClient.Proofs.Request.BlockId
import NodeClient.Proofs.Codec.Additions
import NodeClient.Proofs.Reply.ForwardCompatibility
import NodeClient.Proofs.Hex.Decoding
import NodeClient.Proofs.Hex.Encoding
import NodeClient.Proofs.Scalar.Loss
import NodeClient.Proofs.Scalar.Literal
import NodeClient.Proofs.Scalar.Order
