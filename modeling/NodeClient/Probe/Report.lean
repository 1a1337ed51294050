/-
  NodeClient.Probe.Report
  ───────────────────────
  What the probe tells: what a node says about itself, and what its polls find.
-/
import NodeClient.Client.Log
import NodeClient.Decimal.Nearest
import NodeClient.Http.Status
import NodeClient.Probe.Head
import NodeClient.Text.Utf8

namespace NodeClient

open Json

/-! ## §1. Chains of errors. -/

/-- What is wrong on the way to a URL, from the outermost error to the innermost. -/
def NetworkFault.chain (url : String) : NetworkFault → List String
  | unreachable => [sending, "client error (Connect)", "tcp connect error",
      "Connection refused (os error 111)"]
  | closed => [sending, "client error (SendRequest)",
      "connection closed before message completed"]
  | timedOut => [sending, "operation timed out"]
  | cutShort => ["error decoding response body", "request or response body error",
      "error reading a body from connection", "end of file before message length reached"]
  | stalled => ["error decoding response body", "request or response body error",
      "operation timed out"]
  | refused status =>
      let side := if Http.isClientError status then "client" else "server"
      ["HTTP status " ++ side ++ " error (" ++ toString status ++ ") for url (" ++ url ++ ")"]
where
  sending : String := "error sending request for url (" ++ url ++ ")"

/-- An error of a transport to a URL with the errors behind it. -/
def TransportError.chain (url : String) : TransportError → List String
  | network fault => fault.chain url
  | undecodable flaw => ["failed to decode JSON-RPC response", flaw.message]
  | e => e.message?.toList

/-- An error of a client with the errors behind it. -/
def ClientError.chain (url : String) (e : ClientError) : List String :=
  e.message :: match e with
    | callFailed _ cause => cause.chain url
    | undecodable _ cause | unencodable _ cause => [cause.message]
    | misconfigured (.invalidAddress cause) => [cause.message]
    | _ => []

namespace Probe

/-! ## §2. What a node says about itself. -/

/-- An entry about one side of the node. -/
structure Topic where
  op : Operation
  title : String
  field : String
  /-- What is told of what the call returns. -/
  text : op.Data → String
  failureLevel : Level
  /-- What it is that could not be fetched. -/
  subject : String

/-- What the probe asks a node about itself. -/
def topics : List Topic := [
  { op := .chainId, title := "Chain", field := "chain",
    text := fun d => Text.ofBytes d.bytes, failureLevel := .warn, subject := "chain id" },
  { op := .specVersion, title := "JSON-RPC specification", field := "version",
    text := id, failureLevel := .warn, subject := "specification version" },
  { op := .protocolVersion, title := "Starknet protocol", field := "version",
    text := id, failureLevel := .debug, subject := "protocol version" }]

/-- The entry for what the call of a topic returns. -/
def Topic.entry (t : Topic) : Except ClientError t.op.Data → LogEntry
  | .ok d =>
      { level := .info, message := t.title, fields := [(t.field, .string (t.text d))] }
  | .error e =>
      { level := t.failureLevel
        message := "Failed to fetch " ++ t.subject ++ ": " ++ e.message }

/-! ## §3. What the polls find. -/

/-- What is told of a poll of the node at a URL, and the head afterwards. -/
def pollEntries (url : String) (last : Head) (poll : Except PollError Head) : List LogEntry :=
  let failure := match poll with
    | .ok _ => []
    | .error e =>
        let chain := e.errand.title :: e.cause.chain url
        [{ level := .error
           message := "Failed to poll node: " ++ ": ".intercalate chain : LogEntry }]
  let polled : LogEntry :=
    { level := .debug, message := "Polled"
      fields := [("new", .string (last.after poll).text)] }
  failure ++ [polled]

/-! ## §4. What is reported of a head. -/

/-- What the probe reports. -/
structure Report where
  /-- An entry in the log. -/
  entry : LogEntry
  /-- The name of a gauge. -/
  gauge : String
  /-- What the gauge is set to: the number of missing blocks, as a binary64 number. -/
  missing : Nat

/-- The report of a head.  A gauge takes binary64 numbers, so the number is rounded. -/
def Head.report (h : Head) : Report where
  entry := {
    level := .info
    message := "node"
    fields := [
      ("synced", .bool h.synced), ("block", .ofNat h.blockNumber.toNat),
      ("highest", .ofNat h.highestBlockNumber.toNat)] }
  gauge := "blocks_missing"
  missing := Decimal.nearestBinary h.missing.toNat

end Probe

end NodeClient
