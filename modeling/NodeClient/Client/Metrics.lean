/-
  NodeClient.Client.Metrics
  ─────────────────────────
  What is counted about requests, and the names under which it is published.

  Opening a request counts it at once.  A request that comes to an end has its duration
  recorded, and counts as failed if it has no result: once on its own and once under the reason.
  A request that is given up is only counted as opened.
-/
import NodeClient.Client.Error

namespace NodeClient

open Json

/-! ## §1. Reasons of failure. -/

/-- Of which kind a failure is. -/
inductive FailureReason where
  | decode | rpc | timeout | transport
  deriving Repr, DecidableEq

namespace FailureReason

def all : List FailureReason := [decode, rpc, timeout, transport]

def name : FailureReason → String
  | decode => "decode"
  | rpc => "rpc"
  | timeout => "timeout"
  | transport => "transport"

theorem mem_all (r : FailureReason) : r ∈ all := by cases r <;> decide

end FailureReason

/-- The reason under which a failure counts.  A body that cannot be read is no question of time,
whatever ended it. -/
def TransportError.reason : TransportError → FailureReason
  | node _ => .rpc
  | undecodable _ | invalid _ => .decode
  | network fault =>
      if fault.isBodyFault then .decode
      else if fault.isTimeout then .timeout
      else .transport

/-! ## §2. Series. -/

/-- What a node is to the client. -/
inductive Connection where
  | inactive | active | synced
  deriving Repr, DecidableEq

namespace Connection

def all : List Connection := [inactive, active, synced]

def name : Connection → String
  | inactive => "inactive"
  | active => "active"
  | synced => "synced"

theorem mem_all (c : Connection) : c ∈ all := by cases c <;> decide

end Connection

/-- A series of measurements.  Requests are told apart by what their method is called, whether or
not the client knows of such a method. -/
inductive Series where
  | requests (method : String)
  | failures (method : String)
  | failuresFor (method : String) (r : FailureReason)
  | durations (method : String)
  | connection (c : Connection)
  deriving Repr, DecidableEq

namespace Series

/-- A name with labels in braces. -/
def named (name : String) (labels : List (String × String)) : String :=
  let pairs := labels.map fun (k, v) => k ++ "=" ++ v
  name ++ "\x7b" ++ ",".intercalate pairs ++ "\x7d"

/-- The name of a series, with its kind in front. -/
def name : Series → String
  | requests method => named "counter rpc_client_requests_total" [("method", method)]
  | failures method => named "counter rpc_client_requests_failed_total" [("method", method)]
  | failuresFor method r =>
      named "counter rpc_client_requests_failed_total" [("method", method), ("reason", r.name)]
  | durations method => named "histogram rpc_client_request_duration_seconds" [("method", method)]
  | connection c => named "gauge rpc_client_connection_state" [("state", c.name)]

/-- The names of the methods whose series are published from the start. -/
def methods : List String := [
  "starknet_addInvokeTransaction",
  "starknet_blockHashAndNumber",
  "starknet_blockNumber",
  "starknet_call",
  "starknet_chainId",
  "starknet_estimateFee",
  "starknet_getBlockWithReceipts",
  "starknet_getEvents",
  "starknet_getNonce",
  "starknet_protocolVersion",
  "starknet_specVersion",
  "starknet_syncing"]

/-- The series that are published from the start. -/
def registered : List Series :=
  methods.map requests ++ methods.map failures ++ methods.map durations ++
    FailureReason.all.flatMap (fun r => methods.map (failuresFor · r)) ++
    Connection.all.map connection

end Series

/-! ## §3. Counting. -/

/-- How often each series has been counted or recorded. -/
structure Metrics where
  count : Series → Nat := fun _ => 0

namespace Metrics

instance : Inhabited Metrics := ⟨{}⟩

/-- One more in a series. -/
def bump (s : Series) (t : Metrics) : Metrics where
  count x := if x = s then t.count x + 1 else t.count x

/-- A request has been opened. -/
def opened (method : String) (t : Metrics) : Metrics := t.bump (.requests method)

/-- A request has come to an end with an outcome. -/
def settled (method : String) (outcome : Except TransportError Value) (t : Metrics) : Metrics :=
  let t := t.bump (.durations method)
  match outcome with
  | .ok _ => t
  | .error e => (t.bump (.failures method)).bump (.failuresFor method e.reason)

/-- The series that have been counted, with their counts. -/
def report (t : Metrics) : List (Series × Nat) :=
  (Series.registered.map fun s => (s, t.count s)).filter fun (_, n) => n ≠ 0

end Metrics

/-! ## §4. Requests. -/

/-- What has become of a request. -/
inductive Fate where
  /-- It has been made, but not been polled. -/
  | made
  | pending
  | ended (outcome : Except TransportError Value)
  /-- It has been given up while it was pending. -/
  | dropped
  /-- It has been given up before it was polled. -/
  | unused

/-- A request for a method. -/
structure Inquiry where
  method : String
  fate : Fate := .made

namespace Inquiry

/-- What a poll makes of a request and of the metrics.  The first one counts the request. -/
def poll (outcome : Option (Except TransportError Value)) (e : Inquiry) (t : Metrics) :
    Inquiry × Metrics :=
  let t := match e.fate with
    | .made => t.opened e.method
    | _ => t
  match outcome with
  | none => ({ e with fate := .pending }, t)
  | some outcome => ({ e with fate := .ended outcome }, t.settled e.method outcome)

/-- What becomes of a request that is given up. -/
def drop (e : Inquiry) : Inquiry where
  method := e.method
  fate := match e.fate with
    | .made => .unused
    | .pending => .dropped
    | other => other

end Inquiry

end NodeClient
