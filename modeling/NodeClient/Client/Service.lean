/-
  NodeClient.Client.Service
  ─────────────────────────
  The calls of a client, as tasks that wait for the node.

  A task is started, and from then on it either waits with one request at the transport or has
  ended.  While it waits, the request can be answered, the client can be cancelled, or the task
  can be given up.  Several tasks can wait at the same time; what they share is the service.

  A call goes through its gate first.  If the node does not stand well enough, the call refreshes
  the tracker once, which asks the node how it is syncing, and then looks again.

  A turn of a task is here what its looks and writes come to with nobody in between, as where all
  tasks share one thread.  `Client/Points` takes them one by one, and `Proofs/Client/Points` shows
  that a turn is nothing else.
-/
import NodeClient.Client.Config
import NodeClient.Client.Operation

namespace NodeClient

open Json

/-! ## §1. Tasks. -/

/-- What the tasks of a client share. -/
structure Service where
  /-- The endpoint as it may stand in logs. -/
  address : String
  websocketAddress : String
  tracker : Tracker := {}
  cancelled : Bool := false

/-- What a client does. -/
inductive Task where
  /-- Finds out how the node stands. -/
  | check
  | call (op : Operation)

/-- A task that waits with a request at the transport. -/
inductive Pending where
  /-- The task refreshes the tracker, since the node stood like `was`. -/
  | probing (task : Task) (was : Standing)
  /-- The call has passed its gate. -/
  | calling (op : Operation)

/-- How a task has ended. -/
inductive Ending where
  | checked
  | called (op : Operation) (result : Except ClientError op.Data)

/-- Where a task has got to. -/
inductive Progress where
  | waiting (p : Pending)
  | ended (e : Ending)

namespace Pending

/-- The method of the request at the transport. -/
def method : Pending → Method
  | probing _ _ => .syncing
  | calling op => op.method

/-- The parameters of the request at the transport. -/
def params : Pending → Value
  | probing _ _ => Operation.syncing.params
  | calling op => op.params

end Pending

/-- What a step of a task comes to: the service afterwards, what is told, and where the task has
got to. -/
structure Turn where
  service : Service
  entries : List LogEntry := []
  progress : Progress

namespace Service

/-! ## §2. Steps. -/

/-- Ends a call. -/
def finish (op : Operation) (result : Except ClientError op.Data) (s : Service) : Turn where
  service := s
  progress := .ended (.called op result)

/-- Hands the request of a call to the transport, unless the client is cancelled. -/
def dispatch (op : Operation) (s : Service) : Turn :=
  if s.cancelled then s.finish op (.error .cancelled)
  else { service := s, progress := .waiting (.calling op) }

/-- Goes on after a refresh. -/
def proceed (task : Task) (s : Service) : Turn :=
  match task with
  | .check => { service := s, progress := .ended .checked }
  | .call op =>
      match op.gate.refusal? s.tracker.standing with
      | some e => s.finish op (.error e)
      | none => s.dispatch op

/-- Ends the refresh of a task by the outcome of its probe. -/
def conclude (task : Task) (was : Standing) (outcome : Except ClientError SyncState)
    (s : Service) : Turn :=
  let turn := { s with tracker := s.tracker.settle (.ofProbe outcome) }.proceed task
  { turn with entries := refreshEntries was outcome ++ turn.entries }

/-- Refreshes the tracker for a task.  If another refresh is under way the task goes on at once,
here by the same standing; with others in between it may find that a new one has been stored. -/
def refresh (task : Task) (s : Service) : Turn :=
  match s.tracker.claim with
  | none => s.proceed task
  | some tracker =>
      let was := s.tracker.standing
      let s := { s with tracker }
      if s.cancelled then s.conclude task was (.error .cancelled)
      else { service := s, progress := .waiting (.probing task was) }

/-- Starts a task. -/
def start (task : Task) (s : Service) : Turn :=
  match task with
  | .check => s.refresh .check
  | .call op =>
      match op.flaw? with
      | some reason => s.finish op (.error (.invalidOptions reason))
      | none =>
          if op.gate.admits s.tracker.standing then s.dispatch op else s.refresh (.call op)

/-- Goes on with a task whose request has had this outcome. -/
def answer (p : Pending) (outcome : Except TransportError Value) (s : Service) : Turn :=
  match p with
  | .probing task was =>
      s.conclude task was (Method.syncing.receive Operation.syncing.read outcome)
  | .calling op => s.finish op (op.method.receive op.read outcome)

/-- Goes on with a task that finds the client cancelled while it waits. -/
def interrupt (p : Pending) (s : Service) : Turn :=
  match p with
  | .probing task was => s.conclude task was (.error .cancelled)
  | .calling op => s.finish op (.error .cancelled)

/-- Gives a task up. -/
def abandon (p : Pending) (s : Service) : Service :=
  match p with
  | .probing _ _ => { s with tracker := s.tracker.release }
  | .calling _ => s

/-- Wakes a task that waits.  That the client is cancelled comes before the outcome of the
request. -/
def wake (p : Pending) (outcome : Option (Except TransportError Value)) (s : Service) : Turn :=
  if s.cancelled then s.interrupt p
  else
    match outcome with
    | some outcome => s.answer p outcome
    | none => { service := s, progress := .waiting p }

/-- Cancels every task. -/
def cancel (s : Service) : Service := { s with cancelled := true }

/-! ## §3. The start of a client. -/

/-- The service of a client that has not started. -/
def ofConfig (c : Config) : Service :=
  { address := c.address, websocketAddress := c.websocketAddress }

/-- By what name the client goes. -/
def name : String := "json-rpc"

/-- The client has started. -/
def startedEntry (s : Service) : LogEntry where
  level := .debug
  message := "JSON-RPC client started"
  fields := [
    ("address", .string s.address),
    ("active", .string (toString s.tracker.standing.active)),
    ("synced", .string (toString s.tracker.standing.synced))]

/-- Whether a client can start after its first check. -/
def launch (c : Config) (s : Service) : Except ClientError LogEntry :=
  if s.tracker.standing.active || c.allowDelayedStart then .ok s.startedEntry
  else .error .notActive

/-- The time between two checks in the background, in milliseconds. -/
def refreshInterval : Nat := 30000

end Service

end NodeClient
