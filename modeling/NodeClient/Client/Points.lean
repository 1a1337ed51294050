/-
  NodeClient.Client.Points
  ────────────────────────
  The steps of a task, one look at what the tasks share at a time.

  A task runs through points.  At each of them it finds the service as the others have left it,
  reads or writes one thing, and goes on to the next point.  Another refresh may so take the slot
  after a call has found the node in a bad standing, or store a new standing before the call looks
  again.  A turn of a task (`Service.start`, `Service.wake`) is what its steps come to with nobody
  in between.
-/
import NodeClient.Client.Service

namespace NodeClient

open Json

/-- How far a task has got. -/
inductive Point where
  /-- A call begins. -/
  | entering (op : Operation)
  /-- A refresh begins. -/
  | noting (task : Task)
  /-- The refresh has noted a standing and tries the slot. -/
  | claiming (task : Task) (was : Standing)
  /-- The refresh holds the slot and makes its request. -/
  | asking (task : Task) (was : Standing)
  /-- A request is at the transport. -/
  | waiting (p : Pending)
  /-- The probe has this outcome. -/
  | storing (task : Task) (was : Standing) (outcome : Except ClientError SyncState)
  /-- The refresh has stored a standing and has still to publish it for these connections. -/
  | publishing (task : Task) (now : Standing) (left : List Connection)
  /-- The refresh is over, whether or not it has got the slot. -/
  | looking (task : Task)
  /-- The call has passed its gate and makes its request. -/
  | sending (op : Operation)
  | ended (e : Ending)

/-- Where a task begins. -/
def Task.entrance : Task → Point
  | .check => .noting .check
  | .call op => .entering op

namespace Pending

/-- Where a task goes on whose request has this outcome. -/
def answered (outcome : Except TransportError Value) : Pending → Point
  | probing task was =>
      .storing task was (Method.syncing.receive Operation.syncing.read outcome)
  | calling op => .ended (.called op (op.method.receive op.read outcome))

/-- Where a task goes on that finds the client cancelled while it waits. -/
def interrupted : Pending → Point
  | probing task was => .storing task was (.error .cancelled)
  | calling op => .ended (.called op (.error .cancelled))

end Pending

/-- What one step of a task comes to: the service afterwards, what is told, what is handed to the
transport, and the next point. -/
structure Pace where
  service : Service
  entries : List LogEntry := []
  sent : Option Pending := none
  point : Point

namespace Service

/-- A call looks at its request, and at how the node stands. -/
def enter (op : Operation) (s : Service) : Pace :=
  match op.flaw? with
  | some reason =>
      { service := s, point := .ended (.called op (.error (.invalidOptions reason))) }
  | none =>
      if op.gate.admits s.tracker.standing then { service := s, point := .sending op }
      else { service := s, point := .noting (.call op) }

/-- A refresh tries the slot. -/
def tryClaim (task : Task) (was : Standing) (s : Service) : Pace :=
  match s.tracker.claim with
  | none => { service := s, point := .looking task }
  | some tracker => { service := { s with tracker }, point := .asking task was }

/-- A refresh makes its request, unless the client is cancelled. -/
def ask (task : Task) (was : Standing) (s : Service) : Pace :=
  if s.cancelled then { service := s, point := .storing task was (.error .cancelled) }
  else { service := s, sent := some (.probing task was), point := .waiting (.probing task was) }

/-- A task looks whether the client is cancelled, and what its request has come to. -/
def await (p : Pending) (outcome : Option (Except TransportError Value)) (s : Service) : Pace :=
  if s.cancelled then { service := s, point := p.interrupted }
  else
    match outcome with
    | some outcome => { service := s, point := p.answered outcome }
    | none => { service := s, point := .waiting p }

/-- A refresh stores what follows from the outcome of its probe. -/
def store (task : Task) (was : Standing) (outcome : Except ClientError SyncState) (s : Service) :
    Pace :=
  let now := Standing.ofProbe outcome
  { service := { s with tracker := s.tracker.store now }
    entries := refreshEntries was outcome
    point := .publishing task now Connection.all }

/-- A refresh publishes its standing for one connection, or gives the slot back. -/
def publish (task : Task) (now : Standing) (s : Service) : List Connection → Pace
  | c :: left =>
      { service := { s with tracker := s.tracker.publish now c }
        point := .publishing task now left }
  | [] => { service := { s with tracker := s.tracker.release }, point := .looking task }

/-- A task looks again how the node stands. -/
def look (task : Task) (s : Service) : Pace :=
  match task with
  | .check => { service := s, point := .ended .checked }
  | .call op =>
      match op.gate.refusal? s.tracker.standing with
      | some e => { service := s, point := .ended (.called op (.error e)) }
      | none => { service := s, point := .sending op }

/-- A call makes its request, unless the client is cancelled. -/
def send (op : Operation) (s : Service) : Pace :=
  if s.cancelled then { service := s, point := .ended (.called op (.error .cancelled)) }
  else { service := s, sent := some (.calling op), point := .waiting (.calling op) }

/-- One step of a task.  If its request is at the transport, it has this outcome or none so far. -/
def step (s : Service) (outcome : Option (Except TransportError Value)) : Point → Pace
  | .entering op => s.enter op
  | .noting task => { service := s, point := .claiming task s.tracker.standing }
  | .claiming task was => s.tryClaim task was
  | .asking task was => s.ask task was
  | .waiting p => s.await p outcome
  | .storing task was outcome => s.store task was outcome
  | .publishing task now left => s.publish task now left
  | .looking task => s.look task
  | .sending op => s.send op
  | .ended e => { service := s, point := .ended e }

end Service

end NodeClient
