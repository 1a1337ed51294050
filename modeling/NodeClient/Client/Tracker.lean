/-
  NodeClient.Client.Tracker
  ─────────────────────────
  The cached view of whether a node can be reached and has caught up with the chain.

  The view changes only through refreshes.  A refresh claims the slot, asks the node, stores what
  follows from the answer, publishes it and releases the slot.  A refresh that finds the slot
  taken does nothing.
-/
import NodeClient.Client.Log
import NodeClient.Client.Metrics
import NodeClient.Reply.SyncState

namespace NodeClient

open Json

/-! ## §1. Standings. -/

/-- How a node stands. -/
structure Standing where
  /-- The node can be reached. -/
  active : Bool := false
  /-- The node has caught up with the chain. -/
  synced : Bool := false
  deriving Repr, DecidableEq, Inhabited

namespace Standing

/-- How a node stands by the outcome of a probe. -/
def ofProbe : Except ClientError SyncState → Standing
  | .ok s => { active := true, synced := !s.syncing }
  | .error _ => {}

/-- The connection under which a standing is published.  A node that has caught up is published
as such, whatever else is stored of it. -/
def connection : Standing → Connection
  | ⟨_, true⟩ => .synced
  | ⟨true, false⟩ => .active
  | ⟨false, false⟩ => .inactive

end Standing

/-! ## §2. Gates. -/

/-- What a call needs of a node. -/
inductive Gate where
  /-- Nothing. -/
  | open
  | active
  | synced
  deriving Repr, DecidableEq

namespace Gate

/-- Whether a standing is good enough for the gate. -/
def admits : Gate → Standing → Bool
  | .open, _ => true
  | active, s => s.active
  | synced, s => s.synced

/-- Why a standing is not good enough after a refresh.  A node that cannot be reached is reported
as such, whatever else is asked of it. -/
def refusal? : Gate → Standing → Option ClientError
  | .open, _ => none
  | active, s => if s.active then none else some .notActive
  | synced, s =>
      if !s.active then some .notActive
      else if !s.synced then some .notSynced
      else none

end Gate

/-! ## §3. The tracker. -/

/-- The published values by connection, as far as there are any. -/
abbrev Gauges := Connection → Option Nat

/-- The tracker of a node. -/
structure Tracker where
  standing : Standing := {}
  /-- Whether a refresh holds the slot. -/
  busy : Bool := false
  gauges : Gauges := fun _ => none

namespace Tracker

instance : Inhabited Tracker := ⟨{}⟩

/-- Takes the slot, unless it is taken. -/
def claim (t : Tracker) : Option Tracker :=
  if t.busy then none else some { t with busy := true }

/-- Gives the slot back. -/
def release (t : Tracker) : Tracker := { t with busy := false }

/-- Stores a standing. -/
def store (s : Standing) (t : Tracker) : Tracker := { t with standing := s }

/-- Publishes the value of one connection under a standing: one for its own, zero for others. -/
def publish (s : Standing) (c : Connection) (t : Tracker) : Tracker :=
  { t with gauges := fun x => if x = c then some (if c = s.connection then 1 else 0)
                              else t.gauges x }

/-- Ends a refresh that found this standing. -/
def settle (s : Standing) (t : Tracker) : Tracker :=
  (Connection.all.foldl (fun t c => t.publish s c) (t.store s)).release

end Tracker

/-! ## §4. What is told. -/

/-- A probe has failed. -/
def LogEntry.probeFailed (cause : ClientError) : LogEntry where
  level := .debug
  message := "Failed to obtain sync state from node"
  fields := [("error", .string cause.message)]

/-- A refresh has found how the node stands. -/
def LogEntry.standingUpdated (was now : Standing) : LogEntry where
  level := .trace
  message := "Updated connection state"
  fields := [
    ("was_active", .bool was.active), ("active", .bool now.active),
    ("was_synced", .bool was.synced), ("synced", .bool now.synced)]

/-- What the end of a refresh tells that began under the standing `was`. -/
def refreshEntries (was : Standing) (outcome : Except ClientError SyncState) : List LogEntry :=
  let updated := LogEntry.standingUpdated was (.ofProbe outcome)
  match outcome with
  | .ok _ => [updated]
  | .error cause => [.probeFailed cause, updated]

end NodeClient
