/-
  NodeClient.Rehearsal.Script
  ───────────────────────────
  What is played with a client: the steps of its user, the replies of its node, and what is
  noted meanwhile.

  A rehearsal needs neither a network nor a clock.  A reply says what happens while its request
  is under way and what becomes of the request in the end.
-/
import NodeClient.Client.Service
import NodeClient.Http.Transport

namespace NodeClient.Rehearsal

open Json

/-! ## §1. Steps. -/

/-- A step of the user.  With `once`, a task that would have to wait is given up instead. -/
inductive Step where
  | cancel
  /-- Waits for some milliseconds. -/
  | advance (time : Nat)
  | check (once : Bool)
  /-- Asks the client who it is. -/
  | info
  | call (op : Operation) (once : Bool)
  /-- Something that is no step, and what is to be said about it. -/
  | refused (why : Value)

/-- What a step has come to. -/
inductive Result where
  | cancelled
  | advanced
  | checked
  /-- The task would have had to wait. -/
  | dropped
  | info (name address websocketAddress : String)
  | called (op : Operation) (result : Except ClientError op.Data)
  | refused (why : Value)

/-- The result of a task that has ended. -/
def Result.ofEnding : Ending → Result
  | .checked => checked
  | .called op result => called op result

/-- A result, with how the node stood afterwards. -/
structure Report where
  result : Result
  standing : Standing

/-! ## §2. Replies. -/

/-- A reply: first the steps that are taken while the request is under way, then perhaps the
client is cancelled, then perhaps there is no end to it, then the outcome. -/
structure Cue where
  during : List Step := []
  cancels : Bool := false
  hangs : Bool := false
  outcome : Except TransportError Value

/-- What is noted in the course of a rehearsal. -/
inductive Note where
  | log (entry : LogEntry)
  /-- The node has been sent a request. -/
  | sent (m : Method) (params : Value)
  /-- A server has received a request. -/
  | received (request : Http.Request)
  /-- A step that was taken during a request has ended. -/
  | during (report : Report)

/-- What carries requests to a node: what is noted and what becomes of the request. -/
structure Carrier (σ : Type) where
  carry : Method → Value → σ → List Note × Cue × σ

/-- The replies that each method still has. -/
abbrev Script := Method → List Cue

namespace Script

/-- The reply of a method without replies. -/
def silence : Cue := { outcome := .error (.invalid "no reply") }

/-- The next reply of a method; the last one is kept. -/
def next (script : Script) (m : Method) : Cue × Script :=
  match script m with
  | [] => (silence, script)
  | [cue] => (cue, script)
  | cue :: rest => (cue, fun x => if x = m then rest else script x)

/-- A node that answers by a script. -/
def carrier : Carrier Script where
  carry m params script :=
    let (cue, script) := script.next m
    ([.sent m params], cue, script)

end Script

end NodeClient.Rehearsal
