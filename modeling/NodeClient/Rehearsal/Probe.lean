/-
  NodeClient.Rehearsal.Probe
  ──────────────────────────
  What is played with a probe: a client that has started is asked by the probe, one call after
  the other.
-/
import NodeClient.Probe.Report
import NodeClient.Rehearsal.Play

namespace NodeClient.Rehearsal

open Probe

variable {σ : Type}

/-- Calls the client; a call that never ends counts as cancelled. -/
def callNow (op : Operation) : StateM (Scene σ) (Except ClientError op.Data) := fun scene =>
  match run horizon (perform (.call op false) [] scene) with
  | .back (.called other result) scene =>
      if h : other = op then (h ▸ result, scene) else (.error .cancelled, scene)
  | .back _ scene | .wait _ _ scene | .on _ scene => (.error .cancelled, scene)

/-- Notes entries of the log. -/
def tell (entries : List LogEntry) : StateM (Scene σ) Unit :=
  modify (·.noteAll (entries.map .log))

/-- The notes since they were taken last. -/
def takeNotes : StateM (Scene σ) (List Note) := fun scene =>
  (scene.notes.reverse, { scene with notes := [] })

/-- Has the probe tell what the node says about itself. -/
def describe : StateM (Scene σ) (List Note) := do
  for topic in topics do
    tell [topic.entry (← callNow topic.op)]
  takeNotes

/-- Has the probe poll the node some times: each head with what was noted. -/
def polls (url : String) : (count : Nat) → (last : Head) → StateM (Scene σ) (List (Head × List Note))
  | 0, _ => return []
  | count + 1, last => do
      let poll ← Head.poll callNow
      tell (pollEntries url last poll)
      let notes ← takeNotes
      let head := last.after poll
      return (head, notes) :: (← polls url count head)

end NodeClient.Rehearsal
