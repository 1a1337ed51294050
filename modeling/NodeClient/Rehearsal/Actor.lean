/-
  NodeClient.Rehearsal.Actor
  ──────────────────────────
  The tasks of one actor in a rehearsal.

  The steps taken during a request may be calls themselves, with requests during which further
  steps are taken.  So an actor has a stack of requests under way, the innermost first.  An actor
  goes on until it has to wait.  If one of its requests is of a task that must not wait, the
  innermost such task is given up, with all that goes on inside it, and the actor goes on.
-/
import NodeClient.Rehearsal.Script

namespace NodeClient.Rehearsal

open Json

/-! ## §1. What the actors share. -/

/-- The state of a rehearsal that all actors share. -/
structure Scene (σ : Type) where
  carrier : Carrier σ
  supply : σ
  service : Service
  metrics : Metrics := {}
  /-- The time in milliseconds. -/
  now : Nat := 0
  /-- Whether the client has started; before, no step is taken. -/
  started : Bool := false
  /-- What has been noted, the latest first. -/
  notes : List Note := []

namespace Scene

variable {σ : Type}

/-- Notes something. -/
def note (n : Note) (s : Scene σ) : Scene σ := { s with notes := n :: s.notes }

/-- Notes several things. -/
def noteAll (ns : List Note) (s : Scene σ) : Scene σ := { s with notes := ns.reverse ++ s.notes }

/-- Cancels the client. -/
def cancel (s : Scene σ) : Scene σ := { s with service := s.service.cancel }

end Scene

/-! ## §2. Requests under way. -/

/-- What is still to be done in a reply. -/
inductive Act where
  | step (s : Step)
  | cancel
  | hang

/-- What is to be done in a reply; before the client has started no step is. -/
def Cue.acts (c : Cue) (started : Bool) : List Act :=
  (if started then c.during.map .step else []) ++
    (if c.cancels then [.cancel] else []) ++ (if c.hangs then [.hang] else [])

/-- A request under way. -/
structure Frame where
  pending : Pending
  /-- Whether its task must not wait. -/
  once : Bool
  acts : List Act
  outcome : Except TransportError Value

/-- Until when an actor waits. -/
inductive Pause where
  | until (time : Nat)
  | forever

/-- How far an actor has got.  The frames are its requests under way, the innermost first. -/
inductive Move (σ : Type) where
  /-- It goes on. -/
  | on (frames : List Frame) (scene : Scene σ)
  /-- It waits. -/
  | wait (pause : Pause) (frames : List Frame) (scene : Scene σ)
  /-- Its step has ended. -/
  | back (result : Result) (scene : Scene σ)

/-! ## §3. Moves. -/

section

variable {σ : Type}

/-- A step has ended inside these frames. -/
def emit (result : Result) (frames : List Frame) (scene : Scene σ) : Move σ :=
  match frames with
  | [] => .back result scene
  | _ => .on frames (scene.note (.during ⟨result, scene.service.tracker.standing⟩))

/-- Follows a task to its next request or to its end. -/
def follow (turn : Turn) (once : Bool) (frames : List Frame) (scene : Scene σ) : Move σ :=
  let scene := { scene.noteAll (turn.entries.map .log) with service := turn.service }
  match turn.progress with
  | .ended e => emit (.ofEnding e) frames scene
  | .waiting p =>
      let (notes, cue, supply) := scene.carrier.carry p.method p.params scene.supply
      let (_, metrics) := ({ method := p.method.name } : Inquiry).poll none scene.metrics
      let acts := cue.acts scene.started
      .on (⟨p, once, acts, cue.outcome⟩ :: frames) { scene.noteAll notes with supply, metrics }

/-- Gives up the tasks of frames. -/
def giveUp (frames : List Frame) (scene : Scene σ) : Scene σ :=
  { scene with service := frames.foldl (fun s f => s.abandon f.pending) scene.service }

/-- The frames up to the innermost one of a task that must not wait, and those around it. -/
def cutOnce? : List Frame → Option (List Frame × List Frame)
  | [] => none
  | f :: rest =>
      if f.once then some ([f], rest)
      else (cutOnce? rest).map fun (inner, outer) => (f :: inner, outer)

/-- Waits, unless a task must not. -/
def hold (pause : Pause) (frames : List Frame) (scene : Scene σ) : Move σ :=
  match cutOnce? frames with
  | some (inner, outer) => emit .dropped outer (giveUp inner scene)
  | none => .wait pause frames scene

/-- Takes a step. -/
def perform (step : Step) (frames : List Frame) (scene : Scene σ) : Move σ :=
  let service := scene.service
  match step with
  | .cancel => emit .cancelled frames scene.cancel
  | .advance time => hold (.until (scene.now + time)) frames scene
  | .check once => follow (service.start .check) once frames scene
  | .info => emit (.info Service.name service.address service.websocketAddress) frames scene
  | .call op once => follow (service.start (.call op)) once frames scene
  | .refused why => emit (.refused why) frames scene

/-- Goes on with the innermost request. -/
def proceed (frames : List Frame) (scene : Scene σ) : Move σ :=
  match frames with
  | [] => .wait .forever [] scene
  | f :: rest =>
      match f.acts with
      | .step s :: acts => perform s ({ f with acts } :: rest) scene
      | .cancel :: acts => .on ({ f with acts } :: rest) scene.cancel
      | .hang :: _ => hold .forever frames scene
      | [] =>
          let inquiry : Inquiry := { method := f.pending.method.name, fate := .pending }
          let (_, metrics) := inquiry.poll (some f.outcome) scene.metrics
          let scene := { scene with metrics }
          follow (scene.service.answer f.pending f.outcome) f.once rest scene

/-- Goes on until the actor waits or its step has ended. -/
def run : (fuel : Nat) → Move σ → Move σ
  | fuel + 1, .on frames scene => run fuel (proceed frames scene)
  | _, move => move

/-- Whether an actor that waits can go on. -/
def isWoken (pause : Pause) (frames : List Frame) (scene : Scene σ) : Bool :=
  (scene.service.cancelled && !frames.isEmpty) ||
    match pause with
    | .until time => time ≤ scene.now
    | .forever => false

/-- Wakes an actor that waits.  The outermost task looks first whether the client is cancelled;
then it ends at once, and all that goes on inside it is given up. -/
def wake (pause : Pause) (frames : List Frame) (scene : Scene σ) : Move σ :=
  match frames.getLast?, scene.service.cancelled with
  | some outer, true =>
      let scene := giveUp frames.dropLast scene
      follow (scene.service.interrupt outer.pending) outer.once [] scene
  | _, _ =>
      match pause with
      | .until _ => emit .advanced frames scene
      | .forever => .wait pause frames scene

end

end NodeClient.Rehearsal
