/-
  NodeClient.Rehearsal.Play
  ─────────────────────────
  A rehearsal of a client from its start on.

  There are two actors: the user, who takes one step after the other, and the keeper, who checks
  in the background how the node stands.  One of them acts at a time and goes on until it has to
  wait.  The clock stands still while anyone can act; then it jumps to the next time for which
  someone waits.  If the times of both have come, the user is first.
-/
import NodeClient.Rehearsal.Actor

namespace NodeClient.Rehearsal

open Json

/-- The steps after which a rehearsal is cut off. -/
def horizon : Nat := 10000000

/-! ## §1. The state of a rehearsal. -/

/-- An actor with requests under way or a time to wait for. -/
structure Waiting where
  pause : Pause
  frames : List Frame

/-- The time for which an actor waits. -/
def Waiting.time? (w : Waiting) : Option Nat :=
  match w.pause with
  | .until time => some time
  | .forever => none

/-- What a step of the user has come to, and what has been noted up to its end. -/
structure Answer where
  report : Report
  notes : List Note

/-- The state of a rehearsal. -/
structure Play (σ : Type) where
  scene : Scene σ
  /-- What the user waits for. -/
  user : Option Waiting := none
  /-- The steps that the user has not taken yet. -/
  todo : List Step
  /-- The answers to the user's steps, the latest first. -/
  answers : List Answer := []
  /-- What the keeper waits for in a check that is under way. -/
  keeper : Option Waiting := none
  /-- When the keeper checks next, if it ever does. -/
  due : Option Nat := none

namespace Play

variable {σ : Type}

/-- The notes, in their order, and the scene without them. -/
def collect (scene : Scene σ) : List Note × Scene σ :=
  (scene.notes.reverse, { scene with notes := [] })

/-! ## §2. The user. -/

/-- Has the user take the steps from where a move has got to, until it waits or has none left. -/
def userSteps (fuel : Nat) (move : Move σ) :
    (todo : List Step) → (answers : List Answer) → Play σ → Play σ
  | todo, answers, p =>
      match run fuel move with
      | .on frames scene => { p with scene, user := some ⟨.forever, frames⟩, todo, answers }
      | .wait pause frames scene => { p with scene, user := some ⟨pause, frames⟩, todo, answers }
      | .back result scene =>
          let standing := scene.service.tracker.standing
          let (notes, scene) := collect scene
          let answers := ⟨⟨result, standing⟩, notes⟩ :: answers
          match todo with
          | [] => { p with scene, user := none, todo, answers }
          | step :: todo => userSteps fuel (perform step [] scene) todo answers p

/-- Has the user act. -/
def actUser (fuel : Nat) (p : Play σ) : Play σ :=
  match p.user with
  | some w => userSteps fuel (wake w.pause w.frames p.scene) p.todo p.answers p
  | none =>
      match p.todo with
      | [] => p
      | step :: todo => userSteps fuel (perform step [] p.scene) todo p.answers p

/-- Whether the user can act. -/
def isUserWoken (p : Play σ) : Bool :=
  match p.user with
  | some w => isWoken w.pause w.frames p.scene
  | none => !p.todo.isEmpty

/-! ## §3. The keeper. -/

/-- Where the keeper is after a move. -/
def keeperMoved (p : Play σ) : Move σ → Play σ
  | .on frames scene => { p with scene, keeper := some ⟨.forever, frames⟩ }
  | .wait pause frames scene => { p with scene, keeper := some ⟨pause, frames⟩ }
  | .back _ scene => { p with scene, keeper := none }

/-- Has the keeper act until it waits.  It stops when the client is cancelled.  A check for
which the time has come while another was under way follows at once. -/
def actKeeper (fuel : Nat) : (rounds : Nat) → Play σ → Play σ
  | 0, p => p
  | rounds + 1, p =>
      match p.keeper, p.due with
      | some w, _ =>
          if isWoken w.pause w.frames p.scene then
            actKeeper fuel rounds (p.keeperMoved (run fuel (wake w.pause w.frames p.scene)))
          else p
      | none, some due =>
          if p.scene.service.cancelled then { p with due := none }
          else if due ≤ p.scene.now then
            let p := { p with due := some (due + Service.refreshInterval) }
            let turn := p.scene.service.start .check
            actKeeper fuel rounds (p.keeperMoved (run fuel (follow turn false [] p.scene)))
          else p
      | none, none => p

/-! ## §4. The clock. -/

/-- The next time for which anyone waits. -/
def nextTime? (p : Play σ) : Option Nat :=
  let keeper := match p.keeper with
    | some w => w.time?
    | none => p.due
  let user := p.user.bind (·.time?)
  match user, keeper with
  | some a, some b => some (min a b)
  | some a, none => some a
  | none, time => time

/-- Plays until the user has no steps left, or nobody can ever act. -/
def playOn : (fuel : Nat) → Play σ → Play σ
  | 0, p => p
  | fuel + 1, p =>
      let p := if p.isUserWoken then p.actUser horizon else p
      if p.user.isNone && p.todo.isEmpty then p
      else
        let p := p.actKeeper horizon horizon
        if p.isUserWoken then playOn fuel p
        else
          match p.nextTime? with
          | some time => playOn fuel { p with scene := { p.scene with now := max time p.scene.now } }
          | none => p

end Play

/-! ## §5. The whole. -/

/-- How the start of a client has gone. -/
structure Opening (σ : Type) where
  scene : Scene σ
  /-- What was noted, the start itself included. -/
  notes : List Note
  failure : Option ClientError := none

/-- Starts a client: it checks how the node stands, and then starts if it may. -/
def begin {σ : Type} (config : Config) (carrier : Carrier σ) (supply : σ) (cancelled : Bool) :
    Opening σ :=
  let service := { Service.ofConfig config with cancelled }
  let scene : Scene σ := { carrier, supply, service }
  let p : Play σ := { scene, todo := [.check false] }
  let scene := (p.playOn horizon).scene
  let notes := (((p.playOn horizon).answers.reverse.map (·.notes)).flatten) ++ scene.notes.reverse
  let scene := { scene with notes := [] }
  match scene.service.launch config with
  | .error failure => { scene, notes, failure := some failure }
  | .ok entry => { scene := { scene with started := true }, notes := notes ++ [.log entry] }

/-- Has the user of a client that has started take steps. -/
def Opening.steps {σ : Type} (o : Opening σ) (todo : List Step) : List Answer × Scene σ :=
  let due := some (o.scene.now + Service.refreshInterval)
  let p : Play σ := { scene := o.scene, todo, due }
  let p := p.playOn horizon
  (p.answers.reverse, p.scene)

end NodeClient.Rehearsal
