/-
  NodeClient.Proofs.Probe.Played
  ──────────────────────────────
  What is played with a probe is a series of heads.

  In a rehearsal a call is played to its end, with all that goes on during its requests, and it
  still returns only what an answer reads as (`callNow_read`): whoever ends, and in whichever
  frame, ends with a turn of the service, and a turn is some steps of a task.  So what is known of
  the heads of a probe holds of those that are played.

  Main results: `polls_heads`, `follows_polls`.
-/
import NodeClient.Proofs.Probe.Heads
import NodeClient.Rehearsal.Probe

namespace NodeClient

open Json

/-! ## §1. Turns. -/

theorem Point.Of.rush {task : Task} {n : Nat} {point : Point} (h : point.Of task n) (s : Service)
    (k : Nat) : ∃ m, (s.rush k point).point.Of task m := by
  induction k generalizing s n point with
  | zero => exact ⟨n, h⟩
  | succ k ih =>
      obtain ⟨m, hnext, _⟩ := h.step s none
      exact ih hnext _

/-- A turn that ends a call ends it with what an answer reads as, or with an error. -/
def Turn.Told (turn : Turn) : Prop :=
  ∀ op result, turn.progress = .ended (.called op result) → op.Read result

/-- A turn is told if it is some steps of a task. -/
theorem Turn.told_of_rush {turn : Turn} {task : Task} {n k : Nat} {s : Service} {point : Point}
    (h : point.Of task n) (hturn : s.rush k point = turn.pace) : turn.Told := by
  obtain ⟨m, hpoint⟩ := h.rush s k
  intro op result hended
  have hpace : (s.rush k point).point = .ended (.called op result) := by
    rw [hturn]
    unfold pace
    rw [hended]
  rw [hpace] at hpoint
  cases hpoint with
  | ended hends =>
      cases hends with
      | called hread => exact hread

namespace Service

theorem told_start (task : Task) (s : Service) : (s.start task).Told := by
  have hturn := s.rush_entrance 0 task
  cases task with
  | check => exact Turn.told_of_rush (.noting .check) hturn
  | call op => exact Turn.told_of_rush (.entering op) hturn

theorem told_answer (p : Pending) (outcome : Except TransportError Value) (s : Service) :
    (s.answer p outcome).Told := by
  have hturn := s.rush_answered 0 p outcome
  cases p with
  | probing task was => exact Turn.told_of_rush (.storing task was _) hturn
  | calling op => exact Turn.told_of_rush (.ended (.called (op.read_receive outcome))) hturn

end Service

/-! ## §2. Moves. -/

namespace Rehearsal

variable {σ : Type}

/-- A call returns what an answer reads as. -/
def Result.Told : Result → Prop
  | called op result => op.Read result
  | _ => True

/-- If a step has ended, it has ended so. -/
def Move.Told : Move σ → Prop
  | back result _ => result.Told
  | _ => True

theorem told_emit {result : Result} (h : result.Told) (frames : List Frame) (scene : Scene σ) :
    (emit result frames scene).Told := by
  cases frames with
  | nil => exact h
  | cons f rest => trivial

theorem told_follow {turn : Turn} (h : turn.Told) (once : Bool) (frames : List Frame)
    (scene : Scene σ) : (follow turn once frames scene).Told := by
  unfold follow
  split
  · next e hended =>
      refine told_emit ?_ frames _
      cases e with
      | checked => trivial
      | called op result => exact h op result hended
  · trivial

theorem told_hold (pause : Pause) (frames : List Frame) (scene : Scene σ) :
    (hold pause frames scene).Told := by
  unfold hold
  split
  · exact told_emit (by trivial) _ _
  · trivial

theorem told_perform (step : Step) (frames : List Frame) (scene : Scene σ) :
    (perform step frames scene).Told := by
  cases step with
  | cancel => exact told_emit (by trivial) frames _
  | advance time => exact told_hold _ frames scene
  | check once => exact told_follow (Service.told_start .check _) once frames scene
  | info => exact told_emit (by trivial) frames scene
  | call op once => exact told_follow (Service.told_start (.call op) _) once frames scene
  | refused why => exact told_emit (by trivial) frames scene

theorem told_proceed (frames : List Frame) (scene : Scene σ) : (proceed frames scene).Told := by
  cases frames with
  | nil => trivial
  | cons f rest =>
      dsimp only [proceed]
      split
      · exact told_perform _ _ scene
      · trivial
      · exact told_hold _ _ scene
      · exact told_follow (Service.told_answer f.pending f.outcome _) f.once rest _

theorem told_run (fuel : Nat) {move : Move σ} (h : move.Told) : (run fuel move).Told := by
  induction fuel generalizing move with
  | zero => exact h
  | succ fuel ih =>
      cases move with
      | on frames scene => exact ih (told_proceed frames scene)
      | wait pause frames scene => trivial
      | back result scene => exact h

/-- **A call that is played returns only what an answer reads as.** -/
theorem callNow_read (op : Operation) (scene : Scene σ) : op.Read (callNow op scene).1 := by
  have htold := told_run horizon (told_perform (.call op false) [] scene)
  unfold callNow
  split
  · next other result after hrun =>
      rw [hrun] at htold
      split
      · next h =>
          subst h
          exact htold
      · exact op.read_error _
  · exact op.read_error _
  · exact op.read_error _
  · exact op.read_error _

/-! ## §3. Polls. -/

open Probe

/-- What a poll finds that is played follows from the numbers of blocks. -/
theorem sound_of_poll {scene : Scene σ} {h : Head}
    (hpoll : (Head.poll callNow scene).1 = .ok h) : h.Sound := by
  have hread := callNow_read .syncing scene
  dsimp only [Head.poll, bind, StateT.bind, pure] at hpoll
  generalize callNow .syncing scene = asked at hpoll hread
  obtain ⟨answer, after⟩ := asked
  cases answer with
  | error cause => cases hpoll
  | ok s =>
      dsimp only at hpoll
      split at hpoll
      · next hsyncing =>
          cases hpoll
          obtain ⟨v, hv⟩ := hread s rfl
          rw [SyncState.syncing_of_read hv] at hsyncing
          exact Head.sound_behind (of_decide_eq_true hsyncing)
      · dsimp only [StateT.bind] at hpoll
        generalize callNow .blockHashAndNumber after = asked at hpoll
        obtain ⟨answer, after⟩ := asked
        cases answer with
        | error cause => cases hpoll
        | ok b =>
            cases hpoll
            exact Head.sound_caughtUp b

/-- What the polls find that are played. -/
def found (url : String) : (count : Nat) → (last : Head) → Scene σ → List (Except PollError Head)
  | 0, _, _ => []
  | count + 1, last, scene =>
      let (poll, asked) := Head.poll callNow scene
      let told := (tell (pollEntries url last poll) asked).2
      poll :: found url count (last.after poll) (takeNotes told).2

theorem length_found (url : String) (count : Nat) (last : Head) (scene : Scene σ) :
    (found url count last scene).length = count := by
  induction count generalizing last scene with
  | zero => rfl
  | succ count ih => exact congrArg Nat.succ (ih _ _)

/-- Each poll that succeeds finds whether the node is behind from the numbers of blocks. -/
theorem sound_of_mem_found (url : String) (count : Nat) (last : Head) (scene : Scene σ) :
    ∀ h, .ok h ∈ found url count last scene → h.Sound := by
  induction count generalizing last scene with
  | zero => simp [found]
  | succ count ih =>
      intro h hmem
      rcases List.mem_cons.mp hmem with hpoll | hmem
      · exact sound_of_poll hpoll.symm
      · exact ih _ _ h hmem

/-- **The heads that are played are those of the polls that are.** -/
theorem polls_heads (url : String) (count : Nat) (last : Head) (scene : Scene σ) :
    (polls url count last scene).1.map Prod.fst
      = Head.series last (found url count last scene) := by
  induction count generalizing last scene with
  | zero => rfl
  | succ count ih => exact congrArg (last.after (Head.poll callNow scene).1 :: ·) (ih _ _)

theorem follows_polls (url : String) (count : Nat) (scene : Scene σ) :
    Head.Follows (found url count {} scene) ((polls url count {} scene).1.map Prod.fst) := by
  rw [polls_heads]
  exact Head.follows_series (sound_of_mem_found url count {} scene)

end Rehearsal

end NodeClient
