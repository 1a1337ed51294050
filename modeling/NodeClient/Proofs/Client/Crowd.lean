/-
  NodeClient.Proofs.Client.Crowd
  ──────────────────────────────
  **The tasks of one client, in any order of their turns.**

  Tasks are started, woken and given up, and the client may be cancelled.  A turn is what the steps
  of a task come to with nobody in between, so a client that takes turns is one whose tasks take
  their steps one by one, between two turns (`Crowd.Reached.exists_throng`).  What is known of
  single steps, and so of refreshes, holds of it.

  Main result: `refreshes_exclusive`.
-/
import NodeClient.Proofs.Client.Throng

namespace NodeClient

open Json

/-! ## §1. Turns. -/

/-- What a task waits with, if it waits. -/
def Progress.pending? : Progress → Option Pending
  | waiting p => some p
  | ended _ => none

/-- A client with its tasks, by a number that each has while it waits. -/
structure Crowd where
  service : Service
  tasks : Nat → Option Pending := fun _ => none

namespace Crowd

/-- The task with the number has had a turn. -/
def follow (n : Nat) (turn : Turn) (c : Crowd) : Crowd where
  service := turn.service
  tasks := Function.update c.tasks n turn.progress.pending?

/-- The task with the number is given up. -/
def abandon (n : Nat) (p : Pending) (c : Crowd) : Crowd where
  service := c.service.abandon p
  tasks := Function.update c.tasks n none

/-- One turn of some task, or the end of the client. -/
inductive Step (c : Crowd) : Crowd → Prop where
  | start (n : Nat) (task : Task) :
      c.tasks n = none → Step c (c.follow n (c.service.start task))
  | wake (n : Nat) (p : Pending) (outcome : Option (Except TransportError Value)) :
      c.tasks n = some p → Step c (c.follow n (c.service.wake p outcome))
  | abandon (n : Nat) (p : Pending) : c.tasks n = some p → Step c (c.abandon n p)
  | cancel : Step c { c with service := c.service.cancel }

/-- What the turns of any number of tasks can lead to. -/
inductive Reached (config : Config) : Crowd → Prop where
  | start : Reached config { service := .ofConfig config }
  | step {c c' : Crowd} : Reached config c → Step c c' → Reached config c'

/-- To the others it is the same whether a task is given up or has ended. -/
theorem abandon_eq_follow (c : Crowd) (n : Nat) (p : Pending) :
    c.abandon n p
      = c.follow n { service := c.service.abandon p, progress := .ended .checked } := rfl

end Crowd

/-! ## §2. Turns are steps. -/

namespace Turn

theorem pace_service (turn : Turn) : turn.pace.service = turn.service := by
  unfold pace
  cases turn.progress <;> rfl

theorem pace_point_of_waiting {turn : Turn} {p : Pending} (h : turn.progress.pending? = some p) :
    turn.pace.point = .waiting p := by
  unfold pace
  cases hprogress : turn.progress with
  | waiting p' =>
      rw [hprogress] at h
      cases h
      rfl
  | ended e =>
      rw [hprogress] at h
      cases h

theorem pace_point_of_ended {turn : Turn} (h : turn.progress.pending? = none) :
    ∃ e, turn.pace.point = .ended e := by
  unfold pace
  cases hprogress : turn.progress with
  | waiting p =>
      rw [hprogress] at h
      cases h
  | ended e => exact ⟨e, rfl⟩

end Turn

/-- A later turn is the steps that a task takes from where it waits, whatever its request has come
to. -/
theorem Service.onward_wake (s : Service) (p : Pending)
    (outcome : Option (Except TransportError Value)) :
    ((s.step outcome (.waiting p)).onward 7).service = (s.wake p outcome).pace.service ∧
      ((s.step outcome (.waiting p)).onward 7).point = (s.wake p outcome).pace.point := by
  cases outcome with
  | some outcome =>
      rw [onward_step_waiting 0 s p outcome]
      exact ⟨rfl, rfl⟩
  | none =>
      cases hcancelled : s.cancelled with
      | true =>
          rw [step_waiting_of_cancelled hcancelled, onward_silent, rush_interrupted 0, wake,
            if_pos hcancelled]
          exact ⟨rfl, rfl⟩
      | false =>
          -- the task waits on, and has handed nothing over by that
          rw [step_waiting_none hcancelled, onward_silent, rush_waiting hcancelled, wake, hcancelled]
          exact ⟨rfl, rfl⟩

/-- Every task waits with what it waits with in the crowd, or has ended. -/
structure Throng.Rests (t : Throng) (c : Crowd) : Prop where
  service : t.service = c.service
  waiting : ∀ n p, c.tasks n = some p → t.points n = .waiting p
  ended : ∀ n, c.tasks n = none → ∃ e, t.points n = .ended e

namespace Throng.Rests

variable {t t' : Throng} {c : Crowd} {config : Config}

/-- The steps of a turn have been taken. -/
theorem follow (h : t.Rests c) {n : Nat} {turn : Turn} (hservice : t'.service = turn.pace.service)
    (hpoints : t'.points = Function.update t.points n turn.pace.point) :
    t'.Rests (c.follow n turn) where
  service := hservice.trans turn.pace_service
  waiting m p hm := by
    rw [hpoints]
    by_cases hmn : m = n
    · subst hmn
      rw [Function.update_self]
      exact Turn.pace_point_of_waiting ((Function.update_self m _ _).symm.trans hm)
    · rw [Function.update_of_ne hmn]
      exact h.waiting m p ((Function.update_of_ne hmn _ _).symm.trans hm)
  ended m hm := by
    rw [hpoints]
    by_cases hmn : m = n
    · subst hmn
      rw [Function.update_self]
      exact Turn.pace_point_of_ended ((Function.update_self m _ _).symm.trans hm)
    · rw [Function.update_of_ne hmn]
      exact h.ended m ((Function.update_of_ne hmn _ _).symm.trans hm)

theorem start (h : t.Rests c) (ht : t.Reached config) {n : Nat} (hn : c.tasks n = none)
    (task : Task) :
    ∃ t' : Throng, t'.Reached config ∧ t'.Rests (c.follow n (c.service.start task)) := by
  obtain ⟨e, he⟩ := h.ended n hn
  obtain ⟨t', ht', hservice, hpoints⟩ := (ht.step (.enter n task e he)).onward 10 n none
  have hturn : ((t.move n t.service task.entrance).service.step none
      ((t.move n t.service task.entrance).points n)).onward 10 = (c.service.start task).pace := by
    rw [move_self, ← h.service]
    exact Service.rush_entrance 0 t.service task
  rw [hturn] at hservice hpoints
  refine ⟨t', ht', h.follow hservice (hpoints.trans ?_)⟩
  exact Function.update_idem ..

theorem wake (h : t.Rests c) (ht : t.Reached config) {n : Nat} {p : Pending}
    (hn : c.tasks n = some p) (outcome : Option (Except TransportError Value)) :
    ∃ t' : Throng, t'.Reached config ∧ t'.Rests (c.follow n (c.service.wake p outcome)) := by
  obtain ⟨t', ht', hservice, hpoints⟩ := ht.onward 7 n outcome
  obtain ⟨hwake, hpoint⟩ := c.service.onward_wake p outcome
  rw [h.waiting n p hn, h.service] at hservice hpoints
  exact ⟨t', ht', h.follow (hservice.trans hwake) (by rw [hpoints, hpoint])⟩

theorem abandon (h : t.Rests c) (ht : t.Reached config) {n : Nat} {p : Pending}
    (hn : c.tasks n = some p) :
    ∃ t' : Throng, t'.Reached config ∧ t'.Rests (c.abandon n p) := by
  rw [Crowd.abandon_eq_follow]
  refine ⟨_, ht.step (.abandon n p (h.waiting n p hn)), h.follow ?_ rfl⟩
  rw [← h.service]
  rfl

end Throng.Rests

/-- **A client that takes turns is one whose tasks take single steps, between two turns.** -/
theorem Crowd.Reached.exists_throng {config : Config} {c : Crowd} (h : c.Reached config) :
    ∃ t : Throng, t.Reached config ∧ t.Rests c := by
  induction h with
  | start =>
      refine ⟨_, .start, rfl, fun n p hn => ?_, fun n _ => ⟨.checked, rfl⟩⟩
      cases hn
  | step _ hstep ih =>
      obtain ⟨t, ht, hrests⟩ := ih
      cases hstep with
      | start n task hn => exact hrests.start ht hn task
      | wake n p outcome hn => exact hrests.wake ht hn outcome
      | abandon n p hn => exact hrests.abandon ht hn
      | cancel =>
          exact ⟨_, ht.step .cancel, congrArg Service.cancel hrests.service, hrests.waiting,
            hrests.ended⟩

/-! ## §3. All refreshes. -/

/-- **Refreshes exclude each other, in any order of their steps, and those of a client are such
refreshes.**  The client may start any number of checks and calls, let each take its steps one by
one or turn by turn, give them up and be cancelled. -/
theorem refreshes_exclusive :
    (∀ w : Watch, w.Reached → w.Exclusive) ∧
    (∀ (config : Config) (t : Throng), t.Reached config → ∃ w, w.Reached ∧ t.Agrees w) ∧
    ∀ (config : Config) (c : Crowd), c.Reached config →
      ∃ t : Throng, t.Reached config ∧ t.Rests c := by
  refine ⟨fun _ h => h.sound.exclusive, ?_, ?_⟩
  · intro config t h
    exact h.exists_watch
  · intro config c h
    exact h.exists_throng

/-- The first refresh is given up, and the probe of the second has its answer: the node has caught
up, and a third refresh has to wait until the second has ended. -/
theorem refreshes_exclusive_second :
    let w := (({} : Watch).refresh.leave 0).refresh.answer 1 (.ok SyncState.idle)
    w.Reached ∧ w.tracker.standing = { active := true, synced := true } ∧ w.refresh = w := by
  intro w
  have hfirst : Watch.Reached (({} : Watch).refresh.leave 0) :=
    (Watch.Reached.start.step .refresh).step (.giveUp 0 rfl)
  have hw : w.Reached := (hfirst.step .refresh).step (.answer 1 _ rfl)
  have hheld : w.stage 1 ≠ none := Option.some_ne_none _
  exact ⟨hw, rfl, (refreshes_exclusive.1 w hw).lose 1 hheld⟩

end NodeClient
