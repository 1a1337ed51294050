/-
  NodeClient.Proofs.Client.Throng
  ───────────────────────────────
  **The tasks of one client, in any order of their single steps.**

  Tasks begin, take one step each whenever it is their turn, are given up while they wait, and the
  client may be cancelled between any two steps.  Whatever they do, the tracker of the client is
  one that refreshes have led to which take their steps one by one, and the probes of the client
  are the probes of these refreshes, with the same outcomes in the same order
  (`Throng.Reached.exists_watch`).  So what is known of refreshes holds of every client.

  The tasks may also take several steps with nobody in between.  That is what `Crowd` is about.
-/
import NodeClient.Proofs.Client.Points
import NodeClient.Proofs.Client.Refreshes

namespace NodeClient

open Json

/-! ## §1. What a step does to the tracker. -/

namespace Point

/-- How far the refresh of the task has got, if it holds the slot. -/
def stage? : Point → Option Stage
  | asking _ _ => some .probing
  | waiting (.probing _ _) => some .probing
  | storing _ _ _ => some .probing
  | publishing _ now left => some (.publishing now left)
  | _ => none

/-- The outcome of a probe, of which the next step stores what follows. -/
def outcome? : Point → Option (Except ClientError SyncState)
  | storing _ _ outcome => some outcome
  | _ => none

end Point

namespace Service

/-- What a step does to the tracker, and to the refresh of its task. -/
inductive Moves (s : Service) (point : Point) (next : Pace) : Prop where
  | keeps : next.service = s → next.point.stage? = point.stage? → point.outcome? = none →
      Moves s point next
  | claims : point.stage? = none → point.outcome? = none → s.tracker.busy = false →
      next.service.tracker = { s.tracker with busy := true } →
      next.point.stage? = some .probing → Moves s point next
  | stores (found : Except ClientError SyncState) : point.stage? = some .probing →
      point.outcome? = some found → next.service.tracker = s.tracker.store (.ofProbe found) →
      next.point.stage? = some (.publishing (.ofProbe found) Connection.all) → Moves s point next
  | publishes (now : Standing) (c : Connection) (left : List Connection) :
      point.stage? = some (.publishing now (c :: left)) → point.outcome? = none →
      next.service.tracker = s.tracker.publish now c →
      next.point.stage? = some (.publishing now left) → Moves s point next
  | leaves (now : Standing) : point.stage? = some (.publishing now []) → point.outcome? = none →
      next.service.tracker = s.tracker.release → next.point.stage? = none → Moves s point next

/-- **Each step keeps the tracker, or makes one move of a refresh.** -/
theorem moves_step (s : Service) (outcome : Option (Except TransportError Value)) (point : Point) :
    s.Moves point (s.step outcome point) := by
  cases point with
  | entering op =>
      cases hflaw : op.flaw? with
      | some reason =>
          rw [step_entering_of_flaw hflaw]
          exact .keeps rfl rfl rfl
      | none =>
          cases hadmits : op.gate.admits s.tracker.standing with
          | true =>
              rw [step_entering_of_admits hflaw hadmits]
              exact .keeps rfl rfl rfl
          | false =>
              rw [step_entering_of_refuses hflaw hadmits]
              exact .keeps rfl rfl rfl
  | noting task => exact .keeps rfl rfl rfl
  | claiming task was =>
      cases hbusy : s.tracker.busy with
      | true =>
          rw [step_claiming_of_busy hbusy]
          exact .keeps rfl rfl rfl
      | false =>
          rw [step_claiming_of_free hbusy]
          exact .claims rfl rfl hbusy rfl rfl
  | asking task was =>
      cases hcancelled : s.cancelled with
      | true =>
          rw [step_asking_of_cancelled hcancelled]
          exact .keeps rfl rfl rfl
      | false =>
          rw [step_asking_of_running hcancelled]
          exact .keeps rfl rfl rfl
  | waiting p =>
      -- a probe that has an outcome still holds the slot, and a call has never held it
      have hanswered : ∀ found, (p.answered found).stage? = (Point.waiting p).stage? := by
        intro found
        cases p <;> rfl
      have hinterrupted : p.interrupted.stage? = (Point.waiting p).stage? := by
        cases p <;> rfl
      cases hcancelled : s.cancelled with
      | true =>
          rw [step_waiting_of_cancelled hcancelled]
          exact .keeps rfl hinterrupted rfl
      | false =>
          cases outcome with
          | none =>
              rw [step_waiting_none hcancelled]
              exact .keeps rfl rfl rfl
          | some found =>
              rw [step_waiting_of_running hcancelled]
              exact .keeps rfl (hanswered found) rfl
  | storing task was found => exact .stores found rfl rfl rfl rfl
  | publishing task now left =>
      cases left with
      | nil => exact .leaves now rfl rfl rfl rfl
      | cons c left => exact .publishes now c left rfl rfl rfl rfl
  | looking task =>
      cases task with
      | check => exact .keeps rfl rfl rfl
      | call op =>
          cases hrefusal : op.gate.refusal? s.tracker.standing with
          | some e =>
              rw [step_looking_of_refusal hrefusal]
              exact .keeps rfl rfl rfl
          | none =>
              rw [step_looking_of_admits hrefusal]
              exact .keeps rfl rfl rfl
  | sending op =>
      cases hcancelled : s.cancelled with
      | true =>
          rw [step_sending_of_cancelled hcancelled]
          exact .keeps rfl rfl rfl
      | false =>
          rw [step_sending_of_running hcancelled]
          exact .keeps rfl rfl rfl
  | ended e => exact .keeps rfl rfl rfl

end Service

/-! ## §2. Steps of many tasks. -/

/-- A client with its tasks, each under a number and as far as it has got.  A number whose task
has ended is free for another. -/
structure Throng where
  service : Service
  points : Nat → Point := fun _ => .ended .checked
  /-- The outcomes of the probes from which a standing has been stored, the latest first. -/
  outcomes : List (Except ClientError SyncState) := []

namespace Throng

/-- The task with the number has got to this point, and leaves this service. -/
def move (n : Nat) (service : Service) (point : Point) (t : Throng) : Throng :=
  { t with service, points := Function.update t.points n point }

/-- The task with the number takes a step. -/
def advance (n : Nat) (outcome : Option (Except TransportError Value)) (t : Throng) : Throng :=
  let next := t.service.step outcome (t.points n)
  { t.move n next.service next.point with
    outcomes := (t.points n).outcome?.toList ++ t.outcomes }

/-- One step of some task, or the end of the client. -/
inductive Step (t : Throng) : Throng → Prop where
  | enter (n : Nat) (task : Task) (e : Ending) :
      t.points n = .ended e → Step t (t.move n t.service task.entrance)
  | advance (n : Nat) (outcome : Option (Except TransportError Value)) :
      Step t (t.advance n outcome)
  | abandon (n : Nat) (p : Pending) :
      t.points n = .waiting p → Step t (t.move n (t.service.abandon p) (.ended .checked))
  | cancel : Step t { t with service := t.service.cancel }

/-- What the steps of any number of tasks can lead to. -/
inductive Reached (config : Config) : Throng → Prop where
  | start : Reached config { service := .ofConfig config }
  | step {t t' : Throng} : Reached config t → Step t t' → Reached config t'

variable {t t' : Throng} {w w' : Watch}

theorem move_self (n : Nat) (service : Service) (point : Point) (t : Throng) :
    (t.move n service point).points n = point := Function.update_self ..

theorem move_of_ne {m n : Nat} (h : m ≠ n) (service : Service) (point : Point) (t : Throng) :
    (t.move n service point).points m = t.points m := Function.update_of_ne h ..

/-! ## §3. The refreshes of a client. -/

/-- The tracker is the one that is watched, and so are the outcomes of the probes.  At most one
task is in a refresh that holds the slot, and has got as far with it as the refresh that is
watched. -/
structure Agrees (t : Throng) (w : Watch) : Prop where
  tracker : w.tracker = t.service.tracker
  outcomes : w.answers.map Prod.snd = t.outcomes
  slot : ∃ i n, w.stage i = (t.points n).stage? ∧ (∀ j, j ≠ i → w.stage j = none) ∧
    ∀ m, m ≠ n → (t.points m).stage? = none

namespace Agrees

/-- Whoever holds the slot is the only one, and its refresh is the one under way. -/
theorem holder (h : t.Agrees w) {n : Nat} {g : Stage} (hn : (t.points n).stage? = some g) :
    ∃ i, w.stage i = some g ∧ (∀ j, j ≠ i → w.stage j = none) ∧
      ∀ m, m ≠ n → (t.points m).stage? = none := by
  obtain ⟨i, n', hstage, hwatched, hothers⟩ := h.slot
  have hn' : n = n' := by
    by_contra hne
    rw [hothers n hne] at hn
    cases hn
  subst hn'
  exact ⟨i, hstage.trans hn, hwatched, hothers⟩

/-- If the slot is free nobody refreshes. -/
theorem nobody (h : t.Agrees w) (hw : w.Sound) (hfree : t.service.tracker.busy = false) :
    (∀ j, w.stage j = none) ∧ ∀ m, (t.points m).stage? = none := by
  have hnone : ∀ j, w.stage j = none := by
    intro j
    by_contra hj
    rw [← h.tracker, hw.busy_of_stage hj] at hfree
    cases hfree
  refine ⟨hnone, fun m => ?_⟩
  by_contra hm
  obtain ⟨g, hg⟩ := Option.ne_none_iff_exists'.mp hm
  obtain ⟨i, hi, _⟩ := h.holder hg
  rw [hnone i] at hi
  cases hi

/-- What changes neither the tracker nor how far a refresh has got. -/
theorem keep (h : t.Agrees w) (htracker : t'.service.tracker = t.service.tracker)
    (houtcomes : t'.outcomes = t.outcomes)
    (hpoints : ∀ m, (t'.points m).stage? = (t.points m).stage?) : t'.Agrees w where
  tracker := h.tracker.trans htracker.symm
  outcomes := h.outcomes.trans houtcomes.symm
  slot := by
    simp only [hpoints]
    exact h.slot

/-- A task that moves without a refresh, or as far within it as before, changes nothing. -/
theorem keep_move (h : t.Agrees w) {n : Nat} {service : Service} {point : Point}
    (htracker : service.tracker = t.service.tracker)
    (hpoint : point.stage? = (t.points n).stage?) : (t.move n service point).Agrees w := by
  refine h.keep htracker rfl fun m => ?_
  by_cases hm : m = n
  · rw [hm, move_self, hpoint]
  · rw [move_of_ne hm]

/-- The only refresh under way and its task move on together. -/
theorem slot_move {i n : Nat} {g : Option Stage} {point : Point}
    (hwatched : ∀ j, j ≠ i → w.stage j = none)
    (hothers : ∀ m, m ≠ n → (t.points m).stage? = none) (hpoint : point.stage? = g) :
    ∃ i' n', Function.update w.stage i g i' = (Function.update t.points n point n').stage? ∧
      (∀ j, j ≠ i' → Function.update w.stage i g j = none) ∧
      ∀ m, m ≠ n' → (Function.update t.points n point m).stage? = none := by
  refine ⟨i, n, ?_, fun j hj => ?_, fun m hm => ?_⟩
  · rw [Function.update_self, Function.update_self, hpoint]
  · rw [Function.update_of_ne hj, hwatched j hj]
  · rw [Function.update_of_ne hm, hothers m hm]

/-- **A step of a task is a step of a refresh, or none.** -/
theorem advance (h : t.Agrees w) (hw : w.Reached) (n : Nat)
    (outcome : Option (Except TransportError Value)) :
    ∃ w', w'.Reached ∧ (t.advance n outcome).Agrees w' := by
  -- a step that stores nothing adds no outcome
  have hsilent : (t.points n).outcome? = none → (t.advance n outcome).outcomes = t.outcomes := by
    intro hnone
    show (t.points n).outcome?.toList ++ t.outcomes = t.outcomes
    rw [hnone]
    rfl
  cases t.service.moves_step outcome (t.points n) with
  | keeps hservice hstage hnone =>
      have hmoved := h.keep_move (congrArg Service.tracker hservice) hstage
      exact ⟨w, hw, hmoved.keep rfl (hsilent hnone) fun _ => rfl⟩
  | claims _ hnone hfree htracker hstage =>
      obtain ⟨hwatched, hothers⟩ := h.nobody hw.sound hfree
      refine ⟨w.refresh, hw.step .refresh, ?_⟩
      rw [Watch.refresh_of_free (by rw [h.tracker, hfree])]
      refine ⟨?_, h.outcomes.trans (hsilent hnone).symm, ?_⟩
      · show { w.tracker with busy := true } = (t.service.step outcome (t.points n)).service.tracker
        rw [htracker, h.tracker]
      · exact slot_move (fun j _ => hwatched j) (fun m _ => hothers m) hstage
  | stores found hprobing hfound htracker hstage =>
      obtain ⟨i, hi, hwatched, hothers⟩ := h.holder hprobing
      refine ⟨w.answer i found, hw.step (.answer i found hi), ?_, ?_, ?_⟩
      · show w.tracker.store _ = (t.service.step outcome (t.points n)).service.tracker
        rw [htracker, h.tracker]
      · show found :: w.answers.map Prod.snd = (t.points n).outcome?.toList ++ t.outcomes
        rw [hfound, h.outcomes]
        rfl
      · exact slot_move hwatched hothers hstage
  | publishes now c left hpublishing hnone htracker hstage =>
      obtain ⟨i, hi, hwatched, hothers⟩ := h.holder hpublishing
      refine ⟨w.publish i now c left, hw.step (.publish i now c left hi), ?_,
        h.outcomes.trans (hsilent hnone).symm, slot_move hwatched hothers hstage⟩
      show w.tracker.publish now c = (t.service.step outcome (t.points n)).service.tracker
      rw [htracker, h.tracker]
  | leaves now hpublishing hnone htracker hstage =>
      obtain ⟨i, hi, hwatched, hothers⟩ := h.holder hpublishing
      refine ⟨w.leave i, hw.step (.finish i now hi), ?_,
        h.outcomes.trans (hsilent hnone).symm, slot_move hwatched hothers hstage⟩
      show w.tracker.release = (t.service.step outcome (t.points n)).service.tracker
      rw [htracker, h.tracker]

/-- A task that is given up while it probes gives the slot back. -/
theorem abandon (h : t.Agrees w) (hw : w.Reached) {n : Nat} {p : Pending}
    (hn : t.points n = .waiting p) :
    ∃ w', w'.Reached ∧ (t.move n (t.service.abandon p) (.ended .checked)).Agrees w' := by
  cases p with
  | calling op => exact ⟨w, hw, h.keep_move rfl (by rw [hn]; rfl)⟩
  | probing task was =>
      have hprobing : (t.points n).stage? = some .probing := by rw [hn]; rfl
      obtain ⟨i, hi, hwatched, hothers⟩ := h.holder hprobing
      exact ⟨w.leave i, hw.step (.giveUp i hi), congrArg Tracker.release h.tracker, h.outcomes,
        slot_move hwatched hothers rfl⟩

end Agrees

/-- **The tracker of a client is always one that refreshes can lead to.** -/
theorem Reached.exists_watch {config : Config} (h : t.Reached config) :
    ∃ w, w.Reached ∧ t.Agrees w := by
  induction h with
  | start => exact ⟨{}, .start, rfl, rfl, 0, 0, rfl, fun _ _ => rfl, fun _ _ => rfl⟩
  | step _ hstep ih =>
      obtain ⟨w, hw, hagrees⟩ := ih
      cases hstep with
      | enter n task e hn =>
          refine ⟨w, hw, hagrees.keep_move rfl ?_⟩
          rw [hn]
          cases task <;> rfl
      | advance n outcome => exact hagrees.advance hw n outcome
      | abandon n p hn => exact hagrees.abandon hw hn
      | cancel => exact ⟨w, hw, hagrees.keep rfl rfl fun _ => rfl⟩

/-! ## §4. Several steps of one task. -/

/-- A task may take any number of steps with nobody in between.  At the first of them its request
may have come to something. -/
theorem Reached.onward {config : Config} (h : t.Reached config) (k n : Nat)
    (outcome : Option (Except TransportError Value)) :
    ∃ t' : Throng, t'.Reached config ∧
      t'.service = ((t.service.step outcome (t.points n)).onward k).service ∧
      t'.points
        = Function.update t.points n ((t.service.step outcome (t.points n)).onward k).point := by
  induction k generalizing t outcome with
  | zero => exact ⟨t.advance n outcome, h.step (.advance n outcome), rfl, rfl⟩
  | succ k ih =>
      obtain ⟨t', ht', hservice, hpoints⟩ := ih (h.step (.advance n outcome)) none
      have hpoint : (t.advance n outcome).points n = (t.service.step outcome (t.points n)).point :=
        Function.update_self ..
      rw [hpoint] at hservice hpoints
      refine ⟨t', ht', hservice, hpoints.trans ?_⟩
      exact Function.update_idem ..

end Throng

end NodeClient
