/-
  NodeClient.Proofs.Client.Polls
  ──────────────────────────────
  **What is still sent after the client has been cancelled: nothing.**

  A turn of a task is part of a poll.  A poll begins when a task is started or woken, and goes on
  while the transport answers at once, or while its task has something else to start: a keeper
  that checks the node with every tick may find the next tick waiting.  Polls run at the same
  time, and the client may be cancelled in the middle of them, so a poll that has begun before may
  still send a request, or have one answered.  A poll that begins afterwards sends nothing, and
  the tracker does not think better of the node for it, whichever task it polls.

  The keeper in the background is a task like any other.  A tick that it sees before it sees the
  end of the client starts one more check.

  Main result: `nothing_sent_after_cancel`.  The invariant is `Schedule.Sound`: whoever is polled
  since the client is cancelled does not wait, so there is nothing that the transport could answer.
-/
import NodeClient.Proofs.Client.Cancellation

namespace NodeClient

open Json

/-! ## §1. Turns of a cancelled client. -/

/-- Who stands like `now` does not stand better than like `was`. -/
structure Standing.NoBetter (now was : Standing) : Prop where
  active : now.active = true → was.active = true
  synced : now.synced = true → was.synced = true

namespace Standing.NoBetter

theorem refl (s : Standing) : s.NoBetter s := ⟨id, id⟩

theorem trans {s t u : Standing} (h : s.NoBetter t) (h' : t.NoBetter u) : s.NoBetter u :=
  ⟨h'.active ∘ h.active, h'.synced ∘ h.synced⟩

/-- Nobody stands worse than who cannot be reached. -/
theorem inactive (s : Standing) : ({} : Standing).NoBetter s :=
  ⟨fun h => absurd h Bool.false_ne_true, fun h => absurd h Bool.false_ne_true⟩

end Standing.NoBetter

/-- The turn sends nothing and leaves nothing to wait for, and the tracker does not think better of
the node than before. -/
structure Turn.Quiet (turn : Turn) (was : Standing) : Prop where
  pending : turn.progress.pending? = none
  standing : turn.service.tracker.standing.NoBetter was

namespace Service

variable {s : Service}

theorem pending_dispatch (h : s.cancelled = true) (op : Operation) :
    (s.dispatch op).progress.pending? = none := by
  unfold dispatch
  rw [if_pos h]
  rfl

theorem pending_proceed (h : s.cancelled = true) (task : Task) :
    (s.proceed task).progress.pending? = none := by
  cases task with
  | check => rfl
  | call op =>
      cases hrefusal : op.gate.refusal? s.tracker.standing with
      | some e =>
          rw [proceed_of_refusal hrefusal]
          rfl
      | none =>
          rw [proceed_of_admits hrefusal]
          exact pending_dispatch h op

/-- A probe that is cancelled leaves an inactive node. -/
theorem quiet_conclude (h : s.cancelled = true) (task : Task) (was before : Standing) :
    (s.conclude task was (.error .cancelled)).Quiet before where
  pending := pending_proceed
    (s := { s with tracker := s.tracker.settle (.ofProbe (.error .cancelled)) }) h task
  standing := by
    rw [conclude_service, Tracker.settle_standing]
    exact .inactive before

theorem quiet_refresh (h : s.cancelled = true) (task : Task) :
    (s.refresh task).Quiet s.tracker.standing := by
  rcases s.refresh_turn task with hturn | ⟨_, hturn⟩ | ⟨hrunning, _⟩
  · rw [hturn]
    exact ⟨pending_proceed h task, by rw [proceed_service]; exact .refl _⟩
  · rw [hturn]
    exact quiet_conclude (s := { s with tracker := { s.tracker with busy := true } }) h task _ _
  · rw [h] at hrunning
    cases hrunning

/-- **A task that starts when the client is cancelled sends nothing.** -/
theorem quiet_start (h : s.cancelled = true) (task : Task) :
    (s.start task).Quiet s.tracker.standing := by
  cases task with
  | check => exact quiet_refresh h .check
  | call op =>
      rcases s.start_call_turn op with ⟨e, hturn⟩ | hturn | hturn
      · rw [hturn]
        exact ⟨rfl, .refl _⟩
      · rw [hturn]
        exact ⟨pending_dispatch h op, by rw [dispatch_service]; exact .refl _⟩
      · rw [hturn]
        exact quiet_refresh h (.call op)

/-- **A task that wakes when the client is cancelled sends nothing, whatever its request has come
to.** -/
theorem quiet_wake (h : s.cancelled = true) (p : Pending)
    (outcome : Option (Except TransportError Value)) :
    (s.wake p outcome).Quiet s.tracker.standing := by
  rw [wake_of_cancelled h]
  cases p with
  | probing task was => exact quiet_conclude h task was _
  | calling op => exact ⟨rfl, .refl _⟩

end Service

/-! ## §2. Polls. -/

/-- The tasks of a client with the polls that are under way. -/
structure Schedule where
  crowd : Crowd
  /-- Whether the client had been cancelled when the poll of a task began, by the number of the
  task. -/
  polls : Nat → Option Bool := fun _ => none
  /-- What has been handed to the transport, the latest first, and whether the client had been
  cancelled when the poll began that did so. -/
  sent : List (Bool × Pending) := []

namespace Schedule

/-- The client has been cancelled. -/
def cancelled (c : Schedule) : Bool := c.crowd.service.cancelled

/-- How the node stands by the tracker. -/
def standing (c : Schedule) : Standing := c.crowd.service.tracker.standing

/-- The turn of a poll leads to the service and the progress of `turn`, and hands a request to the
transport or none. -/
def take (n : Nat) (late : Bool) (handed : Option Pending) (turn : Turn) (c : Schedule) :
    Schedule where
  crowd := c.crowd.follow n turn
  polls := Function.update c.polls n (some late)
  sent := (handed.map fun p => (late, p)).toList ++ c.sent

/-- A poll starts a task. -/
def start (n : Nat) (late : Bool) (task : Task) (c : Schedule) : Schedule :=
  let turn := c.crowd.service.start task
  c.take n late turn.progress.pending? turn

/-- A poll wakes a task.  While its request has no outcome, nothing follows that would be sent. -/
def wake (n : Nat) (late : Bool) (p : Pending) (outcome : Option (Except TransportError Value))
    (c : Schedule) : Schedule :=
  let turn := c.crowd.service.wake p outcome
  c.take n late (outcome.bind fun _ => turn.progress.pending?) turn

/-- A poll goes on with the answer to a request, without another look at whether the client is
cancelled. -/
def answer (n : Nat) (late : Bool) (p : Pending) (outcome : Except TransportError Value)
    (c : Schedule) : Schedule :=
  let turn := c.crowd.service.answer p outcome
  c.take n late turn.progress.pending? turn

/-- A poll is over. -/
def rest (n : Nat) (c : Schedule) : Schedule := { c with polls := Function.update c.polls n none }

/-- A task that is not being polled is given up. -/
def abandon (n : Nat) (p : Pending) (c : Schedule) : Schedule :=
  { c with crowd := c.crowd.abandon n p }

/-- The client is cancelled, whoever is being polled. -/
def cancel (c : Schedule) : Schedule := { c with crowd := c.crowd.cancel }

/-- A turn of some poll, with whether the client had been cancelled when the poll began; or what
happens between polls. -/
inductive Step (c : Schedule) : (late : Bool) → Schedule → Prop where
  /-- A poll begins with a task that starts. -/
  | start (n : Nat) (task : Task) : c.polls n = none → c.crowd.tasks n = none →
      Step c c.cancelled (c.start n c.cancelled task)
  /-- A poll begins with a task that waits. -/
  | wake (n : Nat) (p : Pending) (outcome : Option (Except TransportError Value)) :
      c.polls n = none → c.crowd.tasks n = some p →
      Step c c.cancelled (c.wake n c.cancelled p outcome)
  /-- The transport answers while the poll goes on. -/
  | answer (n : Nat) (late : Bool) (p : Pending) (outcome : Except TransportError Value) :
      c.polls n = some late → c.crowd.tasks n = some p → Step c late (c.answer n late p outcome)
  /-- The poll goes on with another task, as that of the keeper does at the next tick. -/
  | again (n : Nat) (late : Bool) (task : Task) : c.polls n = some late → c.crowd.tasks n = none →
      Step c late (c.start n late task)
  | rest (n : Nat) (late : Bool) : c.polls n = some late → Step c late (c.rest n)
  | abandon (n : Nat) (p : Pending) : c.polls n = none → c.crowd.tasks n = some p →
      Step c false (c.abandon n p)
  | cancel : Step c false c.cancel

/-- What the polls of any number of tasks can lead to. -/
inductive Reached (config : Config) : Schedule → Prop where
  | start : Reached config { crowd := { service := .ofConfig config } }
  | step {c c' : Schedule} {late : Bool} : Reached config c → Step c late c' → Reached config c'

/-- Turns one after the other. -/
abbrev Run : Schedule → Schedule → Prop :=
  Relation.ReflTransGen fun c c' => ∃ late, Step c late c'

variable {c c' : Schedule} {late : Bool}

/-! ## §3. The invariant. -/

/-- What holds between any two turns. -/
structure Sound (c : Schedule) : Prop where
  /-- A poll that has begun after the end of the client leaves its task nothing to wait for. -/
  late_poll : ∀ n, c.polls n = some true → c.cancelled = true ∧ c.crowd.tasks n = none
  /-- Nothing has been sent by such a poll. -/
  sent_early : ∀ r ∈ c.sent, r.1 = false

/-- A turn hands over what it leaves the task waiting with, or nothing; and it does not undo the end
of the client. -/
structure Fair (c : Schedule) (late : Bool) (handed : Option Pending) (turn : Turn) : Prop where
  handed : ∀ p, handed = some p → turn.progress.pending? = some p
  cancelled : c.cancelled = true → turn.service.cancelled = true
  quiet : late = true → c.cancelled = true ∧ turn.Quiet c.standing

namespace Fair

variable {handed : Option Pending} {turn : Turn} {n : Nat}

/-- A poll that has begun after the end of the client hands nothing over. -/
theorem sent (h : c.Fair late handed turn) (hlate : late = true) :
    (c.take n late handed turn).sent = c.sent := by
  have hnone : handed = none := by
    rw [Option.eq_none_iff_forall_ne_some]
    intro p hp
    have hpending := h.handed p hp
    rw [(h.quiet hlate).2.pending] at hpending
    cases hpending
  rw [take, hnone]
  rfl

theorem sound (h : c.Fair late handed turn) (hc : c.Sound) : (c.take n late handed turn).Sound where
  late_poll m hm := by
    by_cases hmn : m = n
    · subst hmn
      have hlate : late = true :=
        Option.some.inj ((Function.update_self m _ _).symm.trans hm)
      obtain ⟨hcancelled, hquiet⟩ := h.quiet hlate
      exact ⟨h.cancelled hcancelled, (Function.update_self m _ _).trans hquiet.pending⟩
    · obtain ⟨hcancelled, htask⟩ := hc.late_poll m ((Function.update_of_ne hmn _ _).symm.trans hm)
      exact ⟨h.cancelled hcancelled, (Function.update_of_ne hmn _ _).trans htask⟩
  sent_early r hr := by
    cases late with
    | true =>
        rw [h.sent rfl] at hr
        exact hc.sent_early r hr
    | false =>
        rcases List.mem_append.mp hr with hnew | hold
        · obtain ⟨p, _, rfl⟩ := Option.map_eq_some_iff.mp (Option.mem_toList.mp hnew)
          rfl
        · exact hc.sent_early r hold

end Fair

theorem fair_start (c : Schedule) (task : Task) (h : late = true → c.cancelled = true) :
    c.Fair late (c.crowd.service.start task).progress.pending? (c.crowd.service.start task) where
  handed _ := id
  cancelled hcancelled := (Service.start_cancelled task _).trans hcancelled
  quiet hlate := ⟨h hlate, Service.quiet_start (h hlate) task⟩

theorem fair_wake (c : Schedule) (p : Pending) (outcome : Option (Except TransportError Value)) :
    c.Fair c.cancelled
      (outcome.bind fun _ => (c.crowd.service.wake p outcome).progress.pending?)
      (c.crowd.service.wake p outcome) where
  handed q hq := by
    obtain ⟨_, _, hpending⟩ := Option.bind_eq_some_iff.mp hq
    exact hpending
  cancelled h := by
    rw [Service.wake_of_cancelled h, Service.interrupt_cancelled]
    exact h
  quiet h := ⟨h, Service.quiet_wake h p outcome⟩

theorem fair_answer (c : Schedule) (p : Pending) (outcome : Except TransportError Value)
    (h : late = false) :
    c.Fair late (c.crowd.service.answer p outcome).progress.pending?
      (c.crowd.service.answer p outcome) where
  handed _ := id
  cancelled hcancelled := by
    cases p with
    | calling op => exact hcancelled
    | probing task was =>
        show (Service.conclude task was _ c.crowd.service).service.cancelled = true
        rw [Service.conclude_service]
        exact hcancelled
  quiet hlate := absurd (h.symm.trans hlate) Bool.false_ne_true

/-- What happens between polls, or ends them: no task has a turn. -/
structure Idle (c c' : Schedule) : Prop where
  sent : c'.sent = c.sent
  standing : c'.standing = c.standing
  cancelled : c.cancelled = true → c'.cancelled = true
  polls : ∀ n, c'.polls n = c.polls n ∨ c'.polls n = none
  tasks : ∀ n, c'.crowd.tasks n = c.crowd.tasks n ∨ c'.crowd.tasks n = none

theorem update_none_cases {α : Type} (f : Nat → Option α) (n m : Nat) :
    Function.update f n none m = f m ∨ Function.update f n none m = none := by
  by_cases hmn : m = n
  · exact .inr (hmn ▸ Function.update_self m none f)
  · exact .inl (Function.update_of_ne hmn none f)

/-- A step is a fair turn of a poll that begins or is under way, or no turn at all. -/
theorem Sound.step_cases (hc : c.Sound) (hstep : Step c late c') :
    (∃ n handed turn, c.Fair late handed turn ∧ c' = c.take n late handed turn ∧
      (late = c.cancelled ∨ c.polls n = some late)) ∨ c.Idle c' := by
  cases hstep with
  | start n task _ _ => exact .inl ⟨n, _, _, c.fair_start task id, rfl, .inl rfl⟩
  | wake n p outcome _ _ => exact .inl ⟨n, _, _, c.fair_wake p outcome, rfl, .inl rfl⟩
  | answer n _ p outcome hpoll htask =>
      -- only a poll that began in time has left its task anything to wait for
      have hearly : late = false := by
        cases late with
        | false => rfl
        | true =>
            rw [(hc.late_poll n hpoll).2] at htask
            cases htask
      exact .inl ⟨n, _, _, c.fair_answer p outcome hearly, rfl, .inr hpoll⟩
  | again n _ task hpoll _ =>
      refine .inl ⟨n, _, _, c.fair_start task fun hlate => ?_, rfl, .inr hpoll⟩
      exact (hc.late_poll n (hlate ▸ hpoll)).1
  | rest n _ _ => exact .inr ⟨rfl, rfl, id, update_none_cases c.polls n, fun _ => .inl rfl⟩
  | abandon n p _ _ =>
      have hservice : (c.abandon n p).standing = c.standing ∧
          (c.abandon n p).cancelled = c.cancelled := by
        cases p with
        | probing task was => exact ⟨rfl, rfl⟩
        | calling op => exact ⟨rfl, rfl⟩
      exact .inr ⟨rfl, hservice.1, hservice.2.trans, fun _ => .inl rfl,
        update_none_cases c.crowd.tasks n⟩
  | cancel => exact .inr ⟨rfl, rfl, fun _ => rfl, fun _ => .inl rfl, fun _ => .inl rfl⟩

theorem Sound.step (hc : c.Sound) (hstep : Step c late c') : c'.Sound := by
  rcases hc.step_cases hstep with ⟨n, handed, turn, hfair, rfl, _⟩ | hidle
  · exact hfair.sound hc
  · constructor
    · intro n hn
      have hpoll : c.polls n = some true := by
        rcases hidle.polls n with hsame | hover
        · exact hsame ▸ hn
        · rw [hover] at hn
          cases hn
      obtain ⟨hcancelled, htask⟩ := hc.late_poll n hpoll
      refine ⟨hidle.cancelled hcancelled, ?_⟩
      rcases hidle.tasks n with hsame | hover
      · exact hsame.trans htask
      · exact hover
    · rw [hidle.sent]
      exact hc.sent_early

theorem Reached.sound {config : Config} (h : Reached config c) : c.Sound := by
  induction h with
  | start =>
      constructor
      · intro n hn
        cases hn
      · intro r hr
        cases hr
  | step _ hstep ih => exact ih.step hstep

/-! ## §4. Polls that begin too late. -/

/-- Nothing has been sent since `was`, and the node is not thought better of. -/
structure Still (was now : Schedule) : Prop where
  sent : now.sent = was.sent
  standing : now.standing.NoBetter was.standing

theorem Still.trans {c₁ c₂ c₃ : Schedule} (h : c₁.Still c₂) (h' : c₂.Still c₃) : c₁.Still c₃ :=
  ⟨h'.sent.trans h.sent, h'.standing.trans h.standing⟩

theorem Idle.still (h : c.Idle c') : c.Still c' := ⟨h.sent, h.standing ▸ .refl _⟩

theorem Sound.still_of_late (hc : c.Sound) (hstep : Step c true c') : c.Still c' := by
  rcases hc.step_cases hstep with ⟨n, handed, turn, hfair, rfl, _⟩ | hidle
  · exact ⟨hfair.sent rfl, (hfair.quiet rfl).2.standing⟩
  · exact hidle.still

/-- The client has been cancelled, and every poll that began before is over. -/
structure Over (c : Schedule) : Prop where
  cancelled : c.cancelled = true
  polls : ∀ n, c.polls n ≠ some false

theorem Over.step (hover : c.Over) (hc : c.Sound) (hstep : Step c late c') :
    c'.Over ∧ c.Still c' := by
  rcases hc.step_cases hstep with ⟨n, handed, turn, hfair, rfl, hbegan⟩ | hidle
  · have hlate : late = true := by
      rcases hbegan with hbegins | hpoll
      · exact hbegins.trans hover.cancelled
      · cases late with
        | true => rfl
        | false => exact absurd hpoll (hover.polls n)
    refine ⟨⟨hfair.cancelled hover.cancelled, ?_⟩, hfair.sent hlate, (hfair.quiet hlate).2.standing⟩
    intro m hm
    by_cases hmn : m = n
    · subst hmn
      have hearly : late = false := Option.some.inj ((Function.update_self m _ _).symm.trans hm)
      exact absurd (hearly.symm.trans hlate) Bool.false_ne_true
    · exact hover.polls m ((Function.update_of_ne hmn _ _).symm.trans hm)
  · refine ⟨⟨hidle.cancelled hover.cancelled, ?_⟩, hidle.still⟩
    intro m hm
    rcases hidle.polls m with hsame | hnone
    · exact hover.polls m (hsame ▸ hm)
    · rw [hnone] at hm
      cases hm

theorem Over.run (hover : c.Over) (hc : c.Sound) (hrun : Run c c') : c.Still c' := by
  suffices h : c'.Over ∧ c'.Sound ∧ c.Still c' from h.2.2
  induction hrun with
  | refl => exact ⟨hover, hc, rfl, .refl _⟩
  | tail _ hstep ih =>
      obtain ⟨late, hstep⟩ := hstep
      obtain ⟨hover', hc', hstill⟩ := ih
      obtain ⟨hover'', hstill'⟩ := hover'.step hc' hstep
      exact ⟨hover'', hc'.step hstep, hstill.trans hstill'⟩

end Schedule

/-- **No poll that begins after the client has been cancelled sends a request, and in none does the
tracker come to think better of the node,** in any interleaving of polls.  So nothing has ever been
sent by such a poll; and once the polls are over that began before, nothing is sent any more and
the tracker thinks no better of the node, however the run goes on. -/
theorem nothing_sent_after_cancel {config : Config} {c : Schedule} (hc : c.Reached config) :
    (∀ c', Schedule.Step c true c' →
      c'.sent = c.sent ∧ c'.standing.NoBetter c.standing) ∧
    (∀ r ∈ c.sent, r.1 = false) ∧
    (c.cancelled = true → (∀ n, c.polls n ≠ some false) → ∀ c', Schedule.Run c c' →
      c'.sent = c.sent ∧ c'.standing.NoBetter c.standing) := by
  refine ⟨?_, hc.sound.sent_early, ?_⟩
  · intro c' hstep
    have hstill := hc.sound.still_of_late hstep
    exact ⟨hstill.sent, hstill.standing⟩
  · intro hcancelled hpolls c' hrun
    have hstill := Schedule.Over.run ⟨hcancelled, hpolls⟩ hc.sound hrun
    exact ⟨hstill.sent, hstill.standing⟩

/-- A client checks its node, which answers while the poll goes on: it is synced. -/
def greetedSchedule : Schedule :=
  let c : Schedule := { crowd := { service := .ofConfig nodeConfig } }
  (c.start 0 false .check).answer 0 false (.probing .check {}) (.ok (.bool false))

/-- In the same poll it asks for the latest number, and then the client is cancelled. -/
def busySchedule : Schedule := ((greetedSchedule.start 0 false (.call .blockNumber)).rest 0).cancel

theorem busySchedule_reached : busySchedule.Reached nodeConfig := by
  have hgreeted : greetedSchedule.Reached nodeConfig :=
    (Schedule.Reached.start.step (.start 0 .check rfl rfl)).step (.answer 0 false _ _ rfl rfl)
  exact ((hgreeted.step (.again 0 false (.call .blockNumber) rfl rfl)).step
    (.rest 0 false rfl)).step .cancel

/-- The keeper sees its tick before it sees the end of the client.  What its check comes to is that
the node, which was synced, cannot be reached. -/
theorem nothing_sent_after_cancel_tick :
    busySchedule.Reached nodeConfig ∧
      busySchedule.standing = { active := true, synced := true } ∧
      busySchedule.sent = [(false, .calling .blockNumber), (false, .probing .check {})] ∧
      (busySchedule.start 1 true .check).sent = busySchedule.sent ∧
      (busySchedule.start 1 true .check).standing = {} := by
  have htick : busySchedule.Step true (busySchedule.start 1 true .check) :=
    .start 1 .check rfl rfl
  obtain ⟨hsent, _⟩ := (nothing_sent_after_cancel busySchedule_reached).1 _ htick
  exact ⟨busySchedule_reached, rfl, rfl, hsent, rfl⟩

end NodeClient
