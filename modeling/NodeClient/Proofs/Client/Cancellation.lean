/-
  NodeClient.Proofs.Client.Cancellation
  ─────────────────────────────────────
  **What becomes of the calls that wait when the client is cancelled.**

  A call waits with its own request or, if its gate did not admit the standing that it found, with
  the probe of a refresh.  The end of the client reaches both: in every run a call that waits then
  ends at its next turn, whatever its request has come to and whatever the other tasks do
  meanwhile.  But only a call that waits with its own request is told that it has been cancelled.
  A probe that is cancelled has failed, so the tracker takes the node for inactive, and the call
  whose probe it was is told so.

  Main result: `cancelled_call_ends`.  It rests on an invariant of runs, `Pending.Gated`: whoever
  probes for a call does so because of its gate, which will not admit an inactive node either.
-/
import Mathlib.Logic.Relation
import NodeClient.Proofs.Client.Crowd

namespace NodeClient

open Json

/-! ## §1. Calls that wait. -/

namespace Pending

/-- The task waits for the node to say how it is syncing, and holds the slot meanwhile. -/
def probes : Pending → Bool
  | probing _ _ => true
  | calling _ => false

/-- The call that waits; a check of the tracker is none. -/
def call? : Pending → Option Operation
  | probing .check _ => none
  | probing (.call op) _ => some op
  | calling op => some op

/-- What a call is told that waits like this while the client is cancelled. -/
def onCancel : Pending → ClientError
  | probing _ _ => .notActive
  | calling _ => .cancelled

/-- If a call probes, its gate has not admitted the standing that it found. -/
def Gated : Pending → Prop
  | probing (.call op) was => op.gate.admits was = false
  | probing .check _ => True
  | calling _ => True

theorem gated_of_not_probes {p : Pending} (h : p.probes = false) : p.Gated := by
  cases p with
  | probing task was => exact absurd h.symm Bool.false_ne_true
  | calling op => trivial

/-- A call is told that it is cancelled exactly if it waits with its own request. -/
theorem onCancel_eq_cancelled_iff {p : Pending} {op : Operation} (h : p.call? = some op) :
    p.onCancel = .cancelled ↔ p = .calling op := by
  cases p with
  | probing task was =>
      constructor
      · intro hcancelled
        exact ClientError.noConfusion hcancelled
      · intro hcalling
        exact Pending.noConfusion hcalling
  | calling op' =>
      have hop : op' = op := Option.some.inj h
      rw [hop]
      exact ⟨fun _ => rfl, fun _ => rfl⟩

end Pending

/-- A gate that refuses some standing refuses that of an inactive node. -/
theorem Gate.refuses_inactive {g : Gate} {s : Standing} (h : g.admits s = false) :
    g.admits {} = false := by
  cases g with
  | «open» => exact absurd h.symm Bool.false_ne_true
  | active => rfl
  | synced => rfl

/-! ## §2. One turn. -/

namespace Turn

/-- The task waits with a probe after the turn. -/
def probes (turn : Turn) : Bool := turn.progress.pending?.any Pending.probes

/-- Whoever waits after the turn with the probe of a call does so because of its gate. -/
def Gated (turn : Turn) : Prop := ∀ p, turn.progress.pending? = some p → p.Gated

theorem gated_of_not_probes {turn : Turn} (h : turn.probes = false) : turn.Gated := by
  intro p hp
  refine Pending.gated_of_not_probes ?_
  unfold probes at h
  rw [hp] at h
  exact h

end Turn

namespace Service

@[simp] theorem dispatch_probes (op : Operation) (s : Service) :
    (s.dispatch op).probes = false := by
  unfold dispatch
  split <;> rfl

@[simp] theorem proceed_probes (task : Task) (s : Service) : (s.proceed task).probes = false := by
  cases task with
  | check => rfl
  | call op =>
      cases h : op.gate.refusal? s.tracker.standing with
      | some e =>
          rw [proceed_of_refusal h]
          rfl
      | none =>
          rw [proceed_of_admits h]
          exact dispatch_probes op s

@[simp] theorem conclude_probes (task : Task) (was : Standing)
    (outcome : Except ClientError SyncState) (s : Service) :
    (s.conclude task was outcome).probes = false := by
  unfold conclude
  exact proceed_probes task _

theorem gated_refresh {task : Task} {s : Service}
    (h : (Pending.probing task s.tracker.standing).Gated) : (s.refresh task).Gated := by
  cases hbusy : s.tracker.busy with
  | true =>
      rw [refresh_of_busy hbusy]
      exact Turn.gated_of_not_probes (proceed_probes task s)
  | false =>
      cases hcancelled : s.cancelled with
      | true =>
          rw [refresh_of_cancelled hbusy hcancelled]
          exact Turn.gated_of_not_probes (conclude_probes ..)
      | false =>
          rw [refresh_of_free hbusy hcancelled]
          intro p hp
          rw [← Option.some.inj hp]
          exact h

theorem gated_start (task : Task) (s : Service) : (s.start task).Gated := by
  cases task with
  | check =>
      have hcheck : (Pending.probing .check s.tracker.standing).Gated := trivial
      exact gated_refresh hcheck
  | call op =>
      cases hflaw : op.flaw? with
      | some reason =>
          rw [start_call_of_flaw hflaw]
          exact Turn.gated_of_not_probes rfl
      | none =>
          cases hadmits : op.gate.admits s.tracker.standing with
          | true =>
              rw [start_call_of_admits hflaw hadmits]
              exact Turn.gated_of_not_probes (dispatch_probes op s)
          | false =>
              rw [start_call_of_refuses hflaw hadmits]
              exact gated_refresh hadmits

theorem gated_wake {p : Pending} (h : p.Gated) (outcome : Option (Except TransportError Value))
    (s : Service) : (s.wake p outcome).Gated := by
  -- a task that goes on waiting does so as before; any other has left its probe behind
  have hinterrupt : (s.interrupt p).probes = false := by
    cases p with
    | probing task was => exact conclude_probes ..
    | calling op => rfl
  have hanswer : ∀ outcome, (s.answer p outcome).probes = false := by
    intro outcome
    cases p with
    | probing task was => exact conclude_probes ..
    | calling op => rfl
  unfold wake
  split
  · exact Turn.gated_of_not_probes hinterrupt
  · cases outcome with
    | some outcome => exact Turn.gated_of_not_probes (hanswer outcome)
    | none =>
        intro p' hp'
        rw [← Option.some.inj hp']
        exact h

theorem wake_of_cancelled {s : Service} (h : s.cancelled = true) (p : Pending)
    (outcome : Option (Except TransportError Value)) : s.wake p outcome = s.interrupt p := by
  unfold wake
  rw [if_pos h]

/-- **A call that finds the client cancelled while it waits ends at once.** -/
theorem interrupt_progress {p : Pending} {op : Operation} (hop : p.call? = some op)
    (hgated : p.Gated) (s : Service) :
    (s.interrupt p).progress = .ended (.called op (.error p.onCancel)) := by
  cases p with
  | calling op' =>
      have heq : op' = op := Option.some.inj hop
      rw [heq]
      rfl
  | probing task was =>
      cases task with
      | check => cases hop
      | call op' =>
          have heq : op' = op := Option.some.inj hop
          subst heq
          -- the failed probe leaves an inactive node, which the gate refuses
          have hrefusal : op'.gate.refusal? {} = some .notActive :=
            Gate.refusal?_of_refuses (Gate.refuses_inactive hgated)
          show (Service.proceed (.call op')
            { s with tracker := s.tracker.settle (.ofProbe (.error .cancelled)) }).progress = _
          rw [proceed_of_refusal (by rw [Tracker.settle_standing]; exact hrefusal)]
          rfl

/-! ## §3. No turn undoes the end of the client. -/

theorem refresh_cancelled (task : Task) (s : Service) :
    (s.refresh task).service.cancelled = s.cancelled := by
  cases hbusy : s.tracker.busy with
  | true => rw [refresh_of_busy hbusy, proceed_service]
  | false =>
      cases hcancelled : s.cancelled with
      | true =>
          rw [refresh_of_cancelled hbusy hcancelled, conclude_service]
          exact hcancelled
      | false =>
          rw [refresh_of_free hbusy hcancelled]
          exact hcancelled

theorem start_cancelled (task : Task) (s : Service) :
    (s.start task).service.cancelled = s.cancelled := by
  cases task with
  | check => exact refresh_cancelled .check s
  | call op =>
      rcases s.start_call_turn op with ⟨e, hturn⟩ | hturn | hturn
      · rw [hturn]
        rfl
      · rw [hturn, dispatch_service]
      · rw [hturn, refresh_cancelled]

theorem interrupt_cancelled (p : Pending) (s : Service) :
    (s.interrupt p).service.cancelled = s.cancelled := by
  cases p with
  | probing task was =>
      show (s.conclude task was (.error .cancelled)).service.cancelled = s.cancelled
      rw [conclude_service]
  | calling op => rfl

end Service

namespace Crowd

/-! ## §4. Runs. -/

/-- Turns one after the other. -/
abbrev Run : Crowd → Crowd → Prop := Relation.ReflTransGen Step

/-- The client of the tasks is cancelled. -/
def cancel (c : Crowd) : Crowd := { c with service := c.service.cancel }

/-- Every task that probes for a call does so because of its gate. -/
def Gated (c : Crowd) : Prop := ∀ n p, c.tasks n = some p → p.Gated

variable {c c' : Crowd}

theorem Gated.follow (h : c.Gated) {n : Nat} {turn : Turn} (hturn : turn.Gated) :
    (c.follow n turn).Gated := by
  intro m p hm
  by_cases hmn : m = n
  · rw [hmn] at hm
    exact hturn p ((Function.update_self n _ _).symm.trans hm)
  · exact h m p ((Function.update_of_ne hmn _ _).symm.trans hm)

theorem Gated.step (h : c.Gated) (hstep : Step c c') : c'.Gated := by
  cases hstep with
  | start n task hn => exact h.follow (Service.gated_start task c.service)
  | wake n p outcome hn => exact h.follow (Service.gated_wake (h n p hn) outcome c.service)
  | abandon n p hn =>
      rw [abandon_eq_follow]
      exact h.follow (Turn.gated_of_not_probes rfl)
  | cancel => exact h

theorem Reached.gated {config : Config} (h : Reached config c) : c.Gated := by
  induction h with
  | start =>
      intro n p hn
      cases hn
  | step _ hstep ih => exact ih.step hstep

/-- The client stays cancelled. -/
theorem Step.cancelled (hstep : Step c c') (h : c.service.cancelled = true) :
    c'.service.cancelled = true := by
  cases hstep with
  | start n task hn => exact (Service.start_cancelled task c.service).trans h
  | wake n p outcome hn =>
      show (c.service.wake p outcome).service.cancelled = true
      rw [Service.wake_of_cancelled h, Service.interrupt_cancelled]
      exact h
  | abandon n p hn =>
      cases p with
      | probing task was => exact h
      | calling op => exact h
  | cancel => rfl

theorem Run.cancelled (hrun : Run c c') (h : c.service.cancelled = true) :
    c'.service.cancelled = true := by
  induction hrun with
  | refl => exact h
  | tail _ hstep ih => exact hstep.cancelled ih

/-- A task that waits does so until its own turn, unless it is given up. -/
theorem Run.waits_or_leaves (hrun : Run c c') {n : Nat} {p : Pending} (hn : c.tasks n = some p) :
    c'.tasks n = some p ∨ ∃ c₁, Run c c₁ ∧ c₁.tasks n = some p ∧
      ((∃ outcome, Run (c₁.follow n (c₁.service.wake p outcome)) c') ∨
        Run (c₁.abandon n p) c') := by
  induction hrun with
  | refl => exact .inl hn
  | @tail c₂ c₃ hrun hstep ih =>
      rcases ih with hwaits | ⟨c₁, hc₁, hn₁, ⟨outcome, hrest⟩ | hrest⟩
      · -- the step is one of the task itself, or the task waits on
        have hother : ∀ m turn, m ≠ n → (c₂.follow m turn).tasks n = some p := by
          intro m turn hm
          exact (Function.update_of_ne (Ne.symm hm) _ _).trans hwaits
        cases hstep with
        | start m task hm =>
            refine .inl (hother m _ ?_)
            rintro rfl
            rw [hwaits] at hm
            cases hm
        | wake m q outcome hm =>
            by_cases hmn : m = n
            · subst hmn
              rw [hwaits] at hm
              cases hm
              exact .inr ⟨c₂, hrun, hwaits, .inl ⟨outcome, .refl⟩⟩
            · exact .inl (hother m _ hmn)
        | abandon m q hm =>
            by_cases hmn : m = n
            · subst hmn
              rw [hwaits] at hm
              cases hm
              exact .inr ⟨c₂, hrun, hwaits, .inr .refl⟩
            · rw [abandon_eq_follow]
              exact .inl (hother m _ hmn)
        | cancel => exact .inl hwaits
      · exact .inr ⟨c₁, hc₁, hn₁, .inl ⟨outcome, hrest.tail hstep⟩⟩
      · exact .inr ⟨c₁, hc₁, hn₁, .inr (hrest.tail hstep)⟩

end Crowd

/-! ## §5. The calls of a cancelled client. -/

/-- **A call that waits when the client is cancelled ends at its next turn, in every run, and is
told that it has been cancelled exactly if it waits with its own request.**  Until then it waits
on, whatever the other tasks do, unless it is given up. -/
theorem cancelled_call_ends {config : Config} {c : Crowd} (hc : c.Reached config) {n : Nat}
    {p : Pending} {op : Operation} (hn : c.tasks n = some p) (hop : p.call? = some op) :
    (p.onCancel = .cancelled ↔ p = .calling op) ∧
    ∀ c', Crowd.Run c.cancel c' →
      (c'.tasks n = some p → ∀ outcome,
        (c'.service.wake p outcome).progress = .ended (.called op (.error p.onCancel))) ∧
      (c'.tasks n = some p ∨ ∃ c₁, Crowd.Run c.cancel c₁ ∧ c₁.tasks n = some p ∧
        ((∃ outcome, Crowd.Run (c₁.follow n (c₁.service.wake p outcome)) c') ∨
          Crowd.Run (c₁.abandon n p) c')) := by
  refine ⟨Pending.onCancel_eq_cancelled_iff hop, ?_⟩
  intro c' hrun
  have hcancelled : c'.service.cancelled = true := hrun.cancelled rfl
  refine ⟨?_, hrun.waits_or_leaves hn⟩
  intro _ outcome
  rw [Service.wake_of_cancelled hcancelled]
  exact Service.interrupt_progress hop (hc.gated n p hn) _

/-- Where some client finds its node. -/
def nodeConfig : Config where
  url := { scheme := "http".toList, authority := some { host := .name "node".toList },
           path := ['/'] }
  address := "http://node/"
  websocketAddress := "ws://node"
  timeout := 1
  allowDelayedStart := true
  userAgent := ""

/-- The client knows nothing of the node, so its call for the latest number asks first how the node
is syncing. -/
def askingCrowd : Crowd :=
  let c : Crowd := { service := .ofConfig nodeConfig }
  c.follow 0 (c.service.start (.call .blockNumber))

theorem askingCrowd_reached : askingCrowd.Reached nodeConfig :=
  Crowd.Reached.start.step (.start 0 (.call .blockNumber) rfl)

/-- How the call waits. -/
def askingCall : Pending := .probing (.call .blockNumber) {}

/-- The call is told that the node is not active, although the node has just answered that it is
not syncing. -/
theorem cancelled_call_ends_probing :
    askingCrowd.Reached nodeConfig ∧ askingCrowd.tasks 0 = some askingCall ∧
      askingCall.call? = some .blockNumber ∧
      (askingCrowd.cancel.service.wake askingCall (some (.ok (.bool false)))).progress
        = .ended (.called .blockNumber (.error .notActive)) := by
  have hwaits : askingCrowd.tasks 0 = some askingCall := rfl
  have hends := (cancelled_call_ends askingCrowd_reached hwaits rfl).2 askingCrowd.cancel .refl
  exact ⟨askingCrowd_reached, hwaits, rfl, hends.1 rfl _⟩

/-- **Not every call in flight is told that it is cancelled.** -/
theorem cancelled_probe_reported_inactive :
    ¬∀ (config : Config) (c : Crowd) (n : Nat) (p : Pending) (op : Operation),
      c.Reached config → c.tasks n = some p → p.call? = some op →
      ∀ c', Crowd.Run c.cancel c' → c'.tasks n = some p → ∀ outcome,
        (c'.service.wake p outcome).progress = .ended (.called op (.error .cancelled)) := by
  intro h
  have hcancelled := h nodeConfig askingCrowd 0 askingCall .blockNumber askingCrowd_reached rfl
    rfl askingCrowd.cancel .refl rfl none
  have hinactive : (askingCrowd.cancel.service.wake askingCall none).progress
      = .ended (.called .blockNumber (.error .notActive)) := rfl
  rw [hinactive] at hcancelled
  cases hcancelled

end NodeClient
