/-
  NodeClient.Proofs.Client.Steps
  ──────────────────────────────
  What each step of a task does to the service, and where the task has got to.

  Only a refresh touches the tracker, by claiming the slot, by settling or by giving the slot
  back.  A call comes to one of four ends at its start (`start_call_of_flaw`,
  `start_call_of_admits`, `refresh_of_busy`, `refresh_of_free`), unless the client is cancelled.
  `start_call_turn` and `refresh_turn` put them together.
-/
import NodeClient.Client.Service

namespace NodeClient

open Json

/-! ## §1. The tracker and its gates. -/

namespace Tracker

theorem claim_eq_none_iff (t : Tracker) : t.claim = none ↔ t.busy = true := by
  unfold claim
  cases t.busy <;> simp

theorem claim_eq_some_iff (t t' : Tracker) :
    t.claim = some t' ↔ t.busy = false ∧ { t with busy := true } = t' := by
  unfold claim
  cases t.busy <;> simp

/-- The end of a refresh leaves the standing that it has found. -/
@[simp] theorem settle_standing (s : Standing) (t : Tracker) : (t.settle s).standing = s := rfl

end Tracker

namespace Gate

/-- A gate that admits a standing has nothing to say against it, as whoever has caught up can be
reached. -/
theorem refusal?_of_admits {g : Gate} {s : Standing} (h : g.admits s = true)
    (hactive : s.synced = true → s.active = true) : g.refusal? s = none := by
  cases g with
  | «open» => rfl
  | active =>
      show (if s.active then none else _) = _
      rw [show s.active = true from h]
      rfl
  | synced =>
      show (if !s.active then _ else if !s.synced then _ else none) = _
      rw [hactive h, show s.synced = true from h]
      rfl

theorem refusal?_of_refuses {g : Gate} {s : Standing} (h : g.admits s = false) :
    g.refusal? s = some (if s.active then .notSynced else .notActive) := by
  cases g with
  | «open» => exact absurd h.symm Bool.false_ne_true
  | active =>
      show (if s.active then none else some ClientError.notActive) = _
      rw [show s.active = false from h]
      rfl
  | synced =>
      show (if !s.active then _ else if !s.synced then _ else none) = _
      rw [show s.synced = false from h]
      cases s.active <;> rfl

end Gate

/-- Whoever has caught up can be reached. -/
theorem Standing.active_of_synced_ofProbe {outcome : Except ClientError SyncState}
    (h : (Standing.ofProbe outcome).synced = true) : (Standing.ofProbe outcome).active = true := by
  cases outcome with
  | ok s => rfl
  | error e => exact absurd h Bool.false_ne_true

/-! ## §2. Where a task gets to. -/

namespace Service

theorem wake_of_running {s : Service} (h : s.cancelled = false) (p : Pending)
    (outcome : Except TransportError Value) : s.wake p (some outcome) = s.answer p outcome := by
  unfold wake
  rw [if_neg (by rw [h]; exact Bool.false_ne_true)]

theorem dispatch_of_running {s : Service} (h : s.cancelled = false) (op : Operation) :
    s.dispatch op = { service := s, progress := .waiting (.calling op) } := by
  unfold dispatch
  rw [if_neg (by rw [h]; exact Bool.false_ne_true)]

theorem proceed_of_admits {op : Operation} {s : Service}
    (h : op.gate.refusal? s.tracker.standing = none) : s.proceed (.call op) = s.dispatch op := by
  unfold proceed
  simp only [h]

theorem proceed_of_refusal {op : Operation} {s : Service} {e : ClientError}
    (h : op.gate.refusal? s.tracker.standing = some e) :
    s.proceed (.call op) = s.finish op (.error e) := by
  unfold proceed
  simp only [h]

theorem refresh_of_busy {s : Service} (h : s.tracker.busy = true) (task : Task) :
    s.refresh task = s.proceed task := by
  unfold refresh
  simp only [(Tracker.claim_eq_none_iff _).mpr h]

theorem refresh_of_free {s : Service} (h : s.tracker.busy = false) (hrunning : s.cancelled = false)
    (task : Task) :
    s.refresh task = { service := { s with tracker := { s.tracker with busy := true } },
                       progress := .waiting (.probing task s.tracker.standing) } := by
  unfold refresh
  simp only [(Tracker.claim_eq_some_iff _ _).mpr ⟨h, rfl⟩]
  rw [if_neg (by rw [hrunning]; exact Bool.false_ne_true)]

/-- A refresh of a cancelled client ends at once. -/
theorem refresh_of_cancelled {s : Service} (h : s.tracker.busy = false)
    (hcancelled : s.cancelled = true) (task : Task) :
    s.refresh task = { s with tracker := { s.tracker with busy := true } }.conclude task
      s.tracker.standing (.error .cancelled) := by
  unfold refresh
  simp only [(Tracker.claim_eq_some_iff _ _).mpr ⟨h, rfl⟩]
  rw [if_pos hcancelled]

theorem start_call_of_flaw {op : Operation} {reason : String} (h : op.flaw? = some reason)
    (s : Service) : s.start (.call op) = s.finish op (.error (.invalidOptions reason)) := by
  unfold start
  simp only [h]

theorem start_call_of_admits {op : Operation} {s : Service} (h : op.flaw? = none)
    (hadmits : op.gate.admits s.tracker.standing = true) :
    s.start (.call op) = s.dispatch op := by
  unfold start
  simp only [h]
  rw [if_pos hadmits]

theorem start_call_of_refuses {op : Operation} {s : Service} (h : op.flaw? = none)
    (hrefuses : op.gate.admits s.tracker.standing = false) :
    s.start (.call op) = s.refresh (.call op) := by
  unfold start
  simp only [h]
  rw [if_neg (by rw [hrefuses]; exact Bool.false_ne_true)]

/-- Where a refresh gets to: it leaves the node to another refresh, or it claims the slot and waits
with a probe, unless the client is cancelled. -/
theorem refresh_turn (task : Task) (s : Service) :
    s.refresh task = s.proceed task ∨
    (s.cancelled = true ∧
      s.refresh task = { s with tracker := { s.tracker with busy := true } }.conclude task
        s.tracker.standing (.error .cancelled)) ∨
    (s.cancelled = false ∧
      s.refresh task = { service := { s with tracker := { s.tracker with busy := true } },
                         progress := .waiting (.probing task s.tracker.standing) }) := by
  cases hbusy : s.tracker.busy with
  | true => exact .inl (refresh_of_busy hbusy task)
  | false =>
      rcases Bool.eq_false_or_eq_true s.cancelled with hcancelled | hcancelled
      · exact .inr (.inl ⟨hcancelled, refresh_of_cancelled hbusy hcancelled task⟩)
      · exact .inr (.inr ⟨hcancelled, refresh_of_free hbusy hcancelled task⟩)

/-- **Where a call gets to that starts:** it fails at once, hands its request over, or refreshes the
tracker. -/
theorem start_call_turn (op : Operation) (s : Service) :
    (∃ e, s.start (.call op) = s.finish op (.error e)) ∨
    s.start (.call op) = s.dispatch op ∨
    s.start (.call op) = s.refresh (.call op) := by
  cases hflaw : op.flaw? with
  | some reason => exact .inl ⟨_, start_call_of_flaw hflaw s⟩
  | none =>
      cases hadmits : op.gate.admits s.tracker.standing with
      | true => exact .inr (.inl (start_call_of_admits hflaw hadmits))
      | false => exact .inr (.inr (start_call_of_refuses hflaw hadmits))

/-! ## §3. The service after a step. -/

@[simp] theorem dispatch_service (op : Operation) (s : Service) :
    (s.dispatch op).service = s := by
  unfold dispatch
  split <;> rfl

@[simp] theorem proceed_service (task : Task) (s : Service) : (s.proceed task).service = s := by
  cases task with
  | check => rfl
  | call op =>
      cases h : op.gate.refusal? s.tracker.standing with
      | some e =>
          rw [proceed_of_refusal h]
          rfl
      | none =>
          rw [proceed_of_admits h]
          exact dispatch_service op s

@[simp] theorem conclude_service (task : Task) (was : Standing)
    (outcome : Except ClientError SyncState) (s : Service) :
    (s.conclude task was outcome).service
      = { s with tracker := s.tracker.settle (.ofProbe outcome) } := by
  unfold conclude
  exact proceed_service task _

/-- The answer to a probe settles the tracker. -/
@[simp] theorem answer_probing_tracker (task : Task) (was : Standing)
    (outcome : Except TransportError Value) (s : Service) :
    (s.answer (.probing task was) outcome).service.tracker
      = s.tracker.settle (.ofProbe (Method.syncing.receive Operation.syncing.read outcome)) :=
  congrArg Service.tracker (conclude_service task was _ s)

end Service

end NodeClient
