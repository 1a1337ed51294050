/-
  NodeClient.Proofs.Client.Points
  ───────────────────────────────
  What the steps of a task come to, with nobody in between and with anybody.

  With nobody in between the steps are a turn (`rush_entrance`, `onward_step_waiting`): one lemma
  for each function of the service, in the order in which a task comes to its end.

  With anybody in between a task is followed through a list of moments (`walk`), at each of which
  it finds the service as the others have left it.  A refresh that holds the slot hands nothing to
  the transport until it is over, whatever it finds (`walk_settling`).
-/
import NodeClient.Client.Points
import NodeClient.Proofs.Client.Steps

namespace NodeClient

open Json

/-! ## §1. Single steps. -/

namespace Service

variable {s : Service} {op : Operation} {outcome : Option (Except TransportError Value)}

theorem step_entering_of_flaw {reason : String} (h : op.flaw? = some reason) :
    s.step outcome (.entering op)
      = { service := s, point := .ended (.called op (.error (.invalidOptions reason))) } := by
  show s.enter op = _
  simp [enter, h]

theorem step_entering_of_admits (h : op.flaw? = none)
    (hadmits : op.gate.admits s.tracker.standing = true) :
    s.step outcome (.entering op) = { service := s, point := .sending op } := by
  show s.enter op = _
  simp [enter, h, hadmits]

theorem step_entering_of_refuses (h : op.flaw? = none)
    (hrefuses : op.gate.admits s.tracker.standing = false) :
    s.step outcome (.entering op) = { service := s, point := .noting (.call op) } := by
  show s.enter op = _
  simp [enter, h, hrefuses]

theorem step_claiming_of_busy (h : s.tracker.busy = true) (task : Task) (was : Standing) :
    s.step outcome (.claiming task was) = { service := s, point := .looking task } := by
  show s.tryClaim task was = _
  simp [tryClaim, (Tracker.claim_eq_none_iff _).mpr h]

theorem step_claiming_of_free (h : s.tracker.busy = false) (task : Task) (was : Standing) :
    s.step outcome (.claiming task was)
      = { service := { s with tracker := { s.tracker with busy := true } }
          point := .asking task was } := by
  show s.tryClaim task was = _
  simp [tryClaim, (Tracker.claim_eq_some_iff _ _).mpr ⟨h, rfl⟩]

theorem step_asking_of_running (h : s.cancelled = false) (task : Task) (was : Standing) :
    s.step outcome (.asking task was)
      = { service := s, sent := some (.probing task was)
          point := .waiting (.probing task was) } := by
  show s.ask task was = _
  simp [ask, h]

theorem step_asking_of_cancelled (h : s.cancelled = true) (task : Task) (was : Standing) :
    s.step outcome (.asking task was)
      = { service := s, point := .storing task was (.error .cancelled) } := by
  show s.ask task was = _
  simp [ask, h]

/-- Without an outcome a task waits on. -/
theorem step_waiting_none (h : s.cancelled = false) (p : Pending) :
    s.step none (.waiting p) = { service := s, point := .waiting p } := by
  show s.await p none = _
  simp [await, h]

theorem step_waiting_of_running (h : s.cancelled = false) (p : Pending)
    (outcome : Except TransportError Value) :
    s.step (some outcome) (.waiting p) = { service := s, point := p.answered outcome } := by
  show s.await p (some outcome) = _
  simp [await, h]

theorem step_waiting_of_cancelled (h : s.cancelled = true) (p : Pending) :
    s.step outcome (.waiting p) = { service := s, point := p.interrupted } := by
  show s.await p outcome = _
  simp [await, h]

theorem step_looking_of_admits (h : op.gate.refusal? s.tracker.standing = none) :
    s.step outcome (.looking (.call op)) = { service := s, point := .sending op } := by
  show s.look (.call op) = _
  simp [look, h]

theorem step_looking_of_refusal {e : ClientError}
    (h : op.gate.refusal? s.tracker.standing = some e) :
    s.step outcome (.looking (.call op))
      = { service := s, point := .ended (.called op (.error e)) } := by
  show s.look (.call op) = _
  simp [look, h]

theorem step_sending_of_running (h : s.cancelled = false) (op : Operation) :
    s.step outcome (.sending op)
      = { service := s, sent := some (.calling op), point := .waiting (.calling op) } := by
  show s.send op = _
  simp [send, h]

theorem step_sending_of_cancelled (h : s.cancelled = true) (op : Operation) :
    s.step outcome (.sending op)
      = { service := s, point := .ended (.called op (.error .cancelled)) } := by
  show s.send op = _
  simp [send, h]

end Service

/-! ## §2. Nobody in between. -/

/-- A turn as the step that it comes to. -/
def Turn.pace (turn : Turn) : Pace :=
  match turn.progress with
  | .waiting p =>
      { service := turn.service, entries := turn.entries, sent := some p, point := .waiting p }
  | .ended e => { service := turn.service, entries := turn.entries, point := .ended e }

namespace Service

/-- Several steps of a task with nobody in between. -/
def rush : Nat → Service → Point → Pace
  | 0, s, point => { service := s, point }
  | n + 1, s, point =>
      let next := s.step none point
      let rest := rush n next.service next.point
      { rest with entries := next.entries ++ rest.entries, sent := next.sent <|> rest.sent }

end Service

/-- Several more steps with nobody in between. -/
def Pace.onward (n : Nat) (pace : Pace) : Pace :=
  let rest := pace.service.rush n pace.point
  { rest with entries := pace.entries ++ rest.entries, sent := pace.sent <|> rest.sent }

namespace Service

variable {s : Service} {op : Operation}

theorem rush_succ (n : Nat) (s : Service) (point : Point) :
    s.rush (n + 1) point = (s.step none point).onward n := rfl

/-- A step that tells nothing and hands nothing over leaves no trace. -/
@[simp] theorem onward_silent (n : Nat) (s : Service) (point : Point) :
    Pace.onward n { service := s, point } = s.rush n point := by
  simp [Pace.onward]

theorem rush_ended (n : Nat) (s : Service) (e : Ending) :
    s.rush n (.ended e) = { service := s, point := .ended e } := by
  induction n with
  | zero => rfl
  | succ n ih =>
      rw [rush_succ]
      show Pace.onward n { service := s, point := .ended e } = _
      rw [onward_silent, ih]

theorem rush_waiting (h : s.cancelled = false) (n : Nat) (p : Pending) :
    s.rush n (.waiting p) = { service := s, point := .waiting p } := by
  induction n with
  | zero => rfl
  | succ n ih =>
      rw [rush_succ, step_waiting_none h, onward_silent, ih]

theorem rush_sending (n : Nat) (s : Service) (op : Operation) :
    s.rush (n + 1) (.sending op) = (s.dispatch op).pace := by
  rw [rush_succ]
  cases h : s.cancelled with
  | true =>
      rw [step_sending_of_cancelled h, onward_silent, rush_ended, dispatch, if_pos h]
      rfl
  | false =>
      rw [step_sending_of_running h, dispatch_of_running h]
      unfold Pace.onward
      rw [rush_waiting h]
      rfl

theorem rush_looking (n : Nat) (s : Service) (task : Task) :
    s.rush (n + 2) (.looking task) = (s.proceed task).pace := by
  rw [rush_succ]
  cases task with
  | check =>
      show Pace.onward (n + 1) { service := s, point := .ended .checked } = _
      rw [onward_silent, rush_ended]
      rfl
  | call op =>
      cases h : op.gate.refusal? s.tracker.standing with
      | some e =>
          rw [step_looking_of_refusal h, onward_silent, rush_ended, proceed_of_refusal h]
          rfl
      | none =>
          rw [step_looking_of_admits h, onward_silent, rush_sending, proceed_of_admits h]

theorem rush_publishing (n : Nat) (s : Service) (task : Task) (now : Standing)
    (left : List Connection) :
    s.rush (n + (left.length + 1)) (.publishing task now left)
      = Service.rush n { s with tracker := (left.foldl (fun t c => t.publish now c) s.tracker).release }
          (.looking task) := by
  induction left generalizing s with
  | nil =>
      rw [List.length_nil, Nat.zero_add, rush_succ]
      exact onward_silent n _ _
  | cons c left ih =>
      rw [List.length_cons, ← Nat.add_assoc, rush_succ]
      exact (onward_silent _ _ _).trans (ih { s with tracker := s.tracker.publish now c })

/-- Storing, publishing and leaving the slot come to `Tracker.settle`. -/
theorem rush_storing (n : Nat) (s : Service) (task : Task) (was : Standing)
    (outcome : Except ClientError SyncState) :
    s.rush (n + 7) (.storing task was outcome) = (s.conclude task was outcome).pace := by
  let now := Standing.ofProbe outcome
  let stored : Service := { s with tracker := s.tracker.store now }
  let settled : Service := { s with tracker := s.tracker.settle now }
  have hstep : s.step none (.storing task was outcome)
      = { service := stored, entries := refreshEntries was outcome
          point := .publishing task now Connection.all } := rfl
  have hpublished : stored.rush (n + 6) (.publishing task now Connection.all)
      = settled.rush (n + 2) (.looking task) := rush_publishing (n + 2) stored task now Connection.all
  rw [rush_succ, hstep]
  unfold Pace.onward
  rw [hpublished, rush_looking n settled task]
  show _ = Turn.pace { settled.proceed task with
    entries := refreshEntries was outcome ++ (settled.proceed task).entries }
  unfold Turn.pace
  cases (settled.proceed task).progress <;> rfl

/-- A refresh that finds the slot taken goes on at once, and one that gets it makes its request,
unless the client is cancelled. -/
theorem rush_noting (n : Nat) (s : Service) (task : Task) :
    s.rush (n + 10) (.noting task) = (s.refresh task).pace := by
  have hnoted : s.rush (n + 10) (.noting task)
      = s.rush (n + 9) (.claiming task s.tracker.standing) := onward_silent (n + 9) s _
  rw [hnoted, rush_succ]
  cases hbusy : s.tracker.busy with
  | true =>
      rw [refresh_of_busy hbusy, step_claiming_of_busy hbusy, onward_silent]
      exact rush_looking (n + 6) s task
  | false =>
      let held : Service := { s with tracker := { s.tracker with busy := true } }
      rw [step_claiming_of_free hbusy, onward_silent, rush_succ]
      rcases Bool.eq_false_or_eq_true s.cancelled with hcancelled | hcancelled
      · rw [refresh_of_cancelled hbusy hcancelled, step_asking_of_cancelled (s := held) hcancelled,
          onward_silent]
        exact rush_storing n held task _ _
      · rw [refresh_of_free hbusy hcancelled, step_asking_of_running (s := held) hcancelled]
        unfold Pace.onward
        rw [rush_waiting (s := held) hcancelled]
        rfl

/-- **The first turn of a task is its first steps with nobody in between.** -/
theorem rush_entrance (n : Nat) (s : Service) (task : Task) :
    s.rush (n + 11) task.entrance = (s.start task).pace := by
  cases task with
  | check => exact rush_noting (n + 1) s .check
  | call op =>
      show s.rush (n + 11) (.entering op) = _
      rw [rush_succ]
      cases hflaw : op.flaw? with
      | some reason =>
          rw [start_call_of_flaw hflaw, step_entering_of_flaw hflaw, onward_silent, rush_ended]
          rfl
      | none =>
          cases hadmits : op.gate.admits s.tracker.standing with
          | true =>
              rw [start_call_of_admits hflaw hadmits, step_entering_of_admits hflaw hadmits,
                onward_silent, rush_sending (n + 9)]
          | false =>
              rw [start_call_of_refuses hflaw hadmits, step_entering_of_refuses hflaw hadmits,
                onward_silent, rush_noting n]

/-- Going on with an outcome is the steps that follow it. -/
theorem rush_answered (n : Nat) (s : Service) (p : Pending)
    (outcome : Except TransportError Value) :
    s.rush (n + 7) (p.answered outcome) = (s.answer p outcome).pace := by
  cases p with
  | probing task was => exact rush_storing n s task was _
  | calling op => exact rush_ended _ s _

/-- Going on when the client is cancelled is the steps that follow that. -/
theorem rush_interrupted (n : Nat) (s : Service) (p : Pending) :
    s.rush (n + 7) p.interrupted = (s.interrupt p).pace := by
  cases p with
  | probing task was => exact rush_storing n s task was _
  | calling op => exact rush_ended _ s _

/-- **A later turn is the steps from the outcome of its request on.** -/
theorem onward_step_waiting (n : Nat) (s : Service) (p : Pending)
    (outcome : Except TransportError Value) :
    (s.step (some outcome) (.waiting p)).onward (n + 7) = (s.wake p (some outcome)).pace := by
  cases h : s.cancelled with
  | true =>
      rw [step_waiting_of_cancelled h, onward_silent, rush_interrupted, wake, if_pos h]
  | false => rw [step_waiting_of_running h, onward_silent, rush_answered, wake_of_running h]

end Service

/-! ## §3. Anybody in between. -/

/-- What a task finds when it takes a step. -/
structure Moment where
  /-- The service as the others have left it. -/
  found : Service
  /-- How the request of the task has ended, if it waits with one. -/
  outcome : Except TransportError Value

/-- What a task does from some point on. -/
structure Course where
  /-- What it hands to the transport: the name of a method, and its parameters. -/
  requests : List (String × Value)
  /-- How it ends, unless it has more steps to take. -/
  ending : Option Ending

/-- The task hands this over first, if anything. -/
def Course.after (sent : Option Pending) (c : Course) : Course :=
  { c with requests := (sent.map fun p => (p.method.name, p.params)).toList ++ c.requests }

/-- Follows a task from one moment to the next. -/
def walk : List Moment → Point → Course
  | [], .ended e => ⟨[], some e⟩
  | [], _ => ⟨[], none⟩
  | m :: moments, point =>
      let next := m.found.step (some m.outcome) point
      (walk moments next.point).after next.sent

@[simp] theorem Course.after_none (c : Course) : c.after none = c := rfl

/-- A step that is known. -/
theorem walk_of_step {m : Moment} {point : Point} {next : Pace}
    (h : m.found.step (some m.outcome) point = next) (moments : List Moment) :
    walk (m :: moments) point = (walk moments next.point).after next.sent := by
  rw [← h]
  rfl

@[simp] theorem walk_ended (moments : List Moment) (e : Ending) :
    walk moments (.ended e) = ⟨[], some e⟩ := by
  induction moments with
  | nil => rfl
  | cons m moments ih =>
      show (walk moments (.ended e)).after none = _
      rw [ih]
      rfl

/-- The refresh holds the slot, has made its request, and is over after so many steps. -/
inductive Settling (task : Task) : Nat → Point → Prop where
  | waiting (was : Standing) : Settling task 6 (.waiting (.probing task was))
  | storing (was : Standing) (outcome : Except ClientError SyncState) :
      Settling task 5 (.storing task was outcome)
  | publishing (now : Standing) (left : List Connection) :
      Settling task (left.length + 1) (.publishing task now left)
  | looking : Settling task 0 (.looking task)

namespace Settling

variable {task : Task} {left : Nat} {point : Point}

/-- No step of such a refresh hands anything over. -/
theorem step (h : Settling task (left + 1) point) (m : Moment) :
    (m.found.step (some m.outcome) point).sent = none ∧
      Settling task left (m.found.step (some m.outcome) point).point := by
  generalize hsteps : left + 1 = steps at h
  cases h with
  | waiting was =>
      obtain rfl : left = 5 := by omega
      cases hcancelled : m.found.cancelled with
      | true =>
          rw [Service.step_waiting_of_cancelled hcancelled]
          exact ⟨rfl, .storing was _⟩
      | false =>
          rw [Service.step_waiting_of_running hcancelled]
          exact ⟨rfl, .storing was _⟩
  | storing was outcome =>
      obtain rfl : left = 4 := by omega
      exact ⟨rfl, .publishing _ Connection.all⟩
  | publishing now connections =>
      cases connections with
      | nil =>
          obtain rfl : left = 0 := by simpa using hsteps
          exact ⟨rfl, .looking⟩
      | cons c connections =>
          obtain rfl : left = connections.length + 1 := by simpa using hsteps
          exact ⟨rfl, .publishing now connections⟩
  | looking => cases hsteps

end Settling

/-- **A refresh that has made its request hands nothing over until it is over.** -/
theorem walk_settling {task : Task} {left : Nat} {point : Point} (h : Settling task left point)
    {settle : List Moment} (hlength : settle.length = left) (rest : List Moment) :
    walk (settle ++ rest) point = walk rest (.looking task) := by
  induction settle generalizing left point with
  | nil =>
      obtain rfl : left = 0 := hlength.symm
      generalize hzero : 0 = steps at h
      cases h with
      | looking => rfl
      | _ => omega
  | cons m settle ih =>
      obtain rfl : left = settle.length + 1 := hlength.symm
      obtain ⟨hsent, hnext⟩ := h.step m
      show (walk (settle ++ rest) _).after (m.found.step (some m.outcome) point).sent = _
      rw [hsent, ih hnext rfl]
      rfl

/-- Before it is over it has no ending either. -/
theorem walk_settling_of_lt {task : Task} {left : Nat} {point : Point} (h : Settling task left point)
    {settle : List Moment} (hlength : settle.length < left) : walk settle point = ⟨[], none⟩ := by
  induction settle generalizing left point with
  | nil =>
      cases h with
      | looking => simp at hlength
      | _ => rfl
  | cons m settle ih =>
      obtain ⟨before, rfl⟩ : ∃ before, left = before + 1 := ⟨left - 1, by simp at hlength; omega⟩
      obtain ⟨hsent, hnext⟩ := h.step m
      show (walk settle _).after (m.found.step (some m.outcome) point).sent = _
      rw [hsent, ih hnext (by simpa using hlength)]
      rfl

end NodeClient
