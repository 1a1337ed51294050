/-
  NodeClient.Proofs.Client.Replies
  ────────────────────────────────
  **What becomes of an HTTP reply, from its status and its body to the one who has called.**

  The reply to the request of a call ends the call, with what the reply means or with an error
  under the method of the call.  So the caller hears an error of the node exactly if this reply
  carries one.  A reply to the probe of a gate never gets that far: whatever is wrong with it, the
  tracker takes the node for inactive, and the caller is told no more than that.

  Main result: `reply_reaches_caller`.
-/
import NodeClient.Proofs.Client.Steps
import NodeClient.Proofs.Http.Outcome
import NodeClient.Proofs.Result

namespace NodeClient

open Json

/-! ## §1. Errors of the node among the ends of a task. -/

/-- The error object of which the one who has called is told. -/
def Ending.nodeError? : Ending → Option NodeError
  | called _ (.error e) => e.nodeError?
  | _ => none

/-- The error object of which the one who has called is told in a turn. -/
def Turn.nodeError? (turn : Turn) : Option NodeError :=
  match turn.progress with
  | .ended e => e.nodeError?
  | .waiting _ => none

/-- A gate has nothing to say of the node's own errors. -/
theorem Gate.nodeError?_of_refusal {g : Gate} {s : Standing} {e : ClientError}
    (h : g.refusal? s = some e) : e.nodeError? = none := by
  -- a refusal is one of two errors, by the gate and the standing alone
  obtain ⟨active, synced⟩ := s
  cases g <;> cases active <;> cases synced <;> cases h <;> rfl

namespace Service

theorem nodeError?_dispatch (op : Operation) (s : Service) : (s.dispatch op).nodeError? = none := by
  unfold dispatch
  split <;> rfl

theorem nodeError?_proceed (task : Task) (s : Service) : (s.proceed task).nodeError? = none := by
  cases task with
  | check => rfl
  | call op =>
      cases h : op.gate.refusal? s.tracker.standing with
      | some e =>
          rw [proceed_of_refusal h]
          exact Gate.nodeError?_of_refusal h
      | none =>
          rw [proceed_of_admits h]
          exact nodeError?_dispatch op s

/-- The end of a refresh tells the caller nothing of the answer to the probe. -/
theorem nodeError?_conclude (task : Task) (was : Standing)
    (outcome : Except ClientError SyncState) (s : Service) :
    (s.conclude task was outcome).nodeError? = none := by
  unfold conclude
  exact nodeError?_proceed task _

theorem nodeError?_refresh (task : Task) (s : Service) : (s.refresh task).nodeError? = none := by
  cases hbusy : s.tracker.busy with
  | true =>
      rw [refresh_of_busy hbusy]
      exact nodeError?_proceed task s
  | false =>
      cases hcancelled : s.cancelled with
      | true =>
          rw [refresh_of_cancelled hbusy hcancelled]
          exact nodeError?_conclude ..
      | false =>
          rw [refresh_of_free hbusy hcancelled]
          rfl

/-- **No task is told of an error of the node when it starts.** -/
theorem nodeError?_start (task : Task) (s : Service) : (s.start task).nodeError? = none := by
  cases task with
  | check => exact nodeError?_refresh .check s
  | call op =>
      cases hflaw : op.flaw? with
      | some reason =>
          rw [start_call_of_flaw hflaw]
          rfl
      | none =>
          cases hadmits : op.gate.admits s.tracker.standing with
          | true =>
              rw [start_call_of_admits hflaw hadmits]
              exact nodeError?_dispatch op s
          | false =>
              rw [start_call_of_refuses hflaw hadmits]
              exact nodeError?_refresh (.call op) s

theorem nodeError?_interrupt (p : Pending) (s : Service) : (s.interrupt p).nodeError? = none := by
  cases p with
  | probing task was => exact nodeError?_conclude ..
  | calling op => rfl

/-- The call is told of an error of the node exactly if it is the outcome of its request. -/
theorem nodeError?_answer_calling (op : Operation) (outcome : Except TransportError Value)
    (s : Service) (n : NodeError) :
    (s.answer (.calling op) outcome).nodeError? = some n ↔ outcome = .error (.node n) := by
  show Ending.nodeError? (.called op (op.method.receive op.read outcome)) = some n ↔ _
  -- what is no error of the node at the transport is none for the caller
  have hquiet : ∀ {P : Prop}, ¬P → ((none : Option NodeError) = some n ↔ P) :=
    fun hP => iff_of_false (Option.some_ne_none n).symm hP
  cases outcome with
  | ok v =>
      show Ending.nodeError? (.called op ((op.read v).mapError _)) = some n ↔ _
      cases op.read v <;> exact hquiet (by simp)
  | error e =>
      cases e with
      | node m =>
          show some m = some n ↔ _
          rw [Option.some.injEq, Except.error.injEq, TransportError.node.injEq]
      | network fault => exact hquiet (by simp)
      | undecodable flaw => exact hquiet (by simp)
      | invalid reason => exact hquiet (by simp)

/-- **A task is told of an error of the node when it wakes exactly if it is a call, the client is
not cancelled, and the error is the outcome of the call's own request.** -/
theorem nodeError?_wake_iff (p : Pending) (outcome : Option (Except TransportError Value))
    (s : Service) (n : NodeError) :
    (s.wake p outcome).nodeError? = some n ↔
      s.cancelled = false ∧ (∃ op, p = .calling op) ∧ outcome = some (.error (.node n)) := by
  unfold wake
  cases hcancelled : s.cancelled with
  | true =>
      rw [if_pos rfl, nodeError?_interrupt]
      simp
  | false =>
      rw [if_neg Bool.false_ne_true]
      cases outcome with
      | none => simp [Turn.nodeError?]
      | some outcome =>
          cases p with
          | probing task was =>
              show (s.conclude task was _).nodeError? = some n ↔ _
              rw [nodeError?_conclude]
              simp
          | calling op =>
              show (s.answer (.calling op) outcome).nodeError? = some n ↔ _
              rw [nodeError?_answer_calling]
              simp

end Service

/-! ## §2. Replies. -/

/-- The task hears of an error of the node over HTTP exactly if there is a reply that carries it. -/
theorem Http.outcomeOf_eq_node_iff (x : Http.Exchange) (n : NodeError) :
    Http.outcomeOf x = .error (.node n) ↔
      ∃ r e, x = .ok r ∧ r.HasError e ∧ NodeError.record.decode e = .ok n := by
  cases x with
  | error fault =>
      constructor
      · intro h
        cases h
      · rintro ⟨r, e, h, _⟩
        cases h
  | ok r =>
      show r.outcome = _ ↔ _
      rw [Http.Reply.outcome_eq_node_iff]
      constructor
      · rintro ⟨e, he, hdecode⟩
        exact ⟨r, e, rfl, he, hdecode⟩
      · rintro ⟨_, e, h, he, hdecode⟩
        cases h
        exact ⟨e, he, hdecode⟩

/-- **The meaning of a reply, and what the one who has called hears of it.**  A reply means its
result exactly if it has one, no error object and no status of a failure.  Otherwise an error
object counts first, then the status, then whether the body is JSON at all.  A call that waits for
its own request ends with what the reply means; and no task is ever told of an error of the node,
at no turn, unless the reply to its own request carries this error. -/
theorem reply_reaches_caller :
    (∀ r : Http.Reply,
      let failure := 400 ≤ r.status ∧ r.status < 600
      (∀ v, r.outcome = .ok v ↔ ¬failure ∧ r.HasResult v) ∧
      (∀ e n, r.HasError e → NodeError.record.decode e = .ok n →
        r.outcome = .error (.node n)) ∧
      (∀ e cause, r.HasError e → NodeError.record.decode e = .error cause →
        r.outcome = .error (.undecodable (.mismatch cause))) ∧
      ((∀ e, ¬r.HasError e) → failure → r.outcome = .error (.network (.refused r.status))) ∧
      ((∀ e, ¬r.HasError e) → ¬failure → r.json? = none →
        r.outcome = .error (.undecodable .malformed)) ∧
      ((∀ e, ¬r.HasError e) → ¬failure → (∀ v, ¬r.HasResult v) → ∀ reply, r.json? = some reply →
        ∃ reason, r.outcome = .error (.invalid reason))) ∧
    (∀ (s : Service) (op : Operation) (r : Http.Reply), s.cancelled = false →
      let turn := s.wake (.calling op) (some (Http.outcomeOf (.ok r)))
      turn.progress = .ended (.called op (op.method.receive op.read r.outcome)) ∧
      ∀ n, turn.nodeError? = some n ↔
        ∃ e, r.HasError e ∧ NodeError.record.decode e = .ok n) ∧
    (∀ (s : Service) (task : Task), (s.start task).nodeError? = none) ∧
    ∀ (s : Service) (p : Pending) (x : Option Http.Exchange) (n : NodeError),
      (s.wake p (x.map Http.outcomeOf)).nodeError? = some n →
        ∃ op r e, p = .calling op ∧ x = some (.ok r) ∧ r.HasError e ∧
          NodeError.record.decode e = .ok n := by
  refine ⟨?_, ?_, fun s task => s.nodeError?_start task, ?_⟩
  · intro r failure
    have hgood : ¬failure → Http.isFailure r.status = false := by
      intro h
      rw [← Bool.not_eq_true, Http.isFailure_iff]
      exact h
    refine ⟨?_, ?_, ?_, ?_, ?_, ?_⟩
    · intro v
      rw [Http.Reply.outcome_eq_ok_iff, ← Bool.not_eq_true, Http.isFailure_iff]
    · intro e n he hdecode
      rw [Http.Reply.outcome_of_hasError he, Http.ofErrorMember_of_ok hdecode]
    · intro e cause he hdecode
      rw [Http.Reply.outcome_of_hasError he, Http.ofErrorMember_of_error hdecode]
    · intro hnone hfailure
      exact Http.Reply.outcome_of_isFailure hnone ((Http.isFailure_iff _).mpr hfailure)
    · intro hnone hfailure hjson
      exact Http.Reply.outcome_of_no_json (hgood hfailure) hjson
    · intro hnone hfailure hresult reply hjson
      exact Http.Reply.outcome_of_no_result hnone (hgood hfailure) hjson hresult
  · intro s op r hs turn
    refine ⟨?_, ?_⟩
    · show (s.wake (.calling op) (some r.outcome)).progress = _
      rw [Service.wake_of_running hs]
      rfl
    · intro n
      show (s.wake (.calling op) (some r.outcome)).nodeError? = some n ↔ _
      rw [Service.wake_of_running hs, Service.nodeError?_answer_calling,
        Http.Reply.outcome_eq_node_iff]
  · intro s p x n h
    obtain ⟨_, ⟨op, hop⟩, houtcome⟩ := (s.nodeError?_wake_iff p _ n).mp h
    obtain ⟨exchange, hx, hnode⟩ := Option.map_eq_some_iff.mp houtcome
    obtain ⟨r, e, hr, he, hdecode⟩ := (Http.outcomeOf_eq_node_iff exchange n).mp hnode
    exact ⟨op, r, e, hop, by rw [hx, hr], he, hdecode⟩

/-- A reply with everything at once: the status of a failure, a result, and an error object, which
is listed instead of spelt out. -/
def crowdedReply : Http.Reply where
  status := 503
  body := "\x7b\"result\":1,\"error\":[24,\"gone\"]\x7d".toUTF8.toList

/-- The one who has called hears the error object. -/
theorem reply_reaches_caller_crowded :
    let s : Service := { address := "", websocketAddress := "" }
    let turn := s.wake (.calling .blockNumber) (some (Http.outcomeOf (.ok crowdedReply)))
    crowdedReply.outcome = .error (.node ⟨24, "gone", none⟩) ∧
      turn.nodeError? = some ⟨24, "gone", none⟩ := by
  intro s turn
  have hseen : (((crowdedReply.json?.bind Http.errorMember?).bind fun e =>
      (NodeError.record.decode e).toOption).any fun n =>
        n.code == 24 && n.message == "gone" && n.data.isNone) = true := by decide +kernel
  obtain ⟨⟨code, message, data⟩, hn, hparts⟩ := (Option.any_eq_true _ _).mp hseen
  simp only [Bool.and_eq_true, beq_iff_eq, Option.isNone_iff_eq_none] at hparts
  obtain ⟨⟨rfl, rfl⟩, rfl⟩ := hparts
  obtain ⟨e, he, hn⟩ := Option.bind_eq_some_iff.mp hn
  obtain ⟨reply, hjson, hmember⟩ := Option.bind_eq_some_iff.mp he
  have herror : crowdedReply.HasError e := (Http.Reply.hasError_iff hjson e).mpr hmember
  have hdecode : NodeError.record.decode e = .ok ⟨24, "gone", none⟩ :=
    (toOption_eq_some_iff _ _).mp hn
  obtain ⟨hreply, hcalling, _⟩ := reply_reaches_caller
  refine ⟨(hreply crowdedReply).2.1 e _ herror hdecode, ?_⟩
  exact ((hcalling s .blockNumber crowdedReply rfl).2 _).mpr ⟨e, herror, hdecode⟩

end NodeClient
