/-
  NodeClient.Proofs.Http.Outcome
  ──────────────────────────────
  **What a reply means, by what is to be seen in it.**

  Three things count in a reply: the error object in its body, its status, and the result in its
  body, in this order.  Each of them has a predicate of its own (`HasError`, `isFailure`,
  `HasResult`), and there is one lemma for each step of the order:

      HasError e                        →  what the error object says
      no error, status of a failure     →  refused with that status
      no error, good status, no JSON    →  malformed
      no error, good status, no result  →  invalid
      no error, good status, result v   →  v
-/
import NodeClient.Http.Outcome

namespace NodeClient

open Json

namespace Http

/-! ## §1. What is to be seen in a reply. -/

/-- The statuses of failures are those from 400 to 599. -/
theorem isFailure_iff (status : Nat) : isFailure status = true ↔ 400 ≤ status ∧ status < 600 := by
  unfold isFailure
  rw [Bool.and_eq_true, decide_eq_true_iff, decide_eq_true_iff]

/-- What a value has for an error object. -/
theorem errorMember?_eq_some_iff (reply e : Value) :
    errorMember? reply = some e ↔ reply.get? "error" = some e ∧ e ≠ .null := by
  unfold errorMember?
  split
  · next hnull =>
      constructor
      · intro h
        cases h
      · rintro ⟨h, hne⟩
        rw [hnull] at h
        exact absurd (Option.some.inj h).symm hne
  · next hother =>
      constructor
      · intro h
        refine ⟨h, ?_⟩
        intro hnull
        rw [hnull] at h
        exact hother h
      · exact And.left

/-- An error object says an error of the node if it decodes as one. -/
theorem ofErrorMember_of_ok {e : Value} {n : NodeError} (h : NodeError.record.decode e = .ok n) :
    ofErrorMember e = .node n := by
  unfold ofErrorMember
  simp only [h]

/-- Otherwise it is undecodable. -/
theorem ofErrorMember_of_error {e : Value} {cause : Mismatch}
    (h : NodeError.record.decode e = .error cause) :
    ofErrorMember e = .undecodable (.mismatch cause) := by
  unfold ofErrorMember
  simp only [h]

theorem ofErrorMember_eq_node_iff (e : Value) (n : NodeError) :
    ofErrorMember e = .node n ↔ NodeError.record.decode e = .ok n := by
  cases hdecode : NodeError.record.decode e with
  | ok m =>
      rw [ofErrorMember_of_ok hdecode, TransportError.node.injEq, Except.ok.injEq]
  | error cause =>
      rw [ofErrorMember_of_error hdecode]
      constructor
      · intro h
        cases h
      · intro h
        cases h

namespace Reply

/-- The body as JSON, if it is JSON. -/
def json? (r : Reply) : Option Value := Value.ofBytes? r.body

/-- The body is an object with this error object, which is not null. -/
def HasError (r : Reply) (e : Value) : Prop :=
  ∃ ms, r.json? = some (.object ms) ∧ Members.get? ms "error" = some e ∧ e ≠ .null

/-- The body is an object with this result, and without an error object unless it is null. -/
def HasResult (r : Reply) (v : Value) : Prop :=
  ∃ ms, r.json? = some (.object ms) ∧
    (Members.get? ms "error" = none ∨ Members.get? ms "error" = some .null) ∧
    Members.get? ms "result" = some v

variable {r : Reply} {reply : Value}

theorem hasError_iff (hjson : r.json? = some reply) (e : Value) :
    r.HasError e ↔ errorMember? reply = some e := by
  rw [errorMember?_eq_some_iff]
  constructor
  · rintro ⟨ms, hms, herror, hne⟩
    rw [hjson] at hms
    cases hms
    exact ⟨herror, hne⟩
  · rintro ⟨herror, hne⟩
    -- only objects have members
    cases reply with
    | object ms => exact ⟨ms, hjson, herror, hne⟩
    | null => cases herror
    | bool b => cases herror
    | number n => cases herror
    | string s => cases herror
    | array items => cases herror

/-- An object without an error object lacks the member, or has null there. -/
theorem error_absent_iff {ms : Members} :
    errorMember? (.object ms) = none ↔
      Members.get? ms "error" = none ∨ Members.get? ms "error" = some .null := by
  have hsome := errorMember?_eq_some_iff (.object ms)
  constructor
  · intro hnone
    cases hget : Members.get? ms "error" with
    | none => exact .inl rfl
    | some e =>
        by_cases hnull : e = .null
        · exact .inr (congrArg some hnull)
        · have hthere := (hsome e).mpr ⟨hget, hnull⟩
          rw [hnone] at hthere
          cases hthere
  · intro habsent
    cases hmember : errorMember? (.object ms) with
    | none => rfl
    | some e =>
        obtain ⟨hget, hne⟩ := (hsome e).mp hmember
        have hget' : Members.get? ms "error" = some e := hget
        rcases habsent with h | h
        · rw [h] at hget'
          cases hget'
        · rw [h] at hget'
          exact absurd (Option.some.inj hget').symm hne

/-- What has a result has no error object. -/
theorem HasResult.not_hasError {v : Value} (h : r.HasResult v) (e : Value) : ¬r.HasError e := by
  obtain ⟨ms, hjson, habsent, _⟩ := h
  intro herror
  have hmember := (hasError_iff hjson e).mp herror
  rw [error_absent_iff.mpr habsent] at hmember
  cases hmember

/-- A reply that is JSON and has no error object. -/
theorem errorMember?_of_not_hasError (h : ∀ e, ¬r.HasError e) (hjson : r.json? = some reply) :
    errorMember? reply = none := by
  cases hmember : errorMember? reply with
  | none => rfl
  | some e => exact absurd ((hasError_iff hjson e).mpr hmember) (h e)

/-! ## §2. The order in which they count. -/

/-- **An error object counts before everything else.** -/
theorem outcome_of_hasError {e : Value} (h : r.HasError e) :
    r.outcome = .error (ofErrorMember e) := by
  obtain ⟨ms, hjson, _⟩ := id h
  have hmember := (hasError_iff hjson e).mp h
  unfold outcome
  rw [show Value.ofBytes? r.body = some (.object ms) from hjson]
  simp only [hmember]

/-- **Without an error object, the status of a failure counts, whatever the body is.** -/
theorem outcome_of_isFailure (h : ∀ e, ¬r.HasError e) (hstatus : isFailure r.status = true) :
    r.outcome = .error (.network (.refused r.status)) := by
  unfold outcome
  cases hjson : Value.ofBytes? r.body with
  | none => simp only [hstatus, if_true]
  | some reply =>
      have hnone := errorMember?_of_not_hasError h hjson
      simp only [hnone, hstatus, if_true]

/-- A body that is no JSON is malformed. -/
theorem outcome_of_no_json (hstatus : isFailure r.status = false) (hjson : r.json? = none) :
    r.outcome = .error (.undecodable .malformed) := by
  unfold outcome
  rw [show Value.ofBytes? r.body = none from hjson]
  simp only [hstatus, Bool.false_eq_true, if_false]

/-- Nothing but the result is left. -/
theorem outcome_of_json (h : ∀ e, ¬r.HasError e) (hstatus : isFailure r.status = false)
    (hjson : r.json? = some reply) : r.outcome = resultOf reply := by
  have hnone := errorMember?_of_not_hasError h hjson
  unfold outcome
  rw [show Value.ofBytes? r.body = some reply from hjson]
  simp only [hnone, hstatus, Bool.false_eq_true, if_false]

/-- Where there is no result the reply is invalid. -/
theorem outcome_of_no_result (h : ∀ e, ¬r.HasError e) (hstatus : isFailure r.status = false)
    (hjson : r.json? = some reply) (hresult : ∀ v, ¬r.HasResult v) :
    ∃ reason, r.outcome = .error (.invalid reason) := by
  rw [outcome_of_json h hstatus hjson]
  unfold resultOf
  split
  · next ms =>
      have habsent := error_absent_iff.mp (errorMember?_of_not_hasError h hjson)
      cases hget : Members.get? ms "result" with
      | none => exact ⟨_, rfl⟩
      | some v => exact absurd ⟨ms, hjson, habsent, hget⟩ (hresult v)
  · exact ⟨_, rfl⟩

/-- The result of a reply that has one and does not tell of a failure. -/
theorem outcome_of_hasResult {v : Value} (hstatus : isFailure r.status = false)
    (h : r.HasResult v) : r.outcome = .ok v := by
  have herror := h.not_hasError
  obtain ⟨ms, hjson, _, hresult⟩ := h
  rw [outcome_of_json herror hstatus hjson]
  unfold resultOf
  simp only [hresult]

/-- One of the steps of the order applies. -/
theorem outcome_cases (r : Reply) :
    (∃ e, r.HasError e ∧ r.outcome = .error (ofErrorMember e)) ∨
    (isFailure r.status = true ∧ r.outcome = .error (.network (.refused r.status))) ∨
    r.outcome = .error (.undecodable .malformed) ∨
    (∃ reason, r.outcome = .error (.invalid reason)) ∨
    ∃ v, isFailure r.status = false ∧ r.HasResult v ∧ r.outcome = .ok v := by
  by_cases herror : ∃ e, r.HasError e
  · obtain ⟨e, he⟩ := herror
    exact .inl ⟨e, he, outcome_of_hasError he⟩
  · have hnone : ∀ e, ¬r.HasError e := fun e he => herror ⟨e, he⟩
    refine .inr ?_
    cases hstatus : isFailure r.status with
    | true => exact .inl ⟨rfl, outcome_of_isFailure hnone hstatus⟩
    | false =>
        refine .inr ?_
        cases hjson : r.json? with
        | none => exact .inl (outcome_of_no_json hstatus hjson)
        | some reply =>
            refine .inr ?_
            by_cases hresult : ∃ v, r.HasResult v
            · obtain ⟨v, hv⟩ := hresult
              exact .inr ⟨v, rfl, hv, outcome_of_hasResult hstatus hv⟩
            · exact .inl (outcome_of_no_result hnone hstatus hjson fun v hv => hresult ⟨v, hv⟩)

/-- **A reply has an outcome without an error exactly if its status is good and it has a
result.** -/
theorem outcome_eq_ok_iff (v : Value) :
    r.outcome = .ok v ↔ isFailure r.status = false ∧ r.HasResult v := by
  constructor
  · intro hok
    rcases r.outcome_cases with ⟨e, _, h⟩ | ⟨_, h⟩ | h | ⟨reason, h⟩ | ⟨w, hstatus, hw, h⟩ <;>
      rw [h] at hok <;> cases hok
    -- only the last step has an outcome without an error
    exact ⟨hstatus, hw⟩
  · rintro ⟨hstatus, hresult⟩
    exact outcome_of_hasResult hstatus hresult

/-- **The node is heard exactly if the reply has an error object that decodes.** -/
theorem outcome_eq_node_iff (n : NodeError) :
    r.outcome = .error (.node n) ↔ ∃ e, r.HasError e ∧ NodeError.record.decode e = .ok n := by
  constructor
  · intro hnode
    rcases r.outcome_cases with ⟨e, he, h⟩ | hrest
    · rw [h] at hnode
      exact ⟨e, he, (ofErrorMember_eq_node_iff e n).mp (Except.error.inj hnode)⟩
    · -- no other step ends with an error of the node
      rcases hrest with ⟨_, h⟩ | h | ⟨reason, h⟩ | ⟨v, _, _, h⟩ <;>
        rw [h] at hnode <;> cases hnode
  · rintro ⟨e, he, hdecode⟩
    rw [outcome_of_hasError he, (ofErrorMember_eq_node_iff e n).mpr hdecode]

end Reply

end Http

end NodeClient
