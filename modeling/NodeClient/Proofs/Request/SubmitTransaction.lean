/-
  NodeClient.Proofs.Request.SubmitTransaction
  ───────────────────────────────────────────
  **Which transactions are submitted, and with which version.**

  A request to submit a transaction is looked at by the variant of the transaction, and what is
  sent has the version of its payload.  The two agree but for the query marker: a transaction that
  has been read fits its variant, and so it does after any edits, but it may have been a query
  from the start or have been marked since.  Nothing stops it then, so the node is sent a
  transaction that is only good for simulation.

  Main result: `submitted_executable_iff`.
-/
import NodeClient.Client.Operation
import NodeClient.Proofs.Transaction.Edits

namespace NodeClient

open Json

/-! ## §1. Executable invoke transactions. -/

/-- The object is an invoke transaction of the variant that a node executes: it has the version of
the variant and no query marker. -/
def Json.Value.IsExecutableInvoke (sent : Value) (variant : Variant) : Prop :=
  sent.get? "type" = some (.string "INVOKE") ∧
    (variant = .invokeV1 ∧ sent.get? "version" = some (.string "0x1") ∨
      variant = .invokeV3 ∧ sent.get? "version" = some (.string "0x3"))

namespace TransactionVersion

/-- A version without a query marker is its own base version. -/
theorem isQuery_eq_false_iff (n : TransactionVersion) : n.isQuery = false ↔ n.withoutQuery = n := by
  cases n <;> decide

/-- The query counterpart of a version that has one has the query marker. -/
theorem isQuery_withQuery {n : TransactionVersion} (h : n ≠ .unknown) :
    n.withQuery.isQuery = true := by
  cases n <;> first | rfl | exact absurd rfl h

end TransactionVersion

/-! ## §2. What a request lets through. -/

namespace SubmitTransaction

/-- Two variants can be submitted. -/
theorem flaw?_eq_none_iff (r : SubmitTransaction) :
    r.flaw? = none ↔ r.transaction.variant = .invokeV1 ∨ r.transaction.variant = .invokeV3 := by
  unfold flaw?
  cases r.transaction.variant <;> simp

/-- The transaction of the request as it is sent. -/
def sent (r : SubmitTransaction) : Value := r.transaction.encode.normal

theorem normal_params (r : SubmitTransaction) : r.params.normal = .array [r.sent] := by
  unfold params
  rw [Value.normal, normalItems_eq_map]
  rfl

theorem get?_type_sent (r : SubmitTransaction) :
    r.sent.get? "type" = some (.string (TransactionType.vocabulary.token r.transaction.type)) := by
  unfold sent Transaction.encode
  rw [normal_object]
  exact r.transaction.get?_type_normal

theorem get?_version_sent (r : SubmitTransaction) :
    r.sent.get? "version" = some (.string r.transaction.version.token) := by
  unfold sent Transaction.encode
  rw [normal_object]
  exact r.transaction.get?_version_normal

/-- **What passes is sent as an executable transaction exactly if its version is the one of its
variant.** -/
theorem isExecutableInvoke_sent_iff {r : SubmitTransaction} (h : r.flaw? = none) :
    r.sent.IsExecutableInvoke r.transaction.variant ↔
      r.transaction.version = r.transaction.variant.baseVersion := by
  have htoken : ∀ n : TransactionVersion,
      r.sent.get? "version" = some (.string n.token) ↔ r.transaction.version = n := by
    intro n
    rw [r.get?_version_sent, Option.some.injEq, Value.string.injEq]
    exact TransactionVersion.clear.token_eq_iff _ _
  have htype : r.transaction.variant.type = .invoke →
      r.sent.get? "type" = some (.string "INVOKE") := by
    intro hinvoke
    rw [r.get?_type_sent, Transaction.type, hinvoke]
    rfl
  unfold Value.IsExecutableInvoke
  -- both variants that pass are invoke transactions
  rcases r.flaw?_eq_none_iff.mp h with hvariant | hvariant
  · rw [hvariant] at htype ⊢
    have hversion := htoken .v1
    constructor
    · rintro ⟨_, ⟨_, h1⟩ | ⟨h3, _⟩⟩
      · exact hversion.mp h1
      · cases h3
    · intro hv1
      exact ⟨htype rfl, .inl ⟨rfl, hversion.mpr hv1⟩⟩
  · rw [hvariant] at htype ⊢
    have hversion := htoken .v3
    constructor
    · rintro ⟨_, ⟨h1, _⟩ | ⟨_, h3⟩⟩
      · cases h1
      · exact hversion.mp h3
    · intro hv3
      exact ⟨htype rfl, .inr ⟨rfl, hversion.mpr hv3⟩⟩

end SubmitTransaction

/-! ## §3. Marked transactions. -/

namespace Transaction

/-- A transaction that fits its variant has the version of the variant unless it is a query. -/
theorem version_eq_baseVersion_iff {t : Transaction} (h : t.VersionFits) :
    t.version = t.variant.baseVersion ↔ t.version.isQuery = false := by
  rw [TransactionVersion.isQuery_eq_false_iff, h]
  exact eq_comm

end Transaction

namespace Edit

/-- **After edits of a transaction that has been read it is a query exactly if it was one before or
has been marked.** -/
theorem isQuery_settled {t : Transaction} (h : t.VersionFits) (edits : List Edit) :
    (settled edits t).version.isQuery = false ↔
      t.version.isQuery = false ∧ edits.any marks = false := by
  have hknown : t.version ≠ .unknown := by
    intro hunknown
    rw [Transaction.VersionFits, hunknown] at h
    cases hvariant : t.variant <;> rw [hvariant] at h <;> cases h
  have hversion : (settled edits t).version
      = if edits.any marks then t.version.withQuery else t.version := by
    simp [settled]
  rw [hversion]
  cases edits.any marks with
  | true =>
      have hmarked := TransactionVersion.isQuery_withQuery hknown
      simp [hmarked]
  | false => simp

end Edit

/-! ## §4. Submissions. -/

/-- **A transaction that has been read and edited, and that a submission lets through, is sent under
the method for invoke transactions as an invoke transaction with its own version; and it is one
that the node executes exactly if it was no query when it was read and has not been marked
since.** -/
theorem submitted_executable_iff {v : Value} {t₀ : Transaction}
    (h : Transaction.ofValue v = .ok t₀) (edits : List Edit) :
    ∃ t, Edit.run edits t₀ = .ok t ∧
      let op : Operation := .submitTransaction ⟨t⟩
      (op.flaw? = none ↔ t₀.variant = .invokeV1 ∨ t₀.variant = .invokeV3) ∧
      (op.flaw? = none → ∃ sent, op.method = .addInvokeTransaction ∧
        op.params.normal = .array [sent] ∧
        sent.get? "type" = some (.string "INVOKE") ∧
        sent.get? "version" = some (.string t.version.token) ∧
        (sent.IsExecutableInvoke t₀.variant ↔
          t₀.version.isQuery = false ∧ edits.any Edit.marks = false)) := by
  have hregular : t₀.Regular := Transaction.regular_of_ofValue h
  have hfits : (Edit.settled edits t₀).VersionFits := (Edit.regular_settled hregular edits).fits
  refine ⟨Edit.settled edits t₀, Edit.run_of_regular hregular edits, ?_⟩
  intro op
  -- edits do not change the variant
  have hpasses : op.flaw? = none ↔ t₀.variant = .invokeV1 ∨ t₀.variant = .invokeV3 :=
    SubmitTransaction.flaw?_eq_none_iff ⟨Edit.settled edits t₀⟩
  refine ⟨hpasses, ?_⟩
  intro hflaw
  let r : SubmitTransaction := ⟨Edit.settled edits t₀⟩
  have hinvoke : r.sent.get? "type" = some (.string "INVOKE") := by
    have htype : t₀.variant.type = .invoke := by
      rcases hpasses.mp hflaw with hvariant | hvariant <;> rw [hvariant] <;> rfl
    rw [r.get?_type_sent]
    show some (Value.string (TransactionType.vocabulary.token t₀.variant.type)) = _
    rw [htype]
    rfl
  refine ⟨r.sent, rfl, r.normal_params, hinvoke, r.get?_version_sent, ?_⟩
  calc r.sent.IsExecutableInvoke t₀.variant
      ↔ r.transaction.version = r.transaction.variant.baseVersion :=
        SubmitTransaction.isExecutableInvoke_sent_iff hflaw
    _ ↔ r.transaction.version.isQuery = false := Transaction.version_eq_baseVersion_iff hfits
    _ ↔ t₀.version.isQuery = false ∧ edits.any Edit.marks = false :=
        Edit.isQuery_settled hregular.fits edits

/-- An invoke transaction with the given text for its version. -/
def invokeMessage (version : String) : Value := .object [
  ("max_fee", .string "0x1000"), ("nonce", .string "0x3"), ("sender_address", .string "0x123"),
  ("type", .string "INVOKE"), ("version", .string version)]

/-- A transaction that gets a hash and is written and read again is submitted as it should be. -/
theorem submitted_executable_recoded :
    ∃ t₀ t, Transaction.ofValue (invokeMessage "0X1") = .ok t₀ ∧
      Edit.run [.setHash Word.zero, .recode] t₀ = .ok t ∧
      ∃ sent, (Operation.submitTransaction ⟨t⟩).params.normal = .array [sent] ∧
        sent.IsExecutableInvoke .invokeV1 := by
  have hread : ∃ t₀, Transaction.ofValue (invokeMessage "0X1") = .ok t₀ ∧
      t₀.variant = .invokeV1 ∧ t₀.version = .v1 := ⟨_, rfl, rfl, rfl⟩
  obtain ⟨t₀, hread, hvariant, hversion⟩ := hread
  obtain ⟨t, hrun, hpasses, hsent⟩ := submitted_executable_iff hread [.setHash Word.zero, .recode]
  obtain ⟨sent, _, hparams, _, _, hexecutable⟩ := hsent (hpasses.mpr (.inl hvariant))
  refine ⟨t₀, t, hread, hrun, sent, hparams, ?_⟩
  rw [← hvariant]
  refine hexecutable.mpr ⟨?_, rfl⟩
  rw [hversion]
  rfl

/-- **Not everything that is submitted is executable.**  A query is read as an invoke transaction of
version 1, and passes for one. -/
theorem query_submitted :
    ¬∀ (v : Value) (t₀ t : Transaction) (edits : List Edit), Transaction.ofValue v = .ok t₀ →
      (∀ e ∈ edits, e.marks = true) → Edit.run edits t₀ = .ok t →
      (SubmitTransaction.mk t).flaw? = none →
      ∃ sent, (SubmitTransaction.mk t).params.normal = .array [sent] ∧
        sent.IsExecutableInvoke t.variant := by
  intro h
  have hread : ∃ t, Transaction.ofValue (invokeMessage "0x100000000000000000000000000000001")
      = .ok t ∧ t.variant = .invokeV1 ∧ t.version = .v1Query := ⟨_, rfl, rfl, rfl⟩
  obtain ⟨t, hread, hvariant, hversion⟩ := hread
  have hpasses := (SubmitTransaction.mk t).flaw?_eq_none_iff.mpr (.inl hvariant)
  have hnone : ∀ e ∈ ([] : List Edit), e.marks = true := fun e he => absurd he List.not_mem_nil
  obtain ⟨sent, hparams, hexecutable⟩ := h _ t t [] hread hnone rfl hpasses
  -- what is sent is the transaction with its own version
  have hsent : sent = (SubmitTransaction.mk t).sent := by
    rw [SubmitTransaction.normal_params] at hparams
    cases hparams
    rfl
  rw [hsent] at hexecutable
  have hbase : t.version = t.variant.baseVersion :=
    (SubmitTransaction.isExecutableInvoke_sent_iff hpasses).mp hexecutable
  rw [hversion, hvariant] at hbase
  cases hbase

end NodeClient
