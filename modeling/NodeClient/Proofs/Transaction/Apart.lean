/-
  NodeClient.Proofs.Transaction.Apart
  ───────────────────────────────────
  **No two transactions are written alike.**

  This holds of every transaction, also of one whose version does not fit its variant or that has
  an unknown data availability mode, and that is read as another one or not at all.  The variant is
  told by the type and by the keys: the payloads of one type have different fields, and all of
  them are written but a hash that is not known.  Within a variant each field is told by its
  member.
-/
import NodeClient.Proofs.Codec.Apart
import NodeClient.Proofs.Transaction.RoundTrip

namespace NodeClient

open Json

/-- In a clear vocabulary every value has its own token, the unknown one too. -/
theorem Vocabulary.Clear.tellsApart {α : Type} {v : Vocabulary α} (h : v.Clear) :
    v.codec.TellsApart := by
  intro a b hsame
  have htoken : Value.string (v.token a) = .string (v.token b) := hsame
  injection htoken with htoken
  exact (h.token_eq_iff a b).mp htoken

/-! ## §1. The fields of payloads. -/

section

variable {ρ : Type}

theorem transactionHashField_tellsApart (get : ρ → Option Hash) :
    (transactionHashField get).TellsApart :=
  Field.tellsApart_optional Word.keepsAll.tellsApart Word.normal_encode_ne_null _ get

theorem versionField_tellsApart (get : ρ → TransactionVersion) : (versionField get).TellsApart :=
  Field.tellsApart_required TransactionVersion.keepsAll.tellsApart _ get

theorem numberField_tellsApart (name : String) (get : ρ → Number) :
    (numberField name get).TellsApart :=
  Field.tellsApart_required Quantity.keepsAll.tellsApart name get

theorem wordField_tellsApart {k : WordKind} (name : String) (get : ρ → Word k) :
    (wordField name get).TellsApart :=
  Field.tellsApart_required Word.keepsAll.tellsApart name get

theorem elementsField_tellsApart (name : String) (get : ρ → List FieldElement) :
    (elementsField name get).TellsApart :=
  Field.tellsApart_list Word.keepsAll.tellsApart name get

theorem daModeField_tellsApart (name : String) (get : ρ → TxDaMode) :
    (daModeField name get).TellsApart :=
  Field.tellsApart_required TxDaMode.clear.tellsApart name get

theorem boundsField_tellsApart (get : ρ → ResourceBounds) : (boundsField get).TellsApart :=
  Field.tellsApart_required ResourceBounds.keepsAll.tellsApart _ get

end

/-! ## §2. Payloads. -/

namespace Variant

/-- Each field of a payload tells its values apart. -/
theorem tellApart (v : Variant) : v.record.fields.TellApart := by
  cases v <;> repeat' first
    | exact trivial
    | apply And.intro
    | exact wordField_tellsApart _ _
    | exact numberField_tellsApart _ _
    | exact elementsField_tellsApart _ _
    | exact daModeField_tellsApart _ _
    | exact boundsField_tellsApart _
    | exact versionField_tellsApart _
    | exact transactionHashField_tellsApart _

/-- A payload is made of what its fields show. -/
theorem rebuild_eq (v : Variant) (p : v.Payload) : v.record.fields.rebuild v.record.make p = p := by
  cases v <;> rfl

/-- All members of a payload are written but a hash that is not known. -/
theorem keys_toMembers (v : Variant) (p : v.Payload) :
    Members.keys (v.record.fields.toMembers p)
      = (if (v.header.hash p).isNone then [] else ["transaction_hash"])
          ++ v.record.fields.names.tail := by
  cases v <;> (obtain ⟨hash, _⟩ := p; cases hash <;> rfl)

/-- No two variants of a type have the same fields behind the hash. -/
theorem eq_of_names {v w : Variant} (htype : v.type = w.type)
    (h : ∀ key, key ∈ v.record.fields.names.tail ↔ key ∈ w.record.fields.names.tail) : v = w := by
  have hv : ∀ key ∈ v.record.fields.names.tail, key ∈ w.record.fields.names.tail :=
    fun key => (h key).mp
  have hw : ∀ key ∈ w.record.fields.names.tail, key ∈ v.record.fields.names.tail :=
    fun key => (h key).mpr
  -- as bounded statements the inclusions can be decided for each pair of variants
  clear h
  revert htype hv hw
  cases v <;> cases w <;> decide

/-- The hash is the first field, and no other has its name. -/
theorem hash_not_mem_tail (v : Variant) : "transaction_hash" ∉ v.record.fields.names.tail := by
  cases v <;> decide

end Variant

/-! ## §3. Transactions. -/

namespace Transaction

/-- Which keys are written but that of the hash, is told by the variant alone. -/
theorem mem_keys_toMembers (t : Transaction) {key : String} (hhash : key ≠ "transaction_hash")
    (htype : key ≠ "type") :
    key ∈ t.toMembers.keys ↔ key ∈ t.variant.record.fields.names.tail := by
  show key ∈ "type" :: Members.keys (t.variant.record.fields.toMembers t.payload) ↔ _
  rw [Variant.keys_toMembers, List.mem_cons, List.mem_append]
  by_cases hnone : (t.variant.header.hash t.payload).isNone = true
  · simp [hnone, htype]
  · simp [hnone, htype, hhash]

/-- What is the same under each key was written for transactions of one variant. -/
theorem variant_eq_of_lookup {t u : Transaction}
    (h : ∀ key, (t.toMembers.lookup key).map Value.normal
      = (u.toMembers.lookup key).map Value.normal) : t.variant = u.variant := by
  have htoken : some (Value.string (TransactionType.vocabulary.token t.type))
      = some (.string (TransactionType.vocabulary.token u.type)) := h "type"
  have htype : t.type = u.type := by
    injection htoken with htoken
    injection htoken with htoken
    exact (TransactionType.clear.token_eq_iff _ _).mp htoken
  refine Variant.eq_of_names htype fun key => ?_
  -- the hash and the type are no fields behind the hash, in either variant
  by_cases hhash : key = "transaction_hash"
  · rw [hhash]
    exact iff_of_false t.variant.hash_not_mem_tail u.variant.hash_not_mem_tail
  by_cases hkind : key = "type"
  · rw [hkind]
    exact iff_of_false (fun hmem => t.variant.type_not_mem_names (List.mem_of_mem_tail hmem))
      (fun hmem => u.variant.type_not_mem_names (List.mem_of_mem_tail hmem))
  · -- any other field is always written
    rw [← t.mem_keys_toMembers hhash hkind, ← u.mem_keys_toMembers hhash hkind,
      Members.mem_keys_iff, Members.mem_keys_iff, ne_eq, ne_eq, ← Option.map_eq_none_iff,
      h key, Option.map_eq_none_iff]

/-- **What is written for two transactions is the same only if they are.** -/
theorem tellsApart : codec.TellsApart := by
  intro t u hsame
  have hlook := lookup_of_normal_eq t.distinct_toMembers u.distinct_toMembers hsame
  have hvariant := variant_eq_of_lookup hlook
  obtain ⟨v, p⟩ := t
  obtain ⟨w, q⟩ := u
  -- from here on both payloads are of one type
  cases hvariant
  refine congrArg (mk v) (Fields.eq_of_written v.tellApart v.names_nodup v.rebuild_eq ?_)
  -- the names of the fields are looked up behind the type
  intro key hkey
  have hkind : key ≠ "type" := fun e => v.type_not_mem_names (e ▸ hkey)
  have hbehind : ∀ r : v.Payload, (mk v r).toMembers.lookup key
      = List.lookup key (v.record.fields.toMembers r) :=
    fun _ => Members.get?_cons_of_ne hkind _ _
  rw [← hbehind, ← hbehind]
  exact hlook key

end Transaction

end NodeClient
