/-
  NodeClient.Proofs.Transaction.RoundTrip
  ───────────────────────────────────────
  Which transactions come back when they are written and read again.

  What is written tells the type of the variant and the version of the payload.  The reader goes
  by this pair, so a payload whose version does not fit the variant is read as something else or
  not at all; one whose version fits is read with the fields of its own variant, and these come
  back unless a data availability mode is unknown (`ofValue_encode`).
-/
import NodeClient.Proofs.Scalar.RoundTrip
import NodeClient.Proofs.Token.Vocabulary
import NodeClient.Transaction.Basic

namespace NodeClient

open Json

/-! ## §1. The fields of payloads. -/

section

variable {ρ : Type} (r : ρ)

@[simp] theorem rereads_transactionHashField (get : ρ → Option Hash) (h : Option Hash) :
    (transactionHashField get).Rereads r h ↔ get r = h :=
  Word.keepsAll.rereads_optional Word.normal_encode_ne_null "transaction_hash" get r h

@[simp] theorem rereads_versionField (get : ρ → TransactionVersion) (n : TransactionVersion) :
    (versionField get).Rereads r n ↔ get r = n :=
  TransactionVersion.keepsAll.rereads_required "version" get r n

@[simp] theorem rereads_numberField (name : String) (get : ρ → Number) (n : Number) :
    (numberField name get).Rereads r n ↔ get r = n :=
  Quantity.keepsAll.rereads_required name get r n

@[simp] theorem rereads_wordField {k : WordKind} (name : String) (get : ρ → Word k) (w : Word k) :
    (wordField name get).Rereads r w ↔ get r = w := Word.keepsAll.rereads_required name get r w

@[simp] theorem rereads_elementsField (name : String) (get : ρ → List FieldElement)
    (es : List FieldElement) : (elementsField name get).Rereads r es ↔ get r = es :=
  Word.keepsAll.rereads_list name get r es

@[simp] theorem rereads_daModeField (name : String) (get : ρ → TxDaMode) (m : TxDaMode) :
    (daModeField name get).Rereads r m ↔ get r ≠ .unknown ∧ get r = m := by
  rw [daModeField, Field.rereads_required TxDaMode.keeps]

theorem ResourceBound.keepsAll : ResourceBound.record.codec.KeepsAll := by
  intro a b
  rw [Record.rereads_iff _ (by decide), true_and]
  simp only [record, Fields.rereads_field, Fields.rereads_done,
    Quantity.keepsAll.rereads_required, exists_eq_left']

theorem ResourceBounds.keepsAll : ResourceBounds.record.codec.KeepsAll := by
  intro a b
  rw [Record.rereads_iff _ (by decide), true_and]
  simp only [record, Fields.rereads_field, Fields.rereads_done,
    ResourceBound.keepsAll.rereads_required, exists_eq_left']

@[simp] theorem rereads_boundsField (get : ρ → ResourceBounds) (b : ResourceBounds) :
    (boundsField get).Rereads r b ↔ get r = b :=
  ResourceBounds.keepsAll.rereads_required "resource_bounds" get r b

end

/-! ## §2. Payloads. -/

theorem DeployV0.rereads_iff (p q : DeployV0) :
    record.fields.Rereads p record.make q ↔ p = q := by
  simp [record]

theorem InvokeV0.rereads_iff (p q : InvokeV0) :
    record.fields.Rereads p record.make q ↔ p = q := by
  simp [record]

theorem InvokeV1.rereads_iff (p q : InvokeV1) :
    record.fields.Rereads p record.make q ↔ p = q := by
  simp [record]

theorem DeclareV0.rereads_iff (p q : DeclareV0) :
    record.fields.Rereads p record.make q ↔ p = q := by
  simp [record]

theorem DeclareV1.rereads_iff (p q : DeclareV1) :
    record.fields.Rereads p record.make q ↔ p = q := by
  simp [record]

theorem DeclareV2.rereads_iff (p q : DeclareV2) :
    record.fields.Rereads p record.make q ↔ p = q := by
  simp [record]

theorem DeployAccountV1.rereads_iff (p q : DeployAccountV1) :
    record.fields.Rereads p record.make q ↔ p = q := by
  simp [record]

theorem L1HandlerV0.rereads_iff (p q : L1HandlerV0) :
    record.fields.Rereads p record.make q ↔ p = q := by
  simp [record]

/-! Payloads of version 3 have two data availability modes, and come back if both are known. -/

theorem InvokeV3.rereads_iff (p q : InvokeV3) :
    record.fields.Rereads p record.make q ↔
      (p.nonceDaMode ≠ .unknown ∧ p.feeDaMode ≠ .unknown) ∧ p = q := by
  simp [record, and_assoc]

theorem DeclareV3.rereads_iff (p q : DeclareV3) :
    record.fields.Rereads p record.make q ↔
      (p.nonceDaMode ≠ .unknown ∧ p.feeDaMode ≠ .unknown) ∧ p = q := by
  simp [record, and_assoc]

theorem DeployAccountV3.rereads_iff (p q : DeployAccountV3) :
    record.fields.Rereads p record.make q ↔
      (p.nonceDaMode ≠ .unknown ∧ p.feeDaMode ≠ .unknown) ∧ p = q := by
  simp [record, and_assoc]

namespace Variant

/-- The data availability modes in the payload of a variant. -/
def daModes : (v : Variant) → v.Payload → List TxDaMode
  | invokeV3, (p : InvokeV3) => [p.nonceDaMode, p.feeDaMode]
  | declareV3, (p : DeclareV3) => [p.nonceDaMode, p.feeDaMode]
  | deployAccountV3, (p : DeployAccountV3) => [p.nonceDaMode, p.feeDaMode]
  | _, _ => []

theorem names_nodup (v : Variant) : v.record.fields.names.Nodup := by
  cases v <;> decide

theorem type_not_mem_names (v : Variant) : "type" ∉ v.record.fields.names := by
  cases v <;> decide

/-- **A payload comes back exactly if none of its data availability modes is unknown.** -/
theorem rereads_iff (v : Variant) (p q : v.Payload) :
    v.record.fields.Rereads p v.record.make q ↔ .unknown ∉ v.daModes p ∧ p = q := by
  have hnone : (TxDaMode.unknown ∉ ([] : List TxDaMode) ∧ p = q) ↔ p = q :=
    and_iff_right List.not_mem_nil
  have htwo : ∀ m n : TxDaMode, .unknown ∉ [m, n] ↔ m ≠ .unknown ∧ n ≠ .unknown := by
    intro m n
    simp [eq_comm]
  cases v with
  | deployV0 => exact (DeployV0.rereads_iff p q).trans hnone.symm
  | invokeV0 => exact (InvokeV0.rereads_iff p q).trans hnone.symm
  | invokeV1 => exact (InvokeV1.rereads_iff p q).trans hnone.symm
  | invokeV3 => exact (InvokeV3.rereads_iff p q).trans (and_congr_left' (htwo _ _).symm)
  | declareV0 => exact (DeclareV0.rereads_iff p q).trans hnone.symm
  | declareV1 => exact (DeclareV1.rereads_iff p q).trans hnone.symm
  | declareV2 => exact (DeclareV2.rereads_iff p q).trans hnone.symm
  | declareV3 => exact (DeclareV3.rereads_iff p q).trans (and_congr_left' (htwo _ _).symm)
  | deployAccountV1 => exact (DeployAccountV1.rereads_iff p q).trans hnone.symm
  | deployAccountV3 =>
      exact (DeployAccountV3.rereads_iff p q).trans (and_congr_left' (htwo _ _).symm)
  | l1HandlerV0 => exact (L1HandlerV0.rereads_iff p q).trans hnone.symm

/-- The version stands behind the hash, whether that is written or not. -/
theorem get?_version {ρ κ : Type} (getHash : ρ → Option Hash)
    (getVersion : ρ → TransactionVersion) (rest : Fields ρ κ) (r : ρ) :
    Members.get? (Fields.toMembers r
        (.field (transactionHashField getHash) (.field (versionField getVersion) rest))) "version"
      = some (.string (TransactionVersion.token (getVersion r))) := by
  have hversion : ∀ ms : Members,
      Members.get? (("version", .string (TransactionVersion.token (getVersion r))) :: ms) "version"
        = some (.string (TransactionVersion.token (getVersion r))) := fun _ => rfl
  rw [Fields.toMembers]
  split
  · exact hversion _
  · have hne : "version" ≠ "transaction_hash" := by decide
    exact (Members.get?_cons_of_ne hne _ _).trans (hversion _)

/-- Every payload is written with its version. -/
theorem lookup_version (v : Variant) (p : v.Payload) :
    Members.get? (v.record.fields.toMembers p) "version"
      = some (.string (TransactionVersion.token (v.header.version p))) := by
  cases v <;> exact get?_version _ _ _ p

/-- No two variants have the same type and base version. -/
theorem eq_of_type_of_baseVersion {v w : Variant} (htype : v.type = w.type)
    (hversion : v.baseVersion = w.baseVersion) : v = w := by
  revert htype hversion
  cases v <;> cases w <;> decide

end Variant

/-! ## §3. Transactions. -/

namespace Transaction

/-- The data availability modes of a transaction. -/
def daModes (t : Transaction) : List TxDaMode := t.variant.daModes t.payload

/-- The version, query marker aside, is the one of the variant. -/
def VersionFits (t : Transaction) : Prop := t.version.withoutQuery = t.variant.baseVersion

theorem distinct_toMembers (t : Transaction) : t.toMembers.Distinct := by
  refine List.nodup_cons.mpr ⟨?_, Fields.distinct_toMembers _ t.variant.names_nodup⟩
  intro htype
  exact t.variant.type_not_mem_names ((Fields.keys_toMembers _ _).mem htype)

/-- What is written names the type. -/
theorem get?_type_normal (t : Transaction) :
    (normalObject t.toMembers).get? "type"
      = some (.string (TransactionType.vocabulary.token t.type)) :=
  lookup_normalObject t.distinct_toMembers "type"

/-- What is written names the version of the payload. -/
theorem get?_version_normal (t : Transaction) :
    (normalObject t.toMembers).get? "version" = some (.string t.version.token) := by
  -- the type in front is passed over
  have hne : "version" ≠ "type" := by decide
  have hplain : t.toMembers.get? "version" = some (.string t.version.token) :=
    (Members.get?_cons_of_ne hne _ _).trans (t.variant.lookup_version t.payload)
  exact (lookup_normalObject t.distinct_toMembers "version").trans
    (congrArg (Option.map Value.normal) hplain)

/-- The header of what is written has the tokens of the type and of the version. -/
theorem decode_header (t : Transaction) :
    Header.record.decode t.encode.normal
      = .ok ⟨TransactionType.vocabulary.token t.type, t.version.token⟩ := by
  rw [encode, normal_object, Record.decode_object_iff _ (distinct_normalObject _)]
  exact ⟨_, (Field.reads_of_some t.get?_type_normal _).mpr rfl,
    _, (Field.reads_of_some t.get?_version_normal _).mpr rfl, rfl⟩

theorem type_ne_unknown (t : Transaction) : t.type ≠ .unknown := by
  unfold type
  cases t.variant <;> decide

theorem type?_token (type : TransactionType) (h : type ≠ .unknown) (version : String) :
    Header.type? ⟨TransactionType.vocabulary.token type, version⟩ = some type := by
  have hparse := (Vocabulary.parse_token_iff TransactionType.clear type type).mpr
    ⟨Vocabulary.mem_readable TransactionType.clear rfl type, rfl⟩
  unfold Header.type?
  rw [hparse]
  cases type <;> first | rfl | exact absurd rfl h

theorem baseVersion_token (type : String) (n : TransactionVersion) :
    Header.baseVersion ⟨type, n.token⟩ = n.withoutQuery := by
  have hparse := (Vocabulary.parse_token_iff TransactionVersion.clear n n).mpr
    ⟨Vocabulary.mem_readable TransactionVersion.clear rfl n, rfl⟩
  unfold Header.baseVersion TransactionVersion.token
  rw [hparse]

/-- The payload of what is written comes back in the own variant, if none of its data
availability modes is unknown. -/
theorem decode_payload_iff (t : Transaction) (p : t.variant.Payload) :
    t.variant.record.decode t.encode.normal = .ok p ↔ .unknown ∉ t.daModes ∧ t.payload = p := by
  have htype : ∀ name ∈ t.variant.record.fields.names, name ∉ Members.keys
      [("type", TransactionType.vocabulary.codec.encode t.type)] := by
    intro name hname hkey
    have hname' : name = "type" := List.mem_singleton.mp hkey
    exact t.variant.type_not_mem_names (hname' ▸ hname)
  have hone : Members.Distinct [("type", TransactionType.vocabulary.codec.encode t.type)] :=
    List.pairwise_singleton _ _
  exact (Record.decode_normal_iff _ t.variant.names_nodup _ hone htype _ _).trans
    (t.variant.rereads_iff t.payload p)

/-- A value with the header of a supported pair is read as the variant of the pair. -/
theorem ofValue_of_supported {v : Value} {h : Header} {type : TransactionType} {variant : Variant}
    (hdecode : Header.record.decode v = .ok h) (htype : h.type? = some type)
    (hvariant : Variant.of? type h.baseVersion = some variant) :
    ofValue v = ((variant.record.decode v).mapError .invalidJson).map fun p => ⟨variant, p⟩ := by
  unfold ofValue
  rw [hdecode]
  simp only [Except.mapError, bind, Except.bind, htype, hvariant]
  cases variant.record.decode v <;> rfl

theorem ofValue_of_unsupported {v : Value} {h : Header} {type : TransactionType}
    (hdecode : Header.record.decode v = .ok h) (htype : h.type? = some type)
    (hvariant : Variant.of? type h.baseVersion = none) :
    ofValue v = .error (.unsupportedVersion type h.version) := by
  unfold ofValue
  rw [hdecode]
  simp only [Except.mapError, bind, Except.bind, htype, hvariant]

/-- What is written is read as the variant of its type and its version, query marker aside. -/
theorem ofValue_encode {t : Transaction} {v : Variant}
    (h : Variant.of? t.type t.version.withoutQuery = some v) :
    ofValue t.encode.normal
      = ((v.record.decode t.encode.normal).mapError .invalidJson).map fun p => ⟨v, p⟩ :=
  ofValue_of_supported t.decode_header (type?_token t.type t.type_ne_unknown _)
    (by rw [baseVersion_token, h])

/-- A transaction is read as one of a variant with its own type and version. -/
theorem variant_of_ofValue_encode {t u : Transaction} (h : ofValue t.encode.normal = .ok u) :
    u.variant.type = t.type ∧ u.variant.baseVersion = t.version.withoutQuery := by
  cases hv : Variant.of? t.type t.version.withoutQuery with
  | none =>
      have herror := ofValue_of_unsupported t.decode_header
        (type?_token t.type t.type_ne_unknown _) (by rw [baseVersion_token, hv])
      rw [herror] at h
      cases h
  | some v =>
      rw [ofValue_encode hv] at h
      cases hp : v.record.decode t.encode.normal with
      | error e =>
          rw [hp] at h
          cases h
      | ok p =>
          rw [hp] at h
          cases h
          exact (Variant.of?_eq_some_iff _ _ v).mp hv

/-- **Exactly the transactions come back whose version fits and whose data availability modes
are known.**  One whose version does not fit is read as one of another variant or not at all. -/
theorem ofValue_encode_eq_self_iff (t : Transaction) :
    (ofValue t.encode.normal = .ok t ↔ t.VersionFits ∧ .unknown ∉ t.daModes) ∧
      (¬t.VersionFits → (∃ e, ofValue t.encode.normal = .error e) ∨
        ∃ u, ofValue t.encode.normal = .ok u ∧ u.variant ≠ t.variant ∧ u ≠ t) := by
  have hfits : ∀ u, ofValue t.encode.normal = .ok u → u.variant = t.variant → t.VersionFits := by
    intro u hu hvariant
    rw [VersionFits, ← hvariant]
    exact (variant_of_ofValue_encode hu).2.symm
  refine ⟨⟨?_, ?_⟩, ?_⟩
  · -- what comes back is of the own variant, so its payload has been read as one
    intro hself
    have hfit := hfits t hself rfl
    have hof : Variant.of? t.type t.version.withoutQuery = some t.variant :=
      (Variant.of?_eq_some_iff _ _ _).mpr ⟨rfl, hfit.symm⟩
    rw [ofValue_encode hof] at hself
    cases hp : t.variant.record.decode t.encode.normal with
    | error e =>
        rw [hp] at hself
        cases hself
    | ok p => exact ⟨hfit, ((t.decode_payload_iff p).mp hp).1⟩
  · rintro ⟨hfit, hknown⟩
    have hof : Variant.of? t.type t.version.withoutQuery = some t.variant :=
      (Variant.of?_eq_some_iff _ _ _).mpr ⟨rfl, hfit.symm⟩
    rw [ofValue_encode hof]
    show ((t.variant.record.decode t.encode.normal).mapError _).map _ = _
    rw [(t.decode_payload_iff t.payload).mpr ⟨hknown, rfl⟩]
    rfl
  · -- whatever is read has the version that was written, which is not that of the variant
    intro hunfit
    cases hu : ofValue t.encode.normal with
    | error e => exact .inl ⟨e, rfl⟩
    | ok u =>
        have hother : u.variant ≠ t.variant := fun e => hunfit (hfits u hu e)
        exact .inr ⟨u, rfl, hother, fun e => hother (e ▸ rfl)⟩

end Transaction

end NodeClient
