/-
  NodeClient.Proofs.Transaction.Acceptance
  ────────────────────────────────────────
  What is known of a transaction because it has been read.

  The variant is told by the header and the version is read once more with the payload.  Both
  look at the same member of an object, and an array is never a header and a payload at once, so
  the version of what is read fits its variant; and no data availability mode of it is unknown
  (`regular_of_ofValue`).  These are the transactions that come back when they are written
  (`Regular.comes_back`).
-/
import NodeClient.Proofs.Codec.Yield
import NodeClient.Proofs.Transaction.RoundTrip

namespace NodeClient

open Json

/-! ## §1. Payloads.

The data availability modes are the last two fields of the payloads that have them. -/

theorem InvokeV3.has_daModes :
    record.fields.Has (daModeField "nonce_data_availability_mode" nonceDaMode) ∧
      record.fields.Has (daModeField "fee_data_availability_mode" feeDaMode) := by
  constructor <;> repeat' first | exact .here | apply Fields.Has.there

theorem DeclareV3.has_daModes :
    record.fields.Has (daModeField "nonce_data_availability_mode" nonceDaMode) ∧
      record.fields.Has (daModeField "fee_data_availability_mode" feeDaMode) := by
  constructor <;> repeat' first | exact .here | apply Fields.Has.there

theorem DeployAccountV3.has_daModes :
    record.fields.Has (daModeField "nonce_data_availability_mode" nonceDaMode) ∧
      record.fields.Has (daModeField "fee_data_availability_mode" feeDaMode) := by
  constructor <;> repeat' first | exact .here | apply Fields.Has.there

namespace Variant

variable {v : Variant} {value : Value}

/-- Each field of a payload shows what the constructor has taken for it. -/
theorem lawful (v : Variant) : v.record.fields.Lawful v.record.make := by
  cases v <;> repeat' first | exact trivial | exact rfl | intro _ | apply And.intro

/-- Every payload has a version, behind the hash. -/
theorem has_version (v : Variant) : v.record.fields.Has (versionField v.header.version) := by
  cases v <;> exact .there .here

/-- No payload is read from an array of at most two items. -/
theorem needsBeyond_of_le_two (v : Variant) {n : Nat} (h : n ≤ 2) :
    v.record.fields.needsBeyond n = true := by
  have hn : n = 0 ∨ n = 1 ∨ n = 2 := by omega
  rcases hn with rfl | rfl | rfl <;> cases v <;> rfl

/-- A data availability mode that has been read is not the unknown one. -/
theorem daMode_ne_unknown {p : v.Payload} (h : v.record.decode value = .ok p) {name : String}
    {get : v.Payload → TxDaMode} (hfield : v.record.fields.Has (daModeField name get)) :
    get p ≠ .unknown :=
  (Record.gives_of_decode v.lawful h hfield).required TxDaMode.yields

theorem unknown_not_mem_daModes {p : v.Payload} (h : v.record.decode value = .ok p) :
    .unknown ∉ v.daModes p := by
  have hpair : ∀ {m n : TxDaMode}, m ≠ .unknown → n ≠ .unknown → .unknown ∉ [m, n] := by
    intro m n hm hn hmem
    rcases List.mem_pair.mp hmem with e | e
    · exact hm e.symm
    · exact hn e.symm
  cases v with
  | invokeV3 =>
      obtain ⟨hnonce, hfee⟩ := InvokeV3.has_daModes
      exact hpair (daMode_ne_unknown h hnonce) (daMode_ne_unknown h hfee)
  | declareV3 =>
      obtain ⟨hnonce, hfee⟩ := DeclareV3.has_daModes
      exact hpair (daMode_ne_unknown h hnonce) (daMode_ne_unknown h hfee)
  | deployAccountV3 =>
      obtain ⟨hnonce, hfee⟩ := DeployAccountV3.has_daModes
      exact hpair (daMode_ne_unknown h hnonce) (daMode_ne_unknown h hfee)
  | deployV0 => exact List.not_mem_nil
  | invokeV0 => exact List.not_mem_nil
  | invokeV1 => exact List.not_mem_nil
  | declareV0 => exact List.not_mem_nil
  | declareV1 => exact List.not_mem_nil
  | declareV2 => exact List.not_mem_nil
  | deployAccountV1 => exact List.not_mem_nil
  | l1HandlerV0 => exact List.not_mem_nil

end Variant

/-! ## §2. What is read. -/

namespace Transaction

/-- The header shows two members. -/
theorem Header.lawful : Header.record.fields.Lawful Header.record.make := by
  repeat' first | exact trivial | exact rfl | intro _ | apply And.intro

/-- **A value is read as a transaction exactly if its header tells the variant and it decodes as
the payload of this variant.** -/
theorem ofValue_eq_ok_iff {v : Value} {t : Transaction} :
    ofValue v = .ok t ↔ ∃ h, Header.record.decode v = .ok h ∧ h.type? = some t.type ∧
      h.baseVersion = t.variant.baseVersion ∧ t.variant.record.decode v = .ok t.payload := by
  constructor
  · intro hof
    cases hdecode : Header.record.decode v with
    | error e =>
        rw [ofValue, hdecode] at hof
        cases hof
    | ok h =>
        cases htype : h.type? with
        | none =>
            rw [ofValue, hdecode] at hof
            simp only [Except.mapError, bind, Except.bind, htype] at hof
            cases hof
        | some type =>
            cases hvariant : Variant.of? type h.baseVersion with
            | none =>
                rw [ofValue_of_unsupported hdecode htype hvariant] at hof
                cases hof
            | some variant =>
                obtain ⟨rfl, hversion⟩ := (Variant.of?_eq_some_iff _ _ _).mp hvariant
                rw [ofValue_of_supported hdecode htype hvariant] at hof
                cases hpayload : variant.record.decode v with
                | error e =>
                    rw [hpayload] at hof
                    cases hof
                | ok p =>
                    rw [hpayload] at hof
                    cases hof
                    exact ⟨h, rfl, htype, hversion.symm, hpayload⟩
  · rintro ⟨h, hdecode, htype, hversion, hpayload⟩
    have hvariant : Variant.of? t.type h.baseVersion = some t.variant :=
      (Variant.of?_eq_some_iff _ _ _).mpr ⟨rfl, hversion.symm⟩
    rw [ofValue_of_supported hdecode htype hvariant, hpayload]
    rfl

/-- What has both a header and a payload is an object. -/
theorem object_of_decode {v : Value} {h : Header} {variant : Variant} {p : variant.Payload}
    (hheader : Header.record.decode v = .ok h) (hpayload : variant.record.decode v = .ok p) :
    ∃ ms, v = .object ms := by
  cases v with
  | object ms => exact ⟨ms, rfl⟩
  | array items =>
      -- a header has two items and a payload has more
      have hshort : items.length ≤ 2 := (Fields.length_of_fromItems hheader).1
      have hlong := (Fields.length_of_fromItems hpayload).2
      rw [variant.needsBeyond_of_le_two hshort] at hlong
      cases hlong
  | null => cases hheader
  | bool b => cases hheader
  | number n => cases hheader
  | string s => cases hheader

/-- The version in the payload is the one in the header. -/
theorem version_of_decode {v : Value} {h : Header} {t : Transaction}
    (hheader : Header.record.decode v = .ok h)
    (hpayload : t.variant.record.decode v = .ok t.payload) :
    TransactionVersion.vocabulary.parse h.version = .ok t.version := by
  obtain ⟨ms, rfl⟩ := object_of_decode hheader hpayload
  -- both fields have the same name
  obtain ⟨_, hfirst, hheader⟩ :=
    (Record.reads_of_decode Header.lawful hheader (.there .here)).required
  obtain ⟨_, hsecond, hpayload⟩ :=
    (Record.reads_of_decode t.variant.lawful hpayload t.variant.has_version).required
  cases hfirst.symm.trans hsecond
  obtain ⟨s, rfl, hs⟩ := Codec.decode_ofText_eq_ok_iff.mp hheader
  obtain ⟨s', hs', hparse⟩ := Vocabulary.decode_codec_eq_ok_iff.mp hpayload
  cases hs
  cases hs'
  exact hparse

/-- The version fits and no data availability mode is unknown. -/
structure Regular (t : Transaction) : Prop where
  fits : t.VersionFits
  modes : .unknown ∉ t.daModes

/-- **What is read as a transaction has a version that fits and no unknown data availability
mode.** -/
theorem regular_of_ofValue {v : Value} {t : Transaction} (h : ofValue v = .ok t) : t.Regular := by
  obtain ⟨header, hheader, _, hversion, hpayload⟩ := ofValue_eq_ok_iff.mp h
  refine ⟨?_, Variant.unknown_not_mem_daModes hpayload⟩
  rw [VersionFits, ← hversion, Header.baseVersion, version_of_decode hheader hpayload]

/-! ## §3. What comes back. -/

/-- What is written is read by its type and its version. -/
theorem ofValue_encode_eq_ok_iff (t u : Transaction) :
    ofValue t.encode.normal = .ok u ↔ u.type = t.type ∧
      u.variant.baseVersion = t.version.withoutQuery ∧
      u.variant.record.decode t.encode.normal = .ok u.payload := by
  have htype := type?_token t.type t.type_ne_unknown t.version.token
  have hversion := baseVersion_token (TransactionType.vocabulary.token t.type) t.version
  rw [ofValue_eq_ok_iff, t.decode_header]
  constructor
  · rintro ⟨h, hheader, htype', hversion', hpayload⟩
    cases hheader
    exact ⟨Option.some.inj (htype'.symm.trans htype), hversion'.symm.trans hversion, hpayload⟩
  · rintro ⟨htype', hversion', hpayload⟩
    exact ⟨_, rfl, htype.trans (congrArg some htype'.symm), hversion.trans hversion'.symm,
      hpayload⟩

/-- A transaction whose version fits comes back, unless a data availability mode is unknown. -/
theorem ofValue_encode_of_fits {t : Transaction} (h : t.VersionFits) (u : Transaction) :
    ofValue t.encode.normal = .ok u ↔ .unknown ∉ t.daModes ∧ t = u := by
  rw [ofValue_encode_eq_ok_iff]
  constructor
  · rintro ⟨htype, hversion, hpayload⟩
    -- no other variant has the same type and version
    have hvariant : u.variant = t.variant :=
      Variant.eq_of_type_of_baseVersion htype (hversion.trans h)
    obtain ⟨variant, p⟩ := u
    cases hvariant
    obtain ⟨hknown, rfl⟩ := (t.decode_payload_iff p).mp hpayload
    exact ⟨hknown, rfl⟩
  · rintro ⟨hknown, rfl⟩
    exact ⟨rfl, h.symm, (t.decode_payload_iff t.payload).mpr ⟨hknown, rfl⟩⟩

/-- **A regular transaction is read from what is written for it.** -/
theorem Regular.comes_back {t : Transaction} (h : t.Regular) : ofValue t.encode.normal = .ok t :=
  (ofValue_encode_of_fits h.fits t).mpr ⟨h.modes, rfl⟩

end Transaction

end NodeClient
