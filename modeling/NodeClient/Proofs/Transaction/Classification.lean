/-
  NodeClient.Proofs.Transaction.Classification
  ────────────────────────────────────────────
  **A transaction is told by its header.**

  An object has a header if the type and the version stand in it once, as texts; an array has one
  if it consists of these two texts.  The header alone decides whether there are transactions of
  the type, whether they can have the version, and of which variant the payload must be.  All the
  other members can do is not to decode as that payload.  An array that has a header is too short
  for every payload.

  Main result: `classified_by_header`.
-/
import NodeClient.Proofs.Transaction.Acceptance

namespace NodeClient

open Json

/-! ## §1. Items and texts. -/

theorem Fields.fromItems_cons_iff {ρ α κ : Type} {f : Field ρ α} {rest : Fields ρ κ}
    {expected : String} {total place : Nat} {make : α → κ} {v : Value} {vs : List Value} {r : ρ} :
    (Fields.field f rest).fromItems expected total make place (v :: vs) = .ok r ↔
      ∃ a, f.codec.decode v = .ok a ∧
        rest.fromItems expected total (make a) (place + 1) vs = .ok r := by
  rw [fromItems]
  cases f.codec.decode v with
  | error e => simp [bind, Except.bind]
  | ok a => simp [bind, Except.bind]

theorem Codec.decode_text_eq_ok_iff {v : Value} {s : String} :
    Codec.text.decode v = .ok s ↔ v = .string s := by
  unfold Codec.text
  rw [Codec.decode_ofText_eq_ok_iff]
  simp

/-! ## §2. Texts of types and versions. -/

theorem TransactionType.parse_eq_ok_iff (s : String) (type : TransactionType) :
    vocabulary.parse s = .ok type ↔ vocabulary.StandsFor s type :=
  clear.parse_iff_standsFor rfl s type

theorem TransactionVersion.parse_eq_ok_iff (s : String) (n : TransactionVersion) :
    vocabulary.parse s = .ok n ↔ vocabulary.StandsFor s n :=
  clear.parse_iff_standsFor rfl s n

/-- The versions that there are of a type. -/
def TransactionType.versions : TransactionType → List TransactionVersion
  | .unknown => []
  | .deploy => [.v0]
  | .invoke => [.v0, .v1, .v3]
  | .declare => [.v0, .v1, .v2, .v3]
  | .deployAccount => [.v1, .v3]
  | .l1Handler => [.v0]

theorem TransactionType.unknown_not_mem_versions (type : TransactionType) :
    .unknown ∉ type.versions := by
  cases type <;> decide

/-- There is a variant for every version of every type, and no other. -/
theorem Variant.of?_eq_none_iff (type : TransactionType) (n : TransactionVersion) :
    Variant.of? type n = none ↔ n ∉ type.versions := by
  cases type <;> cases n <;> decide

namespace Transaction

/-! ## §3. Headers. -/

/-- The header stands in the value: in an object as the only members with these keys, in an array
as the only items. -/
inductive Header.Heads (h : Header) : Value → Prop where
  | object {ms : Members} (type : ms.Sole "type" (.string h.type))
      (version : ms.Sole "version" (.string h.version)) : Heads h (.object ms)
  | array : Heads h (.array [.string h.type, .string h.version])

theorem Header.decode_object_iff (ms : Members) (h : Header) :
    Header.record.decode (.object ms) = .ok h ↔
      ms.Sole "type" (.string h.type) ∧ ms.Sole "version" (.string h.version) := by
  constructor
  · intro hdecode
    cases hfields : Header.record.fields.fromMembers ms with
    | problem place e =>
        rw [Record.decode, hfields] at hdecode
        cases hdecode
    | value build =>
        rw [Record.decode, hfields] at hdecode
        obtain ⟨type, _, htype, hrest, rfl⟩ := Outcome.join_eq_value_iff.mp hfields
        obtain ⟨version, _, hversion, hdone, rfl⟩ := Outcome.join_eq_value_iff.mp hrest
        cases hdone
        cases hdecode
        obtain ⟨_, hsole, htext⟩ := (Field.fromMembers_required_iff _).mp htype
        obtain ⟨_, hsole', htext'⟩ := (Field.fromMembers_required_iff _).mp hversion
        rw [Codec.decode_text_eq_ok_iff] at htext htext'
        exact ⟨htext ▸ hsole, htext' ▸ hsole'⟩
  · rintro ⟨htype, hversion⟩
    have hfields : Header.record.fields.fromMembers ms
        = .value fun make => make h.type h.version :=
      Outcome.join_eq_value_iff.mpr
        ⟨h.type, _, (Field.fromMembers_required_iff _).mpr ⟨_, htype, rfl⟩,
          Outcome.join_eq_value_iff.mpr
            ⟨h.version, id, (Field.fromMembers_required_iff _).mpr ⟨_, hversion, rfl⟩, rfl, rfl⟩,
          rfl⟩
    rw [Record.decode, hfields]
    rfl

/-- An array decodes as a header exactly if it consists of the two texts. -/
theorem Header.decode_array_iff (items : List Value) (h : Header) :
    Header.record.decode (.array items) = .ok h ↔ items = [.string h.type, .string h.version] := by
  constructor
  · intro hdecode
    obtain ⟨hshort, hlong⟩ := Fields.length_of_fromItems hdecode
    have hlength : items.length = 0 ∨ items.length = 1 ∨ items.length = 2 := by
      have hle : items.length ≤ 2 := hshort
      omega
    -- neither of the two fields may be left out
    rcases hlength with hzero | hone | htwo
    · rw [hzero] at hlong
      cases hlong
    · rw [hone] at hlong
      cases hlong
    · obtain ⟨a, b, rfl⟩ := List.length_eq_two.mp htwo
      obtain ⟨type, htype, hrest⟩ := Fields.fromItems_cons_iff.mp hdecode
      obtain ⟨version, hversion, hdone⟩ := Fields.fromItems_cons_iff.mp hrest
      cases hdone
      have ha : a = .string type := Codec.decode_text_eq_ok_iff.mp htype
      have hb : b = .string version := Codec.decode_text_eq_ok_iff.mp hversion
      rw [ha, hb]
      rfl
  · rintro rfl
    rfl

/-- **A value decodes as a header exactly if the header stands in it.** -/
theorem Header.decode_eq_ok_iff {v : Value} {h : Header} :
    Header.record.decode v = .ok h ↔ h.Heads v := by
  constructor
  · intro hdecode
    cases v with
    | object ms =>
        obtain ⟨htype, hversion⟩ := (Header.decode_object_iff ms h).mp hdecode
        exact .object htype hversion
    | array items =>
        rw [(Header.decode_array_iff items h).mp hdecode]
        exact .array
    | null => cases hdecode
    | bool b => cases hdecode
    | number n => cases hdecode
    | string s => cases hdecode
  · intro hheads
    cases hheads with
    | object htype hversion => exact (Header.decode_object_iff _ h).mpr ⟨htype, hversion⟩
    | array => exact (Header.decode_array_iff _ h).mpr rfl

/-! ## §4. What a header tells. -/

namespace Header

variable {h : Header}

/-- A header names a type if its text stands for one that is known. -/
theorem type?_eq_some_iff (type : TransactionType) :
    h.type? = some type ↔
      TransactionType.vocabulary.StandsFor h.type type ∧ type ≠ .unknown := by
  rw [← TransactionType.parse_eq_ok_iff]
  unfold type?
  cases hparse : TransactionType.vocabulary.parse h.type with
  | error e => simp
  | ok named => cases named <;> cases type <;> simp

theorem type?_eq_none_iff :
    h.type? = none ↔
      ∀ type, TransactionType.vocabulary.StandsFor h.type type → type = .unknown := by
  rw [Option.eq_none_iff_forall_ne_some]
  refine forall_congr' fun type => ?_
  rw [ne_eq, type?_eq_some_iff, not_and, ne_eq, not_not]

/-- The version that the text stands for, query marker aside. -/
theorem baseVersion_of_standsFor {n : TransactionVersion}
    (hn : TransactionVersion.vocabulary.StandsFor h.version n) :
    h.baseVersion = n.withoutQuery := by
  have hparse := (TransactionVersion.parse_eq_ok_iff _ n).mpr hn
  unfold baseVersion
  rw [hparse]

/-- A text that stands for no version of the type names none, also if it stands for nothing. -/
theorem baseVersion_not_mem {type : TransactionType}
    (hnone : ∀ n, TransactionVersion.vocabulary.StandsFor h.version n →
      n.withoutQuery ∉ type.versions) : h.baseVersion ∉ type.versions := by
  cases hparse : TransactionVersion.vocabulary.parse h.version with
  | ok n =>
      have hn := (TransactionVersion.parse_eq_ok_iff _ n).mp hparse
      rw [baseVersion_of_standsFor hn]
      exact hnone n hn
  | error e =>
      have hunknown : h.baseVersion = .unknown := by
        unfold baseVersion
        rw [hparse]
      rw [hunknown]
      exact type.unknown_not_mem_versions

end Header

theorem ofValue_of_headless {v : Value} {cause : Mismatch}
    (hdecode : Header.record.decode v = .error cause) :
    ofValue v = .error (.invalidJson cause) := by
  unfold ofValue
  rw [hdecode]
  rfl

theorem ofValue_of_unhandled {v : Value} {h : Header} (hdecode : Header.record.decode v = .ok h)
    (htype : h.type? = none) : ofValue v = .error (.unhandled h.type h.version) := by
  unfold ofValue
  rw [hdecode]
  simp only [Except.mapError, bind, Except.bind, htype]

/-- The payload has the version that the text in the header stands for, query marker included. -/
theorem version_of_standsFor {v : Value} {h : Header} {variant : Variant} {p : variant.Payload}
    {n : TransactionVersion} (hheader : Header.record.decode v = .ok h)
    (hpayload : variant.record.decode v = .ok p)
    (hn : TransactionVersion.vocabulary.StandsFor h.version n) :
    Transaction.version ⟨variant, p⟩ = n := by
  have hread := version_of_decode (t := ⟨variant, p⟩) hheader hpayload
  have hparse := (TransactionVersion.parse_eq_ok_iff _ n).mpr hn
  exact Except.ok.inj (hread.symm.trans hparse)

/-! ## §5. Values. -/

/-- How a value is read, by the header that stands in it. -/
structure Classified (v : Value) : Prop where
  /-- Without a header it is malformed. -/
  headless : (∀ h : Header, ¬h.Heads v) → ∃ cause, ofValue v = .error (.invalidJson cause)
  /-- A text that stands for no type, or for the unknown one, is reported with the version. -/
  unhandled : ∀ h : Header, h.Heads v →
    (∀ type, TransactionType.vocabulary.StandsFor h.type type → type = .unknown) →
    ofValue v = .error (.unhandled h.type h.version)
  /-- A text that stands for no version of the type is reported with the type. -/
  unsupported : ∀ (h : Header) (type : TransactionType), h.Heads v →
    TransactionType.vocabulary.StandsFor h.type type → type ≠ .unknown →
    (∀ n, TransactionVersion.vocabulary.StandsFor h.version n → n.withoutQuery ∉ type.versions) →
    ofValue v = .error (.unsupportedVersion type h.version)
  /-- Otherwise the payload of one variant decides.  If it decodes, the value is an object and the
  transaction has the type and the version that the texts stand for. -/
  supported : ∀ (h : Header) (type : TransactionType) (n : TransactionVersion), h.Heads v →
    TransactionType.vocabulary.StandsFor h.type type →
    TransactionVersion.vocabulary.StandsFor h.version n → n.withoutQuery ∈ type.versions →
    ∃ variant : Variant, variant.type = type ∧ variant.baseVersion = n.withoutQuery ∧
      match variant.record.decode v with
      | .error cause => ofValue v = .error (.invalidJson cause)
      | .ok p => ofValue v = .ok ⟨variant, p⟩ ∧ Transaction.type ⟨variant, p⟩ = type ∧
          Transaction.version ⟨variant, p⟩ = n ∧ ∃ ms, v = .object ms

/-- **The header alone decides how a value is read, up to whether the payload decodes.** -/
theorem classified_by_header (v : Value) : Classified v := by
  constructor
  case headless =>
    intro hnone
    cases hdecode : Header.record.decode v with
    | ok h => exact absurd (Header.decode_eq_ok_iff.mp hdecode) (hnone h)
    | error cause => exact ⟨cause, ofValue_of_headless hdecode⟩
  case unhandled =>
    intro h hheads hunknown
    exact ofValue_of_unhandled (Header.decode_eq_ok_iff.mpr hheads)
      (Header.type?_eq_none_iff.mpr hunknown)
  case unsupported =>
    intro h type hheads hstands hne hnone
    have htype := (Header.type?_eq_some_iff type).mpr ⟨hstands, hne⟩
    have hvariant := (Variant.of?_eq_none_iff type h.baseVersion).mpr
      (Header.baseVersion_not_mem hnone)
    exact ofValue_of_unsupported (Header.decode_eq_ok_iff.mpr hheads) htype hvariant
  case supported =>
    intro h type n hheads hstands hversion hmem
    have hdecode := Header.decode_eq_ok_iff.mpr hheads
    have hne : type ≠ .unknown := by
      rintro rfl
      exact List.not_mem_nil hmem
    have htype := (Header.type?_eq_some_iff type).mpr ⟨hstands, hne⟩
    obtain ⟨variant, hvariant⟩ : ∃ variant, Variant.of? type n.withoutQuery = some variant := by
      rw [← Option.ne_none_iff_exists', ne_eq, Variant.of?_eq_none_iff]
      exact not_not_intro hmem
    obtain ⟨rfl, hbase⟩ := (Variant.of?_eq_some_iff _ _ _).mp hvariant
    refine ⟨variant, rfl, hbase, ?_⟩
    -- the variant is selected by the text and the payload read by the variant
    rw [← Header.baseVersion_of_standsFor hversion] at hvariant
    rw [ofValue_of_supported hdecode htype hvariant]
    cases hpayload : variant.record.decode v with
    | error cause => rfl
    | ok p =>
        exact ⟨rfl, rfl, version_of_standsFor hdecode hpayload hversion,
          object_of_decode hdecode hpayload⟩

/-- A query, with white space around its type and letters in both cases. -/
def queryMessage : Value := .object [
  ("max_fee", .string "0x1000"), ("nonce", .string "0x3"), ("sender_address", .string "0x123"),
  ("type", .string " Invoke "), ("version", .string "0X100000000000000000000000000000001")]

/-- The query is read as an invoke transaction of version 1 and stays a query. -/
theorem classified_by_header_queryMessage :
    ∃ t, ofValue queryMessage = .ok t ∧ t.variant = .invokeV1 ∧ t.version = .v1Query := by
  have hheads : Header.Heads ⟨" Invoke ", "0X100000000000000000000000000000001"⟩ queryMessage :=
    .object rfl rfl
  obtain ⟨variant, htype, hbase, hread⟩ := (classified_by_header queryMessage).supported _ .invoke
    .v1Query hheads (by decide) (by decide) (by decide)
  obtain rfl : variant = .invokeV1 := Variant.eq_of_type_of_baseVersion htype hbase
  obtain ⟨hof, _, hversion, _⟩ := hread
  exact ⟨_, hof, rfl, hversion⟩

end Transaction

end NodeClient
