/-
  NodeClient.Proofs.Token.Enumeration
  ───────────────────────────────────
  **An enumeration is read by its tokens, and by nothing else.**

  A text spells a value if its core, what stands between the white space at its ends, is the
  token of the value up to the case of ASCII letters.  It is read as the value that it spells,
  unless that is the unknown value of an enumeration which does not accept it; every other text
  is reported as it stands, with what the enumeration is called (`ReadByTokens`).

  Main result: `Enumeration.read_by_tokens`, for the seven enumerations on the wire.
-/
import NodeClient.Proofs.Text.Token
import NodeClient.Proofs.Token.Vocabulary

namespace NodeClient

open Json

namespace Vocabulary

variable {α : Type} {v : Vocabulary α}

/-! ## §1. What a text spells. -/

/-- The core of the text is the token of the value, letter by letter. -/
def Spells (v : Vocabulary α) (s : String) (a : α) : Prop :=
  ∃ core, Text.IsCore core s.toList ∧ List.Forall₂ Text.Alike core (v.token a).toList

/-- The value is not the unknown value of an enumeration that refuses it. -/
def Accepts (v : Vocabulary α) (a : α) : Prop := a = v.unknown → v.readsUnknown = true

/-- What an enumeration makes of texts. -/
structure ReadByTokens (v : Vocabulary α) : Prop where
  /-- A text is read as the accepted value that it spells. -/
  parse_iff : ∀ s a, v.parse s = .ok a ↔ v.Spells s a ∧ v.Accepts a
  /-- Every other text is reported untrimmed, with the label of the enumeration. -/
  refused : ∀ s, (∀ a, ¬(v.Spells s a ∧ v.Accepts a)) → v.parse s = .error ⟨v.label, s⟩
  /-- No text spells two values. -/
  unique : ∀ s a b, v.Spells s a → v.Spells s b → a = b
  /-- The token of an accepted value is read as it. -/
  token : ∀ a, v.Accepts a → v.parse (v.token a) = .ok a
  /-- JSON is read by its texts alone. -/
  decode_iff : ∀ value a, v.codec.decode value = .ok a ↔
    ∃ s, value = .string s ∧ v.parse s = .ok a
  /-- What has been read is written as a token that is read as the same value. -/
  again : ∀ value a, v.codec.decode value = .ok a → v.codec.decode (v.codec.encode a) = .ok a

theorem standsFor_iff_spells (s : String) (a : α) : v.StandsFor s a ↔ v.Spells s a := by
  unfold StandsFor Spells
  rw [Text.equalsIgnoringCase_iff_alike]
  constructor
  · intro h
    exact ⟨_, Text.trim_isCore s.toList, h⟩
  · rintro ⟨core, hcore, h⟩
    rw [(Text.trim_eq_iff s.toList core).mpr hcore]
    exact h

theorem Clear.mem_readable_iff_accepts (h : v.Clear) (hunknown : v.unknown ∉ v.known) (a : α) :
    a ∈ v.readable ↔ v.Accepts a := by
  unfold Accepts
  cases hreads : v.readsUnknown with
  | true => exact iff_of_true (mem_readable h hreads a) fun _ => rfl
  | false =>
      rw [mem_readable_iff h hunknown hreads]
      exact ⟨fun hne heq => absurd heq hne, fun hno heq => Bool.noConfusion (hno heq)⟩

/-! ## §2. Clear vocabularies are read by their tokens. -/

theorem parse_eq_error {s : String} (h : ∀ a, v.parse s ≠ .ok a) :
    v.parse s = .error ⟨v.label, s⟩ := by
  unfold parse at h ⊢
  dsimp only at h ⊢
  split
  · next a hfind =>
      rw [hfind] at h
      exact absurd rfl (h a)
  · rfl

/-- **A clear vocabulary, in which the unknown value is not known, is read by its tokens.** -/
theorem Clear.readByTokens (h : v.Clear) (hunknown : v.unknown ∉ v.known) : v.ReadByTokens := by
  have hparse : ∀ s a, v.parse s = .ok a ↔ v.Spells s a ∧ v.Accepts a := by
    intro s a
    rw [parse_eq_ok_iff h, h.mem_readable_iff_accepts hunknown, ← standsFor_iff_spells]
    exact and_comm
  have htoken : ∀ a, v.Accepts a → v.parse (v.token a) = .ok a := fun a ha =>
    (parse_token_iff h a a).mpr ⟨(h.mem_readable_iff_accepts hunknown a).mpr ha, rfl⟩
  constructor
  case parse_iff => exact hparse
  case refused =>
    intro s hnone
    exact parse_eq_error fun a ha => hnone a ((hparse s a).mp ha)
  case unique =>
    intro s a b ha hb
    -- both tokens are the trimmed text up to case
    have hsa := Text.equalsIgnoringCase_iff.mp ((standsFor_iff_spells s a).mpr ha)
    have hsb := Text.equalsIgnoringCase_iff.mp ((standsFor_iff_spells s b).mpr hb)
    exact h.apart a b (Text.equalsIgnoringCase_iff.mpr (hsa.symm.trans hsb))
  case token => exact htoken
  case decode_iff => exact fun value a => decode_codec_eq_ok_iff
  case again =>
    intro value a hdecode
    obtain ⟨s, _, hs⟩ := decode_codec_eq_ok_iff.mp hdecode
    exact decode_codec_eq_ok_iff.mpr ⟨v.token a, rfl, htoken a ((hparse s a).mp hs).2⟩

end Vocabulary

/-! ## §3. The enumerations. -/

/-- The enumerations that are written as tokens. -/
inductive Enumeration where
  | finalityStatus | executionStatus | feeUnit | blockDaMode | txDaMode
  | transactionType | transactionVersion
  deriving Repr, DecidableEq

namespace Enumeration

/-- The values of an enumeration. -/
def Value : Enumeration → Type
  | finalityStatus => FinalityStatus
  | executionStatus => ExecutionStatus
  | feeUnit => FeeUnit
  | blockDaMode => BlockDaMode
  | txDaMode => TxDaMode
  | transactionType => TransactionType
  | transactionVersion => TransactionVersion

/-- The tokens of an enumeration. -/
def vocabulary : (e : Enumeration) → Vocabulary e.Value
  | finalityStatus => FinalityStatus.vocabulary
  | executionStatus => ExecutionStatus.vocabulary
  | feeUnit => FeeUnit.vocabulary
  | blockDaMode => BlockDaMode.vocabulary
  | txDaMode => TxDaMode.vocabulary
  | transactionType => TransactionType.vocabulary
  | transactionVersion => TransactionVersion.vocabulary

/-- **Each enumeration is read by its tokens, and by nothing else.** -/
theorem read_by_tokens (e : Enumeration) : e.vocabulary.ReadByTokens := by
  cases e with
  | finalityStatus => exact FinalityStatus.clear.readByTokens (by decide)
  | executionStatus => exact ExecutionStatus.clear.readByTokens (by decide)
  | feeUnit => exact FeeUnit.clear.readByTokens (by decide)
  | blockDaMode => exact BlockDaMode.clear.readByTokens (by decide)
  | txDaMode => exact TxDaMode.clear.readByTokens (by decide)
  | transactionType => exact TransactionType.clear.readByTokens (by decide)
  | transactionVersion => exact TransactionVersion.clear.readByTokens (by decide)

/-- The Kelvin sign is no letter of a token, though it folds to one. -/
example : TransactionType.vocabulary.parse "INVO\u212AE"
    = .error ⟨"transaction type", "INVO\u212AE"⟩ := by decide

end Enumeration

end NodeClient
