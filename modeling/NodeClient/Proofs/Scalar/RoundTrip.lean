/-
  NodeClient.Proofs.Scalar.RoundTrip
  ──────────────────────────────────
  Words and quantities come back from their texts, and from JSON; texts and plain numbers come
  back from JSON.
-/
import NodeClient.Proofs.Codec.RoundTrip
import NodeClient.Proofs.Hex.Value
import NodeClient.Scalar.BlockNumber
import NodeClient.Scalar.Quantity
import NodeClient.Scalar.Word

namespace NodeClient

open Json

/-- The digits of a canonical form stand behind its marker. -/
theorem Hex.stripMarker_canonical (bytes : List UInt8) :
    stripMarker (canonical bytes) = .ok ((canonicalDigits bytes).map digitChar) := by
  rw [canonical_eq]
  rfl

namespace Word

variable {k : WordKind}

theorem ofChars_chars (w : Word k) : ofChars w.chars = .ok w := by
  unfold ofChars chars
  rw [Hex.stripMarker_canonical]
  show (do return ⟨← Hex.decodeFixed 32 _⟩ : Except HexError (Word k)) = _
  rw [Hex.decodeFixed, Hex.decodeBytes_canonicalDigits]
  show (do return ⟨← Hex.alignRight 32 _⟩ : Except HexError (Word k)) = _
  rw [Hex.alignRight_stripped (by omega)]
  rfl

/-- **A word comes back from its text.** -/
theorem parse_text (w : Word k) : parse w.text = .ok w := by
  rw [parse, text, String.toList_ofList, ofChars_chars]

theorem keepsAll : (codec : Codec (Word k)).KeepsAll := by
  refine Codec.keepsAll_of fun w => ?_
  unfold codec
  rw [Codec.rereads_ofText, parse_text]
  rfl

theorem normal_encode_ne_null (w : Word k) : (codec.encode w).normal ≠ .null := by
  show Value.string w.text ≠ .null
  exact Value.noConfusion

end Word

namespace Quantity

variable {k : QuantityKind}

theorem ofChars_chars (q : Quantity k) : ofChars q.chars = .ok q := by
  unfold ofChars chars Hex.canonicalU64
  rw [Hex.stripMarker_canonical]
  show (do return ⟨← Hex.decodeU64 _⟩ : Except HexError (Quantity k)) = _
  rw [Hex.decodeU64_canonicalDigits (by rw [Hex.bigEndian_length]), Hex.bigEndianValue_u64,
    UInt64.ofNat_toNat]
  rfl

/-- **A quantity comes back from its text.** -/
theorem parse_text (q : Quantity k) : parse q.text = .ok q := by
  rw [parse, text, String.toList_ofList, ofChars_chars]

theorem keepsAll : (codec : Codec (Quantity k)).KeepsAll := by
  refine Codec.keepsAll_of fun q => ?_
  unfold codec
  rw [Codec.rereads_ofText, parse_text]
  rfl

end Quantity

namespace Codec

theorem text_keepsAll : text.KeepsAll := by
  refine keepsAll_of fun s => ?_
  unfold text
  rw [rereads_ofText]
  rfl

/-- Exactly the whole numbers within the bounds come back. -/
theorem integer_keeps (low high : Int) (expected : String) :
    (integer low high expected).Keeps fun n => low ≤ n ∧ n ≤ high := by
  intro n m
  show (if low ≤ n ∧ n ≤ high then Except.ok n
    else .error (Mismatch.range (.number (.integer n)) expected)) = .ok m ↔ _
  by_cases hbounds : low ≤ n ∧ n ≤ high
  · rw [if_pos hbounds, Except.ok.injEq]
    exact (and_iff_right hbounds).symm
  · rw [if_neg hbounds]
    constructor
    · intro herror
      cases herror
    · rintro ⟨hin, _⟩
      exact absurd hin hbounds

/-- A type seen through a correspondence comes back if what it corresponds to does. -/
theorem Keeps.through {α β : Type} {c : Codec α} {P : α → Prop} (h : c.Keeps P) {forth : α → β}
    {back : β → α} (hinverse : ∀ b, forth (back b) = b) (hback : ∀ b, P (back b)) :
    (c.through forth back).KeepsAll := by
  refine keepsAll_of fun b => ?_
  have hself : c.decode (c.encode (back b)).normal = .ok (back b) := (h.self _).mpr (hback b)
  show (c.decode (c.encode (back b)).normal).map forth = .ok b
  rw [hself]
  exact congrArg Except.ok (hinverse b)

/-- **A number of 64 bits comes back from JSON.** -/
theorem u64_keepsAll : u64.KeepsAll := by
  refine (integer_keeps 0 (UInt64.size - 1) "u64").through ?_ ?_
  · intro n
    rw [Int.toNat_natCast, UInt64.ofNat_toNat]
  · intro n
    have hlt : n.toNat < UInt64.size := n.toNat_lt
    omega

/-- A number of 64 bits is read from the whole number that it is. -/
theorem decode_u64_eq_ok_iff {v : Value} {n : UInt64} :
    u64.decode v = .ok n ↔ v = .number (.integer n.toNat) := by
  constructor
  · intro h
    obtain ⟨m, hm, rfl⟩ := (map_eq_ok_iff _ _ _).mp h
    cases v with
    | number num =>
        cases num with
        | integer k =>
            change (if 0 ≤ k ∧ k ≤ (UInt64.size : Int) - 1 then Except.ok k else .error _) = .ok m at hm
            split at hm
            · next hbounds =>
                cases hm
                have hlt : m.toNat < UInt64.size := by omega
                rw [UInt64.toNat_ofNat_of_lt' hlt, Int.toNat_of_nonneg hbounds.1]
            · cases hm
        | real bits => cases hm
    | null => cases hm
    | bool b => cases hm
    | string s => cases hm
    | array items => cases hm
    | object ms => cases hm
  · rintro rfl
    exact (u64_keepsAll.self n).mpr trivial

theorem normal_encode_u64_ne_null (n : UInt64) : (u64.encode n).normal ≠ .null := by
  show Value.number (.integer n.toNat) ≠ .null
  exact Value.noConfusion

theorem normal_encode_text_ne_null (s : String) : (text.encode s).normal ≠ .null := by
  show Value.string s ≠ .null
  exact Value.noConfusion

end Codec

theorem BlockNumber.keepsAll : BlockNumber.codec.KeepsAll :=
  Codec.u64_keepsAll.through (fun _ => rfl) fun _ => trivial

theorem BlockNumber.decode_eq_ok_iff {v : Value} {n : BlockNumber} :
    BlockNumber.codec.decode v = .ok n ↔ v = .number (.integer n.value.toNat) := by
  rw [← Codec.decode_u64_eq_ok_iff]
  show (Codec.u64.decode v).map BlockNumber.mk = .ok n ↔ _
  rw [map_eq_ok_iff]
  constructor
  · rintro ⟨m, hm, rfl⟩
    exact hm
  · intro hn
    exact ⟨n.value, hn, rfl⟩

theorem BlockNumber.normal_encode_ne_null (n : BlockNumber) :
    (BlockNumber.codec.encode n).normal ≠ .null := Codec.normal_encode_u64_ne_null n.value

end NodeClient
