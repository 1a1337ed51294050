/-
  NodeClient.Proofs.Scalar.Data
  ─────────────────────────────
  What is left of binary data when they are written and read again.

  The text of data tells the number that the bytes denote and whether there are any bytes at all.
  So data come back without the zero bytes in front, of which the last stays if there is nothing
  else (`parse_text`), and what comes back has the text of what was written (`text_canonical`).
-/
import NodeClient.Proofs.Scalar.RoundTrip
import NodeClient.Scalar.Data

namespace NodeClient

open Json

/-! ## §1. Zero bytes in front. -/

namespace Hex

theorem significant_stripped (bytes : List UInt8) :
    significant (stripped bytes) = significant bytes := by
  unfold stripped
  split
  · next h =>
      -- nothing but zero bytes
      rw [(significant_eq_nil_iff bytes).mpr h]
      rfl
  · exact significant_dropWhile_zero bytes

/-- Zero bytes in front do not show in the canonical form. -/
theorem canonical_stripped (bytes : List UInt8) :
    canonical (stripped bytes) = canonical bytes := by
  rw [canonical_eq, canonical_eq, canonicalDigits, canonicalDigits, significant_stripped]

theorem stripped_ne_nil (bytes : List UInt8) : stripped bytes ≠ [] := by
  unfold stripped
  split
  · exact List.cons_ne_nil _ _
  · next h => exact h

end Hex

/-! ## §2. Data. -/

namespace Data

/-- The data that come back: without zero bytes in front, but never without any byte if there was
one. -/
def canonical (d : Data) : Data := if d.isEmpty then d else ⟨Hex.stripped d.bytes⟩

theorem ofChars_chars (d : Data) : ofChars d.chars = .ok d.canonical := by
  obtain ⟨bytes⟩ := d
  cases bytes with
  | nil => rfl
  | cons b bytes =>
      show ofChars (Hex.canonical (b :: bytes)) = .ok ⟨Hex.stripped (b :: bytes)⟩
      unfold ofChars
      rw [Hex.stripMarker_canonical]
      show (do return ⟨← Hex.decodeBytes _⟩ : Except HexError Data) = _
      rw [Hex.decodeBytes_canonicalDigits]
      rfl

/-- **Data come back from their text in canonical form.** -/
theorem parse_text (d : Data) : parse d.text = .ok d.canonical := by
  rw [parse, text, String.toList_ofList, ofChars_chars]

/-- The canonical form has the same text. -/
theorem text_canonical (d : Data) : d.canonical.text = d.text := by
  obtain ⟨bytes⟩ := d
  cases bytes with
  | nil => rfl
  | cons b bytes =>
      have hsome : (Hex.stripped (b :: bytes)).isEmpty = false :=
        List.isEmpty_eq_false_iff.mpr (Hex.stripped_ne_nil _)
      show String.ofList (if (Hex.stripped (b :: bytes)).isEmpty then _
        else Hex.canonical (Hex.stripped (b :: bytes))) = String.ofList (Hex.canonical (b :: bytes))
      rw [hsome, if_neg Bool.false_ne_true, Hex.canonical_stripped]

theorem rereads_iff (d d' : Data) : codec.Rereads d d' ↔ d.canonical = d' := by
  unfold codec
  rw [Codec.rereads_ofText, parse_text]
  show Except.ok d.canonical = .ok d' ↔ _
  rw [Except.ok.injEq]

theorem encode_canonical (d : Data) : codec.encode d.canonical = codec.encode d :=
  congrArg Value.string (text_canonical d)

end Data

end NodeClient
