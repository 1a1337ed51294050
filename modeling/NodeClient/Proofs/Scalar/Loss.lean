/-
  NodeClient.Proofs.Scalar.Loss
  ─────────────────────────────
  **Data lose their zero bytes in front and nothing else.**

  What comes back of data is their canonical form (`Data.canonical`), whichever way they take: as a
  text, as a JSON value, as a JSON text or as a raw literal.  `Strips` says of one way what that
  means for the bytes.  The text of data without any bytes is not that of a zero byte, so that
  there are bytes afterwards exactly if there were before, and a single zero byte stays although it
  stands in front.

  Main result: `Data.exact_loss`.
-/
import NodeClient.Proofs.Scalar.Canonical
import NodeClient.Proofs.Scalar.Data

namespace NodeClient

open Json

/-! ## §1. Bytes without zeros in front. -/

namespace Hex

/-- Only nothing but zeros is dropped as a whole. -/
theorem dropWhile_zero_eq_nil_iff (bytes : List UInt8) :
    bytes.dropWhile (· == 0) = [] ↔ ∀ b ∈ bytes, b = 0 := by
  simp only [List.dropWhile_eq_nil_iff, beq_iff_eq]

theorem stripped_of_nonzero {bytes : List UInt8} (h : ∃ b ∈ bytes, b ≠ 0) :
    stripped bytes = bytes.dropWhile (· == 0) := by
  unfold stripped
  split
  · next hnil =>
      obtain ⟨b, hb, hne⟩ := h
      exact absurd ((dropWhile_zero_eq_nil_iff bytes).mp hnil b hb) hne
  · rfl

theorem stripped_of_zero {bytes : List UInt8} (h : ∀ b ∈ bytes, b = 0) : stripped bytes = [0] := by
  rw [stripped, (dropWhile_zero_eq_nil_iff bytes).mpr h]

/-- The number stays, since it can be read off the canonical form. -/
theorem bigEndianValue_stripped (bytes : List UInt8) :
    bigEndianValue (stripped bytes) = bigEndianValue bytes := by
  rw [← value_canonical, canonical_stripped, value_canonical]

/-- Nothing is lost of a single zero byte, and of bytes that do not start with one. -/
theorem stripped_cons_eq_self_iff (b : UInt8) (bytes : List UInt8) :
    stripped (b :: bytes) = b :: bytes ↔ b :: bytes = [0] ∨ b ≠ 0 := by
  by_cases hb : b = 0
  · subst hb
    have hdrop : (0 :: bytes).dropWhile (· == 0) = bytes.dropWhile (· == 0) := rfl
    by_cases hzero : ∀ c ∈ bytes, c = 0
    · have hall : ∀ c ∈ (0 : UInt8) :: bytes, c = 0 := List.forall_mem_cons.mpr ⟨rfl, hzero⟩
      rw [stripped_of_zero hall]
      constructor
      · exact fun h => .inl h.symm
      · rintro (h | h)
        · exact h.symm
        · exact absurd rfl h
    · push Not at hzero
      obtain ⟨c, hc, hne⟩ := hzero
      rw [stripped_of_nonzero ⟨c, List.mem_cons_of_mem _ hc, hne⟩, hdrop]
      refine iff_of_false ?_ ?_
      · intro h
        -- what is left is no longer than the rest
        have hlength := (List.dropWhile_suffix (l := bytes) (· == 0)).length_le
        rw [h, List.length_cons] at hlength
        omega
      · rintro (h | h)
        · rw [(List.cons.inj h).2] at hc
          cases hc
        · exact h rfl
  · have hself : (b :: bytes).dropWhile (· == 0) = b :: bytes := by
      rw [List.dropWhile_cons, if_neg (by simpa using hb)]
    rw [stripped_of_nonzero ⟨b, List.mem_cons_self, hb⟩, hself]
    exact iff_of_true rfl (.inr hb)

end Hex

namespace Data

/-! ## §2. The canonical form of data. -/

theorem isEmpty_canonical (d : Data) : d.canonical.isEmpty = d.isEmpty := by
  unfold canonical
  split
  · rfl
  · next hsome =>
      rw [Bool.eq_false_of_not_eq_true hsome]
      exact List.isEmpty_eq_false_iff.mpr (Hex.stripped_ne_nil d.bytes)

theorem bigEndianValue_canonical (d : Data) :
    Hex.bigEndianValue d.canonical.bytes = Hex.bigEndianValue d.bytes := by
  unfold canonical
  split
  · rfl
  · exact Hex.bigEndianValue_stripped d.bytes

/-- What has the same text comes back as the same data. -/
theorem canonical_canonical (d : Data) : d.canonical.canonical = d.canonical := by
  have hback := parse_text d.canonical
  rw [text_canonical, parse_text] at hback
  exact (Except.ok.inj hback).symm

theorem canonical_eq_self_iff (d : Data) :
    d.canonical = d ↔ d.bytes = [] ∨ d.bytes = [0] ∨ ∃ b rest, d.bytes = b :: rest ∧ b ≠ 0 := by
  obtain ⟨bytes⟩ := d
  cases bytes with
  | nil => exact iff_of_true rfl (.inl rfl)
  | cons b rest =>
      have hself : canonical ⟨b :: rest⟩ = ⟨b :: rest⟩ ↔ Hex.stripped (b :: rest) = b :: rest := by
        show (⟨Hex.stripped (b :: rest)⟩ : Data) = ⟨b :: rest⟩ ↔ _
        rw [Data.mk.injEq]
      rw [hself, Hex.stripped_cons_eq_self_iff]
      simp

/-! ## §3. Ways to write data and read them again. -/

/-- What is left of data that go a way of being written and read again. -/
structure Strips {ε : Type} (way : Data → Except ε Data) : Prop where
  /-- Zero bytes in front are lost, -/
  comes_back : ∀ d, (d.bytes = [] ∨ ∃ b ∈ d.bytes, b ≠ 0) →
    way d = .ok ⟨d.bytes.dropWhile (· == 0)⟩
  /-- but of nothing else than zero bytes one is left. -/
  comes_back_zero : ∀ d, d.bytes ≠ [] → (∀ b ∈ d.bytes, b = 0) → way d = .ok ⟨[0]⟩
  unchanged_iff : ∀ d, way d = .ok d ↔
    d.bytes = [] ∨ d.bytes = [0] ∨ ∃ b rest, d.bytes = b :: rest ∧ b ≠ 0
  isEmpty_eq : ∀ d left, way d = .ok left → left.isEmpty = d.isEmpty
  value_eq : ∀ d left, way d = .ok left →
    Hex.bigEndianValue left.bytes = Hex.bigEndianValue d.bytes
  /-- What is left has the same text, and a second time nothing is lost. -/
  settles : ∀ d left, way d = .ok left → left.text = d.text ∧ way left = .ok left

/-- Whatever brings data back in canonical form strips them. -/
theorem strips_of_canonical {ε : Type} {way : Data → Except ε Data}
    (h : ∀ d, way d = .ok d.canonical) : Strips way where
  comes_back d hd := by
    rw [h]
    obtain ⟨bytes⟩ := d
    cases bytes with
    | nil => rfl
    | cons b rest =>
        rcases hd with hnil | hne
        · cases hnil
        · exact congrArg (Except.ok ∘ Data.mk) (Hex.stripped_of_nonzero hne)
  comes_back_zero d hsome hzero := by
    rw [h]
    obtain ⟨bytes⟩ := d
    cases bytes with
    | nil => exact absurd rfl hsome
    | cons b rest => exact congrArg (Except.ok ∘ Data.mk) (Hex.stripped_of_zero hzero)
  unchanged_iff d := by
    rw [h, Except.ok.injEq]
    exact canonical_eq_self_iff d
  isEmpty_eq d left hleft := by
    rw [h] at hleft
    cases hleft
    exact isEmpty_canonical d
  value_eq d left hleft := by
    rw [h] at hleft
    cases hleft
    exact bigEndianValue_canonical d
  settles d left hleft := by
    rw [h] at hleft
    cases hleft
    exact ⟨text_canonical d, by rw [h, canonical_canonical]⟩

def spelling : Spelling Data := { text, parse, ofLiteral, codec }

theorem uniform : spelling.Uniform where
  isPlain_text d := by
    show (String.ofList d.chars).toList.all isPlain = true
    rw [String.toList_ofList, chars]
    split
    · decide
    · exact Spelling.isPlain_of_isCanonical (Hex.isCanonical_canonical d.bytes)
  text_ne_empty d hempty := by
    have hback : spelling.parse (spelling.text d) = .ok d.canonical := parse_text d
    rw [hempty] at hback
    cases hback
  ofLiteral_literal s hs := by
    show ofLiteral (Hex.literal s) = parse s
    unfold ofLiteral
    rw [Hex.stripLiteral_literal hs]
    rfl
  codec_eq := ⟨_, _, rfl⟩

/-- **Data come back from their text, from JSON, from the text of the JSON and from the raw literal
of their text without the zero bytes in front, of which one stays if there is no other byte, and
with everything else.** -/
theorem exact_loss :
    Strips (fun d => parse d.text) ∧
    Strips (fun d => codec.decode (codec.encode d)) ∧
    Strips (fun d => (Document.ofChars (codec.encode d).chars).read codec.read) ∧
    Strips (fun d => ofLiteral (Hex.literal d.text)) :=
  ⟨strips_of_canonical parse_text,
    strips_of_canonical fun d => uniform.decode_encode (parse_text d),
    strips_of_canonical fun d => uniform.read_encode (parse_text d),
    strips_of_canonical fun d => uniform.ofLiteral_text (parse_text d)⟩

/-- A zero byte in front of another byte does not come back. -/
example : parse (text ⟨[0, 1]⟩) = .ok ⟨[1]⟩ := by rfl

end Data

end NodeClient
