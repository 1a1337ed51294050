/-
  NodeClient.Proofs.Scalar.Canonical
  ──────────────────────────────────
  **Words and quantities are numbers, and each number has one canonical text.**

  All seven kinds of scalars are spelt alike: behind the marker stand the digits of a number.
  `Spelling.Numeric` says what there is to know of one of them: a value is its number, its text is
  canonical and denotes the number, and a text that is read gives the value of the number that it
  denotes.  Whatever is spelt like this comes back from its texts, from JSON and from raw literals,
  and two of its texts give the same value exactly if they denote the same number
  (`Spelling.Numeric.canonical`).

  Main result: `scalars_canonical`.
-/
import NodeClient.Proofs.Hex.Literal
import NodeClient.Proofs.Hex.Numeral
import NodeClient.Proofs.Json.PlainText
import NodeClient.Proofs.Scalar.RoundTrip

namespace NodeClient

open Json

/-! ## §1. Spellings. -/

/-- How the values of a type are written, and the ways to read them again. -/
structure Spelling (α : Type) where
  text : α → String
  parse : String → Except HexError α
  /-- Reads a raw string literal. -/
  ofLiteral : List UInt8 → Except HexError α
  codec : Codec α

/-- The number that is denoted by what stands behind the marker of a text. -/
def Hex.denoted (s : String) : Nat := value (s.toList.drop 2)

namespace Spelling

variable {α : Type}

/-- Values are numbers in hex form. -/
structure Numeric (sp : Spelling α) (toNat : α → Nat) : Prop where
  toNat_injective : Function.Injective toNat
  isCanonical_text : ∀ a, Hex.isCanonical (sp.text a).toList = true
  denoted_text : ∀ a, Hex.denoted (sp.text a) = toNat a
  parse_text : ∀ a, sp.parse (sp.text a) = .ok a
  parse_eq_ok : ∀ s a, sp.parse s = .ok a → ∃ digits, s.toList = '0' :: 'x' :: digits ∧
    digits.all Hex.isDigit = true ∧ toNat a = Hex.value digits
  ofLiteral_literal : ∀ s, s ≠ "" → sp.ofLiteral (Hex.literal s) = sp.parse s
  codec_eq : ∃ expected say,
    sp.codec = .ofText expected (fun s => (sp.parse s).mapError say) sp.text

/-- Values and canonical texts belong together one to one, and every other text that is read is
another form of one of them. -/
structure Canonical (sp : Spelling α) : Prop where
  /-- A value comes back from its text. -/
  parse_text : ∀ a, sp.parse (sp.text a) = .ok a
  /-- It comes back from JSON. -/
  decode_encode : ∀ a, sp.codec.decode (sp.codec.encode a) = .ok a
  /-- It comes back from the text of the JSON. -/
  read_encode : ∀ a, (Document.ofChars (sp.codec.encode a).chars).read sp.codec.read = .ok a
  /-- It comes back from the raw literal of its text. -/
  ofLiteral_text : ∀ a, sp.ofLiteral (Hex.literal (sp.text a)) = .ok a
  /-- Only the marker with digits behind it is read. -/
  marked : ∀ s a, sp.parse s = .ok a →
    ∃ digits, s.toList = '0' :: 'x' :: digits ∧ digits.all Hex.isDigit = true
  /-- A value that has been read is written in canonical form, and denotes the same number. -/
  canonical_text : ∀ s a, sp.parse s = .ok a →
    Hex.isCanonical (sp.text a).toList = true ∧ Hex.denoted (sp.text a) = Hex.denoted s
  /-- Texts that are read are told apart by the numbers that they denote, and by nothing else. -/
  eq_iff : ∀ s t a b, sp.parse s = .ok a → sp.parse t = .ok b →
    (a = b ↔ Hex.denoted s = Hex.denoted t)
  /-- Exactly the canonical texts are written as they have been read. -/
  unchanged_iff : ∀ s a, sp.parse s = .ok a → (sp.text a = s ↔ Hex.isCanonical s.toList = true)

/-! ## §2. Ways to read a text. -/

/-- The other ways to read a text read it as `parse` does, and nothing in it has to be escaped. -/
structure Uniform (sp : Spelling α) : Prop where
  isPlain_text : ∀ a, (sp.text a).toList.all isPlain = true
  text_ne_empty : ∀ a, sp.text a ≠ ""
  ofLiteral_literal : ∀ s, s ≠ "" → sp.ofLiteral (Hex.literal s) = sp.parse s
  codec_eq : ∃ expected say,
    sp.codec = .ofText expected (fun s => (sp.parse s).mapError say) sp.text

namespace Uniform

variable {sp : Spelling α} {a b : α}

/-- What comes back from the text of a value comes back from JSON. -/
theorem decode_encode (h : sp.Uniform) (hback : sp.parse (sp.text a) = .ok b) :
    sp.codec.decode (sp.codec.encode a) = .ok b := by
  obtain ⟨expected, say, hcodec⟩ := h.codec_eq
  rw [hcodec]
  show ((sp.parse (sp.text a)).mapError say).mapError Mismatch.refused = .ok b
  rw [hback]
  rfl

theorem read_encode (h : sp.Uniform) (hback : sp.parse (sp.text a) = .ok b) :
    (Document.ofChars (sp.codec.encode a).chars).read sp.codec.read = .ok b := by
  obtain ⟨expected, say, hcodec⟩ := h.codec_eq
  rw [hcodec, Codec.read_ofText (h.isPlain_text a), hback]
  rfl

theorem ofLiteral_text (h : sp.Uniform) (hback : sp.parse (sp.text a) = .ok b) :
    sp.ofLiteral (Hex.literal (sp.text a)) = .ok b := by
  rw [h.ofLiteral_literal _ (h.text_ne_empty a), hback]

end Uniform

/-! ## §3. What is spelt as a number. -/

/-- Nothing has to be escaped in a canonical text. -/
theorem isPlain_of_isCanonical {s : List Char} (h : Hex.isCanonical s = true) :
    s.all isPlain = true := by
  obtain ⟨ns, hns, _, rfl⟩ := (Hex.isCanonical_iff s).mp h
  have hdigit : ∀ n < 16, isPlain (Hex.digitChar n) = true := by decide
  rw [List.all_eq_true]
  intro c hc
  rcases List.mem_cons.mp hc with rfl | hc
  · rfl
  · rcases List.mem_cons.mp hc with rfl | hc
    · rfl
    · obtain ⟨n, hn, rfl⟩ := List.mem_map.mp hc
      exact hdigit n (hns n hn)

namespace Numeric

variable {sp : Spelling α} {toNat : α → Nat}

theorem denoted_of_parse (h : sp.Numeric toNat) {s : String} {a : α} (hs : sp.parse s = .ok a) :
    Hex.denoted s = toNat a := by
  obtain ⟨digits, hdigits, _, hvalue⟩ := h.parse_eq_ok s a hs
  rw [hvalue, Hex.denoted, hdigits]
  rfl

theorem uniform (h : sp.Numeric toNat) : sp.Uniform where
  isPlain_text a := isPlain_of_isCanonical (h.isCanonical_text a)
  text_ne_empty a hempty := by
    have hcanonical := h.isCanonical_text a
    rw [hempty] at hcanonical
    cases hcanonical
  ofLiteral_literal := h.ofLiteral_literal
  codec_eq := h.codec_eq

/-- **What is spelt as a number has one canonical text for each value.** -/
theorem canonical (h : sp.Numeric toNat) : sp.Canonical where
  parse_text := h.parse_text
  decode_encode a := h.uniform.decode_encode (h.parse_text a)
  read_encode a := h.uniform.read_encode (h.parse_text a)
  ofLiteral_text a := h.uniform.ofLiteral_text (h.parse_text a)
  marked s a hs := by
    obtain ⟨digits, hdigits, hall, _⟩ := h.parse_eq_ok s a hs
    exact ⟨digits, hdigits, hall⟩
  canonical_text s a hs :=
    ⟨h.isCanonical_text a, (h.denoted_text a).trans (h.denoted_of_parse hs).symm⟩
  eq_iff s t a b hs ht := by
    rw [h.denoted_of_parse hs, h.denoted_of_parse ht]
    exact h.toNat_injective.eq_iff.symm
  unchanged_iff s a hs := by
    constructor
    · rintro rfl
      exact h.isCanonical_text a
    · intro hcanonical
      have hvalue : Hex.denoted (sp.text a) = Hex.denoted s :=
        (h.denoted_text a).trans (h.denoted_of_parse hs).symm
      exact String.toList_injective
        (Hex.isCanonical_injective (h.isCanonical_text a) hcanonical hvalue)

end Numeric

end Spelling

/-! ## §4. Words. -/

namespace Word

variable {k : WordKind}

def spelling : Spelling (Word k) := { text, parse, ofLiteral, codec }

theorem toNat_injective : Function.Injective (toNat : Word k → Nat) := by
  rintro ⟨as⟩ ⟨bs⟩ h
  exact congrArg Word.mk (Subtype.ext
    (Hex.bigEndianValue_injective (as.property.trans bs.property.symm) h))

/-- **A word is read from the marker with at most 64 digits behind it, which denote its number.** -/
theorem ofChars_eq_ok_iff (s : List Char) (w : Word k) :
    ofChars s = .ok w ↔ ∃ digits, s = '0' :: 'x' :: digits ∧ digits.all Hex.isDigit = true ∧
      digits.length ≤ 64 ∧ w.toNat = Hex.value digits := by
  unfold ofChars
  simp only [bind_eq_ok_iff, Hex.stripMarker_eq_ok_iff, Hex.decodeFixed_eq_ok_iff]
  constructor
  · rintro ⟨digits, hs, block, ⟨hall, hlength, hvalue⟩, hw⟩
    cases hw
    exact ⟨digits, hs, hall, hlength, hvalue⟩
  · rintro ⟨digits, hs, hall, hlength, hvalue⟩
    exact ⟨digits, hs, w.bytes, ⟨hall, hlength, hvalue⟩, rfl⟩

theorem numeric : (spelling : Spelling (Word k)).Numeric toNat where
  toNat_injective := toNat_injective
  isCanonical_text w := by
    show Hex.isCanonical (String.ofList w.chars).toList = true
    rw [String.toList_ofList]
    exact Hex.isCanonical_canonical _
  denoted_text w := by
    show Hex.value ((String.ofList w.chars).toList.drop 2) = w.toNat
    rw [String.toList_ofList]
    exact Hex.value_canonical _
  parse_text := parse_text
  parse_eq_ok s w hs := by
    obtain ⟨digits, hdigits, hall, _, hvalue⟩ := (ofChars_eq_ok_iff s.toList w).mp hs
    exact ⟨digits, hdigits, hall, hvalue⟩
  ofLiteral_literal s hs := by
    show ofLiteral (Hex.literal s) = parse s
    unfold ofLiteral
    rw [Hex.stripLiteral_literal hs]
    rfl
  codec_eq := ⟨_, _, rfl⟩

end Word

/-! ## §5. Quantities. -/

namespace Quantity

variable {k : QuantityKind}

def spelling : Spelling (Quantity k) := { text, parse, ofLiteral, codec }

theorem toNat_injective : Function.Injective (toNat : Quantity k → Nat) := by
  rintro ⟨m⟩ ⟨n⟩ h
  exact congrArg Quantity.mk (UInt64.toNat_inj.mp h)

/-- **A quantity is read from the marker with digits behind it, one at least, which denote its
number.** -/
theorem ofChars_eq_ok_iff (s : List Char) (q : Quantity k) :
    ofChars s = .ok q ↔ ∃ digits, s = '0' :: 'x' :: digits ∧ digits ≠ [] ∧
      digits.all Hex.isDigit = true ∧ q.toNat = Hex.value digits := by
  unfold ofChars
  simp only [bind_eq_ok_iff, Hex.stripMarker_eq_ok_iff, Hex.decodeU64_eq_ok_iff]
  constructor
  · rintro ⟨digits, hs, n, ⟨hsome, hall, hvalue⟩, hq⟩
    cases hq
    exact ⟨digits, hs, hsome, hall, hvalue⟩
  · rintro ⟨digits, hs, hsome, hall, hvalue⟩
    exact ⟨digits, hs, q.value, ⟨hsome, hall, hvalue⟩, rfl⟩

theorem numeric : (spelling : Spelling (Quantity k)).Numeric toNat where
  toNat_injective := toNat_injective
  isCanonical_text q := by
    show Hex.isCanonical (String.ofList q.chars).toList = true
    rw [String.toList_ofList]
    exact Hex.isCanonical_canonical _
  denoted_text q := by
    show Hex.value ((String.ofList q.chars).toList.drop 2) = q.toNat
    rw [String.toList_ofList, chars, Hex.canonicalU64, Hex.value_canonical,
      Hex.bigEndianValue_u64]
    rfl
  parse_text := parse_text
  parse_eq_ok s q hs := by
    obtain ⟨digits, hdigits, _, hall, hvalue⟩ := (ofChars_eq_ok_iff s.toList q).mp hs
    exact ⟨digits, hdigits, hall, hvalue⟩
  ofLiteral_literal s hs := by
    show ofLiteral (Hex.literal s) = parse s
    unfold ofLiteral
    rw [Hex.stripLiteral_literal hs]
    rfl
  codec_eq := ⟨_, _, rfl⟩

end Quantity

/-- **Hashes, addresses, field elements, public keys and roots, amounts and numbers: each value has
one canonical text, and every text that is read is a form of the number that it denotes.** -/
theorem scalars_canonical :
    (∀ k : WordKind, (Word.spelling : Spelling (Word k)).Canonical) ∧
      ∀ k : QuantityKind, (Quantity.spelling : Spelling (Quantity k)).Canonical :=
  ⟨fun _ => Word.numeric.canonical, fun _ => Quantity.numeric.canonical⟩

end NodeClient
