/-
  NodeClient.Proofs.Scalar.Literal
  ────────────────────────────────
  **A raw literal is read as the text between its quotes, and as the JSON text that it is.**

  A scalar is read in three ways: from a text, from the bytes of a raw literal, and from a JSON
  text.  The first two take off different things, a marker here and a marker with two quotes there,
  and go on with the same digits.  So the bytes that are taken for a literal are those of a text
  between quotes (`stripLiteral_eq_ok_iff`), and since digits need no escape, these bytes are the
  JSON text of the string.

  Main result: `raw_literals_agree`.
-/
import NodeClient.Proofs.Scalar.Loss

namespace NodeClient

open Json

/-! ## §1. What a raw literal holds. -/

namespace Hex

/-- Bytes in UTF-8 are the bytes of the text that they make. -/
theorem bytes_of_fromUTF8? {bytes : List UInt8} {s : String}
    (h : String.fromUTF8? (ByteArray.mk bytes.toArray) = some s) :
    s.toUTF8.data.toList = bytes := by
  by_cases hvalid : (ByteArray.mk bytes.toArray).IsValidUTF8
  · have hs : String.fromUTF8 _ hvalid = s := by simpa [String.fromUTF8?, hvalid] using h
    rw [← hs]
    rfl
  · simp [String.fromUTF8?, hvalid] at h

/-- The bytes between `"0x` and the last quote, which are two different quotes. -/
theorem literalBody_eq_ok_iff (raw body : List UInt8) :
    literalBody raw = .ok body ↔ raw = quoteByte :: 0x30 :: 0x78 :: (body ++ [quoteByte]) := by
  constructor
  · intro h
    unfold literalBody at h
    split at h
    · contradiction
    · next rest =>
        split at h
        · next hlast =>
            injection h with h
            rw [← h, List.dropLast_append_getLast? quoteByte hlast]
            rfl
        · contradiction
    · contradiction
  · intro h
    rw [h, literalBody_marked]

theorem literal_ofList (text : List Char) :
    literal (String.ofList text)
      = quoteByte :: (text.flatMap String.utf8EncodeChar ++ [quoteByte]) := by
  rw [literal, toUTF8_eq, String.toList_ofList]

/-- The raw literal of digits behind the marker.  Each digit is one byte. -/
theorem literal_marked {digits : List Char} (h : digits.all isDigit = true) :
    literal (String.ofList ('0' :: 'x' :: digits)) = quoteByte :: 0x30 :: 0x78 ::
      (digits.map (fun c => UInt8.ofNat c.toNat) ++ [quoteByte]) := by
  have hbytes : digits.flatMap String.utf8EncodeChar
      = digits.map fun c => UInt8.ofNat c.toNat := by
    induction digits with
    | nil => rfl
    | cons c digits ih =>
        simp only [List.all_cons, Bool.and_eq_true] at h
        have hascii := toNat_lt_of_digit? (digit?_eq_some h.1)
        simp only [List.flatMap_cons, List.map_cons, utf8EncodeChar_of_ascii hascii, ih h.2]
        rfl
  rw [literal_ofList, ← hbytes]
  rfl

theorem ofList_marked_ne_empty (digits : List Char) : String.ofList ('0' :: 'x' :: digits) ≠ "" := by
  intro hempty
  have hchars := congrArg String.toList hempty
  rw [String.toList_ofList] at hchars
  cases hchars

/-- The bytes of a raw literal are a text: the quotes with the text between them. -/
theorem fromUTF8?_literal (text : List Char) :
    String.fromUTF8? (ByteArray.mk (literal (String.ofList text)).toArray)
      = some (String.ofList ('"' :: (text ++ ['"']))) := by
  have hbytes : literal (String.ofList text)
      = (String.ofList ('"' :: (text ++ ['"']))).toUTF8.data.toList := by
    rw [literal_ofList, toUTF8_eq, String.toList_ofList, List.flatMap_cons, List.flatMap_append]
    rfl
  rw [hbytes, fromUTF8?_toUTF8]

/-- **A raw literal is that of a text with the marker**, from which the digits are taken. -/
theorem stripLiteral_eq_ok_iff (raw : List UInt8) (digits : List Char) :
    stripLiteral raw = .ok digits ↔ raw = literal (String.ofList ('0' :: 'x' :: digits)) := by
  constructor
  · intro h
    unfold stripLiteral at h
    rw [bind_eq_ok_iff] at h
    obtain ⟨body, hbody, h⟩ := h
    rw [literalBody_eq_ok_iff] at hbody
    split at h
    · next text htext =>
        injection h with h
        rw [hbody, ← bytes_of_fromUTF8? htext, ← h, literal_ofList, toUTF8_eq]
        rfl
    · contradiction
  · intro h
    rw [h, stripLiteral_literal (ofList_marked_ne_empty digits), String.toList_ofList]
    rfl

end Hex

/-! ## §2. Three ways to read. -/

namespace Spelling

variable {α : Type}

/-- Raw literals are read as texts are, and as JSON texts are. -/
structure ReadsLiterals (sp : Spelling α) : Prop where
  /-- Between quotes a text is read as it is by itself: as the same value, or with the same
  error. -/
  ofLiteral_literal : ∀ s, s ≠ "" → sp.ofLiteral (Hex.literal s) = sp.parse s
  /-- Only the marker and hex digits between quotes are read, -/
  marked : ∀ raw a, sp.ofLiteral raw = .ok a →
    ∃ digits : List Char, (∀ c ∈ digits, c ∈ Hex.digitSigns) ∧
      raw = Hex.quoteByte :: 0x30 :: 0x78 ::
        (digits.map (fun c => UInt8.ofNat c.toNat) ++ [Hex.quoteByte])
  /-- and they are a JSON text, of which the same value is read: from the text itself and from the
  JSON value that it is. -/
  json : ∀ raw a, sp.ofLiteral raw = .ok a →
    ∃ text, String.fromUTF8? (ByteArray.mk raw.toArray) = some text ∧
      (Document.ofChars text.toList).read sp.codec.read = .ok a ∧
      ∃ v, Value.ofText text = .ok v ∧ sp.codec.decode v = .ok a

/-- There is nothing to escape among digits behind the marker. -/
theorem isPlain_marked {digits : List Char} (h : digits.all Hex.isDigit = true) :
    ('0' :: 'x' :: digits).all isPlain = true := by
  have hsigns : ∀ c ∈ Hex.digitSigns, isPlain c = true := List.all_eq_true.mp (by decide)
  have hdigits : digits.all isPlain = true := by
    rw [List.all_eq_true]
    intro c hc
    exact hsigns c ((Hex.all_isDigit_iff digits).mp h c hc)
  rw [List.all_cons, List.all_cons, hdigits]
  rfl

namespace Uniform

variable {sp : Spelling α} {readDigits : List Char → Except HexError α}

/-- What is read from a raw literal is read from a text with the marker, of which it is the
literal. -/
theorem exists_text_of_ofLiteral (h : sp.Uniform)
    (hliteral : ∀ raw, sp.ofLiteral raw = Hex.stripLiteral raw >>= readDigits)
    (hdigits : ∀ digits a, readDigits digits = .ok a → digits.all Hex.isDigit = true)
    {raw : List UInt8} {a : α} (hraw : sp.ofLiteral raw = .ok a) :
    ∃ digits, digits.all Hex.isDigit = true ∧
      raw = Hex.literal (String.ofList ('0' :: 'x' :: digits)) ∧
      sp.parse (String.ofList ('0' :: 'x' :: digits)) = .ok a := by
  have hvalue := hraw
  rw [hliteral, bind_eq_ok_iff] at hvalue
  obtain ⟨digits, hstrip, hvalue⟩ := hvalue
  rw [Hex.stripLiteral_eq_ok_iff] at hstrip
  refine ⟨digits, hdigits digits a hvalue, hstrip, ?_⟩
  -- the text is read as its literal is, which is `raw`
  rw [← h.ofLiteral_literal _ (Hex.ofList_marked_ne_empty digits), ← hstrip, hraw]

/-- **It is enough that literals are read by their digits**, and that all of these are digits. -/
theorem readsLiterals (h : sp.Uniform)
    (hliteral : ∀ raw, sp.ofLiteral raw = Hex.stripLiteral raw >>= readDigits)
    (hdigits : ∀ digits a, readDigits digits = .ok a → digits.all Hex.isDigit = true) :
    sp.ReadsLiterals := by
  refine ⟨h.ofLiteral_literal, ?_, ?_⟩
  · intro raw a hraw
    obtain ⟨digits, hall, htext, _⟩ := h.exists_text_of_ofLiteral hliteral hdigits hraw
    refine ⟨digits, (Hex.all_isDigit_iff digits).mp hall, ?_⟩
    rw [htext, Hex.literal_marked hall]
  · intro raw a hraw
    obtain ⟨digits, hall, htext, hparse⟩ := h.exists_text_of_ofLiteral hliteral hdigits hraw
    obtain ⟨expected, say, hcodec⟩ := h.codec_eq
    have hplain := isPlain_marked hall
    refine ⟨_, by rw [htext, Hex.fromUTF8?_literal], ?_, _, Value.ofText_plain hplain, ?_⟩
    · rw [String.toList_ofList, hcodec, Codec.read_plain hplain, hparse]
      rfl
    · rw [hcodec]
      show ((sp.parse _).mapError say).mapError Mismatch.refused = .ok a
      rw [hparse]
      rfl

end Uniform

end Spelling

/-! ## §3. The eight types. -/

theorem Word.readsLiterals (k : WordKind) : (spelling : Spelling (Word k)).ReadsLiterals := by
  refine numeric.uniform.readsLiterals (fun raw => rfl) ?_
  intro digits w h
  obtain ⟨block, hblock, _⟩ := (bind_eq_ok_iff _ _ _).mp h
  exact ((Hex.decodeFixed_eq_ok_iff 32 digits block).mp hblock).1

theorem Quantity.readsLiterals (k : QuantityKind) :
    (spelling : Spelling (Quantity k)).ReadsLiterals := by
  refine numeric.uniform.readsLiterals (fun raw => rfl) ?_
  intro digits q h
  obtain ⟨n, hn, _⟩ := (bind_eq_ok_iff _ _ _).mp h
  exact ((Hex.decodeU64_eq_ok_iff digits n).mp hn).2.1

theorem Data.readsLiterals : spelling.ReadsLiterals := by
  refine uniform.readsLiterals (fun raw => rfl) ?_
  intro digits d h
  obtain ⟨bytes, hbytes, _⟩ := (bind_eq_ok_iff _ _ _).mp h
  rcases Hex.decodeBytes_cases digits with ⟨_, hno⟩ | ⟨hall, _⟩
  · rw [hno] at hbytes
    contradiction
  · exact hall

/-- **Hashes, addresses, field elements, public keys and roots, amounts and numbers, and data: the
raw literal of a text that is not empty gives what the text gives, be it a value or an error; and
what gives a value is the marker with hex digits between two quotes, from which the value is read
as from a JSON text too.** -/
theorem raw_literals_agree :
    (∀ k : WordKind, (Word.spelling : Spelling (Word k)).ReadsLiterals) ∧
      (∀ k : QuantityKind, (Quantity.spelling : Spelling (Quantity k)).ReadsLiterals) ∧
      Data.spelling.ReadsLiterals :=
  ⟨Word.readsLiterals, Quantity.readsLiterals, Data.readsLiterals⟩

/-- A text with a quote in it is refused in both ways, and a literal with digits of both cases is
read in all three. -/
theorem raw_literals_agree_mixedCase :
    Quantity.ofLiteral (k := .amount) (Hex.literal "0x1\"") = .error .notHex ∧
    Quantity.parse (k := .amount) "0x1\"" = .error .notHex ∧
    Quantity.ofLiteral [0x22, 0x30, 0x78, 0x61, 0x42, 0x22] = .ok (⟨0xab⟩ : Amount) ∧
    ∃ text, String.fromUTF8? (ByteArray.mk #[0x22, 0x30, 0x78, 0x61, 0x42, 0x22]) = some text ∧
      (Document.ofChars text.toList).read Quantity.codec.read = .ok (⟨0xab⟩ : Amount) := by
  have hliterals := raw_literals_agree.2.1 .amount
  have herror : Quantity.parse (k := .amount) "0x1\"" = .error .notHex := by rfl
  have hvalue : Quantity.ofLiteral [0x22, 0x30, 0x78, 0x61, 0x42, 0x22] = .ok (⟨0xab⟩ : Amount) := by
    rfl
  obtain ⟨text, htext, hread, _⟩ := hliterals.json _ _ hvalue
  refine ⟨?_, herror, hvalue, text, htext, hread⟩
  exact (hliterals.ofLiteral_literal "0x1\"" (by decide)).trans herror

/-- Without any text between the quotes it is the marker that is missing, and not the text. -/
example : Data.parse "" = .error .missing ∧ Data.ofLiteral (Hex.literal "") = .error .unmarked :=
  ⟨rfl, rfl⟩

end NodeClient
