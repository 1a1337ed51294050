/-
  NodeClient.Proofs.Json.PlainText
  ────────────────────────────────
  Strings in JSON texts in which nothing has to be escaped.

  Such a string stands between its quotes as it is, and is scanned as it stands.  So a codec of
  texts reads from the compact text of what it has written what its own reader reads
  (`Codec.read_ofText`).
-/
import NodeClient.Codec.Basic
import NodeClient.Json.Reader
import NodeClient.Json.Text

namespace NodeClient

open Json

namespace Json

/-! ## §1. Plain characters. -/

/-- Holds for the characters that stand for themselves in a JSON string. -/
def isPlain (c : Char) : Bool := c != '"' && c != '\\' && 0x20 ≤ c.toNat

theorem isPlain_iff (c : Char) : isPlain c = true ↔ c ≠ '"' ∧ c ≠ '\\' ∧ 0x20 ≤ c.toNat := by
  unfold isPlain
  rw [Bool.and_eq_true, Bool.and_eq_true, bne_iff_ne, bne_iff_ne, decide_eq_true_eq, and_assoc]

theorem escapeChar_of_plain {c : Char} (h : isPlain c = true) : escapeChar c = [c] := by
  obtain ⟨hquote, hslash, hlow⟩ := (isPlain_iff c).mp h
  have hne : ∀ d : Char, d.toNat < 0x20 → c ≠ d := by
    rintro d hd rfl
    omega
  unfold escapeChar
  split
  · contradiction
  · contradiction
  · exact absurd rfl (hne '\n' (by decide))
  · exact absurd rfl (hne '\r' (by decide))
  · exact absurd rfl (hne '\t' (by decide))
  · rw [if_neg (by omega), if_neg (by omega), if_neg (by omega)]

theorem flatMap_escapeChar_of_plain {s : List Char} (h : s.all isPlain = true) :
    s.flatMap escapeChar = s := by
  induction s with
  | nil => rfl
  | cons c s ih =>
      obtain ⟨hc, hs⟩ := Bool.and_eq_true_iff.mp h
      rw [List.flatMap_cons, escapeChar_of_plain hc, ih hs]
      rfl

/-! ## §2. Scanning. -/

theorem scanString_of_plain {c : Char} (h : isPlain c = true) (s : StringState)
    (rest : List Char) : scanString s (c :: rest) = scanString (s.push c) rest := by
  obtain ⟨hquote, hslash, hlow⟩ := (isPlain_iff c).mp h
  rw [scanString, if_neg (by omega)]
  · exact hquote
  · exact hslash

/-- A plain text is scanned up to the closing quote. -/
theorem scanString_plain {text : List Char} (h : text.all isPlain = true) (before rest : List Char) :
    scanString { text := before } (text ++ '"' :: rest)
      = .whole (some (String.ofList (before.reverse ++ text))) rest := by
  induction text generalizing before with
  | nil =>
      rw [List.append_nil]
      rfl
  | cons c text ih =>
      obtain ⟨hc, htext⟩ := Bool.and_eq_true_iff.mp h
      rw [List.cons_append, scanString_of_plain hc]
      show scanString { text := c :: before } _ = _
      rw [ih htext, List.reverse_cons, List.append_assoc]
      rfl

/-- A quote opens a string. -/
theorem scanValue_of_quote {fuel : Nat} {cs rest : List Char} {text : String}
    (h : scanString {} cs = .whole (some text) rest) :
    scanValue (fuel + 1) ('"' :: cs) = (.string text, some rest) := by
  have hspace : skipSpace ('"' :: cs) = '"' :: cs := rfl
  rw [scanValue, hspace]
  simp only [h]

/-- **A plain text between quotes is the JSON text of a string.** -/
theorem Document.ofChars_plain {text : List Char} (h : text.all isPlain = true) :
    Document.ofChars ('"' :: (text ++ ['"'])) = ⟨.string (String.ofList text), false⟩ := by
  have hscan : scanString {} (text ++ ['"']) = .whole (some (String.ofList text)) [] :=
    scanString_plain h [] []
  unfold Document.ofChars
  rw [scanValue_of_quote hscan]
  rfl

/-- Its value is the text. -/
theorem Value.ofText_plain {text : List Char} (h : text.all isPlain = true) :
    Value.ofText (String.ofList ('"' :: (text ++ ['"']))) = .ok (.string (String.ofList text)) := by
  rw [Value.ofText, String.toList_ofList, Document.ofChars_plain h]
  rfl

end Json

namespace Codec

variable {α : Type} {expected : String} {parse : String → Except String α} {render : α → String}

/-- A plain text between quotes is read as the text is. -/
theorem read_plain {text : List Char} (h : text.all isPlain = true) :
    (Document.ofChars ('"' :: (text ++ ['"']))).read (ofText expected parse render).read
      = (parse (String.ofList text)).mapError fun _ => .mismatched := by
  rw [Document.ofChars_plain h]
  unfold Document.read
  show ((parse (String.ofList text)).mapError fun _ => Fault.mismatched).bind _ = _
  cases parse (String.ofList text) <;> rfl

/-- A text in which nothing has to be escaped is read from JSON as it is read by itself. -/
theorem read_ofText {a : α} (h : (render a).toList.all isPlain = true) :
    (Document.ofChars ((ofText expected parse render).encode a).chars).read
        (ofText expected parse render).read
      = (parse (render a)).mapError fun _ => .mismatched := by
  have hchars : ((ofText expected parse render).encode a).chars
      = '"' :: ((render a).toList ++ ['"']) := by
    show '"' :: (render a).toList.flatMap escapeChar ++ ['"'] = _
    rw [flatMap_escapeChar_of_plain h]
    rfl
  rw [hchars, read_plain h, String.ofList_toList]

end Codec

end NodeClient
