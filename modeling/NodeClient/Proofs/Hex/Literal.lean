/-
  NodeClient.Proofs.Hex.Literal
  ─────────────────────────────
  Raw string literals.

  Between the quotes of a raw literal stand the bytes of a text, and what is read from the literal
  of a text is what is read from the text itself (`stripLiteral_literal`).
-/
import NodeClient.Hex.Decode

namespace NodeClient.Hex

/-- The raw string literal of a text: its bytes between two quotes.  Nothing is escaped. -/
def literal (s : String) : List UInt8 := quoteByte :: (s.toUTF8.data.toList ++ [quoteByte])

/-! ## §1. The bytes of a text. -/

/-- A text is the characters one after the other. -/
theorem toUTF8_eq (s : String) :
    s.toUTF8.data.toList = s.toList.flatMap String.utf8EncodeChar := by
  have hchars : s.toByteArray = (String.ofList s.toList).toByteArray := by rw [String.ofList_toList]
  show s.toByteArray.data.toList = _
  rw [hchars, String.toByteArray_ofList, List.utf8Encode]
  simp

theorem fromUTF8?_toUTF8 (s : String) :
    String.fromUTF8? (ByteArray.mk s.toUTF8.data.toList.toArray) = some s := by
  rw [Array.toArray_toList]
  exact dif_pos s.isValidUTF8

/-- A byte below 128 stands for its own character, wherever a character starts with it. -/
theorem toNat_of_utf8EncodeChar {c : Char} {b : UInt8} {more : List UInt8} (hb : b.toNat < 128)
    (h : String.utf8EncodeChar c = b :: more) : c.toNat = b.toNat := by
  unfold String.utf8EncodeChar at h
  dsimp only at h
  -- the first of several bytes is at least 192
  have hlong : ∀ n : Nat, UInt8.ofNat n = b → 192 ≤ n → n < 256 → c.toNat = b.toNat := by
    rintro n rfl hlow hhigh
    rw [UInt8.toNat_ofNat'] at hb
    omega
  split at h
  · injection h with hfirst
    rw [← hfirst, UInt8.toNat_ofNat']
    show c.val.toNat = _
    omega
  · split at h
    · injection h with hfirst
      exact hlong _ hfirst (by omega) (by omega)
    · split at h
      · injection h with hfirst
        exact hlong _ hfirst (by omega) (by omega)
      · injection h with hfirst
        exact hlong _ hfirst (by omega) (by omega)

/-- A text whose bytes start with `0x` starts with these characters. -/
theorem marked_of_bytes {s : List Char} {rest : List UInt8}
    (h : s.flatMap String.utf8EncodeChar ++ [quoteByte] = 0x30 :: 0x78 :: rest) :
    ∃ digits, s = '0' :: 'x' :: digits := by
  have hchar : ∀ {c d : Char} {b : UInt8} {cs : List Char} {bytes : List UInt8}, b.toNat = d.toNat →
      b.toNat < 128 → (c :: cs).flatMap String.utf8EncodeChar ++ [quoteByte] = b :: bytes → c = d := by
    intro c d b cs bytes hd hb heq
    obtain ⟨first, more, hfirst⟩ := List.exists_cons_of_ne_nil (String.utf8EncodeChar_ne_nil (c := c))
    rw [List.flatMap_cons, hfirst] at heq
    injection heq with hfirst'
    rw [hfirst'] at hfirst
    exact Char.toNat_inj.mp ((toNat_of_utf8EncodeChar hb hfirst).trans hd)
  cases s with
  | nil => cases h
  | cons c s =>
      obtain rfl : c = '0' := hchar rfl (by decide) h
      injection h with _ h
      cases s with
      | nil => cases h
      | cons d s =>
          obtain rfl : d = 'x' := hchar rfl (by decide) h
          exact ⟨s, rfl⟩

/-! ## §2. What stands between the quotes. -/

theorem literalBody_marked (body : List UInt8) :
    literalBody (quoteByte :: 0x30 :: 0x78 :: (body ++ [quoteByte])) = .ok body := by
  show (if (body ++ [quoteByte]).getLast? = some quoteByte then _ else _) = _
  rw [List.getLast?_concat, if_pos rfl, List.dropLast_concat]

theorem literalBody_unmarked {bytes : List UInt8}
    (h : ∀ rest, bytes ≠ 0x30 :: 0x78 :: rest) :
    literalBody (quoteByte :: bytes) = .error .unmarked := by
  unfold literalBody
  split
  · next heq => cases heq
  · next heq =>
      injection heq with _ heq
      exact absurd heq (h _)
  · rfl

theorem stripMarker_unmarked {s : List Char} (hsome : s ≠ [])
    (h : ∀ digits, s ≠ '0' :: 'x' :: digits) : stripMarker s = .error .unmarked := by
  unfold stripMarker
  split
  · exact absurd rfl hsome
  · exact absurd rfl (h _)
  · rfl

/-- **The literal of a text is read as the text is.** -/
theorem stripLiteral_literal {s : String} (hsome : s ≠ "") :
    stripLiteral (literal s) = stripMarker s.toList := by
  by_cases hmarked : ∃ digits, s.toList = '0' :: 'x' :: digits
  · obtain ⟨digits, hdigits⟩ := hmarked
    have hbytes : literal s
        = quoteByte :: 0x30 :: 0x78 :: ((String.ofList digits).toUTF8.data.toList ++ [quoteByte]) := by
      rw [literal, toUTF8_eq, toUTF8_eq, hdigits, String.toList_ofList]
      rfl
    unfold stripLiteral
    rw [hbytes, literalBody_marked, hdigits]
    dsimp only [bind, Except.bind]
    rw [fromUTF8?_toUTF8]
    exact congrArg Except.ok (String.toList_ofList ..)
  · have hunmarked : ∀ digits, s.toList ≠ '0' :: 'x' :: digits := fun digits h => hmarked ⟨digits, h⟩
    have hempty : s.toList ≠ [] := fun h => hsome (String.toList_eq_nil_iff.mp h)
    unfold stripLiteral literal
    rw [literalBody_unmarked, stripMarker_unmarked hempty hunmarked]
    · rfl
    · intro rest h
      rw [toUTF8_eq] at h
      obtain ⟨digits, hdigits⟩ := marked_of_bytes h
      exact hunmarked digits hdigits

end NodeClient.Hex
