/-
  NodeClient.Proofs.Hex.Pairs
  ───────────────────────────
  Digits counted and taken two by two as bytes of the text.

  A digit is one byte of the text, and no byte of any other character is that of a digit.  So the
  digit values found among the bytes are those found among the characters, and reading bytes is
  pairing up the digit values of the text, with a zero in front of an odd number of them
  (`decodeBytes_eq`).
-/
import NodeClient.Proofs.Hex.Literal

namespace NodeClient.Hex

/-! ## §1. The bytes of digits. -/

/-- The three ranges of digits, by the numbers of their characters. -/
theorem digit?_eq_some_iff (c : Char) (n : Nat) :
    digit? c = some n ↔
      (48 ≤ c.toNat ∧ c.toNat ≤ 57 ∧ n = c.toNat - 48) ∨
      (97 ≤ c.toNat ∧ c.toNat ≤ 102 ∧ n = c.toNat - 87) ∨
      (65 ≤ c.toNat ∧ c.toNat ≤ 70 ∧ n = c.toNat - 55) := by
  have hrange : ∀ low high : Char,
      (low ≤ c ∧ c ≤ high) ↔ (low.toNat ≤ c.toNat ∧ c.toNat ≤ high.toNat) :=
    fun _ _ => Iff.rfl
  unfold digit?
  simp only [hrange, Char.reduceToNat]
  split
  · rw [Option.some.injEq]
    omega
  · split
    · rw [Option.some.injEq]
      omega
    · split
      · rw [Option.some.injEq]
        omega
      · refine iff_of_false (Option.some_ne_none n).symm ?_
        omega

theorem digit?_lt {c : Char} {n : Nat} (h : digit? c = some n) : n < 16 := by
  have hranges := (digit?_eq_some_iff c n).mp h
  omega

theorem toNat_lt_of_digit? {c : Char} {n : Nat} (h : digit? c = some n) : c.toNat < 128 := by
  have hranges := (digit?_eq_some_iff c n).mp h
  omega

/-- Every byte is the number of a character. -/
theorem toNat_ofNat_byte (b : UInt8) : (Char.ofNat b.toNat).toNat = b.toNat := by
  have hvalid : b.toNat.isValidChar := .inl (Nat.lt_trans b.toNat_lt (by decide))
  rw [Char.ofNat, dif_pos hvalid]
  rfl

theorem utf8EncodeChar_of_ascii {c : Char} (h : c.toNat < 128) :
    String.utf8EncodeChar c = [UInt8.ofNat c.toNat] := by
  unfold String.utf8EncodeChar
  exact if_pos (Nat.le_of_lt_succ h)

theorem nibble?_of_ascii {c : Char} (h : c.toNat < 128) :
    nibble? (UInt8.ofNat c.toNat) = digit? c := by
  rw [nibble?, UInt8.toNat_ofNat_of_lt' (Nat.lt_trans h (by decide)), Char.ofNat_toNat]

/-- The bytes of a character are one digit if it is one, and else the first of them is none. -/
theorem mapM_nibble?_utf8EncodeChar (c : Char) :
    (String.utf8EncodeChar c).mapM nibble? = (digit? c).map fun n => [n] := by
  cases hc : digit? c with
  | some n =>
      have hascii := toNat_lt_of_digit? hc
      rw [utf8EncodeChar_of_ascii hascii, List.mapM_cons, nibble?_of_ascii hascii, hc]
      rfl
  | none =>
      obtain ⟨first, more, hbytes⟩ :=
        List.exists_cons_of_ne_nil (String.utf8EncodeChar_ne_nil (c := c))
      have hfirst : nibble? first = none := by
        cases hn : nibble? first with
        | none => rfl
        | some n =>
            -- a first byte below 128 is the character itself
            have hlow : first.toNat < 128 := by
              rw [← toNat_ofNat_byte]
              exact toNat_lt_of_digit? hn
            rw [nibble?, ← toNat_of_utf8EncodeChar hlow hbytes, Char.ofNat_toNat, hc] at hn
            exact hn.symm
      rw [hbytes, List.mapM_cons, hfirst]
      rfl

/-- The digit values among the bytes of a text are those among its characters. -/
theorem mapM_nibble?_flatMap (digits : List Char) :
    (digits.flatMap String.utf8EncodeChar).mapM nibble? = digits.mapM digit? := by
  induction digits with
  | nil => rfl
  | cons c digits ih =>
      rw [List.flatMap_cons, List.mapM_append, List.mapM_cons, mapM_nibble?_utf8EncodeChar, ih]
      cases digit? c <;> rfl

/-! ## §2. Pairs. -/

/-- Digit values taken two by two; the list has an even length. -/
def pairUp : List Nat → List UInt8
  | high :: low :: rest => UInt8.ofNat (16 * high + low) :: pairUp rest
  | _ => []

/-- An even number of digit values: an odd one gets a zero in front. -/
def evenUp (digits : List Nat) : List Nat :=
  if digits.length % 2 = 1 then 0 :: digits else digits

/-- An even number of bytes is read if each of them is a digit. -/
theorem pairUp?_eq : ∀ {raw : List UInt8}, raw.length % 2 = 0 →
    pairUp? raw = (raw.mapM nibble?).map pairUp
  | [], _ => rfl
  | [_], h => nomatch h
  | high :: low :: rest, h => by
      have hrest : rest.length % 2 = 0 := by
        rw [List.length_cons, List.length_cons] at h
        omega
      rw [pairUp?, List.mapM_cons, List.mapM_cons, pairUp?_eq hrest]
      cases nibble? high <;> cases nibble? low <;> cases rest.mapM nibble? <;> rfl

theorem length_of_mapM_eq_some {α β : Type} {f : α → Option β} {as : List α} {bs : List β}
    (h : as.mapM f = some bs) : bs.length = as.length := by
  induction as generalizing bs with
  | nil => cases h; rfl
  | cons a as ih =>
      rw [List.mapM_cons] at h
      obtain ⟨b, _, h⟩ := Option.bind_eq_some_iff.mp h
      obtain ⟨rest, hrest, h⟩ := Option.bind_eq_some_iff.mp h
      cases h
      exact congrArg (· + 1) (ih hrest)

/-- A zero in front of an odd number of digits is a zero in front of their values. -/
theorem mapM_nibble?_even (raw : List UInt8) :
    (if raw.length % 2 = 1 then 0x30 :: raw else raw).mapM nibble?
      = (raw.mapM nibble?).map evenUp := by
  have hzero : (0x30 :: raw).mapM nibble? = (raw.mapM nibble?).map (0 :: ·) := by
    rw [List.mapM_cons]
    cases raw.mapM nibble? <;> rfl
  cases hvalues : raw.mapM nibble? with
  | none =>
      split
      · rw [hzero, hvalues]
        rfl
      · exact hvalues
  | some values =>
      show _ = some (evenUp values)
      rw [evenUp, length_of_mapM_eq_some hvalues]
      split
      · rw [hzero, hvalues]
        rfl
      · exact hvalues

/-- **Digits are read as bytes by pairing up their values.** -/
theorem decodeBytes_eq (digits : List Char) :
    decodeBytes digits = match digits.mapM digit? with
      | some values => .ok (pairUp (evenUp values))
      | none => .error .notHex := by
  unfold decodeBytes
  rw [← mapM_nibble?_flatMap]
  generalize digits.flatMap String.utf8EncodeChar = raw
  have heven : (if raw.length % 2 = 1 then 0x30 :: raw else raw).length % 2 = 0 := by
    split
    · rw [List.length_cons]
      omega
    · omega
  dsimp only
  rw [pairUp?_eq heven, mapM_nibble?_even]
  cases raw.mapM nibble? <;> rfl

end NodeClient.Hex
