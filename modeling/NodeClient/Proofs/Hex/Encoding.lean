/-
  NodeClient.Proofs.Hex.Encoding
  ──────────────────────────────
  **The canonical form is the shortest numeral of the number that the bytes denote.**

  Of all digit texts that denote a number one is the shortest, and it is the library's numeral
  `Nat.toDigits` in base 16: it has no zero in front, so that one digit less would not reach the
  number.  The encoder writes this numeral whatever zero bytes the bytes start with, so that its
  text tells the number and nothing else.

  Main result: `canonical_encoding`.
-/
import NodeClient.Proofs.Hex.Numeral

namespace NodeClient.Hex

/-! ## §1. Shortest numerals. -/

/-- Lower-case digits that denote a number, of which no digits that denote it are fewer. -/
structure MinimalNumeral (n : Nat) (digits : List Char) : Prop where
  nonempty : digits ≠ []
  lower : ∀ c ∈ digits, isLowerDigit c = true
  value_eq : value digits = n
  length_le : ∀ other, other ≠ [] → (∀ c ∈ other, c ∈ digitSigns) → value other = n →
    digits.length ≤ other.length

/-- Digits number below the power of 16 that their places make. -/
theorem value_lt_pow (digits : List Char) : value digits < 16 ^ digits.length := by
  have hlt := numeral_lt (map_digitValue_lt digits)
  rwa [List.length_map, ← value_eq_numeral] at hlt

/-- Behind the marker of a canonical text stand the digits of values without a zero in front. -/
theorem digits_of_isCanonical {digits : List Char} (h : isCanonical ('0' :: 'x' :: digits) = true) :
    ∃ ns : List Nat, (∀ n ∈ ns, n < 16) ∧ (ns = [0] ∨ (ns ≠ [] ∧ ns.head? ≠ some 0)) ∧
      digits = ns.map digitChar := by
  obtain ⟨ns, hns, hhead, heq⟩ := (isCanonical_iff _).mp h
  injection heq with _ heq
  injection heq with _ heq
  exact ⟨ns, hns, hhead, heq⟩

/-- A zero in front is a digit too many. -/
theorem MinimalNumeral.isCanonical {n : Nat} {digits : List Char} (h : MinimalNumeral n digits) :
    isCanonical ('0' :: 'x' :: digits) = true := by
  obtain ⟨first, rest, rfl⟩ := List.exists_cons_of_ne_nil h.nonempty
  by_cases hzero : first = '0'
  · subst hzero
    cases rest with
    | nil => rfl
    | cons c rest =>
        have hrest : ∀ d ∈ c :: rest, d ∈ digitSigns := fun d hd =>
          (isDigit_iff_mem d).mp (isDigit_of_isLowerDigit (h.lower d (List.mem_cons_of_mem _ hd)))
        have hshorter := h.length_le (c :: rest) (List.cons_ne_nil _ _) hrest h.value_eq
        rw [List.length_cons] at hshorter
        omega
  · rw [isCanonical_cons hzero, List.all_eq_true]
    exact h.lower

/-- **Without a zero in front no digit can be spared.** -/
theorem minimalNumeral_of_isCanonical {digits : List Char}
    (h : isCanonical ('0' :: 'x' :: digits) = true) : MinimalNumeral (value digits) digits := by
  obtain ⟨ns, hns, hhead, rfl⟩ := digits_of_isCanonical h
  have hdigits : (ns.map digitChar).all isDigit = true := all_isDigit_map_digitChar hns
  refine ⟨?_, ?_, rfl, ?_⟩
  · rcases hhead with rfl | ⟨hsome, _⟩
    · exact List.cons_ne_nil _ _
    · exact fun e => hsome (List.map_eq_nil_iff.mp e)
  · intro c hc
    obtain ⟨n, hn, rfl⟩ := List.mem_map.mp hc
    exact isLowerDigit_digitChar n (hns n hn)
  · intro other hother _ hvalue
    rcases hhead with rfl | ⟨hsome, hhead⟩
    · exact List.length_pos_iff.mpr hother
    · have hfirst : (ns.map digitChar).head? ≠ some '0' := by
        obtain ⟨n, rest, rfl⟩ := List.exists_cons_of_ne_nil hsome
        intro hzero
        exact hhead (congrArg some ((digitChar_eq_zero_iff n (hns n List.mem_cons_self)).mp
          (Option.some.inj hzero)))
      rw [length_le_iff_value_lt hdigits hfirst, ← hvalue]
      exact value_lt_pow other

/-! ## §2. The library's numeral. -/

theorem natDigitChar_eq : ∀ n < 16, Nat.digitChar n = digitChar n := by decide

/-- Behind a number other than zero each digit makes one more place. -/
theorem toDigits_append_map_digitChar {ns : List Nat} (h : ∀ n ∈ ns, n < 16) {before : Nat}
    (hbefore : 0 < before) : Nat.toDigits 16 before ++ ns.map digitChar
      = Nat.toDigits 16 (ns.foldl (fun m d => 16 * m + d) before) := by
  induction ns generalizing before with
  | nil => exact List.append_nil _
  | cons n ns ih =>
      obtain ⟨hn, hns⟩ := List.forall_mem_cons.mp h
      have hplace := Nat.toDigits_append_toDigits (b := 16) (by decide) hbefore hn
      rw [Nat.toDigits_of_lt_base hn, natDigitChar_eq n hn] at hplace
      rw [List.map_cons, List.append_cons, hplace, List.foldl_cons]
      exact ih hns (by omega)

/-- **The shortest numeral is the library's.** -/
theorem MinimalNumeral.eq_toDigits {n : Nat} {digits : List Char} (h : MinimalNumeral n digits) :
    digits = Nat.toDigits 16 n := by
  obtain ⟨ns, hns, hhead, hdigits⟩ := digits_of_isCanonical h.isCanonical
  rw [← h.value_eq, hdigits, value_map_digitChar hns]
  rcases hhead with rfl | ⟨hsome, hhead⟩
  · rfl
  · obtain ⟨d, rest, rfl⟩ := List.exists_cons_of_ne_nil hsome
    obtain ⟨hd, hrest⟩ := List.forall_mem_cons.mp hns
    have hpos : 0 < d := Nat.pos_of_ne_zero fun e => hhead (congrArg some e)
    have happend := toDigits_append_map_digitChar hrest hpos
    rw [Nat.toDigits_of_lt_base hd, natDigitChar_eq d hd] at happend
    show [digitChar d] ++ rest.map digitChar = Nat.toDigits 16 (rest.foldl _ (16 * 0 + d))
    rw [happend, Nat.mul_zero, Nat.zero_add]

/-! ## §3. The encoder. -/

/-- **The encoder writes the shortest numeral behind the marker.** -/
theorem canonical_eq_iff (bytes : List UInt8) (digits : List Char) :
    canonical bytes = '0' :: 'x' :: digits ↔ MinimalNumeral (bigEndianValue bytes) digits := by
  have hcanonical := isCanonical_canonical bytes
  have hvalue := value_canonical bytes
  constructor
  · intro h
    rw [h] at hcanonical hvalue
    rw [← hvalue]
    exact minimalNumeral_of_isCanonical hcanonical
  · intro h
    exact isCanonical_injective hcanonical h.isCanonical (hvalue.trans h.value_eq.symm)

theorem canonical_eq_toDigits (bytes : List UInt8) :
    canonical bytes = '0' :: 'x' :: Nat.toDigits 16 (bigEndianValue bytes) := by
  have hminimal := (canonical_eq_iff bytes _).mp (canonical_eq bytes)
  rw [canonical_eq, hminimal.eq_toDigits]

/-- Each number has one shortest numeral. -/
theorem minimalNumeral_iff (n : Nat) (digits : List Char) :
    MinimalNumeral n digits ↔ digits = Nat.toDigits 16 n := by
  refine ⟨fun h => h.eq_toDigits, ?_⟩
  rintro rfl
  -- there are bytes enough for every number
  have hvalue : bigEndianValue (bigEndian n n) = n := by
    rw [bigEndianValue_bigEndian]
    exact Nat.mod_eq_of_lt (Nat.lt_pow_self (by decide))
  have hminimal := (canonical_eq_iff (bigEndian n n) _).mp (canonical_eq_toDigits _)
  rwa [hvalue] at hminimal

theorem canonical_eq_canonical_iff (as bs : List UInt8) :
    canonical as = canonical bs ↔ bigEndianValue as = bigEndianValue bs := by
  constructor
  · intro h
    rw [← value_canonical as, h, value_canonical]
  · intro h
    rw [canonical_eq_toDigits, canonical_eq_toDigits, h]

/-- **Bytes are written as the marker and the shortest lower-case numeral of the number that they
denote, which is `0x0` for zero bytes only and for none, so that their text tells the number and
nothing else; and numbers of 64 bits are written as their numerals.** -/
theorem canonical_encoding :
    (∀ bytes, canonical bytes = '0' :: 'x' :: Nat.toDigits 16 (bigEndianValue bytes)) ∧
    (∀ n digits, MinimalNumeral n digits ↔ digits = Nat.toDigits 16 n) ∧
    (∀ bytes, canonical bytes = ['0', 'x', '0'] ↔ bigEndianValue bytes = 0) ∧
    (∀ as bs, canonical as = canonical bs ↔ bigEndianValue as = bigEndianValue bs) ∧
    (∀ n : UInt64, canonicalU64 n = '0' :: 'x' :: Nat.toDigits 16 n.toNat) := by
  refine ⟨canonical_eq_toDigits, minimalNumeral_iff, ?_, canonical_eq_canonical_iff, ?_⟩
  · exact fun bytes => canonical_eq_canonical_iff bytes []
  · intro n
    rw [canonicalU64, canonical_eq_toDigits, bigEndianValue_u64]

end NodeClient.Hex
