/-
  NodeClient.Proofs.Hex.Decoding
  ──────────────────────────────
  **What each digit text is read as, and why another one is refused.**

  A text is read in one of two ways: as a block of bytes, where every digit counts against the
  width, or as a number of 64 bits, where zeros in front do not.  `ReadsAsBlock` and `ReadsAsU64`
  say what comes of a text by its characters, their number and the number that they denote; the
  decoders do what these say and nothing else.  Where a text is short enough for both, the two ways
  agree: the block is the number, most significant byte first.

  Main results: `fixed_width_decoding`, `u64_decoding`.
-/
import NodeClient.Proofs.Hex.Value
import NodeClient.Scalar.Word

namespace NodeClient.Hex

/-! ## §1. Blocks of bytes. -/

/-- What comes of a text that is read as a block of `n` bytes. -/
inductive ReadsAsBlock (n : Nat) (digits : List Char) : Except HexError (Bytes n) → Prop where
  /-- A sign that is no digit is reported first, however long the text is. -/
  | notHex (h : ∃ c ∈ digits, c ∉ digitSigns) : ReadsAsBlock n digits (.error .notHex)
  /-- Two digits fill a byte and one digit alone does too; zeros in front count. -/
  | overlong (hdigits : ∀ c ∈ digits, c ∈ digitSigns) (h : n < (digits.length + 1) / 2) :
      ReadsAsBlock n digits (.error (.overlong n ((digits.length + 1) / 2)))
  /-- The block denotes the number of the digits, which are right-aligned therefore. -/
  | block (hdigits : ∀ c ∈ digits, c ∈ digitSigns) (hfits : (digits.length + 1) / 2 ≤ n)
      {found : Bytes n} (h : bigEndianValue found.val = value digits) :
      ReadsAsBlock n digits (.ok found)

theorem readsAsBlock_decodeFixed (n : Nat) (digits : List Char) :
    ReadsAsBlock n digits (decodeFixed n digits) := by
  unfold decodeFixed
  rcases decodeBytes_cases digits with ⟨hno, hbytes⟩ | ⟨hall, bytes, hbytes, hlength, hvalue⟩
  · rw [hbytes]
    exact .notHex ((all_isDigit_eq_false_iff digits).mp hno)
  · rw [hbytes]
    have hdigits := (all_isDigit_iff digits).mp hall
    show ReadsAsBlock n digits (alignRight n bytes)
    by_cases hfits : bytes.length ≤ n
    · obtain ⟨found, hfound, hkept⟩ := alignRight_of_le hfits
      rw [hfound]
      exact .block hdigits (hlength ▸ hfits) (hkept.trans hvalue)
    · rw [alignRight_of_lt (Nat.not_le.mp hfits), hlength]
      exact .overlong hdigits (hlength ▸ Nat.not_le.mp hfits)

/-- Characters, their number and the number that they denote leave no choice. -/
theorem ReadsAsBlock.decodeFixed_eq {n : Nat} {digits : List Char} {r : Except HexError (Bytes n)}
    (h : ReadsAsBlock n digits r) : decodeFixed n digits = r := by
  cases h with
  | notHex hbad =>
      unfold decodeFixed
      rw [decodeBytes_of_not_isDigit ((all_isDigit_eq_false_iff digits).mpr hbad)]
      rfl
  | overlong hdigits hlong =>
      obtain ⟨bytes, hbytes, hlength, _⟩ :=
        decodeBytes_of_isDigit ((all_isDigit_iff digits).mpr hdigits)
      unfold decodeFixed
      rw [hbytes, ← hlength]
      exact alignRight_of_lt (hlength ▸ hlong)
  | block hdigits hfits hvalue =>
      rw [decodeFixed_eq_ok_iff]
      exact ⟨(all_isDigit_iff digits).mpr hdigits, by omega, hvalue⟩

/-- **Digits are read as a block of bytes by their characters, their number and the number that
they denote; and words take the bytes that are read of digits as they would take the digits.** -/
theorem fixed_width_decoding :
    (∀ (n : Nat) (digits : List Char) (r : Except HexError (Bytes n)),
      decodeFixed n digits = r ↔ ReadsAsBlock n digits r) ∧
    (∀ (k : WordKind) (digits : List Char),
      (do Word.ofBytes (← decodeBytes digits) : Except HexError (Word k))
        = (decodeFixed 32 digits).map Word.mk) := by
  constructor
  · intro n digits r
    constructor
    · rintro rfl
      exact readsAsBlock_decodeFixed n digits
    · exact ReadsAsBlock.decodeFixed_eq
  · intro k digits
    unfold decodeFixed
    cases decodeBytes digits <;> rfl

/-! ## §2. Numbers of 64 bits. -/

/-- What comes of a text that is read as a number of 64 bits. -/
inductive ReadsAsU64 (digits : List Char) : Except HexError UInt64 → Prop where
  /-- There must be a digit, and digits only. -/
  | notHex (h : digits = [] ∨ ∃ c ∈ digits, c ∉ digitSigns) : ReadsAsU64 digits (.error .notHex)
  | overflow (hsome : digits ≠ []) (hdigits : ∀ c ∈ digits, c ∈ digitSigns)
      (h : 2 ^ 64 ≤ value digits) : ReadsAsU64 digits (.error .overflow)
  | number (hsome : digits ≠ []) (hdigits : ∀ c ∈ digits, c ∈ digitSigns) {n : UInt64}
      (h : n.toNat = value digits) : ReadsAsU64 digits (.ok n)

theorem readsAsU64_decodeU64 (digits : List Char) : ReadsAsU64 digits (decodeU64 digits) := by
  rcases decodeU64_cases digits with ⟨hbad, h⟩ | ⟨hsome, hall, hgreat, h⟩ | ⟨hsome, hall, hfits, h⟩
  · rw [h]
    rw [all_isDigit_eq_false_iff] at hbad
    exact .notHex hbad
  · rw [h]
    exact .overflow hsome ((all_isDigit_iff digits).mp hall) hgreat
  · rw [h]
    exact .number hsome ((all_isDigit_iff digits).mp hall) (UInt64.toNat_ofNat_of_lt' hfits)

theorem ReadsAsU64.decodeU64_eq {digits : List Char} {r : Except HexError UInt64}
    (h : ReadsAsU64 digits r) : decodeU64 digits = r := by
  cases h with
  | notHex hbad =>
      rw [← all_isDigit_eq_false_iff] at hbad
      unfold decodeU64
      exact if_pos (by simpa using hbad)
  | overflow hsome hdigits hgreat =>
      rw [decodeU64_of_isDigit ((all_isDigit_iff digits).mpr hdigits) hsome,
        if_neg (Nat.not_lt.mpr hgreat)]
  | number hsome hdigits hvalue =>
      rw [decodeU64_eq_ok_iff]
      exact ⟨hsome, (all_isDigit_iff digits).mpr hdigits, hvalue⟩

/-! ## §3. One text read in both ways. -/

/-- The eight bytes of a number, most significant first. -/
def blockOfU64 (n : UInt64) : Bytes 8 := ⟨bigEndian 8 n.toNat, bigEndian_length 8 n.toNat⟩

theorem bigEndianValue_blockOfU64 (n : UInt64) : bigEndianValue (blockOfU64 n).val = n.toNat :=
  bigEndianValue_u64 n

/-- From one to sixteen digits the number and the block are the same reading. -/
theorem decodeU64_eq_ok_iff_block {digits : List Char} (hsome : digits ≠ [])
    (hlength : digits.length ≤ 16) (n : UInt64) :
    decodeU64 digits = .ok n ↔ decodeFixed 8 digits = .ok (blockOfU64 n) := by
  rw [decodeU64_eq_ok_iff, decodeFixed_eq_ok_iff, bigEndianValue_blockOfU64]
  constructor
  · rintro ⟨_, hall, hvalue⟩
    exact ⟨hall, hlength, hvalue⟩
  · rintro ⟨hall, _, hvalue⟩
    exact ⟨hsome, hall, hvalue⟩

/-- Sixteen digits fit both ways, so that only other signs are refused. -/
theorem refused_iff_of_short {digits : List Char} (hsome : digits ≠ [])
    (hlength : digits.length ≤ 16) :
    ((∃ e, decodeU64 digits = .error e) ↔ digits.all isDigit = false) ∧
      ((∃ e, decodeFixed 8 digits = .error e) ↔ digits.all isDigit = false) := by
  cases hall : digits.all isDigit with
  | false =>
      have hbad := (all_isDigit_eq_false_iff digits).mp hall
      exact ⟨iff_of_true ⟨_, (ReadsAsU64.notHex (.inr hbad)).decodeU64_eq⟩ rfl,
        iff_of_true ⟨_, (ReadsAsBlock.notHex hbad).decodeFixed_eq⟩ rfl⟩
  | true =>
      have hfits : value digits < 2 ^ 64 := by
        rw [← length_dropWhile_zero_le_iff hall]
        exact Nat.le_trans (List.dropWhile_suffix _).length_le hlength
      have hread : decodeU64 digits = .ok (UInt64.ofNat (value digits)) := by
        rw [decodeU64_of_isDigit hall hsome, if_pos hfits]
      have hblock := (decodeU64_eq_ok_iff_block hsome hlength _).mp hread
      rw [hread, hblock]
      exact ⟨iff_of_false (fun ⟨_, h⟩ => nomatch h) (by decide),
        iff_of_false (fun ⟨_, h⟩ => nomatch h) (by decide)⟩

/-- **Digits are read as a number of 64 bits up to the last number that there is, with any zeros in
front; the last step refuses nothing that gets to it; and what is short enough to fit into eight
bytes is read as the bytes of that number.** -/
theorem u64_decoding (digits : List Char) :
    (∀ r, decodeU64 digits = r ↔ ReadsAsU64 digits r) ∧
    ((∀ c ∈ digits, c ∈ digitSigns) → (u64? (digits.dropWhile (· == '0')) = none ↔
      digits.dropWhile (· == '0') = [] ∨ 16 < (digits.dropWhile (· == '0')).length)) ∧
    (digits ≠ [] → digits.length ≤ 16 →
      (∀ n, decodeU64 digits = .ok n ↔ decodeFixed 8 digits = .ok (blockOfU64 n)) ∧
      ((∃ e, decodeU64 digits = .error e) ↔ ∃ e, decodeFixed 8 digits = .error e)) := by
  refine ⟨fun r => ⟨?_, ReadsAsU64.decodeU64_eq⟩, ?_, ?_⟩
  · rintro rfl
    exact readsAsU64_decodeU64 digits
  · intro hdigits
    exact u64?_significant_eq_none_iff ((all_isDigit_iff digits).mpr hdigits)
  · intro hsome hlength
    obtain ⟨hnumber, hblock⟩ := refused_iff_of_short hsome hlength
    exact ⟨decodeU64_eq_ok_iff_block hsome hlength, hnumber.trans hblock.symm⟩

/-- The greatest number of 64 bits fills sixteen digits and eight bytes. -/
theorem u64_decoding_greatest :
    let digits := List.replicate 16 'f'
    (∀ c ∈ digits, c ∈ digitSigns) ∧ digits ≠ [] ∧ digits.length ≤ 16 ∧
      decodeU64 digits = .ok 0xFFFFFFFFFFFFFFFF ∧
      u64? (digits.dropWhile (· == '0')) ≠ none ∧
      decodeFixed 8 digits = .ok (blockOfU64 0xFFFFFFFFFFFFFFFF) := by
  intro digits
  have hdigits : ∀ c ∈ digits, c ∈ digitSigns := by
    intro c hc
    rw [List.eq_of_mem_replicate hc]
    decide
  have hsome : digits ≠ [] := by decide
  have hlength : digits.length ≤ 16 := by decide
  obtain ⟨hreads, hlast, hshort⟩ := u64_decoding digits
  have hnumber : decodeU64 digits = .ok 0xFFFFFFFFFFFFFFFF :=
    (hreads _).mpr (.number hsome hdigits (by decide))
  have hread : u64? (digits.dropWhile (· == '0')) ≠ none := by
    rw [Ne, hlast hdigits]
    decide
  exact ⟨hdigits, hsome, hlength, hnumber, hread, ((hshort hsome hlength).1 _).mp hnumber⟩

end NodeClient.Hex
