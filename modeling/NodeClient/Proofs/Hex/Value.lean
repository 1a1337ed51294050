/-
  NodeClient.Proofs.Hex.Value
  ───────────────────────────
  The numbers that digits and bytes denote, and what the decoders make of them.

  Digits and bytes are both positional: the library's `Nat.ofDigits`, least significant place
  first, says that two lists of digits of one length, or two without a zero in front, denote one
  number only if they are the same list.  The decoders keep the number (`decodeFixed_eq_ok_iff`,
  `decodeU64_eq_ok_iff`), so a decoded value says everything about its digits except how many
  zeros stand in front and of which case the letters are.
-/
import Mathlib.Data.Nat.Digits.Defs
import NodeClient.Proofs.Hex.Canonical
import NodeClient.Proofs.Result

namespace NodeClient.Hex

/-! ## §1. Positional numbers. -/

theorem numeral_eq_ofDigits (ns : List Nat) : numeral ns = Nat.ofDigits 16 ns.reverse := by
  rw [Nat.ofDigits_eq_foldr, List.foldr_reverse]
  unfold numeral
  exact List.foldl_ext _ _ _ fun a n _ => Nat.add_comm _ _

theorem bigEndianValue_eq_ofDigits (bytes : List UInt8) :
    bigEndianValue bytes = Nat.ofDigits 256 (bytes.map UInt8.toNat).reverse := by
  rw [Nat.ofDigits_eq_foldr, List.foldr_reverse, List.foldl_map]
  unfold bigEndianValue
  exact List.foldl_ext _ _ _ fun a b _ => Nat.add_comm _ _

/-- One more digit in front. -/
theorem numeral_cons (n : Nat) (ns : List Nat) :
    numeral (n :: ns) = n * 16 ^ ns.length + numeral ns := by
  rw [numeral_eq_ofDigits, numeral_eq_ofDigits, List.reverse_cons, Nat.ofDigits_append,
    Nat.ofDigits_singleton, List.length_reverse]
  ring

/-- One more byte in front. -/
theorem bigEndianValue_cons (b : UInt8) (bytes : List UInt8) :
    bigEndianValue (b :: bytes) = b.toNat * 256 ^ bytes.length + bigEndianValue bytes := by
  rw [bigEndianValue_eq_ofDigits, bigEndianValue_eq_ofDigits, List.map_cons, List.reverse_cons,
    Nat.ofDigits_append, Nat.ofDigits_singleton, List.length_reverse, List.length_map]
  ring

/-- As many bytes hold numbers below the next power of 256. -/
theorem bigEndianValue_lt_pow (bytes : List UInt8) : bigEndianValue bytes < 256 ^ bytes.length := by
  rw [bigEndianValue_eq_ofDigits, ← List.length_map UInt8.toNat, ← List.length_reverse]
  refine Nat.ofDigits_lt_base_pow_length (by decide) ?_
  intro n hn
  obtain ⟨b, _, rfl⟩ := List.mem_map.mp (List.mem_reverse.mp hn)
  exact b.toNat_lt

theorem numeral_lt {ns : List Nat} (h : ∀ n ∈ ns, n < 16) : numeral ns < 16 ^ ns.length := by
  rw [numeral_eq_ofDigits, ← List.length_reverse]
  exact Nat.ofDigits_lt_base_pow_length (by decide) fun n hn => h n (List.mem_reverse.mp hn)

/-- A digit other than zero in front makes the number at least as great as its place. -/
theorem le_numeral_cons {n : Nat} (hn : n ≠ 0) (ns : List Nat) :
    16 ^ ns.length ≤ numeral (n :: ns) := by
  rw [numeral_cons]
  have hplace : 1 * 16 ^ ns.length ≤ n * 16 ^ ns.length :=
    Nat.mul_le_mul_right _ (Nat.one_le_iff_ne_zero.mpr hn)
  omega

/-- **Digits without a zero in front are told apart by their number.** -/
theorem numeral_injective {ms ns : List Nat} (hms : ∀ m ∈ ms, m < 16) (hns : ∀ n ∈ ns, n < 16)
    (hm : ms.head? ≠ some 0) (hn : ns.head? ≠ some 0) (h : numeral ms = numeral ns) : ms = ns := by
  have hlast : ∀ ds : List Nat, ds.head? ≠ some 0 →
      ∀ hne : ds.reverse ≠ [], ds.reverse.getLast hne ≠ 0 := by
    intro ds hhead hne hzero
    rw [List.getLast_reverse] at hzero
    exact hhead ((List.head?_eq_some_head _).trans (congrArg some hzero))
  rw [numeral_eq_ofDigits, numeral_eq_ofDigits] at h
  have hdigits := congrArg (Nat.digits 16) h
  rw [Nat.digits_ofDigits 16 (by decide) _ (fun l hl => hms l (List.mem_reverse.mp hl)) (hlast ms hm),
    Nat.digits_ofDigits 16 (by decide) _ (fun l hl => hns l (List.mem_reverse.mp hl)) (hlast ns hn)]
    at hdigits
  exact List.reverse_injective hdigits

/-- **As many bytes are told apart by their number.** -/
theorem bigEndianValue_injective {as bs : List UInt8} (hlength : as.length = bs.length)
    (h : bigEndianValue as = bigEndianValue bs) : as = bs := by
  have hbyte : ∀ bytes : List UInt8, ∀ n ∈ (bytes.map UInt8.toNat).reverse, n < 256 := by
    intro bytes n hn
    obtain ⟨b, _, rfl⟩ := List.mem_map.mp (List.mem_reverse.mp hn)
    exact b.toNat_lt
  rw [bigEndianValue_eq_ofDigits, bigEndianValue_eq_ofDigits] at h
  have hsame := Nat.ofDigits_inj_of_len_eq (by decide) (by simpa using hlength) (hbyte as)
    (hbyte bs) h
  exact List.map_injective_iff.mpr (fun a b => UInt8.toNat_inj.mp) (List.reverse_injective hsame)

/-! ## §2. Digit texts. -/

/-- The value of a digit; other characters have none. -/
def digitValue (c : Char) : Nat := (digit? c).getD 0

theorem value_eq_numeral (digits : List Char) : value digits = numeral (digits.map digitValue) := by
  unfold value numeral
  rw [List.foldl_map]
  rfl

theorem digit?_eq_some {c : Char} (h : isDigit c = true) : digit? c = some (digitValue c) := by
  obtain ⟨n, hn⟩ := Option.isSome_iff_exists.mp h
  rw [digitValue, hn]
  rfl

/-- The ASCII hex digits of both cases. -/
def digitSigns : List Char :=
  ['0', '1', '2', '3', '4', '5', '6', '7', '8', '9', 'a', 'b', 'c', 'd', 'e', 'f',
    'A', 'B', 'C', 'D', 'E', 'F']

theorem isDigit_iff_mem (c : Char) : isDigit c = true ↔ c ∈ digitSigns := by
  have hnumeral : ∀ n < 10, Char.ofNat (48 + n) ∈ digitSigns := by decide
  have hlower : ∀ n < 6, Char.ofNat (97 + n) ∈ digitSigns := by decide
  have hupper : ∀ n < 6, Char.ofNat (65 + n) ∈ digitSigns := by decide
  have hsigns : ∀ d ∈ digitSigns, isDigit d = true := List.all_eq_true.mp (by decide)
  have hcode : ∀ first n : Nat, c.toNat = first + n → Char.ofNat (first + n) = c := by
    intro first n h
    rw [← h, Char.ofNat_toNat]
  refine ⟨fun h => ?_, hsigns c⟩
  rcases (digit?_eq_some_iff c _).mp (digit?_eq_some h) with ⟨hlow, hhigh, _⟩ | ⟨hlow, hhigh, _⟩ |
    ⟨hlow, hhigh, _⟩
  · rw [← hcode 48 (c.toNat - 48) (by omega)]
    exact hnumeral _ (by omega)
  · rw [← hcode 97 (c.toNat - 97) (by omega)]
    exact hlower _ (by omega)
  · rw [← hcode 65 (c.toNat - 65) (by omega)]
    exact hupper _ (by omega)

theorem all_isDigit_iff (digits : List Char) :
    digits.all isDigit = true ↔ ∀ c ∈ digits, c ∈ digitSigns := by
  simp only [List.all_eq_true, isDigit_iff_mem]

theorem all_isDigit_eq_false_iff (digits : List Char) :
    digits.all isDigit = false ↔ ∃ c ∈ digits, c ∉ digitSigns := by
  rw [← Bool.not_eq_true, all_isDigit_iff]
  push Not
  rfl

theorem digitValue_lt (c : Char) : digitValue c < 16 := by
  unfold digitValue
  cases h : digit? c with
  | none => decide
  | some n => exact digit?_lt h

theorem map_digitValue_lt (digits : List Char) : ∀ n ∈ digits.map digitValue, n < 16 := by
  intro n hn
  obtain ⟨c, _, rfl⟩ := List.mem_map.mp hn
  exact digitValue_lt c

/-- Digits are read one by one, and a text with anything else has no digit values. -/
theorem mapM_digit?_eq_some_iff (digits : List Char) (ns : List Nat) :
    digits.mapM digit? = some ns ↔ digits.all isDigit = true ∧ ns = digits.map digitValue := by
  induction digits generalizing ns with
  | nil => simp [eq_comm]
  | cons c digits ih =>
      rw [List.mapM_cons, List.all_cons, Bool.and_eq_true, List.map_cons]
      cases hc : digit? c with
      | none =>
          have hno : isDigit c = false := by rw [isDigit, hc]; rfl
          simp [hno]
      | some n =>
          have hyes : isDigit c = true := by rw [isDigit, hc]; rfl
          have hvalue : digitValue c = n := by rw [digitValue, hc]; rfl
          cases hrest : digits.mapM digit? with
          | none =>
              have hnot : digits.all isDigit ≠ true := fun hall =>
                absurd ((ih _).mpr ⟨hall, rfl⟩) (by rw [hrest]; exact Option.some_ne_none _ ∘ Eq.symm)
              simp [hnot]
          | some ms =>
              obtain ⟨hall, rfl⟩ := (ih ms).mp hrest
              simp [hall, hyes, hvalue, eq_comm]

/-- The marker stands in front of the digits, and nothing else does. -/
theorem stripMarker_eq_ok_iff (s digits : List Char) :
    stripMarker s = .ok digits ↔ s = '0' :: 'x' :: digits := by
  unfold stripMarker
  split
  · exact iff_of_false (fun h => nomatch h) (fun h => nomatch h)
  · simp
  · next hno =>
      refine iff_of_false (fun h => nomatch h) ?_
      rintro rfl
      exact hno _ rfl

/-! ## §3. Digits as bytes. -/

theorem numeral_evenUp (ns : List Nat) : numeral (evenUp ns) = numeral ns := by
  unfold evenUp
  split
  · rfl
  · rfl

theorem evenUp_lt {ns : List Nat} (h : ∀ n ∈ ns, n < 16) : ∀ n ∈ evenUp ns, n < 16 := by
  unfold evenUp
  split
  · exact List.forall_mem_cons.mpr ⟨by decide, h⟩
  · exact h

theorem length_evenUp (ns : List Nat) : (evenUp ns).length = 2 * ((ns.length + 1) / 2) := by
  unfold evenUp
  split
  · rw [List.length_cons]
    omega
  · omega

/-- Pairs of digits denote what the bytes denote that they make. -/
theorem bigEndianValue_pairUp : ∀ {ns : List Nat} {k : Nat}, ns.length = 2 * k →
    (∀ n ∈ ns, n < 16) → (pairUp ns).length = k ∧ bigEndianValue (pairUp ns) = numeral ns
  | [], k, hk, _ => ⟨by rw [List.length_nil] at hk; show 0 = k; omega, rfl⟩
  | [_], k, hk, _ => by rw [List.length_singleton] at hk; omega
  | high :: low :: rest, k, hk, h => by
      rw [List.length_cons, List.length_cons] at hk
      obtain ⟨hhigh, hlow, hrest⟩ : high < 16 ∧ low < 16 ∧ ∀ n ∈ rest, n < 16 := by
        simpa [List.forall_mem_cons] using h
      obtain ⟨k, rfl⟩ : ∃ j, k = j + 1 := ⟨k - 1, by omega⟩
      have hlength : rest.length = 2 * k := by omega
      obtain ⟨hpairs, hvalue⟩ := bigEndianValue_pairUp hlength hrest
      have hbyte : (UInt8.ofNat (16 * high + low)).toNat = 16 * high + low := by
        rw [UInt8.toNat_ofNat']
        omega
      have hplace : (256 : Nat) ^ k = 16 ^ rest.length := by
        rw [hlength, Nat.pow_mul]
      refine ⟨congrArg (· + 1) hpairs, ?_⟩
      show bigEndianValue (UInt8.ofNat (16 * high + low) :: pairUp rest) = _
      rw [bigEndianValue_cons, hbyte, hpairs, hvalue, hplace, numeral_cons, numeral_cons,
        List.length_cons, Nat.pow_succ]
      ring

theorem decodeBytes_of_not_isDigit {digits : List Char} (h : digits.all isDigit = false) :
    decodeBytes digits = .error .notHex := by
  rw [decodeBytes_eq]
  cases hmap : digits.mapM digit? with
  | none => rfl
  | some ns => exact absurd ((mapM_digit?_eq_some_iff _ _).mp hmap).1 (by rw [h]; decide)

/-- **Two digits make a byte, one in front alone does too, and the number stays.** -/
theorem decodeBytes_of_isDigit {digits : List Char} (h : digits.all isDigit = true) :
    ∃ bytes, decodeBytes digits = .ok bytes ∧ bytes.length = (digits.length + 1) / 2 ∧
      bigEndianValue bytes = value digits := by
  have hlength : (evenUp (digits.map digitValue)).length = 2 * ((digits.length + 1) / 2) := by
    rw [length_evenUp, List.length_map]
  obtain ⟨hpairs, hvalue⟩ := bigEndianValue_pairUp hlength (evenUp_lt (map_digitValue_lt digits))
  rw [decodeBytes_eq, (mapM_digit?_eq_some_iff digits _).mpr ⟨h, rfl⟩]
  refine ⟨_, rfl, hpairs, ?_⟩
  rw [hvalue, numeral_evenUp, value_eq_numeral]

/-- Reading digits as bytes fails exactly if there is something else among them. -/
theorem decodeBytes_cases (digits : List Char) :
    (digits.all isDigit = false ∧ decodeBytes digits = .error .notHex) ∨
    (digits.all isDigit = true ∧ ∃ bytes, decodeBytes digits = .ok bytes ∧
      bytes.length = (digits.length + 1) / 2 ∧ bigEndianValue bytes = value digits) := by
  cases hall : digits.all isDigit with
  | false => exact .inl ⟨rfl, decodeBytes_of_not_isDigit hall⟩
  | true => exact .inr ⟨rfl, decodeBytes_of_isDigit hall⟩

/-- Zero bytes in front change nothing. -/
theorem bigEndianValue_replicate_append (n : Nat) (bytes : List UInt8) :
    bigEndianValue (List.replicate n 0 ++ bytes) = bigEndianValue bytes := by
  induction n with
  | zero => rfl
  | succ n ih => exact ih

theorem alignRight_of_le {n : Nat} {bytes : List UInt8} (h : bytes.length ≤ n) :
    ∃ block, alignRight n bytes = .ok block ∧ bigEndianValue block.val = bigEndianValue bytes := by
  unfold alignRight
  rw [dif_pos h]
  exact ⟨_, rfl, bigEndianValue_replicate_append _ _⟩

theorem alignRight_of_lt {n : Nat} {bytes : List UInt8} (h : n < bytes.length) :
    alignRight n bytes = .error (.overlong n bytes.length) := by
  unfold alignRight
  rw [dif_neg (Nat.not_le.mpr h)]

/-- **A block of bytes is read from exactly those digits that fit into it and denote its
number.** -/
theorem decodeFixed_eq_ok_iff (n : Nat) (digits : List Char) (block : Bytes n) :
    decodeFixed n digits = .ok block ↔
      digits.all isDigit = true ∧ digits.length ≤ 2 * n ∧
        bigEndianValue block.val = value digits := by
  unfold decodeFixed
  rcases decodeBytes_cases digits with ⟨hall, hbytes⟩ | ⟨hall, bytes, hbytes, hlength, hvalue⟩
  · rw [hbytes, hall]
    constructor
    · intro h
      cases h
    · rintro ⟨h, _⟩
      cases h
  · rw [hbytes]
    show alignRight n bytes = .ok block ↔ _
    by_cases hfits : bytes.length ≤ n
    · obtain ⟨found, hfound, hkept⟩ := alignRight_of_le hfits
      rw [hfound, Except.ok.injEq]
      constructor
      · rintro rfl
        exact ⟨hall, by omega, hkept.trans hvalue⟩
      · rintro ⟨_, _, hblock⟩
        exact Subtype.ext (bigEndianValue_injective (found.property.trans block.property.symm)
          ((hkept.trans hvalue).trans hblock.symm))
    · rw [alignRight_of_lt (Nat.not_le.mp hfits)]
      constructor
      · intro h
        cases h
      · rintro ⟨_, hle, _⟩
        omega

/-! ## §4. Digits as a number of 64 bits. -/

/-- Zero digits in front change nothing. -/
theorem value_dropWhile_zero (digits : List Char) :
    value (digits.dropWhile (· == '0')) = value digits := by
  induction digits with
  | nil => rfl
  | cons c digits ih =>
      rw [List.dropWhile_cons]
      split
      · next h =>
          rw [ih, beq_iff_eq.mp h]
          rfl
      · rfl

theorem digitValue_eq_zero_iff {c : Char} (h : isDigit c = true) : digitValue c = 0 ↔ c = '0' := by
  have hranges := (digit?_eq_some_iff c _).mp (digit?_eq_some h)
  constructor
  · intro hzero
    have hcode : c.toNat = '0'.toNat := by
      show c.toNat = 48
      omega
    exact Char.toNat_inj.mp hcode
  · rintro rfl
    rfl

/-- Digits without a zero in front number at most `k` exactly if the number is below `16 ^ k`. -/
theorem length_le_iff_value_lt {digits : List Char} (h : digits.all isDigit = true)
    (hhead : digits.head? ≠ some '0') (k : Nat) : digits.length ≤ k ↔ value digits < 16 ^ k := by
  rw [value_eq_numeral]
  cases digits with
  | nil => exact iff_of_true (Nat.zero_le k) (Nat.pow_pos (by decide))
  | cons c rest =>
      have hc : isDigit c = true := List.all_eq_true.mp h c List.mem_cons_self
      have hzero : digitValue c ≠ 0 := fun e =>
        hhead (congrArg some ((digitValue_eq_zero_iff hc).mp e))
      have hlow : 16 ^ rest.length ≤ numeral ((c :: rest).map digitValue) := by
        have hplace := le_numeral_cons hzero (rest.map digitValue)
        rwa [List.length_map] at hplace
      have hhigh := numeral_lt (map_digitValue_lt (c :: rest))
      rw [List.length_map] at hhigh
      constructor
      · intro hle
        exact Nat.lt_of_lt_of_le hhigh (Nat.pow_le_pow_right (by decide) hle)
      · intro hlt
        exact (Nat.pow_lt_pow_iff_right (by decide)).mp (Nat.lt_of_le_of_lt hlow hlt)

/-- Digits stay digits without zeros in front. -/
theorem all_isDigit_dropWhile {digits : List Char} (h : digits.all isDigit = true) :
    (digits.dropWhile (· == '0')).all isDigit = true :=
  List.all_eq_true.mpr fun c hc => List.all_eq_true.mp h c ((List.dropWhile_suffix _).subset hc)

/-- There are at most 16 digits behind the zeros in front exactly if the number fits into 64
bits. -/
theorem length_dropWhile_zero_le_iff {digits : List Char} (h : digits.all isDigit = true) :
    (digits.dropWhile (· == '0')).length ≤ 16 ↔ value digits < 2 ^ 64 := by
  have hhead : (digits.dropWhile (· == '0')).head? ≠ some '0' := by
    intro hzero
    have hno := List.head?_dropWhile_not (· == '0') digits
    rw [hzero] at hno
    cases hno
  have hlength := length_le_iff_value_lt (all_isDigit_dropWhile h) hhead 16
  rwa [value_dropWhile_zero, show (16 : Nat) ^ 16 = 2 ^ 64 by rfl] at hlength

/-- No sign stands in front of digits. -/
theorem unsigned_of_isDigit {digits : List Char} (h : digits.all isDigit = true) :
    Decimal.unsigned digits = digits := by
  unfold Decimal.unsigned
  split
  · cases h
  · rfl

/-- Digits are read as a number of 64 bits if there is one and their number fits. -/
theorem u64?_of_isDigit {digits : List Char} (h : digits.all isDigit = true)
    (hsome : digits ≠ []) :
    u64? digits = if value digits < 2 ^ 64 then some (UInt64.ofNat (value digits)) else none := by
  have hgood : (digits.isEmpty || !digits.all isDigit) = false := by simp [hsome, h]
  unfold u64?
  dsimp only
  rw [unsigned_of_isDigit h, hgood]
  rfl

/-- **Behind the checks nothing is refused any more**: what stands behind the zeros in front is no
number of 64 bits only if nothing stands there or more than 16 digits do. -/
theorem u64?_significant_eq_none_iff {digits : List Char} (h : digits.all isDigit = true) :
    u64? (digits.dropWhile (· == '0')) = none ↔
      digits.dropWhile (· == '0') = [] ∨ 16 < (digits.dropWhile (· == '0')).length := by
  have hlength := length_dropWhile_zero_le_iff h
  by_cases hempty : digits.dropWhile (· == '0') = []
  · rw [hempty]
    exact iff_of_true rfl (.inl rfl)
  · rw [u64?_of_isDigit (all_isDigit_dropWhile h) hempty, value_dropWhile_zero]
    split
    · next hfits =>
        refine iff_of_false (Option.some_ne_none _) ?_
        rintro (hnone | hlong)
        · exact hempty hnone
        · omega
    · next hgreat => exact iff_of_true rfl (.inr (by omega))

/-- What is read of one digit or more depends on their number alone. -/
theorem decodeU64_of_isDigit {digits : List Char} (h : digits.all isDigit = true)
    (hsome : digits ≠ []) :
    decodeU64 digits = if value digits < 2 ^ 64 then .ok (UInt64.ofNat (value digits))
      else .error .overflow := by
  have hgood : (digits.isEmpty || !digits.all isDigit) = false := by simp [hsome, h]
  have hlength := length_dropWhile_zero_le_iff h
  have hvalue := value_dropWhile_zero digits
  unfold decodeU64
  rw [hgood, if_neg Bool.false_ne_true]
  dsimp only
  by_cases hlong : (digits.dropWhile (· == '0')).length > 16
  · rw [if_pos hlong, if_neg (by omega)]
  · have hfits : value digits < 2 ^ 64 := hlength.mp (Nat.le_of_not_lt hlong)
    rw [if_neg hlong, if_pos hfits]
    by_cases hempty : digits.dropWhile (· == '0') = []
    · rw [hempty] at hvalue
      rw [hempty, ← hvalue]
      rfl
    · rw [if_neg (by simpa [List.isEmpty_iff] using hempty),
        u64?_of_isDigit (all_isDigit_dropWhile h) hempty, hvalue, if_pos hfits]

/-- **Reading digits as a number of 64 bits fails for what is no number, and for a number that is
too great.** -/
theorem decodeU64_cases (digits : List Char) :
    ((digits = [] ∨ digits.all isDigit = false) ∧ decodeU64 digits = .error .notHex) ∨
    (digits ≠ [] ∧ digits.all isDigit = true ∧ 2 ^ 64 ≤ value digits ∧
      decodeU64 digits = .error .overflow) ∨
    (digits ≠ [] ∧ digits.all isDigit = true ∧ value digits < 2 ^ 64 ∧
      decodeU64 digits = .ok (UInt64.ofNat (value digits))) := by
  by_cases hbad : (digits.isEmpty || !digits.all isDigit) = true
  · refine .inl ⟨by simpa using hbad, ?_⟩
    unfold decodeU64
    exact if_pos hbad
  · obtain ⟨hsome, hall⟩ : digits ≠ [] ∧ digits.all isDigit = true := by simpa using hbad
    rw [decodeU64_of_isDigit hall hsome]
    by_cases hfits : value digits < 2 ^ 64
    · rw [if_pos hfits]
      exact .inr (.inr ⟨hsome, hall, hfits, rfl⟩)
    · rw [if_neg hfits]
      exact .inr (.inl ⟨hsome, hall, by omega, rfl⟩)

/-- **A number of 64 bits is read from exactly those digits that denote it.** -/
theorem decodeU64_eq_ok_iff (digits : List Char) (n : UInt64) :
    decodeU64 digits = .ok n ↔
      digits ≠ [] ∧ digits.all isDigit = true ∧ n.toNat = value digits := by
  rcases decodeU64_cases digits with ⟨hbad, h⟩ | ⟨hsome, hall, hgreat, h⟩ |
    ⟨hsome, hall, hfits, h⟩
  · rw [h]
    refine iff_of_false (fun e => nomatch e) ?_
    rintro ⟨hsome, hall, _⟩
    rcases hbad with hempty | hno
    · exact hsome hempty
    · rw [hno] at hall
      cases hall
  · rw [h]
    refine iff_of_false (fun e => nomatch e) ?_
    rintro ⟨_, _, hvalue⟩
    have hlt : n.toNat < 2 ^ 64 := n.toNat_lt
    omega
  · have hnat : (UInt64.ofNat (value digits)).toNat = value digits :=
      UInt64.toNat_ofNat_of_lt' hfits
    rw [h, Except.ok.injEq]
    constructor
    · rintro rfl
      exact ⟨hsome, hall, hnat⟩
    · rintro ⟨_, _, hvalue⟩
      exact UInt64.toNat_inj.mp (hnat.trans hvalue.symm)

/-- **The digits of the canonical form of up to eight bytes read as the number that the bytes
denote.** -/
theorem decodeU64_canonicalDigits {bytes : List UInt8} (h : bytes.length ≤ 8) :
    decodeU64 ((canonicalDigits bytes).map digitChar)
      = .ok (UInt64.ofNat (bigEndianValue bytes)) := by
  have hsome : (canonicalDigits bytes).map digitChar ≠ [] := fun e =>
    canonicalDigits_ne_nil bytes (List.map_eq_nil_iff.mp e)
  have hvalue : value ((canonicalDigits bytes).map digitChar) = bigEndianValue bytes := by
    rw [value_map_digitChar (canonicalDigits_lt bytes), numeral_canonicalDigits]
  have hlt : bigEndianValue bytes < 2 ^ 64 :=
    Nat.lt_of_lt_of_le (bigEndianValue_lt_pow bytes) (Nat.pow_le_pow_right (n := 256) (by decide) h)
  rw [decodeU64_of_isDigit (all_isDigit_map_digitChar (canonicalDigits_lt bytes)) hsome, hvalue,
    if_pos hlt]

end NodeClient.Hex
