/-
  NodeClient.Proofs.Hex.Canonical
  ───────────────────────────────
  The canonical form read again.

  The digits of the canonical form are the digit values of the bytes without the zeros in front
  (`significant`), or a single zero.  Read as bytes they give the bytes without the zero bytes in
  front (`decodeBytes_canonicalDigits`).
-/
import Mathlib.Algebra.Group.Nat.Defs
import Mathlib.Data.List.DropRight
import NodeClient.Hex.Encode
import NodeClient.Proofs.Hex.Pairs

namespace NodeClient.Hex

/-! ## §1. Digits. -/

/-- Every digit value below 16 has a digit that stands for it. -/
theorem digit?_digitChar : ∀ n < 16, digit? (digitChar n) = some n := by decide

theorem digitChar_eq_zero_iff : ∀ n < 16, digitChar n = '0' ↔ n = 0 := by decide

theorem mapM_digit?_map_digitChar {ns : List Nat} (h : ∀ n ∈ ns, n < 16) :
    (ns.map digitChar).mapM digit? = some ns := by
  induction ns with
  | nil => rfl
  | cons n ns ih =>
      obtain ⟨hn, hns⟩ := List.forall_mem_cons.mp h
      rw [List.map_cons, List.mapM_cons, digit?_digitChar n hn, ih hns]
      rfl

theorem all_isDigit_map_digitChar {ns : List Nat} (h : ∀ n ∈ ns, n < 16) :
    (ns.map digitChar).all isDigit = true := by
  rw [List.all_eq_true]
  intro c hc
  obtain ⟨n, hn, rfl⟩ := List.mem_map.mp hc
  rw [isDigit, digit?_digitChar n (h n hn)]
  rfl

/-! ## §2. The digits of bytes. -/

theorem nibbles_lt (bytes : List UInt8) : ∀ n ∈ bytes.flatMap nibbles, n < 16 := by
  intro n hn
  obtain ⟨b, _, hn⟩ := List.mem_flatMap.mp hn
  have hb : b.toNat < 256 := b.toNat_lt
  simp only [nibbles, List.mem_cons, List.not_mem_nil, or_false] at hn
  omega

theorem length_nibbles (bytes : List UInt8) :
    (bytes.flatMap nibbles).length = 2 * bytes.length := by
  induction bytes with
  | nil => rfl
  | cons b bytes ih =>
      rw [List.flatMap_cons, List.length_append, ih]
      show 2 + _ = 2 * (bytes.length + 1)
      omega

/-- The digit values without the zeros in front. -/
def significant (bytes : List UInt8) : List Nat := (bytes.flatMap nibbles).dropWhile (· == 0)

/-- The digit values of the canonical form. -/
def canonicalDigits (bytes : List UInt8) : List Nat :=
  match significant bytes with
  | [] => [0]
  | ds => ds

theorem significant_lt (bytes : List UInt8) : ∀ n ∈ significant bytes, n < 16 :=
  fun n hn => nibbles_lt bytes n ((List.dropWhile_suffix _).subset hn)

theorem canonicalDigits_lt (bytes : List UInt8) : ∀ n ∈ canonicalDigits bytes, n < 16 := by
  intro n hn
  unfold canonicalDigits at hn
  split at hn
  · rw [List.mem_singleton.mp hn]
    omega
  · exact significant_lt bytes n hn

theorem canonicalDigits_ne_nil (bytes : List UInt8) : canonicalDigits bytes ≠ [] := by
  unfold canonicalDigits
  split
  · exact List.cons_ne_nil _ _
  · next h => exact h

/-- Zero bytes in front have zero digits only. -/
theorem significant_dropWhile_zero (bytes : List UInt8) :
    significant (bytes.dropWhile (· == 0)) = significant bytes := by
  induction bytes with
  | nil => rfl
  | cons b bytes ih =>
      by_cases hb : b = 0
      · subst hb
        exact ih
      · rw [List.dropWhile_cons, if_neg (by simpa using hb)]

/-- Of a byte other than zero the lower digit stays in any case. -/
theorem significant_cons {b : UInt8} (hb : b ≠ 0) (bytes : List UInt8) :
    significant (b :: bytes) = if b.toNat / 16 = 0 then b.toNat % 16 :: bytes.flatMap nibbles
      else (b :: bytes).flatMap nibbles := by
  show (b.toNat / 16 :: b.toNat % 16 :: bytes.flatMap nibbles).dropWhile (· == 0) = _
  rw [List.dropWhile_cons]
  by_cases hhigh : b.toNat / 16 = 0
  · have hlow : b.toNat % 16 ≠ 0 := by
      have hne : b.toNat ≠ 0 := fun e => hb (UInt8.toNat_inj.mp e)
      omega
    rw [if_pos (by simpa using hhigh), List.dropWhile_cons, if_neg (by simpa using hlow),
      if_pos hhigh]
  · rw [if_neg (by simpa using hhigh), if_neg hhigh]
    rfl

/-- What stays of bytes without zeros in front starts with another byte. -/
theorem dropWhile_zero_cases (bytes : List UInt8) :
    bytes.dropWhile (· == 0) = [] ∨
      ∃ b rest, b ≠ 0 ∧ bytes.dropWhile (· == 0) = b :: rest := by
  have hfirst := List.head?_dropWhile_not (· == 0) bytes
  cases h : bytes.dropWhile (· == 0) with
  | nil => exact .inl rfl
  | cons b rest =>
      rw [h] at hfirst
      exact .inr ⟨b, rest, by simpa using hfirst, rfl⟩

/-- Without zeros in front there are no digits exactly if there is no byte but zero. -/
theorem significant_eq_nil_iff (bytes : List UInt8) :
    significant bytes = [] ↔ bytes.dropWhile (· == 0) = [] := by
  rw [← significant_dropWhile_zero]
  rcases dropWhile_zero_cases bytes with h | ⟨b, rest, hb, h⟩
  · rw [h]
    exact iff_of_true rfl rfl
  · rw [h, significant_cons hb]
    refine iff_of_false ?_ (List.cons_ne_nil _ _)
    split <;> exact List.cons_ne_nil _ _

/-- **The canonical form is the marker with the digits behind it.**  Skipping zero bytes and then
at most one zero digit leaves no zero in front. -/
theorem canonical_eq (bytes : List UInt8) :
    canonical bytes = '0' :: 'x' :: (canonicalDigits bytes).map digitChar := by
  unfold canonical canonicalDigits
  rw [← significant_dropWhile_zero]
  rcases dropWhile_zero_cases bytes with h | ⟨b, rest, hb, h⟩
  · rw [h]
    rfl
  · rw [h, significant_cons hb]
    by_cases hhigh : b.toNat / 16 = 0
    · simp only [if_pos hhigh]
      rfl
    · simp only [if_neg hhigh]
      rfl

/-! ## §3. Digits as bytes. -/

theorem pairUp_nibbles (bytes : List UInt8) : pairUp (bytes.flatMap nibbles) = bytes := by
  induction bytes with
  | nil => rfl
  | cons b bytes ih =>
      show UInt8.ofNat (16 * (b.toNat / 16) + b.toNat % 16) :: pairUp (bytes.flatMap nibbles) = _
      rw [ih, Nat.div_add_mod, UInt8.ofNat_toNat]

/-- The digits without zeros in front are those of the bytes without zeros in front, of which
the first may lack its upper digit. -/
theorem pairUp_evenUp_significant (bytes : List UInt8) :
    pairUp (evenUp (significant bytes)) = bytes.dropWhile (· == 0) := by
  rw [← significant_dropWhile_zero]
  rcases dropWhile_zero_cases bytes with h | ⟨b, rest, hb, h⟩
  · rw [h]
    rfl
  · have hlen := length_nibbles rest
    rw [h, significant_cons hb]
    -- an odd number of digits is left exactly if the first byte has lost its upper one
    by_cases hhigh : b.toNat / 16 = 0
    · have hodd : (b.toNat % 16 :: rest.flatMap nibbles).length % 2 = 1 := by
        rw [List.length_cons, hlen]
        omega
      rw [if_pos hhigh, evenUp, if_pos hodd, ← hhigh]
      exact pairUp_nibbles (b :: rest)
    · have heven : ¬ ((b :: rest).flatMap nibbles).length % 2 = 1 := by
        rw [length_nibbles]
        omega
      rw [if_neg hhigh, evenUp, if_neg heven, pairUp_nibbles]

/-- The bytes that the canonical form reads back as: those from the first that is not zero on,
or a single zero byte. -/
def stripped (bytes : List UInt8) : List UInt8 :=
  match bytes.dropWhile (· == 0) with
  | [] => [0]
  | rest => rest

/-- **The digits of the canonical form read as the bytes without zeros in front.** -/
theorem decodeBytes_canonicalDigits (bytes : List UInt8) :
    decodeBytes ((canonicalDigits bytes).map digitChar) = .ok (stripped bytes) := by
  rw [decodeBytes_eq, mapM_digit?_map_digitChar (canonicalDigits_lt bytes)]
  show Except.ok (pairUp (evenUp (canonicalDigits bytes))) = _
  unfold canonicalDigits stripped
  rw [← pairUp_evenUp_significant]
  by_cases hnil : significant bytes = []
  · rw [hnil]
    rfl
  · have hne : bytes.dropWhile (· == 0) ≠ [] := fun e => hnil ((significant_eq_nil_iff bytes).mpr e)
    rw [← pairUp_evenUp_significant] at hne
    split
    · next h => exact absurd h hnil
    · split
      · next h => exact absurd h hne
      · rfl

/-- A block of bytes is its bytes without zeros in front, moved to the low-order end. -/
theorem alignRight_stripped {n : Nat} (hn : 0 < n) (bytes : Bytes n) :
    alignRight n (stripped bytes.val) = .ok bytes := by
  obtain ⟨bytes, rfl⟩ := bytes
  have hzeros : bytes.takeWhile (· == 0)
      = List.replicate (bytes.takeWhile (· == 0)).length 0 :=
    List.eq_replicate_of_mem fun b hb => by simpa using List.mem_takeWhile_imp hb
  have hsplit : bytes.takeWhile (· == 0) ++ bytes.dropWhile (· == 0) = bytes :=
    List.takeWhile_append_dropWhile
  have hlen := congrArg List.length hsplit
  rw [List.length_append] at hlen
  -- in front there are as many zeros as the block is longer than the rest
  have hcore : (stripped bytes).length ≤ bytes.length ∧
      List.replicate (bytes.length - (stripped bytes).length) 0 ++ stripped bytes = bytes := by
    unfold stripped
    split
    · next h =>
        -- nothing but zeros, of which the last is kept
        rw [h, List.length_nil, Nat.add_zero] at hlen
        rw [h, List.append_nil] at hsplit
        refine ⟨hn, ?_⟩
        rw [List.length_singleton, ← List.replicate_succ', Nat.sub_add_cancel hn, ← hlen, ← hzeros]
        exact hsplit
    · refine ⟨by omega, ?_⟩
      rw [← hlen, Nat.add_sub_cancel, ← hzeros]
      exact hsplit
  unfold alignRight
  rw [dif_pos hcore.1]
  exact congrArg Except.ok (Subtype.ext hcore.2)

/-! ## §4. Digits as a number. -/

/-- The number that digit values denote. -/
def numeral (ns : List Nat) : Nat := ns.foldl (fun n d => 16 * n + d) 0

theorem value_map_digitChar {ns : List Nat} (h : ∀ n ∈ ns, n < 16) :
    value (ns.map digitChar) = numeral ns := by
  unfold value numeral
  rw [List.foldl_map]
  refine List.foldl_ext _ _ _ ?_
  intro a n hn
  rw [digit?_digitChar n (h n hn)]
  rfl

theorem numeral_dropWhile_zero (ns : List Nat) : numeral (ns.dropWhile (· == 0)) = numeral ns := by
  induction ns with
  | nil => rfl
  | cons n ns ih =>
      rw [List.dropWhile_cons]
      split
      · next h =>
          rw [ih, beq_iff_eq.mp h]
          rfl
      · rfl

theorem numeral_nibbles (bytes : List UInt8) :
    numeral (bytes.flatMap nibbles) = bigEndianValue bytes := by
  -- two digits make one byte, whatever has been read before
  have hfold : ∀ (bytes : List UInt8) (acc : Nat),
      (bytes.flatMap nibbles).foldl (fun n d => 16 * n + d) acc
        = bytes.foldl (fun n b => 256 * n + b.toNat) acc := by
    intro bytes
    induction bytes with
    | nil => intro acc; rfl
    | cons b bytes ih =>
        intro acc
        show (bytes.flatMap nibbles).foldl _ (16 * (16 * acc + b.toNat / 16) + b.toNat % 16) = _
        rw [ih, show 16 * (16 * acc + b.toNat / 16) + b.toNat % 16 = 256 * acc + b.toNat by omega]
        rfl
  exact hfold bytes 0

theorem dropWhile_canonicalDigits (bytes : List UInt8) :
    (canonicalDigits bytes).dropWhile (· == 0) = significant bytes := by
  unfold canonicalDigits
  split
  · next h => rw [h]; rfl
  · exact List.dropWhile_idempotent _ _

theorem numeral_canonicalDigits (bytes : List UInt8) :
    numeral (canonicalDigits bytes) = bigEndianValue bytes := by
  rw [← numeral_dropWhile_zero, dropWhile_canonicalDigits, significant, numeral_dropWhile_zero,
    numeral_nibbles]

theorem bigEndianValue_append (bytes : List UInt8) (b : UInt8) :
    bigEndianValue (bytes ++ [b]) = 256 * bigEndianValue bytes + b.toNat := by
  unfold bigEndianValue
  rw [List.foldl_append]
  rfl

theorem bigEndianValue_bigEndian (width n : Nat) :
    bigEndianValue (bigEndian width n) = n % 256 ^ width := by
  induction width generalizing n with
  | zero =>
      rw [Nat.pow_zero, Nat.mod_one]
      rfl
  | succ k ih =>
      have hbyte : (UInt8.ofNat n).toNat = n % 256 := UInt8.toNat_ofNat'
      rw [bigEndian, bigEndianValue_append, ih, hbyte, Nat.pow_succ, Nat.mul_comm _ 256,
          Nat.mod_mul]
      omega

/-- A number of 64 bits has eight bytes. -/
theorem bigEndianValue_u64 (n : UInt64) : bigEndianValue (bigEndian 8 n.toNat) = n.toNat := by
  rw [bigEndianValue_bigEndian]
  exact Nat.mod_eq_of_lt n.toNat_lt

end NodeClient.Hex
