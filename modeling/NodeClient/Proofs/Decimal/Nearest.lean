/-
  NodeClient.Proofs.Decimal.Nearest
  ─────────────────────────────────
  What `nearestBinary` computes.

  The multiples of the last place are looked at first: `nearestCount` picks the nearest one, and an
  even one between two that are as near.  A binary64 value that is no such multiple lies below the
  number by more than that (`IsBinary.multiple_or_below`).

  Main results: `isNearest_nearestBinary`, `nearestBinary_eq_self_iff`.
-/
import Mathlib.Data.Nat.Dist
import NodeClient.Decimal.Nearest

namespace NodeClient.Decimal

/-! ## §1. Whole binary64 values. -/

/-- A whole number is a binary64 value if it has nothing but zeros behind its first 53 digits. -/
def IsBinary (v : Nat) : Prop :=
  ∃ mantissa exponent, mantissa < 2 ^ 53 ∧ v = mantissa * 2 ^ exponent

/-- The binary64 value is the one to which a whole number is rounded: none is nearer, and if
another one is as near, its last digit is even. -/
structure IsNearest (n v : Nat) : Prop where
  binary : IsBinary v
  nearest : ∀ w, IsBinary w → Nat.dist n v ≤ Nat.dist n w
  even : ∀ w, IsBinary w → w ≠ v → Nat.dist n w = Nat.dist n v →
    ∃ mantissa exponent, 2 ^ 52 ≤ mantissa ∧ mantissa < 2 ^ 53 ∧ mantissa % 2 = 0 ∧
      v = mantissa * 2 ^ exponent

theorem isBinary_of_le {v : Nat} (h : v ≤ 2 ^ 53) : IsBinary v := by
  by_cases hv : v = 2 ^ 53
  · exact ⟨1, 53, by decide, by omega⟩
  · exact ⟨v, 0, by omega, by simp⟩

/-! ## §2. The nearest multiple. -/

section Count

variable {n unit : Nat}

theorem nearestCount_cases (n unit : Nat) :
    (nearestCount n unit = n / unit ∧ 2 * (n % unit) ≤ unit) ∨
    (nearestCount n unit = n / unit + 1 ∧ unit ≤ 2 * (n % unit)) := by
  unfold nearestCount
  dsimp only
  split
  · left; omega
  · split
    · right; omega
    · split
      · left; omega
      · right; omega

/-- Half way between two multiples the count is even. -/
theorem nearestCount_even (h : 2 * (n % unit) = unit) : nearestCount n unit % 2 = 0 := by
  unfold nearestCount
  dsimp only
  rw [if_neg (by omega), if_neg (by omega)]
  split <;> omega

/-- A multiple is one of the two around a number, or lies beyond them. -/
theorem multiple_cases (k q unit : Nat) :
    k = q ∨ k = q + 1 ∨ k * unit + unit ≤ q * unit ∨ q * unit + 2 * unit ≤ k * unit := by
  rcases Nat.lt_trichotomy k q with hlt | heq | hgt
  · have hle := Nat.mul_le_mul_right unit (show k + 1 ≤ q by omega)
    rw [Nat.add_mul, Nat.one_mul] at hle
    exact .inr (.inr (.inl hle))
  · exact .inl heq
  · by_cases hnext : k = q + 1
    · exact .inr (.inl hnext)
    · have hle := Nat.mul_le_mul_right unit (show q + 2 ≤ k by omega)
      rw [Nat.add_mul] at hle
      exact .inr (.inr (.inr hle))

/-- No multiple is nearer than the chosen one. -/
theorem dist_nearestCount_le (hunit : 0 < unit) (k : Nat) :
    Nat.dist n (nearestCount n unit * unit) ≤ Nat.dist n (k * unit) := by
  have hsplit : n / unit * unit + n % unit = n := by rw [Nat.mul_comm]; exact Nat.div_add_mod n unit
  have hnext : (n / unit + 1) * unit = n / unit * unit + unit := Nat.succ_mul _ _
  have hrest : n % unit < unit := Nat.mod_lt n hunit
  unfold Nat.dist
  rcases nearestCount_cases n unit with ⟨hcount, hhalf⟩ | ⟨hcount, hhalf⟩ <;> rw [hcount] <;>
    rcases multiple_cases k (n / unit) unit with rfl | rfl | hk | hk <;> omega

/-- If another multiple is as near, the count is even. -/
theorem nearestCount_even_of_dist_eq (hunit : 0 < unit) {k : Nat}
    (hne : k ≠ nearestCount n unit)
    (hdist : Nat.dist n (k * unit) = Nat.dist n (nearestCount n unit * unit)) :
    nearestCount n unit % 2 = 0 := by
  have hsplit : n / unit * unit + n % unit = n := by rw [Nat.mul_comm]; exact Nat.div_add_mod n unit
  have hnext : (n / unit + 1) * unit = n / unit * unit + unit := Nat.succ_mul _ _
  have hrest : n % unit < unit := Nat.mod_lt n hunit
  refine nearestCount_even ?_
  unfold Nat.dist at hdist
  rcases nearestCount_cases n unit with ⟨hcount, hhalf⟩ | ⟨hcount, hhalf⟩ <;>
    rw [hcount] at hdist hne <;>
    rcases multiple_cases k (n / unit) unit with rfl | rfl | hk | hk <;> omega

end Count

/-! ## §3. The last place. -/

theorem lastPlace_eq (n : Nat) : lastPlace n = 2 ^ (n.log2 - 52) := rfl

theorem lastPlace_pos (n : Nat) : 0 < lastPlace n := Nat.two_pow_pos _

theorem lastPlace_of_lt {n : Nat} (h : n < 2 ^ 53) : lastPlace n = 1 := by
  rw [lastPlace_eq]
  by_cases hn : n = 0
  · simp [hn]
  · have hlog : n.log2 < 53 := (Nat.log2_lt hn).mpr h
    rw [show n.log2 - 52 = 0 by omega, Nat.pow_zero]

/-- A number with more than 53 digits holds its last place so often that the count has 53 digits. -/
theorem count_bounds {n : Nat} (h : 2 ^ 53 ≤ n) :
    2 ^ 52 * lastPlace n ≤ n ∧ n < 2 ^ 53 * lastPlace n := by
  have hn : n ≠ 0 := by omega
  have hlog : 53 ≤ n.log2 := (Nat.le_log2 hn).mpr h
  rw [lastPlace_eq]
  rw [← Nat.pow_add, ← Nat.pow_add, show 52 + (n.log2 - 52) = n.log2 by omega,
    show 53 + (n.log2 - 52) = n.log2 + 1 by omega]
  exact ⟨Nat.log2_self_le hn, Nat.lt_log2_self⟩

/-- A binary64 value is a multiple of the last place, or it is below all numbers with that place. -/
theorem IsBinary.multiple_or_below {v : Nat} (h : IsBinary v) (n : Nat) :
    (∃ k, v = k * lastPlace n) ∨ v < 2 ^ 52 * lastPlace n := by
  obtain ⟨mantissa, exponent, hmantissa, rfl⟩ := h
  rw [lastPlace_eq]
  by_cases hle : n.log2 - 52 ≤ exponent
  · left
    refine ⟨mantissa * 2 ^ (exponent - (n.log2 - 52)), ?_⟩
    rw [Nat.mul_assoc, ← Nat.pow_add, Nat.sub_add_cancel hle]
  · right
    have hpow : 2 ^ (exponent + 1) ≤ 2 ^ (n.log2 - 52) :=
      Nat.pow_le_pow_right (by decide) (by omega)
    rw [Nat.pow_succ] at hpow
    have hlt := Nat.mul_lt_mul_of_pos_right hmantissa (Nat.two_pow_pos exponent)
    omega

/-! ## §4. The nearest value. -/

theorem nearestBinary_of_lt {n : Nat} (h : n < 2 ^ 53) : nearestBinary n = n := by
  unfold nearestBinary
  rw [lastPlace_of_lt h]
  simp [nearestCount, Nat.mod_one]

section Rounded

variable {n : Nat}

/-- The count of a number with more than 53 digits. -/
theorem nearestCount_bounds (h : 2 ^ 53 ≤ n) :
    2 ^ 52 ≤ nearestCount n (lastPlace n) ∧ nearestCount n (lastPlace n) ≤ 2 ^ 53 := by
  obtain ⟨hlow, hhigh⟩ := count_bounds h
  have hbelow : 2 ^ 52 ≤ n / lastPlace n := (Nat.le_div_iff_mul_le (lastPlace_pos n)).mpr hlow
  have habove : n / lastPlace n < 2 ^ 53 := (Nat.div_lt_iff_lt_mul (lastPlace_pos n)).mpr hhigh
  rcases nearestCount_cases n (lastPlace n) with ⟨hcount, _⟩ | ⟨hcount, _⟩ <;> omega

/-- A value that is rounded has a mantissa with 53 digits, which is even if the count is. -/
theorem nearestBinary_mantissa (h : 2 ^ 53 ≤ n) :
    ∃ mantissa exponent, 2 ^ 52 ≤ mantissa ∧ mantissa < 2 ^ 53 ∧
      nearestBinary n = mantissa * 2 ^ exponent ∧
      (nearestCount n (lastPlace n) % 2 = 0 → mantissa % 2 = 0) := by
  obtain ⟨hlow, hhigh⟩ := nearestCount_bounds h
  unfold nearestBinary
  by_cases hcarry : nearestCount n (lastPlace n) = 2 ^ 53
  · -- rounding up has given one more digit
    refine ⟨2 ^ 52, n.log2 - 52 + 1, Nat.le_refl _, by decide, ?_, fun _ => by decide⟩
    rw [hcarry, lastPlace_eq, Nat.pow_succ 2 (n.log2 - 52)]
    omega
  · exact ⟨nearestCount n (lastPlace n), n.log2 - 52, hlow, by omega, rfl, id⟩

theorem isBinary_nearestBinary (n : Nat) : IsBinary (nearestBinary n) := by
  by_cases h : n < 2 ^ 53
  · rw [nearestBinary_of_lt h]
    exact isBinary_of_le (Nat.le_of_lt h)
  · obtain ⟨mantissa, exponent, _, hlt, heq, _⟩ := nearestBinary_mantissa (Nat.le_of_not_lt h)
    exact ⟨mantissa, exponent, hlt, heq⟩

/-- A value that is no multiple of the last place is farther away than the nearest one. -/
theorem dist_lt_of_below (h : 2 ^ 53 ≤ n) {v : Nat} (hv : v < 2 ^ 52 * lastPlace n) :
    Nat.dist n (nearestBinary n) < Nat.dist n v := by
  have hlow := (count_bounds h).1
  have hle := dist_nearestCount_le (n := n) (lastPlace_pos n) (2 ^ 52)
  unfold nearestBinary
  unfold Nat.dist at hle ⊢
  omega

/-- **The value that is computed is the one to which the number is rounded.** -/
theorem isNearest_nearestBinary (n : Nat) : IsNearest n (nearestBinary n) := by
  by_cases h : n < 2 ^ 53
  · rw [nearestBinary_of_lt h]
    refine ⟨isBinary_of_le (Nat.le_of_lt h), ?_, ?_⟩
    · intro w _
      simp [Nat.dist_self]
    · intro w _ hne hdist
      rw [Nat.dist_self] at hdist
      exact absurd (Nat.eq_of_dist_eq_zero hdist).symm hne
  · have hlarge : 2 ^ 53 ≤ n := Nat.le_of_not_lt h
    refine ⟨isBinary_nearestBinary n, ?_, ?_⟩
    · intro w hw
      rcases hw.multiple_or_below n with ⟨k, rfl⟩ | hbelow
      · exact dist_nearestCount_le (lastPlace_pos n) k
      · exact Nat.le_of_lt (dist_lt_of_below hlarge hbelow)
    · intro w hw hne hdist
      rcases hw.multiple_or_below n with ⟨k, rfl⟩ | hbelow
      · have hk : k ≠ nearestCount n (lastPlace n) := by
          intro hk
          rw [hk] at hne
          exact hne rfl
        have heven := nearestCount_even_of_dist_eq (lastPlace_pos n) hk hdist
        obtain ⟨mantissa, exponent, hlow, hlt, heq, hparity⟩ := nearestBinary_mantissa hlarge
        exact ⟨mantissa, exponent, hlow, hlt, hparity heven, heq⟩
      · have hlt := dist_lt_of_below hlarge hbelow
        omega

/-- Nothing is lost exactly by the binary64 values. -/
theorem nearestBinary_eq_self_iff (n : Nat) : nearestBinary n = n ↔ IsBinary n := by
  constructor
  · intro h
    rw [← h]
    exact isBinary_nearestBinary n
  · intro h
    have hdist := (isNearest_nearestBinary n).nearest n h
    rw [Nat.dist_self] at hdist
    exact (Nat.eq_of_dist_eq_zero (by omega)).symm

theorem nearestBinary_of_le (h : n ≤ 2 ^ 53) : nearestBinary n = n :=
  (nearestBinary_eq_self_iff n).mpr (isBinary_of_le h)

/-- Only zero is rounded to zero. -/
theorem nearestBinary_pos_iff (n : Nat) : 0 < nearestBinary n ↔ 0 < n := by
  by_cases h : n < 2 ^ 53
  · rw [nearestBinary_of_lt h]
  · have hlow := (nearestCount_bounds (Nat.le_of_not_lt h)).1
    have hpos : 0 < nearestBinary n := Nat.mul_pos (by omega) (lastPlace_pos n)
    omega

end Rounded

end NodeClient.Decimal
