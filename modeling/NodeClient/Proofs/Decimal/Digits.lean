/-
  NodeClient.Proofs.Decimal.Digits
  ────────────────────────────────
  Numbers in decimal.

  A number of 64 bits is read from one or more digits, behind a plus sign or not, that denote it
  (`u64?_eq_some_iff`); the digits in which a number is written denote it (`value_toDigits`).
-/
import NodeClient.Decimal.Digits

namespace NodeClient.Decimal

/-! ## §1. Written numbers. -/

theorem value_toDigits (n : Nat) : value (Nat.toDigits 10 n) = n :=
  Nat.ofDigitChars_toDigits (by decide) (by decide)

theorem all_isDigit_toDigits (n : Nat) : (Nat.toDigits 10 n).all isDigit = true := by
  rw [List.all_eq_true]
  intro c hc
  have hdigit : c.isDigit = true := Nat.isDigit_of_mem_toDigits (by decide) (by decide) hc
  exact hdigit

/-! ## §2. Numbers that are read. -/

theorem value?_eq_some_iff (s : List Char) (n : Nat) :
    value? s = some n ↔ s ≠ [] ∧ s.all isDigit = true ∧ value s = n := by
  unfold value?
  by_cases h : (s.isEmpty || !s.all isDigit) = true
  · rw [if_pos h]
    refine iff_of_false (Option.some_ne_none n).symm ?_
    rintro ⟨hsome, hall, _⟩
    simp [hall, hsome] at h
  · rw [if_neg h, Option.some.injEq]
    obtain ⟨hsome, hall⟩ : s ≠ [] ∧ s.all isDigit = true := by simpa using h
    exact ⟨fun hn => ⟨hsome, hall, hn⟩, fun hn => hn.2.2⟩

/-- What is left without the sign is the text itself, or stands behind a plus sign. -/
theorem unsigned_cases (s : List Char) : s = unsigned s ∨ s = '+' :: unsigned s := by
  unfold unsigned
  split
  · exact .inr rfl
  · exact .inl rfl

theorem unsigned_of_digits {digits : List Char} (h : digits.all isDigit = true) :
    unsigned digits = digits := by
  unfold unsigned
  split
  · exact absurd h (by simp [isDigit])
  · rfl

/-- **A number of 64 bits is read from exactly those digits that denote it, behind at most one
plus sign.** -/
theorem u64?_eq_some_iff (s : List Char) (n : UInt64) :
    u64? s = some n ↔ ∃ digits, (s = digits ∨ s = '+' :: digits) ∧ digits ≠ [] ∧
      digits.all isDigit = true ∧ value digits = n.toNat := by
  have hread : u64? s = some n ↔ value? (unsigned s) = some n.toNat := by
    unfold u64?
    cases value? (unsigned s) with
    | none => exact iff_of_false (fun h => nomatch h) (fun h => nomatch h)
    | some m =>
        rw [Option.some.injEq]
        by_cases hm : m < UInt64.size
        · simp only [if_pos hm, Option.some.injEq]
          constructor
          · rintro rfl
            exact (UInt64.toNat_ofNat_of_lt' hm).symm
          · rintro rfl
            exact UInt64.ofNat_toNat
        · simp only [if_neg hm]
          refine iff_of_false (fun h => nomatch h) ?_
          rintro rfl
          exact hm n.toNat_lt
  rw [hread, value?_eq_some_iff]
  constructor
  · intro h
    exact ⟨unsigned s, unsigned_cases s, h⟩
  · rintro ⟨digits, rfl | rfl, hsome, hall, hvalue⟩
    · rw [unsigned_of_digits hall]
      exact ⟨hsome, hall, hvalue⟩
    · exact ⟨hsome, hall, hvalue⟩

end NodeClient.Decimal
