/-
  NodeClient.Proofs.Hex.Numeral
  ─────────────────────────────
  One canonical text for each number.

  A text is canonical if it is `0x0`, or `0x` and lower-case digits of which the first is not
  zero.  The canonical form of bytes is such a text and denotes their number
  (`isCanonical_canonical`, `value_canonical`), and there is no other that does
  (`isCanonical_injective`).
-/
import NodeClient.Proofs.Hex.Value

namespace NodeClient.Hex

/-! ## §1. Canonical texts. -/

/-- Holds for the ten digits and the six lower-case letters. -/
def isLowerDigit (c : Char) : Bool := ('0' ≤ c && c ≤ '9') || ('a' ≤ c && c ≤ 'f')

/-- Holds for `0x0`, and for `0x` with lower-case digits of which the first is not zero. -/
def isCanonical : List Char → Bool
  | ['0', 'x', '0'] => true
  | '0' :: 'x' :: first :: rest => first != '0' && (first :: rest).all isLowerDigit
  | _ => false

theorem isLowerDigit_digitChar : ∀ n < 16, isLowerDigit (digitChar n) = true := by decide

theorem isLowerDigit_iff (c : Char) :
    isLowerDigit c = true ↔ (48 ≤ c.toNat ∧ c.toNat ≤ 57) ∨ (97 ≤ c.toNat ∧ c.toNat ≤ 102) := by
  unfold isLowerDigit
  simp only [Bool.or_eq_true, Bool.and_eq_true, decide_eq_true_eq]
  exact Iff.rfl

/-- A lower-case digit is that of its value. -/
theorem digit?_of_isLowerDigit {c : Char} (h : isLowerDigit c = true) :
    ∃ n, digit? c = some n ∧ digitChar n = c := by
  have hcode : ∀ n : Nat, n = c.toNat → Char.ofNat n = c := by
    rintro n rfl
    exact Char.ofNat_toNat c
  rcases (isLowerDigit_iff c).mp h with hrange | hrange
  · refine ⟨c.toNat - 48, (digit?_eq_some_iff c _).mpr (.inl ⟨hrange.1, hrange.2, rfl⟩), ?_⟩
    rw [digitChar, if_pos (by omega)]
    exact hcode _ (by omega)
  · refine ⟨c.toNat - 87, (digit?_eq_some_iff c _).mpr (.inr (.inl ⟨hrange.1, hrange.2, rfl⟩)), ?_⟩
    rw [digitChar, if_neg (by omega)]
    exact hcode _ (by omega)

theorem isDigit_of_isLowerDigit {c : Char} (h : isLowerDigit c = true) : isDigit c = true := by
  obtain ⟨n, hn, _⟩ := digit?_of_isLowerDigit h
  exact Option.isSome_iff_exists.mpr ⟨n, hn⟩

theorem map_digitChar_map_digitValue {cs : List Char} (h : cs.all isLowerDigit = true) :
    (cs.map digitValue).map digitChar = cs := by
  rw [List.map_map]
  refine (List.map_congr_left ?_).trans (List.map_id cs)
  intro c hc
  obtain ⟨n, hn, hchar⟩ := digit?_of_isLowerDigit (List.all_eq_true.mp h c hc)
  show digitChar ((digit? c).getD 0) = c
  rw [hn]
  exact hchar

theorem isCanonical_cons {first : Char} (h : first ≠ '0') (rest : List Char) :
    isCanonical ('0' :: 'x' :: first :: rest) = (first :: rest).all isLowerDigit := by
  rw [isCanonical, bne_iff_ne.mpr h, Bool.true_and]
  exact fun e => absurd e h

/-- Canonical texts are those of digit values without a zero in front, or of a single zero. -/
theorem isCanonical_iff (s : List Char) :
    isCanonical s = true ↔ ∃ ns : List Nat, (∀ n ∈ ns, n < 16) ∧
      (ns = [0] ∨ (ns ≠ [] ∧ ns.head? ≠ some 0)) ∧ s = '0' :: 'x' :: ns.map digitChar := by
  constructor
  · intro h
    unfold isCanonical at h
    split at h
    · exact ⟨[0], by decide, .inl rfl, rfl⟩
    · next first rest _ =>
        obtain ⟨hfirst, hlower⟩ := Bool.and_eq_true_iff.mp h
        have hdigit : isDigit first = true :=
          isDigit_of_isLowerDigit (List.all_eq_true.mp hlower first List.mem_cons_self)
        refine ⟨(first :: rest).map digitValue, map_digitValue_lt _,
          .inr ⟨List.cons_ne_nil _ _, ?_⟩, ?_⟩
        · intro hzero
          exact bne_iff_ne.mp hfirst ((digitValue_eq_zero_iff hdigit).mp (Option.some.inj hzero))
        · rw [map_digitChar_map_digitValue hlower]
    · cases h
  · rintro ⟨ns, hlt, hhead, rfl⟩
    rcases hhead with rfl | ⟨hsome, hhead⟩
    · rfl
    · obtain ⟨n, rest, rfl⟩ := List.exists_cons_of_ne_nil hsome
      have hn : digitChar n ≠ '0' := fun e => hhead (congrArg some
        ((digitChar_eq_zero_iff n (hlt n List.mem_cons_self)).mp e))
      rw [List.map_cons, isCanonical_cons hn, ← List.map_cons, List.all_eq_true]
      intro c hc
      obtain ⟨m, hm, rfl⟩ := List.mem_map.mp hc
      exact isLowerDigit_digitChar m (hlt m hm)

/-- **No two canonical texts denote one number.** -/
theorem isCanonical_injective {s t : List Char} (hs : isCanonical s = true)
    (ht : isCanonical t = true) (h : value (s.drop 2) = value (t.drop 2)) : s = t := by
  obtain ⟨ms, hms, hmcases, rfl⟩ := (isCanonical_iff s).mp hs
  obtain ⟨ns, hns, hncases, rfl⟩ := (isCanonical_iff t).mp ht
  have hvalue : numeral ms = numeral ns := by
    rw [← value_map_digitChar hms, ← value_map_digitChar hns]
    exact h
  have hpos : ∀ ds : List Nat, ds ≠ [] → ds.head? ≠ some 0 → numeral ds ≠ 0 := by
    intro ds hne hhead hzero
    obtain ⟨d, rest, rfl⟩ := List.exists_cons_of_ne_nil hne
    have hplace := le_numeral_cons (fun e : d = 0 => hhead (congrArg some e)) rest
    have := Nat.pow_pos (n := rest.length) (show 0 < 16 by decide)
    omega
  rcases hmcases with rfl | ⟨hm, hmhead⟩ <;> rcases hncases with rfl | ⟨hn, hnhead⟩
  · rfl
  · exact absurd hvalue.symm (hpos ns hn hnhead)
  · exact absurd hvalue (hpos ms hm hmhead)
  · rw [numeral_injective hms hns hmhead hnhead hvalue]

/-! ## §2. The canonical form of bytes. -/

theorem isCanonical_canonical (bytes : List UInt8) : isCanonical (canonical bytes) = true := by
  rw [isCanonical_iff]
  refine ⟨canonicalDigits bytes, canonicalDigits_lt bytes, ?_, canonical_eq bytes⟩
  have hhead : (significant bytes).head? ≠ some 0 := by
    intro h
    have hno := List.head?_dropWhile_not (· == 0) (bytes.flatMap nibbles)
    rw [show (bytes.flatMap nibbles).dropWhile (· == 0) = significant bytes from rfl, h] at hno
    cases hno
  unfold canonicalDigits
  split
  · exact .inl rfl
  · next hsome => exact .inr ⟨hsome, hhead⟩

theorem value_canonical (bytes : List UInt8) :
    value ((canonical bytes).drop 2) = bigEndianValue bytes := by
  rw [canonical_eq]
  show value ((canonicalDigits bytes).map digitChar) = _
  rw [value_map_digitChar (canonicalDigits_lt bytes), numeral_canonicalDigits]

end NodeClient.Hex
