/-
  NodeClient.Proofs.Scalar.Order
  ──────────────────────────────
  **Scalars are ordered as the numbers that their texts denote.**

  Words are compared byte by byte from the front.  Blocks of one length compare so as their
  big-endian values do (`lt_iff_bigEndianValue_lt`), and a text is right-aligned in its block
  whatever zeros it starts with, so that the order of the parsed values is that of the numbers.
  What sorting and the greatest value do follows from this alone: `OrderedBy` says that values are
  ordered by a number of each, and inserting keeps the numbers ascending.

  Main result: `ordered_by_value`.
-/
import NodeClient.Proofs.Scalar.Canonical
import NodeClient.Scalar.Order

namespace NodeClient

/-! ## §1. Bytes from the front on. -/

namespace Hex

/-- The place in front decides, and the rest only where the place is the same. -/
theorem place_lt_iff {m n p x y : Nat} (hx : x < p) (hy : y < p) :
    m * p + x < n * p + y ↔ m < n ∨ m = n ∧ x < y := by
  rcases Nat.lt_trichotomy m n with h | h | h
  · have hplace : (m + 1) * p ≤ n * p := Nat.mul_le_mul_right p h
    rw [Nat.add_mul, Nat.one_mul] at hplace
    omega
  · subst h
    omega
  · have hplace : (n + 1) * p ≤ m * p := Nat.mul_le_mul_right p h
    rw [Nat.add_mul, Nat.one_mul] at hplace
    omega

/-- **Blocks of one length are ordered as the numbers that they denote.** -/
theorem lt_iff_bigEndianValue_lt {as bs : List UInt8} (hlength : as.length = bs.length) :
    as < bs ↔ bigEndianValue as < bigEndianValue bs := by
  induction as generalizing bs with
  | nil =>
      have hnil : bs = [] := List.eq_nil_of_length_eq_zero hlength.symm
      subst hnil
      simp
  | cons a as ih =>
      cases bs with
      | nil => simp at hlength
      | cons b bs =>
          have hrest : as.length = bs.length := by simpa using hlength
          have hbelow := bigEndianValue_lt_pow as
          rw [hrest] at hbelow
          rw [List.cons_lt_cons_iff, ih hrest, bigEndianValue_cons, bigEndianValue_cons, hrest,
            place_lt_iff hbelow (bigEndianValue_lt_pow bs), UInt8.lt_iff_toNat_lt, UInt8.toNat_inj]

end Hex

/-! ## §2. Values that are ordered by a number. -/

section Order

variable {α : Type} [LT α] [∀ a b : α, Decidable (a < b)]

/-- Each value has a number of its own, and the order of the values is that of the numbers. -/
structure OrderedBy (toNat : α → Nat) : Prop where
  injective : Function.Injective toNat
  lt_iff : ∀ a b, a < b ↔ toNat a < toNat b

variable {toNat : α → Nat}

/-- The greater of two values has the greater of their numbers. -/
theorem OrderedBy.toNat_greater (h : OrderedBy toNat) (a b : α) :
    toNat (greater a b) = max (toNat a) (toNat b) := by
  unfold greater
  split
  · next hless =>
      rw [h.lt_iff] at hless
      omega
  · next hless =>
      rw [h.lt_iff] at hless
      omega

theorem OrderedBy.toNat_foldl_greater (h : OrderedBy toNat) (as : List α) (a : α) :
    toNat (as.foldl greater a) = (as.map toNat).foldl max (toNat a) := by
  induction as generalizing a with
  | nil => rfl
  | cons b as ih =>
      rw [List.foldl_cons, ih, h.toNat_greater]
      rfl

/-- **The greatest value has the greatest of the numbers.** -/
theorem OrderedBy.map_greatest? (h : OrderedBy toNat) (as : List α) :
    (greatest? as).map toNat = (as.map toNat).max? := by
  cases as with
  | nil => rfl
  | cons a as =>
      rw [List.map_cons, List.max?_cons', ← h.toNat_foldl_greater]
      rfl

theorem OrderedBy.greatest?_eq_some_iff (h : OrderedBy toNat) (as : List α) (m : α) :
    greatest? as = some m ↔ m ∈ as ∧ ∀ a ∈ as, toNat a ≤ toNat m := by
  have hmap : greatest? as = some m ↔ (as.map toNat).max? = some (toNat m) := by
    rw [← h.map_greatest?, Option.map_eq_some_iff]
    constructor
    · intro hm
      exact ⟨m, hm, rfl⟩
    · rintro ⟨n, hn, heq⟩
      rw [hn, h.injective heq]
  rw [hmap, List.max?_eq_some_iff, List.forall_mem_map, List.mem_map_of_injective h.injective]

variable [DecidableEq α]

theorem mem_insertDistinct (a b : α) (as : List α) : b ∈ insertDistinct a as ↔ b = a ∨ b ∈ as := by
  induction as with
  | nil => simp [insertDistinct]
  | cons c as ih =>
      unfold insertDistinct
      split
      · simp
      · split
        · next heq => simp [heq]
        · simp only [List.mem_cons, ih]
          exact or_left_comm

/-- Sorting neither loses a value nor makes one up. -/
theorem mem_sortDistinct (b : α) (as : List α) : b ∈ sortDistinct as ↔ b ∈ as := by
  induction as with
  | nil => rfl
  | cons a as ih =>
      show b ∈ insertDistinct a (sortDistinct as) ↔ _
      rw [mem_insertDistinct, ih, List.mem_cons]

/-- **Inserting a value keeps the numbers ascending.** -/
theorem OrderedBy.pairwise_insertDistinct (h : OrderedBy toNat) (a : α) {as : List α}
    (has : as.Pairwise fun a b => toNat a < toNat b) :
    (insertDistinct a as).Pairwise fun a b => toNat a < toNat b := by
  induction as with
  | nil => simp [insertDistinct]
  | cons b as ih =>
      obtain ⟨hfirst, hrest⟩ := List.pairwise_cons.mp has
      unfold insertDistinct
      split
      · next hless =>
          -- `a` is below the first, and so below the others
          rw [h.lt_iff] at hless
          refine List.pairwise_cons.mpr ⟨?_, has⟩
          intro c hc
          rcases List.mem_cons.mp hc with hc | hc
          · rw [hc]
            exact hless
          · have hc := hfirst c hc
            omega
      · next hless =>
          split
          · exact has
          · next hne =>
              -- the first is below `a`, as it is neither above nor the same
              have hnumber : toNat a ≠ toNat b := fun e => hne (h.injective e)
              rw [h.lt_iff] at hless
              refine List.pairwise_cons.mpr ⟨?_, ih hrest⟩
              intro c hc
              rcases (mem_insertDistinct a c as).mp hc with hc | hc
              · rw [hc]
                omega
              · exact hfirst c hc

theorem OrderedBy.pairwise_sortDistinct (h : OrderedBy toNat) (as : List α) :
    (sortDistinct as).Pairwise fun a b => toNat a < toNat b := by
  induction as with
  | nil => exact List.Pairwise.nil
  | cons a as ih => exact h.pairwise_insertDistinct a ih

end Order

/-! ## §3. The values of several texts. -/

section Texts

variable {α β ε : Type} {f : α → Except ε β}

theorem exists_mapM_eq_ok {xs : List α} (h : ∀ x ∈ xs, ∃ y, f x = .ok y) :
    ∃ ys, xs.mapM f = .ok ys := by
  induction xs with
  | nil => exact ⟨[], rfl⟩
  | cons x xs ih =>
      obtain ⟨⟨y, hy⟩, hrest⟩ := List.forall_mem_cons.mp h
      obtain ⟨ys, hys⟩ := ih hrest
      refine ⟨y :: ys, ?_⟩
      rw [List.mapM_cons, hy, hys]
      rfl

/-- What has been made of a list is what has been made of its items. -/
theorem mem_iff_of_mapM_eq_ok {xs : List α} {ys : List β} (h : xs.mapM f = .ok ys) (y : β) :
    y ∈ ys ↔ ∃ x ∈ xs, f x = .ok y := by
  rw [Codec.mapM_eq_ok_iff] at h
  induction h with
  | nil => simp
  | cons hxy _ ih => simp [ih, hxy, eq_comm]

end Texts

namespace Spelling

variable {α : Type} [LT α] [∀ a b : α, Decidable (a < b)]

/-- The greatest value is read from a text with the greatest number. -/
theorem Numeric.greatest_iff {sp : Spelling α} {toNat : α → Nat} (h : sp.Numeric toNat)
    (horder : OrderedBy toNat) {texts : List String} {as : List α}
    (hall : ∀ s ∈ texts, ∃ a, sp.parse s = .ok a)
    (hmem : ∀ a, a ∈ as ↔ ∃ s ∈ texts, sp.parse s = .ok a) (a : α) :
    greatest? as = some a ↔
      ∃ s ∈ texts, sp.parse s = .ok a ∧ ∀ t ∈ texts, Hex.denoted t ≤ Hex.denoted s := by
  rw [horder.greatest?_eq_some_iff]
  constructor
  · intro ⟨ha, hgreatest⟩
    obtain ⟨s, hs, hparse⟩ := (hmem a).mp ha
    refine ⟨s, hs, hparse, ?_⟩
    intro t ht
    obtain ⟨b, hb⟩ := hall t ht
    rw [h.denoted_of_parse hb, h.denoted_of_parse hparse]
    exact hgreatest b ((hmem b).mpr ⟨t, ht, hb⟩)
  · intro ⟨s, hs, hparse, hgreatest⟩
    refine ⟨(hmem a).mpr ⟨s, hs, hparse⟩, ?_⟩
    intro b hb
    obtain ⟨t, ht, hb⟩ := (hmem b).mp hb
    rw [← h.denoted_of_parse hb, ← h.denoted_of_parse hparse]
    exact hgreatest t ht

/-! ## §4. The values of texts in order. -/

variable [DecidableEq α]

/-- The numbers of values after sorting and dropping the repeated ones, by their texts. -/
def sortedNumbers (sp : Spelling α) (as : List α) : List Nat :=
  (sortDistinct as).map fun a => Hex.denoted (sp.text a)

/-- What sorting, dropping repeated values and taking the greatest make of the values of texts. -/
structure Arranges (sp : Spelling α) (texts : List String) (as : List α) : Prop where
  /-- What is sorted are the values of the texts, -/
  mem_iff : ∀ a, a ∈ sortDistinct as ↔ ∃ s ∈ texts, sp.parse s = .ok a
  /-- with numbers that go up strictly, -/
  ascending : (sp.sortedNumbers as).Pairwise (· < ·)
  /-- and with one entry for each number that a text denotes, and for no other. -/
  count_eq : ∀ n, (sp.sortedNumbers as).count n = if n ∈ texts.map Hex.denoted then 1 else 0
  /-- The greatest value is that of a text with the greatest number; without texts there is none. -/
  greatest_iff : ∀ a, greatest? as = some a ↔
    ∃ s ∈ texts, sp.parse s = .ok a ∧ ∀ t ∈ texts, Hex.denoted t ≤ Hex.denoted s

/-- The order of values that have been read is that of the numbers that the texts denote. -/
structure OrderedByValue (sp : Spelling α) : Prop where
  lt_iff : ∀ s t a b, sp.parse s = .ok a → sp.parse t = .ok b →
    (a < b ↔ Hex.denoted s < Hex.denoted t)
  eq_iff : ∀ s t a b, sp.parse s = .ok a → sp.parse t = .ok b →
    (a = b ↔ Hex.denoted s = Hex.denoted t)
  /-- Texts each of which is read are read together, and their values are arranged by number. -/
  arranges : ∀ texts, (∀ s ∈ texts, ∃ a, sp.parse s = .ok a) →
    ∃ as, texts.mapM sp.parse = .ok as ∧ sp.Arranges texts as

namespace Numeric

variable {sp : Spelling α} {toNat : α → Nat}

theorem sortedNumbers_eq (h : sp.Numeric toNat) (as : List α) :
    sp.sortedNumbers as = (sortDistinct as).map toNat := by
  unfold sortedNumbers
  simp only [h.denoted_text]

/-- The numbers left after sorting are those that the texts denote. -/
theorem mem_sortedNumbers (h : sp.Numeric toNat) {texts : List String} {as : List α}
    (hall : ∀ s ∈ texts, ∃ a, sp.parse s = .ok a)
    (hmem : ∀ a, a ∈ sortDistinct as ↔ ∃ s ∈ texts, sp.parse s = .ok a) (n : Nat) :
    n ∈ sp.sortedNumbers as ↔ n ∈ texts.map Hex.denoted := by
  rw [h.sortedNumbers_eq, List.mem_map, List.mem_map]
  constructor
  · rintro ⟨a, ha, rfl⟩
    obtain ⟨s, hs, hparse⟩ := (hmem a).mp ha
    exact ⟨s, hs, h.denoted_of_parse hparse⟩
  · rintro ⟨s, hs, rfl⟩
    obtain ⟨a, hparse⟩ := hall s hs
    exact ⟨a, (hmem a).mpr ⟨s, hs, hparse⟩, (h.denoted_of_parse hparse).symm⟩

theorem arranges (h : sp.Numeric toNat) (horder : OrderedBy toNat) {texts : List String}
    {as : List α} (hall : ∀ s ∈ texts, ∃ a, sp.parse s = .ok a)
    (hread : texts.mapM sp.parse = .ok as) : sp.Arranges texts as := by
  have hmem : ∀ a, a ∈ as ↔ ∃ s ∈ texts, sp.parse s = .ok a := mem_iff_of_mapM_eq_ok hread
  have hsorted : ∀ a, a ∈ sortDistinct as ↔ ∃ s ∈ texts, sp.parse s = .ok a := by
    intro a
    rw [mem_sortDistinct, hmem]
  have hascending : (sp.sortedNumbers as).Pairwise (· < ·) := by
    rw [h.sortedNumbers_eq, List.pairwise_map]
    exact horder.pairwise_sortDistinct as
  refine ⟨hsorted, hascending, ?_, h.greatest_iff horder hall hmem⟩
  intro n
  have hnodup : (sp.sortedNumbers as).Nodup := hascending.imp Nat.ne_of_lt
  simp only [hnodup.count, h.mem_sortedNumbers hall hsorted n]

/-- **What is spelt as a number is ordered as its number.** -/
theorem orderedByValue (h : sp.Numeric toNat) (hlt : ∀ a b : α, a < b ↔ toNat a < toNat b) :
    sp.OrderedByValue where
  lt_iff s t a b hs ht := by
    rw [h.denoted_of_parse hs, h.denoted_of_parse ht, hlt]
  eq_iff := h.canonical.eq_iff
  arranges texts hall := by
    obtain ⟨as, hread⟩ := exists_mapM_eq_ok hall
    exact ⟨as, hread, h.arranges ⟨h.toNat_injective, hlt⟩ hall hread⟩

end Numeric

end Spelling

/-! ## §5. Words and quantities. -/

theorem Word.lt_iff_toNat_lt {k : WordKind} (v w : Word k) : v < w ↔ v.toNat < w.toNat :=
  Hex.lt_iff_bigEndianValue_lt (v.bytes.property.trans w.bytes.property.symm)

theorem Quantity.lt_iff_toNat_lt {k : QuantityKind} (q r : Quantity k) :
    q < r ↔ q.toNat < r.toNat := UInt64.lt_iff_toNat_lt

/-- **Hashes, addresses, field elements, public keys and roots, amounts and numbers: values that
have been read are ordered as the numbers that their texts denote, however these are spelt.  Sorted
and without repeated values they are strictly ascending numbers, one for each that is denoted, and
the greatest of them is read from a text that denotes the greatest number.** -/
theorem ordered_by_value :
    (∀ k : WordKind, (Word.spelling : Spelling (Word k)).OrderedByValue) ∧
      ∀ k : QuantityKind, (Quantity.spelling : Spelling (Quantity k)).OrderedByValue :=
  ⟨fun _ => Word.numeric.orderedByValue Word.lt_iff_toNat_lt,
    fun _ => Quantity.numeric.orderedByValue Quantity.lt_iff_toNat_lt⟩

/-- With zeros in front the text of the lesser number is the longer one, and it comes first all the
same. -/
theorem ordered_by_value_spellings :
    ∃ v w : Hash, Word.parse "0x00Ff" = .ok v ∧ Word.parse "0x100" = .ok w ∧ v < w ∧
      ∃ as : List Hash, ["0x100", "0x00Ff", "0xff"].mapM Word.parse = .ok as ∧
        (Word.spelling : Spelling Hash).Arranges ["0x100", "0x00Ff", "0xff"] as ∧
        greatest? as = some w := by
  obtain ⟨v, hv⟩ : ∃ v : Hash, Word.parse "0x00Ff" = .ok v := ⟨_, rfl⟩
  obtain ⟨w, hw⟩ : ∃ w : Hash, Word.parse "0x100" = .ok w := ⟨_, rfl⟩
  have horder := ordered_by_value.1 .hash
  have hless : v < w := (horder.lt_iff "0x00Ff" "0x100" v w hv hw).mpr (by decide)
  have hall : ∀ s ∈ ["0x100", "0x00Ff", "0xff"],
      ∃ a : Hash, (Word.spelling : Spelling Hash).parse s = .ok a := by
    simp only [List.forall_mem_cons]
    exact ⟨⟨_, rfl⟩, ⟨_, rfl⟩, ⟨_, rfl⟩, by simp⟩
  obtain ⟨as, hread, harranges⟩ := horder.arranges _ hall
  refine ⟨v, w, hv, hw, hless, as, hread, harranges, ?_⟩
  exact (harranges.greatest_iff w).mpr ⟨"0x100", by simp, hw, by decide⟩

example : (["0x100", "0x00Ff", "0xff"].mapM Word.parse).map
    (fun as : List Hash => (sortDistinct as).map Word.text) = .ok ["0xff", "0x100"] := by rfl

end NodeClient
