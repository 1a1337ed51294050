/-
  NodeClient.Proofs.Text.Token
  ────────────────────────────
  What counts of a text that is compared with a token.

  The core of a text is what stands between the white space at its ends; it is what trimming
  leaves (`trim_eq_iff`).  Letters are alike if they are the same or the two forms of one of the
  26 ASCII letters, and texts are equal up to case if they are alike letter by letter
  (`equalsIgnoringCase_iff_alike`).
-/
import Mathlib.Data.List.Forall2
import Mathlib.Data.List.TakeWhile
import NodeClient.Text.Ascii
import NodeClient.Text.Blank

namespace NodeClient.Text

/-! ## §1. White space at the ends. -/

/-- The text is the core with white space before and behind it, and the core has none at its
ends. -/
structure IsCore (core s : List Char) : Prop where
  within : ∃ before behind, s = before ++ core ++ behind ∧ (∀ c ∈ before, isBlank c = true) ∧
    ∀ c ∈ behind, isBlank c = true
  first : ∀ c ∈ core.head?, isBlank c = false
  last : ∀ c ∈ core.getLast?, isBlank c = false

/-- Nothing is dropped from a text that does not start with what is to be dropped. -/
theorem dropWhile_of_head {p : Char → Bool} {s : List Char} (h : ∀ c ∈ s.head?, p c = false) :
    s.dropWhile p = s := by
  cases s with
  | nil => rfl
  | cons c s =>
      rw [List.dropWhile_cons, if_neg]
      rw [h c rfl]
      exact Bool.false_ne_true

theorem head?_dropWhile {p : Char → Bool} {s : List Char} :
    ∀ c ∈ (s.dropWhile p).head?, p c = false := by
  intro c hc
  have hno := List.head?_dropWhile_not p s
  rw [Option.mem_def.mp hc] at hno
  exact hno

theorem trim_isCore (s : List Char) : IsCore (trim s) s := by
  have hfront : s.takeWhile isBlank ++ s.dropWhile isBlank = s := List.takeWhile_append_dropWhile
  -- what is dropped at the end stands, in reverse, at the front of the reversed rest
  have hback : trim s ++ ((s.dropWhile isBlank).reverse.takeWhile isBlank).reverse
      = s.dropWhile isBlank := by
    unfold trim
    rw [← List.reverse_append, List.takeWhile_append_dropWhile, List.reverse_reverse]
  refine ⟨⟨s.takeWhile isBlank, ((s.dropWhile isBlank).reverse.takeWhile isBlank).reverse,
    ?_, ?_, ?_⟩, ?_, ?_⟩
  · rw [List.append_assoc, hback, hfront]
  · intro c hc
    exact List.mem_takeWhile_imp hc
  · intro c hc
    exact List.mem_takeWhile_imp (List.mem_reverse.mp hc)
  · intro c hc
    refine head?_dropWhile (s := s) c ?_
    rw [← hback, List.head?_append, Option.mem_def.mp hc]
    rfl
  · intro c hc
    unfold trim at hc
    rw [List.getLast?_reverse] at hc
    exact head?_dropWhile c hc

/-- **Trimming leaves the core of a text, and a text has one core only.** -/
theorem trim_eq_iff (s core : List Char) : trim s = core ↔ IsCore core s := by
  constructor
  · rintro rfl
    exact trim_isCore s
  · rintro ⟨⟨before, behind, rfl, hbefore, hbehind⟩, hfirst, hlast⟩
    have hend : ((core ++ behind).reverse.dropWhile isBlank).reverse = core := by
      rw [List.reverse_append,
        List.dropWhile_append_of_pos fun c hc => hbehind c (List.mem_reverse.mp hc),
        dropWhile_of_head (fun c hc => hlast c (List.head?_reverse ▸ hc)), List.reverse_reverse]
    unfold trim
    rw [List.append_assoc, List.dropWhile_append_of_pos hbefore]
    cases core with
    | nil =>
        -- without a core all is white space
        rw [List.nil_append, List.dropWhile_eq_nil_iff.mpr hbehind]
        rfl
    | cons c core =>
        rw [dropWhile_of_head (s := c :: core ++ behind) (fun d hd => hfirst d hd)]
        exact hend

/-! ## §2. The case of letters. -/

/-- The characters are the same, or the two forms of one of the 26 ASCII letters. -/
def Alike (c d : Char) : Prop :=
  c = d ∨ ∃ n < 26, (c.toNat = 65 + n ∧ d.toNat = 97 + n) ∨ (c.toNat = 97 + n ∧ d.toNat = 65 + n)

/-- The capital letters are moved by 32 places and all other characters stay. -/
theorem toNat_toLower (c : Char) :
    c.toLower.toNat = if 65 ≤ c.toNat ∧ c.toNat ≤ 90 then c.toNat + 32 else c.toNat := by
  have hcapital : (c.val ≥ 'A'.val ∧ c.val ≤ 'Z'.val) ↔ (65 ≤ c.toNat ∧ c.toNat ≤ 90) := Iff.rfl
  unfold Char.toLower
  by_cases h : 65 ≤ c.toNat ∧ c.toNat ≤ 90
  · rw [dif_pos (hcapital.mpr h), if_pos h]
    show (c.val + ('a'.val - 'A'.val)).toNat = c.val.toNat + 32
    have hlow : c.val.toNat ≤ 90 := h.2
    rw [UInt32.toNat_add, show ('a'.val - 'A'.val).toNat = 32 by rfl]
    omega
  · rw [dif_neg fun hc => h (hcapital.mp hc), if_neg h]

theorem toLower_eq_iff (c d : Char) : c.toLower = d.toLower ↔ Alike c d := by
  rw [Alike, ← Char.toNat_inj, ← Char.toNat_inj, toNat_toLower, toNat_toLower]
  constructor
  · intro h
    -- two capital letters, or two other characters, are moved alike
    by_cases hc : 65 ≤ c.toNat ∧ c.toNat ≤ 90 <;> by_cases hd : 65 ≤ d.toNat ∧ d.toNat ≤ 90
    · rw [if_pos hc, if_pos hd] at h
      exact .inl (by omega)
    · rw [if_pos hc, if_neg hd] at h
      exact .inr ⟨c.toNat - 65, by omega, .inl (by omega)⟩
    · rw [if_neg hc, if_pos hd] at h
      exact .inr ⟨d.toNat - 65, by omega, .inr (by omega)⟩
    · rw [if_neg hc, if_neg hd] at h
      exact .inl h
  · rintro (h | ⟨n, hn, h⟩)
    · rw [h]
    · split <;> split <;> omega

/-- **Texts are equal up to case if their characters are alike one by one.** -/
theorem equalsIgnoringCase_iff_alike (s t : List Char) :
    equalsIgnoringCase s t = true ↔ List.Forall₂ Alike s t := by
  have hletters : List.Forall₂ Alike s t ↔
      List.Forall₂ (· = ·) (s.map Char.toLower) (t.map Char.toLower) := by
    rw [List.forall₂_map_left_iff, List.forall₂_map_right_iff]
    exact ⟨fun h => h.imp fun c d => (toLower_eq_iff c d).mpr,
      fun h => h.imp fun c d => (toLower_eq_iff c d).mp⟩
  rw [hletters, List.forall₂_eq_eq_eq]
  exact beq_iff_eq

end NodeClient.Text
