/-
  NodeClient.Proofs.Text.Split
  ────────────────────────────
  Texts cut at a character.

  No piece has the character that the text was cut at (`mem_of_mem_splitAt`), and pieces without it
  come back out of the text they make (`splitAt_joinWith`).
-/
import NodeClient.Text.Split

namespace NodeClient.Text

variable {mark : Char} {s : List Char}

/-! ## §1. Pieces. -/

theorem splitAt_eq_splitOn (mark : Char) (s : List Char) : splitAt mark s = s.splitOn mark := by
  induction s with
  | nil => rw [splitAt, List.splitOn_nil]
  | cons c rest ih =>
      rw [splitAt, List.splitOn_cons_eq_if_modifyHead, ← ih]
      by_cases hc : c = mark
      · rw [if_pos hc, if_pos (beq_iff_eq.mpr hc)]
      · rw [if_neg hc, if_neg (mt beq_iff_eq.mp hc)]
        cases hpieces : splitAt mark rest with
        | cons piece pieces => rfl
        | nil =>
            rw [ih] at hpieces
            exact absurd hpieces (List.splitOn_ne_nil mark rest)

theorem splitAt_ne_nil (mark : Char) (s : List Char) : splitAt mark s ≠ [] := by
  rw [splitAt_eq_splitOn]
  exact List.splitOn_ne_nil mark s

theorem splitAt_joinWith {pieces : List (List Char)} (hne : pieces ≠ [])
    (h : ∀ piece ∈ pieces, mark ∉ piece) : splitAt mark (joinWith mark pieces) = pieces := by
  rw [splitAt_eq_splitOn]
  exact List.splitOn_intercalate mark h hne

/-- The first piece goes on until the mark. -/
theorem splitAt_cons_of_ne {c : Char} (hc : c ≠ mark) :
    ∃ piece pieces, splitAt mark s = piece :: pieces ∧
      splitAt mark (c :: s) = (c :: piece) :: pieces := by
  cases hpieces : splitAt mark s with
  | nil => exact absurd hpieces (splitAt_ne_nil mark s)
  | cons piece pieces =>
      refine ⟨piece, pieces, rfl, ?_⟩
      rw [splitAt, if_neg hc, hpieces]

/-- The characters of a piece are characters of the text, and none of them is the mark. -/
theorem mem_of_mem_splitAt {piece : List Char} (hpiece : piece ∈ splitAt mark s) :
    ∀ c ∈ piece, c ∈ s ∧ c ≠ mark := by
  induction s generalizing piece with
  | nil =>
      rw [splitAt, List.mem_singleton] at hpiece
      rw [hpiece]
      exact List.forall_mem_nil _
  | cons d rest ih =>
      -- the first character begins a piece or belongs to the first one; the others are as below
      have hbelow : ∀ p ∈ splitAt mark rest, ∀ c ∈ p, c ∈ d :: rest ∧ c ≠ mark := by
        intro p hp c hc
        exact ⟨List.mem_cons_of_mem d (ih hp c hc).1, (ih hp c hc).2⟩
      by_cases hd : d = mark
      · rw [splitAt, if_pos hd, List.mem_cons] at hpiece
        rcases hpiece with rfl | hp
        · exact List.forall_mem_nil _
        · exact hbelow piece hp
      · obtain ⟨first, others, hrest, hall⟩ := splitAt_cons_of_ne (s := rest) hd
        rw [hrest] at hbelow
        rw [hall, List.mem_cons] at hpiece
        rcases hpiece with rfl | hp
        · exact List.forall_mem_cons.mpr
            ⟨⟨List.mem_cons_self, hd⟩, hbelow first List.mem_cons_self⟩
        · exact hbelow piece (List.mem_cons_of_mem first hp)

/-- The characters of pieces that are put together. -/
theorem mem_joinWith {c : Char} {pieces : List (List Char)} (h : c ∈ joinWith mark pieces) :
    c = mark ∨ ∃ piece ∈ pieces, c ∈ piece := by
  induction pieces with
  | nil => cases h
  | cons first others ih =>
      by_cases hothers : others = []
      · rw [hothers, joinWith, List.intercalate_singleton] at h
        exact .inr ⟨first, List.mem_cons_self, h⟩
      · rw [joinWith, List.intercalate_cons_of_ne_nil hothers, List.mem_append, List.mem_append,
          List.mem_singleton] at h
        rcases h with (h | h) | h
        · exact .inr ⟨first, List.mem_cons_self, h⟩
        · exact .inl h
        · rcases ih h with h | ⟨piece, hpiece, hc⟩
          · exact .inl h
          · exact .inr ⟨piece, List.mem_cons_of_mem first hpiece, hc⟩

/-! ## §2. Two parts. -/

/-- The first part ends where the mark stands for the first time. -/
theorem cut?_eq_some_iff {before behind : List Char} :
    cut? mark s = some (before, behind) ↔ s = before ++ mark :: behind ∧ mark ∉ before := by
  induction s generalizing before with
  | nil =>
      refine iff_of_false ?_ ?_
      · intro h
        cases h
      · rintro ⟨h, _⟩
        exact List.cons_ne_nil _ _ (List.append_eq_nil_iff.mp h.symm).2
  | cons c rest ih =>
      rw [cut?]
      by_cases hc : c = mark
      · rw [if_pos hc, Option.some.injEq, Prod.mk.injEq]
        constructor
        · rintro ⟨rfl, rfl⟩
          exact ⟨by rw [hc]; rfl, List.not_mem_nil⟩
        · rintro ⟨h, hmark⟩
          -- nothing can stand before a mark that comes first
          cases before with
          | nil => exact ⟨rfl, (List.cons.inj h).2⟩
          | cons d before =>
              rw [List.cons_append, List.cons.injEq] at h
              exact absurd (List.mem_cons.mpr (.inl (hc.symm.trans h.1))) hmark
      · rw [if_neg hc, Option.map_eq_some_iff]
        constructor
        · rintro ⟨⟨first, second⟩, hcut, h⟩
          rw [Prod.mk.injEq] at h
          obtain ⟨rfl, rfl⟩ := h
          obtain ⟨hrest, hmark⟩ := ih.mp hcut
          refine ⟨by rw [hrest]; rfl, ?_⟩
          rw [List.mem_cons]
          rintro (h | h)
          · exact hc h.symm
          · exact hmark h
        · rintro ⟨h, hmark⟩
          cases before with
          | nil => exact absurd (List.cons.inj h).1 hc
          | cons d before =>
              rw [List.cons_append, List.cons.injEq] at h
              obtain ⟨rfl, hrest⟩ := h
              exact ⟨(before, behind),
                ih.mpr ⟨hrest, fun hmem => hmark (List.mem_cons_of_mem c hmem)⟩, rfl⟩

theorem cut?_append {before : List Char} (h : mark ∉ before) (behind : List Char) :
    cut? mark (before ++ mark :: behind) = some (before, behind) :=
  cut?_eq_some_iff.mpr ⟨rfl, h⟩

theorem cut?_eq_none_iff : cut? mark s = none ↔ mark ∉ s := by
  induction s with
  | nil => exact iff_of_true rfl List.not_mem_nil
  | cons c rest ih =>
      rw [cut?, List.mem_cons, not_or]
      by_cases hc : c = mark
      · rw [if_pos hc]
        refine iff_of_false ?_ (fun h => h.1 hc.symm)
        intro h
        cases h
      · rw [if_neg hc, Option.map_eq_none_iff, ih]
        exact (and_iff_right fun h => hc h.symm).symm

/-- What follows a lead. -/
theorem after?_eq_some_iff {lead rest : List Char} :
    after? lead s = some rest ↔ s = lead ++ rest := by
  induction lead generalizing s with
  | nil => rw [after?, Option.some.injEq, List.nil_append]
  | cons c lead ih =>
      cases s with
      | nil =>
          refine iff_of_false ?_ (List.cons_ne_nil c _).symm
          intro h
          cases h
      | cons d s =>
          rw [after?, List.cons_append, List.cons.injEq]
          by_cases hc : c = d
          · rw [if_pos hc, ih]
            exact (and_iff_right hc.symm).symm
          · rw [if_neg hc]
            refine iff_of_false ?_ (fun h => hc h.1.symm)
            intro h
            cases h

theorem after?_eq_none {lead : List Char} (h : ¬lead <+: s) : after? lead s = none := by
  cases hafter : after? lead s with
  | none => rfl
  | some rest => exact absurd ⟨rest, (after?_eq_some_iff.mp hafter).symm⟩ h

end NodeClient.Text
