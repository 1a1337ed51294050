/-
  NodeClient.Proofs.Result
  ────────────────────────
  When steps that can fail have all gone well.
-/

namespace NodeClient

variable {ε α β : Type}

/-- Of two steps in a row the second goes on with what the first has found. -/
theorem bind_eq_ok_iff (x : Except ε α) (f : α → Except ε β) (b : β) :
    (x >>= f) = .ok b ↔ ∃ a, x = .ok a ∧ f a = .ok b := by
  cases x <;> simp [bind, Except.bind]

theorem map_eq_ok_iff (x : Except ε α) (f : α → β) (b : β) :
    x.map f = .ok b ↔ ∃ a, x = .ok a ∧ f a = b := by
  cases x with
  | error e =>
      refine iff_of_false ?_ ?_
      · intro h
        cases h
      · rintro ⟨_, h, _⟩
        cases h
  | ok a =>
      constructor
      · intro h
        exact ⟨a, rfl, Except.ok.inj h⟩
      · rintro ⟨_, h, hf⟩
        cases h
        exact congrArg Except.ok hf

theorem mapError_eq_ok_iff {ε' : Type} (x : Except ε α) (f : ε → ε') (a : α) :
    x.mapError f = .ok a ↔ x = .ok a := by
  cases x with
  | error e =>
      refine iff_of_false ?_ ?_
      · intro h
        cases h
      · intro h
        cases h
  | ok b =>
      show Except.ok b = Except.ok a ↔ _
      rw [Except.ok.injEq, Except.ok.injEq]

theorem toOption_eq_some_iff (x : Except ε α) (a : α) : x.toOption = some a ↔ x = .ok a := by
  cases x with
  | error e =>
      refine iff_of_false ?_ ?_
      · intro h
        cases h
      · intro h
        cases h
  | ok b =>
      show some b = some a ↔ _
      rw [Option.some.injEq, Except.ok.injEq]

/-- What follows a check is reached only if the check finds nothing. -/
theorem of_check_eq_ok {found : Prop} [Decidable found] {e : ε} {next : PUnit → Except ε α} {a : α}
    (h : (if found then (throw e : Except ε PUnit) >>= next else next ⟨⟩) = .ok a) :
    ¬found ∧ next ⟨⟩ = .ok a := by
  by_cases hfound : found
  · rw [if_pos hfound] at h
    cases h
  · rw [if_neg hfound] at h
    exact ⟨hfound, h⟩

end NodeClient
