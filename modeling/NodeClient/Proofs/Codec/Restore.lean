/-
  NodeClient.Proofs.Codec.Restore
  ───────────────────────────────
  Codecs that bring values back in a canonical form.

  What is written may tell less than the value it is written for.  Then reading it back gives the
  canonical form of the value, which is written in the same way.  `c.Restores P canonical` says
  this of the values with `P`, and that nothing else is ever read.  So a value comes back as
  itself exactly if it has `P` and is in canonical form (`Restores.self_iff`), and after one pass
  of reading and writing nothing changes any more (`Restores.settles`).
-/
import NodeClient.Proofs.Codec.Yield

namespace NodeClient

open Json

namespace Codec

variable {α : Type} {c : Codec α} {P : α → Prop} {canonical : α → α}

/-! ## §1. The laws. -/

/-- Values with `P` come back in canonical form, no others are read, and the canonical form is
written like the value itself. -/
structure Restores (c : Codec α) (P : α → Prop) (canonical : α → α) : Prop where
  comes_back : ∀ {a}, P a → c.Rereads a (canonical a)
  yields : c.Yields P
  encode_canonical : ∀ a, c.encode (canonical a) = c.encode a

/-- What comes back unchanged is its own canonical form. -/
theorem Keeps.restores (h : c.Keeps P) (hyields : c.Yields P) : c.Restores P id where
  comes_back := fun {a} ha => (h.self a).mpr ha
  yields := hyields
  encode_canonical _ := rfl

theorem KeepsAll.restores (h : c.KeepsAll) : c.Restores (fun _ => True) id :=
  Keeps.restores h c.yields_true

namespace Restores

/-! ## §2. What follows from them. -/

/-- **A value comes back as itself exactly if it has `P` and is in canonical form.** -/
theorem self_iff (h : c.Restores P canonical) (a : α) :
    c.Rereads a a ↔ P a ∧ canonical a = a := by
  constructor
  · intro hself
    have ha : P a := h.yields _ a hself
    have hsame : (Except.ok (canonical a) : Except Mismatch α) = .ok a :=
      (h.comes_back ha).symm.trans hself
    exact ⟨ha, Except.ok.inj hsame⟩
  · rintro ⟨ha, hcanonical⟩
    have hback := h.comes_back ha
    rw [hcanonical] at hback
    exact hback

/-- The canonical form comes back as itself. -/
theorem rereads_canonical (h : c.Restores P canonical) {a : α} (ha : P a) :
    c.Rereads (canonical a) (canonical a) := by
  unfold Rereads
  rw [h.encode_canonical]
  exact h.comes_back ha

/-- **Once a value has been read, writing and reading it brings it to a form that stays.** -/
theorem settles (h : c.Restores P canonical) {v : Value} {a : α} (hdecode : c.decode v = .ok a) :
    P a ∧ c.Rereads a (canonical a) ∧ c.Rereads (canonical a) (canonical a) :=
  have ha := h.yields v a hdecode
  ⟨ha, h.comes_back ha, h.rereads_canonical ha⟩

/-! ## §3. Lists. -/

theorem list (h : c.Restores P canonical) :
    c.list.Restores (fun as => ∀ a ∈ as, P a) (List.map canonical) where
  comes_back := by
    intro as hall
    rw [rereads_list, List.forall₂_map_right_iff, List.forall₂_same]
    exact fun a ha => h.comes_back (hall a ha)
  yields := h.yields.list
  encode_canonical := by
    intro as
    show Value.array ((as.map canonical).map c.encode) = .array (as.map c.encode)
    rw [List.map_map]
    exact congrArg Value.array (List.map_congr_left fun a _ => h.encode_canonical a)

end Restores

end Codec

/-! ## §4. Records. -/

/-- The fields are written alike for both records. -/
def Fields.Alike {ρ : Type} : {κ : Type} → Fields ρ κ → ρ → ρ → Prop
  | _, done, _, _ => True
  | _, field f rest, r, r' =>
      f.omits (f.get r) = f.omits (f.get r') ∧
        f.codec.encode (f.get r) = f.codec.encode (f.get r') ∧ rest.Alike r r'

theorem Fields.toMembers_congr {ρ κ : Type} {fields : Fields ρ κ} {r r' : ρ}
    (h : fields.Alike r r') : fields.toMembers r = fields.toMembers r' := by
  induction fields with
  | done => rfl
  | field f rest ih =>
      obtain ⟨homits, hencode, hrest⟩ := h
      simp only [toMembers, homits, hencode, ih hrest]

theorem Record.encode_congr {ρ : Type} {record : Record ρ} {r r' : ρ}
    (h : record.fields.Alike r r') : record.codec.encode r = record.codec.encode r' :=
  congrArg Value.object (Fields.toMembers_congr h)

end NodeClient
