/-
  NodeClient.Proofs.Codec.Apart
  ─────────────────────────────
  **What is written tells values apart.**

  A value that comes back when it is read is told from all others by what is written for it.  But
  not every value that is told apart comes back: the token of an unknown value is written, though
  nobody reads it.  So that values are told apart is a law of its own, `c.TellsApart`, carried from
  the codecs of the parts to those of lists, optional values and fields.  A field may be left out,
  as long as it is left out for one value only (`Field.TellsApart`), and a record is told apart if
  all its fields are and it is nothing but its fields (`Fields.eq_of_written`).
-/
import Mathlib.Data.List.Basic
import NodeClient.Proofs.Codec.RoundTrip

namespace NodeClient

open Json

/-! ## §1. Codecs. -/

namespace Codec

variable {α : Type} {c : Codec α}

/-- What is written for two values is the same only if the values are. -/
def TellsApart (c : Codec α) : Prop := Function.Injective fun a => (c.encode a).normal

/-- Where every value comes back, values are told apart. -/
theorem KeepsAll.tellsApart (h : c.KeepsAll) : c.TellsApart := by
  intro a b hsame
  -- what is written for both is read as either
  have ha : c.decode (c.encode a).normal = .ok a := (h.self a).mpr trivial
  have hb : c.decode (c.encode b).normal = .ok b := (h.self b).mpr trivial
  have hsame' : (c.encode a).normal = (c.encode b).normal := hsame
  rw [hsame'] at ha
  exact Except.ok.inj (ha.symm.trans hb)

theorem TellsApart.list (h : c.TellsApart) : c.list.TellsApart := by
  intro as bs hsame
  have hitems : ∀ xs, (c.list.encode xs).normal = .array (xs.map fun a => (c.encode a).normal) := by
    intro xs
    show Value.array (normalItems (xs.map c.encode)) = _
    rw [normalItems_eq_map, List.map_map]
    rfl
  have hsame' : (c.list.encode as).normal = (c.list.encode bs).normal := hsame
  rw [hitems, hitems] at hsame'
  injection hsame' with hsame'
  exact List.map_injective_iff.mpr h hsame'

/-- A value that is there is told from none, unless it looks like null. -/
theorem TellsApart.optional (h : c.TellsApart) (hnull : ∀ a, (c.encode a).normal ≠ .null) :
    c.optional.TellsApart := by
  intro o o' hsame
  cases o with
  | none =>
      cases o' with
      | none => rfl
      | some b => exact absurd (Eq.symm hsame) (hnull b)
  | some a =>
      cases o' with
      | none => exact absurd hsame (hnull a)
      | some b => exact congrArg some (h hsame)

end Codec

/-! ## §2. Fields. -/

namespace Field

variable {ρ α : Type} {f : Field ρ α} {c : Codec α}

/-- What is written for a field, if it is not left out. -/
def written (f : Field ρ α) (r : ρ) : Option Value :=
  if f.omits (f.get r) then none else some (f.codec.encode (f.get r)).normal

/-- The values of a field are told apart, and no two are left out. -/
structure TellsApart (f : Field ρ α) : Prop where
  codec : f.codec.TellsApart
  omitted : ∀ a b, f.omits a = true → f.omits b = true → a = b

theorem TellsApart.get_eq (h : f.TellsApart) {r r' : ρ} (hsame : f.written r = f.written r') :
    f.get r = f.get r' := by
  unfold written at hsame
  by_cases homit : f.omits (f.get r) = true
  · by_cases homit' : f.omits (f.get r') = true
    · exact h.omitted _ _ homit homit'
    · rw [if_pos homit, if_neg homit'] at hsame
      cases hsame
  · by_cases homit' : f.omits (f.get r') = true
    · rw [if_neg homit, if_pos homit'] at hsame
      cases hsame
    · rw [if_neg homit, if_neg homit'] at hsame
      exact h.codec (Option.some.inj hsame)

/-- Fields that are always written are told apart as their values are. -/
theorem tellsApart_of_never (hf : f.codec.TellsApart) (hnever : ∀ a, f.omits a = false) :
    f.TellsApart where
  codec := hf
  omitted a _ ha := by
    rw [hnever a] at ha
    cases ha

theorem tellsApart_required (h : c.TellsApart) (name : String) (get : ρ → α) :
    (required name get c).TellsApart := tellsApart_of_never h fun _ => rfl

theorem tellsApart_list (h : c.TellsApart) (name : String) (get : ρ → List α) :
    (list name get c).TellsApart := tellsApart_of_never h.list fun _ => rfl

theorem tellsApart_optional (h : c.TellsApart) (hnull : ∀ a, (c.encode a).normal ≠ .null)
    (name : String) (get : ρ → Option α) : (optional name get c).TellsApart where
  codec := h.optional hnull
  omitted _ _ ha hb := (Option.isNone_iff_eq_none.mp ha).trans (Option.isNone_iff_eq_none.mp hb).symm

end Field

/-! ## §3. Records. -/

namespace Fields

variable {ρ : Type}

/-- Each field tells its values apart. -/
def TellApart : {κ : Type} → Fields ρ κ → Prop
  | _, done => True
  | _, field f rest => f.TellsApart ∧ rest.TellApart

/-- Both records show the same in each field. -/
def Agree : {κ : Type} → Fields ρ κ → ρ → ρ → Prop
  | _, done, _, _ => True
  | _, field f rest, r, r' => f.get r = f.get r' ∧ rest.Agree r r'

/-- The constructor applied to what the fields show of a record. -/
def rebuild : {κ : Type} → Fields ρ κ → κ → ρ → ρ
  | _, done, make, _ => make
  | _, field f rest, make, r => rest.rebuild (make (f.get r)) r

theorem Agree.rebuild_eq {κ : Type} {fields : Fields ρ κ} {r r' : ρ} (h : fields.Agree r r')
    (make : κ) : fields.rebuild make r = fields.rebuild make r' := by
  induction fields with
  | done => rfl
  | field f rest ih =>
      obtain ⟨hget, hrest⟩ := h
      rw [rebuild, rebuild, hget, ih hrest]

/-- A field stands under its name, and the names of the fields behind it are others. -/
theorem lookup_toMembers_self {α κ : Type} {f : Field ρ α} {rest : Fields ρ κ}
    (h : f.name ∉ rest.names) (r : ρ) :
    (List.lookup f.name ((field f rest).toMembers r)).map Value.normal = f.written r := by
  have hnone : List.lookup f.name (rest.toMembers r) = none :=
    Members.lookup_eq_none fun hmem => h ((keys_toMembers r rest).mem hmem)
  unfold toMembers Field.written
  by_cases homit : f.omits (f.get r) = true
  · rw [if_pos homit, if_pos homit, hnone]
    rfl
  · rw [if_neg homit, if_neg homit, Members.lookup_cons, if_pos rfl]
    rfl

theorem lookup_toMembers_of_ne {α κ : Type} {f : Field ρ α} {rest : Fields ρ κ} {key : String}
    (h : key ≠ f.name) (r : ρ) :
    List.lookup key ((field f rest).toMembers r) = List.lookup key (rest.toMembers r) := by
  rw [toMembers]
  -- the field may be left out
  split
  · rfl
  · rw [Members.lookup_cons, if_neg h]

/-- Records for which the same is written under each name agree in each field. -/
theorem agree_of_written {κ : Type} {fields : Fields ρ κ} (htell : fields.TellApart)
    (hnames : fields.names.Nodup) {r r' : ρ}
    (hsame : ∀ key ∈ fields.names, (List.lookup key (fields.toMembers r)).map Value.normal
      = (List.lookup key (fields.toMembers r')).map Value.normal) : fields.Agree r r' := by
  induction fields with
  | done => exact trivial
  | field f rest ih =>
      obtain ⟨hfirst, hnodup⟩ := List.nodup_cons.mp hnames
      refine ⟨htell.1.get_eq ?_, ih htell.2 hnodup ?_⟩
      · rw [← lookup_toMembers_self hfirst, ← lookup_toMembers_self hfirst]
        exact hsame f.name List.mem_cons_self
      · -- under the name of a field behind, the first one changes nothing
        intro key hkey
        have hne : key ≠ f.name := fun e => hfirst (e ▸ hkey)
        have hkeys := hsame key (List.mem_cons_of_mem _ hkey)
        rw [lookup_toMembers_of_ne hne, lookup_toMembers_of_ne hne] at hkeys
        exact hkeys

/-- **Records that are made of what their fields show are told apart by what is written under the
names of the fields.** -/
theorem eq_of_written {κ : Type} {fields : Fields ρ κ} {make : κ} (htell : fields.TellApart)
    (hnames : fields.names.Nodup) (hwhole : ∀ r, fields.rebuild make r = r) {r r' : ρ}
    (hsame : ∀ key ∈ fields.names, (List.lookup key (fields.toMembers r)).map Value.normal
      = (List.lookup key (fields.toMembers r')).map Value.normal) : r = r' := by
  rw [← hwhole r, ← hwhole r']
  exact (agree_of_written htell hnames hsame).rebuild_eq make

end Fields

end NodeClient
