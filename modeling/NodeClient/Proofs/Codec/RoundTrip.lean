/-
  NodeClient.Proofs.Codec.RoundTrip
  ─────────────────────────────────
  What comes back when a written value is read again.

  Between writing and reading a value takes its normal form.  `c.Rereads a b` says that reading
  back what `c` writes for `a` gives `b`; `c.Keeps P` says that exactly the values with `P` come
  back, each as itself.  Both are carried from the codecs of the parts to those of lists, fields
  and records, so that a record comes back exactly if all its fields do
  (`Record.rereads_iff`).
-/
import Mathlib.Data.List.Forall2
import NodeClient.Proofs.Codec.Reading

namespace NodeClient

open Json

namespace Codec

variable {α : Type}

/-! ## §1. Coming back. -/

/-- Reading back what is written for `a` gives `b`. -/
def Rereads (c : Codec α) (a b : α) : Prop := c.decode (c.encode a).normal = .ok b

/-- Exactly the values with `P` come back, and come back unchanged. -/
def Keeps (c : Codec α) (P : α → Prop) : Prop := ∀ a b, c.Rereads a b ↔ P a ∧ a = b

/-- Every value comes back unchanged. -/
abbrev KeepsAll (c : Codec α) : Prop := c.Keeps fun _ => True

theorem Keeps.self {c : Codec α} {P : α → Prop} (h : c.Keeps P) (a : α) :
    c.Rereads a a ↔ P a := by
  rw [h a a]
  exact and_iff_left rfl

theorem keepsAll_of {c : Codec α} (h : ∀ a, c.Rereads a a) : c.KeepsAll := by
  intro a b
  constructor
  · intro hab
    have hsame : (Except.ok a : Except Mismatch α) = .ok b := (h a).symm.trans hab
    injection hsame with hsame
    exact ⟨trivial, hsame⟩
  · rintro ⟨_, rfl⟩
    exact h a

/-! ## §2. Texts and lists. -/

theorem rereads_ofText {expected : String} {parse : String → Except String α}
    {render : α → String} (a b : α) :
    (ofText expected parse render).Rereads a b ↔ parse (render a) = .ok b := by
  show (parse (render a)).mapError Mismatch.refused = .ok b ↔ _
  cases parse (render a) <;> simp [Except.mapError]

theorem mapM_eq_ok_iff {ε β γ : Type} (f : β → Except ε γ) (xs : List β) (ys : List γ) :
    xs.mapM f = .ok ys ↔ List.Forall₂ (fun x y => f x = .ok y) xs ys := by
  induction xs generalizing ys with
  | nil => cases ys <;> simp [pure, Except.pure]
  | cons x xs ih =>
      rw [List.mapM_cons]
      cases hx : f x with
      | error e =>
          cases ys <;> simp [hx, bind, Except.bind]
      | ok y =>
          cases hxs : xs.mapM f with
          | error e =>
              cases ys <;> simp [← ih, hxs, bind, Except.bind]
          | ok ys' =>
              cases ys <;> simp [← ih, hx, hxs, bind, Except.bind, pure, Except.pure]

/-- A list comes back item by item. -/
theorem rereads_list (c : Codec α) (as bs : List α) :
    c.list.Rereads as bs ↔ List.Forall₂ c.Rereads as bs := by
  show (normalItems (as.map c.encode)).mapM c.decode = .ok bs ↔ _
  rw [normalItems_eq_map, List.map_map, mapM_eq_ok_iff, List.forall₂_map_left_iff]
  rfl

theorem Keeps.list {c : Codec α} {P : α → Prop} (h : c.Keeps P) :
    c.list.Keeps fun as => ∀ a ∈ as, P a := by
  intro as
  induction as with
  | nil =>
      intro bs
      rw [rereads_list, List.forall₂_nil_left_iff]
      simp [eq_comm]
  | cons a as ih =>
      intro bs
      rw [rereads_list, List.forall₂_cons_left_iff]
      constructor
      · rintro ⟨b, bs, hb, hbs, rfl⟩
        obtain ⟨ha, rfl⟩ := (h a b).mp hb
        obtain ⟨has, rfl⟩ := (ih bs).mp ((rereads_list c as bs).mpr hbs)
        exact ⟨List.forall_mem_cons.mpr ⟨ha, has⟩, rfl⟩
      · rintro ⟨hall, rfl⟩
        obtain ⟨ha, has⟩ := List.forall_mem_cons.mp hall
        exact ⟨a, as, (h.self a).mpr ha, (rereads_list c as as).mp ((ih as).mpr ⟨has, rfl⟩), rfl⟩

theorem KeepsAll.list {c : Codec α} (h : c.KeepsAll) : c.list.KeepsAll := by
  intro as bs
  rw [Keeps.list h as bs]
  simp

end Codec

/-! ## §3. Fields. -/

/-- Reading back the field of `r` gives `a`. -/
def Field.Rereads {ρ α : Type} (f : Field ρ α) (r : ρ) (a : α) : Prop :=
  if f.omits (f.get r) then f.absent = some a else f.codec.Rereads (f.get r) a

/-- Reading back the fields of `r` gives values from which the constructor makes `r'`. -/
def Fields.Rereads {ρ : Type} : {κ : Type} → Fields ρ κ → (r : ρ) → κ → (r' : ρ) → Prop
  | _, done, _, make, r' => make = r'
  | _, field f rest, r, make, r' => ∃ a, f.Rereads r a ∧ rest.Rereads r (make a) r'

@[simp] theorem Fields.rereads_done {ρ : Type} (r make r' : ρ) :
    (done : Fields ρ ρ).Rereads r make r' ↔ make = r' := Iff.rfl

@[simp] theorem Fields.rereads_field {ρ α κ : Type} (f : Field ρ α) (rest : Fields ρ κ) (r : ρ)
    (make : α → κ) (r' : ρ) :
    (field f rest).Rereads r make r' ↔ ∃ a, f.Rereads r a ∧ rest.Rereads r (make a) r' := Iff.rfl

namespace Field

variable {ρ α : Type}

theorem rereads_required {c : Codec α} {P : α → Prop} (h : c.Keeps P) (name : String)
    (get : ρ → α) (r : ρ) (a : α) :
    (required name get c).Rereads r a ↔ P (get r) ∧ get r = a := h (get r) a

theorem rereads_list {c : Codec α} {P : α → Prop} (h : c.Keeps P) (name : String)
    (get : ρ → List α) (r : ρ) (as : List α) :
    (list name get c).Rereads r as ↔ (∀ a ∈ get r, P a) ∧ get r = as := h.list (get r) as

/-- An optional value that is there comes back like any other, unless it looks like null. -/
theorem rereads_optional {c : Codec α} {P : α → Prop} (h : c.Keeps P)
    (hnull : ∀ a, (c.encode a).normal ≠ .null) (name : String) (get : ρ → Option α) (r : ρ)
    (o : Option α) : (optional name get c).Rereads r o ↔ (∀ a ∈ get r, P a) ∧ get r = o := by
  unfold Field.Rereads
  cases hr : get r with
  | none => simp [optional, hr]
  | some a =>
      -- what is written is not null, so it is read by the codec of the value
      have hdecode : c.optional.decode (c.encode a).normal
          = (c.decode (c.encode a).normal).map some := by
        simp only [Codec.optional]
        split
        · next heq => exact absurd heq (hnull a)
        · rfl
      have hsome : (c.decode (c.encode a).normal).map some = .ok o ↔
          ∃ b, c.Rereads a b ∧ some b = o := by
        unfold Codec.Rereads
        cases c.decode (c.encode a).normal <;> simp [Except.map]
      show (if (optional name get c).omits (get r) = true then _ else
        c.optional.decode (c.optional.encode (get r)).normal = .ok o) ↔ _
      rw [hr, if_neg (by simp [optional])]
      show c.optional.decode (c.encode a).normal = .ok o ↔ _
      rw [hdecode, hsome]
      constructor
      · rintro ⟨b, hb, rfl⟩
        obtain ⟨ha, rfl⟩ := (h a b).mp hb
        exact ⟨fun x hx => Option.some.inj hx ▸ ha, rfl⟩
      · rintro ⟨hall, rfl⟩
        exact ⟨a, (h.self a).mpr (hall a rfl), rfl⟩

end Field

/-! Where every value comes back, so does every field of such values. -/

namespace Codec.KeepsAll

variable {ρ α : Type} {c : Codec α}

theorem rereads_required (h : c.KeepsAll) (name : String) (get : ρ → α) (r : ρ) (a : α) :
    (Field.required name get c).Rereads r a ↔ get r = a :=
  (Field.rereads_required h name get r a).trans (and_iff_right trivial)

theorem rereads_list (h : c.KeepsAll) (name : String) (get : ρ → List α) (r : ρ) (as : List α) :
    (Field.list name get c).Rereads r as ↔ get r = as :=
  (Field.rereads_list h name get r as).trans (and_iff_right fun _ _ => trivial)

theorem rereads_optional (h : c.KeepsAll) (hnull : ∀ a, (c.encode a).normal ≠ .null)
    (name : String) (get : ρ → Option α) (r : ρ) (o : Option α) :
    (Field.optional name get c).Rereads r o ↔ get r = o :=
  (Field.rereads_optional h hnull name get r o).trans (and_iff_right fun _ _ => trivial)

end Codec.KeepsAll

/-! ## §4. Records. -/

namespace Fields

variable {ρ : Type}

theorem keys_toMembers (r : ρ) {κ : Type} (fields : Fields ρ κ) :
    (fields.toMembers r).keys.Sublist fields.names := by
  induction fields with
  | done => exact List.Sublist.slnil
  | field f rest ih =>
      rw [toMembers]
      split
      · exact ih.cons _
      · exact ih.cons_cons _

theorem distinct_toMembers (r : ρ) {κ : Type} {fields : Fields ρ κ} (h : fields.names.Nodup) :
    (fields.toMembers r).Distinct := (keys_toMembers r fields).nodup h

/-- The fields find, behind members with other keys, what was written for them. -/
theorem reads_toMembers (r r' : ρ) {κ : Type} (fields : Fields ρ κ) (make : κ) (ms : Members)
    (hnames : fields.names.Nodup) (hms : ∀ name ∈ fields.names, name ∉ ms.keys) :
    fields.Reads (fun key => (List.lookup key (ms ++ fields.toMembers r)).map Value.normal) make r'
      ↔ fields.Rereads r make r' := by
  induction fields generalizing ms with
  | done => exact Iff.rfl
  | field f rest ih =>
      obtain ⟨hfirst, hrest⟩ := List.nodup_cons.mp hnames
      have hf : f.name ∉ ms.keys := hms f.name List.mem_cons_self
      have hothers : ∀ name ∈ rest.names, name ∉ ms.keys :=
        fun name hn => hms name (List.mem_cons_of_mem _ hn)
      by_cases homit : f.omits (f.get r) = true
      · -- no field behind has the name of the one that is left out
        have hnone : List.lookup f.name (rest.toMembers r) = none :=
          Members.lookup_eq_none fun hm => hfirst ((keys_toMembers r rest).mem hm)
        have hwritten : (field f rest).toMembers r = rest.toMembers r := by
          rw [toMembers, if_pos homit]
        rw [hwritten]
        refine exists_congr fun a => and_congr ?_ (ih (make a) ms hrest hothers)
        unfold Field.Reads Field.Rereads
        simp only [Members.lookup_append hf, hnone, if_pos homit, Option.map_none]
      · -- for the fields behind, what is written here is one more member in front
        have hwritten : ms ++ (field f rest).toMembers r
            = (ms ++ [(f.name, f.codec.encode (f.get r))]) ++ rest.toMembers r := by
          rw [toMembers, if_neg homit, List.append_assoc]
          rfl
        rw [hwritten]
        refine exists_congr fun a => and_congr ?_ (ih (make a) _ hrest ?_)
        · unfold Field.Reads Field.Rereads
          simp only [List.append_assoc, Members.lookup_append hf, List.singleton_append,
            Members.lookup_cons, if_pos, if_neg homit, Option.map_some]
          exact Iff.rfl
        · intro name hn hm
          rw [Members.keys, List.map_append, List.mem_append] at hm
          rcases hm with hm | hm
          · exact hothers name hn hm
          · rw [List.map_singleton, List.mem_singleton] at hm
            subst hm
            exact hfirst hn

end Fields

namespace Record

variable {ρ : Type}

/-- **A record comes back, also from behind members that are not its own, exactly as its fields
do.** -/
theorem decode_normal_iff (r : Record ρ) (hnames : r.fields.names.Nodup) (ms : Members)
    (hms : ms.Distinct) (hothers : ∀ name ∈ r.fields.names, name ∉ ms.keys) (a b : ρ) :
    r.decode (Value.object (ms ++ r.fields.toMembers a)).normal = .ok b
      ↔ r.fields.Rereads a r.make b := by
  have hdistinct : Members.Distinct (ms ++ r.fields.toMembers a) := by
    rw [Members.Distinct, Members.keys, List.map_append]
    refine List.nodup_append.mpr ⟨hms, Fields.distinct_toMembers a hnames, ?_⟩
    intro key hm name hname heq
    exact hothers name ((Fields.keys_toMembers a r.fields).mem hname) (heq ▸ hm)
  have hlook : (normalObject (ms ++ r.fields.toMembers a)).get?
      = fun key => (List.lookup key (ms ++ r.fields.toMembers a)).map Value.normal :=
    funext (lookup_normalObject hdistinct)
  rw [normal_object, r.decode_object_iff (distinct_normalObject _), hlook]
  exact Fields.reads_toMembers a b r.fields r.make ms hnames hothers

theorem rereads_iff (r : Record ρ) (hnames : r.fields.names.Nodup) (a b : ρ) :
    r.codec.Rereads a b ↔ r.fields.Rereads a r.make b :=
  r.decode_normal_iff hnames [] List.nodup_nil (fun _ _ => List.not_mem_nil) a b

end Record

end NodeClient
