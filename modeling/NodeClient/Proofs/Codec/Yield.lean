/-
  NodeClient.Proofs.Codec.Yield
  ─────────────────────────────
  What is known of a value because it has been read.

  `c.Yields P` says that whatever `c` reads has `P`, also when it is read from an object with
  repeated keys or from an array.  In a lawful record the constructor takes the fields in their
  order, so each field of what is read holds a value that the field can have
  (`Record.gives_of_decode`), and, if it is read from an object, the one that stands there under
  its name (`Record.reads_of_decode`).
-/
import NodeClient.Proofs.Codec.RoundTrip

namespace NodeClient

open Json

/-! ## §1. Codecs. -/

namespace Codec

variable {α : Type}

/-- Every value that is read has `P`. -/
def Yields (c : Codec α) (P : α → Prop) : Prop := ∀ v a, c.decode v = .ok a → P a

theorem yields_true (c : Codec α) : c.Yields fun _ => True := fun _ _ _ => trivial

/-- A type that is written as a text is read from texts only. -/
theorem decode_ofText_eq_ok_iff {expected : String} {parse : String → Except String α}
    {render : α → String} {v : Value} {a : α} :
    (ofText expected parse render).decode v = .ok a ↔ ∃ s, v = .string s ∧ parse s = .ok a := by
  constructor
  · intro h
    cases v with
    | string s =>
        refine ⟨s, rfl, ?_⟩
        have hparse : (parse s).mapError Mismatch.refused = .ok a := h
        cases hs : parse s with
        | error e =>
            rw [hs] at hparse
            cases hparse
        | ok b =>
            rw [hs] at hparse
            cases hparse
            rfl
    | null => cases h
    | bool b => cases h
    | number n => cases h
    | array items => cases h
    | object ms => cases h
  · rintro ⟨s, rfl, hs⟩
    show (parse s).mapError Mismatch.refused = .ok a
    rw [hs]
    rfl

theorem Yields.list {c : Codec α} {P : α → Prop} (h : c.Yields P) :
    c.list.Yields fun as => ∀ a ∈ as, P a := by
  intro v as hdecode
  cases v with
  | array items =>
      have hitems := (mapM_eq_ok_iff c.decode items as).mp hdecode
      induction hitems with
      | nil => exact fun a ha => absurd ha List.not_mem_nil
      | cons hv hrest ih =>
          exact List.forall_mem_cons.mpr ⟨h _ _ hv, ih ((mapM_eq_ok_iff _ _ _).mpr hrest)⟩
  | null => cases hdecode
  | bool b => cases hdecode
  | number n => cases hdecode
  | string s => cases hdecode
  | object ms => cases hdecode

theorem Yields.optional {c : Codec α} {P : α → Prop} (h : c.Yields P) :
    c.optional.Yields fun o => ∀ a ∈ o, P a := by
  intro v o hdecode a ha
  have hsome : (c.decode v).map some = .ok o := by
    cases v with
    | null =>
        cases hdecode
        cases ha
    | bool b => exact hdecode
    | number n => exact hdecode
    | string s => exact hdecode
    | array items => exact hdecode
    | object ms => exact hdecode
  cases hv : c.decode v with
  | error e =>
      rw [hv] at hsome
      cases hsome
  | ok b =>
      rw [hv] at hsome
      cases hsome
      cases ha
      exact h v _ hv

end Codec

/-! ## §2. Lawful records. -/

/-- The field is one of the fields. -/
inductive Fields.Has {ρ α : Type} (f : Field ρ α) : {κ : Type} → Fields ρ κ → Prop where
  | here {κ : Type} {rest : Fields ρ κ} : Has f (.field f rest)
  | there {β κ : Type} {g : Field ρ β} {rest : Fields ρ κ} : Has f rest → Has f (.field g rest)

namespace Fields

variable {ρ : Type}

/-- The record is the constructor applied to values that stand in the relation `T` to the
fields. -/
def MadeBy (T : {α : Type} → Field ρ α → α → Prop) : {κ : Type} → Fields ρ κ → κ → ρ → Prop
  | _, done, make, r => make = r
  | _, field f rest, make, r => ∃ a, T f a ∧ rest.MadeBy T (make a) r

/-- Whatever the constructor is applied to, the record has `Q`. -/
def Always (Q : ρ → Prop) : {κ : Type} → Fields ρ κ → κ → Prop
  | _, done, make => Q make
  | _, field _ rest, make => ∀ a, rest.Always Q (make a)

/-- Each field shows what the constructor has taken for it. -/
def Lawful : {κ : Type} → Fields ρ κ → κ → Prop
  | _, done, _ => True
  | _, field f rest, make =>
      ∀ a, rest.Always (fun r => f.get r = a) (make a) ∧ rest.Lawful (make a)

theorem MadeBy.of_always {T : {α : Type} → Field ρ α → α → Prop} {Q : ρ → Prop} {κ : Type}
    {fields : Fields ρ κ} {make : κ} {r : ρ} (h : fields.MadeBy T make r)
    (hQ : fields.Always Q make) : Q r := by
  induction fields with
  | done => exact h ▸ hQ
  | field f rest ih =>
      obtain ⟨a, _, hrest⟩ := h
      exact ih hrest (hQ a)

/-- **In a lawful record the relation holds between each field and what it shows.** -/
theorem Lawful.of_has {T : {α : Type} → Field ρ α → α → Prop} {κ : Type}
    {fields : Fields ρ κ} {make : κ} {r : ρ} (hlawful : fields.Lawful make)
    (h : fields.MadeBy T make r) {α : Type} {f : Field ρ α} (hf : fields.Has f) :
    T f (f.get r) := by
  induction hf with
  | here =>
      obtain ⟨a, ha, hrest⟩ := h
      have hget : f.get r = a := hrest.of_always (hlawful a).1
      exact hget ▸ ha
  | there _ ih =>
      obtain ⟨a, _, hrest⟩ := h
      exact ih (hlawful a).2 hrest

end Fields

/-! ## §3. Objects. -/

/-- The search for a key has only looked at the first member that has it. -/
theorem findMember_eq_value {ε α : Type} {key : String} {decode : Value → Except ε α} {again : ε}
    {otherwise : Nat → Outcome ε α} {a : α} :
    ∀ {place : Nat} {ms : Members},
      findMember (fun m => m.1 == key) (fun m => decode m.2) again otherwise place ms = .value a →
      match ms.get? key with
      | none => ∃ place, otherwise place = .value a
      | some v => decode v = .ok a := by
  intro place ms
  induction ms generalizing place with
  | nil =>
      intro h
      exact ⟨place, h⟩
  | cons m ms ih =>
      intro h
      rw [findMember] at h
      rw [Members.get?, Members.lookup_cons]
      by_cases hm : m.1 = key
      · rw [if_pos (beq_iff_eq.mpr hm)] at h
        rw [if_pos hm.symm]
        show decode m.2 = .ok a
        cases hd : decode m.2 with
        | error e =>
            rw [hd] at h
            cases h
        | ok b =>
            rw [hd] at h
            -- the key may be there again, but then there is no value
            cases hagain : ms.findIdx? (fun m => m.1 == key) with
            | none =>
                rw [hagain] at h
                cases h
                rfl
            | some i =>
                rw [hagain] at h
                cases h
      · rw [if_neg (by simpa using hm)] at h
        rw [if_neg (fun e => hm e.symm)]
        exact ih h

theorem Field.reads_of_fromMembers {ρ α : Type} {f : Field ρ α} {ms : Members} {a : α}
    (h : f.fromMembers ms = .value a) : f.Reads ms.get? a := by
  have hfound := findMember_eq_value h
  unfold Field.Reads
  cases hget : ms.get? f.name with
  | some v =>
      rw [hget] at hfound
      exact hfound
  | none =>
      rw [hget] at hfound
      obtain ⟨place, hplace⟩ := hfound
      show f.absent = some a
      unfold Field.whenAbsent at hplace
      cases habsent : f.absent with
      | none =>
          rw [habsent] at hplace
          cases hplace
      | some b =>
          rw [habsent] at hplace
          cases hplace
          rfl

theorem Fields.madeBy_of_fromMembers {ρ κ : Type} {fields : Fields ρ κ} {ms : Members} {make : κ}
    {build : κ → ρ} (h : fields.fromMembers ms = .value build) :
    fields.MadeBy (fun f a => f.Reads ms.get? a) make (build make) := by
  induction fields with
  | done =>
      cases h
      rfl
  | field f rest ih =>
      obtain ⟨a, k, hf, hk, rfl⟩ := Outcome.join_eq_value_iff.mp h
      exact ⟨a, Field.reads_of_fromMembers hf, ih hk⟩

/-! ## §4. Arrays. -/

/-- The field can have this value in a record that has been read. -/
def Field.Gives {ρ α : Type} (f : Field ρ α) (a : α) : Prop :=
  f.absent = some a ∨ ∃ v, f.codec.decode v = .ok a

theorem Field.Reads.gives {ρ α : Type} {f : Field ρ α} {look : String → Option Value} {a : α}
    (h : f.Reads look a) : f.Gives a := by
  unfold Field.Reads at h
  cases hlook : look f.name with
  | none =>
      rw [hlook] at h
      exact .inl h
  | some v =>
      rw [hlook] at h
      exact .inr ⟨v, h⟩

namespace Fields

variable {ρ : Type}

theorem MadeBy.imp {T U : {α : Type} → Field ρ α → α → Prop}
    (hTU : ∀ {α : Type} (f : Field ρ α) (a : α), T f a → U f a) {κ : Type} {fields : Fields ρ κ}
    {make : κ} {r : ρ} (h : fields.MadeBy T make r) : fields.MadeBy U make r := by
  induction fields with
  | done => exact h
  | field f rest ih =>
      obtain ⟨a, ha, hrest⟩ := h
      exact ⟨a, hTU f a ha, ih hrest⟩

theorem madeBy_of_fromItems {expected : String} {total : Nat} {κ : Type} {fields : Fields ρ κ}
    {make : κ} {r : ρ} :
    ∀ {place : Nat} {items : List Value},
      fields.fromItems expected total make place items = .ok r →
      fields.MadeBy Field.Gives make r := by
  induction fields with
  | done =>
      intro place items h
      cases items with
      | nil =>
          cases h
          rfl
      | cons v vs => cases h
  | field f rest ih =>
      intro place items h
      cases items with
      | nil =>
          rw [fromItems] at h
          cases habsent : f.absent with
          | none =>
              rw [habsent] at h
              cases h
          | some a =>
              rw [habsent] at h
              exact ⟨a, .inl habsent, ih h⟩
      | cons v vs =>
          rw [fromItems] at h
          cases hv : f.codec.decode v with
          | error e =>
              rw [hv] at h
              cases h
          | ok a =>
              rw [hv] at h
              exact ⟨a, .inr ⟨v, hv⟩, ih h⟩

/-- Behind this many fields there is one that must be there. -/
def needsBeyond : Nat → {κ : Type} → Fields ρ κ → Bool
  | _, _, done => false
  | 0, _, field f rest => f.absent.isNone || rest.needsBeyond 0
  | n + 1, _, field _ rest => rest.needsBeyond n

/-- An array that is read as a record has no item too many and none too few. -/
theorem length_of_fromItems {expected : String} {total : Nat} {κ : Type} {fields : Fields ρ κ}
    {make : κ} {r : ρ} :
    ∀ {place : Nat} {items : List Value},
      fields.fromItems expected total make place items = .ok r →
      items.length ≤ fields.names.length ∧ fields.needsBeyond items.length = false := by
  induction fields with
  | done =>
      intro place items h
      cases items with
      | nil => exact ⟨Nat.le_refl 0, rfl⟩
      | cons v vs => cases h
  | field f rest ih =>
      intro place items h
      cases items with
      | nil =>
          rw [fromItems] at h
          cases habsent : f.absent with
          | none =>
              rw [habsent] at h
              cases h
          | some a =>
              rw [habsent] at h
              refine ⟨Nat.zero_le _, ?_⟩
              show (f.absent.isNone || rest.needsBeyond 0) = false
              rw [habsent]
              exact (ih h).2
      | cons v vs =>
          rw [fromItems] at h
          cases hv : f.codec.decode v with
          | error e =>
              rw [hv] at h
              cases h
          | ok a =>
              rw [hv] at h
              exact ⟨Nat.succ_le_succ (ih h).1, (ih h).2⟩

end Fields

/-! ## §5. What a record that has been read shows. -/

namespace Record

variable {ρ : Type} {r : Record ρ}

theorem madeBy_of_decode_object {ms : Members} {a : ρ} (h : r.decode (.object ms) = .ok a) :
    r.fields.MadeBy (fun f b => f.Reads ms.get? b) r.make a := by
  cases hbuild : r.fields.fromMembers ms with
  | value build =>
      rw [decode, hbuild] at h
      cases h
      exact Fields.madeBy_of_fromMembers hbuild
  | problem place e =>
      rw [decode, hbuild] at h
      cases h

/-- **What is read from an object shows in each field what stands there under its name.** -/
theorem reads_of_decode (hlawful : r.fields.Lawful r.make) {ms : Members} {a : ρ}
    (h : r.decode (.object ms) = .ok a) {α : Type} {f : Field ρ α} (hf : r.fields.Has f) :
    f.Reads ms.get? (f.get a) :=
  hlawful.of_has (madeBy_of_decode_object h) hf

/-- **Whatever is read shows in each field a value that the field can have.** -/
theorem gives_of_decode (hlawful : r.fields.Lawful r.make) {v : Value} {a : ρ}
    (h : r.decode v = .ok a) {α : Type} {f : Field ρ α} (hf : r.fields.Has f) :
    f.Gives (f.get a) := by
  refine hlawful.of_has (T := Field.Gives) ?_ hf
  cases v with
  | object ms => exact (madeBy_of_decode_object h).imp fun f b hb => hb.gives
  | array items => exact Fields.madeBy_of_fromItems h
  | null => cases h
  | bool b => cases h
  | number n => cases h
  | string s => cases h

end Record

namespace Field

variable {ρ α : Type} {c : Codec α} {P : α → Prop}

/-- A field that must be there has been read from what stands there. -/
theorem Reads.required {name : String} {get : ρ → α} {look : String → Option Value} {a : α}
    (h : (Field.required name get c).Reads look a) :
    ∃ v, look name = some v ∧ c.decode v = .ok a := by
  unfold Field.Reads at h
  cases hlook : look name with
  | none =>
      rw [show (Field.required name get c).name = name from rfl, hlook] at h
      cases h
  | some v =>
      rw [show (Field.required name get c).name = name from rfl, hlook] at h
      exact ⟨v, rfl, h⟩

theorem Gives.required {name : String} {get : ρ → α} {a : α} (h : (required name get c).Gives a)
    (hc : c.Yields P) : P a := by
  rcases h with habsent | ⟨v, hv⟩
  · cases habsent
  · exact hc v a hv

theorem Gives.list {name : String} {get : ρ → List α} {as : List α}
    (h : (list name get c).Gives as) (hc : c.Yields P) : ∀ a ∈ as, P a := by
  rcases h with habsent | ⟨v, hv⟩
  · cases habsent
    exact fun a ha => absurd ha List.not_mem_nil
  · exact hc.list v as hv

theorem Gives.optional {name : String} {get : ρ → Option α} {o : Option α}
    (h : (optional name get c).Gives o) (hc : c.Yields P) : ∀ a ∈ o, P a := by
  rcases h with habsent | ⟨v, hv⟩
  · cases habsent
    intro a ha
    cases ha
  · exact hc.optional v o hv

end Field

end NodeClient
