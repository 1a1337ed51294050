/-
  NodeClient.Proofs.Codec.Reading
  ───────────────────────────────
  When a record is read from an object.

  An object in which no key occurs twice is looked at through its keys only: it reads as a record
  exactly if each field finds its value, under its name or as what stands for its absence, and
  the record is the constructor applied to these values (`decode_object_iff`).
-/
import NodeClient.Codec.Record
import NodeClient.Proofs.Json.Members

namespace NodeClient

open Json

/-! ## §1. What a field reads. -/

/-- The field finds `a` where `look` tells what a key stands for. -/
def Field.Reads {ρ α : Type} (f : Field ρ α) (look : String → Option Value) (a : α) : Prop :=
  match look f.name with
  | some v => f.codec.decode v = .ok a
  | none => f.absent = some a

/-- The fields find values from which the constructor makes `r`. -/
def Fields.Reads {ρ : Type} :
    {κ : Type} → Fields ρ κ → (look : String → Option Value) → κ → ρ → Prop
  | _, done, _, make, r => make = r
  | _, field f rest, look, make, r => ∃ a, f.Reads look a ∧ rest.Reads look (make a) r

theorem Field.reads_of_some {ρ α : Type} {f : Field ρ α} {look : String → Option Value}
    {v : Value} (h : look f.name = some v) (a : α) : f.Reads look a ↔ f.codec.decode v = .ok a := by
  unfold Field.Reads
  rw [h]

namespace Outcome

variable {ε α κ ρ : Type}

/-- Two readings joined have a value only if both have one. -/
theorem join_eq_value_iff {o : Outcome ε α} {g : Outcome ε (κ → ρ)} {h : (α → κ) → ρ} :
    o.join g = .value h ↔
      ∃ a k, o = .value a ∧ g = .value k ∧ (fun make => k (make a)) = h := by
  constructor
  · intro hj
    cases o with
    | value a =>
        cases g with
        | value k =>
            injection hj with hj
            exact ⟨a, k, rfl, rfl, hj⟩
        | problem q e => exact absurd hj (by simp [join])
    | problem p e =>
        cases g with
        | value k => exact absurd hj (by simp [join])
        | problem q e' =>
            simp only [join] at hj
            split at hj <;> exact absurd hj (by simp)
  · rintro ⟨a, k, rfl, rfl, rfl⟩
    rfl

end Outcome

/-! ## §2. A key among members. -/

/-- The search for a key that does not occur twice finds what the key stands for. -/
theorem findMember_of_distinct {ε α : Type} (key : String) (decode : Value → Except ε α)
    (again : ε) (otherwise : Nat → Outcome ε α) :
    ∀ (place : Nat) (ms : Members), ms.Distinct →
      findMember (fun m => m.1 == key) (fun m => decode m.2) again otherwise place ms
        = match ms.get? key with
          | none => otherwise (place + ms.length)
          | some v =>
              match decode v with
              | .error e => .problem (place + (ms.findIdx fun m => m.1 == key)) e
              | .ok a => .value a := by
  intro place ms
  induction ms generalizing place with
  | nil => intro _; rfl
  | cons m ms ih =>
      intro h
      obtain ⟨hkey, hrest⟩ := List.nodup_cons.mp h
      rw [findMember, Members.get?, Members.lookup_cons]
      by_cases hm : m.1 = key
      · -- the key is found, and not a second time behind
        have hnone : ms.findIdx? (fun m => m.1 == key) = none := by
          rw [List.findIdx?_eq_none_iff]
          intro m' hm'
          refine beq_eq_false_iff_ne.mpr fun e => hkey ?_
          rw [hm, ← e]
          exact List.mem_map_of_mem hm'
        rw [if_pos (beq_iff_eq.mpr hm), if_pos hm.symm, hnone, List.findIdx_cons,
            beq_iff_eq.mpr hm]
        cases hd : decode m.2 <;> simp [hd]
      · -- the search goes on one place further
        rw [if_neg (by simpa using hm), if_neg (fun e => hm e.symm), ih _ hrest,
            List.findIdx_cons, beq_eq_false_iff_ne.mpr hm, List.length_cons, Members.get?]
        cases ms.lookup key with
        | none => simp only [Nat.add_assoc, Nat.add_comm 1]
        | some v => simp only [Nat.add_assoc, Nat.add_comm 1, cond_false]

theorem Field.fromMembers_eq_value_iff {ρ α : Type} (f : Field ρ α) {ms : Members}
    (h : ms.Distinct) (a : α) : f.fromMembers ms = .value a ↔ f.Reads ms.get? a := by
  unfold Field.fromMembers Field.Reads
  rw [findMember_of_distinct _ f.codec.decode _ _ _ _ h]
  cases ms.get? f.name with
  | none =>
      unfold Field.whenAbsent
      cases f.absent <;> simp
  | some v => cases hd : f.codec.decode v <;> simp [hd]

/-- The search for a key that must be there finds the one member that has it. -/
theorem findMember_eq_value_iff {ε α : Type} {key : String} {decode : Value → Except ε α}
    {again : ε} {otherwise : Nat → Outcome ε α} (hmust : ∀ place a, otherwise place ≠ .value a)
    (a : α) (place : Nat) (ms : Members) :
    findMember (fun m => m.1 == key) (fun m => decode m.2) again otherwise place ms = .value a ↔
      ∃ v, ms.Sole key v ∧ decode v = .ok a := by
  induction ms generalizing place with
  | nil =>
      show otherwise place = .value a ↔ _
      constructor
      · intro h
        exact absurd h (hmust place a)
      · rintro ⟨v, hsole, _⟩
        exact absurd hsole.symm (List.cons_ne_nil _ _)
  | cons m ms ih =>
      rw [findMember]
      by_cases hm : m.1 = key
      · -- it is read, unless the key stands there again
        simp only [Members.sole_cons_self hm, beq_iff_eq.mpr hm, if_true]
        cases hd : decode m.2 with
        | error e => simp [hd]
        | ok b => cases ms.findIdx? (fun m => m.1 == key) <;> simp [hd]
      · rw [if_neg (by simpa using hm), ih]
        simp only [Members.sole_cons_of_ne hm]

theorem Field.fromMembers_required_iff {ρ α : Type} {name : String} {get : ρ → α} {c : Codec α}
    {ms : Members} (a : α) :
    (Field.required name get c).fromMembers ms = .value a ↔
      ∃ v, ms.Sole name v ∧ c.decode v = .ok a :=
  findMember_eq_value_iff (fun _ _ h => by cases h) a 0 ms

/-! ## §3. Records. -/

theorem Fields.fromMembers_eq_value_iff {ρ κ : Type} (fields : Fields ρ κ) {ms : Members}
    (h : ms.Distinct) (make : κ) (r : ρ) :
    (∃ build, fields.fromMembers ms = .value build ∧ build make = r)
      ↔ fields.Reads ms.get? make r := by
  induction fields with
  | done =>
      constructor
      · rintro ⟨build, hb, hr⟩
        injection hb with hb
        subst hb
        exact hr
      · intro hr
        exact ⟨id, rfl, hr⟩
  | field f rest ih =>
      constructor
      · rintro ⟨build, hb, hr⟩
        obtain ⟨a, k, hf, hk, rfl⟩ := Outcome.join_eq_value_iff.mp hb
        exact ⟨a, (f.fromMembers_eq_value_iff h a).mp hf, (ih (make a)).mp ⟨k, hk, hr⟩⟩
      · rintro ⟨a, hf, hrest⟩
        obtain ⟨k, hk, hr⟩ := (ih (make a)).mpr hrest
        refine ⟨fun make => k (make a), ?_, hr⟩
        exact Outcome.join_eq_value_iff.mpr
          ⟨a, k, (f.fromMembers_eq_value_iff h a).mpr hf, hk, rfl⟩

/-- **An object reads as a record exactly if its fields find the values of that record.** -/
theorem Record.decode_object_iff {ρ : Type} (r : Record ρ) {ms : Members} (h : ms.Distinct)
    (a : ρ) : r.decode (.object ms) = .ok a ↔ r.fields.Reads ms.get? r.make a := by
  rw [← r.fields.fromMembers_eq_value_iff h]
  cases hb : r.fields.fromMembers ms with
  | value build => simp [Record.decode, hb, Outcome.toExcept, Except.map]
  | problem place e => simp [Record.decode, hb, Outcome.toExcept, Except.map]

end NodeClient
