/-
  NodeClient.Proofs.Codec.Additions
  ─────────────────────────────────
  **Members that a record does not ask for.**

  Of several problems a record reports the one that is met first, so a member that is passed over
  still moves the places of all others.  It moves them without changing their order
  (`Outcome.moved`), and the place is not part of what is reported: the result of decoding is the
  same, with a value and with a problem (`Record.decode_foreign`).  In the same way null changes
  nothing under the name of an optional field that is not there (`Record.decode_null`), nor does a
  value that decodes as the one in its place (`Record.decode_replace`).
-/
import Mathlib.Order.Monotone.Basic
import NodeClient.Proofs.Codec.Yield

namespace NodeClient

open Json

/-! ## §1. Problems that move. -/

namespace Outcome

variable {ε α κ ρ : Type}

/-- The problem at another place. -/
def moved (move : Nat → Nat) : Outcome ε α → Outcome ε α
  | value a => value a
  | problem p e => problem (move p) e

@[simp] theorem moved_id (o : Outcome ε α) : o.moved id = o := by
  cases o <;> rfl

/-- The place of a problem is not reported. -/
@[simp] theorem toExcept_moved (move : Nat → Nat) (o : Outcome ε α) :
    (o.moved move).toExcept = o.toExcept := by
  cases o <;> rfl

/-- Of two problems the same one comes first if their order is kept. -/
theorem moved_join {move : Nat → Nat} (hmove : StrictMono move) (o : Outcome ε α)
    (g : Outcome ε (κ → ρ)) : (o.join g).moved move = (o.moved move).join (g.moved move) := by
  cases o with
  | value a => cases g <;> rfl
  | problem p e =>
      cases g with
      | value k => rfl
      | problem q e' =>
          by_cases hle : p ≤ q
          · simp only [moved, join, if_pos hle, if_pos (hmove.monotone hle)]
          · have hlt : ¬move p ≤ move q := fun h => hle (hmove.le_iff_le.mp h)
            simp only [moved, join, if_neg hle, if_neg hlt]

end Outcome

/-- Where a place is behind a member that comes in at place `i`. -/
def placePast (i place : Nat) : Nat := if place < i then place else place + 1

theorem placePast_of_lt {i place : Nat} (h : place < i) : placePast i place = place := if_pos h

theorem placePast_of_le {i place : Nat} (h : i ≤ place) : placePast i place = place + 1 :=
  if_neg (by omega)

theorem strictMono_placePast (i : Nat) : StrictMono (placePast i) := by
  intro p q hlt
  unfold placePast
  split <;> split <;> omega

/-! ## §2. The search for a key. -/

section
variable {ε α μ : Type} {isIt : μ → Bool} {decode : μ → Except ε α} {again : ε}
  {otherwise : Nat → Outcome ε α}

/-- A search that starts one place later meets everything one place later. -/
theorem findMember_succ {i : Nat}
    (hother : ∀ place, i ≤ place → otherwise (place + 1) = (otherwise place).moved (placePast i)) :
    ∀ {place : Nat} (ms : List μ), i ≤ place →
      findMember isIt decode again otherwise (place + 1) ms
        = (findMember isIt decode again otherwise place ms).moved (placePast i) := by
  intro place ms
  induction ms generalizing place with
  | nil => exact hother place
  | cons m ms ih =>
      intro hi
      rw [findMember, findMember]
      split
      · cases decode m with
        | error e => exact congrArg (Outcome.problem · e) (placePast_of_le hi).symm
        | ok a =>
            cases ms.findIdx? isIt with
            | none => rfl
            | some j =>
                have hbehind : i ≤ place + 1 + j := by omega
                refine congrArg (Outcome.problem · again) ?_
                rw [placePast_of_le hbehind]
                omega
      · exact ih (by omega)

/-- A member that is not looked for moves the ones behind it. -/
theorem findMember_insert {i : Nat} {m : μ} (hm : isIt m = false) (after : List μ)
    (hother : ∀ place, i ≤ place → otherwise (place + 1) = (otherwise place).moved (placePast i)) :
    ∀ {place : Nat} (before : List μ), i = place + before.length →
      findMember isIt decode again otherwise place (before ++ m :: after)
        = (findMember isIt decode again otherwise place (before ++ after)).moved (placePast i) := by
  intro place before
  induction before generalizing place with
  | nil =>
      intro hi
      rw [List.nil_append, List.nil_append, findMember, hm, if_neg Bool.false_ne_true]
      exact findMember_succ hother after (by simp [hi])
  | cons b before ih =>
      intro hi
      rw [List.length_cons] at hi
      rw [List.cons_append, List.cons_append, findMember, findMember]
      split
      · cases decode b with
        | error e =>
            exact congrArg (Outcome.problem · e) (placePast_of_lt (by omega)).symm
        | ok a =>
            -- the same member is found again, perhaps moved
            rw [List.findIdx?_append, List.findIdx?_append, List.findIdx?_cons, hm]
            cases hbefore : before.findIdx? isIt with
            | some j =>
                have hj : j < before.length := (List.findIdx?_eq_some_iff_findIdx_eq.mp hbefore).1
                exact congrArg (Outcome.problem · again) (placePast_of_lt (by omega)).symm
            | none =>
                cases after.findIdx? isIt with
                | none => rfl
                | some j =>
                    have hbehind : i ≤ place + 1 + (j + before.length) := by omega
                    refine congrArg (Outcome.problem · again) ?_
                    show place + 1 + (j + 1 + before.length) = placePast i _
                    rw [placePast_of_le hbehind]
                    omega
      · exact ih (by omega)

/-- A member may be replaced by one that decodes in the same way, and by any if it is not looked
for. -/
theorem findMember_replace {m m' : μ} (hit : isIt m' = isIt m)
    (hdecode : isIt m = true → decode m' = decode m) (after : List μ) :
    ∀ {place : Nat} (before : List μ),
      findMember isIt decode again otherwise place (before ++ m' :: after)
        = findMember isIt decode again otherwise place (before ++ m :: after) := by
  intro place before
  induction before generalizing place with
  | nil =>
      rw [List.nil_append, List.nil_append, findMember, findMember, hit]
      split
      · next hm => rw [hdecode hm]
      · rfl
  | cons b before ih =>
      have hagain : (before ++ m' :: after).findIdx? isIt
          = (before ++ m :: after).findIdx? isIt := by
        simp only [List.findIdx?_append, List.findIdx?_cons, hit]
      rw [List.cons_append, List.cons_append, findMember, findMember, hagain, ih]

end

/-! ## §3. Fields. -/

namespace Field

variable {ρ α : Type} {f : Field ρ α} {before after : Members} {key : String} {v w : Value}

/-- A member with another key moves what the field meets. -/
theorem fromMembers_insert (h : key ≠ f.name) (v : Value) :
    f.fromMembers (before ++ (key, v) :: after)
      = (f.fromMembers (before ++ after)).moved (placePast before.length) := by
  have hm : (key == f.name) = false := beq_eq_false_iff_ne.mpr h
  refine findMember_insert (m := (key, v)) hm after ?_ before (Nat.zero_add _).symm
  intro place hplace
  unfold whenAbsent
  cases f.absent with
  | none => exact congrArg (Outcome.problem · _) (placePast_of_le hplace).symm
  | some a => rfl

/-- A value under the name of the field may be replaced by one that decodes in the same way, and
a value under another key by any. -/
theorem fromMembers_replace (h : key = f.name → f.codec.decode w = f.codec.decode v) :
    f.fromMembers (before ++ (key, w) :: after) = f.fromMembers (before ++ (key, v) :: after) := by
  unfold fromMembers
  refine findMember_replace ?_ ?_ after before
  · rfl
  · intro hkey
    exact h (beq_iff_eq.mp hkey)

/-- A field that may be left out has its value if no member has its name. -/
theorem fromMembers_of_absent {a : α} (habsent : f.absent = some a) {ms : Members}
    (h : f.name ∉ ms.keys) : f.fromMembers ms = .value a := by
  unfold fromMembers
  generalize 0 = place
  induction ms generalizing place with
  | nil => simp [findMember, whenAbsent, habsent]
  | cons m ms ih =>
      simp only [Members.keys, List.map_cons, List.mem_cons, not_or] at h
      rw [findMember, if_neg (by simpa using fun e => h.1 e.symm), ih h.2]

/-- A field has the value of the only member with its name. -/
theorem fromMembers_of_only {a : α} (hdecode : f.codec.decode v = .ok a)
    (h : f.name ∉ Members.keys (before ++ after)) :
    f.fromMembers (before ++ (f.name, v) :: after) = .value a := by
  rw [Members.keys, List.map_append, List.mem_append, not_or] at h
  obtain ⟨hbefore, hafter⟩ := h
  unfold fromMembers
  generalize 0 = place
  induction before generalizing place with
  | nil =>
      have hnone : after.findIdx? (fun m => m.1 == f.name) = none := by
        rw [List.findIdx?_eq_none_iff]
        intro m hm
        exact beq_eq_false_iff_ne.mpr fun e => hafter (e ▸ List.mem_map_of_mem hm)
      simp [findMember, hdecode, hnone]
  | cons b before ih =>
      simp only [List.map_cons, List.mem_cons, not_or] at hbefore
      rw [List.cons_append, findMember, if_neg (by simpa using fun e => hbefore.1 e.symm),
        ih hbefore.2]

end Field

namespace Fields

variable {ρ : Type} {move : Nat → Nat} {ms ms' : Members}

/-- What changes for no field but moves for each of them moves for the record. -/
theorem fromMembers_moved (hmove : StrictMono move) {key : String}
    (hother : ∀ {α : Type} (g : Field ρ α), key ≠ g.name →
      g.fromMembers ms' = (g.fromMembers ms).moved move) {κ : Type} {fields : Fields ρ κ}
    (h : key ∉ fields.names) : fields.fromMembers ms' = (fields.fromMembers ms).moved move := by
  induction fields with
  | done => rfl
  | field g rest ih =>
      rw [names, List.mem_cons, not_or] at h
      rw [fromMembers, fromMembers, Outcome.moved_join hmove, hother g h.1, ih h.2]

theorem Has.name_mem {α : Type} {f : Field ρ α} {κ : Type} {fields : Fields ρ κ}
    (hf : fields.Has f) : f.name ∈ fields.names := by
  induction hf with
  | here => exact List.mem_cons_self
  | there _ ih => exact List.mem_cons_of_mem _ ih

/-- If the names are distinct, what concerns the member of one field concerns no other. -/
theorem Has.fromMembers_moved (hmove : StrictMono move) {α : Type} {f : Field ρ α}
    (hself : f.fromMembers ms' = (f.fromMembers ms).moved move)
    (hother : ∀ {β : Type} (g : Field ρ β), f.name ≠ g.name →
      g.fromMembers ms' = (g.fromMembers ms).moved move) {κ : Type} {fields : Fields ρ κ}
    (hf : fields.Has f) (hnodup : fields.names.Nodup) :
    fields.fromMembers ms' = (fields.fromMembers ms).moved move := by
  induction hf with
  | here =>
      obtain ⟨hfirst, _⟩ := List.nodup_cons.mp hnodup
      rw [fromMembers, fromMembers, Outcome.moved_join hmove, hself,
        Fields.fromMembers_moved hmove hother hfirst]
  | @there _ _ g _ hf ih =>
      obtain ⟨hfirst, hrest⟩ := List.nodup_cons.mp hnodup
      have hne : f.name ≠ g.name := fun e => hfirst (e ▸ hf.name_mem)
      rw [fromMembers, fromMembers, Outcome.moved_join hmove, hother _ hne, ih hrest]

/-- The field is the one for the item at this place. -/
inductive At {α : Type} (f : Field ρ α) : Nat → {κ : Type} → Fields ρ κ → Prop where
  | here {κ : Type} {rest : Fields ρ κ} : At f 0 (.field f rest)
  | there {β κ : Type} {place : Nat} {g : Field ρ β} {rest : Fields ρ κ} :
      At f place rest → At f (place + 1) (.field g rest)

/-- An item may be replaced by one that its field decodes in the same way. -/
theorem fromItems_replace {expected : String} {total : Nat} {α : Type} {f : Field ρ α}
    {v w : Value} (h : f.codec.decode w = f.codec.decode v) (after : List Value) :
    ∀ {κ : Type} {fields : Fields ρ κ} {make : κ} {place : Nat} (before : List Value),
      fields.At f before.length →
      fields.fromItems expected total make place (before ++ w :: after)
        = fields.fromItems expected total make place (before ++ v :: after) := by
  intro κ fields make place before hat
  induction before generalizing κ fields make place with
  | nil =>
      cases hat
      rw [List.nil_append, List.nil_append, fromItems, fromItems, h]
  | cons b before ih =>
      cases hat with
      | @there _ _ _ g rest hrest =>
          rw [List.cons_append, List.cons_append, fromItems, fromItems]
          cases g.codec.decode b with
          | error e => rfl
          | ok a => exact ih hrest

end Fields

/-! ## §4. Records. -/

namespace Record

variable {ρ : Type} {r : Record ρ} {before after : Members} {key : String} {v w : Value}

theorem decode_of_moved {move : Nat → Nat} {ms ms' : Members}
    (h : r.fields.fromMembers ms' = (r.fields.fromMembers ms).moved move) :
    r.decode (.object ms') = r.decode (.object ms) := by
  rw [decode, decode, h, Outcome.toExcept_moved]

/-- **A member under none of the names changes nothing.** -/
theorem decode_foreign (h : key ∉ r.fields.names) (v : Value) :
    r.decode (.object (before ++ (key, v) :: after)) = r.decode (.object (before ++ after)) :=
  decode_of_moved (Fields.fromMembers_moved (strictMono_placePast _)
    (fun _ hne => Field.fromMembers_insert hne v) h)

/-- **Null changes nothing under the name of an optional field that is not there.** -/
theorem decode_null (hnodup : r.fields.names.Nodup) {α : Type} {name : String}
    {get : ρ → Option α} {c : Codec α} (hf : r.fields.Has (.optional name get c))
    (habsent : name ∉ Members.keys (before ++ after)) :
    r.decode (.object (before ++ (name, .null) :: after))
      = r.decode (.object (before ++ after)) := by
  refine decode_of_moved (hf.fromMembers_moved (strictMono_placePast before.length) ?_
    (fun _ hne => Field.fromMembers_insert hne .null) hnodup)
  have hbefore : (Field.optional name get c).fromMembers (before ++ after) = .value none :=
    Field.fromMembers_of_absent rfl habsent
  rw [hbefore]
  exact Field.fromMembers_of_only (f := .optional name get c) rfl habsent

/-- **A value may be replaced by one that its field decodes in the same way.** -/
theorem decode_replace (hnodup : r.fields.names.Nodup) {α : Type} {f : Field ρ α}
    (hf : r.fields.Has f) (h : f.codec.decode w = f.codec.decode v) :
    r.decode (.object (before ++ (f.name, w) :: after))
      = r.decode (.object (before ++ (f.name, v) :: after)) := by
  refine decode_of_moved (hf.fromMembers_moved strictMono_id ?_ ?_ hnodup)
  · rw [Outcome.moved_id]
    exact Field.fromMembers_replace fun _ => h
  · intro β g hne
    rw [Outcome.moved_id]
    exact Field.fromMembers_replace fun hname => absurd hname hne

/-- Under none of the names any value may be replaced. -/
theorem decode_replace_foreign (h : key ∉ r.fields.names) :
    r.decode (.object (before ++ (key, w) :: after))
      = r.decode (.object (before ++ (key, v) :: after)) :=
  (decode_foreign h w).trans (decode_foreign h v).symm

/-- **An item may be replaced by one that its field decodes in the same way.** -/
theorem decode_item {α : Type} {f : Field ρ α} {before after : List Value}
    (hat : r.fields.At f before.length) (h : f.codec.decode w = f.codec.decode v) :
    r.decode (.array (before ++ w :: after)) = r.decode (.array (before ++ v :: after)) := by
  have hlength : (before ++ w :: after).length = (before ++ v :: after).length := by
    rw [List.length_append, List.length_append, List.length_cons, List.length_cons]
  rw [decode, decode, hlength]
  exact Fields.fromItems_replace h after before hat

end Record

/-! ## §5. Lists and optional values. -/

namespace Codec

variable {α : Type} {c : Codec α} {v w : Value}

theorem decode_list_replace (h : c.decode w = c.decode v) (before after : List Value) :
    c.list.decode (.array (before ++ w :: after))
      = c.list.decode (.array (before ++ v :: after)) := by
  show (before ++ w :: after).mapM c.decode = (before ++ v :: after).mapM c.decode
  rw [List.mapM_append, List.mapM_append, List.mapM_cons, List.mapM_cons, h]

theorem decode_optional_of_ne_null (h : v ≠ .null) :
    c.optional.decode v = (c.decode v).map some := by
  cases v with
  | null => exact absurd rfl h
  | bool b => rfl
  | number n => rfl
  | string s => rfl
  | array items => rfl
  | object ms => rfl

end Codec

end NodeClient
