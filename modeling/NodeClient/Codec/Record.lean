/-
  NodeClient.Codec.Record
  ───────────────────────
  Codecs of records, given by their fields.

  A record is an object with one member for each field, or an array of its fields in their
  order.  Members with other keys are passed over.  Of several problems the one met first
  counts: the members are met in the order in which they are listed, then the fields without a
  member, in the order of the fields.
-/
import NodeClient.Codec.Basic

namespace NodeClient

open Json

/-! ## §1. Fields. -/

/-- A field of type `α` in records of type `ρ`. -/
structure Field (ρ α : Type) where
  name : String
  get : ρ → α
  codec : Codec α
  /-- The value of a field that is not there, if it need not be there. -/
  absent : Option α := none
  /-- Which values are not written. -/
  omits : α → Bool := fun _ => false

/-- The fields of a record `ρ` still to come for a constructor of type `κ`. -/
inductive Fields (ρ : Type) : (κ : Type) → Type 1 where
  | done : Fields ρ ρ
  | field {α κ : Type} (f : Field ρ α) (rest : Fields ρ κ) : Fields ρ (α → κ)

namespace Field

variable {ρ α : Type}

/-- A field that must be there. -/
def required (name : String) (get : ρ → α) (codec : Codec α) : Field ρ α :=
  { name, get, codec }

/-- A field that may be left out or null, and is left out if it is none. -/
def optional (name : String) (get : ρ → Option α) (codec : Codec α) : Field ρ (Option α) :=
  { name, get, codec := codec.optional, absent := some none, omits := Option.isNone }

/-- A field that may be left out, for a list without items, and is always written. -/
def list (name : String) (get : ρ → List α) (codec : Codec α) : Field ρ (List α) :=
  { name, get, codec := codec.list, absent := some [] }

end Field

namespace Fields

variable {ρ : Type}

/-- The names of the fields. -/
def names : {κ : Type} → Fields ρ κ → List String
  | _, done => []
  | _, field f rest => f.name :: rest.names

/-! ## §2. The first problem met. -/

end Fields

/-- A value, or the problem met first and its place. -/
inductive Outcome (ε α : Type) where
  | value (a : α)
  | problem (place : Nat) (e : ε)

namespace Outcome

variable {ε α κ ρ : Type}

/-- The value of a field joined with what the other fields make of a constructor; of two
problems the one met first. -/
def join : Outcome ε α → Outcome ε (κ → ρ) → Outcome ε ((α → κ) → ρ)
  | value a, value g => value fun make => g (make a)
  | problem p e, value _ => problem p e
  | value _, problem q e => problem q e
  | problem p e, problem q e' => if p ≤ q then problem p e else problem q e'

/-- A problem with what is not part of any field. -/
def beside (stray : Option (Nat × ε)) : Outcome ε α → Outcome ε α
  | value a =>
      match stray with
      | none => value a
      | some (q, e) => problem q e
  | problem p e =>
      match stray with
      | none => problem p e
      | some (q, e') => if p ≤ q then problem p e else problem q e'

/-- The value, or the problem without its place. -/
def toExcept : Outcome ε α → Except ε α
  | value a => .ok a
  | problem _ e => .error e

end Outcome

/-- Looks for the member with a key from place `place` on: its decoded value, provided that no
other member has the key.  `otherwise` holds if there is no such member. -/
def findMember {ε α μ : Type} (isIt : μ → Bool) (decode : μ → Except ε α) (again : ε)
    (otherwise : Nat → Outcome ε α) : (place : Nat) → List μ → Outcome ε α
  | place, [] => otherwise place
  | place, m :: rest =>
      if isIt m then
        match decode m with
        | .error e => .problem place e
        | .ok a =>
            match rest.findIdx? isIt with
            | some i => .problem (place + 1 + i) again
            | none => .value a
      else findMember isIt decode again otherwise (place + 1) rest

namespace Field

variable {ρ α : Type}

/-- The value of a field that has no member. -/
def whenAbsent {ε : Type} (f : Field ρ α) (e : ε) (place : Nat) : Outcome ε α :=
  match f.absent with
  | some a => .value a
  | none => .problem place e

/-- The value of a field among the members of an object. -/
def fromMembers (f : Field ρ α) (members : Members) : Outcome Mismatch α :=
  findMember (fun m => m.1 == f.name) (fun m => f.codec.decode m.2) (.duplicateField f.name)
    (f.whenAbsent (.missingField f.name)) 0 members

/-- The value of a field among the members in an outline; a missing one is met behind the end of
the object. -/
def fromOutline (f : Field ρ α) (room : Nat) (members : List (Option String × Outline)) :
    Outcome Fault α :=
  findMember (fun m => m.1 == some f.name) (fun m => f.codec.read room m.2) .mismatched
    (fun place => f.whenAbsent .mismatched (place + 1)) 0 members

end Field

namespace Fields

variable {ρ : Type}

/-! ## §3. Objects. -/

/-- What the members of an object make of a constructor. -/
def fromMembers : {κ : Type} → Fields ρ κ → Members → Outcome Mismatch (κ → ρ)
  | _, done, _ => .value id
  | _, field f rest, ms => (f.fromMembers ms).join (rest.fromMembers ms)

/-- What the members in an outline make of a constructor. -/
def fromOutline : {κ : Type} → Fields ρ κ → (room : Nat) → List (Option String × Outline) →
    Outcome Fault (κ → ρ)
  | _, done, _, _ => .value id
  | _, field f rest, room, ms => (f.fromOutline room ms).join (rest.fromOutline room ms)

/-- The first fault among the members that belong to no field: a key that stands for no text, a
value that cannot be passed over, a missing end. -/
def strayFault (names : List String) (tail : Tail) :
    (place : Nat) → List (Option String × Outline) → Option (Nat × Fault)
  | place, [] =>
      match tail with
      | .closed => none
      | .broken item _ _ => some (place, item)
  | place, (none, _) :: _ => some (place, .malformed)
  | place, (some key, o) :: rest =>
      if names.contains key then strayFault names tail (place + 1) rest
      else
        match o.pass with
        | some f => some (place, f)
        | none => strayFault names tail (place + 1) rest

/-- The members of a record, those with omitted values left out. -/
def toMembers (r : ρ) : {κ : Type} → Fields ρ κ → Members
  | _, done => []
  | _, field f rest =>
      let a := f.get r
      if f.omits a then rest.toMembers r
      else (f.name, f.codec.encode a) :: rest.toMembers r

/-! ## §4. Arrays. -/

/-- What the items of an array make of a constructor.  `place` counts the fields already taken
and `total` all items. -/
def fromItems (expected : String) (total : Nat) :
    {κ : Type} → Fields ρ κ → κ → (place : Nat) → List Value → Except Mismatch ρ
  | _, done, r, _, [] => .ok r
  | _, done, _, _, _ :: _ => .error (.length total "fewer elements in array")
  | _, field f rest, make, place, [] =>
      match f.absent with
      | some a => fromItems expected total rest (make a) (place + 1) []
      | none => .error (.length place expected)
  | _, field f rest, make, place, v :: vs => do
      let a ← f.codec.decode v
      fromItems expected total rest (make a) (place + 1) vs

/-- What the items in an outline make of a constructor. -/
def readItems (room : Nat) (tail : Tail) :
    {κ : Type} → Fields ρ κ → κ → List Outline → Except Fault ρ
  | _, done, r, [] =>
      match tail with
      | .closed => .ok r
      | .broken _ finish _ => .error finish
  | _, done, _, _ :: _ => .error .malformed
  | _, field f rest, make, [] =>
      match tail, f.absent with
      | .closed, some a => readItems room tail rest (make a) []
      | .closed, none => .error .mismatched
      | .broken item _ _, _ => .error item
  | _, field f rest, make, o :: os => do
      let a ← f.codec.read room o
      readItems room tail rest (make a) os

end Fields

/-! ## §5. Records. -/

/-- A record: the name by which error messages call it, its constructor and its fields. -/
structure Record (ρ : Type) where
  name : String
  {κ : Type}
  make : κ
  fields : Fields ρ κ

namespace Record

variable {ρ : Type}

/-- How error messages call the record. -/
def expected (r : Record ρ) : String := "struct " ++ r.name

/-- How error messages call an array of the fields. -/
def expectedItems (r : Record ρ) : String :=
  let n := r.fields.names.length
  r.expected ++ " with " ++ toString n ++ (if n = 1 then " element" else " elements")

/-- Decodes an object or an array of the fields. -/
def decode (r : Record ρ) : Value → Except Mismatch ρ
  | .object members => (r.fields.fromMembers members).toExcept.map fun build => build r.make
  | .array items => r.fields.fromItems r.expectedItems items.length r.make 0 items
  | v => .error (.kind v r.expected)

/-- Reads an object or an array of the fields from an outline. -/
def read (r : Record ρ) : (room : Nat) → Outline → Except Fault ρ
  | 0, .object _ _ => .error .malformed
  | 0, .array _ _ => .error .malformed
  | room + 1, .object members tail =>
      let stray := Fields.strayFault r.fields.names tail 0 members
      ((r.fields.fromOutline room members).beside stray).toExcept.map fun build => build r.make
  | room + 1, .array items tail => r.fields.readItems room tail r.make items
  | _, o => .error o.unfit

/-- Writes the fields in their order. -/
def encode (r : Record ρ) (a : ρ) : Value := .object (r.fields.toMembers a)

/-- The codec of a record. -/
def codec (r : Record ρ) : Codec ρ := ⟨r.decode, r.read, r.encode⟩

end Record

end NodeClient
