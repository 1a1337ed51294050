/-
  NodeClient.Json.Outline
  ───────────────────────
  What a JSON text holds, up to the first place where it stops being JSON.

  A value of a certain shape is read from a text front to back, and the first problem met
  decides how the reading fails.  An outline keeps all that such a reading can meet: the parts
  that are there, in the order and number in which they are there, and at each place where the
  text breaks off the failure that waits for a reader.  A part that nobody asks for is only
  passed over, which is less strict: numbers out of range and unpaired surrogates do not matter
  there, and neither does the depth of nesting.
-/
import NodeClient.Json.Value

namespace NodeClient.Json

/-- How reading a text fails. -/
inductive Fault where
  /-- The text is no JSON. -/
  | malformed
  /-- The text ends too early. -/
  | truncated
  /-- The text is JSON but not of the shape that is asked for. -/
  | mismatched
  deriving Repr, DecidableEq

/-- How a list of items or members goes on behind those that are there. -/
inductive Tail where
  /-- With its closing bracket. -/
  | closed
  /-- It breaks off; the fault that one meets who asks for a further item, who asks for the
  closing bracket, and who passes over the whole list. -/
  | broken (item finish pass : Fault)
  deriving Repr, DecidableEq

/-- The outline of a JSON text. -/
inductive Outline where
  | null
  | bool (b : Bool)
  | number (n : Number)
  | string (s : String)
  /-- A well-formed number or string that stands for no value: a number beyond the finite ones,
  a string with an unpaired surrogate. -/
  | void
  | array (items : List Outline) (tail : Tail)
  /-- A key which stands for no text is left out. -/
  | object (members : List (Option String × Outline)) (tail : Tail)
  /-- No whole value; the fault for who reads it and for who passes over it. -/
  | broken (read pass : Fault)
  deriving Repr, Inhabited

/-- The nesting of arrays and objects that can be read. -/
def depthLimit : Nat := 127

/-! ## §1. Passing over a part. -/

/-- The fault that one meets behind the last item when passing over a list. -/
def Tail.pass : Tail → Option Fault
  | .closed => none
  | .broken _ _ p => some p

mutual

/-- The fault that one meets when passing over a part. -/
def Outline.pass : Outline → Option Fault
  | .broken _ p => some p
  | .array items tail => (passItems items).or tail.pass
  | .object members tail => (passMembers members).or tail.pass
  | _ => none

/-- The first fault when passing over items. -/
def passItems : List Outline → Option Fault
  | [] => none
  | o :: rest => o.pass.or (passItems rest)

/-- The first fault when passing over members. -/
def passMembers : List (Option String × Outline) → Option Fault
  | [] => none
  | (_, o) :: rest => o.pass.or (passMembers rest)

end

/-! ## §2. Reading a whole value. -/

/-- Whether a list ends well for one who reads all of it. -/
def Tail.finish : Tail → Except Fault Unit
  | .closed => .ok ()
  | .broken item _ _ => .error item

mutual

/-- The value of an outline with room for `room` more levels of nesting; members stand as they
stand in the text, repeated ones included. -/
def Outline.content (room : Nat) : Outline → Except Fault Value
  | .null => .ok .null
  | .bool b => .ok (.bool b)
  | .number n => .ok (.number n)
  | .string s => .ok (.string s)
  | .void => .error .malformed
  | .broken read _ => .error read
  | .array items tail =>
      match room with
      | 0 => .error .malformed
      | room + 1 => do
          let vs ← contentItems room items
          tail.finish
          return .array vs
  | .object members tail =>
      match room with
      | 0 => .error .malformed
      | room + 1 => do
          let ms ← contentMembers room members
          tail.finish
          return .object ms

/-- The values of items. -/
def contentItems (room : Nat) : List Outline → Except Fault (List Value)
  | [] => .ok []
  | o :: rest => do
      let v ← o.content room
      let vs ← contentItems room rest
      return v :: vs

/-- The values of members. -/
def contentMembers (room : Nat) :
    List (Option String × Outline) → Except Fault (List (String × Value))
  | [] => .ok []
  | (none, _) :: _ => .error .malformed
  | (some k, o) :: rest => do
      let v ← o.content room
      let ms ← contentMembers room rest
      return (k, v) :: ms

end

/-- The normal form of the value of an outline. -/
def Outline.value (room : Nat) (o : Outline) : Except Fault Value :=
  (o.content room).map Value.normal

/-- The fault of one who asks for a text or a number and meets this instead. -/
def Outline.unfit : Outline → Fault
  | .void => .malformed
  | .broken read _ => read
  | _ => .mismatched

end NodeClient.Json
