/-
  NodeClient.Codec.Basic
  ──────────────────────
  Codecs between JSON and the types of the domain, and the codecs of texts, numbers, lists and
  optional values.

  A codec reads in two ways.  `decode` takes a whole value and says why it does not fit; `read`
  takes the outline of a text, front to back, and says of which kind the first problem is.
-/
import NodeClient.Json.Mismatch
import NodeClient.Json.Outline

namespace NodeClient

open Json

/-- How values of a type are read from JSON and written to it. -/
structure Codec (α : Type) where
  decode : Value → Except Mismatch α
  read : (room : Nat) → Outline → Except Fault α
  encode : α → Value

namespace Codec

variable {α : Type}

/-! ## §1. Texts and numbers. -/

/-- A type whose values are written as a text. -/
def ofText (expected : String) (parse : String → Except String α) (render : α → String) :
    Codec α where
  decode
    | .string s => (parse s).mapError .refused
    | v => .error (.kind v expected)
  read _
    | .string s => (parse s).mapError fun _ => .mismatched
    | o => .error o.unfit
  encode a := .string (render a)

/-- Any text. -/
def text : Codec String := ofText "a string" .ok id

/-- Whole numbers within bounds. -/
def integer (low high : Int) (expected : String) : Codec Int where
  decode
    | v@(.number (.integer n)) =>
        if low ≤ n ∧ n ≤ high then .ok n else .error (.range v expected)
    | v => .error (.kind v expected)
  read _
    | .number (.integer n) => if low ≤ n ∧ n ≤ high then .ok n else .error .mismatched
    | o => .error o.unfit
  encode n := .number (.integer n)

/-- The same type seen through a correspondence. -/
def through {β : Type} (c : Codec α) (forth : α → β) (back : β → α) : Codec β where
  decode v := (c.decode v).map forth
  read room o := (c.read room o).map forth
  encode b := c.encode (back b)

/-- Numbers of 64 bits. -/
def u64 : Codec UInt64 :=
  (integer 0 (UInt64.size - 1) "u64").through (fun n => UInt64.ofNat n.toNat) (fun n => (n.toNat : Int))

/-- Signed numbers of 64 bits. -/
def i64 : Codec Int := integer (-0x8000000000000000) 0x7FFFFFFFFFFFFFFF "i64"

/-! ## §2. Free-standing values. -/

/-- Any value. -/
def value : Codec Value where
  decode v := .ok v
  read room o := o.value room
  encode v := v

/-- A type that is decoded from whole values only: a text is read to its end before anything is
asked of it. -/
def ofValue (decode : Value → Except String α) (encode : α → Value) : Codec α where
  decode v := (decode v).mapError .refused
  read room o := do
    let v ← o.value room
    (decode v).mapError fun _ => .mismatched
  encode := encode

/-! ## §3. Optional values and lists. -/

/-- A value that may be null. -/
def optional (c : Codec α) : Codec (Option α) where
  decode
    | .null => .ok none
    | v => (c.decode v).map some
  read room
    | .null => .ok none
    | o => (c.read room o).map some
  encode
    | none => .null
    | some a => c.encode a

/-- A list of values. -/
def list (c : Codec α) : Codec (List α) where
  decode
    | .array items => items.mapM c.decode
    | v => .error (.kind v "a sequence")
  read
    | 0, .array _ _ => .error .malformed
    | room + 1, .array items tail => do
        let as ← items.mapM (c.read room)
        tail.finish
        return as
    | _, o => .error o.unfit
  encode as := .array (as.map c.encode)

end Codec

end NodeClient
