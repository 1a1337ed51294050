/-
  NodeClient.Json.Value
  ─────────────────────
  JSON values.  An object is the list of its members; in the normal form of a free-standing
  value they are sorted by key and no key occurs twice.
-/
namespace NodeClient.Json

/-- A number as JSON texts distinguish them. -/
inductive Number where
  /-- A whole number from `-2^63` to `2^64 - 1`. -/
  | integer (n : Int)
  /-- Any other number: the bits of a finite binary64 value. -/
  | real (bits : UInt64)
  deriving Repr, DecidableEq

/-- A JSON value. -/
inductive Value where
  | null
  | bool (b : Bool)
  | number (n : Number)
  | string (s : String)
  | array (items : List Value)
  | object (members : List (String × Value))
  deriving Repr, Inhabited

/-- The members of an object. -/
abbrev Members := List (String × Value)

namespace Members

/-- The value of a key. -/
def get? (members : Members) (key : String) : Option Value := members.lookup key

/-- Sets a key in members sorted by key. -/
def put (key : String) (value : Value) : Members → Members
  | [] => [(key, value)]
  | (k, v) :: rest =>
      if key < k then (key, value) :: (k, v) :: rest
      else if key = k then (key, value) :: rest
      else (k, v) :: put key value rest

/-- Members sorted by key, where the last of several values of a key counts. -/
def sorted (members : Members) : Members :=
  members.foldl (fun acc (k, v) => acc.put k v) []

end Members

mutual

/-- The normal form: the members of every object in it sorted by key. -/
def Value.normal : Value → Value
  | .array items => .array (normalItems items)
  | .object members => .object (Members.sorted (normalMembers members))
  | v => v

/-- The normal forms of items. -/
def normalItems : List Value → List Value
  | [] => []
  | v :: rest => v.normal :: normalItems rest

/-- The normal forms of the values of members. -/
def normalMembers : List (String × Value) → List (String × Value)
  | [] => []
  | (k, v) :: rest => (k, v.normal) :: normalMembers rest

end

namespace Value

/-- The member of an object; other values have none. -/
def get? (key : String) : Value → Option Value
  | .object members => members.lookup key
  | _ => none

/-- A whole number as a value. -/
def ofNat (n : Nat) : Value := .number (.integer n)

end Value

end NodeClient.Json
