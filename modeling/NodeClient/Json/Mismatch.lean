/-
  NodeClient.Json.Mismatch
  ────────────────────────
  Why a JSON value is not of the shape that is asked for, and the wording.
-/
import NodeClient.Json.Text
import NodeClient.Text.Quoted

namespace NodeClient.Json

/-- Why a value does not decode. -/
inductive Mismatch where
  /-- A value of another kind stands where `expected` should. -/
  | kind (found : Value) (expected : String)
  /-- A number of the right kind lies outside the range of `expected`. -/
  | range (found : Value) (expected : String)
  /-- A member that must be there is not. -/
  | missingField (name : String)
  /-- A member is there twice. -/
  | duplicateField (name : String)
  /-- A list has the wrong number of items for `expected`. -/
  | length (count : Nat) (expected : String)
  /-- None of the shapes of the named choice fits. -/
  | noVariant (choice : String)
  /-- The text of the value does not stand for anything, in the words of the one who read it. -/
  | refused (reason : String)
  deriving Repr

/-- What a value is called where another was expected. -/
def Value.describe : Value → String
  | .null => "null"
  | .bool b => "boolean `" ++ toString b ++ "`"
  | .number (.integer n) => "integer `" ++ toString n ++ "`"
  | .number (.real bits) => "floating point `" ++ realText bits ++ "`"
  | .string s => "string " ++ Text.quote s
  | .array _ => "sequence"
  | .object _ => "map"

/-- The wording of each cause. -/
def Mismatch.message : Mismatch → String
  | .kind found expected => "invalid type: " ++ found.describe ++ ", expected " ++ expected
  | .range found expected => "invalid value: " ++ found.describe ++ ", expected " ++ expected
  | .missingField name => "missing field `" ++ name ++ "`"
  | .duplicateField name => "duplicate field `" ++ name ++ "`"
  | .length count expected => "invalid length " ++ toString count ++ ", expected " ++ expected
  | .noVariant choice => "data did not match any variant of untagged enum " ++ choice
  | .refused reason => reason

end NodeClient.Json
