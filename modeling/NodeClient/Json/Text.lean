/-
  NodeClient.Json.Text
  ────────────────────
  The compact text of a JSON value: no blanks, members in the order in which they are listed,
  and only those characters escaped in strings that have to be.
-/
import NodeClient.Hex.Digits
import NodeClient.Json.Real

namespace NodeClient.Json

/-- One character inside a string. -/
def escapeChar (c : Char) : List Char :=
  match c with
  | '"' => ['\\', '"']
  | '\\' => ['\\', '\\']
  | '\n' => ['\\', 'n']
  | '\r' => ['\\', 'r']
  | '\t' => ['\\', 't']
  | _ =>
      if c.toNat = 0x08 then ['\\', 'b']
      else if c.toNat = 0x0C then ['\\', 'f']
      else if c.toNat < 0x20 then
        ['\\', 'u', '0', '0', Hex.digitChar (c.toNat / 16), Hex.digitChar (c.toNat % 16)]
      else [c]

/-- A string with its quotes. -/
def stringText (s : String) : List Char := '"' :: s.toList.flatMap escapeChar ++ ['"']

mutual

/-- The compact text of a value. -/
def Value.chars : Value → List Char
  | .null => ['n', 'u', 'l', 'l']
  | .bool true => ['t', 'r', 'u', 'e']
  | .bool false => ['f', 'a', 'l', 's', 'e']
  | .number n => n.text.toList
  | .string s => stringText s
  | .array items => '[' :: itemsText items
  | .object members => Char.ofNat 0x7B :: membersText members

/-- Items up to and with the closing bracket. -/
def itemsText : List Value → List Char
  | [] => [']']
  | [v] => v.chars ++ [']']
  | v :: rest => v.chars ++ ',' :: itemsText rest

/-- Members up to and with the closing brace. -/
def membersText : List (String × Value) → List Char
  | [] => [Char.ofNat 0x7D]
  | [(k, v)] => stringText k ++ ':' :: v.chars ++ [Char.ofNat 0x7D]
  | (k, v) :: rest => stringText k ++ ':' :: v.chars ++ ',' :: membersText rest

end

/-- The compact text of a value. -/
def Value.compact (v : Value) : String := String.ofList v.chars

end NodeClient.Json
