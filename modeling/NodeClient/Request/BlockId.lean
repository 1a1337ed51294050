/-
  NodeClient.Request.BlockId
  ──────────────────────────
  The ways of naming a block in a request: by a tag, by its hash or by its number.
-/
import NodeClient.Codec.Record
import NodeClient.Json.Reader
import NodeClient.Scalar.BlockNumber
import NodeClient.Scalar.Word

namespace NodeClient

open Json

/-- A block selector. -/
inductive BlockId where
  | latest
  | pending
  | hash (h : Hash)
  | number (n : BlockNumber)
  deriving DecidableEq

/-- Why a text names no block. -/
inductive BlockIdError where
  /-- There is no text. -/
  | empty
  | invalidHash (cause : HexError)
  | invalidNumber (input : String)
  deriving Repr, DecidableEq

/-- The wording of each cause. -/
def BlockIdError.message : BlockIdError → String
  | .empty => "no block specified"
  | .invalidHash cause => "invalid block hash: " ++ cause.message
  | .invalidNumber input => "invalid block number " ++ Text.quote input

namespace BlockId

/-! ## §1. Texts. -/

/-- Whether a text has the marker of a hash. -/
def isMarked : List Char → Bool
  | '0' :: 'x' :: _ => true
  | _ => false

/-- Reads a selector: a tag, then a text with the marker of a hash, then a decimal number. -/
def parse (s : String) : Except BlockIdError BlockId :=
  if s = "" then .error .empty
  else if s = "latest" then .ok latest
  else if s = "pending" then .ok pending
  else if isMarked s.toList then ((Word.parse s).map hash).mapError .invalidHash
  else
    match Decimal.u64? s.toList with
    | some n => .ok (number ⟨n⟩)
    | none => .error (.invalidNumber s)

/-- The text of a selector. -/
def text : BlockId → String
  | latest => "latest"
  | pending => "pending"
  | hash h => h.text
  | number n => n.text

/-- The selector with the title of its kind. -/
def labelled : BlockId → String
  | latest => "Latest"
  | pending => "Pending"
  | hash h => "Hash(" ++ h.labelled ++ ")"
  | number n => "Number(" ++ n.labelled ++ ")"

/-! ## §2. JSON. -/

/-- The tag that a text is. -/
def ofTag? : String → Option BlockId
  | "latest" => some latest
  | "pending" => some pending
  | _ => none

/-- A member that must be there, among members of which the others do not count. -/
def member? {α : Type} (key : String) (codec : Codec α) (members : Members) : Option α :=
  ((Field.required key id codec).fromMembers members).toExcept.toOption

/-- Decodes a selector.  A tag is a text, or the only key of an object, with null as its value;
otherwise a good hash comes before a good number. -/
def decode : Value → Except Mismatch BlockId
  | .string s => noneAs (ofTag? s)
  | .object members =>
      let tag := match members with
        | [(key, .null)] => ofTag? key
        | _ => none
      noneAs (tag.or <| ((member? "block_hash" Word.codec members).map hash).or <|
        (member? "block_number" BlockNumber.codec members).map number)
  | _ => noneAs none
where
  noneAs : Option BlockId → Except Mismatch BlockId
    | some b => .ok b
    | none => .error (.noVariant "BlockIdRepr")

/-- Writes a tag as a text, anything else as an object. -/
def encode : BlockId → Value
  | latest => .string "latest"
  | pending => .string "pending"
  | hash h => .object [("block_hash", Word.codec.encode h)]
  | number n => .object [("block_number", BlockNumber.codec.encode n)]

/-- A selector is read from the text of a whole value, in which repeated members still count. -/
def codec : Codec BlockId where
  decode := decode
  read room o := do
    let v ← o.content room
    (decode v).mapError fun _ => .mismatched
  encode := encode

end BlockId

end NodeClient
