/-
  NodeClient.Token.Vocabulary
  ───────────────────────────
  Closed enumerations, each value of which is written as a token.

  A text is read by its token alone: white space around it and the case of its ASCII letters do
  not count, anything else does.  The first value of every enumeration stands for "unknown";
  some enumerations accept its token and some do not.
-/
import NodeClient.Codec.Basic
import NodeClient.Text.Ascii
import NodeClient.Text.Blank

namespace NodeClient

/-- A text that is no token of the enumeration called `kind`. -/
structure UnrecognisedToken where
  kind : String
  input : String
  deriving Repr, DecidableEq

/-- The wording of the error. -/
def UnrecognisedToken.message (e : UnrecognisedToken) : String :=
  "unrecognised " ++ e.kind ++ " " ++ Text.quote e.input

/-- The tokens of an enumeration. -/
structure Vocabulary (α : Type) where
  /-- What error messages call the enumeration. -/
  label : String
  unknown : α
  known : List α
  token : α → String
  /-- Whether the token of the unknown value is accepted. -/
  readsUnknown : Bool

namespace Vocabulary

variable {α : Type} (v : Vocabulary α)

/-- All values, the unknown one first. -/
def all : List α := v.unknown :: v.known

/-- The values whose tokens are accepted. -/
def readable : List α := if v.readsUnknown then v.known ++ [v.unknown] else v.known

/-- Reads a token. -/
def parse (s : String) : Except UnrecognisedToken α :=
  let token := Text.trim s.toList
  match v.readable.find? fun a => Text.equalsIgnoringCase token (v.token a).toList with
  | some a => .ok a
  | none => .error ⟨v.label, s⟩

/-- Tokens are JSON strings. -/
def codec : Codec α :=
  .ofText ("a " ++ v.label ++ " token") (fun s => (v.parse s).mapError (·.message)) v.token

end Vocabulary

end NodeClient
