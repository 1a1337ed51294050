/-
  NodeClient.Url.Escape
  ─────────────────────
  Escapes in the parts of a URL: a byte is written `%` and two upper-case hex digits.  Each part
  has its own set of ASCII characters that cannot stand for themselves; characters beyond ASCII
  never can, and are escaped byte by byte in UTF-8.
-/
import NodeClient.Hex.Digits

namespace NodeClient.Url

/-! ## §1. The sets. -/

/-- The controls. -/
def isControl (c : Char) : Bool := c.toNat < 0x20 || c.toNat == 0x7F

/-- What is escaped in a fragment. -/
def inFragment (c : Char) : Bool := isControl c || c ∈ [' ', '"', '<', '>', Char.ofNat 0x60]

/-- What is escaped in a path. -/
def inPath (c : Char) : Bool :=
  inFragment c || c ∈ ['#', '?', Char.ofNat 0x7B, Char.ofNat 0x7D]

/-- What is escaped in a user name or a password. -/
def inUserinfo (c : Char) : Bool :=
  inPath c || c ∈ ['/', ':', ';', '=', '@', '[', '\\', ']', '^', '|']

/-- What is escaped in a query. -/
def inQuery (c : Char) : Bool := isControl c || c ∈ [' ', '"', '#', '<', '>']

/-- What is escaped in the query of a web address. -/
def inWebQuery (c : Char) : Bool := inQuery c || c == '\''

/-! ## §2. Writing and reading. -/

/-- The upper-case digit of a value below 16. -/
def upperDigit (n : Nat) : Char := (Hex.digitChar n).toUpper

/-- The escape of a byte. -/
def escapeByte (b : UInt8) : List Char :=
  ['%', upperDigit (b.toNat / 16), upperDigit (b.toNat % 16)]

/-- A character as it stands in a part with the given set. -/
def escapeChar (set : Char → Bool) (c : Char) : List Char :=
  if c.toNat < 0x80 && !set c then [c] else (String.utf8EncodeChar c).flatMap escapeByte

/-- A text as it stands in a part with the given set. -/
def escape (set : Char → Bool) (s : List Char) : List Char := s.flatMap (escapeChar set)

/-- The bytes of a text in which escapes stand for bytes.  A percent sign without two hex digits
behind it stands for itself. -/
def unescape : List Char → List UInt8
  | [] => []
  | '%' :: high :: low :: rest =>
      match Hex.digit? high, Hex.digit? low with
      | some h, some l => UInt8.ofNat (16 * h + l) :: unescape rest
      | _, _ => 0x25 :: unescape (high :: low :: rest)
  | c :: rest => String.utf8EncodeChar c ++ unescape rest

end NodeClient.Url
