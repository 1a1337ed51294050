/-
  NodeClient.Address.V4
  ─────────────────────
  Internet addresses of 32 bits, written as four decimal bytes.
-/
import NodeClient.Decimal.Digits
import NodeClient.Text.Split

namespace NodeClient

/-- An address of 32 bits. -/
structure AddressV4 where
  value : UInt32
  deriving Repr, DecidableEq, Inhabited

namespace AddressV4

/-- The four bytes, most significant first. -/
def bytes (a : AddressV4) : List Nat :=
  let n := a.value.toNat
  [n / 0x1000000, n / 0x10000 % 256, n / 0x100 % 256, n % 256]

/-- The address with the given bytes, most significant first. -/
def ofBytes (bytes : List Nat) : AddressV4 :=
  ⟨UInt32.ofNat (bytes.foldl (fun n b => 256 * n + b) 0)⟩

/-- The four bytes in decimal, with points between them. -/
def chars (a : AddressV4) : List Char :=
  Text.joinWith '.' (a.bytes.map fun b => (toString b).toList)

/-- A byte in decimal, without zeros in front. -/
def byte? (s : List Char) : Option Nat :=
  match s, Decimal.value? s with
  | '0' :: _ :: _, _ => none
  | _, some n => if n < 256 then some n else none
  | _, none => none

/-- Reads the written form. -/
def parse? (s : List Char) : Option AddressV4 :=
  match (Text.splitAt '.' s).mapM byte? with
  | some bytes => if bytes.length = 4 then some (ofBytes bytes) else none
  | none => none

end AddressV4

end NodeClient
