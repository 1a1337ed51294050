/-
  NodeClient.Address.Socket
  ─────────────────────────
  An address with a port.  An address of 128 bits stands in brackets and may name a zone.
-/
import NodeClient.Address.V6

namespace NodeClient

/-- An address with a port. -/
inductive SocketAddress where
  | v4 (address : AddressV4) (port : UInt16)
  | v6 (address : AddressV6) (zone : UInt32) (port : UInt16)
  deriving Repr, DecidableEq

namespace SocketAddress

/-- A decimal number below `2^bits`; zeros in front do not count. -/
def number? (bits : Nat) (s : List Char) : Option Nat :=
  match Decimal.value? s with
  | some n => if n < Nat.pow 2 bits then some n else none
  | none => none

/-- An address of 32 bits, a colon and a port. -/
def parseV4? (s : List Char) : Option SocketAddress :=
  match Text.cut? ':' s with
  | some (address, port) =>
      match AddressV4.parse? address, number? 16 port with
      | some a, some p => some (v4 a (UInt16.ofNat p))
      | _, _ => none
  | none => none

/-- The address and the zone between the brackets. -/
def inner? (s : List Char) : Option (AddressV6 × UInt32) :=
  match Text.cut? '%' s with
  | none => (AddressV6.parse? s).map fun a => (a, 0)
  | some (address, zone) =>
      match AddressV6.parse? address, number? 32 zone with
      | some a, some z => some (a, UInt32.ofNat z)
      | _, _ => none

/-- An address of 128 bits in brackets, a colon and a port. -/
def parseV6? : List Char → Option SocketAddress
  | '[' :: rest =>
      match Text.cut? ']' rest with
      | some (inner, ':' :: port) =>
          match inner? inner, number? 16 port with
          | some (a, z), some p => some (v6 a z (UInt16.ofNat p))
          | _, _ => none
      | _ => none
  | _ => none

/-- Reads either form. -/
def parse? (s : List Char) : Option SocketAddress := (parseV4? s).or (parseV6? s)

/-- The written form; the zone 0 is left out. -/
def text : SocketAddress → String
  | v4 address port => String.ofList address.chars ++ ":" ++ toString port.toNat
  | v6 address zone port =>
      let zoneText := if zone = 0 then "" else "%" ++ toString zone.toNat
      "[" ++ String.ofList address.mixedChars ++ zoneText ++ "]:" ++ toString port.toNat

end SocketAddress

end NodeClient
