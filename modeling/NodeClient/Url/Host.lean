/-
  NodeClient.Url.Host
  ───────────────────
  The host of a URL: a domain name or an address.

  The host of a web address is an address of 32 bits whenever its last label is a number, and
  the labels then have to be numbers, of which the last one fills all remaining bytes.  A number
  is octal behind a zero, hexadecimal behind `0x`, and else decimal.
-/
import NodeClient.Address.V6
import NodeClient.Url.Domain
import NodeClient.Url.Escape

namespace NodeClient

/-- The host of a URL. -/
inductive Host where
  /-- A domain name in ASCII, or whatever a scheme of its own has for a host. -/
  | name (text : List Char)
  | v4 (address : AddressV4)
  | v6 (address : AddressV6)
  deriving DecidableEq

namespace Host

/-! ## §1. Numbers as addresses. -/

/-- The number that digits of a base denote, if they are such digits. -/
def digits? (base : Nat) (s : List Char) : Option Nat :=
  s.foldlM (fun n c =>
    match Hex.digit? c with
    | some d => if d < base then some (base * n + d) else none
    | none => none) 0

/-- A number in any of the three bases; nothing behind the mark of a base is zero. -/
def number? : List Char → Option Nat
  | [] => none
  | '0' :: 'x' :: rest | '0' :: 'X' :: rest => digits? 16 rest
  | '0' :: c :: rest => digits? 8 (c :: rest)
  | s => digits? 10 s

/-- The labels of a name; one that is empty at the end does not count. -/
def labels (name : List Char) : List (List Char) :=
  let labels := Text.splitAt '.' name
  if 1 < labels.length && labels.getLast? == some [] then labels.dropLast else labels

/-- Whether the last label is a number. -/
def endsInNumber (name : List Char) : Bool :=
  match (labels name).getLast? with
  | some last => (!last.isEmpty && last.all Decimal.isDigit) || (number? last).isSome
  | none => false

/-- The address of numbers: bytes, and last whatever fills the rest. -/
def addressOfNumbers? (numbers : List Nat) : Option AddressV4 :=
  match numbers.reverse with
  | [] => none
  | last :: others =>
      let bytes := others.reverse
      if 4 < numbers.length || bytes.any (255 < ·) || Nat.pow 256 (4 - bytes.length) ≤ last then none
      else
        let high := bytes.foldl (fun n b => 256 * n + b) 0
        some ⟨UInt32.ofNat (high * Nat.pow 256 (4 - bytes.length) + last)⟩

/-- The address that a name with a number at its end stands for. -/
def addressOfName? (name : List Char) : Option AddressV4 :=
  match (labels name).mapM number? with
  | some numbers => addressOfNumbers? numbers
  | none => none

/-! ## §2. Reading and writing. -/

/-- An address in brackets, of which the opening one is passed. -/
def ofBrackets (rest : List Char) : Except UrlError Host :=
  match rest.getLast?, AddressV6.parse? rest.dropLast with
  | some ']', some a => .ok (v6 a)
  | _, _ => .error .invalidAddressV6

/-- Reads the host of a web address. -/
def ofWeb : List Char → Except UrlError Host
  | '[' :: rest => ofBrackets rest
  | s => do
      let some text := String.fromUTF8? ⟨(Url.unescape s).toArray⟩ | throw .invalidDomain
      let domain ← Url.domainToAscii text.toList
      if domain.isEmpty then throw .emptyHost
      if endsInNumber domain then
        match addressOfName? domain with
        | some a => return v4 a
        | none => throw .invalidAddressV4
      return name domain

/-- Whether a character cannot stand in any host. -/
def isForbidden (c : Char) : Bool :=
  c ∈ ['\x00', '\t', '\n', '\r', ' ', '#', '/', ':', '<', '>', '?', '@', '[', '\\', ']', '^', '|']

/-- Reads the host of a URL with another scheme. -/
def ofOther : List Char → Except UrlError Host
  | '[' :: rest => ofBrackets rest
  | s =>
      if s.any isForbidden then .error .invalidHostCharacter
      else .ok (name (Url.escape Url.isControl s))

/-- The host as it stands in a URL. -/
def chars : Host → List Char
  | name s => s
  | v4 a => a.chars
  | v6 a => '[' :: a.chars ++ [']']

end Host

end NodeClient
