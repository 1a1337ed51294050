/-
  NodeClient.Address.V6
  ─────────────────────
  Internet addresses of 128 bits: eight groups of 16 bits, in hex, with colons between them.  A
  run of groups that are zero may be left out, and the last two groups may be written as an
  address of 32 bits.
-/
import NodeClient.Address.V4
import NodeClient.Hex.Digits

namespace NodeClient

/-- An address of 128 bits, by its groups of 16 bits. -/
structure AddressV6 where
  groups : List UInt16
  length_eq : groups.length = 8 := by decide
  deriving Repr, DecidableEq

namespace AddressV6

/-! ## §1. Reading. -/

/-- A group of one to four hex digits. -/
def group? (s : List Char) : Option UInt16 :=
  if s.isEmpty || 4 < s.length || !s.all Hex.isDigit then none
  else some (UInt16.ofNat (Hex.value s))

/-- The two groups of an address of 32 bits. -/
def groupsOfV4 (a : AddressV4) : List UInt16 :=
  [UInt16.ofNat (a.value.toNat / UInt16.size), UInt16.ofNat (a.value.toNat % UInt16.size)]

/-- The groups of pieces, the last of which may be an address of 32 bits if that is `allowed`. -/
def groups? (allowed : Bool) : List (List Char) → Option (List UInt16)
  | [] => some []
  | [last] =>
      match group? last with
      | some g => some [g]
      | none => if allowed then (AddressV4.parse? last).map groupsOfV4 else none
  | piece :: rest =>
      match group? piece, groups? allowed rest with
      | some g, some gs => some (g :: gs)
      | _, _ => none

/-- The groups of a text, which may be empty. -/
def run? (allowed : Bool) (s : List Char) : Option (List UInt16) :=
  if s.isEmpty then some [] else groups? allowed (Text.splitAt ':' s)

/-- What stands before and behind the first two colons in a row. -/
def cutGap? : List Char → Option (List Char × List Char)
  | ':' :: ':' :: rest => some ([], rest)
  | c :: rest => (cutGap? rest).map fun (before, behind) => (c :: before, behind)
  | [] => none

/-- The address of groups, if there are eight. -/
def ofGroups? (groups : List UInt16) : Option AddressV6 :=
  if h : groups.length = 8 then some ⟨groups, h⟩ else none

/-- Reads the written form.  Two colons stand for at least one group. -/
def parse? (s : List Char) : Option AddressV6 :=
  match cutGap? s with
  | none =>
      match run? true s with
      | some groups => ofGroups? groups
      | none => none
  | some (before, behind) =>
      match run? false before, run? true behind with
      | some left, some right =>
          if 7 < left.length + right.length then none
          else ofGroups? (left ++ List.replicate (8 - left.length - right.length) 0 ++ right)
      | _, _ => none

/-! ## §2. Writing. -/

/-- The number of groups that are zero, from the `i`-th on. -/
def zerosFrom (groups : List UInt16) (i : Nat) : Nat :=
  ((groups.drop i).takeWhile (· == 0)).length

/-- The first of the longest runs of groups that are zero: where it starts and how long it is. -/
def longestZeros (groups : List UInt16) : Nat × Nat :=
  (List.range groups.length).foldl
    (fun best i => if best.2 < zerosFrom groups i then (i, zerosFrom groups i) else best) (0, 0)

/-- Groups in hex with colons between them. -/
def groupChars (groups : List UInt16) : List Char :=
  Text.joinWith ':' (groups.map fun g => Nat.toDigits 16 g.toNat)

/-- The address in hex groups, without the longest run of two or more zeros. -/
def chars (a : AddressV6) : List Char :=
  let (start, count) := longestZeros a.groups
  if count < 2 then groupChars a.groups
  else groupChars (a.groups.take start) ++ ':' :: ':' :: groupChars (a.groups.drop (start + count))

/-- The address of 32 bits that an address stands for. -/
def mapped? (a : AddressV6) : Option AddressV4 :=
  match a.groups with
  | [0, 0, 0, 0, 0, 0xFFFF, high, low] =>
      some ⟨UInt32.ofNat (UInt16.size * high.toNat + low.toNat)⟩
  | _ => none

/-- The address in hex groups, but with the last 32 bits in decimal bytes if it stands for an
address of 32 bits. -/
def mixedChars (a : AddressV6) : List Char :=
  match a.mapped? with
  | some v4 => "::ffff:".toList ++ v4.chars
  | none => a.chars

end AddressV6

end NodeClient
