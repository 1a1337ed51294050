/-
  NodeClient.Text.Base64
  ──────────────────────
  Bytes written in 64 characters, three bytes in four characters.
-/
namespace NodeClient.Text.Base64

/-- The character of six bits. -/
def char (n : Nat) : Char :=
  if n < 26 then Char.ofNat (65 + n)
  else if n < 52 then Char.ofNat (97 + (n - 26))
  else if n < 62 then Char.ofNat (48 + (n - 52))
  else if n = 62 then '+'
  else '/'

/-- The last characters of 24 bits, as many as are asked for. -/
def quad (n count : Nat) : List Char :=
  ([n / 0x40000, n / 0x1000 % 64, n / 0x40 % 64, n % 64].map char).take count

/-- Writes bytes; what is missing from the last three is made up for by equals signs. -/
def encode : List UInt8 → List Char
  | [] => []
  | [a] => quad (a.toNat * 0x10000) 2 ++ ['=', '=']
  | [a, b] => quad (a.toNat * 0x10000 + b.toNat * 0x100) 3 ++ ['=']
  | a :: b :: c :: rest => quad (a.toNat * 0x10000 + b.toNat * 0x100 + c.toNat) 4 ++ encode rest

end NodeClient.Text.Base64
