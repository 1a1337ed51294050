/-
  NodeClient.Url.Domain
  ─────────────────────
  Domain names in their ASCII form: small letters, and labels beyond ASCII in Punycode.
-/
import NodeClient.Url.Error
import NodeClient.Url.Folding
import NodeClient.Url.Punycode

namespace NodeClient.Url

/-- A character of a domain name as it is told apart from others: small, in its plain form, and
nothing if it leaves no trace. -/
def foldDomainChar (c : Char) : List Char :=
  if c.toNat < 0x80 then [c.toLower]
  else if isFullStop c then ['.']
  else if ignored.has c.toNat then []
  else [(foldChar c).toLower]

/-- Whether a character cannot stand in a domain name. -/
def isForbiddenInDomain (c : Char) : Bool :=
  c.toNat ≤ 0x20 || c.toNat == 0x7F || refused.has c.toNat ||
    c ∈ ['%', '#', '/', ':', '<', '>', '?', '@', '[', '\\', ']', '^', '|']

/-- Whether all characters are ASCII. -/
def isAscii (s : List Char) : Bool := s.all fun c => c.toNat < 0x80

/-- The mark in front of a label in Punycode. -/
def encodedMark : List Char := ['x', 'n', '-', '-']

/-- Whether a text behind the mark stands for a label that is written that way: one beyond
ASCII, in its plain form. -/
def isEncodedLabel (s : List Char) : Bool :=
  match Punycode.decode? s with
  | some label => !isAscii label && label.flatMap foldDomainChar == label &&
      !label.any isForbiddenInDomain
  | none => false

/-- A label in ASCII. -/
def labelToAscii (label : List Char) : Except UrlError (List Char) :=
  if !isAscii label then .ok (encodedMark ++ Punycode.encode label)
  else
    match Text.after? encodedMark label with
    | some encoded => if isEncodedLabel encoded then .ok label else .error .invalidDomain
    | none => .ok label

/-- A domain name in ASCII. -/
def domainToAscii (name : List Char) : Except UrlError (List Char) := do
  let folded := name.flatMap foldDomainChar
  if folded.any isForbiddenInDomain then throw .invalidDomain
  return Text.joinWith '.' (← (Text.splitAt '.' folded).mapM labelToAscii)

end NodeClient.Url
