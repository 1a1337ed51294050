/-
  NodeClient.Url.Basic
  ────────────────────
  URLs, from their texts and back.

  A URL is kept in its normal form: scheme and host in small letters, no port that the scheme
  implies, no dot segments, and everything escaped that the part it stands in cannot hold.  Web
  addresses, the schemes `http` and `https`, always have a host and a path that starts at the
  root.
-/
import NodeClient.Url.Host
import NodeClient.Url.Path

namespace NodeClient

/-- Whom to address, and as whom. -/
structure Authority where
  username : List Char := []
  /-- A password is never empty. -/
  password : Option (List Char) := none
  host : Host
  /-- The port, unless the scheme implies it. -/
  port : Option UInt16 := none
  deriving DecidableEq

/-- A URL in normal form. -/
structure Url where
  scheme : List Char
  authority : Option Authority
  path : List Char
  query : Option (List Char) := none
  fragment : Option (List Char) := none
  deriving DecidableEq

namespace Url

/-! ## §1. Schemes. -/

/-- The port that a web scheme implies. -/
def impliedPort? (scheme : List Char) : Option UInt16 :=
  if scheme = "http".toList then some 80
  else if scheme = "https".toList then some 443
  else none

/-- Whether a scheme is one of the web. -/
def isWebScheme (scheme : List Char) : Bool := (impliedPort? scheme).isSome

/-- Whether the URL is a web address. -/
def isWeb (u : Url) : Bool := isWebScheme u.scheme

/-- Whether a character can stand in a scheme. -/
def inScheme (c : Char) : Bool := c.isAlphanum || c == '+' || c == '-' || c == '.'

/-- The scheme in front of a colon, in small letters, and what follows. -/
def cutScheme? (s : List Char) : Option (List Char × List Char) :=
  match Text.cut? ':' s with
  | some (scheme@(c :: _), rest) =>
      if c.isAlpha && scheme.all inScheme then some (scheme.map Char.toLower, rest) else none
  | _ => none

/-! ## §2. Authorities. -/

/-- What stands before and behind the last at sign. -/
def cutUserinfo? (s : List Char) : Option (List Char × List Char) :=
  match Text.cut? '@' s.reverse with
  | some (behind, before) => some (before.reverse, behind.reverse)
  | none => none

/-- The user name and the password; a password that is empty is none. -/
def readUserinfo (s : List Char) : List Char × Option (List Char) :=
  match Text.cut? ':' s with
  | none => (escape inUserinfo s, none)
  | some (username, []) => (escape inUserinfo username, none)
  | some (username, password) => (escape inUserinfo username, some (escape inUserinfo password))

/-- The host, and what stands behind the first colon outside brackets. -/
def cutPort (inside : Bool) : List Char → List Char × Option (List Char)
  | [] => ([], none)
  | c :: rest =>
      if c = ':' ∧ !inside then ([], some rest)
      else
        let inside := if c = '[' then true else if c = ']' then false else inside
        let (host, port) := cutPort inside rest
        (c :: host, port)

/-- The port, unless the scheme implies it, and what stands behind its digits. -/
def readPort (scheme : List Char) (s : List Char) :
    Except UrlError (Option UInt16 × List Char) :=
  let digits := s.takeWhile Decimal.isDigit
  let rest := s.dropWhile Decimal.isDigit
  if 65535 < Decimal.value digits then .error .invalidPort
  else if rest.head?.any (· != '\\') then .error .invalidPort
  else
    let port := UInt16.ofNat (Decimal.value digits)
    if digits.isEmpty || impliedPort? scheme = some port then .ok (none, rest)
    else .ok (some port, rest)

/-- Reads an authority.  `followed` says whether anything stands behind it in the URL.  With it
comes what of the text belongs to the path already. -/
def readAuthority (scheme : List Char) (followed : Bool) (s : List Char) :
    Except UrlError (Authority × List Char) := do
  let (userinfo, place) := match cutUserinfo? s with
    | some (userinfo, place) => (some userinfo, place)
    | none => (none, s)
  if userinfo = some [] ∧ place.isEmpty ∧ followed then throw .emptyHost
  let (username, password) := readUserinfo (userinfo.getD [])
  let (hostText, portText) := cutPort false place
  let web := isWebScheme scheme
  if web && hostText.isEmpty then throw .emptyHost
  let host ← if web then Host.ofWeb hostText else Host.ofOther hostText
  if hostText.isEmpty && portText.isSome then throw .emptyHost
  let (port, rest) ← match portText with
    | some text => readPort scheme text
    | none => pure (none, [])
  if hostText.isEmpty && (!username.isEmpty || password.isSome) then throw .emptyHost
  return ({ username, password, host, port }, rest)

/-! ## §3. Whole URLs. -/

/-- The text without controls and blanks at its ends, and without tabs and line ends
anywhere. -/
def tidy (s : List Char) : List Char :=
  let isMargin (c : Char) : Bool := c.toNat ≤ 0x20
  let trimmed := ((s.dropWhile isMargin).reverse.dropWhile isMargin).reverse
  trimmed.filter fun c => c != '\t' && c != '\n' && c != '\r'

/-- What stands before a character, and what stands behind it if it occurs. -/
def cutOff (mark : Char) (s : List Char) : List Char × Option (List Char) :=
  match Text.cut? mark s with
  | some (before, behind) => (before, some behind)
  | none => (s, none)

/-- Authority and path of a URL with an authority; `rest` starts with it. -/
def readPlace (scheme : List Char) (followed : Bool) (rest : List Char) :
    Except UrlError (Authority × List Char) := do
  let web := isWebScheme scheme
  let text := rest.takeWhile (!isSlash web ·)
  let below := rest.dropWhile (!isSlash web ·)
  let (authority, extra) ← readAuthority scheme (followed || !below.isEmpty) text
  let below := extra ++ below
  match below with
  | [] => return (authority, if web then ['/'] else [])
  | c :: inner => return (authority, pathOf web (if isSlash web c then inner else below))

/-- Reads a URL. -/
def ofChars (s : List Char) : Except UrlError Url := do
  let some (scheme, rest) := cutScheme? (tidy s) | throw .relative
  let web := isWebScheme scheme
  let (rest, fragment) := cutOff '#' rest
  let (rest, query) := cutOff '?' rest
  let followed := query.isSome || fragment.isSome
  let query := query.map (escape (if web then inWebQuery else inQuery))
  let fragment := fragment.map (escape inFragment)
  if web then
    let (authority, path) ← readPlace scheme followed (rest.dropWhile (isSlash web))
    return { scheme, authority, path, query, fragment }
  else
    match rest with
    | '/' :: '/' :: rest =>
        let (authority, path) ← readPlace scheme followed rest
        return { scheme, authority, path, query, fragment }
    | '/' :: rest => return { scheme, authority := none, path := pathOf web rest, query, fragment }
    | _ => return { scheme, authority := none, path := escape isControl rest, query, fragment }

/-- Reads a URL. -/
def parse (s : String) : Except UrlError Url := ofChars s.toList

/-- An authority as it stands in a URL. -/
def authorityChars (a : Authority) : List Char :=
  let password := match a.password with
    | some p => ':' :: p
    | none => []
  let sign := if a.username.isEmpty && a.password.isNone then [] else ['@']
  let port := match a.port with
    | some p => ':' :: (toString p.toNat).toList
    | none => []
  a.username ++ password ++ sign ++ a.host.chars ++ port

/-- The text of a URL.  A path without an authority does not start with two slashes. -/
def chars (u : Url) : List Char :=
  let place := match u.authority with
    | some a => '/' :: '/' :: authorityChars a ++ u.path
    | none => (if u.path.take 2 = ['/', '/'] then ['/', '.'] else []) ++ u.path
  let query := match u.query with
    | some q => '?' :: q
    | none => []
  let fragment := match u.fragment with
    | some f => '#' :: f
    | none => []
  u.scheme ++ ':' :: place ++ query ++ fragment

/-- The text of a URL. -/
def text (u : Url) : String := String.ofList u.chars

/-- Whether the path consists of segments. -/
def hasSegments (u : Url) : Bool := u.authority.isSome || u.path.head? = some '/'

end Url

end NodeClient
