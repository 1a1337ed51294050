/-
  NodeClient.Client.Config
  ────────────────────────
  The settings of a client, and what follows from them: where requests are sent, how that place
  is named in logs, and where the node is reached by WebSocket.

  How the text of a URL is read is left to a reader; the client uses `Url.parse`.
-/
import NodeClient.Client.Error
import NodeClient.Url.Basic

namespace NodeClient

/-! ## §1. Names for logs. -/

namespace Url

/-- What stands for a secret. -/
def veil : List Char := "xxxxx".toList

/-- A piece of a query with its value veiled; a piece without a value stays. -/
def veilPiece (piece : List Char) : List Char :=
  match Text.cut? '=' piece with
  | some (key, _) => key ++ '=' :: veil
  | none => piece

/-- A query with all its values veiled. -/
def veilQuery (query : List Char) : List Char :=
  Text.joinWith '&' ((Text.splitAt '&' query).map veilPiece)

/-- The path, veiled unless it is empty or the root. -/
def veiledPath (u : Url) : List Char :=
  if u.path = [] ∨ u.path = ['/'] then u.path
  else if u.hasSegments then '/' :: veil
  else veil

/-- The URL with the password, the path and the values of the query veiled. -/
def masked (u : Url) : Url :=
  { u with
    authority := u.authority.map fun a => { a with password := a.password.map fun _ => veil }
    path := u.veiledPath
    query := u.query.map veilQuery }

/-- The URL without one slash at the end of its path; the root of a web address stays. -/
def withoutLastSlash (u : Url) : Url :=
  if u.isWeb ∧ u.path = ['/'] then u
  else if u.path.getLast? = some '/' then { u with path := u.path.dropLast }
  else u

end Url

/-! ## §2. Addresses. -/

/-- The endpoint that an address names for a reader of URLs; `http` is assumed unless the address
starts so. -/
def endpointBy (parse : String → Except UrlError Url) (address : String) : Except UrlError Url :=
  let whole := if ("http".toList).isPrefixOf address.toList then address else "http://" ++ address
  (parse whole).map Url.withoutLastSlash

/-- The endpoint that an address names. -/
def endpointOf (address : String) : Except UrlError Url := endpointBy Url.parse address

/-- The WebSocket address that an address names: the web schemes become their WebSocket
counterparts, and `ws` is assumed unless the address starts so. -/
def websocketOf (address : String) : String :=
  let cs := address.toList
  match Text.after? "http://".toList cs, Text.after? "https://".toList cs with
  | some rest, _ => "ws://" ++ String.ofList rest
  | none, some rest => "wss://" ++ String.ofList rest
  | none, none => if ("ws".toList).isPrefixOf cs then address else "ws://" ++ address

/-! ## §3. Settings. -/

/-- What can be said about a client. -/
structure Settings where
  address : Option String := none
  /-- Where the node is reached by WebSocket; the address, if nothing is said. -/
  websocketAddress : Option String := none
  /-- How long a request may take, in nanoseconds. -/
  timeout : Nat := 2000000000
  /-- Whether the client starts while the node cannot be reached. -/
  allowDelayedStart : Bool := false
  userAgent : Option String := none
  deriving Repr, DecidableEq

/-- Settings that have been found good. -/
structure Config where
  url : Url
  /-- The endpoint as it may stand in logs. -/
  address : String
  websocketAddress : String
  timeout : Nat
  allowDelayedStart : Bool
  userAgent : String
  deriving DecidableEq

namespace Settings

/-- The user agent of a client that names none. -/
def standardUserAgent : String := "starknet-rpc-client/0.1.0"

/-- A text that says something. -/
def said (s : Option String) : Option String := s.filter (· ≠ "")

/-- The configuration that settings describe for a reader of URLs. -/
def buildBy (parse : String → Except UrlError Url) (s : Settings) :
    Except ConfigError Config := do
  let some address := said s.address | throw .noAddress
  if s.timeout = 0 then throw .noTimeout
  let url ← (endpointBy parse address).mapError .invalidAddress
  return {
    url
    address := url.masked.text
    websocketAddress := websocketOf ((said s.websocketAddress).getD address)
    timeout := s.timeout
    allowDelayedStart := s.allowDelayedStart
    userAgent := s.userAgent.getD standardUserAgent }

/-- The configuration that settings describe. -/
def build (s : Settings) : Except ConfigError Config := s.buildBy Url.parse

end Settings

end NodeClient
