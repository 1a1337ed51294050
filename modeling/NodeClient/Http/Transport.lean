/-
  NodeClient.Http.Transport
  ─────────────────────────
  JSON-RPC over HTTP: the requests that are sent, and what is told about them.
-/
import NodeClient.Client.Config
import NodeClient.Client.Log
import NodeClient.Http.Outcome
import NodeClient.Text.Base64
import NodeClient.Text.Utf8

namespace NodeClient.Http

open Json

/-! ## §1. The transport of a client. -/

/-- A transport, with the number of its next request. -/
structure Transport where
  url : Url
  /-- The endpoint as it may stand in logs. -/
  address : String
  userAgent : String
  nextId : Nat := 1

/-- Whether a text can be the value of a header. -/
def isHeaderValue (s : String) : Bool :=
  s.toUTF8.toList.all fun b => (32 ≤ b && b ≠ 127) || b == 9

/-- The transport of a client.  Its user agent has to be the value of a header. -/
def Transport.ofConfig (c : Config) : Except ConfigError Transport :=
  if isHeaderValue c.userAgent then
    .ok { url := c.url, address := c.address, userAgent := c.userAgent }
  else .error .httpClient

/-! ## §2. Requests. -/

/-- The JSON-RPC request with a number. -/
def envelope (id : Nat) (m : Method) (params : Value) : Value :=
  .object [
    ("id", .ofNat id), ("jsonrpc", .string "2.0"), ("method", .string m.name),
    ("params", params.normal)]

/-- A request as a server receives it. -/
structure Request where
  line : String
  userAgent : String
  contentType : String
  authorization : Option String
  body : Value

/-- The credentials of an endpoint, as a header tells them.  A user name or a password that is no
text in UTF-8 when it is unescaped does not count. -/
def authorizationOf (u : Url) : Option String := do
  let a ← u.authority
  let text (s : List Char) : Option String :=
    String.fromUTF8? (ByteArray.mk (Url.unescape s).toArray)
  let username ← text a.username
  let password := a.password.bind text
  if username.isEmpty && password.isNone then none
  else
    let pair := username ++ ":" ++ password.getD ""
    return "Basic " ++ String.ofList (Text.Base64.encode pair.toUTF8.toList)

/-- The endpoint without its credentials. -/
def bareUrl (u : Url) : Url :=
  { u with authority := u.authority.map fun a => { a with username := [], password := none } }

/-- What a server is asked for. -/
def targetOf (u : Url) : String :=
  let query := match u.query with
    | some q => '?' :: q
    | none => []
  String.ofList (u.path ++ query)

/-- The next request as a server receives it. -/
def Transport.request (t : Transport) (m : Method) (params : Value) : Request where
  line := "POST " ++ targetOf t.url ++ " HTTP/1.1"
  userAgent := t.userAgent
  contentType := "application/json"
  authorization := authorizationOf t.url
  body := envelope t.nextId m params

/-- Only web addresses can be reached. -/
def Transport.canSend (t : Transport) : Bool := t.url.isWeb

/-- The transport after a request. -/
def Transport.sent (t : Transport) : Transport := { t with nextId := t.nextId + 1 }

/-! ## §3. What is told. -/

/-- A request is about to be sent. -/
def Transport.sendingEntry (t : Transport) (m : Method) (params : Value) : LogEntry where
  level := .trace
  message := "Sending JSON-RPC request"
  fields := [
    ("address", .string t.address),
    ("request", .string (envelope t.nextId m params).compact)]

/-- A reply has been received. -/
def Transport.receivedEntry (t : Transport) (r : Reply) : LogEntry where
  level := .trace
  message := "Received JSON-RPC response"
  fields := [
    ("address", .string t.address),
    ("status", .string (statusText r.status)),
    ("body", .string (Text.ofBytes r.body))]

end NodeClient.Http
