/-
  NodeClient.Client.Error
  ───────────────────────
  Why a call fails, from the error object of a node up to the failure of the client, and the
  wording.
-/
import NodeClient.Client.Method
import NodeClient.Codec.Record
import NodeClient.Url.Error

namespace NodeClient

open Json

/-! ## §1. Errors of the node. -/

/-- The error object with which a node answers. -/
structure NodeError where
  code : Int
  message : String
  /-- What else the node says about it. -/
  data : Option Value
  deriving Repr, Inhabited

namespace NodeError

def record : Record NodeError where
  name := "RpcError"
  make := NodeError.mk
  fields :=
    .field (.required "code" (·.code) .i64) <|
    .field (.required "message" (·.message) .text) <|
    .field (.optional "data" (·.data) .value) .done

/-- The message with the code behind it, and with what else the node says. -/
def text (e : NodeError) : String :=
  let data := match e.data with
    | some v => ": " ++ v.compact
    | none => ""
  e.message ++ " (" ++ toString e.code ++ ")" ++ data

end NodeError

/-! ## §2. Errors on the way. -/

/-- What goes wrong before there is a whole reply. -/
inductive NetworkFault where
  /-- There is no connection. -/
  | unreachable
  /-- The connection is closed before the reply. -/
  | closed
  /-- No reply comes in time. -/
  | timedOut
  /-- The body of the reply ends too early. -/
  | cutShort
  /-- The body of the reply does not end in time. -/
  | stalled
  /-- The reply has the status of an HTTP error. -/
  | refused (status : Nat)
  deriving Repr, DecidableEq

namespace NetworkFault

/-- The status of the reply, if it is what is wrong. -/
def status? : NetworkFault → Option Nat
  | refused status => some status
  | _ => none

/-- Whether time has run out. -/
def isTimeout : NetworkFault → Bool
  | timedOut | stalled => true
  | _ => false

/-- Whether it is the body of the reply that cannot be read. -/
def isBodyFault : NetworkFault → Bool
  | cutShort | stalled => true
  | _ => false

end NetworkFault

/-- Why a reply is no JSON-RPC reply. -/
inductive ReplyFlaw where
  /-- It is no JSON. -/
  | malformed
  /-- Its error object is none. -/
  | mismatch (cause : Mismatch)
  deriving Repr

/-- The wording of each cause. -/
def ReplyFlaw.message : ReplyFlaw → String
  | .malformed => "malformed JSON"
  | .mismatch cause => cause.message

/-- Why a request has no result. -/
inductive TransportError where
  | network (fault : NetworkFault)
  | node (e : NodeError)
  | undecodable (flaw : ReplyFlaw)
  /-- The reply is JSON, but neither a result nor an error object. -/
  | invalid (reason : String)
  deriving Repr

namespace TransportError

/-- The wording of each cause; that of the network is left to the one who reports it. -/
def message? : TransportError → Option String
  | network _ => none
  | node e => some e.text
  | undecodable _ => some "failed to decode JSON-RPC response"
  | invalid reason => some ("invalid JSON-RPC response: " ++ reason)

end TransportError

/-! ## §3. Errors of the client. -/

/-- Why a client cannot be set up. -/
inductive ConfigError where
  | noAddress
  | noTimeout
  | invalidAddress (cause : UrlError)
  /-- The user agent cannot stand in a header. -/
  | httpClient
  deriving Repr, DecidableEq

namespace ConfigError

/-- The wording of each cause. -/
def message : ConfigError → String
  | noAddress => "no address specified"
  | noTimeout => "no timeout specified"
  | invalidAddress _ => "invalid address"
  | httpClient => "failed to create HTTP client"

/-- Whether another error is behind it. -/
def hasCause : ConfigError → Bool
  | invalidAddress _ | httpClient => true
  | noAddress | noTimeout => false

end ConfigError

/-- Why a call of the client fails. -/
inductive ClientError where
  /-- The request is not worth sending. -/
  | invalidOptions (reason : String)
  | notActive
  | notSynced
  | callFailed (method : Method) (cause : TransportError)
  /-- The result is not what the method returns. -/
  | undecodable (method : Method) (cause : Mismatch)
  | unencodable (method : Method) (cause : Mismatch)
  | cancelled
  | misconfigured (cause : ConfigError)
  deriving Repr

namespace ClientError

/-- The wording of each cause. -/
def message : ClientError → String
  | invalidOptions reason => "invalid options: " ++ reason
  | notActive => "client not active"
  | notSynced => "client not synced"
  | callFailed method _ => method.name ++ " call failed"
  | undecodable method _ => "failed to decode " ++ method.name ++ " reply"
  | unencodable method _ => "failed to encode " ++ method.name ++ " parameters"
  | cancelled => "call cancelled"
  | misconfigured cause => cause.message

/-- Whether another error is behind it. -/
def hasCause : ClientError → Bool
  | callFailed _ _ | undecodable _ _ | unencodable _ _ => true
  | misconfigured cause => cause.hasCause
  | invalidOptions _ | notActive | notSynced | cancelled => false

/-- The error object with which the node has answered. -/
def nodeError? : ClientError → Option NodeError
  | callFailed _ (.node e) => some e
  | _ => none

end ClientError

end NodeClient
